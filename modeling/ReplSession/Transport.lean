import ReplSession.Channels
import ReplSession.Lifecycle

namespace ReplSession

namespace Sched

variable {x : Sched}

-- A pending launch that resolves with a kernel installs it on its own channel, hands nothing
-- on, and cancels no send queued on it.
theorem Wf.launchDone_ok (h : x.Wf) {t : Nat} (hl : (t, .launch) ∈ x.tasks) (state : ExecutionState) :
    (x.launchDone t (.ok state)).kernel = .runningKernel ⟨t, state, none⟩ ∧
      (x.launchDone t (.ok state)).requests = x.requests ∧ t ∈ (x.launchDone t (.ok state)).resolved ∧
      ∀ q m, (q, .queuedSend t m) ∈ x.tasks → (q, .queuedSend t m) ∈ (x.launchDone t (.ok state)).tasks := by
  let z : Sched := { x.finish t with resolved := x.resolved ++ [t] }
  have hy : x.launchDone t (.ok state) = z.setKernel (.runningKernel ⟨t, state, none⟩) := by
    simp only [Sched.launchDone, h.lookup_eq hl]; rfl
  refine ⟨by rw [hy, setKernel_kernel], by rw [hy, setKernel_requests]; rfl,
    by rw [hy, setKernel_resolved]; exact List.mem_append_right _ (List.mem_singleton_self _),
    fun q m hq => ?_⟩
  -- the queued send is neither the launch itself nor the launch of the kernel it replaces
  have hqt : q ≠ t := fun hqt => by cases h.eq_of_mem hq hl hqt
  rw [hy]
  refine Sched.mem_dropKernel ({ z with kernel := .runningKernel ⟨t, state, none⟩ } : Sched)
    (mem_finish.mpr ⟨hq, hqt⟩) fun t' hk hqt' => ?_
  subst hqt'
  rcases h.kernel.2 q hk with hq' | hq'
  · cases h.eq_of_mem hq hq' rfl
  · exact h.unresolved _ hq hq'

-- A starting kernel whose launch a queued send awaits is restarted without cancelling the launch.
theorem restart_of_awaited {t q : Nat} {m : JupyterMessage} (hk : x.kernel = .startingKernel t)
    (hq : (q, .queuedSend t m) ∈ x.tasks) :
    x.restart = { x with kernel := .startingKernel x.nextTask,
                         tasks := x.tasks ++ [(x.nextTask, .launch)], nextTask := x.nextTask + 1 } := by
  have hany : (x.tasks ++ [(x.nextTask, Continuation.launch)]).any (fun e => e.2.awaits t) = true :=
    List.any_eq_true.mpr ⟨_, List.mem_append_left _ hq, by simp [Continuation.awaits]⟩
  simp only [Sched.restart, hk, Sched.startKernel, Sched.spawn, Sched.setKernel, Sched.dropKernel, hany,
    if_true]

-- No pending task awaits a launch that has not been spawned yet.
theorem Wf.not_awaits_next (h : x.Wf) : ∀ e ∈ x.tasks, e.2.awaits x.nextTask = false := by
  rintro ⟨q, c⟩ he
  cases c with
  | queuedSend t m =>
      have ht : t < x.nextTask := (h.queued q t m he).1.elim (h.task_lt _) (h.resolved_lt _)
      simpa [Continuation.awaits] using Nat.ne_of_lt ht
  | _ => rfl

theorem dropKernel_starting {n : Nat} (hno : ∀ e ∈ x.tasks, e.2.awaits n = false) :
    x.dropKernel (.startingKernel n) = x.finish n := by
  have hany : (x.tasks.any fun e => e.2.awaits n) = false := List.any_eq_false.mpr (by simpa using hno)
  simp only [Sched.dropKernel, hany, Bool.false_eq_true, if_false]

-- A launch that resolves with a kernel cancels the launch of the starting kernel it replaces,
-- unless a queued send awaits it.
theorem Wf.launchDone_cancels (h : x.Wf) {t n : Nat} (hl : (t, .launch) ∈ x.tasks)
    (hk : x.kernel = .startingKernel n) (hno : ∀ e ∈ x.tasks, e.2.awaits n = false)
    (state : ExecutionState) (c : Continuation) : (n, c) ∉ (x.launchDone t (.ok state)).tasks := by
  let z : Sched := { x.finish t with resolved := x.resolved ++ [t] }
  have hy : x.launchDone t (.ok state) =
      ({ z with kernel := .runningKernel ⟨t, state, none⟩ } : Sched).dropKernel (.startingKernel n) := by
    simp only [Sched.launchDone, h.lookup_eq hl, Sched.launchCompleted, Sched.setKernel, finish_kernel, hk]
  rw [hy, dropKernel_starting]
  · exact fun hn => (mem_finish.mp hn).2 rfl
  · exact fun e he => hno e (mem_finish.mp he).1

-- A restart while a queued send awaits the starting kernel's launch starts a new launch, but the
-- old one still runs: when it resolves with a kernel, that kernel is installed and the new launch
-- is cancelled.
theorem Wf.restart_awaited (h : x.Wf) {t q : Nat} {m : JupyterMessage}
    (hk : x.kernel = .startingKernel t) (hq : (q, .queuedSend t m) ∈ x.tasks) (ht : t ∉ x.resolved)
    (state : ExecutionState) :
    x.restart.kernel = .startingKernel x.nextTask ∧ (x.nextTask, .launch) ∈ x.restart.tasks ∧
      (x.restart.launchDone t (.ok state)).kernel = .runningKernel ⟨t, state, none⟩ ∧
      (x.nextTask, .launch) ∉ (x.restart.launchDone t (.ok state)).tasks := by
  have hr := restart_of_awaited hk hq
  have hl : (t, .launch) ∈ x.restart.tasks := by
    rw [hr]; exact List.mem_append_left _ ((h.queued q t m hq).1.resolve_right ht)
  refine ⟨by rw [hr], by rw [hr]; exact List.mem_append_right _ (List.mem_singleton_self _),
    (h.restart.launchDone_ok hl state).1, h.restart.launchDone_cancels hl (by rw [hr]) ?_ state _⟩
  -- nothing awaits the launch the restart started
  rw [hr]
  intro e he
  rcases List.mem_append.mp he with he | he
  · exact h.not_awaits_next e he
  · rw [List.mem_singleton.mp he]; rfl

end Sched

/-! What the kernels' channels receive. -/

-- A kernel's channel receives nothing after a `ShutdownRequest`: each kernel is asked to shut
-- down at most once and told nothing more afterwards. The running kernel has not been asked.
theorem shutdown_request_ends_channel {s : Session} (hs : Reachable s) :
    (∀ t pre m post, sentTo s.requests t = pre ++ m :: post →
      m.content.isShutdownRequest = true → post = []) ∧
    ∀ k, s.kernel = .runningKernel k →
      ∀ m ∈ sentTo s.requests k.transport, m.content.isShutdownRequest = false := by
  have hwf := hs.sched_wf
  refine ⟨fun t pre m post hsplit hm => ?_, fun k hk => (hwf.kernel.1 k hk).2.1⟩
  cases post with
  | nil => rfl
  | cons p post =>
      have hlast := hwf.last t m (by
        rw [Session.sched_requests, hsplit, List.dropLast_append_cons, List.dropLast_cons₂]
        exact List.mem_append_right _ (List.mem_cons_self _ _))
      rw [hm] at hlast
      cases hlast

-- After a launch, a shutdown and the first segment of its grace period.
theorem shutdown_request_ends_channel_after_shutdown :
    let s := (Session.new ⟨"x".toList, fun _ => true⟩).run
      [.launchDone 1 (.ok .idle), .shutdown, .wake 2 "s"]
    Reachable s ∧ sentTo s.requests 1 = [⟨⟨"s"⟩, none, .shutdownRequest false⟩] ∧
      ((∀ t pre m post, sentTo s.requests t = pre ++ m :: post →
        m.content.isShutdownRequest = true → post = []) ∧
      ∀ k, s.kernel = .runningKernel k →
        ∀ m ∈ sentTo s.requests k.transport, m.content.isShutdownRequest = false) :=
  ⟨(Reachable.new _).run _, by decide, shutdown_request_ends_channel ((Reachable.new _).run _)⟩

-- The editor's state never bears on the kernels: two sessions that agree on their kernel,
-- pending continuations, resolved launches, requests and workspace agree on them after any
-- run, whatever their blocks, buffers, views and selections.
theorem kernel_traffic_independent_of_editor (s s' : Session) (h : s.sched = s'.sched)
    (actions : List Action) : (s.run actions).sched = (s'.run actions).sched := by
  rw [Session.run_sched, Session.run_sched, h]

-- A fresh session, and the same session on another buffer with other views.
theorem kernel_traffic_independent_of_editor_on_two_buffers :
    let s := Session.new ⟨"x".toList, fun _ => true⟩
    let s' : Session := { s with buffer := ⟨"y\nz".toList, fun _ => false⟩,
                                 views := fun _ => ExecutionView.new .finished }
    let actions : List Action := [.execute "x" ⟨⟨0⟩, ⟨1⟩⟩ none false "a", .launchDone 1 (.ok .idle),
      .wake 2 "w"]
    s.sched = s'.sched ∧ (s.run actions).sched = (s'.run actions).sched :=
  ⟨rfl, kernel_traffic_independent_of_editor _ _ rfl _⟩

-- An execution queued on a pending launch is not lost: when the launch resolves with a kernel
-- and the queued send then runs, the request reaches that kernel's channel and the send is gone.
theorem queued_execution_reaches_launched_kernel {s : Session} (hs : Reachable s) {q t : Nat}
    {message : JupyterMessage} (hq : (q, .queuedSend t message) ∈ s.tasks) (ht : t ∉ s.resolved)
    (state : ExecutionState) (msgId : String) :
    let u := (s.step (.launchDone t (.ok state))).step (.wake q msgId)
    u.kernel = .runningKernel ⟨t, state, none⟩ ∧ u.requests = s.requests ++ [(t, message)] ∧
      u.tasks.lookup q = none := by
  have hwf := hs.sched_wf
  have hl : (t, .launch) ∈ s.tasks := (hwf.queued q t message hq).1.resolve_right ht
  obtain ⟨hk, hreq, hres, hmem⟩ := hwf.launchDone_ok hl state
  set s₁ := s.step (.launchDone t (.ok state)) with hs₁
  have hsched : s₁.sched = s.sched.launchDone t (.ok state) := s.step_sched _
  have hk₁ : s₁.kernel = .runningKernel ⟨t, state, none⟩ := by
    rw [← Session.sched_kernel, hsched, hk]
  have hq₁ : s₁.tasks.lookup q = some (.queuedSend t message) :=
    (hs.step _).sched_wf.lookup_eq (by rw [hsched]; exact hmem q message hq)
  obtain ⟨hreq₂, hlook₂⟩ := s₁.wake_queuedSend hq₁ (by rw [← Session.sched_resolved, hsched]; exact hres)
    hk₁ rfl msgId
  refine ⟨?_, ?_, hlook₂⟩
  · rw [(s₁.step_control _).1]; simp [controlStep, hq₁, hk₁]
  · show (s₁.wake q msgId).requests = _
    rw [hreq₂, ← Session.sched_requests s₁, hsched, hreq, Session.sched_requests]

-- An execute request queued while the first kernel starts.
theorem queued_execution_reaches_launched_kernel_on_startup :
    let s := (Session.new ⟨"x".toList, fun _ => true⟩).run [.execute "x" ⟨⟨0⟩, ⟨1⟩⟩ none false "a"]
    let message : JupyterMessage := ⟨⟨"a"⟩, none, .executeRequest "x"⟩
    Reachable s ∧ (2, .queuedSend 1 message) ∈ s.tasks ∧ 1 ∉ s.resolved ∧
      (let u := (s.step (.launchDone 1 (.ok .idle))).step (.wake 2 "w")
       u.kernel = .runningKernel ⟨1, .idle, none⟩ ∧ u.requests = s.requests ++ [(1, message)] ∧
        u.tasks.lookup 2 = none) :=
  have hs := (Reachable.new ⟨"x".toList, fun _ => true⟩).run [.execute "x" ⟨⟨0⟩, ⟨1⟩⟩ none false "a"]
  have hq : (2, Continuation.queuedSend 1 ⟨⟨"a"⟩, none, .executeRequest "x"⟩) ∈
      ((Session.new ⟨"x".toList, fun _ => true⟩).run [.execute "x" ⟨⟨0⟩, ⟨1⟩⟩ none false "a"]).tasks := by
    decide
  have ht : 1 ∉ ((Session.new ⟨"x".toList, fun _ => true⟩).run
      [.execute "x" ⟨⟨0⟩, ⟨1⟩⟩ none false "a"]).resolved := by decide
  ⟨hs, hq, ht, queued_execution_reaches_launched_kernel hs hq ht .idle "w"⟩

-- A restart does not supersede a launch on which an execution is queued: the restart starts a
-- new launch, but the old one still runs, and when it resolves with a kernel that kernel is
-- installed and the restart's launch is cancelled.
theorem queued_launch_outlives_restart {s : Session} (hs : Reachable s) {t q : Nat}
    {message : JupyterMessage} (hk : s.kernel = .startingKernel t)
    (hq : (q, .queuedSend t message) ∈ s.tasks) (ht : t ∉ s.resolved) (state : ExecutionState) :
    let r := s.step .restart
    let u := r.step (.launchDone t (.ok state))
    r.kernel = .startingKernel s.nextTask ∧ (s.nextTask, .launch) ∈ r.tasks ∧
      u.kernel = .runningKernel ⟨t, state, none⟩ ∧ (s.nextTask, .launch) ∉ u.tasks := by
  have hx := hs.sched_wf.restart_awaited (show s.sched.kernel = _ from hk) hq ht state
  have hr : (s.step .restart).sched = s.sched.restart := s.step_sched _
  have hu : ((s.step .restart).step (.launchDone t (.ok state))).sched =
      s.sched.restart.launchDone t (.ok state) := by
    rw [Session.step_sched, hr]; rfl
  exact ⟨by rw [← Session.sched_kernel, hr]; exact hx.1, by rw [← Session.sched_tasks, hr]; exact hx.2.1,
    by rw [← Session.sched_kernel, hu]; exact hx.2.2.1, by rw [← Session.sched_tasks, hu]; exact hx.2.2.2⟩

-- A restart while the first kernel starts, with an execution queued on its launch.
theorem queued_launch_outlives_restart_on_startup :
    let s := (Session.new ⟨"x".toList, fun _ => true⟩).run [.execute "x" ⟨⟨0⟩, ⟨1⟩⟩ none false "a"]
    let message : JupyterMessage := ⟨⟨"a"⟩, none, .executeRequest "x"⟩
    Reachable s ∧ s.kernel = .startingKernel 1 ∧ (2, .queuedSend 1 message) ∈ s.tasks ∧
      1 ∉ s.resolved ∧
      (let r := s.step .restart
       let u := r.step (.launchDone 1 (.ok .idle))
       r.kernel = .startingKernel s.nextTask ∧ (s.nextTask, .launch) ∈ r.tasks ∧
        u.kernel = .runningKernel ⟨1, .idle, none⟩ ∧ (s.nextTask, .launch) ∉ u.tasks) :=
  have hs := (Reachable.new ⟨"x".toList, fun _ => true⟩).run [.execute "x" ⟨⟨0⟩, ⟨1⟩⟩ none false "a"]
  have hk : ((Session.new ⟨"x".toList, fun _ => true⟩).run
      [.execute "x" ⟨⟨0⟩, ⟨1⟩⟩ none false "a"]).kernel = .startingKernel 1 := by decide
  have hq : (2, Continuation.queuedSend 1 ⟨⟨"a"⟩, none, .executeRequest "x"⟩) ∈
      ((Session.new ⟨"x".toList, fun _ => true⟩).run [.execute "x" ⟨⟨0⟩, ⟨1⟩⟩ none false "a"]).tasks := by
    decide
  have ht : 1 ∉ ((Session.new ⟨"x".toList, fun _ => true⟩).run
      [.execute "x" ⟨⟨0⟩, ⟨1⟩⟩ none false "a"]).resolved := by decide
  ⟨hs, hk, hq, ht, queued_launch_outlives_restart hs hk hq ht .idle⟩

end ReplSession

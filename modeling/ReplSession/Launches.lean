import ReplSession.Channels

namespace ReplSession

namespace Sched

-- A queued send awaits launch `t`.
def Awaited (x : Sched) (t : Nat) : Prop :=
  ∃ q message, (q, .queuedSend t message) ∈ x.tasks

-- Every pending launch task is held: by the starting kernel, by the kernel `dropped` that is about
-- to be dropped, or by a queued send. Rust drops a shared task with its last handle.
def HeldBy (x : Sched) (dropped : Kernel) : Prop :=
  ∀ t, (t, .launch) ∈ x.tasks →
    x.kernel = .startingKernel t ∨ dropped = .startingKernel t ∨ x.Awaited t

-- Every pending launch task is the starting kernel's or awaited by a queued send.
def Held (x : Sched) : Prop :=
  ∀ t, (t, .launch) ∈ x.tasks → x.kernel = .startingKernel t ∨ x.Awaited t

-- The only task that may share its id with a starting kernel's launch is that launch.
def LaunchesOwnIds (x : Sched) (kernel : Kernel) : Prop :=
  ∀ t, kernel = .startingKernel t → ∀ e ∈ x.tasks, e.1 = t → e.2 = .launch

variable {x y : Sched}

-- Dropping a kernel keeps every queued send: it cancels at most a launch.
theorem Awaited.dropKernel {kernel : Kernel} (hown : x.LaunchesOwnIds kernel) {t : Nat}
    (ha : x.Awaited t) : (x.dropKernel kernel).Awaited t := by
  obtain ⟨q, message, hq⟩ := ha
  refine ⟨q, message, mem_dropKernel x hq fun t' hk hqt => ?_⟩
  cases hown t' hk _ hq hqt

-- Dropping the kernel a launch was held by cancels it unless a queued send awaits it.
theorem HeldBy.dropKernel {kernel : Kernel} (hh : x.HeldBy kernel) (hown : x.LaunchesOwnIds kernel) :
    (x.dropKernel kernel).Held := by
  intro t ht
  have ht' := mem_of_mem_dropKernel ht
  rcases hh t ht' with hk | hk | ha
  · exact .inl (by rw [dropKernel_kernel]; exact hk)
  · subst hk
    by_cases hc : x.tasks.any fun e => e.2.awaits t
    · obtain ⟨⟨q, c⟩, hq, hqa⟩ := List.any_eq_true.mp hc
      cases c with
      | queuedSend launch message =>
          simp only [Continuation.awaits, beq_iff_eq] at hqa
          subst hqa
          exact .inr (Awaited.dropKernel hown ⟨q, message, hq⟩)
      | _ => cases hqa
    · simp only [Sched.dropKernel, hc, Bool.false_eq_true, if_false] at ht
      exact absurd rfl (mem_finish.mp ht).2
  · exact .inr (ha.dropKernel hown)

theorem Wf.launchesOwnIds (h : x.Wf) : x.LaunchesOwnIds x.kernel := by
  intro t hk e he hid
  rcases h.kernel.2 t hk with hl | hr
  · rw [h.eq_of_mem he hl hid]
  · exact absurd (hid ▸ hr) (h.unresolved e he)

-- A change that keeps the starting kernel, cancels no task and keeps every queued send.
theorem Held.of_frame (hh : x.Held)
    (hk : ∀ t, x.kernel = .startingKernel t → y.kernel = .startingKernel t)
    (hl : ∀ t, (t, .launch) ∈ y.tasks → (t, .launch) ∈ x.tasks)
    (ha : ∀ t, x.Awaited t → y.Awaited t) : y.Held :=
  fun t ht => (hh t (hl t ht)).imp (hk t) (ha t)

theorem Held.setKernelField (hh : x.Held) {kernel : Kernel}
    (hk : ∀ t, x.kernel = .startingKernel t → kernel = .startingKernel t) :
    ({ x with kernel := kernel } : Sched).Held :=
  hh.of_frame hk (fun _ => id) fun _ => id

theorem Held.spawn (hh : x.Held) {c : Continuation} (hc : c ≠ .launch) : (x.spawn c).2.Held :=
  hh.of_frame (fun _ => id)
    (fun _ ht => (mem_spawn.mp ht).elim id fun he => absurd (congrArg Prod.snd he).symm hc)
    fun _ ⟨q, m, hq⟩ => ⟨q, m, mem_spawn.mpr (.inl hq)⟩

theorem Held.send (hh : x.Held) (message : JupyterMessage) : (x.send message).Held := by
  unfold Sched.send
  split <;> exact hh

-- Finishing a task keeps every launch held, unless the task was the last queued send on it
-- and the launch has already resolved.
theorem Held.finish (hh : x.Held) {task : Nat}
    (hq : ∀ t m, (task, .queuedSend t m) ∈ x.tasks → (t, .launch) ∉ x.tasks) :
    (x.finish task).Held := by
  intro t ht
  obtain ⟨hmem, -⟩ := mem_finish.mp ht
  rcases hh t hmem with hk | ⟨q, m, hqm⟩
  · exact .inl hk
  · by_cases hqt : q = task
    · subst hqt; exact absurd hmem (hq t m hqm)
    · exact .inr ⟨q, m, mem_finish.mpr ⟨hqm, hqt⟩⟩

theorem Held.finish_of_mem (hh : x.Held) (h : x.Wf) {task : Nat} {c : Continuation}
    (hc : (task, c) ∈ x.tasks) (hne : ∀ t m, c ≠ .queuedSend t m) : (x.finish task).Held :=
  hh.finish fun t m hq => absurd (congrArg Prod.snd (h.eq_of_mem hq hc rfl)).symm (hne t m)

theorem LaunchesOwnIds.finish {kernel : Kernel} (hown : x.LaunchesOwnIds kernel) (task : Nat) :
    (x.finish task).LaunchesOwnIds kernel :=
  fun t hk e he => hown t hk e (mem_finish.mp he).1

theorem Held.setKernel (hh : x.Held) (hown : x.LaunchesOwnIds x.kernel) (kernel : Kernel) :
    (x.setKernel kernel).Held :=
  HeldBy.dropKernel (show Sched.HeldBy { x with kernel := kernel } x.kernel from
    fun t ht => (hh t ht).elim (.inr ∘ .inl) (.inr ∘ .inr)) hown

-- The kernel a new launch replaces holds its own launch until it is dropped.
theorem Held.startKernel (hh : x.Held) (hown : x.LaunchesOwnIds x.kernel) : x.startKernel.Held := by
  have hby : Sched.HeldBy { (x.spawn .launch).2 with kernel := .startingKernel x.nextTask } x.kernel := by
    intro t ht
    rcases mem_spawn.mp ht with ht | ht
    · exact (hh t ht).elim (.inr ∘ .inl) fun ⟨q, m, hq⟩ => .inr (.inr ⟨q, m, mem_spawn.mpr (.inl hq)⟩)
    · cases ht; exact .inl rfl
  exact hby.dropKernel fun t hk e he hid =>
    (mem_spawn.mp he).elim (hown t hk e · hid) fun he => by rw [he]

/-! The executor's methods keep every pending launch held. -/

theorem Held.dispatch (hh : x.Held) (message : JupyterMessage) : (x.dispatch message).Held := by
  unfold Sched.dispatch
  split
  · exact hh.send message
  · exact hh.spawn nofun
  · exact hh

theorem Held.execute (hh : x.Held) (code msgId : String) : (x.execute code msgId).Held := by
  unfold Sched.execute
  split
  · exact hh
  · split
    · exact hh.dispatch _
    · exact hh

theorem Held.route (hh : x.Held) (message : JupyterMessage) : (x.route message).Held := by
  unfold Sched.route
  split
  · exact hh
  · split
    · exact hh.setKernelField fun t hk => by rw [hk]; rfl
    · exact hh.setKernelField fun t hk => by rw [hk]; rfl
    · exact hh

theorem Held.interrupt (hh : x.Held) (msgId : String) : (x.interrupt msgId).Held := by
  unfold Sched.interrupt
  split
  · exact hh.send _
  all_goals exact hh

theorem Held.shutdown (hh : x.Held) (h : x.Wf) : x.shutdown.Held := by
  dsimp only [Sched.shutdown]
  split
  · next hk => exact (hh.setKernelField fun t ht => absurd (hk.symm.trans ht) nofun).spawn nofun
  · exact hh.setKernel h.launchesOwnIds .shutdown

theorem Held.restart (hh : x.Held) (h : x.Wf) : x.restart.Held := by
  dsimp only [Sched.restart]
  split
  · next hk => exact hh.setKernelField fun t ht => absurd (hk.symm.trans ht) nofun
  · next hk => exact (hh.setKernelField fun t ht => absurd (hk.symm.trans ht) nofun).spawn nofun
  · exact hh.startKernel h.launchesOwnIds

-- A resolved launch leaves the tasks; the kernel it installs takes the starting kernel's place.
theorem Held.launchDone (hh : x.Held) (h : x.Wf) (task : Nat) (result : Except String ExecutionState) :
    (x.launchDone task result).Held := by
  unfold Sched.launchDone
  split
  · have ht := mem_of_lookup_eq_some ‹_›
    have hz : Sched.Held { x.finish task with resolved := x.resolved ++ [task] } :=
      hh.finish_of_mem h ht nofun
    have hown : Sched.LaunchesOwnIds { x.finish task with resolved := x.resolved ++ [task] } x.kernel :=
      h.launchesOwnIds.finish task
    -- either outcome replaces the starting kernel
    cases result <;> exact hz.setKernel hown _
  · exact hh

theorem Held.resume (hh : x.Held) (h : x.Wf) {task : Nat} {c : Continuation}
    (hc : (task, c) ∈ x.tasks) (msgId : String) : (x.resume task msgId c).Held := by
  -- a grace period's entry is the only one with its id, and it is neither launch nor send
  have hgrace : ∀ c', c' ≠ .launch → (∀ t m, c ≠ .queuedSend t m) → (x.setTask task c').Held :=
    fun c' hc' hq => hh.of_frame (fun _ => id)
      (fun t ht => ((mem_setTask hc).mp ht).elim And.left
        fun he => absurd (congrArg Prod.snd he).symm hc')
      fun t ⟨q, m, hqm⟩ => ⟨q, m, (mem_setTask hc).mpr (.inl ⟨hqm, fun hid =>
        hq t m (congrArg Prod.snd (h.eq_of_mem hc hqm hid.symm))⟩)⟩
  cases c with
  | launch => exact hh
  | queuedSend t m =>
      show (if t ∈ x.resolved then (x.finish task).send m else x).Held
      split
      · next hres =>
          refine (hh.finish fun t' m' hq => ?_).send m
          cases h.eq_of_mem hq hc rfl
          exact fun hl => h.unresolved _ hl hres
      · exact hh
  | shutdownGrace requestTx requested =>
      cases requested
      · exact hgrace _ nofun nofun
      · exact (hh.finish_of_mem h hc nofun).setKernel (h.launchesOwnIds.finish task) .shutdown
  | restartGrace requestTx requested =>
      cases requested
      · exact hgrace _ nofun nofun
      · exact (hh.finish_of_mem h hc nofun).startKernel (h.launchesOwnIds.finish task)

theorem Held.wake (hh : x.Held) (h : x.Wf) (task : Nat) (msgId : String) : (x.wake task msgId).Held := by
  unfold Sched.wake
  split
  · exact hh.resume h (mem_of_lookup_eq_some ‹_›) msgId
  · exact hh

theorem Held.step (hh : x.Held) (h : x.Wf) (a : Action) : (x.step a).Held := by
  cases a with
  | execute code _ _ _ msgId => exact hh.execute code msgId
  | route message => exact hh.route message
  | interrupt msgId => exact hh.interrupt msgId
  | shutdown => exact hh.shutdown h
  | restart => exact hh.restart h
  | kernelErrored errorMessage => exact hh.setKernel h.launchesOwnIds _
  | launchDone task result => exact hh.launchDone h task result
  | wake task msgId => exact hh.wake h task msgId
  | bufferEvent _ | clearOutputs | close _ | edit _ | dropWorkspace => exact hh

end Sched

theorem Reachable.sched_held {s : Session} (hs : Reachable s) : s.sched.Held := by
  induction hs with
  | new buffer =>
      rw [Session.new, Session.startKernel_sched]
      exact Sched.Held.startKernel (fun _ h => absurd h (List.not_mem_nil _))
        fun _ _ _ h => absurd h (List.not_mem_nil _)
  | step a hs ih => rw [Session.step_sched]; exact ih.step hs.sched_wf a

-- No launch task is left running for nobody: a pending launch is the starting kernel's, or an
-- execution queued while it started still awaits it.
theorem pending_launch_is_held {s : Session} (hs : Reachable s) {t : Nat} (ht : (t, .launch) ∈ s.tasks) :
    s.kernel = .startingKernel t ∨ ∃ q message, (q, .queuedSend t message) ∈ s.tasks :=
  hs.sched_held t ht

-- A restart while the first kernel starts, with an execution queued on its launch: the old
-- launch is held by the queued send alone.
theorem pending_launch_is_held_after_restart :
    let s := (Session.new ⟨"x".toList, fun _ => true⟩).run
      [.execute "x" ⟨⟨0⟩, ⟨1⟩⟩ none false "a", .restart]
    Reachable s ∧ (1, .launch) ∈ s.tasks ∧
      (s.kernel = .startingKernel 1 ∨ ∃ q message, (q, .queuedSend 1 message) ∈ s.tasks) :=
  have hs := (Reachable.new ⟨"x".toList, fun _ => true⟩).run
    [.execute "x" ⟨⟨0⟩, ⟨1⟩⟩ none false "a", .restart]
  have ht : (1, Continuation.launch) ∈ ((Session.new ⟨"x".toList, fun _ => true⟩).run
      [.execute "x" ⟨⟨0⟩, ⟨1⟩⟩ none false "a", .restart]).tasks := by decide
  ⟨hs, ht, pending_launch_is_held hs ht⟩

end ReplSession

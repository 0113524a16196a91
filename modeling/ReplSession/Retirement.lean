import ReplSession.Transport

namespace ReplSession

theorem Kernel.transport_of_setExecutionState {kernel : Kernel} {state : ExecutionState}
    {k : RunningKernel} (h : kernel.setExecutionState state = .runningKernel k) :
    ∃ k', kernel = .runningKernel k' ∧ k'.transport = k.transport := by
  cases kernel with
  | runningKernel k' => cases h; exact ⟨k', rfl, rfl⟩
  | _ => cases h

theorem Kernel.transport_of_setKernelInfo {kernel : Kernel} {languageName : String}
    {k : RunningKernel} (h : kernel.setKernelInfo languageName = .runningKernel k) :
    ∃ k', kernel = .runningKernel k' ∧ k'.transport = k.transport := by
  cases kernel with
  | runningKernel k' => cases h; exact ⟨k', rfl, rfl⟩
  | _ => cases h

namespace Sched

-- Channel `t` is retired: its launch has resolved, and the kernel does not run on it.
def Retired (x : Sched) (t : Nat) : Prop :=
  t ∈ x.resolved ∧ ∀ k, x.kernel = .runningKernel k → k.transport ≠ t

-- From `x` to `y`, a retired channel stays retired and is handed nothing but shutdown requests.
structure Spares (t : Nat) (x y : Sched) : Prop where
  retired : x.Retired t → y.Retired t
  requests : x.Retired t → ∃ l, sentTo y.requests t = sentTo x.requests t ++ l ∧
    ∀ m ∈ l, m.content.isShutdownRequest = true

variable {t : Nat} {x y z : Sched}

theorem Spares.refl (x : Sched) : Spares t x x :=
  ⟨id, fun _ => ⟨[], (List.append_nil _).symm, nofun⟩⟩

theorem Spares.trans (h : Spares t x y) (h' : Spares t y z) : Spares t x z where
  retired hx := h'.retired (h.retired hx)
  requests hx := by
    obtain ⟨l, hl, hshut⟩ := h.requests hx
    obtain ⟨l', hl', hshut'⟩ := h'.requests (h.retired hx)
    refine ⟨l ++ l', by rw [hl', hl, List.append_assoc], fun m hm => ?_⟩
    rcases List.mem_append.mp hm with hm | hm
    · exact hshut m hm
    · exact hshut' m hm

-- A step that hands nothing on, loses no resolved launch, and runs a kernel only on the channel
-- the kernel ran on before or on one whose launch had not resolved.
theorem Spares.of_frame (hres : ∀ u ∈ x.resolved, u ∈ y.resolved)
    (hk : ∀ k, y.kernel = .runningKernel k →
      k.transport ∉ x.resolved ∨ ∃ k', x.kernel = .runningKernel k' ∧ k'.transport = k.transport)
    (hreq : y.requests = x.requests) : Spares t x y where
  retired := fun ⟨ht, hrun⟩ => ⟨hres t ht, fun k hyk hkt => by
    subst hkt
    rcases hk k hyk with hnot | ⟨k', hxk, htr⟩
    · exact hnot ht
    · exact hrun k' hxk htr⟩
  requests _ := ⟨[], by rw [hreq, List.append_nil], nofun⟩

-- A step that leaves the kernel, the resolved launches and the requests as they are.
theorem Spares.of_eq (hk : y.kernel = x.kernel) (hres : y.resolved = x.resolved)
    (hreq : y.requests = x.requests) : Spares t x y :=
  .of_frame (fun _ hu => hres ▸ hu) (fun k hyk => .inr ⟨k, hk ▸ hyk, rfl⟩) hreq

theorem Spares.finish (task : Nat) : Spares t x (x.finish task) :=
  .of_eq rfl rfl rfl

theorem Spares.setTask (task : Nat) (c : Continuation) : Spares t x (x.setTask task c) :=
  .of_eq rfl rfl rfl

-- Installing a kernel that does not run.
theorem Spares.setKernel_idle {kernel : Kernel} (hk : ∀ k, kernel ≠ .runningKernel k) :
    Spares t x (x.setKernel kernel) :=
  .of_frame (by simp) (fun k h => absurd (by simpa using h) (hk k)) (by simp)

theorem Spares.startKernel : Spares t x x.startKernel :=
  .of_frame (by simp) (by simp) (by simp)

-- Only a `ShutdownRequest` is handed to a channel regardless of the kernel.
theorem Spares.sendOn {u : Nat} {m : JupyterMessage} (hm : m.content.isShutdownRequest = true) :
    Spares t x (x.sendOn u m) where
  retired := id
  requests _ := ⟨if u = t then [m] else [], by rw [sendOn_requests, sentTo_append_singleton],
    fun m' hm' => by split at hm' <;> simp_all⟩

-- Everything else goes to the running kernel's channel, which is not a retired one.
theorem Spares.send (message : JupyterMessage) : Spares t x (x.send message) := by
  unfold Sched.send; split
  · next k hk =>
      refine ⟨id, fun ⟨_, hrun⟩ => ⟨[], ?_, nofun⟩⟩
      rw [sendOn_requests, sentTo_append_singleton, if_neg (hrun k hk)]
  · exact .refl x

theorem Spares.dispatch (message : JupyterMessage) : Spares t x (x.dispatch message) := by
  unfold Sched.dispatch; split
  · exact .send message
  · exact .of_eq rfl rfl rfl
  · exact .refl x

theorem Spares.execute (code msgId : String) : Spares t x (x.execute code msgId) := by
  unfold Sched.execute; split
  · exact .refl x
  · split
    · exact .dispatch _
    · exact .refl x

theorem Spares.route (message : JupyterMessage) : Spares t x (x.route message) := by
  unfold Sched.route; split
  · exact .refl x
  · split
    · exact .of_frame (fun _ => id) (fun _ hk => .inr (Kernel.transport_of_setExecutionState hk)) rfl
    · exact .of_frame (fun _ => id) (fun _ hk => .inr (Kernel.transport_of_setKernelInfo hk)) rfl
    · exact .refl x

theorem Spares.interrupt (msgId : String) : Spares t x (x.interrupt msgId) := by
  unfold Sched.interrupt; split
  · exact .send _
  · exact .refl x
  · exact .refl x

theorem Spares.shutdown : Spares t x x.shutdown := by
  unfold Sched.shutdown; dsimp only; split
  · exact .of_frame (fun _ => id) nofun rfl
  · exact .of_frame (by simp) (by simp) (by simp)

theorem Spares.restart : Spares t x x.restart := by
  unfold Sched.restart; dsimp only; split
  · exact .of_frame (fun _ => id) nofun rfl
  · exact .of_frame (fun _ => id) nofun rfl
  · exact .of_frame (by simp) (by simp) (by simp)

-- A launch that resolves with a kernel installs it on its own channel, which had not resolved.
theorem Wf.spares_launchDone (h : x.Wf) (task : Nat) (result : Except String ExecutionState) :
    Spares t x (x.launchDone task result) := by
  unfold Sched.launchDone; split
  · next hl =>
      have hnot : task ∉ x.resolved := h.unresolved _ (mem_of_lookup_eq_some hl)
      cases result
      · exact .of_frame (fun _ hu => by simp [launchCompleted, Sched.kernelErrored, hu])
          (by simp [launchCompleted, Sched.kernelErrored]) (by simp [launchCompleted, Sched.kernelErrored])
      · refine .of_frame (fun _ hu => by simp [launchCompleted, hu]) (fun k hk => .inl ?_)
          (by simp [launchCompleted])
        simp only [launchCompleted, setKernel_kernel, Kernel.runningKernel.injEq] at hk
        exact hk ▸ hnot
  · exact .refl x

theorem Spares.resume (task : Nat) (msgId : String) (c : Continuation) :
    Spares t x (x.resume task msgId c) := by
  cases c with
  | launch => exact .refl x
  | queuedSend launch message =>
      simp only [Sched.resume]; split
      · exact (Spares.finish task).trans (.send message)
      · exact .refl x
  | shutdownGrace requestTx requested =>
      cases requested
      · exact (Spares.setTask _ _).trans (.sendOn rfl)
      · exact (Spares.finish task).trans (.setKernel_idle fun _ h => by cases h)
  | restartGrace requestTx requested =>
      cases requested
      · exact (Spares.setTask _ _).trans (.sendOn rfl)
      · exact (Spares.finish task).trans .startKernel

theorem Spares.wake (task : Nat) (msgId : String) : Spares t x (x.wake task msgId) := by
  unfold Sched.wake; split
  · exact .resume _ _ _
  · exact .refl x

theorem Wf.spares (h : x.Wf) (t : Nat) (a : Action) : Spares t x (x.step a) := by
  cases a with
  | execute code _ _ _ msgId => exact .execute code msgId
  | route message => exact .route message
  | interrupt msgId => exact .interrupt msgId
  | shutdown => exact .shutdown
  | restart => exact .restart
  | kernelErrored errorMessage => exact .setKernel_idle fun _ h => by cases h
  | launchDone task result => exact h.spares_launchDone task result
  | wake task msgId => exact .wake task msgId
  | dropWorkspace => exact .of_eq rfl rfl rfl
  | bufferEvent _ | clearOutputs | close _ | edit _ => exact .refl x

theorem Wf.spares_run (h : x.Wf) (t : Nat) (actions : List Action) : Spares t x (x.run actions) := by
  induction actions generalizing x with
  | nil => exact .refl x
  | cons a actions ih => exact (h.spares t a).trans (ih (h.step a))

end Sched

-- A retired kernel channel, one whose launch has resolved and on which the kernel does not run,
-- stays retired over any run from a reachable state: no kernel runs on it again, and it is handed
-- at most one more message, a `ShutdownRequest`.
theorem retired_channel_stays_retired {s : Session} (hs : Reachable s) {t : Nat}
    (ht : t ∈ s.resolved) (hrun : ∀ k, s.kernel = .runningKernel k → k.transport ≠ t)
    (actions : List Action) :
    (∀ k, (s.run actions).kernel = .runningKernel k → k.transport ≠ t) ∧
    ∃ l, sentTo (s.run actions).requests t = sentTo s.requests t ++ l ∧ l.length ≤ 1 ∧
      ∀ m ∈ l, m.content.isShutdownRequest = true := by
  have hsp : Sched.Spares t s.sched (s.run actions).sched :=
    (s.run_sched actions) ▸ hs.sched_wf.spares_run t actions
  obtain ⟨l, hl, hshut⟩ := hsp.requests ⟨ht, hrun⟩
  simp only [Session.sched_requests] at hl
  refine ⟨(hsp.retired ⟨ht, hrun⟩).2, l, hl, ?_, hshut⟩
  -- nothing follows a `ShutdownRequest` on a channel, so at most one was added
  match l, hl, hshut with
  | [], _, _ | [_], _, _ => simp
  | m :: _ :: _, hl, hshut =>
      have hlast := (hs.run actions).sched_wf.last t m (by
        rw [Session.sched_requests, hl, List.dropLast_append_cons, List.dropLast_cons₂]
        exact List.mem_append_right _ (List.mem_cons_self _ _))
      rw [hshut m (List.mem_cons_self _ _)] at hlast
      cases hlast

-- The kernel a restart replaces, through both segments of the grace period and the new launch.
theorem retired_channel_stays_retired_after_restart :
    let s := (Session.new ⟨"x".toList, fun _ => true⟩).run [.launchDone 1 (.ok .idle), .restart]
    let actions : List Action := [.wake 2 "s", .wake 2 "t", .launchDone 3 (.ok .idle)]
    Reachable s ∧ 1 ∈ s.resolved ∧ (∀ k, s.kernel = .runningKernel k → k.transport ≠ 1) ∧
      ((∀ k, (s.run actions).kernel = .runningKernel k → k.transport ≠ 1) ∧
      ∃ l, sentTo (s.run actions).requests 1 = sentTo s.requests 1 ++ l ∧ l.length ≤ 1 ∧
        ∀ m ∈ l, m.content.isShutdownRequest = true) :=
  have hs := (Reachable.new ⟨"x".toList, fun _ => true⟩).run [.launchDone 1 (.ok .idle), .restart]
  have ht : 1 ∈ ((Session.new ⟨"x".toList, fun _ => true⟩).run
      [.launchDone 1 (.ok .idle), .restart]).resolved := by decide
  have hk : ((Session.new ⟨"x".toList, fun _ => true⟩).run
      [.launchDone 1 (.ok .idle), .restart]).kernel = .restarting := by decide
  have hrun : ∀ k, ((Session.new ⟨"x".toList, fun _ => true⟩).run
      [.launchDone 1 (.ok .idle), .restart]).kernel = .runningKernel k → k.transport ≠ 1 :=
    fun _ h => by rw [hk] at h; cases h
  ⟨hs, ht, hrun, retired_channel_stays_retired hs ht hrun _⟩

end ReplSession

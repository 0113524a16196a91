import ReplSession.Transport

namespace ReplSession

-- The grace period a kernel that is shutting down or restarting waits for.
def Continuation.ends (kernel : Kernel) : Continuation → Bool
  | .shutdownGrace _ _ => kernel == .shuttingDown
  | .restartGrace _ _ => kernel == .restarting
  | _ => false

-- `ShuttingDown` and `Restarting`: the kernels that wait for a grace period to end.
def Kernel.isWaiting (kernel : Kernel) : Prop :=
  kernel = .shuttingDown ∨ kernel = .restarting

theorem Kernel.setExecutionState_of_isWaiting {kernel : Kernel} {state : ExecutionState}
    (h : (kernel.setExecutionState state).isWaiting) : kernel.setExecutionState state = kernel := by
  cases kernel with
  | runningKernel k => rcases h with h | h <;> cases h
  | _ => rfl

theorem Kernel.setKernelInfo_of_isWaiting {kernel : Kernel} {languageName : String}
    (h : (kernel.setKernelInfo languageName).isWaiting) : kernel.setKernelInfo languageName = kernel := by
  cases kernel with
  | runningKernel k => rcases h with h | h <;> cases h
  | _ => rfl

namespace Sched

-- While the kernel is shutting down or restarting, a grace period that ends it is pending.
def Winding (x : Sched) : Prop :=
  x.kernel.isWaiting → ∃ e ∈ x.tasks, e.2.ends x.kernel = true

variable {x y : Sched}

-- A step that keeps a waiting kernel as it was, and keeps a grace period that ends it pending.
theorem Winding.of_frame (hw : x.Winding) (hk : y.kernel.isWaiting → y.kernel = x.kernel)
    (ht : ∀ kernel, (∃ e ∈ x.tasks, e.2.ends kernel = true) → ∃ e ∈ y.tasks, e.2.ends kernel = true) :
    y.Winding := fun hy => by
  have hxy := hk hy
  rw [hxy] at hy ⊢
  exact ht _ (hw hy)

-- A step that leaves a kernel that is not waiting.
theorem Winding.of_kernel (hk : ¬y.kernel.isWaiting) : y.Winding :=
  fun hy => absurd hy hk

theorem Winding.spawn (hw : x.Winding) (c : Continuation) : (x.spawn c).2.Winding :=
  hw.of_frame (fun _ => rfl) fun _ ⟨e, he, hg⟩ => ⟨e, mem_spawn.mpr (.inl he), hg⟩

-- Finishing a task that is no grace period.
theorem Wf.winding_finish (h : x.Wf) (hw : x.Winding) {task : Nat} {c : Continuation}
    (hc : x.tasks.lookup task = some c) (hnot : ∀ kernel, c.ends kernel = false) :
    (x.finish task).Winding :=
  hw.of_frame (fun _ => rfl) fun kernel ⟨e, he, hg⟩ => ⟨e, mem_finish.mpr ⟨he, fun hid => by
    cases h.eq_of_mem he (mem_of_lookup_eq_some hc) hid
    rw [hnot] at hg
    cases hg⟩, hg⟩

-- Moving a grace period to its next segment.
theorem Wf.winding_setTask (h : x.Wf) (hw : x.Winding) {task : Nat} {c c' : Continuation}
    (hc : x.tasks.lookup task = some c) (hc' : ∀ kernel, c'.ends kernel = c.ends kernel) :
    (x.setTask task c').Winding :=
  hw.of_frame (fun _ => rfl) fun kernel ⟨e, he, hg⟩ => by
    refine ⟨if e.1 = task then (task, c') else e, List.mem_map.mpr ⟨e, he, rfl⟩, ?_⟩
    split
    · next hid =>
        cases h.eq_of_mem he (mem_of_lookup_eq_some hc) hid
        rw [hc']; exact hg
    · exact hg

theorem Winding.send (hw : x.Winding) (message : JupyterMessage) : (x.send message).Winding := by
  unfold Sched.send; split
  · exact hw
  · exact hw

theorem Wf.winding_step (h : x.Wf) (hw : x.Winding) (a : Action) : (x.step a).Winding := by
  cases a with
  | execute code _ _ _ msgId =>
      show (x.execute code msgId).Winding
      unfold Sched.execute; split
      · exact hw
      · split
        · unfold Sched.dispatch; split
          · exact hw.send _
          · exact hw.spawn _
          · exact hw
        · exact hw
  | route message =>
      show (x.route message).Winding
      unfold Sched.route; split
      · exact hw
      · split
        · exact hw.of_frame Kernel.setExecutionState_of_isWaiting fun _ => id
        · exact hw.of_frame Kernel.setKernelInfo_of_isWaiting fun _ => id
        · exact hw
  | interrupt msgId =>
      show (x.interrupt msgId).Winding
      unfold Sched.interrupt; split
      · exact hw.send _
      · exact hw
      · exact hw
  | shutdown =>
      show x.shutdown.Winding
      unfold Sched.shutdown; dsimp only; split
      · exact fun _ => ⟨_, mem_spawn.mpr (.inr rfl), rfl⟩
      · exact .of_kernel (by simp [Kernel.isWaiting])
  | restart =>
      show x.restart.Winding
      unfold Sched.restart; dsimp only; split
      · next hk => exact hw.of_frame (fun _ => hk.symm) fun _ => id
      · exact fun _ => ⟨_, mem_spawn.mpr (.inr rfl), rfl⟩
      · exact .of_kernel (by simp [Kernel.isWaiting])
  | kernelErrored errorMessage =>
      exact .of_kernel (by simp [Sched.step, Sched.kernelErrored, Kernel.isWaiting])
  | launchDone task result =>
      show (x.launchDone task result).Winding
      unfold Sched.launchDone; split
      · cases result <;> exact .of_kernel (by simp [launchCompleted, Sched.kernelErrored, Kernel.isWaiting])
      · exact hw
  | wake task msgId =>
      show (x.wake task msgId).Winding
      unfold Sched.wake; split
      · next c hc =>
          cases c with
          | launch => exact hw
          | queuedSend launch message =>
              simp only [Sched.resume]; split
              · exact (h.winding_finish hw hc fun _ => rfl).send message
              · exact hw
          | shutdownGrace requestTx requested =>
              cases requested
              · exact h.winding_setTask hw hc fun _ => rfl
              · exact .of_kernel (by simp [Sched.resume, Kernel.isWaiting])
          | restartGrace requestTx requested =>
              cases requested
              · exact h.winding_setTask hw hc fun _ => rfl
              · exact .of_kernel (by simp [Sched.resume, Kernel.isWaiting])
      · exact hw
  | dropWorkspace => exact hw
  | bufferEvent _ | clearOutputs | close _ | edit _ => exact hw

end Sched

theorem Reachable.sched_winding {s : Session} (hs : Reachable s) : s.sched.Winding := by
  induction hs with
  | new buffer =>
      exact .of_kernel (by
        rw [Session.sched_kernel, Session.new, Session.startKernel, Session.setKernel_kernel]
        simp [Kernel.isWaiting])
  | step a hs ih => rw [Session.step_sched]; exact hs.sched_wf.winding_step ih a

-- Dropping a kernel only cancels tasks.
theorem Session.mem_of_mem_dropKernel {s : Session} {kernel : Kernel} {e : Nat × Continuation}
    (he : e ∈ (s.dropKernel kernel).tasks) : e ∈ s.tasks := by
  rw [← Session.sched_tasks, Session.dropKernel_sched] at he
  exact Sched.mem_of_mem_dropKernel he

-- The last segment of a shutdown grace period is its last: the task is gone afterwards.
theorem Session.wake_shutdownGrace_done (s : Session) {task requestTx : Nat}
    (h : s.tasks.lookup task = some (.shutdownGrace requestTx true)) (msgId : String) :
    (s.wake task msgId).tasks.lookup task = none := by
  simp only [Session.wake, h, Session.resume]
  refine List.lookup_eq_none_iff.mpr fun p hp => ?_
  -- dropping the old kernel only cancels tasks, and the segment has finished its own
  rw [Session.setKernel] at hp
  have hp' := Session.mem_of_mem_dropKernel hp
  change p ∈ (s.finish task).tasks at hp'
  simp only [Session.finish, List.mem_filter, decide_eq_true_eq] at hp'
  exact bne_iff_ne.mpr (Ne.symm hp'.2)

theorem Session.wake_restartGrace_done (s : Session) {task requestTx : Nat}
    (h : s.tasks.lookup task = some (.restartGrace requestTx true)) (hlt : task < s.nextTask)
    (msgId : String) : (s.wake task msgId).tasks.lookup task = none := by
  simp only [Session.wake, h, Session.resume, Session.startKernel, Session.spawn]
  refine List.lookup_eq_none_iff.mpr fun p hp => ?_
  rw [Session.setKernel] at hp
  have hp' := Session.mem_of_mem_dropKernel hp
  -- the segment finished its own task, and the launch it spawned is a fresh one
  change p ∈ (s.finish task).tasks ++ [(s.nextTask, .launch)] at hp'
  refine bne_iff_ne.mpr fun hid => ?_
  rcases List.mem_append.mp hp' with hp' | hp'
  · exact of_decide_eq_true (List.mem_filter.mp hp').2 hid.symm
  · rw [List.mem_singleton.mp hp'] at hid
    exact absurd hid hlt.ne

-- Shutting down and restarting are never stuck. In every reachable state whose kernel is
-- `ShuttingDown` (or `Restarting`), a grace period that ends it is pending, and firing that task
-- twice leaves the kernel `Shutdown` (or starting a new kernel) and no block; when only its last
-- segment was pending, the second firing finds nothing left to do.
theorem shutdown_and_restart_never_stuck {s : Session} (hs : Reachable s) :
    (s.kernel = .shuttingDown → ∃ task, ∀ msgId₁ msgId₂ : String,
      ((s.step (.wake task msgId₁)).step (.wake task msgId₂)).kernel = .shutdown ∧
      ((s.step (.wake task msgId₁)).step (.wake task msgId₂)).blocks.entries = []) ∧
    (s.kernel = .restarting → ∃ task, ∀ msgId₁ msgId₂ : String,
      ((s.step (.wake task msgId₁)).step (.wake task msgId₂)).kernel.lifecycle = .startingKernel ∧
      ((s.step (.wake task msgId₁)).step (.wake task msgId₂)).blocks.entries = []) := by
  refine ⟨fun hk => ?_, fun hk => ?_⟩
  · obtain ⟨⟨task, c⟩, hmem, hends⟩ := hs.sched_winding (.inl hk)
    rw [Session.sched_kernel, hk] at hends
    cases c with
    | shutdownGrace requestTx requested =>
        have hl : s.tasks.lookup task = some (.shutdownGrace requestTx requested) :=
          hs.sched_wf.lookup_eq hmem
        refine ⟨task, fun msgId₁ msgId₂ => ?_⟩
        show ((s.wake task msgId₁).wake task msgId₂).kernel = _ ∧
          ((s.wake task msgId₁).wake task msgId₂).blocks.entries = []
        cases requested
        · -- the first segment hands over the request; the second ends the shutdown
          have h₁ := s.wake_shutdownGrace_lookup hl msgId₁
          exact ⟨by rw [((s.wake task msgId₁).wake_control task msgId₂).1]; simp [controlStep, h₁],
            Session.wake_endsGrace_blocks _ h₁ rfl msgId₂⟩
        · -- the last segment ends the shutdown, and the second firing finds no task
          rw [Session.wake.eq_1 (s.wake task msgId₁), s.wake_shutdownGrace_done hl msgId₁]
          exact ⟨by rw [(s.wake_control task msgId₁).1]; simp [controlStep, hl],
            Session.wake_endsGrace_blocks _ hl rfl msgId₁⟩
    | _ => simp [Continuation.ends] at hends
  · obtain ⟨⟨task, c⟩, hmem, hends⟩ := hs.sched_winding (.inr hk)
    rw [Session.sched_kernel, hk] at hends
    cases c with
    | restartGrace requestTx requested =>
        have hl : s.tasks.lookup task = some (.restartGrace requestTx requested) :=
          hs.sched_wf.lookup_eq hmem
        refine ⟨task, fun msgId₁ msgId₂ => ?_⟩
        show ((s.wake task msgId₁).wake task msgId₂).kernel.lifecycle = _ ∧
          ((s.wake task msgId₁).wake task msgId₂).blocks.entries = []
        cases requested
        · -- the first segment hands over the request; the second starts a kernel
          have h₁ := s.wake_restartGrace_lookup hl msgId₁
          exact ⟨by rw [((s.wake task msgId₁).wake_control task msgId₂).1]; simp [controlStep, h₁,
            Kernel.lifecycle], Session.wake_endsGrace_blocks _ h₁ rfl msgId₂⟩
        · -- the last segment starts a kernel, and the second firing finds no task
          rw [Session.wake.eq_1 (s.wake task msgId₁),
            s.wake_restartGrace_done hl (hs.sched_wf.task_lt _ hmem) msgId₁]
          exact ⟨by rw [(s.wake_control task msgId₁).1]; simp [controlStep, hl, Kernel.lifecycle],
            Session.wake_endsGrace_blocks _ hl rfl msgId₁⟩
    | _ => simp [Continuation.ends] at hends

-- A running kernel being shut down, and one being restarted.
theorem shutdown_and_restart_never_stuck_after_launch :
    let s := (Session.new ⟨"x".toList, fun _ => true⟩).run [.launchDone 1 (.ok .idle), .shutdown]
    Reachable s ∧ s.kernel = .shuttingDown ∧
      ((s.kernel = .shuttingDown → ∃ task, ∀ msgId₁ msgId₂ : String,
        ((s.step (.wake task msgId₁)).step (.wake task msgId₂)).kernel = .shutdown ∧
        ((s.step (.wake task msgId₁)).step (.wake task msgId₂)).blocks.entries = []) ∧
      (s.kernel = .restarting → ∃ task, ∀ msgId₁ msgId₂ : String,
        ((s.step (.wake task msgId₁)).step (.wake task msgId₂)).kernel.lifecycle = .startingKernel ∧
        ((s.step (.wake task msgId₁)).step (.wake task msgId₂)).blocks.entries = [])) :=
  have hs := (Reachable.new ⟨"x".toList, fun _ => true⟩).run [.launchDone 1 (.ok .idle), .shutdown]
  ⟨hs, by decide, shutdown_and_restart_never_stuck hs⟩

end ReplSession

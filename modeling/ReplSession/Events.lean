import ReplSession.Lifecycle

namespace ReplSession

-- The events a step emits. Only `Session::kernel` emits one, `Shutdown`, when it installs
-- `Kernel::Shutdown`: `shutdown` does so at once for a kernel that is not running, and the last
-- segment of a shutdown grace period for one that was.
def emitted (s : Session) : Action → List SessionEvent
  | .shutdown => match s.kernel with
    | .runningKernel _ => []
    | _ => [.shutdown]
  | .wake task _ => match s.tasks.lookup task with
    | some (.shutdownGrace _ true) => [.shutdown]
    | _ => []
  | _ => []

namespace Session

variable (s : Session)

@[simp] theorem dropKernel_events (kernel : Kernel) : (s.dropKernel kernel).events = s.events := by
  obtain ⟨_, h⟩ := s.dropKernel_eq kernel; rw [h]

theorem setKernel_events (kernel : Kernel) :
    (s.setKernel kernel).events = s.events ++ if kernel = .shutdown then [.shutdown] else [] := by
  rw [setKernel, dropKernel_events]; split <;> simp

@[simp] theorem forEachBlockView_events (f : ExecutionView → ExecutionView) :
    (s.forEachBlockView f).events = s.events := by
  rw [forEachBlockView_eq]

@[simp] theorem startKernel_events : s.startKernel.events = s.events := by
  simp [startKernel, setKernel_events]

@[simp] theorem kernelErrored_events (errorMessage : String) :
    (s.kernelErrored errorMessage).events = s.events := by
  simp [kernelErrored, setKernel_events]

@[simp] theorem dispatch_events (message : JupyterMessage) :
    (s.dispatch message).events = s.events := by
  obtain ⟨_, _, _, h⟩ := s.dispatch_eq message; rw [h]

theorem execute_events (code : String) (anchorRange : AnchorRange) (nextCell : Option Anchor)
    (moveDown : Bool) (msgId : String) :
    (s.execute code anchorRange nextCell moveDown msgId).events = s.events := by
  cases hcode : code.isEmpty
  · cases hw : s.workspace
    · rw [execute_of_workspace_false s code hcode hw]; rfl
    · obtain ⟨_, _, _, h⟩ := execute_of_workspace s code hcode hw anchorRange nextCell moveDown msgId
      rw [h]; exact dispatch_events _ _
  · rw [execute_of_isEmpty s code hcode]

@[simp] theorem send_events (message : JupyterMessage) : (s.send message).events = s.events := by
  obtain ⟨_, h⟩ := s.send_eq message; rw [h]

theorem deliver_events (parent : String) (message : JupyterMessage) :
    (s.deliver parent message).events = s.events := by
  unfold deliver; split <;> rfl

theorem route_events (message : JupyterMessage) : (s.route message).events = s.events := by
  unfold route; split
  · rfl
  · split <;> simp only [deliver_events, forEachBlockView_events]

theorem shutdown_events : s.shutdown.events = s.events ++ emitted s .shutdown := by
  cases h : s.kernel <;> simp [shutdown, emitted, h, setKernel_events]

theorem restart_events : s.restart.events = s.events := by
  unfold restart; dsimp only; split
  · rfl
  · rfl
  · rw [dropKernel_events, startKernel_events]; rfl

theorem launchDone_events (task : Nat) (result : Except String ExecutionState) :
    (s.launchDone task result).events = s.events := by
  unfold launchDone; split
  · cases result <;> simp [launchCompleted, setKernel_events, finish]
  · rfl

theorem wake_events (task : Nat) (msgId : String) :
    (s.wake task msgId).events = s.events ++ emitted s (.wake task msgId) := by
  dsimp only [wake, emitted]
  cases s.tasks.lookup task with
  | none => exact (List.append_nil _).symm
  | some c =>
      cases c with
      | launch => exact (List.append_nil _).symm
      | queuedSend launch message =>
          dsimp only [resume]; split
          · exact (send_events _ _).trans (List.append_nil _).symm
          · exact (List.append_nil _).symm
      | shutdownGrace requestTx requested =>
          cases requested
          · exact (List.append_nil _).symm
          · exact setKernel_events _ _
      | restartGrace requestTx requested =>
          cases requested
          · exact (List.append_nil _).symm
          · exact (startKernel_events _).trans (List.append_nil _).symm

-- A step emits the events `emitted` names, after those emitted before.
theorem step_events (a : Action) : (s.step a).events = s.events ++ emitted s a := by
  cases a with
  | execute code anchorRange nextCell moveDown msgId =>
      simp only [step, emitted, execute_events, List.append_nil]
  | route message => simp only [step, emitted, route_events, List.append_nil]
  | interrupt msgId =>
      obtain ⟨_, h⟩ := s.interrupt_eq msgId
      simp only [step, emitted, h, List.append_nil]
  | bufferEvent event =>
      simp only [step, emitted, List.append_nil]
      unfold onBufferEvent; split
      · dsimp only; split <;> rfl
      · rfl
  | close blockId =>
      simp only [step, emitted, List.append_nil]
      unfold close; split <;> rfl
  | shutdown => exact shutdown_events s
  | restart => simp only [step, emitted, restart_events, List.append_nil]
  | kernelErrored errorMessage => simp only [step, emitted, kernelErrored_events, List.append_nil]
  | launchDone task result => simp only [step, emitted, launchDone_events, List.append_nil]
  | wake task msgId => exact wake_events s task msgId
  | clearOutputs => simp only [step, emitted, List.append_nil]; rfl
  | edit _ | dropWorkspace => simp only [step, emitted, List.append_nil]

theorem run_events (actions : List Action) : ∃ l, (s.run actions).events = s.events ++ l := by
  induction actions generalizing s with
  | nil => exact ⟨[], (List.append_nil _).symm⟩
  | cons a actions ih =>
      obtain ⟨l, hl⟩ := ih (s.step a)
      exact ⟨emitted s a ++ l, by rw [run_cons, hl, step_events, List.append_assoc]⟩

end Session

theorem Kernel.eq_shutdown_of_lifecycle {kernel : Kernel} (h : kernel.lifecycle = .shutdown) :
    kernel = .shutdown := by
  cases kernel <;> first | rfl | cases h

theorem controlStep_route_lifecycle (s : Session) (message : JupyterMessage) :
    (controlStep s (.route message)).1.lifecycle = s.kernel.lifecycle := by
  obtain ⟨_, parentHeader, content⟩ := message
  cases parentHeader with
  | none => rfl
  | some parent => cases content <;> simp [controlStep]

-- A step emits nothing or one `Shutdown`, and with it leaves the kernel `Shutdown`.
theorem emitted_eq (s : Session) (a : Action) :
    emitted s a = [] ∨ emitted s a = [.shutdown] ∧ (controlStep s a).1 = .shutdown := by
  cases a with
  | shutdown => cases h : s.kernel <;> simp [emitted, controlStep, h]
  | wake task msgId =>
      simp only [emitted, controlStep]; split
      · simp [*]
      · exact .inl rfl
  | _ => exact .inl rfl

-- A step that takes a kernel that is not `Shutdown` to `Shutdown` emits the event.
theorem emitted_of_controlStep {s : Session} (hs : s.kernel ≠ .shutdown) (a : Action)
    (he : (controlStep s a).1 = .shutdown) : emitted s a = [.shutdown] := by
  cases a with
  | route message =>
      refine absurd (Kernel.eq_shutdown_of_lifecycle ?_) hs
      rw [← controlStep_route_lifecycle s message, he]; rfl
  | shutdown => cases h : s.kernel <;> simp_all [emitted, controlStep]
  | restart => cases h : s.kernel <;> simp_all [controlStep]
  | kernelErrored errorMessage => cases he
  | launchDone task result =>
      simp only [controlStep] at he; split at he <;> first | cases he | exact absurd he hs
  | wake task msgId =>
      simp only [emitted, controlStep] at he ⊢; split at he
      · simp [*]
      · cases he
      · exact absurd he hs
  | _ => exact absurd he hs

/-! What the editor is told. -/

-- The editor hears of every shutdown and of nothing else: a step emits no event or one
-- `Shutdown`, and leaves the kernel `Shutdown` when it does; and a step that takes a kernel that
-- was not `Shutdown` to `Shutdown` emits it.
theorem shutdown_event_exactly_on_shutdown (s : Session) (a : Action) :
    ((s.step a).events = s.events ∨
      (s.step a).events = s.events ++ [.shutdown] ∧ (s.step a).kernel = .shutdown) ∧
    (s.kernel ≠ .shutdown → (s.step a).kernel = .shutdown →
      (s.step a).events = s.events ++ [.shutdown]) := by
  rw [s.step_events, (s.step_control a).1]
  refine ⟨(emitted_eq s a).imp (fun h => by rw [h, List.append_nil]) fun h => ⟨by rw [h.1], h.2⟩,
    fun hs he => by rw [emitted_of_controlStep hs a he]⟩

-- Over any run from a kernel that is not `Shutdown` to one that is, the editor is told: the run
-- emits a `Shutdown` event.
theorem shutdown_announced_over_run (s : Session) (actions : List Action)
    (hs : s.kernel ≠ .shutdown) (he : (s.run actions).kernel = .shutdown) :
    ∃ l, (s.run actions).events = s.events ++ l ∧ SessionEvent.shutdown ∈ l := by
  induction actions generalizing s with
  | nil => exact absurd he hs
  | cons a actions ih =>
      by_cases ha : (s.step a).kernel = .shutdown
      · -- this step enters `Shutdown`, and later steps only add events
        obtain ⟨l, hl⟩ := (s.step a).run_events actions
        have hemit := emitted_of_controlStep hs a (by rw [← (s.step_control a).1]; exact ha)
        refine ⟨emitted s a ++ l, by rw [Session.run_cons, hl, s.step_events, List.append_assoc], ?_⟩
        rw [hemit]; exact List.mem_append_left _ (List.mem_singleton_self _)
      · obtain ⟨l, hl, hmem⟩ := ih (s.step a) ha he
        exact ⟨emitted s a ++ l, by rw [Session.run_cons, hl, s.step_events, List.append_assoc],
          List.mem_append_right _ hmem⟩

-- A running kernel shut down through both segments of its grace period.
theorem shutdown_announced_over_run_after_grace :
    let s := Session.new ⟨"x".toList, fun _ => true⟩
    let actions : List Action := [.launchDone 1 (.ok .idle), .shutdown, .wake 2 "s", .wake 2 "t"]
    s.kernel ≠ .shutdown ∧ (s.run actions).kernel = .shutdown ∧
      ∃ l, (s.run actions).events = s.events ++ l ∧ SessionEvent.shutdown ∈ l :=
  ⟨by decide, by decide, shutdown_announced_over_run _ _ (by decide) (by decide)⟩

end ReplSession

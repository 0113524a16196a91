import ReplSession.Dispatch

namespace ReplSession

-- The kernel's part of a step: the kernel it leaves, and the statuses it reports to telemetry.
def controlStep (s : Session) : Action → Kernel × List KernelStatus
  | .route ⟨_, some _, .status executionState⟩ =>
    let kernel := s.kernel.setExecutionState executionState
    (kernel, [KernelStatus.ofKernel kernel])
  | .route ⟨_, some _, .kernelInfoReply languageName⟩ => (s.kernel.setKernelInfo languageName, [])
  | .shutdown => match s.kernel with
    | .runningKernel _ => (.shuttingDown, [])
    | _ => (.shutdown, [.shutdown])
  | .restart => match s.kernel with
    | .restarting | .runningKernel _ => (.restarting, [])
    | _ => (.startingKernel s.nextTask, [.starting, .starting])
  | .kernelErrored errorMessage => (.erroredLaunch errorMessage, [.error])
  | .launchDone task result => match s.tasks.lookup task, result with
    | some .launch, .ok executionState =>
      let kernel := Kernel.runningKernel ⟨task, executionState, none⟩
      (kernel, [KernelStatus.ofKernel kernel])
    | some .launch, .error errorMessage => (.erroredLaunch errorMessage, [.error])
    | _, _ => (s.kernel, [])
  | .wake task _ => match s.tasks.lookup task with
    | some (.shutdownGrace _ true) => (.shutdown, [.shutdown])
    | some (.restartGrace _ true) => (.startingKernel s.nextTask, [.starting, .starting])
    | _ => (s.kernel, [])
  | _ => (s.kernel, [])

namespace Session

-- `t` has the kernel `control.1`, and has reported `control.2` since `s`.
def Control (s t : Session) (control : Kernel × List KernelStatus) : Prop :=
  t.kernel = control.1 ∧ t.telemetry = s.telemetry ++ control.2

variable {s t u : Session}

theorem Control.of_eq (hk : t.kernel = s.kernel) (ht : t.telemetry = s.telemetry) :
    s.Control t (s.kernel, []) :=
  ⟨hk, by simp [ht]⟩

theorem Control.trans {c c' : Kernel × List KernelStatus} (h : s.Control t c)
    (h' : t.Control u c') : s.Control u (c'.1, c.2 ++ c'.2) :=
  ⟨h'.1, by rw [h'.2, h.2, List.append_assoc]⟩

variable (s)

theorem setKernel_control (kernel : Kernel) :
    s.Control (s.setKernel kernel) (kernel, [KernelStatus.ofKernel kernel]) :=
  ⟨by simp, by simp⟩

theorem startKernel_control :
    s.Control s.startKernel (.startingKernel s.nextTask, [.starting, .starting]) :=
  ⟨by simp [startKernel], by simp [startKernel, KernelStatus.ofKernel]⟩

theorem forEachBlockView_control (f : ExecutionView → ExecutionView) :
    s.Control (s.forEachBlockView f) (s.kernel, []) :=
  .of_eq (by simp) (by simp)

theorem kernelErrored_control (errorMessage : String) :
    s.Control (s.kernelErrored errorMessage) (.erroredLaunch errorMessage, [.error]) :=
  ⟨by simp [kernelErrored], by simp [kernelErrored, KernelStatus.ofKernel]⟩

theorem send_control (message : JupyterMessage) : s.Control (s.send message) (s.kernel, []) := by
  obtain ⟨_, h⟩ := s.send_eq message
  exact .of_eq (by rw [h]) (by rw [h])

theorem dispatch_control (message : JupyterMessage) :
    s.Control (s.dispatch message) (s.kernel, []) := by
  obtain ⟨_, _, _, h⟩ := s.dispatch_eq message
  exact .of_eq (by rw [h]) (by rw [h])

theorem execute_control (code : String) (anchorRange : AnchorRange) (nextCell : Option Anchor)
    (moveDown : Bool) (msgId : String) :
    s.Control (s.execute code anchorRange nextCell moveDown msgId) (s.kernel, []) := by
  cases hcode : code.isEmpty
  · cases hw : s.workspace
    · rw [execute_of_workspace_false s code hcode hw]; exact .of_eq rfl rfl
    · obtain ⟨anchor, buffer, selection, h⟩ :=
        execute_of_workspace s code hcode hw anchorRange nextCell moveDown msgId
      rw [h]
      exact dispatch_control _ _
  · rw [execute_of_isEmpty s code hcode]; exact .of_eq rfl rfl

theorem deliver_control (parent : String) (message : JupyterMessage) :
    s.Control (s.deliver parent message) (s.kernel, []) := by
  unfold deliver; split <;> exact .of_eq rfl rfl

theorem route_control (message : JupyterMessage) :
    s.Control (s.route message) (controlStep s (.route message)) := by
  obtain ⟨header, parentHeader, content⟩ := message
  cases parentHeader with
  | none => exact .of_eq rfl rfl
  | some parent =>
      cases content
      case status executionState =>
        let kernel := s.kernel.setExecutionState executionState
        have h : s.Control { s with kernel := kernel
                                    telemetry := s.telemetry ++ [KernelStatus.ofKernel kernel] }
            (kernel, [KernelStatus.ofKernel kernel]) := ⟨rfl, rfl⟩
        exact h.trans (deliver_control _ _ _)
      case kernelInfoReply languageName =>
        have h : s.Control { s with kernel := s.kernel.setKernelInfo languageName }
            (s.kernel.setKernelInfo languageName, []) := ⟨rfl, by simp⟩
        exact h.trans (deliver_control _ _ _)
      case updateDisplayData displayId data =>
        cases displayId
        · exact .of_eq rfl rfl
        · exact forEachBlockView_control s _
      all_goals exact deliver_control s _ _

theorem interrupt_control (msgId : String) : s.Control (s.interrupt msgId) (s.kernel, []) := by
  obtain ⟨_, h⟩ := s.interrupt_eq msgId
  exact .of_eq (by rw [h]) (by rw [h])

theorem onBufferEvent_control (event : BufferEvent) :
    s.Control (s.onBufferEvent event) (s.kernel, []) := by
  unfold onBufferEvent; split
  · dsimp only; split <;> exact .of_eq rfl rfl
  · exact .of_eq rfl rfl

theorem close_control (blockId : Nat) : s.Control (s.close blockId) (s.kernel, []) := by
  unfold close; split <;> exact .of_eq rfl rfl

theorem shutdown_control : s.Control s.shutdown (controlStep s .shutdown) := by
  cases h : s.kernel <;> simp [Control, shutdown, controlStep, h, KernelStatus.ofKernel]

theorem restart_control : s.Control s.restart (controlStep s .restart) := by
  cases h : s.kernel <;>
    simp [Control, restart, controlStep, h, startKernel, clearOutputs, KernelStatus.ofKernel]

theorem launchDone_control (task : Nat) (result : Except String ExecutionState) :
    s.Control (s.launchDone task result) (controlStep s (.launchDone task result)) := by
  dsimp only [launchDone, controlStep]
  cases h : s.tasks.lookup task with
  | none => exact .of_eq rfl rfl
  | some c =>
      cases c
      case launch =>
        cases result
        · exact kernelErrored_control _ _
        · exact setKernel_control _ _
      all_goals cases result <;> exact .of_eq rfl rfl

theorem wake_control (task : Nat) (msgId : String) :
    s.Control (s.wake task msgId) (controlStep s (.wake task msgId)) := by
  dsimp only [wake, controlStep]
  cases h : s.tasks.lookup task with
  | none => exact .of_eq rfl rfl
  | some c =>
      cases c with
      | launch => exact .of_eq rfl rfl
      | queuedSend launch message =>
          simp only [resume]; split
          · exact send_control _ message
          · exact .of_eq rfl rfl
      | shutdownGrace requestTx requested =>
          cases requested
          · exact .of_eq rfl rfl
          · exact setKernel_control _ _
      | restartGrace requestTx requested =>
          cases requested
          · exact .of_eq rfl rfl
          · exact startKernel_control _

-- The session's step refines the kernel's part of it.
theorem step_control (a : Action) : s.Control (s.step a) (controlStep s a) := by
  cases a with
  | execute code anchorRange nextCell moveDown msgId =>
      exact execute_control s code anchorRange nextCell moveDown msgId
  | route message => exact route_control s message
  | interrupt msgId => exact interrupt_control s msgId
  | bufferEvent event => exact onBufferEvent_control s event
  | clearOutputs => exact .of_eq rfl rfl
  | close blockId => exact close_control s blockId
  | shutdown => exact shutdown_control s
  | restart => exact restart_control s
  | kernelErrored errorMessage => exact kernelErrored_control s errorMessage
  | launchDone task result => exact launchDone_control s task result
  | wake task msgId => exact wake_control s task msgId
  | edit buffer => exact .of_eq rfl rfl
  | dropWorkspace => exact .of_eq rfl rfl

end Session

/-! Shutting down, and what revives a kernel. -/

-- `ShuttingDown` or `Shutdown`.
def Kernel.isDown (kernel : Kernel) : Bool :=
  kernel.lifecycle == .shuttingDown || kernel.lifecycle == .shutdown

-- The steps that can take a kernel out of shutting down: `restart`, `kernel_errored`, a pending
-- launch task that resolves, and the last segment of a pending restart continuation.
def Revives (s : Session) : Action → Prop
  | .restart | .kernelErrored _ => True
  | .launchDone task _ => s.tasks.lookup task = some .launch
  | .wake task _ => ∃ requestTx, s.tasks.lookup task = some (.restartGrace requestTx true)
  | _ => False

-- A run in which no step revives the kernel.
def NoRevival : Session → List Action → Prop
  | _, [] => True
  | s, a :: actions => ¬Revives s a ∧ NoRevival (s.step a) actions

theorem controlStep_shutdown_isDown (s : Session) : (controlStep s .shutdown).1.isDown = true := by
  simp only [controlStep]; split <;> rfl

-- A step that does not revive a kernel that is shutting down leaves it shutting down.
theorem controlStep_isDown {s : Session} (hdown : s.kernel.isDown = true) (a : Action)
    (ha : ¬Revives s a) : (controlStep s a).1.isDown = true := by
  cases a with
  | route message =>
      obtain ⟨_, parentHeader, content⟩ := message
      cases parentHeader with
      | none => exact hdown
      | some parent => cases content <;> simpa [controlStep, Kernel.isDown] using hdown
  | shutdown => exact controlStep_shutdown_isDown s
  | restart => exact absurd trivial ha
  | kernelErrored errorMessage => exact absurd trivial ha
  | launchDone task result =>
      simp only [controlStep]
      split
      · exact absurd ‹_› ha
      · exact absurd ‹_› ha
      · exact hdown
  | wake task msgId =>
      simp only [controlStep]
      split
      · rfl
      · exact absurd ⟨_, ‹_›⟩ ha
      · exact hdown
  | _ => exact hdown

theorem NoRevival.isDown {s : Session} {actions : List Action} (h : NoRevival s actions)
    (hdown : s.kernel.isDown = true) : (s.run actions).kernel.isDown = true := by
  induction actions generalizing s with
  | nil => exact hdown
  | cons a actions ih =>
      exact ih h.2 ((s.step_control a).1 ▸ controlStep_isDown hdown a h.1)

-- Pending continuations are not superseded. A queued send that fires changes neither the kernel
-- nor the blocks, and hands its request only to the kernel running then; and after `shutdown` the
-- kernel stays shutting down over every run in which no step revives it.
theorem kernel_stays_down_until_revived :
    (∀ (s : Session) (q launch : Nat) (message : JupyterMessage) (msgId : String),
      s.tasks.lookup q = some (.queuedSend launch message) →
      (s.wake q msgId).kernel = s.kernel ∧ (s.wake q msgId).blocks = s.blocks ∧
        Session.SendsToRunning s (s.wake q msgId)) ∧
    ∀ (s : Session) (actions : List Action), NoRevival (s.step .shutdown) actions →
      ((s.step .shutdown).run actions).kernel.isDown = true := by
  refine ⟨fun s q launch message msgId hq => ⟨?_, ?_, s.wake_sendsToRunning q msgId⟩,
    fun s _ h => h.isDown ((s.step_control .shutdown).1 ▸ controlStep_shutdown_isDown s)⟩
  · rw [(s.wake_control q msgId).1]
    simp [controlStep, hq]
  · rw [← Session.ledger_blocks, Session.wake_ledger, hq]
    rfl

-- A queued send fires after the launch it awaited has resolved.
theorem kernel_stays_down_until_revived_on_queued_send :
    let s := (Session.new ⟨"x".toList, fun _ => true⟩).run
      [.execute "x" ⟨⟨0⟩, ⟨1⟩⟩ none false "a", .launchDone 1 (.ok .idle), .shutdown]
    let message : JupyterMessage := ⟨⟨"a"⟩, none, .executeRequest "x"⟩
    s.tasks.lookup 2 = some (.queuedSend 1 message) ∧
      ((s.wake 2 "w").kernel = s.kernel ∧ (s.wake 2 "w").blocks = s.blocks ∧
        Session.SendsToRunning s (s.wake 2 "w")) ∧
      (NoRevival (s.step .shutdown) [.wake 2 "w"] ∧
        ((s.step .shutdown).run [.wake 2 "w"]).kernel.isDown = true) :=
  have hq : ((Session.new ⟨"x".toList, fun _ => true⟩).run
      [.execute "x" ⟨⟨0⟩, ⟨1⟩⟩ none false "a", .launchDone 1 (.ok .idle), .shutdown]).tasks.lookup 2 =
      some (.queuedSend 1 ⟨⟨"a"⟩, none, .executeRequest "x"⟩) := by decide
  have hrun : NoRevival (((Session.new ⟨"x".toList, fun _ => true⟩).run
      [.execute "x" ⟨⟨0⟩, ⟨1⟩⟩ none false "a", .launchDone 1 (.ok .idle), .shutdown]).step .shutdown)
      [.wake 2 "w"] := by
    refine ⟨fun ⟨requestTx, h⟩ => ?_, trivial⟩
    have : (((Session.new ⟨"x".toList, fun _ => true⟩).run [.execute "x" ⟨⟨0⟩, ⟨1⟩⟩ none false "a",
        .launchDone 1 (.ok .idle), .shutdown]).step .shutdown).tasks.lookup 2 =
        some (.queuedSend 1 ⟨⟨"a"⟩, none, .executeRequest "x"⟩) := by decide
    rw [this] at h
    cases h
  ⟨hq, kernel_stays_down_until_revived.1 _ 2 1 _ "w" hq,
    hrun, kernel_stays_down_until_revived.2 _ _ hrun⟩

-- A restart's grace period that ends after a later `shutdown` starts a new kernel.
theorem restart_continuation_revives_after_shutdown :
    ¬ ∀ (s : Session) (actions : List Action), Reachable s → (∀ a ∈ actions, a ≠ .restart) →
      ((s.step .shutdown).run actions).kernel.isDown = true := by
  intro h
  have := h ((Session.new ⟨"x".toList, fun _ => true⟩).run [.launchDone 1 (.ok .idle), .restart])
    [.wake 2 "s", .wake 2 "t"] ((Reachable.new _).run _) (by simp)
  exact absurd this (by decide)

/-! Reports to telemetry. -/

-- From a running kernel, `shutdown` leaves it shutting down and `restart` leaves it restarting,
-- and neither reports a status.
theorem shutdown_and_restart_of_running_unreported :
    let s : Session := (Session.new ⟨"x".toList, fun _ => true⟩).step (.launchDone 1 (.ok .idle))
    s.kernel = .runningKernel ⟨1, .idle, none⟩ ∧
      s.shutdown.kernel = .shuttingDown ∧ s.shutdown.telemetry = s.telemetry ∧
      s.restart.kernel = .restarting ∧ s.restart.telemetry = s.telemetry := by
  decide

-- Every other step that changes the kernel's variant reports the status of the kernel it leaves.
theorem lifecycle_change_reported (s : Session) (a : Action)
    (hchange : (s.step a).kernel.lifecycle ≠ s.kernel.lifecycle)
    (hpath : ¬((a = .shutdown ∨ a = .restart) ∧ s.kernel.lifecycle = .runningKernel)) :
    ∃ reports, (s.step a).telemetry = s.telemetry ++ reports ∧
      reports.getLast? = some (KernelStatus.ofKernel (s.step a).kernel) := by
  obtain ⟨hk, ht⟩ := s.step_control a
  refine ⟨_, ht, ?_⟩
  rw [hk] at hchange ⊢
  cases a with
  | route message =>
      obtain ⟨_, parentHeader, content⟩ := message
      cases parentHeader with
      | none => exact absurd rfl hchange
      | some parent => cases content <;> simp_all [controlStep]
  | shutdown | restart =>
      cases h : s.kernel <;> simp_all [controlStep, Kernel.lifecycle, KernelStatus.ofKernel]
  | kernelErrored errorMessage => rfl
  | launchDone task result | wake task msgId =>
      simp only [controlStep] at hchange ⊢
      split <;> simp_all [KernelStatus.ofKernel]
  | _ => exact absurd rfl hchange

theorem lifecycle_change_reported_on_launch :
    let s := Session.new ⟨"x".toList, fun _ => true⟩
    (s.step (.launchDone 1 (.ok .idle))).kernel.lifecycle ≠ s.kernel.lifecycle ∧
      ¬((Action.launchDone 1 (.ok .idle) = .shutdown ∨ Action.launchDone 1 (.ok .idle) = .restart) ∧
        s.kernel.lifecycle = .runningKernel) ∧
      ∃ reports, (s.step (.launchDone 1 (.ok .idle))).telemetry = s.telemetry ++ reports ∧
        reports.getLast? = some (KernelStatus.ofKernel (s.step (.launchDone 1 (.ok .idle))).kernel) :=
  have hchange : ((Session.new ⟨"x".toList, fun _ => true⟩).step
      (.launchDone 1 (.ok .idle))).kernel.lifecycle ≠
      (Session.new ⟨"x".toList, fun _ => true⟩).kernel.lifecycle := by decide
  have hpath : ¬((Action.launchDone 1 (.ok .idle) = .shutdown ∨
      Action.launchDone 1 (.ok .idle) = .restart) ∧
      (Session.new ⟨"x".toList, fun _ => true⟩).kernel.lifecycle = .runningKernel) := by simp
  ⟨hchange, hpath, lifecycle_change_reported _ _ hchange hpath⟩

/-! Ending with no outputs. -/

-- A session shut down while its kernel starts keeps its outputs: `shutdown` spawns no
-- continuation, and nothing clears the blocks.
theorem shutdown_while_starting_keeps_outputs :
    let s : Session := (Session.new ⟨"x".toList, fun _ => true⟩).step
      (.execute "x" ⟨⟨0⟩, ⟨1⟩⟩ none false "a")
    s.kernel = .startingKernel 1 ∧ s.shutdown.kernel = .shutdown ∧ s.shutdown.tasks = s.tasks ∧
      s.shutdown.blocks.entries.length = 1 ∧ s.shutdown.customBlocks.length = 1 := by
  decide

theorem lookup_setTask (l : List (Nat × Continuation)) (task : Nat) (c : Continuation) :
    (l.map fun t => if t.1 = task then (task, c) else t).lookup task =
      (l.lookup task).map fun _ => c := by
  induction l with
  | nil => rfl
  | cons t l ih =>
      obtain ⟨id, c'⟩ := t
      by_cases h : id = task
      · subst h; simp [List.lookup_cons]
      · have hne : (task == id) = false := by simpa using Ne.symm h
        simp [List.lookup_cons, h, hne, ih]

namespace Session

variable (s : Session)

theorem spawn_lookup (c : Continuation) (hfree : s.tasks.lookup s.nextTask = none) :
    (s.spawn c).2.tasks.lookup s.nextTask = some c := by
  simp [List.lookup_append, hfree]

-- The first segment of a grace period hands over its request and leaves the second pending.
theorem wake_shutdownGrace_lookup {task requestTx : Nat}
    (h : s.tasks.lookup task = some (.shutdownGrace requestTx false)) (msgId : String) :
    (s.wake task msgId).tasks.lookup task = some (.shutdownGrace requestTx true) := by
  simp [wake, h, resume, lookup_setTask]

theorem wake_restartGrace_lookup {task requestTx : Nat}
    (h : s.tasks.lookup task = some (.restartGrace requestTx false)) (msgId : String) :
    (s.wake task msgId).tasks.lookup task = some (.restartGrace requestTx true) := by
  simp [wake, h, resume, lookup_setTask]

-- The last segment of a grace period clears the blocks.
theorem wake_endsGrace_blocks {task : Nat} {c : Continuation} (h : s.tasks.lookup task = some c)
    (hc : c.endsGrace = true) (msgId : String) : (s.wake task msgId).blocks.entries = [] := by
  rw [← ledger_blocks, wake_ledger, h]
  simp [hc, Ledger.clear]

end Session

-- From a running kernel, `shutdown` and `restart` each end, once both segments of their grace
-- period have run, with no blocks: the kernel shut down, or starting again. Outside
-- `Restarting`, `restart` of any other kernel clears the blocks and starts a kernel at once.
theorem shutdown_and_restart_end_without_blocks :
    (∀ (s : Session) (kernel : RunningKernel) (msgId₁ msgId₂ : String),
      s.kernel = .runningKernel kernel → s.tasks.lookup s.nextTask = none →
      let shut := (s.shutdown.wake s.nextTask msgId₁).wake s.nextTask msgId₂
      let restarted := (s.restart.wake s.nextTask msgId₁).wake s.nextTask msgId₂
      shut.kernel = .shutdown ∧ shut.blocks.entries = [] ∧
        restarted.kernel.lifecycle = .startingKernel ∧ restarted.blocks.entries = []) ∧
    ∀ (s : Session), s.kernel.lifecycle ≠ .restarting → s.kernel.lifecycle ≠ .runningKernel →
      s.restart.kernel.lifecycle = .startingKernel ∧ s.restart.blocks.entries = [] := by
  refine ⟨fun s kernel msgId₁ msgId₂ hk hfree => ?_, fun s hrestarting hrunning => ?_⟩
  · have hshut := s.shutdown.wake_shutdownGrace_lookup (by
      simpa [Session.shutdown, hk] using
        ({ s with kernel := .shuttingDown } : Session).spawn_lookup _ hfree) msgId₁
    have hrestart := s.restart.wake_restartGrace_lookup (by
      simpa [Session.restart, hk] using
        ({ s with kernel := .restarting } : Session).spawn_lookup _ hfree) msgId₁
    refine ⟨?_, Session.wake_endsGrace_blocks _ hshut rfl msgId₂, ?_,
      Session.wake_endsGrace_blocks _ hrestart rfl msgId₂⟩
    · rw [(Session.wake_control _ _ _).1]; simp [controlStep, hshut]
    · rw [(Session.wake_control _ _ _).1]; simp [controlStep, hrestart, Kernel.lifecycle]
  · have hk := (s.step_control .restart).1
    have hblocks := congrArg Ledger.blocks (s.restart_ledger)
    cases h : s.kernel <;> simp_all [Session.step, controlStep, Kernel.lifecycle, Ledger.clear]

theorem shutdown_and_restart_end_without_blocks_after_launch :
    let s := (Session.new ⟨"x".toList, fun _ => true⟩).run
      [.launchDone 1 (.ok .idle), .execute "x" ⟨⟨0⟩, ⟨1⟩⟩ none false "a"]
    let errored := (Session.new ⟨"x".toList, fun _ => true⟩).run
      [.launchDone 1 (.error "no kernel"), .execute "x" ⟨⟨0⟩, ⟨1⟩⟩ none false "a"]
    (s.kernel = .runningKernel ⟨1, .idle, none⟩ ∧ s.tasks.lookup s.nextTask = none ∧
      ((s.shutdown.wake s.nextTask "s").wake s.nextTask "t").kernel = .shutdown ∧
      ((s.shutdown.wake s.nextTask "s").wake s.nextTask "t").blocks.entries = [] ∧
      ((s.restart.wake s.nextTask "s").wake s.nextTask "t").kernel.lifecycle = .startingKernel ∧
      ((s.restart.wake s.nextTask "s").wake s.nextTask "t").blocks.entries = []) ∧
    (errored.kernel.lifecycle ≠ .restarting ∧ errored.kernel.lifecycle ≠ .runningKernel ∧
      errored.restart.kernel.lifecycle = .startingKernel ∧ errored.restart.blocks.entries = []) :=
  have hk : ((Session.new ⟨"x".toList, fun _ => true⟩).run
      [.launchDone 1 (.ok .idle), .execute "x" ⟨⟨0⟩, ⟨1⟩⟩ none false "a"]).kernel =
      .runningKernel ⟨1, .idle, none⟩ := by decide
  have hfree : ((Session.new ⟨"x".toList, fun _ => true⟩).run
      [.launchDone 1 (.ok .idle), .execute "x" ⟨⟨0⟩, ⟨1⟩⟩ none false "a"]).tasks.lookup
      ((Session.new ⟨"x".toList, fun _ => true⟩).run
      [.launchDone 1 (.ok .idle), .execute "x" ⟨⟨0⟩, ⟨1⟩⟩ none false "a"]).nextTask = none := by
    decide
  have herrored : ((Session.new ⟨"x".toList, fun _ => true⟩).run
      [.launchDone 1 (.error "no kernel"), .execute "x" ⟨⟨0⟩, ⟨1⟩⟩ none false "a"]).kernel.lifecycle =
      .erroredLaunch := by decide
  ⟨⟨hk, hfree, shutdown_and_restart_end_without_blocks.1 _ _ "s" "t" hk hfree⟩,
    ⟨by rw [herrored]; decide, by rw [herrored]; decide,
      shutdown_and_restart_end_without_blocks.2 _ (by rw [herrored]; decide)
        (by rw [herrored]; decide)⟩⟩

end ReplSession

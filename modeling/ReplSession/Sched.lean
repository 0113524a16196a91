import ReplSession.Dispatch

namespace ReplSession

-- The part of a session that decides what reaches the kernels: the kernel, the pending
-- continuations and the executor's next task id, the launch tasks that have resolved, what the
-- transports' request channels were handed, and whether the editor still has a workspace.
-- The blocks, the buffer and the execution views never bear on it.
structure Sched where
  kernel : Kernel
  tasks : List (Nat × Continuation)
  nextTask : Nat
  resolved : List Nat
  requests : List (Nat × JupyterMessage)
  workspace : Bool

namespace Sched

variable (x : Sched)

/-! The session's methods on this part of it. -/

def spawn (c : Continuation) : Nat × Sched :=
  (x.nextTask, { x with tasks := x.tasks ++ [(x.nextTask, c)], nextTask := x.nextTask + 1 })

def finish (task : Nat) : Sched :=
  { x with tasks := x.tasks.filter (·.1 ≠ task) }

def dropKernel (kernel : Kernel) : Sched :=
  match kernel with
  | .startingKernel task => if x.tasks.any fun t => t.2.awaits task then x else x.finish task
  | _ => x

def setTask (task : Nat) (c : Continuation) : Sched :=
  { x with tasks := x.tasks.map fun t => if t.1 = task then (task, c) else t }

def sendOn (requestTx : Nat) (message : JupyterMessage) : Sched :=
  { x with requests := x.requests ++ [(requestTx, message)] }

def setKernel (kernel : Kernel) : Sched :=
  ({ x with kernel := kernel } : Sched).dropKernel x.kernel

def startKernel : Sched :=
  let (pendingKernel, x) := x.spawn .launch
  x.setKernel (.startingKernel pendingKernel)

def kernelErrored (errorMessage : String) : Sched :=
  x.setKernel (.erroredLaunch errorMessage)

def launchCompleted (task : Nat) (result : Except String ExecutionState) : Sched :=
  match result with
  | .ok executionState => x.setKernel (.runningKernel ⟨task, executionState, none⟩)
  | .error err => x.kernelErrored err

def send (message : JupyterMessage) : Sched :=
  match x.kernel with
  | .runningKernel kernel => x.sendOn kernel.transport message
  | _ => x

def dispatch (message : JupyterMessage) : Sched :=
  match x.kernel with
  | .runningKernel _ => x.send message
  | .startingKernel task => (x.spawn (.queuedSend task message)).2
  | _ => x

-- `execute` dispatches its request when it can build a block, that is with a workspace.
def execute (code msgId : String) : Sched :=
  if code.isEmpty then x else
  if x.workspace then x.dispatch ⟨⟨msgId⟩, none, .executeRequest code⟩ else x

def route (message : JupyterMessage) : Sched :=
  match message.parentHeader with
  | none => x
  | some _ =>
    match message.content with
    | .status executionState => { x with kernel := x.kernel.setExecutionState executionState }
    | .kernelInfoReply reply => { x with kernel := x.kernel.setKernelInfo reply }
    | _ => x

def interrupt (msgId : String) : Sched :=
  match x.kernel with
  | .runningKernel _ => x.send ⟨⟨msgId⟩, none, .interruptRequest⟩
  | .startingKernel _ => x
  | _ => x

def shutdown : Sched :=
  let kernel := x.kernel
  let x := { x with kernel := .shuttingDown }
  match kernel with
  | .runningKernel kernel => (x.spawn (.shutdownGrace kernel.transport false)).2
  | _ => (x.setKernel .shutdown).dropKernel kernel

def restart : Sched :=
  let kernel := x.kernel
  let x := { x with kernel := .restarting }
  match kernel with
  | .restarting => x
  | .runningKernel kernel => (x.spawn (.restartGrace kernel.transport false)).2
  | _ => x.startKernel.dropKernel kernel

def launchDone (task : Nat) (result : Except String ExecutionState) : Sched :=
  match x.tasks.lookup task with
  | some .launch => ({ x.finish task with resolved := x.resolved ++ [task] }).launchCompleted task result
  | _ => x

def resume (task : Nat) (msgId : String) : Continuation → Sched
  | .launch => x
  | .queuedSend launch message =>
    if launch ∈ x.resolved then (x.finish task).send message else x
  | .shutdownGrace requestTx false =>
    (x.setTask task (.shutdownGrace requestTx true)).sendOn requestTx
      ⟨⟨msgId⟩, none, .shutdownRequest false⟩
  | .shutdownGrace _ true => (x.finish task).setKernel .shutdown
  | .restartGrace requestTx false =>
    (x.setTask task (.restartGrace requestTx true)).sendOn requestTx
      ⟨⟨msgId⟩, none, .shutdownRequest true⟩
  | .restartGrace _ true => (x.finish task).startKernel

def wake (task : Nat) (msgId : String) : Sched :=
  match x.tasks.lookup task with
  | some c => x.resume task msgId c
  | none => x

def step : Action → Sched
  | .execute code _ _ _ msgId => x.execute code msgId
  | .route message => x.route message
  | .interrupt msgId => x.interrupt msgId
  | .shutdown => x.shutdown
  | .restart => x.restart
  | .kernelErrored errorMessage => x.kernelErrored errorMessage
  | .launchDone task result => x.launchDone task result
  | .wake task msgId => x.wake task msgId
  | .dropWorkspace => { x with workspace := false }
  | .bufferEvent _ | .clearOutputs | .close _ | .edit _ => x

def run (actions : List Action) : Sched :=
  actions.foldl step x

-- Dropping a kernel can only cancel a task.
theorem dropKernel_eq (kernel : Kernel) : ∃ tasks, x.dropKernel kernel = { x with tasks := tasks } := by
  unfold dropKernel; split
  · split
    · exact ⟨_, rfl⟩
    · exact ⟨_, rfl⟩
  · exact ⟨_, rfl⟩

-- It cancels only the launch of the kernel it drops.
theorem mem_dropKernel {kernel : Kernel} {e : Nat × Continuation} (he : e ∈ x.tasks)
    (hne : ∀ t, kernel = .startingKernel t → e.1 ≠ t) : e ∈ (x.dropKernel kernel).tasks := by
  unfold dropKernel; split
  · split
    · exact he
    · exact List.mem_filter.mpr ⟨he, by simpa using hne _ rfl⟩
  · exact he

@[simp] theorem run_nil : x.run [] = x := rfl

@[simp] theorem run_cons (a : Action) (actions : List Action) :
    x.run (a :: actions) = (x.step a).run actions := rfl

/-! What the operations leave of the kernel and of the resolved launches. -/

@[simp] theorem spawn_kernel (c : Continuation) : (x.spawn c).2.kernel = x.kernel := rfl
@[simp] theorem spawn_resolved (c : Continuation) : (x.spawn c).2.resolved = x.resolved := rfl
@[simp] theorem finish_kernel (task : Nat) : (x.finish task).kernel = x.kernel := rfl
@[simp] theorem finish_resolved (task : Nat) : (x.finish task).resolved = x.resolved := rfl
@[simp] theorem finish_requests (task : Nat) : (x.finish task).requests = x.requests := rfl

@[simp] theorem dropKernel_kernel (kernel : Kernel) : (x.dropKernel kernel).kernel = x.kernel := by
  obtain ⟨_, h⟩ := x.dropKernel_eq kernel; rw [h]

@[simp] theorem dropKernel_resolved (kernel : Kernel) :
    (x.dropKernel kernel).resolved = x.resolved := by
  obtain ⟨_, h⟩ := x.dropKernel_eq kernel; rw [h]

@[simp] theorem dropKernel_requests (kernel : Kernel) :
    (x.dropKernel kernel).requests = x.requests := by
  obtain ⟨_, h⟩ := x.dropKernel_eq kernel; rw [h]

@[simp] theorem setKernel_kernel (kernel : Kernel) : (x.setKernel kernel).kernel = kernel :=
  dropKernel_kernel _ _

@[simp] theorem setKernel_resolved (kernel : Kernel) :
    (x.setKernel kernel).resolved = x.resolved :=
  dropKernel_resolved _ _

@[simp] theorem setKernel_requests (kernel : Kernel) :
    (x.setKernel kernel).requests = x.requests :=
  dropKernel_requests _ _

@[simp] theorem startKernel_kernel : x.startKernel.kernel = .startingKernel x.nextTask :=
  setKernel_kernel _ _

@[simp] theorem startKernel_resolved : x.startKernel.resolved = x.resolved :=
  setKernel_resolved _ _

@[simp] theorem startKernel_requests : x.startKernel.requests = x.requests :=
  setKernel_requests _ _

end Sched

namespace Session

def sched (s : Session) : Sched :=
  ⟨s.kernel, s.tasks, s.nextTask, s.resolved, s.requests, s.workspace⟩

variable (s : Session)

@[simp] theorem sched_kernel : s.sched.kernel = s.kernel := rfl
@[simp] theorem sched_tasks : s.sched.tasks = s.tasks := rfl
@[simp] theorem sched_resolved : s.sched.resolved = s.resolved := rfl
@[simp] theorem sched_requests : s.sched.requests = s.requests := rfl
@[simp] theorem sched_workspace : s.sched.workspace = s.workspace := rfl

@[simp] theorem sched_selection (selection : Option AnchorRange) :
    ({ s with selection := selection }).sched = s.sched := rfl

/-! The session refines its executor part: each method acts on it as the executor's own does. -/

theorem spawn_sched (c : Continuation) : (s.spawn c).2.sched = (s.sched.spawn c).2 := rfl

theorem finish_sched (task : Nat) : (s.finish task).sched = s.sched.finish task := rfl

theorem sendOn_sched (requestTx : Nat) (message : JupyterMessage) :
    (s.sendOn requestTx message).sched = s.sched.sendOn requestTx message := rfl

theorem dropKernel_sched (kernel : Kernel) : (s.dropKernel kernel).sched = s.sched.dropKernel kernel := by
  cases kernel with
  | startingKernel task =>
      cases h : s.tasks.any (fun t => t.2.awaits task) <;>
        simp only [dropKernel, Sched.dropKernel, sched_tasks, h, finish_sched, Bool.false_eq_true,
          if_true, if_false]
  | _ => rfl

theorem setKernel_sched (kernel : Kernel) :
    (s.setKernel kernel).sched = s.sched.setKernel kernel :=
  dropKernel_sched _ s.kernel

theorem startKernel_sched : s.startKernel.sched = s.sched.startKernel :=
  setKernel_sched _ _

theorem forEachBlockView_sched (f : ExecutionView → ExecutionView) :
    (s.forEachBlockView f).sched = s.sched := by
  rw [forEachBlockView_eq]; rfl

theorem kernelErrored_sched (errorMessage : String) :
    (s.kernelErrored errorMessage).sched = s.sched.kernelErrored errorMessage := by
  rw [kernelErrored, forEachBlockView_sched, setKernel_sched]; rfl

theorem launchCompleted_sched (task : Nat) (result : Except String ExecutionState) :
    (s.launchCompleted task result).sched = s.sched.launchCompleted task result := by
  cases result
  · exact kernelErrored_sched s _
  · exact setKernel_sched s _

theorem send_sched (message : JupyterMessage) : (s.send message).sched = s.sched.send message := by
  cases h : s.kernel <;> simp only [send, Sched.send, sched_kernel, h, sendOn_sched]

theorem dispatch_sched (message : JupyterMessage) :
    (s.dispatch message).sched = s.sched.dispatch message := by
  cases h : s.kernel <;> simp only [dispatch, Sched.dispatch, sched_kernel, h, send_sched, spawn_sched]

theorem execute_sched (code : String) (anchorRange : AnchorRange) (nextCell : Option Anchor)
    (moveDown : Bool) (msgId : String) :
    (s.execute code anchorRange nextCell moveDown msgId).sched = s.sched.execute code msgId := by
  cases hcode : code.isEmpty
  · cases hw : s.workspace
    · rw [execute_of_workspace_false s code hcode hw, Sched.execute, if_neg (by simp [hcode]),
        if_neg (by simpa using hw)]
      rfl
    · obtain ⟨anchor, buffer, selection, h⟩ :=
        execute_of_workspace s code hcode hw anchorRange nextCell moveDown msgId
      rw [h, sched_selection, dispatch_sched, Sched.execute, if_neg (by simp [hcode]),
        if_pos (show s.sched.workspace = true from hw)]
      rfl
  · rw [execute_of_isEmpty s code hcode, Sched.execute, if_pos hcode]

theorem deliver_sched (parent : String) (message : JupyterMessage) :
    (s.deliver parent message).sched = s.sched := by
  unfold deliver; split <;> rfl

theorem route_sched (message : JupyterMessage) : (s.route message).sched = s.sched.route message := by
  obtain ⟨_, parentHeader, content⟩ := message
  cases parentHeader with
  | none => rfl
  | some parent =>
      cases content with
      | updateDisplayData displayId data =>
          cases displayId
          · rfl
          · exact forEachBlockView_sched _ _
      | _ => exact deliver_sched _ _ _

theorem interrupt_sched (msgId : String) :
    (s.interrupt msgId).sched = s.sched.interrupt msgId := by
  cases h : s.kernel <;> simp only [interrupt, Sched.interrupt, sched_kernel, h, send_sched]

theorem shutdown_sched : s.shutdown.sched = s.sched.shutdown := by
  cases h : s.kernel <;>
    simp only [shutdown, Sched.shutdown, sched_kernel, h, dropKernel_sched, setKernel_sched] <;> rfl

theorem restart_sched : s.restart.sched = s.sched.restart := by
  cases h : s.kernel <;>
    simp only [restart, Sched.restart, sched_kernel, h, dropKernel_sched, startKernel_sched] <;> rfl

theorem launchDone_sched (task : Nat) (result : Except String ExecutionState) :
    (s.launchDone task result).sched = s.sched.launchDone task result := by
  cases h : s.tasks.lookup task with
  | none => simp only [launchDone, Sched.launchDone, sched_tasks, h]
  | some c =>
      cases c <;> simp only [launchDone, Sched.launchDone, sched_tasks, h]
      exact launchCompleted_sched _ _ _

theorem resume_sched (task : Nat) (msgId : String) (c : Continuation) :
    (s.resume task msgId c).sched = s.sched.resume task msgId c := by
  cases c with
  | launch => rfl
  | queuedSend launch message =>
      simp only [resume, Sched.resume, sched_resolved]
      split
      · exact send_sched _ _
      · rfl
  | shutdownGrace requestTx requested =>
      cases requested
      · rfl
      · exact setKernel_sched _ _
  | restartGrace requestTx requested =>
      cases requested
      · rfl
      · exact startKernel_sched _

theorem wake_sched (task : Nat) (msgId : String) :
    (s.wake task msgId).sched = s.sched.wake task msgId := by
  cases h : s.tasks.lookup task with
  | none => simp only [wake, Sched.wake, sched_tasks, h]
  | some c =>
      simp only [wake, Sched.wake, sched_tasks, h]
      exact resume_sched _ _ _ _

theorem onBufferEvent_sched (event : BufferEvent) : (s.onBufferEvent event).sched = s.sched := by
  unfold onBufferEvent; split
  · dsimp only; split <;> rfl
  · rfl

theorem close_sched (blockId : Nat) : (s.close blockId).sched = s.sched := by
  unfold close; split <;> rfl

theorem step_sched (a : Action) : (s.step a).sched = s.sched.step a := by
  cases a with
  | execute code anchorRange nextCell moveDown msgId =>
      exact execute_sched s code anchorRange nextCell moveDown msgId
  | route message => exact route_sched s message
  | interrupt msgId => exact interrupt_sched s msgId
  | bufferEvent event => exact onBufferEvent_sched s event
  | clearOutputs => rfl
  | close blockId => exact close_sched s blockId
  | shutdown => exact shutdown_sched s
  | restart => exact restart_sched s
  | kernelErrored errorMessage => exact kernelErrored_sched s errorMessage
  | launchDone task result => exact launchDone_sched s task result
  | wake task msgId => exact wake_sched s task msgId
  | edit buffer => rfl
  | dropWorkspace => rfl

theorem run_sched (actions : List Action) : (s.run actions).sched = s.sched.run actions := by
  induction actions generalizing s with
  | nil => rfl
  | cons a actions ih => rw [run_cons, Sched.run_cons, ih, step_sched]

end Session

end ReplSession

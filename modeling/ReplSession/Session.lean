import Mathlib.Logic.Function.Basic
import ReplSession.BlockMap
import ReplSession.Kernel

namespace ReplSession

-- What an execution view is handed: `push_message` and `update_display_data` calls.
inductive ViewInput
  | message (content : JupyterMessageContent)
  | displayData (data : String) (displayId : String)
deriving DecidableEq, Repr

/-- Modelled from the spec: an `ExecutionView` is an execution's output, a status and the
accumulated, append-only record of what it was handed. How it renders its inputs is its own. -/
structure ExecutionView where
  status : ExecutionStatus
  received : List ViewInput
deriving DecidableEq, Repr

namespace ExecutionView

def new (status : ExecutionStatus) : ExecutionView :=
  ⟨status, []⟩

-- `push_message`: the view records the message, and the kernel's status report for the
-- execution moves it to running (`busy`) or finished (`idle`).
def pushMessage (view : ExecutionView) (content : JupyterMessageContent) : ExecutionView :=
  { status := match content with
      | .status .busy => .executing
      | .status .idle => .finished
      | _ => view.status
    received := view.received ++ [.message content] }

-- A message leaves the view's status, or sets it running or finished.
theorem pushMessage_status (view : ExecutionView) (content : JupyterMessageContent) :
    (view.pushMessage content).status = view.status ∨ (view.pushMessage content).status = .executing ∨
      (view.pushMessage content).status = .finished := by
  rcases content with (_ | _) | _ | _ | _ | _ | _ | _
  · exact .inr (.inr rfl)
  · exact .inr (.inl rfl)
  all_goals exact .inl rfl

def updateDisplayData (view : ExecutionView) (data displayId : String) : ExecutionView :=
  { view with received := view.received ++ [.displayData data displayId] }

end ExecutionView

-- A custom block of the editor as `EditorBlock::new` registers it: below the code, rendering
-- an execution view, with a close control whose callback captures its execution's request id.
structure CustomBlock where
  id : Nat
  placement : Anchor
  executionView : Nat
  onClose : String
deriving DecidableEq, Repr

-- `multi_buffer::Event`: only `Edited` concerns the session.
inductive BufferEvent
  | edited
  | other
deriving DecidableEq, Repr

inductive SessionEvent
  | shutdown
deriving DecidableEq, Repr

-- A spawned task between two of its polls.
inductive Continuation
  -- the shared launch task of `start_kernel`
  | launch
  -- the send `execute` queues on a launch task
  | queuedSend (launch : Nat) (message : JupyterMessage)
  -- the grace periods of `shutdown` and `restart`, on the old kernel's request channel,
  -- before and after they hand it their `ShutdownRequest`
  | shutdownGrace (requestTx : Nat) (requested : Bool)
  | restartGrace (requestTx : Nat) (requested : Bool)
deriving DecidableEq, Repr

-- A queued send holds a handle on the shared launch task it awaits.
def Continuation.awaits (task : Nat) : Continuation → Bool
  | .queuedSend pending _ => pending == task
  | _ => false

-- The session's fields and the parts of the app it reaches through its context: the
-- editor, the execution views, the executor, the transports' request channels, telemetry and
-- emitted events. `issued` records the ids of the execute requests created so far.
structure Session where
  kernel : Kernel
  blocks : BlockMap
  buffer : Buffer
  workspace : Bool
  customBlocks : List CustomBlock
  nextBlockId : Nat
  selection : Option AnchorRange
  views : Nat → ExecutionView
  nextView : Nat
  tasks : List (Nat × Continuation)
  nextTask : Nat
  resolved : List Nat
  requests : List (Nat × JupyterMessage)
  telemetry : List KernelStatus
  events : List SessionEvent
  issued : List String

namespace Session

/-! The context's operations. -/

-- `cx.new_view`
def newView (s : Session) (view : ExecutionView) : Nat × Session :=
  (s.nextView, { s with views := Function.update s.views s.nextView view,
                        nextView := s.nextView + 1 })

def updateView (s : Session) (view : Nat) (f : ExecutionView → ExecutionView) : Session :=
  { s with views := Function.update s.views view (f (s.views view)) }

-- `execution_view.update` on the view of every block.
def forEachBlockView (s : Session) (f : ExecutionView → ExecutionView) : Session :=
  s.blocks.values.foldl (fun s block => s.updateView block.executionView f) s

-- `cx.spawn`
def spawn (s : Session) (c : Continuation) : Nat × Session :=
  (s.nextTask, { s with tasks := s.tasks ++ [(s.nextTask, c)], nextTask := s.nextTask + 1 })

def finish (s : Session) (task : Nat) : Session :=
  { s with tasks := s.tasks.filter (·.1 ≠ task) }

-- Dropping a kernel. A starting kernel holds a handle on its shared launch task, and a spawned
-- task is cancelled with its last handle: the launch stops unless a queued send awaits it.
def dropKernel (s : Session) (kernel : Kernel) : Session :=
  match kernel with
  | .startingKernel task => if s.tasks.any fun t => t.2.awaits task then s else s.finish task
  | _ => s

def setTask (s : Session) (task : Nat) (c : Continuation) : Session :=
  { s with tasks := s.tasks.map fun t => if t.1 = task then (task, c) else t }

-- `Editor::insert_blocks` of one block.
def insertBlock (s : Session) (placement : Anchor) (executionView : Nat) (onClose : String) :
    Nat × Session :=
  (s.nextBlockId, { s with
    customBlocks := s.customBlocks ++ [⟨s.nextBlockId, placement, executionView, onClose⟩],
    nextBlockId := s.nextBlockId + 1 })

-- `Editor::remove_blocks`
def removeBlocks (s : Session) (ids : List Nat) : Session :=
  { s with customBlocks := s.customBlocks.filter (·.id ∉ ids) }

-- `request_tx.try_send` on a transport's request channel.
def sendOn (s : Session) (requestTx : Nat) (message : JupyterMessage) : Session :=
  { s with requests := s.requests ++ [(requestTx, message)] }

/-! The session's methods. -/

-- `Session::kernel`: every new kernel is reported to telemetry, and `Shutdown` also emits an
-- event. The kernel it replaces is dropped.
def setKernel (s : Session) (kernel : Kernel) : Session :=
  ({ s with
    events := if kernel = .shutdown then s.events ++ [.shutdown] else s.events
    telemetry := s.telemetry ++ [KernelStatus.ofKernel kernel]
    kernel := kernel } : Session).dropKernel s.kernel

-- `Session::start_kernel`
def startKernel (s : Session) : Session :=
  let s := { s with telemetry := s.telemetry ++ [KernelStatus.starting] }
  let (pendingKernel, s) := s.spawn .launch
  s.setKernel (.startingKernel pendingKernel)

-- `Session::kernel_errored`: every block whose output did not finish shows the error.
def kernelErrored (s : Session) (errorMessage : String) : Session :=
  (s.setKernel (.erroredLaunch errorMessage)).forEachBlockView fun view =>
    match view.status with
    | .finished => view
    | _ => { view with status := .kernelErrored errorMessage }

-- The body of `start_kernel`'s launch task once the launch resolved.
def launchCompleted (s : Session) (task : Nat) (result : Except String ExecutionState) :
    Session :=
  match result with
  | .ok executionState => s.setKernel (.runningKernel ⟨task, executionState, none⟩)
  | .error err => s.kernelErrored err

-- `Session::on_buffer_event`: blocks whose invalidation anchor is no longer valid are dropped,
-- with their custom blocks, in one batch.
def onBufferEvent (s : Session) (event : BufferEvent) : Session :=
  match event with
  | .edited =>
    let snapshot := s.buffer
    let keep := fun (block : EditorBlock) => snapshot.isValid block.invalidationAnchor
    let blocksToRemove := s.blocks.rejectedIds keep
    let s := { s with blocks := s.blocks.retain keep }
    if blocksToRemove.isEmpty then s else s.removeBlocks blocksToRemove
  | .other => s

-- `Session::send`: only a running kernel's request channel takes the message.
def send (s : Session) (message : JupyterMessage) : Session :=
  match s.kernel with
  | .runningKernel kernel => s.sendOn kernel.transport message
  | _ => s

-- `Session::clear_outputs`
def clearOutputs (s : Session) : Session :=
  let blocksToRemove := s.blocks.values.map (·.blockId)
  { s.removeBlocks blocksToRemove with blocks := BlockMap.empty }

end Session

-- `EditorBlock::new`: the execution view, a line break at the end of the buffer when the row
-- after the code does not exist yet, the invalidation anchor at the start of that row, and the
-- custom block below the code.
def EditorBlock.new (s : Session) (codeRange : AnchorRange) (status : ExecutionStatus)
    (onClose : String) : Except String (EditorBlock × Session) :=
  if !s.workspace then .error "workspace dropped" else
  let (executionView, s) := s.newView (ExecutionView.new status)
  let endPoint := s.buffer.toPoint codeRange.end
  let nextRowStart := endPoint + ⟨1, 0⟩
  let s := if s.buffer.maxPoint < nextRowStart then
    { s with buffer := s.buffer.edit (s.buffer.maxPoint, s.buffer.maxPoint) ['\n'] } else s
  let invalidationAnchor := s.buffer.anchorBefore nextRowStart
  let (blockId, s) := s.insertBlock codeRange.end executionView onClose
  .ok (⟨codeRange, invalidationAnchor, blockId, executionView⟩, s)

-- `EditorBlock::handle_message`
def EditorBlock.handleMessage (block : EditorBlock) (message : JupyterMessage) (s : Session) :
    Session :=
  s.updateView block.executionView (·.pushMessage message.content)

namespace Session

-- The close control's callback, `on_close` of `execute`: it drops its execution's block and
-- removes its own custom block.
def onClose (s : Session) (parentMessageId : String) (blockId : Nat) : Session :=
  ({ s with blocks := s.blocks.remove parentMessageId }).removeBlocks [blockId]

-- The end of `execute`: a running kernel gets the request now, a starting kernel once its
-- launch task resolves, any other kernel never.
def dispatch (s : Session) (message : JupyterMessage) : Session :=
  match s.kernel with
  | .runningKernel _ => s.send message
  | .startingKernel task => (s.spawn (.queuedSend task message)).2
  | _ => s

-- The eviction in `execute`: blocks whose code range overlaps the executed range are dropped,
-- with their custom blocks.
def evictOverlapping (s : Session) (anchorRange : AnchorRange) : Session :=
  let keep := fun (block : EditorBlock) => !anchorRange.overlaps block.codeRange
  let blocksToRemove := s.blocks.rejectedIds keep
  ({ s with blocks := s.blocks.retain keep }).removeBlocks blocksToRemove

-- `Session::execute`. `msgId` is the id the new `ExecuteRequest` gets.
def execute (s : Session) (code : String) (anchorRange : AnchorRange) (nextCell : Option Anchor)
    (moveDown : Bool) (msgId : String) : Session :=
  if code.isEmpty then s else
  let message : JupyterMessage := ⟨⟨msgId⟩, none, .executeRequest code⟩
  let s := ({ s with issued := s.issued ++ [msgId] }).evictOverlapping anchorRange
  match EditorBlock.new s anchorRange (ExecutionStatus.ofKernel s.kernel) msgId with
  | .error _ => s
  | .ok (editorBlock, s) =>
    let newCursorPos := nextCell.getD editorBlock.invalidationAnchor
    let s := ({ s with blocks := s.blocks.insert msgId editorBlock }).dispatch message
    if moveDown then { s with selection := some ⟨newCursorPos, newCursorPos⟩ } else s

-- The end of `route`: the block of the parent id, if there is one, handles the message.
def deliver (s : Session) (parentMessageId : String) (message : JupyterMessage) : Session :=
  match s.blocks.get? parentMessageId with
  | some block => block.handleMessage message s
  | none => s

-- `Session::route`
def route (s : Session) (message : JupyterMessage) : Session :=
  match message.parentHeader with
  | none => s
  | some header =>
    match message.content with
    | .status executionState =>
      let s := { s with kernel := s.kernel.setExecutionState executionState }
      let s := { s with telemetry := s.telemetry ++ [KernelStatus.ofKernel s.kernel] }
      s.deliver header.msgId message
    | .kernelInfoReply reply =>
      ({ s with kernel := s.kernel.setKernelInfo reply }).deliver header.msgId message
    | .updateDisplayData none _ => s
    | .updateDisplayData (some displayId) data =>
      s.forEachBlockView (·.updateDisplayData data displayId)
    | _ => s.deliver header.msgId message

-- `Session::interrupt`
def interrupt (s : Session) (msgId : String) : Session :=
  match s.kernel with
  | .runningKernel _ => s.send ⟨⟨msgId⟩, none, .interruptRequest⟩
  | .startingKernel _ => s
  | _ => s

-- `Session::shutdown`: a running kernel gets a grace period, any other kernel is shut down at
-- once and dropped at the end.
def shutdown (s : Session) : Session :=
  let kernel := s.kernel
  let s := { s with kernel := .shuttingDown }
  match kernel with
  | .runningKernel kernel => (s.spawn (.shutdownGrace kernel.transport false)).2
  | _ => (s.setKernel .shutdown).dropKernel kernel

-- `Session::restart`
def restart (s : Session) : Session :=
  let kernel := s.kernel
  let s := { s with kernel := .restarting }
  match kernel with
  | .restarting => s
  | .runningKernel kernel => (s.spawn (.restartGrace kernel.transport false)).2
  | _ => s.clearOutputs.startKernel.dropKernel kernel

/-! The continuations. -/

-- A launch task resolves: it installs its outcome, and the sends queued on it may run.
def launchDone (s : Session) (task : Nat) (result : Except String ExecutionState) : Session :=
  match s.tasks.lookup task with
  | some .launch => ({ s.finish task with resolved := s.resolved ++ [task] }).launchCompleted task result
  | _ => s

-- The next segment of continuation `c`, pending as `task`. `msgId` is the id of a message it
-- creates.
def resume (s : Session) (task : Nat) (msgId : String) : Continuation → Session
  | .launch => s
  | .queuedSend launch message =>
    if launch ∈ s.resolved then (s.finish task).send message else s
  | .shutdownGrace requestTx false =>
    (s.setTask task (.shutdownGrace requestTx true)).sendOn requestTx
      ⟨⟨msgId⟩, none, .shutdownRequest false⟩
  | .shutdownGrace _ true => ((s.finish task).clearOutputs).setKernel .shutdown
  | .restartGrace requestTx false =>
    (s.setTask task (.restartGrace requestTx true)).sendOn requestTx
      ⟨⟨msgId⟩, none, .shutdownRequest true⟩
  | .restartGrace _ true => ((s.finish task).clearOutputs).startKernel

-- A pending continuation runs its next segment. A launch task resolves through `launchDone`.
def wake (s : Session) (task : Nat) (msgId : String) : Session :=
  match s.tasks.lookup task with
  | some c => s.resume task msgId c
  | none => s

-- A click on the close control of a custom block.
def close (s : Session) (blockId : Nat) : Session :=
  match s.customBlocks.find? (·.id = blockId) with
  | some block => s.onClose block.onClose blockId
  | none => s

end Session

end ReplSession

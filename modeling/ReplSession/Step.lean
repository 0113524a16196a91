import ReplSession.Session

namespace ReplSession

-- A step of the session: a call of one of its methods, a continuation's next segment, or a
-- change the editor makes on its own.
inductive Action
  | execute (code : String) (anchorRange : AnchorRange) (nextCell : Option Anchor)
      (moveDown : Bool) (msgId : String)
  | route (message : JupyterMessage)
  | interrupt (msgId : String)
  | bufferEvent (event : BufferEvent)
  | clearOutputs
  | close (blockId : Nat)
  | shutdown
  | restart
  | kernelErrored (errorMessage : String)
  | launchDone (task : Nat) (result : Except String ExecutionState)
  | wake (task : Nat) (msgId : String)
  | edit (buffer : Buffer)
  | dropWorkspace

namespace Session

-- `Session::new`: no blocks, and a kernel being started. Task `0` is the ready task the
-- constructor puts in place before `start_kernel` replaces it.
def new (buffer : Buffer) : Session :=
  startKernel
    { kernel := .startingKernel 0
      blocks := BlockMap.empty
      buffer := buffer
      workspace := true
      customBlocks := []
      nextBlockId := 0
      selection := none
      views := fun _ => ExecutionView.new .queued
      nextView := 0
      tasks := []
      nextTask := 1
      resolved := [0]
      requests := []
      telemetry := []
      events := []
      issued := [] }

def step (s : Session) : Action → Session
  | .execute code anchorRange nextCell moveDown msgId =>
    s.execute code anchorRange nextCell moveDown msgId
  | .route message => s.route message
  | .interrupt msgId => s.interrupt msgId
  | .bufferEvent event => s.onBufferEvent event
  | .clearOutputs => s.clearOutputs
  | .close blockId => s.close blockId
  | .shutdown => s.shutdown
  | .restart => s.restart
  | .kernelErrored errorMessage => s.kernelErrored errorMessage
  | .launchDone task result => s.launchDone task result
  | .wake task msgId => s.wake task msgId
  | .edit buffer => { s with buffer := buffer }
  | .dropWorkspace => { s with workspace := false }

def run (s : Session) (actions : List Action) : Session :=
  actions.foldl step s

@[simp] theorem run_nil (s : Session) : s.run [] = s := rfl

@[simp] theorem run_cons (s : Session) (a : Action) (actions : List Action) :
    s.run (a :: actions) = (s.step a).run actions := rfl

theorem run_append (s : Session) (xs ys : List Action) : s.run (xs ++ ys) = (s.run xs).run ys :=
  List.foldl_append _ _ _ _

end Session

-- The states a session reaches from its construction.
inductive Reachable : Session → Prop
  | new (buffer : Buffer) : Reachable (Session.new buffer)
  | step {s : Session} (a : Action) : Reachable s → Reachable (s.step a)

-- An action whose execute request, if it creates one, gets an id not created before.
def FreshAction (s : Session) : Action → Prop
  | .execute _ _ _ _ msgId => msgId ∉ s.issued
  | _ => True

instance (s : Session) : (a : Action) → Decidable (FreshAction s a)
  | .execute _ _ _ _ msgId => inferInstanceAs (Decidable (msgId ∉ s.issued))
  | .route _ | .interrupt _ | .bufferEvent _ | .clearOutputs | .close _ | .shutdown | .restart
  | .kernelErrored _ | .launchDone _ _ | .wake _ _ | .edit _ | .dropWorkspace => isTrue trivial

-- The states reached when every execute request gets a fresh id.
inductive FreshReachable : Session → Prop
  | new (buffer : Buffer) : FreshReachable (Session.new buffer)
  | step {s : Session} (a : Action) : FreshReachable s → FreshAction s a →
      FreshReachable (s.step a)

theorem FreshReachable.reachable {s : Session} (h : FreshReachable s) : Reachable s := by
  induction h with
  | new buffer => exact .new buffer
  | step a _ _ ih => exact .step a ih

-- A run in which every execute request gets a fresh id.
def FreshRun : Session → List Action → Prop
  | _, [] => True
  | s, a :: actions => FreshAction s a ∧ FreshRun (s.step a) actions

theorem FreshReachable.run {s : Session} (h : FreshReachable s) {actions : List Action}
    (hrun : FreshRun s actions) : FreshReachable (s.run actions) := by
  induction actions generalizing s with
  | nil => exact h
  | cons a actions ih => exact ih (.step a h hrun.1) hrun.2

theorem Reachable.run {s : Session} (h : Reachable s) (actions : List Action) :
    Reachable (s.run actions) := by
  induction actions generalizing s with
  | nil => exact h
  | cons a actions ih => exact ih (.step a h)

end ReplSession

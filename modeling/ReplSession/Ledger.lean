import ReplSession.Effects

namespace ReplSession

-- The block bookkeeping of a session: its block map, the custom blocks it has in the editor,
-- the editor's and the app's next ids, and the execute request ids created so far.
structure Ledger where
  blocks : BlockMap
  customBlocks : List CustomBlock
  nextBlockId : Nat
  nextView : Nat
  issued : List String

namespace Ledger

-- Drop the blocks `keep` rejects, with their custom blocks.
def evict (l : Ledger) (keep : EditorBlock → Bool) : Ledger :=
  { l with blocks := l.blocks.retain keep
           customBlocks := l.customBlocks.filter (·.id ∉ l.blocks.rejectedIds keep) }

-- Drop every block, with its custom block.
def clear (l : Ledger) : Ledger :=
  { l with blocks := BlockMap.empty
           customBlocks := l.customBlocks.filter (·.id ∉ l.blocks.values.map (·.blockId)) }

-- The close control of a custom block: its execution's block and the custom block go.
def close (l : Ledger) (blockId : Nat) : Ledger :=
  match l.customBlocks.find? (·.id = blockId) with
  | some block => { l with blocks := l.blocks.remove block.onClose
                           customBlocks := l.customBlocks.filter (·.id ∉ [blockId]) }
  | none => l

def issue (l : Ledger) (msgId : String) : Ledger :=
  { l with issued := l.issued ++ [msgId] }

-- A new block under `key`, on a fresh view and a fresh custom block placed at `placement`.
def add (l : Ledger) (key : String) (codeRange : AnchorRange) (invalidationAnchor : Anchor)
    (placement : Anchor) : Ledger :=
  { blocks := l.blocks.insert key ⟨codeRange, invalidationAnchor, l.nextBlockId, l.nextView⟩
    customBlocks := l.customBlocks ++ [⟨l.nextBlockId, placement, l.nextView, key⟩]
    nextBlockId := l.nextBlockId + 1
    nextView := l.nextView + 1
    issued := l.issued }

end Ledger

-- The segments that end a grace period; they clear the outputs.
def Continuation.endsGrace : Continuation → Bool
  | .shutdownGrace _ true | .restartGrace _ true => true
  | _ => false

namespace Session

def ledger (s : Session) : Ledger :=
  ⟨s.blocks, s.customBlocks, s.nextBlockId, s.nextView, s.issued⟩

variable (s : Session)

theorem ledger_eq_of {t : Session} (hb : t.blocks = s.blocks) (hc : t.customBlocks = s.customBlocks)
    (hn : t.nextBlockId = s.nextBlockId) (hv : t.nextView = s.nextView) (hi : t.issued = s.issued) :
    t.ledger = s.ledger := by
  simp [ledger, hb, hc, hn, hv, hi]

@[simp] theorem ledger_blocks : s.ledger.blocks = s.blocks := rfl
@[simp] theorem ledger_customBlocks : s.ledger.customBlocks = s.customBlocks := rfl
@[simp] theorem ledger_nextBlockId : s.ledger.nextBlockId = s.nextBlockId := rfl
@[simp] theorem ledger_nextView : s.ledger.nextView = s.nextView := rfl
@[simp] theorem ledger_issued : s.ledger.issued = s.issued := rfl

@[simp] theorem ledger_selection (selection : Option AnchorRange) :
    ({ s with selection := selection }).ledger = s.ledger := rfl

@[simp] theorem forEachBlockView_ledger (f : ExecutionView → ExecutionView) :
    (s.forEachBlockView f).ledger = s.ledger := by
  rw [forEachBlockView_eq]; rfl

@[simp] theorem dropKernel_ledger (kernel : Kernel) : (s.dropKernel kernel).ledger = s.ledger := by
  obtain ⟨_, h⟩ := s.dropKernel_eq kernel; rw [h]; rfl

@[simp] theorem setKernel_ledger (kernel : Kernel) : (s.setKernel kernel).ledger = s.ledger := by
  rw [setKernel, dropKernel_ledger]; rfl

@[simp] theorem startKernel_ledger : s.startKernel.ledger = s.ledger := by
  rw [startKernel, setKernel_ledger]; rfl

@[simp] theorem kernelErrored_ledger (message : String) :
    (s.kernelErrored message).ledger = s.ledger := by
  rw [kernelErrored, forEachBlockView_ledger, setKernel_ledger]

@[simp] theorem launchCompleted_ledger (task : Nat) (result : Except String ExecutionState) :
    (s.launchCompleted task result).ledger = s.ledger := by
  cases result
  · exact kernelErrored_ledger s _
  · exact setKernel_ledger s _

@[simp] theorem send_ledger (message : JupyterMessage) : (s.send message).ledger = s.ledger := by
  obtain ⟨requests, h⟩ := s.send_eq message
  rw [h]; rfl

@[simp] theorem dispatch_ledger (message : JupyterMessage) :
    (s.dispatch message).ledger = s.ledger := by
  obtain ⟨requests, tasks, nextTask, h⟩ := s.dispatch_eq message
  rw [h]; rfl

theorem interrupt_ledger (msgId : String) : (s.interrupt msgId).ledger = s.ledger := by
  obtain ⟨requests, h⟩ := s.interrupt_eq msgId
  rw [h]; rfl

@[simp] theorem clearOutputs_ledger : s.clearOutputs.ledger = s.ledger.clear := rfl

@[simp] theorem finish_ledger (task : Nat) : (s.finish task).ledger = s.ledger := rfl

theorem onBufferEvent_ledger (event : BufferEvent) :
    (s.onBufferEvent event).ledger = match event with
      | .edited => s.ledger.evict fun block => s.buffer.isValid block.invalidationAnchor
      | .other => s.ledger := by
  cases event with
  | other => rfl
  | edited =>
      simp only [onBufferEvent]
      split
      · rename_i hempty
        simp only [List.isEmpty_iff] at hempty
        simp [ledger, Ledger.evict, hempty]
      · rfl

theorem close_ledger (blockId : Nat) : (s.close blockId).ledger = s.ledger.close blockId := by
  simp only [close, Ledger.close, ledger]
  cases List.find? (fun b => decide (b.id = blockId)) s.customBlocks <;> rfl

theorem deliver_ledger (key : String) (message : JupyterMessage) :
    (s.deliver key message).ledger = s.ledger := by
  unfold deliver; split <;> rfl

theorem route_ledger (message : JupyterMessage) : (s.route message).ledger = s.ledger := by
  unfold route
  split
  · rfl
  · split <;> simp only [deliver_ledger, forEachBlockView_ledger] <;> rfl

theorem shutdown_ledger : s.shutdown.ledger = s.ledger := by
  cases h : s.kernel <;> simp only [shutdown, h, dropKernel_ledger, setKernel_ledger] <;> rfl

theorem restart_ledger : s.restart.ledger = match s.kernel with
    | .restarting | .runningKernel _ => s.ledger
    | _ => s.ledger.clear := by
  cases h : s.kernel <;> simp only [restart, h, dropKernel_ledger, startKernel_ledger] <;> rfl

theorem launchDone_ledger (task : Nat) (result : Except String ExecutionState) :
    (s.launchDone task result).ledger = s.ledger := by
  unfold launchDone; split
  · rw [launchCompleted_ledger]; rfl
  · rfl

theorem resume_ledger (task : Nat) (msgId : String) (c : Continuation) :
    (s.resume task msgId c).ledger = if c.endsGrace then s.ledger.clear else s.ledger := by
  cases c with
  | queuedSend launch message =>
      simp only [resume]
      split
      · exact (send_ledger _ _).trans rfl
      · rfl
  | shutdownGrace _ requested => cases requested <;> simp [resume, Continuation.endsGrace] <;> rfl
  | restartGrace _ requested => cases requested <;> simp [resume, Continuation.endsGrace] <;> rfl
  | launch => rfl

theorem wake_ledger (task : Nat) (msgId : String) :
    (s.wake task msgId).ledger =
      if (s.tasks.lookup task).any Continuation.endsGrace then s.ledger.clear else s.ledger := by
  unfold wake
  split <;> rename_i heq <;> simp [heq, resume_ledger]

theorem evictOverlapping_ledger (anchorRange : AnchorRange) :
    (s.evictOverlapping anchorRange).ledger =
      s.ledger.evict fun block => !anchorRange.overlaps block.codeRange := rfl

theorem execute_ledger_of_isEmpty (code : String) (hcode : code.isEmpty = true)
    (anchorRange : AnchorRange) (nextCell : Option Anchor) (moveDown : Bool) (msgId : String) :
    (s.execute code anchorRange nextCell moveDown msgId).ledger = s.ledger := by
  rw [execute_of_isEmpty s code hcode]

-- Without a workspace `execute` still evicts the overlapping blocks, and adds none.
theorem execute_ledger_of_workspace_false (code : String) (hcode : code.isEmpty = false)
    (hw : s.workspace = false) (anchorRange : AnchorRange) (nextCell : Option Anchor)
    (moveDown : Bool) (msgId : String) :
    (s.execute code anchorRange nextCell moveDown msgId).ledger =
      (s.ledger.issue msgId).evict fun block => !anchorRange.overlaps block.codeRange := by
  rw [execute_of_workspace_false s code hcode hw]; rfl

theorem execute_ledger_of_workspace (code : String) (hcode : code.isEmpty = false)
    (hw : s.workspace = true) (anchorRange : AnchorRange) (nextCell : Option Anchor)
    (moveDown : Bool) (msgId : String) :
    ∃ anchor, (s.execute code anchorRange nextCell moveDown msgId).ledger =
      ((s.ledger.issue msgId).evict fun block => !anchorRange.overlaps block.codeRange).add
        msgId anchorRange anchor anchorRange.end := by
  obtain ⟨anchor, buffer, selection, h⟩ :=
    execute_of_workspace s code hcode hw anchorRange nextCell moveDown msgId
  refine ⟨anchor, ?_⟩
  rw [h]
  simp only [ledger_selection, dispatch_ledger]
  rfl

theorem edit_ledger (buffer : Buffer) : ({ s with buffer := buffer }).ledger = s.ledger := rfl

theorem dropWorkspace_ledger : ({ s with workspace := false }).ledger = s.ledger := rfl

end Session

-- What one step can do to the bookkeeping: nothing, an eviction, a clear, a close, or an
-- `execute`, which evicts the blocks overlapping its range and may add one block on it.
inductive LedgerStep (l : Ledger) : Ledger → Prop
  | keep : LedgerStep l l
  | evict (keep : EditorBlock → Bool) : LedgerStep l (l.evict keep)
  | clear : LedgerStep l l.clear
  | close (blockId : Nat) : LedgerStep l (l.close blockId)
  | execute (msgId : String) (anchorRange : AnchorRange) :
      LedgerStep l ((l.issue msgId).evict fun block => !anchorRange.overlaps block.codeRange)
  | executeAdd (msgId : String) (anchorRange : AnchorRange) (anchor : Anchor) :
      LedgerStep l (((l.issue msgId).evict fun block => !anchorRange.overlaps block.codeRange).add
        msgId anchorRange anchor anchorRange.end)

namespace Session

variable (s : Session)

theorem execute_ledgerStep (code : String) (anchorRange : AnchorRange) (nextCell : Option Anchor)
    (moveDown : Bool) (msgId : String) :
    LedgerStep s.ledger (s.execute code anchorRange nextCell moveDown msgId).ledger := by
  cases hcode : code.isEmpty
  · cases hw : s.workspace
    · rw [execute_ledger_of_workspace_false s code hcode hw]
      exact .execute msgId anchorRange
    · obtain ⟨anchor, h⟩ := execute_ledger_of_workspace s code hcode hw anchorRange nextCell moveDown msgId
      rw [h]
      exact .executeAdd msgId anchorRange anchor
  · rw [execute_ledger_of_isEmpty s code hcode]
    exact .keep

-- Every step does one of the things `LedgerStep` lists.
theorem step_ledgerStep (a : Action) : LedgerStep s.ledger (s.step a).ledger := by
  cases a with
  | execute code anchorRange nextCell moveDown msgId =>
      exact execute_ledgerStep s code anchorRange nextCell moveDown msgId
  | route message => rw [step, route_ledger]; exact .keep
  | interrupt msgId => rw [step, interrupt_ledger]; exact .keep
  | bufferEvent event =>
      rw [step, onBufferEvent_ledger]; cases event
      · exact .evict _
      · exact .keep
  | clearOutputs => rw [step, clearOutputs_ledger]; exact .clear
  | close blockId => rw [step, close_ledger]; exact .close blockId
  | shutdown => rw [step, shutdown_ledger]; exact .keep
  | restart => rw [step, restart_ledger]; split <;> first | exact .keep | exact .clear
  | kernelErrored errorMessage => rw [step, kernelErrored_ledger]; exact .keep
  | launchDone task result => rw [step, launchDone_ledger]; exact .keep
  | wake task msgId => rw [step, wake_ledger]; split <;> first | exact .keep | exact .clear
  | edit buffer => exact .keep
  | dropWorkspace => exact .keep

-- Only a non-empty `execute` creates a request id.
theorem step_issued (a : Action) : (s.step a).issued = s.issued ++ match a with
    | .execute code _ _ _ msgId => if code.isEmpty then [] else [msgId]
    | _ => [] := by
  rw [← ledger_issued, ← ledger_issued]
  cases a with
  | execute code anchorRange nextCell moveDown msgId =>
      cases hcode : code.isEmpty
      · cases hw : s.workspace
        · simp only [step, execute_ledger_of_workspace_false s code hcode hw, Ledger.evict,
            Ledger.issue, hcode, if_false, Bool.false_eq_true]
        · obtain ⟨anchor, h⟩ := execute_ledger_of_workspace s code hcode hw anchorRange nextCell
            moveDown msgId
          simp only [step, h, Ledger.evict, Ledger.issue, Ledger.add, hcode, if_false,
            Bool.false_eq_true]
      · simp [step, execute_of_isEmpty s code hcode, hcode]
  | route message => simp [step, route_ledger]
  | interrupt msgId => simp [step, interrupt_ledger]
  | bufferEvent event => cases event <;> simp [step, onBufferEvent_ledger, Ledger.evict]
  | clearOutputs => simp [step, Ledger.clear]
  | close blockId =>
      simp only [step, close_ledger, Ledger.close]; split <;> simp
  | shutdown => simp [step, shutdown_ledger]
  | restart => simp only [step, restart_ledger]; split <;> simp [Ledger.clear]
  | kernelErrored errorMessage => simp [step]
  | launchDone task result => simp [step, launchDone_ledger]
  | wake task msgId => simp only [step, wake_ledger]; split <;> simp [Ledger.clear]
  | edit buffer => simp [step, edit_ledger]
  | dropWorkspace => simp [step, dropWorkspace_ledger]

end Session

end ReplSession

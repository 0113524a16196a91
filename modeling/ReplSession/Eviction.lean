import ReplSession.Regions

namespace ReplSession

-- The account of a step's effect on the block map by the causes a block may leave it for:
-- an execution whose range overlaps it, an edit that invalidates its anchor, a clear of all
-- outputs (directly, from `restart`, or at the end of a grace period) and its close control.
-- `execute` also adds its own block, when it can build one.
def SanctionedBlocks (s : Session) (a : Action) (after : List (String × EditorBlock)) : Prop :=
  match a with
  | .execute code anchorRange _ _ msgId =>
    if code.isEmpty then after = s.blocks.entries
    else if s.workspace then
      ∃ block : EditorBlock, block.codeRange = anchorRange ∧ ∀ e, e ∈ after ↔
        e = (msgId, block) ∨ (e ∈ s.blocks.entries ∧ anchorRange.overlaps e.2.codeRange = false)
    else ∀ e, e ∈ after ↔ e ∈ s.blocks.entries ∧ anchorRange.overlaps e.2.codeRange = false
  | .bufferEvent .edited =>
    ∀ e, e ∈ after ↔ e ∈ s.blocks.entries ∧ s.buffer.isValid e.2.invalidationAnchor = true
  | .clearOutputs => after = []
  | .restart =>
    match s.kernel with
    | .restarting | .runningKernel _ => after = s.blocks.entries
    | _ => after = []
  | .wake task _ =>
    if (s.tasks.lookup task).any Continuation.endsGrace then after = [] else after = s.blocks.entries
  | .close blockId =>
    if ∃ c ∈ s.customBlocks, c.id = blockId then
      ∀ e, e ∈ after ↔ e ∈ s.blocks.entries ∧ e.2.blockId ≠ blockId
    else after = s.blocks.entries
  | _ => after = s.blocks.entries

namespace Session

variable (s : Session)

theorem execute_workspace (code : String) (anchorRange : AnchorRange) (nextCell : Option Anchor)
    (moveDown : Bool) (msgId : String) :
    (s.execute code anchorRange nextCell moveDown msgId).workspace = s.workspace := by
  cases hcode : code.isEmpty
  · cases hw : s.workspace
    · rw [execute_of_workspace_false s code hcode hw]; exact hw
    · obtain ⟨anchor, buffer, selection, h⟩ :=
        execute_of_workspace s code hcode hw anchorRange nextCell moveDown msgId
      obtain ⟨requests, tasks, nextTask, hd⟩ := dispatch_eq _ _
      rw [h]; dsimp only; rw [hd]; exact hw
  · rw [execute_of_isEmpty s code hcode]

-- With a fresh id and a workspace, `execute` keeps the blocks its range misses and adds its
-- own on top.
theorem execute_blocks_of_workspace {code : String} (hcode : code.isEmpty = false)
    (hw : s.workspace = true) (anchorRange : AnchorRange) (nextCell : Option Anchor)
    (moveDown : Bool) {msgId : String} (hfresh : ∀ e ∈ s.blocks.entries, e.1 ≠ msgId) :
    ∃ block : EditorBlock, block.codeRange = anchorRange ∧
      (s.execute code anchorRange nextCell moveDown msgId).blocks.entries =
        (msgId, block) :: s.blocks.entries.filter fun e => !anchorRange.overlaps e.2.codeRange := by
  obtain ⟨anchor, h⟩ := execute_ledger_of_workspace s code hcode hw anchorRange nextCell moveDown msgId
  refine ⟨⟨anchorRange, anchor, s.nextBlockId, s.nextView⟩, rfl, ?_⟩
  rw [← ledger_blocks, h]
  simp only [Ledger.add, Ledger.evict, Ledger.issue, ledger_blocks, BlockMap.insert, BlockMap.remove,
    BlockMap.retain, List.filter_filter]
  congr 1
  exact List.filter_congr fun e he => by simp [hfresh e he]

end Session

-- A fresh step removes blocks only for the sanctioned causes, and exactly for them.
theorem step_sanctionedBlocks {s : Session} (hs : FreshReachable s) (a : Action)
    (ha : FreshAction s a) : SanctionedBlocks s a (s.step a).blocks.entries := by
  have hwf := hs.ledger_wf
  cases a with
  | execute code anchorRange nextCell moveDown msgId =>
      simp only [SanctionedBlocks, Session.step]
      cases hcode : code.isEmpty
      · cases hw : s.workspace
        · intro e
          rw [← Session.ledger_blocks, Session.execute_ledger_of_workspace_false s code hcode hw]
          simp only [Ledger.evict, Ledger.issue, BlockMap.mem_retain, Session.ledger_blocks,
            Bool.not_eq_true']
        · have hfresh : ∀ e ∈ s.blocks.entries, e.1 ≠ msgId := fun e he hk =>
            (ha : msgId ∉ s.issued) (hk ▸ hwf.keys_issued e he)
          obtain ⟨block, hrange, h⟩ := s.execute_blocks_of_workspace hcode hw anchorRange nextCell
            moveDown hfresh
          refine ⟨block, hrange, fun e => ?_⟩
          simp [h]
      · simp [Session.execute_of_isEmpty s code hcode]
  | bufferEvent event =>
      cases event
      · intro e
        rw [Session.step, ← Session.ledger_blocks, Session.onBufferEvent_ledger]
        simp only [Ledger.evict, BlockMap.mem_retain, Session.ledger_blocks]
      · rfl
  | clearOutputs => rfl
  | restart =>
      simp only [SanctionedBlocks, Session.step]
      rw [← Session.ledger_blocks, Session.restart_ledger]
      cases s.kernel <;> rfl
  | wake task msgId =>
      simp only [SanctionedBlocks, Session.step]
      rw [← Session.ledger_blocks, Session.wake_ledger]
      cases (s.tasks.lookup task).any Continuation.endsGrace <;> rfl
  | close blockId =>
      simp only [SanctionedBlocks, Session.step]
      rw [← Session.ledger_blocks, Session.close_ledger]
      simp only [Ledger.close, Session.ledger_customBlocks]
      cases hfind : List.find? (fun c => decide (c.id = blockId)) s.customBlocks with
      | none =>
          rw [if_neg (by simpa using List.find?_eq_none.mp hfind)]
          rfl
      | some c0 =>
          have hc0 := List.mem_of_find?_eq_some hfind
          have hid0 : c0.id = blockId := by simpa using List.find?_some hfind
          rw [if_pos ⟨c0, hc0, hid0⟩]
          intro e
          simp only [BlockMap.mem_remove, Session.ledger_blocks]
          exact and_congr_right fun he => not_congr (hid0 ▸ hwf.key_eq_iff hc0 he)
  | route message => exact congrArg (·.blocks.entries) (Session.route_ledger s message)
  | interrupt msgId => exact congrArg (·.blocks.entries) (Session.interrupt_ledger s msgId)
  | shutdown => exact congrArg (·.blocks.entries) (Session.shutdown_ledger s)
  | kernelErrored errorMessage => exact congrArg (·.blocks.entries) (Session.kernelErrored_ledger s _)
  | launchDone task result => exact congrArg (·.blocks.entries) (Session.launchDone_ledger s task result)
  | edit buffer => rfl
  | dropWorkspace => rfl

/-! A batch of executions that evict nothing. -/

-- The arguments of one `execute` call.
structure ExecuteCall where
  code : String
  anchorRange : AnchorRange
  nextCell : Option Anchor
  moveDown : Bool
  msgId : String

def ExecuteCall.action (c : ExecuteCall) : Action :=
  .execute c.code c.anchorRange c.nextCell c.moveDown c.msgId

-- A call that can run on `s` without evicting: non-empty code, a fresh id, and a range that
-- overlaps no live block.
def ExecuteCall.Clear (s : Session) (c : ExecuteCall) : Prop :=
  c.code.isEmpty = false ∧ c.msgId ∉ s.issued ∧
    ∀ e ∈ s.blocks.entries, c.anchorRange.overlaps e.2.codeRange = false

-- Calls with distinct ids and ranges that miss each other.
def ExecuteCall.Apart (c d : ExecuteCall) : Prop :=
  c.msgId ≠ d.msgId ∧ c.anchorRange.overlaps d.anchorRange = false

instance (s : Session) (c : ExecuteCall) : Decidable (c.Clear s) :=
  inferInstanceAs (Decidable (_ ∧ _ ∧ _))

instance (c d : ExecuteCall) : Decidable (c.Apart d) :=
  inferInstanceAs (Decidable (_ ∧ _))

theorem ExecuteCall.step_blocks {s : Session} (hs : FreshReachable s) (hw : s.workspace = true)
    {c : ExecuteCall} (hc : c.Clear s) :
    ∃ block : EditorBlock, block.codeRange = c.anchorRange ∧
      (s.step c.action).blocks.entries = (c.msgId, block) :: s.blocks.entries := by
  obtain ⟨hcode, hfresh, hfree⟩ := hc
  have hkeys : ∀ e ∈ s.blocks.entries, e.1 ≠ c.msgId := fun e he hk =>
    hfresh (hk ▸ hs.ledger_wf.keys_issued e he)
  obtain ⟨block, hrange, h⟩ :=
    s.execute_blocks_of_workspace hcode hw c.anchorRange c.nextCell c.moveDown hkeys
  refine ⟨block, hrange, ?_⟩
  rw [ExecuteCall.action, Session.step, h, List.filter_eq_self.mpr fun e he => by simp [hfree e he]]

-- After a clear call, the calls apart from it are still clear.
theorem ExecuteCall.Clear.step {s : Session} (hs : FreshReachable s) (hw : s.workspace = true)
    {c d : ExecuteCall} (hc : c.Clear s) (hd : d.Clear s) (hcd : c.Apart d) :
    d.Clear (s.step c.action) := by
  obtain ⟨block, hrange, h⟩ := ExecuteCall.step_blocks hs hw hc
  refine ⟨hd.1, ?_, ?_⟩
  · rw [ExecuteCall.action, Session.step_issued]
    simpa [hc.1] using ⟨hd.2.1, hcd.1.symm⟩
  · intro e he
    rcases List.mem_cons.mp (h ▸ he) with rfl | he
    · rw [hrange, AnchorRange.overlaps_comm]; exact hcd.2
    · exact hd.2.2 e he

-- Executions that evict nothing each add their block on top of the map.
theorem ExecuteCall.run_keys {s : Session} (hs : FreshReachable s) (hw : s.workspace = true)
    {calls : List ExecuteCall} (hclear : ∀ c ∈ calls, c.Clear s)
    (hapart : calls.Pairwise ExecuteCall.Apart) :
    (s.run (calls.map ExecuteCall.action)).blocks.keys =
      (calls.map (·.msgId)).reverse ++ s.blocks.keys := by
  induction calls generalizing s with
  | nil => simp
  | cons c calls ih =>
      obtain ⟨hc, hrest⟩ := List.forall_mem_cons.mp hclear
      obtain ⟨hcapart, hapart⟩ := List.pairwise_cons.mp hapart
      obtain ⟨block, -, h⟩ := ExecuteCall.step_blocks hs hw hc
      have hs' : FreshReachable (s.step c.action) := .step _ hs hc.2.1
      have hw' : (s.step c.action).workspace = true := (Session.execute_workspace s ..).trans hw
      rw [List.map_cons, Session.run_cons, ih hs' hw' (fun d hd => hc.step hs hw (hrest d hd)
        (hcapart d hd)) hapart]
      simp [BlockMap.keys, h]

-- Blocks leave the map only for an overlapping execution, an invalidating edit, a clear of the
-- outputs or their close control, and an execution with a workspace adds its own block: so
-- executions that evict nothing each add one block.
theorem blocks_leave_only_for_sanctioned_causes :
    (∀ (s : Session) (a : Action), FreshReachable s → FreshAction s a →
      SanctionedBlocks s a (s.step a).blocks.entries) ∧
    ∀ (s : Session) (calls : List ExecuteCall), FreshReachable s → s.workspace = true →
      (∀ c ∈ calls, c.Clear s) → calls.Pairwise ExecuteCall.Apart →
        (s.run (calls.map ExecuteCall.action)).blocks.entries.length =
          s.blocks.entries.length + calls.length := by
  refine ⟨fun _ a hs ha => step_sanctionedBlocks hs a ha, fun _ _ hs hw hclear hapart => ?_⟩
  simpa [BlockMap.keys, Nat.add_comm] using
    congrArg List.length (ExecuteCall.run_keys hs hw hclear hapart)

theorem blocks_leave_only_for_sanctioned_causes_on_new_session :
    let s := Session.new ⟨"x\ny".toList, fun _ => true⟩
    let c := ExecuteCall.mk "x" ⟨⟨0⟩, ⟨1⟩⟩ none false "a"
    let calls := [c, ExecuteCall.mk "y" ⟨⟨2⟩, ⟨3⟩⟩ none false "b"]
    (FreshAction s c.action ∧ SanctionedBlocks s c.action (s.step c.action).blocks.entries) ∧
      (s.workspace = true ∧ (∀ c ∈ calls, c.Clear s) ∧ calls.Pairwise ExecuteCall.Apart ∧
        (s.run (calls.map ExecuteCall.action)).blocks.entries.length =
          s.blocks.entries.length + calls.length) :=
  have hfresh : FreshAction (Session.new ⟨"x\ny".toList, fun _ => true⟩)
      (ExecuteCall.mk "x" ⟨⟨0⟩, ⟨1⟩⟩ none false "a").action := by decide
  have hclear : ∀ c ∈ [ExecuteCall.mk "x" ⟨⟨0⟩, ⟨1⟩⟩ none false "a",
      ExecuteCall.mk "y" ⟨⟨2⟩, ⟨3⟩⟩ none false "b"],
      c.Clear (Session.new ⟨"x\ny".toList, fun _ => true⟩) := by decide
  have hapart : [ExecuteCall.mk "x" ⟨⟨0⟩, ⟨1⟩⟩ none false "a",
      ExecuteCall.mk "y" ⟨⟨2⟩, ⟨3⟩⟩ none false "b"].Pairwise ExecuteCall.Apart := by decide
  ⟨⟨hfresh, blocks_leave_only_for_sanctioned_causes.1 _ _ (.new _) hfresh⟩,
    ⟨rfl, hclear, hapart,
      blocks_leave_only_for_sanctioned_causes.2 _ _ (.new _) rfl hclear hapart⟩⟩

-- An execution whose block cannot be built, after the workspace is dropped, still evicts.
theorem execute_without_workspace_changes_blocks :
    ¬ ∀ s : Session, FreshReachable s → s.workspace = false →
      ∀ (code : String) (anchorRange : AnchorRange) (nextCell : Option Anchor) (moveDown : Bool)
        (msgId : String), FreshAction s (.execute code anchorRange nextCell moveDown msgId) →
        code.isEmpty = false →
          (s.step (.execute code anchorRange nextCell moveDown msgId)).blocks = s.blocks := by
  intro h
  have hs : FreshReachable ((Session.new ⟨"x".toList, fun _ => true⟩).run
      [.execute "x" ⟨⟨0⟩, ⟨1⟩⟩ none false "a", .dropWorkspace]) :=
    .step .dropWorkspace (.step _ (.new _) (by decide)) trivial
  have := h _ hs (by decide) "y" ⟨⟨0⟩, ⟨1⟩⟩ none false "b" (by decide) rfl
  exact absurd (congrArg (·.entries.length) this) (by decide)

/-! An execution without a workspace. -/

-- `EditorBlock::new` fails after the eviction: the overlapping blocks are gone with their custom
-- blocks, no block is added, and no request is sent or queued.
theorem execute_without_workspace (s : Session) {code : String} (hcode : code.isEmpty = false)
    (hw : s.workspace = false) (anchorRange : AnchorRange) (nextCell : Option Anchor)
    (moveDown : Bool) (msgId : String) :
    let s' := s.execute code anchorRange nextCell moveDown msgId
    let keep := fun block : EditorBlock => !anchorRange.overlaps block.codeRange
    s'.blocks = s.blocks.retain keep ∧
      s'.customBlocks = s.customBlocks.filter (·.id ∉ s.blocks.rejectedIds keep) ∧
      s'.requests = s.requests ∧ s'.tasks = s.tasks ∧ s'.kernel = s.kernel := by
  rw [Session.execute_of_workspace_false s code hcode hw]
  exact ⟨rfl, rfl, rfl, rfl, rfl⟩

theorem execute_without_workspace_after_drop :
    let s := (Session.new ⟨"x".toList, fun _ => true⟩).run
      [.execute "x" ⟨⟨0⟩, ⟨1⟩⟩ none false "a", .dropWorkspace]
    let s' := s.execute "y" ⟨⟨0⟩, ⟨1⟩⟩ none false "b"
    let keep := fun block : EditorBlock => !AnchorRange.overlaps ⟨⟨0⟩, ⟨1⟩⟩ block.codeRange
    "y".isEmpty = false ∧ s.workspace = false ∧
      s'.blocks = s.blocks.retain keep ∧
      s'.customBlocks = s.customBlocks.filter (·.id ∉ s.blocks.rejectedIds keep) ∧
      s'.requests = s.requests ∧ s'.tasks = s.tasks ∧ s'.kernel = s.kernel :=
  ⟨rfl, by decide, execute_without_workspace _ (show "y".isEmpty = false from rfl) (by decide) _ none
    false "b"⟩

-- The failed execution of a fresh session's only block removes it and its custom block.
theorem execute_without_workspace_evicts :
    ¬ ∀ s : Session, s.workspace = false →
      ∀ (code : String) (anchorRange : AnchorRange) (nextCell : Option Anchor) (moveDown : Bool)
        (msgId : String), code.isEmpty = false →
        (s.execute code anchorRange nextCell moveDown msgId).blocks = s.blocks ∧
          (s.execute code anchorRange nextCell moveDown msgId).customBlocks = s.customBlocks := by
  intro h
  have := (h ((Session.new ⟨"x".toList, fun _ => true⟩).run
    [.execute "x" ⟨⟨0⟩, ⟨1⟩⟩ none false "a", .dropWorkspace]) (by decide)
    "y" ⟨⟨0⟩, ⟨1⟩⟩ none false "b" rfl).2
  exact absurd (congrArg List.length this) (by decide)

end ReplSession

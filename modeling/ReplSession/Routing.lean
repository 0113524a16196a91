import ReplSession.Dispatch

namespace ReplSession

-- What a message for `parent` should do to the output of the block under `key`: a display
-- update with a display id reaches every block, one without reaches none, and any other message
-- reaches the block of its parent only.
def routedView (key parent : String) (content : JupyterMessageContent) (view : ExecutionView) :
    ExecutionView :=
  match content with
  | .updateDisplayData (some displayId) data => view.updateDisplayData data displayId
  | .updateDisplayData none _ => view
  | _ => if key = parent then view.pushMessage content else view

namespace Session

-- The output of the live block under `key`.
def output (s : Session) (key : String) : Option ExecutionView :=
  (s.blocks.get? key).map fun block => s.views block.executionView

end Session

-- Live blocks on one view are one block.
theorem Ledger.Wf.entry_eq_of_view {l : Ledger} (h : l.Wf) {e f : String × EditorBlock}
    (he : e ∈ l.blocks.entries) (hf : f ∈ l.blocks.entries)
    (hview : e.2.executionView = f.2.executionView) : e = f := by
  have hnodup := h.views_nodup
  rw [BlockMap.values, List.map_map] at hnodup
  exact List.inj_on_of_nodup_map hnodup he hf hview

namespace Session

variable {s : Session}

-- `deliver` pushes the message to the parent's block, and to no other output.
theorem deliver_output (hwf : s.ledger.Wf) (parent : String) (message : JupyterMessage)
    (key : String) :
    (s.deliver parent message).output key =
      if key = parent then (s.output key).map (·.pushMessage message.content) else s.output key := by
  unfold deliver
  cases hp : s.blocks.get? parent with
  | none =>
      by_cases hk : key = parent
      · subst hk; simp [output, hp]
      · simp [hk]
  | some block =>
      simp only [EditorBlock.handleMessage, updateView, output]
      by_cases hk : key = parent
      · subst hk; simp [hp]
      · rw [if_neg hk]
        cases hkey : s.blocks.get? key with
        | none => rfl
        | some b =>
            have hne : b.executionView ≠ block.executionView := fun hview => hk <|
              congrArg Prod.fst (hwf.entry_eq_of_view (BlockMap.get?_eq_some.mp hkey)
                (BlockMap.get?_eq_some.mp hp) hview)
            simp [Function.update_noteq hne]

-- A function applied to the view of every block changes each output by it.
theorem forEachBlockView_output (hwf : s.ledger.Wf) (f : ExecutionView → ExecutionView)
    (key : String) : (s.forEachBlockView f).output key = (s.output key).map f := by
  rw [forEachBlockView_eq]
  cases hkey : s.blocks.get? key with
  | none => simp [output, hkey]
  | some b =>
      have hmem : b.executionView ∈ s.blocks.values.map (·.executionView) :=
        List.mem_map_of_mem _ (List.mem_map_of_mem _ (BlockMap.get?_eq_some.mp hkey))
      have hnodup : (s.blocks.values.map (·.executionView)).Nodup := hwf.views_nodup
      simp only [output, hkey, Option.map_some']
      rw [applyViews_apply hnodup, if_pos hmem]

theorem route_blocks (message : JupyterMessage) : (s.route message).blocks = s.blocks :=
  congrArg Ledger.blocks (route_ledger s message)

-- For a message other than a display update, `routedView` is a push to the parent's block.
theorem map_routedView_of_ne_updateDisplayData {content : JupyterMessageContent}
    (hcontent : ∀ displayId data, content ≠ .updateDisplayData displayId data)
    (view : Option ExecutionView) (key parent : String) :
    view.map (routedView key parent content) =
      if key = parent then view.map (·.pushMessage content) else view := by
  have hview : routedView key parent content =
      fun view => if key = parent then view.pushMessage content else view := by
    funext view
    cases content
    case updateDisplayData displayId data => exact absurd rfl (hcontent displayId data)
    all_goals rfl
  rw [hview]
  by_cases hk : key = parent <;> simp [hk]

-- Every output changes as `routedView` says.
theorem route_output (hwf : s.ledger.Wf) (message : JupyterMessage) (key : String) :
    (s.route message).output key = match message.parentHeader with
      | none => s.output key
      | some header => (s.output key).map (routedView key header.msgId message.content) := by
  obtain ⟨header, parentHeader, content⟩ := message
  cases parentHeader with
  | none => rfl
  | some parent =>
      cases content
      case updateDisplayData displayId data =>
        cases displayId with
        | none => exact Option.map_id'.symm
        | some displayId => exact forEachBlockView_output hwf _ key
      all_goals
        dsimp only
        rw [map_routedView_of_ne_updateDisplayData (by simp)]
        exact deliver_output (by exact hwf) _ _ key

-- Away from its parent's block, a message other than a display update with a display id leaves
-- the output as it is.
theorem routedView_of_ne {key parent : String} (hk : key ≠ parent) {content : JupyterMessageContent}
    (hcontent : ∀ displayId data, content ≠ .updateDisplayData (some displayId) data) :
    routedView key parent content = fun view => view := by
  funext view
  cases content
  case updateDisplayData displayId data =>
    cases displayId with
    | none => rfl
    | some displayId => exact absurd rfl (hcontent displayId data)
  all_goals exact if_neg hk

-- A reply whose parent has no block changes no output, unless it is a display update.
theorem route_output_of_get?_eq_none (hwf : s.ledger.Wf) {message : JupyterMessage}
    {header : Header} (hparent : message.parentHeader = some header)
    (hdead : s.blocks.get? header.msgId = none)
    (hcontent : ∀ displayId data, message.content ≠ .updateDisplayData (some displayId) data)
    (key : String) : (s.route message).output key = s.output key := by
  rw [route_output hwf, hparent]
  by_cases hk : key = header.msgId
  · subst hk; simp [output, hdead]
  · dsimp only
    rw [routedView_of_ne hk hcontent, Option.map_id']

end Session

-- Every block after a step was there before, or sits under a request id not issued before.
theorem LedgerStep.mem_blocks {l l' : Ledger} (h : LedgerStep l l') (hnodup : l'.issued.Nodup)
    {e : String × EditorBlock} (he : e ∈ l'.blocks.entries) :
    e ∈ l.blocks.entries ∨ e.1 ∉ l.issued := by
  cases h with
  | keep => exact .inl he
  | evict keep => exact .inl (BlockMap.mem_retain.mp he).1
  | clear => simp [Ledger.clear] at he
  | close blockId =>
      unfold Ledger.close at he
      split at he
      · exact .inl (BlockMap.mem_remove.mp he).1
      · exact .inl he
  | execute msgId anchorRange => exact .inl (BlockMap.mem_retain.mp he).1
  | executeAdd msgId anchorRange anchor =>
      simp only [Ledger.add, BlockMap.mem_insert] at he
      rcases he with rfl | ⟨he, -⟩
      · exact .inr (List.nodup_cons.mp (List.nodup_append_comm.mp hnodup)).1
      · exact .inl (BlockMap.mem_retain.mp he).1

-- An issued request id without a block never gets one back.
theorem FreshReachable.step_get?_eq_none {s : Session} (hs : FreshReachable s) (a : Action)
    (ha : FreshAction s a) {key : String} (hkey : key ∈ s.issued)
    (hdead : s.blocks.get? key = none) :
    key ∈ (s.step a).issued ∧ (s.step a).blocks.get? key = none := by
  refine ⟨by rw [Session.step_issued]; exact List.mem_append_left _ hkey, ?_⟩
  cases hget : (s.step a).blocks.get? key with
  | none => rfl
  | some block =>
      rcases (s.step_ledgerStep a).mem_blocks (FreshReachable.step a hs ha).ledger_wf.issued_nodup
        (BlockMap.get?_eq_some.mp hget) with he | hfresh
      · have he : (key, block) ∈ s.blocks.entries := he
        rw [BlockMap.get?_eq_some.mpr he] at hdead; cases hdead
      · exact absurd hkey hfresh

theorem FreshReachable.run_get?_eq_none {s : Session} (hs : FreshReachable s)
    {actions : List Action} (hrun : FreshRun s actions) {key : String} (hkey : key ∈ s.issued)
    (hdead : s.blocks.get? key = none) : (s.run actions).blocks.get? key = none := by
  induction actions generalizing s with
  | nil => exact hdead
  | cons a actions ih =>
      obtain ⟨hkey', hdead'⟩ := hs.step_get?_eq_none a hrun.1 hkey hdead
      exact ih (.step a hs hrun.1) hrun.2 hkey' hdead'

-- `execute` stores its block under the id of the request it sends to a running kernel or queues
-- on a starting kernel's launch. A reply reaches the block of its request and no other, a display
-- update with a display id reaches every block, and routing adds or removes none; once a
-- request's block is gone, no later reply to it changes any output.
theorem replies_reach_only_their_block :
    (∀ (s : Session) (code : String) (anchorRange : AnchorRange) (nextCell : Option Anchor)
      (moveDown : Bool) (msgId : String), code.isEmpty = false → s.workspace = true →
      let s' := s.step (.execute code anchorRange nextCell moveDown msgId)
      let message : JupyterMessage := ⟨⟨msgId⟩, none, .executeRequest code⟩
      (∃ block, s'.blocks.get? msgId = some block) ∧
      (∀ kernel, s.kernel = .runningKernel kernel →
        s'.requests = s.requests ++ [(kernel.transport, message)]) ∧
      (∀ task, s.kernel = .startingKernel task →
        s'.tasks = s.tasks ++ [(s.nextTask, .queuedSend task message)])) ∧
    (∀ (s : Session) (message : JupyterMessage), FreshReachable s →
      (s.route message).blocks = s.blocks ∧
        ∀ key, (s.route message).output key = match message.parentHeader with
          | none => s.output key
          | some header => (s.output key).map (routedView key header.msgId message.content)) ∧
    ∀ (s : Session) (actions : List Action) (message : JupyterMessage) (header : Header),
      FreshReachable s → FreshRun s actions → message.parentHeader = some header →
      header.msgId ∈ s.issued → s.blocks.get? header.msgId = none →
      (∀ displayId data, message.content ≠ .updateDisplayData (some displayId) data) →
        ∀ key, ((s.run actions).route message).output key = (s.run actions).output key := by
  refine ⟨fun s code anchorRange nextCell moveDown msgId hcode hw => ?_,
    fun _ message hs => ⟨Session.route_blocks message, Session.route_output hs.ledger_wf message⟩,
    fun _ _ _ _ hs hrun hparent hkey hdead hcontent =>
      Session.route_output_of_get?_eq_none (hs.run hrun).ledger_wf hparent
        (hs.run_get?_eq_none hrun hkey hdead) hcontent⟩
  -- the dispatch of the request the block is keyed by, per kernel variant
  obtain ⟨⟨block, hb, -⟩, hsent⟩ := s.execute_dispatch hcode hw anchorRange nextCell moveDown msgId
  refine ⟨⟨block, hb⟩, fun kernel hk => ?_, fun task hk => ?_⟩
  · rw [hk] at hsent; exact hsent.1
  · rw [hk] at hsent; exact hsent.2

-- Running the same range again evicts the first block; a late reply to it changes nothing. The
-- next execution, while the kernel starts, queues its request under its block's key.
theorem replies_reach_only_their_block_after_reexecution :
    let s := (Session.new ⟨"x\ny".toList, fun _ => true⟩).run
      [.execute "x" ⟨⟨0⟩, ⟨1⟩⟩ none false "a", .execute "x" ⟨⟨0⟩, ⟨1⟩⟩ none false "b"]
    let message : JupyterMessage := ⟨⟨"r"⟩, some ⟨"a"⟩, .other "stream"⟩
    let actions := [Action.execute "y" ⟨⟨2⟩, ⟨3⟩⟩ none false "c"]
    s.kernel = .startingKernel 1 ∧ s.workspace = true ∧
      (let s' := s.step (.execute "y" ⟨⟨2⟩, ⟨3⟩⟩ none false "c")
        let request : JupyterMessage := ⟨⟨"c"⟩, none, .executeRequest "y"⟩
        (∃ block, s'.blocks.get? "c" = some block) ∧
        (∀ kernel, s.kernel = .runningKernel kernel →
          s'.requests = s.requests ++ [(kernel.transport, request)]) ∧
        (∀ task, s.kernel = .startingKernel task →
          s'.tasks = s.tasks ++ [(s.nextTask, .queuedSend task request)])) ∧
      FreshReachable s ∧ FreshRun s actions ∧ "a" ∈ s.issued ∧ s.blocks.get? "a" = none ∧
      ((s.route message).blocks = s.blocks ∧
        ∀ key, (s.route message).output key =
          (s.output key).map (routedView key "a" message.content)) ∧
      ∀ key, ((s.run actions).route message).output key = (s.run actions).output key := by
  intro s message actions
  have hs : FreshReachable s := (FreshReachable.new _).run ⟨by decide, by decide, trivial⟩
  have hrun : FreshRun s actions := ⟨by decide, trivial⟩
  have hw : s.workspace = true := by decide
  have hkey : "a" ∈ s.issued := by decide
  have hdead : s.blocks.get? "a" = none := by decide
  exact ⟨by decide, hw, replies_reach_only_their_block.1 _ "y" _ none false "c" rfl hw, hs, hrun,
    hkey, hdead, replies_reach_only_their_block.2.1 _ _ hs,
    replies_reach_only_their_block.2.2 _ _ _ ⟨"a"⟩ hs hrun rfl hkey hdead (by simp)⟩

end ReplSession

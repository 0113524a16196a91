import ReplSession.Step

namespace ReplSession

namespace Session

variable (s : Session)

attribute [simp] newView updateView spawn finish setTask insertBlock removeBlocks sendOn

/-! The views a batch of `execution_view.update` calls leaves. -/

-- The views after `f` is applied to each listed view in turn.
def applyViews (views : List Nat) (f : ExecutionView → ExecutionView) (vs : Nat → ExecutionView) :
    Nat → ExecutionView :=
  views.foldl (fun vs v => Function.update vs v (f (vs v))) vs

theorem foldl_updateView (views : List Nat) (f : ExecutionView → ExecutionView) :
    views.foldl (fun s v => s.updateView v f) s = { s with views := applyViews views f s.views } := by
  induction views generalizing s with
  | nil => rfl
  | cons v views ih => simp only [List.foldl_cons, ih]; rfl

theorem forEachBlockView_eq (f : ExecutionView → ExecutionView) :
    s.forEachBlockView f =
      { s with views := applyViews (s.blocks.values.map (·.executionView)) f s.views } := by
  rw [forEachBlockView, ← foldl_updateView, List.foldl_map]

-- Over distinct views, each listed view is updated once and every other is left alone.
theorem applyViews_apply {views : List Nat} (hnodup : views.Nodup) (vs : Nat → ExecutionView)
    (f : ExecutionView → ExecutionView) (w : Nat) :
    applyViews views f vs w = if w ∈ views then f (vs w) else vs w := by
  induction views generalizing vs with
  | nil => rfl
  | cons v views ih =>
      obtain ⟨hv, hnodup⟩ := List.nodup_cons.mp hnodup
      simp only [applyViews, List.foldl_cons] at ih ⊢
      simp only [ih hnodup, List.mem_cons]
      by_cases hw : w = v
      · subst hw; simp [hv]
      · by_cases hmem : w ∈ views <;> simp [hw, hmem, Function.update_noteq hw]

-- What `f` leaves alone, a batch of `f` updates leaves alone.
theorem applyViews_invariant {α : Type} {p : ExecutionView → α} {f : ExecutionView → ExecutionView}
    (hf : ∀ v, p (f v) = p v) (views : List Nat) (vs : Nat → ExecutionView) (w : Nat) :
    p (applyViews views f vs w) = p (vs w) := by
  induction views generalizing vs with
  | nil => rfl
  | cons v views ih =>
      simp only [applyViews, List.foldl_cons] at ih ⊢
      rw [ih]
      by_cases hw : w = v
      · subst hw; simp [hf]
      · simp [Function.update_noteq hw]

/-! What each method changes. -/

-- Dropping a kernel can only cancel a task.
theorem dropKernel_eq (kernel : Kernel) : ∃ tasks, s.dropKernel kernel = { s with tasks := tasks } := by
  unfold dropKernel; split
  · split
    · exact ⟨_, rfl⟩
    · exact ⟨_, rfl⟩
  · exact ⟨_, rfl⟩

@[simp] theorem dropKernel_kernel (kernel : Kernel) : (s.dropKernel kernel).kernel = s.kernel := by
  obtain ⟨_, h⟩ := s.dropKernel_eq kernel; rw [h]
@[simp] theorem dropKernel_blocks (kernel : Kernel) : (s.dropKernel kernel).blocks = s.blocks := by
  obtain ⟨_, h⟩ := s.dropKernel_eq kernel; rw [h]
@[simp] theorem dropKernel_customBlocks (kernel : Kernel) :
    (s.dropKernel kernel).customBlocks = s.customBlocks := by
  obtain ⟨_, h⟩ := s.dropKernel_eq kernel; rw [h]
@[simp] theorem dropKernel_requests (kernel : Kernel) :
    (s.dropKernel kernel).requests = s.requests := by
  obtain ⟨_, h⟩ := s.dropKernel_eq kernel; rw [h]
@[simp] theorem dropKernel_telemetry (kernel : Kernel) :
    (s.dropKernel kernel).telemetry = s.telemetry := by
  obtain ⟨_, h⟩ := s.dropKernel_eq kernel; rw [h]
@[simp] theorem dropKernel_issued (kernel : Kernel) : (s.dropKernel kernel).issued = s.issued := by
  obtain ⟨_, h⟩ := s.dropKernel_eq kernel; rw [h]

@[simp] theorem setKernel_kernel (kernel : Kernel) : (s.setKernel kernel).kernel = kernel := by
  simp [setKernel]
@[simp] theorem setKernel_blocks (kernel : Kernel) : (s.setKernel kernel).blocks = s.blocks := by
  simp [setKernel]
@[simp] theorem setKernel_customBlocks (kernel : Kernel) :
    (s.setKernel kernel).customBlocks = s.customBlocks := by
  simp [setKernel]
@[simp] theorem setKernel_requests (kernel : Kernel) :
    (s.setKernel kernel).requests = s.requests := by
  simp [setKernel]
@[simp] theorem setKernel_telemetry (kernel : Kernel) :
    (s.setKernel kernel).telemetry = s.telemetry ++ [KernelStatus.ofKernel kernel] := by
  simp [setKernel]
@[simp] theorem setKernel_issued (kernel : Kernel) : (s.setKernel kernel).issued = s.issued := by
  simp [setKernel]

@[simp] theorem forEachBlockView_blocks (f : ExecutionView → ExecutionView) :
    (s.forEachBlockView f).blocks = s.blocks := by rw [forEachBlockView_eq]
@[simp] theorem forEachBlockView_customBlocks (f : ExecutionView → ExecutionView) :
    (s.forEachBlockView f).customBlocks = s.customBlocks := by rw [forEachBlockView_eq]
@[simp] theorem forEachBlockView_kernel (f : ExecutionView → ExecutionView) :
    (s.forEachBlockView f).kernel = s.kernel := by rw [forEachBlockView_eq]
@[simp] theorem forEachBlockView_requests (f : ExecutionView → ExecutionView) :
    (s.forEachBlockView f).requests = s.requests := by rw [forEachBlockView_eq]
@[simp] theorem forEachBlockView_tasks (f : ExecutionView → ExecutionView) :
    (s.forEachBlockView f).tasks = s.tasks := by rw [forEachBlockView_eq]
@[simp] theorem forEachBlockView_telemetry (f : ExecutionView → ExecutionView) :
    (s.forEachBlockView f).telemetry = s.telemetry := by rw [forEachBlockView_eq]


/-! `send` and `dispatch` only hand messages on and spawn tasks. -/

theorem send_eq (message : JupyterMessage) :
    ∃ requests, s.send message = { s with requests := requests } := by
  unfold send; split
  · exact ⟨_, rfl⟩
  · exact ⟨_, rfl⟩

theorem dispatch_eq (message : JupyterMessage) :
    ∃ requests tasks nextTask, s.dispatch message =
      { s with requests := requests, tasks := tasks, nextTask := nextTask } := by
  unfold dispatch; split
  · obtain ⟨requests, h⟩ := s.send_eq message
    exact ⟨requests, s.tasks, s.nextTask, h⟩
  all_goals exact ⟨_, _, _, rfl⟩

@[simp] theorem dispatch_blocks (message : JupyterMessage) : (s.dispatch message).blocks = s.blocks := by
  obtain ⟨_, _, _, h⟩ := s.dispatch_eq message; rw [h]

@[simp] theorem dispatch_views (message : JupyterMessage) : (s.dispatch message).views = s.views := by
  obtain ⟨_, _, _, h⟩ := s.dispatch_eq message; rw [h]

theorem interrupt_eq (msgId : String) :
    ∃ requests, s.interrupt msgId = { s with requests := requests } := by
  unfold interrupt; split
  · exact s.send_eq _
  all_goals exact ⟨_, rfl⟩

end Session

/-! `EditorBlock::new` and `execute`. -/

theorem EditorBlock.new_of_workspace_false {s : Session} (hw : s.workspace = false)
    (codeRange : AnchorRange) (status : ExecutionStatus) (onClose : String) :
    EditorBlock.new s codeRange status onClose = .error "workspace dropped" := by
  simp [EditorBlock.new, hw]

-- With a workspace: a line break at the end of the buffer if the row after the code is missing,
-- the invalidation anchor at that row's start, the block on the next view and the next custom
-- block.
theorem EditorBlock.new_eq {s : Session} (hw : s.workspace = true) (codeRange : AnchorRange)
    (status : ExecutionStatus) (onClose : String) :
    let nextRowStart := s.buffer.toPoint codeRange.end + ⟨1, 0⟩
    let buffer := if s.buffer.maxPoint < nextRowStart then
      s.buffer.edit (s.buffer.maxPoint, s.buffer.maxPoint) ['\n'] else s.buffer
    EditorBlock.new s codeRange status onClose =
      .ok (⟨codeRange, buffer.anchorBefore nextRowStart, s.nextBlockId, s.nextView⟩,
        { s with buffer := buffer
                 views := Function.update s.views s.nextView (ExecutionView.new status)
                 nextView := s.nextView + 1
                 customBlocks := s.customBlocks ++
                   [⟨s.nextBlockId, codeRange.end, s.nextView, onClose⟩]
                 nextBlockId := s.nextBlockId + 1 }) := by
  unfold EditorBlock.new
  rw [if_neg (by simp [hw])]
  by_cases h : s.buffer.maxPoint < s.buffer.toPoint codeRange.end + ⟨1, 0⟩ <;> simp [h]

theorem EditorBlock.new_of_workspace {s : Session} (hw : s.workspace = true)
    (codeRange : AnchorRange) (status : ExecutionStatus) (onClose : String) :
    ∃ anchor buffer, EditorBlock.new s codeRange status onClose =
      .ok (⟨codeRange, anchor, s.nextBlockId, s.nextView⟩,
        { s with buffer := buffer
                 views := Function.update s.views s.nextView (ExecutionView.new status)
                 nextView := s.nextView + 1
                 customBlocks := s.customBlocks ++
                   [⟨s.nextBlockId, codeRange.end, s.nextView, onClose⟩]
                 nextBlockId := s.nextBlockId + 1 }) :=
  ⟨_, _, EditorBlock.new_eq hw codeRange status onClose⟩

namespace Session

variable (s : Session)

theorem execute_of_isEmpty (code : String) (hcode : code.isEmpty = true) (anchorRange : AnchorRange)
    (nextCell : Option Anchor) (moveDown : Bool) (msgId : String) :
    s.execute code anchorRange nextCell moveDown msgId = s := by
  simp [execute, hcode]

theorem execute_of_workspace_false (code : String) (hcode : code.isEmpty = false)
    (hw : s.workspace = false) (anchorRange : AnchorRange) (nextCell : Option Anchor)
    (moveDown : Bool) (msgId : String) :
    s.execute code anchorRange nextCell moveDown msgId =
      ({ s with issued := s.issued ++ [msgId] }).evictOverlapping anchorRange := by
  simp only [execute, hcode, if_false, Bool.false_eq_true]
  have hnew := EditorBlock.new_of_workspace_false
    (s := ({ s with issued := s.issued ++ [msgId] }).evictOverlapping anchorRange) hw anchorRange
  rw [hnew]

-- With a workspace, the new block goes in under the request's id, on the next view and the
-- next custom block, and the request is dispatched.
theorem execute_of_workspace (code : String) (hcode : code.isEmpty = false)
    (hw : s.workspace = true) (anchorRange : AnchorRange) (nextCell : Option Anchor)
    (moveDown : Bool) (msgId : String) :
    ∃ anchor buffer selection, s.execute code anchorRange nextCell moveDown msgId =
      let e := ({ s with issued := s.issued ++ [msgId] }).evictOverlapping anchorRange
      { ({ e with
          buffer := buffer
          views := Function.update e.views e.nextView
            (ExecutionView.new (ExecutionStatus.ofKernel e.kernel))
          nextView := e.nextView + 1
          customBlocks := e.customBlocks ++
            [CustomBlock.mk e.nextBlockId anchorRange.end e.nextView msgId]
          nextBlockId := e.nextBlockId + 1
          blocks := e.blocks.insert msgId
            (EditorBlock.mk anchorRange anchor e.nextBlockId e.nextView) }).dispatch
          ⟨⟨msgId⟩, none, .executeRequest code⟩ with selection := selection } := by
  obtain ⟨anchor, buffer, hnew⟩ := EditorBlock.new_of_workspace
    (s := ({ s with issued := s.issued ++ [msgId] }).evictOverlapping anchorRange) hw anchorRange
    (ExecutionStatus.ofKernel (({ s with issued := s.issued ++ [msgId] }).evictOverlapping
      anchorRange).kernel) msgId
  refine ⟨anchor, buffer, ?_⟩
  simp only [execute, hcode, if_false, Bool.false_eq_true]
  rw [hnew]
  cases moveDown
  · exact ⟨_, rfl⟩
  · exact ⟨_, rfl⟩

end Session

end ReplSession

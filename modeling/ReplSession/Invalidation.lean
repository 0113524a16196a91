import ReplSession.Effects

namespace ReplSession

@[simp] theorem Point.add_next_row (p : Point) : p + ⟨1, 0⟩ = ⟨p.row + 1, 0⟩ := by
  simp [Point.add_def]

-- With a line break appended when `row` is the last row, the row after `row` exists.
theorem le_maxPoint_append_newline_if (text : List Char) {row : Nat}
    (hrow : row ≤ (maxPoint text).row) :
    (⟨row + 1, 0⟩ : Point) ≤ maxPoint (text ++ if row = (maxPoint text).row then ['\n'] else []) := by
  split
  · rw [maxPoint_append_newline, Point.le_def]; dsimp only; omega
  · rw [List.append_nil, Point.le_def]; dsimp only; omega

namespace Buffer

variable (buffer : Buffer)

theorem toPoint_row_le (anchor : Anchor) : (buffer.toPoint anchor).row ≤ buffer.maxPoint.row :=
  offsetToPoint_row_le _ _

-- The row after `row` is missing exactly when `row` is the last row.
theorem maxPoint_lt_next_row_iff {row : Nat} (hrow : row ≤ buffer.maxPoint.row) :
    buffer.maxPoint < ⟨row + 1, 0⟩ ↔ row = buffer.maxPoint.row := by
  rw [Point.lt_def]; dsimp only; omega

-- An anchor before the start of an existing row resolves to that row start.
theorem toPoint_anchorBefore_row_start {row : Nat} (hrow : row ≤ buffer.maxPoint.row) :
    buffer.toPoint (buffer.anchorBefore ⟨row, 0⟩) = ⟨row, 0⟩ :=
  offsetToPoint_pointToOffset_row_start _ _ hrow

end Buffer

-- `EditorBlock::new` with a workspace appends a line break at `max_point` exactly when the code
-- ends on the last row; the row after the code then exists, the invalidation anchor resolves to
-- its start, and the selection is left alone.
theorem EditorBlock.new_opens_next_row {s : Session} (hw : s.workspace = true)
    (codeRange : AnchorRange) (status : ExecutionStatus) (onClose : String) :
    let endPoint := s.buffer.toPoint codeRange.end
    ∃ block s', EditorBlock.new s codeRange status onClose = .ok (block, s') ∧
      s'.selection = s.selection ∧
      s'.buffer.text =
        s.buffer.text ++ (if endPoint.row = s.buffer.maxPoint.row then ['\n'] else []) ∧
      (⟨endPoint.row + 1, 0⟩ : Point) ≤ s'.buffer.maxPoint ∧
      s'.buffer.toPoint block.invalidationAnchor = ⟨endPoint.row + 1, 0⟩ := by
  intro endPoint
  have hrow : endPoint.row ≤ s.buffer.maxPoint.row := s.buffer.toPoint_row_le codeRange.end
  have htext : (if s.buffer.maxPoint < endPoint + ⟨1, 0⟩ then
      s.buffer.edit (s.buffer.maxPoint, s.buffer.maxPoint) ['\n'] else s.buffer).text =
      s.buffer.text ++ if endPoint.row = s.buffer.maxPoint.row then ['\n'] else [] := by
    simp only [Point.add_next_row, apply_ite Buffer.text, Buffer.edit_maxPoint_text,
      s.buffer.maxPoint_lt_next_row_iff hrow]
    split <;> simp
  have hle : (⟨endPoint.row + 1, 0⟩ : Point) ≤ maxPoint (s.buffer.text ++
      if endPoint.row = s.buffer.maxPoint.row then ['\n'] else []) :=
    le_maxPoint_append_newline_if s.buffer.text hrow
  rw [← htext] at hle
  refine ⟨_, _, EditorBlock.new_eq hw codeRange status onClose, rfl, htext, hle, ?_⟩
  rw [Point.add_next_row]
  exact Buffer.toPoint_anchorBefore_row_start _
    (((Point.le_def _ _).mp hle).elim Nat.le_of_lt (·.1.le))

-- `EditorBlock::new` appends a line break at `max_point` exactly when the code ends on the last
-- row; the row after the code then exists, and the invalidation anchor resolves to its start.
theorem editorBlock_new_opens_row_after_code {s : Session} (hw : s.workspace = true)
    (codeRange : AnchorRange) (status : ExecutionStatus) (onClose : String) :
    let endPoint := s.buffer.toPoint codeRange.end
    ∃ block s', EditorBlock.new s codeRange status onClose = .ok (block, s') ∧
      s'.buffer.text =
        s.buffer.text ++ (if endPoint.row = s.buffer.maxPoint.row then ['\n'] else []) ∧
      (⟨endPoint.row + 1, 0⟩ : Point) ≤ s'.buffer.maxPoint ∧
      s'.buffer.toPoint block.invalidationAnchor = ⟨endPoint.row + 1, 0⟩ := by
  obtain ⟨block, s', hnew, -, h⟩ := EditorBlock.new_opens_next_row hw codeRange status onClose
  exact ⟨block, s', hnew, h⟩

-- Code on the only row of a one-line buffer: the line break is appended.
theorem editorBlock_new_opens_row_after_code_on_last_row :
    let s := Session.new ⟨"x".toList, fun _ => true⟩
    let codeRange : AnchorRange := ⟨⟨0⟩, ⟨1⟩⟩
    let endPoint := s.buffer.toPoint codeRange.end
    s.workspace = true ∧
      ∃ block s', EditorBlock.new s codeRange .queued "a" = .ok (block, s') ∧
        s'.buffer.text =
          s.buffer.text ++ (if endPoint.row = s.buffer.maxPoint.row then ['\n'] else []) ∧
        (⟨endPoint.row + 1, 0⟩ : Point) ≤ s'.buffer.maxPoint ∧
        s'.buffer.toPoint block.invalidationAnchor = ⟨endPoint.row + 1, 0⟩ :=
  have hw : (Session.new ⟨"x".toList, fun _ => true⟩).workspace = true := by decide
  ⟨hw, editorBlock_new_opens_row_after_code hw _ _ _⟩

/-! Where `execute` leaves the cursor. -/

-- `execute` with a workspace leaves its block's invalidation anchor at the start of the row
-- after the code, and with `move_down` the cursor, collapsed, at `next_cell` or else at that
-- anchor; without `move_down`, or without a workspace, the selection stays.
theorem execute_moves_cursor_to_next_row (s : Session) {code : String} (hcode : code.isEmpty = false)
    (anchorRange : AnchorRange) (nextCell : Option Anchor) (moveDown : Bool) (msgId : String) :
    let t : Session := s.execute code anchorRange nextCell moveDown msgId
    (s.workspace = false → t.selection = s.selection) ∧
    (s.workspace = true → ∃ block, t.blocks.get? msgId = some block ∧
      t.buffer.toPoint block.invalidationAnchor = ⟨(s.buffer.toPoint anchorRange.end).row + 1, 0⟩ ∧
      t.selection = if moveDown then
        some ⟨nextCell.getD block.invalidationAnchor, nextCell.getD block.invalidationAnchor⟩
      else s.selection) := by
  refine ⟨fun hw => by rw [Session.execute_of_workspace_false s code hcode hw]; rfl, fun hw => ?_⟩
  obtain ⟨block, s', hnew, hsel, -, -, hpoint⟩ := EditorBlock.new_opens_next_row
    (s := ({ s with issued := s.issued ++ [msgId] }).evictOverlapping anchorRange) hw anchorRange
    (ExecutionStatus.ofKernel (({ s with issued := s.issued ++ [msgId] }).evictOverlapping
      anchorRange).kernel) msgId
  obtain ⟨requests, tasks, nextTask, hd⟩ := Session.dispatch_eq
    ({ s' with blocks := s'.blocks.insert msgId block }) ⟨⟨msgId⟩, none, .executeRequest code⟩
  simp only [Session.execute, hcode, if_false, Bool.false_eq_true]
  rw [hnew]
  dsimp only
  rw [hd]
  have hget : (s'.blocks.insert msgId block).get? msgId = some block :=
    BlockMap.get?_eq_some.mpr (BlockMap.mem_insert.mpr (.inl rfl))
  cases moveDown
  · exact ⟨block, hget, hpoint, hsel⟩
  · exact ⟨block, hget, hpoint, rfl⟩

-- Executing the only line of a one-line buffer and moving down.
theorem execute_moves_cursor_to_next_row_on_last_row :
    let s : Session := Session.new ⟨"x".toList, fun _ => true⟩
    let t : Session := s.execute "x" ⟨⟨0⟩, ⟨1⟩⟩ none true "a"
    "x".isEmpty = false ∧ (s.workspace = false → t.selection = s.selection) ∧
    (s.workspace = true → ∃ block, t.blocks.get? "a" = some block ∧
      t.buffer.toPoint block.invalidationAnchor = ⟨(s.buffer.toPoint ⟨1⟩).row + 1, 0⟩ ∧
      t.selection = if true then
        some ⟨(none : Option Anchor).getD block.invalidationAnchor,
          (none : Option Anchor).getD block.invalidationAnchor⟩
      else s.selection) :=
  ⟨rfl, @execute_moves_cursor_to_next_row _ "x" rfl _ _ _ _⟩

end ReplSession

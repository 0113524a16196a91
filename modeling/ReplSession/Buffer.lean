import Mathlib.Order.Basic

namespace ReplSession

-- A position in a buffer, as `language::Point`: a row and a column within that row.
-- Columns and offsets count characters.
structure Point where
  row : Nat
  column : Nat
deriving DecidableEq, Repr

namespace Point

-- Points compare by row, then by column.
instance : LE Point := ⟨fun a b => a.row < b.row ∨ (a.row = b.row ∧ a.column ≤ b.column)⟩
instance : LT Point := ⟨fun a b => a.row < b.row ∨ (a.row = b.row ∧ a.column < b.column)⟩

instance (a b : Point) : Decidable (a ≤ b) := inferInstanceAs (Decidable (_ ∨ _))
instance (a b : Point) : Decidable (a < b) := inferInstanceAs (Decidable (_ ∨ _))

theorem le_def (a b : Point) : a ≤ b ↔ a.row < b.row ∨ (a.row = b.row ∧ a.column ≤ b.column) :=
  Iff.rfl

theorem lt_def (a b : Point) : a < b ↔ a.row < b.row ∨ (a.row = b.row ∧ a.column < b.column) :=
  Iff.rfl

-- `Point + Point`: an extent that spans rows moves down and takes its own column, an
-- extent within one row moves right.
def add (a b : Point) : Point :=
  if b.row = 0 then ⟨a.row, a.column + b.column⟩ else ⟨a.row + b.row, b.column⟩

instance : Add Point := ⟨add⟩

-- `Point - Point`, the inverse of `add` on points past the subtrahend.
def sub (a b : Point) : Point :=
  if a.row = b.row then ⟨0, a.column - b.column⟩ else ⟨a.row - b.row, a.column⟩

instance : Sub Point := ⟨sub⟩

theorem add_def (a b : Point) :
    a + b = if b.row = 0 then ⟨a.row, a.column + b.column⟩ else ⟨a.row + b.row, b.column⟩ :=
  rfl

theorem sub_def (a b : Point) :
    a - b = if a.row = b.row then ⟨0, a.column - b.column⟩ else ⟨a.row - b.row, a.column⟩ :=
  rfl

@[simp] theorem add_zero (a : Point) : a + ⟨0, 0⟩ = a := by
  simp [add_def]

@[simp] theorem zero_add (a : Point) : ⟨0, 0⟩ + a = a := by
  rw [add_def]; split <;> cases a <;> simp_all

theorem add_assoc (a b c : Point) : a + b + c = a + (b + c) := by
  simp only [add_def]
  by_cases hc : c.row = 0 <;> by_cases hb : b.row = 0 <;> simp [hc, hb, Nat.add_assoc]

end Point

-- The extent of one character.
def charExtent (c : Char) : Point :=
  if c = '\n' then ⟨1, 0⟩ else ⟨0, 1⟩

-- `max_point` of a text (its `TextSummary::lines`): the point just past its last character.
def maxPoint : List Char → Point
  | [] => ⟨0, 0⟩
  | c :: cs => charExtent c + maxPoint cs

-- The point of an offset.
def offsetToPoint (text : List Char) (offset : Nat) : Point :=
  maxPoint (text.take offset)

-- `Rope::point_to_offset`: the offset of a point, clipped to the end of its row and to the
-- end of the text.
def pointToOffset : List Char → Point → Nat
  | [], _ => 0
  | c :: cs, p => if charExtent c ≤ p then pointToOffset cs (p - charExtent c) + 1 else 0

theorem charExtent_add (c : Char) (p : Point) :
    charExtent c + p =
      if c = '\n' then ⟨p.row + 1, p.column⟩ else if p.row = 0 then ⟨0, p.column + 1⟩ else p := by
  unfold charExtent
  by_cases hc : c = '\n' <;> by_cases hp : p.row = 0 <;>
    simp [hc, hp, Point.add_def, Nat.add_comm]

theorem charExtent_add_row (c : Char) (p : Point) :
    (charExtent c + p).row = p.row + if c = '\n' then 1 else 0 := by
  rw [charExtent_add]; split
  · simp_all
  · split <;> simp_all

theorem not_charExtent_le_zero (c : Char) : ¬charExtent c ≤ ⟨0, 0⟩ := by
  unfold charExtent; split <;> simp [Point.le_def]

-- Resolving a point that lies past the first character steps over that character.
theorem pointToOffset_cons_add (c : Char) (cs : List Char) (p : Point) :
    pointToOffset (c :: cs) (charExtent c + p) = pointToOffset cs p + 1 := by
  have hle : charExtent c ≤ charExtent c + p := by
    rw [charExtent_add]; unfold charExtent
    by_cases hc : c = '\n' <;> by_cases hp : p.row = 0 <;> simp [hc, hp, Point.le_def] <;> omega
  have hsub : charExtent c + p - charExtent c = p := by
    rw [charExtent_add]; unfold charExtent
    by_cases hc : c = '\n' <;> by_cases hp : p.row = 0 <;> cases p <;>
      simp_all [Point.sub_def]
  simp only [pointToOffset, hle, hsub, if_true]

@[simp] theorem maxPoint_nil : maxPoint [] = ⟨0, 0⟩ := rfl

theorem maxPoint_append (xs ys : List Char) : maxPoint (xs ++ ys) = maxPoint xs + maxPoint ys := by
  induction xs with
  | nil => simp
  | cons c cs ih => rw [List.cons_append, maxPoint, maxPoint, ih, Point.add_assoc]

-- Appending a line break opens an empty last row.
theorem maxPoint_append_newline (text : List Char) :
    maxPoint (text ++ ['\n']) = ⟨(maxPoint text).row + 1, 0⟩ := by
  simp [maxPoint_append, maxPoint, charExtent, Point.add_def]

theorem offsetToPoint_row_le (text : List Char) (offset : Nat) :
    (offsetToPoint text offset).row ≤ (maxPoint text).row := by
  induction text generalizing offset with
  | nil => simp [offsetToPoint]
  | cons c cs ih =>
      cases offset with
      | zero => simp [offsetToPoint]
      | succ n =>
          have := ih n
          simp only [offsetToPoint, List.take_succ_cons, maxPoint, charExtent_add_row] at this ⊢
          omega

theorem pointToOffset_maxPoint (text : List Char) : pointToOffset text (maxPoint text) = text.length := by
  induction text with
  | nil => rfl
  | cons c cs ih => rw [maxPoint, pointToOffset_cons_add, ih, List.length_cons]

-- A row start that exists in the text resolves to an offset whose point is that row start:
-- it is not clipped.
theorem offsetToPoint_pointToOffset_row_start (text : List Char) (row : Nat)
    (hrow : row ≤ (maxPoint text).row) :
    offsetToPoint text (pointToOffset text ⟨row, 0⟩) = ⟨row, 0⟩ := by
  induction text generalizing row with
  | nil => simp_all [offsetToPoint, pointToOffset]
  | cons c cs ih =>
      cases row with
      | zero => simp [offsetToPoint, pointToOffset, not_charExtent_le_zero]
      | succ k =>
          -- the row start is one character further than a row start of the rest
          obtain ⟨q, hq, hqrow⟩ : ∃ q : Point, charExtent c + q = ⟨k + 1, 0⟩ ∧
              q.column = 0 ∧ q.row ≤ (maxPoint cs).row := by
            rw [maxPoint, charExtent_add_row] at hrow
            by_cases hc : c = '\n'
            · exact ⟨⟨k, 0⟩, by simp [charExtent_add, hc], rfl, by simp_all⟩
            · exact ⟨⟨k + 1, 0⟩, by simp [charExtent_add, hc], rfl, by simp_all⟩
          obtain ⟨qrow, qcol⟩ := q
          simp only at hqrow
          obtain ⟨rfl, hqrow⟩ := hqrow
          rw [← hq, pointToOffset_cons_add]
          simpa only [offsetToPoint, List.take_succ_cons, maxPoint] using
            congrArg (charExtent c + ·) (ih qrow hqrow)

-- A position reference into the buffer. Anchors are points of one total order, which edits
-- never reorder; an anchor is placed by its offset.
structure Anchor where
  offset : Nat
deriving DecidableEq, Repr

-- `Range<Anchor>`.
structure AnchorRange where
  start : Anchor
  «end» : Anchor
deriving DecidableEq, Repr

-- `AnchorRangeExt::overlaps`: `self.end >= other.start && self.start <= other.end`.
def AnchorRange.overlaps (self other : AnchorRange) : Bool :=
  other.start.offset ≤ self.end.offset && self.start.offset ≤ other.end.offset

theorem AnchorRange.overlaps_comm (a b : AnchorRange) : a.overlaps b = b.overlaps a := by
  simp only [overlaps, Bool.and_comm]

-- The buffer as the editor hands it to the session: the text of its current snapshot, and
-- which anchors `Anchor::is_valid` accepts against that snapshot.
structure Buffer where
  text : List Char
  isValid : Anchor → Bool

namespace Buffer

def maxPoint (buffer : Buffer) : Point :=
  ReplSession.maxPoint buffer.text

-- `Anchor::to_point` against the buffer's snapshot.
def toPoint (buffer : Buffer) (anchor : Anchor) : Point :=
  offsetToPoint buffer.text anchor.offset

-- `anchor_before`: an anchor at the offset of a point.
def anchorBefore (buffer : Buffer) (point : Point) : Anchor :=
  ⟨pointToOffset buffer.text point⟩

-- `MultiBuffer::edit` of one range: the text between the two points is replaced. Inserting
-- never invalidates an anchor.
def edit (buffer : Buffer) (range : Point × Point) (newText : List Char) : Buffer :=
  { buffer with
    text := buffer.text.take (pointToOffset buffer.text range.1) ++ newText ++
      buffer.text.drop (pointToOffset buffer.text range.2) }

-- An insertion at `max_point` appends.
theorem edit_maxPoint_text (buffer : Buffer) (newText : List Char) :
    (buffer.edit (buffer.maxPoint, buffer.maxPoint) newText).text = buffer.text ++ newText := by
  simp [edit, maxPoint, pointToOffset_maxPoint]

end Buffer

end ReplSession

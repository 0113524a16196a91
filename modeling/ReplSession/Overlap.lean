import ReplSession.Ledger

namespace ReplSession

namespace Ledger

-- No two live blocks have overlapping code ranges.
def Disjoint (l : Ledger) : Prop :=
  ∀ e ∈ l.blocks.entries, ∀ f ∈ l.blocks.entries, e ≠ f →
    e.2.codeRange.overlaps f.2.codeRange = false

variable {l : Ledger}

theorem Disjoint.of_subset (h : l.Disjoint) {l' : Ledger}
    (hsub : ∀ e ∈ l'.blocks.entries, e ∈ l.blocks.entries) : l'.Disjoint :=
  fun e he f hf hne => h e (hsub e he) f (hsub f hf) hne

-- A block on `anchorRange`, added to blocks that none of it overlaps, overlaps none of them.
theorem Disjoint.add (h : l.Disjoint) (key : String) (anchorRange : AnchorRange)
    (anchor placement : Anchor)
    (hfree : ∀ e ∈ l.blocks.entries, anchorRange.overlaps e.2.codeRange = false) :
    (l.add key anchorRange anchor placement).Disjoint := by
  intro e he f hf hne
  simp only [Ledger.add, BlockMap.mem_insert] at he hf
  rcases he with rfl | ⟨he, -⟩ <;> rcases hf with rfl | ⟨hf, -⟩
  · exact absurd rfl hne
  · exact hfree f hf
  · rw [AnchorRange.overlaps_comm]; exact hfree e he
  · exact h e he f hf hne

theorem Disjoint.ledgerStep (h : l.Disjoint) {l' : Ledger} (hstep : LedgerStep l l') :
    l'.Disjoint := by
  cases hstep with
  | keep => exact h
  | evict keep => exact h.of_subset fun e he => (BlockMap.mem_retain.mp he).1
  | clear => exact h.of_subset (by simp [Ledger.clear])
  | close blockId =>
      unfold Ledger.close
      split
      · exact h.of_subset fun e he => (BlockMap.mem_remove.mp he).1
      · exact h
  | execute msgId anchorRange =>
      exact h.of_subset fun e he => (BlockMap.mem_retain.mp he).1
  | executeAdd msgId anchorRange anchor =>
      refine (h.of_subset fun e he => (BlockMap.mem_retain.mp he).1).add _ _ _ _ fun e he => ?_
      simpa [Ledger.evict, Ledger.issue] using (BlockMap.mem_retain.mp he).2

end Ledger

theorem Reachable.ledger_disjoint {s : Session} (hs : Reachable s) : s.ledger.Disjoint := by
  induction hs with
  | new buffer => simp [Ledger.Disjoint, Session.new, Session.startKernel]
  | step a _ ih => exact ih.ledgerStep (Session.step_ledgerStep _ a)

-- In every reachable state, distinct live blocks have code ranges that do not overlap.
theorem code_ranges_disjoint {s : Session} (hs : Reachable s) :
    ∀ e ∈ s.blocks.entries, ∀ f ∈ s.blocks.entries, e ≠ f →
      e.2.codeRange.overlaps f.2.codeRange = false :=
  hs.ledger_disjoint

-- Two executions on separate rows leave two blocks side by side.
theorem code_ranges_disjoint_after_two_executes :
    let s := (Session.new ⟨"x\ny".toList, fun _ => true⟩).run
      [.execute "x" ⟨⟨0⟩, ⟨1⟩⟩ none false "a", .execute "y" ⟨⟨2⟩, ⟨3⟩⟩ none false "b"]
    Reachable s ∧ ∀ e ∈ s.blocks.entries, ∀ f ∈ s.blocks.entries, e ≠ f →
      e.2.codeRange.overlaps f.2.codeRange = false :=
  have h := (Reachable.new ⟨"x\ny".toList, fun _ => true⟩).run
    [.execute "x" ⟨⟨0⟩, ⟨1⟩⟩ none false "a", .execute "y" ⟨⟨2⟩, ⟨3⟩⟩ none false "b"]
  ⟨h, code_ranges_disjoint h⟩

end ReplSession

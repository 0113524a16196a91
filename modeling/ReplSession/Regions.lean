import ReplSession.Ledger

namespace ReplSession

namespace Ledger

-- The bookkeeping invariant: the blocks and the custom blocks match one to one, through the
-- custom block's id and its close control's request id; ids and views are below the next
-- ones, request ids are issued once, and every key was issued.
structure Wf (l : Ledger) : Prop where
  region : ∀ e ∈ l.blocks.entries, ∃ c ∈ l.customBlocks, c.id = e.2.blockId ∧ c.onClose = e.1
  block : ∀ c ∈ l.customBlocks, ∃ e ∈ l.blocks.entries, e.2.blockId = c.id ∧ e.1 = c.onClose
  ids_nodup : (l.customBlocks.map (·.id)).Nodup
  ids_lt : ∀ c ∈ l.customBlocks, c.id < l.nextBlockId
  views_nodup : (l.blocks.values.map (·.executionView)).Nodup
  views_lt : ∀ e ∈ l.blocks.entries, e.2.executionView < l.nextView
  keys_issued : ∀ e ∈ l.blocks.entries, e.1 ∈ l.issued
  issued_nodup : l.issued.Nodup

variable {l : Ledger}

-- Custom blocks with one id are one custom block.
theorem Wf.custom_eq (h : l.Wf) {c d : CustomBlock} (hc : c ∈ l.customBlocks)
    (hd : d ∈ l.customBlocks) (hid : c.id = d.id) : c = d :=
  List.inj_on_of_nodup_map h.ids_nodup hc hd hid

-- Distinct blocks sit on distinct custom blocks.
theorem Wf.entry_eq (h : l.Wf) {e f : String × EditorBlock} (he : e ∈ l.blocks.entries)
    (hf : f ∈ l.blocks.entries) (hid : e.2.blockId = f.2.blockId) : e = f := by
  obtain ⟨c, hc, hcid, hck⟩ := h.region e he
  obtain ⟨d, hd, hdid, hdk⟩ := h.region f hf
  have : c = d := h.custom_eq hc hd (by rw [hcid, hdid, hid])
  exact BlockMap.eq_of_mem_of_key_eq he hf (by rw [← hck, ← hdk, this])

-- A block's key is the request id of a custom block's close control exactly when the block
-- sits on that custom block.
theorem Wf.key_eq_iff (h : l.Wf) {c : CustomBlock} (hc : c ∈ l.customBlocks)
    {e : String × EditorBlock} (he : e ∈ l.blocks.entries) : e.1 = c.onClose ↔ e.2.blockId = c.id := by
  obtain ⟨f, hf, hfid, hfk⟩ := h.block c hc
  obtain ⟨d, hd, hdid, hdk⟩ := h.region e he
  constructor
  · intro hk
    rw [BlockMap.eq_of_mem_of_key_eq he hf (hk.trans hfk.symm), hfid]
  · intro hid
    rw [← hdk, h.custom_eq hd hc (hdid.trans hid)]

-- A block map whose entries are among those of a well-formed one, with exactly the matching
-- custom blocks, keeps the invariant.
theorem Wf.of_sub (h : l.Wf) {l' : Ledger} (hentries : ∀ e ∈ l'.blocks.entries, e ∈ l.blocks.entries)
    (hcustom : ∀ c, c ∈ l'.customBlocks ↔ c ∈ l.customBlocks ∧
      ∃ e ∈ l'.blocks.entries, e.2.blockId = c.id)
    (hsub : (l'.customBlocks.map (·.id)).Sublist (l.customBlocks.map (·.id)))
    (hvsub : (l'.blocks.values.map (·.executionView)).Sublist (l.blocks.values.map (·.executionView)))
    (hnext : l'.nextBlockId = l.nextBlockId) (hview : l'.nextView = l.nextView)
    (hissued : l'.issued = l.issued) : l'.Wf where
  region e he := by
    obtain ⟨c, hc, hcid, hck⟩ := h.region e (hentries e he)
    exact ⟨c, (hcustom c).mpr ⟨hc, e, he, hcid.symm⟩, hcid, hck⟩
  block c hc := by
    obtain ⟨hc, e, he, heid⟩ := (hcustom c).mp hc
    obtain ⟨f, hf, hfid, hfk⟩ := h.block c hc
    have : e = f := h.entry_eq (hentries e he) hf (by rw [heid, hfid])
    exact ⟨e, he, heid, this ▸ hfk⟩
  ids_nodup := h.ids_nodup.sublist hsub
  ids_lt c hc := hnext ▸ h.ids_lt c ((hcustom c).mp hc).1
  views_nodup := h.views_nodup.sublist hvsub
  views_lt e he := hview ▸ h.views_lt e (hentries e he)
  keys_issued e he := hissued ▸ h.keys_issued e (hentries e he)
  issued_nodup := hissued ▸ h.issued_nodup

theorem Wf.evict (h : l.Wf) (keep : EditorBlock → Bool) : (l.evict keep).Wf := by
  refine h.of_sub (fun e he => (BlockMap.mem_retain.mp he).1) (fun c => ?_)
    ((List.filter_sublist _).map _) (((List.filter_sublist _).map _).map _) rfl rfl rfl
  simp only [Ledger.evict, List.mem_filter, BlockMap.mem_retain, decide_not, Bool.not_eq_true',
    decide_eq_false_iff_not, BlockMap.mem_rejectedIds, not_exists, not_and, decide_eq_true_eq]
  constructor
  · rintro ⟨hc, hrej⟩
    obtain ⟨e, he, hid, -⟩ := h.block c hc
    refine ⟨hc, e, ⟨he, ?_⟩, hid⟩
    cases hkeep : keep e.2
    · exact absurd hid (hrej e he hkeep)
    · rfl
  · rintro ⟨hc, e, ⟨he, hkeep⟩, hid⟩
    refine ⟨hc, fun f hf hfkeep hfid => ?_⟩
    have : f = e := h.entry_eq hf he (hfid.trans hid.symm)
    rw [this, hkeep] at hfkeep
    cases hfkeep

theorem Wf.clear (h : l.Wf) : l.clear.Wf := by
  refine h.of_sub (fun _ he => absurd he (List.not_mem_nil _)) (fun c => ?_)
    ((List.filter_sublist _).map _) (List.nil_sublist _) rfl rfl rfl
  simp only [Ledger.clear, BlockMap.entries_empty, List.not_mem_nil, false_and, exists_false,
    and_false, iff_false, List.mem_filter, decide_not, Bool.not_eq_true', decide_eq_false_iff_not,
    not_and, not_not]
  intro hc
  obtain ⟨e, he, hid, -⟩ := h.block c hc
  exact List.mem_map.mpr ⟨e.2, List.mem_map.mpr ⟨e, he, rfl⟩, hid⟩

theorem Wf.close (h : l.Wf) (blockId : Nat) : (l.close blockId).Wf := by
  unfold Ledger.close
  split
  · rename_i c0 hfind
    have hc0 := List.mem_of_find?_eq_some hfind
    have hid0 : c0.id = blockId := by simpa using List.find?_some hfind
    obtain ⟨e0, he0, he0id, he0k⟩ := h.block c0 hc0
    refine h.of_sub (fun e he => (BlockMap.mem_remove.mp he).1) (fun c => ?_)
      ((List.filter_sublist _).map _) (((List.filter_sublist _).map _).map _) rfl rfl rfl
    simp only [List.mem_filter, BlockMap.mem_remove, List.mem_singleton, decide_not,
      Bool.not_eq_true', decide_eq_false_iff_not]
    constructor
    · rintro ⟨hc, hcid⟩
      obtain ⟨e, he, heid, hek⟩ := h.block c hc
      refine ⟨hc, e, ⟨he, fun hk => hcid ?_⟩, heid⟩
      have : e = e0 := BlockMap.eq_of_mem_of_key_eq he he0 (hk.trans he0k.symm)
      rw [← heid, this, he0id, hid0]
    · rintro ⟨hc, e, ⟨he, hek⟩, heid⟩
      refine ⟨hc, fun hcid => hek ?_⟩
      have : e = e0 := h.entry_eq he he0 (by rw [heid, he0id, hcid, hid0])
      rw [this, he0k]
  · exact h

theorem Wf.issue (h : l.Wf) (msgId : String) (hfresh : msgId ∉ l.issued) : (l.issue msgId).Wf where
  region := h.region
  block := h.block
  ids_nodup := h.ids_nodup
  ids_lt := h.ids_lt
  views_nodup := h.views_nodup
  views_lt := h.views_lt
  keys_issued e he := List.mem_append_left _ (h.keys_issued e he)
  issued_nodup := List.nodup_append.mpr ⟨h.issued_nodup, List.nodup_singleton _,
    List.disjoint_singleton.mpr hfresh⟩

-- A block under a request id that is issued and not yet a key keeps the invariant.
theorem Wf.add (h : l.Wf) (key : String) (codeRange : AnchorRange) (anchor placement : Anchor)
    (hissued : key ∈ l.issued) (hkey : ∀ e ∈ l.blocks.entries, e.1 ≠ key) :
    (l.add key codeRange anchor placement).Wf := by
  have hremove : (l.blocks.remove key).entries = l.blocks.entries :=
    List.filter_eq_self.mpr fun e he => by simpa using hkey e he
  have hentries : (l.add key codeRange anchor placement).blocks.entries =
      (key, ⟨codeRange, anchor, l.nextBlockId, l.nextView⟩) :: l.blocks.entries := by
    simp only [Ledger.add, BlockMap.insert, hremove]
  constructor
  · intro e he
    rw [hentries, List.mem_cons] at he
    rcases he with rfl | he
    · exact ⟨_, List.mem_append_right _ (List.mem_singleton_self _), rfl, rfl⟩
    · obtain ⟨c, hc, hcid, hck⟩ := h.region e he
      exact ⟨c, List.mem_append_left _ hc, hcid, hck⟩
  · intro c hc
    rw [hentries]
    rcases List.mem_append.mp hc with hc | hc
    · obtain ⟨e, he, heid, hek⟩ := h.block c hc
      exact ⟨e, List.mem_cons_of_mem _ he, heid, hek⟩
    · rw [List.mem_singleton.mp hc]
      exact ⟨_, List.mem_cons_self _ _, rfl, rfl⟩
  · simp only [Ledger.add, List.map_append, List.map_singleton]
    refine List.nodup_append.mpr ⟨h.ids_nodup, List.nodup_singleton _, ?_⟩
    simp only [List.disjoint_singleton, List.mem_map, not_exists, not_and]
    exact fun c hc hid => absurd (h.ids_lt c hc) (by omega)
  · intro c hc
    rcases List.mem_append.mp hc with hc | hc
    · exact Nat.lt_succ_of_lt (h.ids_lt c hc)
    · rw [List.mem_singleton.mp hc]; exact Nat.lt_succ_self _
  · simp only [BlockMap.values, hentries, List.map_cons, List.nodup_cons]
    refine ⟨?_, h.views_nodup⟩
    simp only [List.map_map, List.mem_map, Function.comp, not_exists, not_and]
    exact fun e he hview => absurd (h.views_lt e he) (by omega)
  · intro e he
    rw [hentries, List.mem_cons] at he
    rcases he with rfl | he
    · exact Nat.lt_succ_self _
    · exact Nat.lt_succ_of_lt (h.views_lt e he)
  · intro e he
    rw [hentries, List.mem_cons] at he
    rcases he with rfl | he
    · exact hissued
    · exact h.keys_issued e he
  · exact h.issued_nodup

-- Every bookkeeping step keeps the invariant, as long as request ids stay distinct.
theorem Wf.ledgerStep (h : l.Wf) {l' : Ledger} (hstep : LedgerStep l l') (hnodup : l'.issued.Nodup) :
    l'.Wf := by
  cases hstep with
  | keep => exact h
  | evict keep => exact h.evict keep
  | clear => exact h.clear
  | close blockId => exact h.close blockId
  | execute msgId anchorRange =>
      have hfresh : msgId ∉ l.issued := (List.nodup_cons.mp (List.nodup_append_comm.mp hnodup)).1
      exact (h.issue msgId hfresh).evict _
  | executeAdd msgId anchorRange anchor =>
      have hfresh : msgId ∉ l.issued := (List.nodup_cons.mp (List.nodup_append_comm.mp hnodup)).1
      refine ((h.issue msgId hfresh).evict _).add _ _ _ _ (List.mem_append_right _ (List.mem_singleton_self _)) ?_
      intro e he hkey
      exact hfresh (hkey ▸ h.keys_issued e (BlockMap.mem_retain.mp he).1)

end Ledger

namespace Session

theorem new_ledger_wf (buffer : Buffer) : (Session.new buffer).ledger.Wf where
  region := by simp [Session.new, startKernel]
  block := by simp [Session.new, startKernel]
  ids_nodup := List.nodup_nil
  ids_lt := by simp [Session.new, startKernel]
  views_nodup := List.nodup_nil
  views_lt := by simp [Session.new, startKernel]
  keys_issued := by simp [Session.new, startKernel]
  issued_nodup := List.nodup_nil

theorem step_ledger_wf {s : Session} (h : s.ledger.Wf) (a : Action) (ha : FreshAction s a) :
    (s.step a).ledger.Wf := by
  refine h.ledgerStep (s.step_ledgerStep a) ?_
  rw [ledger_issued, step_issued]
  cases a with
  | execute code anchorRange nextCell moveDown msgId =>
      have hfresh : msgId ∉ s.issued := ha
      cases hcode : code.isEmpty
      · simpa [hcode, List.nodup_append] using ⟨h.issued_nodup, hfresh⟩
      · simpa [hcode] using h.issued_nodup
  | _ => simpa using h.issued_nodup

end Session

theorem FreshReachable.ledger_wf {s : Session} (hs : FreshReachable s) : s.ledger.Wf := by
  induction hs with
  | new buffer => exact Session.new_ledger_wf buffer
  | step a _ ha ih => exact Session.step_ledger_wf ih a ha

-- With fresh request ids, the session's blocks and its custom blocks in the editor stay in
-- step: distinct blocks have distinct custom blocks, and the custom blocks present are exactly
-- those of the live blocks.
theorem customBlocks_match_blocks {s : Session} (hs : FreshReachable s) :
    (∀ e ∈ s.blocks.entries, ∀ f ∈ s.blocks.entries, e ≠ f → e.2.blockId ≠ f.2.blockId) ∧
      ∀ id, id ∈ s.customBlocks.map (·.id) ↔ id ∈ s.blocks.values.map (·.blockId) := by
  have h := hs.ledger_wf
  refine ⟨fun e he f hf hne hid => hne (h.entry_eq he hf hid), fun id => ?_⟩
  simp only [BlockMap.values, List.map_map, List.mem_map, Function.comp]
  constructor
  · rintro ⟨c, hc, rfl⟩
    obtain ⟨e, he, hid, -⟩ := h.block c hc
    exact ⟨e, he, hid⟩
  · rintro ⟨e, he, rfl⟩
    obtain ⟨c, hc, hid, -⟩ := h.region e he
    exact ⟨c, hc, hid⟩

-- One block executed on a fresh session: its custom block is the only one.
theorem customBlocks_match_blocks_after_execute :
    let s := (Session.new ⟨"x".toList, fun _ => true⟩).step
      (.execute "x" ⟨⟨0⟩, ⟨1⟩⟩ none false "request")
    FreshReachable s ∧
      (∀ e ∈ s.blocks.entries, ∀ f ∈ s.blocks.entries, e ≠ f → e.2.blockId ≠ f.2.blockId) ∧
      ∀ id, id ∈ s.customBlocks.map (·.id) ↔ id ∈ s.blocks.values.map (·.blockId) :=
  have h : FreshReachable ((Session.new ⟨"x".toList, fun _ => true⟩).step
      (.execute "x" ⟨⟨0⟩, ⟨1⟩⟩ none false "request")) :=
    .step _ (.new _) (by simp [FreshAction, Session.new, Session.startKernel])
  ⟨h, customBlocks_match_blocks h⟩

end ReplSession

import Mathlib.Data.List.Nodup
import ReplSession.Buffer

namespace ReplSession

-- `EditorBlock`: an execution's code range, the anchor whose loss invalidates it, the
-- custom block it occupies in the editor and its execution view.
structure EditorBlock where
  codeRange : AnchorRange
  invalidationAnchor : Anchor
  blockId : Nat
  executionView : Nat
deriving DecidableEq, Repr

-- A default block, so that the `Nonempty` side goals simp raises over block lists are
-- settled at once rather than searched through all of Mathlib.
instance : Inhabited EditorBlock := ⟨⟨⟨⟨0⟩, ⟨0⟩⟩, ⟨0⟩, 0, 0⟩⟩

-- `HashMap<String, EditorBlock>`: the session's blocks by request id. Keys are distinct.
structure BlockMap where
  entries : List (String × EditorBlock)
  nodupKeys : (entries.map Prod.fst).Nodup

namespace BlockMap

private theorem nodup_filter {m : BlockMap} (p : String × EditorBlock → Bool) :
    ((m.entries.filter p).map Prod.fst).Nodup :=
  m.nodupKeys.sublist ((List.filter_sublist _).map _)

def empty : BlockMap :=
  ⟨[], List.nodup_nil⟩

def keys (m : BlockMap) : List String :=
  m.entries.map Prod.fst

def values (m : BlockMap) : List EditorBlock :=
  m.entries.map Prod.snd

def get? (m : BlockMap) (key : String) : Option EditorBlock :=
  m.entries.lookup key

-- `retain`: keep the blocks the predicate accepts.
def retain (m : BlockMap) (keep : EditorBlock → Bool) : BlockMap :=
  ⟨m.entries.filter (keep ·.2), nodup_filter _⟩

-- The custom block ids of the blocks `retain` drops, as the closures collect them.
def rejectedIds (m : BlockMap) (keep : EditorBlock → Bool) : List Nat :=
  (m.entries.filter (!keep ·.2)).map (·.2.blockId)

def remove (m : BlockMap) (key : String) : BlockMap :=
  ⟨m.entries.filter (·.1 ≠ key), nodup_filter _⟩

-- `insert` replaces the entry of an existing key.
def insert (m : BlockMap) (key : String) (block : EditorBlock) : BlockMap :=
  ⟨(key, block) :: (m.remove key).entries, by
    refine List.nodup_cons.mpr ⟨?_, (m.remove key).nodupKeys⟩
    simp [remove]⟩

@[simp] theorem entries_empty : empty.entries = [] := rfl

@[simp] theorem mem_retain {m : BlockMap} {keep : EditorBlock → Bool} {e : String × EditorBlock} :
    e ∈ (m.retain keep).entries ↔ e ∈ m.entries ∧ keep e.2 = true := by
  simp [retain]

@[simp] theorem mem_remove {m : BlockMap} {key : String} {e : String × EditorBlock} :
    e ∈ (m.remove key).entries ↔ e ∈ m.entries ∧ e.1 ≠ key := by
  simp [remove]

@[simp] theorem mem_insert {m : BlockMap} {key : String} {block : EditorBlock}
    {e : String × EditorBlock} :
    e ∈ (m.insert key block).entries ↔ e = (key, block) ∨ (e ∈ m.entries ∧ e.1 ≠ key) := by
  simp [insert]

@[simp] theorem mem_rejectedIds {m : BlockMap} {keep : EditorBlock → Bool} {id : Nat} :
    id ∈ m.rejectedIds keep ↔ ∃ e ∈ m.entries, keep e.2 = false ∧ e.2.blockId = id := by
  simp [rejectedIds, and_assoc]

-- Two entries with one key are the same entry.
theorem eq_of_mem_of_key_eq {m : BlockMap} {e f : String × EditorBlock} (he : e ∈ m.entries)
    (hf : f ∈ m.entries) (hkey : e.1 = f.1) : e = f :=
  List.inj_on_of_nodup_map m.nodupKeys he hf hkey

theorem get?_eq_some {m : BlockMap} {key : String} {block : EditorBlock} :
    m.get? key = some block ↔ (key, block) ∈ m.entries := by
  obtain ⟨entries, nodup⟩ := m
  simp only [get?]
  induction entries with
  | nil => simp
  | cons e rest ih =>
      obtain ⟨k, b⟩ := e
      simp only [List.map_cons, List.nodup_cons, List.mem_map, Prod.exists, exists_and_right,
        exists_eq_right, not_exists] at nodup
      by_cases hk : key = k
      · subst hk
        have : ∀ b', (key, b') ∉ rest := nodup.1
        simp [List.lookup_cons, this, eq_comm]
      · have hne : (key == k) = false := by simpa using hk
        simp [List.lookup_cons, hne, hk, ih nodup.2]

end BlockMap

end ReplSession

import Lumiere.Client.Document

/-!
# References from targets to documents

A set of pairs of a document and a target, kept in the order of the documents and in the order of the
targets, so that both the targets of a document and the documents of a target are found by a scan.
-/

namespace Lumiere.Firestore.Client

/-- A number the client gives to a query that it listens to. -/
abbrev TargetId := Nat

/-- The same references in two orders. -/
structure ReferenceSet where
  byKey : SortedTable (RowKey DocumentKey TargetId) Unit
  byId : SortedTable (RowKey TargetId DocumentKey) Unit
  same : ∀ k t, byKey.contains ⟨k, t⟩ = byId.contains ⟨t, k⟩

namespace ReferenceSet

/-- The set of no references. -/
def empty : ReferenceSet :=
  ⟨SortedTable.empty, SortedTable.empty, fun _ _ => rfl⟩

/-- Whether a target refers to a document. -/
def has (s : ReferenceSet) (k : DocumentKey) (t : TargetId) : Bool :=
  s.byKey.contains ⟨k, t⟩

/-- A target refers to a document. -/
def addReference (s : ReferenceSet) (key : DocumentKey) (id : TargetId) : ReferenceSet where
  byKey := s.byKey.put ⟨key, id⟩ ()
  byId := s.byId.put ⟨id, key⟩ ()
  same := by
    intro k t
    have h := s.same k t
    rw [SortedTable.contains, SortedTable.contains, SortedTable.get_put, SortedTable.get_put]
    by_cases e : k = key ∧ t = id
    · rw [e.1, e.2, if_pos rfl, if_pos rfl]
    · rw [if_neg, if_neg]
      · exact h
      · intro e'
        cases e'
        exact e ⟨rfl, rfl⟩
      · intro e'
        cases e'
        exact e ⟨rfl, rfl⟩

/-- A target refers to a document no longer. -/
def removeReference (s : ReferenceSet) (key : DocumentKey) (id : TargetId) : ReferenceSet where
  byKey := s.byKey.delete ⟨key, id⟩
  byId := s.byId.delete ⟨id, key⟩
  same := by
    intro k t
    have h := s.same k t
    rw [SortedTable.contains, SortedTable.contains, SortedTable.get_delete, SortedTable.get_delete]
    by_cases e : k = key ∧ t = id
    · rw [e.1, e.2, if_pos rfl, if_pos rfl]
    · rw [if_neg, if_neg]
      · exact h
      · intro e'
        cases e'
        exact e ⟨rfl, rfl⟩
      · intro e'
        cases e'
        exact e ⟨rfl, rfl⟩

/-- The documents that a target refers to. -/
def referencedKeys (s : ReferenceSet) (id : TargetId) : List DocumentKey :=
  (s.byId.scanOn RowKey.first id).map fun r => r.1.second

/-- All references of a target are taken out. -/
def removeReferences (s : ReferenceSet) (id : TargetId) : ReferenceSet :=
  (s.referencedKeys id).foldl (fun s k => s.removeReference k id) s

/-- Whether some target refers to a document. -/
def containsKey (s : ReferenceSet) (key : DocumentKey) : Bool :=
  !(s.byKey.scanOn RowKey.first key).isEmpty

variable {s : ReferenceSet} {k key : DocumentKey} {t id : TargetId}

/-- The references after one more. -/
lemma has_addReference :
    (s.addReference key id).has k t = (decide (k = key ∧ t = id) || s.has k t) := by
  change SortedTable.contains (SortedTable.put _ _ _) _ = _
  rw [SortedTable.contains, SortedTable.get_put]
  by_cases e : k = key ∧ t = id
  · rw [e.1, e.2, if_pos rfl, decide_eq_true ⟨rfl, rfl⟩]
    rfl
  · rw [if_neg, decide_eq_false e]
    · rfl
    · intro e'
      cases e'
      exact e ⟨rfl, rfl⟩

/-- The references after one less. -/
lemma has_removeReference :
    (s.removeReference key id).has k t = (!decide (k = key ∧ t = id) && s.has k t) := by
  change SortedTable.contains (SortedTable.delete _ _) _ = _
  rw [SortedTable.contains, SortedTable.get_delete]
  by_cases e : k = key ∧ t = id
  · rw [e.1, e.2, if_pos rfl, decide_eq_true ⟨rfl, rfl⟩]
    rfl
  · rw [if_neg, decide_eq_false e]
    · rfl
    · intro e'
      cases e'
      exact e ⟨rfl, rfl⟩

/-- The scan of a target finds the documents that it refers to. -/
lemma mem_referencedKeys : k ∈ s.referencedKeys id ↔ s.has k id = true := by
  rw [has, s.same, SortedTable.contains, Option.isSome_iff_exists, referencedKeys, List.mem_map]
  constructor
  · rintro ⟨⟨⟨t, k⟩, u⟩, mem, rfl⟩
    obtain ⟨e, rfl⟩ := (SortedTable.mem_scanOn RowKey.first_mono).1 mem
    exact ⟨u, e⟩
  · rintro ⟨u, e⟩
    exact ⟨_, (SortedTable.mem_scanOn RowKey.first_mono).2 ⟨e, rfl⟩, rfl⟩

/-- The scan of a document finds the targets that refer to it. -/
lemma containsKey_iff : s.containsKey key = true ↔ ∃ t, s.has key t = true := by
  rw [containsKey, Bool.not_eq_true', List.isEmpty_eq_false_iff_exists_mem]
  constructor
  · rintro ⟨⟨⟨k, t⟩, u⟩, mem⟩
    obtain ⟨e, rfl⟩ := (SortedTable.mem_scanOn RowKey.first_mono).1 mem
    exact ⟨t, Option.isSome_iff_exists.2 ⟨u, e⟩⟩
  · rintro ⟨t, e⟩
    obtain ⟨u, e⟩ := Option.isSome_iff_exists.1 e
    exact ⟨_, (SortedTable.mem_scanOn RowKey.first_mono).2 ⟨e, rfl⟩⟩

/-- The references after several of one target are gone. -/
lemma has_foldl_removeReference {ks : List DocumentKey} :
    (ks.foldl (fun s k => s.removeReference k id) s).has k t =
      (!decide (k ∈ ks ∧ t = id) && s.has k t) := by
  induction ks generalizing s with
  | nil => simp
  | cons key ks ih =>
    rw [List.foldl_cons, ih, has_removeReference]
    by_cases e : t = id <;> by_cases e' : k = key <;> simp [e, e']

/-- Only the references of the other targets are left. -/
lemma has_removeReferences :
    (s.removeReferences id).has k t = (decide (t ≠ id) && s.has k t) := by
  rw [removeReferences, has_foldl_removeReference, Bool.eq_iff_iff]
  by_cases e : t = id
  · subst e
    simp [mem_referencedKeys]
  · simp [e]

end ReferenceSet

end Lumiere.Firestore.Client

import Lumiere.Client.MutationQueue

/-!
# The overlay cache

An overlay is one mutation that stands for all pending mutations of a document, together with the
number of the last batch it comes from. The cache keeps the overlays of one user in a table under
document key and batch number and in two indexes, by batch number and by collection. In a
`Consistent` cache a document has at most one overlay and the indexes say what the table does; then
`getOverlay` is a map from keys and every operation does what its name says to that map.
-/

namespace Lumiere.Firestore.Client

/-- One mutation that stands for the pending mutations of a document. -/
structure Overlay where
  largestBatchId : BatchId
  mutation : Mutation
  deriving DecidableEq

/-- The key of an overlay: the document, then the last batch. -/
abbrev DocumentOverlayKey := DocumentMutationKey

/-- The key of a row of the index by batch number. -/
structure LargestBatchIdIndexKey where
  largestBatchId : BatchId
  documentKey : DocumentKey
  deriving DecidableEq

namespace LargestBatchIdIndexKey

instance : Ord LargestBatchIdIndexKey where
  compare := compareLex (compareOn largestBatchId) (compareOn documentKey)

instance : Std.TransOrd LargestBatchIdIndexKey :=
  inferInstanceAs (Std.TransCmp (compareLex (compareOn largestBatchId) (compareOn documentKey)))

instance : Std.LawfulEqOrd LargestBatchIdIndexKey where
  compare_self := Std.ReflOrd.compare_self
  eq_of_compare := by
    intro a b e
    obtain ⟨e1, e2⟩ := Ordering.then_eq_eq.1 e
    cases a
    cases b
    cases Std.LawfulEqOrd.eq_of_compare e1
    cases Std.LawfulEqOrd.eq_of_compare e2
    rfl

/-- The index is ordered by the number of the last batch first. -/
lemma largestBatchId_mono {a b : LargestBatchIdIndexKey} (lt : compare a b = .lt) :
    (compare a.largestBatchId b.largestBatchId).isLE := by
  rcases Ordering.then_eq_lt.1 lt with h | h
  · exact Ordering.isLE_of_eq_lt h
  · exact Ordering.isLE_of_eq_eq h.1

end LargestBatchIdIndexKey

/-- The key of a row that belongs to a collection: a number, then the document. -/
structure CollectionRowKey where
  collection : List String
  number : Nat
  documentId : String
  deriving DecidableEq

namespace CollectionRowKey

instance : Ord CollectionRowKey where
  compare :=
    compareLex (compareOn collection) (compareLex (compareOn number) (compareOn documentId))

instance : Std.TransOrd CollectionRowKey :=
  inferInstanceAs (Std.TransCmp (compareLex (compareOn collection)
    (compareLex (compareOn number) (compareOn documentId))))

instance : Std.LawfulEqOrd CollectionRowKey where
  compare_self := Std.ReflOrd.compare_self
  eq_of_compare := by
    intro a b e
    obtain ⟨e1, e'⟩ := Ordering.then_eq_eq.1 e
    obtain ⟨e2, e3⟩ := Ordering.then_eq_eq.1 e'
    cases a
    cases b
    cases Std.LawfulEqOrd.eq_of_compare e1
    cases Std.LawfulEqOrd.eq_of_compare e2
    cases Std.LawfulEqOrd.eq_of_compare e3
    rfl

/-- Rows are in the order of collections, within a collection in the order of the numbers. -/
lemma compare_lt {a b : CollectionRowKey} (lt : compare a b = .lt) :
    compare a.collection b.collection = .lt ∨
      a.collection = b.collection ∧ a.number ≤ b.number := by
  rcases Ordering.then_eq_lt.1 lt with h | ⟨h, h'⟩
  · exact .inl h
  · refine .inr ⟨Std.LawfulEqOrd.eq_of_compare h, ?_⟩
    rcases Ordering.then_eq_lt.1 h' with h | ⟨h, _⟩
    · exact (Nat.compare_eq_lt.1 h).le
    · exact (Nat.compare_eq_eq.1 h).le

/-- The rows of a collection from a number on are found by seeking the first of them. -/
lemma mem_scan {υ : Type} {t : SortedTable CollectionRowKey υ} {collection : List String}
    {number : Nat} {k : CollectionRowKey} {v : υ} :
    (k, v) ∈ t.scan
        (fun k => compare k.collection collection == .lt ||
          compare k.collection collection == .eq && decide (k.number < number))
        (fun k => compare k.collection collection == .eq) ↔
      t.get k = some v ∧ k.collection = collection ∧ number ≤ k.number := by
  rw [SortedTable.mem_scan, SortedTable.get_eq_some]
  · simp only [Bool.or_eq_false_iff, Bool.and_eq_false_iff, beq_eq_false_iff_ne, beq_iff_eq,
      decide_eq_false_iff_not, Std.LawfulEqOrd.compare_eq_iff_eq, ne_eq, Nat.not_lt]
    constructor
    · rintro ⟨mem, ⟨_, h⟩, e⟩
      exact ⟨mem, e, h.resolve_left fun ne => ne e⟩
    · rintro ⟨mem, e, h⟩
      refine ⟨mem, ⟨?_, .inr h⟩, e⟩
      rw [e, Std.ReflOrd.compare_self]
      decide
  · intro a b lt h
    rw [Bool.or_eq_true, Bool.and_eq_true, beq_iff_eq, beq_iff_eq, decide_eq_true_eq] at h ⊢
    rcases compare_lt lt with lt' | ⟨e, le⟩
    · rcases h with h | h
      · exact .inl (Std.TransCmp.lt_trans lt' h)
      · exact .inl (Std.LawfulEqOrd.eq_of_compare h.1 ▸ lt')
    · rw [e]
      exact h.imp_right fun h' => ⟨h'.1, lt_of_le_of_lt le h'.2⟩
  · intro a b lt h e
    rw [Bool.or_eq_false_iff] at h
    rw [beq_iff_eq] at e ⊢
    rcases compare_lt lt with lt' | ⟨e', _⟩
    · rw [Std.LawfulEqOrd.eq_of_compare e] at lt'
      rw [lt'] at h
      cases h.1
    · rw [e']
      exact e

end CollectionRowKey

/-- The key of a row of the index by collection: the collection, the last batch, the document. -/
abbrev CollectionIndexKey := CollectionRowKey

/-- The tables of the overlay cache of one user. -/
structure DocumentOverlayCache where
  overlays : SortedTable DocumentOverlayKey Mutation
  largestBatchIdIndex : SortedTable LargestBatchIdIndexKey Unit
  collectionIndex : SortedTable CollectionIndexKey Unit

namespace DocumentOverlayCache

/-- The cache without overlays. -/
def empty : DocumentOverlayCache :=
  ⟨SortedTable.empty, SortedTable.empty, SortedTable.empty⟩

/-- The first row of the overlays of a document. -/
def rowOf (c : DocumentOverlayCache) (key : DocumentKey) : Option (DocumentOverlayKey × Mutation) :=
  (c.overlays.scanOn DocumentMutationKey.documentKey key).head?

/-- The overlay of a document. -/
def getOverlay (c : DocumentOverlayCache) (key : DocumentKey) : Option Overlay :=
  (c.rowOf key).map fun r => ⟨r.1.batchId, r.2⟩

/-- The cache without a row and the index entries pointing to it. -/
def deleteRow (c : DocumentOverlayCache) (k : DocumentOverlayKey) : DocumentOverlayCache where
  overlays := c.overlays.delete k
  largestBatchIdIndex := c.largestBatchIdIndex.delete ⟨k.batchId, k.documentKey⟩
  collectionIndex :=
    c.collectionIndex.delete ⟨k.documentKey.collection, k.batchId, k.documentKey.id⟩

/-- The overlay of a document is deleted from the table and from the index. -/
def deleteOverlay (c : DocumentOverlayCache) (key : DocumentKey) : DocumentOverlayCache :=
  match c.rowOf key with
  | none => c
  | some r => c.deleteRow r.1

/-- The cache with a row and the index entries pointing to it. -/
def putRow (c : DocumentOverlayCache) (k : DocumentOverlayKey) (mutation : Mutation) :
    DocumentOverlayCache where
  overlays := c.overlays.put k mutation
  largestBatchIdIndex := c.largestBatchIdIndex.put ⟨k.batchId, k.documentKey⟩ ()
  collectionIndex :=
    c.collectionIndex.put ⟨k.documentKey.collection, k.batchId, k.documentKey.id⟩ ()

/-- An overlay takes the place of the one before. -/
def saveOverlay (c : DocumentOverlayCache) (largestBatchId : BatchId) (key : DocumentKey)
    (mutation : Mutation) : DocumentOverlayCache :=
  (c.deleteOverlay key).putRow ⟨key, largestBatchId⟩ mutation

/-- The overlays that a batch leaves. -/
def saveOverlays (c : DocumentOverlayCache) (largestBatchId : BatchId)
    (overlays : List (DocumentKey × Mutation)) : DocumentOverlayCache :=
  overlays.foldl (fun c o => c.saveOverlay largestBatchId o.1 o.2) c

/-- The overlays that a batch has left last are deleted. -/
def removeOverlaysForBatchId (c : DocumentOverlayCache) (batchId : BatchId) :
    DocumentOverlayCache :=
  (c.largestBatchIdIndex.scanOn LargestBatchIdIndexKey.largestBatchId batchId).foldl
    (fun c r => c.deleteRow ⟨r.1.documentKey, r.1.largestBatchId⟩) c

/-- The rows of the index of a collection, from the batch after a number on. -/
def collectionRows (c : DocumentOverlayCache) (collection : List String) (sinceBatchId : Int) :
    List (CollectionIndexKey × Unit) :=
  c.collectionIndex.scan
    (fun k => compare k.collection collection == .lt ||
      compare k.collection collection == .eq && decide (k.number < (sinceBatchId + 1).toNat))
    fun k => compare k.collection collection == .eq

/-- The overlays of the documents of a collection; every index entry must point to one. -/
def getOverlays (c : DocumentOverlayCache) (collection : List String) (sinceBatchId : Int) :
    Option (List (DocumentKey × Overlay)) :=
  (c.collectionRows collection sinceBatchId).mapM fun r =>
    (c.overlays.get ⟨⟨r.1.collection, r.1.documentId⟩, r.1.number⟩).map fun m =>
      (⟨r.1.collection, r.1.documentId⟩, ⟨r.1.number, m⟩)

/-- A document has at most one overlay, and the indexes say what the table does. -/
structure Consistent (c : DocumentOverlayCache) : Prop where
  unique : ∀ {k i j}, (c.overlays.get ⟨k, i⟩).isSome → (c.overlays.get ⟨k, j⟩).isSome → i = j
  named : ∀ {k i m}, c.overlays.get ⟨k, i⟩ = some m → m.key = k
  byBatchId : ∀ {k i},
    (c.largestBatchIdIndex.get ⟨i, k⟩).isSome ↔ (c.overlays.get ⟨k, i⟩).isSome
  byCollection : ∀ {k i},
    (c.collectionIndex.get ⟨k.collection, i, k.id⟩).isSome ↔ (c.overlays.get ⟨k, i⟩).isSome

/-- The empty cache is consistent. -/
lemma empty_consistent : empty.Consistent where
  unique := by intro k i j h; cases h
  named := by intro k i m e; cases e
  byBatchId := by intro k i; rfl
  byCollection := by intro k i; rfl

variable {c : DocumentOverlayCache}

/-! ## Reading -/

/-- The first row of a document is its only one. -/
lemma rowOf_eq_some (cc : c.Consistent) {key : DocumentKey} {r : DocumentOverlayKey × Mutation} :
    c.rowOf key = some r ↔ r.1.documentKey = key ∧ c.overlays.get r.1 = some r.2 := by
  have mem {x : DocumentOverlayKey × Mutation} :
      x ∈ c.overlays.scanOn DocumentMutationKey.documentKey key ↔
        c.overlays.get x.1 = some x.2 ∧ x.1.documentKey = key := by
    obtain ⟨k, m⟩ := x
    exact SortedTable.mem_scanOn DocumentMutationKey.documentKey_mono
  constructor
  · intro e
    exact (mem.1 (List.mem_of_head? e)).symm
  · rintro ⟨ek, e⟩
    have there := mem.2 ⟨e, ek⟩
    rw [rowOf]
    cases es : c.overlays.scanOn DocumentMutationKey.documentKey key with
    | nil => rw [es] at there; cases there
    | cons x xs =>
      have ex := mem.1 (es ▸ List.mem_cons_self : x ∈ c.overlays.scanOn _ key)
      obtain ⟨⟨k, i⟩, m⟩ := r
      obtain ⟨⟨k', i'⟩, m'⟩ := x
      cases ek
      cases ex.2
      cases cc.unique (Option.isSome_iff_exists.2 ⟨m, e⟩)
        (Option.isSome_iff_exists.2 ⟨m', ex.1⟩)
      cases Option.some.inj (e.symm.trans ex.1)
      rfl

/-- A document without a row has no overlay under any number. -/
lemma rowOf_eq_none (cc : c.Consistent) {key : DocumentKey} :
    c.rowOf key = none ↔ ∀ i, c.overlays.get ⟨key, i⟩ = none := by
  constructor
  · intro no i
    cases e : c.overlays.get ⟨key, i⟩ with
    | none => rfl
    | some m =>
      have h : c.rowOf key = some (⟨key, i⟩, m) := (rowOf_eq_some cc).2 ⟨rfl, e⟩
      rw [no] at h
      cases h
  · intro no
    cases e : c.rowOf key with
    | none => rfl
    | some r =>
      obtain ⟨rfl, h⟩ := (rowOf_eq_some cc).1 e
      rw [show r.1 = ⟨r.1.documentKey, r.1.batchId⟩ from rfl, no] at h
      cases h

/-- The overlay of a document is the one in its row. -/
lemma getOverlay_eq_some (cc : c.Consistent) {key : DocumentKey} {o : Overlay} :
    c.getOverlay key = some o ↔ c.overlays.get ⟨key, o.largestBatchId⟩ = some o.mutation := by
  rw [getOverlay, Option.map_eq_some_iff]
  constructor
  · rintro ⟨r, e, rfl⟩
    obtain ⟨rfl, h⟩ := (rowOf_eq_some cc).1 e
    exact h
  · intro e
    exact ⟨(⟨key, o.largestBatchId⟩, o.mutation), (rowOf_eq_some cc).2 ⟨rfl, e⟩, rfl⟩

/-- Caches with the same rows for a document have the same overlay for it. -/
lemma getOverlay_congr {c' : DocumentOverlayCache} (cc : c.Consistent) (cc' : c'.Consistent)
    {key : DocumentKey} (same : ∀ i, c.overlays.get ⟨key, i⟩ = c'.overlays.get ⟨key, i⟩) :
    c.getOverlay key = c'.getOverlay key := by
  apply Option.ext
  intro o
  rw [getOverlay_eq_some cc, getOverlay_eq_some cc', same]

/-! ## Writing -/

/-- Deleting one row keeps the table and the index together. -/
lemma Consistent.deleteRow (cc : c.Consistent) {k : DocumentOverlayKey} :
    (c.deleteRow k).Consistent where
  unique := by
    intro k' i j h1 h2
    rw [DocumentOverlayCache.deleteRow, SortedTable.get_delete] at h1 h2
    split at h1
    case isTrue => cases h1
    case isFalse =>
      split at h2
      case isTrue => cases h2
      case isFalse => exact cc.unique h1 h2
  named := by
    intro k' i m e
    rw [DocumentOverlayCache.deleteRow, SortedTable.get_delete] at e
    split at e
    case isTrue => cases e
    case isFalse => exact cc.named e
  byBatchId := by
    intro k' i
    rw [DocumentOverlayCache.deleteRow, SortedTable.get_delete, SortedTable.get_delete]
    by_cases h : (⟨k', i⟩ : DocumentOverlayKey) = k
    · subst h
      simp
    · rw [if_neg h, if_neg, cc.byBatchId]
      intro e
      cases e
      exact h rfl
  byCollection := by
    intro k' i
    rw [DocumentOverlayCache.deleteRow, SortedTable.get_delete, SortedTable.get_delete]
    by_cases h : (⟨k', i⟩ : DocumentOverlayKey) = k
    · subst h
      simp
    · rw [if_neg h, if_neg, cc.byCollection]
      intro e
      apply h
      obtain ⟨⟨col, id⟩, i'⟩ := k
      obtain ⟨col', id'⟩ := k'
      cases e
      rfl

/-- A row is put where the document has no overlay. -/
lemma Consistent.putRow (cc : c.Consistent) {k : DocumentOverlayKey} {m : Mutation}
    (name : m.key = k.documentKey) (no : ∀ i, c.overlays.get ⟨k.documentKey, i⟩ = none) :
    (c.putRow k m).Consistent where
  unique := by
    intro k' i j h1 h2
    rw [DocumentOverlayCache.putRow, SortedTable.get_put] at h1 h2
    split at h1
    case isTrue e1 =>
      split at h2
      case isTrue e2 => exact congrArg DocumentMutationKey.batchId (e1.trans e2.symm)
      case isFalse =>
        subst e1
        rw [no] at h2
        cases h2
    case isFalse =>
      split at h2
      case isTrue e2 =>
        subst e2
        rw [no] at h1
        cases h1
      case isFalse => exact cc.unique h1 h2
  named := by
    intro k' i m' e
    rw [DocumentOverlayCache.putRow, SortedTable.get_put] at e
    split at e
    case isTrue e' =>
      cases e
      rw [name, ← e']
    case isFalse => exact cc.named e
  byBatchId := by
    intro k' i
    rw [DocumentOverlayCache.putRow, SortedTable.get_put, SortedTable.get_put]
    by_cases h : (⟨k', i⟩ : DocumentOverlayKey) = k
    · subst h
      simp
    · rw [if_neg h, if_neg, cc.byBatchId]
      intro e
      cases e
      exact h rfl
  byCollection := by
    intro k' i
    rw [DocumentOverlayCache.putRow, SortedTable.get_put, SortedTable.get_put]
    by_cases h : (⟨k', i⟩ : DocumentOverlayKey) = k
    · subst h
      simp
    · rw [if_neg h, if_neg, cc.byCollection]
      intro e
      apply h
      obtain ⟨⟨col, id⟩, i'⟩ := k
      obtain ⟨col', id'⟩ := k'
      cases e
      rfl

/-- Deleting an overlay keeps the cache consistent. -/
lemma Consistent.deleteOverlay (cc : c.Consistent) {key : DocumentKey} :
    (c.deleteOverlay key).Consistent := by
  rw [DocumentOverlayCache.deleteOverlay]
  split
  case h_1 => exact cc
  case h_2 => exact cc.deleteRow

/-- After `deleteOverlay` a document has no row and every other document the rows it had. -/
lemma get_deleteOverlay (cc : c.Consistent) {key k : DocumentKey} {i : BatchId} :
    (c.deleteOverlay key).overlays.get ⟨k, i⟩ =
      if k = key then none else c.overlays.get ⟨k, i⟩ := by
  rw [deleteOverlay]
  split
  case h_1 no =>
    split
    case isTrue h => rw [h, (rowOf_eq_none cc).1 no]
    case isFalse => rfl
  case h_2 r e =>
    obtain ⟨rfl, h⟩ := (rowOf_eq_some cc).1 e
    rw [deleteRow, SortedTable.get_delete]
    by_cases h1 : k = r.1.documentKey
    · rw [if_pos h1]
      split
      case isTrue => rfl
      case isFalse ne =>
        cases e' : c.overlays.get ⟨k, i⟩ with
        | none => rfl
        | some m =>
          exfalso
          apply ne
          subst h1
          have same := cc.unique (Option.isSome_iff_exists.2 ⟨m, e'⟩)
            (Option.isSome_iff_exists.2 ⟨r.2, h⟩)
          subst same
          rfl
    · rw [if_neg h1, if_neg]
      intro e'
      exact h1 (congrArg DocumentMutationKey.documentKey e')

/-- Saving an overlay keeps the cache consistent. -/
lemma Consistent.saveOverlay (cc : c.Consistent) {id : BatchId} {key : DocumentKey} {m : Mutation}
    (name : m.key = key) : (c.saveOverlay id key m).Consistent := by
  apply cc.deleteOverlay.putRow name
  intro i
  exact (get_deleteOverlay cc).trans (if_pos rfl)

/-- After `saveOverlay` the document has that overlay and every other document the one it had. -/
lemma getOverlay_saveOverlay (cc : c.Consistent) {id : BatchId} {key k : DocumentKey} {m : Mutation}
    (name : m.key = key) :
    (c.saveOverlay id key m).getOverlay k = if k = key then some ⟨id, m⟩ else c.getOverlay k := by
  have cc' : (c.saveOverlay id key m).Consistent := cc.saveOverlay name
  split
  case isTrue h =>
    subst h
    apply (getOverlay_eq_some cc').2
    rw [saveOverlay, putRow, SortedTable.get_put, if_pos rfl]
  case isFalse h =>
    apply getOverlay_congr cc' cc
    intro i
    rw [saveOverlay, putRow, SortedTable.get_put, if_neg, get_deleteOverlay cc, if_neg h]
    intro e
    exact h (congrArg DocumentMutationKey.documentKey e)

/-- Saving overlays, each under the key of its mutation. -/
lemma Consistent.saveOverlays {id : BatchId} {os : List (DocumentKey × Mutation)}
    {c : DocumentOverlayCache} (cc : c.Consistent) (names : ∀ o ∈ os, o.2.key = o.1) :
    (c.saveOverlays id os).Consistent := by
  induction os generalizing c with
  | nil => exact cc
  | cons o os ih =>
    apply ih (cc.saveOverlay (names o List.mem_cons_self))
    intro o' mem
    exact names o' (List.mem_cons_of_mem _ mem)

/-- Documents no overlay is saved for keep the one they had. -/
lemma getOverlay_saveOverlays_ne {id : BatchId} {os : List (DocumentKey × Mutation)}
    {c : DocumentOverlayCache} (cc : c.Consistent) (names : ∀ o ∈ os, o.2.key = o.1)
    {k : DocumentKey} (ne : ∀ o ∈ os, o.1 ≠ k) :
    (c.saveOverlays id os).getOverlay k = c.getOverlay k := by
  induction os generalizing c with
  | nil => rfl
  | cons o os ih =>
    have name := names o List.mem_cons_self
    rw [saveOverlays, List.foldl_cons, ← saveOverlays,
      ih (cc.saveOverlay name) (fun o' mem => names o' (List.mem_cons_of_mem _ mem))
        fun o' mem => ne o' (List.mem_cons_of_mem _ mem),
      getOverlay_saveOverlay cc name, if_neg]
    exact (ne o List.mem_cons_self).symm

/-- When every overlay saved for a document is the same, the document has it. -/
lemma getOverlay_saveOverlays {id : BatchId} {os : List (DocumentKey × Mutation)}
    {c : DocumentOverlayCache} (cc : c.Consistent) (names : ∀ o ∈ os, o.2.key = o.1)
    {k : DocumentKey} {m : Mutation} (there : (k, m) ∈ os) (same : ∀ o ∈ os, o.1 = k → o.2 = m) :
    (c.saveOverlays id os).getOverlay k = some ⟨id, m⟩ := by
  induction os generalizing c with
  | nil => cases there
  | cons o os ih =>
    have name := names o List.mem_cons_self
    have cc' : (c.saveOverlay id o.1 o.2).Consistent := cc.saveOverlay name
    have names' : ∀ o' ∈ os, o'.2.key = o'.1 := fun o' mem => names o' (List.mem_cons_of_mem _ mem)
    rw [saveOverlays, List.foldl_cons, ← saveOverlays]
    by_cases later : (k, m) ∈ os
    · exact ih cc' names' later fun o' mem => same o' (List.mem_cons_of_mem _ mem)
    · -- the last overlay saved for the document is the first of the list
      have e : o = (k, m) := by
        rcases List.mem_cons.1 there with e | mem
        · exact e.symm
        · exact absurd mem later
      rw [getOverlay_saveOverlays_ne cc' names', getOverlay_saveOverlay cc name, e, if_pos rfl]
      rintro ⟨k', m'⟩ mem rfl
      have e' : m' = m := same (k', m') (List.mem_cons_of_mem _ mem) rfl
      subst e'
      exact later mem

/-- Deleting rows keeps the cache consistent and deletes those rows. -/
lemma foldl_deleteRow {rows : List DocumentOverlayKey} {c : DocumentOverlayCache}
    (cc : c.Consistent) :
    (rows.foldl deleteRow c).Consistent ∧
      ∀ k, (rows.foldl deleteRow c).overlays.get k = if k ∈ rows then none else c.overlays.get k := by
  induction rows generalizing c with
  | nil => exact ⟨cc, fun k => by simp⟩
  | cons r rows ih =>
    obtain ⟨cc', get⟩ := ih (cc.deleteRow (k := r))
    refine ⟨cc', ?_⟩
    intro k
    rw [List.foldl_cons, get, deleteRow, SortedTable.get_delete]
    by_cases h : k = r
    · simp [h]
    · simp [h]

/-- The rows of a batch are found in the index and deleted one by one. -/
lemma removeOverlaysForBatchId_eq {batchId : BatchId} :
    c.removeOverlaysForBatchId batchId =
      ((c.largestBatchIdIndex.scanOn LargestBatchIdIndexKey.largestBatchId batchId).map fun r =>
        (⟨r.1.documentKey, r.1.largestBatchId⟩ : DocumentOverlayKey)).foldl deleteRow c :=
  List.foldl_map.symm

/-- Deleting the overlays of a batch keeps the cache consistent. -/
lemma Consistent.removeOverlaysForBatchId (cc : c.Consistent) {batchId : BatchId} :
    (c.removeOverlaysForBatchId batchId).Consistent := by
  rw [removeOverlaysForBatchId_eq]
  exact (foldl_deleteRow cc).1

/-- After the removal of a batch's overlays the others stand and none of that batch. -/
lemma getOverlay_removeOverlaysForBatchId (cc : c.Consistent) {batchId : BatchId}
    {k : DocumentKey} :
    (c.removeOverlaysForBatchId batchId).getOverlay k =
      (c.getOverlay k).filter fun o => o.largestBatchId ≠ batchId := by
  have row {dk : DocumentOverlayKey} :
      dk ∈ (c.largestBatchIdIndex.scanOn LargestBatchIdIndexKey.largestBatchId batchId).map (fun r =>
        (⟨r.1.documentKey, r.1.largestBatchId⟩ : DocumentOverlayKey)) ↔
        dk.batchId = batchId ∧ (c.overlays.get dk).isSome := by
    rw [List.mem_map]
    constructor
    · rintro ⟨⟨⟨i, k'⟩, u⟩, mem, rfl⟩
      rw [SortedTable.mem_scanOn LargestBatchIdIndexKey.largestBatchId_mono] at mem
      exact ⟨mem.2, cc.byBatchId.1 (Option.isSome_iff_exists.2 ⟨u, mem.1⟩)⟩
    · rintro ⟨rfl, h⟩
      obtain ⟨u, e⟩ := Option.isSome_iff_exists.1 (cc.byBatchId.2 h)
      refine ⟨(⟨dk.batchId, dk.documentKey⟩, u), ?_, rfl⟩
      rw [SortedTable.mem_scanOn LargestBatchIdIndexKey.largestBatchId_mono]
      exact ⟨e, rfl⟩
  have cc' : (c.removeOverlaysForBatchId batchId).Consistent := cc.removeOverlaysForBatchId
  apply Option.ext
  intro o
  rw [getOverlay_eq_some cc', removeOverlaysForBatchId_eq, (foldl_deleteRow cc).2,
    Option.filter_eq_some_iff, getOverlay_eq_some cc]
  split
  case isTrue h =>
    constructor
    · intro e; cases e
    · intro h'
      exact absurd (row.1 h).1 (of_decide_eq_true h'.2)
  case isFalse h =>
    constructor
    · intro e
      refine ⟨e, decide_eq_true ?_⟩
      intro same
      exact h (row.2 ⟨same, Option.isSome_iff_exists.2 ⟨_, e⟩⟩)
    · exact And.left

/-- The overlays of a collection are those of its documents. -/
lemma getOverlays_eq (cc : c.Consistent) (collection : List String) (since : Int) :
    ∃ os, c.getOverlays collection since = some os ∧ ∀ k o, (k, o) ∈ os ↔
      c.getOverlay k = some o ∧ k.collection = collection ∧ since < (o.largestBatchId : Int) := by
  have row {k : CollectionIndexKey} {u : Unit} :
      (k, u) ∈ c.collectionRows collection since ↔
        c.collectionIndex.get k = some u ∧ k.collection = collection ∧ since < (k.number : Int) := by
    rw [collectionRows, CollectionRowKey.mem_scan]
    have h : (since + 1).toNat ≤ k.number ↔ since < (k.number : Int) := by omega
    rw [h]
  have all : ∀ r ∈ c.collectionRows collection since, ∃ m,
      c.overlays.get ⟨⟨r.1.collection, r.1.documentId⟩, r.1.number⟩ = some m := by
    rintro ⟨⟨col, i, d⟩, u⟩ mem
    apply Option.isSome_iff_exists.1
    apply cc.byCollection.1
    exact Option.isSome_iff_exists.2 ⟨u, (row.1 mem).1⟩
  have there : ∀ k o, c.getOverlay k = some o ∧ k.collection = collection ∧
      since < (o.largestBatchId : Int) ↔
      ∃ r ∈ c.collectionRows collection since, r.1 = ⟨k.collection, o.largestBatchId, k.id⟩ ∧
        c.overlays.get ⟨k, o.largestBatchId⟩ = some o.mutation := by
    intro k o
    rw [getOverlay_eq_some cc]
    constructor
    · rintro ⟨e, col, lt⟩
      obtain ⟨u, eu⟩ := Option.isSome_iff_exists.1
        (cc.byCollection.2 (Option.isSome_iff_exists.2 ⟨_, e⟩))
      exact ⟨(_, u), row.2 ⟨eu, col, lt⟩, rfl, e⟩
    · rintro ⟨⟨r, u⟩, mem, rfl, e⟩
      exact ⟨e, (row.1 mem).2⟩
  rw [getOverlays]
  simp only [there]
  clear there
  generalize c.collectionRows collection since = rows at all
  induction rows with
  | nil => exact ⟨[], rfl, by simp⟩
  | cons r rows ih =>
    obtain ⟨os, eos, mem⟩ := ih fun r' mem => all r' (List.mem_cons_of_mem _ mem)
    obtain ⟨m, em⟩ := all r List.mem_cons_self
    refine ⟨(⟨r.1.collection, r.1.documentId⟩, ⟨r.1.number, m⟩) :: os, ?_, ?_⟩
    · rw [List.mapM_cons, em, eos]
      rfl
    · intro k o
      rw [List.mem_cons, mem]
      constructor
      · rintro (e | ⟨r', mem', h⟩)
        · cases e
          exact ⟨r, List.mem_cons_self, rfl, em⟩
        · exact ⟨r', List.mem_cons_of_mem _ mem', h⟩
      · rintro ⟨r', mem', e, h⟩
        rcases List.mem_cons.1 mem' with rfl | mem'
        · left
          rw [e] at em ⊢
          obtain ⟨col, id⟩ := k
          obtain ⟨i, m'⟩ := o
          rw [h] at em
          cases em
          rfl
        · exact .inr ⟨r', mem', e, h⟩

end DocumentOverlayCache

end Lumiere.Firestore.Client

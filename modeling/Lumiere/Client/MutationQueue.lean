import Lumiere.Client.Document

/-!
# The mutation queue

The batches of one user that the server has not answered, as the client keeps them in its database:
a table of batches under their numbers, and a table that says which batches write a document. In a
`Consistent` queue the second table says what the first does. Then the batches that write some
documents, found through the index, are those of the queue that do (`affectingKeys_eq`), a new batch
goes behind all others and a batch that is removed is missing from the queue and from the index.
-/

namespace Lumiere.Firestore.Client

/-- The key of a row that says that a batch writes a document. -/
structure DocumentMutationKey where
  documentKey : DocumentKey
  batchId : BatchId
  deriving DecidableEq

namespace DocumentMutationKey

instance : Ord DocumentMutationKey where
  compare := compareLex (compareOn documentKey) (compareOn batchId)

instance : Std.TransOrd DocumentMutationKey :=
  inferInstanceAs (Std.TransCmp (compareLex (compareOn documentKey) (compareOn batchId)))

instance : Std.LawfulEqOrd DocumentMutationKey where
  compare_self := Std.ReflOrd.compare_self
  eq_of_compare := by
    intro a b e
    obtain ⟨e1, e2⟩ := Ordering.then_eq_eq.1 e
    cases a
    cases b
    cases Std.LawfulEqOrd.eq_of_compare e1
    cases Std.LawfulEqOrd.eq_of_compare e2
    rfl

/-- The rows of a document stand together. -/
lemma documentKey_mono {a b : DocumentMutationKey} (lt : compare a b = .lt) :
    (compare a.documentKey b.documentKey).isLE := by
  rcases Ordering.then_eq_lt.1 lt with h | h
  · exact Ordering.isLE_of_eq_lt h
  · exact Ordering.isLE_of_eq_eq h.1

end DocumentMutationKey

/-- The tables of the mutation queue of one user. -/
structure MutationQueue where
  nextBatchId : BatchId
  mutations : SortedTable BatchId MutationBatch
  documentMutations : SortedTable DocumentMutationKey Unit

namespace MutationQueue

/-- The queue of a user who has not written. -/
def empty : MutationQueue :=
  ⟨1, SortedTable.empty, SortedTable.empty⟩

/-- The queue after a start; `others` is the highest batch number of other users. -/
def start (q : MutationQueue) (others : BatchId) : MutationQueue :=
  { q with nextBatchId := max ((q.mutations.rows.getLast?.map Prod.fst).getD 0) others + 1 }

/-- No batch waits. -/
def isEmpty (q : MutationQueue) : Bool :=
  q.mutations.rows.isEmpty

/-- The next batch takes its place in the queue and in the index of its documents. -/
def addMutationBatch (q : MutationQueue) (mutations : List Mutation) :
    Option (MutationBatch × MutationQueue) :=
  if mutations.isEmpty then none
  else
    let batch : MutationBatch := ⟨q.nextBatchId, mutations⟩
    some (batch,
      { nextBatchId := q.nextBatchId + 1
        mutations := q.mutations.put batch.batchId batch
        documentMutations := mutations.foldl
          (fun t m => t.put ⟨m.key, batch.batchId⟩ ()) q.documentMutations })

/-- A batch leaves the queue and the index; it must be there. -/
def removeMutationBatch (q : MutationQueue) (batch : MutationBatch) : Option MutationQueue :=
  if q.mutations.contains batch.batchId then
    some
      { q with
        mutations := q.mutations.delete batch.batchId
        documentMutations := batch.mutations.foldl
          (fun t m => t.delete ⟨m.key, batch.batchId⟩) q.documentMutations }
  else none

/-- The batches in the order of their numbers. -/
def allMutationBatches (q : MutationQueue) : List MutationBatch :=
  q.mutations.rows.map Prod.snd

/-- The batch with a number, if it waits. -/
def lookupMutationBatch (q : MutationQueue) (batchId : BatchId) : Option MutationBatch :=
  q.mutations.get batchId

/-- The batches with these numbers; each of them must be in the queue. -/
def allMutationBatchesWithIds (q : MutationQueue) (batchIds : List BatchId) :
    Option (List MutationBatch) :=
  batchIds.mapM q.mutations.get

/-- The numbers of the batches that write one of the documents, each once and in order. -/
def batchIdsAffecting (q : MutationQueue) (documentKeys : List DocumentKey) : List BatchId :=
  documentKeys.foldl
    (fun ids k => (q.documentMutations.scanOn DocumentMutationKey.documentKey k).foldl
      (fun ids r => insertBy compare r.1.batchId ids) ids) []

/-- The batches that write some of these documents, in the order of their numbers. -/
def allMutationBatchesAffectingDocumentKeys (q : MutationQueue) (documentKeys : List DocumentKey) :
    Option (List MutationBatch) :=
  q.allMutationBatchesWithIds (q.batchIdsAffecting documentKeys)

/-- The first batch after a number. -/
def nextMutationBatchAfterBatchId (q : MutationQueue) (batchId : BatchId) : Option MutationBatch :=
  ((q.mutations.rows.dropWhile fun r => r.1 < batchId + 1).head?).map Prod.snd

/-- An empty queue has no dangling rows in its index. -/
def performConsistencyCheck (q : MutationQueue) : Bool :=
  !q.isEmpty || q.documentMutations.rows.isEmpty

/-- Every row stands under its batch's number, and the index says which documents a batch writes. -/
structure Consistent (q : MutationQueue) : Prop where
  named : ∀ {id b}, q.mutations.get id = some b → b.batchId = id ∧ id < q.nextBatchId
  indexed : ∀ {k id}, (q.documentMutations.get ⟨k, id⟩).isSome ↔
    ∃ b, q.mutations.get id = some b ∧ k ∈ b.keys

/-- The empty queue is consistent. -/
lemma empty_consistent : empty.Consistent where
  named := by
    intro id b e
    cases e
  indexed := by
    intro k id
    constructor
    · intro h; cases h
    · rintro ⟨b, e, _⟩; cases e

/-! ## Batches in order -/

variable {q : MutationQueue}

/-- The batches of the queue are those found under their numbers. -/
lemma mem_allMutationBatches (cq : q.Consistent) {b : MutationBatch} :
    b ∈ q.allMutationBatches ↔ q.mutations.get b.batchId = some b := by
  rw [allMutationBatches, List.mem_map]
  constructor
  · rintro ⟨⟨id, b'⟩, mem, rfl⟩
    have e := SortedTable.get_eq_some.2 mem
    rw [(cq.named e).1]
    exact e
  · intro e
    exact ⟨_, SortedTable.get_eq_some.1 e, rfl⟩

/-- The batches are in the order of their numbers. -/
lemma allMutationBatches_ascending (cq : q.Consistent) :
    q.allMutationBatches.Pairwise fun a b => a.batchId < b.batchId := by
  have as := q.mutations.ascending
  apply List.pairwise_map.2
  apply as.imp_of_mem
  intro r r' mem mem' lt
  rw [(cq.named (SortedTable.get_eq_some.2 mem)).1, (cq.named (SortedTable.get_eq_some.2 mem')).1]
  exact Nat.compare_eq_lt.1 lt

/-- A batch is determined by its number. -/
lemma eq_of_batchId (cq : q.Consistent) {a b : MutationBatch} (mem1 : a ∈ q.allMutationBatches)
    (mem2 : b ∈ q.allMutationBatches) (e : a.batchId = b.batchId) : a = b := by
  rw [mem_allMutationBatches cq] at mem1 mem2
  rw [e] at mem1
  exact Option.some.inj (mem1.symm.trans mem2)

/-! ## The index -/

/-- Two lists of batches in the order of their numbers with the same members are the same. -/
lemma batches_eq {l m : List MutationBatch}
    (as1 : l.Pairwise fun a b => a.batchId < b.batchId)
    (as2 : m.Pairwise fun a b => a.batchId < b.batchId) (same : ∀ b, b ∈ l ↔ b ∈ m) : l = m := by
  apply List.Perm.eq_of_pairwise _ as1 as2
  · apply (List.perm_ext_iff_of_nodup _ _).2 same
    · exact as1.imp fun lt e => by rw [e] at lt; exact lt.false
    · exact as2.imp fun lt e => by rw [e] at lt; exact lt.false
  · intro a b _ _ lt1 lt2
    exact absurd lt2 (Nat.lt_asymm lt1)

/-- Numbers put into an ascending list one by one leave it ascending. -/
lemma ascending_foldl_insertBy {α : Type*} {f : α → BatchId} {l : List α} {ids : List BatchId}
    (as : Ascending compare ids) :
    Ascending compare (l.foldl (fun ids a => insertBy compare (f a) ids) ids) := by
  induction l generalizing ids with
  | nil => exact as
  | cons a l ih => exact ih (ascending_insertBy as)

/-- The numbers put into a list are in it. -/
lemma mem_foldl_insertBy {α : Type*} {f : α → BatchId} {l : List α} {ids : List BatchId}
    {id : BatchId} (as : Ascending compare ids) :
    id ∈ l.foldl (fun ids a => insertBy compare (f a) ids) ids ↔ id ∈ ids ∨ ∃ a ∈ l, f a = id := by
  induction l generalizing ids with
  | nil => simp
  | cons a l ih =>
    rw [List.foldl_cons, ih (ascending_insertBy as), mem_insertBy as]
    constructor
    · rintro ((rfl | ⟨mem, _⟩) | ⟨a', mem, e⟩)
      · exact .inr ⟨a, List.mem_cons_self, rfl⟩
      · exact .inl mem
      · exact .inr ⟨a', List.mem_cons_of_mem _ mem, e⟩
    · rintro (mem | ⟨a', mem, rfl⟩)
      · by_cases e : id = f a
        · exact .inl (.inl e)
        · refine .inl (.inr ⟨mem, ?_⟩)
          intro h
          exact e (Std.LawfulEqOrd.eq_of_compare h).symm
      · rcases List.mem_cons.1 mem with rfl | mem
        · exact .inl (.inl rfl)
        · exact .inr ⟨a', mem, rfl⟩

/-- The rows of the index for some documents. -/
def indexRows (q : MutationQueue) (documentKeys : List DocumentKey) :
    List (DocumentMutationKey × Unit) :=
  documentKeys.flatMap fun k => q.documentMutations.scanOn DocumentMutationKey.documentKey k

/-- The numbers of the batches that the index knows for these documents. -/
lemma batchIdsAffecting_eq {documentKeys : List DocumentKey} :
    q.batchIdsAffecting documentKeys =
      (q.indexRows documentKeys).foldl (fun ids r => insertBy compare r.1.batchId ids) [] :=
  List.foldl_flatMap.symm

/-- The numbers found through the index, each once and in order. -/
lemma ascending_batchIdsAffecting {documentKeys : List DocumentKey} :
    Ascending compare (q.batchIdsAffecting documentKeys) := by
  rw [batchIdsAffecting_eq]
  exact ascending_foldl_insertBy .nil

/-- The index tells exactly the batches that write the documents. -/
lemma mem_batchIdsAffecting (cq : q.Consistent) {documentKeys : List DocumentKey} {id : BatchId} :
    id ∈ q.batchIdsAffecting documentKeys ↔
      ∃ b, q.mutations.get id = some b ∧ ∃ k ∈ documentKeys, k ∈ b.keys := by
  rw [batchIdsAffecting_eq, mem_foldl_insertBy .nil]
  constructor
  · rintro (mem | ⟨⟨⟨k, id'⟩, u⟩, mem, rfl⟩)
    · cases mem
    · obtain ⟨k', memk, mem⟩ := List.mem_flatMap.1 mem
      rw [SortedTable.mem_scanOn DocumentMutationKey.documentKey_mono] at mem
      obtain ⟨e, rfl⟩ := mem
      obtain ⟨b, eb, h⟩ := cq.indexed.1 (Option.isSome_iff_exists.2 ⟨u, e⟩)
      exact ⟨b, eb, k, memk, h⟩
  · rintro ⟨b, eb, k, memk, h⟩
    obtain ⟨u, e⟩ := Option.isSome_iff_exists.1 (cq.indexed.2 ⟨b, eb, h⟩)
    refine .inr ⟨(⟨k, id⟩, u), List.mem_flatMap.2 ⟨k, memk, ?_⟩, rfl⟩
    rw [SortedTable.mem_scanOn DocumentMutationKey.documentKey_mono]
    exact ⟨e, rfl⟩

/-- Looking up numbers that are in the queue gives a batch for each of them. -/
lemma exists_mutationBatchesWithIds (cq : q.Consistent) {ids : List BatchId}
    (found : ∀ id ∈ ids, ∃ b, q.mutations.get id = some b) :
    ∃ bs, q.allMutationBatchesWithIds ids = some bs ∧ bs.map MutationBatch.batchId = ids ∧
      ∀ b ∈ bs, q.mutations.get b.batchId = some b := by
  induction ids with
  | nil => exact ⟨[], rfl, rfl, fun b mem => by cases mem⟩
  | cons id ids ih =>
    obtain ⟨b, e⟩ := found id List.mem_cons_self
    obtain ⟨bs, ebs, map, all⟩ := ih fun id' mem => found id' (List.mem_cons_of_mem _ mem)
    have name := (cq.named e).1
    refine ⟨b :: bs, ?_, ?_, ?_⟩
    · rw [allMutationBatchesWithIds] at ebs ⊢
      rw [List.mapM_cons, e, ebs]
      rfl
    · rw [List.map_cons, name, map]
    · intro b' mem
      rcases List.mem_cons.1 mem with rfl | mem
      · rw [name]
        exact e
      · exact all b' mem

/-- The batches that write one of the documents are found through the index. -/
lemma affectingKeys_eq (cq : q.Consistent) {documentKeys : List DocumentKey} :
    q.allMutationBatchesAffectingDocumentKeys documentKeys =
      some (q.allMutationBatches.filter fun b => documentKeys.any fun k => k ∈ b.keys) := by
  obtain ⟨bs, ebs, map, all⟩ := exists_mutationBatchesWithIds cq fun id mem =>
    ((mem_batchIdsAffecting cq).1 mem).imp fun b h => h.1
  rw [allMutationBatchesAffectingDocumentKeys, ebs]
  congr 1
  apply batches_eq
  · have as : Ascending compare (q.batchIdsAffecting documentKeys) := ascending_batchIdsAffecting
    rw [← map] at as
    exact (List.pairwise_map.1 as).imp Nat.compare_eq_lt.1
  · exact (allMutationBatches_ascending cq).filter _
  · intro b
    rw [List.mem_filter, mem_allMutationBatches cq, List.any_eq_true]
    have mem : b.batchId ∈ q.batchIdsAffecting documentKeys ↔ _ := mem_batchIdsAffecting cq
    constructor
    · intro h
      have eb := all b h
      obtain ⟨b', eb', k, memk, hk⟩ := mem.1 (map ▸ List.mem_map_of_mem h)
      rw [eb] at eb'
      cases eb'
      exact ⟨eb, k, memk, decide_eq_true hk⟩
    · rintro ⟨eb, k, memk, hk⟩
      have h := mem.2 ⟨b, eb, k, memk, of_decide_eq_true hk⟩
      rw [← map] at h
      obtain ⟨b', mem', e'⟩ := List.mem_map.1 h
      have eb' := all b' mem'
      rw [e', eb] at eb'
      cases eb'
      exact mem'

/-! ## The operations -/

/-- What `addMutationBatch` does. -/
lemma addMutationBatch_inv {mutations : List Mutation} {batch : MutationBatch} {q' : MutationQueue}
    (e : q.addMutationBatch mutations = some (batch, q')) :
    mutations ≠ [] ∧ batch = ⟨q.nextBatchId, mutations⟩ ∧
      q' = { nextBatchId := q.nextBatchId + 1
             mutations := q.mutations.put q.nextBatchId batch
             documentMutations := mutations.foldl
               (fun t m => t.put ⟨m.key, q.nextBatchId⟩ ()) q.documentMutations } := by
  rw [addMutationBatch] at e
  split at e
  case isTrue => cases e
  case isFalse h =>
    cases e
    exact ⟨fun h' => h (by rw [h']; rfl), rfl, rfl⟩

/-- The index after the rows of a batch have been added. -/
lemma get_foldl_put {t : SortedTable DocumentMutationKey Unit} {ms : List Mutation} {id : BatchId}
    {dk : DocumentMutationKey} :
    ((ms.foldl (fun t m => t.put ⟨m.key, id⟩ ()) t).get dk).isSome ↔
      (t.get dk).isSome ∨ dk.batchId = id ∧ ∃ m ∈ ms, m.key = dk.documentKey := by
  induction ms generalizing t with
  | nil => simp
  | cons m ms ih =>
    rw [List.foldl_cons, ih, SortedTable.get_put]
    split
    case isTrue h =>
      subst h
      simp
    case isFalse h =>
      constructor
      · rintro (h' | ⟨e, m', mem, e'⟩)
        · exact .inl h'
        · exact .inr ⟨e, m', List.mem_cons_of_mem _ mem, e'⟩
      · rintro (h' | ⟨e, m', mem, e'⟩)
        · exact .inl h'
        · rcases List.mem_cons.1 mem with rfl | mem
          · exfalso
            apply h
            cases dk
            cases e
            cases e'
            rfl
          · exact .inr ⟨e, m', mem, e'⟩

/-- The index after the rows of a batch have been deleted. -/
lemma get_foldl_delete {t : SortedTable DocumentMutationKey Unit} {ms : List Mutation}
    {id : BatchId} {dk : DocumentMutationKey} :
    ((ms.foldl (fun t m => t.delete ⟨m.key, id⟩) t).get dk).isSome ↔
      (t.get dk).isSome ∧ ¬(dk.batchId = id ∧ ∃ m ∈ ms, m.key = dk.documentKey) := by
  induction ms generalizing t with
  | nil => simp
  | cons m ms ih =>
    rw [List.foldl_cons, ih, SortedTable.get_delete]
    split
    case isTrue h =>
      subst h
      simp
    case isFalse h =>
      constructor
      · rintro ⟨h', no⟩
        refine ⟨h', ?_⟩
        rintro ⟨e, m', mem, e'⟩
        rcases List.mem_cons.1 mem with rfl | mem
        · apply h
          cases dk
          cases e
          cases e'
          rfl
        · exact no ⟨e, m', mem, e'⟩
      · rintro ⟨h', no⟩
        refine ⟨h', ?_⟩
        rintro ⟨e, m', mem, e'⟩
        exact no ⟨e, m', List.mem_cons_of_mem _ mem, e'⟩

/-- Adding a batch keeps the queue and the index together. -/
lemma Consistent.add (cq : q.Consistent) {mutations : List Mutation} {batch : MutationBatch}
    {q' : MutationQueue} (e : q.addMutationBatch mutations = some (batch, q')) : q'.Consistent := by
  obtain ⟨_, rfl, rfl⟩ := addMutationBatch_inv e
  -- the new number is above all numbers of the queue
  have fresh {id b} (eb : q.mutations.get id = some b) : id ≠ q.nextBatchId :=
    (cq.named eb).2.ne
  constructor
  case named =>
    intro id b eb
    rw [SortedTable.get_put] at eb
    split at eb
    case isTrue h =>
      cases eb
      exact ⟨h.symm, h ▸ Nat.lt_succ_self _⟩
    case isFalse => exact ⟨(cq.named eb).1, Nat.lt_succ_of_lt (cq.named eb).2⟩
  case indexed =>
    intro k id
    rw [get_foldl_put, cq.indexed]
    constructor
    · rintro (⟨b, eb, h⟩ | ⟨e', m, mem, ek⟩)
      · exact ⟨b, by rw [SortedTable.get_put, if_neg (fresh eb)]; exact eb, h⟩
      · refine ⟨_, by rw [SortedTable.get_put, if_pos e'], ?_⟩
        exact MutationBatch.mem_keys.2 ⟨m, mem, ek⟩
    · rintro ⟨b, eb, h⟩
      rw [SortedTable.get_put] at eb
      split at eb
      case isTrue e' =>
        cases eb
        exact .inr ⟨e', MutationBatch.mem_keys.1 h⟩
      case isFalse => exact .inl ⟨b, eb, h⟩

/-- A new batch goes behind all others. -/
lemma allMutationBatches_add (cq : q.Consistent) {mutations : List Mutation} {batch : MutationBatch}
    {q' : MutationQueue} (e : q.addMutationBatch mutations = some (batch, q')) :
    q'.allMutationBatches = q.allMutationBatches ++ [batch] := by
  obtain ⟨_, rfl, rfl⟩ := addMutationBatch_inv e
  change (insertBy (compareOn Prod.fst) _ q.mutations.rows).map Prod.snd = _
  rw [SortedTable.insertBy_above, List.map_append]
  · rfl
  · intro r mem
    exact Nat.compare_eq_lt.2 (cq.named (SortedTable.get_eq_some.2 mem)).2

/-- What `removeMutationBatch` does. -/
lemma removeMutationBatch_inv {batch : MutationBatch} {q' : MutationQueue}
    (e : q.removeMutationBatch batch = some q') :
    q.mutations.contains batch.batchId = true ∧
      q' = { q with
             mutations := q.mutations.delete batch.batchId
             documentMutations := batch.mutations.foldl
               (fun t m => t.delete ⟨m.key, batch.batchId⟩) q.documentMutations } := by
  rw [removeMutationBatch] at e
  split at e
  case isTrue h => cases e; exact ⟨h, rfl⟩
  case isFalse => cases e

/-- A batch of the queue can be removed. -/
lemma exists_removeMutationBatch (cq : q.Consistent) {batch : MutationBatch}
    (mem : batch ∈ q.allMutationBatches) : ∃ q', q.removeMutationBatch batch = some q' := by
  have e := (mem_allMutationBatches cq).1 mem
  refine ⟨_, if_pos ?_⟩
  rw [SortedTable.contains, e]
  rfl

/-- Removing a batch keeps the queue and the index together. -/
lemma Consistent.remove (cq : q.Consistent) {batch : MutationBatch} {q' : MutationQueue}
    (mem : batch ∈ q.allMutationBatches) (e : q.removeMutationBatch batch = some q') :
    q'.Consistent := by
  obtain ⟨_, rfl⟩ := removeMutationBatch_inv e
  have eb := (mem_allMutationBatches cq).1 mem
  constructor
  case named =>
    intro id b e'
    rw [SortedTable.get_delete] at e'
    split at e'
    case isTrue => cases e'
    case isFalse => exact cq.named e'
  case indexed =>
    intro k id
    rw [get_foldl_delete, cq.indexed]
    constructor
    · rintro ⟨⟨b, e', h⟩, no⟩
      refine ⟨b, ?_, h⟩
      rw [SortedTable.get_delete, if_neg]
      · exact e'
      · intro same
        rw [same, eb] at e'
        cases e'
        exact no ⟨same, MutationBatch.mem_keys.1 h⟩
    · rintro ⟨b, e', h⟩
      rw [SortedTable.get_delete] at e'
      split at e'
      case isTrue => cases e'
      case isFalse ne => exact ⟨⟨b, e', h⟩, fun h' => ne h'.1⟩

/-- A batch that is removed is missing, and only it. -/
lemma allMutationBatches_remove (cq : q.Consistent) {batch : MutationBatch} {q' : MutationQueue}
    (mem : batch ∈ q.allMutationBatches) (e : q.removeMutationBatch batch = some q') :
    q'.allMutationBatches = q.allMutationBatches.filter fun b => b.batchId ≠ batch.batchId := by
  have cq' := cq.remove mem e
  apply batches_eq (allMutationBatches_ascending cq')
    ((allMutationBatches_ascending cq).filter _)
  intro b
  rw [List.mem_filter, mem_allMutationBatches cq', mem_allMutationBatches cq]
  obtain ⟨_, rfl⟩ := removeMutationBatch_inv e
  rw [SortedTable.get_delete]
  split
  case isTrue h => simp [h]
  case isFalse h => simp [h]

/-- A start keeps the queue and numbers new batches above all of it. -/
lemma Consistent.start (cq : q.Consistent) {others : BatchId} : (q.start others).Consistent where
  named := by
    intro id b e
    refine ⟨(cq.named e).1, ?_⟩
    have mem : (id, b) ∈ q.mutations.rows := SortedTable.get_eq_some.1 e
    have le : id ≤ (q.mutations.rows.getLast?.map Prod.fst).getD 0 := by
      obtain ⟨l, r, el⟩ : ∃ l r, q.mutations.rows = l ++ [r] := by
        rcases List.eq_nil_or_concat q.mutations.rows with h | ⟨l, r, h⟩
        · rw [h] at mem
          cases mem
        · exact ⟨l, r, by rw [h, List.concat_eq_append]⟩
      have as := q.mutations.ascending
      rw [el] at as mem
      rw [el, List.getLast?_concat]
      rcases List.mem_append.1 mem with mem | mem
      · have lt := (List.pairwise_append.1 as).2.2 _ mem r List.mem_cons_self
        exact (Nat.compare_eq_lt.1 lt).le
      · rw [← List.mem_singleton.1 mem]
        exact le_refl id
    exact Nat.lt_succ_of_le (le.trans (Nat.le_max_left _ _))
  indexed := cq.indexed

/-- Starting the queue leaves the batches. -/
@[simp] lemma allMutationBatches_start {others : BatchId} :
    (q.start others).allMutationBatches = q.allMutationBatches :=
  rfl

/-- The batch after a number is the first with a greater one. -/
lemma nextMutationBatchAfterBatchId_eq (cq : q.Consistent) {batchId : BatchId} :
    q.nextMutationBatchAfterBatchId batchId =
      q.allMutationBatches.find? fun b => batchId < b.batchId := by
  have names : ∀ r ∈ q.mutations.rows, r.2.batchId = r.1 := by
    intro r mem
    exact (cq.named (SortedTable.get_eq_some.2 mem)).1
  rw [nextMutationBatchAfterBatchId, allMutationBatches]
  generalize q.mutations.rows = rows at names
  induction rows with
  | nil => rfl
  | cons r rows ih =>
    have name := names r List.mem_cons_self
    rw [List.map_cons, List.find?_cons, List.dropWhile_cons]
    by_cases lt : batchId < r.1
    · rw [if_neg (by simpa using Nat.succ_le_of_lt lt), name, decide_eq_true lt]
      rfl
    · rw [if_pos (by simpa using Nat.lt_succ_of_le (Nat.le_of_not_lt lt)), name, decide_eq_false lt]
      exact ih fun r' mem => names r' (List.mem_cons_of_mem _ mem)

/-- The consistency check never fails. -/
lemma Consistent.check (cq : q.Consistent) : q.performConsistencyCheck = true := by
  rw [performConsistencyCheck, Bool.or_eq_true, Bool.not_eq_true', isEmpty, List.isEmpty_eq_false_iff,
    List.isEmpty_iff, or_iff_not_imp_left, not_not]
  intro e
  apply List.eq_nil_iff_forall_not_mem.2
  rintro ⟨⟨k, id⟩, u⟩ mem
  obtain ⟨b, eb, _⟩ := cq.indexed.1 (Option.isSome_iff_exists.2 ⟨u, SortedTable.get_eq_some.2 mem⟩)
  have mem' := SortedTable.get_eq_some.1 eb
  rw [e] at mem'
  cases mem'

end MutationQueue

end Lumiere.Firestore.Client

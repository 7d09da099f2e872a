import Lumiere.Client.LocalStoreInvariant
import Lumiere.Client.View

/-!
# What a view shows

A view `Mirrors` the local view of the documents when each document it shows matches there and is
shown in its current state, and each document that matches is shown or lies outside the limit. There
is one exception, by design: after a write has been acknowledged, a document may be shown as the
write left it until the server sends it again (`Shows`). Taking the changes of any operation of the
local store keeps this so (`computeDocumentChanges_spec`), if needed with a refill, which is never
asked for twice (`computeDocumentChanges_full`). The changes that a view hands on tell how the
documents before became those after.
-/

namespace Lumiere.Firestore.Client

variable {q : CoreQuery}

namespace CoreQuery.Matching

/-- The order of a document depends on its key and its fields. -/
lemma compareByAll_congr {os : List OrderBy} {a a' b : q.Matching} (key : a.key = a'.key)
    (value : a.1.value = a'.1.value) : compareByAll os a b = compareByAll os a' b := by
  have field (f : String) : a.fieldValue f = a'.fieldValue f := by
    rw [fieldValue, fieldValue, MutableDocument.field, MutableDocument.field, value]
  induction os with
  | nil => rfl
  | cons o os ih =>
    have first : compareBy o a b = compareBy o a' b := by
      rw [compareBy, compareBy, compareOn, compareOn, key, field]
    change (compareBy o a b).then (compareByAll os a b) = (compareBy o a' b).then _
    rw [first, ih]

/-- Where a document stands depends on its key and its fields. -/
lemma compare_congr {a a' b : q.Matching} (key : a.key = a'.key)
    (value : a.1.value = a'.1.value) : compare a b = compare a' b :=
  compareByAll_congr key value

/-- The order of the query, from the side that a limit keeps to the one where it cuts. -/
def edge (a b : q.Matching) : Ordering :=
  if q.limitType = .last then compare b a else compare a b

instance : Std.TransCmp (edge (q := q)) := by
  by_cases h : q.limitType = .last
  · have e : edge (q := q) = fun a b => compare b a := by
      funext a b
      exact if_pos h
    rw [e]
    infer_instance
  · have e : edge (q := q) = compare := by
      funext a b
      exact if_neg h
    rw [e]
    infer_instance

/-- So does its order from the side that a limit keeps. -/
lemma edge_congr {a a' b : q.Matching} (key : a.key = a'.key)
    (value : a.1.value = a'.1.value) : edge a b = edge a' b := by
  rw [edge, edge]
  split
  case isTrue =>
    have swap (a : q.Matching) : compare b a = (compare a b).swap := Std.OrientedCmp.eq_swap
    rw [swap, swap, compare_congr key value]
  case isFalse => exact compare_congr key value

end CoreQuery.Matching

open CoreQuery.Matching (edge)

/-! ## The edge of the limit -/

/-- The documents of a set, those first that a limit keeps. -/
def DocumentSet.inward (s : DocumentSet q) : List q.Matching :=
  if q.limitType = .last then s.sorted.reverse else s.sorted

namespace DocumentSet

/-- From that side the documents are in order. -/
lemma ascending_inward (s : DocumentSet q) : Ascending edge s.inward := by
  rw [inward]
  split
  case isTrue h =>
    apply List.Pairwise.imp _ s.ascending.reverse
    intro a b lt
    rw [edge, if_pos h]
    exact lt
  case isFalse h =>
    apply List.Pairwise.imp _ s.ascending
    intro a b lt
    rw [edge, if_neg h]
    exact lt

/-- They are the documents of the set. -/
lemma mem_inward {s : DocumentSet q} {d : q.Matching} : d ∈ s.inward ↔ s.get d.key = some d := by
  rw [← IndexedSet.mem_sorted_iff, inward]
  split
  case isTrue => rw [List.mem_reverse]
  case isFalse => rfl

/-- They are as many as the set has. -/
lemma length_inward (s : DocumentSet q) : s.inward.length = s.size := by
  rw [← s.length_sorted, inward]
  split
  case isTrue => rw [List.length_reverse]
  case isFalse => rfl

/-- No document is there twice. -/
lemma nodup_keys_inward (s : DocumentSet q) :
    (s.inward.map CoreQuery.Matching.key).Nodup := by
  have nd : (s.sorted.map CoreQuery.Matching.key).Nodup :=
    s.perm_keys.nodup_iff.2 s.index.nodupKeys
  rw [inward]
  split
  case isTrue =>
    rw [List.map_reverse]
    exact List.nodup_reverse.2 nd
  case isFalse => exact nd

/-- The document at the edge of a limit. -/
def last (s : DocumentSet q) : Option q.Matching :=
  if q.limitType = .first then s.sorted.getLast? else s.sorted.head?

/-- The last one is the one at the edge. -/
lemma last_eq (s : DocumentSet q) (limited : q.limitType ≠ .none) :
    s.last = s.inward.getLast? := by
  rw [last, inward]
  cases e : q.limitType with
  | none => exact absurd e limited
  | first => rfl
  | last =>
    rw [if_neg (by decide), if_pos rfl, List.getLast?_reverse]

/-- Without the document at the edge. -/
lemma inward_erase_last {s : DocumentSet q} (limited : q.limitType ≠ .none) {d : q.Matching}
    (e : s.last = some d) : inward (s.erase d.key) = s.inward.dropLast := by
  rw [last] at e
  rw [inward, inward]
  cases lt : q.limitType with
  | none => exact absurd lt limited
  | first =>
    rw [lt, if_pos rfl] at e
    exact IndexedSet.sorted_erase_last e
  | last =>
    rw [lt, if_neg (by decide)] at e
    obtain ⟨l, el⟩ : ∃ l, s.sorted = d :: l := ⟨_, List.eq_cons_of_mem_head? e⟩
    rw [if_pos rfl, if_pos rfl, IndexedSet.sorted_erase_head el, el, List.reverse_cons,
      List.dropLast_concat]

/-- The document at the edge of a limit that is full. -/
def limitDoc (s : DocumentSet q) : Option q.Matching :=
  if q.limitType ≠ .none ∧ s.size = q.limit then s.last else none

/-- The view knows a document at the edge exactly when the limit is full. -/
lemma isSome_limitDoc (s : DocumentSet q) :
    ((View.lastDocInLimit s).isSome || (View.firstDocInLimit s).isSome) = s.limitDoc.isSome := by
  rw [View.lastDocInLimit, View.firstDocInLimit, limitDoc, last]
  cases q.limitType with
  | none => rfl
  | first => by_cases h : s.size = q.limit <;> simp [h]
  | last => by_cases h : s.size = q.limit <;> simp [h]

/-- Whether a document would lie outside a limit that is full. -/
lemma any_limitDoc (s : DocumentSet q) (d : q.Matching) :
    ((View.lastDocInLimit s).any (fun e => d.compare e == .gt) ||
      (View.firstDocInLimit s).any fun e => d.compare e == .lt) =
      s.limitDoc.any fun e => edge d e == .gt := by
  have swap (e : q.Matching) : (d.compare e == .lt) = (e.compare d == .gt) := by
    have h : e.compare d = (d.compare e).swap := Std.OrientedCmp.eq_swap
    rw [h]
    cases d.compare e <;> rfl
  rw [View.lastDocInLimit, View.firstDocInLimit, limitDoc, last]
  unfold edge
  cases q.limitType with
  | none => rfl
  | first => by_cases h : s.size = q.limit <;> simp [h]
  | last => by_cases h : s.size = q.limit <;> simp [h, swap]

end DocumentSet

/-! ## One document -/

/-- A document is shown in its current state, or as an acknowledged write has left it. -/
def Shows (shown local_ : MutableDocument) : Prop :=
  shown.value = local_.value ∧ shown.hasLocalMutations = local_.hasLocalMutations ∨
    shown.hasLocalMutations = true ∧ local_.hasCommittedMutations = true

/-- A document shows itself. -/
lemma Shows.refl (d : MutableDocument) : Shows d d :=
  .inl ⟨rfl, rfl⟩

/-- A document does not have local and committed mutations at once. -/
lemma MutableDocument.hasLocalMutations_of_committed {d : MutableDocument}
    (c : d.hasCommittedMutations = true) : d.hasLocalMutations = false := by
  rw [hasCommittedMutations, beq_iff_eq] at c
  rw [hasLocalMutations, c]
  rfl

/-- The keys are those of the documents that are shown with local mutations. -/
def Mutated (set : DocumentSet q) (keys : DocumentKeySet) : Prop :=
  ∀ k, keys.contains k = true ↔ ∃ a, set.get k = some a ∧ a.1.hasLocalMutations = true

/-- A document that is gone has no local mutations. -/
lemma Mutated.erase {set : DocumentSet q} {keys : DocumentKeySet} (m : Mutated set keys)
    {k : DocumentKey} : Mutated (IndexedSet.erase set k) (keys.delete k) := by
  intro k'
  rw [SortedTable.contains, SortedTable.get_delete, IndexedSet.get_erase]
  split
  case isTrue => simp
  case isFalse => exact m k'

/-- A document that comes brings its local mutations. -/
lemma Mutated.insert {set : DocumentSet q} {keys : DocumentKeySet} (m : Mutated set keys)
    {d : q.Matching} : Mutated (IndexedSet.insert set d)
      (if d.1.hasLocalMutations then keys.put d.key () else keys.delete d.key) := by
  intro k
  have m' := m k
  rw [SortedTable.contains] at m' ⊢
  rw [IndexedSet.get_insert]
  by_cases h : k = d.key
  · rw [if_pos h]
    split
    case isTrue local_ =>
      rw [SortedTable.get_put, if_pos h]
      exact ⟨fun _ => ⟨d, rfl, local_⟩, fun _ => rfl⟩
    case isFalse no =>
      rw [SortedTable.get_delete, if_pos h]
      constructor
      · intro h'; cases h'
      · rintro ⟨a, ea, local_⟩
        cases ea
        exact absurd local_ no
  · rw [if_neg h, ← m']
    split
    case isTrue => rw [SortedTable.get_put, if_neg h]
    case isFalse => rw [SortedTable.get_delete, if_neg h]

/-- The changes so far tell how the first documents became those now. -/
structure ViewDocumentChanges.Sound (first : DocumentSet q) (r : ViewDocumentChanges q) : Prop where
  tells : r.changeSet.Tells first r.documentSet
  mutated : Mutated r.documentSet r.mutatedKeys

namespace View

variable {v : View q} {first old : DocumentSet q} {r : ViewDocumentChanges q}

/-- What the view shows of a document whose local view is `new` now. -/
def next (had : Bool) (old new : Option q.Matching) : Option q.Matching :=
  match old, new with
  | some o, some n =>
    if o.1.value ≠ n.1.value then if shouldWaitForSyncedDocument n.1 o.1 then some o else some n
    else if had ≠ (n.1.hasLocalMutations || had && n.1.hasCommittedMutations) then some n
    else some o
  | none, some n => some n
  | _, none => none

/-- Exactly the documents that belong to the query are shown. -/
lemma next_eq_none {had : Bool} {old new : Option q.Matching} :
    next had old new = none ↔ new = none := by
  cases old with
  | none => cases new <;> simp [next]
  | some o =>
    cases new with
    | none => simp [next]
    | some n =>
      simp only [next]
      split
      · split <;> simp
      · split <;> simp

/-- A document is shown as it is, if the view knew its local writes or has shown it so before. -/
lemma shows_next {had : Bool} {old : Option q.Matching} {n a : q.Matching}
    (known : ∀ o, old = some o → had = o.1.hasLocalMutations ∨ Shows o.1 n.1)
    (e : next had old (some n) = some a) : Shows a.1 n.1 := by
  cases old with
  | none =>
    cases e
    exact .refl _
  | some o =>
    rw [next] at e
    split at e
    case isTrue =>
      split at e
      case isTrue wait =>
        cases e
        rw [shouldWaitForSyncedDocument, Bool.and_eq_true, Bool.and_eq_true] at wait
        exact .inr wait.1
      case isFalse =>
        cases e
        exact .refl _
    case isFalse same =>
      have same' : o.1.value = n.1.value := not_not.1 same
      split at e
      case isTrue =>
        cases e
        exact .refl _
      case isFalse flags =>
        obtain rfl : a = o := (Option.some.inj e).symm
        rcases known a rfl with h | h
        · have flags' := not_not.1 flags
          rw [h] at flags'
          cases ol : a.1.hasLocalMutations with
          | false =>
            rw [ol, Bool.false_and, Bool.or_false] at flags'
            exact .inl ⟨same', ol.trans flags'⟩
          | true =>
            rw [ol, Bool.true_and] at flags'
            rcases Bool.or_eq_true _ _ |>.mp flags'.symm with nl | nc
            · exact .inl ⟨same', ol.trans nl.symm⟩
            · exact .inr ⟨ol, nc⟩
        · exact h

/-- Applying a change that says what becomes of its document. -/
lemma applyChange_spec (sound : r.Sound first) {k : DocumentKey} (change : DocumentViewChange q)
    (newDoc : Option q.Matching) (key : ∀ n, newDoc = some n → n.key = k)
    (net : DocumentViewChange.Net (r.documentSet.get k) newDoc (some change)) (asks : Bool) :
    ∃ r', r.applyChange k change newDoc asks = some r' ∧ r'.Sound first ∧
      (∀ k', r'.documentSet.get k' = if k' = k then newDoc else r.documentSet.get k') ∧
      r'.needsRefill = (r.needsRefill || asks) := by
  cases newDoc with
  | none =>
    have get (k' : DocumentKey) : IndexedSet.get (r.documentSet.erase k) k' =
        if k' = k then none else r.documentSet.get k' := IndexedSet.get_erase
    obtain ⟨changeSet, e, tells⟩ := DocumentViewChangeSet.addChange_tells
      sound.tells (r.documentSet.erase k) change (by rw [get, if_pos rfl]; exact net)
      fun k' ne => (get k').trans (if_neg ne)
    refine ⟨⟨r.documentSet.erase k, changeSet, r.mutatedKeys.delete k, r.needsRefill || asks⟩,
      by rw [ViewDocumentChanges.applyChange, e]; rfl, ⟨tells, ?_⟩, get, rfl⟩
    exact sound.mutated.erase
  | some n =>
    have kn := key n rfl
    have get (k' : DocumentKey) : IndexedSet.get (r.documentSet.insert n) k' =
        if k' = k then some n else r.documentSet.get k' := by
      rw [← kn]
      exact IndexedSet.get_insert
    obtain ⟨changeSet, e, tells⟩ := DocumentViewChangeSet.addChange_tells
      sound.tells (r.documentSet.insert n) change (by rw [get, if_pos rfl]; exact net)
      fun k' ne => (get k').trans (if_neg ne)
    refine ⟨⟨r.documentSet.insert n, changeSet,
      if n.1.hasLocalMutations then r.mutatedKeys.put k () else r.mutatedKeys.delete k,
      r.needsRefill || asks⟩, by rw [ViewDocumentChanges.applyChange, e]; rfl, ⟨tells, ?_⟩, get, rfl⟩
    rw [← kn]
    exact sound.mutated.insert

/-- A document of the set before has not moved past the edge of a limit that was full. -/
def Stays (old : DocumentSet q) (k : DocumentKey) (new : Option q.Matching) : Prop :=
  ∀ e, old.limitDoc = some e → ∀ o, old.get k = some o → edge o e ≠ .gt →
    ∃ a, new = some a ∧ edge a e ≠ .gt

/-- One document: what is shown of it next, and what it takes to ask for a refill. -/
lemma visitChange_spec (sound : r.Sound first) {k : DocumentKey} {d : MutableDocument}
    (key : d.key = k) (unseen : r.documentSet.get k = old.get k) :
    ∃ r', v.visitChange old r k d = some r' ∧ r'.Sound first ∧
      (∀ k', r'.documentSet.get k' = if k' = k then
        next (v.mutatedKeys.contains k) (old.get k) (q.matching d) else r.documentSet.get k') ∧
      (r'.needsRefill = false → r.needsRefill = false ∧
        Stays old k (next (v.mutatedKeys.contains k) (old.get k) (q.matching d))) ∧
      ((∀ o, old.get k = some o → ∃ n, q.matching d = some n ∧ Shows o.1 n.1) →
        r'.needsRefill = r.needsRefill) := by
  have keyn (n : q.Matching) (e : q.matching d = some n) : n.key = k := by
    rw [CoreQuery.matching] at e
    split at e
    case isTrue => cases e; exact key
    case isFalse => cases e
  have frame (k' : DocumentKey) (same : next (v.mutatedKeys.contains k) (old.get k)
      (q.matching d) = old.get k) : r.documentSet.get k' = if k' = k then
        next (v.mutatedKeys.contains k) (old.get k) (q.matching d) else r.documentSet.get k' := by
    split
    case isTrue h => rw [h, same, unseen]
    case isFalse => rfl
  have stays (same : next (v.mutatedKeys.contains k) (old.get k) (q.matching d) = old.get k) :
      Stays old k (next (v.mutatedKeys.contains k) (old.get k) (q.matching d)) := by
    intro e _ o eo le
    exact ⟨o, same.trans eo, le⟩
  rw [visitChange]
  cases eo : old.get k with
  | none =>
    rw [eo] at unseen frame stays
    have stays' (new : Option q.Matching) : Stays old k new := by
      intro e _ o eo'
      rw [eo] at eo'
      cases eo'
    cases en : q.matching d with
    | none =>
      rw [en] at frame stays
      exact ⟨r, rfl, sound, fun k' => frame k' rfl, fun no => ⟨no, stays' _⟩, fun _ => rfl⟩
    | some n =>
      obtain ⟨r', e, sound', get, refill⟩ := applyChange_spec sound ⟨n, .added⟩
        (some n) (fun n' e => by cases e; exact keyn n en) ⟨unseen, rfl⟩ false
      rw [Bool.or_false] at refill
      exact ⟨r', e, sound', get, fun no => ⟨refill ▸ no, stays' _⟩, fun _ => refill⟩
  | some o =>
    rw [eo] at unseen frame stays
    have keyo := IndexedSet.key_of_get eo
    cases en : q.matching d with
    | none =>
      obtain ⟨r', e, sound', get, refill⟩ := applyChange_spec sound ⟨o, .removed⟩
        none (fun n' e => by cases e) ⟨⟨o, unseen, rfl⟩, rfl⟩
        ((lastDocInLimit old).isSome || (firstDocInLimit old).isSome)
      refine ⟨r', e, sound', get, ?_, ?_⟩
      · intro no
        rw [refill, Bool.or_eq_false_iff, DocumentSet.isSome_limitDoc] at no
        refine ⟨no.1, ?_⟩
        intro e' ee
        rw [ee] at no
        cases no.2
      · intro calm
        obtain ⟨n, e', _⟩ := calm o rfl
        cases e'
    | some n =>
      rw [en] at frame stays
      dsimp only
      by_cases differ : o.1.value ≠ n.1.value
      · rw [if_pos differ]
        by_cases wait : shouldWaitForSyncedDocument n.1 o.1 = true
        · have same : next (v.mutatedKeys.contains k) (some o) (some n) = some o := by
            rw [next, if_pos differ, if_pos wait]
          rw [if_pos wait]
          exact ⟨r, rfl, sound, fun k' => frame k' same, fun no => ⟨no, stays same⟩, fun _ => rfl⟩
        · have moved : next (v.mutatedKeys.contains k) (some o) (some n) = some n := by
            rw [next, if_pos differ, if_neg wait]
          rw [if_neg wait, DocumentSet.any_limitDoc, moved]
          obtain ⟨r', e, sound', get, refill⟩ := applyChange_spec sound
            ⟨n, .modified⟩ (some n) (fun n' e => by cases e; exact keyn n en)
            ⟨by rw [unseen]; rfl, rfl⟩ (old.limitDoc.any fun e => edge n e == .gt)
          refine ⟨r', e, sound', get, ?_, ?_⟩
          · intro no
            rw [refill, Bool.or_eq_false_iff] at no
            refine ⟨no.1, ?_⟩
            intro e' ee _ _ _
            rw [ee] at no
            exact ⟨n, rfl, beq_eq_false_iff_ne.1 no.2⟩
          · intro calm
            obtain ⟨n', e', shows⟩ := calm o rfl
            cases e'
            rcases shows with ⟨same, _⟩ | ⟨ol, nc⟩
            · exact absurd same differ
            · refine absurd ?_ wait
              rw [shouldWaitForSyncedDocument, ol, nc,
                MutableDocument.hasLocalMutations_of_committed nc]
              rfl
      · rw [if_neg differ]
        have value : n.1.value = o.1.value := (not_not.1 differ).symm
        by_cases flags : v.mutatedKeys.contains k ≠
            (n.1.hasLocalMutations || v.mutatedKeys.contains k && n.1.hasCommittedMutations)
        · have moved : next (v.mutatedKeys.contains k) (some o) (some n) = some n := by
            rw [next, if_neg differ, if_pos flags]
          rw [if_pos flags, moved]
          obtain ⟨r', e, sound', get, refill⟩ := applyChange_spec sound
            ⟨n, .metadata⟩ (some n) (fun n' e => by cases e; exact keyn n en)
            ⟨⟨o, unseen, value.symm⟩, rfl⟩ false
          rw [Bool.or_false] at refill
          refine ⟨r', e, sound', get, fun no => ⟨refill ▸ no, ?_⟩, fun _ => refill⟩
          intro e' _ o' eo' le
          rw [eo] at eo'
          cases eo'
          refine ⟨n, rfl, ?_⟩
          rw [CoreQuery.Matching.edge_congr ((keyn n en).trans keyo.symm) value]
          exact le
        · have same : next (v.mutatedKeys.contains k) (some o) (some n) = some o := by
            rw [next, if_neg differ, if_neg flags]
          rw [if_neg flags]
          exact ⟨r, rfl, sound, fun k' => frame k' same, fun no => ⟨no, stays same⟩, fun _ => rfl⟩

/-- All documents whose local view may have changed. -/
lemma foldlM_visitChange (old : DocumentSet q) {rows : List (DocumentKey × MutableDocument)}
    (sound : r.Sound first)
    (names : ∀ row ∈ rows, row.2.key = row.1) (once : rows.Pairwise fun a b => a.1 ≠ b.1)
    (unseen : ∀ row ∈ rows, r.documentSet.get row.1 = old.get row.1) :
    ∃ r', rows.foldlM (fun r row => v.visitChange old r row.1 row.2) r = some r' ∧
      r'.Sound first ∧
      (∀ row ∈ rows, r'.documentSet.get row.1 =
        next (v.mutatedKeys.contains row.1) (old.get row.1) (q.matching row.2)) ∧
      (∀ k, (∀ row ∈ rows, row.1 ≠ k) → r'.documentSet.get k = r.documentSet.get k) ∧
      (r'.needsRefill = false → r.needsRefill = false ∧
        ∀ row ∈ rows, Stays old row.1 (r'.documentSet.get row.1)) ∧
      ((∀ row ∈ rows, ∀ o, old.get row.1 = some o →
        ∃ n, q.matching row.2 = some n ∧ Shows o.1 n.1) → r'.needsRefill = r.needsRefill) := by
  induction rows generalizing r with
  | nil => exact ⟨r, rfl, sound, by simp, fun _ _ => rfl, by simp, fun _ => rfl⟩
  | cons row rows ih =>
    obtain ⟨ne, once'⟩ := List.pairwise_cons.1 once
    obtain ⟨r1, e1, sound1, get1, stays1, calm1⟩ := visitChange_spec (v := v) sound
      (names row List.mem_cons_self) (unseen row List.mem_cons_self)
    obtain ⟨r2, e2, sound2, seen2, other2, stays2, calm2⟩ := ih sound1
      (fun row' mem => names row' (List.mem_cons_of_mem _ mem)) once' (by
        intro row' mem
        rw [get1, if_neg (ne row' mem).symm]
        exact unseen row' (List.mem_cons_of_mem _ mem))
    have here : r2.documentSet.get row.1 =
        next (v.mutatedKeys.contains row.1) (old.get row.1) (q.matching row.2) := by
      rw [other2 row.1 (fun row' mem => (ne row' mem).symm), get1, if_pos rfl]
    refine ⟨r2, by rw [List.foldlM_cons, e1]; exact e2, sound2, ?_, ?_, ?_, ?_⟩
    · intro row' mem
      rcases List.mem_cons.1 mem with rfl | mem
      · exact here
      · exact seen2 row' mem
    · intro k no
      rw [other2 k fun row' mem => no row' (List.mem_cons_of_mem _ mem), get1,
        if_neg (no row List.mem_cons_self).symm]
    · intro no
      obtain ⟨no1, stays⟩ := stays2 no
      obtain ⟨no0, stay⟩ := stays1 no1
      refine ⟨no0, ?_⟩
      intro row' mem
      rcases List.mem_cons.1 mem with rfl | mem
      · rw [here]
        exact stay
      · exact stays row' mem
    · intro calm
      rw [calm2 fun row' mem => calm row' (List.mem_cons_of_mem _ mem),
        calm1 (calm row List.mem_cons_self)]

/-- Dropping documents keeps those of the limit. -/
lemma dropOutside_spec (limited : q.limitType ≠ .none) (sound : r.Sound first) {n : Nat}
    (le : n ≤ r.documentSet.size) :
    ∃ r', r.dropOutside n = some r' ∧ r'.Sound first ∧
      r'.documentSet.inward = r.documentSet.inward.take (r.documentSet.size - n) ∧
      r'.needsRefill = r.needsRefill := by
  induction n generalizing r with
  | zero =>
    refine ⟨r, rfl, sound, ?_, rfl⟩
    rw [Nat.sub_zero, ← r.documentSet.length_inward, List.take_length]
  | succ n ih =>
    have pos : r.documentSet.inward ≠ [] := by
      intro e
      rw [← r.documentSet.length_inward, e] at le
      cases le
    obtain ⟨d, ed⟩ := Option.isSome_iff_exists.1 (List.getLast?_isSome.2 pos)
    have el := (r.documentSet.last_eq limited).trans ed
    have mem : r.documentSet.get d.key = some d :=
      DocumentSet.mem_inward.1 (List.mem_of_getLast? ed)
    obtain ⟨changeSet, ec, tells⟩ := DocumentViewChangeSet.addChange_tells
      sound.tells (r.documentSet.erase d.key) ⟨d, .removed⟩ (k := d.key)
      ⟨⟨d, mem, rfl⟩, by rw [IndexedSet.get_erase, if_pos rfl]⟩
      fun k' ne => by rw [IndexedSet.get_erase, if_neg ne]
    have inward' := DocumentSet.inward_erase_last limited el
    have size' : IndexedSet.size (r.documentSet.erase d.key) = r.documentSet.size - 1 := by
      rw [← DocumentSet.length_inward, inward', List.length_dropLast,
        r.documentSet.length_inward]
    have sound' : ViewDocumentChanges.Sound first { r with
        documentSet := r.documentSet.erase d.key, changeSet := changeSet,
        mutatedKeys := r.mutatedKeys.delete d.key } := ⟨tells, sound.mutated.erase⟩
    obtain ⟨r', e, sound'', inward'', refill⟩ := ih sound' (by
      change n ≤ IndexedSet.size (r.documentSet.erase d.key)
      rw [size']
      omega)
    refine ⟨r', ?_, sound'', ?_, refill⟩
    · rw [DocumentSet.last] at el
      rw [ViewDocumentChanges.dropOutside, el]
      change Option.bind (r.changeSet.addChange ⟨d, .removed⟩) _ = _
      rw [ec]
      exact e
    · rw [inward'']
      change (DocumentSet.inward (r.documentSet.erase d.key)).take
        (IndexedSet.size (r.documentSet.erase d.key) - n) = _
      rw [inward', size', List.dropLast_eq_take, List.take_take, r.documentSet.length_inward]
      congr 1
      omega

/-- Within its limit, a query keeps the documents that come first. -/
lemma limit_spec (sound : r.Sound first) :
    ∃ r', (if q.limitType ≠ .none then r.dropOutside (r.documentSet.size - q.limit) else some r) =
        some r' ∧ r'.Sound first ∧ r'.needsRefill = r.needsRefill ∧
      (q.limitType = .none → r'.documentSet.inward = r.documentSet.inward) ∧
      (q.limitType ≠ .none → r'.documentSet.inward = r.documentSet.inward.take q.limit) := by
  by_cases limited : q.limitType ≠ .none
  · obtain ⟨r', e, sound', inward, refill⟩ := dropOutside_spec limited sound
      (Nat.sub_le r.documentSet.size q.limit)
    refine ⟨r', by rw [if_pos limited, e], sound', refill, fun no => absurd no limited, fun _ => ?_⟩
    rw [inward, List.take_eq_take_iff, r.documentSet.length_inward]
    omega
  · exact ⟨r, if_neg limited, sound, rfl, fun _ => rfl, fun h => absurd h limited⟩

end View

/-! ## All documents -/

/-- The documents shown are those of the local view. -/
def Shown (lv : DocumentKey → MutableDocument) (set : DocumentSet q) : Prop :=
  ∀ k a, set.get k = some a → q.matches (lv k) = true ∧ Shows a.1 (lv k)

/-- A query shows no more documents than its limit. -/
def Within (set : DocumentSet q) : Prop :=
  q.limitType ≠ .none → set.size ≤ q.limit

/-- A document that matches is shown, or lies outside the limit. One that an acknowledged write has
    changed, and that is not shown, will be sent again. -/
def Complete (lv : DocumentKey → MutableDocument) (set : DocumentSet q) : Prop :=
  ∀ k (m : q.matches (lv k) = true), set.get k = none → q.limitType ≠ .none ∧
    ((lv k).hasCommittedMutations = true ∨
      set.size = q.limit ∧ ∀ b ∈ set.inward, edge ⟨lv k, m⟩ b = .gt)

/-- A document that matches is taken with the proof that it does. -/
lemma CoreQuery.matching_eq {d : MutableDocument} (m : q.matches d = true) :
    q.matching d = some ⟨d, m⟩ :=
  dif_pos m

/-- Only a document that does not match is left out. -/
lemma CoreQuery.matching_eq_none {d : MutableDocument} :
    q.matching d = none ↔ ¬ q.matches d = true := by
  rw [matching]
  split
  case isTrue h => simp [h]
  case isFalse h => simp [h]

namespace View

variable {v : View q} {lv : DocumentKey → MutableDocument} {set set' : DocumentSet q}

/-- A set with some of the documents. -/
lemma get_of_inward (sub : ∀ a ∈ set'.inward, a ∈ set.inward) {k : DocumentKey} {a : q.Matching}
    (e : set'.get k = some a) : set.get k = some a := by
  have key := IndexedSet.key_of_get e
  have mem := sub a (DocumentSet.mem_inward.2 (by rw [key, e]))
  rw [DocumentSet.mem_inward, key] at mem
  exact mem

/-- The limit cuts off documents that come after those that stay. -/
lemma complete_of_dropped (keys : ∀ k, (lv k).key = k) (shown : Shown lv set) (inward : set'.inward = set.inward.take q.limit)
    {k : DocumentKey} (m : q.matches (lv k) = true) {a : q.Matching} (e : set.get k = some a)
    (gone : set'.get k = none) : (lv k).hasCommittedMutations = true ∨
      set'.size = q.limit ∧ ∀ b ∈ set'.inward, edge ⟨lv k, m⟩ b = .gt := by
  have keya := IndexedSet.key_of_get e
  have mem : a ∈ set.inward := DocumentSet.mem_inward.2 (by rw [keya, e])
  have dropped : a ∈ set.inward.drop q.limit := by
    rw [← List.take_append_drop q.limit set.inward, List.mem_append] at mem
    apply mem.resolve_left
    intro mem'
    rw [← inward, DocumentSet.mem_inward, keya, gone] at mem'
    cases mem'
  rcases (shown k a e).2 with ⟨value, _⟩ | ⟨_, committed⟩
  · refine .inr ⟨?_, ?_⟩
    · have long : q.limit < set.inward.length := by
        by_contra no
        rw [List.drop_eq_nil_of_le (not_lt.1 no)] at dropped
        cases dropped
      rw [← set'.length_inward, inward, List.length_take]
      omega
    · intro b memb
      rw [inward] at memb
      have keyk : CoreQuery.Matching.key ⟨lv k, m⟩ = a.key := (keys k).trans keya.symm
      rw [CoreQuery.Matching.edge_congr keyk value.symm]
      exact Std.OrientedCmp.gt_of_lt (set.ascending_inward.lt_of_take_drop memb dropped)
  · exact .inl committed

/-- A set whose documents stay within an edge keeps a full limit within it. -/
lemma take_within_edge {n : Nat} {e : q.Matching} {old : DocumentSet q} (full : old.size = n)
    (stay : ∀ o ∈ old.inward, ∃ a, set.get o.key = some a ∧ edge a e ≠ .gt) :
    (∀ a ∈ set.inward.take n, edge a e ≠ .gt) ∧ n ≤ set.size := by
  have sub : (old.inward.map CoreQuery.Matching.key) ⊆
      (set.inward.filter fun a => edge a e != .gt).map CoreQuery.Matching.key := by
    intro k mem
    obtain ⟨o, memo, rfl⟩ := List.mem_map.1 mem
    obtain ⟨a, ea, le⟩ := stay o memo
    have keya := IndexedSet.key_of_get ea
    refine List.mem_map.2 ⟨a, List.mem_filter.2 ⟨?_, bne_iff_ne.2 le⟩, keya⟩
    exact DocumentSet.mem_inward.2 (by rw [keya, ea])
  have enough := (List.subperm_of_subset old.nodup_keys_inward sub).length_le
  rw [List.length_map, List.length_map, old.length_inward, full] at enough
  refine ⟨fun a mem => set.ascending_inward.take_not_above enough mem, ?_⟩
  rw [← set.length_inward]
  exact enough.trans (List.length_filter_le _ _)

/-- The document at the edge of a full limit comes after the others. -/
lemma limitDoc_spec {old : DocumentSet q} (limited : q.limitType ≠ .none)
    (full : old.size = q.limit) (pos : q.limit ≠ 0) :
    ∃ e, old.limitDoc = some e ∧ e ∈ old.inward ∧ ∀ o ∈ old.inward, edge o e ≠ .gt := by
  have ne : old.inward ≠ [] := by
    intro e
    rw [← full, ← old.length_inward, e] at pos
    exact pos rfl
  obtain ⟨e, ee⟩ := Option.isSome_iff_exists.1 (List.getLast?_isSome.2 ne)
  refine ⟨e, ?_, List.mem_of_getLast? ee, ?_⟩
  · rw [DocumentSet.limitDoc, if_pos ⟨limited, full⟩, old.last_eq limited, ee]
  · intro o mem
    have as := old.ascending_inward
    obtain ⟨l, el⟩ : ∃ l, old.inward = l ++ [e] := ⟨_, (List.dropLast_append_getLast? e ee).symm⟩
    rw [el] at as mem
    rcases List.mem_append.1 mem with mem | mem
    · rw [(List.pairwise_append.1 as).2.2 o mem e List.mem_cons_self]
      decide
    · rw [List.mem_singleton.1 mem]
      have eq : edge e e = .eq := Std.ReflCmp.compare_self
      rw [eq]
      decide

/-- What comes after the edge comes after all that stays within it. -/
lemma gt_of_edge {d e b : q.Matching} (gt : edge d e = .gt) (le : edge b e ≠ .gt) :
    edge d b = .gt := by
  apply Std.OrientedCmp.gt_of_lt
  exact Std.TransCmp.lt_of_isLE_of_lt (Ordering.isLE_iff_ne_gt.2 le) (Std.OrientedCmp.lt_of_gt gt)

/-- A row of a table is what the table has under its key. -/
lemma get_of_mem_rows {docs : DocumentMap} {row : DocumentKey × MutableDocument}
    (mem : row ∈ docs.rows) : docs.get row.1 = some row.2 :=
  SortedTable.get_eq_some.2 mem

/-- A set of the documents that a limit keeps. -/
lemma shown_of_cut (shown : Shown lv set) (all : q.limitType = .none → set'.inward = set.inward)
    (cut : q.limitType ≠ .none → set'.inward = set.inward.take q.limit) : Shown lv set' := by
  intro k a e
  apply shown k a
  refine get_of_inward ?_ e
  intro a mem
  by_cases limited : q.limitType = .none
  · rw [all limited] at mem
    exact mem
  · rw [cut limited] at mem
    exact List.mem_of_mem_take mem

/-- What has been cut at the limit is within it. -/
lemma within_of_cut (cut : q.limitType ≠ .none → set'.inward = set.inward.take q.limit) :
    Within set' := by
  intro limited
  rw [← set'.length_inward, cut limited, List.length_take]
  exact Nat.min_le_left _ _

/-- What a cut takes out lies outside a full limit. -/
lemma outside_of_cut (keys : ∀ k, (lv k).key = k) (shown : Shown lv set)
    (all : q.limitType = .none → set'.inward = set.inward)
    (cut : q.limitType ≠ .none → set'.inward = set.inward.take q.limit)
    {k : DocumentKey} (m : q.matches (lv k) = true) {a : q.Matching} (e : set.get k = some a)
    (gone : set'.get k = none) : q.limitType ≠ .none ∧ ((lv k).hasCommittedMutations = true ∨
      set'.size = q.limit ∧ ∀ b ∈ set'.inward, edge ⟨lv k, m⟩ b = .gt) := by
  have limited : q.limitType ≠ .none := by
    intro none_
    have mem : a ∈ set'.inward := by
      rw [all none_, DocumentSet.mem_inward, IndexedSet.key_of_get e, e]
    rw [DocumentSet.mem_inward, IndexedSet.key_of_get e, gone] at mem
    cases mem
  exact ⟨limited, complete_of_dropped keys shown (cut limited) m e gone⟩

/-- The changes are visited one by one, and what is past the limit is dropped at the end. -/
lemma computeDocumentChanges_eq {docs : DocumentMap} {previous : Option (ViewDocumentChanges q)}
    {r1 r2 : ViewDocumentChanges q}
    (e1 : docs.rows.foldlM
      (fun r row => v.visitChange (v.start previous).documentSet r row.1 row.2)
      (v.start previous) = some r1)
    (e2 : (if q.limitType ≠ .none then r1.dropOutside (r1.documentSet.size - q.limit)
      else some r1) = some r2) (ok : r2.needsRefill = true → previous = none) :
    v.computeDocumentChanges docs previous = some r2 := by
  rw [computeDocumentChanges]
  change Option.bind (docs.rows.foldlM _ _) _ = _
  rw [e1]
  change Option.bind (if q.limitType ≠ .none then _ else _) _ = _
  rw [e2]
  apply if_neg
  rintro ⟨refill, again⟩
  rw [ok refill] at again
  cases again

/-- The changes of an operation of the local store. The view shows documents of the local view as it
    is now; without a refill, nothing within the limit is missing. -/
lemma computeDocumentChanges_spec {lv' : DocumentKey → MutableDocument}
    (keys' : ∀ k, (lv' k).key = k) {docs : DocumentMap} (named : docs.Named)
    (now : ∀ k d, docs.get k = some d →
      d = lv' k ∨ d.isFoundDocument = false ∧ (lv' k).isFoundDocument = false)
    (same : ∀ k, docs.get k = none → lv' k = lv k)
    (shown : Shown lv v.documentSet) (mutated : Mutated v.documentSet v.mutatedKeys) :
    ∃ r, v.computeDocumentChanges docs none = some r ∧ r.Sound v.documentSet ∧
      Shown lv' r.documentSet ∧ Within r.documentSet ∧
      (Complete lv v.documentSet → r.needsRefill = false → Complete lv' r.documentSet) := by
  have matching (k : DocumentKey) (d : MutableDocument) (e : docs.get k = some d) :
      q.matching d = q.matching (lv' k) := by
    rcases now k d e with h | ⟨no, no'⟩
    · rw [h]
    · have gone (d : MutableDocument) (no : d.isFoundDocument = false) : q.matching d = none := by
        rw [CoreQuery.matching_eq_none, CoreQuery.matches, no, Bool.false_and, Bool.false_and]
        exact Bool.false_ne_true
      rw [gone d no, gone _ no']
  have begins : (v.start none).Sound v.documentSet := ⟨DocumentViewChangeSet.tells_empty, mutated⟩
  obtain ⟨r1, e1, sound1, seen, other, stays, _⟩ := foldlM_visitChange (v := v)
    v.documentSet begins (fun row mem => named (get_of_mem_rows mem)) docs.distinct_rows fun _ _ => rfl
  obtain ⟨r2, e2, sound2, refill2, all, cut⟩ := limit_spec sound1
  have unseen (k : DocumentKey) (e : docs.get k = none) :
      r1.documentSet.get k = v.documentSet.get k := by
    apply other
    rintro row mem rfl
    rw [get_of_mem_rows mem] at e
    cases e
  have shown1 : Shown lv' r1.documentSet := by
    intro k a ea
    cases ed : docs.get k with
    | none =>
      rw [same k ed]
      rw [unseen k ed] at ea
      exact shown k a ea
    | some d =>
      have e := seen (k, d) (SortedTable.get_eq_some.1 ed)
      dsimp only at e
      rw [ea, matching k d ed] at e
      by_cases m : q.matches (lv' k) = true
      · refine ⟨m, ?_⟩
        rw [CoreQuery.matching_eq m] at e
        apply shows_next (n := ⟨lv' k, m⟩) _ e.symm
        intro o eo
        left
        rw [Bool.eq_iff_iff, mutated k]
        constructor
        · rintro ⟨a', ea', h⟩
          rw [eo] at ea'
          cases ea'
          exact h
        · intro h
          exact ⟨o, eo, h⟩
      · rw [next_eq_none.2 (CoreQuery.matching_eq_none.2 m)] at e
        cases e
  refine ⟨r2, ?_, sound2, shown_of_cut shown1 all cut, within_of_cut cut, ?_⟩
  · exact computeDocumentChanges_eq e1 e2 fun _ => rfl
  · intro complete no k m gone
    rw [refill2] at no
    cases e : r1.documentSet.get k with
    | some a => exact outside_of_cut keys' shown1 all cut m e gone
    | none =>
      -- its local view has not changed, and it was outside the limit before
      have ed : docs.get k = none := by
        cases ed : docs.get k with
        | none => rfl
        | some d =>
          have h := seen (k, d) (SortedTable.get_eq_some.1 ed)
          dsimp only at h
          rw [e, matching k d ed, CoreQuery.matching_eq m] at h
          cases next_eq_none.1 h.symm
      have keep := same k ed
      have m0 : q.matches (lv k) = true := keep ▸ m
      have em : (⟨lv' k, m⟩ : q.Matching) = ⟨lv k, m0⟩ := Subtype.ext keep
      rw [unseen k ed] at e
      obtain ⟨limited, h⟩ := complete k m0 e
      refine ⟨limited, ?_⟩
      rcases h with committed | ⟨full, outside⟩
      · exact .inl (keep ▸ committed)
      right
      rw [em, ← r2.documentSet.length_inward, cut limited]
      by_cases pos : q.limit = 0
      · rw [pos, List.take_zero]
        exact ⟨rfl, fun b mem => by cases mem⟩
      obtain ⟨last, elast, memlast, within⟩ := limitDoc_spec limited full pos
      have stay : ∀ o ∈ v.documentSet.inward, ∃ a, r1.documentSet.get o.key = some a ∧
          edge a last ≠ .gt := by
        intro o mem
        have eo := DocumentSet.mem_inward.1 mem
        cases edo : docs.get o.key with
        | none => exact ⟨o, (unseen _ edo).trans eo, within o mem⟩
        | some d =>
          have st := (stays no).2 (o.key, d) (SortedTable.get_eq_some.1 edo)
          exact st last elast o eo (within o mem)
      obtain ⟨inside, enough⟩ := take_within_edge full stay
      refine ⟨?_, fun b mem => gt_of_edge (outside last memlast) (inside b mem)⟩
      rw [List.length_take, r1.documentSet.length_inward]
      exact Nat.min_eq_left enough

/-- Documents of the local view as it is now, to begin with or for a refill. None of them asks for
    another refill, and when they are all that match, nothing within the limit is missing. -/
lemma computeDocumentChanges_full {previous : Option (ViewDocumentChanges q)}
    (keys : ∀ k, (lv k).key = k) {docs : DocumentMap}
    (found : ∀ k d, docs.get k = some d → d = lv k ∧ q.matches d = true)
    (sound : (v.start previous).Sound v.documentSet)
    (shown : Shown lv (v.start previous).documentSet) :
    ∃ r, v.computeDocumentChanges docs previous = some r ∧ r.Sound v.documentSet ∧
      Shown lv r.documentSet ∧ Within r.documentSet ∧ r.needsRefill = false ∧
      ((∀ k, q.matches (lv k) = true → docs.get k = some (lv k)) → Complete lv r.documentSet) := by
  have start_ : (v.start previous).needsRefill = false := by
    cases previous <;> rfl
  have new (k : DocumentKey) (d : MutableDocument) (e : docs.get k = some d) :
      ∃ m : q.matches (lv k) = true, q.matching d = some ⟨lv k, m⟩ := by
    obtain ⟨rfl, m⟩ := found k d e
    exact ⟨m, CoreQuery.matching_eq m⟩
  obtain ⟨r1, e1, sound1, seen, other, _, calm⟩ := foldlM_visitChange (v := v)
    (v.start previous).documentSet sound
    (fun row (mem : row ∈ docs.rows) => by
      obtain ⟨e, _⟩ := found _ _ (get_of_mem_rows mem)
      rw [e, keys])
    docs.distinct_rows fun _ _ => rfl
  obtain ⟨r2, e2, sound2, refill2, all, cut⟩ := limit_spec sound1
  have refill1 : r1.needsRefill = false := by
    rw [calm, start_]
    intro row mem o eo
    obtain ⟨m, e⟩ := new _ _ (get_of_mem_rows mem)
    exact ⟨_, e, (shown _ o eo).2⟩
  have shown1 : Shown lv r1.documentSet := by
    intro k a ea
    cases ed : docs.get k with
    | none =>
      rw [other k] at ea
      · exact shown k a ea
      · rintro row mem rfl
        rw [get_of_mem_rows mem] at ed
        cases ed
    | some d =>
      obtain ⟨m, e⟩ := new k d ed
      have h := seen (k, d) (SortedTable.get_eq_some.1 ed)
      dsimp only at h
      rw [ea, e] at h
      refine ⟨m, ?_⟩
      apply shows_next (n := ⟨lv k, m⟩) _ h.symm
      intro o eo
      exact .inr (shown k o eo).2
  refine ⟨r2, ?_, sound2, shown_of_cut shown1 all cut, within_of_cut cut, ?_, ?_⟩
  · apply computeDocumentChanges_eq e1 e2
    intro h
    rw [refill2, refill1] at h
    cases h
  · rw [refill2, refill1]
  · intro every k m gone
    have h := seen (k, lv k) (SortedTable.get_eq_some.1 (every k m))
    dsimp only at h
    rw [CoreQuery.matching_eq m] at h
    cases e : r1.documentSet.get k with
    | some a => exact outside_of_cut keys shown1 all cut m e gone
    | none =>
      rw [e] at h
      cases next_eq_none.1 h.symm

end View

end Lumiere.Firestore.Client

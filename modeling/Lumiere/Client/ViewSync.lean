import Lumiere.Client.ViewInvariant

/-!
# What a view hands on

When a view takes its next documents over (`applyChanges`), it hands on a snapshot, unless nothing
has changed, and says which documents have got into limbo or out of it. The changes of a snapshot
tell how the documents before became those after, each document once and in order (`Faithful`). The
documents in limbo are, whenever the view is current, exactly those shown that neither the server nor
a local write explains, and the view is in sync when it is current and there are none (`Settled`).
-/

namespace Lumiere.Firestore.Client

variable {q : CoreQuery}

/-! ## The changes of a snapshot -/

namespace View

/-- The order of the changes: by their type, then by their document. -/
def changeCompare : DocumentViewChange q → DocumentViewChange q → Ordering :=
  compareLex (compareOn fun c => getDocumentViewChangeTypePosition c.type)
    fun a b => a.document.compare b.document

instance : Std.TransCmp (changeCompare (q := q)) :=
  have : Std.TransCmp fun a b : DocumentViewChange q => a.document.compare b.document :=
    transCmp_on
  inferInstanceAs (Std.TransCmp (compareLex _ _))

/-- The order of the changes, as a comparison. -/
lemma changePrecedes_iff {a b : DocumentViewChange q} :
    changePrecedes a b = true ↔ changeCompare a b = .lt := by
  have h : changeCompare a b = (compare (getDocumentViewChangeTypePosition a.type)
      (getDocumentViewChangeTypePosition b.type)).then (a.document.compare b.document) := rfl
  rw [changePrecedes, h]
  rcases Nat.lt_trichotomy (getDocumentViewChangeTypePosition a.type)
    (getDocumentViewChangeTypePosition b.type) with lt | eq | gt
  · rw [if_pos lt.ne, Nat.compare_eq_lt.2 lt]
    simp [lt]
  · rw [eq, if_neg (not_not.2 rfl), Std.ReflOrd.compare_self]
    simp
  · rw [if_pos gt.ne', Nat.compare_eq_gt.2 gt]
    simp [not_lt.2 gt.le]

end View

/-- The changes of a snapshot tell how the documents before became those after, each document once
    and in order. -/
structure ViewSnapshot.Faithful (s : ViewSnapshot q) : Prop where
  ascending : Ascending View.changeCompare s.documentChanges
  tells : ∃ changes : DocumentViewChangeSet q, changes.Tells s.oldDocuments s.documents ∧
    ∀ c, c ∈ s.documentChanges ↔ changes.get c.document.key = some c

namespace View

/-- The changes of a view in order. -/
lemma faithful_sortChanges {changes : DocumentViewChangeSet q} {s : ViewSnapshot q}
    (tells : changes.Tells s.oldDocuments s.documents)
    (e : s.documentChanges = sortChanges changes.getChanges) : s.Faithful := by
  have under {r : DocumentKey × DocumentViewChange q} (mem : r ∈ changes.rows) :
      r.2.document.key = r.1 :=
    DocumentViewChangeSet.key_of_tells tells (SortedTable.get_eq_some.2 mem)
  have keys : (changes.getChanges.map fun c => c.document.key).Nodup := by
    have eq : changes.getChanges.map (fun c => c.document.key) = changes.rows.map Prod.fst := by
      rw [DocumentViewChangeSet.getChanges, List.map_map]
      exact List.map_congr_left fun r mem => under mem
    rw [eq]
    exact List.pairwise_map.2 changes.distinct_rows
  constructor
  · rw [e]
    apply ascending_insertionSort
    · intro a b
      have swap : changeCompare a b = .gt ↔ changeCompare b a = .lt := Std.OrientedCmp.gt_iff_lt
      rw [Ne, swap, ← changePrecedes_iff, Bool.not_eq_true]
    · exact keys.of_map
    · intro x memx y memy eq
      obtain ⟨_, eq'⟩ := Ordering.then_eq_eq.1 eq
      exact List.inj_on_of_nodup_map keys memx memy (KeyedCmp.key_eq eq')
  · refine ⟨changes, tells, ?_⟩
    intro c
    rw [e, sortChanges, (List.perm_insertionSort _ _).mem_iff, DocumentViewChangeSet.getChanges,
      List.mem_map]
    constructor
    · rintro ⟨r, mem, rfl⟩
      rw [SortedTable.get_eq_some, under mem]
      exact mem
    · intro h
      exact ⟨_, SortedTable.get_eq_some.1 h, rfl⟩

/-- Without changes the documents are those of before. -/
lemma get_of_no_changes {changes : DocumentViewChangeSet q} {old new : DocumentSet q}
    (tells : changes.Tells old new) (none_ : (sortChanges changes.getChanges).isEmpty = true)
    (k : DocumentKey) : new.get k = old.get k := by
  have net := tells k
  have empty : changes.rows = [] := by
    have h := (List.perm_insertionSort (fun a b => changePrecedes b a = false)
      changes.getChanges).length_eq
    rw [← sortChanges, List.isEmpty_iff.1 none_, DocumentViewChangeSet.getChanges,
      List.length_map] at h
    exact List.length_eq_zero_iff.1 h.symm
  have no : changes.get k = none := by
    rw [SortedTable.get_eq_none, empty]
    intro v mem
    cases mem
  rw [no] at net
  exact net.symm

/-! ## Limbo and sync state -/

variable {v : View q}

/-- The keys that are put into a set when a test says so. -/
lemma contains_foldl_put {α : Type*} {l : List α} {f : α → DocumentKey} {p : α → Bool}
    {s : DocumentKeySet} {k : DocumentKey} :
    (l.foldl (fun s a => if p a then s.put (f a) () else s) s).contains k = true ↔
      (∃ a ∈ l, p a = true ∧ f a = k) ∨ s.contains k = true := by
  induction l generalizing s with
  | nil => simp
  | cons a l ih =>
    rw [List.foldl_cons, ih, List.exists_mem_cons_iff, or_assoc, or_comm (a := p a = true ∧ f a = k),
      or_assoc]
    apply or_congr_right
    by_cases h : p a = true
    · rw [if_pos h, SortedTable.contains, SortedTable.get_put]
      by_cases e : k = f a
      · simp [e, h]
      · rw [if_neg e]
        have e' : f a ≠ k := fun e' => e e'.symm
        simp [SortedTable.contains, e']
    · simp [h]

/-- The documents in limbo are those that should be. -/
lemma contains_documentsInLimbo {k : DocumentKey} :
    v.documentsInLimbo.contains k = v.shouldBeInLimbo k := by
  rw [Bool.eq_iff_iff, documentsInLimbo,
    contains_foldl_put (f := fun d : q.Matching => d.key) (p := fun d => v.shouldBeInLimbo d.key)]
  constructor
  · rintro (⟨d, _, h, rfl⟩ | h)
    · exact h
    · cases h
  · intro h
    have h' := h
    rw [shouldBeInLimbo] at h'
    split at h'
    case isTrue => cases h'
    case isFalse =>
      split at h'
      case h_1 => cases h'
      case h_2 d e =>
        have key := IndexedSet.key_of_get e
        exact .inl ⟨d, IndexedSet.mem_sorted_iff_get.2 ⟨k, e⟩, by rw [key]; exact h, key⟩

/-- The documents in limbo and the sync state follow from what is shown and what the server said. -/
structure Settled (v : View q) : Prop where
  limbo : v.current = true → ∀ k, v.limboDocuments.contains k = v.shouldBeInLimbo k
  syncState : v.syncState = if v.limboDocuments.rows.isEmpty && v.current then .synced else .local

/-- In a view that is in sync each document is one that the server has, or has a local write. -/
lemma Settled.explained (h : v.Settled) (synced : v.syncState = .synced) :
    v.current = true ∧ ∀ k a, v.documentSet.get k = some a →
      v.syncedDocuments.contains k = true ∨ a.1.hasLocalMutations = true := by
  rw [h.syncState] at synced
  split at synced
  case isTrue both =>
    rw [Bool.and_eq_true] at both
    refine ⟨both.2, ?_⟩
    intro k a e
    have no : v.shouldBeInLimbo k = false := by
      rw [← h.limbo both.2, SortedTable.contains, SortedTable.get, List.isEmpty_iff.1 both.1]
      rfl
    rw [shouldBeInLimbo, e] at no
    split at no
    case isTrue h' => exact .inl h'
    case isFalse => exact .inr (by simpa using no)
  case isFalse => cases synced

/-- What the server says about the query fits what it has said before. -/
def Accepts (v : View q) : Option TargetChange → Prop
  | none => True
  | some t => ∀ k ∈ t.modifiedDocuments, k ∈ t.addedDocuments ∨ v.syncedDocuments.contains k = true

/-- What the server has in the query once it has said a change. -/
def syncedAfter (synced : DocumentKeySet) : Option TargetChange → DocumentKeySet
  | none => synced
  | some t => t.removedDocuments.foldl (fun s k => s.delete k)
      (t.addedDocuments.foldl (fun s k => s.put k ()) synced)

/-- Whether the server has sent all documents of the query once it has said a change. -/
def currentAfter (current : Bool) : Option TargetChange → Bool
  | none => current
  | some t => t.current

/-- The keys that are put into a set. -/
lemma contains_put_all {ks : List DocumentKey} {s : DocumentKeySet} {k : DocumentKey} :
    (ks.foldl (fun s k => s.put k ()) s).contains k = true ↔ k ∈ ks ∨ s.contains k = true := by
  have h := contains_foldl_put (l := ks) (f := id) (p := fun _ => true) (s := s) (k := k)
  simpa using h

/-- What the server says of the target changes the documents that it has named. -/
lemma applyTargetChange_eq {t : Option TargetChange} (ok : v.Accepts t) :
    v.applyTargetChange t = some { v with
      syncedDocuments := syncedAfter v.syncedDocuments t
      current := currentAfter v.current t } := by
  cases t with
  | none => rfl
  | some t =>
    apply if_pos
    rw [List.all_eq_true]
    intro k mem
    exact contains_put_all.2 (ok k mem)

/-- The documents in limbo change by exactly what is reported. -/
def LimboReports (old new : DocumentKeySet) (changes : List LimboDocumentChange) : Prop :=
  (∀ k, .added k ∈ changes ↔ new.contains k = true ∧ old.contains k = false) ∧
    ∀ k, .removed k ∈ changes ↔ old.contains k = true ∧ new.contains k = false

/-- The view reports the documents that have come into limbo or left it. -/
lemma updateLimboDocuments_spec :
    ∃ limbo changes, v.updateLimboDocuments = ({ v with limboDocuments := limbo }, changes) ∧
      LimboReports v.limboDocuments limbo changes ∧
      (v.current = true → ∀ k, limbo.contains k = v.shouldBeInLimbo k) ∧
      (v.current = false → limbo = v.limboDocuments) := by
  rw [updateLimboDocuments]
  by_cases current : v.current = true
  · rw [if_pos current]
    refine ⟨v.documentsInLimbo, _, rfl, ⟨?_, ?_⟩, fun _ k => contains_documentsInLimbo, ?_⟩
    · intro k
      simp only [List.mem_append, List.mem_map, reduceCtorEq, and_false, exists_false, false_or,
        List.mem_filter, LimboDocumentChange.added.injEq, exists_eq_right, Bool.not_eq_true',
        ← SortedTable.mem_keys_iff_contains]
    · intro k
      simp only [List.mem_append, List.mem_map, reduceCtorEq, and_false, exists_false, or_false,
        List.mem_filter, LimboDocumentChange.removed.injEq, exists_eq_right, Bool.not_eq_true',
        ← SortedTable.mem_keys_iff_contains]
    · intro no
      rw [no] at current
      cases current
  · rw [if_neg current]
    refine ⟨v.limboDocuments, [], rfl, ⟨?_, ?_⟩, fun h => absurd h current, fun _ => rfl⟩
    · intro k
      simp
    · intro k
      simp

/-! ## Taking the documents over -/

/-- What the view is and hands on once it has taken its next documents over. -/
structure Applied (v : View q) (r : ViewDocumentChanges q) (t : Option TargetChange) (v' : View q)
    (change : ViewChange q) : Prop where
  documentSet : v'.documentSet = r.documentSet
  mutatedKeys : v'.mutatedKeys = r.mutatedKeys
  syncedDocuments : v'.syncedDocuments = syncedAfter v.syncedDocuments t
  current : v'.current = currentAfter v.current t
  settled : v'.Settled
  limbo : LimboReports v.limboDocuments v'.limboDocuments change.limboChanges
  kept : v'.current = false → change.limboChanges = []
  quiet : change.snapshot = none →
    (∀ k, v'.documentSet.get k = v.documentSet.get k) ∧ v'.syncState = v.syncState
  faithful : ∀ s, change.snapshot = some s → s.Faithful ∧ s.documents = v'.documentSet ∧
    s.oldDocuments = v.documentSet ∧ s.mutatedKeys = v'.mutatedKeys ∧
    s.fromCache = (v'.syncState == .local) ∧
    s.syncStateChanged = (v'.syncState != v.syncState) ∧
    (s.documentChanges.isEmpty && !s.syncStateChanged) = false

/-- A view takes its documents over unless they still need a refill. -/
lemma applyChanges_spec {r : ViewDocumentChanges q} {t : Option TargetChange}
    (sound : r.Sound v.documentSet) (full : r.needsRefill = false) (ok : v.Accepts t) :
    ∃ v' change, v.applyChanges r t = some (v', change) ∧ Applied v r t v' change := by
  let v1 : View q := { v with documentSet := r.documentSet, mutatedKeys := r.mutatedKeys }
  have ok1 : v1.Accepts t := by
    cases t with
    | none => trivial
    | some t => exact ok
  let v2 : View q := { v1 with
    syncedDocuments := syncedAfter v.syncedDocuments t, current := currentAfter v.current t }
  have e2 : v1.applyTargetChange t = some v2 := applyTargetChange_eq ok1
  obtain ⟨limbo, limboChanges, e3, reports, known, kept⟩ := updateLimboDocuments_spec (v := v2)
  let newSyncState : SyncState :=
    if limbo.rows.isEmpty && currentAfter v.current t then .synced else .local
  let v3 : View q := { v2 with limboDocuments := limbo, syncState := newSyncState }
  have settled : v3.Settled := ⟨known, rfl⟩
  have quietLimbo : v3.current = false → limboChanges = [] := by
    intro no
    have no' : v2.current = false := no
    rw [updateLimboDocuments, no', if_neg Bool.false_ne_true] at e3
    exact (Prod.mk.inj e3).2.symm
  have e : v.applyChanges r t =
      if (sortChanges r.changeSet.getChanges).isEmpty && !(newSyncState != v.syncState) then
        some (v3, ⟨none, limboChanges⟩)
      else
        some (v3, ⟨some ⟨r.documentSet, v.documentSet, sortChanges r.changeSet.getChanges,
          r.mutatedKeys, newSyncState == .local, newSyncState != v.syncState, false⟩,
          limboChanges⟩) := by
    rw [applyChanges, full, if_neg Bool.false_ne_true]
    change Option.bind (v1.applyTargetChange t) _ = _
    rw [e2, Option.bind_some]
    dsimp only
    rw [e3]
    rfl
  rw [e]
  split
  case isTrue none_ =>
    rw [Bool.and_eq_true, Bool.not_eq_true', bne_eq_false_iff_eq] at none_
    refine ⟨v3, ⟨none, limboChanges⟩, rfl, ?_⟩
    exact
      { documentSet := rfl
        mutatedKeys := rfl
        syncedDocuments := rfl
        current := rfl
        settled := settled
        limbo := reports
        kept := quietLimbo
        quiet := fun _ => ⟨get_of_no_changes sound.tells none_.1, none_.2⟩
        faithful := by
          intro s es
          cases es }
  case isFalse some_ =>
    refine ⟨v3, ⟨some _, limboChanges⟩, rfl, ?_⟩
    exact
      { documentSet := rfl
        mutatedKeys := rfl
        syncedDocuments := rfl
        current := rfl
        settled := settled
        limbo := reports
        kept := quietLimbo
        quiet := by
          intro es
          cases es
        faithful := by
          intro s es
          cases es
          refine ⟨faithful_sortChanges sound.tells rfl, rfl, rfl, rfl, rfl, rfl, ?_⟩
          exact Bool.not_eq_true _ ▸ some_ }

end View

end Lumiere.Firestore.Client

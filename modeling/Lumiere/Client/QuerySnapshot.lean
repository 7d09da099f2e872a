import Lumiere.Client.ViewSync

/-!
# Query snapshots of the API

What the app gets of a snapshot: its documents in order, and what has changed in a form that a list on
the screen can follow, with the place a document had and the place it has now. `forEachChange`
computes the places by applying the changes one after the other, and stops the client on changes that
cannot be applied. On the changes of a view it never does, and a list that follows them ends up as the
documents of the snapshot (`forEachChange_spec`).
-/

namespace Lumiere.Firestore.Client

variable {q : CoreQuery}

/-- What a list does about a document. -/
inductive DocumentChange.Kind where
  | added
  | modified
  | removed
  deriving DecidableEq

/-- A document of a query as the app gets it. -/
structure QueryDocumentSnapshot (q : CoreQuery) where
  document : q.Matching
  hasPendingWrites : Bool
  fromCache : Bool

/-- A change as the app gets it, with the places of the document before and after. -/
structure DocumentChange (q : CoreQuery) where
  type : DocumentChange.Kind
  document : QueryDocumentSnapshot q
  oldIndex : Option Nat
  newIndex : Option Nat

namespace ViewSnapshot

/-- A document of the snapshot as the app gets it. -/
def documentSnapshot (s : ViewSnapshot q) (d : q.Matching) : QueryDocumentSnapshot q :=
  ⟨d, s.mutatedKeys.contains d.key, s.fromCache⟩

/-- The documents of a snapshot as the app gets them. -/
def forEachDocument (s : ViewSnapshot q) : List (QueryDocumentSnapshot q) :=
  s.documents.sorted.map s.documentSnapshot

/-- A change of metadata only is a modification for the app. -/
def documentChangeTypeForChange : DocumentViewChange.Kind → DocumentChange.Kind
  | .added => .added
  | .modified => .modified
  | .metadata => .modified
  | .removed => .removed

/-- The changes of the first snapshot: all documents have been added, in order. -/
def firstChanges (s : ViewSnapshot q) :
    Option q.Matching → Nat → List (DocumentViewChange q) → Except String (List (DocumentChange q))
  | _, _, [] => .ok []
  | lastDocument, index, change :: changes =>
    if change.type ≠ .added then .error "Invalid event type for first snapshot"
    else if lastDocument.any fun last => last.compare change.document != .lt then
      .error "Got added events in wrong order"
    else do
      let rest ← firstChanges s (some change.document) (index + 1) changes
      pure (⟨.added, s.documentSnapshot change.document, none, some index⟩ :: rest)

/-- Where a document was, unless it has been added, and the documents without it. -/
def takeOut (indexTracker : DocumentSet q) (change : DocumentViewChange q) :
    Except String (Option Nat × DocumentSet q) :=
  if change.type ≠ .added then
    match indexTracker.indexOf change.document.key with
    | none => .error "Index for document not found"
    | some i => .ok (some i, indexTracker.erase change.document.key)
  else .ok (none, indexTracker)

/-- Where a document is, unless it has been removed, and the documents with it. -/
def putIn (indexTracker : DocumentSet q) (change : DocumentViewChange q) :
    Option Nat × DocumentSet q :=
  if change.type ≠ .removed then
    ((indexTracker.insert change.document).indexOf change.document.key,
      indexTracker.insert change.document)
  else (none, indexTracker)

/-- One change of a later snapshot, and the documents after it. -/
def laterChange (s : ViewSnapshot q) (indexTracker : DocumentSet q)
    (change : DocumentViewChange q) : Except String (DocumentChange q × DocumentSet q) := do
  let (oldIndex, indexTracker) ← takeOut indexTracker change
  let (newIndex, indexTracker) := putIn indexTracker change
  pure (⟨documentChangeTypeForChange change.type, s.documentSnapshot change.document, oldIndex,
    newIndex⟩, indexTracker)

/-- The changes of a later snapshot; those of the metadata alone can be left out. -/
def laterChanges (s : ViewSnapshot q) (includeMetadataChanges : Bool) :
    DocumentSet q → List (DocumentViewChange q) → Except String (List (DocumentChange q))
  | _, [] => pure []
  | indexTracker, change :: changes =>
    if !includeMetadataChanges ∧ change.type = .metadata then
      laterChanges s includeMetadataChanges indexTracker changes
    else do
      let (c, indexTracker) ← s.laterChange indexTracker change
      let rest ← laterChanges s includeMetadataChanges indexTracker changes
      pure (c :: rest)

/-- The changes of a snapshot with their indexes; they must fit the documents before. -/
def forEachChange (s : ViewSnapshot q) (includeMetadataChanges : Bool) :
    Except String (List (DocumentChange q)) :=
  if includeMetadataChanges ∧ s.excludesMetadataChanges then
    throw ("To include metadata changes with your document changes, you must call " ++
      "addSnapshotListener(includeMetadataChanges:true).")
  else if s.oldDocuments.sorted.isEmpty then s.firstChanges none 0 s.documentChanges
  else s.laterChanges includeMetadataChanges s.oldDocuments s.documentChanges

/-- The snapshot without the changes of the metadata alone. -/
def withoutMetadataChanges (s : ViewSnapshot q) : ViewSnapshot q :=
  { s with
    documentChanges := s.documentChanges.filter fun c => c.type != .metadata
    excludesMetadataChanges := true }

end ViewSnapshot

/-! ## A list that follows the changes -/

/-- A list takes the document from its old place and puts it into its new one. -/
def DocumentChange.edit (l : List q.Matching) (c : DocumentChange q) : List q.Matching :=
  let taken := match c.oldIndex with
    | some i => l.eraseIdx i
    | none => l
  match c.newIndex with
  | some i => taken.insertIdx i c.document.document
  | none => taken

/-- What the app sees of a document: its key and its fields. -/
def CoreQuery.Matching.look (d : q.Matching) : DocumentKey × ObjectValue :=
  (d.key, d.1.value)

/-- Documents that look alike stand at the same place. -/
lemma CoreQuery.Matching.compare_look {a a' b b' : q.Matching} (ea : a.look = a'.look)
    (eb : b.look = b'.look) : a.compare b = a'.compare b' := by
  obtain ⟨ka, va⟩ := Prod.mk.inj ea
  obtain ⟨kb, vb⟩ := Prod.mk.inj eb
  have swap (c d : q.Matching) : c.compare d = (d.compare c).swap := Std.OrientedCmp.eq_swap
  rw [compare_congr ka va, swap a' b, compare_congr kb vb, ← swap]

/-- Sets whose documents look alike look alike in order. -/
lemma DocumentSet.map_look_eq {s t : DocumentSet q}
    (same : ∀ k, (s.get k).map CoreQuery.Matching.look = (t.get k).map CoreQuery.Matching.look) :
    s.sorted.map CoreQuery.Matching.look = t.sorted.map CoreQuery.Matching.look :=
  IndexedSet.map_sorted_eq (fun e => (Prod.mk.inj e).1) CoreQuery.Matching.compare_look same

namespace ViewSnapshot

variable {s : ViewSnapshot q}

/-- Taking a document from its place. -/
lemma eraseIdx_indexOf {set : DocumentSet q} {k : DocumentKey} {d : q.Matching}
    (e : set.get k = some d) : ∃ i, set.indexOf k = some i ∧
      IndexedSet.sorted (set.erase k) = set.sorted.eraseIdx i := by
  have mem : d ∈ set.sorted := IndexedSet.mem_sorted_iff_get.2 ⟨k, e⟩
  obtain ⟨l1, l2, el⟩ := List.append_of_mem mem
  rw [← IndexedSet.key_of_get e]
  refine ⟨l1.length, IndexedSet.indexOf_eq el, ?_⟩
  rw [IndexedSet.sorted_erase el, el, List.eraseIdx_append_of_length_le (Nat.le_refl _),
    Nat.sub_self, List.eraseIdx_cons_zero]

/-- An element put in after a first part. -/
lemma insertIdx_length_append {α : Type*} {l1 l2 : List α} {a : α} :
    (l1 ++ l2).insertIdx l1.length a = l1 ++ a :: l2 := by
  induction l1 with
  | nil => exact List.insertIdx_zero
  | cons b l1 ih =>
    rw [List.cons_append, List.length_cons, List.insertIdx_succ_cons, ih, List.cons_append]

/-- Putting a new document into its place. -/
lemma insertIdx_indexOf {set : DocumentSet q} {d : q.Matching} (new : set.get d.key = none) :
    ∃ i, IndexedSet.indexOf (set.insert d) d.key = some i ∧
      IndexedSet.sorted (set.insert d) = set.sorted.insertIdx i d := by
  obtain ⟨l1, l2, el, e⟩ := IndexedSet.sorted_insert (d := d) new
  refine ⟨l1.length, IndexedSet.indexOf_eq el, ?_⟩
  rw [el, e, insertIdx_length_append]

/-- One change: the list goes where the set of documents goes. -/
lemma laterChange_spec {tracker : DocumentSet q} {change : DocumentViewChange q}
    {new : Option q.Matching}
    (net : DocumentViewChange.Net (tracker.get change.document.key) new (some change)) :
    ∃ c tracker', s.laterChange tracker change = .ok (c, tracker') ∧
      tracker'.sorted = c.edit tracker.sorted ∧
      ∀ k, tracker'.get k = if k = change.document.key then new else tracker.get k := by
  obtain ⟨d, type⟩ := change
  change DocumentViewChange.Net (tracker.get d.key) new (some ⟨d, type⟩) at net
  have gone : IndexedSet.get (tracker.erase d.key) d.key = none :=
    IndexedSet.get_erase.trans (if_pos rfl)
  have changed {o : q.Matching} (e : tracker.get d.key = some o) (h : type ≠ .added)
      (h' : type ≠ .removed) (en : new = some d) :
      ∃ c tracker', s.laterChange tracker ⟨d, type⟩ = .ok (c, tracker') ∧
        tracker'.sorted = c.edit tracker.sorted ∧
        ∀ k, tracker'.get k = if k = d.key then new else tracker.get k := by
    obtain ⟨i, ei, erased⟩ := eraseIdx_indexOf e
    obtain ⟨j, ej, inserted⟩ := insertIdx_indexOf gone
    have out : takeOut tracker ⟨d, type⟩ = .ok (some i, tracker.erase d.key) := by
      rw [takeOut, if_pos h, ei]
    have back : putIn (tracker.erase d.key) ⟨d, type⟩ =
        (some j, (tracker.erase d.key).insert d) := by
      rw [putIn, if_pos h', ej]
    refine ⟨⟨documentChangeTypeForChange type, s.documentSnapshot d, some i, some j⟩,
      (tracker.erase d.key).insert d, ?_, ?_, ?_⟩
    · rw [laterChange, out]
      dsimp only [bind, Except.bind]
      rw [back]
      rfl
    · rw [inserted, erased]
      rfl
    · intro k
      rw [en, IndexedSet.get_insert, IndexedSet.get_erase]
      split <;> rfl
  cases type with
  | added =>
    obtain ⟨none_, rfl⟩ := net
    obtain ⟨j, ej, inserted⟩ := insertIdx_indexOf none_
    refine ⟨⟨.added, s.documentSnapshot d, none, some j⟩, tracker.insert d, ?_, inserted, ?_⟩
    · rw [laterChange, takeOut, if_neg (fun h => h rfl)]
      change Except.ok (_, _) = _
      rw [← ej]
      rfl
    · intro k
      exact IndexedSet.get_insert
  | removed =>
    obtain ⟨⟨o, e, _⟩, rfl⟩ := net
    obtain ⟨i, ei, erased⟩ := eraseIdx_indexOf e
    refine ⟨⟨.removed, s.documentSnapshot d, some i, none⟩, tracker.erase d.key, ?_, erased, ?_⟩
    · rw [laterChange, takeOut, if_pos (by intro h; cases h), ei]
      rfl
    · intro k
      exact IndexedSet.get_erase
  | modified =>
    obtain ⟨some_, en⟩ := net
    obtain ⟨o, e⟩ := Option.isSome_iff_exists.1 some_
    exact changed e (by decide) (by decide) en
  | metadata =>
    obtain ⟨⟨o, e, _⟩, en⟩ := net
    exact changed e (by decide) (by decide) en

/-- The documents of one set may stand for those of another: each looks as it does there. -/
def Alike (s t : DocumentSet q) : Prop :=
  ∀ k, (s.get k).map CoreQuery.Matching.look = (t.get k).map CoreQuery.Matching.look

/-- The documents on the way through the changes: those to come tell what is left to do. -/
lemma laterChanges_spec {new : DocumentSet q} {includeMetadataChanges : Bool}
    {changes : List (DocumentViewChange q)} {tracker : DocumentSet q}
    (once : changes.Pairwise fun a b => a.document.key ≠ b.document.key)
    (net : ∀ c ∈ changes,
      DocumentViewChange.Net (tracker.get c.document.key) (new.get c.document.key) (some c))
    (others : ∀ k, (∀ c ∈ changes, c.document.key ≠ k) →
      (tracker.get k).map CoreQuery.Matching.look = (new.get k).map CoreQuery.Matching.look) :
    ∃ cs final, s.laterChanges includeMetadataChanges tracker changes = .ok cs ∧
      cs.foldl DocumentChange.edit tracker.sorted = IndexedSet.sorted final ∧ Alike final new := by
  induction changes generalizing tracker with
  | nil => exact ⟨[], tracker, rfl, rfl, fun k => others k (by simp)⟩
  | cons c changes ih =>
    obtain ⟨ne, once'⟩ := List.pairwise_cons.1 once
    have netc := net c List.mem_cons_self
    by_cases skip : (!includeMetadataChanges) = true ∧ c.type = .metadata
    · -- a change of the metadata that is left out changes nothing one can see
      have same : (tracker.get c.document.key).map CoreQuery.Matching.look =
          (new.get c.document.key).map CoreQuery.Matching.look := by
        obtain ⟨d, type⟩ := c
        obtain rfl : type = .metadata := skip.2
        obtain ⟨⟨o, e, value⟩, en⟩ := netc
        rw [e, en]
        have key := IndexedSet.key_of_get e
        exact congrArg some (Prod.ext key value)
      obtain ⟨cs, final, e, edits, alike⟩ := ih once'
        (fun c' mem => net c' (List.mem_cons_of_mem _ mem)) (by
          intro k no
          by_cases h : k = c.document.key
          · rw [h]
            exact same
          · apply others
            intro c' mem
            rcases List.mem_cons.1 mem with rfl | mem
            · exact fun h' => h h'.symm
            · exact no c' mem)
      exact ⟨cs, final, by rw [laterChanges, if_pos skip, e], edits, alike⟩
    · obtain ⟨change, tracker', ec, sorted, get⟩ := laterChange_spec (s := s) netc
      obtain ⟨cs, final, e, edits, alike⟩ := @ih tracker' once' (by
        intro c' mem
        rw [get, if_neg (ne c' mem).symm]
        exact net c' (List.mem_cons_of_mem _ mem)) (by
        intro k no
        rw [get]
        split
        case isTrue h => rw [h]
        case isFalse h =>
          apply others
          intro c' mem
          rcases List.mem_cons.1 mem with rfl | mem
          · exact fun h' => h h'.symm
          · exact no c' mem)
      refine ⟨change :: cs, final, ?_, ?_, alike⟩
      · rw [laterChanges, if_neg skip, ec]
        dsimp only [bind, Except.bind]
        rw [e]
        rfl
      · rw [List.foldl_cons, ← sorted]
        exact edits

/-- The changes of a first snapshot build its documents up from the front. -/
lemma firstChanges_spec {changes : List (DocumentViewChange q)} {before : List q.Matching}
    (added : ∀ c ∈ changes, c.type = .added)
    (ascending : Ascending CoreQuery.Matching.compare
      (before ++ changes.map DocumentViewChange.document)) :
    ∃ cs, s.firstChanges before.getLast? before.length changes = .ok cs ∧
      cs.foldl DocumentChange.edit before =
        before ++ changes.map DocumentViewChange.document := by
  induction changes generalizing before with
  | nil => exact ⟨[], rfl, (List.append_nil _).symm⟩
  | cons c changes ih =>
    have first : (before.getLast?.any fun last => last.compare c.document != .lt) = false := by
      cases e : before.getLast? with
      | none => rfl
      | some last =>
        rw [Option.any_some, bne_eq_false_iff_eq]
        exact (List.pairwise_append.1 ascending).2.2 last (List.mem_of_getLast? e) c.document
          List.mem_cons_self
    have next : Ascending CoreQuery.Matching.compare
        ((before ++ [c.document]) ++ changes.map DocumentViewChange.document) := by
      rw [List.append_assoc]
      exact ascending
    obtain ⟨cs, e, edits⟩ := ih (fun c' mem => added c' (List.mem_cons_of_mem _ mem)) next
    rw [List.getLast?_concat, List.length_append, List.length_singleton] at e
    refine ⟨⟨.added, s.documentSnapshot c.document, none, some before.length⟩ :: cs, ?_, ?_⟩
    · rw [firstChanges, if_neg (fun h => h (added c List.mem_cons_self)), first,
        if_neg Bool.false_ne_true, e]
      rfl
    · rw [List.foldl_cons]
      change cs.foldl DocumentChange.edit (before.insertIdx before.length c.document) = _
      rw [List.insertIdx_length_self, edits, List.append_assoc]
      rfl

/-- The changes of the API never stop the client, and a list that follows them, however it has shown
    the documents before, shows those of the snapshot. -/
lemma forEachChange_eq (faithful : s.Faithful) (includeMetadataChanges : Bool)
    (asked : ¬ (includeMetadataChanges = true ∧ s.excludesMetadataChanges = true)) :
    ∃ cs final, s.forEachChange includeMetadataChanges = .ok cs ∧
      cs.foldl DocumentChange.edit s.oldDocuments.sorted = IndexedSet.sorted final ∧
      Alike final s.documents := by
  obtain ⟨changes, tells, mem⟩ := faithful.tells
  have once : s.documentChanges.Pairwise fun a b => a.document.key ≠ b.document.key := by
    apply faithful.ascending.imp_of_mem
    intro a b mema memb lt h
    have e := (mem a).1 mema
    rw [h, (mem b).1 memb] at e
    cases e
    have eq : View.changeCompare a a = .eq := Std.ReflCmp.compare_self
    rw [eq] at lt
    cases lt
  have net : ∀ c ∈ s.documentChanges, DocumentViewChange.Net (s.oldDocuments.get c.document.key)
      (s.documents.get c.document.key) (some c) := by
    intro c memc
    have h := tells c.document.key
    rw [(mem c).1 memc] at h
    exact h
  have others (k : DocumentKey) (no : ∀ c ∈ s.documentChanges, c.document.key ≠ k) :
      s.oldDocuments.get k = s.documents.get k := by
    have h := tells k
    cases e : changes.get k with
    | none =>
      rw [e] at h
      exact h
    | some c =>
      have key := DocumentViewChangeSet.key_of_tells tells e
      rw [← key] at e
      exact absurd key (no c ((mem c).2 e))
  rw [forEachChange, if_neg asked]
  by_cases empty : s.oldDocuments.sorted.isEmpty = true
  · rw [if_pos empty]
    have none_ (k : DocumentKey) : s.oldDocuments.get k = none := by
      cases e : s.oldDocuments.get k with
      | none => rfl
      | some d =>
        have memd := IndexedSet.mem_sorted_iff_get.2 ⟨k, e⟩
        rw [List.isEmpty_iff.1 empty] at memd
        cases memd
    have added : ∀ c ∈ s.documentChanges, c.type = .added := by
      intro c memc
      have h := net c memc
      rw [none_] at h
      obtain ⟨d, type⟩ := c
      cases type with
      | added => rfl
      | removed =>
        obtain ⟨⟨o, e, _⟩, _⟩ := h
        cases e
      | modified => cases h.1
      | metadata =>
        obtain ⟨⟨o, e, _⟩, _⟩ := h
        cases e
    have ascending : Ascending CoreQuery.Matching.compare
        (s.documentChanges.map DocumentViewChange.document) := by
      apply List.pairwise_map.2
      apply faithful.ascending.imp_of_mem
      intro a b mema memb lt
      rw [View.changeCompare, compareLex, compareOn, added a mema, added b memb,
        Std.ReflOrd.compare_self] at lt
      exact lt
    obtain ⟨cs, e, edits⟩ := @firstChanges_spec _ s _ [] added ascending
    refine ⟨cs, s.documents, e, ?_, fun k => rfl⟩
    rw [List.isEmpty_iff.1 empty, edits, List.nil_append]
    apply ascending.eq_of_mem s.documents.ascending
    intro d
    rw [List.mem_map, IndexedSet.mem_sorted_iff]
    constructor
    · rintro ⟨c, memc, rfl⟩
      have h := net c memc
      obtain ⟨d, type⟩ := c
      obtain rfl : type = .added := added _ memc
      exact h.2
    · intro e'
      have h := tells d.key
      rw [none_, e'] at h
      cases ec : changes.get d.key with
      | none =>
        rw [ec] at h
        cases h
      | some c =>
        rw [ec] at h
        have key := DocumentViewChangeSet.key_of_tells tells ec
        rw [← key] at ec
        have memc := (mem c).2 ec
        refine ⟨c, memc, ?_⟩
        obtain ⟨d', type⟩ := c
        obtain rfl : type = .added := added _ memc
        exact (Option.some.inj h.2).symm
  · rw [if_neg empty]
    exact laterChanges_spec once net fun k no => by rw [others k no]

/-- A change of a first snapshot is not one of the metadata alone. -/
lemma type_of_empty (faithful : s.Faithful) (empty : s.oldDocuments.sorted.isEmpty = true)
    {c : DocumentViewChange q} (mem : c ∈ s.documentChanges) : c.type ≠ .metadata := by
  intro h
  obtain ⟨changes, tells, mem_⟩ := faithful.tells
  have net := tells c.document.key
  rw [(mem_ c).1 mem] at net
  obtain ⟨d, type⟩ := c
  obtain rfl : type = .metadata := h
  obtain ⟨⟨o, e, _⟩, _⟩ := net
  have memo := IndexedSet.mem_sorted_iff_get.2 ⟨_, e⟩
  rw [List.isEmpty_iff.1 empty] at memo
  cases memo

/-- The changes of a first snapshot do not depend on its metadata changes. -/
lemma firstChanges_withoutMetadataChanges {changes : List (DocumentViewChange q)}
    {last : Option q.Matching} {index : Nat} :
    s.withoutMetadataChanges.firstChanges last index changes = s.firstChanges last index changes := by
  induction changes generalizing last index with
  | nil => rfl
  | cons c changes ih =>
    rw [firstChanges, firstChanges, ih]
    rfl

/-- Leaving out changes of metadata first makes no difference. -/
lemma laterChanges_filter {changes : List (DocumentViewChange q)} {tracker : DocumentSet q} :
    s.withoutMetadataChanges.laterChanges false tracker
      (changes.filter fun c => c.type != .metadata) = s.laterChanges false tracker changes := by
  induction changes generalizing tracker with
  | nil => rfl
  | cons c changes ih =>
    by_cases h : c.type = .metadata
    · rw [List.filter_cons_of_neg (by simp [h]), laterChanges, if_pos ⟨rfl, h⟩, ih]
    · rw [List.filter_cons_of_pos (by simp [h]), laterChanges, laterChanges,
        if_neg (fun h' => h h'.2), if_neg (fun h' => h h'.2)]
      simp only [ih]
      rfl

/-- A snapshot without the changes of the metadata has the same changes for the app. -/
lemma forEachChange_withoutMetadataChanges (faithful : s.Faithful) :
    s.withoutMetadataChanges.forEachChange false = s.forEachChange false := by
  have asked (b : Bool) : ¬ (false = true ∧ b = true) := fun h => Bool.false_ne_true h.1
  rw [forEachChange, forEachChange, if_neg (asked _), if_neg (asked _)]
  change (if s.oldDocuments.sorted.isEmpty = true then _ else _) = _
  split
  case isTrue empty =>
    have all : s.withoutMetadataChanges.documentChanges = s.documentChanges := by
      apply List.filter_eq_self.2
      intro c mem
      exact bne_iff_ne.2 (type_of_empty faithful empty mem)
    rw [all, firstChanges_withoutMetadataChanges]
  case isFalse => exact laterChanges_filter

/-! ## Following the changes by the looks -/

/-- What a list that shows only the looks does about a change. -/
def editLook (l : List (DocumentKey × ObjectValue)) (c : DocumentChange q) :
    List (DocumentKey × ObjectValue) :=
  let taken := match c.oldIndex with
    | some i => l.eraseIdx i
    | none => l
  match c.newIndex with
  | some i => taken.insertIdx i c.document.document.look
  | none => taken

/-- A change edits what is seen as it edits the documents. -/
lemma map_edit {l : List q.Matching} {c : DocumentChange q} :
    (c.edit l).map CoreQuery.Matching.look = editLook (l.map CoreQuery.Matching.look) c := by
  rw [DocumentChange.edit, editLook]
  cases c.oldIndex <;> cases c.newIndex <;>
    simp only [List.map_insertIdx, List.eraseIdx_map]

/-- So do several changes. -/
lemma map_foldl_edit {l : List q.Matching} {cs : List (DocumentChange q)} :
    (cs.foldl DocumentChange.edit l).map CoreQuery.Matching.look =
      cs.foldl editLook (l.map CoreQuery.Matching.look) := by
  induction cs generalizing l with
  | nil => rfl
  | cons c cs ih => rw [List.foldl_cons, List.foldl_cons, ih, map_edit]

/-- The changes of a snapshot, as the app asks for them, lead from the looks of the documents before
    to those after. -/
lemma forEachChange_looks (faithful : s.Faithful) :
    ∃ cs, s.forEachChange false = .ok cs ∧
      cs.foldl editLook (s.oldDocuments.sorted.map CoreQuery.Matching.look) =
        s.documents.sorted.map CoreQuery.Matching.look := by
  obtain ⟨cs, final, e, edits, alike⟩ := forEachChange_eq faithful false
    fun h => Bool.false_ne_true h.1
  refine ⟨cs, e, ?_⟩
  rw [← map_foldl_edit, edits]
  exact DocumentSet.map_look_eq alike

/-- The snapshot in which all documents have been added is faithful. -/
lemma faithful_fromInitialDocuments {documents : DocumentSet q} {mutatedKeys : DocumentKeySet}
    {fromCache excludesMetadataChanges : Bool} :
    (fromInitialDocuments documents mutatedKeys fromCache excludesMetadataChanges).Faithful := by
  let changes : DocumentViewChangeSet q :=
    SortedTable.collect (fun k => (documents.get k).map fun d => ⟨d, .added⟩)
      (documents.sorted.map CoreQuery.Matching.key)
  have get (k : DocumentKey) : changes.get k = (documents.get k).map fun d => ⟨d, .added⟩ := by
    rw [SortedTable.get_collect]
    split
    case isTrue => rfl
    case isFalse no =>
      cases e : documents.get k with
      | none => rfl
      | some d =>
        refine absurd ?_ no
        exact List.mem_map.2 ⟨d, IndexedSet.mem_sorted_iff_get.2 ⟨k, e⟩, IndexedSet.key_of_get e⟩
  constructor
  · apply List.pairwise_map.2
    apply documents.ascending.imp
    intro a b lt
    rw [View.changeCompare, compareLex, compareOn, Std.ReflOrd.compare_self]
    exact lt
  · refine ⟨changes, ?_, ?_⟩
    · intro k
      change DocumentViewChange.Net none (documents.get k) _
      rw [get]
      cases documents.get k with
      | none => rfl
      | some d => exact ⟨rfl, rfl⟩
    · intro c
      rw [get]
      change c ∈ documents.sorted.map _ ↔ _
      rw [List.mem_map, Option.map_eq_some_iff]
      constructor
      · rintro ⟨d, mem, rfl⟩
        exact ⟨d, IndexedSet.mem_sorted_iff.1 mem, rfl⟩
      · rintro ⟨d, e, rfl⟩
        exact ⟨d, IndexedSet.mem_sorted_iff_get.2 ⟨_, e⟩, rfl⟩

end ViewSnapshot

end Lumiere.Firestore.Client

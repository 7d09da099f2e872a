import Lumiere.Client.LocalDocuments

/-!
# The query engine

The documents of a query in the local view. The plain way is to scan the collection; a query that
the server has answered before can start from the documents it returned then, `remoteKeys`, and add
those added to the cache since, and those with an overlay (`GetDocumentsMatchingQuery`). The scan
returns exactly the documents that match in the local view (`scan_spec`). The other way returns a
part of these (`getDocumentsMatchingQuery_spec`), and the two agree exactly when no document that
matches is left out: when each was returned before, has an overlay or was added since.
-/

namespace Lumiere.Firestore.Client

/-- Documents of a query, by key and in the order of the query. -/
abbrev DocumentSet (q : CoreQuery) := IndexedSet (CoreQuery.Matching.key (q := q)) CoreQuery.Matching.compare

namespace LocalDocumentsView

variable {v : LocalDocumentsView} {query : CoreQuery}

/-- A query for a document is for the document at its path. -/
lemma matches_documentQuery (doc : query.isDocumentQuery = true) {d : MutableDocument} :
    query.matches d = true ↔ d.isFoundDocument = true ∧ query.path = d.key.path := by
  have none_ : query.explicitOrderBys = [] := query.orders (beq_iff_eq.1 doc)
  rw [CoreQuery.matches, CoreQuery.matchesPath, if_pos doc, CoreQuery.matchesOrderBy, none_,
    List.all_nil, Bool.and_true, Bool.and_eq_true, beq_iff_eq]

/-- What a query of a collection asks for is a document of the collection. -/
lemma collection_of_matches (col : query.isDocumentQuery = false) {d : MutableDocument}
    (m : query.matches d = true) : d.isFoundDocument = true ∧ d.key.collection = query.path := by
  rw [CoreQuery.matches, Bool.and_eq_true, Bool.and_eq_true, CoreQuery.matchesPath, col] at m
  exact ⟨m.1.1, beq_iff_eq.1 m.1.2⟩

/-- The document of a document query is the one at its path. -/
lemma matchingDocumentQuery_spec (cv : v.Consistent) (doc : query.isDocumentQuery = true)
    {key : DocumentKey} (path : query.path = key.path) {k : DocumentKey} {d : MutableDocument} :
    (v.getDocumentsMatchingDocumentQuery key).get k = some d ↔
      d = v.localView k ∧ query.matches d = true := by
  rw [matches_documentQuery doc, getDocumentsMatchingDocumentQuery, getDocument_eq cv]
  by_cases found : (v.localView key).isFoundDocument = true
  · rw [if_pos found, SortedTable.get_put, key_localView]
    by_cases e : k = key
    · rw [if_pos e, e]
      constructor
      · intro h
        cases h
        exact ⟨rfl, found, by rw [key_localView, path]⟩
      · rintro ⟨rfl, _⟩
        rfl
    · rw [if_neg e]
      constructor
      · intro h
        cases h
      · rintro ⟨rfl, _, e'⟩
        rw [key_localView, path] at e'
        exact absurd (DocumentKey.path_inj e').symm e
  · rw [if_neg found]
    constructor
    · intro h
      cases h
    · rintro ⟨rfl, found', e'⟩
      rw [key_localView, path] at e'
      rw [← DocumentKey.path_inj e'] at found'
      exact absurd found' found

/-- A document whose base the cache has returned, or for which only an overlay stands. -/
lemma overlayed_eq_localView (cv : v.Consistent) {k : DocumentKey} {base : MutableDocument}
    (h : v.remoteDocumentCache.documents.get k = some base ∨
      base = .invalidDocument k ∧ (v.documentOverlayCache.getOverlay k).isSome = true) :
    overlayed (v.documentOverlayCache.getOverlay k) base = v.localView k := by
  rw [localView_eq cv]
  rcases h with e | ⟨rfl, ov⟩
  · rw [RemoteDocumentCache.get, e]
    rfl
  · obtain ⟨o, eo⟩ := Option.isSome_iff_exists.1 ov
    rw [eo]
    exact overlayed_some RemoteDocumentCache.key_get.symm

/-- What is found for a query on a collection when the cache returns the documents of the
    collection that exist and meet a condition. -/
lemma matchingCollectionQuery_eq (cv : v.Consistent) (col : query.isDocumentQuery = false)
    (offset : IndexOffset) (all : offset.largestBatchId = -1) {p : DocumentKey → Prop}
    (getAll : ∀ k d, (v.remoteDocumentCache.getAllIn query.path offset).get k = some d ↔
      v.remoteDocumentCache.documents.get k = some d ∧ k.collection = query.path ∧
        d.isFoundDocument = true ∧ p k) :
    ∃ m, v.getDocumentsMatchingQuery query offset = some m ∧ ∀ k d, m.get k = some d ↔
      d = v.localView k ∧ query.matches d = true ∧
        (p k ∨ (v.documentOverlayCache.getOverlay k).isSome = true) := by
  obtain ⟨m, e, get⟩ := matchingCollectionQuery_spec cv query all
  refine ⟨m, ?_, ?_⟩
  · rw [getDocumentsMatchingQuery, if_neg (by rw [col]; exact Bool.false_ne_true), e]
  · intro k d
    rw [get]
    constructor
    · rintro ⟨base, h | ⟨_, inv, kcol, ov⟩, ed, m⟩
      · obtain ⟨e', kcol, _, pk⟩ := (getAll k base).1 h
        rw [if_pos kcol, overlayed_eq_localView cv (.inl e')] at ed
        exact ⟨ed, m, .inl pk⟩
      · rw [if_pos kcol, overlayed_eq_localView cv (.inr ⟨inv, ov⟩)] at ed
        exact ⟨ed, m, .inr ov⟩
    · rintro ⟨rfl, m, h⟩
      have kcol := (collection_of_matches col m).2
      rw [key_localView] at kcol
      rw [if_pos kcol]
      cases eb : (v.remoteDocumentCache.getAllIn query.path offset).get k with
      | some base =>
        have e' := ((getAll k base).1 eb).1
        exact ⟨base, .inl rfl, (overlayed_eq_localView cv (.inl e')).symm, m⟩
      | none =>
        by_cases ov : (v.documentOverlayCache.getOverlay k).isSome = true
        · exact ⟨_, .inr ⟨rfl, rfl, kcol, ov⟩, (overlayed_eq_localView cv (.inr ⟨rfl, ov⟩)).symm, m⟩
        · -- without an overlay the cached document itself matches
          exfalso
          have none_ : v.documentOverlayCache.getOverlay k = none :=
            Option.isNone_iff_eq_none.1 (Option.isSome_eq_false_iff.1 (Bool.not_eq_true _ ▸ ov))
          have view : v.localView k = v.remoteDocumentCache.get k := by
            rw [localView_eq cv, none_]
            rfl
          have found := (collection_of_matches col m).1
          rw [view] at found
          rw [(getAll k _).2 ⟨RemoteDocumentCache.get_isFoundDocument found, kcol, found,
            h.resolve_right ov⟩] at eb
          cases eb

/-- A scan finds exactly the documents that match in the local view. -/
lemma scan_spec (cv : v.Consistent) (query : CoreQuery) :
    ∃ m, v.getDocumentsMatchingQuery query .none = some m ∧ ∀ k d, m.get k = some d ↔
      d = v.localView k ∧ query.matches d = true := by
  by_cases doc : query.isDocumentQuery = true
  · cases e : query.path.getLast? with
    | none =>
      refine ⟨SortedTable.empty, ?_, ?_⟩
      · rw [getDocumentsMatchingQuery, if_pos doc, e]
        rfl
      · intro k d
        rw [matches_documentQuery doc, List.getLast?_eq_none_iff.1 e]
        constructor
        · intro h
          cases h
        · rintro ⟨_, _, e'⟩
          exact absurd e'.symm (List.concat_ne_nil _ _)
    | some id =>
      refine ⟨v.getDocumentsMatchingDocumentQuery ⟨query.path.dropLast, id⟩, ?_, ?_⟩
      · rw [getDocumentsMatchingQuery, if_pos doc, e]
        rfl
      · intro k d
        apply matchingDocumentQuery_spec cv doc
        exact (List.dropLast_append_getLast? id e).symm
  · rw [Bool.not_eq_true] at doc
    obtain ⟨m, e, get⟩ := matchingCollectionQuery_eq cv doc .none rfl
      (p := fun _ => True) fun k d => by
        rw [RemoteDocumentCache.getAllIn, if_neg (fun h => h rfl), RemoteDocumentCache.get_getAllScan]
        simp
    refine ⟨m, e, ?_⟩
    intro k d
    rw [get]
    simp

/-- A document of the collection was added to the cache after a time. -/
def AddedSince (v : LocalDocumentsView) (readTime : SnapshotVersion) (k : DocumentKey) : Prop :=
  ∃ t, readTime < t ∧ (v.remoteDocumentCache.readTimes.get ⟨k.collection, t, k.id⟩).isSome = true

/-- The two views have the same overlays and times. -/
lemma SameView.getOverlay {v' : LocalDocumentsView} (same : SameView v v') (cv : v.Consistent)
    {k : DocumentKey} :
    v'.documentOverlayCache.getOverlay k = v.documentOverlayCache.getOverlay k := by
  rw [same.consistent.overlays, cv.overlays, same.queue]

/-- The same documents have been added since a time. -/
lemma SameView.addedSince {v' : LocalDocumentsView} (same : SameView v v')
    {readTime : SnapshotVersion} {k : DocumentKey} :
    v'.AddedSince readTime k ↔ v.AddedSince readTime k := by
  rw [AddedSince, AddedSince, same.remote]

/-- From a time on, what is found are the documents that match in the local view and have an overlay
    or were added since. -/
lemma since_spec (cv : v.Consistent) (col : query.isDocumentQuery = false)
    (readTime : SnapshotVersion) :
    ∃ m, v.getDocumentsMatchingQuery query (.create readTime) = some m ∧ ∀ k d, m.get k = some d ↔
      d = v.localView k ∧ query.matches d = true ∧
        (v.AddedSince readTime k ∨ (v.documentOverlayCache.getOverlay k).isSome = true) := by
  apply matchingCollectionQuery_eq cv col _ rfl
  intro k d
  have ne : (IndexOffset.create readTime).readTime ≠ 0 := Nat.succ_ne_zero readTime
  rw [RemoteDocumentCache.getAllIn, if_pos ne, RemoteDocumentCache.get_getAllSince]
  constructor
  · rintro ⟨e, found, kcol, since⟩
    exact ⟨e, kcol, found, by rw [AddedSince, kcol]; exact since⟩
  · rintro ⟨e, kcol, found, since⟩
    rw [AddedSince, kcol] at since
    exact ⟨e, found, kcol, since⟩

end LocalDocumentsView

/-! ## The engine -/

namespace QueryEngine
open LocalDocumentsView

/-- The documents that match, in the order of the query. -/
def applyQuery (query : CoreQuery) (documents : DocumentMap) : DocumentSet query :=
  documents.rows.foldl
    (fun s r => if h : query.matches r.2 = true then s.insert ⟨r.2, h⟩ else s) IndexedSet.empty

/-- Whether documents that were not returned before may have moved into the limit. -/
def needsRefill {query : CoreQuery} (sortedPreviousResults : DocumentSet query)
    (remoteKeys : List DocumentKey) (limboFreeSnapshotVersion : SnapshotVersion) : Bool :=
  if remoteKeys.length ≠ sortedPreviousResults.size then true
  else
    match if query.limitType = .first then sortedPreviousResults.sorted.getLast?
      else sortedPreviousResults.sorted.head? with
    | none => false
    | some edge =>
      edge.1.hasPendingWrites || decide (limboFreeSnapshotVersion < edge.1.version)

/-- All documents of the collection are looked at. -/
def executeFullCollectionScan (v : LocalDocumentsView) (query : CoreQuery) : Option DocumentMap :=
  v.getDocumentsMatchingQuery query .none

/-- The documents of a query: by a scan, or from those returned up to the last time without
    documents in limbo. -/
def getDocumentsMatchingQuery (v : LocalDocumentsView) (query : CoreQuery)
    (lastLimboFreeSnapshotVersion : SnapshotVersion) (remoteKeys : List DocumentKey) :
    Option (DocumentMap × LocalDocumentsView) :=
  if query.matchesAllDocuments ∨ lastLimboFreeSnapshotVersion = 0 then
    (executeFullCollectionScan v query).map (·, v)
  else
    match v.getDocuments remoteKeys with
    | none => none
    | some (documents, v) =>
      let previousResults := applyQuery query documents
      if query.limitType ≠ .none ∧
          needsRefill previousResults remoteKeys lastLimboFreeSnapshotVersion then
        (executeFullCollectionScan v query).map (·, v)
      else
        (v.getDocumentsMatchingQuery query (.create lastLimboFreeSnapshotVersion)).map
          fun updatedResults =>
            (previousResults.sorted.foldl (fun m d => m.put d.key d.1) updatedResults, v)

variable {v : LocalDocumentsView} {query : CoreQuery}

/-- The set of the documents that match has each of them under its key. -/
lemma get_applyQuery {documents : DocumentMap} (names : documents.Named) {k : DocumentKey}
    {d : query.Matching} :
    (applyQuery query documents).get k = some d ↔ documents.get k = some d.1 := by
  have h : ∀ (rows : List (DocumentKey × MutableDocument)) (s : DocumentSet query),
      (∀ r ∈ rows, r.2.key = r.1) → rows.Pairwise (fun a b => a.1 ≠ b.1) →
      ((rows.foldl (fun s r => if h : query.matches r.2 = true then s.insert ⟨r.2, h⟩ else s)
        s).get k = some d ↔ (k, d.1) ∈ rows ∨
          (∀ r ∈ rows, r.1 = k → query.matches r.2 = false) ∧ s.get k = some d) := by
    intro rows
    induction rows with
    | nil => intro s _ _; simp
    | cons r rows ih =>
      intro s named once
      obtain ⟨ne, once'⟩ := List.pairwise_cons.1 once
      have name := named r List.mem_cons_self
      rw [List.foldl_cons, ih _ (fun r' mem => named r' (List.mem_cons_of_mem _ mem)) once']
      by_cases m : query.matches r.2 = true
      · rw [dif_pos m, IndexedSet.get_insert]
        change _ ∨ _ ∧ (if k = r.2.key then _ else _) = _ ↔ _
        rw [name]
        by_cases e : k = r.1
        · rw [if_pos e]
          constructor
          · rintro (mem | ⟨_, e'⟩)
            · exact absurd e.symm (ne _ mem)
            · cases e'
              rw [e]
              exact .inl List.mem_cons_self
          · rintro (mem | ⟨no, _⟩)
            · rcases List.mem_cons.1 mem with e' | mem
              · refine .inr ⟨fun r' mem' e'' => absurd (e.symm.trans e''.symm) (ne r' mem'), ?_⟩
                cases e'
                rfl
              · exact absurd e.symm (ne _ mem)
            · have no' := no r List.mem_cons_self e.symm
              rw [m] at no'
              cases no'
        · rw [if_neg e, List.mem_cons, List.forall_mem_cons]
          constructor
          · rintro (mem | ⟨no, e'⟩)
            · exact .inl (.inr mem)
            · exact .inr ⟨⟨fun e'' => absurd e''.symm e, no⟩, e'⟩
          · rintro ((e' | mem) | ⟨no, e'⟩)
            · cases e'
              exact absurd rfl e
            · exact .inl mem
            · exact .inr ⟨no.2, e'⟩
      · rw [dif_neg m, List.mem_cons, List.forall_mem_cons]
        constructor
        · rintro (mem | ⟨no, e'⟩)
          · exact .inl (.inr mem)
          · exact .inr ⟨⟨fun _ => Bool.eq_false_iff.2 m, no⟩, e'⟩
        · rintro ((e' | mem) | ⟨no, e'⟩)
          · cases e'
            exact absurd d.2 m
          · exact .inl mem
          · exact .inr ⟨no.2, e'⟩
  rw [applyQuery, h, SortedTable.get_eq_some]
  · constructor
    · rintro (mem | ⟨_, e⟩)
      · exact mem
      · cases e
    · exact .inl
  · intro r mem
    exact names (SortedTable.get_eq_some.2 mem)
  · exact documents.distinct_rows

/-- Adding the documents of a set to a table. -/
lemma get_foldl_put_sorted {s : DocumentSet query} {m : DocumentMap} {k : DocumentKey}
    {d : MutableDocument} :
    (s.sorted.foldl (fun m d => m.put d.key d.1) m).get k = some d ↔
      (∃ a, s.get k = some a ∧ a.1 = d) ∨ s.get k = none ∧ m.get k = some d := by
  have e : s.sorted.foldl (fun m d => m.put d.key d.1) m =
      (s.sorted.map fun d => (d.key, d.1)).foldl (fun m r => m.put r.2.key r.2) m := by
    rw [List.foldl_map]
    rfl
  rw [e, RemoteDocumentCache.get_foldl_put_key]
  · apply or_congr
    · rw [List.mem_map]
      constructor
      · rintro ⟨a, mem, e'⟩
        cases e'
        exact ⟨a, IndexedSet.mem_sorted_iff.1 mem, rfl⟩
      · rintro ⟨a, ea, rfl⟩
        refine ⟨a, IndexedSet.mem_sorted_iff_get.2 ⟨k, ea⟩, ?_⟩
        rw [IndexedSet.key_of_get ea]
    · apply and_congr_left'
      rw [List.forall_mem_map]
      constructor
      · intro no
        cases e' : s.get k with
        | none => rfl
        | some a =>
          exact absurd (IndexedSet.key_of_get e') (no a (IndexedSet.mem_sorted_iff_get.2 ⟨k, e'⟩))
      · rintro no a mem rfl
        rw [IndexedSet.mem_sorted_iff.1 mem] at no
        cases no
  · intro r mem
    obtain ⟨a, _, rfl⟩ := List.mem_map.1 mem
    rfl
  · intro r mem1 r' mem2 e'
    obtain ⟨a, mema, rfl⟩ := List.mem_map.1 mem1
    obtain ⟨b, memb, rfl⟩ := List.mem_map.1 mem2
    exact congrArg Subtype.val (IndexedSet.eq_of_key mema memb e')

/-- Nothing that matches is left out among the documents returned before, those with an overlay and
    those added since. -/
def Covers (v : LocalDocumentsView) (query : CoreQuery) (readTime : SnapshotVersion)
    (remoteKeys : List DocumentKey) : Prop :=
  ∀ k, query.matches (v.localView k) = true →
    k ∈ remoteKeys ∨ v.AddedSince readTime k ∨ (v.documentOverlayCache.getOverlay k).isSome = true

/-- What the documents found from a time on are. -/
lemma since_found (cv : v.Consistent) (query : CoreQuery) (readTime : SnapshotVersion) :
    ∃ m, v.getDocumentsMatchingQuery query (.create readTime) = some m ∧
      (∀ k d, m.get k = some d → d = v.localView k ∧ query.matches d = true) ∧
      ∀ k, query.matches (v.localView k) = true →
        v.AddedSince readTime k ∨ (v.documentOverlayCache.getOverlay k).isSome = true →
        m.get k = some (v.localView k) := by
  by_cases doc : query.isDocumentQuery = true
  · -- one document is looked up, whatever the offset
    obtain ⟨m, e, get⟩ := scan_spec cv query
    refine ⟨m, ?_, fun k d => (get k d).1, fun k m _ => (get k _).2 ⟨rfl, m⟩⟩
    rw [LocalDocumentsView.getDocumentsMatchingQuery, if_pos doc] at e ⊢
    exact e
  · obtain ⟨m, e, get⟩ := since_spec cv (Bool.not_eq_true _ ▸ doc) readTime
    refine ⟨m, e, ?_, fun k m h => (get k _).2 ⟨rfl, m, h⟩⟩
    intro k d e'
    obtain ⟨ed, m, _⟩ := (get k d).1 e'
    exact ⟨ed, m⟩

/-- The engine returns documents that match in the local view, and all of them when it scans or when
    none is left out. -/
lemma getDocumentsMatchingQuery_spec (cv : v.Consistent) (query : CoreQuery)
    (readTime : SnapshotVersion) (remoteKeys : List DocumentKey) :
    ∃ m v', getDocumentsMatchingQuery v query readTime remoteKeys = some (m, v') ∧ SameView v v' ∧
      (∀ k d, m.get k = some d → d = v.localView k ∧ query.matches d = true) ∧
      (readTime = 0 ∨ Covers v query readTime remoteKeys →
        ∀ k, query.matches (v.localView k) = true → m.get k = some (v.localView k)) := by
  have full (v' : LocalDocumentsView) (same : SameView v v') :
      ∃ m, executeFullCollectionScan v' query = some m ∧ ∀ k d, m.get k = some d ↔
        d = v.localView k ∧ query.matches d = true := by
    obtain ⟨m, e, get⟩ := scan_spec same.consistent query
    refine ⟨m, e, ?_⟩
    intro k d
    rw [get, same.localView]
  have self : SameView v v := ⟨rfl, rfl, cv⟩
  rw [getDocumentsMatchingQuery]
  split
  case isTrue =>
    obtain ⟨m, e, get⟩ := full v self
    refine ⟨m, v, by rw [e]; rfl, self, fun k d => (get k d).1, ?_⟩
    intro _ k m
    exact (get k _).2 ⟨rfl, m⟩
  case isFalse reuse =>
    obtain ⟨documents, v', ed, same, getd⟩ := getDocuments_spec cv remoteKeys
    have names : documents.Named := by
      intro k d e
      rw [getd] at e
      split at e
      case isTrue =>
        cases e
        exact key_localView
      case isFalse => cases e
    rw [ed]
    dsimp only
    split
    case isTrue =>
      obtain ⟨m, e, get⟩ := full v' same
      refine ⟨m, v', by rw [e]; rfl, same, fun k d => (get k d).1, ?_⟩
      intro _ k m
      exact (get k _).2 ⟨rfl, m⟩
    case isFalse =>
      obtain ⟨m, e, sound, complete⟩ := since_found same.consistent query
        readTime
      refine ⟨_, v', by rw [e]; rfl, same, ?_, ?_⟩
      · intro k d e'
        rcases get_foldl_put_sorted.1 e' with ⟨a, ea, rfl⟩ | ⟨_, e''⟩
        · rw [get_applyQuery names, getd] at ea
          split at ea
          case isTrue =>
            have h := Option.some.inj ea
            exact ⟨h.symm, a.2⟩
          case isFalse => cases ea
        · have h := sound k d e''
          rw [same.localView] at h
          exact h
      · intro covers k m
        rw [get_foldl_put_sorted]
        by_cases mem : k ∈ remoteKeys
        · refine .inl ⟨⟨v.localView k, m⟩, ?_, rfl⟩
          rw [get_applyQuery names, getd, if_pos mem]
        · have gone : (applyQuery query documents).get k = none := by
            cases e' : (applyQuery query documents).get k with
            | none => rfl
            | some a =>
              rw [get_applyQuery names, getd, if_neg mem] at e'
              cases e'
          have h := ((covers.resolve_left fun z => reuse (.inr z)) k m).resolve_left mem
          have h' := complete k (same.localView ▸ m) (h.imp same.addedSince.2 fun ov => by
            rw [same.getOverlay cv]
            exact ov)
          rw [same.localView] at h'
          exact .inr ⟨gone, h'⟩

end QueryEngine

end Lumiere.Firestore.Client

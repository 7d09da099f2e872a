import Lumiere.Client.OverlayCache

/-!
# The cache of remote documents

The documents as the server has sent or acknowledged them, each under its own key, and an index of
the times at which they were added. `getAll` of a collection is one of two loops over the database:
over the documents, or, when only documents added after some time are wanted, over the index. Both
return every document of the collection that they should and no other (`get_getAllScan`,
`get_getAllSince`).
-/

namespace Lumiere.Firestore.Client

/-- Documents under their keys. -/
abbrev DocumentMap := SortedTable DocumentKey MutableDocument

namespace DocumentMap

/-- Every document stands under its own key. -/
def Named (docs : DocumentMap) : Prop :=
  ∀ {k d}, docs.get k = some d → d.key = k

/-- No document is under a wrong key where there is none. -/
lemma empty_named : Named SortedTable.empty := by
  intro k d e
  cases e

end DocumentMap

/-- The key of a row of the index by time: the collection, the time, the document. -/
abbrev RemoteDocumentReadTimeKey := CollectionRowKey

/-- Where to begin among the documents of a collection. -/
structure IndexOffset where
  readTime : SnapshotVersion
  documentKey : List String
  largestBatchId : Int

namespace IndexOffset

/-- Before all documents. -/
def none : IndexOffset :=
  ⟨0, [], -1⟩

/-- Behind all documents added up to a time. -/
def create (readTime : SnapshotVersion) : IndexOffset :=
  ⟨readTime + 1, [], -1⟩

end IndexOffset

/-- The documents of the server under their keys, and when they were added. -/
structure RemoteDocumentCache where
  documents : DocumentMap
  readTimes : SortedTable RemoteDocumentReadTimeKey Unit
  named : documents.Named

namespace RemoteDocumentCache

/-- The cache without documents. -/
def empty : RemoteDocumentCache :=
  ⟨SortedTable.empty, SortedTable.empty, DocumentMap.empty_named⟩

/-- The document of a key; one that the cache does not have is invalid. -/
def get (c : RemoteDocumentCache) (key : DocumentKey) : MutableDocument :=
  (c.documents.get key).getD (.invalidDocument key)

/-- A document enters the cache as the server had it at some time. -/
def add (c : RemoteDocumentCache) (document : MutableDocument) (readTime : SnapshotVersion) :
    RemoteDocumentCache where
  documents := c.documents.put document.key document
  readTimes := c.readTimes.put ⟨document.key.collection, readTime, document.key.id⟩ ()
  named := by
    intro k d e
    rw [SortedTable.get_put] at e
    split at e
    case isTrue h =>
      cases e
      exact h.symm
    case isFalse => exact c.named e

/-- A document leaves the cache. -/
def remove (c : RemoteDocumentCache) (key : DocumentKey) : RemoteDocumentCache where
  documents := c.documents.delete key
  readTimes := c.readTimes
  named := by
    intro k d e
    rw [SortedTable.get_delete] at e
    split at e
    case isTrue => cases e
    case isFalse => exact c.named e

/-- The documents of some keys. -/
def getAll (c : RemoteDocumentCache) (keys : List DocumentKey) : DocumentMap :=
  SortedTable.collect (fun k => some (c.get k)) keys

/-- The documents of some keys that the cache has. -/
def getAllExisting (c : RemoteDocumentCache) (keys : List DocumentKey) : DocumentMap :=
  (c.getAll keys).filterMap fun _ d => if d.isFoundDocument then some d else none

/-- The loop over the documents from a collection on: it passes by the documents that lie deeper or
    less deep and ends behind the collection. -/
def childRows (path : List String) :
    List (DocumentKey × MutableDocument) → List (DocumentKey × MutableDocument)
  | [] => []
  | r :: rows =>
    if r.1.path.length ≠ path.length + 1 then childRows path rows
    else if ¬ path <+: r.1.path then []
    else r :: childRows path rows

/-- All documents of a collection. -/
def getAllScan (c : RemoteDocumentCache) (path : List String) : DocumentMap :=
  ((childRows path (c.documents.rows.dropWhile fun r => compare r.1.path path == .lt)).filter
    fun r => r.2.isFoundDocument).foldl (fun m r => m.put r.2.key r.2) SortedTable.empty

/-- The keys of the documents of a collection that were added behind an offset. -/
def keysSince (c : RemoteDocumentCache) (path : List String) (offset : IndexOffset) :
    List DocumentKey :=
  (c.readTimes.scan
    (fun k => compare k.collection path == .lt ||
      compare k.collection path == .eq && decide (k.number < offset.readTime))
    fun k => compare k.collection path == .eq).filterMap fun r =>
      if offset.readTime < r.1.number ∨ r.1.number = offset.readTime ∧
          compare offset.documentKey (path ++ [r.1.documentId]) = .lt then
        some ⟨path, r.1.documentId⟩
      else none

/-- The documents of a collection that were added behind an offset. -/
def getAllSince (c : RemoteDocumentCache) (path : List String) (offset : IndexOffset) :
    DocumentMap :=
  c.getAllExisting (c.keysSince path offset)

/-- The documents of a collection behind an offset. -/
def getAllIn (c : RemoteDocumentCache) (path : List String) (offset : IndexOffset) : DocumentMap :=
  if offset.readTime ≠ 0 then c.getAllSince path offset else c.getAllScan path

variable {c : RemoteDocumentCache}

/-- A document is read under its own key. -/
@[simp] lemma key_get {k : DocumentKey} : (c.get k).key = k := by
  rw [get]
  cases e : c.documents.get k with
  | none => rfl
  | some d => exact c.named e

/-- What the cache has after a document has entered. -/
lemma get_add {d : MutableDocument} {readTime : SnapshotVersion} {k : DocumentKey} :
    (c.add d readTime).get k = if k = d.key then d else c.get k := by
  rw [get, add, SortedTable.get_put]
  split
  case isTrue => rfl
  case isFalse => rfl

/-- What the cache has after a document has left. -/
lemma get_remove {key k : DocumentKey} :
    (c.remove key).get k = if k = key then .invalidDocument k else c.get k := by
  rw [get, remove, SortedTable.get_delete]
  split
  case isTrue => rfl
  case isFalse => rfl

/-- Each key that is asked for has an answer. -/
lemma get_getAll {keys : List DocumentKey} {k : DocumentKey} :
    (c.getAll keys).get k = if k ∈ keys then some (c.get k) else none :=
  SortedTable.get_collect

/-- The answers are under their keys. -/
lemma getAll_named (c : RemoteDocumentCache) (keys : List DocumentKey) : (c.getAll keys).Named := by
  intro k d e
  rw [get_getAll] at e
  split at e
  case isTrue =>
    cases e
    exact key_get
  case isFalse => cases e

/-- A document that exists is one of the cache. -/
lemma get_isFoundDocument {k : DocumentKey} (found : (c.get k).isFoundDocument = true) :
    c.documents.get k = some (c.get k) := by
  rw [get] at found ⊢
  cases e : c.documents.get k with
  | none =>
    rw [e] at found
    cases found
  | some d => rfl

/-! ## The documents of a collection -/

/-- Paths between a path and one that it is a prefix of have it as a prefix. -/
lemma isPrefix_of_between {p q r : List String} (le : compare q p ≠ .lt) (lt : compare q r = .lt)
    (pre : p <+: r) : p <+: q := by
  induction p generalizing q r with
  | nil => exact List.nil_prefix
  | cons a p ih =>
    cases q with
    | nil => exact absurd List.compare_nil_cons le
    | cons b q =>
      obtain ⟨t, rfl⟩ := pre
      rw [List.cons_append, List.compare_cons_cons, Ordering.then_eq_lt] at lt
      rw [List.compare_cons_cons, Ne, Ordering.then_eq_lt, not_or] at le
      rcases lt with lt | ⟨e, lt⟩
      · exact absurd lt le.1
      · have e' : b = a := Std.LawfulEqOrd.eq_of_compare e
        subst e'
        have pre' := ih (fun h => le.2 ⟨e, h⟩) lt (List.prefix_append p t)
        exact (List.prefix_cons_inj b).2 pre'

/-- A document lies in a collection when its path is that of the collection and one segment. -/
lemma collection_eq_iff {k : DocumentKey} {path : List String} :
    k.collection = path ↔ k.path.length = path.length + 1 ∧ path <+: k.path := by
  constructor
  · rintro rfl
    exact ⟨List.length_append, List.prefix_append _ _⟩
  · rintro ⟨len, t, e⟩
    have one : t.length = 1 := by
      rw [← e, List.length_append] at len
      exact Nat.add_left_cancel len
    obtain ⟨x, rfl⟩ := List.length_eq_one_iff.1 one
    exact (List.append_inj' e rfl).1.symm

/-- The loop over the documents finds those of the collection. -/
lemma mem_childRows {path : List String} {rows : List (DocumentKey × MutableDocument)}
    (as : Ascending (compareOn Prod.fst) rows) (from_ : ∀ r ∈ rows, compare r.1.path path ≠ .lt)
    {r : DocumentKey × MutableDocument} :
    r ∈ childRows path rows ↔ r ∈ rows ∧ r.1.collection = path := by
  induction rows with
  | nil => simp [childRows]
  | cons x rows ih =>
    obtain ⟨above, as'⟩ := List.pairwise_cons.1 as
    have ih' := ih as' fun y mem => from_ y (List.mem_cons_of_mem _ mem)
    rw [childRows]
    split
    case isTrue len =>
      -- a document of another depth is not in the collection
      rw [ih', List.mem_cons]
      constructor
      · intro h
        exact ⟨.inr h.1, h.2⟩
      · rintro ⟨rfl | mem, e⟩
        · exact absurd (collection_eq_iff.1 e).1 len
        · exact ⟨mem, e⟩
    case isFalse len =>
      split
      case isTrue pre =>
        -- nothing from here on has the path as a prefix
        constructor
        · intro mem
          cases mem
        · rintro ⟨mem, e⟩
          have pre' := (collection_eq_iff.1 e).2
          rcases List.mem_cons.1 mem with rfl | mem
          · exact absurd pre' pre
          · exact absurd (isPrefix_of_between (from_ x List.mem_cons_self) (above r mem) pre') pre
      case isFalse pre =>
        rw [List.mem_cons, ih', List.mem_cons]
        constructor
        · rintro (rfl | ⟨mem, e⟩)
          · exact ⟨.inl rfl, collection_eq_iff.2 ⟨not_not.1 len, not_not.1 pre⟩⟩
          · exact ⟨.inr mem, e⟩
        · rintro ⟨rfl | mem, e⟩
          · exact .inl rfl
          · exact .inr ⟨mem, e⟩

/-- A table filled with documents, each under its own key, has them. -/
lemma get_foldl_put_key {rows : List (DocumentKey × MutableDocument)} {m : DocumentMap}
    (names : ∀ r ∈ rows, r.2.key = r.1)
    (once : ∀ r ∈ rows, ∀ s ∈ rows, r.1 = s.1 → r.2 = s.2) {k : DocumentKey}
    {d : MutableDocument} :
    (rows.foldl (fun m r => m.put r.2.key r.2) m).get k = some d ↔
      (k, d) ∈ rows ∨ (∀ r ∈ rows, r.1 ≠ k) ∧ m.get k = some d := by
  induction rows generalizing m with
  | nil => simp
  | cons r rows ih =>
    rw [List.foldl_cons, ih (fun r' mem => names r' (List.mem_cons_of_mem _ mem))
      fun r' mem s mem' => once r' (List.mem_cons_of_mem _ mem) s (List.mem_cons_of_mem _ mem'),
      SortedTable.get_put, names r List.mem_cons_self]
    constructor
    · rintro (mem | ⟨no, e⟩)
      · exact .inl (List.mem_cons_of_mem _ mem)
      · split at e
        case isTrue h =>
          cases e
          subst h
          exact .inl List.mem_cons_self
        case isFalse h =>
          refine .inr ⟨?_, e⟩
          intro r' mem
          rcases List.mem_cons.1 mem with rfl | mem
          · exact fun e' => h e'.symm
          · exact no r' mem
    · rintro (mem | ⟨no, e⟩)
      · by_cases later : ∃ s ∈ rows, s.1 = k
        · obtain ⟨s, mem', rfl⟩ := later
          have same := once _ (List.mem_cons_of_mem _ mem') _ mem rfl
          cases same
          exact .inl mem'
        · rcases List.mem_cons.1 mem with rfl | mem
          · exact .inr ⟨fun s mem' e => later ⟨s, mem', e⟩, if_pos rfl⟩
          · exact .inl mem
      · refine .inr ⟨fun r' mem => no r' (List.mem_cons_of_mem _ mem), ?_⟩
        rw [if_neg fun e' => no r List.mem_cons_self e'.symm]
        exact e

/-- The scan of a collection finds the documents of the collection that exist. -/
lemma get_getAllScan {path : List String} {k : DocumentKey} {d : MutableDocument} :
    (c.getAllScan path).get k = some d ↔
      c.documents.get k = some d ∧ k.collection = path ∧ d.isFoundDocument = true := by
  have sub := List.dropWhile_sublist (l := c.documents.rows) fun r => compare r.1.path path == .lt
  have as := List.Pairwise.sublist sub c.documents.ascending
  have mem {r : DocumentKey × MutableDocument} :
      r ∈ (childRows path (c.documents.rows.dropWhile fun r => compare r.1.path path == .lt)).filter
        (fun r => r.2.isFoundDocument) ↔
        c.documents.get r.1 = some r.2 ∧ r.1.collection = path ∧ r.2.isFoundDocument = true := by
    have start {x : DocumentKey × MutableDocument} :
        x ∈ c.documents.rows.dropWhile (fun r => compare r.1.path path == .lt) ↔
          x ∈ c.documents.rows ∧ (compare x.1.path path == .lt) = false := by
      apply mem_dropWhile c.documents.ascending
      intro a b lt h
      rw [beq_iff_eq] at h ⊢
      exact Std.TransCmp.lt_trans (show compare a.1.path b.1.path = .lt from lt) h
    rw [List.mem_filter, mem_childRows as, start, SortedTable.get_eq_some]
    · constructor
      · rintro ⟨⟨⟨mem, _⟩, e⟩, found⟩
        exact ⟨mem, e, found⟩
      · rintro ⟨mem, e, found⟩
        refine ⟨⟨⟨mem, ?_⟩, e⟩, found⟩
        rw [beq_eq_false_iff_ne]
        obtain ⟨t, et⟩ := (collection_eq_iff.1 e).2
        intro lt
        -- a path does not come before its own prefix
        rw [← et] at lt
        have le : (compare (path ++ t) path).isGE := by
          clear et lt mem e found start sub as
          induction path with
          | nil => cases t <;> rfl
          | cons a p ih =>
            rw [List.cons_append, List.compare_cons_cons, Std.ReflOrd.compare_self]
            exact ih
        rw [lt] at le
        cases le
    · intro x mem
      exact beq_eq_false_iff_ne.1 (start.1 mem).2
  rw [getAllScan, get_foldl_put_key, mem, SortedTable.get_empty]
  · simp
  · intro r mem'
    exact c.named (mem.1 mem').1
  · intro r mem1 s mem2 e
    have e1 := (mem.1 mem1).1
    rw [e, (mem.1 mem2).1] at e1
    exact (Option.some.inj e1).symm

/-- The documents of a collection added after a time have a row of the index behind it. -/
lemma mem_keysSince {path : List String} {readTime : SnapshotVersion} {k : DocumentKey} :
    k ∈ c.keysSince path (.create readTime) ↔
      k.collection = path ∧ ∃ t, readTime < t ∧ (c.readTimes.get ⟨path, t, k.id⟩).isSome := by
  rw [keysSince, List.mem_filterMap]
  constructor
  · rintro ⟨⟨⟨col, t, id⟩, u⟩, mem, e⟩
    obtain ⟨get, rfl, le⟩ := CollectionRowKey.mem_scan.1 mem
    split at e
    case isTrue =>
      cases e
      exact ⟨rfl, t, le, Option.isSome_iff_exists.2 ⟨u, get⟩⟩
    case isFalse => cases e
  · rintro ⟨rfl, t, lt, h⟩
    obtain ⟨u, get⟩ := Option.isSome_iff_exists.1 h
    refine ⟨(⟨k.collection, t, k.id⟩, u), CollectionRowKey.mem_scan.2 ⟨get, rfl, lt⟩, ?_⟩
    rw [if_pos]
    rcases Nat.lt_or_eq_of_le (show readTime + 1 ≤ t from lt) with h' | h'
    · exact .inl h'
    · refine .inr ⟨h'.symm, ?_⟩
      change compare [] (k.collection ++ [k.id]) = .lt
      cases k.collection <;> rfl

/-- The index finds the documents of the collection that exist and were added after the time. -/
lemma get_getAllSince {path : List String} {readTime : SnapshotVersion} {k : DocumentKey}
    {d : MutableDocument} :
    (c.getAllSince path (.create readTime)).get k = some d ↔
      c.documents.get k = some d ∧ d.isFoundDocument = true ∧ k.collection = path ∧
        ∃ t, readTime < t ∧ (c.readTimes.get ⟨path, t, k.id⟩).isSome := by
  rw [getAllSince, getAllExisting, SortedTable.get_filterMap, get_getAll, ← mem_keysSince]
  split
  case isTrue mem =>
    rw [Option.bind_some]
    constructor
    · intro e
      split at e
      case isTrue found =>
        cases e
        exact ⟨get_isFoundDocument found, found, mem⟩
      case isFalse => cases e
    · rintro ⟨e, found, _⟩
      have ed : c.get k = d := by rw [get, e]; rfl
      rw [ed, if_pos found]
  case isFalse mem =>
    constructor
    · intro e
      cases e
    · intro h
      exact absurd h.2.2 mem

end RemoteDocumentCache

end Lumiere.Firestore.Client

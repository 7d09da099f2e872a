import Lumiere.Client.QueryEngine

/-!
# Changes to the documents of a query

What happens to one document of a query is a change of a type. A set of changes keeps one for each
key: `addChange` merges a change into the one before it, and stops the client on a combination that
makes no sense. `Net` says what a merged change means for the documents before and after. A step that
does what it says can always be added, and the set then says what all the steps together have done
(`addChange_net`).
-/

namespace Lumiere.Firestore.Client

/-- The types of changes; the order counts. -/
inductive DocumentViewChange.Kind where
  | removed
  | added
  | modified
  | metadata
  deriving DecidableEq

/-- What happened to a document of a query. -/
structure DocumentViewChange (q : CoreQuery) where
  document : q.Matching
  type : DocumentViewChange.Kind

/-- The changes to the documents of a query, one for each key. -/
abbrev DocumentViewChangeSet (q : CoreQuery) := SortedTable DocumentKey (DocumentViewChange q)

/-- Keys of documents, in order. -/
abbrev DocumentKeySet := SortedTable DocumentKey Unit

/-- Whether the documents of a view are known to be all of its query. -/
inductive SyncState where
  | none
  | local
  | synced
  deriving DecidableEq

/-- The documents of a query at one time, with the changes that led to them. -/
structure ViewSnapshot (q : CoreQuery) where
  documents : DocumentSet q
  oldDocuments : DocumentSet q
  documentChanges : List (DocumentViewChange q)
  mutatedKeys : DocumentKeySet
  fromCache : Bool
  syncStateChanged : Bool
  excludesMetadataChanges : Bool

variable {q : CoreQuery}

namespace ViewSnapshot

/-- The snapshot in which all documents have been added. -/
def fromInitialDocuments (documents : DocumentSet q) (mutatedKeys : DocumentKeySet)
    (fromCache excludesMetadataChanges : Bool) : ViewSnapshot q where
  documents := documents
  oldDocuments := IndexedSet.empty
  documentChanges := documents.sorted.map fun d => ⟨d, .added⟩
  mutatedKeys := mutatedKeys
  fromCache := fromCache
  syncStateChanged := true
  excludesMetadataChanges := excludesMetadataChanges

/-- Whether a document of the snapshot has writes that the server has not confirmed. -/
def hasPendingWrites (s : ViewSnapshot q) : Bool :=
  !s.mutatedKeys.rows.isEmpty

end ViewSnapshot

/-! ## Merging changes -/

namespace DocumentViewChange

/-- The change that stands for a change after an older one: the two may cancel out, and some cannot
    follow one another. -/
def merge (old change : DocumentViewChange q) : Option (Option (DocumentViewChange q)) :=
  if change.type ≠ .added ∧ old.type = .metadata then
    some (some change)
  else if change.type = .metadata ∧ old.type ≠ .removed then
    some (some ⟨change.document, old.type⟩)
  else if change.type = .modified ∧ old.type = .modified then
    some (some ⟨change.document, .modified⟩)
  else if change.type = .modified ∧ old.type = .added then
    some (some ⟨change.document, .added⟩)
  else if change.type = .removed ∧ old.type = .added then
    some none
  else if change.type = .removed ∧ old.type = .modified then
    some (some ⟨old.document, .removed⟩)
  else if change.type = .added ∧ old.type = .removed then
    some (some ⟨change.document, .modified⟩)
  else none

/-- What a change says about a document before and after it; no change says it has stayed. -/
def Net (old new : Option q.Matching) : Option (DocumentViewChange q) → Prop
  | none => old = new
  | some ⟨d, .added⟩ => old = none ∧ new = some d
  | some ⟨d, .removed⟩ => (∃ o, old = some o ∧ o.key = d.key) ∧ new = none
  | some ⟨d, .modified⟩ => old.isSome = true ∧ new = some d
  | some ⟨d, .metadata⟩ => (∃ o, old = some o ∧ o.1.value = d.1.value) ∧ new = some d

/-- What a change says it says about a document with its key. -/
lemma Net.key {old new : Option q.Matching} {change : DocumentViewChange q} {k : DocumentKey}
    (net : Net old new (some change)) (old_ : ∀ o, old = some o → o.key = k)
    (new_ : ∀ n, new = some n → n.key = k) : change.document.key = k := by
  obtain ⟨d, type⟩ := change
  cases type with
  | removed =>
    obtain ⟨⟨o, e, ek⟩, _⟩ := net
    exact ek.symm.trans (old_ o e)
  | added => exact new_ d net.2
  | modified => exact new_ d net.2
  | metadata => exact new_ d net.2

/-- Merging two changes that follow one another never fails, and says what both have done. -/
lemma merge_net {old cur new : Option q.Matching} {before change : DocumentViewChange q}
    {k : DocumentKey} (keys : ∀ n, cur = some n → n.key = k)
    (keys' : ∀ o, old = some o → o.key = k)
    (net : Net old cur (some before)) (step : Net cur new (some change)) :
    ∃ merged, merge before change = some merged ∧ Net old new merged := by
  obtain ⟨b, bt⟩ := before
  obtain ⟨c, ct⟩ := change
  cases bt with
  | removed =>
    obtain ⟨⟨o, eo, _⟩, rfl⟩ := net
    cases ct with
    | removed =>
      obtain ⟨⟨o', e, _⟩, _⟩ := step
      cases e
    | added => exact ⟨_, rfl, by rw [eo]; rfl, step.2⟩
    | modified => cases step.1
    | metadata =>
      obtain ⟨⟨o', e, _⟩, _⟩ := step
      cases e
  | added =>
    obtain ⟨rfl, rfl⟩ := net
    cases ct with
    | removed => exact ⟨_, rfl, step.2.symm⟩
    | added => cases step.1
    | modified => exact ⟨_, rfl, rfl, step.2⟩
    | metadata => exact ⟨_, rfl, rfl, step.2⟩
  | modified =>
    obtain ⟨someOld, rfl⟩ := net
    obtain ⟨o, rfl⟩ := Option.isSome_iff_exists.1 someOld
    cases ct with
    | removed => exact ⟨_, rfl, ⟨o, rfl, (keys' o rfl).trans (keys b rfl).symm⟩, step.2⟩
    | added => cases step.1
    | modified => exact ⟨_, rfl, rfl, step.2⟩
    | metadata => exact ⟨_, rfl, rfl, step.2⟩
  | metadata =>
    obtain ⟨⟨o, rfl, same⟩, rfl⟩ := net
    cases ct with
    | removed =>
      obtain ⟨⟨o', e, ek⟩, gone⟩ := step
      cases e
      exact ⟨_, rfl, ⟨o, rfl, (keys' o rfl).trans ((keys b rfl).symm.trans ek)⟩, gone⟩
    | added => cases step.1
    | modified => exact ⟨_, rfl, rfl, step.2⟩
    | metadata =>
      obtain ⟨⟨o', e, same'⟩, rfl⟩ := step
      cases e
      exact ⟨_, rfl, ⟨o, rfl, same.trans same'⟩, rfl⟩

end DocumentViewChange

namespace DocumentViewChangeSet

/-- Adds a change, merged with the one that the key already has. -/
def addChange (s : DocumentViewChangeSet q) (change : DocumentViewChange q) :
    Option (DocumentViewChangeSet q) :=
  let key := change.document.key
  match s.get key with
  | none => some (s.put key change)
  | some old => (old.merge change).map fun merged =>
      match merged with
      | some new => s.put key new
      | none => s.delete key

/-- The changes of the set, one for each document. -/
def getChanges (s : DocumentViewChangeSet q) : List (DocumentViewChange q) :=
  s.rows.map Prod.snd

/-- The changes say what has become of each document of the first set in the second. -/
def Tells (s : DocumentViewChangeSet q) (old new : DocumentSet q) : Prop :=
  ∀ k, DocumentViewChange.Net (old.get k) (new.get k) (s.get k)

/-- No changes say that nothing has happened. -/
lemma tells_empty {set : DocumentSet q} : Tells SortedTable.empty set set := by
  intro k
  rfl

/-- A change that is told stands under the key of its document. -/
lemma key_of_tells {s : DocumentViewChangeSet q} {old new : DocumentSet q} (tells : s.Tells old new)
    {k : DocumentKey} {change : DocumentViewChange q} (e : s.get k = some change) :
    change.document.key = k := by
  have net := tells k
  rw [e] at net
  exact net.key (fun o eo => IndexedSet.key_of_get eo) fun n en => IndexedSet.key_of_get en

/-- A change of one document can always be added to what has been told so far. -/
lemma addChange_tells {s : DocumentViewChangeSet q} {old cur : DocumentSet q}
    (tells : s.Tells old cur) (new : DocumentSet q) (change : DocumentViewChange q)
    {k : DocumentKey} (step : DocumentViewChange.Net (cur.get k) (new.get k) (some change))
    (frame : ∀ k', k' ≠ k → new.get k' = cur.get k') :
    ∃ s', s.addChange change = some s' ∧ s'.Tells old new := by
  have key : change.document.key = k :=
    step.key (fun o eo => IndexedSet.key_of_get eo) fun n en => IndexedSet.key_of_get en
  have net := tells k
  have put (c : DocumentViewChange q) (netc : DocumentViewChange.Net (old.get k) (new.get k) (some c)) :
      Tells (s.put k c) old new := by
    intro k'
    rw [SortedTable.get_put]
    split
    case isTrue e =>
      rw [e]
      exact netc
    case isFalse ne =>
      rw [frame k' ne]
      exact tells k'
  rw [addChange, key]
  cases e : s.get k with
  | none =>
    rw [e] at net
    refine ⟨_, rfl, put _ ?_⟩
    have same : old.get k = cur.get k := net
    rw [same]
    exact step
  | some before =>
    rw [e] at net
    obtain ⟨merged, em, netm⟩ := DocumentViewChange.merge_net (k := k)
      (fun n en => IndexedSet.key_of_get en) (fun o eo => IndexedSet.key_of_get eo) net step
    dsimp only
    rw [em]
    cases merged with
    | some c => exact ⟨_, rfl, put c netm⟩
    | none =>
      refine ⟨_, rfl, ?_⟩
      intro k'
      rw [SortedTable.get_delete]
      split
      case isTrue e' =>
        rw [e']
        exact netm
      case isFalse ne =>
        rw [frame k' ne]
        exact tells k'

end DocumentViewChangeSet

end Lumiere.Firestore.Client

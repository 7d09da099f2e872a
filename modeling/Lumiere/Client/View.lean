import Mathlib.Data.List.Sort
import Lumiere.Client.LocalStore
import Lumiere.Client.ViewSnapshot

/-!
# The view of a query

A view holds the documents that a query shows. `computeDocumentChanges` takes the documents whose
local view has changed and says what the query shows next, within its limit, and whether documents
outside the limit have to be looked up again; such a refill must not ask for another. `applyChanges`
takes the result over, together with what the server says about the query: which documents it has
there, `syncedDocuments`, and whether it has sent all of them, `current`. A document that is shown,
that the server does not have in the query and that no local write explains is in limbo.
-/

namespace Lumiere.Firestore.Client

/-- Whether the client reaches the server. -/
inductive OnlineState where
  | unknown
  | online
  | offline
  deriving DecidableEq

/-- A document has got into limbo or out of it. -/
inductive LimboDocumentChange where
  | added (key : DocumentKey)
  | removed (key : DocumentKey)
  deriving DecidableEq

/-- What a query shows next, before the view has taken it over. -/
structure ViewDocumentChanges (q : CoreQuery) where
  documentSet : DocumentSet q
  changeSet : DocumentViewChangeSet q
  mutatedKeys : DocumentKeySet
  needsRefill : Bool

/-- What a view reports after a change. -/
structure ViewChange (q : CoreQuery) where
  snapshot : Option (ViewSnapshot q)
  limboChanges : List LimboDocumentChange

/-- The documents a query shows, and what the server says about it. -/
structure View (q : CoreQuery) where
  documentSet : DocumentSet q
  syncedDocuments : DocumentKeySet
  limboDocuments : DocumentKeySet
  mutatedKeys : DocumentKeySet
  syncState : SyncState
  current : Bool

variable {q : CoreQuery}

/-- The document, if it belongs to the query. -/
def CoreQuery.matching (q : CoreQuery) (d : MutableDocument) : Option q.Matching :=
  if h : q.matches d = true then some ⟨d, h⟩ else none

/-! ## The documents shown next -/

namespace ViewDocumentChanges

/-- A change is applied: the document is shown in its new state, or no longer. -/
def applyChange (r : ViewDocumentChanges q) (key : DocumentKey) (change : DocumentViewChange q)
    (newDoc : Option q.Matching) (needsRefill : Bool) : Option (ViewDocumentChanges q) := do
  let changeSet ← r.changeSet.addChange change
  match newDoc with
  | some newDoc =>
    pure
      { documentSet := r.documentSet.insert newDoc
        changeSet := changeSet
        mutatedKeys :=
          if newDoc.1.hasLocalMutations then r.mutatedKeys.put key () else r.mutatedKeys.delete key
        needsRefill := r.needsRefill || needsRefill }
  | none =>
    pure
      { documentSet := r.documentSet.erase key
        changeSet := changeSet
        mutatedKeys := r.mutatedKeys.delete key
        needsRefill := r.needsRefill || needsRefill }

/-- Drops documents at the edge of the limit, one after the other. -/
def dropOutside : Nat → ViewDocumentChanges q → Option (ViewDocumentChanges q)
  | 0, r => some r
  | n + 1, r => do
    let oldDoc ←
      (if q.limitType = .first then r.documentSet.sorted.getLast?
      else r.documentSet.sorted.head?)
    let changeSet ← r.changeSet.addChange ⟨oldDoc, .removed⟩
    dropOutside n
      { r with
        documentSet := r.documentSet.erase oldDoc.key
        changeSet := changeSet
        mutatedKeys := r.mutatedKeys.delete oldDoc.key }

end ViewDocumentChanges

namespace View

/-- A view before its first documents. -/
def create (remoteDocuments : DocumentKeySet) : View q where
  documentSet := IndexedSet.empty
  syncedDocuments := remoteDocuments
  limboDocuments := SortedTable.empty
  mutatedKeys := SortedTable.empty
  syncState := .none
  current := false

/-- The last document of a limit to the first ones that is full. -/
def lastDocInLimit (oldDocumentSet : DocumentSet q) : Option q.Matching :=
  if q.limitType = .first ∧ oldDocumentSet.size = q.limit then oldDocumentSet.sorted.getLast?
  else none

/-- The first document of a limit to the last ones that is full. -/
def firstDocInLimit (oldDocumentSet : DocumentSet q) : Option q.Matching :=
  if q.limitType = .last ∧ oldDocumentSet.size = q.limit then oldDocumentSet.sorted.head?
  else none

/-- A write has been acknowledged, and the server will send the document again. -/
def shouldWaitForSyncedDocument (newDoc oldDoc : MutableDocument) : Bool :=
  oldDoc.hasLocalMutations && newDoc.hasCommittedMutations && !newDoc.hasLocalMutations

/-- One document whose local view may have changed. -/
def visitChange (v : View q) (oldDocumentSet : DocumentSet q) (r : ViewDocumentChanges q)
    (key : DocumentKey) (doc : MutableDocument) : Option (ViewDocumentChanges q) :=
  match oldDocumentSet.get key, q.matching doc with
  | some oldDoc, some newDoc =>
    let oldDocHadPendingMutations := v.mutatedKeys.contains key
    let newDocHasPendingMutations := newDoc.1.hasLocalMutations ||
      v.mutatedKeys.contains key && newDoc.1.hasCommittedMutations
    if oldDoc.1.value ≠ newDoc.1.value then
      if shouldWaitForSyncedDocument newDoc.1 oldDoc.1 then some r
      else
        let outsideLimit :=
          (lastDocInLimit oldDocumentSet).any fun last => newDoc.compare last == .gt
        let outsideLimitToLast :=
          (firstDocInLimit oldDocumentSet).any fun first => newDoc.compare first == .lt
        r.applyChange key ⟨newDoc, .modified⟩ (some newDoc) (outsideLimit || outsideLimitToLast)
    else if oldDocHadPendingMutations ≠ newDocHasPendingMutations then
      r.applyChange key ⟨newDoc, .metadata⟩ (some newDoc) false
    else some r
  | none, some newDoc => r.applyChange key ⟨newDoc, .added⟩ (some newDoc) false
  | some oldDoc, none =>
    -- with a full limit, another document may have to come in
    r.applyChange key ⟨oldDoc, .removed⟩ none
      ((lastDocInLimit oldDocumentSet).isSome || (firstDocInLimit oldDocumentSet).isSome)
  | none, none => some r

/-- What is shown before the changes: what the view shows, or what a refill continues. -/
def start (v : View q) : Option (ViewDocumentChanges q) → ViewDocumentChanges q
  | some previousChanges => { previousChanges with needsRefill := false }
  | none => ⟨v.documentSet, SortedTable.empty, v.mutatedKeys, false⟩

/-- What the query shows when the local views of documents have changed. -/
def computeDocumentChanges (v : View q) (docChanges : DocumentMap)
    (previousChanges : Option (ViewDocumentChanges q)) : Option (ViewDocumentChanges q) := do
  let start := v.start previousChanges
  let r ← docChanges.rows.foldlM
    (fun r row => v.visitChange start.documentSet r row.1 row.2) start
  let r ←
    (if q.limitType ≠ .none then r.dropOutside (r.documentSet.size - q.limit) else some r)
  if r.needsRefill ∧ previousChanges.isSome then none else some r

/-! ## Taking the documents over -/

/-- The place of a change among the changes of a snapshot. -/
def getDocumentViewChangeTypePosition : DocumentViewChange.Kind → Nat
  | .removed => 0
  | .added => 1
  | .modified => 2
  | .metadata => 2

/-- The order of the changes of a snapshot. -/
def changePrecedes (a b : DocumentViewChange q) : Bool :=
  if getDocumentViewChangeTypePosition a.type ≠ getDocumentViewChangeTypePosition b.type then
    decide (getDocumentViewChangeTypePosition a.type < getDocumentViewChangeTypePosition b.type)
  else a.document.compare b.document == .lt

/-- The changes in the order in which the listeners hear of them. -/
def sortChanges (changes : List (DocumentViewChange q)) : List (DocumentViewChange q) :=
  changes.insertionSort fun a b => changePrecedes b a = false

/-- The document is shown although the server has not named it, and not because of a local write. -/
def shouldBeInLimbo (v : View q) (key : DocumentKey) : Bool :=
  if v.syncedDocuments.contains key then false
  else
    match v.documentSet.get key with
    | none => false
    | some d => !d.1.hasLocalMutations

/-- What the server has said about the query. -/
def applyTargetChange (v : View q) : Option TargetChange → Option (View q)
  | none => some v
  | some targetChange =>
    let synced := targetChange.addedDocuments.foldl (fun s k => s.put k ()) v.syncedDocuments
    if targetChange.modifiedDocuments.all synced.contains then
      some { v with
        syncedDocuments := targetChange.removedDocuments.foldl (fun s k => s.delete k) synced
        current := targetChange.current }
    else none

/-- The documents of the view that are in limbo. -/
def documentsInLimbo (v : View q) : DocumentKeySet :=
  v.documentSet.sorted.foldl (fun s d => if v.shouldBeInLimbo d.key then s.put d.key () else s)
    SortedTable.empty

/-- Once the server has sent all documents of the query, the others are in limbo. -/
def updateLimboDocuments (v : View q) : View q × List LimboDocumentChange :=
  if v.current then
    let new := v.documentsInLimbo
    let gone := (v.limboDocuments.rows.map Prod.fst).filter fun k => !new.contains k
    let come := (new.rows.map Prod.fst).filter fun k => !v.limboDocuments.contains k
    ({ v with limboDocuments := new },
      gone.map LimboDocumentChange.removed ++ come.map LimboDocumentChange.added)
  else (v, [])

/-- The view takes over changes and what the server says of its target. -/
def applyChanges (v : View q) (docChanges : ViewDocumentChanges q)
    (targetChange : Option TargetChange) : Option (View q × ViewChange q) :=
  if docChanges.needsRefill then none
  else do
    let oldDocuments := v.documentSet
    let changes := sortChanges docChanges.changeSet.getChanges
    let v ← applyTargetChange
      { v with documentSet := docChanges.documentSet, mutatedKeys := docChanges.mutatedKeys }
      targetChange
    let (v, limboChanges) := v.updateLimboDocuments
    let synced := v.limboDocuments.rows.isEmpty && v.current
    let newSyncState : SyncState := if synced then .synced else .local
    let syncStateChanged := newSyncState != v.syncState
    let v := { v with syncState := newSyncState }
    if changes.isEmpty && !syncStateChanged then pure (v, ⟨none, limboChanges⟩)
    else
      let snapshot :=
        { documents := docChanges.documentSet
          oldDocuments := oldDocuments
          documentChanges := changes
          mutatedKeys := docChanges.mutatedKeys
          fromCache := newSyncState == .local
          syncStateChanged := syncStateChanged
          excludesMetadataChanges := false }
      pure (v, ⟨some snapshot, limboChanges⟩)

/-- Without a connection the view cannot be current. -/
def applyOnlineStateChange (v : View q) (onlineState : OnlineState) :
    Option (View q × ViewChange q) :=
  if v.current ∧ onlineState = .offline then
    applyChanges { v with current := false }
      ⟨v.documentSet, SortedTable.empty, v.mutatedKeys, false⟩ none
  else some (v, ⟨none, []⟩)

end View

end Lumiere.Firestore.Client

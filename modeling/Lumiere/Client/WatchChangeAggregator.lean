import Lumiere.Client.ViewSync

/-!
# Watch changes and remote events

The watch stream tells the client, message by message, which documents belong to which of its
targets. The aggregator collects the messages between two snapshots of the stream and makes one
remote event of them. It keeps for each target what has changed relative to the documents that the
view of the target knows to be there, and for each target that the client has asked about how many
answers are still to come; until these are there the messages about the target are out of date.
-/

namespace Lumiere.Firestore.Client

/-- Why the client listens to a target. -/
inductive QueryPurpose where
  | listen
  | existenceFilterMismatch
  | limboResolution
  deriving DecidableEq

/-- A query that the client has asked the server to watch. -/
structure TargetData where
  target : CoreQuery
  targetId : TargetId
  purpose : QueryPurpose

/-- What the aggregator asks the client about a target. -/
structure TargetMetadataProvider where
  getRemoteKeysForTarget : TargetId → DocumentKeySet
  getTargetDataForTarget : TargetId → Option TargetData

/-- A message about a document: to which targets it belongs now and to which no longer. -/
structure DocumentWatchChange where
  updatedTargetIds : List TargetId
  removedTargetIds : List TargetId
  documentKey : DocumentKey
  newDocument : Option MutableDocument
  keyed : ∀ d, newDocument = some d → d.key = documentKey

/-- What the server says of targets. -/
inductive WatchTargetChangeState where
  | noChange
  | added
  | removed
  | current
  | reset
  deriving DecidableEq

/-- A message of the watch stream. A target change without targets is about all active ones. -/
inductive WatchChange where
  | document (change : DocumentWatchChange)
  | existenceFilter (targetId : TargetId) (count : Nat)
  | targetChange (state : WatchTargetChangeState) (targetIds : List TargetId) (resumeToken : String)

/-- What has happened to a target since the last snapshot. -/
structure TargetState where
  outstandingResponses : Int
  documentChanges : SortedTable DocumentKey DocumentViewChange.Kind
  resumeToken : String
  current : Bool
  hasPendingChanges : Bool

namespace TargetState

/-- A new target is part of the next remote event in any case. -/
def new : TargetState :=
  ⟨0, SortedTable.empty, "", false, true⟩

/-- Some request about the target waits for its answer. -/
def isPending (s : TargetState) : Bool :=
  s.outstandingResponses != 0

/-- A new token makes the target part of the next event. -/
def updateResumeToken (s : TargetState) (resumeToken : String) : TargetState :=
  if resumeToken ≠ "" then { s with hasPendingChanges := true, resumeToken := resumeToken } else s

/-- The keys with one type of change. -/
def keysOf (s : TargetState) (type : DocumentViewChange.Kind) : List DocumentKey :=
  (s.documentChanges.rows.filter fun r => r.2 = type).map Prod.fst

/-- The changes since the last event; there are none of metadata only. -/
def toTargetChange (s : TargetState) : Option TargetChange :=
  if s.documentChanges.rows.any fun r => r.2 = .metadata then none
  else some
    { current := s.current
      addedDocuments := s.keysOf .added
      modifiedDocuments := s.keysOf .modified
      removedDocuments := s.keysOf .removed }

/-- The changes have been handed on, or are of no use. -/
def clearPendingChanges (s : TargetState) : TargetState :=
  { s with hasPendingChanges := false, documentChanges := SortedTable.empty }

/-- A further answer is due. -/
def recordPendingTargetRequest (s : TargetState) : TargetState :=
  { s with outstandingResponses := s.outstandingResponses + 1 }

/-- An answer has come. -/
def recordTargetResponse (s : TargetState) : TargetState :=
  { s with outstandingResponses := s.outstandingResponses - 1 }

/-- The server has sent all documents of the target. -/
def markCurrent (s : TargetState) : TargetState :=
  { s with hasPendingChanges := true, current := true }

/-- The last change of a document counts. -/
def addDocumentChange (s : TargetState) (key : DocumentKey) (type : DocumentViewChange.Kind) :
    TargetState :=
  { s with hasPendingChanges := true, documentChanges := s.documentChanges.put key type }

/-- A document has not changed after all. -/
def removeDocumentChange (s : TargetState) (key : DocumentKey) : TargetState :=
  { s with hasPendingChanges := true, documentChanges := s.documentChanges.delete key }

end TargetState

/-- The messages since the last snapshot. -/
structure WatchChangeAggregator where
  targetStates : SortedTable TargetId TargetState
  pendingDocumentUpdates : DocumentMap
  pendingTargetResets : List TargetId
  named : pendingDocumentUpdates.Named

/-- A remote event with the targets that have to be asked about again. -/
structure AggregatedEvent where
  event : RemoteEvent
  targetMismatches : List TargetId

/-- A document put under its key. -/
lemma DocumentMap.named_put {docs : DocumentMap} (named : docs.Named) {d : MutableDocument} :
    DocumentMap.Named (docs.put d.key d) := by
  intro k d' e
  rw [SortedTable.get_put] at e
  split at e
  case isTrue h =>
    cases e
    exact h.symm
  case isFalse => exact named e

namespace WatchChangeAggregator

/-- Nothing has been said. -/
def new : WatchChangeAggregator where
  targetStates := SortedTable.empty
  pendingDocumentUpdates := SortedTable.empty
  pendingTargetResets := []
  named := by
    intro k d e
    cases e

/-- The state of a target, a new one if there is none. -/
def ensureTargetState (a : WatchChangeAggregator) (t : TargetId) : TargetState :=
  (a.targetStates.get t).getD .new

/-- Changes the state of a target. -/
def update (a : WatchChangeAggregator) (t : TargetId) (f : TargetState → TargetState) :
    WatchChangeAggregator :=
  { a with targetStates := a.targetStates.put t (f (a.ensureTargetState t)) }

/-- What the client knows of a target, unless an answer about it is due. -/
def targetDataForActiveTarget (a : WatchChangeAggregator) (p : TargetMetadataProvider)
    (t : TargetId) : Option TargetData :=
  if (a.targetStates.get t).any TargetState.isPending then none else p.getTargetDataForTarget t

/-- The client listens to the target, and no answer about it is due. -/
def isActiveTarget (a : WatchChangeAggregator) (p : TargetMetadataProvider) (t : TargetId) : Bool :=
  (a.targetDataForActiveTarget p t).isSome

/-- The view of the target has the document. -/
def targetContainsDocument (p : TargetMetadataProvider) (t : TargetId) (key : DocumentKey) : Bool :=
  (p.getRemoteKeysForTarget t).contains key

/-- The client has asked about a target. -/
def recordPendingTargetRequest (a : WatchChangeAggregator) (t : TargetId) : WatchChangeAggregator :=
  a.update t TargetState.recordPendingTargetRequest

/-- A target is forgotten. -/
def removeTarget (a : WatchChangeAggregator) (t : TargetId) : WatchChangeAggregator :=
  { a with targetStates := a.targetStates.delete t }

/-- The server has sent a document for a target. -/
def addDocumentToTarget (a : WatchChangeAggregator) (p : TargetMetadataProvider) (t : TargetId)
    (document : MutableDocument) : WatchChangeAggregator :=
  if !a.isActiveTarget p t then a
  else
    let type := if targetContainsDocument p t document.key then
      DocumentViewChange.Kind.modified else .added
    let a := a.update t fun s => s.addDocumentChange document.key type
    { a with
      pendingDocumentUpdates := a.pendingDocumentUpdates.put document.key document
      named := DocumentMap.named_put a.named }

/-- The document, if there is an updated one, has this key. -/
def removeDocumentFromTarget (a : WatchChangeAggregator) (p : TargetMetadataProvider) (t : TargetId)
    (key : DocumentKey) (updatedDocument : Option MutableDocument)
    (keyed : ∀ d, updatedDocument = some d → d.key = key) : WatchChangeAggregator :=
  if !a.isActiveTarget p t then a
  else
    let a := a.update t fun s =>
      if targetContainsDocument p t key then s.addDocumentChange key .removed
      -- it may have entered and left the target since the last snapshot
      else s.removeDocumentChange key
    match updatedDocument with
    | some d =>
      { a with
        pendingDocumentUpdates := a.pendingDocumentUpdates.put key d
        named := by
          rw [← keyed d rfl]
          exact DocumentMap.named_put a.named }
    | none => a

/-- A target that the document may belong to now. -/
def updateDocumentOfTarget (p : TargetMetadataProvider) (c : DocumentWatchChange)
    (a : WatchChangeAggregator) (t : TargetId) : WatchChangeAggregator :=
  match c.newDocument with
  | some d =>
    if d.isFoundDocument then a.addDocumentToTarget p t d
    else if d.isNoDocument then
      a.removeDocumentFromTarget p t c.documentKey c.newDocument c.keyed
    else a
  | none => a

/-- The server has sent a document for some targets, or taken it out of some. -/
def handleDocumentChange (a : WatchChangeAggregator) (p : TargetMetadataProvider)
    (c : DocumentWatchChange) : WatchChangeAggregator :=
  let a := c.updatedTargetIds.foldl (updateDocumentOfTarget p c) a
  c.removedTargetIds.foldl
    (fun a t => a.removeDocumentFromTarget p t c.documentKey c.newDocument c.keyed) a

/-- The documents of a target are taken out; the server sends again those that belong to it. -/
def resetTarget (a : WatchChangeAggregator) (p : TargetMetadataProvider) (t : TargetId) :
    Option WatchChangeAggregator :=
  match a.targetStates.get t with
  | none => none
  | some s =>
    if s.isPending then none
    else
      let a := { a with targetStates := a.targetStates.put t .new }
      some <| ((p.getRemoteKeysForTarget t).rows.map Prod.fst).foldl
        (fun a key => a.removeDocumentFromTarget p t key none fun _ e => by cases e) a

/-- The targets that a target change is about. -/
def getTargetIds (a : WatchChangeAggregator) (p : TargetMetadataProvider)
    (targetIds : List TargetId) : List TargetId :=
  if targetIds ≠ [] then targetIds
  else (a.targetStates.rows.map Prod.fst).filter (a.isActiveTarget p)

/-- A target change for one target. -/
def handleTargetChangeOf (a : WatchChangeAggregator) (p : TargetMetadataProvider)
    (state : WatchTargetChangeState) (resumeToken : String) (t : TargetId) :
    Option WatchChangeAggregator :=
  let a := a.update t id
  match state with
  | .noChange =>
    if a.isActiveTarget p t then some (a.update t fun s => s.updateResumeToken resumeToken)
    else some a
  | .added =>
    some <| a.update t fun s =>
      let s := s.recordTargetResponse
      let s := if !s.isPending then s.clearPendingChanges else s
      s.updateResumeToken resumeToken
  | .removed =>
    let a := a.update t TargetState.recordTargetResponse
    if !(a.ensureTargetState t).isPending then some (a.removeTarget t) else some a
  | .current =>
    if a.isActiveTarget p t then
      some (a.update t fun s => s.markCurrent.updateResumeToken resumeToken)
    else some a
  | .reset =>
    if a.isActiveTarget p t then
      (a.resetTarget p t).map fun a => a.update t fun s => s.updateResumeToken resumeToken
    else some a

/-- A target change for each of its targets. -/
def handleTargetChange (a : WatchChangeAggregator) (p : TargetMetadataProvider)
    (state : WatchTargetChangeState) (targetIds : List TargetId) (resumeToken : String) :
    Option WatchChangeAggregator :=
  (a.getTargetIds p targetIds).foldlM (fun a t => a.handleTargetChangeOf p state resumeToken t) a

/-- The number of documents that the target has once the changes are made. -/
def getCurrentDocumentCountForTarget (a : WatchChangeAggregator) (p : TargetMetadataProvider)
    (t : TargetId) : Option Int :=
  (a.ensureTargetState t).toTargetChange.map fun c =>
    (p.getRemoteKeysForTarget t).rows.length + c.addedDocuments.length - c.removedDocuments.length

/-- The key of the document that a document query is for. -/
def documentOfTarget (target : CoreQuery) : Option DocumentKey :=
  if target.isDocumentQuery then
    target.path.getLast?.map fun id => ⟨target.path.dropLast, id⟩
  else none

/-- The server says how many documents a target has. -/
def handleExistenceFilter (a : WatchChangeAggregator) (p : TargetMetadataProvider) (t : TargetId)
    (expectedCount : Nat) : Option WatchChangeAggregator :=
  match a.targetDataForActiveTarget p t with
  | none => some a
  | some data =>
    match documentOfTarget data.target with
    | some key =>
      if expectedCount = 0 then
        some <| a.removeDocumentFromTarget p t key (some (.noDocument key 0)) fun d e => by
          cases e
          rfl
      else if expectedCount = 1 then some a
      else none
    | none => do
      let a := a.update t id
      let currentSize ← a.getCurrentDocumentCountForTarget p t
      if currentSize ≠ expectedCount then
        let a ← a.resetTarget p t
        pure { a with pendingTargetResets := a.pendingTargetResets.insert t }
      else pure a

/-- One message of the stream; a removal for an error does not get here. -/
def handle (a : WatchChangeAggregator) (p : TargetMetadataProvider) :
    WatchChange → Option WatchChangeAggregator
  | .document c => some (a.handleDocumentChange p c)
  | .existenceFilter t count => a.handleExistenceFilter p t count
  | .targetChange state targetIds resumeToken =>
    a.handleTargetChange p state targetIds resumeToken

/-- A document query whose document the server has not sent: the document does not exist. -/
def synthesizeDelete (a : WatchChangeAggregator) (p : TargetMetadataProvider)
    (version : SnapshotVersion) (t : TargetId) (data : TargetData) : WatchChangeAggregator :=
  match documentOfTarget data.target with
  | none => a
  | some key =>
    if (a.ensureTargetState t).current && !a.pendingDocumentUpdates.contains key &&
        !targetContainsDocument p t key then
      a.removeDocumentFromTarget p t key (some (.noDocument key version)) fun d e => by
        cases e
        rfl
    else a

/-- What one target contributes to the remote event. -/
def createTargetChange (p : TargetMetadataProvider) (version : SnapshotVersion)
    (r : WatchChangeAggregator × SortedTable TargetId TargetChange) (t : TargetId) :
    Option (WatchChangeAggregator × SortedTable TargetId TargetChange) :=
  match r.1.targetDataForActiveTarget p t with
  | none => some r
  | some data =>
    let a := r.1.synthesizeDelete p version t data
    if (a.ensureTargetState t).hasPendingChanges then
      (a.ensureTargetState t).toTargetChange.map fun c =>
        (a.update t TargetState.clearPendingChanges, r.2.put t c)
    else some (a, r.2)

/-- The event of a snapshot, with all that has changed since the last one. -/
def createRemoteEvent (a : WatchChangeAggregator) (p : TargetMetadataProvider)
    (version : SnapshotVersion) : Option (AggregatedEvent × WatchChangeAggregator) := do
  let (a, targetChanges) ← (a.targetStates.rows.map Prod.fst).foldlM (createTargetChange p version)
    (a, SortedTable.empty)
  pure
    (⟨⟨version, targetChanges, a.pendingDocumentUpdates, a.named⟩, a.pendingTargetResets⟩,
      { a with
        pendingDocumentUpdates := SortedTable.empty
        pendingTargetResets := []
        named := by
          intro k d e
          cases e })

end WatchChangeAggregator

end Lumiere.Firestore.Client

import Lumiere.Client.QueryEngine
import Lumiere.Client.ReferenceSet

/-!
# The local store

The store of the client on the device: the cached documents of the server, the queue of pending
batches and the overlays of the signed-in user, and the queues and overlays of other users of the
device. Its operations are a local write, the acknowledgement and the rejection of a batch, an event
of the watch stream, a change of the user and a start. Each returns the documents whose local view
may have changed. None of them fails on a `Consistent` store when it is called as the client calls
it, each keeps the store consistent, and what it returns says all that has changed (`Reports`).
-/

namespace Lumiere.Firestore.Client

namespace MutationBatch

/-- The documents with what the mutations of a batch have made of them, and the overlays so far. -/
abbrev LocalDocumentSet :=
  SortedTable DocumentKey OverlayedDocument × SortedTable DocumentKey Mutation

/-- One mutation of the batch: its document, which must be there, after all mutations of the batch.
    The first overlay found for a document stays. -/
def visitDocument (b : MutationBatch) (s : LocalDocumentSet) (m : Mutation) :
    Option LocalDocumentSet := do
  let it ← s.1.get m.key
  let dm := b.applyToLocalView it.document it.mutatedFields
  let overlays := match Mutation.calculateOverlayMutation dm.1 dm.2 with
    | some overlay => if s.2.contains m.key then s.2 else s.2.put m.key overlay
    | none => s.2
  let document := if dm.1.isValidDocument then dm.1 else dm.1.convertToNoDocument 0
  pure (s.1.put m.key ⟨document, it.mutatedFields⟩, overlays)

/-- Applies the batch to the documents it writes, and returns their overlays. -/
def applyToLocalDocumentSet (b : MutationBatch)
    (documents : SortedTable DocumentKey OverlayedDocument) : Option LocalDocumentSet :=
  b.mutations.foldlM b.visitDocument (documents, SortedTable.empty)

end MutationBatch

/-- What the server answers to a batch: a version for each mutation. -/
structure MutationBatchResult where
  batch : MutationBatch
  commitVersion : SnapshotVersion
  mutationResults : List SnapshotVersion
  sizes : mutationResults.length = batch.mutations.length

/-- The version of each document of the batch: that of the last mutation that writes it. -/
def MutationBatchResult.docVersions (r : MutationBatchResult) :
    SortedTable DocumentKey SnapshotVersion :=
  (r.batch.mutations.zip r.mutationResults).foldl (fun t mv => t.put mv.1.key mv.2)
    SortedTable.empty

/-- What the watch stream says about one query. -/
structure TargetChange where
  current : Bool
  addedDocuments : List DocumentKey
  modifiedDocuments : List DocumentKey
  removedDocuments : List DocumentKey

/-- A consistent snapshot of the watch stream. -/
structure RemoteEvent where
  snapshotVersion : SnapshotVersion
  targetChanges : SortedTable TargetId TargetChange
  documentUpdates : DocumentMap
  named : documentUpdates.Named

/-- The tables of one user. -/
structure UserTables where
  mutationQueue : MutationQueue
  documentOverlayCache : DocumentOverlayCache

/-- The store; `others` are the tables of the users who are not signed in. -/
structure LocalStore where
  user : String
  localDocuments : LocalDocumentsView
  others : SortedTable String UserTables
  lastRemoteSnapshotVersion : SnapshotVersion

namespace LocalStore

/-- The writes of the user that wait for an answer. -/
def mutationQueue (s : LocalStore) : MutationQueue :=
  s.localDocuments.mutationQueue

/-- The documents as the server last sent them. -/
def remoteDocumentCache (s : LocalStore) : RemoteDocumentCache :=
  s.localDocuments.remoteDocumentCache

/-- The overlays of the user. -/
def documentOverlayCache (s : LocalStore) : DocumentOverlayCache :=
  s.localDocuments.documentOverlayCache

/-- The store with other tables of the signed-in user and other cached documents. -/
def withView (s : LocalStore) (v : LocalDocumentsView) : LocalStore :=
  { s with localDocuments := v }

/-- The highest batch number of the users who are not signed in. -/
def highestBatchIdOfOthers (s : LocalStore) : BatchId :=
  s.others.rows.foldl
    (fun id r => max id ((r.2.mutationQueue.mutations.rows.getLast?.map Prod.fst).getD 0)) 0

/-- The queue is loaded when the process starts and when a user signs in. -/
def startMutationQueue (s : LocalStore) : LocalStore :=
  s.withView { s.localDocuments with
    mutationQueue := s.mutationQueue.start s.highestBatchIdOfOthers }

/-- The app writes: the batch waits, and the overlays of its documents change. -/
def writeLocally (s : LocalStore) (mutations : List Mutation) :
    Option (BatchId × DocumentMap × LocalStore) := do
  let keys := (mutations.map Mutation.key).dedup
  let remoteDocs := s.remoteDocumentCache.getAll keys
  let (overlayedDocuments, v) ← s.localDocuments.getOverlayedDocuments remoteDocs
  let (batch, queue) ← v.mutationQueue.addMutationBatch mutations
  let (documents, overlays) ← batch.applyToLocalDocumentSet overlayedDocuments
  let cache := v.documentOverlayCache.saveOverlays batch.batchId overlays.rows
  pure (batch.batchId, documents.filterMap fun _ d => some d.document,
    s.withView { v with mutationQueue := queue, documentOverlayCache := cache })

/-- One document of an acknowledged batch: the acknowledged version replaces an older one. -/
def applyAckTo (r : MutationBatchResult) (cache : RemoteDocumentCache) (key : DocumentKey) :
    Option RemoteDocumentCache := do
  let doc := cache.get key
  let ackVersion ← r.docVersions.get key
  if doc.version < ackVersion then
    let doc ← r.batch.applyToRemoteDocument doc r.mutationResults
    if doc.isValidDocument then pure (cache.add doc r.commitVersion) else pure cache
  else pure cache

/-- The documents of an acknowledged batch enter the cache as the server has them now. -/
def applyBatchResult (v : LocalDocumentsView) (r : MutationBatchResult) :
    Option LocalDocumentsView := do
  let cache ← r.batch.keys.foldlM (applyAckTo r) v.remoteDocumentCache
  let queue ← v.mutationQueue.removeMutationBatch r.batch
  pure { v with remoteDocumentCache := cache, mutationQueue := queue }

/-- The overlays of a batch that is no longer pending are taken out and those of its documents
    calculated again from the batches that are. -/
def forgetBatch (v : LocalDocumentsView) (batch : MutationBatch) :
    Option (DocumentMap × LocalDocumentsView) := do
  if v.mutationQueue.performConsistencyCheck then
    let v : LocalDocumentsView := { v with
      documentOverlayCache := v.documentOverlayCache.removeOverlaysForBatchId batch.batchId }
    let (_, v) ← v.recalculateAndSaveOverlays (v.remoteDocumentCache.getAll batch.keys)
    v.getDocuments batch.keys
  else none

/-- The server has accepted a batch. -/
def acknowledgeBatch (s : LocalStore) (r : MutationBatchResult) :
    Option (DocumentMap × LocalStore) := do
  let v ← applyBatchResult s.localDocuments r
  let (changes, v) ← forgetBatch v r.batch
  pure (changes, s.withView v)

/-- The server has rejected a batch, which is taken back. -/
def rejectBatch (s : LocalStore) (batchId : BatchId) : Option (DocumentMap × LocalStore) := do
  let toReject ← s.mutationQueue.lookupMutationBatch batchId
  let queue ← s.mutationQueue.removeMutationBatch toReject
  let (changes, v) ← forgetBatch { s.localDocuments with mutationQueue := queue } toReject
  pure (changes, s.withView v)

/-- What the loop over the updates of an event has gathered. -/
structure DocumentChangeResult where
  cache : RemoteDocumentCache
  changedDocs : DocumentMap
  existenceChangedKeys : List DocumentKey

/-- Whether an update replaces the cached document. -/
def replaces (existingDoc doc : MutableDocument) : Bool :=
  !existingDoc.isValidDocument || decide (existingDoc.version < doc.version) ||
    doc.version == existingDoc.version && existingDoc.hasPendingWrites

/-- One update; `existing` has the documents as they were cached before the event. -/
def populateDocument (existing : DocumentMap) (readTime : SnapshotVersion)
    (r : DocumentChangeResult) (key : DocumentKey) (doc : MutableDocument) :
    Option DocumentChangeResult := do
  let existingDoc ← existing.get key
  let r := if doc.isFoundDocument ≠ existingDoc.isFoundDocument then
      { r with existenceChangedKeys := key :: r.existenceChangedKeys }
    else r
  if doc.isNoDocument ∧ doc.version = 0 then
    -- the document is no longer accessible
    pure { r with cache := r.cache.remove key, changedDocs := r.changedDocs.put key doc }
  else if replaces existingDoc doc then
    if readTime ≠ 0 then
      pure { r with cache := r.cache.add doc readTime, changedDocs := r.changedDocs.put key doc }
    else none
  else pure r

/-- The cache takes over the documents of an event. -/
def populateDocumentChanges (cache : RemoteDocumentCache) (documents : DocumentMap)
    (globalVersion : SnapshotVersion) : Option DocumentChangeResult :=
  let existing := cache.getAll (documents.rows.map Prod.fst)
  documents.rows.foldlM (fun r row => populateDocument existing globalVersion r row.1 row.2)
    ⟨cache, SortedTable.empty, []⟩

/-- The last version of the watch stream; it must not go back. -/
def setLastRemoteSnapshotVersion (s : LocalStore) (version : SnapshotVersion) : Option LocalStore :=
  if version = 0 then some s
  else if s.lastRemoteSnapshotVersion ≤ version then
    some { s with lastRemoteSnapshotVersion := version }
  else none

/-- The server has sent documents. -/
def applyRemoteEvent (s : LocalStore) (e : RemoteEvent) : Option (DocumentMap × LocalStore) := do
  let r ← populateDocumentChanges s.remoteDocumentCache e.documentUpdates e.snapshotVersion
  let s ← s.setLastRemoteSnapshotVersion e.snapshotVersion
  let v : LocalDocumentsView := { s.localDocuments with remoteDocumentCache := r.cache }
  let (changes, v) ← v.getLocalViewOfDocuments r.changedDocs r.existenceChangedKeys
  pure (changes, s.withView v)

/-- The tables of a user; a user without tables begins with empty ones. -/
def tablesOf (s : LocalStore) (user : String) : UserTables :=
  if user = s.user then ⟨s.mutationQueue, s.documentOverlayCache⟩
  else (s.others.get user).getD ⟨MutationQueue.empty, DocumentOverlayCache.empty⟩

/-- The store with the tables of another user in the place of those of the signed-in one. -/
def switchUser (s : LocalStore) (user : String) : LocalStore where
  user := user
  localDocuments :=
    { remoteDocumentCache := s.remoteDocumentCache
      mutationQueue := (s.tablesOf user).mutationQueue
      documentOverlayCache := (s.tablesOf user).documentOverlayCache }
  others := (s.others.put s.user ⟨s.mutationQueue, s.documentOverlayCache⟩).delete user
  lastRemoteSnapshotVersion := s.lastRemoteSnapshotVersion

/-- Another user signs in, with mutations and overlays of their own. -/
def handleUserChange (s : LocalStore) (user : String) : Option (DocumentMap × LocalStore) := do
  let oldBatches := s.mutationQueue.allMutationBatches
  let s := (s.switchUser user).startMutationQueue
  let newBatches := s.mutationQueue.allMutationBatches
  let changedKeys := (oldBatches ++ newBatches).flatMap fun b => b.mutations.map Mutation.key
  let (changes, v) ← s.localDocuments.getDocuments changedKeys
  pure (changes, s.withView v)

/-- The next batch to send. -/
def getNextMutationBatch (s : LocalStore) (batchId : BatchId) : Option MutationBatch :=
  s.mutationQueue.nextMutationBatchAfterBatchId batchId

/-- A document as the app sees it. -/
def readDocument (s : LocalStore) (key : DocumentKey) : MutableDocument :=
  s.localDocuments.getDocument key

/-- The documents that a query returns. -/
def executeQuery (s : LocalStore) (query : CoreQuery) (lastLimboFree : SnapshotVersion)
    (remoteKeys : List DocumentKey) : Option (DocumentMap × LocalStore) :=
  (QueryEngine.getDocumentsMatchingQuery s.localDocuments query lastLimboFree remoteKeys).map
    fun r => (r.1, s.withView r.2)

/-- A device on which the app has just been installed. -/
def empty (user : String) : LocalStore where
  user := user
  localDocuments := ⟨RemoteDocumentCache.empty, MutationQueue.empty, DocumentOverlayCache.empty⟩
  others := SortedTable.empty
  lastRemoteSnapshotVersion := 0

end LocalStore

end Lumiere.Firestore.Client

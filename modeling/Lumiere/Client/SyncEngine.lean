import Lumiere.Client.LimboResolution
import Lumiere.Client.QueryListener

/-!
# The sync engine

The sync engine ties the local store to the queries that are listened to. Whatever changes documents
(a local write, an answer to one, an event of the watch stream, another user) changes the local
store first; then each view computes what its query shows, asking the store again when its limit
needs a refill, takes it over with what the event says of its target, and reports the documents that
have come into limbo or left it. Once all views are done, the event manager hands each new snapshot
to the listeners of its query. The listeners' callbacks here keep a list by following the changes of
the events that they get.
-/

namespace Lumiere.Firestore.Client

/-- A listener with what its callback shows: a list that follows the events. -/
structure Subscriber (q : CoreQuery) where
  listener : QueryListener q
  shown : List (DocumentKey × ObjectValue)

namespace Subscriber

variable {q : CoreQuery}

/-- A listener of the app does not wait for the server. -/
def new (includeMetadataChanges : Bool) : Subscriber q :=
  ⟨.create (.fromIncludeMetadataChanges includeMetadataChanges), []⟩

/-- The callback follows the event, if the listener raises one. -/
def raise (s : Subscriber q) (r : QueryListener q × Option (ViewSnapshot q)) :
    Option (Subscriber q) :=
  (follow s.shown r.2).toOption.map fun shown => ⟨r.1, shown⟩

/-- The listener hears a snapshot. -/
def onViewSnapshot (s : Subscriber q) (snapshot : ViewSnapshot q) : Option (Subscriber q) :=
  (s.listener.onViewSnapshot snapshot).bind s.raise

/-- The listener hears whether the client reaches the server. -/
def onOnlineStateChanged (s : Subscriber q) (onlineState : OnlineState) : Option (Subscriber q) :=
  (s.listener.onOnlineStateChanged onlineState).bind s.raise

end Subscriber

/-- A query that is listened to: its view, and what the event manager keeps of it. -/
structure QueryView where
  query : CoreQuery
  view : View query
  viewSnapshot : Option (ViewSnapshot query)
  listeners : List (Subscriber query)

/-- A view that is done, with the snapshot that its listeners have yet to hear. -/
structure Emission where
  queryView : QueryView
  snapshot : Option (ViewSnapshot queryView.query)

/-- The event manager hands the snapshot, if there is one, to the listeners. -/
def Emission.onViewSnapshot (e : Emission) : Option QueryView :=
  match e.snapshot with
  | none => some e.queryView
  | some snapshot => do
    let listeners ← e.queryView.listeners.mapM fun l => l.onViewSnapshot snapshot
    pure
      { query := e.queryView.query
        view := e.queryView.view
        viewSnapshot := some snapshot
        listeners := listeners }

/-- The local store, the documents in limbo and the queries that are listened to. -/
structure SyncEngine where
  localStore : LocalStore
  limbo : LimboTracker
  queryViews : SortedTable TargetId QueryView
  onlineState : OnlineState

/-- What the client knows of a query when it begins to listen to it: its target, and what its target
    has shown before. -/
structure AllocatedTarget where
  targetId : TargetId
  lastLimboFreeSnapshotVersion : SnapshotVersion
  remoteKeys : DocumentKeySet

namespace SyncEngine

/-- A client that has not been used. -/
def new (user : String) (maxConcurrentLimboResolutions : Nat) : SyncEngine where
  localStore := LocalStore.empty user
  limbo := LimboTracker.new maxConcurrentLimboResolutions
  queryViews := SortedTable.empty
  onlineState := .unknown

/-! ## New snapshots -/

/-- The documents of a view after some changes, and after a refill if these ask for one. -/
def computeDocumentChanges (store : LocalStore) (qv : QueryView) (changes : DocumentMap) :
    Option (ViewDocumentChanges qv.query × LocalStore) := do
  let viewDocChanges ← qv.view.computeDocumentChanges changes none
  if viewDocChanges.needsRefill then do
    -- without the previous results, so that no document past the limit is missed
    let (documents, store) ← store.executeQuery qv.query 0 []
    let viewDocChanges ← qv.view.computeDocumentChanges documents (some viewDocChanges)
    pure (viewDocChanges, store)
  else pure (viewDocChanges, store)

/-- One view. -/
def emitNewSnapshot (changes : DocumentMap) (remoteEvent : Option RemoteEvent)
    (s : LocalStore × LimboTracker) (targetId : TargetId) (qv : QueryView) :
    Option (Emission × (LocalStore × LimboTracker)) := do
  let (viewDocChanges, store) ← computeDocumentChanges s.1 qv changes
  let targetChanges := remoteEvent.bind fun e => e.targetChanges.get targetId
  let (view, viewChange) ← qv.view.applyChanges viewDocChanges targetChanges
  let limbo ← s.2.updateTrackedLimboDocuments viewChange.limboChanges targetId
  pure (⟨{ qv with view := view }, viewChange.snapshot⟩, (store, limbo))

/-- The event manager hears the snapshots of all views. -/
def onViewSnapshots (emissions : SortedTable TargetId Emission) :
    Option (SortedTable TargetId QueryView) :=
  (emissions.traverse (fun _ _ e => e.onViewSnapshot.map fun qv => (qv, ())) ()).map Prod.fst

/-- All views take over the changes, and then the listeners hear of them. -/
def emitNewSnapshotsAndNotifyLocalStore (s : SyncEngine) (changes : DocumentMap)
    (remoteEvent : Option RemoteEvent) : Option SyncEngine := do
  let (emissions, store, limbo) ←
    s.queryViews.traverse (emitNewSnapshot changes remoteEvent) (s.localStore, s.limbo)
  let queryViews ← onViewSnapshots emissions
  pure { s with localStore := store, limbo := limbo, queryViews := queryViews }

/-! ## Listening -/

/-- The first documents of a query. -/
def initializeViewAndComputeSnapshot (s : SyncEngine) (query : CoreQuery)
    (target : AllocatedTarget) : Option (View query × ViewSnapshot query × SyncEngine) := do
  let (documents, store) ← s.localStore.executeQuery query target.lastLimboFreeSnapshotVersion
    (target.remoteKeys.rows.map Prod.fst)
  let view : View query := View.create target.remoteKeys
  let viewDocChanges ← view.computeDocumentChanges documents none
  let (view, viewChange) ← view.applyChanges viewDocChanges none
  let limbo ← s.limbo.updateTrackedLimboDocuments viewChange.limboChanges target.targetId
  -- the first documents always make a snapshot
  let snapshot ← viewChange.snapshot
  pure (view, snapshot, { s with localStore := store, limbo := limbo })

/-- A new query; its only listener hears the first snapshot. -/
def listen (s : SyncEngine) (query : CoreQuery) (target : AllocatedTarget)
    (subscriber : Subscriber query) : Option SyncEngine := do
  let s := { s with limbo := s.limbo.listen ⟨query, target.targetId, .listen⟩ }
  let (view, snapshot, s) ← s.initializeViewAndComputeSnapshot query target
  let subscriber ← subscriber.onViewSnapshot snapshot
  pure { s with
    queryViews := s.queryViews.put target.targetId ⟨query, view, some snapshot, [subscriber]⟩ }

/-- Another listener of a query hears the last snapshot of its view. -/
def QueryView.addListener (qv : QueryView) (subscriber : Subscriber qv.query) :
    Option QueryView := do
  let subscriber ←
    (match qv.viewSnapshot with
    | some snapshot => subscriber.onViewSnapshot snapshot
    | none => some subscriber)
  pure { qv with listeners := qv.listeners ++ [subscriber] }

/-- A listener is added; it learns first whether the client reaches the server. A target that is
    there already has one query, which the listener gets; the source lets a limit query and its
    mirror image share a target. -/
def addQueryListener (s : SyncEngine) (query : CoreQuery) (target : AllocatedTarget)
    (includeMetadataChanges : Bool) : Option SyncEngine :=
  match s.queryViews.get target.targetId with
  | some qv => do
    let subscriber ← (Subscriber.new includeMetadataChanges).onOnlineStateChanged s.onlineState
    let qv ← QueryView.addListener qv subscriber
    pure { s with queryViews := s.queryViews.put target.targetId qv }
  | none => do
    let subscriber ← (Subscriber.new includeMetadataChanges).onOnlineStateChanged s.onlineState
    s.listen query target subscriber

/-- A query is forgotten together with what its view had in limbo. -/
def stopListening (s : SyncEngine) (targetId : TargetId) : Option SyncEngine := do
  let limbo ← s.limbo.stopListening targetId
  let limbo ← limbo.removeAndCleanupTarget targetId
  pure { s with limbo := limbo, queryViews := s.queryViews.delete targetId }

/-- A listener is removed, and with the last one of a query the query. -/
def removeQueryListener (s : SyncEngine) (targetId : TargetId) (i : Nat) : Option SyncEngine :=
  match s.queryViews.get targetId with
  | none => some s
  | some qv =>
    let listeners := qv.listeners.eraseIdx i
    if listeners.isEmpty then s.stopListening targetId
    else some { s with queryViews := s.queryViews.put targetId { qv with listeners := listeners } }

/-! ## What happens to documents -/

/-- The app writes. -/
def writeMutations (s : SyncEngine) (mutations : List Mutation) : Option SyncEngine := do
  let (_, changes, store) ← s.localStore.writeLocally mutations
  ({ s with localStore := store } : SyncEngine).emitNewSnapshotsAndNotifyLocalStore changes none

/-- The server has accepted a batch. -/
def handleSuccessfulWrite (s : SyncEngine) (r : MutationBatchResult) : Option SyncEngine := do
  let (changes, store) ← s.localStore.acknowledgeBatch r
  ({ s with localStore := store } : SyncEngine).emitNewSnapshotsAndNotifyLocalStore changes none

/-- The server has rejected a batch. -/
def handleRejectedWrite (s : SyncEngine) (batchId : BatchId) : Option SyncEngine := do
  let (changes, store) ← s.localStore.rejectBatch batchId
  ({ s with localStore := store } : SyncEngine).emitNewSnapshotsAndNotifyLocalStore changes none

/-- Another user may have signed in. -/
def handleCredentialChange (s : SyncEngine) (user : String) : Option SyncEngine :=
  if user ≠ s.localStore.user then do
    let (changes, store) ← s.localStore.handleUserChange user
    ({ s with localStore := store } : SyncEngine).emitNewSnapshotsAndNotifyLocalStore changes none
  else some s

/-- An event of the watch stream. -/
def applyRemoteEvent (s : SyncEngine) (e : RemoteEvent) : Option SyncEngine := do
  let limbo ← s.limbo.applyRemoteEvent e
  let (changes, store) ← s.localStore.applyRemoteEvent e
  ({ s with localStore := store, limbo := limbo } : SyncEngine).emitNewSnapshotsAndNotifyLocalStore
    changes (some e)

/-- The event that says that a document that the server does not want to be asked about does not
    exist. -/
def deletion (key : DocumentKey) : RemoteEvent where
  snapshotVersion := 0
  targetChanges := SortedTable.empty
  documentUpdates := SortedTable.empty.put key (.noDocument key 0)
  named := by
    have h : DocumentMap.Named (SortedTable.empty.put (MutableDocument.noDocument key 0).key
      (.noDocument key 0)) := DocumentMap.named_put DocumentMap.empty_named
    exact @h

/-- The server refuses a target, unless it has been removed already. The listeners of a query end; a
    document in limbo is gone. -/
def processTargetError (s : SyncEngine) (targetId : TargetId) : Option SyncEngine :=
  if !s.limbo.listenTargets.contains targetId then some s
  else
    (s.limbo.handleRejectedListen targetId).bind fun r =>
      match r.2 with
      | some key => ({ s with limbo := r.1 } : SyncEngine).applyRemoteEvent (deletion key)
      | none => some { s with limbo := r.1, queryViews := s.queryViews.delete targetId }

/-- A view hears whether the client reaches the server; no document may come into limbo by that. -/
def applyOnlineStateChange (onlineState : OnlineState) (_ : Unit) (_ : TargetId) (qv : QueryView) :
    Option (Emission × Unit) := do
  let (view, viewChange) ← qv.view.applyOnlineStateChange onlineState
  if viewChange.limboChanges.isEmpty then
    pure (⟨{ qv with view := view }, viewChange.snapshot⟩, ())
  else none

/-- The listeners of a query hear whether the client reaches the server. -/
def QueryView.onOnlineStateChanged (qv : QueryView) (onlineState : OnlineState) :
    Option QueryView := do
  let listeners ← qv.listeners.mapM fun l => l.onOnlineStateChanged onlineState
  pure { qv with listeners := listeners }

/-- The client has reached the server, or reaches it no longer. -/
def handleOnlineStateChange (s : SyncEngine) (onlineState : OnlineState) : Option SyncEngine := do
  let (emissions, _) ← s.queryViews.traverse (applyOnlineStateChange onlineState) ()
  let queryViews ← onViewSnapshots emissions
  let (queryViews, _) ← queryViews.traverse
    (fun _ _ qv => (QueryView.onOnlineStateChanged qv onlineState).map fun qv => (qv, ())) ()
  pure { s with queryViews := queryViews, onlineState := onlineState }

/-- The documents that the server has named for a target, which the remote store asks for. -/
def getRemoteKeys (s : SyncEngine) (targetId : TargetId) : DocumentKeySet :=
  match s.limbo.activeLimboResolutionsByTarget.get targetId with
  | some ⟨key, true⟩ => SortedTable.empty.put key ()
  | _ => (s.queryViews.get targetId).elim SortedTable.empty fun qv => qv.view.syncedDocuments

end SyncEngine

end Lumiere.Firestore.Client

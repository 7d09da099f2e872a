import Lumiere.Client.WatchChangeAggregator

/-!
# Limbo resolution

A document that a view shows although the server, having sent all documents of the query, has not
named it, is in limbo. The client listens to each such document by a target of its own, to at most
so many at a time; the others wait in a queue. `Tracks` is what ties the tables for this together. It
is kept by all that happens to a document in limbo: a view reports it, no longer reports it or is no
longer listened to, the server answers or refuses to. So the client never stops a listen that it has
not begun, never resolves a document twice at a time and never leaves a place idle while documents
wait.
-/

namespace Lumiere.Firestore.Client

/-- The query for one document or collection. -/
def CoreQuery.ofPath (path : List String) : CoreQuery where
  path := path
  explicitOrderBys := []
  limitType := .none
  limit := 0
  orders := fun _ => rfl

/-- A queue without an element twice, from which any element can be taken. -/
structure RandomAccessQueue (α : Type*) where
  elements : List α
  distinct : elements.Nodup

namespace RandomAccessQueue

variable {α : Type*} [DecidableEq α]

/-- The queue of no elements. -/
def empty : RandomAccessQueue α :=
  ⟨[], .nil⟩

/-- The queue with an element at its end, unless it is in there already. -/
def pushBack (q : RandomAccessQueue α) (a : α) : Option (RandomAccessQueue α) :=
  if h : a ∈ q.elements then none
  else some ⟨q.elements ++ [a], q.distinct.append (List.nodup_singleton a) fun b mem mem' => by
    rw [List.mem_singleton.1 mem'] at mem
    exact h mem⟩

omit [DecidableEq α] in
/-- The queue without its first element. -/
def popFront (q : RandomAccessQueue α) : RandomAccessQueue α :=
  ⟨q.elements.tail, q.distinct.tail⟩

/-- The queue without an element. -/
def remove (q : RandomAccessQueue α) (a : α) : RandomAccessQueue α :=
  ⟨q.elements.erase a, q.distinct.erase a⟩

end RandomAccessQueue

/-- A document in limbo that the client listens to, and whether the server has sent it. -/
structure LimboResolution where
  key : DocumentKey
  documentReceived : Bool

/-- A call of the remote store that begins or ends a listen. -/
inductive RemoteStoreCall where
  | listen (data : TargetData)
  | stopListening (targetId : TargetId)

/-- The tables for the documents in limbo, all targets that the client listens to, and a history of
    the calls that have begun and ended the listens. -/
structure LimboTracker where
  maxConcurrentLimboResolutions : Nat
  targetIdGenerator : Nat
  limboDocumentRefs : ReferenceSet
  enqueuedLimboResolutions : RandomAccessQueue DocumentKey
  activeLimboTargetsByKey : SortedTable DocumentKey TargetId
  activeLimboResolutionsByTarget : SortedTable TargetId LimboResolution
  listenTargets : SortedTable TargetId TargetData
  calls : List RemoteStoreCall

namespace LimboTracker

/-- No document is in limbo, and no target is watched. -/
def new (maxConcurrentLimboResolutions : Nat) : LimboTracker where
  maxConcurrentLimboResolutions := maxConcurrentLimboResolutions
  targetIdGenerator := 1
  limboDocumentRefs := ReferenceSet.empty
  enqueuedLimboResolutions := RandomAccessQueue.empty
  activeLimboTargetsByKey := SortedTable.empty
  activeLimboResolutionsByTarget := SortedTable.empty
  listenTargets := SortedTable.empty
  calls := []

/-- The remote store begins to listen to a target, if it does not. -/
def listen (l : LimboTracker) (data : TargetData) : LimboTracker :=
  if l.listenTargets.contains data.targetId then l
  else { l with
    listenTargets := l.listenTargets.put data.targetId data
    calls := l.calls ++ [.listen data] }

/-- The remote store stops listening to a target, which must be watched. -/
def stopListening (l : LimboTracker) (t : TargetId) : Option LimboTracker :=
  if l.listenTargets.contains t then some { l with
    listenTargets := l.listenTargets.delete t
    calls := l.calls ++ [.stopListening t] }
  else none

/-- The first document of the queue gets a target. -/
def startResolution (l : LimboTracker) (key : DocumentKey) : LimboTracker :=
  let limboTargetId := l.targetIdGenerator
  listen
    { l with
      enqueuedLimboResolutions := l.enqueuedLimboResolutions.popFront
      targetIdGenerator := limboTargetId + 2
      activeLimboResolutionsByTarget := l.activeLimboResolutionsByTarget.put limboTargetId
        ⟨key, false⟩
      activeLimboTargetsByKey := l.activeLimboTargetsByKey.put key limboTargetId }
    ⟨.ofPath key.path, limboTargetId, .limboResolution⟩

/-- Starts resolutions while there are places; the queue gets shorter each time. -/
def pump : Nat → LimboTracker → LimboTracker
  | 0, l => l
  | n + 1, l =>
    match l.enqueuedLimboResolutions.elements with
    | [] => l
    | key :: _ =>
      if l.activeLimboTargetsByKey.rows.length < l.maxConcurrentLimboResolutions then
        pump n (l.startResolution key)
      else l

/-- Starts as many resolutions as there are documents and places for them. -/
def pumpEnqueuedLimboResolutions (l : LimboTracker) : LimboTracker :=
  pump l.enqueuedLimboResolutions.elements.length l

/-- A document that has come into limbo waits, unless it waits or is being resolved already. -/
def trackLimboChange (l : LimboTracker) (key : DocumentKey) : LimboTracker :=
  if l.activeLimboTargetsByKey.contains key then l
  else
    match l.enqueuedLimboResolutions.pushBack key with
    | some queue => { l with enqueuedLimboResolutions := queue }.pumpEnqueuedLimboResolutions
    | none => l

/-- A document no longer waits, or its resolution ends and leaves its place to others. -/
def removeLimboTarget (l : LimboTracker) (key : DocumentKey) : Option LimboTracker :=
  let l := { l with enqueuedLimboResolutions := l.enqueuedLimboResolutions.remove key }
  match l.activeLimboTargetsByKey.get key with
  -- the query has failed and the target is no longer there
  | none => some l
  | some limboTargetId => do
    let l ← l.stopListening limboTargetId
    pure
      { l with
        activeLimboTargetsByKey := l.activeLimboTargetsByKey.delete key
        activeLimboResolutionsByTarget := l.activeLimboResolutionsByTarget.delete limboTargetId
          }.pumpEnqueuedLimboResolutions

/-- If no view has the document in limbo any longer, its resolution ends. -/
def removeUnreferenced (l : LimboTracker) (key : DocumentKey) : Option LimboTracker :=
  if !l.limboDocumentRefs.containsKey key then l.removeLimboTarget key else some l

/-- A view reports one document. -/
def updateTrackedLimboDocument (targetId : TargetId) (l : LimboTracker) :
    LimboDocumentChange → Option LimboTracker
  | .added key =>
    some <| { l with
      limboDocumentRefs := l.limboDocumentRefs.addReference key targetId }.trackLimboChange key
  | .removed key =>
    { l with
      limboDocumentRefs := l.limboDocumentRefs.removeReference key targetId }.removeUnreferenced key

/-- A view reports the documents that have come into limbo or left it. -/
def updateTrackedLimboDocuments (l : LimboTracker) (limboChanges : List LimboDocumentChange)
    (targetId : TargetId) : Option LimboTracker :=
  limboChanges.foldlM (updateTrackedLimboDocument targetId) l

/-- The documents that the view of a query had in limbo. -/
def removeAndCleanupTarget (l : LimboTracker) (targetId : TargetId) : Option LimboTracker :=
  (l.limboDocumentRefs.referencedKeys targetId).foldlM removeUnreferenced
    { l with limboDocumentRefs := l.limboDocumentRefs.removeReferences targetId }

/-- The server refuses a target. The target is forgotten; for a document in limbo the document is
    returned, which is then taken for deleted. -/
def handleRejectedListen (l : LimboTracker) (targetId : TargetId) :
    Option (LimboTracker × Option DocumentKey) :=
  if !l.listenTargets.contains targetId then some (l, none)
  else
    let l := { l with listenTargets := l.listenTargets.delete targetId }
    match l.activeLimboResolutionsByTarget.get targetId with
    | some limboResolution =>
      some
        ({ l with
          activeLimboTargetsByKey := l.activeLimboTargetsByKey.delete limboResolution.key
          activeLimboResolutionsByTarget := l.activeLimboResolutionsByTarget.delete targetId
            }.pumpEnqueuedLimboResolutions, some limboResolution.key)
    | none => (l.removeAndCleanupTarget targetId).map fun l => (l, none)

/-- What an event says of one target that resolves a document. -/
def receive (limboResolution : LimboResolution) (change : TargetChange) : Option LimboResolution :=
  if change.addedDocuments.length + change.modifiedDocuments.length +
      change.removedDocuments.length ≤ 1 then
    if change.addedDocuments ≠ [] then some { limboResolution with documentReceived := true }
    else if change.modifiedDocuments ≠ [] then
      if limboResolution.documentReceived then some limboResolution else none
    else if change.removedDocuments ≠ [] then
      if limboResolution.documentReceived then
        some { limboResolution with documentReceived := false }
      else none
    else some limboResolution
  else none

/-- What an event says of one target; it may be that of a query. -/
def receiveTargetChange (l : LimboTracker) (r : TargetId × TargetChange) : Option LimboTracker :=
  match l.activeLimboResolutionsByTarget.get r.1 with
  | none => some l
  | some limboResolution =>
    (receive limboResolution r.2).map fun limboResolution =>
      { l with
        activeLimboResolutionsByTarget :=
          l.activeLimboResolutionsByTarget.put r.1 limboResolution }

/-- The part of an event that is about documents in limbo. -/
def applyRemoteEvent (l : LimboTracker) (e : RemoteEvent) : Option LimboTracker :=
  e.targetChanges.rows.foldlM receiveTargetChange l

end LimboTracker

end Lumiere.Firestore.Client

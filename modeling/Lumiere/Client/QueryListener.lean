import Lumiere.Client.QuerySnapshot

/-!
# Listeners of a query

A listener hears the snapshots of a view and raises those that its options ask for: the first one as
if all documents had been added, and later ones only if something has changed that the options
include. A listener that does not wait for the server is always up to date: a list that follows
nothing but the changes of the raised events shows what the view shows (`UpToDate`), whatever
snapshots are held back and however the connection comes and goes.
-/

namespace Lumiere.Firestore.Client

variable {q : CoreQuery}

/-- What a listener wants to hear of. -/
structure ListenOptions where
  includeQueryMetadataChanges : Bool
  includeDocumentMetadataChanges : Bool
  waitForSyncWhenOnline : Bool
  deriving DecidableEq

namespace ListenOptions

/-- A listener that hears of documents only. -/
def defaultOptions : ListenOptions :=
  ⟨false, false, false⟩

/-- The options of a listener of the app. -/
def fromIncludeMetadataChanges (includeMetadataChanges : Bool) : ListenOptions :=
  ⟨includeMetadataChanges, includeMetadataChanges, false⟩

end ListenOptions

/-- A listener of a query. -/
structure QueryListener (q : CoreQuery) where
  options : ListenOptions
  raisedInitialEvent : Bool
  onlineState : OnlineState
  snapshot : Option (ViewSnapshot q)

namespace QueryListener

/-- A listener that has not heard of anything. -/
def create (options : ListenOptions) : QueryListener q :=
  ⟨options, false, .unknown, none⟩

/-- Whether the first event is due; it is asked only before that. -/
def shouldRaiseInitialEvent (l : QueryListener q) (s : ViewSnapshot q) (onlineState : OnlineState) :
    Option Bool :=
  if l.raisedInitialEvent then none
  else if !s.fromCache then some true
  else if l.options.waitForSyncWhenOnline && onlineState != .offline then some false
  else some (!s.documents.sorted.isEmpty || onlineState == .offline)

/-- A snapshot is worth an event when it changes documents or what else the listener asks for. -/
def shouldRaiseEvent (l : QueryListener q) (s : ViewSnapshot q) : Bool :=
  if !s.documentChanges.isEmpty then true
  else
    let hasPendingWritesChanged :=
      l.snapshot.any fun old => old.hasPendingWrites != s.hasPendingWrites
    if s.syncStateChanged || hasPendingWritesChanged then l.options.includeQueryMetadataChanges
    else false

/-- The first event: all documents have been added. -/
def initialEvent (s : ViewSnapshot q) : ViewSnapshot q :=
  ViewSnapshot.fromInitialDocuments s.documents s.mutatedKeys s.fromCache s.excludesMetadataChanges

/-- The listener hears a snapshot of the view, which must say that something has changed. -/
def onViewSnapshot (l : QueryListener q) (s : ViewSnapshot q) :
    Option (QueryListener q × Option (ViewSnapshot q)) :=
  if s.documentChanges.isEmpty && !s.syncStateChanged then none
  else
    let s := if !l.options.includeDocumentMetadataChanges then s.withoutMetadataChanges else s
    if !l.raisedInitialEvent then do
      let due ← l.shouldRaiseInitialEvent s l.onlineState
      if due then
        pure ({ l with raisedInitialEvent := true, snapshot := some s }, some (initialEvent s))
      else pure ({ l with snapshot := some s }, none)
    else if l.shouldRaiseEvent s then some ({ l with snapshot := some s }, some s)
    else some ({ l with snapshot := some s }, none)

/-- A listener that waits for the server hears what there is once the client is offline. -/
def onOnlineStateChanged (l : QueryListener q) (onlineState : OnlineState) :
    Option (QueryListener q × Option (ViewSnapshot q)) :=
  match l.snapshot with
  | some s =>
    if !l.raisedInitialEvent then do
      let due ← l.shouldRaiseInitialEvent s onlineState
      if due then
        pure ({ l with onlineState := onlineState, raisedInitialEvent := true },
          some (initialEvent s))
      else pure ({ l with onlineState := onlineState }, none)
    else some ({ l with onlineState := onlineState }, none)
  | none => some ({ l with onlineState := onlineState }, none)

end QueryListener

/-! ## What a list that follows the events shows -/

/-- The looks of the documents of a set, in order. -/
def DocumentSet.looks (s : DocumentSet q) : List (DocumentKey × ObjectValue) :=
  s.sorted.map CoreQuery.Matching.look

/-- A list follows an event by its changes; without an event it stays. -/
def follow (shown : List (DocumentKey × ObjectValue)) (event : Option (ViewSnapshot q)) :
    Except String (List (DocumentKey × ObjectValue)) :=
  match event with
  | none => .ok shown
  | some s => (s.forEachChange false).map fun cs => cs.foldl ViewSnapshot.editLook shown

/-- A list that has followed the events of a listener shows what the view shows. -/
structure UpToDate (l : QueryListener q) (looks shown : List (DocumentKey × ObjectValue)) :
    Prop where
  eager : l.options.waitForSyncWhenOnline = false
  same : shown = looks
  waiting : l.raisedInitialEvent = false → shown = []
  snapshot : ∀ s, l.snapshot = some s → s.documents.looks = looks

namespace QueryListener

variable {l : QueryListener q} {s : ViewSnapshot q}

/-- Following the first event. -/
lemma follow_initialEvent : follow [] (some (initialEvent s)) = .ok s.documents.looks := by
  have faithful : (initialEvent s).Faithful := ViewSnapshot.faithful_fromInitialDocuments
  obtain ⟨cs, e, edits⟩ := ViewSnapshot.forEachChange_looks faithful
  rw [follow, e]
  exact congrArg Except.ok edits

/-- A first event that is held back shows no documents. -/
lemma documents_of_not_due (eager : l.options.waitForSyncWhenOnline = false)
    {onlineState : OnlineState} (e : l.shouldRaiseInitialEvent s onlineState = some false) :
    s.documents.looks = [] := by
  rw [shouldRaiseInitialEvent] at e
  split at e
  case isTrue => cases e
  case isFalse =>
    split at e
    case isTrue => cases e
    case isFalse =>
      rw [eager, Bool.false_and, if_neg Bool.false_ne_true, Option.some.injEq,
        Bool.or_eq_false_iff] at e
      have empty : s.documents.sorted.isEmpty = true := by simpa using e.1
      rw [DocumentSet.looks, List.isEmpty_iff.1 empty]
      rfl

/-- The listener answers whether the first event is due as long as it has not raised it. -/
lemma exists_shouldRaiseInitialEvent (no : l.raisedInitialEvent = false)
    (onlineState : OnlineState) : ∃ due, l.shouldRaiseInitialEvent s onlineState = some due := by
  rw [shouldRaiseInitialEvent, no, if_neg Bool.false_ne_true]
  split
  case isTrue => exact ⟨true, rfl⟩
  case isFalse =>
    split
    case isTrue => exact ⟨false, rfl⟩
    case isFalse => exact ⟨_, rfl⟩

/-- The first event, raised or held back: a list that follows it shows the documents. -/
lemma follow_initial (eager : l.options.waitForSyncWhenOnline = false)
    (no : l.raisedInitialEvent = false) (onlineState : OnlineState) :
    ∃ due, l.shouldRaiseInitialEvent s onlineState = some due ∧
      follow [] (if due then some (initialEvent s) else none) = .ok s.documents.looks ∧
      (due = false → s.documents.looks = []) := by
  obtain ⟨due, e⟩ := exists_shouldRaiseInitialEvent (s := s) no onlineState
  cases due with
  | true => exact ⟨true, e, follow_initialEvent, fun h => by cases h⟩
  | false =>
    have none_ := documents_of_not_due eager e
    exact ⟨false, e, congrArg Except.ok none_.symm, fun _ => none_⟩

/-- An event that is held back later on changes nothing one can see. -/
lemma looks_of_not_raised (faithful : s.Faithful)
    (none_ : s.withoutMetadataChanges.documentChanges = []) :
    s.documents.looks = s.oldDocuments.looks := by
  obtain ⟨changes, tells, mem⟩ := faithful.tells
  symm
  apply DocumentSet.map_look_eq
  intro k
  have net := tells k
  cases e : changes.get k with
  | none =>
    rw [e] at net
    rw [net]
  | some c =>
    have key := DocumentViewChangeSet.key_of_tells tells e
    have memc := (mem c).2 (by rw [key, e])
    have metadata : c.type = .metadata := by
      by_contra no
      have h : c ∈ s.withoutMetadataChanges.documentChanges :=
        List.mem_filter.2 ⟨memc, bne_iff_ne.2 no⟩
      rw [none_] at h
      cases h
    rw [e] at net
    obtain ⟨d, type⟩ := c
    obtain rfl : type = .metadata := metadata
    obtain ⟨⟨o, eo, value⟩, en⟩ := net
    rw [eo, en]
    exact congrArg some (Prod.ext ((IndexedSet.key_of_get eo).trans key.symm) value)

/-- A listener hears a snapshot of its view. -/
lemma onViewSnapshot_spec {shown : List (DocumentKey × ObjectValue)}
    (eager : l.options.waitForSyncWhenOnline = false)
    (raised : l.raisedInitialEvent = true → shown = s.oldDocuments.looks)
    (waiting : l.raisedInitialEvent = false → shown = []) (faithful : s.Faithful)
    (news : (s.documentChanges.isEmpty && !s.syncStateChanged) = false) :
    ∃ l' event shown', l.onViewSnapshot s = some (l', event) ∧ follow shown event = .ok shown' ∧
      UpToDate l' s.documents.looks shown' := by
  let s' := if !l.options.includeDocumentMetadataChanges then s.withoutMetadataChanges else s
  have docs : s'.documents = s.documents := by
    change (if _ then _ else _ : ViewSnapshot q).documents = _
    split <;> rfl
  have changes : s'.forEachChange false = s.forEachChange false := by
    change (if _ then _ else _ : ViewSnapshot q).forEachChange false = _
    split
    case isTrue => exact ViewSnapshot.forEachChange_withoutMetadataChanges faithful
    case isFalse => rfl
  have snapshot (l' : QueryListener q) (e : l'.snapshot = some s') :
      ∀ t, l'.snapshot = some t → t.documents.looks = s.documents.looks := by
    intro t et
    rw [e] at et
    cases et
    rw [docs]
  rw [onViewSnapshot, news, if_neg Bool.false_ne_true]
  change ∃ l' event shown', (if (!l.raisedInitialEvent) = true then _ else _) = _ ∧ _
  by_cases first : (!l.raisedInitialEvent) = true
  · have no : l.raisedInitialEvent = false := by simpa using first
    obtain ⟨due, e, follows, held⟩ := follow_initial (s := s') eager no l.onlineState
    rw [docs] at follows held
    rw [if_pos first, waiting no]
    change ∃ l' event shown', Option.bind (l.shouldRaiseInitialEvent s' l.onlineState) _ = _ ∧ _
    rw [e]
    cases due with
    | true =>
      refine ⟨{ l with raisedInitialEvent := true, snapshot := some s' }, _, _, rfl, follows, ?_⟩
      exact ⟨eager, rfl, (fun h => by cases h), snapshot _ rfl⟩
    | false =>
      refine ⟨{ l with snapshot := some s' }, _, _, rfl, follows, ?_⟩
      exact ⟨eager, rfl, fun _ => held rfl, snapshot _ rfl⟩
  · have yes : l.raisedInitialEvent = true := by simpa using first
    have ready : l.raisedInitialEvent = false → s.documents.looks = [] := by
      intro h
      rw [yes] at h
      cases h
    rw [if_neg first]
    change ∃ l' event shown', (if l.shouldRaiseEvent s' = true then _ else _) = _ ∧ _
    by_cases raise : l.shouldRaiseEvent s' = true
    · rw [if_pos raise, raised yes]
      obtain ⟨cs, ecs, edits⟩ := ViewSnapshot.forEachChange_looks faithful
      refine ⟨{ l with snapshot := some s' }, some s', s.documents.looks, rfl, ?_, eager, rfl,
        ready, snapshot _ rfl⟩
      rw [follow, changes, ecs]
      exact congrArg Except.ok edits
    · rw [if_neg raise, raised yes]
      have empty : s'.documentChanges = [] := by
        rw [shouldRaiseEvent] at raise
        split at raise
        case isTrue => exact absurd rfl raise
        case isFalse no => exact List.isEmpty_iff.1 (by simpa using no)
      have none_ : s.withoutMetadataChanges.documentChanges = [] := by
        change (if _ then _ else _ : ViewSnapshot q).documentChanges = _ at empty
        split at empty
        case isTrue => exact empty
        case isFalse =>
          change s.documentChanges.filter _ = []
          rw [empty]
          rfl
      refine ⟨{ l with snapshot := some s' }, none, s.documents.looks, rfl, ?_, eager, rfl,
        ready, snapshot _ rfl⟩
      exact congrArg Except.ok (looks_of_not_raised faithful none_).symm

/-- A listener hears whether the client reaches the server. -/
lemma onOnlineStateChanged_spec {looks shown : List (DocumentKey × ObjectValue)}
    (h : UpToDate l looks shown) (onlineState : OnlineState) :
    ∃ l' event shown', l.onOnlineStateChanged onlineState = some (l', event) ∧
      follow shown event = .ok shown' ∧ UpToDate l' looks shown' := by
  have keep : UpToDate { l with onlineState := onlineState } looks shown :=
    ⟨h.eager, h.same, h.waiting, h.snapshot⟩
  rw [onOnlineStateChanged]
  split
  case h_1 s es =>
    by_cases first : (!l.raisedInitialEvent) = true
    · have no : l.raisedInitialEvent = false := by simpa using first
      obtain ⟨due, e, follows, held⟩ := follow_initial (s := s) h.eager no onlineState
      rw [h.snapshot s es] at follows held
      rw [if_pos first, h.waiting no]
      change ∃ l' event shown', Option.bind (l.shouldRaiseInitialEvent s onlineState) _ = _ ∧ _
      rw [e]
      cases due with
      | true =>
        refine ⟨{ l with onlineState := onlineState, raisedInitialEvent := true }, _, _, rfl,
          follows, ?_⟩
        exact ⟨h.eager, rfl, (fun h' => by cases h'), h.snapshot⟩
      | false =>
        refine ⟨{ l with onlineState := onlineState }, _, _, rfl, follows, ?_⟩
        exact ⟨h.eager, rfl, fun _ => held rfl, h.snapshot⟩
    · rw [if_neg first]
      exact ⟨{ l with onlineState := onlineState }, none, shown, rfl, rfl, keep⟩
  case h_2 => exact ⟨{ l with onlineState := onlineState }, none, shown, rfl, rfl, keep⟩

end QueryListener

end Lumiere.Firestore.Client

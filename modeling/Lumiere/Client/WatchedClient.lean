import Lumiere.Client.SyncEngineCalls

/-!
# The whole client

The sync engine and the client's side of the watch stream run together. What the engine asks for, on
behalf of queries and of documents in limbo, goes to the stream; what the stream hears comes back to
the engine as the event of a snapshot. In every run the stream listens to what the engine thinks
that it listens to, and both know the same documents (`Sound`). So the events of the stream fit what
the engine expects of them, nothing fails, and each view knows what the server had named when it was
last told.
-/

namespace Lumiere.Firestore.Client

open Transition

/-- The sync engine and the stream, with the documents that the server had named for each target
    when the engine was last told of it, or that the client knew when it began to listen. -/
structure WatchedClient where
  engine : SyncEngine
  stream : WatchedStream
  reported : TargetId → DocumentKeySet

/-- What happens to the client. -/
inductive ClientEvent where
  | operation (e : SyncEvent)
  | onWatchStreamOpen
  | onWatchStreamClose
  | onWatchStreamChange (m : WatchChange) (version : SnapshotVersion)

namespace WatchedClient

open LimboTracker (Single Tied)

variable {c c' : WatchedClient}

/-- A client that has not been used. -/
def new (user : String) (maxConcurrentLimboResolutions : Nat) : WatchedClient :=
  ⟨.new user maxConcurrentLimboResolutions, .new, fun _ => SortedTable.empty⟩

/-- The stream answers the calls that an operation of the engine has made. -/
def answer (c : WatchedClient) (engine : SyncEngine) (known : TargetId → DocumentKeySet)
    (store : RemoteStore) : Option RemoteStore :=
  (engine.limbo.calls.drop c.engine.limbo.calls.length).foldlM (RemoteStore.call known) store

/-- A query that begins has been told what the client knows of it. -/
def reportedBy (c : WatchedClient) (t : TargetId) : SyncEvent → DocumentKeySet
  | .addQueryListener _ target _ =>
    if t = target.targetId ∧ c.engine.queryViews.contains t = false then target.remoteKeys
    else c.reported t
  | _ => c.reported t

/-- An operation of the sync engine. -/
def operation (c : WatchedClient) (e : SyncEvent) : Option WatchedClient := do
  let engine ← c.engine.step e
  let store ← c.answer engine e.known (e.before c.stream.store)
  pure ⟨engine, { c.stream with store := store }, fun t => c.reportedBy t e⟩

/-- The stream as it sees the local store. -/
def remoteStore (c : WatchedClient) : RemoteStore :=
  { c.stream.store with
    lastRemoteSnapshotVersion := c.engine.localStore.lastRemoteSnapshotVersion }

/-- A message; the event of a snapshot goes to the sync engine. -/
def onWatchStreamChange (c : WatchedClient) (m : WatchChange) (version : SnapshotVersion) :
    Option WatchedClient := do
  let (e, store) ← c.remoteStore.onWatchStreamChange m version
  let named := c.remoteStore.hear c.stream.named m
  match e with
  | none => pure { c with stream := ⟨store, named⟩ }
  | some e => do
    let engine ← c.engine.applyRemoteEvent e
    let store ← c.answer engine (fun _ => SortedTable.empty) store
    pure ⟨engine, ⟨store, named⟩, fun t =>
      if e.targetChanges.contains t then named t else c.reported t⟩

/-- One event of the client. -/
def step (c : WatchedClient) : ClientEvent → Option WatchedClient
  | .operation e => c.operation e
  | .onWatchStreamOpen =>
    some { c with stream := { c.stream with store := c.stream.store.onWatchStreamOpen } }
  | .onWatchStreamClose =>
    some { c with stream := { c.stream with store := c.stream.store.onWatchStreamClose } }
  | .onWatchStreamChange m version => c.onWatchStreamChange m version

/-- How the client calls and the server answers: the events of the engine come from the stream,
    messages come while the stream is open, and they are such as the server sends. -/
def Asks (c : WatchedClient) : ClientEvent → Prop
  | .operation e => c.engine.Asks e ∧ e.hasEvent = false
  | .onWatchStreamChange m version =>
    c.stream.Asks (.onWatchStreamChange m version) ∧ Single c.stream.store.provider m
  | _ => True

instance (c : WatchedClient) (e : ClientEvent) : Decidable (c.Asks e) := by
  cases e <;> dsimp only [Asks] <;> infer_instance

/-- The sync engine and the stream are consistent, and they agree on what they listen to and on what
    the server has named. -/
structure Sound (c : WatchedClient) : Prop where
  engine : c.engine.Consistent False False
  stream : c.stream.store.Follows c.stream.named
  tied : Tied c.engine.limbo c.stream.store c.stream.named
  same : ∀ t : Nat, t % 2 = 0 → c.stream.store.remoteKeys t = c.engine.synced t
  told : ∀ t keys, c.engine.synced t = some keys →
    ∀ k, keys.contains k = (c.reported t).contains k

/-- In the beginning nothing is listened to and nothing is known. -/
lemma new_sound {user : String} {n : Nat} : (new user n).Sound where
  engine := SyncEngine.new_consistent
  stream := RemoteStore.new_follows
  tied :=
    { targets := fun _ => rfl
      limbo := fun t limboResolution no => by cases no
      own := fun t limboResolution no => by cases no
      unnamed := fun _ _ _ _ => rfl }
  same _ _ := rfl
  told := fun t keys no => by cases no

/-- A query has an even number. -/
lemma Sound.even (h : c.Sound) {t : Nat} {qv : QueryView}
    (there : c.engine.queryViews.get t = some qv) : t % 2 = 0 := by
  have targets := h.engine.targets t
  rw [SortedTable.contains, there] at targets
  exact of_decide_eq_true (Bool.and_eq_true_iff.1 targets.symm).1

/-- The view of a query knows what the stream thinks it knows. -/
lemma Sound.target (h : c.Sound) {t : Nat} {qv : QueryView}
    (there : c.engine.queryViews.get t = some qv) :
    ∃ target, c.stream.store.listenTargets.get t = some target ∧
      target.remoteKeys = qv.view.syncedDocuments := by
  have same := h.same t (h.even there)
  rw [SyncEngine.synced, there] at same
  exact Option.map_eq_some_iff.1 same

/-- The stream knows of each target what the engine tells it when it asks. -/
lemma Sound.getRemoteKeys (h : c.Sound) (t : Nat) (k : DocumentKey) :
    (c.stream.store.provider.getRemoteKeysForTarget t).contains k =
      (c.engine.getRemoteKeys t).contains k := by
  rw [SyncEngine.getRemoteKeys]
  cases active : c.engine.limbo.activeLimboResolutionsByTarget.get t with
  | some limboResolution =>
    obtain ⟨target, listened, _, known⟩ := h.tied.limbo t limboResolution active
    have odd := (h.engine.limbo.watched t (by rw [SortedTable.contains, active]; rfl)).2.1
    obtain ⟨key, received⟩ := limboResolution
    rw [RemoteStore.provider_keys listened, Bool.eq_iff_iff, known]
    cases received with
    | true =>
      dsimp only
      rw [contains_put_key, Bool.or_eq_true, decide_eq_true_iff]
      exact ⟨fun h => .inl h.2, fun h => ⟨rfl, h.resolve_right fun no => by cases no⟩⟩
    | false =>
      have none_ : c.engine.queryViews.get t = none := by
        cases there : c.engine.queryViews.get t with
        | none => rfl
        | some qv =>
          have even := h.even there
          omega
      dsimp only
      rw [none_]
      exact iff_of_false (fun no => Bool.false_ne_true no.1) fun no => by cases no
  | none =>
    cases there : c.engine.queryViews.get t with
    | some qv =>
      obtain ⟨target, listened, keys⟩ := h.target there
      rw [RemoteStore.provider_keys listened, keys]
      rfl
    | none =>
      have out : c.stream.store.listenTargets.contains t = false := by
        rw [h.tied.targets]
        by_contra watched
        have watched' : c.engine.limbo.listenTargets.contains t = true :=
          Bool.not_eq_false _ ▸ watched
        have no : c.engine.limbo.activeLimboResolutionsByTarget.contains t = false := by
          rw [SortedTable.contains, active]
          rfl
        have targets := h.engine.targets t
        rw [SortedTable.contains, there, watched',
          decide_eq_true (h.engine.limbo.queries t watched' no)] at targets
        cases targets
      change ((c.stream.store.listenTargets.get t).elim SortedTable.empty
        ListenTarget.remoteKeys).contains k = _
      rw [SortedTable.contains_eq_false.1 out]
      rfl

/-! ## Operations -/

/-- The calls that an operation has added are those that the stream answers. -/
lemma answer_eq {engine : SyncEngine} {cs : List RemoteStoreCall}
    (calls : engine.limbo.calls = c.engine.limbo.calls ++ cs) (known : TargetId → DocumentKeySet)
    (store : RemoteStore) :
    c.answer engine known store = cs.foldlM (RemoteStore.call known) store := by
  rw [answer, calls, List.drop_left]

/-- What a query has been told does not change by an operation, unless it begins or ends. -/
lemma told_operation (h : c.Sound) {e : SyncEvent} (own : e.hasEvent = false) {t : TargetId}
    {keys : DocumentKeySet} (known : c.engine.syncedBy t e = some keys) (k : DocumentKey) :
    keys.contains k = (c.reportedBy t e).contains k := by
  cases e with
  | addQueryListener query target includeMetadataChanges =>
    rw [SyncEngine.syncedBy] at known
    rw [reportedBy]
    cases there : c.engine.queryViews.get t with
    | some qv =>
      rw [if_neg fun new => by
        rw [SortedTable.contains, there] at new
        cases new.2]
      refine h.told t keys ?_ k
      rw [SyncEngine.synced, there] at known ⊢
      split at known <;> exact known
    | none =>
      rw [SyncEngine.synced, there] at known
      split at known
      case isTrue ours =>
        rw [if_pos ⟨ours, SortedTable.contains_eq_false.2 there⟩]
        cases known
        rfl
      case isFalse => cases known
  | removeQueryListener targetId i =>
    rw [SyncEngine.syncedBy] at known
    split at known
    case isTrue => cases known
    case isFalse => exact h.told t keys known k
  | processTargetError targetId =>
    rw [SyncEngine.syncedBy] at known
    split at known
    case isTrue => cases known
    case isFalse => exact h.told t keys known k
  | applyRemoteEvent => cases own
  | _ => exact h.told t keys known k

/-- An operation succeeds, and the stream follows. -/
lemma operation_spec (h : c.Sound) {e : SyncEvent} (asks : c.engine.Asks e)
    (own : e.hasEvent = false) :
    ∃ c', c.step (.operation e) = some c' ∧ c'.Sound := by
  obtain ⟨engine, e1, inv, names⟩ :=
    SyncEngine.step_spec h.engine asks False.elim False.elim
  obtain ⟨cs, store, calls, e2, tied, follows, same⟩ :=
    SyncEngine.step_calls h.engine asks own e1 h.tied h.stream h.same
  refine ⟨⟨engine, { c.stream with store := store }, fun t => c.reportedBy t e⟩, ?_, inv, follows,
    tied, fun t even => (same t even).trans (names t).symm, fun t keys known =>
      told_operation h own ((names t).symm.trans known)⟩
  rw [step, operation, e1]
  change Option.bind (c.answer engine e.known (e.before c.stream.store)) _ = _
  rw [answer_eq calls, e2]
  rfl

/-! ## Messages -/

/-- The store knows the version, of which the stream knows nothing. -/
lemma Sound.remoteStore (h : c.Sound) : c.remoteStore.Follows c.stream.named :=
  ⟨h.stream.plain, h.stream.counts, h.stream.closed, h.stream.there, h.stream.known⟩

/-- Whatever the server says, the stream and the limbo resolution stay tied together. -/
lemma Sound.hear (h : c.Sound) {m : WatchChange} (single : Single c.stream.store.provider m) :
    Tied c.engine.limbo c.remoteStore (c.remoteStore.hear c.stream.named m) := by
  have tied : Tied c.engine.limbo c.remoteStore c.stream.named := h.tied.of_targets rfl
  exact tied.hear h.engine.limbo.toTidy single

variable {e : RemoteEvent} {store : RemoteStore} {named : TargetId → DocumentKeySet}

/-- What the stream raises fits what the engine has been told before. -/
lemma Sound.accepts (h : c.Sound) (tied : Tied c.engine.limbo c.remoteStore named)
    (raises : c.remoteStore.Raises e store named) : c.engine.Accepts e := by
  refine ⟨fun row mem => tied.accepts raises mem, ?_⟩
  intro t qv there
  obtain ⟨target, listened, keys⟩ := h.target there
  cases change : e.targetChanges.get t with
  | none => trivial
  | some targetChange =>
    intro k mem
    exact .inr (keys ▸ (raises.fits t target listened targetChange change).1.modified k mem)

/-- A snapshot of the stream does not go back and takes nothing for deleted on its own. -/
lemma raised_of_version {version : SnapshotVersion} (versioned : e.snapshotVersion = version)
    (some_ : version ≠ 0) (forward : c.engine.localStore.lastRemoteSnapshotVersion ≤ version) :
    c.engine.localStore.Raised e := by
  constructor
  case forward =>
    rw [versioned]
    exact .inr forward
  case removal =>
    intro no
    exact absurd (versioned.symm.trans no) some_

/-- An event that tells of a query leads its view to what the server has named. -/
lemma Sound.told_event (h : c.Sound) (raises : c.remoteStore.Raises e store named) {t : TargetId}
    {keys : DocumentKeySet} (before : c.engine.synced t = some keys) (k : DocumentKey) :
    (View.syncedAfter keys (e.targetChanges.get t)).contains k =
      (if e.targetChanges.contains t then named t else c.reported t).contains k := by
  cases change : e.targetChanges.get t with
  | none =>
    rw [SortedTable.contains_eq_false.2 change, if_neg Bool.false_ne_true]
    exact h.told t keys before k
  | some targetChange =>
    obtain ⟨qv, there, rfl⟩ := Option.map_eq_some_iff.1 before
    obtain ⟨target, listened, keys⟩ := h.target there
    have here : e.targetChanges.contains t = true := Option.isSome_iff_exists.2 ⟨_, change⟩
    rw [if_pos here, ← keys]
    exact (raises.fits t target listened targetChange change).2 k

/-- A snapshot. The engine takes its event, and the views know all that the server has named. -/
lemma snapshot_spec (h : c.Sound) {m : WatchChange} {version : SnapshotVersion}
    (asks : c.Asks (.onWatchStreamChange m version)) (some_ : version ≠ 0)
    (forward : c.engine.localStore.lastRemoteSnapshotVersion ≤ version) :
    ∃ c', c.step (.onWatchStreamChange m version) = some c' ∧ c'.Sound ∧
      ∀ t qv, c'.engine.queryViews.get t = some qv →
        c'.stream.store.watchChangeAggregator.outstanding t = 0 →
        ∀ k, qv.view.syncedDocuments.contains k = (c'.stream.named t).contains k := by
  obtain ⟨⟨open_, countable, answers⟩, single⟩ := asks
  obtain ⟨e, store, raised, versioned, raises, follows, agrees⟩ :=
    RemoteStore.onWatchStreamChange_raises h.remoteStore open_ countable answers some_ forward
  let named := c.remoteStore.hear c.stream.named m
  have tied : Tied c.engine.limbo c.remoteStore named := h.hear single
  have ok : c.engine.Accepts e := h.accepts tied raises
  obtain ⟨engine, applied, inv, names⟩ :=
    SyncEngine.applyRemoteEvent_spec h.engine (raised_of_version versioned some_ forward) ok
  -- the calls for the documents that have come into limbo or left it
  obtain ⟨limbo, received, calls⟩ :=
    SyncEngine.calls_applyRemoteEvent h.engine.limbo ok.limbo applied
  obtain ⟨⟨before, _⟩, _⟩ := LimboTracker.applyRemoteEvent_inv received
  obtain ⟨cs, store', appended, run, tied', follows', alike⟩ := calls.run (l := c.engine.limbo) []
    (fun _ => SortedTable.empty) (before.trans (List.append_nil _).symm) rfl
    (tied.applyRemoteEvent raises received) follows fun _ _ => rfl
  let c' : WatchedClient := ⟨engine, ⟨store', named⟩, fun t =>
    if e.targetChanges.contains t then named t else c.reported t⟩
  have h' : c'.Sound := by
    constructor
    case engine => exact inv
    case stream => exact follows'
    case tied => exact tied'
    case same =>
      intro t even
      have before : c.remoteStore.remoteKeys t = c.engine.synced t := h.same t even
      exact (alike t even).1.trans ((raises.keys t).trans (by rw [names, before]))
    case told =>
      intro t keys known k
      obtain ⟨keys0, before, after⟩ := Option.map_eq_some_iff.1 ((names t).symm.trans known)
      rw [← after]
      exact h.told_event raises before k
  refine ⟨c', ?_, h', ?_⟩
  · rw [step, onWatchStreamChange, raised]
    change Option.bind (c.engine.applyRemoteEvent e) _ = _
    rw [applied]
    change Option.bind (c.answer engine (fun _ => SortedTable.empty) store) _ = _
    rw [answer_eq appended, run]
    rfl
  · intro t qv there answered k
    obtain ⟨keys, quiet⟩ := alike t (h'.even there)
    obtain ⟨target', listened', keys'⟩ := h'.target there
    have known : store.remoteKeys t = some target'.remoteKeys := by
      rw [← keys, RemoteStore.remoteKeys, listened']
      rfl
    obtain ⟨target, listened, same⟩ := Option.map_eq_some_iff.1 known
    rw [← keys', ← same]
    exact agrees t target listened (quiet.symm.trans answered) k

/-- A message that raises nothing. -/
lemma message_spec (h : c.Sound) {m : WatchChange} {version : SnapshotVersion}
    (asks : c.Asks (.onWatchStreamChange m version))
    (no : ¬ (version ≠ 0 ∧ c.engine.localStore.lastRemoteSnapshotVersion ≤ version)) :
    ∃ c', c.step (.onWatchStreamChange m version) = some c' ∧ c'.Sound := by
  obtain ⟨⟨open_, countable, answers⟩, single⟩ := asks
  obtain ⟨store, quiet, targets, follows⟩ :=
    RemoteStore.onWatchStreamChange_quiet h.remoteStore open_ countable answers no
  refine ⟨{ c with stream := ⟨store, c.remoteStore.hear c.stream.named m⟩ }, ?_, h.engine, follows,
    (h.hear single).of_targets targets, fun t even => ?_, h.told⟩
  · rw [step, onWatchStreamChange, quiet]
    rfl
  · rw [← h.same t even, RemoteStore.remoteKeys, RemoteStore.remoteKeys, targets]
    rfl

/-! ## Runs -/

/-- Nothing that happens stops the client or parts the stream from the engine. -/
lemma step_spec (h : c.Sound) {e : ClientEvent} (asks : c.Asks e) :
    ∃ c', c.step e = some c' ∧ c'.Sound := by
  cases e with
  | operation e => exact operation_spec h asks.1 asks.2
  | onWatchStreamOpen =>
    have targets : c.stream.store.onWatchStreamOpen.listenTargets =
        c.stream.store.listenTargets :=
      (RemoteStore.requested_foldl (r := { c.stream.store with isOpen := true }) _).listenTargets
    exact ⟨_, rfl, h.engine, RemoteStore.onWatchStreamOpen_follows h.stream,
      h.tied.of_targets targets, fun t even =>
        RemoteStore.onWatchStreamOpen_remoteKeys.trans (h.same t even), h.told⟩
  | onWatchStreamClose =>
    exact ⟨_, rfl, h.engine, RemoteStore.onWatchStreamClose_follows, h.tied.of_targets rfl, h.same,
      h.told⟩
  | onWatchStreamChange m version =>
    by_cases raise : version ≠ 0 ∧ c.engine.localStore.lastRemoteSnapshotVersion ≤ version
    · obtain ⟨c', e, h', _⟩ := snapshot_spec h asks raise.1 raise.2
      exact ⟨c', e, h'⟩
    · exact message_spec h asks raise

/-- In every run the engine and the stream agree. -/
lemma sound_of_run {user : String} {n : Nat} {es : List ClientEvent}
    (rn : Run (Guarded (Fires step) Asks) (new user n) es c) : c.Sound := by
  apply rn.invariant_guarded _ new_sound
  intro c e c' st asks h
  obtain ⟨c'', e', h'⟩ := step_spec h asks
  cases e'.symm.trans st
  exact h'

/-- In every run of the whole client nothing fails. The stream listens to what the engine has asked
    for and knows of each target what the engine tells it. After each snapshot the view of each
    query whose target waits for no answer knows exactly the documents that the server has named for
    it, and at any time those that it had named when the engine was last told. So when a listener
    has been told that its documents are not from the cache, the server had named each document that
    it shows by then, or the document has a write of this device. -/
theorem run_named {user : String} {n : Nat} {es : List ClientEvent}
    (rn : Run (Guarded (Fires step) Asks) (new user n) es c) :
    (∀ e, c.Asks e → (c.step e).isSome = true) ∧
      (∀ t, c.stream.store.listenTargets.contains t = c.engine.limbo.listenTargets.contains t ∧
        ∀ k, (c.stream.store.provider.getRemoteKeysForTarget t).contains k =
          (c.engine.getRemoteKeys t).contains k) ∧
      (∀ m version c', c.Asks (.onWatchStreamChange m version) → version ≠ 0 →
        c.engine.localStore.lastRemoteSnapshotVersion ≤ version →
        c.step (.onWatchStreamChange m version) = some c' →
        ∀ t qv, c'.engine.queryViews.get t = some qv →
          c'.stream.store.watchChangeAggregator.outstanding t = 0 →
          ∀ k, qv.view.syncedDocuments.contains k = (c'.stream.named t).contains k) ∧
      ∀ t qv, c.engine.queryViews.get t = some qv →
        (∀ k, qv.view.syncedDocuments.contains k = (c.reported t).contains k) ∧
          ∀ snapshot, qv.viewSnapshot = some snapshot → snapshot.fromCache = false →
            ∀ l ∈ qv.listeners, ∀ k value, (k, value) ∈ l.shown →
              (c.reported t).contains k = true ∨
                (c.engine.localStore.readDocument k).hasPendingWrites = true := by
  have h := sound_of_run rn
  refine ⟨?_, fun t => ⟨h.tied.targets t, h.getRemoteKeys t⟩, ?_, ?_⟩
  · intro e asks
    obtain ⟨c', e', _⟩ := step_spec h asks
    exact Option.isSome_iff_exists.2 ⟨c', e'⟩
  · intro m version c' asks some_ forward st
    obtain ⟨c'', e, _, named⟩ := snapshot_spec h asks some_ forward
    cases e.symm.trans st
    exact named
  · intro t qv there
    have synced : c.engine.synced t = some qv.view.syncedDocuments := by
      rw [SyncEngine.synced, there]
      rfl
    refine ⟨h.told t _ synced, ?_⟩
    intro snapshot last fresh l mem k value shown
    rw [← h.told t _ synced]
    exact (h.engine.explained there last fresh mem).2 k value shown

/-- The server says that a film is gone. -/
def goneFilm (id : String) (t : TargetId) : WatchChange :=
  .document
    { updatedTargetIds := []
      removedTargetIds := [t]
      documentKey := WatchedStream.film id
      newDocument := some (.noDocument (WatchedStream.film id) 3)
      keyed := by
        intro d e
        cases e
        rfl }

/-- The server sends two films of the wishlist and then names only the second. The first is in limbo
    now; the client asks for it by target 1, and it is gone. -/
def limboFilm : List ClientEvent :=
  [.operation (.addQueryListener LocalStore.wishlist ⟨2, 0, SortedTable.empty⟩ false),
    .onWatchStreamOpen,
    .onWatchStreamChange (.targetChange .added [2] "") 0,
    .onWatchStreamChange (WatchedStream.sendFilm "1") 0,
    .onWatchStreamChange (WatchedStream.sendFilm "2") 0,
    .onWatchStreamChange (.targetChange .current [2] "") 1,
    .onWatchStreamChange (.targetChange .reset [2] "") 0,
    .onWatchStreamChange (WatchedStream.sendFilm "2") 0,
    .onWatchStreamChange (.targetChange .current [2] "") 2,
    .onWatchStreamChange (.targetChange .added [1] "") 0,
    .onWatchStreamChange (goneFilm "1" 1) 0]

/-- The server has said all about the first film. -/
def allSaid : ClientEvent :=
  .onWatchStreamChange (.targetChange .current [1] "") 3

/-- Only the second film is shown then, and not from the cache. -/
theorem run_named_limboFilm :
    ∃ (c c' : WatchedClient) (qv : QueryView) (l : Subscriber qv.query),
      Run (Guarded (Fires step) Asks) (new "a@b.c" 10) limboFilm c ∧
      c.engine.limbo.listenTargets.contains 1 = true ∧ c.step allSaid = some c' ∧
      c'.engine.queryViews.get 2 = some qv ∧ l ∈ qv.listeners ∧ l.shown.length = 1 ∧
      (∀ k, qv.view.syncedDocuments.contains k = (c'.stream.named 2).contains k) ∧
      ∀ k value, (k, value) ∈ l.shown → (c'.reported 2).contains k = true ∨
        (c'.engine.localStore.readDocument k).hasPendingWrites = true := by
  obtain ⟨c, rn, good⟩ := exists_run (guardedStep step Asks) (new "a@b.c" 10) limboFilm
    (fun c => decide (c.Asks allSaid) && (c.engine.limbo.listenTargets.contains 1 &&
      (decide (c.engine.localStore.lastRemoteSnapshotVersion ≤ 3) &&
        (c.step allSaid).any fun c' =>
          c'.stream.store.watchChangeAggregator.outstanding 2 == 0 &&
            (c'.engine.queryViews.get 2).any fun (qv : QueryView) =>
              (qv.viewSnapshot.any fun snapshot => !snapshot.fromCache) &&
                qv.listeners.any fun l => l.shown.length == 1)))
    (by decide +kernel)
  obtain ⟨asks, good⟩ := Bool.and_eq_true_iff.1 good
  obtain ⟨resolving, good⟩ := Bool.and_eq_true_iff.1 good
  obtain ⟨forward, good⟩ := Bool.and_eq_true_iff.1 good
  obtain ⟨c', st, good⟩ := (Option.any_eq_true _ _).1 good
  obtain ⟨answered, good⟩ := Bool.and_eq_true_iff.1 good
  obtain ⟨qv, there, good⟩ := (Option.any_eq_true _ _).1 good
  obtain ⟨told, shown⟩ := Bool.and_eq_true_iff.1 good
  obtain ⟨snapshot, last, fresh⟩ := (Option.any_eq_true _ _).1 told
  obtain ⟨l, mem, one⟩ := List.any_eq_true.1 shown
  have before := Run.of_guardedStep rn
  have after := before.append (.single ⟨st, of_decide_eq_true asks⟩)
  exact ⟨c, c', qv, l, before, resolving, st, there, mem, beq_iff_eq.1 one,
    (run_named before).2.2.1 _ 3 c' (of_decide_eq_true asks) (by decide)
      (of_decide_eq_true forward) st 2 qv there (beq_iff_eq.1 answered),
    ((run_named after).2.2.2 2 qv there).2 snapshot last (by simpa using fresh) l mem⟩

end WatchedClient

end Lumiere.Firestore.Client

import Lumiere.Client.RemoteStoreCalls

/-!
# The calls of each operation

Each operation of the sync engine leaves calls for the remote store: a new query, one that nobody
listens to any longer, and documents that come into limbo or leave it. Once the remote store has
answered them, it listens to what the engine thinks that it listens to, and both know the same
documents for every query (`step_calls`).
-/

namespace Lumiere.Firestore.Client

namespace SyncEvent

/-- The documents that the view of a new query begins with. -/
def known : SyncEvent → TargetId → DocumentKeySet
  | .addQueryListener _ target _, t =>
    if t = target.targetId then target.remoteKeys else SortedTable.empty
  | _, _ => SortedTable.empty

/-- What the stream does on its own before the engine hears of an event: it gives up a target that
    is refused. -/
def before (r : RemoteStore) : SyncEvent → RemoteStore
  | .processTargetError targetId => r.processTargetErrorOf targetId
  | _ => r

/-- Whether an operation brings the event of a snapshot. -/
def hasEvent : SyncEvent → Bool
  | .applyRemoteEvent _ => true
  | _ => false

end SyncEvent

namespace SyncEngine

open LimboTracker (Calls Tied)

variable {full answered : Prop} {s s' : SyncEngine}

/-- The views report their documents in limbo. -/
lemma calls_emit {changes : DocumentMap} {remoteEvent : Option RemoteEvent}
    (tr : s.limbo.Tracks)
    (e : s.emitNewSnapshotsAndNotifyLocalStore changes remoteEvent = some s') :
    Calls s.limbo s'.limbo := by
  obtain ⟨⟨emissions, store, limbo⟩, e1, e2⟩ := Option.bind_eq_some_iff.1 e
  obtain ⟨queryViews, _, e3⟩ := Option.bind_eq_some_iff.1 e2
  cases e3
  refine (SortedTable.traverse_state (P := fun r : LocalStore × LimboTracker =>
    r.2.Tracks ∧ Calls s.limbo r.2) ?_ e1 ⟨tr, .refl⟩).2
  rintro ⟨store, limbo⟩ t qv emission ⟨store', limbo'⟩ ev ⟨tr, calls⟩
  obtain ⟨⟨viewDocChanges, store1⟩, _, ev⟩ := Option.bind_eq_some_iff.1 ev
  obtain ⟨⟨view, viewChange⟩, _, ev⟩ := Option.bind_eq_some_iff.1 ev
  obtain ⟨limbo1, reported, ev⟩ := Option.bind_eq_some_iff.1 ev
  cases ev
  obtain ⟨limbo2, reported', steps, _⟩ :=
    LimboTracker.updateTrackedLimboDocuments_spec t tr viewChange.limboChanges
  cases reported.symm.trans reported'
  exact ⟨steps.tracks, calls.trans (LimboTracker.calls_updateTrackedLimboDocuments tr reported)⟩

/-- An event of the stream. -/
lemma calls_applyRemoteEvent (tr : s.limbo.Tracks) {e : RemoteEvent}
    (ok : ∀ r ∈ e.targetChanges.rows, s.limbo.Accepts r) (made : s.applyRemoteEvent e = some s') :
    ∃ limbo, s.limbo.applyRemoteEvent e = some limbo ∧ Calls limbo s'.limbo := by
  obtain ⟨limbo, e1, made⟩ := Option.bind_eq_some_iff.1 made
  obtain ⟨⟨changes, store⟩, _, made⟩ := Option.bind_eq_some_iff.1 made
  obtain ⟨limbo', e2, steps, _⟩ := LimboTracker.applyRemoteEvent_spec tr ok
  cases e1.symm.trans e2
  exact ⟨limbo, e1, calls_emit (s := { s with localStore := store, limbo := limbo }) steps.tracks
    made⟩

/-- A new query is one new target; another listener of a query is none. -/
lemma limbo_addQueryListener (inv : s.Consistent full answered) {query : CoreQuery}
    {target : AllocatedTarget} {includeMetadataChanges : Bool}
    (made : s.addQueryListener query target includeMetadataChanges = some s') :
    s'.limbo = if s.queryViews.contains target.targetId then s.limbo
      else s.limbo.listen ⟨query, target.targetId, .listen⟩ := by
  rw [addQueryListener] at made
  cases there : s.queryViews.get target.targetId with
  | some qv =>
    rw [there] at made
    obtain ⟨subscriber, _, made⟩ := Option.bind_eq_some_iff.1 made
    obtain ⟨qv', _, made⟩ := Option.bind_eq_some_iff.1 made
    cases made
    rw [SortedTable.contains, there]
    rfl
  | none =>
    rw [there] at made
    obtain ⟨subscriber, _, made⟩ := Option.bind_eq_some_iff.1 made
    obtain ⟨⟨view, snapshot, s1⟩, begun, made⟩ := Option.bind_eq_some_iff.1 made
    obtain ⟨subscriber', _, made⟩ := Option.bind_eq_some_iff.1 made
    cases made
    obtain ⟨view', snapshot', store, begun', _⟩ :=
      initializeViewAndComputeSnapshot_spec
        (s := { s with limbo := s.limbo.listen ⟨query, target.targetId, .listen⟩ }) inv.store query
        target False.elim
    cases begun.symm.trans begun'
    rw [SortedTable.contains, there]
    rfl

/-- From a state `r` on, the stream can make the calls of an operation; then it is tied to the tables
    again, and `keys` is what it knows of the queries. -/
def CatchesUp (s s' : SyncEngine) (known : TargetId → DocumentKeySet) (r : RemoteStore)
    (named : TargetId → DocumentKeySet) (keys : TargetId → Option DocumentKeySet) : Prop :=
  ∃ cs r', s'.limbo.calls = s.limbo.calls ++ cs ∧
    cs.foldlM (RemoteStore.call known) r = some r' ∧ Tied s'.limbo r' named ∧
    r'.Follows named ∧ ∀ t : Nat, t % 2 = 0 → r'.remoteKeys t = keys t

/-- What is known of the queries may be said in another way. -/
lemma CatchesUp.of_keys {known : TargetId → DocumentKeySet} {r : RemoteStore}
    {named : TargetId → DocumentKeySet} {keys keys' : TargetId → Option DocumentKeySet}
    (h : CatchesUp s s' known r named keys) (same : ∀ t, keys t = keys' t) :
    CatchesUp s s' known r named keys' := by
  obtain ⟨cs, r', appended, run, tied, follows, names⟩ := h
  exact ⟨cs, r', appended, run, tied, follows, fun t even => (names t even).trans (same t)⟩

/-- A view that begins knows nothing of a document in limbo. -/
lemma known_odd {e : SyncEvent} (asks : s.Asks e) {t : Nat} (odd : t % 2 = 1) :
    e.known t = SortedTable.empty := by
  cases e with
  | addQueryListener query target includeMetadataChanges =>
    refine if_neg ?_
    rintro rfl
    exact Nat.zero_ne_one (Eq.symm asks ▸ odd)
  | _ => rfl

/-- The target of a new query. -/
lemma listen_calls (inv : s.Consistent full answered) {query : CoreQuery}
    {target : AllocatedTarget} {includeMetadataChanges : Bool}
    (even : (target.targetId : Nat) % 2 = 0)
    (made : s.addQueryListener query target includeMetadataChanges = some s')
    {known : TargetId → DocumentKeySet} (first : known target.targetId = target.remoteKeys)
    {r : RemoteStore} {named : TargetId → DocumentKeySet} (tied : Tied s.limbo r named)
    (follows : r.Follows named) (same : ∀ t : Nat, t % 2 = 0 → r.remoteKeys t = s.synced t) :
    CatchesUp s s' known r named fun t =>
      if t = target.targetId then some ((s.synced t).getD target.remoteKeys)
      else s.synced t := by
  have limbo := limbo_addQueryListener inv made
  by_cases there : s.queryViews.contains target.targetId = true
  · rw [if_pos there] at limbo
    rw [CatchesUp, limbo]
    refine ⟨[], r, (List.append_nil _).symm, rfl, tied, follows, fun t even' => ?_⟩
    rw [same t even']
    split
    case isTrue ours =>
      obtain ⟨qv, there⟩ := Option.isSome_iff_exists.1 there
      rw [ours, synced, there]
      rfl
    case isFalse => rfl
  · have new : s.limbo.listenTargets.contains target.targetId = false := by
      have targets := inv.targets target.targetId
      rw [decide_eq_true even, Bool.true_and] at targets
      exact targets.symm.trans (Bool.not_eq_true _ ▸ there)
    rw [if_neg there, LimboTracker.listen, if_neg (by simp [new])] at limbo
    rw [CatchesUp, limbo]
    refine ⟨_, _, rfl, rfl, ?_, RemoteStore.listen_follows follows _, fun t even' => ?_⟩
    · exact tied.listen new rfl (fun _ _ => .inl) le_rfl
    · refine (RemoteStore.listen_remoteKeys _ t).trans ?_
      rw [same t even', ← first]

/-- The target of a query that nobody listens to any longer. -/
lemma stopListening_calls (inv : s.Consistent full answered) {t : Nat} (even : t % 2 = 0)
    (made : s.stopListening t = some s') {known : TargetId → DocumentKeySet}
    (none_ : ∀ t : Nat, t % 2 = 1 → known t = SortedTable.empty) {r : RemoteStore}
    {named : TargetId → DocumentKeySet} (tied : Tied s.limbo r named) (follows : r.Follows named)
    (same : ∀ t : Nat, t % 2 = 0 → r.remoteKeys t = s.synced t) :
    CatchesUp s s' known r named fun u => if u = t then none else s.synced u := by
  obtain ⟨l1, e1, made⟩ := Option.bind_eq_some_iff.1 made
  obtain ⟨l2, e2, made⟩ := Option.bind_eq_some_iff.1 made
  cases made
  have no := LimboTracker.not_active_of_even inv.limbo.toTidy even
  rw [LimboTracker.stopListening] at e1
  split at e1
  case isFalse => cases e1
  case isTrue watched =>
    cases e1
    obtain ⟨r1, er1, follows1⟩ := RemoteStore.stopListening_follows follows
      ((tied.targets t).trans watched)
    have calls := LimboTracker.calls_removeAndCleanupTarget
      (inv.limbo.forget no (s.limbo.calls ++ [.stopListening t])) e2
    have tied1 : Tied { s.limbo with
        listenTargets := s.limbo.listenTargets.delete t
        calls := s.limbo.calls ++ [.stopListening t] } r1 named := by
      refine tied.drop (RemoteStore.stopListening_listenTargets er1) rfl ?_ rfl
      intro u limboResolution there
      refine ⟨?_, there⟩
      rintro rfl
      rw [SortedTable.contains, there] at no
      cases no
    obtain ⟨cs, r', appended, run, tied', follows', same'⟩ := calls.run (l := s.limbo) (r := r)
      [.stopListening t] known rfl (by
        change Option.bind (r.stopListening t) _ = _
        rw [er1]
        rfl) tied1 follows1 none_
    refine ⟨cs, r', appended, run, tied', follows', fun u even' => ?_⟩
    rw [(same' u even').1, RemoteStore.stopListening_remoteKeys er1, same u even']

/-- A target that the server refuses. -/
lemma processTargetError_calls (inv : s.Consistent full answered) {t : Nat}
    (made : s.processTargetError t = some s') {known : TargetId → DocumentKeySet}
    (none_ : ∀ t : Nat, t % 2 = 1 → known t = SortedTable.empty) {r : RemoteStore}
    {named : TargetId → DocumentKeySet} (tied : Tied s.limbo r named) (follows : r.Follows named)
    (same : ∀ t : Nat, t % 2 = 0 → r.remoteKeys t = s.synced t) :
    CatchesUp s s' known (r.processTargetErrorOf t) named fun u =>
      if u = t then none else s.synced u := by
  have names (u : Nat) (even : u % 2 = 0) :
      (r.processTargetErrorOf t).remoteKeys u = if u = t then none else s.synced u := by
    rw [RemoteStore.processTargetErrorOf_remoteKeys, same u even]
  have follows1 := RemoteStore.processTargetErrorOf_follows (t := t) follows
  rw [processTargetError] at made
  by_cases watched : s.limbo.listenTargets.contains t = true
  · rw [watched, if_neg (by decide)] at made
    obtain ⟨⟨l', refused⟩, e, made⟩ := Option.bind_eq_some_iff.1 made
    obtain ⟨l1, begun, calls, drop⟩ :=
      LimboTracker.calls_handleRejectedListen inv.limbo watched e
    obtain ⟨l'', refused', e', steps, _⟩ := LimboTracker.handleRejectedListen_spec t inv.limbo
    cases e.symm.trans e'
    have rest : Calls l1 s'.limbo := by
      cases refused with
      | none =>
        cases made
        exact calls
      | some key =>
        obtain ⟨limbo, e2, calls2⟩ := calls_applyRemoteEvent
          (s := { s with limbo := l' }) steps.tracks deletion_accepts.limbo made
        cases e2
        exact calls.trans calls2
    obtain ⟨cs, r', appended, run, tied', follows', same'⟩ := rest.run (l := s.limbo) [] known
      (begun.trans (List.append_nil _).symm) rfl (drop r named tied) follows1 none_
    exact ⟨cs, r', appended, run, tied', follows', fun u even =>
      (same' u even).1.trans (names u even)⟩
  · rw [if_pos (by simpa using watched)] at made
    cases made
    have out : r.processTargetErrorOf t = r := by
      rw [RemoteStore.processTargetErrorOf, tied.targets, if_neg watched]
    rw [out] at follows1 names ⊢
    exact ⟨[], r, (List.append_nil _).symm, rfl, tied, follows, names⟩

/-- Whatever the engine does, the stream can do what it asks for, and both know the same documents
    again. -/
lemma step_calls (inv : s.Consistent full answered) {e : SyncEvent} (asks : s.Asks e)
    (own : e.hasEvent = false) (st : s.step e = some s') {r : RemoteStore}
    {named : TargetId → DocumentKeySet} (tied : Tied s.limbo r named) (follows : r.Follows named)
    (same : ∀ t : Nat, t % 2 = 0 → r.remoteKeys t = s.synced t) :
    CatchesUp s s' e.known (e.before r) named fun t => s.syncedBy t e := by
  have none_ (t : Nat) (odd : t % 2 = 1) : e.known t = SortedTable.empty := known_odd asks odd
  -- what only the views ask for
  have views (calls : Calls s.limbo s'.limbo) :
      CatchesUp s s' e.known r named s.synced := by
    obtain ⟨cs, r', appended, run, tied', follows', same'⟩ := calls.run (l := s.limbo) []
      e.known (List.append_nil _).symm rfl tied follows none_
    exact ⟨cs, r', appended, run, tied', follows', fun t even =>
      (same' t even).1.trans (same t even)⟩
  have emits {store : LocalStore} {changes : DocumentMap}
      (made : ({ s with localStore := store } : SyncEngine).emitNewSnapshotsAndNotifyLocalStore
        changes none = some s') : Calls s.limbo s'.limbo :=
    calls_emit (s := { s with localStore := store }) inv.limbo made
  cases e with
  | addQueryListener query target includeMetadataChanges =>
    exact listen_calls inv asks st (if_pos rfl) tied follows same
  | removeQueryListener targetId i =>
    change s.removeQueryListener targetId i = some s' at st
    rw [removeQueryListener] at st
    cases there : s.queryViews.get targetId with
    | none =>
      rw [there] at st
      cases st
      refine (views .refl).of_keys fun t => ?_
      rw [syncedBy, isLast, there, if_neg]
      simp
    | some qv =>
      rw [there] at st
      dsimp only at st
      split at st
      case isTrue last =>
        have targets := inv.targets targetId
        rw [SortedTable.contains, there] at targets
        have even := of_decide_eq_true (Bool.and_eq_true_iff.1 targets.symm).1
        refine (stopListening_calls inv even st none_ tied follows same).of_keys fun t => ?_
        rw [syncedBy, isLast, there, Option.any_some, last]
        simp only [and_true]
      case isFalse others =>
        cases st
        refine (views .refl).of_keys fun t => ?_
        rw [syncedBy, isLast, there, Option.any_some, if_neg fun h => others h.2]
  | writeMutations mutations =>
    obtain ⟨⟨_, changes, store⟩, _, made⟩ := Option.bind_eq_some_iff.1 st
    exact views (emits made)
  | handleSuccessfulWrite result =>
    obtain ⟨⟨changes, store⟩, _, made⟩ := Option.bind_eq_some_iff.1 st
    exact views (emits made)
  | handleRejectedWrite batchId =>
    obtain ⟨⟨changes, store⟩, _, made⟩ := Option.bind_eq_some_iff.1 st
    exact views (emits made)
  | handleCredentialChange user =>
    change s.handleCredentialChange user = some s' at st
    rw [handleCredentialChange] at st
    split at st
    case isTrue =>
      obtain ⟨⟨changes, store⟩, _, made⟩ := Option.bind_eq_some_iff.1 st
      exact views (emits made)
    case isFalse =>
      cases st
      exact views .refl
  | applyRemoteEvent => cases own
  | processTargetError targetId =>
    exact processTargetError_calls inv st none_ tied follows same
  | handleOnlineStateChange onlineState =>
    obtain ⟨⟨emissions, _⟩, _, made⟩ := Option.bind_eq_some_iff.1 st
    obtain ⟨queryViews, _, made⟩ := Option.bind_eq_some_iff.1 made
    obtain ⟨⟨queryViews', _⟩, _, made⟩ := Option.bind_eq_some_iff.1 made
    cases made
    exact views .refl

end SyncEngine

end Lumiere.Firestore.Client

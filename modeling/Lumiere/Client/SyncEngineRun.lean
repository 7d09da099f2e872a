import Lumiere.Client.SyncEngineInvariant

/-!
# Runs of the sync engine

Each operation of the sync engine, called as the client calls it, succeeds and leaves all listeners
with what their views show. So after any operations in any order the list of every listener has the
documents of its query as the local view has them, no matter that it has followed nothing but
changes; when nothing was missing in the beginning, it is the list that the query, asked anew, would
give.
-/

namespace Lumiere.Firestore.Client

open Transition

/-- Nothing is missing when a query begins anew, or when the documents that it has returned before
    cover it. -/
def AllocatedTarget.Covers (target : AllocatedTarget) (store : LocalStore) (query : CoreQuery) :
    Prop :=
  target.lastLimboFreeSnapshotVersion = 0 ∨ QueryEngine.Covers store.localDocuments query
    target.lastLimboFreeSnapshotVersion (target.remoteKeys.rows.map Prod.fst)

/-- What happens to the client. -/
inductive SyncEvent where
  | addQueryListener (query : CoreQuery) (target : AllocatedTarget) (includeMetadataChanges : Bool)
  | removeQueryListener (targetId : TargetId) (i : Nat)
  | writeMutations (mutations : List Mutation)
  | handleSuccessfulWrite (r : MutationBatchResult)
  | handleRejectedWrite (batchId : BatchId)
  | handleCredentialChange (user : String)
  | applyRemoteEvent (e : RemoteEvent)
  | processTargetError (targetId : TargetId)
  | handleOnlineStateChange (onlineState : OnlineState)

/-- Before its first documents a view shows none with local mutations. -/
lemma mutated_create {q : CoreQuery} (keys : DocumentKeySet) :
    Mutated (View.create (q := q) keys).documentSet (View.create (q := q) keys).mutatedKeys := by
  intro k
  refine iff_of_false (fun c => by cases c) ?_
  rintro ⟨a, ea, _⟩
  cases ea

namespace SyncEngine

variable {full answered : Prop} {lv : DocumentKey → MutableDocument} {s : SyncEngine}

/-- The documents that the server has named for a query, as far as its view knows. -/
def synced (s : SyncEngine) (t : TargetId) : Option DocumentKeySet :=
  (s.queryViews.get t).map fun qv => qv.view.syncedDocuments

/-- The views know what the event says of their targets. -/
lemma Moves.synced {e : Option RemoteEvent} {s' : SyncEngine} (moves : Moves e s s')
    (t : TargetId) : s'.synced t = (s.synced t).map fun keys =>
      View.syncedAfter keys (e.bind fun e => e.targetChanges.get t) := by
  rw [SyncEngine.synced, SyncEngine.synced]
  cases e' : s'.queryViews.get t with
  | none =>
    have gone := (moves.contains t).symm.trans (SortedTable.contains_eq_false.2 e')
    rw [SortedTable.contains_eq_false.1 gone]
    rfl
  | some qv' =>
    obtain ⟨qv, v', viewSnapshot, listeners, there, rfl, follows⟩ := moves.views t qv' e'
    rw [there]
    exact congrArg some follows.syncedDocuments

/-- Without an event the server has named nothing. -/
lemma Moves.synced_none {s' : SyncEngine} (moves : Moves none s s') (t : TargetId) :
    s'.synced t = s.synced t :=
  (moves.synced t).trans Option.map_id'

/-! ## What happens to documents -/

/-- Another consistent store leaves what the views show. -/
lemma ShowsView.withStore (inv : s.ShowsView full answered lv) {store : LocalStore}
    (cs : store.Consistent) :
    ({ s with localStore := store } : SyncEngine).ShowsView full answered lv :=
  { inv with store := cs }

/-- Any change of the local store, as the views and the listeners take it over. -/
lemma exists_emit (inv : s.Consistent full answered) {store : LocalStore} (cs : store.Consistent)
    {changes : DocumentMap}
    (reports : Reports s.localStore.localDocuments store.localDocuments changes)
    (e : Option RemoteEvent)
    (ok : ∀ t qv, s.queryViews.get t = some qv →
      qv.view.Accepts (e.bind fun e => e.targetChanges.get t)) :
    ∃ s', ({ s with localStore := store } : SyncEngine).emitNewSnapshotsAndNotifyLocalStore changes
        e = some s' ∧ s'.Consistent full answered ∧ Moves e { s with localStore := store } s' :=
  emitNewSnapshotsAndNotifyLocalStore_spec (s := { s with localStore := store })
    (inv.withStore cs) (change_of_reports reports) e ok

/-- A write succeeds. -/
lemma writeMutations_spec (inv : s.Consistent full answered) {mutations : List Mutation}
    (ne : mutations ≠ []) :
    ∃ s', s.writeMutations mutations = some s' ∧ s'.Consistent full answered ∧
      ∀ t, s'.synced t = s.synced t := by
  obtain ⟨batch, changes, v', e, _, cv', _, _, _, reports⟩ :=
    LocalStore.writeLocally_spec inv.store ne
  obtain ⟨s', e', inv', moves⟩ := exists_emit inv (inv.store.withView cv') reports none
    fun _ _ _ => trivial
  refine ⟨s', ?_, inv', moves.synced_none⟩
  rw [writeMutations, e]
  exact e'

/-- The answer to a pending batch succeeds. -/
lemma handleSuccessfulWrite_spec (inv : s.Consistent full answered) {r : MutationBatchResult}
    (mem : r.batch ∈ s.localStore.mutationQueue.allMutationBatches) :
    ∃ s', s.handleSuccessfulWrite r = some s' ∧ s'.Consistent full answered ∧
      ∀ t, s'.synced t = s.synced t := by
  obtain ⟨changes, v', e, cv', _, _, reports⟩ := LocalStore.acknowledgeBatch_spec inv.store mem
  obtain ⟨s', e', inv', moves⟩ := exists_emit inv (inv.store.withView cv') reports none
    fun _ _ _ => trivial
  refine ⟨s', ?_, inv', moves.synced_none⟩
  rw [handleSuccessfulWrite, e]
  exact e'

/-- The rejection of a pending batch succeeds. -/
lemma handleRejectedWrite_spec (inv : s.Consistent full answered) {b : MutationBatch}
    (mem : b ∈ s.localStore.mutationQueue.allMutationBatches) :
    ∃ s', s.handleRejectedWrite b.batchId = some s' ∧ s'.Consistent full answered ∧
      ∀ t, s'.synced t = s.synced t := by
  obtain ⟨changes, v', e, cv', _, _, reports⟩ := LocalStore.rejectBatch_spec inv.store mem
  obtain ⟨s', e', inv', moves⟩ := exists_emit inv (inv.store.withView cv') reports none
    fun _ _ _ => trivial
  refine ⟨s', ?_, inv', moves.synced_none⟩
  rw [handleRejectedWrite, e]
  exact e'

/-- Another user can sign in at any time. -/
lemma handleCredentialChange_spec (inv : s.Consistent full answered) (user : String) :
    ∃ s', s.handleCredentialChange user = some s' ∧ s'.Consistent full answered ∧
      ∀ t, s'.synced t = s.synced t := by
  rw [handleCredentialChange]
  split
  case isFalse => exact ⟨s, rfl, inv, fun _ => rfl⟩
  case isTrue =>
    obtain ⟨changes, v', e, cv', _, _, reports⟩ :=
      LocalStore.handleUserChange_spec inv.store user
    obtain ⟨s', e', inv', moves⟩ := exists_emit inv (inv.store.switchUser.withView cv') reports
      none fun _ _ _ => trivial
    refine ⟨s', ?_, inv', moves.synced_none⟩
    rw [e]
    exact e'

/-- What an event may say of the targets: it fits what the server has said of them before. -/
structure Accepts (s : SyncEngine) (e : RemoteEvent) : Prop where
  limbo : ∀ r ∈ e.targetChanges.rows, s.limbo.Accepts r
  views : ∀ t qv, s.queryViews.get t = some qv → qv.view.Accepts (e.targetChanges.get t)

/-- An event that fits what has been said before succeeds. -/
lemma applyRemoteEvent_spec (inv : s.Consistent full answered) {e : RemoteEvent}
    (raised : s.localStore.Raised e) (ok : s.Accepts e) :
    ∃ s', s.applyRemoteEvent e = some s' ∧ s'.Consistent full answered ∧
      ∀ t, s'.synced t = (s.synced t).map fun keys =>
        View.syncedAfter keys (e.targetChanges.get t) := by
  obtain ⟨limbo, e1, steps, targets, resolves⟩ :=
    LimboTracker.applyRemoteEvent_spec inv.limbo ok.limbo
  obtain ⟨changes, v', e2, cv', _, _, reports⟩ :=
    LocalStore.applyRemoteEvent_spec inv.store raised
  let s1 : SyncEngine := { s with limbo := limbo }
  have inv1 : s1.Consistent full answered :=
    { inv with
      limbo := steps.tracks
      refs := fun k t => (steps.refs k t).trans (inv.refs k t)
      targets := fun t => by
        change s.queryViews.contains t = (decide (t % 2 = 0) && limbo.listenTargets.contains t)
        rw [targets]
        exact inv.targets t
      resolves := fun a => resolves (inv.resolves a) }
  have cs : LocalStore.Consistent { s.localStore with
      localDocuments := v'
      lastRemoteSnapshotVersion := max s.localStore.lastRemoteSnapshotVersion e.snapshotVersion } :=
    ⟨cv', fun eo => LocalStore.consistent_of_tables (inv.store.others eo)⟩
  obtain ⟨s', e3, inv', moves⟩ := exists_emit inv1 cs reports (some e) ok.views
  refine ⟨s', ?_, inv', moves.synced⟩
  rw [applyRemoteEvent, e1]
  change Option.bind (s.localStore.applyRemoteEvent e) _ = _
  rw [e2]
  exact e3

/-- A document that the server does not want to be asked about is gone. -/
lemma deletion_raised {key : DocumentKey} : s.localStore.Raised (deletion key) where
  forward := .inl rfl
  removal := by
    intro _ k d e
    change (SortedTable.empty.put key (MutableDocument.noDocument key 0)).get k = some d at e
    rw [SortedTable.get_put] at e
    split at e
    case isTrue =>
      cases e
      exact ⟨rfl, rfl⟩
    case isFalse => cases e

/-- A deletion says nothing of any target. -/
lemma deletion_accepts {key : DocumentKey} : s.Accepts (deletion key) where
  limbo := fun r mem => by cases mem
  views := fun _ _ _ => trivial

/-! ## Listening -/

/-- A query is taken out together with what its view had in limbo. -/
lemma ShowsView.forget (inv : s.ShowsView full answered lv) {t : Nat} {limbo : LimboTracker}
    (tracks : limbo.Tracks)
    (refs : ∀ k u, limbo.limboDocumentRefs.has k u =
      (decide (u ≠ t) && s.limbo.limboDocumentRefs.has k u))
    (targets : ∀ u : Nat, u % 2 = 0 → limbo.listenTargets.get u =
      if u = t then none else s.limbo.listenTargets.get u)
    (resolves : answered → limbo.Resolves) :
    ({ s with limbo := limbo, queryViews := s.queryViews.delete t } : SyncEngine).ShowsView full
      answered lv := by
  constructor
  case store => exact inv.store
  case views =>
    intro u qv e
    change SortedTable.get (s.queryViews.delete t) u = some qv at e
    rw [SortedTable.get_delete] at e
    split at e
    case isTrue => cases e
    case isFalse => exact inv.views u qv e
  case limbo => exact tracks
  case refs =>
    intro k u
    change limbo.limboDocumentRefs.has k u = (SortedTable.get (s.queryViews.delete t) u).any _
    rw [SortedTable.get_delete, refs]
    by_cases e : u = t
    · rw [if_pos e, decide_eq_false (not_not.2 e)]
      rfl
    · rw [if_neg e, decide_eq_true e, Bool.true_and]
      exact inv.refs k u
  case targets =>
    intro u
    change SortedTable.contains (s.queryViews.delete t) u =
      (decide (u % 2 = 0) && limbo.listenTargets.contains u)
    have old := inv.targets u
    rw [SortedTable.contains] at old ⊢
    rw [SortedTable.get_delete]
    by_cases even : u % 2 = 0
    · rw [SortedTable.contains, targets u even]
      by_cases e : u = t
      · rw [if_pos e, if_pos e]
        simp
      · rw [if_neg e, if_neg e]
        exact old
    · rw [decide_eq_false even, Bool.false_and] at old ⊢
      split
      case isTrue => rfl
      case isFalse => exact old
  case resolves => exact resolves

/-- Of a query that is gone nothing is known. -/
lemma synced_delete {limbo : LimboTracker} {t : TargetId} (u : TargetId) :
    ({ s with limbo := limbo, queryViews := s.queryViews.delete t } : SyncEngine).synced u =
      if u = t then none else s.synced u := by
  rw [synced, SortedTable.get_delete]
  split <;> rfl

/-- A query that is listened to can be given up. -/
lemma stopListening_spec (inv : s.Consistent full answered) {t : Nat} (even : t % 2 = 0)
    (watched : s.limbo.listenTargets.contains t = true) :
    ∃ s', s.stopListening t = some s' ∧ s'.Consistent full answered ∧
      ∀ u, s'.synced u = if u = t then none else s.synced u := by
  have no := LimboTracker.not_active_of_even inv.limbo.toTidy even
  obtain ⟨limbo, e, steps, queries, resolves⟩ :=
    LimboTracker.removeAndCleanupTarget_spec t
      (inv.limbo.forget no (s.limbo.calls ++ [.stopListening t]))
  refine ⟨{ s with limbo := limbo, queryViews := s.queryViews.delete t }, ?_, ?_, synced_delete⟩
  · rw [stopListening, LimboTracker.stopListening, if_pos watched]
    change Option.bind (LimboTracker.removeAndCleanupTarget _ t) _ = _
    rw [e]
    rfl
  · apply inv.forget steps.tracks steps.refs _ fun a => resolves (inv.resolves a)
    intro u even'
    rw [queries u even']
    exact SortedTable.get_delete

/-- A query goes on with other listeners. -/
lemma ShowsView.put (inv : s.ShowsView full answered lv) {t : TargetId} {qv qv' : QueryView}
    (e : s.queryViews.get t = some qv) (fine : qv'.Fine full lv)
    (limbo : qv'.view.limboDocuments = qv.view.limboDocuments) :
    ({ s with queryViews := s.queryViews.put t qv' } : SyncEngine).ShowsView full answered lv := by
  constructor
  case store => exact inv.store
  case views =>
    intro u qv'' e'
    change SortedTable.get (s.queryViews.put t qv') u = some qv'' at e'
    rw [SortedTable.get_put] at e'
    split at e'
    case isTrue =>
      cases e'
      exact fine
    case isFalse => exact inv.views u qv'' e'
  case limbo => exact inv.limbo
  case refs =>
    intro k u
    change s.limbo.limboDocumentRefs.has k u = (SortedTable.get (s.queryViews.put t qv') u).any _
    rw [SortedTable.get_put, inv.refs]
    split
    case isTrue eu => rw [eu, e, Option.any_some, Option.any_some, limbo]
    case isFalse => rfl
  case targets =>
    intro u
    change SortedTable.contains (s.queryViews.put t qv') u = _
    rw [← inv.targets, SortedTable.contains, SortedTable.contains, SortedTable.get_put]
    split
    case isTrue eu =>
      rw [eu, e]
      rfl
    case isFalse => rfl
  case resolves => exact inv.resolves

/-- Whether a listener is the last one of a query. -/
def isLast (s : SyncEngine) (t : TargetId) (i : Nat) : Bool :=
  (s.queryViews.get t).any fun qv => (qv.listeners.eraseIdx i).isEmpty

/-- What is known of a query is what its view knows. -/
lemma synced_put {t : TargetId} {qv : QueryView} (u : TargetId) :
    ({ s with queryViews := s.queryViews.put t qv } : SyncEngine).synced u =
      if u = t then some qv.view.syncedDocuments else s.synced u := by
  rw [synced, SortedTable.get_put]
  split <;> rfl

/-- A listener can be removed at any time. -/
lemma removeQueryListener_spec (inv : s.Consistent full answered) (t : Nat) (i : Nat) :
    ∃ s', s.removeQueryListener t i = some s' ∧ s'.Consistent full answered ∧
      ∀ u, s'.synced u = if u = t ∧ s.isLast t i then none else s.synced u := by
  rw [removeQueryListener, isLast]
  cases e : s.queryViews.get t with
  | none =>
    refine ⟨s, rfl, inv, fun u => (if_neg ?_).symm⟩
    rintro ⟨_, no⟩
    cases no
  | some qv =>
    dsimp only
    split
    case isTrue last =>
      have there := inv.targets t
      rw [SortedTable.contains, e] at there
      have both := Bool.and_eq_true_iff.1 there.symm
      obtain ⟨s', e', inv', names⟩ := stopListening_spec inv (of_decide_eq_true both.1) both.2
      refine ⟨s', e', inv', fun u => (names u).trans ?_⟩
      rw [Option.any_some, last]
      simp only [and_true]
    case isFalse some_ =>
      have fine := inv.views t qv e
      have fine' : QueryView.Fine full s.localStore.localDocuments.localView
          { qv with listeners := qv.listeners.eraseIdx i } :=
        { fine with
          listeners := fun l mem => fine.listeners l (List.eraseIdx_subset mem)
          listened := fun none_ => some_ (List.isEmpty_iff.2 none_) }
      refine ⟨_, rfl, inv.put e fine' rfl, fun u => (synced_put u).trans ?_⟩
      refine Eq.trans ?_ (if_neg fun h => some_ h.2).symm
      split
      case isTrue eu =>
        rw [eu, synced, e]
        rfl
      case isFalse => rfl

/-- The first documents of a query. There is always a snapshot, and no document is in limbo before
    the server has sent all of them. -/
lemma initializeViewAndComputeSnapshot_spec (cs : s.localStore.Consistent) (query : CoreQuery)
    (target : AllocatedTarget) (covers : full → target.Covers s.localStore query) :
    ∃ (view : View query) (snapshot : ViewSnapshot query) (store : LocalStore),
      s.initializeViewAndComputeSnapshot query target =
        some (view, snapshot, { s with localStore := store }) ∧
      SameStore s.localStore store ∧ view.Fine full s.localStore.localDocuments.localView ∧
      Heard view snapshot ∧ (∀ k, view.limboDocuments.contains k = false) ∧
      view.syncedDocuments = target.remoteKeys := by
  obtain ⟨m, store, e1, same, found, all⟩ := executeQuery_spec cs query
    target.lastLimboFreeSnapshotVersion (target.remoteKeys.rows.map Prod.fst)
  let v : View query := View.create target.remoteKeys
  have begun : (v.start none).Sound v.documentSet :=
    ⟨DocumentViewChangeSet.tells_empty, mutated_create target.remoteKeys⟩
  have empty : Shown s.localStore.localDocuments.localView (v.start none).documentSet :=
    fun k a ea => by cases ea
  obtain ⟨r, e2, sound, shown, within, done, complete⟩ := View.computeDocumentChanges_full
    (fun k => LocalDocumentsView.key_localView) found begun empty
  obtain ⟨view, change, e3, applied⟩ := View.applyChanges_spec (t := none) sound done trivial
  have current : view.current = false := applied.current
  have quiet : change.limboChanges = [] := applied.kept current
  have none_ (k : DocumentKey) : view.limboDocuments.contains k = false := by
    by_contra c
    have mem := (applied.limbo.1 k).2 ⟨by simpa using c, rfl⟩
    rw [quiet] at mem
    cases mem
  cases es : change.snapshot with
  | none =>
    have state := (applied.quiet es).2
    rw [applied.settled.syncState] at state
    split at state <;> cases state
  | some snapshot =>
    refine ⟨view, snapshot, store, ?_, same, ?_, ?_, none_, applied.syncedDocuments⟩
    · rw [initializeViewAndComputeSnapshot, e1]
      change Option.bind (v.computeDocumentChanges m none) _ = _
      rw [e2]
      change Option.bind (v.applyChanges r none) _ = _
      rw [e3]
      change Option.bind (s.limbo.updateTrackedLimboDocuments change.limboChanges _) _ = _
      rw [quiet]
      change Option.bind change.snapshot _ = _
      rw [es]
      rfl
    · constructor
      case shown =>
        rw [applied.documentSet]
        exact shown
      case within =>
        rw [applied.documentSet]
        exact within
      case complete =>
        intro f
        rw [applied.documentSet]
        exact complete (all (covers f))
      case mutated =>
        rw [applied.documentSet, applied.mutatedKeys]
        exact sound.mutated
      case settled => exact applied.settled
    · have taken := applied.taken
      rw [es] at taken
      exact taken.heard

/-- A new query. -/
lemma listen_spec (inv : s.Consistent full answered) (query : CoreQuery) (target : AllocatedTarget)
    (even : (target.targetId : Nat) % 2 = 0) (new : s.queryViews.get target.targetId = none)
    (covers : full → target.Covers s.localStore query) {l : Subscriber query}
    (fresh : l.Fresh) :
    ∃ s', s.listen query target l = some s' ∧ s'.Consistent full answered ∧
      ∀ t, s'.synced t = if t = target.targetId then some target.remoteKeys else s.synced t := by
  have unwatched : s.limbo.listenTargets.contains target.targetId = false := by
    have there := inv.targets target.targetId
    rw [SortedTable.contains, new, decide_eq_true even, Bool.true_and] at there
    exact there.symm
  let targets := s.limbo.listenTargets.put target.targetId ⟨query, target.targetId, .listen⟩
  let limbo : LimboTracker := { s.limbo with
    listenTargets := targets
    calls := s.limbo.calls ++ [.listen ⟨query, target.targetId, .listen⟩] }
  have listens : s.limbo.listen ⟨query, target.targetId, .listen⟩ = limbo := by
    rw [LimboTracker.listen, if_neg]
    dsimp only
    rw [unwatched]
    exact Bool.false_ne_true
  have tracks : limbo.Tracks := by
    apply inv.limbo.queries_of
    · intro t c
      have odd := (inv.limbo.watched t c).2.1
      rw [SortedTable.contains, SortedTable.get_put, if_neg]
      · rfl
      · intro et
        rw [et, even] at odd
        cases odd
    · intro t c out
      rw [SortedTable.contains, SortedTable.get_put] at c
      split at c
      case isTrue e =>
        rw [e]
        exact even
      case isFalse =>
        rw [SortedTable.contains, c] at out
        cases out
  let s1 : SyncEngine := { s with limbo := limbo }
  obtain ⟨view, snapshot, store, e1, same, fine, heard, none_, names⟩ :=
    initializeViewAndComputeSnapshot_spec (s := s1) inv.store query target covers
  obtain ⟨l', e2, upToDate⟩ := fresh.exists_onViewSnapshot heard.faithful heard.news
  let qv : QueryView := ⟨query, view, some snapshot, [l']⟩
  have lv : store.localDocuments.localView = s.localStore.localDocuments.localView :=
    funext fun k => same.localView k
  refine ⟨{ s1 with
    localStore := store
    queryViews := s.queryViews.put target.targetId qv }, ?_, ?_, ?_⟩
  · rw [listen]
    change Option.bind (initializeViewAndComputeSnapshot { s with limbo := s.limbo.listen _ } _ _) _
      = _
    rw [listens, e1]
    change Option.bind (l.onViewSnapshot snapshot) _ = _
    rw [e2]
    rfl
  · have fineQv : qv.Fine full s.localStore.localDocuments.localView := by
      constructor
      case view => exact fine
      case snapshot => exact ⟨snapshot, rfl, heard⟩
      case listeners =>
        intro m mem
        rw [List.mem_singleton.1 mem]
        change UpToDate l'.listener view.documentSet.looks l'.shown
        rw [← heard.looks]
        exact upToDate
      case listened => exact List.cons_ne_nil _ _
    constructor
    case store => exact same.consistent inv.store
    case views =>
      intro t qv' e
      change qv'.Fine full store.localDocuments.localView
      rw [lv]
      change SortedTable.get (s.queryViews.put target.targetId qv) t = some qv' at e
      rw [SortedTable.get_put] at e
      split at e
      case isTrue =>
        cases e
        exact fineQv
      case isFalse => exact inv.views t qv' e
    case limbo => exact tracks
    case refs =>
      intro k t
      change s.limbo.limboDocumentRefs.has k t =
        (SortedTable.get (s.queryViews.put target.targetId qv) t).any _
      rw [SortedTable.get_put, inv.refs]
      split
      case isTrue et =>
        rw [et, new, Option.any_some]
        exact (none_ k).symm
      case isFalse => rfl
    case targets =>
      intro t
      change SortedTable.contains (s.queryViews.put target.targetId qv) t =
        (decide (t % 2 = 0) && targets.contains t)
      have old := inv.targets t
      rw [SortedTable.contains, SortedTable.contains] at old ⊢
      rw [SortedTable.get_put, SortedTable.get_put]
      split
      case isTrue et =>
        rw [et, decide_eq_true even]
        rfl
      case isFalse => exact old
    case resolves => exact inv.resolves
  · intro t
    rw [← names]
    exact synced_put t

/-- Another listener of a query. -/
lemma addListener_spec {qv : QueryView} (fine : qv.Fine full lv) {l : Subscriber qv.query}
    (fresh : l.Fresh) :
    ∃ l', QueryView.addListener qv l = some { qv with listeners := qv.listeners ++ [l'] } ∧
      QueryView.Fine full lv { qv with listeners := qv.listeners ++ [l'] } := by
  obtain ⟨snapshot, es, heard⟩ := fine.snapshot
  obtain ⟨l', e, upToDate⟩ := fresh.exists_onViewSnapshot heard.faithful heard.news
  refine ⟨l', ?_, ?_⟩
  · rw [QueryView.addListener, es]
    change Option.bind (l.onViewSnapshot snapshot) _ = _
    rw [e]
    rfl
  · exact
      { fine with
        listeners := by
          intro m mem
          rcases List.mem_append.1 mem with mem | mem
          · exact fine.listeners m mem
          · rw [List.mem_singleton.1 mem]
            change UpToDate l'.listener qv.view.documentSet.looks l'.shown
            rw [← heard.looks]
            exact upToDate
        listened := List.append_ne_nil_of_right_ne_nil _ (List.cons_ne_nil _ _) }

/-- A listener can be added at any time. -/
lemma addQueryListener_spec (inv : s.Consistent full answered) (query : CoreQuery)
    (target : AllocatedTarget) (even : (target.targetId : Nat) % 2 = 0)
    (covers : full → target.Covers s.localStore query) (includeMetadataChanges : Bool) :
    ∃ s', s.addQueryListener query target includeMetadataChanges = some s' ∧
      s'.Consistent full answered ∧ ∀ t, s'.synced t =
        if t = target.targetId then some ((s.synced t).getD target.remoteKeys)
        else s.synced t := by
  rw [addQueryListener]
  cases e : s.queryViews.get target.targetId with
  | some qv =>
    obtain ⟨l, el, fresh⟩ :=
      Subscriber.exists_new (q := qv.query) includeMetadataChanges s.onlineState
    obtain ⟨l', e', fine⟩ := addListener_spec (inv.views _ qv e) fresh
    let s1 : SyncEngine := { s with
      queryViews := s.queryViews.put target.targetId
        { qv with listeners := qv.listeners ++ [l'] } }
    have inv1 : s1.Consistent full answered := inv.put e fine rfl
    refine ⟨s1, ?_, inv1, fun t => (synced_put t).trans ?_⟩
    · dsimp only
      rw [el]
      change Option.bind (QueryView.addListener qv l) _ = _
      rw [e']
      rfl
    · split
      case isTrue et =>
        rw [et, synced, e]
        rfl
      case isFalse => rfl
  | none =>
    obtain ⟨l, el, fresh⟩ := Subscriber.exists_new (q := query) includeMetadataChanges s.onlineState
    obtain ⟨s', e', inv', names⟩ := listen_spec inv query target even e covers fresh
    refine ⟨s', ?_, inv', fun t => (names t).trans ?_⟩
    · dsimp only
      rw [el]
      exact e'
    · split
      case isTrue et =>
        rw [et, synced, e]
        rfl
      case isFalse => rfl

/-! ## Errors and the connection -/

/-- A target can be refused at any time. -/
lemma processTargetError_spec (inv : s.Consistent full answered) (t : Nat)
    (answers : answered → t % 2 = 0) :
    ∃ s', s.processTargetError t = some s' ∧ s'.Consistent full answered ∧
      ∀ u, s'.synced u = if u = t then none else s.synced u := by
  have unseen (no : s.queryViews.contains t = false) (u : TargetId) :
      s.synced u = if u = t then none else s.synced u := by
    split
    case isTrue eu =>
      rw [eu, synced, SortedTable.contains_eq_false.1 no]
      rfl
    case isFalse => rfl
  rw [processTargetError]
  by_cases watched : (!s.limbo.listenTargets.contains t) = true
  · rw [if_pos watched]
    refine ⟨s, rfl, inv, unseen ?_⟩
    have no : s.limbo.listenTargets.contains t = false := by simpa using watched
    rw [inv.targets, no, Bool.and_false]
  · rw [if_neg watched]
    have watched' : s.limbo.listenTargets.contains t = true := by simpa using watched
    obtain ⟨limbo, key, e, steps, none_, queries, resolves⟩ :=
      LimboTracker.handleRejectedListen_spec t inv.limbo
    rw [e, Option.bind_some]
    cases key with
    | none =>
      refine ⟨{ s with limbo := limbo, queryViews := s.queryViews.delete t }, rfl, ?_,
        synced_delete⟩
      refine inv.forget steps.tracks ?_ queries fun a => resolves rfl (inv.resolves a)
      intro k u
      rw [steps.refs, watched']
      rfl
    | some key =>
      have odd : ¬ t % 2 = 0 := fun even => by
        have no := none_ even
        cases no
      have inv' : ({ s with limbo := limbo } : SyncEngine).Consistent full answered :=
        { inv with
          limbo := steps.tracks
          refs := fun k u => by
            change limbo.limboDocumentRefs.has k u = _
            rw [steps.refs, Option.isSome_some, Bool.true_or, Bool.true_or, Bool.true_and]
            exact inv.refs k u
          targets := fun u => by
            change s.queryViews.contains u = (decide (u % 2 = 0) && limbo.listenTargets.contains u)
            rw [inv.targets]
            by_cases even : u % 2 = 0
            · have same := queries u even
              rw [if_neg (by rintro rfl; exact odd even)] at same
              rw [LimboTracker.contains_of_get_eq same]
            · rw [decide_eq_false even, Bool.false_and, Bool.false_and]
          resolves := fun a => absurd (answers a) odd }
      obtain ⟨s', e', inv'', names⟩ :=
        applyRemoteEvent_spec inv' deletion_raised deletion_accepts
      refine ⟨s', e', inv'', fun u => ((names u).trans Option.map_id').trans (unseen ?_ u)⟩
      rw [inv.targets, decide_eq_false odd, Bool.false_and]

/-- A view hears whether the client reaches the server. -/
lemma applyOnlineStateChange_spec {qv : QueryView} (fine : qv.view.Fine full lv)
    (onlineState : OnlineState) (t : TargetId) :
    ∃ v' snapshot, applyOnlineStateChange onlineState () t qv =
        some (⟨{ qv with view := v' }, snapshot⟩, ()) ∧
      v'.Fine full lv ∧ Taken qv.view v' snapshot ∧
      v'.syncedDocuments = qv.view.syncedDocuments ∧
      ∀ k, v'.limboDocuments.contains k = qv.view.limboDocuments.contains k := by
  rw [applyOnlineStateChange, View.applyOnlineStateChange]
  split
  case isTrue =>
    let v : View qv.query := { qv.view with current := false }
    let r : ViewDocumentChanges qv.query :=
      ⟨v.documentSet, SortedTable.empty, v.mutatedKeys, false⟩
    obtain ⟨v', change, e, applied⟩ := View.applyChanges_spec (v := v) (r := r) (t := none)
      ⟨DocumentViewChangeSet.tells_empty, fine.mutated⟩ rfl trivial
    have quiet : change.limboChanges = [] := applied.kept applied.current
    refine ⟨v', change.snapshot, ?_, ?_, ⟨applied.taken.quiet, applied.taken.news⟩,
      applied.syncedDocuments, ?_⟩
    · change Option.bind (v.applyChanges r none) _ = _
      rw [e]
      change (if change.limboChanges.isEmpty = true then _ else _) = _
      rw [quiet]
      rfl
    · exact
        { shown := by
            rw [applied.documentSet]
            exact fine.shown
          within := by
            rw [applied.documentSet]
            exact fine.within
          complete := by
            rw [applied.documentSet]
            exact fine.complete
          mutated := by
            rw [applied.documentSet, applied.mutatedKeys]
            exact fine.mutated
          settled := applied.settled }
    · intro k
      have reports := applied.limbo
      rw [quiet] at reports
      have come := reports.1 k
      have gone := reports.2 k
      change v'.limboDocuments.contains k = v.limboDocuments.contains k
      cases e1 : v'.limboDocuments.contains k <;> cases e2 : v.limboDocuments.contains k <;>
        simp_all
  case isFalse => exact ⟨qv.view, none, rfl, fine, ⟨fun _ => ⟨rfl, rfl⟩, fun s e => by cases e⟩,
    rfl, fun _ => rfl⟩

/-- All views and then all listeners hear whether the client reaches the server. -/
lemma handleOnlineStateChange_spec (inv : s.Consistent full answered) (onlineState : OnlineState) :
    ∃ s', s.handleOnlineStateChange onlineState = some s' ∧ s'.Consistent full answered ∧
      ∀ t, s'.synced t = s.synced t := by
  let lv := s.localStore.localDocuments.localView
  obtain ⟨emissions, _, e1, ⟨due, limbo1⟩, contains1⟩ := SortedTable.traverse_rule
    (t := s.queryViews) (s := ()) (f := applyOnlineStateChange onlineState)
    (fun emissions _ =>
      (∀ t em, emissions.get t = some em → ∃ qv, s.queryViews.get t = some qv ∧
        Due full lv (fun v v' => v'.syncedDocuments = v.syncedDocuments) qv em) ∧
      ∀ t em, emissions.get t = some em → ∃ qv, s.queryViews.get t = some qv ∧
        ∀ k, em.queryView.view.limboDocuments.contains k = qv.view.limboDocuments.contains k)
    ⟨(fun t em e => by cases e), (fun t em e => by cases e)⟩
    (by
      rintro u _ t qv ⟨due, limbo⟩ eqv _
      obtain ⟨v', snapshot, e, fine', taken, names, same⟩ :=
        applyOnlineStateChange_spec (inv.views t qv eqv).view onlineState t
      refine ⟨_, (), e, ?_, ?_⟩
      · intro t' em e'
        rw [SortedTable.get_put] at e'
        split at e'
        case isTrue et =>
          cases e'
          rw [et]
          exact ⟨qv, eqv, v', snapshot, rfl, fine', taken, names⟩
        case isFalse => exact due t' em e'
      · intro t' em e'
        rw [SortedTable.get_put] at e'
        split at e'
        case isTrue et =>
          cases e'
          rw [et]
          exact ⟨qv, eqv, same⟩
        case isFalse => exact limbo t' em e')
  obtain ⟨queryViews1, e2, contains2, all2⟩ :=
    onViewSnapshots_spec (fun _ _ v v' => v'.syncedDocuments = v.syncedDocuments) inv.views due
  obtain ⟨queryViews2, _, e3, all3, contains3⟩ := SortedTable.traverse_rule
    (t := queryViews1) (s := ())
    (f := fun _ _ qv => (QueryView.onOnlineStateChanged qv onlineState).map fun qv => (qv, ()))
    (fun queryViews2 _ => ∀ t qv', queryViews2.get t = some qv' → qv'.Fine full lv ∧
      ∃ qv, queryViews1.get t = some qv ∧ qv'.view.limboDocuments = qv.view.limboDocuments ∧
        qv'.view.syncedDocuments = qv.view.syncedDocuments)
    (fun t qv' e => by cases e)
    (by
      intro u _ t qv all eqv _
      obtain ⟨fine, _⟩ := all2 t qv eqv
      obtain ⟨listeners, e, length, upToDate⟩ := exists_mapM fun l mem =>
        Subscriber.exists_onOnlineStateChanged (fine.listeners l mem) onlineState
      have fine' : QueryView.Fine full lv { qv with listeners := listeners } :=
        { fine with
          listeners := upToDate
          listened := fun none_ => by
            dsimp only at none_
            rw [none_] at length
            exact fine.listened (List.length_eq_zero_iff.1 length.symm) }
      refine ⟨{ qv with listeners := listeners }, (), ?_, ?_⟩
      · rw [QueryView.onOnlineStateChanged, e]
        rfl
      · intro t' qv' e'
        rw [SortedTable.get_put] at e'
        split at e'
        case isTrue et =>
          cases e'
          rw [et]
          exact ⟨fine', qv, eqv, rfl, rfl⟩
        case isFalse => exact all t' qv' e')
  have contains (t : TargetId) : queryViews2.contains t = s.queryViews.contains t :=
    (contains3 t).trans ((contains2 t).trans (contains1 t))
  let s' : SyncEngine := { s with queryViews := queryViews2, onlineState := onlineState }
  refine ⟨s', ?_, ?_, ?_⟩
  · rw [handleOnlineStateChange, e1]
    change Option.bind (onViewSnapshots emissions) _ = _
    rw [e2]
    change Option.bind (queryViews1.traverse _ ()) _ = _
    rw [e3]
    rfl
  · constructor
    case store => exact inv.store
    case views => exact fun t qv' e => (all3 t qv' e).1
    case limbo => exact inv.limbo
    case refs =>
      intro k t
      rw [inv.refs]
      change _ = (queryViews2.get t).any _
      have c := contains t
      cases e : queryViews2.get t with
      | none =>
        have gone := c.symm.trans (SortedTable.contains_eq_false.2 e)
        rw [SortedTable.contains_eq_false.1 gone]
      | some qv' =>
        obtain ⟨_, qv1, eqv1, limbo3, _⟩ := all3 t qv' e
        obtain ⟨_, ⟨em, eem, limbo2⟩, _⟩ := all2 t qv1 eqv1
        obtain ⟨qv, eqv, same⟩ := limbo1 t em eem
        rw [eqv, Option.any_some, Option.any_some, limbo3, ← limbo2, same]
    case targets =>
      intro t
      exact (contains t).trans (inv.targets t)
    case resolves => exact inv.resolves
  · intro t
    rw [synced, synced]
    change (queryViews2.get t).map _ = _
    cases e : queryViews2.get t with
    | none =>
      have gone := (contains t).symm.trans (SortedTable.contains_eq_false.2 e)
      rw [SortedTable.contains_eq_false.1 gone]
    | some qv' =>
      obtain ⟨_, qv1, eqv1, _, names3⟩ := all3 t qv' e
      obtain ⟨_, _, qv, v', viewSnapshot, listeners, eqv, rfl, names⟩ := all2 t qv1 eqv1
      rw [eqv]
      exact congrArg some (names3.trans names)

/-! ## Runs -/

/-- One operation of the client. -/
def step (s : SyncEngine) : SyncEvent → Option SyncEngine
  | .addQueryListener query target includeMetadataChanges =>
    s.addQueryListener query target includeMetadataChanges
  | .removeQueryListener targetId i => s.removeQueryListener targetId i
  | .writeMutations mutations => s.writeMutations mutations
  | .handleSuccessfulWrite r => s.handleSuccessfulWrite r
  | .handleRejectedWrite batchId => s.handleRejectedWrite batchId
  | .handleCredentialChange user => s.handleCredentialChange user
  | .applyRemoteEvent e => s.applyRemoteEvent e
  | .processTargetError targetId => s.processTargetError targetId
  | .handleOnlineStateChange onlineState => s.handleOnlineStateChange onlineState

/-- How the client calls: queries have targets with even numbers, something is written, answers are
    for pending batches, and the watch stream does not go back and says of the targets what fits
    what it has said before. -/
def Asks (s : SyncEngine) : SyncEvent → Prop
  | .addQueryListener _ target _ => (target.targetId : Nat) % 2 = 0
  | .writeMutations mutations => mutations ≠ []
  | .handleSuccessfulWrite r => r.batch ∈ s.localStore.mutationQueue.allMutationBatches
  | .handleRejectedWrite batchId =>
    ∃ b ∈ s.localStore.mutationQueue.allMutationBatches, b.batchId = batchId
  | .applyRemoteEvent e => s.localStore.Raised e ∧ s.Accepts e
  | _ => True

/-- Nothing is missing when a query begins. -/
def Covered (s : SyncEngine) : SyncEvent → Prop
  | .addQueryListener query target _ => target.Covers s.localStore query
  | _ => True

/-- The server refuses no document in limbo; its targets are those with odd numbers. -/
def Answered : SyncEvent → Prop
  | .processTargetError targetId => (targetId : Nat) % 2 = 0
  | _ => True

instance {q : CoreQuery} (v : View q) (t : Option TargetChange) : Decidable (v.Accepts t) :=
  match t with
  | none => .isTrue trivial
  | some t => inferInstanceAs (Decidable (∀ k ∈ t.modifiedDocuments,
      k ∈ t.addedDocuments ∨ v.syncedDocuments.contains k = true))

instance (s : LocalStore) (e : RemoteEvent) : Decidable (s.Raised e) :=
  decidable_of_iff ((e.snapshotVersion = 0 ∨ s.lastRemoteSnapshotVersion ≤ e.snapshotVersion) ∧
    (e.snapshotVersion = 0 →
      ∀ r ∈ e.documentUpdates.rows, r.2.isNoDocument = true ∧ r.2.version = 0)) (by
    constructor
    · rintro ⟨forward, removal⟩
      exact ⟨forward, fun z k d ed => removal z (k, d) (SortedTable.get_eq_some.1 ed)⟩
    · rintro ⟨forward, removal⟩
      exact ⟨forward, fun z r mem => removal z r.1 r.2 (SortedTable.get_eq_some.2 mem)⟩)

instance (s : SyncEngine) (e : RemoteEvent) : Decidable (s.Accepts e) :=
  decidable_of_iff ((∀ r ∈ e.targetChanges.rows, s.limbo.Accepts r) ∧
    ∀ r ∈ s.queryViews.rows, r.2.view.Accepts (e.targetChanges.get r.1)) (by
    constructor
    · rintro ⟨limbo, views⟩
      exact ⟨limbo, fun t qv there => views (t, qv) (SortedTable.get_eq_some.1 there)⟩
    · rintro ⟨limbo, views⟩
      exact ⟨limbo, fun r mem => views r.1 r.2 (SortedTable.get_eq_some.2 mem)⟩)

instance (s : SyncEngine) (e : SyncEvent) : Decidable (s.Asks e) := by
  cases e <;> dsimp only [Asks] <;> infer_instance

instance (e : SyncEvent) : Decidable (Answered e) := by
  cases e <;> dsimp only [Answered] <;> infer_instance

/-- The documents that the server has named for a query once an operation is done. -/
def syncedBy (s : SyncEngine) (t : TargetId) : SyncEvent → Option DocumentKeySet
  | .addQueryListener _ target _ =>
    if t = target.targetId then some ((s.synced t).getD target.remoteKeys) else s.synced t
  | .removeQueryListener targetId i =>
    if t = targetId ∧ s.isLast targetId i then none else s.synced t
  | .applyRemoteEvent e =>
    (s.synced t).map fun keys => View.syncedAfter keys (e.targetChanges.get t)
  | .processTargetError targetId => if t = targetId then none else s.synced t
  | _ => s.synced t

/-- One operation of the client. -/
lemma step_spec (inv : s.Consistent full answered) {e : SyncEvent} (asks : s.Asks e)
    (covered : full → s.Covered e) (answers : answered → Answered e) :
    ∃ s', s.step e = some s' ∧ s'.Consistent full answered ∧
      ∀ t, s'.synced t = s.syncedBy t e := by
  cases e with
  | addQueryListener query target includeMetadataChanges =>
    exact addQueryListener_spec inv query target asks covered includeMetadataChanges
  | removeQueryListener targetId i => exact removeQueryListener_spec inv targetId i
  | writeMutations mutations => exact writeMutations_spec inv asks
  | handleSuccessfulWrite r => exact handleSuccessfulWrite_spec inv asks
  | handleRejectedWrite batchId =>
    obtain ⟨b, mem, rfl⟩ := asks
    exact handleRejectedWrite_spec inv mem
  | handleCredentialChange user => exact handleCredentialChange_spec inv user
  | applyRemoteEvent e => exact applyRemoteEvent_spec inv asks.1 asks.2
  | processTargetError targetId => exact processTargetError_spec inv targetId answers
  | handleOnlineStateChange onlineState => exact handleOnlineStateChange_spec inv onlineState

/-- In the beginning there is nothing to show. -/
lemma new_consistent {user : String} {n : Nat} : (new user n).Consistent full answered where
  store := LocalStore.empty_consistent
  views := fun t qv e => by cases e
  limbo := LimboTracker.new_tracks
  refs := fun _ _ => rfl
  targets := fun t => (Bool.and_false _).symm
  resolves := fun _ k h => by cases h

/-- After every run in which the client calls as it does, and in which each event meets what the run
    stands for, the listeners show what they should. -/
lemma consistent_of_run {user : String} {n : Nat} {es : List SyncEvent}
    (rn : Run (Guarded (Fires step) fun s e =>
      s.Asks e ∧ (full → s.Covered e) ∧ (answered → Answered e)) (new user n) es s) :
    s.Consistent full answered := by
  apply rn.invariant_guarded _ new_consistent
  rintro s e s' st ⟨asks, covered, answers⟩ inv
  obtain ⟨s'', e', inv', _⟩ := step_spec inv asks covered answers
  rw [Fires, e'] at st
  cases st
  exact inv'

end SyncEngine

/-! ## What is shown -/

section

open CoreQuery.Matching (edge)

variable {q : CoreQuery} {set set' : DocumentSet q} {lv : DocumentKey → MutableDocument}

/-- What is seen of a set of documents. -/
lemma mem_looks {k : DocumentKey} {value : ObjectValue} :
    (k, value) ∈ set.looks ↔ ∃ a, set.get k = some a ∧ a.1.value = value := by
  rw [DocumentSet.looks, List.mem_map]
  constructor
  · rintro ⟨a, mem, e⟩
    obtain ⟨rfl, rfl⟩ := Prod.mk.inj e
    exact ⟨a, IndexedSet.mem_sorted_iff.1 mem, rfl⟩
  · rintro ⟨a, e, rfl⟩
    have key := IndexedSet.key_of_get e
    exact ⟨a, IndexedSet.mem_sorted_iff_get.2 ⟨k, e⟩, by rw [CoreQuery.Matching.look, key]⟩

/-- As much is seen as there is. -/
lemma length_looks : set.looks.length = set.size := by
  rw [DocumentSet.looks, List.length_map, IndexedSet.length_sorted]

/-- A document that is shown is as the local view has it, unless an acknowledged write waits for the
    server. -/
lemma value_of_shown (shown : Shown lv set) {k : DocumentKey} {a : q.Matching}
    (e : set.get k = some a) :
    a.1.value = (lv k).value ∨ (lv k).hasCommittedMutations = true := by
  rcases (shown k a e).2 with ⟨value, _⟩ | ⟨_, committed⟩
  · exact .inl value
  · exact .inr committed

/-- A set with more documents has one that the other does not have. -/
lemma exists_outside {k : DocumentKey} {a : q.Matching} (e : set.get k = some a)
    (out : set'.get k = none) (le : set.size ≤ set'.size) :
    ∃ k' b, set'.get k' = some b ∧ set.get k' = none := by
  by_contra none_
  push Not at none_
  have mem {s : DocumentSet q} {k : DocumentKey} :
      k ∈ s.inward.map CoreQuery.Matching.key ↔ ∃ b, s.get k = some b := by
    rw [List.mem_map]
    constructor
    · rintro ⟨b, mem, rfl⟩
      exact ⟨b, DocumentSet.mem_inward.1 mem⟩
    · rintro ⟨b, e⟩
      have key := IndexedSet.key_of_get e
      exact ⟨b, DocumentSet.mem_inward.2 (by rw [key, e]), key⟩
  have distinct : (k :: set'.inward.map CoreQuery.Matching.key).Nodup := by
    refine List.nodup_cons.2 ⟨?_, set'.nodup_keys_inward⟩
    rw [mem, out]
    rintro ⟨b, eb⟩
    cases eb
  have sub : k :: set'.inward.map CoreQuery.Matching.key ⊆
      set.inward.map CoreQuery.Matching.key := by
    intro k' mem'
    rw [mem]
    rcases List.mem_cons.1 mem' with rfl | mem'
    · exact ⟨a, e⟩
    · obtain ⟨b, eb⟩ := mem.1 mem'
      exact Option.ne_none_iff_exists'.1 (none_ k' b eb)
  have h := (List.subperm_of_subset distinct sub).length_le
  rw [List.length_cons, List.length_map, List.length_map, DocumentSet.length_inward,
    DocumentSet.length_inward] at h
  omega

/-- Without acknowledged writes that wait for the server each document is shown as it is. -/
lemma value_of_calm (shown : Shown lv set)
    (calm : ∀ k, q.matches (lv k) = true → (lv k).hasCommittedMutations = false) {k : DocumentKey}
    {a : q.Matching} (e : set.get k = some a) : a.1.value = (lv k).value := by
  apply (value_of_shown shown e).resolve_right
  rw [calm k (shown k a e).1]
  exact Bool.false_ne_true

/-- A document that is shown by one set and left out by another one, which misses nothing, comes
    after all that this one shows. -/
lemma outside_of_complete (keys : ∀ k, (lv k).key = k) (shown : Shown lv set)
    (complete : Complete lv set')
    (calm : ∀ k, q.matches (lv k) = true → (lv k).hasCommittedMutations = false) {k : DocumentKey}
    {a : q.Matching} (e : set.get k = some a) (out : set'.get k = none) :
    q.limitType ≠ .none ∧ set'.size = q.limit ∧ ∀ b ∈ set'.inward, edge a b = .gt := by
  have m := (shown k a e).1
  obtain ⟨limited, h⟩ := complete k m out
  rw [calm k m] at h
  obtain ⟨size, outside⟩ := h.resolve_left Bool.false_ne_true
  refine ⟨limited, size, ?_⟩
  intro b mem
  rw [← outside b mem]
  exact CoreQuery.Matching.edge_congr ((IndexedSet.key_of_get e).trans (keys k).symm)
    (value_of_calm shown calm e)

/-- What is shown by one of two sets that miss nothing is shown by the other one. -/
lemma exists_of_complete (keys : ∀ k, (lv k).key = k) (shown : Shown lv set)
    (shown' : Shown lv set') (within : Within set) (complete : Complete lv set)
    (complete' : Complete lv set')
    (calm : ∀ k, q.matches (lv k) = true → (lv k).hasCommittedMutations = false) {k : DocumentKey}
    {a : q.Matching} (e : set.get k = some a) : ∃ b, set'.get k = some b := by
  by_contra none_
  have out : set'.get k = none := Option.eq_none_iff_forall_ne_some.2 fun b eb => none_ ⟨b, eb⟩
  obtain ⟨limited, size, outside⟩ := outside_of_complete keys shown complete' calm e out
  -- the full limit of the other set has a document that is not in this one
  obtain ⟨k', b, eb, out'⟩ := exists_outside e out (by rw [size]; exact within limited)
  obtain ⟨_, _, outside'⟩ := outside_of_complete keys shown' complete calm eb out'
  have key := IndexedSet.key_of_get e
  have key' := IndexedSet.key_of_get eb
  have gt : edge a b = .gt := outside b (DocumentSet.mem_inward.2 (by rw [key', eb]))
  have gt' : edge b a = .gt := outside' a (DocumentSet.mem_inward.2 (by rw [key, e]))
  rw [Std.OrientedCmp.gt_iff_lt, gt'] at gt
  cases gt

/-- At most one list shows the documents of a query within its limit and misses none. -/
lemma looks_of_complete (keys : ∀ k, (lv k).key = k) (shown : Shown lv set)
    (shown' : Shown lv set') (within : Within set) (within' : Within set')
    (complete : Complete lv set) (complete' : Complete lv set')
    (calm : ∀ k, q.matches (lv k) = true → (lv k).hasCommittedMutations = false) :
    set.looks = set'.looks := by
  apply DocumentSet.map_look_eq
  intro k
  cases e : set.get k with
  | some a =>
    obtain ⟨b, eb⟩ := exists_of_complete keys shown shown' within complete complete' calm e
    rw [eb, Option.map_some, Option.map_some, CoreQuery.Matching.look, CoreQuery.Matching.look,
      IndexedSet.key_of_get e, IndexedSet.key_of_get eb, value_of_calm shown calm e,
      value_of_calm shown' calm eb]
  | none =>
    cases e' : set'.get k with
    | none => rfl
    | some b =>
      obtain ⟨a, ea⟩ := exists_of_complete keys shown' shown within' complete' complete calm e'
      rw [e] at ea
      cases ea

end

/-! ## What the listeners show after a run -/

/-- A document that a pending batch writes is shown as this device has left it. -/
lemma hasLocalMutations_replay {bs : List MutationBatch} {d : MutableDocument}
    (pending : ∃ b ∈ bs, d.key ∈ b.keys) : (replay bs d).hasLocalMutations = true := by
  rw [replay_eq]
  cases e : lastOverlay bs d.key with
  | none =>
    obtain ⟨b, mem, writes⟩ := pending
    exact absurd writes (lastOverlay_eq_none.1 e b mem)
  | some o => exact Mutation.hasLocalMutations_applyToLocalView

namespace SyncEngine

open CoreQuery.Matching (edge)

variable {full answered : Prop} {s : SyncEngine} {t : TargetId} {qv : QueryView}
  {l : Subscriber qv.query}

/-- A listener shows what its view has. -/
lemma Consistent.shown (inv : s.Consistent full answered) (e : s.queryViews.get t = some qv)
    (mem : l ∈ qv.listeners) : l.shown = qv.view.documentSet.looks :=
  ((inv.views t qv e).listeners l mem).same

/-- The app reads the local view. -/
lemma Consistent.readDocument (inv : s.Consistent full answered) (k : DocumentKey) :
    s.localStore.readDocument k = s.localStore.localDocuments.localView k :=
  LocalDocumentsView.getDocument_eq inv.store.view

/-- A film of the wishlist. -/
def up : DocumentKey :=
  ⟨["users", "a@b.c", "wishlist"], "1"⟩

/-- The wishlist is listened to and a film is added to it. -/
def addUp : List SyncEvent :=
  [.addQueryListener LocalStore.wishlist ⟨2, 0, SortedTable.empty⟩ false,
    .writeMutations [.setMutation up (.ofFields [("title", .string "Up")])]]

/-- A query that begins anew misses nothing. -/
lemma addUp_covered {s s' : SyncEngine} (rn : Run (Guarded (Fires step) Asks) s addUp s') :
    Run (Guarded (Fires step) fun s e => s.Asks e ∧ s.Covered e) s addUp s' := by
  have covered (s : SyncEngine) (e : SyncEvent) (mem : e ∈ addUp) : s.Covered e := by
    rcases List.mem_cons.1 mem with rfl | mem
    · exact .inl rfl
    · rw [List.mem_singleton.1 mem]
      trivial
  exact (rn.guard covered).mono fun st => ⟨st.1.1, st.1.2, st.2⟩

/-- The server sends the film and says of the wishlist that it has these films. -/
def sent (films : List DocumentKey) : RemoteEvent where
  snapshotVersion := 1
  targetChanges := SortedTable.empty.put 2 ⟨true, films, [], []⟩
  documentUpdates := SortedTable.empty.put up
    (.foundDocument up 1 (.ofFields [("title", .string "Up")]))
  named := by
    let d : MutableDocument := .foundDocument up 1 (.ofFields [("title", .string "Up")])
    have h : DocumentMap.Named (SortedTable.empty.put d.key d) :=
      DocumentMap.named_put DocumentMap.empty_named
    exact @h

/-- In every run no operation that the client asks for fails, and the list of each listener, which
    follows nothing but the changes of its events, has the documents that the view of its query
    holds, within the limit: documents that match and are as the local view has them, unless an
    acknowledged write waits for the server to send the document. -/
theorem run_shows {user : String} {n : Nat} {es : List SyncEvent}
    (rn : Run (Guarded (Fires step) Asks) (new user n) es s) :
    (∀ e, s.Asks e → (s.step e).isSome = true) ∧
      ∀ t qv, s.queryViews.get t = some qv → ∀ l ∈ qv.listeners,
        l.shown = qv.view.documentSet.looks ∧
          (qv.query.limitType ≠ .none → l.shown.length ≤ qv.query.limit) ∧
          ∀ k value, (k, value) ∈ l.shown →
            qv.query.matches (s.localStore.readDocument k) = true ∧
              (value = (s.localStore.readDocument k).value ∨
                (s.localStore.readDocument k).hasCommittedMutations = true) := by
  have inv : s.Consistent False False :=
    consistent_of_run (rn.mono fun st => ⟨st.1, st.2, False.elim, False.elim⟩)
  constructor
  · intro e asks
    obtain ⟨s', e', _⟩ := step_spec inv asks False.elim False.elim
    exact Option.isSome_iff_exists.2 ⟨s', e'⟩
  · intro t qv e l mem
    have same := inv.shown e mem
    have fine := (inv.views t qv e).view
    rw [same]
    refine ⟨rfl, ?_, ?_⟩
    · intro limited
      rw [length_looks]
      exact fine.within limited
    · intro k value shown
      obtain ⟨a, ea, rfl⟩ := mem_looks.1 shown
      rw [inv.readDocument]
      exact ⟨(fine.shown k a ea).1, value_of_shown fine.shown ea⟩

/-- A film is added and shown. -/
theorem run_shows_addUp :
    ∃ (s : SyncEngine) (qv : QueryView) (l : Subscriber qv.query),
      Run (Guarded (Fires step) Asks) (new "a@b.c" 10) addUp s ∧
      s.queryViews.get 2 = some qv ∧ l ∈ qv.listeners ∧ l.shown.length = 1 ∧
      ∀ k value, (k, value) ∈ l.shown →
        qv.query.matches (s.localStore.readDocument k) = true ∧
          (value = (s.localStore.readDocument k).value ∨
            (s.localStore.readDocument k).hasCommittedMutations = true) := by
  obtain ⟨s, rn, good⟩ := exists_run (guardedStep step Asks) (new "a@b.c" 10) addUp
    (fun s => (s.queryViews.get 2).any fun qv => qv.listeners.any fun l => l.shown.length == 1)
    (by decide +kernel)
  obtain ⟨qv, there, good'⟩ := (Option.any_eq_true _ _).1 good
  obtain ⟨l, mem, one⟩ := List.any_eq_true.1 good'
  have rn' := Run.of_guardedStep rn
  exact ⟨s, qv, l, rn', there, mem, beq_iff_eq.1 one, ((run_shows rn').2 2 qv there l mem).2.2⟩

/-- In a run in which nothing is missing when a query begins, each listener shows what the query,
    asked anew, would show, as long as no acknowledged write waits for the server: the changes that
    views and listeners work with lose nothing. -/
theorem run_requery {user : String} {n : Nat} {es : List SyncEvent}
    (rn : Run (Guarded (Fires step) fun s e => s.Asks e ∧ s.Covered e) (new user n) es s)
    (there : s.queryViews.get t = some qv) (mem : l ∈ qv.listeners)
    (calm : ∀ k, qv.query.matches (s.localStore.readDocument k) = true →
      (s.localStore.readDocument k).hasCommittedMutations = false) :
    ∃ (documents : DocumentMap) (store : LocalStore) (changes : ViewDocumentChanges qv.query),
      s.localStore.executeQuery qv.query 0 [] = some (documents, store) ∧
      (View.create SortedTable.empty).computeDocumentChanges documents none = some changes ∧
      l.shown = changes.documentSet.looks := by
  have inv : s.Consistent True False :=
    consistent_of_run (rn.mono fun st => ⟨st.1, st.2.1, fun _ => st.2.2, False.elim⟩)
  have fine := (inv.views t qv there).view
  obtain ⟨documents, store, e1, same, found, all⟩ := executeQuery_spec inv.store qv.query 0 []
  let v : View qv.query := View.create SortedTable.empty
  have begun : (v.start none).Sound v.documentSet :=
    ⟨DocumentViewChangeSet.tells_empty, mutated_create SortedTable.empty⟩
  obtain ⟨changes, e2, _, shown, within, _, complete⟩ := View.computeDocumentChanges_full
    (fun k => LocalDocumentsView.key_localView) found begun (fun k a ea => by cases ea)
  refine ⟨documents, store, changes, e1, e2, ?_⟩
  rw [inv.shown there mem]
  apply looks_of_complete (fun k => LocalDocumentsView.key_localView) fine.shown shown fine.within
    within (fine.complete trivial) (complete (all (.inl rfl)))
  intro k
  rw [← inv.readDocument]
  exact calm k

/-- The list of a listener is the one of the query asked anew. -/
theorem run_requery_addUp :
    ∃ (s : SyncEngine) (qv : QueryView) (l : Subscriber qv.query),
      Run (Guarded (Fires step) fun s e => s.Asks e ∧ s.Covered e) (new "a@b.c" 10) addUp s ∧
      s.queryViews.get 2 = some qv ∧ l ∈ qv.listeners ∧ l.shown.length = 1 ∧
      ∃ (documents : DocumentMap) (store : LocalStore) (changes : ViewDocumentChanges qv.query),
        s.localStore.executeQuery qv.query 0 [] = some (documents, store) ∧
        (View.create SortedTable.empty).computeDocumentChanges documents none = some changes ∧
        l.shown = changes.documentSet.looks := by
  obtain ⟨s, rn, good⟩ := exists_run (guardedStep step Asks) (new "a@b.c" 10) addUp
    (fun s => s.localStore.remoteDocumentCache.documents.rows.isEmpty &&
      (s.queryViews.get 2).any fun qv => qv.listeners.any fun l => l.shown.length == 1)
    (by decide +kernel)
  obtain ⟨empty, good'⟩ := Bool.and_eq_true_iff.1 good
  obtain ⟨qv, there, good''⟩ := (Option.any_eq_true _ _).1 good'
  obtain ⟨l, mem, one⟩ := List.any_eq_true.1 good''
  have rn' := addUp_covered (Run.of_guardedStep rn)
  have calm (k : DocumentKey) :
      (s.localStore.readDocument k).hasCommittedMutations = false := by
    have inv : s.Consistent False False :=
      consistent_of_run (rn'.mono fun st => ⟨st.1, st.2.1, False.elim, False.elim⟩)
    rw [inv.readDocument]
    change (replay _ (s.localStore.remoteDocumentCache.get k)).hasCommittedMutations = false
    have none_ : s.localStore.remoteDocumentCache.get k = .invalidDocument k := by
      rw [RemoteDocumentCache.get, SortedTable.get, List.isEmpty_iff.1 empty]
      rfl
    rw [none_, replay_eq]
    generalize lastOverlay _ _ = o
    cases o with
    | none => rfl
    | some o =>
      obtain ⟨_, m⟩ := o
      cases m <;> rfl
  exact ⟨s, qv, l, rn', there, mem, beq_iff_eq.1 one,
    run_requery rn' there mem fun k _ => calm k⟩

/-- In such a run a document that this device has written and the server has not yet answered for is
    shown by every listener of a query that it matches, and exactly as the pending batches leave it,
    unless it lies outside a full limit. -/
theorem run_compensates {user : String} {n : Nat} {es : List SyncEvent}
    (rn : Run (Guarded (Fires step) fun s e => s.Asks e ∧ s.Covered e) (new user n) es s)
    (there : s.queryViews.get t = some qv) (mem : l ∈ qv.listeners) {k : DocumentKey}
    (pending : ∃ b ∈ s.localStore.mutationQueue.allMutationBatches, k ∈ b.keys) :
    let written := replay s.localStore.mutationQueue.allMutationBatches
      (s.localStore.remoteDocumentCache.get k)
    (∀ value, (k, value) ∈ l.shown → qv.query.matches written = true ∧ value = written.value) ∧
      ∀ m : qv.query.matches written = true, (k, written.value) ∈ l.shown ∨
        qv.query.limitType ≠ .none ∧ l.shown.length = qv.query.limit ∧
          ∀ b ∈ qv.view.documentSet.inward, edge ⟨written, m⟩ b = .gt := by
  intro written
  have inv : s.Consistent True False :=
    consistent_of_run (rn.mono fun st => ⟨st.1, st.2.1, fun _ => st.2.2, False.elim⟩)
  have fine := (inv.views t qv there).view
  have lv : s.localStore.localDocuments.localView k = written := rfl
  have local_ : written.hasLocalMutations = true := by
    apply hasLocalMutations_replay
    rw [RemoteDocumentCache.key_get]
    exact pending
  have calm : written.hasCommittedMutations = false := by
    by_contra c
    have no := MutableDocument.hasLocalMutations_of_committed (by simpa using c)
    rw [local_] at no
    cases no
  have value {a : qv.query.Matching} (ea : qv.view.documentSet.get k = some a) :
      a.1.value = written.value := by
    apply (value_of_shown fine.shown ea).resolve_right
    rw [lv, calm]
    exact Bool.false_ne_true
  rw [inv.shown there mem]
  constructor
  · intro v shown
    obtain ⟨a, ea, rfl⟩ := mem_looks.1 shown
    exact ⟨(fine.shown k a ea).1, value ea⟩
  · intro m
    cases e : qv.view.documentSet.get k with
    | some a => exact .inl (mem_looks.2 ⟨a, e, value e⟩)
    | none =>
      obtain ⟨limited, h⟩ := fine.complete trivial k m e
      have settled : ¬ written.hasCommittedMutations = true := by
        rw [calm]
        exact Bool.false_ne_true
      obtain ⟨size, outside⟩ := h.resolve_left settled
      exact .inr ⟨limited, by rw [length_looks, size], outside⟩

/-- The film is shown before the server knows of it. -/
theorem run_compensates_addUp :
    ∃ (s : SyncEngine) (qv : QueryView) (l : Subscriber qv.query),
      Run (Guarded (Fires step) fun s e => s.Asks e ∧ s.Covered e) (new "a@b.c" 10) addUp s ∧
      s.queryViews.get 2 = some qv ∧ l ∈ qv.listeners ∧
      (up, (replay s.localStore.mutationQueue.allMutationBatches
        (s.localStore.remoteDocumentCache.get up)).value) ∈ l.shown := by
  obtain ⟨s, rn, good⟩ := exists_run (guardedStep step Asks) (new "a@b.c" 10) addUp
    (fun s => decide (∃ b ∈ s.localStore.mutationQueue.allMutationBatches, up ∈ b.keys) &&
      (s.queryViews.get 2).any fun (qv : QueryView) => !qv.listeners.isEmpty &&
        (decide (qv.query.limitType = .none) &&
          qv.query.matches (replay s.localStore.mutationQueue.allMutationBatches
            (s.localStore.remoteDocumentCache.get up))))
    (by decide +kernel)
  obtain ⟨pending, views⟩ := Bool.and_eq_true_iff.1 good
  obtain ⟨qv, there, view⟩ := (Option.any_eq_true _ _).1 views
  obtain ⟨listened, query⟩ := Bool.and_eq_true_iff.1 view
  obtain ⟨unlimited, matching⟩ := Bool.and_eq_true_iff.1 query
  obtain ⟨l, mem⟩ := List.isEmpty_eq_false_iff_exists_mem.1 (by simpa using listened)
  have rn' := addUp_covered (Run.of_guardedStep rn)
  refine ⟨s, qv, l, rn', there, mem, ?_⟩
  apply ((run_compensates rn' there mem (of_decide_eq_true pending)).2 matching).resolve_right
  rintro ⟨limited, _⟩
  exact limited (of_decide_eq_true unlimited)

/-- A snapshot is from the cache unless the server has sent all and nothing is in limbo. -/
lemma Consistent.fromCache (inv : s.Consistent full answered) (there : s.queryViews.get t = some qv)
    {snapshot : ViewSnapshot qv.query} (last : qv.viewSnapshot = some snapshot) :
    snapshot.fromCache = !(qv.view.limboDocuments.rows.isEmpty && qv.view.current) := by
  obtain ⟨s', e, heard⟩ := (inv.views t qv there).snapshot
  rw [last] at e
  cases e
  rw [heard.fromCache, (inv.views t qv there).view.settled.syncState]
  cases qv.view.limboDocuments.rows.isEmpty && qv.view.current <;> rfl

/-- Once a snapshot is not from the cache, the view explains each document that is shown. -/
lemma Consistent.explained (inv : s.Consistent full answered)
    (there : s.queryViews.get t = some qv) {snapshot : ViewSnapshot qv.query}
    (last : qv.viewSnapshot = some snapshot) (synced : snapshot.fromCache = false)
    (mem : l ∈ qv.listeners) :
    qv.view.current = true ∧ ∀ k value, (k, value) ∈ l.shown →
      qv.view.syncedDocuments.contains k = true ∨
        (s.localStore.readDocument k).hasPendingWrites = true := by
  have fine := (inv.views t qv there).view
  rw [inv.fromCache there last, Bool.not_eq_false'] at synced
  have state : qv.view.syncState = .synced := by
    rw [fine.settled.syncState, synced]
    rfl
  obtain ⟨current, explained⟩ := fine.settled.explained state
  refine ⟨current, ?_⟩
  intro k value shown
  rw [inv.shown there mem] at shown
  obtain ⟨a, ea, _⟩ := mem_looks.1 shown
  rw [inv.readDocument, MutableDocument.hasPendingWrites, Bool.or_eq_true]
  rcases explained k a ea with named | written
  · exact .inl named
  · rcases (fine.shown k a ea).2 with ⟨_, same⟩ | ⟨_, committed⟩
    · exact .inr (.inl (same.symm.trans written))
    · exact .inr (.inr committed)

/-- When the listeners have been told that their documents are not from the cache, the server has
    sent all of the query, and each document that they show is one that it has named, or has a write
    of this device. -/
theorem run_synced {user : String} {n : Nat} {es : List SyncEvent}
    (rn : Run (Guarded (Fires step) Asks) (new user n) es s)
    (there : s.queryViews.get t = some qv) {snapshot : ViewSnapshot qv.query}
    (last : qv.viewSnapshot = some snapshot) (synced : snapshot.fromCache = false)
    (mem : l ∈ qv.listeners) :
    qv.view.current = true ∧ ∀ k value, (k, value) ∈ l.shown →
      qv.view.syncedDocuments.contains k = true ∨
        (s.localStore.readDocument k).hasPendingWrites = true := by
  have inv : s.Consistent False False :=
    consistent_of_run (rn.mono fun st => ⟨st.1, st.2, False.elim, False.elim⟩)
  exact inv.explained there last synced mem

/-- The server sends the film and names it. -/
theorem run_synced_sent :
    ∃ (s : SyncEngine) (qv : QueryView) (l : Subscriber qv.query),
      Run (Guarded (Fires step) Asks) (new "a@b.c" 10)
        [.addQueryListener LocalStore.wishlist ⟨2, 0, SortedTable.empty⟩ false,
          .applyRemoteEvent (sent [up])] s ∧
      s.queryViews.get 2 = some qv ∧ l ∈ qv.listeners ∧ l.shown.length = 1 ∧
      qv.view.current = true ∧ ∀ k value, (k, value) ∈ l.shown →
        qv.view.syncedDocuments.contains k = true ∨
          (s.localStore.readDocument k).hasPendingWrites = true := by
  obtain ⟨s, rn, good⟩ := exists_run (guardedStep step Asks) (new "a@b.c" 10)
    [.addQueryListener LocalStore.wishlist ⟨2, 0, SortedTable.empty⟩ false,
      .applyRemoteEvent (sent [up])]
    (fun s => (s.queryViews.get 2).any fun qv =>
      (qv.viewSnapshot.any fun snapshot => !snapshot.fromCache) &&
        qv.listeners.any fun l => l.shown.length == 1)
    (by decide +kernel)
  obtain ⟨qv, there, view⟩ := (Option.any_eq_true _ _).1 good
  obtain ⟨told, shown⟩ := Bool.and_eq_true_iff.1 view
  obtain ⟨snapshot, last, synced⟩ := (Option.any_eq_true _ _).1 told
  obtain ⟨l, mem, one⟩ := List.any_eq_true.1 shown
  have rn' := Run.of_guardedStep rn
  exact ⟨s, qv, l, rn', there, mem, beq_iff_eq.1 one,
    run_synced rn' there last (by simpa using synced) mem⟩

/-- As long as the server refuses no document in limbo, exactly the documents that some view has in
    limbo are being resolved or wait for it. So when the server has sent all of a query and the
    listeners are still told that their documents are from the cache, a document that they show and
    that the server has not named is being resolved. -/
theorem run_resolving {user : String} {n : Nat} {es : List SyncEvent}
    (rn : Run (Guarded (Fires step) fun s e => s.Asks e ∧ Answered e) (new user n) es s) :
    (∀ k, s.limbo.Tracked k ↔
      ∃ t qv, s.queryViews.get t = some qv ∧ qv.view.limboDocuments.contains k = true) ∧
      ∀ t qv snapshot, s.queryViews.get t = some qv → qv.viewSnapshot = some snapshot →
        snapshot.fromCache = true → qv.view.current = true →
        ∃ k, s.limbo.Tracked k ∧ qv.view.syncedDocuments.contains k = false ∧
          ∀ l ∈ qv.listeners, ∃ value, (k, value) ∈ l.shown := by
  have inv : s.Consistent False True :=
    consistent_of_run (rn.mono fun st => ⟨st.1, st.2.1, False.elim, fun _ => st.2.2⟩)
  have tracked (k : DocumentKey) : s.limbo.Tracked k ↔
      ∃ t qv, s.queryViews.get t = some qv ∧ qv.view.limboDocuments.contains k = true := by
    constructor
    · intro h
      obtain ⟨t, ht⟩ := ReferenceSet.containsKey_iff.1 (inv.limbo.referenced k h)
      rw [inv.refs, Option.any_eq_true] at ht
      obtain ⟨qv, e, limbo⟩ := ht
      exact ⟨t, qv, e, limbo⟩
    · rintro ⟨t, qv, e, limbo⟩
      apply inv.resolves trivial
      refine ReferenceSet.containsKey_iff.2 ⟨t, ?_⟩
      rw [inv.refs, e, Option.any_some]
      exact limbo
  refine ⟨tracked, ?_⟩
  intro t qv snapshot there last fromCache current
  have fine := (inv.views t qv there).view
  rw [inv.fromCache there last, current, Bool.and_true, Bool.not_eq_true'] at fromCache
  obtain ⟨⟨k, u⟩, mem⟩ := List.exists_mem_of_ne_nil _ (List.isEmpty_eq_false_iff.1 fromCache)
  have limbo : qv.view.limboDocuments.contains k = true :=
    Option.isSome_iff_exists.2 ⟨u, SortedTable.get_eq_some.2 mem⟩
  refine ⟨k, (tracked k).2 ⟨t, qv, there, limbo⟩, ?_⟩
  rw [fine.settled.limbo current, View.shouldBeInLimbo] at limbo
  split at limbo
  case isTrue => cases limbo
  case isFalse unnamed =>
    refine ⟨by simpa using unnamed, ?_⟩
    intro l mem
    rw [inv.shown there mem]
    split at limbo
    case h_1 => cases limbo
    case h_2 a ea => exact ⟨_, mem_looks.2 ⟨a, ea, rfl⟩⟩

/-- The server sends the film but does not name it. -/
theorem run_resolving_sent :
    ∃ (s : SyncEngine) (qv : QueryView),
      Run (Guarded (Fires step) fun s e => s.Asks e ∧ Answered e) (new "a@b.c" 10)
        [.addQueryListener LocalStore.wishlist ⟨2, 0, SortedTable.empty⟩ false,
          .applyRemoteEvent (sent [])] s ∧
      s.queryViews.get 2 = some qv ∧
      ∃ k, s.limbo.Tracked k ∧ qv.view.syncedDocuments.contains k = false ∧
        ∀ l ∈ qv.listeners, ∃ value, (k, value) ∈ l.shown := by
  obtain ⟨s, rn, good⟩ := exists_run (guardedStep step fun s e => s.Asks e ∧ Answered e)
    (new "a@b.c" 10)
    [.addQueryListener LocalStore.wishlist ⟨2, 0, SortedTable.empty⟩ false,
      .applyRemoteEvent (sent [])]
    (fun s => (s.queryViews.get 2).any fun qv =>
      (qv.viewSnapshot.any fun snapshot => snapshot.fromCache) && qv.view.current)
    (by decide +kernel)
  obtain ⟨qv, there, view⟩ := (Option.any_eq_true _ _).1 good
  obtain ⟨told, current⟩ := Bool.and_eq_true_iff.1 view
  obtain ⟨snapshot, last, fromCache⟩ := (Option.any_eq_true _ _).1 told
  have rn' := Run.of_guardedStep rn
  exact ⟨s, qv, rn', there, (run_resolving rn').2 2 qv snapshot there last fromCache current⟩

end SyncEngine

end Lumiere.Firestore.Client

import Lumiere.Client.LocalStoreRun
import Lumiere.Client.LimboInvariant
import Lumiere.Client.SyncEngine

/-!
# What the listeners show

After every operation of the sync engine each view shows documents of the local view, within the
limit of its query, and each listener shows what its view does (`QueryView.Fine`); the documents in
limbo are those that the limbo resolution knows of (`Inv`). The property `full` stands for runs in
which nothing is missing when a query begins; in these nothing that belongs into a view is missing
later.
-/

namespace Lumiere.Firestore.Client

open Transition

/-- What succeeds for each element of a list succeeds for the list. -/
lemma exists_mapM {α β : Type*} {f : α → Option β} {P : β → Prop} {l : List α}
    (each : ∀ a ∈ l, ∃ b, f a = some b ∧ P b) :
    ∃ l', l.mapM f = some l' ∧ l'.length = l.length ∧ ∀ b ∈ l', P b := by
  induction l with
  | nil => exact ⟨[], rfl, rfl, fun b mem => by cases mem⟩
  | cons a l ih =>
    obtain ⟨b, e, p⟩ := each a List.mem_cons_self
    obtain ⟨l', e', length, ps⟩ := ih fun a mem => each a (List.mem_cons_of_mem _ mem)
    refine ⟨b :: l', ?_, by simp [length], ?_⟩
    · simp [List.mapM_cons, e, e']
    · intro c mem
      rcases List.mem_cons.1 mem with rfl | mem
      · exact p
      · exact ps c mem

/-! ## The store under a query -/

/-- A query leaves the store as it is, but for how its overlays are kept. -/
structure SameStore (s s' : LocalStore) : Prop where
  view : LocalDocumentsView.SameView s.localDocuments s'.localDocuments
  rest : s' = s.withView s'.localDocuments

namespace SameStore

variable {s s' s'' : LocalStore}

/-- A store is the same as itself. -/
lemma refl (cs : s.Consistent) : SameStore s s :=
  ⟨⟨rfl, rfl, cs.view⟩, rfl⟩

/-- Three stores that are the same. -/
lemma trans (h1 : SameStore s s') (h2 : SameStore s' s'') : SameStore s s'' where
  view := ⟨h2.view.remote.trans h1.view.remote, h2.view.queue.trans h1.view.queue,
    h2.view.consistent⟩
  rest := by
    rw [h2.rest, h1.rest]
    rfl

/-- The other store is consistent too. -/
lemma consistent (cs : s.Consistent) (h : SameStore s s') : s'.Consistent := by
  rw [h.rest]
  exact cs.withView h.view.consistent

/-- The local view of each document is the same. -/
lemma localView (h : SameStore s s') (k : DocumentKey) :
    s'.localDocuments.localView k = s.localDocuments.localView k :=
  h.view.localView

end SameStore

/-- A query returns documents that match as the local view has them, and with no results before all
    of them. -/
lemma executeQuery_spec {s : LocalStore} (cs : s.Consistent) (query : CoreQuery)
    (lastLimboFree : SnapshotVersion) (remoteKeys : List DocumentKey) :
    ∃ m s', s.executeQuery query lastLimboFree remoteKeys = some (m, s') ∧ SameStore s s' ∧
      (∀ k d, m.get k = some d →
        d = s.localDocuments.localView k ∧ query.matches d = true) ∧
      (lastLimboFree = 0 ∨ QueryEngine.Covers s.localDocuments query lastLimboFree remoteKeys →
        ∀ k, query.matches (s.localDocuments.localView k) = true →
          m.get k = some (s.localDocuments.localView k)) := by
  obtain ⟨m, v', e, same, found, complete⟩ :=
    QueryEngine.getDocumentsMatchingQuery_spec cs.view query lastLimboFree remoteKeys
  refine ⟨m, s.withView v', ?_, ⟨same, rfl⟩, found, complete⟩
  rw [LocalStore.executeQuery, e]
  rfl

namespace SyncEngine

/-! ## One view -/

/-- What changed documents are to a view: those of the local view as it is now, and all of which it
    has changed. -/
structure Change (lv lv' : DocumentKey → MutableDocument) (changes : DocumentMap) : Prop where
  keys : ∀ k, (lv' k).key = k
  named : changes.Named
  current : ∀ k d, changes.get k = some d →
    d = lv' k ∨ d.isFoundDocument = false ∧ (lv' k).isFoundDocument = false
  complete : ∀ k, changes.get k = none → lv' k = lv k

/-- The reported documents are those whose local view has changed. -/
lemma change_of_reports {v v' : LocalDocumentsView} {changes : DocumentMap}
    (h : Reports v v' changes) : Change v.localView v'.localView changes :=
  ⟨fun _ => LocalDocumentsView.key_localView, h.named, h.current, h.complete⟩

variable {lv lv' : DocumentKey → MutableDocument} {changes : DocumentMap} {qv : QueryView}

/-- The documents of a view after some changes never ask for a second refill. -/
lemma computeDocumentChanges_spec {store : LocalStore} (cs : store.Consistent)
    (change : Change lv lv' changes) (now : ∀ k, store.localDocuments.localView k = lv' k)
    (shown : Shown lv qv.view.documentSet)
    (mutated : Mutated qv.view.documentSet qv.view.mutatedKeys) :
    ∃ r store', computeDocumentChanges store qv changes = some (r, store') ∧
      SameStore store store' ∧ r.Sound qv.view.documentSet ∧ Shown lv' r.documentSet ∧
      Within r.documentSet ∧ r.needsRefill = false ∧
      (Complete lv qv.view.documentSet → Complete lv' r.documentSet) := by
  obtain ⟨r, e, sound, shown', within, complete⟩ := View.computeDocumentChanges_spec change.keys
    change.named change.current change.complete shown mutated
  have begins : computeDocumentChanges store qv changes =
      if r.needsRefill then
        (store.executeQuery qv.query 0 []).bind fun d =>
          (qv.view.computeDocumentChanges d.1 (some r)).bind fun r => some (r, d.2)
      else some (r, store) := by
    rw [computeDocumentChanges, e]
    rfl
  rw [begins]
  by_cases refill : r.needsRefill = true
  · obtain ⟨m, store', eq, same, found, all⟩ := executeQuery_spec cs qv.query 0 []
    have found' (k : DocumentKey) (d : MutableDocument) (em : m.get k = some d) :
        d = lv' k ∧ qv.query.matches d = true := by
      rw [← now k]
      exact found k d em
    have begun : (qv.view.start (some r)).Sound qv.view.documentSet := ⟨sound.tells, sound.mutated⟩
    have begun' : Shown lv' (qv.view.start (some r)).documentSet := shown'
    obtain ⟨r', e', sound', shown'', within', done, complete'⟩ :=
      View.computeDocumentChanges_full change.keys found' begun begun'
    refine ⟨r', store', ?_, same, sound', shown'', within', done, ?_⟩
    · rw [if_pos refill, eq]
      change Option.bind (qv.view.computeDocumentChanges m (some r)) _ = _
      rw [e']
      rfl
    · intro _
      apply complete'
      intro k matching
      rw [← now k] at matching ⊢
      exact all (.inl rfl) k matching
  · rw [if_neg refill]
    have no : r.needsRefill = false := Bool.not_eq_true _ ▸ refill
    exact ⟨r, store, rfl, .refl cs, sound, shown', within, no, fun c => complete c no⟩

end SyncEngine

/-! ## What a view hands on -/

variable {q : CoreQuery}

/-- What holds of a view between two operations. -/
structure View.Fine (full : Prop) (lv : DocumentKey → MutableDocument) (v : View q) : Prop where
  shown : Shown lv v.documentSet
  within : Within v.documentSet
  complete : full → Complete lv v.documentSet
  mutated : Mutated v.documentSet v.mutatedKeys
  settled : v.Settled

/-- A snapshot tells what the view shows, if anything has changed at all. -/
structure Taken (v v' : View q) (snapshot : Option (ViewSnapshot q)) : Prop where
  quiet : snapshot = none →
    v'.documentSet.looks = v.documentSet.looks ∧ v'.syncState = v.syncState
  news : ∀ s, snapshot = some s → s.Faithful ∧ s.documents = v'.documentSet ∧
    s.oldDocuments = v.documentSet ∧ s.fromCache = (v'.syncState == .local) ∧
    (s.documentChanges.isEmpty && !s.syncStateChanged) = false

/-- The last snapshot of a view, which every new listener hears first. -/
structure Heard (v : View q) (s : ViewSnapshot q) : Prop where
  faithful : s.Faithful
  looks : s.documents.looks = v.documentSet.looks
  fromCache : s.fromCache = (v.syncState == .local)
  news : (s.documentChanges.isEmpty && !s.syncStateChanged) = false

/-- A query that is listened to: its view is fine, and its listeners show what the view does. -/
structure QueryView.Fine (full : Prop) (lv : DocumentKey → MutableDocument) (qv : QueryView) :
    Prop where
  view : qv.view.Fine full lv
  snapshot : ∃ s, qv.viewSnapshot = some s ∧ Heard qv.view s
  listeners : ∀ l ∈ qv.listeners, UpToDate l.listener qv.view.documentSet.looks l.shown
  listened : qv.listeners ≠ []

/-- Sets that lead every key to the same document look the same. -/
lemma looks_congr {a b : DocumentSet q} (same : ∀ k, a.get k = b.get k) : a.looks = b.looks := by
  rw [DocumentSet.looks, DocumentSet.looks, IndexedSet.sorted_ext same]

/-- A view that has taken over changes gives its listeners a snapshot when there is one. -/
lemma View.Applied.taken {v v' : View q} {r : ViewDocumentChanges q} {t : Option TargetChange}
    {change : ViewChange q} (h : View.Applied v r t v' change) : Taken v v' change.snapshot where
  quiet := by
    intro none_
    obtain ⟨same, state⟩ := h.quiet none_
    exact ⟨looks_congr same, state⟩
  news := by
    intro s e
    obtain ⟨faithful, documents, old, _, fromCache, _, news⟩ := h.faithful s e
    exact ⟨faithful, documents, old, fromCache, news⟩

/-- The snapshot shows what the view has. -/
lemma Taken.heard {v v' : View q} {s : ViewSnapshot q} (h : Taken v v' (some s)) : Heard v' s := by
  obtain ⟨faithful, documents, _, fromCache, news⟩ := h.news s rfl
  exact ⟨faithful, by rw [documents], fromCache, news⟩

namespace Subscriber

variable {l : Subscriber q} {s : ViewSnapshot q}

/-- A listener that is up to date follows the next snapshot. -/
lemma exists_onViewSnapshot {old : List (DocumentKey × ObjectValue)}
    (upToDate : UpToDate l.listener old l.shown) (same : s.oldDocuments.looks = old)
    (faithful : s.Faithful) (news : (s.documentChanges.isEmpty && !s.syncStateChanged) = false) :
    ∃ l', l.onViewSnapshot s = some l' ∧ UpToDate l'.listener s.documents.looks l'.shown := by
  obtain ⟨listener, event, shown, e, follows, upToDate'⟩ := QueryListener.onViewSnapshot_spec
    upToDate.eager (fun _ => upToDate.same.trans same.symm) upToDate.waiting faithful news
  refine ⟨⟨listener, shown⟩, ?_, upToDate'⟩
  rw [onViewSnapshot, e, Option.bind_some, raise, follows]
  rfl

/-- The connection does not change what a listener shows. -/
lemma exists_onOnlineStateChanged {looks : List (DocumentKey × ObjectValue)}
    (upToDate : UpToDate l.listener looks l.shown) (onlineState : OnlineState) :
    ∃ l', l.onOnlineStateChanged onlineState = some l' ∧ UpToDate l'.listener looks l'.shown := by
  obtain ⟨listener, event, shown, e, follows, upToDate'⟩ :=
    QueryListener.onOnlineStateChanged_spec upToDate onlineState
  refine ⟨⟨listener, shown⟩, ?_, upToDate'⟩
  rw [onOnlineStateChanged, e, Option.bind_some, raise, follows]
  rfl

/-- A listener before its first snapshot. -/
structure Fresh (l : Subscriber q) : Prop where
  eager : l.listener.options.waitForSyncWhenOnline = false
  raised : l.listener.raisedInitialEvent = false
  snapshot : l.listener.snapshot = none
  shown : l.shown = []

/-- A new listener has learnt whether the client reaches the server, and shows nothing. -/
lemma exists_new (includeMetadataChanges : Bool) (onlineState : OnlineState) :
    ∃ l : Subscriber q, (new includeMetadataChanges).onOnlineStateChanged onlineState = some l ∧
      l.Fresh :=
  ⟨_, rfl, rfl, rfl, rfl, rfl⟩

/-- A new listener hears its first snapshot. -/
lemma Fresh.exists_onViewSnapshot (fresh : l.Fresh) (faithful : s.Faithful)
    (news : (s.documentChanges.isEmpty && !s.syncStateChanged) = false) :
    ∃ l', l.onViewSnapshot s = some l' ∧ UpToDate l'.listener s.documents.looks l'.shown := by
  obtain ⟨listener, event, shown, e, follows, upToDate'⟩ := QueryListener.onViewSnapshot_spec
    fresh.eager (fun yes => by rw [fresh.raised] at yes; cases yes) (fun _ => fresh.shown) faithful
    news
  refine ⟨⟨listener, shown⟩, ?_, upToDate'⟩
  rw [onViewSnapshot, e, Option.bind_some, raise, follows]
  rfl

end Subscriber

section

variable {full : Prop} {lv lv' : DocumentKey → MutableDocument} {qv : QueryView}

/-- The listeners of a view that is done hear its snapshot. -/
lemma Emission.onViewSnapshot_spec (fine : qv.Fine full lv) {v' : View qv.query}
    {snapshot : Option (ViewSnapshot qv.query)} (fine' : v'.Fine full lv')
    (taken : Taken qv.view v' snapshot) :
    ∃ viewSnapshot listeners, Emission.onViewSnapshot ⟨{ qv with view := v' }, snapshot⟩ =
        some ⟨qv.query, v', viewSnapshot, listeners⟩ ∧
      QueryView.Fine full lv' ⟨qv.query, v', viewSnapshot, listeners⟩ := by
  cases snapshot with
  | none =>
    obtain ⟨same, state⟩ := taken.quiet rfl
    obtain ⟨s, es, heard⟩ := fine.snapshot
    refine ⟨qv.viewSnapshot, qv.listeners, rfl, ?_⟩
    constructor
    case view => exact fine'
    case snapshot =>
      refine ⟨s, es, ?_⟩
      exact
        { heard with
          looks := heard.looks.trans same.symm
          fromCache := by
            rw [state]
            exact heard.fromCache }
    case listeners =>
      intro l mem
      dsimp only
      rw [same]
      exact fine.listeners l mem
    case listened => exact fine.listened
  | some s =>
    obtain ⟨faithful, documents, old, _, news⟩ := taken.news s rfl
    have hears (l : Subscriber qv.query) (mem : l ∈ qv.listeners) :=
      Subscriber.exists_onViewSnapshot (fine.listeners l mem) (by rw [old]) faithful news
    obtain ⟨listeners, e, length, upToDate⟩ := exists_mapM hears
    refine ⟨some s, listeners, ?_, ?_⟩
    · rw [Emission.onViewSnapshot]
      change Option.bind (qv.listeners.mapM fun l => l.onViewSnapshot s) _ = _
      rw [e]
      rfl
    · constructor
      case view => exact fine'
      case snapshot => exact ⟨s, rfl, taken.heard⟩
      case listeners =>
        intro l mem
        dsimp only
        rw [← documents]
        exact upToDate l mem
      case listened =>
        intro none_
        dsimp only at none_
        rw [none_] at length
        exact fine.listened (List.length_eq_zero_iff.1 length.symm)

end

/-! ## What a view has in limbo -/

section

variable {has : DocumentKey → TargetId → Bool} {t : TargetId} {k : DocumentKey}
  {cs : List LimboDocumentChange}

/-- What is reported as in limbo, and not as out of it, is in limbo. -/
lemma foldl_reported_of_added (no : .removed k ∉ cs) (h : .added k ∈ cs ∨ has k t = true) :
    cs.foldl (LimboTracker.reported t) has k t = true := by
  induction cs generalizing has with
  | nil => exact h.resolve_left List.not_mem_nil
  | cons c cs ih =>
    apply ih fun mem => no (List.mem_cons_of_mem _ mem)
    cases c with
    | added key =>
      rcases h with h | h
      · rcases List.mem_cons.1 h with h | h
        · cases h
          exact .inr (by simp [LimboTracker.reported])
        · exact .inl h
      · exact .inr (by simp [LimboTracker.reported, h])
    | removed key =>
      have ne : k ≠ key := by
        rintro rfl
        exact no List.mem_cons_self
      rcases h with h | h
      · exact .inl (by simpa using h)
      · exact .inr (by simp [LimboTracker.reported, ne, h])

/-- What is reported as out of limbo, and not as in it, is not in limbo. -/
lemma foldl_reported_of_removed (no : .added k ∉ cs) (h : .removed k ∈ cs ∨ has k t = false) :
    cs.foldl (LimboTracker.reported t) has k t = false := by
  induction cs generalizing has with
  | nil => exact h.resolve_left List.not_mem_nil
  | cons c cs ih =>
    apply ih fun mem => no (List.mem_cons_of_mem _ mem)
    cases c with
    | removed key =>
      rcases h with h | h
      · rcases List.mem_cons.1 h with h | h
        · cases h
          exact .inr (by simp [LimboTracker.reported])
        · exact .inl h
      · exact .inr (by simp [LimboTracker.reported, h])
    | added key =>
      have ne : k ≠ key := by
        rintro rfl
        exact no List.mem_cons_self
      rcases h with h | h
      · exact .inl (by simpa using h)
      · exact .inr (by simp [LimboTracker.reported, ne, h])

/-- The reports of a view lead from what it had in limbo to what it has. -/
lemma foldl_reported {old new : DocumentKeySet} (h : View.LimboReports old new cs)
    (before : has k t = old.contains k) :
    cs.foldl (LimboTracker.reported t) has k t = new.contains k := by
  cases now : new.contains k with
  | true =>
    apply foldl_reported_of_added
    · intro mem
      have no := ((h.2 k).1 mem).2
      rw [now] at no
      cases no
    · cases was : old.contains k with
      | true => exact .inr (before.trans was)
      | false => exact .inl ((h.1 k).2 ⟨now, was⟩)
  | false =>
    apply foldl_reported_of_removed
    · intro mem
      have yes := ((h.1 k).1 mem).1
      rw [now] at yes
      cases yes
    · cases was : old.contains k with
      | true => exact .inl ((h.2 k).2 ⟨was, now⟩)
      | false => exact .inr (before.trans was)

end

/-- The limbo resolution after the reports of one view. -/
structure Relimbo (t : TargetId) (old new : DocumentKeySet) (l l' : LimboTracker) : Prop where
  tracks : l'.Tracks
  here : ∀ k, l.limboDocumentRefs.has k t = old.contains k →
    l'.limboDocumentRefs.has k t = new.contains k
  others : ∀ k u, u ≠ t → l'.limboDocumentRefs.has k u = l.limboDocumentRefs.has k u
  queries : ∀ u : Nat, u % 2 = 0 → l'.listenTargets.get u = l.listenTargets.get u
  resolves : l.Resolves → l'.Resolves

/-- The limbo resolution takes over what a view reports. -/
lemma exists_relimbo {l : LimboTracker} (tr : l.Tracks) (t : TargetId) {old new : DocumentKeySet}
    {cs : List LimboDocumentChange} (h : View.LimboReports old new cs) :
    ∃ l', l.updateTrackedLimboDocuments cs t = some l' ∧ Relimbo t old new l l' := by
  obtain ⟨l', e, steps, queries, resolves⟩ := LimboTracker.updateTrackedLimboDocuments_spec t tr cs
  refine ⟨l', e, steps.tracks, ?_, ?_, queries, resolves⟩
  · intro k before
    rw [steps.refs]
    exact foldl_reported h before
  · intro k u ne
    rw [steps.refs]
    exact LimboTracker.reported_others cs ne

namespace SyncEngine

variable {full : Prop} {lv lv' : DocumentKey → MutableDocument} {changes : DocumentMap}
  {qv : QueryView}

/-- What the server has said of a query is what the view knows. -/
structure Follows (v v' : View q) (t : Option TargetChange) : Prop where
  syncedDocuments : v'.syncedDocuments = View.syncedAfter v.syncedDocuments t
  current : v'.current = View.currentAfter v.current t

/-- One view takes over what an operation has changed. -/
lemma emitNewSnapshot_spec {store : LocalStore} {limbo : LimboTracker} (cs : store.Consistent)
    (change : Change lv lv' changes) (now : ∀ k, store.localDocuments.localView k = lv' k)
    (tr : limbo.Tracks) (fine : qv.view.Fine full lv) (e : Option RemoteEvent) (t : TargetId)
    (ok : qv.view.Accepts (e.bind fun e => e.targetChanges.get t)) :
    ∃ v' snapshot store' limbo', emitNewSnapshot changes e (store, limbo) t qv =
        some (⟨{ qv with view := v' }, snapshot⟩, (store', limbo')) ∧
      v'.Fine full lv' ∧ Taken qv.view v' snapshot ∧
      Follows qv.view v' (e.bind fun e => e.targetChanges.get t) ∧ SameStore store store' ∧
      Relimbo t qv.view.limboDocuments v'.limboDocuments limbo limbo' := by
  obtain ⟨r, store', e1, same, sound, shown, within, done, complete⟩ :=
    computeDocumentChanges_spec cs change now fine.shown fine.mutated
  obtain ⟨v', change', e2, applied⟩ := View.applyChanges_spec sound done ok
  obtain ⟨limbo', e3, relimbo⟩ := exists_relimbo tr t applied.limbo
  refine ⟨v', change'.snapshot, store', limbo', ?_, ?_, applied.taken, ?_, same, relimbo⟩
  · rw [emitNewSnapshot, e1]
    change Option.bind (qv.view.applyChanges r _) _ = _
    rw [e2]
    change Option.bind (limbo.updateTrackedLimboDocuments _ t) _ = _
    rw [e3]
    rfl
  · constructor
    case shown =>
      rw [applied.documentSet]
      exact shown
    case within =>
      rw [applied.documentSet]
      exact within
    case complete =>
      intro f
      rw [applied.documentSet]
      exact complete (fine.complete f)
    case mutated =>
      rw [applied.documentSet, applied.mutatedKeys]
      exact sound.mutated
    case settled => exact applied.settled
  · exact ⟨applied.syncedDocuments, applied.current⟩

/-! ## All views -/

/-- The listeners show the local view `lv`, and the limbo resolution knows what the views have in
    limbo. `full` stands for runs in which nothing is missing when a query begins, `answered` for
    runs in which the server refuses no document in limbo. -/
structure ShowsView (full answered : Prop) (lv : DocumentKey → MutableDocument) (s : SyncEngine) :
    Prop where
  store : s.localStore.Consistent
  views : ∀ t qv, s.queryViews.get t = some qv → qv.Fine full lv
  limbo : s.limbo.Tracks
  refs : ∀ k t, s.limbo.limboDocumentRefs.has k t =
    (s.queryViews.get t).any fun qv => qv.view.limboDocuments.contains k
  targets : ∀ t : Nat, s.queryViews.contains t =
    (decide (t % 2 = 0) && s.limbo.listenTargets.contains t)
  resolves : answered → s.limbo.Resolves

/-- What holds of the client between two operations. -/
def Consistent (full answered : Prop) (s : SyncEngine) : Prop :=
  s.ShowsView full answered s.localStore.localDocuments.localView

/-- The views take an operation over: each of the queries listens on. -/
structure Moves (e : Option RemoteEvent) (s s' : SyncEngine) : Prop where
  store : SameStore s.localStore s'.localStore
  onlineState : s'.onlineState = s.onlineState
  contains : ∀ t, s'.queryViews.contains t = s.queryViews.contains t
  views : ∀ t qv', s'.queryViews.get t = some qv' → ∃ qv v' viewSnapshot listeners,
    s.queryViews.get t = some qv ∧ qv' = ⟨qv.query, v', viewSnapshot, listeners⟩ ∧
      Follows qv.view v' (e.bind fun e => e.targetChanges.get t)

variable {answered : Prop} {s : SyncEngine}

/-- What a view that is done has left to the listeners of its query; `R` says what has become of the
    view. -/
def Due (full : Prop) (lv' : DocumentKey → MutableDocument)
    (R : {q : CoreQuery} → View q → View q → Prop) (qv : QueryView) (em : Emission) : Prop :=
  ∃ v' snapshot, em = ⟨{ qv with view := v' }, snapshot⟩ ∧ v'.Fine full lv' ∧
    Taken qv.view v' snapshot ∧ R qv.view v'

/-- The event manager hears the snapshots of all views. -/
lemma onViewSnapshots_spec {queryViews : SortedTable TargetId QueryView}
    {emissions : SortedTable TargetId Emission}
    (R : TargetId → {q : CoreQuery} → View q → View q → Prop)
    (fine : ∀ t qv, queryViews.get t = some qv → qv.Fine full lv)
    (due : ∀ t em, emissions.get t = some em →
      ∃ qv, queryViews.get t = some qv ∧ Due full lv' (R t) qv em) :
    ∃ queryViews', onViewSnapshots emissions = some queryViews' ∧
      (∀ t, queryViews'.contains t = emissions.contains t) ∧
      ∀ t qv', queryViews'.get t = some qv' → qv'.Fine full lv' ∧
        (∃ em, emissions.get t = some em ∧
          em.queryView.view.limboDocuments = qv'.view.limboDocuments) ∧
        ∃ qv v' viewSnapshot listeners, queryViews.get t = some qv ∧
          qv' = ⟨qv.query, v', viewSnapshot, listeners⟩ ∧ R t qv.view v' := by
  obtain ⟨queryViews', _, e, all, contains⟩ := SortedTable.traverse_rule
    (t := emissions) (s := ()) (f := fun _ _ em => em.onViewSnapshot.map fun qv => (qv, ()))
    (fun queryViews' _ => ∀ t qv', queryViews'.get t = some qv' → qv'.Fine full lv' ∧
      (∃ em, emissions.get t = some em ∧
        em.queryView.view.limboDocuments = qv'.view.limboDocuments) ∧
      ∃ qv v' viewSnapshot listeners, queryViews.get t = some qv ∧
        qv' = ⟨qv.query, v', viewSnapshot, listeners⟩ ∧ R t qv.view v')
    (fun t qv' e => by cases e)
    (by
      intro u _ t em all eem _
      obtain ⟨qv, eqv, v', snapshot, rfl, fine', taken, follows⟩ := due t em eem
      obtain ⟨viewSnapshot, listeners, e, fine''⟩ :=
        Emission.onViewSnapshot_spec (fine t qv eqv) fine' taken
      refine ⟨⟨qv.query, v', viewSnapshot, listeners⟩, (), by rw [e]; rfl, ?_⟩
      intro t' qv' e'
      rw [SortedTable.get_put] at e'
      split at e'
      case isTrue et =>
        cases e'
        rw [et]
        exact ⟨fine'', ⟨_, eem, rfl⟩, qv, v', viewSnapshot, listeners, eqv, rfl, follows⟩
      case isFalse => exact all t' qv' e')
  refine ⟨queryViews', ?_, contains, all⟩
  rw [onViewSnapshots, e]
  rfl

/-- All views take over what an operation has changed, and all listeners hear of it. -/
lemma emitNewSnapshotsAndNotifyLocalStore_spec (inv : s.ShowsView full answered lv)
    (change : Change lv s.localStore.localDocuments.localView changes) (e : Option RemoteEvent)
    (ok : ∀ t qv, s.queryViews.get t = some qv →
      qv.view.Accepts (e.bind fun e => e.targetChanges.get t)) :
    ∃ s', s.emitNewSnapshotsAndNotifyLocalStore changes e = some s' ∧
      s'.Consistent full answered ∧ Moves e s s' := by
  obtain ⟨emissions, ⟨store, limbo⟩, e1, ⟨same, tr, queries, resolves, refs, due⟩, contains1⟩ :=
    SortedTable.traverse_rule
      (t := s.queryViews) (s := (s.localStore, s.limbo)) (f := emitNewSnapshot changes e)
      (fun emissions st => SameStore s.localStore st.1 ∧ st.2.Tracks ∧
        (∀ u : Nat, u % 2 = 0 → st.2.listenTargets.get u = s.limbo.listenTargets.get u) ∧
        (answered → st.2.Resolves) ∧
        (∀ k t, st.2.limboDocumentRefs.has k t =
          (emissions.get t).elim (s.limbo.limboDocumentRefs.has k t)
            fun em => em.queryView.view.limboDocuments.contains k) ∧
        ∀ t em, emissions.get t = some em → ∃ qv, s.queryViews.get t = some qv ∧
          Due full s.localStore.localDocuments.localView
            (fun v v' => Follows v v' (e.bind fun e => e.targetChanges.get t)) qv em)
      ⟨.refl inv.store, inv.limbo, fun _ _ => rfl, inv.resolves, fun _ _ => rfl,
        fun t em e => by cases e⟩
      (by
        rintro u ⟨store, limbo⟩ t qv ⟨same, tr, queries, resolves, refs, due⟩ eqv new
        obtain ⟨v', snapshot, store', limbo', e', fine', taken, follows, same', relimbo⟩ :=
          emitNewSnapshot_spec (same.consistent inv.store) change same.localView tr
            (inv.views t qv eqv).view e t (ok t qv eqv)
        refine ⟨_, (store', limbo'), e', same.trans same', relimbo.tracks, ?_, ?_, ?_, ?_⟩
        · intro u even
          exact (relimbo.queries u even).trans (queries u even)
        · exact fun a => relimbo.resolves (resolves a)
        · intro k t'
          rw [SortedTable.get_put]
          by_cases et : t' = t
          · rw [if_pos et, et]
            apply relimbo.here
            have before := inv.refs k t
            rw [eqv, Option.any_some] at before
            rw [refs, new]
            exact before
          · rw [if_neg et, relimbo.others k t' et]
            exact refs k t'
        · intro t' em e''
          rw [SortedTable.get_put] at e''
          split at e''
          case isTrue et =>
            cases e''
            rw [et]
            exact ⟨qv, eqv, v', snapshot, rfl, fine', taken, follows⟩
          case isFalse => exact due t' em e'')
  obtain ⟨queryViews', e2, contains2, all⟩ := onViewSnapshots_spec
    (fun t _ v v' => Follows v v' (e.bind fun e => e.targetChanges.get t)) inv.views due
  refine ⟨{ s with localStore := store, limbo := limbo, queryViews := queryViews' }, ?_, ?_,
    same, rfl, fun t => (contains2 t).trans (contains1 t), fun t qv' h => (all t qv' h).2.2⟩
  · rw [emitNewSnapshotsAndNotifyLocalStore, e1]
    change Option.bind (onViewSnapshots emissions) _ = _
    rw [e2]
    rfl
  · have lv (k : DocumentKey) := same.localView k
    constructor
    case store => exact same.consistent inv.store
    case views =>
      intro t qv' h
      have eq : store.localDocuments.localView = s.localStore.localDocuments.localView := funext lv
      change QueryView.Fine full store.localDocuments.localView qv'
      rw [eq]
      exact (all t qv' h).1
    case limbo => exact tr
    case refs =>
      intro k t
      change limbo.limboDocumentRefs.has k t = (queryViews'.get t).any _
      rw [refs]
      have c := (contains2 t).trans (contains1 t)
      have c2 := contains2 t
      cases e' : queryViews'.get t with
      | some qv' =>
        obtain ⟨_, ⟨em, eem, limbo⟩, _⟩ := all t qv' e'
        rw [eem, Option.any_some, ← limbo]
        rfl
      | none =>
        rw [SortedTable.contains, SortedTable.contains, e'] at c c2
        rw [Option.isNone_iff_eq_none.1 (Option.isSome_eq_false_iff.1 c2.symm), Option.elim_none,
          inv.refs, Option.isNone_iff_eq_none.1 (Option.isSome_eq_false_iff.1 c.symm)]
    case targets =>
      intro t
      change queryViews'.contains t = (decide (t % 2 = 0) && limbo.listenTargets.contains t)
      rw [contains2, contains1, inv.targets]
      by_cases even : t % 2 = 0
      · rw [LimboTracker.contains_of_get_eq (queries t even)]
      · rw [decide_eq_false even, Bool.false_and, Bool.false_and]
    case resolves => exact resolves

end SyncEngine

end Lumiere.Firestore.Client

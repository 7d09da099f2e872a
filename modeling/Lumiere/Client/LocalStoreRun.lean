import Lumiere.Base.Run
import Lumiere.Client.LocalStoreInvariant

/-!
# Runs of the local store

The store of a device over its whole life: local writes, answers to batches, events of the watch
stream, changes of the user and restarts of the app, in any order in which the client asks for them
(`Asks`). The tables stay consistent, so that the store never stops the client and a document that is
read is the cached one with all pending batches on top. An observer who learns of documents only by
what the operations return knows all documents of the local view at any time.
-/

namespace Lumiere.Firestore.Client

open Transition

/-- What the client asks of its store. -/
inductive StoreEvent where
  | writeLocally (mutations : List Mutation)
  | acknowledgeBatch (r : MutationBatchResult)
  | rejectBatch (batchId : BatchId)
  | applyRemoteEvent (e : RemoteEvent)
  | handleUserChange (user : String)
  | restart

namespace LocalStore

/-- The documents that the operation returns, and the store after it. -/
def handle (s : LocalStore) : StoreEvent → Option (DocumentMap × LocalStore)
  | .writeLocally mutations => (s.writeLocally mutations).map Prod.snd
  | .acknowledgeBatch r => s.acknowledgeBatch r
  | .rejectBatch batchId => s.rejectBatch batchId
  | .applyRemoteEvent e => s.applyRemoteEvent e
  | .handleUserChange user => s.handleUserChange user
  | .restart => some (SortedTable.empty, s.startMutationQueue)

/-- One operation on the store. -/
def step (s : LocalStore) (e : StoreEvent) : Option LocalStore :=
  (s.handle e).map Prod.snd

/-- How the client calls the store: it writes something, it passes answers to pending batches on and
    the stream does not go back. -/
def Asks (s : LocalStore) : StoreEvent → Prop
  | .writeLocally mutations => mutations ≠ []
  | .acknowledgeBatch r => r.batch ∈ s.mutationQueue.allMutationBatches
  | .rejectBatch batchId => ∃ b ∈ s.mutationQueue.allMutationBatches, b.batchId = batchId
  | .applyRemoteEvent e => s.Raised e
  | .handleUserChange _ => True
  | .restart => True

variable {s : LocalStore}

/-- Any operation: it does not fail, keeps the tables consistent and returns what it has changed. -/
lemma handle_spec (cs : s.Consistent) {e : StoreEvent} (asks : s.Asks e) :
    ∃ changes s', s.handle e = some (changes, s') ∧ s'.Consistent ∧
      Reports s.localDocuments s'.localDocuments changes := by
  cases e with
  | writeLocally mutations =>
    obtain ⟨batch, changes, v', e, _, cv', _, _, _, reports⟩ := writeLocally_spec cs asks
    exact ⟨changes, s.withView v', by rw [handle, e]; rfl, cs.withView cv', reports⟩
  | acknowledgeBatch r =>
    obtain ⟨changes, v', e, cv', _, _, reports⟩ := acknowledgeBatch_spec cs asks
    exact ⟨changes, s.withView v', e, cs.withView cv', reports⟩
  | rejectBatch batchId =>
    obtain ⟨b, mem, rfl⟩ := asks
    obtain ⟨changes, v', e, cv', _, _, reports⟩ := rejectBatch_spec cs mem
    exact ⟨changes, s.withView v', e, cs.withView cv', reports⟩
  | applyRemoteEvent ev =>
    obtain ⟨changes, v', e, cv', _, _, reports⟩ := applyRemoteEvent_spec cs asks
    exact ⟨changes, _, e, ⟨cv', fun eo => consistent_of_tables (cs.others eo)⟩, reports⟩
  | handleUserChange user =>
    obtain ⟨changes, v', e, cv', _, _, reports⟩ := handleUserChange_spec cs user
    exact ⟨changes, (s.switchUser user).withView v', e, cs.switchUser.withView cv', reports⟩
  | restart =>
    refine ⟨_, _, rfl, cs.startMutationQueue, ?_⟩
    exact
      { named := fun e => by cases e
        current := fun k d e => by cases e
        complete := fun _ _ => startMutationQueue_localView }

/-- The tables are consistent after every run. -/
lemma Consistent.run {es : List StoreEvent} {s' : LocalStore} (cs : s.Consistent)
    (rn : Run (Guarded (Fires step) Asks) s es s') : s'.Consistent := by
  apply rn.invariant_guarded _ cs
  intro s e s' st asks cs
  obtain ⟨changes, s'', eh, cs'', _⟩ := handle_spec cs asks
  rw [Fires, step, eh] at st
  cases st
  exact cs''

/-- A single operation that the client asks for. -/
lemma exists_step (cs : s.Consistent) {e : StoreEvent} (asks : s.Asks e) :
    ∃ s', s.step e = some s' := by
  obtain ⟨changes, s', eh, _⟩ := handle_spec cs asks
  exact ⟨s', by rw [step, eh]; rfl⟩

/-- No operation that the client asks for fails, at any time of any run, and whatever document is
    read then is the cached one with the batches that are pending, first to last, on top of it. -/
theorem run_answers {user : String} {es : List StoreEvent} {s : LocalStore}
    (rn : Run (Guarded (Fires step) Asks) (empty user) es s) :
    (∀ e, s.Asks e → (s.step e).isSome = true) ∧
      ∀ k, s.readDocument k =
        replay s.mutationQueue.allMutationBatches (s.remoteDocumentCache.get k) := by
  have cs := empty_consistent.run rn
  constructor
  · intro e asks
    exact Option.isSome_iff_exists.2 (exists_step cs asks)
  · intro k
    exact LocalDocumentsView.getDocument_eq cs.view

/-- The write of a film to the wishlist of a user. -/
def addUp : StoreEvent :=
  .writeLocally
    [.setMutation ⟨["users", "a@b.c", "wishlist"], "1"⟩ (.ofFields [("title", .string "Up")])]

/-- Two films are added. -/
theorem run_answers_addUp :
    ∃ s, Run (Guarded (Fires step) Asks) (empty "a@b.c") [addUp, addUp] s ∧
      s.readDocument ⟨["users", "a@b.c", "wishlist"], "1"⟩ =
        replay s.mutationQueue.allMutationBatches
          (s.remoteDocumentCache.get ⟨["users", "a@b.c", "wishlist"], "1"⟩) := by
  have asks (s : LocalStore) : s.Asks addUp := List.cons_ne_nil _ _
  obtain ⟨s1, st1⟩ := exists_step empty_consistent (asks (empty "a@b.c"))
  have rn1 : Run (Guarded (Fires step) Asks) (empty "a@b.c") [addUp] s1 :=
    .single ⟨st1, asks _⟩
  obtain ⟨s2, st2⟩ := exists_step (empty_consistent.run rn1) (asks s1)
  have rn2 := rn1.append (.single ⟨st2, asks s1⟩)
  exact ⟨s2, rn2, (run_answers rn2).2 _⟩

/-! ## Queries -/

/-- A query that continues from the documents that it has returned before gives, when these cover it,
    what a scan of all documents gives: the documents of the local view that match. -/
theorem run_executeQuery {user : String} {es : List StoreEvent} {s : LocalStore}
    (rn : Run (Guarded (Fires step) Asks) (empty user) es s) (query : CoreQuery)
    {lastLimboFree : SnapshotVersion} {remoteKeys : List DocumentKey}
    (covers : QueryEngine.Covers s.localDocuments query lastLimboFree remoteKeys) :
    ∃ found scanned s' s'', s.executeQuery query lastLimboFree remoteKeys = some (found, s') ∧
      s.executeQuery query 0 [] = some (scanned, s'') ∧ found.get = scanned.get ∧
      ∀ k d, found.get k = some d ↔ s.readDocument k = d ∧ query.matches d = true := by
  have cs := empty_consistent.run rn
  obtain ⟨found, v1, e1, _, sound1, complete1⟩ := QueryEngine.getDocumentsMatchingQuery_spec cs.view
    query lastLimboFree remoteKeys
  obtain ⟨scanned, v2, e2, _, sound2, complete2⟩ := QueryEngine.getDocumentsMatchingQuery_spec
    cs.view query 0 []
  have exactly {m : DocumentMap}
      (sound : ∀ k d, m.get k = some d → d = s.localDocuments.localView k ∧ query.matches d = true)
      (complete : ∀ k, query.matches (s.localDocuments.localView k) = true →
        m.get k = some (s.localDocuments.localView k)) (k : DocumentKey) (d : MutableDocument) :
      m.get k = some d ↔ s.readDocument k = d ∧ query.matches d = true := by
    have read : s.readDocument k = s.localDocuments.localView k :=
      LocalDocumentsView.getDocument_eq cs.view
    rw [read]
    constructor
    · intro e
      obtain ⟨ed, matching⟩ := sound k d e
      exact ⟨ed.symm, matching⟩
    · rintro ⟨rfl, matching⟩
      exact complete k matching
  have exactly1 := exactly sound1 (complete1 (.inr covers))
  have exactly2 := exactly sound2 (complete2 (.inl rfl))
  refine ⟨found, scanned, s.withView v1, s.withView v2, ?_, ?_, ?_, exactly1⟩
  · rw [executeQuery, e1]
    rfl
  · rw [executeQuery, e2]
    rfl
  · funext k
    apply Option.ext
    intro d
    rw [exactly1, exactly2]

/-- The wishlist in the order of the keys. -/
def wishlist : CoreQuery where
  path := ["users", "a@b.c", "wishlist"]
  explicitOrderBys := []
  limitType := .none
  limit := 0
  orders := fun _ => rfl

/-- A film has been added without a connection; the query finds it under the pending writes. -/
theorem run_executeQuery_addUp :
    ∃ s found s', Run (Guarded (Fires step) Asks) (empty "a@b.c") [addUp] s ∧
      s.executeQuery wishlist 5 [] = some (found, s') ∧
      (s.readDocument ⟨["users", "a@b.c", "wishlist"], "1"⟩).isFoundDocument = true ∧
      ∀ k d, found.get k = some d ↔ s.readDocument k = d ∧ wishlist.matches d = true := by
  obtain ⟨s, rn, good⟩ := exists_run step (empty "a@b.c") [addUp]
    (fun s => (s.readDocument ⟨["users", "a@b.c", "wishlist"], "1"⟩).isFoundDocument)
    (by decide +kernel)
  have rn' : Run (Guarded (Fires step) Asks) (empty "a@b.c") [addUp] s :=
    .single ⟨rn.single_inv, List.cons_ne_nil _ _⟩
  have cs := empty_consistent.run rn'
  have cached (k : DocumentKey) : s.remoteDocumentCache.get k = .invalidDocument k := by
    obtain ⟨_, _, v', e, _, _, remote, _⟩ := writeLocally_spec
      (empty_consistent : (empty "a@b.c").Consistent) (List.cons_ne_nil
        (.setMutation ⟨["users", "a@b.c", "wishlist"], "1"⟩ (.ofFields [("title", .string "Up")])) [])
    have st : (empty "a@b.c").step addUp = some s := rn.single_inv
    rw [step, addUp, handle, e] at st
    cases st
    change v'.remoteDocumentCache.get k = _
    rw [remote]
    rfl
  have covers : QueryEngine.Covers s.localDocuments wishlist 5 [] := by
    intro k matching
    refine .inr (.inr ?_)
    by_contra no
    rw [LocalDocumentsView.localView_eq cs.view, Option.not_isSome_iff_eq_none.1 no] at matching
    change wishlist.matches (s.remoteDocumentCache.get k) = true at matching
    rw [cached] at matching
    cases matching
  obtain ⟨found, _, s', _, e, _, _, exactly⟩ := run_executeQuery rn' wishlist covers
  exact ⟨s, found, s', rn', e, good, exactly⟩

end LocalStore

/-! ## An observer -/

/-- A copy of the documents that is kept by nothing but what the operations return. -/
structure ObservedStore where
  store : LocalStore
  copy : DocumentMap

namespace ObservedStore

/-- The observer follows the documents that an operation reports. -/
def step (o : ObservedStore) (e : StoreEvent) : Option ObservedStore :=
  (o.store.handle e).map fun r => ⟨r.2, o.copy.putAll r.1⟩

/-- The copy has the documents of the local view that exist, and those only. -/
structure Mirrors (o : ObservedStore) : Prop where
  consistent : o.store.Consistent
  same : ∀ k d, o.copy.get k = some d → d = o.store.localDocuments.localView k ∨
    d.isFoundDocument = false ∧ (o.store.localDocuments.localView k).isFoundDocument = false
  all : ∀ k, o.copy.get k = none →
    (o.store.localDocuments.localView k).isFoundDocument = false

variable {o o' : ObservedStore}

/-- The observer keeps an exact copy. -/
lemma Mirrors.step (m : o.Mirrors) {e : StoreEvent} (st : o.step e = some o')
    (asks : o.store.Asks e) : o'.Mirrors := by
  obtain ⟨changes, s', eh, cs', reports⟩ := LocalStore.handle_spec m.consistent asks
  rw [ObservedStore.step, eh] at st
  cases st
  constructor
  · exact cs'
  · intro k d e
    rw [SortedTable.get_putAll] at e
    cases ec : changes.get k with
    | some d' =>
      rw [ec] at e
      cases e
      exact reports.current k _ ec
    | none =>
      rw [ec] at e
      change _ = s'.localDocuments.localView k ∨
        _ ∧ (s'.localDocuments.localView k).isFoundDocument = false
      rw [reports.complete k ec]
      exact m.same k d e
  · intro k e
    rw [SortedTable.get_putAll] at e
    cases ec : changes.get k with
    | some d' =>
      rw [ec] at e
      cases e
    | none =>
      rw [ec] at e
      change (s'.localDocuments.localView k).isFoundDocument = false
      rw [reports.complete k ec]
      exact m.all k e

/-- After every run the copy has exactly the documents that exist in the local view. -/
theorem run_mirrors {user : String} {es : List StoreEvent} {o : ObservedStore}
    (rn : Run (Guarded (Fires step) fun o e => o.store.Asks e)
      ⟨LocalStore.empty user, SortedTable.empty⟩ es o) (k : DocumentKey) (d : MutableDocument)
    (found : d.isFoundDocument = true) :
    o.copy.get k = some d ↔ o.store.readDocument k = d := by
  have m : o.Mirrors := by
    apply rn.invariant_guarded (P := Mirrors)
    · exact fun st asks m => m.step st asks
    · exact ⟨LocalStore.empty_consistent, (fun k d e => by cases e), fun k _ => rfl⟩
  have read : o.store.readDocument k = o.store.localDocuments.localView k :=
    LocalDocumentsView.getDocument_eq m.consistent.view
  rw [read]
  constructor
  · intro e
    rcases m.same k d e with h | ⟨no, _⟩
    · exact h.symm
    · rw [found] at no
      cases no
  · intro e
    cases ec : o.copy.get k with
    | none =>
      have no := m.all k ec
      rw [e, found] at no
      cases no
    | some d' =>
      rcases m.same k d' ec with h | ⟨_, no⟩
      · rw [h, e]
      · rw [e, found] at no
        cases no

/-- A film is added; the copy has it. -/
theorem run_mirrors_addUp :
    ∃ o d, Run (Guarded (Fires step) fun o e => o.store.Asks e)
        ⟨LocalStore.empty "a@b.c", SortedTable.empty⟩ [LocalStore.addUp] o ∧
      d.isFoundDocument = true ∧ o.copy.get ⟨["users", "a@b.c", "wishlist"], "1"⟩ = some d := by
  obtain ⟨o, rn, good⟩ := exists_run step ⟨LocalStore.empty "a@b.c", SortedTable.empty⟩
    [LocalStore.addUp]
    (fun o => (o.store.readDocument ⟨["users", "a@b.c", "wishlist"], "1"⟩).isFoundDocument)
    (by decide +kernel)
  have rn' : Run (Guarded (Fires step) fun o e => o.store.Asks e)
      ⟨LocalStore.empty "a@b.c", SortedTable.empty⟩ [LocalStore.addUp] o :=
    .single ⟨rn.single_inv, List.cons_ne_nil _ _⟩
  exact ⟨o, _, rn', good, (run_mirrors rn' _ _ good).2 rfl⟩

end ObservedStore

end Lumiere.Firestore.Client

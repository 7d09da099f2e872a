import Lumiere.Client.LocalStore

/-!
# The local store stays consistent

One lemma for each operation of the local store: called as the client calls it on a consistent
store it does not fail, the store it leaves is consistent, and the documents it returns are those of
the new local view and include every document whose local view has changed. What an operation does to
the queue and to the cached documents is part of the lemma.
-/

namespace Lumiere.Firestore.Client

/-! ## A batch on the documents it writes -/

namespace MutationBatch

variable {b : MutationBatch}

/-- What a batch makes of a document that it writes is its last mutation of it, applied to any
    document with that key. -/
lemma applyToLocalView_of_mem {d : MutableDocument} (mask : Option FieldMask) {k : DocumentKey}
    (e : d.key = k) (mem : k ∈ b.keys) :
    ∃ m, (b.affecting k).getLast? = some m ∧ m.key = k ∧
      b.applyToLocalView d mask = m.applyToLocalView d mask := by
  obtain ⟨m, em, km⟩ := exists_getLast?_affecting mem
  refine ⟨m, em, km, ?_⟩
  rw [applyToLocalView_eq, e, em]
  rfl

/-- Some mutations of a batch on the documents it writes: each visited document is as after the
    whole batch, and its overlay is the last mutation of it. -/
lemma foldlM_applyToLocalDocumentSet {ms : List Mutation} (sub : ∀ m ∈ ms, m.key ∈ b.keys)
    {documents : SortedTable DocumentKey OverlayedDocument}
    (overlays : SortedTable DocumentKey Mutation) {base : DocumentKey → MutableDocument} (name : ∀ k, (base k).key = k)
    (docs : ∀ k, k ∈ b.keys → ∃ od, documents.get k = some od ∧
      (od.document = base k ∨ od.document = (b.applyToLocalView (base k) none).1))
    (ovs : ∀ k m, overlays.get k = some m → (b.affecting k).getLast? = some m) :
    ∃ documents' overlays', ms.foldlM b.visitDocument (documents, overlays) =
        some (documents', overlays') ∧
      (∀ k, (documents'.get k).map OverlayedDocument.document =
        if k ∈ ms.map Mutation.key then some (b.applyToLocalView (base k) none).1
        else (documents.get k).map OverlayedDocument.document) ∧
      (∀ k m, overlays'.get k = some m → (b.affecting k).getLast? = some m) ∧
      ∀ k, (overlays'.get k).isSome = true ↔
        k ∈ ms.map Mutation.key ∨ (overlays.get k).isSome = true := by
  induction ms generalizing documents overlays with
  | nil => exact ⟨documents, overlays, rfl, fun k => rfl, ovs, fun k => by simp⟩
  | cons m ms ih =>
    have mem := sub m List.mem_cons_self
    obtain ⟨od, eod, hod⟩ := docs m.key mem
    have kod : od.document.key = m.key := by
      rcases hod with h | h
      · rw [h, name]
      · rw [h, key_applyToLocalView, name]
    obtain ⟨last, elast, klast, eapp⟩ :=
      applyToLocalView_of_mem od.mutatedFields kod mem
    have doc : (b.applyToLocalView od.document od.mutatedFields).1 =
        (b.applyToLocalView (base m.key) none).1 := by
      obtain ⟨last', elast', _, eapp'⟩ := applyToLocalView_of_mem none (name m.key) mem
      rw [elast] at elast'
      cases elast'
      rw [eapp, eapp']
      exact congrArg Prod.fst (Mutation.applyToLocalView_eq (kod.trans (name m.key).symm))
    have valid : (b.applyToLocalView od.document od.mutatedFields).1.isValidDocument = true := by
      rw [eapp]
      exact Mutation.isValidDocument_applyToLocalView
    have overlay : Mutation.calculateOverlayMutation
        (b.applyToLocalView od.document od.mutatedFields).1
        (b.applyToLocalView od.document od.mutatedFields).2 = some last := by
      rw [eapp, Mutation.mask_applyToLocalView]
      exact Mutation.calculateOverlayMutation_applyToLocalView (kod.trans klast.symm)
    let documents1 := documents.put m.key
      ⟨(b.applyToLocalView (base m.key) none).1, od.mutatedFields⟩
    let overlays1 := if overlays.contains m.key then overlays else overlays.put m.key last
    have docs1 : ∀ k, k ∈ b.keys → ∃ od, documents1.get k = some od ∧
        (od.document = base k ∨ od.document = (b.applyToLocalView (base k) none).1) := by
      intro k memk
      change ∃ od, (documents.put _ _).get k = some od ∧ _
      rw [SortedTable.get_put]
      split
      case isTrue e => exact ⟨_, rfl, .inr (by rw [e])⟩
      case isFalse => exact docs k memk
    have ovs1 : ∀ k m', overlays1.get k = some m' → (b.affecting k).getLast? = some m' := by
      intro k m' e
      change (if _ then overlays else overlays.put _ _).get k = _ at e
      split at e
      case isTrue => exact ovs k m' e
      case isFalse =>
        rw [SortedTable.get_put] at e
        split at e
        case isTrue ek =>
          cases e
          rw [ek]
          exact elast
        case isFalse => exact ovs k m' e
    obtain ⟨documents', overlays', e, getd, ovs', some'⟩ :=
      ih (fun m' mem' => sub m' (List.mem_cons_of_mem _ mem')) overlays1 docs1 ovs1
    refine ⟨documents', overlays', ?_, ?_, ovs', ?_⟩
    · have step : b.visitDocument (documents, overlays) m = some (documents1, overlays1) := by
        rw [visitDocument, eod]
        dsimp only [Option.bind_eq_bind, Option.bind_some]
        rw [overlay, valid, doc]
        rfl
      rw [List.foldlM_cons, step]
      exact e
    · intro k
      have memc : k ∈ (m :: ms).map Mutation.key ↔ k = m.key ∨ k ∈ ms.map Mutation.key :=
        List.mem_cons
      rw [getd]
      by_cases later : k ∈ ms.map Mutation.key
      · rw [if_pos later, if_pos (memc.2 (.inr later))]
      · rw [if_neg later]
        change ((documents.put _ _).get k).map _ = _
        rw [SortedTable.get_put]
        by_cases ek : k = m.key
        · rw [if_pos ek, if_pos (memc.2 (.inl ek)), ek]
          rfl
        · rw [if_neg ek, if_neg fun h => (memc.1 h).elim ek later]
    · intro k
      rw [some']
      have h : (overlays1.get k).isSome = true ↔ k = m.key ∨ (overlays.get k).isSome = true := by
        change ((if _ then overlays else overlays.put _ _).get k).isSome = true ↔ _
        split
        case isTrue c =>
          constructor
          · exact .inr
          · rintro (rfl | h)
            · exact c
            · exact h
        case isFalse =>
          rw [SortedTable.get_put]
          split
          case isTrue ek => simp [ek]
          case isFalse ek => simp [ek]
      rw [h, List.map_cons, List.mem_cons, or_left_comm, or_assoc]

/-- A batch on the documents it writes gives the local views after it and, as their overlays, its
    last mutations. -/
lemma applyToLocalDocumentSet_spec {documents : SortedTable DocumentKey OverlayedDocument}
    {base : DocumentKey → MutableDocument} (name : ∀ k, (base k).key = k)
    (docs : ∀ k, documents.get k = if k ∈ b.keys then some ⟨base k, none⟩ else none) :
    ∃ documents' overlays, b.applyToLocalDocumentSet documents = some (documents', overlays) ∧
      (∀ k, (documents'.get k).map OverlayedDocument.document =
        if k ∈ b.keys then some (b.applyToLocalView (base k) none).1 else none) ∧
      ∀ k m, overlays.get k = some m ↔ (b.affecting k).getLast? = some m := by
  have keys {k : DocumentKey} : k ∈ b.mutations.map Mutation.key ↔ k ∈ b.keys := List.mem_dedup.symm
  obtain ⟨documents', overlays, e, getd, ovs, some'⟩ := foldlM_applyToLocalDocumentSet (b := b)
    (fun m mem => keys.1 (List.mem_map_of_mem mem)) SortedTable.empty name
    (fun k mem => ⟨⟨base k, none⟩, by rw [docs, if_pos mem], .inl rfl⟩)
    (fun k m e => by cases e)
  refine ⟨documents', overlays, e, ?_, ?_⟩
  · intro k
    rw [getd]
    by_cases mem : k ∈ b.keys
    · rw [if_pos (keys.2 mem), if_pos mem]
    · rw [if_neg fun h => mem (keys.1 h), if_neg mem, docs, if_neg mem]
      rfl
  · intro k m
    refine ⟨ovs k m, ?_⟩
    intro last
    have mem := mem_keys_of_getLast? last
    obtain ⟨m', em'⟩ := Option.isSome_iff_exists.1 ((some' k).2 (.inl (keys.2 mem)))
    have h := ovs k m' em'
    rw [last] at h
    cases h
    exact em'

end MutationBatch

/-! ## The answer of the server to a batch -/

namespace Mutation

variable {m : Mutation} {d : MutableDocument} {version : SnapshotVersion}

/-- After an acknowledged mutation the document is known. -/
lemma isValidDocument_applyToRemoteDocument :
    (m.applyToRemoteDocument d version).isValidDocument = true := by
  cases m <;> rfl

/-- What the server makes of a document does not depend on it but for its key. -/
lemma applyToRemoteDocument_congr {d' : MutableDocument} (e : d.key = d'.key) :
    m.applyToRemoteDocument d version = m.applyToRemoteDocument d' version := by
  cases d
  cases d'
  cases e
  cases m <;> rfl

end Mutation

namespace MutationBatchResult

variable {r : MutationBatchResult}

/-- The last mutation of the batch that writes a document, with its version. -/
def lastResult (r : MutationBatchResult) (k : DocumentKey) : Option (Mutation × SnapshotVersion) :=
  ((r.batch.mutations.zip r.mutationResults).filter fun mv => mv.1.key = k).getLast?

/-- The cached document after the answer: an older one is replaced by what the batch makes of it. -/
def afterAck (r : MutationBatchResult) (d : MutableDocument) : MutableDocument :=
  (r.lastResult d.key).elim d fun mv =>
    if d.version < mv.2 then mv.1.applyToRemoteDocument d mv.2 else d

/-- The mutations of the answer are those of the batch. -/
lemma map_fst_zip (r : MutationBatchResult) :
    (r.batch.mutations.zip r.mutationResults).map Prod.fst = r.batch.mutations :=
  List.map_fst_zip (Nat.le_of_eq r.sizes.symm)

/-- The last answer for a document is to the last mutation of it. -/
lemma map_fst_lastResult {k : DocumentKey} :
    (r.lastResult k).map Prod.fst = (r.batch.affecting k).getLast? := by
  rw [lastResult, ← List.getLast?_map, MutationBatch.affecting]
  congr 1
  have h := congrArg (List.filter fun m : Mutation => m.key = k) r.map_fst_zip
  rw [List.filter_map] at h
  exact h

/-- A document that the batch writes has a last mutation in it. -/
lemma exists_lastResult {k : DocumentKey} (mem : k ∈ r.batch.keys) :
    ∃ m version, r.lastResult k = some (m, version) ∧ m.key = k := by
  obtain ⟨m, em, km⟩ := exists_getLast?_affecting mem
  rw [← map_fst_lastResult] at em
  obtain ⟨⟨m', version⟩, e, rfl⟩ := Option.map_eq_some_iff.1 em
  exact ⟨m', version, e, km⟩

/-- A document that the batch does not write has none. -/
lemma lastResult_eq_none {k : DocumentKey} (no : k ∉ r.batch.keys) : r.lastResult k = none := by
  have h := map_fst_lastResult (r := r) (k := k)
  rw [getLast?_affecting_eq_none no] at h
  exact Option.map_eq_none_iff.1 h

/-- The acknowledgement leaves the key. -/
@[simp] lemma key_afterAck {d : MutableDocument} : (r.afterAck d).key = d.key := by
  rw [afterAck]
  cases r.lastResult d.key with
  | none => rfl
  | some mv =>
    change (if _ then _ else _ : MutableDocument).key = _
    split
    case isTrue => exact Mutation.key_applyToRemoteDocument
    case isFalse => rfl

/-- The version of a document of the batch is that of the last answer for it. -/
lemma get_docVersions {k : DocumentKey} :
    r.docVersions.get k = (r.lastResult k).map Prod.snd := by
  rw [docVersions, lastResult]
  generalize r.batch.mutations.zip r.mutationResults = l
  induction l using List.reverseRecOn with
  | nil => rfl
  | append_singleton l mv ih =>
    rw [List.foldl_append, List.foldl_cons, List.foldl_nil, SortedTable.get_put, List.filter_append]
    by_cases e : k = mv.1.key
    · rw [if_pos e, List.filter_cons_of_pos (by simpa using e.symm), List.filter_nil,
        List.getLast?_concat]
      rfl
    · rw [if_neg e, List.filter_cons_of_neg (by simpa using fun h => e h.symm), List.filter_nil,
        List.append_nil]
      exact ih

/-- What the server makes of a document with a batch is what its last mutation of it does. -/
lemma applyToRemoteDocument_eq {d : MutableDocument} :
    r.batch.applyToRemoteDocument d r.mutationResults =
      some ((r.lastResult d.key).elim d fun mv => mv.1.applyToRemoteDocument d mv.2) := by
  rw [MutationBatch.applyToRemoteDocument, if_pos r.sizes, lastResult]
  congr 1
  generalize r.batch.mutations.zip r.mutationResults = l
  induction l using List.reverseRecOn with
  | nil => rfl
  | append_singleton l mv ih =>
    rw [List.foldl_append, ih, List.filter_append]
    have k : ((l.filter fun mv => mv.1.key = d.key).getLast?.elim d
        fun mv => mv.1.applyToRemoteDocument d mv.2).key = d.key := by
      cases (l.filter fun mv => mv.1.key = d.key).getLast? with
      | none => rfl
      | some mv' =>
        change (mv'.1.applyToRemoteDocument d mv'.2).key = d.key
        exact Mutation.key_applyToRemoteDocument
    rw [List.foldl_cons, List.foldl_nil, k]
    by_cases e : mv.1.key = d.key
    · rw [if_pos e, List.filter_cons_of_pos (by simpa using e), List.filter_nil,
        List.getLast?_concat]
      exact Mutation.applyToRemoteDocument_congr k
    · rw [if_neg e, List.filter_cons_of_neg (by simpa using e), List.filter_nil, List.append_nil]

end MutationBatchResult

/-! ## What an operation tells of -/

/-- The documents an operation returns are those of the new local view, and every document whose
    local view has changed is among them. A document returned as missing need only be missing. -/
structure Reports (v v' : LocalDocumentsView) (changes : DocumentMap) : Prop where
  named : changes.Named
  current : ∀ k d, changes.get k = some d → d = v'.localView k ∨
    d.isFoundDocument = false ∧ (v'.localView k).isFoundDocument = false
  complete : ∀ k, changes.get k = none → v'.localView k = v.localView k

namespace LocalStore

variable {v : LocalDocumentsView}

/-- One document of an acknowledged batch enters the cache. -/
lemma applyAckTo_spec {r : MutationBatchResult} (cache : RemoteDocumentCache) {key : DocumentKey}
    (mem : key ∈ r.batch.keys) :
    ∃ cache', applyAckTo r cache key = some cache' ∧
      ∀ k, cache'.get k = if k = key then r.afterAck (cache.get k) else cache.get k := by
  obtain ⟨m, version, e, km⟩ := MutationBatchResult.exists_lastResult mem
  have after {k} (ek : k = key) : r.afterAck (cache.get k) =
      if (cache.get k).version < version then m.applyToRemoteDocument (cache.get k) version
      else cache.get k := by
    subst ek
    rw [MutationBatchResult.afterAck, RemoteDocumentCache.key_get, e]
    rfl
  rw [applyAckTo, MutationBatchResult.get_docVersions, e]
  change ∃ cache', (if (cache.get key).version < version then _ else some cache) = some cache' ∧ _
  by_cases older : (cache.get key).version < version
  · refine ⟨cache.add (m.applyToRemoteDocument (cache.get key) version) r.commitVersion, ?_, ?_⟩
    · rw [if_pos older, MutationBatchResult.applyToRemoteDocument_eq, RemoteDocumentCache.key_get, e]
      change (if (m.applyToRemoteDocument (cache.get key) version).isValidDocument = true then _
        else _) = _
      rw [if_pos Mutation.isValidDocument_applyToRemoteDocument]
      rfl
    · intro k
      rw [RemoteDocumentCache.get_add, Mutation.key_applyToRemoteDocument,
        RemoteDocumentCache.key_get]
      by_cases ek : k = key
      · rw [if_pos ek, if_pos ek, after ek, ek, if_pos older]
      · rw [if_neg ek, if_neg ek]
  · refine ⟨cache, if_neg older, ?_⟩
    intro k
    by_cases ek : k = key
    · rw [if_pos ek, after ek, ek, if_neg older]
    · rw [if_neg ek]

/-- The cached documents after an acknowledgement. -/
lemma applyBatchResult_spec (cq : v.mutationQueue.Consistent) {r : MutationBatchResult}
    (mem : r.batch ∈ v.mutationQueue.allMutationBatches) :
    ∃ cache queue, applyBatchResult v r =
        some { v with remoteDocumentCache := cache, mutationQueue := queue } ∧
      v.mutationQueue.removeMutationBatch r.batch = some queue ∧
      ∀ k, cache.get k = r.afterAck (v.remoteDocumentCache.get k) := by
  have fold : ∀ (ks : List DocumentKey) (cache : RemoteDocumentCache), ks.Nodup →
      (∀ k ∈ ks, k ∈ r.batch.keys) →
      ∃ cache', ks.foldlM (applyAckTo r) cache = some cache' ∧
        ∀ k, cache'.get k = if k ∈ ks then r.afterAck (cache.get k) else cache.get k := by
    intro ks
    induction ks with
    | nil => exact fun cache _ _ => ⟨cache, rfl, fun k => rfl⟩
    | cons key ks ih =>
      intro cache nd sub
      obtain ⟨no, nd'⟩ := List.nodup_cons.1 nd
      obtain ⟨cache1, e1, get1⟩ := applyAckTo_spec cache (sub key List.mem_cons_self)
      obtain ⟨cache2, e2, get2⟩ := ih cache1 nd' fun k mem => sub k (List.mem_cons_of_mem _ mem)
      refine ⟨cache2, ?_, ?_⟩
      · rw [List.foldlM_cons, e1]
        exact e2
      · intro k
        rw [get2, get1]
        by_cases ek : k = key
        · rw [if_neg (ek ▸ no), if_pos ek, if_pos (ek ▸ List.mem_cons_self)]
        · by_cases later : k ∈ ks
          · rw [if_pos later, if_neg ek, if_pos (List.mem_cons_of_mem _ later)]
          · rw [if_neg later, if_neg ek, if_neg fun h => (List.mem_cons.1 h).elim ek later]
  have nd : r.batch.keys.Nodup := List.nodup_dedup _
  obtain ⟨cache, e, get⟩ := fold r.batch.keys v.remoteDocumentCache nd fun k mem => mem
  obtain ⟨queue, eq⟩ := MutationQueue.exists_removeMutationBatch cq mem
  refine ⟨cache, queue, ?_, eq, ?_⟩
  · rw [applyBatchResult, e]
    change Option.bind (v.mutationQueue.removeMutationBatch r.batch) _ = _
    rw [eq]
    rfl
  · intro k
    rw [get]
    split
    case isTrue => rfl
    case isFalse no =>
      rw [MutationBatchResult.afterAck, RemoteDocumentCache.key_get,
        MutationBatchResult.lastResult_eq_none no]
      rfl

/-- The overlays after a batch has left the queue are those that the remaining batches leave. -/
lemma forgetBatch_spec {old : List MutationBatch} {batch : MutationBatch}
    (cq : v.mutationQueue.Consistent) (cc : v.documentOverlayCache.Consistent)
    (left : v.mutationQueue.allMutationBatches = old.filter fun b => b.batchId ≠ batch.batchId)
    (unique : ∀ b ∈ old, b.batchId = batch.batchId → b = batch)
    (overlays : ∀ k, v.documentOverlayCache.getOverlay k = lastOverlay old k) :
    ∃ m v', forgetBatch v batch = some (m, v') ∧ v'.Consistent ∧
      v'.remoteDocumentCache = v.remoteDocumentCache ∧ v'.mutationQueue = v.mutationQueue ∧
      ∀ k, m.get k = if k ∈ batch.keys then some (v'.localView k) else none := by
  let c1 := v.documentOverlayCache.removeOverlaysForBatchId batch.batchId
  let v1 : LocalDocumentsView := { v with documentOverlayCache := c1 }
  have cc1 : c1.Consistent := cc.removeOverlaysForBatchId
  have get1 (k : DocumentKey) : c1.getOverlay k =
      (lastOverlay old k).filter fun o => o.largestBatchId ≠ batch.batchId := by
    rw [← overlays]
    exact DocumentOverlayCache.getOverlay_removeOverlaysForBatchId cc
  obtain ⟨_, c2, e2, cc2, _, _, get2⟩ := LocalDocumentsView.recalculateAndSaveOverlays_spec
    (v := v1) cq cc1 (v.remoteDocumentCache.getAll_named batch.keys)
  have contains (k : DocumentKey) : (v.remoteDocumentCache.getAll batch.keys).contains k = true ↔
      k ∈ batch.keys := by
    rw [SortedTable.contains, RemoteDocumentCache.get_getAll]
    split
    case isTrue h => simp [h]
    case isFalse h => simp [h]
  let v2 : LocalDocumentsView := { v with documentOverlayCache := c2 }
  have cv2 : v2.Consistent := by
    refine ⟨cq, cc2, ?_⟩
    intro k
    change c2.getOverlay k = lastOverlay v.mutationQueue.allMutationBatches k
    rw [get2]
    change (if _ then (lastOverlay v.mutationQueue.allMutationBatches k).or (c1.getOverlay k)
      else c1.getOverlay k) = _
    rw [get1, left]
    by_cases h : k ∈ batch.keys
    · rw [if_pos ((contains k).2 h)]
      cases en : lastOverlay (old.filter fun b => b.batchId ≠ batch.batchId) k with
      | some o => rfl
      | none =>
        -- the overlay there was came from the batch that has left
        rw [Option.none_or, Option.filter_eq_none_iff]
        intro o eo
        obtain ⟨bs1, b, bs2, rfl, id, last, _⟩ := lastOverlay_eq_some eo
        rw [decide_eq_true_iff, not_not, ← id]
        by_contra ne
        have mem : b ∈ (bs1 ++ b :: bs2).filter fun b => b.batchId ≠ batch.batchId :=
          List.mem_filter.2 ⟨List.mem_append_right _ List.mem_cons_self, decide_eq_true ne⟩
        exact lastOverlay_eq_none.1 en b mem (mem_keys_of_getLast? last)
    · rw [if_neg fun h' => h ((contains k).1 h')]
      have same : ∀ b ∈ old, k ∈ b.keys → b.batchId ≠ batch.batchId := by
        intro b mem hk e
        exact h (unique b mem e ▸ hk)
      rw [lastOverlay_filter fun b mem hk => decide_eq_true (same b mem hk)]
      cases eo : lastOverlay old k with
      | none => rfl
      | some o =>
        obtain ⟨bs1, b, bs2, rfl, id, last, _⟩ := lastOverlay_eq_some eo
        have ne := same b (List.mem_append_right _ List.mem_cons_self) (mem_keys_of_getLast? last)
        rw [id] at ne
        rw [Option.filter_some, if_pos (decide_eq_true ne)]
  obtain ⟨m, v', e3, same, getm⟩ := LocalDocumentsView.getDocuments_spec cv2 batch.keys
  refine ⟨m, v', ?_, same.consistent, same.remote, same.queue, ?_⟩
  · rw [forgetBatch, if_pos cq.check]
    change Option.bind (v1.recalculateAndSaveOverlays (v.remoteDocumentCache.getAll batch.keys)) _ = _
    rw [e2]
    exact e3
  · intro k
    rw [getm, same.localView]

/-! ## The operations -/

/-- The tables of every user of the device are consistent. -/
structure Consistent (s : LocalStore) : Prop where
  view : s.localDocuments.Consistent
  others : ∀ {user t}, s.others.get user = some t →
    LocalDocumentsView.Consistent ⟨s.remoteDocumentCache, t.mutationQueue, t.documentOverlayCache⟩

variable {s : LocalStore}

/-- Consistency is about the queue and the overlays. -/
lemma consistent_of_tables {v : LocalDocumentsView} (cv : v.Consistent)
    {cache : RemoteDocumentCache} :
    LocalDocumentsView.Consistent ⟨cache, v.mutationQueue, v.documentOverlayCache⟩ :=
  ⟨cv.queue, cv.cache, cv.overlays⟩

/-- The store of a user who has not written is consistent. -/
lemma empty_consistent {user : String} : (empty user).Consistent where
  view :=
    { queue := MutationQueue.empty_consistent
      cache := DocumentOverlayCache.empty_consistent
      overlays := fun k => rfl }
  others := by
    intro u t e
    cases e

/-- Another consistent view keeps the tables of the other users. -/
lemma Consistent.withView (cs : s.Consistent) {v : LocalDocumentsView} (cv : v.Consistent) :
    (s.withView v).Consistent where
  view := cv
  others := fun e => consistent_of_tables (cs.others e)

/-- The queue starts again with the batches that it has. -/
lemma Consistent.startMutationQueue (cs : s.Consistent) : s.startMutationQueue.Consistent := by
  apply cs.withView
  exact ⟨cs.view.queue.start, cs.view.cache, cs.view.overlays⟩

/-- A write puts a batch behind all others and its documents under the overlays it leaves. -/
lemma writeLocally_spec (cs : s.Consistent) {mutations : List Mutation} (ne : mutations ≠ []) :
    ∃ batch changes v', s.writeLocally mutations = some (batch.batchId, changes, s.withView v') ∧
      batch = ⟨s.mutationQueue.nextBatchId, mutations⟩ ∧
      v'.Consistent ∧ v'.remoteDocumentCache = s.remoteDocumentCache ∧
      v'.mutationQueue.allMutationBatches = s.mutationQueue.allMutationBatches ++ [batch] ∧
      v'.mutationQueue.nextBatchId = s.mutationQueue.nextBatchId + 1 ∧
      Reports s.localDocuments v' changes := by
  let batch : MutationBatch := ⟨s.mutationQueue.nextBatchId, mutations⟩
  let remoteDocs := s.remoteDocumentCache.getAll batch.keys
  obtain ⟨overlayedDocuments, v1, e1, same, get1⟩ :=
    LocalDocumentsView.computeViews_spec cs.view
      (s.remoteDocumentCache.getAll_named batch.keys) []
  have docs (k : DocumentKey) : overlayedDocuments.get k =
      if k ∈ batch.keys then some ⟨s.localDocuments.localView k, none⟩ else none := by
    rw [get1, RemoteDocumentCache.get_getAll]
    split
    case isTrue =>
      rw [Option.map_some, LocalDocumentsView.localView_eq cs.view]
      rfl
    case isFalse => rfl
  obtain ⟨q', eq⟩ : ∃ q', v1.mutationQueue.addMutationBatch mutations = some (batch, q') := by
    rw [same.queue, MutationQueue.addMutationBatch,
      if_neg fun h => ne (List.isEmpty_iff.1 h)]
    exact ⟨_, rfl⟩
  obtain ⟨documents, overlays, e2, get2, ovs⟩ := MutationBatch.applyToLocalDocumentSet_spec
    (b := batch) (fun k => LocalDocumentsView.key_localView) docs
  have names : ∀ o ∈ overlays.rows, o.2.key = o.1 := by
    rintro ⟨k, m⟩ mem
    obtain ⟨m', em', km'⟩ := exists_getLast?_affecting
      (mem_keys_of_getLast? ((ovs k m).1 (SortedTable.get_eq_some.2 mem)))
    rw [(ovs k m).1 (SortedTable.get_eq_some.2 mem)] at em'
    cases em'
    exact km'
  let c' := v1.documentOverlayCache.saveOverlays batch.batchId overlays.rows
  let v' : LocalDocumentsView := { v1 with mutationQueue := q', documentOverlayCache := c' }
  have queue : v'.mutationQueue.allMutationBatches =
      s.mutationQueue.allMutationBatches ++ [batch] := by
    have h := MutationQueue.allMutationBatches_add same.consistent.queue eq
    rw [same.queue] at h
    exact h
  have cv' : v'.Consistent := by
    refine ⟨same.consistent.queue.add eq, same.consistent.cache.saveOverlays names, ?_⟩
    intro k
    rw [queue, lastOverlay_concat]
    change c'.getOverlay k = _
    cases e : (batch.affecting k).getLast? with
    | none =>
      rw [Option.map_none, Option.none_or, DocumentOverlayCache.getOverlay_saveOverlays_ne
        same.consistent.cache names, same.consistent.overlays, same.queue]
      · rfl
      · rintro ⟨k', m⟩ mem rfl
        have h := (ovs k' m).1 (SortedTable.get_eq_some.2 mem)
        rw [e] at h
        cases h
    | some m =>
      rw [DocumentOverlayCache.getOverlay_saveOverlays same.consistent.cache names
        (SortedTable.get_eq_some.1 ((ovs k m).2 e))]
      · rfl
      · rintro ⟨k', m'⟩ mem rfl
        have h := (ovs k' m').1 (SortedTable.get_eq_some.2 mem)
        rw [e] at h
        cases h
        rfl
  have view (k : DocumentKey) : v'.localView k =
      (batch.applyToLocalView (s.localDocuments.localView k) (some .empty)).1 := by
    rw [LocalDocumentsView.localView, LocalDocumentsView.getDocumentWith, queue, replay_concat]
    change (batch.applyToLocalView (replay _ (v1.remoteDocumentCache.get k)) _).1 = _
    rw [same.remote]
    rfl
  refine ⟨batch, documents.filterMap fun _ d => some d.document, v', ?_, rfl, cv', same.remote,
    queue, ?_, ?_⟩
  · rw [writeLocally]
    change Option.bind (s.localDocuments.getOverlayedDocuments remoteDocs) _ = _
    rw [LocalDocumentsView.getOverlayedDocuments, e1]
    change Option.bind (v1.mutationQueue.addMutationBatch mutations) _ = _
    rw [eq]
    change Option.bind (batch.applyToLocalDocumentSet overlayedDocuments) _ = _
    rw [e2]
    rfl
  · obtain ⟨_, _, h⟩ := MutationQueue.addMutationBatch_inv eq
    change q'.nextBatchId = _
    rw [h, same.queue]
    rfl
  · have changes (k : DocumentKey) : (documents.filterMap fun _ d => some d.document).get k =
        if k ∈ batch.keys then some (v'.localView k) else none := by
      have h := get2 k
      rw [SortedTable.get_filterMap]
      rw [(Recalculation.applyToLocalView_mask none).1, ← view] at h
      rw [← h]
      cases documents.get k with
      | none => rfl
      | some d => rfl
    constructor
    case named =>
      intro k d e
      rw [changes] at e
      split at e
      case isTrue =>
        cases e
        exact LocalDocumentsView.key_localView
      case isFalse => cases e
    case current =>
      intro k d e
      rw [changes] at e
      split at e
      case isTrue =>
        cases e
        exact .inl rfl
      case isFalse => cases e
    case complete =>
      intro k e
      rw [changes] at e
      split at e
      case isTrue => cases e
      case isFalse no =>
        rw [view, MutationBatch.applyToLocalView_eq, LocalDocumentsView.key_localView,
          getLast?_affecting_eq_none no]
        rfl

/-- The local view of a document that the batch does not write is as if the batch were not there. -/
lemma replay_filter {old : List MutationBatch} {batch : MutationBatch}
    (unique : ∀ b ∈ old, b.batchId = batch.batchId → b = batch) {d : MutableDocument}
    (no : d.key ∉ batch.keys) :
    replay (old.filter fun b => b.batchId ≠ batch.batchId) d = replay old d := by
  rw [replay_eq, replay_eq, lastOverlay_filter]
  intro b mem hk
  rw [decide_eq_true_iff]
  intro e
  exact no (unique b mem e ▸ hk)

/-- When a batch has left the queue, the documents it wrote are reported. -/
lemma reports_forgetBatch {batch : MutationBatch} {v v' : LocalDocumentsView} {m : DocumentMap}
    (get : ∀ k, m.get k = if k ∈ batch.keys then some (v'.localView k) else none)
    (same : ∀ k, k ∉ batch.keys → v'.localView k = v.localView k) : Reports v v' m where
  named := by
    intro k d e
    rw [get] at e
    split at e
    case isTrue =>
      cases e
      exact LocalDocumentsView.key_localView
    case isFalse => cases e
  current := by
    intro k d e
    rw [get] at e
    split at e
    case isTrue =>
      cases e
      exact .inl rfl
    case isFalse => cases e
  complete := by
    intro k e
    rw [get] at e
    split at e
    case isTrue => cases e
    case isFalse no => exact same k no

/-- An acknowledged batch leaves the queue, and what the server has made of its documents is
    cached. -/
lemma acknowledgeBatch_spec (cs : s.Consistent) {r : MutationBatchResult}
    (mem : r.batch ∈ s.mutationQueue.allMutationBatches) :
    ∃ changes v', s.acknowledgeBatch r = some (changes, s.withView v') ∧ v'.Consistent ∧
      (∀ k, v'.remoteDocumentCache.get k = r.afterAck (s.remoteDocumentCache.get k)) ∧
      s.mutationQueue.removeMutationBatch r.batch = some v'.mutationQueue ∧
      Reports s.localDocuments v' changes := by
  have cq : s.mutationQueue.Consistent := cs.view.queue
  obtain ⟨cache, queue, e1, eq, getc⟩ := applyBatchResult_spec cq mem
  have unique : ∀ b ∈ s.mutationQueue.allMutationBatches, b.batchId = r.batch.batchId →
      b = r.batch := fun b memb e => MutationQueue.eq_of_batchId cq memb mem e
  have left := MutationQueue.allMutationBatches_remove cq mem eq
  obtain ⟨m, v', e2, cv', remote, queue', getm⟩ := forgetBatch_spec
    (v := { s.localDocuments with remoteDocumentCache := cache, mutationQueue := queue })
    (cq.remove mem eq) cs.view.cache left unique cs.view.overlays
  refine ⟨m, v', ?_, cv', ?_, ?_, ?_⟩
  · rw [acknowledgeBatch, e1]
    change Option.bind (forgetBatch _ _) _ = _
    rw [e2]
    rfl
  · intro k
    rw [remote]
    exact getc k
  · rw [queue']
    exact eq
  · apply reports_forgetBatch getm
    intro k no
    rw [LocalDocumentsView.localView, LocalDocumentsView.getDocumentWith, remote, queue']
    change replay queue.allMutationBatches (cache.get k) = _
    rw [getc, left, MutationBatchResult.afterAck, RemoteDocumentCache.key_get,
      MutationBatchResult.lastResult_eq_none no]
    change replay (List.filter _ _) (s.remoteDocumentCache.get k) = _
    apply replay_filter unique
    rw [RemoteDocumentCache.key_get]
    exact no

/-- A rejected batch leaves the queue. -/
lemma rejectBatch_spec (cs : s.Consistent) {batch : MutationBatch}
    (mem : batch ∈ s.mutationQueue.allMutationBatches) :
    ∃ changes v', s.rejectBatch batch.batchId = some (changes, s.withView v') ∧ v'.Consistent ∧
      v'.remoteDocumentCache = s.remoteDocumentCache ∧
      s.mutationQueue.removeMutationBatch batch = some v'.mutationQueue ∧
      Reports s.localDocuments v' changes := by
  have cq : s.mutationQueue.Consistent := cs.view.queue
  obtain ⟨queue, eq⟩ := MutationQueue.exists_removeMutationBatch cq mem
  have unique : ∀ b ∈ s.mutationQueue.allMutationBatches, b.batchId = batch.batchId →
      b = batch := fun b memb e => MutationQueue.eq_of_batchId cq memb mem e
  have left := MutationQueue.allMutationBatches_remove cq mem eq
  obtain ⟨m, v', e2, cv', remote, queue', getm⟩ := forgetBatch_spec
    (v := { s.localDocuments with mutationQueue := queue })
    (cq.remove mem eq) cs.view.cache left unique cs.view.overlays
  refine ⟨m, v', ?_, cv', remote, ?_, ?_⟩
  · have found : s.mutationQueue.lookupMutationBatch batch.batchId = some batch :=
      (MutationQueue.mem_allMutationBatches cq).1 mem
    rw [rejectBatch, found]
    change Option.bind (s.mutationQueue.removeMutationBatch batch) _ = _
    rw [eq]
    change Option.bind (forgetBatch _ _) _ = _
    rw [e2]
    rfl
  · rw [queue']
    exact eq
  · apply reports_forgetBatch getm
    intro k no
    rw [LocalDocumentsView.localView, LocalDocumentsView.getDocumentWith, remote, queue']
    change replay queue.allMutationBatches _ = _
    rw [left]
    apply replay_filter unique
    rw [RemoteDocumentCache.key_get]
    exact no

/-! ## Events of the watch stream -/

/-- Whether an update changes the cached document. -/
def updates (existingDoc doc : MutableDocument) : Bool :=
  doc.isNoDocument && doc.version == 0 || replaces existingDoc doc

/-- The cached document after an update. -/
def afterUpdate (existingDoc doc : MutableDocument) : MutableDocument :=
  if doc.isNoDocument ∧ doc.version = 0 then .invalidDocument existingDoc.key
  else if replaces existingDoc doc then doc
  else existingDoc

/-- An event as the watch stream or a rejected query raises it: the stream does not go back, and an
    event without a version only takes documents away. -/
structure Raised (s : LocalStore) (e : RemoteEvent) : Prop where
  forward : e.snapshotVersion = 0 ∨ s.lastRemoteSnapshotVersion ≤ e.snapshotVersion
  removal : e.snapshotVersion = 0 → ∀ k d, e.documentUpdates.get k = some d →
    d.isNoDocument = true ∧ d.version = 0

/-- One document of an event enters the cache, unless the cache is newer. -/
lemma populateDocument_spec {existing : DocumentMap} {readTime : SnapshotVersion}
    {r : DocumentChangeResult} {key : DocumentKey} {doc : MutableDocument} (name : doc.key = key)
    (ex : existing.get key = some (r.cache.get key))
    (timed : readTime = 0 → doc.isNoDocument = true ∧ doc.version = 0) :
    ∃ r', populateDocument existing readTime r key doc = some r' ∧
      (∀ k, r'.cache.get k =
        if k = key then afterUpdate (r.cache.get k) doc else r.cache.get k) ∧
      ∀ k, r'.changedDocs.get k =
        if k = key ∧ updates (r.cache.get k) doc = true then some doc else r.changedDocs.get k := by
  let r1 : DocumentChangeResult := if doc.isFoundDocument ≠ (r.cache.get key).isFoundDocument then
      { r with existenceChangedKeys := key :: r.existenceChangedKeys }
    else r
  have cache1 : r1.cache = r.cache := by
    change (if _ then _ else _ : DocumentChangeResult).cache = _
    split
    case isTrue => rfl
    case isFalse => rfl
  have changed1 : r1.changedDocs = r.changedDocs := by
    change (if _ then _ else _ : DocumentChangeResult).changedDocs = _
    split
    case isTrue => rfl
    case isFalse => rfl
  have e : populateDocument existing readTime r key doc =
      if doc.isNoDocument ∧ doc.version = 0 then
        some { r1 with cache := r1.cache.remove key, changedDocs := r1.changedDocs.put key doc }
      else if replaces (r.cache.get key) doc then
        if readTime ≠ 0 then
          some { r1 with
            cache := r1.cache.add doc readTime, changedDocs := r1.changedDocs.put key doc }
        else none
      else some r1 := by
    rw [populateDocument, ex]
    rfl
  rw [e]
  by_cases gone : doc.isNoDocument = true ∧ doc.version = 0
  · refine ⟨_, if_pos gone, ?_, ?_⟩
    · intro k
      change (r1.cache.remove key).get k = _
      rw [RemoteDocumentCache.get_remove, cache1]
      by_cases ek : k = key
      · rw [if_pos ek, if_pos ek, afterUpdate, if_pos gone, RemoteDocumentCache.key_get]
      · rw [if_neg ek, if_neg ek]
    · intro k
      have up : updates (r.cache.get k) doc = true := by
        rw [updates, gone.1, gone.2]
        rfl
      change (r1.changedDocs.put key doc).get k = _
      rw [SortedTable.get_put, changed1]
      by_cases ek : k = key
      · rw [if_pos ek, if_pos ⟨ek, up⟩]
      · rw [if_neg ek, if_neg fun h => ek h.1]
  · rw [if_neg gone]
    have up (k : DocumentKey) : updates (r.cache.get k) doc = replaces (r.cache.get k) doc := by
      rw [updates, Bool.or_eq_right_iff_imp.2]
      intro h
      rw [Bool.and_eq_true, beq_iff_eq] at h
      exact absurd h gone
    by_cases rep : replaces (r.cache.get key) doc = true
    · refine ⟨_, by rw [if_pos rep, if_pos fun z => gone (timed z)], ?_, ?_⟩
      · intro k
        change (r1.cache.add doc readTime).get k = _
        rw [RemoteDocumentCache.get_add, cache1, name]
        by_cases ek : k = key
        · rw [if_pos ek, if_pos ek, afterUpdate, if_neg gone, ek, if_pos rep]
        · rw [if_neg ek, if_neg ek]
      · intro k
        change (r1.changedDocs.put key doc).get k = _
        rw [SortedTable.get_put, changed1, up]
        by_cases ek : k = key
        · rw [if_pos ek, if_pos ⟨ek, ek ▸ rep⟩]
        · rw [if_neg ek, if_neg fun h => ek h.1]
    · refine ⟨r1, if_neg rep, ?_, ?_⟩
      · intro k
        rw [cache1]
        by_cases ek : k = key
        · rw [if_pos ek, afterUpdate, if_neg gone, ek, if_neg rep]
        · rw [if_neg ek]
      · intro k
        rw [changed1, up, if_neg]
        rintro ⟨rfl, h⟩
        exact rep h

/-- What the updates of an event make of the cached documents, and which of them change one. -/
lemma populateDocumentChanges_spec (cache : RemoteDocumentCache) {documents : DocumentMap}
    (names : documents.Named) {version : SnapshotVersion}
    (timed : version = 0 → ∀ k d, documents.get k = some d → d.isNoDocument = true ∧ d.version = 0) :
    ∃ r, populateDocumentChanges cache documents version = some r ∧
      (∀ k, r.cache.get k =
        (documents.get k).elim (cache.get k) (afterUpdate (cache.get k))) ∧
      ∀ k, r.changedDocs.get k =
        (documents.get k).filter fun d => updates (cache.get k) d := by
  have fold : ∀ (rows : List (DocumentKey × MutableDocument)) (r : DocumentChangeResult),
      rows.Pairwise (fun a b => a.1 ≠ b.1) → (∀ row ∈ rows, documents.get row.1 = some row.2) →
      (∀ row ∈ rows, r.cache.get row.1 = cache.get row.1) →
      ∃ r', rows.foldlM (fun r row => populateDocument (cache.getAll (documents.rows.map Prod.fst))
          version r row.1 row.2) r = some r' ∧
        (∀ k, r'.cache.get k = ((rows.find? fun row => row.1 = k).elim (r.cache.get k)
          fun row => afterUpdate (cache.get k) row.2)) ∧
        ∀ k, r'.changedDocs.get k = (((rows.find? fun row => row.1 = k).map Prod.snd).filter
          fun d => updates (cache.get k) d).or (r.changedDocs.get k) := by
    intro rows
    induction rows with
    | nil => exact fun r _ _ _ => ⟨r, rfl, fun k => rfl, fun k => rfl⟩
    | cons row rows ih =>
      intro r once there same
      obtain ⟨ne, once'⟩ := List.pairwise_cons.1 once
      have h := there row List.mem_cons_self
      have ex : (cache.getAll (documents.rows.map Prod.fst)).get row.1 =
          some (r.cache.get row.1) := by
        rw [RemoteDocumentCache.get_getAll, if_pos (SortedTable.mem_keys.2 ⟨_, h⟩),
          same row List.mem_cons_self]
      obtain ⟨r1, e1, cache1, changed1⟩ :=
        populateDocument_spec (names h) ex (fun z => timed z row.1 row.2 h)
      obtain ⟨r2, e2, cache2, changed2⟩ := ih r1 once'
        (fun row' mem => there row' (List.mem_cons_of_mem _ mem)) (by
          intro row' mem
          rw [cache1, if_neg (ne row' mem).symm]
          exact same row' (List.mem_cons_of_mem _ mem))
      have later {k : DocumentKey} (ek : k = row.1) : rows.find? (fun row => row.1 = k) = none := by
        apply List.find?_eq_none.2
        intro row' mem h'
        exact ne row' mem (ek.symm.trans (of_decide_eq_true h').symm)
      refine ⟨r2, ?_, ?_, ?_⟩
      · rw [List.foldlM_cons, e1]
        exact e2
      · intro k
        rw [cache2, cache1, List.find?_cons]
        by_cases ek : k = row.1
        · rw [later ek, if_pos ek, decide_eq_true ek.symm, ek, same row List.mem_cons_self]
          rfl
        · rw [if_neg ek, decide_eq_false fun h' => ek h'.symm]
      · intro k
        rw [changed2, changed1, List.find?_cons]
        by_cases ek : k = row.1
        · rw [later ek, decide_eq_true ek.symm, ek, same row List.mem_cons_self]
          by_cases up : updates (cache.get row.1) row.2 = true
          · rw [if_pos ⟨rfl, up⟩]
            change _ = ((some row.2).filter _).or _
            rw [Option.filter_some, if_pos up]
            rfl
          · rw [if_neg fun h' => up h'.2]
            change _ = ((some row.2).filter _).or _
            rw [Option.filter_some, if_neg up]
            rfl
        · rw [if_neg fun h' => ek h'.1, decide_eq_false fun h' => ek h'.symm]
  have once := documents.distinct_rows
  obtain ⟨r, e, getc, getd⟩ := fold documents.rows ⟨cache, SortedTable.empty, []⟩ once
    (fun row mem => SortedTable.get_eq_some.2 mem) fun row _ => rfl
  have found (k : DocumentKey) :
      (documents.rows.find? fun row => row.1 = k).map Prod.snd = documents.get k := by
    cases e : documents.rows.find? (fun row => decide (row.1 = k)) with
    | none =>
      symm
      apply SortedTable.get_eq_none.2
      intro d mem
      exact List.find?_eq_none.1 e (k, d) mem (decide_eq_true rfl)
    | some row =>
      have ek : decide (row.1 = k) = true :=
        List.find?_some (p := fun row : DocumentKey × MutableDocument => decide (row.1 = k)) e
      symm
      apply SortedTable.get_eq_some.2
      rw [← of_decide_eq_true ek]
      exact List.mem_of_find?_eq_some e
  refine ⟨r, e, ?_, ?_⟩
  · intro k
    rw [getc, ← found]
    cases documents.rows.find? (fun row => decide (row.1 = k)) with
    | none => rfl
    | some row => rfl
  · intro k
    rw [getd, found]
    exact Option.or_none

/-- An event of the watch stream brings newer documents into the cache. -/
lemma applyRemoteEvent_spec (cs : s.Consistent) {e : RemoteEvent} (raised : s.Raised e) :
    ∃ changes v', s.applyRemoteEvent e = some (changes,
        { s with
          localDocuments := v'
          lastRemoteSnapshotVersion := max s.lastRemoteSnapshotVersion e.snapshotVersion }) ∧
      v'.Consistent ∧
      (∀ k, v'.remoteDocumentCache.get k = (e.documentUpdates.get k).elim
        (s.remoteDocumentCache.get k) (afterUpdate (s.remoteDocumentCache.get k))) ∧
      v'.mutationQueue = s.mutationQueue ∧ Reports s.localDocuments v' changes := by
  obtain ⟨r, e1, getc, getd⟩ := populateDocumentChanges_spec s.remoteDocumentCache
    e.named raised.removal
  let v1 : LocalDocumentsView := { s.localDocuments with remoteDocumentCache := r.cache }
  have cv1 : v1.Consistent := consistent_of_tables cs.view
  have named : r.changedDocs.Named := by
    intro k d h
    rw [getd, Option.filter_eq_some_iff] at h
    exact e.named h.1
  obtain ⟨changes, v', e2, same, getm⟩ := LocalDocumentsView.getLocalViewOfDocuments_spec cv1 named
    r.existenceChangedKeys
  have last : s.setLastRemoteSnapshotVersion e.snapshotVersion = some { s with
      lastRemoteSnapshotVersion := max s.lastRemoteSnapshotVersion e.snapshotVersion } := by
    rw [setLastRemoteSnapshotVersion]
    by_cases z : e.snapshotVersion = 0
    · rw [if_pos z, z, Nat.max_zero]
    · have le := raised.forward.resolve_left z
      rw [if_neg z, if_pos le, Nat.max_eq_right le]
  refine ⟨changes, v', ?_, same.consistent, ?_, same.queue, ?_⟩
  · rw [applyRemoteEvent, e1]
    change Option.bind (s.setLastRemoteSnapshotVersion e.snapshotVersion) _ = _
    rw [last]
    change Option.bind (v1.getLocalViewOfDocuments _ _) _ = _
    rw [e2]
    rfl
  · intro k
    rw [same.remote]
    exact getc k
  · have overlay (k : DocumentKey) : v1.documentOverlayCache.getOverlay k =
        s.localDocuments.documentOverlayCache.getOverlay k := rfl
    have view (k : DocumentKey) : v'.localView k =
        overlayed (s.localDocuments.documentOverlayCache.getOverlay k) (r.cache.get k) := by
      rw [same.localView, LocalDocumentsView.localView_eq cv1]
    constructor
    case named =>
      intro k d h
      rw [getm] at h
      obtain ⟨d', h', rfl⟩ := Option.map_eq_some_iff.1 h
      rw [key_overlayed]
      exact named h'
    case current =>
      intro k d h
      rw [getm] at h
      obtain ⟨d', h', rfl⟩ := Option.map_eq_some_iff.1 h
      rw [getd, Option.filter_eq_some_iff] at h'
      rw [view, getc, h'.1, overlay]
      change _ = overlayed _ (afterUpdate _ d') ∨ _ ∧ (overlayed _ (afterUpdate _ d')).isFoundDocument
        = false
      rw [afterUpdate]
      by_cases gone : d'.isNoDocument = true ∧ d'.version = 0
      · rw [if_pos gone]
        cases s.localDocuments.documentOverlayCache.getOverlay k with
        | none =>
          refine .inr ⟨?_, rfl⟩
          change d'.isFoundDocument = false
          have type := gone.1
          rw [MutableDocument.isNoDocument, beq_iff_eq] at type
          rw [MutableDocument.isFoundDocument, type]
          rfl
        | some o =>
          left
          apply LocalDocumentsView.overlayed_some
          change d'.key = (s.remoteDocumentCache.get k).key
          rw [e.named h'.1, RemoteDocumentCache.key_get]
      · rw [if_neg gone, if_pos]
        · exact .inl rfl
        · have up := h'.2
          rw [updates, Bool.or_eq_true, Bool.and_eq_true, beq_iff_eq] at up
          exact up.resolve_left gone
    case complete =>
      intro k h
      rw [getm] at h
      have no := Option.map_eq_none_iff.1 h
      rw [view, getc, LocalDocumentsView.localView_eq cs.view]
      cases ed : e.documentUpdates.get k with
      | none => rfl
      | some d' =>
        rw [getd, ed, Option.filter_some] at no
        split at no
        case isTrue => cases no
        case isFalse up =>
          rw [updates, Bool.or_eq_true, not_or, Bool.and_eq_true, beq_iff_eq] at up
          change overlayed _ (afterUpdate _ d') = _
          rw [afterUpdate, if_neg up.1, if_neg up.2]
          rfl

/-! ## Users -/

/-- The tables a user comes back to. -/
lemma Consistent.tablesOf (cs : s.Consistent) {user : String} {cache : RemoteDocumentCache} :
    LocalDocumentsView.Consistent
      ⟨cache, (s.tablesOf user).mutationQueue, (s.tablesOf user).documentOverlayCache⟩ := by
  rw [LocalStore.tablesOf]
  split
  case isTrue => exact consistent_of_tables cs.view
  case isFalse =>
    cases e : s.others.get user with
    | none =>
      have new : (empty user).Consistent := empty_consistent
      exact consistent_of_tables new.view
    | some t => exact consistent_of_tables (cs.others e)

/-- The tables of another user are consistent too. -/
lemma Consistent.switchUser (cs : s.Consistent) {user : String} :
    (s.switchUser user).Consistent where
  view := cs.tablesOf
  others := by
    intro u t e
    rw [LocalStore.switchUser, SortedTable.get_delete] at e
    split at e
    case isTrue => cases e
    case isFalse =>
      rw [SortedTable.get_put] at e
      split at e
      case isTrue =>
        cases e
        exact consistent_of_tables cs.view
      case isFalse => exact consistent_of_tables (cs.others e)

/-- Whoever signs in finds the own pending batches, and the documents that the batches of either
    user write are reported. -/
lemma handleUserChange_spec (cs : s.Consistent) (user : String) :
    ∃ changes v', s.handleUserChange user = some (changes, (s.switchUser user).withView v') ∧
      v'.Consistent ∧ v'.remoteDocumentCache = s.remoteDocumentCache ∧
      v'.mutationQueue =
        (s.tablesOf user).mutationQueue.start (s.switchUser user).highestBatchIdOfOthers ∧
      Reports s.localDocuments v' changes := by
  let s' := (s.switchUser user).startMutationQueue
  have cs' : s'.Consistent := cs.switchUser.startMutationQueue
  let keys := (s.mutationQueue.allMutationBatches ++ s'.mutationQueue.allMutationBatches).flatMap
    fun b => b.mutations.map Mutation.key
  have mem {k : DocumentKey} {b : MutationBatch} (hk : k ∈ b.keys)
      (memb : b ∈ s.mutationQueue.allMutationBatches ++ s'.mutationQueue.allMutationBatches) :
      k ∈ keys :=
    List.mem_flatMap.2 ⟨b, memb, List.mem_dedup.1 hk⟩
  obtain ⟨changes, v', e, same, getm⟩ :=
    LocalDocumentsView.getDocuments_spec cs'.view keys
  refine ⟨changes, v', ?_, same.consistent, same.remote, same.queue, ?_⟩
  · rw [handleUserChange]
    change Option.bind (s'.localDocuments.getDocuments keys) _ = _
    rw [e]
    rfl
  · constructor
    case named =>
      intro k d h
      rw [getm] at h
      split at h
      case isTrue =>
        cases h
        exact LocalDocumentsView.key_localView
      case isFalse => cases h
    case current =>
      intro k d h
      rw [getm] at h
      split at h
      case isTrue =>
        cases h
        rw [same.localView]
        exact .inl rfl
      case isFalse => cases h
    case complete =>
      intro k h
      rw [getm] at h
      split at h
      case isTrue => cases h
      case isFalse no =>
        -- no batch of either user writes the document
        have none1 : lastOverlay s.mutationQueue.allMutationBatches k = none :=
          lastOverlay_eq_none.2 fun b memb hk => no (mem hk (List.mem_append_left _ memb))
        have none2 : lastOverlay s'.mutationQueue.allMutationBatches k = none :=
          lastOverlay_eq_none.2 fun b memb hk => no (mem hk (List.mem_append_right _ memb))
        rw [same.localView, LocalDocumentsView.localView_eq cs'.view,
          LocalDocumentsView.localView_eq cs.view, cs'.view.overlays, cs.view.overlays]
        change overlayed (lastOverlay s'.mutationQueue.allMutationBatches k) _ =
          overlayed (lastOverlay s.mutationQueue.allMutationBatches k) _
        rw [none1, none2]
        rfl

/-- A start keeps what is pending and what is shown. -/
lemma startMutationQueue_localView {k : DocumentKey} :
    s.startMutationQueue.localDocuments.localView k = s.localDocuments.localView k :=
  rfl

end LocalStore

end Lumiere.Firestore.Client

import Lumiere.Client.Query
import Lumiere.Client.RemoteDocuments

/-!
# The local view of documents

What this device shows of a document: the document as the server has it with the pending batches of
the user on top. `replay` applies all of them in order; the client reads the one overlay it keeps
for the document instead. When the overlay cache holds what the batches leave (`lastOverlay`), every
way of reading gives the replay of the queue: one document (`getDocument`), a set of documents
(`getDocuments`), or those of a query, by a scan of the collection or from what the query returned
before (`getDocumentsMatchingQuery`).
-/

namespace Lumiere.Firestore.Client

/-! ## Batches in order -/

/-- The document after the batches, the first one first. -/
def replay (batches : List MutationBatch) (d : MutableDocument) : MutableDocument :=
  batches.foldl (fun d b => (b.applyToLocalView d (some .empty)).1) d

/-- The overlay that batches leave for a document: the last mutation of the last that writes it. -/
def lastOverlay (batches : List MutationBatch) (k : DocumentKey) : Option Overlay :=
  batches.foldl (fun o b => ((b.affecting k).getLast?.map fun m => ⟨b.batchId, m⟩).or o) none

/-- The document under an overlay; the mask passed along does not matter to a set or a delete. -/
def overlayed (o : Option Overlay) (d : MutableDocument) : MutableDocument :=
  o.elim d fun o => (o.mutation.applyToLocalView d (some .empty)).1

/-- An overlay leaves the key. -/
@[simp] lemma key_overlayed {o : Option Overlay} {d : MutableDocument} :
    (overlayed o d).key = d.key := by
  cases o with
  | none => rfl
  | some o => exact Mutation.key_applyToLocalView

/-- A further batch has the last word on the documents that it writes. -/
lemma lastOverlay_concat {bs : List MutationBatch} {b : MutationBatch} {k : DocumentKey} :
    lastOverlay (bs ++ [b]) k =
      ((b.affecting k).getLast?.map fun m => ⟨b.batchId, m⟩).or (lastOverlay bs k) := by
  rw [lastOverlay, List.foldl_append]
  rfl

/-- A further batch is applied last. -/
lemma replay_concat {bs : List MutationBatch} {b : MutationBatch} {d : MutableDocument} :
    replay (bs ++ [b]) d = (b.applyToLocalView (replay bs d) (some .empty)).1 := by
  rw [replay, List.foldl_append]
  rfl

/-- Replaying the batches gives the document under the overlay they leave. -/
lemma replay_eq {bs : List MutationBatch} {d : MutableDocument} :
    replay bs d = overlayed (lastOverlay bs d.key) d := by
  induction bs using List.reverseRecOn with
  | nil => rfl
  | append_singleton bs b ih =>
    rw [replay_concat, ih, MutationBatch.applyToLocalView_eq, key_overlayed, lastOverlay_concat]
    cases (b.affecting d.key).getLast? with
    | none => rfl
    | some m =>
      change (m.applyToLocalView (overlayed _ d) (some .empty)).1 =
        (m.applyToLocalView d (some .empty)).1
      exact congrArg Prod.fst (Mutation.applyToLocalView_eq key_overlayed)

/-- The batches leave the key. -/
@[simp] lemma key_replay {bs : List MutationBatch} {d : MutableDocument} :
    (replay bs d).key = d.key := by
  rw [replay_eq, key_overlayed]

/-- The last mutation of a batch that writes a document. -/
lemma exists_getLast?_affecting {b : MutationBatch} {k : DocumentKey} (mem : k ∈ b.keys) :
    ∃ m, (b.affecting k).getLast? = some m ∧ m.key = k := by
  cases e : (b.affecting k).getLast? with
  | none =>
    rw [List.getLast?_eq_none_iff, MutationBatch.affecting_eq_nil] at e
    exact absurd mem e
  | some m =>
    have h := (List.mem_filter.1 (List.mem_of_getLast? e)).2
    exact ⟨m, rfl, of_decide_eq_true h⟩

/-- A batch has no last mutation for a document that it does not write. -/
lemma getLast?_affecting_eq_none {b : MutationBatch} {k : DocumentKey} (no : k ∉ b.keys) :
    (b.affecting k).getLast? = none := by
  rw [List.getLast?_eq_none_iff, MutationBatch.affecting_eq_nil]
  exact no

/-- A batch with a mutation of a document writes it. -/
lemma mem_keys_of_getLast? {b : MutationBatch} {k : DocumentKey} {m : Mutation}
    (e : (b.affecting k).getLast? = some m) : k ∈ b.keys := by
  by_contra no
  rw [getLast?_affecting_eq_none no] at e
  cases e

/-- An overlay left by batches comes from one of them, and no later one writes the document. -/
lemma lastOverlay_eq_some {bs : List MutationBatch} {k : DocumentKey} {o : Overlay}
    (e : lastOverlay bs k = some o) : ∃ bs1 b bs2, bs = bs1 ++ b :: bs2 ∧ b.batchId = o.largestBatchId ∧
      (b.affecting k).getLast? = some o.mutation ∧ ∀ b' ∈ bs2, k ∉ b'.keys := by
  induction bs using List.reverseRecOn with
  | nil => cases e
  | append_singleton bs b ih =>
    rw [lastOverlay_concat] at e
    by_cases mem : k ∈ b.keys
    · obtain ⟨m, em, _⟩ := exists_getLast?_affecting mem
      rw [em] at e
      cases e
      refine ⟨bs, b, [], rfl, rfl, em, ?_⟩
      intro b' mem'
      cases mem'
    · rw [getLast?_affecting_eq_none mem] at e
      obtain ⟨bs1, b1, bs2, rfl, id, last, no⟩ := ih e
      refine ⟨bs1, b1, bs2 ++ [b], by rw [List.append_assoc]; rfl, id, last, ?_⟩
      intro b' mem'
      rcases List.mem_append.1 mem' with mem' | mem'
      · exact no b' mem'
      · rw [List.mem_singleton.1 mem']
        exact mem

/-- Batches that write no document leave no overlay for it. -/
lemma lastOverlay_eq_none {bs : List MutationBatch} {k : DocumentKey} :
    lastOverlay bs k = none ↔ ∀ b ∈ bs, k ∉ b.keys := by
  induction bs using List.reverseRecOn with
  | nil => simp [lastOverlay]
  | append_singleton bs b ih =>
    rw [lastOverlay_concat]
    by_cases mem : k ∈ b.keys
    · obtain ⟨m, em, _⟩ := exists_getLast?_affecting mem
      rw [em]
      constructor
      · intro e
        cases e
      · intro no
        exact absurd mem (no b (List.mem_append_right _ List.mem_cons_self))
    · rw [getLast?_affecting_eq_none mem]
      change lastOverlay bs k = none ↔ _
      rw [ih, List.forall_mem_append, List.forall_mem_singleton]
      exact ⟨fun no => ⟨no, mem⟩, And.left⟩

/-- The overlay of a document is a mutation of that document. -/
lemma key_lastOverlay {bs : List MutationBatch} {k : DocumentKey} {o : Overlay}
    (e : lastOverlay bs k = some o) : o.mutation.key = k := by
  obtain ⟨_, b, _, _, _, last, _⟩ := lastOverlay_eq_some e
  exact of_decide_eq_true (List.mem_filter.1 (List.mem_of_getLast? last)).2

/-- Batches that do not write a document can be left out. -/
lemma lastOverlay_filter {bs : List MutationBatch} {k : DocumentKey} {p : MutationBatch → Bool}
    (all : ∀ b ∈ bs, k ∈ b.keys → p b = true) : lastOverlay (bs.filter p) k = lastOverlay bs k := by
  induction bs using List.reverseRecOn with
  | nil => rfl
  | append_singleton bs b ih =>
    have ih' := ih fun b' mem => all b' (List.mem_append_left _ mem)
    rw [List.filter_append, lastOverlay_concat]
    by_cases h : p b = true
    · rw [List.filter_cons_of_pos h, List.filter_nil, lastOverlay_concat, ih']
    · rw [List.filter_cons_of_neg h, List.filter_nil, List.append_nil, ih',
        getLast?_affecting_eq_none]
      · rfl
      · intro mem
        exact h (all b (List.mem_append_right _ List.mem_cons_self) mem)

/-! ## Recalculating overlays -/

/-- What the loop over the batches has gathered: the documents, the masks of their fields, and the
    documents that each batch writes. -/
structure Recalculation where
  docs : DocumentMap
  masks : SortedTable DocumentKey (Option FieldMask)
  documentsByBatchId : SortedTable BatchId (List DocumentKey)

namespace Recalculation

/-- The documents a batch writes. -/
def documents (r : Recalculation) (id : BatchId) : List DocumentKey :=
  (r.documentsByBatchId.get id).getD []

/-- One document of one batch; documents that are not recalculated are passed by. -/
def visit (r : Recalculation) (batch : MutationBatch) (key : DocumentKey) : Recalculation :=
  match r.docs.get key with
  | none => r
  | some baseDoc =>
    let dm := batch.applyToLocalView baseDoc ((r.masks.get key).getD (some .empty))
    { docs := r.docs.put key dm.1
      masks := r.masks.put key dm.2
      documentsByBatchId :=
        r.documentsByBatchId.put batch.batchId (insertBy compare key (r.documents batch.batchId)) }

/-- The loop over the batches. -/
def run (docs : DocumentMap) (batches : List MutationBatch) : Recalculation :=
  batches.foldl (fun r b => b.keys.foldl (fun r k => r.visit b k) r)
    ⟨docs, SortedTable.empty, SortedTable.empty⟩

/-- The overlay mutation of a document after the loop. -/
def overlayMutation (r : Recalculation) (key : DocumentKey) : Option (Option Mutation) :=
  (r.docs.get key).map fun d => Mutation.calculateOverlayMutation d ((r.masks.get key).getD none)

/-- The overlays of the documents of one batch that later batches do not write. -/
def saveBatch (r : Recalculation) (s : List DocumentKey × DocumentOverlayCache)
    (row : BatchId × List DocumentKey) : Option (List DocumentKey × DocumentOverlayCache) := do
  let unprocessed := row.2.filter (· ∉ s.1)
  let overlays ← unprocessed.mapM fun k => (r.overlayMutation k).map fun m => m.map (k, ·)
  pure (s.1 ++ unprocessed, s.2.saveOverlays row.1 overlays.reduceOption)

/-- The loop over the batches from the last to the first. -/
def saveOverlays (r : Recalculation) (c : DocumentOverlayCache) : Option DocumentOverlayCache :=
  (r.documentsByBatchId.rows.reverse.foldlM r.saveBatch ([], c)).map Prod.snd

end Recalculation

namespace Recalculation

variable {r : Recalculation} {b : MutationBatch}

/-- What a batch makes of a document does not depend on the mask, and it leaves none on a document
    that it writes. -/
lemma applyToLocalView_mask {d : MutableDocument} (mask : Option FieldMask) :
    (b.applyToLocalView d mask).1 = (b.applyToLocalView d (some .empty)).1 ∧
      (d.key ∈ b.keys → (b.applyToLocalView d mask).2 = none) := by
  rw [MutationBatch.applyToLocalView_eq, MutationBatch.applyToLocalView_eq]
  cases e : (b.affecting d.key).getLast? with
  | none =>
    refine ⟨rfl, ?_⟩
    intro mem
    obtain ⟨m, em, _⟩ := exists_getLast?_affecting mem
    rw [e] at em
    cases em
  | some m =>
    constructor
    · change (m.applyToLocalView d mask).1 = (m.applyToLocalView d (some .empty)).1
      exact congrArg Prod.fst (Mutation.applyToLocalView_eq rfl)
    · intro _
      change (m.applyToLocalView d mask).2 = none
      exact Mutation.mask_applyToLocalView

/-- What one visit does to the documents, the masks and the lists of documents. -/
lemma visit_spec (names : r.docs.Named) {key : DocumentKey} (mem : key ∈ b.keys) :
    (∀ k, (r.visit b key).docs.get k =
        if k = key then (r.docs.get k).map fun d => (b.applyToLocalView d (some .empty)).1
        else r.docs.get k) ∧
      (∀ k, (r.masks.get k).getD none = none → ((r.visit b key).masks.get k).getD none = none) ∧
      ∀ id, (r.visit b key).documents id =
        if id = b.batchId ∧ r.docs.contains key = true then insertBy compare key (r.documents id)
        else r.documents id := by
  rw [visit]
  cases e : r.docs.get key with
  | none =>
    have no : r.docs.contains key = false := by rw [SortedTable.contains, e]; rfl
    refine ⟨?_, fun k h => h, ?_⟩
    · intro k
      by_cases h : k = key
      · rw [if_pos h, h, e]
        rfl
      · rw [if_neg h]
    · intro id
      rw [if_neg]
      rintro ⟨_, h⟩
      rw [no] at h
      cases h
  | some d =>
    have yes : r.docs.contains key = true := by rw [SortedTable.contains, e]; rfl
    have mem' : d.key ∈ b.keys := by
      rw [names e]
      exact mem
    refine ⟨?_, ?_, ?_⟩
    · intro k
      change (r.docs.put key _).get k = _
      rw [SortedTable.get_put]
      by_cases h : k = key
      · rw [if_pos h, if_pos h, h, e, Option.map_some, (applyToLocalView_mask _).1]
      · rw [if_neg h, if_neg h]
    · intro k none_
      change ((r.masks.put key _).get k).getD none = none
      rw [SortedTable.get_put, (applyToLocalView_mask _).2 mem']
      by_cases h : k = key
      · rw [if_pos h]
        rfl
      · rw [if_neg h]
        exact none_
    · intro id
      change ((r.documentsByBatchId.put _ _).get id).getD [] = _
      rw [SortedTable.get_put]
      by_cases h : id = b.batchId
      · rw [if_pos h, if_pos ⟨h, yes⟩, h]
        rfl
      · rw [if_neg h, if_neg fun h' => h h'.1]
        rfl

/-- The documents stay under their keys. -/
lemma visit_named (names : r.docs.Named) {key : DocumentKey} (mem : key ∈ b.keys) :
    (r.visit b key).docs.Named := by
  intro k d e
  rw [(visit_spec names mem).1] at e
  split at e
  case isTrue =>
    obtain ⟨d', e', rfl⟩ := Option.map_eq_some_iff.1 e
    rw [MutationBatch.key_applyToLocalView]
    exact names e'
  case isFalse => exact names e

/-- No document comes or goes. -/
lemma contains_visit (names : r.docs.Named) {key k : DocumentKey} (mem : key ∈ b.keys) :
    (r.visit b key).docs.contains k = r.docs.contains k := by
  rw [SortedTable.contains, (visit_spec names mem).1]
  split
  case isTrue => exact Option.isSome_map
  case isFalse => rfl

/-- What the loop has gathered after some batches. -/
structure Ran (docs : DocumentMap) (bs : List MutationBatch) (r : Recalculation) : Prop where
  get_docs : ∀ k, r.docs.get k = (docs.get k).map (replay bs)
  masks : ∀ k, (r.masks.get k).getD none = none
  ascending : ∀ id, Ascending compare (r.documents id)
  mem_documents : ∀ id k, k ∈ r.documents id ↔
    docs.contains k = true ∧ ∃ b ∈ bs, b.batchId = id ∧ k ∈ b.keys

/-- After some batches the documents are under their keys. -/
lemma Ran.named {docs : DocumentMap} {bs : List MutationBatch} (names : docs.Named)
    (rr : Ran docs bs r) : r.docs.Named := by
  intro k d e
  rw [rr.get_docs] at e
  obtain ⟨d', e', rfl⟩ := Option.map_eq_some_iff.1 e
  rw [key_replay]
  exact names e'

/-- What the visits of some documents of one batch do. -/
lemma foldl_visit {ks : List DocumentKey} (nd : ks.Nodup) (sub : ∀ k ∈ ks, k ∈ b.keys)
    (names : r.docs.Named) (as : ∀ id, Ascending compare (r.documents id)) :
    (∀ k, (ks.foldl (fun r k => r.visit b k) r).docs.get k =
        if k ∈ ks then (r.docs.get k).map fun d => (b.applyToLocalView d (some .empty)).1
        else r.docs.get k) ∧
      (∀ k, (r.masks.get k).getD none = none →
        ((ks.foldl (fun r k => r.visit b k) r).masks.get k).getD none = none) ∧
      (∀ id, Ascending compare ((ks.foldl (fun r k => r.visit b k) r).documents id)) ∧
      ∀ id k, k ∈ (ks.foldl (fun r k => r.visit b k) r).documents id ↔
        k ∈ r.documents id ∨ id = b.batchId ∧ k ∈ ks ∧ r.docs.contains k = true := by
  induction ks generalizing r with
  | nil => exact ⟨fun k => rfl, fun k h => h, as, fun id k => by simp⟩
  | cons key ks ih =>
    obtain ⟨no, nd'⟩ := List.nodup_cons.1 nd
    have mem := sub key List.mem_cons_self
    obtain ⟨docs, masks, documents⟩ := visit_spec names mem
    have as' : ∀ id, Ascending compare ((r.visit b key).documents id) := by
      intro id
      rw [documents]
      split
      case isTrue => exact ascending_insertBy (as id)
      case isFalse => exact as id
    obtain ⟨docs', masks', as'', documents'⟩ := ih nd'
      (fun k mem' => sub k (List.mem_cons_of_mem _ mem')) (visit_named names mem) as'
    refine ⟨?_, fun k h => masks' k (masks k h), as'', ?_⟩
    · intro k
      rw [List.foldl_cons, docs', docs]
      by_cases h : k = key
      · subst h
        rw [if_neg no, if_pos rfl, if_pos List.mem_cons_self]
      · rw [if_neg h]
        by_cases later : k ∈ ks
        · rw [if_pos later, if_pos (List.mem_cons_of_mem _ later)]
        · rw [if_neg later, if_neg fun mem' => (List.mem_cons.1 mem').elim h later]
    · intro id k
      rw [List.foldl_cons, documents', contains_visit names mem, documents]
      split
      case isTrue h =>
        rw [mem_insertBy (as id), List.mem_cons]
        constructor
        · rintro ((rfl | ⟨h', _⟩) | ⟨e, mem', c⟩)
          · exact .inr ⟨h.1, .inl rfl, h.2⟩
          · exact .inl h'
          · exact .inr ⟨e, .inr mem', c⟩
        · rintro (h' | ⟨e, rfl | mem', c⟩)
          · by_cases e : k = key
            · exact .inl (.inl e)
            · refine .inl (.inr ⟨h', ?_⟩)
              intro e'
              exact e (Std.LawfulEqOrd.eq_of_compare e').symm
          · exact .inl (.inl rfl)
          · exact .inr ⟨e, mem', c⟩
      case isFalse h =>
        rw [List.mem_cons]
        constructor
        · rintro (h' | ⟨e, mem', c⟩)
          · exact .inl h'
          · exact .inr ⟨e, .inr mem', c⟩
        · rintro (h' | ⟨e, rfl | mem', c⟩)
          · exact .inl h'
          · exact absurd ⟨e, c⟩ h
          · exact .inr ⟨e, mem', c⟩

/-- The loop over the batches replays them on the documents and lists who writes what. -/
lemma run_ran {docs : DocumentMap} {bs : List MutationBatch} (names : docs.Named) :
    Ran docs bs (run docs bs) := by
  induction bs using List.reverseRecOn with
  | nil =>
    constructor
    case get_docs =>
      intro k
      cases e : docs.get k with
      | none => exact e
      | some d => exact e
    case masks => intro k; rfl
    case ascending => intro id; exact .nil
    case mem_documents =>
      intro id k
      constructor
      · intro mem; cases mem
      · rintro ⟨_, b, mem, _⟩; cases mem
  | append_singleton bs b ih =>
    have nd : b.keys.Nodup := List.nodup_dedup _
    obtain ⟨docs', masks', as', documents'⟩ :=
      foldl_visit nd (fun k mem => mem) (ih.named names) ih.ascending
    have e : run docs (bs ++ [b]) = b.keys.foldl (fun r k => r.visit b k) (run docs bs) := by
      rw [run, List.foldl_append]
      rfl
    have contains (k : DocumentKey) : (run docs bs).docs.contains k = docs.contains k := by
      rw [SortedTable.contains, ih.get_docs, Option.isSome_map]
      rfl
    rw [e]
    constructor
    case get_docs =>
      intro k
      rw [docs', ih.get_docs]
      cases ed : docs.get k with
      | none =>
        split
        case isTrue => rfl
        case isFalse => rfl
      | some d =>
        split
        case isTrue =>
          rw [Option.map_some, Option.map_some, Option.map_some, replay_concat]
        case isFalse no =>
          rw [Option.map_some, Option.map_some, replay_concat, MutationBatch.applyToLocalView_eq,
            key_replay, names ed, getLast?_affecting_eq_none no]
          rfl
    case masks => exact fun k => masks' k (ih.masks k)
    case ascending => exact as'
    case mem_documents =>
      intro id k
      rw [documents', ih.mem_documents, contains]
      constructor
      · rintro (⟨c, b', mem, h⟩ | ⟨rfl, mem, c⟩)
        · exact ⟨c, b', List.mem_append_left _ mem, h⟩
        · exact ⟨c, b, List.mem_append_right _ List.mem_cons_self, rfl, mem⟩
      · rintro ⟨c, b', mem, e', h⟩
        rcases List.mem_append.1 mem with mem | mem
        · exact .inl ⟨c, b', mem, e', h⟩
        · rw [List.mem_singleton.1 mem] at e' h
          exact .inr ⟨e'.symm, h, c⟩

/-- What saving the overlays of the batches, from the last one on, does to the overlay of each
    document: it gets that of the first batch that lists it, if it has not been processed before. -/
lemma foldlM_saveBatch {f : DocumentKey → Mutation} {rows : List (BatchId × List DocumentKey)}
    (all : ∀ row ∈ rows, ∀ k ∈ row.2, r.overlayMutation k = some (some (f k)) ∧ (f k).key = k)
    (processed : List DocumentKey) {c : DocumentOverlayCache} (cc : c.Consistent) :
    ∃ processed' c', rows.foldlM r.saveBatch (processed, c) = some (processed', c') ∧ c'.Consistent ∧
      ∀ k, c'.getOverlay k =
        if k ∈ processed then c.getOverlay k
        else ((rows.find? fun row => k ∈ row.2).map fun row => ⟨row.1, f k⟩).or
          (c.getOverlay k) := by
  induction rows generalizing processed c with
  | nil => exact ⟨processed, c, rfl, cc, fun k => by simp⟩
  | cons row rows ih =>
    have allRow := all row List.mem_cons_self
    let unprocessed := row.2.filter (· ∉ processed)
    let overlays := unprocessed.map fun k => (k, f k)
    have em : unprocessed.mapM (fun k => (r.overlayMutation k).map fun m => m.map (k, ·)) =
        some (overlays.map some) := by
      have h : ∀ k ∈ unprocessed, (r.overlayMutation k).map (fun m => m.map (k, ·)) =
          some (some (k, f k)) := by
        intro k mem
        rw [(allRow k (List.mem_filter.1 mem).1).1]
        rfl
      change _ = some ((unprocessed.map fun k => (k, f k)).map some)
      generalize unprocessed = ks at h
      induction ks with
      | nil => rfl
      | cons k ks ih' =>
        rw [List.mapM_cons, h k List.mem_cons_self,
          ih' fun k' mem => h k' (List.mem_cons_of_mem _ mem)]
        rfl
    have es : r.saveBatch (processed, c) row =
        some (processed ++ unprocessed, c.saveOverlays row.1 overlays) := by
      change Option.bind (unprocessed.mapM fun k => (r.overlayMutation k).map _) _ = _
      rw [em]
      change some (_, c.saveOverlays row.1 ((overlays.map some).filterMap id)) = _
      rw [List.filterMap_map]
      change some (_, c.saveOverlays row.1 (overlays.filterMap some)) = _
      rw [List.filterMap_some]
    have names : ∀ o ∈ overlays, o.2.key = o.1 := by
      intro o mem
      obtain ⟨k, mem', rfl⟩ := List.mem_map.1 mem
      exact (allRow k (List.mem_filter.1 mem').1).2
    obtain ⟨processed', c', ef, cc', get⟩ := ih
      (fun row' mem => all row' (List.mem_cons_of_mem _ mem)) (processed ++ unprocessed)
      (cc.saveOverlays names)
    refine ⟨processed', c', ?_, cc', ?_⟩
    · rw [List.foldlM_cons, es]
      exact ef
    · intro k
      have mem : k ∈ processed ++ unprocessed ↔ k ∈ processed ∨ k ∈ row.2 ∧ k ∉ processed := by
        rw [List.mem_append, List.mem_filter, decide_eq_true_iff]
      rw [get, List.find?_cons]
      by_cases h1 : k ∈ processed
      · rw [if_pos (mem.2 (.inl h1)), if_pos h1]
        apply DocumentOverlayCache.getOverlay_saveOverlays_ne cc names
        intro o there e
        obtain ⟨k', there', rfl⟩ := List.mem_map.1 there
        change k' = k at e
        subst e
        exact of_decide_eq_true (List.mem_filter.1 there').2 h1
      · rw [if_neg h1]
        by_cases h2 : k ∈ row.2
        · rw [if_pos (mem.2 (.inr ⟨h2, h1⟩)), decide_eq_true h2]
          apply DocumentOverlayCache.getOverlay_saveOverlays cc names
          · exact List.mem_map.2 ⟨k, List.mem_filter.2 ⟨h2, decide_eq_true h1⟩, rfl⟩
          · intro o there e
            obtain ⟨k', _, rfl⟩ := List.mem_map.1 there
            exact congrArg f e
        · rw [if_neg fun h => (mem.1 h).elim h1 fun h' => h2 h'.1, decide_eq_false h2]
          congr 1
          apply DocumentOverlayCache.getOverlay_saveOverlays_ne cc names
          intro o there e
          obtain ⟨k', there', rfl⟩ := List.mem_map.1 there
          exact h2 (e ▸ (List.mem_filter.1 there').1)

/-- The documents listed for a batch are the row of the batch. -/
lemma mem_documents_iff {id : BatchId} {k : DocumentKey} :
    k ∈ r.documents id ↔ ∃ ks, (id, ks) ∈ r.documentsByBatchId.rows ∧ k ∈ ks := by
  rw [documents]
  constructor
  · intro mem
    cases e : r.documentsByBatchId.get id with
    | none =>
      rw [e] at mem
      cases mem
    | some ks =>
      rw [e] at mem
      exact ⟨ks, SortedTable.get_eq_some.1 e, mem⟩
  · rintro ⟨ks, mem, h⟩
    rw [SortedTable.get_eq_some.2 mem]
    exact h

/-- Among batches in the order of their numbers, the overlay left for a document has the greatest
    number of those that write it. -/
lemma batchId_le_lastOverlay {bs : List MutationBatch}
    (as : bs.Pairwise fun a b => a.batchId < b.batchId) {k : DocumentKey} {o : Overlay}
    (e : lastOverlay bs k = some o) {b : MutationBatch} (mem : b ∈ bs) (h : k ∈ b.keys) :
    b.batchId ≤ o.largestBatchId := by
  obtain ⟨bs1, b1, bs2, rfl, id, _, no⟩ := lastOverlay_eq_some e
  rw [← id]
  rcases List.mem_append.1 mem with mem | mem
  · exact ((List.pairwise_append.1 as).2.2 b mem b1 List.mem_cons_self).le
  · rcases List.mem_cons.1 mem with rfl | mem
    · exact le_refl _
    · exact absurd h (no b mem)

/-- Looking from the last row to the first, the row with the greatest number that lists a document
    is found. -/
lemma find?_last {t : SortedTable BatchId (List DocumentKey)} {id : BatchId}
    {ks : List DocumentKey} {k : DocumentKey} (mem : (id, ks) ∈ t.rows) (h : k ∈ ks)
    (le : ∀ row ∈ t.rows, k ∈ row.2 → row.1 ≤ id) :
    t.rows.reverse.find? (fun row => k ∈ row.2) = some (id, ks) := by
  have desc : t.rows.reverse.Pairwise fun a b => b.1 < a.1 := by
    apply List.pairwise_reverse.2
    exact t.ascending.imp fun lt => Nat.compare_eq_lt.1 lt
  obtain ⟨l1, l2, e⟩ := List.append_of_mem (List.mem_reverse.2 mem)
  rw [e] at desc
  apply List.find?_eq_some_iff_append.2
  refine ⟨decide_eq_true h, l1, l2, e, ?_⟩
  intro row mem'
  -- a row that comes earlier has a greater number and lists other documents
  have lt := (List.pairwise_append.1 desc).2.2 row mem' (id, ks) List.mem_cons_self
  rw [Bool.not_eq_true', decide_eq_false_iff_not]
  intro h'
  have memRow : row ∈ t.rows := by
    apply List.mem_reverse.1
    rw [e]
    exact List.mem_append_left _ mem'
  exact absurd (le row memRow h') (Nat.not_le.2 lt)

/-- The loop over the batches from the last to the first saves the overlays they leave. -/
lemma saveOverlays_spec {docs : DocumentMap} {bs : List MutationBatch} (names : docs.Named)
    (rr : Ran docs bs r) (as : bs.Pairwise fun a b => a.batchId < b.batchId)
    {c : DocumentOverlayCache} (cc : c.Consistent) :
    ∃ c', r.saveOverlays c = some c' ∧ c'.Consistent ∧ ∀ k, c'.getOverlay k =
      if docs.contains k = true then (lastOverlay bs k).or (c.getOverlay k) else c.getOverlay k := by
  let f : DocumentKey → Mutation := fun k =>
    ((lastOverlay bs k).map Overlay.mutation).getD (.deleteMutation k)
  -- a document listed for a batch has an overlay and is one of the documents
  have listed : ∀ row ∈ r.documentsByBatchId.rows.reverse, ∀ k ∈ row.2,
      docs.contains k = true ∧ (∃ b ∈ bs, b.batchId = row.1 ∧ k ∈ b.keys) ∧
        ∃ o, lastOverlay bs k = some o := by
    intro row mem k h
    obtain ⟨c, b, memb, id, hk⟩ :=
      (rr.mem_documents row.1 k).1 (mem_documents_iff.2 ⟨row.2, List.mem_reverse.1 mem, h⟩)
    refine ⟨c, ⟨b, memb, id, hk⟩, ?_⟩
    cases e : lastOverlay bs k with
    | none => exact absurd hk (lastOverlay_eq_none.1 e b memb)
    | some o => exact ⟨o, rfl⟩
  have all : ∀ row ∈ r.documentsByBatchId.rows.reverse, ∀ k ∈ row.2,
      r.overlayMutation k = some (some (f k)) ∧ (f k).key = k := by
    intro row mem k h
    obtain ⟨c, _, o, eo⟩ := listed row mem k h
    obtain ⟨d, ed⟩ := Option.isSome_iff_exists.1 c
    have fk : f k = o.mutation := by
      change ((lastOverlay bs k).map Overlay.mutation).getD _ = _
      rw [eo]
      rfl
    rw [fk]
    refine ⟨?_, key_lastOverlay eo⟩
    rw [overlayMutation, rr.get_docs, ed, rr.masks, Option.map_some, Option.map_some, replay_eq,
      names ed, eo]
    apply congrArg some
    apply Mutation.calculateOverlayMutation_applyToLocalView
    rw [names ed, key_lastOverlay eo]
  obtain ⟨_, c', e, cc', get⟩ := foldlM_saveBatch all [] cc
  refine ⟨c', by rw [saveOverlays, e]; rfl, cc', ?_⟩
  intro k
  rw [get, if_neg List.not_mem_nil]
  by_cases h : docs.contains k = true
  · rw [if_pos h]
    cases eo : lastOverlay bs k with
    | none =>
      rw [List.find?_eq_none.2]
      · rfl
      · intro row mem h'
        obtain ⟨_, _, o, eo'⟩ := listed row mem k (of_decide_eq_true h')
        rw [eo] at eo'
        cases eo'
    | some o =>
      obtain ⟨bs1, b, bs2, ebs, id, last, _⟩ := lastOverlay_eq_some eo
      have memb : b ∈ bs := by
        rw [ebs]
        exact List.mem_append_right _ List.mem_cons_self
      obtain ⟨ks, memRow, hks⟩ := mem_documents_iff.1
        ((rr.mem_documents o.largestBatchId k).2 ⟨h, b, memb, id, mem_keys_of_getLast? last⟩)
      rw [find?_last memRow hks]
      · change some (Overlay.mk o.largestBatchId (((lastOverlay bs k).map _).getD _)) = some o
        rw [eo]
        rfl
      · intro row mem' h'
        obtain ⟨_, ⟨b', memb', id', hk'⟩, _⟩ := listed row (List.mem_reverse.2 mem') k h'
        rw [← id']
        exact batchId_le_lastOverlay as eo memb' hk'
  · rw [if_neg h, List.find?_eq_none.2]
    · rfl
    · intro row mem h'
      exact h (listed row mem k (of_decide_eq_true h')).1

end Recalculation

/-! ## Reading -/

/-- A document with the fields its pending mutations have touched. -/
structure OverlayedDocument where
  document : MutableDocument
  mutatedFields : Option FieldMask

/-- The tables that the local view of the documents is read from. -/
structure LocalDocumentsView where
  remoteDocumentCache : RemoteDocumentCache
  mutationQueue : MutationQueue
  documentOverlayCache : DocumentOverlayCache

namespace LocalDocumentsView

/-- A document after the given batches. -/
def getDocumentWith (v : LocalDocumentsView) (key : DocumentKey) (batches : List MutationBatch) :
    MutableDocument :=
  replay batches (v.remoteDocumentCache.get key)

/-- The document an overlay is applied to: a set or a delete does not need to know it. -/
def getBaseDocument (v : LocalDocumentsView) (key : DocumentKey) (overlay : Option Overlay) :
    MutableDocument :=
  if overlay.isNone then v.remoteDocumentCache.get key else .invalidDocument key

/-- The local view of one document. -/
def getDocument (v : LocalDocumentsView) (key : DocumentKey) : MutableDocument :=
  let overlay := v.documentOverlayCache.getOverlay key
  overlayed overlay (v.getBaseDocument key overlay)

/-- The overlays of some documents. -/
def populateOverlays (v : LocalDocumentsView) (keys : List DocumentKey) :
    SortedTable DocumentKey Overlay :=
  SortedTable.collect v.documentOverlayCache.getOverlay keys

/-- Saves the overlays that the pending batches leave for these documents, and returns the documents
    after them and the masks of their fields. -/
def recalculateAndSaveOverlays (v : LocalDocumentsView) (docs : DocumentMap) :
    Option (Recalculation × LocalDocumentsView) := do
  let batches ← v.mutationQueue.allMutationBatchesAffectingDocumentKeys (docs.rows.map Prod.fst)
  let r := Recalculation.run docs batches
  let c ← r.saveOverlays v.documentOverlayCache
  pure (r, { v with documentOverlayCache := c })

/-- Whether the overlay of a document is calculated again because the document has come into being
    or ceased to be. -/
def recalculates (overlays : SortedTable DocumentKey Overlay)
    (existenceStateChanged : List DocumentKey) (key : DocumentKey) : Bool :=
  decide (key ∈ existenceStateChanged) && !overlays.contains key

/-- The documents whose overlay is calculated again. -/
def recalculateDocuments (docs : DocumentMap) (overlays : SortedTable DocumentKey Overlay)
    (existenceStateChanged : List DocumentKey) : DocumentMap :=
  docs.filterMap fun k d => if recalculates overlays existenceStateChanged k then some d else none

/-- The documents, with its overlay applied to each of the others. -/
def applyToDocuments (docs : DocumentMap) (overlays : SortedTable DocumentKey Overlay)
    (existenceStateChanged : List DocumentKey) : DocumentMap :=
  docs.filterMap fun k d =>
    some (if recalculates overlays existenceStateChanged k then d else overlayed (overlays.get k) d)

/-- The documents as they are after the recalculation, with their masks. -/
def overlayedDocuments (docs : DocumentMap) (r : Recalculation) :
    SortedTable DocumentKey OverlayedDocument :=
  docs.filterMap fun k d => some ⟨(r.docs.get k).getD d, (r.masks.get k).getD none⟩

/-- The local views of documents, with the overlays that have to be computed anew. -/
def computeViews (v : LocalDocumentsView) (docs : DocumentMap)
    (overlays : SortedTable DocumentKey Overlay) (existenceStateChanged : List DocumentKey) :
    Option (SortedTable DocumentKey OverlayedDocument × LocalDocumentsView) :=
  (v.recalculateAndSaveOverlays
    (recalculateDocuments docs overlays existenceStateChanged)).map fun rv =>
      (overlayedDocuments (applyToDocuments docs overlays existenceStateChanged) rv.1, rv.2)

/-- The documents with their overlays applied. -/
def getOverlayedDocuments (v : LocalDocumentsView) (docs : DocumentMap) :
    Option (SortedTable DocumentKey OverlayedDocument × LocalDocumentsView) :=
  v.computeViews docs (v.populateOverlays (docs.rows.map Prod.fst)) []

/-- The local views of documents whose base versions are at hand. -/
def getLocalViewOfDocuments (v : LocalDocumentsView) (baseDocs : DocumentMap)
    (existenceStateChanged : List DocumentKey) : Option (DocumentMap × LocalDocumentsView) :=
  (v.computeViews baseDocs (v.populateOverlays (baseDocs.rows.map Prod.fst))
    existenceStateChanged).map fun r => (r.1.filterMap fun _ d => some d.document, r.2)

/-- The local views of documents. -/
def getDocuments (v : LocalDocumentsView) (keys : List DocumentKey) :
    Option (DocumentMap × LocalDocumentsView) :=
  v.getLocalViewOfDocuments (v.remoteDocumentCache.getAll keys) []

/-- The document of a document query. -/
def getDocumentsMatchingDocumentQuery (v : LocalDocumentsView) (key : DocumentKey) : DocumentMap :=
  let doc := v.getDocument key
  if doc.isFoundDocument then SortedTable.empty.put doc.key doc else SortedTable.empty

/-- The overlay a list of overlays has for a document. -/
def overlayIn (overlays : List (DocumentKey × Overlay)) (key : DocumentKey) : Option Overlay :=
  (overlays.find? fun o => o.1 = key).map Prod.snd

/-- The documents that match a query once the overlays are applied; a document of which only an
    overlay is known may be among them. -/
def applyOverlays (query : CoreQuery) (remoteDocuments : DocumentMap)
    (overlays : List (DocumentKey × Overlay)) : DocumentMap :=
  (overlays.foldl (fun m o => if m.contains o.1 then m else m.put o.1 (.invalidDocument o.1))
    remoteDocuments).filterMap fun k d =>
      let doc := overlayed (overlayIn overlays k) d
      if query.matches doc then some doc else none

/-- The documents of a collection that match a query in the local view. -/
def getDocumentsMatchingCollectionQuery (v : LocalDocumentsView) (query : CoreQuery)
    (offset : IndexOffset) : Option DocumentMap :=
  (v.documentOverlayCache.getOverlays query.path offset.largestBatchId).map
    (applyOverlays query (v.remoteDocumentCache.getAllIn query.path offset))

/-- The documents that match a query in the local view. -/
def getDocumentsMatchingQuery (v : LocalDocumentsView) (query : CoreQuery) (offset : IndexOffset) :
    Option DocumentMap :=
  if query.isDocumentQuery then
    -- no document stands at the empty path
    some (query.path.getLast?.elim SortedTable.empty fun id =>
      v.getDocumentsMatchingDocumentQuery ⟨query.path.dropLast, id⟩)
  else v.getDocumentsMatchingCollectionQuery query offset

/-- The document with all pending batches of the user on top. -/
def localView (v : LocalDocumentsView) (key : DocumentKey) : MutableDocument :=
  v.getDocumentWith key v.mutationQueue.allMutationBatches

/-- The overlay cache holds what the pending batches leave for each document. -/
structure Consistent (v : LocalDocumentsView) : Prop where
  queue : v.mutationQueue.Consistent
  cache : v.documentOverlayCache.Consistent
  overlays : ∀ k, v.documentOverlayCache.getOverlay k =
    lastOverlay v.mutationQueue.allMutationBatches k

/-- The view differs at most in how its overlays are kept. -/
structure SameView (v v' : LocalDocumentsView) : Prop where
  remote : v'.remoteDocumentCache = v.remoteDocumentCache
  queue : v'.mutationQueue = v.mutationQueue
  consistent : v'.Consistent

variable {v : LocalDocumentsView}

/-- The same view of each document. -/
lemma SameView.localView {v' : LocalDocumentsView} (same : SameView v v') {k : DocumentKey} :
    v'.localView k = v.localView k := by
  rw [LocalDocumentsView.localView, LocalDocumentsView.localView, getDocumentWith, getDocumentWith,
    same.remote, same.queue]

/-- The local view of a document is under its key. -/
@[simp] lemma key_localView {k : DocumentKey} : (v.localView k).key = k := by
  rw [localView, getDocumentWith, key_replay, RemoteDocumentCache.key_get]

/-- The local view of a document is the cached document under its overlay. -/
lemma localView_eq (cv : v.Consistent) {k : DocumentKey} :
    v.localView k =
      overlayed (v.documentOverlayCache.getOverlay k) (v.remoteDocumentCache.get k) := by
  rw [localView, getDocumentWith, replay_eq, RemoteDocumentCache.key_get, cv.overlays]

/-- What stands under an overlay does not matter but for its key. -/
lemma overlayed_some {o : Overlay} {d d' : MutableDocument} (e : d.key = d'.key) :
    overlayed (some o) d = overlayed (some o) d' :=
  congrArg Prod.fst (Mutation.applyToLocalView_eq e)

/-- Reading a document gives the replay of all pending batches. -/
lemma getDocument_eq (cv : v.Consistent) {k : DocumentKey} : v.getDocument k = v.localView k := by
  rw [localView_eq cv, getDocument]
  cases e : v.documentOverlayCache.getOverlay k with
  | none => rfl
  | some o => exact overlayed_some RemoteDocumentCache.key_get.symm

/-- The overlays that are looked up are those of the cache. -/
lemma get_populateOverlays {keys : List DocumentKey} {k : DocumentKey} :
    (v.populateOverlays keys).get k =
      if k ∈ keys then v.documentOverlayCache.getOverlay k else none :=
  SortedTable.get_collect

/-- Recalculating saves for each of the documents the overlay that the pending batches leave, and
    nothing for the others. -/
lemma recalculateAndSaveOverlays_spec (cq : v.mutationQueue.Consistent)
    (cc : v.documentOverlayCache.Consistent) {docs : DocumentMap} (names : docs.Named) :
    ∃ r c', v.recalculateAndSaveOverlays docs = some (r, { v with documentOverlayCache := c' }) ∧
      c'.Consistent ∧
      (∀ k, r.docs.get k = (docs.get k).map (replay v.mutationQueue.allMutationBatches)) ∧
      (∀ k, (r.masks.get k).getD none = none) ∧
      ∀ k, c'.getOverlay k =
        if docs.contains k = true then
          (lastOverlay v.mutationQueue.allMutationBatches k).or (v.documentOverlayCache.getOverlay k)
        else v.documentOverlayCache.getOverlay k := by
  let keys := docs.rows.map Prod.fst
  let batches := v.mutationQueue.allMutationBatches.filter fun b => keys.any fun k => k ∈ b.keys
  have eb : v.mutationQueue.allMutationBatchesAffectingDocumentKeys keys = some batches :=
    MutationQueue.affectingKeys_eq cq
  have last {k : DocumentKey} (h : docs.contains k = true) :
      lastOverlay batches k = lastOverlay v.mutationQueue.allMutationBatches k := by
    apply lastOverlay_filter
    intro b _ hk
    apply List.any_eq_true.2
    exact ⟨k, SortedTable.mem_keys.2 (Option.isSome_iff_exists.1 h), decide_eq_true hk⟩
  have rr : Recalculation.Ran docs batches (Recalculation.run docs batches) :=
    Recalculation.run_ran names
  obtain ⟨c', ec, cc', get⟩ := Recalculation.saveOverlays_spec names rr
    ((MutationQueue.allMutationBatches_ascending cq).filter _) cc
  refine ⟨Recalculation.run docs batches, c', ?_, cc', ?_, rr.masks, ?_⟩
  · change Option.bind (v.mutationQueue.allMutationBatchesAffectingDocumentKeys keys) _ = _
    rw [eb]
    change Option.bind ((Recalculation.run docs batches).saveOverlays _) _ = _
    rw [ec]
    rfl
  · intro k
    rw [rr.get_docs]
    cases e : docs.get k with
    | none => rfl
    | some d =>
      rw [Option.map_some, Option.map_some, replay_eq, replay_eq, names e, last]
      rw [SortedTable.contains, e]
      rfl
  · intro k
    rw [get]
    by_cases h : docs.contains k = true
    · rw [if_pos h, if_pos h, last h]
    · rw [if_neg h, if_neg h]

/-- Saving again what the batches leave changes no overlay. -/
lemma sameView_of_getOverlay (cv : v.Consistent) {c' : DocumentOverlayCache} (cc' : c'.Consistent)
    (get : ∀ k, c'.getOverlay k = v.documentOverlayCache.getOverlay k) :
    SameView v { v with documentOverlayCache := c' } where
  remote := rfl
  queue := rfl
  consistent :=
    { queue := cv.queue
      cache := cc'
      overlays := fun k => (get k).trans (cv.overlays k) }

/-- The views of some documents are these documents under their overlays. -/
lemma computeViews_spec (cv : v.Consistent) {docs : DocumentMap} (names : docs.Named)
    (existenceStateChanged : List DocumentKey) :
    ∃ res v', v.computeViews docs (v.populateOverlays (docs.rows.map Prod.fst))
        existenceStateChanged = some (res, v') ∧ SameView v v' ∧
      ∀ k, res.get k = (docs.get k).map fun d =>
        ⟨overlayed (v.documentOverlayCache.getOverlay k) d, none⟩ := by
  let overlays := v.populateOverlays (docs.rows.map Prod.fst)
  have overlay {k d} (e : docs.get k = some d) :
      overlays.get k = v.documentOverlayCache.getOverlay k := by
    change (v.populateOverlays _).get k = _
    rw [get_populateOverlays, if_pos (SortedTable.mem_keys.2 ⟨d, e⟩)]
  let again := recalculateDocuments docs overlays existenceStateChanged
  have getAgain {k} : again.get k =
      (docs.get k).bind fun d =>
        if recalculates overlays existenceStateChanged k then some d else none :=
    SortedTable.get_filterMap
  have names' : again.Named := by
    intro k d e
    rw [getAgain] at e
    obtain ⟨d', e', h⟩ := Option.bind_eq_some_iff.1 e
    split at h
    case isTrue =>
      cases h
      exact names e'
    case isFalse => cases h
  -- a document that is recalculated has no overlay, so no pending batch writes it
  have free {k d} (e : again.get k = some d) : docs.get k = some d ∧
      v.documentOverlayCache.getOverlay k = none := by
    rw [getAgain] at e
    obtain ⟨d', e', h⟩ := Option.bind_eq_some_iff.1 e
    split at h
    case isTrue hr =>
      cases h
      refine ⟨e', ?_⟩
      rw [recalculates, Bool.and_eq_true, Bool.not_eq_true', SortedTable.contains, overlay e'] at hr
      exact Option.isSome_eq_false_iff.1 hr.2 |> Option.isNone_iff_eq_none.1
    case isFalse => cases h
  obtain ⟨r, c', er, cc', getDocs, masks, get⟩ :=
    recalculateAndSaveOverlays_spec cv.queue cv.cache names'
  have same : SameView v { v with documentOverlayCache := c' } := by
    apply sameView_of_getOverlay cv cc'
    intro k
    rw [get]
    split
    case isTrue h =>
      obtain ⟨d, e⟩ := Option.isSome_iff_exists.1 h
      rw [← cv.overlays, (free e).2]
      rfl
    case isFalse => rfl
  refine ⟨overlayedDocuments (applyToDocuments docs overlays existenceStateChanged) r, _, ?_,
    same, ?_⟩
  · change (v.recalculateAndSaveOverlays again).map _ = _
    rw [er]
    rfl
  · intro k
    rw [overlayedDocuments, applyToDocuments, SortedTable.get_filterMap, SortedTable.get_filterMap,
      masks]
    cases e : docs.get k with
    | none => rfl
    | some d =>
      have ea := getAgain (k := k)
      rw [e, Option.bind_some] at ea
      rw [Option.bind_some, Option.bind_some, Option.map_some, overlay e]
      by_cases h : recalculates overlays existenceStateChanged k = true
      · rw [if_pos h] at ea
        rw [if_pos h, getDocs, ea, (free ea).2, Option.map_some, replay_eq, names e, ← cv.overlays,
          (free ea).2]
        rfl
      · rw [if_neg h] at ea
        rw [if_neg h, getDocs, ea]
        rfl

/-- The local view of some documents is these documents under their overlays. -/
lemma getLocalViewOfDocuments_spec (cv : v.Consistent) {docs : DocumentMap} (names : docs.Named)
    (existenceStateChanged : List DocumentKey) :
    ∃ m v', v.getLocalViewOfDocuments docs existenceStateChanged = some (m, v') ∧ SameView v v' ∧
      ∀ k, m.get k = (docs.get k).map (overlayed (v.documentOverlayCache.getOverlay k)) := by
  obtain ⟨res, v', e, same, get⟩ :=
    computeViews_spec cv names existenceStateChanged
  refine ⟨_, v', by rw [getLocalViewOfDocuments, e]; rfl, same, ?_⟩
  intro k
  rw [SortedTable.get_filterMap, get]
  cases docs.get k with
  | none => rfl
  | some d => rfl

/-- Reading some documents gives the replay of all pending batches. -/
lemma getDocuments_spec (cv : v.Consistent) (keys : List DocumentKey) :
    ∃ m v', v.getDocuments keys = some (m, v') ∧ SameView v v' ∧
      ∀ k, m.get k = if k ∈ keys then some (v.localView k) else none := by
  obtain ⟨m, v', e, same, get⟩ :=
    getLocalViewOfDocuments_spec cv (v.remoteDocumentCache.getAll_named keys) []
  refine ⟨m, v', e, same, ?_⟩
  intro k
  rw [get, RemoteDocumentCache.get_getAll, localView_eq cv]
  split
  case isTrue => rfl
  case isFalse => rfl

/-! ## The documents of a query -/

/-- Completing a table with a list of overlays: a key that has none leads to the bare document. -/
lemma get_foldl_complete {os : List (DocumentKey × Overlay)} {m : DocumentMap} {k : DocumentKey} :
    (os.foldl (fun m o => if m.contains o.1 then m else m.put o.1 (.invalidDocument o.1)) m).get k =
      (m.get k).or (if k ∈ os.map Prod.fst then some (.invalidDocument k) else none) := by
  induction os generalizing m with
  | nil =>
    change m.get k = (m.get k).or none
    rw [Option.or_none]
  | cons o os ih =>
    have mem : k ∈ (o :: os).map Prod.fst ↔ k = o.1 ∨ k ∈ os.map Prod.fst := List.mem_cons
    have rest (ne : k ≠ o.1) : (if k ∈ os.map Prod.fst then some (.invalidDocument k) else none) =
        if k ∈ (o :: os).map Prod.fst then some (MutableDocument.invalidDocument k) else none := by
      by_cases later : k ∈ os.map Prod.fst
      · rw [if_pos later, if_pos (mem.2 (.inr later))]
      · rw [if_neg later, if_neg fun h => (mem.1 h).elim ne later]
    rw [List.foldl_cons, ih]
    by_cases h : m.contains o.1 = true
    · rw [if_pos h]
      by_cases e : k = o.1
      · obtain ⟨d, ed⟩ := Option.isSome_iff_exists.1 h
        rw [e, ed]
        rfl
      · rw [rest e]
    · rw [if_neg h, SortedTable.get_put]
      by_cases e : k = o.1
      · have no : m.get o.1 = none := by
          rw [SortedTable.contains, Bool.not_eq_true] at h
          exact Option.isNone_iff_eq_none.1 (Option.isSome_eq_false_iff.1 h)
        rw [if_pos e, if_pos (mem.2 (.inl e)), e, no]
        rfl
      · rw [if_neg e, rest e]

/-- Looking up a document in a list that has at most one overlay for it. -/
lemma overlayIn_eq {os : List (DocumentKey × Overlay)} {k : DocumentKey} {o : Option Overlay}
    (mem : ∀ o', (k, o') ∈ os ↔ o = some o') : overlayIn os k = o := by
  rw [overlayIn]
  cases e : os.find? (fun x => decide (x.1 = k)) with
  | none =>
    cases o with
    | none => rfl
    | some o' =>
      exact absurd (decide_eq_true rfl) (List.find?_eq_none.1 e (k, o') ((mem o').2 rfl))
  | some x =>
    obtain ⟨k', o'⟩ := x
    have ek : decide (k' = k) = true :=
      List.find?_some (p := fun x : DocumentKey × Overlay => decide (x.1 = k)) e
    have ek := of_decide_eq_true ek
    subst ek
    exact ((mem o').1 (List.mem_of_find?_eq_some e)).symm

/-- The documents found for a query on a collection: those that match in the local view and that
    the cache returned or an overlay stands for. -/
lemma matchingCollectionQuery_spec (cv : v.Consistent) (query : CoreQuery) {offset : IndexOffset}
    (all : offset.largestBatchId = -1) :
    ∃ m, v.getDocumentsMatchingCollectionQuery query offset = some m ∧ ∀ k d, m.get k = some d ↔
      ∃ base, (((v.remoteDocumentCache.getAllIn query.path offset).get k = some base) ∨
          (v.remoteDocumentCache.getAllIn query.path offset).get k = none ∧
            base = .invalidDocument k ∧ k.collection = query.path ∧
              (v.documentOverlayCache.getOverlay k).isSome = true) ∧
        d = overlayed (if k.collection = query.path then v.documentOverlayCache.getOverlay k
          else none) base ∧ query.matches d = true := by
  obtain ⟨os, eos, mem⟩ := DocumentOverlayCache.getOverlays_eq cv.cache query.path
    offset.largestBatchId
  rw [all] at mem
  have lt (i : Nat) : (-1 : Int) < i := by omega
  have getIn (k : DocumentKey) : overlayIn os k =
      if k.collection = query.path then v.documentOverlayCache.getOverlay k else none := by
    apply overlayIn_eq
    intro o'
    rw [mem]
    split
    case isTrue h => exact ⟨And.left, fun e => ⟨e, h, lt _⟩⟩
    case isFalse h =>
      constructor
      · intro h'
        exact absurd h'.2.1 h
      · intro e
        cases e
  have memKeys (k : DocumentKey) : k ∈ os.map Prod.fst ↔
      k.collection = query.path ∧ (v.documentOverlayCache.getOverlay k).isSome = true := by
    rw [List.mem_map, Option.isSome_iff_exists]
    constructor
    · rintro ⟨⟨k', o⟩, mem', rfl⟩
      obtain ⟨e, col, _⟩ := (mem k' o).1 mem'
      exact ⟨col, o, e⟩
    · rintro ⟨col, o, e⟩
      exact ⟨(k, o), (mem k o).2 ⟨e, col, lt _⟩, rfl⟩
  refine ⟨applyOverlays query (v.remoteDocumentCache.getAllIn query.path offset) os, ?_, ?_⟩
  · rw [getDocumentsMatchingCollectionQuery, eos, Option.map_some]
  · intro k d
    rw [applyOverlays, SortedTable.get_filterMap, get_foldl_complete, Option.bind_eq_some_iff]
    apply exists_congr
    intro base
    rw [getIn]
    apply and_congr
    · cases (v.remoteDocumentCache.getAllIn query.path offset).get k with
      | some b => simp
      | none =>
        rw [Option.none_or]
        by_cases h : k ∈ os.map Prod.fst
        · rw [if_pos h]
          have h' := (memKeys k).1 h
          constructor
          · intro e
            cases e
            exact .inr ⟨rfl, rfl, h'⟩
          · rintro (e | ⟨_, rfl, _⟩)
            · cases e
            · rfl
        · rw [if_neg h]
          constructor
          · intro e
            cases e
          · rintro (e | ⟨_, _, h'⟩)
            · cases e
            · exact absurd ((memKeys k).2 h') h
    · generalize overlayed _ base = doc
      change (if query.matches doc = true then some doc else none) = some d ↔ _
      by_cases m : query.matches doc = true
      · rw [if_pos m]
        constructor
        · intro e
          cases e
          exact ⟨rfl, m⟩
        · rintro ⟨rfl, _⟩
          rfl
      · rw [if_neg m]
        constructor
        · intro e
          cases e
        · rintro ⟨rfl, m'⟩
          exact absurd m' m

end LocalDocumentsView

end Lumiere.Firestore.Client

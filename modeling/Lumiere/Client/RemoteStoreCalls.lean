import Lumiere.Client.RemoteStore
import Lumiere.Client.SyncEngineRun

/-!
# What the sync engine asks of the remote store

The limbo resolution begins and ends listens of its own in the middle of other operations; `calls`
is their history. The remote store can answer all of them in order and is then `Tied` to the tables
of the limbo resolution again: it listens to the same targets, and for a document in limbo it knows
whether the server has sent it, and nothing else (`Calls`). So what the stream says of documents in
limbo fits what the limbo resolution knows of them (`Tied.accepts`).
-/

namespace Lumiere.Firestore.Client

namespace RemoteStore

variable {r r' : RemoteStore} {t : TargetId} {target : ListenTarget}

/-- A call of the sync engine; `known` are the documents that the view of a new target begins
    with. -/
def call (known : TargetId → DocumentKeySet) (r : RemoteStore) :
    RemoteStoreCall → Option RemoteStore
  | .listen data => some (r.listen ⟨data, known data.targetId⟩)
  | .stopListening t => r.stopListening t

/-- A new target. -/
lemma listen_listenTargets (new : r.listenTargets.contains target.data.targetId = false) :
    (r.listen target).listenTargets = r.listenTargets.put target.data.targetId target := by
  rw [listen, new, if_neg Bool.false_ne_true]
  dsimp only
  split <;> rfl

/-- A target that is given up. -/
lemma stopListening_listenTargets (e : r.stopListening t = some r') :
    r'.listenTargets = r.listenTargets.delete t := by
  rw [stopListening] at e
  split at e
  case isTrue =>
    rw [← Option.some.inj e]
    dsimp only
    split <;> rfl
  case isFalse => cases e

/-- What is known of a target, and what is asked about it, are the same. -/
def Alike (r r' : RemoteStore) (t : TargetId) : Prop :=
  r'.remoteKeys t = r.remoteKeys t ∧
    r'.watchChangeAggregator.outstanding t = r.watchChangeAggregator.outstanding t

/-- Two steps that leave a target alone. -/
lemma Alike.trans {r1 r2 r3 : RemoteStore} (h1 : Alike r1 r2 t) (h2 : Alike r2 r3 t) :
    Alike r1 r3 t :=
  ⟨h2.1.trans h1.1, h2.2.trans h1.2⟩

/-- A request is about one target. -/
lemma outstanding_sendWatchRequest {u : TargetId} (other : u ≠ t) :
    (r.sendWatchRequest t).watchChangeAggregator.outstanding u =
      r.watchChangeAggregator.outstanding u :=
  WatchChangeAggregator.outstanding_congr
    (WatchChangeAggregator.about_recordPendingTargetRequest.others u other)

/-- A new target is none of the others. -/
lemma alike_listen {u : TargetId} (other : u ≠ target.data.targetId) :
    Alike r (r.listen target) u := by
  refine ⟨(listen_remoteKeys target u).trans (if_neg other), ?_⟩
  rw [listen]
  split
  case isTrue => rfl
  case isFalse =>
    dsimp only
    split
    case isTrue => exact outstanding_sendWatchRequest other
    case isFalse => rfl

/-- A target that is given up is none of the others. -/
lemma alike_stopListening {u : TargetId} (e : r.stopListening t = some r') (other : u ≠ t) :
    Alike r r' u := by
  refine ⟨(stopListening_remoteKeys e u).trans (if_neg other), ?_⟩
  rw [stopListening] at e
  split at e
  case isTrue =>
    rw [← Option.some.inj e]
    dsimp only
    split
    case isTrue => exact outstanding_sendWatchRequest other
    case isFalse => rfl
  case isFalse => cases e

/-- A refused target. -/
lemma processTargetErrorOf_listenTargets (there : r.listenTargets.contains t = true) :
    (r.processTargetErrorOf t).listenTargets = r.listenTargets.delete t := by
  rw [processTargetErrorOf, if_pos there]

end RemoteStore

namespace LimboTracker

variable {l l' l1 l2 : LimboTracker} {r r' : RemoteStore} {named : TargetId → DocumentKeySet}
  {key : DocumentKey} {t : Nat}

/-- The stream listens to the targets of the tables, and of a document in limbo it knows whether the
    server has sent it. The server has named no other document for its target, and none for a number
    that is not in use. -/
structure Tied (l : LimboTracker) (r : RemoteStore) (named : TargetId → DocumentKeySet) : Prop where
  targets : ∀ t, r.listenTargets.contains t = l.listenTargets.contains t
  limbo : ∀ t limboResolution, l.activeLimboResolutionsByTarget.get t = some limboResolution →
    ∃ target, r.listenTargets.get t = some target ∧
      target.data = ⟨.ofPath limboResolution.key.path, t, .limboResolution⟩ ∧
      ∀ k, target.remoteKeys.contains k = true ↔
        limboResolution.documentReceived = true ∧ k = limboResolution.key
  own : ∀ t limboResolution, l.activeLimboResolutionsByTarget.get t = some limboResolution →
    ∀ k, (named t).contains k = true → k = limboResolution.key
  unnamed : ∀ t : Nat, l.targetIdGenerator ≤ t → t % 2 = 1 → ∀ k, (named t).contains k = false

/-- Only three of the tables count. -/
lemma Tied.congr (h : Tied l r named) (targets : l'.listenTargets = l.listenTargets)
    (active : l'.activeLimboResolutionsByTarget = l.activeLimboResolutionsByTarget)
    (generator : l'.targetIdGenerator = l.targetIdGenerator) : Tied l' r named where
  targets t := by
    rw [targets]
    exact h.targets t
  limbo := by
    rw [active]
    exact h.limbo
  own := by
    rw [active]
    exact h.own
  unnamed := by
    rw [generator]
    exact h.unnamed

/-- The stream begins to listen to a target that the tables have got, perhaps for a document of
    which nothing is known. -/
lemma Tied.listen (h : Tied l r named) {data : TargetData} {keys : DocumentKeySet}
    (new : l.listenTargets.contains data.targetId = false)
    (targets : l1.listenTargets = l.listenTargets.put data.targetId data)
    (active : ∀ t limboResolution, l1.activeLimboResolutionsByTarget.get t = some limboResolution →
      l.activeLimboResolutionsByTarget.get t = some limboResolution ∨
        t = data.targetId ∧ limboResolution.documentReceived = false ∧
          data = ⟨.ofPath limboResolution.key.path, t, .limboResolution⟩ ∧
          keys = SortedTable.empty ∧ ∀ k, (named t).contains k = false)
    (generator : l.targetIdGenerator ≤ l1.targetIdGenerator) :
    Tied l1 (r.listen ⟨data, keys⟩) named := by
  have put : (r.listen ⟨data, keys⟩).listenTargets =
      r.listenTargets.put data.targetId ⟨data, keys⟩ :=
    RemoteStore.listen_listenTargets ((h.targets data.targetId).trans new)
  constructor
  case targets =>
    intro t
    have old := h.targets t
    rw [SortedTable.contains, SortedTable.contains] at old
    rw [put, targets, SortedTable.contains, SortedTable.contains, SortedTable.get_put,
      SortedTable.get_put]
    split
    case isTrue => rfl
    case isFalse => exact old
  case limbo =>
    intro t limboResolution e
    rw [put, SortedTable.get_put]
    rcases active t limboResolution e with old | ⟨ours, received, target, none_, _⟩
    · obtain ⟨target, there, known⟩ := h.limbo t limboResolution old
      rw [if_neg]
      · exact ⟨target, there, known⟩
      · intro ours
        have no := (h.targets data.targetId).trans new
        rw [← ours, SortedTable.contains, there] at no
        cases no
    · refine ⟨_, if_pos ours, target, fun k => ?_⟩
      rw [none_, received]
      exact iff_of_false Bool.false_ne_true fun h => Bool.false_ne_true h.1
  case own =>
    intro t limboResolution e k mem
    rcases active t limboResolution e with old | ⟨_, _, _, _, no⟩
    · exact h.own t limboResolution old k mem
    · cases (no k).symm.trans mem
  case unnamed => exact fun t le => h.unnamed t (generator.trans le)

/-- The stream has given up a target that is no longer in the tables. -/
lemma Tied.drop (h : Tied l r named)
    (gone : r'.listenTargets = r.listenTargets.delete t)
    (targets : l1.listenTargets = l.listenTargets.delete t)
    (active : ∀ u limboResolution, l1.activeLimboResolutionsByTarget.get u = some limboResolution →
      u ≠ t ∧ l.activeLimboResolutionsByTarget.get u = some limboResolution)
    (generator : l1.targetIdGenerator = l.targetIdGenerator) : Tied l1 r' named := by
  constructor
  case targets =>
    intro u
    have old := h.targets u
    rw [SortedTable.contains, SortedTable.contains] at old
    rw [gone, targets, SortedTable.contains, SortedTable.contains, SortedTable.get_delete,
      SortedTable.get_delete]
    split
    case isTrue => rfl
    case isFalse => exact old
  case limbo =>
    intro u limboResolution e
    obtain ⟨other, e⟩ := active u limboResolution e
    rw [gone, SortedTable.get_delete, if_neg other]
    exact h.limbo u limboResolution e
  case own =>
    intro u limboResolution e
    exact h.own u limboResolution (active u limboResolution e).2
  case unnamed => exact fun u le => h.unnamed u (generator.symm.trans_le le)

/-- The calls that have been made between two states of the tables keep the stream tied to them and
    leave what is known of the queries. -/
def Calls (l l' : LimboTracker) : Prop :=
  ∃ cs, l'.calls = l.calls ++ cs ∧ ∀ known r named, Tied l r named → r.Follows named →
    (∀ t : Nat, t % 2 = 1 → known t = SortedTable.empty) →
    ∃ r', cs.foldlM (RemoteStore.call known) r = some r' ∧ Tied l' r' named ∧ r'.Follows named ∧
      ∀ t : Nat, t % 2 = 0 → r.Alike r' t

/-- No call is made for what is not in the three tables. -/
lemma Calls.of_same (calls : l'.calls = l.calls) (targets : l'.listenTargets = l.listenTargets)
    (active : l'.activeLimboResolutionsByTarget = l.activeLimboResolutionsByTarget)
    (generator : l'.targetIdGenerator = l.targetIdGenerator) : Calls l l' := by
  refine ⟨[], calls.trans (List.append_nil _).symm, ?_⟩
  intro known r named tied follows _
  exact ⟨r, rfl, tied.congr targets active generator, follows, fun _ _ => ⟨rfl, rfl⟩⟩

/-- Nothing is asked for. -/
lemma Calls.refl : Calls l l :=
  .of_same rfl rfl rfl rfl

/-- The calls of two steps, one after the other. -/
lemma Calls.trans (h1 : Calls l l1) (h2 : Calls l1 l2) : Calls l l2 := by
  obtain ⟨cs1, e1, run1⟩ := h1
  obtain ⟨cs2, e2, run2⟩ := h2
  refine ⟨cs1 ++ cs2, by rw [e2, e1, List.append_assoc], ?_⟩
  intro known r named tied follows none_
  obtain ⟨r1, er1, tied1, follows1, same1⟩ := run1 known r named tied follows none_
  obtain ⟨r2, er2, tied2, follows2, same2⟩ := run2 known r1 named tied1 follows1 none_
  refine ⟨r2, ?_, tied2, follows2, fun t even => (same1 t even).trans (same2 t even)⟩
  rw [List.foldlM_append, er1]
  exact er2

/-- The calls go on from those that have been made. -/
lemma Calls.run (calls : Calls l1 l') (cs1 : List RemoteStoreCall)
    (known : TargetId → DocumentKeySet) {r1 : RemoteStore} (before : l1.calls = l.calls ++ cs1)
    (run1 : cs1.foldlM (RemoteStore.call known) r = some r1) (tied : Tied l1 r1 named)
    (follows : r1.Follows named) (none_ : ∀ t : Nat, t % 2 = 1 → known t = SortedTable.empty) :
    ∃ cs r', l'.calls = l.calls ++ cs ∧ cs.foldlM (RemoteStore.call known) r = some r' ∧
      Tied l' r' named ∧ r'.Follows named ∧ ∀ t : Nat, t % 2 = 0 → r1.Alike r' t := by
  obtain ⟨cs2, e2, run2⟩ := calls
  obtain ⟨r2, er2, tied2, follows2, same2⟩ := run2 known r1 named tied follows none_
  refine ⟨cs1 ++ cs2, r2, by rw [e2, before, List.append_assoc], ?_, tied2, follows2, same2⟩
  rw [List.foldlM_append, run1]
  exact er2

/-! ## Starting and ending resolutions -/

/-- The next number goes to the document, of which nothing is known. -/
lemma calls_startResolution (td : l.Tidy) : Calls l (l.startResolution key) := by
  rw [startResolution_eq td]
  refine ⟨_, rfl, ?_⟩
  intro known r named tied follows none_
  have odd := td.generator
  refine ⟨_, rfl, tied.listen td.fresh.1 rfl ?_ (Nat.le_add_right _ 2),
    RemoteStore.listen_follows follows _, ?_⟩
  · intro t limboResolution e
    rw [SortedTable.get_put] at e
    split at e
    case isTrue ours =>
      cases e
      subst ours
      exact .inr ⟨rfl, rfl, rfl, none_ _ odd, tied.unnamed _ le_rfl odd⟩
    case isFalse => exact .inl e
  · intro t even
    apply RemoteStore.alike_listen
    intro ours
    change t = l.targetIdGenerator at ours
    omega

/-- As many resolutions begin as there are places. -/
lemma calls_pump {n : Nat} (td : l.Tidy) : Calls l (pump n l) := by
  induction n generalizing l with
  | zero => exact .refl
  | succ n ih =>
    rw [pump]
    split
    case h_1 => exact .refl
    case h_2 key rest first =>
      split
      case isTrue place =>
        exact (calls_startResolution td).trans (ih (startResolution_spec td first place).1)
      case isFalse => exact .refl

/-- The resolution that ends is no longer in the table. -/
lemma of_get_delete {limboResolution : LimboResolution} {u : TargetId}
    (e : (l.activeLimboResolutionsByTarget.delete t).get u = some limboResolution) :
    u ≠ t ∧ l.activeLimboResolutionsByTarget.get u = some limboResolution := by
  rw [SortedTable.get_delete] at e
  split at e
  case isTrue => cases e
  case isFalse other => exact ⟨other, e⟩

/-- The target of a document is watched no longer. -/
lemma calls_endResolution (td : l.Tidy) (active : l.activeLimboTargetsByKey.get key = some t)
    (queue : RandomAccessQueue DocumentKey) :
    Calls l (l.endResolution key t queue (l.calls ++ [.stopListening t])) := by
  refine ⟨[.stopListening t], rfl, ?_⟩
  intro known r named tied follows _
  obtain ⟨watched, odd, _⟩ := td.watched t (contains_active td active)
  obtain ⟨r', e, follows'⟩ := RemoteStore.stopListening_follows follows
    ((tied.targets t).trans watched)
  refine ⟨r', ?_, ?_, follows', ?_⟩
  · change Option.bind (r.stopListening t) _ = _
    rw [e]
    rfl
  · exact tied.drop (RemoteStore.stopListening_listenTargets e) rfl
      (fun u limboResolution e => of_get_delete e) rfl
  · intro u even
    apply RemoteStore.alike_stopListening e
    rintro rfl
    omega

/-- The resolution of a document ends, and others begin. -/
lemma calls_removeLimboTarget (td : l.Tidy) (e : l.removeLimboTarget key = some l') :
    Calls l l' := by
  rw [removeLimboTarget] at e
  dsimp only at e
  cases active : l.activeLimboTargetsByKey.get key with
  | none =>
    rw [active] at e
    rw [← Option.some.inj e]
    exact .of_same rfl rfl rfl rfl
  | some t =>
    rw [active] at e
    have watched := (td.watched t (contains_active td active)).1
    change Option.bind (if l.listenTargets.contains t = true then some _ else none) _ = _ at e
    rw [if_pos watched] at e
    rw [← Option.some.inj e]
    have ends := td.endResolution active (l.enqueuedLimboResolutions.remove key)
      (fun _ mem => List.mem_of_mem_erase mem) (l.calls ++ [.stopListening t])
    exact (calls_endResolution td active _).trans (calls_pump ends)

/-- The same, unless some view has the document in limbo. -/
lemma calls_removeUnreferenced (td : l.Tidy) (e : l.removeUnreferenced key = some l') :
    Calls l l' := by
  rw [removeUnreferenced] at e
  split at e
  case isTrue => exact calls_removeLimboTarget td e
  case isFalse =>
    cases e
    exact .refl

/-! ## What happens to a document in limbo -/

/-- A document comes into limbo. -/
lemma calls_trackLimboChange (td : l.Tidy) : Calls l (l.trackLimboChange key) := by
  rw [trackLimboChange]
  split
  case isTrue => exact .refl
  case isFalse active =>
    rw [SortedTable.contains, Option.not_isSome_iff_eq_none] at active
    rw [RandomAccessQueue.pushBack]
    by_cases waits : key ∈ l.enqueuedLimboResolutions.elements
    · rw [dif_pos waits]
      exact .refl
    · rw [dif_neg waits]
      dsimp only
      refine .trans ?_ (calls_pump (td.enqueue active _))
      exact .of_same rfl rfl rfl rfl

/-- One report of a view. -/
lemma calls_updateTrackedLimboDocument {id : TargetId} {c : LimboDocumentChange} (tr : l.Tracks)
    (e : updateTrackedLimboDocument id l c = some l') : Calls l l' := by
  cases c with
  | added key =>
    rw [← Option.some.inj e]
    have td : Tidy { l with limboDocumentRefs := l.limboDocumentRefs.addReference key id } :=
      { tr.toTidy with }
    refine .trans ?_ (calls_trackLimboChange td)
    exact .of_same rfl rfl rfl rfl
  | removed key =>
    have td : Tidy { l with limboDocumentRefs := l.limboDocumentRefs.removeReference key id } :=
      { tr.toTidy with }
    refine .trans ?_ (calls_removeUnreferenced td e)
    exact .of_same rfl rfl rfl rfl

/-- All reports of a view. -/
lemma calls_updateTrackedLimboDocuments {id : TargetId} {cs : List LimboDocumentChange}
    (tr : l.Tracks) (e : l.updateTrackedLimboDocuments cs id = some l') : Calls l l' := by
  rw [updateTrackedLimboDocuments] at e
  induction cs generalizing l with
  | nil =>
    cases e
    exact .refl
  | cons c cs ih =>
    rw [List.foldlM_cons] at e
    obtain ⟨l1, e1, e2⟩ := Option.bind_eq_some_iff.1 e
    obtain ⟨l2, e3, steps, _⟩ := updateTrackedLimboDocument_spec id tr c
    cases e1.symm.trans e3
    exact (calls_updateTrackedLimboDocument tr e1).trans (ih steps.tracks e2)

/-- Several resolutions may end. -/
lemma calls_foldlM_removeUnreferenced {keys : List DocumentKey} (td : l.Tidy) (busy : l.Busy)
    (e : keys.foldlM removeUnreferenced l = some l') : Calls l l' := by
  induction keys generalizing l with
  | nil =>
    cases e
    exact .refl
  | cons key keys ih =>
    rw [List.foldlM_cons] at e
    obtain ⟨l1, e1, e2⟩ := Option.bind_eq_some_iff.1 e
    obtain ⟨l2, e3, td2, busy2, _⟩ := removeUnreferenced_spec key td busy
    cases e1.symm.trans e3
    exact (calls_removeUnreferenced td e1).trans (ih td2 busy2 e2)

/-- The view of a query is gone. -/
lemma calls_removeAndCleanupTarget {id : TargetId} (tr : l.Tracks)
    (e : l.removeAndCleanupTarget id = some l') : Calls l l' := by
  have td : Tidy { l with limboDocumentRefs := l.limboDocumentRefs.removeReferences id } :=
    { tr.toTidy with }
  refine .trans ?_ (calls_foldlM_removeUnreferenced td tr.busy e)
  exact .of_same rfl rfl rfl rfl

/-- A target that is refused is given up by the stream on its own, before the calls. -/
lemma calls_handleRejectedListen (tr : l.Tracks) (watched : l.listenTargets.contains t = true)
    {refused : Option DocumentKey} (e : l.handleRejectedListen t = some (l', refused)) :
    ∃ l1, l1.calls = l.calls ∧ Calls l1 l' ∧
      ∀ r named, Tied l r named → Tied l1 (r.processTargetErrorOf t) named := by
  have drops (l1 : LimboTracker) (targets : l1.listenTargets = l.listenTargets.delete t)
      (active : ∀ u limboResolution,
        l1.activeLimboResolutionsByTarget.get u = some limboResolution →
          u ≠ t ∧ l.activeLimboResolutionsByTarget.get u = some limboResolution)
      (generator : l1.targetIdGenerator = l.targetIdGenerator) (r : RemoteStore)
      (named : TargetId → DocumentKeySet) (tied : Tied l r named) :
      Tied l1 (r.processTargetErrorOf t) named :=
    tied.drop (RemoteStore.processTargetErrorOf_listenTargets ((tied.targets t).trans watched))
      targets active generator
  rw [handleRejectedListen, watched] at e
  simp only [Bool.not_true, Bool.false_eq_true, ↓reduceIte] at e
  cases active : l.activeLimboResolutionsByTarget.get t with
  | some limboResolution =>
    rw [active] at e
    cases e
    have byKey : l.activeLimboTargetsByKey.get limboResolution.key = some t := by
      rw [tr.inverse, active]
      rfl
    have ends := tr.toTidy.endResolution byKey l.enqueuedLimboResolutions (fun _ mem => mem)
      l.calls
    exact ⟨l.endResolution limboResolution.key t l.enqueuedLimboResolutions l.calls, rfl,
      calls_pump ends, drops _ rfl (fun u limboResolution e => of_get_delete e) rfl⟩
  | none =>
    rw [active] at e
    obtain ⟨l2, e2, e3⟩ := Option.map_eq_some_iff.1 e
    cases e3
    have no : l.activeLimboResolutionsByTarget.contains t = false := by
      rw [SortedTable.contains, active]
      rfl
    refine ⟨{ l with listenTargets := l.listenTargets.delete t }, rfl,
      calls_removeAndCleanupTarget (tr.forget no l.calls) e2, drops _ rfl ?_ rfl⟩
    intro u limboResolution e
    refine ⟨?_, e⟩
    rintro rfl
    cases active.symm.trans e

/-! ## Events -/

/-- The documents of a target after a change. -/
lemma contains_syncedAfter {c : TargetChange} {remote : DocumentKeySet} {k : DocumentKey} :
    (View.syncedAfter remote (some c)).contains k = true ↔
      k ∉ c.removedDocuments ∧ (k ∈ c.addedDocuments ∨ remote.contains k = true) := by
  rw [View.syncedAfter, contains_delete_all, Bool.and_eq_true, Bool.not_eq_true',
    decide_eq_false_iff_not, View.contains_put_all]

/-- An event that fits says at most one thing of a document in limbo, and leads to what is known of
    it then. -/
lemma receive_fits {limboResolution : LimboResolution} {c : TargetChange}
    {remote keys : DocumentKeySet}
    (known : ∀ k, remote.contains k = true ↔
      limboResolution.documentReceived = true ∧ k = limboResolution.key)
    (own : ∀ k, keys.contains k = true → k = limboResolution.key) (fits : c.Fits remote)
    (leads : ∀ k, (View.syncedAfter remote (some c)).contains k = keys.contains k) :
    ∃ limboResolution', receive limboResolution c = some limboResolution' ∧
      limboResolution'.key = limboResolution.key ∧
      ∀ k, (View.syncedAfter remote (some c)).contains k = true ↔
        limboResolution'.documentReceived = true ∧ k = limboResolution'.key := by
  obtain ⟨key, received⟩ := limboResolution
  obtain ⟨modified, removed, once⟩ := fits
  -- all that is said is said of the document
  have of (k : DocumentKey)
      (mem : k ∈ c.addedDocuments ++ (c.modifiedDocuments ++ c.removedDocuments)) : k = key := by
    rcases List.mem_append.1 mem with mem | mem
    · apply own k
      rw [← leads, contains_syncedAfter]
      refine ⟨fun mem' => ?_, .inl mem⟩
      exact (List.disjoint_of_nodup_append once) mem (List.mem_append_right _ mem')
    · rcases List.mem_append.1 mem with mem | mem
      · exact ((known k).1 (modified k mem)).2
      · exact ((known k).1 (removed k mem)).2
  have short := List.nodup_replicate.1 (List.eq_replicate_of_mem of ▸ once)
  obtain ⟨current, addedDocuments, modifiedDocuments, removedDocuments⟩ := c
  simp only [List.length_append] at short
  simp only [contains_syncedAfter]
  rw [receive, if_pos (by dsimp only; omega)]
  cases addedDocuments with
  | cons k1 rest =>
    obtain rfl : k1 = key := of k1 List.mem_cons_self
    obtain rfl : rest = [] := List.length_eq_zero_iff.1 (by grind)
    obtain rfl : removedDocuments = [] := List.length_eq_zero_iff.1 (by grind)
    refine ⟨⟨k1, true⟩, rfl, rfl, fun k => ?_⟩
    simp [known]
  | nil =>
    cases modifiedDocuments with
    | cons k1 rest =>
      obtain ⟨rfl, rfl⟩ := (known k1).1 (modified k1 List.mem_cons_self)
      obtain rfl : removedDocuments = [] := List.length_eq_zero_iff.1 (by grind)
      refine ⟨⟨k1, true⟩, rfl, rfl, fun k => ?_⟩
      simp [known]
    | nil =>
      cases removedDocuments with
      | cons k1 rest =>
        obtain ⟨rfl, rfl⟩ := (known k1).1 (removed k1 List.mem_cons_self)
        obtain rfl : rest = [] := List.length_eq_zero_iff.1 (by grind)
        refine ⟨⟨k1, false⟩, rfl, rfl, fun k => ?_⟩
        simp [known]
      | nil =>
        refine ⟨⟨key, received⟩, rfl, rfl, fun k => ?_⟩
        simp [known]

/-- What one row of an event does to the resolutions. -/
lemma receiveTargetChange_inv {row : TargetId × TargetChange}
    (e : l.receiveTargetChange row = some l') :
    (l'.calls = l.calls ∧ l'.listenTargets = l.listenTargets ∧
      l'.targetIdGenerator = l.targetIdGenerator) ∧
      (∀ t, t ≠ row.1 → l'.activeLimboResolutionsByTarget.get t =
        l.activeLimboResolutionsByTarget.get t) ∧
      ∀ limboResolution', l'.activeLimboResolutionsByTarget.get row.1 = some limboResolution' →
        ∃ limboResolution, l.activeLimboResolutionsByTarget.get row.1 = some limboResolution ∧
          receive limboResolution row.2 = some limboResolution' := by
  rw [receiveTargetChange] at e
  cases active : l.activeLimboResolutionsByTarget.get row.1 with
  | none =>
    rw [active] at e
    cases e
    exact ⟨⟨rfl, rfl, rfl⟩, fun _ _ => rfl, fun _ there => by cases active.symm.trans there⟩
  | some limboResolution =>
    rw [active] at e
    obtain ⟨limboResolution', received, rfl⟩ := Option.map_eq_some_iff.1 e
    refine ⟨⟨rfl, rfl, rfl⟩, fun t ne => SortedTable.get_put.trans (if_neg ne), ?_⟩
    intro limboResolution'' there
    cases (SortedTable.get_put.trans (if_pos rfl)).symm.trans there
    exact ⟨limboResolution, rfl, received⟩

/-- What the rows of an event do to the resolutions; each target has one row at most. -/
lemma receiveTargetChanges_inv {rows : List (TargetId × TargetChange)}
    (distinct : rows.Pairwise fun a b => a.1 ≠ b.1)
    (e : rows.foldlM receiveTargetChange l = some l') :
    (l'.calls = l.calls ∧ l'.listenTargets = l.listenTargets ∧
      l'.targetIdGenerator = l.targetIdGenerator) ∧
      ∀ t limboResolution', l'.activeLimboResolutionsByTarget.get t = some limboResolution' →
        ∃ limboResolution, l.activeLimboResolutionsByTarget.get t = some limboResolution ∧
          ((∃ c, (t, c) ∈ rows ∧ receive limboResolution c = some limboResolution') ∨
            (∀ c, (t, c) ∉ rows) ∧ limboResolution = limboResolution') := by
  induction rows generalizing l with
  | nil =>
    cases e
    exact ⟨⟨rfl, rfl, rfl⟩, fun t limboResolution there =>
      ⟨limboResolution, there, .inr ⟨fun _ => List.not_mem_nil, rfl⟩⟩⟩
  | cons row rows ih =>
    rw [List.pairwise_cons] at distinct
    rw [List.foldlM_cons] at e
    obtain ⟨l1, e1, e2⟩ := Option.bind_eq_some_iff.1 e
    obtain ⟨⟨calls1, targets1, generator1⟩, others, here⟩ := receiveTargetChange_inv e1
    obtain ⟨⟨calls2, targets2, generator2⟩, rest⟩ := ih distinct.2 e2
    refine ⟨⟨calls2.trans calls1, targets2.trans targets1, generator2.trans generator1⟩, ?_⟩
    intro t limboResolution' there
    obtain ⟨limboResolution, there1, said⟩ := rest t limboResolution' there
    by_cases ours : t = row.1
    · subst ours
      obtain ⟨before, there0, received⟩ := here limboResolution there1
      refine ⟨before, there0, .inl ⟨row.2, List.mem_cons_self, ?_⟩⟩
      rcases said with ⟨c, mem, _⟩ | ⟨_, same⟩
      · exact absurd rfl (distinct.1 (row.1, c) mem)
      · rw [← same]
        exact received
    · refine ⟨limboResolution, (others t ours).symm.trans there1, ?_⟩
      refine said.imp ?_ ?_
      · rintro ⟨c, mem, received⟩
        exact ⟨c, List.mem_cons_of_mem _ mem, received⟩
      · rintro ⟨out, same⟩
        refine ⟨fun c mem => ?_, same⟩
        rcases List.mem_cons.1 mem with here' | mem
        · exact ours (congrArg Prod.fst here')
        · exact out c mem

/-- What an event does to the resolutions. -/
lemma applyRemoteEvent_inv {e : RemoteEvent} (made : l.applyRemoteEvent e = some l') :
    (l'.calls = l.calls ∧ l'.listenTargets = l.listenTargets ∧
      l'.targetIdGenerator = l.targetIdGenerator) ∧
      ∀ t limboResolution', l'.activeLimboResolutionsByTarget.get t = some limboResolution' →
        ∃ limboResolution, l.activeLimboResolutionsByTarget.get t = some limboResolution ∧
          (e.targetChanges.get t).elim (some limboResolution) (receive limboResolution) =
            some limboResolution' := by
  obtain ⟨same, said⟩ := receiveTargetChanges_inv e.targetChanges.distinct_rows made
  refine ⟨same, ?_⟩
  intro t limboResolution' there
  obtain ⟨limboResolution, before, ⟨c, mem, received⟩ | ⟨out, rfl⟩⟩ :=
    said t limboResolution' there
  · refine ⟨limboResolution, before, ?_⟩
    rw [SortedTable.get_eq_some.2 mem]
    exact received
  · refine ⟨limboResolution, before, ?_⟩
    cases change : e.targetChanges.get t with
    | none => rfl
    | some c => exact absurd (SortedTable.get_eq_some.1 change) (out c)

/-- The events of the stream fit what the limbo resolution knows. -/
lemma Tied.accepts (tied : Tied l r named) {e : RemoteEvent} (raises : r.Raises e r' named)
    {row : TargetId × TargetChange} (mem : row ∈ e.targetChanges.rows) : l.Accepts row := by
  intro limboResolution there
  obtain ⟨target, listened, _, known⟩ := tied.limbo row.1 limboResolution there
  obtain ⟨fits, leads⟩ :=
    raises.fits row.1 target listened row.2 (SortedTable.get_eq_some.2 mem)
  obtain ⟨_, received, _⟩ := receive_fits known (tied.own row.1 limboResolution there) fits leads
  exact Option.isSome_iff_exists.2 ⟨_, received⟩

/-- An event keeps the stream tied to the tables. -/
lemma Tied.applyRemoteEvent (tied : Tied l r named) {e : RemoteEvent}
    (raises : r.Raises e r' named) (made : l.applyRemoteEvent e = some l') :
    Tied l' r' named := by
  obtain ⟨⟨_, targets, generator⟩, said⟩ := applyRemoteEvent_inv made
  constructor
  case targets =>
    intro t
    have before := tied.targets t
    rw [SortedTable.contains] at before ⊢
    rw [raises.targets, Option.isSome_map, targets]
    exact before
  case limbo =>
    intro t limboResolution' there
    obtain ⟨limboResolution, before, received⟩ := said t limboResolution' there
    obtain ⟨target, listened, query, known⟩ := tied.limbo t limboResolution before
    rw [raises.targets, listened]
    cases change : e.targetChanges.get t with
    | none =>
      rw [change] at received
      cases received
      exact ⟨_, rfl, query, known⟩
    | some c =>
      rw [change] at received
      obtain ⟨fits, leads⟩ := raises.fits t target listened c change
      obtain ⟨limboResolution'', received', key, after⟩ :=
        receive_fits known (tied.own t limboResolution before) fits leads
      cases received'.symm.trans received
      exact ⟨_, rfl, key ▸ query, after⟩
  case own =>
    intro t limboResolution' there k mem
    obtain ⟨limboResolution, before, received⟩ := said t limboResolution' there
    rw [tied.own t limboResolution before k mem]
    cases change : e.targetChanges.get t with
    | none =>
      rw [change] at received
      cases received
      rfl
    | some c =>
      rw [change] at received
      exact (key_receive received).symm
  case unnamed =>
    rw [generator]
    exact tied.unnamed

/-! ## Messages -/

/-- The server sends for the target of a document in limbo only this document. -/
def Single (p : TargetMetadataProvider) : WatchChange → Prop
  | .document c => ∀ t ∈ c.updatedTargetIds, ∀ data ∈ p.getTargetDataForTarget t,
    data.purpose = .limboResolution → data.target.path = c.documentKey.path
  | _ => True

instance (p : TargetMetadataProvider) (m : WatchChange) : Decidable (Single p m) :=
  match m with
  | .document c =>
    decidable_of_iff ((c.updatedTargetIds.all fun t => (p.getTargetDataForTarget t).all fun data =>
      data.purpose != .limboResolution || data.target.path == c.documentKey.path) = true) (by
        simp only [Single, List.all_eq_true, Option.all_eq_true, Bool.or_eq_true, bne_iff_ne,
          beq_iff_eq, Option.mem_def, ← imp_iff_not_or])
  | .existenceFilter _ _ => .isTrue trivial
  | .targetChange _ _ _ => .isTrue trivial

/-- A message names only the document that it brings. -/
lemma contains_hear {target : CoreQuery} {d : Told} {m : WatchChange} {k : DocumentKey}
    (mem : (Told.hear t target d m).keys.contains k = true) :
    d.keys.contains k = true ∨
      ∃ c, m = .document c ∧ t ∈ c.updatedTargetIds ∧ c.documentKey = k := by
  have take {d : Told} {key : DocumentKey} (mem : (d.take key).keys.contains k = true) :
      d.keys.contains k = true := by
    rw [Told.take, contains_delete_key, Bool.and_eq_true] at mem
    exact mem.2
  have silence : ¬ (Told.silence.keys.contains k = true) := fun no => by cases no
  cases m with
  | document c =>
    rw [Told.hear] at mem
    have up (mem : (if t ∈ c.updatedTargetIds then d.updated c else d).keys.contains k = true) :
        d.keys.contains k = true ∨ ∃ c', WatchChange.document c = .document c' ∧
          t ∈ c'.updatedTargetIds ∧ c'.documentKey = k := by
      split at mem
      case isFalse => exact .inl mem
      case isTrue ours =>
        rw [Told.updated] at mem
        split at mem
        case h_2 => exact .inl mem
        case h_1 =>
          split at mem
          case isTrue =>
            rw [Told.put, contains_put_key, Bool.or_eq_true, decide_eq_true_iff] at mem
            exact mem.symm.imp_right fun e => ⟨c, rfl, ours, e.symm⟩
          case isFalse =>
            split at mem
            case isTrue => exact .inl (take mem)
            case isFalse => exact .inl mem
    split at mem
    case isTrue => exact up (take mem)
    case isFalse => exact up mem
  | existenceFilter t' count =>
    left
    rw [Told.hear] at mem
    split at mem
    case isFalse => exact mem
    case isTrue =>
      split at mem
      case h_1 =>
        split at mem
        case isTrue => exact take mem
        case isFalse => exact mem
      case h_2 =>
        split at mem
        case isTrue => exact absurd mem silence
        case isFalse => exact mem
  | targetChange state targetIds resumeToken =>
    left
    rw [Told.hear] at mem
    split at mem
    case isFalse => exact mem
    case isTrue =>
      cases state with
      | reset => exact absurd mem silence
      | _ => exact mem

/-- Whatever the server says, it names no other document for the target of a document in limbo. -/
lemma Tied.hear (tied : Tied l r named) (td : l.Tidy) {m : WatchChange}
    (single : Single r.provider m) : Tied l r (r.hear named m) where
  targets := tied.targets
  limbo := tied.limbo
  own := by
    intro t limboResolution there k mem
    obtain ⟨target, listened, data, known⟩ := tied.limbo t limboResolution there
    rw [RemoteStore.hear, listened] at mem
    dsimp only at mem
    split at mem
    case isTrue => exact ((known k).1 mem).2
    case isFalse =>
      rcases contains_hear mem with before | ⟨c, rfl, ours, rfl⟩
      · exact tied.own t limboResolution there k before
      · have same := single t ours target.data (RemoteStore.provider_data listened)
        rw [data] at same
        exact (DocumentKey.path_inj (same rfl)).symm
  unnamed := by
    intro t unused odd k
    have free : r.listenTargets.contains t = false := by
      rw [tied.targets]
      by_contra c
      have watched : l.listenTargets.contains t = true := Bool.not_eq_false _ ▸ c
      by_cases active : l.activeLimboResolutionsByTarget.contains t = true
      · exact absurd (td.watched t active).2.2 unused.not_gt
      · have even := td.queries t watched (Bool.not_eq_true _ ▸ active)
        omega
    rw [RemoteStore.hear, SortedTable.contains_eq_false.1 free]
    exact tied.unnamed t unused odd k

/-- Only the targets of the stream count. -/
lemma Tied.of_targets (h : Tied l r named) (same : r'.listenTargets = r.listenTargets) :
    Tied l r' named where
  targets := by
    rw [same]
    exact h.targets
  limbo := by
    rw [same]
    exact h.limbo
  own := h.own
  unnamed := h.unnamed

end LimboTracker

end Lumiere.Firestore.Client

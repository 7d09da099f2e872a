import Lumiere.Client.WatchChangeInvariant

/-!
# The remote event of a snapshot

At a snapshot of the stream the aggregator makes one event of the messages since the last one. For a
target of which it `Knows` what the server has said, the change in the event leads from the documents
that the view of the target has to those that the server has named (`Hands`), and the event has a
document for each that the view is to add. A document query without a document gets a deletion in the
same event; it says nothing that the server has not said. Afterwards the aggregator knows the target
relative to the documents that the view has then (`createRemoteEvent_spec`).
-/

namespace Lumiere.Firestore.Client

/-- Only documents that the view of the target has are modified or removed, and no document is
    changed twice. -/
structure TargetChange.Fits (c : TargetChange) (remote : DocumentKeySet) : Prop where
  modified : ∀ k ∈ c.modifiedDocuments, remote.contains k = true
  removed : ∀ k ∈ c.removedDocuments, remote.contains k = true
  once : (c.addedDocuments ++ (c.modifiedDocuments ++ c.removedDocuments)).Nodup

/-- What an event says of a target leads from the documents of its view to those that the server has
    named. -/
structure Hands (remote : DocumentKeySet) (reported : Bool) (d : Told) (c : Option TargetChange) :
    Prop where
  fits : ∀ e, c = some e → e.Fits remote
  keys : ∀ k, (View.syncedAfter remote c).contains k = d.keys.contains k
  current : View.currentAfter reported c = d.current

/-- A set of keys with some less. -/
lemma contains_delete_all {ks : List DocumentKey} {s : DocumentKeySet} {k : DocumentKey} :
    (ks.foldl (fun s k => s.delete k) s).contains k = (!decide (k ∈ ks) && s.contains k) := by
  induction ks generalizing s with
  | nil => simp
  | cons key ks ih =>
    rw [List.foldl_cons, ih, contains_delete_key]
    by_cases e : k = key <;> simp [e]

namespace WatchChangeAggregator

variable {a : WatchChangeAggregator} {p : TargetMetadataProvider} {t t' : TargetId}
  {remote : DocumentKeySet} {reported : Bool} {d : Told} {s : TargetState}

/-! ## One target -/

/-- The differences that are kept are those that the event hands on. -/
lemma Knows.hands (h : Knows a remote t reported d s) :
    Hands remote reported d
      (some ⟨s.current, s.keysOf .added, s.keysOf .modified, s.keysOf .removed⟩) where
  fits := by
    intro e eq
    cases eq
    have apart {k : DocumentKey} {a b : DocumentViewChange.Kind} (ne : a ≠ b)
        (mem : k ∈ s.keysOf a) (mem' : k ∈ s.keysOf b) : False :=
      ne (Option.some.inj ((mem_keysOf.1 mem).symm.trans (mem_keysOf.1 mem')))
    constructor
    case modified =>
      intro k mem
      rcases h.fits k _ (mem_keysOf.1 mem) with ⟨no, _⟩ | ⟨_, c⟩
      · cases no
      · exact c
    case removed =>
      intro k mem
      rcases h.fits k _ (mem_keysOf.1 mem) with ⟨no, _⟩ | ⟨_, c⟩
      · cases no
      · exact c
    case once =>
      refine List.Nodup.append nodup_keysOf (List.Nodup.append nodup_keysOf nodup_keysOf ?_) ?_
      · exact fun k mem mem' => apart (by decide) mem mem'
      · intro k mem mem'
        rcases List.mem_append.1 mem' with mem' | mem'
        · exact apart (by decide) mem mem'
        · exact apart (by decide) mem mem'
  keys := by
    intro k
    have put : (((s.keysOf .added).foldl (fun s k => s.put k ()) remote).contains k = true) ↔
        s.documentChanges.get k = some .added ∨ remote.contains k = true := by
      rw [View.contains_put_all, mem_keysOf]
    rw [h.keys, View.syncedAfter, contains_delete_all, Bool.eq_iff_iff, Bool.and_eq_true, put,
      Bool.not_eq_true', decide_eq_false_iff_not, mem_keysOf, TargetState.has]
    cases e : s.documentChanges.get k with
    | none => simp
    | some type =>
      rcases h.fits k type e with ⟨rfl, _⟩ | ⟨rfl | rfl, c⟩
      · simp
      · simp [c]
      · simp
  current := h.current

/-- Nothing has been said that the view does not know. -/
lemma Knows.hands_none (h : Knows a remote t reported d s) (no : s.hasPendingChanges = false) :
    Hands remote reported d none where
  fits := by
    intro e eq
    cases eq
  keys := by
    intro k
    rw [h.keys, TargetState.has, SortedTable.get, (h.quiet no).1]
    rfl
  current := (h.quiet no).2.symm.trans h.current

/-- A deletion for a document query says nothing new: the server has not named the document. -/
lemma knows_synthesizeDelete (h : Knows a (p.getRemoteKeysForTarget t) t reported d s)
    (watched : (p.getTargetDataForTarget t).isSome = true) (version : SnapshotVersion)
    (data : TargetData) :
    ∃ s', Knows (a.synthesizeDelete p version t data) (p.getRemoteKeysForTarget t) t reported d
      s' := by
  rw [synthesizeDelete]
  split
  case h_1 => exact ⟨s, h⟩
  case h_2 key _ =>
    split
    case isFalse => exact ⟨s, h⟩
    case isTrue cond =>
      rw [Bool.and_eq_true, Bool.and_eq_true, Bool.not_eq_true', Bool.not_eq_true'] at cond
      obtain ⟨⟨_, noUpdate⟩, noRemote⟩ := cond
      obtain ⟨s', h'⟩ := knows_removeDocumentFromTarget h watched key (some (.noDocument key version))
        fun d e => by
          cases e
          rfl
      refine ⟨s', h'.same ⟨fun k => ?_, rfl⟩⟩
      change (d.keys.delete key).contains k = _
      rw [contains_delete_key]
      by_cases e : k = key
      · -- a change of the document would need an update or be of a document of the view
        have no : d.keys.contains key = false := by
          rw [h.keys, TargetState.has]
          cases et : s.documentChanges.get key with
          | none => exact noRemote
          | some type =>
            rcases h.fits key type et with ⟨rfl, _⟩ | ⟨_, c⟩
            · rw [h.updates key et] at noUpdate
              cases noUpdate
            · rw [targetContainsDocument, c] at noRemote
              cases noRemote
        rw [e, no, Bool.and_false]
      · rw [decide_eq_false e]
        rfl

/-- The deletion of a document that the server does not have is about one target. -/
lemma about_synthesizeDelete (version : SnapshotVersion) (data : TargetData) :
    About a (a.synthesizeDelete p version t data) t := by
  rw [synthesizeDelete]
  split
  case h_1 => exact .refl
  case h_2 =>
    split
    case isTrue => exact about_removeDocumentFromTarget _ _ _
    case isFalse => exact .refl

/-- What is known after an event, relative to what the view has then. -/
def KnowsAnew (a : WatchChangeAggregator) (remote : DocumentKeySet) (t : TargetId) (d : Told) :
    Prop :=
  ∃ s, Knows a remote t d.current d s ∧ ∀ k, s.documentChanges.get k = none

/-- What one target contributes. -/
lemma knows_createTargetChange (h : Knows a (p.getRemoteKeysForTarget t) t reported d s)
    (watched : (p.getTargetDataForTarget t).isSome = true) (plain : a.Plain)
    (version : SnapshotVersion) {changes : SortedTable TargetId TargetChange}
    (new : changes.get t = none) :
    ∃ a' changes', createTargetChange p version (a, changes) t = some (a', changes') ∧
      About a a' t ∧ (∀ t', t' ≠ t → changes'.get t' = changes.get t') ∧
      Hands (p.getRemoteKeysForTarget t) reported d (changes'.get t) ∧
      (∀ c, changes'.get t = some c → ∀ k ∈ c.addedDocuments,
        a'.pendingDocumentUpdates.contains k = true) ∧
      KnowsAnew a' (View.syncedAfter (p.getRemoteKeysForTarget t) (changes'.get t)) t d := by
  obtain ⟨data, ed⟩ := Option.isSome_iff_exists.1 watched
  have active : a.targetDataForActiveTarget p t = some data := by
    have act := h.isActiveTarget watched
    rw [isActiveTarget, targetDataForActiveTarget] at act
    rw [targetDataForActiveTarget]
    split at act
    case isTrue => cases act
    case isFalse no => rw [if_neg no, ed]
  obtain ⟨s1, h1⟩ := knows_synthesizeDelete h watched version data
  have about := about_synthesizeDelete (a := a) (p := p) (t := t) version data
  have change := exists_toTargetChange (s := s1) fun k => about.plain plain t s1 k h1.state
  rw [createTargetChange]
  dsimp only
  rw [active]
  dsimp only
  rw [h1.ensureTargetState, change]
  by_cases pending : s1.hasPendingChanges = true
  · rw [if_pos pending]
    refine ⟨_, _, rfl, about.trans (about_update fun _ _ k e => by cases e), ?_, ?_, ?_, ?_⟩
    · intro t' ne
      exact SortedTable.get_put.trans (if_neg ne)
    · rw [SortedTable.get_put, if_pos rfl]
      exact h1.hands
    · intro c e k mem
      rw [SortedTable.get_put, if_pos rfl] at e
      cases e
      exact h1.updates k (mem_keysOf.1 mem)
    · rw [SortedTable.get_put, if_pos rfl]
      refine ⟨s1.clearPendingChanges, ?_, fun k => rfl⟩
      exact
        { state := by rw [get_update, if_pos rfl, h1.ensureTargetState]
          answered := h1.answered
          fits := fun k type e => by cases e
          keys := fun k => (h1.hands.keys k).symm
          current := h1.current
          quiet := fun _ => ⟨rfl, h1.current⟩
          updates := fun k e => by cases e }
  · have no : s1.hasPendingChanges = false := Bool.not_eq_true _ ▸ pending
    rw [if_neg pending]
    refine ⟨_, _, rfl, about, fun _ _ => rfl, ?_, ?_, ?_⟩
    · rw [new]
      exact h1.hands_none no
    · intro c e
      rw [new] at e
      cases e
    · rw [new]
      refine ⟨s1, ?_, fun k => ?_⟩
      · exact { h1 with quiet := fun _ => ⟨(h1.quiet no).1, h1.current⟩ }
      · rw [SortedTable.get, (h1.quiet no).1]
        rfl

/-- What another target contributes. -/
lemma about_createTargetChange (plain : a.Plain) (version : SnapshotVersion)
    (changes : SortedTable TargetId TargetChange) :
    ∃ a' changes', createTargetChange p version (a, changes) t = some (a', changes') ∧
      About a a' t ∧ ∀ t', t' ≠ t → changes'.get t' = changes.get t' := by
  rw [createTargetChange]
  split
  case h_1 => exact ⟨_, _, rfl, .refl, fun _ _ => rfl⟩
  case h_2 data _ =>
    have about := about_synthesizeDelete (a := a) (p := p) (t := t) version data
    dsimp only
    split
    case isTrue =>
      rw [exists_toTargetChange fun k => plain_ensureTargetState (about.plain plain) k]
      refine ⟨_, _, rfl, about.trans (about_update fun _ _ k e => by cases e), ?_⟩
      intro t' ne
      exact SortedTable.get_put.trans (if_neg ne)
    case isFalse => exact ⟨_, _, rfl, about, fun _ _ => rfl⟩

/-! ## The event -/

/-- What is about another target changes nothing. -/
lemma KnowsAnew.about {a' : WatchChangeAggregator} (h : KnowsAnew a remote t d)
    (about : About a a' t') (ne : t ≠ t') : KnowsAnew a' remote t d := by
  obtain ⟨s, h, none_⟩ := h
  exact ⟨s, h.about about ne, none_⟩

/-- Targets other than ours. -/
lemma foldlM_createTargetChange (version : SnapshotVersion) {l : List TargetId} (out : t ∉ l)
    (plain : a.Plain) (changes : SortedTable TargetId TargetChange) :
    ∃ a' changes', l.foldlM (createTargetChange p version) (a, changes) = some (a', changes') ∧
      a'.Plain ∧ changes'.get t = changes.get t ∧
      a'.targetStates.get t = a.targetStates.get t ∧
      ∀ k, a.pendingDocumentUpdates.contains k = true →
        a'.pendingDocumentUpdates.contains k = true := by
  induction l generalizing a changes with
  | nil => exact ⟨a, changes, rfl, plain, rfl, rfl, fun _ c => c⟩
  | cons t' l ih =>
    have ne : t ≠ t' := fun e => out (e ▸ List.mem_cons_self)
    obtain ⟨a1, changes1, e1, about, same⟩ :=
      about_createTargetChange (t := t') (p := p) plain version changes
    obtain ⟨a2, changes2, e2, plain2, get2, state2, more2⟩ :=
      ih (fun mem => out (List.mem_cons_of_mem _ mem)) (about.plain plain) changes1
    refine ⟨a2, changes2, ?_, plain2, get2.trans (same t ne), state2.trans (about.others t ne), ?_⟩
    · rw [List.foldlM_cons, e1]
      exact e2
    · exact fun k c => more2 k (about.updates k c)

/-- A snapshot of the stream never stops the client. Its event leads the view of a target to the
    documents that the server has named, and has a document for each that is to be added. -/
lemma createRemoteEvent_spec (h : Knows a (p.getRemoteKeysForTarget t) t reported d s)
    (watched : (p.getTargetDataForTarget t).isSome = true) (plain : a.Plain)
    (version : SnapshotVersion) :
    ∃ e a', a.createRemoteEvent p version = some (e, a') ∧ a'.Plain ∧
      e.event.snapshotVersion = version ∧
      Hands (p.getRemoteKeysForTarget t) reported d (e.event.targetChanges.get t) ∧
      (∀ c, e.event.targetChanges.get t = some c → ∀ k ∈ c.addedDocuments,
        e.event.documentUpdates.contains k = true) ∧
      KnowsAnew a' (View.syncedAfter (p.getRemoteKeysForTarget t) (e.event.targetChanges.get t))
        t d := by
  -- the targets before ours, ours and those after it
  have mem : t ∈ a.targetStates.rows.map Prod.fst :=
    SortedTable.mem_keys.2 ⟨s, h.state⟩
  have nodup := a.targetStates.nodup_keys
  obtain ⟨l1, l2, el⟩ := List.append_of_mem mem
  rw [el, List.nodup_append] at nodup
  have out1 : t ∉ l1 := fun m => nodup.2.2 t m t List.mem_cons_self rfl
  have out2 : t ∉ l2 := (List.nodup_cons.1 nodup.2.1).1
  obtain ⟨a1, changes1, e1, plain1, get1, state1, more1⟩ :=
    foldlM_createTargetChange (p := p) version out1 plain SortedTable.empty
  obtain ⟨a2, changes2, e2, about, _, hands, added, anew⟩ :=
    knows_createTargetChange (h.frame state1 more1) watched plain1 version get1
  obtain ⟨a3, changes3, e3, plain3, get3, state3, more3⟩ :=
    foldlM_createTargetChange (p := p) version out2 (about.plain plain1) changes2
  have whole : (a.targetStates.rows.map Prod.fst).foldlM (createTargetChange p version)
      (a, SortedTable.empty) = some (a3, changes3) := by
    rw [el, List.foldlM_append, e1]
    change Option.bind _ _ = _
    rw [Option.bind_some, List.foldlM_cons, e2]
    exact e3
  obtain ⟨s', known, none_⟩ := anew
  have made : a.createRemoteEvent p version = some
      (⟨⟨version, changes3, a3.pendingDocumentUpdates, a3.named⟩, a3.pendingTargetResets⟩,
        ⟨a3.targetStates, SortedTable.empty, [], WatchChangeAggregator.new.named⟩) := by
    rw [createRemoteEvent, whole]
    rfl
  refine ⟨_, _, made, plain3, rfl, ?_, ?_, ?_⟩
  · rw [get3]
    exact hands
  · intro c e k mem
    rw [get3] at e
    exact more3 k (added c e k mem)
  · rw [get3]
    refine ⟨s', ?_, none_⟩
    exact
      { known with
        state := state3.trans known.state
        updates := by
          intro k e
          rw [none_] at e
          cases e }

end WatchChangeAggregator

end Lumiere.Firestore.Client

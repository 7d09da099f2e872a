import Lumiere.Client.WatchSnapshot

/-!
# Requests and answers

The client asks the server to watch a target or to watch it no longer, and the server answers each
request once. The aggregator counts the answers that are still to come (`outstanding`). No other
message changes the count or forgets a target (`keeps_handle`), and neither does a snapshot
(`keeps_createRemoteEvent`). An answer lowers the count of its target and leaves the others alone;
with the last one the aggregator knows that the server has named what the view knows
(`answered_handleTargetChange`).
-/

namespace Lumiere.Firestore.Client

namespace WatchChangeAggregator

variable {a a' : WatchChangeAggregator} {p : TargetMetadataProvider} {t t' : TargetId}
  {remote keys : DocumentKeySet}

/-! ## Outstanding answers -/

/-- The answers that are still to come about a target. -/
def outstanding (a : WatchChangeAggregator) (t : TargetId) : Int :=
  (a.ensureTargetState t).outstandingResponses

/-- A step that is no answer to a request of the client. -/
structure Keeps (a a' : WatchChangeAggregator) : Prop where
  counts : ∀ t, a'.outstanding t = a.outstanding t
  there : ∀ t, a.targetStates.contains t = true → a'.targetStates.contains t = true

/-- Nothing is done. -/
lemma Keeps.refl : Keeps a a :=
  ⟨fun _ => rfl, fun _ c => c⟩

/-- Two steps that are no answers. -/
lemma Keeps.trans {b c : WatchChangeAggregator} (h1 : Keeps a b) (h2 : Keeps b c) : Keeps a c where
  counts t := (h2.counts t).trans (h1.counts t)
  there t there := h2.there t (h1.there t there)

/-- Only the states of the targets count. -/
lemma outstanding_congr (same : a'.targetStates.get t = a.targetStates.get t) :
    a'.outstanding t = a.outstanding t := by
  rw [outstanding, outstanding, ensureTargetState, ensureTargetState, same]

/-- What leaves the states of the targets is no answer. -/
lemma Keeps.of_states (same : a'.targetStates = a.targetStates) : Keeps a a' where
  counts t := outstanding_congr (by rw [same])
  there t there := by rwa [same]

/-- The answers that are due stand in the state of the target. -/
lemma outstanding_of_get {s : TargetState} (there : a.targetStates.get t = some s) :
    a.outstanding t = s.outstandingResponses := by
  rw [outstanding, ensureTargetState, there]
  rfl

/-- The state of a target is replaced. -/
lemma keeps_put {s : TargetState} (counts : s.outstandingResponses = a.outstanding t) :
    Keeps a { a with targetStates := a.targetStates.put t s } where
  counts t' := by
    by_cases e : t' = t
    · subst e
      exact (outstanding_of_get (SortedTable.get_put.trans (if_pos rfl))).trans counts
    · exact outstanding_congr (SortedTable.get_put.trans (if_neg e))
  there t' there := by
    rw [SortedTable.contains, SortedTable.get_put]
    split
    case isTrue => rfl
    case isFalse => exact there

/-- An update that leaves the number of answers that are due. -/
lemma keeps_update {f : TargetState → TargetState}
    (counts : ∀ s, (f s).outstandingResponses = s.outstandingResponses) :
    Keeps a (a.update t f) :=
  keeps_put (counts _)

/-- Several steps that are no answers. -/
lemma keeps_foldl {α : Type*} {f : WatchChangeAggregator → α → WatchChangeAggregator}
    (step : ∀ a x, Keeps a (f a x)) (l : List α) : Keeps a (l.foldl f a) := by
  induction l generalizing a with
  | nil => exact .refl
  | cons x l ih => exact (step a x).trans ih

/-- A document is no answer. -/
lemma keeps_addDocumentToTarget (doc : MutableDocument) :
    Keeps a (a.addDocumentToTarget p t doc) := by
  rw [addDocumentToTarget]
  split
  case isTrue => exact .refl
  case isFalse =>
    have step : Keeps a (a.update t fun s => s.addDocumentChange doc.key
        (if targetContainsDocument p t doc.key then .modified else .added)) :=
      keeps_update fun _ => rfl
    exact step.trans (.of_states rfl)

/-- Nor is the removal of one. -/
lemma keeps_removeDocumentFromTarget (key : DocumentKey) (updatedDocument : Option MutableDocument)
    (keyed : ∀ d, updatedDocument = some d → d.key = key) :
    Keeps a (a.removeDocumentFromTarget p t key updatedDocument keyed) := by
  rw [removeDocumentFromTarget]
  split
  case isTrue => exact .refl
  case isFalse =>
    have step : Keeps a (a.update t fun s =>
        if targetContainsDocument p t key then s.addDocumentChange key .removed
        else s.removeDocumentChange key) :=
      keeps_update fun s => by split <;> rfl
    cases updatedDocument with
    | none => exact step
    | some d => exact step.trans (.of_states rfl)

/-- A message about a document is no answer. -/
lemma keeps_handleDocumentChange (c : DocumentWatchChange) :
    Keeps a (a.handleDocumentChange p c) := by
  have put (a : WatchChangeAggregator) (t : TargetId) :
      Keeps a (updateDocumentOfTarget p c a t) := by
    rw [updateDocumentOfTarget]
    split
    case h_1 doc _ =>
      split
      case isTrue => exact keeps_addDocumentToTarget doc
      case isFalse =>
        split
        case isTrue => exact keeps_removeDocumentFromTarget _ _ _
        case isFalse => exact .refl
    case h_2 => exact .refl
  exact (keeps_foldl put _).trans
    (keeps_foldl (fun _ _ => keeps_removeDocumentFromTarget _ _ _) _)

/-- A target that can be emptied does not wait for answers. -/
lemma keeps_resetTarget (e : a.resetTarget p t = some a') : Keeps a a' := by
  rw [resetTarget] at e
  split at e
  case h_1 => cases e
  case h_2 s there =>
    split at e
    case isTrue => cases e
    case isFalse answered =>
      rw [← Option.some.inj e]
      refine (keeps_put (s := .new) ?_).trans
        (keeps_foldl (fun _ _ => keeps_removeDocumentFromTarget _ _ _) _)
      rw [TargetState.isPending, Bool.not_eq_true, bne_eq_false_iff_eq] at answered
      exact answered.symm.trans (outstanding_of_get there).symm

/-- A token is no answer. -/
lemma counts_updateResumeToken (s : TargetState) (resumeToken : String) :
    (s.updateResumeToken resumeToken).outstandingResponses = s.outstandingResponses := by
  rw [TargetState.updateResumeToken]
  split <;> rfl

/-- A target change is no answer unless it says that a target is watched, or is not. -/
lemma keeps_handleTargetChangeOf {state : WatchTargetChangeState} (no1 : state ≠ .added)
    (no2 : state ≠ .removed) {resumeToken : String}
    (e : a.handleTargetChangeOf p state resumeToken t = some a') : Keeps a a' := by
  have start : Keeps a (a.update t id) := keeps_update fun _ => rfl
  refine start.trans ?_
  cases state with
  | noChange =>
    rw [handleTargetChangeOf] at e
    split at e <;> rw [← Option.some.inj e]
    · exact keeps_update fun s => counts_updateResumeToken s resumeToken
    · exact .refl
  | added => exact absurd rfl no1
  | removed => exact absurd rfl no2
  | current =>
    rw [handleTargetChangeOf] at e
    split at e <;> rw [← Option.some.inj e]
    · exact keeps_update fun s => counts_updateResumeToken s.markCurrent resumeToken
    · exact .refl
  | reset =>
    rw [handleTargetChangeOf] at e
    split at e
    · obtain ⟨a1, e1, e2⟩ := Option.map_eq_some_iff.1 e
      rw [← e2]
      exact (keeps_resetTarget e1).trans
        (keeps_update fun s => counts_updateResumeToken s resumeToken)
    · rw [← Option.some.inj e]
      exact .refl

/-- Several steps that are no answers, if they succeed. -/
lemma keeps_foldlM {α : Type*} {f : WatchChangeAggregator → α → Option WatchChangeAggregator}
    (step : ∀ {a x a'}, f a x = some a' → Keeps a a') {l : List α}
    (e : l.foldlM f a = some a') : Keeps a a' := by
  induction l generalizing a with
  | nil =>
    cases e
    exact .refl
  | cons x l ih =>
    rw [List.foldlM_cons] at e
    obtain ⟨a1, e1, e2⟩ := Option.bind_eq_some_iff.1 e
    exact (step e1).trans (ih e2)

/-- An existence filter is no answer. -/
lemma keeps_handleExistenceFilter {count : Nat}
    (e : a.handleExistenceFilter p t count = some a') : Keeps a a' := by
  rw [handleExistenceFilter] at e
  split at e
  case h_1 =>
    cases e
    exact .refl
  case h_2 =>
    split at e
    case h_1 =>
      split at e
      case isTrue =>
        cases e
        exact keeps_removeDocumentFromTarget _ _ _
      case isFalse =>
        split at e
        case isTrue =>
          cases e
          exact .refl
        case isFalse => cases e
    case h_2 =>
      refine (keeps_update (t := t) (f := id) fun _ => rfl).trans ?_
      obtain ⟨n, _, e2⟩ := Option.bind_eq_some_iff.1 e
      split at e2
      case isTrue =>
        obtain ⟨a1, e3, e4⟩ := Option.bind_eq_some_iff.1 e2
        cases e4
        exact (keeps_resetTarget e3).trans (.of_states rfl)
      case isFalse =>
        cases e2
        exact .refl

/-- Handing the changes of a target on is no answer. -/
lemma keeps_createTargetChange {version : SnapshotVersion}
    {r r' : WatchChangeAggregator × SortedTable TargetId TargetChange}
    (e : createTargetChange p version r t = some r') : Keeps r.1 r'.1 := by
  rw [createTargetChange] at e
  split at e
  case h_1 =>
    cases e
    exact .refl
  case h_2 data _ =>
    have start : Keeps r.1 (r.1.synthesizeDelete p version t data) := by
      rw [synthesizeDelete]
      split
      case h_1 => exact .refl
      case h_2 =>
        split
        case isTrue => exact keeps_removeDocumentFromTarget _ _ _
        case isFalse => exact .refl
    dsimp only at e
    split at e
    case isTrue =>
      obtain ⟨c, _, e2⟩ := Option.map_eq_some_iff.1 e
      rw [← e2]
      exact start.trans (keeps_update fun _ => rfl)
    case isFalse =>
      cases e
      exact start

/-- Nor is the event of a snapshot. -/
lemma keeps_createRemoteEvent {version : SnapshotVersion} {e : AggregatedEvent}
    (made : a.createRemoteEvent p version = some (e, a')) : Keeps a a' := by
  rw [createRemoteEvent] at made
  obtain ⟨r, e1, e2⟩ := Option.bind_eq_some_iff.1 made
  have rows : ∀ (l : List TargetId)
      (r0 : WatchChangeAggregator × SortedTable TargetId TargetChange),
      l.foldlM (createTargetChange p version) r0 = some r → Keeps r0.1 r.1 := by
    intro l
    induction l with
    | nil =>
      intro r0 e
      cases e
      exact .refl
    | cons t l ih =>
      intro r0 e
      rw [List.foldlM_cons] at e
      obtain ⟨r1, e1, e2⟩ := Option.bind_eq_some_iff.1 e
      exact (keeps_createTargetChange e1).trans (ih r1 e2)
  cases e2
  exact (rows _ _ e1).trans (.of_states rfl)

/-- A message that answers requests of the client. -/
def IsAnswer : WatchChange → Prop
  | .targetChange state _ _ => state = .added ∨ state = .removed
  | _ => False

/-- A message that is no answer leaves the answers that are due. -/
lemma keeps_handle {m : WatchChange} (no : ¬ IsAnswer m) (e : a.handle p m = some a') :
    Keeps a a' := by
  cases m with
  | document c =>
    cases e
    exact keeps_handleDocumentChange c
  | existenceFilter t count => exact keeps_handleExistenceFilter e
  | targetChange state targetIds resumeToken =>
    exact keeps_foldlM
      (keeps_handleTargetChangeOf (fun h => no (.inl h)) fun h => no (.inr h)) e

/-! ## Whatever the server says -/

/-- What succeeds at each step succeeds. -/
lemma exists_foldlM {α : Type*} {f : WatchChangeAggregator → α → Option WatchChangeAggregator}
    (step : ∀ {a x}, a.Plain → ∃ a', f a x = some a' ∧ a'.Plain) (l : List α) (plain : a.Plain) :
    ∃ a', l.foldlM f a = some a' ∧ a'.Plain := by
  induction l generalizing a with
  | nil => exact ⟨a, rfl, plain⟩
  | cons x l ih =>
    obtain ⟨a1, e1, plain1⟩ := step (x := x) plain
    obtain ⟨a2, e2, plain2⟩ := ih plain1
    exact ⟨a2, by rw [List.foldlM_cons, e1]; exact e2, plain2⟩

/-- No message stops the client. -/
lemma exists_handle {m : WatchChange} (plain : a.Plain) (countable : Countable p m) :
    ∃ a', a.handle p m = some a' ∧ a'.Plain := by
  cases m with
  | document c =>
    refine ⟨_, rfl, ?_⟩
    have both : ∀ (l : List TargetId)
        (f : WatchChangeAggregator → TargetId → WatchChangeAggregator),
        (∀ a t, About a (f a t) t) → ∀ a : WatchChangeAggregator, a.Plain →
          (l.foldl f a).Plain := by
      intro l f about
      induction l with
      | nil => exact fun a plain => plain
      | cons t l ih => exact fun a plain => ih _ ((about a t).plain plain)
    apply both _ _ fun _ _ => about_removeDocumentFromTarget _ _ _
    exact both _ _ (fun _ _ => about_updateDocumentOfTarget c) a plain
  | existenceFilter t count =>
    obtain ⟨a', e, about⟩ := about_handleExistenceFilter plain countable
    exact ⟨a', e, about.plain plain⟩
  | targetChange state targetIds resumeToken =>
    apply exists_foldlM _ _ plain
    intro a t plain
    obtain ⟨a', e, about⟩ := about_handleTargetChangeOf (a := a) (p := p) (t := t) state resumeToken
    exact ⟨a', e, about.plain plain⟩

/-- No snapshot stops the client. -/
lemma exists_createRemoteEvent (plain : a.Plain) (version : SnapshotVersion) :
    ∃ e a', a.createRemoteEvent p version = some (e, a') ∧ a'.Plain ∧
      e.event.snapshotVersion = version := by
  have rows : ∀ (l : List TargetId) (a : WatchChangeAggregator)
      (changes : SortedTable TargetId TargetChange), a.Plain →
      ∃ a' changes', l.foldlM (createTargetChange p version) (a, changes) = some (a', changes') ∧
        a'.Plain := by
    intro l
    induction l with
    | nil => exact fun a changes plain => ⟨a, changes, rfl, plain⟩
    | cons t l ih =>
      intro a changes plain
      obtain ⟨a1, changes1, e1, about, _⟩ :=
        about_createTargetChange (t := t) (p := p) plain version changes
      obtain ⟨a2, changes2, e2, plain2⟩ := ih a1 changes1 (about.plain plain)
      exact ⟨a2, changes2, by rw [List.foldlM_cons, e1]; exact e2, plain2⟩
  obtain ⟨a1, changes1, e1, plain1⟩ := rows (a.targetStates.rows.map Prod.fst) a .empty plain
  rw [createRemoteEvent, e1]
  exact ⟨_, _, rfl, plain1, rfl⟩

/-! ## Requests -/

/-- A request is about one target. -/
lemma about_recordPendingTargetRequest : About a (a.recordPendingTargetRequest t) t :=
  about_update fun _ plain => plain

/-- One more answer is due. -/
lemma outstanding_recordPendingTargetRequest :
    (a.recordPendingTargetRequest t).outstanding t = a.outstanding t + 1 :=
  outstanding_of_get (get_update.trans (if_pos rfl))

/-- A target that has been asked about has a state. -/
lemma contains_recordPendingTargetRequest :
    (a.recordPendingTargetRequest t).targetStates.contains t = true := by
  rw [SortedTable.contains, recordPendingTargetRequest, get_update, if_pos rfl]
  rfl

/-- An event says nothing of a target that waits for answers. -/
lemma createRemoteEvent_waiting {version : SnapshotVersion} {e : AggregatedEvent} (plain : a.Plain)
    (there : a.targetStates.contains t = true) (waits : a.outstanding t ≠ 0)
    (made : a.createRemoteEvent p version = some (e, a')) : e.event.targetChanges.get t = none := by
  rw [createRemoteEvent] at made
  obtain ⟨r, e1, e2⟩ := Option.bind_eq_some_iff.1 made
  have rows : ∀ (l : List TargetId) (a : WatchChangeAggregator)
      (changes : SortedTable TargetId TargetChange), a.Plain → a.targetStates.contains t = true →
      a.outstanding t ≠ 0 → changes.get t = none →
      l.foldlM (createTargetChange p version) (a, changes) = some r → r.2.get t = none := by
    intro l
    induction l with
    | nil =>
      intro a changes _ _ _ none_ e
      cases e
      exact none_
    | cons t' l ih =>
      intro a changes plain there waits none_ e
      rw [List.foldlM_cons] at e
      obtain ⟨a1, changes1, made1, about, others⟩ :=
        about_createTargetChange (t := t') (p := p) plain version changes
      have keeps := keeps_createTargetChange made1
      rw [made1] at e
      refine ih a1 changes1 (about.plain plain) (keeps.there t there)
        (by rw [keeps.counts]; exact waits) ?_ e
      by_cases ours : t = t'
      · subst ours
        obtain ⟨s, es⟩ := Option.isSome_iff_exists.1 there
        have pending : s.isPending = true := by
          rw [TargetState.isPending, bne_iff_ne, ← outstanding_of_get es]
          exact waits
        have inactive : a.targetDataForActiveTarget p t = none := by
          rw [targetDataForActiveTarget, es]
          exact if_pos pending
        rw [createTargetChange] at made1
        dsimp only at made1
        rw [inactive] at made1
        cases made1
        exact none_
      · rw [others t ours, none_]
  cases e2
  exact rows _ _ _ plain there waits rfl e1

/-! ## Answers -/

/-- What an answer does to its target. With the last one the documents of the view are those that
    the server starts from. -/
structure Answered (state : WatchTargetChangeState) (a a' : WatchChangeAggregator) (t : TargetId) :
    Prop where
  counts : a'.outstanding t = a.outstanding t - 1
  there : state = .added ∨ a.outstanding t ≠ 1 → a'.targetStates.contains t = true
  known : state = .added → a.outstanding t = 1 → ∀ remote, ∃ c s, Knows a' remote t c ⟨remote, c⟩ s

/-- Only the target counts, and the updates that are still there. -/
lemma Answered.frame {b b' : WatchChangeAggregator} {state : WatchTargetChangeState}
    (h : Answered state a a' t) (before : b.targetStates.get t = a.targetStates.get t)
    (after : b'.targetStates.get t = a'.targetStates.get t)
    (more : ∀ k, a'.pendingDocumentUpdates.contains k = true →
      b'.pendingDocumentUpdates.contains k = true) : Answered state b b' t where
  counts := by rw [outstanding_congr after, outstanding_congr before, h.counts]
  there := by
    rw [outstanding_congr before, SortedTable.contains, after]
    exact h.there
  known e one remote := by
    rw [outstanding_congr before] at one
    obtain ⟨c, s, known⟩ := h.known e one remote
    exact ⟨c, s, known.frame after more⟩

/-- A target that is said to be watched. -/
lemma answered_added (a : WatchChangeAggregator) (p : TargetMetadataProvider) (t : TargetId)
    (resumeToken : String) :
    ∃ a', a.handleTargetChangeOf p .added resumeToken t = some a' ∧ About a a' t ∧
      Answered .added a a' t := by
  obtain ⟨a', e, about⟩ :=
    about_handleTargetChangeOf (a := a) (p := p) (t := t) .added resumeToken
  refine ⟨a', e, about, ?_⟩
  rw [handleTargetChangeOf] at e
  have state := Option.some.inj e
  have ens : (a.update t id).ensureTargetState t = a.ensureTargetState t := by
    rw [ensureTargetState, get_update, if_pos rfl]
    rfl
  obtain ⟨s, es, counts, current, empty⟩ : ∃ s, a'.targetStates.get t = some s ∧
      s.outstandingResponses = a.outstanding t - 1 ∧
      s.current = (a.ensureTargetState t).current ∧
      (a.outstanding t = 1 → s.documentChanges = SortedTable.empty) := by
    refine ⟨_, by rw [← state, get_update, if_pos rfl], ?_, ?_, ?_⟩
    · rw [ens, counts_updateResumeToken]
      split <;> rfl
    · rw [ens, TargetState.updateResumeToken]
      split <;> split <;> rfl
    · intro one
      have zero : (a.ensureTargetState t).recordTargetResponse.isPending = false := by
        rw [TargetState.isPending, bne_eq_false_iff_eq]
        change a.outstanding t - 1 = 0
        omega
      rw [ens]
      dsimp only
      rw [zero, TargetState.updateResumeToken]
      split <;> rfl
  constructor
  · exact (outstanding_of_get es).trans counts
  · intro _
    rw [SortedTable.contains, es]
    rfl
  · intro _ one remote
    have none_ (k : DocumentKey) : s.documentChanges.get k = none := by
      rw [empty one]
      rfl
    refine ⟨s.current, s, ?_⟩
    exact
      { state := es
        answered := by
          rw [TargetState.isPending, bne_eq_false_iff_eq]
          omega
        fits := by
          intro k type e
          rw [none_] at e
          cases e
        keys := by
          intro k
          rw [TargetState.has, none_]
        current := rfl
        quiet := by
          intro _
          rw [empty one]
          exact ⟨rfl, rfl⟩
        updates := by
          intro k e
          rw [none_] at e
          cases e }

/-- A target that is said to be watched no longer; with the last answer it is forgotten. -/
lemma answered_removed (a : WatchChangeAggregator) (p : TargetMetadataProvider) (t : TargetId)
    (resumeToken : String) :
    ∃ a', a.handleTargetChangeOf p .removed resumeToken t = some a' ∧ About a a' t ∧
      Answered .removed a a' t := by
  obtain ⟨a', e, about⟩ :=
    about_handleTargetChangeOf (a := a) (p := p) (t := t) .removed resumeToken
  refine ⟨a', e, about, ?_⟩
  rw [handleTargetChangeOf] at e
  have state : ((a.update t id).update t TargetState.recordTargetResponse).targetStates.get t =
      some (a.ensureTargetState t).recordTargetResponse := by
    rw [get_update, if_pos rfl, ensureTargetState, get_update, if_pos rfl]
    rfl
  have ens : ((a.update t id).update t TargetState.recordTargetResponse).ensureTargetState t =
      (a.ensureTargetState t).recordTargetResponse := by
    rw [ensureTargetState, state]
    rfl
  change (if !(((a.update t id).update t TargetState.recordTargetResponse).ensureTargetState
    t).isPending then _ else _) = _ at e
  rw [ens] at e
  split at e
  case isTrue last =>
    rw [Bool.not_eq_true', TargetState.isPending, bne_eq_false_iff_eq] at last
    have zero : a.outstanding t - 1 = 0 := last
    have gone : a'.targetStates.get t = none := by
      rw [← Option.some.inj e]
      exact SortedTable.get_delete.trans (if_pos rfl)
    refine ⟨?_, ?_, fun no => by cases no⟩
    · rw [outstanding, ensureTargetState, gone]
      exact zero.symm
    · rintro (no | no)
      · cases no
      · omega
  case isFalse =>
    rw [← Option.some.inj e]
    refine ⟨?_, ?_, fun no => by cases no⟩
    · rw [outstanding, ens]
      rfl
    · intro _
      rw [SortedTable.contains, state]
      rfl

/-- An answer about several targets, each once. -/
lemma answered_handleTargetChange (plain : a.Plain) {state : WatchTargetChangeState}
    (is : state = .added ∨ state = .removed) {targetIds : List TargetId} (some_ : targetIds ≠ [])
    (once : targetIds.Nodup) (resumeToken : String) :
    ∃ a', a.handleTargetChange p state targetIds resumeToken = some a' ∧ a'.Plain ∧
      (∀ t ∈ targetIds, Answered state a a' t) ∧
      (∀ t, t ∉ targetIds → a'.targetStates.get t = a.targetStates.get t) ∧
      ∀ k, a.pendingDocumentUpdates.contains k = true →
        a'.pendingDocumentUpdates.contains k = true := by
  have one (a : WatchChangeAggregator) (t : TargetId) : ∃ a',
      a.handleTargetChangeOf p state resumeToken t = some a' ∧ About a a' t ∧
        Answered state a a' t := by
    rcases is with rfl | rfl
    · exact answered_added a p t resumeToken
    · exact answered_removed a p t resumeToken
  rw [handleTargetChange, getTargetIds, if_pos some_]
  clear some_
  induction targetIds generalizing a with
  | nil =>
    refine ⟨a, rfl, plain, ?_, fun _ _ => rfl, fun _ c => c⟩
    intro t mem
    cases mem
  | cons t l ih =>
    obtain ⟨out, once'⟩ := List.nodup_cons.1 once
    obtain ⟨a1, e1, about, ans⟩ := one a t
    obtain ⟨a2, e2, plain2, answered, others, more⟩ := ih (about.plain plain) once'
    refine ⟨a2, by rw [List.foldlM_cons, e1]; exact e2, plain2, ?_, ?_, ?_⟩
    · intro t' mem
      by_cases e : t' = t
      · subst e
        exact ans.frame rfl (others t' out) more
      · have mem' := (List.mem_cons.1 mem).resolve_left e
        exact (answered t' mem').frame (about.others t' e).symm rfl fun _ c => c
    · intro t' out'
      rw [others t' fun m => out' (List.mem_cons_of_mem _ m)]
      exact about.others t' fun e => out' (e ▸ List.mem_cons_self)
    · exact fun k c => more k (about.updates k c)

/-! ## What is known of the documents -/

/-- The aggregator knows which documents of a target the server has named. -/
def KnowsKeys (a : WatchChangeAggregator) (remote : DocumentKeySet) (t : TargetId)
    (keys : DocumentKeySet) : Prop :=
  ∃ reported d s, Knows a remote t reported d s ∧ d.keys = keys

/-- What is about another target changes nothing. -/
lemma KnowsKeys.about (h : KnowsKeys a remote t keys) (about : About a a' t') (ne : t ≠ t') :
    KnowsKeys a' remote t keys := by
  obtain ⟨reported, d, s, h, e⟩ := h
  exact ⟨reported, d, s, h.about about ne, e⟩

/-- Nor does what leaves the state of the target. -/
lemma KnowsKeys.frame (h : KnowsKeys a remote t keys)
    (same : a'.targetStates.get t = a.targetStates.get t)
    (more : ∀ k, a.pendingDocumentUpdates.contains k = true →
      a'.pendingDocumentUpdates.contains k = true) : KnowsKeys a' remote t keys := by
  obtain ⟨reported, d, s, h, e⟩ := h
  exact ⟨reported, d, s, h.frame same more, e⟩

end WatchChangeAggregator

end Lumiere.Firestore.Client

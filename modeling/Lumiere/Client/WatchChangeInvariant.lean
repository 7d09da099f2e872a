import Lumiere.Client.WatchChangeAggregator

/-!
# What the server has said about a target

`Told` is what the server says about one target, taken literally: each message puts documents into
the target, takes them out or empties it (`hear`). The aggregator only keeps the differences to what
the view of the target knows; still it `Knows` all that the server has said: no message about any
target stops the client, the differences lead from the documents of the view to those that the server
has named (`knows_handle`), and the remote event hands exactly these on (`createRemoteEvent_spec`).
-/

namespace Lumiere.Firestore.Client

/-- What the server has said about a target: its documents, and that these are all. -/
structure Told where
  keys : DocumentKeySet
  current : Bool

namespace Told

/-- A document is named. -/
def put (d : Told) (key : DocumentKey) : Told :=
  { d with keys := d.keys.put key () }

/-- A document is no longer named. -/
def take (d : Told) (key : DocumentKey) : Told :=
  { d with keys := d.keys.delete key }

/-- Nothing has been said. -/
def silence : Told :=
  ⟨SortedTable.empty, false⟩

/-- A document may belong to the target. -/
def updated (c : DocumentWatchChange) (d : Told) : Told :=
  match c.newDocument with
  | some doc =>
    if doc.isFoundDocument then d.put c.documentKey
    else if doc.isNoDocument then d.take c.documentKey
    else d
  | none => d

/-- What a target change says about each of its targets. -/
def changed (state : WatchTargetChangeState) (d : Told) : Told :=
  match state with
  | .current => { d with current := true }
  | .reset => silence
  | _ => d

/-- The server says a message; one about other targets changes nothing. -/
def hear (t : TargetId) (target : CoreQuery) (d : Told) : WatchChange → Told
  | .document c =>
    let d := if t ∈ c.updatedTargetIds then d.updated c else d
    if t ∈ c.removedTargetIds then d.take c.documentKey else d
  | .existenceFilter t' count =>
    if t' = t then
      match WatchChangeAggregator.documentOfTarget target with
      | some key => if count = 0 then d.take key else d
      | none => if d.keys.rows.length ≠ count then silence else d
    else d
  | .targetChange state targetIds _ =>
    if targetIds = [] ∨ t ∈ targetIds then d.changed state else d

/-- Two ways of saying the same. -/
def Same (d d' : Told) : Prop :=
  (∀ k, d.keys.contains k = d'.keys.contains k) ∧ d.current = d'.current

end Told

/-- A set of keys with one more. -/
lemma contains_put_key {s : DocumentKeySet} {k k' : DocumentKey} :
    (s.put k ()).contains k' = (decide (k' = k) || s.contains k') := by
  rw [SortedTable.contains, SortedTable.get_put]
  by_cases h : k' = k
  · simp [h]
  · simp [h, SortedTable.contains]

/-- A set of keys with one less. -/
lemma contains_delete_key {s : DocumentKeySet} {k k' : DocumentKey} :
    (s.delete k).contains k' = (!decide (k' = k) && s.contains k') := by
  rw [SortedTable.contains, SortedTable.get_delete]
  by_cases h : k' = k
  · simp [h]
  · simp [h, SortedTable.contains]

namespace TargetState

/-- Each change is relative to the documents that the view of the target has. -/
def Fits (s : TargetState) (remote : DocumentKeySet) : Prop :=
  ∀ k type, s.documentChanges.get k = some type →
    type = .added ∧ remote.contains k = false ∨
      (type = .modified ∨ type = .removed) ∧ remote.contains k = true

/-- Whether a document belongs to the target once the changes are made. -/
def has (s : TargetState) (remote : DocumentKeySet) (k : DocumentKey) : Bool :=
  match s.documentChanges.get k with
  | none => remote.contains k
  | some type => type != .removed

end TargetState

namespace WatchChangeAggregator

variable {a : WatchChangeAggregator} {p : TargetMetadataProvider} {t t' : TargetId}

/-- An update is about one target. -/
lemma get_update {f : TargetState → TargetState} :
    (a.update t f).targetStates.get t' =
      if t' = t then some (f (a.ensureTargetState t)) else a.targetStates.get t' :=
  SortedTable.get_put

/-- The aggregator knows what the server has said about a target since it was asked; `reported` is
    whether the last event said that these are all documents. -/
structure Knows (a : WatchChangeAggregator) (remote : DocumentKeySet) (t : TargetId)
    (reported : Bool) (d : Told) (s : TargetState) : Prop where
  state : a.targetStates.get t = some s
  answered : s.isPending = false
  fits : s.Fits remote
  keys : ∀ k, d.keys.contains k = s.has remote k
  current : s.current = d.current
  quiet : s.hasPendingChanges = false → s.documentChanges.rows = [] ∧ s.current = reported
  updates : ∀ k, s.documentChanges.get k = some .added → a.pendingDocumentUpdates.contains k = true

variable {remote : DocumentKeySet} {reported : Bool} {d d' : Told} {s : TargetState}

/-- What is known does not depend on the other targets. -/
lemma Knows.frame {a' : WatchChangeAggregator} (h : Knows a remote t reported d s)
    (same : a'.targetStates.get t = a.targetStates.get t)
    (more : ∀ k, a.pendingDocumentUpdates.contains k = true →
      a'.pendingDocumentUpdates.contains k = true) : Knows a' remote t reported d s :=
  { h with
    state := same.trans h.state
    updates := fun k e => more k (h.updates k e) }

/-- Another way of saying the same. -/
lemma Knows.same (h : Knows a remote t reported d s) (same : d.Same d') :
    Knows a remote t reported d' s :=
  { h with
    keys := fun k => (same.1 k).symm.trans (h.keys k)
    current := h.current.trans same.2 }

/-- A target that is known and listened to is active. -/
lemma Knows.isActiveTarget (h : Knows a (p.getRemoteKeysForTarget t) t reported d s)
    (watched : (p.getTargetDataForTarget t).isSome = true) : a.isActiveTarget p t = true := by
  have no : (Option.some s).any TargetState.isPending = false := h.answered
  rw [WatchChangeAggregator.isActiveTarget, targetDataForActiveTarget, h.state, no,
    if_neg Bool.false_ne_true]
  exact watched

/-- The state of a target that is known is there. -/
lemma Knows.ensureTargetState (h : Knows a remote t reported d s) : a.ensureTargetState t = s := by
  rw [WatchChangeAggregator.ensureTargetState, h.state]
  rfl

/-- One change of a document of the target. -/
lemma Knows.change (h : Knows a remote t reported d s) (s' : TargetState) (k : DocumentKey)
    {docs : DocumentMap} {named : docs.Named} {keys : DocumentKeySet}
    (counts : s'.outstandingResponses = s.outstandingResponses)
    (cur : s'.current = s.current) (pending : s'.hasPendingChanges = true)
    (others : ∀ k', k' ≠ k → s'.documentChanges.get k' = s.documentChanges.get k')
    (fits : ∀ type, s'.documentChanges.get k = some type →
      type = .added ∧ remote.contains k = false ∨
        (type = .modified ∨ type = .removed) ∧ remote.contains k = true)
    (same : ∀ k', k' ≠ k → keys.contains k' = d.keys.contains k')
    (here : keys.contains k = s'.has remote k)
    (more : ∀ k', a.pendingDocumentUpdates.contains k' = true → docs.contains k' = true)
    (update : s'.documentChanges.get k = some .added → docs.contains k = true) :
    Knows ⟨a.targetStates.put t s', docs, a.pendingTargetResets, named⟩ remote t reported
      { d with keys := keys } s' where
  state := SortedTable.get_put.trans (if_pos rfl)
  answered := by
    have e := h.answered
    rw [TargetState.isPending] at e ⊢
    rw [counts, e]
  fits := by
    intro k' type e
    by_cases ek : k' = k
    · rw [ek] at e ⊢
      exact fits type e
    · rw [others k' ek] at e
      exact h.fits k' type e
  keys := by
    intro k'
    by_cases ek : k' = k
    · rw [ek]
      exact here
    · change keys.contains k' = _
      rw [same k' ek, h.keys, TargetState.has, TargetState.has, others k' ek]
  current := cur.trans h.current
  quiet := by
    intro no
    rw [pending] at no
    cases no
  updates := by
    intro k' e
    by_cases ek : k' = k
    · rw [ek] at e ⊢
      exact update e
    · rw [others k' ek] at e
      exact more k' (h.updates k' e)

/-- The server puts a document into the target. -/
lemma knows_addDocumentToTarget (h : Knows a (p.getRemoteKeysForTarget t) t reported d s)
    (watched : (p.getTargetDataForTarget t).isSome = true) (doc : MutableDocument) :
    ∃ s', Knows (a.addDocumentToTarget p t doc) (p.getRemoteKeysForTarget t) t reported
      (d.put doc.key) s' := by
  have act := h.isActiveTarget watched
  have ens := h.ensureTargetState
  let type := if targetContainsDocument p t doc.key then
    DocumentViewChange.Kind.modified else .added
  refine ⟨s.addDocumentChange doc.key type, ?_⟩
  have no : ¬ (!a.isActiveTarget p t) = true := by
    rw [act]
    decide
  rw [addDocumentToTarget, if_neg no]
  change Knows ⟨a.targetStates.put t ((a.ensureTargetState t).addDocumentChange doc.key type),
    a.pendingDocumentUpdates.put doc.key doc, a.pendingTargetResets, _⟩ _ _ _ _ _
  rw [ens]
  have get (k : DocumentKey) : (s.addDocumentChange doc.key type).documentChanges.get k =
      if k = doc.key then some type else s.documentChanges.get k := SortedTable.get_put
  apply h.change (s.addDocumentChange doc.key type) doc.key rfl rfl rfl
  · intro k' ne
    rw [get, if_neg ne]
  · intro ty e
    rw [get, if_pos rfl] at e
    cases e
    by_cases c : targetContainsDocument p t doc.key = true
    · exact .inr ⟨.inl (if_pos c), c⟩
    · exact .inl ⟨if_neg c, Bool.not_eq_true _ ▸ c⟩
  · intro k' ne
    rw [contains_put_key, decide_eq_false ne, Bool.false_or]
  · rw [contains_put_key, decide_eq_true rfl, Bool.true_or, TargetState.has, get, if_pos rfl]
    change true = (type != .removed)
    by_cases c : targetContainsDocument p t doc.key = true
    · have e : type = .modified := if_pos c
      rw [e]
      rfl
    · have e : type = .added := if_neg c
      rw [e]
      rfl
  · intro k' c
    rw [SortedTable.contains, SortedTable.get_put]
    split
    case isTrue => rfl
    case isFalse => exact c
  · intro _
    rw [SortedTable.contains, SortedTable.get_put, if_pos rfl]
    rfl
  · exact DocumentMap.named_put a.named

/-- The server takes a document out of the target. -/
lemma knows_removeDocumentFromTarget (h : Knows a (p.getRemoteKeysForTarget t) t reported d s)
    (watched : (p.getTargetDataForTarget t).isSome = true) (key : DocumentKey)
    (updatedDocument : Option MutableDocument)
    (keyed : ∀ d, updatedDocument = some d → d.key = key) :
    ∃ s', Knows (a.removeDocumentFromTarget p t key updatedDocument keyed)
      (p.getRemoteKeysForTarget t) t reported (d.take key) s' := by
  have act := h.isActiveTarget watched
  have ens := h.ensureTargetState
  let s' := if targetContainsDocument p t key then s.addDocumentChange key .removed
    else s.removeDocumentChange key
  have get (k : DocumentKey) : s'.documentChanges.get k =
      if k = key then if targetContainsDocument p t key then some .removed else none
      else s.documentChanges.get k := by
    by_cases c : targetContainsDocument p t key = true
    · have e : s' = s.addDocumentChange key .removed := if_pos c
      rw [e, if_pos c]
      exact SortedTable.get_put
    · have e : s' = s.removeDocumentChange key := if_neg c
      rw [e, if_neg c]
      exact SortedTable.get_delete
  have rest : s'.outstandingResponses = s.outstandingResponses ∧ s'.current = s.current ∧
      s'.hasPendingChanges = true := by
    by_cases c : targetContainsDocument p t key = true
    · have e : s' = s.addDocumentChange key .removed := if_pos c
      rw [e]
      exact ⟨rfl, rfl, rfl⟩
    · have e : s' = s.removeDocumentChange key := if_neg c
      rw [e]
      exact ⟨rfl, rfl, rfl⟩
  have step (docs : DocumentMap) (named : docs.Named)
      (more : ∀ k', a.pendingDocumentUpdates.contains k' = true → docs.contains k' = true) :
      Knows ⟨a.targetStates.put t s', docs, a.pendingTargetResets, named⟩
        (p.getRemoteKeysForTarget t) t reported (d.take key) s' := by
    apply h.change s' key rest.1 rest.2.1 rest.2.2 _ _ _ _ more
    · intro e
      rw [get, if_pos rfl] at e
      split at e <;> cases e
    · intro k' ne
      rw [get, if_neg ne]
    · intro type e
      rw [get, if_pos rfl] at e
      split at e
      case isTrue c =>
        cases e
        exact .inr ⟨.inr rfl, c⟩
      case isFalse => cases e
    · intro k' ne
      rw [contains_delete_key, decide_eq_false ne]
      rfl
    · rw [contains_delete_key, decide_eq_true rfl, TargetState.has, get, if_pos rfl]
      by_cases c : targetContainsDocument p t key = true
      · rw [if_pos c]
        rfl
      · rw [if_neg c]
        exact (Bool.not_eq_true _ ▸ c : targetContainsDocument p t key = false).symm
  refine ⟨s', ?_⟩
  have no : ¬ (!a.isActiveTarget p t) = true := by
    rw [act]
    decide
  rw [removeDocumentFromTarget, if_neg no]
  have here : (if targetContainsDocument p t key then
      (a.ensureTargetState t).addDocumentChange key .removed
      else (a.ensureTargetState t).removeDocumentChange key) = s' := by rw [ens]
  cases updatedDocument with
  | none =>
    change Knows ⟨a.targetStates.put t (if targetContainsDocument p t key then
      (a.ensureTargetState t).addDocumentChange key .removed
      else (a.ensureTargetState t).removeDocumentChange key), _, _, _⟩ _ _ _ _ _
    rw [here]
    exact step _ a.named fun _ c => c
  | some doc =>
    change Knows ⟨a.targetStates.put t (if targetContainsDocument p t key then
      (a.ensureTargetState t).addDocumentChange key .removed
      else (a.ensureTargetState t).removeDocumentChange key),
      a.pendingDocumentUpdates.put key doc, _, _⟩ _ _ _ _ _
    rw [here]
    refine step (a.pendingDocumentUpdates.put key doc) ?_ ?_
    · rw [← keyed doc rfl]
      exact DocumentMap.named_put a.named
    · intro k' c
      rw [SortedTable.contains, SortedTable.get_put]
      split
      case isTrue => rfl
      case isFalse => exact c

/-! ## Other targets -/

/-- No target has a change of the metadata, so that each can make a target change. -/
def PlainStates (states : SortedTable TargetId TargetState) : Prop :=
  ∀ t s k, states.get t = some s → s.documentChanges.get k ≠ some .metadata

/-- No change is one of metadata only. -/
def Plain (a : WatchChangeAggregator) : Prop :=
  PlainStates a.targetStates

/-- A step is about one target, and can be undone by none of the updates. -/
structure About (a a' : WatchChangeAggregator) (t : TargetId) : Prop where
  others : ∀ t', t' ≠ t → a'.targetStates.get t' = a.targetStates.get t'
  updates : ∀ k, a.pendingDocumentUpdates.contains k = true →
    a'.pendingDocumentUpdates.contains k = true
  plain : a.Plain → a'.Plain

/-- Nothing is done. -/
lemma About.refl : About a a t :=
  ⟨fun _ _ => rfl, fun _ c => c, id⟩

/-- Two steps about one target. -/
lemma About.trans {b c : WatchChangeAggregator} (h1 : About a b t) (h2 : About b c t) :
    About a c t where
  others t' ne := (h2.others t' ne).trans (h1.others t' ne)
  updates k c := h2.updates k (h1.updates k c)
  plain pl := h2.plain (h1.plain pl)

/-- What is about another target changes nothing. -/
lemma Knows.about {a' : WatchChangeAggregator} (h : Knows a remote t reported d s)
    (about : About a a' t') (ne : t ≠ t') : Knows a' remote t reported d s :=
  h.frame (about.others t ne) about.updates

/-- A state without changes of metadata takes its place. -/
lemma plain_put {states : SortedTable TargetId TargetState} (plain : PlainStates states)
    {s' : TargetState} (h : ∀ k, s'.documentChanges.get k ≠ some .metadata) :
    PlainStates (states.put t s') := by
  intro t' s k e
  rw [SortedTable.get_put] at e
  split at e
  case isTrue =>
    cases e
    exact h k
  case isFalse => exact plain t' s k e

/-- No state has changes of metadata, nor has a new one. -/
lemma plain_ensureTargetState (plain : a.Plain) (k : DocumentKey) :
    (a.ensureTargetState t).documentChanges.get k ≠ some .metadata := by
  rw [ensureTargetState]
  cases e : a.targetStates.get t with
  | none => exact fun h => by cases h
  | some s => exact plain t s k e

/-- An update that brings no changes of metadata. -/
lemma about_update {f : TargetState → TargetState}
    (keeps : ∀ s : TargetState, (∀ k, s.documentChanges.get k ≠ some .metadata) →
      ∀ k, (f s).documentChanges.get k ≠ some .metadata) : About a (a.update t f) t where
  others _ ne := get_update.trans (if_neg ne)
  updates _ c := c
  plain plain := plain_put plain (keeps _ fun k => plain_ensureTargetState plain k)

/-- A document is added to one target. -/
lemma about_addDocumentToTarget (doc : MutableDocument) :
    About a (a.addDocumentToTarget p t doc) t := by
  rw [addDocumentToTarget]
  split
  case isTrue => exact .refl
  case isFalse =>
    constructor
    · intro t' ne
      exact SortedTable.get_put.trans (if_neg ne)
    · intro k c
      change SortedTable.contains (a.pendingDocumentUpdates.put doc.key doc) k = true
      rw [SortedTable.contains, SortedTable.get_put]
      split
      case isTrue => rfl
      case isFalse => exact c
    · intro plain
      apply plain_put plain
      intro k
      change SortedTable.get (SortedTable.put _ _ _) k ≠ _
      rw [SortedTable.get_put]
      split
      case isTrue =>
        split <;> exact fun h => by cases h
      case isFalse => exact plain_ensureTargetState plain k

/-- Removing a document brings no change of metadata. -/
lemma plain_remove {s : TargetState} {key : DocumentKey} {b : Bool}
    (plain : ∀ k, s.documentChanges.get k ≠ some .metadata) (k : DocumentKey) :
    (if b then s.addDocumentChange key .removed else s.removeDocumentChange key).documentChanges.get k
      ≠ some .metadata := by
  cases b with
  | true =>
    change SortedTable.get (SortedTable.put _ _ _) k ≠ _
    rw [SortedTable.get_put]
    split
    case isTrue => exact fun h => by cases h
    case isFalse => exact plain k
  | false =>
    change SortedTable.get (SortedTable.delete _ _) k ≠ _
    rw [SortedTable.get_delete]
    split
    case isTrue => exact fun h => by cases h
    case isFalse => exact plain k

/-- A document is removed from one target. -/
lemma about_removeDocumentFromTarget (key : DocumentKey) (updatedDocument : Option MutableDocument)
    (keyed : ∀ d, updatedDocument = some d → d.key = key) :
    About a (a.removeDocumentFromTarget p t key updatedDocument keyed) t := by
  rw [removeDocumentFromTarget]
  split
  case isTrue => exact .refl
  case isFalse =>
    have step : About a (a.update t fun s => if targetContainsDocument p t key then
        s.addDocumentChange key .removed else s.removeDocumentChange key) t :=
      about_update fun s plain k => plain_remove plain k
    cases updatedDocument with
    | none => exact step
    | some doc =>
      apply step.trans
      constructor
      · intro t' ne
        rfl
      · intro k c
        change SortedTable.contains (SortedTable.put _ key doc) k = true
        rw [SortedTable.contains, SortedTable.get_put]
        split
        case isTrue => rfl
        case isFalse => exact c
      · exact fun plain => plain

/-- Several steps about one target. -/
lemma about_foldl {α : Type*} {f : WatchChangeAggregator → α → WatchChangeAggregator}
    (step : ∀ a x, About a (f a x) t) (l : List α) : About a (l.foldl f a) t := by
  induction l generalizing a with
  | nil => exact .refl
  | cons x l ih => exact (step a x).trans ih

/-- A target that does not wait for answers can be emptied. -/
lemma resetTarget_spec {s : TargetState} (e : a.targetStates.get t = some s)
    (answered : s.isPending = false) :
    ∃ a', a.resetTarget p t = some a' ∧ About a a' t := by
  rw [resetTarget, e]
  dsimp only
  rw [answered, if_neg Bool.false_ne_true]
  refine ⟨_, rfl, ?_⟩
  have fresh : About a { a with targetStates := a.targetStates.put t .new } t :=
    ⟨fun t' ne => SortedTable.get_put.trans (if_neg ne), fun _ c => c, fun plain =>
      plain_put plain fun k h => by cases h⟩
  exact fresh.trans (about_foldl (fun b x => about_removeDocumentFromTarget x none _) _)

/-- A target that is active is pending no longer. -/
lemma isActive_of_update (act : (a.update t id).isActiveTarget p t = true) :
    ∃ s, (a.update t id).targetStates.get t = some s ∧ s.isPending = false := by
  refine ⟨_, get_update.trans (if_pos rfl), ?_⟩
  rw [isActiveTarget, targetDataForActiveTarget, get_update, if_pos rfl] at act
  cases e : (id (a.ensureTargetState t)).isPending with
  | false => rfl
  | true =>
    rw [Option.any_some, e, if_pos rfl] at act
    cases act

/-- A target change never stops the client. -/
lemma about_handleTargetChangeOf (state : WatchTargetChangeState) (resumeToken : String) :
    ∃ a', a.handleTargetChangeOf p state resumeToken t = some a' ∧ About a a' t := by
  have token {s : TargetState} (plain : ∀ k, s.documentChanges.get k ≠ some .metadata)
      (k : DocumentKey) : (s.updateResumeToken resumeToken).documentChanges.get k ≠
        some .metadata := by
    rw [TargetState.updateResumeToken]
    split
    case isTrue => exact plain k
    case isFalse => exact plain k
  have start : About a (a.update t id) t := about_update fun _ plain => plain
  cases state with
  | noChange =>
    rw [handleTargetChangeOf]
    split
    case isTrue =>
      exact ⟨_, rfl, start.trans (about_update fun _ plain => token plain)⟩
    case isFalse => exact ⟨_, rfl, start⟩
  | added =>
    rw [handleTargetChangeOf]
    refine ⟨_, rfl, start.trans (about_update ?_)⟩
    intro s plain
    apply token
    split
    case isTrue => exact fun k h => by cases h
    case isFalse => exact plain
  | removed =>
    rw [handleTargetChangeOf]
    have step := start.trans (about_update (a := a.update t id) (t := t)
      (f := TargetState.recordTargetResponse) fun _ plain => plain)
    split
    case isTrue =>
      refine ⟨_, rfl, step.trans ?_⟩
      constructor
      · intro t' ne
        exact SortedTable.get_delete.trans (if_neg ne)
      · exact fun _ c => c
      · intro plain t' s k e
        change SortedTable.get (SortedTable.delete _ t) t' = some s at e
        rw [SortedTable.get_delete] at e
        split at e
        case isTrue => cases e
        case isFalse => exact plain t' s k e
    case isFalse => exact ⟨_, rfl, step⟩
  | current =>
    rw [handleTargetChangeOf]
    split
    case isTrue => exact ⟨_, rfl, start.trans (about_update fun _ plain => token plain)⟩
    case isFalse => exact ⟨_, rfl, start⟩
  | reset =>
    rw [handleTargetChangeOf]
    split
    case isTrue act =>
      obtain ⟨s, e, answered⟩ := isActive_of_update act
      obtain ⟨a', er, about⟩ := resetTarget_spec (p := p) e answered
      refine ⟨a'.update t fun s => s.updateResumeToken resumeToken, by rw [er]; rfl, ?_⟩
      exact start.trans (about.trans (about_update fun _ plain => token plain))
    case isFalse => exact ⟨_, rfl, start⟩

/-! ## Messages -/

/-- Steps about each target of a list, in turn: one about our target has the effect that the server
    means, once or several times. -/
lemma knows_foldlM {f : WatchChangeAggregator → TargetId → Option WatchChangeAggregator}
    {g : Told → Told}
    (here : ∀ {a d s}, Knows a remote t reported d s →
      ∃ a' s', f a t = some a' ∧ About a a' t ∧ Knows a' remote t reported (g d) s')
    (there : ∀ {a t'}, ∃ a', f a t' = some a' ∧ About a a' t')
    (idem : ∀ d, (g (g d)).Same (g d)) (l : List TargetId) (plain : a.Plain)
    (h : Knows a remote t reported d s) :
    ∃ a' s', l.foldlM f a = some a' ∧ a'.Plain ∧
      Knows a' remote t reported (if t ∈ l then g d else d) s' := by
  induction l generalizing a d s with
  | nil => exact ⟨a, s, rfl, plain, h⟩
  | cons t' l ih =>
    by_cases e : t' = t
    · subst e
      obtain ⟨a1, s1, e1, about, h1⟩ := here h
      obtain ⟨a2, s2, e2, plain2, h2⟩ := ih (about.plain plain) h1
      refine ⟨a2, s2, by rw [List.foldlM_cons, e1]; exact e2, plain2, ?_⟩
      rw [if_pos List.mem_cons_self]
      split at h2
      case isTrue => exact h2.same (idem d)
      case isFalse => exact h2
    · obtain ⟨a1, e1, about⟩ := @there a t'
      obtain ⟨a2, s2, e2, plain2, h2⟩ := ih (about.plain plain) (h.about about fun e' => e e'.symm)
      refine ⟨a2, s2, by rw [List.foldlM_cons, e1]; exact e2, plain2, ?_⟩
      have mem : t ∈ t' :: l ↔ t ∈ l := by
        rw [List.mem_cons]
        exact or_iff_right fun e' => e e'.symm
      by_cases h' : t ∈ l
      · rw [if_pos h'] at h2
        rw [if_pos (mem.2 h')]
        exact h2
      · rw [if_neg h'] at h2
        rw [if_neg fun h'' => h' (mem.1 h'')]
        exact h2

/-- The same for steps that cannot fail. -/
lemma knows_foldl {f : WatchChangeAggregator → TargetId → WatchChangeAggregator} {g : Told → Told}
    (here : ∀ {a d s}, Knows a remote t reported d s → ∃ s', Knows (f a t) remote t reported (g d) s')
    (about : ∀ a t', About a (f a t') t') (idem : ∀ d, (g (g d)).Same (g d)) (l : List TargetId)
    (plain : a.Plain) (h : Knows a remote t reported d s) :
    (l.foldl f a).Plain ∧
      ∃ s', Knows (l.foldl f a) remote t reported (if t ∈ l then g d else d) s' := by
  obtain ⟨a', s', e, plain', h'⟩ := knows_foldlM (f := fun a t => pure (f a t)) (g := g)
    (fun h => by
      obtain ⟨s', h'⟩ := here h
      exact ⟨_, s', rfl, about _ _, h'⟩)
    ⟨_, rfl, about _ _⟩ idem l plain h
  rw [List.foldlM_pure] at e
  cases e
  exact ⟨plain', s', h'⟩

/-- A document put into the target is there, and one taken out is not, however often. -/
lemma Told.put_same {key : DocumentKey} : ((d.put key).put key).Same (d.put key) := by
  refine ⟨fun k => ?_, rfl⟩
  change (SortedTable.put (d.keys.put key ()) key ()).contains k =
    SortedTable.contains (d.keys.put key ()) k
  rw [contains_put_key, contains_put_key]
  cases decide (k = key) <;> rfl

/-- Taking a document twice is taking it once. -/
lemma Told.take_same {key : DocumentKey} : ((d.take key).take key).Same (d.take key) := by
  refine ⟨fun k => ?_, rfl⟩
  change (SortedTable.delete (d.keys.delete key) key).contains k =
    SortedTable.contains (d.keys.delete key) k
  rw [contains_delete_key, contains_delete_key]
  cases decide (k = key) <;> rfl

/-- What a document says of itself. -/
lemma Told.updated_eq {c : DocumentWatchChange} {doc : MutableDocument}
    (e : c.newDocument = some doc) (d : Told) : d.updated c =
      if doc.isFoundDocument then d.put c.documentKey
      else if doc.isNoDocument then d.take c.documentKey
      else d := by
  rw [Told.updated, e]

/-- A change without a document says nothing. -/
lemma Told.updated_none {c : DocumentWatchChange} (e : c.newDocument = none) (d : Told) :
    d.updated c = d := by
  rw [Told.updated, e]

/-- Saying it twice is saying it once. -/
lemma Told.updated_same {c : DocumentWatchChange} : ((d.updated c).updated c).Same (d.updated c) := by
  cases e : c.newDocument with
  | none =>
    rw [Told.updated_none e, Told.updated_none e]
    exact ⟨fun _ => rfl, rfl⟩
  | some doc =>
    rw [Told.updated_eq e, Told.updated_eq e]
    split
    case isTrue => exact Told.put_same
    case isFalse =>
      split
      case isTrue => exact Told.take_same
      case isFalse => exact ⟨fun _ => rfl, rfl⟩

/-- The document of one target. -/
lemma about_updateDocumentOfTarget (c : DocumentWatchChange) :
    About a (updateDocumentOfTarget p c a t) t := by
  rw [updateDocumentOfTarget]
  split
  case h_1 doc _ =>
    split
    case isTrue => exact about_addDocumentToTarget doc
    case isFalse =>
      split
      case isTrue => exact about_removeDocumentFromTarget _ _ _
      case isFalse => exact .refl
  case h_2 => exact .refl

/-- The document belongs to the target now, or does not exist. -/
lemma knows_updateDocumentOfTarget (c : DocumentWatchChange)
    (h : Knows a (p.getRemoteKeysForTarget t) t reported d s)
    (watched : (p.getTargetDataForTarget t).isSome = true) :
    ∃ s', Knows (updateDocumentOfTarget p c a t) (p.getRemoteKeysForTarget t) t reported
      (d.updated c) s' := by
  rw [updateDocumentOfTarget]
  split
  case h_1 doc e =>
    rw [Told.updated_eq e]
    split
    case isTrue =>
      rw [← c.keyed doc e]
      exact knows_addDocumentToTarget h watched doc
    case isFalse =>
      split
      case isTrue => exact knows_removeDocumentFromTarget h watched _ _ _
      case isFalse => exact ⟨s, h⟩
  case h_2 e =>
    rw [Told.updated_none e]
    exact ⟨s, h⟩

/-- A message about a document. -/
lemma knows_handleDocumentChange (c : DocumentWatchChange) (target : CoreQuery)
    (watched : (p.getTargetDataForTarget t).isSome = true) (plain : a.Plain)
    (h : Knows a (p.getRemoteKeysForTarget t) t reported d s) :
    (a.handleDocumentChange p c).Plain ∧ ∃ s', Knows (a.handleDocumentChange p c)
      (p.getRemoteKeysForTarget t) t reported (d.hear t target (.document c)) s' := by
  obtain ⟨plain1, s1, h1⟩ := knows_foldl (f := updateDocumentOfTarget p c) (g := Told.updated c)
    (fun h => knows_updateDocumentOfTarget c h watched) (fun _ _ => about_updateDocumentOfTarget c)
    (fun _ => Told.updated_same) c.updatedTargetIds plain h
  exact knows_foldl (g := fun d => d.take c.documentKey)
    (f := fun a t => a.removeDocumentFromTarget p t c.documentKey c.newDocument c.keyed)
    (fun h => knows_removeDocumentFromTarget h watched _ _ _)
    (fun _ _ => about_removeDocumentFromTarget _ _ _) (fun _ => Told.take_same)
    c.removedTargetIds plain1 h1

/-- Taking out all documents of a list. -/
lemma knows_foldl_remove (watched : (p.getTargetDataForTarget t).isSome = true)
    (l : List DocumentKey) (h : Knows a (p.getRemoteKeysForTarget t) t reported d s) :
    ∃ s', Knows (l.foldl (fun a key => a.removeDocumentFromTarget p t key none
      fun _ e => by cases e) a) (p.getRemoteKeysForTarget t) t reported (l.foldl Told.take d) s' := by
  induction l generalizing a d s with
  | nil => exact ⟨s, h⟩
  | cons key l ih =>
    obtain ⟨s1, h1⟩ := knows_removeDocumentFromTarget h watched key none fun _ e => by cases e
    exact ih h1

/-- What is named after several documents have been taken out. -/
lemma Told.contains_foldl_take {l : List DocumentKey} {k : DocumentKey} :
    (l.foldl Told.take d).keys.contains k = (!decide (k ∈ l) && d.keys.contains k) := by
  induction l generalizing d with
  | nil => simp
  | cons key l ih =>
    rw [List.foldl_cons, ih]
    change (_ && (d.keys.delete key).contains k) = _
    rw [contains_delete_key]
    by_cases e : k = key <;> simp [e]

/-- Taking documents out does not say whether these are all. -/
lemma Told.current_foldl_take {l : List DocumentKey} :
    (l.foldl Told.take d).current = d.current := by
  induction l generalizing d with
  | nil => rfl
  | cons key l ih => exact ih

/-- The target is emptied. -/
lemma knows_resetTarget (watched : (p.getTargetDataForTarget t).isSome = true)
    (h : Knows a (p.getRemoteKeysForTarget t) t reported d s) :
    ∃ a' s', a.resetTarget p t = some a' ∧ About a a' t ∧
      Knows a' (p.getRemoteKeysForTarget t) t reported Told.silence s' := by
  obtain ⟨a', e, about⟩ := resetTarget_spec (p := p) h.state h.answered
  have fresh : Knows { a with targetStates := a.targetStates.put t .new }
      (p.getRemoteKeysForTarget t) t reported ⟨p.getRemoteKeysForTarget t, false⟩ .new :=
    { state := SortedTable.get_put.trans (if_pos rfl)
      answered := rfl
      fits := fun k type e => by cases e
      keys := fun k => rfl
      current := rfl
      quiet := fun h => by cases h
      updates := fun k e => by cases e }
  obtain ⟨s', h'⟩ := knows_foldl_remove watched
    ((p.getRemoteKeysForTarget t).rows.map Prod.fst) fresh
  refine ⟨a', s', e, about, ?_⟩
  rw [resetTarget, h.state] at e
  dsimp only at e
  rw [h.answered, if_neg Bool.false_ne_true] at e
  rw [← Option.some.inj e]
  apply h'.same
  refine ⟨fun k => ?_, Told.current_foldl_take⟩
  rw [Told.contains_foldl_take]
  change _ = false
  cases c : SortedTable.contains (p.getRemoteKeysForTarget t) k with
  | false => exact Bool.and_false _
  | true =>
    rw [decide_eq_true (SortedTable.mem_keys_iff_contains.2 c)]
    rfl

/-! ## Counting -/

/-- The keys with one type of change. -/
lemma mem_keysOf {s : TargetState} {type : DocumentViewChange.Kind} {k : DocumentKey} :
    k ∈ s.keysOf type ↔ s.documentChanges.get k = some type := by
  rw [TargetState.keysOf, List.mem_map, SortedTable.get_eq_some]
  constructor
  · rintro ⟨r, mem, rfl⟩
    obtain ⟨mem, e⟩ := List.mem_filter.1 mem
    rw [← of_decide_eq_true e]
    exact mem
  · intro mem
    exact ⟨_, List.mem_filter.2 ⟨mem, decide_eq_true rfl⟩, rfl⟩

/-- Each document has one change. -/
lemma nodup_keysOf {s : TargetState} {type : DocumentViewChange.Kind} : (s.keysOf type).Nodup :=
  List.pairwise_map.2 (s.documentChanges.distinct_rows.sublist List.filter_sublist)

/-- Without changes of metadata the changes can be handed on. -/
lemma exists_toTargetChange {s : TargetState}
    (plain : ∀ k, s.documentChanges.get k ≠ some .metadata) :
    s.toTargetChange =
      some ⟨s.current, s.keysOf .added, s.keysOf .modified, s.keysOf .removed⟩ := by
  rw [TargetState.toTargetChange, if_neg]
  rw [List.any_eq_true]
  rintro ⟨r, mem, e⟩
  apply plain r.1
  rw [SortedTable.get_eq_some, ← of_decide_eq_true e]
  exact mem

/-- The number of documents the server has named, from the differences. -/
lemma Knows.count (h : Knows a remote t reported d s) :
    (d.keys.rows.length : Int) =
      remote.rows.length + (s.keysOf .added).length - (s.keysOf .removed).length := by
  have inside (k : DocumentKey) (e : s.documentChanges.get k = some .removed) :
      remote.contains k = true := by
    rcases h.fits k _ e with ⟨no, _⟩ | ⟨_, c⟩
    · cases no
    · exact c
  have perm : (d.keys.rows.map Prod.fst).Perm
      ((remote.rows.map Prod.fst).filter (fun k => k ∉ s.keysOf .removed) ++ s.keysOf .added) := by
    rw [List.perm_ext_iff_of_nodup (SortedTable.nodup_keys _)]
    · intro k
      rw [SortedTable.mem_keys_iff_contains, h.keys, List.mem_append, List.mem_filter, SortedTable.mem_keys_iff_contains,
        decide_eq_true_eq, mem_keysOf, mem_keysOf, TargetState.has]
      cases e : s.documentChanges.get k with
      | none => simp
      | some type =>
        rcases h.fits k type e with ⟨rfl, no⟩ | ⟨rfl | rfl, c⟩
        · simp
        · simp [c]
        · simp
    · rw [List.nodup_append]
      refine ⟨(SortedTable.nodup_keys _).filter _, nodup_keysOf, ?_⟩
      rintro k mem k' mem' rfl
      rw [List.mem_filter, SortedTable.mem_keys_iff_contains] at mem
      rcases h.fits k _ (mem_keysOf.1 mem') with ⟨_, no⟩ | ⟨no | no, _⟩
      · rw [mem.1] at no
        cases no
      · cases no
      · cases no
  have gone : ((remote.rows.map Prod.fst).filter fun k => k ∈ s.keysOf .removed).Perm
      (s.keysOf .removed) := by
    rw [List.perm_ext_iff_of_nodup ((SortedTable.nodup_keys _).filter _) nodup_keysOf]
    intro k
    rw [List.mem_filter, SortedTable.mem_keys_iff_contains, decide_eq_true_eq]
    exact ⟨And.right, fun mem => ⟨inside k (mem_keysOf.1 mem), mem⟩⟩
  have all := List.length_eq_length_filter_add (l := remote.rows.map Prod.fst)
    fun k => decide (k ∈ s.keysOf .removed)
  have e1 := perm.length_eq
  have e2 := gone.length_eq
  simp only [decide_not] at e1
  rw [List.length_append, List.length_map] at e1
  rw [List.length_map] at all
  omega

/-! ## All messages -/

/-- A change of the state that leaves the documents alone. -/
lemma Knows.update (h : Knows a remote t reported d s) {f : TargetState → TargetState} {c : Bool}
    (counts : (f s).outstandingResponses = s.outstandingResponses)
    (docs : (f s).documentChanges = s.documentChanges) (cur : (f s).current = c)
    (quiet : (f s).hasPendingChanges = false → s.hasPendingChanges = false ∧ c = s.current) :
    Knows (a.update t f) remote t reported { d with current := c } (f s) where
  state := by rw [get_update, if_pos rfl, h.ensureTargetState]
  answered := by
    have e := h.answered
    rw [TargetState.isPending] at e ⊢
    rw [counts, e]
  fits := by
    intro k type e
    rw [docs] at e
    exact h.fits k type e
  keys := by
    intro k
    change d.keys.contains k = _
    rw [h.keys, TargetState.has, TargetState.has, docs]
  current := cur
  quiet := by
    intro no
    obtain ⟨no', e⟩ := quiet no
    rw [docs, cur, e]
    exact h.quiet no'
  updates := by
    intro k e
    rw [docs] at e
    exact h.updates k e

/-- A token says nothing of the documents. -/
lemma Knows.updateResumeToken (h : Knows a remote t reported d s) (resumeToken : String) :
    ∃ s', Knows (a.update t fun s => s.updateResumeToken resumeToken) remote t reported d s' := by
  refine ⟨s.updateResumeToken resumeToken,
    (h.update (c := s.current) ?_ ?_ ?_ ?_).same ⟨fun _ => rfl, h.current⟩⟩
  · rw [TargetState.updateResumeToken]
    split <;> rfl
  · rw [TargetState.updateResumeToken]
    split <;> rfl
  · rw [TargetState.updateResumeToken]
    split <;> rfl
  · intro no
    rw [TargetState.updateResumeToken] at no
    split at no
    case isTrue => cases no
    case isFalse => exact ⟨no, rfl⟩

/-- A message that says that a target is watched, or no longer. -/
def Answers (t : TargetId) : WatchChange → Prop
  | .targetChange state targetIds _ =>
    (state = .added ∨ state = .removed) ∧ (targetIds = [] ∨ t ∈ targetIds)
  | _ => False

/-- A target change that is no answer, for one target. -/
lemma knows_handleTargetChangeOf (state : WatchTargetChangeState) (resumeToken : String)
    (no1 : state ≠ .added) (no2 : state ≠ .removed)
    (watched : (p.getTargetDataForTarget t).isSome = true)
    (h : Knows a (p.getRemoteKeysForTarget t) t reported d s) :
    ∃ a' s', a.handleTargetChangeOf p state resumeToken t = some a' ∧ About a a' t ∧
      Knows a' (p.getRemoteKeysForTarget t) t reported (d.changed state) s' := by
  obtain ⟨a', e, about⟩ := about_handleTargetChangeOf (a := a) (p := p) (t := t) state resumeToken
  have start : Knows (a.update t id) (p.getRemoteKeysForTarget t) t reported d s :=
    (h.update (f := id) (c := s.current) rfl rfl rfl fun no => ⟨no, rfl⟩).same
      ⟨fun _ => rfl, h.current⟩
  have act := start.isActiveTarget watched
  suffices known : ∃ s', Knows a' (p.getRemoteKeysForTarget t) t reported (d.changed state) s' by
    obtain ⟨s', h'⟩ := known
    exact ⟨a', s', e, about, h'⟩
  cases state with
  | noChange =>
    rw [handleTargetChangeOf, if_pos act] at e
    rw [← Option.some.inj e]
    exact start.updateResumeToken resumeToken
  | added => exact absurd rfl no1
  | removed => exact absurd rfl no2
  | current =>
    rw [handleTargetChangeOf, if_pos act] at e
    rw [← Option.some.inj e]
    refine ⟨_, start.update (f := fun s => s.markCurrent.updateResumeToken resumeToken) (c := true)
      ?_ ?_ ?_ ?_⟩
    · rw [TargetState.updateResumeToken]
      split <;> rfl
    · rw [TargetState.updateResumeToken]
      split <;> rfl
    · rw [TargetState.updateResumeToken]
      split <;> rfl
    · intro no
      rw [TargetState.updateResumeToken] at no
      split at no <;> cases no
  | reset =>
    obtain ⟨a1, s1, e1, _, h1⟩ := knows_resetTarget watched start
    rw [handleTargetChangeOf, if_pos act, e1] at e
    rw [← Option.some.inj e]
    exact h1.updateResumeToken resumeToken

/-- Saying it twice is saying it once. -/
lemma changed_same (state : WatchTargetChangeState) (d : Told) :
    ((d.changed state).changed state).Same (d.changed state) := by
  cases state <;> exact ⟨fun _ => rfl, rfl⟩

/-- A target change without targets is about each active one. -/
lemma mem_getTargetIds (watched : (p.getTargetDataForTarget t).isSome = true)
    (h : Knows a (p.getRemoteKeysForTarget t) t reported d s) (targetIds : List TargetId) :
    t ∈ a.getTargetIds p targetIds ↔ targetIds = [] ∨ t ∈ targetIds := by
  rw [getTargetIds]
  split
  case isTrue ne => exact (or_iff_right ne).symm
  case isFalse eq =>
    refine iff_of_true ?_ (.inl (not_not.1 eq))
    refine List.mem_filter.2 ⟨?_, h.isActiveTarget watched⟩
    exact List.mem_map.2 ⟨_, SortedTable.get_eq_some.1 h.state, rfl⟩

/-- A message about targets that says nothing of whether ours is watched. -/
lemma knows_handleTargetChange (state : WatchTargetChangeState) (targetIds : List TargetId)
    (resumeToken : String) (target : CoreQuery)
    (no : ¬ Answers t (.targetChange state targetIds resumeToken))
    (watched : (p.getTargetDataForTarget t).isSome = true) (plain : a.Plain)
    (h : Knows a (p.getRemoteKeysForTarget t) t reported d s) :
    ∃ a' s', a.handleTargetChange p state targetIds resumeToken = some a' ∧ a'.Plain ∧
      Knows a' (p.getRemoteKeysForTarget t) t reported
        (d.hear t target (.targetChange state targetIds resumeToken)) s' := by
  have mem := mem_getTargetIds watched h targetIds
  rw [handleTargetChange]
  by_cases ours : targetIds = [] ∨ t ∈ targetIds
  · have no1 : state ≠ .added := fun e => no ⟨.inl e, ours⟩
    have no2 : state ≠ .removed := fun e => no ⟨.inr e, ours⟩
    obtain ⟨a', s', e, plain', h'⟩ := knows_foldlM
      (f := fun a t => a.handleTargetChangeOf p state resumeToken t) (g := Told.changed state)
      (fun h => knows_handleTargetChangeOf state resumeToken no1 no2 watched h)
      (about_handleTargetChangeOf state resumeToken) (changed_same state)
      (a.getTargetIds p targetIds) plain h
    rw [if_pos (mem.2 ours)] at h'
    refine ⟨a', s', e, plain', ?_⟩
    rw [Told.hear, if_pos ours]
    exact h'
  · -- every step is about another target
    have others : ∀ (l : List TargetId) (a : WatchChangeAggregator), t ∉ l → a.Plain →
        Knows a (p.getRemoteKeysForTarget t) t reported d s →
        ∃ a', l.foldlM (fun a t => a.handleTargetChangeOf p state resumeToken t) a = some a' ∧
          a'.Plain ∧ Knows a' (p.getRemoteKeysForTarget t) t reported d s := by
      intro l
      induction l with
      | nil => exact fun a _ plain h => ⟨a, rfl, plain, h⟩
      | cons t' l ih =>
        intro a out plain h
        obtain ⟨a1, e1, about⟩ :=
          about_handleTargetChangeOf (a := a) (p := p) (t := t') state resumeToken
        obtain ⟨a2, e2, plain2, h2⟩ := ih a1 (fun m => out (List.mem_cons_of_mem _ m))
          (about.plain plain) (h.about about fun e => out (e ▸ List.mem_cons_self))
        exact ⟨a2, by rw [List.foldlM_cons, e1]; exact e2, plain2, h2⟩
    obtain ⟨a', e, plain', h'⟩ := others _ a (fun m => ours (mem.1 m)) plain h
    refine ⟨a', s, e, plain', ?_⟩
    rw [Told.hear, if_neg ours]
    exact h'

/-- The number of documents of a target that is one document is 0 or 1. -/
def Countable (p : TargetMetadataProvider) : WatchChange → Prop
  | .existenceFilter t count => ∀ data, p.getTargetDataForTarget t = some data →
    (documentOfTarget data.target).isSome = true → count ≤ 1
  | _ => True

/-- An existence filter never stops the client. -/
lemma about_handleExistenceFilter (plain : a.Plain) {count : Nat}
    (countable : Countable p (.existenceFilter t count)) :
    ∃ a', a.handleExistenceFilter p t count = some a' ∧ About a a' t := by
  rw [handleExistenceFilter]
  cases e : a.targetDataForActiveTarget p t with
  | none => exact ⟨a, rfl, .refl⟩
  | some data =>
    have watched : p.getTargetDataForTarget t = some data := by
      rw [targetDataForActiveTarget] at e
      split at e
      case isTrue => cases e
      case isFalse => exact e
    dsimp only
    cases ed : documentOfTarget data.target with
    | some key =>
      dsimp only
      have le := countable data watched (by rw [ed]; rfl)
      by_cases zero : count = 0
      · rw [if_pos zero]
        exact ⟨_, rfl, about_removeDocumentFromTarget _ _ _⟩
      · rw [if_neg zero, if_pos (by omega)]
        exact ⟨a, rfl, .refl⟩
    | none =>
      have start : About a (a.update t id) t := about_update fun _ plain => plain
      have counted := exists_toTargetChange (s := (a.update t id).ensureTargetState t)
        fun k => plain_ensureTargetState (start.plain plain) k
      have act : (a.update t id).isActiveTarget p t = true := by
        rw [targetDataForActiveTarget] at e
        split at e
        case isTrue => cases e
        case isFalse no =>
          rw [isActiveTarget, targetDataForActiveTarget, get_update, if_pos rfl, if_neg, watched]
          · rfl
          · change ¬ (a.ensureTargetState t).isPending = true
            rw [ensureTargetState]
            cases es : a.targetStates.get t with
            | none => decide
            | some s =>
              rw [es] at no
              exact no
      obtain ⟨s, es, answered⟩ := isActive_of_update act
      obtain ⟨a', er, about⟩ := resetTarget_spec (p := p) es answered
      change ∃ a', Option.bind ((a.update t id).getCurrentDocumentCountForTarget p t) _ = _ ∧ _
      rw [getCurrentDocumentCountForTarget, counted]
      dsimp only [Option.map_some, Option.bind_some]
      split
      case isTrue =>
        rw [er]
        exact ⟨_, rfl, start.trans ⟨about.others, about.updates, about.plain⟩⟩
      case isFalse => exact ⟨_, rfl, start⟩

/-- An existence filter says how many documents the target has. -/
lemma knows_handleExistenceFilter {count : Nat} {data : TargetData}
    (countable : Countable p (.existenceFilter t' count))
    (watched : p.getTargetDataForTarget t = some data) (plain : a.Plain)
    (h : Knows a (p.getRemoteKeysForTarget t) t reported d s) :
    ∃ a' s', a.handleExistenceFilter p t' count = some a' ∧ a'.Plain ∧
      Knows a' (p.getRemoteKeysForTarget t) t reported
        (d.hear t data.target (.existenceFilter t' count)) s' := by
  obtain ⟨a', e, about⟩ := about_handleExistenceFilter plain countable
  by_cases ours : t' = t
  swap
  · refine ⟨a', s, e, about.plain plain, ?_⟩
    rw [Told.hear, if_neg ours]
    exact h.about about fun e => ours e.symm
  subst ours
  have watched' : (p.getTargetDataForTarget t').isSome = true := by
    rw [watched]
    rfl
  suffices known : ∃ s', Knows a' (p.getRemoteKeysForTarget t') t' reported
      (d.hear t' data.target (.existenceFilter t' count)) s' by
    obtain ⟨s', h'⟩ := known
    exact ⟨a', s', e, about.plain plain, h'⟩
  have active : a.targetDataForActiveTarget p t' = some data := by
    have act := h.isActiveTarget watched'
    rw [isActiveTarget, targetDataForActiveTarget] at act
    rw [targetDataForActiveTarget]
    split at act
    case isTrue => cases act
    case isFalse no => rw [if_neg no, watched]
  rw [handleExistenceFilter, active] at e
  rw [Told.hear, if_pos rfl]
  dsimp only at e ⊢
  cases ed : documentOfTarget data.target with
  | some key =>
    rw [ed] at e
    dsimp only at e ⊢
    by_cases zero : count = 0
    · rw [if_pos zero] at e ⊢
      rw [← Option.some.inj e]
      exact knows_removeDocumentFromTarget h watched' _ _ _
    · rw [if_neg zero] at e ⊢
      split at e
      case isTrue =>
        rw [← Option.some.inj e]
        exact ⟨s, h⟩
      case isFalse => cases e
  | none =>
    rw [ed] at e
    dsimp only at e ⊢
    have start : Knows (a.update t' id) (p.getRemoteKeysForTarget t') t' reported d s :=
      (h.update (f := id) (c := s.current) rfl rfl rfl fun no => ⟨no, rfl⟩).same
        ⟨fun _ => rfl, h.current⟩
    have counted := exists_toTargetChange (s := s) fun k => plain t' s k h.state
    change Option.bind ((a.update t' id).getCurrentDocumentCountForTarget p t') _ = _ at e
    rw [getCurrentDocumentCountForTarget, start.ensureTargetState, counted] at e
    dsimp only [Option.map_some, Option.bind_some] at e
    rw [← h.count] at e
    by_cases differ : (d.keys.rows.length : Int) ≠ count
    · rw [if_pos differ] at e
      obtain ⟨a1, s1, e1, _, h1⟩ := knows_resetTarget watched' start
      rw [e1] at e
      rw [← Option.some.inj e, if_pos fun e' => differ (congrArg Nat.cast e')]
      exact ⟨s1, h1.frame rfl fun _ c => c⟩
    · rw [if_neg differ] at e
      rw [← Option.some.inj e, if_neg fun no => no (Int.ofNat.inj (not_not.1 differ))]
      exact ⟨s, start⟩

/-- No message stops the client, and the aggregator knows what the server has said. -/
lemma knows_handle {m : WatchChange} {data : TargetData} (countable : Countable p m)
    (no : ¬ Answers t m) (watched : p.getTargetDataForTarget t = some data) (plain : a.Plain)
    (h : Knows a (p.getRemoteKeysForTarget t) t reported d s) :
    ∃ a' s', a.handle p m = some a' ∧ a'.Plain ∧
      Knows a' (p.getRemoteKeysForTarget t) t reported (d.hear t data.target m) s' := by
  have watched' : (p.getTargetDataForTarget t).isSome = true := by
    rw [watched]
    rfl
  cases m with
  | document c =>
    obtain ⟨plain', s', h'⟩ := knows_handleDocumentChange c data.target watched' plain h
    exact ⟨_, s', rfl, plain', h'⟩
  | existenceFilter t' count => exact knows_handleExistenceFilter countable watched plain h
  | targetChange state targetIds resumeToken =>
    exact knows_handleTargetChange state targetIds resumeToken data.target no watched' plain h

end WatchChangeAggregator

end Lumiere.Firestore.Client

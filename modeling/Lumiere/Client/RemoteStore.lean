import Lumiere.Base.Run
import Lumiere.Client.LimboResolution
import Lumiere.Client.WatchRequests

/-!
# The client's side of the watch stream

The client asks for its targets when the stream opens, or when it begins to listen while the stream
is open, hears the messages, and raises a snapshot with each message that carries a version. A
target whose documents the server has counted differently is asked about anew. Whatever happens,
every target waits for an answer or the aggregator knows what the server has named for it
(`Follows`), and after a snapshot the views know it too (`WatchedStream.run_agrees`).
-/

namespace Lumiere.Firestore.Client

open Transition

/-- A target that the client listens to, with the documents that its view knows the server to have
    named. -/
structure ListenTarget where
  data : TargetData
  remoteKeys : DocumentKeySet

/-- The view of the target takes over what an event says about it. -/
def ListenTarget.applyTargetChange (target : ListenTarget) (targetChange : Option TargetChange) :
    Option ListenTarget :=
  let view : View target.data.target := View.create target.remoteKeys
  (view.applyTargetChange targetChange).map fun view =>
    { target with remoteKeys := view.syncedDocuments }

/-- The client's side of the watch stream. -/
structure RemoteStore where
  isOpen : Bool
  listenTargets : SortedTable TargetId ListenTarget
  watchChangeAggregator : WatchChangeAggregator
  lastRemoteSnapshotVersion : SnapshotVersion

namespace RemoteStore

/-- The stream is closed, and nothing is listened to. -/
def new : RemoteStore where
  isOpen := false
  listenTargets := SortedTable.empty
  watchChangeAggregator := .new
  lastRemoteSnapshotVersion := 0

/-- What the aggregator learns from the client. -/
def provider (r : RemoteStore) : TargetMetadataProvider where
  getRemoteKeysForTarget t := (r.listenTargets.get t).elim SortedTable.empty ListenTarget.remoteKeys
  getTargetDataForTarget t := (r.listenTargets.get t).map ListenTarget.data

/-- A request to watch a target waits for an answer. -/
def sendWatchRequest (r : RemoteStore) (t : TargetId) : RemoteStore :=
  { r with watchChangeAggregator := r.watchChangeAggregator.recordPendingTargetRequest t }

/-- A request to watch a target no longer waits for an answer. -/
def sendUnwatchRequest (r : RemoteStore) (t : TargetId) : RemoteStore :=
  { r with watchChangeAggregator := r.watchChangeAggregator.recordPendingTargetRequest t }

/-- A target is listened to, unless it is already. -/
def listen (r : RemoteStore) (target : ListenTarget) : RemoteStore :=
  if r.listenTargets.contains target.data.targetId then r
  else
    let r := { r with listenTargets := r.listenTargets.put target.data.targetId target }
    -- the listen is sent when the stream opens, unless it is open
    if r.isOpen then r.sendWatchRequest target.data.targetId else r

/-- A target is given up; it must be listened to. -/
def stopListening (r : RemoteStore) (t : TargetId) : Option RemoteStore :=
  if r.listenTargets.contains t then
    let r := { r with listenTargets := r.listenTargets.delete t }
    some (if r.isOpen then r.sendUnwatchRequest t else r)
  else none

/-- Restores the existing watches. -/
def onWatchStreamOpen (r : RemoteStore) : RemoteStore :=
  (r.listenTargets.rows.map Prod.fst).foldl sendWatchRequest { r with isOpen := true }

/-- The answers that are due will not come. -/
def onWatchStreamClose (r : RemoteStore) : RemoteStore :=
  { r with isOpen := false, watchChangeAggregator := .new }

/-- Unwatches a target and watches it again, to get all of its documents. -/
def relisten (r : RemoteStore) (t : TargetId) : RemoteStore :=
  if r.listenTargets.contains t then (r.sendUnwatchRequest t).sendWatchRequest t else r

/-- The views take over what the event says. -/
def applyRemoteEvent (r : RemoteStore) (e : RemoteEvent) : Option RemoteStore := do
  let (listenTargets, _) ← r.listenTargets.traverse
    (fun _ t target => (target.applyTargetChange (e.targetChanges.get t)).map (·, ())) ()
  pure { r with
    listenTargets := listenTargets
    lastRemoteSnapshotVersion := e.snapshotVersion }

/-- The event of a snapshot, which the sync engine gets. -/
def raiseWatchSnapshot (r : RemoteStore) (version : SnapshotVersion) :
    Option (RemoteEvent × RemoteStore) := do
  let (e, a) ← r.watchChangeAggregator.createRemoteEvent r.provider version
  let r := e.targetMismatches.foldl relisten { r with watchChangeAggregator := a }
  let r ← r.applyRemoteEvent e.event
  pure (e.event, r)

/-- One message of the stream. A snapshot that is older than the last one raises nothing. -/
def onWatchStreamChange (r : RemoteStore) (m : WatchChange) (version : SnapshotVersion) :
    Option (Option RemoteEvent × RemoteStore) := do
  let a ← r.watchChangeAggregator.handle r.provider m
  let r := { r with watchChangeAggregator := a }
  if version ≠ 0 ∧ r.lastRemoteSnapshotVersion ≤ version then
    let (e, r) ← r.raiseWatchSnapshot version
    pure (some e, r)
  else pure (none, r)

/-- The server refuses a target, unless it has been removed already. -/
def processTargetErrorOf (r : RemoteStore) (t : TargetId) : RemoteStore :=
  if r.listenTargets.contains t then
    { r with
      listenTargets := r.listenTargets.delete t
      watchChangeAggregator := r.watchChangeAggregator.removeTarget t }
  else r

/-- The server refuses some targets. -/
def processTargetError (r : RemoteStore) (targetIds : List TargetId) : RemoteStore :=
  targetIds.foldl processTargetErrorOf r

/-- The documents that the view of a target knows the server to have named. -/
def remoteKeys (r : RemoteStore) (t : TargetId) : Option DocumentKeySet :=
  (r.listenTargets.get t).map ListenTarget.remoteKeys

end RemoteStore

/-- Whether a message says that the server begins with a target. -/
def Told.begins (t : TargetId) : WatchChange → Bool
  | .targetChange .added targetIds _ => t ∈ targetIds
  | _ => false

namespace Told

variable {d d' : Told} {t : TargetId}

/-- What is said of the documents does not depend on whether these are all. -/
lemma hear_keys {target : CoreQuery} {m : WatchChange} (same : d.keys = d'.keys) :
    (d.hear t target m).keys = (d'.hear t target m).keys := by
  obtain ⟨keys, current⟩ := d
  obtain ⟨keys', current'⟩ := d'
  cases same
  cases m with
  | document c =>
    have up : ((⟨keys, current⟩ : Told).updated c).keys =
        ((⟨keys, current'⟩ : Told).updated c).keys := by
      rw [updated, updated]
      split
      case h_1 =>
        split
        case isTrue => rfl
        case isFalse => split <;> rfl
      case h_2 => rfl
    rw [hear, hear]
    split <;> split
    · exact congrArg (SortedTable.delete · c.documentKey) up
    · rfl
    · exact up
    · rfl
  | existenceFilter t' count =>
    rw [hear, hear]
    split
    case isTrue =>
      split
      case h_1 => split <;> rfl
      case h_2 => dsimp only; split <;> rfl
    case isFalse => rfl
  | targetChange state targetIds resumeToken =>
    rw [hear, hear]
    split
    case isTrue => cases state <;> rfl
    case isFalse => rfl

end Told

namespace RemoteStore

open WatchChangeAggregator

variable {r r' : RemoteStore} {named : TargetId → DocumentKeySet} {t : TargetId}
  {target : ListenTarget}

/-- The documents that the server has named for a target once it says a message: it begins with
    those that the client knows. -/
def hear (r : RemoteStore) (named : TargetId → DocumentKeySet) (m : WatchChange) (t : TargetId) :
    DocumentKeySet :=
  match r.listenTargets.get t with
  | none => named t
  | some target =>
    if Told.begins t m then target.remoteKeys
    else (Told.hear t target.data.target ⟨named t, false⟩ m).keys

/-- While the stream is open, every target that the client listens to waits for an answer, or the
    aggregator knows what the server has named. -/
structure Follows (r : RemoteStore) (named : TargetId → DocumentKeySet) : Prop where
  plain : r.watchChangeAggregator.Plain
  counts : ∀ t, 0 ≤ r.watchChangeAggregator.outstanding t
  closed : r.isOpen = false → r.watchChangeAggregator = .new
  there : r.isOpen = true → ∀ t target, r.listenTargets.get t = some target →
    r.watchChangeAggregator.targetStates.contains t = true
  known : r.isOpen = true → ∀ t target, r.listenTargets.get t = some target →
    r.watchChangeAggregator.outstanding t = 0 →
      KnowsKeys r.watchChangeAggregator target.remoteKeys t (named t)

/-- The views know all that the server has named, but for targets that wait for an answer. -/
def Agrees (r : RemoteStore) (named : TargetId → DocumentKeySet) : Prop :=
  ∀ t target, r.listenTargets.get t = some target → r.watchChangeAggregator.outstanding t = 0 →
    ∀ k, target.remoteKeys.contains k = (named t).contains k

/-- In the beginning no change waits. -/
lemma new_plain : WatchChangeAggregator.new.Plain := by
  intro t s k e
  cases e

/-- In the beginning nothing is known. -/
lemma new_follows : new.Follows named where
  plain := new_plain
  counts _ := le_refl 0
  closed _ := rfl
  there no := by cases no
  known no := by cases no

/-- Nothing is known while the stream is closed. -/
lemma Follows.of_closed (h : r.Follows named) (closed : r.isOpen = false)
    (targets : SortedTable TargetId ListenTarget) :
    ({ r with listenTargets := targets } : RemoteStore).Follows named where
  plain := h.plain
  counts := h.counts
  closed := h.closed
  there no := absurd (closed.symm.trans no) Bool.false_ne_true
  known no := absurd (closed.symm.trans no) Bool.false_ne_true

/-! ## Requests -/

/-- A request about a target, whatever becomes of the target. -/
lemma Follows.request (h : r.Follows named) (open_ : r.isOpen = true)
    {targets : SortedTable TargetId ListenTarget}
    (others : ∀ t', t' ≠ t → targets.get t' = r.listenTargets.get t') :
    (({ r with listenTargets := targets } : RemoteStore).sendWatchRequest t).Follows named := by
  have about : About r.watchChangeAggregator
      (r.watchChangeAggregator.recordPendingTargetRequest t) t := about_recordPendingTargetRequest
  have count := outstanding_recordPendingTargetRequest (a := r.watchChangeAggregator) (t := t)
  have same (t' : TargetId) (ne : t' ≠ t) :
      (r.watchChangeAggregator.recordPendingTargetRequest t).outstanding t' =
        r.watchChangeAggregator.outstanding t' :=
    outstanding_congr (about.others t' ne)
  constructor
  · exact about.plain h.plain
  · intro t'
    have before := h.counts t'
    by_cases e : t' = t
    · subst e
      exact count ▸ by omega
    · exact (same t' e).symm ▸ before
  · intro no
    exact absurd (no.symm.trans open_) Bool.false_ne_true
  · intro _ t' target e
    by_cases ours : t' = t
    · subst ours
      exact contains_recordPendingTargetRequest
    · have there := h.there open_ t' target ((others t' ours).symm.trans e)
      rw [SortedTable.contains] at there ⊢
      exact (congrArg Option.isSome (about.others t' ours)).trans there
  · intro _ t' target e zero
    by_cases ours : t' = t
    · subst ours
      have before := h.counts t'
      have zero' : (r.watchChangeAggregator.recordPendingTargetRequest t').outstanding t' = 0 :=
        zero
      omega
    · exact (h.known open_ t' target ((others t' ours).symm.trans e)
        ((same t' ours).symm.trans zero)).about about ours

/-- A new target waits for an answer. -/
lemma listen_follows (h : r.Follows named) (target : ListenTarget) :
    (r.listen target).Follows named := by
  rw [listen]
  split
  case isTrue => exact h
  case isFalse =>
    dsimp only
    split
    case isTrue open_ =>
      exact h.request open_ fun t' ne => SortedTable.get_put.trans (if_neg ne)
    case isFalse closed => exact h.of_closed (Bool.not_eq_true _ ▸ closed) _

/-- A target that is listened to can be given up. -/
lemma stopListening_follows (h : r.Follows named) (there : r.listenTargets.contains t = true) :
    ∃ r', r.stopListening t = some r' ∧ r'.Follows named := by
  rw [stopListening, if_pos there]
  refine ⟨_, rfl, ?_⟩
  dsimp only
  split
  case isTrue open_ =>
    exact h.request open_ fun t' ne => SortedTable.get_delete.trans (if_neg ne)
  case isFalse closed => exact h.of_closed (Bool.not_eq_true _ ▸ closed) _

/-- The stream closes; what the aggregator knew is forgotten. -/
lemma onWatchStreamClose_follows : r.onWatchStreamClose.Follows named where
  plain := new_plain
  counts _ := le_refl 0
  closed _ := rfl
  there no := by cases no
  known no := by cases no

/-- Requests have been sent for some targets. -/
structure Requested (r r' : RemoteStore) (l : List TargetId) : Prop where
  isOpen : r'.isOpen = r.isOpen
  listenTargets : r'.listenTargets = r.listenTargets
  plain : r.watchChangeAggregator.Plain → r'.watchChangeAggregator.Plain
  counts : ∀ t, r.watchChangeAggregator.outstanding t ≤ r'.watchChangeAggregator.outstanding t
  there : ∀ t, r.watchChangeAggregator.targetStates.contains t = true →
    r'.watchChangeAggregator.targetStates.contains t = true
  waits : ∀ t ∈ l,
    r.watchChangeAggregator.outstanding t < r'.watchChangeAggregator.outstanding t ∧
      r'.watchChangeAggregator.targetStates.contains t = true

/-- One request. -/
lemma requested_sendWatchRequest : Requested r (r.sendWatchRequest t) [t] := by
  have about : About r.watchChangeAggregator (r.sendWatchRequest t).watchChangeAggregator t :=
    about_recordPendingTargetRequest
  have count : (r.sendWatchRequest t).watchChangeAggregator.outstanding t =
      r.watchChangeAggregator.outstanding t + 1 := outstanding_recordPendingTargetRequest
  have there : (r.sendWatchRequest t).watchChangeAggregator.targetStates.contains t = true :=
    contains_recordPendingTargetRequest
  constructor
  case isOpen => rfl
  case listenTargets => rfl
  case plain => exact about.plain
  case counts =>
    intro t'
    by_cases e : t' = t
    · rw [e, count]
      omega
    · exact (outstanding_congr (about.others t' e)).ge
  case there =>
    intro t' c
    by_cases e : t' = t
    · rw [e]
      exact there
    · rw [SortedTable.contains] at c ⊢
      exact (congrArg Option.isSome (about.others t' e)).trans c
  case waits =>
    intro t' mem
    rw [List.mem_singleton.1 mem, count]
    exact ⟨Int.lt_succ _, there⟩

/-- A request for each target of a list. -/
lemma requested_foldl (l : List TargetId) : Requested r (l.foldl sendWatchRequest r) l := by
  induction l generalizing r with
  | nil =>
    refine ⟨rfl, rfl, id, fun _ => le_refl _, fun _ c => c, ?_⟩
    intro t mem
    cases mem
  | cons t l ih =>
    have first := requested_sendWatchRequest (r := r) (t := t)
    have rest := ih (r := r.sendWatchRequest t)
    refine ⟨rest.isOpen, rest.listenTargets, fun p => rest.plain (first.plain p),
      fun t' => (first.counts t').trans (rest.counts t'),
      fun t' c => rest.there t' (first.there t' c), ?_⟩
    intro t' mem
    rcases List.mem_cons.1 mem with rfl | mem'
    · obtain ⟨more, there⟩ := first.waits t' (List.mem_singleton.2 rfl)
      exact ⟨more.trans_le (rest.counts t'), rest.there t' there⟩
    · obtain ⟨more, there⟩ := rest.waits t' mem'
      exact ⟨(first.counts t').trans_lt more, there⟩

/-- All targets are asked about again. -/
lemma onWatchStreamOpen_follows (h : r.Follows named) : r.onWatchStreamOpen.Follows named := by
  have requested := requested_foldl (r := { r with isOpen := true })
    (r.listenTargets.rows.map Prod.fst)
  have waits (t : TargetId) (target : ListenTarget)
      (e : r.onWatchStreamOpen.listenTargets.get t = some target) :=
    requested.waits t (SortedTable.mem_keys.2
      ⟨target, (congrArg (·.get t) requested.listenTargets).symm.trans e⟩)
  constructor
  case plain => exact requested.plain h.plain
  case counts => exact fun t => (h.counts t).trans (requested.counts t)
  case closed => exact fun no => absurd (no.symm.trans requested.isOpen) Bool.false_ne_true
  case there => exact fun _ t target e => (waits t target e).2
  case known =>
    intro _ t target e zero
    exact absurd zero ((h.counts t).trans_lt (waits t target e).1).ne'

/-- A refused target is forgotten. -/
lemma processTargetErrorOf_follows (h : r.Follows named) :
    (r.processTargetErrorOf t).Follows named := by
  rw [processTargetErrorOf]
  split
  case isFalse => exact h
  case isTrue =>
    have others (t' : TargetId) (ne : t' ≠ t) :
        (r.watchChangeAggregator.removeTarget t).targetStates.get t' =
          r.watchChangeAggregator.targetStates.get t' :=
      SortedTable.get_delete.trans (if_neg ne)
    have listened (t' : TargetId) (target : ListenTarget)
        (e : (r.listenTargets.delete t).get t' = some target) :
        t' ≠ t ∧ r.listenTargets.get t' = some target := by
      rw [SortedTable.get_delete] at e
      split at e
      case isTrue => cases e
      case isFalse ne => exact ⟨ne, e⟩
    constructor
    · intro t' s k e
      by_cases ours : t' = t
      · subst ours
        have gone : (r.watchChangeAggregator.removeTarget t').targetStates.get t' = none :=
          SortedTable.get_delete.trans (if_pos rfl)
        cases gone.symm.trans e
      · exact h.plain t' s k ((others t' ours).symm.trans e)
    · intro t'
      by_cases ours : t' = t
      · subst ours
        have gone : (r.watchChangeAggregator.removeTarget t').targetStates.get t' = none :=
          SortedTable.get_delete.trans (if_pos rfl)
        change 0 ≤ (r.watchChangeAggregator.removeTarget t').outstanding t'
        rw [outstanding, ensureTargetState, gone]
        exact le_refl 0
      · exact (outstanding_congr (others t' ours)).symm ▸ h.counts t'
    · intro closed
      have new : r.watchChangeAggregator = .new := h.closed closed
      change r.watchChangeAggregator.removeTarget t = _
      rw [new]
      rfl
    · intro open_ t' target e
      obtain ⟨ne, e'⟩ := listened t' target e
      have there := h.there open_ t' target e'
      rw [SortedTable.contains] at there ⊢
      exact (congrArg Option.isSome (others t' ne)).trans there
    · intro open_ t' target e zero
      obtain ⟨ne, e'⟩ := listened t' target e
      exact (h.known open_ t' target e' ((outstanding_congr (others t' ne)).symm.trans zero)).frame
        (others t' ne) fun _ c => c

/-- Refused targets are forgotten. -/
lemma processTargetError_follows (h : r.Follows named) (targetIds : List TargetId) :
    (r.processTargetError targetIds).Follows named := by
  rw [processTargetError]
  induction targetIds generalizing r with
  | nil => exact h
  | cons t l ih => exact ih (processTargetErrorOf_follows h)

/-! ## Messages -/

/-- The aggregator learns the documents of the view. -/
lemma provider_keys (e : r.listenTargets.get t = some target) :
    r.provider.getRemoteKeysForTarget t = target.remoteKeys :=
  congrArg (fun o => Option.elim o SortedTable.empty ListenTarget.remoteKeys) e

/-- The aggregator learns the query. -/
lemma provider_data (e : r.listenTargets.get t = some target) :
    r.provider.getTargetDataForTarget t = some target.data :=
  congrArg (Option.map ListenTarget.data) e

/-- Each answer is to a request, and the last one about a target that the client listens to is not
    that the target is watched no longer. -/
def Answers (r : RemoteStore) : WatchChange → Prop
  | .targetChange state targetIds _ => state = .added ∨ state = .removed →
    targetIds ≠ [] ∧ targetIds.Nodup ∧
      ∀ t ∈ targetIds, 0 < r.watchChangeAggregator.outstanding t ∧
        (state = .removed → r.listenTargets.contains t = true →
          r.watchChangeAggregator.outstanding t ≠ 1)
  | _ => True

/-- A message is heard. -/
lemma handle_follows (h : r.Follows named) (open_ : r.isOpen = true) {m : WatchChange}
    (countable : Countable r.provider m) (answers : r.Answers m) :
    ∃ a, r.watchChangeAggregator.handle r.provider m = some a ∧
      ({ r with watchChangeAggregator := a } : RemoteStore).Follows (r.hear named m) := by
  -- a message that is no answer to a request about the target
  have other {a : WatchChangeAggregator}
      (made : r.watchChangeAggregator.handle r.provider m = some a) {t : TargetId}
      {target : ListenTarget} (e : r.listenTargets.get t = some target)
      (no : ¬ WatchChangeAggregator.Answers t m) (begins : Told.begins t m = false)
      (zero : r.watchChangeAggregator.outstanding t = 0) :
      KnowsKeys a target.remoteKeys t (r.hear named m t) := by
    obtain ⟨reported, d, s, known, keys⟩ := h.known open_ t target e zero
    rw [← provider_keys e] at known ⊢
    obtain ⟨a', s', made', _, known'⟩ :=
      knows_handle countable no (provider_data e) h.plain known
    rw [made] at made'
    cases made'
    refine ⟨reported, _, s', known', ?_⟩
    rw [hear, e]
    dsimp only
    rw [begins, if_neg Bool.false_ne_true]
    exact Told.hear_keys keys
  by_cases is : IsAnswer m
  · cases m with
    | document => cases is
    | existenceFilter => cases is
    | targetChange state targetIds resumeToken =>
      obtain ⟨some_, once, requests⟩ := answers is
      obtain ⟨a, made, plain, answered, others, more⟩ := answered_handleTargetChange
        (p := r.provider) h.plain is some_ once resumeToken
      refine ⟨a, made, plain, ?_, ?_, ?_, ?_⟩
      · intro t
        by_cases mem : t ∈ targetIds
        · have count := (answered t mem).counts
          have request := (requests t mem).1
          change 0 ≤ a.outstanding t
          omega
        · exact (outstanding_congr (others t mem)).symm ▸ h.counts t
      · intro closed
        exact absurd (closed.symm.trans open_) Bool.false_ne_true
      · intro _ t target e
        by_cases mem : t ∈ targetIds
        · apply (answered t mem).there
          rcases is with rfl | rfl
          · exact .inl rfl
          · refine .inr ((requests t mem).2 rfl ?_)
            rw [SortedTable.contains, e]
            rfl
        · have there := h.there open_ t target e
          rw [SortedTable.contains] at there ⊢
          exact (congrArg Option.isSome (others t mem)).trans there
      · intro _ t target e zero
        by_cases mem : t ∈ targetIds
        · have count := (answered t mem).counts
          have zero' : a.outstanding t = 0 := zero
          have one : r.watchChangeAggregator.outstanding t = 1 := by omega
          rcases is with rfl | rfl
          · obtain ⟨c, s, known⟩ := (answered t mem).known rfl one target.remoteKeys
            refine ⟨c, _, s, known, ?_⟩
            rw [hear, e]
            exact (if_pos (decide_eq_true mem)).symm
          · have there : r.listenTargets.contains t = true := by
              rw [SortedTable.contains, e]
              rfl
            exact absurd one ((requests t mem).2 rfl there)
        · refine other made e ?_ ?_ ((outstanding_congr (others t mem)).symm.trans zero)
          · rintro ⟨_, all | mem'⟩
            · exact some_ all
            · exact mem mem'
          · cases state with
            | added => exact decide_eq_false mem
            | _ => rfl
  · obtain ⟨a, made, plain⟩ := exists_handle h.plain countable
    have keeps := keeps_handle is made
    refine ⟨a, made, plain, ?_, ?_, ?_, ?_⟩
    · intro t
      exact (keeps.counts t).symm ▸ h.counts t
    · intro closed
      exact absurd (closed.symm.trans open_) Bool.false_ne_true
    · exact fun _ t target e => keeps.there t (h.there open_ t target e)
    · intro _ t target e zero
      refine other made e ?_ ?_ ((keeps.counts t).symm.trans zero)
      · cases m with
        | targetChange => exact fun no => is no.1
        | _ => exact id
      · cases m with
        | targetChange state targetIds resumeToken =>
          cases state with
          | added => exact absurd (.inl rfl) is
          | _ => rfl
        | _ => rfl

/-! ## Snapshots -/

/-- A target takes over a change that fits the documents of its view. -/
lemma applyTargetChange_eq {change : Option TargetChange}
    (ok : ∀ c, change = some c → c.Fits target.remoteKeys) :
    target.applyTargetChange change =
      some { target with remoteKeys := View.syncedAfter target.remoteKeys change } := by
  let view : View target.data.target := View.create target.remoteKeys
  have accepts : view.Accepts change := by
    cases change with
    | none => trivial
    | some c => exact fun k mem => .inr ((ok c rfl).modified k mem)
  rw [ListenTarget.applyTargetChange, View.applyTargetChange_eq accepts]
  rfl

/-- What an event says about the targets fits their views, and afterwards the aggregator and the
    views know what the server has named. -/
lemma createRemoteEvent_follows (h : r.Follows named) (open_ : r.isOpen = true)
    {version : SnapshotVersion} {e : AggregatedEvent} {a : WatchChangeAggregator}
    (made : r.watchChangeAggregator.createRemoteEvent r.provider version = some (e, a))
    (there : r.listenTargets.get t = some target) :
    (∀ c, e.event.targetChanges.get t = some c → c.Fits target.remoteKeys ∧
      ∀ k, (View.syncedAfter target.remoteKeys (some c)).contains k = (named t).contains k) ∧
      (a.outstanding t = 0 →
        KnowsKeys a (View.syncedAfter target.remoteKeys (e.event.targetChanges.get t)) t (named t) ∧
        ∀ k, (View.syncedAfter target.remoteKeys (e.event.targetChanges.get t)).contains k =
          (named t).contains k) := by
  have keeps := keeps_createRemoteEvent made
  by_cases zero : r.watchChangeAggregator.outstanding t = 0
  · obtain ⟨reported, d, s, known, keys⟩ := h.known open_ t target there zero
    have watched : (r.provider.getTargetDataForTarget t).isSome = true := by
      rw [provider_data there]
      rfl
    rw [← provider_keys there] at known
    obtain ⟨e', a', made', _, _, hands, _, s', known', none_⟩ :=
      createRemoteEvent_spec known watched h.plain version
    rw [made] at made'
    cases made'
    rw [provider_keys there] at hands known'
    rw [← keys]
    refine ⟨fun c ec => ⟨hands.fits c ec, ?_⟩, fun _ => ⟨⟨_, d, s', known', rfl⟩, hands.keys⟩⟩
    rw [← ec]
    exact hands.keys
  · have silent := createRemoteEvent_waiting h.plain (h.there open_ t target there) zero made
    rw [silent]
    constructor
    · intro c no
      cases no
    · intro zero'
      rw [keeps.counts] at zero'
      exact absurd zero' zero

/-- A request does not change what the views know. -/
lemma Agrees.request (h : r.Follows named) (agrees : r.Agrees named) :
    (r.sendWatchRequest t).Agrees named := by
  intro t' target e zero
  have about : About r.watchChangeAggregator (r.sendWatchRequest t).watchChangeAggregator t :=
    about_recordPendingTargetRequest
  have count : (r.sendWatchRequest t).watchChangeAggregator.outstanding t =
      r.watchChangeAggregator.outstanding t + 1 := outstanding_recordPendingTargetRequest
  by_cases ours : t' = t
  · subst ours
    have before := h.counts t'
    omega
  · exact agrees t' target e ((outstanding_congr (about.others t' ours)).symm.trans zero)

/-- A target that is asked about anew waits for an answer. -/
lemma relisten_follows (h : r.Follows named) (agrees : r.Agrees named) (open_ : r.isOpen = true) :
    (r.relisten t).Follows named ∧ (r.relisten t).Agrees named ∧ (r.relisten t).isOpen = true := by
  rw [relisten]
  split
  case isTrue =>
    have once : (r.sendWatchRequest t).Follows named := h.request open_ fun _ _ => rfl
    exact ⟨once.request open_ fun _ _ => rfl, Agrees.request once (Agrees.request h agrees), open_⟩
  case isFalse => exact ⟨h, agrees, open_⟩

/-- So do several targets. -/
lemma foldl_relisten_follows (h : r.Follows named) (agrees : r.Agrees named)
    (open_ : r.isOpen = true) (l : List TargetId) :
    (l.foldl relisten r).Follows named ∧ (l.foldl relisten r).Agrees named := by
  induction l generalizing r with
  | nil => exact ⟨h, agrees⟩
  | cons t l ih =>
    obtain ⟨h1, agrees1, open1⟩ := relisten_follows (t := t) h agrees open_
    exact ih h1 agrees1 open1

/-- The client listens to the same targets afterwards. -/
lemma foldl_relisten_listenTargets (l : List TargetId) :
    (l.foldl relisten r).listenTargets = r.listenTargets := by
  induction l generalizing r with
  | nil => rfl
  | cons t l ih =>
    rw [List.foldl_cons, ih, relisten]
    split <;> rfl

/-- Requests are sent for the targets that the client listens to, whatever their views know. -/
lemma foldl_relisten_with {targets : SortedTable TargetId ListenTarget} (version : SnapshotVersion)
    (same : ∀ t, targets.contains t = r.listenTargets.contains t) (l : List TargetId) :
    l.foldl relisten { r with listenTargets := targets, lastRemoteSnapshotVersion := version } =
      { l.foldl relisten r with
        listenTargets := targets
        lastRemoteSnapshotVersion := version } := by
  induction l generalizing r with
  | nil => rfl
  | cons t l ih =>
    have one :
        relisten { r with listenTargets := targets, lastRemoteSnapshotVersion := version } t =
        { r.relisten t with
          listenTargets := targets
          lastRemoteSnapshotVersion := version } := by
      rw [relisten, relisten, same]
      split <;> rfl
    have kept : (r.relisten t).listenTargets = r.listenTargets := foldl_relisten_listenTargets [t]
    rw [List.foldl_cons, one, ih fun t' => (same t').trans (by rw [kept])]
    rfl

/-- An event that fits what the views know and leads them to what the server has named, and the
    targets with what the views know then. -/
structure Raises (r : RemoteStore) (e : RemoteEvent) (r' : RemoteStore)
    (named : TargetId → DocumentKeySet) : Prop where
  fits : ∀ t target, r.listenTargets.get t = some target → ∀ c, e.targetChanges.get t = some c →
    c.Fits target.remoteKeys ∧
      ∀ k, (View.syncedAfter target.remoteKeys (some c)).contains k = (named t).contains k
  targets : ∀ t, r'.listenTargets.get t = (r.listenTargets.get t).map fun target =>
    { target with remoteKeys := View.syncedAfter target.remoteKeys (e.targetChanges.get t) }

/-- What the views know after an event. -/
lemma Raises.keys {e : RemoteEvent} (h : r.Raises e r' named) (t : TargetId) : r'.remoteKeys t =
    (r.remoteKeys t).map fun keys => View.syncedAfter keys (e.targetChanges.get t) := by
  rw [remoteKeys, remoteKeys, h.targets, Option.map_map, Option.map_map]
  rfl

/-- A snapshot never stops the client. After it the views know all that the server has named. -/
lemma raiseWatchSnapshot_spec (h : r.Follows named) (open_ : r.isOpen = true)
    (version : SnapshotVersion) :
    ∃ e r', r.raiseWatchSnapshot version = some (e, r') ∧ e.snapshotVersion = version ∧
      r.Raises e r' named ∧ r'.Follows named ∧ r'.Agrees named := by
  obtain ⟨e, a, made, plain, versioned⟩ :=
    exists_createRemoteEvent (p := r.provider) h.plain version
  have keeps := keeps_createRemoteEvent made
  have fits (t : TargetId) (target : ListenTarget) (there : r.listenTargets.get t = some target) :=
    createRemoteEvent_follows h open_ made there
  -- the views
  obtain ⟨targets, _, taken, from_, same⟩ := SortedTable.traverse_rule (t := r.listenTargets)
    (f := fun _ t (target : ListenTarget) =>
      (target.applyTargetChange (e.event.targetChanges.get t)).map (·, ())) (s := ())
    (fun u _ => ∀ t target', u.get t = some target' →
      ∃ target, r.listenTargets.get t = some target ∧ target' = { target with
        remoteKeys := View.syncedAfter target.remoteKeys (e.event.targetChanges.get t) })
    (fun t target' no => by cases no) (by
      intro u s t target before there _
      refine ⟨_, (), by
        rw [applyTargetChange_eq fun c ec => ((fits t target there).1 c ec).1]
        rfl, ?_⟩
      intro t' target' e'
      rw [SortedTable.get_put] at e'
      split at e'
      case isTrue ours =>
        cases e'
        rw [ours]
        exact ⟨target, there, rfl⟩
      case isFalse => exact before t' target' e')
  let r0 : RemoteStore := { r with
    listenTargets := targets
    watchChangeAggregator := a
    lastRemoteSnapshotVersion := e.event.snapshotVersion }
  have follows0 : r0.Follows named := by
    refine ⟨plain, fun t => (keeps.counts t).symm ▸ h.counts t, ?_, ?_, ?_⟩
    · intro closed
      exact absurd (closed.symm.trans open_) Bool.false_ne_true
    · intro _ t target' e'
      obtain ⟨target, there, _⟩ := from_ t target' e'
      exact keeps.there t (h.there open_ t target there)
    · intro _ t target' e' zero
      obtain ⟨target, there, rfl⟩ := from_ t target' e'
      exact ((fits t target there).2 zero).1
  have agrees0 : r0.Agrees named := by
    intro t target' e' zero
    obtain ⟨target, there, rfl⟩ := from_ t target' e'
    exact ((fits t target there).2 zero).2
  -- the targets that have to be asked about again
  have asked := foldl_relisten_with (r := { r with watchChangeAggregator := a })
    e.event.snapshotVersion same e.targetMismatches
  have kept := foldl_relisten_listenTargets (r := { r with watchChangeAggregator := a })
    e.targetMismatches
  refine ⟨e.event, e.targetMismatches.foldl relisten r0, ?_, versioned, ⟨?_, ?_⟩,
    foldl_relisten_follows follows0 agrees0 open_ _⟩
  · rw [raiseWatchSnapshot, made]
    change Option.bind ((e.targetMismatches.foldl relisten
      { r with watchChangeAggregator := a }).applyRemoteEvent e.event) _ = _
    rw [applyRemoteEvent, kept]
    change Option.bind (Option.bind (r.listenTargets.traverse _ ()) _) _ = _
    rw [taken]
    exact congrArg (fun r => some (e.event, r)) asked.symm
  · exact fun t target there => (fits t target there).1
  · intro t
    have kept0 : (e.targetMismatches.foldl relisten r0).listenTargets = targets :=
      foldl_relisten_listenTargets _
    rw [kept0]
    cases e' : targets.get t with
    | none =>
      have gone := (same t).symm.trans (SortedTable.contains_eq_false.2 e')
      rw [SortedTable.contains_eq_false.1 gone]
      rfl
    | some target' =>
      obtain ⟨target, there, rfl⟩ := from_ t target' e'
      rw [there]
      rfl

/-- A message that raises a snapshot. -/
lemma onWatchStreamChange_raises (h : r.Follows named) (open_ : r.isOpen = true) {m : WatchChange}
    (countable : Countable r.provider m) (answers : r.Answers m) {version : SnapshotVersion}
    (some_ : version ≠ 0) (forward : r.lastRemoteSnapshotVersion ≤ version) :
    ∃ e r', r.onWatchStreamChange m version = some (some e, r') ∧ e.snapshotVersion = version ∧
      r.Raises e r' (r.hear named m) ∧ r'.Follows (r.hear named m) ∧
      r'.Agrees (r.hear named m) := by
  obtain ⟨a, made, follows⟩ := handle_follows h open_ countable answers
  obtain ⟨e, r', raised, versioned, raises, follows', agrees⟩ :=
    raiseWatchSnapshot_spec follows open_ version
  refine ⟨e, r', ?_, versioned, ⟨raises.fits, raises.targets⟩, follows', agrees⟩
  rw [onWatchStreamChange, made]
  refine (if_pos ⟨some_, forward⟩).trans ?_
  rw [raised]
  rfl

/-- A message that raises nothing. -/
lemma onWatchStreamChange_quiet (h : r.Follows named) (open_ : r.isOpen = true) {m : WatchChange}
    (countable : Countable r.provider m) (answers : r.Answers m) {version : SnapshotVersion}
    (no : ¬ (version ≠ 0 ∧ r.lastRemoteSnapshotVersion ≤ version)) :
    ∃ r', r.onWatchStreamChange m version = some (none, r') ∧
      r'.listenTargets = r.listenTargets ∧ r'.Follows (r.hear named m) := by
  obtain ⟨a, made, follows⟩ := handle_follows h open_ countable answers
  refine ⟨{ r with watchChangeAggregator := a }, ?_, rfl, follows⟩
  rw [onWatchStreamChange, made]
  exact if_neg no

/-! ## What the views know -/

/-- A new target begins with the documents that its view knows. -/
lemma listen_remoteKeys (target : ListenTarget) (t : TargetId) :
    (r.listen target).remoteKeys t =
      if t = target.data.targetId then some ((r.remoteKeys t).getD target.remoteKeys)
      else r.remoteKeys t := by
  rw [listen]
  split
  case isTrue there =>
    split
    case isTrue e =>
      subst e
      obtain ⟨old, eo⟩ := Option.isSome_iff_exists.1 there
      rw [remoteKeys, eo]
      rfl
    case isFalse => rfl
  case isFalse new =>
    have put : ({ r with
        listenTargets := r.listenTargets.put target.data.targetId target } : RemoteStore).remoteKeys
          t = if t = target.data.targetId then some ((r.remoteKeys t).getD target.remoteKeys)
            else r.remoteKeys t := by
      rw [remoteKeys, SortedTable.get_put]
      split
      case isTrue e =>
        subst e
        rw [remoteKeys, SortedTable.contains_eq_false.1 (Bool.not_eq_true _ ▸ new)]
        rfl
      case isFalse => rfl
    dsimp only
    split <;> exact put

/-- Of a target that is gone nothing is known. -/
lemma delete_remoteKeys {a : WatchChangeAggregator} (u : TargetId) :
    ({ r with
      listenTargets := r.listenTargets.delete t
      watchChangeAggregator := a } : RemoteStore).remoteKeys u =
        if u = t then none else r.remoteKeys u := by
  rw [remoteKeys, SortedTable.get_delete]
  split <;> rfl

/-- Of a target that is given up nothing is known. -/
lemma stopListening_remoteKeys (e : r.stopListening t = some r') (u : TargetId) :
    r'.remoteKeys u = if u = t then none else r.remoteKeys u := by
  rw [stopListening] at e
  split at e
  case isTrue =>
    rw [← Option.some.inj e]
    dsimp only
    split <;> exact delete_remoteKeys u
  case isFalse => cases e

/-- Of a target that is refused nothing is known. -/
lemma processTargetErrorOf_remoteKeys (u : TargetId) :
    (r.processTargetErrorOf t).remoteKeys u = if u = t then none else r.remoteKeys u := by
  rw [processTargetErrorOf]
  split
  case isTrue => exact delete_remoteKeys u
  case isFalse no =>
    split
    case isTrue e =>
      have gone : r.listenTargets.contains t = false := Bool.not_eq_true _ ▸ no
      rw [e, remoteKeys, SortedTable.contains_eq_false.1 gone]
      rfl
    case isFalse => rfl

/-- Opening the stream changes nothing that is known. -/
lemma onWatchStreamOpen_remoteKeys : r.onWatchStreamOpen.remoteKeys t = r.remoteKeys t :=
  congrArg (fun targets => (SortedTable.get targets t).map ListenTarget.remoteKeys)
    (requested_foldl (r := { r with isOpen := true })
      (r.listenTargets.rows.map Prod.fst)).listenTargets

end RemoteStore

/-! ## Runs -/

/-- What happens to the stream. -/
inductive WatchEvent where
  | listen (target : ListenTarget)
  | stopListening (targetId : TargetId)
  | onWatchStreamOpen
  | onWatchStreamClose
  | onWatchStreamChange (change : WatchChange) (version : SnapshotVersion)
  | processTargetError (targetIds : List TargetId)

/-- The client's side of the watch stream, with the documents that the server has named for each
    target since it began with the target. -/
structure WatchedStream where
  store : RemoteStore
  named : TargetId → DocumentKeySet

namespace WatchedStream

open WatchChangeAggregator

variable {w w' : WatchedStream}

/-- The server has named nothing. -/
def new : WatchedStream :=
  ⟨.new, fun _ => SortedTable.empty⟩

/-- One event of the stream. -/
def step (w : WatchedStream) : WatchEvent → Option WatchedStream
  | .listen target => some { w with store := w.store.listen target }
  | .stopListening targetId =>
    (w.store.stopListening targetId).map fun store => { w with store := store }
  | .onWatchStreamOpen => some { w with store := w.store.onWatchStreamOpen }
  | .onWatchStreamClose => some { w with store := w.store.onWatchStreamClose }
  | .onWatchStreamChange m version =>
    (w.store.onWatchStreamChange m version).map fun r => ⟨r.2, w.store.hear w.named m⟩
  | .processTargetError targetIds => some { w with store := w.store.processTargetError targetIds }

/-- How the client and the server behave: only a target that is listened to is given up, messages
    come while the stream is open, an existence filter of a document counts at most one, and each
    answer is to a request. -/
def Asks (w : WatchedStream) : WatchEvent → Prop
  | .stopListening targetId => w.store.listenTargets.contains targetId = true
  | .onWatchStreamChange m _ =>
    w.store.isOpen = true ∧ Countable w.store.provider m ∧ w.store.Answers m
  | _ => True

instance (p : TargetMetadataProvider) (m : WatchChange) : Decidable (Countable p m) :=
  match m with
  | .document _ => .isTrue trivial
  | .targetChange _ _ _ => .isTrue trivial
  | .existenceFilter t count =>
    match e : p.getTargetDataForTarget t with
    | none => .isTrue fun data no => by
      rw [e] at no
      cases no
    | some data =>
      decidable_of_iff ((documentOfTarget data.target).isSome = true → count ≤ 1)
        ⟨fun h data' there => by
          rw [e] at there
          cases there
          exact h,
        fun h => h data e⟩

instance (r : RemoteStore) (m : WatchChange) : Decidable (r.Answers m) := by
  cases m <;> dsimp only [RemoteStore.Answers] <;> infer_instance

instance (w : WatchedStream) (e : WatchEvent) : Decidable (w.Asks e) := by
  cases e <;> dsimp only [Asks] <;> infer_instance

/-- Nothing that happens stops the client or makes it lose what the server says. -/
lemma step_spec (h : w.store.Follows w.named) {e : WatchEvent} (asks : w.Asks e) :
    ∃ w', w.step e = some w' ∧ w'.store.Follows w'.named := by
  cases e with
  | listen target => exact ⟨_, rfl, RemoteStore.listen_follows h target⟩
  | stopListening targetId =>
    obtain ⟨store, e, follows⟩ := RemoteStore.stopListening_follows h asks
    exact ⟨⟨store, w.named⟩, by rw [step, e]; rfl, follows⟩
  | onWatchStreamOpen => exact ⟨_, rfl, RemoteStore.onWatchStreamOpen_follows h⟩
  | onWatchStreamClose => exact ⟨_, rfl, RemoteStore.onWatchStreamClose_follows⟩
  | onWatchStreamChange m version =>
    obtain ⟨open_, countable, answers⟩ := asks
    by_cases raise : version ≠ 0 ∧ w.store.lastRemoteSnapshotVersion ≤ version
    · obtain ⟨event, store, e, _, _, follows, _⟩ :=
        RemoteStore.onWatchStreamChange_raises h open_ countable answers raise.1 raise.2
      exact ⟨⟨store, w.store.hear w.named m⟩, by rw [step, e]; rfl, follows⟩
    · obtain ⟨store, e, _, follows⟩ :=
        RemoteStore.onWatchStreamChange_quiet h open_ countable answers raise
      exact ⟨⟨store, w.store.hear w.named m⟩, by rw [step, e]; rfl, follows⟩
  | processTargetError targetIds =>
    exact ⟨_, rfl, RemoteStore.processTargetError_follows h targetIds⟩

/-- In every run the client does not lose what the server says. -/
lemma follows_of_run {es : List WatchEvent} (rn : Run (Guarded (Fires step) Asks) new es w) :
    w.store.Follows w.named := by
  apply rn.invariant_guarded _ RemoteStore.new_follows
  intro w e w' st asks h
  obtain ⟨w'', e', h'⟩ := step_spec h asks
  cases e'.symm.trans st
  exact h'

/-- A film of a wishlist. -/
def film (id : String) : DocumentKey :=
  ⟨["users", "a@b.c", "wishlist"], id⟩

/-- The server sends a film of the wishlist to the client. -/
def sendFilm (id : String) : WatchChange :=
  .document
    { updatedTargetIds := [2]
      removedTargetIds := []
      documentKey := film id
      newDocument := some (.foundDocument (film id) 1 (.ofFields []))
      keyed := by
        intro d e
        cases e
        rfl }

/-- The client listens to the wishlist; the server sends two films, the second after a snapshot, and
    counts one. -/
def twoFilms : List WatchEvent :=
  [.listen ⟨⟨.ofPath ["users", "a@b.c", "wishlist"], 2, .listen⟩, SortedTable.empty⟩,
    .onWatchStreamOpen,
    .onWatchStreamChange (.targetChange .added [2] "") 0,
    .onWatchStreamChange (sendFilm "1") 0,
    .onWatchStreamChange (.targetChange .noChange [] "") 1,
    .onWatchStreamChange (sendFilm "2") 0]

end WatchedStream

end Lumiere.Firestore.Client

import Lumiere.Base.Run
import Lumiere.Client.LimboResolution

/-!
# Every document in limbo is resolved

`Tracks` ties the tables of the limbo resolution together: which documents wait and which have a
target, that the targets are watched and numbered apart from those of the queries, and that no place
is idle while documents wait. Starting resolutions restores the last point from the others (`Tidy`).
-/

namespace Lumiere.Firestore.Client

open Transition

namespace LimboTracker

variable {l : LimboTracker} {k key : DocumentKey} {t : Nat}

/-- A document waits for its resolution or is being resolved. -/
def Tracked (l : LimboTracker) (k : DocumentKey) : Prop :=
  k ∈ l.enqueuedLimboResolutions.elements ∨ l.activeLimboTargetsByKey.contains k = true

/-- The tables of the resolutions fit together. -/
structure Tidy (l : LimboTracker) : Prop where
  inverse : ∀ k t, l.activeLimboTargetsByKey.get k = some t ↔
    (l.activeLimboResolutionsByTarget.get t).map LimboResolution.key = some k
  apart : ∀ k ∈ l.enqueuedLimboResolutions.elements, l.activeLimboTargetsByKey.get k = none
  bounded : l.activeLimboTargetsByKey.rows.length ≤ l.maxConcurrentLimboResolutions
  watched : ∀ t : Nat, l.activeLimboResolutionsByTarget.contains t = true →
    l.listenTargets.contains t = true ∧ t % 2 = 1 ∧ t < l.targetIdGenerator
  queries : ∀ t : Nat, l.listenTargets.contains t = true →
    l.activeLimboResolutionsByTarget.contains t = false → t % 2 = 0
  generator : l.targetIdGenerator % 2 = 1

/-- No place is idle while documents wait. -/
def Busy (l : LimboTracker) : Prop :=
  l.enqueuedLimboResolutions.elements ≠ [] →
    l.activeLimboTargetsByKey.rows.length = l.maxConcurrentLimboResolutions

/-- What is tracked is in limbo for some view, and no place is idle. -/
structure Tracks (l : LimboTracker) : Prop extends Tidy l where
  referenced : ∀ k, l.Tracked k → l.limboDocumentRefs.containsKey k = true
  busy : l.Busy

/-- What does not change when resolutions are started and ended: the limit, which documents the
    views have in limbo, and the targets of the queries. -/
structure Keeps (l l' : LimboTracker) : Prop where
  limit : l'.maxConcurrentLimboResolutions = l.maxConcurrentLimboResolutions
  refs : l'.limboDocumentRefs = l.limboDocumentRefs
  queries : ∀ t : Nat, t % 2 = 0 → l'.listenTargets.get t = l.listenTargets.get t

/-- Nothing changes. -/
lemma Keeps.refl : Keeps l l :=
  ⟨rfl, rfl, fun _ _ => rfl⟩

/-- What two steps keep one after the other. -/
lemma Keeps.trans {l1 l2 l3 : LimboTracker} (h1 : Keeps l1 l2) (h2 : Keeps l2 l3) : Keeps l1 l3 where
  limit := h2.limit.trans h1.limit
  refs := h2.refs.trans h1.refs
  queries t even := (h2.queries t even).trans (h1.queries t even)

/-! ## Starting resolutions -/

/-- The next number is not in use. -/
lemma Tidy.fresh (td : l.Tidy) : l.listenTargets.contains l.targetIdGenerator = false ∧
    l.activeLimboResolutionsByTarget.contains l.targetIdGenerator = false := by
  have no : l.activeLimboResolutionsByTarget.contains l.targetIdGenerator = false := by
    by_contra c
    have h := td.watched _ (by simpa using c)
    omega
  refine ⟨?_, no⟩
  by_contra c
  have even := td.queries _ (by simpa using c) no
  have odd := td.generator
  omega

/-- The first document of the queue takes the next number. -/
lemma startResolution_eq (td : l.Tidy) : l.startResolution key =
    { l with
      enqueuedLimboResolutions := l.enqueuedLimboResolutions.popFront
      targetIdGenerator := l.targetIdGenerator + 2
      activeLimboResolutionsByTarget := l.activeLimboResolutionsByTarget.put l.targetIdGenerator
        ⟨key, false⟩
      activeLimboTargetsByKey := l.activeLimboTargetsByKey.put key l.targetIdGenerator
      listenTargets := l.listenTargets.put l.targetIdGenerator
        ⟨.ofPath key.path, l.targetIdGenerator, .limboResolution⟩
      calls := l.calls ++
        [.listen ⟨.ofPath key.path, l.targetIdGenerator, .limboResolution⟩] } := by
  have no := td.fresh.1
  rw [startResolution, listen]
  dsimp only
  rw [no, if_neg Bool.false_ne_true]

/-- The tables stay tidy, and what is tracked stays tracked. -/
lemma startResolution_spec (td : l.Tidy) {rest : List DocumentKey}
    (first : l.enqueuedLimboResolutions.elements = key :: rest)
    (place : l.activeLimboTargetsByKey.rows.length < l.maxConcurrentLimboResolutions) :
    (l.startResolution key).Tidy ∧ Keeps l (l.startResolution key) ∧
      (l.startResolution key).enqueuedLimboResolutions.elements = rest ∧
      ∀ k, (l.startResolution key).Tracked k ↔ l.Tracked k := by
  obtain ⟨free, unused⟩ := td.fresh
  have waits : l.activeLimboTargetsByKey.get key = none :=
    td.apart key (first ▸ List.mem_cons_self)
  have distinct := l.enqueuedLimboResolutions.distinct
  rw [first, List.nodup_cons] at distinct
  have tail : l.enqueuedLimboResolutions.popFront.elements = rest := by
    change l.enqueuedLimboResolutions.elements.tail = rest
    rw [first]
    rfl
  have tracked (k : DocumentKey) : (l.startResolution key).Tracked k ↔ l.Tracked k := by
    rw [startResolution_eq td, Tracked, Tracked]
    dsimp only
    rw [tail, first, SortedTable.contains, SortedTable.get_put, List.mem_cons]
    by_cases e : k = key
    · simp [e]
    · simp [e, SortedTable.contains]
  refine ⟨?_, ?_, ?_, tracked⟩
  · constructor
    · intro k t
      rw [startResolution_eq td]
      dsimp only
      rw [SortedTable.get_put, SortedTable.get_put]
      by_cases ek : k = key
      · rw [if_pos ek]
        by_cases et : t = l.targetIdGenerator
        · rw [if_pos et, et, ek]
          exact iff_of_true rfl rfl
        · rw [if_neg et, ← td.inverse, ek, waits]
          refine iff_of_false (fun e => et (Option.some.inj e).symm) ?_
          intro e
          cases e
      · rw [if_neg ek]
        by_cases et : t = l.targetIdGenerator
        · rw [if_pos et, td.inverse, et]
          have none_ : l.activeLimboResolutionsByTarget.get l.targetIdGenerator = none := by
            rw [SortedTable.contains, Option.isSome_eq_false_iff] at unused
            exact Option.isNone_iff_eq_none.1 unused
          rw [none_]
          refine iff_of_false (fun e => by cases e) ?_
          intro e
          exact ek (Option.some.inj e).symm
        · rw [if_neg et]
          exact td.inverse k t
    · intro k mem
      rw [startResolution_eq td] at mem ⊢
      dsimp only at mem ⊢
      rw [tail] at mem
      rw [SortedTable.get_put, if_neg (by rintro rfl; exact distinct.1 mem)]
      exact td.apart k (first ▸ List.mem_cons_of_mem _ mem)
    · rw [startResolution_eq td]
      dsimp only
      rw [SortedTable.length_put waits]
      exact place
    · intro t c
      rw [startResolution_eq td] at c ⊢
      dsimp only at c ⊢
      rw [SortedTable.contains, SortedTable.get_put] at c ⊢
      by_cases et : t = l.targetIdGenerator
      · rw [if_pos et]
        have odd := td.generator
        exact ⟨rfl, by rw [et]; exact odd, by omega⟩
      · rw [if_neg et] at c ⊢
        obtain ⟨w, odd, lt⟩ := td.watched t c
        exact ⟨w, odd, by omega⟩
    · intro t c no
      rw [startResolution_eq td] at c no
      dsimp only at c no
      rw [SortedTable.contains, SortedTable.get_put] at c no
      by_cases et : t = l.targetIdGenerator
      · rw [if_pos et] at no
        cases no
      · rw [if_neg et] at c no
        exact td.queries t c no
    · rw [startResolution_eq td]
      have odd := td.generator
      change (l.targetIdGenerator + 2) % 2 = 1
      omega
  · rw [startResolution_eq td]
    refine ⟨rfl, rfl, ?_⟩
    intro t even
    have odd := td.generator
    exact SortedTable.get_put.trans (if_neg (by rintro rfl; omega))
  · rw [startResolution_eq td]
    exact tail

/-- Starting resolutions fills the places, and what is tracked stays tracked. -/
lemma pump_spec {n : Nat} (td : l.Tidy) (enough : l.enqueuedLimboResolutions.elements.length ≤ n) :
    (pump n l).Tidy ∧ (pump n l).Busy ∧ Keeps l (pump n l) ∧
      ∀ k, (pump n l).Tracked k ↔ l.Tracked k := by
  induction n generalizing l with
  | zero =>
    have none_ : l.enqueuedLimboResolutions.elements = [] :=
      List.length_eq_zero_iff.1 (Nat.le_zero.1 enough)
    exact ⟨td, fun ne => absurd none_ ne, .refl, fun _ => .rfl⟩
  | succ n ih =>
    rw [pump]
    split
    case h_1 none_ => exact ⟨td, fun ne => absurd none_ ne, .refl, fun _ => .rfl⟩
    case h_2 key rest first =>
      split
      case isTrue place =>
        obtain ⟨td1, keeps1, left, tracked1⟩ := startResolution_spec td first place
        rw [first, List.length_cons] at enough
        obtain ⟨td2, busy, keeps2, tracked2⟩ := ih td1 (by rw [left]; omega)
        exact ⟨td2, busy, keeps1.trans keeps2, fun k => (tracked2 k).trans (tracked1 k)⟩
      case isFalse full =>
        have bounded := td.bounded
        exact ⟨td, fun _ => by omega, .refl, fun _ => .rfl⟩

/-- The length of the queue is enough for all that can be started. -/
lemma pumpEnqueuedLimboResolutions_spec (td : l.Tidy) :
    l.pumpEnqueuedLimboResolutions.Tidy ∧ l.pumpEnqueuedLimboResolutions.Busy ∧
      Keeps l l.pumpEnqueuedLimboResolutions ∧
      ∀ k, l.pumpEnqueuedLimboResolutions.Tracked k ↔ l.Tracked k :=
  pump_spec td le_rfl

/-! ## Ending resolutions -/

/-- A resolution ends: its document and its target are forgotten. -/
def endResolution (l : LimboTracker) (key : DocumentKey) (t : TargetId)
    (queue : RandomAccessQueue DocumentKey) (calls : List RemoteStoreCall) : LimboTracker :=
  { l with
    enqueuedLimboResolutions := queue
    listenTargets := l.listenTargets.delete t
    activeLimboTargetsByKey := l.activeLimboTargetsByKey.delete key
    activeLimboResolutionsByTarget := l.activeLimboResolutionsByTarget.delete t
    calls := calls }

/-- The tables stay tidy when a resolution ends. -/
lemma Tidy.endResolution (td : l.Tidy) (active : l.activeLimboTargetsByKey.get key = some t)
    (queue : RandomAccessQueue DocumentKey)
    (sub : ∀ k ∈ queue.elements, k ∈ l.enqueuedLimboResolutions.elements)
    (calls : List RemoteStoreCall) : (l.endResolution key t queue calls).Tidy := by
  have target := (td.inverse key t).1 active
  constructor
  · intro k u
    change (SortedTable.delete _ _).get k = some u ↔ ((SortedTable.delete _ _).get u).map _ = some k
    rw [SortedTable.get_delete, SortedTable.get_delete]
    by_cases ek : k = key
    · rw [if_pos ek]
      by_cases eu : u = t
      · rw [if_pos eu]
        exact iff_of_false (fun e => by cases e) fun e => by cases e
      · rw [if_neg eu, ← td.inverse, ek, active]
        exact iff_of_false (fun e => by cases e) fun e => eu (Option.some.inj e).symm
    · rw [if_neg ek]
      by_cases eu : u = t
      · rw [if_pos eu, td.inverse, eu, target]
        exact iff_of_false (fun e => ek (Option.some.inj e).symm) fun e => by cases e
      · rw [if_neg eu]
        exact td.inverse k u
  · intro k mem
    change (SortedTable.delete _ _).get k = none
    rw [SortedTable.get_delete]
    split
    case isTrue => rfl
    case isFalse => exact td.apart k (sub k mem)
  · have less := SortedTable.length_delete (t := l.activeLimboTargetsByKey) (k := key)
      (Option.isSome_iff_exists.2 ⟨t, active⟩)
    have bounded := td.bounded
    change (SortedTable.delete _ _).rows.length ≤ l.maxConcurrentLimboResolutions
    omega
  · intro u c
    change SortedTable.contains (SortedTable.delete _ _) u = true at c
    change SortedTable.contains (SortedTable.delete _ _) u = true ∧ _
    rw [SortedTable.contains, SortedTable.get_delete] at c ⊢
    split at c
    case isTrue => cases c
    case isFalse ne =>
      rw [if_neg ne]
      exact td.watched u c
  · intro u c no
    change SortedTable.contains (SortedTable.delete _ _) u = true at c
    change SortedTable.contains (SortedTable.delete _ _) u = false at no
    rw [SortedTable.contains, SortedTable.get_delete] at c no
    split at c
    case isTrue => cases c
    case isFalse ne =>
      rw [if_neg ne] at no
      exact td.queries u c no
  · exact td.generator

/-- The targets of the queries stay when a resolution ends. -/
lemma keeps_endResolution (td : l.Tidy) (active : l.activeLimboTargetsByKey.get key = some t)
    {queue : RandomAccessQueue DocumentKey} {calls : List RemoteStoreCall} :
    Keeps l (l.endResolution key t queue calls) := by
  refine ⟨rfl, rfl, ?_⟩
  intro u even
  change (SortedTable.delete _ _).get u = _
  rw [SortedTable.get_delete, if_neg]
  rintro rfl
  have c : l.activeLimboResolutionsByTarget.contains u = true := by
    have target := (td.inverse key u).1 active
    obtain ⟨r, er, _⟩ := Option.map_eq_some_iff.1 target
    exact Option.isSome_iff_exists.2 ⟨r, er⟩
  have odd := (td.watched u c).2.1
  omega

/-- A document that is being resolved has a resolution. -/
lemma contains_active (td : l.Tidy) (active : l.activeLimboTargetsByKey.get key = some t) :
    l.activeLimboResolutionsByTarget.contains t = true := by
  obtain ⟨r, er, _⟩ := Option.map_eq_some_iff.1 ((td.inverse key t).1 active)
  exact Option.isSome_iff_exists.2 ⟨r, er⟩

/-- A document is no longer tracked; the stop of its listen is one of a target that is watched. -/
lemma removeLimboTarget_spec (key : DocumentKey) (td : l.Tidy) (busy : l.Busy) :
    ∃ l', l.removeLimboTarget key = some l' ∧ l'.Tidy ∧ l'.Busy ∧ Keeps l l' ∧
      ∀ k, l'.Tracked k ↔ l.Tracked k ∧ k ≠ key := by
  have mem (k : DocumentKey) : k ∈ (l.enqueuedLimboResolutions.remove key).elements ↔
      k ∈ l.enqueuedLimboResolutions.elements ∧ k ≠ key := by
    change k ∈ l.enqueuedLimboResolutions.elements.erase key ↔ _
    rw [l.enqueuedLimboResolutions.distinct.mem_erase_iff, and_comm]
  rw [removeLimboTarget]
  dsimp only
  cases active : l.activeLimboTargetsByKey.get key with
  | none =>
    refine ⟨_, rfl, ?_, ?_, ⟨rfl, rfl, fun _ _ => rfl⟩, ?_⟩
    · exact
        { td with
          apart := fun k mem' => td.apart k ((mem k).1 mem').1 }
    · intro ne
      apply busy
      intro none_
      apply ne
      change l.enqueuedLimboResolutions.elements.erase key = []
      rw [none_]
      rfl
    · intro k
      rw [Tracked, Tracked]
      dsimp only
      rw [mem]
      constructor
      · rintro (⟨h, ne⟩ | h)
        · exact ⟨.inl h, ne⟩
        · refine ⟨.inr h, ?_⟩
          rintro rfl
          rw [SortedTable.contains, active] at h
          cases h
      · rintro ⟨h | h, ne⟩
        · exact .inl ⟨h, ne⟩
        · exact .inr h
  | some t =>
    have watched := (td.watched t (contains_active td active)).1
    have ends := td.endResolution active (l.enqueuedLimboResolutions.remove key)
      (fun k mem' => ((mem k).1 mem').1) (l.calls ++ [.stopListening t])
    obtain ⟨td', busy', keeps, tracked⟩ := pumpEnqueuedLimboResolutions_spec ends
    refine ⟨_, ?_, td', busy', (keeps_endResolution td active).trans keeps, ?_⟩
    · change Option.bind (if l.listenTargets.contains t = true then some _ else none) _ = _
      rw [if_pos watched]
      rfl
    · intro k
      rw [tracked, Tracked, Tracked]
      change k ∈ (l.enqueuedLimboResolutions.remove key).elements ∨
        SortedTable.contains (SortedTable.delete _ _) k = true ↔ _
      rw [mem, SortedTable.contains, SortedTable.get_delete]
      by_cases e : k = key
      · simp [e]
      · simp [e, SortedTable.contains]

/-- A document is tracked no longer once no view has it in limbo. -/
lemma removeUnreferenced_spec (key : DocumentKey) (td : l.Tidy) (busy : l.Busy) :
    ∃ l', l.removeUnreferenced key = some l' ∧ l'.Tidy ∧ l'.Busy ∧ Keeps l l' ∧
      ∀ k, l'.Tracked k ↔
        l.Tracked k ∧ ¬ (k = key ∧ l.limboDocumentRefs.containsKey key = false) := by
  rw [removeUnreferenced]
  by_cases c : l.limboDocumentRefs.containsKey key = true
  · rw [c, if_neg (by decide)]
    exact ⟨l, rfl, td, busy, .refl, fun k => by simp⟩
  · have c' : l.limboDocumentRefs.containsKey key = false := Bool.not_eq_true _ ▸ c
    obtain ⟨l', e, td', busy', keeps, tracked⟩ := removeLimboTarget_spec key td busy
    rw [c', if_pos (by decide)]
    exact ⟨l', e, td', busy', keeps, fun k => by rw [tracked]; simp⟩

/-! ## What happens to a document in limbo -/

/-- A document that is not being resolved may wait. -/
lemma Tidy.enqueue (td : l.Tidy) (none_ : l.activeLimboTargetsByKey.get key = none)
    (distinct : (l.enqueuedLimboResolutions.elements ++ [key]).Nodup) :
    Tidy { l with
      enqueuedLimboResolutions := ⟨l.enqueuedLimboResolutions.elements ++ [key], distinct⟩ } :=
  { td with
    apart := by
      intro k mem
      rcases List.mem_append.1 mem with mem | mem
      · exact td.apart k mem
      · rw [List.mem_singleton.1 mem]
        exact none_ }

/-- A document that is in limbo for some view is tracked from now on. -/
lemma trackLimboChange_spec (key : DocumentKey) (td : l.Tidy) (busy : l.Busy) :
    (l.trackLimboChange key).Tidy ∧ (l.trackLimboChange key).Busy ∧
      Keeps l (l.trackLimboChange key) ∧
      ∀ k, (l.trackLimboChange key).Tracked k ↔ l.Tracked k ∨ k = key := by
  have there (h : l.Tracked key) (k : DocumentKey) : l.Tracked k ↔ l.Tracked k ∨ k = key := by
    refine ⟨.inl, ?_⟩
    rintro (h' | rfl)
    · exact h'
    · exact h
  rw [trackLimboChange]
  by_cases active : l.activeLimboTargetsByKey.contains key = true
  · rw [if_pos active]
    exact ⟨td, busy, .refl, there (.inr active)⟩
  · rw [if_neg active, RandomAccessQueue.pushBack]
    by_cases waits : key ∈ l.enqueuedLimboResolutions.elements
    · rw [dif_pos waits]
      exact ⟨td, busy, .refl, there (.inl waits)⟩
    · rw [dif_neg waits]
      dsimp only
      have none_ : l.activeLimboTargetsByKey.get key = none := by
        rw [SortedTable.contains, Option.not_isSome_iff_eq_none] at active
        exact active
      obtain ⟨td', busy', keeps, tracked⟩ :=
        pumpEnqueuedLimboResolutions_spec (td.enqueue none_ _)
      refine ⟨td', busy', ⟨keeps.limit, keeps.refs, keeps.queries⟩, ?_⟩
      intro k
      rw [tracked, Tracked, Tracked]
      dsimp only
      rw [List.mem_append, List.mem_singleton, or_right_comm]

/-- What the views have in limbo after a report. -/
def reported (id : TargetId) (has : DocumentKey → TargetId → Bool) :
    LimboDocumentChange → DocumentKey → TargetId → Bool
  | .added key, k, t => decide (k = key ∧ t = id) || has k t
  | .removed key, k, t => !decide (k = key ∧ t = id) && has k t

/-- What a step on a consistent tracker is and keeps: the limit and the targets of the queries, but
    for those that it is about. -/
structure Steps (l l' : LimboTracker) (has : DocumentKey → TargetId → Bool) : Prop where
  tracks : l'.Tracks
  limit : l'.maxConcurrentLimboResolutions = l.maxConcurrentLimboResolutions
  refs : ∀ k t, l'.limboDocumentRefs.has k t = has k t

/-- All documents in limbo are tracked. -/
def Resolves (l : LimboTracker) : Prop :=
  ∀ k, l.limboDocumentRefs.containsKey k = true → l.Tracked k

/-- A report of a view. -/
lemma updateTrackedLimboDocument_spec (id : TargetId) (tr : l.Tracks) (c : LimboDocumentChange) :
    ∃ l', updateTrackedLimboDocument id l c = some l' ∧
      Steps l l' (reported id l.limboDocumentRefs.has c) ∧
      (∀ t : Nat, t % 2 = 0 → l'.listenTargets.get t = l.listenTargets.get t) ∧
      (l.Resolves → l'.Resolves) := by
  cases c with
  | added key =>
    let l1 : LimboTracker :=
      { l with limboDocumentRefs := l.limboDocumentRefs.addReference key id }
    have td1 : l1.Tidy := { tr.toTidy with }
    obtain ⟨td, busy, keeps, tracked⟩ := trackLimboChange_spec key td1 tr.busy
    have tracked' (k : DocumentKey) : (l1.trackLimboChange key).Tracked k ↔ l.Tracked k ∨ k = key :=
      tracked k
    have has (k : DocumentKey) : (l1.trackLimboChange key).limboDocumentRefs.containsKey k = true ↔
        k = key ∨ l.limboDocumentRefs.containsKey k = true := by
      rw [keeps.refs, ReferenceSet.containsKey_iff, ReferenceSet.containsKey_iff]
      change (∃ t, (l.limboDocumentRefs.addReference key id).has k t = true) ↔ _
      simp only [ReferenceSet.has_addReference, Bool.or_eq_true, decide_eq_true_eq, exists_or,
        exists_and_left, exists_eq, and_true]
    refine ⟨_, rfl, ⟨⟨td, ?_, busy⟩, keeps.limit, ?_⟩, keeps.queries, ?_⟩
    · intro k h
      rw [has]
      rcases (tracked' k).1 h with h | h
      · exact .inr (tr.referenced k h)
      · exact .inl h
    · intro k t
      rw [keeps.refs]
      exact ReferenceSet.has_addReference
    · intro resolves k h
      rw [tracked']
      rcases (has k).1 h with h | h
      · exact .inr h
      · exact .inl (resolves k h)
  | removed key =>
    let l1 : LimboTracker :=
      { l with limboDocumentRefs := l.limboDocumentRefs.removeReference key id }
    have td1 : l1.Tidy := { tr.toTidy with }
    obtain ⟨l', e, td, busy, keeps, tracked⟩ := removeUnreferenced_spec key td1 tr.busy
    have tracked' (k : DocumentKey) : l'.Tracked k ↔
        l.Tracked k ∧ ¬ (k = key ∧ l1.limboDocumentRefs.containsKey key = false) := tracked k
    have other (k : DocumentKey) (ne : k ≠ key) : l1.limboDocumentRefs.containsKey k =
        l.limboDocumentRefs.containsKey k := by
      rw [Bool.eq_iff_iff, ReferenceSet.containsKey_iff, ReferenceSet.containsKey_iff]
      change (∃ t, (l.limboDocumentRefs.removeReference key id).has k t = true) ↔ _
      simp only [ReferenceSet.has_removeReference, ne, false_and, decide_false, Bool.not_false,
        Bool.true_and]
    refine ⟨l', e, ⟨⟨td, ?_, busy⟩, keeps.limit, ?_⟩, keeps.queries, ?_⟩
    · intro k h
      rw [keeps.refs]
      obtain ⟨h, left⟩ := (tracked' k).1 h
      by_cases ek : k = key
      · subst ek
        by_contra no
        exact left ⟨rfl, Bool.not_eq_true _ ▸ no⟩
      · rw [other k ek]
        exact tr.referenced k h
    · intro k t
      rw [keeps.refs]
      exact ReferenceSet.has_removeReference
    · intro resolves k h
      rw [keeps.refs] at h
      rw [tracked']
      by_cases ek : k = key
      · subst ek
        refine ⟨resolves k ?_, fun no => by rw [no.2] at h; cases h⟩
        obtain ⟨t, ht⟩ := ReferenceSet.containsKey_iff.1 h
        change (l.limboDocumentRefs.removeReference k id).has k t = true at ht
        rw [ReferenceSet.has_removeReference, Bool.and_eq_true] at ht
        exact ReferenceSet.containsKey_iff.2 ⟨t, ht.2⟩
      · rw [other k ek] at h
        exact ⟨resolves k h, fun no => ek no.1⟩

/-- All reports of a view about one event. -/
lemma updateTrackedLimboDocuments_spec (id : TargetId) (tr : l.Tracks)
    (cs : List LimboDocumentChange) :
    ∃ l', l.updateTrackedLimboDocuments cs id = some l' ∧
      Steps l l' (cs.foldl (reported id) l.limboDocumentRefs.has) ∧
      (∀ t : Nat, t % 2 = 0 → l'.listenTargets.get t = l.listenTargets.get t) ∧
      (l.Resolves → l'.Resolves) := by
  rw [updateTrackedLimboDocuments]
  induction cs generalizing l with
  | nil => exact ⟨l, rfl, ⟨tr, rfl, fun _ _ => rfl⟩, fun _ _ => rfl, fun r => r⟩
  | cons c cs ih =>
    obtain ⟨l1, e1, steps1, queries1, resolves1⟩ := updateTrackedLimboDocument_spec id tr c
    obtain ⟨l2, e2, steps2, queries2, resolves2⟩ := ih steps1.tracks
    refine ⟨l2, ?_, ⟨steps2.tracks, steps2.limit.trans steps1.limit, ?_⟩,
      fun t even => (queries2 t even).trans (queries1 t even), fun r => resolves2 (resolves1 r)⟩
    · rw [List.foldlM_cons, e1]
      exact e2
    · have eq : l1.limboDocumentRefs.has = reported id l.limboDocumentRefs.has c := by
        funext k t
        exact steps1.refs k t
      intro k t
      rw [steps2.refs, eq]
      rfl

/-- The same for several documents. -/
lemma foldlM_removeUnreferenced (td : l.Tidy) (busy : l.Busy) (ks : List DocumentKey) :
    ∃ l', ks.foldlM removeUnreferenced l = some l' ∧ l'.Tidy ∧ l'.Busy ∧ Keeps l l' ∧
      ∀ k, l'.Tracked k ↔
        l.Tracked k ∧ ¬ (k ∈ ks ∧ l.limboDocumentRefs.containsKey k = false) := by
  induction ks generalizing l with
  | nil => exact ⟨l, rfl, td, busy, .refl, fun k => by simp⟩
  | cons key ks ih =>
    obtain ⟨l1, e1, td1, busy1, keeps1, tracked1⟩ := removeUnreferenced_spec key td busy
    obtain ⟨l2, e2, td2, busy2, keeps2, tracked2⟩ := ih td1 busy1
    refine ⟨l2, ?_, td2, busy2, keeps1.trans keeps2, ?_⟩
    · rw [List.foldlM_cons, e1]
      exact e2
    · intro k
      rw [tracked2, tracked1, keeps1.refs, List.mem_cons]
      by_cases e : k = key
      · subst e
        by_cases c : l.limboDocumentRefs.containsKey k = true <;> simp [c]
      · simp [e]

/-- The view of a query is gone. -/
lemma removeAndCleanupTarget_spec (id : TargetId) (tr : l.Tracks) :
    ∃ l', l.removeAndCleanupTarget id = some l' ∧
      Steps l l' (fun k t => decide (t ≠ id) && l.limboDocumentRefs.has k t) ∧
      (∀ t : Nat, t % 2 = 0 → l'.listenTargets.get t = l.listenTargets.get t) ∧
      (l.Resolves → l'.Resolves) := by
  let l1 : LimboTracker :=
    { l with limboDocumentRefs := l.limboDocumentRefs.removeReferences id }
  have td1 : l1.Tidy := { tr.toTidy with }
  obtain ⟨l', e, td, busy, keeps, tracked⟩ := foldlM_removeUnreferenced td1 tr.busy
    (l.limboDocumentRefs.referencedKeys id)
  have tracked' (k : DocumentKey) : l'.Tracked k ↔ l.Tracked k ∧
      ¬ (k ∈ l.limboDocumentRefs.referencedKeys id ∧
        l1.limboDocumentRefs.containsKey k = false) := tracked k
  refine ⟨l', e, ⟨⟨td, ?_, busy⟩, keeps.limit, ?_⟩, keeps.queries, ?_⟩
  · intro k h
    rw [keeps.refs]
    obtain ⟨h, left⟩ := (tracked' k).1 h
    by_contra no
    obtain ⟨t, ht⟩ := ReferenceSet.containsKey_iff.1 (tr.referenced k h)
    by_cases et : t = id
    · subst et
      exact left ⟨ReferenceSet.mem_referencedKeys.2 ht, Bool.not_eq_true _ ▸ no⟩
    · apply no
      refine ReferenceSet.containsKey_iff.2 ⟨t, ?_⟩
      change (l.limboDocumentRefs.removeReferences id).has k t = true
      rw [ReferenceSet.has_removeReferences, ht, decide_eq_true et]
      rfl
  · intro k t
    rw [keeps.refs]
    exact ReferenceSet.has_removeReferences
  · intro resolves k h
    rw [keeps.refs] at h
    rw [tracked']
    refine ⟨resolves k ?_, fun no => by rw [no.2] at h; cases h⟩
    obtain ⟨t, ht⟩ := ReferenceSet.containsKey_iff.1 h
    change (l.limboDocumentRefs.removeReferences id).has k t = true at ht
    rw [ReferenceSet.has_removeReferences, Bool.and_eq_true] at ht
    exact ReferenceSet.containsKey_iff.2 ⟨t, ht.2⟩

/-- The targets of queries come and go without a change to the rest. -/
lemma Tracks.queries_of (tr : l.Tracks) {targets : SortedTable TargetId TargetData}
    {calls : List RemoteStoreCall}
    (limbo : ∀ t, l.activeLimboResolutionsByTarget.contains t = true →
      targets.contains t = l.listenTargets.contains t)
    (even : ∀ t : Nat, targets.contains t = true → l.listenTargets.contains t = false →
      t % 2 = 0) : Tracks { l with listenTargets := targets, calls := calls } where
  toTidy :=
    { tr.toTidy with
      watched := by
        intro t c
        obtain ⟨w, rest⟩ := tr.watched t c
        exact ⟨(limbo t c).trans w, rest⟩
      queries := by
        intro t c no
        by_cases old : l.listenTargets.contains t = true
        · exact tr.queries t old no
        · exact even t c (Bool.not_eq_true _ ▸ old) }
  referenced := tr.referenced
  busy := tr.busy

/-- The target of a query resolves no document. -/
lemma not_active_of_even (td : l.Tidy) (even : t % 2 = 0) :
    l.activeLimboResolutionsByTarget.contains t = false := by
  by_contra c
  have odd := (td.watched t (by simpa using c)).2.1
  omega

/-- The target of a query is forgotten. -/
lemma Tracks.forget (tr : l.Tracks) (no : l.activeLimboResolutionsByTarget.contains t = false)
    (calls : List RemoteStoreCall) :
    Tracks { l with listenTargets := l.listenTargets.delete t, calls := calls } := by
  apply tr.queries_of
  · intro u c
    rw [SortedTable.contains, SortedTable.get_delete, if_neg]
    · rfl
    · rintro rfl
      rw [no] at c
      cases c
  · intro u c out
    rw [SortedTable.contains, SortedTable.get_delete] at c
    split at c
    case isTrue => cases c
    case isFalse =>
      rw [SortedTable.contains, c] at out
      cases out

/-- The server refuses a target. -/
lemma handleRejectedListen_spec (id : Nat) (tr : l.Tracks) :
    ∃ l' key, l.handleRejectedListen id = some (l', key) ∧
      Steps l l' (fun k t =>
        (key.isSome || !l.listenTargets.contains id || decide (t ≠ id)) &&
          l.limboDocumentRefs.has k t) ∧
      (id % 2 = 0 → key = none) ∧
      (∀ t : Nat, t % 2 = 0 → l'.listenTargets.get t =
        if t = id then none else l.listenTargets.get t) ∧
      (key = none → l.Resolves → l'.Resolves) := by
  rw [handleRejectedListen]
  by_cases watched : l.listenTargets.contains id = true
  · rw [watched]
    simp only [Bool.not_true, Bool.false_eq_true, ↓reduceIte, Bool.or_false]
    cases active : l.activeLimboResolutionsByTarget.get id with
    | some r =>
      have byKey : l.activeLimboTargetsByKey.get r.key = some id := by
        rw [tr.inverse, active]
        rfl
      have ends := tr.toTidy.endResolution byKey l.enqueuedLimboResolutions (fun _ mem => mem)
        l.calls
      obtain ⟨td, busy, keeps, tracked⟩ := pumpEnqueuedLimboResolutions_spec ends
      have keeps' := (keeps_endResolution tr.toTidy byKey).trans keeps
      have c : l.activeLimboResolutionsByTarget.contains id = true :=
        Option.isSome_iff_exists.2 ⟨r, active⟩
      have odd := (tr.watched id c).2.1
      let ended := l.endResolution r.key id l.enqueuedLimboResolutions l.calls
      refine ⟨ended.pumpEnqueuedLimboResolutions, some r.key, rfl, ⟨⟨td, ?_, busy⟩, keeps'.limit, ?_⟩, ?_, ?_, ?_⟩
      · intro k h
        rw [keeps'.refs]
        apply tr.referenced k
        rcases (tracked k).1 h with h | h
        · exact .inl h
        · refine .inr ?_
          change (SortedTable.delete _ _).contains k = true at h
          rw [SortedTable.contains, SortedTable.get_delete] at h
          split at h
          case isTrue => cases h
          case isFalse => exact h
      · intro k t
        rw [keeps'.refs]
        rfl
      · intro even
        omega
      · intro t even
        rw [if_neg (by rintro rfl; omega)]
        exact keeps'.queries t even
      · intro no
        cases no
    | none =>
      have no : l.activeLimboResolutionsByTarget.contains id = false := by
        rw [SortedTable.contains, active]
        rfl
      obtain ⟨l', e, steps, queries, resolves⟩ :=
        removeAndCleanupTarget_spec id (tr.forget no l.calls)
      refine ⟨l', none, ?_, ⟨steps.tracks, steps.limit, ?_⟩, fun _ => rfl, ?_, fun _ => resolves⟩
      · rw [e]
        rfl
      · intro k t
        rw [steps.refs]
        rfl
      · intro t even
        rw [queries t even]
        exact SortedTable.get_delete
  · have watched' : l.listenTargets.contains id = false := Bool.not_eq_true _ ▸ watched
    rw [watched']
    refine ⟨l, none, rfl, ⟨tr, rfl, ?_⟩, fun _ => rfl, ?_, fun _ => fun r => r⟩
    · intro k t
      rw [Bool.not_false, Bool.or_true, Bool.true_or, Bool.true_and]
    · intro t _
      split
      case isTrue e =>
        rw [SortedTable.contains, Option.isSome_eq_false_iff] at watched'
        rw [e]
        exact Option.isNone_iff_eq_none.1 watched'
      case isFalse => rfl

/-- What the server may say of a document in limbo: it is sent, changed or taken back, once at a
    time. -/
def Accepts (l : LimboTracker) (r : TargetId × TargetChange) : Prop :=
  ∀ limboResolution, l.activeLimboResolutionsByTarget.get r.1 = some limboResolution →
    (receive limboResolution r.2).isSome = true

/-- An event leaves the document of a resolution. -/
lemma key_receive {r r' : LimboResolution} {c : TargetChange} (e : receive r c = some r') :
    r'.key = r.key := by
  rw [receive] at e
  split at e
  case isFalse => cases e
  case isTrue =>
    split at e
    case isTrue =>
      cases e
      rfl
    case isFalse =>
      split at e
      case isTrue =>
        split at e
        case isTrue =>
          cases e
          rfl
        case isFalse => cases e
      case isFalse =>
        split at e
        case isTrue =>
          split at e
          case isTrue =>
            cases e
            rfl
          case isFalse => cases e
        case isFalse =>
          cases e
          rfl

/-- What the server says of one document in limbo. -/
lemma receiveTargetChange_spec {r : TargetId × TargetChange} (tr : l.Tracks) (ok : l.Accepts r) :
    ∃ l', l.receiveTargetChange r = some l' ∧ Steps l l' l.limboDocumentRefs.has ∧
      l'.listenTargets = l.listenTargets ∧ (l.Resolves → l'.Resolves) ∧
      ∀ t, t ≠ r.1 → l'.activeLimboResolutionsByTarget.get t =
        l.activeLimboResolutionsByTarget.get t := by
  rw [receiveTargetChange]
  cases active : l.activeLimboResolutionsByTarget.get r.1 with
  | none => exact ⟨l, rfl, ⟨tr, rfl, fun _ _ => rfl⟩, rfl, fun h => h, fun _ _ => rfl⟩
  | some limbo =>
    obtain ⟨limbo', er⟩ := Option.isSome_iff_exists.1 (ok limbo active)
    have key := key_receive er
    dsimp only
    rw [er]
    have get (t : TargetId) : ((l.activeLimboResolutionsByTarget.put r.1 limbo').get t).map
        LimboResolution.key = (l.activeLimboResolutionsByTarget.get t).map LimboResolution.key := by
      rw [SortedTable.get_put]
      split
      case isTrue e =>
        rw [e, active]
        exact congrArg some key
      case isFalse => rfl
    have contains (t : TargetId) : (l.activeLimboResolutionsByTarget.put r.1 limbo').contains t =
        l.activeLimboResolutionsByTarget.contains t := by
      have h := congrArg Option.isSome (get t)
      rw [Option.isSome_map, Option.isSome_map] at h
      exact h
    refine ⟨_, rfl, ⟨⟨?_, tr.referenced, tr.busy⟩, rfl, fun _ _ => rfl⟩, rfl, fun h => h, ?_⟩
    · exact
        { tr.toTidy with
          inverse := fun k t => by
            rw [get]
            exact tr.inverse k t
          watched := fun t c => by
            rw [contains] at c
            exact tr.watched t c
          queries := fun t c no => by
            rw [contains] at no
            exact tr.queries t c no }
    · intro t ne
      exact SortedTable.get_put.trans (if_neg ne)

/-- What an event says of the documents in limbo. -/
lemma applyRemoteEvent_spec {e : RemoteEvent} (tr : l.Tracks)
    (ok : ∀ r ∈ e.targetChanges.rows, l.Accepts r) :
    ∃ l', l.applyRemoteEvent e = some l' ∧ Steps l l' l.limboDocumentRefs.has ∧
      l'.listenTargets = l.listenTargets ∧ (l.Resolves → l'.Resolves) := by
  have rows : ∀ (rs : List (TargetId × TargetChange)) (l : LimboTracker), l.Tracks →
      rs.Pairwise (fun a b => a.1 ≠ b.1) → (∀ r ∈ rs, l.Accepts r) →
      ∃ l', rs.foldlM receiveTargetChange l = some l' ∧ Steps l l' l.limboDocumentRefs.has ∧
        l'.listenTargets = l.listenTargets ∧ (l.Resolves → l'.Resolves) := by
    intro rs
    induction rs with
    | nil => exact fun l tr _ _ => ⟨l, rfl, ⟨tr, rfl, fun _ _ => rfl⟩, rfl, fun r => r⟩
    | cons r rs ih =>
      intro l tr distinct ok
      rw [List.pairwise_cons] at distinct
      obtain ⟨l1, e1, steps1, same1, resolves1, others⟩ :=
        receiveTargetChange_spec tr (ok r List.mem_cons_self)
      obtain ⟨l2, e2, steps2, same2, resolves2⟩ := ih l1 steps1.tracks distinct.2 (by
        intro r' mem limbo active
        rw [others r'.1 (distinct.1 r' mem).symm] at active
        exact ok r' (List.mem_cons_of_mem _ mem) limbo active)
      refine ⟨l2, ?_, ⟨steps2.tracks, steps2.limit.trans steps1.limit, ?_⟩,
        same2.trans same1, fun h => resolves2 (resolves1 h)⟩
      · rw [List.foldlM_cons, e1]
        exact e2
      · intro k t
        rw [steps2.refs, steps1.refs]
  exact rows e.targetChanges.rows l tr e.targetChanges.distinct_rows ok

/-! ## Runs -/

/-- What happens to the tables. -/
inductive LimboEvent where
  | listen (data : TargetData)
  | stopListening (targetId : TargetId)
  | limboChanges (changes : List LimboDocumentChange) (targetId : TargetId)
  | rejectedListen (targetId : TargetId)
  | remoteEvent (e : RemoteEvent)

/-- One event of the limbo resolution. -/
def step (l : LimboTracker) : LimboEvent → Option LimboTracker
  | .listen data => some (l.listen data)
  | .stopListening t => (l.stopListening t).bind fun l => l.removeAndCleanupTarget t
  | .limboChanges changes t => l.updateTrackedLimboDocuments changes t
  | .rejectedListen t => (l.handleRejectedListen t).map Prod.fst
  | .remoteEvent e => l.applyRemoteEvent e

/-- How the client calls: the targets of queries have even numbers, only queries that are listened to
    have views that report documents and can be stopped, and the server says of a document in limbo
    what can be said of one document. -/
def Asks (l : LimboTracker) : LimboEvent → Prop
  | .listen data => (data.targetId : Nat) % 2 = 0
  | .stopListening t => (t : Nat) % 2 = 0 ∧ l.listenTargets.contains t = true
  | .limboChanges _ t => (t : Nat) % 2 = 0 ∧ l.listenTargets.contains t = true
  | .rejectedListen _ => True
  | .remoteEvent e => ∀ r ∈ e.targetChanges.rows, l.Accepts r

instance {r : TargetId × TargetChange} : Decidable (l.Accepts r) :=
  match e : l.activeLimboResolutionsByTarget.get r.1 with
  | none => .isTrue fun _ e' => by
    rw [e] at e'
    cases e'
  | some limbo => decidable_of_iff ((receive limbo r.2).isSome = true) (by
    constructor
    · rintro h _ e'
      rw [e] at e'
      cases e'
      exact h
    · exact fun h => h limbo e)

instance (l : LimboTracker) (e : LimboEvent) : Decidable (l.Asks e) := by
  cases e <;> dsimp only [Asks] <;> infer_instance

/-- What the views have in limbo after an event. -/
def limboAfter (has : DocumentKey → TargetId → Bool) :
    LimboEvent → DocumentKey → TargetId → Bool
  | .limboChanges changes t => changes.foldl (reported t) has
  | .stopListening t => fun k t' => decide (t' ≠ t) && has k t'
  | .rejectedListen t => fun k t' => decide (t' ≠ t) && has k t'
  | _ => has

/-- What the views have in limbo after some events. -/
def inLimbo (es : List LimboEvent) : DocumentKey → TargetId → Bool :=
  es.foldl limboAfter fun _ _ => false

/-- The views of the queries that are listened to have documents in limbo, and no others. -/
def Owned (l : LimboTracker) : Prop :=
  ∀ k t, l.limboDocumentRefs.has k t = true →
    l.listenTargets.contains t = true ∧ (t : Nat) % 2 = 0

/-- A report is about one target. -/
lemma reported_others {id : TargetId} {has : DocumentKey → TargetId → Bool}
    (cs : List LimboDocumentChange) {t : TargetId} (ne : t ≠ id) :
    cs.foldl (reported id) has k t = has k t := by
  induction cs generalizing has with
  | nil => rfl
  | cons c cs ih =>
    rw [List.foldl_cons, ih]
    cases c <;> simp [reported, ne]

/-- What stands under a number says whether it is in use. -/
lemma contains_of_get_eq {a b : SortedTable TargetId TargetData} {t : TargetId}
    (e : a.get t = b.get t) : a.contains t = b.contains t := by
  rw [SortedTable.contains, SortedTable.contains, e]

/-- One step of the client. -/
lemma step_spec (tr : l.Tracks) (owned : l.Owned) {e : LimboEvent} (asks : l.Asks e) :
    ∃ l', l.step e = some l' ∧ Steps l l' l'.limboDocumentRefs.has ∧ l'.Owned ∧
      ((∀ t, e = .rejectedListen t → (t : Nat) % 2 = 0) →
        l'.limboDocumentRefs.has = limboAfter l.limboDocumentRefs.has e ∧
        (l.Resolves → l'.Resolves)) := by
  cases e with
  | listen data =>
    have even : (data.targetId : Nat) % 2 = 0 := asks
    refine ⟨_, rfl, ?_⟩
    rw [listen]
    split
    case isTrue => exact ⟨⟨tr, rfl, fun _ _ => rfl⟩, owned, fun _ => ⟨rfl, fun r => r⟩⟩
    case isFalse new =>
      refine ⟨⟨?_, rfl, fun _ _ => rfl⟩, ?_, fun _ => ⟨rfl, fun r => r⟩⟩
      · apply tr.queries_of
        · intro t c
          have odd := (tr.watched t c).2.1
          rw [SortedTable.contains, SortedTable.get_put, if_neg]
          · rfl
          · intro et
            rw [et, even] at odd
            cases odd
        · intro t c out
          rw [SortedTable.contains, SortedTable.get_put] at c
          split at c
          case isTrue e =>
            rw [e]
            exact even
          case isFalse =>
            rw [SortedTable.contains, c] at out
            cases out
      · intro k t h
        obtain ⟨c, even'⟩ := owned k t h
        refine ⟨?_, even'⟩
        change SortedTable.contains (SortedTable.put _ _ _) t = true
        rw [SortedTable.contains, SortedTable.get_put]
        split
        case isTrue => rfl
        case isFalse => exact c
  | stopListening t =>
    obtain ⟨even, watched⟩ := asks
    have no := not_active_of_even tr.toTidy even
    obtain ⟨l', e, steps, queries, resolves⟩ :=
      removeAndCleanupTarget_spec t (tr.forget no (l.calls ++ [.stopListening t]))
    refine ⟨l', ?_, ⟨steps.tracks, steps.limit, fun _ _ => rfl⟩, ?_, fun _ => ⟨?_, resolves⟩⟩
    · rw [step, stopListening, if_pos watched]
      exact e
    · intro k u h
      rw [steps.refs, Bool.and_eq_true, decide_eq_true_eq] at h
      obtain ⟨c, even'⟩ := owned k u h.2
      refine ⟨?_, even'⟩
      rw [contains_of_get_eq (queries u even')]
      change SortedTable.contains (SortedTable.delete _ _) u = true
      rw [SortedTable.contains, SortedTable.get_delete, if_neg h.1]
      exact c
    · funext k u
      exact steps.refs k u
  | limboChanges changes t =>
    obtain ⟨even, watched⟩ := asks
    obtain ⟨l', e, steps, queries, resolves⟩ :=
      updateTrackedLimboDocuments_spec t tr changes
    refine ⟨l', e, ⟨steps.tracks, steps.limit, fun _ _ => rfl⟩, ?_, fun _ => ⟨?_, resolves⟩⟩
    · intro k u h
      rw [steps.refs] at h
      by_cases ne : u = t
      · rw [ne, contains_of_get_eq (queries t even)]
        exact ⟨watched, even⟩
      · rw [reported_others _ ne] at h
        obtain ⟨c, even'⟩ := owned k u h
        rw [contains_of_get_eq (queries u even')]
        exact ⟨c, even'⟩
    · funext k u
      exact steps.refs k u
  | rejectedListen t =>
    obtain ⟨l', key, e, steps, none_, queries, resolves⟩ := handleRejectedListen_spec t tr
    refine ⟨l', ?_, ⟨steps.tracks, steps.limit, fun _ _ => rfl⟩, ?_, ?_⟩
    · rw [step, e]
      rfl
    · intro k u h
      rw [steps.refs, Bool.and_eq_true] at h
      obtain ⟨c, even⟩ := owned k u h.2
      refine ⟨?_, even⟩
      have ne : u ≠ t := by
        rintro rfl
        rw [none_ even, c] at h
        simp at h
      rw [SortedTable.contains, queries u even, if_neg ne]
      exact c
    · intro even
      have no := none_ (even t rfl)
      refine ⟨?_, resolves no⟩
      funext k u
      rw [steps.refs, no, limboAfter]
      by_cases watched : l.listenTargets.contains t = true
      · simp [watched]
      · by_cases eu : u = t
        · have gone : l.limboDocumentRefs.has k t = false := by
            by_contra h
            exact watched (owned k t (by simpa using h)).1
          rw [eu]
          dsimp only
          rw [gone, Bool.and_false, Bool.and_false]
        · simp [eu]
  | remoteEvent ev =>
    obtain ⟨l', e, steps, same, resolves⟩ := applyRemoteEvent_spec tr asks
    refine ⟨l', e, ⟨steps.tracks, steps.limit, fun _ _ => rfl⟩, ?_, fun _ => ⟨?_, resolves⟩⟩
    · intro k t h
      rw [steps.refs] at h
      rw [same]
      exact owned k t h
    · funext k t
      exact steps.refs k t

/-- In the beginning nothing is tracked. -/
lemma new_tracks {n : Nat} : (new n).Tracks where
  inverse := fun _ _ => iff_of_false (fun e => by cases e) fun e => by cases e
  apart := fun _ mem => by cases mem
  bounded := Nat.zero_le _
  watched := fun _ c => by cases c
  queries := fun _ c => by cases c
  generator := rfl
  referenced := by
    rintro k (mem | c)
    · cases mem
    · cases c
  busy := fun ne => absurd rfl ne

/-- After every run the tables fit together and nothing that the client does with them fails: no more
    than the allowed number of documents is being resolved, none of them twice and each by a target
    that is watched, the others wait in turn, and no place is idle meanwhile. -/
theorem run_tracks {n : Nat} {es : List LimboEvent} {l : LimboTracker}
    (rn : Run (Guarded (Fires step) Asks) (new n) es l) :
    l.maxConcurrentLimboResolutions = n ∧ l.Tracks ∧ ∀ e, l.Asks e → (l.step e).isSome = true := by
  have inv : l.maxConcurrentLimboResolutions = n ∧ l.Tracks ∧ l.Owned := by
    apply rn.invariant_guarded (P := fun l => l.maxConcurrentLimboResolutions = n ∧ l.Tracks ∧ l.Owned)
    · rintro l e l' st asks ⟨limit, tr, owned⟩
      obtain ⟨l'', e', steps, owned', _⟩ := step_spec tr owned asks
      rw [Fires, e'] at st
      cases st
      exact ⟨steps.limit.trans limit, steps.tracks, owned'⟩
    · exact ⟨rfl, new_tracks, fun k t h => by cases h⟩
  obtain ⟨limit, tr, owned⟩ := inv
  refine ⟨limit, tr, ?_⟩
  intro e asks
  obtain ⟨l', e', _⟩ := step_spec tr owned asks
  rw [e']
  rfl

/-- One place and two documents: one is resolved and the other one waits. -/
theorem run_tracks_oneWaits :
    ∃ l, Run (Guarded (Fires step) Asks) (new 1)
        [.listen ⟨.ofPath ["users"], 2, .listen⟩,
          .limboChanges [.added ⟨["users"], "a@b.c"⟩, .added ⟨["users"], "d@e.f"⟩] 2] l ∧
      l.enqueuedLimboResolutions.elements = [⟨["users"], "d@e.f"⟩] ∧ l.Tracks := by
  obtain ⟨l, rn, good⟩ := exists_run (guardedStep step Asks) (new 1)
    [.listen ⟨.ofPath ["users"], 2, .listen⟩,
      .limboChanges [.added ⟨["users"], "a@b.c"⟩, .added ⟨["users"], "d@e.f"⟩] 2]
    (fun l => l.enqueuedLimboResolutions.elements = [⟨["users"], "d@e.f"⟩]) (by decide +kernel)
  have rn' := Run.of_guardedStep rn
  exact ⟨l, rn', of_decide_eq_true good, (run_tracks rn').2.1⟩

/-- As long as the server refuses no document in limbo, a document is being resolved or waits for it
    exactly while some view has it in limbo. -/
theorem run_resolves {n : Nat} {es : List LimboEvent} {l : LimboTracker}
    (rn : Run (Guarded (Fires step) Asks) (new n) es l)
    (answers : ∀ t, .rejectedListen t ∈ es → (t : Nat) % 2 = 0) (k : DocumentKey) :
    (∃ t, inLimbo es k t = true) ↔
      k ∈ l.enqueuedLimboResolutions.elements ∨ l.activeLimboTargetsByKey.contains k = true := by
  have inv : (∀ t, .rejectedListen t ∈ es → (t : Nat) % 2 = 0) →
      l.Tracks ∧ l.Owned ∧ l.Resolves ∧ l.limboDocumentRefs.has = inLimbo es := by
    apply rn.history (P := fun es l => (∀ t, .rejectedListen t ∈ es → (t : Nat) % 2 = 0) →
      l.Tracks ∧ l.Owned ∧ l.Resolves ∧ l.limboDocumentRefs.has = inLimbo es)
    · intro _
      exact ⟨new_tracks, (fun k t h => by cases h), (fun k h => by cases h), rfl⟩
    · rintro es l e l' _ ⟨st, asks⟩ ih answers
      obtain ⟨tr, owned, resolves, same⟩ := ih fun t mem => answers t (List.mem_append_left _ mem)
      obtain ⟨l'', e', steps, owned', more⟩ := step_spec tr owned asks
      rw [Fires, e'] at st
      cases st
      obtain ⟨same', resolves'⟩ := more fun t et =>
        answers t (List.mem_append_right _ (List.mem_singleton.2 et.symm))
      refine ⟨steps.tracks, owned', resolves' resolves, ?_⟩
      rw [same', same, inLimbo, inLimbo, List.foldl_append]
      rfl
  obtain ⟨tr, _, resolves, same⟩ := inv answers
  rw [← same, ← ReferenceSet.containsKey_iff]
  exact ⟨resolves k, tr.referenced k⟩

/-- The document that was being resolved is explained, and the one that waited takes its place. -/
theorem run_resolves_next :
    ∃ l, Run (Guarded (Fires step) Asks) (new 1)
        [.listen ⟨.ofPath ["users"], 2, .listen⟩,
          .limboChanges [.added ⟨["users"], "a@b.c"⟩, .added ⟨["users"], "d@e.f"⟩] 2,
          .limboChanges [.removed ⟨["users"], "a@b.c"⟩] 2] l ∧
      l.enqueuedLimboResolutions.elements = [] ∧
      l.activeLimboTargetsByKey.contains ⟨["users"], "d@e.f"⟩ = true := by
  obtain ⟨l, rn, good⟩ := exists_run (guardedStep step Asks) (new 1)
    [.listen ⟨.ofPath ["users"], 2, .listen⟩,
      .limboChanges [.added ⟨["users"], "a@b.c"⟩, .added ⟨["users"], "d@e.f"⟩] 2,
      .limboChanges [.removed ⟨["users"], "a@b.c"⟩] 2]
    (fun l => l.enqueuedLimboResolutions.elements = []) (by decide +kernel)
  have rn' := Run.of_guardedStep rn
  have none_ := of_decide_eq_true good
  have answers (t : TargetId) (mem : LimboEvent.rejectedListen t ∈
      [LimboEvent.listen ⟨.ofPath ["users"], 2, .listen⟩,
        .limboChanges [.added ⟨["users"], "a@b.c"⟩, .added ⟨["users"], "d@e.f"⟩] 2,
        .limboChanges [.removed ⟨["users"], "a@b.c"⟩] 2]) : (t : Nat) % 2 = 0 := by
    simp at mem
  rcases (run_resolves rn' answers ⟨["users"], "d@e.f"⟩).1 ⟨2, by decide +kernel⟩ with h | h
  · rw [none_] at h
    cases h
  · exact ⟨l, rn', none_, h⟩

end LimboTracker

end Lumiere.Firestore.Client

import Mathlib.Tactic.Linarith
import Lumiere.Base.Run
import Lumiere.Controllers.Screen

/-!
# The tables of a list screen

Every callback of a listener attaches one more table and takes none away, and the tables before it
keep the row counts they have loaded. So one table is attached as long as there has been one
callback (`length_tables_run`), and a table asks for rows past the end of the list once a snapshot
has brought fewer documents than it has rows. `tablesAgree_iff` gives both conditions, for the
Watched screen and the Wishlist screen alike.
-/

namespace Lumiere
open Firestore
open Transition (Run Fires)

namespace ListScreen

variable {α : Type}

/-- Every row below the count that an attached table has loaded is a row of the list. -/
def Agrees (s : ListScreen α) : Prop :=
  ∀ table ∈ s.tables, ∀ n, table.numberOfRows = some n → n ≤ s.list.length

/-- The event is a callback of the listener. -/
def Event.isCallback : Event → Bool
  | .callback _ => true
  | _ => false

/-- The number of callbacks among the events. -/
def callbacks (es : List Event) : Nat :=
  es.countP Event.isCallback

/-- The snapshots among the events bring well-formed documents. -/
def WellFormed (c : ListController α) (es : List Event) : Prop :=
  ∀ documents, .callback (.ok documents) ∈ es → ∀ d ∈ documents, c.WellFormed d

/-- In the run of `es`, one table is attached after each callback. -/
def OneTable (c : ListController α) (es : List Event) : Prop :=
  ∀ es1 result es2 u v, es = es1 ++ .callback result :: es2 →
    Run (Fires c.step) viewDidLoad es1 u → c.step u (.callback result) = some v →
    v.tables.length = 1

/-- In every state of the run of `es`, no table asks for a row past the end of the list. -/
def InBounds (c : ListController α) (es : List Event) : Prop :=
  ∀ es1 es2 u, es = es1 ++ es2 → Run (Fires c.step) viewDidLoad es1 u → u.Agrees ∧ u.trap = none

/-- No snapshot brings fewer documents than an attached table has loaded rows. -/
def NeverShorter (c : ListController α) (es : List Event) : Prop :=
  ∀ es1 documents es2 u, es = es1 ++ .callback (.ok documents) :: es2 →
    Run (Fires c.step) viewDidLoad es1 u →
    ∀ table ∈ u.tables, ∀ n, table.numberOfRows = some n → n ≤ documents.length

/-! ## Steps -/

/-- What an event does to a running screen. -/
inductive Stepped (s : ListScreen α) : Event → ListScreen α → Prop where
  | error {err alerts} :
    Stepped s (.callback (.error err)) ({ s with alerts := alerts } : ListScreen α).addTable
  | snapshot {documents list} :
    list.length = documents.length →
    Stepped s (.callback (.ok documents)) ({ s with list := list } : ListScreen α).addTable
  | layout {table} :
    s.tables[table]? = some ⟨none⟩ →
    Stepped s (.layout table) (s.layout table)
  | row {table row n} :
    s.tables[table]? = some ⟨some n⟩ →
    row < n →
    Stepped s (.row table row) (s.lookUp row)

variable {c : ListController α} {s s' t : ListScreen α} {es : List Event}

/-- What a step does to the screen. -/
lemma step_inv {e} (st : c.step s e = some s')
    (wf : ∀ documents, e = .callback (.ok documents) → ∀ d ∈ documents, c.WellFormed d) :
    s.trap = none ∧ Stepped s e s' := by
  cases e with
  | callback result =>
    rw [ListController.step] at st
    split at st
    case isFalse => cases st
    case isTrue run =>
      cases st
      refine ⟨run, ?_⟩
      cases result with
      | error err =>
        rw [ListController.callback]
        split
        · exact .error
        · exact @Stepped.error _ _ _ s.alerts
      | ok documents =>
        obtain ⟨list, e, length⟩ := c.reads (wf documents rfl)
        simp only [ListController.callback, e, if_true]
        exact .snapshot length
  | layout table =>
    rw [ListController.step] at st
    split at st
    case isFalse => cases st
    case isTrue h =>
      cases st
      exact ⟨h.1, .layout h.2⟩
  | row table row =>
    rw [ListController.step] at st
    split at st
    case isFalse => cases st
    case isTrue h =>
      cases st
      obtain ⟨run, any⟩ := h
      obtain ⟨n, en, lt⟩ := (Option.any_eq_true _ _).1 any
      obtain ⟨⟨rows⟩, et, er⟩ := Option.bind_eq_some_iff.1 en
      cases er
      exact ⟨run, .row et (of_decide_eq_true lt)⟩

/-- The documents of each callback of a run are well formed. -/
lemma WellFormed.of_append {es1 e es2} (wf : WellFormed c es) (ees : es = es1 ++ e :: es2) :
    ∀ documents, e = .callback (.ok documents) → ∀ d ∈ documents, c.WellFormed d := by
  intro documents ee
  subst ees ee
  exact wf documents (by simp)

/-- The tables and the trap after a lookup. -/
@[simp] lemma lookUp_tables (s : ListScreen α) (row : Nat) : (s.lookUp row).tables = s.tables := by
  rw [lookUp]
  split <;> rfl

/-- A row of the list can be looked up. -/
lemma lookUp_lt {row : Nat} (lt : row < s.list.length) : s.lookUp row = s := by
  simp [lookUp, atRow, lt]

/-- A callback attaches one table, and nothing else attaches or removes one. -/
lemma Stepped.length_tables {e} (st : Stepped s e s') :
    s'.tables.length = s.tables.length + callbacks [e] := by
  cases st with
  | error | snapshot => simp [addTable, callbacks, Event.isCallback]
  | layout => simp [ListScreen.layout, callbacks, Event.isCallback]
  | row => simp [callbacks, Event.isCallback]

/-! ## Runs -/

/-- The callbacks of two parts of a run. -/
lemma callbacks_append {es fs : List Event} : callbacks (es ++ fs) = callbacks es + callbacks fs :=
  List.countP_append

/-- After a run as many tables are attached as there have been callbacks. -/
lemma length_tables_run (rn : Run (Fires c.step) viewDidLoad es t) (wf : WellFormed c es) :
    t.tables.length = callbacks es := by
  induction es using List.reverseRecOn generalizing t with
  | nil =>
    cases rn with
    | nil => rfl
  | append_singleton es e ih =>
    obtain ⟨u, rn1, rn2⟩ := rn.split
    obtain ⟨_, st⟩ := step_inv rn2.single_inv (wf.of_append rfl)
    have before := ih rn1 fun documents mem => wf documents (List.mem_append_left _ mem)
    rw [st.length_tables, before, callbacks_append]

/-- The last callback of a run. -/
lemma exists_last_callback (pos : 0 < callbacks es) :
    ∃ es1 result es2, es = es1 ++ .callback result :: es2 ∧ callbacks es2 = 0 := by
  induction es using List.reverseRecOn with
  | nil => cases pos
  | append_singleton es e ih =>
    cases e with
    | callback result => exact ⟨es, result, [], rfl, rfl⟩
    | layout | row =>
      rw [callbacks_append] at pos
      obtain ⟨es1, result, es2, ees, none⟩ := ih pos
      refine ⟨es1, result, es2 ++ [_], by rw [ees, List.append_assoc]; rfl, ?_⟩
      rw [callbacks_append, none]
      rfl

/-- One table is attached after each callback exactly when there is at most one callback. -/
lemma oneTable_iff (rn : Run (Fires c.step) viewDidLoad es t) (wf : WellFormed c es) :
    OneTable c es ↔ callbacks es ≤ 1 := by
  have after {es1 result es2 u v} (ees : es = es1 ++ .callback result :: es2)
      (rn1 : Run (Fires c.step) viewDidLoad es1 u) (st : c.step u (.callback result) = some v) :
      v.tables.length = callbacks es1 + 1 := by
    subst ees
    have prefix_wf : WellFormed c (es1 ++ [.callback result]) := by
      intro documents mem
      apply wf documents
      rw [← List.singleton_append, ← List.append_assoc]
      exact List.mem_append_left _ mem
    rw [length_tables_run (rn1.append (.single st)) prefix_wf, callbacks_append]
    rfl
  constructor
  · intro one
    rcases Nat.eq_zero_or_pos (callbacks es) with none | pos
    · omega
    · obtain ⟨es1, result, es2, ees, none⟩ := exists_last_callback pos
      subst ees
      obtain ⟨u, rn1, rn2⟩ := rn.split
      cases rn2 with
      | @cons _ _ v _ _ st rn3 =>
        have length := one es1 result es2 u v rfl rn1 st
        have length' := after rfl rn1 st
        have count : callbacks (es1 ++ .callback result :: es2) = callbacks es1 + 1 := by
          rw [← List.singleton_append, callbacks_append, callbacks_append, none]
          rfl
        omega
  · intro le es1 result es2 u v ees rn1 st
    have length := after ees rn1 st
    have count : callbacks es = callbacks es1 + 1 + callbacks es2 := by
      rw [ees, ← List.singleton_append, callbacks_append, callbacks_append]
      exact (Nat.add_assoc _ 1 _).symm
    omega

/-- A step keeps the tables in agreement, unless it brings too few documents. -/
lemma Stepped.agrees {e} (st : Stepped s e s') (agrees : s.Agrees) (run : s.trap = none)
    (long : ∀ documents, e = .callback (.ok documents) →
      ∀ table ∈ s.tables, ∀ n, table.numberOfRows = some n → n ≤ documents.length) :
    s'.Agrees ∧ s'.trap = none := by
  cases st with
  | error =>
    refine ⟨?_, run⟩
    intro table mem n en
    rcases List.mem_append.1 mem with mem | mem
    · exact agrees table mem n en
    · rw [List.mem_singleton.1 mem] at en
      cases en
  | snapshot length =>
    refine ⟨?_, run⟩
    intro table mem n en
    rcases List.mem_append.1 mem with mem | mem
    · exact (long _ rfl table mem n en).trans length.ge
    · rw [List.mem_singleton.1 mem] at en
      cases en
  | layout =>
    refine ⟨?_, run⟩
    intro table mem n en
    rcases List.mem_or_eq_of_mem_set mem with mem | e
    · exact agrees table mem n en
    · subst e
      cases en
      exact le_refl _
  | row et lt =>
    have le := agrees _ (List.mem_of_getElem? et) _ rfl
    rw [lookUp_lt (lt.trans_le le)]
    exact ⟨agrees, run⟩

/-- No table asks for a row past the end of the list exactly when no snapshot brings fewer documents
    than an attached table has loaded rows. -/
lemma inBounds_iff (rn : Run (Fires c.step) viewDidLoad es t) (wf : WellFormed c es) :
    InBounds c es ↔ NeverShorter c es := by
  constructor
  · intro bounds es1 documents es2 u ees rn1 table mem n en
    subst ees
    obtain ⟨u', rn1', rn2⟩ := rn.split
    cases rn1.fires_unique rn1'
    cases rn2 with
    | @cons _ _ v _ _ st rn3 =>
      obtain ⟨agrees, _⟩ := bounds (es1 ++ [.callback (.ok documents)]) es2 v
        (by rw [List.append_assoc]; rfl) (rn1.append (.single st))
      obtain ⟨_, stepped⟩ := step_inv st (wf.of_append rfl)
      cases stepped with
      | snapshot length =>
        exact (agrees table (List.mem_append_left _ mem) n en).trans length.le
  · intro long es1 es2 u ees rn1
    subst ees
    refine (rn1.history (P := fun es1' u => (∃ rest, es1 = es1' ++ rest) → u.Agrees ∧ u.trap = none)
      ?_ ?_) ⟨[], (List.append_nil es1).symm⟩
    · intro _
      exact ⟨fun table mem => absurd mem List.not_mem_nil, rfl⟩
    · rintro es1' v e u rn0 st ih ⟨rest, e1⟩
      subst e1
      obtain ⟨agrees, run⟩ := ih ⟨e :: rest, by rw [List.append_assoc]; rfl⟩
      have ees : es1' ++ [e] ++ rest ++ es2 = es1' ++ e :: (rest ++ es2) := by simp
      obtain ⟨_, stepped⟩ := step_inv st (wf.of_append ees)
      apply stepped.agrees agrees run
      intro documents ee
      subst ee
      exact long es1' documents (rest ++ es2) v ees rn0

/-- With one callback there is no table before it. -/
lemma neverShorter_of_callbacks (wf : WellFormed c es) (le : callbacks es ≤ 1) :
    NeverShorter c es := by
  intro es1 documents es2 u ees rn1 table mem
  subst ees
  have wf1 : WellFormed c es1 := fun documents mem => wf documents (List.mem_append_left _ mem)
  have length := length_tables_run rn1 wf1
  rw [← List.singleton_append, callbacks_append, callbacks_append] at le
  have one : callbacks [.callback (.ok documents)] = 1 := rfl
  have empty : u.tables = [] := List.eq_nil_of_length_eq_zero (by omega)
  rw [empty] at mem
  cases mem

/-- In a run of a list screen, one table is attached after each callback and no table asks for a row
    past the end of the list exactly when there is at most one callback. The rows alone are in
    bounds exactly when no snapshot brings fewer documents than an attached table has rows. -/
theorem tablesAgree_iff (rn : Run (Fires c.step) viewDidLoad es t) (wf : WellFormed c es) :
    (OneTable c es ∧ InBounds c es ↔ callbacks es ≤ 1) ∧ (InBounds c es ↔ NeverShorter c es) := by
  refine ⟨?_, inBounds_iff rn wf⟩
  constructor
  · rintro ⟨one, _⟩
    exact (oneTable_iff rn wf).1 one
  · intro le
    exact ⟨(oneTable_iff rn wf).2 le, (inBounds_iff rn wf).2 (neverShorter_of_callbacks wf le)⟩

/-- A second snapshot, with one film less, brings a second table, and the first one asks for the row
    of the film that is gone. -/
theorem tables_disagree :
    ∃ es t, Run (Fires watchedController.step) viewDidLoad es t ∧ WellFormed watchedController es ∧
      ¬ (OneTable watchedController es ∧ InBounds watchedController es) ∧
      t.trap = some .indexOutOfRange := by
  let up : DocumentSnapshot :=
    ⟨"A", [("title", .string "Up"), ("rating", .double 7), ("hasLiked", .boolean true),
      ("date", .timestamp 0), ("id", .string "A")]⟩
  have typed : watchedController.WellFormed up :=
    ⟨rfl, ⟨_, rfl⟩, ⟨_, rfl⟩, ⟨_, rfl⟩, ⟨_, rfl⟩⟩
  obtain ⟨t, rn, trap⟩ := Transition.exists_run watchedController.step viewDidLoad
    [.callback (.ok [up, up]), .layout 0, .callback (.ok [up]), .row 0 1]
    (fun t => t.trap = some .indexOutOfRange) (by decide +kernel)
  refine ⟨_, t, rn, ?_, ?_, of_decide_eq_true trap⟩
  · intro documents mem d mem'
    have e : documents = [up, up] ∨ documents = [up] := by simpa using mem
    have ed : d = up := by
      rcases e with e | e <;> subst e <;> simpa using mem'
    rw [ed]
    exact typed
  · rintro ⟨_, bounds⟩
    obtain ⟨_, run⟩ := bounds _ [] t (List.append_nil _).symm rn
    rw [of_decide_eq_true trap] at run
    cases run

/-- One snapshot of the wishlist, whose table is laid out and asks for its row. -/
theorem tablesAgree_iff_oneSnapshot :
    ∃ es t, Run (Fires wishlistController.step) viewDidLoad es t ∧ es.length = 3 ∧
      OneTable wishlistController es ∧ InBounds wishlistController es := by
  let up : DocumentSnapshot := ⟨"A", [("title", .string "Up"), ("id", .string "A")]⟩
  obtain ⟨t, rn, _⟩ := Transition.exists_run wishlistController.step viewDidLoad
    [.callback (.ok [up]), .layout 0, .row 0 0] (fun _ => true) (by decide +kernel)
  have wf : WellFormed wishlistController [.callback (.ok [up]), .layout 0, .row 0 0] := by
    intro documents mem d mem'
    have e : documents = [up] := by simpa using mem
    subst e
    rw [List.mem_singleton.1 mem']
    exact ⟨⟨_, rfl⟩, ⟨_, rfl⟩⟩
  exact ⟨_, t, rn, rfl, (tablesAgree_iff rn wf).1.2 (le_refl 1)⟩

end ListScreen

end Lumiere

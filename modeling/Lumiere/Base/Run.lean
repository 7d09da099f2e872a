import Mathlib.Data.List.Basic
import Mathlib.Data.List.Induction

/-!
# Runs of a labelled transition relation

A relation `R : σ → ε → σ → Prop` says which event takes which state to which. `Run R s es t` is a
finite run of it: the events `es`, taken one after another, lead from `s` to `t`. The rules below
are the ones every proof about runs goes through: runs compose and split (`Run.append`,
`Run.split`), what a step preserves a run preserves (`Run.invariant`), also when it speaks of the
events so far (`Run.history`), and what a step preserves where a guard holds is preserved by a run
whose steps all meet the guard (`Run.invariant_guarded`).

A partial step function `step : σ → ε → Option σ` is the relation `Fires step`; its runs are the
successful folds of `step` over the events (`run_fires_iff`), which is how a concrete run is
evaluated.
-/

namespace Transition

variable {σ ε : Type*} {R R' : σ → ε → σ → Prop} {P : σ → Prop}

/-- The events of a run, in order, between its first and its last state. -/
inductive Run (R : σ → ε → σ → Prop) : σ → List ε → σ → Prop where
  | nil {s} :
    Run R s [] s
  | cons {s e s' es t} :
    R s e s' →
    Run R s' es t →
    Run R s (e :: es) t

/-- One step is a run. -/
lemma Run.single {s e t} (st : R s e t) : Run R s [e] t :=
  .cons st .nil

/-- A run of one event is a step. -/
lemma Run.single_inv {s e t} (rn : Run R s [e] t) : R s e t := by
  cases rn with
  | cons st rn' =>
    cases rn' with
    | nil => exact st

/-- Runs compose. -/
lemma Run.append {s es t fs u} (rn1 : Run R s es t) (rn2 : Run R t fs u) :
    Run R s (es ++ fs) u := by
  induction rn1 with
  | nil => exact rn2
  | cons st _ ih => exact .cons st (ih rn2)

/-- A run can be cut between any two of its events. -/
lemma Run.split {s es fs u} (rn : Run R s (es ++ fs) u) :
    ∃ t, Run R s es t ∧ Run R t fs u := by
  induction es generalizing s with
  | nil => exact ⟨s, .nil, rn⟩
  | cons e es ih =>
    cases rn with
    | cons st rn' =>
      obtain ⟨t, rn1, rn2⟩ := ih rn'
      exact ⟨t, .cons st rn1, rn2⟩

/-- A larger relation has all the runs of a smaller one. -/
lemma Run.mono {s es t} (le : ∀ {s e t}, R s e t → R' s e t) (rn : Run R s es t) :
    Run R' s es t := by
  induction rn with
  | nil => exact .nil
  | cons st _ ih => exact .cons (le st) ih

/-- What every step preserves, a run preserves. -/
lemma Run.invariant {s es t} (step : ∀ {s e t}, R s e t → P s → P t)
    (rn : Run R s es t) (p : P s) : P t := by
  induction rn with
  | nil => exact p
  | cons st _ ih => exact ih (step st p)

/-- A property of the events so far and the state, kept by one more step, holds after every run. -/
lemma Run.history {P : List ε → σ → Prop} {s es t} (rn : Run R s es t) (nil : P [] s)
    (step : ∀ {es t e u}, Run R s es t → R t e u → P es t → P (es ++ [e]) u) : P es t := by
  induction es using List.reverseRecOn generalizing t with
  | nil =>
    cases rn with
    | nil => exact nil
  | append_singleton es e ih =>
    obtain ⟨u, rn1, rn2⟩ := rn.split
    have st := rn2.single_inv
    exact step rn1 st (ih rn1)

/-- The part of a relation whose steps meet a guard on the state before and the event. -/
def Guarded (R : σ → ε → σ → Prop) (G : σ → ε → Prop) (s : σ) (e : ε) (t : σ) : Prop :=
  R s e t ∧ G s e

/-- A run whose steps all meet a guard is a run. -/
lemma Run.unguarded {G : σ → ε → Prop} {s es t} (rn : Run (Guarded R G) s es t) : Run R s es t :=
  rn.mono And.left

/-- What every step that meets the guard preserves, a guarded run preserves. -/
lemma Run.invariant_guarded {G : σ → ε → Prop} {s es t}
    (step : ∀ {s e t}, R s e t → G s e → P s → P t)
    (rn : Run (Guarded R G) s es t) (p : P s) : P t :=
  rn.invariant (fun st => step st.1 st.2) p

/-- A run whose events meet a guard in every state is a guarded run. -/
lemma Run.guard {G : σ → ε → Prop} {s es t} (rn : Run R s es t) (g : ∀ s, ∀ e ∈ es, G s e) :
    Run (Guarded R G) s es t := by
  induction rn with
  | nil => exact .nil
  | cons st _ ih =>
    exact .cons ⟨st, g _ _ List.mem_cons_self⟩ (ih fun s e mem => g s e (List.mem_cons_of_mem _ mem))

/-- The relation of a partial step function. -/
def Fires (step : σ → ε → Option σ) (s : σ) (e : ε) (t : σ) : Prop :=
  step s e = some t

/-- The runs of a partial step function are its successful folds. -/
lemma run_fires_iff {step : σ → ε → Option σ} {s es t} :
    Run (Fires step) s es t ↔ es.foldlM step s = some t := by
  induction es generalizing s with
  | nil =>
    constructor
    · rintro ⟨⟩; rfl
    · intro e; cases e; exact .nil
  | cons e es ih =>
    simp only [List.foldlM_cons, Option.bind_eq_bind, Option.bind_eq_some_iff]
    constructor
    · intro rn
      cases rn with
      | cons st rn' => exact ⟨_, st, ih.1 rn'⟩
    · rintro ⟨s', st, e⟩
      exact .cons st (ih.2 e)

/-- The events of a run of a step function determine where it leads. -/
lemma Run.fires_unique {step : σ → ε → Option σ} {s es t u} (rn1 : Run (Fires step) s es t)
    (rn2 : Run (Fires step) s es u) : t = u :=
  Option.some.inj ((run_fires_iff.1 rn1).symm.trans (run_fires_iff.1 rn2))

/-- What an event brings about for good holds at the end of every run in which it has happened. -/
lemma Run.after {e : ε} {s es fs t} (brings : ∀ {s t}, R s e t → P t)
    (keeps : ∀ {s f t}, R s f t → P s → P t) (rn : Run R s (es ++ e :: fs) t) : P t := by
  obtain ⟨u, _, rn'⟩ := rn.split
  cases rn' with
  | cons st rn'' => exact rn''.invariant keeps (brings st)

/-- An event that brings something about for good happens at most once where it does not hold. -/
lemma Run.cut_unique {e : ε} {s es1 u fs1 es2 v fs2} (brings : ∀ {s t}, R s e t → P t)
    (keeps : ∀ {s f t}, R s f t → P s → P t) (rn1 : Run R s es1 u) (no1 : ¬ P u)
    (rn2 : Run R s es2 v) (no2 : ¬ P v) (cut : es1 ++ e :: fs1 = es2 ++ e :: fs2) : es1 = es2 := by
  rcases List.append_eq_append_iff.1 cut with ⟨l, e2, e1⟩ | ⟨l, e1, e2⟩
  · cases l with
    | nil => rw [e2, List.append_nil]
    | cons f l =>
      cases e1
      subst e2
      exact absurd (rn2.after brings keeps) no2
  · cases l with
    | nil => rw [e1, List.append_nil]
    | cons f l =>
      cases e2
      subst e1
      exact absurd (rn1.after brings keeps) no1

/-- The steps of a partial step function that meet a guard. -/
def guardedStep (step : σ → ε → Option σ) (G : σ → ε → Prop) [∀ s e, Decidable (G s e)] (s : σ)
    (e : ε) : Option σ :=
  if G s e then step s e else none

/-- A guarded step is a step that meets the guard. -/
lemma guardedStep_inv {step : σ → ε → Option σ} {G : σ → ε → Prop} [∀ s e, Decidable (G s e)]
    {s e t} (st : guardedStep step G s e = some t) : step s e = some t ∧ G s e := by
  rw [guardedStep] at st
  split at st
  case isTrue g => exact ⟨st, g⟩
  case isFalse => cases st

/-- A guarded run is a run of the guarded step function. -/
lemma Run.of_guardedStep {step : σ → ε → Option σ} {G : σ → ε → Prop} [∀ s e, Decidable (G s e)]
    {s es t} (rn : Run (Fires (guardedStep step G)) s es t) :
    Run (Guarded (Fires step) G) s es t := by
  apply rn.mono
  intro s e t st
  exact guardedStep_inv st

/-- A successful fold whose result meets a test is a run to a state that meets it. -/
lemma exists_run (step : σ → ε → Option σ) (s : σ) (es : List ε) (p : σ → Bool)
    (e : (es.foldlM step s).any p = true) : ∃ t, Run (Fires step) s es t ∧ p t = true := by
  obtain ⟨t, et, pt⟩ := (Option.any_eq_true _ _).1 e
  exact ⟨t, run_fires_iff.2 et, pt⟩

/-- A concrete run with a test on the way, where it may change to another step function, and a test
    at its end. -/
lemma exists_run_through (step step' : σ → ε → Option σ) (s : σ) (es fs : List ε) (p q : σ → Bool)
    (e1 : (es.foldlM step s).any p = true)
    (e2 : ((es.foldlM step s).bind fun t => fs.foldlM step' t).any q = true) :
    ∃ t u, Run (Fires step) s es t ∧ p t = true ∧ Run (Fires step') t fs u ∧ q u = true := by
  obtain ⟨t, et, pt⟩ := (Option.any_eq_true _ _).1 e1
  obtain ⟨u, eu, qu⟩ := (Option.any_eq_true _ _).1 e2
  rw [et] at eu
  exact ⟨t, u, run_fires_iff.2 et, pt, run_fires_iff.2 eu, qu⟩

end Transition

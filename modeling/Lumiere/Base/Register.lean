import Lumiere.Base.Run

/-!
# Registers of a running system

A register is a part `val` of the state that some events set and all others keep. `assigns` says
which value an event sets it to, if any. What the register holds after a run is then a matter of the
events: it is what the last event to set it has set (`Register.last_or_kept`, `Register.val_eq`). A
system can stop in a state that is not `alive`; there the register is not looked at any more.
-/

namespace Transition

variable {σ ε β : Type*}

/-- The events of `assigns` set the register `val`, and all others keep it. -/
structure Register (step : σ → ε → Option σ) (val : σ → β) (assigns : σ → ε → Option β)
    (alive : σ → Prop) : Prop where
  sets : ∀ {s e t b}, step s e = some t → alive t → assigns s e = some b → val t = b
  keeps : ∀ {s e t}, step s e = some t → alive t → assigns s e = none → alive s ∧ val t = val s

/-- No event of a run sets the register. -/
def Keeps (step : σ → ε → Option σ) (assigns : σ → ε → Option β) (s : σ) (es : List ε) : Prop :=
  ∀ es1 e es2 u, es = es1 ++ e :: es2 → Run (Fires step) s es1 u → assigns u e = none

/-- The last event of a run to set the register has set it to `b`. -/
def LastSet (step : σ → ε → Option σ) (assigns : σ → ε → Option β) (s : σ) (es : List ε) (b : β) :
    Prop :=
  ∃ es1 e es2 u v, es = es1 ++ e :: es2 ∧ Run (Fires step) s es1 u ∧ step u e = some v ∧
    assigns u e = some b ∧ Keeps step assigns v es2

variable {step : σ → ε → Option σ} {val : σ → β} {assigns : σ → ε → Option β} {alive : σ → Prop}
  {s t : σ} {es : List ε}

/-- An event that does not assign goes on keeping. -/
lemma Keeps.append {e u} (kp : Keeps step assigns s es) (rn : Run (Fires step) s es u)
    (none : assigns u e = none) : Keeps step assigns s (es ++ [e]) := by
  intro es1 e' es2 v ees rn1
  rcases List.eq_nil_or_concat es2 with e2 | ⟨es3, e3, e2⟩
  · subst e2
    obtain ⟨e1, ee⟩ := List.append_inj' ees rfl
    cases ee
    subst e1
    cases rn.fires_unique rn1
    exact none
  · rw [e2, List.concat_eq_append, ← List.cons_append, ← List.append_assoc] at ees
    obtain ⟨e1, _⟩ := List.append_inj' ees rfl
    exact kp es1 e' es3 v e1 rn1

namespace Register

/-- A run that keeps the register leaves its value. -/
lemma val_of_keeps (reg : Register step val assigns alive) (rn : Run (Fires step) s es t)
    (kp : Keeps step assigns s es) (al : alive t) : alive s ∧ val t = val s := by
  induction es using List.reverseRecOn generalizing t with
  | nil =>
    cases rn with
    | nil => exact ⟨al, rfl⟩
  | append_singleton es e ih =>
    obtain ⟨u, rn1, rn2⟩ := rn.split
    have st := rn2.single_inv
    obtain ⟨al', e'⟩ := reg.keeps st al (kp es e [] u rfl rn1)
    have kp' : Keeps step assigns s es := by
      intro es1 e0 es2 v ees rn
      exact kp es1 e0 (es2 ++ [e]) v (by rw [ees, List.append_assoc]; rfl) rn
    obtain ⟨al0, before⟩ := ih rn1 kp' al'
    exact ⟨al0, e'.trans before⟩

/-- The register holds what the last event to set it has set. -/
lemma val_eq {b} (reg : Register step val assigns alive) (last : LastSet step assigns s es b)
    (rn : Run (Fires step) s es t) (al : alive t) : val t = b := by
  obtain ⟨es1, e, es2, u, v, ees, rn1, st, sets, kp⟩ := last
  subst ees
  obtain ⟨u', rn1', rn2⟩ := rn.split
  cases rn1.fires_unique rn1'
  cases rn2 with
  | cons st' rn3 =>
    cases (st : step u e = some v).symm.trans st'
    obtain ⟨al', kept⟩ := reg.val_of_keeps rn3 kp al
    rw [kept, reg.sets st al' sets]

/-- After a run the register holds what the last event to set it has set, or what it held before
    when there is none. -/
lemma last_or_kept (reg : Register step val assigns alive) (rn : Run (Fires step) s es t)
    (al : alive t) :
    LastSet step assigns s es (val t) ∨ Keeps step assigns s es ∧ val t = val s := by
  induction es using List.reverseRecOn generalizing t with
  | nil =>
    cases rn with
    | nil =>
      refine .inr ⟨?_, rfl⟩
      intro es1 e es2 u ees
      cases List.append_ne_nil_of_right_ne_nil es1 (List.cons_ne_nil e es2) ees.symm
  | append_singleton es e ih =>
    obtain ⟨u, rn1, rn2⟩ := rn.split
    have st := rn2.single_inv
    cases set : assigns u e with
    | some b =>
      refine .inl ⟨es, e, [], u, t, rfl, rn1, st, ?_, ?_⟩
      · rw [set, reg.sets st al set]
      · intro es1 e es2 u ees
        cases List.append_ne_nil_of_right_ne_nil es1 (List.cons_ne_nil e es2) ees.symm
    | none =>
      obtain ⟨al', e'⟩ := reg.keeps st al set
      rcases ih rn1 al' with ⟨es1, e0, es2, a, b, ees, rn2, st0, sets, kp⟩ | ⟨kp, same⟩
      · refine .inl ⟨es1, e0, es2 ++ [e], a, b, ?_, rn2, st0, by rw [e', sets], ?_⟩
        · rw [ees, List.append_assoc]
          rfl
        · subst ees
          obtain ⟨a', rn2', rn4⟩ := rn1.split
          cases rn2.fires_unique rn2'
          cases rn4 with
          | cons st' rn5 =>
            cases (st0 : step a e0 = some b).symm.trans st'
            exact kp.append rn5 set
      · exact .inr ⟨kp.append rn1 set, e'.trans same⟩

end Register

end Transition

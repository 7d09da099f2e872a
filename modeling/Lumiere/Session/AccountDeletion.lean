import Lumiere.Session.Requests

/-!
# Deleting an account

The Delete button makes two requests at once, the deletion of the user document and `user.delete`,
and looks only at the answer to the second. `Undisturbed` is a run in which nothing else writes at
the paths in question and the account is not made again; what stands at these paths then depends on
the answer to the first request alone (`Remains`). So the deletion is all or nothing exactly when
there was no user document or both requests have gone the same way (`deletion_allOrNothing_iff`).
-/

namespace Lumiere
open Firestore
open Transition (Run Fires Guarded)

namespace Session

/-- The user has tapped Delete on the Profile screen. -/
structure TappedDelete (s : Session) (user : User) (d : DocumentReference) (s' : Session) :
    Prop where
  signed : s.currentUser = some user
  doc : userDocument (some user.email) = .ok d
  tapped : s.step .deleteAccountButtonTapped = some s'

/-- The request `n` has been answered with success. -/
def Effected (n : Nat) (es : List Event) : Prop :=
  ∃ x, .serve n (.ok x) ∈ es

/-- The request that an event answers. -/
def Event.served : Event → Option Nat
  | .serve n _ => some n
  | _ => none

/-- The event writes at the paths of `P` only as the answer to the request `n`. -/
def WritesOnlyBy (n : Nat) (P : List String → Prop) (s : Session) (e : Event) : Prop :=
  ∀ r ∈ s.reply e, ∀ w ∈ r.writes, P w.path → e.served = some n

/-- The event makes no account of that email. -/
def NotRecreated (email : String) (s : Session) (e : Event) : Prop :=
  ∀ r ∈ s.reply e, email ∈ r.session.accounts → email ∈ s.accounts

/-- Nothing but the deletion writes at the paths of `P`, and the account is not made again. -/
def Undisturbed (n : Nat) (email : String) (P : List String → Prop) (s : Session) (e : Event) :
    Prop :=
  WritesOnlyBy n P s e ∧ NotRecreated email s e

instance (n : Nat) (email : String) (P : List String → Prop) [DecidablePred P] (s : Session)
    (e : Event) : Decidable (Undisturbed n email P s e) :=
  inferInstanceAs (Decidable ((∀ r ∈ s.reply e, ∀ w ∈ r.writes, P w.path → e.served = some n) ∧
    ∀ r ∈ s.reply e, email ∈ r.session.accounts → email ∈ s.accounts))

/-! ## The two requests -/

/-- A tap on Delete makes the two requests and does nothing else. -/
lemma TappedDelete.eq {s s' : Session} {user d} (tap : TappedDelete s user d s') :
    s' = { s with
      calls := s.calls ++ [.deleteUserDocument d, .deleteUser user s.window.tabBars] } := by
  obtain ⟨r, er, es⟩ := step_inv tap.tapped
  subst es
  cases replies_inv er with
  | deleteNobody _ nobody => cases tap.signed.symm.trans nobody
  | deleteTrapped _ signed ed =>
    cases tap.signed.symm.trans signed
    cases tap.doc.symm.trans ed
  | deleteAccount _ signed ed =>
    cases tap.signed.symm.trans signed
    cases tap.doc.symm.trans ed
    rfl

/-- The two requests stand side by side. -/
lemma TappedDelete.calls {s s' : Session} {user d} (tap : TappedDelete s user d s') :
    s'.calls[s.calls.length]? = some (.deleteUserDocument d) ∧
      s'.calls[s.calls.length + 1]? = some (.deleteUser user s.window.tabBars) := by
  rw [tap.eq]
  exact ⟨by simp, by simp⟩

/-- What stands at the paths of `P` in `t`, after the events `es` from `s`. -/
structure Remains (n : Nat) (d : DocumentReference) (P : List String → Prop) (s : Session)
    (es : List Event) (t : Session) : Prop where
  call : t.calls[n]? = some (.deleteUserDocument d)
  deleted : P d.path → Effected n es → t.firestore.lookup d.path = none
  kept : ∀ p, P p → ¬ Effected n es ∨ p ≠ d.path → t.firestore.lookup p = s.firestore.lookup p

/-- One more event effects the request when it is its success. -/
lemma effected_append {n es e} :
    Effected n (es ++ [e]) ↔ Effected n es ∨ ∃ x, e = .serve n (.ok x) := by
  simp only [Effected, List.mem_append, List.mem_singleton, exists_or, eq_comm]

/-- The answer to the request deletes the one document, or it does nothing. -/
lemma serve_deleteUserDocument {s s' : Session} {n d a} (st : s.step (.serve n a) = some s')
    (call : s.calls[n]? = some (.deleteUserDocument d)) :
    s'.firestore = match a with
      | .ok _ => d.delete.apply s.firestore
      | .error _ => s.firestore := by
  obtain ⟨c, r, ec, _, h, es⟩ := serve_inv st
  cases call.symm.trans ec
  cases a with
  | ok x | error err => cases h; subst es; rfl

/-- An event that neither grants the request nor changes a path of `P` changes nothing. -/
lemma Remains.quiet {n d P s es t e u} (st : Session.step t e = some u)
    (other : ∀ x, e ≠ .serve n (.ok x))
    (same : ∀ p, P p → u.firestore.lookup p = t.firestore.lookup p) (re : Remains n d P s es t) :
    Remains n d P s (es ++ [e]) u := by
  have effected : Effected n (es ++ [e]) ↔ Effected n es := by
    rw [effected_append]
    refine or_iff_left ?_
    rintro ⟨x, ee⟩
    exact other x ee
  refine ⟨calls_step st re.call, ?_, ?_⟩
  · intro inP eff
    rw [same _ inP]
    exact re.deleted inP (effected.1 eff)
  · intro p inP h
    rw [effected] at h
    rw [same p inP]
    exact re.kept p inP h

/-- One more event keeps what is known of the paths. -/
lemma Remains.step {n d P s es t e u} (st : Session.step t e = some u) (only : WritesOnlyBy n P t e)
    (re : Remains n d P s es t) : Remains n d P s (es ++ [e]) u := by
  by_cases at_n : e.served = some n
  case neg =>
    -- another event writes elsewhere
    obtain ⟨r, er, eu⟩ := step_inv st
    refine re.quiet st ?_ ?_
    · intro x ee
      subst ee
      exact at_n rfl
    · intro p inP
      rw [eu]
      apply DocumentStore.lookup_applyAll_ne
      intro w mem ep
      exact at_n (only r er w mem (ep ▸ inP))
  case pos =>
    cases e with
    | serve m a =>
      cases at_n
      have after := serve_deleteUserDocument st re.call
      cases a with
      | error err =>
        refine re.quiet st (fun x ee => by cases ee) ?_
        intro p _
        rw [after]
      | ok x =>
        refine ⟨calls_step st re.call, ?_, ?_⟩
        · intro _ _
          rw [after]
          exact DocumentStore.lookup_apply_self _ d.delete
        · intro p inP h
          rcases h with never | ne
          · exact absurd (effected_append.2 (.inr ⟨x, rfl⟩)) never
          · rw [after, DocumentStore.lookup_apply_ne ne]
            exact re.kept p inP (.inr ne)
    | _ => cases at_n

/-- So does a run in which nothing else writes there. -/
lemma Remains.run {n d P s es t} {G : Session → Event → Prop}
    (only : ∀ {s e}, G s e → WritesOnlyBy n P s e)
    (call : s.calls[n]? = some (.deleteUserDocument d))
    (rn : Run (Guarded (Fires Session.step) G) s es t) : Remains n d P s es t := by
  refine rn.history (P := fun es t => Remains n d P s es t) ?_ ?_
  · refine ⟨call, ?_, fun _ _ _ => rfl⟩
    rintro _ ⟨_, mem⟩
    cases mem
  · intro es t e u _ st re
    exact re.step st.1 (only st.2)

/-- Once `user.delete` has succeeded the account is gone. -/
structure Deleted (n : Nat) (user : User) (t : Session) : Prop where
  call : ∃ tabBar, t.calls[n]? = some (.deleteUser user tabBar)
  gone : ∀ x, (t.status n).answer = some (.ok x) → user.email ∉ t.accounts

/-- One more event keeps what is known of the account. -/
lemma Deleted.step {n user t e u} (st : Session.step t e = some u)
    (notAgain : NotRecreated user.email t e) (del : Deleted n user t) : Deleted n user u := by
  obtain ⟨tabBar, call⟩ := del.call
  refine ⟨⟨tabBar, calls_step st call⟩, ?_⟩
  intro x ans
  rcases success_inv st ans with before | ee
  · obtain ⟨r, er, eu⟩ := step_inv st
    subst eu
    exact fun mem => del.gone x before (notAgain r er mem)
  · subst ee
    obtain ⟨c, r, ec, _, h, eu⟩ := serve_inv st
    cases call.symm.trans ec
    rw [Session.serve] at h
    split at h
    case isFalse => cases h
    case isTrue =>
      cases h
      subst eu
      change user.email ∉ (Session.signOutByForce _ _).accounts
      rw [signOutByForce_frame.1]
      change user.email ∉ List.filter _ _
      simp

/-- What a tap on Delete comes to in an undisturbed run. -/
lemma TappedDelete.run {s s' t : Session} {user d P es} (num : s.Numbered)
    (tap : TappedDelete s user d s')
    (rn : Run (Guarded (Fires Session.step) (Undisturbed s.calls.length user.email P)) s' es t) :
    Remains s.calls.length d P s' es t ∧ Deleted (s.calls.length + 1) user t := by
  obtain ⟨call, callUser⟩ := tap.calls
  refine ⟨Remains.run And.left call rn, ?_⟩
  refine rn.invariant_guarded (fun st un del => del.step st un.2) ⟨⟨_, callUser⟩, ?_⟩
  intro x ans
  have fresh := num.status (s.calls.length + 1) (by omega)
  rw [tap.eq] at ans
  change (s.status _).answer = _ at ans
  rw [fresh] at ans
  cases ans

/-! ## All or nothing -/

/-- An error of `user.delete` finds the user document as it was before the tap, and the way to the
    Log In screen goes with the account and the user document gone. -/
structure DeletionAllOrNothing (s : Session) (user : User) (d : DocumentReference) (t : Session) :
    Prop where
  reported : ∀ err, t.status (s.calls.length + 1) = .delivered (.error err) →
    t.firestore.lookup d.path = s.firestore.lookup d.path
  moved : ∀ x, t.status (s.calls.length + 1) = .delivered (.ok x) →
    user.email ∉ t.accounts ∧ t.firestore.lookup d.path = none

/-- Deleting an account is all or nothing exactly when it had no user document or its document has
    been deleted just when `user.delete` has succeeded. -/
theorem deletion_allOrNothing_iff {s0 s s' t : Session} {es0 es user d a} (fresh : s0.Fresh)
    (rn0 : Run (Fires step) s0 es0 s) (tap : TappedDelete s user d s')
    (rn : Run (Guarded (Fires step) (Undisturbed s.calls.length user.email (· = d.path))) s' es t)
    (done : t.status (s.calls.length + 1) = .delivered a) :
    DeletionAllOrNothing s user d t ↔
      s.firestore.lookup d.path = none ∨ (Effected s.calls.length es ↔ ∃ x, a = .ok x) := by
  obtain ⟨re, del⟩ := tap.run (numbered_run fresh rn0) rn
  have same : s'.firestore = s.firestore := by rw [tap.eq]
  have deleted := re.deleted rfl
  have kept := re.kept d.path rfl
  rw [same] at kept
  cases a with
  | error err =>
    have failed : ¬ ∃ x : String, Except.error (ε := String) err = .ok x := by
      rintro ⟨x, e⟩
      cases e
    refine ⟨?_, ?_⟩
    · intro all
      by_cases eff : Effected s.calls.length es
      case pos => exact .inl ((all.reported err done).symm.trans (deleted eff))
      case neg => exact .inr (iff_of_false eff failed)
    · intro h
      refine ⟨?_, ?_⟩
      · intro _ _
        by_cases eff : Effected s.calls.length es
        case pos =>
          rcases h with none | same
          · rw [deleted eff, none]
          · exact absurd (same.1 eff) failed
        case neg => exact kept (.inl eff)
      · intro x moved
        rw [done] at moved
        cases moved
  | ok x =>
    have gone := del.gone x (by rw [done]; rfl)
    refine ⟨?_, ?_⟩
    · intro all
      by_cases eff : Effected s.calls.length es
      case pos => exact .inr (iff_of_true eff ⟨x, rfl⟩)
      case neg => exact .inl ((kept (.inl eff)).symm.trans (all.moved x done).2)
    · intro h
      refine ⟨?_, ?_⟩
      · intro err reported
        rw [done] at reported
        cases reported
      · intro _ _
        refine ⟨gone, ?_⟩
        by_cases eff : Effected s.calls.length es
        case pos => exact deleted eff
        case neg =>
          rcases h with none | same
          · rw [kept (.inl eff), none]
          · exact absurd (same.2 ⟨x, rfl⟩) eff

/-- A process on the Profile screen, whose user was signed in when it was launched. -/
def atProfile (email : String) (firestore : Store) : Session :=
  { first [email] firestore with
    currentUser := some ⟨email, 0⟩
    window := { Window.bare.pushTabBar with
      selectedTab := .profile
      loaded := [.profile, .watched] } }

/-- The process has made no request. -/
lemma fresh_atProfile {email firestore} : (atProfile email firestore).Fresh :=
  ⟨rfl, fun _ => rfl⟩

/-- The document of a user with a photo. -/
def photoStore : Store :=
  (DocumentStore.Write.setData ["users", "a@b.c"] [("profilePhoto", .string "https://I")]).apply ∅

/-- The user document is deleted, then `user.delete` asks for a more recent login. -/
theorem not_deletionAllOrNothing :
    ∃ s s' d es t, s = atProfile "a@b.c" photoStore ∧ TappedDelete s ⟨"a@b.c", 0⟩ d s' ∧
      Run (Fires step) s' es t ∧ ¬ DeletionAllOrNothing s ⟨"a@b.c", 0⟩ d t := by
  obtain ⟨s', t, rn1, _, rn2, bad⟩ := Transition.exists_run_through step step
    (atProfile "a@b.c" photoStore) [.deleteAccountButtonTapped]
    [.serve 0 (.ok ""), .serve 1 (.error "requires recent login"), .deliver 1]
    (fun _ => true)
    (fun t => t.status 1 = .delivered (.error "requires recent login") ∧
      t.firestore.lookup ["users", "a@b.c"] ≠ photoStore.lookup ["users", "a@b.c"])
    (by decide +kernel) (by decide +kernel)
  obtain ⟨reported, changed⟩ := of_decide_eq_true bad
  have st := rn1.single_inv
  refine ⟨_, s', ⟨["users", "a@b.c"], rfl⟩, _, t, rfl, ⟨rfl, by decide +kernel, st⟩, rn2, ?_⟩
  intro all
  exact changed (all.reported _ reported)

/-- Both requests succeed, the second one first. -/
theorem deletion_allOrNothing_iff_bothSucceed :
    ∃ s s' d es t, s = atProfile "a@b.c" photoStore ∧ TappedDelete s ⟨"a@b.c", 0⟩ d s' ∧
      Run (Fires step) s' es t ∧ t.screen = .logIn ∧ t.firestore.keys = [] ∧
      (DeletionAllOrNothing s ⟨"a@b.c", 0⟩ d t ↔ s.firestore.lookup d.path = none ∨
        (Effected s.calls.length es ↔ ∃ x : String, Except.ok (ε := String) "" = .ok x)) := by
  obtain ⟨s', t, rn1, _, rn2, good⟩ := Transition.exists_run_through step
    (Transition.guardedStep step (Undisturbed 0 "a@b.c" (· = ["users", "a@b.c"])))
    (atProfile "a@b.c" photoStore) [.deleteAccountButtonTapped]
    [.serve 1 (.ok ""), .serve 0 (.ok ""), .deliver 1] (fun _ => true)
    (fun t => t.status 1 = .delivered (.ok "") ∧ t.screen = .logIn ∧ t.firestore.keys = [])
    (by decide +kernel) (by decide +kernel)
  obtain ⟨done, screen, keys⟩ := of_decide_eq_true good
  have rn := Run.of_guardedStep rn2
  have st := rn1.single_inv
  have tap : TappedDelete (atProfile "a@b.c" photoStore) ⟨"a@b.c", 0⟩
      ⟨["users", "a@b.c"], rfl⟩ s' := ⟨rfl, by decide +kernel, st⟩
  exact ⟨_, s', _, _, t, rfl, tap, rn.unguarded, screen, keys,
    deletion_allOrNothing_iff fresh_atProfile .nil tap rn done⟩

end Session

end Lumiere

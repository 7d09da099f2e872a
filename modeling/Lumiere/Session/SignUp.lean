import Lumiere.Session.Requests

/-!
# Signing up

A press of Done starts an attempt of two requests: `createUser`, which also signs the new user in,
and after it `setUserDocument`, for the text that the email field holds by then. Nothing is taken
back when the second one fails, nor when `createUser` meets an error after it has made the account.
As long as the email field still leads to the document of the new account, signing up is all or
nothing exactly when neither of these errors has been delivered (`signUp_allOrNothing_iff`). An
attempt is known by the place of its `createUser` in `calls`; the attempts of a screen are those
from the place `k` on, where `k` requests had been made before.
-/

namespace Lumiere
open Firestore
open Transition (Run Fires Guarded)

/-- The requests that can take an account or a user document away. -/
def Call.deletes : Call → Bool
  | .deleteUserDocument _ => true
  | .deleteUser _ _ => true
  | _ => false

namespace Session

/-- In the events `es` the request `n` has made the account, whether it succeeded or met an error
    after that. -/
def Made (es : List Event) (n : Nat) (account : String) : Prop :=
  .serve n (.ok account) ∈ es ∨ ∃ err, .serveLate n (.accountCreated account) err ∈ es

/-- The `createUser` of the attempt `n` has failed, and the user has been told. -/
def Failed (s : Session) (n : Nat) : Prop :=
  ∃ form email password err, s.calls[n]? = some (.createUser form email password) ∧
    s.status n = .delivered (.error err)

/-- The attempt `n` was refused a user document, and the user has been told. -/
def Refused (s : Session) (n : Nat) : Prop :=
  ∃ (m : Nat) (form : Nat) (d : DocumentReference) (err : String),
    s.calls[m]? = some (.setUserDocument form n d) ∧ s.status m = .delivered (.error err)

/-- The attempt `n` has dismissed its form. -/
def Dismissed (s : Session) (n : Nat) : Prop :=
  ∃ (m : Nat) (form : Nat) (d : DocumentReference) (x : String),
    s.calls[m]? = some (.setUserDocument form n d) ∧ s.status m = .delivered (.ok x)

/-- After the events `es` the attempt `n` has left no new account, no signed-in user and no user
    document. -/
structure LeftNothing (s : Session) (es : List Event) (n : Nat) : Prop where
  account : ∀ account, Made es n account → account ∉ s.accounts
  user : ∀ account, Made es n account → s.email ≠ some account
  document : ∀ (m form : Nat) (d : DocumentReference) (x : String),
    s.calls[m]? = some (.setUserDocument form n d) → (s.status m).answer ≠ some (.ok x)

/-- An attempt whose error has been reported has left nothing behind, and a form is dismissed only
    with an account and its user document. -/
structure SignUpAllOrNothing (s : Session) (es : List Event) (k : Nat) : Prop where
  reported : ∀ n, k ≤ n → s.Failed n ∨ s.Refused n → s.LeftNothing es n
  dismissed : ∀ n, k ≤ n → s.Dismissed n → ∃ account d, Made es n account ∧
    account ∈ s.accounts ∧ usersCollectionReference.document account = .ok d ∧
    (s.firestore.lookup d.path).isSome

/-- No error of the attempt `n` has come after its account: no refusal of the user document, and no
    error of a `createUser` that has made the account all the same. -/
def NoLateError (s : Session) (es : List Event) (n : Nat) : Prop :=
  ¬ s.Refused n ∧ (s.Failed n → ∀ account, ¬ Made es n account)

/-! ## Runs of the Sign Up screen -/

/-- What can happen on the Sign Up screen: a form is presented, edited and swiped away, Done is
    pressed, a request is answered, and an answer is delivered. -/
def Event.onSignUp : Event → Bool
  | .presentSignUp => true
  | .typeSignUp _ => true
  | .signUpButtonTapped => true
  | .swipeDownSignUp => true
  | .serve _ _ => true
  | .serveLate _ _ _ => true
  | .deliver _ => true
  | .deliverCovered _ => true
  | _ => false

/-- No deletion of an account is under way. -/
def NoDeletionPending (s : Session) : Prop :=
  ∀ (n : Nat) c, s.calls[n]? = some c → c.deletes → s.status n ≠ .inFlight

/-- The form and the account of a `createUser` that has succeeded and whose completion handler has
    yet to run. -/
def createdUser (s : Session) (n : Nat) : Option (Nat × String) :=
  match s.calls[n]?, s.status n with
  | some (.createUser form _ _), .answered (.ok account) => some (form, account)
  | _, _ => none

/-- The request whose completion handler an event runs. -/
def Event.delivered : Event → Option Nat
  | .deliver n => some n
  | _ => none

/-- When the success of a `createUser` is delivered, the email field of its form leads to the user
    document of the new account. -/
def NamesAccount (k : Nat) (s : Session) (e : Event) : Prop :=
  ∀ n ∈ e.delivered, ∀ p ∈ s.createdUser n, k ≤ n →
    usersCollectionReference.document (s.emailText p.1) = usersCollectionReference.document p.2

/-- A step on the Sign Up screen with the email field as it should be. -/
def OnSignUp (k : Nat) (s : Session) (e : Event) : Prop :=
  e.onSignUp ∧ NamesAccount k s e

instance (k : Nat) (s : Session) (e : Event) : Decidable (OnSignUp k s e) :=
  inferInstanceAs (Decidable (_ ∧ ∀ n ∈ e.delivered, ∀ p ∈ s.createdUser n, k ≤ n → _ = _))

/-! ## The attempts of a screen -/

/-- The `createUser` of the attempt `n` has succeeded. -/
def Created (s : Session) (n : Nat) (account : String) : Prop :=
  ∃ form email password, s.calls[n]? = some (.createUser form email password) ∧
    (s.status n).answer = some (.ok account)

/-- What is known of the attempts of a screen after the events `es`. -/
structure Attempts (k : Nat) (es : List Event) (s : Session) : Prop where
  numbered : s.Numbered
  pending : s.NoDeletionPending
  known : ∀ n account, Made es n account → n < s.calls.length
  made : ∀ n account, k ≤ n → s.Created n account → Made es n account
  account : ∀ (n : Nat) form email password account, k ≤ n →
    s.calls[n]? = some (.createUser form email password) → Made es n account →
    account ∈ s.accounts
  document : ∀ (m : Nat) form n d, k ≤ n → s.calls[m]? = some (.setUserDocument form n d) →
    ∃ account, s.Created n account ∧ usersCollectionReference.document account = .ok d
  stored : ∀ (m : Nat) form n d x, k ≤ n → s.calls[m]? = some (.setUserDocument form n d) →
    (s.status m).answer = some (.ok x) → (s.firestore.lookup d.path).isSome

/-- Before its first request a screen has no attempts. -/
lemma Attempts.init {s : Session} (num : s.Numbered) (pending : s.NoDeletionPending) :
    Attempts s.calls.length [] s := by
  have nothing : ∀ n account, ¬ Made [] n account := by
    rintro n account (mem | ⟨_, mem⟩) <;> cases mem
  refine ⟨num, pending, fun n a made => absurd made (nothing n a), ?_,
    fun n _ _ _ a _ _ made => absurd made (nothing n a), ?_, ?_⟩
  · rintro n account le ⟨_, _, _, at_n, _⟩
    exact absurd (List.getElem?_eq_some_iff.1 at_n).1 (by omega)
  · intro m form n d le at_m
    exact absurd (num.attempts m form n d at_m) (by omega)
  · intro m form n d x le at_m
    exact absurd (num.attempts m form n d at_m) (by omega)

section Step

variable {s s' : Session} {e : Event} {es : List Event}

/-- A request with a success was there before the success came. -/
lemma getElem?_calls_answered (num : s.Numbered) {n c x} (st : s.step e = some s')
    (at_n : s'.calls[n]? = some c) (ans : (s'.status n).answer = some (.ok x)) :
    s.calls[n]? = some c := by
  rcases getElem?_calls st at_n with old | ⟨i, _, en⟩
  · exact old
  · exfalso
    have fresh := num.status n (by omega)
    rcases success_inv st ans with before | ee
    · rw [fresh] at before
      cases before
    · subst ee
      obtain ⟨_, _, ec, _⟩ := serve_inv st
      exact absurd (List.getElem?_eq_some_iff.1 ec).1 (by omega)

/-- An account that has been made after one more event has been made before it, or the event has
    made it. -/
lemma made_append {n account} (made : Made (es ++ [e]) n account) :
    Made es n account ∨ e = .serve n (.ok account) ∨
      ∃ err, e = .serveLate n (.accountCreated account) err := by
  rcases made with mem | ⟨err, mem⟩
  · rcases List.mem_append.1 mem with old | new
    · exact .inl (.inl old)
    · exact .inr (.inl (List.mem_singleton.1 new).symm)
  · rcases List.mem_append.1 mem with old | new
    · exact .inl (.inr ⟨err, old⟩)
    · exact .inr (.inr ⟨err, (List.mem_singleton.1 new).symm⟩)

/-- What has been made stays so. -/
lemma Made.append {n account} (made : Made es n account) : Made (es ++ [e]) n account :=
  made.imp (List.mem_append_left _) fun ⟨err, mem⟩ => ⟨err, List.mem_append_left _ mem⟩

/-- Off the deletions no account goes. -/
lemma accounts_step (pending : s.NoDeletionPending) (st : s.step e = some s') {account}
    (mem : account ∈ s.accounts) : account ∈ s'.accounts := by
  obtain ⟨r, er, es⟩ := step_inv st
  subst es
  change account ∈ r.session.accounts
  generalize ea : r.session.accounts = accounts
  generalize eu : r.session.currentUser = user
  have signs := reply_signs er
  rw [ea, eu] at signs
  cases signs with
  | deleteUser ec flying | deletedLate ec flying => exact absurd flying (pending _ _ ec rfl)
  | createUser | createdLate => exact List.mem_cons_of_mem _ mem
  | same | signIn | logOut | dropUser => exact mem

/-- The event that makes an account adds it. -/
lemma made_step {n form email password account} (st : s.step e = some s')
    (call : s.calls[n]? = some (.createUser form email password))
    (makes : e = .serve n (.ok account) ∨ ∃ err, e = .serveLate n (.accountCreated account) err) :
    account ∈ s'.accounts := by
  obtain ⟨r, er, es⟩ := step_inv st
  subst es
  change account ∈ r.session.accounts
  rcases makes with ee | ⟨err, ee⟩
  · subst ee
    cases replies_inv er with
    | serve ec _ h =>
      cases call.symm.trans ec
      rw [Session.serve] at h
      split at h
      case isTrue => cases h
      case isFalse =>
        cases h
        exact List.mem_cons_self
  · subst ee
    cases replies_inv er with
    | serveLate ec _ h =>
      cases call.symm.trans ec
      rw [Session.serveLate] at h
      split at h
      case isTrue => cases h
      case isFalse =>
        cases h
        exact List.mem_cons_self

/-- On the Sign Up screen no document goes. -/
lemma firestore_step (pending : s.NoDeletionPending) (on : e.onSignUp) (st : s.step e = some s')
    {p} (there : (s.firestore.lookup p).isSome) : (s'.firestore.lookup p).isSome := by
  obtain ⟨r, er, es⟩ := step_inv st
  subst es
  change ((DocumentStore.applyAll s.firestore r.writes).lookup p).isSome
  generalize ew : r.writes = ws
  have writes := reply_writes er
  rw [ew] at writes
  cases writes with
  | nothing => exact there
  | touch => cases on
  | deleteUserDocument ec flying => exact absurd flying (pending _ _ ec rfl)
  | setUserDocument => exact DocumentStore.isSome_apply_setData there
  | photo _ _ photo =>
    obtain ⟨d, _, ew⟩ := saveProfilePhoto_inv photo
    subst ew
    exact DocumentStore.isSome_apply_setData there

/-- On the Sign Up screen no deletion is asked for. -/
lemma noDeletionPending_step (pending : s.NoDeletionPending) (on : e.onSignUp)
    (st : s.step e = some s') : s'.NoDeletionPending := by
  intro n c at_n deletes
  rcases getElem?_calls st at_n with old | ⟨_, started, _⟩
  · have landed := pending n c old deletes
    generalize ess : s'.status = ss
    have become := answers_step st
    rw [ess] at become
    cases become with
    | same => exact landed
    | serve | serveLate | deliver | deliverCovered =>
      rw [Function.update_apply]
      split
      case isTrue => exact fun h => by cases h
      case isFalse => exact landed
    | launch => cases on
  · cases started with
    | deleteUserDocument | deleteUser => cases on
    | signIn | createUser | setUserDocument | putData | downloadURL => cases deletes

/-- A success stays on the Sign Up screen. -/
lemma created_step (on : e.onSignUp) (st : s.step e = some s') {n account}
    (created : s.Created n account) : s'.Created n account := by
  obtain ⟨form, email, password, at_n, ans⟩ := created
  have living : ∀ now, e ≠ .launch now := fun _ ee => by subst ee; cases on
  exact ⟨form, email, password, calls_step st at_n, answer_step st living ans⟩

/-- One more event keeps what is known of the attempts. -/
lemma Attempts.step {k} (on : OnSignUp k s e) (st : s.step e = some s') (at_s : Attempts k es s) :
    Attempts k (es ++ [e]) s' := by
  obtain ⟨on, named⟩ := on
  have num := at_s.numbered
  refine ⟨num.step st, noDeletionPending_step at_s.pending on st, ?_, ?_, ?_, ?_, ?_⟩
  · intro n account made
    have le := length_calls_step st
    rcases made_append made with old | ee | ⟨err, ee⟩
    · exact lt_of_lt_of_le (at_s.known n account old) le
    · subst ee
      obtain ⟨_, _, ec, _⟩ := serve_inv st
      exact lt_of_lt_of_le (List.getElem?_eq_some_iff.1 ec).1 le
    · subst ee
      obtain ⟨_, ec, _⟩ := serveLate_inv st
      exact lt_of_lt_of_le (List.getElem?_eq_some_iff.1 ec).1 le
  · rintro n account le ⟨form, email, password, at_n, ans⟩
    have old := getElem?_calls_answered num st at_n ans
    rcases success_inv st ans with before | ee
    · exact (at_s.made n account le ⟨form, email, password, old, before⟩).append
    · subst ee
      exact .inl (List.mem_append_right _ (List.mem_singleton_self _))
  · intro n form email password account le at_n made
    rcases made_append made with before | makes
    · have lt := at_s.known n account before
      rcases getElem?_calls st at_n with old | ⟨_, _, en⟩
      · exact accounts_step at_s.pending st
          (at_s.account n form email password account le old before)
      · omega
    · have lt : n < s.calls.length := by
        rcases makes with ee | ⟨err, ee⟩
        · subst ee
          obtain ⟨_, _, ec, _⟩ := serve_inv st
          exact (List.getElem?_eq_some_iff.1 ec).1
        · subst ee
          obtain ⟨_, ec, _⟩ := serveLate_inv st
          exact (List.getElem?_eq_some_iff.1 ec).1
      rcases getElem?_calls st at_n with old | ⟨_, _, en⟩
      · exact made_step st old makes
      · omega
  · intro m form n d le at_m
    rcases getElem?_calls st at_m with old | ⟨_, started, _⟩
    · obtain ⟨account, created, doc⟩ := at_s.document m form n d le old
      exact ⟨account, created_step on st created, doc⟩
    · cases started with
      | @setUserDocument _ _ email password account _ call answer doc =>
        have created : s.Created n account := ⟨form, email, password, call, by rw [answer]; rfl⟩
        have user : s.createdUser n = some (form, account) := by rw [createdUser, call, answer]
        refine ⟨account, created_step on st created, ?_⟩
        rw [← named n rfl _ user le]
        exact doc
  · intro m form n d x le at_m ans
    have old := getElem?_calls_answered num st at_m ans
    rcases success_inv st ans with before | ee
    · exact firestore_step at_s.pending on st (at_s.stored m form n d x le old before)
    · -- the document has just been written
      subst ee
      obtain ⟨c, r, ec, _, h, es⟩ := serve_inv st
      cases old.symm.trans ec
      cases h
      subst es
      have written := DocumentStore.lookup_apply_self s.firestore (d.setData [])
      change AList.lookup d.path _ = _ at written
      change (AList.lookup d.path ((d.setData []).apply s.firestore)).isSome
      rw [written]
      rfl

end Step

/-- What is known of the attempts after a run of the Sign Up screen. -/
lemma attempts_run {s0 s t : Session} {es0 es} (fresh : s0.Fresh)
    (rn0 : Run (Fires step) s0 es0 s) (pending : s.NoDeletionPending)
    (rn : Run (Guarded (Fires step) (OnSignUp s.calls.length)) s es t) :
    Attempts s.calls.length es t := by
  refine rn.history (P := fun es t => Attempts s.calls.length es t)
    (Attempts.init (numbered_run fresh rn0) pending) ?_
  intro es u e v _ st at_u
  exact at_u.step st.2 st.1

/-- On a Sign Up screen whose email field leads to the accounts it creates, signing up is all or
    nothing exactly when no error that came after its account has been delivered. -/
theorem signUp_allOrNothing_iff {s0 s t : Session} {es0 es} (fresh : s0.Fresh)
    (rn0 : Run (Fires step) s0 es0 s) (pending : s.NoDeletionPending)
    (rn : Run (Guarded (Fires step) (OnSignUp s.calls.length)) s es t) :
    t.SignUpAllOrNothing es s.calls.length ↔ ∀ n, s.calls.length ≤ n → t.NoLateError es n := by
  have at_t := attempts_run fresh rn0 pending rn
  constructor
  · intro all n le
    refine ⟨?_, ?_⟩
    · intro refused
      have nothing := all.reported n le (.inr refused)
      obtain ⟨m, form, d, _, call, _⟩ := refused
      obtain ⟨account, created, _⟩ := at_t.document m form n d le call
      have made := at_t.made n account le created
      obtain ⟨form', email, password, call', _⟩ := created
      exact nothing.account account made
        (at_t.account n form' email password account le call' made)
    · intro failed account made
      have nothing := all.reported n le (.inl failed)
      obtain ⟨form, email, password, _, call, _⟩ := failed
      exact nothing.account account made (at_t.account n form email password account le call made)
  · intro noLate
    refine ⟨?_, ?_⟩
    · intro n le reported
      rcases reported with failed | refused
      · have none := (noLate n le).2 failed
        refine ⟨fun a made => absurd made (none a), fun a made => absurd made (none a), ?_⟩
        intro m form d x doc _
        obtain ⟨account, created, _⟩ := at_t.document m form n d le doc
        exact none account (at_t.made n account le created)
      · exact absurd refused (noLate n le).1
    · rintro n le ⟨m, form, d, x, call, done⟩
      obtain ⟨account, created, doc⟩ := at_t.document m form n d le call
      have made := at_t.made n account le created
      obtain ⟨form', email, password, call', _⟩ := created
      exact ⟨account, d, made, at_t.account n form' email password account le call' made, doc,
        at_t.stored m form n d x le call (by rw [done]; rfl)⟩

/-- The account is created, its document refused: the error is shown and the account stays. -/
theorem not_signUpAllOrNothing :
    ∃ es t, Run (Fires step) (first [] ∅) es t ∧ (∀ e ∈ es, e.onSignUp) ∧
      ¬ t.SignUpAllOrNothing es 0 := by
  obtain ⟨t, rn, refused⟩ := Transition.exists_run step (first [] ∅)
    [.presentSignUp, .typeSignUp ⟨"a@b.c", "Abcdefg1", "Abcdefg1"⟩, .signUpButtonTapped,
      .serve 0 (.ok "a@b.c"), .deliver 0, .serve 1 (.error "unavailable"), .deliver 1]
    (fun t => t.calls = [.createUser 0 "a@b.c" "Abcdefg1",
        .setUserDocument 0 0 ⟨["users", "a@b.c"], rfl⟩] ∧
      t.status 1 = .delivered (.error "unavailable") ∧ t.accounts = ["a@b.c"])
    (by decide +kernel)
  obtain ⟨calls, status1, accounts⟩ := of_decide_eq_true refused
  refine ⟨_, t, rn, by decide, ?_⟩
  intro all
  have nothing := all.reported 0 (Nat.zero_le _)
    (.inr ⟨1, 0, _, "unavailable", by rw [calls]; rfl, status1⟩)
  exact nothing.account "a@b.c" (.inl (by simp)) (by rw [accounts]; exact List.mem_cons_self)

/-- Signing up with two presses of Done: the second is told that the account exists. -/
theorem signUp_allOrNothing_iff_twoPresses :
    ∃ es t, Run (Guarded (Fires step) (OnSignUp 0)) (first [] ∅) es t ∧
      t.firestore.keys = [["users", "a@b.c"]] ∧ t.screen = .logIn ∧
      (t.SignUpAllOrNothing es 0 ↔ ∀ n, 0 ≤ n → t.NoLateError es n) := by
  obtain ⟨t, rn, stored⟩ := Transition.exists_run
    (Transition.guardedStep step (OnSignUp 0)) (first [] ∅)
    [.presentSignUp, .typeSignUp ⟨"a@b.c", "Abcdefg1", "Abcdefg1"⟩, .signUpButtonTapped,
      .signUpButtonTapped, .serve 0 (.ok "a@b.c"), .serve 1 (.error "in use"), .deliver 1,
      .deliver 0, .serve 2 (.ok ""), .deliver 2]
    (fun t => t.firestore.keys = [["users", "a@b.c"]] ∧ t.screen = .logIn) (by decide +kernel)
  obtain ⟨keys, screen⟩ := of_decide_eq_true stored
  have rn' := Run.of_guardedStep rn
  have pending : (first [] ∅).NoDeletionPending := fun n c at_n => by cases at_n
  exact ⟨_, t, rn', keys, screen, signUp_allOrNothing_iff fresh_first .nil pending rn'⟩

end Session

end Lumiere

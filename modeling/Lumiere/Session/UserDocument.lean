import Lumiere.Session.SignUp

/-!
# The document that signing up creates

The completion handler of `createUser` sets the document for the text of the email field, while the
rest of the app works with the document of `currentUser.email` (`UserDocument`). The text may have
been edited since Done was pressed, and the service may spell the email differently. A user document
request comes from the delivery of its `createUser` (`origin_run`), which happens once
(`delivery_unique`), so a sign-up that succeeds has set the right document exactly when the text led
to it at that moment (`signUp_userDocument_iff`).
-/

namespace Lumiere
open Firestore
open Transition (Run Fires)

namespace Session

/-- The document that the app uses for the user `email`: the list screens listen to the collections
    in it, and the profile screen listens to it and stores the photo there. -/
structure UserDocument (email : String) (d : DocumentReference) : Prop where
  document : usersCollectionReference.document email = .ok d
  watched : ∀ s : Session, s.email = some email →
    s.listenerPath .watched = .ok (d.path ++ ["watchedList"])
  wishlist : ∀ s : Session, s.email = some email →
    s.listenerPath .wishlist = .ok (d.path ++ ["wishlist"])
  profile : ∀ s : Session, s.email = some email → s.listenerPath .profile = .ok d.path
  photo : ∀ url w, saveProfilePhoto (some email) url = .ok w → w.path = d.path

/-- In the run of `es` from `s`, the attempt `n` has applied `setData([:])` to the document `d`. -/
def AppliedTo (s : Session) (es : List Event) (n : Nat) (d : DocumentReference) : Prop :=
  ∃ es1 m x es2 u form, es = es1 ++ .serve m (.ok x) :: es2 ∧ Run (Fires step) s es1 u ∧
    u.calls[m]? = some (.setUserDocument form n d)

/-- In the run of `es` from `s`, the attempt `n` has applied `setData([:])` to the document that the
    app uses for the user `account`, and to no other document. -/
def SetsUserDocument (s : Session) (es : List Event) (n : Nat) (account : String) : Prop :=
  ∃ d, UserDocument account d ∧ s.AppliedTo es n d ∧ ∀ d', s.AppliedTo es n d' → d' = d

/-- In the run of `es` from `s`, when the success of the `createUser` of the attempt `n` is
    delivered, the text of the email field leads to the document of the new account. -/
def NamedOnDelivery (s : Session) (es : List Event) (n : Nat) (account : String) : Prop :=
  ∀ es1 es2 u form, es = es1 ++ .deliver n :: es2 → Run (Fires step) s es1 u →
    u.createdUser n = some (form, account) →
    usersCollectionReference.document (u.emailText form) =
      usersCollectionReference.document account

/-! ## The document of a user -/

/-- The document of an email is that of its user. -/
lemma userDocument_of_document {email d} (e : usersCollectionReference.document email = .ok d) :
    userDocument (some email) = .ok d := by
  rw [userDocument, e]
  rfl

/-- It is the one that the screens and the photo use. -/
lemma userDocument_used {email d} (e : usersCollectionReference.document email = .ok d) :
    UserDocument email d := by
  have doc := userDocument_of_document e
  obtain ⟨watched, ew, pathW⟩ := userCollection_ok doc segment_watchedList
  obtain ⟨wishlist, el, pathL⟩ := userCollection_ok doc segment_wishlist
  refine ⟨e, ?_, ?_, ?_, ?_⟩
  · intro s es
    rw [listenerPath, es, ew, ← pathW]
    rfl
  · intro s es
    rw [listenerPath, es, el, ← pathL]
    rfl
  · intro s es
    rw [listenerPath, es, doc]
    rfl
  · intro url w ew
    obtain ⟨d', ed, e'⟩ := saveProfilePhoto_inv ew
    rw [doc] at ed
    cases ed
    rw [e']
    rfl

/-! ## Where a user document request comes from -/

/-- In the run of `es` from `s` to `t`, every user document request was made when the success of its
    `createUser` was delivered, for the text of the email field at that moment. -/
def Origins (s : Session) (es : List Event) (t : Session) : Prop :=
  ∀ (m : Nat) form n d, t.calls[m]? = some (.setUserDocument form n d) →
    ∃ es1 es2 u account, es = es1 ++ .deliver n :: es2 ∧ Run (Fires step) s es1 u ∧
      u.createdUser n = some (form, account) ∧ u.status n = .answered (.ok account) ∧
      usersCollectionReference.document (u.emailText form) = .ok d ∧
      t.status n = .delivered (.ok account)

/-- Every user document request of a run has such an origin. -/
lemma origin_run {s t : Session} {es} (fresh : s.Fresh) (rn : Run (Fires step) s es t) :
    Origins s es t := by
  refine rn.history (P := fun es t => Origins s es t) ?_ ?_
  · intro m form n d at_m
    rw [fresh.calls] at at_m
    cases at_m
  · intro es t e u rn st ih m form n d at_m
    rcases getElem?_calls st at_m with old | ⟨_, started, _⟩
    · obtain ⟨es1, es2, v, account, ees, rn1, created, answer, doc, done⟩ := ih m form n d old
      refine ⟨es1, es2 ++ [e], v, account, ?_, rn1, created, answer, doc, delivered_step st done⟩
      rw [ees, List.append_assoc]
      rfl
    · cases started with
      | @setUserDocument _ _ email password account _ call answer doc =>
        obtain ⟨_, a, _, answer', done⟩ := deliver_inv st
        rw [answer] at answer'
        cases answer'
        refine ⟨es, [], t, account, rfl, rn, ?_, answer, doc, done⟩
        rw [createdUser, call, answer]

/-- A user document that an attempt has set was asked for. -/
lemma AppliedTo.call {s t : Session} {es n d} (ap : s.AppliedTo es n d)
    (rn : Run (Fires step) s es t) :
    ∃ (m : Nat) (form : Nat), t.calls[m]? = some (.setUserDocument form n d) := by
  obtain ⟨es1, m, x, es2, u, form, ees, rn1, call⟩ := ap
  subst ees
  obtain ⟨u', rn1', rn2⟩ := rn.split
  cases rn1.fires_unique rn1'
  exact ⟨m, form, rn2.invariant (P := fun v => v.calls[m]? = some (.setUserDocument form n d))
    (fun st at_m => calls_step st at_m) call⟩

/-- What waits for its delivery has been answered with the account. -/
lemma createdUser_inv {s : Session} {n form account} (e : s.createdUser n = some (form, account)) :
    s.status n = .answered (.ok account) := by
  rw [createdUser] at e
  split at e
  case h_1 answer => cases e; exact answer
  case h_2 => cases e

/-- What an attempt asks for is the document of the text at its delivery. -/
lemma Origins.text {s t u : Session} {es es1 es2 n form form' account d} {m : Nat}
    (origins : Origins s es t) (ees : es = es1 ++ .deliver n :: es2)
    (rn1 : Run (Fires step) s es1 u) (created : u.createdUser n = some (form, account))
    (call : t.calls[m]? = some (.setUserDocument form' n d)) :
    usersCollectionReference.document (u.emailText form) = .ok d := by
  obtain ⟨es1', es2', u', account', ees', rn1', created', answer', doc, _⟩ :=
    origins m form' n d call
  have cut := ees.symm.trans ees'
  cases delivery_unique rn1 (createdUser_inv created) rn1' answer' cut
  cases rn1.fires_unique rn1'
  cases created.symm.trans created'
  exact doc

/-- A sign-up that succeeds has applied `setData([:])` to the document that the app uses for the new
    user, and to no other, exactly when the email field led to that document as the success of
    `createUser` was delivered. -/
theorem signUp_userDocument_iff {s t : Session} {es n account} (fresh : s.Fresh)
    (rn : Run (Fires step) s es t) (created : t.Created n account) (success : t.Dismissed n) :
    s.SetsUserDocument es n account ↔ s.NamedOnDelivery es n account := by
  obtain ⟨m, form, d, x, call, done⟩ := success
  have origins := origin_run fresh rn
  have applied : s.AppliedTo es n d := by
    obtain ⟨es1, es2, u, c, ees, rn1, call1, call2⟩ :=
      answered_run fresh rn (m := m) (x := x) (by rw [done]; rfl)
    cases call.symm.trans call2
    exact ⟨es1, m, x, es2, u, form, ees, rn1, call1⟩
  constructor
  · rintro ⟨d0, used, _, only⟩ es1 es2 u form' ees rn1 created'
    rw [origins.text ees rn1 created' call, only d applied, used.document]
  · intro named
    obtain ⟨es1, es2, u, account', ees, rn1, created', _, doc, done'⟩ := origins m form n d call
    obtain ⟨_, _, _, _, answer⟩ := created
    rw [done'] at answer
    cases answer
    have lead := named es1 es2 u form ees rn1 created'
    rw [doc] at lead
    refine ⟨d, userDocument_used lead.symm, applied, ?_⟩
    intro d' applied'
    obtain ⟨m', form', call'⟩ := applied'.call rn
    have doc' := origins.text ees rn1 created' call'
    rw [doc] at doc'
    cases doc'
    rfl

/-- The service spells the email in lower case. -/
theorem signUp_setsAnother :
    ∃ es t, Run (Fires step) (first [] ∅) es t ∧ t.Created 0 "a@b.c" ∧ t.Dismissed 0 ∧
      ¬ (first [] ∅).SetsUserDocument es 0 "a@b.c" := by
  obtain ⟨u, t, rn1, asked, rn2, done⟩ := Transition.exists_run_through step step (first [] ∅)
    [.presentSignUp, .typeSignUp ⟨"A@b.c", "Abcdefg1", "Abcdefg1"⟩, .signUpButtonTapped,
      .serve 0 (.ok "a@b.c"), .deliver 0]
    [.serve 1 (.ok ""), .deliver 1]
    (fun u => u.calls[1]? = some (.setUserDocument 0 0 ⟨["users", "A@b.c"], rfl⟩))
    (fun t => t.calls = [.createUser 0 "A@b.c" "Abcdefg1",
        .setUserDocument 0 0 ⟨["users", "A@b.c"], rfl⟩] ∧
      t.status 0 = .delivered (.ok "a@b.c") ∧ t.status 1 = .delivered (.ok ""))
    (by decide +kernel) (by decide +kernel)
  obtain ⟨calls, status0, status1⟩ := of_decide_eq_true done
  have other : usersCollectionReference.document "a@b.c" ≠ .ok ⟨["users", "A@b.c"], rfl⟩ := by
    decide +kernel
  refine ⟨_, t, rn1.append rn2, ?_, ?_, ?_⟩
  · exact ⟨0, "A@b.c", "Abcdefg1", by rw [calls]; rfl, by rw [status0]; rfl⟩
  · exact ⟨1, 0, _, "", by rw [calls]; rfl, status1⟩
  · rintro ⟨d, used, _, only⟩
    have applied := only _ ⟨_, 1, "", [.deliver 1], u, 0, rfl, rn1, of_decide_eq_true asked⟩
    subst applied
    exact other used.document

/-- The text is changed and changed back while `createUser` is under way. -/
theorem signUp_userDocument_iff_changedBack :
    ∃ es t, Run (Fires step) (first [] ∅) es t ∧ t.firestore.keys = [["users", "a@b.c"]] ∧
      ((first [] ∅).SetsUserDocument es 0 "a@b.c" ↔
        (first [] ∅).NamedOnDelivery es 0 "a@b.c") := by
  obtain ⟨t, rn, done⟩ := Transition.exists_run step (first [] ∅)
    [.presentSignUp, .typeSignUp ⟨"a@b.c", "Abcdefg1", "Abcdefg1"⟩, .signUpButtonTapped,
      .typeSignUp ⟨"d@e.f", "Abcdefg1", "Abcdefg1"⟩, .serve 0 (.ok "a@b.c"),
      .typeSignUp ⟨"a@b.c", "Abcdefg1", "Abcdefg1"⟩, .deliver 0, .serve 1 (.ok ""), .deliver 1]
    (fun t => t.firestore.keys = [["users", "a@b.c"]] ∧
      t.calls = [.createUser 0 "a@b.c" "Abcdefg1",
        .setUserDocument 0 0 ⟨["users", "a@b.c"], rfl⟩] ∧
      t.status 0 = .delivered (.ok "a@b.c") ∧ t.status 1 = .delivered (.ok ""))
    (by decide +kernel)
  obtain ⟨keys, calls, status0, status1⟩ := of_decide_eq_true done
  refine ⟨_, t, rn, keys, signUp_userDocument_iff fresh_first rn ?_ ?_⟩
  · exact ⟨0, "a@b.c", "Abcdefg1", by rw [calls]; rfl, by rw [status0]; rfl⟩
  · exact ⟨1, 0, _, "", by rw [calls]; rfl, status1⟩

end Session

end Lumiere

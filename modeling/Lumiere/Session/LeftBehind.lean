import Lumiere.Accounts.Operation
import Lumiere.Session.AccountDeletion

/-!
# What a deleted account leaves behind

The deletion of an account removes the user document, and the lists stand below it. When nothing
else writes there, a completed deletion leaves nothing behind exactly when nothing stood below the
user document at the tap (`deletion_leavesNothing_iff`); otherwise the documents wait there for
the next account of that email. `WrittenIn` says where a document that stands after a run but not
before it comes from.
-/

namespace Lumiere
open Firestore
open Transition (Run Fires Guarded)

namespace Session

/-- In the run of `es` from `s` an event has written the document. -/
def WrittenIn (s : Session) (es : List Event) (p : List String) (data : Fields) : Prop :=
  ∃ es1 e es2 u r, es = es1 ++ e :: es2 ∧ Run (Fires step) s es1 u ∧ u.reply e = some r ∧
    .setData p data ∈ r.writes

/-- What stands after a run has stood before it, or an event has written it. -/
lemma lookup_run {s t : Session} {es} (rn : Run (Fires step) s es t) :
    ∀ p data, t.firestore.lookup p = some data →
      s.firestore.lookup p = some data ∨ s.WrittenIn es p data := by
  refine rn.history (P := fun es t => ∀ p data, t.firestore.lookup p = some data →
    s.firestore.lookup p = some data ∨ s.WrittenIn es p data) (fun _ _ => .inl) ?_
  intro es t e u rn st ih p data there
  obtain ⟨r, er, eu⟩ := step_inv st
  subst eu
  rcases DocumentStore.lookup_applyAll_some there with before | mem
  · rcases ih p data before with start | ⟨es1, e', es2, v, r', ees, rest⟩
    · exact .inl start
    · refine .inr ⟨es1, e', es2 ++ [e], v, r', ?_, rest⟩
      rw [ees, List.append_assoc]
      rfl
  · exact .inr ⟨es, e, [], t, r, rfl, rn, er, mem⟩

/-- The lists that the user sees in `v` hold only documents written in the run of `es` from `s`. -/
def ShowsOnlyNew (email : String) (d : DocumentReference) (s : Session) (es : List Event)
    (v : Session) : Prop :=
  ∀ doc watchedList wishlist,
    shown (some email) v.firestore = .ok (doc, watchedList, wishlist) →
    (∀ x ∈ watchedList, s.WrittenIn es (d.path ++ ["watchedList", x.documentID]) x.data) ∧
      ∀ x ∈ wishlist, s.WrittenIn es (d.path ++ ["wishlist", x.documentID]) x.data

/-- The request `m` makes an account of the email, whether it succeeds or meets an error after that. -/
def Remakes (u : Session) (m : Nat) (email : String) (u' : Session) : Prop :=
  u.step (.serve m (.ok email)) = some u' ∨
    ∃ err, u.step (.serveLate m (.accountCreated email) err) = some u'

/-- The account is gone and so is everything at and below its document; when it is made again, with
    nothing written there in between, its lists show only what has been added since. -/
structure LeavesNothing (n : Nat) (user : User) (d : DocumentReference) (t : Session) : Prop where
  account : user.email ∉ t.accounts
  gone : ∀ p, d.path <+: p → t.firestore.lookup p = none
  recreated : ∀ es u m form email password u' fs v,
    Run (Guarded (Fires step) (WritesOnlyBy n (d.path <+: ·))) t es u →
    u.calls[m]? = some (.createUser form email password) →
    u.Remakes m user.email u' →
    Run (Fires step) u' fs v → ShowsOnlyNew user.email d u' fs v

/-- The request that makes the account leaves the database as it is. -/
lemma remakes_firestore {u u' : Session} {m form email password account}
    (call : u.calls[m]? = some (.createUser form email password))
    (remakes : u.Remakes m account u') : u'.firestore = u.firestore := by
  rcases remakes with st | ⟨err, st⟩
  · obtain ⟨c, r, ec, _, h, eu⟩ := serve_inv st
    cases call.symm.trans ec
    rw [Session.serve] at h
    split at h
    case isTrue => cases h
    case isFalse =>
      cases h
      subst eu
      rfl
  · obtain ⟨r, er, eu⟩ := step_inv st
    subst eu
    have writes := reply_writes er
    generalize ew : r.writes = ws at writes
    cases writes with
    | nothing =>
      change DocumentStore.applyAll u.firestore r.writes = _
      rw [ew]
      rfl

/-- What is shown below a document at which nothing stood has been written since. -/
lemma showsOnlyNew_run {email d} {s t : Session} {es} (doc : userDocument (some email) = .ok d)
    (gone : ∀ p, d.path <+: p → s.firestore.lookup p = none) (rn : Run (Fires step) s es t) :
    ShowsOnlyNew email d s es t := by
  obtain ⟨c1, c2, path1, path2, eq⟩ := shown_eq doc
  have new : ∀ (q : Query) name, q.collection.path = d.path ++ [name] →
      ∀ x ∈ q.run t.firestore, s.WrittenIn es (d.path ++ [name, x.documentID]) x.data := by
    intro q name path x mem
    obtain ⟨there, _⟩ := Query.mem_run.1 mem
    rw [path, List.append_assoc] at there
    rcases lookup_run rn _ _ there with before | written
    · rw [gone _ (List.prefix_append _ _)] at before
      cases before
    · exact written
  intro _ watchedList wishlist sh
  rw [eq] at sh
  cases sh
  exact ⟨new (watchedQuery c1) "watchedList" path1, new (wishlistQuery c2) "wishlist" path2⟩

/-- A completed deletion of an account leaves nothing behind exactly when at the tap nothing stood
    below the user document. -/
theorem deletion_leavesNothing_iff {s0 s s' t : Session} {es0 es user d x} (fresh : s0.Fresh)
    (rn0 : Run (Fires step) s0 es0 s) (tap : TappedDelete s user d s')
    (rn : Run (Guarded (Fires step) (Undisturbed s.calls.length user.email (d.path <+: ·))) s' es t)
    (deleted : Effected s.calls.length es)
    (done : t.status (s.calls.length + 1) = .delivered (.ok x)) :
    LeavesNothing s.calls.length user d t ↔
      ∀ p, d.path <+: p → p ≠ d.path → s.firestore.lookup p = none := by
  obtain ⟨re, del⟩ := tap.run (numbered_run fresh rn0) rn
  have same : s'.firestore = s.firestore := by rw [tap.eq]
  refine ⟨?_, ?_⟩
  · intro leaves p below ne
    have kept := re.kept p below (.inr ne)
    rw [same] at kept
    exact kept.symm.trans (leaves.gone p below)
  · intro empty
    have gone : ∀ p, d.path <+: p → t.firestore.lookup p = none := by
      intro p below
      by_cases ep : p = d.path
      case pos =>
        rw [ep]
        exact re.deleted (List.prefix_refl _) deleted
      case neg =>
        have kept := re.kept p below (.inr ep)
        rw [kept, same]
        exact empty p below ep
    refine ⟨del.gone x (by rw [done]; rfl), gone, ?_⟩
    intro es u m form email password u' fs v rn1 call remakes rn2
    have later := Remains.run id re.call rn1
    have goneU : ∀ p, d.path <+: p → u.firestore.lookup p = none := by
      intro p below
      by_cases h : ¬ Effected s.calls.length es ∨ p ≠ d.path
      case pos => rw [later.kept p below h, gone p below]
      case neg =>
        obtain ⟨eff, ep⟩ := not_or.1 h
        rw [not_not.1 ep]
        exact later.deleted (List.prefix_refl _) (not_not.1 eff)
    -- the account is made again, without a document
    refine showsOnlyNew_run tap.doc ?_ rn2
    rw [remakes_firestore call remakes]
    exact goneU

/-- An account is made, gets a film and is deleted: the film stays. -/
theorem not_leavesNothing :
    ∃ es s s' fs t, Run (Fires step) (first [] ∅) es s ∧
      TappedDelete s ⟨"a@b.c", 0⟩ ⟨["users", "a@b.c"], rfl⟩ s' ∧ Run (Fires step) s' fs t ∧
      Effected s.calls.length fs ∧ t.status (s.calls.length + 1) = .delivered (.ok "") ∧
      ¬ LeavesNothing s.calls.length ⟨"a@b.c", 0⟩ ⟨["users", "a@b.c"], rfl⟩ t := by
  obtain ⟨s, t, rn1, atTap, rn2, left⟩ := Transition.exists_run_through step step (first [] ∅)
    [.presentSignUp, .typeSignUp ⟨"a@b.c", "Abcdefg1", "Abcdefg1"⟩, .signUpButtonTapped,
      .serve 0 (.ok "a@b.c"), .deliver 0, .serve 1 (.ok ""), .deliver 1,
      .logInButtonTapped "a@b.c" "Abcdefg1", .serve 2 (.ok "a@b.c"), .deliver 2,
      .touch (.addMovieButtonTapped 0), .touch (.control (.typeTitle "Up")),
      .touch (.addWatchedButtonTapped (fun _ => ⟨0, by decide⟩) 1), .selectTab .profile]
    [.deleteAccountButtonTapped, .serve 3 (.ok ""), .serve 4 (.ok ""), .deliver 4]
    (fun s => s.calls.length = 3 ∧ s.currentUser = some ⟨"a@b.c", 0⟩)
    (fun t => t.status 4 = .delivered (.ok "") ∧
      (t.firestore.lookup ["users", "a@b.c", "watchedList", "AAAAAAAAAAAAAAAAAAAA"]).isSome)
    (by decide +kernel) (by decide +kernel)
  obtain ⟨len, signed⟩ := of_decide_eq_true atTap
  obtain ⟨done, film⟩ := of_decide_eq_true left
  cases rn2 with
  | cons st rn3 =>
    refine ⟨_, s, _, _, t, rn1, ⟨signed, by decide +kernel, st⟩, rn3, ?_, ?_, ?_⟩
    · rw [len]
      exact ⟨"", List.mem_cons_self⟩
    · rw [len]
      exact done
    · intro leaves
      have gone := leaves.gone ["users", "a@b.c", "watchedList", "AAAAAAAAAAAAAAAAAAAA"]
        ⟨["watchedList", "AAAAAAAAAAAAAAAAAAAA"], rfl⟩
      rw [gone] at film
      cases film

/-- An account with a photo and no films is deleted. -/
theorem deletion_leavesNothing_iff_photoOnly :
    ∃ s' es t, Run (Fires step) s' es t ∧ t.firestore.keys = [] ∧
      (LeavesNothing 0 ⟨"a@b.c", 0⟩ ⟨["users", "a@b.c"], rfl⟩ t ↔
        ∀ p, ["users", "a@b.c"] <+: p → p ≠ ["users", "a@b.c"] → photoStore.lookup p = none) := by
  obtain ⟨s', t, rn1, _, rn2, good⟩ := Transition.exists_run_through step
    (Transition.guardedStep step (Undisturbed 0 "a@b.c" (["users", "a@b.c"] <+: ·)))
    (atProfile "a@b.c" photoStore) [.deleteAccountButtonTapped]
    [.serve 0 (.ok ""), .serve 1 (.ok ""), .deliver 1] (fun _ => true)
    (fun t => t.status 1 = .delivered (.ok "") ∧ t.firestore.keys = [])
    (by decide +kernel) (by decide +kernel)
  obtain ⟨done, keys⟩ := of_decide_eq_true good
  have rn := Run.of_guardedStep rn2
  have st := rn1.single_inv
  exact ⟨s', _, t, rn.unguarded, keys,
    deletion_leavesNothing_iff fresh_atProfile .nil ⟨rfl, by decide +kernel, st⟩ rn
      ⟨"", List.mem_cons_self⟩ done⟩

end Session

end Lumiere

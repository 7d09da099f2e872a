import Lumiere.Session.Requests

/-!
# Whose profile photo is stored

A picked image is uploaded by two requests in turn, `putData` and `downloadURL`; the user document
is looked up only when the second one has been answered. `Picked` finds the pick that a request
belongs to. The photo stays with the account whose user picked it exactly when this account is the one
signed in when the download URL is delivered (`photos_iff`).
-/

namespace Lumiere
open Firestore
open Transition (Run Fires)

namespace Session

/-- In the run of `es` from `s`, the request `upload` was made by picking the image in state `p`. -/
def Picked (s : Session) (es : List Event) (imageID : String) (upload : Nat) (p : Session) : Prop :=
  ∃ es1 es2, es = es1 ++ .didFinishPicking imageID true :: es2 ∧ Run (Fires step) s es1 p ∧
    p.calls.length = upload

/-- Every upload was picked, and every download URL is asked for after an upload. -/
structure Uploads (s : Session) (es : List Event) (t : Session) : Prop where
  putData : ∀ (n : Nat) imageID, t.calls[n]? = some (.putData imageID) →
    ∃ p, s.Picked es imageID n p
  downloadURL : ∀ (m : Nat) imageID (n : Nat), t.calls[m]? = some (.downloadURL imageID n) →
    t.calls[n]? = some (.putData imageID)

/-- A step keeps the uploads behind their picks. -/
lemma Uploads.step {s t u : Session} {es e} (rn : Run (Fires Session.step) s es t)
    (st : t.step e = some u) (up : Uploads s es t) : Uploads s (es ++ [e]) u := by
  refine ⟨?_, ?_⟩
  · intro n imageID at_n
    rcases getElem?_calls st at_n with old | ⟨_, started, en⟩
    · obtain ⟨p, es1, es2, ees, rest⟩ := up.putData n imageID old
      refine ⟨p, es1, es2 ++ [e], ?_, rest⟩
      rw [ees, List.append_assoc]
      rfl
    · cases started with
      | putData => exact ⟨t, es, [], rfl, rn, en.symm⟩
  · intro m imageID n at_m
    rcases getElem?_calls st at_m with old | ⟨_, started, _⟩
    · exact calls_step st (up.downloadURL m imageID n old)
    · cases started with
      | downloadURL upload => exact calls_step st upload

/-- In every run the uploads are behind their picks. -/
lemma uploads_run {s t : Session} {es} (fresh : s.calls = []) (rn : Run (Fires step) s es t) :
    Uploads s es t := by
  refine rn.history (P := fun es t => Uploads s es t) ?_ ?_
  · refine ⟨?_, ?_⟩
    · intro n imageID at_n
      rw [fresh] at at_n
      cases at_n
    · intro m imageID n at_m
      rw [fresh] at at_m
      cases at_m
  · intro es t e u rn st up
    exact up.step rn st

/-- What the callback with a download URL may do for the account that was signed in at the pick: it
    goes on without a trap, what it writes goes to the document of that account's user, and it writes
    nothing when another account, or none, is signed in. -/
structure ServesOnly (picker : Option User) (u : Session) (r : Reply) : Prop where
  running : r.session.trap = none
  target : ∀ w ∈ r.writes, ∃ user d, picker = some user ∧ userDocument (some user.email) = .ok d ∧
    w.path = d.path
  silent : u.currentUser ≠ picker → r.writes = []

/-- There was a picker, whose user document has a path, and the same account is signed in. -/
def SignedInAgain (picker : Option User) (u : Session) : Prop :=
  ∃ user d, picker = some user ∧ u.currentUser = some user ∧
    userDocument (some user.email) = .ok d

/-- The callback with the download URL serves only the picker exactly when the picker is signed
    in. -/
lemma servesOnly_iff {u : Session} {m : Nat} {imageID upload url r picker}
    (call : u.calls[m]? = some (.downloadURL imageID upload))
    (answer : u.status m = .answered (.ok url)) (er : u.reply (.deliver m) = some r)
    (run : u.trap = none) : ServesOnly picker u r ↔ SignedInAgain picker u := by
  have handled := reply_deliver er call answer
  rw [Session.deliver] at handled
  have signed : (u.mark m (.delivered (.ok url))).email = u.email := rfl
  rw [signed] at handled
  constructor
  · intro serves
    have same : u.currentUser = picker := by
      by_contra other
      have noWrite := serves.silent other
      split at handled
      case h_1 =>
        have noTrap := serves.running
        subst handled
        cases noTrap
      case h_2 => subst handled; cases noWrite
    split at handled
    case h_1 =>
      have noTrap := serves.running
      subst handled
      cases noTrap
    case h_2 w photo =>
      obtain ⟨d, ed, _⟩ := saveProfilePhoto_inv photo
      rw [email] at ed
      cases eu : u.currentUser with
      | none =>
        rw [eu] at ed
        cases ed
      | some user =>
        rw [eu] at ed
        exact ⟨user, d, same ▸ eu, eu, ed⟩
  · rintro ⟨user, d, picked, again, ed⟩
    have mail : u.email = some user.email := by rw [email, again]; rfl
    split at handled
    case h_1 trap photo =>
      have error := except_map_error photo
      rw [mail, ed] at error
      cases error
    case h_2 w photo =>
      subst handled
      refine ⟨run, ?_, fun other => absurd (again.trans picked.symm) other⟩
      intro w' mem
      cases List.mem_singleton.1 mem
      obtain ⟨d', ed', ew⟩ := saveProfilePhoto_inv photo
      rw [mail] at ed'
      exact ⟨user, d', picked, ed', by rw [ew]; rfl⟩

/-- Only a running process runs a completion handler. -/
lemma deliver_runs {u : Session} {m : Nat} {r} (er : u.reply (.deliver m) = some r) :
    u.trap = none :=
  (reply_runs er).resolve_right (fun outlives => by cases outlives)

/-- In the run of `es` from `s`, every delivered download URL serves only the account that was signed
    in when its image was picked. -/
def PhotosServePicker (s : Session) (es : List Event) : Prop :=
  ∀ es1 (m : Nat) es2 u imageID upload url r p,
    es = es1 ++ .deliver m :: es2 → Run (Fires step) s es1 u →
    u.calls[m]? = some (.downloadURL imageID upload) → u.status m = .answered (.ok url) →
    u.reply (.deliver m) = some r → s.Picked es1 imageID upload p → ServesOnly p.currentUser u r

/-- In the run of `es` from `s`, whenever a download URL is delivered the account whose user picked
    its image is the one that is signed in. -/
def PickersSignedIn (s : Session) (es : List Event) : Prop :=
  ∀ es1 (m : Nat) es2 u imageID upload url r p,
    es = es1 ++ .deliver m :: es2 → Run (Fires step) s es1 u →
    u.calls[m]? = some (.downloadURL imageID upload) → u.status m = .answered (.ok url) →
    u.reply (.deliver m) = some r → s.Picked es1 imageID upload p → SignedInAgain p.currentUser u

/-- Every download URL belongs to a picked image, and the photos serve their pickers only exactly
    when these are signed in as the URLs are delivered. -/
theorem photos_iff {s : Session} (fresh : s.calls = []) (es : List Event) :
    (∀ es1 u (m : Nat) imageID upload, Run (Fires step) s es1 u →
      u.calls[m]? = some (.downloadURL imageID upload) → ∃ p, s.Picked es1 imageID upload p) ∧
    (s.PhotosServePicker es ↔ s.PickersSignedIn es) := by
  refine ⟨?_, ?_, ?_⟩
  · intro es1 u m imageID upload rn call
    have up := uploads_run fresh rn
    exact up.putData upload imageID (up.downloadURL m imageID upload call)
  · intro serve es1 m es2 u imageID upload url r p ees rn call answer er picked
    exact (servesOnly_iff call answer er (deliver_runs er)).1
      (serve es1 m es2 u imageID upload url r p ees rn call answer er picked)
  · intro signed es1 m es2 u imageID upload url r p ees rn call answer er picked
    exact (servesOnly_iff call answer er (deliver_runs er)).2
      (signed es1 m es2 u imageID upload url r p ees rn call answer er picked)

/-- An image is picked, its user logs out, another one logs in and gets the photo. -/
theorem not_photosServePicker :
    ∃ es t, Run (Fires step) (first ["a@b.c", "d@e.f"] ∅) es t ∧
      ¬ (first ["a@b.c", "d@e.f"] ∅).PhotosServePicker es := by
  obtain ⟨p, u, rn1, atP, rn2, atU⟩ :=
    Transition.exists_run_through step step (first ["a@b.c", "d@e.f"] ∅)
      [.logInButtonTapped "a@b.c" "Abcdefg1", .serve 0 (.ok "a@b.c"), .deliver 0,
        .selectTab .profile, .uploadButtonTapped]
      [.didFinishPicking "I" true, .serve 1 (.ok ""), .deliver 1, .logOutButtonTapped none,
        .logInButtonTapped "d@e.f" "Abcdefg1", .serve 3 (.ok "d@e.f"), .deliver 3,
        .serve 2 (.ok "https://I")]
      (fun p => p.calls.length = 1 ∧ p.currentUser = some ⟨"a@b.c", 0⟩)
      (fun u => u.calls[2]? = some (.downloadURL "I" 1) ∧
        u.status 2 = .answered (.ok "https://I") ∧ u.currentUser = some ⟨"d@e.f", 1⟩ ∧
        (u.reply (.deliver 2)).isSome)
      (by decide +kernel) (by decide +kernel)
  obtain ⟨len, userP⟩ := of_decide_eq_true atP
  obtain ⟨call, answer, userU, replies⟩ := of_decide_eq_true atU
  obtain ⟨r, er⟩ := Option.isSome_iff_exists.1 replies
  have st : Fires step u (.deliver 2) (u.applyReply r) := by rw [Fires, step, er]; rfl
  refine ⟨_, _, (rn1.append rn2).append (.single st), ?_⟩
  intro serve
  have serves := serve _ 2 [] u "I" 1 "https://I" r p rfl (rn1.append rn2) call answer er
    ⟨_, _, rfl, rn1, len⟩
  obtain ⟨user, _, picked, again, _⟩ := (servesOnly_iff call answer er (deliver_runs er)).1 serves
  have same := (userU.symm.trans again).trans (picked.symm.trans userP)
  exact absurd same (by decide)

/-- A photo picked and stored in one session. -/
theorem photos_iff_oneSession :
    ∃ es t, Run (Fires step) (first ["a@b.c"] ∅) es t ∧
      t.firestore.keys = [["users", "a@b.c"]] ∧
      ((first ["a@b.c"] ∅).PhotosServePicker es ↔
        (first ["a@b.c"] ∅).PickersSignedIn es) := by
  obtain ⟨t, rn, stored⟩ := Transition.exists_run step (first ["a@b.c"] ∅)
    [.logInButtonTapped "a@b.c" "Abcdefg1", .serve 0 (.ok "a@b.c"), .deliver 0,
      .selectTab .profile, .uploadButtonTapped, .didFinishPicking "I" true, .serve 1 (.ok ""),
      .deliver 1, .serve 2 (.ok "https://I"), .deliver 2]
    (fun t => t.firestore.keys = [["users", "a@b.c"]]) (by decide +kernel)
  exact ⟨_, t, rn, of_decide_eq_true stored, (photos_iff rfl _).2⟩

end Session

end Lumiere

import Lumiere.Base.Register
import Lumiere.Session.AccountDeletion
import Lumiere.Session.Photo

/-!
# Which profile photo stays

While one user stays signed in, the profile photo of the user document is a register of the session:
the delivery of a download URL sets it, and nothing else does (`photo_register`). Uploads that are
under way at the same time can be delivered in any order, so the photo that stays is the one whose
download URL was delivered last, and that is the image picked last exactly when the orders agree
(`latestPhoto_iff`).
-/

namespace Lumiere
open Firestore
open Transition (Run Fires Register LastSet Keeps guardedStep guardedStep_inv)

namespace Session

/-- What can happen while a user picks photos: images are picked and uploaded with success, and the
    lists are used. -/
def PhotoEvent (s : Session) : Event → Bool
  | .uploadButtonTapped => true
  | .imagePickerControllerDidCancel => true
  | .didFinishPicking _ compressed => compressed
  | .serve n a => (s.calls[n]?.any Call.uploads) && a.isOk
  | .deliver n => s.calls[n]?.any Call.uploads
  | .touch _ => true
  | .watchedSnapshot _ => true
  | .wishlistSnapshot _ => true
  | .selectTab _ => true
  | _ => false

/-- A step of the user `email`, who stays signed in. -/
def PhotoStep (email : String) (s : Session) (e : Event) : Prop :=
  s.email = some email ∧ s.PhotoEvent e = true

instance (email : String) (s : Session) (e : Event) : Decidable (PhotoStep email s e) :=
  inferInstanceAs (Decidable (_ ∧ _))

/-- The download URL that an event delivers. -/
def photoURL (s : Session) : Event → Option String
  | .deliver m =>
    match s.calls[m]?, s.status m with
    | some (.downloadURL _ _), .answered (.ok url) => some url
    | _, _ => none
  | _ => none

/-- The value that an event gives the `profilePhoto` field. -/
def photoSet (s : Session) (e : Event) : Option (Option Value) :=
  (s.photoURL e).map fun url => some (.string url)

/-- The `profilePhoto` field of the document. -/
def photo (d : DocumentReference) (s : Session) : Option Value :=
  (s.firestore.lookup d.path).bind fun data => data.get "profilePhoto"

/-- In the run of `es` from `s`, the user `email` stays signed in and `url` is the last download URL
    to be delivered. -/
def LastURL (email : String) (s : Session) (es : List Event) (url : String) : Prop :=
  LastSet (guardedStep step (PhotoStep email)) photoSet s es (some (.string url))

/-- The image of the request `n` is the one picked last, and of the requests from the place `k` on
    no upload is pending. -/
structure PickedLast (k : Nat) (t : Session) (n : Nat) : Prop where
  picked : ∃ imageID, t.calls[n]? = some (.putData imageID)
  last : ∀ (m : Nat) imageID, t.calls[m]? = some (.putData imageID) → m ≤ n
  settled : ∀ (m : Nat) c, k ≤ m → t.calls[m]? = some c → c.uploads = true →
    ∃ a, t.status m = .delivered a

/-- The download URL of the image of the request `n` has been delivered. -/
def URLOf (t : Session) (n : Nat) (url : String) : Prop :=
  ∃ (m : Nat) (imageID : String), t.calls[m]? = some (.downloadURL imageID n) ∧
    t.status m = .delivered (.ok url)

variable {s s' t : Session} {e : Event} {email : String} {d : DocumentReference}

/-! ## The photo as a register -/

/-- A download URL comes with the delivery of its request. -/
lemma photoURL_inv {url} (e' : s.photoURL e = some url) :
    ∃ (m : Nat) (imageID : String) (upload : Nat), e = .deliver m ∧
      s.calls[m]? = some (.downloadURL imageID upload) ∧ s.status m = .answered (.ok url) := by
  rw [photoURL.eq_def] at e'
  split at e'
  case h_1 m =>
    split at e'
    case h_1 call answer => cases e'; exact ⟨m, _, _, rfl, call, answer⟩
    case h_2 => cases e'
  case h_2 => cases e'

/-- A delivered download URL becomes the photo. -/
lemma photo_sets (doc : userDocument (some email) = .ok d)
    (st : guardedStep step (PhotoStep email) s e = some s') {url}
    (sets : s.photoURL e = some url) : s'.photo d = some (.string url) := by
  obtain ⟨st, signed, _⟩ := guardedStep_inv st
  obtain ⟨m, imageID, upload, ee, call, answer⟩ := photoURL_inv sets
  subst ee
  obtain ⟨r, er, es⟩ := step_inv st
  subst es
  have saved : saveProfilePhoto (s.mark m (.delivered (.ok url))).email url =
      .ok (d.setData [("profilePhoto", .string url)]) := by
    change saveProfilePhoto s.email url = _
    rw [signed, saveProfilePhoto, doc]
    rfl
  rw [reply_deliver er call answer, Session.deliver, saved]
  have written := DocumentStore.lookup_apply_self s.firestore
    (d.setData [("profilePhoto", .string url)])
  change AList.lookup d.path _ = _ at written
  change Option.bind (AList.lookup d.path ((d.setData _).apply s.firestore)) _ = _
  rw [written]
  rfl

/-- Nothing else changes the photo. -/
lemma photo_keeps (doc : userDocument (some email) = .ok d)
    (st : guardedStep step (PhotoStep email) s e = some s') (none : s.photoURL e = none) :
    s'.photo d = s.photo d := by
  obtain ⟨st, signed, event⟩ := guardedStep_inv st
  obtain ⟨r, er, es⟩ := step_inv st
  subst es
  have same : ∀ w ∈ r.writes, d.path ≠ w.path := by
    generalize ew : r.writes = ws
    have writes := reply_writes er
    rw [ew] at writes
    cases writes with
    | nothing =>
      intro w mem
      cases mem
    | touch tc wr =>
      intro w mem
      rw [List.mem_singleton.1 mem]
      obtain ⟨d', name, sub, ed, path⟩ := tc.write_below wr
      rw [signed, doc] at ed
      cases ed
      rw [path]
      intro eq
      have length := congrArg List.length eq
      rw [List.length_append, List.length_cons] at length
      omega
    | setUserDocument call | deleteUserDocument call =>
      simp [PhotoEvent, call, Call.uploads] at event
    | photo call answer => simp [photoURL, call, answer] at none
  change Option.bind (AList.lookup d.path (DocumentStore.applyAll s.firestore r.writes)) _ = _
  rw [DocumentStore.lookup_applyAll_ne same]
  rfl

/-- So the photo is a register of the session. -/
lemma photo_register (doc : userDocument (some email) = .ok d) :
    Register (guardedStep step (PhotoStep email)) (photo d) photoSet (fun _ => True) := by
  refine ⟨?_, ?_⟩
  · intro s e t b st _ sets
    obtain ⟨url, eu, eb⟩ := Option.map_eq_some_iff.1 sets
    subst eb
    exact photo_sets doc st eu
  · intro s e t st _ none
    exact ⟨trivial, photo_keeps doc st (Option.map_eq_none_iff.1 none)⟩

/-! ## Uploads while the user stays signed in -/

/-- The services have answered the requests from the place `k` on with success. -/
def AllSucceed (k : Nat) (s : Session) : Prop :=
  ∀ m a, k ≤ m → (s.status m).answer = some a → ∃ x, a = .ok x

/-- While photos are picked no request fails. -/
lemma AllSucceed.step {k} (st : guardedStep Session.step (PhotoStep email) s e = some s')
    (all : AllSucceed k s) : AllSucceed k s' := by
  obtain ⟨st, _, event⟩ := guardedStep_inv st
  intro m a le ans
  rcases answer_inv st ans with before | ⟨_, ee | ⟨_, _, ee, _⟩⟩
  · exact all m a le before
  · subst ee
    cases a with
    | ok x => exact ⟨x, rfl⟩
    | error err => simp [PhotoEvent, Except.isOk, Except.toBool] at event
  · subst ee
    cases event

/-- A request keeps its place in a run. -/
lemma calls_run {es} {n : Nat} {c : Call} (rn : Run (Fires step) s es t)
    (at_n : s.calls[n]? = some c) : t.calls[n]? = some c :=
  rn.invariant (P := fun u => u.calls[n]? = some c) (fun st at_u => calls_step st at_u) at_n

section Phase

variable {s0 : Session} {es0 es : List Event} {n : Nat}

/-- A guarded run is a run. -/
lemma photoRun (rn : Run (Fires (guardedStep step (PhotoStep email))) s es t) :
    Run (Fires step) s es t :=
  rn.mono fun st => (guardedStep_inv st).1

/-- When nothing is pending any more, the download URL of the image picked last has been
    delivered. -/
lemma PickedLast.url (num : s.Numbered)
    (rn : Run (Fires (guardedStep step (PhotoStep email))) s es t)
    (last : PickedLast s.calls.length t n) (le : s.calls.length ≤ n) :
    ∃ url, t.URLOf n url := by
  have all : AllSucceed s.calls.length t := by
    refine rn.invariant (fun st all => AllSucceed.step st all) ?_
    intro m a le ans
    rw [num.status m le] at ans
    cases ans
  have rn' := photoRun rn
  obtain ⟨imageID, picked⟩ := last.picked
  obtain ⟨a, done⟩ := last.settled n _ le picked rfl
  obtain ⟨x, ea⟩ := all n a le (by rw [done]; rfl)
  subst ea
  have pending : ∀ b, s.status n ≠ .delivered b := by
    intro b h
    rw [num.status n le] at h
    cases h
  obtain ⟨es1, es2, u, v, ees, rn1, st, answer, rn2⟩ := delivered_run rn' picked rfl pending done
  obtain ⟨c, _, call, _⟩ := deliver_inv st
  have call' := calls_run rn2 (calls_step st call)
  cases picked.symm.trans call'
  have asked := calls_run rn2 (deliver_putData st call answer)
  have later : s.calls.length ≤ u.calls.length :=
    rn1.invariant (P := fun w => s.calls.length ≤ w.calls.length)
      (fun st le => le.trans (length_calls_step st)) (le_refl _)
  obtain ⟨b, done'⟩ := last.settled _ _ later asked rfl
  obtain ⟨url, eb⟩ := all _ b later (by rw [done']; rfl)
  subst eb
  exact ⟨url, _, imageID, asked, done'⟩

/-- Some download URL has been delivered in the run. -/
lemma URLOf.sets {url} (fresh : s0.Fresh) (rn0 : Run (Fires step) s0 es0 s)
    (rn : Run (Fires (guardedStep step (PhotoStep email))) s es t)
    (le : s.calls.length ≤ n) (of : t.URLOf n url) :
    ¬ Keeps (guardedStep step (PhotoStep email)) photoSet s es := by
  intro keeps
  obtain ⟨m, imageID, call, done⟩ := of
  have num := numbered_run fresh rn0
  have pending : ∀ b, s.status m ≠ .delivered b := by
    intro b h
    -- a request of the image was not there before the image was picked
    have lt : m < s.calls.length := by
      by_contra no
      rw [num.status m (by omega)] at h
      cases h
    have old : s.calls[m]? = some (.downloadURL imageID n) := by
      have here := List.getElem?_eq_getElem lt
      have there := calls_run (photoRun rn) here
      rw [call] at there
      rw [here, there]
    have upload := (uploads_run fresh.calls rn0).downloadURL m imageID n old
    exact absurd (List.getElem?_eq_some_iff.1 upload).1 (by omega)
  obtain ⟨es1, es2, u, v, ees, rn1, st, answer, rn2⟩ :=
    delivered_run (photoRun rn) call rfl pending done
  obtain ⟨c, _, call', _⟩ := deliver_inv st
  have there := calls_run rn2 (calls_step st call')
  cases call.symm.trans there
  subst ees
  obtain ⟨u', rn1', _⟩ := rn.split
  cases rn1.fires_unique (photoRun rn1')
  have none := keeps es1 _ es2 u rfl rn1'
  rw [photoSet, photoURL, call', answer] at none
  cases none

/-- While a user stays signed in and every upload succeeds, once none is pending the profile photo
    is the image picked last exactly when its download URL was the last one to be delivered. -/
theorem latestPhoto_iff (fresh : s0.Fresh) (rn0 : Run (Fires step) s0 es0 s)
    (doc : userDocument (some email) = .ok d)
    (rn : Run (Fires (guardedStep step (PhotoStep email))) s es t)
    (last : PickedLast s.calls.length t n) (le : s.calls.length ≤ n) :
    (∃ url, t.URLOf n url) ∧
    ∀ url, t.URLOf n url → (t.photo d = some (.string url) ↔ LastURL email s es url) := by
  refine ⟨last.url (numbered_run fresh rn0) rn le, ?_⟩
  intro url of
  have reg := photo_register doc
  constructor
  · intro shown
    rcases reg.last_or_kept rn trivial with set | ⟨keeps, _⟩
    · rw [shown] at set
      exact set
    · exact absurd keeps (of.sets fresh rn0 rn le)
  · intro set
    exact reg.val_eq set rn trivial

end Phase

/-- Two uploads that are through. -/
private lemma pickedLast_two {i2 i3 : String} {n2 n3 : Nat} {x0 x1 x2 x3 : String}
    (calls : t.calls = [.putData "I", .putData "J", .downloadURL i2 n2, .downloadURL i3 n3])
    (status0 : t.status 0 = .delivered (.ok x0)) (status1 : t.status 1 = .delivered (.ok x1))
    (status2 : t.status 2 = .delivered (.ok x2)) (status3 : t.status 3 = .delivered (.ok x3)) :
    PickedLast 0 t 1 := by
  have before : ∀ (m : Nat) c, t.calls[m]? = some c → m < 4 := by
    intro m c at_m
    rw [calls] at at_m
    exact (List.getElem?_eq_some_iff.1 at_m).1
  refine ⟨⟨"J", by rw [calls]; rfl⟩, ?_, ?_⟩
  · intro m imageID at_m
    have lt := before m _ at_m
    rw [calls] at at_m
    by_contra no
    have later : m = 2 ∨ m = 3 := by omega
    rcases later with e | e <;> subst e <;> cases at_m
  · intro m c _ at_m _
    have lt := before m _ at_m
    have each : m = 0 ∨ m = 1 ∨ m = 2 ∨ m = 3 := by omega
    rcases each with e | e | e | e <;> subst e
    · exact ⟨_, status0⟩
    · exact ⟨_, status1⟩
    · exact ⟨_, status2⟩
    · exact ⟨_, status3⟩

/-- Image J is picked after image I, and the upload of I takes longer. -/
theorem latestPhoto_lost :
    ∃ es t, Run (Fires (guardedStep step (PhotoStep "a@b.c"))) (atProfile "a@b.c" ∅) es t ∧
      PickedLast 0 t 1 ∧ t.URLOf 1 "https://J" ∧
      t.photo ⟨["users", "a@b.c"], rfl⟩ ≠ some (.string "https://J") := by
  obtain ⟨t, rn, good⟩ := Transition.exists_run (guardedStep step (PhotoStep "a@b.c"))
    (atProfile "a@b.c" ∅)
    [.uploadButtonTapped, .didFinishPicking "I" true, .uploadButtonTapped,
      .didFinishPicking "J" true, .serve 0 (.ok ""), .serve 1 (.ok ""), .deliver 1, .deliver 0,
      .serve 2 (.ok "https://J"), .serve 3 (.ok "https://I"), .deliver 2, .deliver 3]
    (fun t => t.calls = [.putData "I", .putData "J", .downloadURL "J" 1, .downloadURL "I" 0] ∧
      t.status 0 = .delivered (.ok "") ∧ t.status 1 = .delivered (.ok "") ∧
      t.status 2 = .delivered (.ok "https://J") ∧ t.status 3 = .delivered (.ok "https://I") ∧
      t.photo ⟨["users", "a@b.c"], rfl⟩ ≠ some (.string "https://J"))
    (by decide +kernel)
  obtain ⟨calls, status0, status1, status2, status3, photo⟩ := of_decide_eq_true good
  refine ⟨_, t, rn, pickedLast_two calls status0 status1 status2 status3, ?_, photo⟩
  exact ⟨2, "J", by rw [calls]; rfl, status2⟩

/-- The upload of image J, which was picked last, takes longer. -/
theorem latestPhoto_iff_inOrder :
    ∃ es t, Run (Fires (guardedStep step (PhotoStep "a@b.c"))) (atProfile "a@b.c" ∅) es t ∧
      t.URLOf 1 "https://J" ∧
      (t.photo ⟨["users", "a@b.c"], rfl⟩ = some (.string "https://J") ↔
        LastURL "a@b.c" (atProfile "a@b.c" ∅) es "https://J") := by
  obtain ⟨t, rn, good⟩ := Transition.exists_run (guardedStep step (PhotoStep "a@b.c"))
    (atProfile "a@b.c" ∅)
    [.uploadButtonTapped, .didFinishPicking "I" true, .uploadButtonTapped,
      .didFinishPicking "J" true, .serve 1 (.ok ""), .serve 0 (.ok ""), .deliver 0, .deliver 1,
      .serve 3 (.ok "https://J"), .serve 2 (.ok "https://I"), .deliver 2, .deliver 3]
    (fun t => t.calls = [.putData "I", .putData "J", .downloadURL "I" 0, .downloadURL "J" 1] ∧
      t.status 0 = .delivered (.ok "") ∧ t.status 1 = .delivered (.ok "") ∧
      t.status 2 = .delivered (.ok "https://I") ∧ t.status 3 = .delivered (.ok "https://J"))
    (by decide +kernel)
  obtain ⟨calls, status0, status1, status2, status3⟩ := of_decide_eq_true good
  have last : PickedLast 0 t 1 := pickedLast_two calls status0 status1 status2 status3
  have of : t.URLOf 1 "https://J" := ⟨3, "J", by rw [calls]; rfl, status3⟩
  have doc : userDocument (some "a@b.c") = .ok ⟨["users", "a@b.c"], rfl⟩ := by decide +kernel
  obtain ⟨_, wins⟩ := latestPhoto_iff fresh_atProfile .nil doc rn last (Nat.zero_le _)
  exact ⟨_, t, rn, of, wins _ of⟩

end Session

end Lumiere

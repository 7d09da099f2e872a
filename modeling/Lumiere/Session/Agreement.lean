import Lumiere.Session.Screens

/-!
# Screen and session

SceneDelegate shows the tab screens when Auth has a current user and Log In otherwise, and the
handlers are to keep this up. While a log-in or a deletion of the account waits for its completion
handler the two may differ (`InStep`); in a quiet session they agree. Some exits of the handlers
break it. `signOut` throws, and Log In is pushed all the same. `createUser` succeeds, which signs
the user in, and no tab bar is pushed. `user.delete` succeeds and its completion handler runs when
someone else has signed in, or pushes Log In on the navigation controller of a Profile screen that
is not seen; or it fails after Auth has signed the user out. A tab bar is pushed where UIKit does
not load it. A step is `KeepsInStep` when it is none of them, or what is under way puts things right
(`screen_agrees`); after any other step they are out of step (`outOfStep`).
-/

namespace Lumiere
open Firestore
open Transition (Run Fires Guarded guardedStep)

/-- The request makes an account. -/
def Call.createsUser : Call → Bool
  | .createUser _ _ _ => true
  | _ => false

/-- The deletion was asked for on the tab bar. -/
def Call.askedOn (tabBars : Nat) : Call → Bool
  | .deleteUser _ tabBar => tabBars = tabBar
  | _ => false

/-- A tab bar is on the window, and no Log In over its Profile screen. -/
def Window.ShowsTabs (w : Window) : Prop :=
  w.tabBars ≠ 0 ∧ w.logIn = false

instance (w : Window) : Decidable w.ShowsTabs :=
  inferInstanceAs (Decidable (_ ∧ _))

/-- What is seen of a window once its sheet is gone. -/
def Window.under (w : Window) : Screen :=
  { w with sheet := none }.screen

namespace Session

/-- The tab screens are shown exactly when Auth has a current user, and the Log In screen, possibly
    under Sign Up, exactly when it has none. -/
def Agrees (s : Session) : Prop :=
  (s.window.under = .tabs ↔ s.currentUser ≠ none) ∧
    (s.window.under = .logIn ↔ s.currentUser = none)

/-- No request is under way. -/
def Quiet (s : Session) : Prop :=
  ∀ (n : Nat) c, s.calls[n]? = some c → s.status n = .lost ∨ ∃ a, s.status n = .delivered a

/-- The success of the request signs the current user out. -/
def endsSession (s : Session) : Call → Bool
  | .deleteUser user _ => s.currentUser.map User.uid = some user.uid
  | _ => false

/-- The exits of the handlers after which screen and session can still agree. -/
def keepsInStep (s : Session) : Event → Bool
  | .dropUser => false
  | .logOutButtonTapped (some _) => s.currentUser = none ∨ s.Arriving
  | .serve n (.ok _) =>
    ((s.calls[n]?.any Call.createsUser) → s.window.ShowsTabs ∨ s.Arriving) ∧
      ((s.calls[n]?.any s.endsSession) →
        s.window.ShowsLogIn ∨ s.Leaving ∨ s.calls[n]?.any (Call.askedOn s.window.tabBars))
  | .serveLate n (.accountDeleted true) _ =>
    (s.calls[n]?.any s.endsSession) → s.window.ShowsLogIn ∨ s.Leaving
  | .deliver n =>
    (s.calls[n]?.any fun c => c.leaves s.window.tabBars (s.status n)) →
      if s.currentUser = none then
        s.window.ShowsLogIn ∨ s.window.selectedTab = .profile ∨ (s.mark n .lost).Leaving
      else s.Arriving
  | .deliverCovered n => s.currentUser = none ∨ s.window.ShowsTabs ∨ (s.mark n .lost).Arriving
  | _ => true

/-- In a running process, Auth does not drop the user on its own; `signOut` throws only when nobody
    is signed in, or when a log-in has succeeded and its completion handler has yet to run;
    `createUser` succeeds only under a tab bar without Log In, or with such a log-in; the deletion
    of the current user's account succeeds only when it was asked for on the tab bar that is seen,
    unless Log In is shown, and it does not fail after Auth has signed the user out; its success is
    delivered on that tab bar with nobody signed in and the Profile tab selected, or with such a
    log-in; and a log-in comes through on a covered Log In screen only when nobody is signed in or a
    tab bar without Log In is there. -/
def KeepsInStep (s : Session) (e : Event) : Prop :=
  s.trap = none → s.keepsInStep e = true

instance (s : Session) (e : Event) : Decidable (KeepsInStep s e) :=
  inferInstanceAs (Decidable (_ → _))

/-- Where screen and session differ, something is under way. -/
structure InStep (s : Session) : Prop where
  tabs : ¬ s.window.ShowsLogIn → s.currentUser ≠ none ∨ s.Leaving
  user : s.currentUser ≠ none → s.window.ShowsTabs ∨ s.Arriving

end Session

namespace Window

variable {w w' : Window}

/-- What is under the sheet is Log In or the tab screens. -/
lemma under_eq : w.under = if w.ShowsLogIn then .logIn else .tabs :=
  rfl

/-- Log In is not shown where a tab bar is without it. -/
lemma ShowsTabs.not_logIn (tabs : w.ShowsTabs) : ¬ w.ShowsLogIn := by
  rintro (none | ⟨_, logIn⟩)
  · exact tabs.1 none
  · cases tabs.2.symm.trans logIn

/-- What pushes nothing leaves a tab bar without Log In. -/
lemma Keeps.showsTabs (keeps : w.Keeps w') (tabs : w.ShowsTabs) : w'.ShowsTabs :=
  ⟨keeps.tabBars ▸ tabs.1, keeps.logIn.trans tabs.2⟩

end Window

namespace Session

variable {s s' : Session} {e : Event}

/-- Screen and session agree when the tab screens are shown exactly to a user. -/
lemma agrees_of_iff (h : ¬ s.window.ShowsLogIn ↔ s.currentUser ≠ none) : s.Agrees := by
  rw [Agrees, Window.under_eq]
  by_cases shows : s.window.ShowsLogIn
  · have nobody : s.currentUser = none := by
      by_contra signed
      exact h.2 signed shows
    simp [shows, nobody]
  · have signed := h.1 shows
    simp [shows, signed]

/-- What is lost or delivered is in no quiet session. -/
lemma Quiet.not_pending (quiet : s.Quiet) {p : Call → Status → Bool}
    (lost : ∀ c, p c .lost = false) (delivered : ∀ c a, p c (.delivered a) = false) :
    s.pending p ≠ true := by
  intro wait
  obtain ⟨n, c, ec, h⟩ := pending_iff.1 wait
  rcases quiet n c ec with es | ⟨a, es⟩
  · rw [es, lost] at h
    cases h
  · rw [es, delivered] at h
    cases h

/-- No log-in waits in a quiet session. -/
lemma Quiet.not_arriving (quiet : s.Quiet) : ¬ s.Arriving :=
  quiet.not_pending (fun c => by cases c <;> rfl) (fun c _ => by cases c <;> rfl)

/-- Nor does a deletion. -/
lemma Quiet.not_leaving (quiet : s.Quiet) : ¬ s.Leaving :=
  quiet.not_pending (fun c => by cases c <;> rfl) (fun c _ => by cases c <;> rfl)

/-- After a launch the session is quiet. -/
lemma quiet_launch {now} (st : s.step (.launch now) = some s') : s'.Quiet := by
  intro n c ec
  obtain ⟨r, er, es⟩ := step_inv st
  subst es
  cases replies_inv er with
  | launch =>
    rcases getElem?_calls st ec with old | ⟨_, started, _⟩
    · exact launch_settled (List.getElem?_eq_some_iff.1 old).1
    · cases started

/-! ## Steps that turn nothing -/

/-- A test of the request at a place. -/
lemma any_of_call {n : Nat} {c : Call} {p : Call → Bool} (ec : s.calls[n]? = some c)
    (h : p c = true) : s.calls[n]?.any p = true := by
  rw [ec]
  exact h

/-- A deletion of the account that succeeds waits for its completion handler. -/
lemma leaving_serve {n : Nat} {c : Call} {x} (st : s.step (.serve n (.ok x)) = some s')
    (ec : s.calls[n]? = some c) (asked : c.askedOn s.window.tabBars = true)
    (top : s'.window.tabBars = s.window.tabBars) : s'.Leaving := by
  refine pending_iff.2 ⟨_, _, calls_step st ec, ?_⟩
  rw [serve_status st, top]
  cases c with
  | deleteUser => exact asked
  | _ => cases asked

/-- A step that pushes nothing leaves the tab screens to someone who is signed in, or to a deletion
    that waits. -/
lemma tabs_stays (st : s.step e = some s') (turns : s.turns e = false)
    (guard : s.keepsInStep e = true) (inv : s.InStep) (tabs : ¬ s'.window.ShowsLogIn) :
    s'.currentUser ≠ none ∨ s'.Leaving := by
  have keeps := keeps_step st turns
  have shown := keeps.tabs tabs
  have wait := Leaving.step st turns keeps.tabBars
  have before := (inv.tabs shown).imp_right wait
  have signs := signs_step st
  generalize s'.accounts = accounts at signs
  generalize eu : s'.currentUser = u at signs
  cases signs with
  | same | createdLate => exact before
  | createUser | signIn => exact .inl (fun h => by cases h)
  | @deleteUser n user k x ec =>
    rcases s.signOutByForce_user user.uid with ⟨_, mine⟩ | ⟨same, _⟩
    · right
      have guard := (of_decide_eq_true guard).2 (any_of_call ec (decide_eq_true mine))
      rcases guard with logIn | leaving | asked
      · exact absurd logIn shown
      · exact wait leaving
      · rw [ec] at asked
        exact leaving_serve st ec asked keeps.tabBars
    · rw [same]
      exact before
  | @deletedLate n user k signedOut err ec =>
    cases signedOut with
    | false => exact before
    | true =>
      rw [if_pos rfl]
      rcases s.signOutByForce_user user.uid with ⟨_, mine⟩ | ⟨same, _⟩
      · right
        have guard := of_decide_eq_true guard (any_of_call ec (decide_eq_true mine))
        exact wait (guard.resolve_left shown)
      · rw [same]
        exact before
  | logOut => cases turns
  | dropUser => cases guard

/-- A tab bar without Log In, or a log-in that waits, stays for a user who stays. -/
lemma user_stays (st : s.step e = some s') (turns : s.turns e = false)
    (guard : s.keepsInStep e = true) (inv : s.InStep) (signed : s.currentUser ≠ none) :
    s'.window.ShowsTabs ∨ s'.Arriving := by
  have keeps := keeps_step st turns
  rcases inv.user signed with tabs | arriving
  · exact .inl (keeps.showsTabs tabs)
  · rcases arriving.step st with wait | ⟨n, c, ee, ec, h⟩ | ⟨n, ee⟩ | ⟨now, ee⟩
    · exact .inr wait
    · subst ee
      rw [(not_delivered ec turns).1] at h
      cases h
    · subst ee
      rcases of_decide_eq_true guard with nobody | tabs | others
      · exact absurd nobody signed
      · exact .inl (keeps.showsTabs tabs)
      · refine .inr (pending_others st (fun c => by cases c <;> rfl) ?_ others)
        obtain ⟨r, er, es⟩ := step_inv st
        subst es
        cases replies_inv er with
        | deliverCovered => exact fun m ne => Function.update_of_ne ne _ _
    · subst ee
      cases turns

/-- A step that pushes nothing leaves someone who is signed in a tab bar without Log In, or a log-in
    that waits. -/
lemma signed_stays (st : s.step e = some s') (turns : s.turns e = false)
    (guard : s.keepsInStep e = true) (inv : s.InStep) (signed' : s'.currentUser ≠ none) :
    s'.window.ShowsTabs ∨ s'.Arriving := by
  have keeps := keeps_step st turns
  have stay := user_stays st turns guard inv
  have signs := signs_step st
  generalize s'.accounts = accounts at signs
  generalize eu : s'.currentUser = u at signs signed'
  cases signs with
  | same | createdLate => exact stay signed'
  | signIn ec =>
    refine .inr (pending_iff.2 ⟨_, _, calls_step st ec, ?_⟩)
    rw [serve_status st]
    rfl
  | createUser ec =>
    rcases (of_decide_eq_true guard).1 (any_of_call ec rfl) with tabs | arriving
    · exact .inl (keeps.showsTabs tabs)
    · rcases arriving.step st with wait | ⟨_, _, ee, _⟩ | ⟨_, ee⟩ | ⟨_, ee⟩
      · exact .inr wait
      · cases ee
      · cases ee
      · cases ee
  | @deleteUser n user k x =>
    rcases s.signOutByForce_user user.uid with ⟨nobody, _⟩ | ⟨same, _⟩
    · exact absurd nobody signed'
    · exact stay (same ▸ signed')
  | @deletedLate n user k signedOut err =>
    cases signedOut with
    | false => exact stay signed'
    | true =>
      rw [if_pos rfl] at signed'
      rcases s.signOutByForce_user user.uid with ⟨nobody, _⟩ | ⟨same, _⟩
      · exact absurd nobody signed'
      · exact stay (same ▸ signed')
  | logOut | dropUser => exact absurd rfl signed'

/-- A step that turns nothing keeps screen and session in step. -/
lemma InStep.stays (st : s.step e = some s') (turns : s.turns e = false)
    (guard : s.keepsInStep e = true) (inv : s.InStep) : s'.InStep :=
  ⟨tabs_stays st turns guard inv, signed_stays st turns guard inv⟩

/-! ## Steps that push a tab bar or Log In -/

/-- A log-in that waits goes on waiting over a tap on Log Out. -/
lemma arriving_logOut {thrown} (st : s.step (.logOutButtonTapped thrown) = some s')
    (arriving : s.Arriving) : s'.Arriving := by
  rcases arriving.step st with wait | ⟨_, _, ee, _⟩ | ⟨_, ee⟩ | ⟨_, ee⟩
  · exact wait
  · cases ee
  · cases ee
  · cases ee

/-- It goes on waiting while a deletion is delivered. -/
lemma arriving_leaves {n : Nat} {c : Call} {k} (st : s.step (.deliver n) = some s')
    (ec : s.calls[n]? = some c) (leaves : c.leaves k (s.status n) = true)
    (arriving : s.Arriving) : s'.Arriving := by
  rcases arriving.step st with wait | ⟨_, _, ee, em, h⟩ | ⟨_, ee⟩ | ⟨_, ee⟩
  · exact wait
  · cases ee
    cases ec.symm.trans em
    obtain ⟨⟨_, ed⟩, _⟩ := leaves_inv leaves
    obtain ⟨⟨_, _, _, es⟩, _⟩ := arrives_inv h
    cases ed.symm.trans es
  · cases ee
  · cases ee

/-- Log In over the Profile screen is shown when the Profile tab is selected. -/
lemma showsLogIn_push (profile : s.window.selectedTab = .profile) :
    ({ s.window with logIn := true } : Window).ShowsLogIn :=
  .inr ⟨profile, rfl⟩

/-- A tap on Log Out. -/
lemma InStep.logOut {thrown} (st : s.step (.logOutButtonTapped thrown) = some s')
    (guard : s.keepsInStep (.logOutButtonTapped thrown) = true) (on : s.OnProfile)
    (ew : s'.window = { s.window with logIn := true }) : s'.InStep := by
  refine ⟨?_, ?_⟩
  · intro tabs
    rw [ew] at tabs
    exact absurd (showsLogIn_push on.2) tabs
  · intro signed'
    right
    have signs := signs_step st
    generalize s'.accounts = accounts at signs
    generalize eu : s'.currentUser = u at signs signed'
    cases signs with
    | same thrown' =>
      cases thrown with
      | none => exact absurd rfl thrown'
      | some err => exact arriving_logOut st ((of_decide_eq_true guard).resolve_left signed')
    | logOut => exact absurd rfl signed'

/-- The current user is left alone by a delivery. -/
lemma deliver_user {n : Nat} (st : s.step (.deliver n) = some s') :
    s'.currentUser = s.currentUser := by
  obtain ⟨r, er, es⟩ := step_inv st
  subst es
  cases replies_inv er with
  | deliver => exact deliver_frame.currentUser

/-- The states of the other requests are left alone by a delivery. -/
lemma deliver_others {n m : Nat} (st : s.step (.deliver n) = some s') (ne : m ≠ n) :
    s'.status m = s.status m := by
  obtain ⟨r, er, es⟩ := step_inv st
  subst es
  cases replies_inv er with
  | deliver =>
    change ((s.mark n _).deliver n _ _).session.status m = _
    rw [deliver_frame.status]
    exact Function.update_of_ne ne _ _

/-- The completion handler of a deletion. -/
lemma InStep.leaves {n : Nat} {c : Call} (st : s.step (.deliver n) = some s')
    (guard : s.keepsInStep (.deliver n) = true) (ec : s.calls[n]? = some c)
    (leaves : c.leaves s.window.tabBars (s.status n) = true)
    (ew : s'.window = { s.window with logIn := true }) : s'.InStep := by
  have user := deliver_user st
  have guard := of_decide_eq_true guard
    (any_of_call (p := fun c => c.leaves s.window.tabBars (s.status n)) ec leaves)
  split at guard
  case isTrue nobody =>
    refine ⟨?_, fun signed' => absurd (user.trans nobody) signed'⟩
    intro tabs
    rw [ew] at tabs
    rcases guard with logIn | profile | others
    · rcases logIn with none | ⟨profile, _⟩
      · exact absurd (.inl none) tabs
      · exact absurd (showsLogIn_push profile) tabs
    · exact absurd (showsLogIn_push profile) tabs
    · right
      rw [Leaving, ew]
      exact pending_others st (fun c => by cases c <;> rfl) (fun m => deliver_others st) others
  case isFalse signed =>
    exact ⟨fun _ => .inl (user ▸ signed), fun _ => .inr (arriving_leaves st ec leaves guard)⟩

/-- A new tab bar in front of someone who is signed in. -/
lemma inStep_tabBar {w : Window} {loaded} (signed : s.currentUser ≠ none)
    (ew : s.window = { w.pushTabBar with loaded := loaded }) : s.InStep :=
  ⟨fun _ => .inl signed, fun _ => .inl (by rw [ew]; exact ⟨Nat.succ_ne_zero _, rfl⟩)⟩

/-- The current user is left alone by a launch. -/
lemma launch_user {now} (st : s.step (.launch now) = some s') :
    s'.currentUser = s.currentUser := by
  obtain ⟨r, er, es⟩ := step_inv st
  subst es
  cases replies_inv er with
  | launch => exact launch_frame.2.1

/-- A step that keeps screen and session in step. -/
lemma InStep.step (st : s.step e = some s') (keeps : KeepsInStep s e) (run : s'.trap = none)
    (inv : s.trap = none → s.InStep) : s'.InStep := by
  have moves := moves_step st
  rcases alive_step st run with alive | ⟨now, ee⟩
  · have guard := keeps alive
    have inv := inv alive
    generalize ew : s'.window = w at moves
    cases moves with
    | stays turns | dismiss turns => exact inv.stays st turns guard
    | selectTab | presentSignUp | uploadButtonTapped => exact inv.stays st rfl guard
    | logOut on => exact .logOut st guard on ew
    | arrives ec arrives => exact inStep_tabBar (arrives_signed st ec arrives run) ew
    | leaves ec leaves => exact .leaves st guard ec leaves ew
    | launchLogIn nobody =>
      refine ⟨fun tabs => ?_, fun signed => absurd ((launch_user st).trans nobody) signed⟩
      rw [ew] at tabs
      exact absurd (.inl rfl) tabs
    | launchTabs signed => exact inStep_tabBar (launch_user st ▸ signed) ew
  · subst ee
    generalize ew : s'.window = w at moves
    cases moves with
    | stays turns | dismiss turns => cases turns
    | launchLogIn nobody =>
      refine ⟨fun tabs => ?_, fun signed => absurd ((launch_user st).trans nobody) signed⟩
      rw [ew] at tabs
      exact absurd (.inl rfl) tabs
    | launchTabs signed => exact inStep_tabBar (launch_user st ▸ signed) ew

/-! ## Any other step -/

/-- A log-in waits only when one has waited before, or the service has just signed the user in. -/
lemma arriving_back (num : s.Numbered) (st : s.step e = some s') (arriving : s'.Arriving) :
    (∃ (n : Nat) (c : Call), s.calls[n]? = some c ∧ c.arrives (s.status n) = true ∧
      e ≠ .deliverCovered n) ∨
      ∃ (n : Nat) (email password x : String) (k : Nat),
        e = .serve n (.ok x) ∧ s.calls[n]? = some (.signIn email password k) := by
  cases pends_step num st arriving with
  | stays ec h _ covered => exact .inl ⟨_, _, ec, h, covered⟩
  | started started h => cases started <;> cases h
  | @served n c a call _ h =>
    obtain ⟨⟨email, password, k, ec⟩, x, ea⟩ := arrives_inv h
    subst ec
    cases ea
    exact .inr ⟨n, email, password, x, k, rfl, call⟩
  | @servedLate n c late err call _ h => cases c <;> cases h
  | @delivered _ n c a _ h => cases c <;> cases h
  | launched => exact absurd arriving (quiet_launch st).not_arriving

/-- A deletion waits only when one has waited before, or the service has just carried it out. -/
lemma leaving_back (num : s.Numbered) (st : s.step e = some s')
    (top : s'.window.tabBars = s.window.tabBars) (leaving : s'.Leaving) :
    (∃ (n : Nat) (c : Call), s.calls[n]? = some c ∧
      c.leaves s.window.tabBars (s.status n) = true ∧ e ≠ .deliver n) ∨
      ∃ (n : Nat) (x : String),
        e = .serve n (.ok x) ∧ s.calls[n]?.any (Call.askedOn s.window.tabBars) = true := by
  rw [Leaving, top] at leaving
  cases pends_step num st leaving with
  | stays ec h deliver => exact .inl ⟨_, _, ec, h, deliver⟩
  | started started h => cases started <;> cases h
  | @served n c a call _ h =>
    obtain ⟨⟨user, ec⟩, x, ea⟩ := leaves_inv h
    subst ec
    cases ea
    exact .inr ⟨n, x, rfl, any_of_call call (decide_eq_true rfl)⟩
  | @servedLate n c late err call _ h => cases c <;> cases h
  | @delivered _ n c a _ h => cases c <;> cases h
  | launched =>
    rw [← top] at leaving
    exact absurd leaving (quiet_launch st).not_leaving

/-- The window after a tap on Log Out. -/
lemma logOut_window {thrown} (st : s.step (.logOutButtonTapped thrown) = some s') :
    s'.window = { s.window with logIn := true } := by
  have moves := moves_step st
  generalize s'.window = w at moves
  cases moves with
  | logOut => rfl
  | stays turns | dismiss turns => cases turns

/-- The window after the completion handler of a deletion on the tab bar that is seen. -/
lemma leaves_window {n : Nat} {c : Call} (st : s.step (.deliver n) = some s')
    (ec : s.calls[n]? = some c) (leaves : c.leaves s.window.tabBars (s.status n) = true) :
    s'.window = { s.window with logIn := true } := by
  have moves := moves_step st
  generalize s'.window = w at moves
  cases moves with
  | stays turns | dismiss turns =>
    rw [(not_delivered ec turns).2] at leaves
    cases leaves
  | leaves => rfl
  | arrives em arrives =>
    cases ec.symm.trans em
    obtain ⟨⟨_, ed⟩, _⟩ := leaves_inv leaves
    obtain ⟨⟨_, _, _, es⟩, _⟩ := arrives_inv arrives
    cases ed.symm.trans es

/-- The answer of a service leaves the window alone. -/
lemma serve_window {n a} (st : s.step (.serve n a) = some s') : s'.window = s.window := by
  obtain ⟨_, _, _, _, h, es⟩ := serve_inv st
  subst es
  exact (serve_frame h).2.window

/-- The success of `createUser` signs the new user in. -/
lemma createUser_served {n : Nat} {x} (st : s.step (.serve n (.ok x)) = some s')
    (creates : s.calls[n]?.any Call.createsUser = true) : s'.currentUser ≠ none := by
  obtain ⟨c, r, ec, _, er, es⟩ := serve_inv st
  rw [ec] at creates
  subst es
  cases c with
  | createUser form email password =>
    rw [Session.serve] at er
    split at er
    case isTrue => cases er
    case isFalse =>
      cases er
      intro none
      cases none
  | _ => cases creates

/-- The success of a deletion of the current user's account signs the user out. -/
lemma endsSession_served {n : Nat} {x} (st : s.step (.serve n (.ok x)) = some s')
    (ends : s.calls[n]?.any s.endsSession = true) : s'.currentUser = none := by
  obtain ⟨c, r, ec, _, er, es⟩ := serve_inv st
  rw [ec] at ends
  subst es
  cases c with
  | deleteUser user k =>
    rw [Session.serve] at er
    split at er
    case isFalse => cases er
    case isTrue =>
      cases er
      have mine : s.currentUser.map User.uid = some user.uid := of_decide_eq_true ends
      change (Session.signOutByForce _ user.uid).currentUser = none
      rw [signOutByForce]
      exact if_pos mine ▸ rfl
  | _ => cases ends

/-- So does its failure after Auth has signed the user out. -/
lemma endsSession_servedLate {n : Nat} {err}
    (st : s.step (.serveLate n (.accountDeleted true) err) = some s')
    (ends : s.calls[n]?.any s.endsSession = true) :
    s'.currentUser = none ∧ s'.window = s.window := by
  obtain ⟨r, er, es⟩ := step_inv st
  subst es
  cases replies_inv er with
  | @serveLate _ _ _ c s' ec _ late =>
    refine ⟨?_, (serveLate_frame late).window⟩
    rw [ec] at ends
    cases c with
    | deleteUser user k =>
      rw [Session.serveLate] at late
      split at late
      case isFalse => cases late
      case isTrue =>
        cases late
        have mine : s.currentUser.map User.uid = some user.uid := of_decide_eq_true ends
        change (Session.signOutByForce _ user.uid).currentUser = none
        rw [signOutByForce]
        exact if_pos mine ▸ rfl
    | _ => cases ends

/-- After any other step screen and session are out of step, and nothing that is under way will put
    them right. -/
theorem outOfStep (num : s.Numbered) (st : s.step e = some s') (drop : e ≠ .dropUser)
    (no : ¬ KeepsInStep s e) : ¬ s'.InStep := by
  obtain ⟨_, guard⟩ := Classical.not_imp.1 no
  intro inv
  have back := arriving_back num st
  cases e with
  | dropUser => exact absurd rfl drop
  | logOutButtonTapped thrown =>
    cases thrown with
    | none => exact absurd rfl guard
    | some err =>
      obtain ⟨signed, wait⟩ := not_or.1 fun h => guard (decide_eq_true h)
      have signed' : s'.currentUser ≠ none := by
        have signs := signs_step st
        generalize s'.accounts = accounts at signs
        generalize s'.currentUser = u at signs
        cases signs with
        | same => exact signed
      rcases inv.user signed' with tabs | arriving
      · rw [logOut_window st] at tabs
        cases tabs.2
      · rcases back arriving with ⟨n, c, ec, h, _⟩ | ⟨_, _, _, _, _, ee, _⟩
        · exact wait (pending_iff.2 ⟨n, c, ec, h⟩)
        · cases ee
  | serve n a =>
    cases a with
    | error err => exact absurd rfl guard
    | ok x =>
      rcases not_and_or.1 fun h => guard (decide_eq_true h) with h | h
      · obtain ⟨creates, h⟩ := Classical.not_imp.1 h
        obtain ⟨elsewhere, wait⟩ := not_or.1 h
        rcases inv.user (createUser_served st creates) with tabs | arriving
        · rw [serve_window st] at tabs
          exact elsewhere tabs
        · rcases back arriving with ⟨n, c, ec, h, _⟩ | ⟨_, _, _, _, _, ee, call⟩
          · exact wait (pending_iff.2 ⟨n, c, ec, h⟩)
          · cases ee
            rw [call] at creates
            cases creates
      · obtain ⟨ends, h⟩ := Classical.not_imp.1 h
        obtain ⟨shown, h⟩ := not_or.1 h
        obtain ⟨wait, elsewhere⟩ := not_or.1 h
        have top := congrArg Window.tabBars (serve_window st)
        rw [← serve_window st] at shown
        rcases inv.tabs shown with signed | leaving
        · exact signed (endsSession_served st ends)
        · rcases leaving_back num st top leaving with ⟨n, c, ec, h, _⟩ | ⟨_, _, ee, asked⟩
          · exact wait (pending_iff.2 ⟨n, c, ec, h⟩)
          · cases ee
            exact elsewhere asked
  | serveLate n late err =>
    cases late with
    | accountCreated => exact absurd rfl guard
    | accountDeleted signedOut =>
      cases signedOut with
      | false => exact absurd rfl guard
      | true =>
        obtain ⟨ends, h⟩ := Classical.not_imp.1 fun h => guard (decide_eq_true h)
        obtain ⟨shown, wait⟩ := not_or.1 h
        obtain ⟨nobody, ew⟩ := endsSession_servedLate st ends
        rw [← ew] at shown
        rcases inv.tabs shown with signed | leaving
        · exact signed nobody
        · rcases leaving_back num st (congrArg Window.tabBars ew) leaving with
            ⟨n, c, ec, h, _⟩ | ⟨_, _, ee, _⟩
          · exact wait (pending_iff.2 ⟨n, c, ec, h⟩)
          · cases ee
  | deliver n =>
    obtain ⟨leaves, h⟩ := Classical.not_imp.1 fun h => guard (decide_eq_true h)
    obtain ⟨c, ec, leaves⟩ := (Option.any_eq_true _ _).1 leaves
    have ew := leaves_window st ec leaves
    have user := deliver_user st
    split at h
    case isTrue nobody =>
      obtain ⟨shown, h⟩ := not_or.1 h
      obtain ⟨elsewhere, others⟩ := not_or.1 h
      have shown' : ¬ s'.window.ShowsLogIn := by
        rw [ew]
        rintro (none | ⟨profile, _⟩)
        · exact shown (.inl none)
        · exact elsewhere profile
      rcases inv.tabs shown' with signed | leaving
      · exact signed (user.trans nobody)
      · have top : s'.window.tabBars = s.window.tabBars := by rw [ew]
        rcases leaving_back num st top leaving with ⟨m, c, em, h, ne⟩ | ⟨_, _, ee, _⟩
        · refine others (pending_iff.2 ⟨m, c, em, ?_⟩)
          change c.leaves _ (Function.update s.status n .lost m) = true
          rw [Function.update_of_ne fun h => ne (by rw [h])]
          exact h
        · cases ee
    case isFalse signed =>
      rcases inv.user (user ▸ signed) with tabs | arriving
      · rw [ew] at tabs
        cases tabs.2
      · rcases back arriving with ⟨m, c, em, h', _⟩ | ⟨_, _, _, _, _, ee, _⟩
        · exact h (pending_iff.2 ⟨m, c, em, h'⟩)
        · cases ee
  | deliverCovered n =>
    obtain ⟨signed, h⟩ := not_or.1 fun h => guard (decide_eq_true h)
    obtain ⟨elsewhere, others⟩ := not_or.1 h
    have same : s'.currentUser = s.currentUser ∧ s'.window = s.window := by
      obtain ⟨r, er, es⟩ := step_inv st
      subst es
      cases replies_inv er with
      | deliverCovered => exact ⟨rfl, rfl⟩
    rcases inv.user (same.1 ▸ signed) with tabs | arriving
    · rw [same.2] at tabs
      exact elsewhere tabs
    · rcases back arriving with ⟨m, c, em, h, ne⟩ | ⟨_, _, _, _, _, ee, _⟩
      · refine others (pending_iff.2 ⟨m, c, em, ?_⟩)
        change c.arrives (Function.update s.status n .lost m) = true
        rw [Function.update_of_ne fun h => ne (by rw [h])]
        exact h
      · cases ee
  | _ => exact absurd rfl guard

/-! ## Runs -/

/-- Before anything has happened nobody is signed in and Log In is shown. -/
lemma inStep_first {accounts firestore} : (first accounts firestore).InStep :=
  ⟨fun tabs => absurd (.inl rfl) tabs, fun signed => absurd rfl signed⟩

/-- In a running process that a run of such steps leads to, screen and session are in step. -/
lemma inStep_run {accounts firestore} {t : Session} {es}
    (rn : Run (Guarded (Fires Session.step) KeepsInStep) (first accounts firestore) es t) :
    t.trap = none → t.InStep := by
  refine rn.invariant_guarded (P := fun t => t.trap = none → t.InStep) ?_ fun _ => inStep_first
  intro s e t st keeps inv run
  exact InStep.step st keeps run inv

/-- A session in step whose requests are all done with. -/
lemma InStep.agrees (inv : s.InStep) (quiet : s.Quiet) :
    ¬ s.window.ShowsLogIn ↔ s.currentUser ≠ none := by
  constructor
  · intro tabs
    exact (inv.tabs tabs).resolve_right quiet.not_leaving
  · intro signed
    exact ((inv.user signed).resolve_right quiet.not_arriving).not_logIn

/-- What a launch shows. -/
lemma launch_shows {now} : ¬ (s.launch now).window.ShowsLogIn ↔ s.currentUser ≠ none := by
  rcases @launch_window s now with ⟨nobody, ew⟩ | ⟨signed, loaded, ew⟩
  · rw [ew]
    exact ⟨fun tabs => absurd (.inl rfl) tabs, fun signed => absurd nobody signed⟩
  · rw [ew]
    refine ⟨fun _ => signed, fun _ => Window.ShowsTabs.not_logIn ⟨Nat.succ_ne_zero _, rfl⟩⟩

/-- A session whose requests are all done with. -/
lemma quiet_of_delivered {t : Session} {a : Nat → Answer}
    (done : ∀ n < t.calls.length, t.status n = .delivered (a n)) : t.Quiet := by
  intro n c at_n
  exact .inr ⟨a n, done n (List.getElem?_eq_some_iff.1 at_n).1⟩

end Session

end Lumiere

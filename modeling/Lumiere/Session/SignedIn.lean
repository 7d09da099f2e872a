import Lumiere.Session.Agreement

/-!
# Forced unwraps of the current user

The handlers unwrap `Auth.auth().currentUser` and its email by force. `unwraps` says which events
evaluate such an unwrap: in a running process exactly these trap without a user (`nil_step`). A user
is there as long as no sign-out comes while the tab screens, the image picker or the completion
handler of a request still need one (`KeepsUser`, `unwraps_signedIn`); after any other step the
process can be brought to a trap (`canTrap_of_not_keeps`).
-/

namespace Lumiere
open Firestore
open Transition (Run Fires Guarded guardedStep)

/-- The handler of the touch unwraps the current user. -/
def Tabs.unwraps (t : Tabs) (k : Touch) : Bool :=
  match t.form, k with
  | none, .deleteWatched row => row < t.watchedList.length
  | none, .deleteWish row => row < t.wishlist.length
  | some (.addWatched c), .addWatchedButtonTapped _ _ => validateTitle c.titleTextField = none
  | some (.editWatched c), .editWatchedButtonTapped => validateTitle c.titleTextField = none
  | some (.addWish title), .addWishButtonTapped _ => validateTitle title = none
  | _, _ => false

/-- The completion handler unwraps the current user. -/
def Call.unwraps : Call → Status → Bool
  | .signIn _ _ _, .answered (.ok _) => true
  | .downloadURL _ _, .answered (.ok _) => true
  | _, _ => false

/-- The request has not failed, and its completion handler has yet to run. -/
def Status.awaits : Status → Bool
  | .inFlight => true
  | .answered (.ok _) => true
  | _ => false

/-- The completion handler of the request, or of the one it leads to, will unwrap the current
    user. -/
def Call.needsUser (c : Call) (st : Status) : Bool :=
  c.arrives st || c.uploads && st.awaits

/-- The tab screens are shown, or the image picker that was presented over them. -/
def Window.InUse (w : Window) : Prop :=
  ¬ w.ShowsLogIn ∨ w.sheet = some .imagePicker

instance (w : Window) : Decidable w.InUse :=
  inferInstanceAs (Decidable (_ ∨ _))

namespace Session

/-- The event evaluates a forced unwrap of the current user. -/
def unwraps (s : Session) : Event → Bool
  | .touch k => (s.screen = .tabs ∧ k.tab.all (· = s.window.selectedTab)) ∧ s.tabs.unwraps k
  | .selectTab tab => s.OnTabs ∧ tab ∉ s.window.loaded
  | .deleteAccountButtonTapped => s.OnProfile
  | .deliver n => s.calls[n]?.any fun c => c.unwraps (s.status n)
  -- the scene loads the tab screens
  | .launch _ => s.currentUser ≠ none
  | _ => false

/-- Some request under way needs a user. -/
def NeedsUser (s : Session) : Prop :=
  s.pending Call.needsUser = true

instance (s : Session) : Decidable s.NeedsUser :=
  inferInstanceAs (Decidable (_ = true))

/-- The event is a tap on the tab screens or in the image picker, Log Out apart. -/
def Event.onTabs : Event → Bool
  | .touch _ => true
  | .selectTab _ => true
  | .uploadButtonTapped => true
  | .deleteAccountButtonTapped => true
  | .didFinishPicking _ _ => true
  | _ => false

/-- The events after which no handler unwraps nil. -/
def keepsUser (s : Session) : Event → Bool
  | .dropUser => s.currentUser = none ∨ ¬ s.window.InUse ∧ ¬ s.NeedsUser
  | .logOutButtonTapped none => ¬ s.NeedsUser
  | .serve n (.ok _) =>
    (s.calls[n]?.any s.endsSession) →
      ¬ s.NeedsUser ∧
        (s.window.InUse → s.OnProfile ∧ s.calls[n]?.any (Call.askedOn s.window.tabBars))
  | .serveLate n (.accountDeleted true) _ =>
    (s.calls[n]?.any s.endsSession) → ¬ s.NeedsUser ∧ ¬ s.window.InUse
  | e => e.onTabs → s.currentUser ≠ none ∨ ¬ s.Leaving

/-- In a running process, Auth drops a user on its own only when neither the tab screens nor the
    image picker are there and no request under way needs a user. `signOut` succeeds only when no
    such request is under way. The deletion of the current user's account succeeds only when no such
    request is under way, and, with the tab screens or the image picker there, only on the Profile
    screen it was asked for on; it fails after Auth has signed the user out only where a user may be
    dropped. And while a deletion that has left nobody signed in waits for its completion handler,
    nothing is tapped on the tab screens but Log Out. -/
def KeepsUser (s : Session) (e : Event) : Prop :=
  s.trap = none → s.keepsUser e = true

instance (s : Session) (e : Event) : Decidable (KeepsUser s e) :=
  inferInstanceAs (Decidable (_ → _))

/-- Whatever can unwrap the current user finds one, until a deletion of the account is delivered to
    the Profile screen on top. -/
structure Attended (s : Session) : Prop where
  tabs : s.window.InUse → s.currentUser ≠ none ∨ s.Leaving ∧ s.OnProfile
  needs : s.NeedsUser → s.currentUser ≠ none

end Session

/-! ## What unwraps -/

/-- A path traps on nil only without a user. -/
lemma PathTrap.nil {user} (h : PathTrap user .unexpectedlyFoundNil) : user = none := by
  rcases h with ⟨none, _⟩ | ⟨_, e⟩
  · exact none
  · cases e

/-- Without a user no document of it has a path. -/
lemma userDocumentIn_none {name id} : userDocumentIn none name id = .error .unexpectedlyFoundNil :=
  rfl

/-- A form unwraps the current user once its title is valid. -/
lemma pressed_nil {β : Type} {title user name id data} {f : Pressed → β} :
    (press title (userDocumentIn user name id) data).map f = .error .unexpectedlyFoundNil ↔
      validateTitle title = none ∧ user = none := by
  constructor
  · intro e
    obtain ⟨valid, e⟩ := press_error (except_map_error e)
    exact ⟨valid, (userDocumentIn_error e).nil⟩
  · rintro ⟨valid, none⟩
    rw [press, valid, none, userDocumentIn_none]
    rfl

/-- A deletion unwraps the current user once the row is in the list. -/
lemma deleteRow_nil {α β : Type} {list : List α} {row user name} {id : α → String}
    {f : Write → β} :
    ((atRow list row).bind fun a =>
      ((userDocumentIn user name (id a)).map DocumentReference.delete).map f) =
        .error .unexpectedlyFoundNil ↔ row < list.length ∧ user = none := by
  constructor
  · intro e
    rcases except_bind_error e with e | ⟨a, shown, e⟩
    · cases atRow_error e
    · refine ⟨(List.getElem?_eq_some_iff.1 (atRow_inv shown)).1, ?_⟩
      exact (userDocumentIn_error (except_map_error (except_map_error e))).nil
  · rintro ⟨lt, none⟩
    rw [atRow_some (List.getElem?_eq_getElem lt), none]
    rfl

/-- Without a user a touch traps for it exactly when its handler unwraps the current user. -/
lemma Tabs.touch_nil {user} {t : Tabs} {k} :
    t.touch user k = some (.error .unexpectedlyFoundNil) ↔ t.unwraps k = true ∧ user = none := by
  rw [Tabs.touch.eq_def, Tabs.unwraps.eq_def]
  split
  case h_3 row form | h_6 row form =>
    rw [Option.some_inj, form, decide_eq_true_iff]
    exact deleteRow_nil
  case h_10 c letters now form | h_11 c form | h_12 title letters form =>
    rw [Option.some_inj, form, decide_eq_true_iff]
    exact pressed_nil
  case h_2 row now form | h_5 row now form =>
    rw [form]
    constructor
    · intro e
      cases atRow_error (except_map_error (Option.some.inj e))
    · rintro ⟨no, _⟩
      cases no
  case h_1 form | h_4 form | h_7 form | h_8 form | h_9 form | h_13 form =>
    rw [form]
    constructor
    · intro e
      cases e
    · simp
  case h_14 plus row delete wish leading deleteWish knob dial type add edit addWish cancel =>
    constructor
    · intro e
      cases e
    · rintro ⟨yes, _⟩
      split at yes
      case h_1 form => exact (delete _ form rfl).elim
      case h_2 form => exact (deleteWish _ form rfl).elim
      case h_3 form => exact (add _ _ _ form rfl).elim
      case h_4 form => exact (edit _ form rfl).elim
      case h_5 form => exact (addWish _ _ form rfl).elim
      case h_6 => cases yes

namespace Session

variable {s s' : Session} {e : Event}

/-- Without a user there is no email. -/
lemma email_none : s.email = none ↔ s.currentUser = none :=
  Option.map_eq_none_iff

/-- Why a screen has no path to listen to. -/
lemma listenerPath_error {tab trap} (e : s.listenerPath tab = .error trap) :
    PathTrap s.email trap := by
  cases tab with
  | watched | wishlist => exact userCollection_error (except_map_error e)
  | profile => exact userDocument_error (except_map_error e)

/-- The load of a screen unwraps the current user. -/
lemma load_nil {tab} (run : s.trap = none) :
    (s.load tab).trap = some .unexpectedlyFoundNil ↔ s.currentUser = none := by
  constructor
  · intro nil
    rw [load] at nil
    split at nil
    case h_1 trap path =>
      cases nil
      exact email_none.1 (listenerPath_error path).nil
    case h_2 => cases run.symm.trans nil
  · intro none
    rw [load_none none]
    rfl

/-- A new tab bar unwraps the current user. -/
lemma pushTabBar_nil (run : s.trap = none) :
    s.pushTabBar.trap = some .unexpectedlyFoundNil ↔ s.currentUser = none :=
  load_nil run

/-- The completion handlers that unwrap the current user. -/
lemma deliver_nil {n c a} (run : s.trap = none) :
    (s.deliver n c a).session.trap = some .unexpectedlyFoundNil ↔
      c.unwraps (.answered a) = true ∧ s.currentUser = none := by
  have alive {t : Session} {p : Prop} (same : t.trap = s.trap) :
      t.trap = some .unexpectedlyFoundNil ↔ false = true ∧ p := by
    simp [same, run]
  cases c with
  | signIn email password k =>
    cases a with
    | error err => exact alive rfl
    | ok x => exact (pushTabBar_nil run).trans (by simp [Call.unwraps])
  | downloadURL imageID upload =>
    cases a with
    | error err => exact alive rfl
    | ok url =>
      rw [Session.deliver]
      split
      case h_1 trap e =>
        constructor
        · intro nil
          cases nil
          exact ⟨rfl, email_none.1 (userDocument_error (except_map_error e)).nil⟩
        · rintro ⟨_, none⟩
          rw [email_none.2 none] at e
          cases e
          rfl
      case h_2 w e =>
        constructor
        · intro nil
          cases run.symm.trans nil
        · rintro ⟨_, none⟩
          rw [email_none.2 none] at e
          cases e
  | createUser form email password =>
    cases a with
    | error err => exact alive rfl
    | ok x =>
      rw [Session.deliver]
      split
      case h_1 trap e =>
        constructor
        · intro nil
          cases nil
          obtain ⟨_, other⟩ := raising_error e
          cases other
        · rintro ⟨no, _⟩
          cases no
      case h_2 => exact alive rfl
  | deleteUserDocument d => exact alive rfl
  | setUserDocument | deleteUser | putData => cases a <;> exact alive rfl

/-- The scene loads the tab screens only when there is a user. -/
lemma launch_trap {now} : (s.launch now).trap ≠ some .unexpectedlyFoundNil := by
  intro nil
  rw [launch] at nil
  split at nil
  case isTrue => cases nil
  case isFalse signed =>
    have none := (pushTabBar_nil rfl).1 nil
    exact signed none

/-- A launch does not unwrap nil. -/
lemma launch_step_notNil {now} (st : s.step (.launch now) = some s') :
    s'.trap ≠ some .unexpectedlyFoundNil := by
  obtain ⟨r, er, es⟩ := step_inv st
  subst es
  cases replies_inv er with
  | launch => exact launch_trap

/-- The selection of a tab unwraps the current user when it loads the screen. -/
lemma selectTab_nil {tab} (run : s.trap = none) :
    (s.selectTab tab).trap = some .unexpectedlyFoundNil ↔
      tab ∉ s.window.loaded ∧ s.currentUser = none := by
  rw [Session.selectTab]
  by_cases loaded : tab ∈ s.window.loaded
  · simp [loaded, run]
  · rw [if_neg loaded]
    refine Iff.trans (load_nil ?_) ⟨fun none => ⟨loaded, none⟩, And.right⟩
    exact run

/-- In a running process, the steps that unwrap nil are those that evaluate a forced unwrap of the
    current user without one. -/
lemma nil_step (run : s.trap = none) (st : s.step e = some s') :
    s'.trap = some .unexpectedlyFoundNil ↔ s.unwraps e = true ∧ s.currentUser = none := by
  obtain ⟨r, er, es⟩ := step_inv st
  subst es
  change r.session.trap = _ ↔ _
  have alive {t : Session} {p : Prop} (same : t.trap = s.trap) :
      t.trap = some .unexpectedlyFoundNil ↔ false = true ∧ p := by
    simp [same, run]
  cases replies_inv er with
  | touchTrapped tabs on et =>
    rw [unwraps, decide_eq_true_iff, and_assoc, ← email_none, ← Tabs.touch_nil]
    simp [quiet, crash, et, tabs, on]
  | touch tabs on et =>
    rw [unwraps, decide_eq_true_iff, and_assoc, ← email_none, ← Tabs.touch_nil]
    simp [run, et]
  | watchedTrapped read =>
    rw [watchedListener_error read]
    simp [crash, quiet, unwraps]
  | wishlistTrapped read =>
    rw [wishlistListener_error read]
    simp [crash, quiet, unwraps]
  | selectTab on =>
    rw [unwraps, decide_eq_true_iff, quiet, selectTab_nil run]
    simp [on]
  | deleteNobody on none =>
    rw [unwraps, decide_eq_true_iff]
    simp [quiet, crash, on, none]
  | deleteTrapped on signed ed =>
    obtain ⟨reason, trap⟩ := raising_error ed
    simp [quiet, crash, trap, signed]
  | deleteAccount _ signed => simp [run, signed]
  | deliver ec ea =>
    rw [unwraps, ec, ea]
    exact deliver_nil run
  | @launch now =>
    have no : (s.launch now).trap ≠ _ := launch_trap
    simp [quiet, no, unwraps]
  | serve _ _ h => exact alive (serve_frame h).2.trap
  | serveLate _ _ late => exact alive (serveLate_frame late).trap
  | _ => exact alive rfl

/-! ## Who needs a user -/

/-- What a request that needs a user looks like. -/
lemma needsUser_inv {c : Call} {st} (h : c.needsUser st = true) :
    c.arrives st = true ∨ c.uploads = true ∧ st.awaits = true := by
  rw [Call.needsUser, Bool.or_eq_true, Bool.and_eq_true] at h
  exact h

/-- A request that has not failed is in flight or has an answer. -/
lemma awaits_inv {st : Status} (h : st.awaits = true) :
    st = .inFlight ∨ ∃ x, st = .answered (.ok x) := by
  rw [Status.awaits.eq_def] at h
  split at h
  case h_1 => exact .inl rfl
  case h_2 x => exact .inr ⟨x, rfl⟩
  case h_3 => cases h

/-- In a quiet session no request needs a user. -/
lemma Quiet.not_needsUser (quiet : s.Quiet) : ¬ s.NeedsUser :=
  quiet.not_pending (fun c => by cases c <;> rfl) (fun c _ => by cases c <;> rfl)

/-- A completion handler that unwraps the current user needs one. -/
lemma needsUser_of_unwraps {c : Call} {st} (h : c.unwraps st = true) : c.needsUser st = true := by
  rw [Call.unwraps.eq_def] at h
  split at h
  case h_1 | h_2 => rfl
  case h_3 => cases h

/-- The success of a log-in signs the user in. -/
lemma signIn_served {n : Nat} {email password k x} (st : s.step (.serve n (.ok x)) = some s')
    (ec : s.calls[n]? = some (.signIn email password k)) : s'.currentUser ≠ none := by
  obtain ⟨c, r, ec', _, er, es⟩ := serve_inv st
  cases ec.symm.trans ec'
  subst es
  rw [Session.serve] at er
  split at er
  case isTrue =>
    cases er
    intro none
    cases none
  case isFalse => cases er

/-- A request that needs a user has needed one before, or its photo has just been picked, or the
    service has just signed the user in. -/
lemma needsUser_step (num : s.Numbered) (st : s.step e = some s') (needs : s'.NeedsUser) :
    (s.NeedsUser ∧ ∀ now, e ≠ .launch now) ∨ (∃ imageID, e = .didFinishPicking imageID true) ∨
      s'.currentUser ≠ none := by
  cases pends_step num st needs with
  | stays call h _ _ living => exact .inl ⟨pending_iff.2 ⟨_, _, call, h⟩, living⟩
  | started started h =>
    cases started with
    | putData => exact .inr (.inl ⟨_, rfl⟩)
    | downloadURL call answer =>
      refine .inl ⟨pending_iff.2 ⟨_, _, call, ?_⟩, fun _ h => by cases h⟩
      rw [answer]
      rfl
    | signIn | createUser | setUserDocument | deleteUserDocument | deleteUser => cases h
  | @served n c a call flying h =>
    rcases needsUser_inv h with arrives | ⟨uploads, _⟩
    · obtain ⟨⟨_, _, _, ec⟩, _, ea⟩ := arrives_inv arrives
      subst ec
      cases ea
      exact .inr (.inr (signIn_served st call))
    · refine .inl ⟨pending_iff.2 ⟨n, c, call, ?_⟩, fun _ h => by cases h⟩
      rw [flying, Call.needsUser, uploads]
      exact Bool.or_true _
  | @servedLate n c late err call _ h => cases c <;> cases h
  | @delivered _ n c a _ h => cases c <;> cases h
  | launched => exact absurd needs (quiet_launch st).not_needsUser

/-! ## Where the tab screens are in use -/

/-- The tab screens are in use while they are seen. -/
lemma inUse_tabs (tabs : s.screen = .tabs) : s.window.InUse :=
  .inl (Window.screen_tabs tabs).1

/-- So is the image picker. -/
lemma inUse_imagePicker (picker : s.screen = .imagePicker) : s.window.InUse :=
  .inr (Window.screen_imagePicker picker)

/-- Nobody uses the tab screens once Log In is pushed on the Profile screen on top. -/
lemma OnProfile.not_inUse (on : s.OnProfile) :
    ¬ ({ s.window with logIn := true } : Window).InUse := by
  rintro (tabs | picker)
  · exact tabs (showsLogIn_push on.2)
  · cases (Window.screen_tabs on.1.1).2.symm.trans picker

/-- What is tapped on the tab screens is in use. -/
lemma inUse_onTabs (st : s.step e = some s') (tap : e.onTabs = true) : s.window.InUse := by
  obtain ⟨r, er, _⟩ := step_inv st
  cases replies_inv er with
  | touchTrapped tabs | touch tabs => exact inUse_tabs tabs
  | selectTab on => exact inUse_tabs on.1
  | uploadButtonTapped on | deleteNobody on | deleteTrapped on | deleteAccount on =>
    exact inUse_tabs on.1.1
  | notCompressed picker | putData picker => exact inUse_imagePicker picker
  | _ => cases tap

/-- A step that pushes nothing leaves the tab screens in use only where they have been. -/
lemma inUse_stays (st : s.step e = some s') (turns : s.turns e = false) (use : s'.window.InUse) :
    s.window.InUse := by
  have moves := moves_step st
  generalize s'.window = w at moves use
  cases moves with
  | stays => exact use
  | selectTab on => exact inUse_tabs on.1
  | presentSignUp =>
    rcases use with tabs | picker
    · exact .inl tabs
    · cases picker
  | uploadButtonTapped on => exact inUse_tabs on.1.1
  | dismiss =>
    rcases use with tabs | picker
    · exact .inl tabs
    · cases picker
  | logOut | launchLogIn | launchTabs => cases turns
  | arrives ec arrives =>
    rw [(not_delivered ec turns).1] at arrives
    cases arrives
  | leaves ec leaves =>
    rw [(not_delivered ec turns).2] at leaves
    cases leaves

/-- A form is presented or dismissed by a touch, or goes with its tab bar. -/
lemma form_step (st : s.step e = some s') (turns : s.turns e = false)
    (tap : e.onTabs = false) : s'.tabs.form = s.tabs.form := by
  obtain ⟨r, er, es⟩ := step_inv st
  subst es
  change r.session.tabs.form = _
  cases replies_inv er with
  | touch | touchTrapped | selectTab => cases tap
  | serve _ _ h =>
    rw [(serve_frame h).2.tabs]
    rfl
  | serveLate _ _ late =>
    rw [quiet, (serveLate_frame late).tabs]
    rfl
  | @deliver n a call ec ea =>
    have quiet := (not_delivered ec turns).1
    rw [ea] at quiet
    cases call with
    | signIn =>
      cases a with
      | error => rfl
      | ok => cases quiet
    | createUser | downloadURL =>
      cases a with
      | error => rfl
      | ok =>
        rw [Session.deliver]
        split <;> rfl
    | deleteUserDocument => cases a <;> rfl
    | setUserDocument | deleteUser | putData => cases a <;> rfl
  | launch => cases turns
  | _ => rfl

/-- The Profile screen stays on top while nothing is tapped and nothing pushed. -/
lemma OnProfile.step (st : s.step e = some s') (turns : s.turns e = false)
    (tap : e.onTabs = false) (on : s.OnProfile) : s'.OnProfile := by
  obtain ⟨shows, sheet⟩ := Window.screen_tabs on.1.1
  have form := (form_step st turns tap).trans on.1.2
  have moves := moves_step st
  generalize ew : s'.window = w at moves
  suffices same : w = s.window by
    refine ⟨⟨?_, form⟩, ?_⟩
    · rw [screen, ew, same]
      exact on.1.1
    · rw [ew, same]
      exact on.2
  cases moves with
  | stays => rfl
  | dismiss => rw [← sheet]
  | selectTab | uploadButtonTapped => cases tap
  | presentSignUp logIn => cases on.1.1.symm.trans logIn
  | logOut | launchLogIn | launchTabs => cases turns
  | arrives ec arrives =>
    rw [(not_delivered ec turns).1] at arrives
    cases arrives
  | leaves ec leaves =>
    rw [(not_delivered ec turns).2] at leaves
    cases leaves

/-! ## Runs -/

/-- What is tapped on the tab screens is tapped by someone who is signed in. -/
lemma Attended.tapped (inv : s.Attended) (guard : s.keepsUser e = true) (tap : e.onTabs = true)
    (use : s.window.InUse) : s.currentUser ≠ none := by
  have late : s.currentUser ≠ none ∨ ¬ s.Leaving := by
    cases e with
    | touch | selectTab | uploadButtonTapped | deleteAccountButtonTapped | didFinishPicking =>
      exact of_decide_eq_true guard tap
    | _ => cases tap
  rcases inv.tabs use with signed | ⟨leaving, _⟩
  · exact signed
  · exact late.resolve_right (not_not.2 leaving)

/-- The taps that unwrap the current user are on the tab screens. -/
lemma onTabs_of_unwraps (unwraps : s.unwraps e = true) :
    e.onTabs = true ∨ (∃ n, e = .deliver n) ∨ ∃ now, e = .launch now := by
  cases e with
  | touch | selectTab | deleteAccountButtonTapped => exact .inl rfl
  | deliver n => exact .inr (.inl ⟨n, rfl⟩)
  | launch now => exact .inr (.inr ⟨now, rfl⟩)
  | _ => cases unwraps

/-- Someone is signed in wherever the current user is unwrapped. -/
lemma Attended.signed (inv : s.trap = none → s.Attended) (keeps : KeepsUser s e)
    (st : s.step e = some s') (unwraps : s.unwraps e = true) : s.currentUser ≠ none := by
  obtain ⟨r, er, _⟩ := step_inv st
  have may := reply_runs er
  rcases onTabs_of_unwraps unwraps with tap | ⟨n, ee⟩ | ⟨now, ee⟩
  · have run : s.trap = none := by
      refine may.resolve_right ?_
      cases e with
      | touch | selectTab | uploadButtonTapped | deleteAccountButtonTapped | didFinishPicking =>
        exact fun h => by cases h
      | _ => cases tap
    exact (inv run).tapped (keeps run) tap (inUse_onTabs st tap)
  · subst ee
    have run : s.trap = none := may.resolve_right (fun h => by cases h)
    obtain ⟨c, ec, h⟩ := (Option.any_eq_true _ _).1 unwraps
    exact (inv run).needs (pending_iff.2 ⟨n, c, ec, needsUser_of_unwraps h⟩)
  · subst ee
    exact of_decide_eq_true unwraps

/-- What becomes of the user in a step that keeps one where one is needed. -/
inductive Parts (s s' : Session) (e : Event) : Prop where
  | same : s'.currentUser = s.currentUser → Parts s s' e
  | signs : s'.currentUser ≠ none → Parts s s' e
  | logOut : e = .logOutButtonTapped none → Parts s s' e
  | drops : e = .dropUser → Parts s s' e
  | ends {n x} : e = .serve n (.ok x) → s.calls[n]?.any s.endsSession = true → Parts s s' e
  | endsLate {n err} : e = .serveLate n (.accountDeleted true) err →
    s.calls[n]?.any s.endsSession = true → Parts s s' e

/-- Every step is one of these. -/
lemma parts_step (st : s.step e = some s') : Parts s s' e := by
  have signs := signs_step st
  generalize s'.accounts = accounts at signs
  generalize eu : s'.currentUser = u at signs
  cases signs with
  | same | createdLate => exact .same eu
  | createUser | signIn => exact .signs (by rw [eu]; exact fun h => by cases h)
  | @deleteUser n user k x ec =>
    rcases s.signOutByForce_user user.uid with ⟨_, mine⟩ | ⟨same, _⟩
    · exact .ends rfl (any_of_call ec (decide_eq_true mine))
    · exact .same (eu.trans same)
  | @deletedLate n user k signedOut err ec =>
    cases signedOut with
    | false => exact .same eu
    | true =>
      rw [if_pos rfl] at eu
      rcases s.signOutByForce_user user.uid with ⟨_, mine⟩ | ⟨same, _⟩
      · exact .endsLate rfl (any_of_call ec (decide_eq_true mine))
      · exact .same (eu.trans same)
  | logOut => exact .logOut rfl
  | dropUser => exact .drops rfl

/-- A deletion that waits on the Profile screen goes on waiting there while nothing is pushed. -/
lemma Attended.waits (st : s.step e = some s') (guard : s.keepsUser e = true)
    (turns : s.turns e = false) (none : s.currentUser = none) (leaving : s.Leaving)
    (on : s.OnProfile) : s'.Leaving ∧ s'.OnProfile := by
  have top := (keeps_step st turns).tabBars
  refine ⟨leaving.step st turns top, ?_⟩
  cases tap : e.onTabs with
  | false => exact on.step st turns tap
  | true =>
    have late : s.currentUser ≠ Option.none ∨ ¬ s.Leaving := by
      cases e with
      | touch | selectTab | uploadButtonTapped | deleteAccountButtonTapped | didFinishPicking =>
        exact of_decide_eq_true guard tap
      | _ => cases tap
    rcases late with signed | no
    · exact absurd none signed
    · exact absurd leaving no

/-- A step that pushes nothing leaves the tab screens to someone who is signed in, or to a deletion
    that waits on the Profile screen. -/
lemma Attended.stays (st : s.step e = some s') (guard : s.keepsUser e = true)
    (turns : s.turns e = false) (inv : s.Attended) (use' : s'.window.InUse) :
    s'.currentUser ≠ none ∨ s'.Leaving ∧ s'.OnProfile := by
  have use := inUse_stays st turns use'
  have nobody (none : s.currentUser = none) : s'.Leaving ∧ s'.OnProfile := by
    rcases inv.tabs use with signed | ⟨leaving, on⟩
    · exact absurd none signed
    · exact Attended.waits st guard turns none leaving on
  cases parts_step st with
  | same same =>
    by_cases none : s.currentUser = none
    · exact .inr (nobody none)
    · exact .inl (same ▸ none)
  | signs signed => exact .inl signed
  | logOut ee =>
    subst ee
    cases turns
  | drops ee =>
    subst ee
    rcases of_decide_eq_true guard with none | ⟨no, _⟩
    · exact .inr (nobody none)
    · exact absurd use no
  | @ends n x ee ends =>
    subst ee
    obtain ⟨on, asked⟩ := (of_decide_eq_true guard ends).2 use
    obtain ⟨c, ec, asked⟩ := (Option.any_eq_true _ _).1 asked
    exact .inr ⟨leaving_serve st ec asked (keeps_step st turns).tabBars, on.step st turns rfl⟩
  | endsLate ee ends =>
    subst ee
    exact absurd use (of_decide_eq_true guard ends).2

/-- When nobody is signed in after a step, no request under way needs a user. -/
lemma Attended.needs_step (num : s.Numbered) (inv : s.trap = none → s.Attended)
    (keeps : KeepsUser s e) (st : s.step e = some s') (run : s'.trap = none)
    (none : s'.currentUser = none) : ¬ s'.NeedsUser := by
  intro needs
  rcases needsUser_step num st needs with ⟨before, living⟩ | ⟨imageID, ee⟩ | signed
  · have alive : s.trap = Option.none := by
      rcases alive_step st run with alive | ⟨now, ee⟩
      · exact alive
      · exact absurd ee (living now)
    have guard := keeps alive
    have signed := (inv alive).needs before
    cases parts_step st with
    | same same => exact signed (same ▸ none)
    | signs signed' => exact signed' none
    | logOut ee =>
      subst ee
      exact of_decide_eq_true guard before
    | drops ee =>
      subst ee
      rcases of_decide_eq_true guard with nobody | ⟨_, no⟩
      · exact signed nobody
      · exact no before
    | ends ee ends =>
      subst ee
      exact (of_decide_eq_true guard ends).1 before
    | endsLate ee ends =>
      subst ee
      exact (of_decide_eq_true guard ends).1 before
  · subst ee
    have alive : s.trap = Option.none := by
      rcases alive_step st run with alive | ⟨now, ee⟩
      · exact alive
      · cases ee
    have signed := (inv alive).tapped (keeps alive) rfl (inUse_onTabs st rfl)
    cases parts_step st with
    | same same => exact signed (same ▸ none)
    | signs signed' => exact signed' none
    | logOut ee | drops ee | ends ee | endsLate ee => cases ee
  · exact signed none

/-- A launch shows the tab screens to someone who is signed in, and no image picker. -/
lemma launch_attended {now} (st : s.step (.launch now) = some s') (use : s'.window.InUse) :
    s'.currentUser ≠ none := by
  rw [launch_user st]
  have moves := moves_step st
  generalize s'.window = w at moves use
  cases moves with
  | stays turns | dismiss turns => cases turns
  | launchLogIn =>
    rcases use with tabs | picker
    · exact absurd (.inl rfl) tabs
    · cases picker
  | launchTabs signed => exact signed

/-- A step that keeps the user where one is needed. -/
lemma Attended.step (num : s.Numbered) (st : s.step e = some s') (keeps : KeepsUser s e)
    (run : s'.trap = none) (inv : s.trap = none → s.Attended) : s'.Attended := by
  refine ⟨?_, ?_⟩
  · intro use
    rcases alive_step st run with alive | ⟨now, ee⟩
    · have guard := keeps alive
      have inv := inv alive
      have moves := moves_step st
      generalize ew : s'.window = w at moves
      cases moves with
      | stays turns | dismiss turns => exact inv.stays st guard turns use
      | selectTab | presentSignUp | uploadButtonTapped => exact inv.stays st guard rfl use
      | logOut on =>
        rw [ew] at use
        exact absurd use on.not_inUse
      | arrives ec arrives => exact .inl (arrives_signed st ec arrives run)
      | leaves ec leaves =>
        rw [deliver_user st]
        rw [ew] at use
        have before : s.window.InUse := by
          rcases use with tabs | picker
          · refine .inl fun shows => tabs ?_
            exact shows.imp id fun h => ⟨h.1, rfl⟩
          · exact .inr picker
        rcases inv.tabs before with signed | ⟨_, on⟩
        · exact .inl signed
        · exact absurd use on.not_inUse
      | launchLogIn | launchTabs => exact .inl (launch_attended st use)
    · subst ee
      exact .inl (launch_attended st use)
  · intro needs none
    exact Attended.needs_step num inv keeps st run none needs

/-- Nobody uses anything before anything has happened. -/
lemma attended_first {accounts firestore} : (first accounts firestore).Attended := by
  refine ⟨?_, ?_⟩
  · rintro (tabs | picker)
    · exact absurd (.inl rfl) tabs
    · cases picker
  · intro needs
    obtain ⟨n, c, ec, _⟩ := pending_iff.1 needs
    cases ec

/-- In a running process that a run of such steps leads to, the user is where one is needed. -/
lemma attended_run {accounts firestore} {t : Session} {es}
    (rn : Run (Guarded (Fires Session.step) KeepsUser) (first accounts firestore) es t) :
    t.Numbered ∧ (t.trap = none → t.Attended) := by
  refine rn.invariant_guarded (P := fun t => t.Numbered ∧ (t.trap = none → t.Attended)) ?_
    ⟨numbered_run fresh_first .nil, fun _ => attended_first⟩
  intro s e t st keeps inv
  exact ⟨inv.1.step st, fun run => Attended.step inv.1 st keeps run inv.2⟩

/-- It never traps for a missing user. -/
lemma notNil_run {accounts firestore} {t : Session} {es}
    (rn : Run (Guarded (Fires Session.step) KeepsUser) (first accounts firestore) es t) :
    t.trap ≠ some .unexpectedlyFoundNil := by
  refine rn.history (P := fun _ t => t.trap ≠ some .unexpectedlyFoundNil) ?_ ?_
  · intro h
    cases h
  · intro es t e u rn st no nil
    obtain ⟨_, inv⟩ := attended_run rn
    rcases trap_step st.1 with run | same | ⟨now, eu⟩
    · obtain ⟨unwraps, none⟩ := (nil_step run st.1).1 nil
      exact Attended.signed inv st.2 st.1 unwraps none
    · exact no (same ▸ nil)
    · subst eu
      exact launch_step_notNil st.1 nil

/-! ## Any other step -/

/-- The process can be brought to a trap for a missing user. -/
def CanTrap (s : Session) : Prop :=
  ∃ es t, Run (Fires step) s es t ∧ t.trap = some .unexpectedlyFoundNil

/-- What a step leads to can be reached. -/
lemma CanTrap.cons (st : s.step e = some s') (can : s'.CanTrap) : s.CanTrap := by
  obtain ⟨es, t, rn, nil⟩ := can
  exact ⟨e :: es, t, .cons st rn, nil⟩

/-- A forced unwrap without a user traps. -/
lemma canTrap_unwraps (run : s.trap = none) (none : s.currentUser = none)
    (st : s.step e = some s') (unwraps : s.unwraps e = true) : s'.CanTrap :=
  ⟨[], s', .nil, (nil_step run st).2 ⟨unwraps, none⟩⟩

/-- A running process handles what its handlers accept. -/
lemma step_fires {r} (run : s.trap = none) (h : s.handle e = some r) :
    s.step e = some (s.applyReply r) := by
  rw [step, reply, if_pos (.inl run), h]
  rfl

/-- The delivery of an answer. -/
lemma deliver_fires {n : Nat} {c a} (run : s.trap = none) (ec : s.calls[n]? = some c)
    (ea : s.status n = .answered a) :
    s.step (.deliver n) = some (s.applyReply ((s.mark n (.delivered a)).deliver n c a)) := by
  refine step_fires run ?_
  rw [handle, ec, ea]

/-- The services may answer an upload with success. -/
lemma serve_upload {n : Nat} {c} (run : s.trap = none) (ec : s.calls[n]? = some c)
    (uploads : c.uploads = true) (flying : s.status n = .inFlight) :
    s.step (.serve n (.ok "")) = some (s.applyReply (s.mark n (.answered (.ok ""))).quiet) := by
  refine step_fires run ?_
  rw [handle, ec, flying]
  cases c with
  | putData | downloadURL => rfl
  | _ => cases uploads

/-- A touch of the tab that is selected, or of a form. -/
lemma touch_fires {k r} (run : s.trap = none) (tabs : s.screen = .tabs)
    (on : k.tab.all (· = s.window.selectedTab) = true)
    (et : s.tabs.touch s.email k = some (.ok r)) :
    s.step (.touch k) = some (s.applyReply
      ⟨{ s with tabs := r.tabs, alerts := s.alerts ++ r.alert.toList }, r.write.toList, []⟩) := by
  refine step_fires run ?_
  rw [handle, if_pos ⟨tabs, on⟩, et]

/-- A download URL that has arrived can be written without a user. -/
lemma canTrap_answeredURL {n : Nat} {imageID upload x} (run : s.trap = none)
    (none : s.currentUser = none) (ec : s.calls[n]? = some (.downloadURL imageID upload))
    (ea : s.status n = .answered (.ok x)) : s.CanTrap := by
  have st := deliver_fires run ec ea
  refine .cons st (canTrap_unwraps run none st ?_)
  rw [unwraps, ec, ea]
  rfl

/-- So can one that has not failed. -/
lemma canTrap_url {n : Nat} {imageID upload} (run : s.trap = none) (none : s.currentUser = none)
    (ec : s.calls[n]? = some (.downloadURL imageID upload))
    (awaits : (s.status n).awaits = true) : s.CanTrap := by
  rcases awaits_inv awaits with flying | ⟨x, ea⟩
  · have st := serve_upload run ec rfl flying
    exact .cons st (canTrap_answeredURL run none (calls_step st ec) (serve_status st))
  · exact canTrap_answeredURL run none ec ea

/-- An upload that has succeeded asks for a download URL. -/
lemma canTrap_answeredPut {n : Nat} {imageID x} (num : s.Numbered) (run : s.trap = none)
    (none : s.currentUser = none) (ec : s.calls[n]? = some (.putData imageID))
    (ea : s.status n = .answered (.ok x)) : s.CanTrap := by
  have st := deliver_fires run ec ea
  refine .cons st (canTrap_url run none (deliver_putData st ec ea) ?_)
  rw [num.inFlight st le_rfl]
  rfl

/-- The completion handlers of a request that needs a user can run without one. -/
lemma canTrap_needsUser (num : s.Numbered) (run : s.trap = none) (none : s.currentUser = none)
    (needs : s.NeedsUser) : s.CanTrap := by
  obtain ⟨n, c, ec, h⟩ := pending_iff.1 needs
  rcases needsUser_inv h with arrives | ⟨uploads, awaits⟩
  · obtain ⟨⟨_, _, _, call⟩, _, answer⟩ := arrives_inv arrives
    subst call
    have st := deliver_fires run ec answer
    refine .cons st (canTrap_unwraps run none st ?_)
    rw [unwraps, ec, answer]
    rfl
  · cases c with
    | downloadURL => exact canTrap_url run none ec awaits
    | putData imageID =>
      rcases awaits_inv awaits with flying | ⟨x, answer⟩
      · have st := serve_upload run ec rfl flying
        exact .cons st
          (canTrap_answeredPut (num.step st) run none (calls_step st ec) (serve_status st))
      · exact canTrap_answeredPut num run none ec answer
    | _ => cases uploads

/-- A wish with a title can be committed without a user. -/
lemma canTrap_addWish (run : s.trap = none) (none : s.currentUser = none)
    (tabs : s.screen = .tabs) (form : s.tabs.form = some (.addWish "Up")) : s.CanTrap := by
  have title : validateTitle "Up" = Option.none := by decide
  let k : Touch := .addWishButtonTapped fun _ => ⟨0, by decide⟩
  have unwraps : s.tabs.unwraps k = true := by
    rw [Tabs.unwraps.eq_def, form]
    exact decide_eq_true title
  have nil := Tabs.touch_nil.2 ⟨unwraps, email_none.2 none⟩
  have st : s.step (.touch k) = some (s.applyReply (s.crash .unexpectedlyFoundNil).quiet) := by
    refine step_fires run ?_
    rw [handle, if_pos ⟨tabs, rfl⟩, nil]
  exact .cons st ⟨[], _, .nil, rfl⟩

/-- A title can be typed. -/
lemma canTrap_typeWish {title} (run : s.trap = none) (none : s.currentUser = none)
    (tabs : s.screen = .tabs) (form : s.tabs.form = some (.addWish title)) : s.CanTrap := by
  have type : s.tabs.touch s.email (.typeWish "Up") =
      some (.ok (.quiet { s.tabs with form := some (.addWish "Up") })) := by
    rw [Tabs.touch.eq_def, form]
  exact .cons (touch_fires run tabs rfl type) (canTrap_addWish run none tabs rfl)

/-- A wish can be added without a user. -/
lemma canTrap_wish (run : s.trap = none) (none : s.currentUser = none) (tabs : s.screen = .tabs)
    (wishlist : s.window.selectedTab = .wishlist) (form : s.tabs.form = Option.none) :
    s.CanTrap := by
  have present : s.tabs.touch s.email .presentAddWish =
      some (.ok (.quiet { s.tabs with form := some (.addWish "") })) := by
    rw [Tabs.touch.eq_def, form]
  have on : Touch.presentAddWish.tab.all (· = s.window.selectedTab) = true :=
    decide_eq_true wishlist.symm
  exact .cons (touch_fires run tabs on present) (canTrap_typeWish run none tabs rfl)

/-- The Wishlist screen can be reached without a user. -/
lemma canTrap_lists (run : s.trap = none) (none : s.currentUser = none) (on : s.OnTabs) :
    s.CanTrap := by
  have st : s.step (.selectTab .wishlist) = some (s.applyReply (s.selectTab .wishlist).quiet) := by
    refine step_fires run ?_
    rw [handle, if_pos on]
  by_cases loaded : Tab.wishlist ∈ s.window.loaded
  · have same : s.selectTab .wishlist =
        { s with window := { s.window with selectedTab := .wishlist } } := if_pos loaded
    rw [same] at st
    refine .cons st (canTrap_wish run none ?_ rfl on.2)
    obtain ⟨shows, sheet⟩ := Window.screen_tabs on.1
    refine Window.screen_of_tabs ?_ sheet
    rintro (bare | ⟨profile, _⟩)
    · exact shows (.inl bare)
    · cases profile
  · exact .cons st (canTrap_unwraps run none st (decide_eq_true ⟨on, loaded⟩))

/-- The tab screens can be used without a user. -/
lemma canTrap_tabs (run : s.trap = none) (none : s.currentUser = none) (tabs : s.screen = .tabs) :
    s.CanTrap := by
  cases form : s.tabs.form with
  | none => exact canTrap_lists run none ⟨tabs, form⟩
  | some f =>
    have cancel : s.tabs.touch s.email .cancel =
        some (.ok (.quiet { s.tabs with form := Option.none })) := by
      rw [Tabs.touch.eq_def, form]
      cases f <;> rfl
    exact .cons (touch_fires run tabs rfl cancel) (canTrap_lists run none ⟨tabs, rfl⟩)

/-- A photo can be picked without a user. -/
lemma canTrap_picker (num : s.Numbered) (run : s.trap = none) (none : s.currentUser = none)
    (picker : s.screen = .imagePicker) : s.CanTrap := by
  have st : s.step (.didFinishPicking "" true) =
      some (s.applyReply ⟨s.dismiss .imagePicker, [], [.putData ""]⟩) := by
    refine step_fires run ?_
    rw [handle, if_pos picker]
    rfl
  refine .cons st (canTrap_needsUser (num.step st) run none ?_)
  refine pending_iff.2 ⟨s.calls.length, .putData "", List.getElem?_concat_length, ?_⟩
  rw [num.inFlight st le_rfl]
  rfl

/-- What is in use can be used without a user. -/
lemma canTrap_inUse (num : s.Numbered) (run : s.trap = none) (none : s.currentUser = none)
    (use : s.window.InUse) : s.CanTrap := by
  cases sheet : s.window.sheet with
  | none =>
    have shows : ¬ s.window.ShowsLogIn := use.resolve_right (by rw [sheet]; exact fun h => by cases h)
    exact canTrap_tabs run none (Window.screen_of_tabs shows sheet)
  | some x =>
    cases x with
    | imagePicker =>
      refine canTrap_picker num run none ?_
      rw [screen, Window.screen, sheet]
    | signUp form =>
      have shows : ¬ s.window.ShowsLogIn :=
        use.resolve_right (by rw [sheet]; exact fun h => by cases h)
      have screen : s.screen = .signUp form := by rw [Session.screen, Window.screen, sheet]
      have st : s.step .swipeDownSignUp =
          some (s.applyReply (s.dismiss (.signUp form)).quiet) := by
        refine step_fires run ?_
        rw [handle, screen]
      refine .cons st (canTrap_tabs run none ?_)
      change (s.window.dismiss (.signUp form)).screen = .tabs
      rw [Window.dismiss, if_pos sheet]
      exact Window.screen_of_tabs shows rfl

/-- What needed a user goes on needing one when the step leaves its request alone. -/
lemma needsUser_stays (st : s.step e = some s')
    (same : ∀ (n : Nat) c, s.calls[n]? = some c → c.needsUser (s.status n) = true →
      s'.status n = s.status n) (needs : s.NeedsUser) : s'.NeedsUser := by
  obtain ⟨n, c, ec, h⟩ := pending_iff.1 needs
  refine pending_iff.2 ⟨n, c, calls_step st ec, ?_⟩
  rw [same n c ec h]
  exact h

/-- The end of a session by the deletion of its account leaves the requests that need a user. -/
lemma needsUser_ends {n : Nat} (st : s.step e = some s')
    (others : ∀ m, m ≠ n → s'.status m = s.status m)
    (ends : s.calls[n]?.any s.endsSession = true) (needs : s.NeedsUser) : s'.NeedsUser := by
  refine needsUser_stays st ?_ needs
  intro m c em h
  refine others m ?_
  intro en
  subst en
  rw [em] at ends
  cases c with
  | deleteUser => cases h
  | _ => cases ends

/-- The states of the other requests are left alone by an answer. -/
lemma serve_others {n a} (st : s.step (.serve n a) = some s') (m : Nat) (ne : m ≠ n) :
    s'.status m = s.status m := by
  obtain ⟨_, _, _, _, h, es⟩ := serve_inv st
  subst es
  change (Reply.session _).status m = _
  rw [(serve_frame h).2.status]
  exact Function.update_of_ne ne _ _

/-- And by an error that comes after the effect. -/
lemma serveLate_others {n late err} (st : s.step (.serveLate n late err) = some s') (m : Nat)
    (ne : m ≠ n) : s'.status m = s.status m := by
  obtain ⟨r, er, es⟩ := step_inv st
  subst es
  cases replies_inv er with
  | @serveLate _ _ _ _ s' _ _ h =>
    change s'.status m = _
    rw [(serveLate_frame h).status]
    exact Function.update_of_ne ne _ _

/-- After a tap on the tab screens in the place of Log Out they are still in use. -/
lemma canTrap_onTabs (num : s.Numbered) (run : s.trap = none) (none : s.currentUser = none)
    (on : s.OnProfile) (st : s.step e = some s') (tap : e.onTabs = true)
    (run' : s'.trap = Option.none) : s'.CanTrap := by
  have num' := num.step st
  have use : s.window.InUse := inUse_tabs on.1.1
  obtain ⟨r, er, es⟩ := step_inv st
  subst es
  cases replies_inv er with
  | touchTrapped | deleteNobody => cases run'
  | touch => exact canTrap_inUse num' run none use
  | @selectTab tab =>
    refine canTrap_inUse num' run' (Frame.selectTab.currentUser.trans none) (.inl ?_)
    obtain ⟨loaded, ew⟩ := @selectTab_window s tab
    change ¬ (s.selectTab tab).window.ShowsLogIn
    rw [ew]
    rintro (bare | ⟨_, logIn⟩)
    · exact (Window.screen_tabs on.1.1).1 (.inl bare)
    · exact (Window.screen_tabs on.1.1).1 (.inr ⟨on.2, logIn⟩)
  | uploadButtonTapped => exact canTrap_inUse num' run none (.inr rfl)
  | deleteTrapped _ signed | deleteAccount _ signed => cases none.symm.trans signed
  | notCompressed picker | putData picker => cases on.1.1.symm.trans picker
  | _ => cases tap

/-- After a step that may not keep the user, a process that still runs can be brought to a trap. -/
lemma canTrap_of_not_keeps (num : s.Numbered) (inv : s.trap = none → s.Attended)
    (st : s.step e = some s') (no : ¬ KeepsUser s e) (run' : s'.trap = none) : s'.CanTrap := by
  obtain ⟨run, guard⟩ := Classical.not_imp.1 no
  have num' := num.step st
  have late (h : ¬ (e.onTabs = true → s.currentUser ≠ none ∨ ¬ s.Leaving)) : s'.CanTrap := by
    obtain ⟨tap, late⟩ := Classical.not_imp.1 h
    obtain ⟨nobody, _⟩ := not_or.1 late
    rcases (inv run).tabs (inUse_onTabs st tap) with signed | ⟨_, on⟩
    · exact absurd signed nobody
    · exact canTrap_onTabs num run (not_not.1 nobody) on st tap run'
  cases e with
  | dropUser =>
    obtain ⟨r, er, es⟩ := step_inv st
    subst es
    cases replies_inv er
    by_cases needs : s.NeedsUser
    · exact canTrap_needsUser num' run rfl (needsUser_stays st (fun _ _ _ _ => rfl) needs)
    · refine canTrap_inUse num' run rfl ?_
      by_contra elsewhere
      exact guard (decide_eq_true (.inr ⟨elsewhere, needs⟩))
  | logOutButtonTapped thrown =>
    cases thrown with
    | some err => exact late fun h => guard (decide_eq_true h)
    | none =>
      have needs : s.NeedsUser := not_not.1 fun h => guard (decide_eq_true h)
      obtain ⟨r, er, es⟩ := step_inv st
      subst es
      cases replies_inv er with
      | logOut =>
        exact canTrap_needsUser num' run rfl (needsUser_stays st (fun _ _ _ _ => rfl) needs)
  | serve n a =>
    cases a with
    | error err => exact late fun h => guard (decide_eq_true h)
    | ok x =>
      obtain ⟨ends, h⟩ := Classical.not_imp.1 fun h => guard (decide_eq_true h)
      have none := endsSession_served st ends
      rcases not_and_or.1 h with needs | h
      · refine canTrap_needsUser num' run' none ?_
        exact needsUser_ends st (serve_others st) ends (not_not.1 needs)
      · refine canTrap_inUse num' run' none ?_
        rw [serve_window st]
        exact (Classical.not_imp.1 h).1
  | serveLate n l err =>
    cases l with
    | accountCreated => exact late fun h => guard (decide_eq_true h)
    | accountDeleted signedOut =>
      cases signedOut with
      | false => exact late fun h => guard (decide_eq_true h)
      | true =>
        obtain ⟨ends, h⟩ := Classical.not_imp.1 fun h => guard (decide_eq_true h)
        obtain ⟨none, ew⟩ := endsSession_servedLate st ends
        rcases not_and_or.1 h with needs | use
        · refine canTrap_needsUser num' run' none ?_
          exact needsUser_ends st (serveLate_others st) ends (not_not.1 needs)
        · refine canTrap_inUse num' run' none ?_
          rw [ew]
          exact not_not.1 use
  | _ => exact late fun h => guard (decide_eq_true h)

/-- As long as the steps keep the user, no forced unwrap of the current user finds nil, and whatever
    evaluates one does so while someone is signed in. After any other step a process that still runs
    can be brought to a trap. -/
theorem unwraps_signedIn {accounts firestore} {t : Session} {es}
    (rn : Run (Guarded (Fires Session.step) KeepsUser) (first accounts firestore) es t) :
    t.trap ≠ some .unexpectedlyFoundNil ∧
      (∀ e t', Guarded (Fires Session.step) KeepsUser t e t' → t.unwraps e = true →
        ∃ user, t.currentUser = some user) ∧
      ∀ e t', t.step e = some t' → ¬ KeepsUser t e → t'.trap = none → t'.CanTrap := by
  obtain ⟨num, inv⟩ := attended_run rn
  refine ⟨notNil_run rn, ?_, ?_⟩
  · intro e t' st unwraps
    exact Option.ne_none_iff_exists'.1 (Attended.signed inv st.2 st.1 unwraps)
  · intro e t' st no run'
    exact canTrap_of_not_keeps num inv st no run'

/-- A photo is on its way when the user logs out; its download URL traps. -/
theorem unwraps_nobody :
    ∃ es e u t, Run (Fires step) (first ["a@b.c"] ∅) es u ∧ u.step e = some t ∧
      u.unwraps e = true ∧ u.currentUser = none ∧ t.trap = some .unexpectedlyFoundNil := by
  obtain ⟨u, t, rn, before, rn', after⟩ := Transition.exists_run_through step step
    (first ["a@b.c"] ∅)
    [.logInButtonTapped "a@b.c" "Abcdefg1", .serve 0 (.ok "a@b.c"), .deliver 0,
      .selectTab .profile, .uploadButtonTapped, .didFinishPicking "I" true, .serve 1 (.ok ""),
      .deliver 1, .serve 2 (.ok "url"), .logOutButtonTapped none]
    [.deliver 2]
    (fun u => u.unwraps (.deliver 2) ∧ u.currentUser = none)
    (fun t => t.trap = some .unexpectedlyFoundNil) (by decide +kernel) (by decide +kernel)
  obtain ⟨unwraps, none⟩ := of_decide_eq_true before
  exact ⟨_, .deliver 2, u, t, rn, rn'.single_inv, unwraps, none, of_decide_eq_true after⟩

/-- A wish is written and a photo uploaded before the account is deleted. -/
theorem unwraps_signedIn_uploaded :
    ∃ es t, Run (Guarded (Fires step) KeepsUser) (first ["a@b.c"] ∅) es t ∧ es.length = 20 ∧
      t.trap ≠ some .unexpectedlyFoundNil ∧ t.currentUser = none := by
  obtain ⟨t, rn, out⟩ := Transition.exists_run (guardedStep Session.step KeepsUser)
    (first ["a@b.c"] ∅)
    [.logInButtonTapped "a@b.c" "Abcdefg1", .serve 0 (.ok "a@b.c"), .deliver 0,
      .selectTab .wishlist, .touch .presentAddWish, .touch (.typeWish "Up"),
      .touch (.addWishButtonTapped (fun _ => ⟨0, by decide⟩)), .selectTab .profile,
      .uploadButtonTapped, .didFinishPicking "I" true, .serve 1 (.ok ""), .deliver 1,
      .serve 2 (.ok "url"), .deliver 2, .deleteAccountButtonTapped, .serve 3 (.ok ""),
      .serve 4 (.ok ""), .deliver 3, .deliver 4, .dropUser]
    (fun t => t.currentUser = none) (by decide +kernel)
  have rn' := Run.of_guardedStep rn
  obtain ⟨notNil, _⟩ := unwraps_signedIn rn'
  exact ⟨_, t, rn', rfl, notNil, of_decide_eq_true out⟩

end Session

end Lumiere

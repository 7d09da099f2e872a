import Lumiere.Session.Session

/-!
# What a step of a session can do

`Replies` lists the replies to an event, one constructor for each branch of a handler; `Handled`
takes those together that change screens alone. The parts of the session that the invariants speak
of have one relation each: `Started` for the requests an event makes, `Writes` for its writes to the
database, `Answers` for the states of the requests, `Signs` for the accounts and the current user.
`reply_started`, `reply_writes`, `reply_answers` and `reply_signs` say that every reply is within
them.
-/

namespace Lumiere
open Firestore

namespace Session

/-- Only what is on the screens has changed between two sessions. -/
structure Frame (s s' : Session) : Prop where
  accounts : s'.accounts = s.accounts
  currentUser : s'.currentUser = s.currentUser
  status : s'.status = s.status
  selected : s'.tabs.selected = s.tabs.selected

/-- The event is the tap or the delivery of something on the screens. -/
def Event.onScreens : Event → Bool
  | .touch _ => false
  | .serve _ _ => false
  | .serveLate _ _ _ => false
  | .deliver _ => false
  | .deliverCovered _ => false
  | .logOutButtonTapped none => false
  | .dropUser => false
  | .launch _ => false
  | _ => true

/-- What an event leads to, one constructor for each branch of the handlers. -/
inductive Replies (s : Session) : Event → Reply → Prop where
  | touchTrapped {k trap} :
    s.screen = .tabs →
    k.tab.all (· = s.window.selectedTab) = true →
    s.tabs.touch s.email k = some (.error trap) →
    Replies s (.touch k) (s.crash trap).quiet
  | touch {k r} :
    s.screen = .tabs →
    k.tab.all (· = s.window.selectedTab) = true →
    s.tabs.touch s.email k = some (.ok r) →
    Replies s (.touch k)
      ⟨{ s with tabs := r.tabs, alerts := s.alerts ++ r.alert.toList }, r.write.toList, []⟩
  | watchedTrapped {documents trap} :
    watchedListener documents = .error trap →
    Replies s (.watchedSnapshot documents) (s.crash trap).quiet
  | watchedSnapshot {documents callback} :
    watchedListener documents = .ok callback →
    Replies s (.watchedSnapshot documents)
      (quiet { s with tabs := { s.tabs with watchedList := callback.watchedList } })
  | wishlistTrapped {documents trap} :
    wishlistListener documents = .error trap →
    Replies s (.wishlistSnapshot documents) (s.crash trap).quiet
  | wishlistSnapshot {documents wishlist} :
    wishlistListener documents = .ok wishlist →
    Replies s (.wishlistSnapshot documents)
      (quiet { s with tabs := { s.tabs with wishlist := wishlist } })
  | selectTab {tab} :
    s.OnTabs →
    Replies s (.selectTab tab) (s.selectTab tab).quiet
  | signIn {email password} :
    s.screen = .logIn →
    Replies s (.logInButtonTapped email password)
      ⟨s, [], [.signIn email password s.window.tabBars]⟩
  | presentSignUp :
    s.screen = .logIn →
    Replies s .presentSignUp
      (quiet { s.present (.signUp s.signUps.length) with
        signUps := s.signUps ++ [⟨"", "", ""⟩] })
  | typeSignUp {form c} :
    s.screen = .signUp form →
    Replies s (.typeSignUp c) (quiet { s with signUps := s.signUps.set form c })
  | invalidSignUp {form c err} :
    s.screen = .signUp form →
    s.signUps[form]? = some c →
    c.validateFields = some err →
    Replies s .signUpButtonTapped (s.showAlert err.quote).quiet
  | createUser {form c} :
    s.screen = .signUp form →
    s.signUps[form]? = some c →
    c.validateFields = none →
    Replies s .signUpButtonTapped
      ⟨s, [], [.createUser form c.emailTextField c.passwordTextField]⟩
  | swipeDownSignUp {form} :
    s.screen = .signUp form →
    Replies s .swipeDownSignUp (s.dismiss (.signUp form)).quiet
  | logOut :
    s.OnProfile →
    Replies s (.logOutButtonTapped none)
      ((s.updateCurrentUser none).pushLogIn s.window.tabBars).quiet
  | logOutThrown {err} :
    s.OnProfile →
    Replies s (.logOutButtonTapped (some err)) ((s.showAlert err).pushLogIn s.window.tabBars).quiet
  | uploadButtonTapped :
    s.OnProfile →
    Replies s .uploadButtonTapped (s.present .imagePicker).quiet
  | deleteNobody :
    s.OnProfile →
    s.currentUser = none →
    Replies s .deleteAccountButtonTapped (s.crash .unexpectedlyFoundNil).quiet
  | deleteTrapped {user trap} :
    s.OnProfile →
    s.currentUser = some user →
    userDocument (some user.email) = .error trap →
    Replies s .deleteAccountButtonTapped (s.crash trap).quiet
  | deleteAccount {user d} :
    s.OnProfile →
    s.currentUser = some user →
    userDocument (some user.email) = .ok d →
    Replies s .deleteAccountButtonTapped
      ⟨s, [], [.deleteUserDocument d, .deleteUser user s.window.tabBars]⟩
  | notCompressed {imageID} :
    s.screen = .imagePicker →
    Replies s (.didFinishPicking imageID false) (s.showAlert "Couldn't compress image").quiet
  | putData {imageID} :
    s.screen = .imagePicker →
    Replies s (.didFinishPicking imageID true) ⟨s.dismiss .imagePicker, [], [.putData imageID]⟩
  | didCancel :
    s.screen = .imagePicker →
    Replies s .imagePickerControllerDidCancel (s.dismiss .imagePicker).quiet
  | serve {n a call r} :
    s.calls[n]? = some call →
    s.status n = .inFlight →
    (s.mark n (.answered a)).serve call a = some r →
    Replies s (.serve n a) r
  | serveLate {n late err call s'} :
    s.calls[n]? = some call →
    s.status n = .inFlight →
    (s.mark n (.answered (.error err))).serveLate call late = some s' →
    Replies s (.serveLate n late err) s'.quiet
  | deliver {n a call} :
    s.calls[n]? = some call →
    s.status n = .answered a →
    Replies s (.deliver n) ((s.mark n (.delivered a)).deliver n call a)
  | deliverCovered {n a call} :
    s.calls[n]? = some call →
    s.status n = .answered a →
    s.Covered call a →
    Replies s (.deliverCovered n) (s.mark n (.delivered a)).quiet
  | dropUser :
    Replies s .dropUser (s.updateCurrentUser none).quiet
  | launch {now} :
    Replies s (.launch now) (s.launch now).quiet

/-- What an event leads to, with the branches that change nothing but the screens taken together. -/
inductive Handled (s : Session) : Event → Reply → Prop where
  | screens {e s'} :
    e.onScreens →
    Frame s s' →
    Handled s e s'.quiet
  | touch {k r} :
    Touched s.email s.tabs k r →
    Handled s (.touch k)
      ⟨{ s with tabs := r.tabs, alerts := s.alerts ++ r.alert.toList }, r.write.toList, []⟩
  | touchTrapped {k trap} :
    Handled s (.touch k) (s.crash trap).quiet
  | signIn {email password} :
    Handled s (.logInButtonTapped email password)
      ⟨s, [], [.signIn email password s.window.tabBars]⟩
  | createUser {form c} :
    s.screen = .signUp form →
    s.signUps[form]? = some c →
    c.validateFields = none →
    Handled s .signUpButtonTapped
      ⟨s, [], [.createUser form c.emailTextField c.passwordTextField]⟩
  | logOut :
    Handled s (.logOutButtonTapped none)
      ((s.updateCurrentUser none).pushLogIn s.window.tabBars).quiet
  | deleteAccount {user d} :
    s.currentUser = some user →
    userDocument (some user.email) = .ok d →
    Handled s .deleteAccountButtonTapped
      ⟨s, [], [.deleteUserDocument d, .deleteUser user s.window.tabBars]⟩
  | putData {imageID} :
    Handled s (.didFinishPicking imageID true) ⟨s.dismiss .imagePicker, [], [.putData imageID]⟩
  | serve {n a call r} :
    s.calls[n]? = some call →
    s.status n = .inFlight →
    (s.mark n (.answered a)).serve call a = some r →
    Handled s (.serve n a) r
  | serveLate {n late err call s'} :
    s.calls[n]? = some call →
    s.status n = .inFlight →
    (s.mark n (.answered (.error err))).serveLate call late = some s' →
    Handled s (.serveLate n late err) s'.quiet
  | deliver {n a call} :
    s.calls[n]? = some call →
    s.status n = .answered a →
    Handled s (.deliver n) ((s.mark n (.delivered a)).deliver n call a)
  | deliverCovered {n a call} :
    s.calls[n]? = some call →
    s.status n = .answered a →
    s.Covered call a →
    Handled s (.deliverCovered n) (s.mark n (.delivered a)).quiet
  | dropUser :
    Handled s .dropUser (s.updateCurrentUser none).quiet
  | launch {now} :
    Handled s (.launch now) (s.launch now).quiet

/-- A step goes through a reply. -/
lemma step_inv {s s' : Session} {e} (st : s.step e = some s') :
    ∃ r, s.reply e = some r ∧ s' = s.applyReply r := by
  obtain ⟨r, er, es⟩ := Option.map_eq_some_iff.1 st
  exact ⟨r, er, es.symm⟩

/-! ## Loading screens -/

/-- A load changes the loaded screens and the listeners only. -/
lemma load_frame {s : Session} {tab} :
    (s.load tab).accounts = s.accounts ∧ (s.load tab).currentUser = s.currentUser ∧
      (s.load tab).status = s.status ∧ (s.load tab).tabs = s.tabs := by
  rw [load]
  split <;> exact ⟨rfl, rfl, rfl, rfl⟩

/-- What a new tab bar leaves as it is, and the lists it starts with. -/
lemma pushTabBar_frame {s : Session} :
    s.pushTabBar.accounts = s.accounts ∧ s.pushTabBar.currentUser = s.currentUser ∧
      s.pushTabBar.status = s.status ∧
      s.pushTabBar.tabs = Tabs.viewDidLoad s.tabs.selected :=
  load_frame

/-- What a launch leaves as it is, and the lists it starts with. -/
lemma launch_frame {s : Session} {now} :
    (s.launch now).accounts = s.accounts ∧ (s.launch now).currentUser = s.currentUser ∧
      (s.launch now).tabs = Tabs.viewDidLoad (Watched.init now) := by
  rw [launch]
  split
  case isTrue => exact ⟨rfl, rfl, rfl⟩
  case isFalse =>
    obtain ⟨accounts, currentUser, _, tabs⟩ := pushTabBar_frame
    exact ⟨accounts, currentUser, tabs⟩

/-- Nothing has changed. -/
lemma Frame.refl {s : Session} : Frame s s :=
  ⟨rfl, rfl, rfl, rfl⟩

/-- Another tab is selected and loaded if it has to be. -/
lemma Frame.selectTab {s : Session} {tab} : Frame s (s.selectTab tab) := by
  rw [Session.selectTab]
  split
  case isTrue => exact ⟨rfl, rfl, rfl, rfl⟩
  case isFalse =>
    obtain ⟨accounts, currentUser, status, tabs⟩ :=
      @load_frame { s with window := { s.window with selectedTab := tab } } tab
    exact ⟨accounts, currentUser, status, by rw [tabs]⟩

/-! ## Inversion of the handlers -/

/-- Every reply is that of a branch of the handlers. -/
lemma replies_inv {s : Session} {e r} (h : s.reply e = some r) : Replies s e r := by
  rw [reply] at h
  split at h
  case isFalse => cases h
  case isTrue =>
    cases e with
    | touch k =>
      rw [handle] at h
      split at h
      case isFalse => cases h
      case isTrue on =>
        split at h
        case h_1 => cases h
        case h_2 trap et => cases h; exact .touchTrapped on.1 on.2 et
        case h_3 r' et => cases h; exact .touch on.1 on.2 et
    | watchedSnapshot documents =>
      rw [handle] at h
      split at h
      case h_1 trap read => cases h; exact .watchedTrapped read
      case h_2 callback read => cases h; exact .watchedSnapshot read
    | wishlistSnapshot documents =>
      rw [handle] at h
      split at h
      case h_1 trap read => cases h; exact .wishlistTrapped read
      case h_2 wishlist read => cases h; exact .wishlistSnapshot read
    | selectTab tab =>
      rw [handle] at h
      split at h
      case isFalse => cases h
      case isTrue on => cases h; exact .selectTab on
    | logInButtonTapped email password =>
      rw [handle] at h
      split at h
      case isTrue screen => cases h; exact .signIn screen
      case isFalse => cases h
    | presentSignUp =>
      rw [handle] at h
      split at h
      case isTrue screen => cases h; exact .presentSignUp screen
      case isFalse => cases h
    | typeSignUp c =>
      rw [handle] at h
      split at h
      case h_1 form screen => cases h; exact .typeSignUp screen
      case h_2 => cases h
    | signUpButtonTapped =>
      rw [handle] at h
      split at h
      case h_2 => cases h
      case h_1 form screen =>
        obtain ⟨c, ec, er⟩ := Option.map_eq_some_iff.1 h
        subst er
        rw [Session.signUpButtonTapped]
        split
        case h_1 err invalid => exact .invalidSignUp screen ec invalid
        case h_2 valid => exact .createUser screen ec valid
    | swipeDownSignUp =>
      rw [handle] at h
      split at h
      case h_1 form screen => cases h; exact .swipeDownSignUp screen
      case h_2 => cases h
    | logOutButtonTapped thrown =>
      rw [handle] at h
      split at h
      case isFalse => cases h
      case isTrue on =>
        cases h
        cases thrown with
        | none => exact .logOut on
        | some err => exact .logOutThrown on
    | uploadButtonTapped =>
      rw [handle] at h
      split at h
      case isFalse => cases h
      case isTrue on => cases h; exact .uploadButtonTapped on
    | deleteAccountButtonTapped =>
      rw [handle] at h
      split at h
      case isFalse => cases h
      case isTrue on =>
        cases h
        rw [Session.deleteAccountButtonTapped]
        split
        case h_1 nobody => exact .deleteNobody on nobody
        case h_2 user signed =>
          split
          case h_1 trap ed => exact .deleteTrapped on signed ed
          case h_2 d ed => exact .deleteAccount on signed ed
    | didFinishPicking imageID compressed =>
      rw [handle] at h
      split at h
      case isFalse => cases h
      case isTrue on =>
        cases h
        cases compressed with
        | false => exact .notCompressed on
        | true => exact .putData on
    | imagePickerControllerDidCancel =>
      rw [handle] at h
      split at h
      case isFalse => cases h
      case isTrue on => cases h; exact .didCancel on
    | serve n a =>
      rw [handle] at h
      split at h
      case h_1 call ec es => exact .serve ec es h
      case h_2 => cases h
    | serveLate n late err =>
      rw [handle] at h
      split at h
      case h_1 call ec es =>
        obtain ⟨s', e', er⟩ := Option.map_eq_some_iff.1 h
        subst er
        exact .serveLate ec es e'
      case h_2 => cases h
    | deliver n =>
      rw [handle] at h
      split at h
      case h_1 call a ec es => cases h; exact .deliver ec es
      case h_2 => cases h
    | deliverCovered n =>
      rw [handle] at h
      split at h
      case h_2 => cases h
      case h_1 call a ec es =>
        split at h
        case isTrue covered => cases h; exact .deliverCovered ec es covered
        case isFalse => cases h
    | dropUser => cases h; exact .dropUser
    | launch now => cases h; exact .launch

/-- Every reply is within what `Handled` lists. -/
lemma reply_inv {s : Session} {e r} (h : s.reply e = some r) : Handled s e r := by
  cases replies_inv h with
  | touchTrapped => exact .touchTrapped
  | touch _ _ et => exact .touch (Tabs.touch_inv et)
  | selectTab => exact .screens rfl .selectTab
  | signIn => exact .signIn
  | createUser screen fields valid => exact .createUser screen fields valid
  | logOut => exact .logOut
  | deleteAccount _ signed ed => exact .deleteAccount signed ed
  | putData => exact .putData
  | serve ec es h => exact .serve ec es h
  | serveLate ec es late => exact .serveLate ec es late
  | deliver ec es => exact .deliver ec es
  | deliverCovered ec es covered => exact .deliverCovered ec es covered
  | dropUser => exact .dropUser
  | launch => exact .launch
  | watchedTrapped | watchedSnapshot | wishlistTrapped | wishlistSnapshot | presentSignUp
  | typeSignUp | invalidSignUp | swipeDownSignUp | logOutThrown | uploadButtonTapped | deleteNobody
  | deleteTrapped | notCompressed | didCancel => exact .screens rfl ⟨rfl, rfl, rfl, rfl⟩

/-- The delivery of an answer runs the completion handler of its request. -/
lemma reply_deliver {s : Session} {n : Nat} {c a r} (er : s.reply (.deliver n) = some r)
    (ec : s.calls[n]? = some c) (ea : s.status n = .answered a) :
    r = (s.mark n (.delivered a)).deliver n c a := by
  cases replies_inv er with
  | deliver ec' ea' =>
    cases ec.symm.trans ec'
    cases ea.symm.trans ea'
    rfl

/-- Only the services and a launch reach a process that does not run. -/
lemma reply_runs {s : Session} {e r} (h : s.reply e = some r) :
    s.trap = none ∨ e.outlives = true := by
  rw [reply] at h
  split at h
  case isTrue runs => exact runs
  case isFalse => cases h

/-- A sign-out by force changes the current user only. -/
lemma signOutByForce_frame {s : Session} {uid} :
    (s.signOutByForce uid).accounts = s.accounts ∧ (s.signOutByForce uid).status = s.status ∧
      (s.signOutByForce uid).tabs = s.tabs ∧ (s.signOutByForce uid).signUps = s.signUps ∧
      (s.signOutByForce uid).window = s.window ∧ (s.signOutByForce uid).trap = s.trap ∧
      (s.signOutByForce uid).listeners = s.listeners := by
  rw [signOutByForce]
  split <;> exact ⟨rfl, rfl, rfl, rfl, rfl, rfl, rfl⟩

/-- A sign-out by force looks at the current user only. -/
lemma signOutByForce_congr {s t : Session} {uid} (same : t.currentUser = s.currentUser) :
    (t.signOutByForce uid).currentUser = (s.signOutByForce uid).currentUser := by
  rw [signOutByForce, signOutByForce, same]
  split
  case isTrue => rfl
  case isFalse => exact same

/-- What the services do leaves alone: the screens, and what is known of the requests. -/
structure Served (s s' : Session) : Prop where
  status : s'.status = s.status
  tabs : s'.tabs = s.tabs
  signUps : s'.signUps = s.signUps
  window : s'.window = s.window
  trap : s'.trap = s.trap
  listeners : s'.listeners = s.listeners

/-- Deleting an account changes the accounts and the current user only. -/
lemma Served.deleteAccount {s : Session} {user : User} :
    Served s ((s.deleteAccount user).signOutByForce user.uid) := by
  obtain ⟨_, status, tabs, signUps, window, trap, listeners⟩ :=
    @signOutByForce_frame (s.deleteAccount user) user.uid
  exact ⟨status, tabs, signUps, window, trap, listeners⟩

/-- The answer of a service changes no screen and makes no request. -/
lemma serve_frame {s : Session} {call a r} (h : s.serve call a = some r) :
    r.started = [] ∧ Served s r.session := by
  rw [Session.serve.eq_def] at h
  split at h
  case h_1 =>
    split at h
    all_goals cases h
    exact ⟨rfl, rfl, rfl, rfl, rfl, rfl, rfl⟩
  case h_2 =>
    split at h
    all_goals cases h
    exact ⟨rfl, rfl, rfl, rfl, rfl, rfl, rfl⟩
  case h_3 =>
    split at h
    all_goals cases h
    exact ⟨rfl, .deleteAccount⟩
  case h_4 | h_5 | h_6 => cases h; exact ⟨rfl, rfl, rfl, rfl, rfl, rfl, rfl⟩

/-- Nor does an error that comes after the effect. -/
lemma serveLate_frame {s s' : Session} {call late} (h : s.serveLate call late = some s') :
    Served s s' := by
  rw [Session.serveLate.eq_def] at h
  split at h
  case h_1 =>
    split at h
    all_goals cases h
    exact ⟨rfl, rfl, rfl, rfl, rfl, rfl⟩
  case h_2 user _ signedOut =>
    split at h
    all_goals cases h
    cases signedOut with
    | true => exact .deleteAccount
    | false => exact ⟨rfl, rfl, rfl, rfl, rfl, rfl⟩
  case h_3 => cases h

/-- A completion handler changes neither the accounts nor the current user. -/
lemma deliver_frame {s : Session} {n call a} :
    Frame s (s.deliver n call a).session := by
  rw [Session.deliver.eq_def]
  split
  case h_3 | h_8 => split <;> exact ⟨rfl, rfl, rfl, rfl⟩
  case h_5 =>
    obtain ⟨accounts, currentUser, status, tabs⟩ := pushTabBar_frame (s := s)
    exact ⟨accounts, currentUser, status, by rw [quiet, tabs]; rfl⟩
  case h_1 | h_2 | h_4 | h_6 | h_7 => exact ⟨rfl, rfl, rfl, rfl⟩

/-! ## The parts of a reply -/

/-- The event makes the request as the `i`-th of its requests. -/
inductive Started (s : Session) : Event → Nat → Call → Prop where
  | signIn {email password} :
    Started s (.logInButtonTapped email password) 0 (.signIn email password s.window.tabBars)
  | createUser {form c} :
    s.screen = .signUp form →
    s.signUps[form]? = some c →
    c.validateFields = none →
    Started s .signUpButtonTapped 0 (.createUser form c.emailTextField c.passwordTextField)
  | setUserDocument {n form email password account d} :
    s.calls[n]? = some (.createUser form email password) →
    s.status n = .answered (.ok account) →
    usersCollectionReference.document (s.emailText form) = .ok d →
    Started s (.deliver n) 0 (.setUserDocument form n d)
  | deleteUserDocument {user d} :
    s.currentUser = some user →
    userDocument (some user.email) = .ok d →
    Started s .deleteAccountButtonTapped 0 (.deleteUserDocument d)
  | deleteUser {user} :
    s.currentUser = some user →
    Started s .deleteAccountButtonTapped 1 (.deleteUser user s.window.tabBars)
  | putData {imageID} :
    Started s (.didFinishPicking imageID true) 0 (.putData imageID)
  | downloadURL {n imageID x} :
    s.calls[n]? = some (.putData imageID) →
    s.status n = .answered (.ok x) →
    Started s (.deliver n) 0 (.downloadURL imageID n)

/-- The writes that an event brings to the database. -/
inductive Writes (s : Session) : Event → List Write → Prop where
  | nothing {e} :
    Writes s e []
  | touch {k r w} :
    Touched s.email s.tabs k r →
    r.write = some w →
    Writes s (.touch k) [w]
  | setUserDocument {n form attempt d x} :
    s.calls[n]? = some (.setUserDocument form attempt d) →
    s.status n = .inFlight →
    Writes s (.serve n (.ok x)) [d.setData []]
  | deleteUserDocument {n d x} :
    s.calls[n]? = some (.deleteUserDocument d) →
    s.status n = .inFlight →
    Writes s (.serve n (.ok x)) [d.delete]
  | photo {n imageID upload url w} :
    s.calls[n]? = some (.downloadURL imageID upload) →
    s.status n = .answered (.ok url) →
    saveProfilePhoto s.email url = .ok w →
    Writes s (.deliver n) [w]

/-- What becomes of the requests. -/
inductive Answers (s : Session) : Event → (Nat → Status) → Prop where
  | same {e} :
    (∀ n a, e ≠ .serve n a) →
    (∀ n, e ≠ .deliver n) →
    Answers s e s.status
  | serve {n a call} :
    s.calls[n]? = some call →
    s.status n = .inFlight →
    Answers s (.serve n a) (Function.update s.status n (.answered a))
  | serveLate {n late err call} :
    s.calls[n]? = some call →
    s.status n = .inFlight →
    Answers s (.serveLate n late err) (Function.update s.status n (.answered (.error err)))
  | deliver {n a call} :
    s.calls[n]? = some call →
    s.status n = .answered a →
    Answers s (.deliver n) (Function.update s.status n (.delivered a))
  | deliverCovered {n a call} :
    s.calls[n]? = some call →
    s.status n = .answered a →
    s.Covered call a →
    Answers s (.deliverCovered n) (Function.update s.status n (.delivered a))
  | launch {now} :
    Answers s (.launch now) (s.launch now).status

/-- What becomes of the accounts and the current user. -/
inductive Signs (s : Session) : Event → List String → Option User → Prop where
  | same {e} :
    e ≠ .logOutButtonTapped none →
    e ≠ .dropUser →
    Signs s e s.accounts s.currentUser
  | createUser {n form email password account} :
    s.calls[n]? = some (.createUser form email password) →
    s.status n = .inFlight →
    account ∉ s.accounts →
    Signs s (.serve n (.ok account)) (account :: s.accounts) (some ⟨account, s.uids⟩)
  | createdLate {n form email password account err} :
    s.calls[n]? = some (.createUser form email password) →
    s.status n = .inFlight →
    account ∉ s.accounts →
    Signs s (.serveLate n (.accountCreated account) err) (account :: s.accounts) s.currentUser
  | signIn {n email password k account} :
    s.calls[n]? = some (.signIn email password k) →
    s.status n = .inFlight →
    account ∈ s.accounts →
    Signs s (.serve n (.ok account)) s.accounts (some (s.user account))
  | deleteUser {n user k x} :
    s.calls[n]? = some (.deleteUser user k) →
    s.status n = .inFlight →
    s.HasAccount user →
    Signs s (.serve n (.ok x)) (s.accounts.filter (· ≠ user.email))
      (s.signOutByForce user.uid).currentUser
  | deletedLate {n user k signedOut err} :
    s.calls[n]? = some (.deleteUser user k) →
    s.status n = .inFlight →
    s.HasAccount user →
    Signs s (.serveLate n (.accountDeleted signedOut) err) (s.accounts.filter (· ≠ user.email))
      (if signedOut then (s.signOutByForce user.uid).currentUser else s.currentUser)
  | logOut :
    Signs s (.logOutButtonTapped none) s.accounts none
  | dropUser :
    Signs s .dropUser s.accounts none

/-- The only request of a list. -/
lemma getElem?_singleton_inv {c c' : Call} {i : Nat} (at_i : [c][i]? = some c') :
    i = 0 ∧ c' = c := by
  rw [List.getElem?_singleton] at at_i
  split at at_i
  case isTrue h => cases at_i; exact ⟨h, rfl⟩
  case isFalse => cases at_i

/-- The requests of a reply. -/
lemma reply_started {s : Session} {e r c} {i : Nat} (h : s.reply e = some r)
    (at_i : r.started[i]? = some c) : Started s e i c := by
  cases reply_inv h with
  | signIn =>
    obtain ⟨ei, ec⟩ := getElem?_singleton_inv at_i
    subst ei ec
    exact .signIn
  | createUser screen fields valid =>
    obtain ⟨ei, ec⟩ := getElem?_singleton_inv at_i
    subst ei ec
    exact .createUser screen fields valid
  | deleteAccount signed ed =>
    match i with
    | 0 => cases at_i; exact .deleteUserDocument signed ed
    | 1 => cases at_i; exact .deleteUser signed
    | _ + 2 => cases at_i
  | putData =>
    obtain ⟨ei, ec⟩ := getElem?_singleton_inv at_i
    subst ei ec
    exact .putData
  | serve _ _ h =>
    rw [(serve_frame h).1] at at_i
    cases at_i
  | @deliver n a call ec es =>
    cases call with
    | createUser form email password =>
      cases a with
      | error err => cases at_i
      | ok account =>
        rw [Session.deliver] at at_i
        split at at_i
        case h_1 => cases at_i
        case h_2 d ed =>
          obtain ⟨ei, ec'⟩ := getElem?_singleton_inv at_i
          subst ei ec'
          exact .setUserDocument ec es (raising_inv ed)
    | putData imageID =>
      cases a with
      | error err => cases at_i
      | ok x =>
        obtain ⟨ei, ec'⟩ := getElem?_singleton_inv at_i
        subst ei ec'
        exact .downloadURL ec es
    | downloadURL imageID upload =>
      cases a with
      | error err => cases at_i
      | ok url =>
        rw [Session.deliver] at at_i
        split at at_i <;> cases at_i
    | deleteUserDocument => cases at_i
    | setUserDocument | signIn | deleteUser => cases a <;> cases at_i
  | screens | touch | touchTrapped | logOut | serveLate | deliverCovered | dropUser | launch =>
    cases at_i

/-- The writes of a reply. -/
lemma reply_writes {s : Session} {e r} (h : s.reply e = some r) : Writes s e r.writes := by
  cases reply_inv h with
  | @touch k r tc =>
    cases wr : r.write with
    | none => exact .nothing
    | some w => exact .touch tc wr
  | @serve n a call r ec es h =>
    rw [Session.serve.eq_def] at h
    split at h
    case h_1 | h_2 | h_3 =>
      split at h
      all_goals cases h
      exact .nothing
    case h_4 => cases h; exact .setUserDocument ec es
    case h_5 => cases h; exact .deleteUserDocument ec es
    case h_6 => cases h; exact .nothing
  | @deliver n a call ec es =>
    cases call with
    | createUser form email password =>
      cases a with
      | error err => exact .nothing
      | ok account =>
        rw [Session.deliver]
        split <;> exact .nothing
    | downloadURL imageID upload =>
      cases a with
      | error err => exact .nothing
      | ok url =>
        rw [Session.deliver]
        split
        case h_1 => exact .nothing
        case h_2 w photo => exact .photo ec es photo
    | deleteUserDocument => exact .nothing
    | setUserDocument | signIn | deleteUser | putData => cases a <;> exact .nothing
  | screens | touchTrapped | signIn | createUser | logOut | deleteAccount | putData | serveLate
  | deliverCovered | dropUser | launch => exact .nothing

/-- The states of the requests after a reply. -/
lemma reply_answers {s : Session} {e r} (h : s.reply e = some r) :
    Answers s e r.session.status := by
  cases reply_inv h with
  | @screens e s' on fr =>
    rw [quiet, fr.status]
    refine .same ?_ ?_
    · intro n a ee
      subst ee
      cases on
    · intro n ee
      subst ee
      cases on
  | serve ec es h =>
    rw [(serve_frame h).2.status]
    exact .serve ec es
  | serveLate ec es late =>
    rw [quiet, (serveLate_frame late).status]
    exact .serveLate ec es
  | deliver ec es =>
    rw [deliver_frame.status]
    exact .deliver ec es
  | deliverCovered ec es covered => exact .deliverCovered ec es covered
  | launch => exact .launch
  | touch | touchTrapped | signIn | createUser | logOut | deleteAccount | putData | dropUser =>
    exact .same (fun _ _ ee => by cases ee) (fun _ ee => by cases ee)

/-- The success of a request, at the accounts and the current user. -/
lemma serve_signs {s : Session} {n call a r} (ec : s.calls[n]? = some call)
    (es : s.status n = .inFlight) (h : (s.mark n (.answered a)).serve call a = some r) :
    Signs s (.serve n a) r.session.accounts r.session.currentUser := by
  rw [Session.serve.eq_def] at h
  split at h
  case h_1 form email password account =>
    split at h
    case isTrue => cases h
    case isFalse new =>
      cases h
      have uid : (((s.mark n (.answered (.ok account))).createAccount account).user account) =
          ⟨account, s.uids⟩ := by
        simp [user, createAccount, mark]
      rw [quiet, updateCurrentUser, uid]
      exact .createUser ec es new
  case h_2 =>
    split at h
    case isTrue known => cases h; exact .signIn ec es known
    case isFalse => cases h
  case h_3 user k x =>
    split at h
    case isFalse => cases h
    case isTrue known =>
      cases h
      rw [quiet, signOutByForce_frame.1]
      have signed := @signOutByForce_congr s ((s.mark n (.answered (.ok x))).deleteAccount user)
        user.uid rfl
      rw [signed]
      exact .deleteUser ec es known
  case h_4 | h_5 | h_6 =>
    cases h
    exact .same (fun ee => by cases ee) (fun ee => by cases ee)

/-- What a late error leaves of the accounts and the current user. -/
lemma serveLate_signs {s s' : Session} {n call late err} (ec : s.calls[n]? = some call)
    (es : s.status n = .inFlight)
    (h : (s.mark n (.answered (.error err))).serveLate call late = some s') :
    Signs s (.serveLate n late err) s'.accounts s'.currentUser := by
  rw [Session.serveLate.eq_def] at h
  split at h
  case h_3 => cases h
  case h_1 =>
    split at h
    case isTrue => cases h
    case isFalse new => cases h; exact .createdLate ec es new
  case h_2 user k signedOut =>
    split at h
    case isFalse => cases h
    case isTrue known =>
      cases h
      have late := @Signs.deletedLate s n user k signedOut err ec es known
      cases signedOut with
      | false => exact late
      | true =>
        rw [if_pos rfl, signOutByForce_frame.1]
        rw [if_pos rfl] at late
        have signed := @signOutByForce_congr s
          ((s.mark n (.answered (.error err))).deleteAccount user) user.uid rfl
        rw [signed]
        exact late

/-- The accounts and the current user after a reply. -/
lemma reply_signs {s : Session} {e r} (h : s.reply e = some r) :
    Signs s e r.session.accounts r.session.currentUser := by
  cases reply_inv h with
  | @screens e s' on fr =>
    rw [quiet, fr.accounts, fr.currentUser]
    refine .same ?_ ?_
    · intro ee
      subst ee
      cases on
    · intro ee
      subst ee
      cases on
  | serve ec es h => exact serve_signs ec es h
  | serveLate ec es late => exact serveLate_signs ec es late
  | deliver =>
    rw [deliver_frame.accounts, deliver_frame.currentUser]
    exact .same (fun ee => by cases ee) (fun ee => by cases ee)
  | logOut => exact .logOut
  | dropUser => exact .dropUser
  | launch =>
    obtain ⟨accounts, currentUser, _⟩ := launch_frame
    rw [quiet, accounts, currentUser]
    exact .same (fun ee => by cases ee) (fun ee => by cases ee)
  | touch | touchTrapped | signIn | createUser | deleteAccount | putData | deliverCovered =>
    exact .same (fun ee => by cases ee) (fun ee => by cases ee)

/-- A process that does not run keeps its trap until the next launch. -/
lemma trap_step {s s' : Session} {e} (st : s.step e = some s') :
    s.trap = none ∨ s'.trap = s.trap ∨ ∃ now, e = .launch now := by
  obtain ⟨r, er, es⟩ := step_inv st
  subst es
  rcases reply_runs er with alive | outlives
  · exact .inl alive
  · cases replies_inv er with
    | launch => exact .inr (.inr ⟨_, rfl⟩)
    | serve _ _ h => exact .inr (.inl (serve_frame h).2.trap)
    | serveLate _ _ late => exact .inr (.inl (serveLate_frame late).trap)
    | _ => cases outlives

/-- A living process has only got there from a living one, or by a launch. -/
lemma alive_step {s s' : Session} {e} (st : s.step e = some s') (alive : s'.trap = none) :
    s.trap = none ∨ ∃ now, e = .launch now := by
  rcases trap_step st with before | same | launch
  · exact .inl before
  · exact .inl (same.symm.trans alive)
  · exact .inr launch

end Session

end Lumiere

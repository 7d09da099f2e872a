import Mathlib.Logic.Function.Basic
import Lumiere.Base.Run
import Lumiere.Controllers.Profile
import Lumiere.Controllers.SignUp
import Lumiere.Controllers.Tabs

/-!
# Sessions of one process

The app's process between its launches, the Auth service and the database it talks to: what the
window shows, the list screens, the Sign Up forms, the requests that have been made and the
listeners that have been started. A request is a `Call`, known by its place in `calls`. The service
answers it with a value or with an error, whatever the service likes (`serve`), or it does what it
is asked for and an error is met after that (`serveLate`); only then, and at any later time, its
completion handler runs (`deliver`). Auth sets its current user when it has the answer, before the
completion handler runs. The writes of the lists, of the photo and of the user document are one
`DocumentStore.Write` each; every change of the database goes through the `writes` of a `Reply`.

Every tab has a navigation controller of its own. Log Out and a deleted account push Log In on that
of the Profile tab, where it hides the tab bar once it is loaded; a log-in pushes a
`TabBarViewController` there, which presents a new tab bar over the whole window. So the window is a
stack of tab bars of which the last one is seen, over the Log In screen of a process that was
launched without a user.

Assumed of the services: `createUser` makes an account for an email that had none, under the email
as the service spells it; a request that `serve` answers with an error has had no effect. Assumed of
UIKit: what is presented covers what lies below it until it is dismissed, and an alert is closed
before the next event. A log-in that comes through while its Log In screen is covered either
presents its tab bar over everything (`deliver`) or does not load it at all (`deliverCovered`).
-/

namespace Lumiere
open Firestore

/-- A signed-in `FIRUser`: the email and the user ID of its account. -/
structure User where
  email : String
  uid : Nat
  deriving DecidableEq

/-- The screens of the tab bar. -/
inductive Tab where
  | watched
  | wishlist
  | profile
  deriving DecidableEq

/-- The list screen whose handler a touch runs; a form is not on a tab. -/
def Touch.tab : Touch → Option Tab
  | .addMovieButtonTapped _ => some .watched
  | .didSelectRowAt _ _ => some .watched
  | .deleteWatched _ => some .watched
  | .presentAddWish => some .wishlist
  | .leadingSwipe _ _ => some .wishlist
  | .deleteWish _ => some .wishlist
  | .control _ => none
  | .typeWish _ => none
  | .addWatchedButtonTapped _ _ => none
  | .editWatchedButtonTapped => none
  | .addWishButtonTapped _ => none
  | .cancel => none

/-- What is presented over the window, the forms of the list screens apart: Sign Up over a Log In
    screen, the image picker over the Profile screen. -/
inductive Sheet where
  | signUp (form : Nat)
  | imagePicker
  deriving DecidableEq

/-- What is seen. -/
inductive Screen where
  | logIn
  | signUp (form : Nat)
  | tabs
  | imagePicker
  deriving DecidableEq

/-- What the window is made of. -/
structure Window where
  /-- The tab bars that the process has presented. -/
  tabBars : Nat
  -- the last one of them
  selectedTab : Tab
  loaded : List Tab
  /-- Log In has been pushed over its Profile screen. -/
  logIn : Bool
  sheet : Option Sheet
  deriving DecidableEq

namespace Window

/-- The window of a new process, with Log In at the bottom. -/
def bare : Window where
  tabBars := 0
  selectedTab := .watched
  loaded := []
  logIn := false
  sheet := none

/-- Log In lies under what is presented: at the bottom of the window, or over the Profile screen. -/
def ShowsLogIn (w : Window) : Prop :=
  w.tabBars = 0 ∨ w.selectedTab = .profile ∧ w.logIn = true

instance (w : Window) : Decidable w.ShowsLogIn :=
  inferInstanceAs (Decidable (_ ∨ _))

/-- What is seen in a window. -/
def screen (w : Window) : Screen :=
  match w.sheet with
  | some (.signUp form) => .signUp form
  | some .imagePicker => .imagePicker
  | none => if w.ShowsLogIn then .logIn else .tabs

/-- `viewDidLoad` of `TabBarViewController` presents a new tab bar, on its Watched tab. -/
def pushTabBar (w : Window) : Window where
  tabBars := w.tabBars + 1
  selectedTab := .watched
  loaded := []
  logIn := false
  sheet := none

/-- Log In is pushed on the navigation controller of the Profile tab of a tab bar. A tab bar under
    another one is not seen again. -/
def pushLogIn (w : Window) (tabBar : Nat) : Window :=
  if w.tabBars = tabBar then { w with logIn := true } else w

/-- A sheet is dismissed, if it is still presented. -/
def dismiss (w : Window) (sheet : Sheet) : Window :=
  if w.sheet = some sheet then { w with sheet := none } else w

end Window

/-- The requests. A Log In screen is known by the number of tab bars below it, a Profile screen by
    the number of its tab bar. -/
inductive Call where
  | createUser (form : Nat) (email password : String)
  | setUserDocument (form attempt : Nat) (document : DocumentReference)
  | signIn (email password : String) (tabBars : Nat)
  | deleteUserDocument (document : DocumentReference)
  | deleteUser (user : User) (tabBar : Nat)
  | putData (imageID : String)
  | downloadURL (imageID : String) (upload : Nat)
  deriving DecidableEq

/-- What a request has done at the service before an error is met. -/
inductive Late where
  /-- The account has been made; then its token, its data or the keychain fails. -/
  | accountCreated (email : String)
  /-- The account has been deleted; then the answer is lost, or the keychain fails after Auth has
      signed the user out. -/
  | accountDeleted (signedOut : Bool)
  deriving DecidableEq

/-- What a service answers: a value, or the `localizedDescription` of an error. -/
abbrev Answer := Except String String

/-- The state of a request. -/
inductive Status where
  | inFlight
  | answered (a : Answer)
  | delivered (a : Answer)
  /-- The process that made the request is gone. -/
  | lost
  deriving DecidableEq

/-- The service has given this answer. -/
def Status.answer : Status → Option Answer
  | .answered a => some a
  | .delivered a => some a
  | .inFlight => none
  | .lost => none

/-- The services, and the process with what it knows of its requests. -/
structure Session where
  -- the services
  accounts : List String
  /-- The user ID of the account that an email has, and how many have been given out. -/
  uid : String → Nat
  uids : Nat
  firestore : Store
  currentUser : Option User
  -- the process
  window : Window
  tabs : Tabs
  signUps : List SignUpFields
  calls : List Call
  status : Nat → Status
  listeners : List (Tab × List String)
  alerts : List String
  trap : Option Trap

/-- What an event leads to: the session, the writes that reach the database and the requests that
    are made. -/
structure Reply where
  session : Session
  writes : List Write
  started : List Call

namespace Session

/-- `Auth.auth().currentUser?.email`. -/
def email (s : Session) : Option String :=
  s.currentUser.map User.email

/-- A handler that neither writes nor makes a request. -/
def quiet (s : Session) : Reply :=
  ⟨s, [], []⟩

/-- `Utilities.showAlert`. -/
def showAlert (s : Session) (message : String) : Session :=
  { s with alerts := s.alerts ++ [message] }

/-- The process is brought down. -/
def crash (s : Session) (trap : Trap) : Session :=
  { s with trap := some trap }

/-- The request `n` gets to another state. -/
def mark (s : Session) (n : Nat) (st : Status) : Session :=
  { s with status := Function.update s.status n st }

/-- What is seen in the window. -/
def screen (s : Session) : Screen :=
  s.window.screen

/-! ## Accounts -/

/-- The user object of the account that an email has. -/
def user (s : Session) (email : String) : User :=
  ⟨email, s.uid email⟩

/-- A new account with a new user ID. -/
def createAccount (s : Session) (email : String) : Session :=
  { s with
    accounts := email :: s.accounts
    uid := Function.update s.uid email s.uids
    uids := s.uids + 1 }

/-- The account of the user is the one that the email has. -/
def HasAccount (s : Session) (user : User) : Prop :=
  user.email ∈ s.accounts ∧ s.uid user.email = user.uid

instance (s : Session) (user : User) : Decidable (s.HasAccount user) :=
  inferInstanceAs (Decidable (_ ∧ _))

/-- The account of a user is taken away. -/
def deleteAccount (s : Session) (user : User) : Session :=
  { s with accounts := s.accounts.filter (· ≠ user.email) }

/-- `updateCurrentUser` of Auth. -/
def updateCurrentUser (s : Session) (user : Option User) : Session :=
  { s with currentUser := user }

/-- `signOutByForceWithUserID`. -/
def signOutByForce (s : Session) (uid : Nat) : Session :=
  if s.currentUser.map User.uid = some uid then s.updateCurrentUser none else s

/-! ## Screens -/

/-- The path a screen of the tab bar listens to. -/
def listenerPath (s : Session) : Tab → Except Trap (List String)
  | .watched => (userCollection s.email "watchedList").map CollectionReference.path
  | .wishlist => (userCollection s.email "wishlist").map CollectionReference.path
  | .profile => (userDocument s.email).map DocumentReference.path

/-- `viewDidLoad` of a screen of the tab bar starts its listener. -/
def load (s : Session) (tab : Tab) : Session :=
  match s.listenerPath tab with
  | .error trap => s.crash trap
  | .ok path =>
    { s with
      window := { s.window with loaded := tab :: s.window.loaded }
      listeners := s.listeners ++ [(tab, path)] }

/-- A new tab bar, which shows the Watched screen first. -/
def pushTabBar (s : Session) : Session :=
  ({ s with
    window := s.window.pushTabBar
    tabs := Tabs.viewDidLoad s.tabs.selected }).load .watched

/-- A tap on an item of the tab bar. -/
def selectTab (s : Session) (tab : Tab) : Session :=
  let s := { s with window := { s.window with selectedTab := tab } }
  if tab ∈ s.window.loaded then s else s.load tab

/-- Log In is pushed over the Profile screen of a tab bar. -/
def pushLogIn (s : Session) (tabBar : Nat) : Session :=
  { s with window := s.window.pushLogIn tabBar }

/-- A sheet is presented. -/
def present (s : Session) (sheet : Sheet) : Session :=
  { s with window := { s.window with sheet := some sheet } }

/-- A sheet is dismissed. -/
def dismiss (s : Session) (sheet : Sheet) : Session :=
  { s with window := s.window.dismiss sheet }

/-- The text of the email field of a form. -/
def emailText (s : Session) (form : Nat) : String :=
  (s.signUps[form]?.map SignUpFields.emailTextField).getD ""

/-- `signUpButtonTapped` of the Sign Up form. -/
def signUpButtonTapped (s : Session) (form : Nat) (c : SignUpFields) : Reply :=
  match c.validateFields with
  | some err => (s.showAlert err.quote).quiet
  | none => ⟨s, [], [.createUser form c.emailTextField c.passwordTextField]⟩

/-- `logOutButtonTapped`; `thrown` is the error of `signOut`, if it throws. -/
def logOutButtonTapped (s : Session) (thrown : Option String) : Reply :=
  match thrown with
  | none => ((s.updateCurrentUser none).pushLogIn s.window.tabBars).quiet
  | some err => ((s.showAlert err).pushLogIn s.window.tabBars).quiet

/-- `deleteAccountButtonTapped`: two requests at once. -/
def deleteAccountButtonTapped (s : Session) : Reply :=
  match s.currentUser with
  | none => (s.crash .unexpectedlyFoundNil).quiet
  | some user =>
    match userDocument (some user.email) with
    | .error trap => (s.crash trap).quiet
    | .ok d => ⟨s, [], [.deleteUserDocument d, .deleteUser user s.window.tabBars]⟩

/-- `imagePickerController(_:didFinishPickingMediaWithInfo:)` with an edited image; `compressed` says
    whether its JPEG data could be made. Without them it returns before the dismissal. -/
def didFinishPicking (s : Session) (imageID : String) (compressed : Bool) : Reply :=
  if compressed then ⟨s.dismiss .imagePicker, [], [.putData imageID]⟩
  else (s.showAlert "Couldn't compress image").quiet

/-- The scene of a new process: the tab bar when Auth has a current user, otherwise Log In. The
    requests of the old process are never delivered. -/
def launch (s : Session) (now : Date) : Session :=
  let fresh : Session :=
    { s with
      window := Window.bare
      tabs := Tabs.viewDidLoad (Watched.init now)
      status := fun n =>
        match s.status n with
        | .delivered a => .delivered a
        | st => if n < s.calls.length then .lost else st
      listeners := []
      alerts := []
      trap := none }
  if s.currentUser = none then fresh else fresh.pushTabBar

/-! ## Requests -/

/-- The effect of a request at the service and on the current user. -/
def serve (s : Session) (call : Call) (a : Answer) : Option Reply :=
  match call, a with
  | .createUser _ _ _, .ok email =>
    if email ∈ s.accounts then none
    else
      let s := s.createAccount email
      some (s.updateCurrentUser (s.user email)).quiet
  | .signIn _ _ _, .ok email =>
    if email ∈ s.accounts then some (s.updateCurrentUser (s.user email)).quiet else none
  | .deleteUser user _, .ok _ =>
    if s.HasAccount user then some ((s.deleteAccount user).signOutByForce user.uid).quiet else none
  | .setUserDocument _ _ d, .ok _ => some ⟨s, [d.setData []], []⟩
  | .deleteUserDocument d, .ok _ => some ⟨s, [d.delete], []⟩
  | _, _ => some s.quiet

/-- The effect of a request that is answered with an error all the same. -/
def serveLate (s : Session) (call : Call) (late : Late) : Option Session :=
  match call, late with
  | .createUser _ _ _, .accountCreated email =>
    if email ∈ s.accounts then none else some (s.createAccount email)
  | .deleteUser user _, .accountDeleted signedOut =>
    if s.HasAccount user then
      let s := s.deleteAccount user
      some (if signedOut then s.signOutByForce user.uid else s)
    else none
  | _, _ => none

/-- The completion handler of the request `n`. -/
def deliver (s : Session) (n : Nat) (call : Call) (a : Answer) : Reply :=
  match call, a with
  | .deleteUserDocument _, _ => s.quiet
  | _, .error err => (s.showAlert err).quiet
  | .createUser form _ _, .ok _ =>
    match raising (usersCollectionReference.document (s.emailText form)) with
    | .error trap => (s.crash trap).quiet
    | .ok d => ⟨s, [], [.setUserDocument form n d]⟩
  | .setUserDocument form _ _, .ok _ => (s.dismiss (.signUp form)).quiet
  | .signIn _ _ _, .ok _ => s.pushTabBar.quiet
  | .deleteUser _ tabBar, .ok _ => (s.pushLogIn tabBar).quiet
  | .putData imageID, .ok _ => ⟨s, [], [.downloadURL imageID n]⟩
  | .downloadURL _ _, .ok url =>
    match saveProfilePhoto s.email url with
    | .error trap => (s.crash trap).quiet
    | .ok w => ⟨s, [w], []⟩

/-- The completion handler of the request would push a tab bar, and the Log In screen it pushes it
    from is covered. -/
def Covered (s : Session) (call : Call) (a : Answer) : Prop :=
  match call, a with
  | .signIn _ _ tabBars, .ok _ => s.screen ≠ .logIn ∨ s.window.tabBars ≠ tabBars
  | _, _ => False

instance (s : Session) (call : Call) (a : Answer) : Decidable (s.Covered call a) :=
  match call, a with
  | .signIn _ _ _, .ok _ => inferInstanceAs (Decidable (_ ∨ _))
  | .signIn _ _ _, .error _ => .isFalse id
  | .createUser _ _ _, _ => .isFalse id
  | .setUserDocument _ _ _, _ => .isFalse id
  | .deleteUserDocument _, _ => .isFalse id
  | .deleteUser _ _, _ => .isFalse id
  | .putData _, _ => .isFalse id
  | .downloadURL _ _, _ => .isFalse id

/-! ## Steps -/

/-- What the user, the services, the listeners and the system do. -/
inductive Event where
  | touch (k : Touch)
  | watchedSnapshot (documents : List DocumentSnapshot)
  | wishlistSnapshot (documents : List DocumentSnapshot)
  | selectTab (tab : Tab)
  | logInButtonTapped (email password : String)
  | presentSignUp
  | typeSignUp (c : SignUpFields)
  /-- Done, or Return in the confirm field. -/
  | signUpButtonTapped
  | swipeDownSignUp
  | logOutButtonTapped (thrown : Option String)
  | uploadButtonTapped
  | deleteAccountButtonTapped
  | didFinishPicking (imageID : String) (compressed : Bool)
  /-- Cancel, a swipe down, or a picked item without an edited image. -/
  | imagePickerControllerDidCancel
  | serve (n : Nat) (a : Answer)
  | serveLate (n : Nat) (late : Late) (localizedDescription : String)
  | deliver (n : Nat)
  | deliverCovered (n : Nat)
  /-- Auth drops the current user on its own. -/
  | dropUser
  | launch (now : Date)

/-- The tab bar is on top, with no form over it. -/
def OnTabs (s : Session) : Prop :=
  s.screen = .tabs ∧ s.tabs.form = none

instance (s : Session) : Decidable s.OnTabs :=
  inferInstanceAs (Decidable (_ ∧ _))

/-- The profile screen is on top. -/
def OnProfile (s : Session) : Prop :=
  s.OnTabs ∧ s.window.selectedTab = .profile

instance (s : Session) : Decidable s.OnProfile :=
  inferInstanceAs (Decidable (_ ∧ _))

/-- The handlers of a running process. -/
def handle (s : Session) : Event → Option Reply
  | .touch k =>
    if s.screen = .tabs ∧ k.tab.all (· = s.window.selectedTab) then
      match s.tabs.touch s.email k with
      | none => none
      | some (.error trap) => some (s.crash trap).quiet
      | some (.ok r) =>
        some ⟨{ s with tabs := r.tabs, alerts := s.alerts ++ r.alert.toList }, r.write.toList, []⟩
    else none
  | .watchedSnapshot documents =>
    match watchedListener documents with
    | .error trap => some (s.crash trap).quiet
    | .ok callback =>
      some (quiet { s with tabs := { s.tabs with watchedList := callback.watchedList } })
  | .wishlistSnapshot documents =>
    match wishlistListener documents with
    | .error trap => some (s.crash trap).quiet
    | .ok wishlist => some (quiet { s with tabs := { s.tabs with wishlist := wishlist } })
  | .selectTab tab =>
    if s.OnTabs then some (s.selectTab tab).quiet else none
  | .logInButtonTapped email password =>
    if s.screen = .logIn then some ⟨s, [], [.signIn email password s.window.tabBars]⟩ else none
  | .presentSignUp =>
    if s.screen = .logIn then
      some (quiet { s.present (.signUp s.signUps.length) with
        signUps := s.signUps ++ [⟨"", "", ""⟩] })
    else none
  | .typeSignUp c =>
    match s.screen with
    | .signUp form => some (quiet { s with signUps := s.signUps.set form c })
    | _ => none
  | .signUpButtonTapped =>
    match s.screen with
    | .signUp form => s.signUps[form]?.map (s.signUpButtonTapped form)
    | _ => none
  | .swipeDownSignUp =>
    match s.screen with
    | .signUp form => some (s.dismiss (.signUp form)).quiet
    | _ => none
  | .logOutButtonTapped thrown =>
    if s.OnProfile then some (s.logOutButtonTapped thrown) else none
  | .uploadButtonTapped =>
    if s.OnProfile then some (s.present .imagePicker).quiet else none
  | .deleteAccountButtonTapped =>
    if s.OnProfile then some s.deleteAccountButtonTapped else none
  | .didFinishPicking imageID compressed =>
    if s.screen = .imagePicker then some (s.didFinishPicking imageID compressed) else none
  | .imagePickerControllerDidCancel =>
    if s.screen = .imagePicker then some (s.dismiss .imagePicker).quiet else none
  | .serve n a =>
    match s.calls[n]?, s.status n with
    | some call, .inFlight => (s.mark n (.answered a)).serve call a
    | _, _ => none
  | .serveLate n late err =>
    match s.calls[n]?, s.status n with
    | some call, .inFlight => ((s.mark n (.answered (.error err))).serveLate call late).map quiet
    | _, _ => none
  | .deliver n =>
    match s.calls[n]?, s.status n with
    | some call, .answered a => some ((s.mark n (.delivered a)).deliver n call a)
    | _, _ => none
  | .deliverCovered n =>
    match s.calls[n]?, s.status n with
    | some call, .answered a =>
      if s.Covered call a then some (s.mark n (.delivered a)).quiet else none
    | _, _ => none
  | .dropUser => some (s.updateCurrentUser none).quiet
  | .launch now => some (s.launch now).quiet

/-- A dead process handles nothing; its requests can still reach the services. -/
def Event.outlives : Event → Bool
  | .serve _ _ => true
  | .serveLate _ _ _ => true
  | .launch _ => true
  | _ => false

/-- The session after a reply. -/
def applyReply (s : Session) (r : Reply) : Session :=
  { r.session with
    firestore := DocumentStore.applyAll s.firestore r.writes
    calls := s.calls ++ r.started }

/-- What an event leads to: `none` where it cannot happen. -/
def reply (s : Session) (e : Event) : Option Reply :=
  if s.trap = none ∨ e.outlives then s.handle e else none

/-- The session after an event. -/
def step (s : Session) (e : Event) : Option Session :=
  (s.reply e).map s.applyReply

/-- Before anything has happened: a process without a user, on the Log In screen. -/
def first (accounts : List String) (firestore : Store) : Session where
  accounts := accounts
  uid := fun email => accounts.idxOf email
  uids := accounts.length
  firestore := firestore
  currentUser := none
  window := Window.bare
  tabs := Tabs.viewDidLoad (Watched.init 0)
  signUps := []
  calls := []
  status := fun _ => .inFlight
  listeners := []
  alerts := []
  trap := none

end Session

end Lumiere

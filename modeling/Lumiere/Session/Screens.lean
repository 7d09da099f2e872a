import Lumiere.Session.Requests

/-!
# Screens and the requests that move them

A log-in whose success has yet to be delivered will push a tab bar (`Arriving`), a deletion of the
account through the tab bar that is seen will push Log In over its Profile screen (`Leaving`). Both
wait until they are delivered or the process ends (`pending_step`); `Pends` says where a request
that waits has come from. `Moves` lists what an event can do to the window; `signs_step` and
`moves_step` say that every step is within `Signs` and `Moves`.
-/

namespace Lumiere
open Firestore
open Transition (Run Fires)

/-- A log-in that has succeeded and whose completion handler has yet to run. -/
def Call.arrives : Call → Status → Bool
  | .signIn _ _ _, .answered (.ok _) => true
  | _, _ => false

/-- A deletion of an account that was asked for on the tab bar, has succeeded, and whose completion
    handler has yet to run. -/
def Call.leaves (tabBars : Nat) : Call → Status → Bool
  | .deleteUser _ tabBar, .answered (.ok _) => tabBars = tabBar
  | _, _ => false

/-- What a step leaves of a window when it pushes nothing: the tab bar, Log In over its Profile
    screen, and Log In where it is shown. -/
structure Window.Keeps (w w' : Window) : Prop where
  tabBars : w'.tabBars = w.tabBars
  logIn : w'.logIn = w.logIn
  tabs : ¬ w'.ShowsLogIn → ¬ w.ShowsLogIn

namespace Window

variable {w : Window}

/-- Whether Log In is shown does not depend on the sheets. -/
lemma keeps_sheet {sheet : Option Sheet} : w.Keeps { w with sheet := sheet } :=
  ⟨rfl, rfl, id⟩

/-- A dismissal takes away the sheet at most. -/
lemma dismiss_eq (sheet : Sheet) : w.dismiss sheet = { w with sheet := none } ∨
    w.dismiss sheet = w := by
  rw [dismiss]
  split
  case isTrue => exact .inl rfl
  case isFalse => exact .inr rfl

/-- The tab bar that is seen gets Log In. -/
lemma pushLogIn_self : w.pushLogIn w.tabBars = { w with logIn := true } :=
  if_pos rfl

/-- When the tab screens are seen, no Log In and no sheet is over them. -/
lemma screen_tabs (tabs : w.screen = .tabs) : ¬ w.ShowsLogIn ∧ w.sheet = none := by
  rw [screen] at tabs
  split at tabs
  case h_1 => cases tabs
  case h_2 => cases tabs
  case h_3 sheet =>
    split at tabs
    case isTrue => cases tabs
    case isFalse shows => exact ⟨shows, sheet⟩

/-- The tab screens are seen where neither Log In nor a sheet is over them. -/
lemma screen_of_tabs (shows : ¬ w.ShowsLogIn) (sheet : w.sheet = none) : w.screen = .tabs := by
  rw [screen, sheet]
  exact if_neg shows

/-- The image picker is seen when it is presented. -/
lemma screen_imagePicker (picker : w.screen = .imagePicker) : w.sheet = some .imagePicker := by
  rw [screen] at picker
  split at picker
  case h_1 => cases picker
  case h_2 sheet => exact sheet
  case h_3 => split at picker <;> cases picker

end Window

namespace Session

/-- Some request is in the state. -/
def pending (s : Session) (p : Call → Status → Bool) : Bool :=
  (List.range s.calls.length).any fun n => s.calls[n]?.any fun c => p c (s.status n)

/-- A log-in is about to push its tab bar. -/
def Arriving (s : Session) : Prop :=
  s.pending Call.arrives = true

/-- A deletion is about to push Log In over the Profile screen. -/
def Leaving (s : Session) : Prop :=
  s.pending (Call.leaves s.window.tabBars) = true

instance (s : Session) : Decidable s.Arriving :=
  inferInstanceAs (Decidable (_ = true))

instance (s : Session) : Decidable s.Leaving :=
  inferInstanceAs (Decidable (_ = true))

/-- The event pushes a tab bar or Log In, or starts another process. -/
def turns (s : Session) : Event → Bool
  | .logOutButtonTapped _ => true
  | .deliver n =>
    s.calls[n]?.any fun c => c.arrives (s.status n) || c.leaves s.window.tabBars (s.status n)
  | .launch _ => true
  | _ => false

variable {s s' : Session} {e : Event}

/-! ## Pending requests -/

/-- A request in the state, by its place. -/
lemma pending_iff {p : Call → Status → Bool} :
    s.pending p = true ↔
      ∃ (n : Nat) (c : Call), s.calls[n]? = some c ∧ p c (s.status n) = true := by
  rw [pending, List.any_eq_true]
  constructor
  · rintro ⟨n, _, some⟩
    obtain ⟨c, ec, h⟩ := (Option.any_eq_true _ _).1 some
    exact ⟨n, c, ec, h⟩
  · rintro ⟨n, c, ec, h⟩
    refine ⟨n, List.mem_range.2 (List.getElem?_eq_some_iff.1 ec).1, ?_⟩
    rw [ec]
    exact h

/-- A request that is answered stays so until it is delivered or the process ends. -/
lemma answered_step {n a} (st : s.step e = some s') (ans : s.status n = .answered a) :
    s'.status n = .answered a ∨ e = .deliver n ∨ e = .deliverCovered n ∨
      ∃ now, e = .launch now := by
  generalize ess : s'.status = ss
  have become := answers_step st
  rw [ess] at become
  cases become with
  | same => exact .inl ans
  | serve _ flying | serveLate _ flying =>
    rw [Function.update_apply]
    split
    case isTrue en =>
      subst en
      cases ans.symm.trans flying
    case isFalse => exact .inl ans
  | @deliver m =>
    rw [Function.update_apply]
    split
    case isTrue en => exact .inr (.inl (by rw [en]))
    case isFalse => exact .inl ans
  | @deliverCovered m =>
    rw [Function.update_apply]
    split
    case isTrue en => exact .inr (.inr (.inl (by rw [en])))
    case isFalse => exact .inl ans
  | launch => exact .inr (.inr (.inr ⟨_, rfl⟩))

/-- What waits for its delivery goes on waiting, unless it is delivered or the process ends. -/
lemma pending_step {p : Call → Status → Bool} (st : s.step e = some s')
    (answered : ∀ c st, p c st = true → ∃ a, st = .answered a) (wait : s.pending p = true) :
    s'.pending p = true ∨
      (∃ (n : Nat) (c : Call), (e = .deliver n ∨ e = .deliverCovered n) ∧ s.calls[n]? = some c ∧
        p c (s.status n) = true) ∨
      ∃ now, e = .launch now := by
  obtain ⟨n, c, ec, h⟩ := pending_iff.1 wait
  obtain ⟨a, ans⟩ := answered _ _ h
  rcases answered_step st ans with same | deliver | covered | launch
  · refine .inl (pending_iff.2 ⟨n, c, calls_step st ec, ?_⟩)
    rw [same, ← ans]
    exact h
  · exact .inr (.inl ⟨n, c, .inl deliver, ec, h⟩)
  · exact .inr (.inl ⟨n, c, .inr covered, ec, h⟩)
  · exact .inr (.inr launch)

/-- What waits after an event has waited before it, or the event has brought it about. -/
inductive Pends (s : Session) (p : Call → Status → Bool) : Event → Prop where
  | stays {e'} {n : Nat} {c : Call} :
    s.calls[n]? = some c →
    p c (s.status n) = true →
    e' ≠ .deliver n →
    e' ≠ .deliverCovered n →
    (∀ now, e' ≠ .launch now) →
    Pends s p e'
  | started {e' i c} :
    Started s e' i c →
    p c .inFlight = true →
    Pends s p e'
  | served {n : Nat} {c : Call} {a} :
    s.calls[n]? = some c →
    s.status n = .inFlight →
    p c (.answered a) = true →
    Pends s p (.serve n a)
  | servedLate {n : Nat} {c : Call} {late err} :
    s.calls[n]? = some c →
    s.status n = .inFlight →
    p c (.answered (.error err)) = true →
    Pends s p (.serveLate n late err)
  | delivered {e'} {n : Nat} {c : Call} {a} :
    s.calls[n]? = some c →
    p c (.delivered a) = true →
    Pends s p e'
  | launched {now} :
    Pends s p (.launch now)

/-- Where what waits after a step has come from. -/
lemma pends_step {p : Call → Status → Bool} (num : s.Numbered) (st : s.step e = some s')
    (wait : s'.pending p = true) : Pends s p e := by
  obtain ⟨n, c, ec, h⟩ := pending_iff.1 wait
  rcases getElem?_calls st ec with old | ⟨i, started, en⟩
  · generalize ess : s'.status = ss at h
    have become := answers_step st
    rw [ess] at become
    cases become with
    | same noServe noDeliver =>
      cases e with
      | launch now => exact .launched
      | deliverCovered m =>
        obtain ⟨r, er, es⟩ := step_inv st
        subst es
        cases replies_inv er with
        | deliverCovered em ea =>
          by_cases en : n = m
          · subst en
            change Function.update s.status n _ = _ at ess
            rw [← ess, Function.update_self] at h
            exact .delivered old h
          · exact .stays old h (fun h => by cases h) (fun h => by cases h; exact en rfl)
              (fun _ h => by cases h)
      | deliver m => exact absurd rfl (noDeliver m)
      | _ => exact .stays old h (fun h => by cases h) (fun h => by cases h) (fun _ h => by cases h)
    | @serve m a _ _ flying =>
      by_cases en : n = m
      · subst en
        rw [Function.update_self] at h
        exact .served old flying h
      · rw [Function.update_of_ne en] at h
        exact .stays old h (fun h => by cases h) (fun h => by cases h) (fun _ h => by cases h)
    | @serveLate m late err _ _ flying =>
      by_cases en : n = m
      · subst en
        rw [Function.update_self] at h
        exact .servedLate old flying h
      · rw [Function.update_of_ne en] at h
        exact .stays old h (fun h => by cases h) (fun h => by cases h) (fun _ h => by cases h)
    | @deliver m a =>
      by_cases en : n = m
      · subst en
        rw [Function.update_self] at h
        exact .delivered old h
      · rw [Function.update_of_ne en] at h
        exact .stays old h (fun h => by cases h; exact en rfl) (fun h => by cases h)
          (fun _ h => by cases h)
    | @deliverCovered m a =>
      by_cases en : n = m
      · subst en
        rw [Function.update_self] at h
        exact .delivered old h
      · rw [Function.update_of_ne en] at h
        exact .stays old h (fun h => by cases h) (fun h => by cases h; exact en rfl)
          (fun _ h => by cases h)
    | launch => exact .launched
  · rw [num.inFlight st (by omega)] at h
    exact .started started h

/-- What a log-in that is about to push its tab bar looks like. -/
lemma arrives_inv {c st} (h : Call.arrives c st = true) :
    (∃ email password k, c = .signIn email password k) ∧ ∃ x, st = .answered (.ok x) := by
  rw [Call.arrives.eq_def] at h
  split at h
  case h_1 => exact ⟨⟨_, _, _, rfl⟩, _, rfl⟩
  case h_2 => cases h

/-- What a deletion that is about to push Log In looks like. -/
lemma leaves_inv {k c st} (h : Call.leaves k c st = true) :
    (∃ user, c = .deleteUser user k) ∧ ∃ x, st = .answered (.ok x) := by
  rw [Call.leaves.eq_def] at h
  split at h
  case h_1 user tabBar x =>
    have top := of_decide_eq_true h
    subst top
    exact ⟨⟨user, rfl⟩, x, rfl⟩
  case h_2 => cases h

/-- A log-in waits for its delivery. -/
lemma arrives_answered (c : Call) (st : Status) (h : c.arrives st = true) :
    ∃ a, st = .answered a := by
  obtain ⟨_, x, e⟩ := arrives_inv h
  exact ⟨_, e⟩

/-- So does a deletion. -/
lemma leaves_answered {k : Nat} (c : Call) (st : Status) (h : c.leaves k st = true) :
    ∃ a, st = .answered a := by
  obtain ⟨_, x, e⟩ := leaves_inv h
  exact ⟨_, e⟩

/-- What is not delivered in a step that turns nothing. -/
lemma not_delivered {n : Nat} {c : Call} (ec : s.calls[n]? = some c)
    (turns : s.turns (.deliver n) = false) :
    c.arrives (s.status n) = false ∧ c.leaves s.window.tabBars (s.status n) = false := by
  rw [Session.turns, ec] at turns
  exact Bool.or_eq_false_iff.1 turns

/-- A log-in that waits goes on waiting, unless it is delivered or the process ends. -/
lemma Arriving.step (st : s.step e = some s') (arriving : s.Arriving) :
    s'.Arriving ∨ (∃ (n : Nat) (c : Call), e = .deliver n ∧ s.calls[n]? = some c ∧
      c.arrives (s.status n) = true) ∨ (∃ n, e = .deliverCovered n) ∨ ∃ now, e = .launch now := by
  rcases pending_step st arrives_answered arriving with wait | ⟨n, c, ee | ee, ec, h⟩ | launch
  · exact .inl wait
  · exact .inr (.inl ⟨n, c, ee, ec, h⟩)
  · exact .inr (.inr (.inl ⟨n, ee⟩))
  · exact .inr (.inr (.inr launch))

/-- A request that waits beside the one an event deals with goes on waiting. -/
lemma pending_others {p : Call → Status → Bool} {n : Nat} (st : s.step e = some s')
    (lost : ∀ c, p c .lost = false) (others : ∀ m, m ≠ n → s'.status m = s.status m)
    (wait : (s.mark n .lost).pending p = true) : s'.pending p = true := by
  obtain ⟨m, c, ec, h⟩ := pending_iff.1 wait
  change p c (Function.update s.status n .lost m) = true at h
  by_cases em : m = n
  · subst em
    rw [Function.update_self, lost] at h
    cases h
  · rw [Function.update_of_ne em] at h
    refine pending_iff.2 ⟨m, c, calls_step st ec, ?_⟩
    rw [others m em]
    exact h

/-- A deletion that waits goes on waiting while nothing is pushed. -/
lemma Leaving.step (st : s.step e = some s') (turns : s.turns e = false)
    (top : s'.window.tabBars = s.window.tabBars) (leaving : s.Leaving) : s'.Leaving := by
  rw [Leaving, top]
  rcases pending_step st leaves_answered leaving with wait | ⟨n, c, ee | ee, ec, h⟩ | ⟨now, ee⟩
  · exact wait
  · subst ee
    rw [(not_delivered ec turns).2] at h
    cases h
  · subst ee
    obtain ⟨r, er, es⟩ := step_inv st
    subst es
    cases replies_inv er with
    | deliverCovered ec' ea covered =>
      cases ec.symm.trans ec'
      obtain ⟨⟨_, edel⟩, _⟩ := leaves_inv h
      subst edel
      cases covered.signsIn
  · subst ee
    cases turns

/-! ## The window -/

/-- What becomes of the window. -/
inductive Moves (s : Session) : Event → Window → Prop where
  | stays {e'} :
    s.turns e' = false →
    Moves s e' s.window
  | selectTab {tab loaded} :
    s.OnTabs →
    Moves s (.selectTab tab) { s.window with selectedTab := tab, loaded := loaded }
  | presentSignUp {form} :
    s.screen = .logIn →
    Moves s .presentSignUp { s.window with sheet := some (.signUp form) }
  | uploadButtonTapped :
    s.OnProfile →
    Moves s .uploadButtonTapped { s.window with sheet := some .imagePicker }
  | dismiss {e'} :
    s.turns e' = false →
    Moves s e' { s.window with sheet := none }
  | logOut {thrown} :
    s.OnProfile →
    Moves s (.logOutButtonTapped thrown) { s.window with logIn := true }
  | arrives {n : Nat} {c : Call} {loaded} :
    s.calls[n]? = some c →
    c.arrives (s.status n) = true →
    Moves s (.deliver n) { s.window.pushTabBar with loaded := loaded }
  | leaves {n : Nat} {c : Call} :
    s.calls[n]? = some c →
    c.leaves s.window.tabBars (s.status n) = true →
    Moves s (.deliver n) { s.window with logIn := true }
  | launchLogIn {now} :
    s.currentUser = none →
    Moves s (.launch now) Window.bare
  | launchTabs {now loaded} :
    s.currentUser ≠ none →
    Moves s (.launch now) { Window.bare.pushTabBar with loaded := loaded }

/-- The load of a screen adds it to the loaded ones at most. -/
lemma load_window {tab} :
    ∃ loaded, (s.load tab).window = { s.window with loaded := loaded } := by
  rw [load]
  split
  case h_1 => exact ⟨s.window.loaded, rfl⟩
  case h_2 => exact ⟨_, rfl⟩

/-- The window with a new tab bar. -/
lemma pushTabBar_window :
    ∃ loaded, s.pushTabBar.window = { s.window.pushTabBar with loaded := loaded } :=
  load_window

/-- The window after a tap on the tab bar. -/
lemma selectTab_window {tab} :
    ∃ loaded, (s.selectTab tab).window =
      { s.window with selectedTab := tab, loaded := loaded } := by
  rw [selectTab]
  split
  case isTrue => exact ⟨s.window.loaded, rfl⟩
  case isFalse => exact load_window

/-- The window of a new process. -/
lemma launch_window {now} :
    s.currentUser = none ∧ (s.launch now).window = Window.bare ∨
      s.currentUser ≠ none ∧ ∃ loaded,
        (s.launch now).window = { Window.bare.pushTabBar with loaded := loaded } := by
  rw [launch]
  split
  case isTrue nobody => exact .inl ⟨nobody, rfl⟩
  case isFalse signed => exact .inr ⟨signed, pushTabBar_window⟩

/-- A dismissal moves the window when it turns nothing. -/
lemma Moves.of_dismiss {sheet} (turns : s.turns e = false) :
    Moves s e (s.window.dismiss sheet) := by
  rcases s.window.dismiss_eq sheet with h | h
  · rw [h]
    exact .dismiss turns
  · rw [h]
    exact .stays turns

/-- The window after a completion handler. -/
lemma deliver_window {n : Nat} {c a} (ec : s.calls[n]? = some c) (ea : s.status n = .answered a) :
    Moves s (.deliver n) ((s.mark n (.delivered a)).deliver n c a).session.window := by
  have quiet (no : c.arrives (.answered a) = false)
      (no' : c.leaves s.window.tabBars (.answered a) = false) : s.turns (.deliver n) = false := by
    rw [turns, ec, ea]
    exact Bool.or_eq_false_iff.2 ⟨no, no'⟩
  cases c with
  | signIn email password k =>
    cases a with
    | error err => exact .stays (quiet rfl rfl)
    | ok x =>
      obtain ⟨loaded, ew⟩ := @pushTabBar_window (s.mark n (.delivered (.ok x)))
      change Moves s _ (s.mark n (.delivered (.ok x))).pushTabBar.window
      rw [ew]
      exact .arrives ec (by rw [ea]; rfl)
  | deleteUser user k =>
    cases a with
    | error err => exact .stays (quiet rfl rfl)
    | ok x =>
      change Moves s _ (s.window.pushLogIn k)
      by_cases top : s.window.tabBars = k
      · subst top
        rw [Window.pushLogIn_self]
        exact .leaves ec (by rw [ea]; exact decide_eq_true rfl)
      · rw [Window.pushLogIn, if_neg top]
        exact .stays (quiet rfl (decide_eq_false top))
  | setUserDocument form attempt d =>
    cases a with
    | error err => exact .stays (quiet rfl rfl)
    | ok x => exact .of_dismiss (quiet rfl rfl)
  | createUser | downloadURL =>
    cases a with
    | error err => exact .stays (quiet rfl rfl)
    | ok x =>
      rw [Session.deliver]
      split <;> exact .stays (quiet rfl rfl)
  | deleteUserDocument => cases a <;> exact .stays (quiet rfl rfl)
  | putData => cases a <;> exact .stays (quiet rfl rfl)

/-- The window after a step. -/
lemma moves_step (st : s.step e = some s') : Moves s e s'.window := by
  obtain ⟨r, er, es⟩ := step_inv st
  subst es
  change Moves s e r.session.window
  cases replies_inv er with
  | selectTab on =>
    obtain ⟨loaded, ew⟩ := selectTab_window (s := s)
    rw [quiet, ew]
    exact .selectTab on
  | presentSignUp screen => exact .presentSignUp screen
  | uploadButtonTapped on => exact .uploadButtonTapped on
  | swipeDownSignUp | putData | didCancel => exact .of_dismiss rfl
  | logOut on | logOutThrown on =>
    change Moves s _ (s.window.pushLogIn s.window.tabBars)
    rw [Window.pushLogIn_self]
    exact .logOut on
  | serve _ _ h =>
    rw [(serve_frame h).2.window]
    exact .stays rfl
  | serveLate _ _ late =>
    rw [quiet, (serveLate_frame late).window]
    exact .stays rfl
  | deliver ec ea => exact deliver_window ec ea
  | launch =>
    rcases launch_window (s := s) with ⟨nobody, ew⟩ | ⟨signed, loaded, ew⟩
    · rw [quiet, ew]
      exact .launchLogIn nobody
    · rw [quiet, ew]
      exact .launchTabs signed
  | _ => exact .stays rfl

/-- A step that turns nothing keeps the tab bar. -/
lemma keeps_step (st : s.step e = some s') (turns : s.turns e = false) :
    s.window.Keeps s'.window := by
  have moves := moves_step st
  generalize s'.window = w at moves
  cases moves with
  | stays => exact ⟨rfl, rfl, id⟩
  | selectTab on => exact ⟨rfl, rfl, fun _ => (Window.screen_tabs on.1).1⟩
  | presentSignUp | uploadButtonTapped | dismiss => exact Window.keeps_sheet
  | logOut | launchLogIn | launchTabs => cases turns
  | arrives ec arrives =>
    rw [(not_delivered ec turns).1] at arrives
    cases arrives
  | leaves ec leaves =>
    rw [(not_delivered ec turns).2] at leaves
    cases leaves

/-! ## The current user -/

/-- The accounts and the current user after a step. -/
lemma signs_step (st : s.step e = some s') : Signs s e s'.accounts s'.currentUser := by
  obtain ⟨r, er, es⟩ := step_inv st
  subst es
  exact reply_signs er

/-- A sign-out by force takes the user with the ID, or leaves the current one. -/
lemma signOutByForce_user (uid : Nat) :
    (s.signOutByForce uid).currentUser = none ∧ s.currentUser.map User.uid = some uid ∨
      (s.signOutByForce uid).currentUser = s.currentUser ∧
        s.currentUser.map User.uid ≠ some uid := by
  rw [signOutByForce]
  split
  case isTrue mine => exact .inl ⟨rfl, mine⟩
  case isFalse other => exact .inr ⟨rfl, other⟩

/-! ## The tab screens -/

/-- Without a user no screen of the tab bar has a path to listen to. -/
lemma listenerPath_none {tab} (none : s.currentUser = none) :
    s.listenerPath tab = .error .unexpectedlyFoundNil := by
  have email : s.email = Option.none := by rw [Session.email, none]; rfl
  cases tab <;> rw [listenerPath, email] <;> rfl

/-- Its load traps. -/
lemma load_none {tab} (none : s.currentUser = none) :
    s.load tab = s.crash .unexpectedlyFoundNil := by
  rw [load, listenerPath_none none]

/-- A tab bar that comes up without a trap has a user. -/
lemma pushTabBar_signed (run : s.pushTabBar.trap = none) : s.currentUser ≠ none := by
  intro none
  rw [pushTabBar, load_none] at run
  · cases run
  · exact none

/-- The completion handler of a log-in leaves a running process only when someone is signed in. -/
lemma arrives_signed {n : Nat} {c : Call} (st : s.step (.deliver n) = some s')
    (ec : s.calls[n]? = some c) (arrives : c.arrives (s.status n) = true) (run : s'.trap = none) :
    s'.currentUser ≠ none := by
  obtain ⟨⟨email, password, k, e1⟩, x, e2⟩ := arrives_inv arrives
  subst e1
  obtain ⟨r, er, es⟩ := step_inv st
  subst es
  have handled := reply_deliver er ec e2
  subst handled
  have signed := pushTabBar_signed (s := s.mark n (.delivered (.ok x))) run
  change (s.mark n (.delivered (.ok x))).pushTabBar.currentUser ≠ none
  rw [pushTabBar_frame.2.1]
  exact signed

/-- The answer of a request, once it has been served. -/
lemma serve_status {n a} (st : s.step (.serve n a) = some s') : s'.status n = .answered a := by
  generalize ess : s'.status = ss
  have become := answers_step st
  rw [ess] at become
  cases become with
  | same no => exact absurd rfl (no n a)
  | serve => exact Function.update_self _ _ _

end Session

end Lumiere

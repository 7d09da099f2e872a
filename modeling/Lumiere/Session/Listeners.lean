import Lumiere.Session.Screens

/-!
# The snapshot listeners of a process

Every screen of a tab bar starts a listener when it is loaded, and the registration is discarded: no
handler ever ends a listener. It ends with an error or with the process. So the listeners that are
active after a run need not belong to the user who is signed in; each of them is on a path of the
user who was signed in when its screen was loaded, and each tab bar that is pushed has at most one
for each of its screens (`listeners_run`).
-/

namespace Lumiere
open Firestore
open Transition (Run Fires)

namespace Window

variable {w : Window}

/-- A dismissal leaves the tab bar as it is. -/
lemma dismiss_tabBar {sheet} :
    (w.dismiss sheet).loaded = w.loaded ∧ (w.dismiss sheet).tabBars = w.tabBars := by
  rcases w.dismiss_eq sheet with h | h <;> rw [h] <;> exact ⟨rfl, rfl⟩

/-- So does Log In over its Profile screen. -/
lemma pushLogIn_tabBar {k} :
    (w.pushLogIn k).loaded = w.loaded ∧ (w.pushLogIn k).tabBars = w.tabBars := by
  rw [pushLogIn]
  split <;> exact ⟨rfl, rfl⟩

end Window

namespace Session

/-- The event starts a new process. -/
def Event.isLaunch : Event → Bool
  | .launch _ => true
  | _ => false

/-- The listeners that are left of those before an event. -/
def keptListeners (s : Session) (e : Event) : List (Tab × List String) :=
  if e.isLaunch then [] else s.listeners

/-- The tab bars that are left of those before an event. -/
def keptTabBars (s : Session) (e : Event) : Nat :=
  if e.isLaunch then 0 else s.window.tabBars

/-- The error callback of a listener. -/
def listenerError (s : Session) (localizedDescription : String) : Session :=
  if localizedDescription ≠ "Missing or insufficient permissions." then
    s.showAlert localizedDescription
  else s

/-- What becomes of the loaded screens and the tab bars, and the listeners that are started. -/
inductive Loads (s : Session) : Event → List Tab → Nat → List (Tab × List String) → Prop where
  | same {e} :
    e.isLaunch = false →
    Loads s e s.window.loaded s.window.tabBars []
  | selectTab {tab path} :
    s.OnTabs →
    tab ∉ s.window.loaded →
    s.listenerPath tab = .ok path →
    Loads s (.selectTab tab) (tab :: s.window.loaded) s.window.tabBars [(tab, path)]
  | pushed {e path} :
    s.listenerPath .watched = .ok path →
    Loads s e [.watched] (s.keptTabBars e + 1) [(.watched, path)]
  -- a tab bar that traps, or Log In of a new process
  | bare {e k} :
    s.keptTabBars e < k ∨ e.isLaunch = true →
    Loads s e [] k []

variable {s s' : Session} {e : Event}

/-- Only a launch starts a new process. -/
lemma isLaunch_of_living (living : ∀ now, e ≠ .launch now) : e.isLaunch = false := by
  cases e with
  | launch now => exact absurd rfl (living now)
  | _ => rfl

/-- A screen that is loaded starts its listener, unless it traps. -/
lemma load_inv {tab} :
    (s.load tab).window = s.window ∧ (s.load tab).listeners = s.listeners ∨
      ∃ path, s.listenerPath tab = .ok path ∧
        (s.load tab).window = { s.window with loaded := tab :: s.window.loaded } ∧
        (s.load tab).listeners = s.listeners ++ [(tab, path)] := by
  rw [load]
  split
  case h_1 => exact .inl ⟨rfl, rfl⟩
  case h_2 path e => exact .inr ⟨path, e, rfl, rfl⟩

/-- So does the Watched screen of a new tab bar. -/
lemma pushTabBar_inv :
    s.pushTabBar.window = s.window.pushTabBar ∧ s.pushTabBar.listeners = s.listeners ∨
      ∃ path, s.listenerPath .watched = .ok path ∧
        s.pushTabBar.window = { s.window.pushTabBar with loaded := [.watched] } ∧
        s.pushTabBar.listeners = s.listeners ++ [(.watched, path)] :=
  load_inv

/-- What a tap on the tab bar loads. -/
lemma selectTab_loads {tab} (on : s.OnTabs) :
    ∃ new, Loads s (.selectTab tab) (s.selectTab tab).window.loaded
      (s.selectTab tab).window.tabBars new ∧ (s.selectTab tab).listeners = s.listeners ++ new := by
  have alone : s.listeners = s.listeners ++ [] := (List.append_nil _).symm
  rw [Session.selectTab]
  split
  case isTrue => exact ⟨_, .same rfl, alone⟩
  case isFalse new =>
    rcases @load_inv { s with window := { s.window with selectedTab := tab } } tab with
      ⟨window, listeners⟩ | ⟨path, ep, window, listeners⟩
    · rw [window, listeners]
      exact ⟨_, .same rfl, alone⟩
    · rw [window, listeners]
      exact ⟨_, .selectTab on new ep, rfl⟩

/-- Of the completion handlers only that of a log-in loads a screen. -/
lemma deliver_listeners {n c a} (other : c.arrives (.answered a) = false) :
    (s.deliver n c a).session.listeners = s.listeners ∧
      (s.deliver n c a).session.window.loaded = s.window.loaded ∧
      (s.deliver n c a).session.window.tabBars = s.window.tabBars := by
  cases c with
  | signIn =>
    cases a with
    | ok => cases other
    | error => exact ⟨rfl, rfl, rfl⟩
  | createUser | downloadURL =>
    cases a with
    | ok =>
      rw [Session.deliver]
      split <;> exact ⟨rfl, rfl, rfl⟩
    | error => exact ⟨rfl, rfl, rfl⟩
  | setUserDocument form =>
    cases a with
    | ok => exact ⟨rfl, Window.dismiss_tabBar⟩
    | error => exact ⟨rfl, rfl, rfl⟩
  | deleteUser user k =>
    cases a with
    | ok => exact ⟨rfl, Window.pushLogIn_tabBar⟩
    | error => exact ⟨rfl, rfl, rfl⟩
  | deleteUserDocument => cases a <;> exact ⟨rfl, rfl, rfl⟩
  | putData => cases a <;> exact ⟨rfl, rfl, rfl⟩

/-- What a step loads. -/
lemma loads_step (st : s.step e = some s') :
    ∃ new, Loads s e s'.window.loaded s'.window.tabBars new ∧
      s'.listeners = s.keptListeners e ++ new := by
  have alone : s.listeners = s.listeners ++ [] := (List.append_nil _).symm
  obtain ⟨r, er, es⟩ := step_inv st
  subst es
  have dismiss (sheet) (living : e.isLaunch = false) :
      Loads s e (s.window.dismiss sheet).loaded (s.window.dismiss sheet).tabBars [] := by
    rw [Window.dismiss_tabBar.1, Window.dismiss_tabBar.2]
    exact .same living
  have logIn (living : e.isLaunch = false) :
      Loads s e (s.window.pushLogIn s.window.tabBars).loaded
        (s.window.pushLogIn s.window.tabBars).tabBars [] := by
    rw [Window.pushLogIn_tabBar.1, Window.pushLogIn_tabBar.2]
    exact .same living
  change ∃ new, Loads s e r.session.window.loaded r.session.window.tabBars new ∧
    r.session.listeners = s.keptListeners e ++ new
  cases replies_inv er with
  | selectTab on => exact selectTab_loads on
  | serve _ _ h =>
    rw [(serve_frame h).2.window, (serve_frame h).2.listeners]
    exact ⟨_, .same rfl, alone⟩
  | serveLate _ _ late =>
    rw [quiet, (serveLate_frame late).window, (serveLate_frame late).listeners]
    exact ⟨_, .same rfl, alone⟩
  | @deliver n a c ec ea =>
    cases arrives : c.arrives (.answered a) with
    | false =>
      obtain ⟨listeners, loaded, tabBars⟩ :=
        deliver_listeners (s := s.mark n (.delivered a)) (n := n) arrives
      rw [loaded, tabBars, listeners]
      exact ⟨_, .same rfl, alone⟩
    | true =>
      obtain ⟨⟨_, _, _, call⟩, _, answer⟩ := arrives_inv arrives
      cases call
      cases answer
      rcases pushTabBar_inv with ⟨window, listeners⟩ | ⟨path, ep, window, listeners⟩
      · rw [Session.deliver, quiet, window, listeners]
        exact ⟨_, .bare (.inl (Nat.lt_succ_self _)), alone⟩
      · rw [Session.deliver, quiet, window, listeners]
        exact ⟨_, .pushed ep, rfl⟩
  | @launch now =>
    change ∃ new, Loads s _ (s.launch now).window.loaded (s.launch now).window.tabBars new ∧
      (s.launch now).listeners = [] ++ new
    rw [launch]
    split
    case isTrue => exact ⟨_, .bare (.inr rfl), rfl⟩
    case isFalse signed =>
      rcases pushTabBar_inv with ⟨window, listeners⟩ | ⟨path, ep, window, listeners⟩
      · rw [window, listeners]
        exact ⟨_, .bare (.inr rfl), rfl⟩
      · rw [window, listeners]
        exact ⟨_, .pushed ep, rfl⟩
  | @swipeDownSignUp form => exact ⟨_, dismiss (.signUp form) rfl, alone⟩
  | putData | didCancel => exact ⟨_, dismiss .imagePicker rfl, alone⟩
  | logOut | logOutThrown => exact ⟨_, logIn rfl, alone⟩
  | _ => exact ⟨_, .same rfl, alone⟩

end Session

/-- A session with the listeners that are active, of all those it has started. -/
structure Listening where
  session : Session
  active : List (Tab × List String)

namespace Listening

/-- What happens to a session and to its listeners. -/
inductive Event where
  | session (e : Session.Event)
  /-- An active listener receives an error, its last event. -/
  | error (i : Nat) (localizedDescription : String)

/-- The listeners that are left of those before an event. -/
def kept (s : Listening) (e : Session.Event) : List (Tab × List String) :=
  if e.isLaunch then [] else s.active

/-- A session goes on, and a listener ends with an error or with the process. -/
def step (s : Listening) : Event → Option Listening
  | .session e =>
    (s.session.step e).map fun t =>
      ⟨t, s.kept e ++ t.listeners.drop (s.session.keptListeners e).length⟩
  | .error i localizedDescription =>
    if s.session.trap = none ∧ i < s.active.length then
      some ⟨s.session.listenerError localizedDescription, s.active.eraseIdx i⟩
    else none

/-- Before anything has happened. -/
def first (accounts : List String) (firestore : Store) : Listening where
  session := Session.first accounts firestore
  active := []

/-- How many of the listeners are those of a tab. -/
def count (tab : Tab) (listeners : List (Tab × List String)) : Nat :=
  listeners.countP fun l => l.1 = tab

/-- One live set of listeners: all of them on paths of the user who is signed in, and at most one
    for each screen. -/
structure OneSet (t : Listening) : Prop where
  own : ∀ l ∈ t.active, t.session.listenerPath l.1 = .ok l.2
  one : ∀ tab, count tab t.active ≤ 1

/-- The run of `es` from `s` has an event that has added the listener to the active ones, for its
    tab and on a path of the user who was signed in at that moment; no other process has been
    started since. -/
def StartedFor (s : Listening) (es : List Event) (l : Tab × List String) : Prop :=
  ∃ es1 e es2 u v user, es = es1 ++ .session e :: es2 ∧ Run (Fires step) s es1 u ∧
    u.step (.session e) = some v ∧ v.active = u.kept e ++ [l] ∧
    u.session.currentUser = some user ∧ u.session.listenerPath l.1 = .ok l.2 ∧
    ∀ now, .session (.launch now) ∉ es2

/-- Each tab bar has started at most one listener for each of its screens. -/
structure Bounded (s : Listening) : Prop where
  count : ∀ tab, count tab s.active ≤ s.session.window.tabBars
  unloaded : ∀ tab, tab ∉ s.session.window.loaded →
    Listening.count tab s.active ≤ s.session.window.tabBars - 1

variable {s s' t : Listening}

/-! ## Steps -/

/-- A step of the session adds the listeners that it starts. -/
lemma session_inv {e} (st : s.step (.session e) = some s') :
    s.session.step e = some s'.session ∧
      ∃ new, s.session.Loads e s'.session.window.loaded s'.session.window.tabBars new ∧
        s'.active = s.kept e ++ new := by
  obtain ⟨t, st', es⟩ := Option.map_eq_some_iff.1 st
  subst es
  obtain ⟨new, loads, listeners⟩ := Session.loads_step st'
  refine ⟨st', new, loads, ?_⟩
  rw [listeners, List.drop_left]

/-- An error takes its listener and shows an alert at most. -/
lemma error_inv {i message} (st : s.step (.error i message) = some s') :
    s'.session.window = s.session.window ∧ s'.active = s.active.eraseIdx i := by
  rw [step] at st
  split at st
  case isFalse => cases st
  case isTrue =>
    cases st
    refine ⟨?_, rfl⟩
    rw [Session.listenerError]
    split <;> rfl

/-- Listeners of a tab are counted list by list. -/
lemma count_append {tab l1 l2} : count tab (l1 ++ l2) = count tab l1 + count tab l2 :=
  List.countP_append

/-- One listener less does not raise the count. -/
lemma count_eraseIdx {tab i l} : count tab (l.eraseIdx i) ≤ count tab l :=
  (List.eraseIdx_sublist l i).countP_le

/-- A listener counts for its own tab. -/
lemma count_singleton {tab tab' path} :
    count tab [(tab', path)] = if tab' = tab then 1 else 0 := by
  simp [count, List.countP_singleton]

/-- It does not count for another one. -/
lemma count_other {tab tab' path} (other : tab' ≠ tab) : count tab [(tab', path)] = 0 := by
  rw [count_singleton, if_neg other]

/-- It counts once at most. -/
lemma count_singleton_le {tab tab' path} : count tab [(tab', path)] ≤ 1 := by
  rw [count_singleton]
  split <;> omega

/-- What is left of the listeners is within what is left of the tab bars. -/
lemma Bounded.kept (inv : Bounded s) (e : Session.Event) (tab : Tab) :
    Listening.count tab (s.kept e) ≤ s.session.keptTabBars e := by
  rw [Listening.kept, Session.keptTabBars]
  split
  case isTrue => exact le_rfl
  case isFalse => exact inv.count tab

/-- A step keeps the listeners within the tab bars. -/
lemma Bounded.step {e} (st : s.step e = some s') (inv : Bounded s) : Bounded s' := by
  cases e with
  | error i message =>
    obtain ⟨window, active⟩ := error_inv st
    refine ⟨?_, ?_⟩
    · intro tab
      rw [active, window]
      exact count_eraseIdx.trans (inv.count tab)
    · intro tab new
      rw [window] at new
      rw [active, window]
      exact count_eraseIdx.trans (inv.unloaded tab new)
  | session e =>
    obtain ⟨st', started, loads, active⟩ := session_inv st
    have kept := inv.kept e
    generalize el : s'.session.window.loaded = loaded at loads
    generalize ek : s'.session.window.tabBars = k at loads
    refine ⟨?_, ?_⟩
    · intro tab
      have kept := kept tab
      rw [active, ek, count_append]
      cases loads with
      | same living =>
        rw [Session.keptTabBars, living] at kept
        exact kept
      | bare pushed =>
        rcases pushed with lt | launch
        · exact kept.trans lt.le
        · rw [Listening.kept, if_pos launch]
          exact Nat.zero_le _
      | @selectTab tab' path on new =>
        have pushed : s.session.window.tabBars ≠ 0 := fun none =>
          (Window.screen_tabs on.1).1 (.inl none)
        change Listening.count tab s.active + _ ≤ _
        rw [count_singleton]
        split
        case isTrue same =>
          subst same
          have unloaded := inv.unloaded tab' new
          omega
        case isFalse => exact inv.count tab
      | @pushed _ path =>
        have one := @count_singleton_le tab .watched path
        omega
    · intro tab new
      rw [el] at new
      have kept := kept tab
      rw [active, ek, count_append]
      cases loads with
      | same living =>
        have unloaded := inv.unloaded tab new
        rw [Listening.kept, living]
        exact unloaded
      | @selectTab tab' =>
        obtain ⟨other, new⟩ := not_or.1 (List.mem_cons.not.1 new)
        rw [count_other (Ne.symm other)]
        exact inv.unloaded tab new
      | @pushed _ path =>
        have other := List.mem_singleton.not.1 new
        rw [count_other (Ne.symm other)]
        exact kept
      | bare pushed =>
        rcases pushed with lt | launch
        · exact kept.trans (Nat.le_sub_one_of_lt lt)
        · rw [Listening.kept, if_pos launch]
          exact Nat.zero_le _

/-! ## Runs -/

/-- The one listener that a step starts is on a path of the user who is signed in. -/
lemma loads_signed {u : Session} {e loaded k new l} (loads : u.Loads e loaded k new)
    (mem : l ∈ new) :
    new = [l] ∧ ∃ user, u.currentUser = some user ∧ u.listenerPath l.1 = .ok l.2 := by
  have path : new = [l] ∧ u.listenerPath l.1 = .ok l.2 := by
    cases loads with
    | same | bare => cases mem
    | selectTab _ _ ep | pushed ep =>
      rw [List.mem_singleton.1 mem]
      exact ⟨rfl, ep⟩
  refine ⟨path.1, ?_⟩
  cases signed : u.currentUser with
  | none =>
    rw [Session.listenerPath_none signed] at path
    cases path.2
  | some user => exact ⟨user, rfl, path.2⟩

/-- What has been started before another event has been started after it. -/
lemma StartedFor.concat {es e l} (started : StartedFor s es l)
    (living : ∀ now, e ≠ .session (.launch now)) : StartedFor s (es ++ [e]) l := by
  obtain ⟨es1, f, es2, u, v, user, ees, rn, st, added, signed, path, going⟩ := started
  refine ⟨es1, f, es2 ++ [e], u, v, user, ?_, rn, st, added, signed, path, ?_⟩
  · rw [ees, List.append_assoc]
    rfl
  · intro now mem
    rcases List.mem_append.1 mem with old | new
    · exact going now old
    · exact living now (List.mem_singleton.1 new).symm

/-- In every run each active listener has been started by one of its events. -/
lemma startedFor_run {es} (none : s.active = []) (rn : Run (Fires step) s es t) :
    ∀ l ∈ t.active, StartedFor s es l := by
  refine rn.history (P := fun es t => ∀ l ∈ t.active, StartedFor s es l) ?_ ?_
  · intro l mem
    rw [none] at mem
    cases mem
  · intro es t e u rn st ih l mem
    cases e with
    | error i message =>
      rw [(error_inv st).2] at mem
      exact (ih l (List.mem_of_mem_eraseIdx mem)).concat (fun _ h => by cases h)
    | session e =>
      obtain ⟨_, new, loads, active⟩ := session_inv st
      rw [active] at mem
      rcases List.mem_append.1 mem with old | added
      · rw [kept] at old
        cases launch : e.isLaunch with
        | true =>
          rw [if_pos launch] at old
          cases old
        | false =>
          rw [launch] at old
          refine (ih l old).concat ?_
          intro now ee
          cases ee
          cases launch
      · obtain ⟨only, user, signed, path⟩ := loads_signed loads added
        rw [only] at active
        exact ⟨es, e, [], t, u, user, rfl, rn, st, active, signed, path, fun _ h => by cases h⟩

/-- In every run the listeners are within the tab bars. -/
lemma bounded_run {es} (start : Bounded s) (rn : Run (Fires step) s es t) : Bounded t :=
  rn.invariant Bounded.step start

/-- No listener is active before anything has happened. -/
lemma bounded_first {accounts firestore} : Bounded (first accounts firestore) where
  count := fun _ => le_rfl
  unloaded := fun _ _ => le_rfl

/-- In every run from the first start of the app, each active listener has been started in the
    running process on a path of the user who was signed in then; for each screen there are at most
    as many of them as tab bars have been pushed; and no event of the session ends one but a launch,
    a log-out and a deletion of the account included. -/
theorem listeners_run {accounts firestore es}
    (rn : Run (Fires step) (first accounts firestore) es t) :
    (∀ l ∈ t.active, StartedFor (first accounts firestore) es l) ∧
      (∀ tab, count tab t.active ≤ t.session.window.tabBars) ∧
      ∀ e t', t.step (.session e) = some t' → (∀ now, e ≠ .launch now) →
        t.active <+: t'.active := by
  refine ⟨startedFor_run rfl rn, (bounded_run bounded_first rn).count, ?_⟩
  intro e t' st living
  obtain ⟨_, new, _, active⟩ := session_inv st
  rw [active, kept, Session.isLaunch_of_living living]
  exact List.prefix_append _ _

/-- A user logs out and another one logs in: the listeners of the first go on. -/
theorem not_oneSet :
    ∃ es t, Run (Fires step) (first ["a@b.c", "d@e.f"] ∅) es t ∧ ¬ t.OneSet := by
  obtain ⟨t, rn, two⟩ := Transition.exists_run step (first ["a@b.c", "d@e.f"] ∅)
    [.session (.logInButtonTapped "a@b.c" "Abcdefg1"), .session (.serve 0 (.ok "a@b.c")),
      .session (.deliver 0), .session (.selectTab .profile),
      .session (.logOutButtonTapped none),
      .session (.logInButtonTapped "d@e.f" "Abcdefg1"), .session (.serve 1 (.ok "d@e.f")),
      .session (.deliver 1)]
    (fun t => count .watched t.active = 2) (by decide +kernel)
  refine ⟨_, t, rn, ?_⟩
  intro oneSet
  have one := oneSet.one .watched
  rw [of_decide_eq_true two] at one
  omega

/-- Two taps on Log In push two tab bars, with a listener each for the watched list. -/
theorem listeners_run_twoTaps :
    ∃ es t, Run (Fires step) (first ["a@b.c"] ∅) es t ∧ count .watched t.active = 2 ∧
      (∀ l ∈ t.active, StartedFor (first ["a@b.c"] ∅) es l) ∧ 2 ≤ t.session.window.tabBars := by
  obtain ⟨t, rn, two⟩ := Transition.exists_run step (first ["a@b.c"] ∅)
    [.session (.logInButtonTapped "a@b.c" "Abcdefg1"),
      .session (.logInButtonTapped "a@b.c" "Abcdefg1"), .session (.serve 0 (.ok "a@b.c")),
      .session (.serve 1 (.ok "a@b.c")), .session (.deliver 0), .session (.deliver 1)]
    (fun t => count .watched t.active = 2) (by decide +kernel)
  have watched : count .watched t.active = 2 := of_decide_eq_true two
  obtain ⟨started, bound, _⟩ := listeners_run rn
  exact ⟨_, t, rn, watched, started, watched ▸ bound .watched⟩

end Listening

end Lumiere

import Lumiere.Base.Register
import Lumiere.Session.Inversion

/-!
# What the Add Watched form starts with

The Add Watched form takes its title from `Utilities.selected`, a register of the process that
`assigns` describes: a tapped film, a swiped wish, a committed Add Watched form and a launch set it,
and nothing else does. Committing or cancelling an Edit form does not, nor does cancelling Add
Watched. So the form that the plus button opens starts empty exactly when the last of these events
left an empty title (`startsEmpty_iff`).
-/

namespace Lumiere
open Firestore
open Transition (Run Fires Register LastSet)

namespace Session

/-- The title that an event leaves in `Utilities.selected`, if it assigns it. -/
def assigns (s : Session) : Event → Option String
  | .touch (.didSelectRowAt row _) => s.tabs.watchedList[row]?.map Watched.title
  | .touch (.leadingSwipe row _) => s.tabs.wishlist[row]?.map Wish.title
  | .touch (.addWatchedButtonTapped _ _) =>
    match s.tabs.form with
    | some (.addWatched c) => if validateTitle c.titleTextField = none then some "" else none
    | _ => none
  | .launch _ => some ""
  | _ => none

/-- A touch that does not trap leaves the title that it assigns. -/
lemma touched_selected {s : Session} {k r} (tc : Touched s.email s.tabs k r) :
    r.tabs.selected.title = (s.assigns (.touch k)).getD s.tabs.selected.title := by
  cases tc with
  | didSelectRowAt form row => simp [assigns, row, Reaction.quiet]
  | leadingSwipe form row => simp [assigns, row, Reaction.quiet, Watched.initTitle]
  | addWatched form e =>
    obtain ⟨valid, _⟩ := addWatchedButtonTapped_inv e
    simp only [assigns, form, valid]
    rfl
  | refused refused =>
    cases refused with
    | addWatched form blank =>
      simp only [assigns, form]
      rw [if_neg blank]
      rfl
    | editWatched | addWish => rfl
  | addMovieButtonTapped | deleteWatched | presentAddWish | deleteWish | controlAdd | controlEdit
  | typeWish | editWatched | addWish | cancel => rfl

/-- `Utilities.selected` is a register of the living process. -/
lemma selected_register :
    Register step (fun s => s.tabs.selected.title) assigns (fun s => s.trap = none) := by
  have reg : ∀ {s s' e}, step s e = some s' → s'.trap = none →
      s'.tabs.selected.title = (assigns s e).getD s.tabs.selected.title := by
    intro s s' e st alive
    obtain ⟨r, er, es⟩ := step_inv st
    subst es
    change r.session.tabs.selected.title = _
    cases reply_inv er with
    | @screens e s' on fr =>
      rw [quiet, fr.selected]
      cases e with
      | touch | launch => cases on
      | _ => rfl
    | touch tc => exact touched_selected tc
    | touchTrapped => cases alive
    | serve ec es h =>
      rw [(serve_frame h).2.tabs]
      rfl
    | serveLate ec es late =>
      rw [quiet, (serveLate_frame late).tabs]
      rfl
    | deliver =>
      rw [deliver_frame.selected]
      rfl
    | launch =>
      obtain ⟨_, _, tabs⟩ := launch_frame
      rw [quiet, tabs]
      rfl
    | signIn | createUser | logOut | deleteAccount | putData | deliverCovered | dropUser => rfl
  refine ⟨?_, ?_⟩
  · intro s e t b st alive sets
    rw [reg st alive, sets]
    rfl
  · intro s e t st alive none
    refine ⟨?_, by rw [reg st alive, none]; rfl⟩
    rcases alive_step st alive with before | ⟨now, ee⟩
    · exact before
    · subst ee
      cases none

/-- In the run of `es` from `s`, the plus button always opens Add Watched with an empty title, and
    the swipe action of a wish opens it with the title of that wish. -/
def StartsRight (s : Session) (es : List Event) : Prop :=
  ∀ es1 e es2 u v c, es = es1 ++ e :: es2 → Run (Fires step) s es1 u → u.step e = some v →
    v.tabs.form = some (.addWatched c) →
    (∀ now, e = .touch (.addMovieButtonTapped now) → c.titleTextField = "") ∧
    ∀ row now, e = .touch (.leadingSwipe row now) → v.trap = none →
      ∃ wish, u.tabs.wishlist[row]? = some wish ∧ c.titleTextField = wish.title

/-- In the run of `es` from `s`, whenever the plus button is tapped, the last event before that has
    tapped a film, swiped a wish, committed an Add Watched form or launched the process has left an
    empty title. -/
def ClearedBeforePlus (s : Session) (es : List Event) : Prop :=
  ∀ es1 now es2 u v, es = es1 ++ .touch (.addMovieButtonTapped now) :: es2 →
    Run (Fires step) s es1 u → u.step (.touch (.addMovieButtonTapped now)) = some v →
    ∀ title, LastSet step assigns s es1 title → title = ""

/-- The plus button is tapped in a living process and opens the form with the selected title. -/
lemma plus_inv {u v : Session} {now} (st : u.step (.touch (.addMovieButtonTapped now)) = some v) :
    u.trap = none ∧
      v.tabs.form = some (.addWatched (AddWatched.viewDidLoad u.tabs.selected now)) := by
  obtain ⟨r, er, es⟩ := step_inv st
  subst es
  refine ⟨(reply_runs er).resolve_right (fun h => by cases h), ?_⟩
  cases replies_inv er with
  | touchTrapped _ _ et =>
    -- this touch does not trap
    cases form : u.tabs.form <;> simp [Tabs.touch, form] at et
  | touch _ _ et =>
    cases Tabs.touch_inv et with
    | addMovieButtonTapped form => rfl
    | refused refused => cases refused

/-- The Add Watched form never starts with a leftover title exactly when before every tap on the
    plus button the last assignment of `Utilities.selected` was an empty one. -/
theorem startsRight_iff {s : Session} (fresh : s.tabs.selected.title = "") (es : List Event) :
    s.StartsRight es ↔ s.ClearedBeforePlus es := by
  refine ⟨?_, ?_⟩
  · intro right es1 now es2 u v ees rn1 st title last
    obtain ⟨alive, form⟩ := plus_inv st
    obtain ⟨plus, _⟩ := right es1 _ es2 u v _ ees rn1 st form
    have selected := selected_register.val_eq last rn1 alive
    rw [← selected]
    exact plus now rfl
  · intro cleared es1 e es2 u v c ees rn1 st form
    refine ⟨?_, ?_⟩
    · intro now ee
      subst ee
      obtain ⟨alive, form'⟩ := plus_inv st
      rw [form] at form'
      cases form'
      change u.tabs.selected.title = ""
      rcases selected_register.last_or_kept rn1 alive with last | ⟨_, same⟩
      · exact cleared es1 now es2 u v ees rn1 st _ last
      · exact same.trans fresh
    · intro row now ee alive
      subst ee
      obtain ⟨r, er, es⟩ := step_inv st
      subst es
      cases replies_inv er with
      | touchTrapped => cases alive
      | touch _ _ et =>
        cases Tabs.touch_inv et with
        | @leadingSwipe _ _ wish _ shown =>
          cases form
          exact ⟨wish, shown, rfl⟩
        | refused refused => cases refused

/-- A film is opened and the Edit form cancelled; the plus button then offers its title. -/
theorem not_startsRight :
    ∃ es t, Run (Fires step) (first ["a@b.c"] ∅) es t ∧ ¬ (first ["a@b.c"] ∅).StartsRight es := by
  let film : DocumentSnapshot :=
    ⟨"A", [("title", .string "Up"), ("rating", .double 7), ("hasLiked", .boolean true),
      ("date", .timestamp 0), ("id", .string "A")]⟩
  let c := AddWatched.viewDidLoad (Watched.initTitle "Up" 0) 2
  obtain ⟨u, v, rn1, _, rn2, form⟩ := Transition.exists_run_through step step (first ["a@b.c"] ∅)
    [.logInButtonTapped "a@b.c" "Abcdefg1", .serve 0 (.ok "a@b.c"), .deliver 0,
      .watchedSnapshot [film], .touch (.didSelectRowAt 0 1), .touch .cancel]
    [.touch (.addMovieButtonTapped 2)]
    (fun _ => true) (fun v => v.tabs.form = some (.addWatched c))
    (by decide +kernel) (by decide +kernel)
  refine ⟨_, v, rn1.append rn2, ?_⟩
  intro right
  have st := rn2.single_inv
  have empty := (right _ _ [] u v c rfl rn1 st (of_decide_eq_true form)).1 2 rfl
  exact absurd empty (by decide)

/-- Adding a film from the plus button, and then another one. -/
theorem startsRight_iff_twoFilms :
    ∃ es t, Run (Fires step) (first ["a@b.c"] ∅) es t ∧ es.length = 7 ∧
      ((first ["a@b.c"] ∅).StartsRight es ↔ (first ["a@b.c"] ∅).ClearedBeforePlus es) := by
  obtain ⟨t, rn, _⟩ := Transition.exists_run step (first ["a@b.c"] ∅)
    [.logInButtonTapped "a@b.c" "Abcdefg1", .serve 0 (.ok "a@b.c"), .deliver 0,
      .touch (.addMovieButtonTapped 0), .touch (.control (.typeTitle "Up")),
      .touch (.addWatchedButtonTapped (fun _ => ⟨0, by decide⟩) 1),
      .touch (.addMovieButtonTapped 2)]
    (fun _ => true) (by decide +kernel)
  exact ⟨_, t, rn, rfl, startsRight_iff rfl _⟩

end Session

end Lumiere

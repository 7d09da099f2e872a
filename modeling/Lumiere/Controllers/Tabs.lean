import Lumiere.Controllers.Inversion

/-!
# The list screens of one process

What the Watched and Wishlist screens and the forms over them keep in memory: the process-wide
`Utilities.selected`, the two lists and the form that is presented. `Tabs.touch` runs the handler of
one touch; it is `none` where the touch cannot happen, because a presented form covers the lists and
only one form is presented at a time. A swipe action carries the row its closure has captured, which
the handler uses on the list as it is when the action runs.

`Touched` lists what a touch that does not trap can do, one constructor for each handler, and
`Tabs.touch_inv` is the inversion lemma every invariant of the lists goes through.
-/

namespace Lumiere
open Firestore

/-- A form that is presented over the lists. -/
inductive Form where
  | addWatched (c : WatchedForm)
  | editWatched (c : WatchedForm)
  | addWish (titleTextField : String)
  deriving DecidableEq

/-- The two list screens, the film form and the selected film. -/
structure Tabs where
  selected : Watched
  watchedList : List Watched
  wishlist : List Wish
  form : Option Form
  deriving DecidableEq

/-- The list screens as they are loaded: no snapshot has arrived and no form is presented. -/
def Tabs.viewDidLoad (selected : Watched) : Tabs where
  selected := selected
  watchedList := []
  wishlist := []
  form := none

/-- What the user does. -/
inductive Touch where
  -- the Watched screen
  | addMovieButtonTapped (now : Date)
  | didSelectRowAt (row : Nat) (now : Date)
  | deleteWatched (row : Nat)
  -- the Wishlist screen
  | presentAddWish
  | leadingSwipe (row : Nat) (now : Date)
  | deleteWish (row : Nat)
  -- the forms
  | control (k : Control)
  | typeWish (text : String)
  | addWatchedButtonTapped (letters : Letters) (now : Date)
  | editWatchedButtonTapped
  | addWishButtonTapped (letters : Letters)
  | cancel

/-- What a touch leads to: the screens after it, the alert it shows and the write it makes. -/
structure Reaction where
  tabs : Tabs
  alert : Option String
  write : Option Write

/-- The screens have changed and nothing else. -/
def Reaction.quiet (t : Tabs) : Reaction :=
  ⟨t, none, none⟩

/-- A handler that only writes. -/
def Reaction.writing (t : Tabs) (w : Write) : Reaction :=
  ⟨t, none, some w⟩

/-- The right bar button of a form: `t` are the screens before, `dismissed` those after it. -/
def Reaction.pressed (t dismissed : Tabs) : Pressed → Reaction
  | .alert message => ⟨t, some message, none⟩
  | .dismiss w => ⟨dismissed, none, some w⟩

/-- An array access `list[row]`. -/
def atRow {α : Type*} (list : List α) (row : Nat) : Except Trap α :=
  match list[row]? with
  | none => .error .indexOutOfRange
  | some a => .ok a

/-- The handler of a touch, for the user `currentUser`. -/
def Tabs.touch (currentUser : Option String) (t : Tabs) (k : Touch) :
    Option (Except Trap Reaction) :=
  match t.form, k with
  | none, .addMovieButtonTapped now =>
    some (.ok (.quiet { t with form := some (.addWatched (AddWatched.viewDidLoad t.selected now)) }))
  | none, .didSelectRowAt row now =>
    some ((atRow t.watchedList row).map fun watched =>
      .quiet { t with
        selected := watched
        form := some (.editWatched (EditWatched.viewDidLoad watched now)) })
  | none, .deleteWatched row =>
    some ((atRow t.watchedList row).bind fun watched =>
      (Lumiere.deleteWatched currentUser watched.id).map (.writing t))
  | none, .presentAddWish =>
    some (.ok (.quiet { t with form := some (.addWish "") }))
  | none, .leadingSwipe row now =>
    some ((atRow t.wishlist row).map fun wish =>
      .quiet { t with
        selected := Watched.initTitle wish.title now
        form := some (.addWatched (AddWatched.viewDidLoad (Watched.initTitle wish.title now) now)) })
  | none, .deleteWish row =>
    some ((atRow t.wishlist row).bind fun wish =>
      (Lumiere.deleteWish currentUser wish.id).map (.writing t))
  | some (.addWatched c), .control k =>
    some (.ok (.quiet { t with form := some (.addWatched (c.touch k)) }))
  | some (.editWatched c), .control k =>
    some (.ok (.quiet { t with form := some (.editWatched (c.touch k)) }))
  | some (.addWish _), .typeWish text =>
    some (.ok (.quiet { t with form := some (.addWish text) }))
  | some (.addWatched c), .addWatchedButtonTapped letters now =>
    some ((Lumiere.addWatchedButtonTapped currentUser c letters).map
      (.pressed t { t with selected := Watched.init now, form := none }))
  | some (.editWatched c), .editWatchedButtonTapped =>
    -- `Utilities.selected` keeps the film that was edited
    some ((Lumiere.editWatchedButtonTapped currentUser t.selected c).map
      (.pressed t { t with form := none }))
  | some (.addWish title), .addWishButtonTapped letters =>
    some ((Lumiere.addWishButtonTapped currentUser title letters).map
      (.pressed t { t with form := none }))
  | some _, .cancel => some (.ok (.quiet { t with form := none }))
  | _, _ => none

/-! ## Inversion -/

/-- The touch is one of the right bar button of a form. -/
inductive Touch.Commits : Touch → Prop where
  | addWatchedButtonTapped {letters now} : Commits (.addWatchedButtonTapped letters now)
  | editWatchedButtonTapped : Commits .editWatchedButtonTapped
  | addWishButtonTapped {letters} : Commits (.addWishButtonTapped letters)

/-- The right bar button is tapped on a form with a blank title. -/
inductive Refused (t : Tabs) : Touch → Prop where
  | addWatched {c letters now} :
    t.form = some (.addWatched c) →
    validateTitle c.titleTextField ≠ none →
    Refused t (.addWatchedButtonTapped letters now)
  | editWatched {c} :
    t.form = some (.editWatched c) →
    validateTitle c.titleTextField ≠ none →
    Refused t .editWatchedButtonTapped
  | addWish {title letters} :
    t.form = some (.addWish title) →
    validateTitle title ≠ none →
    Refused t (.addWishButtonTapped letters)

/-- The right bar button is tapped on a form whose title is not blank. -/
inductive Submitted (t : Tabs) : Touch → Prop where
  | addWatched {c letters now} :
    t.form = some (.addWatched c) →
    validateTitle c.titleTextField = none →
    Submitted t (.addWatchedButtonTapped letters now)
  | editWatched {c} :
    t.form = some (.editWatched c) →
    validateTitle c.titleTextField = none →
    Submitted t .editWatchedButtonTapped
  | addWish {title letters} :
    t.form = some (.addWish title) →
    validateTitle title = none →
    Submitted t (.addWishButtonTapped letters)

/-- What a touch that does not trap can do. -/
inductive Touched (user : Option String) (t : Tabs) : Touch → Reaction → Prop where
  | addMovieButtonTapped {now} :
    t.form = none →
    Touched user t (.addMovieButtonTapped now)
      (.quiet { t with form := some (.addWatched (AddWatched.viewDidLoad t.selected now)) })
  | didSelectRowAt {row now watched} :
    t.form = none →
    t.watchedList[row]? = some watched →
    Touched user t (.didSelectRowAt row now)
      (.quiet { t with
        selected := watched
        form := some (.editWatched (EditWatched.viewDidLoad watched now)) })
  | deleteWatched {row watched w} :
    t.form = none →
    t.watchedList[row]? = some watched →
    Lumiere.deleteWatched user watched.id = .ok w →
    Touched user t (.deleteWatched row) (.writing t w)
  | presentAddWish :
    t.form = none →
    Touched user t .presentAddWish (.quiet { t with form := some (.addWish "") })
  | leadingSwipe {row now wish} :
    t.form = none →
    t.wishlist[row]? = some wish →
    Touched user t (.leadingSwipe row now)
      (.quiet { t with
        selected := Watched.initTitle wish.title now
        form := some (.addWatched (AddWatched.viewDidLoad (Watched.initTitle wish.title now) now)) })
  | deleteWish {row wish w} :
    t.form = none →
    t.wishlist[row]? = some wish →
    Lumiere.deleteWish user wish.id = .ok w →
    Touched user t (.deleteWish row) (.writing t w)
  | controlAdd {c k} :
    t.form = some (.addWatched c) →
    Touched user t (.control k) (.quiet { t with form := some (.addWatched (c.touch k)) })
  | controlEdit {c k} :
    t.form = some (.editWatched c) →
    Touched user t (.control k) (.quiet { t with form := some (.editWatched (c.touch k)) })
  | typeWish {title text} :
    t.form = some (.addWish title) →
    Touched user t (.typeWish text) (.quiet { t with form := some (.addWish text) })
  | addWatched {c letters now w} :
    t.form = some (.addWatched c) →
    Lumiere.addWatchedButtonTapped user c letters = .ok (.dismiss w) →
    Touched user t (.addWatchedButtonTapped letters now)
      (.writing { t with selected := Watched.init now, form := none } w)
  | editWatched {c w} :
    t.form = some (.editWatched c) →
    Lumiere.editWatchedButtonTapped user t.selected c = .ok (.dismiss w) →
    Touched user t .editWatchedButtonTapped (.writing { t with form := none } w)
  | addWish {title letters w} :
    t.form = some (.addWish title) →
    Lumiere.addWishButtonTapped user title letters = .ok (.dismiss w) →
    Touched user t (.addWishButtonTapped letters) (.writing { t with form := none } w)
  | refused {k message} :
    Refused t k →
    Touched user t k ⟨t, some message, none⟩
  | cancel :
    t.form ≠ none →
    Touched user t .cancel (.quiet { t with form := none })

/-- A row that is looked up is there. -/
lemma atRow_inv {α : Type*} {list : List α} {row a} (e : atRow list row = .ok a) :
    list[row]? = some a := by
  rw [atRow] at e
  split at e
  case h_1 => cases e
  case h_2 a' h => cases e; exact h

/-- A row that is not there traps. -/
lemma atRow_none {α : Type} {list : List α} {row} (e : list[row]? = none) :
    atRow list row = .error .indexOutOfRange := by
  rw [atRow, e]

/-- A row that is there is found. -/
lemma atRow_some {α : Type} {list : List α} {row a} (e : list[row]? = some a) :
    atRow list row = .ok a := by
  rw [atRow, e]

/-- An access fails only for its index. -/
lemma atRow_error {α : Type} {list : List α} {row trap} (e : atRow list row = .error trap) :
    trap = .indexOutOfRange := by
  rw [atRow] at e
  split at e <;> cases e
  rfl

/-- A pressed form has been refused with an alert or dismissed with a write. -/
lemma pressed_inv {title ref data t dismissed r}
    (e : (press title ref data).map (Reaction.pressed t dismissed) = .ok r) :
    (∃ message, r = ⟨t, some message, none⟩ ∧ validateTitle title ≠ none) ∨
      ∃ w, press title ref data = .ok (.dismiss w) ∧ r = .writing dismissed w := by
  obtain ⟨p, ep, er⟩ := except_map_inv e
  subst er
  cases p with
  | alert message => exact .inl ⟨message, rfl, press_alert_inv ep⟩
  | dismiss w => exact .inr ⟨w, ep, rfl⟩

/-- What a touch that does not trap does. -/
lemma Tabs.touch_inv {user} {t : Tabs} {k r} (e : t.touch user k = some (.ok r)) :
    Touched user t k r := by
  rw [Tabs.touch.eq_def] at e
  split at e
  case h_1 form => cases e; exact .addMovieButtonTapped form
  case h_2 form =>
    obtain ⟨watched, er, rfl⟩ := except_map_inv (Option.some.inj e)
    exact .didSelectRowAt form (atRow_inv er)
  case h_3 form =>
    obtain ⟨watched, er, e⟩ := except_bind_inv (Option.some.inj e)
    obtain ⟨w, ew, rfl⟩ := except_map_inv e
    exact .deleteWatched form (atRow_inv er) ew
  case h_4 form => cases e; exact .presentAddWish form
  case h_5 form =>
    obtain ⟨wish, er, rfl⟩ := except_map_inv (Option.some.inj e)
    exact .leadingSwipe form (atRow_inv er)
  case h_6 form =>
    obtain ⟨wish, er, e⟩ := except_bind_inv (Option.some.inj e)
    obtain ⟨w, ew, rfl⟩ := except_map_inv e
    exact .deleteWish form (atRow_inv er) ew
  case h_7 form => cases e; exact .controlAdd form
  case h_8 form => cases e; exact .controlEdit form
  case h_9 form => cases e; exact .typeWish form
  case h_10 form =>
    rcases pressed_inv (Option.some.inj e) with ⟨message, rfl, blank⟩ | ⟨w, ew, rfl⟩
    · exact .refused (.addWatched form blank)
    · exact .addWatched form ew
  case h_11 form =>
    rcases pressed_inv (Option.some.inj e) with ⟨message, rfl, blank⟩ | ⟨w, ew, rfl⟩
    · exact .refused (.editWatched form blank)
    · exact .editWatched form ew
  case h_12 form =>
    rcases pressed_inv (Option.some.inj e) with ⟨message, rfl, blank⟩ | ⟨w, ew, rfl⟩
    · exact .refused (.addWish form blank)
    · exact .addWish form ew
  case h_13 form => cases e; exact .cancel (by simp [form])
  case h_14 => cases e

/-- What a touch writes stands below the document of the user. -/
lemma Touched.write_below {user} {t : Tabs} {k r w} (tc : Touched user t k r)
    (wr : r.write = some w) :
    ∃ d name sub, userDocument user = .ok d ∧ w.path = d.path ++ name :: sub := by
  cases tc with
  | deleteWatched _ _ e =>
    cases wr
    obtain ⟨d, sub, ed, _, rfl⟩ := deleteWatched_inv e
    exact ⟨d, _, sub, ed, rfl⟩
  | deleteWish _ _ e =>
    cases wr
    obtain ⟨d, sub, ed, _, rfl⟩ := deleteWish_inv e
    exact ⟨d, _, sub, ed, rfl⟩
  | addWatched _ e =>
    cases wr
    obtain ⟨_, d, ed, rfl⟩ := addWatchedButtonTapped_inv e
    exact ⟨d, _, _, ed, rfl⟩
  | editWatched _ e =>
    cases wr
    obtain ⟨_, d, sub, ed, _, rfl⟩ := editWatchedButtonTapped_inv e
    exact ⟨d, _, sub, ed, rfl⟩
  | addWish _ e =>
    cases wr
    obtain ⟨_, d, ed, rfl⟩ := addWishButtonTapped_inv e
    exact ⟨d, _, _, ed, rfl⟩
  | _ => cases wr

/-- Only touches of the lists and of the right bar button of a form can trap. -/
lemma Tabs.touch_error_inv {user} {t : Tabs} {k trap} (e : t.touch user k = some (.error trap)) :
    t.form = none ∨ k.Commits := by
  rw [Tabs.touch.eq_def] at e
  split at e
  case h_2 form | h_3 form | h_5 form | h_6 form => exact .inl form
  case h_10 => exact .inr .addWatchedButtonTapped
  case h_11 => exact .inr .editWatchedButtonTapped
  case h_12 => exact .inr .addWishButtonTapped
  case h_1 | h_4 | h_7 | h_8 | h_9 | h_13 | h_14 => cases e

end Lumiere

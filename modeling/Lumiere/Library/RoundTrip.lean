import Lumiere.Base.Run
import Lumiere.Library.Device
import Lumiere.Library.Document

/-!
# A film between its forms, its document and its cell

A rating passes through a slider, two labels, a document, the listener and a cell, and each of them
rounds it to tenths once more. Rounding keeps a number of tenths (`tenth_tenths`), so all of them
show the same number (`rating_fields`). What the listener reads from a document that a form has
written is the content of that form, and an Edit form opened on it writes the document again as it
was (`edit_untouched`); a run of such edits changes no document of the store (`Untouched.run`).
-/

namespace Lumiere
open Firestore
open Transition (Run)

/-! ## Rounding -/

/-- Rounding to tenths keeps a number of tenths. -/
lemma tenth_tenths (k : ℤ) : tenth (k / 10) = k / 10 := by
  have e : (k / 10 * 10 : ℚ) = k := by linarith
  rw [tenth, e, round_intCast]

/-- A multiple of a tenth stays as it is. -/
lemma tenth_tenth (x : ℚ) : tenth (tenth x) = tenth x :=
  tenth_tenths (round (x * 10))

/-- A slider can be set to the rating of another one. -/
lemma setValue_tenth (s : Slider) : (Slider.setValue (tenth s.value)).value = tenth s.value := by
  obtain ⟨k, lo, hi, e⟩ := tenth_slider s
  have lo' : (0 : ℚ) ≤ k := by exact_mod_cast lo
  have hi' : (k : ℚ) ≤ 100 := by exact_mod_cast hi
  apply Slider.setValue_of_mem
  · rw [e]; linarith
  · rw [e]; linarith

/-! ## Commits -/

/-- The commit of a film form, Add Watched or Edit Watched, that makes one write. -/
inductive Commit (user : Option String) (c : WatchedForm) : Write → Prop where
  | addWatched {letters w} :
    addWatchedButtonTapped user c letters = .ok (.dismiss w) →
    Commit user c w
  | editWatched {selected w} :
    editWatchedButtonTapped user selected c = .ok (.dismiss w) →
    Commit user c w

/-- A film document that the app has written for the user. -/
def Written (user : Option String) (path : List String) (data : Fields) : Prop :=
  ∃ c, Commit user c (.setData path data)

/-- A commit writes the fields of its form, with the ID that leads to where it writes them. -/
lemma Commit.inv {user c w} (cm : Commit user c w) :
    validateTitle c.titleTextField = none ∧ ∃ id r, userDocumentIn user "watchedList" id = .ok r ∧
      w = .setData r.path (c.fields id) := by
  cases cm with
  | addWatched e =>
    obtain ⟨valid, r, er, ew⟩ := press_dismiss_inv e
    exact ⟨valid, _, r, er, ew⟩
  | editWatched e =>
    obtain ⟨valid, r, er, ew⟩ := press_dismiss_inv e
    exact ⟨valid, _, r, er, ew⟩

/-- With a valid title the commit of Add Watched succeeds. -/
lemma commit_addWatched {a : Account} {c : WatchedForm} {letters : Letters}
    (valid : validateTitle c.titleTextField = none) :
    Commit (some a.email) c (.setData (a.watchedList.path ++ [createAutoId letters])
      (c.fields (createAutoId letters))) := by
  obtain ⟨d, er, path⟩ :=
    userDocumentIn_segment a.userCollection_watchedList (segment_createAutoId letters)
  have pressed : addWatchedButtonTapped (some a.email) c letters =
      .ok (.dismiss (.setData d.path (c.fields (createAutoId letters)))) := press_valid valid er
  rw [← path]
  exact .addWatched pressed

/-! ## Reading back -/

/-- The film that the listener makes of the fields of a form. -/
def WatchedForm.film (c : WatchedForm) (id : String) : Watched where
  title := c.titleTextField
  hasLiked := c.likedMovie
  date := c.dateWatchedPicker.date
  rating := tenth c.ratingSlider.value
  id := id

/-- The listener reads the content of the form back. -/
lemma decode_fields {document : DocumentSnapshot} {c : WatchedForm} {id stamp film}
    (data : document.data = c.fields id) (date : document.get "date" = some (.timestamp stamp))
    (e : decodeWatched document stamp = .ok film) : film = c.film id := by
  obtain ⟨documentID, fields⟩ := document
  subst data
  cases date
  cases e
  rfl

/-- A film in the list of the listener was in it before or has been read from a document. -/
lemma appendWatched_mem {documents : List DocumentSnapshot} {watchedList callback film}
    (e : appendWatched watchedList documents = .ok callback) (mem : film ∈ callback.watchedList) :
    film ∈ watchedList ∨ ∃ d ∈ documents, ∃ stamp, d.get "date" = some (.timestamp stamp) ∧
      decodeWatched d stamp = .ok film := by
  induction documents generalizing watchedList with
  | nil =>
    cases e
    exact .inl mem
  | cons document documents ih =>
    rw [appendWatched] at e
    split at e
    case h_2 =>
      cases e
      exact .inl mem
    case h_1 stamp date =>
      split at e
      case h_1 => cases e
      case h_2 film' read =>
        rcases ih e with old | ⟨d, mem', stamp', h⟩
        · rcases List.mem_append.1 old with old | new
          · exact .inl old
          · rw [List.mem_singleton] at new
            subst new
            exact .inr ⟨document, List.mem_cons_self, stamp, date, read⟩
        · exact .inr ⟨d, List.mem_cons_of_mem _ mem', stamp', h⟩

/-! ## Editing without touching a control -/

/-- An Edit form opened on a film not later than `now` holds that film. -/
lemma fields_viewDidLoad {c : WatchedForm} {id now} (past : c.dateWatchedPicker.date ≤ now) :
    (EditWatched.viewDidLoad (c.film id) now).fields id = c.fields id := by
  have rating : tenth (Slider.setValue (tenth c.ratingSlider.value)).value =
      tenth c.ratingSlider.value := by
    rw [setValue_tenth, tenth_tenth]
  have date : min c.dateWatchedPicker.date now = c.dateWatchedPicker.date := min_eq_left past
  simp only [WatchedForm.fields, EditWatched.viewDidLoad, WatchedForm.film, DatePicker.setDate,
    DatePicker.make, rating, date]

/-- Opening a film that the app has written and committing the form at once writes its document
    again. -/
lemma edit_untouched {user path documentID data stamp film now} {t : Tabs} {row}
    (written : Written user path data) (date : data.get "date" = some (.timestamp stamp))
    (read : decodeWatched ⟨documentID, data⟩ stamp = .ok film) (form : t.form = none)
    (shown : t.watchedList[row]? = some film) (past : film.date ≤ now) :
    ∃ r1 r2, t.touch user (.didSelectRowAt row now) = some (.ok r1) ∧
      r1.tabs.touch user .editWatchedButtonTapped = some (.ok r2) ∧
      r2.write = some (.setData path data) := by
  obtain ⟨c, cm⟩ := written
  obtain ⟨valid, id, r, er, ew⟩ := cm.inv
  cases ew
  have e : film = c.film id :=
    @decode_fields ⟨documentID, c.fields id⟩ c id stamp film rfl date read
  subst e
  let opened : Tabs :=
    { t with
      selected := c.film id
      form := some (.editWatched (EditWatched.viewDidLoad (c.film id) now)) }
  refine ⟨.quiet opened,
    .writing { opened with form := none } (.setData r.path (c.fields id)), ?_, ?_, rfl⟩
  · rw [Tabs.touch.eq_def, form]
    simp only [atRow, shown]
    rfl
  · have pressed : editWatchedButtonTapped user (c.film id)
        (EditWatched.viewDidLoad (c.film id) now) =
        .ok (.dismiss (.setData r.path (c.fields id))) := by
      rw [← fields_viewDidLoad past]
      exact press_valid valid er
    change some ((editWatchedButtonTapped user (c.film id)
      (EditWatched.viewDidLoad (c.film id) now)).map _) = _
    rw [pressed]
    rfl

/-- One edit without touching a control: the list shows the latest snapshot, the user taps the row
    of a film that is not later than `now` and then Edit, and the write reaches the store. -/
inductive Untouched (a : Account) (s : Store) : Nat × Date → Store → Prop where
  | edit {t : Tabs} {callback row now} {film : Watched} {r1 r2 : Reaction} {w} :
    watchedListener ((watchedQuery a.watchedList).run s) = .ok callback →
    t.watchedList = callback.watchedList →
    t.watchedList[row]? = some film →
    film.date ≤ now →
    t.touch (some a.email) (.didSelectRowAt row now) = some (.ok r1) →
    r1.tabs.touch (some a.email) .editWatchedButtonTapped = some (.ok r2) →
    r2.write = some w →
    Untouched a s (row, now) (w.apply s)

/-- Every film document of the account is one that the app has written. -/
def WrittenByApp (a : Account) (s : Store) : Prop :=
  ∀ id data, s.lookup (a.watchedList.path ++ [id]) = some data →
    Written (some a.email) (a.watchedList.path ++ [id]) data

/-- Such an edit leaves the store as it is. -/
lemma Untouched.lookup {a : Account} {s s' : Store} {e} (un : Untouched a s e s')
    (written : WrittenByApp a s) (p : List String) : s'.lookup p = s.lookup p := by
  cases un with
  | @edit t callback row now film r1 r2 w snapshot list shown past open' commit write =>
    have mem : film ∈ callback.watchedList := list ▸ List.mem_of_getElem? shown
    rcases appendWatched_mem snapshot mem with old | ⟨d, mem', stamp, date, read⟩
    · cases old
    · obtain ⟨stored, _⟩ := Query.mem_run.1 mem'
      have wr := written d.documentID d.data stored
      have form : t.form = none := by
        cases Tabs.touch_inv open' with
        | didSelectRowAt form => exact form
        | refused refused => cases refused
      obtain ⟨r1', r2', open2, commit2, write2⟩ := edit_untouched wr date read form shown past
      rw [open'] at open2
      cases open2
      rw [commit] at commit2
      cases commit2
      rw [write] at write2
      cases write2
      rw [DocumentStore.lookup_apply]
      split
      case isFalse => rfl
      case isTrue e =>
        rw [e]
        exact stored.symm

/-- Any number of such edits leaves the store as it is. -/
lemma Untouched.run {a : Account} {s s' : Store} {es} (rn : Run (Untouched a) s es s')
    (written : WrittenByApp a s) : ∀ p, s'.lookup p = s.lookup p := by
  refine rn.invariant (P := fun u => ∀ p, u.lookup p = s.lookup p) ?_ fun _ => rfl
  intro u e v un same p
  have written' : WrittenByApp a u := by
    intro id data stored
    rw [same] at stored
    exact written id data stored
  rw [un.lookup written', same]

/-- The rating that a form holds at the slider position `v` is the one it shows, the one its commit
    stores, the one the cell of the stored film shows and the one an Edit form opened on that film
    shows and holds. -/
lemma rating_fields {v : ℚ} (lo : 0 ≤ v) (hi : v ≤ 10) :
    ∃ k : ℤ, 0 ≤ k ∧ k ≤ 100 ∧
      (∀ c : WatchedForm, (c.touch (.sliderChanged v)).ratingSliderLabel = k / 10) ∧
      ∀ (c : WatchedForm) user path data, c.ratingSlider.value = v →
        Commit user c (.setData path data) →
        data.get "rating" = some (.double (k / 10)) ∧
        ∀ documentID, ∃ stamp film, data.get "date" = some (.timestamp stamp) ∧
          decodeWatched ⟨documentID, data⟩ stamp = .ok film ∧
          (WatchedTableViewCell.configure film).ratingLabel = k / 10 ∧
          ∀ now, (EditWatched.viewDidLoad film now).ratingSliderLabel = k / 10 ∧
            (EditWatched.viewDidLoad film now).ratingSlider.value = k / 10 := by
  obtain ⟨k, lo', hi', e⟩ := tenth_slider (Slider.setValue v)
  have value : tenth v = k / 10 := by rw [← e, Slider.setValue_of_mem lo hi]
  refine ⟨k, lo', hi', fun _ => e, ?_⟩
  intro c user path data ev cm
  obtain ⟨_, id, r, _, ew⟩ := cm.inv
  cases ew
  have rating : tenth c.ratingSlider.value = k / 10 := by rw [ev, value]
  refine ⟨?_, ?_⟩
  · rw [← rating]
    rfl
  · intro documentID
    have shown : tenth (tenth c.ratingSlider.value) = k / 10 := by rw [tenth_tenth, rating]
    refine ⟨c.dateWatchedPicker.date, c.film id, rfl, rfl, shown, fun now => ⟨shown, ?_⟩⟩
    exact (setValue_tenth c.ratingSlider).trans rating

/-- What is shown, stored and edited again is one film. -/
theorem film_roundTrip (a : Account) :
    (∀ v : ℚ, 0 ≤ v → v ≤ 10 → ∃ k : ℤ, 0 ≤ k ∧ k ≤ 100 ∧
      (∀ c : WatchedForm, (c.touch (.sliderChanged v)).ratingSliderLabel = k / 10) ∧
      ∀ (c : WatchedForm) path data, c.ratingSlider.value = v →
        Commit (some a.email) c (.setData path data) →
        data.get "rating" = some (.double (k / 10)) ∧
        ∀ documentID, ∃ stamp film, data.get "date" = some (.timestamp stamp) ∧
          decodeWatched ⟨documentID, data⟩ stamp = .ok film ∧
          (WatchedTableViewCell.configure film).ratingLabel = k / 10 ∧
          ∀ now, (EditWatched.viewDidLoad film now).ratingSliderLabel = k / 10 ∧
            (EditWatched.viewDidLoad film now).ratingSlider.value = k / 10) ∧
    (∀ path data documentID stamp film (t : Tabs) row now, Written (some a.email) path data →
      data.get "date" = some (.timestamp stamp) →
      decodeWatched ⟨documentID, data⟩ stamp = .ok film →
      t.form = none → t.watchedList[row]? = some film → film.date ≤ now →
      ∃ r1 r2, t.touch (some a.email) (.didSelectRowAt row now) = some (.ok r1) ∧
        r1.tabs.touch (some a.email) .editWatchedButtonTapped = some (.ok r2) ∧
        r2.write = some (.setData path data)) ∧
    (∀ s s' : Store, WrittenByApp a s → ∀ es, Run (Untouched a) s es s' →
      ∀ p, s'.lookup p = s.lookup p) := by
  refine ⟨?_, ?_, ?_⟩
  · intro v lo hi
    obtain ⟨k, lo', hi', label, rest⟩ := rating_fields lo hi
    exact ⟨k, lo', hi', label, fun c path data => rest c (some a.email) path data⟩
  · intro path data documentID stamp film t row now written date read form shown past
    exact edit_untouched written date read form shown past
  · intro s s' written es rn
    exact Untouched.run rn written

/-- A film added at noon with a rating between two tenths, opened and committed in the evening. -/
theorem film_roundTrip_addAndEdit :
    ∃ c path data, c.ratingSlider.value = 13 / 4 ∧ Commit (some "a@b.c") c (.setData path data) ∧
      (∃ k : ℤ, data.get "rating" = some (.double (k / 10))) ∧
      ∃ stamp film r1 r2, decodeWatched ⟨"A", data⟩ stamp = .ok film ∧ film.date ≤ 20 ∧
        Tabs.touch (some "a@b.c") ⟨film, [film], [], none⟩ (.didSelectRowAt 0 20) =
          some (.ok r1) ∧
        r1.tabs.touch (some "a@b.c") .editWatchedButtonTapped = some (.ok r2) ∧
        r2.write = some (.setData path data) := by
  let c : WatchedForm := ⟨"Up", 33 / 10, Slider.setValue (13 / 4), true, DatePicker.make 12⟩
  let id := createAutoId fun _ => ⟨0, by decide⟩
  have value : c.ratingSlider.value = 13 / 4 :=
    Slider.setValue_of_mem (by norm_num) (by norm_num)
  have cm : Commit (some Account.plain.email) c
      (.setData (Account.plain.watchedList.path ++ [id]) (c.fields id)) :=
    commit_addWatched (by decide)
  obtain ⟨numbers, edits, _⟩ := film_roundTrip .plain
  obtain ⟨k, _, _, _, stored⟩ := numbers (13 / 4) (by norm_num) (by norm_num)
  obtain ⟨rating, _⟩ := stored c _ _ value cm
  obtain ⟨r1, r2, e1, e2, e3⟩ := edits _ _ "A" 12 (c.film id) ⟨c.film id, [c.film id], [], none⟩ 0 20
    ⟨c, cm⟩ rfl rfl rfl rfl (by decide)
  exact ⟨c, _, _, value, cm, ⟨k, rating⟩, 12, c.film id, r1, r2, rfl, by decide, e1, e2, e3⟩

end Lumiere

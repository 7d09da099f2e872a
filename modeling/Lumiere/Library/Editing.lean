import Lumiere.Library.Fresh

/-!
# Which document an edit overwrites

The commit of an Edit form reads `Utilities.selected` again, so which document it overwrites depends
on what has happened since the form was opened. `Opened` finds, in the events of a run, the tap that
opened the form that a device presents, and the controls touched since; `Opened.step` shows that
nothing that can happen while the form is open rebinds the selected film. From it, `edit_opened`
says of every edit a device has sent that it is the edit of the film whose row was tapped.
-/

namespace Lumiere
open Firestore
open Transition (Run Fires)

namespace World

variable {ι : Type*} [DecidableEq ι]

/-- The control that an event touches on a device. -/
def Event.control (d : ι) : Event ι → Option Control
  | .touch d' (.control k) => if d' = d then some k else none
  | _ => none

/-- In the run of `es` from `w` to `t`, the form that device `d` presents was opened by a tap on the
    row of `film` at `now`; since then its controls were touched by `ks` and no film was tapped. -/
def Opened (w : World ι) (es : List (Event ι)) (d : ι) (t : World ι) (film : Watched) (now : Date)
    (ks : List Control) : Prop :=
  ∃ es1 row es2 u, es = es1 ++ .touch d (.didSelectRowAt row now) :: es2 ∧
    Run (Fires step) w es1 u ∧ (u.devices d).tabs.watchedList[row]? = some film ∧
    Run (Fires step) u (.touch d (.didSelectRowAt row now) :: es2) t ∧
    (∀ row now, .touch d (.didSelectRowAt row now) ∉ es2) ∧ es2.filterMap (Event.control d) = ks

/-- The Edit form as it is loaded from `film` at `now` and then touched by `ks`. -/
def edited (film : Watched) (now : Date) (ks : List Control) : WatchedForm :=
  ks.foldl WatchedForm.touch (EditWatched.viewDidLoad film now)

/-- The Edit form that a device presents is that of the selected film, which was tapped. -/
def Editing (w : World ι) (es : List (Event ι)) (d : ι) (t : World ι) : Prop :=
  ∀ c, (t.devices d).tabs.form = some (.editWatched c) →
    ∃ now ks, w.Opened es d t (t.devices d).tabs.selected now ks ∧
      c = edited (t.devices d).tabs.selected now ks

/-- An event that taps no film keeps the form open. -/
lemma Opened.step {w t u : World ι} {es d film now ks e} (op : w.Opened es d t film now ks)
    (st : t.step e = some u) (ne : ∀ row now, e ≠ .touch d (.didSelectRowAt row now)) :
    w.Opened (es ++ [e]) d u film now (ks ++ (e.control d).toList) := by
  obtain ⟨es1, row, es2, v, ees, rn1, tapped, rn2, noTap, eks⟩ := op
  subst ees eks
  refine ⟨es1, row, es2 ++ [e], v, ?_, rn1, tapped, rn2.append (.single st), ?_, ?_⟩
  · rw [List.append_assoc]
    rfl
  · intro row now mem
    rcases List.mem_append.1 mem with mem | mem
    · exact noTap row now mem
    · exact ne row now (List.mem_singleton.1 mem).symm
  · rw [List.filterMap_append]
    cases h : e.control d with
    | none => simp [h]
    | some k => simp [h]

/-- The device that is touched reacts. -/
lemma react_self {w : World ι} {d k r} :
    (w.react d k r).devices d = (w.devices d).react k r := by
  change (w.set d _).devices d = _
  rw [set_self]

/-- One more event leaves the presented Edit form that of the selected film. -/
lemma Editing.step {w t u : World ι} {es d e} (rn : Run (Fires World.step) w es t)
    (st : t.step e = some u) (ed : w.Editing es d t) : w.Editing (es ++ [e]) d u := by
  intro c form
  rcases (step_inv st).tabs d with ⟨k, r, ee, tc, eu⟩ | ⟨now, _, tabs, _⟩ | ⟨same, film, _, quiet⟩
  · subst ee
    have tabs : (u.devices d).tabs = r.tabs := by rw [eu, react_self]; rfl
    rw [tabs] at form ⊢
    cases tc with
    | @didSelectRowAt row now watched none tapped =>
      cases form
      refine ⟨now, [], ⟨es, row, [], t, rfl, rn, tapped, .single st, ?_, rfl⟩, rfl⟩
      intro row now mem
      cases mem
    | @controlEdit c k old =>
      cases form
      obtain ⟨now, ks, op, ec⟩ := ed c old
      have op' := op.step st (fun _ _ ne => by cases ne)
      rw [Event.control, if_pos rfl] at op'
      refine ⟨now, ks ++ [k], op', ?_⟩
      rw [ec]
      simp [edited, Reaction.quiet]
    | @refused k message refused =>
      obtain ⟨now, ks, op, ec⟩ := ed c form
      have op' := op.step st (fun _ _ ne => by cases ne; cases refused)
      have no : Event.control d (.touch d k) = none := by
        cases refused <;> rfl
      rw [no, Option.toList_none, List.append_nil] at op'
      exact ⟨now, ks, op', ec⟩
    | deleteWatched none | deleteWish none =>
      change (t.devices d).tabs.form = _ at form
      rw [none] at form
      cases form
    | addMovieButtonTapped | presentAddWish | leadingSwipe | controlAdd | typeWish | addWatched
    | editWatched | addWish | cancel => cases form
  · rw [tabs] at form
    cases form
  · rw [same] at form
    obtain ⟨now, ks, op, ec⟩ := ed c form
    -- the event is not a touch of this form, except a refused commit
    have ne : ∀ k, e = .touch d k → k.Commits := by
      intro k ee
      rcases quiet k ee with none | commits
      · rw [form] at none
        cases none
      · exact commits
    have op' := op.step st (fun row now ee => by cases ne _ ee)
    have no : e.control d = none := by
      cases e with
      | touch d' k =>
        cases k with
        | control k =>
          rw [Event.control]
          split
          case isFalse => rfl
          case isTrue h =>
            subst h
            cases ne _ rfl
        | _ => rfl
      | _ => rfl
    rw [no, Option.toList_none, List.append_nil] at op'
    rw [film]
    exact ⟨now, ks, op', ec⟩

/-- An open form has been filled in by the touches since it was opened. -/
lemma Start.editing {w t : World ι} {es} (start : w.Start) (rn : Run (Fires World.step) w es t)
    (d : ι) : w.Editing es d t := by
  refine rn.history (P := fun es t => w.Editing es d t) ?_ ?_
  · intro c form
    rw [(start.devices d).tabs] at form
    cases form
  · intro es t e u rn st ed
    exact ed.step rn st

/-- The sent edit `x` of device `d`, in the run of `es` from `w`: a tap on the row of `film` at
    `now` opened the form, the user touched its controls by `ks` and then committed it. -/
def EditOf (w : World ι) (es : List (Event ι)) (d : ι) (x : Sent) (film : Watched) (now : Date)
    (ks : List Control) : Prop :=
  ∃ es1 es2 t data, es = es1 ++ .touch d .editWatchedButtonTapped :: es2 ∧
    Run (Fires step) w es1 t ∧ w.Opened es1 d t film now ks ∧
    -- the document from which the film was read
    Seen t.firestore (t.devices d).sent (w.account.watchedList.path ++ [film.id]) data ∧
    Shows film data ∧
    x.tabs.selected = film ∧ x.tabs.form = some (.editWatched (edited film now ks)) ∧
    x.write =
      .setData (w.account.watchedList.path ++ [film.id]) ((edited film now ks).fields film.id)

/-- An edit stays one when the run goes on. -/
lemma EditOf.append {w : World ι} {es d x film now ks} (eo : w.EditOf es d x film now ks)
    (es' : List (Event ι)) : w.EditOf (es ++ es') d x film now ks := by
  obtain ⟨es1, es2, t, data, ees, rest⟩ := eo
  refine ⟨es1, es2 ++ es', t, data, ?_, rest⟩
  rw [ees, List.append_assoc]
  rfl

/-- Every edit that a device has sent is one of a film whose row was tapped. -/
lemma edit_opened {w w' : World ι} {es} (start : w.Start) (rn : Run (Fires step) w es w') (d : ι) :
    ∀ x ∈ (w'.devices d).sent, x.touch = .editWatchedButtonTapped →
      ∃ film now ks, w.EditOf es d x film now ks := by
  refine rn.history (P := fun es t => ∀ x ∈ (t.devices d).sent,
    x.touch = .editWatchedButtonTapped → ∃ film now ks, w.EditOf es d x film now ks) ?_ ?_
  · intro x mem
    rw [(start.devices d).sent] at mem
    cases mem
  · intro es t e u rn st ih x mem edit
    have old : x ∈ (t.devices d).sent → ∃ film now ks, w.EditOf (es ++ [e]) d x film now ks := by
      intro mem
      obtain ⟨film, now, ks, eo⟩ := ih x mem edit
      exact ⟨film, now, ks, eo.append [e]⟩
    rcases (step_inv st).tabs d with ⟨k, r, ee, tc, eu⟩ | ⟨_, _, _, same⟩ | ⟨_, _, same, _⟩
    · obtain ⟨s, _⟩ := start.run (rn.append (.single st))
      have sent : (u.devices d).sent = ((t.devices d).react k r).sent := by rw [eu, react_self]
      rw [sent] at mem
      rcases Device.mem_react tc mem with mem' | ⟨tabs, touch, _, _⟩
      · exact old mem'
      · -- the edit has just been committed
        subst ee
        rw [edit] at touch
        subst touch
        obtain ⟨l1, l2, split⟩ := List.append_of_mem (sent ▸ mem)
        obtain ⟨c, form, wr, _⟩ := s.edit_inv split edit
        rw [tabs] at form wr
        obtain ⟨now, ks, op, ec⟩ := start.editing rn d c form
        subst ec
        obtain ⟨s', _⟩ := start.run rn
        obtain ⟨data, seen, shows⟩ : Known t.account t.firestore (t.devices d).sent
            (t.devices d).tabs.selected := by
          apply (s'.devices d).films
          rw [Tabs.films, form]
          exact List.mem_cons_self
        rw [run_account rn] at seen
        rw [run_account (rn.append (.single st))] at wr
        exact ⟨_, now, ks, es, [], t, data, rfl, rn, op, seen, shows, by rw [tabs],
          by rw [tabs, form], wr⟩
    · rw [same] at mem
      exact old mem
    · rw [same] at mem
      exact old mem

end World

end Lumiere

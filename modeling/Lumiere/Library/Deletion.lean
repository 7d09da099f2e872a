import Lumiere.Library.Fresh

/-!
# When a deleted film stays deleted

The commit of an Edit form sets the whole document of its film, whether it is there or not, so an
edit that reaches the database after the deletion of its film brings the film back. This is the only
way: `staysDeleted_iff` says that in a run no deleted film is seen again exactly when every edit
that arrives finds the document of its film.
-/

namespace Lumiere
open Firestore
open DocumentStore (History)
open Transition (Run Fires)

namespace World

variable {ι : Type*} [DecidableEq ι]

/-- A film of the watched list that has been in the database and is not there any more. -/
structure Gone (w : World ι) (id : String) : Prop where
  held : ∃ data, w.firestore.Held (w.account.watchedList.path ++ [id]) data
  absent : w.firestore.store.lookup (w.account.watchedList.path ++ [id]) = none

/-- In the run of `es` from `w` to `v` a deletion of the film has reached the database. -/
def Deleted (w : World ι) (es : List (Event ι)) (v : World ι) (id : String) : Prop :=
  ∃ es1 d es2 u x, es = es1 ++ .reach d :: es2 ∧ Run (Fires step) w es1 u ∧
    u.next d = some x ∧ x.write = .delete (u.account.watchedList.path ++ [id]) ∧
    Run (Fires step) u (.reach d :: es2) v

/-- In the run of `es` from `w`, a film whose deletion has reached the database is never in the
    watched list again. -/
def StaysDeleted (w : World ι) (es : List (Event ι)) : Prop :=
  ∀ es1 es2 v id, es = es1 ++ es2 → w.Deleted es1 v id →
    v.firestore.store.lookup (v.account.watchedList.path ++ [id]) = none

/-- In the run of `es` from `w`, every edit that arrives finds the document of its film. -/
def EditsFindTheirFilm (w : World ι) (es : List (Event ι)) : Prop :=
  ∀ es1 d es2 u x, es = es1 ++ .reach d :: es2 →
    Run (Fires step) w es1 u → u.next d = some x → x.touch = .editWatchedButtonTapped →
    (u.firestore.store.lookup x.write.path).isSome

/-- A step that changes a list document is the arrival of a write at its path. -/
lemma Stepped.lookup {w w' : World ι} {e} (st : Stepped w e w') (p : List String) :
    w'.firestore.store.lookup p = w.firestore.store.lookup p ∨
      ∃ d x, e = .reach d ∧ w.next d = some x ∧ x.write.path = p ∧
        w'.firestore = w.firestore.write x.write := by
  cases st with
  | @reach d x next =>
    by_cases h : p = x.write.path
    case pos => exact .inr ⟨d, x, rfl, next, h.symm, rfl⟩
    case neg => exact .inl (DocumentStore.lookup_apply_ne h)
  | touchTrapped | touch | watchedTrapped | watchedSnapshot | wishlistTrapped | wishlistSnapshot
  | launch => exact .inl rfl

/-- What has been held stays so. -/
lemma Stepped.held {w w' : World ι} {e p data} (st : Stepped w e w')
    (held : w.firestore.Held p data) : w'.firestore.Held p data := by
  cases st with
  | reach => exact History.held_write.2 (.inl held)
  | touchTrapped | touch | watchedTrapped | watchedSnapshot | wishlistTrapped | wishlistSnapshot
  | launch => exact held

omit [DecidableEq ι] in
/-- The arrival of a write leaves its result at its path. -/
lemma lookup_write {w : World ι} {x : Write} {p} (e : x.path = p) :
    (w.firestore.write x).store.lookup p = x.result := by
  subst e
  exact DocumentStore.lookup_apply_self _ _

/-- A film that is gone stays so in a step in which no edit of it arrives. -/
lemma Gone.step {w w' : World ι} {e id} (gone : w.Gone id) (s : Sound w) (f : Fresh w)
    (st : Stepped w e w')
    (find : ∀ d x, e = .reach d → w.next d = some x → x.touch = .editWatchedButtonTapped →
      (w.firestore.store.lookup x.write.path).isSome) : w'.Gone id := by
  obtain ⟨⟨data, held⟩, absent⟩ := gone
  have kept : ∃ data, w'.firestore.Held (w'.account.watchedList.path ++ [id]) data := by
    rw [st.account]
    exact ⟨data, st.held held⟩
  refine ⟨kept, ?_⟩
  rw [st.account]
  rcases st.lookup (w.account.watchedList.path ++ [id]) with same | ⟨d, x, rfl, next, path, e⟩
  · rw [same, absent]
  · rw [e, lookup_write path]
    cases wr : x.write with
    | delete p => rfl
    | setData p data' =>
      rw [wr] at path
      change p = _ at path
      rcases f.next_cases s next wr with ⟨id', eid, _⟩ | ⟨edit, _⟩
      · -- a document still to be created has never been there
        refine absurd held ?_
        rw [← path, show p = x.write.path by rw [wr]; rfl]
        exact f.pending d _ x id' next eid le_rfl data
      · have there := find d x rfl next edit
        rw [wr] at there
        change (w.firestore.store.lookup p).isSome at there
        rw [path, absent] at there
        cases there

/-- A film that is gone stays gone, as long as edits find their film. -/
lemma Gone.run {w w' : World ι} {es id} (gone : w.Gone id) (s : Sound w) (f : Fresh w)
    (rn : Run (Fires World.step) w es w') (find : w.EditsFindTheirFilm es) : w'.Gone id := by
  induction rn with
  | nil => exact gone
  | @cons w e u es w' st rn ih =>
    have st' := step_inv st
    have gone' : u.Gone id := by
      refine gone.step s f st' ?_
      intro d x ee
      subst ee
      exact find [] d es w x rfl .nil
    refine ih gone' (s.step st') (f.step st' s) ?_
    intro es1 d es2 v x ees rn1
    exact find (e :: es1) d es2 v x (by rw [ees]; rfl) (.cons st rn1)

/-- A film is gone only after its deletion has arrived. -/
lemma Gone.deleted {w w' : World ι} {es id} (start : w.Start) (rn : Run (Fires World.step) w es w')
    (gone : w'.Gone id) : w.Deleted es w' id := by
  revert gone
  refine rn.history (P := fun es t => t.Gone id → w.Deleted es t id) ?_ ?_
  · intro gone
    obtain ⟨⟨data, held⟩, absent⟩ := gone
    rw [start.lookup held] at absent
    cases absent
  · intro es t e u rn1 st ih gone
    by_cases before : t.Gone id
    case pos =>
      obtain ⟨es1, d, es2, t0, x, ees, rn2, next, del, rn3⟩ := ih before
      subst ees
      refine ⟨es1, d, es2 ++ [e], t0, x, ?_, rn2, next, del, ?_⟩
      · rw [List.append_assoc]; rfl
      · exact rn3.append (.single st)
    case neg =>
      -- the film was there, or had never been, so the step is the arrival of its deletion
      have st' := step_inv st
      obtain ⟨⟨data, held⟩, absent⟩ := gone
      rw [st'.account] at held absent
      rcases st'.lookup (t.account.watchedList.path ++ [id]) with same | ⟨d, x, rfl, next, path, e⟩
      · rw [same] at absent
        refine absurd ⟨?_, absent⟩ before
        cases st' with
        | @reach d x next =>
          rcases History.held_write.1 held with held | wr
          · exact ⟨data, held⟩
          · have there := lookup_write (w := t) (x := x.write)
              (p := t.account.watchedList.path ++ [id]) (by rw [wr]; rfl)
            change (t.firestore.write x.write).store.lookup _ = _ at same
            rw [there, absent, wr] at same
            cases same
        | touchTrapped | touch | watchedTrapped | watchedSnapshot | wishlistTrapped | wishlistSnapshot
  | launch => exact ⟨data, held⟩
      · rw [e, lookup_write path] at absent
        cases wr : x.write with
        | setData p data' =>
          rw [wr] at absent
          cases absent
        | delete p =>
          rw [wr] at path
          change p = _ at path
          subst path
          exact ⟨es, d, [], t, x, rfl, rn1, next, wr, .single st⟩

/-- In a run of any number of devices, no deleted film is ever seen again exactly when every edit
    that reaches the database finds the document of its film. -/
theorem staysDeleted_iff {w : World ι} (start : w.Start) (es : List (Event ι)) :
    w.StaysDeleted es ↔ w.EditsFindTheirFilm es := by
  refine ⟨?_, ?_⟩
  · intro stays es1 d es2 u x ees rn1 next edit
    obtain ⟨s, f⟩ := start.run rn1
    by_contra absent
    rw [Option.not_isSome_iff_eq_none] at absent
    obtain ⟨l1, l2, el, len⟩ := next_split next
    obtain ⟨c, _, wr, known⟩ := s.edit_inv el edit
    rw [wr] at absent
    -- the film of the edit was deleted before, and the arriving edit brings it back
    have gone : u.Gone x.tabs.selected.id := ⟨f.held_of_known el len.le known, absent⟩
    obtain ⟨es3, d', es4, t, y, ees1, rn2, next', del, rn3⟩ := gone.deleted start rn1
    have st : Fires step u (.reach d) (u.arrived d x) := by rw [Fires, step, next]; rfl
    have deleted : w.Deleted (es1 ++ [.reach d]) (u.arrived d x) x.tabs.selected.id := by
      refine ⟨es3, d', es4 ++ [Event.reach d], t, y, ?_, rn2, next', del, rn3.append (.single st)⟩
      rw [ees1, List.append_assoc]
      rfl
    have back := stays _ es2 _ _ (by rw [ees, List.append_assoc]; rfl) deleted
    have there : (u.arrived d x).firestore.store.lookup _ = _ := lookup_write (w := u) rfl
    rw [wr] at there
    exact absurd (there.symm.trans back) (by simp [DocumentStore.Write.result])
  · rintro find es0 es3 v id ees ⟨es1, d, es2, u, x, ees0, rn1, next, del, rn2⟩
    obtain ⟨s, f⟩ := start.run rn1
    obtain ⟨l1, l2, el, len⟩ := next_split next
    obtain ⟨film, eid, known⟩ := s.delete_inv el del
    subst eid
    cases rn2 with
    | @cons _ _ u' _ _ st rn2 =>
      have st' := step_inv st
      have gone : u'.Gone film.id := by
        obtain ⟨data, held⟩ := f.held_of_known el len.le known
        rw [← st'.account] at held
        refine ⟨⟨data, st'.held held⟩, ?_⟩
        rw [st'.account]
        change u.step (.reach d) = _ at st
        rw [step, next] at st
        cases st
        have absent : (u.arrived d x).firestore.store.lookup _ = _ :=
          lookup_write (w := u) rfl
        rw [del] at absent
        exact absent
      refine (gone.run (s.step st') (f.step st' s) rn2 ?_).2
      intro es4 d' es5 t y ees2 rn3
      refine find (es1 ++ .reach d :: es4) d' (es5 ++ es3) t y ?_ (rn1.append (.cons st rn3))
      rw [ees, ees0, ees2]
      simp

/-- A film is opened on one device, deleted on another and then committed: it is back. -/
theorem not_staysDeleted :
    ∃ es w', Run (Fires step) (World.empty Account.plain : World Bool) es w' ∧
      ¬ (World.empty Account.plain : World Bool).StaysDeleted es := by
  let letters : Letters := fun _ => ⟨0, by decide⟩
  let path := Account.plain.watchedList.path ++ [createAutoId letters]
  let c := (AddWatched.viewDidLoad (Watched.init 0) 0).touch (.typeTitle "Up")
  let view : Store := AList.insert path (c.fields (createAutoId letters)) ∅
  obtain ⟨u, v, rn1, deletes, rn2, back⟩ := Transition.exists_run_through step step
    (World.empty Account.plain)
    [.touch true (.addMovieButtonTapped 0), .touch true (.control (.typeTitle "Up")),
      .touch true (.addWatchedButtonTapped letters 0), .reach true,
      .watchedSnapshot true view, .watchedSnapshot false view,
      .touch false (.didSelectRowAt 0 1), .touch true (.deleteWatched 0)]
    [.reach true, .touch false .editWatchedButtonTapped, .reach false]
    (fun u => (u.next true).map Sent.write = some (.delete path))
    (fun v => (v.firestore.store.lookup path).isSome) (by decide +kernel) (by decide +kernel)
  refine ⟨_, v, rn1.append rn2, ?_⟩
  intro stays
  obtain ⟨x, next, del⟩ := Option.map_eq_some_iff.1 (of_decide_eq_true deletes)
  have path_u : u.account.watchedList.path ++ [createAutoId letters] = path := by
    rw [run_account rn1]
    rfl
  have path_v : v.account.watchedList.path ++ [createAutoId letters] = path := by
    rw [run_account rn2]
    exact path_u
  have deleted : (World.empty Account.plain : World Bool).Deleted _ v (createAutoId letters) :=
    ⟨_, true, _, u, x, rfl, rn1, next, by rw [del, path_u], rn2⟩
  have absent := stays _ [] v _ (List.append_nil _).symm deleted
  rw [path_v] at absent
  rw [absent] at back
  cases back

/-- A film is added, shown and deleted again. -/
theorem staysDeleted_iff_addAndDelete :
    ∃ es w', Run (Fires step) (World.empty Account.plain : World Bool) es w' ∧
      w'.firestore.past.length = 2 ∧
      ((World.empty Account.plain : World Bool).StaysDeleted es ↔
        (World.empty Account.plain : World Bool).EditsFindTheirFilm es) := by
  let letters : Letters := fun _ => ⟨0, by decide⟩
  let path := Account.plain.watchedList.path ++ [createAutoId letters]
  let c := (AddWatched.viewDidLoad (Watched.init 0) 0).touch (.typeTitle "Up")
  let view : Store := AList.insert path (c.fields (createAutoId letters)) ∅
  obtain ⟨w', rn, len⟩ := Transition.exists_run step (World.empty Account.plain : World Bool)
    [.touch true (.addMovieButtonTapped 0), .touch true (.control (.typeTitle "Up")),
      .touch true (.addWatchedButtonTapped letters 0), .reach true,
      .watchedSnapshot false view, .touch false (.deleteWatched 0), .reach false]
    (fun w => w.firestore.past.length = 2) (by decide +kernel)
  exact ⟨_, w', rn, of_decide_eq_true len, staysDeleted_iff start_empty _⟩

end World

end Lumiere

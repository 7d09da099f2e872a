import Lumiere.Library.Editing

/-!
# What a commit changes

A commit changes one document. `commits_hit_their_document` says which: an edit the document from
which its form was loaded, an addition a document under an ID that has never been used. An edit
replaces the whole document by its form, so of two edits of one film the one that arrives last
decides every field (`laterEdit_wins`), also those its user has not touched.
-/

namespace Lumiere
open Firestore
open Transition (Run Fires Guarded)

namespace World

variable {ι : Type*} [DecidableEq ι]

omit [DecidableEq ι] in
/-- The film of an Edit form has an ID under which a document can stand. -/
lemma Sound.editing_segment {w : World ι} (s : Sound w) {d : ι} {c}
    (form : (w.devices d).tabs.form = some (.editWatched c)) :
    Segment (w.devices d).tabs.selected.id := by
  refine (s.devices d).segment s.held ((s.devices d).films _ ?_)
  rw [Tabs.films, form]
  exact List.mem_cons_self

/-- A commit with a valid title sends one write and dismisses its form. -/
lemma submitted_sends {w : World ι} (s : Sound w) {d : ι} {k} (run : (w.devices d).trap = none)
    (unused : w.Unused k) (sub : Submitted (w.devices d).tabs k) :
    ∃ w' p data, w.step (.touch d k) = some w' ∧
      (w'.devices d).sent = (w.devices d).sent ++ [⟨(w.devices d).tabs, k, .setData p data⟩] ∧
      (w'.devices d).tabs.form = none ∧
      (∀ d', d' ≠ d → w'.devices d' = w.devices d') ∧ w'.firestore = w.firestore := by
  obtain ⟨selected, p, data, er⟩ :=
    sub.touch (a := w.account) fun c form => s.editing_segment form
  have st : w.step (.touch d k) = some (w.react d k
      (.writing { (w.devices d).tabs with selected := selected, form := none }
        (.setData p data))) := by
    rw [step, if_pos ⟨run, unused⟩, er]
  refine ⟨_, p, data, st, ?_, ?_, ?_, rfl⟩
  · rw [react_self]
    rfl
  · rw [react_self]
    rfl
  · intro d' ne
    exact set_ne ne

/-- In every reachable state, every edit that a device has sent is the edit of the film from whose
    document its form was loaded. A commit with a valid title sends one write of one document, and
    changes neither the database nor another device until that write arrives. When a write
    arrives, every other document is unchanged; an edit keeps the ID field of its document; an
    addition finds an ID under which no document has ever stood. -/
theorem commits_hit_their_document {w w' : World ι} {es} (start : w.Start)
    (rn : Run (Fires step) w es w') :
    (∀ d, ∀ x ∈ (w'.devices d).sent, x.touch = .editWatchedButtonTapped →
      ∃ film now ks, w.EditOf es d x film now ks) ∧
    (∀ d k, (w'.devices d).trap = none → w'.Unused k → Submitted (w'.devices d).tabs k →
      ∃ w'' p data, w'.step (.touch d k) = some w'' ∧
        (w''.devices d).sent =
          (w'.devices d).sent ++ [⟨(w'.devices d).tabs, k, .setData p data⟩] ∧
        (w''.devices d).tabs.form = none ∧
        (∀ d', d' ≠ d → w''.devices d' = w'.devices d') ∧ w''.firestore = w'.firestore) ∧
    ∀ d x w'', w'.next d = some x → w'.step (.reach d) = some w'' →
      (∀ q, q ≠ x.write.path → w''.firestore.store.lookup q = w'.firestore.store.lookup q) ∧
      (x.touch = .editWatchedButtonTapped →
        ∀ before, w'.firestore.store.lookup x.write.path = some before →
          ∃ after, w''.firestore.store.lookup x.write.path = some after ∧
            after.get "id" = before.get "id") ∧
      ∀ id, x.touch.docID = some id →
        w'.account.listed x.write.path id ∧
        (∀ data, ¬ w'.firestore.Held x.write.path data) ∧
        w'.firestore.store.lookup x.write.path = none ∧
        ∃ after, w''.firestore.store.lookup x.write.path = some after := by
  obtain ⟨s, f⟩ := start.run rn
  refine ⟨edit_opened start rn, fun d k => submitted_sends s, ?_⟩
  intro d x w'' next st
  rw [step, next] at st
  cases st
  have mem : x ∈ (w'.devices d).sent := List.mem_of_getElem? next
  have result : (w'.arrived d x).firestore.store.lookup x.write.path = x.write.result :=
    DocumentStore.lookup_apply_self _ _
  refine ⟨?_, ?_, ?_⟩
  · intro q ne
    exact DocumentStore.lookup_apply_ne ne
  · intro edit before stands
    obtain ⟨l1, l2, el, _⟩ := next_split next
    obtain ⟨c, _, wr, _⟩ := s.edit_inv el edit
    rw [wr] at result stands
    refine ⟨_, by rw [wr]; exact result, ?_⟩
    -- the document that stands there carries its own ID
    rw [(s.held _ _ (.inl stands)).id]
    rfl
  · intro id eid
    obtain ⟨p, data, wr, listed⟩ := ((s.devices d).made x mem).creates eid
    have never := f.pending d _ x id next eid le_rfl
    refine ⟨by rw [wr]; exact listed, never, DocumentStore.History.lookup_eq_none never, data, ?_⟩
    rw [result, wr]
    rfl

/-- A sent edit with its film, its form and its write. -/
def Sent.isEdit (x : Sent) (film : Watched) (c : WatchedForm) (write : Write) : Bool :=
  match x.touch with
  | .editWatchedButtonTapped =>
    x.tabs.selected = film ∧ x.tabs.form = some (.editWatched c) ∧ x.write = write
  | _ => false

/-- What is taken for an edit is one. -/
lemma Sent.isEdit_inv {x film c write} (e : Sent.isEdit x film c write = true) :
    x.touch = .editWatchedButtonTapped ∧ x.tabs.selected = film ∧
      x.tabs.form = some (.editWatched c) ∧ x.write = write := by
  rw [Sent.isEdit] at e
  split at e
  case h_1 touch => exact ⟨touch, of_decide_eq_true e⟩
  case h_2 => cases e

/-- A film is added and then edited while a snapshot arrives behind the form: the edit is that of
    the film which was tapped, and it changes that document alone. -/
theorem commits_hit_their_document_behindTheForm :
    ∃ es, ∃ w' w'' : World Unit, ∃ x film now ks before after,
      Run (Fires step) (World.empty Account.plain) es w' ∧
      x ∈ (w'.devices ()).sent ∧ x.touch = .editWatchedButtonTapped ∧
      (World.empty Account.plain).EditOf es () x film now ks ∧
      w'.next () = some x ∧ w'.step (.reach ()) = some w'' ∧
      (∀ q, q ≠ x.write.path → w''.firestore.store.lookup q = w'.firestore.store.lookup q) ∧
      w'.firestore.store.lookup x.write.path = some before ∧
      w''.firestore.store.lookup x.write.path = some after ∧
      after.get "id" = before.get "id" ∧ after.get "title" ≠ before.get "title" := by
  let letters : Letters := fun _ => ⟨0, by decide⟩
  let id := createAutoId letters
  let path := Account.plain.watchedList.path ++ [id]
  let c := (AddWatched.viewDidLoad (Watched.init 0) 0).touch (.typeTitle "Up")
  let view : Store := AList.insert path (c.fields id) ∅
  let film : Watched := ⟨"Up", false, 0, 0, id⟩
  let c' := (EditWatched.viewDidLoad film 1).touch (.typeTitle "Upgrade")
  obtain ⟨w', rn, good⟩ := Transition.exists_run step (World.empty Account.plain : World Unit)
    [.touch () (.addMovieButtonTapped 0), .touch () (.control (.typeTitle "Up")),
      .touch () (.addWatchedButtonTapped letters 0), .reach (), .watchedSnapshot () view,
      .touch () (.didSelectRowAt 0 1), .watchedSnapshot () ∅,
      .touch () (.control (.typeTitle "Upgrade")), .touch () .editWatchedButtonTapped]
    (fun w => (w.next ()).any (fun x => Sent.isEdit x film c' (.setData path (c'.fields id))) ∧
      w.firestore.store.lookup path = some (c.fields id)) (by decide +kernel)
  obtain ⟨isNext, stands⟩ := of_decide_eq_true good
  obtain ⟨x, next, isEdit⟩ := (Option.any_eq_true _ _).1 isNext
  obtain ⟨edit, _, _, wr⟩ := Sent.isEdit_inv isEdit
  have mem : x ∈ (w'.devices ()).sent := List.mem_of_getElem? next
  have st : w'.step (.reach ()) = some (w'.arrived () x) := by rw [step, next]; rfl
  obtain ⟨edits, _, arrives⟩ := commits_hit_their_document start_empty rn
  obtain ⟨film', now, ks, eo⟩ := edits () x mem edit
  obtain ⟨others, keeps, _⟩ := arrives () x _ next st
  have before : w'.firestore.store.lookup x.write.path = some (c.fields id) := by
    rw [wr]
    exact stands
  obtain ⟨after, stands', same⟩ := keeps edit _ before
  have result : (w'.arrived () x).firestore.store.lookup x.write.path = x.write.result :=
    DocumentStore.lookup_apply_self _ _
  rw [stands', wr] at result
  have changed : after.get "title" ≠ (c.fields id).get "title" := by
    rw [Option.some.inj result]
    simp [WatchedForm.fields, Fields.get, c, c', AddWatched.viewDidLoad, EditWatched.viewDidLoad,
      WatchedForm.touch]
  exact ⟨_, w', _, x, film', now, ks, _, after, rn, mem, edit, eo, next, st, others, before,
    stands', same, changed⟩

/-! ## Two edits of one film -/

/-- The user has changed a field of an Edit form from the value it was opened with. -/
def Changed (film : Watched) (now : Date) (ks : List Control) (field : String) : Prop :=
  ((edited film now ks).fields film.id).get field ≠
    ((EditWatched.viewDidLoad film now).fields film.id).get field

/-- No write of the document at `p` arrives in this step. -/
def Spares (p : List String) (w : World ι) (e : Event ι) : Prop :=
  ∀ d x, e = .reach d → w.next d = some x → x.write.path ≠ p

/-- In the run of `es` from `w` to `v`, the edits `x` and `y` of one film reach the database, `y`
    last, and no write of that film arrives after them. -/
def BothArrive (w : World ι) (es : List (Event ι)) (v : World ι) (dx : ι) (x : Sent) (dy : ι)
    (y : Sent) : Prop :=
  ∃ es1 es2 es3 t u, es = es1 ++ .reach dx :: es2 ++ .reach dy :: es3 ∧
    Run (Fires step) w es1 t ∧ t.next dx = some x ∧
    Run (Fires step) t (.reach dx :: es2) u ∧ u.next dy = some y ∧
    Run (Guarded (Fires step) (Spares y.write.path)) (u.arrived dy y) es3 v ∧
    x.touch = .editWatchedButtonTapped ∧ y.touch = .editWatchedButtonTapped ∧
    x.write.path = y.write.path

/-- Both of two edits of different fields of one film survive. -/
def NoLostUpdate (w : World ι) : Prop :=
  ∀ es v dx x dy y filmX nowX ksX filmY nowY ksY, w.BothArrive es v dx x dy y →
    w.EditOf es dx x filmX nowX ksX → w.EditOf es dy y filmY nowY ksY →
    (∀ field, ¬ (Changed filmX nowX ksX field ∧ Changed filmY nowY ksY field)) →
    ∃ stored, v.firestore.store.lookup y.write.path = some stored ∧
      (∀ field, Changed filmX nowX ksX field →
        stored.get field = ((edited filmX nowX ksX).fields filmX.id).get field) ∧
      ∀ field, Changed filmY nowY ksY field →
        stored.get field = ((edited filmY nowY ksY).fields filmY.id).get field

/-- A step that spares a document leaves it as it is. -/
lemma lookup_spared {w w' : World ι} {e p} (st : Fires step w e w') (spares : w.Spares p e) :
    w'.firestore.store.lookup p = w.firestore.store.lookup p := by
  cases step_inv st with
  | @reach d x next =>
    exact DocumentStore.lookup_apply_ne (spares d x rfl next).symm
  | touchTrapped | touch | watchedTrapped | watchedSnapshot | wishlistTrapped | wishlistSnapshot
  | launch => rfl

/-- Both writes are edits of films with some controls touched. -/
lemma BothArrive.edits {w v : World ι} {es dx x dy y} (both : w.BothArrive es v dx x dy y)
    (start : w.Start) :
    (∃ film now ks, w.EditOf es dx x film now ks) ∧ ∃ film now ks, w.EditOf es dy y film now ks := by
  obtain ⟨es1, es2, es3, t, u, ees, rn1, nextX, rn2, nextY, _, editX, editY, _⟩ := both
  obtain ⟨filmX, nowX, ksX, eoX⟩ :=
    edit_opened start rn1 dx x (List.mem_of_getElem? nextX) editX
  obtain ⟨filmY, nowY, ksY, eoY⟩ :=
    edit_opened start (rn1.append rn2) dy y (List.mem_of_getElem? nextY) editY
  subst ees
  refine ⟨⟨filmX, nowX, ksX, ?_⟩, ⟨filmY, nowY, ksY, eoY.append _⟩⟩
  rw [List.append_assoc]
  exact eoX.append _

/-- The stored document is the form of `y`: it carries the values that form has changed and,
    everywhere else, those it was opened with. Where the two forms have changed different fields, it
    carries the changes of `x` exactly when the form of `y` was opened with them. -/
def LastFormStands (w : World ι) (es : List (Event ι)) (v : World ι) (dx : ι) (x : Sent) (dy : ι)
    (y : Sent) : Prop :=
  ∃ filmX nowX ksX filmY nowY ksY stored,
    w.EditOf es dx x filmX nowX ksX ∧ w.EditOf es dy y filmY nowY ksY ∧
    v.firestore.store.lookup y.write.path = some stored ∧
    (∀ field, Changed filmY nowY ksY field →
      stored.get field = ((edited filmY nowY ksY).fields filmY.id).get field) ∧
    (∀ field, ¬ Changed filmY nowY ksY field →
      stored.get field = ((EditWatched.viewDidLoad filmY nowY).fields filmY.id).get field) ∧
    ((∀ field, ¬ (Changed filmX nowX ksX field ∧ Changed filmY nowY ksY field)) →
      ((∀ field, Changed filmX nowX ksX field →
          stored.get field = ((edited filmX nowX ksX).fields filmX.id).get field) ↔
        ∀ field, Changed filmX nowX ksX field →
          ((EditWatched.viewDidLoad filmY nowY).fields filmY.id).get field =
            ((edited filmX nowX ksX).fields filmX.id).get field))

/-- Touching the controls leaves the latest date that can be picked. -/
lemma edited_maximumDate {film now} {ks : List Control} :
    (edited film now ks).dateWatchedPicker.maximumDate = now := by
  have keep : ∀ c : WatchedForm,
      (ks.foldl WatchedForm.touch c).dateWatchedPicker.maximumDate =
        c.dateWatchedPicker.maximumDate := by
    induction ks with
    | nil => intro c; rfl
    | cons k ks ih =>
      intro c
      rw [List.foldl_cons, ih]
      cases k <;> rfl
  exact keep _

/-- What a sent edit shows of its form determines how that form was loaded. -/
lemma EditOf.determined {w : World ι} {es d x film now ks film' c}
    (eo : w.EditOf es d x film now ks) (selected : x.tabs.selected = film')
    (form : x.tabs.form = some (.editWatched c)) :
    film = film' ∧ now = c.dateWatchedPicker.maximumDate ∧ edited film now ks = c := by
  obtain ⟨_, _, _, _, _, _, _, _, _, selected', form', _⟩ := eo
  rw [form] at form'
  cases form'
  exact ⟨selected'.symm.trans selected, edited_maximumDate.symm, rfl⟩

/-- One device changes the title of a film, another one likes it, and the edits arrive in this
    order. -/
lemma bothArrive_titleAndLike :
    ∃ es film cX cY, ∃ v : World Bool, ∃ x y,
      film = ⟨"Up", false, 0, 0, createAutoId fun _ => ⟨0, by decide⟩⟩ ∧
      cX = (EditWatched.viewDidLoad film 1).touch (.typeTitle "Upgrade") ∧
      cY = (EditWatched.viewDidLoad film 1).touch .likedMovieButtonTapped ∧
      (World.empty Account.plain).BothArrive es v true x false y ∧
      x.tabs.selected = film ∧ x.tabs.form = some (.editWatched cX) ∧
      y.tabs.selected = film ∧ y.tabs.form = some (.editWatched cY) ∧
      v.firestore.store.lookup y.write.path = some (cY.fields film.id) := by
  let letters : Letters := fun _ => ⟨0, by decide⟩
  let id := createAutoId letters
  let path := Account.plain.watchedList.path ++ [id]
  let c := (AddWatched.viewDidLoad (Watched.init 0) 0).touch (.typeTitle "Up")
  let view : Store := AList.insert path (c.fields id) ∅
  let film : Watched := ⟨"Up", false, 0, 0, id⟩
  let cX := (EditWatched.viewDidLoad film 1).touch (.typeTitle "Upgrade")
  let cY := (EditWatched.viewDidLoad film 1).touch .likedMovieButtonTapped
  obtain ⟨t, u, rn1, atX, rn2, atY⟩ := Transition.exists_run_through step step
    (World.empty Account.plain : World Bool)
    [.touch true (.addMovieButtonTapped 0), .touch true (.control (.typeTitle "Up")),
      .touch true (.addWatchedButtonTapped letters 0), .reach true,
      .watchedSnapshot true view, .watchedSnapshot false view,
      .touch true (.didSelectRowAt 0 1), .touch true (.control (.typeTitle "Upgrade")),
      .touch false (.didSelectRowAt 0 1), .touch false (.control .likedMovieButtonTapped),
      .touch true .editWatchedButtonTapped, .touch false .editWatchedButtonTapped]
    [.reach true]
    (fun t => (t.next true).any fun x => Sent.isEdit x film cX (.setData path (cX.fields id)))
    (fun u => (u.next false).any fun y => Sent.isEdit y film cY (.setData path (cY.fields id)))
    (by decide +kernel) (by decide +kernel)
  obtain ⟨x, nextX, isX⟩ := (Option.any_eq_true _ _).1 atX
  obtain ⟨y, nextY, isY⟩ := (Option.any_eq_true _ _).1 atY
  obtain ⟨editX, filmX, formX, writeX⟩ := Sent.isEdit_inv isX
  obtain ⟨editY, filmY, formY, writeY⟩ := Sent.isEdit_inv isY
  have arrives : (u.arrived false y).firestore.store.lookup y.write.path = y.write.result :=
    DocumentStore.lookup_apply_self _ _
  rw [writeY] at arrives
  have both : (World.empty Account.plain).BothArrive _ (u.arrived false y) true x false y :=
    ⟨_, [], [], t, u, rfl, rn1, nextX, rn2, nextY, .nil, editX, editY, by rw [writeX, writeY]; rfl⟩
  exact ⟨_, film, cX, cY, u.arrived false y, x, y, rfl, rfl, rfl, both, filmX, formX, filmY, formY,
    by rw [writeY]; exact arrives⟩

end World

end Lumiere

import Lumiere.Library.World
import Lumiere.Library.Document

/-!
# The watched list is well formed

The representation invariant of the system. `DeviceSound` is its part for one device: its sent
writes were made by the five handlers and put documents of the watched list there, and every film in
its lists and forms, now and when it made each of these writes, is one it has read from a document
with the film's own ID. `Sound` adds that the database has held documents of the watched list only.
Every step keeps it (`Sound.step`), and `watchedList_wellFormed` reads off what the listener needs.
-/

namespace Lumiere
open Firestore
open DocumentStore (History)

/-- The films that the next touches can act on: those of the list and the one being edited. -/
def Tabs.films (t : Tabs) : List Watched :=
  match t.form with
  | some (.editWatched _) => t.selected :: t.watchedList
  | _ => t.watchedList

/-- The film has been read from the document with its ID. -/
def Known (a : Account) (h : History String Fields) (sent : List Sent) (film : Watched) : Prop :=
  ∃ data, Seen h sent (a.watchedList.path ++ [film.id]) data ∧ Shows film data

/-- Another write leaves what has been seen. -/
lemma Seen.append {h : History String Fields} {sent sent' p data} (seen : Seen h sent p data) :
    Seen h (sent ++ sent') p data := by
  rcases seen with held | ⟨x, mem, e⟩
  · exact .inl held
  · exact .inr ⟨x, List.mem_append_left _ mem, e⟩

/-- Another arrival leaves what has been seen. -/
lemma Seen.write {h : History String Fields} {sent p data} (w : Write)
    (seen : Seen h sent p data) : Seen (h.write w) sent p data := by
  rcases seen with held | own
  · exact .inl (History.held_write.2 (.inl held))
  · exact .inr own

/-- Another write leaves what is known. -/
lemma Known.append {a h sent film} (known : Known a h sent film) (sent' : List Sent) :
    Known a h (sent ++ sent') film := by
  obtain ⟨data, seen, shows⟩ := known
  exact ⟨data, seen.append, shows⟩

/-- Another arrival leaves what is known. -/
lemma Known.write {a h sent film} (known : Known a h sent film) (w : Write) :
    Known a (h.write w) sent film := by
  obtain ⟨data, seen, shows⟩ := known
  exact ⟨data, seen.write w, shows⟩

/-- A touch brings no new film to the screens. -/
lemma Touched.films {user t k r film} (tc : Touched user t k r) (mem : film ∈ r.tabs.films) :
    film ∈ t.films := by
  have list : film ∈ t.watchedList → film ∈ t.films := by
    intro mem
    rw [Tabs.films]
    split
    · exact List.mem_cons_of_mem _ mem
    · exact mem
  cases tc with
  | didSelectRowAt form row =>
    rcases List.mem_cons.1 mem with e | mem
    · subst e
      exact list (List.mem_of_getElem? row)
    · exact list mem
  | controlEdit form =>
    rw [Tabs.films, form]
    exact mem
  | deleteWatched | deleteWish | refused => exact mem
  | addMovieButtonTapped | presentAddWish | leadingSwipe | controlAdd | typeWish | addWatched
  | editWatched | addWish | cancel => exact list mem

/-! ## One device -/

/-- The writes of a device are as the forms make them, and its films come from documents. -/
structure DeviceSound (a : Account) (h : History String Fields) (dev : Device) : Prop where
  made : ∀ x ∈ dev.sent, Made a x
  written : ∀ x ∈ dev.sent, ∀ id data,
    x.write = .setData (a.watchedList.path ++ [id]) data → WatchedDocument id data
  films : ∀ film ∈ dev.tabs.films, Known a h dev.sent film
  sentFilms : ∀ l1 x l2, dev.sent = l1 ++ x :: l2 → ∀ film ∈ x.tabs.films, Known a h l1 film

namespace DeviceSound

variable {a : Account} {h : History String Fields} {dev : Device}

/-- What the device has seen of the watched list are documents of it. -/
lemma seen (ds : DeviceSound a h dev)
    (held : ∀ id data, h.Held (a.watchedList.path ++ [id]) data → WatchedDocument id data)
    {id data} (seen : Seen h dev.sent (a.watchedList.path ++ [id]) data) :
    WatchedDocument id data := by
  rcases seen with before | ⟨x, mem, e⟩
  · exact held id data before
  · exact ds.written x mem id data e

/-- The ID of a known film is a segment. -/
lemma segment (ds : DeviceSound a h dev)
    (held : ∀ id data, h.Held (a.watchedList.path ++ [id]) data → WatchedDocument id data)
    {film} (known : Known a h dev.sent film) : Segment film.id := by
  obtain ⟨data, seen, _⟩ := known
  exact (ds.seen held seen).segment

/-- A device that has not sent anything more and shows known films only is sound. -/
lemma retab (ds : DeviceSound a h dev) {dev' : Device} (sent : dev'.sent = dev.sent)
    (films : ∀ film ∈ dev'.tabs.films, Known a h dev.sent film) : DeviceSound a h dev' where
  made := sent ▸ ds.made
  written := sent ▸ ds.written
  films := sent ▸ films
  sentFilms := sent ▸ ds.sentFilms

/-- A write of any device leaves every device sound. -/
lemma write (ds : DeviceSound a h dev) (w : Write) : DeviceSound a (h.write w) dev where
  made := ds.made
  written := ds.written
  films := fun film mem => (ds.films film mem).write w
  sentFilms := fun l1 x l2 e film mem => (ds.sentFilms l1 x l2 e film mem).write w

/-- A new write puts a document of the watched list there. -/
lemma written_made (ds : DeviceSound a h dev)
    (held : ∀ id data, h.Held (a.watchedList.path ++ [id]) data → WatchedDocument id data)
    {x : Sent} (mk : Made a x) (tabs : x.tabs = dev.tabs) {id data}
    (e : x.write = .setData (a.watchedList.path ++ [id]) data) : WatchedDocument id data := by
  cases mk with
  | deleteWatched | deleteWish => cases e
  | @addWatched t c letters now form valid =>
    simp only [DocumentStore.Write.setData.injEq, List.append_cancel_left_eq] at e
    obtain ⟨eid, edata⟩ := e
    cases eid
    subst edata
    exact watchedDocument_fields valid (segment_createAutoId letters)
  | @editWatched t c sub form valid es =>
    simp only [DocumentStore.Write.setData.injEq, List.append_cancel_left_eq] at e
    obtain ⟨esub, edata⟩ := e
    subst esub edata
    -- the film of the form has been read, so its ID is one segment
    change t = dev.tabs at tabs
    have known : Known a h dev.sent t.selected := by
      apply ds.films
      rw [← tabs, Tabs.films, form]
      exact List.mem_cons_self
    have seg := ds.segment held known
    rw [seg.fromStringView] at es
    cases es
    exact watchedDocument_fields valid seg
  | addWish =>
    simp only [DocumentStore.Write.setData.injEq] at e
    exact absurd e.1.symm Account.watchedList_ne_wishlist

/-- A touch leaves its device sound. -/
lemma react (ds : DeviceSound a h dev)
    (held : ∀ id data, h.Held (a.watchedList.path ++ [id]) data → WatchedDocument id data)
    {k r} (tc : Touched (some a.email) dev.tabs k r) : DeviceSound a h (dev.react k r) where
  made := by
    intro x mem
    rcases Device.mem_react tc mem with mem | ⟨_, _, _, mk⟩
    · exact ds.made x mem
    · exact mk
  written := by
    intro x mem id data e
    rcases Device.mem_react tc mem with mem | ⟨tabs, _, _, mk⟩
    · exact ds.written x mem id data e
    · exact ds.written_made held mk tabs e
  films := fun film mem => (ds.films film (tc.films mem)).append _
  sentFilms := by
    intro l1 x l2 e film mem
    change dev.sent ++ _ = _ at e
    cases wr : r.write with
    | none =>
      rw [wr, Option.toList_none, List.map_nil, List.append_nil] at e
      exact ds.sentFilms l1 x l2 e film mem
    | some w =>
      rw [wr, Option.toList_some, List.map_cons, List.map_nil] at e
      -- the record is the new one, or it was sent before
      rcases List.eq_nil_or_concat l2 with e2 | ⟨l2', y, e2⟩
      · subst e2
        obtain ⟨e1, ex⟩ := List.append_inj' e rfl
        cases ex
        subst e1
        exact ds.films film mem
      · rw [e2, List.concat_eq_append, ← List.cons_append, ← List.append_assoc] at e
        obtain ⟨e1, _⟩ := List.append_inj' e rfl
        exact ds.sentFilms l1 x l2' e1 film mem

end DeviceSound

/-! ## The whole system -/

namespace World

variable {ι : Type*} [DecidableEq ι]

/-- Every document there has been is as the forms write it, and every device is sound. -/
structure Sound (w : World ι) : Prop where
  held : ∀ id data,
    w.firestore.Held (w.account.watchedList.path ++ [id]) data → WatchedDocument id data
  devices : ∀ d, DeviceSound w.account w.firestore (w.devices d)

namespace Sound

variable {w w' : World ι}

/-- One device may change as long as it is sound. -/
lemma set (s : Sound w) {d dev} (ds : DeviceSound w.account w.firestore dev) :
    Sound (w.set d dev) where
  held := s.held
  devices := by
    intro d'
    by_cases h : d' = d
    case pos =>
      subst h
      rw [set_self]
      exact ds
    case neg =>
      rw [set_ne h]
      exact s.devices d'

omit [DecidableEq ι] in
/-- Of the watched list only documents of it are delivered to a device. -/
lemma deliverable (s : Sound w) {d view id data} (del : w.Deliverable d view)
    (lk : view.lookup (w.account.watchedList.path ++ [id]) = some data) :
    WatchedDocument id data := by
  have mem := AList.mem_lookup_iff.1 lk
  exact (s.devices d).seen s.held (del _ mem)

omit [DecidableEq ι] in
/-- The documents of a snapshot are as the forms write them. -/
lemma snapshot (s : Sound w) {d view} (del : w.Deliverable d view) :
    ∀ x ∈ (watchedQuery w.account.watchedList).run view, WatchedDocument x.documentID x.data := by
  intro x mem
  exact s.deliverable del (Query.mem_run.1 mem).1

/-- Every step keeps the system sound. -/
lemma step {e} (st : Stepped w e w') (s : Sound w) : Sound w' := by
  cases st with
  | @touchTrapped d _ _ _ | @watchedTrapped d _ _ | @wishlistTrapped d _ _ =>
    exact s.set ((s.devices d).retab rfl (s.devices d).films)
  | @touch d k r _ _ tc =>
    have next := s.set (d := d) ((s.devices d).react s.held tc)
    exact ⟨next.held, next.devices⟩
  | @watchedSnapshot d view callback del e =>
    refine s.set ((s.devices d).retab rfl ?_)
    intro film mem
    have new : film ∈ callback.watchedList → Known w.account w.firestore (w.devices d).sent film := by
      intro mem
      obtain ⟨x, mem, eid, shows⟩ := watchedListener_mem (s.snapshot del) e mem
      have stands := AList.mem_lookup_iff.1 (Query.mem_run.1 mem).1
      refine ⟨x.data, ?_, shows⟩
      rw [eid]
      exact del _ stands
    -- a film being edited stays the one it was
    have edited := (s.devices d).films
    rw [Tabs.films] at mem edited
    change film ∈ match (w.devices d).tabs.form with | some (.editWatched _) => _ | _ => _ at mem
    split at mem
    case h_1 c form =>
      rw [form] at edited
      rcases List.mem_cons.1 mem with e | mem
      · exact edited film (e ▸ List.mem_cons_self)
      · exact new mem
    case h_2 => exact new mem
  | @wishlistSnapshot d view wishlist del e =>
    exact s.set ((s.devices d).retab rfl (s.devices d).films)
  | @reach d x next =>
    have s' : ∀ d, DeviceSound w.account (w.firestore.write x.write) (w.devices d) :=
      fun d => (s.devices d).write x.write
    have mem : x ∈ (w.devices d).sent := List.mem_of_getElem? next
    refine ⟨?_, ?_⟩
    · intro id data held
      rcases History.held_write.1 held with held | e
      · exact s.held id data held
      · exact (s.devices d).written x mem id data e
    · intro d'
      by_cases h : d' = d
      case pos =>
        subst h
        change DeviceSound _ _ ((w.set d' _).devices d')
        rw [set_self]
        exact (s' d').retab rfl (s' d').films
      case neg =>
        change DeviceSound _ _ ((w.set d _).devices d')
        rw [set_ne h]
        exact s' d'
  | @launch d now =>
    refine s.set ((s.devices d).retab rfl ?_)
    intro film mem
    cases mem

/-- Every run keeps the world sound. -/
lemma run {es} (rn : Transition.Run (Transition.Fires World.step) w es w') (s : Sound w) :
    Sound w' :=
  rn.invariant (fun st => step (step_inv st)) s

end Sound

/-- A device whose screens have just been loaded is sound. -/
lemma Launched.sound {a : Account} {h : History String Fields} {dev : Device} (l : Launched dev) :
    DeviceSound a h dev where
  made := by rw [l.sent]; intro x mem; cases mem
  written := by rw [l.sent]; intro x mem; cases mem
  films := by rw [l.tabs]; intro film mem; cases mem
  sentFilms := by rw [l.sent]; intro l1 x l2 e; simp at e

/-- Nothing stands in the watched list and every device has just loaded its screens. -/
structure EmptyStart (w : World ι) : Prop where
  past : w.firestore.past = []
  watchedList : ∀ id, w.firestore.store.lookup (w.account.watchedList.path ++ [id]) = none
  devices : ∀ d, Launched (w.devices d)

omit [DecidableEq ι] in
/-- The beginning without documents is sound. -/
lemma EmptyStart.sound {w : World ι} (start : w.EmptyStart) : Sound w where
  held := by
    intro id data held
    rcases held with now | ⟨s, mem, _⟩
    · rw [start.watchedList id] at now
      cases now
    · rw [start.past] at mem
      cases mem
  devices := fun d => (start.devices d).sound

/-- On an account that starts with an empty watched list every document of the list is well formed
    in every reachable state, and on every snapshot that can be delivered the listener's date guard
    and its casts succeed: it rebuilds the list with one film for each document. -/
theorem watchedList_wellFormed {w w' : World ι} {es} (start : w.EmptyStart)
    (rn : Transition.Run (Transition.Fires step) w es w') :
    (∀ id data, w'.firestore.store.lookup (w'.account.watchedList.path ++ [id]) = some data →
        WatchedDocument id data) ∧
      ∀ d view, w'.Deliverable d view →
        ∃ films,
          watchedListener ((watchedQuery w'.account.watchedList).run view) =
            .ok (.rebuilt films) ∧
          List.Forall₂ (fun film x => film.id = x.documentID ∧ Shows film x.data) films
            ((watchedQuery w'.account.watchedList).run view) := by
  have sound : Sound w' := Sound.run rn start.sound
  refine ⟨?_, ?_⟩
  · intro id data stands
    exact sound.held id data (.inl stands)
  · intro d view del
    exact watchedListener_rebuilt (sound.snapshot del)

/-- A film is added from the plus button, shown, edited and deleted. -/
theorem watchedList_wellFormed_lifeOfAFilm :
    ∃ w' : World Unit,
      (∀ id data, w'.firestore.store.lookup (w'.account.watchedList.path ++ [id]) = some data →
        WatchedDocument id data) ∧
      w'.firestore.past.length = 3 := by
  let letters : Letters := fun _ => ⟨0, by decide⟩
  let path := Account.plain.watchedList.path ++ [createAutoId letters]
  let c := (AddWatched.viewDidLoad (Watched.init 0) 0).touch (.typeTitle "Up")
  let view : Store := AList.insert path (c.fields (createAutoId letters)) ∅
  obtain ⟨w', rn, len⟩ := Transition.exists_run step (empty Account.plain)
    [.touch () (.addMovieButtonTapped 0), .touch () (.control (.typeTitle "Up")),
      .touch () (.addWatchedButtonTapped letters 0), .watchedSnapshot () view, .reach (),
      .touch () (.didSelectRowAt 0 1), .touch () (.control (.sliderChanged 7)),
      .touch () .editWatchedButtonTapped, .reach (), .touch () (.deleteWatched 0), .reach ()]
    (fun w => w.firestore.past.length = 3) (by decide +kernel)
  have start : (empty Account.plain : World Unit).EmptyStart :=
    ⟨rfl, fun _ => rfl, fun _ => empty_launched⟩
  exact ⟨w', (watchedList_wellFormed start rn).1, of_decide_eq_true len⟩

end World

end Lumiere

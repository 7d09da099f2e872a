import Lumiere.Controllers.Tabs

/-!
# A list screen and its listener's callbacks

The list of the Watched or the Wishlist screen and the table views that are attached to its view.
A callback of the listener refills the list on a successful snapshot, keeps it on an error, and then
builds a new table; the callback of the watched list leaves early at a document without a date.
`ListController` is what the two screens differ in. A table loads its row count from the screen at
its first layout and may then ask for any row below it.

`callback_atomic_iff` says when a callback of the watched list is all or nothing.
-/

namespace Lumiere
open Firestore

/-- The list as a callback leaves it on a successful snapshot, and whether the callback goes on to
    build a table. -/
structure Refilled (α : Type) where
  list : List α
  goesOn : Bool
  deriving DecidableEq

/-- The listener of a list screen. On well-formed documents a callback reads one item from each of
    them and goes on. -/
structure ListController (α : Type) where
  listener : List DocumentSnapshot → Except Trap (Refilled α)
  WellFormed : DocumentSnapshot → Prop
  reads : ∀ {documents}, (∀ d ∈ documents, WellFormed d) →
    ∃ list, listener documents = .ok ⟨list, true⟩ ∧ list.length = documents.length

/-- A table view whose data source is the screen, with the row count it has loaded. -/
structure Table where
  numberOfRows : Option Nat
  deriving DecidableEq

/-- The screen of a list of films. -/
structure ListScreen (α : Type) where
  list : List α
  -- the attached tables, in the order they were added
  tables : List Table
  alerts : List String
  trap : Option Trap
  deriving DecidableEq

namespace ListScreen

variable {α : Type}

/-- The screen as it is loaded. -/
def viewDidLoad : ListScreen α where
  list := []
  tables := []
  alerts := []
  trap := none

/-- A new table is built and `addViews` attaches it. -/
def addTable (s : ListScreen α) : ListScreen α :=
  { s with tables := s.tables ++ [⟨none⟩] }

/-- The first layout of a table asks for `numberOfRowsInSection`. -/
def layout (s : ListScreen α) (table : Nat) : ListScreen α :=
  { s with tables := s.tables.set table ⟨some s.list.length⟩ }

/-- `cellForRowAt` and `didSelectRowAt` look the item of a row up. -/
def lookUp (s : ListScreen α) (row : Nat) : ListScreen α :=
  match atRow s.list row with
  | .error trap => { s with trap := some trap }
  | .ok _ => s

/-- What happens to the screen. -/
inductive Event where
  | callback (result : Except String (List DocumentSnapshot))
  | layout (table : Nat)
  /-- A table asks for one of its rows, or the user taps it. -/
  | row (table row : Nat)

end ListScreen

namespace ListController

variable {α : Type}

/-- The closure passed to `addSnapshotListener`. -/
def callback (c : ListController α) (s : ListScreen α) :
    Except String (List DocumentSnapshot) → ListScreen α
  | .error err =>
    if err ≠ "Missing or insufficient permissions." then
      ({ s with alerts := s.alerts ++ [err] } : ListScreen α).addTable
    else s.addTable
  | .ok documents =>
    match c.listener documents with
    | .error trap => { s with trap := some trap }
    | .ok filled =>
      if filled.goesOn then ({ s with list := filled.list } : ListScreen α).addTable
      else { s with list := filled.list }

/-- One event; after a trap there is none. -/
def step (c : ListController α) (s : ListScreen α) : ListScreen.Event → Option (ListScreen α)
  | .callback result => if s.trap = none then some (c.callback s result) else none
  | .layout table =>
    if s.trap = none ∧ s.tables[table]? = some ⟨none⟩ then some (s.layout table) else none
  | .row table row =>
    if s.trap = none ∧ ((s.tables[table]?.bind Table.numberOfRows).any fun n => row < n) = true then
      some (s.lookUp row)
    else none

end ListController

/-! ## The two screens -/

/-- What the callback leaves of the list, and whether it goes on to the tables. -/
def WatchedCallback.refilled : WatchedCallback → Refilled Watched
  | .returned watchedList => ⟨watchedList, false⟩
  | .rebuilt watchedList => ⟨watchedList, true⟩

/-- A document has a `date` that is a `Timestamp`. -/
def Dated (d : DocumentSnapshot) : Bool :=
  match d.get "date" with
  | some (.timestamp _) => true
  | _ => false

/-- The film that the listener reads from a document. -/
def Reads (d : DocumentSnapshot) (film : Watched) : Prop :=
  ∃ stamp, d.get "date" = some (.timestamp stamp) ∧ decodeWatched d stamp = .ok film

/-- The fields other than the date are those of a film. -/
structure WellTyped (d : DocumentSnapshot) : Prop where
  title : ∃ title, castString (d.get "title") = .ok title
  hasLiked : ∃ hasLiked, castBool (d.get "hasLiked") = .ok hasLiked
  rating : ∃ rating, castFloat (d.get "rating") = .ok rating
  id : ∃ id, castString (d.get "id") = .ok id

/-- A document is read in one way. -/
lemma Reads.unique {d film film'} (h : Reads d film) (h' : Reads d film') : film = film' := by
  obtain ⟨stamp, date, e⟩ := h
  obtain ⟨stamp', date', e'⟩ := h'
  rw [date] at date'
  cases date'
  rw [e] at e'
  cases e'
  rfl

/-- The date of the document can be read. -/
lemma dated_iff {d : DocumentSnapshot} :
    Dated d = true ↔ ∃ stamp, d.get "date" = some (.timestamp stamp) := by
  rw [Dated]
  split
  case h_1 stamp e => simp [e]
  case h_2 no =>
    constructor
    · intro h
      cases h
    · rintro ⟨stamp, e⟩
      exact absurd e (no stamp)

/-- A well-typed document is a film. -/
lemma WellTyped.decode {d : DocumentSnapshot} (wt : WellTyped d) (stamp : Date) :
    ∃ film, decodeWatched d stamp = .ok film := by
  obtain ⟨title, e1⟩ := wt.title
  obtain ⟨hasLiked, e2⟩ := wt.hasLiked
  obtain ⟨rating, e3⟩ := wt.rating
  obtain ⟨id, e4⟩ := wt.id
  refine ⟨⟨title, hasLiked, stamp, rating, id⟩, ?_⟩
  simp only [decodeWatched, e1, e2, e3, e4]
  rfl

/-- The loop reads the documents up to the first one without a date and goes on when there is none
    such. -/
lemma appendWatched_spec {documents : List DocumentSnapshot} (wt : ∀ d ∈ documents, WellTyped d)
    (watchedList : List Watched) :
    ∃ films callback, List.Forall₂ Reads (documents.takeWhile Dated) films ∧
      appendWatched watchedList documents = .ok callback ∧
      callback.refilled = ⟨watchedList ++ films, documents.all Dated⟩ := by
  induction documents generalizing watchedList with
  | nil =>
    refine ⟨[], .rebuilt watchedList, .nil, rfl, ?_⟩
    rw [List.append_nil]
    rfl
  | cons d documents ih =>
    cases dated : Dated d with
    | false =>
      refine ⟨[], .returned watchedList, ?_, ?_, ?_⟩
      · rw [List.takeWhile_cons_of_neg (by simp [dated])]
        exact .nil
      · rw [appendWatched]
        split
        case h_1 stamp e => simp [Dated, e] at dated
        case h_2 => rfl
      · simp [WatchedCallback.refilled, dated]
    | true =>
      obtain ⟨stamp, date⟩ := dated_iff.1 dated
      obtain ⟨film, read⟩ := (wt d List.mem_cons_self).decode stamp
      obtain ⟨films, callback, rel, e, filled⟩ :=
        ih (fun d mem => wt d (List.mem_cons_of_mem _ mem)) (watchedList ++ [film])
      refine ⟨film :: films, callback, ?_, ?_, ?_⟩
      · rw [List.takeWhile_cons_of_pos dated]
        exact .cons ⟨stamp, date, read⟩ rel
      · rw [appendWatched, date]
        simp only [read]
        exact e
      · rw [filled, List.append_assoc, List.all_cons, dated]
        rfl

/-- All documents are dated, so none is left out. -/
lemma takeWhile_of_all {documents : List DocumentSnapshot} (all : documents.all Dated = true) :
    documents.takeWhile Dated = documents :=
  List.takeWhile_eq_self_iff.2 (List.all_eq_true.1 all)

/-- The Watched screen. -/
def watchedController : ListController Watched where
  listener documents := (watchedListener documents).map WatchedCallback.refilled
  WellFormed d := Dated d = true ∧ WellTyped d
  reads := by
    intro documents wf
    obtain ⟨films, callback, rel, e, filled⟩ := appendWatched_spec (fun d mem => (wf d mem).2) []
    have all : documents.all Dated = true := List.all_eq_true.2 fun d mem => (wf d mem).1
    refine ⟨films, ?_, ?_⟩
    · rw [all] at filled
      rw [watchedListener, e]
      exact congrArg Except.ok filled
    · rw [takeWhile_of_all all] at rel
      exact rel.length_eq.symm

/-- The fields of a document of the wishlist. -/
structure WellTypedWish (d : DocumentSnapshot) : Prop where
  title : ∃ title, castString (d.get "title") = .ok title
  id : ∃ id, castString (d.get "id") = .ok id

/-- A well-typed document is a wish. -/
lemma WellTypedWish.decode {d : DocumentSnapshot} (wt : WellTypedWish d) :
    ∃ wish, decodeWish d = .ok wish := by
  obtain ⟨title, e1⟩ := wt.title
  obtain ⟨id, e2⟩ := wt.id
  refine ⟨⟨title, id⟩, ?_⟩
  simp only [decodeWish, e1, e2]
  rfl

/-- The callback of the Wishlist screen reads all documents. -/
lemma wishlistListener_reads {documents : List DocumentSnapshot}
    (wt : ∀ d ∈ documents, WellTypedWish d) :
    ∃ wishlist, wishlistListener documents = .ok wishlist ∧ wishlist.length = documents.length := by
  induction documents with
  | nil => exact ⟨[], rfl, rfl⟩
  | cons d documents ih =>
    obtain ⟨wish, e⟩ := (wt d List.mem_cons_self).decode
    obtain ⟨wishlist, es, length⟩ := ih fun d mem => wt d (List.mem_cons_of_mem _ mem)
    refine ⟨wish :: wishlist, ?_, by rw [List.length_cons, List.length_cons, length]⟩
    rw [wishlistListener] at es ⊢
    rw [List.mapM_cons, e, es]
    rfl

/-- The Wishlist screen. -/
def wishlistController : ListController Wish where
  listener documents := (wishlistListener documents).map fun wishlist => ⟨wishlist, true⟩
  WellFormed := WellTypedWish
  reads := by
    intro documents wf
    obtain ⟨wishlist, e, length⟩ := wishlistListener_reads wf
    exact ⟨wishlist, by rw [e]; rfl, length⟩

/-! ## All or nothing -/

/-- A callback on `documents` has replaced the whole list and built a new table, or it has changed
    neither the list nor the tables. -/
def AllOrNothing (documents : List DocumentSnapshot) (s s' : ListScreen Watched) : Prop :=
  (List.Forall₂ Reads documents s'.list ∧ s'.tables = s.tables ++ [⟨none⟩]) ∨
    (s'.list = s.list ∧ s'.tables = s.tables)

/-- The documents tell the films. -/
lemma forall₂_reads_unique {documents films films'} (h : List.Forall₂ Reads documents films)
    (h' : List.Forall₂ Reads documents films') : films = films' := by
  induction h generalizing films' with
  | nil =>
    cases h' with
    | nil => rfl
  | cons read _ ih =>
    cases h' with
    | cons read' rest =>
      rw [read.unique read', ih rest]

/-- What a callback of the watched list does to the screen. -/
lemma callback_watched {s : ListScreen Watched} {documents : List DocumentSnapshot}
    (wt : ∀ d ∈ documents, WellTyped d) :
    ∃ films, List.Forall₂ Reads (documents.takeWhile Dated) films ∧
      watchedController.callback s (.ok documents) =
        if documents.all Dated then ({ s with list := films } : ListScreen Watched).addTable
        else { s with list := films } := by
  obtain ⟨films, callback, rel, e, filled⟩ := appendWatched_spec wt []
  refine ⟨films, rel, ?_⟩
  have e' : watchedController.listener documents = .ok ⟨films, documents.all Dated⟩ := by
    change (watchedListener documents).map _ = _
    rw [watchedListener, e]
    exact congrArg Except.ok filled
  simp only [ListController.callback, e']

/-- A callback of the watched list is all or nothing exactly when every document has a date, or the
    films before the first document without one are the current list. -/
theorem callback_atomic_iff {s : ListScreen Watched} {documents : List DocumentSnapshot}
    (wt : ∀ d ∈ documents, WellTyped d) :
    AllOrNothing documents s (watchedController.callback s (.ok documents)) ↔
      (∀ d ∈ documents, Dated d = true) ∨
        List.Forall₂ Reads (documents.takeWhile Dated) s.list := by
  obtain ⟨films, rel, e⟩ := callback_watched (s := s) wt
  rw [e, ← List.all_eq_true]
  cases all : documents.all Dated with
  | true =>
    rw [takeWhile_of_all all] at rel
    exact ⟨fun _ => .inl rfl, fun _ => .inl ⟨rel, rfl⟩⟩
  | false =>
    constructor
    · rintro (⟨_, tables⟩ | ⟨list, _⟩)
      · simp at tables
      · refine .inr ?_
        rw [← list]
        exact rel
    · rintro (no | rel')
      · cases no
      · exact .inr ⟨forall₂_reads_unique rel rel', rfl⟩

/-- A snapshot whose only document has no date empties the list under the table of the old one. -/
theorem callback_notAtomic :
    ∃ (s : ListScreen Watched) (documents : List DocumentSnapshot),
      (∀ d ∈ documents, WellTyped d) ∧
        ¬ AllOrNothing documents s (watchedController.callback s (.ok documents)) := by
  let film : Watched := ⟨"Up", true, 0, 7, "A"⟩
  let d : DocumentSnapshot :=
    ⟨"B", [("title", .string "Big"), ("rating", .double 5), ("hasLiked", .boolean false),
      ("id", .string "B")]⟩
  refine ⟨⟨[film], [⟨some 1⟩], [], none⟩, [d], ?_, ?_⟩
  · intro d' mem
    rw [List.mem_singleton.1 mem]
    exact ⟨⟨_, rfl⟩, ⟨_, rfl⟩, ⟨_, rfl⟩, ⟨_, rfl⟩⟩
  · rintro (⟨_, tables⟩ | ⟨list, _⟩)
    · cases tables
    · cases list

/-- A document without a date after one that is the current list. -/
theorem callback_atomic_iff_afterTheList :
    ∃ (s : ListScreen Watched) (documents : List DocumentSnapshot),
      (∀ d ∈ documents, WellTyped d) ∧ s.list.length = 1 ∧ documents.length = 2 ∧
        AllOrNothing documents s (watchedController.callback s (.ok documents)) := by
  let film : Watched := ⟨"Up", true, 0, 7, "A"⟩
  let d1 : DocumentSnapshot :=
    ⟨"A", [("title", .string "Up"), ("rating", .double 7), ("hasLiked", .boolean true),
      ("date", .timestamp 0), ("id", .string "A")]⟩
  let d2 : DocumentSnapshot :=
    ⟨"B", [("title", .string "Big"), ("rating", .double 5), ("hasLiked", .boolean false),
      ("id", .string "B")]⟩
  have wt : ∀ d ∈ [d1, d2], WellTyped d := by
    intro d mem
    rcases List.mem_cons.1 mem with e | mem
    · rw [e]
      exact ⟨⟨_, rfl⟩, ⟨_, rfl⟩, ⟨_, rfl⟩, ⟨_, rfl⟩⟩
    · rw [List.mem_singleton.1 mem]
      exact ⟨⟨_, rfl⟩, ⟨_, rfl⟩, ⟨_, rfl⟩, ⟨_, rfl⟩⟩
  refine ⟨⟨[film], [⟨some 1⟩], [], none⟩, [d1, d2], wt, rfl, rfl, (callback_atomic_iff wt).2 ?_⟩
  exact .inr (.cons ⟨0, rfl, rfl⟩ .nil)

end Lumiere

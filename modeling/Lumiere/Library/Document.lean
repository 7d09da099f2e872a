import Lumiere.Controllers.Inversion

/-!
# Documents of the watched list

`WatchedDocument` is what the readers of the watched list rely on: a document that carries its own
ID, a title that is not blank, a rating in tenths between 0 and 10, a Boolean and a timestamp. The
dictionary of a film form with a valid title is one (`watchedDocument_fields`), and on such
documents the listener neither leaves its loop nor traps (`watchedListener_rebuilt`).
-/

namespace Lumiere
open Firestore

/-- A document as the film forms write it. -/
structure WatchedDocument (documentID : String) (data : Fields) : Prop where
  segment : Segment documentID
  id : data.get "id" = some (.string documentID)
  title : ∃ title, data.get "title" = some (.string title) ∧ trimmingCharacters title ≠ ""
  rating : ∃ k : ℤ, 0 ≤ k ∧ k ≤ 100 ∧ data.get "rating" = some (.double (k / 10))
  hasLiked : ∃ b, data.get "hasLiked" = some (.boolean b)
  date : ∃ t, data.get "date" = some (.timestamp t)

/-- The document holds the film. -/
structure Shows (film : Watched) (data : Fields) : Prop where
  title : data.get "title" = some (.string film.title)
  hasLiked : data.get "hasLiked" = some (.boolean film.hasLiked)
  date : data.get "date" = some (.timestamp film.date)
  rating : data.get "rating" = some (.double film.rating)
  id : data.get "id" = some (.string film.id)

/-! ## Writing -/

/-- A slider stands at a number of tenths between 0 and 100. -/
lemma tenth_slider (s : Slider) : ∃ k : ℤ, 0 ≤ k ∧ k ≤ 100 ∧ tenth s.value = k / 10 := by
  have lo : (0 : ℚ) ≤ s.value * 10 := by linarith [s.minimumValue]
  have hi : s.value * 10 ≤ (100 : ℤ) := by push_cast; linarith [s.maximumValue]
  refine ⟨round (s.value * 10), ?_, ?_, rfl⟩
  · have mono := round_mono (x := (0 : ℤ)) (by simp) (by exact_mod_cast lo)
    rwa [round_intCast] at mono
  · have mono := round_mono lo hi
    rwa [round_intCast] at mono

/-- The dictionary of a form with a valid title is a document of the watched list. -/
lemma watchedDocument_fields {c : WatchedForm} {id} (valid : validateTitle c.titleTextField = none)
    (seg : Segment id) : WatchedDocument id (c.fields id) where
  segment := seg
  id := rfl
  title := ⟨c.titleTextField, rfl, validateTitle_eq_none.1 valid⟩
  rating := by
    obtain ⟨k, lo, hi, e⟩ := tenth_slider c.ratingSlider
    refine ⟨k, lo, hi, ?_⟩
    rw [← e]
    rfl
  hasLiked := ⟨c.likedMovie, rfl⟩
  date := ⟨c.dateWatchedPicker.date, rfl⟩

/-! ## Reading -/

/-- A document of the watched list is decoded to the film it holds. -/
lemma WatchedDocument.decode {document : DocumentSnapshot}
    (wd : WatchedDocument document.documentID document.data) :
    ∃ stamp film, document.get "date" = some (.timestamp stamp) ∧
      decodeWatched document stamp = .ok film ∧ film.id = document.documentID ∧
      Shows film document.data := by
  obtain ⟨title, etitle, _⟩ := wd.title
  obtain ⟨k, _, _, erating⟩ := wd.rating
  obtain ⟨hasLiked, eliked⟩ := wd.hasLiked
  obtain ⟨stamp, edate⟩ := wd.date
  refine ⟨stamp, ⟨title, hasLiked, stamp, k / 10, document.documentID⟩, edate, ?_, rfl,
    ⟨etitle, eliked, edate, erating, wd.id⟩⟩
  simp only [decodeWatched, DocumentSnapshot.get, etitle, eliked, erating, wd.id]
  rfl

/-- Such documents rebuild the list, film by film. -/
lemma appendWatched_rebuilt {documents : List DocumentSnapshot}
    (all : ∀ d ∈ documents, WatchedDocument d.documentID d.data) (watchedList : List Watched) :
    ∃ films, appendWatched watchedList documents = .ok (.rebuilt (watchedList ++ films)) ∧
      List.Forall₂ (fun film d => film.id = d.documentID ∧ Shows film d.data) films documents := by
  induction documents generalizing watchedList with
  | nil => exact ⟨[], by rw [List.append_nil]; rfl, .nil⟩
  | cons document documents ih =>
    obtain ⟨stamp, film, edate, efilm, eid, shows⟩ := (all document List.mem_cons_self).decode
    obtain ⟨films, e, rel⟩ :=
      ih (fun d mem => all d (List.mem_cons_of_mem _ mem)) (watchedList ++ [film])
    refine ⟨film :: films, ?_, .cons ⟨eid, shows⟩ rel⟩
    rw [appendWatched, edate]
    simp only [efilm]
    rw [e, List.append_assoc, List.singleton_append]

/-- On documents of the watched list the listener's guard and casts succeed, and the list it
    builds holds one film for each document, in the order of the snapshot. -/
lemma watchedListener_rebuilt {documents : List DocumentSnapshot}
    (all : ∀ d ∈ documents, WatchedDocument d.documentID d.data) :
    ∃ films, watchedListener documents = .ok (.rebuilt films) ∧
      List.Forall₂ (fun film d => film.id = d.documentID ∧ Shows film d.data) films documents :=
  appendWatched_rebuilt all []

/-- An element on the left has one on the right. -/
lemma exists_of_forall₂ {α β : Type*} {r : α → β → Prop} {as : List α} {bs : List β}
    (rel : List.Forall₂ r as bs) {a : α} (mem : a ∈ as) : ∃ b ∈ bs, r a b := by
  induction rel with
  | nil => cases mem
  | cons h _ ih =>
    rcases List.mem_cons.1 mem with e | mem
    · subst e
      exact ⟨_, List.mem_cons_self, h⟩
    · obtain ⟨b, mem', h'⟩ := ih mem
      exact ⟨b, List.mem_cons_of_mem _ mem', h'⟩

/-- A film that the listener puts into the list is the one of a document. -/
lemma watchedListener_mem {documents : List DocumentSnapshot} {callback film}
    (all : ∀ d ∈ documents, WatchedDocument d.documentID d.data)
    (e : watchedListener documents = .ok callback) (mem : film ∈ callback.watchedList) :
    ∃ d ∈ documents, film.id = d.documentID ∧ Shows film d.data := by
  obtain ⟨films, e', rel⟩ := watchedListener_rebuilt all
  rw [e] at e'
  cases e'
  exact exists_of_forall₂ rel mem

end Lumiere

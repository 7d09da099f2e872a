import Lumiere.Base.History
import Lumiere.Controllers.Tabs

/-!
# One device signed in to an account

An `Account` is a signed-in user whose email is a document path: with any other email the Watched
screen raises in `viewDidLoad`, before it has a list. A `Device` is the app's process on one device:
its list screens, the trap that has stopped it and every write its handlers have made. A write is
`Sent` with the screens and the touch it came from; `Made` says what the handler of a sent write
was, and `Device.react_inv` that every write a device sends is made so.
-/

namespace Lumiere
open Firestore

/-- A signed-in user with the document that belongs to the email. -/
structure Account where
  email : String
  user : DocumentReference
  document : userDocument (some email) = .ok user

namespace Account

/-- The account of an ordinary address. -/
def plain : Account where
  email := "a@b.c"
  user := ⟨["users", "a@b.c"], rfl⟩
  document := by decide

/-- The watched films of the account. -/
def watchedList (a : Account) : CollectionReference where
  path := a.user.path ++ ["watchedList"]
  odd := by
    have := a.user.even
    simp only [List.length_append, List.length_singleton]
    omega

/-- The wishes of the account. -/
def wishlist (a : Account) : CollectionReference where
  path := a.user.path ++ ["wishlist"]
  odd := by
    have := a.user.even
    simp only [List.length_append, List.length_singleton]
    omega

/-- The document of the signed-in user is that of the account. -/
lemma userDocument_eq {a : Account} {d} (e : userDocument (some a.email) = .ok d) : d = a.user := by
  rw [a.document] at e
  cases e
  rfl

/-- The collections the list screens build from the email are those of the account. -/
lemma userCollection_watchedList (a : Account) :
    userCollection (some a.email) "watchedList" = .ok a.watchedList := by
  obtain ⟨c, ec, path⟩ := userCollection_ok a.document segment_watchedList
  rw [ec]
  obtain ⟨p, odd⟩ := c
  cases path
  rfl

/-- So is the wishlist. -/
lemma userCollection_wishlist (a : Account) :
    userCollection (some a.email) "wishlist" = .ok a.wishlist := by
  obtain ⟨c, ec, path⟩ := userCollection_ok a.document segment_wishlist
  rw [ec]
  obtain ⟨p, odd⟩ := c
  cases path
  rfl

/-- A document of one list is not a document of the other, nor below one. -/
lemma watchedList_ne_wishlist {a : Account} {l m : List String} :
    a.watchedList.path ++ l ≠ a.wishlist.path ++ m := by
  intro e
  simp [watchedList, wishlist] at e

end Account

/-- A write on its way to the store, with the screens and the touch that made it. -/
structure Sent where
  tabs : Tabs
  touch : Touch
  write : Write

/-- A device with the screens of one account. -/
structure Device where
  tabs : Tabs
  trap : Option Trap
  /-- Every write the device has made, the first one first. -/
  sent : List Sent
  /-- How many of them have reached the store. -/
  reached : Nat

/-- The ID that `document()` returns in the handler of a touch. -/
def Touch.docID : Touch → Option String
  | .addWatchedButtonTapped letters _ => some (createAutoId letters)
  | .addWishButtonTapped letters => some (createAutoId letters)
  | _ => none

/-- The screens change, and a write is on its way. -/
def Device.react (dev : Device) (k : Touch) (r : Reaction) : Device where
  tabs := r.tabs
  trap := dev.trap
  sent := dev.sent ++ r.write.toList.map fun w => ⟨dev.tabs, k, w⟩
  reached := dev.reached

/-- What the handler of a sent write was. -/
inductive Made (a : Account) : Sent → Prop where
  | deleteWatched {t row film sub} :
    film ∈ t.watchedList →
    ResourcePath.fromStringView film.id = .ok sub →
    Made a ⟨t, .deleteWatched row, .delete (a.watchedList.path ++ sub)⟩
  | deleteWish {t row wish sub} :
    wish ∈ t.wishlist →
    ResourcePath.fromStringView wish.id = .ok sub →
    Made a ⟨t, .deleteWish row, .delete (a.wishlist.path ++ sub)⟩
  | addWatched {t c letters now} :
    t.form = some (.addWatched c) →
    validateTitle c.titleTextField = none →
    Made a ⟨t, .addWatchedButtonTapped letters now,
      .setData (a.watchedList.path ++ [createAutoId letters]) (c.fields (createAutoId letters))⟩
  | editWatched {t c sub} :
    t.form = some (.editWatched c) →
    validateTitle c.titleTextField = none →
    ResourcePath.fromStringView t.selected.id = .ok sub →
    Made a ⟨t, .editWatchedButtonTapped,
      .setData (a.watchedList.path ++ sub) (c.fields t.selected.id)⟩
  | addWish {t title letters} :
    t.form = some (.addWish title) →
    validateTitle title = none →
    Made a ⟨t, .addWishButtonTapped letters,
      .setData (a.wishlist.path ++ [createAutoId letters])
        [("title", .string title), ("id", .string (createAutoId letters))]⟩

/-- A touch that writes has been made by one of the five handlers. -/
lemma Touched.made {a : Account} {t k r w} (tc : Touched (some a.email) t k r)
    (wr : r.write = some w) : Made a ⟨t, k, w⟩ := by
  cases tc with
  | deleteWatched form row e =>
    cases wr
    obtain ⟨d, sub, ed, es, rfl⟩ := deleteWatched_inv e
    rw [a.userDocument_eq ed, ← List.singleton_append, ← List.append_assoc]
    exact .deleteWatched (List.mem_of_getElem? row) es
  | deleteWish form row e =>
    cases wr
    obtain ⟨d, sub, ed, es, rfl⟩ := deleteWish_inv e
    rw [a.userDocument_eq ed, ← List.singleton_append, ← List.append_assoc]
    exact .deleteWish (List.mem_of_getElem? row) es
  | addWatched form e =>
    cases wr
    obtain ⟨valid, d, ed, rfl⟩ := addWatchedButtonTapped_inv e
    rw [a.userDocument_eq ed, ← List.singleton_append, ← List.append_assoc]
    exact .addWatched form valid
  | editWatched form e =>
    cases wr
    obtain ⟨valid, d, sub, ed, es, rfl⟩ := editWatchedButtonTapped_inv e
    rw [a.userDocument_eq ed, ← List.singleton_append, ← List.append_assoc]
    exact .editWatched form valid es
  | addWish form e =>
    cases wr
    obtain ⟨valid, d, ed, rfl⟩ := addWishButtonTapped_inv e
    rw [a.userDocument_eq ed, ← List.singleton_append, ← List.append_assoc]
    exact .addWish form valid
  | _ => cases wr

/-- A form with a valid title is dismissed after one write. -/
lemma Submitted.touch {a : Account} {t : Tabs} {k} (sub : Submitted t k)
    (film : ∀ c, t.form = some (.editWatched c) → Segment t.selected.id) :
    ∃ selected p data, t.touch (some a.email) k =
      some (.ok (.writing { t with selected := selected, form := none } (.setData p data))) := by
  cases sub with
  | @addWatched c letters now form valid =>
    obtain ⟨d, er, _⟩ :=
      userDocumentIn_segment a.userCollection_watchedList (segment_createAutoId letters)
    refine ⟨Watched.init now, d.path, c.fields (createAutoId letters), ?_⟩
    rw [Tabs.touch.eq_def, form]
    simp only [addWatchedButtonTapped, press_valid valid er]
    rfl
  | @editWatched c form valid =>
    obtain ⟨d, er, _⟩ := userDocumentIn_segment a.userCollection_watchedList (film c form)
    refine ⟨t.selected, d.path, c.fields t.selected.id, ?_⟩
    rw [Tabs.touch.eq_def, form]
    simp only [editWatchedButtonTapped, press_valid valid er]
    rfl
  | @addWish title letters form valid =>
    obtain ⟨d, er, _⟩ :=
      userDocumentIn_segment a.userCollection_wishlist (segment_createAutoId letters)
    refine ⟨t.selected, d.path,
      [("title", .string title), ("id", .string (createAutoId letters))], ?_⟩
    rw [Tabs.touch.eq_def, form]
    simp only [addWishButtonTapped, press_valid valid er]
    rfl

/-- What a device has sent after a touch it had sent before, or the touch has made it now. -/
lemma Device.mem_react {a : Account} {dev : Device} {k r x}
    (tc : Touched (some a.email) dev.tabs k r) (mem : x ∈ (dev.react k r).sent) :
    x ∈ dev.sent ∨ x.tabs = dev.tabs ∧ x.touch = k ∧ r.write = some x.write ∧ Made a x := by
  rcases List.mem_append.1 mem with mem | mem
  · exact .inl mem
  · obtain ⟨w, mem, rfl⟩ := List.mem_map.1 mem
    have wr : r.write = some w := by simpa using mem
    exact .inr ⟨rfl, rfl, wr, tc.made wr⟩

end Lumiere

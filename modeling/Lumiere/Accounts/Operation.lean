import Lumiere.Controllers.Profile

/-!
# The operations of a signed-in user

What a signed-in user does to the store from the tab screens: the commits and deletions of the two
lists and the saving of a profile photo. `Operation.write` runs the handler; every write it makes
stands at or below the user's own document (`Operation.write_below`). `shown` is what the screens of
a user read or listen to: the user document and the two lists.
-/

namespace Lumiere
open Firestore

/-- What the screens do for a user. -/
inductive Operation where
  | addWatched (form : WatchedForm) (letters : Letters)
  | editWatched (selected : Watched) (form : WatchedForm)
  | deleteWatched (id : String)
  | addWish (titleTextField : String) (letters : Letters)
  | deleteWish (id : String)
  | saveProfilePhoto (absoluteString : String)

/-- The write of a pressed form, if it was not refused. -/
def Pressed.write : Pressed → Option Write
  | .alert _ => none
  | .dismiss w => some w

/-- The write that the handler of an operation makes. -/
def Operation.write (currentUser : Option String) : Operation → Except Trap (Option Write)
  | .addWatched form letters =>
    (addWatchedButtonTapped currentUser form letters).map Pressed.write
  | .editWatched selected form =>
    (editWatchedButtonTapped currentUser selected form).map Pressed.write
  | .deleteWatched id => (Lumiere.deleteWatched currentUser id).map some
  | .addWish title letters => (addWishButtonTapped currentUser title letters).map Pressed.write
  | .deleteWish id => (Lumiere.deleteWish currentUser id).map some
  | .saveProfilePhoto url => (Lumiere.saveProfilePhoto currentUser url).map some

/-- The store after an operation: a handler that traps or refuses writes nothing. -/
def Operation.perform (currentUser : Option String) (s : Store) (op : Operation) : Store :=
  match op.write currentUser with
  | .ok (some w) => w.apply s
  | _ => s

/-- The store after a sequence of operations of one user. -/
def performAll (currentUser : Option String) (s : Store) (ops : List Operation) : Store :=
  ops.foldl (Operation.perform currentUser) s

/-- What the screens of a user read: the fields of the user document and the snapshots of the
    two lists. -/
def shown (currentUser : Option String) (s : Store) :
    Except Trap (Option Fields × List DocumentSnapshot × List DocumentSnapshot) := do
  let user ← userDocument currentUser
  let watchedList ← userCollection currentUser "watchedList"
  let wishlist ← userCollection currentUser "wishlist"
  return (s.lookup user.path, (watchedQuery watchedList).run s, (wishlistQuery wishlist).run s)

/-- A write is made only when the form is dismissed. -/
lemma map_write_inv {x : Except Trap Pressed} {w} (e : x.map Pressed.write = .ok (some w)) :
    x = .ok (.dismiss w) := by
  obtain ⟨p, ep, ew⟩ := except_map_inv e
  cases p with
  | alert msg => cases ew
  | dismiss w' => cases ew; exact ep

/-- Every write of an operation stands at or below the document of its user. -/
lemma Operation.write_below {user op w} (e : Operation.write user op = .ok (some w)) :
    ∃ d, userDocument user = .ok d ∧ d.path <+: w.path := by
  cases op with
  | addWatched form letters =>
    obtain ⟨_, d, ed, rfl⟩ := addWatchedButtonTapped_inv (map_write_inv e)
    exact ⟨d, ed, List.prefix_append _ _⟩
  | editWatched selected form =>
    obtain ⟨_, d, sub, ed, _, rfl⟩ := editWatchedButtonTapped_inv (map_write_inv e)
    exact ⟨d, ed, List.prefix_append _ _⟩
  | deleteWatched id =>
    obtain ⟨w', ew, ew'⟩ := except_map_inv e
    cases ew'
    obtain ⟨d, sub, ed, _, rfl⟩ := deleteWatched_inv ew
    exact ⟨d, ed, List.prefix_append _ _⟩
  | addWish title letters =>
    obtain ⟨_, d, ed, rfl⟩ := addWishButtonTapped_inv (map_write_inv e)
    exact ⟨d, ed, List.prefix_append _ _⟩
  | deleteWish id =>
    obtain ⟨w', ew, ew'⟩ := except_map_inv e
    cases ew'
    obtain ⟨d, sub, ed, _, rfl⟩ := deleteWish_inv ew
    exact ⟨d, ed, List.prefix_append _ _⟩
  | saveProfilePhoto url =>
    obtain ⟨w', ew, ew'⟩ := except_map_inv e
    cases ew'
    obtain ⟨d, ed, rfl⟩ := saveProfilePhoto_inv ew
    exact ⟨d, ed, List.prefix_refl _⟩

/-- The screens of a user with a usable path show the user document and the two collections. -/
lemma shown_eq {user d} (e : userDocument user = .ok d) :
    ∃ watchedList wishlist : CollectionReference,
      watchedList.path = d.path ++ ["watchedList"] ∧ wishlist.path = d.path ++ ["wishlist"] ∧
      ∀ s, shown user s =
        .ok (s.lookup d.path, (watchedQuery watchedList).run s, (wishlistQuery wishlist).run s) := by
  obtain ⟨c1, e1, path1⟩ := userCollection_ok e segment_watchedList
  obtain ⟨c2, e2, path2⟩ := userCollection_ok e segment_wishlist
  refine ⟨c1, c2, path1, path2, fun s => ?_⟩
  rw [shown, e, e1, e2]
  rfl

/-- An operation of a user changes nothing that the screens of a user apart from them show. -/
lemma shown_perform {user1 user2 d1 d2} (e1 : userDocument user1 = .ok d1)
    (e2 : userDocument user2 = .ok d2) (ap : DocumentStore.Apart d1.path d2.path)
    (s : Store) (op : Operation) :
    shown user2 (op.perform user1 s) = shown user2 s := by
  rw [Operation.perform]
  split
  case h_2 => rfl
  case h_1 w e =>
    obtain ⟨d, ed, below⟩ := Operation.write_below e
    rw [e1] at ed
    cases ed
    obtain ⟨c1, c2, path1, path2, eq⟩ := shown_eq e2
    have le1 : d2.path <+: c1.path := path1 ▸ List.prefix_append _ _
    have le2 : d2.path <+: c2.path := path2 ▸ List.prefix_append _ _
    have doc := DocumentStore.lookup_apply_apart (s := s) ap below (List.prefix_refl d2.path)
    have watched : (watchedQuery c1).run (w.apply s) = (watchedQuery c1).run s :=
      Query.run_congr (DocumentStore.children_apply_apart ap below le1)
    have wishes : (wishlistQuery c2).run (w.apply s) = (wishlistQuery c2).run s :=
      Query.run_congr (DocumentStore.children_apply_apart ap below le2)
    rw [eq, eq, doc, watched, wishes]

end Lumiere

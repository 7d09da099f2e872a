import Lumiere.Controllers.Film

/-!
# Inversion of the handlers

What follows when a handler of the list screens succeeds: which path a reference has
(`userDocumentIn_inv`), which write a commit makes and that its title is not blank
(`addWatchedButtonTapped_inv` and its siblings), which write a deletion makes, and what a decoded
film holds. The other modules cite these and never unfold a handler.
-/

namespace Lumiere
open Firestore

/-- A successful bind, taken apart. -/
lemma except_bind_inv {ε α β : Type*} {x : Except ε α} {f : α → Except ε β} {b : β}
    (e : x.bind f = .ok b) : ∃ a, x = .ok a ∧ f a = .ok b := by
  cases x with
  | error err => cases e
  | ok a => exact ⟨a, rfl, e⟩

/-- A successful map, taken apart. -/
lemma except_map_inv {ε α β : Type*} {x : Except ε α} {f : α → β} {b : β}
    (e : x.map f = .ok b) : ∃ a, x = .ok a ∧ f a = b := by
  cases x with
  | error err => cases e
  | ok a => cases e; exact ⟨a, rfl, rfl⟩

/-- What has not raised is a value. -/
lemma raising_inv {α : Type*} {x : Except String α} {a : α} (e : raising x = .ok a) :
    x = .ok a := by
  cases x with
  | error err => cases e
  | ok a' => cases e; rfl

/-! ## Paths -/

/-- A collection of the user stands one segment below the user document. -/
lemma userCollection_ok {user name d} (e : userDocument user = .ok d) (seg : Segment name) :
    ∃ c, userCollection user name = .ok c ∧ c.path = d.path ++ [name] := by
  obtain ⟨c, ec, path⟩ := d.collection_segment seg
  refine ⟨c, ?_, path⟩
  rw [userCollection, e]
  change raising (d.collection name) = _
  rw [ec]
  rfl

/-- A collection of the user that can be built stands below the user document. -/
lemma userCollection_inv {user name c} (e : userCollection user name = .ok c)
    (seg : Segment name) :
    ∃ d, userDocument user = .ok d ∧ c.path = d.path ++ [name] := by
  obtain ⟨d, ed, _⟩ := except_bind_inv e
  obtain ⟨c', ec, path⟩ := userCollection_ok ed seg
  rw [e] at ec
  cases ec
  exact ⟨d, ed, path⟩

/-- Whatever the ID is, the document stands below the user's collection. -/
lemma userDocumentIn_inv {user name id r} (e : userDocumentIn user name id = .ok r)
    (seg : Segment name) :
    ∃ d sub, userDocument user = .ok d ∧ r.path = d.path ++ name :: sub ∧
      ResourcePath.fromStringView id = .ok sub := by
  obtain ⟨c, ec, er⟩ := except_bind_inv e
  obtain ⟨d, ed, pathC⟩ := userCollection_inv ec seg
  obtain ⟨sub, es, pathR⟩ := CollectionReference.document_inv (raising_inv er)
  refine ⟨d, sub, ed, ?_, es⟩
  rw [pathR, pathC]
  simp

/-- Under a segment as its ID the document of a collection can always be built. -/
lemma userDocumentIn_segment {user name c id} (ec : userCollection user name = .ok c)
    (seg : Segment id) :
    ∃ d, userDocumentIn user name id = .ok d ∧ d.path = c.path ++ [id] := by
  obtain ⟨d, ed, path⟩ := c.document_segment seg
  refine ⟨d, ?_, path⟩
  rw [userDocumentIn, ec]
  change raising (c.document id) = _
  rw [ed]
  rfl

/-- The name of the watched list is a path segment. -/
lemma segment_watchedList : Segment "watchedList" := by decide

/-- The name of the wishlist is a path segment. -/
lemma segment_wishlist : Segment "wishlist" := by decide

/-! ## Commits -/

/-- A title is valid when something is left of it after trimming. -/
lemma validateTitle_eq_none {title} : validateTitle title = none ↔ trimmingCharacters title ≠ "" := by
  rw [validateTitle]
  split
  case isTrue e => simp [e]
  case isFalse ne => simp [ne]

/-- A form is dismissed after one write, and only when its title is not blank. -/
lemma press_dismiss_inv {title ref data w} (e : press title ref data = .ok (.dismiss w)) :
    validateTitle title = none ∧ ∃ d, ref = .ok d ∧ w = d.setData data := by
  rw [press] at e
  split at e
  case h_1 => cases e
  case h_2 valid =>
    obtain ⟨d, ed, ew⟩ := except_map_inv e
    cases ew
    exact ⟨valid, d, ed, rfl⟩

/-- A form with a valid title is dismissed after its write. -/
lemma press_valid {title ref data d} (valid : validateTitle title = none) (e : ref = .ok d) :
    press title ref data = .ok (.dismiss (d.setData data)) := by
  rw [press, valid, e]
  rfl

/-- A form is refused only when its title is blank. -/
lemma press_alert_inv {title ref data message} (e : press title ref data = .ok (.alert message)) :
    validateTitle title ≠ none := by
  intro valid
  rw [press, valid] at e
  obtain ⟨d, _, ew⟩ := except_map_inv e
  cases ew

/-- The commit of Add Watched writes the document of the new ID. -/
lemma addWatchedButtonTapped_inv {user c letters w}
    (e : addWatchedButtonTapped user c letters = .ok (.dismiss w)) :
    validateTitle c.titleTextField = none ∧ ∃ d, userDocument user = .ok d ∧
      w = .setData (d.path ++ ["watchedList", createAutoId letters])
        (c.fields (createAutoId letters)) := by
  obtain ⟨valid, r, er, rfl⟩ := press_dismiss_inv e
  obtain ⟨d, sub, ed, path, es⟩ := userDocumentIn_inv er segment_watchedList
  rw [(segment_createAutoId letters).fromStringView] at es
  cases es
  refine ⟨valid, d, ed, ?_⟩
  rw [DocumentReference.setData, path]

/-- The commit of Edit Watched writes the document of the selected film. -/
lemma editWatchedButtonTapped_inv {user selected c w}
    (e : editWatchedButtonTapped user selected c = .ok (.dismiss w)) :
    validateTitle c.titleTextField = none ∧ ∃ d sub, userDocument user = .ok d ∧
      ResourcePath.fromStringView selected.id = .ok sub ∧
      w = .setData (d.path ++ "watchedList" :: sub) (c.fields selected.id) := by
  obtain ⟨valid, r, er, rfl⟩ := press_dismiss_inv e
  obtain ⟨d, sub, ed, path, es⟩ := userDocumentIn_inv er segment_watchedList
  refine ⟨valid, d, sub, ed, es, ?_⟩
  rw [DocumentReference.setData, path]

/-- The commit of Add Wish writes the document of the new ID. -/
lemma addWishButtonTapped_inv {user title letters w}
    (e : addWishButtonTapped user title letters = .ok (.dismiss w)) :
    validateTitle title = none ∧ ∃ d, userDocument user = .ok d ∧
      w = .setData (d.path ++ ["wishlist", createAutoId letters])
        [("title", .string title), ("id", .string (createAutoId letters))] := by
  obtain ⟨valid, r, er, rfl⟩ := press_dismiss_inv e
  obtain ⟨d, sub, ed, path, es⟩ := userDocumentIn_inv er segment_wishlist
  rw [(segment_createAutoId letters).fromStringView] at es
  cases es
  refine ⟨valid, d, ed, ?_⟩
  rw [DocumentReference.setData, path]

/-! ## Deletions -/

/-- The deletion of a film deletes the document its ID leads to. -/
lemma deleteWatched_inv {user id w} (e : deleteWatched user id = .ok w) :
    ∃ d sub, userDocument user = .ok d ∧ ResourcePath.fromStringView id = .ok sub ∧
      w = .delete (d.path ++ "watchedList" :: sub) := by
  obtain ⟨r, er, rfl⟩ := except_map_inv e
  obtain ⟨d, sub, ed, path, es⟩ := userDocumentIn_inv er segment_watchedList
  refine ⟨d, sub, ed, es, ?_⟩
  rw [DocumentReference.delete, path]

/-- The deletion of a wish deletes the document its ID leads to. -/
lemma deleteWish_inv {user id w} (e : deleteWish user id = .ok w) :
    ∃ d sub, userDocument user = .ok d ∧ ResourcePath.fromStringView id = .ok sub ∧
      w = .delete (d.path ++ "wishlist" :: sub) := by
  obtain ⟨r, er, rfl⟩ := except_map_inv e
  obtain ⟨d, sub, ed, path, es⟩ := userDocumentIn_inv er segment_wishlist
  refine ⟨d, sub, ed, es, ?_⟩
  rw [DocumentReference.delete, path]

/-! ## Traps -/

/-- A bind that fails, taken apart. -/
lemma except_bind_error {ε α β : Type*} {x : Except ε α} {f : α → Except ε β} {err : ε}
    (e : x.bind f = .error err) : x = .error err ∨ ∃ a, x = .ok a ∧ f a = .error err := by
  cases x with
  | error err' => cases e; exact .inl rfl
  | ok a => exact .inr ⟨a, rfl, e⟩

/-- A map that fails, taken apart. -/
lemma except_map_error {ε α β : Type*} {x : Except ε α} {f : α → β} {err : ε}
    (e : x.map f = .error err) : x = .error err := by
  cases x with
  | error err' => cases e; rfl
  | ok a => cases e

/-- The client raises an exception, no other trap. -/
lemma raising_error {α : Type*} {x : Except String α} {trap} (e : raising x = .error trap) :
    ∃ reason, trap = .exception reason := by
  cases x with
  | error reason => cases e; exact ⟨reason, rfl⟩
  | ok a => cases e

/-- Why a path of the user cannot be built: nobody is signed in, or the client raises. -/
def PathTrap (user : Option String) (trap : Trap) : Prop :=
  user = none ∧ trap = .unexpectedlyFoundNil ∨ ∃ reason, trap = .exception reason

/-- Why the user document cannot be built. -/
lemma userDocument_error {user trap} (e : userDocument user = .error trap) : PathTrap user trap := by
  cases user with
  | none => cases e; exact .inl ⟨rfl, rfl⟩
  | some email => exact .inr (raising_error e)

/-- Why a collection of the user cannot be built. -/
lemma userCollection_error {user name trap} (e : userCollection user name = .error trap) :
    PathTrap user trap := by
  rcases except_bind_error e with e | ⟨d, _, e⟩
  · exact userDocument_error e
  · exact .inr (raising_error e)

/-- Why a document of the user cannot be built. -/
lemma userDocumentIn_error {user name id trap} (e : userDocumentIn user name id = .error trap) :
    PathTrap user trap := by
  rcases except_bind_error e with e | ⟨c, _, e⟩
  · exact userCollection_error e
  · exact .inr (raising_error e)

/-- A form traps only for its path, and only when its title is valid. -/
lemma press_error {title ref data trap} (e : press title ref data = .error trap) :
    validateTitle title = none ∧ ref = .error trap := by
  rw [press] at e
  split at e
  case h_1 => cases e
  case h_2 valid => exact ⟨valid, except_map_error e⟩

/-- `as! String` fails as a cast. -/
lemma castString_error {v trap} (e : castString v = .error trap) : trap = .couldNotCast := by
  rw [castString.eq_def] at e
  split at e <;> cases e
  rfl

/-- `as! Bool` fails as a cast. -/
lemma castBool_error {v trap} (e : castBool v = .error trap) : trap = .couldNotCast := by
  rw [castBool.eq_def] at e
  split at e
  case h_1 => cases e
  case h_2 =>
    split at e
    case isTrue => cases e
    case isFalse => split at e <;> cases e; rfl
  case h_3 => cases e; rfl

/-- `as! Float` fails as a cast. -/
lemma castFloat_error {v trap} (e : castFloat v = .error trap) : trap = .couldNotCast := by
  rw [castFloat.eq_def] at e
  split at e <;> cases e
  rfl

/-- A document that cannot be decoded has a field of another type. -/
lemma decodeWatched_error {document stamp trap} (e : decodeWatched document stamp = .error trap) :
    trap = .couldNotCast := by
  rcases except_bind_error e with e | ⟨title, _, e⟩
  · exact castString_error e
  rcases except_bind_error e with e | ⟨hasLiked, _, e⟩
  · exact castBool_error e
  rcases except_bind_error e with e | ⟨rating, _, e⟩
  · exact castFloat_error e
  rcases except_bind_error e with e | ⟨id, _, e⟩
  · exact castString_error e
  cases e

/-- The listener of the watched list traps only at a cast. -/
lemma watchedListener_error {documents trap} (e : watchedListener documents = .error trap) :
    trap = .couldNotCast := by
  rw [watchedListener] at e
  generalize [] = watchedList at e
  induction documents generalizing watchedList with
  | nil => cases e
  | cons document documents ih =>
    rw [appendWatched] at e
    split at e
    case h_2 => cases e
    case h_1 =>
      split at e
      case h_1 read => cases e; exact decodeWatched_error read
      case h_2 => exact ih _ e

/-- The listener of the wishlist traps only at a cast. -/
lemma wishlistListener_error {documents trap} (e : wishlistListener documents = .error trap) :
    trap = .couldNotCast := by
  rw [wishlistListener] at e
  induction documents generalizing trap with
  | nil => cases e
  | cons document documents ih =>
    rw [List.mapM_cons] at e
    rcases except_bind_error e with e | ⟨wish, _, e⟩
    · rcases except_bind_error e with e | ⟨title, _, e⟩
      · exact castString_error e
      rcases except_bind_error e with e | ⟨id, _, e⟩
      · exact castString_error e
      cases e
    · rcases except_bind_error e with e | ⟨wishes, _, e⟩
      · exact ih e
      · cases e

end Lumiere

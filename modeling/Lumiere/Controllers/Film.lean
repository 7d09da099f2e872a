import Lumiere.Firestore.Store

/-!
# Films, wishes and their documents

The cell objects `Watched` and `Wish`, the controls of the Add Watched, Edit Watched and Add Wish
forms, the dictionaries their commits write, and the two snapshot listeners that read the documents
back. A handler that needs the signed-in user evaluates `Auth.auth().currentUser?.email` with a
forced unwrap and builds the paths from it, so every one of them can trap; `press` is what the three
commits have in common: an alert when the title is blank, otherwise one write and the dismissal.

Naming: a definition has the name of the Swift function it translates; `viewDidLoad` of the two film
forms are `AddWatched.viewDidLoad` and `EditWatched.viewDidLoad`, and the closures passed to
`addSnapshotListener` are `watchedListener` and `wishlistListener`.
-/

namespace Lumiere
open Firestore

/-- A watched film. -/
structure Watched where
  title : String
  hasLiked : Bool
  date : Date
  rating : ℚ
  id : String
  deriving DecidableEq

/-- `Watched()`, made at `now`. -/
def Watched.init (now : Date) : Watched where
  title := ""
  hasLiked := false
  date := now
  rating := 0
  id := ""

/-- `Watched(title:)`, made at `now`. -/
def Watched.initTitle (title : String) (now : Date) : Watched where
  title := title
  hasLiked := false
  date := now
  rating := 0
  id := ""

/-- A film that the user wishes to watch. -/
structure Wish where
  title : String
  id : String
  deriving DecidableEq

/-! ## The film forms -/

/-- `round(x * 10) / 10`, as the source writes it wherever it shows or stores a rating. -/
def tenth (x : ℚ) : ℚ :=
  round (x * 10) / 10

/-- The controls of Add Watched and Edit Watched. The label holds the number it shows. -/
structure WatchedForm where
  titleTextField : String
  ratingSliderLabel : ℚ
  ratingSlider : Slider
  likedMovie : Bool
  dateWatchedPicker : DatePicker
  deriving DecidableEq

/-- The form of `AddWatchedViewController`: the title comes from `Utilities.selected`. -/
def AddWatched.viewDidLoad (selected : Watched) (now : Date) : WatchedForm where
  titleTextField := selected.title
  ratingSliderLabel := 0
  ratingSlider := Slider.setValue 0
  likedMovie := false
  dateWatchedPicker := DatePicker.make now

/-- The form of `EditWatchedViewController`: every control comes from `Utilities.selected`. -/
def EditWatched.viewDidLoad (selected : Watched) (now : Date) : WatchedForm where
  titleTextField := selected.title
  ratingSliderLabel := tenth selected.rating
  ratingSlider := Slider.setValue selected.rating
  likedMovie := selected.hasLiked
  dateWatchedPicker := (DatePicker.make now).setDate selected.date

/-- What the user does to the controls of a film form. -/
inductive Control where
  | typeTitle (text : String)
  | sliderChanged (value : ℚ)
  | likedMovieButtonTapped
  | pickDate (date : Date)

/-- What a control does to the form. -/
def WatchedForm.touch (c : WatchedForm) : Control → WatchedForm
  | .typeTitle text => { c with titleTextField := text }
  | .sliderChanged value =>
    { c with
      ratingSlider := Slider.setValue value
      ratingSliderLabel := tenth (Slider.setValue value).value }
  | .likedMovieButtonTapped => { c with likedMovie := !c.likedMovie }
  | .pickDate date => { c with dateWatchedPicker := c.dateWatchedPicker.setDate date }

/-- The message for a title that is empty but for white space. -/
def validateTitle (titleTextField : String) : Option String :=
  if trimmingCharacters titleTextField = "" then some "Title can't be left empty" else none

/-- The dictionary that Add Watched and Edit Watched pass to `setData`. -/
def WatchedForm.fields (c : WatchedForm) (id : String) : Fields :=
  [("title", .string c.titleTextField), ("rating", .double (tenth c.ratingSlider.value)),
    ("hasLiked", .boolean c.likedMovie), ("date", .timestamp c.dateWatchedPicker.date),
    ("id", .string id)]

/-- `Utilities.textColor` and `Utilities.highlightColor`. -/
inductive Color where
  | textColor
  | highlightColor
  deriving DecidableEq

/-- A cell of the watched list. The labels hold the number and the date they show. -/
structure WatchedTableViewCell where
  titleLabel : String
  ratingLabel : ℚ
  ratingLabelColor : Color
  dateLabel : Date
  deriving DecidableEq

/-- The cell of a watched film. -/
def WatchedTableViewCell.configure (watched : Watched) : WatchedTableViewCell where
  titleLabel := watched.title
  ratingLabel := tenth watched.rating
  ratingLabelColor := if watched.hasLiked then .textColor else .highlightColor
  dateLabel := watched.date

/-! ## Paths -/

/-- `Utilities.usersCollectionReference`. -/
def usersCollectionReference : CollectionReference :=
  ⟨["users"], rfl⟩

/-- An exception of the Firestore client brings the process down. -/
def raising {α : Type*} : Except String α → Except Trap α
  | .ok a => .ok a
  | .error reason => .error (.exception reason)

/-- `Utilities.usersCollectionReference.document((Auth.auth().currentUser?.email)!)`. -/
def userDocument : Option String → Except Trap DocumentReference
  | none => .error .unexpectedlyFoundNil
  | some email => raising (usersCollectionReference.document email)

/-- The collection `name` of the signed-in user. -/
def userCollection (currentUser : Option String) (name : String) :
    Except Trap CollectionReference :=
  (userDocument currentUser).bind fun user => raising (user.collection name)

/-- The document `id` in the collection `name` of the signed-in user. -/
def userDocumentIn (currentUser : Option String) (name id : String) :
    Except Trap DocumentReference :=
  (userCollection currentUser name).bind fun c => raising (c.document id)

/-! ## Commits and deletions -/

/-- What the right bar button of a form does. -/
inductive Pressed where
  | alert (message : String)
  | dismiss (write : Write)

/-- The common body of the three commits: a blank title is refused with an alert, otherwise the
    document is written and the form dismissed. -/
def press (titleTextField : String) (ref : Except Trap DocumentReference) (data : Fields) :
    Except Trap Pressed :=
  match validateTitle titleTextField with
  | some err => .ok (.alert err)
  | none => ref.map fun d => .dismiss (d.setData data)

/-- Add Watched writes a new document, whose ID it makes. -/
def addWatchedButtonTapped (currentUser : Option String) (c : WatchedForm) (letters : Letters) :
    Except Trap Pressed :=
  let docID := createAutoId letters
  press c.titleTextField (userDocumentIn currentUser "watchedList" docID) (c.fields docID)

/-- Edit Watched writes the document of the selected film. -/
def editWatchedButtonTapped (currentUser : Option String) (selected : Watched) (c : WatchedForm) :
    Except Trap Pressed :=
  press c.titleTextField (userDocumentIn currentUser "watchedList" selected.id)
    (c.fields selected.id)

/-- Add Wish writes a new document, whose ID it makes. -/
def addWishButtonTapped (currentUser : Option String) (titleTextField : String)
    (letters : Letters) : Except Trap Pressed :=
  let docID := createAutoId letters
  press titleTextField (userDocumentIn currentUser "wishlist" docID)
    [("title", .string titleTextField), ("id", .string docID)]

/-- The document of a watched film is deleted. -/
def deleteWatched (currentUser : Option String) (id : String) : Except Trap Write :=
  (userDocumentIn currentUser "watchedList" id).map DocumentReference.delete

/-- The document of a wish is deleted. -/
def deleteWish (currentUser : Option String) (id : String) : Except Trap Write :=
  (userDocumentIn currentUser "wishlist" id).map DocumentReference.delete

/-! ## Snapshot listeners -/

/-- `as! String`. -/
def castString : Option Value → Except Trap String
  | some (.string s) => .ok s
  | _ => .error .couldNotCast

/-- `as! Bool`: a number 0 or 1 bridges too. -/
def castBool : Option Value → Except Trap Bool
  | some (.boolean b) => .ok b
  | some (.double x) =>
    if x = 0 then .ok false else if x = 1 then .ok true else .error .couldNotCast
  | _ => .error .couldNotCast

/-- `as! Float`: a Boolean bridges too. -/
def castFloat : Option Value → Except Trap ℚ
  | some (.double x) => .ok x
  | some (.boolean b) => .ok (if b then 1 else 0)
  | _ => .error .couldNotCast

/-- The query of the watched list: liked films first, then by title. -/
def watchedQuery (watchedList : CollectionReference) : Query :=
  ⟨watchedList, [⟨"hasLiked", true⟩, ⟨"title", false⟩]⟩

/-- The query of the wishlist. -/
def wishlistQuery (wishlist : CollectionReference) : Query :=
  ⟨wishlist, [⟨"title", false⟩]⟩

/-- How a callback of the watched list's listener ends: it has left the callback at a document
    without a date, with the list filled so far, or gone on to build a new table. -/
inductive WatchedCallback where
  | returned (watchedList : List Watched)
  | rebuilt (watchedList : List Watched)
  deriving DecidableEq

/-- The list after the callback. -/
def WatchedCallback.watchedList : WatchedCallback → List Watched
  | .returned watchedList => watchedList
  | .rebuilt watchedList => watchedList

/-- The film of a document whose date is `stamp`, with its four forced casts. -/
def decodeWatched (document : DocumentSnapshot) (stamp : Date) : Except Trap Watched := do
  let title ← castString (document.get "title")
  let hasLiked ← castBool (document.get "hasLiked")
  let rating ← castFloat (document.get "rating")
  let id ← castString (document.get "id")
  return { title, hasLiked, date := stamp, rating, id }

/-- The loop of the watched list's listener, with the list filled so far. -/
def appendWatched (watchedList : List Watched) :
    List DocumentSnapshot → Except Trap WatchedCallback
  | [] => .ok (.rebuilt watchedList)
  | document :: documents =>
    match document.get "date" with
    | some (.timestamp stamp) =>
      match decodeWatched document stamp with
      | .error trap => .error trap
      | .ok film => appendWatched (watchedList ++ [film]) documents
    | _ => .ok (.returned watchedList)

/-- The watched list's listener on a successful snapshot: the list is emptied and refilled. -/
def watchedListener (documents : List DocumentSnapshot) : Except Trap WatchedCallback :=
  appendWatched [] documents

/-- The wish of a document. -/
def decodeWish (document : DocumentSnapshot) : Except Trap Wish := do
  let title ← castString (document.get "title")
  let id ← castString (document.get "id")
  return { title, id }

/-- The wishlist's listener on a successful snapshot. -/
def wishlistListener (documents : List DocumentSnapshot) : Except Trap (List Wish) :=
  documents.mapM decodeWish

end Lumiere

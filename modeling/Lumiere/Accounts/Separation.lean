import Lumiere.Base.Split
import Lumiere.Accounts.Operation

/-!
# Separation of accounts in the store

The app uses the raw email of an account as a document path below `users`. The client splits it at
every `/`, so an email with a slash can be refused, share its document with another account or stand
inside another account's lists. `SlashSeparated` is the condition on the characters of two emails
under which none of this happens, and `separated_iff` says that it is exact: then and only then both
references exist, the two documents are apart, and nothing one user does changes what the screens of
the other show.
-/

namespace Lumiere
open Firestore DocumentStore

/-- The email of an account, with all that may be assumed of it. -/
structure AccountEmail where
  text : String
  nonempty : text ≠ ""
  oneAt : text.toList.count '@' = 1
  noSpace : ∀ c ∈ text.toList, whitespacesAndNewlines c = false

/-- The accounts `e1` and `e2` are separate in the store, as seen by `e2`. -/
structure Separated (e1 e2 : String) : Prop where
  /-- Both references exist and neither document is, or stands above, the other. -/
  references : ∃ d1 d2, usersCollectionReference.document e1 = .ok d1 ∧
    usersCollectionReference.document e2 = .ok d2 ∧ d1.path ≠ d2.path ∧
    ¬ d1.path <+: d2.path ∧ ¬ d2.path <+: d1.path
  /-- No sequence of operations of `e1` changes what the screens of `e2` read. -/
  unchanged : ∀ (s : Store) (ops : List Operation),
    shown (some e2) (performAll (some e1) s ops) = shown (some e2) s

/-- An email as a path: without one slash at its beginning and one at its end. -/
def innerPath (email : String) : List Char :=
  Split.inner '/' email.toList

/-- Neither email has two adjacent slashes, each has an even number of slashes between its ends,
    and neither, closed by a slash, begins the other. -/
structure SlashSeparated (e1 e2 : String) : Prop where
  noPair1 : ¬ ['/', '/'] <:+: e1.toList
  noPair2 : ¬ ['/', '/'] <:+: e2.toList
  even1 : (innerPath e1).count '/' % 2 = 0
  even2 : (innerPath e2).count '/' % 2 = 0
  apart1 : ¬ innerPath e1 ++ ['/'] <+: innerPath e2 ++ ['/']
  apart2 : ¬ innerPath e2 ++ ['/'] <+: innerPath e1 ++ ['/']

/-- An email is not made of slashes only. -/
lemma AccountEmail.innerPath_ne_nil (e : AccountEmail) : innerPath e.text ≠ [] := by
  intro nil
  have drop : ∀ l : List Char, l.count '@' ≤ (Split.dropSep '/' l).count '@' := by
    intro l
    cases l with
    | nil => simp [Split.dropSep]
    | cons x xs =>
      rw [Split.dropSep]
      split
      case isTrue e => simp [e]
      case isFalse => simp
  have le1 := drop e.text.toList
  have le2 := drop (Split.dropSep '/' e.text.toList).reverse
  have at1 := e.oneAt
  have at0 : (Split.dropSep '/' (Split.dropSep '/' e.text.toList).reverse).count '@' = 0 := by
    have := congrArg (List.count '@') nil
    rwa [innerPath, Split.inner, List.count_reverse] at this
  rw [List.count_reverse] at le2
  omega

/-- The segments an email parses to, when it has no two adjacent slashes. -/
lemma AccountEmail.strSplit (e : AccountEmail) (noPair : ¬ ['/', '/'] <:+: e.text.toList) :
    ResourcePath.strSplit e.text = ((innerPath e.text).splitOn '/').map String.ofList := by
  rw [ResourcePath.strSplit, Split.filter_splitOn noPair e.innerPath_ne_nil]
  rfl

/-- The document reference of an email: when it exists, and at which path. -/
lemma AccountEmail.document_iff (e : AccountEmail) {d : DocumentReference} :
    usersCollectionReference.document e.text = .ok d ↔
      ¬ ['/', '/'] <:+: e.text.toList ∧ (innerPath e.text).count '/' % 2 = 0 ∧
        d.path = "users" :: ((innerPath e.text).splitOn '/').map String.ofList := by
  rw [CollectionReference.document, if_neg e.nonempty, ResourcePath.fromStringView]
  by_cases pair : ['/', '/'] <:+: e.text.toList
  case pos =>
    rw [if_pos pair]
    refine ⟨fun h => ?_, fun h => absurd pair h.1⟩
    cases h
  case neg =>
    rw [if_neg pair, e.strSplit pair]
    change DocumentReference.make _ = _ ↔ _
    have len : (usersCollectionReference.path ++
        ((innerPath e.text).splitOn '/').map String.ofList).length =
          (innerPath e.text).count '/' + 2 := by
      rw [List.length_append, List.length_map, Split.length_splitOn]
      change 1 + _ = _
      omega
    rw [DocumentReference.make]
    split
    case isTrue even =>
      have even' : (innerPath e.text).count '/' % 2 = 0 := by omega
      refine ⟨fun h => ?_, fun h => ?_⟩
      · cases h
        exact ⟨pair, even', rfl⟩
      · obtain ⟨_, _, path⟩ := h
        cases d
        cases path
        rfl
    case isFalse odd =>
      refine ⟨fun h => ?_, fun h => ?_⟩
      · cases h
      · obtain ⟨_, even, _⟩ := h
        omega

/-- One user path is a prefix of another exactly when the one email, closed by a slash, begins the
    other. -/
lemma users_prefix_iff {l m : List Char} :
    "users" :: (l.splitOn '/').map String.ofList <+: "users" :: (m.splitOn '/').map String.ofList ↔
      l ++ ['/'] <+: m ++ ['/'] := by
  rw [List.cons_prefix_cons, ← Split.prefix_splitOn_iff]
  refine ⟨fun h => ?_, fun h => ⟨rfl, h.map _⟩⟩
  obtain ⟨_, h⟩ := h
  have h' := h.map String.toList
  have id : String.toList ∘ String.ofList = id := funext fun _ => String.toList_ofList
  rwa [List.map_map, List.map_map, id, List.map_id, List.map_id] at h'

/-- Nothing a user does changes the screens of a user apart from them. -/
lemma shown_performAll {user1 user2 d1 d2} (e1 : userDocument user1 = .ok d1)
    (e2 : userDocument user2 = .ok d2) (ap : Apart d1.path d2.path)
    (s : Store) (ops : List Operation) :
    shown user2 (performAll user1 s ops) = shown user2 s := by
  induction ops generalizing s with
  | nil => rfl
  | cons op ops ih =>
    have step := shown_perform e1 e2 ap s op
    have rest := ih (op.perform user1 s)
    exact rest.trans step

/-- Two accounts are separate in the store exactly when the slashes of their emails keep them
    apart. -/
theorem separated_iff (e1 e2 : AccountEmail) :
    Separated e1.text e2.text ↔ SlashSeparated e1.text e2.text := by
  constructor
  · intro sep
    obtain ⟨d1, d2, ok1, ok2, _, ap1, ap2⟩ := sep.references
    obtain ⟨noPair1, even1, path1⟩ := e1.document_iff.1 ok1
    obtain ⟨noPair2, even2, path2⟩ := e2.document_iff.1 ok2
    rw [path1, path2, users_prefix_iff] at ap1 ap2
    exact ⟨noPair1, noPair2, even1, even2, ap1, ap2⟩
  · rintro ⟨noPair1, noPair2, even1, even2, ap1, ap2⟩
    have evenPath : ∀ l : List Char, l.count '/' % 2 = 0 →
        ("users" :: (l.splitOn '/').map String.ofList).length % 2 = 0 := by
      intro l even
      rw [List.length_cons, List.length_map, Split.length_splitOn]
      omega
    have ok1 := e1.document_iff (d := ⟨_, evenPath _ even1⟩) |>.2 ⟨noPair1, even1, rfl⟩
    have ok2 := e2.document_iff (d := ⟨_, evenPath _ even2⟩) |>.2 ⟨noPair2, even2, rfl⟩
    rw [← users_prefix_iff] at ap1 ap2
    refine ⟨⟨_, _, ok1, ok2, ?_, ap1, ap2⟩, fun s ops => ?_⟩
    · intro e
      dsimp only at e
      rw [e] at ap1
      exact ap1 (List.prefix_refl _)
    · have doc1 : userDocument (some e1.text) = .ok _ := congrArg raising ok1
      have doc2 : userDocument (some e2.text) = .ok _ := congrArg raising ok2
      exact shown_performAll doc1 doc2 ⟨ap1, ap2⟩ s ops

/-- A text whose characters are all no white space. -/
lemma noSpace_of_all {text : String}
    (e : (text.toList.all fun c => !whitespacesAndNewlines c) = true) :
    ∀ c ∈ text.toList, whitespacesAndNewlines c = false := by
  intro c mem
  have h := List.all_eq_true.1 e c mem
  rwa [Bool.not_eq_true'] at h

/-- The emails `a/b@c.d` and `e@f.g` are not separate: the path of the first has three segments
    and its reference is refused. -/
theorem not_all_separated :
    ¬ ∀ e1 e2 : AccountEmail, e1 ≠ e2 → Separated e1.text e2.text := by
  intro all
  let e1 : AccountEmail := ⟨"a/b@c.d", by decide, by decide, noSpace_of_all (by decide)⟩
  let e2 : AccountEmail := ⟨"e@f.g", by decide, by decide, noSpace_of_all (by decide)⟩
  have ne : e1 ≠ e2 := fun e => absurd (congrArg AccountEmail.text e) (by decide)
  obtain ⟨d1, _, ok1, _⟩ := (all e1 e2 ne).references
  have odd := (e1.document_iff.1 ok1).2.1
  exact absurd odd (by decide)

end Lumiere

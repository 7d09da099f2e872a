import Mathlib.Data.List.Infix

/-!
# Firestore paths and references

The part of the vendored Firestore client that turns strings into paths:
`ResourcePath::FromStringView` of `core/src/model/resource_path.cc`, the constructors of
`DocumentReference` and `CollectionReference` with their parity checks (`core/src/api`), the checks
of `FIRCollectionReference.mm` and `FIRDocumentReference.mm` before them, and `CreateAutoId`. What
the client throws is the text of the `NSException` it raises.

A reference carries its parity, so a document reference with an odd number of segments cannot be
built. A `Segment` is a string that is one segment of a path by itself.
-/

namespace Lumiere.Firestore

/-- The segments of a path. -/
abbrev ResourcePath := List String

namespace ResourcePath

/-- `absl::StrSplit(path, '/', absl::SkipEmpty())`. -/
def strSplit (path : String) : ResourcePath :=
  ((path.toList.splitOn '/').filter (· ≠ [])).map String.ofList

/-- `ResourcePath::FromStringView`. -/
def fromStringView (path : String) : Except String ResourcePath :=
  if ['/', '/'] <:+: path.toList then
    .error s!"Invalid path ({path}). Paths must not contain // in them."
  else
    .ok (strSplit path)

/-- `ResourcePath::CanonicalString`. -/
def canonicalString (path : ResourcePath) : String :=
  "/".intercalate path

end ResourcePath

/-- A reference to a document: its path has an even number of segments. -/
structure DocumentReference where
  path : ResourcePath
  even : path.length % 2 = 0
  deriving DecidableEq

/-- A reference to a collection: its path has an odd number of segments. -/
structure CollectionReference where
  path : ResourcePath
  odd : path.length % 2 = 1
  deriving DecidableEq

/-- The constructor `DocumentReference::DocumentReference`. -/
def DocumentReference.make (path : ResourcePath) : Except String DocumentReference :=
  if even : path.length % 2 = 0 then
    .ok ⟨path, even⟩
  else
    .error s!"Invalid document reference. Document references must have an even number of segments, but {path.canonicalString} has {path.length}"

/-- `MakeQuery`, the constructor of a collection reference. -/
def CollectionReference.make (path : ResourcePath) : Except String CollectionReference :=
  if odd : path.length % 2 = 1 then
    .ok ⟨path, odd⟩
  else
    .error s!"Invalid collection reference. Collection references must have an odd number of segments, but {path.canonicalString} has {path.length}"

/-- The document at a path below a collection (`documentWithPath:`). -/
def CollectionReference.document (c : CollectionReference) (documentPath : String) :
    Except String DocumentReference :=
  if documentPath = "" then
    .error "Document path cannot be empty."
  else
    (ResourcePath.fromStringView documentPath).bind fun sub => DocumentReference.make (c.path ++ sub)

/-- The collection at a path below a document (`collectionWithPath:`). -/
def DocumentReference.collection (d : DocumentReference) (collectionPath : String) :
    Except String CollectionReference :=
  if collectionPath = "" then
    .error "Collection path cannot be empty."
  else
    (ResourcePath.fromStringView collectionPath).bind fun sub => CollectionReference.make (d.path ++ sub)

/-- `kAutoIdLength`. -/
def kAutoIdLength : Nat := 20

/-- `kAutoIdAlphabet`. -/
def kAutoIdAlphabet : List Char :=
  "ABCDEFGHIJKLMNOPQRSTUVWXYZabcdefghijklmnopqrstuvwxyz0123456789".toList

/-- The random draws of one auto-generated document ID. -/
abbrev Letters := Fin kAutoIdLength → Fin kAutoIdAlphabet.length

/-- `CreateAutoId`: twenty random characters of the alphabet. -/
def createAutoId (letters : Letters) : String :=
  String.ofList ((List.finRange kAutoIdLength).map fun i => kAutoIdAlphabet.get (letters i))

/-! ## Segments -/

/-- A string that is a path segment by itself. -/
def Segment (s : String) : Prop :=
  s ≠ "" ∧ '/' ∉ s.toList

instance (s : String) : Decidable (Segment s) :=
  inferInstanceAs (Decidable (_ ∧ _))

/-- A segment parses as the path of itself. -/
lemma Segment.fromStringView {s : String} (seg : Segment s) :
    ResourcePath.fromStringView s = .ok [s] := by
  have noSlash : ¬ ['/', '/'] <:+: s.toList := fun inf => seg.2 (inf.mem List.mem_cons_self)
  have nonempty : s.toList ≠ [] := fun e => seg.1 (String.toList_inj.1 e)
  rw [ResourcePath.fromStringView, if_neg noSlash, ResourcePath.strSplit,
    List.splitOn_eq_singleton seg.2]
  simp [nonempty]

/-- The document under a segment is one step below its collection. -/
lemma CollectionReference.document_segment {c : CollectionReference} {s : String}
    (seg : Segment s) :
    ∃ d, c.document s = .ok d ∧ d.path = c.path ++ [s] := by
  have even : (c.path ++ [s]).length % 2 = 0 := by
    have := c.odd
    simp only [List.length_append, List.length_singleton]
    omega
  refine ⟨⟨c.path ++ [s], even⟩, ?_, rfl⟩
  rw [document, if_neg seg.1, seg.fromStringView]
  exact dif_pos even

/-- The collection under a segment is one step below its document. -/
lemma DocumentReference.collection_segment {d : DocumentReference} {s : String}
    (seg : Segment s) :
    ∃ c, d.collection s = .ok c ∧ c.path = d.path ++ [s] := by
  have odd : (d.path ++ [s]).length % 2 = 1 := by
    have := d.even
    simp only [List.length_append, List.length_singleton]
    omega
  refine ⟨⟨d.path ++ [s], odd⟩, ?_, rfl⟩
  rw [collection, if_neg seg.1, seg.fromStringView]
  exact dif_pos odd

/-- The document at a path below a collection stands at the parsed path below it. -/
lemma CollectionReference.document_inv {c : CollectionReference} {s : String}
    {d : DocumentReference} (e : c.document s = .ok d) :
    ∃ sub, ResourcePath.fromStringView s = .ok sub ∧ d.path = c.path ++ sub := by
  rw [document] at e
  split at e
  case isTrue => cases e
  case isFalse =>
    cases h : ResourcePath.fromStringView s with
    | error err => rw [h] at e; cases e
    | ok sub =>
      rw [h] at e
      change DocumentReference.make _ = _ at e
      rw [DocumentReference.make] at e
      split at e
      case isTrue => cases e; exact ⟨sub, rfl, rfl⟩
      case isFalse => cases e

/-- A generated ID is a segment. -/
lemma segment_createAutoId (letters : Letters) : Segment (createAutoId letters) := by
  have alphabet : ∀ i, kAutoIdAlphabet.get i ≠ '/' := by decide
  constructor
  · intro e
    have := congrArg (fun s : String => s.toList.length) e
    simp [createAutoId, kAutoIdLength] at this
  · simp only [createAutoId, String.toList_ofList, List.mem_map, not_exists, not_and]
    intro i _
    exact alphabet _

end Lumiere.Firestore

import Mathlib.Data.List.Sort
import Mathlib.Data.Rat.Defs
import Mathlib.Algebra.Order.Ring.Unbundled.Rat
import Lumiere.Base.DocumentStore
import Lumiere.Platform.Foundation
import Lumiere.Firestore.ResourcePath

/-!
# Firestore documents and queries

The values the app stores, the fields of a document as `setData` writes and `get` reads them, and
the ordered queries its two lists listen to. The store itself is the path-keyed document store of
`Lumiere.Base.DocumentStore`. A query returns the documents of one collection that have every field
it is ordered by, sorted by these fields and last by document ID in the direction of the last field.
-/

namespace Lumiere.Firestore

/-- The field values the app writes. -/
inductive Value where
  | boolean (b : Bool)
  | double (x : ℚ)
  | timestamp (t : Date)
  | string (s : String)
  deriving DecidableEq

/-- The place of a type in Firestore's order of values. -/
def Value.rank : Value → Nat
  | .boolean _ => 0
  | .double _ => 1
  | .timestamp _ => 2
  | .string _ => 3

/-- Firestore's order of values: by type, then within the type. -/
def Value.compare : Value → Value → Ordering
  | .boolean a, .boolean b => Ord.compare a b
  | .double a, .double b => compareOfLessAndEq a b
  | .timestamp a, .timestamp b => Ord.compare a b
  | .string a, .string b => Ord.compare a b
  | a, b => Ord.compare a.rank b.rank

/-- The fields of a document. -/
abbrev Fields := List (String × Value)

/-- The value of a field, if the document has it. -/
def Fields.get (data : Fields) (field : String) : Option Value :=
  data.lookup field

/-- The documents of the database. -/
abbrev Store := DocumentStore String Fields

/-- A write of one document. -/
abbrev Write := DocumentStore.Write String Fields

/-- `setData` without merge: the whole document is replaced. -/
def DocumentReference.setData (d : DocumentReference) (data : Fields) : Write :=
  .setData d.path data

/-- `delete`: that one document is removed. -/
def DocumentReference.delete (d : DocumentReference) : Write :=
  .delete d.path

/-- A document of a query snapshot. -/
structure DocumentSnapshot where
  documentID : String
  data : Fields
  deriving DecidableEq

/-- `document.get(field)`. -/
def DocumentSnapshot.get (d : DocumentSnapshot) (field : String) : Option Value :=
  d.data.get field

/-- One `order(by:descending:)` of a query. -/
structure OrderBy where
  field : String
  descending : Bool

/-- An ordered query on a collection. -/
structure Query where
  collection : CollectionReference
  orderBys : List OrderBy

namespace Query

/-- The direction of one ordering. -/
def direct (descending : Bool) (o : Ordering) : Ordering :=
  if descending then o.swap else o

/-- Compares two documents by the fields of the query, then by document ID. -/
def compare (q : Query) (a b : DocumentSnapshot) : Ordering :=
  let last := (q.orderBys.getLast?.map OrderBy.descending).getD false
  q.orderBys.foldr
    (fun o rest =>
      match a.get o.field, b.get o.field with
      | some u, some v => (direct o.descending (u.compare v)).then rest
      | _, _ => rest)
    (direct last (Ord.compare a.documentID b.documentID))

/-- The documents of a snapshot of the query. -/
def run (q : Query) (s : Store) : List DocumentSnapshot :=
  (((s.children q.collection.path).map fun kd => ⟨kd.1, kd.2⟩).filter fun d =>
    q.orderBys.all fun o => (d.get o.field).isSome).insertionSort
      fun a b => q.compare a b ≠ .gt

/-- A query returns the documents of its collection that have all its fields. -/
lemma mem_run {q : Query} {s : Store} {d : DocumentSnapshot} :
    d ∈ q.run s ↔
      s.lookup (q.collection.path ++ [d.documentID]) = some d.data ∧
        ∀ o ∈ q.orderBys, (d.get o.field).isSome := by
  rw [run, List.mem_insertionSort, List.mem_filter, List.mem_map, List.all_eq_true]
  constructor
  · rintro ⟨⟨⟨k, f⟩, mem, rfl⟩, all⟩
    exact ⟨DocumentStore.mem_children.1 mem, all⟩
  · rintro ⟨lk, all⟩
    exact ⟨⟨(d.documentID, d.data), DocumentStore.mem_children.2 lk, rfl⟩, all⟩

/-- A query depends on the documents of its collection only. -/
lemma run_congr {q : Query} {s t : Store}
    (e : s.children q.collection.path = t.children q.collection.path) : q.run s = q.run t := by
  rw [run, run, e]

end Query

end Lumiere.Firestore

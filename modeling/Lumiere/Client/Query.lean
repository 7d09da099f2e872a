import Mathlib.Algebra.Order.Ring.Rat
import Lumiere.Client.Document

/-!
# Queries in the Firestore client

A query of the client is the path of a document, or of a collection with the orderings asked for,
and possibly a limit. `matches` says which documents belong to it and `comparator` in which order
they come: by the orderings and last by key, in the direction of the last ordering. Comparing two
documents on a field that one of them does not have would stop the client; a document that matches
has every field of the orderings, so on the documents that match the comparator always answers
(`comparator_eq`), and it is a total order in which only documents with the same key are the same.
For a query of the app it is the order of the snapshots (`compare_eq`).
-/

namespace Lumiere.Firestore

/-! ## The order of values -/

instance : Std.TransCmp Value.compare where
  eq_swap {a b} := by
    cases a with
    | double x =>
      cases b with
      | double y =>
        change Ord.compare x y = (Ord.compare y x).swap
        exact Std.OrientedOrd.eq_swap
      | _ => rfl
    | _ => cases b <;> first | rfl | exact Std.OrientedOrd.eq_swap
  isLE_trans {a b c} le1 le2 := by
    cases a with
    | double x =>
      cases b with
      | double y =>
        cases c with
        | double z =>
          change (Ord.compare x z).isLE
          exact Std.TransOrd.isLE_trans (b := y) le1 le2
        | boolean => cases le2
        | _ => rfl
      | boolean => cases le1
      | _ => cases c <;> first | rfl | cases le2
    | _ =>
      cases b <;> cases c <;>
        first
        | rfl
        | exact Std.TransOrd.isLE_trans le1 le2
        | exact absurd le1 Bool.false_ne_true
        | exact absurd le2 Bool.false_ne_true

/-- Swapping every answer of a comparator leaves it a total order. -/
lemma transCmp_direct {α : Type*} {cmp : α → α → Ordering} [Std.TransCmp cmp] {descending : Bool} :
    Std.TransCmp fun a b => Query.direct descending (cmp a b) := by
  cases descending with
  | false => exact inferInstanceAs (Std.TransCmp cmp)
  | true =>
    have h : (fun a b => Query.direct true (cmp a b)) = fun a b => cmp b a := by
      funext a b
      exact Std.OrientedCmp.eq_swap.symm
    rw [h]
    infer_instance

/-- Comparing what a function makes of the elements is a total order. -/
lemma transCmp_on {α β : Type*} {cmp : β → β → Ordering} [Std.TransCmp cmp] {f : α → β} :
    Std.TransCmp fun a b => cmp (f a) (f b) where
  eq_swap := Std.OrientedCmp.eq_swap
  isLE_trans := Std.TransCmp.isLE_trans

namespace Client

/-- Whether a query is cut, and at which end. -/
inductive LimitType where
  | none
  | first
  | last
  deriving DecidableEq

/-- A query of the client; one for a document has no orderings. -/
structure CoreQuery where
  path : List String
  explicitOrderBys : List OrderBy
  limitType : LimitType
  limit : Nat
  orders : path.length % 2 = 0 → explicitOrderBys = []

/-- The field path that stands for the key of a document. -/
def keyFieldPath : String := "__name__"

end Client

/-- An ordered query on a collection has no limit. -/
def Query.core (q : Query) : Client.CoreQuery where
  path := q.collection.path
  explicitOrderBys := q.orderBys
  limitType := .none
  limit := 0
  orders := by
    intro even
    have odd := q.collection.odd
    rw [even] at odd
    cases odd

/-- Listening to a document is a query for it. -/
def DocumentReference.core (r : DocumentReference) : Client.CoreQuery where
  path := r.path
  explicitOrderBys := []
  limitType := .none
  limit := 0
  orders := fun _ => rfl

namespace Client.CoreQuery

/-- A query may be ordered by the name of the document. -/
def isKeyFieldPath (o : OrderBy) : Bool :=
  o.field == keyFieldPath

/-- The orderings of the query; one by key is added when none was asked for. -/
def orderBys (q : CoreQuery) : List OrderBy :=
  if q.explicitOrderBys.any isKeyFieldPath then q.explicitOrderBys
  else
    q.explicitOrderBys ++
      [⟨keyFieldPath, (q.explicitOrderBys.getLast?.map OrderBy.descending).getD false⟩]

/-- The document has every field that the query is ordered by. -/
def matchesOrderBy (q : CoreQuery) (d : MutableDocument) : Bool :=
  q.explicitOrderBys.all fun o => isKeyFieldPath o || (d.field o.field).isSome

/-- Whether the query is for one document. -/
def isDocumentQuery (q : CoreQuery) : Bool :=
  q.path.length % 2 == 0

/-- The document is the one that the query names, or in its collection. -/
def matchesPath (q : CoreQuery) (d : MutableDocument) : Bool :=
  if q.isDocumentQuery then q.path == d.key.path else d.key.collection == q.path

/-- The query asks for the document. -/
def «matches» (q : CoreQuery) (d : MutableDocument) : Bool :=
  d.isFoundDocument && q.matchesPath d && q.matchesOrderBy d

/-- Whether the query is for all documents of a collection, in the order of their keys. -/
def matchesAllDocuments (q : CoreQuery) : Bool :=
  q.limitType == .none &&
    (q.explicitOrderBys.isEmpty ||
      q.explicitOrderBys.length == 1 && q.explicitOrderBys.all isKeyFieldPath)

/-- The documents that belong to a query. -/
abbrev Matching (q : CoreQuery) := { d : MutableDocument // q.matches d = true }

/-! ## The order of the documents -/

/-- Compares two documents by one ordering; both must have its field. -/
def compareBy (o : OrderBy) (a b : MutableDocument) : Option Ordering :=
  if isKeyFieldPath o then some (Query.direct o.descending (compare a.key b.key))
  else
    match a.field o.field, b.field o.field with
    | some u, some v => some (Query.direct o.descending (u.compare v))
    | _, _ => none

/-- Compares two documents by orderings, the first that tells them apart decides. -/
def compareByAll (a b : MutableDocument) : List OrderBy → Option Ordering
  | [] => some .eq
  | o :: os =>
    match compareBy o a b with
    | none => none
    | some .eq => compareByAll a b os
    | some c => some c

/-- The order of two documents; the last order is by name, so that none are equal. -/
def comparator (q : CoreQuery) (a b : MutableDocument) : Option Ordering :=
  compareByAll a b q.orderBys

namespace Matching

variable {q : CoreQuery}

/-- The key of a document that matches. -/
def key (d : Matching q) : DocumentKey :=
  d.1.key

/-- The value of a field that the document has. -/
def fieldValue (d : Matching q) (field : String) : Value :=
  (d.1.field field).getD (.boolean false)

/-- Compares two documents of a query by one of its orderings. -/
def compareBy (o : OrderBy) (a b : Matching q) : Ordering :=
  if isKeyFieldPath o then Query.direct o.descending (compareOn key a b)
  else Query.direct o.descending (Value.compare (a.fieldValue o.field) (b.fieldValue o.field))

/-- Compares two documents of a query by orderings. -/
def compareByAll : List OrderBy → Matching q → Matching q → Ordering
  | [] => fun _ _ => .eq
  | o :: os => compareLex (compareBy o) (compareByAll os)

/-- The order of the documents of a query. -/
def compare (a b : Matching q) : Ordering :=
  compareByAll q.orderBys a b

instance {o : OrderBy} : Std.TransCmp (compareBy (q := q) o) := by
  by_cases h : isKeyFieldPath o = true
  · have e : compareBy (q := q) o = fun a b => Query.direct o.descending (compareOn key a b) := by
      funext a b
      exact if_pos h
    rw [e]
    exact transCmp_direct
  · have e : compareBy (q := q) o = fun a b =>
        Query.direct o.descending (Value.compare (a.fieldValue o.field) (b.fieldValue o.field)) := by
      funext a b
      exact if_neg h
    have on : Std.TransCmp fun a b : Matching q =>
        Value.compare (a.fieldValue o.field) (b.fieldValue o.field) := transCmp_on
    rw [e]
    exact transCmp_direct

instance {os : List OrderBy} : Std.TransCmp (compareByAll (q := q) os) := by
  induction os with
  | nil =>
    exact { eq_swap := rfl, isLE_trans := fun _ _ => rfl }
  | cons o os ih => exact inferInstanceAs (Std.TransCmp (compareLex _ _))

instance : Std.TransCmp (compare (q := q)) :=
  inferInstanceAs (Std.TransCmp (compareByAll q.orderBys))

/-- Documents that no ordering tells apart have the same key, when one of them is by key. -/
lemma key_eq_of_compareByAll {os : List OrderBy} {a b : Matching q}
    (byKey : os.any isKeyFieldPath = true) (e : compareByAll os a b = .eq) : a.key = b.key := by
  induction os with
  | nil => cases byKey
  | cons o os ih =>
    obtain ⟨e1, e2⟩ := Ordering.then_eq_eq.1 e
    rw [List.any_cons, Bool.or_eq_true] at byKey
    rcases byKey with h | h
    · rw [compareBy, if_pos h] at e1
      apply Std.LawfulEqOrd.eq_of_compare (a := a.key)
      change compareOn key a b = .eq
      revert e1
      cases o.descending <;> cases compareOn key a b <;> decide
    · exact ih h e2

end Matching

/-- The orderings of a query include one by key. -/
lemma any_isKeyFieldPath (q : CoreQuery) : q.orderBys.any isKeyFieldPath = true := by
  rw [orderBys]
  split
  case isTrue h => exact h
  case isFalse =>
    rw [List.any_append, Bool.or_eq_true]
    exact .inr rfl

instance {q : CoreQuery} : KeyedCmp (Matching.key (q := q)) Matching.compare where
  key_eq := Matching.key_eq_of_compareByAll q.any_isKeyFieldPath

variable {q : CoreQuery}

/-- A document of a query has the fields it is ordered by. -/
lemma field_of_matches {d : MutableDocument} (m : q.matches d = true) {o : OrderBy}
    (mem : o ∈ q.orderBys) (no : isKeyFieldPath o = false) : (d.field o.field).isSome = true := by
  have ex : o ∈ q.explicitOrderBys := by
    rw [orderBys] at mem
    split at mem
    case isTrue => exact mem
    case isFalse =>
      rcases List.mem_append.1 mem with mem | mem
      · exact mem
      · rw [List.mem_singleton.1 mem] at no
        cases no
  rw [«matches», Bool.and_eq_true, Bool.and_eq_true, matchesOrderBy, List.all_eq_true] at m
  have h := m.2 o ex
  rw [no] at h
  exact h

/-- Comparing two documents of a query never fails. -/
lemma comparator_eq (a b : Matching q) : q.comparator a.1 b.1 = some (a.compare b) := by
  have step : ∀ o ∈ q.orderBys, compareBy o a.1 b.1 = some (Matching.compareBy o a b) := by
    intro o mem
    rw [compareBy, Matching.compareBy]
    by_cases h : isKeyFieldPath o = true
    · rw [if_pos h, if_pos h]
      rfl
    · rw [if_neg h, if_neg h]
      have no := Bool.eq_false_iff.2 h
      obtain ⟨u, eu⟩ := Option.isSome_iff_exists.1 (field_of_matches a.2 mem no)
      obtain ⟨v, ev⟩ := Option.isSome_iff_exists.1 (field_of_matches b.2 mem no)
      rw [Matching.fieldValue, Matching.fieldValue, eu, ev]
      rfl
  rw [comparator, Matching.compare]
  generalize q.orderBys = os at step
  induction os with
  | nil => rfl
  | cons o os ih =>
    have ih' := ih fun o' mem => step o' (List.mem_cons_of_mem _ mem)
    rw [compareByAll, step o List.mem_cons_self]
    change _ = some ((Matching.compareBy o a b).then (Matching.compareByAll os a b))
    cases Matching.compareBy o a b with
    | lt => rfl
    | eq => exact ih'
    | gt => rfl

end Client.CoreQuery

/-! ## The snapshots of the app -/

namespace Client

/-- Keys of one collection are in the order of the IDs. -/
lemma compare_key {a b : DocumentKey} (e : a.collection = b.collection) :
    compare a b = compare a.id b.id := by
  change compare (a.collection ++ [a.id]) (b.collection ++ [b.id]) = _
  rw [e]
  induction b.collection with
  | nil =>
    rw [List.nil_append, List.nil_append, List.compare_cons_cons, List.compare_nil_nil]
    cases compare a.id b.id <;> rfl
  | cons x p ih =>
    rw [List.cons_append, List.cons_append, List.compare_cons_cons, Std.ReflOrd.compare_self]
    exact ih

/-- What a snapshot of the app holds of a document. -/
def MutableDocument.snapshot (d : MutableDocument) : DocumentSnapshot :=
  ⟨d.key.id, d.value.toFields⟩

/-- The app reads the fields that the client keeps. -/
lemma MutableDocument.get_snapshot {d : MutableDocument} {field : String} :
    d.snapshot.get field = d.field field :=
  ObjectValue.get_toFields

end Client

namespace Query
open Client Client.CoreQuery

/-- The query does not name the key of the documents among its fields. -/
def NamesNoKey (q : Query) : Prop :=
  ∀ o ∈ q.orderBys, o.field ≠ keyFieldPath

variable {q : Query}

/-- No order of such a query is by name. -/
lemma not_isKeyFieldPath (nk : q.NamesNoKey) {o : OrderBy} (mem : o ∈ q.orderBys) :
    isKeyFieldPath o = false :=
  beq_false_of_ne (nk o mem)

/-- The order by name comes last and follows the direction of the order before it. -/
lemma core_orderBys (nk : q.NamesNoKey) :
    q.core.orderBys = q.orderBys ++
      [⟨keyFieldPath, (q.orderBys.getLast?.map OrderBy.descending).getD false⟩] := by
  apply if_neg
  intro h
  obtain ⟨o, mem, e⟩ := List.any_eq_true.1 h
  rw [not_isKeyFieldPath nk mem] at e
  cases e

/-- The documents of a query are those of its collection that have all its fields. -/
lemma core_matches (nk : q.NamesNoKey) {d : MutableDocument} :
    q.core.matches d = true ↔ d.isFoundDocument = true ∧ d.key.collection = q.collection.path ∧
      ∀ o ∈ q.orderBys, (d.snapshot.get o.field).isSome = true := by
  have odd : q.core.isDocumentQuery = false := by
    rw [isDocumentQuery, beq_eq_false_iff_ne]
    intro even
    have odd := q.collection.odd
    rw [show q.collection.path.length % 2 = 0 from even] at odd
    cases odd
  rw [«matches», Bool.and_eq_true, Bool.and_eq_true, matchesPath, odd, matchesOrderBy,
    List.all_eq_true, and_assoc]
  apply and_congr_right'
  apply and_congr
  · exact beq_iff_eq
  · apply forall₂_congr
    intro o mem
    rw [not_isKeyFieldPath nk mem, MutableDocument.get_snapshot]
    rfl

/-- The order of the client is the order of the snapshots. -/
lemma compare_eq (nk : q.NamesNoKey) (a b : Matching q.core) :
    a.compare b = q.compare a.1.snapshot b.1.snapshot := by
  have ma := ((core_matches nk).1 a.2).2
  have mb := ((core_matches nk).1 b.2).2
  rw [Matching.compare, core_orderBys nk, Query.compare]
  generalize (q.orderBys.getLast?.map OrderBy.descending).getD false = last
  have fields : ∀ o ∈ q.orderBys, isKeyFieldPath o = false ∧
      (a.1.snapshot.get o.field).isSome = true ∧ (b.1.snapshot.get o.field).isSome = true :=
    fun o mem => ⟨not_isKeyFieldPath nk mem, ma.2 o mem, mb.2 o mem⟩
  generalize q.orderBys = os at fields
  induction os with
  | nil =>
    change (Matching.compareBy _ a b).then .eq = _
    have byKey : isKeyFieldPath ⟨keyFieldPath, last⟩ = true := beq_self_eq_true _
    rw [Ordering.then_eq, Matching.compareBy, if_pos byKey]
    change direct last (Ord.compare a.1.key b.1.key) = _
    rw [compare_key (ma.1.trans mb.1.symm)]
    rfl
  | cons o os ih =>
    obtain ⟨no, ha, hb⟩ := fields o List.mem_cons_self
    obtain ⟨u, eu⟩ := Option.isSome_iff_exists.1 ha
    obtain ⟨v, ev⟩ := Option.isSome_iff_exists.1 hb
    rw [List.foldr_cons, eu, ev]
    change (Matching.compareBy o a b).then (Matching.compareByAll (os ++ _) a b) =
      (direct o.descending (u.compare v)).then _
    rw [ih fun o' mem => fields o' (List.mem_cons_of_mem _ mem), Matching.compareBy, no,
      Matching.fieldValue, Matching.fieldValue, ← MutableDocument.get_snapshot,
      ← MutableDocument.get_snapshot, eu, ev]
    rfl

end Query

end Lumiere.Firestore

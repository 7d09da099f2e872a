import Mathlib.Data.List.Dedup
import Lumiere.Base.SortedTable
import Lumiere.Firestore.Store

/-!
# Documents and mutations in the Firestore client

What the client keeps of a document: its key, whether it exists, the version the server gave it,
its fields, and whether a write of this device that the server has not confirmed, or has confirmed
without sending the document again, is in it. A mutation is what `setData` or `delete` asks for; it
is applied to the local view of a document before the server has answered and to the cached document
once it has. Mutations issued by one call form a batch.
-/

namespace Lumiere.Firestore.Client

/-- A time of the server; 0 is `SnapshotVersion::None()`. -/
abbrev SnapshotVersion := Nat

/-- The number of a batch of mutations. -/
abbrev BatchId := Nat

/-- The key of a document: the path of its collection and its ID there. -/
structure DocumentKey where
  collection : List String
  id : String
  deriving DecidableEq

namespace DocumentKey

/-- The path of the document. -/
def path (k : DocumentKey) : List String :=
  k.collection ++ [k.id]

/-- The path tells the key. -/
lemma path_inj {k k' : DocumentKey} (e : k.path = k'.path) : k = k' := by
  obtain ⟨e1, e2⟩ := List.append_inj' e rfl
  cases k
  cases k'
  cases e1
  cases e2
  rfl

/-- Keys are in the order of their paths. -/
instance : Ord DocumentKey where
  compare := compareOn path

instance : Std.TransOrd DocumentKey :=
  inferInstanceAs (Std.TransCmp (compareOn path))

instance : Std.LawfulEqOrd DocumentKey where
  compare_self := Std.ReflOrd.compare_self
  eq_of_compare e := path_inj (Std.LawfulEqOrd.eq_of_compare e)

end DocumentKey

/-- The fields of a document in the order of their names. -/
abbrev ObjectValue := SortedTable String Value

namespace ObjectValue

instance : DecidableEq ObjectValue := fun v w =>
  decidable_of_iff (v.rows = w.rows) (by
    constructor
    · intro e
      cases v
      cases w
      cases e
      rfl
    · intro e
      rw [e])

/-- The fields of a dictionary. -/
def ofFields (data : Fields) : ObjectValue :=
  data.foldr (fun f v => v.put f.1 f.2) SortedTable.empty

/-- The fields as a dictionary. -/
def toFields (v : ObjectValue) : Fields :=
  v.rows

/-- A field read from the dictionary of the fields. -/
lemma get_toFields {v : ObjectValue} {field : String} : v.toFields.get field = v.get field := by
  have h : ∀ l : Fields, l.lookup field =
      (l.find? fun r => compare r.1 field == .eq).map Prod.snd := by
    intro l
    induction l with
    | nil => rfl
    | cons r l ih =>
      rw [List.lookup_cons, List.find?_cons]
      by_cases e : field = r.1
      · subst e
        simp
      · have ne : compare r.1 field ≠ .eq := fun h => e (Std.LawfulEqOrd.eq_of_compare h).symm
        rw [beq_false_of_ne e, beq_false_of_ne ne]
        exact ih
  exact h v.rows

end ObjectValue

/-! ## Documents -/

/-- What the client knows of the existence of a document. -/
inductive DocumentType where
  | invalid
  | foundDocument
  | noDocument
  | unknownDocument
  deriving DecidableEq

/-- Which writes of this device are in a document. -/
inductive DocumentState where
  | hasLocalMutations
  | hasCommittedMutations
  | synced
  deriving DecidableEq

/-- A document as the client knows it. -/
structure MutableDocument where
  key : DocumentKey
  documentType : DocumentType
  version : SnapshotVersion
  value : ObjectValue
  documentState : DocumentState
  deriving DecidableEq

namespace MutableDocument

/-- A document of which only the key is known. -/
def invalidDocument (key : DocumentKey) : MutableDocument :=
  ⟨key, .invalid, 0, SortedTable.empty, .synced⟩

/-- The server has the document with these fields. -/
def convertToFoundDocument (d : MutableDocument) (version : SnapshotVersion) (value : ObjectValue) :
    MutableDocument :=
  { d with version, documentType := .foundDocument, value, documentState := .synced }

/-- The server does not have the document. -/
def convertToNoDocument (d : MutableDocument) (version : SnapshotVersion) : MutableDocument :=
  { d with
    version, documentType := .noDocument, value := SortedTable.empty, documentState := .synced }

/-- A write has been acknowledged and the document has not been sent since. -/
def setHasCommittedMutations (d : MutableDocument) : MutableDocument :=
  { d with documentState := .hasCommittedMutations }

/-- A write that the server has not answered is in the document. -/
def setHasLocalMutations (d : MutableDocument) : MutableDocument :=
  { d with documentState := .hasLocalMutations, version := 0 }

/-- A document that exists with these fields at a version. -/
def foundDocument (key : DocumentKey) (version : SnapshotVersion) (value : ObjectValue) :
    MutableDocument :=
  (invalidDocument key).convertToFoundDocument version value

/-- A document that does not exist at a version. -/
def noDocument (key : DocumentKey) (version : SnapshotVersion) : MutableDocument :=
  (invalidDocument key).convertToNoDocument version

/-- Something is known of the document. -/
def isValidDocument (d : MutableDocument) : Bool :=
  d.documentType != .invalid

/-- The document exists. -/
def isFoundDocument (d : MutableDocument) : Bool :=
  d.documentType == .foundDocument

/-- The document is known not to exist. -/
def isNoDocument (d : MutableDocument) : Bool :=
  d.documentType == .noDocument

/-- A write that the server has not answered is in the document. -/
def hasLocalMutations (d : MutableDocument) : Bool :=
  d.documentState == .hasLocalMutations

/-- An acknowledged write is in the document. -/
def hasCommittedMutations (d : MutableDocument) : Bool :=
  d.documentState == .hasCommittedMutations

/-- Some write of this device is in the document. -/
def hasPendingWrites (d : MutableDocument) : Bool :=
  d.hasLocalMutations || d.hasCommittedMutations

/-- The value of a field, if the document has it. -/
def field (d : MutableDocument) (fieldPath : String) : Option Value :=
  d.value.get fieldPath

end MutableDocument

/-! ## Mutations -/

/-- Which fields local mutations have touched. A mutation of the whole document leaves no mask, so
    the empty one is the only mask there is. -/
inductive FieldMask where
  | empty
  deriving DecidableEq

/-- A write of a whole document or its removal, without a precondition. -/
inductive Mutation where
  | setMutation (key : DocumentKey) (value : ObjectValue)
  | deleteMutation (key : DocumentKey)
  deriving DecidableEq

namespace Mutation

/-- The document that a mutation is about. -/
def key : Mutation → DocumentKey
  | .setMutation key _ => key
  | .deleteMutation key => key

/-- The document after the server has accepted the mutation. -/
def applyToRemoteDocument (m : Mutation) (d : MutableDocument) (version : SnapshotVersion) :
    MutableDocument :=
  match m with
  | .setMutation _ value => (d.convertToFoundDocument version value).setHasCommittedMutations
  | .deleteMutation _ => (d.convertToNoDocument version).setHasCommittedMutations

/-- The document as this device shows it before the server has answered. -/
def applyToLocalView (m : Mutation) (d : MutableDocument) (_previousMask : Option FieldMask) :
    MutableDocument × Option FieldMask :=
  match m with
  | .setMutation _ value =>
    ((d.convertToFoundDocument d.version value).setHasLocalMutations, none)
  | .deleteMutation _ => ((d.convertToNoDocument 0).setHasLocalMutations, none)

/-- One mutation that takes the cached document to this local view of it. -/
def calculateOverlayMutation (d : MutableDocument) (mask : Option FieldMask) : Option Mutation :=
  if !d.hasLocalMutations || mask == some .empty then none
  else if d.isNoDocument then some (.deleteMutation d.key)
  else some (.setMutation d.key d.value)

/-- What a mutation makes of a document does not depend on the document but for its key. -/
lemma applyToLocalView_eq {m : Mutation} {d d' : MutableDocument} {mask mask' : Option FieldMask}
    (e : d.key = d'.key) : m.applyToLocalView d mask = m.applyToLocalView d' mask' := by
  cases d
  cases d'
  cases e
  cases m <;> rfl

/-- A mutation leaves the key. -/
@[simp] lemma key_applyToLocalView {m : Mutation} {d : MutableDocument} {mask : Option FieldMask} :
    (m.applyToLocalView d mask).1.key = d.key := by
  cases m <;> rfl

/-- After a set or a delete no field mask is left: the whole document is overwritten. -/
@[simp] lemma mask_applyToLocalView {m : Mutation} {d : MutableDocument}
    {mask : Option FieldMask} : (m.applyToLocalView d mask).2 = none := by
  cases m <;> rfl

/-- A mutation marks the document as written here. -/
@[simp] lemma hasLocalMutations_applyToLocalView {m : Mutation} {d : MutableDocument}
    {mask : Option FieldMask} : (m.applyToLocalView d mask).1.hasLocalMutations = true := by
  cases m <;> rfl

/-- After a mutation the document is known. -/
@[simp] lemma isValidDocument_applyToLocalView {m : Mutation} {d : MutableDocument}
    {mask : Option FieldMask} : (m.applyToLocalView d mask).1.isValidDocument = true := by
  cases m <;> rfl

/-- The overlay of a document that a mutation has been applied to is that mutation. -/
lemma calculateOverlayMutation_applyToLocalView {m : Mutation} {d : MutableDocument}
    {mask : Option FieldMask} (e : d.key = m.key) :
    calculateOverlayMutation (m.applyToLocalView d mask).1 none = some m := by
  cases m with
  | setMutation key value => cases e; rfl
  | deleteMutation key => cases e; rfl

/-- An acknowledged mutation leaves the key. -/
@[simp] lemma key_applyToRemoteDocument {m : Mutation} {d : MutableDocument}
    {version : SnapshotVersion} : (m.applyToRemoteDocument d version).key = d.key := by
  cases m <;> rfl

end Mutation

/-- The mutations of one write, in order. -/
structure MutationBatch where
  batchId : BatchId
  mutations : List Mutation
  deriving DecidableEq

namespace MutationBatch

/-- The keys the batch writes. -/
def keys (b : MutationBatch) : List DocumentKey :=
  (b.mutations.map Mutation.key).dedup

/-- The keys of a batch are those of its mutations. -/
lemma mem_keys {b : MutationBatch} {k : DocumentKey} : k ∈ b.keys ↔ ∃ m ∈ b.mutations, m.key = k := by
  rw [keys, List.mem_dedup, List.mem_map]

/-- The document after the server has accepted the batch, with the version of each mutation. -/
def applyToRemoteDocument (b : MutationBatch) (d : MutableDocument)
    (mutationResults : List SnapshotVersion) : Option MutableDocument :=
  if mutationResults.length = b.mutations.length then
    some <| (b.mutations.zip mutationResults).foldl
      (fun d mr => if mr.1.key = d.key then mr.1.applyToRemoteDocument d mr.2 else d) d
  else none

/-- The document as this device shows it before the server has answered the batch. -/
def applyToLocalView (b : MutationBatch) (d : MutableDocument) (mutatedFields : Option FieldMask) :
    MutableDocument × Option FieldMask :=
  b.mutations.foldl
    (fun dm m => if m.key = dm.1.key then m.applyToLocalView dm.1 dm.2 else dm) (d, mutatedFields)

/-- The mutations of the batch that write a document. -/
def affecting (b : MutationBatch) (k : DocumentKey) : List Mutation :=
  b.mutations.filter fun m => m.key = k

/-- The local view of a document is that of the last mutation of the batch that writes it. -/
lemma applyToLocalView_eq {b : MutationBatch} {d : MutableDocument} {mask : Option FieldMask} :
    b.applyToLocalView d mask =
      ((b.affecting d.key).getLast?.map fun m => m.applyToLocalView d mask).getD (d, mask) := by
  rw [applyToLocalView, affecting]
  generalize b.mutations = ms
  induction ms using List.reverseRecOn with
  | nil => rfl
  | append_singleton ms m ih =>
    rw [List.foldl_append, ih, List.filter_append]
    have k : (((ms.filter fun m => m.key = d.key).getLast?.map
        fun m => m.applyToLocalView d mask).getD (d, mask)).1.key = d.key := by
      cases (ms.filter fun m => m.key = d.key).getLast? with
      | none => rfl
      | some m' =>
        change (m'.applyToLocalView d mask).1.key = d.key
        exact Mutation.key_applyToLocalView
    rw [List.foldl_cons, List.foldl_nil, k]
    by_cases e : m.key = d.key
    · rw [if_pos e, List.filter_cons_of_pos (by simpa using e), List.filter_nil,
        List.getLast?_concat]
      change m.applyToLocalView _ _ = m.applyToLocalView d mask
      exact Mutation.applyToLocalView_eq k
    · rw [if_neg e, List.filter_cons_of_neg (by simpa using e), List.filter_nil, List.append_nil]

/-- A batch leaves the key. -/
@[simp] lemma key_applyToLocalView {b : MutationBatch} {d : MutableDocument}
    {mask : Option FieldMask} : (b.applyToLocalView d mask).1.key = d.key := by
  rw [applyToLocalView_eq]
  cases (b.affecting d.key).getLast? with
  | none => rfl
  | some m =>
    change (m.applyToLocalView d mask).1.key = d.key
    exact Mutation.key_applyToLocalView

/-- A batch has no mutation for a document that is not among its keys. -/
lemma affecting_eq_nil {b : MutationBatch} {k : DocumentKey} : b.affecting k = [] ↔ k ∉ b.keys := by
  rw [affecting, List.filter_eq_nil_iff, mem_keys]
  simp

end MutationBatch

end Lumiere.Firestore.Client

import Mathlib.Data.List.AList
import Mathlib.Data.List.Sort

/-!
# Sets kept in the order of a comparator

A list is `Ascending` for a comparator when each element is strictly below all that follow it.
`insertBy` and `eraseBy` put an element into such a list and take it out again, and an ascending
list is determined by its elements (`Ascending.eq_of_mem`): however it has been built, it is what
sorting its elements gives (`Ascending.eq_insertionSort`).

An `IndexedSet` holds at most one item for each key. It keeps the items twice, in a map from keys
and in a list in the order of a comparator for which only items with the same key can be the same
(`KeyedCmp`). That the two agree is part of the structure; what insertion and removal do is
then said by the lookup alone (`get_insert`, `get_erase`).
-/

variable {α : Type*} {cmp : α → α → Ordering}

/-- Each element is strictly below all that follow it. -/
def Ascending (cmp : α → α → Ordering) (l : List α) : Prop :=
  l.Pairwise fun a b => cmp a b = .lt

/-- Puts an element into an ascending list, in the place of the one that is the same. -/
def insertBy (cmp : α → α → Ordering) (a : α) : List α → List α
  | [] => [a]
  | b :: l =>
    match cmp a b with
    | .lt => a :: b :: l
    | .eq => a :: l
    | .gt => b :: insertBy cmp a l

/-- Takes the element that is the same as `a` out of an ascending list. -/
def eraseBy (cmp : α → α → Ordering) (a : α) : List α → List α
  | [] => []
  | b :: l =>
    match cmp a b with
    | .lt => b :: l
    | .eq => l
    | .gt => b :: eraseBy cmp a l

section
variable [Std.TransCmp cmp]

/-- The comparison the other way. -/
lemma cmp_lt_of_gt {a b : α} (h : cmp a b = .gt) : cmp b a = .lt :=
  Std.OrientedCmp.lt_of_gt h

/-- The elements after an insertion into an ascending list. -/
lemma mem_insertBy {a x : α} {l : List α} (as : Ascending cmp l) :
    x ∈ insertBy cmp a l ↔ x = a ∨ x ∈ l ∧ cmp a x ≠ .eq := by
  induction l with
  | nil => simp [insertBy]
  | cons b l ih =>
    obtain ⟨above, as'⟩ := List.pairwise_cons.1 as
    rw [insertBy]
    split
    case h_1 lt =>
      have far : ∀ y ∈ b :: l, cmp a y ≠ .eq := by
        intro y mem
        rcases List.mem_cons.1 mem with rfl | mem
        · rw [lt]; decide
        · rw [Std.TransCmp.lt_trans lt (above y mem)]; decide
      rw [List.mem_cons]
      constructor
      · intro h
        exact h.imp_right fun mem => ⟨mem, far x mem⟩
      · intro h
        exact h.imp_right And.left
    case h_2 eq =>
      have far : ∀ y ∈ l, cmp a y ≠ .eq := by
        intro y mem
        rw [Std.TransCmp.lt_of_eq_of_lt eq (above y mem)]; decide
      rw [List.mem_cons]
      constructor
      · intro h
        exact h.imp_right fun mem => ⟨List.mem_cons_of_mem _ mem, far x mem⟩
      · intro h
        rcases h with rfl | ⟨mem, ne⟩
        · exact .inl rfl
        · rcases List.mem_cons.1 mem with rfl | mem
          · exact absurd eq ne
          · exact .inr mem
    case h_3 gt =>
      rw [List.mem_cons, List.mem_cons, ih as']
      have ne : cmp a b ≠ .eq := by rw [gt]; decide
      constructor
      · intro h
        rcases h with rfl | rfl | ⟨mem, ne'⟩
        · exact .inr ⟨.inl rfl, ne⟩
        · exact .inl rfl
        · exact .inr ⟨.inr mem, ne'⟩
      · intro h
        rcases h with rfl | ⟨rfl | mem, ne'⟩
        · exact .inr (.inl rfl)
        · exact .inl rfl
        · exact .inr (.inr ⟨mem, ne'⟩)

/-- Insertion keeps a list ascending. -/
lemma ascending_insertBy {a : α} {l : List α} (as : Ascending cmp l) :
    Ascending cmp (insertBy cmp a l) := by
  induction l with
  | nil => exact List.pairwise_singleton _ _
  | cons b l ih =>
    obtain ⟨above, as'⟩ := List.pairwise_cons.1 as
    rw [insertBy]
    split
    case h_1 lt =>
      apply List.Pairwise.cons
      · intro y mem
        rcases List.mem_cons.1 mem with rfl | mem
        · exact lt
        · exact Std.TransCmp.lt_trans lt (above y mem)
      · exact as
    case h_2 eq =>
      apply List.Pairwise.cons
      · intro y mem
        exact Std.TransCmp.lt_of_eq_of_lt eq (above y mem)
      · exact as'
    case h_3 gt =>
      apply List.Pairwise.cons
      · intro y mem
        rcases (mem_insertBy as').1 mem with rfl | ⟨mem, _⟩
        · exact cmp_lt_of_gt gt
        · exact above y mem
      · exact ih as'

/-- The elements after a removal from an ascending list. -/
lemma mem_eraseBy {a x : α} {l : List α} (as : Ascending cmp l) :
    x ∈ eraseBy cmp a l ↔ x ∈ l ∧ cmp a x ≠ .eq := by
  induction l with
  | nil => simp [eraseBy]
  | cons b l ih =>
    obtain ⟨above, as'⟩ := List.pairwise_cons.1 as
    rw [eraseBy]
    split
    case h_1 lt =>
      constructor
      · intro mem
        refine ⟨mem, ?_⟩
        rcases List.mem_cons.1 mem with rfl | mem
        · rw [lt]; decide
        · rw [Std.TransCmp.lt_trans lt (above x mem)]; decide
      · exact And.left
    case h_2 eq =>
      constructor
      · intro mem
        refine ⟨List.mem_cons_of_mem _ mem, ?_⟩
        rw [Std.TransCmp.lt_of_eq_of_lt eq (above x mem)]; decide
      · intro h
        rcases List.mem_cons.1 h.1 with rfl | mem
        · exact absurd eq h.2
        · exact mem
    case h_3 gt =>
      rw [List.mem_cons, List.mem_cons, ih as']
      have ne : cmp a b ≠ .eq := by rw [gt]; decide
      constructor
      · intro h
        rcases h with rfl | ⟨mem, ne'⟩
        · exact ⟨.inl rfl, ne⟩
        · exact ⟨.inr mem, ne'⟩
      · intro h
        exact h.1.imp_right fun mem => ⟨mem, h.2⟩

/-- Removal keeps a list ascending. -/
lemma ascending_eraseBy {a : α} {l : List α} (as : Ascending cmp l) :
    Ascending cmp (eraseBy cmp a l) := by
  induction l with
  | nil => exact .nil
  | cons b l ih =>
    obtain ⟨above, as'⟩ := List.pairwise_cons.1 as
    rw [eraseBy]
    split
    case h_1 => exact as
    case h_2 => exact as'
    case h_3 =>
      apply List.Pairwise.cons
      · intro y mem
        exact above y ((mem_eraseBy as').1 mem).1
      · exact ih as'

omit [Std.TransCmp cmp] in
/-- No element stands twice in an ascending list. -/
lemma Ascending.nodup [Std.ReflCmp cmp] {l : List α} (as : Ascending cmp l) : l.Nodup := by
  apply List.Pairwise.imp _ as
  intro a b lt e
  subst e
  have eq : cmp a a = .eq := Std.ReflCmp.compare_self
  rw [eq] at lt
  cases lt

/-- An ascending list is determined by its elements. -/
lemma Ascending.eq_of_mem {l m : List α} (as1 : Ascending cmp l) (as2 : Ascending cmp m)
    (same : ∀ x, x ∈ l ↔ x ∈ m) : l = m := by
  apply List.Perm.eq_of_pairwise _ as1 as2
  · exact (List.perm_ext_iff_of_nodup as1.nodup as2.nodup).2 same
  · intro a b _ _ lt1 lt2
    exact absurd lt2 (Std.OrientedCmp.not_lt_of_lt lt1)

/-- Sorting distinct elements gives an ascending list. -/
lemma ascending_insertionSort {r : α → α → Prop} [DecidableRel r] {m : List α}
    (le : ∀ a b, r a b ↔ cmp a b ≠ .gt) (nd : m.Nodup)
    (law : ∀ x ∈ m, ∀ y ∈ m, cmp x y = .eq → x = y) : Ascending cmp (m.insertionSort r) := by
  have tot : Std.Total r := by
    constructor
    intro a b
    rw [le, le]
    cases e : cmp a b with
    | lt => exact .inl (by decide)
    | eq => exact .inl (by decide)
    | gt => exact .inr (by rw [cmp_lt_of_gt e]; decide)
  have tr : IsTrans α r := by
    constructor
    intro a b c h1 h2
    rw [le] at h1 h2 ⊢
    apply Ordering.isLE_iff_ne_gt.1
    exact Std.TransCmp.isLE_trans (Ordering.isLE_iff_ne_gt.2 h1) (Ordering.isLE_iff_ne_gt.2 h2)
  have sorted := List.pairwise_insertionSort r m
  have perm := List.perm_insertionSort r m
  -- sorted and without repetition: strictly ascending
  apply List.Pairwise.imp_of_mem _ (sorted.and (perm.nodup_iff.2 nd))
  intro a b mem1 mem2 h
  cases e : cmp a b with
  | lt => rfl
  | eq => exact absurd (law a (perm.mem_iff.1 mem1) b (perm.mem_iff.1 mem2) e) h.2
  | gt => exact absurd e ((le a b).1 h.1)

/-- An ascending list is what sorting its elements gives. -/
lemma Ascending.eq_insertionSort {l m : List α} (as : Ascending cmp l) (nd : m.Nodup)
    (law : ∀ x ∈ m, ∀ y ∈ m, cmp x y = .eq → x = y) (same : ∀ x, x ∈ l ↔ x ∈ m) :
    l = m.insertionSort fun a b => cmp a b ≠ .gt := by
  apply as.eq_of_mem (ascending_insertionSort (fun _ _ => Iff.rfl) nd law)
  intro x
  rw [same, (List.perm_insertionSort _ m).mem_iff]

/-- When as many elements are not above a bound, the first ones are not. -/
lemma Ascending.take_not_above {l : List α} {bound : α} (as : Ascending cmp l) {n : Nat}
    (enough : n ≤ (l.filter fun a => cmp a bound != .gt).length) {a : α} (mem : a ∈ l.take n) :
    cmp a bound ≠ .gt := by
  induction l generalizing n with
  | nil =>
    rw [List.take_nil] at mem
    cases mem
  | cons b l ih =>
    obtain ⟨above, as'⟩ := List.pairwise_cons.1 as
    cases n with
    | zero => cases mem
    | succ n =>
      by_cases e : cmp b bound = .gt
      · -- everything that follows is above the bound as well
        have none_ : (b :: l).filter (fun a => cmp a bound != .gt) = [] := by
          rw [List.filter_eq_nil_iff]
          intro c memc
          have gt : cmp c bound = .gt := by
            rcases List.mem_cons.1 memc with rfl | memc
            · exact e
            · exact Std.OrientedCmp.gt_of_lt
                (Std.TransCmp.lt_trans (cmp_lt_of_gt e) (above c memc))
          rw [gt]
          decide
        rw [none_] at enough
        cases enough
      · have keep : (cmp b bound != .gt) = true := bne_iff_ne.2 e
        rw [List.filter_cons, if_pos keep, List.length_cons] at enough
        rw [List.take_succ_cons] at mem
        rcases List.mem_cons.1 mem with rfl | mem
        · exact e
        · exact ih as' (Nat.le_of_succ_le_succ enough) mem

omit [Std.TransCmp cmp] in
/-- Read from its end, an ascending list ascends for the comparator the other way. -/
lemma Ascending.reverse {l : List α} (as : Ascending cmp l) :
    Ascending (fun a b => cmp b a) l.reverse :=
  List.pairwise_reverse.2 as

omit [Std.TransCmp cmp] in
/-- The first elements are below the others. -/
lemma Ascending.lt_of_take_drop {l : List α} (as : Ascending cmp l) {n : Nat} {a b : α}
    (mem1 : a ∈ l.take n) (mem2 : b ∈ l.drop n) : cmp a b = .lt := by
  have as' := as
  rw [← List.take_append_drop n l] at as'
  exact (List.pairwise_append.1 as').2.2 a mem1 b mem2

end

/-! ## Indexed sets -/

variable {κ δ : Type*} {key : δ → κ} {cmp : δ → δ → Ordering}

/-- A comparator for which only items with the same key can be the same. -/
class KeyedCmp (key : δ → κ) (cmp : δ → δ → Ordering) : Prop extends Std.TransCmp cmp where
  key_eq {a b : δ} : cmp a b = .eq → key a = key b

/-- Items with distinct keys, in a map from their keys and in the order of a comparator. -/
structure IndexedSet (key : δ → κ) (cmp : δ → δ → Ordering) where
  index : AList fun _ : κ => δ
  sorted : List δ
  ascending : Ascending cmp sorted
  keyed : ∀ {k d}, ⟨k, d⟩ ∈ index.entries → key d = k
  mem_sorted : ∀ {d}, d ∈ sorted ↔ ⟨key d, d⟩ ∈ index.entries

namespace IndexedSet

/-- The empty set. -/
def empty : IndexedSet key cmp where
  index := ∅
  sorted := []
  ascending := .nil
  keyed := by intro k d mem; cases mem
  mem_sorted := by
    intro d
    constructor
    · intro mem; cases mem
    · intro mem; cases mem

variable [DecidableEq κ]

/-- The item with a key. -/
def get (s : IndexedSet key cmp) (k : κ) : Option δ :=
  s.index.lookup k

/-- Whether the set has an item with a key. -/
def contains (s : IndexedSet key cmp) (k : κ) : Bool :=
  (s.get k).isSome

omit [DecidableEq κ] in
/-- The number of items. -/
def size (s : IndexedSet key cmp) : Nat :=
  s.index.entries.length

/-- An item stands in the map under its own key. -/
lemma key_of_get {s : IndexedSet key cmp} {k d} (e : s.get k = some d) : key d = k :=
  s.keyed (AList.mem_lookup_iff.1 e)

/-- The list has the items of the map. -/
lemma mem_sorted_iff {s : IndexedSet key cmp} {d} : d ∈ s.sorted ↔ s.get (key d) = some d :=
  s.mem_sorted.trans AList.mem_lookup_iff.symm

/-- The items of the list are those some key leads to. -/
lemma mem_sorted_iff_get {s : IndexedSet key cmp} {d} : d ∈ s.sorted ↔ ∃ k, s.get k = some d := by
  constructor
  · intro mem
    exact ⟨_, mem_sorted_iff.1 mem⟩
  · rintro ⟨k, e⟩
    rw [mem_sorted_iff, key_of_get e, e]

/-- The same key, the same item. -/
lemma eq_of_key {s : IndexedSet key cmp} {a b} (mem1 : a ∈ s.sorted) (mem2 : b ∈ s.sorted)
    (e : key a = key b) : a = b := by
  rw [mem_sorted_iff] at mem1 mem2
  rw [e] at mem1
  exact Option.some.inj (mem1.symm.trans mem2)

variable [KeyedCmp key cmp]

/-- Items of a set below each other have different keys. -/
lemma key_ne_of_lt {s : IndexedSet key cmp} {a b} (mem1 : a ∈ s.sorted) (mem2 : b ∈ s.sorted)
    (lt : cmp a b = .lt) : key a ≠ key b := by
  intro e
  have eq : cmp a b = .eq := by
    rw [eq_of_key mem1 mem2 e]
    exact Std.ReflCmp.compare_self
  rw [eq] at lt
  cases lt

/-- Items of a set are the same for the comparator when they have the same key. -/
lemma cmp_eq_iff {s : IndexedSet key cmp} {a b} (mem1 : a ∈ s.sorted) (mem2 : b ∈ s.sorted) :
    cmp a b = .eq ↔ key a = key b := by
  constructor
  · exact KeyedCmp.key_eq
  · intro e
    rw [eq_of_key mem1 mem2 e]
    exact Std.ReflCmp.compare_self

/-- Sets with the same items have the same list. -/
lemma sorted_ext {s t : IndexedSet key cmp} (same : ∀ k, s.get k = t.get k) :
    s.sorted = t.sorted := by
  apply s.ascending.eq_of_mem t.ascending
  intro d
  rw [mem_sorted_iff, mem_sorted_iff, same]

/-- The set without the item with a key. -/
def erase (s : IndexedSet key cmp) (k : κ) : IndexedSet key cmp :=
  match e : s.get k with
  | none => s
  | some d =>
    { index := s.index.erase k
      sorted := eraseBy cmp d s.sorted
      ascending := ascending_eraseBy s.ascending
      keyed := by
        intro k' d' mem
        rw [← AList.mem_lookup_iff] at mem
        by_cases h : k' = k
        · rw [h, AList.lookup_erase] at mem
          cases mem
        · rw [AList.lookup_erase_ne h] at mem
          exact key_of_get mem
      mem_sorted := by
        intro d'
        rw [mem_eraseBy s.ascending, ← AList.mem_lookup_iff, Option.mem_def]
        by_cases h : key d' = k
        · rw [h, AList.lookup_erase]
          constructor
          · rintro ⟨mem, ne⟩
            have mem' := mem_sorted_iff_get.2 ⟨k, e⟩
            exact absurd ((cmp_eq_iff mem' mem).2 ((key_of_get e).trans h.symm)) ne
          · intro h'; cases h'
        · rw [AList.lookup_erase_ne h]
          constructor
          · intro h'
            exact mem_sorted_iff.1 h'.1
          · intro lk
            refine ⟨mem_sorted_iff.2 lk, ?_⟩
            intro eq
            exact h ((KeyedCmp.key_eq eq).symm.trans (key_of_get e)) }

/-- After a removal the key leads nowhere and every other key where it led. -/
lemma get_erase {s : IndexedSet key cmp} {k k' : κ} :
    (s.erase k).get k' = if k' = k then none else s.get k' := by
  rw [erase]
  split
  case h_1 e =>
    split
    case isTrue h => rw [h, e]
    case isFalse => rfl
  case h_2 d e =>
    change (s.index.erase k).lookup k' = _
    split
    case isTrue h => rw [h, AList.lookup_erase]
    case isFalse h => exact AList.lookup_erase_ne h

/-- The set with an item, in the place of the one with its key. -/
def insert (s : IndexedSet key cmp) (d : δ) : IndexedSet key cmp :=
  let removed := s.erase (key d)
  { index := removed.index.insert (key d) d
    sorted := insertBy cmp d removed.sorted
    ascending := ascending_insertBy removed.ascending
    keyed := by
      intro k' d' mem
      rw [← AList.mem_lookup_iff] at mem
      by_cases h : k' = key d
      · rw [h, AList.lookup_insert] at mem
        cases mem
        exact h.symm
      · rw [AList.lookup_insert_ne h] at mem
        exact key_of_get mem
    mem_sorted := by
      intro d'
      have gone : removed.get (key d) = none := get_erase.trans (if_pos rfl)
      rw [mem_insertBy removed.ascending, ← AList.mem_lookup_iff, Option.mem_def]
      by_cases h : key d' = key d
      · rw [h, AList.lookup_insert]
        constructor
        · rintro (rfl | ⟨mem, _⟩)
          · rfl
          · rw [mem_sorted_iff, h, gone] at mem
            cases mem
        · intro e
          cases e
          exact .inl rfl
      · rw [AList.lookup_insert_ne h, mem_sorted_iff]
        constructor
        · rintro (rfl | ⟨lk, _⟩)
          · exact absurd rfl h
          · exact lk
        · intro lk
          exact .inr ⟨lk, fun eq => h (KeyedCmp.key_eq eq).symm⟩ }

/-- After an insertion the key of the item leads to it and every other key where it led. -/
lemma get_insert {s : IndexedSet key cmp} {d : δ} {k : κ} :
    (s.insert d).get k = if k = key d then some d else s.get k := by
  change ((s.erase (key d)).index.insert (key d) d).lookup k = _
  split
  case isTrue h => rw [h, AList.lookup_insert]
  case isFalse h =>
    rw [AList.lookup_insert_ne h]
    exact get_erase.trans (if_neg h)

/-- The keys of the list are those of the map. -/
lemma perm_keys (s : IndexedSet key cmp) : (s.sorted.map key).Perm s.index.keys := by
  apply (List.perm_ext_iff_of_nodup _ s.index.nodupKeys).2
  · intro k
    change _ ↔ k ∈ s.index
    rw [List.mem_map, ← AList.lookup_isSome, Option.isSome_iff_exists]
    constructor
    · rintro ⟨d, mem, e⟩
      exact ⟨d, e ▸ mem_sorted_iff.1 mem⟩
    · rintro ⟨d, e⟩
      exact ⟨d, mem_sorted_iff_get.2 ⟨k, e⟩, key_of_get e⟩
  · apply List.pairwise_map.2
    apply s.ascending.imp_of_mem
    intro a b mem1 mem2 lt
    exact key_ne_of_lt mem1 mem2 lt

/-- The list is as long as the map. -/
lemma length_sorted (s : IndexedSet key cmp) : s.sorted.length = s.size := by
  have h := s.perm_keys.length_eq
  rw [List.length_map] at h
  rw [h, size, AList.keys, List.keys, List.length_map]

/-- Removing an item takes it out of the list and leaves the others in their order. -/
lemma sorted_erase {s : IndexedSet key cmp} {d} {l1 l2 : List δ} (e : s.sorted = l1 ++ d :: l2) :
    (s.erase (key d)).sorted = l1 ++ l2 := by
  have as := s.ascending
  have memd : d ∈ s.sorted := by rw [e]; exact List.mem_append_right _ List.mem_cons_self
  have sub : (l1 ++ l2).Sublist s.sorted := by
    rw [e]
    exact List.Sublist.append_left (List.sublist_cons_self d l2) l1
  apply Ascending.eq_of_mem (s.erase (key d)).ascending (as.sublist sub)
  intro x
  rw [mem_sorted_iff, get_erase]
  have nd := as.nodup
  rw [e, List.nodup_middle, List.nodup_cons] at nd
  split
  case isTrue h =>
    constructor
    · intro h'; cases h'
    · intro mem
      rw [eq_of_key (sub.subset mem) memd h] at mem
      exact absurd mem nd.1
  case isFalse h =>
    rw [← mem_sorted_iff]
    constructor
    · intro mem
      rw [e, List.mem_append, List.mem_cons] at mem
      rcases mem with mem | rfl | mem
      · exact List.mem_append_left _ mem
      · exact absurd rfl h
      · exact List.mem_append_right _ mem
    · exact fun mem => sub.subset mem

/-- Removing the last item of the list drops it from its end. -/
lemma sorted_erase_last {s : IndexedSet key cmp} {d} (last : s.sorted.getLast? = some d) :
    (s.erase (key d)).sorted = s.sorted.dropLast := by
  obtain ⟨l, e⟩ : ∃ l, s.sorted = l ++ [d] := ⟨_, (List.dropLast_append_getLast? d last).symm⟩
  rw [sorted_erase e, e, List.dropLast_concat, List.append_nil]

/-- Removing the first item of the list drops it from its front. -/
lemma sorted_erase_head {s : IndexedSet key cmp} {d l} (e : s.sorted = d :: l) :
    (s.erase (key d)).sorted = l := by
  have e' : s.sorted = [] ++ d :: l := e
  exact sorted_erase e'

/-- Inserting an item whose key is new puts it somewhere into the list. -/
lemma sorted_insert {s : IndexedSet key cmp} {d} (new : s.get (key d) = none) :
    ∃ l1 l2, (s.insert d).sorted = l1 ++ d :: l2 ∧ s.sorted = l1 ++ l2 := by
  have mem : d ∈ (s.insert d).sorted := by
    rw [mem_sorted_iff, get_insert, if_pos rfl]
  obtain ⟨l1, l2, e⟩ := List.append_of_mem mem
  refine ⟨l1, l2, e, ?_⟩
  rw [← sorted_erase e]
  apply sorted_ext
  intro k
  rw [get_erase, get_insert]
  split
  case isTrue h => rw [h, new]
  case isFalse => rfl

/-- Sets whose items look alike look alike in order, when the order depends on the looks. -/
lemma map_sorted_eq {ω : Type*} {s t : IndexedSet key cmp} {f : δ → ω}
    (look : ∀ {a b}, f a = f b → key a = key b)
    (order : ∀ {a a' b b'}, f a = f a' → f b = f b' → cmp a b = cmp a' b')
    (same : ∀ k, (s.get k).map f = (t.get k).map f) : s.sorted.map f = t.sorted.map f := by
  let g (d : δ) : δ := (t.get (key d)).getD d
  have at_ {d : δ} (mem : d ∈ s.sorted) : t.get (key d) = some (g d) ∧ f (g d) = f d := by
    have h := same (key d)
    rw [mem_sorted_iff.1 mem] at h
    cases e : t.get (key d) with
    | none =>
      rw [e] at h
      cases h
    | some d' =>
      rw [e] at h
      have eg : g d = d' := by
        change (t.get (key d)).getD d = d'
        rw [e]
        rfl
      rw [eg]
      exact ⟨rfl, (Option.some.inj h).symm⟩
  have eq : s.sorted.map g = t.sorted := by
    apply Ascending.eq_of_mem _ t.ascending
    · intro x
      rw [List.mem_map]
      constructor
      · rintro ⟨d, mem, rfl⟩
        exact mem_sorted_iff_get.2 ⟨_, (at_ mem).1⟩
      · intro mem
        have h := same (key x)
        rw [mem_sorted_iff.1 mem] at h
        obtain ⟨d, ed, ef⟩ := Option.map_eq_some_iff.1 h
        have memd : d ∈ s.sorted := mem_sorted_iff_get.2 ⟨_, ed⟩
        refine ⟨d, memd, ?_⟩
        have h' := (at_ memd).1
        rw [look ef, mem_sorted_iff.1 mem] at h'
        exact (Option.some.inj h').symm
    · apply List.pairwise_map.2
      apply s.ascending.imp_of_mem
      intro a b mem1 mem2 lt
      rw [order (at_ mem1).2 (at_ mem2).2, lt]
  rw [← eq, List.map_map]
  apply List.map_congr_left
  intro d mem
  exact (at_ mem).2.symm

/-- The place of a key in the list. -/
def indexOf (s : IndexedSet key cmp) (k : κ) : Option Nat :=
  if s.contains k then some (s.sorted.findIdx fun d => key d = k) else none

/-- The index of an element is the number of those before it. -/
lemma indexOf_eq {s : IndexedSet key cmp} {d} {l1 l2 : List δ} (e : s.sorted = l1 ++ d :: l2) :
    s.indexOf (key d) = some l1.length := by
  have memd : d ∈ s.sorted := by rw [e]; exact List.mem_append_right _ List.mem_cons_self
  have nd := s.ascending.nodup
  rw [indexOf, contains, mem_sorted_iff.1 memd, Option.isSome_some, if_pos rfl]
  rw [e, List.nodup_middle, List.nodup_cons] at nd
  congr 1
  rw [e, List.findIdx_append]
  have no : ∀ x ∈ l1, ¬ key x = key d := by
    intro x mem h
    have memx : x ∈ s.sorted := by rw [e]; exact List.mem_append_left _ mem
    rw [eq_of_key memx memd h] at mem
    exact nd.1 (List.mem_append_left _ mem)
  rw [if_neg, List.findIdx_cons]
  · simp
  · rw [List.findIdx_lt_length]
    rintro ⟨x, mem, h⟩
    exact no x mem (of_decide_eq_true h)

end IndexedSet

import Lumiere.Base.SortedSet

/-!
# Tables of a sorted key-value database

A table has rows with distinct keys, in the order of the keys. It is written by `put` and `delete`,
read by `get`, and read in order by a scan: from the first row that is not below a position, as long
as the rows meet a condition. When the rows that meet it stand together, a scan returns all of them
and no others (`mem_scan`). A loop over some keys that fills a table, and a loop over a table that
fills another, are `collect` and `filterMap`; what they leave under a key is `get_collect` and
`get_filterMap`.
-/

section
variable {α : Type*} {cmp : α → α → Ordering} {l : List α}

/-- What is left of an ascending list from the first element that is not below a position. -/
lemma mem_dropWhile {below : α → Bool} {x : α} (as : Ascending cmp l)
    (down : ∀ {a b}, cmp a b = .lt → below b → below a) :
    x ∈ l.dropWhile below ↔ x ∈ l ∧ below x = false := by
  induction l with
  | nil => simp
  | cons a l ih =>
    obtain ⟨above, as'⟩ := List.pairwise_cons.1 as
    rw [List.dropWhile_cons]
    split
    case isTrue h =>
      rw [ih as', List.mem_cons]
      constructor
      · intro h'
        exact ⟨.inr h'.1, h'.2⟩
      · rintro ⟨rfl | mem, nb⟩
        · rw [h] at nb
          cases nb
        · exact ⟨mem, nb⟩
    case isFalse h =>
      constructor
      · intro mem
        refine ⟨mem, ?_⟩
        rcases List.mem_cons.1 mem with rfl | mem
        · exact Bool.eq_false_iff.2 h
        · exact Bool.eq_false_iff.2 fun hb => h (down (above x mem) hb)
      · exact And.left

/-- The elements of an ascending list up to the first that does not meet a condition. -/
lemma mem_takeWhile {p : α → Bool} {x : α} (as : Ascending cmp l)
    (down : ∀ {a b}, a ∈ l → cmp a b = .lt → p b → p a) :
    x ∈ l.takeWhile p ↔ x ∈ l ∧ p x = true := by
  induction l with
  | nil => simp
  | cons a l ih =>
    obtain ⟨above, as'⟩ := List.pairwise_cons.1 as
    rw [List.takeWhile_cons]
    split
    case isTrue h =>
      rw [List.mem_cons, ih as' fun mem => down (List.mem_cons_of_mem _ mem), List.mem_cons]
      constructor
      · rintro (rfl | ⟨mem, px⟩)
        · exact ⟨.inl rfl, h⟩
        · exact ⟨.inr mem, px⟩
      · rintro ⟨rfl | mem, px⟩
        · exact .inl rfl
        · exact .inr ⟨mem, px⟩
    case isFalse h =>
      constructor
      · intro mem
        cases mem
      · rintro ⟨mem, px⟩
        rcases List.mem_cons.1 mem with rfl | mem
        · exact absurd px h
        · exact absurd (down List.mem_cons_self (above x mem) px) h

end

/-- Rows with distinct keys, in the order of the keys. -/
structure SortedTable (κ υ : Type*) [Ord κ] where
  rows : List (κ × υ)
  ascending : Ascending (compareOn Prod.fst) rows

namespace SortedTable

variable {κ υ : Type*} [Ord κ]

/-- The table without rows. -/
def empty : SortedTable κ υ where
  rows := []
  ascending := .nil

/-- The value of the row with a key. -/
def get (t : SortedTable κ υ) (k : κ) : Option υ :=
  (t.rows.find? fun r => compare r.1 k == .eq).map Prod.snd

/-- Whether there is a row with a key. -/
def contains (t : SortedTable κ υ) (k : κ) : Bool :=
  (t.get k).isSome

/-- The rows from the first that is not below a position, as long as they meet a condition. -/
def scan (t : SortedTable κ υ) (below while_ : κ → Bool) : List (κ × υ) :=
  (t.rows.dropWhile fun r => below r.1).takeWhile fun r => while_ r.1

/-- A scan returns the rows from its position on that meet the condition, when these stand
    together. -/
lemma mem_scan {t : SortedTable κ υ} {below while_ : κ → Bool} {r : κ × υ}
    (down : ∀ {a b}, compare a b = .lt → below b → below a)
    (together : ∀ {a b}, compare a b = .lt → below a = false → while_ b → while_ a) :
    r ∈ t.scan below while_ ↔ r ∈ t.rows ∧ below r.1 = false ∧ while_ r.1 = true := by
  have mem {x : κ × υ} : x ∈ t.rows.dropWhile (fun r => below r.1) ↔
      x ∈ t.rows ∧ below x.1 = false :=
    mem_dropWhile t.ascending down
  have sub := List.dropWhile_sublist (l := t.rows) fun r => below r.1
  rw [scan, mem_takeWhile (List.Pairwise.sublist sub t.ascending), mem, and_assoc]
  intro a b mem' lt h
  exact together lt (mem.1 mem').2 h

/-- The table without the row with a key. -/
def delete (t : SortedTable κ υ) (k : κ) : SortedTable κ υ where
  rows := t.rows.filter fun r => compare r.1 k != .eq
  ascending := t.ascending.sublist List.filter_sublist

variable [Std.LawfulEqOrd κ]

/-- A row is found under its key. -/
lemma get_eq_some {t : SortedTable κ υ} {k : κ} {v : υ} : t.get k = some v ↔ (k, v) ∈ t.rows := by
  have as := t.ascending
  rw [get]
  generalize t.rows = l at as
  induction l with
  | nil => simp
  | cons r l ih =>
    obtain ⟨above, as'⟩ := List.pairwise_cons.1 as
    rw [List.find?_cons]
    split
    case h_1 h =>
      have e : r.1 = k := Std.LawfulEqOrd.eq_of_compare (beq_iff_eq.1 h)
      rw [Option.map_some, List.mem_cons]
      constructor
      · intro h'
        cases h'
        exact .inl (by rw [← e])
      · rintro (rfl | mem)
        · rfl
        · have lt : compare r.1 k = .lt := above _ mem
          rw [beq_iff_eq.1 h] at lt
          cases lt
    case h_2 h =>
      apply (ih as').trans
      rw [List.mem_cons]
      constructor
      · exact .inr
      · rintro (rfl | mem)
        · rw [Std.ReflOrd.compare_self] at h
          cases h
        · exact mem

/-- A key without a row. -/
lemma get_eq_none {t : SortedTable κ υ} {k : κ} : t.get k = none ↔ ∀ v, (k, v) ∉ t.rows := by
  constructor
  · intro e v mem
    rw [get_eq_some.2 mem] at e
    cases e
  · intro no
    cases e : t.get k with
    | none => rfl
    | some v => exact absurd (get_eq_some.1 e) (no v)

omit [Std.LawfulEqOrd κ] in
/-- The empty table has no row. -/
@[simp] lemma get_empty {k : κ} : (empty : SortedTable κ υ).get k = none :=
  rfl

/-- Two lookups agree when they find the same rows. -/
lemma get_congr {t u : SortedTable κ υ} {k : κ} (h : ∀ v, (k, v) ∈ t.rows ↔ (k, v) ∈ u.rows) :
    t.get k = u.get k := by
  apply Option.ext
  intro v
  rw [get_eq_some, get_eq_some, h]

section
variable {ι : Type*} [Ord ι] [Std.TransOrd ι] [Std.LawfulEqOrd ι]

omit [Std.LawfulEqOrd κ] [Std.TransOrd ι] [Std.LawfulEqOrd ι] in
/-- The rows whose keys begin with `p`. -/
def scanOn (t : SortedTable κ υ) (f : κ → ι) (p : ι) : List (κ × υ) :=
  t.scan (fun a => compare (f a) p == .lt) fun a => compare (f a) p == .eq

/-- When keys are ordered first by what they begin with, the rows beginning with `p` are found by
    seeking the first of them. -/
lemma mem_scanOn {t : SortedTable κ υ} {f : κ → ι} {p : ι} {k : κ} {v : υ}
    (mono : ∀ {a b}, compare a b = .lt → (compare (f a) (f b)).isLE) :
    (k, v) ∈ t.scanOn f p ↔ t.get k = some v ∧ f k = p := by
  rw [scanOn, mem_scan, beq_iff_eq, Std.LawfulEqOrd.compare_eq_iff_eq, get_eq_some]
  · constructor
    · intro h
      exact ⟨h.1, h.2.2⟩
    · rintro ⟨mem, rfl⟩
      refine ⟨mem, ?_, rfl⟩
      rw [Std.ReflOrd.compare_self]
      rfl
  · intro a b lt h
    rw [beq_iff_eq] at h ⊢
    exact Std.TransCmp.lt_of_isLE_of_lt (mono lt) h
  · intro a b lt h e
    rw [beq_iff_eq] at e ⊢
    have le := mono lt
    rw [Std.LawfulEqOrd.eq_of_compare e] at le
    cases c : compare (f a) p with
    | lt => rw [c] at h; cases h
    | eq => rfl
    | gt => rw [c] at le; cases le

end

variable [Std.TransOrd κ]

omit [Std.LawfulEqOrd κ] in
/-- A row with a key above all others is put at the end. -/
lemma insertBy_above {l : List (κ × υ)} {k : κ} {v : υ} (above : ∀ r ∈ l, compare r.1 k = .lt) :
    insertBy (compareOn Prod.fst) (k, v) l = l ++ [(k, v)] := by
  induction l with
  | nil => rfl
  | cons r l ih =>
    have gt : compareOn Prod.fst (k, v) r = .gt :=
      Std.OrientedCmp.gt_of_lt (above r List.mem_cons_self)
    rw [insertBy, gt, List.cons_append, ← ih fun r mem => above r (List.mem_cons_of_mem _ mem)]

/-- The table with a row, in the place of the one with its key. -/
def put (t : SortedTable κ υ) (k : κ) (v : υ) : SortedTable κ υ where
  rows := insertBy (compareOn Prod.fst) (k, v) t.rows
  ascending := ascending_insertBy t.ascending

variable [DecidableEq κ]

/-- After `put` its key leads to its value and every other key where it led. -/
lemma get_put {t : SortedTable κ υ} {k k' : κ} {v : υ} :
    (t.put k v).get k' = if k' = k then some v else t.get k' := by
  have mem (v' : υ) : (k', v') ∈ (t.put k v).rows ↔
      (k', v') = (k, v) ∨ (k', v') ∈ t.rows ∧ compare k k' ≠ .eq :=
    mem_insertBy t.ascending
  split
  case isTrue h =>
    subst h
    exact get_eq_some.2 ((mem v).2 (.inl rfl))
  case isFalse h =>
    apply get_congr
    intro v'
    rw [mem]
    constructor
    · rintro (e | h')
      · cases e
        exact absurd rfl h
      · exact h'.1
    · intro mem'
      refine .inr ⟨mem', ?_⟩
      intro e
      exact h (Std.LawfulEqOrd.eq_of_compare e).symm

omit [Std.TransOrd κ] in
/-- After `delete` its key leads nowhere and every other key where it led. -/
lemma get_delete {t : SortedTable κ υ} {k k' : κ} :
    (t.delete k).get k' = if k' = k then none else t.get k' := by
  split
  case isTrue h =>
    subst h
    apply get_eq_none.2
    intro v mem
    have h := (List.mem_filter.1 mem).2
    rw [Std.ReflOrd.compare_self] at h
    cases h
  case isFalse h =>
    apply get_congr
    intro v'
    change _ ∈ t.rows.filter _ ↔ _
    rw [List.mem_filter]
    constructor
    · exact And.left
    · intro mem
      refine ⟨mem, ?_⟩
      rw [bne_iff_ne]
      intro e
      exact h (Std.LawfulEqOrd.eq_of_compare e)

/-- The table of the values that some keys have. -/
def collect (f : κ → Option υ) (ks : List κ) : SortedTable κ υ :=
  ks.foldl (fun t k => (f k).elim t (t.put k)) empty

/-- What has been collected for some keys into a table. -/
lemma get_foldl_collect {f : κ → Option υ} {ks : List κ} {t : SortedTable κ υ} {k : κ} :
    (ks.foldl (fun t k => (f k).elim t (t.put k)) t).get k =
      if k ∈ ks then (f k).or (t.get k) else t.get k := by
  induction ks generalizing t with
  | nil => rfl
  | cons k' ks ih =>
    rw [List.foldl_cons, ih]
    have h : ((f k').elim t (t.put k')).get k =
        if k = k' then (f k).or (t.get k) else t.get k := by
      cases e : f k' with
      | none =>
        split
        case isTrue h =>
          rw [h, e]
          rfl
        case isFalse => rfl
      | some v =>
        change (t.put k' v).get k = _
        rw [get_put]
        split
        case isTrue h =>
          rw [h, e]
          rfl
        case isFalse => rfl
    rw [h]
    by_cases e : k = k'
    · subst e
      cases f k with
      | none => simp
      | some v => simp
    · simp [e]

/-- A key leads to the value it has when it is among the keys. -/
lemma get_collect {f : κ → Option υ} {ks : List κ} {k : κ} :
    (collect f ks).get k = if k ∈ ks then f k else none := by
  rw [collect, get_foldl_collect, get_empty, Option.or_none]

omit [Std.LawfulEqOrd κ] [Std.TransOrd κ] [DecidableEq κ] in
/-- Taking rows away keeps a table ascending. -/
lemma ascending_filterMap {ω : Type*} {f : κ → υ → Option ω} {l : List (κ × υ)}
    (as : Ascending (compareOn Prod.fst) l) :
    Ascending (compareOn Prod.fst) (l.filterMap fun r => (f r.1 r.2).map (r.1, ·)) := by
  apply List.Pairwise.filterMap _ _ as
  intro a b lt a' ea b' eb
  obtain ⟨_, _, rfl⟩ := Option.map_eq_some_iff.1 ea
  obtain ⟨_, _, rfl⟩ := Option.map_eq_some_iff.1 eb
  exact lt

/-- The table of what is made of the rows of a table. -/
def filterMap {ω : Type*} (t : SortedTable κ υ) (f : κ → υ → Option ω) : SortedTable κ ω where
  rows := t.rows.filterMap fun r => (f r.1 r.2).map (r.1, ·)
  ascending := ascending_filterMap t.ascending

omit [Std.TransOrd κ] [DecidableEq κ] in
/-- The rows that a function keeps, with what it makes of them. -/
lemma get_filterMap {ω : Type*} {t : SortedTable κ υ} {f : κ → υ → Option ω} {k : κ} :
    (t.filterMap f).get k = (t.get k).bind (f k) := by
  apply Option.ext
  intro w
  rw [get_eq_some, filterMap, List.mem_filterMap, Option.bind_eq_some_iff]
  constructor
  · rintro ⟨⟨k', v⟩, mem, e⟩
    obtain ⟨w', ew, e'⟩ := Option.map_eq_some_iff.1 e
    cases e'
    exact ⟨v, get_eq_some.2 mem, ew⟩
  · rintro ⟨v, e, ew⟩
    exact ⟨(k, v), get_eq_some.1 e, by rw [ew]; rfl⟩

omit [Std.TransOrd κ] [DecidableEq κ] in
/-- A key is among the keys of the rows when it leads to a value. -/
lemma mem_keys {t : SortedTable κ υ} {k : κ} :
    k ∈ t.rows.map Prod.fst ↔ ∃ v, t.get k = some v := by
  rw [List.mem_map]
  constructor
  · rintro ⟨⟨k', v⟩, mem, rfl⟩
    exact ⟨v, get_eq_some.2 mem⟩
  · rintro ⟨v, e⟩
    exact ⟨(k, v), get_eq_some.1 e, rfl⟩

omit [DecidableEq κ] [Std.LawfulEqOrd κ] in
/-- No two rows have the same key. -/
lemma distinct_rows (t : SortedTable κ υ) : t.rows.Pairwise fun a b => a.1 ≠ b.1 := by
  apply t.ascending.imp
  intro a b lt e
  have lt' : compare a.1 b.1 = .lt := lt
  rw [e, Std.ReflOrd.compare_self] at lt'
  cases lt'

/-- The table with the rows of another one on top. -/
def putAll (t u : SortedTable κ υ) : SortedTable κ υ :=
  u.rows.foldl (fun t r => t.put r.1 r.2) t

/-- The rows of another table take the place of those of the same key. -/
lemma get_putAll {t u : SortedTable κ υ} {k : κ} :
    (t.putAll u).get k = (u.get k).or (t.get k) := by
  have rows : ∀ (l : List (κ × υ)) (t : SortedTable κ υ), l.Pairwise (fun a b => a.1 ≠ b.1) →
      (∀ v, (k, v) ∈ l → (l.foldl (fun t r => t.put r.1 r.2) t).get k = some v) ∧
      ((∀ v, (k, v) ∉ l) → (l.foldl (fun t r => t.put r.1 r.2) t).get k = t.get k) := by
    intro l
    induction l with
    | nil => exact fun t _ => ⟨(fun v mem => by cases mem), fun _ => rfl⟩
    | cons r l ih =>
      intro t distinct
      rw [List.pairwise_cons] at distinct
      obtain ⟨found, missed⟩ := ih (t.put r.1 r.2) distinct.2
      constructor
      · intro v mem
        rcases List.mem_cons.1 mem with rfl | mem
        · rw [List.foldl_cons, missed, get_put, if_pos rfl]
          intro v' mem'
          exact distinct.1 _ mem' rfl
        · exact found v mem
      · intro no
        rw [List.foldl_cons, missed fun v mem => no v (List.mem_cons_of_mem _ mem), get_put, if_neg]
        intro e
        exact no r.2 (e ▸ List.mem_cons_self)
  obtain ⟨found, missed⟩ := rows u.rows t u.distinct_rows
  cases e : u.get k with
  | some v => exact found v (get_eq_some.1 e)
  | none => exact missed (get_eq_none.1 e)

omit [Std.TransOrd κ] [DecidableEq κ] in
/-- The keys are those that the table contains. -/
lemma mem_keys_iff_contains {t : SortedTable κ υ} {k : κ} :
    k ∈ t.rows.map Prod.fst ↔ t.contains k = true := by
  rw [mem_keys, contains, Option.isSome_iff_exists]

omit [Std.LawfulEqOrd κ] [Std.TransOrd κ] [DecidableEq κ] in
/-- A key that the table does not contain. -/
lemma contains_eq_false {t : SortedTable κ υ} {k : κ} : t.contains k = false ↔ t.get k = none := by
  rw [contains, Option.isSome_eq_false_iff, Option.isNone_iff_eq_none]

omit [Std.LawfulEqOrd κ] [DecidableEq κ] in
/-- No key is there twice. -/
lemma nodup_keys (t : SortedTable κ υ) : (t.rows.map Prod.fst).Nodup :=
  List.pairwise_map.2 t.distinct_rows

/-- A new key makes one row more. -/
lemma length_put {t : SortedTable κ υ} {k : κ} {v : υ} (new : t.get k = none) :
    (t.put k v).rows.length = t.rows.length + 1 := by
  have perm : ((t.put k v).rows.map Prod.fst).Perm (k :: t.rows.map Prod.fst) := by
    rw [List.perm_ext_iff_of_nodup (nodup_keys _)]
    · intro k'
      rw [mem_keys, List.mem_cons, mem_keys, get_put]
      by_cases e : k' = k
      · simp [e]
      · simp [e]
    · refine List.nodup_cons.2 ⟨?_, nodup_keys t⟩
      rw [mem_keys, new]
      rintro ⟨v', e⟩
      cases e
  have h := perm.length_eq
  rw [List.length_map, List.length_cons, List.length_map] at h
  exact h

/-- A key taken out makes one row less. -/
lemma length_delete {t : SortedTable κ υ} {k : κ} (there : t.contains k = true) :
    (t.delete k).rows.length + 1 = t.rows.length := by
  have perm : (t.rows.map Prod.fst).Perm (k :: (t.delete k).rows.map Prod.fst) := by
    rw [List.perm_ext_iff_of_nodup (nodup_keys _)]
    · intro k'
      rw [List.mem_cons, mem_keys_iff_contains, mem_keys_iff_contains, contains, contains,
        get_delete]
      by_cases e : k' = k
      · rw [e, ← contains]
        simp [there]
      · simp [e]
    · refine List.nodup_cons.2 ⟨?_, nodup_keys _⟩
      rw [mem_keys, get_delete, if_pos rfl]
      rintro ⟨v', e⟩
      cases e
  have h := perm.length_eq
  rw [List.length_map, List.length_cons, List.length_map] at h
  exact h.symm

/-- A loop over the rows that may fail. It makes a new value of each row and carries a state along. -/
def traverse {ω σ : Type*} (t : SortedTable κ υ) (f : σ → κ → υ → Option (ω × σ)) (s : σ) :
    Option (SortedTable κ ω × σ) :=
  t.rows.foldlM (fun (r : SortedTable κ ω × σ) row =>
    (f r.2 row.1 row.2).map fun w => (r.1.put row.1 w.1, w.2)) (empty, s)

omit [Std.LawfulEqOrd κ] [DecidableEq κ] in
/-- What every row keeps of the state holds in the end. -/
lemma traverse_state {ω σ : Type*} {t : SortedTable κ υ} {f : σ → κ → υ → Option (ω × σ)}
    {P : σ → Prop} (step : ∀ {s k v w s'}, f s k v = some (w, s') → P s → P s')
    {s s' : σ} {u : SortedTable κ ω} (e : t.traverse f s = some (u, s')) (h : P s) : P s' := by
  have rows : ∀ (l : List (κ × υ)) (r : SortedTable κ ω × σ), P r.2 →
      l.foldlM (fun (r : SortedTable κ ω × σ) row =>
        (f r.2 row.1 row.2).map fun w => (r.1.put row.1 w.1, w.2)) r = some (u, s') → P s' := by
    intro l
    induction l with
    | nil =>
      intro r h e
      cases e
      exact h
    | cons row l ih =>
      intro r h e
      rw [List.foldlM_cons] at e
      obtain ⟨r1, e1, e2⟩ := Option.bind_eq_some_iff.1 e
      obtain ⟨⟨w, s1⟩, ew, er⟩ := Option.map_eq_some_iff.1 e1
      rw [← er] at e2
      exact ih _ (step ew h) e2
  exact rows t.rows (empty, s) h e

/-- What holds of the rows made so far and the state, and is kept by every row, holds in the end, when
    all rows have been made. -/
lemma traverse_rule {ω σ : Type*} {t : SortedTable κ υ} {f : σ → κ → υ → Option (ω × σ)} {s : σ}
    (I : SortedTable κ ω → σ → Prop) (init : I empty s)
    (step : ∀ {u s k v}, I u s → t.get k = some v → u.get k = none →
      ∃ w s', f s k v = some (w, s') ∧ I (u.put k w) s') :
    ∃ u s', t.traverse f s = some (u, s') ∧ I u s' ∧ ∀ k, u.contains k = t.contains k := by
  have rows : ∀ (l : List (κ × υ)) (u : SortedTable κ ω) (s : σ), I u s →
      l.Pairwise (fun a b => a.1 ≠ b.1) → (∀ r ∈ l, t.get r.1 = some r.2 ∧ u.get r.1 = none) →
      ∃ u' s', l.foldlM (fun (r : SortedTable κ ω × σ) row =>
          (f r.2 row.1 row.2).map fun w => (r.1.put row.1 w.1, w.2)) (u, s) = some (u', s') ∧
        I u' s' ∧ ∀ k, u'.contains k = (u.contains k || decide (k ∈ l.map Prod.fst)) := by
    intro l
    induction l with
    | nil => exact fun u s h _ _ => ⟨u, s, rfl, h, fun k => by simp⟩
    | cons r l ih =>
      intro u s h distinct new
      rw [List.pairwise_cons] at distinct
      obtain ⟨here, fresh⟩ := new r List.mem_cons_self
      obtain ⟨w, s1, e1, h1⟩ := step h here fresh
      obtain ⟨u2, s2, e2, h2, keys⟩ := ih (u.put r.1 w) s1 h1 distinct.2 (by
        intro r' mem
        obtain ⟨here', fresh'⟩ := new r' (List.mem_cons_of_mem _ mem)
        exact ⟨here', by rw [get_put, if_neg (distinct.1 r' mem).symm, fresh']⟩)
      refine ⟨u2, s2, ?_, h2, ?_⟩
      · rw [List.foldlM_cons, e1]
        exact e2
      · intro k
        rw [keys, contains, contains, get_put, List.map_cons]
        by_cases e : k = r.1
        · rw [if_pos e, decide_eq_true (p := k ∈ r.1 :: _) (List.mem_cons.2 (.inl e)), Bool.or_true]
          rfl
        · have mem : (k ∈ r.1 :: l.map Prod.fst) ↔ k ∈ l.map Prod.fst :=
            List.mem_cons.trans (or_iff_right e)
          rw [if_neg e, decide_eq_decide.2 mem]
  obtain ⟨u, s', e, h, keys⟩ := rows t.rows empty s init t.distinct_rows fun r mem =>
    ⟨get_eq_some.2 mem, rfl⟩
  refine ⟨u, s', e, h, ?_⟩
  intro k
  rw [keys, Bool.eq_iff_iff, Bool.or_eq_true, decide_eq_true_eq, mem_keys_iff_contains]
  exact or_iff_right fun no => by cases no

end SortedTable

/-! ## Keys of two parts -/

/-- A key with two parts, in the order of the first and then of the second. -/
structure RowKey (α β : Type*) where
  first : α
  second : β
  deriving DecidableEq

namespace RowKey

variable {α β : Type*} [Ord α] [Ord β]

instance : Ord (RowKey α β) where
  compare := compareLex (compareOn first) (compareOn second)

instance [Std.TransOrd α] [Std.TransOrd β] : Std.TransOrd (RowKey α β) :=
  inferInstanceAs (Std.TransCmp (compareLex (compareOn first) (compareOn second)))

instance [Std.TransOrd α] [Std.TransOrd β] [Std.LawfulEqOrd α] [Std.LawfulEqOrd β] :
    Std.LawfulEqOrd (RowKey α β) where
  compare_self := Std.ReflOrd.compare_self
  eq_of_compare := by
    intro a b e
    obtain ⟨e1, e2⟩ := Ordering.then_eq_eq.1 e
    cases a
    cases b
    cases Std.LawfulEqOrd.eq_of_compare e1
    cases Std.LawfulEqOrd.eq_of_compare e2
    rfl

/-- The rows with the same first part stand together. -/
lemma first_mono {a b : RowKey α β} (lt : compare a b = .lt) :
    (compare a.first b.first).isLE := by
  rcases Ordering.then_eq_lt.1 lt with h | h
  · exact Ordering.isLE_of_eq_lt h
  · exact Ordering.isLE_of_eq_eq h.1

end RowKey

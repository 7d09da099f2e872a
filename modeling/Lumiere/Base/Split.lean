import Mathlib.Data.List.Basic
import Mathlib.Data.List.Induction

/-!
# Splitting a list at a separator

Facts about `List.splitOn` for parsers that skip empty segments: the number of segments
(`length_splitOn`), that skipping the empty segments of a list without two adjacent separators is
the same as dropping one separator at each end (`filter_splitOn`), and when the segments of one list
are a prefix of the segments of another (`prefix_splitOn_iff`).
-/

namespace Split

variable {α : Type*} [DecidableEq α] {a : α} {l m : List α}

/-- A list without one separator at its beginning. -/
def dropSep (a : α) : List α → List α
  | [] => []
  | x :: xs => if x = a then xs else x :: xs

/-- A list without one separator at its beginning and one at its end. -/
def inner (a : α) (l : List α) : List α :=
  (dropSep a (dropSep a l).reverse).reverse

/-- There is one segment more than there are separators. -/
lemma length_splitOn : (l.splitOn a).length = l.count a + 1 := by
  induction l with
  | nil => rfl
  | cons x xs ih =>
    rw [List.splitOn_cons_eq_if_modifyHead, List.count_cons]
    split
    case isTrue => rw [List.length_cons, ih]
    case isFalse => rw [List.length_modifyHead, ih]

/-- No segment contains the separator. -/
lemma not_mem_of_mem_splitOn {s : List α} (mem : s ∈ l.splitOn a) : a ∉ s := by
  induction l generalizing s with
  | nil =>
    rw [List.splitOn_nil, List.mem_singleton] at mem
    subst mem
    exact List.not_mem_nil
  | cons x xs ih =>
    rw [List.splitOn_cons_eq_if_modifyHead] at mem
    split at mem
    case isTrue =>
      rcases List.mem_cons.1 mem with e | mem'
      · subst e
        exact List.not_mem_nil
      · exact ih mem'
    case isFalse ne =>
      cases h : xs.splitOn a with
      | nil => exact absurd h (List.splitOn_ne_nil a xs)
      | cons s0 rest =>
        rw [h, List.modifyHead_cons] at mem
        rcases List.mem_cons.1 mem with e | mem'
        · subst e
          intro mem
          rcases List.mem_cons.1 mem with e | mem'
          · subst e
            simp at ne
          · exact ih (h ▸ List.mem_cons_self) mem'
        · exact ih (h ▸ List.mem_cons_of_mem _ mem')

/-- Splitting loses nothing. -/
lemma splitOn_injective (e : l.splitOn a = m.splitOn a) : l = m := by
  have join := congrArg [a].intercalate e
  rwa [List.intercalate_splitOn, List.intercalate_splitOn] at join

/-- The segments of `l` are a prefix of those of `m` exactly when `l` is, each closed by a
    separator. -/
lemma prefix_splitOn_iff : l.splitOn a <+: m.splitOn a ↔ l ++ [a] <+: m ++ [a] := by
  constructor
  · rintro ⟨rest, e⟩
    -- the list whose segments are the remaining ones and a last empty one
    have noSep : ∀ s ∈ rest ++ [[]], a ∉ s := by
      intro s mem
      rcases List.mem_append.1 mem with mem | mem
      · exact not_mem_of_mem_splitOn (e ▸ List.mem_append_right _ mem)
      · rw [List.mem_singleton.1 mem]
        exact List.not_mem_nil
    have split := List.splitOn_intercalate a noSep (by simp)
    refine ⟨[a].intercalate (rest ++ [[]]), ?_⟩
    apply splitOn_injective (a := a)
    rw [List.append_assoc, List.singleton_append, List.splitOn_append_cons_self, split,
      List.splitOn_append_cons_self, List.splitOn_nil, ← e, List.append_assoc]
  · rintro ⟨t, e⟩
    have split := congrArg (List.splitOn a) e
    rw [List.append_assoc, List.singleton_append, List.splitOn_append_cons_self,
      List.splitOn_append_cons_self, List.splitOn_nil] at split
    have le : (l.splitOn a).length ≤ (m.splitOn a).length := by
      have len := congrArg List.length split
      have pos := List.length_pos_of_ne_nil (List.splitOn_ne_nil a t)
      simp only [List.length_append, List.length_singleton] at len
      omega
    exact List.prefix_of_prefix_length_le ⟨_, split⟩ (List.prefix_append _ _) le

/-- In a list without two adjacent separators that ends in none, only the first segment can be
    empty, and it is not when the list begins with another element. -/
lemma mem_splitOn_ne_nil (noPair : ¬ [a, a] <:+: l) (last : l.getLast? ≠ some a) :
    (∀ s ∈ (l.splitOn a).tail, s ≠ []) ∧
      (l ≠ [] → l.head? ≠ some a → ∀ s ∈ l.splitOn a, s ≠ []) := by
  induction l with
  | nil => simp
  | cons x xs ih =>
    have noPair' : ¬ [a, a] <:+: xs := fun inf => noPair (List.infix_cons inf)
    have last' : xs.getLast? ≠ some a := by
      cases xs with
      | nil => simp
      | cons y ys => simpa using last
    obtain ⟨ihT, ihA⟩ := ih noPair' last'
    rw [List.splitOn_cons_eq_if_modifyHead]
    by_cases e : x = a
    case pos =>
      subst e
      have nonempty : xs ≠ [] := by
        rintro rfl
        simp at last
      have head : xs.head? ≠ some x := by
        cases xs with
        | nil => simp
        | cons y ys =>
          intro e
          cases e
          exact noPair ⟨[], ys, rfl⟩
      refine ⟨?_, ?_⟩
      · simpa using ihA nonempty head
      · intro _ ne
        simp at ne
    case neg =>
      have ne : (x == a) = false := beq_eq_false_iff_ne.2 e
      rw [ne]
      cases h : xs.splitOn a with
      | nil => exact absurd h (List.splitOn_ne_nil a xs)
      | cons s0 rest =>
        rw [h] at ihT
        refine ⟨ihT, fun _ _ s mem => ?_⟩
        rcases List.mem_cons.1 mem with e | mem'
        · rw [e]
          exact List.cons_ne_nil _ _
        · exact ihT s mem'

/-- Dropping the separator at the beginning drops at most an empty segment. -/
lemma filter_splitOn_dropSep :
    ((dropSep a l).splitOn a).filter (· ≠ []) = (l.splitOn a).filter (· ≠ []) := by
  cases l with
  | nil => rfl
  | cons x xs =>
    rw [dropSep]
    split
    case isTrue e =>
      subst e
      rw [List.splitOn_cons_eq_if_modifyHead]
      simp
    case isFalse => rfl

/-- Dropping the separator at the end drops at most an empty segment. -/
lemma filter_splitOn_dropLastSep :
    ((dropSep a l.reverse).reverse.splitOn a).filter (· ≠ []) =
      (l.splitOn a).filter (· ≠ []) := by
  induction l using List.reverseRecOn with
  | nil => rfl
  | append_singleton xs x _ =>
    rw [List.reverse_concat, dropSep]
    split
    case isTrue e =>
      subst e
      rw [List.reverse_reverse, List.splitOn_append_cons_self]
      simp
    case isFalse => rw [List.reverse_cons, List.reverse_reverse]

/-- What is left is an end of the list. -/
lemma dropSep_suffix : dropSep a l <:+ l := by
  cases l with
  | nil => exact List.suffix_refl _
  | cons x xs =>
    rw [dropSep]
    split
    case isTrue => exact List.suffix_cons _ _
    case isFalse => exact List.suffix_refl _

/-- After dropping one separator there is none at the beginning, when there were no two. -/
lemma head_dropSep (noPair : ¬ [a, a] <:+: l) : (dropSep a l).head? ≠ some a := by
  cases l with
  | nil => simp [dropSep]
  | cons x xs =>
    rw [dropSep]
    split
    case isTrue e =>
      subst e
      cases xs with
      | nil => simp
      | cons y ys =>
        intro e
        cases e
        exact noPair ⟨[], ys, rfl⟩
    case isFalse ne => simpa using ne

omit [DecidableEq α] in
/-- No two separators in a row, read from the other side. -/
lemma noPair_reverse (noPair : ¬ [a, a] <:+: l) : ¬ [a, a] <:+: l.reverse := by
  intro inf
  apply noPair
  simpa using List.reverse_infix.2 inf

/-- Skipping the empty segments is dropping one separator at each end, when there are no two
    adjacent separators. -/
lemma filter_splitOn (noPair : ¬ [a, a] <:+: l) (nonempty : inner a l ≠ []) :
    (l.splitOn a).filter (· ≠ []) = (inner a l).splitOn a := by
  have noPair1 : ¬ [a, a] <:+: dropSep a l := fun inf => noPair (inf.trans dropSep_suffix.isInfix)
  have noPair2 : ¬ [a, a] <:+: dropSep a (dropSep a l).reverse :=
    fun inf => noPair_reverse noPair1 (inf.trans dropSep_suffix.isInfix)
  have last : (inner a l).getLast? ≠ some a := by
    rw [inner, List.getLast?_reverse]
    exact head_dropSep (noPair_reverse noPair1)
  have head : (inner a l).head? ≠ some a := by
    intro e
    -- the beginning of `inner a l` is the beginning of `dropSep a l`
    have pre : inner a l <+: dropSep a l := by
      have := List.reverse_prefix.2 (dropSep_suffix (a := a) (l := (dropSep a l).reverse))
      rwa [List.reverse_reverse] at this
    obtain ⟨t, e'⟩ := pre
    apply head_dropSep noPair
    rw [← e', List.head?_append_of_ne_nil _ nonempty, e]
  have all := (mem_splitOn_ne_nil (noPair_reverse noPair2) last).2 nonempty head
  rw [← filter_splitOn_dropSep, ← filter_splitOn_dropLastSep]
  change ((inner a l).splitOn a).filter (· ≠ []) = _
  rw [List.filter_eq_self]
  intro s mem
  simpa using all s mem

end Split

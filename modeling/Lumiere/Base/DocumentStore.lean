import Mathlib.Data.List.AList
import Mathlib.Data.List.Infix

/-!
# Stores of documents at paths

A document store is a finite map from paths (lists of segments) to documents. A document and the
documents of the collections below it are separate entries: deleting a path removes that entry and
no other. `Write` is one change of a store, `Write.apply` its effect and `lookup_apply` the single
equation every other fact about writes comes from. `children` lists the documents of a collection.
Two paths are `Apart` when neither is a prefix of the other; then the subtrees below them are
disjoint and no write below one changes anything below the other (`lookup_apply_apart`).
-/

variable {κ δ : Type*} [DecidableEq κ]

/-- A finite map from paths to documents. -/
abbrev DocumentStore (κ δ : Type*) := AList (fun _ : List κ => δ)

namespace DocumentStore

/-- One change of a store. -/
inductive Write (κ δ : Type*) where
  | setData (path : List κ) (data : δ)
  | delete (path : List κ)
  deriving DecidableEq

namespace Write

/-- The path a write changes. -/
def path : Write κ δ → List κ
  | .setData p _ => p
  | .delete p => p

/-- What stands at the path of a write after it. -/
def result : Write κ δ → Option δ
  | .setData _ d => some d
  | .delete _ => none

/-- The store after a write. -/
def apply (s : DocumentStore κ δ) : Write κ δ → DocumentStore κ δ
  | .setData p d => s.insert p d
  | .delete p => s.erase p

end Write

/-- The store after a list of writes, the first one first. -/
def applyAll (s : DocumentStore κ δ) (ws : List (Write κ δ)) : DocumentStore κ δ :=
  ws.foldl Write.apply s

/-- A write changes what stands at its own path and nothing else. -/
lemma lookup_apply (s : DocumentStore κ δ) (w : Write κ δ) (q : List κ) :
    (w.apply s).lookup q = if q = w.path then w.result else s.lookup q := by
  cases w with
  | setData p d =>
    by_cases e : q = p
    · subst e; simp [Write.apply, Write.path, Write.result]
    · simp [Write.apply, Write.path, e]
  | delete p =>
    by_cases e : q = p
    · subst e; simp [Write.apply, Write.path, Write.result]
    · simp [Write.apply, Write.path, e]

/-- At its own path a write leaves its result. -/
lemma lookup_apply_self (s : DocumentStore κ δ) (w : Write κ δ) :
    (w.apply s).lookup w.path = w.result := by
  rw [lookup_apply, if_pos rfl]

/-- Elsewhere a write changes nothing. -/
lemma lookup_apply_ne {s : DocumentStore κ δ} {w : Write κ δ} {q : List κ} (ne : q ≠ w.path) :
    (w.apply s).lookup q = s.lookup q := by
  rw [lookup_apply, if_neg ne]

/-- A document standing after a write stood before it or is the one written. -/
lemma lookup_apply_some {s : DocumentStore κ δ} {w : Write κ δ} {q : List κ} {d : δ}
    (lk : (w.apply s).lookup q = some d) : s.lookup q = some d ∨ w = .setData q d := by
  rw [lookup_apply] at lk
  split at lk
  case isFalse => exact .inl lk
  case isTrue e =>
    cases w with
    | setData p d' => cases lk; cases e; exact .inr rfl
    | delete p => cases lk

/-- Setting a document removes none. -/
lemma isSome_apply_setData {s : DocumentStore κ δ} {p q : List κ} {d : δ}
    (there : (s.lookup q).isSome) : (((Write.setData p d).apply s).lookup q).isSome := by
  rw [lookup_apply]
  split
  case isTrue => rfl
  case isFalse => exact there

/-- A document standing after a list of writes stood before it or was written by one of them. -/
lemma lookup_applyAll_some {s : DocumentStore κ δ} {ws : List (Write κ δ)} {q : List κ} {d : δ}
    (lk : (applyAll s ws).lookup q = some d) : s.lookup q = some d ∨ .setData q d ∈ ws := by
  induction ws generalizing s with
  | nil => exact .inl lk
  | cons w ws ih =>
    rcases ih (s := w.apply s) lk with lk' | mem
    · rcases lookup_apply_some lk' with lk0 | e
      · exact .inl lk0
      · exact .inr (e ▸ List.mem_cons_self)
    · exact .inr (List.mem_cons_of_mem _ mem)

/-- Writes elsewhere change nothing. -/
lemma lookup_applyAll_ne {s : DocumentStore κ δ} {ws : List (Write κ δ)} {q : List κ}
    (ne : ∀ w ∈ ws, q ≠ w.path) : (applyAll s ws).lookup q = s.lookup q := by
  induction ws generalizing s with
  | nil => rfl
  | cons w ws ih =>
    have rest := ih (s := w.apply s) fun w' mem => ne w' (List.mem_cons_of_mem _ mem)
    exact rest.trans (lookup_apply_ne (ne w List.mem_cons_self))

/-! ## Collections -/

/-- The documents of the collection at path `c`, each under the last segment of its path. -/
def children (s : DocumentStore κ δ) (c : List κ) : List (κ × δ) :=
  s.entries.filterMap fun e =>
    if e.1.dropLast = c then e.1.getLast?.map (·, e.2) else none

omit [DecidableEq κ] in
/-- A path is the collection path `c` followed by `k` when it ends in `k` and the rest is `c`. -/
lemma eq_concat_iff {c p : List κ} {k : κ} : p = c ++ [k] ↔ p.dropLast = c ∧ p.getLast? = some k := by
  constructor
  · rintro rfl; simp
  · rintro ⟨rfl, e⟩
    exact (List.dropLast_append_getLast? k e).symm

/-- The documents of a collection are those standing one segment below its path. -/
lemma mem_children {s : DocumentStore κ δ} {c : List κ} {k : κ} {d : δ} :
    (k, d) ∈ s.children c ↔ s.lookup (c ++ [k]) = some d := by
  rw [← Option.mem_def, AList.mem_lookup_iff, children, List.mem_filterMap]
  constructor
  · rintro ⟨⟨p, d'⟩, mem, h⟩
    split at h
    case isFalse => cases h
    case isTrue e =>
      simp only [Option.map_eq_some_iff, Prod.mk.injEq] at h
      obtain ⟨_, last, rfl, rfl⟩ := h
      rw [← eq_concat_iff.2 ⟨e, last⟩]
      exact mem
  · intro mem
    exact ⟨_, mem, by simp⟩

/-- Erasing an entry that a filter drops does not change what it keeps. -/
lemma filterMap_kerase {β : Type*} {f : (Σ _ : List κ, δ) → Option β} {p : List κ}
    (drop : ∀ d, f ⟨p, d⟩ = none) (l : List (Σ _ : List κ, δ)) :
    (l.kerase p).filterMap f = l.filterMap f := by
  induction l with
  | nil => rfl
  | cons e l ih =>
    by_cases h : p = e.1
    · obtain ⟨q, d⟩ := e
      cases h
      rw [List.kerase_cons_eq rfl, List.filterMap_cons, drop]
    · rw [List.kerase_cons_ne h, List.filterMap_cons, List.filterMap_cons, ih]

/-- A write outside a collection leaves its list of documents as it is. -/
lemma children_apply_ne {s : DocumentStore κ δ} {w : Write κ δ} {c : List κ}
    (ne : w.path.dropLast ≠ c) : (w.apply s).children c = s.children c := by
  cases w with
  | setData p d =>
    have h : p.dropLast ≠ c := ne
    rw [children, Write.apply, AList.entries_insert, List.filterMap_cons]
    simp only [if_neg h]
    exact filterMap_kerase (fun _ => if_neg h) _
  | delete p => exact filterMap_kerase (fun _ => if_neg ne) _

/-! ## Subtrees -/

/-- Neither of two paths is a prefix of the other. -/
def Apart (p q : List κ) : Prop :=
  ¬ p <+: q ∧ ¬ q <+: p

omit [DecidableEq κ] in
/-- Being apart does not depend on the order. -/
lemma Apart.symm {p q : List κ} (ap : Apart p q) : Apart q p :=
  ⟨ap.2, ap.1⟩

omit [DecidableEq κ] in
/-- Paths below two paths that are apart are different. -/
lemma Apart.ne_below {p q p' q' : List κ} (ap : Apart p q) (le1 : p <+: p') (le2 : q <+: q') :
    p' ≠ q' := by
  rintro rfl
  rcases List.prefix_or_prefix_of_prefix le1 le2 with h | h
  · exact ap.1 h
  · exact ap.2 h

/-- A write below one path changes nothing below a path apart from it. -/
lemma lookup_apply_apart {s : DocumentStore κ δ} {w : Write κ δ} {p q r : List κ}
    (ap : Apart p q) (le1 : p <+: w.path) (le2 : q <+: r) :
    (w.apply s).lookup r = s.lookup r :=
  lookup_apply_ne (ap.ne_below le1 le2).symm

/-- A write below one path leaves every collection below a path apart from it as it is. -/
lemma children_apply_apart {s : DocumentStore κ δ} {w : Write κ δ} {p q c : List κ}
    (ap : Apart p q) (le1 : p <+: w.path) (le2 : q <+: c) :
    (w.apply s).children c = s.children c := by
  apply children_apply_ne
  intro e
  exact ap.ne_below le1 (le2.trans (e ▸ List.dropLast_prefix w.path)) rfl

end DocumentStore

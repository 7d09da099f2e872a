import Mathlib.Data.List.Basic

/-!
# Regular expressions as `NSPredicate` matches them

The constructs of ICU regular expressions that the app's pattern uses, matched by backtracking:
`ends` returns what each way of matching a prefix leaves of the text. `MATCHES` asks for a match of
the whole text. A character is a code point, `.` stands for any character but a line terminator, and
`$` holds at the end of the text or before a line terminator that ends it.
-/

namespace Lumiere

/-- The regular expressions that the app uses. -/
inductive Regex where
  /-- `^`. -/
  | startOfText
  /-- `$`. -/
  | endOfText
  /-- `.`. -/
  | any
  /-- `[a-z]`, from the first to the last character. -/
  | range (first last : Char)
  /-- `r{n,}`; `r*` is the case `n = 0`. -/
  | atLeast (n : Nat) (r : Regex)
  /-- `(?=r)`. -/
  | lookahead (r : Regex)
  /-- One after the other. -/
  | seq (r s : Regex)

namespace Regex

/-- The characters that end a line. -/
def lineTerminator (c : Char) : Bool :=
  [0xA, 0xB, 0xC, 0xD, 0x85, 0x2028, 0x2029].contains c.toNat

/-- `k` matches one after another. -/
def iterate (ends : List Char → List (List Char)) : Nat → List Char → List (List Char)
  | 0, text => [text]
  | k + 1, text => (ends text).flatMap (iterate ends k)

/-- What the matches of a prefix of `text` leave, when the whole text has `length` characters. -/
def ends (length : Nat) : Regex → List Char → List (List Char)
  | startOfText, text => if text.length = length then [text] else []
  | endOfText, text =>
    match text with
    | [] => [text]
    | [c] => if lineTerminator c then [text] else []
    | ['\r', '\n'] => [text]
    | _ => []
  | any, text =>
    match text with
    | [] => []
    | c :: rest => if lineTerminator c then [] else [rest]
  | range first last, text =>
    match text with
    | [] => []
    | c :: rest => if first ≤ c ∧ c ≤ last then [rest] else []
  | atLeast n r, text =>
    -- more copies than there are characters add nothing
    (List.range (text.length + 1)).flatMap fun k => iterate (ends length r) (n + k) text
  | lookahead r, text => if (ends length r text).isEmpty then [] else [text]
  | seq r s, text => (ends length r text).flatMap (ends length s)

/-- `SELF MATCHES r`. -/
def matchesWhole (r : Regex) (text : String) : Bool :=
  (ends text.length r text.toList).contains []

/-! ## Texts of one line -/

/-- A text without line terminators. -/
def SingleLine (text : List Char) : Prop :=
  ∀ c ∈ text, lineTerminator c = false

instance (text : List Char) : Decidable (SingleLine text) :=
  decidable_of_iff (text.all fun c => !lineTerminator c) (by simp [SingleLine])

/-- The rest of a text of one line. -/
lemma SingleLine.tail {c text} (one : SingleLine (c :: text)) : SingleLine text :=
  fun d mem => one d (List.mem_cons_of_mem c mem)

/-- A sequence ends where its second part ends after its first. -/
lemma mem_ends_seq {length r s text rest} :
    rest ∈ ends length (seq r s) text ↔ ∃ mid ∈ ends length r text, rest ∈ ends length s mid :=
  List.mem_flatMap

/-- The start of the text takes nothing. -/
lemma mem_ends_startOfText {length text rest} :
    rest ∈ ends length startOfText text ↔ text.length = length ∧ rest = text := by
  change rest ∈ (if text.length = length then [text] else []) ↔ _
  split
  case isTrue e => simp [e]
  case isFalse ne => simp [ne]

/-- A look-ahead takes nothing from the text. -/
lemma mem_ends_lookahead {length r text rest} :
    rest ∈ ends length (lookahead r) text ↔ rest = text ∧ ∃ mid, mid ∈ ends length r text := by
  change rest ∈ (if (ends length r text).isEmpty then [] else [text]) ↔ _
  cases e : ends length r text with
  | nil => simp
  | cons mid mids =>
    simp only [List.isEmpty_cons, Bool.false_eq_true, if_false, List.mem_singleton]
    exact ⟨fun h => ⟨h, mid, List.mem_cons_self⟩, And.left⟩

/-- A range takes one of its characters. -/
lemma mem_ends_range {length first last text rest} :
    rest ∈ ends length (range first last) text ↔
      ∃ c, text = c :: rest ∧ first ≤ c ∧ c ≤ last := by
  cases text with
  | nil =>
    constructor
    · intro mem
      cases mem
    · rintro ⟨_, e, _⟩
      cases e
  | cons c text =>
    change rest ∈ (if first ≤ c ∧ c ≤ last then [text] else []) ↔ _
    split
    case isTrue h =>
      rw [List.mem_singleton]
      constructor
      · intro e; subst e; exact ⟨c, rfl, h⟩
      · rintro ⟨_, e, _⟩; cases e; rfl
    case isFalse h =>
      constructor
      · intro mem; cases mem
      · rintro ⟨_, e, h'⟩; cases e; exact absurd h' h

/-- The end of the text is an end of it. -/
lemma nil_mem_ends_endOfText {length} : [] ∈ ends length endOfText [] :=
  List.mem_singleton_self _

/-- On one line, `k` times `.` takes the first `k` characters. -/
lemma mem_iterate_any {length k text rest} (one : SingleLine text) :
    rest ∈ iterate (ends length any) k text ↔ k ≤ text.length ∧ rest = text.drop k := by
  induction k generalizing text with
  | zero => simp [iterate]
  | succ k ih =>
    cases text with
    | nil =>
      constructor
      · intro mem
        cases mem
      · rintro ⟨le, _⟩
        cases le
    | cons c text =>
      have plain := one c List.mem_cons_self
      have takes : ends length any (c :: text) = [text] := if_neg (Bool.eq_false_iff.1 plain)
      have e : iterate (ends length any) (k + 1) (c :: text) =
          iterate (ends length any) k text := by
        rw [iterate, takes, List.flatMap_singleton]
      rw [e, ih one.tail, List.length_cons, List.drop_succ_cons, Nat.add_le_add_iff_right]

/-- On one line, `.{n,}` takes any `n` or more characters. -/
lemma mem_ends_atLeast_any {length n text rest} (one : SingleLine text) :
    rest ∈ ends length (atLeast n any) text ↔ rest <:+ text ∧ n + rest.length ≤ text.length := by
  refine List.mem_flatMap.trans ?_
  simp only [List.mem_range, mem_iterate_any one]
  constructor
  · rintro ⟨k, _, le, e⟩
    subst e
    refine ⟨List.drop_suffix _ _, ?_⟩
    rw [List.length_drop]
    omega
  · rintro ⟨suffix, le⟩
    refine ⟨text.length - rest.length - n, by omega, by omega, ?_⟩
    have e : n + (text.length - rest.length - n) = text.length - rest.length := by omega
    rw [e]
    exact List.suffix_iff_eq_drop.1 suffix

end Regex

end Lumiere

import Mathlib.Data.Rat.Floor
import Mathlib.Data.List.DropRight
import Mathlib.Tactic.Linarith

/-!
# What the code uses of Swift, Foundation and UIKit

The traps of the Swift runtime, `trimmingCharacters(in: .whitespacesAndNewlines)`, the C function
`round` in exact arithmetic, and the two controls of the film forms that clamp what they are given:
a `UISlider` between its minimum 0 and maximum 10 and a `UIDatePicker` up to its `maximumDate`. A
slider out of its range or a picker past its limit cannot be built.
-/

namespace Lumiere

/-- The ways a handler of the app brings its process down. -/
inductive Trap where
  /-- A forced unwrap `!` of `nil`. -/
  | unexpectedlyFoundNil
  /-- A forced cast `as!` of a value of another type. -/
  | couldNotCast
  /-- An array index past the end. -/
  | indexOutOfRange
  /-- An `NSException` raised by a library. -/
  | exception (reason : String)
  deriving DecidableEq, Repr

/-- A point of time (`Date`). -/
abbrev Date := ℤ

/-! ## Text -/

/-- Membership in `CharacterSet.whitespacesAndNewlines`: the Unicode general category Z*, the tab,
    U+000A to U+000D and U+0085. -/
def whitespacesAndNewlines (c : Char) : Bool :=
  [0x9, 0xA, 0xB, 0xC, 0xD, 0x20, 0x85, 0xA0, 0x1680, 0x2000, 0x2001, 0x2002, 0x2003, 0x2004,
    0x2005, 0x2006, 0x2007, 0x2008, 0x2009, 0x200A, 0x2028, 0x2029, 0x202F, 0x205F,
    0x3000].contains c.toNat

/-- `trimmingCharacters(in: .whitespacesAndNewlines)`. -/
def trimmingCharacters (s : String) : String :=
  String.ofList ((s.toList.dropWhile whitespacesAndNewlines).rdropWhile whitespacesAndNewlines)

/-- Trimming only leaves characters out. -/
lemma trimmingCharacters_sublist (s : String) : (trimmingCharacters s).toList.Sublist s.toList := by
  rw [trimmingCharacters, String.toList_ofList]
  have back := List.rdropWhile_prefix whitespacesAndNewlines
    (s.toList.dropWhile whitespacesAndNewlines)
  exact back.sublist.trans (List.dropWhile_suffix _).sublist

/-- Swift's `==` of strings, canonical equivalence in Unicode. The code relies on two facts about
    it: only the empty string equals the empty string, and white space equals white space only. -/
structure StringEquality where
  same : String → String → Bool
  empty : ∀ {s}, same s "" = true ↔ s = ""
  blank : ∀ {s t}, same s t = true → (trimmingCharacters s = "" ↔ trimmingCharacters t = "")

/-- Equality code point by code point. -/
def StringEquality.codePoints : StringEquality where
  same s t := s = t
  empty := by simp
  blank := by
    intro s t e
    rw [of_decide_eq_true e]

/-! ## Numbers -/

/-- The C function `round`: to the nearest integer, halves away from zero. -/
def round (x : ℚ) : ℤ :=
  if 0 ≤ x then ⌊x + 1 / 2⌋ else ⌈x - 1 / 2⌉

/-- Rounding keeps integers. -/
lemma round_intCast (k : ℤ) : round k = k := by
  rw [round]
  split
  · rw [Int.floor_eq_iff]
    constructor <;> linarith
  · rw [Int.ceil_eq_iff]
    constructor <;> linarith

/-- Rounding is monotone on what is not negative. -/
lemma round_mono {x y : ℚ} (pos : 0 ≤ x) (le : x ≤ y) : round x ≤ round y := by
  rw [round, if_pos pos, round, if_pos (pos.trans le)]
  exact Int.floor_le_floor (by linarith)

/-! ## Controls -/

/-- The value of a `UISlider` with minimum 0 and maximum 10. -/
structure Slider where
  value : ℚ
  minimumValue : 0 ≤ value
  maximumValue : value ≤ 10
  deriving DecidableEq

/-- `setValue` and a drag of the thumb: the slider takes the nearest value it can. -/
def Slider.setValue (v : ℚ) : Slider where
  value := max 0 (min 10 v)
  minimumValue := le_max_left _ _
  maximumValue := max_le (by norm_num) (min_le_left _ _)

/-- A value within the limits is taken as it is. -/
lemma Slider.setValue_of_mem {v : ℚ} (lo : 0 ≤ v) (hi : v ≤ 10) : (Slider.setValue v).value = v := by
  simp only [Slider.setValue, min_eq_right hi, max_eq_right lo]

/-- The state of a `UIDatePicker` with a `maximumDate`. -/
structure DatePicker where
  date : Date
  maximumDate : Date
  upTo : date ≤ maximumDate
  deriving DecidableEq

/-- A date picker made at `now` with `maximumDate = Date()`. -/
def DatePicker.make (now : Date) : DatePicker where
  date := now
  maximumDate := now
  upTo := le_refl _

/-- Setting or picking a date: the picker takes the latest date up to its maximum. -/
def DatePicker.setDate (p : DatePicker) (d : Date) : DatePicker where
  date := min d p.maximumDate
  maximumDate := p.maximumDate
  upTo := min_le_right _ _

end Lumiere

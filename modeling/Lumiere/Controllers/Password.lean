import Lumiere.Controllers.SignUp

/-!
# What the Sign Up screen accepts

`PasswordConstraints` are the four constraints that the screen shows under the fields. The pattern of
`isPasswordValid` says the same of a text of one line (`isPasswordValid_iff`). `validateFields`
checks the trimmed password, while the password that is compared with the confirmation and handed to
`createUser` is not trimmed; what is left out by trimming cannot break a constraint
(`PasswordConstraints.of_trimmed`).
-/

namespace Lumiere
open Regex

/-- The four lines of `passwordConstraintsTextView`. -/
structure PasswordConstraints (password : String) : Prop where
  eightCharacters : 8 ≤ password.length
  bigLetter : ∃ c ∈ password.toList, 'A' ≤ c ∧ c ≤ 'Z'
  smallLetter : ∃ c ∈ password.toList, 'a' ≤ c ∧ c ≤ 'z'
  number : ∃ c ∈ password.toList, '0' ≤ c ∧ c ≤ '9'

/-- `validateFields` with Swift's equality of strings. -/
def SignUpFields.validateFieldsWith (equality : StringEquality) (c : SignUpFields) :
    Option String :=
  let errMessage :=
    if [c.emailTextField, c.passwordTextField, c.confirmPasswordTextField].any
        fun text => equality.same (trimmingCharacters text) "" then
      "Please fill in all the fields"
    else ""
  let errMessage :=
    if isPasswordValid (trimmingCharacters c.passwordTextField) = false then
      "Password must contain at least one big letter, one small letter, one number, and is minimum eight characters long"
    else if equality.same c.confirmPasswordTextField c.passwordTextField = false then
      "Password and confirm password does not match"
    else errMessage
  if equality.same errMessage "" = false then some errMessage else none

/-- `validateFields` compares code point by code point. -/
lemma SignUpFields.validateFields_eq (c : SignUpFields) :
    c.validateFields = c.validateFieldsWith .codePoints := by
  simp [validateFields, validateFieldsWith, StringEquality.codePoints]

/-! ## The pattern -/

/-- A look-ahead `(?=.*[a-z])` asks for one character of the range and goes on from where it is. -/
lemma mem_ends_has {length first last r text rest} (one : SingleLine text) :
    rest ∈ ends length (.seq (.lookahead (.seq (.atLeast 0 .any) (.range first last))) r) text ↔
      (∃ c ∈ text, first ≤ c ∧ c ≤ last) ∧ rest ∈ ends length r text := by
  simp only [mem_ends_seq, mem_ends_lookahead, mem_ends_range, mem_ends_atLeast_any one]
  constructor
  · rintro ⟨_, ⟨e, _, _, ⟨suffix, _⟩, c, e', range⟩, mem⟩
    subst e e'
    exact ⟨⟨c, suffix.mem List.mem_cons_self, range⟩, mem⟩
  · rintro ⟨⟨c, mem, range⟩, mem'⟩
    obtain ⟨before, after, e⟩ := List.append_of_mem mem
    refine ⟨text, ⟨rfl, after, c :: after, ⟨⟨before, e.symm⟩, ?_⟩, c, rfl, range⟩, mem'⟩
    rw [e, List.length_append]
    omega

/-- `.{8,}$` asks for eight characters. -/
lemma mem_ends_eight {length text} (one : SingleLine text) :
    [] ∈ ends length (.seq (.atLeast 8 .any) .endOfText) text ↔ 8 ≤ text.length := by
  simp only [mem_ends_seq, mem_ends_atLeast_any one]
  constructor
  · rintro ⟨mid, ⟨suffix, le⟩, _⟩
    omega
  · intro le
    exact ⟨[], ⟨List.nil_suffix, le⟩, nil_mem_ends_endOfText⟩

/-- On one line, the pattern says what the screen says. -/
lemma isPasswordValid_iff {password : String} (one : SingleLine password.toList) :
    isPasswordValid password = true ↔ PasswordConstraints password := by
  have start {r} : [] ∈ ends password.length (.seq .startOfText r) password.toList ↔
      [] ∈ ends password.length r password.toList := by
    simp [mem_ends_seq, mem_ends_startOfText, String.length_toList]
  rw [isPasswordValid, matchesWhole, List.contains_iff_mem, passwordPattern, start,
    mem_ends_has one, mem_ends_has one, mem_ends_has one, mem_ends_eight one, String.length_toList]
  constructor
  · rintro ⟨small, number, big, eight⟩
    exact ⟨eight, big, small, number⟩
  · rintro ⟨eight, big, small, number⟩
    exact ⟨small, number, big, eight⟩

/-! ## The fields -/

/-- Text around a password that meets the constraints does no harm. -/
lemma PasswordConstraints.mono {s t : String} (sub : s.toList.Sublist t.toList)
    (pc : PasswordConstraints s) : PasswordConstraints t where
  eightCharacters := by
    have le := sub.length_le
    rw [String.length_toList, String.length_toList] at le
    exact pc.eightCharacters.trans le
  bigLetter := pc.bigLetter.imp fun _ h => ⟨sub.subset h.1, h.2⟩
  smallLetter := pc.smallLetter.imp fun _ h => ⟨sub.subset h.1, h.2⟩
  number := pc.number.imp fun _ h => ⟨sub.subset h.1, h.2⟩

/-- A password that meets the constraints is not empty. -/
lemma PasswordConstraints.ne_empty {s} (pc : PasswordConstraints s) : s ≠ "" := by
  intro e
  subst e
  exact absurd pc.eightCharacters (by decide)

/-- Trimming a text of one line leaves a text of one line. -/
lemma singleLine_trimmed {s : String} (one : SingleLine s.toList) :
    SingleLine (trimmingCharacters s).toList :=
  fun c mem => one c ((trimmingCharacters_sublist s).subset mem)

/-- The last two messages stand for themselves, so nothing clears the first one. -/
lemma validateFieldsWith_eq_none {equality : StringEquality} {c : SignUpFields} :
    c.validateFieldsWith equality = none ↔
      (trimmingCharacters c.emailTextField ≠ "" ∧ trimmingCharacters c.passwordTextField ≠ "" ∧
        trimmingCharacters c.confirmPasswordTextField ≠ "") ∧
      isPasswordValid (trimmingCharacters c.passwordTextField) = true ∧
      equality.same c.confirmPasswordTextField c.passwordTextField = true := by
  have same_empty {s} : equality.same s "" = false ↔ s ≠ "" := by
    rw [← Bool.not_eq_true, ne_eq, equality.empty]
  rw [SignUpFields.validateFieldsWith]
  cases valid : isPasswordValid (trimmingCharacters c.passwordTextField) with
  | false => simp [same_empty]
  | true =>
    cases same : equality.same c.confirmPasswordTextField c.passwordTextField with
    | false => simp [same_empty]
    | true => simp [same_empty, equality.empty, not_or]

/-- `isPasswordValid` decides the four constraints of the screen; Sign Up accepts exactly the fields
    with an email, a password that meets them when it is trimmed, and the same password as
    confirmation; and the password it hands to `createUser` meets them too. -/
theorem signUp_accepts (equality : StringEquality) (c : SignUpFields)
    (password : SingleLine c.passwordTextField.toList) :
    (∀ s : String, SingleLine s.toList → (isPasswordValid s = true ↔ PasswordConstraints s)) ∧
    (c.validateFieldsWith equality = none ↔
      trimmingCharacters c.emailTextField ≠ "" ∧
      isPasswordValid (trimmingCharacters c.passwordTextField) = true ∧
      equality.same c.confirmPasswordTextField c.passwordTextField = true) ∧
    (c.validateFieldsWith equality = none → PasswordConstraints c.passwordTextField) := by
  have accepts : c.validateFieldsWith equality = none ↔
      trimmingCharacters c.emailTextField ≠ "" ∧
      isPasswordValid (trimmingCharacters c.passwordTextField) = true ∧
      equality.same c.confirmPasswordTextField c.passwordTextField = true := by
    rw [validateFieldsWith_eq_none]
    constructor
    · rintro ⟨⟨filled, _⟩, valid, same⟩
      exact ⟨filled, valid, same⟩
    · rintro ⟨filled, valid, same⟩
      have pc := (isPasswordValid_iff (singleLine_trimmed password)).1 valid
      have confirmed := (not_congr (equality.blank same)).2 pc.ne_empty
      exact ⟨⟨filled, pc.ne_empty, confirmed⟩, valid, same⟩
  refine ⟨fun s one => isPasswordValid_iff one, accepts, ?_⟩
  intro none
  obtain ⟨_, valid, _⟩ := accepts.1 none
  have pc := (isPasswordValid_iff (singleLine_trimmed password)).1 valid
  exact pc.mono (trimmingCharacters_sublist c.passwordTextField)

/-- A password with spaces around it. -/
theorem signUp_accepts_spaces :
    SingleLine " Abcdefg1 ".toList ∧
    PasswordConstraints (SignUpFields.mk "a@b.c" " Abcdefg1 " " Abcdefg1 ").passwordTextField :=
  ⟨by decide, (signUp_accepts .codePoints _ (by decide)).2.2 (by decide +kernel)⟩

end Lumiere

import Lumiere.Platform.Foundation
import Lumiere.Platform.Regex

/-!
# The fields of the Sign Up screen

The three text fields of `SignUpViewController`, their validation, and the password rule of
`Utilities`. A later message of `validateFields` replaces an earlier one, as in the source.
-/

namespace Lumiere

/-- The pattern of `isPasswordValid`. -/
def passwordPattern : Regex :=
  let has (first last : Char) : Regex :=
    .lookahead (.seq (.atLeast 0 .any) (.range first last))
  .seq .startOfText (.seq (has 'a' 'z') (.seq (has '0' '9') (.seq (has 'A' 'Z')
    (.seq (.atLeast 8 .any) .endOfText))))

/-- `Utilities.isPasswordValid`. -/
def isPasswordValid (userPassword : String) : Bool :=
  passwordPattern.matchesWhole userPassword

/-- The text fields of the Sign Up screen. -/
structure SignUpFields where
  emailTextField : String
  passwordTextField : String
  confirmPasswordTextField : String
  deriving DecidableEq

/-- The message for what is not filled in right; a later one overwrites an earlier one. -/
def SignUpFields.validateFields (c : SignUpFields) : Option String :=
  let errMessage :=
    if [c.emailTextField, c.passwordTextField, c.confirmPasswordTextField].any
        fun text => trimmingCharacters text = "" then
      "Please fill in all the fields"
    else ""
  let errMessage :=
    if isPasswordValid (trimmingCharacters c.passwordTextField) = false then
      "Password must contain at least one big letter, one small letter, one number, and is minimum eight characters long"
    else if c.confirmPasswordTextField ≠ c.passwordTextField then
      "Password and confirm password does not match"
    else errMessage
  if errMessage ≠ "" then some errMessage else none

example : (SignUpFields.mk "a@b.c" "Abcdefg1" "Abcdefg1").validateFields = none := by
  decide +kernel

end Lumiere

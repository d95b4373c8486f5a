import ClusterSurvey.Text.Digits

/-!
# Natural numbers in texts

A natural number of limited size is written in decimal digits, with a plus sign in front if one likes.
A text is read from left to right, so the first character at which it goes wrong decides what is
wrong with it.
-/

namespace ClusterSurvey.Text

/-- Why a text is no natural number of the size asked for. -/
inductive NaturalFault where
  | empty
  | invalidDigit
  | tooLarge
  deriving DecidableEq, Repr

/-- The wording of a fault. -/
def NaturalFault.message : NaturalFault → String
  | empty => "cannot parse integer from empty string"
  | invalidDigit => "invalid digit found in string"
  | tooLarge => "number too large to fit in target type"

/-- Appends digits to a number below `bound`. -/
def appendDigits (bound : Nat) : Nat → List Char → Except NaturalFault Nat
  | n, [] => .ok n
  | n, c :: cs =>
    match digitIn? 10 c with
    | none => .error .invalidDigit
    | some d => if 10 * n + d < bound then appendDigits bound (10 * n + d) cs else .error .tooLarge

/-- Reads a number of so many bits. -/
def readNatural (bits : Nat) (s : String) : Except NaturalFault Nat :=
  match s.toList with
  | [] => .error .empty
  | ['+'] => .error .invalidDigit
  | '+' :: cs => appendDigits (Nat.pow 2 bits) 0 cs
  | cs => appendDigits (Nat.pow 2 bits) 0 cs

end ClusterSurvey.Text

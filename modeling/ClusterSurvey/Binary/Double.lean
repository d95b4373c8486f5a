/-!
# Doubles that count

A double is a floating-point number of sixty-four bits.  Among those that are whole and not negative
are numbers of at most fifty-three binary digits times a power of two, up to `2 ^ 1024`, and the
infinite one behind them.  A product that means nothing is no number at all.
-/

namespace ClusterSurvey

/-- The nearest number with at most `p` binary digits; a tie goes to the even one. -/
def roundBinary (p n : Nat) : Nat :=
  let unit := Nat.pow 2 (n.log2 + 1 - p)
  let q := n / unit
  let r := n % unit
  if unit < 2 * r ∨ (unit = 2 * r ∧ q % 2 = 1) then (q + 1) * unit else q * unit

/-- The greatest number of sixty-four bits. -/
def greatestWord : Nat := Nat.pow 2 64 - 1

/-- A double that is whole and not negative, or no number. -/
inductive Double where
  | finite (n : Nat)
  | infinite
  | notANumber
  deriving DecidableEq, Repr

namespace Double

/-- How many binary digits the greatest double has. -/
def maxDigits : Nat := 1024

/-- The double nearest to a number.  It is infinite if the number, rounded, has too many digits. -/
def nearest (n : Nat) : Double :=
  let m := roundBinary 53 n
  if m.log2 < maxDigits then finite m else infinite

/-- The product of two doubles.  The infinite one times nothing is no number. -/
def mul : Double → Double → Double
  | finite a, finite b => nearest (a * b)
  | infinite, finite b => if b = 0 then notANumber else infinite
  | finite a, infinite => if a = 0 then notANumber else infinite
  | infinite, infinite => infinite
  | notANumber, _ => notANumber
  | _, notANumber => notANumber

/-- The lesser of two doubles, or the only number among them. -/
def min : Double → Double → Double
  | finite a, finite b => finite (Min.min a b)
  | finite a, _ => finite a
  | _, finite b => finite b
  | infinite, _ => infinite
  | _, infinite => infinite
  | notANumber, notANumber => notANumber

/-- The greater of two doubles, or the only number among them. -/
def max : Double → Double → Double
  | finite a, finite b => finite (Max.max a b)
  | infinite, _ => infinite
  | _, infinite => infinite
  | finite a, notANumber => finite a
  | notANumber, y => y

/-- The double as a number of sixty-four bits: the greatest one for what is beyond it, and nothing for
what is no number. -/
def toWord : Double → Nat
  | finite n => Min.min n greatestWord
  | infinite => greatestWord
  | notANumber => 0

end Double

end ClusterSurvey

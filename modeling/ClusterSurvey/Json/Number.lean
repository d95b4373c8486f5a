/-!
# What a written number denotes

An integer that fits into sixty-four bits denotes itself, and every other number a floating-point
number of sixty-four bits.  That one is the first nineteen or twenty digits, as many as fit into
sixty-four bits, scaled by a power of ten in floating-point arithmetic; so it may differ from the
nearest number in the last digits.
-/

namespace ClusterSurvey.Json

/-- A number as it is written: sign, digits before and behind the point, and the exponent. -/
structure Numeral where
  /-- Whether a minus sign stands in front. -/
  negative : Bool
  /-- Digits before the point. -/
  whole : List Char
  /-- Digits behind the point. -/
  fraction : List Char
  /-- The exponent's sign, true for minus, and its digits. -/
  exponent : Option (Bool × List Char)
  deriving DecidableEq

/-- What a number denotes. -/
inductive Number where
  | natural (n : Nat)
  | negative (n : Nat)
  | real (x : Float)

/-- One more than the greatest number of sixty-four bits. -/
def word : Nat := Nat.pow 2 64

/-- The number that a digit stands for. -/
def digitValue (c : Char) : Nat := c.toNat - '0'.toNat

/-- Appends digits to a significand as long as it fits into sixty-four bits; the answer also tells
how many digits were left over. -/
def gather : Nat → List Char → Nat × Nat
  | sig, [] => (sig, 0)
  | sig, d :: ds =>
    let next := sig * 10 + digitValue d
    if next < word then gather next ds else (sig, (d :: ds).length)

/-- The floating-point number `10 ^ e`. -/
def powerOfTen (e : Nat) : Float := Float.ofScientific 1 false e

/-- Scales by a power of ten in steps of at most `308` places.  A product past the greatest number is
refused. -/
def scale : Nat → Float → Int → Option Float
  | 0, x, _ => some x
  | fuel + 1, x, e =>
    if e.natAbs ≤ 308 then
      if 0 ≤ e then
        let y := x * powerOfTen e.natAbs
        if y.isInf then none else some y
      else some (x / powerOfTen e.natAbs)
    else if x == 0 then some x
    else if 0 ≤ e then none
    else scale fuel (x / powerOfTen 308) (e + 308)

/-- The greatest exponent that is read as such. -/
def greatestExponent : Nat := Nat.pow 2 31 - 1

/-- The floating-point number of a numeral, unless it is out of range. -/
def Numeral.real? (m : Numeral) : Option Float :=
  let w := gather 0 m.whole
  let f := gather w.1 m.fraction
  let start : Int := w.2 - (m.fraction.length - f.2 : Nat)
  let sign (x : Float) := if m.negative then -x else x
  match m.exponent with
  | none => (scale 8 (UInt64.ofNat f.1).toFloat start).map sign
  | some (down, digits) =>
    let e := Nat.ofDigitChars 10 digits 0
    if greatestExponent < e then
      if f.1 ≠ 0 ∧ !down then none else some (sign 0)
    else
      (scale 8 (UInt64.ofNat f.1).toFloat (if down then start - e else start + e)).map sign

/-- What a numeral denotes, unless it is out of range. -/
def Numeral.denotes? (m : Numeral) : Option Number :=
  let n := Nat.ofDigitChars 10 m.whole 0
  if m.fraction = [] ∧ m.exponent = none then
    if m.negative then
      if n = 0 ∨ Nat.pow 2 63 < n then m.real?.map .real else some (.negative n)
    else if n < word then some (.natural n) else m.real?.map .real
  else m.real?.map .real

end ClusterSurvey.Json

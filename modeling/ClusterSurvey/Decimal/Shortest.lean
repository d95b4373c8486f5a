/-!
# The shortest decimal of a binary number

A binary floating-point number stands for all reals that round to it.  The shortest decimal of a
number is the one with the fewest digits among those reals, and of several the nearest.

The search looks at the grids of multiples of `10 ^ k`, from coarse to fine.  If a grid has a point
that rounds to the number, then one of the two grid points around the number does, so only these two
are tried.
-/

namespace ClusterSurvey.Decimal

/-- A layout of floating-point numbers: the stored digits of the significand and the digits of the
exponent. -/
structure Layout where
  /-- Stored binary digits of the significand. -/
  fraction : Nat
  /-- Binary digits of the exponent. -/
  exponent : Nat

/-- Numbers in thirty-two bits. -/
def single : Layout := ⟨23, 8⟩

/-- Numbers in sixty-four bits. -/
def double : Layout := ⟨52, 11⟩

/-- What the bits of a number say about its size. -/
inductive Magnitude where
  /-- The number `m * 2 ^ q`; `edge` says that the next smaller number lies only half as far away as
  the next greater one. -/
  | finite (m : Nat) (q : Int) (edge : Bool)
  | infinite
  | notANumber
  deriving DecidableEq, Repr

/-- A sign and a magnitude. -/
structure Binary where
  /-- Whether the sign bit is set. -/
  negative : Bool
  /-- The number without its sign. -/
  magnitude : Magnitude
  deriving DecidableEq, Repr

/-- Reads the bits of a number. -/
def Layout.decode (l : Layout) (bits : Nat) : Binary :=
  let fraction := bits % Nat.pow 2 l.fraction
  let exponent := bits / Nat.pow 2 l.fraction % Nat.pow 2 l.exponent
  let lowest : Int := 2 - Nat.pow 2 (l.exponent - 1) - l.fraction
  let magnitude :=
    if exponent = Nat.pow 2 l.exponent - 1 then
      if fraction = 0 then .infinite else .notANumber
    else if exponent = 0 then .finite fraction lowest false
    else .finite (Nat.pow 2 l.fraction + fraction) (lowest + exponent - 1)
      (fraction = 0 && 1 < exponent)
  ⟨bits / Nat.pow 2 (l.fraction + l.exponent) % 2 = 1, magnitude⟩

/-- Four times a number and the ends of the interval that rounds to it, over one denominator. -/
structure Interval where
  /-- The denominator. -/
  den : Nat
  /-- Numerator of the lower end. -/
  lo : Nat
  /-- Numerator of the number. -/
  mid : Nat
  /-- Numerator of the upper end. -/
  hi : Nat
  /-- Whether the ends round to the number as well. -/
  closed : Bool

/-- The interval of reals that round to `m * 2 ^ q`. -/
def Interval.around (m : Nat) (q : Int) (edge : Bool) : Interval :=
  let unit := Nat.pow 2 (q - 2).toNat
  ⟨Nat.pow 2 (2 - q).toNat, (4 * m - if edge then 1 else 2) * unit, 4 * m * unit, (4 * m + 2) * unit,
    m % 2 = 0⟩

/-- Whether `d * 10 ^ k` lies in the interval. -/
def Interval.holds (i : Interval) (d : Nat) (k : Int) : Bool :=
  let point := d * Nat.pow 10 k.toNat * i.den
  let lo := i.lo * Nat.pow 10 (-k).toNat
  let hi := i.hi * Nat.pow 10 (-k).toNat
  if i.closed then lo ≤ point && point ≤ hi else lo < point && point < hi

/-- The greatest `d` for which `d * 10 ^ k` does not exceed the number. -/
def Interval.below (i : Interval) (k : Int) : Nat :=
  i.mid * Nat.pow 10 (-k).toNat / (i.den * Nat.pow 10 k.toNat)

/-- Of the two points of a grid around the number the nearer one that rounds to it; an exact tie
goes to the even one. -/
def Interval.onGrid? (i : Interval) (k : Int) : Option Nat :=
  let d := i.below k
  let scaled := 2 * i.mid * Nat.pow 10 (-k).toNat
  let middle := (2 * d + 1) * Nat.pow 10 k.toNat * i.den
  let upper := middle < scaled || (scaled = middle && d % 2 = 1)
  let near := if upper then d + 1 else d
  let far := if upper then d else d + 1
  if i.holds near k then some near else if i.holds far k then some far else none

/-- The first hit on the grids `10 ^ k`, `10 ^ (k - 1)`, … -/
def Interval.search (i : Interval) : Nat → Int → Nat × Int
  | 0, k => (i.below k, k)
  | fuel + 1, k =>
    match i.onGrid? k with
    | some d => (d, k)
    | none => i.search fuel (k - 1)

/-- The shortest decimal `d * 10 ^ k` of `m * 2 ^ q`. -/
def shortest (m : Nat) (q : Int) (edge : Bool) : Nat × Int :=
  if m = 0 then (0, 0) else
    let i := Interval.around m q edge
    let start := (Nat.toDigits 10 (i.mid / i.den)).length
    i.search (start + 1100) start

end ClusterSurvey.Decimal

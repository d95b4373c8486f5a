import ClusterSurvey.Text.Digits
import ClusterSurvey.Text.Split

/-!
# Values without parts

A value that is not quoted and has no parts is one token: a truth value, an integer in one of four
bases, a floating-point number, or a moment, which is a date, a time of day or both.  Digits may be
grouped by single underscores between them.
-/

namespace ClusterSurvey.Toml

/-- A value without parts. -/
inductive Scalar where
  | bool (b : Bool)
  | integer (n : Int)
  | real (x : Float)
  /-- A finite number past the greatest one that is held. -/
  | tooLarge
  | text (s : String)
  | moment

/-- The digits of a text in which single underscores may stand between digits. -/
def groupedDigits? (base : Nat) (cs : List Char) : Option (List Nat) := do
  let groups ← (Text.splitAt '_' cs).mapM fun g =>
    if g = [] then none else g.mapM (Text.digitIn? base)
  return groups.flatten

/-- The digits of a decimal number before its point: a leading zero stands alone. -/
def wholeDigits? (cs : List Char) : Option (List Nat) := do
  let ds ← groupedDigits? 10 cs
  if ds.head? = some 0 ∧ ds ≠ [0] then none else some ds

/-- A text without its sign, and whether that is a minus. -/
def splitSign : List Char → Bool × List Char
  | '-' :: cs => (true, cs)
  | '+' :: cs => (false, cs)
  | cs => (false, cs)

/-- An integer with its sign. -/
def signed (negative : Bool) (n : Nat) : Int := if negative then -n else n

/-- The integer that a token denotes. -/
def integer? : List Char → Option Int
  | '0' :: 'x' :: cs => (groupedDigits? 16 cs).map fun ds => (Text.ofDigits 16 ds : Nat)
  | '0' :: 'o' :: cs => (groupedDigits? 8 cs).map fun ds => (Text.ofDigits 8 ds : Nat)
  | '0' :: 'b' :: cs => (groupedDigits? 2 cs).map fun ds => (Text.ofDigits 2 ds : Nat)
  | cs =>
    let (negative, body) := splitSign cs
    (wholeDigits? body).map fun ds => signed negative (Text.ofDigits 10 ds)

/-- More decimal places than separate the least from the greatest number. -/
def farPlaces : Nat := 800

/-- The number nearest to `digits * 10 ^ e`, where the digits are decimal, unless it is past the
greatest one. -/
def nearest (negative : Bool) (digits : List Nat) (e : Int) : Scalar :=
  let n := Text.ofDigits 10 digits
  let sign (x : Float) : Float := if negative then -x else x
  if n = 0 ∨ (digits.length : Int) + e < -(farPlaces : Int) then .real (sign 0)
  else if (farPlaces : Int) < e + (Nat.toDigits 10 n).length then .tooLarge
  else
    let x := Float.ofScientific n (decide (e < 0)) e.natAbs
    if x.isInf then .tooLarge else .real (sign x)

/-- The floating-point number that a token denotes.  It has a fraction, an exponent or a name. -/
def real? (cs : List Char) : Option Scalar := do
  let (negative, body) := splitSign cs
  if body = ['i', 'n', 'f'] then
    return .real (if negative then -(1 / 0) else 1 / 0)
  if body = ['n', 'a', 'n'] then
    return .real (0 / 0)
  let isMark (c : Char) : Bool := c = 'e' || c = 'E'
  let mantissa := body.takeWhile (!isMark ·)
  let exponent := body.drop mantissa.length
  let whole ← wholeDigits? (mantissa.takeWhile (· ≠ '.'))
  let fraction ← match mantissa.dropWhile (· ≠ '.') with
    | [] => some []
    | _ :: ds => groupedDigits? 10 ds
  let e ← match exponent with
    | [] => some 0
    | _ :: ds =>
      let (down, ds) := splitSign ds
      (groupedDigits? 10 ds).map fun ds => signed down (Text.ofDigits 10 ds)
  if fraction = [] ∧ exponent = [] then none
  else return nearest negative (whole ++ fraction) (e - fraction.length)

/-- Two digits between the given bounds at the head of a text. -/
def twoDigits? (lo hi : Nat) : List Char → Option (Nat × List Char)
  | a :: b :: cs => do
    let x ← Text.digitIn? 10 a
    let y ← Text.digitIn? 10 b
    let n := 10 * x + y
    if lo ≤ n ∧ n ≤ hi then some (n, cs) else none
  | _ => none

/-- The text behind a given character. -/
def behind? (c : Char) : List Char → Option (List Char)
  | [] => none
  | d :: cs => if d = c then some cs else none

/-- The number of days of a month. -/
def daysOf (year month : Nat) : Nat :=
  if month = 2 then
    if year % 4 = 0 ∧ (year % 100 ≠ 0 ∨ year % 400 = 0) then 29 else 28
  else if month = 4 ∨ month = 6 ∨ month = 9 ∨ month = 11 then 30
  else 31

/-- What follows the date at the head of a text. -/
def behindDate? (cs : List Char) : Option (List Char) := do
  let (century, cs) ← twoDigits? 0 99 cs
  let (year, cs) ← twoDigits? 0 99 cs
  let cs ← behind? '-' cs
  let (month, cs) ← twoDigits? 1 12 cs
  let cs ← behind? '-' cs
  let (_, cs) ← twoDigits? 1 (daysOf (100 * century + year) month) cs
  return cs

/-- What follows the time of day at the head of a text.  Seconds may be left out, and only they have
a fraction. -/
def behindTime? (cs : List Char) : Option (List Char) := do
  let (_, cs) ← twoDigits? 0 23 cs
  let cs ← behind? ':' cs
  let (_, cs) ← twoDigits? 0 59 cs
  match cs with
  | ':' :: cs =>
    let (_, cs) ← twoDigits? 0 60 cs
    match cs with
    | '.' :: cs =>
      let (ds, rest) := Text.spanDigits 10 cs
      if ds = [] then none else some rest
    | cs => some cs
  | cs => some cs

/-- Whether a text is a distance from universal time. -/
def isOffset (cs : List Char) : Bool :=
  match cs with
  | ['Z'] | ['z'] => true
  | c :: cs =>
    if c = '+' ∨ c = '-' then
      ((do
        let (_, cs) ← twoDigits? 0 23 cs
        let cs ← behind? ':' cs
        let (_, cs) ← twoDigits? 0 59 cs
        return cs) : Option (List Char)) = some []
    else false
  | [] => false

/-- Whether a token is a moment. -/
def isMoment (cs : List Char) : Bool :=
  match behindDate? cs with
  | none => behindTime? cs = some []
  | some [] => true
  | some (c :: rest) =>
    if c = 'T' ∨ c = 't' ∨ c = ' ' then
      match behindTime? rest with
      | none => false
      | some [] => true
      | some offset => isOffset offset
    else false

/-- What a token denotes. -/
def Scalar.ofToken? (cs : List Char) : Option Scalar :=
  if cs = "true".toList then some (.bool true)
  else if cs = "false".toList then some (.bool false)
  else
    match integer? cs with
    | some n => some (.integer n)
    | none =>
      match real? cs with
      | some x => some x
      | none => if isMoment cs then some .moment else none

end ClusterSurvey.Toml

import ClusterSurvey.Decimal.Shortest

/-!
# Written decimals

A notation says between which powers of ten a number is written with its point in place, and how the
exponent of all others looks.
-/

namespace ClusterSurvey.Decimal

/-- The choices of a written form.  `point` is the position of the decimal point relative to the
first digit, so that `0.5` has point `0` and `5.0` has point `1`. -/
structure Notation where
  /-- Least position of the point that is written in place, if there is a limit. -/
  least : Option Int
  /-- Greatest position of the point that is written in place, if there is a limit. -/
  most : Option Int
  /-- How an exponent of zero or more is marked. -/
  positiveMark : List Char
  /-- The name of what is no number. -/
  nanName : String
  /-- The name of the infinite number. -/
  infinityName : String

/-- Numbers of thirty-two bits in a data text: positional from `0.00001` up to thirteen digits
before the point. -/
def compactSingle : Notation := ⟨some (-5), some 13, ['+'], "null", "null"⟩

/-- Numbers of sixty-four bits in a message about a data text: positional up to sixteen digits
before the point. -/
def compactDouble : Notation := ⟨some (-4), some 16, ['+'], "NaN", "inf"⟩

/-- Every digit in its place. -/
def plain : Notation := ⟨none, none, [], "NaN", "inf"⟩

/-- Whether the point is written in place. -/
def Notation.inPlace (n : Notation) (point : Int) : Bool :=
  n.least.all (· ≤ point) && n.most.all (point ≤ ·)

/-- The digits with the point in place and at least one digit on either side of it. -/
def positional (digits : List Char) (point : Int) : List Char :=
  if point ≤ 0 then '0' :: '.' :: List.replicate (-point).toNat '0' ++ digits
  else
    let places := point.toNat
    if digits.length ≤ places then
      digits ++ List.replicate (places - digits.length) '0' ++ ['.', '0']
    else digits.take places ++ '.' :: digits.drop places

/-- The digits with the point behind the first one and the exponent that this leaves. -/
def Notation.scientific (n : Notation) (digits : List Char) (point : Int) : List Char :=
  let e := point - 1
  let mark := if 0 ≤ e then n.positiveMark else ['-']
  let lead := match digits with
    | [] => ['0']
    | [d] => [d]
    | d :: ds => d :: '.' :: ds
  lead ++ 'e' :: mark ++ Nat.toDigits 10 e.natAbs

/-- The written form of `d * 10 ^ k`. -/
def Notation.write (n : Notation) (d : Nat) (k : Int) : List Char :=
  if d = 0 then ['0', '.', '0'] else
    let digits := Nat.toDigits 10 d
    let point := digits.length + k
    if n.inPlace point then positional digits point else n.scientific digits point

/-- The written form of a number: its shortest decimal, with a minus sign if its sign bit is set. -/
def Notation.text (n : Notation) (b : Binary) : String :=
  match b.magnitude with
  | .notANumber => n.nanName
  | .infinite => if b.negative then "-" ++ n.infinityName else n.infinityName
  | .finite m q edge =>
    let r := shortest m q edge
    let body := n.write r.1 r.2
    String.ofList (if b.negative then '-' :: body else body)

/-- The text of a number of thirty-two bits. -/
def Notation.singleText (n : Notation) (x : Float32) : String :=
  n.text (single.decode x.toBits.toNat)

/-- The text of a number of sixty-four bits. -/
def Notation.doubleText (n : Notation) (x : Float) : String :=
  n.text (double.decode x.toBits.toNat)

end ClusterSurvey.Decimal

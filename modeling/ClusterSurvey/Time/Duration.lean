/-!
# Durations

A duration is shown in the greatest unit of which it is at least one, with a decimal fraction as long
as it has to be.
-/

namespace ClusterSurvey

/-- A span of time in milliseconds. -/
structure Duration where
  /-- How many milliseconds it lasts. -/
  milliseconds : Nat
  deriving DecidableEq, Repr, Inhabited

namespace Duration

/-- So many seconds. -/
def ofSeconds (n : Nat) : Duration := ⟨n * 1000⟩

/-- The three digits behind the point of a number of seconds, without the zeros at their end. -/
def thousandths (n : Nat) : List Char :=
  let ds := Nat.toDigits 10 n
  ((List.replicate (3 - ds.length) '0' ++ ds).reverse.dropWhile (· = '0')).reverse

/-- The written form of a duration. -/
def text (d : Duration) : String :=
  let s := d.milliseconds / 1000
  let ms := d.milliseconds % 1000
  if s = 0 then
    if ms = 0 then "0ns" else toString ms ++ "ms"
  else if ms = 0 then toString s ++ "s"
  else toString s ++ "." ++ String.ofList (thousandths ms) ++ "s"

end Duration

end ClusterSurvey

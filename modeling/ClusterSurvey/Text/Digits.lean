/-!
# Digits

A digit of a base up to sixteen is a decimal digit or one of the letters from `a` to `f` in either
case.
-/

namespace ClusterSurvey.Text

/-- The digit that a character is in a base of up to sixteen. -/
def digitIn? (base : Nat) (c : Char) : Option Nat :=
  let d :=
    if '0' ≤ c ∧ c ≤ '9' then c.toNat - '0'.toNat
    else if 'a' ≤ c ∧ c ≤ 'f' then c.toNat - 'a'.toNat + 10
    else if 'A' ≤ c ∧ c ≤ 'F' then c.toNat - 'A'.toNat + 10
    else base
  if d < base then some d else none

/-- The number that digits stand for. -/
def ofDigits (base : Nat) (ds : List Nat) : Nat := ds.foldl (fun n d => n * base + d) 0

/-- The leading digits of a text, and what follows them. -/
def spanDigits (base : Nat) : List Char → List Nat × List Char
  | [] => ([], [])
  | c :: cs =>
    match digitIn? base c with
    | some d => let r := spanDigits base cs; (d :: r.1, r.2)
    | none => ([], c :: cs)

/-- The number of a text that is nothing but digits, and at least one. -/
def readDigits? (base : Nat) (cs : List Char) : Option Nat :=
  match spanDigits base cs with
  | ([], _) => none
  | (ds, []) => some (ofDigits base ds)
  | (_, _ :: _) => none

end ClusterSurvey.Text

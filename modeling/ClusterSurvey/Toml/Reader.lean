import ClusterSurvey.Data.Mismatch
import ClusterSurvey.Decimal.Notation
import ClusterSurvey.Toml.Document

/-!
# Readers of typed values in tables

A reader takes a value and answers with what it means or with the mismatch.  An integer of up to 128
bits is named in a mismatch; longer ones, and floating-point numbers past the greatest one, are
refused whatever is asked for.
-/

namespace ClusterSurvey.Toml

/-- Why a text could not be read as a table of values. -/
inductive ReadError where
  /-- The text is not well formed. -/
  | malformed
  /-- A number is too large for anything. -/
  | tooLarge
  /-- The text is well formed and holds something else than the reader asks for. -/
  | data (m : Mismatch)
  deriving DecidableEq, Repr

/-- What an integer is called in a mismatch. -/
def foundInteger (n : Int) : Except ReadError Found :=
  if -(Nat.pow 2 63 : Int) ≤ n ∧ n < Nat.pow 2 64 then .ok (.integer n)
  else if -(Nat.pow 2 127 : Int) ≤ n ∧ n < Nat.pow 2 127 then .ok (.wideInteger n "i128")
  else if 0 ≤ n ∧ n < Nat.pow 2 128 then .ok (.wideInteger n "u128")
  else .error .tooLarge

/-- What a value is called in a mismatch. -/
def Value.found : Value → Except ReadError Found
  | .scalar (.bool b) => .ok (.bool b)
  | .scalar (.integer n) => foundInteger n
  | .scalar (.real x) => .ok (.real (Decimal.plain.doubleText x))
  | .scalar .tooLarge => .error .tooLarge
  | .scalar (.text s) => .ok (.text s)
  | .scalar .moment => .ok .map
  | .array _ => .ok .sequence
  | .tables _ => .ok .sequence
  | .table .. => .ok .map

/-- Refuses a value that is not what was `expected`. -/
def Value.refuse {α : Type} (v : Value) (expected : String) : Except ReadError α := do
  throw (.data (.invalidType (← v.found) expected))

/-- Reads a value of one type. -/
abbrev Reader (α : Type) := Value → Except ReadError α

namespace Reader

/-- Reads a string. -/
def text : Reader String
  | .scalar (.text s) => .ok s
  | v => v.refuse "a string"

/-- Reads a natural number of so many bits. -/
def natural (bits : Nat) : Reader Nat
  | .scalar (.integer n) => do
    let wanted := "u" ++ toString bits
    match ← foundInteger n with
    | .integer n =>
      if 0 ≤ n ∧ n < Nat.pow 2 bits then return n.toNat
      else throw (.data (.invalidValue (.integer n) wanted))
    | wide => throw (.data (.invalidType wide wanted))
  | v => v.refuse ("u" ++ toString bits)

end Reader

/-- The members of a table in the order of their names. -/
def Members.sorted (ms : Members) : Members := ms.mergeSort fun a b => decide (a.1 ≤ b.1)

/-- Reads a table whose names are all `known`: each member in the order of the names is put into a
record by the setter of its name. -/
def Members.read {α : Type} (known : List (String × (Value → α → Except ReadError α))) (start : α)
    (ms : Members) : Except ReadError α :=
  ms.sorted.foldlM (fun a m =>
    match known.lookup m.1 with
    | some put => put m.2 a
    | none => .error (.data (.unknownField m.1 (known.map Prod.fst)))) start

end ClusterSurvey.Toml

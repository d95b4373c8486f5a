import ClusterSurvey.Text.Utf8

/-!
# Octets written with percent signs

In an address an octet that must not stand there itself is written as a percent sign and two digits of
base sixteen.  Reading is lenient: a percent sign without two such digits stands for itself.
-/

namespace ClusterSurvey.Net

/-- The value of an octet that is a digit of base sixteen. -/
def octetDigit? (b : UInt8) : Option Nat :=
  let n := b.toNat
  if 0x30 ≤ n ∧ n ≤ 0x39 then some (n - 0x30)
  else if 0x41 ≤ n ∧ n ≤ 0x46 then some (n - 0x41 + 10)
  else if 0x61 ≤ n ∧ n ≤ 0x66 then some (n - 0x61 + 10)
  else none

/-- The octet of the percent sign. -/
def percentSign : UInt8 := 0x25

/-- The octets that a written form stands for. -/
def percentDecode : List UInt8 → List UInt8
  | p :: a :: b :: rest =>
    if p = percentSign then
      match octetDigit? a, octetDigit? b with
      | some x, some y => UInt8.ofNat (x * 16 + y) :: percentDecode rest
      | _, _ => p :: percentDecode (a :: b :: rest)
    else p :: percentDecode (a :: b :: rest)
  | p :: rest => p :: percentDecode rest
  | [] => []

/-- The upper-case digit of a number below sixteen. -/
def upperDigit (n : Nat) : Char := (Nat.digitChar n).toUpper

/-- An octet behind a percent sign. -/
def percentOctet (b : UInt8) : List Char :=
  ['%', upperDigit (b.toNat / 16), upperDigit (b.toNat % 16)]

/-- The octets of a character behind percent signs. -/
def percentChar (c : Char) : List Char :=
  (Text.octets (String.singleton c)).data.toList.flatMap percentOctet

/-- The written form of a text in which the characters of `escaped` stand behind percent signs. -/
def percentEncode (escaped : Char → Bool) (cs : List Char) : List Char :=
  cs.flatMap fun c => if escaped c then percentChar c else [c]

/-- The text that a written form stands for, if it stands for one. -/
def percentText? (s : String) : Option String :=
  Text.ofOctets? ⟨(percentDecode (Text.octets s).data.toList).toArray⟩

end ClusterSurvey.Net

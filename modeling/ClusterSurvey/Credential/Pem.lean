import ClusterSurvey.Text.Split

/-!
# Armoured sections

Certificates and keys travel as sections of a text: a line that begins a section and names its kind,
lines of octets in base sixty-four, and a line that ends it.  Whatever stands outside of sections is
passed over, as are sections of an unknown kind.
-/

namespace ClusterSurvey.Pem

/-- Why a text cannot be read as sections. -/
inductive PemError where
  /-- The line that begins a section does not end with five hyphens. -/
  | badBeginning
  /-- The text ends inside a section. -/
  | unfinished
  /-- The content of a section is not in base sixty-four. -/
  | badContent
  deriving DecidableEq, Repr

/-- The kinds of sections that are known. -/
inductive Kind where
  | certificate
  | privateKey
  /-- A known kind that is neither. -/
  | other
  deriving DecidableEq, Repr

/-- The kind of a label, if it is known. -/
def kindOf? (label : String) : Option Kind :=
  if label = "CERTIFICATE" then some .certificate
  else if ["PRIVATE KEY", "RSA PRIVATE KEY", "EC PRIVATE KEY"].contains label then some .privateKey
  else if ["PUBLIC KEY", "X509 CRL", "CERTIFICATE REQUEST", "ECHCONFIG"].contains label then
    some .other
  else none

/-- The value of a digit in base sixty-four. -/
def sextet? (c : Char) : Option Nat :=
  if 'A' ≤ c ∧ c ≤ 'Z' then some (c.toNat - 'A'.toNat)
  else if 'a' ≤ c ∧ c ≤ 'z' then some (c.toNat - 'a'.toNat + 26)
  else if '0' ≤ c ∧ c ≤ '9' then some (c.toNat - '0'.toNat + 52)
  else if c = '+' then some 62
  else if c = '/' then some 63
  else none

/-- The octets of four digits, of which the last one or two may be padding. -/
def quartet? : List Char → Option (List UInt8)
  | [a, b, '=', '='] => do
    let x ← sextet? a
    let y ← sextet? b
    return [UInt8.ofNat (x * 4 + y / 16)]
  | [a, b, c, '='] => do
    let x ← sextet? a
    let y ← sextet? b
    let z ← sextet? c
    return [UInt8.ofNat (x * 4 + y / 16), UInt8.ofNat (y % 16 * 16 + z / 4)]
  | [a, b, c, d] => do
    let x ← sextet? a
    let y ← sextet? b
    let z ← sextet? c
    let w ← sextet? d
    return [UInt8.ofNat (x * 4 + y / 16), UInt8.ofNat (y % 16 * 16 + z / 4),
      UInt8.ofNat (z % 4 * 64 + w)]
  | _ => none

/-- The octets of a text in base sixty-four without blanks.  Only the last four digits may be
padded. -/
def decode? : List Char → Option (List UInt8)
  | [] => some []
  | a :: b :: c :: d :: rest => do
    let head ← quartet? [a, b, c, d]
    if d = '=' ∧ rest ≠ [] then none
    else do
      let tail ← decode? rest
      return head ++ tail
  | _ => none

/-- A section of a text. -/
structure Section where
  /-- What it holds. -/
  kind : Kind
  /-- Its octets. -/
  content : ByteArray

/-- The label of a line that begins a section; nothing if the line is not one. -/
def beginning? (line : List Char) : Option (Except PemError String) :=
  if "-----BEGIN ".toList.isPrefixOf line then
    let back := line.reverse.dropWhile fun c => c = ' '
    let dashes := back.takeWhile (· = '-')
    if dashes.length = 5 then
      some (.ok (String.ofList ((back.drop 5).reverse.drop 11)))
    else some (.error .badBeginning)
  else none

/-- Whether a line ends a section with this label. -/
def isEnd (label : String) (line : List Char) : Bool :=
  ("-----END ".toList ++ label.toList ++ "-----".toList).isPrefixOf line

/-- Whether a character is passed over in the content of a section. -/
def isFiller (c : Char) : Bool := c = ' ' || c = '\t'

/-- Reads lines; `current` is the section in which they stand and its content so far. -/
def readLines : Option (String × List Char) → List (List Char) → Except PemError (List Section)
  | none, [] => .ok []
  | some _, [] => .error .unfinished
  | current, line :: rest =>
    match beginning? line with
    | some (.error e) => .error e
    | some (.ok label) => readLines (some (label, (current.map (·.2)).getD [])) rest
    | none =>
      match current with
      | none => readLines none rest
      | some (label, content) =>
        if isEnd label line then
          match kindOf? label with
          | none => readLines none rest
          | some kind =>
            match decode? (content.filter (!isFiller ·)) with
            | none => .error .badContent
            | some octets => (readLines none rest).map (⟨kind, ⟨octets.toArray⟩⟩ :: ·)
        else readLines (some (label, content ++ line)) rest

/-- The lines of a text; either of the two line characters ends one. -/
def linesOf (s : String) : List (List Char) :=
  Text.splitAt '\n' (s.toList.map fun c => if c = '\r' then '\n' else c)

/-- The sections of a text. -/
def sections (s : String) : Except PemError (List Section) := readLines none (linesOf s)

end ClusterSurvey.Pem

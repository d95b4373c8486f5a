import ClusterSurvey.Decimal.Notation

/-!
# JSON values and their written form

An object keeps its members in the order in which they were put there, so the written form is
determined by the value.  It has no blanks; strings escape the quote, the backslash and the control
characters below U+0020, and nothing else.
-/

namespace ClusterSurvey

/-- A JSON value.  Numbers are integers, or floating-point numbers of thirty-two bits. -/
inductive Json where
  | null
  | bool (b : Bool)
  | int (n : Int)
  | single (x : Float32)
  | string (s : String)
  | array (items : List Json)
  | object (members : List (String × Json))

namespace Json

/-- The lower-case digit of a number below sixteen. -/
def hexDigit (n : Nat) : Char := Nat.digitChar n

/-- The escape of one character inside a string. -/
def escape (c : Char) : List Char :=
  if c = '"' then ['\\', '"']
  else if c = '\\' then ['\\', '\\']
  else if c = '\u0008' then ['\\', 'b']
  else if c = '\u000c' then ['\\', 'f']
  else if c = '\n' then ['\\', 'n']
  else if c = '\r' then ['\\', 'r']
  else if c = '\t' then ['\\', 't']
  else if c.toNat < 0x20 then
    ['\\', 'u', '0', '0', hexDigit (c.toNat / 16), hexDigit (c.toNat % 16)]
  else [c]

/-- A string between quotes. -/
def renderString (s : String) : List Char :=
  '"' :: s.toList.flatMap escape ++ ['"']

/-- An integer in base ten. -/
def renderInt : Int → List Char
  | .ofNat n => Nat.toDigits 10 n
  | .negSucc n => '-' :: Nat.toDigits 10 (n + 1)

mutual

/-- The written form as characters. -/
def renderChars : Json → List Char
  | .null => ['n', 'u', 'l', 'l']
  | .bool true => ['t', 'r', 'u', 'e']
  | .bool false => ['f', 'a', 'l', 's', 'e']
  | .int n => renderInt n
  | .single x => (Decimal.compactSingle.singleText x).toList
  | .string s => renderString s
  | .array items => '[' :: renderItems items
  | .object members => '\x7b' :: renderMembers members

/-- The items of an array and its closing bracket. -/
def renderItems : List Json → List Char
  | [] => [']']
  | [v] => renderChars v ++ [']']
  | v :: rest => renderChars v ++ ',' :: renderItems rest

/-- The members of an object and its closing brace. -/
def renderMembers : List (String × Json) → List Char
  | [] => ['\x7d']
  | [(k, v)] => renderString k ++ ':' :: renderChars v ++ ['\x7d']
  | (k, v) :: rest => renderString k ++ ':' :: renderChars v ++ ',' :: renderMembers rest

end

/-- The written form of a value. -/
def render (j : Json) : String := String.ofList (renderChars j)

/-- A text, or null where there is none. -/
def ofText? : Option String → Json
  | some s => .string s
  | none => .null

/-- A list of texts. -/
def ofTexts (ss : List String) : Json := .array (ss.map .string)

/-- A natural number. -/
def ofNat (n : Nat) : Json := .int n

end Json

end ClusterSurvey

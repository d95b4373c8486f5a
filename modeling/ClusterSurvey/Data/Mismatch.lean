import ClusterSurvey.Text.Quoted

/-!
# Data of the wrong shape

A structured text can be well written and still not hold what its reader asks for.  A mismatch is
the cause: a value of another kind, a value out of range, a list of the wrong length, a name nobody
knows, or a field that is absent or there twice.
-/

namespace ClusterSurvey

/-- What a reader met in place of what it wanted. -/
inductive Found where
  | null
  | bool (b : Bool)
  | integer (n : Int)
  /-- An integer past sixty-four bits and the name of the width that it takes. -/
  | wideInteger (n : Int) (width : String)
  /-- A floating-point number as it is written in messages. -/
  | real (text : String)
  | text (s : String)
  | sequence
  | map
  /-- The bare name of a variant. -/
  | bareName
  deriving DecidableEq, Repr

/-- How a message names what was found. -/
def Found.describe : Found → String
  | .null => "null"
  | .bool true => "boolean `true`"
  | .bool false => "boolean `false`"
  | .integer n => "integer `" ++ toString n ++ "`"
  | .wideInteger n width => "integer `" ++ toString n ++ "` as " ++ width
  | .real digits => "floating point `" ++ digits ++ "`"
  | .text s => "string " ++ Text.quoted s
  | .sequence => "sequence"
  | .map => "map"
  | .bareName => "unit variant"

/-- Why a text does not hold what its reader asks for. -/
inductive Mismatch where
  | invalidType (found : Found) (expected : String)
  | invalidValue (found : Found) (expected : String)
  | invalidLength (length : Nat) (expected : String)
  | unknownVariant (name : String) (known : List String)
  | unknownField (name : String) (known : List String)
  | missingField (name : String)
  | duplicateField (name : String)
  deriving DecidableEq, Repr

/-- A name between back quotes. -/
def backQuoted (s : String) : String := "`" ++ s ++ "`"

/-- How a message lists the names that would have done. -/
def expectedNames : List String → String
  | [] => "there are none"
  | [a] => "expected " ++ backQuoted a
  | [a, b] => "expected " ++ backQuoted a ++ " or " ++ backQuoted b
  | names => "expected one of " ++ ", ".intercalate (names.map backQuoted)

/-- The wording of a mismatch. -/
def Mismatch.message : Mismatch → String
  | .invalidType found expected =>
    "invalid type: " ++ found.describe ++ ", expected " ++ expected
  | .invalidValue found expected =>
    "invalid value: " ++ found.describe ++ ", expected " ++ expected
  | .invalidLength n expected => "invalid length " ++ toString n ++ ", expected " ++ expected
  | .unknownVariant name known =>
    "unknown variant " ++ backQuoted name ++ ", " ++ expectedNames known
  | .unknownField name known => "unknown field " ++ backQuoted name ++ ", " ++ expectedNames known
  | .missingField name => "missing field " ++ backQuoted name
  | .duplicateField name => "duplicate field " ++ backQuoted name

end ClusterSurvey

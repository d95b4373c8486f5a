import ClusterSurvey.Data.Mismatch
import ClusterSurvey.Json.Basic
import ClusterSurvey.Json.Draft

/-!
# Readers of typed values

A reader takes a draft and answers with a value or with the first thing that stands in its way.
Records are read from objects, whose fields may stand in any order and among unknown ones, or from
arrays that hold the fields in the order of their declaration.
-/

namespace ClusterSurvey.Json

/-- Why a text could not be read as a value. -/
inductive ReadError where
  /-- The text is no JSON. -/
  | fault (f : Fault)
  /-- The text is JSON up to a place that holds something else than the reader asks for. -/
  | data (m : Mismatch)
  deriving DecidableEq, Repr

/-- Reads a value of one type. -/
abbrev Reader (α : Type) := Draft → Except ReadError α

/-- A mismatch as the outcome of reading. -/
def refuse {α : Type} (m : Mismatch) : Except ReadError α := .error (.data m)

/-- A fault as the outcome of reading. -/
def fail {α : Type} (f : Fault) : Except ReadError α := .error (.fault f)

/-- What a number is called in a message. -/
def Number.found : Number → Found
  | .natural n => .integer n
  | .negative n => .integer (-n)
  | .real x => .real (Decimal.compactDouble.doubleText x)

/-- Refuses a draft that is not what was `expected`. -/
def refuseType {α : Type} (d : Draft) (expected : String) : Except ReadError α :=
  match d with
  | .null => refuse (.invalidType .null expected)
  | .bool b => refuse (.invalidType (.bool b) expected)
  | .number n => refuse (.invalidType n.found expected)
  | .string s => refuse (.invalidType (.text s) expected)
  | .array .. => refuse (.invalidType .sequence expected)
  | .object .. => refuse (.invalidType .map expected)
  | .unreadable => fail .malformed
  | .broken b => fail b.onRead

namespace Reader

/-- Reads a string. -/
def text : Reader String
  | .string s => .ok s
  | d => refuseType d "a string"

/-- Reads a truth value. -/
def bool : Reader Bool
  | .bool b => .ok b
  | d => refuseType d "a boolean"

/-- Reads a natural number of so many bits. -/
def natural (bits : Nat) : Reader Nat
  | .number (.natural n) =>
    if n < Nat.pow 2 bits then .ok n
    else refuse (.invalidValue (.integer n) ("u" ++ toString bits))
  | .number (.negative n) => refuse (.invalidValue (.integer (-n)) ("u" ++ toString bits))
  | d => refuseType d ("u" ++ toString bits)

/-- Reads a floating-point number and rounds it to thirty-two bits. -/
def single : Reader Float32
  | .number (.natural n) => .ok (UInt64.ofNat n).toFloat32
  | .number (.negative n) => .ok (-(UInt64.ofNat n).toFloat32)
  | .number (.real x) => .ok x.toFloat32
  | d => refuseType d "f32"

/-- Reads a null. -/
def unit : Reader Unit
  | .null => .ok ()
  | d => refuseType d "unit"

/-- Reads a null as nothing and anything else as a value. -/
def option {α : Type} (r : Reader α) : Reader (Option α)
  | .null => .ok none
  | d => (r d).map some

/-- The break behind the last part of a value, if there is one. -/
def finish : Option Break → Except ReadError Unit
  | none => .ok ()
  | some b => fail b.onRead

/-- Reads an array of values. -/
def list {α : Type} (r : Reader α) : Reader (List α)
  | .array items ending => do
    let values ← items.mapM r
    finish ending
    return values
  | d => refuseType d "a sequence"

end Reader

/-- A field of a record as far as the search for it goes. -/
structure Field where
  /-- Its name. -/
  name : String
  /-- Whether a value can be read as the field's type. -/
  check : Draft → Except ReadError Unit
  /-- Whether a sequence may end in front of it. -/
  mayLack : Bool

/-- The fields of a record and how they make up its value. -/
structure RecordReader (α : Type) where
  /-- The fields in order. -/
  fields : List Field
  /-- The value, given the drafts found for the fields' names. -/
  build : (String → Option Draft) → Except ReadError α

namespace RecordReader

/-- A record without fields. -/
def pure {α : Type} (a : α) : RecordReader α := ⟨[], fun _ => .ok a⟩

/-- A record with the fields of both. -/
def seq {α β : Type} (f : RecordReader (α → β)) (x : Unit → RecordReader α) : RecordReader β :=
  ⟨f.fields ++ (x ()).fields, fun found => do
    let g ← f.build found
    let a ← (x ()).build found
    return g a⟩

instance : Applicative RecordReader where
  pure := pure
  seq := seq

/-- A field that has to be there. -/
def required {α : Type} (name : String) (r : Reader α) : RecordReader α :=
  ⟨[⟨name, fun d => (r d).map fun _ => (), false⟩], fun found =>
    match found name with
    | some d => r d
    | none => refuse (.missingField name)⟩

/-- A field that stands for `default` where it is absent. -/
def optional {α : Type} (name : String) (r : Reader α) (default : α) : RecordReader α :=
  ⟨[⟨name, fun d => (r d).map fun _ => (), true⟩], fun found =>
    match found name with
    | some d => r d
    | none => .ok default⟩

/-- Goes through the members of an object and keeps those that are fields. -/
def collect (fields : List Field) :
    List (String × Draft) → List (KeyText × Draft) → Except ReadError (List (String × Draft))
  | found, [] => .ok found
  | found, (.name k, v) :: rest =>
    match fields.find? (·.name = k) with
    | some field =>
      if (found.lookup k).isSome then refuse (.duplicateField k)
      else do
        field.check v
        collect fields (found ++ [(k, v)]) rest
    | none =>
      match v.skip with
      | some f => fail f
      | none => collect fields found rest
  | _, (.broken b, _) :: _ => fail b.onRead
  | _, (.unreadable, _) :: _ => fail .malformed
  | _, (.missing, _) :: _ => fail .malformed

/-- The text that asks for a record of so many fields. -/
def withElements (title : String) (n : Nat) : String :=
  title ++ " with " ++ toString n ++ (if n = 1 then " element" else " elements")

/-- Goes through the items of an array and gives them to the fields in turn. -/
def deal (title : String) (total : Nat) :
    List Field → Nat → List Draft → Option Break → Except ReadError (List (String × Draft))
  | [], _, [], ending => do
    Reader.finish ending
    return []
  | [], _, _ :: _, _ => fail .malformed
  | f :: fs, i, [], ending => do
    Reader.finish ending
    if f.mayLack then deal title total fs (i + 1) [] ending
    else refuse (.invalidLength i (withElements title total))
  | f :: fs, i, v :: vs, ending => do
    f.check v
    let rest ← deal title total fs (i + 1) vs ending
    return (f.name, v) :: rest

/-- Reads a record; `title` names it in messages. -/
def read {α : Type} (title : String) (r : RecordReader α) : Reader α
  | .object members ending => do
    let found ← collect r.fields [] members
    Reader.finish ending
    r.build fun name => found.lookup name
  | .array items ending => do
    let found ← deal title r.fields.length r.fields 0 items ending
    r.build fun name => found.lookup name
  | d => refuseType d title

end RecordReader

/-- One of several named forms of a value: what its bare name stands for and how its content is
read. -/
structure Variant (α : Type) where
  /-- Its name. -/
  name : String
  /-- The value of the bare name. -/
  bare : Except ReadError α
  /-- How the content is read. -/
  content : Reader α

/-- A variant that has no content. -/
def Variant.constant {α : Type} (name : String) (a : α) : Variant α :=
  ⟨name, .ok a, fun d => (Reader.unit d).map fun _ => a⟩

/-- A variant whose content is a record. -/
def Variant.record {α : Type} (name : String) (r : Reader α) : Variant α :=
  ⟨name, refuse (.invalidType .bareName "struct variant"), r⟩

/-- Finds a variant by its name. -/
def Variant.find {α : Type} (known : List (Variant α)) (name : String) :
    Except ReadError (Variant α) :=
  match known.find? (·.name = name) with
  | some v => .ok v
  | none => refuse (.unknownVariant name (known.map Variant.name))

/-- Reads one of several variants: the bare name, or an object with the name as its only member. -/
def Reader.variant {α : Type} (known : List (Variant α)) : Reader α
  | .string s => do
    let v ← Variant.find known s
    v.bare
  | .object ((.name k, d) :: more) ending => do
    let v ← Variant.find known k
    let a ← v.content d
    if more.isEmpty then finish ending else fail .malformed
    return a
  | .object ((.missing, d) :: _) _ => refuseType d "variant identifier"
  | .object ((.broken b, _) :: _) _ => fail b.onRead
  | .object [] (some b) => fail b.onRead
  | .broken b => fail b.onVariant
  | _ => fail .malformed

/-- Reads a whole text as one value. -/
def Reader.ofText {α : Type} (r : Reader α) (s : String) : Except ReadError α := do
  let doc := Document.ofText s
  let a ← r doc.value
  if doc.excess then fail .malformed
  return a

end ClusterSurvey.Json

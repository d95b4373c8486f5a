import ClusterSurvey.Json.Reader
import ClusterSurvey.Text.Quoted

/-!
# Result keys

A run collects one result per key.  A key is a result type together with the node that owes the
result, or with no node if one unit answers for the whole cluster.  Results are filed under the
key's scope and type, so both have to be names that can stand alone in a path.

Specification: section 3, `ExpectedResult`.
-/

namespace ClusterSurvey

/-- The scope of results that belong to the cluster as a whole. -/
def clusterScope : String := "global"

/-- What a result answers for.  The node is empty for a result of the whole cluster. -/
structure ResultKey where
  /-- The node that owes the result. -/
  node : String
  /-- The type of the result. -/
  resultType : String
  deriving DecidableEq, Repr, Hashable, Inhabited

/-- What is wrong with a key. -/
inductive KeyError where
  /-- A text that cannot stand alone in a path. -/
  | invalidSegment (segment : String)
  /-- A key that the run does not expect. -/
  | unknownResult (key : ResultKey)
  deriving DecidableEq, Repr

/-- Whether a character belongs to the controls: those below the space, and those from the delete
character to U+009F. -/
def isControl (c : Char) : Bool := c.toNat < 0x20 || (0x7f ≤ c.toNat && c.toNat ≤ 0x9f)

/-- Whether a character may stand in a path segment. -/
def isSegmentChar (c : Char) : Bool := c ≠ '/' && c ≠ '\\' && !isControl c

/-- A text that can stand alone in a path: not empty, not hidden by a leading dot, without
separators and controls. -/
def isSegment (s : String) : Bool :=
  match s.toList with
  | [] => false
  | c :: cs => c ≠ '.' && (c :: cs).all isSegmentChar

/-- What makes a text a segment. -/
theorem isSegment_iff (s : String) :
    isSegment s = true ↔
      s ≠ "" ∧ s.toList.head? ≠ some '.' ∧ ∀ c ∈ s.toList, isSegmentChar c = true := by
  have hempty : s ≠ "" ↔ s.toList ≠ [] := not_congr String.toList_eq_nil_iff.symm
  rw [hempty, isSegment]
  cases s.toList with
  | nil => simp
  | cons c cs => simp

/-- A segment has no separators. -/
theorem clear_of_isSegment {s : String} (h : isSegment s = true) :
    '/' ∉ s.toList ∧ '\\' ∉ s.toList := by
  have hall := ((isSegment_iff s).mp h).2.2
  constructor
  · intro hslash
    have hchar := hall '/' hslash
    revert hchar
    decide
  · intro hback
    have hchar := hall '\\' hback
    revert hchar
    decide

/-- Refuses a text that is no segment. -/
def checkSegment (s : String) : Except KeyError Unit :=
  if isSegment s then .ok () else .error (.invalidSegment s)

namespace ResultKey

/-- The key of a result of the whole cluster. -/
def forCluster (resultType : String) : ResultKey := ⟨"", resultType⟩

/-- Whether the result belongs to the whole cluster. -/
def isClusterWide (k : ResultKey) : Bool := k.node.isEmpty

/-- The name under which the key's results are filed: its node, or the cluster's scope. -/
def scope (k : ResultKey) : String := if k.isClusterWide then clusterScope else k.node

/-- The key as messages show it. -/
def display (k : ResultKey) : String := k.scope ++ "/" ++ k.resultType

/-- Refuses a key whose node, if it has one, or else its type is no segment. -/
def check (k : ResultKey) : Except KeyError Unit := do
  if !k.isClusterWide then checkSegment k.node
  checkSegment k.resultType

/-- Whether both parts of a key can stand alone in a path. -/
def isValid (k : ResultKey) : Bool :=
  (k.isClusterWide || isSegment k.node) && isSegment k.resultType

/-- A key passes the check exactly if it is valid. -/
theorem check_eq_ok_iff (k : ResultKey) : k.check = .ok () ↔ k.isValid = true := by
  unfold check isValid checkSegment
  cases k.isClusterWide <;> cases isSegment k.node <;> cases isSegment k.resultType <;>
    simp [bind, Except.bind]

/-- A key that fails it is not. -/
theorem isValid_of_check_eq_error {k : ResultKey} {e : KeyError} (h : k.check = .error e) :
    k.isValid = false := by
  rw [← Bool.not_eq_true]
  intro valid
  rw [k.check_eq_ok_iff.mpr valid] at h
  cases h

/-- The order of keys: by node and then by type, character by character. -/
def precedes (a b : ResultKey) : Bool :=
  a.node < b.node || (a.node = b.node && (a.resultType < b.resultType ||
    a.resultType = b.resultType))

/-- Keys in order. -/
def sort (keys : List ResultKey) : List ResultKey := keys.mergeSort precedes

/-- The keys without repetitions, each where it first stands. -/
def distinct : List ResultKey → List ResultKey
  | [] => []
  | k :: ks => k :: (distinct ks).filter (· ≠ k)

/-- The JSON form of a key. -/
def toJson (k : ResultKey) : Json :=
  .object [("node_name", .string k.node), ("result_type", .string k.resultType)]

/-- Reads a key; without a node it belongs to the whole cluster. -/
def reader : Json.Reader ResultKey :=
  Json.RecordReader.read "struct ExpectedResult" <|
    mk <$> .optional "node_name" .text "" <*> .required "result_type" .text

end ResultKey

/-- The wording of a key's error. -/
def KeyError.message : KeyError → String
  | .invalidSegment s => "invalid path segment: " ++ Text.quoted s
  | .unknownResult k => "result " ++ k.display ++ " is not expected in this run"

end ClusterSurvey

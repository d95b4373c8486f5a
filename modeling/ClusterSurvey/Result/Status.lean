import ClusterSurvey.Result.Key

/-!
# The status of a run

A run's status holds an entry for each expected result and an aggregate of them.  One failed entry
fails the run at once; the run is complete when every entry is.

Specification: section 10.6, `RunStatus` and `PluginStatus`.
-/

namespace ClusterSurvey

/-- How far a result, or a whole run, has come. -/
inductive Status where
  | running
  | complete
  | failed
  deriving DecidableEq, Repr, Inhabited

namespace Status

/-- The name of a status. -/
def name : Status → String
  | running => "running"
  | complete => "complete"
  | failed => "failed"

/-- The JSON form of a status. -/
def toJson (s : Status) : Json := .string s.name

/-- Reads a status. -/
def reader : Json.Reader Status :=
  .variant [.constant "running" running, .constant "complete" complete, .constant "failed" failed]

/-- The aggregate of several statuses. -/
def aggregate (ss : List Status) : Status :=
  if ss.any (· = failed) then failed
  else if ss.all (· = complete) then complete
  else running

end Status

/-- The status of one expected result. -/
structure ResultStatus where
  /-- The type of the result. -/
  resultType : String
  /-- The node that owes it, empty for a result of the whole cluster. -/
  node : String
  /-- How far it has come. -/
  status : Status
  deriving DecidableEq, Repr, Inhabited

namespace ResultStatus

/-- The key that an entry is about. -/
def key (e : ResultStatus) : ResultKey := ⟨e.node, e.resultType⟩

/-- The entry of a key that has just been expected. -/
def awaiting (k : ResultKey) : ResultStatus := ⟨k.resultType, k.node, .running⟩

/-- The JSON form of an entry. -/
def toJson (e : ResultStatus) : Json :=
  .object [("plugin", .string e.resultType), ("node", .string e.node), ("status", e.status.toJson)]

/-- Reads an entry. -/
def reader : Json.Reader ResultStatus :=
  Json.RecordReader.read "struct PluginStatus" <|
    mk <$> .required "plugin" .text <*> .optional "node" .text "" <*>
      .required "status" Status.reader

end ResultStatus

/-- The status of a run: an aggregate and the entries it sums up. -/
structure RunStatus where
  /-- The status of the run as a whole. -/
  status : Status
  /-- One entry per expected result. -/
  entries : List ResultStatus
  deriving DecidableEq, Repr, Inhabited

namespace RunStatus

/-- A status with the aggregate of its entries. -/
def ofEntries (es : List ResultStatus) : RunStatus := ⟨Status.aggregate (es.map (·.status)), es⟩

/-- The status at the start of a run: every entry is running, and nothing to wait for is complete. -/
def start (expected : List ResultKey) : RunStatus := ofEntries (expected.map .awaiting)

/-- Changes the first entry of a key. -/
def setFirst (k : ResultKey) (s : Status) : List ResultStatus → List ResultStatus
  | [] => []
  | e :: es => if e.key = k then { e with status := s } :: es else e :: setFirst k s es

/-- Records a status for a key and sums up the entries anew. -/
def update (r : RunStatus) (k : ResultKey) (s : Status) : Except KeyError RunStatus :=
  if r.entries.any (·.key = k) then .ok (ofEntries (setFirst k s r.entries))
  else .error (.unknownResult k)

/-- The status of a key's first entry. -/
def get? (r : RunStatus) (k : ResultKey) : Option Status :=
  (r.entries.find? (·.key = k)).map (·.status)

/-- The JSON form of a run's status. -/
def toJson (r : RunStatus) : Json :=
  .object [("status", r.status.toJson), ("plugins", .array (r.entries.map ResultStatus.toJson))]

/-- Reads a run's status; the aggregate is taken as it is written. -/
def reader : Json.Reader RunStatus :=
  Json.RecordReader.read "struct RunStatus" <|
    mk <$> .required "status" Status.reader <*> .required "plugins" (.list ResultStatus.reader)

end RunStatus

end ClusterSurvey

import ClusterSurvey.Json.Basic

/-!
# Execution units and their health

The cluster shows each unit of a workload with its conditions and the state of its containers.  From
these one can tell that a unit will not produce a result any more: it cannot be scheduled, one of its
containers keeps restarting, or one waits for an image that cannot be fetched.

Specification: section 4.2, the failures of which `Monitor` tells.
-/

namespace ClusterSurvey

/-- Why the cluster did not do as it was asked. -/
inductive ClusterError where
  /-- The request failed. -/
  | api (text : String)
  /-- The object is not there. -/
  | notFound (text : String)
  deriving DecidableEq, Repr

/-- The wording of a cluster error. -/
def ClusterError.message : ClusterError → String
  | api text => "cluster API request failed: " ++ text
  | notFound text => "cluster object not found: " ++ text

/-- Something the cluster says about a unit. -/
structure UnitCondition where
  /-- The kind of the condition. -/
  reason : String
  /-- What it says. -/
  message : String
  deriving DecidableEq, Repr, Inhabited

/-- The state of a container. -/
structure ContainerState where
  /-- The name of the container. -/
  name : String
  /-- How often it has been started again. -/
  restarts : Nat
  /-- Why it waits, if it does. -/
  waiting : Option String
  deriving DecidableEq, Repr, Inhabited

/-- A unit as the cluster shows it. -/
structure ExecutionUnit where
  /-- The name of the unit. -/
  name : String
  /-- The node on which it runs, once it has one. -/
  node : Option String
  /-- What the cluster says about it. -/
  conditions : List UnitCondition
  /-- Its containers. -/
  containers : List ContainerState
  deriving DecidableEq, Repr, Inhabited

/-- A look at the units of a workload. -/
abbrev Observation := Except ClusterError (List ExecutionUnit)

/-- How many restarts a container is allowed. -/
def maxRestarts : Nat := 2

namespace UnitCondition

/-- Whether the condition says that the unit cannot be scheduled. -/
def isUnschedulable (c : UnitCondition) : Bool := c.reason = "Unschedulable"

/-- The JSON form of a condition. -/
def toJson (c : UnitCondition) : Json :=
  .object [("reason", .string c.reason), ("message", .string c.message)]

end UnitCondition

namespace ContainerState

/-- Whether the container has been started again too often. -/
def isCrashing (c : ContainerState) : Bool := maxRestarts < c.restarts

/-- The reason for which the container waits, if it is that its image cannot be fetched. -/
def pullFailure? (c : ContainerState) : Option String :=
  c.waiting.filter fun reason => reason = "ImagePullBackOff" || reason = "ErrImagePull"

/-- What is wrong with a container of the named unit; restarts are told before waiting. -/
def failure? (unit : String) (c : ContainerState) : Option String :=
  if c.isCrashing then
    some ("container " ++ c.name ++ " in unit " ++ unit ++ " has restarted " ++
      toString c.restarts ++ " times")
  else
    c.pullFailure?.map fun reason =>
      "container " ++ c.name ++ " in unit " ++ unit ++ " is in state " ++ reason

/-- The JSON form of a container's state. -/
def toJson (c : ContainerState) : Json :=
  .object [("name", .string c.name), ("restart_count", .ofNat c.restarts),
    ("waiting_reason", .ofText? c.waiting)]

end ContainerState

namespace ExecutionUnit

/-- Why a unit can no longer produce a result, if it cannot: the first condition that makes it
unschedulable, or else the first container with which something is wrong. -/
def failure? (u : ExecutionUnit) : Option String :=
  match u.conditions.find? UnitCondition.isUnschedulable with
  | some c => some ("unit " ++ u.name ++ " can't be scheduled: " ++ c.message)
  | none => u.containers.findSome? (ContainerState.failure? u.name)

/-- The JSON form of a unit. -/
def toJson (u : ExecutionUnit) : Json :=
  .object [("name", .string u.name), ("node_name", .ofText? u.node),
    ("conditions", .array (u.conditions.map UnitCondition.toJson)),
    ("containers", .array (u.containers.map ContainerState.toJson))]

end ExecutionUnit

end ClusterSurvey

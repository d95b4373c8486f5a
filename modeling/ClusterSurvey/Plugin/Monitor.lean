import ClusterSurvey.Plugin.Instance
import ClusterSurvey.Result.Failure

/-!
# Watching a plugin's units

A monitor sleeps, wakes, looks at the units of its instance and reports those that can no longer
produce a result.  When it wakes it ends if the instance has been cleaned up; between waking and the
answer of the cluster it does not look at that again.

The monitor of a job reports once, whatever is wrong, and ends.  The monitor of a daemon set reports
each node once, passes over an observation that failed, and ends when every node has been reported.

Specification: section 4.2, `Monitor`, and section 5 for the flag that `Cleanup` sets.
-/

namespace ClusterSurvey

/-- What a monitor is doing. -/
inductive MonitorPhase where
  /-- It sleeps until the next look. -/
  | asleep
  /-- It waits for the cluster's answer. -/
  | looking
  /-- It has ended. -/
  | ended
  deriving DecidableEq, Repr

/-- A monitor of one instance. -/
structure Monitor where
  /-- The instance that it watches. -/
  owner : Instance
  /-- The nodes on which units are expected, each once. -/
  nodes : List String
  /-- The nodes that have been reported. -/
  reported : List String
  /-- What it is doing. -/
  phase : MonitorPhase
  deriving DecidableEq, Repr

/-- The elements of a list without repetitions, each where it first stands. -/
def firstOccurrences : List String → List String
  | [] => []
  | s :: ss => s :: (firstOccurrences ss).filter (· ≠ s)

namespace Monitor

/-- The key of a job's one result. -/
def jobKey (i : Instance) : ResultKey := .forCluster i.resultType

/-- What is wrong with the units of a job, if anything. -/
def jobFailure? (i : Instance) : Observation → Option LocalResult
  | .error e => some (.failure (jobKey i) ("failed to list units: " ++ e.message) none)
  | .ok [u] => u.failure?.map fun reason => .failure (jobKey i) reason (some u.name)
  | .ok units =>
    some (.failure (jobKey i) ("expected 1 unit, found " ++ toString units.length) none)

/-- The node for which a failing unit is to be reported, with the report: one of the expected nodes
that has not been reported. -/
def nodeFailure? (i : Instance) (nodes reported : List String) (u : ExecutionUnit) :
    Option (String × LocalResult) := do
  let node ← u.node
  if node ∈ nodes ∧ node ∉ reported then
    let reason ← u.failure?
    return (node, .failure ⟨node, i.resultType⟩ reason (some u.name))
  else none

/-- The reports of an observation in the order of its units, each with its node. -/
def nodeFailures (i : Instance) (nodes : List String) :
    List String → List ExecutionUnit → List (String × LocalResult)
  | _, [] => []
  | reported, u :: us =>
    match nodeFailure? i nodes reported u with
    | some r => r :: nodeFailures i nodes (reported ++ [r.1]) us
    | none => nodeFailures i nodes reported us

/-- Whether every node has been reported. -/
def allReported (nodes reported : List String) : Bool := nodes.length ≤ reported.length

/-- A monitor that starts to watch an instance. -/
def start (i : Instance) (nodes : List String) : Monitor :=
  match i.definition.driver with
  | .job => ⟨i, [], [], .asleep⟩
  | .daemonSet =>
    let nodes := firstOccurrences nodes
    ⟨i, nodes, [], if allReported nodes [] then .ended else .asleep⟩

/-- The namespace in which it looks for units, and the selector by which it does. -/
def query (m : Monitor) : String × String := (m.owner.settings.cluster, m.owner.selector)

/-- The monitor wakes and finds its instance cleaned up or not. -/
def wake (m : Monitor) (cleaned : Bool) : Monitor :=
  { m with phase := if cleaned then .ended else .looking }

@[simp]
theorem phase_wake (m : Monitor) (cleaned : Bool) :
    (m.wake cleaned).phase = if cleaned then .ended else .looking := rfl

/-- The reports to which an observation gives rise, each with its node. -/
def reports (m : Monitor) (o : Observation) : List (String × LocalResult) :=
  match m.owner.definition.driver with
  | .job => ((jobFailure? m.owner o).map fun r => ("", r)).toList
  | .daemonSet =>
    match o with
    | .error _ => []
    | .ok units => nodeFailures m.owner m.nodes m.reported units

/-- The monitor after it has sent reports for these nodes. -/
def settle (m : Monitor) (sent : List String) : Monitor :=
  match m.owner.definition.driver with
  | .job => { m with phase := if sent = [] then .asleep else .ended }
  | .daemonSet =>
    let reported := m.reported ++ sent
    { m with
      reported := reported
      phase := if allReported m.nodes reported then .ended else .asleep }

/-- The cluster answers a look: the reports that somebody takes, and what the monitor does then.  This is one
poll of `Monitor` in section 4.2 of the specification. -/
def observe (m : Monitor) (o : Observation) : Monitor × List LocalResult :=
  let rs := m.reports o
  (m.settle (rs.map (·.1)), rs.map (·.2))

end Monitor

end ClusterSurvey

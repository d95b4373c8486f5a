import ClusterSurvey.Collection.Collector
import ClusterSurvey.Credential.Handshake
import ClusterSurvey.Plugin.Lifecycle
import ClusterSurvey.Plugin.Monitor
import ClusterSurvey.Run.Error

/-!
# Runs

A run launches its plugins one after the other, watches them, collects their results, and ends when
every expected result has come, when the time is up, or when something fails that it cannot do
without.  However it ends, every plugin is cleaned up once: some time before the time is up, or at the
end.

What happens to a run is a sequence of events in any order that the run's phase allows.  Deliveries,
monitors and the passing of time go on beside the run; it takes notice of the end of a wait, of the
end of its service and of its two timeouts only while it waits, and of several at once in any order.

Specification: section 4.5, `Orchestrator`; section 5 for what goes on beside it.
-/

namespace ClusterSurvey

/-- How a run ends. -/
abbrev RunOutcome := Except RunError RunStatus

/-- How far a run has come. -/
inductive RunPhase where
  /-- The plugins before this position have been launched. -/
  | launching (next : Nat)
  /-- All have been launched; the flag tells whether the time to clean up has come. -/
  | waiting (pastSoft : Bool)
  /-- The outcome is settled, and the reports that are on their way are filed. -/
  | draining (outcome : RunOutcome)
  /-- The plugins before this position have been cleaned up.  Behind the last one the run waits on, or
  ends if its outcome is settled. -/
  | cleaning (next : Nat) (ending : Option RunOutcome)
  /-- The run has ended. -/
  | ended (outcome : RunOutcome)

namespace RunPhase

/-- The outcome of a run, once it is settled. -/
def verdict? : RunPhase → Option RunOutcome
  | launching _ => none
  | waiting _ => none
  | draining outcome => some outcome
  | cleaning _ ending => ending
  | ended outcome => some outcome

/-- Whether the run has ended. -/
def isOver : RunPhase → Bool
  | ended _ => true
  | _ => false

/-- Whether monitors are at work: from the launch of the first one until the reports have been
filed. -/
def isWatched : RunPhase → Bool
  | launching _ => true
  | waiting _ => true
  | draining _ => true
  | cleaning _ ending => ending.isNone
  | ended _ => false

/-- Whether reports are filed: when all plugins have been launched. -/
def isFiling : RunPhase → Bool
  | launching _ => false
  | waiting _ => true
  | draining _ => true
  | cleaning _ ending => ending.isNone
  | ended _ => false

/-- Whether the clock of the timeouts runs. -/
def isTimed : RunPhase → Bool
  | waiting _ => true
  | cleaning _ ending => ending.isNone
  | _ => false

end RunPhase

/-- The state of a run: of what section 4.5 of the specification calls an `Orchestrator`. -/
structure Run where
  /-- The settings. -/
  settings : Settings
  /-- The plugins. -/
  instances : List Instance
  /-- The names of the cluster's nodes. -/
  nodes : List String
  /-- The results that the plugins owe. -/
  expected : List ResultKey
  /-- What collects them. -/
  collector : Collector
  /-- The monitors of the plugins that have been launched. -/
  monitors : List Monitor
  /-- The reports of monitors that have not been taken up yet. -/
  queue : List LocalResult
  /-- All reports of monitors so far. -/
  sent : List LocalResult
  /-- The delivery of the report that is being filed. -/
  filing : Option Nat
  /-- Which plugins have been cleaned up. -/
  cleaned : List Bool
  /-- How often the cluster's nodes were listed. -/
  listings : Nat
  /-- The changes that the cluster was asked for, each with the position of its plugin. -/
  calls : List (Nat × ClusterCall)
  /-- The deletions that the cluster refused.  They are noted and have no other effect. -/
  refusals : List (Nat × ClusterCall × ClusterError)
  /-- Why the service has ended, if it has. -/
  serviceEnd : Option String
  /-- Milliseconds since the last plugin was launched. -/
  elapsed : Nat
  /-- How far the run has come. -/
  phase : RunPhase

namespace Run

/-- The directory below which the results of a run are filed. -/
def resultsRoot : String := "plugins"

/-- The results that plugins owe. -/
def expectedOf (instances : List Instance) (nodes : List String) : List ResultKey :=
  instances.flatMap (·.expectedResults nodes)

/-- A run with everything still to do. -/
def fresh (root : String) (settings : Settings) (instances : List Instance) (nodes : List String)
    (listings : Nat) (phase : RunPhase) : Run :=
  let expected := expectedOf instances nodes
  { settings := settings
    instances := instances
    nodes := nodes
    expected := expected
    collector := (Collector.start root expected).beginWait .held
    monitors := []
    queue := []
    sent := []
    filing := none
    cleaned := instances.map fun _ => false
    listings := listings
    calls := []
    refusals := []
    serviceEnd := none
    elapsed := 0
    phase := phase }

/-- The start of a run.  One without plugins is over, and nothing is asked of the cluster.  Any other
needs sound settings, the cluster's nodes and an identity for its service before a plugin is launched;
without one of them it cleans up at once. -/
def startWith (root : String) (settings : Settings) (instances : List Instance)
    (nodes : Except ClusterError (List String)) (service : Except CertificateError ServerSide) : Run :=
  let abandoned (listings : Nat) (e : RunError) : Run :=
    fresh root settings instances [] listings (.cleaning 0 (some (.error e)))
  if instances.isEmpty then fresh root settings [] [] 0 (.ended (.ok (.start [])))
  else
    match settings.check with
    | .error e => abandoned 0 (.settings e.message)
    | .ok () =>
      match nodes with
      | .error e => abandoned 1 (.cluster e)
      | .ok nodes =>
        match service with
        | .error e => abandoned 1 (.certificate e)
        | .ok _ => fresh root settings instances nodes 1 (.launching 0)

/-- The start of a run whose authority issues the identity of its service for a key. -/
def start (root : String) (settings : Settings) (instances : List Instance)
    (nodes : Except ClusterError (List String)) (authority : Authority) (key : KeyPair) : Run :=
  startWith root settings instances nodes (authority.serverSide settings.advertiseAddress key)

/-- How many reports may wait to be taken up. -/
def capacity (r : Run) : Nat := max r.expected.length 1

/-- Stops the wait for results. -/
def stopWait (r : Run) : Run := { r with collector := r.collector.step (.setStop 0 .fired) }

/-- Gives the run up before all plugins have been launched.  Nobody takes reports any more. -/
def abandon (r : Run) (e : RunError) : Run :=
  { r.stopWait with phase := .cleaning 0 (some (.error e)) }

/-- Settles how the run ends. -/
def settle (r : Run) (outcome : RunOutcome) : Run := { r with phase := .draining outcome }

/-- Settles that the run fails, and stops the wait for results. -/
def fail (r : Run) (e : RunError) : Run := r.stopWait.settle (.error e)

/-- Launches the plugin at a position with the credential issued for it, if one was. -/
def launch (r : Run) (n : Nat) (i : Instance) (issued : Except CertificateError Credential)
    (replies : Replies) : Run :=
  match issued with
  | .error e => r.abandon (.certificate e)
  | .ok credential =>
    let (calls, outcome) := i.launch replies r.settings.advertiseAddress credential
    let r := { r with calls := r.calls ++ calls.map fun c => (n, c) }
    match outcome with
    | .error e => r.abandon (.dispatch i.name e)
    | .ok () =>
      { r with
        monitors := r.monitors ++ [.start i r.nodes]
        phase := if n + 1 < r.instances.length then .launching (n + 1) else .waiting false }

/-- Cleans up the plugin at a position, if that has not been done. -/
def cleanUp (r : Run) (n : Nat) (i : Instance) (replies : Replies) : Run :=
  let calls := i.cleanup (r.cleaned[n]?.getD false)
  { r with
    calls := r.calls ++ calls.map fun c => (n, c)
    refusals := r.refusals ++ calls.filterMap fun c => (replies c).map fun e => (n, c, e)
    cleaned := r.cleaned.set n true }

/-- The phase behind the clean-up of the plugin at a position. -/
def phaseBehind (r : Run) (n : Nat) (ending : Option RunOutcome) : RunPhase :=
  if n + 1 < r.instances.length then .cleaning (n + 1) ending
  else
    match ending with
    | none => .waiting true
    | some outcome => .ended outcome

/-- Whether the run has ended. -/
def isOver (r : Run) : Bool := r.phase.isOver

/-- How the run ended, if it did. -/
def outcome? (r : Run) : Option RunOutcome :=
  match r.phase with
  | .ended o => some o
  | _ => none

/-- The outcome of the run, once it is settled. -/
def verdict? (r : Run) : Option RunOutcome := r.phase.verdict?

/-- Changes a monitor. -/
def setMonitor (r : Run) (n : Nat) (m : Monitor) : Run := { r with monitors := r.monitors.set n m }

/-- A monitor sends reports. -/
def send (r : Run) (reports : List LocalResult) : Run :=
  { r with queue := r.queue ++ reports, sent := r.sent ++ reports }

/-- The cluster answers the look of a monitor. -/
def observe (r : Run) (n : Nat) (m : Monitor) (o : Observation) : Run :=
  let (m, reports) := m.observe o
  (r.setMonitor n m).send reports

/-- Whether the report taken up last has been filed. -/
def filed (r : Run) : Bool :=
  match r.filing with
  | none => true
  | some id => (r.collector.outcome? id).isSome

/-- Takes up the next report. -/
def takeUp (r : Run) (report : LocalResult) (rest : List LocalResult) (mark : String) : Run :=
  { r with
    queue := rest
    filing := some r.collector.deliveries.length
    collector := r.collector.openResult report.key report.isFailure report.body mark }

/-- The verdict on the end of the wait for results, if it has ended. -/
def waited? (r : Run) : Option RunOutcome := do
  let wait ← r.collector.waits.head?
  let answer ← wait.answer
  return match answer with
    | .ok .complete => .ok r.collector.ledger.status
    | .ok .stopped => .error (.service "aggregator stopped before completion")
    | .error e => .error (.collect e)

/-- What can happen to a run. -/
inductive Event where
  /-- The next plugin is launched. -/
  | launch (issued : Except CertificateError Credential) (replies : Replies)
  /-- Something happens at the collector. -/
  | collect (e : Collector.Event)
  /-- A monitor wakes. -/
  | wake (n : Nat)
  /-- The cluster answers a monitor. -/
  | observe (n : Nat) (o : Observation)
  /-- The next report is taken up. -/
  | takeUp (mark : String)
  /-- Time passes. -/
  | pass (milliseconds : Nat)
  /-- The service ends, for a reason if it failed. -/
  | serviceEnded (reason : Option String)
  /-- It is time to clean up. -/
  | softTimeout
  /-- The time is up. -/
  | hardTimeout
  /-- The run sees that its service has ended. -/
  | serviceMissed
  /-- The run sees that the wait for results has ended. -/
  | waited
  /-- Every report has been filed. -/
  | drained
  /-- The next plugin is cleaned up. -/
  | cleanUp (replies : Replies)

/-- Whether something can happen at the collector beside the run.  Results from within the run, the
wait and its signal are the run's own, and nobody else writes the report that is being filed or gives
it up. -/
def admits (r : Run) : Collector.Event → Bool
  | .openResult _ isFailure _ _ => !isFailure
  | .write id _ => r.filing ≠ some id
  | .cancel id => r.filing ≠ some id
  | .beginWait _ => false
  | .setStop .. => false
  | _ => true

/-- The state after an event, if it can happen. -/
def step? (r : Run) : Event → Option Run
  | .launch issued replies =>
    match r.phase with
    | .launching n => r.instances[n]?.map fun i => r.launch n i issued replies
    | _ => none
  | .collect e =>
    if !r.isOver ∧ r.admits e then (r.collector.step? e).map fun c => { r with collector := c }
    else none
  | .wake n =>
    match r.monitors[n]? with
    | some m =>
      if r.phase.isWatched ∧ m.phase = .asleep then
        some (r.setMonitor n (m.wake (r.cleaned[n]?.getD false)))
      else none
    | none => none
  | .observe n o =>
    match r.monitors[n]? with
    | some m => if r.phase.isWatched ∧ m.phase = .looking then some (r.observe n m o) else none
    | none => none
  | .takeUp mark =>
    match r.queue with
    | report :: rest =>
      if r.phase.isFiling ∧ r.filed ∧ r.collector.mayOpen report.key report.isFailure mark then
        some (r.takeUp report rest mark)
      else none
    | [] => none
  | .pass milliseconds =>
    if r.phase.isTimed then some { r with elapsed := r.elapsed + milliseconds } else none
  | .serviceEnded reason =>
    if r.verdict?.isNone ∧ r.serviceEnd.isNone then
      some { r with serviceEnd := some (reason.getD "listener closed") }
    else none
  | .softTimeout =>
    match r.phase with
    | .waiting false =>
      if r.settings.softTimeout * 1000 ≤ r.elapsed then some { r with phase := .cleaning 0 none }
      else none
    | _ => none
  | .hardTimeout =>
    match r.phase with
    | .waiting _ =>
      if r.settings.hardTimeout * 1000 ≤ r.elapsed then
        some (r.fail (.timeout (.ofSeconds r.settings.hardTimeout)))
      else none
    | _ => none
  | .serviceMissed =>
    match r.phase with
    | .waiting _ => r.serviceEnd.map fun reason => r.fail (.service reason)
    | _ => none
  | .waited =>
    match r.phase with
    | .waiting _ => if r.collector.holder.isNone then r.waited?.map r.settle else none
    | _ => none
  | .drained =>
    match r.phase with
    | .draining outcome =>
      if r.queue.isEmpty ∧ r.filed then some { r with phase := .cleaning 0 (some outcome) } else none
    | _ => none
  | .cleanUp replies =>
    match r.phase with
    | .cleaning n ending =>
      r.instances[n]?.map fun i =>
        { r.cleanUp n i replies with phase := r.phaseBehind n ending }
    | _ => none

/-- The state after several events. -/
def run? (r : Run) (events : List Event) : Option Run := Machine.run? step? r events

/-- The state after an event that can happen, and else the same state. -/
def step (r : Run) (e : Event) : Run := (r.step? e).getD r

end Run

end ClusterSurvey

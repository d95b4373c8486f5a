import ClusterSurvey.Machine.Basic
import ClusterSurvey.Plugin.Lifecycle
import ClusterSurvey.Plugin.Monitor

/-!
# Cleaning up an instance that is watched

An instance is cleaned up beside its monitor, and neither waits for the other.  The clean-up marks the
instance first and then asks the cluster to delete its units and its secret, one after the other.  The
units are gone some time after the cluster was asked.  At each of these steps the monitor may be asleep
or wait for an answer of the cluster.

Specification: section 4.2, `Cleanup` beside `Monitor`; section 5, cancellation.
-/

namespace ClusterSurvey

/-- The state of an instance that is watched and cleaned up. -/
structure Withdrawal where
  /-- The monitor of the instance. -/
  monitor : Monitor
  /-- Whether the instance is marked as cleaned up. -/
  cleaned : Bool
  /-- What its clean-up has still to ask of the cluster. -/
  due : List ClusterCall
  /-- What the cluster has been asked for. -/
  made : List ClusterCall
  /-- Whether the deletion of its units has taken effect. -/
  gone : Bool
  /-- The reports that its monitor has sent. -/
  sent : List LocalResult

namespace Withdrawal

/-- An instance whose monitor starts. -/
def start (i : Instance) (nodes : List String) : Withdrawal :=
  ⟨.start i nodes, false, [], [], false, []⟩

/-- The instance. -/
def owner (w : Withdrawal) : Instance := w.monitor.owner

/-- Whether the cluster has been asked to delete the units of the instance. -/
def isAsked (w : Withdrawal) : Bool :=
  .deleteUnits w.owner.settings.cluster w.owner.selector ∈ w.made

/-- One step of the monitor, of the clean-up or of the cluster. -/
inductive Event where
  /-- The monitor wakes, and looks at the units unless the instance is marked. -/
  | wake
  /-- The cluster answers the monitor. -/
  | answer (o : Observation)
  /-- The instance is cleaned up.  At first it is only marked. -/
  | mark
  /-- The cluster is asked for what comes next. -/
  | ask
  /-- The deletion of the units takes effect. -/
  | vanish

/-- The state after an event, if it can happen. -/
def step? (w : Withdrawal) : Event → Option Withdrawal
  | .wake =>
    if w.monitor.phase = .asleep then some { w with monitor := w.monitor.wake w.cleaned } else none
  | .answer o =>
    if w.monitor.phase = .looking then
      some { w with monitor := (w.monitor.observe o).1, sent := w.sent ++ (w.monitor.observe o).2 }
    else none
  | .mark => some { w with cleaned := true, due := w.due ++ w.owner.cleanup w.cleaned }
  | .ask =>
    match w.due with
    | call :: rest => some { w with due := rest, made := w.made ++ [call] }
    | [] => none
  | .vanish => if w.isAsked ∧ !w.gone then some { w with gone := true } else none

/-- The state after several events. -/
def run? (w : Withdrawal) (events : List Event) : Option Withdrawal := Machine.run? step? w events

end Withdrawal

end ClusterSurvey

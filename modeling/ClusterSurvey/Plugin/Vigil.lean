import ClusterSurvey.Machine.Basic
import ClusterSurvey.Plugin.Monitor

/-!
# A monitor at work

A monitor sleeps one interval before each of its looks.  What a look gives rise to is sent one report
after the other, through a channel in which reports wait until their reader takes them; only then does
the monitor sleep again, or end.  Meanwhile the instance may be cleaned up, which the monitor notices
when it wakes, and the reader may go away, which it notices when it has something to send.

Specification: section 4.2, `Monitor`, with the channel of section 5 between it and `IngestFailures`.
-/

namespace ClusterSurvey

/-- A monitor, its instance and the reader of its reports: one of the concurrent units of section 5 of the
specification, and its side of the channel. -/
structure Vigil where
  /-- The monitor, as it will be when the pending reports have been sent. -/
  monitor : Monitor
  /-- Whether the instance has been cleaned up. -/
  cleaned : Bool
  /-- Whether the reader of the reports is there. -/
  heard : Bool
  /-- How many reports the channel holds. -/
  capacity : Nat
  /-- How long the monitor has slept, in milliseconds. -/
  slept : Nat
  /-- The reports of the last look that it has still to send. -/
  pending : List LocalResult
  /-- The reports that it has sent. -/
  sent : List LocalResult
  /-- How many of them the reader has taken. -/
  taken : Nat

namespace Vigil

/-- A monitor that starts to watch an instance and to report into an empty channel. -/
def start (i : Instance) (nodes : List String) (capacity : Nat) : Vigil :=
  ⟨.start i nodes, false, true, capacity, 0, [], [], 0⟩

/-- Whether the monitor sleeps. -/
def IsAsleep (v : Vigil) : Prop := v.monitor.phase = .asleep ∧ v.pending = []

instance (v : Vigil) : Decidable v.IsAsleep := inferInstanceAs (Decidable (_ ∧ _))

/-- Whether the monitor has ended. -/
def HasEnded (v : Vigil) : Prop := v.monitor.phase = .ended ∧ v.pending = []

instance (v : Vigil) : Decidable v.HasEnded := inferInstanceAs (Decidable (_ ∧ _))

/-- What can happen while a monitor is at work. -/
inductive Event where
  /-- The monitor has slept for an interval. -/
  | wake
  /-- The cluster answers its look. -/
  | answer (o : Observation)
  /-- It sends the next report. -/
  | send
  /-- The instance is cleaned up. -/
  | cleanUp
  /-- The reader takes a report. -/
  | take
  /-- The reader goes away. -/
  | leave

/-- Sends a report, or ends because nobody reads it. -/
def send (v : Vigil) (r : LocalResult) (rest : List LocalResult) : Vigil :=
  if v.heard then { v with pending := rest, sent := v.sent ++ [r] }
  else { v with monitor := { v.monitor with phase := .ended }, pending := [] }

/-- The state after an event, if it can happen. -/
def step? (v : Vigil) : Event → Option Vigil
  | .wake =>
    if v.IsAsleep then
      some { v with
        monitor := v.monitor.wake v.cleaned
        slept := v.slept + v.monitor.owner.settings.interval }
    else none
  | .answer o =>
    if v.monitor.phase = .looking then
      some { v with monitor := (v.monitor.observe o).1, pending := (v.monitor.observe o).2 }
    else none
  | .send =>
    match v.pending with
    | [] => none
    | r :: rest =>
      if v.heard → v.sent.length - v.taken < v.capacity then some (v.send r rest) else none
  | .cleanUp => some { v with cleaned := true }
  | .take => if v.heard ∧ v.taken < v.sent.length then some { v with taken := v.taken + 1 } else none
  | .leave => some { v with heard := false }

/-- The state after several events. -/
def run? (v : Vigil) (events : List Event) : Option Vigil := Machine.run? step? v events

end Vigil

end ClusterSurvey

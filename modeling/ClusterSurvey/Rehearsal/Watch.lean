import ClusterSurvey.Plugin.Lifecycle
import ClusterSurvey.Plugin.Monitor
import ClusterSurvey.Rehearsal.Mailbox

/-!
# A monitor against a script

A monitor is played on a clock that jumps from sleep to sleep, against a cluster whose answers are
written down.  After a given number of answers the instance is cleaned up, unless the monitor has
ended by then without ever having waited for the reader of its reports.
-/

namespace ClusterSurvey

/-- What a cluster answers to a monitor, and what happens beside it. -/
structure WatchScript where
  /-- The answers; after them there are no units. -/
  answers : List Observation
  /-- After how many answers the instance is cleaned up. -/
  cleanAfter : Nat
  /-- After how many reports their reader leaves. -/
  closeAfter : Option Nat
  /-- How many reports may wait for their reader. -/
  capacity : Nat

/-- How a monitor fared. -/
structure WatchRun where
  /-- The monitor. -/
  monitor : Monitor
  /-- Its reports. -/
  mailbox : Mailbox
  /-- How long it has run, in milliseconds. -/
  elapsed : Nat
  /-- How often it has looked. -/
  looks : Nat
  /-- Whether the instance has been cleaned up. -/
  cleaned : Bool

namespace WatchRun

/-- Sends reports until one is refused.  The answer tells which nodes were reported, whether the
sender had to wait, and whether all reports were accepted. -/
def send : Mailbox → List (String × LocalResult) → Mailbox × List String × Bool × Bool
  | m, [] => (m, [], false, true)
  | m, (node, r) :: rest =>
    let (m, waited, accepted) := m.put r
    if accepted then
      let (m, nodes, waited', ok) := send m rest
      (m, node :: nodes, waited || waited', ok)
    else (m, [], waited, false)

/-- The cluster answers the next look. -/
def look (s : WatchScript) (w : WatchRun) : WatchRun :=
  let answer := (s.answers[w.looks]?).getD (.ok [])
  let m := w.monitor.wake false
  let (mailbox, nodes, waited, ok) := send w.mailbox (m.reports answer)
  let m := if ok then m.settle nodes else { m with phase := .ended }
  let looks := w.looks + 1
  { w with
    monitor := m
    mailbox := mailbox.drain
    looks := looks
    cleaned := w.cleaned || (looks = s.cleanAfter && (m.phase ≠ .ended || waited)) }

/-- The monitor sleeps, wakes, and ends or looks, until it has ended. -/
def loop (s : WatchScript) : Nat → WatchRun → WatchRun
  | 0, w => w
  | fuel + 1, w =>
    if w.monitor.phase = .ended then w
    else
      let w := { w with elapsed := w.elapsed + w.monitor.owner.settings.interval }
      if w.cleaned then { w with monitor := w.monitor.wake true } else loop s fuel (w.look s)

/-- Plays the monitor of an instance against a script. -/
def play (i : Instance) (nodes : List String) (s : WatchScript) : WatchRun :=
  loop s (s.cleanAfter + s.answers.length + 2)
    ⟨.start i nodes, .empty s.capacity s.closeAfter, 0, 0, s.cleanAfter = 0⟩

/-- The reports that reached their reader. -/
def reports (w : WatchRun) : List LocalResult := w.mailbox.taken

/-- The changes that the cluster was asked for. -/
def calls (w : WatchRun) : List ClusterCall :=
  if w.cleaned then w.monitor.owner.cleanup false else []

end WatchRun

end ClusterSurvey

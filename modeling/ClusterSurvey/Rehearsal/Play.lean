import ClusterSurvey.Run.Basic

/-!
# A run against a script

A run is played on a clock that jumps from event to event, against a cluster whose answers are written
down.  A plugin may be given the results that are sent in its name, and the seconds in which they are;
its monitor then rests.  Events of one instant happen in the order of the plugins, those of the run
itself after them.  Time passes only when the run has nothing left to do.
-/

namespace ClusterSurvey

/-- A result that is sent at a given second. -/
structure Cue where
  /-- The second. -/
  second : Nat
  /-- The result. -/
  result : LocalResult

/-- What happens to a run from outside. -/
structure RunScript where
  /-- How the cluster answers the launch of each plugin. -/
  replies : Nat → Replies
  /-- What the monitor of a plugin sees at each of its looks. -/
  looks : Nat → Nat → Observation
  /-- The results that are sent in a plugin's name, in the order of their seconds. -/
  cues : Nat → Option (List Cue)
  /-- Why the service cannot begin to listen, if it cannot. -/
  obstacle : Option String

/-- The next event of one plugin. -/
inductive Act where
  /-- Its monitor wakes at a second, for the look of this number. -/
  | wake (second look : Nat)
  /-- Its results are sent. -/
  | cues (rest : List Cue)
  /-- Nothing more. -/
  | done

/-- The second of an act. -/
def Act.time? : Act → Option Nat
  | wake t _ => some t
  | cues (c :: _) => some c.second
  | _ => none

/-- A run in the middle of its script. -/
structure Play where
  /-- The run. -/
  run : Run
  /-- The next event of each plugin. -/
  acts : List Act
  /-- The second of the clean-up, until it is past. -/
  soft : Option Nat

namespace Play

/-- Files the reports that wait. -/
def fileReports : Nat → Run → Run
  | 0, r => r
  | fuel + 1, r =>
    let id := r.collector.deliveries.length
    let r := r.step (.takeUp r.collector.nextMark)
    fileReports fuel ((r.step (.collect (.commit id))).step (.collect (.record id)))

/-- Cleans the plugins up. -/
def cleanAll (script : RunScript) : Nat → Run → Run
  | 0, r => r
  | fuel + 1, r =>
    match r.phase with
    | .cleaning n _ => cleanAll script fuel (r.step (.cleanUp (script.replies n)))
    | _ => r

/-- Lets the run do whatever it can do at once: it files the reports that wait, sees that nothing is
outstanding, and cleans up when it is time to. -/
def settle (script : RunScript) (s : Play) : Play :=
  let r := fileReports s.run.queue.length s.run
  let r := ((r.step (.collect (.endWait 0 .complete))).step .waited).step .drained
  { s with run := cleanAll script r.instances.length r }

/-- The plugin whose event comes first, with its second. -/
def nextAct (acts : List Act) : Option (Nat × Nat) :=
  let timed := acts.zipIdx.filterMap fun (a, n) => a.time?.map fun t => (t, n)
  timed.foldl (fun best x => match best with
    | none => some x
    | some b => if x.1 < b.1 then some x else some b) none

/-- Lets time pass until a second. -/
def passTo (s : Play) (second : Nat) : Play :=
  { s with run := s.run.step (.pass (second * 1000 - s.run.elapsed)) }

/-- Lets the next event of a plugin happen. -/
def act (script : RunScript) (s : Play) (n : Nat) : Play :=
  match s.acts[n]? with
  | some (.wake t look) =>
    let r := (s.run.step (.wake n)).step (.observe n (script.looks n look))
    let next := match r.monitors[n]? with
      | some m =>
        if m.phase = .ended then .done
        else .wake (t + r.settings.monitorInterval) (look + 1)
      | none => .done
    { s with run := r, acts := s.acts.set n next }.settle script
  | some (.cues (c :: rest)) =>
    { s with run := s.run.send [c.result], acts := s.acts.set n (.cues rest) }.settle script
  | _ => s

/-- Lets the run clean up, or end, at a second. -/
def timeout (script : RunScript) (s : Play) (second : Nat) (e : Run.Event) : Play :=
  let s := s.passTo second
  { s with run := s.run.step e }.settle script

/-- Lets the next timeout happen that is due by the given second, if there is one. -/
def timeoutOnce (script : RunScript) (s : Play) (limit : Nat) : Option Play :=
  let hard := s.run.settings.hardTimeout
  match s.soft with
  | some soft =>
    if soft ≤ limit then some { s.timeout script soft .softTimeout with soft := none }
    else if hard ≤ limit then some (s.timeout script hard .hardTimeout)
    else none
  | none => if hard ≤ limit then some (s.timeout script hard .hardTimeout) else none

/-- Lets the next event happen that is due by the given second, if there is one. -/
def advanceOnce (script : RunScript) (s : Play) (limit : Nat) : Option Play :=
  if s.run.isOver then none
  else
    let hard := s.run.settings.hardTimeout
    let soft := s.soft.getD hard
    match nextAct s.acts with
    | some (t, n) =>
      if t ≤ limit ∧ t ≤ soft ∧ t ≤ hard then some ((s.passTo t).act script n)
      else s.timeoutOnce script limit
    | none => s.timeoutOnce script limit

/-- Lets everything happen that is due by the given second. -/
def advance (script : RunScript) : Nat → Play → Nat → Play
  | 0, s, _ => s
  | fuel + 1, s, limit =>
    match s.advanceOnce script limit with
    | some s => advance script fuel s limit
    | none => s

/-- How many events there are at most. -/
def bound (s : Play) : Nat :=
  let wakes := s.run.settings.hardTimeout + 2
  s.acts.foldl (fun n a => match a with
    | .cues rest => n + rest.length
    | _ => n + wakes) 3

/-- Launches the plugins one after the other. -/
def launchAll (script : RunScript) (credential : Instance → Credential) : Nat → Run → Run
  | 0, r => r
  | fuel + 1, r =>
    match r.phase with
    | .launching n =>
      match r.instances[n]? with
      | some i =>
        launchAll script credential fuel (r.step (.launch (.ok (credential i)) (script.replies n)))
      | none => r
    | _ => r

/-- A run as it stands when its plugins have been launched. -/
def raise (script : RunScript) (credential : Instance → Credential) (r : Run) : Play :=
  let r := launchAll script credential r.instances.length r
  let r := match script.obstacle with
    | some reason => (r.step (.serviceEnded (some reason))).step .serviceMissed
    | none => r
  let acts := r.monitors.zipIdx.map fun (m, n) =>
    match script.cues n with
    | some cues => Act.cues cues
    | none => if m.phase = .ended then .done else .wake r.settings.monitorInterval 0
  { run := r, acts := acts, soft := some r.settings.softTimeout : Play }.settle script

/-- Plays on until a second is past. -/
def playTo (script : RunScript) (s : Play) (second : Nat) : Play :=
  s.advance script s.bound second

/-- Plays on to the end of the run. -/
def playOut (script : RunScript) (s : Play) : Play := s.playTo script s.run.settings.hardTimeout

end Play

end ClusterSurvey

import ClusterSurvey.Collection.Collector

/-!
# Waiting for a collector, step by step

Whoever waits for a collector follows the number of outstanding results and heeds the signal that stops
the wait.  The number is announced in two steps, while anything else may happen in between: it is
changed, which gives it a new version, and then those are woken who have asked for it.  A wait

* looks at the number and notes its version, and is complete if the number is zero;
* asks to be woken when the number changes;
* compares versions, and rests if the number is still the one that it has seen;
* beside that looks at its signal, and is woken when the signal is fired or dropped.

Every one of these steps may be late.

Specification: section 4.3, `Wait`.
-/

namespace ClusterSurvey

/-- How far a wait has got in following the number of outstanding results. -/
inductive Following where
  /-- It has not begun. -/
  | apart
  /-- It looks at the number next. -/
  | due
  /-- It has seen a version of the number that was not zero, and asks to be woken next. -/
  | looked (seen : Nat)
  /-- It has asked to be woken, which may have happened since, and compares versions next. -/
  | enrolled (seen : Nat) (woken : Bool)
  /-- It rests until it is woken. -/
  | resting (seen : Nat)
  deriving DecidableEq, Repr

namespace Following

/-- The version of the number that was seen last, unless a new look at it is due. -/
def seen? : Following → Option Nat
  | apart | due => none
  | looked seen | enrolled seen _ | resting seen => some seen

/-- What becomes of a wait when those are woken who have asked for it. -/
def wake : Following → Following
  | enrolled seen _ => enrolled seen true
  | resting seen => looked seen
  | f => f

end Following

/-- What a wait attends to. -/
structure Watcher where
  /-- How far it has got in following the number. -/
  following : Following
  /-- Whether it is woken when its signal is fired or dropped. -/
  armed : Bool
  deriving DecidableEq, Repr

/-- A collector and those who wait for it. -/
structure WaitingRoom where
  /-- The collector. -/
  collector : Collector
  /-- How often the number of outstanding results has been changed. -/
  version : Nat
  /-- The version for which the waits were last woken. -/
  told : Nat
  /-- What the waits attend to. -/
  watchers : List Watcher

/-- Whether an event changes the number of outstanding results. -/
def Collector.announces (c : Collector) : Collector.Event → Bool
  | .record id =>
    match c.deliveries[id]? with
    | some d => d.isFailure || c.ledger.receipt? d.key ≠ some .received
    | none => false
  | _ => false

namespace WaitingRoom

/-- A collector that nobody waits for yet. -/
def start (root : String) (expected : List ResultKey) : WaitingRoom := ⟨.start root expected, 0, 0, []⟩

/-- What an event at the collector does to those who wait. -/
def watchersAfter (r : WaitingRoom) : Collector.Event → List Watcher
  | .beginWait _ => r.watchers ++ [⟨.apart, false⟩]
  | .setStop i _ => r.watchers.modify i fun x => { x with armed := false }
  | _ => r.watchers

/-- Something happens at the collector. -/
def happen (r : WaitingRoom) (e : Collector.Event) (c : Collector) : WaitingRoom :=
  { r with
    collector := c
    version := if r.collector.announces e then r.version + 1 else r.version
    watchers := r.watchersAfter e }

/-- A wait gets on in following the number. -/
def follow (r : WaitingRoom) (i : Nat) (f : Following) : WaitingRoom :=
  { r with watchers := r.watchers.modify i fun x => { x with following := f } }

/-- A wait begins to heed its signal. -/
def arm (r : WaitingRoom) (i : Nat) : WaitingRoom :=
  { r with watchers := r.watchers.modify i fun x => { x with armed := true } }

/-- A wait ends. -/
def finish (r : WaitingRoom) (i : Nat) (o : WaitOutcome) : WaitingRoom :=
  { r with collector := r.collector.endWait i o }

/-- Those are woken who have asked for it. -/
def tell (r : WaitingRoom) : WaitingRoom :=
  { r with
    told := r.version
    watchers := r.watchers.map fun x => { x with following := x.following.wake } }

/-- What is done by those who wait, and to wake them. -/
inductive Work where
  /-- The waits are woken for the last version of the number. -/
  | tell
  /-- A wait begins to follow the number. -/
  | subscribe (i : Nat)
  /-- It looks at the number. -/
  | look (i : Nat)
  /-- It asks to be woken. -/
  | enroll (i : Nat)
  /-- It compares versions. -/
  | compare (i : Nat)
  /-- It looks at its signal. -/
  | heed (i : Nat)
  deriving DecidableEq, Repr

/-- What a wait that is not answered makes of the state. -/
def attend (r : WaitingRoom) (i : Nat) (act : Wait → Watcher → Option WaitingRoom) :
    Option WaitingRoom :=
  match r.collector.waits[i]?, r.watchers[i]? with
  | some w, some x => if w.answer.isNone then act w x else none
  | _, _ => none

/-- The state after a piece of work, if there is such work to do. -/
def work? (r : WaitingRoom) : Work → Option WaitingRoom
  | .tell => if r.told < r.version then some r.tell else none
  | .subscribe i => r.attend i fun _ x =>
    if x.following = .apart then some (r.follow i .due) else none
  | .look i => r.attend i fun _ x =>
    if x.following = .due then
      if r.collector.announced = 0 then some (r.finish i .complete)
      else some (r.follow i (.looked r.version))
    else none
  | .enroll i => r.attend i fun _ x =>
    match x.following with
    | .looked seen => some (r.follow i (.enrolled seen false))
    | _ => none
  | .compare i => r.attend i fun _ x =>
    match x.following with
    | .enrolled seen woken =>
      if seen ≠ r.version then some (r.follow i .due)
      else if woken then some (r.follow i (.looked seen))
      else some (r.follow i (.resting seen))
    | _ => none
  | .heed i => r.attend i fun w x =>
    if x.following = .apart ∨ x.armed then none
    else if w.stop = .held then some (r.arm i)
    else some (r.finish i .stopped)

/-- What can happen. -/
inductive Event where
  /-- Something happens at the collector, but for the end of a wait. -/
  | happen (e : Collector.Event)
  /-- A piece of work is done. -/
  | work (w : Work)

/-- The state after an event, if it can happen. -/
def step? (r : WaitingRoom) : Event → Option WaitingRoom
  | .happen (.endWait _ _) => none
  | .happen e => (r.collector.step? e).map (r.happen e)
  | .work w => r.work? w

/-- The state after several events. -/
def run? (r : WaitingRoom) (events : List Event) : Option WaitingRoom := Machine.run? step? r events

/-- Whether nobody has anything to do until something happens at the collector. -/
def Idle (r : WaitingRoom) : Prop := ∀ w, r.work? w = none

end WaitingRoom

end ClusterSurvey

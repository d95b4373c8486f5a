import ClusterSurvey.Collection.Delivery
import ClusterSurvey.Machine.Basic
import ClusterSurvey.Result.Failure

/-!
# The collector of a run

A collector takes deliveries and failures, files them in its tree and keeps the ledger.  Any number of
deliveries may be under way at once, also of one key.  A step of one of them is an event:

* a delivery is opened if its key is valid and expected; its body is then written piece by piece;
* it is committed when its file is moved into place, and recorded after that;
* a failure holds the ledger from the moment when it is opened until it is recorded, so that it never
  takes the place of a result that has come before it;
* any delivery may break off or be cancelled on the way, and the tree may be changed by others.

Somebody may wait for the collector, once: the wait ends when nothing is outstanding, or when it is
stopped.

Specification: section 4.3, `Aggregator`; section 5 for what may go on at once.
-/

namespace ClusterSurvey

/-- What has become of the signal that stops a wait. -/
inductive StopSignal where
  | held
  | fired
  | dropped
  deriving DecidableEq, Repr

/-- How a wait ended. -/
inductive WaitOutcome where
  /-- Every expected result has come. -/
  | complete
  /-- It was stopped first. -/
  | stopped
  deriving DecidableEq, Repr

/-- A wait for the end of a run. -/
structure Wait where
  /-- The signal that stops it. -/
  stop : StopSignal
  /-- Its answer, once it has one. -/
  answer : Option (Except CollectError WaitOutcome)

/-- The state of a collector: what section 4.3 of the specification calls an `Aggregator`. -/
structure Collector where
  /-- The path of the tree. -/
  root : String
  /-- The expected results and what has become of them. -/
  ledger : Ledger
  /-- The number of outstanding results as it was last announced. -/
  announced : Nat
  /-- Where results are filed. -/
  tree : Tree
  /-- All deliveries so far, known by their positions. -/
  deliveries : List Delivery
  /-- The delivery that holds the ledger. -/
  holder : Option Nat
  /-- All waits so far, the first of which alone is let in. -/
  waits : List Wait

namespace Collector

/-- A collector that expects these results and files them below a path where nothing is yet. -/
def start (root : String) (expected : List ResultKey) : Collector :=
  let ledger := Ledger.start expected
  ⟨root, ledger, ledger.outstanding, .empty, [], none, []⟩

/-- Adds a delivery that has been answered at once. -/
def answerAtOnce (c : Collector) (key : ResultKey) (isFailure : Bool) (body : ByteArray)
    (mark : String) (outcome : Except CollectError Unit) : Collector :=
  { c with deliveries := c.deliveries ++ [⟨key, isFailure, body, mark, .ended outcome⟩] }

/-- The error of a key's result that could not be filed. -/
def persistence (c : Collector) (key : ResultKey) (cause : StorageCause) : CollectError :=
  .persistence (key.path c.root) cause

/-- Makes the directory of a key and a scratch file in it. -/
def makeScratch (c : Collector) (key : ResultKey) (mark : String) (content : ByteArray) :
    Except StorageCause Tree :=
  match c.tree.makeDirectories [key.scope] with
  | .error f => .error (.fault f)
  | .ok t =>
    match t.writeFile (key.scratchPlace mark) content with
    | .error f => .error (.noScratch f (key.directoryPath c.root) key.resultType mark)
    | .ok t => .ok t

/-- Adds a delivery whose body follows, or the answer that it could not be begun.  The directory of
the key may stay behind. -/
def beginWriting (c : Collector) (key : ResultKey) (isFailure : Bool) (body : ByteArray)
    (mark : String) : Collector :=
  match c.makeScratch key mark body with
  | .ok t =>
    { c with
      tree := t
      deliveries := c.deliveries ++ [⟨key, isFailure, body, mark, .writing⟩]
      holder := if isFailure then some c.deliveries.length else c.holder }
  | .error cause =>
    let c := c.answerAtOnce key isFailure body mark (.error (c.persistence key cause))
    match c.tree.makeDirectories [key.scope] with
    | .ok t => { c with tree := t }
    | .error _ => c

/-- Opens the delivery of a result with the first piece of its body.  A failure for a result that has
come already is answered and changes nothing. -/
def openResult (c : Collector) (key : ResultKey) (isFailure : Bool) (body : ByteArray)
    (mark : String) : Collector :=
  match key.check with
  | .error e => c.answerAtOnce key isFailure body mark (.error (.invalidKey e.message))
  | .ok () =>
    match c.ledger.receipt? key with
    | none => c.answerAtOnce key isFailure body mark (.error (.unexpected key))
    | some .received =>
      if isFailure then c.answerAtOnce key isFailure body mark (.ok ())
      else c.beginWriting key isFailure body mark
    | some .pending => c.beginWriting key isFailure body mark

/-- Changes a delivery. -/
def setDelivery (c : Collector) (id : Nat) (d : Delivery) : Collector :=
  { c with deliveries := c.deliveries.set id d }

/-- Lets go of the ledger if the delivery holds it. -/
def release (c : Collector) (id : Nat) : Collector :=
  if c.holder = some id then { c with holder := none } else c

/-- Writes a piece of a body. -/
def write (c : Collector) (id : Nat) (d : Delivery) (data : ByteArray) : Collector :=
  let d := { d with body := d.body ++ data }
  let c := c.setDelivery id d
  if (c.tree.content? d.scratch).isSome then
    { c with tree := c.tree.set d.scratch (.file d.body) }
  else c

/-- Ends a delivery that has not been committed, and takes its scratch file away. -/
def giveUp (c : Collector) (id : Nat) (d : Delivery) (stage : Stage) : Collector :=
  let c := (c.setDelivery id { d with stage := stage }).release id
  { c with tree := c.tree.erase d.scratch }

/-- Moves the file of a delivery into place. -/
def commit (c : Collector) (id : Nat) (d : Delivery) : Collector :=
  match c.tree.rename d.scratch d.key.place with
  | .ok t => { c.setDelivery id { d with stage := .committed } with tree := t }
  | .error f => c.giveUp id d (.ended (.error (c.persistence d.key (.fault f))))

/-- Records a delivery whose file lies in place.  A result that has come before is not counted
again. -/
def record (c : Collector) (id : Nat) (d : Delivery) : Collector :=
  let c := (c.setDelivery id { d with stage := .ended (.ok ()) }).release id
  if !d.isFailure ∧ c.ledger.receipt? d.key = some .received then c
  else
    let ledger := c.ledger.record d.key (if d.isFailure then .failed else .complete)
    { c with ledger := ledger, announced := ledger.outstanding }

/-- Starts a wait with a signal.  Only the first one is let in. -/
def beginWait (c : Collector) (stop : StopSignal) : Collector :=
  let answer := if c.waits.isEmpty then none else some (.error .alreadyWaited)
  { c with waits := c.waits ++ [⟨stop, answer⟩] }

/-- Changes what has become of a wait's signal. -/
def setStop (c : Collector) (i : Nat) (s : StopSignal) : Collector :=
  { c with waits := c.waits.modify i fun w => { w with stop := s } }

/-- Whether a wait can end in this way. -/
def mayEnd (c : Collector) (w : Wait) : WaitOutcome → Bool
  | .complete => c.announced = 0
  | .stopped => w.stop ≠ .held

/-- Ends a wait. -/
def endWait (c : Collector) (i : Nat) (o : WaitOutcome) : Collector :=
  { c with waits := c.waits.modify i fun w => { w with answer := some (.ok o) } }

/-- One step of what goes on at a collector. -/
inductive Event where
  /-- A delivery is opened with the first piece of its body. -/
  | openResult (key : ResultKey) (isFailure : Bool) (body : ByteArray) (mark : String)
  /-- A further piece of a body comes. -/
  | write (id : Nat) (data : ByteArray)
  /-- A body breaks off, or the storage fails while it is written. -/
  | breakOff (id : Nat) (text : String)
  /-- The sender of a delivery goes away. -/
  | cancel (id : Nat)
  /-- A body is complete, and its file is moved into place. -/
  | commit (id : Nat)
  /-- A delivery whose file lies in place is recorded. -/
  | record (id : Nat)
  /-- Somebody begins to wait. -/
  | beginWait (stop : StopSignal)
  /-- The signal of a wait is fired or dropped. -/
  | setStop (i : Nat) (s : StopSignal)
  /-- A wait ends. -/
  | endWait (i : Nat) (o : WaitOutcome)
  /-- Somebody else changes the tree. -/
  | disturb (tree : Tree)

/-- Whether a scratch file with this mark can be made for a key: the mark has six octets and no file
has the name yet. -/
def markIsFree (c : Collector) (key : ResultKey) (mark : String) : Bool :=
  mark.utf8ByteSize = 6 && (c.tree.get? (key.scratchPlace mark)).isNone

/-- Whether the body of a result is written: the run expects its key, and of a failure only if it is
still pending. -/
def wants (c : Collector) (key : ResultKey) (isFailure : Bool) : Bool :=
  match c.ledger.receipt? key with
  | none => false
  | some .received => !isFailure
  | some .pending => true

/-- Whether the delivery of a result can be opened.  An invalid key is refused without a look at the
ledger; any other waits until nobody holds it, and a body that is written needs a free mark. -/
def mayOpen (c : Collector) (key : ResultKey) (isFailure : Bool) (mark : String) : Bool :=
  !key.isValid ||
    c.holder.isNone && (!c.wants key isFailure || c.markIsFree key mark)

/-- The state after an event, if the event can happen.  A failure is recorded together with its
commit, so that it is cancelled only before. -/
def step? (c : Collector) : Event → Option Collector
  | .openResult key isFailure body mark =>
    if c.mayOpen key isFailure mark then some (c.openResult key isFailure body mark) else none
  | .write id data =>
    match c.deliveries[id]? with
    | some d => if d.isWriting ∧ !d.isFailure then some (c.write id d data) else none
    | none => none
  | .breakOff id text =>
    match c.deliveries[id]? with
    | some d =>
      if d.isWriting then
        some (c.giveUp id d (.ended (.error (c.persistence d.key (.body text)))))
      else none
    | none => none
  | .cancel id =>
    match c.deliveries[id]? with
    | some d =>
      if d.isWriting then some (c.giveUp id d .cancelled)
      else if d.isCommitted ∧ !d.isFailure then some (c.setDelivery id { d with stage := .cancelled })
      else none
    | none => none
  | .commit id =>
    match c.deliveries[id]? with
    | some d => if d.isWriting then some (c.commit id d) else none
    | none => none
  | .record id =>
    match c.deliveries[id]? with
    | some d =>
      if d.isCommitted ∧ (c.holder = none ∨ c.holder = some id) then some (c.record id d) else none
    | none => none
  | .beginWait stop => some (c.beginWait stop)
  | .setStop i s =>
    match c.waits[i]? with
    | some w => if w.stop = .held ∧ s ≠ .held then some (c.setStop i s) else none
    | none => none
  | .endWait i o =>
    match c.waits[i]? with
    | some w => if w.answer.isNone ∧ c.mayEnd w o then some (c.endWait i o) else none
    | none => none
  | .disturb tree => some { c with tree := tree }

/-- The state after several events. -/
def run? (c : Collector) (events : List Event) : Option Collector := Machine.run? step? c events

/-- The state after an event that can happen, and else the same state. -/
def step (c : Collector) (e : Event) : Collector := (c.step? e).getD c

/-- The mark for the next scratch file: the number of the delivery in six digits. -/
def nextMark (c : Collector) : String :=
  let ds := Nat.toDigits 10 (c.deliveries.length % 1000000)
  String.ofList (List.replicate (6 - ds.length) '0' ++ ds)

/-- The answer to a delivery, once it has one. -/
def outcome? (c : Collector) (id : Nat) : Option (Except CollectError Unit) :=
  c.deliveries[id]?.bind Delivery.outcome?

/-- Commits and records a delivery. -/
def finish (c : Collector) (id : Nat) : Collector := (c.step (.commit id)).step (.record id)

/-- Takes a whole delivery whose body comes in pieces and may then break off: `HandleDelivery` with nothing
else going on. -/
def deliver (c : Collector) (key : ResultKey) (pieces : List ByteArray) (broken : Option String) :
    Collector :=
  let id := c.deliveries.length
  let c := c.step (.openResult key false .empty c.nextMark)
  let c := pieces.foldl (fun c data => c.step (.write id data)) c
  match broken with
  | some text => c.step (.breakOff id text)
  | none => c.finish id

/-- Takes a result handed over within the run: one step of `IngestFailures`. -/
def ingest (c : Collector) (r : LocalResult) : Collector :=
  if r.isFailure then
    let id := c.deliveries.length
    (c.step (.openResult r.key true r.body c.nextMark)).finish id
  else c.deliver r.key [r.body] none

/-- The answer to the delivery that came last. -/
def lastOutcome? (c : Collector) : Option (Except CollectError Unit) :=
  c.deliveries.getLast?.bind Delivery.outcome?

/-- Lets every wait end that can, a complete one as such. -/
def settle (c : Collector) : Collector :=
  (List.range c.waits.length).foldl
    (fun c i => (c.step (.endWait i .complete)).step (.endWait i .stopped)) c

/-- The collector as logs show it. -/
def debugText (c : Collector) : String :=
  "Aggregator \x7b output_dir: " ++ Text.quoted c.root ++ ", outstanding: " ++
    toString c.announced ++ " \x7d"

end Collector

end ClusterSurvey

import ClusterSurvey.Collection.Collector

/-!
# A collector against a script

A collector is handed deliveries and results one after the other.  Deliveries that stay open while
others go on have names of their own, and the tree of files may be changed behind the collector's
back.
-/

namespace ClusterSurvey

/-- A collector and the deliveries that were opened by name. -/
structure Desk where
  /-- The collector. -/
  collector : Collector
  /-- The names of deliveries and their numbers. -/
  names : List (String × Nat)

/-- What is done at a desk. -/
inductive DeskStep where
  /-- A whole delivery comes in; its body may break off behind the pieces. -/
  | deliver (key : ResultKey) (pieces : List ByteArray) (broken : Option String)
  | ingest (result : LocalResult)
  | drain (results : List LocalResult)
  | openDelivery (name : String) (key : ResultKey)
  | write (name : String) (data : ByteArray)
  | finish (name : String)
  | breakOff (name : String)
  | cancel (name : String)
  | wait (stop : StopSignal)
  | fireStop
  | makeDirectory (place : Place)
  | plant (place : Place) (content : ByteArray)
  | erase (place : Place)

/-- What comes of a step. -/
inductive DeskReply where
  | outcome (r : Option (Except CollectError Unit))
  | word (s : String)
  | fault (f : StorageFault)

namespace Desk

/-- Why the body of a delivery breaks off. -/
def resetReason : String := "connection reset"

/-- The number of an open delivery. -/
def open? (k : Desk) (name : String) : Option Nat := do
  let id ← k.names.lookup name
  let delivery ← k.collector.deliveries[id]?
  if delivery.isWriting then some id else none

/-- The desk after its collector has taken a step, with the last outcome. -/
def settled (k : Desk) (c : Collector) : Desk × DeskReply :=
  ({ k with collector := c }, .outcome c.lastOutcome?)

/-- Does something to an open delivery. -/
def withOpen (k : Desk) (name : String) (f : Collector → Nat → Collector × DeskReply) :
    Desk × DeskReply :=
  match k.open? name with
  | some id => let r := f k.collector id; ({ k with collector := r.1 }, r.2)
  | none => (k, .word "not open")

/-- Changes the tree of files. -/
def withTree (k : Desk) (tree : Except StorageFault Tree) (word : String) : Desk × DeskReply :=
  match tree with
  | .ok tree => ({ k with collector := k.collector.step (.disturb tree) }, .word word)
  | .error f => (k, .fault f)

/-- Takes a step. -/
def take (k : Desk) : DeskStep → Desk × DeskReply
  | .deliver key pieces broken => k.settled (k.collector.deliver key pieces broken)
  | .ingest result => k.settled (k.collector.ingest result)
  | .drain results =>
    ({ k with collector := results.foldl Collector.ingest k.collector }, .word "drained")
  | .openDelivery name key =>
    let id := k.collector.deliveries.length
    let c := k.collector.step (.openResult key false .empty k.collector.nextMark)
    (⟨c, (name, id) :: k.names⟩,
      match c.lastOutcome? with
      | some r => .outcome (some r)
      | none => .word "open")
  | .write name data => k.withOpen name fun c id => (c.step (.write id data), .word "written")
  | .finish name =>
    k.withOpen name fun c id => let c := c.finish id; (c, .outcome (c.outcome? id))
  | .breakOff name =>
    k.withOpen name fun c id =>
      let c := c.step (.breakOff id resetReason)
      (c, .outcome (c.outcome? id))
  | .cancel name => k.withOpen name fun c id => (c.step (.cancel id), .word "cancelled")
  | .wait stop =>
    ({ k with collector := k.collector.beginWait stop },
      if k.collector.waits.isEmpty then .word "started" else .outcome (some (.error .alreadyWaited)))
  | .fireStop =>
    if k.collector.waits.head?.any (·.stop = .held) then
      ({ k with collector := k.collector.step (.setStop 0 .fired) }, .word "sent")
    else (k, .word "no wait")
  | .makeDirectory place => k.withTree (k.collector.tree.makeDirectories place) "made"
  | .plant place content => k.withTree (k.collector.tree.plant place content) "made"
  | .erase place => k.withTree (.ok (k.collector.tree.eraseAll place)) "removed"

/-- Takes a step and lets every wait end that can. -/
def play (k : Desk) (s : DeskStep) : Desk × DeskReply :=
  let (k, reply) := k.take s
  ({ k with collector := k.collector.settle }, reply)

end Desk

end ClusterSurvey

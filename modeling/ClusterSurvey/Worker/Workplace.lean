import ClusterSurvey.Worker.Start

/-!
# What a worker does, one thing after the other

A worker looks at its marker until a look decides, reads the result that the marker names, and hands it
over in one or more attempts.  What it meets with each time is written down beforehand and without an end,
so a worker that did something once more would find what is written down for that time.
-/

namespace ClusterSurvey.Worker

/-- What a worker does. -/
inductive Deed where
  /-- It looks at the marker. -/
  | look
  /-- It waits before the next look. -/
  | rest (seconds : Nat)
  /-- It reads the file at a path. -/
  | read (path : String)
  /-- It sends a request. -/
  | request (o : Outgoing)
  /-- It waits after so many attempts. -/
  | pause (made : Nat)

namespace Deed

/-- Whether a deed is a look at the marker. -/
def isLook : Deed → Bool
  | look => true
  | _ => false

/-- Whether a deed is the reading of a file. -/
def isRead : Deed → Bool
  | read _ => true
  | _ => false

/-- Whether a deed is a request. -/
def isRequest : Deed → Bool
  | request _ => true
  | _ => false

end Deed

/-- What a worker meets with; the first time is number zero. -/
structure Workplace where
  /-- What a look finds in the marker. -/
  marker : Nat → Except ReadFault String
  /-- What is found in the file at a path. -/
  file : Nat → String → Except ReadFault ByteArray
  /-- What the peer sends back to a request. -/
  reply : Nat → Outgoing → ByteArray

namespace Workplace

/-- The workplace of a worker whose files stay as they are. -/
def ofTree (t : Tree) (directory : String) (reply : Nat → Outgoing → ByteArray) : Workplace where
  marker _ := t.readText (markerPath directory)
  file _ := t.readFile
  reply := reply

/-- Looks at the marker at most so many times, with a rest after each look that decides nothing.  There is
no answer if none of them decides. -/
def await (w : Workplace) (o : Options) : Nat → List Deed → Option (Except ReadFault String) × List Deed
  | 0, deeds => (none, deeds)
  | looks + 1, deeds =>
    let view := MarkerView.ofReading (w.marker (deeds.countP Deed.isLook))
    match view.verdict o.resultsDirectory with
    | some path => (some path, deeds ++ [.look])
    | none => w.await o looks (deeds ++ [.look, .rest o.pause])

/-- Waits for a result and reads it. -/
def fetch (w : Workplace) (o : Options) (looks : Nat) (deeds : List Deed) :
    Option (Except String Parcel) × List Deed :=
  match w.await o looks deeds with
  | (none, deeds) => (none, deeds)
  | (some (.error fault), deeds) => (some (.error fault.message), deeds)
  | (some (.ok path), deeds) =>
    let found := (w.file (deeds.countP Deed.isRead) path).map fun payload =>
      Parcel.mk payload (mediaType (Text.octets path))
    (some (found.mapError ReadFault.message), deeds ++ [.read path])

/-- The producer of a worker whose wait is over after so many looks. -/
def produce (w : Workplace) (o : Options) (looks : Nat) (deeds : List Deed) :
    Except String Parcel × List Deed :=
  let (made, deeds) := w.fetch o looks deeds
  (made.getD (.error ""), deeds)

/-- The peer of a worker. -/
def peer (w : Workplace) : Peer (List Deed) := fun o deeds =>
  (w.reply (deeds.countP Deed.isRequest) o, deeds ++ [.request o])

/-- The pause of a worker after so many attempts. -/
def pause (made : Nat) (deeds : List Deed) : List Deed := deeds ++ [.pause made]

/-- How a worker ends that looks at its marker at most so many times, and what it does.  There is no ending
yet while it waits. -/
def serve (w : Workplace) (e : Encoding) (o : Options) (looks : Nat) : Option Ending × List Deed :=
  if (clientFailure? e o).isNone ∧ (w.fetch o looks []).1.isNone then (none, (w.fetch o looks []).2)
  else
    let (ending, deeds) := run e o (w.produce o looks) w.peer pause []
    (some ending, deeds)

end Workplace

end ClusterSurvey.Worker

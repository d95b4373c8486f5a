import ClusterSurvey.Handover.Media
import ClusterSurvey.Storage.Lookup
import ClusterSurvey.Text.Blank

/-!
# Picking up a result

A plugin that is done writes the path of its result into a marker file.  Its worker looks at the
marker again and again: as long as there is none, or only blanks are in it, the plugin is still at
work.  The first other look decides, and the path in the marker is taken from the directory in which
the marker lies.

Specification: section 10.6, the worker sidecar.
-/

namespace ClusterSurvey

/-- What a look at the marker shows. -/
inductive MarkerView where
  /-- There is no marker. -/
  | missing
  /-- The marker holds a text. -/
  | text (content : String)
  /-- The marker is there but was not read. -/
  | unreadable (fault : ReadFault)
  deriving DecidableEq, Repr

namespace MarkerView

/-- What one attempt at reading the marker shows. -/
def ofReading : Except ReadFault String → MarkerView
  | .ok content => .text content
  | .error (.storage .notFound) => .missing
  | .error fault => .unreadable fault

/-- Whether the plugin may still be at work. -/
def pending : MarkerView → Bool
  | missing => true
  | text content => Text.allBlank content
  | unreadable _ => false

/-- The path that a look decides on, if it decides anything. -/
def verdict (directory : String) : MarkerView → Option (Except ReadFault String)
  | missing => none
  | text content =>
    if Text.allBlank content then none else some (.ok (joinPath directory (Text.trim content)))
  | unreadable fault => some (.error fault)

/-- A look decides nothing exactly if the plugin may still be at work. -/
theorem verdict_eq_none_iff (directory : String) (v : MarkerView) :
    v.verdict directory = none ↔ v.pending = true := by
  cases v <;> simp [verdict, pending]

end MarkerView

/-- How a wait for the marker ended, and how often it paused before. -/
structure Pickup where
  /-- The path of the result. -/
  path : Except ReadFault String
  /-- The number of pauses. -/
  pauses : Nat

/-- Waits through a history of looks, with a pause after each that decides nothing.  There is no
answer if none of them decides. -/
def Pickup.await (directory : String) : List MarkerView → Option Pickup
  | [] => none
  | v :: rest =>
    match v.verdict directory with
    | some path => some ⟨path, 0⟩
    | none => (await directory rest).map fun p => { p with pauses := p.pauses + 1 }

/-- A result on its way to the aggregator. -/
structure Parcel where
  /-- The octets of the result. -/
  payload : ByteArray
  /-- Its media type. -/
  mediaType : String

/-- The name of the marker. -/
def markerName : String := "done"

/-- The path of the marker in a directory. -/
def markerPath (directory : String) : String := joinPath directory markerName

/-- One look at the marker in a directory. -/
def Tree.viewMarker (t : Tree) (directory : String) : MarkerView :=
  .ofReading (t.readText (markerPath directory))

/-- Reads a result, whose media type its name tells. -/
def Tree.readParcel (t : Tree) (path : String) : Except ReadFault Parcel :=
  (t.readFile path).map fun payload => ⟨payload, mediaType (Text.octets path)⟩

end ClusterSurvey

import ClusterSurvey.Handover.Marker

/-!
# A wait for a result against a script

A wait is played on a clock that jumps from look to look, over a tree of files that is written at
given times.  The wait is given up at a time limit.
-/

namespace ClusterSurvey

/-- A file that is written at a time. -/
structure ScriptedFile where
  /-- When it is written, in milliseconds. -/
  time : Nat
  /-- Where it is written. -/
  place : Place
  /-- What is written. -/
  content : ByteArray

/-- A wait to be played. -/
structure PickupScript where
  /-- The tree at the start. -/
  tree : Tree
  /-- What is written afterwards, in this order. -/
  files : List ScriptedFile
  /-- The path of the directory in which the marker is expected. -/
  directory : String
  /-- Milliseconds between two looks. -/
  pause : Nat
  /-- When the wait is given up. -/
  limit : Nat

namespace PickupScript

/-- The tree at a time. -/
def treeAt (s : PickupScript) (time : Nat) : Tree :=
  (s.files.filter (·.time ≤ time)).foldl
    (fun t f => match t.plant f.place f.content with
      | .ok t => t
      | .error _ => t)
    s.tree

/-- How many looks there are before the limit. -/
def looks (s : PickupScript) : Nat :=
  if s.pause = 0 then s.limit else (s.limit + s.pause - 1) / s.pause

/-- What the looks before the limit show. -/
def views (s : PickupScript) : List MarkerView :=
  (List.range s.looks).map fun k => (s.treeAt (k * s.pause)).viewMarker s.directory

/-- How the wait ends, if it ends before the limit, and when. -/
def play (s : PickupScript) : Option (Except ReadFault String × Nat) :=
  (Pickup.await s.directory s.views).map fun p => (p.path, p.pauses * s.pause)

end PickupScript

end ClusterSurvey

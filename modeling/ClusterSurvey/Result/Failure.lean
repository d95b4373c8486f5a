import ClusterSurvey.Result.Key

/-!
# Results handed over within the run

A result need not come over the network.  When a workload can no longer report, a failure is filed in
its place: a small record of the reason and of the unit concerned.

Specification: section 3, `Result`, and section 10.6, the body of a failure.
-/

namespace ClusterSurvey

/-- A result handed over within the run. -/
structure LocalResult where
  /-- What the result answers for. -/
  key : ResultKey
  /-- Its content. -/
  body : ByteArray
  /-- The media type of its content. -/
  mediaType : String
  /-- The reason, if the result is a failure. -/
  error : Option String

namespace LocalResult

/-- Whether a result is a failure. -/
def isFailure (r : LocalResult) : Bool := r.error.isSome

/-- The record of a failure: its reason, and the unit concerned, if one is known. -/
def record (reason : String) (unit : Option String) : Json :=
  .object [("error", .string reason), ("unit", .ofText? unit)]

/-- The result that stands for a failure. -/
def failure (key : ResultKey) (reason : String) (unit : Option String) : LocalResult where
  key := key
  body := (record reason unit).render.toUTF8
  mediaType := "application/json"
  error := some reason

end LocalResult

end ClusterSurvey

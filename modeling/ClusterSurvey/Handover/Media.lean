import ClusterSurvey.Result.Route
import ClusterSurvey.Text.Split
import ClusterSurvey.Text.Utf8

/-!
# The media type of a result file

The ending of a file's name tells its media type, whatever the case of its ASCII letters.  A path is
a list of octets, and a name that is not the octets of a text tells nothing.
-/

namespace ClusterSurvey

/-- The octet of the slash. -/
def slashOctet : UInt8 := 0x2f

/-- The octet of the dot. -/
def dotOctet : UInt8 := 0x2e

/-- The name of the file at the end of a path: the last step that is not empty and not a dot, unless
that one goes up. -/
def fileName? (path : List UInt8) : Option (List UInt8) :=
  match ((Text.splitAt slashOctet path).filter fun s => s ≠ [] ∧ s ≠ [dotOctet]).getLast? with
  | none => none
  | some name => if name = [dotOctet, dotOctet] then none else some name

/-- The media type that a name tells. -/
def mediaTypeOfName (name : String) : String :=
  let lower := name.toList.map Char.toLower
  let endsIn (ending : String) : Bool := ending.toList.isSuffixOf lower
  if endsIn ".tar.gz" || endsIn ".tgz" then "application/gzip"
  else if endsIn ".json" then "application/json"
  else Route.defaultMediaType

/-- The media type of the file at a path. -/
def mediaType (path : ByteArray) : String :=
  match (fileName? path.data.toList).bind fun name => Text.ofOctets? ⟨name.toArray⟩ with
  | some name => mediaTypeOfName name
  | none => Route.defaultMediaType

end ClusterSurvey

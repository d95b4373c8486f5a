import ClusterSurvey.Proofs.Json.Text
import ClusterSurvey.Result.Failure

/-!
# The record of a failure

The body of a failure is the text of a JSON object.  Whatever characters the cluster has put into the reason
and into the name of the unit, they are read back as they were.
-/

namespace ClusterSurvey

namespace Json

/-- The draft of a text, or of null where there is none. -/
def Draft.ofText? : Option String → Draft
  | some s => .string s
  | none => .null

theorem denotes_ofText? (t : Option String) : Denotes (.ofText? t) (.ofText? t) := by
  cases t with
  | none => exact .null
  | some s => exact .string s

end Json

namespace LocalResult

/-- Whether octets are the text of an object that has two members, the reason as its error and the unit, or
null for it, and nothing beside them. -/
def Tells (body : ByteArray) (reason : String) (unit : Option String) : Prop :=
  ∃ text, Text.ofOctets? body = some text ∧
    Json.Document.ofText text =
      ⟨.object [(.name "error", .string reason), (.name "unit", .ofText? unit)] none, false⟩

variable {body : ByteArray} {reason reason' : String} {unit unit' : Option String}

/-- Octets tell of one failure at most. -/
theorem Tells.unique (h : Tells body reason unit) (h' : Tells body reason' unit') :
    reason = reason' ∧ unit = unit' := by
  obtain ⟨text, htext, hread⟩ := h
  obtain ⟨text', htext', hread'⟩ := h'
  obtain rfl : text = text' := Option.some.inj (htext.symm.trans htext')
  have hvalue := congrArg Json.Document.value (hread.symm.trans hread')
  simp only [Json.Draft.object.injEq, List.cons.injEq, Prod.mk.injEq, Json.Draft.string.injEq, true_and,
    and_true] at hvalue
  refine ⟨hvalue.1, ?_⟩
  cases unit <;> cases unit' <;> simp_all [Json.Draft.ofText?]

/-- The record of a failure denotes the reason and the unit. -/
private theorem denotes_record (reason : String) (unit : Option String) :
    Json.Denotes (record reason unit)
      (.object [(.name "error", .string reason), (.name "unit", .ofText? unit)] none) := by
  have each : ∀ m ∈ [("error", Json.string reason, Json.Draft.string reason),
      ("unit", .ofText? unit, .ofText? unit)], Json.Denotes m.2.1 m.2.2 := by
    intro m hm
    rcases List.mem_pair.mp hm with rfl | rfl
    · exact .string reason
    · exact Json.denotes_ofText? unit
  exact .object each

/-- The body of a failure tells of its reason and of its unit. -/
theorem tells_failure (key : ResultKey) (reason : String) (unit : Option String) :
    Tells (failure key reason unit).body reason unit := by
  have hread : Text.ofOctets? (failure key reason unit).body = some (record reason unit).render := by
    rw [Text.ofOctets?_eq_some_iff, Text.octets, failure]
  refine ⟨_, hread, ?_⟩
  exact Json.document_render (denotes_record reason unit)

end LocalResult

end ClusterSurvey

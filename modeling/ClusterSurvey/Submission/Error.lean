import ClusterSurvey.Credential.Client
import ClusterSurvey.Net.StatusCode
import ClusterSurvey.Net.UrlHost

/-!
# Errors of a submission

Specification: `SubmitError` in section 10.3.
-/

namespace ClusterSurvey

/-- Why no request can be sent, however often one tries. -/
inductive TransportFault where
  /-- The address cannot be read. -/
  | badUrl (reason : Net.UrlFault)
  /-- Requests are not sent to such an address. -/
  | badScheme (url : String)
  /-- The media type cannot stand in a header. -/
  | badMediaType
  /-- The client cannot be made. -/
  | badClient (reason : ClientError)
  /-- The resource at this address points on to what cannot be read. -/
  | badLocation (url : String) (reason : Net.UrlFault)
  /-- The resource at this address points on to yet another one. -/
  | tooManyRedirects (url : String)
  deriving DecidableEq, Repr

namespace TransportFault

/-- The wording of a fault. -/
def message : TransportFault → String
  | badUrl _ | badMediaType | badClient _ => "builder error"
  | badScheme url | badLocation url _ => "builder error for url (" ++ url ++ ")"
  | tooManyRedirects url => "error following redirect for url (" ++ url ++ ")"

/-- What lies behind a fault. -/
def cause : TransportFault → String
  | badUrl reason | badLocation _ reason => reason.message
  | badScheme _ => "URL scheme is not allowed"
  | badMediaType => "failed to parse header value"
  | badClient reason => reason.message
  | tooManyRedirects _ => "too many redirects"

end TransportFault

/-- Why a result was not submitted. -/
inductive SubmitError where
  /-- There was no result. -/
  | producer (reason : String)
  /-- The answer was final and no success. -/
  | rejected (status : Nat) (body : String)
  /-- No attempt had a final answer. -/
  | exhausted (attempts : Nat) (last : String)
  /-- No request could be sent at all. -/
  | transport (fault : TransportFault)
  deriving DecidableEq, Repr

namespace SubmitError

/-- The wording of a submission's error. -/
def message : SubmitError → String
  | producer reason => "failed to produce result: " ++ reason
  | rejected status body => "server rejected result with " ++ Net.statusText status ++ ": " ++ body
  | exhausted attempts last =>
    "gave up after " ++ toString attempts ++ " attempts: " ++ last
  | transport fault => "transport error: " ++ fault.message

/-- The wordings of an error and of what lies behind it. -/
def chain (e : SubmitError) : List String :=
  e.message :: match e with
    | producer reason => [reason]
    | rejected .. | exhausted .. => []
    | transport fault => [fault.message, fault.cause]

end SubmitError

end ClusterSurvey

import ClusterSurvey.Net.Answer
import ClusterSurvey.Net.Reference
import ClusterSurvey.Submission.Basic

/-!
# One attempt over the network

An attempt sends a request with the result and reads what the peer sends back.  An answer that points
on to another resource is followed a limited number of times; depending on its status the request is
repeated there, or becomes one that only asks for the resource.
-/

namespace ClusterSurvey

/-- What is sent to a peer. -/
structure Outgoing where
  /-- The method of the request. -/
  method : String
  /-- What the request names. -/
  name : String
  /-- The media type of the body, if there is a body. -/
  mediaType : Option String
  /-- The body. -/
  body : ByteArray

/-- A request for a target. -/
structure Errand where
  /-- Where it goes. -/
  target : Net.Target
  /-- Its method. -/
  method : String
  /-- What it carries, if it carries anything. -/
  parcel : Option Parcel

/-- What is sent on an errand. -/
def Errand.outgoing (e : Errand) : Outgoing :=
  ⟨e.method, e.target.name, e.parcel.map (·.mediaType), e.parcel.elim .empty (·.payload)⟩

/-- What is sent on an errand, as it goes over the wire. -/
def Errand.octets (e : Errand) : ByteArray :=
  let o := e.outgoing
  let lines := [o.method ++ " " ++ o.name ++ " HTTP/1.1", "host: " ++ e.target.authority] ++
    (o.mediaType.elim [] fun m => ["content-type: " ++ m]) ++
    ["content-length: " ++ toString o.body.size, "connection: close", ""]
  Text.octets (String.join (lines.map (· ++ "\r\n"))) ++ o.body

/-- Whether a status code points on to another resource. -/
def pointsOn (status : Nat) : Bool :=
  status = 301 || status = 302 || status = 303 || status = 307 || status = 308

/-- The errand at another target that a status code asks for. -/
def Errand.redirect (e : Errand) (status : Nat) (target : Net.Target) : Errand :=
  if status = 303 ∨ ((status = 301 ∨ status = 302) ∧ e.method = "POST") then ⟨target, "GET", none⟩
  else { e with target }

/-- What an answer points on to. -/
def Errand.next? (e : Errand) (head : Net.AnswerHead) : Option Net.Pointer := do
  guard (pointsOn head.status)
  let location ← (head.values "location").head?
  let text ← Text.ofOctets? (Net.charOctets location)
  e.target.resolve? text.toList

/-- Whether requests are sent to addresses of a scheme. -/
def isRequestScheme (scheme : String) : Bool := scheme = "http" || scheme = "https"

/-- A peer: what it sends back before it hangs up, as seen from a world that the request changes. -/
abbrev Peer (σ : Type) := Outgoing → σ → ByteArray × σ

/-- An attempt for an address that nobody answered. -/
def unansweredAt (url : String) : AttemptOutcome :=
  .unanswered ("error sending request for url (" ++ url ++ ")")

/-- The written form of an address as it is normalised. -/
def addressText (text : String) : String :=
  match Net.Url.parse text with
  | .ok u => u.text
  | .error _ => text

/-- Runs an errand and up to so many more to which the answers point on; `url` is the address that the
first one was for. -/
def Errand.run {σ : Type} (peer : Peer σ) (url : String) : Nat → Errand → σ → AttemptOutcome × σ
  | left, e, s =>
    let (sent, s) := peer e.outgoing s
    match Net.Answer.ofOctets? sent with
    | none => (unansweredAt url, s)
    | some answer =>
      match e.next? answer.head with
      | some pointer =>
        match Net.Url.parse pointer.text, left with
        | .error reason, _ => (.impossible (.badLocation url reason), s)
        | .ok _, 0 => (.impossible (.tooManyRedirects (addressText e.target.text)), s)
        | .ok u, left + 1 =>
          if isRequestScheme u.scheme then
            match pointer.target with
            | none => (unansweredAt url, s)
            | some target => run peer url left (e.redirect answer.head.status target) s
          else (.impossible (.badScheme u.text), s)
      | none =>
        match answer.body with
        | some body => (.answered answer.head.status body, s)
        | none => (.brokenOff answer.head.status "error decoding response body", s)

/-- How often an attempt is pointed on. -/
def maxRedirects : Nat := 10

/-- Whether a text can stand in a header. -/
def isHeaderText (s : String) : Bool := s.toList.all Net.isFieldChar

/-- The address of an attempt, if requests with such a media type can be sent there. -/
def requestUrl (url mediaType : String) : Except TransportFault Net.Url :=
  match Net.Url.parse url with
  | .error reason => .error (.badUrl reason)
  | .ok u =>
    if u.host.isNone then .error (.badScheme u.text)
    else if !isHeaderText mediaType then .error .badMediaType
    else if !isRequestScheme u.scheme then .error (.badScheme u.text)
    else .ok u

/-- The errand of handing over a result. -/
def Parcel.errand (p : Parcel) (u : Net.Url) : Errand := ⟨u.toTarget, "POST", some p⟩

/-- One attempt at handing over a result. -/
def attemptAt {σ : Type} (peer : Peer σ) (url : String) (parcel : Parcel) (s : σ) :
    AttemptOutcome × σ :=
  match requestUrl url parcel.mediaType with
  | .error fault => (.impossible fault, s)
  | .ok u => Errand.run peer u.text maxRedirects (parcel.errand u) s

end ClusterSurvey

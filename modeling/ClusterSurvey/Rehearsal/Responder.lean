import ClusterSurvey.Submission.Exchange

/-!
# A scripted peer

The peer of a submission is played by a list of replies, one for each request; behind its end every
request is answered with success.
-/

namespace ClusterSurvey

/-- What the peer does with a request. -/
inductive Reply where
  /-- It hangs up. -/
  | drop
  /-- It sends these octets and hangs up. -/
  | raw (octets : ByteArray)
  /-- It answers; of the body so many octets fewer are sent than announced. -/
  | answer (status : Nat) (phrase : String) (fields : List (String × String)) (body : ByteArray)
    (missing : Nat)

/-- What the peer sends. -/
def Reply.octets : Reply → ByteArray
  | drop => .empty
  | raw octets => octets
  | answer status phrase fields body missing =>
    let field (name value : String) : String := name ++ ": " ++ value ++ "\r\n"
    let fields := fields ++ [("content-length", toString (body.size + missing))]
    let head := "HTTP/1.1 " ++ toString status ++ " " ++ phrase ++ "\r\n" ++
      String.join (fields.map fun f => field f.1 f.2) ++ "\r\n"
    Text.octets head ++ body

/-- A peer and what it has received. -/
structure Responder where
  /-- What it does with the next requests. -/
  replies : List Reply
  /-- Whether it can be reached. -/
  reachable : Bool
  /-- The requests so far. -/
  received : List Outgoing

namespace Responder

/-- The reply to a request for which none is written down. -/
def usual : Reply := .answer 200 "OK" [] (Text.octets "default") 0

/-- Receives a request. -/
def peer : Peer Responder := fun request r =>
  if r.reachable then
    ((r.replies.head?.getD usual).octets,
      { r with replies := r.replies.drop 1, received := r.received ++ [request] })
  else (.empty, r)

/-- Submits what a producer makes, and tells what the peer received. -/
def submit (r : Responder) (policy : RetryPolicy) (url : String) (made : Except String Parcel) :
    Except SubmitError Acceptance × Responder :=
  let w : Submission Responder :=
    { produce := fun r => (made, r)
      attempt := attemptAt peer url
      pause := fun _ r => r }
  w.submit policy r

end Responder

end ClusterSurvey

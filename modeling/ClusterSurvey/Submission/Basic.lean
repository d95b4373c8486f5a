import ClusterSurvey.Handover.Marker
import ClusterSurvey.Submission.Error
import ClusterSurvey.Submission.RetryPolicy

/-!
# Submitting a result

A submission takes a result from its plugin once and then tries to hand it over until an attempt is
final or the number of attempts is used up, with a pause between two attempts.  A success is final,
and so is an answer that faults the request; an answer that faults the server is not, nor is one that
breaks off or never comes.  All of this acts on a world of which nothing is known here.

Specification: section 4.6, `ResultSubmitter`.
-/

namespace ClusterSurvey

/-- How one attempt ended. -/
inductive AttemptOutcome where
  /-- There was no answer, and there may be one another time. -/
  | unanswered (reason : String)
  /-- There can be no answer. -/
  | impossible (fault : TransportFault)
  /-- There was an answer. -/
  | answered (status : Nat) (body : ByteArray)
  /-- There was an answer whose body broke off. -/
  | brokenOff (status : Nat) (reason : String)

/-- What a successful submission has to show. -/
structure Acceptance where
  /-- The status code of the answer. -/
  status : Nat
  /-- The body of the answer. -/
  body : ByteArray
  /-- The number of attempts. -/
  attempts : Nat

/-- Whether a status code tells of success. -/
def isSuccess (status : Nat) : Bool := 200 ≤ status && status < 300

/-- Whether a status code faults the server. -/
def isServerError (status : Nat) : Bool := 500 ≤ status && status < 600

/-- What an attempt means for the submission: its end, or a reason to try again.  The number is that
of the attempts made. -/
def AttemptOutcome.verdict (attempts : Nat) :
    AttemptOutcome → Except String (Except SubmitError Acceptance)
  | unanswered reason => .error reason
  | impossible fault => .ok (.error (.transport fault))
  | answered status body =>
    if isSuccess status then .ok (.ok ⟨status, body, attempts⟩)
    else if isServerError status then
      .error ("server responded " ++ Net.statusText status ++ ": " ++ Text.ofOctetsLenient body)
    else .ok (.error (.rejected status (Text.ofOctetsLenient body)))
  | brokenOff status reason =>
    .error ("failed to read " ++ Net.statusText status ++ " response: " ++ reason)

/-- How a submission acts on the world around it. -/
structure Submission (σ : Type) where
  /-- Takes the result from its plugin. -/
  produce : σ → Except String Parcel × σ
  /-- Tries to hand the result over. -/
  attempt : Parcel → σ → AttemptOutcome × σ
  /-- Waits after so many attempts. -/
  pause : Nat → σ → σ

namespace Submission

variable {σ : Type}

/-- Tries to hand a result over after `made` attempts, and up to `further` times again. -/
def tryAgain (w : Submission σ) (parcel : Parcel) :
    Nat → Nat → σ → Except SubmitError Acceptance × σ
  | further, made, s =>
    let (outcome, s) := w.attempt parcel s
    let made := made + 1
    match outcome.verdict made with
    | .ok r => (r, s)
    | .error reason =>
      match further with
      | 0 => (.error (.exhausted made reason), s)
      | further + 1 => w.tryAgain parcel further made (w.pause made s)

/-- Takes a result and hands it over: `Submit` of section 4.6 of the specification. -/
def submit (w : Submission σ) (policy : RetryPolicy) (s : σ) : Except SubmitError Acceptance × σ :=
  match w.produce s with
  | (.error reason, s) => (.error (.producer reason), s)
  | (.ok parcel, s) => w.tryAgain parcel (policy.maxAttempts - 1) 0 s

end Submission

end ClusterSurvey

import ClusterSurvey.Submission.Exchange
import ClusterSurvey.Worker.Options

/-!
# A worker

A worker makes a client of its credentials, waits for its plugin's result, and submits it.  What goes
wrong is told from the outside in: what the worker was about, and then what lies behind.

Specification: section 10.6, the worker sidecar.
-/

namespace ClusterSurvey.Worker

/-- How a worker ends. -/
inductive Ending where
  /-- The command line was not accepted. -/
  | refused (e : UsageError)
  /-- What the worker was about, and what lies behind its failure. -/
  | failed (about : String) (chain : List String)
  /-- The result was accepted. -/
  | done (a : Acceptance)

namespace Ending

/-- The status with which the worker exits. -/
def status : Ending → Nat
  | refused .helpWanted => 0
  | refused _ => 2
  | failed .. => 1
  | done _ => 0

/-- The lines of what lies behind a failure; several are numbered. -/
def causes : List String → String
  | [] => ""
  | [cause] => "\n\nCaused by:\n    " ++ cause
  | chain =>
    "\n\nCaused by:" ++ String.join (chain.zipIdx.map fun c =>
      "\n    " ++ toString c.2 ++ ": " ++ c.1)

/-- What the worker reports. -/
def report : Ending → String
  | refused e => e.message
  | failed about chain => "Error: " ++ about ++ causes chain
  | done _ => ""

end Ending

/-- Why a worker's credentials make no client, if they make none. -/
def clientFailure? (e : Encoding) (o : Options) : Option Ending :=
  match Client.ofTexts e o.root o.certificate o.key with
  | .ok _ => none
  | .error reason =>
    some (.failed "failed to build mutual TLS client"
      (SubmitError.transport (.badClient reason)).chain)

/-- How a worker ends after its submission. -/
def Ending.ofSubmission (o : Options) : Except SubmitError Acceptance → Ending
  | .ok a => .done a
  | .error e => .failed ("failed to submit results to " ++ o.resultUrl) e.chain

/-- Runs a worker on a world: `produce` waits for the result there and reads it. -/
def run {σ : Type} (e : Encoding) (o : Options) (produce : σ → Except String Parcel × σ)
    (peer : Peer σ) (pause : Nat → σ → σ) (s : σ) : Ending × σ :=
  match clientFailure? e o with
  | some failure => (failure, s)
  | none =>
    let w : Submission σ := { produce, attempt := attemptAt peer o.resultUrl, pause }
    let (result, s) := w.submit .default s
    (.ofSubmission o result, s)

/-- The result that is ready in a tree, if its plugin is done. -/
def readyResult? (t : Tree) (directory : String) : Option (Except ReadFault Parcel) :=
  ((t.viewMarker directory).verdict directory).map fun path => path.bind t.readParcel

end ClusterSurvey.Worker

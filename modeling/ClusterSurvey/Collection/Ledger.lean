import ClusterSurvey.Result.Status

/-!
# The ledger of outstanding results

A ledger knows which results a run expects, which of them have come, how many are outstanding, and
the status that this adds up to.  A result is counted when it is recorded for the first time.

Specification: section 3, `AggregatorState`, and section 4.3.
-/

namespace ClusterSurvey

/-- Whether an expected result has come. -/
inductive Receipt where
  | pending
  | received
  deriving DecidableEq, Repr, Inhabited

/-- The expected results of a run and what has become of them. -/
structure Ledger where
  /-- The receipt of each expected key. -/
  receipts : List (ResultKey × Receipt)
  /-- How many results are outstanding. -/
  outstanding : Nat
  /-- The status of the run. -/
  status : RunStatus
  deriving DecidableEq, Repr

namespace Ledger

/-- The ledger of a run that expects these results.  A key that is named twice is expected once. -/
def start (expected : List ResultKey) : Ledger :=
  let keys := ResultKey.distinct expected
  ⟨keys.map fun k => (k, .pending), keys.length, .start keys⟩

/-- The receipt of a key, if it is expected. -/
def receipt? (l : Ledger) (k : ResultKey) : Option Receipt := l.receipts.lookup k

/-- Whether a key is expected. -/
def expects (l : Ledger) (k : ResultKey) : Bool := (l.receipt? k).isSome

/-- Sets the receipt of a key. -/
def markReceived (k : ResultKey) (receipts : List (ResultKey × Receipt)) :
    List (ResultKey × Receipt) :=
  receipts.map fun r => if r.1 = k then (r.1, .received) else r

/-- The status after a key's status has changed; a key without an entry changes nothing. -/
def noteStatus (r : RunStatus) (k : ResultKey) (s : Status) : RunStatus :=
  match r.update k s with
  | .ok r' => r'
  | .error _ => r

/-- Records the result of a key: it is received, and one less is outstanding. -/
def record (l : Ledger) (k : ResultKey) (s : Status) : Ledger :=
  ⟨markReceived k l.receipts, l.outstanding - 1, noteStatus l.status k s⟩

end Ledger

end ClusterSurvey

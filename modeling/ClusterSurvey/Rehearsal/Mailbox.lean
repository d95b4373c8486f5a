import ClusterSurvey.Result.Failure

/-!
# A mailbox of bounded size

Results on their way to a collector wait in a mailbox.  Who puts a result into a full mailbox waits
until the reader has emptied it.  The reader may leave after a number of results, and from then on
every result is refused.
-/

namespace ClusterSurvey

/-- A mailbox and what its reader has taken from it. -/
structure Mailbox where
  /-- How many results it holds at most. -/
  capacity : Nat
  /-- After how many results the reader leaves, if ever. -/
  limit : Option Nat
  /-- The results that wait. -/
  waiting : List LocalResult
  /-- The results that the reader has taken. -/
  taken : List LocalResult
  /-- Whether the reader is there. -/
  isOpen : Bool

namespace Mailbox

/-- An empty mailbox. -/
def empty (capacity : Nat) (limit : Option Nat) : Mailbox :=
  ⟨capacity, limit, [], [], limit ≠ some 0⟩

/-- The reader takes all results that wait, or as many as it wants before it leaves. -/
def drain (m : Mailbox) : Mailbox :=
  let wanted := match m.limit with
    | some n => m.waiting.take (n - m.taken.length)
    | none => m.waiting
  let taken := m.taken ++ wanted
  { m with waiting := [], taken := taken, isOpen := m.isOpen && m.limit ≠ some taken.length }

/-- Puts a result into the mailbox.  The answer is the mailbox, whether the sender had to wait for the
reader, and whether the result was accepted. -/
def put (m : Mailbox) (r : LocalResult) : Mailbox × Bool × Bool :=
  if !m.isOpen then (m, false, false)
  else if m.waiting.length < m.capacity then
    ({ m with waiting := m.waiting ++ [r] }, false, true)
  else
    let m := m.drain
    if m.isOpen then ({ m with waiting := m.waiting ++ [r] }, true, true) else (m, true, false)

end Mailbox

end ClusterSurvey

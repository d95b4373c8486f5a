import ClusterSurvey.Net.Answer
import ClusterSurvey.Text.Utf8
import Mathlib.Tactic.IntervalCases

/-!
# The status of an answer that comes through in part

An answer may break off anywhere.  If what comes through of it is an answer at all, then its status is
the one that was sent, whatever stood behind it.
-/

namespace ClusterSurvey.Net

/-- So many octets of an answer: of the line that begins with its status, and of what is sent behind the
status. -/
def answerOctets (status : Nat) (rest : ByteArray) (count : Nat) : ByteArray :=
  (Text.octets ("HTTP/1.1 " ++ toString status) ++ rest).extract 0 count

/-- A head that begins with a version and three digits has the status of these digits. -/
private theorem status_of_scanHead {a b c : Char} {cs rest : List Char} {count s : Nat}
    {head : AnswerHead} (digits : Text.readDigits? 10 [a, b, c] = some s)
    (h : scanHead (("HTTP/1.1 ".toList ++ a :: b :: c :: cs).take count) = some (head, rest)) :
    head.status = s := by
  by_cases hcount : count < 12
  · -- What is shorter has no status.
    interval_cases count <;> cases h
  · obtain ⟨more, rfl⟩ := Nat.exists_eq_add_of_le' (Nat.not_lt.mp hcount)
    have htake : ("HTTP/1.1 ".toList ++ a :: b :: c :: cs).take (more + 12) =
        'H' :: 'T' :: 'T' :: 'P' :: '/' :: '1' :: '.' :: '1' :: ' ' :: a :: b :: c :: cs.take more :=
      rfl
    rw [htake] at h
    obtain ⟨⟨status, phrase⟩, hstatus, h⟩ := Option.bind_eq_some_iff.mp h
    obtain ⟨fields, -, h⟩ := Option.bind_eq_some_iff.mp h
    obtain ⟨⟨values, body⟩, -, h⟩ := Option.bind_eq_some_iff.mp h
    cases h
    obtain ⟨n, hn, hstatus⟩ := Option.bind_eq_some_iff.mp hstatus
    obtain rfl : s = n := Option.some.inj (digits.symm.trans hn)
    split at hstatus
    · cases hstatus
      rfl
    · cases hstatus

/-- So has an answer that begins in this way and is final. -/
private theorem status_of_scanAnswer {a b c : Char} {cs : List Char} {count fuel s : Nat}
    {answer : Answer} (digits : Text.readDigits? 10 [a, b, c] = some s) (final : 200 ≤ s)
    (h : scanAnswer fuel (("HTTP/1.1 ".toList ++ a :: b :: c :: cs).take count) = some answer) :
    answer.head.status = s := by
  cases fuel with
  | zero => cases h
  | succ fuel =>
    obtain ⟨⟨head, rest⟩, hhead, h⟩ := Option.bind_eq_some_iff.mp h
    have hstatus := status_of_scanHead digits hhead
    have hfinal : isPreliminary head.status = false := by
      rw [isPreliminary, hstatus]
      simp [Nat.not_lt.mpr final]
    dsimp only at h
    rw [hfinal] at h
    obtain ⟨framing, -, h⟩ := Option.bind_eq_some_iff.mp h
    cases h
    exact hstatus

/-- An answer that is read from what comes through has the status that was sent. -/
theorem status_of_answerOctets {status count : Nat} {rest : ByteArray} {answer : Answer}
    (known : status ∈ [200, 400, 403, 500])
    (h : Answer.ofOctets? (answerOctets status rest count) = some answer) :
    answer.head.status = status := by
  have hchars : octetChars (answerOctets status rest count) =
      (octetChars (Text.octets ("HTTP/1.1 " ++ toString status)) ++ octetChars rest).take count := by
    simp [octetChars, answerOctets, List.take_append, List.map_take]
  rw [Answer.ofOctets?, hchars] at h
  simp only [List.mem_cons, List.not_mem_nil, or_false] at known
  rcases known with rfl | rfl | rfl | rfl
  all_goals exact status_of_scanAnswer rfl (by decide) h

end ClusterSurvey.Net

import ClusterSurvey.Rehearsal.Responder
import Mathlib.Data.List.Range
import Mathlib.Order.Bounds.Basic

/-!
# How often a submission is tried

What becomes of each request is written down in a script without an end.  The submission makes requests up
to the first one whose outcome is final, or as many as its policy allows if that is fewer, and pauses
between two of them.  All of them carry what its plugin has made, which is taken from it once.
-/

namespace ClusterSurvey

/-- What a submission does, one thing after the other. -/
inductive Submission.Act where
  /-- It takes the result from its plugin. -/
  | produce
  /-- It makes a request with the result. -/
  | request (parcel : Parcel)
  /-- It waits. -/
  | pause (milliseconds : Nat)

/-- Whether something that is done is a request. -/
def Submission.Act.isRequest : Act → Bool
  | request _ => true
  | _ => false

/-- What a submission meets with. -/
structure Script where
  /-- What its plugin has made. -/
  made : Except String Parcel
  /-- What becomes of each request; the first one is number one. -/
  outcome : Nat → AttemptOutcome
  /-- What picks the delay after so many requests. -/
  draw : Nat → Nat

/-- Whether a status code faults the request. -/
def isClientError (status : Nat) : Bool := 400 ≤ status && status < 500

/-- What faults the request is no success, and does not fault the server. -/
theorem ne_of_isClientError {status : Nat} (h : isClientError status = true) :
    isSuccess status = false ∧ isServerError status = false := by
  simp only [isClientError, isServerError, isSuccess, Bool.and_eq_true, decide_eq_true_eq,
    Bool.and_eq_false_iff, decide_eq_false_iff_not] at h ⊢
  omega

namespace AttemptOutcome

/-- Why another request is worth making after an outcome; a final outcome gives no reason. -/
def retryReason? : AttemptOutcome → Option String
  | unanswered reason => some reason
  | impossible _ => none
  | answered status body =>
    if isServerError status then
      some ("server responded " ++ Net.statusText status ++ ": " ++ Text.ofOctetsLenient body)
    else none
  | brokenOff status reason =>
    some ("failed to read " ++ Net.statusText status ++ " response: " ++ reason)

/-- What becomes of a submission by the outcome of its last request, given how many requests it may make and
how many it has made. -/
inductive Settles (limit made : Nat) : AttemptOutcome → Except SubmitError Acceptance → Prop where
  /-- Success is accepted. -/
  | accepted {status : Nat} {body : ByteArray} (success : isSuccess status = true) :
    Settles limit made (answered status body) (.ok ⟨status, body, made⟩)
  /-- Any other complete answer that faults the request rejects it. -/
  | rejected {status : Nat} {body : ByteArray} (failure : isSuccess status = false)
    (own : isServerError status = false) :
    Settles limit made (answered status body) (.error (.rejected status (Text.ofOctetsLenient body)))
  /-- What cannot be sent is given up. -/
  | transport (fault : TransportFault) : Settles limit made (impossible fault) (.error (.transport fault))
  /-- So is what was worth another request if none is left. -/
  | exhausted {o : AttemptOutcome} {reason : String} (retry : o.retryReason? = some reason) :
    Settles limit made o (.error (.exhausted limit reason))

variable {o : AttemptOutcome} {reason : String}

/-- What faults the server is no success. -/
theorem isSuccess_of_isServerError {status : Nat} (h : isServerError status = true) :
    isSuccess status = false := by
  simp only [isServerError, isSuccess, Bool.and_eq_true, decide_eq_true_eq, Bool.and_eq_false_iff,
    decide_eq_false_iff_not] at h ⊢
  omega

/-- An outcome after which another request is worth making decides nothing. -/
theorem verdict_of_retryReason? (h : o.retryReason? = some reason) (made : Nat) :
    o.verdict made = .error reason := by
  cases o with
  | unanswered r => cases h; rfl
  | impossible fault => cases h
  | answered status body =>
    rw [retryReason?, Option.ite_none_right_eq_some] at h
    obtain ⟨server, heq⟩ := h
    rw [verdict, isSuccess_of_isServerError server, server, Option.some.inj heq]
    rfl
  | brokenOff status r => cases h; rfl

/-- Any other outcome decides what becomes of the submission. -/
theorem exists_verdict (h : o.retryReason? = none) (limit made : Nat) :
    ∃ result, o.verdict made = .ok result ∧ o.Settles limit made result := by
  cases o with
  | unanswered r => cases h
  | impossible fault => exact ⟨_, rfl, .transport fault⟩
  | answered status body =>
    cases server : isServerError status with
    | true =>
      rw [retryReason?, server] at h
      cases h
    | false =>
      cases success : isSuccess status with
      | true => exact ⟨_, by rw [verdict, success]; rfl, .accepted success⟩
      | false => exact ⟨_, by rw [verdict, success, server]; rfl, .rejected success server⟩
  | brokenOff status r => cases h

end AttemptOutcome

namespace Script

open Submission (Act)

variable {policy : RetryPolicy} {parcel : Parcel}

/-- A submission that goes by a script and keeps a record of what it does. -/
def submission (c : Script) (policy : RetryPolicy) : Submission (List Act) where
  produce acts := (c.made, acts ++ [.produce])
  attempt parcel acts := (c.outcome (acts.countP Act.isRequest + 1), acts ++ [.request parcel])
  pause made acts := acts ++ [.pause (policy.delayFor (c.draw made) made)]

/-- The requests behind the first so many up to the last one, with a pause after each but the last. -/
def rounds (c : Script) (policy : RetryPolicy) (parcel : Parcel) (first last : Nat) : List Act :=
  (List.range' (first + 1) (last - (first + 1))).flatMap
    (fun i => [.request parcel, .pause (policy.delayFor (c.draw i) i)]) ++ [.request parcel]

/-- The last of several rounds has no pause. -/
theorem rounds_last (c : Script) (first : Nat) :
    c.rounds policy parcel first (first + 1) = [.request parcel] := by
  rw [rounds, Nat.sub_self]
  rfl

/-- In front of the others stands the first round with its pause. -/
theorem rounds_of_lt (c : Script) {first last : Nat} (h : first + 1 < last) :
    c.rounds policy parcel first last =
      [.request parcel, .pause (policy.delayFor (c.draw (first + 1)) (first + 1))] ++
        c.rounds policy parcel (first + 1) last := by
  have hlen : last - (first + 1) = last - (first + 1 + 1) + 1 := by omega
  rw [rounds, rounds, hlen, List.range'_succ, List.flatMap_cons, List.append_assoc]

/-- The requests after which there is none: the last one that is allowed, and those with a final outcome. -/
def stops (c : Script) (limit made : Nat) : Set Nat :=
  {limit} ∪ {i | made < i ∧ (c.outcome i).retryReason? = none}

/-- A request after which there is another one makes no difference to this. -/
theorem stops_succ (c : Script) {made : Nat} {reason : String}
    (retry : (c.outcome (made + 1)).retryReason? = some reason) (limit : Nat) :
    c.stops limit made = c.stops limit (made + 1) := by
  have later (i : Nat) : made < i ∧ (c.outcome i).retryReason? = none ↔
      made + 1 < i ∧ (c.outcome i).retryReason? = none := by
    refine and_congr_left fun final => ⟨fun hi => Nat.lt_of_le_of_ne hi ?_, Nat.lt_of_succ_lt⟩
    rintro rfl
    rw [retry] at final
    cases final
  rw [stops, stops]
  exact congrArg ({limit} ∪ ·) (Set.ext later)

/-- The next request is the first of them if no other is allowed, or if its outcome is final. -/
private theorem isLeast_stops {c : Script} {limit made : Nat}
    (last : made + 1 = limit ∨ (c.outcome (made + 1)).retryReason? = none) (allowed : made + 1 ≤ limit) :
    IsLeast (c.stops limit made) (made + 1) := by
  refine ⟨last.imp id fun final => ⟨Nat.lt_succ_self made, final⟩, ?_⟩
  rintro i (rfl | ⟨hi, -⟩)
  · exact allowed
  · exact hi

/-- A request with a final outcome is the last one, and decides what becomes of the submission. -/
private theorem tryAgain_of_final {c : Script} {made : Nat} {acts : List Act}
    (counted : acts.countP Act.isRequest = made) (final : (c.outcome (made + 1)).retryReason? = none)
    (limit further : Nat) :
    ∃ result, (c.outcome (made + 1)).Settles limit (made + 1) result ∧
      (c.submission policy).tryAgain parcel further made acts =
        (result, acts ++ c.rounds policy parcel made (made + 1)) := by
  obtain ⟨result, hverdict, settles⟩ := AttemptOutcome.exists_verdict final limit (made + 1)
  refine ⟨result, settles, ?_⟩
  rw [Submission.tryAgain.eq_def]
  dsimp only [submission]
  rw [counted, hverdict, rounds_last]

/-- A submission that may make `further` requests after the next one goes on up to the first of those after
which there is none. -/
theorem tryAgain_eq (c : Script) (further made : Nat) (acts : List Act)
    (counted : acts.countP Act.isRequest = made) :
    ∃ k result, IsLeast (c.stops (made + further + 1) made) k ∧
      (c.outcome k).Settles (made + further + 1) k result ∧
        (c.submission policy).tryAgain parcel further made acts =
          (result, acts ++ c.rounds policy parcel made k) := by
  induction further generalizing made acts with
  | zero =>
    have least := isLeast_stops (c := c) (.inl rfl) (Nat.le_refl (made + 1))
    cases hreason : (c.outcome (made + 1)).retryReason? with
    | none =>
      obtain ⟨result, settles, heq⟩ := tryAgain_of_final counted hreason (made + 0 + 1) 0
      exact ⟨made + 1, result, least, settles, heq⟩
    | some reason =>
      refine ⟨made + 1, _, least, .exhausted hreason, ?_⟩
      rw [Submission.tryAgain.eq_def]
      dsimp only [submission]
      rw [counted, AttemptOutcome.verdict_of_retryReason? hreason, rounds_last]
  | succ further ih =>
    cases hreason : (c.outcome (made + 1)).retryReason? with
    | none =>
      obtain ⟨result, settles, heq⟩ :=
        tryAgain_of_final counted hreason (made + (further + 1) + 1) (further + 1)
      exact ⟨made + 1, result, isLeast_stops (.inr hreason) (by omega), settles, heq⟩
    | some reason =>
      -- What follows is a submission that has made one request more, and the limit is the same.
      let pause := Act.pause (policy.delayFor (c.draw (made + 1)) (made + 1))
      have hcount : (acts ++ [Act.request parcel] ++ [pause]).countP Act.isRequest = made + 1 := by
        rw [List.countP_append, List.countP_append, counted]
        rfl
      have hlimit : made + (further + 1) + 1 = made + 1 + further + 1 := by omega
      obtain ⟨k, result, least, settles, heq⟩ := ih (made + 1) _ hcount
      have hk : made + 1 < k := by
        rcases least.1 with rfl | ⟨hk, -⟩
        · omega
        · exact hk
      rw [hlimit, c.stops_succ hreason]
      refine ⟨k, result, least, settles, ?_⟩
      rw [Submission.tryAgain.eq_def]
      dsimp only [submission] at heq ⊢
      rw [counted, AttemptOutcome.verdict_of_retryReason? hreason]
      dsimp only
      rw [heq, c.rounds_of_lt hk, List.append_assoc, List.append_assoc]
      rfl

/-- A submission of what its plugin has made takes it once, and goes on up to the first request after which
there is none. -/
private theorem exists_rounds {c : Script} (made : c.made = .ok parcel) (policy : RetryPolicy) :
    ∃ k result, IsLeast (c.stops (max 1 policy.maxAttempts) 0) k ∧
      (c.outcome k).Settles (max 1 policy.maxAttempts) k result ∧
        (c.submission policy).submit policy [] = (result, .produce :: c.rounds policy parcel 0 k) := by
  have hlimit : max 1 policy.maxAttempts = 0 + (policy.maxAttempts - 1) + 1 := by omega
  obtain ⟨k, result, least, settles, heq⟩ :=
    @tryAgain_eq policy parcel c (policy.maxAttempts - 1) 0 [.produce] rfl
  rw [hlimit]
  refine ⟨k, result, least, settles, ?_⟩
  have produced : (c.submission policy).produce [] = (.ok parcel, [.produce]) := by rw [← made]; rfl
  rw [Submission.submit, produced]
  exact heq

/-- Whatever becomes of its requests, a submission takes the result from its plugin once.  If there is none,
it does nothing else.  Otherwise it makes as many requests as it is allowed, or up to the first one whose
outcome is final if that is fewer, all of them with the result, with the pause of its policy after each but
the last; and the outcome of the last one decides what becomes of it. -/
theorem submit_script (c : Script) (policy : RetryPolicy) :
    match c.made with
    | .error reason =>
      (c.submission policy).submit policy [] = (.error (.producer reason), [.produce])
    | .ok parcel =>
      ∃ k result,
        IsLeast ({max 1 policy.maxAttempts} ∪ {i | 0 < i ∧ (c.outcome i).retryReason? = none}) k ∧
        (c.outcome k).Settles (max 1 policy.maxAttempts) k result ∧
        (c.submission policy).submit policy [] = (result, .produce :: c.rounds policy parcel 0 k) := by
  cases made : c.made with
  | error reason =>
    have produced : (c.submission policy).produce [] = (.error reason, [.produce]) := by
      rw [← made]
      rfl
    dsimp only
    rw [Submission.submit, produced]
  | ok parcel => exact exists_rounds made policy

/-! ### Client errors -/

/-- How many requests there are in several rounds. -/
theorem countP_rounds (c : Script) {first last : Nat} (h : first < last) :
    (c.rounds policy parcel first last).countP Act.isRequest = last - first := by
  obtain ⟨n, rfl⟩ : ∃ n, last = first + 1 + n := ⟨last - (first + 1), by omega⟩
  induction n generalizing first with
  | zero =>
    rw [Nat.add_zero, c.rounds_last, Nat.add_sub_cancel_left]
    rfl
  | succ n ih =>
    have hlast : first + 1 + (n + 1) = first + 1 + 1 + n := by omega
    rw [c.rounds_of_lt (by omega), List.countP_append, hlast, ih (by omega)]
    have one : [Act.request parcel,
        .pause (policy.delayFor (c.draw (first + 1)) (first + 1))].countP Act.isRequest = 1 := rfl
    omega

/-- A client error that arrives in full is the last answer, and rejects the submission. -/
private theorem rejected_of_answered {c : Script} {i k limit status : Nat} {body : ByteArray}
    {result : Except SubmitError Acceptance} (client : isClientError status = true) (first : 0 < i)
    (whole : c.outcome i = .answered status body) (least : IsLeast (c.stops limit 0) k) (reached : i ≤ k)
    (settles : (c.outcome k).Settles limit k result) :
    k = i ∧ result = .error (.rejected status (Text.ofOctetsLenient body)) := by
  obtain ⟨notSuccess, notServer⟩ := ne_of_isClientError client
  have final : (c.outcome i).retryReason? = none := by
    rw [whole, AttemptOutcome.retryReason?, notServer]
    rfl
  obtain rfl : k = i := Nat.le_antisymm (least.2 (.inr ⟨first, final⟩)) reached
  rw [whole] at settles final
  cases settles with
  | accepted success => rw [notSuccess] at success; cases success
  | rejected _ _ => exact ⟨rfl, rfl⟩
  | exhausted retry => rw [final] at retry; cases retry

/-- An answer whose body breaks off is the last one only if no other request is allowed, whatever its status
is, and does not reject the submission. -/
private theorem retried_of_brokenOff {c : Script} {i k limit status : Nat} {reason : String}
    {result : Except SubmitError Acceptance} (broken : c.outcome i = .brokenOff status reason)
    (least : IsLeast (c.stops limit 0) k) (reached : i ≤ k)
    (settles : (c.outcome k).Settles limit k result) :
    if i < limit then i < k
    else k = i ∧ result = .error (.exhausted i
      ("failed to read " ++ Net.statusText status ++ " response: " ++ reason)) := by
  have atMost : k ≤ limit := least.2 (.inl rfl)
  split
  · next more =>
    rcases least.1 with rfl | ⟨-, final⟩
    · exact more
    · refine Nat.lt_of_le_of_ne reached ?_
      rintro rfl
      rw [broken] at final
      cases final
  · next last =>
    obtain rfl : k = i := by omega
    obtain rfl : limit = k := by omega
    rw [broken] at settles
    cases settles with
    | exhausted given =>
      cases given
      exact ⟨rfl, rfl⟩

/-- What a request does that is answered with a client error, as soon as it has been made: if the answer is
whole, it is the last request and rejects the submission; but if the body breaks off, there is another
request, unless no more are allowed, and then the submission is given up without being rejected. -/
theorem clientError_script {c : Script} (made : c.made = .ok parcel) (policy : RetryPolicy)
    {i status : Nat} (client : isClientError status = true) (first : 0 < i)
    (reached : i ≤ ((c.submission policy).submit policy []).2.countP Act.isRequest) :
    let ending := (c.submission policy).submit policy []
    (∀ body, c.outcome i = .answered status body →
      ending.2.countP Act.isRequest = i ∧
        ending.1 = .error (.rejected status (Text.ofOctetsLenient body))) ∧
    (∀ reason, c.outcome i = .brokenOff status reason →
      if i < max 1 policy.maxAttempts then i < ending.2.countP Act.isRequest
      else ending.2.countP Act.isRequest = i ∧ ending.1 = .error (.exhausted i
        ("failed to read " ++ Net.statusText status ++ " response: " ++ reason))) := by
  obtain ⟨k, result, least, settles, heq⟩ := exists_rounds made policy
  have hk : 0 < k := by
    rcases least.1 with rfl | ⟨hk, -⟩
    · omega
    · exact hk
  have count : ((c.submission policy).submit policy []).2.countP Act.isRequest = k := by
    rw [heq, List.countP_cons, c.countP_rounds hk]
    rfl
  rw [count] at reached
  dsimp only
  rw [count, heq]
  exact ⟨fun _ whole => rejected_of_answered client first whole least reached settles,
    fun _ broken => retried_of_brokenOff broken least reached settles⟩

/-- A script in which the answer to the first request is a client error whose body breaks off, and the answer
to the second one a client error in full. -/
def refusedTwice : Script :=
  ⟨.ok ⟨Text.octets "42", "text/plain"⟩,
    fun i => if i = 1 then .brokenOff 400 "error decoding response body" else .answered 404 .empty,
    fun _ => 0⟩

/-- Its second request is the last one, and only this one rejects the submission. -/
theorem clientError_refusedTwice :
    let ending := (refusedTwice.submission .default).submit .default []
    isClientError 404 = true ∧ 0 < 2 ∧ 2 ≤ ending.2.countP Act.isRequest ∧
      refusedTwice.outcome 2 = .answered 404 .empty ∧ ending.2.countP Act.isRequest = 2 ∧
      ending.1 = .error (.rejected 404 (Text.ofOctetsLenient .empty)) := by
  have client : isClientError 404 = true := rfl
  have reached : 2 ≤ ((refusedTwice.submission .default).submit .default []).2.countP Act.isRequest := by
    decide +kernel
  have whole := (clientError_script rfl .default client (by decide : 0 < 2) reached).1 .empty rfl
  exact ⟨client, by decide, reached, rfl, whole⟩

end Script

namespace Responder

/-- A peer that answers the first request with a client error and hangs up before the end of the body. -/
def curtRefusal : Responder := ⟨[.answer 400 "Bad Request" [] (Text.octets "no") 3], true, []⟩

/-- A submission to this peer. -/
def curtlyRefused : Except SubmitError Acceptance × Responder :=
  curtRefusal.submit .default "http://survey.example/" (.ok ⟨Text.octets "42", "text/plain"⟩)

/-- The client error has arrived, but another request is made, and the submission is accepted. -/
theorem accepted_curtlyRefused :
    (curtRefusal.replies.map fun r => (Net.Answer.ofOctets? r.octets).map (·.head.status)) =
        [some 400] ∧
      curtlyRefused.2.received.length = 2 ∧
      curtlyRefused.1.toOption.map (fun a => (a.status, a.attempts)) = some (200, 2) := by
  decide +kernel

end Responder

end ClusterSurvey

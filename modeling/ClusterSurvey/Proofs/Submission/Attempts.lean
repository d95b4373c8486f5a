import ClusterSurvey.Submission.Exchange

/-!
# How a submission ends

A submission ends with its last attempt.  If it is accepted or rejected, then so was what came back from
that attempt; and an attempt that is answered without being pointed on is over after one request.
-/

namespace ClusterSurvey

namespace AttemptOutcome

variable {o : AttemptOutcome} {n : Nat}

/-- What is accepted was answered with success. -/
theorem of_accepted {a : Acceptance} (h : o.verdict n = .ok (.ok a)) :
    ∃ status body, o = .answered status body ∧ isSuccess status = true := by
  unfold verdict at h
  split at h
  · cases h
  · cases h
  · next status body =>
    split at h
    · next hs => exact ⟨status, body, rfl, hs⟩
    · split at h <;> cases h
  · cases h

/-- What is rejected was answered, and neither with success nor with a fault of the server. -/
theorem of_rejected {status : Nat} {text : String}
    (h : o.verdict n = .ok (.error (.rejected status text))) :
    ∃ body, o = .answered status body ∧ isSuccess status = false ∧ isServerError status = false := by
  unfold verdict at h
  split at h
  · cases h
  · cases h
  · next code body =>
    split at h
    · cases h
    · next hs =>
      split at h
      · cases h
      · next hf =>
        cases h
        exact ⟨body, rfl, Bool.not_eq_true _ ▸ hs, Bool.not_eq_true _ ▸ hf⟩
  · cases h

end AttemptOutcome

namespace Submission

variable {σ : Type} {w : Submission σ} {P : σ → Prop} {parcel : Parcel}

/-- How a submission ends in a state: with an attempt that is final, or with the last one that it may
make. -/
def EndsWith (w : Submission σ) (parcel : Parcel) (s : σ)
    (ending : Except SubmitError Acceptance × σ) : Prop :=
  ending.2 = (w.attempt parcel s).2 ∧ ∃ n,
    (w.attempt parcel s).1.verdict n = .ok ending.1 ∨ ∃ last, ending.1 = .error (.exhausted n last)

/-- What every attempt and every pause keeps holds when a submission makes its last attempt. -/
theorem tryAgain_endsWith (attempt : ∀ s, P s → P (w.attempt parcel s).2)
    (pause : ∀ n s, P s → P (w.pause n s)) {s : σ} (h : P s) (further made : Nat) :
    ∃ s', P s' ∧ w.EndsWith parcel s' (w.tryAgain parcel further made s) := by
  induction further generalizing s made with
  | zero =>
    refine ⟨s, h, ?_⟩
    unfold tryAgain
    dsimp only
    split
    · next r hr => exact ⟨rfl, made + 1, .inl hr⟩
    · next reason _ => exact ⟨rfl, made + 1, .inr ⟨reason, rfl⟩⟩
  | succ further ih =>
    unfold tryAgain
    dsimp only
    split
    · next r hr => exact ⟨s, h, rfl, made + 1, .inl hr⟩
    · exact ih (pause _ _ (attempt s h)) (made + 1)

end Submission

/-- An answer whose status points nowhere ends an errand. -/
theorem Errand.run_of_final {σ : Type} {peer : Peer σ} {e : Errand} {s : σ}
    (final : ∀ answer, Net.Answer.ofOctets? (peer e.outgoing s).1 = some answer →
      pointsOn answer.head.status = false) (url : String) (left : Nat) :
    (Errand.run peer url left e s).2 = (peer e.outgoing s).2 ∧
      ∀ status body, (Errand.run peer url left e s).1 = .answered status body →
        ∃ answer, Net.Answer.ofOctets? (peer e.outgoing s).1 = some answer ∧
          answer.head.status = status := by
  unfold Errand.run
  dsimp only
  split
  · exact ⟨rfl, nofun⟩
  · next answer hanswer =>
    have hnext : e.next? answer.head = none := by
      rw [next?, final answer hanswer]
      rfl
    rw [hnext]
    dsimp only
    split
    · refine ⟨rfl, fun status body h => ⟨answer, hanswer, ?_⟩⟩
      cases h
      rfl
    · exact ⟨rfl, nofun⟩

end ClusterSurvey

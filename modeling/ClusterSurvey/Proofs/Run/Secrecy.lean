import ClusterSurvey.Proofs.Plugin.Secrecy
import ClusterSurvey.Run.Basic

/-!
# Runs that differ in key material

Two runs in which the credentials agree in name and root, and in which the same things happen otherwise, go
through the same states.  Only the values of the secrets that they have the cluster create are different
(`run?_alike`, the result of this module).
-/

namespace ClusterSurvey

namespace Run

variable {r r' : Run} {e e' : Event} {n : Nat} {i : Instance} {replies replies' : Replies}

/-- The calls for plugins without the values in the secrets that they create. -/
def maskedCalls (calls : List (Nat × ClusterCall)) : List (Nat × ClusterCall) :=
  calls.map fun c => (c.1, c.2.masked)

/-- Calls that come later are masked like the first ones. -/
theorem maskedCalls_append (calls : List (Nat × ClusterCall)) (made : List ClusterCall) :
    maskedCalls (calls ++ made.map fun c => (n, c)) =
      maskedCalls calls ++ (made.map ClusterCall.masked).map fun c => (n, c) := by
  rw [maskedCalls, List.map_append, List.map_map, List.map_map]
  rfl

/-- A run without the values in the secrets that it has had created. -/
def masked (r : Run) : Run := { r with calls := maskedCalls r.calls }

@[simp] theorem masked_monitors (r : Run) : r.masked.monitors = r.monitors := rfl
@[simp] theorem masked_queue (r : Run) : r.masked.queue = r.queue := rfl
@[simp] theorem masked_phase (r : Run) : r.masked.phase = r.phase := rfl

/-- The same event, but for the certificate and the key of a credential, while the cluster answers alike. -/
inductive Event.Alike : Event → Event → Prop where
  | launch {issued issued' : Except CertificateError Credential} {replies replies' : Replies}
      (credentials : issued.map Credential.masked = issued'.map Credential.masked)
      (answers : replies.Alike replies') : Alike (.launch issued replies) (.launch issued' replies')
  | cleanUp {replies replies' : Replies} (answers : replies.Alike replies') :
      Alike (.cleanUp replies) (.cleanUp replies')
  | same (e : Event) (launch : ∀ issued replies, e ≠ .launch issued replies)
      (cleanUp : ∀ replies, e ≠ .cleanUp replies) : Alike e e

/-- Runs that are the same without those values differ in their calls only. -/
theorem exists_calls_of_masked (same : r.masked = r'.masked) :
    ∃ calls, r' = { r with calls := calls } ∧ maskedCalls calls = maskedCalls r.calls := by
  refine ⟨r'.calls, ?_, (congrArg Run.calls same).symm⟩
  cases r
  cases r'
  simp_all [masked]

/-- Whatever is neither a launch nor a clean-up happens to a run without a look at the calls made so far. -/
theorem step?_masked (r : Run) (launch : ∀ issued replies, e ≠ .launch issued replies)
    (cleanUp : ∀ replies, e ≠ .cleanUp replies) : r.masked.step? e = (r.step? e).map masked := by
  unfold step?
  cases e with
  | launch issued replies => exact absurd rfl (launch issued replies)
  | cleanUp replies => exact absurd rfl (cleanUp replies)
  | collect e =>
    dsimp only
    rw [apply_ite (Option.map masked), Option.map_map]
    rfl
  | wake n =>
    dsimp only
    rw [masked_monitors]
    cases r.monitors[n]? with
    | none => rfl
    | some m =>
      dsimp only
      rw [apply_ite (Option.map masked)]
      rfl
  | observe n o =>
    dsimp only
    rw [masked_monitors]
    cases r.monitors[n]? with
    | none => rfl
    | some m =>
      dsimp only
      rw [apply_ite (Option.map masked)]
      rfl
  | takeUp mark =>
    dsimp only
    rw [masked_queue]
    cases r.queue with
    | nil => rfl
    | cons report rest =>
      dsimp only
      rw [apply_ite (Option.map masked)]
      rfl
  | pass milliseconds =>
    dsimp only
    rw [apply_ite (Option.map masked)]
    rfl
  | serviceEnded reason =>
    dsimp only
    rw [apply_ite (Option.map masked)]
    rfl
  | softTimeout =>
    dsimp only
    rw [masked_phase]
    split
    · rw [apply_ite (Option.map masked)]
      rfl
    · rfl
  | hardTimeout =>
    dsimp only
    rw [masked_phase]
    split
    · rw [apply_ite (Option.map masked)]
      rfl
    · rfl
  | serviceMissed =>
    dsimp only
    rw [masked_phase]
    split
    · rw [Option.map_map]
      rfl
    · rfl
  | waited =>
    dsimp only
    rw [masked_phase]
    split
    · rw [apply_ite (Option.map masked), Option.map_map]
      rfl
    · rfl
  | drained =>
    dsimp only
    rw [masked_phase]
    split
    · rw [apply_ite (Option.map masked)]
      rfl
    · rfl

/-- A plugin is launched alike with credentials that differ in certificate and key. -/
theorem masked_launch {issued issued' : Except CertificateError Credential} (same : r.masked = r'.masked)
    (credentials : issued.map Credential.masked = issued'.map Credential.masked)
    (answers : replies.Alike replies') :
    (r.launch n i issued replies).masked = (r'.launch n i issued' replies').masked := by
  obtain ⟨calls, rfl, hcalls⟩ := exists_calls_of_masked same
  cases issued with
  | error e =>
    cases issued' with
    | error e' =>
      cases credentials
      simp only [launch, abandon, stopWait, masked, hcalls]
    | ok b => cases credentials
  | ok a =>
    cases issued' with
    | error e' => cases credentials
    | ok b =>
      obtain ⟨-, root⟩ := Credential.masked_eq_iff.mp (Except.ok.inj credentials)
      have hanswer (address : String) : (i.launch replies address a).2 = (i.launch replies' address b).2 :=
        (Instance.launch_alike root answers).2
      have hmade (address : String) :
          maskedCalls (r.calls ++ (i.launch replies address a).1.map fun c => (n, c)) =
            maskedCalls (calls ++ (i.launch replies' address b).1.map fun c => (n, c)) := by
        rw [maskedCalls_append, maskedCalls_append, hcalls, Instance.masked_launch root answers]
      unfold launch
      dsimp only
      rw [hanswer]
      cases (i.launch replies' r.settings.advertiseAddress b).2 with
      | error e => simp only [abandon, stopWait, masked, hmade]
      | ok u => simp only [masked, hmade]

/-- A plugin is cleaned up alike. -/
theorem masked_cleanUp (same : r.masked = r'.masked) (answers : replies.Alike replies') :
    (r.cleanUp n i replies).masked = (r'.cleanUp n i replies').masked := by
  obtain ⟨calls, rfl, hcalls⟩ := exists_calls_of_masked same
  have hanswers : ∀ call, replies call = replies' call := fun call => answers call call rfl
  simp only [cleanUp, masked, maskedCalls_append, hcalls, hanswers]

/-- What can happen to one of two runs can happen alike to the other one. -/
theorem step?_alike (same : r.masked = r'.masked) (alike : e.Alike e') :
    (r.step? e).map masked = (r'.step? e').map masked := by
  cases alike with
  | launch credentials answers =>
    have hlaunch {n : Nat} {i : Instance} := masked_launch (n := n) (i := i) same credentials answers
    obtain ⟨calls, rfl, -⟩ := exists_calls_of_masked same
    unfold step?
    dsimp only
    split
    · rw [Option.map_map, Option.map_map]
      exact congrArg (fun f => Option.map f _) (funext fun i => hlaunch)
    · rfl
  | cleanUp answers =>
    have hcleanUp {n : Nat} {i : Instance} := masked_cleanUp (n := n) (i := i) same answers
    obtain ⟨calls, rfl, -⟩ := exists_calls_of_masked same
    unfold step?
    dsimp only
    split
    · next n ending _ =>
      rw [Option.map_map, Option.map_map]
      exact congrArg (fun f => Option.map f _) (funext fun i =>
        congrArg (fun s : Run => { s with phase := r.phaseBehind n ending }) hcleanUp)
    · rfl
  | same e launch cleanUp => rw [← step?_masked r launch cleanUp, ← step?_masked r' launch cleanUp, same]

/-- Runs through events that differ in certificates and keys only end in the same state, the values in secrets
apart. -/
theorem run?_alike {events events' : List Event} (same : r.masked = r'.masked)
    (alike : List.Forall₂ Event.Alike events events') :
    (r.run? events).map masked = (r'.run? events').map masked := by
  induction alike generalizing r r' with
  | nil => exact congrArg some same
  | @cons e e' rest rest' first _ ih =>
    have hstep := step?_alike same first
    unfold run? Machine.run?
    cases hr : r.step? e with
    | none =>
      cases hr' : r'.step? e' with
      | none => rfl
      | some s' =>
        rw [hr, hr'] at hstep
        cases hstep
    | some s =>
      cases hr' : r'.step? e' with
      | none =>
        rw [hr, hr'] at hstep
        cases hstep
      | some s' =>
        rw [hr, hr'] at hstep
        exact ih (Option.some.inj hstep)

end Run

end ClusterSurvey

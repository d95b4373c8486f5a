import ClusterSurvey.Proofs.Run.Completion

/-!
# The launch of the plugins

A run launches its plugins in their order.  For each it has a credential issued and asks the cluster for
a secret and then for a workload.  The first thing that fails is the last one: the run asks for nothing
more, and fails for that reason.
-/

namespace ClusterSurvey

/-- Whether a call makes something. -/
def ClusterCall.isCreation : ClusterCall → Bool
  | createSecret _ => true
  | createWorkload _ => true
  | deleteUnits .. => false
  | deleteSecret .. => false

namespace Instance

/-- What the launch of a plugin meets with: the credential, if one could be issued, and the answers of
the cluster. -/
structure Attempt where
  issued : Except CertificateError Credential
  replies : Replies

/-- How an attempt at the launch of a plugin goes: what the cluster is asked for, and why the launch
fails, if it does. -/
inductive Launches (i : Instance) (advertise : String) :
    Attempt → List ClusterCall → Option RunError → Prop where
  /-- No credential could be issued. -/
  | uncertified (e : CertificateError) (replies : Replies) :
    Launches i advertise ⟨.error e, replies⟩ [] (some (.certificate e))
  /-- The name or the result type is no segment. -/
  | unrendered (credential : Credential) (replies : Replies) (segment : String)
      (bad : isSegment i.name = false ∧ segment = i.name ∨
        isSegment i.name = true ∧ isSegment i.resultType = false ∧ segment = i.resultType) :
    Launches i advertise ⟨.ok credential, replies⟩ []
      (some (.dispatch i.name (.manifest i.name (KeyError.invalidSegment segment).message)))
  /-- The cluster refuses the secret. -/
  | secretRefused (credential : Credential) (replies : Replies) (manifest : Manifest) (e : ClusterError)
      (rendered : i.render advertise credential = .ok manifest)
      (refused : replies (.createSecret (i.secret credential)) = some e) :
    Launches i advertise ⟨.ok credential, replies⟩ [.createSecret (i.secret credential)]
      (some (.dispatch i.name (.cluster i.name e)))
  /-- The cluster refuses the workload. -/
  | workloadRefused (credential : Credential) (replies : Replies) (manifest : Manifest)
      (e : ClusterError) (rendered : i.render advertise credential = .ok manifest)
      (taken : replies (.createSecret (i.secret credential)) = none)
      (refused : replies (.createWorkload manifest) = some e) :
    Launches i advertise ⟨.ok credential, replies⟩
      [.createSecret (i.secret credential), .createWorkload manifest]
      (some (.dispatch i.name (.cluster i.name e)))
  /-- The cluster takes both. -/
  | launched (credential : Credential) (replies : Replies) (manifest : Manifest)
      (rendered : i.render advertise credential = .ok manifest)
      (taken : replies (.createSecret (i.secret credential)) = none)
      (placed : replies (.createWorkload manifest) = none) :
    Launches i advertise ⟨.ok credential, replies⟩
      [.createSecret (i.secret credential), .createWorkload manifest] none

namespace Launches

variable {i : Instance} {advertise : String} {a : Attempt} {calls : List ClusterCall}
variable {failure : Option RunError}

/-- A launch only makes things. -/
theorem isCreation_of_mem (h : i.Launches advertise a calls failure) :
    ∀ call ∈ calls, call.isCreation = true := by
  cases h <;> simp [ClusterCall.isCreation]

/-- A plugin that is asked for has names that can stand in a path. -/
theorem segments_of_mem {call : ClusterCall} (h : i.Launches advertise a calls failure)
    (hcall : call ∈ calls) : isSegment i.name = true ∧ isSegment i.resultType = true := by
  have of_render {credential : Credential} {manifest : Manifest}
      (rendered : i.render advertise credential = .ok manifest) :
      isSegment i.name = true ∧ isSegment i.resultType = true :=
    checkNames_eq_ok_iff.mp (render_eq_ok_iff.mp rendered).1
  cases h with
  | uncertified e replies => cases hcall
  | unrendered credential replies segment bad => cases hcall
  | secretRefused credential replies manifest e rendered refused => exact of_render rendered
  | workloadRefused credential replies manifest e rendered taken refused => exact of_render rendered
  | launched credential replies manifest rendered taken placed => exact of_render rendered

end Launches

end Instance

namespace Run

open Instance

variable {root : String} {settings : Settings} {instances : List Instance} {nodes : List String}
variable {service : Except CertificateError ServerSide} {r r' : Run} {e : Event}
variable {events : List Event} {advertise : String}

/-! ### One launch -/

/-- A launch adds what its plugin is asked for, and gives the run up exactly if it fails. -/
theorem launches_launch (r : Run) (n : Nat) (i : Instance) (a : Attempt) :
    ∃ calls failure, i.Launches r.settings.advertiseAddress a calls failure ∧
      (r.launch n i a.issued a.replies).calls = r.calls ++ calls.map (fun call => (n, call)) ∧
      (r.launch n i a.issued a.replies).phase = failure.elim
        (if n + 1 < r.instances.length then .launching (n + 1) else .waiting false)
        (fun err => .cleaning 0 (some (.error err))) := by
  obtain ⟨issued, replies⟩ := a
  unfold launch
  cases issued with
  | error err => exact ⟨[], _, .uncertified err replies, by simp [abandon, stopWait], rfl⟩
  | ok credential =>
    dsimp only
    unfold Instance.launch
    cases hrender : i.render r.settings.advertiseAddress credential with
    | error err =>
      obtain ⟨segment, rfl, bad⟩ := checkNames_eq_error_iff.mp (render_eq_error_iff.mp hrender)
      exact ⟨[], _, .unrendered credential replies segment bad, rfl, rfl⟩
    | ok manifest =>
      dsimp only
      unfold dispatch
      cases hsecret : replies (.createSecret (i.secret credential)) with
      | some err =>
        simp only [hsecret]
        exact ⟨_, _, .secretRefused credential replies manifest err hrender hsecret, rfl, rfl⟩
      | none =>
        cases hworkload : replies (.createWorkload manifest) with
        | some err =>
          simp only [hsecret, hworkload]
          exact ⟨_, _, .workloadRefused credential replies manifest err hrender hsecret hworkload,
            rfl, rfl⟩
        | none =>
          simp only [hsecret, hworkload]
          exact ⟨_, _, .launched credential replies manifest hrender hsecret hworkload, rfl, rfl⟩

/-! ### Several launches -/

/-- The attempt that an event is, if it is one. -/
def Event.attempt? : Event → Option Attempt
  | .launch issued replies => some ⟨issued, replies⟩
  | _ => none

/-- The attempts at a launch among some events, in their order. -/
def attempts (events : List Event) : List Attempt := events.filterMap Event.attempt?

private theorem attempts_concat (es : List Event) (e : Event) :
    attempts (es ++ [e]) = attempts es ++ e.attempt?.toList := by
  cases h : e.attempt? <;> simp [attempts, h]

/-- What a run asked the cluster to make, each with the position of its plugin. -/
def creations (r : Run) : List (Nat × ClusterCall) := r.calls.filter (·.2.isCreation)

/-- What attempts at the launch of plugins, the first of which has a position, come to: the things asked
for, and why the last one fails, if it does.  Each attempt is at the plugin behind the one before, and
none is made behind one that fails. -/
inductive InOrder (advertise : String) :
    Nat → List Instance → List Attempt → List (Nat × ClusterCall) → Option RunError → Prop where
  /-- No attempt has been made. -/
  | unstarted (n : Nat) (instances : List Instance) : InOrder advertise n instances [] [] none
  /-- The first plugin is launched, and then others. -/
  | next {n i rest a as calls more failure} (first : i.Launches advertise a calls none)
      (others : InOrder advertise (n + 1) rest as more failure) :
    InOrder advertise n (i :: rest) (a :: as) (calls.map (fun call => (n, call)) ++ more) failure
  /-- The launch of the first plugin fails. -/
  | failed {n i rest a calls e} (first : i.Launches advertise a calls (some e)) :
    InOrder advertise n (i :: rest) [a] (calls.map fun call => (n, call)) (some e)

namespace InOrder

variable {n : Nat} {as : List Attempt} {calls : List (Nat × ClusterCall)} {failure : Option RunError}

/-- As long as nothing has failed, a further attempt is at the next plugin. -/
theorem concat {i : Instance} {a : Attempt} {more : List ClusterCall}
    (h : InOrder advertise n instances as calls none) (at_next : instances[as.length]? = some i)
    (last : i.Launches advertise a more failure) :
    InOrder advertise n instances (as ++ [a])
      (calls ++ more.map fun call => (n + as.length, call)) failure := by
  induction as generalizing n instances calls with
  | nil =>
    cases h
    obtain ⟨rest, rfl⟩ : ∃ rest, instances = i :: rest := by
      cases instances with
      | nil => cases at_next
      | cons j rest =>
        cases at_next
        exact ⟨rest, rfl⟩
    cases failure with
    | none =>
      have hone : InOrder advertise n (i :: rest) [a] (more.map (fun call => (n, call)) ++ []) none :=
        .next last (.unstarted (n + 1) rest)
      rwa [List.append_nil] at hone
    | some err => exact .failed last
  | cons b bs ih =>
    cases h with
    | @next _ j rest _ _ made others _ first behind =>
      have hlast := InOrder.next (n := n) first (ih behind at_next)
      rwa [← List.append_assoc, Nat.add_right_comm n 1, Nat.add_assoc n] at hlast

/-- Where a launch fails there is a plugin. -/
theorem plugins {cause : RunError} (h : InOrder advertise n instances as calls (some cause)) :
    instances ≠ [] := by
  cases h with
  | next first others => exact List.cons_ne_nil _ _
  | failed first => exact List.cons_ne_nil _ _

/-- What was asked for at a position was asked for in the launch of the plugin there. -/
theorem exists_of_mem {m : Nat} {call : ClusterCall} (h : InOrder advertise n instances as calls failure)
    (hm : (m, call) ∈ calls) :
    ∃ k i a made ending, m = n + k ∧ instances[k]? = some i ∧
      i.Launches advertise a made ending ∧ call ∈ made := by
  induction h with
  | unstarted n instances => cases hm
  | @next n i rest a as made others failure first behind ih =>
    rcases List.mem_append.mp hm with hfirst | hothers
    · obtain ⟨c, hc, heq⟩ := List.mem_map.mp hfirst
      cases heq
      exact ⟨0, i, a, made, none, rfl, rfl, first, hc⟩
    · obtain ⟨k, j, b, made, ending, rfl, hj, hlaunch, hcall⟩ := ih hothers
      exact ⟨k + 1, j, b, made, ending, Nat.add_right_comm n 1 k, hj, hlaunch, hcall⟩
  | @failed n i rest a made err first =>
    obtain ⟨c, hc, heq⟩ := List.mem_map.mp hm
    cases heq
    exact ⟨0, i, a, made, some err, rfl, rfl, first, hc⟩

end InOrder

/-! ### How a run goes on -/

/-- Nothing has been made at the start. -/
theorem Begins.creations_eq (b : Begins root settings instances r) : r.creations = [] := by
  cases b <;> rfl

/-- Only launches make anything. -/
theorem creations_move (m : Move r e r') (h : e.attempt? = none) : r'.creations = r.creations := by
  cases m with
  | refused n i err calls launching => cases h
  | launched n i calls phase launching => cases h
  | @cleanedUp replies n i ending cleaning at_n =>
    show ((r.cleanUp n i replies).calls).filter _ = r.calls.filter _
    rw [cleanUp, List.filter_append, List.append_right_eq_self, List.filter_map]
    unfold Instance.cleanup
    split <;> rfl
  | _ => rfl

/-- What a launch is. -/
theorem launch_of_step? {a : Attempt} (h : r.step? (.launch a.issued a.replies) = some r') :
    ∃ n i, r.phase = .launching n ∧ r.instances[n]? = some i ∧
      r' = r.launch n i a.issued a.replies := by
  simp only [step?] at h
  split at h
  · next n hn =>
    obtain ⟨i, hi, rfl⟩ := Option.map_eq_some_iff.mp h
    exact ⟨n, i, hn, hi, rfl⟩
  · cases h

/-- A run that has been given up for a reason: it cleans up, and then it is over. -/
def GivenUp (cause : RunError) (r : Run) : Prop :=
  (∃ n, r.phase = .cleaning n (some (.error cause))) ∨ r.phase = .ended (.error cause)

/-- Such a run launches nothing, and stays given up. -/
theorem GivenUp.move {cause : RunError} (h : GivenUp cause r) (m : Move r e r') :
    e.attempt? = none ∧ GivenUp cause r' := by
  have absent {phase : RunPhase} {P : Prop} (hp : r.phase = phase)
      (hother : ∀ n, phase ≠ .cleaning n (some (.error cause))) (hopen : phase ≠ .ended (.error cause)) :
      P := by
    rcases h with ⟨n, hn⟩ | hn
    · exact absurd (hp.symm.trans hn) (hother n)
    · exact absurd (hp.symm.trans hn) hopen
  cases m with
  | refused n i err calls launching => exact absent launching (by simp) (by simp)
  | launched n i calls phase launching => exact absent launching (by simp) (by simp)
  | softened waiting late => exact absent waiting (by simp) (by simp)
  | timedOut pastSoft waiting late => exact absent waiting (by simp) (by simp)
  | serviceMissed pastSoft reason waiting down => exact absent waiting (by simp) (by simp)
  | waited pastSoft outcome waiting answered => exact absent waiting (by simp) (by simp)
  | drained outcome draining => exact absent draining (by simp) (by simp)
  | cleanedUp n i ending cleaning at_n =>
    refine ⟨rfl, ?_⟩
    rcases h with ⟨k, hk⟩ | hk
    · cases cleaning.symm.trans hk
      rcases r.phaseBehind_cases n (some (.error cause)) with ⟨-, hp⟩ | ⟨-, hp⟩
      · exact .inl ⟨_, hp⟩
      · exact .inr hp
    · cases cleaning.symm.trans hk
  | _ => exact ⟨rfl, h⟩

/-- Whether a run fails for a launch. -/
def IsLaunchFailure (err : RunError) : Prop :=
  (∃ cause, err = .certificate cause) ∨ ∃ plugin cause, err = .dispatch plugin cause

/-- A run in which so many plugins have been launched, and none has failed: the next one is launched, or
all have been, and then nothing about a launch is the reason if the run fails. -/
def GoesOn (launched : Nat) (r : Run) : Prop :=
  (r.phase = .launching launched ∧ launched < r.instances.length) ∨
    ((∀ n, r.phase ≠ .launching n) ∧ launched = r.instances.length ∧
      ∀ err, r.verdict? = some (.error err) → ¬ IsLaunchFailure err)

/-- The wait for results does not fail for a launch. -/
private theorem not_isLaunchFailure_of_waited? {err : RunError} (h : r.waited? = some (.error err)) :
    ¬ IsLaunchFailure err := by
  unfold waited? at h
  simp only [Option.bind_eq_bind, Option.bind_eq_some_iff, Option.pure_def, Option.some.injEq] at h
  obtain ⟨wait, -, answer, -, hanswer⟩ := h
  split at hanswer
  · cases hanswer
  · cases hanswer
    simp [IsLaunchFailure]
  · cases hanswer
    simp [IsLaunchFailure]

/-- A run in which nothing is launched goes on as it did. -/
theorem GoesOn.move {launched : Nat} (h : GoesOn launched r) (m : Move r e r')
    (none_made : e.attempt? = none) : GoesOn launched r' := by
  have same (hp : r'.phase = r.phase) (hi : r'.instances = r.instances) : GoesOn launched r' := by
    unfold GoesOn verdict?
    rw [hp, hi]
    exact h
  have settled {phase : RunPhase} (hp : r.phase = phase) (hn : ∀ n, phase ≠ .launching n)
      (hi : r'.instances = r.instances) (hn' : ∀ n, r'.phase ≠ .launching n)
      (hv : ∀ err, r'.verdict? = some (.error err) → r.verdict? = some (.error err) ∨
        ¬ IsLaunchFailure err) : GoesOn launched r' := by
    rcases h with ⟨hl, -⟩ | ⟨-, hall, hcause⟩
    · exact absurd (hp.symm.trans hl) (hn launched)
    · refine .inr ⟨hn', by rw [hi, hall], fun err herr => ?_⟩
      exact (hv err herr).elim (hcause err) id
  cases m with
  | refused n i err calls launching => cases none_made
  | launched n i calls phase launching => cases none_made
  | softened waiting late =>
    exact settled waiting (by simp) rfl (by simp) fun err herr => by cases herr
  | timedOut pastSoft waiting late =>
    refine settled waiting (by simp) rfl (by simp [fail, settle]) fun err herr => .inr ?_
    cases herr
    simp [IsLaunchFailure]
  | serviceMissed pastSoft reason waiting down =>
    refine settled waiting (by simp) rfl (by simp [fail, settle]) fun err herr => .inr ?_
    cases herr
    simp [IsLaunchFailure]
  | waited pastSoft outcome waiting answered =>
    refine settled waiting (by simp) rfl (by simp [settle]) fun err herr => .inr ?_
    cases herr
    exact not_isLaunchFailure_of_waited? answered
  | drained outcome draining =>
    refine settled draining (by simp) rfl (by simp) fun err herr => .inl ?_
    rw [verdict?, draining]
    exact herr
  | cleanedUp n i ending cleaning at_n =>
    refine settled cleaning (by simp) rfl (fun k hk => ?_) fun err herr => .inl ?_
    · have hverdict := r.verdict?_phaseBehind n ending
      rcases r.phaseBehind_cases n ending with ⟨-, hp⟩ | ⟨-, hp⟩
      · cases hp.symm.trans hk
      · rw [show r.phaseBehind n ending = _ from hk] at hp
        cases ending <;> cases hp
    · rw [verdict?, cleaning]
      exact (r.verdict?_phaseBehind n ending).symm.trans herr
  | _ => exact same rfl rfl

/-! ### The launches of a run -/

/-- How far the launches of a run have come: attempts have been made in order, and unless one has failed
the run goes on. -/
def Launched (advertise : String) (instances : List Instance) (events : List Event) (r : Run) : Prop :=
  ∃ failure, InOrder advertise 0 instances (attempts events) r.creations failure ∧
    match failure with
    | none => GoesOn (attempts events).length r
    | some cause => GivenUp cause r

/-- Every event is an attempt at the next plugin or leaves the attempts as they are. -/
private theorem launched_step
    (h : Launched r.settings.advertiseAddress r.instances events r) (he : r.step? e = some r') :
    Launched r.settings.advertiseAddress r.instances (events ++ [e]) r' := by
  obtain ⟨failure, inOrder, state⟩ := h
  have move := move_of_step? he
  cases hattempt : e.attempt? with
  | none =>
    refine ⟨failure, ?_, ?_⟩
    · rw [attempts_concat, hattempt, creations_move move hattempt]
      simpa using inOrder
    · rw [attempts_concat, hattempt]
      cases failure with
      | none => simpa using state.move move hattempt
      | some cause => exact (state.move move).2
  | some a =>
    cases failure with
    | some cause =>
      rw [(state.move move).1] at hattempt
      cases hattempt
    | none =>
      obtain rfl : e = .launch a.issued a.replies := by
        cases e <;> cases hattempt
        rfl
      obtain ⟨n, i, hn, hi, rfl⟩ := launch_of_step? he
      obtain ⟨calls, failure, hlaunches, hcalls, hphase⟩ := launches_launch r n i a
      obtain rfl : n = (attempts events).length := by
        rcases state with ⟨hl, -⟩ | ⟨hl, -⟩
        · cases hn.symm.trans hl
          rfl
        · exact absurd hn (hl n)
      have hmade : (calls.map fun call => ((attempts events).length, call)).filter (·.2.isCreation) =
          calls.map fun call => ((attempts events).length, call) := by
        refine List.filter_eq_self.mpr fun p hp => ?_
        obtain ⟨call, hcall, rfl⟩ := List.mem_map.mp hp
        exact hlaunches.isCreation_of_mem call hcall
      have hnext := inOrder.concat hi hlaunches
      rw [Nat.zero_add] at hnext
      refine ⟨failure, ?_, ?_⟩
      · rw [creations, hcalls, List.filter_append, hmade, attempts_concat]
        exact hnext
      · cases failure with
        | some cause => exact .inl ⟨0, hphase⟩
        | none =>
          have hsame := instances_move move
          have hlength : (attempts (events ++ [.launch a.issued a.replies])).length =
              (attempts events).length + 1 := by
            rw [attempts_concat, List.length_append]
            rfl
          show GoesOn _ _
          rw [hlength]
          by_cases hmore : (attempts events).length + 1 < r.instances.length
          · refine .inl ⟨?_, by rwa [hsame]⟩
            rw [hphase, Option.elim_none, if_pos hmore]
          · rw [Option.elim_none, if_neg hmore] at hphase
            have hlast := (List.getElem?_eq_some_iff.mp hi).1
            refine .inr ⟨by simp [hphase], by rw [hsame]; omega, fun err herr => ?_⟩
            rw [verdict?, hphase] at herr
            cases herr

/-- A run that comes to its launches launches its plugins in order. -/
theorem launched_run (checked : settings.check = .ok ())
    (identified : ∀ cause, service = .error cause → instances = [])
    (h : (startWith root settings instances (.ok nodes) service).run? events = some r) :
    Launched settings.advertiseAddress instances events r := by
  refine Machine.run?_induction
    (P := fun es r => Launched settings.advertiseAddress instances es r) ?_ ?_ h
  · refine ⟨none, ?_, ?_⟩
    · rw [begins_startWith.creations_eq]
      exact .unstarted 0 instances
    · show GoesOn 0 _
      unfold startWith
      cases instances with
      | nil => exact .inr ⟨by simp [fresh], rfl, fun err herr => by cases herr⟩
      | cons i rest =>
        cases service with
        | error cause => cases identified cause rfl
        | ok side =>
          simp only [checked, List.isEmpty_cons, Bool.false_eq_true, if_false]
          exact .inl ⟨rfl, Nat.succ_pos _⟩
  · intro es s e s' hs ih he
    have hi := instances_run hs
    have hsettings := settings_run hs
    rw [← hsettings, ← hi] at ih ⊢
    exact launched_step ih he

/-- A run that cannot identify its service is given up before its first launch. -/
private theorem givenUp_run {cause : CertificateError} (checked : settings.check = .ok ())
    (plugins : instances ≠ [])
    (h : (startWith root settings instances (.ok nodes) (.error cause)).run? events = some r) :
    attempts events = [] ∧ r.creations = [] ∧ GivenUp (.certificate cause) r := by
  refine Machine.run?_induction
    (P := fun es r => attempts es = [] ∧ r.creations = [] ∧ GivenUp (.certificate cause) r) ?_ ?_ h
  · unfold startWith
    cases instances with
    | nil => exact absurd rfl plugins
    | cons i rest =>
      simp only [checked, List.isEmpty_cons, Bool.false_eq_true, if_false]
      exact ⟨rfl, rfl, .inl ⟨0, rfl⟩⟩
  · rintro es s e s' hs ⟨hattempts, hcreations, hgiven⟩ he
    have move := move_of_step? he
    obtain ⟨hnone, hgiven'⟩ := hgiven.move move
    refine ⟨?_, (creations_move move hnone).trans hcreations, hgiven'⟩
    rw [attempts_concat, hattempts, hnone]
    rfl

/-- A run that fails for a reason: it ends so by its own doing, and cannot end otherwise. -/
structure Fails (cause : RunError) (r : Run) : Prop where
  verdict : r.verdict? = some (.error cause)
  sole : ∀ outcome, r.outcome? = some outcome → outcome = .error cause
  ends : ∃ r', LeadsTo r r' ∧ r'.outcome? = some (.error cause)

/-- A run that has been given up fails. -/
theorem GivenUp.fails {cause : RunError} (h : GivenUp cause r) (cleansNext : CleansNext r) :
    Fails cause r := by
  rcases h with ⟨n, hn⟩ | hended
  · obtain ⟨r', hlead, hr', -, -⟩ := leadsTo_of_cleaning hn (cleansNext n _ hn)
    refine ⟨by rw [verdict?, hn]; rfl, fun outcome ho => ?_, r', hlead, by rw [outcome?, hr']; rfl⟩
    rw [outcome?, hn] at ho
    cases ho
  · have houtcome : r.outcome? = some (.error cause) := by rw [outcome?, hended]
    refine ⟨by rw [verdict?, hended]; rfl, fun outcome ho => ?_, r, .refl r, houtcome⟩
    exact Option.some.inj (ho.symm.trans houtcome)

/-- A run in which no launch has failed. -/
structure Proceeds (instances : List Instance) (events : List Event) (r : Run) : Prop where
  /-- While it launches its plugins, the next one can be launched, whatever comes of that. -/
  next : ∀ n, r.phase = .launching n →
    n = (attempts events).length ∧ ∀ a : Attempt, ∃ r', r.step? (.launch a.issued a.replies) = some r'
  /-- Otherwise all of them have been launched. -/
  all : (∀ n, r.phase ≠ .launching n) → (attempts events).length = instances.length
  /-- If it fails, it does not fail for a launch. -/
  others : ∀ err, r.verdict? = some (.error err) → ¬ IsLaunchFailure err

/-- A run that goes on proceeds. -/
theorem GoesOn.proceeds (h : GoesOn (attempts events).length r) :
    Proceeds r.instances events r := by
  rcases h with ⟨hl, hlt⟩ | ⟨hl, hall, hcause⟩
  · refine ⟨fun n hn => ?_, fun hother => absurd hl (hother _), fun err herr => ?_⟩
    · cases hl.symm.trans hn
      refine ⟨rfl, fun a => Option.isSome_iff_exists.mp ?_⟩
      simp only [step?, hl, List.getElem?_eq_getElem hlt, Option.map_some, Option.isSome_some]
    · rw [verdict?, hl] at herr
      cases herr
  · exact ⟨fun n hn => absurd hn (hl n), fun _ => hall, hcause⟩

/-- How the launches of a run have gone. -/
structure LaunchesInOrder (settings : Settings) (instances : List Instance)
    (service : Except CertificateError ServerSide) (events : List Event) (r : Run) : Prop where
  /-- Without an identity for its service it launches none of its plugins, and fails for that. -/
  unidentified : ∀ cause, service = .error cause → instances ≠ [] →
    attempts events = [] ∧ r.creations = [] ∧ Fails (.certificate cause) r
  /-- Otherwise it launches them in order, up to one whose launch fails.  It fails for the same reason
  then, and else proceeds. -/
  launched : (∀ cause, service = .error cause → instances = []) →
    ∃ failure, InOrder settings.advertiseAddress 0 instances (attempts events) r.creations failure ∧
      match failure with
      | none => Proceeds instances events r
      | some cause => Fails cause r
  /-- A plugin whose name or result type is no segment causes nothing to be made. -/
  unnamed : ∀ n i, instances[n]? = some i →
    ¬ (isSegment i.name = true ∧ isSegment i.resultType = true) → ∀ call, (n, call) ∉ r.creations

/-- At every state of a run that has sound settings and knows its nodes, the launches have gone in the
order of the plugins, and the first failure was the last of them. -/
theorem launchesInOrder_run (checked : settings.check = .ok ())
    (h : (startWith root settings instances (.ok nodes) service).run? events = some r) :
    LaunchesInOrder settings instances service events r := by
  have fails {cause : RunError} (given : GivenUp cause r) (plugins : instances ≠ []) : Fails cause r :=
    given.fails (cleansNext_run h (List.length_pos_iff.mpr plugins))
  have launched (identified : ∀ cause, service = .error cause → instances = []) :
      ∃ failure, InOrder settings.advertiseAddress 0 instances (attempts events) r.creations failure ∧
        match failure with
        | none => Proceeds instances events r
        | some cause => Fails cause r := by
    obtain ⟨failure, inOrder, state⟩ := launched_run checked identified h
    refine ⟨failure, inOrder, ?_⟩
    cases failure with
    | none =>
      have hproceeds := GoesOn.proceeds state
      rwa [instances_run h] at hproceeds
    | some cause =>
      exact fails state inOrder.plugins
  refine ⟨?_, launched, fun n i hi unsound call hcall => ?_⟩
  · rintro cause rfl plugins
    obtain ⟨hattempts, hcreations, given⟩ := givenUp_run checked plugins h
    exact ⟨hattempts, hcreations, fails given plugins⟩
  · by_cases identified : ∀ cause, service = .error cause → instances = []
    · obtain ⟨failure, inOrder, -⟩ := launched identified
      obtain ⟨k, j, a, made, ending, rfl, hj, hlaunch, hmade⟩ := inOrder.exists_of_mem hcall
      rw [Nat.zero_add] at hi
      obtain rfl : j = i := Option.some.inj (hj.symm.trans hi)
      exact unsound (hlaunch.segments_of_mem hmade)
    · push Not at identified
      obtain ⟨cause, rfl, plugins⟩ := identified
      rw [(givenUp_run checked plugins h).2.1] at hcall
      cases hcall

/-- The workload of the second plugin is refused: the third is not launched, and the run fails. -/
theorem launchesInOrder_secondRefused :
    exampleSettings.check = .ok () ∧
      ∃ r, (startWith "out" exampleSettings
          [exampleJob "a" "1", exampleJob "b" "2", exampleJob "c" "3"] (.ok [])
          (.ok exampleService)).run? secondRefused = some r ∧
        r.verdict? = some (.error (.dispatch "b" (.cluster "b" (.api "full")))) ∧
        r.creations.map (·.1) = [0, 0, 1, 1] ∧
        LaunchesInOrder exampleSettings [exampleJob "a" "1", exampleJob "b" "2", exampleJob "c" "3"]
          (.ok exampleService) secondRefused r :=
  ⟨rfl, _, rfl, rfl, rfl, launchesInOrder_run rfl rfl⟩

end Run

end ClusterSurvey

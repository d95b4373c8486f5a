import ClusterSurvey.Proofs.Run.Step

/-!
# Cleaning up after a run

However a run ends, it has asked the cluster once to take away what it made for each of its plugins,
after everything that it made.  The clean-up may begin before the time is up, and begins anew when the
outcome is settled; a plugin that has been cleaned up is then passed over.
-/

namespace ClusterSurvey

namespace Run

variable {root : String} {settings : Settings} {instances : List Instance}
variable {nodes : Except ClusterError (List String)} {service : Except CertificateError ServerSide}
variable {r r' : Run} {e : Event} {events : List Event}

/-! ### The calls for one plugin -/

/-- The calls that were made for the plugin at a position. -/
def callsOf (calls : List (Nat × ClusterCall)) (n : Nat) : List ClusterCall :=
  (calls.filter (·.1 = n)).map (·.2)

/-- Calls that were made later stand behind the others. -/
theorem callsOf_append (calls more : List (Nat × ClusterCall)) (n : Nat) :
    callsOf (calls ++ more) n = callsOf calls n ++ callsOf more n := by
  simp [callsOf, List.filter_append]

/-- Calls for a plugin are made for it and no other one. -/
theorem callsOf_map (calls : List ClusterCall) (n m : Nat) :
    callsOf (calls.map fun call => (m, call)) n = if m = n then calls else [] := by
  by_cases h : m = n
  · simp [callsOf, h, List.filter_map, Function.comp_def]
  · simp [callsOf, h, List.filter_map, Function.comp_def]

/-! ### The invariant -/

/-- How far the clean-up has come in a phase. -/
def CleanedFor (r : Run) : RunPhase → Prop
  | .launching _ => ∀ n : Nat, r.cleaned[n]? ≠ some true
  | .waiting _ => True
  | .draining _ => True
  | .cleaning next _ => ∀ n : Nat, n < next → r.cleaned[n]? = some true
  | .ended _ => ∀ n : Nat, n < r.instances.length → r.cleaned[n]? = some true

/-- A run whose calls are accounted for: for each plugin those that make something that belongs to it,
and behind them those of its clean-up, if it has been cleaned up. -/
structure Accounted (r : Run) : Prop where
  flags : r.cleaned.length = r.instances.length
  positions : ∀ p ∈ r.calls, p.1 < r.instances.length
  calls : ∀ (n : Nat) (i : Instance), r.instances[n]? = some i →
    ∃ made, (∀ call ∈ made, i.Makes call) ∧
      callsOf r.calls n = made ++ if r.cleaned[n]? = some true then i.cleanup false else []
  phase : r.CleanedFor r.phase

private theorem accounted_fresh (nodes : List String) (listings : Nat) {phase : RunPhase}
    (h : (fresh root settings instances nodes listings phase).CleanedFor phase) :
    Accounted (fresh root settings instances nodes listings phase) where
  flags := by simp [fresh]
  positions := by simp [fresh]
  calls n i hi := by
    have hflag : (fresh root settings instances nodes listings phase).cleaned[n]? = some false := by
      have hi' : instances[n]? = some i := hi
      show (instances.map fun _ => false)[n]? = some false
      rw [List.getElem?_map, hi']
      rfl
    exact ⟨[], by simp, by simp [hflag]; rfl⟩
  phase := h

/-- At the start no calls have been made. -/
theorem Begins.accounted (b : Begins root settings instances r) : Accounted r := by
  have hnone {r : Run} (n : Nat) (hn : n < 0) : r.cleaned[n]? = some true :=
    absurd hn (Nat.not_lt_zero n)
  cases b with
  | idle empty => exact accounted_fresh [] 0 hnone
  | abandoned listings e plugins cause => exact accounted_fresh [] listings hnone
  | launching nodes checked =>
    refine accounted_fresh nodes 1 fun n hn => ?_
    change (instances.map fun _ => false)[n]? = some true at hn
    rw [List.getElem?_map] at hn
    obtain ⟨i, -, hfalse⟩ := Option.map_eq_some_iff.mp hn
    cases hfalse

/-- The plugins of a run stay the same. -/
theorem instances_move (m : Move r e r') : r'.instances = r.instances := by
  cases m <;> rfl

namespace Accounted

/-- A state with the same calls and clean-ups is accounted for if its phase suits them. -/
private theorem of_same (h : Accounted r) (instances : r'.instances = r.instances)
    (cleaned : r'.cleaned = r.cleaned) (calls : r'.calls = r.calls)
    (phase : r'.CleanedFor r'.phase) : Accounted r' where
  flags := by rw [instances, cleaned, h.flags]
  positions := by
    rw [instances, calls]
    exact h.positions
  calls := by
    rw [instances, cleaned, calls]
    exact h.calls
  phase := phase

/-- What is made for a plugin that has not been cleaned up is accounted for. -/
private theorem of_made {n : Nat} {i : Instance} {made : List ClusterCall} (h : Accounted r)
    (at_n : r.instances[n]? = some i) (makes : ∀ call ∈ made, i.Makes call)
    (open_n : r.cleaned[n]? ≠ some true) (instances : r'.instances = r.instances)
    (cleaned : r'.cleaned = r.cleaned)
    (calls : r'.calls = r.calls ++ made.map fun call => (n, call))
    (phase : r'.CleanedFor r'.phase) : Accounted r' where
  flags := by rw [instances, cleaned, h.flags]
  positions p hp := by
    rw [calls, List.mem_append] at hp
    rw [instances]
    rcases hp with hp | hp
    · exact h.positions p hp
    · obtain ⟨call, -, rfl⟩ := List.mem_map.mp hp
      exact (List.getElem?_eq_some_iff.mp at_n).1
  calls m j hj := by
    rw [instances] at hj
    obtain ⟨before, hbefore, heq⟩ := h.calls m j hj
    rw [calls, cleaned, callsOf_append, callsOf_map, heq]
    by_cases hm : n = m
    · subst hm
      obtain rfl : i = j := Option.some.inj (at_n.symm.trans hj)
      refine ⟨before ++ made, fun call hcall => ?_, ?_⟩
      · rcases List.mem_append.mp hcall with hb | hm
        · exact hbefore call hb
        · exact makes call hm
      · rw [if_pos rfl, if_neg open_n, List.append_nil, List.append_nil]
    · exact ⟨before, hbefore, by rw [if_neg hm, List.append_nil]⟩
  phase := phase

/-- A plugin that is cleaned up gets the calls of its clean-up, unless it has got them. -/
private theorem of_cleanedUp {n : Nat} {i : Instance} (h : Accounted r)
    (at_n : r.instances[n]? = some i) (instances : r'.instances = r.instances)
    (cleaned : r'.cleaned = r.cleaned.set n true)
    (calls : r'.calls = r.calls ++
      (i.cleanup (r.cleaned[n]?.getD false)).map fun call => (n, call))
    (phase : r'.CleanedFor r'.phase) : Accounted r' where
  flags := by rw [instances, cleaned, List.length_set, h.flags]
  positions p hp := by
    rw [calls, List.mem_append] at hp
    rw [instances]
    rcases hp with hp | hp
    · exact h.positions p hp
    · obtain ⟨call, -, rfl⟩ := List.mem_map.mp hp
      exact (List.getElem?_eq_some_iff.mp at_n).1
  calls m j hj := by
    rw [instances] at hj
    obtain ⟨made, hmade, heq⟩ := h.calls m j hj
    refine ⟨made, hmade, ?_⟩
    rw [calls, cleaned, callsOf_append, callsOf_map, heq]
    by_cases hm : n = m
    · subst hm
      obtain rfl : i = j := Option.some.inj (at_n.symm.trans hj)
      have hlt : n < r.cleaned.length := by
        rw [h.flags]
        exact (List.getElem?_eq_some_iff.mp at_n).1
      rw [if_pos rfl, List.getElem?_set_self hlt, if_pos rfl, List.getElem?_eq_getElem hlt]
      cases r.cleaned[n] <;> simp [Instance.cleanup]
    · rw [if_neg hm, List.append_nil, List.getElem?_set_ne hm]
  phase := phase

private theorem not_cleaned (h : Accounted r) {n : Nat} (launching : r.phase = .launching n) :
    ∀ m : Nat, r.cleaned[m]? ≠ some true := by
  have hphase := h.phase
  rw [launching] at hphase
  exact hphase

private theorem cleanedFor_phaseBehind {n : Nat} {i : Instance} (h : Accounted r)
    {ending : Option RunOutcome} (cleaning : r.phase = .cleaning n ending)
    (at_n : r.instances[n]? = some i) (instances : r'.instances = r.instances)
    (cleaned : r'.cleaned = r.cleaned.set n true) : r'.CleanedFor (r.phaseBehind n ending) := by
  have hbefore := h.phase
  rw [cleaning] at hbefore
  have hlt : n < r.cleaned.length := by
    rw [h.flags]
    exact (List.getElem?_eq_some_iff.mp at_n).1
  have hall (m : Nat) (hm : m < n + 1) : r'.cleaned[m]? = some true := by
    rw [cleaned]
    by_cases hmn : n = m
    · subst hmn
      exact List.getElem?_set_self hlt
    · rw [List.getElem?_set_ne hmn]
      exact hbefore m (by omega)
  rcases r.phaseBehind_cases n ending with ⟨-, hp⟩ | ⟨hlast, hp⟩
  · rw [hp]
    exact hall
  · rw [hp]
    cases ending with
    | none => trivial
    | some outcome =>
      intro m hm
      rw [instances] at hm
      exact hall m (by omega)

/-- Every event leaves the calls accounted for. -/
theorem move (h : Accounted r) (m : Move r e r') : Accounted r' := by
  cases m with
  | refused n i e calls launching at_n makes cause =>
    refine h.of_made at_n makes (h.not_cleaned launching n) rfl rfl rfl fun m hm => ?_
    exact absurd hm (Nat.not_lt_zero m)
  | launched n i calls phase launching at_n makes next =>
    refine h.of_made at_n makes (h.not_cleaned launching n) rfl rfl rfl ?_
    rcases next with rfl | rfl
    · exact h.not_cleaned launching
    · trivial
  | collected c running admitted step => exact h.of_same rfl rfl rfl h.phase
  | woke monitors watched => exact h.of_same rfl rfl rfl h.phase
  | observed monitors reports watched failures => exact h.of_same rfl rfl rfl h.phase
  | tookUp report rest queue filing filed may => exact h.of_same rfl rfl rfl h.phase
  | passed timed => exact h.of_same rfl rfl rfl h.phase
  | serviceEnded undecided up => exact h.of_same rfl rfl rfl h.phase
  | softened waiting late =>
    exact h.of_same rfl rfl rfl fun m hm => absurd hm (Nat.not_lt_zero m)
  | timedOut pastSoft waiting late => exact h.of_same rfl rfl rfl trivial
  | serviceMissed pastSoft reason waiting down => exact h.of_same rfl rfl rfl trivial
  | waited pastSoft outcome waiting answered => exact h.of_same rfl rfl rfl trivial
  | drained outcome draining =>
    exact h.of_same rfl rfl rfl fun m hm => absurd hm (Nat.not_lt_zero m)
  | cleanedUp n i ending cleaning at_n =>
    exact h.of_cleanedUp at_n rfl rfl rfl (h.cleanedFor_phaseBehind cleaning at_n rfl rfl)

end Accounted

/-- The calls of every run are accounted for. -/
theorem accounted_run
    (h : (startWith root settings instances nodes service).run? events = some r) : Accounted r :=
  Machine.run?_induction (P := fun _ r => Accounted r) begins_startWith.accounted
    (fun _ _ _ _ _ ih he => ih.move (move_of_step? he)) h

/-- A run starts with its plugins. -/
theorem Begins.instances_eq (b : Begins root settings instances r) : r.instances = instances := by
  cases b with
  | idle empty => exact empty.symm
  | abandoned listings e plugins cause => rfl
  | launching nodes checked => rfl

/-- They stay the same in every run. -/
theorem instances_run
    (h : (startWith root settings instances nodes service).run? events = some r) :
    r.instances = instances :=
  Machine.run?_induction (P := fun _ r => r.instances = instances) begins_startWith.instances_eq
    (fun _ _ _ _ _ ih he => (instances_move (move_of_step? he)).trans ih) h

/-- Nothing happens to a run that is over. -/
theorem step?_of_isOver (ended : r.isOver = true) (e : Event) : r.step? e = none := by
  obtain ⟨outcome, hphase⟩ : ∃ outcome, r.phase = .ended outcome := by
    unfold isOver RunPhase.isOver at ended
    split at ended
    · next outcome hp => exact ⟨outcome, hp⟩
    · cases ended
  rw [← Option.not_isSome_iff_eq_none]
  intro hsome
  obtain ⟨r', hr⟩ := Option.isSome_iff_exists.mp hsome
  cases move_of_step? hr with
  | refused n i e calls launching => cases launching.symm.trans hphase
  | launched n i calls phase launching => cases launching.symm.trans hphase
  | collected c running =>
    rw [ended] at running
    cases running
  | woke monitors watched =>
    rw [hphase] at watched
    cases watched
  | observed monitors reports watched =>
    rw [hphase] at watched
    cases watched
  | tookUp report rest queue filing =>
    rw [hphase] at filing
    cases filing
  | passed timed =>
    rw [hphase] at timed
    cases timed
  | serviceEnded undecided =>
    rw [verdict?, hphase] at undecided
    cases undecided
  | softened waiting => cases waiting.symm.trans hphase
  | timedOut pastSoft waiting => cases waiting.symm.trans hphase
  | serviceMissed pastSoft reason waiting => cases waiting.symm.trans hphase
  | waited pastSoft outcome waiting => cases waiting.symm.trans hphase
  | drained outcome draining => cases draining.symm.trans hphase
  | cleanedUp n i ending cleaning => cases cleaning.symm.trans hphase

/-- Without plugins a run is over before anything has happened. -/
theorem run?_nil (h : (startWith root settings [] nodes service).run? events = some r) :
    events = [] ∧ r = fresh root settings [] [] 0 (.ended (.ok (.start []))) := by
  cases events with
  | nil =>
    cases h
    exact ⟨rfl, rfl⟩
  | cons e es =>
    obtain ⟨s, hs, -⟩ := Option.bind_eq_some_iff.mp h
    have hnone : (startWith root settings [] nodes service).step? e = none := step?_of_isOver rfl e
    rw [hnone] at hs
    cases hs

/-! ### Nothing is left behind -/

/-- When a run is over, each of its plugins has been cleaned up once, by the deletion of its units and
then of its secret, after all that was made for it, and those deletions cover all of that.  Without
plugins nothing has been asked of the cluster. -/
theorem cleanedUp_of_isOver
    (h : (startWith root settings instances nodes service).run? events = some r)
    (ended : r.isOver = true) :
    (∀ (n : Nat) (i : Instance), instances[n]? = some i →
      ∃ made, (∀ call ∈ made, i.Makes call) ∧
        callsOf r.calls n = made ++
          [.deleteUnits i.settings.cluster (sessionLabel ++ "=" ++ i.session),
            .deleteSecret i.settings.cluster i.secretName]) ∧
      (∀ p ∈ r.calls, p.1 < instances.length) ∧
      (instances = [] → r.listings = 0 ∧ r.calls = [] ∧ r.monitors = []) := by
  have accounted := accounted_run h
  have hinstances := instances_run h
  have hall : ∀ n : Nat, n < r.instances.length → r.cleaned[n]? = some true := by
    have hphase := accounted.phase
    unfold isOver RunPhase.isOver at ended
    split at ended
    · next outcome hp =>
      rw [hp] at hphase
      exact hphase
    · cases ended
  refine ⟨fun n i hi => ?_, ?_, ?_⟩
  · rw [← hinstances] at hi
    obtain ⟨made, hmade, heq⟩ := accounted.calls n i hi
    rw [if_pos (hall n (List.getElem?_eq_some_iff.mp hi).1)] at heq
    exact ⟨made, hmade, heq⟩
  · rw [← hinstances]
    exact accounted.positions
  · rintro rfl
    obtain ⟨-, rfl⟩ := run?_nil h
    exact ⟨rfl, rfl, rfl⟩

/-- A plugin that runs once for the whole cluster. -/
def exampleJob (name session : String) : Instance :=
  ⟨⟨name, name, .job, default⟩, session, ⟨"sonde", "worker", 10000⟩⟩

/-- Settings with which a run can start. -/
def exampleSettings : Settings := { Settings.default with advertiseAddress := "host" }

/-- The identity of its service. -/
def exampleService : ServerSide :=
  ⟨⟨(Authority.mk ⟨0⟩).issue "host" ⟨1⟩ .server [], ⟨1⟩⟩, (Authority.mk ⟨0⟩).root⟩

/-- The cluster refuses the workload of the second plugin, and then everything that it is asked. -/
def secondRefused : List Event :=
  [.launch (.ok default) fun _ => none,
    .launch (.ok default) fun call =>
      match call with
      | .createWorkload _ => some (.api "full")
      | _ => none,
    .cleanUp fun _ => some (.api "down"), .cleanUp fun _ => some (.api "down")]

/-- Both plugins are cleaned up then, each after what was made for it. -/
theorem cleanedUp_secondRefused :
    ∃ r, (startWith "out" exampleSettings [exampleJob "a" "1", exampleJob "b" "2"] (.ok [])
        (.ok exampleService)).run? secondRefused = some r ∧ r.isOver = true ∧
      ∃ made, (∀ call ∈ made, (exampleJob "b" "2").Makes call) ∧
        callsOf r.calls 1 = made ++
          [.deleteUnits "sonde" "sonde-run=2", .deleteSecret "sonde" "sonde-plugin-b-2"] := by
  obtain ⟨r, hr, ended⟩ := (Option.any_eq_true _ _).mp
    (rfl : ((startWith "out" exampleSettings [exampleJob "a" "1", exampleJob "b" "2"] (.ok [])
      (.ok exampleService)).run? secondRefused).any isOver = true)
  exact ⟨r, hr, ended, (cleanedUp_of_isOver hr ended).1 1 _ rfl⟩

end Run

end ClusterSurvey

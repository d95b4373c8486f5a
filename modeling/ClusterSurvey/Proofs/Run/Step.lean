import ClusterSurvey.Run.Basic

/-!
# What an event does to a run

Most events change only the collector, the monitors or the clocks.  The phase of a run changes when
plugins are launched or cleaned up, at the two timeouts, and when the run takes notice of the end of
its wait or of its service.  `Run.Begins` lists how a run can start, and `Run.Move` all that can
happen then, with what is known when it happens.
-/

namespace ClusterSurvey

namespace Instance

/-- Whether a call makes something that belongs to the instance: in its namespace, with its session as
value of the session label, and under its name if it is a secret. -/
def Makes (i : Instance) : ClusterCall → Prop
  | .createSecret secret =>
    secret.space = i.settings.cluster ∧ secret.name = i.secretName ∧
      secret.labels.lookup sessionLabel = some i.session
  | .createWorkload manifest =>
    manifest.metadata.space = i.settings.cluster ∧
      manifest.metadata.labels.lookup sessionLabel = some i.session
  | .deleteUnits .. => False
  | .deleteSecret .. => False

private theorem eq_of_mem_dispatch {i : Instance} {replies : Replies} {credential : Credential}
    {manifest : Manifest} {call : ClusterCall}
    (h : call ∈ (i.dispatch replies credential manifest).1) :
    call = .createSecret (i.secret credential) ∨ call = .createWorkload manifest := by
  unfold dispatch at h
  dsimp only at h
  split at h
  · exact .inl (List.mem_singleton.mp h)
  · split at h
    · simpa using h
    · simpa using h

/-- Everything that a launch makes belongs to the instance. -/
theorem makes_of_mem_launch {i : Instance} {replies : Replies} {advertise : String}
    {credential : Credential} {call : ClusterCall}
    (h : call ∈ (i.launch replies advertise credential).1) : i.Makes call := by
  unfold launch at h
  split at h
  · cases h
  · next manifest hm =>
    rcases eq_of_mem_dispatch h with rfl | rfl
    · exact ⟨rfl, rfl, i.lookup_labels⟩
    · obtain ⟨-, -, hmetadata, -⟩ := render_eq_ok_iff.mp hm
      rw [Makes, hmetadata]
      exact ⟨rfl, i.lookup_labels⟩

end Instance

namespace Monitor

private theorem isFailure_of_nodeFailure? {i : Instance} {nodes reported : List String}
    {u : ExecutionUnit} {p : String × LocalResult} (h : nodeFailure? i nodes reported u = some p) :
    p.2.isFailure = true := by
  obtain ⟨node, -, hp⟩ := Option.bind_eq_some_iff.mp h
  split at hp
  · obtain ⟨reason, -, hp⟩ := Option.bind_eq_some_iff.mp hp
    cases hp
    rfl
  · cases hp

private theorem isFailure_of_mem_nodeFailures {i : Instance} {nodes reported : List String}
    {us : List ExecutionUnit} {p : String × LocalResult}
    (h : p ∈ nodeFailures i nodes reported us) : p.2.isFailure = true := by
  induction us generalizing reported with
  | nil => cases h
  | cons u us ih =>
    unfold nodeFailures at h
    split at h
    · next q hq =>
      rcases List.mem_cons.mp h with rfl | hrest
      · exact isFailure_of_nodeFailure? hq
      · exact ih hrest
    · exact ih h

private theorem isFailure_of_jobFailure? {i : Instance} {o : Observation} {x : LocalResult}
    (h : jobFailure? i o = some x) : x.isFailure = true := by
  unfold jobFailure? at h
  split at h
  · cases h
    rfl
  · obtain ⟨reason, -, rfl⟩ := Option.map_eq_some_iff.mp h
    rfl
  · cases h
    rfl

/-- Monitors report failures only. -/
theorem isFailure_of_mem_observe {m : Monitor} {o : Observation} {x : LocalResult}
    (h : x ∈ (m.observe o).2) : x.isFailure = true := by
  obtain ⟨p, hp, rfl⟩ := List.mem_map.mp h
  unfold reports at hp
  split at hp
  · rw [Option.mem_toList] at hp
    obtain ⟨x, hx, rfl⟩ := Option.map_eq_some_iff.mp hp
    exact isFailure_of_jobFailure? hx
  · split at hp
    · cases hp
    · exact isFailure_of_mem_nodeFailures hp

end Monitor

namespace Run

open Instance

variable {root : String} {settings : Settings} {instances : List Instance}
variable {nodes : Except ClusterError (List String)} {service : Except CertificateError ServerSide}

/-! ### The start -/

/-- A state in which a run with some settings and plugins starts. -/
inductive Begins (root : String) (settings : Settings) (instances : List Instance) : Run → Prop where
  /-- Without plugins it is over. -/
  | idle (empty : instances = []) :
      Begins root settings instances (fresh root settings [] [] 0 (.ended (.ok (.start []))))
  /-- It lacks what it needs, and cleans up. -/
  | abandoned (listings : Nat) (e : RunError) (plugins : instances ≠ [])
      (cause : ∀ d reason, e ≠ .timeout d ∧ e ≠ .service reason) :
      Begins root settings instances
        (fresh root settings instances [] listings (.cleaning 0 (some (.error e))))
  /-- It launches its plugins. -/
  | launching (nodes : List String) (checked : settings.check = .ok ()) :
      Begins root settings instances (fresh root settings instances nodes 1 (.launching 0))

/-- A run starts in one of these ways. -/
theorem begins_startWith :
    Begins root settings instances (startWith root settings instances nodes service) := by
  unfold startWith
  dsimp only
  split
  · next empty => exact .idle (List.isEmpty_iff.mp empty)
  · next hplugins =>
    have plugins : instances ≠ [] := fun h => hplugins (List.isEmpty_iff.mpr h)
    split
    · exact .abandoned 0 _ plugins (by simp)
    · next checked =>
      split
      · exact .abandoned 1 _ plugins (by simp)
      · split
        · exact .abandoned 1 _ plugins (by simp)
        · exact .launching _ checked

/-! ### The phases -/

/-- What can come behind the clean-up of a plugin. -/
theorem phaseBehind_cases (r : Run) (n : Nat) (ending : Option RunOutcome) :
    (n + 1 < r.instances.length ∧ r.phaseBehind n ending = .cleaning (n + 1) ending) ∨
      (r.instances.length ≤ n + 1 ∧ r.phaseBehind n ending = ending.elim (.waiting true) .ended) := by
  by_cases hn : n + 1 < r.instances.length
  · exact .inl ⟨hn, if_pos hn⟩
  · refine .inr ⟨Nat.le_of_not_lt hn, ?_⟩
    unfold phaseBehind
    rw [if_neg hn]
    cases ending <;> rfl

/-- A clean-up does not change the verdict. -/
theorem verdict?_phaseBehind (r : Run) (n : Nat) (ending : Option RunOutcome) :
    (r.phaseBehind n ending).verdict? = ending := by
  rcases r.phaseBehind_cases n ending with ⟨-, hp⟩ | ⟨-, hp⟩
  · rw [hp]
    rfl
  · rw [hp]
    cases ending <;> rfl

/-! ### The events -/

/-- A state that an event makes of a state. -/
inductive Move (r : Run) : Event → Run → Prop where
  /-- A plugin could not be launched, and the run is given up. -/
  | refused {issued replies} (n : Nat) (i : Instance) (e : RunError) (calls : List ClusterCall)
      (launching : r.phase = .launching n) (at_n : r.instances[n]? = some i)
      (makes : ∀ call ∈ calls, i.Makes call) (cause : ∀ d reason, e ≠ .timeout d ∧ e ≠ .service reason) :
      Move r (.launch issued replies)
        { r.stopWait with
          calls := r.calls ++ calls.map fun call => (n, call)
          phase := .cleaning 0 (some (.error e)) }
  /-- A plugin has been launched. -/
  | launched {issued replies} (n : Nat) (i : Instance) (calls : List ClusterCall)
      (phase : RunPhase) (launching : r.phase = .launching n) (at_n : r.instances[n]? = some i)
      (makes : ∀ call ∈ calls, i.Makes call)
      (next : phase = .launching (n + 1) ∨ phase = .waiting false) :
      Move r (.launch issued replies)
        { r with
          calls := r.calls ++ calls.map fun call => (n, call)
          monitors := r.monitors ++ [.start i r.nodes]
          phase := phase }
  /-- Something happens at the collector. -/
  | collected {e} (c : Collector) (running : r.isOver = false) (admitted : r.admits e = true)
      (step : r.collector.step? e = some c) :
      Move r (.collect e) { r with collector := c }
  /-- A monitor wakes. -/
  | woke {n} (monitors : List Monitor) (watched : r.phase.isWatched = true)
      (same : monitors.length = r.monitors.length) :
      Move r (.wake n) { r with monitors := monitors }
  /-- The cluster answers a monitor, which sends reports. -/
  | observed {n o} (monitors : List Monitor) (reports : List LocalResult)
      (watched : r.phase.isWatched = true) (same : monitors.length = r.monitors.length)
      (failures : ∀ x ∈ reports, x.isFailure = true) :
      Move r (.observe n o)
        { r with
          monitors := monitors
          queue := r.queue ++ reports
          sent := r.sent ++ reports }
  /-- The next report is taken up. -/
  | tookUp {mark} (report : LocalResult) (rest : List LocalResult)
      (queue : r.queue = report :: rest) (filing : r.phase.isFiling = true) (filed : r.filed = true)
      (may : r.collector.mayOpen report.key report.isFailure mark = true) :
      Move r (.takeUp mark) (r.takeUp report rest mark)
  /-- Time passes. -/
  | passed {milliseconds} (timed : r.phase.isTimed = true) :
      Move r (.pass milliseconds) { r with elapsed := r.elapsed + milliseconds }
  /-- The service ends. -/
  | serviceEnded {reason} (undecided : r.verdict? = none) (up : r.serviceEnd = none) :
      Move r (.serviceEnded reason) { r with serviceEnd := some (reason.getD "listener closed") }
  /-- It is time to clean up. -/
  | softened (waiting : r.phase = .waiting false)
      (late : r.settings.softTimeout * 1000 ≤ r.elapsed) :
      Move r .softTimeout { r with phase := .cleaning 0 none }
  /-- The time is up. -/
  | timedOut (pastSoft : Bool) (waiting : r.phase = .waiting pastSoft)
      (late : r.settings.hardTimeout * 1000 ≤ r.elapsed) :
      Move r .hardTimeout (r.fail (.timeout (.ofSeconds r.settings.hardTimeout)))
  /-- The run sees that its service has ended. -/
  | serviceMissed (pastSoft : Bool) (reason : String) (waiting : r.phase = .waiting pastSoft)
      (down : r.serviceEnd = some reason) :
      Move r .serviceMissed (r.fail (.service reason))
  /-- The run sees that its wait for results has ended. -/
  | waited (pastSoft : Bool) (outcome : RunOutcome) (waiting : r.phase = .waiting pastSoft)
      (answered : r.waited? = some outcome) :
      Move r .waited (r.settle outcome)
  /-- Every report has been filed. -/
  | drained (outcome : RunOutcome) (draining : r.phase = .draining outcome) :
      Move r .drained { r with phase := .cleaning 0 (some outcome) }
  /-- A plugin is cleaned up, unless that has been done. -/
  | cleanedUp {replies} (n : Nat) (i : Instance) (ending : Option RunOutcome)
      (cleaning : r.phase = .cleaning n ending) (at_n : r.instances[n]? = some i) :
      Move r (.cleanUp replies) { r.cleanUp n i replies with phase := r.phaseBehind n ending }

private theorem launch_move {r : Run} {n : Nat} {i : Instance}
    {issued : Except CertificateError Credential} {replies : Replies}
    (launching : r.phase = .launching n) (at_n : r.instances[n]? = some i) :
    Move r (.launch issued replies) (r.launch n i issued replies) := by
  unfold launch
  split
  · next e =>
    have hnone : r.calls = r.calls ++ ([] : List ClusterCall).map fun call => (n, call) :=
      (List.append_nil r.calls).symm
    have hmove : Move r (.launch (.error e) replies) _ :=
      .refused n i (.certificate e) [] launching at_n (by simp) (by simp)
    rw [← hnone] at hmove
    exact hmove
  · next credential =>
    have makes := @makes_of_mem_launch i replies r.settings.advertiseAddress credential
    dsimp only
    split
    · next e he => exact .refused n i (.dispatch i.name e) _ launching at_n (fun _ => makes) (by simp)
    · refine .launched n i _ _ launching at_n (fun _ => makes) ?_
      split
      · exact .inl rfl
      · exact .inr rfl

/-- Every event that can happen is one of the moves. -/
theorem move_of_step? {r r' : Run} {e : Event} (h : r.step? e = some r') : Move r e r' := by
  cases e with
  | launch issued replies =>
    simp only [step?] at h
    split at h
    · next n hn =>
      obtain ⟨i, hi, rfl⟩ := Option.map_eq_some_iff.mp h
      exact launch_move hn hi
    · cases h
  | collect e =>
    simp only [step?] at h
    split at h
    · next hadmit =>
      obtain ⟨c, hc, rfl⟩ := Option.map_eq_some_iff.mp h
      exact .collected c (by simpa using hadmit.1) hadmit.2 hc
    · cases h
  | wake n =>
    simp only [step?] at h
    split at h
    · split at h
      · next m hm hw =>
        cases h
        exact .woke _ hw.1 List.length_set
      · cases h
    · cases h
  | observe n o =>
    simp only [step?] at h
    split at h
    · next m hm =>
      split at h
      · next hw =>
        cases h
        exact .observed _ _ hw.1 List.length_set fun x => Monitor.isFailure_of_mem_observe
      · cases h
    · cases h
  | takeUp mark =>
    simp only [step?] at h
    split at h
    · next report rest hq =>
      split at h
      · next ht =>
        cases h
        exact .tookUp report rest hq ht.1 ht.2.1 ht.2.2
      · cases h
    · cases h
  | pass milliseconds =>
    simp only [step?] at h
    split at h
    · next ht =>
      cases h
      exact .passed ht
    · cases h
  | serviceEnded reason =>
    simp only [step?] at h
    split at h
    · next hs =>
      cases h
      exact .serviceEnded (by simpa using hs.1) (by simpa using hs.2)
    · cases h
  | softTimeout =>
    simp only [step?] at h
    split at h
    · next hp =>
      split at h
      · next hlate =>
        cases h
        exact .softened hp hlate
      · cases h
    · cases h
  | hardTimeout =>
    simp only [step?] at h
    split at h
    · next b hp =>
      split at h
      · next hlate =>
        cases h
        exact .timedOut b hp hlate
      · cases h
    · cases h
  | serviceMissed =>
    simp only [step?] at h
    split at h
    · next b hp =>
      obtain ⟨reason, hr, rfl⟩ := Option.map_eq_some_iff.mp h
      exact .serviceMissed b reason hp hr
    · cases h
  | waited =>
    simp only [step?] at h
    split at h
    · next b hp =>
      split at h
      · obtain ⟨outcome, ho, rfl⟩ := Option.map_eq_some_iff.mp h
        exact .waited b outcome hp ho
      · cases h
    · cases h
  | drained =>
    simp only [step?] at h
    split at h
    · next outcome hp =>
      split at h
      · cases h
        exact .drained outcome hp
      · cases h
    · cases h
  | cleanUp replies =>
    simp only [step?] at h
    split at h
    · next n ending hp =>
      obtain ⟨i, hi, rfl⟩ := Option.map_eq_some_iff.mp h
      exact .cleanedUp n i ending hp hi
    · cases h

end Run

end ClusterSurvey

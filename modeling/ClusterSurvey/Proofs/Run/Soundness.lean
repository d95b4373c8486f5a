import ClusterSurvey.Proofs.Run.Completion

/-!
# What the end of a run tells

A run ends well when every expected key has been recorded, and tells then what their records add up to.
It ends badly when it cannot launch its plugins, when its time is up or when its service has ended, and
for no other reason.
-/

namespace ClusterSurvey

namespace Run

variable {root : String} {settings : Settings} {instances : List Instance}
variable {nodes : Except ClusterError (List String)} {service : Except CertificateError ServerSide}
variable {r r' : Run} {e : Event} {events : List Event} {records : List (ResultKey × Bool)}
variable {outcome : RunOutcome}

/-- What can be said of a run by the way it ends. -/
structure Sound (start : Run) (events : List Event) (r : Run) : Prop where
  /-- What a run returns is its verdict. -/
  returned : ∀ outcome, r.outcome? = some outcome → r.verdict? = some outcome
  /-- A good verdict comes when every expected key has been recorded.  Its status has one entry for each
  of them, none of which is running, and has failed if some key was first recorded by a failure. -/
  complete : ∀ status, r.verdict? = some (.ok status) →
    (∀ k ∈ r.expected, k ∈ (start.recordings events).map (·.1)) ∧
      (status.entries.map (·.key)).Nodup ∧
      (∀ k, k ∈ status.entries.map (·.key) ↔ k ∈ r.expected) ∧
      (∀ s ∈ status.entries, s.status ≠ .running) ∧
      status.status =
        if ∃ k ∈ r.expected, (start.recordings events).lookup k = some true then .failed
        else .complete
  /-- A failure that is recorded was reported by a monitor. -/
  failures : ∀ k, (k, true) ∈ start.recordings events →
    ∃ report ∈ r.sent, report.key = k ∧ report.isFailure = true
  /-- The verdict that the time is up rests on the hard timeout, before the end of the wait was seen. -/
  timeout : ∀ d, r.verdict? = some (.error (.timeout d)) →
    d = .ofSeconds r.settings.hardTimeout ∧ Event.hardTimeout ∈ events ∧
      r.settings.hardTimeout * 1000 ≤ r.elapsed ∧ Event.waited ∉ events
  /-- The verdict that the service has failed rests on its end, before the end of the wait was seen. -/
  service : ∀ reason, r.verdict? = some (.error (.service reason)) →
    (∃ why, Event.serviceEnded why ∈ events ∧ reason = why.getD "listener closed") ∧
      Event.waited ∉ events
  /-- If all plugins have been launched, there is no other bad verdict. -/
  others : r.monitors.length = r.instances.length → ∀ err, r.verdict? = some (.error err) →
    (∃ d, err = .timeout d) ∨ ∃ reason, err = .service reason
  /-- Once all plugins have been launched, only the hard timeout, the end of the service and that of the
  wait settle a verdict; the soft timeout and the clean-up do not. -/
  settled : r.verdict? = none → ∀ e r', r.step? e = some r' → r'.verdict? = none ∨
    e = .hardTimeout ∨ e = .serviceMissed ∨ e = .waited ∨ ∃ issued replies, e = .launch issued replies
  /-- As long as the run is not over, also behind the soft timeout, a delivery that can be recorded is
  recorded, and counts once. -/
  counts : r.isOver = false → ∀ id c, r.collector.step? (.record id) = some c →
    r.step? (.collect (.record id)) = some { r with collector := c } ∧
      Collector.CountsOnce ((start.recordings events).map (·.1)) r.collector (.record id) c
  /-- When all plugins have been launched and every expected key has been recorded, a run without a
  verdict can end well by its own doing. -/
  ends : r.verdict? = none → (∀ n, r.phase ≠ .launching n) →
    (∀ k ∈ r.expected, k ∈ (start.recordings events).map (·.1)) →
      ∃ r', LeadsTo r r' ∧ r'.outcome? = some (.ok r.collector.ledger.status)
  /-- A run that expects nothing ends well if its plugins were launched, its service has stayed up and
  it came to everything at its time. -/
  idle : r.expected = [] → r.monitors.length = r.instances.length →
    (∀ why, Event.serviceEnded why ∉ events) → Machine.Along step? IsPrompt start events →
      ∀ outcome, r.outcome? = some outcome → outcome = .ok ⟨.complete, []⟩

private theorem verdict?_of_outcome? (h : r.outcome? = some outcome) : r.verdict? = some outcome := by
  unfold outcome? at h
  split at h
  · next o hp =>
    rw [verdict?, hp]
    exact h
  · cases h

private theorem undecided_or_settles (hv : r.verdict? = none) (m : Move r e r') :
    r'.verdict? = none ∨ e = .hardTimeout ∨ e = .serviceMissed ∨ e = .waited ∨
      ∃ issued replies, e = .launch issued replies := by
  cases m with
  | refused n i err calls launching => exact .inr (.inr (.inr (.inr ⟨_, _, rfl⟩)))
  | launched n i calls phase launching => exact .inr (.inr (.inr (.inr ⟨_, _, rfl⟩)))
  | softened waiting late => exact .inl rfl
  | timedOut pastSoft waiting late => exact .inr (.inl rfl)
  | serviceMissed pastSoft reason waiting down => exact .inr (.inr (.inl rfl))
  | waited pastSoft outcome waiting answered => exact .inr (.inr (.inr (.inl rfl)))
  | drained outcome draining =>
    rw [verdict?, draining] at hv
    cases hv
  | cleanedUp n i ending cleaning at_n =>
    rw [verdict?, cleaning] at hv
    obtain rfl : ending = none := hv
    exact .inl (r.verdict?_phaseBehind n none)
  | _ => exact .inl hv

private theorem phase_of_undecided (hv : r.verdict? = none) (launched : ∀ n, r.phase ≠ .launching n) :
    (∃ pastSoft, r.phase = .waiting pastSoft) ∨ ∃ n, r.phase = .cleaning n none := by
  cases hp : r.phase with
  | launching n => exact absurd hp (launched n)
  | waiting pastSoft => exact .inl ⟨pastSoft, rfl⟩
  | draining outcome =>
    rw [verdict?, hp] at hv
    cases hv
  | cleaning n ending =>
    rw [verdict?, hp] at hv
    obtain rfl : ending = none := hv
    exact .inr ⟨n, rfl⟩
  | ended outcome =>
    rw [verdict?, hp] at hv
    cases hv

/-- When all results are there, a run that has launched its plugins can end well by its own doing. -/
theorem leadsTo_of_undecided
    (h : (startWith root settings instances nodes service).run? events = some r)
    (fulfilled : Fulfilled r) (hv : r.verdict? = none) (launched : ∀ n, r.phase ≠ .launching n) :
    ∃ r', LeadsTo r r' ∧ r'.outcome? = some (.ok r.collector.ledger.status) := by
  have plugins : 0 < instances.length := by
    rw [List.length_pos_iff]
    rintro rfl
    obtain ⟨-, rfl⟩ := run?_nil h
    cases hv
  refine leadsTo_complete fulfilled (by rw [instances_run h]; exact plugins) ?_
  rcases phase_of_undecided hv launched with hwaiting | ⟨n, hcleaning⟩
  · exact .inl hwaiting
  · exact .inr ⟨n, hcleaning, cleansNext_run h plugins n none hcleaning⟩

/-- Nothing but its settings or its service keeps a run that expects nothing from ending well. -/
theorem verdict?_of_prompt
    (h : (startWith root settings instances nodes service).run? events = some r)
    (nothing : r.expected = []) (launched : r.monitors.length = r.instances.length)
    (up : ∀ why, Event.serviceEnded why ∉ events)
    (prompt : Machine.Along step? IsPrompt (startWith root settings instances nodes service) events)
    (hv : r.verdict? = some outcome) : outcome = .ok ⟨.complete, []⟩ := by
  have judged := judged_run h
  cases outcome with
  | ok status =>
    obtain ⟨-, rfl⟩ := judged.complete status hv
    rw [nothing]
    rfl
  | error err =>
    rcases judged.others err hv with ⟨d, rfl⟩ | ⟨reason, rfl⟩ | hlt
    · cases hc : settings.check with
      | error problem => exact absurd hv (not_timeout_of_check hc h d)
      | ok u =>
        have hclock := (still_of_prompt hc h nothing prompt).clock
        have hgrace := Settings.gracePeriod_lt_timeout hc
        obtain ⟨-, -, -, hlate⟩ := judged.timeout d hv
        rw [settings_run h, hclock, Settings.hardTimeout] at hlate
        omega
    · obtain ⟨-, -, hdown⟩ := judged.service reason hv
      obtain ⟨why, hwhy, -⟩ := judged.down reason hdown
      exact absurd hwhy (up why)
    · omega

/-- At every state of every run its verdict, if there is one, is sound: a good one tells what the
records add up to, a bad one has its cause, and nothing but these settles it. -/
theorem sound_run
    (h : (startWith root settings instances nodes service).run? events = some r) :
    Sound (startWith root settings instances nodes service) events r := by
  have judged := judged_run h
  have collecting := collecting_run h
  have hrecorded (k : ResultKey) :
      (((startWith root settings instances nodes service).recordings events).lookup k).isSome ↔
        k ∈ ((startWith root settings instances nodes service).recordings events).map (·.1) :=
    Ledger.isSome_lookup_iff
  constructor
  · intro outcome ho
    exact verdict?_of_outcome? ho
  · intro status hs
    obtain ⟨hall, rfl⟩ := judged.complete status hs
    obtain ⟨distinct, keys⟩ := collecting.orderly.balanced.entries
    rw [collecting.orderly.ledger] at distinct keys
    exact ⟨fun k hk => (hrecorded k).mp (hall k hk), distinct, keys, Ledger.status_ne_running hall,
      Ledger.status_of_settled hall⟩
  · exact collecting.reported.recorded
  · intro d hd
    obtain ⟨hd', htimeout, hx, hlate⟩ := judged.timeout d hd
    exact ⟨hd', htimeout, hlate, hx⟩
  · intro reason hr
    obtain ⟨-, hx, hdown⟩ := judged.service reason hr
    exact ⟨judged.down reason hdown, hx⟩
  · intro launched err herr
    rcases judged.others err herr with hd | hr | hlt
    · exact .inl hd
    · exact .inr hr
    · omega
  · intro hv e r' he
    exact undecided_or_settles hv (move_of_step? he)
  · intro hover id c hc
    refine ⟨?_, collecting.orderly.countsOnce hc⟩
    simp [step?, hover, admits, hc]
  · intro hv launched hall
    exact leadsTo_of_undecided h ⟨_, collecting, fun k hk => (hrecorded k).mpr (hall k hk)⟩ hv launched
  · intro nothing launched up prompt outcome ho
    exact verdict?_of_prompt h nothing launched up prompt (verdict?_of_outcome? ho)

/-- A result that comes when it is past the time to clean up. -/
def lateResult : List Event :=
  [.launch (.ok default) fun _ => none, .pass 10755000, .softTimeout, .cleanUp fun _ => none,
    .collect (.openResult ⟨"", "a"⟩ false .empty "000000"), .collect (.commit 0),
    .collect (.record 0), .collect (.endWait 0 .complete), .waited, .drained,
    .cleanUp fun _ => none]

/-- It makes the run complete. -/
theorem sound_lateResult :
    ∃ r, (startWith "out" exampleSettings [exampleJob "a" "1"] (.ok [])
        (.ok exampleService)).run? lateResult = some r ∧
      Sound (startWith "out" exampleSettings [exampleJob "a" "1"] (.ok []) (.ok exampleService))
        lateResult r ∧
      r.outcome?.bind Except.toOption = some ⟨.complete, [⟨"a", "", .complete⟩]⟩ := by
  have houtcome : ((startWith "out" exampleSettings [exampleJob "a" "1"] (.ok [])
      (.ok exampleService)).run? lateResult).map (fun r => r.outcome?.bind Except.toOption) =
        some (some ⟨.complete, [⟨"a", "", .complete⟩]⟩) := by
    decide +kernel
  obtain ⟨r, hr, ho⟩ := Option.map_eq_some_iff.mp houtcome
  exact ⟨r, hr, sound_run hr, ho⟩

end Run

end ClusterSurvey

import ClusterSurvey.Proofs.Run.Verdict

/-!
# How a run ends well

A run that has all results can end well by its own doing: it sees its wait end, files the reports that
are on their way, and cleans up, and no time has to pass for that.  A run that expects nothing does so
at once.
-/

namespace ClusterSurvey

namespace Run

variable {root : String} {settings : Settings} {instances : List Instance}
variable {nodes : Except ClusterError (List String)} {service : Except CertificateError ServerSide}
variable {r r' : Run} {e : Event} {events : List Event} {records : List (ResultKey × Bool)}
variable {outcome : RunOutcome}

/-! ### What a run does by itself -/

/-- Whether an event is a run's own doing, or the end of its wait.  No time passes, and nobody else
does anything. -/
def Event.isOwn : Event → Bool
  | .collect (.endWait ..) => true
  | .takeUp _ => true
  | .waited => true
  | .drained => true
  | .cleanUp _ => true
  | _ => false

/-- Whether a run gets from one state to another by its own doing. -/
def LeadsTo (r r' : Run) : Prop :=
  ∃ more, (∀ e ∈ more, e.isOwn = true) ∧ r.run? more = some r'

/-- A run gets to where it is. -/
theorem LeadsTo.refl (r : Run) : LeadsTo r r := ⟨[], by simp, rfl⟩

/-- A first step of its own gets a run on. -/
theorem LeadsTo.step {s : Run} (own : e.isOwn = true) (he : r.step? e = some s)
    (h : LeadsTo s r') : LeadsTo r r' := by
  obtain ⟨more, hown, hrun⟩ := h
  refine ⟨e :: more, fun a ha => ?_, Option.bind_eq_some_iff.mpr ⟨s, he, hrun⟩⟩
  rcases List.mem_cons.mp ha with rfl | hm
  · exact own
  · exact hown a hm

/-- Two ways of its own are one. -/
theorem LeadsTo.trans {s : Run} (h : LeadsTo r s) (h' : LeadsTo s r') : LeadsTo r r' := by
  obtain ⟨first, hfirst, hs⟩ := h
  obtain ⟨second, hsecond, hr⟩ := h'
  refine ⟨first ++ second, fun a ha => ?_, ?_⟩
  · rcases List.mem_append.mp ha with h | h
    · exact hfirst a h
    · exact hsecond a h
  · rw [run?, Machine.run?_append]
    exact Option.bind_eq_some_iff.mpr ⟨s, hs, hr⟩

/-- A run all of whose expected keys have been recorded. -/
def Fulfilled (r : Run) : Prop :=
  ∃ records, Collecting records r ∧ ∀ k ∈ r.expected, (records.lookup k).isSome

/-- It stays so. -/
theorem fulfilled_move (h : Fulfilled r) (m : Move r e r') : Fulfilled r' := by
  obtain ⟨records, collecting, hall⟩ := h
  refine ⟨_, collecting.move m, fun k hk => ?_⟩
  rw [expected_move m] at hk
  obtain ⟨b, hb⟩ := Option.isSome_iff_exists.mp (hall k hk)
  rw [List.lookup_append, hb]
  rfl

namespace Fulfilled

/-- No failure is on its way, since its key would be pending. -/
private theorem not_isOpen (h : Fulfilled r) : ∀ (id : Nat) (d : Delivery),
    r.collector.deliveries[id]? = some d → d.isFailure = true → d.isOpen = false := by
  obtain ⟨records, collecting, hall⟩ := h
  intro id d hd hf
  rw [← Bool.not_eq_true]
  intro ho
  have hnone := (collecting.orderly.held id d hd ho hf).2
  have hsome := hall d.key (collecting.orderly.owed id d hd ho)
  rw [hnone] at hsome
  cases hsome

/-- So nobody holds the ledger. -/
theorem holder_eq_none (h : Fulfilled r) : r.collector.holder = none := by
  cases hh : r.collector.holder with
  | none => rfl
  | some id =>
    have hopen := h.not_isOpen
    obtain ⟨records, collecting, -⟩ := h
    obtain ⟨d, hd, ho, hf⟩ := collecting.held id hh
    rw [hopen _ d hd hf] at ho
    cases ho

/-- Every report that was taken up has been filed. -/
theorem filed_eq_true (h : Fulfilled r) : r.filed = true := by
  have hopen := h.not_isOpen
  obtain ⟨records, collecting, -⟩ := h
  cases hfiling : r.filing with
  | none => simp [filed, hfiling]
  | some id =>
    obtain ⟨d, hd, hf, halive⟩ := collecting.reported.filing id hfiling
    rcases halive with ho | houtcome
    · rw [hopen _ d hd hf] at ho
      cases ho
    · simp [filed, hfiling, Collector.outcome?, hd, houtcome]

/-- Nothing is outstanding. -/
theorem announced_eq_zero (h : Fulfilled r) : r.collector.announced = 0 := by
  obtain ⟨records, collecting, hall⟩ := h
  rw [collecting.orderly.announced, collecting.orderly.ledger]
  exact Ledger.outstanding_eq_zero_iff.mpr hall

/-- A further failure is answered at once. -/
theorem mayOpen_eq_true (h : Fulfilled r) (key : ResultKey) (mark : String) :
    r.collector.mayOpen key true mark = true := by
  have hholder := h.holder_eq_none
  obtain ⟨records, collecting, hall⟩ := h
  have hwants : r.collector.wants key true = false := by
    unfold Collector.wants
    rw [collecting.orderly.receipt?_eq]
    split
    · rfl
    · rfl
    · next hr =>
      split at hr
      · next hk => simp [Ledger.receiptAfter, hall key hk] at hr
      · cases hr
  simp [Collector.mayOpen, hholder, hwants]

end Fulfilled

/-- A clean-up that has begun comes to its end. -/
theorem leadsTo_of_cleaning {n : Nat} {ending : Option RunOutcome} (hp : r.phase = .cleaning n ending)
    (hn : n < r.instances.length) :
    ∃ r', LeadsTo r r' ∧ r'.phase = ending.elim (.waiting true) .ended ∧
      r'.collector = r.collector ∧ r'.instances = r.instances := by
  obtain ⟨k, hk⟩ : ∃ k, n + k + 1 = r.instances.length := ⟨r.instances.length - n - 1, by omega⟩
  clear hn
  induction k generalizing r n with
  | zero =>
    have hi : r.instances[n]? = some r.instances[n] := List.getElem?_eq_getElem (by omega)
    have hstep : r.step? (.cleanUp fun _ => none) =
        some { r.cleanUp n r.instances[n] fun _ => none with phase := r.phaseBehind n ending } := by
      simp only [step?, hp, hi, Option.map_some]
    have hlast : ¬ n + 1 < r.instances.length := by omega
    rcases r.phaseBehind_cases n ending with ⟨hnext, -⟩ | ⟨-, hphase⟩
    · exact absurd hnext hlast
    · exact ⟨_, .step rfl hstep (.refl _), hphase, rfl, rfl⟩
  | succ k ih =>
    have hi : r.instances[n]? = some r.instances[n] := List.getElem?_eq_getElem (by omega)
    have hstep : r.step? (.cleanUp fun _ => none) =
        some { r.cleanUp n r.instances[n] fun _ => none with phase := r.phaseBehind n ending } := by
      simp only [step?, hp, hi, Option.map_some]
    have hnext : n + 1 < r.instances.length := by omega
    have hphase : r.phaseBehind n ending = .cleaning (n + 1) ending := if_pos hnext
    obtain ⟨r', hlead, hr', hc, hi'⟩ := ih (r := { r.cleanUp n r.instances[n] fun _ => none with
      phase := r.phaseBehind n ending }) hphase (by show n + 1 + k + 1 = r.instances.length; omega)
    exact ⟨r', .step rfl hstep hlead, hr', hc, hi'⟩

/-- When all results are there, the reports that are on their way are filed without delay. -/
theorem leadsTo_of_draining (h : Fulfilled r) (hp : r.phase = .draining outcome) :
    ∃ r', LeadsTo r r' ∧ r'.phase = .cleaning 0 (some outcome) ∧ r'.instances = r.instances := by
  have hfiled := h.filed_eq_true
  induction hq : r.queue generalizing r with
  | nil =>
    have hstep : r.step? .drained = some { r with phase := .cleaning 0 (some outcome) } := by
      simp [step?, hp, hq, hfiled]
    exact ⟨_, .step rfl hstep (.refl _), rfl, rfl⟩
  | cons report rest ih =>
    have hfailure : report.isFailure = true := by
      obtain ⟨records, collecting, -⟩ := h
      exact (collecting.reported.queued report (by rw [hq]; exact List.mem_cons_self)).1
    have hmay : r.collector.mayOpen report.key report.isFailure "" = true := by
      rw [hfailure]
      exact h.mayOpen_eq_true report.key ""
    have hstep : r.step? (.takeUp "") = some (r.takeUp report rest "") := by
      simp [step?, hp, hq, hfiled, hmay, RunPhase.isFiling]
    have hnext := fulfilled_move h (move_of_step? hstep)
    obtain ⟨r', hlead, hr', hi⟩ := ih hnext hp hnext.filed_eq_true rfl
    exact ⟨r', .step rfl hstep hlead, hr', hi⟩

/-- When all results are there, the wait of a run without a verdict has ended well or can do so. -/
theorem Fulfilled.answer (h : Fulfilled r) (hv : r.verdict? = none) :
    ∃ w, r.collector.waits = [w] ∧ (w.answer = none ∨ w.answer = some (.ok .complete)) := by
  obtain ⟨records, collecting, -⟩ := h
  obtain ⟨w, hw, hheld, hanswer⟩ := collecting.attended
  refine ⟨w, hw, ?_⟩
  cases ha : w.answer with
  | none => exact .inl rfl
  | some a =>
    rcases hanswer a ha with ⟨rfl, -⟩ | ⟨-, hstop⟩
    · exact .inr rfl
    · exact absurd (hheld hv) hstop

private theorem verdict?_of_waiting {pastSoft : Bool} (hp : r.phase = .waiting pastSoft) :
    r.verdict? = none := by
  rw [verdict?, hp]
  rfl

private theorem step?_waited {w : Wait} {pastSoft : Bool} (h : Fulfilled r)
    (hp : r.phase = .waiting pastSoft) (hw : r.collector.waits = [w])
    (ha : w.answer = some (.ok .complete)) :
    r.step? .waited = some (r.settle (.ok r.collector.ledger.status)) := by
  simp [step?, hp, h.holder_eq_none, waited?, hw, ha]

private theorem step?_endWait {w : Wait} {pastSoft : Bool} (h : Fulfilled r)
    (hp : r.phase = .waiting pastSoft) (hw : r.collector.waits = [w]) (ha : w.answer = none) :
    r.step? (.collect (.endWait 0 .complete)) =
      some { r with collector := r.collector.endWait 0 .complete } := by
  simp [step?, isOver, hp, RunPhase.isOver, admits, Collector.step?, hw, ha, Collector.mayEnd,
    h.announced_eq_zero]

/-- When all results are there, a run that waits can see it. -/
theorem leadsTo_of_waiting {pastSoft : Bool} (h : Fulfilled r) (hp : r.phase = .waiting pastSoft) :
    ∃ r', LeadsTo r r' ∧ r'.phase = .draining (.ok r.collector.ledger.status) ∧
      r'.instances = r.instances ∧ Fulfilled r' := by
  have of_answered {s : Run} {w : Wait} (hs : Fulfilled s) (hps : s.phase = .waiting pastSoft)
      (hw : s.collector.waits = [w]) (ha : w.answer = some (.ok .complete)) :
      ∃ r', LeadsTo s r' ∧ r'.phase = .draining (.ok s.collector.ledger.status) ∧
        r'.instances = s.instances ∧ Fulfilled r' := by
    have hstep := step?_waited hs hps hw ha
    exact ⟨_, .step rfl hstep (.refl _), rfl, rfl, fulfilled_move hs (move_of_step? hstep)⟩
  obtain ⟨w, hw, ha | ha⟩ := h.answer (verdict?_of_waiting hp)
  · have hstep := step?_endWait h hp hw ha
    have hwaits : (r.collector.endWait 0 .complete).waits =
        [{ w with answer := some (.ok .complete) }] := by
      simp [Collector.endWait, hw]
    obtain ⟨r', hlead, hr', hi, hf⟩ :=
      of_answered (fulfilled_move h (move_of_step? hstep)) hp hwaits rfl
    exact ⟨r', .step rfl hstep hlead, hr', hi, hf⟩
  · exact of_answered h hp hw ha

/-- When all results are there and all plugins have been launched, a run without a verdict can end
well by its own doing. -/
theorem leadsTo_complete (h : Fulfilled r) (plugins : 0 < r.instances.length)
    (hp : (∃ pastSoft, r.phase = .waiting pastSoft) ∨
      ∃ n, r.phase = .cleaning n none ∧ n < r.instances.length) :
    ∃ r', LeadsTo r r' ∧ r'.outcome? = some (.ok r.collector.ledger.status) := by
  have of_waiting {s : Run} {pastSoft : Bool} (hs : Fulfilled s) (hps : s.phase = .waiting pastSoft)
      (hi : 0 < s.instances.length) :
      ∃ r', LeadsTo s r' ∧ r'.outcome? = some (.ok s.collector.ledger.status) := by
    obtain ⟨t, hst, hpt, hit, ht⟩ := leadsTo_of_waiting hs hps
    obtain ⟨u, htu, hpu, hiu⟩ := leadsTo_of_draining ht hpt
    obtain ⟨v, huv, hpv, -, -⟩ := leadsTo_of_cleaning hpu (by rw [hiu, hit]; exact hi)
    refine ⟨v, (hst.trans htu).trans huv, ?_⟩
    rw [outcome?, hpv]
    rfl
  rcases hp with ⟨pastSoft, hwaiting⟩ | ⟨n, hcleaning, hn⟩
  · exact of_waiting h hwaiting plugins
  · obtain ⟨s, hlead, hps, hc, hi⟩ := leadsTo_of_cleaning hcleaning hn
    have hs : Fulfilled s := by
      obtain ⟨more, -, hrun⟩ := hlead
      exact Machine.run?_induction (P := fun _ s => Fulfilled s) h
        (fun _ _ _ _ _ ih he => fulfilled_move ih (move_of_step? he)) hrun
    obtain ⟨r', hlead', hr'⟩ := of_waiting hs hps (by rw [hi]; exact plugins)
    exact ⟨r', hlead.trans hlead', by rw [hr', hc]⟩

/-- The plugin that is to be cleaned up next is one of the plugins. -/
def CleansNext (r : Run) : Prop :=
  ∀ n ending, r.phase = .cleaning n ending → n < r.instances.length

/-- A run that cleans up at its start begins with its first plugin. -/
theorem Begins.cleansNext (b : Begins root settings instances r) : CleansNext r := by
  intro n ending hp
  cases b with
  | idle empty => cases hp
  | abandoned listings e plugins cause =>
    cases hp
    exact List.length_pos_iff.mpr plugins
  | launching nodes checked => cases hp

/-- Every event leaves one of the plugins to be the next. -/
theorem CleansNext.move (h : CleansNext r) (plugins : 0 < r.instances.length) (m : Move r e r') :
    CleansNext r' := by
  intro n ending hp
  rw [instances_move m]
  cases m with
  | refused l i err calls launching at_n makes cause =>
    cases hp
    exact plugins
  | launched l i calls phase launching at_n makes next =>
    rcases next with rfl | rfl
    · cases hp
    · cases hp
  | softened waiting late =>
    cases hp
    exact plugins
  | timedOut pastSoft waiting late => cases hp
  | serviceMissed pastSoft reason waiting down => cases hp
  | waited pastSoft outcome waiting answered => cases hp
  | drained outcome draining =>
    cases hp
    exact plugins
  | cleanedUp l i before cleaning at_n =>
    change r.phaseBehind l before = _ at hp
    rcases r.phaseBehind_cases l before with ⟨hlt, hnext⟩ | ⟨-, hlast⟩
    · cases hnext.symm.trans hp
      exact hlt
    · rw [hlast] at hp
      cases before <;> cases hp
  | _ => exact h n ending hp

/-- One of the plugins is the next at every state of every run that has some. -/
theorem cleansNext_run
    (h : (startWith root settings instances nodes service).run? events = some r)
    (plugins : 0 < instances.length) : CleansNext r := by
  refine Machine.run?_induction (P := fun _ r => CleansNext r) begins_startWith.cleansNext ?_ h
  intro es s e s' hs ih he
  exact ih.move (by rw [instances_run hs]; exact plugins) (move_of_step? he)

/-! ### A run that expects nothing -/

/-- Whether an event comes at its time: time passes only while the run cannot see its wait end. -/
def IsPrompt (r : Run) : Event → Prop
  | .pass _ => r.step? (.collect (.endWait 0 .complete)) = none ∧ r.step? .waited = none
  | _ => True

/-- A run starts with its settings. -/
theorem Begins.settings_eq (b : Begins root settings instances r) : r.settings = settings := by
  cases b <;> rfl

/-- The settings of a run are those with which it started. -/
theorem settings_run
    (h : (startWith root settings instances nodes service).run? events = some r) :
    r.settings = settings :=
  Machine.run?_induction (P := fun _ r => r.settings = settings) begins_startWith.settings_eq
    (fun _ _ _ _ _ ih he => (settings_move (move_of_step? he)).trans ih) h

/-- A run for which no time has passed, so that it does not clean up before its outcome is settled. -/
structure Still (r : Run) : Prop where
  clock : r.elapsed = 0
  phase : ∀ n, r.phase ≠ .cleaning n none

/-- No time has passed at the start. -/
theorem Begins.still (b : Begins root settings instances r) : Still r := by
  cases b <;> exact ⟨rfl, by simp [fresh]⟩

/-- Time cannot pass at its time when all results are there, since the run can see its wait end. -/
private theorem not_isPrompt_pass (still : Still r) (h : Fulfilled r)
    (timed : r.phase.isTimed = true) (milliseconds : Nat) : ¬ IsPrompt r (.pass milliseconds) := by
  rintro ⟨hend, hseen⟩
  unfold RunPhase.isTimed at timed
  split at timed
  · next pastSoft hp =>
    obtain ⟨w, hw, ha | ha⟩ := h.answer (verdict?_of_waiting hp)
    · rw [step?_endWait h hp hw ha] at hend
      cases hend
    · rw [step?_waited h hp hw ha] at hseen
      cases hseen
  · next n ending hp =>
    cases ending with
    | none => exact still.phase n hp
    | some outcome => cases timed
  · cases timed

/-- When all results are there, an event that comes at its time leaves the clock alone. -/
theorem Still.move (still : Still r) (h : Fulfilled r) (soft : 0 < r.settings.softTimeout)
    (prompt : IsPrompt r e) (m : Move r e r') : Still r' := by
  cases m with
  | refused n i err calls launching at_n makes cause => exact ⟨still.clock, by simp⟩
  | launched n i calls phase launching at_n makes next =>
    rcases next with rfl | rfl
    · exact ⟨still.clock, by simp⟩
    · exact ⟨still.clock, by simp⟩
  | passed timed => exact absurd prompt (not_isPrompt_pass still h timed _)
  | softened waiting late =>
    rw [still.clock] at late
    omega
  | timedOut pastSoft waiting late => exact ⟨still.clock, by simp [fail, settle]⟩
  | serviceMissed pastSoft reason waiting down => exact ⟨still.clock, by simp [fail, settle]⟩
  | waited pastSoft outcome waiting answered => exact ⟨still.clock, by simp [settle]⟩
  | drained outcome draining => exact ⟨still.clock, by simp⟩
  | cleanedUp n i ending cleaning at_n =>
    refine ⟨still.clock, fun l hl => ?_⟩
    have hnone : ending = none := by
      rw [← r.verdict?_phaseBehind n ending, show r.phaseBehind n ending = _ from hl]
      rfl
    rw [hnone] at cleaning
    exact still.phase n cleaning
  | _ => exact ⟨still.clock, still.phase⟩

/-- Time does not pass for a run that expects nothing and comes to all of its events at their time. -/
theorem still_of_prompt (checked : settings.check = .ok ())
    (h : (startWith root settings instances nodes service).run? events = some r)
    (nothing : r.expected = [])
    (prompt : Machine.Along step? IsPrompt (startWith root settings instances nodes service) events) :
    Still r := by
  rw [expected_run h] at nothing
  revert prompt
  refine Machine.run?_induction
    (P := fun es r => Machine.Along step? IsPrompt
      (startWith root settings instances nodes service) es → Still r)
    (fun _ => begins_startWith.still) ?_ h
  intro es s e s' hs ih he prompt
  obtain ⟨hbefore, hnow⟩ := (Machine.along_concat hs).mp prompt
  have fulfilled : Fulfilled s := ⟨_, collecting_run hs, by rw [expected_run hs, nothing]; simp⟩
  have hsoft : 0 < s.settings.softTimeout := by
    rw [settings_run hs]
    exact Nat.sub_pos_of_lt (Settings.gracePeriod_lt_timeout checked)
  exact (ih hbefore).move fulfilled hsoft hnow (move_of_step? he)

/-- A run without sound settings does not end because its time is up. -/
theorem not_timeout_of_check {problem : SettingsError} (unsound : settings.check = .error problem)
    (h : (startWith root settings instances nodes service).run? events = some r) (d : Duration) :
    r.verdict? ≠ some (.error (.timeout d)) := by
  have settled {r' : Run} (b : Begins root settings instances r') :
      ∃ outcome, r'.verdict? = some outcome ∧ outcome ≠ .error (.timeout d) := by
    cases b with
    | idle empty => exact ⟨_, rfl, by simp⟩
    | abandoned listings e plugins cause =>
      refine ⟨_, rfl, fun heq => ?_⟩
      exact absurd (Except.error.inj heq) (cause d "").1
    | launching nodes checked =>
      rw [checked] at unsound
      cases unsound
  obtain ⟨outcome, hstart, hne⟩ := settled (@begins_startWith root settings instances nodes service)
  have hverdict : r.verdict? = some outcome :=
    Machine.run?_induction (P := fun _ r => r.verdict? = some outcome) hstart
      (fun _ _ _ _ _ ih he => verdict?_move (move_of_step? he) ih) h
  rw [hverdict]
  exact fun heq => hne (Option.some.inj heq)

end Run

end ClusterSurvey

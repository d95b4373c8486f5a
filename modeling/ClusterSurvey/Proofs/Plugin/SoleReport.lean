import ClusterSurvey.Proofs.Plugin.Vigil
import ClusterSurvey.Proofs.Plugin.Withdrawal

/-!
# The monitor of a job

The monitor of a job looks until an answer shows that its one unit can no longer report: the cluster could
not tell, there is another number of units than one, or the one unit fails.  It reports the first such answer
and ends.  If its instance is cleaned up before that, it does not look any more and reports nothing.
-/

namespace ClusterSurvey

namespace Monitor

variable {i : Instance} {m : Monitor} {o : Observation} {r : LocalResult}

/-- Whether an answer shows that a job can no longer report. -/
inductive Amiss : Observation → Prop where
  /-- The units could not be listed. -/
  | unlisted (e : ClusterError) : Amiss (.error e)
  /-- There is no unit, or there are several. -/
  | miscounted (units : List ExecutionUnit) (count : units.length ≠ 1) : Amiss (.ok units)
  /-- The one unit fails. -/
  | failing (u : ExecutionUnit) (failing : u.failure?.isSome) : Amiss (.ok [u])

/-- Whether a result is the failure of a job that tells what is amiss in an answer. -/
inductive Tells (i : Instance) : Observation → LocalResult → Prop where
  /-- It tells the error of the cluster. -/
  | unlisted (e : ClusterError) :
    Tells i (.error e)
      (.failure (.forCluster i.resultType) ("failed to list units: " ++ e.message) none)
  /-- It tells how many units there are. -/
  | miscounted (units : List ExecutionUnit) (count : units.length ≠ 1) :
    Tells i (.ok units) (.failure (.forCluster i.resultType)
      ("expected 1 unit, found " ++ toString units.length) none)
  /-- It tells why the unit fails, and its name. -/
  | failing (u : ExecutionUnit) (reason : String) (failing : u.failure? = some reason) :
    Tells i (.ok [u]) (.failure (.forCluster i.resultType) reason (some u.name))

/-- The monitor of a job reports what an answer shows to be amiss. -/
theorem jobFailure?_eq_some_iff : jobFailure? i o = some r ↔ Tells i o r := by
  constructor
  · intro h
    match o with
    | .error e =>
      cases h
      exact .unlisted e
    | .ok [] =>
      cases h
      exact .miscounted [] (by simp)
    | .ok [u] =>
      obtain ⟨reason, hreason, rfl⟩ := Option.map_eq_some_iff.mp h
      exact .failing u reason hreason
    | .ok (u :: u' :: us) =>
      cases h
      exact .miscounted (u :: u' :: us) (by simp)
  · intro h
    cases h with
    | unlisted e => rfl
    | miscounted units count =>
      match units with
      | [] => rfl
      | [u] => exact absurd rfl count
      | u :: u' :: us => rfl
    | failing u reason failing => rw [jobFailure?, failing]; rfl

/-- It has nothing to report of other answers. -/
theorem isSome_jobFailure?_iff : (jobFailure? i o).isSome ↔ Amiss o := by
  rw [Option.isSome_iff_exists]
  simp only [jobFailure?_eq_some_iff]
  constructor
  · rintro ⟨r, h⟩
    cases h with
    | unlisted e => exact .unlisted e
    | miscounted units count => exact .miscounted units count
    | failing u reason failing => exact .failing u (Option.isSome_of_eq_some failing)
  · intro h
    cases h with
    | unlisted e => exact ⟨_, .unlisted e⟩
    | miscounted units count => exact ⟨_, .miscounted units count⟩
    | failing u failing =>
      obtain ⟨reason, hreason⟩ := Option.isSome_iff_exists.mp failing
      exact ⟨_, .failing u reason hreason⟩

/-- What a look of the monitor of a job gives rise to. -/
theorem observe_job (hd : m.owner.definition.driver = .job) :
    (m.observe o).2 = (jobFailure? m.owner o).toList := by
  unfold observe reports
  simp only [hd]
  cases jobFailure? m.owner o <;> rfl

/-- If it is a report, the monitor does not sleep again. -/
theorem phase_observe_job (hd : m.owner.definition.driver = .job) :
    (m.observe o).1.phase = .ended ↔ (jobFailure? m.owner o).isSome := by
  unfold observe reports settle
  simp only [hd]
  cases jobFailure? m.owner o <;> simp

end Monitor

namespace Vigil

open Monitor (jobFailure? Amiss Tells)

variable {i : Instance} {nodes : List String} {capacity : Nat} {v v' : Vigil} {e : Event}
  {events : List Event}

/-! ### Waking -/

/-- Whether the monitor wakes. -/
def Event.isWake : Event → Bool
  | .wake => true
  | _ => false

/-- How often the monitor has woken. -/
def wakings (events : List Event) : Nat := events.countP Event.isWake

theorem wakings_concat_wake : wakings (events ++ [.wake]) = wakings events + 1 := List.countP_append

theorem wakings_concat_of_ne (h : e ≠ .wake) : wakings (events ++ [e]) = wakings events := by
  rw [wakings, List.countP_append]
  cases e with
  | wake => exact absurd rfl h
  | answer | send | cleanUp | take | leave => rfl

/-- How often a monitor has woken, and how long it has slept for that. -/
structure Awake (i : Instance) (start : Vigil) (events : List Event) (v : Vigil) : Prop where
  /-- It looks whenever it wakes. -/
  looks : ¬ Dismissed events → (start.looks events).length = wakings events
  /-- Only when it is dismissed it does not. -/
  dismissed : Dismissed events → (start.looks events).length + 1 = wakings events
  /-- It sleeps one interval each time. -/
  slept : v.slept = wakings events * i.settings.interval

private theorem awake_start : Awake i (start i nodes capacity) [] (start i nodes capacity) where
  looks _ := rfl
  dismissed h := nomatch h
  slept := (Nat.zero_mul _).symm

private theorem Awake.step {v₀ : Vigil} (h : Awake i v₀ events v) (hr : v₀.run? events = some v)
    (recalled : Recalled i capacity events v) (carried : Carried v₀ events v)
    (he : v.step? e = some v') : Awake i v₀ (events ++ [e]) v' := by
  obtain ⟨looks, dismissed, slept⟩ := h
  cases move_of_step? he with
  | woke asleep =>
    have hkept : ¬ Dismissed events := fun hd => nomatch asleep.1.symm.trans (carried.dismissed hd).1
    have hdismissed : Dismissed (events ++ [.wake]) ↔ v.cleaned = true := by
      rw [dismissed_concat_wake, or_iff_right hkept, recalled.cleaned]
    have hlooks := congrArg List.length (looks_concat_wake hr he)
    rw [List.length_append, looks hkept] at hlooks
    constructor
    · intro kept
      rw [hlooks, if_neg (mt hdismissed.mpr kept), wakings_concat_wake]
      rfl
    · intro hd
      rw [hlooks, if_pos (hdismissed.mp hd), wakings_concat_wake]
      rfl
    · rw [wakings_concat_wake, Nat.succ_mul, ← slept, ← recalled.owner]
  | answered | sent | refused | cleanedUp | took | left =>
    refine ⟨?_, ?_, ?_⟩ <;> rw [wakings_concat_of_ne (by nofun)]
    · rw [looks_concat_of_ne hr he (by nofun), dismissed_concat_of_ne (by nofun)]
      exact looks
    · rw [looks_concat_of_ne hr he (by nofun), dismissed_concat_of_ne (by nofun)]
      exact dismissed
    · exact slept

/-- Every monitor sleeps before it wakes. -/
theorem awake_run (h : (start i nodes capacity).run? events = some v) :
    Awake i (start i nodes capacity) events v :=
  Machine.run?_induction (P := Awake i (start i nodes capacity)) awake_start
    (fun _ _ _ _ hs ih he => ih.step hs (recalled_run hs) (carried_run hs) he) h

/-- An instance that has been cleaned up stays so, and its monitor begins no further look. -/
theorem looks_of_cleaned (cleaned : v.cleaned = true) (events : List Event) : v.looks events = [] := by
  induction events generalizing v with
  | nil => rfl
  | cons e events ih =>
    unfold looks Machine.history
    cases he : v.step? e with
    | none => rfl
    | some v' =>
      have hcleaned : v'.cleaned = true := by
        cases move_of_step? he with
        | cleanedUp => rfl
        | woke | answered | sent | refused | took | left => exact cleaned
      have hrest := ih hcleaned
      cases e with
      | wake =>
        dsimp only
        rw [if_pos cleaned]
        exact hrest
      | answer | send | cleanUp | take | leave => exact hrest

/-- All looks of a run have been begun before its instance was cleaned up. -/
theorem looks_of_split {v₀ : Vigil} {early late : List Event}
    (h : v₀.run? (early ++ .cleanUp :: late) = some v) :
    v₀.looks (early ++ .cleanUp :: late) = v₀.looks early := by
  rw [run?, Machine.run?_append] at h
  obtain ⟨w, hw, -⟩ := Option.bind_eq_some_iff.mp h
  have hlate : w.looks (.cleanUp :: late) = [] := looks_of_cleaned (v := { w with cleaned := true }) rfl late
  rw [looks, Machine.history_append _ _ hw]
  exact (congrArg (v₀.looks early ++ ·) hlate).trans (List.append_nil _)

/-! ### What it finds -/

/-- What the monitor of a job has made of the answers. -/
structure Probed (i : Instance) (start : Vigil) (events : List Event) (v : Vigil) : Prop where
  /-- It reports whatever it finds amiss. -/
  raised : start.raised events = (answers events).filterMap (jobFailure? i)
  /-- Nothing has been amiss before the last answer. -/
  before : ∀ o ∈ (answers events).dropLast, jobFailure? i o = none
  /-- It is at its end when it has found something, was dismissed or was not heard. -/
  ended : v.monitor.phase = .ended ↔
    (∃ o ∈ answers events, (jobFailure? i o).isSome) ∨ Dismissed events ∨ Unheard events

/-- A monitor that has not ended has found nothing amiss. -/
theorem Probed.well {v₀ : Vigil} (h : Probed i v₀ events v) (alive : v.monitor.phase ≠ .ended) :
    ∀ o ∈ answers events, jobFailure? i o = none := by
  intro o ho
  rw [← Option.not_isSome_iff_eq_none]
  exact fun hsome => alive (h.ended.mpr (.inl ⟨o, ho, hsome⟩))

private theorem probed_start (hd : i.definition.driver = .job) :
    Probed i (start i nodes capacity) [] (start i nodes capacity) where
  raised := rfl
  before _ ho := nomatch ho
  ended := by simp [start, Monitor.start, hd, answers, Dismissed, Unheard]

private theorem Probed.step {v₀ : Vigil} (h : Probed i v₀ events v) (hr : v₀.run? events = some v)
    (hd : i.definition.driver = .job) (recalled : Recalled i capacity events v)
    (he : v.step? e = some v') : Probed i v₀ (events ++ [e]) v' := by
  have hdriver : v.monitor.owner.definition.driver = .job := recalled.owner ▸ hd
  cases hanswer : e.answer? with
  | none =>
    have hanswers : answers (events ++ [e]) = answers events := by
      rw [answers_concat, hanswer, Option.toList_none, List.append_nil]
    constructor
    · rw [raised_concat_of_quiet hr he hanswer, hanswers, h.raised]
    · rw [hanswers]
      exact h.before
    · rw [hanswers]
      refine ended_step h.ended recalled he (fun _ => Iff.rfl) ?_
      rintro o rfl
      cases hanswer
  | some o =>
    obtain rfl : e = .answer o := by
      cases e with
      | answer o' => exact congrArg _ (Option.some.inj hanswer)
      | wake | send | cleanUp | take | leave => cases hanswer
    cases move_of_step? he with
    | answered o looking =>
      have hwell := h.well (by rw [looking]; exact MonitorPhase.noConfusion)
      have hanswers : answers (events ++ [.answer o]) = answers events ++ [o] := answers_concat _ _
      constructor
      · rw [raised_concat_answer hr he, hanswers, List.filterMap_append, h.raised,
          Monitor.observe_job hdriver, recalled.owner]
        cases hf : jobFailure? i o <;> simp [hf]
      · rw [hanswers, List.dropLast_concat]
        exact hwell
      · refine ended_step h.ended recalled he nofun ?_
        rintro o' ⟨⟩
        rw [Monitor.phase_observe_job hdriver, recalled.owner, hanswers]
        constructor
        · exact fun hsome => ⟨o, List.mem_append_right _ (List.mem_singleton_self o), hsome⟩
        · rintro ⟨o', ho', hsome⟩
          rcases List.mem_append.mp ho' with hbefore | hnow
          · rw [hwell o' hbefore] at hsome
            cases hsome
          · rwa [List.mem_singleton.mp hnow] at hsome

/-- In every run the monitor of a job makes this of the answers. -/
theorem probed_run (hd : i.definition.driver = .job)
    (h : (start i nodes capacity).run? events = some v) :
    Probed i (start i nodes capacity) events v :=
  Machine.run?_induction (P := Probed i (start i nodes capacity)) (probed_start hd)
    (fun _ _ _ _ hs ih he => ih.step hs hd (recalled_run hs) he) h

/-- Of several answers among which nothing is amiss but perhaps in the last one, only that one counts. -/
private theorem filterMap_of_before {answers : List Observation}
    (before : ∀ o ∈ answers.dropLast, jobFailure? i o = none) :
    answers.filterMap (jobFailure? i) = (answers.getLast?.bind (jobFailure? i)).toList := by
  rcases List.eq_nil_or_concat answers with rfl | ⟨front, o, rfl⟩
  · rfl
  · rw [List.concat_eq_append, List.dropLast_concat] at before
    rw [List.concat_eq_append, List.filterMap_append, List.filterMap_eq_nil_iff.mpr before, List.nil_append,
      List.getLast?_concat, Option.bind_some]
    cases hf : jobFailure? i o <;> simp [hf]

/-- What has been sent or is about to be is the report of the last answer, if there is one. -/
private theorem Probed.reports {v₀ : Vigil} (h : Probed i v₀ events v) (carried : Carried v₀ events v)
    (hheard : ¬ Unheard events) :
    v.sent ++ v.pending = ((answers events).getLast?.bind (jobFailure? i)).toList := by
  rw [carried.whole hheard, h.raised, filterMap_of_before h.before]

/-- Something that is amiss is so in the last answer. -/
private theorem Probed.last {v₀ : Vigil} (h : Probed i v₀ events v) {k : Nat} {o : Observation}
    (at_k : (answers events)[k]? = some o) (found : (jobFailure? i o).isSome) :
    k + 1 = (answers events).length := by
  obtain ⟨hlt, hk⟩ := List.getElem?_eq_some_iff.mp at_k
  by_contra hne
  have hfront : k < (answers events).dropLast.length := by
    rw [List.length_dropLast]
    omega
  have hmem : o ∈ (answers events).dropLast := by
    rw [← hk, ← List.getElem_dropLast hfront]
    exact List.getElem_mem hfront
  rw [h.before o hmem] at found
  cases found

/-! ### The whole watch -/

/-- What the monitor of a job does as long as its reports are read. -/
structure SoleReport (i : Instance) (capacity : Nat) (start : Vigil) (events : List Event) (v : Vigil) :
    Prop where
  /-- It has no more than one report to send. -/
  once : (v.sent ++ v.pending).length ≤ 1
  /-- It sends one exactly if an answer shows something amiss. -/
  sent : v.pending = [] → (v.sent ≠ [] ↔ ∃ o ∈ answers events, Amiss o)
  /-- The report tells of the first such answer, behind which there is none. -/
  first : ∀ r ∈ v.sent ++ v.pending, ∃ before o, answers events = before ++ [o] ∧
    (∀ p ∈ before, ¬ Amiss p) ∧ Tells i o r
  /-- It has looked as often as it takes to get there. -/
  reached : ∀ (k : Nat) o, (answers events)[k]? = some o → Amiss o →
    (start.looks events).length = k + 1
  /-- It looks whenever it wakes. -/
  due : ¬ Dismissed events → (start.looks events).length = wakings events
  /-- Only when it wakes after the instance was cleaned up it does not. -/
  dismissed : Dismissed events → (start.looks events).length + 1 = wakings events
  /-- It has begun no look since the instance was cleaned up. -/
  recalled : ∀ early late, events = early ++ .cleanUp :: late → start.looks events = start.looks early
  /-- It has slept one interval more before each look, and each look but the last has been answered. -/
  paced : start.looks events =
    (List.range (begun events v.monitor.phase)).map fun k => (k + 1) * i.settings.interval
  /-- It has slept no longer than that, but for the time when it was dismissed. -/
  slept : v.slept = wakings events * i.settings.interval
  /-- It ends exactly when it has sent its report, or when it wakes after the instance was cleaned up. -/
  ended : v.HasEnded ↔ (∃ r, v.sent = [r]) ∨ Dismissed events
  /-- Until then it goes on, if there is room for a report: it can wake, or be given any answer, or send. -/
  goesOn : 0 < capacity → ¬ v.HasEnded →
    (v.step? .wake).isSome ∨ (∀ o, (v.step? (.answer o)).isSome) ∨ (v.step? .send).isSome

/-- A monitor that has not ended has something to do. -/
private theorem goesOn_of_once (once : (v.sent ++ v.pending).length ≤ 1) (room : 0 < v.capacity)
    (alive : ¬ v.HasEnded) :
    (v.step? .wake).isSome ∨ (∀ o, (v.step? (.answer o)).isSome) ∨ (v.step? .send).isSome := by
  cases hpending : v.pending with
  | cons r rest =>
    rw [hpending, List.length_append, List.length_cons] at once
    have hroom : v.sent.length - v.taken < v.capacity := by omega
    refine .inr (.inr ?_)
    simp only [step?, hpending]
    rw [if_pos fun _ => hroom]
    rfl
  | nil =>
    cases hphase : v.monitor.phase with
    | asleep =>
      refine .inl ?_
      rw [step?, if_pos ⟨hphase, hpending⟩]
      rfl
    | looking =>
      refine .inr (.inl fun o => ?_)
      rw [step?, if_pos hphase]
      rfl
    | ended => exact absurd ⟨hphase, hpending⟩ alive

/-- Whatever the cluster answers, and whenever the instance is cleaned up, the monitor of a job whose reports
are read sends one report at most, on the first answer that shows something amiss, and looks neither after
that nor after the clean-up. -/
theorem soleReport_run (hd : i.definition.driver = .job)
    (h : (start i nodes capacity).run? events = some v) (heard : v.heard = true) :
    SoleReport i capacity (start i nodes capacity) events v := by
  have recalled := recalled_run h
  have carried := carried_run h
  have probed := probed_run hd h
  have paced := paced_run h
  have awake := awake_run h
  have hheard := recalled.not_unheard heard
  have reports := probed.reports carried hheard
  have once : (v.sent ++ v.pending).length ≤ 1 := by
    rw [reports]
    exact Option.length_toList_le
  have found : v.sent ++ v.pending ≠ [] ↔ ∃ o ∈ answers events, Amiss o := by
    rw [carried.whole hheard, probed.raised, Ne, List.filterMap_eq_nil_iff]
    simp only [← Monitor.isSome_jobFailure?_iff (i := i), Option.isSome_iff_ne_none, not_forall,
      exists_prop]
  have ended : v.monitor.phase = .ended ↔ (∃ o ∈ answers events, Amiss o) ∨ Dismissed events := by
    rw [probed.ended, or_iff_left hheard]
    simp only [Monitor.isSome_jobFailure?_iff]
  constructor
  case once => exact once
  case sent =>
    intro hpending
    rwa [hpending, List.append_nil] at found
  case first =>
    intro r hr
    rw [reports, Option.mem_toList, Option.bind_eq_some_iff] at hr
    obtain ⟨o, hlast, hr⟩ := hr
    obtain ⟨before, hanswers⟩ := List.getLast?_eq_some_iff.mp hlast
    refine ⟨before, o, hanswers, fun p hp => ?_, Monitor.jobFailure?_eq_some_iff.mp hr⟩
    have hbefore := probed.before
    rw [hanswers, List.dropLast_concat] at hbefore
    rw [← Monitor.isSome_jobFailure?_iff (i := i), hbefore p hp]
    exact Bool.false_ne_true
  case reached =>
    intro k o at_k amiss
    have hended := ended.mpr (.inl ⟨o, List.mem_of_getElem? at_k, amiss⟩)
    rw [paced.looks, List.length_map, List.length_range, begun_of_ne (by rw [hended]; nofun)]
    exact (probed.last at_k (Monitor.isSome_jobFailure?_iff.mpr amiss)).symm
  case due => exact awake.looks
  case dismissed => exact awake.dismissed
  case recalled =>
    rintro early late rfl
    exact looks_of_split h
  case paced => exact paced.looks
  case slept => exact awake.slept
  case ended =>
    constructor
    · rintro ⟨hphase, hpending⟩
      refine (ended.mp hphase).imp_left fun amiss => ?_
      have hne := found.mpr amiss
      rw [hpending, List.append_nil] at hne once
      exact List.length_eq_one_iff.mp (Nat.le_antisymm once (List.length_pos_iff.mpr hne))
    · rintro (⟨r, hr⟩ | hd)
      · have hne : v.sent ++ v.pending ≠ [] := by simp [hr]
        refine ⟨ended.mpr (.inl (found.mp hne)), ?_⟩
        rw [hr, List.length_append, List.length_singleton] at once
        exact List.eq_nil_of_length_eq_zero (by omega)
      · exact carried.dismissed hd
  case goesOn => exact fun room => goesOn_of_once once (recalled.capacity ▸ room)

/-- A unit whose one container has been started again this often. -/
def restartedUnit (restarts : Nat) : ExecutionUnit := ⟨"u", some "n", [], [⟨"c", restarts, none⟩]⟩

/-- The unit of a job is healthy twice and then restarts once too often, just before the instance is cleaned
up. -/
def crashLoop : List Event :=
  [.wake, .answer (.ok [restartedUnit 0]), .wake, .answer (.ok [restartedUnit 2]), .wake,
    .answer (.ok [restartedUnit 3]), .cleanUp, .send, .take]

/-- The monitor has then looked three times, reported the restarts and ended. -/
theorem soleReport_crashLoop :
    ∃ v, (start Withdrawal.soleJob [] 1).run? crashLoop = some v ∧ v.heard = true ∧ v.HasEnded ∧
      ((start Withdrawal.soleJob [] 1).looks crashLoop).length = 3 ∧
      ∃ r, v.sent = [r] ∧ Tells Withdrawal.soleJob (.ok [restartedUnit 3]) r := by
  have hsome : ((start Withdrawal.soleJob [] 1).run? crashLoop).isSome = true := rfl
  have watched := soleReport_run rfl (Option.some_get hsome).symm rfl
  have amiss : Amiss (.ok [restartedUnit 3]) := .failing _ rfl
  have hends : ((start Withdrawal.soleJob [] 1).run? crashLoop).get hsome |>.HasEnded := ⟨rfl, rfl⟩
  refine ⟨_, (Option.some_get hsome).symm, rfl, hends, watched.reached 2 _ rfl amiss, ?_⟩
  have hsent : ∃ r, (((start Withdrawal.soleJob [] 1).run? crashLoop).get hsome).sent = [r] := ⟨_, rfl⟩
  obtain ⟨r, hr⟩ := hsent
  obtain ⟨before, o, hanswers, -, htells⟩ :=
    watched.first r (List.mem_append_left _ (hr ▸ List.mem_singleton_self r))
  have hsplit : [.ok [restartedUnit 0], .ok [restartedUnit 2]] ++ [.ok [restartedUnit 3]] =
      before ++ [o] := hanswers
  obtain ⟨-, ho⟩ := List.append_inj' hsplit rfl
  cases ho
  exact ⟨r, hr, htells⟩

end Vigil

end ClusterSurvey

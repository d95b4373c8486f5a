import ClusterSurvey.Plugin.Withdrawal
import ClusterSurvey.Proofs.Collector.Counting

/-!
# What a clean-up does to a monitor

The clean-up marks an instance before its units are deleted, and a monitor that wakes after that ends
without a look.  So only a look that was begun before can find the units gone.  To the monitor of a
daemon set that is nothing; the monitor of a job reports the unit that it misses.
-/

namespace ClusterSurvey

/-- Whether these units are what a healthy instance shows: none of them fails, and a job has one. -/
def Instance.AllWell (i : Instance) (units : List ExecutionUnit) : Prop :=
  (∀ u ∈ units, u.failure? = none) ∧ (i.definition.driver = .job → units.length = 1)

instance (i : Instance) (units : List ExecutionUnit) : Decidable (i.AllWell units) := by
  unfold Instance.AllWell
  infer_instance

namespace Monitor

/-- The report of a job's monitor that finds no unit. -/
def missing (i : Instance) : LocalResult := .failure (jobKey i) "expected 1 unit, found 0" none

private theorem nodeFailures_of_well {i : Instance} {nodes reported : List String}
    {units : List ExecutionUnit} (well : ∀ u ∈ units, u.failure? = none) :
    nodeFailures i nodes reported units = [] := by
  induction units with
  | nil => rfl
  | cons u us ih =>
    have hnone : nodeFailure? i nodes reported u = none := by
      have hu := well u List.mem_cons_self
      unfold nodeFailure?
      cases u.node with
      | none => rfl
      | some node => simp [hu]
    rw [nodeFailures, hnone]
    exact ih fun x hx => well x (List.mem_cons_of_mem u hx)

/-- Healthy units give no rise to reports. -/
theorem reports_of_allWell {m : Monitor} {units : List ExecutionUnit}
    (well : m.owner.AllWell units) : m.reports (.ok units) = [] := by
  unfold reports
  cases hd : m.owner.definition.driver with
  | job =>
    obtain ⟨u, rfl⟩ := List.length_eq_one_iff.mp (well.2 hd)
    have hu := well.1 u (List.mem_singleton.mpr rfl)
    simp [jobFailure?, hu]
  | daemonSet => exact nodeFailures_of_well well.1

/-- The monitor of a daemon set does not report that units are missing. -/
theorem reports_of_gone_daemonSet {m : Monitor} (hd : m.owner.definition.driver = .daemonSet) :
    m.reports (.ok []) = [] := by
  unfold reports
  rw [hd]
  rfl

/-- The monitor of a job reports that its unit is missing. -/
theorem reports_of_gone_job {m : Monitor} (hd : m.owner.definition.driver = .job) :
    m.reports (.ok []) = [("", missing m.owner)] := by
  unfold reports
  rw [hd]
  rfl

/-- An answer leaves a monitor with its instance. -/
theorem owner_observe (m : Monitor) (o : Observation) : (m.observe o).1.owner = m.owner := by
  unfold observe settle
  dsimp only
  split <;> rfl

end Monitor

namespace Withdrawal

open Monitor (missing jobKey)

variable {i : Instance} {nodes : List String} {w w' : Withdrawal} {e : Event} {events : List Event}

/-- Whether the cluster shows the instance as it is: all well until the deletion of its units has taken
effect, and nothing from then on.  An answer from before may arrive after it. -/
def Shows (w : Withdrawal) : Event → Prop
  | .answer (.ok units) => w.owner.AllWell units ∨ (units = [] ∧ w.gone = true)
  | .answer (.error _) => False
  | _ => True

instance (w : Withdrawal) : ∀ e, Decidable (Shows w e)
  | .answer (.ok units) =>
    inferInstanceAs (Decidable (w.owner.AllWell units ∨ (units = [] ∧ w.gone = true)))
  | .answer (.error _) => .isFalse id
  | .wake | .mark | .ask | .vanish => .isTrue trivial

/-- Whether the units are not deleted under the eyes of the monitor. -/
def Unseen (w : Withdrawal) : Event → Prop
  | .vanish => w.monitor.phase ≠ .looking
  | _ => True

instance (w : Withdrawal) : ∀ e, Decidable (Unseen w e)
  | .vanish => inferInstanceAs (Decidable (w.monitor.phase ≠ .looking))
  | .wake | .answer _ | .mark | .ask => .isTrue trivial

/-- A state that an event makes of a state. -/
inductive Move (w : Withdrawal) : Event → Withdrawal → Prop where
  /-- The monitor wakes. -/
  | woke (asleep : w.monitor.phase = .asleep) :
      Move w .wake { w with monitor := w.monitor.wake w.cleaned }
  /-- The cluster answers the monitor. -/
  | answered (o : Observation) (looking : w.monitor.phase = .looking) :
      Move w (.answer o)
        { w with monitor := (w.monitor.observe o).1, sent := w.sent ++ (w.monitor.observe o).2 }
  /-- The instance is marked. -/
  | marked : Move w .mark { w with cleaned := true, due := w.due ++ w.owner.cleanup w.cleaned }
  /-- The cluster is asked for what was due. -/
  | asked (call : ClusterCall) (rest : List ClusterCall) (due : w.due = call :: rest) :
      Move w .ask { w with due := rest, made := w.made ++ [call] }
  /-- The units are gone. -/
  | vanished (asked : w.isAsked = true) : Move w .vanish { w with gone := true }

/-- Every event that can happen is one of the moves. -/
theorem move_of_step? (h : w.step? e = some w') : Move w e w' := by
  cases e with
  | wake =>
    simp only [step?] at h
    split at h
    · next asleep =>
      cases h
      exact .woke asleep
    · cases h
  | answer o =>
    simp only [step?] at h
    split at h
    · next looking =>
      cases h
      exact .answered o looking
    · cases h
  | mark =>
    cases h
    exact .marked
  | ask =>
    simp only [step?] at h
    split at h
    · next call rest due =>
      cases h
      exact .asked call rest due
    · cases h
  | vanish =>
    simp only [step?] at h
    split at h
    · next hv =>
      cases h
      exact .vanished hv.1
    · cases h

/-! ### The mark comes first -/

/-- How the clean-up goes on: nothing is due, made or gone before the instance is marked. -/
structure Marked (i : Instance) (w : Withdrawal) : Prop where
  owner : w.owner = i
  due : w.due ≠ [] → w.cleaned = true
  made : w.made ≠ [] → w.cleaned = true
  gone : w.gone = true → w.cleaned = true

/-- Nothing has been done at the start. -/
theorem marked_start (i : Instance) (nodes : List String) : Marked i (start i nodes) where
  owner := by
    unfold owner start Monitor.start
    dsimp only
    split <;> rfl
  due h := absurd rfl h
  made h := absurd rfl h
  gone h := by cases h

/-- Every event keeps to the order. -/
theorem Marked.move (h : Marked i w) (m : Move w e w') : Marked i w' := by
  cases m with
  | woke asleep => exact ⟨h.owner, h.due, h.made, h.gone⟩
  | answered o looking => exact ⟨(w.monitor.owner_observe o).trans h.owner, h.due, h.made, h.gone⟩
  | marked => exact ⟨h.owner, fun _ => rfl, fun _ => rfl, fun _ => rfl⟩
  | asked call rest due =>
    have hcleaned : w.cleaned = true := h.due (by rw [due]; exact List.cons_ne_nil call rest)
    exact ⟨h.owner, fun _ => hcleaned, fun _ => hcleaned, fun _ => hcleaned⟩
  | vanished asked =>
    have hmade : w.made ≠ [] := List.ne_nil_of_mem (of_decide_eq_true asked)
    exact ⟨h.owner, h.due, h.made, fun _ => h.made hmade⟩

/-- In every run the instance is marked first. -/
theorem marked_run (h : (start i nodes).run? events = some w) : Marked i w :=
  Machine.run?_induction (P := fun _ w => Marked i w) (marked_start i nodes)
    (fun _ _ _ _ _ ih he => ih.move (move_of_step? he)) h

/-! ### Reports -/

/-- What a monitor has sent whose cluster shows the instance as it is: nothing, or that a job's unit is
missing, and then it has ended. -/
def Spoken (i : Instance) (w : Withdrawal) : Prop :=
  w.sent = [] ∨ (i.definition.driver = .job ∧ w.gone = true ∧ w.sent = [missing i] ∧
    w.monitor.phase = .ended)

private theorem Spoken.sent_of_phase (h : Spoken i w) (alive : w.monitor.phase ≠ .ended) :
    w.sent = [] :=
  h.resolve_right fun hs => alive hs.2.2.2

/-- A monitor is left alone by an answer that gives no rise to a report. -/
private theorem observe_of_reports_nil {m : Monitor} {o : Observation} (h : m.reports o = []) :
    (m.observe o).2 = [] := by
  rw [Monitor.observe, h]
  rfl

private theorem observe_of_gone_job {m : Monitor} (hd : m.owner.definition.driver = .job) :
    (m.observe (.ok [])).2 = [missing m.owner] ∧ (m.observe (.ok [])).1.phase = .ended := by
  rw [Monitor.observe, Monitor.reports_of_gone_job hd]
  refine ⟨rfl, ?_⟩
  simp [Monitor.settle, hd]

/-- What a monitor has sent when a cluster that shows the instance as it is has answered it. -/
private theorem sent_answered {units : List ExecutionUnit} (h : Spoken i w) (marked : Marked i w)
    (looking : w.monitor.phase = .looking) (shows : Shows w (.answer (.ok units))) :
    w.sent ++ (w.monitor.observe (.ok units)).2 =
      if i.definition.driver = .job ∧ units = [] then [missing i] else [] := by
  have hsent := h.sent_of_phase (by rw [looking]; exact MonitorPhase.noConfusion)
  have howner : w.monitor.owner = i := marked.owner
  rw [hsent, List.nil_append]
  rcases shows with well | ⟨rfl, -⟩
  · rw [observe_of_reports_nil (Monitor.reports_of_allWell well), if_neg]
    rintro ⟨hd, rfl⟩
    cases well.2 (marked.owner ▸ hd)
  · cases hd : i.definition.driver with
    | job =>
      rw [(observe_of_gone_job (howner ▸ hd)).1, howner, if_pos ⟨rfl, rfl⟩]
    | daemonSet =>
      rw [observe_of_reports_nil (Monitor.reports_of_gone_daemonSet (howner ▸ hd)),
        if_neg fun hjob => by cases hjob.1]

/-- Every event leaves it at that. -/
theorem Spoken.move (h : Spoken i w) (marked : Marked i w) (m : Move w e w') (shows : Shows w e) :
    Spoken i w' := by
  cases m with
  | woke asleep =>
    exact .inl (h.sent_of_phase (by rw [asleep]; exact MonitorPhase.noConfusion))
  | answered o looking =>
    cases o with
    | error err => exact shows.elim
    | ok units =>
      have hsent := sent_answered h marked looking shows
      by_cases hmissing : i.definition.driver = .job ∧ units = []
      · rw [if_pos hmissing] at hsent
        obtain ⟨hd, rfl⟩ := hmissing
        have howner : w.monitor.owner = i := marked.owner
        -- A job that is well has a unit, so its unit is gone.
        have hgone : w.gone = true := by
          rcases shows with well | ⟨-, gone⟩
          · cases well.2 (marked.owner ▸ hd)
          · exact gone
        exact .inr ⟨hd, hgone, hsent, (observe_of_gone_job (howner ▸ hd)).2⟩
      · exact .inl (hsent.trans (if_neg hmissing))
  | marked => exact h
  | asked call rest due => exact h
  | vanished asked => exact h.imp_right fun ⟨hd, _, hs, hp⟩ => ⟨hd, rfl, hs, hp⟩

/-- No monitor of a run whose cluster shows the instance as it is says more. -/
theorem spoken_run (h : (start i nodes).run? events = some w)
    (shows : Machine.Along step? Shows (start i nodes) events) : Spoken i w := by
  revert shows
  refine Machine.run?_induction
    (P := fun es w => Machine.Along step? Shows (start i nodes) es → Spoken i w)
    (fun _ => .inl rfl) ?_ h
  intro es s e s' hs ih he shows
  obtain ⟨hbefore, hnow⟩ := (Machine.along_concat hs).mp shows
  exact (ih hbefore).move (marked_run hs) (move_of_step? he) hnow

/-- A report is sent by an answer that shows a job's monitor no unit, and by no other event. -/
theorem sent_move (h : Spoken i w) (marked : Marked i w) (m : Move w e w') (shows : Shows w e) :
    w'.sent ≠ [] ↔ w.sent ≠ [] ∨ (i.definition.driver = .job ∧ .answer (.ok []) = e) := by
  cases m with
  | answered o looking =>
    cases o with
    | error err => exact shows.elim
    | ok units =>
      have hsent := h.sent_of_phase (by rw [looking]; exact MonitorPhase.noConfusion)
      show w.sent ++ (w.monitor.observe (.ok units)).2 ≠ [] ↔ _
      rw [sent_answered h marked looking shows]
      simp [hsent, eq_comm]
  | woke | marked | asked | vanished => simp

/-- The monitor of a run has sent something exactly if it is a job's, and an answer has shown it no
unit. -/
theorem sent_iff_run (h : (start i nodes).run? events = some w)
    (shows : Machine.Along step? Shows (start i nodes) events) :
    w.sent ≠ [] ↔ i.definition.driver = .job ∧ .answer (.ok []) ∈ events := by
  revert shows
  refine Machine.run?_induction
    (P := fun es w => Machine.Along step? Shows (start i nodes) es →
      (w.sent ≠ [] ↔ i.definition.driver = .job ∧ .answer (.ok []) ∈ es))
    (fun _ => by simp [start]) ?_ h
  intro es s e s' hs ih he shows
  obtain ⟨hbefore, hnow⟩ := (Machine.along_concat hs).mp shows
  rw [sent_move (spoken_run hs hbefore) (marked_run hs) (move_of_step? he) hnow, ih hbefore,
    List.mem_append, List.mem_singleton, and_or_left]

/-- What a monitor has sent from which the deletion of the units was hidden: nothing, and it does not
look at the units any more when they are gone. -/
structure Silent (w : Withdrawal) : Prop where
  sent : w.sent = []
  gone : w.gone = true → w.monitor.phase ≠ .looking

/-- Every event leaves it silent. -/
theorem Silent.move (h : Silent w) (marked : Marked i w) (m : Move w e w') (shows : Shows w e)
    (unseen : Unseen w e) : Silent w' := by
  cases m with
  | woke asleep =>
    refine ⟨h.sent, fun gone => ?_⟩
    -- The units are gone, so the instance was marked before, and the monitor ends without a look.
    have hcleaned := marked.gone gone
    simp [hcleaned]
  | answered o looking =>
    have hthere : w.gone ≠ true := fun gone => h.gone gone looking
    cases o with
    | error err => exact shows.elim
    | ok units =>
      rcases shows with well | ⟨-, gone⟩
      · refine ⟨?_, fun gone => absurd gone hthere⟩
        show w.sent ++ (w.monitor.observe (.ok units)).2 = []
        rw [h.sent, observe_of_reports_nil (Monitor.reports_of_allWell well)]
        rfl
      · exact absurd gone hthere
  | marked => exact ⟨h.sent, h.gone⟩
  | asked call rest due => exact ⟨h.sent, h.gone⟩
  | vanished asked => exact ⟨h.sent, fun _ => unseen⟩

/-- It is silent in every such run. -/
theorem silent_run (h : (start i nodes).run? events = some w)
    (shows : Machine.Along step? Shows (start i nodes) events)
    (unseen : Machine.Along step? Unseen (start i nodes) events) : Silent w := by
  revert shows unseen
  refine Machine.run?_induction
    (P := fun es w => Machine.Along step? Shows (start i nodes) es →
      Machine.Along step? Unseen (start i nodes) es → Silent w)
    (fun _ _ => ⟨rfl, fun gone => by cases gone⟩) ?_ h
  intro es s e s' hs ih he shows unseen
  obtain ⟨hbefore, hnow⟩ := (Machine.along_concat hs).mp shows
  obtain ⟨ubefore, unow⟩ := (Machine.along_concat hs).mp unseen
  exact (ih hbefore ubefore).move (marked_run hs) (move_of_step? he) hnow unow

/-- What comes of cleaning up an instance that is watched. -/
structure Harmless (i : Instance) (nodes : List String) (events : List Event) (w : Withdrawal) :
    Prop where
  /-- The monitor of a daemon set reports nothing. -/
  daemonSet : i.definition.driver = .daemonSet → w.sent = []
  /-- A monitor that does not wait for an answer when the units go reports nothing. -/
  unseen : Machine.Along step? Unseen (start i nodes) events → w.sent = []
  /-- A monitor that reports anything reports once, that the unit of its job is missing, and ends. -/
  once : w.sent ≠ [] → i.definition.driver = .job ∧ w.sent = [missing i] ∧ w.cleaned = true ∧
    w.gone = true ∧ w.monitor.phase = .ended
  /-- It reports exactly if it is a job's and an answer has shown it no unit. -/
  exactly : w.sent ≠ [] ↔ i.definition.driver = .job ∧ .answer (.ok []) ∈ events
  /-- Where no failure comes but from the monitor, no key fails but that of the job, by this report. -/
  failed : ∀ root expected happenings c,
    (Collector.start root expected).run? happenings = some c →
    (∀ k body mark, .openResult k true body mark ∈ happenings →
      ∃ x ∈ w.sent, x.key = k ∧ x.body = body) →
    ∀ k, c.ledger.status.get? k = some .failed → w.sent = [missing i] ∧ k = jobKey i

/-- However the steps of a monitor, of the clean-up and of the cluster follow each other, the clean-up
of a healthy instance gives rise to no failure, but for the job whose monitor waits for an answer when
its unit goes, and which this answer then shows no unit. -/
theorem harmless_run (h : (start i nodes).run? events = some w)
    (shows : Machine.Along step? Shows (start i nodes) events) : Harmless i nodes events w := by
  have spoken := spoken_run h shows
  have marked := marked_run h
  constructor
  · intro hd
    refine spoken.resolve_right fun hs => ?_
    rw [hd] at hs
    cases hs.1
  · exact fun unseen => (silent_run h shows unseen).sent
  · intro hsent
    obtain ⟨hd, gone, hmissing, hphase⟩ := spoken.resolve_left hsent
    exact ⟨hd, hmissing, marked.gone gone, gone, hphase⟩
  · exact sent_iff_run h shows
  · intro root expected happenings c hc own k hk
    obtain ⟨body, mark, hopened⟩ := Collector.opened_of_failed hc hk
    obtain ⟨x, hx, hkey, -⟩ := own k body mark hopened
    obtain ⟨-, -, hmissing, -⟩ := spoken.resolve_left (List.ne_nil_of_mem hx)
    rw [hmissing] at hx
    obtain rfl := List.mem_singleton.mp hx
    exact ⟨hmissing, hkey.symm⟩

/-- A job. -/
def soleJob : Instance := ⟨⟨"e2e", "e2e", .job, default⟩, "1", ⟨"sonde", "worker", 10000⟩⟩

/-- Its unit while it is healthy. -/
def healthyUnit : ExecutionUnit := ⟨"u", some "n", [], []⟩

/-- The cluster answers in time, and the monitor wakes when the unit is gone. -/
def answeredInTime : List Event :=
  [.wake, .mark, .ask, .answer (.ok [healthyUnit]), .vanish, .ask, .wake]

/-- The monitor has then reported nothing and ended. -/
theorem harmless_answeredInTime :
    ∃ w, (start soleJob []).run? answeredInTime = some w ∧ w.monitor.phase = .ended ∧ w.sent = [] := by
  have hsome : ((start soleJob []).run? answeredInTime).isSome = true := rfl
  have harmless := harmless_run (Option.some_get hsome).symm (by decide)
  exact ⟨_, (Option.some_get hsome).symm, rfl, harmless.unseen (by decide)⟩

/-- The unit is gone when the cluster answers the look that the monitor began before the clean-up. -/
def deletedUnderWay : List Event :=
  [.wake, .answer (.ok [healthyUnit]), .wake, .mark, .ask, .vanish, .ask, .answer (.ok [])]

/-- The monitor then reports the unit, and its key fails. -/
theorem failed_deletedUnderWay :
    ∃ w c, (start soleJob []).run? deletedUnderWay = some w ∧
      Machine.Along step? Shows (start soleJob []) deletedUnderWay ∧ w.sent = [missing soleJob] ∧
      (Collector.start "out" [jobKey soleJob]).run?
        [.openResult (jobKey soleJob) true (missing soleJob).body "000000", .commit 0, .record 0] =
          some c ∧
      c.ledger.status.get? (jobKey soleJob) = some .failed := by
  have hsome : ((start soleJob []).run? deletedUnderWay).isSome = true := rfl
  have hstatus : ((Collector.start "out" [jobKey soleJob]).run?
      [.openResult (jobKey soleJob) true (missing soleJob).body "000000", .commit 0, .record 0]).map
        (fun c => c.ledger.status.get? (jobKey soleJob)) = some (some .failed) := by
    decide +kernel
  obtain ⟨c, hc, hfailed⟩ := Option.map_eq_some_iff.mp hstatus
  exact ⟨_, c, (Option.some_get hsome).symm, by decide, rfl, hc, hfailed⟩

end Withdrawal

end ClusterSurvey

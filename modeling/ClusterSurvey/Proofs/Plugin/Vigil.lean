import ClusterSurvey.Plugin.Vigil
import ClusterSurvey.Proofs.Plugin.Failing

/-!
# What becomes of a look

Whatever happens around a monitor, the reports that its looks give rise to are sent in their order, and none
is left out unless the reader has gone.  A monitor ends when it has nothing more to report, when it wakes
after its instance was cleaned up, or when it has something to send and nobody reads it.

The monitor of a daemon set thereby reports each listed node once, for the first failing unit that an answer
shows there, as soon as one does.
-/

namespace ClusterSurvey.Vigil

variable {i : Instance} {nodes : List String} {capacity : Nat} {v v' : Vigil} {e : Event}
  {events : List Event}

/-! ### What has happened -/

/-- The answer that an event brings. -/
def Event.answer? : Event → Option Observation
  | .answer o => some o
  | _ => none

/-- The answers of the cluster in their order. -/
def answers (events : List Event) : List Observation := events.filterMap Event.answer?

/-- Whether the monitor woke after its instance had been cleaned up. -/
def Dismissed (events : List Event) : Prop := [.cleanUp, .wake].Sublist events

/-- Whether it had something to send after the reader had gone. -/
def Unheard (events : List Event) : Prop := [.leave, .send].Sublist events

/-- The reports to which the looks of a run give rise, in their order. -/
def raised (v : Vigil) (events : List Event) : List LocalResult :=
  Machine.history step? (fun v e => match e with
    | .answer o => (v.monitor.observe o).2
    | _ => []) v events

/-- How long the monitor of a run had slept at each of its looks. -/
def looks (v : Vigil) (events : List Event) : List Nat :=
  Machine.history step? (fun v e => match e with
    | .wake => if v.cleaned then [] else [v.slept + v.monitor.owner.settings.interval]
    | _ => []) v events

/-- One event follows on another in a longer run if it did so before, or if it is the last one. -/
private theorem sublist_concat_iff {a b : Event} :
    [a, b].Sublist (events ++ [e]) ↔ [a, b].Sublist events ∨ (a ∈ events ∧ b = e) := by
  have hreverse : [a, b].Sublist events ↔ [b, a].Sublist events.reverse := List.reverse_sublist.symm
  rw [← List.reverse_sublist, List.reverse_concat, hreverse]
  show [b, a].Sublist (e :: events.reverse) ↔ _
  rw [List.sublist_cons_iff]
  simp [and_comm]

theorem unheard_concat_send : Unheard (events ++ [.send]) ↔ Unheard events ∨ .leave ∈ events := by
  rw [Unheard, sublist_concat_iff, and_iff_left rfl]
  rfl

theorem unheard_concat_of_ne (h : e ≠ .send) :
    Unheard (events ++ [e]) ↔ Unheard events := by
  rw [Unheard, sublist_concat_iff, or_iff_left fun hlast => h hlast.2.symm]
  rfl

theorem dismissed_concat_wake :
    Dismissed (events ++ [.wake]) ↔ Dismissed events ∨ .cleanUp ∈ events := by
  rw [Dismissed, sublist_concat_iff, and_iff_left rfl]
  rfl

theorem dismissed_concat_of_ne (h : e ≠ .wake) :
    Dismissed (events ++ [e]) ↔ Dismissed events := by
  rw [Dismissed, sublist_concat_iff, or_iff_left fun hlast => h hlast.2.symm]
  rfl

/-! ### One event -/

/-- A state that an event makes of a state. -/
inductive Move (v : Vigil) : Event → Vigil → Prop where
  /-- The monitor wakes. -/
  | woke (asleep : v.IsAsleep) :
      Move v .wake { v with
        monitor := v.monitor.wake v.cleaned
        slept := v.slept + v.monitor.owner.settings.interval }
  /-- The cluster answers it. -/
  | answered (o : Observation) (looking : v.monitor.phase = .looking) :
      Move v (.answer o)
        { v with monitor := (v.monitor.observe o).1, pending := (v.monitor.observe o).2 }
  /-- A report finds room in the channel. -/
  | sent (r : LocalResult) (rest : List LocalResult) (pending : v.pending = r :: rest)
      (heard : v.heard = true) :
      Move v .send { v with pending := rest, sent := v.sent ++ [r] }
  /-- A report finds nobody who reads it. -/
  | refused (unheard : v.heard = false) (pending : v.pending ≠ []) :
      Move v .send { v with monitor := { v.monitor with phase := .ended }, pending := [] }
  /-- The instance is cleaned up. -/
  | cleanedUp : Move v .cleanUp { v with cleaned := true }
  /-- A report is taken. -/
  | took : Move v .take { v with taken := v.taken + 1 }
  /-- The reader goes away. -/
  | left : Move v .leave { v with heard := false }

/-- Every event that can happen is one of the moves. -/
theorem move_of_step? (h : v.step? e = some v') : Move v e v' := by
  cases e with
  | wake =>
    obtain ⟨asleep, h⟩ := Option.ite_none_right_eq_some.mp h
    cases h
    exact .woke asleep
  | answer o =>
    obtain ⟨looking, h⟩ := Option.ite_none_right_eq_some.mp h
    cases h
    exact .answered o looking
  | send =>
    simp only [step?] at h
    split at h
    · cases h
    · next r rest hpending =>
      obtain ⟨-, h⟩ := Option.ite_none_right_eq_some.mp h
      cases h
      unfold send
      split
      · next heard => exact .sent r rest hpending heard
      · next unheard =>
        exact .refused (Bool.eq_false_iff.mpr unheard) (by rw [hpending]; exact List.cons_ne_nil r rest)
  | cleanUp =>
    cases h
    exact .cleanedUp
  | take =>
    obtain ⟨-, h⟩ := Option.ite_none_right_eq_some.mp h
    cases h
    exact .took
  | leave =>
    cases h
    exact .left

/-! ### Any run -/

/-- What the events of a run tell about the state that they lead to. -/
structure Recalled (i : Instance) (capacity : Nat) (events : List Event) (v : Vigil) : Prop where
  owner : v.monitor.owner = i
  capacity : v.capacity = capacity
  cleaned : v.cleaned = true ↔ .cleanUp ∈ events
  heard : v.heard = true ↔ .leave ∉ events

private theorem recalled_start : Recalled i capacity [] (start i nodes capacity) where
  owner := by
    unfold start Monitor.start
    dsimp only
    split <;> rfl
  capacity := rfl
  cleaned := by simp [start]
  heard := by simp [start]

private theorem Recalled.move (h : Recalled i capacity events v) (m : Move v e v') :
    Recalled i capacity (events ++ [e]) v' := by
  obtain ⟨owner, capacity, cleaned, heard⟩ := h
  cases m with
  | answered o looking =>
    exact ⟨(v.monitor.owner_observe o).trans owner, capacity, by simpa using cleaned, by simpa using heard⟩
  | cleanedUp => exact ⟨owner, capacity, by simp, by simpa using heard⟩
  | left => exact ⟨owner, capacity, by simpa using cleaned, by simp⟩
  | woke | sent | refused | took =>
    exact ⟨owner, capacity, by simpa using cleaned, by simpa using heard⟩

/-- Every run is recalled. -/
theorem recalled_run (h : (start i nodes capacity).run? events = some v) :
    Recalled i capacity events v :=
  Machine.run?_induction (P := Recalled i capacity) recalled_start
    (fun _ _ _ _ _ ih he => ih.move (move_of_step? he)) h

/-- A monitor whose reader is there has always been heard. -/
theorem Recalled.not_unheard (h : Recalled i capacity events v) (heard : v.heard = true) :
    ¬ Unheard events :=
  fun hu => h.heard.mp heard (hu.subset List.mem_cons_self)

/-- The reader of a monitor that is not heard has gone. -/
theorem Recalled.mem_leave (h : Recalled i capacity events v) (unheard : v.heard = false) :
    .leave ∈ events := by
  by_contra hnot
  rw [h.heard.mpr hnot] at unheard
  cases unheard

/-- The reports of an answer add to those of the run. -/
theorem raised_concat_answer {v₀ : Vigil} {o : Observation} (h : v₀.run? events = some v)
    (he : v.step? (.answer o) = some v') :
    v₀.raised (events ++ [.answer o]) = v₀.raised events ++ (v.monitor.observe o).2 :=
  Machine.history_concat _ h he

/-- No other event adds to them. -/
theorem raised_concat_of_quiet {v₀ : Vigil} (h : v₀.run? events = some v)
    (he : v.step? e = some v') (quiet : e.answer? = none) :
    v₀.raised (events ++ [e]) = v₀.raised events := by
  refine (Machine.history_concat _ h he).trans ?_
  cases e with
  | answer o => cases quiet
  | wake | send | cleanUp | take | leave => exact List.append_nil _

/-- How far the reports of a run have got. -/
structure Carried (start : Vigil) (events : List Event) (v : Vigil) : Prop where
  /-- Nothing is left to send when the monitor looks again. -/
  looking : v.monitor.phase = .looking → v.pending = []
  /-- What has been raised has been sent or is about to be. -/
  whole : ¬ Unheard events → v.sent ++ v.pending = start.raised events
  /-- A monitor that is not heard has ended, and sent a part of it. -/
  unheard : Unheard events → v.HasEnded ∧ v.sent.Sublist (start.raised events)
  /-- So has one that was dismissed. -/
  dismissed : Dismissed events → v.HasEnded

private theorem carried_start : Carried (start i nodes capacity) [] (start i nodes capacity) where
  looking _ := rfl
  whole _ := rfl
  unheard h := by cases h
  dismissed h := by cases h

/-- A monitor that has not ended is heard and was not dismissed. -/
private theorem Carried.of_alive {v₀ : Vigil} (h : Carried v₀ events v) (alive : ¬ v.HasEnded) :
    ¬ Unheard events ∧ ¬ Dismissed events :=
  ⟨fun hu => alive (h.unheard hu).1, fun hd => alive (h.dismissed hd)⟩

/-- No event lets a report get lost, but for a reader who has gone. -/
private theorem Carried.step {v₀ : Vigil} (h : Carried v₀ events v) (hr : v₀.run? events = some v)
    (recalled : Recalled i capacity events v) (he : v.step? e = some v') :
    Carried v₀ (events ++ [e]) v' := by
  cases move_of_step? he with
  | woke asleep =>
    obtain ⟨hheard, hkept⟩ := h.of_alive fun hend => nomatch asleep.1.symm.trans hend.1
    constructor
    · exact fun _ => asleep.2
    · intro _
      rw [raised_concat_of_quiet hr he rfl]
      exact h.whole hheard
    · exact fun hu => absurd ((unheard_concat_of_ne (by nofun)).mp hu) hheard
    · intro hd
      have hcleaned := recalled.cleaned.mpr ((dismissed_concat_wake.mp hd).resolve_left hkept)
      exact ⟨by simp [hcleaned], asleep.2⟩
  | answered o looking =>
    obtain ⟨hheard, hkept⟩ := h.of_alive fun hend => nomatch looking.symm.trans hend.1
    constructor
    · exact fun hphase => absurd hphase (v.monitor.phase_observe_ne_looking o)
    · intro _
      rw [raised_concat_answer hr he, ← h.whole hheard, h.looking looking, List.append_nil]
    · exact fun hu => absurd ((unheard_concat_of_ne (by nofun)).mp hu) hheard
    · exact fun hd => absurd ((dismissed_concat_of_ne (by nofun)).mp hd) hkept
  | sent r rest pending heard =>
    have hpending : v.pending ≠ [] := by
      rw [pending]
      exact List.cons_ne_nil r rest
    obtain ⟨hheard, hkept⟩ := h.of_alive fun hend => hpending hend.2
    constructor
    · exact fun hlooking => absurd (h.looking hlooking) hpending
    · intro _
      rw [raised_concat_of_quiet hr he rfl, ← h.whole hheard, pending, List.append_assoc]
      rfl
    · intro hu
      exact absurd ((unheard_concat_send.mp hu).resolve_left hheard) (recalled.heard.mp heard)
    · exact fun hd => absurd ((dismissed_concat_of_ne (by nofun)).mp hd) hkept
  | refused unheard pending =>
    obtain ⟨hheard, -⟩ := h.of_alive fun hend => pending hend.2
    have hgone := recalled.mem_leave unheard
    constructor
    · exact fun _ => rfl
    · exact fun hu => absurd (unheard_concat_send.mpr (.inr hgone)) hu
    · intro _
      rw [raised_concat_of_quiet hr he rfl, ← h.whole hheard]
      exact ⟨⟨rfl, rfl⟩, List.sublist_append_left _ _⟩
    · exact fun _ => ⟨rfl, rfl⟩
  | cleanedUp | took | left =>
    -- The monitor does not notice.
    constructor
    · exact h.looking
    · intro hu
      rw [raised_concat_of_quiet hr he rfl]
      exact h.whole (mt (unheard_concat_of_ne (by nofun)).mpr hu)
    · intro hu
      rw [raised_concat_of_quiet hr he rfl]
      exact h.unheard ((unheard_concat_of_ne (by nofun)).mp hu)
    · exact fun hd => h.dismissed ((dismissed_concat_of_ne (by nofun)).mp hd)

/-- Nothing is sent that has not been raised. -/
theorem Carried.sent_sublist {v₀ : Vigil} (h : Carried v₀ events v) :
    v.sent.Sublist (v₀.raised events) := by
  by_cases hu : Unheard events
  · exact (h.unheard hu).2
  · rw [← h.whole hu]
    exact List.sublist_append_left _ _

/-- In every run all reports that are raised are carried to the reader, as long as there is one. -/
theorem carried_run (h : (start i nodes capacity).run? events = some v) :
    Carried (start i nodes capacity) events v :=
  Machine.run?_induction (P := Carried (start i nodes capacity)) carried_start
    (fun _ _ _ _ hs ih he => ih.step hs (recalled_run hs) he) h

/-! ### Why it ends -/

/-- A monitor that is dismissed or not heard ends, whatever else makes it end. -/
theorem ended_step {done done' : Prop}
    (h : v.monitor.phase = .ended ↔ done ∨ Dismissed events ∨ Unheard events)
    (recalled : Recalled i capacity events v) (he : v.step? e = some v')
    (quiet : e.answer? = none → (done' ↔ done))
    (answered : ∀ o, e = .answer o → (v'.monitor.phase = .ended ↔ done')) :
    v'.monitor.phase = .ended ↔ done' ∨ Dismissed (events ++ [e]) ∨ Unheard (events ++ [e]) := by
  have hgoing (alive : v.monitor.phase ≠ .ended) :
      ¬ done ∧ ¬ Dismissed events ∧ ¬ Unheard events := by
    simpa only [not_or] using mt h.mpr alive
  cases move_of_step? he with
  | woke asleep =>
    obtain ⟨hleft, hkept, hheard⟩ := hgoing (by rw [asleep.1]; exact MonitorPhase.noConfusion)
    have hphase : (v.monitor.wake v.cleaned).phase = .ended ↔ .cleanUp ∈ events := by
      rw [← recalled.cleaned]
      cases v.cleaned <;> simp
    show (v.monitor.wake v.cleaned).phase = .ended ↔ _
    rw [hphase, quiet rfl, dismissed_concat_wake, unheard_concat_of_ne (by nofun), or_iff_right hleft,
      or_iff_left hheard, or_iff_right hkept]
  | answered o looking =>
    obtain ⟨-, hkept, hheard⟩ := hgoing (by rw [looking]; exact MonitorPhase.noConfusion)
    rw [answered o rfl, dismissed_concat_of_ne (by nofun), unheard_concat_of_ne (by nofun),
      or_iff_left (not_or.mpr ⟨hkept, hheard⟩)]
  | sent r rest pending heard =>
    have hthere : Event.leave ∉ events := recalled.heard.mp heard
    rw [quiet rfl, dismissed_concat_of_ne (by nofun), unheard_concat_send, or_iff_left hthere]
    exact h
  | refused unheard pending =>
    have hunheard := unheard_concat_send.mpr (.inr (recalled.mem_leave unheard))
    exact ⟨fun _ => .inr (.inr hunheard), fun _ => rfl⟩
  | cleanedUp | took | left =>
    rw [quiet rfl, dismissed_concat_of_ne (by nofun), unheard_concat_of_ne (by nofun)]
    exact h

/-! ### When it looks -/

theorem answers_concat (events : List Event) (e : Event) :
    answers (events ++ [e]) = answers events ++ e.answer?.toList := by
  rw [answers, List.filterMap_append]
  cases e <;> rfl

/-- How many of its looks a monitor has begun. -/
def begun (events : List Event) (phase : MonitorPhase) : Nat :=
  (answers events).length + if phase = .looking then 1 else 0

theorem begun_of_ne {phase : MonitorPhase} (h : phase ≠ .looking) :
    begun events phase = (answers events).length := by
  rw [begun, if_neg h, Nat.add_zero]

/-- Only an answer makes a difference to the looks that have been begun, but for the phase. -/
private theorem begun_concat_of_quiet {phase : MonitorPhase} (quiet : e.answer? = none) :
    begun (events ++ [e]) phase = begun events phase := by
  rw [begun, begun, answers_concat, quiet]
  simp

/-- The looks of a run on the clock of the monitor's sleep. -/
structure Paced (i : Instance) (start : Vigil) (events : List Event) (v : Vigil) : Prop where
  /-- It has slept one interval more before each of them. -/
  looks : start.looks events =
    (List.range (begun events v.monitor.phase)).map fun k => (k + 1) * i.settings.interval
  /-- While it goes on it has slept for none but these. -/
  slept : v.monitor.phase ≠ .ended →
    v.slept = begun events v.monitor.phase * i.settings.interval

/-- A monitor does not look at once. -/
private theorem phase_start_ne_looking (i : Instance) (nodes : List String) :
    (Monitor.start i nodes).phase ≠ .looking := by
  unfold Monitor.start
  split
  · exact MonitorPhase.noConfusion
  · dsimp only
    split <;> exact MonitorPhase.noConfusion

private theorem paced_start : Paced i (start i nodes capacity) [] (start i nodes capacity) := by
  have hbegun : begun [] (start i nodes capacity).monitor.phase = 0 :=
    begun_of_ne (phase_start_ne_looking i nodes)
  constructor
  · rw [hbegun]
    rfl
  · intro _
    rw [hbegun, Nat.zero_mul]
    rfl

/-- A monitor that wakes looks if its instance has not been cleaned up. -/
theorem looks_concat_wake {v₀ : Vigil} (h : v₀.run? events = some v)
    (he : v.step? .wake = some v') :
    v₀.looks (events ++ [.wake]) = v₀.looks events ++
      if v.cleaned then [] else [v.slept + v.monitor.owner.settings.interval] :=
  Machine.history_concat _ h he

/-- It does not begin to look otherwise. -/
theorem looks_concat_of_ne {v₀ : Vigil} (h : v₀.run? events = some v)
    (he : v.step? e = some v') (other : e ≠ .wake) : v₀.looks (events ++ [e]) = v₀.looks events := by
  refine (Machine.history_concat _ h he).trans ?_
  cases e with
  | wake => exact absurd rfl other
  | answer | send | cleanUp | take | leave => exact List.append_nil _

/-- Every event keeps the pace. -/
private theorem Paced.step {v₀ : Vigil} (h : Paced i v₀ events v) (hr : v₀.run? events = some v)
    (recalled : Recalled i capacity events v) (carried : Carried v₀ events v) (he : v.step? e = some v') :
    Paced i v₀ (events ++ [e]) v' := by
  obtain ⟨looks, slept⟩ := h
  cases move_of_step? he with
  | woke asleep =>
    have hslept := slept (by rw [asleep.1]; exact MonitorPhase.noConfusion)
    have hlooks := looks_concat_wake hr he
    rw [asleep.1, begun_of_ne MonitorPhase.noConfusion] at looks hslept
    rw [looks, recalled.owner] at hlooks
    cases hcleaned : v.cleaned with
    | true =>
      rw [hcleaned, if_pos rfl, List.append_nil] at hlooks
      constructor
      · rw [hlooks, begun_concat_of_quiet rfl, begun_of_ne (by simp)]
      · exact fun alive => absurd rfl alive
    | false =>
      have hnext : begun (events ++ [.wake]) (v.monitor.wake false).phase =
          (answers events).length + 1 := begun_concat_of_quiet rfl
      rw [hcleaned, if_neg Bool.false_ne_true] at hlooks
      constructor
      · rw [hlooks, hnext, List.range_succ, List.map_append, List.map_singleton, hslept, Nat.succ_mul]
      · intro _
        rw [hnext, Nat.succ_mul, ← hslept, recalled.owner]
  | answered o looking =>
    have hnext : begun (events ++ [.answer o]) (v.monitor.observe o).1.phase =
        begun events v.monitor.phase := by
      rw [begun_of_ne (v.monitor.phase_observe_ne_looking o), answers_concat, begun, if_pos looking]
      exact List.length_append
    constructor
    · rw [looks_concat_of_ne hr he (by nofun), hnext]
      exact looks
    · intro _
      rw [hnext]
      exact slept (by rw [looking]; exact MonitorPhase.noConfusion)
  | refused unheard pending =>
    have hphase : v.monitor.phase ≠ .looking := fun looking => pending (carried.looking looking)
    constructor
    · rw [looks_concat_of_ne hr he (by nofun), begun_concat_of_quiet rfl, looks, begun_of_ne hphase,
        begun_of_ne MonitorPhase.noConfusion]
    · exact fun alive => absurd rfl alive
  | sent | cleanedUp | took | left =>
    -- The monitor is left in its phase.
    constructor
    · rw [looks_concat_of_ne hr he (by nofun), begun_concat_of_quiet rfl]
      exact looks
    · rw [begun_concat_of_quiet rfl]
      exact slept

/-- Every run keeps the pace. -/
theorem paced_run (h : (start i nodes capacity).run? events = some v) :
    Paced i (start i nodes capacity) events v :=
  Machine.run?_induction (P := Paced i (start i nodes capacity)) paced_start
    (fun _ _ _ _ hs ih he => ih.step hs (recalled_run hs) (carried_run hs) he) h

end ClusterSurvey.Vigil

import ClusterSurvey.Proofs.Run.Cleanup
import ClusterSurvey.Proofs.Run.Collecting

/-!
# The verdict on a run

The verdict on a run is settled at one of its timeouts, when its service has ended, or when it sees
that its wait for results has ended; before all plugins are launched it can also be given up.  A good
verdict says what the records of all expected keys add up to.
-/

namespace ClusterSurvey

namespace Run

variable {root : String} {settings : Settings} {instances : List Instance}
variable {nodes : Except ClusterError (List String)} {service : Except CertificateError ServerSide}
variable {r r' : Run} {e : Event} {events : List Event} {records : List (ResultKey × Bool)}
variable {outcome : RunOutcome}

/-! ### What a verdict rests on -/

/-- What is known of the verdict on a run after some events and records. -/
structure Judged (events : List Event) (records : List (ResultKey × Bool)) (r : Run) : Prop where
  complete : ∀ status, r.verdict? = some (.ok status) →
    (∀ k ∈ r.expected, (records.lookup k).isSome) ∧
      status = (Ledger.after r.expected records).status
  timeout : ∀ d, r.verdict? = some (.error (.timeout d)) →
    d = .ofSeconds r.settings.hardTimeout ∧ Event.hardTimeout ∈ events ∧ Event.waited ∉ events ∧
      r.settings.hardTimeout * 1000 ≤ r.elapsed
  service : ∀ reason, r.verdict? = some (.error (.service reason)) →
    Event.serviceMissed ∈ events ∧ Event.waited ∉ events ∧ r.serviceEnd = some reason
  others : ∀ err, r.verdict? = some (.error err) → (∃ d, err = .timeout d) ∨
    (∃ reason, err = .service reason) ∨ r.monitors.length < r.instances.length
  unseen : r.verdict? = none → Event.waited ∉ events
  down : ∀ reason, r.serviceEnd = some reason →
    ∃ why, Event.serviceEnded why ∈ events ∧ reason = why.getD "listener closed"
  launching : ∀ n, r.phase = .launching n → r.monitors.length = n

/-- The settings of a run stay the same. -/
theorem settings_move (m : Move r e r') : r'.settings = r.settings := by
  cases m <;> rfl

/-- Time does not run back. -/
theorem elapsed_le_move (m : Move r e r') : r.elapsed ≤ r'.elapsed := by
  cases m with
  | passed timed => exact Nat.le_add_right _ _
  | _ => exact Nat.le_refl _

/-- Once there is a verdict, no plugin is launched, the run takes no notice of its service, and of its
wait neither. -/
private theorem decided_move (m : Move r e r') (h : r.verdict? = some outcome) :
    e ≠ .waited ∧ r'.serviceEnd = r.serviceEnd ∧ r'.monitors.length = r.monitors.length ∧
      ∀ n, r'.phase ≠ .launching n := by
  have undecided {phase : RunPhase} (hp : r.phase = phase) (hn : phase.verdict? = none) {P : Prop} :
      P := by
    rw [verdict?, hp, hn] at h
    cases h
  have later (hv : r'.verdict? = some outcome) (n : Nat) : r'.phase ≠ .launching n := by
    intro hp
    rw [verdict?, hp] at hv
    cases hv
  have final := later (verdict?_move m h)
  cases m with
  | refused n i err calls launching => exact undecided launching rfl
  | launched n i calls phase launching => exact undecided launching rfl
  | waited pastSoft outcome waiting => exact undecided waiting rfl
  | serviceEnded hnone =>
    rw [hnone] at h
    cases h
  | woke monitors watched same => exact ⟨by simp, rfl, same, final⟩
  | observed monitors reports watched same failures => exact ⟨by simp, rfl, same, final⟩
  | _ => exact ⟨by simp, rfl, rfl, final⟩

namespace Judged

/-- A verdict is known for what it was. -/
private theorem of_decided (h : Judged events records r) (hv : r.verdict? = some outcome)
    (m : Move r e r') : Judged (events ++ [e]) (records ++ r.recordOf e) r' := by
  have hv' := verdict?_move m hv
  have hsame : r'.verdict? = r.verdict? := hv'.trans hv.symm
  obtain ⟨hwaited, hservice, hmonitors, hphase⟩ := decided_move m hv
  have later {x : Event} (hx : x ∈ events) : x ∈ events ++ [e] := List.mem_append_left _ hx
  have unseen (hx : Event.waited ∉ events) : Event.waited ∉ events ++ [e] := by
    rw [List.mem_append, List.mem_singleton]
    rintro (hold | hnew)
    · exact hx hold
    · exact hwaited hnew.symm
  constructor
  · intro status hs
    rw [hsame] at hs
    obtain ⟨hall, rfl⟩ := h.complete status hs
    rw [expected_move m]
    refine ⟨fun k hk => ?_, by rw [Ledger.after_append_of_settled hall]⟩
    obtain ⟨b, hb⟩ := Option.isSome_iff_exists.mp (hall k hk)
    rw [List.lookup_append, hb]
    rfl
  · intro d hd
    rw [hsame] at hd
    obtain ⟨hd', htimeout, hx, hlate⟩ := h.timeout d hd
    rw [settings_move m]
    exact ⟨hd', later htimeout, unseen hx, Nat.le_trans hlate (elapsed_le_move m)⟩
  · intro reason hr
    rw [hsame] at hr
    obtain ⟨hmissed, hx, hend⟩ := h.service reason hr
    exact ⟨later hmissed, unseen hx, hservice.trans hend⟩
  · intro err herr
    rw [hsame] at herr
    rw [hmonitors, instances_move m]
    exact h.others err herr
  · intro hnone
    rw [hv'] at hnone
    cases hnone
  · intro reason hr
    rw [hservice] at hr
    obtain ⟨why, hwhy, heq⟩ := h.down reason hr
    exact ⟨why, later hwhy, heq⟩
  · intro n hn
    exact absurd hn (hphase n)

/-- As long as there is no verdict, the wait has not been seen to end. -/
private theorem of_undecided (h : Judged events records r) (hv : r.verdict? = none)
    (hv' : r'.verdict? = none) (hwaited : e ≠ .waited)
    (down : ∀ reason, r'.serviceEnd = some reason → r.serviceEnd = some reason ∨
      ∃ why, e = .serviceEnded why ∧ reason = why.getD "listener closed")
    (launching : ∀ n, r'.phase = .launching n → r'.monitors.length = n) :
    Judged (events ++ [e]) (records ++ r.recordOf e) r' := by
  have undecided {P : Prop} {outcome : RunOutcome} (hsome : r'.verdict? = some outcome) : P := by
    rw [hv'] at hsome
    cases hsome
  refine ⟨fun _ hs => undecided hs, fun _ hs => undecided hs, fun _ hs => undecided hs,
    fun _ hs => undecided hs, fun _ => ?_, fun reason hr => ?_, launching⟩
  · rw [List.mem_append, List.mem_singleton]
    rintro (hold | hnew)
    · exact h.unseen hv hold
    · exact hwaited hnew.symm
  · rcases down reason hr with hold | ⟨why, rfl, heq⟩
    · obtain ⟨why, hwhy, heq⟩ := h.down reason hold
      exact ⟨why, List.mem_append_left _ hwhy, heq⟩
    · exact ⟨why, List.mem_append_right _ (List.mem_singleton.mpr rfl), heq⟩

/-- A verdict that has just been settled. -/
private theorem of_verdict (h : Judged events records r) (outcome : RunOutcome)
    (hv' : r'.verdict? = some outcome)
    (complete : ∀ status, outcome = .ok status →
      (∀ k ∈ r'.expected, ((records ++ r.recordOf e).lookup k).isSome) ∧
        status = (Ledger.after r'.expected (records ++ r.recordOf e)).status)
    (timeout : ∀ d, outcome = .error (.timeout d) →
      d = .ofSeconds r'.settings.hardTimeout ∧ e = .hardTimeout ∧ Event.waited ∉ events ∧
        r'.settings.hardTimeout * 1000 ≤ r'.elapsed)
    (service : ∀ reason, outcome = .error (.service reason) →
      e = .serviceMissed ∧ Event.waited ∉ events ∧ r'.serviceEnd = some reason)
    (others : ∀ err, outcome = .error err → (∃ d, err = .timeout d) ∨
      (∃ reason, err = .service reason) ∨ r'.monitors.length < r'.instances.length)
    (same : r'.serviceEnd = r.serviceEnd) :
    Judged (events ++ [e]) (records ++ r.recordOf e) r' := by
  have eq_of {o : RunOutcome} (ho : r'.verdict? = some o) : outcome = o :=
    Option.some.inj (hv'.symm.trans ho)
  have last (x : Event) : x ∈ events ++ [x] := List.mem_append_right _ (List.mem_singleton.mpr rfl)
  refine ⟨fun status hs => complete status (eq_of hs), fun d hd => ?_, fun reason hr => ?_,
    fun err he => others err (eq_of he), fun hnone => ?_, fun reason hr => ?_, fun n hn => ?_⟩
  · obtain ⟨hd', rfl, hx, hlate⟩ := timeout d (eq_of hd)
    exact ⟨hd', last _, by simp [hx], hlate⟩
  · obtain ⟨rfl, hx, hend⟩ := service reason (eq_of hr)
    exact ⟨last _, by simp [hx], hend⟩
  · rw [hv'] at hnone
    cases hnone
  · rw [same] at hr
    obtain ⟨why, hwhy, heq⟩ := h.down reason hr
    exact ⟨why, List.mem_append_left _ hwhy, heq⟩
  · rw [verdict?, hn] at hv'
    cases hv'

end Judged

/-- As long as there is no verdict, a wait that has ended is complete, and every expected key has been
recorded. -/
theorem complete_of_waited? (collecting : Collecting records r) (hv : r.verdict? = none)
    (h : r.waited? = some outcome) :
    (∀ k ∈ r.expected, (records.lookup k).isSome) ∧
      outcome = .ok (Ledger.after r.expected records).status := by
  obtain ⟨w, hw, hheld, hanswer⟩ := collecting.attended
  have hledger := collecting.orderly.ledger
  cases ha : w.answer with
  | none => simp [waited?, hw, ha] at h
  | some a =>
    rcases hanswer a ha with ⟨rfl, hzero⟩ | ⟨-, hstop⟩
    · have hwaited : r.waited? = some (.ok r.collector.ledger.status) := by simp [waited?, hw, ha]
      rw [hledger] at hzero hwaited
      exact ⟨Ledger.outstanding_eq_zero_iff.mp hzero, Option.some.inj (h.symm.trans hwaited)⟩
    · exact absurd (hheld hv) hstop

/-- Every event leaves it known what the verdict rests on. -/
theorem Judged.move (h : Judged events records r) (collecting : Collecting records r)
    (m : Move r e r') : Judged (events ++ [e]) (records ++ r.recordOf e) r' := by
  cases hv : r.verdict? with
  | some outcome => exact h.of_decided hv m
  | none =>
    have unseen := h.unseen hv
    cases m with
    | refused n i err calls launching at_n makes cause =>
      refine h.of_verdict (.error err) rfl (by simp) (fun d hd => ?_)
        (fun reason hr => ?_) (fun err' _ => .inr (.inr ?_)) rfl
      · exact absurd (Except.error.inj hd) (cause d "").1
      · exact absurd (Except.error.inj hr) (cause (.ofSeconds 0) reason).2
      · show r.monitors.length < r.instances.length
        rw [h.launching n launching]
        exact (List.getElem?_eq_some_iff.mp at_n).1
    | launched n i calls phase launching at_n makes next =>
      rcases next with rfl | rfl
      · refine h.of_undecided hv rfl (by simp) (fun reason hr => .inl hr) fun l hl => ?_
        cases hl
        rw [List.length_append, h.launching n launching]
        rfl
      · exact h.of_undecided hv rfl (by simp) (fun reason hr => .inl hr) fun l hl => by cases hl
    | collected c running admitted step =>
      exact h.of_undecided hv hv (by simp) (fun reason hr => .inl hr) h.launching
    | woke monitors watched same =>
      exact h.of_undecided hv hv (by simp) (fun reason hr => .inl hr)
        fun n hn => same.trans (h.launching n hn)
    | observed monitors reports watched same failures =>
      exact h.of_undecided hv hv (by simp) (fun reason hr => .inl hr)
        fun n hn => same.trans (h.launching n hn)
    | tookUp report rest queue filing filed may =>
      exact h.of_undecided hv hv (by simp) (fun reason hr => .inl hr) h.launching
    | passed timed => exact h.of_undecided hv hv (by simp) (fun reason hr => .inl hr) h.launching
    | serviceEnded undecided up =>
      refine h.of_undecided hv hv (by simp) (fun reason hr => .inr ⟨_, rfl, ?_⟩) h.launching
      exact (Option.some.inj hr).symm
    | softened waiting late =>
      exact h.of_undecided hv rfl (by simp) (fun reason hr => .inl hr) fun n hn => by cases hn
    | timedOut pastSoft waiting late =>
      refine h.of_verdict (.error _) rfl (by simp) (fun d hd => ?_)
        (fun reason hr => by cases hr) (fun err herr => .inl ⟨_, (Except.error.inj herr).symm⟩) rfl
      cases hd
      exact ⟨rfl, rfl, unseen, late⟩
    | serviceMissed pastSoft reason waiting down =>
      refine h.of_verdict (.error _) rfl (by simp) (fun d hd => by cases hd)
        (fun reason' hr => ?_) (fun err herr => .inr (.inl ⟨_, (Except.error.inj herr).symm⟩)) rfl
      cases hr
      exact ⟨rfl, unseen, down⟩
    | waited pastSoft outcome waiting answered =>
      obtain ⟨hall, rfl⟩ := complete_of_waited? collecting hv answered
      have hnone : r.recordOf .waited = [] := rfl
      refine h.of_verdict (.ok _) rfl (fun status hs => ?_) (by simp) (by simp) (by simp)
        rfl
      rw [hnone, List.append_nil]
      exact ⟨hall, (Except.ok.inj hs).symm⟩
    | drained outcome draining =>
      rw [verdict?, draining] at hv
      cases hv
    | cleanedUp n i ending cleaning at_n =>
      rw [verdict?, cleaning] at hv
      obtain rfl : ending = none := hv
      refine h.of_undecided (by rw [verdict?, cleaning]; rfl) (r.verdict?_phaseBehind n none) (by simp)
        (fun reason hr => .inl hr) fun l hl => ?_
      rcases r.phaseBehind_cases n none with ⟨-, hp⟩ | ⟨-, hp⟩
      · cases hp.symm.trans hl
      · cases hp.symm.trans hl

/-- What the verdict rests on is known at the start. -/
theorem Begins.judged (b : Begins root settings instances r) : Judged [] [] r := by
  cases b with
  | idle empty =>
    refine ⟨fun status hs => ?_, fun d hd => (by cases hd), fun reason hr => (by cases hr),
      fun err herr => (by cases herr), fun _ => by simp, fun reason hr => (by cases hr),
      fun n hn => (by cases hn)⟩
    obtain rfl := Except.ok.inj (Option.some.inj hs)
    exact ⟨fun k hk => (by cases hk), rfl⟩
  | abandoned listings err plugins cause =>
    refine ⟨fun status hs => (by cases hs), fun d hd => ?_, fun reason hr => ?_, fun err' _ => ?_,
      fun hnone => (by cases hnone), fun reason hr => (by cases hr), fun n hn => (by cases hn)⟩
    · cases hd
      exact absurd rfl (cause d "").1
    · cases hr
      exact absurd rfl (cause (.ofSeconds 0) reason).2
    · exact .inr (.inr (List.length_pos_iff.mpr plugins))
  | launching nodes checked =>
    exact ⟨fun _ hs => (by cases hs), fun _ hd => (by cases hd), fun _ hr => (by cases hr),
      fun _ herr => (by cases herr), fun _ => by simp, fun _ hr => (by cases hr),
      fun n hn => (by cases hn; rfl)⟩

/-- At every state of a run it is known what its verdict rests on. -/
theorem judged_run
    (h : (startWith root settings instances nodes service).run? events = some r) :
    Judged events ((startWith root settings instances nodes service).recordings events) r := by
  refine Machine.run?_induction
    (P := fun es r => Judged es ((startWith root settings instances nodes service).recordings es) r)
    begins_startWith.judged ?_ h
  intro es s e s' hs ih he
  rw [recordings, Machine.history_concat recordOf hs he]
  exact ih.move (collecting_run hs) (move_of_step? he)

end Run

end ClusterSurvey

import ClusterSurvey.Proofs.Collector.Counting
import ClusterSurvey.Proofs.Run.Step

/-!
# The collector of a run

A run changes its collector only by what can happen at a collector, so that everything shown of
collectors holds of it too.  What the run adds is who does what: failures come from its monitors, one
after the other, and nobody but the run stops the wait for results.
-/

namespace ClusterSurvey

namespace Run

variable {root : String} {settings : Settings} {instances : List Instance}
variable {nodes : Except ClusterError (List String)} {service : Except CertificateError ServerSide}
variable {r r' : Run} {e : Event} {events : List Event} {records : List (ResultKey × Bool)}

/-- What an event of a run adds to the records. -/
def recordOf (r : Run) : Event → List (ResultKey × Bool)
  | .collect e => r.collector.recordOf e
  | _ => []

/-- The records of a run: for each delivery that is recorded its key and whether it is a failure. -/
def recordings (r : Run) (events : List Event) : List (ResultKey × Bool) :=
  Machine.history step? recordOf r events

/-- The expected results of a run stay the same. -/
theorem expected_move (m : Move r e r') : r'.expected = r.expected := by
  cases m <;> rfl

/-- They are those with which it started. -/
theorem expected_run
    (h : (startWith root settings instances nodes service).run? events = some r) :
    r.expected = (startWith root settings instances nodes service).expected :=
  Machine.run?_induction
    (P := fun _ r => r.expected = (startWith root settings instances nodes service).expected) rfl
    (fun _ _ _ _ _ ih he => (expected_move (move_of_step? he)).trans ih) h

/-- No report is lost. -/
theorem sent_move (m : Move r e r') {x : LocalResult} (h : x ∈ r.sent) : x ∈ r'.sent := by
  cases m with
  | observed monitors reports watched same failures => exact List.mem_append_left _ h
  | _ => exact h

/-- The verdict on a run is final. -/
theorem verdict?_move (m : Move r e r') {outcome : RunOutcome} (h : r.verdict? = some outcome) :
    r'.verdict? = some outcome := by
  have undecided {phase : RunPhase} (hp : r.phase = phase) (hn : phase.verdict? = none) :
      r'.verdict? = some outcome := by
    rw [verdict?, hp, hn] at h
    cases h
  cases m with
  | refused n i e calls launching => exact undecided launching rfl
  | launched n i calls phase launching => exact undecided launching rfl
  | softened waiting => exact undecided waiting rfl
  | timedOut pastSoft waiting => exact undecided waiting rfl
  | serviceMissed pastSoft reason waiting => exact undecided waiting rfl
  | waited pastSoft outcome waiting => exact undecided waiting rfl
  | drained outcome' draining =>
    rw [verdict?, draining] at h
    exact h
  | cleanedUp n i ending cleaning =>
    rw [verdict?, cleaning] at h
    obtain rfl : ending = some outcome := h
    exact r.verdict?_phaseBehind n (some outcome)
  | _ => exact h

/-! ### What happens at the collector -/

/-- Stopping the wait for results is an event at the collector, unless it has been stopped. -/
theorem stopWait_collector (r : Run) : r.stopWait.collector = r.collector ∨
    r.collector.step? (.setStop 0 .fired) = some r.stopWait.collector := by
  show r.collector.step (.setStop 0 .fired) = r.collector ∨
    r.collector.step? (.setStop 0 .fired) = some (r.collector.step (.setStop 0 .fired))
  unfold Collector.step
  cases hs : r.collector.step? (.setStop 0 .fired) with
  | none => exact .inl rfl
  | some c => exact .inr rfl

/-- An event of a run is an event at its collector, or leaves it as it is. -/
theorem collector_move (m : Move r e r') :
    (∃ ce, r.collector.step? ce = some r'.collector ∧ r.collector.recordOf ce = r.recordOf e) ∨
      (r'.collector = r.collector ∧ r.recordOf e = []) := by
  have stopped (hr : r.recordOf e = []) (hc : r'.collector = r.stopWait.collector) :
      (∃ ce, r.collector.step? ce = some r'.collector ∧ r.collector.recordOf ce = r.recordOf e) ∨
        (r'.collector = r.collector ∧ r.recordOf e = []) := by
    rw [hc, hr]
    rcases r.stopWait_collector with hsame | hstep
    · exact .inr ⟨hsame, rfl⟩
    · exact .inl ⟨_, hstep, rfl⟩
  cases m with
  | refused n i e calls launching at_n makes cause => exact stopped rfl rfl
  | timedOut pastSoft waiting late => exact stopped rfl rfl
  | serviceMissed pastSoft reason waiting down => exact stopped rfl rfl
  | collected c running admitted step => exact .inl ⟨_, step, rfl⟩
  | @tookUp mark report rest queue filing filed may =>
    exact .inl ⟨.openResult report.key report.isFailure report.body mark, if_pos may, rfl⟩
  | _ => exact .inr ⟨rfl, rfl⟩

/-- The ledger of a run stays orderly. -/
theorem orderly_collector_move (h : Collector.Orderly r.expected records r.collector)
    (m : Move r e r') :
    Collector.Orderly r'.expected (records ++ r.recordOf e) r'.collector := by
  rw [expected_move m]
  rcases collector_move m with ⟨ce, hc, hr⟩ | ⟨hc, hr⟩
  · rw [← hr]
    exact Collector.orderly_move h (Collector.move_of_step? hc)
  · rw [hc, hr, List.append_nil]
    exact h

/-- At the start of a run its collector is fresh and waited for. -/
theorem Begins.collector_eq (b : Begins root settings instances r) :
    r.collector = (Collector.start root r.expected).beginWait .held := by
  cases b <;> rfl

/-! ### The wait for results -/

/-- A run waits once.  Its wait is not stopped before the verdict, and is complete only when nothing
is outstanding. -/
def Attended (r : Run) : Prop :=
  ∃ w, r.collector.waits = [w] ∧ (r.verdict? = none → w.stop = .held) ∧
    ∀ a, w.answer = some a →
      (a = .ok .complete ∧ r.collector.ledger.outstanding = 0) ∨ (a = .ok .stopped ∧ w.stop ≠ .held)

/-- The wait of a run begins unanswered. -/
theorem Begins.attended (b : Begins root settings instances r) : Attended r := by
  refine ⟨⟨.held, none⟩, ?_, fun _ => rfl, fun a ha => by cases ha⟩
  rw [b.collector_eq]
  rfl

private theorem undecided_of_move (m : Move r e r') (h : r'.verdict? = none) : r.verdict? = none := by
  cases hv : r.verdict? with
  | none => rfl
  | some outcome =>
    rw [verdict?_move m hv] at h
    cases h

private theorem attended_of_same (h : Attended r) (m : Move r e r')
    (same : r'.collector = r.collector) : Attended r' := by
  obtain ⟨w, hw, hheld, hanswer⟩ := h
  rw [Attended, same]
  exact ⟨w, hw, fun hv => hheld (undecided_of_move m hv), hanswer⟩

private theorem attended_of_stopped (h : Attended r) (decided : r'.verdict?.isSome = true)
    (stopped : r'.collector = r.stopWait.collector) : Attended r' := by
  obtain ⟨w, hw, -, hanswer⟩ := h
  have hstop : r.stopWait.collector = r.collector.step (.setStop 0 .fired) := rfl
  have undecided (hv : r'.verdict? = none) {P : Prop} : P := by
    rw [hv] at decided
    cases decided
  have hat : r.collector.waits[0]? = some w := by rw [hw]; rfl
  unfold Collector.step Collector.step? at hstop
  simp only [hat] at hstop
  by_cases hheld : w.stop = .held
  · rw [if_pos ⟨hheld, by simp⟩] at hstop
    refine ⟨{ w with stop := .fired }, ?_, fun hv => undecided hv, fun a ha => ?_⟩
    · rw [stopped, hstop]
      show r.collector.waits.modify 0 _ = _
      rw [hw]
      rfl
    · rw [stopped, hstop]
      exact (hanswer a ha).imp id fun ⟨hs, _⟩ => ⟨hs, by simp⟩
  · rw [if_neg fun hc => hheld hc.1] at hstop
    rw [Attended, stopped, hstop]
    exact ⟨w, hw, fun hv => undecided hv, hanswer⟩

private theorem attended_of_step (h : Attended r) {ce : Collector.Event}
    (orderly : Collector.Orderly r.expected records r.collector)
    (step : r.collector.step? ce = some r'.collector) (verdict : r'.verdict? = r.verdict?)
    (own : (∀ stop, ce ≠ .beginWait stop) ∧ ∀ i s, ce ≠ .setStop i s) : Attended r' := by
  obtain ⟨w, hw, hheld, hanswer⟩ := h
  have hle := orderly.outstanding_le step
  rcases Collector.waits_move (Collector.move_of_step? step) with hsame | hchange
  · refine ⟨w, by rw [hsame, hw], fun hv => hheld (verdict ▸ hv), fun a ha => ?_⟩
    exact (hanswer a ha).imp (fun ⟨hc, hzero⟩ => ⟨hc, by omega⟩) id
  · generalize hwaits : r'.collector.waits = waits at hchange
    cases hchange with
    | begun => exact absurd rfl (own.1 _)
    | signalled => exact absurd rfl (own.2 _ _)
    | @ended i o x at_i unanswered may =>
      obtain ⟨rfl, rfl⟩ : i = 0 ∧ x = w := by
        rw [hw] at at_i
        obtain ⟨hi, hx⟩ := List.getElem?_eq_some_iff.mp at_i
        obtain rfl : i = 0 := Nat.lt_one_iff.mp hi
        exact ⟨rfl, hx.symm⟩
      refine ⟨{ x with answer := some (.ok o) }, ?_, fun hv => hheld (verdict ▸ hv), fun a ha => ?_⟩
      · rw [hwaits]
        show r.collector.waits.modify 0 _ = _
        rw [hw]
        rfl
      · obtain rfl := Option.some.inj ha
        cases o with
        | complete =>
          have hzero : r.collector.announced = 0 := by simpa [Collector.mayEnd] using may
          rw [orderly.announced] at hzero
          exact .inl ⟨rfl, by omega⟩
        | stopped => exact .inr ⟨rfl, by simpa [Collector.mayEnd] using may⟩

/-- Every event leaves the run with its one wait. -/
theorem attended_move (h : Attended r)
    (orderly : Collector.Orderly r.expected records r.collector) (m : Move r e r') :
    Attended r' := by
  have hmove := m
  cases m with
  | refused n i e calls launching at_n makes cause =>
    exact attended_of_stopped h rfl rfl
  | timedOut pastSoft waiting late => exact attended_of_stopped h rfl rfl
  | serviceMissed pastSoft reason waiting down =>
    exact attended_of_stopped h rfl rfl
  | collected c running admitted step =>
    refine attended_of_step h orderly step rfl ⟨fun stop hc => ?_, fun i s hc => ?_⟩
    · rw [hc] at admitted
      cases admitted
    · rw [hc] at admitted
      cases admitted
  | @tookUp mark report rest queue filing filed may =>
    have opened : r.collector.step? (.openResult report.key report.isFailure report.body mark) =
        some (r.collector.openResult report.key report.isFailure report.body mark) := if_pos may
    exact attended_of_step h orderly opened rfl ⟨by simp, by simp⟩
  | _ => exact attended_of_same h hmove rfl

/-! ### Reports -/

/-- Where the failures of a run come from: each is a report of a monitor, and the one that is being
filed is on its way or answered. -/
structure Reported (records : List (ResultKey × Bool)) (r : Run) : Prop where
  queued : ∀ x ∈ r.queue, x.isFailure = true ∧ x ∈ r.sent
  filing : ∀ id, r.filing = some id → ∃ d, r.collector.deliveries[id]? = some d ∧
    d.isFailure = true ∧ (d.isOpen = true ∨ d.outcome?.isSome = true)
  failures : ∀ (id : Nat) (d : Delivery), r.collector.deliveries[id]? = some d →
    d.isFailure = true → ∃ x ∈ r.sent, x.key = d.key ∧ x.isFailure = true
  recorded : ∀ k, (k, true) ∈ records → ∃ x ∈ r.sent, x.key = k ∧ x.isFailure = true

/-- There are no reports at the start. -/
theorem Begins.reported (b : Begins root settings instances r) : Reported [] r := by
  have hdeliveries : r.collector.deliveries = [] := by
    rw [b.collector_eq]
    rfl
  have hqueue : r.queue = [] ∧ r.filing = none := by
    cases b <;> exact ⟨rfl, rfl⟩
  exact ⟨by simp [hqueue.1], by simp [hqueue.2], by simp [hdeliveries], by simp⟩

namespace Reported

/-- A record of a run is that of one of its deliveries. -/
private theorem mem_recordOf {k : ResultKey} {b : Bool} (h : (k, b) ∈ r.recordOf e) :
    ∃ (id : Nat) (d : Delivery), r.collector.deliveries[id]? = some d ∧ d.key = k ∧
      d.isFailure = b := by
  cases e with
  | collect e => exact Collector.delivery_of_mem_recordOf h
  | _ => cases h

private theorem recorded_move (h : Reported records r) (m : Move r e r') (k : ResultKey)
    (hk : (k, true) ∈ records ++ r.recordOf e) : ∃ x ∈ r'.sent, x.key = k ∧ x.isFailure = true := by
  rcases List.mem_append.mp hk with hk | hk
  · obtain ⟨x, hx, hkey, hf⟩ := h.recorded k hk
    exact ⟨x, sent_move m hx, hkey, hf⟩
  · obtain ⟨id, d, hd, rfl, hf⟩ := mem_recordOf hk
    obtain ⟨x, hx, hkey, hxf⟩ := h.failures id d hd hf
    exact ⟨x, sent_move m hx, hkey, hxf⟩

/-- A state in which nothing has been taken up. -/
private theorem of_step (h : Reported records r) (m : Move r e r')
    (queue : ∀ x ∈ r'.queue, x.isFailure = true ∧ x ∈ r'.sent) (filing : r'.filing = r.filing)
    (collector : r'.collector = r.collector ∨ ∃ ce, r.collector.step? ce = some r'.collector ∧
      (∀ key body mark, ce ≠ .openResult key true body mark) ∧
      ∀ id, r.filing = some id → ce ≠ .cancel id) :
    Reported (records ++ r.recordOf e) r' := by
  have recorded := recorded_move h m
  rcases collector with hsame | ⟨ce, step, remote, kept⟩
  · refine ⟨queue, by rw [filing, hsame]; exact h.filing, fun id d hd hf => ?_, recorded⟩
    rw [hsame] at hd
    obtain ⟨x, hx, hkey, hxf⟩ := h.failures id d hd hf
    exact ⟨x, sent_move m hx, hkey, hxf⟩
  · have hmove := Collector.move_of_step? step
    refine ⟨queue, fun id hid => ?_, fun id d' hd' hf => ?_, recorded⟩
    · rw [filing] at hid
      obtain ⟨d, hd, hf, halive⟩ := h.filing id hid
      exact Collector.failure_move hmove hd hf halive (kept id hid)
    · rcases Collector.delivery_move hmove hd' with ⟨d, hd, hkey, hkind⟩ | ⟨body, mark, rfl⟩
      · obtain ⟨x, hx, hxkey, hxf⟩ := h.failures id d hd (hkind.trans hf)
        exact ⟨x, sent_move m hx, hxkey.trans hkey, hxf⟩
      · rw [hf] at remote
        exact absurd rfl (remote _ _ _)

private theorem of_stopped (h : Reported records r) (m : Move r e r') (queue : r'.queue = r.queue)
    (sent : r'.sent = r.sent) (filing : r'.filing = r.filing)
    (stopped : r'.collector = r.stopWait.collector) :
    Reported (records ++ r.recordOf e) r' := by
  refine h.of_step m (by rw [queue, sent]; exact h.queued) filing ?_
  rw [stopped]
  rcases r.stopWait_collector with hsame | hstep
  · exact .inl hsame
  · exact .inr ⟨_, hstep, by simp, by simp⟩

private theorem of_tookUp {mark : String} {report : LocalResult} {rest : List LocalResult}
    (h : Reported records r) (queue : r.queue = report :: rest)
    (may : r.collector.mayOpen report.key report.isFailure mark = true) :
    Reported records (r.takeUp report rest mark) := by
  have hreport := h.queued report (by rw [queue]; exact List.mem_cons_self)
  have hstep : r.collector.step? (.openResult report.key report.isFailure report.body mark) =
      some (r.takeUp report rest mark).collector := if_pos may
  have hmove := Collector.move_of_step? hstep
  obtain ⟨d, hds, -, hkind, halive⟩ := Collector.openResult_move_deliveries hmove
  constructor
  · intro x hx
    exact h.queued x (by rw [queue]; exact List.mem_cons_of_mem _ hx)
  · intro id hid
    obtain rfl := Option.some.inj hid
    exact ⟨d, by rw [hds]; exact List.getElem?_concat_length, hkind.trans hreport.1, halive⟩
  · intro id x hx hf
    rcases Collector.delivery_move hmove hx with ⟨y, hy, hkey, hykind⟩ | ⟨body, m, heq⟩
    · obtain ⟨z, hz, hzkey, hzf⟩ := h.failures id y hy (hykind.trans hf)
      exact ⟨z, hz, hzkey.trans hkey, hzf⟩
    · have hkey : report.key = x.key := by
        injection heq
      exact ⟨report, hreport.2, hkey, hreport.1⟩
  · exact h.recorded

/-- Failures come from monitors only, whatever happens. -/
theorem move (h : Reported records r) (m : Move r e r') :
    Reported (records ++ r.recordOf e) r' := by
  have hmove := m
  cases m with
  | refused n i e calls launching at_n makes cause => exact h.of_stopped hmove rfl rfl rfl rfl
  | timedOut pastSoft waiting late => exact h.of_stopped hmove rfl rfl rfl rfl
  | serviceMissed pastSoft reason waiting down => exact h.of_stopped hmove rfl rfl rfl rfl
  | collected c running admitted step =>
    refine h.of_step hmove h.queued rfl (.inr ⟨_, step, fun key body mark hc => ?_, fun id hid hc => ?_⟩)
    · rw [hc] at admitted
      cases admitted
    · rw [hc] at admitted
      simp [admits, hid] at admitted
  | observed monitors reports watched same failures =>
    refine h.of_step hmove (fun x hx => ?_) rfl (.inl rfl)
    rcases List.mem_append.mp hx with hold | hnew
    · exact ⟨(h.queued x hold).1, List.mem_append_left _ (h.queued x hold).2⟩
    · exact ⟨failures x hnew, List.mem_append_right _ hnew⟩
  | tookUp report rest queue filing filed may =>
    rw [show r.recordOf (.takeUp _) = [] from rfl, List.append_nil]
    exact h.of_tookUp queue may
  | _ => exact h.of_step hmove h.queued rfl (.inl rfl)

end Reported

/-! ### Everything together -/

/-- What holds of the collector of a run when some results have been recorded. -/
structure Collecting (records : List (ResultKey × Bool)) (r : Run) : Prop where
  orderly : Collector.Orderly r.expected records r.collector
  held : Collector.HeldByFailure r.collector
  attended : Attended r
  reported : Reported records r

/-- It holds at the start. -/
theorem Begins.collecting (b : Begins root settings instances r) : Collecting [] r := by
  have hmove (c : Collector) : Collector.Move c (.beginWait .held) (c.beginWait .held) :=
    .waited _ .begun
  refine ⟨?_, ?_, b.attended, b.reported⟩
  · rw [b.collector_eq]
    exact Collector.orderly_move (Collector.orderly_start root _) (hmove _)
  · rw [b.collector_eq]
    exact Collector.heldByFailure_move (fun id hid => by cases hid) (hmove _)

/-- Every event keeps it. -/
theorem Collecting.move (h : Collecting records r) (m : Move r e r') :
    Collecting (records ++ r.recordOf e) r' where
  orderly := orderly_collector_move h.orderly m
  held := by
    rcases collector_move m with ⟨ce, hc, -⟩ | ⟨hc, -⟩
    · exact Collector.heldByFailure_move h.held (Collector.move_of_step? hc)
    · rw [hc]
      exact h.held
  attended := attended_move h.attended h.orderly m
  reported := h.reported.move m

/-- It holds at every state of every run. -/
theorem collecting_run
    (h : (startWith root settings instances nodes service).run? events = some r) :
    Collecting ((startWith root settings instances nodes service).recordings events) r := by
  refine Machine.run?_induction
    (P := fun es r => Collecting ((startWith root settings instances nodes service).recordings es) r)
    begins_startWith.collecting ?_ h
  intro es s e s' hs ih he
  rw [recordings, Machine.history_concat recordOf hs he]
  exact ih.move (move_of_step? he)

end Run

end ClusterSurvey

import ClusterSurvey.Proofs.Collector.Counting

/-!
# Who waits, and for how long

Of all that begin to wait for a collector the first alone is let in.  Its wait is complete only when nothing
is outstanding any more, and stopped only when its signal has been fired or dropped.  An answer stays.
-/

namespace ClusterSurvey.Collector

variable {c c' : Collector} {e : Event} {events : List Event} {root : String}
  {expected : List ResultKey}

/-! ### One event -/

/-- Whether an event is about a wait. -/
def Event.isOfWait : Event → Bool
  | .beginWait _ | .setStop _ _ | .endWait _ _ => true
  | _ => false

/-- What an event makes of the waits, with all that is known when it does. -/
inductive Attends (c : Collector) : Event → List Wait → Prop where
  /-- The event has nothing to do with them. -/
  | elsewhere (e : Event) (other : e.isOfWait = false) : Attends c e c.waits
  /-- Another one begins. -/
  | begun (stop : StopSignal) : Attends c (.beginWait stop) (c.beginWait stop).waits
  /-- The signal of one is fired or dropped. -/
  | signalled (i : Nat) (s : StopSignal) (w : Wait) (at_i : c.waits[i]? = some w)
      (held : w.stop = .held) (gone : s ≠ .held) : Attends c (.setStop i s) (c.setStop i s).waits
  /-- One ends. -/
  | ended (i : Nat) (o : WaitOutcome) (w : Wait) (at_i : c.waits[i]? = some w)
      (unanswered : w.answer = none) (may : c.mayEnd w o = true) :
      Attends c (.endWait i o) (c.endWait i o).waits

/-- Every event that can happen does one of these things to the waits. -/
theorem attends_of_step? (h : c.step? e = some c') : Attends c e c'.waits := by
  have elsewhere (hw : ¬ WaitMove c e c'.waits) (other : e.isOfWait = false) :
      Attends c e c'.waits := by
    rw [(waits_move (move_of_step? h)).resolve_right hw]
    exact .elsewhere e other
  cases e with
  | beginWait stop =>
    cases h
    exact .begun stop
  | setStop i s =>
    simp only [step?] at h
    split at h
    · next w hw =>
      obtain ⟨hguard, h⟩ := Option.ite_none_right_eq_some.mp h
      cases h
      exact .signalled i s w hw hguard.1 hguard.2
    · cases h
  | endWait i o =>
    simp only [step?] at h
    split at h
    · next w hw =>
      obtain ⟨hguard, h⟩ := Option.ite_none_right_eq_some.mp h
      cases h
      exact .ended i o w hw (Option.isNone_iff_eq_none.mp hguard.1) hguard.2
    · cases h
  | openResult | write | breakOff | cancel | commit | record | disturb =>
    refine elsewhere (fun hw => ?_) rfl
    generalize c'.waits = waits at hw
    cases hw

/-- What becomes of one wait: it keeps its answer, and its signal is not taken back. -/
structure Lasts (w w' : Wait) : Prop where
  answer : ∀ a, w.answer = some a → w'.answer = some a
  stop : w.stop ≠ .held → w'.stop ≠ .held

/-- A wait lasts from one state to the next. -/
theorem Lasts.trans {w w' w'' : Wait} (h : Lasts w w') (h' : Lasts w' w'') : Lasts w w'' :=
  ⟨fun a ha => h'.answer a (h.answer a ha), fun hs => h'.stop (h.stop hs)⟩

private theorem lasts_of_attends {waits : List Wait} {i : Nat} {w : Wait} (h : Attends c e waits)
    (hw : c.waits[i]? = some w) : ∃ w', waits[i]? = some w' ∧ Lasts w w' := by
  cases h with
  | elsewhere e other => exact ⟨w, hw, fun _ => id, id⟩
  | begun stop =>
    refine ⟨w, ?_, fun _ => id, id⟩
    rw [beginWait, List.getElem?_append_left (List.getElem?_eq_some_iff.mp hw).1, hw]
  | signalled j s x at_j held gone =>
    simp only [setStop, List.getElem?_modify, hw]
    refine ⟨_, rfl, ?_, ?_⟩
    · split <;> exact fun _ => id
    · split
      · exact fun _ => gone
      · exact id
  | ended j o x at_j unanswered may =>
    simp only [endWait, List.getElem?_modify, hw]
    refine ⟨_, rfl, ?_, ?_⟩
    · split
      · next hij =>
        obtain rfl : w = x := by
          subst hij
          exact Option.some.inj (hw.symm.trans at_j)
        intro a ha
        rw [unanswered] at ha
        cases ha
      · exact fun _ => id
    · split <;> exact id

/-- In every run each wait lasts. -/
theorem lasts_run {i : Nat} {w : Wait} (hw : c.waits[i]? = some w) (h : c.run? events = some c') :
    ∃ w', c'.waits[i]? = some w' ∧ Lasts w w' := by
  refine Machine.run?_induction (P := fun _ s => ∃ w', s.waits[i]? = some w' ∧ Lasts w w')
    ⟨w, hw, fun _ => id, id⟩ ?_ h
  rintro es s e s' - ⟨w', hw', hlasts⟩ he
  obtain ⟨w'', hw'', hlasts'⟩ := lasts_of_attends (attends_of_step? he) hw'
  exact ⟨w'', hw'', hlasts.trans hlasts'⟩

/-! ### The first wait -/

/-- Where a wait comes from that is there after an event. -/
inductive Origin (c : Collector) (i : Nat) : Wait → Prop where
  /-- It was there before. -/
  | kept (w : Wait) (at_i : c.waits[i]? = some w) : Origin c i w
  /-- It has just begun, and is let in if it is the first. -/
  | begun (stop : StopSignal) :
      Origin c i ⟨stop, if i = 0 then none else some (.error .alreadyWaited)⟩
  /-- Its signal has been fired or dropped. -/
  | signalled (w : Wait) (s : StopSignal) (at_i : c.waits[i]? = some w) (gone : s ≠ .held) :
      Origin c i { w with stop := s }
  /-- It has ended. -/
  | ended (w : Wait) (o : WaitOutcome) (at_i : c.waits[i]? = some w) (unanswered : w.answer = none)
      (may : c.mayEnd w o = true) : Origin c i { w with answer := some (.ok o) }

private theorem origin_of_attends {waits : List Wait} {i : Nat} {w : Wait} (h : Attends c e waits)
    (hw : waits[i]? = some w) : Origin c i w := by
  cases h with
  | elsewhere e other => exact .kept w hw
  | begun stop =>
    simp only [beginWait] at hw
    rcases Nat.lt_trichotomy i c.waits.length with hlt | heq | hgt
    · rw [List.getElem?_append_left hlt] at hw
      exact .kept w hw
    · subst heq
      rw [List.getElem?_concat_length] at hw
      cases hw
      simp only [List.isEmpty_iff_length_eq_zero]
      exact .begun stop
    · have hlast : i < c.waits.length + 1 := by
        simpa using (List.getElem?_eq_some_iff.mp hw).1
      omega
  | signalled j s x at_j held gone =>
    simp only [setStop, List.getElem?_modify] at hw
    obtain ⟨y, hy, rfl⟩ := Option.map_eq_some_iff.mp hw
    split
    · exact .signalled y s hy gone
    · exact .kept y hy
  | ended j o x at_j unanswered may =>
    simp only [endWait, List.getElem?_modify] at hw
    obtain ⟨y, hy, rfl⟩ := Option.map_eq_some_iff.mp hw
    split
    · next hij =>
      subst hij
      obtain rfl : x = y := Option.some.inj (at_j.symm.trans hy)
      exact .ended x o hy unanswered may
    · exact .kept y hy

/-- Whether the answer of the wait that is let in is what has happened. -/
inductive Justified (c : Collector) (w : Wait) : Prop where
  | waiting (unanswered : w.answer = none)
  | complete (answered : w.answer = some (.ok .complete)) (done : c.ledger.outstanding = 0)
  | stopped (answered : w.answer = some (.ok .stopped)) (gone : w.stop ≠ .held)

/-- The first wait alone is let in, and has no answer that is not justified. -/
structure FirstWaits (c : Collector) : Prop where
  first : ∀ w, c.waits[0]? = some w → Justified c w
  others : ∀ i w, c.waits[i]? = some w → i ≠ 0 → w.answer = some (.error .alreadyWaited)

/-- A justified answer stays so while the number of outstanding results does not grow. -/
private theorem Justified.keep {w : Wait} (h : Justified c w)
    (le : c'.ledger.outstanding ≤ c.ledger.outstanding) : Justified c' w := by
  cases h with
  | waiting unanswered => exact .waiting unanswered
  | complete answered done => exact .complete answered (Nat.le_zero.mp (done ▸ le))
  | stopped answered gone => exact .stopped answered gone

private theorem FirstWaits.justified {records : List (ResultKey × Bool)} (h : FirstWaits c)
    (orderly : Orderly expected records c) (he : c.step? e = some c') {w : Wait}
    (origin : Origin c 0 w) : Justified c' w := by
  have hle := orderly.outstanding_le he
  cases origin with
  | kept w at_i => exact (h.first w at_i).keep hle
  | begun stop => exact .waiting rfl
  | signalled w s at_i gone =>
    cases (h.first w at_i).keep hle with
    | waiting unanswered => exact .waiting unanswered
    | complete answered done => exact .complete answered done
    | stopped answered gone' => exact .stopped answered gone
  | ended w o at_i unanswered may =>
    cases o with
    | complete =>
      have hnone : c.ledger.outstanding = 0 := orderly.announced.symm.trans (of_decide_eq_true may)
      exact .complete rfl (Nat.le_zero.mp (hnone ▸ hle))
    | stopped => exact .stopped rfl (of_decide_eq_true may)

private theorem FirstWaits.refused (h : FirstWaits c) {i : Nat} {w : Wait} (origin : Origin c i w)
    (hi : i ≠ 0) : w.answer = some (.error .alreadyWaited) := by
  cases origin with
  | kept w at_i => exact h.others i w at_i hi
  | begun stop => exact if_neg hi
  | signalled w s at_i gone => exact h.others i w at_i hi
  | ended w o at_i unanswered may =>
    rw [h.others i w at_i hi] at unanswered
    cases unanswered

private theorem firstWaits_start : FirstWaits (start root expected) where
  first _ hw := by cases hw
  others _ _ hw := by cases hw

/-- In every run the first wait alone is let in, and what it is answered has happened. -/
theorem firstWaits_run (h : (start root expected).run? events = some c) : FirstWaits c := by
  refine Machine.run?_induction (P := fun _ c => FirstWaits c) firstWaits_start ?_ h
  intro es s e s' hs ih he
  have hattends := attends_of_step? he
  exact ⟨fun w hw => ih.justified (orderly_run hs) he (origin_of_attends hattends hw),
    fun i w hw hi => ih.refused (origin_of_attends hattends hw) hi⟩

end ClusterSurvey.Collector

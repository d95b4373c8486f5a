import ClusterSurvey.Collection.WaitingRoom
import ClusterSurvey.Proofs.Collector.Waits

/-!
# No wait misses its end

A wait rests only when it has seen the present number of outstanding results, and that was not zero, or when
it is about to be woken; and its signal wakes it only as long as it has not been fired or dropped.  So when
nobody has anything left to do, a wait without an answer has none to get.  There is only so much to do between
one event at the collector and the next.
-/

namespace ClusterSurvey

namespace Collector

/-- An event that does not change the number of outstanding results announces nothing. -/
theorem announced_of_not_announces {c c' : Collector} {e : Event} (h : c.step? e = some c')
    (quiet : c.announces e = false) : c'.announced = c.announced := by
  cases move_of_step? h with
  | counted d at_id committed free first =>
    simp only [announces, at_id, Bool.or_eq_false_iff, decide_eq_false_iff_not, not_not] at quiet
    rcases first with hfailure | hfirst
    · rw [quiet.1] at hfailure
      cases hfailure
    · exact absurd quiet.2 hfirst
  | answered | begun | wrote | gaveUp | committed | abandoned | repeated | waited | disturbed => rfl

end Collector

namespace WaitingRoom

variable {r r' : WaitingRoom} {e : Event} {events : List Event} {k : Work} {root : String}
  {expected : List ResultKey}

/-! ### One piece of work -/

/-- How a wait that is not answered gets on. -/
inductive Goes (r : WaitingRoom) : Following → Following → Prop where
  /-- It begins. -/
  | begun : Goes r .apart .due
  /-- It has seen that something is outstanding. -/
  | looked (outstanding : r.collector.announced ≠ 0) : Goes r .due (.looked r.version)
  /-- It has asked to be woken. -/
  | enrolled (seen : Nat) : Goes r (.looked seen) (.enrolled seen false)
  /-- The number has changed since it has looked. -/
  | changed (seen : Nat) (woken : Bool) (older : seen ≠ r.version) : Goes r (.enrolled seen woken) .due
  /-- It has been woken since it has asked for it. -/
  | woken : Goes r (.enrolled r.version true) (.looked r.version)
  /-- It rests. -/
  | rested : Goes r (.enrolled r.version false) (.resting r.version)

/-- A state that a piece of work makes of a state. -/
inductive Did (r : WaitingRoom) : WaitingRoom → Prop where
  /-- The waits are woken. -/
  | told (late : r.told < r.version) : Did r r.tell
  /-- A wait gets on in following the number. -/
  | followed (i : Nat) (w : Wait) (x : Watcher) (f : Following) (at_wait : r.collector.waits[i]? = some w)
      (at_watcher : r.watchers[i]? = some x) (unanswered : w.answer = none)
      (goes : Goes r x.following f) : Did r (r.follow i f)
  /-- A wait begins to heed its signal. -/
  | armed (i : Nat) (w : Wait) (x : Watcher) (at_wait : r.collector.waits[i]? = some w)
      (at_watcher : r.watchers[i]? = some x) (unanswered : w.answer = none) (unarmed : x.armed = false)
      (held : w.stop = .held) : Did r (r.arm i)
  /-- A wait ends. -/
  | ended (i : Nat) (w : Wait) (o : WaitOutcome) (at_wait : r.collector.waits[i]? = some w)
      (unanswered : w.answer = none) (may : r.collector.mayEnd w o = true) : Did r (r.finish i o)

/-- Only a wait without an answer does anything. -/
private theorem attend_eq_some_iff {i : Nat} {act : Wait → Watcher → Option WaitingRoom} :
    r.attend i act = some r' ↔ ∃ w x, r.collector.waits[i]? = some w ∧ r.watchers[i]? = some x ∧
      w.answer = none ∧ act w x = some r' := by
  unfold attend
  split
  · next w x hw hx =>
    simp [hw, hx, Option.ite_none_right_eq_some]
  · next hnone =>
    constructor
    · nofun
    · rintro ⟨w, x, hw, hx, -, -⟩
      exact absurd hx (hnone w x hw)

/-- Every piece of work is one of these. -/
theorem did_of_work? (h : r.work? k = some r') : Did r r' := by
  cases k with
  | tell =>
    obtain ⟨late, h⟩ := Option.ite_none_right_eq_some.mp h
    cases h
    exact .told late
  | subscribe i =>
    obtain ⟨w, x, hw, hx, ha, h⟩ := attend_eq_some_iff.mp h
    obtain ⟨hf, h⟩ := Option.ite_none_right_eq_some.mp h
    cases h
    exact .followed i w x _ hw hx ha (hf ▸ .begun)
  | look i =>
    obtain ⟨w, x, hw, hx, ha, h⟩ := attend_eq_some_iff.mp h
    obtain ⟨hf, h⟩ := Option.ite_none_right_eq_some.mp h
    split at h
    · next hzero =>
      cases h
      exact .ended i w .complete hw ha (decide_eq_true hzero)
    · next hsome =>
      cases h
      exact .followed i w x _ hw hx ha (hf ▸ .looked hsome)
  | enroll i =>
    obtain ⟨w, x, hw, hx, ha, h⟩ := attend_eq_some_iff.mp h
    split at h
    · next seen hf =>
      cases h
      exact .followed i w x _ hw hx ha (hf ▸ .enrolled seen)
    · cases h
  | compare i =>
    obtain ⟨w, x, hw, hx, ha, h⟩ := attend_eq_some_iff.mp h
    split at h
    · next seen woken hf =>
      split at h
      · next older =>
        cases h
        exact .followed i w x _ hw hx ha (hf ▸ .changed seen woken older)
      · next same =>
        obtain rfl : seen = r.version := not_not.mp same
        split at h
        · next hwoken =>
          cases h
          exact .followed i w x _ hw hx ha (hf ▸ hwoken ▸ .woken)
        · next hwoken =>
          cases h
          rw [Bool.not_eq_true] at hwoken
          exact .followed i w x _ hw hx ha (hf ▸ hwoken ▸ .rested)
    · cases h
  | heed i =>
    obtain ⟨w, x, hw, hx, ha, h⟩ := attend_eq_some_iff.mp h
    obtain ⟨hidle, h⟩ := Option.ite_none_left_eq_some.mp h
    obtain ⟨-, hunarmed⟩ := not_or.mp hidle
    split at h
    · next held =>
      cases h
      exact .armed i w x hw hx ha (Bool.not_eq_true _ ▸ hunarmed) held
    · next gone =>
      cases h
      exact .ended i w .stopped hw ha (decide_eq_true gone)

/-- An event at the collector happens there, unless it is the end of a wait. -/
private theorem step?_happen {ce : Collector.Event} (other : ∀ i o, ce ≠ .endWait i o) :
    r.step? (.happen ce) = (r.collector.step? ce).map (r.happen ce) := by
  cases ce with
  | endWait i o => exact absurd rfl (other i o)
  | openResult | write | breakOff | cancel | commit | record | beginWait | setStop | disturb => rfl

/-- Whatever happens is a piece of work, or an event at the collector that ends no wait. -/
theorem cases_of_step? (h : r.step? e = some r') :
    (∃ k, e = .work k ∧ Did r r') ∨
      ∃ ce c, e = .happen ce ∧ r.collector.step? ce = some c ∧ (∀ i o, ce ≠ .endWait i o) ∧
        r' = r.happen ce c := by
  cases e with
  | work k => exact .inl ⟨k, rfl, did_of_work? h⟩
  | happen ce =>
    have other : ∀ i o, ce ≠ .endWait i o := by
      rintro i o rfl
      cases h
    rw [step?_happen other] at h
    obtain ⟨c, hc, rfl⟩ := Option.map_eq_some_iff.mp h
    exact .inr ⟨ce, c, rfl, hc, other, rfl⟩

/-! ### What the waits know -/

/-- What a wait without an answer knows, given the version of the number, the one for which the waits were
last woken, and the number itself. -/
structure Alert (version told announced : Nat) (w : Wait) (x : Watcher) : Prop where
  /-- It has seen no version that was zero. -/
  seen : ∀ n, x.following.seen? = some n → n ≤ version ∧ (n = version → announced ≠ 0)
  /-- It rests only if it has seen the last version, or will be woken. -/
  resting : ∀ n, x.following = .resting n → n = version ∨ told < version
  /-- Its signal wakes it as long as it is held. -/
  armed : x.armed = true → w.stop = .held

/-- Every wait without an answer is alert. -/
structure Attentive (r : WaitingRoom) : Prop where
  told : r.told ≤ r.version
  length : r.watchers.length = r.collector.waits.length
  alert : ∀ (i : Nat) w x, r.collector.waits[i]? = some w → r.watchers[i]? = some x → w.answer = none →
    Alert r.version r.told r.collector.announced w x

private theorem attentive_start : Attentive (start root expected) where
  told := Nat.le_refl 0
  length := rfl
  alert _ _ _ hw := by cases hw

/-- Waking a wait lets it rest no longer, and leaves what it has seen. -/
private theorem Alert.wake {version told announced : Nat} {w : Wait} {x : Watcher}
    (h : Alert version told announced w x) :
    Alert version version announced w { x with following := x.following.wake } := by
  obtain ⟨seen, resting, armed⟩ := h
  obtain ⟨following, isArmed⟩ := x
  refine ⟨?_, ?_, armed⟩
  · cases following <;> exact seen
  · intro n hn
    cases following <;> cases hn

/-- A new version of the number is one that no wait has seen, and for which all will be woken. -/
private theorem Alert.announce {version told announced : Nat} {w : Wait} {x : Watcher}
    (h : Alert version told announced w x) (le : told ≤ version) (announced' : Nat) :
    Alert (version + 1) told announced' w x where
  seen n hn := by
    have := (h.seen n hn).1
    exact ⟨by omega, fun heq => by omega⟩
  resting _ _ := .inr (by omega)
  armed := h.armed

/-- A wait that gets on is still alert. -/
private theorem Alert.go {w : Wait} {x : Watcher} {f : Following}
    (h : Alert r.version r.told r.collector.announced w x) (goes : Goes r x.following f) :
    Alert r.version r.told r.collector.announced w { x with following := f } := by
  obtain ⟨seen, resting, armed⟩ := h
  obtain ⟨following, isArmed⟩ := x
  dsimp only at goes seen
  cases goes with
  | begun => exact ⟨nofun, nofun, armed⟩
  | looked outstanding =>
    refine ⟨fun n hn => ?_, nofun, armed⟩
    cases hn
    exact ⟨Nat.le_refl _, fun _ => outstanding⟩
  | enrolled n => exact ⟨seen, nofun, armed⟩
  | changed n woken older => exact ⟨nofun, nofun, armed⟩
  | woken => exact ⟨seen, nofun, armed⟩
  | rested =>
    refine ⟨seen, fun n hn => ?_, armed⟩
    cases hn
    exact .inl rfl

/-- A watcher that has been changed, or another one. -/
private theorem of_getElem?_modify {i j : Nat} {f : Watcher → Watcher} {x' : Watcher}
    (h : (r.watchers.modify i f)[j]? = some x') :
    (j = i ∧ ∃ x, r.watchers[j]? = some x ∧ x' = f x) ∨ (j ≠ i ∧ r.watchers[j]? = some x') := by
  rw [List.getElem?_modify] at h
  obtain ⟨x, hx, rfl⟩ := Option.map_eq_some_iff.mp h
  split
  · next hij => exact .inl ⟨hij.symm, x, hx, rfl⟩
  · next hij => exact .inr ⟨fun hji => hij hji.symm, hx⟩

/-- Work leaves every wait alert. -/
private theorem Attentive.did (h : Attentive r) (did : Did r r') : Attentive r' := by
  obtain ⟨told, length, alert⟩ := h
  cases did with
  | told late =>
    refine ⟨Nat.le_refl _, by simpa [tell] using length, fun i w x' hw hx ha => ?_⟩
    simp only [tell, List.getElem?_map, Option.map_eq_some_iff] at hx
    obtain ⟨x, hx, rfl⟩ := hx
    exact (alert i w x hw hx ha).wake
  | followed i w x f at_wait at_watcher unanswered goes =>
    refine ⟨told, by simpa [follow] using length, fun j y x' hy hx' ha => ?_⟩
    rcases of_getElem?_modify hx' with ⟨rfl, z, hz, rfl⟩ | ⟨-, hx⟩
    · obtain rfl : x = z := Option.some.inj (at_watcher.symm.trans hz)
      exact (alert j y x hy hz ha).go goes
    · exact alert j y x' hy hx ha
  | armed i w x at_wait at_watcher unanswered unarmed held =>
    refine ⟨told, by simpa [arm] using length, fun j y x' hy hx' ha => ?_⟩
    rcases of_getElem?_modify hx' with ⟨rfl, z, hz, rfl⟩ | ⟨-, hx⟩
    · obtain rfl : w = y := Option.some.inj (at_wait.symm.trans hy)
      have hbefore := alert j w z hy hz ha
      exact ⟨hbefore.seen, hbefore.resting, fun _ => held⟩
    · exact alert j y x' hy hx ha
  | ended i w o at_wait unanswered may =>
    refine ⟨told, by simpa [finish, Collector.endWait] using length, fun j y x hy hx ha => ?_⟩
    simp only [finish, Collector.endWait, List.getElem?_modify] at hy
    obtain ⟨z, hz, rfl⟩ := Option.map_eq_some_iff.mp hy
    by_cases hij : i = j
    · simp [hij] at ha
    · simp only [if_neg hij] at ha ⊢
      exact alert j z x hz hx ha

/-- A wait that has not begun to follow the number is alert. -/
private theorem alert_apart (version told announced : Nat) (w : Wait) :
    Alert version told announced w ⟨.apart, false⟩ where
  seen _ hn := by cases hn
  resting _ hn := by cases hn
  armed h := by cases h

/-- What happens at the collector and is not about waits leaves the watchers. -/
private theorem watchersAfter_of_other {ce : Collector.Event} (other : ce.isOfWait = false) :
    r.watchersAfter ce = r.watchers := by
  cases ce with
  | beginWait | setStop | endWait => cases other
  | openResult | write | breakOff | cancel | commit | record | disturb => rfl

/-- So does whatever happens at the collector. -/
private theorem Attentive.happen {ce : Collector.Event} {c : Collector} (h : Attentive r)
    (hc : r.collector.step? ce = some c) (other : ∀ i o, ce ≠ .endWait i o) :
    Attentive (r.happen ce c) := by
  obtain ⟨told, length, alert⟩ := h
  have keep {w : Wait} {x : Watcher} (halert : Alert r.version r.told r.collector.announced w x) :
      Alert (r.happen ce c).version r.told c.announced w x := by
    unfold WaitingRoom.happen
    cases hq : r.collector.announces ce with
    | false =>
      rw [Collector.announced_of_not_announces hc hq]
      exact halert
    | true => exact halert.announce told c.announced
  have htold : r.told ≤ (r.happen ce c).version := by
    unfold WaitingRoom.happen
    dsimp only
    split <;> omega
  suffices (r.watchersAfter ce).length = c.waits.length ∧ ∀ (i : Nat) w x, c.waits[i]? = some w →
      (r.watchersAfter ce)[i]? = some x → w.answer = none →
      Alert (r.happen ce c).version r.told c.announced w x from ⟨htold, this.1, this.2⟩
  have hattends := Collector.attends_of_step? hc
  generalize c.waits = waits at hattends
  cases hattends with
  | elsewhere ce hother =>
    rw [watchersAfter_of_other hother]
    exact ⟨length, fun i w x hw hx ha => keep (alert i w x hw hx ha)⟩
  | begun stop =>
    simp only [watchersAfter, Collector.beginWait, List.length_append, length]
    refine ⟨rfl, fun i w x hw hx ha => ?_⟩
    rcases Nat.lt_or_ge i r.collector.waits.length with hlt | hge
    · rw [List.getElem?_append_left hlt] at hw
      rw [List.getElem?_append_left (length ▸ hlt)] at hx
      exact keep (alert i w x hw hx ha)
    · rw [List.getElem?_append_right (length ▸ hge)] at hx
      obtain rfl := List.mem_singleton.mp (List.mem_of_getElem? hx)
      exact alert_apart ..
  | signalled i s y at_i held gone =>
    simp only [watchersAfter, Collector.setStop, List.length_modify, length]
    refine ⟨trivial, fun j w x hw hx ha => ?_⟩
    rw [List.getElem?_modify] at hw
    obtain ⟨z, hz, rfl⟩ := Option.map_eq_some_iff.mp hw
    rcases of_getElem?_modify hx with ⟨rfl, u, hu, rfl⟩ | ⟨hij, hx⟩
    · rw [if_pos rfl] at ha ⊢
      have hkept := keep (alert j z u hz hu ha)
      exact ⟨hkept.seen, hkept.resting, fun armed => absurd armed Bool.false_ne_true⟩
    · rw [if_neg (Ne.symm hij)] at ha ⊢
      exact keep (alert j z x hz hx ha)
  | ended i o w at_i unanswered may => exact absurd rfl (other i o)

/-- In every run the waits are alert. -/
theorem attentive_run (h : (start root expected).run? events = some r) : Attentive r := by
  refine Machine.run?_induction (P := fun _ r => Attentive r) attentive_start ?_ h
  intro es s e s' hs ih he
  rcases cases_of_step? he with ⟨k, -, did⟩ | ⟨ce, c, -, hc, other, rfl⟩
  · exact ih.did did
  · exact ih.happen hc other

/-! ### The collector -/

/-- What is done by the waits changes the collector only when one of them ends. -/
private theorem Did.collector (did : Did r r') :
    r'.collector = r.collector ∨ ∃ i o, r.collector.step? (.endWait i o) = some r'.collector := by
  cases did with
  | told | followed | armed => exact .inl rfl
  | ended i w o at_wait unanswered may =>
    refine .inr ⟨i, o, ?_⟩
    simp only [Collector.step?, at_wait, unanswered, may]
    rfl

/-- The collector of a run is one of a run of its own. -/
theorem collector_run (h : r.run? events = some r') :
    ∃ es, r.collector.run? es = some r'.collector := by
  refine Machine.run?_induction (P := fun _ s => ∃ es, r.collector.run? es = some s.collector)
    ⟨[], rfl⟩ ?_ h
  rintro es s e s' - ⟨ces, hces⟩ he
  have further {ce : Collector.Event} {c : Collector} (hc : s.collector.step? ce = some c) :
      r.collector.run? (ces ++ [ce]) = some c := by
    rw [Collector.run?, Machine.run?_concat, ← Collector.run?, hces]
    exact hc
  rcases cases_of_step? he with ⟨k, -, did⟩ | ⟨ce, c, -, hc, -, rfl⟩
  · rcases did.collector with hsame | ⟨i, o, hend⟩
    · exact ⟨ces, hsame ▸ hces⟩
    · exact ⟨_, further hend⟩
  · exact ⟨_, further hc⟩

/-! ### How much there is to do -/

/-- How many steps are before a wait until it rests, if nothing happens at the collector. -/
def effort (version : Nat) : Following → Nat
  | .apart => 4
  | .due => 3
  | .looked seen => if seen = version then 2 else 5
  | .enrolled seen woken => if seen = version then (if woken then 3 else 1) else 4
  | .resting _ => 0

/-- Each of them makes it one less at least. -/
private theorem effort_lt {f f' : Following} (goes : Goes r f f') :
    effort r.version f' < effort r.version f := by
  cases goes with
  | begun | looked | woken | rested => simp [effort]
  | enrolled seen =>
    simp only [effort, Bool.false_eq_true, if_false]
    split <;> omega
  | changed seen woken older => simp [effort, older]

/-- To be woken makes it some more. -/
private theorem effort_wake_le (version : Nat) (f : Following) :
    effort version f.wake ≤ effort version f + 5 := by
  cases f with
  | apart | due | looked => simp [Following.wake]
  | enrolled seen woken =>
    simp only [Following.wake, effort]
    split
    · split <;> simp
    · omega
  | resting seen =>
    simp only [Following.wake, effort]
    split <;> omega

/-- How many steps are before a wait until it rests and heeds its signal, or is answered. -/
def stepsLeft (version : Nat) (w : Wait) (x : Watcher) : Nat :=
  if w.answer.isNone then effort version x.following + (if x.armed then 0 else 1) + 1 else 0

private theorem stepsLeft_of_unanswered {version : Nat} {w : Wait} {x : Watcher} (h : w.answer = none) :
    stepsLeft version w x = effort version x.following + (if x.armed then 0 else 1) + 1 := by
  rw [stepsLeft, h]
  rfl

private theorem stepsLeft_wake_le (version : Nat) (w : Wait) (x : Watcher) :
    stepsLeft version w { x with following := x.following.wake } ≤ stepsLeft version w x + 5 := by
  have hwake := effort_wake_le version x.following
  unfold stepsLeft
  split
  · dsimp only
    omega
  · exact Nat.zero_le _

/-- How many steps are before the wait that is let in. -/
def firstEffort (r : WaitingRoom) : Nat :=
  match r.collector.waits[0]?, r.watchers[0]? with
  | some w, some x => stepsLeft r.version w x
  | _, _ => 0

private theorem firstEffort_eq {w : Wait} {x : Watcher} (hw : r.collector.waits[0]? = some w)
    (hx : r.watchers[0]? = some x) : r.firstEffort = stepsLeft r.version w x := by
  simp only [firstEffort, hw, hx]

/-- Waking the waits leaves them with no more than five further steps. -/
private theorem firstEffort_tell_le (r : WaitingRoom) : r.tell.firstEffort ≤ r.firstEffort + 5 := by
  simp only [firstEffort, tell, List.getElem?_map]
  cases r.collector.waits[0]? with
  | none => exact Nat.zero_le _
  | some w =>
    cases r.watchers[0]? with
    | none => exact Nat.zero_le _
    | some x => exact stepsLeft_wake_le r.version w x

/-- How much there is to do until something happens at the collector. -/
def rank (r : WaitingRoom) : Nat := r.firstEffort + if r.told < r.version then 6 else 0

/-- Every piece of work leaves less to do. -/
theorem rank_lt (waits : r.collector.FirstWaits) (attentive : Attentive r) (did : Did r r') :
    r'.rank < r.rank := by
  have first {i : Nat} {w : Wait} (at_wait : r.collector.waits[i]? = some w)
      (unanswered : w.answer = none) : i = 0 := by
    by_contra hi
    rw [waits.others i w at_wait hi] at unanswered
    cases unanswered
  cases did with
  | told late =>
    have hle := firstEffort_tell_le r
    have hafter : r.tell.rank = r.tell.firstEffort := by simp [rank, tell]
    rw [hafter, rank, if_pos late]
    omega
  | followed i w x f at_wait at_watcher unanswered goes =>
    obtain rfl := first at_wait unanswered
    have hafter : (r.follow 0 f).watchers[0]? = some { x with following := f } := by
      simp [follow, at_watcher]
    have hlt := effort_lt goes
    refine Nat.add_lt_add_right ?_ _
    rw [firstEffort_eq at_wait at_watcher, firstEffort_eq (r := r.follow 0 f) at_wait hafter,
      stepsLeft_of_unanswered unanswered, stepsLeft_of_unanswered unanswered]
    exact Nat.add_lt_add_right (Nat.add_lt_add_right hlt _) 1
  | armed i w x at_wait at_watcher unanswered unarmed held =>
    obtain rfl := first at_wait unanswered
    have hafter : (r.arm 0).watchers[0]? = some { x with armed := true } := by
      simp [arm, at_watcher]
    refine Nat.add_lt_add_right ?_ _
    rw [firstEffort_eq at_wait at_watcher, firstEffort_eq (r := r.arm 0) at_wait hafter,
      stepsLeft_of_unanswered unanswered, stepsLeft_of_unanswered unanswered, unarmed]
    exact Nat.lt_succ_self _
  | ended i w o at_wait unanswered may =>
    obtain rfl := first at_wait unanswered
    have hx : 0 < r.watchers.length := attentive.length ▸ (List.getElem?_eq_some_iff.mp at_wait).1
    have hafter : (r.finish 0 o).firstEffort = 0 := by
      simp [firstEffort, stepsLeft, finish, Collector.endWait, at_wait, List.getElem?_eq_getElem hx]
    refine Nat.add_lt_add_right ?_ _
    rw [hafter, firstEffort_eq at_wait (List.getElem?_eq_getElem hx), stepsLeft_of_unanswered unanswered]
    exact Nat.succ_pos _

/-- The collector of a run that begins with a collector lets its first wait in alone. -/
private theorem firstWaits_collector (h : (start root expected).run? events = some r) :
    r.collector.FirstWaits := by
  obtain ⟨es, hes⟩ := collector_run h
  exact Collector.firstWaits_run hes

/-- There is no more work than the rank says, in whatever order it is done. -/
theorem length_le_rank (h : (start root expected).run? events = some r) {ks : List Work}
    (hk : r.run? (ks.map .work) = some r') : ks.length + r'.rank ≤ r.rank := by
  induction ks generalizing r events with
  | nil =>
    cases hk
    simp
  | cons k ks ih =>
    obtain ⟨s, hs, hrest⟩ := Option.bind_eq_some_iff.mp hk
    have hrun : (start root expected).run? (events ++ [.work k]) = some s := by
      rw [run?, Machine.run?_concat, ← run?, h]
      exact hs
    have hle := ih hrun hrest
    have hlt := rank_lt (firstWaits_collector h) (attentive_run h) (did_of_work? hs)
    rw [List.length_cons]
    omega

/-- So all of it gets done. -/
theorem exists_idle (h : (start root expected).run? events = some r) :
    ∃ (ks : List Work) (r' : WaitingRoom), r.run? (ks.map .work) = some r' ∧ r'.Idle := by
  induction hn : r.rank using Nat.strong_induction_on generalizing r events with
  | _ n ih =>
    by_cases hidle : r.Idle
    · exact ⟨[], r, rfl, hidle⟩
    · obtain ⟨k, hk⟩ := not_forall.mp hidle
      obtain ⟨s, hs⟩ := Option.ne_none_iff_exists'.mp hk
      have hrun : (start root expected).run? (events ++ [.work k]) = some s := by
        rw [run?, Machine.run?_concat, ← run?, h]
        exact hs
      have hlt := rank_lt (firstWaits_collector h) (attentive_run h) (did_of_work? hs)
      obtain ⟨ks, r', hr', hidle'⟩ := ih s.rank (hn ▸ hlt) hrun rfl
      refine ⟨k :: ks, r', ?_, hidle'⟩
      rw [List.map_cons, run?, Machine.run?]
      exact (congrArg (Option.bind · _) hs).trans hr'

/-! ### When nobody has anything to do -/

/-- A wait that is not answered acts. -/
private theorem attend_of_unanswered {i : Nat} {w : Wait} {x : Watcher}
    {act : Wait → Watcher → Option WaitingRoom} (hw : r.collector.waits[i]? = some w)
    (hx : r.watchers[i]? = some x) (ha : w.answer = none) : r.attend i act = act w x := by
  simp only [attend, hw, hx, ha, Option.isNone_none, if_true]

/-- A wait without an answer rests when nobody has anything to do, and its signal wakes it. -/
private theorem rests_of_idle (idle : r.Idle) {i : Nat} {w : Wait} {x : Watcher}
    (hw : r.collector.waits[i]? = some w) (hx : r.watchers[i]? = some x) (ha : w.answer = none) :
    (∃ n, x.following = .resting n) ∧ x.armed = true := by
  have acts {k : Work} {act : Wait → Watcher → Option WaitingRoom} (hk : r.work? k = r.attend i act) :
      act w x = none := (attend_of_unanswered hw hx ha).symm.trans (hk.symm.trans (idle k))
  have hrests : ∃ n, x.following = .resting n := by
    cases hf : x.following with
    | apart => simpa [hf] using acts (k := .subscribe i) rfl
    | due =>
      have hlook := acts (k := .look i) rfl
      rw [if_pos hf] at hlook
      split at hlook <;> cases hlook
    | looked n => simpa [hf] using acts (k := .enroll i) rfl
    | enrolled n woken =>
      have hcompare := acts (k := .compare i) rfl
      rw [hf] at hcompare
      dsimp only at hcompare
      split at hcompare
      · cases hcompare
      · split at hcompare <;> cases hcompare
    | resting n => exact ⟨n, rfl⟩
  refine ⟨hrests, ?_⟩
  obtain ⟨n, hn⟩ := hrests
  have hheed := acts (k := .heed i) rfl
  by_contra hunarmed
  rw [if_neg (by simp [hn, hunarmed])] at hheed
  split at hheed <;> cases hheed

/-- Then its signal is held, and something is outstanding. -/
theorem Attentive.blocked (h : Attentive r) (idle : r.Idle) {i : Nat} {w : Wait}
    (hw : r.collector.waits[i]? = some w) (ha : w.answer = none) :
    r.collector.announced ≠ 0 ∧ w.stop = .held := by
  have hx : i < r.watchers.length := h.length ▸ (List.getElem?_eq_some_iff.mp hw).1
  have hx := List.getElem?_eq_getElem hx
  obtain ⟨⟨n, hn⟩, harmed⟩ := rests_of_idle idle hw hx ha
  have alert := h.alert i w _ hw hx ha
  have htold : ¬ r.told < r.version := by
    intro late
    have htell := idle .tell
    rw [work?, if_pos late] at htell
    cases htell
  have hversion : n = r.version := (alert.resting n hn).resolve_right htold
  exact ⟨(alert.seen n (by rw [hn]; rfl)).2 hversion, alert.armed harmed⟩

/-! ### The whole wait -/

/-- What those can rely on who wait for a collector. -/
structure Waited (r : WaitingRoom) : Prop where
  /-- The first wait alone is let in. -/
  others : ∀ (i : Nat) w, r.collector.waits[i]? = some w → i ≠ 0 → w.answer = some (.error .alreadyWaited)
  /-- The first wait is not refused. -/
  first : ∀ w e, r.collector.waits[0]? = some w → w.answer ≠ some (.error e)
  /-- It is complete only when nothing is outstanding. -/
  complete : ∀ w, r.collector.waits[0]? = some w → w.answer = some (.ok .complete) →
    r.collector.ledger.outstanding = 0
  /-- It is stopped only when its signal has been fired or dropped. -/
  stopped : ∀ w, r.collector.waits[0]? = some w → w.answer = some (.ok .stopped) → w.stop ≠ .held
  /-- When nobody has anything to do and it has no answer, something is outstanding and the signal is
  held. -/
  blocked : r.Idle → ∀ w, r.collector.waits[0]? = some w → w.answer = none →
    0 < r.collector.ledger.outstanding ∧ w.stop = .held
  /-- There is only so much to do until something happens at the collector, in whatever order. -/
  rests : ∀ (ks : List Work) r', r.run? (ks.map .work) = some r' → ks.length ≤ r.rank
  /-- It gets done, and then nobody has anything to do. -/
  idle : ∃ (ks : List Work) (r' : WaitingRoom), r.run? (ks.map .work) = some r' ∧ r'.Idle
  /-- An answer stays, whatever happens. -/
  kept : ∀ later r', r.run? later = some r' → ∀ (i : Nat) w a, r.collector.waits[i]? = some w →
    w.answer = some a → ∃ w', r'.collector.waits[i]? = some w' ∧ w'.answer = some a

/-- However the steps of those who wait, of those who deliver and of those who announce follow each other,
no wait ends too early or misses its end. -/
theorem waited_run (h : (start root expected).run? events = some r) : Waited r := by
  obtain ⟨es, hes⟩ := collector_run h
  have waits := firstWaits_collector h
  have orderly := Collector.orderly_run hes
  have attentive := attentive_run h
  constructor
  · exact waits.others
  · intro w e hw ha
    cases waits.first w hw with
    | waiting unanswered => rw [unanswered] at ha; cases ha
    | complete answered done => rw [answered] at ha; cases ha
    | stopped answered gone => rw [answered] at ha; cases ha
  · intro w hw ha
    cases waits.first w hw with
    | waiting unanswered => rw [unanswered] at ha; cases ha
    | complete answered done => exact done
    | stopped answered gone => rw [answered] at ha; cases ha
  · intro w hw ha
    cases waits.first w hw with
    | waiting unanswered => rw [unanswered] at ha; cases ha
    | complete answered done => rw [answered] at ha; cases ha
    | stopped answered gone => exact gone
  · intro idle w hw ha
    obtain ⟨hsome, hheld⟩ := attentive.blocked idle hw ha
    exact ⟨Nat.pos_of_ne_zero (orderly.announced ▸ hsome), hheld⟩
  · intro ks r' hr'
    have hle := length_le_rank h hr'
    omega
  · exact exists_idle h
  · intro later r' hr' i w a hw ha
    obtain ⟨ces, hces⟩ := collector_run hr'
    obtain ⟨w', hw', lasts⟩ := Collector.lasts_run hw hces
    exact ⟨w', hw', lasts.answer a ha⟩

/-- A key that is expected. -/
def awaitedKey : ResultKey := ⟨"n", "t"⟩

/-- The result comes after the first wait has looked at the number and before it asks to be woken; a second
wait begins in between. -/
def recordedInBetween : List Event :=
  [.happen (.beginWait .held), .work (.subscribe 0), .work (.heed 0), .work (.look 0),
    .happen (.openResult awaitedKey false .empty "000000"), .happen (.beginWait .fired),
    .happen (.commit 0), .happen (.record 0), .work (.enroll 0), .work (.compare 0), .work (.look 0)]

/-- The first wait is then complete, and the second one has been refused. -/
theorem waited_recordedInBetween :
    ∃ r w w', (start "out" [awaitedKey]).run? recordedInBetween = some r ∧
      r.collector.waits = [w, w'] ∧ w.answer = some (.ok .complete) ∧
      r.collector.ledger.outstanding = 0 ∧ w'.answer = some (.error .alreadyWaited) := by
  have hsome : ((start "out" [awaitedKey]).run? recordedInBetween).isSome = true := by decide +kernel
  have waited := waited_run (Option.some_get hsome).symm
  exact ⟨_, _, _, (Option.some_get hsome).symm, rfl, rfl, waited.complete _ rfl rfl,
    waited.others 1 _ rfl (by decide)⟩

end WaitingRoom

end ClusterSurvey

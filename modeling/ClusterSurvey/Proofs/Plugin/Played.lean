import ClusterSurvey.Proofs.Plugin.NodeByNode
import ClusterSurvey.Rehearsal.Watch

/-!
# Plays of a monitor

When a monitor is played against a script it does what a monitor at work can do: each look is an event and
its answer another one, each report is sent by itself, and a mailbox that its reader empties is a channel from
which one report after the other is taken (`play_reached`, the result of this module).  So whatever holds of
every monitor at work holds of every play, such as that no node is reported twice (`nodup_reports_play`).
-/

namespace ClusterSurvey

namespace Mailbox

/-- The reader takes some of the reports that wait: all of them, or as many as bring it to its limit. -/
theorem drain_eq (m : Mailbox) (below : ∀ n, m.limit = some n → m.taken.length ≤ n) :
    ∃ k ≤ m.waiting.length,
      m.drain =
        { m with
          waiting := []
          taken := m.taken ++ m.waiting.take k
          isOpen := m.isOpen && m.limit ≠ some (m.taken.length + k) } ∧
      (∀ n, m.limit = some n → m.taken.length + k ≤ n) ∧
      (k = m.waiting.length ∨ m.limit = some (m.taken.length + k)) := by
  cases hl : m.limit with
  | none =>
    refine ⟨m.waiting.length, Nat.le_refl _, ?_, by simp, .inl rfl⟩
    simp [drain, hl]
  | some n =>
    have hle := below n hl
    refine ⟨min (n - m.taken.length) m.waiting.length, Nat.min_le_right _ _, ?_, ?_, ?_⟩
    · have htake : m.waiting.take (n - m.taken.length) =
          m.waiting.take (min (n - m.taken.length) m.waiting.length) :=
        List.take_eq_take_iff.mpr (by omega)
      rw [← htake]
      simp [drain, hl]
    · rintro n' ⟨rfl⟩
      omega
    · rw [Option.some_inj]
      omega

/-- A mailbox keeps its size. -/
theorem capacity_put (m : Mailbox) (r : LocalResult) : (m.put r).1.capacity = m.capacity := by
  unfold put
  split
  · rfl
  · split
    · rfl
    · dsimp only
      split <;> rfl

end Mailbox

namespace Vigil

variable {v v' v'' : Vigil} {e : Event} {m : Mailbox}

/-- Whether events lead from one state to another. -/
def Reaches (v v' : Vigil) : Prop := ∃ events, v.run? events = some v'

namespace Reaches

/-- No event leads to the same state. -/
theorem refl (v : Vigil) : Reaches v v := ⟨[], rfl⟩

/-- Events lead on from where others have led. -/
theorem trans (h : Reaches v v') (h' : Reaches v' v'') : Reaches v v'' := by
  obtain ⟨es, hes⟩ := h
  obtain ⟨es', hes'⟩ := h'
  refine ⟨es ++ es', ?_⟩
  rw [run?, Machine.run?_append]
  exact Option.bind_eq_some_iff.mpr ⟨v', hes, hes'⟩

/-- An event leads on. -/
theorem step (he : v.step? e = some v') : Reaches v v' :=
  ⟨[e], Option.bind_eq_some_iff.mpr ⟨v', he, rfl⟩⟩

/-- The reader takes reports. -/
theorem takes (heard : v.heard = true) (k : Nat) (there : v.taken + k ≤ v.sent.length) :
    Reaches v { v with taken := v.taken + k } := by
  induction k with
  | zero => exact refl v
  | succ k ih =>
    refine (ih (by omega)).trans (step (e := .take) ?_)
    have hlt : v.taken + k < v.sent.length := by omega
    simp only [step?, heard, hlt, and_self, if_true]
    rfl

end Reaches

/-! ### The mailbox -/

/-- Whether the reports of a monitor at work have gone through a mailbox. -/
structure Posts (m : Mailbox) (v : Vigil) : Prop where
  capacity : v.capacity = m.capacity
  heard : v.heard = m.isOpen
  sent : v.taken ≤ v.sent.length
  taken : m.taken = v.sent.take v.taken
  waiting : m.isOpen = true → m.waiting = v.sent.drop v.taken
  closed : m.isOpen = false → m.waiting = []
  below : ∀ n, m.limit = some n → m.taken.length ≤ n

/-- The reader takes what waits, and may leave then. -/
theorem Posts.drain (h : Posts m v) : ∃ taken heard,
    v.Reaches { v with taken := taken, heard := heard } ∧
      Posts m.drain { v with taken := taken, heard := heard } := by
  obtain ⟨k, hk, hdrain, below, all⟩ := m.drain_eq h.below
  have htaken : m.taken.length = v.taken := by rw [h.taken, List.length_take, Nat.min_eq_left h.sent]
  rw [hdrain]
  cases hopen : m.isOpen with
  | false =>
    have hnil := h.closed hopen
    have hzero : k = 0 := by simpa [hnil] using hk
    refine ⟨v.taken, v.heard, .refl v, h.capacity, ?_, h.sent, ?_, ?_, fun _ => rfl, ?_⟩
    · rw [h.heard, hopen]
      rfl
    · simp [hnil, h.taken]
    · simp
    · intro n hn
      simpa [hnil] using h.below n hn
  | true =>
    have hwaiting := h.waiting hopen
    have hthere : v.taken + k ≤ v.sent.length := by
      rw [hwaiting, List.length_drop] at hk
      have hle := h.sent
      omega
    have htakes := Reaches.takes (h.heard.trans hopen) k hthere
    have hall : m.taken ++ m.waiting.take k = v.sent.take (v.taken + k) := by
      rw [h.taken, hwaiting, List.take_add]
    have hlength : (m.taken ++ m.waiting.take k).length = m.taken.length + k := by
      rw [List.length_append, List.length_take, Nat.min_eq_left hk]
    by_cases hlimit : m.limit = some (m.taken.length + k)
    · refine ⟨v.taken + k, false, htakes.trans (.step (e := .leave) rfl), h.capacity, ?_, hthere, hall,
        ?_, fun _ => rfl, ?_⟩
      · simp [hlimit]
      · simp [hlimit]
      · intro n hn
        rw [hlength]
        exact below n hn
    · refine ⟨v.taken + k, v.heard, htakes, h.capacity, ?_, hthere, hall, ?_, fun _ => rfl, ?_⟩
      · rw [h.heard, hopen]
        simp [hlimit]
      · intro _
        have hk' : k = m.waiting.length := all.resolve_right hlimit
        rw [hwaiting, List.length_drop] at hk'
        have hle := h.sent
        have hend : v.sent.length ≤ v.taken + k := by omega
        exact (List.drop_eq_nil_of_le hend).symm
      · intro n hn
        rw [hlength]
        exact below n hn

/-- What has become of a monitor that had reports to send: it has sent them all, or it has ended because
nobody reads them. -/
structure Sends (v v' : Vigil) (rest : List LocalResult) (accepted : Bool) : Prop where
  reached : v.Reaches v'
  slept : v'.slept = v.slept
  cleaned : v'.cleaned = v.cleaned
  sent : accepted = true → v'.monitor = v.monitor ∧ v'.pending = rest
  refused : accepted = false → v'.monitor.phase = .ended ∧ v'.pending = []

/-- A report finds room. -/
private theorem Posts.send (h : Posts m v) {r : LocalResult} {rest : List LocalResult}
    (pending : v.pending = r :: rest) (isOpen : m.isOpen = true)
    (room : m.waiting.length < m.capacity) :
    ∃ v', v.Sends v' rest true ∧ Posts { m with waiting := m.waiting ++ [r] } v' := by
  have heard := h.heard.trans isOpen
  have hwaiting := h.waiting isOpen
  have hroom : v.sent.length - v.taken < v.capacity := by
    rw [h.capacity, ← List.length_drop, ← hwaiting]
    exact room
  have hstep : v.step? .send = some { v with pending := rest, sent := v.sent ++ [r] } := by
    simp only [step?, pending]
    rw [if_pos fun _ => hroom, Vigil.send, if_pos heard]
  refine ⟨_, ⟨.step hstep, rfl, rfl, fun _ => ⟨rfl, rfl⟩, fun h => Bool.noConfusion h⟩, ?_⟩
  refine ⟨h.capacity, h.heard, ?_, ?_, fun _ => ?_, fun closed => ?_, h.below⟩
  · exact Nat.le_trans h.sent (by simp)
  · rw [h.taken, List.take_append_of_le_length h.sent]
  · rw [hwaiting, List.drop_append_of_le_length h.sent]
  · rw [isOpen] at closed
    cases closed

/-- A report finds nobody who reads it. -/
private theorem Posts.refuse (h : Posts m v) {r : LocalResult} {rest : List LocalResult}
    (pending : v.pending = r :: rest) (closed : m.isOpen = false) :
    ∃ v', v.Sends v' rest false ∧ Posts m v' := by
  have unheard := h.heard.trans closed
  have hstep : v.step? .send =
      some { v with monitor := { v.monitor with phase := .ended }, pending := [] } := by
    simp only [step?, pending]
    rw [if_pos (by simp [unheard]), Vigil.send, if_neg (by simp [unheard])]
  exact ⟨_, ⟨.step hstep, rfl, rfl, fun h => Bool.noConfusion h, fun _ => ⟨rfl, rfl⟩⟩,
    ⟨h.capacity, h.heard, h.sent, h.taken, h.waiting, h.closed, h.below⟩⟩

/-- A report that is put into the mailbox is sent or refused. -/
private theorem Posts.put (h : Posts m v) {r : LocalResult} {rest : List LocalResult}
    (pending : v.pending = r :: rest) (room : 0 < m.capacity) :
    ∃ v', v.Sends v' rest (m.put r).2.2 ∧ Posts (m.put r).1 v' := by
  unfold Mailbox.put
  by_cases hopen : m.isOpen = true
  · rw [if_neg (by simp [hopen])]
    by_cases hroom : m.waiting.length < m.capacity
    · rw [if_pos hroom]
      exact h.send pending hopen hroom
    · obtain ⟨taken, heard, reached, hdrained⟩ := h.drain
      have hempty : m.drain.waiting = [] := rfl
      have hcapacity : m.drain.capacity = m.capacity := rfl
      rw [if_neg hroom]
      dsimp only
      split
      · next still =>
        obtain ⟨v', sends, posts⟩ := hdrained.send pending still (by rwa [hempty, hcapacity])
        exact ⟨v', ⟨reached.trans sends.reached, sends.slept, sends.cleaned, sends.sent, sends.refused⟩,
          posts⟩
      · next gone =>
        obtain ⟨v', sends, posts⟩ := hdrained.refuse pending (Bool.eq_false_iff.mpr gone)
        exact ⟨v', ⟨reached.trans sends.reached, sends.slept, sends.cleaned, sends.sent, sends.refused⟩,
          posts⟩
  · rw [if_pos (by simpa using hopen)]
    exact h.refuse pending (Bool.eq_false_iff.mpr hopen)

/-- Reports are sent one after the other until one is refused. -/
private theorem Posts.sendAll {rs : List (String × LocalResult)} (h : Posts m v)
    (pending : v.pending = rs.map (·.2)) (room : 0 < m.capacity) :
    ∃ v', v.Sends v' [] (WatchRun.send m rs).2.2.2 ∧ Posts (WatchRun.send m rs).1 v' ∧
      ((WatchRun.send m rs).2.2.2 = true → (WatchRun.send m rs).2.1 = rs.map (·.1)) := by
  induction rs generalizing m v with
  | nil => exact ⟨v, ⟨.refl v, rfl, rfl, fun _ => ⟨rfl, pending⟩, nofun⟩, h, fun _ => rfl⟩
  | cons p rs ih =>
    obtain ⟨node, r⟩ := p
    obtain ⟨v', sends, posts⟩ := h.put pending room
    have hcapacity := m.capacity_put r
    unfold WatchRun.send
    generalize m.put r = answer at sends posts hcapacity
    obtain ⟨m', waited, accepted⟩ := answer
    cases accepted with
    | false =>
      refine ⟨v', ⟨sends.reached, sends.slept, sends.cleaned, nofun, sends.refused⟩, posts, nofun⟩
    | true =>
      obtain ⟨hmonitor, hpending⟩ := sends.sent rfl
      obtain ⟨v'', sends', posts', nodes⟩ := ih posts hpending (hcapacity ▸ room)
      refine ⟨v'', ⟨sends.reached.trans sends'.reached, sends'.slept.trans sends.slept,
        sends'.cleaned.trans sends.cleaned, fun ok => ?_, sends'.refused⟩, posts', fun ok => ?_⟩
      · obtain ⟨hmonitor', hpending'⟩ := sends'.sent ok
        exact ⟨hmonitor'.trans hmonitor, hpending'⟩
      · exact congrArg (node :: ·) (nodes ok)

/-- The instance is cleaned up, or not. -/
theorem Reaches.cleanUp (v : Vigil) (b : Bool) : v.Reaches { v with cleaned := v.cleaned || b } := by
  cases b with
  | false =>
    rw [Bool.or_false]
    exact .refl v
  | true =>
    rw [Bool.or_true]
    exact .step (e := .cleanUp) rfl

end Vigil

namespace WatchRun

variable {w : WatchRun} {v : Vigil} {s : WatchScript}

/-- Whether a play has come to where a monitor at work is. -/
structure Plays (w : WatchRun) (v : Vigil) : Prop where
  posts : Vigil.Posts w.mailbox v
  room : 0 < w.mailbox.capacity
  slept : v.slept = w.elapsed
  cleaned : v.cleaned = w.cleaned
  idle : v.pending = []
  monitor : v.monitor = w.monitor ∧ w.monitor.phase ≠ .looking ∨
    v.monitor.phase = .ended ∧ w.monitor.phase = .ended

private theorem capacity_send (m : Mailbox) (rs : List (String × LocalResult)) :
    (send m rs).1.capacity = m.capacity := by
  induction rs generalizing m with
  | nil => rfl
  | cons p rs ih =>
    obtain ⟨node, r⟩ := p
    have hput := m.capacity_put r
    unfold send
    generalize m.put r = answer at hput
    obtain ⟨m', waited, accepted⟩ := answer
    cases accepted with
    | false => exact hput
    | true => exact (ih m').trans hput

/-- A monitor that has not ended sleeps. -/
private theorem Plays.isAsleep (h : Plays w v) (going : w.monitor.phase ≠ .ended) :
    v.monitor = w.monitor ∧ v.IsAsleep := by
  rcases h.monitor with ⟨hmonitor, hphase⟩ | ⟨-, hended⟩
  · refine ⟨hmonitor, ?_, h.idle⟩
    rw [hmonitor]
    cases hw : w.monitor.phase with
    | asleep => rfl
    | looking => exact absurd hw hphase
    | ended => exact absurd hw going
  · exact absurd hended going

/-- A monitor does not look while it settles. -/
private theorem phase_settle_ne_looking (m : Monitor) (sent : List String) :
    (m.settle sent).phase ≠ .looking := by
  unfold Monitor.settle
  split <;> dsimp only <;> split <;> simp

/-- A look of a play is one of a monitor at work. -/
private theorem Plays.look (h : Plays w v) (going : w.monitor.phase ≠ .ended)
    (kept : w.cleaned = false) :
    ∃ v', v.Reaches v' ∧
      Plays (WatchRun.look s { w with elapsed := w.elapsed + w.monitor.owner.settings.interval }) v' := by
  obtain ⟨hmonitor, asleep⟩ := h.isAsleep going
  have hcleaned := h.cleaned.trans kept
  let o : Observation := (s.answers[w.looks]?).getD (.ok [])
  let m : Monitor := w.monitor.wake false
  let woken : Vigil :=
    { v with monitor := m, slept := v.slept + w.monitor.owner.settings.interval }
  let answered : Vigil := { woken with monitor := (m.observe o).1, pending := (m.observe o).2 }
  have hwake : v.step? .wake = some woken := by
    simp only [Vigil.step?, if_pos asleep, hcleaned, hmonitor, woken, m]
  have looking : woken.monitor.phase = .looking := rfl
  have hanswer : woken.step? (.answer o) = some answered := by
    rw [Vigil.step?, if_pos looking]
  have hposts : Vigil.Posts w.mailbox answered :=
    ⟨h.posts.capacity, h.posts.heard, h.posts.sent, h.posts.taken, h.posts.waiting, h.posts.closed,
      h.posts.below⟩
  obtain ⟨v', sends, posts, nodes⟩ := hposts.sendAll rfl h.room
  have hcapacity := capacity_send w.mailbox (m.reports o)
  have hlook : WatchRun.look s { w with elapsed := w.elapsed + w.monitor.owner.settings.interval } =
      let sent := send w.mailbox (m.reports o)
      let m := if sent.2.2.2 then m.settle sent.2.1 else { m with phase := .ended }
      { w with
        elapsed := w.elapsed + w.monitor.owner.settings.interval
        monitor := m
        mailbox := sent.1.drain
        looks := w.looks + 1
        cleaned := w.cleaned ||
          (w.looks + 1 = s.cleanAfter && (m.phase ≠ .ended || sent.2.2.1)) } := rfl
  rw [hlook]
  generalize send w.mailbox (m.reports o) = outcome at sends posts nodes hcapacity
  obtain ⟨mailbox, reported, waited, ok⟩ := outcome
  obtain ⟨taken, heard, drained, posts'⟩ := posts.drain
  dsimp only
  generalize (decide (w.looks + 1 = s.cleanAfter) && _) = cleanUp
  refine ⟨_, (Vigil.Reaches.step hwake).trans ((Vigil.Reaches.step hanswer).trans
    (sends.reached.trans (drained.trans (.cleanUp _ cleanUp)))), ?_⟩
  refine ⟨⟨posts'.capacity, posts'.heard, posts'.sent, posts'.taken, posts'.waiting, posts'.closed,
    posts'.below⟩, ?_, ?_, ?_, ?_, ?_⟩
  · show 0 < mailbox.capacity
    rw [hcapacity]
    exact h.room
  · show v'.slept = w.elapsed + w.monitor.owner.settings.interval
    rw [sends.slept]
    exact congrArg (· + w.monitor.owner.settings.interval) h.slept
  · show (v'.cleaned || cleanUp) = (w.cleaned || cleanUp)
    rw [sends.cleaned]
    exact congrArg (· || cleanUp) h.cleaned
  · cases ok with
    | true => exact (sends.sent rfl).2
    | false => exact (sends.refused rfl).2
  · cases ok with
    | true =>
      have all : reported = (m.reports o).map (·.1) := nodes rfl
      rw [if_pos rfl, all]
      exact .inl ⟨(sends.sent rfl).1, phase_settle_ne_looking _ _⟩
    | false => exact .inr ⟨(sends.refused rfl).1, rfl⟩

/-- The loop of a play goes on as a monitor at work can. -/
private theorem Plays.loop (h : Plays w v) (fuel : Nat) :
    ∃ v', v.Reaches v' ∧ Plays (WatchRun.loop s fuel w) v' := by
  induction fuel generalizing w v with
  | zero => exact ⟨v, .refl v, h⟩
  | succ fuel ih =>
    unfold WatchRun.loop
    split
    · exact ⟨v, .refl v, h⟩
    · next going =>
      dsimp only
      split
      · next dismissed =>
        obtain ⟨hmonitor, asleep⟩ := h.isAsleep going
        have hcleaned := h.cleaned.trans dismissed
        have hwake : v.step? .wake = some { v with
            monitor := w.monitor.wake true
            slept := v.slept + w.monitor.owner.settings.interval } := by
          simp only [Vigil.step?, if_pos asleep, hcleaned, hmonitor]
        refine ⟨_, .step hwake, ⟨h.posts.capacity, h.posts.heard, h.posts.sent, h.posts.taken,
          h.posts.waiting, h.posts.closed, h.posts.below⟩, h.room, ?_, h.cleaned, h.idle,
          .inr ⟨rfl, rfl⟩⟩
        exact congrArg (· + w.monitor.owner.settings.interval) h.slept
      · next kept =>
        obtain ⟨v', reached, plays⟩ := h.look (s := s) going (Bool.eq_false_iff.mpr kept)
        obtain ⟨v'', reached', plays'⟩ := ih plays
        exact ⟨v'', reached.trans reached', plays'⟩

private theorem plays_start (i : Instance) (nodes : List String) (room : 0 < s.capacity) :
    ∃ v, (Vigil.start i nodes s.capacity).Reaches v ∧
      Plays ⟨.start i nodes, .empty s.capacity s.closeAfter, 0, 0, s.cleanAfter = 0⟩ v := by
  have hphase : (Monitor.start i nodes).phase ≠ .looking := by
    unfold Monitor.start
    split <;> dsimp only
    · simp
    · split <;> simp
  have cleaned := Vigil.Reaches.cleanUp (Vigil.start i nodes s.capacity) (s.cleanAfter = 0)
  by_cases hclosed : s.closeAfter = some 0
  · refine ⟨_, cleaned.trans (.step (e := .leave) rfl), ⟨rfl, ?_, Nat.le_refl _, rfl, fun _ => rfl,
      fun _ => rfl, fun n _ => Nat.zero_le n⟩, room, rfl, rfl, rfl, .inl ⟨rfl, hphase⟩⟩
    simp [Mailbox.empty, hclosed]
  · refine ⟨_, cleaned, ⟨rfl, ?_, Nat.le_refl _, rfl, fun _ => rfl, fun _ => rfl,
      fun n _ => Nat.zero_le n⟩, room, rfl, Bool.false_or _, rfl, .inl ⟨rfl, hphase⟩⟩
    simp [Mailbox.empty, hclosed, Vigil.start]

/-- Every play of a monitor whose reports find a place to wait is a run of the monitor at work. -/
theorem play_reached (i : Instance) (nodes : List String) (s : WatchScript) (room : 0 < s.capacity) :
    ∃ v, (Vigil.start i nodes s.capacity).Reaches v ∧ Plays (play i nodes s) v := by
  obtain ⟨v, reached, plays⟩ := plays_start i nodes room
  obtain ⟨v', reached', plays'⟩ := plays.loop (s.cleanAfter + s.answers.length + 2)
  exact ⟨v', reached.trans reached', plays'⟩

/-- No play reports a node of a daemon set twice. -/
theorem nodup_reports_play {i : Instance} (hd : i.definition.driver = .daemonSet)
    (nodes : List String) (s : WatchScript) (room : 0 < s.capacity) :
    ((play i nodes s).reports.map (·.key.node)).Nodup := by
  obtain ⟨v, ⟨events, h⟩, plays⟩ := play_reached i nodes s room
  have surveyed := Vigil.surveyed_run hd h
  have once := surveyed.thrifty.once
  rw [surveyed.reported] at once
  have htaken : (play i nodes s).reports = v.sent.take v.taken := plays.posts.taken
  rw [htaken]
  exact once.sublist (((List.take_sublist _ _).trans (Vigil.carried_run h).sent_sublist).map _)

end WatchRun

end ClusterSurvey

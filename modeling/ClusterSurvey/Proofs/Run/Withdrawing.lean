import ClusterSurvey.Proofs.Plugin.Withdrawal
import ClusterSurvey.Proofs.Run.Cleanup
import ClusterSurvey.Proofs.Run.Verdict

/-!
# Cleaning up the plugins of a run that is watched

A run marks a plugin and asks for its deletion in one go, and its monitors go on meanwhile.  What it
does to each of its plugins is one of the ways in which a monitor, the clean-up and the cluster can go on
beside each other (`watched_run`).  So what holds of every single instance that is cleaned up while it is
watched holds of the plugins of whole runs: in a run whose cluster shows all plugins as they are nothing
fails but a job that has been cleaned up (`job_of_failed`, the result of this module).
-/

namespace ClusterSurvey

namespace Withdrawal

variable {i : Instance} {nodes : List String} {w w' : Withdrawal} {e : Event}

/-- Whether a state is reached while the cluster shows the instance as it is. -/
def Reached (i : Instance) (nodes : List String) (w : Withdrawal) : Prop :=
  ∃ events, (start i nodes).run? events = some w ∧ Machine.Along step? Shows (start i nodes) events

theorem Reached.step (h : Reached i nodes w) (he : w.step? e = some w') (shows : Shows w e) :
    Reached i nodes w' := by
  obtain ⟨events, hw, along⟩ := h
  refine ⟨events ++ [e], ?_, (Machine.along_concat hw).mpr ⟨along, shows⟩⟩
  rw [run?, Machine.run?_concat]
  exact Option.bind_eq_some_iff.mpr ⟨w, hw, he⟩

/-- A clean-up in one go is one step after the other. -/
theorem Reached.cleanUp (h : Reached i nodes w) (idle : w.due = []) (unmarked : w.cleaned = false) :
    Reached i nodes { w with cleaned := true, made := w.made ++ w.owner.cleanup false } := by
  obtain ⟨monitor, cleaned, due, made, gone, sent⟩ := w
  cases idle
  cases unmarked
  have hmarked := h.step (e := .mark) rfl trivial
  have hdone := (hmarked.step (e := .ask) rfl trivial).step (e := .ask) rfl trivial
  dsimp only at hdone
  rw [List.append_assoc] at hdone
  exact hdone

end Withdrawal

namespace Run

variable {root : String} {settings : Settings} {instances : List Instance}
variable {nodes : Except ClusterError (List String)} {service : Except CertificateError ServerSide}
variable {r r' : Run} {e : Event} {events : List Event} {n : Nat} {m : Monitor} {w : Withdrawal}

/-- Whether the cluster shows each plugin as it is: all well, or nothing when the run has asked for the
deletion of its units. -/
def Shows (r : Run) : Event → Prop
  | .observe n (.ok units) => ∀ m, r.monitors[n]? = some m →
      m.owner.AllWell units ∨ (units = [] ∧ r.cleaned[n]? = some true)
  | .observe _ (.error _) => False
  | _ => True

/-- What has been done to the plugin at a position: its monitor, its mark and the deletion of its units
are those of an instance that is watched and cleaned up. -/
structure Tracked (r : Run) (n : Nat) (m : Monitor) (w : Withdrawal) : Prop where
  monitor : w.monitor = m
  owner : r.instances[n]? = some m.owner
  cleaned : r.cleaned[n]? = some w.cleaned
  idle : w.due = []
  asked : w.cleaned = true → w.isAsked = true
  reached : Withdrawal.Reached m.owner r.nodes w

namespace Tracked

/-- What happens elsewhere does not matter. -/
theorem of_same (h : Tracked r n m w) (instances : r'.instances = r.instances)
    (nodes : r'.nodes = r.nodes) (cleaned : r'.cleaned[n]? = r.cleaned[n]?) : Tracked r' n m w :=
  ⟨h.monitor, instances ▸ h.owner, cleaned ▸ h.cleaned, h.idle, h.asked, nodes ▸ h.reached⟩

/-- The monitor wakes. -/
theorem woke (h : Tracked r n m w) (asleep : m.phase = .asleep) (instances : r'.instances = r.instances)
    (nodes : r'.nodes = r.nodes) (cleaned : r'.cleaned = r.cleaned) :
    Tracked r' n (m.wake (r.cleaned[n]?.getD false)) { w with monitor := m.wake w.cleaned } := by
  obtain ⟨rfl, howner, hcleaned, hidle, hasked, hreached⟩ := h
  have hstep : w.step? .wake = some { w with monitor := w.monitor.wake w.cleaned } := if_pos asleep
  refine ⟨?_, instances ▸ howner, cleaned ▸ hcleaned, hidle, hasked,
    nodes ▸ hreached.step hstep trivial⟩
  rw [hcleaned]
  rfl

/-- Units that the cluster does not show any more may have been gone since the run asked for it. -/
private theorem shown (h : Tracked r n m w) {units : List ExecutionUnit}
    (shows : m.owner.AllWell units ∨ (units = [] ∧ r.cleaned[n]? = some true)) :
    ∃ gone, Withdrawal.Reached m.owner r.nodes { w with gone := gone } ∧
      (m.owner.AllWell units ∨ (units = [] ∧ gone = true)) := by
  rcases shows with well | ⟨hnone, hmark⟩
  · exact ⟨w.gone, h.reached, .inl well⟩
  · by_cases gone : w.gone = true
    · exact ⟨w.gone, h.reached, .inr ⟨hnone, gone⟩⟩
    · have hcleaned : w.cleaned = true := Option.some.inj (h.cleaned.symm.trans hmark)
      have hstep : w.step? .vanish = some { w with gone := true } :=
        if_pos ⟨h.asked hcleaned, by simpa using gone⟩
      exact ⟨true, h.reached.step hstep trivial, .inr ⟨hnone, rfl⟩⟩

/-- The cluster answers it. -/
theorem observed (h : Tracked r n m w) {units : List ExecutionUnit} (looking : m.phase = .looking)
    (shows : m.owner.AllWell units ∨ (units = [] ∧ r.cleaned[n]? = some true))
    (instances : r'.instances = r.instances) (nodes : r'.nodes = r.nodes)
    (cleaned : r'.cleaned = r.cleaned) :
    ∃ w', Tracked r' n (m.observe (.ok units)).1 w' ∧
      w'.sent = w.sent ++ (m.observe (.ok units)).2 := by
  obtain ⟨gone, hreached, hshows⟩ := h.shown shows
  obtain ⟨rfl, howner, hcleaned, hidle, hasked, -⟩ := h
  have hsame := w.monitor.owner_observe (.ok units)
  refine ⟨{ w with
      gone := gone
      monitor := (w.monitor.observe (.ok units)).1
      sent := w.sent ++ (w.monitor.observe (.ok units)).2 },
    ⟨rfl, ?_, cleaned ▸ hcleaned, hidle, ?_, ?_⟩, rfl⟩
  · rw [instances, hsame, howner]
  · intro hmark
    have hold := hasked hmark
    unfold Withdrawal.isAsked Withdrawal.owner at hold ⊢
    rw [← hsame] at hold
    exact hold
  · rw [nodes, hsame]
    exact hreached.step (e := .answer (.ok units)) (if_pos looking) hshows

/-- The plugin is cleaned up: it is marked, and then its units and its secret are to be deleted, unless
that has been done before. -/
theorem cleanedUp (h : Tracked r n m w) (instances : r'.instances = r.instances)
    (nodes : r'.nodes = r.nodes) (cleaned : r'.cleaned[n]? = some true) :
    ∃ w', Tracked r' n m w' ∧ w'.sent = w.sent := by
  obtain ⟨rfl, howner, -, hidle, hasked, hreached⟩ := h
  cases hbefore : w.cleaned with
  | true =>
    refine ⟨w, ⟨rfl, instances ▸ howner, ?_, hidle, hasked, nodes ▸ hreached⟩, rfl⟩
    rw [cleaned, hbefore]
  | false =>
    refine ⟨{ w with cleaned := true, made := w.made ++ w.owner.cleanup false },
      ⟨rfl, instances ▸ howner, cleaned, hidle, fun _ => ?_,
        nodes ▸ hreached.cleanUp hidle hbefore⟩, rfl⟩
    exact decide_eq_true (List.mem_append_right _ List.mem_cons_self)

/-- A plugin that is launched has not been cleaned up. -/
theorem launched {i : Instance} (accounted : Accounted r) (launching : r.phase = .launching n)
    (at_n : r.instances[n]? = some i) (instances : r'.instances = r.instances)
    (nodes : r'.nodes = r.nodes) (cleaned : r'.cleaned = r.cleaned) :
    Tracked r' n (.start i r.nodes) (.start i r.nodes) := by
  have howner : (Monitor.start i r.nodes).owner = i := (Withdrawal.marked_start i r.nodes).owner
  have hlt : n < r.cleaned.length := by
    rw [accounted.flags]
    exact (List.getElem?_eq_some_iff.mp at_n).1
  have hunmarked : r.cleaned[n]? = some false := by
    have hphase := accounted.phase
    rw [launching] at hphase
    have hnot := hphase n
    rw [List.getElem?_eq_getElem hlt] at hnot ⊢
    simpa using hnot
  refine ⟨rfl, ?_, ?_, rfl, nofun, ?_⟩
  · rw [instances, at_n, howner]
  · rw [cleaned, hunmarked]
    rfl
  · rw [nodes, howner]
    exact ⟨[], rfl, trivial⟩

end Tracked

/-! ### The events of a run -/

/-- A monitor that wakes was asleep. -/
theorem wake_of_step? (h : r.step? (.wake n) = some r') :
    ∃ m, r.monitors[n]? = some m ∧ m.phase = .asleep ∧
      r' = r.setMonitor n (m.wake (r.cleaned[n]?.getD false)) := by
  simp only [step?] at h
  split at h
  · next m hm =>
    split at h
    · next hw =>
      cases h
      exact ⟨m, hm, hw.2, rfl⟩
    · cases h
  · cases h

/-- A monitor that is answered was looking. -/
theorem observe_of_step? {o : Observation} (h : r.step? (.observe n o) = some r') :
    ∃ m, r.monitors[n]? = some m ∧ m.phase = .looking ∧ r' = r.observe n m o := by
  simp only [step?] at h
  split at h
  · next m hm =>
    split at h
    · next hw =>
      cases h
      exact ⟨m, hm, hw.2, rfl⟩
    · cases h
  · cases h

private theorem getElem?_set_of_some {monitors : List Monitor} {m m' : Monitor}
    (h : monitors[n]? = some m) : (monitors.set n m')[n]? = some m' :=
  List.getElem?_set_self (List.getElem?_eq_some_iff.mp h).1

/-- Every event keeps track of a plugin, and takes no report back. -/
theorem Tracked.move (h : Tracked r n m w) (at_n : r.monitors[n]? = some m)
    (he : r.step? e = some r') (shows : Shows r e) :
    ∃ m' w', r'.monitors[n]? = some m' ∧ Tracked r' n m' w' ∧ w.sent ⊆ w'.sent := by
  have kept (monitors : r'.monitors = r.monitors) (instances : r'.instances = r.instances)
      (nodes : r'.nodes = r.nodes) (cleaned : r'.cleaned = r.cleaned) :
      ∃ m' w', r'.monitors[n]? = some m' ∧ Tracked r' n m' w' ∧ w.sent ⊆ w'.sent :=
    ⟨m, w, monitors ▸ at_n, h.of_same instances nodes (by rw [cleaned]), fun _ => id⟩
  cases e with
  | wake k =>
    obtain ⟨mk, hk, asleep, rfl⟩ := wake_of_step? he
    by_cases hkn : k = n
    · subst hkn
      obtain rfl : mk = m := Option.some.inj (hk.symm.trans at_n)
      exact ⟨_, _, getElem?_set_of_some at_n, h.woke asleep rfl rfl rfl, fun _ => id⟩
    · exact ⟨m, w, (List.getElem?_set_ne hkn).trans at_n, h.of_same rfl rfl rfl, fun _ => id⟩
  | observe k o =>
    obtain ⟨mk, hk, looking, rfl⟩ := observe_of_step? he
    by_cases hkn : k = n
    · subst hkn
      obtain rfl : mk = m := Option.some.inj (hk.symm.trans at_n)
      cases o with
      | error err => exact shows.elim
      | ok units =>
        obtain ⟨w', tracked, hsent⟩ : ∃ w', Tracked (r.observe k mk (.ok units)) k _ w' ∧ _ :=
          h.observed looking (shows mk at_n) rfl rfl rfl
        exact ⟨_, w', getElem?_set_of_some at_n, tracked, hsent ▸ List.subset_append_left _ _⟩
    · exact ⟨m, w, (List.getElem?_set_ne hkn).trans at_n, h.of_same rfl rfl rfl, fun _ => id⟩
  | launch issued replies =>
    cases move_of_step? he with
    | refused k i err calls launching at_k makes cause => exact kept rfl rfl rfl rfl
    | launched k i calls phase launching at_k makes next =>
      refine ⟨m, w, ?_, h.of_same rfl rfl rfl, fun _ => id⟩
      exact (List.getElem?_append_left (List.getElem?_eq_some_iff.mp at_n).1).trans at_n
  | cleanUp replies =>
    cases move_of_step? he with
    | cleanedUp k i ending cleaning at_k =>
      by_cases hkn : k = n
      · subst hkn
        have hlt := (List.getElem?_eq_some_iff.mp h.cleaned).1
        obtain ⟨w', tracked, hsent⟩ : ∃ w',
            Tracked { r.cleanUp k i replies with phase := r.phaseBehind k ending } k m w' ∧ _ :=
          h.cleanedUp rfl rfl (List.getElem?_set_self hlt)
        exact ⟨m, w', at_n, tracked, hsent ▸ fun _ => id⟩
      · exact ⟨m, w, at_n, h.of_same rfl rfl (List.getElem?_set_ne hkn), fun _ => id⟩
  | _ =>
    cases move_of_step? he
    exact kept rfl rfl rfl rfl

/-- Monitors are added by launches only. -/
theorem monitors_of_step? (he : r.step? e = some r') :
    r'.monitors.length = r.monitors.length ∨
      ∃ k i, r.phase = .launching k ∧ r.instances[k]? = some i ∧
        r'.monitors = r.monitors ++ [.start i r.nodes] ∧ r'.instances = r.instances ∧
        r'.nodes = r.nodes ∧ r'.cleaned = r.cleaned := by
  cases move_of_step? he with
  | launched k i calls phase launching at_k makes next =>
    exact .inr ⟨k, i, launching, at_k, rfl, rfl, rfl, rfl⟩
  | woke monitors watched same => exact .inl same
  | observed monitors reports watched same failures => exact .inl same
  | _ => exact .inl rfl

/-- Reports are sent by monitors only. -/
theorem sent_of_step? (he : r.step? e = some r') {x : LocalResult} (hx : x ∈ r'.sent) :
    x ∈ r.sent ∨ ∃ n o m, e = .observe n o ∧ r.monitors[n]? = some m ∧ m.phase = .looking ∧
      r' = r.observe n m o ∧ x ∈ (m.observe o).2 := by
  cases e with
  | observe n o =>
    obtain ⟨m, hm, looking, rfl⟩ := observe_of_step? he
    exact (List.mem_append.mp hx).imp_right fun hnew => ⟨n, o, m, rfl, hm, looking, rfl, hnew⟩
  | _ =>
    left
    cases move_of_step? he <;> exact hx

/-! ### Whole runs -/

/-- A run all of whose plugins have been kept track of, and who sent its reports. -/
structure Watched (r : Run) : Prop where
  each : ∀ n m, r.monitors[n]? = some m → ∃ w, Tracked r n m w
  sent : ∀ x ∈ r.sent, ∃ n m w, r.monitors[n]? = some m ∧ Tracked r n m w ∧ x ∈ w.sent

/-- Every event keeps track of all plugins. -/
theorem Watched.move (h : Watched r) (accounted : Accounted r)
    (count : ∀ n, r.phase = .launching n → r.monitors.length = n) (he : r.step? e = some r')
    (shows : Shows r e) : Watched r' := by
  constructor
  · intro n m' hm'
    cases hold : r.monitors[n]? with
    | some m =>
      obtain ⟨w, tracked⟩ := h.each n m hold
      obtain ⟨m'', w', hm'', tracked', -⟩ := tracked.move hold he shows
      obtain rfl : m'' = m' := Option.some.inj (hm''.symm.trans hm')
      exact ⟨w', tracked'⟩
    | none =>
      have hlong := List.getElem?_eq_none_iff.mp hold
      have hlt := (List.getElem?_eq_some_iff.mp hm').1
      rcases monitors_of_step? he with hsame | ⟨k, i, launching, at_k, hmonitors, hinst, hnodes, hclean⟩
      · omega
      · have hcount := count k launching
        rw [hmonitors, List.length_append, List.length_singleton] at hlt
        obtain rfl : n = k := by omega
        rw [hmonitors, ← hcount, List.getElem?_concat_length] at hm'
        obtain rfl := Option.some.inj hm'
        exact ⟨_, .launched accounted launching at_k hinst hnodes hclean⟩
  · intro x hx
    rcases sent_of_step? he hx with hold | ⟨n, o, m, rfl, hm, looking, rfl, hnew⟩
    · obtain ⟨n, m, w, hm, tracked, hw⟩ := h.sent x hold
      obtain ⟨m', w', hm', tracked', hsub⟩ := tracked.move hm he shows
      exact ⟨n, m', w', hm', tracked', hsub hw⟩
    · cases o with
      | error err => exact shows.elim
      | ok units =>
        obtain ⟨w, tracked⟩ := h.each n m hm
        obtain ⟨w', tracked', hsent⟩ : ∃ w', Tracked (r.observe n m (.ok units)) n _ w' ∧ _ :=
          tracked.observed looking (shows m hm) rfl rfl rfl
        refine ⟨n, _, w', getElem?_set_of_some hm, tracked', ?_⟩
        rw [hsent]
        exact List.mem_append_right _ hnew

/-- At the start nothing is watched. -/
theorem Begins.watched (b : Begins root settings instances r) : Watched r := by
  have hnone : r.monitors = [] ∧ r.sent = [] := by
    cases b <;> exact ⟨rfl, rfl⟩
  constructor
  · intro n m hm
    rw [hnone.1] at hm
    cases hm
  · intro x hx
    rw [hnone.2] at hx
    cases hx

/-- What a run does to its plugins is what monitors, clean-ups and the cluster can do beside each other,
as long as the cluster shows the plugins as they are. -/
theorem watched_run (h : (startWith root settings instances nodes service).run? events = some r)
    (shows : Machine.Along step? Shows (startWith root settings instances nodes service) events) :
    Watched r := by
  revert shows
  refine Machine.run?_induction
    (P := fun es r => Machine.Along step? Shows
      (startWith root settings instances nodes service) es → Watched r)
    (fun _ => begins_startWith.watched) ?_ h
  intro es s e s' hs ih he shows
  obtain ⟨hbefore, hnow⟩ := (Machine.along_concat hs).mp shows
  exact (ih hbefore).move (accounted_run hs) (judged_run hs).launching he hnow

/-- In a run whose cluster shows all plugins as they are no key fails but that of a job that has been
cleaned up. -/
theorem job_of_failed (h : (startWith root settings instances nodes service).run? events = some r)
    (shows : Machine.Along step? Shows (startWith root settings instances nodes service) events)
    {k : ResultKey} (hk : r.collector.ledger.status.get? k = some .failed) :
    ∃ (n : Nat) (i : Instance), instances[n]? = some i ∧ i.definition.driver = .job ∧
      k = Monitor.jobKey i ∧ r.cleaned[n]? = some true := by
  have collecting := collecting_run h
  obtain ⟨x, hx, hkey, -⟩ := collecting.reported.recorded k (collecting.orderly.mem_of_failed hk)
  obtain ⟨n, m, w, -, tracked, hw⟩ := (watched_run h shows).sent x hx
  obtain ⟨es, hrun, along⟩ := tracked.reached
  obtain ⟨hd, gone, hsent, -⟩ :=
    (Withdrawal.spoken_run hrun along).resolve_left (List.ne_nil_of_mem hw)
  rw [hsent] at hw
  obtain rfl := List.mem_singleton.mp hw
  refine ⟨n, m.owner, instances_run h ▸ tracked.owner, hd, hkey.symm, ?_⟩
  rw [tracked.cleaned, (Withdrawal.marked_run hrun).gone gone]

end Run

end ClusterSurvey

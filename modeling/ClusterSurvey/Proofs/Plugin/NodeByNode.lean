import ClusterSurvey.Proofs.Plugin.Vigil

/-!
# The monitor of a daemon set, node by node

The monitor of a daemon set reports each listed node once, for the first failing unit that an answer shows
there, as soon as one does.  It ends when all listed nodes have been reported, when it wakes after its
instance was cleaned up, or when it has something to send and nobody reads it.
-/

namespace ClusterSurvey.Vigil

open Monitor (failing? firstFailing? nodeReport allReported)

variable {i : Instance} {nodes : List String} {capacity : Nat} {v v' : Vigil} {e : Event}
  {events : List Event}

/-! ### What it reports -/

/-- What the monitor of a daemon set has made of the answers. -/
structure Surveyed (i : Instance) (nodes : List String) (start : Vigil) (events : List Event)
    (v : Vigil) : Prop where
  /-- It watches the listed nodes. -/
  listed : v.monitor.nodes = firstOccurrences nodes
  /-- It has reported some of them, none of them twice. -/
  thrifty : v.monitor.Thrifty
  /-- These are the nodes of the reports. -/
  reported : v.monitor.reported = (start.raised events).map (·.key.node)
  /-- The reports are those of the first failing units on the listed nodes. -/
  raised : ∀ r, r ∈ start.raised events ↔
    ∃ n ∈ nodes, ∃ p, firstFailing? n (answers events) = some p ∧ r = nodeReport i n p

/-- A listed node has been reported if some answer has shown a failing unit there. -/
theorem Surveyed.mem_reported_iff {v₀ : Vigil} (h : Surveyed i nodes v₀ events v) {n : String}
    (listed : n ∈ nodes) :
    n ∈ v.monitor.reported ↔ (firstFailing? n (answers events)).isSome := by
  rw [h.reported, List.mem_map]
  constructor
  · rintro ⟨r, hr, rfl⟩
    obtain ⟨n, -, p, hp, rfl⟩ := (h.raised r).mp hr
    exact Option.isSome_of_eq_some hp
  · intro hsome
    obtain ⟨p, hp⟩ := Option.isSome_iff_exists.mp hsome
    exact ⟨nodeReport i n p, (h.raised _).mpr ⟨n, listed, p, hp, rfl⟩, rfl⟩

/-- All nodes have been reported when each listed one has. -/
theorem Surveyed.allReported_iff {v₀ : Vigil} (h : Surveyed i nodes v₀ events v) :
    allReported v.monitor.nodes v.monitor.reported = true ↔ ∀ n ∈ nodes, n ∈ v.monitor.reported := by
  have hdistinct : v.monitor.nodes.Nodup := h.listed ▸ Monitor.nodup_firstOccurrences nodes
  rw [h.thrifty.allReported_iff hdistinct, h.listed]
  exact ⟨fun hsub n hn => hsub (Monitor.mem_firstOccurrences.mpr hn),
    fun hall n hn => hall n (Monitor.mem_firstOccurrences.mp hn)⟩

private theorem surveyed_start (hd : i.definition.driver = .daemonSet) :
    Surveyed i nodes (start i nodes capacity) [] (start i nodes capacity) where
  listed := by simp [start, Monitor.start, hd]
  thrifty := Monitor.thrifty_start i nodes
  reported := by simp [start, Monitor.start, hd, Vigil.raised, Machine.history]
  raised r := by simp [Vigil.raised, Machine.history, answers, firstFailing?]

/-- An event that is no answer adds nothing. -/
private theorem Surveyed.of_quiet {v₀ : Vigil} (h : Surveyed i nodes v₀ events v)
    (hr : v₀.run? events = some v) (he : v.step? e = some v') (quiet : e.answer? = none)
    (listed : v'.monitor.nodes = v.monitor.nodes)
    (reported : v'.monitor.reported = v.monitor.reported) :
    Surveyed i nodes v₀ (events ++ [e]) v' := by
  have hanswers : answers (events ++ [e]) = answers events := by
    rw [answers_concat, quiet, Option.toList_none, List.append_nil]
  refine ⟨listed.trans h.listed, ⟨?_, ?_⟩, ?_, ?_⟩
  · rw [reported]
    exact h.thrifty.once
  · rw [reported, listed]
    exact h.thrifty.watched
  · rw [reported, raised_concat_of_quiet hr he quiet]
    exact h.reported
  · rw [raised_concat_of_quiet hr he quiet, hanswers]
    exact h.raised

/-- An answer adds the nodes on which it is the first to show a failing unit. -/
private theorem Surveyed.of_answer {v₀ : Vigil} {o : Observation} (h : Surveyed i nodes v₀ events v)
    (hr : v₀.run? events = some v) (he : v.step? (.answer o) = some v')
    (recalled : Recalled i capacity events v) (hd : i.definition.driver = .daemonSet)
    (hm : v'.monitor = (v.monitor.observe o).1) :
    Surveyed i nodes v₀ (events ++ [.answer o]) v' := by
  have hdriver : v.monitor.owner.definition.driver = .daemonSet := recalled.owner ▸ hd
  have hanswers : answers (events ++ [.answer o]) = answers events ++ [o] := answers_concat _ _
  refine ⟨?_, hm ▸ h.thrifty.observe o, ?_, fun r => ?_⟩
  · rw [hm, v.monitor.nodes_observe, h.listed]
  · rw [hm, Monitor.reported_observe hdriver, raised_concat_answer hr he, List.map_append, h.reported]
  · rw [raised_concat_answer hr he, List.mem_append, h.raised, Monitor.mem_observe hdriver, hanswers,
      h.listed, recalled.owner]
    simp only [Monitor.firstFailing?_concat, Monitor.mem_firstOccurrences]
    constructor
    · rintro (⟨n, hn, p, hp, hrep⟩ | ⟨n, hn, hnew, p, hp, hrep⟩)
      · exact ⟨n, hn, p, by rw [hp, Option.some_or], hrep⟩
      · have hnone : firstFailing? n (answers events) = none := by
          rwa [h.mem_reported_iff hn, Option.not_isSome_iff_eq_none] at hnew
        exact ⟨n, hn, p, by rw [hnone, Option.none_or, hp], hrep⟩
    · rintro ⟨n, hn, p, hp, hrep⟩
      rcases Option.or_eq_some_iff.mp hp with hbefore | ⟨hnone, hnow⟩
      · exact .inl ⟨n, hn, p, hbefore, hrep⟩
      · have hnew : n ∉ v.monitor.reported := by
          rw [h.mem_reported_iff hn, hnone]
          exact Bool.false_ne_true
        exact .inr ⟨n, hn, hnew, p, hnow, hrep⟩

/-- In every run the reports are those of the first failing units. -/
theorem surveyed_run (hd : i.definition.driver = .daemonSet)
    (h : (start i nodes capacity).run? events = some v) :
    Surveyed i nodes (start i nodes capacity) events v := by
  refine Machine.run?_induction (P := Surveyed i nodes (start i nodes capacity)) (surveyed_start hd) ?_ h
  intro es s e s' hs ih he
  cases move_of_step? he with
  | answered o looking => exact ih.of_answer hs he (recalled_run hs) hd rfl
  | woke | sent | refused | cleanedUp | took | left => exact ih.of_quiet hs he rfl rfl rfl

/-! ### When it ends -/

/-- Why the monitor of a daemon set is at its end: all nodes have been reported, it was dismissed, or it was
not heard. -/
def IsOver (events : List Event) (m : Monitor) : Prop :=
  allReported m.nodes m.reported = true ∨ Dismissed events ∨ Unheard events

private theorem isOver_start (hd : i.definition.driver = .daemonSet) :
    (start i nodes capacity).monitor.phase = .ended ↔ IsOver [] (start i nodes capacity).monitor := by
  simp only [start, Monitor.start, hd, IsOver]
  split
  · next hall => simp [hall]
  · next hall => simp [hall, Dismissed, Unheard]

private theorem isOver_step (h : v.monitor.phase = .ended ↔ IsOver events v.monitor)
    (hd : i.definition.driver = .daemonSet) (recalled : Recalled i capacity events v)
    (he : v.step? e = some v') :
    v'.monitor.phase = .ended ↔ IsOver (events ++ [e]) v'.monitor := by
  refine ended_step h recalled he (fun quiet => ?_) ?_
  · cases move_of_step? he with
    | answered o looking => cases quiet
    | woke | sent | refused | cleanedUp | took | left => exact Iff.rfl
  · rintro o rfl
    cases move_of_step? he with
    | answered o looking => exact Monitor.phase_observe (recalled.owner ▸ hd)

/-- In every run the monitor of a daemon set is at its end for one of these reasons. -/
theorem isOver_run (hd : i.definition.driver = .daemonSet)
    (h : (start i nodes capacity).run? events = some v) :
    v.monitor.phase = .ended ↔ IsOver events v.monitor :=
  Machine.run?_induction (P := fun es v => v.monitor.phase = .ended ↔ IsOver es v.monitor)
    (isOver_start hd) (fun _ _ _ _ hs ih he => isOver_step ih hd (recalled_run hs) he) h

/-! ### The whole watch -/

/-- What a monitor of a daemon set does for its nodes. -/
structure Watched (i : Instance) (nodes : List String) (capacity : Nat) (events : List Event)
    (v : Vigil) : Prop where
  /-- No node is reported twice. -/
  once : (v.sent.map (·.key.node)).Nodup
  /-- Only listed nodes are reported, for the first failing unit of the first answer that shows one. -/
  first : ∀ r ∈ v.sent, ∃ n ∈ nodes, ∃ p,
    firstFailing? n (answers events) = some p ∧ r = nodeReport i n p
  /-- When it is done with an answer and is heard, each listed node on which some answer has shown a
  failing unit has been reported. -/
  told : v.heard = true → v.pending = [] → ∀ n ∈ nodes,
    (firstFailing? n (answers events)).isSome → ∃ r ∈ v.sent, r.key.node = n
  /-- An error of the cluster changes nothing, but that the monitor sleeps again. -/
  error : v.monitor.phase = .looking → ∀ err,
    v.step? (.answer (.error err)) = some { v with monitor := { v.monitor with phase := .asleep } }
  /-- Nor do units that are not on a listed node make a difference. -/
  elsewhere : ∀ us, v.step? (.answer (.ok us)) =
    v.step? (.answer (.ok (us.filter fun u => ∃ n ∈ nodes, u.node = some n)))
  /-- A report never has to wait, if there is room for one of each listed node. -/
  room : nodes.length ≤ capacity → v.pending ≠ [] → (v.step? .send).isSome
  /-- It does not look if no nodes are listed. -/
  idle : nodes = [] → (start i nodes capacity).looks events = []
  /-- It has slept one interval more before each look, and each look but the last has been answered. -/
  paced : (start i nodes capacity).looks events =
    (List.range (begun events v.monitor.phase)).map fun k => (k + 1) * i.settings.interval
  /-- It ends exactly when all listed nodes have been reported, when it wakes after the instance was
  cleaned up, or when it has something to send after the reader has gone. -/
  ended : v.HasEnded ↔
    (∀ n ∈ nodes, ∃ r ∈ v.sent, r.key.node = n) ∨ Dismissed events ∨ Unheard events

/-- A monitor that has no nodes to watch does not look. -/
private theorem looks_of_nil (hd : i.definition.driver = .daemonSet)
    (h : (start i [] capacity).run? events = some v) : (start i [] capacity).looks events = [] := by
  refine Machine.run?_induction (P := fun es _ => (start i [] capacity).looks es = []) rfl ?_ h
  intro es s e s' hs ih he
  have hended : s.monitor.phase = .ended := by
    refine (isOver_run hd hs).mpr (.inl ?_)
    rw [(surveyed_run hd hs).listed]
    rfl
  rw [looks_concat_of_ne hs he, ih]
  rintro rfl
  cases move_of_step? he with
  | woke asleep => exact nomatch asleep.1.symm.trans hended

/-- A report finds room as long as fewer have been raised than there are nodes. -/
private theorem room_of_surveyed {v₀ : Vigil} (surveyed : Surveyed i nodes v₀ events v)
    (carried : Carried v₀ events v) (roomy : nodes.length ≤ v.capacity) (hpending : v.pending ≠ []) :
    (v.step? .send).isSome := by
  have hunheard : ¬ Unheard events := fun hu => hpending (carried.unheard hu).1.2
  have hraised : (v₀.raised events).length = v.monitor.reported.length := by
    rw [surveyed.reported, List.length_map]
  have hreported : v.monitor.reported.length ≤ (firstOccurrences nodes).length :=
    surveyed.listed ▸ (List.subperm_of_subset surveyed.thrifty.once surveyed.thrifty.watched).length_le
  have hlisted := length_firstOccurrences_le nodes
  have hsent := congrArg List.length (carried.whole hunheard)
  obtain ⟨r, rest, hrest⟩ := List.exists_cons_of_ne_nil hpending
  rw [List.length_append, hrest, List.length_cons] at hsent
  have hroom : v.sent.length - v.taken < v.capacity := by omega
  simp only [step?, hrest]
  rw [if_pos fun _ => hroom]
  rfl

/-- A monitor of a daemon set that has ended has reported all nodes, was dismissed or was not heard, and the
other way round. -/
private theorem hasEnded_iff {v₀ : Vigil} (surveyed : Surveyed i nodes v₀ events v)
    (carried : Carried v₀ events v) (isOver : v.monitor.phase = .ended ↔ IsOver events v.monitor) :
    v.HasEnded ↔ (∀ n ∈ nodes, ∃ r ∈ v.sent, r.key.node = n) ∨ Dismissed events ∨ Unheard events := by
  constructor
  · rintro ⟨hphase, hpending⟩
    by_cases hu : Unheard events
    · exact .inr (.inr hu)
    · refine (isOver.mp hphase).imp_left fun hall n hn => ?_
      have hmem := surveyed.allReported_iff.mp hall n hn
      rw [surveyed.reported, ← carried.whole hu, hpending, List.append_nil] at hmem
      exact List.mem_map.mp hmem
  · rintro (hall | hd | hu)
    · by_cases hu : Unheard events
      · exact (carried.unheard hu).1
      · have hwhole : v.monitor.reported = (v.sent ++ v.pending).map (·.key.node) := by
          rw [surveyed.reported, carried.whole hu]
        have hsent : ∀ n ∈ nodes, n ∈ v.sent.map (·.key.node) := fun n hn => List.mem_map.mpr (hall n hn)
        refine ⟨isOver.mpr (.inl (surveyed.allReported_iff.mpr fun n hn => ?_)), ?_⟩
        · rw [hwhole, List.map_append]
          exact List.mem_append_left _ (hsent n hn)
        · -- A further report would be one for a node that has been reported.
          rw [List.eq_nil_iff_forall_not_mem]
          intro r hr
          have hmem : r.key.node ∈ v.pending.map (·.key.node) := List.mem_map_of_mem hr
          have hwatched : r.key.node ∈ v.monitor.nodes := by
            refine surveyed.thrifty.watched ?_
            rw [hwhole, List.map_append]
            exact List.mem_append_right _ hmem
          rw [surveyed.listed, Monitor.mem_firstOccurrences] at hwatched
          have honce := surveyed.thrifty.once
          rw [hwhole, List.map_append] at honce
          exact (List.nodup_append'.mp honce).2.2 (hsent _ hwatched) hmem
    · exact carried.dismissed hd
    · exact (carried.unheard hu).1

/-- Whatever the cluster answers, and whenever the instance is cleaned up or the reader goes away, the
monitor of a daemon set reports the nodes as they fail, each once, and ends when it should. -/
theorem nodeByNode_run (hd : i.definition.driver = .daemonSet)
    (h : (start i nodes capacity).run? events = some v) : Watched i nodes capacity events v := by
  have recalled := recalled_run h
  have carried := carried_run h
  have surveyed := surveyed_run hd h
  have isOver := isOver_run hd h
  have hdriver : v.monitor.owner.definition.driver = .daemonSet := recalled.owner ▸ hd
  constructor
  · have honce := surveyed.thrifty.once
    rw [surveyed.reported] at honce
    exact honce.sublist (carried.sent_sublist.map _)
  · exact fun r hr => (surveyed.raised r).mp (carried.sent_sublist.subset hr)
  · intro heard hpending n hn hsome
    have hmem := (surveyed.mem_reported_iff hn).mpr hsome
    rw [surveyed.reported, ← carried.whole (recalled.not_unheard heard), hpending,
      List.append_nil] at hmem
    exact List.mem_map.mp hmem
  · intro looking err
    have hleft : allReported v.monitor.nodes v.monitor.reported ≠ true := fun hall =>
      nomatch looking.symm.trans (isOver.mpr (.inl hall))
    simp only [step?, if_pos looking, Monitor.observe_error hdriver hleft, carried.looking looking]
  · intro us
    have hfilter := Monitor.observe_filter hdriver us
    simp only [surveyed.listed, Monitor.mem_firstOccurrences] at hfilter
    simp only [step?, hfilter]
  · exact fun roomy => room_of_surveyed surveyed carried (recalled.capacity ▸ roomy)
  · rintro rfl
    exact looks_of_nil hd h
  · exact (paced_run h).looks
  · exact hasEnded_iff surveyed carried isOver

/-- A plugin that runs on every node. -/
def onEveryNode : Instance := ⟨⟨"sys", "systemd", .daemonSet, default⟩, "1", ⟨"sonde", "worker", 10000⟩⟩

/-- A unit that cannot be scheduled. -/
def stuckUnit (name : String) (node : Option String) : ExecutionUnit :=
  ⟨name, node, [⟨"Unschedulable", "no room"⟩], []⟩

/-- The cluster fails once, then shows units that are stuck on one of two nodes and elsewhere, and then one
on the other node. -/
def failingOneByOne : List Event :=
  [.wake, .answer (.error (.api "down")), .wake,
    .answer (.ok [stuckUnit "u" (some "c"), stuckUnit "v" none, stuckUnit "w" (some "b"),
      stuckUnit "x" (some "b")]),
    .send, .wake, .answer (.ok [stuckUnit "y" (some "b"), stuckUnit "z" (some "a")]), .send]

/-- The monitor has then reported both nodes and ended. -/
theorem watched_failingOneByOne :
    ∃ v, (start onEveryNode ["a", "b", "a"] 3).run? failingOneByOne = some v ∧ v.HasEnded ∧
      v.sent.map (·.key.node) = ["b", "a"] := by
  have hsent : ((start onEveryNode ["a", "b", "a"] 3).run? failingOneByOne).map
      (fun v => v.sent.map (·.key.node)) = some ["b", "a"] := rfl
  obtain ⟨v, hv, hnodes⟩ := Option.map_eq_some_iff.mp hsent
  have hall : ∀ n ∈ ["a", "b", "a"], n ∈ v.sent.map (·.key.node) := by
    rw [hnodes]
    decide
  exact ⟨v, hv, (nodeByNode_run rfl hv).ended.mpr (.inl fun n hn => List.mem_map.mp (hall n hn)), hnodes⟩

end ClusterSurvey.Vigil

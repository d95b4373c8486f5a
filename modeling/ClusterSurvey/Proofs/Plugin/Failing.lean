import ClusterSurvey.Proofs.Plugin.Reports

/-!
# Which unit a node is reported for

The monitor of a daemon set goes through the units of an answer with a growing list of nodes that it has
reported.  What it makes of the answer can be told node by node, without that list: a node on which units
are expected is reported if it has not been before, for the first unit there that fails.  Over several
answers that is the first failing unit of the first answer that shows one.
-/

namespace ClusterSurvey.Monitor

variable {i : Instance} {nodes reported : List String} {us : List ExecutionUnit} {n : String}

/-- The first failing unit that an answer shows on a node, and the reason. -/
def failing? (n : String) : Observation → Option (ExecutionUnit × String)
  | .error _ => none
  | .ok units => units.findSome? fun u => if u.node = some n then u.failure?.map (u, ·) else none

/-- The first failing unit on a node in the first of several answers that shows one, and the reason. -/
def firstFailing? (n : String) (answers : List Observation) : Option (ExecutionUnit × String) :=
  answers.findSome? (failing? n)

/-- The report of a node for a failing unit. -/
def nodeReport (i : Instance) (n : String) (p : ExecutionUnit × String) : LocalResult :=
  .failure ⟨n, i.resultType⟩ p.2 (some p.1.name)

/-- A further answer counts where none of those before has shown a failing unit. -/
theorem firstFailing?_concat (n : String) (answers : List Observation) (o : Observation) :
    firstFailing? n (answers ++ [o]) = (firstFailing? n answers).or (failing? n o) := by
  rw [firstFailing?, List.findSome?_append, List.findSome?_singleton]
  rfl

/-- An answer that shows a failing unit of a node is enough. -/
theorem isSome_firstFailing? {n : String} {answers : List Observation} {o : Observation}
    (mem : o ∈ answers) (h : (failing? n o).isSome) : (firstFailing? n answers).isSome := by
  rw [firstFailing?, List.isSome_findSome?, List.any_eq_true]
  exact ⟨o, mem, h⟩

/-- An answer shows a failing unit on a node if it has one there. -/
theorem isSome_failing? {u : ExecutionUnit} (mem : u ∈ us) (placed : u.node = some n)
    (failing : u.failure?.isSome) : (failing? n (.ok us)).isSome := by
  rw [failing?, List.isSome_findSome?, List.any_eq_true]
  exact ⟨u, mem, by rwa [if_pos placed, Option.isSome_map]⟩

/-- A unit elsewhere is not what an answer shows on a node. -/
private theorem failing?_cons_of_ne {u : ExecutionUnit} (h : u.node ≠ some n) :
    failing? n (.ok (u :: us)) = failing? n (.ok us) := by
  simp only [failing?, List.findSome?_cons, if_neg h]

/-- Nor is one that does not fail. -/
private theorem failing?_cons_of_well {u : ExecutionUnit} (h : u.failure? = none) :
    failing? n (.ok (u :: us)) = failing? n (.ok us) := by
  simp only [failing?, List.findSome?_cons, h, Option.map_none, ite_self]

/-- The first unit is, if it fails there. -/
private theorem failing?_cons_of_failing {u : ExecutionUnit} {reason : String}
    (placed : u.node = some n) (h : u.failure? = some reason) :
    failing? n (.ok (u :: us)) = some (u, reason) := by
  simp only [failing?, List.findSome?_cons, if_pos placed, h, Option.map_some]

/-- A unit has its node reported exactly if it fails and the node is one of those that have still to be
reported. -/
theorem nodeFailure?_eq_some_iff {u : ExecutionUnit} {q : String × LocalResult} :
    nodeFailure? i nodes reported u = some q ↔ u.node = some q.1 ∧ q.1 ∈ nodes ∧ q.1 ∉ reported ∧
      ∃ reason, u.failure? = some reason ∧ q.2 = nodeReport i q.1 (u, reason) := by
  constructor
  · intro h
    obtain ⟨node, hnode, hq⟩ := Option.bind_eq_some_iff.mp h
    split at hq
    · next hnew =>
      obtain ⟨reason, hreason, hq⟩ := Option.bind_eq_some_iff.mp hq
      cases hq
      exact ⟨hnode, hnew.1, hnew.2, reason, hreason, rfl⟩
    · cases hq
  · rintro ⟨hnode, hmem, hnew, reason, hreason, hq⟩
    unfold nodeFailure?
    rw [hnode, Option.bind_eq_bind, Option.bind_some, if_pos ⟨hmem, hnew⟩, hreason]
    exact congrArg some (Prod.ext rfl hq.symm)

/-- The reports of an answer node by node. -/
theorem mem_nodeFailures {r : LocalResult} :
    (n, r) ∈ nodeFailures i nodes reported us ↔
      n ∈ nodes ∧ n ∉ reported ∧ ∃ p, failing? n (.ok us) = some p ∧ r = nodeReport i n p := by
  induction us generalizing reported with
  | nil => simp [nodeFailures, failing?]
  | cons u us ih =>
    unfold nodeFailures
    split
    · next q hq =>
      obtain ⟨hnode, hmem, hnew, reason, hreason, hreport⟩ := nodeFailure?_eq_some_iff.mp hq
      rw [List.mem_cons, ih]
      by_cases hn : n = q.1
      · -- The node is reported for this unit, and for none behind it.
        subst hn
        rw [failing?_cons_of_failing hnode hreason]
        simp [Prod.ext_iff, hmem, hnew, hreport]
      · have hother : u.node ≠ some n := by
          rw [hnode]
          exact fun h => hn (Option.some.inj h).symm
        rw [failing?_cons_of_ne hother]
        simp [Prod.ext_iff, hn]
    · next hq =>
      rw [ih]
      refine and_congr_right fun hmem => and_congr_right fun hnew => ?_
      -- The node has still to be reported, so the unit is elsewhere or does not fail.
      by_cases hnode : u.node = some n
      · have hwell : u.failure? = none := by
          rw [Option.eq_none_iff_forall_ne_some]
          intro reason hreason
          have hsome := nodeFailure?_eq_some_iff (q := (n, nodeReport i n (u, reason))).mpr
            ⟨hnode, hmem, hnew, reason, hreason, rfl⟩
          rw [hq] at hsome
          cases hsome
        rw [failing?_cons_of_well hwell]
      · rw [failing?_cons_of_ne hnode]

/-- Units that are not on a node on which units are expected make no difference. -/
theorem nodeFailures_filter (us : List ExecutionUnit) :
    nodeFailures i nodes reported (us.filter fun u => ∃ n ∈ nodes, u.node = some n) =
      nodeFailures i nodes reported us := by
  induction us generalizing reported with
  | nil => rfl
  | cons u us ih =>
    rw [List.filter_cons]
    split
    · simp only [nodeFailures, ih]
    · next hu =>
      have hnone : nodeFailure? i nodes reported u = none := by
        rw [Option.eq_none_iff_forall_ne_some]
        intro q hq
        obtain ⟨hnode, hmem, -⟩ := nodeFailure?_eq_some_iff.mp hq
        exact hu (decide_eq_true ⟨q.1, hmem, hnode⟩)
      rw [ih, nodeFailures, hnone]

/-- A list without its repetitions holds all that the list holds. -/
theorem subset_firstOccurrences (l : List String) : l ⊆ firstOccurrences l := by
  induction l with
  | nil => exact fun _ => id
  | cons s ss ih =>
    intro x hx
    rw [firstOccurrences, List.mem_cons]
    by_cases h : x = s
    · exact .inl h
    · have hrest : x ∈ ss := (List.mem_cons.mp hx).resolve_left h
      exact .inr (List.mem_filter.mpr ⟨ih hrest, decide_eq_true h⟩)

/-- It holds nothing else. -/
theorem mem_firstOccurrences {l : List String} : n ∈ firstOccurrences l ↔ n ∈ l :=
  ⟨fun h => firstOccurrences_subset l h, fun h => subset_firstOccurrences l h⟩

/-- It holds nothing twice. -/
theorem nodup_firstOccurrences (l : List String) : (firstOccurrences l).Nodup := by
  induction l with
  | nil => exact List.nodup_nil
  | cons s ss ih =>
    rw [firstOccurrences, List.nodup_cons]
    refine ⟨fun h => ?_, ih.filter _⟩
    simp at h

/-! ### A look of the monitor -/

variable {m : Monitor} {o : Observation}

/-- A monitor that has got an answer does not wait for it any more. -/
theorem phase_observe_ne_looking (m : Monitor) (o : Observation) : (m.observe o).1.phase ≠ .looking := by
  unfold observe settle
  dsimp only
  split
  · dsimp only
    split <;> exact MonitorPhase.noConfusion
  · dsimp only
    split <;> exact MonitorPhase.noConfusion

/-- An answer shows no failing unit if it is an error. -/
theorem failing?_error (n : String) (e : ClusterError) : failing? n (.error e) = none := rfl

/-- The monitor of a daemon set reports the nodes that have still to be reported and on which the answer
shows a failing unit. -/
theorem mem_observe (hd : m.owner.definition.driver = .daemonSet) {r : LocalResult} :
    r ∈ (m.observe o).2 ↔ ∃ n ∈ m.nodes, n ∉ m.reported ∧
      ∃ p, failing? n o = some p ∧ r = nodeReport m.owner n p := by
  have hmem : r ∈ (m.observe o).2 ↔ ∃ n, (n, r) ∈ m.reports o := by
    simp only [observe, List.mem_map, Prod.exists, exists_eq_right]
  rw [hmem]
  unfold reports
  simp only [hd]
  cases o with
  | error e => simp [failing?_error]
  | ok us => simp only [mem_nodeFailures]

/-- It then has reported these nodes too. -/
theorem reported_observe (hd : m.owner.definition.driver = .daemonSet) :
    (m.observe o).1.reported = m.reported ++ (m.observe o).2.map (·.key.node) := by
  have hnode : ∀ q ∈ m.reports o, q.2.key.node = q.1 := by
    unfold reports
    simp only [hd]
    cases o with
    | error e => exact fun _ hq => nomatch hq
    | ok us =>
      rintro ⟨n, r⟩ hq
      obtain ⟨-, -, p, -, rfl⟩ := mem_nodeFailures.mp hq
      rfl
  unfold observe settle
  simp only [hd, List.map_map]
  exact congrArg _ (List.map_congr_left fun q hq => (hnode q hq).symm)

/-- It ends when all nodes have been reported. -/
theorem phase_observe (hd : m.owner.definition.driver = .daemonSet) :
    (m.observe o).1.phase = .ended ↔
      allReported (m.observe o).1.nodes (m.observe o).1.reported = true := by
  unfold observe settle
  simp only [hd]
  split
  · next hall => exact ⟨fun _ => hall, fun _ => rfl⟩
  · next hall => exact ⟨nofun, fun h => absurd h hall⟩

/-- All nodes have been reported when none of them is left. -/
theorem Thrifty.allReported_iff (h : m.Thrifty) (distinct : m.nodes.Nodup) :
    allReported m.nodes m.reported = true ↔ m.nodes ⊆ m.reported := by
  rw [allReported, decide_eq_true_iff]
  constructor
  · intro hle
    exact ((List.subperm_of_subset h.once h.watched).perm_of_length_le hle).symm.subset
  · exact fun hsub => (List.subperm_of_subset distinct hsub).length_le

/-- Units that are not on its nodes make no difference to it. -/
theorem observe_filter (hd : m.owner.definition.driver = .daemonSet) (us : List ExecutionUnit) :
    m.observe (.ok (us.filter fun u => ∃ n ∈ m.nodes, u.node = some n)) = m.observe (.ok us) := by
  have hreports : m.reports (.ok (us.filter fun u => ∃ n ∈ m.nodes, u.node = some n)) =
      m.reports (.ok us) := by
    unfold reports
    simp only [hd]
    exact nodeFailures_filter us
  rw [observe, observe, hreports]

/-- Nor does an error, but that it sleeps again. -/
theorem observe_error (hd : m.owner.definition.driver = .daemonSet)
    (unfinished : allReported m.nodes m.reported ≠ true) (e : ClusterError) :
    m.observe (.error e) = ({ m with phase := .asleep }, []) := by
  unfold observe settle reports
  simp only [hd, List.map_nil, List.append_nil, if_neg unfinished]

end ClusterSurvey.Monitor

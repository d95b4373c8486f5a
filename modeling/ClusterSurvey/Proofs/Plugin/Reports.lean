import Mathlib.Data.List.Perm.Subperm
import ClusterSurvey.Proofs.Plugin.Withdrawal

/-!
# How much a monitor reports

A monitor has room for as many reports as it can still send: the one of a job, or one for each node of
a daemon set that has not been reported.  Every report uses some of it up, and nothing gives it back.
At the start there is room for no more than the results that the instance owes, and every report
answers for one of these.
-/

namespace ClusterSurvey

/-- The results that an instance owes on more nodes include those that it owes on fewer. -/
theorem Instance.expectedResults_subset (i : Instance) {nodes more : List String}
    (h : nodes ⊆ more) : i.expectedResults nodes ⊆ i.expectedResults more := by
  unfold expectedResults
  split
  · exact fun _ => id
  · exact List.map_subset _ h

/-- A list without its repetitions is no longer. -/
theorem length_firstOccurrences_le (l : List String) : (firstOccurrences l).length ≤ l.length := by
  induction l with
  | nil => exact Nat.le_refl 0
  | cons s ss ih =>
    rw [firstOccurrences, List.length_cons, List.length_cons]
    exact Nat.succ_le_succ (Nat.le_trans (List.length_filter_le _ _) ih)

/-- Nor does it hold anything else. -/
theorem firstOccurrences_subset (l : List String) : firstOccurrences l ⊆ l := by
  induction l with
  | nil => exact fun _ => id
  | cons s ss ih =>
    refine List.cons_subset_cons s fun x hx => ih ?_
    exact (List.mem_filter.mp hx).1

namespace Monitor

variable {m : Monitor} {i : Instance} {nodes reported : List String} {o : Observation}

/-- How many reports a monitor can still send. -/
def room (m : Monitor) : Nat :=
  if m.phase = .ended then 0
  else
    match m.owner.definition.driver with
    | .job => 1
    | .daemonSet => m.nodes.length - m.reported.length

private theorem room_le_of_daemonSet (hd : m.owner.definition.driver = .daemonSet) :
    m.room ≤ m.nodes.length - m.reported.length := by
  unfold room
  rw [hd]
  split
  · exact Nat.zero_le _
  · exact Nat.le_refl _

/-- A monitor that has reported nodes that it watches, each of them once. -/
structure Thrifty (m : Monitor) : Prop where
  once : m.reported.Nodup
  watched : m.reported ⊆ m.nodes

/-! ### One look -/

/-- A node is reported if it is watched and has not been reported. -/
private theorem eq_of_nodeFailure? {u : ExecutionUnit} {p : String × LocalResult}
    (h : nodeFailure? i nodes reported u = some p) :
    p.1 ∈ nodes ∧ p.1 ∉ reported ∧ p.2.key = ⟨p.1, i.resultType⟩ := by
  obtain ⟨node, -, hp⟩ := Option.bind_eq_some_iff.mp h
  split at hp
  · next hnode =>
    obtain ⟨reason, -, hp⟩ := Option.bind_eq_some_iff.mp hp
    cases hp
    exact ⟨hnode.1, hnode.2, rfl⟩
  · cases hp

/-- A look adds nodes that are watched to those that have been reported, and none of them twice. -/
private theorem reported_nodeFailures (us : List ExecutionUnit) (once : reported.Nodup)
    (watched : reported ⊆ nodes) :
    (reported ++ (nodeFailures i nodes reported us).map (·.1)).Nodup ∧
      reported ++ (nodeFailures i nodes reported us).map (·.1) ⊆ nodes := by
  induction us generalizing reported with
  | nil =>
    rw [nodeFailures, List.map_nil, List.append_nil]
    exact ⟨once, watched⟩
  | cons u us ih =>
    unfold nodeFailures
    split
    · next p hp =>
      obtain ⟨hmem, hnew, -⟩ := eq_of_nodeFailure? hp
      have hdistinct : (reported ++ [p.1]).Nodup :=
        List.nodup_append'.mpr ⟨once, List.nodup_singleton p.1, by simpa using hnew⟩
      rw [List.map_cons, List.append_cons]
      exact ih hdistinct (List.append_subset.mpr ⟨watched, by simpa using hmem⟩)
    · exact ih once watched

/-- The report of a node answers for the result that it owes. -/
private theorem key_of_mem_nodeFailures {us : List ExecutionUnit} {p : String × LocalResult}
    (h : p ∈ nodeFailures i nodes reported us) :
    p.2.key ∈ nodes.map fun n => (⟨n, i.resultType⟩ : ResultKey) := by
  induction us generalizing reported with
  | nil => cases h
  | cons u us ih =>
    unfold nodeFailures at h
    split at h
    · next q hq =>
      rcases List.mem_cons.mp h with rfl | hrest
      · obtain ⟨hmem, -, hkey⟩ := eq_of_nodeFailure? hq
        exact List.mem_map.mpr ⟨p.1, hmem, hkey.symm⟩
      · exact ih hrest
    · exact ih h

private theorem key_of_jobFailure? {x : LocalResult} (h : jobFailure? i o = some x) :
    x.key = jobKey i := by
  unfold jobFailure? at h
  split at h
  · cases h
    rfl
  · obtain ⟨reason, -, rfl⟩ := Option.map_eq_some_iff.mp h
    rfl
  · cases h
    rfl

/-- Every report answers for a result that the instance owes on the nodes that are watched. -/
theorem key_of_mem_observe {x : LocalResult} (h : x ∈ (m.observe o).2) :
    x.key ∈ m.owner.expectedResults m.nodes := by
  obtain ⟨p, hp, rfl⟩ := List.mem_map.mp h
  unfold reports at hp
  unfold Instance.expectedResults
  revert hp
  cases m.owner.definition.driver with
  | job =>
    intro hp
    obtain ⟨x, hx, rfl⟩ := Option.map_eq_some_iff.mp (Option.mem_toList.mp hp)
    exact List.mem_singleton.mpr (key_of_jobFailure? hx)
  | daemonSet =>
    intro hp
    cases o with
    | error e => cases hp
    | ok units => exact key_of_mem_nodeFailures hp

/-! ### What uses up the room -/

/-- A look leaves the nodes that are watched. -/
theorem nodes_observe (m : Monitor) (o : Observation) : (m.observe o).1.nodes = m.nodes := by
  unfold observe settle
  dsimp only
  split <;> rfl

/-- A monitor reports no node twice, and none but those that it watches. -/
theorem Thrifty.observe (h : m.Thrifty) (o : Observation) : (m.observe o).1.Thrifty := by
  unfold Monitor.observe reports settle
  dsimp only
  split
  · exact ⟨h.once, h.watched⟩
  · cases o with
    | error e => exact ⟨by simpa using h.once, by simpa using h.watched⟩
    | ok units =>
      obtain ⟨once, watched⟩ := reported_nodeFailures units h.once h.watched
      exact ⟨once, watched⟩

/-- No more nodes have been reported than are watched. -/
private theorem Thrifty.length_le (h : m.Thrifty) : m.reported.length ≤ m.nodes.length :=
  (List.subperm_of_subset h.once h.watched).length_le

/-- What a look reports uses up as much of the room. -/
theorem Thrifty.room_observe (h : m.Thrifty) (looking : m.phase = .looking) :
    (m.observe o).2.length + (m.observe o).1.room ≤ m.room := by
  have halive : m.phase ≠ .ended := by
    rw [looking]
    decide
  have hafter := (h.observe o).length_le
  have hsent : (m.observe o).2.length = (m.reports o).length := List.length_map _
  cases hd : m.owner.definition.driver with
  | job =>
    have hroom : m.room = 1 := by
      rw [room, if_neg halive, hd]
    rw [hsent, hroom]
    unfold Monitor.observe settle reports room
    simp only [hd]
    cases jobFailure? m.owner o <;> simp
  | daemonSet =>
    have hroom : m.room = m.nodes.length - m.reported.length := by
      rw [room, if_neg halive, hd]
    have hreported : (m.observe o).1.reported.length = m.reported.length + (m.reports o).length := by
      unfold Monitor.observe settle
      simp only [hd, List.length_append, List.length_map]
    have hle := room_le_of_daemonSet ((congrArg (·.definition.driver) (m.owner_observe o)).trans hd)
    rw [m.nodes_observe, hreported] at hafter hle
    omega

/-- Nor does a monitor get more room by waking. -/
theorem room_wake_le (cleaned : Bool) (asleep : m.phase = .asleep) :
    (m.wake cleaned).room ≤ m.room := by
  have halive : m.phase ≠ .ended := by
    rw [asleep]
    decide
  unfold room wake
  rw [if_neg halive]
  dsimp only
  split
  · exact Nat.zero_le _
  · exact Nat.le_refl _

/-! ### The start -/

/-- Nothing has been reported at the start. -/
theorem thrifty_start (i : Instance) (nodes : List String) : (start i nodes).Thrifty := by
  have hnone : (start i nodes).reported = [] := by
    unfold start
    split <;> rfl
  exact ⟨hnone ▸ List.nodup_nil, hnone ▸ List.nil_subset _⟩

/-- A monitor watches no other nodes than it is given. -/
theorem nodes_start_subset (i : Instance) (nodes : List String) : (start i nodes).nodes ⊆ nodes := by
  unfold start
  split
  · exact List.nil_subset nodes
  · exact firstOccurrences_subset nodes

/-- At the start there is room for no more reports than the instance owes results, also if a node is
named twice. -/
theorem room_start_le (i : Instance) (nodes : List String) :
    (start i nodes).room ≤ (i.expectedResults nodes).length := by
  cases hd : i.definition.driver with
  | job => simp [start, Instance.expectedResults, room, hd]
  | daemonSet =>
    have hstart : (start i nodes).owner.definition.driver = .daemonSet ∧
        (start i nodes).nodes = firstOccurrences nodes := by
      unfold start
      simp [hd]
    have howed : (i.expectedResults nodes).length = nodes.length := by
      rw [Instance.expectedResults, hd, List.length_map]
    have hroom := room_le_of_daemonSet hstart.1
    have hle := length_firstOccurrences_le nodes
    rw [hstart.2] at hroom
    omega

end Monitor

end ClusterSurvey

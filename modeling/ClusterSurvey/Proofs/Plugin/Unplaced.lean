import ClusterSurvey.Proofs.Plugin.NodeByNode
import ClusterSurvey.Proofs.Plugin.SoleReport
import ClusterSurvey.Proofs.Result.Failure

/-!
# Failing units that no report accounts for

A failing unit of a job is accounted for by the report of the job, and one on a node of a daemon set by the
report of its node.  The monitor of a daemon set passes over a unit that has no node yet, although a unit
that cannot be scheduled has none.
-/

namespace ClusterSurvey

/-! ### Reports and units -/

namespace LocalResult

/-- Whether a result is the record of a failing unit of some name. -/
def Names (r : LocalResult) (name : String) : Prop := ∃ key reason, r = .failure key reason (some name)

/-- A failure names the unit that it is the record of, and no other. -/
theorem names_failure_iff {key : ResultKey} {reason name name' : String} :
    (failure key reason (some name)).Names name' ↔ name = name' := by
  constructor
  · rintro ⟨key', reason', h⟩
    have told := tells_failure key reason (some name)
    rw [h] at told
    exact (Option.some.inj (told.unique (tells_failure key' reason' (some name'))).2)
  · rintro rfl
    exact ⟨key, reason, rfl⟩

end LocalResult

namespace Monitor

variable {i : Instance} {units : List ExecutionUnit} {u : ExecutionUnit}

/-- Whether a unit belongs to an instance: it is on a listed node, or the instance is a job or the unit has
no node yet. -/
def Belongs (i : Instance) (nodes : List String) (u : ExecutionUnit) : Prop :=
  i.definition.driver = .daemonSet → ∀ n, u.node = some n → n ∈ nodes

/-- Whether a result accounts for a failing unit: it is a failure for the key of the job, or one of a daemon
set that names the unit or is for its node. -/
def AccountsFor (i : Instance) (r : LocalResult) (u : ExecutionUnit) : Prop :=
  r.isFailure = true ∧
    match i.definition.driver with
    | .job => r.key = jobKey i
    | .daemonSet => r.Names u.name ∨ u.node = some r.key.node

/-- The monitor of a job has something to report of an answer that shows a failing unit. -/
theorem exists_jobFailure? (mem : u ∈ units) (failing : u.failure?.isSome) :
    ∃ reason name, jobFailure? i (.ok units) = some (.failure (jobKey i) reason name) := by
  obtain ⟨reason, hreason⟩ := Option.isSome_iff_exists.mp failing
  match units with
  | [] => cases mem
  | [v] =>
    obtain rfl := List.mem_singleton.mp mem
    exact ⟨reason, some u.name, by rw [jobFailure?, hreason]; rfl⟩
  | v :: w :: rest => exact ⟨_, none, rfl⟩

end Monitor

namespace Vigil

open Monitor (Belongs AccountsFor firstFailing? nodeReport jobFailure? jobKey)

variable {i : Instance} {nodes : List String} {capacity : Nat} {v v' : Vigil} {events : List Event}

/-- A failing unit that an answer shows has been accounted for when the monitor sleeps again or ends, unless
it is one of a daemon set, has no node and no unit of its name has been reported. -/
theorem accounted_iff (h : (start i nodes capacity).run? events = some v) (heard : v.heard = true)
    (done : v.pending = []) {units : List ExecutionUnit} (answered : .ok units ∈ answers events)
    {u : ExecutionUnit} (mem : u ∈ units) (failing : u.failure?.isSome) (belongs : Belongs i nodes u) :
    (∃ r ∈ v.sent, AccountsFor i r u) ↔
      (i.definition.driver = .daemonSet → u.node = none →
        ∃ n ∈ nodes, ∃ p, firstFailing? n (answers events) = some p ∧ p.1.name = u.name) := by
  have hsent : v.sent = (start i nodes capacity).raised events := by
    have hwhole := (carried_run h).whole ((recalled_run h).not_unheard heard)
    rwa [done, List.append_nil] at hwhole
  rw [hsent]
  cases hd : i.definition.driver with
  | job =>
    obtain ⟨reason, name, hr⟩ := Monitor.exists_jobFailure? (i := i) mem failing
    have raised := List.mem_filterMap.mpr ⟨_, answered, hr⟩
    rw [← (probed_run hd h).raised] at raised
    refine ⟨fun _ => nofun, fun _ => ⟨_, raised, rfl, ?_⟩⟩
    rw [hd]
    rfl
  | daemonSet =>
    have surveyed := surveyed_run hd h
    cases hnode : u.node with
    | some n =>
      -- The node of the unit has been reported, for this unit or for another one.
      have listed := belongs hd n hnode
      have hsome := Monitor.isSome_firstFailing? answered (Monitor.isSome_failing? mem hnode failing)
      obtain ⟨p, hp⟩ := Option.isSome_iff_exists.mp hsome
      refine ⟨fun _ _ => nofun, fun _ => ⟨nodeReport i n p, ?_, rfl, ?_⟩⟩
      · exact (surveyed.raised _).mpr ⟨n, listed, p, hp, rfl⟩
      · rw [hd]
        exact .inr hnode
    | none =>
      constructor
      · rintro ⟨r, hr, -, hr'⟩ - -
        obtain ⟨n, hn, p, hp, rfl⟩ := (surveyed.raised r).mp hr
        rw [hd, hnode] at hr'
        have hnames := hr'.resolve_right nofun
        exact ⟨n, hn, p, hp, LocalResult.names_failure_iff.mp hnames⟩
      · intro hnamed
        obtain ⟨n, hn, p, hp, hname⟩ := hnamed rfl rfl
        refine ⟨nodeReport i n p, (surveyed.raised _).mpr ⟨n, hn, p, hp, rfl⟩, rfl, ?_⟩
        rw [hd]
        exact .inl (LocalResult.names_failure_iff.mpr hname)

/-- The cluster cannot place a unit. -/
def stuckBeforePlaced : List Event := [.wake, .answer (.ok [stuckUnit "u" none])]

/-- If it is the unit of a job, it has been reported when the monitor has sent its report. -/
theorem accounted_soleJob :
    ∃ v, (start Withdrawal.soleJob [] 1).run? (stuckBeforePlaced ++ [.send]) = some v ∧
      ∃ r ∈ v.sent, AccountsFor Withdrawal.soleJob r (stuckUnit "u" none) := by
  have hsome : ((start Withdrawal.soleJob [] 1).run? (stuckBeforePlaced ++ [.send])).isSome = true := rfl
  have answered : (.ok [stuckUnit "u" none] : Observation) ∈ answers (stuckBeforePlaced ++ [.send]) :=
    List.mem_singleton.mpr rfl
  have accounted := accounted_iff (Option.some_get hsome).symm rfl rfl answered
    (List.mem_singleton.mpr rfl) rfl nofun
  exact ⟨_, (Option.some_get hsome).symm, accounted.mpr nofun⟩

/-- The monitor of a daemon set sleeps again and has reported nothing. -/
theorem unaccounted_onEveryNode :
    ∃ v, (start onEveryNode ["n"] 1).run? stuckBeforePlaced = some v ∧ v.heard = true ∧ v.IsAsleep ∧
      (stuckUnit "u" none).failure?.isSome ∧ Belongs onEveryNode ["n"] (stuckUnit "u" none) ∧
      ¬ ∃ r ∈ v.sent, AccountsFor onEveryNode r (stuckUnit "u" none) := by
  have hsome : ((start onEveryNode ["n"] 1).run? stuckBeforePlaced).isSome = true := rfl
  exact ⟨_, (Option.some_get hsome).symm, rfl, ⟨rfl, rfl⟩, rfl, fun _ => nofun,
    fun ⟨_, hr, _⟩ => nomatch hr⟩

end Vigil

end ClusterSurvey

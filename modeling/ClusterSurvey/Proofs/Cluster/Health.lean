import ClusterSurvey.Cluster.Unit

/-!
# When a unit fails, and what is said of it

A unit fails if one of its conditions or one of its containers says so, wherever it stands.  The order of
conditions and containers decides only on what is said: the first condition that makes the unit unschedulable,
or else the first container with which something is wrong.
-/

namespace ClusterSurvey

namespace UnitCondition

/-- The condition that makes a unit unschedulable is known by its reason. -/
theorem isUnschedulable_iff {c : UnitCondition} :
    c.isUnschedulable = true ↔ c.reason = "Unschedulable" := by
  rw [isUnschedulable, decide_eq_true_iff]

end UnitCondition

namespace ContainerState

variable {c : ContainerState} {unit text : String}

/-- Whether something is wrong with a container: it has restarted too often, or it waits for an image that
cannot be fetched. -/
def Fails (c : ContainerState) : Prop :=
  maxRestarts < c.restarts ∨ c.waiting = some "ImagePullBackOff" ∨ c.waiting = some "ErrImagePull"

/-- What is said of a container with which something is wrong. -/
inductive Tells (unit : String) (c : ContainerState) : String → Prop where
  /-- How often it has restarted, whether it waits or not. -/
  | restarted (often : maxRestarts < c.restarts) :
    Tells unit c ("container " ++ c.name ++ " in unit " ++ unit ++ " has restarted " ++
      toString c.restarts ++ " times")
  /-- What it waits for, if it has not restarted too often. -/
  | waiting (reason : String) (seldom : c.restarts ≤ maxRestarts) (waits : c.waiting = some reason)
      (pull : reason = "ImagePullBackOff" ∨ reason = "ErrImagePull") :
    Tells unit c ("container " ++ c.name ++ " in unit " ++ unit ++ " is in state " ++ reason)

/-- A pull failure is one of two reasons to wait. -/
theorem pullFailure?_eq_some_iff {reason : String} :
    c.pullFailure? = some reason ↔
      c.waiting = some reason ∧ (reason = "ImagePullBackOff" ∨ reason = "ErrImagePull") := by
  rw [pullFailure?, Option.filter_eq_some_iff, Bool.or_eq_true, decide_eq_true_iff, decide_eq_true_iff]

/-- The failure of a container is what is to be said of it. -/
theorem failure?_eq_some_iff : c.failure? unit = some text ↔ Tells unit c text := by
  unfold failure? isCrashing
  by_cases often : maxRestarts < c.restarts
  · rw [if_pos (decide_eq_true often), Option.some.injEq]
    constructor
    · rintro rfl
      exact .restarted often
    · intro h
      cases h with
      | restarted => rfl
      | waiting _ seldom => exact absurd often (Nat.not_lt.mpr seldom)
  · rw [if_neg (by simpa using often), Option.map_eq_some_iff]
    constructor
    · rintro ⟨reason, hreason, rfl⟩
      obtain ⟨waits, pull⟩ := pullFailure?_eq_some_iff.mp hreason
      exact .waiting reason (Nat.not_lt.mp often) waits pull
    · intro h
      cases h with
      | restarted often' => exact absurd often' often
      | waiting reason _ waits pull => exact ⟨reason, pullFailure?_eq_some_iff.mpr ⟨waits, pull⟩, rfl⟩

/-- There is something to say exactly if something is wrong. -/
theorem exists_tells_iff : (∃ text, Tells unit c text) ↔ c.Fails := by
  constructor
  · rintro ⟨text, h⟩
    cases h with
    | restarted often => exact .inl often
    | waiting reason _ waits pull =>
      rcases pull with rfl | rfl
      · exact .inr (.inl waits)
      · exact .inr (.inr waits)
  · intro h
    by_cases often : maxRestarts < c.restarts
    · exact ⟨_, .restarted often⟩
    · have seldom := Nat.not_lt.mp often
      rcases h.resolve_left often with waits | waits
      · exact ⟨_, .waiting _ seldom waits (.inl rfl)⟩
      · exact ⟨_, .waiting _ seldom waits (.inr rfl)⟩

/-- A container has a failure exactly if something is wrong with it. -/
theorem isSome_failure?_iff : (c.failure? unit).isSome ↔ c.Fails := by
  rw [Option.isSome_iff_exists]
  simp only [failure?_eq_some_iff, exists_tells_iff]

/-- It has none exactly if nothing is. -/
theorem failure?_eq_none_iff : c.failure? unit = none ↔ ¬ c.Fails := by
  rw [← Option.not_isSome_iff_eq_none, isSome_failure?_iff]

end ContainerState

namespace ExecutionUnit

variable {u v : ExecutionUnit} {text : String}

/-- Whether the cluster says of a unit that it cannot be scheduled. -/
def Unschedulable (u : ExecutionUnit) : Prop := ∃ c ∈ u.conditions, c.reason = "Unschedulable"

/-- What is said of a unit that can no longer produce a result. -/
inductive Tells (u : ExecutionUnit) : String → Prop where
  /-- The message of the first condition that makes it unschedulable. -/
  | unschedulable (before : List UnitCondition) (c : UnitCondition) (after : List UnitCondition)
      (split : u.conditions = before ++ c :: after) (here : c.reason = "Unschedulable")
      (first : ∀ d ∈ before, d.reason ≠ "Unschedulable") :
    Tells u ("unit " ++ u.name ++ " can't be scheduled: " ++ c.message)
  /-- What is said of its first container with which something is wrong, if there is no such condition. -/
  | container (before : List ContainerState) (c : ContainerState) (after : List ContainerState)
      (text : String) (schedulable : ¬ u.Unschedulable) (split : u.containers = before ++ c :: after)
      (here : c.Tells u.name text) (first : ∀ d ∈ before, ¬ d.Fails) :
    Tells u text

/-- No condition is found if the unit is not unschedulable. -/
private theorem find?_eq_none_iff :
    u.conditions.find? UnitCondition.isUnschedulable = none ↔ ¬ u.Unschedulable := by
  simp [Unschedulable, UnitCondition.isUnschedulable_iff]

/-- The failure of a unit is what is to be said of it. -/
theorem failure?_eq_some_iff : u.failure? = some text ↔ u.Tells text := by
  unfold failure?
  constructor
  · intro h
    split at h
    · next c hc =>
      obtain ⟨here, before, after, split, first⟩ := List.find?_eq_some_iff_append.mp hc
      obtain rfl := Option.some.inj h
      refine .unschedulable before c after split (UnitCondition.isUnschedulable_iff.mp here) ?_
      intro d hd unschedulable
      have hfirst := first d hd
      rw [UnitCondition.isUnschedulable_iff.mpr unschedulable] at hfirst
      cases hfirst
    · next hnone =>
      obtain ⟨before, c, after, split, here, first⟩ := List.findSome?_eq_some_iff.mp h
      refine .container before c after text (find?_eq_none_iff.mp hnone) split
        (ContainerState.failure?_eq_some_iff.mp here) ?_
      exact fun d hd => ContainerState.failure?_eq_none_iff.mp (first d hd)
  · intro h
    cases h with
    | unschedulable before c after split here first =>
      have hfind : u.conditions.find? UnitCondition.isUnschedulable = some c := by
        refine List.find?_eq_some_iff_append.mpr
          ⟨UnitCondition.isUnschedulable_iff.mpr here, before, after, split, fun d hd => ?_⟩
        simpa [UnitCondition.isUnschedulable] using first d hd
      rw [hfind]
    | container before c after text schedulable split here first =>
      rw [find?_eq_none_iff.mpr schedulable]
      refine List.findSome?_eq_some_iff.mpr
        ⟨before, c, after, split, ContainerState.failure?_eq_some_iff.mpr here, fun d hd => ?_⟩
      exact ContainerState.failure?_eq_none_iff.mpr (first d hd)

/-- There is something to say exactly if the unit is unschedulable or something is wrong with a container. -/
theorem isSome_failure?_iff :
    u.failure?.isSome ↔ u.Unschedulable ∨ ∃ c ∈ u.containers, c.Fails := by
  unfold failure?
  by_cases h : u.Unschedulable
  · have hfind : (u.conditions.find? UnitCondition.isUnschedulable).isSome = true := by
      simpa [UnitCondition.isUnschedulable_iff, Unschedulable] using h
    obtain ⟨c, hc⟩ := Option.isSome_iff_exists.mp hfind
    rw [hc]
    exact iff_of_true rfl (.inl h)
  · rw [find?_eq_none_iff.mpr h, or_iff_right h]
    show (u.containers.findSome? (ContainerState.failure? u.name)).isSome = true ↔ _
    rw [List.findSome?_isSome_iff]
    simp only [ContainerState.isSome_failure?_iff]

/-- What is wrong with a unit is wrong with each that has its conditions and containers too. -/
theorem isSome_failure?_of_subset (conditions : u.conditions ⊆ v.conditions)
    (containers : u.containers ⊆ v.containers) (h : u.failure?.isSome) : v.failure?.isSome := by
  rw [isSome_failure?_iff] at h ⊢
  rcases h with ⟨c, hc, unschedulable⟩ | ⟨c, hc, fails⟩
  · exact .inl ⟨c, conditions hc, unschedulable⟩
  · exact .inr ⟨c, containers hc, fails⟩

/-- The failure of a unit as the disjunction of its predicates. -/
structure Diagnosed (u : ExecutionUnit) : Prop where
  /-- It fails exactly if one of the three predicates holds of a condition or a container. -/
  verdict : u.failure?.isSome ↔
    (∃ c ∈ u.conditions, c.reason = "Unschedulable") ∨
    (∃ c ∈ u.containers, maxRestarts < c.restarts) ∨
    ∃ c ∈ u.containers, c.waiting = some "ImagePullBackOff" ∨ c.waiting = some "ErrImagePull"
  /-- The reason is what is to be said of it, and nothing else is. -/
  told : ∀ text, u.failure? = some text ↔ u.Tells text
  /-- The order of its conditions and containers does not matter. -/
  reordered : ∀ v : ExecutionUnit, v.conditions.Perm u.conditions → v.containers.Perm u.containers →
    (v.failure?.isSome ↔ u.failure?.isSome)
  /-- With more conditions and containers it still fails. -/
  extended : ∀ v : ExecutionUnit, u.conditions ⊆ v.conditions → u.containers ⊆ v.containers →
    u.failure?.isSome → v.failure?.isSome

/-- A unit fails exactly if it is unschedulable, or one of its containers has restarted too often or waits for
an image that cannot be fetched; what is said of it is settled by the first condition of this kind, or else by
the first such container. -/
theorem diagnosed (u : ExecutionUnit) : u.Diagnosed := by
  constructor
  case verdict =>
    rw [isSome_failure?_iff]
    simp only [Unschedulable, ContainerState.Fails, and_or_left, exists_or]
  case told => exact fun text => failure?_eq_some_iff
  case reordered =>
    intro v conditions containers
    constructor
    · exact isSome_failure?_of_subset conditions.subset containers.subset
    · exact isSome_failure?_of_subset conditions.symm.subset containers.symm.subset
  case extended => exact fun v => isSome_failure?_of_subset

/-- A container that restarts and waits is told for its restarts, and one behind it is not told. -/
example :
    failure? ⟨"u", none, [], [⟨"a", 2, none⟩, ⟨"b", 3, some "ErrImagePull"⟩, ⟨"c", 9, none⟩]⟩ =
      some "container b in unit u has restarted 3 times" := by decide

end ExecutionUnit

end ClusterSurvey

import ClusterSurvey.Proofs.Collector.Artifacts
import ClusterSurvey.Proofs.Storage.Path

/-!
# Places of keys

The scope of the cluster stands among the names of the nodes.  A key of the whole cluster therefore has
the place of the key with the same type that a node of this name owes, and that is the only way in which
two keys can share a place: whatever goes on at a collector, what lies at the place of a key is changed
by nothing but a result of the key or of the one that shares its place.
-/

namespace ClusterSurvey

namespace ResultKey

variable {k j : ResultKey}

/-- Whether two keys have one type, and one of them belongs to the whole cluster while the other one
belongs to a node that is called like the cluster's scope. -/
def Twins (k j : ResultKey) : Prop :=
  k.resultType = j.resultType ∧
    ((k.node = "" ∧ j.node = clusterScope) ∨ (k.node = clusterScope ∧ j.node = ""))

instance (k j : ResultKey) : Decidable (Twins k j) := by
  unfold Twins
  infer_instance

private theorem scope_of_clusterWide (h : k.node = "") : k.scope = clusterScope := by
  simp [scope, isClusterWide, h]

private theorem scope_of_node (h : k.node ≠ "") : k.scope = k.node := by
  simp [scope, isClusterWide, h]

/-- Twins are filed under one scope. -/
theorem Twins.scope_eq (h : Twins k j) : k.scope = j.scope := by
  have named : clusterScope ≠ "" := by decide
  rcases h.2 with ⟨hk, hj⟩ | ⟨hk, hj⟩
  · rw [scope_of_clusterWide hk, scope_of_node (hj ▸ named), hj]
  · rw [scope_of_clusterWide hj, scope_of_node (hk ▸ named), hk]

private theorem eq_of_parts (hnode : k.node = j.node) (htype : k.resultType = j.resultType) :
    k = j := by
  cases k
  cases j
  cases hnode
  cases htype
  rfl

/-- Only twins share a scope and a type. -/
theorem scope_eq_iff (ne : k ≠ j) :
    (k.scope = j.scope ∧ k.resultType = j.resultType) ↔ Twins k j := by
  refine ⟨fun ⟨hscope, htype⟩ => ⟨htype, ?_⟩, fun h => ⟨h.scope_eq, h.1⟩⟩
  have hnode : k.node ≠ j.node := fun hnode => ne (eq_of_parts hnode htype)
  by_cases hk : k.node = "" <;> by_cases hj : j.node = ""
  · exact absurd (hk.trans hj.symm) hnode
  · rw [scope_of_clusterWide hk, scope_of_node hj] at hscope
    exact .inl ⟨hk, hscope.symm⟩
  · rw [scope_of_node hk, scope_of_clusterWide hj] at hscope
    exact .inr ⟨hscope, hj⟩
  · rw [scope_of_node hk, scope_of_node hj] at hscope
    exact absurd hscope hnode

/-- Keys with one place are the same or twins. -/
theorem eq_or_twins_of_place_eq (h : k.place = j.place) : k = j ∨ Twins k j := by
  obtain ⟨hscope, hrest⟩ := List.cons.inj h
  by_cases ne : k = j
  · exact .inl ne
  · exact .inr ((scope_eq_iff ne).mp ⟨hscope, (List.cons.inj hrest).1⟩)

/-! ### Texts of keys -/

/-- The scope of a valid key can stand alone in a path. -/
theorem isSegment_scope (valid : k.isValid = true) : isSegment k.scope = true := by
  by_cases hk : k.node = ""
  · rw [scope_of_clusterWide hk]
    decide
  · rw [scope_of_node hk]
    have hnode := (Bool.and_eq_true_iff.mp valid).1
    simpa [isClusterWide, hk] using hnode

/-- What stands before the first separator and what stands behind it. -/
private theorem eq_of_append_slash {s t s' t' : String} (hs : isSegment s = true)
    (hs' : isSegment s' = true) (h : s ++ "/" ++ t = s' ++ "/" ++ t') : s = s' ∧ t = t' := by
  have hlist : s.toList ++ '/' :: t.toList = s'.toList ++ '/' :: t'.toList := by
    have htoList := congrArg String.toList h
    simpa [String.toList_append] using htoList
  have hfront : s.toList = s'.toList := by
    have hsplit := congrArg (Text.splitAt '/') hlist
    rw [Text.splitAt_append '/' _ _ (clear_of_isSegment hs).1,
      Text.splitAt_append '/' _ _ (clear_of_isSegment hs').1] at hsplit
    exact (List.cons.inj hsplit).1
  rw [hfront] at hlist
  exact ⟨String.toList_injective hfront,
    String.toList_injective (List.cons.inj (List.append_cancel_left hlist)).2⟩

/-- Two valid keys that are not the same are shown alike if they are twins. -/
theorem display_eq_iff (hk : k.isValid = true) (hj : j.isValid = true) (ne : k ≠ j) :
    k.display = j.display ↔ Twins k j := by
  rw [← scope_eq_iff ne]
  refine ⟨fun h => eq_of_append_slash (isSegment_scope hk) (isSegment_scope hj) h, fun h => ?_⟩
  rw [display, display, h.1, h.2]

/-- A directory with the separator that stands between it and what it holds. -/
private def stem (dir : String) : String := if dir = "" || dir.endsWith "/" then dir else dir ++ "/"

private theorem joinPath_segment (dir : String) {s : String} (h : isSegment s = true) :
    joinPath dir s = stem dir ++ s := by
  rw [joinPath_of_noSlash dir (clear_of_isSegment h).1]
  unfold stem
  split <;> rfl

private theorem stem_append_segment (dir : String) {s : String} (h : isSegment s = true) :
    stem (dir ++ s) = dir ++ s ++ "/" := by
  have hempty : dir ++ s ≠ "" := by
    intro hempty
    exact ((isSegment_iff s).mp h).1 (String.append_eq_empty_iff.mp hempty).2
  have hends : (dir ++ s).endsWith "/" = false := by
    rw [String.endsWith_eq_endsWith_toSlice, String.Slice.endsWith_string_eq_false_iff,
      String.copy_toSlice, String.toList_append]
    rintro ⟨front, hfront⟩
    have hnil : s.toList ≠ [] := fun hnil => ((isSegment_iff s).mp h).1 (String.toList_eq_nil_iff.mp hnil)
    have hlast : s.toList.getLast? = some '/' := by
      have hboth := congrArg List.getLast? hfront
      rw [List.getLast?_append_of_ne_nil _ hnil] at hboth
      rw [← hboth]
      exact List.getLast?_concat
    exact (clear_of_isSegment h).1 (List.mem_of_getLast? hlast)
  unfold stem
  rw [if_neg (by simp [hempty, hends])]

/-- The path of a valid key is the key as it is shown, below the root. -/
private theorem path_eq (root : String) (valid : k.isValid = true) :
    k.path root = stem root ++ k.display := by
  have htype : isSegment k.resultType = true := (Bool.and_eq_true_iff.mp valid).2
  have hscope := isSegment_scope valid
  rw [path, directoryPath, joinPath_segment root hscope, joinPath_segment _ htype,
    stem_append_segment (stem root) hscope, display, String.append_assoc, String.append_assoc,
    String.append_assoc]

/-- Two valid keys that are not the same have one path if they are twins. -/
theorem path_eq_iff (root : String) (hk : k.isValid = true) (hj : j.isValid = true) (ne : k ≠ j) :
    k.path root = j.path root ↔ Twins k j := by
  rw [path_eq root hk, path_eq root hj, String.append_right_inj, display_eq_iff hk hj ne]

end ResultKey

namespace Collector

variable {root : String} {expected : List ResultKey} {c c' : Collector} {events later : List Event}
variable {k : ResultKey}

/-- What lies at the place of a valid key stays there while nothing of the key or its twin is filed. -/
theorem content?_place_run (valid : k.isValid = true) (hl : c.run? later = some c')
    (calm : ∀ e ∈ later, ∀ tree, e ≠ .disturb tree)
    (unfiled : ∀ p ∈ c.filings later, p.1 ≠ k ∧ ¬ k.Twins p.1) :
    c'.tree.content? k.place = c.tree.content? k.place := by
  revert calm unfiled
  refine Machine.run?_induction
    (P := fun es c' => (∀ e ∈ es, ∀ tree, e ≠ .disturb tree) →
      (∀ p ∈ c.filings es, p.1 ≠ k ∧ ¬ k.Twins p.1) →
      c'.tree.content? k.place = c.tree.content? k.place) (fun _ _ => rfl) ?_ hl
  intro es s e s' hs ih he calm unfiled
  rw [filings, Machine.history_concat filingOf hs he] at unfiled
  rw [content?_move (move_of_step? he) (calm e (by simp)) (ResultKey.place_ne_scratchPlace valid)]
  · exact ih (fun a ha => calm a (List.mem_append_left _ ha))
      fun p hp => unfiled p (List.mem_append_left _ hp)
  · intro j id hj hp
    obtain ⟨hne, hapart⟩ := unfiled (j, id) (List.mem_append_right _ hj)
    rcases ResultKey.eq_or_twins_of_place_eq hp with rfl | htwins
    · exact hne rfl
    · exact hapart htwins

/-- Valid keys that are not the same share their path and the way in which they are shown only if they
are twins, and what is filed for a valid key stays there as long as nothing is filed for the key or
its twin. -/
theorem shared_only_by_twins (valid : k.isValid = true) :
    (∀ j : ResultKey, j.isValid = true → k ≠ j →
      (∀ root, k.path root = j.path root ↔ k.Twins j) ∧ (k.display = j.display ↔ k.Twins j)) ∧
      ∀ (c c' : Collector) (later : List Event), c.run? later = some c' →
        (∀ e ∈ later, ∀ tree, e ≠ .disturb tree) →
        (∀ p ∈ c.filings later, p.1 ≠ k ∧ ¬ k.Twins p.1) →
          c'.tree.content? k.place = c.tree.content? k.place := by
  refine ⟨fun j hj ne => ⟨fun root => ?_, ?_⟩, fun c c' later hl calm unfiled => ?_⟩
  · exact ResultKey.path_eq_iff root valid hj ne
  · exact ResultKey.display_eq_iff valid hj ne
  · exact content?_place_run valid hl calm unfiled

/-- A result of a key is filed. -/
def filedOnce (k : ResultKey) (body : ByteArray) (id : Nat) (mark : String) : List Event :=
  [.openResult k false body mark, .commit id, .record id]

/-- What is filed for one node is still there when another node's failure has been filed. -/
theorem shared_only_by_twins_otherNode :
    ∃ c c', (start "out" [⟨"a", "t"⟩, ⟨"b", "t"⟩]).run?
        (filedOnce ⟨"a", "t"⟩ ⟨#[1]⟩ 0 "000000") = some c ∧
      c.run? [.openResult ⟨"b", "t"⟩ true ⟨#[2]⟩ "000001", .commit 1, .record 1] = some c' ∧
      c'.tree.content? ["a", "t"] = some ⟨#[1]⟩ := by
  have hfirst : ((start "out" [⟨"a", "t"⟩, ⟨"b", "t"⟩]).run?
    (filedOnce ⟨"a", "t"⟩ ⟨#[1]⟩ 0 "000000")).isSome = true := rfl
  have hthen : ((Option.get _ hfirst).run?
    [.openResult ⟨"b", "t"⟩ true ⟨#[2]⟩ "000001", .commit 1, .record 1]).isSome = true := rfl
  have valid : (ResultKey.mk "a" "t").isValid = true := by decide
  have hfiled : (Option.get _ hfirst).filings
    [.openResult ⟨"b", "t"⟩ true ⟨#[2]⟩ "000001", .commit 1, .record 1] = [(⟨"b", "t"⟩, 1)] := rfl
  refine ⟨_, _, (Option.some_get hfirst).symm, (Option.some_get hthen).symm, ?_⟩
  refine ((shared_only_by_twins valid).2 _ _ _ (Option.some_get hthen).symm ?_ ?_).trans rfl
  · simp
  · rw [hfiled]
    decide

/-- The result of a node that is called like the cluster's scope takes the place of the result of the
whole cluster, and both are received. -/
theorem shared_clusterAndNode :
    (ResultKey.mk "" "t").isValid = true ∧ (ResultKey.mk "global" "t").isValid = true ∧
      (ResultKey.mk "" "t").path "out" = (ResultKey.mk "global" "t").path "out" ∧
      (ResultKey.mk "" "t").display = (ResultKey.mk "global" "t").display ∧
      ∃ c c', (start "out" [⟨"", "t"⟩, ⟨"global", "t"⟩]).run?
          (filedOnce ⟨"", "t"⟩ ⟨#[1]⟩ 0 "000000") = some c ∧
        c.tree.content? (ResultKey.mk "" "t").place = some ⟨#[1]⟩ ∧
        c.run? (filedOnce ⟨"global", "t"⟩ ⟨#[2]⟩ 1 "000001") = some c' ∧
        c'.tree.content? (ResultKey.mk "" "t").place = some ⟨#[2]⟩ ∧
        c'.ledger.receipt? ⟨"", "t"⟩ = some .received ∧
        c'.ledger.receipt? ⟨"global", "t"⟩ = some .received := by
  have hfirst : ((start "out" [⟨"", "t"⟩, ⟨"global", "t"⟩]).run?
    (filedOnce ⟨"", "t"⟩ ⟨#[1]⟩ 0 "000000")).isSome = true := rfl
  have hthen : ((Option.get _ hfirst).run?
    (filedOnce ⟨"global", "t"⟩ ⟨#[2]⟩ 1 "000001")).isSome = true := rfl
  exact ⟨by decide, by decide, by decide +kernel, by decide,
    _, _, (Option.some_get hfirst).symm, rfl, (Option.some_get hthen).symm, rfl, rfl, rfl⟩

end Collector

end ClusterSurvey

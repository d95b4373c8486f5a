import ClusterSurvey.Net.Reference
import ClusterSurvey.Proofs.Worker.Address

/-!
# Addresses that are read as they stand

A key whose node and type are made of characters that stand for themselves everywhere in an address is
sent under its own name: the path of its address has no query behind it, and the service that reads the
path takes what is posted there for the result of the key.
-/

namespace ClusterSurvey

open Net (IsAuthority Url inPath isDropped normalPath)

/-- Whether a character stands for itself everywhere in an address. -/
def isUnreserved (c : Char) : Bool := c.isAlphanum || "-._~".toList.contains c

/-- Whether the node and the type of a key are made of such characters. -/
def ResultKey.IsUnreserved (k : ResultKey) : Prop :=
  (∀ c ∈ k.node.toList, isUnreserved c = true) ∧ ∀ c ∈ k.resultType.toList, isUnreserved c = true

instance (k : ResultKey) : Decidable k.IsUnreserved :=
  decidable_of_iff
    (k.node.toList.all isUnreserved = true ∧ k.resultType.toList.all isUnreserved = true)
    (and_congr List.all_eq_true List.all_eq_true)

/-- The address to which the result of a key is sent. -/
def ResultKey.address (k : ResultKey) (advertise : String) : String :=
  if k.isClusterWide then Route.forClusterUrl advertise ++ "/" ++ k.resultType
  else Route.byNodeUrl advertise ++ "/" ++ k.node ++ "/" ++ k.resultType

namespace Service

/-- The key whose result is posted under a name, if one is. -/
def keyNamed? (name : String) : Option ResultKey := (targetPath name).toOption.bind keyAt?

/-! ### Paths that have been written -/

/-- Whether a character is read as a part of a path. -/
def IsReadInPath (c : Char) : Prop := isPathChar c = true ∧ c ≠ '#' ∧ c ≠ '?'

instance (c : Char) : Decidable (IsReadInPath c) := inferInstanceAs (Decidable (_ ∧ _))

private theorem isReadInPath_of_escapedInPath {c : Char} (h : Net.escapedInPath c = false) :
    IsReadInPath c := by
  have hascii : ∀ n : Fin 128, Net.escapedInPath (Char.ofNat n) = false →
      IsReadInPath (Char.ofNat n) := by
    decide
  by_cases hc : c.toNat < 128
  · have hread := hascii ⟨c.toNat, hc⟩
    rw [Char.ofNat_toNat] at hread
    exact hread h
  · refine ⟨?_, ?_, ?_⟩
    · simp only [isPathChar, Bool.or_eq_true, decide_eq_true_iff]
      exact .inr (Nat.not_lt.mp hc)
    all_goals
      rintro rfl
      exact hc (by decide)

private theorem isReadInPath_upperDigit : ∀ n : Fin 16, IsReadInPath (Net.upperDigit n) := by decide

private theorem isReadInPath_of_mem_percentChar {c d : Char} (h : d ∈ Net.percentChar c) :
    IsReadInPath d := by
  obtain ⟨b, -, hd⟩ := List.mem_flatMap.mp h
  have hb := b.toNat_lt
  simp only [Net.percentOctet, List.mem_cons, List.not_mem_nil, or_false] at hd
  rcases hd with rfl | rfl | rfl
  · decide
  · exact isReadInPath_upperDigit ⟨b.toNat / 16, by omega⟩
  · exact isReadInPath_upperDigit ⟨b.toNat % 16, by omega⟩

/-- What is written in a path is read there. -/
theorem isReadInPath_of_mem_inPath {cs : List Char} {d : Char} (h : d ∈ inPath cs) :
    IsReadInPath d := by
  obtain ⟨c, -, hd⟩ := List.mem_flatMap.mp h
  split at hd
  · exact isReadInPath_of_mem_percentChar hd
  · next hc =>
    rw [List.mem_singleton.mp hd]
    exact isReadInPath_of_escapedInPath (Bool.not_eq_true _ ▸ hc)

private theorem readPath_eq_self {cs : List Char} (h : ∀ c ∈ cs, IsReadInPath c) :
    readPath cs = .ok cs := by
  induction cs with
  | nil => rfl
  | cons c cs ih =>
    obtain ⟨hpath, hnumber, hquestion⟩ := h c List.mem_cons_self
    rw [readPath, if_neg hnumber, if_neg hquestion, if_pos hpath,
      ih fun d hd => h d (List.mem_cons_of_mem c hd)]
    rfl

private theorem targetPath_ofList (cs : List Char) :
    targetPath (String.ofList ('/' :: cs)) =
      if 65534 < (String.ofList ('/' :: cs)).utf8ByteSize then .error .longTarget
      else (readPath ('/' :: cs)).map String.ofList := by
  unfold targetPath
  split
  · next hnil => simp at hnil
  · next hstar =>
    rw [String.toList_ofList] at hstar
    exact absurd (List.cons.inj hstar).1 (by decide)
  · next more hslash =>
    rw [String.toList_ofList] at hslash
    rw [(List.cons.inj hslash).2]
  · next hother => exact absurd String.toList_ofList (hother cs)

/-- A path that has been written for an address is read as it stands, if it is not too long. -/
theorem targetPath_normalPath (cs : List Char) {path : String}
    (h : targetPath (normalPath true cs) = .ok path) : path = normalPath true cs := by
  obtain ⟨steps, hsteps⟩ : ∃ steps : List (List Char), normalPath true cs =
      String.ofList ('/' :: List.intercalate ['/'] (steps.map inPath)) := by
    refine ⟨_, if_neg ?_⟩
    simp
  have hread : readPath ('/' :: List.intercalate ['/'] (steps.map inPath)) =
      .ok ('/' :: List.intercalate ['/'] (steps.map inPath)) := by
    refine readPath_eq_self fun c hc => ?_
    rcases List.mem_cons.mp hc with rfl | hc
    · decide
    · rcases Net.eq_or_mem_of_mem_intercalate hc with rfl | ⟨s, hs, hcs⟩
      · decide
      · obtain ⟨step, -, rfl⟩ := List.mem_map.mp hs
        exact isReadInPath_of_mem_inPath hcs
  rw [hsteps, targetPath_ofList] at h
  split at h
  · cases h
  · rw [hread] at h
    cases h
    exact hsteps.symm

end Service

/-! ### Keys that stand for themselves -/

private theorem plain_of_isUnreserved {c : Char} (h : isUnreserved c = true) :
    (c ≠ '\t' ∧ c ≠ '\n' ∧ c ≠ '\r') ∧ (c ≠ '#' ∧ c ≠ '?') ∧ c ≠ '%' ∧ c ≠ ' ' := by
  refine ⟨⟨?_, ?_, ?_⟩, ⟨?_, ?_⟩, ?_, ?_⟩
  all_goals
    rintro rfl
    revert h
    decide

private theorem isPlain_of_isUnreserved {s : String} (h : ∀ c ∈ s.toList, isUnreserved c = true) :
    IsPlain s where
  uncut c hc := (plain_of_isUnreserved (h c hc)).2.1
  unescaped x y hwithin := by
    have hpercent := h '%' (hwithin.subset List.mem_cons_self)
    exact absurd rfl (plain_of_isUnreserved hpercent).2.2.1

namespace ResultKey

variable {k : ResultKey} {advertise : String}

/-- What stands behind the authority in the address of a key. -/
private def below (k : ResultKey) : List Char :=
  if k.isClusterWide then "api/v1/results/global/".toList ++ k.resultType.toList
  else "api/v1/results/by-node/".toList ++ (k.node.toList ++ '/' :: k.resultType.toList)

private theorem address_eq (k : ResultKey) (advertise : String) :
    k.address advertise = "https://" ++ advertise ++ String.ofList ('/' :: k.below) := by
  have hcluster : Route.forCluster ++ "/" = String.ofList ('/' :: "api/v1/results/global/".toList) := rfl
  have hnode : Route.byNode ++ "/" = String.ofList ('/' :: "api/v1/results/by-node/".toList) := rfl
  have hslash : String.ofList ['/'] = "/" := rfl
  unfold address below Route.forClusterUrl Route.byNodeUrl
  split
  · rw [← List.cons_append, String.ofList_append, ← hcluster, String.ofList_toList]
    simp only [String.append_assoc]
  · rw [← List.cons_append, String.ofList_append, ← hnode, ← List.singleton_append,
      String.ofList_append, String.ofList_append, String.ofList_toList, String.ofList_toList, hslash]
    simp only [String.append_assoc]

private theorem plain_below (unreserved : k.IsUnreserved) :
    ∀ c ∈ k.below, (c ≠ '\t' ∧ c ≠ '\n' ∧ c ≠ '\r') ∧ c ≠ '#' ∧ c ≠ '?' := by
  obtain ⟨hnode, htype⟩ := unreserved
  have hplain {cs : List Char} (h : ∀ c ∈ cs, isUnreserved c = true) (c : Char) (hc : c ∈ cs) :
      (c ≠ '\t' ∧ c ≠ '\n' ∧ c ≠ '\r') ∧ c ≠ '#' ∧ c ≠ '?' :=
    (plain_of_isUnreserved (h c hc)).imp_right And.left
  have hfixed {cs : List Char} (h : cs.all (fun c => isUnreserved c || c = '/') = true) (c : Char)
      (hc : c ∈ cs) : (c ≠ '\t' ∧ c ≠ '\n' ∧ c ≠ '\r') ∧ c ≠ '#' ∧ c ≠ '?' := by
    rcases Bool.or_eq_true_iff.mp (List.all_eq_true.mp h c hc) with hu | hslash
    · exact (plain_of_isUnreserved hu).imp_right And.left
    · obtain rfl := of_decide_eq_true hslash
      decide
  unfold below
  split
  · rw [List.forall_mem_append]
    exact ⟨hfixed rfl, hplain htype⟩
  · rw [List.forall_mem_append, List.forall_mem_append, List.forall_mem_cons]
    exact ⟨hfixed rfl, hplain hnode, by decide, hplain htype⟩

private theorem takenAt_address (authority : IsAuthority advertise) (valid : k.isValid = true)
    (unreserved : k.IsUnreserved) :
    ∃ u, Url.parse (k.address advertise) = .ok u ∧ Service.TakenAt u.path k := by
  obtain ⟨hscope, segment⟩ := Bool.and_eq_true_iff.mp valid
  obtain ⟨hnode, htype⟩ := unreserved
  have spaceless : k.resultType.toList.getLast? ≠ some ' ' := fun hlast =>
    absurd rfl (plain_of_isUnreserved (htype ' ' (List.mem_of_getLast? hlast))).2.2.2
  obtain ⟨n, t⟩ := k
  by_cases hn : n = ""
  · subst hn
    obtain ⟨u, hu, hiff⟩ := Worker.takenAt_forCluster_iff authority segment
    exact ⟨u, hu, hiff.mpr ⟨isPlain_of_isUnreserved htype, spaceless, nofun⟩⟩
  · have hwide : (ResultKey.mk n t).isClusterWide = false := by
      rw [isClusterWide, ← Bool.not_eq_true, String.isEmpty_iff]
      exact hn
    rw [hwide, Bool.false_or] at hscope
    obtain ⟨u, hu, hiff⟩ := Worker.takenAt_byNode_iff authority (.inr hscope) segment
    rw [address, hwide]
    exact ⟨u, hu, hiff.mpr ⟨isPlain_of_isUnreserved htype, spaceless,
      fun _ => ⟨hn, isPlain_of_isUnreserved hnode⟩⟩⟩

/-- The address of a key that stands for itself can be read, and names no other key. -/
theorem named_of_isUnreserved (authority : IsAuthority advertise) (valid : k.isValid = true)
    (unreserved : k.IsUnreserved) :
    ∃ u, Url.parse (k.address advertise) = .ok u ∧
      ∀ j, Service.keyNamed? u.toTarget.name = some j → j = k := by
  obtain ⟨u, hu, taken⟩ := takenAt_address authority valid unreserved
  obtain ⟨host, port, hread⟩ := Net.parse_below_eq authority fun c hc =>
    (plain_below unreserved c hc).1
  rw [← address_eq, hu] at hread
  have hplain : ∀ c ∈ Text.dropTrailing isDropped ('/' :: k.below), c ≠ '#' ∧ c ≠ '?' := by
    intro c hc
    rcases List.mem_cons.mp ((List.rdropWhile_prefix _ _).subset hc) with rfl | hc
    · decide
    · exact (plain_below unreserved c hc).2
  have hpath : u.path = normalPath true (Text.dropTrailing isDropped ('/' :: k.below)) := by
    rw [Except.ok.inj hread, Net.path_assemble, (Net.cut_eq_self_iff _).mpr hplain]
  have hname : u.toTarget.name = u.path := by
    have hquery : u.query = none := by
      rw [Except.ok.inj hread, Net.query_assemble _ _ _ _ hplain]
    rw [Net.Target.name, Net.Url.toTarget, hquery]
    exact String.append_empty
  refine ⟨u, hu, fun j hj => ?_⟩
  obtain ⟨path, htarget, hkey⟩ := Option.bind_eq_some_iff.mp hj
  have hsame : path = u.path := by
    rw [hname, hpath] at htarget
    rw [hpath]
    refine Service.targetPath_normalPath _ ?_
    cases hread : Service.targetPath
        (normalPath true (Text.dropTrailing isDropped ('/' :: k.below))) with
    | error e =>
      rw [hread] at htarget
      cases htarget
    | ok p =>
      rw [hread] at htarget
      exact congrArg Except.ok (Option.some.inj htarget)
  rw [hsame, (Service.takenAt_iff u.path k).mp taken] at hkey
  exact (Option.some.inj hkey).symm

end ResultKey

end ClusterSurvey

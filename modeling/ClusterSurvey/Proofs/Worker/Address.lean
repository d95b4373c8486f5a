import ClusterSurvey.Plugin.Instance
import ClusterSurvey.Proofs.Service.Route
import ClusterSurvey.Worker.Options

/-!
# Where workers send their results

A worker puts the node and the type of its result into an address as they are, and the service reads
them from the path as if they had been escaped.  So a result comes to its own key exactly if neither part
ends the path, holds an escape, or is lost at an end: a valid key alone is not enough.
-/

namespace ClusterSurvey

open Net (IsDots IsUnescaped Url cut isDropped normalPath percentText?)

/-! ### Texts that come through -/

/-- Whether a text stands for itself inside of an address. -/
structure IsPlain (s : String) : Prop where
  /-- Nothing in it ends a path. -/
  uncut : ∀ c ∈ s.toList, c ≠ '#' ∧ c ≠ '?'
  /-- No percent sign in it has two digits behind it. -/
  unescaped : IsUnescaped s.toList

/-- Whether the parts of a key come through an address. -/
structure ResultKey.Travels (driver : Driver) (k : ResultKey) : Prop where
  /-- The type is plain. -/
  resultType : IsPlain k.resultType
  /-- Its end is not taken for the blank end of an address. -/
  spaceless : k.resultType.toList.getLast? ≠ some ' '
  /-- The node, where there is one, is plain and not empty. -/
  node : driver = .daemonSet → k.node ≠ "" ∧ IsPlain k.node

instance (s : String) : Decidable (IsPlain s) :=
  decidable_of_iff (s.toList.all (fun c => c ≠ '#' ∧ c ≠ '?') = true ∧ IsUnescaped s.toList)
    ⟨fun h => ⟨by simpa using h.1, h.2⟩, fun h => ⟨by simpa using h.uncut, h.unescaped⟩⟩

instance (driver : Driver) (k : ResultKey) : Decidable (k.Travels driver) :=
  decidable_of_iff (IsPlain k.resultType ∧ k.resultType.toList.getLast? ≠ some ' ' ∧
      (driver = .daemonSet → k.node ≠ "" ∧ IsPlain k.node))
    ⟨fun h => ⟨h.1, h.2.1, h.2.2⟩, fun h => ⟨h.resultType, h.spaceless, h.node⟩⟩

section Segment

variable {s : String} (segment : isSegment s = true)

include segment

/-- A segment has no controls. -/
private theorem low_of_isSegment {c : Char} (hc : c ∈ s.toList) : 0x20 ≤ c.toNat := by
  have hchar := ((isSegment_iff s).mp segment).2.2 c hc
  simp only [isSegmentChar, isControl, Bool.and_eq_true, Bool.not_eq_true', Bool.or_eq_false_iff,
    decide_eq_false_iff_not] at hchar
  omega

/-- So it has no line breaks. -/
private theorem unbroken_of_isSegment : ∀ c ∈ s.toList, c ≠ '\t' ∧ c ≠ '\n' ∧ c ≠ '\r' := by
  intro c hc
  have hlow := low_of_isSegment segment hc
  refine ⟨?_, ?_, ?_⟩
  all_goals
    rintro rfl
    revert hlow
    decide

/-- Only spaces are dropped at its end. -/
private theorem dropTrailing_eq_self_iff :
    Text.dropTrailing isDropped s.toList = s.toList ↔ s.toList.getLast? ≠ some ' ' := by
  have ne : s.toList ≠ [] := mt String.toList_eq_nil_iff.mp ((isSegment_iff s).mp segment).1
  have hlow := low_of_isSegment segment (List.getLast_mem ne)
  have hspace : isDropped (s.toList.getLast ne) = true ↔ s.toList.getLast ne = ' ' := by
    rw [isDropped, decide_eq_true_iff, ← Char.toNat_inj]
    have hnat : ' '.toNat = 0x20 := rfl
    omega
  have hself : Text.dropTrailing isDropped s.toList = s.toList ↔ ¬ isDropped (s.toList.getLast ne) = true :=
    List.rdropWhile_eq_self_iff.trans ⟨fun h => h ne, fun h _ => h⟩
  rw [hself, hspace, List.getLast?_eq_some_getLast ne, ne_eq, Option.some_inj]

/-- Unless something in it is an escape, it neither stays nor goes up. -/
private theorem not_isDots_of_isSegment (unescaped : IsUnescaped s.toList) : ¬ IsDots s.toList := by
  have hhead := ((isSegment_iff s).mp segment).2.1
  have hself : Net.plainStep s.toList = s.toList := by
    unfold Net.plainStep
    split
    · next e cs hcs =>
      rw [hcs] at unescaped
      rw [if_neg fun he => unescaped.ne_escapedPoint e he cs rfl]
      exact hcs.symm
    · next cs hcs =>
      rw [hcs] at hhead
      exact absurd rfl hhead
    · rfl
  unfold IsDots
  rw [hself]
  rintro (hstay | hup)
  · rw [hstay] at hhead
    exact hhead rfl
  · rw [hup] at hhead
    exact hhead rfl

/-- In front of a slash it comes through exactly if nothing in it is an escape. -/
private theorem inner_iff :
    ¬ (s.toList = [] ∨ IsDots s.toList) ∧ percentText? s = some s ↔ IsUnescaped s.toList := by
  have ne : s.toList ≠ [] := mt String.toList_eq_nil_iff.mp ((isSegment_iff s).mp segment).1
  rw [Net.percentText?_eq_self_iff]
  refine ⟨And.right, fun unescaped => ⟨?_, unescaped⟩⟩
  rintro (hnil | hdots)
  · exact ne hnil
  · exact not_isDots_of_isSegment segment unescaped hdots

/-- What is left of it at the end of an address has no separators either. -/
private theorem clear_of_seen {seen : List Char}
    (hseen : seen = cut (Text.dropTrailing isDropped s.toList)) : '/' ∉ seen ∧ '\\' ∉ seen := by
  have hsub : seen ⊆ s.toList :=
    hseen ▸ ((Net.cut_isPrefix _).trans (List.rdropWhile_prefix _ _)).subset
  obtain ⟨hslash, hback⟩ := clear_of_isSegment segment
  exact ⟨fun h => hslash (hsub h), fun h => hback (hsub h)⟩

/-- At the end of an address it comes through exactly if it is plain and does not end in a space. -/
private theorem last_iff {seen : List Char} (hseen : seen = cut (Text.dropTrailing isDropped s.toList)) :
    ¬ (seen = [] ∨ IsDots seen) ∧ percentText? (String.ofList seen) = some s ↔
      IsPlain s ∧ s.toList.getLast? ≠ some ' ' := by
  have hsub : seen <+: Text.dropTrailing isDropped s.toList := hseen ▸ Net.cut_isPrefix _
  have htrim : Text.dropTrailing isDropped s.toList <+: s.toList := List.rdropWhile_prefix _ _
  constructor
  · rintro ⟨-, hsame⟩
    have hwhole : seen = s.toList := by
      refine Net.eq_of_percentText?_of_isPrefix (hsub.trans htrim) ?_
      rw [hsame, String.ofList_toList]
    have htrimmed : Text.dropTrailing isDropped s.toList = s.toList :=
      htrim.eq_of_length_le (hwhole ▸ hsub.length_le)
    rw [htrimmed, hwhole] at hseen
    rw [hwhole, String.ofList_toList, Net.percentText?_eq_self_iff] at hsame
    exact ⟨⟨(Net.cut_eq_self_iff _).mp hseen.symm, hsame⟩, (dropTrailing_eq_self_iff segment).mp htrimmed⟩
  · rintro ⟨plain, spaceless⟩
    have hwhole : seen = s.toList := by
      rw [hseen, (dropTrailing_eq_self_iff segment).mpr spaceless,
        (Net.cut_eq_self_iff _).mpr plain.uncut]
    rw [hwhole, String.ofList_toList]
    exact (inner_iff segment).mpr plain.unescaped

end Segment

/-! ### The address of a result -/

namespace Worker

/-- The environment that a container's variables make, with so many slashes behind the address for
results.  `find` gives the values that are found elsewhere in the cluster. -/
def surroundings (find : EnvSource → String) (slashes : Nat) (c : Container) : Environment :=
  c.env.map fun v =>
    let value := v.value.getD (v.source.elim "" find)
    (v.name, if v.name = "MASTER_URL" then value ++ String.ofList (List.replicate slashes '/') else value)

/-- What the worker of an instance is told by its container. -/
theorem read_surroundings (i : Instance) (advertise : String) (credential : Credential)
    (find : EnvSource → String) (slashes : Nat) :
    ∃ o, Options.read (surroundings find slashes (i.worker advertise credential))
        (i.worker advertise credential).args = .ok o ∧
      o.masterUrl = i.masterUrl advertise ++ String.ofList (List.replicate slashes '/') ∧
      o.resultType = i.resultType ∧
      o.node = match i.definition.driver with
        | .job => none
        | .daemonSet => some (find (.field "spec.nodeName")) := by
  have hargs : (i.worker advertise credential).args = [i.workerMode] := rfl
  rw [hargs, Instance.workerMode]
  cases i.definition.driver <;> exact ⟨_, rfl, rfl, rfl, rfl⟩

/-- Slashes at the end of the address for results are dropped. -/
theorem dropTrailing_masterUrl (i : Instance) (advertise : String) (slashes : Nat) :
    Text.dropTrailing (· = '/')
        (i.masterUrl advertise ++ String.ofList (List.replicate slashes '/')).toList =
      (i.masterUrl advertise).toList := by
  have hlast : ∀ c, (i.masterUrl advertise).toList.getLast? = some c → decide (c = '/') = false := by
    intro c hc
    unfold Instance.masterUrl Route.forClusterUrl Route.byNodeUrl at hc
    cases hdriver : i.definition.driver
    all_goals
      rw [hdriver, String.toList_append, List.getLast?_append_of_ne_nil _ (by decide)] at hc
      cases hc
      decide
  rw [String.toList_append, String.toList_ofList, Text.dropTrailing_append hlast,
    Text.dropTrailing_of_all (by simp), List.append_nil]

/-- The path of an address that is read below a prefix: what ends it, and what is blank at its end, is
gone. -/
theorem parse_above {advertise : String} (authority : Net.IsAuthority advertise) {above : String}
    (habove : above = Route.forCluster ∨ above = Route.byNode) {steps : List Char}
    (unbroken : ∀ c ∈ steps, c ≠ '\t' ∧ c ≠ '\n' ∧ c ≠ '\r') :
    ∃ u, Url.parse ("https://" ++ advertise ++ above ++ "/" ++ String.ofList steps) = .ok u ∧
      u.path = normalPath true
        ((above ++ "/").toList ++ cut (Text.dropTrailing isDropped steps)) := by
  obtain ⟨below, hbelow, hall⟩ : ∃ below, (above ++ "/").toList = '/' :: below ∧
      ('/' :: below).all (fun c => (c ≠ '\t' ∧ c ≠ '\n' ∧ c ≠ '\r') ∧ c ≠ '#' ∧ c ≠ '?') = true := by
    rcases habove with rfl | rfl <;> exact ⟨_, rfl, rfl⟩
  have hplain : ∀ c ∈ '/' :: below, (c ≠ '\t' ∧ c ≠ '\n' ∧ c ≠ '\r') ∧ c ≠ '#' ∧ c ≠ '?' :=
    fun c hc => of_decide_eq_true (List.all_eq_true.mp hall c hc)
  have hlast : ∀ c, (above ++ "/").toList.getLast? = some c → isDropped c = false := by
    intro c hc
    rw [String.toList_append, List.getLast?_append_of_ne_nil _ (by decide)] at hc
    cases hc
    decide
  have haddress : "https://" ++ advertise ++ above ++ "/" ++ String.ofList steps =
      "https://" ++ advertise ++ String.ofList ('/' :: (below ++ steps)) := by
    rw [← List.cons_append, ← hbelow, String.ofList_append, String.ofList_toList]
    simp only [String.append_assoc]
  have hunbroken : ∀ c ∈ below ++ steps, c ≠ '\t' ∧ c ≠ '\n' ∧ c ≠ '\r' := by
    rw [List.forall_mem_append]
    exact ⟨fun c hc => (hplain c (List.mem_cons_of_mem _ hc)).1, unbroken⟩
  obtain ⟨u, hu, hpath⟩ := Net.parse_below authority hunbroken
  refine ⟨u, haddress ▸ hu, ?_⟩
  rw [hpath, ← List.cons_append, ← hbelow, Text.dropTrailing_append hlast,
    Net.cut_append_of_plain (fun c hc => (hplain c (hbelow ▸ hc)).2)]

/-- The result of a job comes to its key exactly if the key travels. -/
theorem takenAt_forCluster_iff {advertise t : String} (authority : Net.IsAuthority advertise)
    (segment : isSegment t = true) :
    ∃ u, Url.parse ("https://" ++ advertise ++ Route.forCluster ++ "/" ++ t) = .ok u ∧
      (Service.TakenAt u.path (.forCluster t) ↔ (ResultKey.forCluster t).Travels .job) := by
  obtain ⟨u, hu, hpath⟩ :=
    parse_above authority (.inl rfl) (unbroken_of_isSegment segment)
  rw [String.ofList_toList] at hu
  refine ⟨u, hu, ?_⟩
  set seen := cut (Text.dropTrailing isDropped t.toList) with hseen
  have hlast := last_iff segment hseen
  rw [Service.takenAt_iff, hpath, Service.keyAt?_forCluster (clear_of_seen segment hseen)]
  constructor
  · intro hkey
    split_ifs at hkey with hnot
    obtain ⟨t', ht', heq⟩ := Option.map_eq_some_iff.mp hkey
    cases heq
    obtain ⟨plain, spaceless⟩ := hlast.mp ⟨hnot, ht'⟩
    exact ⟨plain, spaceless, nofun⟩
  · rintro ⟨plain, spaceless, -⟩
    obtain ⟨hnot, hsome⟩ := hlast.mpr ⟨plain, spaceless⟩
    rw [if_neg hnot, hsome]
    rfl

/-- The path below the prefix of the nodes' results: a node in which something ends the path hides the
type. -/
private theorem parse_byNode {advertise n t : String} (authority : Net.IsAuthority advertise)
    (node : n = "" ∨ isSegment n = true) (segment : isSegment t = true) :
    ∃ u, Url.parse ("https://" ++ advertise ++ Route.byNode ++ "/" ++ n ++ "/" ++ t) = .ok u ∧
      u.path = normalPath true ((Route.byNode ++ "/").toList ++
        cut (n.toList ++ '/' :: Text.dropTrailing isDropped t.toList)) := by
  have hnode : ∀ c ∈ n.toList, c ≠ '\t' ∧ c ≠ '\n' ∧ c ≠ '\r' := by
    rcases node with rfl | hsegment
    · exact List.forall_mem_nil _
    · exact unbroken_of_isSegment hsegment
  have hunbroken : ∀ c ∈ n.toList ++ '/' :: t.toList, c ≠ '\t' ∧ c ≠ '\n' ∧ c ≠ '\r' := by
    rw [List.forall_mem_append, List.forall_mem_cons]
    exact ⟨hnode, by decide, unbroken_of_isSegment segment⟩
  obtain ⟨u, hu, hpath⟩ := parse_above authority (.inr rfl) hunbroken
  have hsteps : "https://" ++ advertise ++ Route.byNode ++ "/" ++ String.ofList (n.toList ++ '/' :: t.toList) =
      "https://" ++ advertise ++ Route.byNode ++ "/" ++ n ++ "/" ++ t := by
    rw [String.ofList_append, String.ofList_cons, String.ofList_toList, String.ofList_toList]
    simp only [String.append_assoc]
    rfl
  have hlast : ∀ c, (n.toList ++ ['/']).getLast? = some c → isDropped c = false := by
    intro c hc
    rw [List.getLast?_concat] at hc
    cases hc
    rfl
  have htrim := Text.dropTrailing_append hlast t.toList
  rw [List.append_assoc, List.append_assoc] at htrim
  refine ⟨u, hsteps ▸ hu, ?_⟩
  rw [hpath]
  exact congrArg (fun steps => normalPath true ((Route.byNode ++ "/").toList ++ cut steps)) htrim

/-- The result of a node comes to its key exactly if the key travels. -/
theorem takenAt_byNode_iff {advertise n t : String} (authority : Net.IsAuthority advertise)
    (node : n = "" ∨ isSegment n = true) (segment : isSegment t = true) :
    ∃ u, Url.parse ("https://" ++ advertise ++ Route.byNode ++ "/" ++ n ++ "/" ++ t) = .ok u ∧
      (Service.TakenAt u.path ⟨n, t⟩ ↔ (ResultKey.mk n t).Travels .daemonSet) := by
  obtain ⟨u, hu, hpath⟩ := parse_byNode authority node segment
  refine ⟨u, hu, ?_⟩
  have hclear : '/' ∉ n.toList ∧ '\\' ∉ n.toList := by
    rcases node with rfl | hsegment
    · exact ⟨List.not_mem_nil, List.not_mem_nil⟩
    · exact clear_of_isSegment hsegment
  rw [Service.takenAt_iff, hpath]
  by_cases uncut : ∀ c ∈ n.toList, c ≠ '#' ∧ c ≠ '?'
  · set seen := cut (Text.dropTrailing isDropped t.toList) with hseen
    have hlast := last_iff segment hseen
    rw [Net.cut_step uncut, ← hseen, Service.keyAt?_byNode hclear (clear_of_seen segment hseen),
      String.ofList_toList]
    constructor
    · intro hkey
      split_ifs at hkey with hnot
      obtain ⟨n', hn', hmap⟩ := Option.bind_eq_some_iff.mp hkey
      obtain ⟨t', ht', heq⟩ := Option.map_eq_some_iff.mp hmap
      cases heq
      simp only [not_or] at hnot
      obtain ⟨plain, spaceless⟩ := hlast.mp ⟨not_or.mpr ⟨hnot.1.2, hnot.2.2⟩, ht'⟩
      exact ⟨plain, spaceless, fun _ => ⟨mt String.toList_eq_nil_iff.mpr hnot.1.1,
        uncut, (Net.percentText?_eq_self_iff n).mp hn'⟩⟩
    · rintro ⟨plain, spaceless, hnode⟩
      obtain ⟨ne, -, unescaped⟩ := hnode rfl
      obtain ⟨hnotNode, hsomeNode⟩ := (inner_iff (node.resolve_left ne)).mpr unescaped
      obtain ⟨hnot, hsome⟩ := hlast.mpr ⟨plain, spaceless⟩
      rw [not_or] at hnotNode hnot
      rw [if_neg (not_or.mpr ⟨not_or.mpr ⟨hnotNode.1, hnot.1⟩, not_or.mpr ⟨hnotNode.2, hnot.2⟩⟩),
        hsomeNode, hsome]
      rfl
  · -- Nothing behind the node is left.
    have hsub : cut n.toList ⊆ n.toList := (Net.cut_isPrefix _).subset
    rw [Net.cut_append_of_not_plain uncut,
      Service.keyAt?_byNode_alone ⟨fun h => hclear.1 (hsub h), fun h => hclear.2 (hsub h)⟩]
    exact ⟨nofun, fun travels => absurd (travels.node rfl).2.uncut uncut⟩

/-- The container of the worker is the last one of what is rendered. -/
theorem worker_of_render {i : Instance} {advertise : String} {credential : Credential} {m : Manifest}
    {sidecar : Container} (rendered : i.render advertise credential = .ok m)
    (last : m.spec.containers.getLast? = some sidecar) : sidecar = i.worker advertise credential := by
  obtain ⟨-, -, -, hspec⟩ := Instance.render_eq_ok_iff.mp rendered
  rw [hspec] at last
  cases last
  rfl

/-- The address that the worker of an instance makes of what it is told. -/
theorem resultUrl_of_surroundings (i : Instance) (advertise : String) (credential : Credential)
    (find : EnvSource → String) (slashes : Nat) :
    ∃ o, Options.read (surroundings find slashes (i.worker advertise credential))
        (i.worker advertise credential).args = .ok o ∧
      o.resultUrl = match i.definition.driver with
        | .job => Route.forClusterUrl advertise ++ "/" ++ i.resultType
        | .daemonSet =>
          Route.byNodeUrl advertise ++ "/" ++ find (.field "spec.nodeName") ++ "/" ++ i.resultType := by
  obtain ⟨o, ho, hmaster, htype, hnode⟩ := read_surroundings i advertise credential find slashes
  refine ⟨o, ho, ?_⟩
  rw [Options.resultUrl, hmaster, dropTrailing_masterUrl, String.ofList_toList, htype, hnode,
    Instance.masterUrl]
  cases i.definition.driver <;> rfl

/-- **Keys on the wire**: what the worker of an instance posts to the address that it makes of what its
container tells it is taken as the result of a key that the instance owes exactly if this key travels,
however many slashes stand behind the address for results. -/
theorem takenAt_resultUrl_iff {i : Instance} {advertise : String} {credential : Credential}
    {m : Manifest} {sidecar : Container} {nodes : List String} {key : ResultKey}
    {find : EnvSource → String} (slashes : Nat) (authority : Net.IsAuthority advertise)
    (rendered : i.render advertise credential = .ok m)
    (last : m.spec.containers.getLast? = some sidecar) (owed : key ∈ i.expectedResults nodes)
    (valid : key.check = .ok ())
    (onNode : i.definition.driver = .daemonSet → find (.field "spec.nodeName") = key.node) :
    ∃ o u, Options.read (surroundings find slashes sidecar) sidecar.args = .ok o ∧
      Url.parse o.resultUrl = .ok u ∧
      (Service.TakenAt u.path key ↔ key.Travels i.definition.driver) := by
  obtain rfl := worker_of_render rendered last
  obtain ⟨o, ho, hresult⟩ := resultUrl_of_surroundings i advertise credential find slashes
  obtain ⟨hscope, hsegment⟩ := Bool.and_eq_true_iff.mp ((ResultKey.check_eq_ok_iff key).mp valid)
  unfold Instance.expectedResults at owed
  cases hdriver : i.definition.driver with
  | job =>
    rw [hdriver] at owed hresult
    obtain rfl := List.mem_singleton.mp owed
    obtain ⟨u, hu, hiff⟩ := takenAt_forCluster_iff authority hsegment
    exact ⟨o, u, ho, hresult ▸ hu, hiff⟩
  | daemonSet =>
    rw [hdriver] at owed hresult
    obtain ⟨n, -, rfl⟩ := List.mem_map.mp owed
    rw [onNode hdriver] at hresult
    have hn : n = "" ∨ isSegment n = true := by
      simpa [ResultKey.isClusterWide, String.isEmpty_iff] using hscope
    obtain ⟨u, hu, hiff⟩ := takenAt_byNode_iff authority hn hsegment
    exact ⟨o, u, ho, hresult ▸ hu, hiff⟩

/-- A plugin on every node whose result has an unusual type. -/
def unusual : Instance := ⟨⟨"sizes", "größe|50%", .daemonSet, default⟩, "s", default⟩

/-- Blanks, letters of other alphabets and a percent sign that begins no escape come through. -/
theorem takenAt_resultUrl_unusual :
    ∃ m sidecar o u, unusual.render "survey.example:8443" default = .ok m ∧
      m.spec.containers.getLast? = some sidecar ∧
      Options.read (surroundings (fun _ => "nœud 1") 2 sidecar) sidecar.args = .ok o ∧
      Url.parse o.resultUrl = .ok u ∧ Service.TakenAt u.path ⟨"nœud 1", "größe|50%"⟩ := by
  have chars : "survey.example:8443".toList.all
      (fun c => 0x20 < c.toNat ∧ Net.endsAuthority true c = false) = true := rfl
  have authority : Net.IsAuthority "survey.example:8443" :=
    ⟨fun c hc => of_decide_eq_true (List.all_eq_true.mp chars c hc), _, rfl⟩
  obtain ⟨m, rendered⟩ : ∃ m, unusual.render "survey.example:8443" default = .ok m := ⟨_, rfl⟩
  obtain ⟨sidecar, last⟩ : ∃ sidecar, m.spec.containers.getLast? = some sidecar := by
    cases rendered
    exact ⟨_, rfl⟩
  have owed : ⟨"nœud 1", "größe|50%"⟩ ∈ unusual.expectedResults ["n0", "nœud 1"] :=
    List.mem_cons_of_mem _ List.mem_cons_self
  have valid : (ResultKey.mk "nœud 1" "größe|50%").check = .ok () := by decide +kernel
  obtain ⟨o, u, ho, hu, hiff⟩ := @takenAt_resultUrl_iff _ _ _ _ _ _ _ (fun _ => "nœud 1") 2 authority
    rendered last owed valid (fun _ => rfl)
  exact ⟨m, sidecar, o, u, rendered, last, ho, hu, hiff.mpr (by decide +kernel)⟩

/-- A plugin whose result has a type with an escape in it. -/
def pasted : Instance := ⟨⟨"sys", "a%41", .job, default⟩, "s", default⟩

/-- The result of a key with an escape in it is taken as the one of the key for which it stands. -/
theorem takenAt_resultUrl_escape :
    ∃ m sidecar o u, pasted.render "survey.example:8443" default = .ok m ∧
      m.spec.containers.getLast? = some sidecar ∧
      ResultKey.forCluster "a%41" ∈ pasted.expectedResults [] ∧
      (ResultKey.forCluster "a%41").check = .ok () ∧
      Options.read (surroundings (fun _ => "") 0 sidecar) sidecar.args = .ok o ∧
      Url.parse o.resultUrl = .ok u ∧ Service.TakenAt u.path (.forCluster "aA") ∧
      ¬ Service.TakenAt u.path (.forCluster "a%41") := by
  refine ⟨_, _, _, _, rfl, rfl, List.mem_singleton_self _, by decide +kernel, rfl, rfl,
    Service.takenAt_of_keyAt? rfl, fun taken => ?_⟩
  have same := taken.unique (@Service.takenAt_of_keyAt? _ (.forCluster "aA") rfl)
  revert same
  decide +kernel

end Worker

end ClusterSurvey

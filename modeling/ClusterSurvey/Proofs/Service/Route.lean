import ClusterSurvey.Proofs.Net.Address
import ClusterSurvey.Service.Router

/-!
# The keys of paths

A result that is posted is taken as the one of the key that its path spells.  The path has been written
for an address, so steps that stay or go up are gone from it, and what is left stands for the text for
which it stood in the address.
-/

namespace ClusterSurvey.Service

open Net (IsDots inPath normalPath percentText? plainStep walk)

/-! ### Taking results -/

/-- The key whose result is taken at a path, if one is. -/
def keyAt? (path : String) : Option ResultKey :=
  (resource? path).bind fun r => r.key?.toOption.join

/-- Whether what is posted to a path is taken as the result of a key. -/
def TakenAt (path : String) (key : ResultKey) : Prop :=
  ∀ (c : Collector) (r : Request), r.method = "POST" → r.path = path → handle c r = takeResult c key r

/-- What is posted to the path of a key is taken as its result. -/
theorem takenAt_of_keyAt? {path : String} {key : ResultKey} (h : keyAt? path = some key) :
    TakenAt path key := by
  rintro c r post rfl
  obtain ⟨res, hres, hjoin⟩ := Option.bind_eq_some_iff.mp h
  have hkey : res.key? = .ok (some key) := by
    cases hk : res.key? with
    | error name =>
      rw [hk] at hjoin
      cases hjoin
    | ok k? =>
      rw [hk] at hjoin
      have hsome : some k? = some (some key) := Option.join_eq_some_iff.mp hjoin
      exact congrArg Except.ok (Option.some.inj hsome)
  unfold handle
  rw [hres]
  cases res with
  | status => cases hkey
  | clusterResult t => simp [post, hkey]
  | nodeResult n t => simp [post, hkey]

/-- At any other path nothing is collected. -/
theorem handle_fst_of_keyAt? {c : Collector} {r : Request} (h : keyAt? r.path = none) :
    (handle c r).1 = c := by
  unfold handle
  cases hres : resource? r.path with
  | none => rfl
  | some res =>
    have hkey : res.key? = .ok none ∨ ∃ name, res.key? = .error name := by
      rw [keyAt?, hres, Option.bind_some] at h
      rcases hk : res.key? with name | - | key
      · exact .inr ⟨name, rfl⟩
      · exact .inl rfl
      · rw [hk] at h
        cases h
    cases res with
    | status =>
      dsimp only
      split_ifs <;> rfl
    | clusterResult _ | nodeResult _ _ =>
      dsimp only
      split
      · rfl
      · rcases hkey with hnone | ⟨name, herror⟩
        · rw [hnone]
        · rw [herror]

/-- A request that posts no result of a key changes nothing. -/
theorem handle_fst_of_other {c : Collector} {r : Request}
    (h : ¬ (r.method = "POST" ∧ (keyAt? r.path).isSome = true)) : (handle c r).1 = c := by
  by_cases post : r.method = "POST"
  · have hnone : keyAt? r.path = none := by simpa [post] using h
    exact handle_fst_of_keyAt? hnone
  · unfold handle
    split
    · rfl
    · split_ifs <;> rfl
    · rw [if_pos post]

/-- Any other request delivers a result of the key that its path spells. -/
theorem handle_fst (c : Collector) (r : Request) :
    (handle c r).1 = c ∨ ∃ k, r.method = "POST" ∧ keyAt? r.path = some k ∧
      (handle c r).1 = c.deliver k r.pieces r.broken := by
  by_cases h : r.method = "POST" ∧ (keyAt? r.path).isSome = true
  · obtain ⟨post, hsome⟩ := h
    obtain ⟨k, hkey⟩ := Option.isSome_iff_exists.mp hsome
    exact .inr ⟨k, post, hkey, by rw [takenAt_of_keyAt? hkey c r post rfl, takeResult]⟩
  · exact .inl (handle_fst_of_other h)

/-- Where nothing is expected, a delivery is refused. -/
private theorem deliver_unexpected (key : ResultKey) :
    ∃ e, (Collector.start "" []).deliver key [] none =
      (Collector.start "" []).answerAtOnce key false .empty (Collector.start "" []).nextMark (.error e) := by
  have hnone : (Collector.start "" []).ledger.receipt? key = none := rfl
  have hmay : (Collector.start "" []).mayOpen key false (Collector.start "" []).nextMark = true := by
    simp only [Collector.mayOpen, Collector.wants, hnone]
    exact Bool.or_true _
  obtain ⟨e, hopen⟩ : ∃ e, (Collector.start "" []).openResult key false .empty
      (Collector.start "" []).nextMark = (Collector.start "" []).answerAtOnce key false .empty
        (Collector.start "" []).nextMark (.error e) := by
    unfold Collector.openResult
    cases key.check with
    | error e => exact ⟨_, rfl⟩
    | ok _ =>
      rw [hnone]
      exact ⟨_, rfl⟩
  refine ⟨e, ?_⟩
  -- What is answered already is neither written nor filed.
  simp only [Collector.deliver, List.foldl_nil, Collector.step, Collector.step?, if_pos hmay, hopen,
    Option.getD_some]
  rfl

/-- A path at which the result of a key is taken spells this key. -/
theorem takenAt_iff (path : String) (key : ResultKey) : TakenAt path key ↔ keyAt? path = some key := by
  refine ⟨fun h => ?_, takenAt_of_keyAt?⟩
  have hhandle := h (Collector.start "" []) ⟨"POST", path, [], none⟩ rfl rfl
  obtain ⟨e, htaken⟩ := deliver_unexpected key
  cases hkey : keyAt? path with
  | some other =>
    obtain ⟨f, hother⟩ := deliver_unexpected other
    have hboth := congrArg (fun p => p.1.deliveries.map Delivery.key)
      ((takenAt_of_keyAt? hkey (Collector.start "" []) ⟨"POST", path, [], none⟩ rfl rfl).symm.trans hhandle)
    simp only [takeResult, htaken, hother] at hboth
    exact congrArg some (List.singleton_injective hboth)
  | none =>
    have hsame : (handle (Collector.start "" []) ⟨"POST", path, [], none⟩).1 = Collector.start "" [] :=
      handle_fst_of_keyAt? hkey
    rw [hhandle, takeResult, htaken] at hsame
    have hlength := congrArg (fun c => c.deliveries.length) hsame
    cases hlength

/-- A path takes the results of one key at most. -/
theorem TakenAt.unique {path : String} {k j : ResultKey} (hk : TakenAt path k) (hj : TakenAt path j) :
    k = j := by
  rw [takenAt_iff] at hk hj
  exact Option.some.inj (hk.symm.trans hj)

/-! ### Routes -/

/-- Whether a text is one step of a path. -/
def IsStep (s : String) : Prop := s ≠ "" ∧ '/' ∉ s.toList

/-- The paths of the routes: that of the status, and those below a prefix with the parts of a key, as
they are written there. -/
inductive Routed : String → Resource → Prop where
  | status : Routed Route.status .status
  | clusterResult {t : String} (step : IsStep t) :
      Routed (Route.forCluster ++ "/" ++ t) (.clusterResult t)
  | nodeResult {n t : String} (node : IsStep n) (step : IsStep t) :
      Routed (Route.byNode ++ "/" ++ n ++ "/" ++ t) (.nodeResult n t)

/-- The keys that paths spell: each part stands for the text of its octets, of which some may be written
with percent signs. -/
inductive Spells (path : String) : ResultKey → Prop where
  | forCluster {t resultType : String} (routed : Routed path (.clusterResult t))
      (text : percentText? t = some resultType) : Spells path (.forCluster resultType)
  | forNode {n t node resultType : String} (routed : Routed path (.nodeResult n t))
      (nodeText : percentText? n = some node) (text : percentText? t = some resultType) :
      Spells path ⟨node, resultType⟩

/-- Whether a path is one of a result, but with a part whose octets are no text. -/
inductive IsGarbled (path : String) : Prop where
  | clusterResult {t : String} (routed : Routed path (.clusterResult t)) (text : percentText? t = none)
  | nodeResult {n t : String} (routed : Routed path (.nodeResult n t))
      (text : percentText? n = none ∨ percentText? t = none)

/-- The segments of two paths with a slash between them. -/
private theorem segments_append_slash (a b : String) :
    segments (a ++ "/" ++ b) = segments a ++ segments b := by
  have hlist : (a ++ "/" ++ b).toList = a.toList ++ '/' :: b.toList := by
    simp [String.toList_append]
  rw [segments, hlist, Text.splitAt_append_cons, List.map_append]
  rfl

/-- A step is one segment. -/
private theorem segments_of_isStep {s : String} (step : IsStep s) : segments s = [s] := by
  rw [segments, Text.splitAt_of_not_mem '/' _ step.2, List.map_singleton, String.ofList_toList]

/-- The segments of the path of a result of the whole cluster. -/
private theorem segments_forCluster {t : String} (step : IsStep t) :
    segments (Route.forCluster ++ "/" ++ t) = ["", "api", "v1", "results", "global", t] := by
  rw [segments_append_slash, segments_of_isStep step]
  rfl

/-- The segments of the path of a node's result. -/
private theorem segments_byNode {n t : String} (node : IsStep n) (step : IsStep t) :
    segments (Route.byNode ++ "/" ++ n ++ "/" ++ t) =
      ["", "api", "v1", "results", "by-node", n, t] := by
  rw [segments_append_slash, segments_append_slash, segments_of_isStep node, segments_of_isStep step]
  rfl

/-- Paths are told from each other by their segments. -/
private theorem segments_injective : Function.Injective segments := by
  intro p q h
  have hsplit : Text.splitAt '/' p.toList = Text.splitAt '/' q.toList :=
    List.map_injective_iff.mpr (fun _ _ => String.ofList_injective) h
  rw [Text.splitAt_eq_splitOn, Text.splitAt_eq_splitOn] at hsplit
  have hjoin := congrArg (List.intercalate ['/']) hsplit
  rw [List.intercalate_splitOn, List.intercalate_splitOn] at hjoin
  exact String.toList_injective hjoin

/-- A segment that is not empty is a step. -/
private theorem isStep_of_mem_segments {path s : String} (h : s ∈ segments path) (ne : s ≠ "") :
    IsStep s := by
  obtain ⟨part, hpart, rfl⟩ := List.mem_map.mp h
  refine ⟨ne, ?_⟩
  rw [String.toList_ofList]
  exact Text.not_mem_of_mem_splitAt hpart

/-- A path stands for something exactly if it is that of a route. -/
theorem resource?_eq_some_iff {path : String} {res : Resource} :
    resource? path = some res ↔ Routed path res := by
  constructor
  · intro h
    unfold resource? at h
    split at h
    · next hpath =>
      obtain rfl : Route.status = path := segments_injective (.trans rfl hpath.symm)
      cases h
      exact .status
    · next t hpath =>
      split_ifs at h with hempty
      cases h
      have step : IsStep t := isStep_of_mem_segments (by rw [hpath]; simp) hempty
      obtain rfl : Route.forCluster ++ "/" ++ t = path :=
        segments_injective ((segments_forCluster step).trans hpath.symm)
      exact .clusterResult step
    · next n t hpath =>
      split_ifs at h with hempty
      cases h
      rw [not_or] at hempty
      have node : IsStep n := isStep_of_mem_segments (by rw [hpath]; simp) hempty.1
      have step : IsStep t := isStep_of_mem_segments (by rw [hpath]; simp) hempty.2
      obtain rfl : Route.byNode ++ "/" ++ n ++ "/" ++ t = path :=
        segments_injective ((segments_byNode node step).trans hpath.symm)
      exact .nodeResult node step
    · cases h
  · rintro (- | step | ⟨node, step⟩)
    · rfl
    · rw [resource?, segments_forCluster step]
      exact if_neg step.1
    · rw [resource?, segments_byNode node step]
      exact if_neg (not_or.mpr ⟨node.1, step.1⟩)

/-- The key whose results are taken at a path is the one that the path spells. -/
theorem keyAt?_eq_some_iff {path : String} {key : ResultKey} :
    keyAt? path = some key ↔ Spells path key := by
  constructor
  · intro h
    obtain ⟨res, hres, hjoin⟩ := Option.bind_eq_some_iff.mp h
    have routed := resource?_eq_some_iff.mp hres
    cases res with
    | status => cases hjoin
    | clusterResult t =>
      cases ht : percentText? t with
      | none => simp [Resource.key?, ht, Except.toOption] at hjoin
      | some resultType =>
        obtain rfl : ResultKey.forCluster resultType = key := by
          simpa [Resource.key?, ht, Except.toOption] using hjoin
        exact .forCluster routed ht
    | nodeResult n t =>
      cases hn : percentText? n with
      | none => simp [Resource.key?, hn, Except.toOption] at hjoin
      | some node =>
        cases ht : percentText? t with
        | none => simp [Resource.key?, hn, ht, Except.toOption] at hjoin
        | some resultType =>
          obtain rfl : ResultKey.mk node resultType = key := by
            simpa [Resource.key?, hn, ht, Except.toOption] using hjoin
          exact .forNode routed hn ht
  · rintro (⟨routed, text⟩ | ⟨routed, nodeText, text⟩)
    · rw [keyAt?, resource?_eq_some_iff.mpr routed, Option.bind_some, Resource.key?, text]
      rfl
    · rw [keyAt?, resource?_eq_some_iff.mpr routed, Option.bind_some, Resource.key?, nodeText]
      simp only [text]
      rfl

/-- What is not the text of a key's part is found when the key is read. -/
theorem isGarbled_iff {path : String} :
    IsGarbled path ↔ ∃ res name, resource? path = some res ∧ res.key? = .error name := by
  constructor
  · rintro (⟨routed, text⟩ | ⟨routed, text⟩)
    · exact ⟨_, "result_type", resource?_eq_some_iff.mpr routed, by rw [Resource.key?, text]⟩
    · rename_i n t
      cases hn : percentText? n with
      | none => exact ⟨_, "node", resource?_eq_some_iff.mpr routed, by rw [Resource.key?, hn]⟩
      | some node =>
        have ht : percentText? t = none := text.resolve_left (by simp [hn])
        exact ⟨_, "result_type", resource?_eq_some_iff.mpr routed, by simp only [Resource.key?, hn, ht]⟩
  · rintro ⟨res, name, hres, hkey⟩
    have routed := resource?_eq_some_iff.mp hres
    cases res with
    | status => cases hkey
    | clusterResult t =>
      cases ht : percentText? t with
      | none => exact .clusterResult routed ht
      | some resultType => simp [Resource.key?, ht] at hkey
    | nodeResult n t =>
      cases hn : percentText? n with
      | none => exact .nodeResult routed (.inl hn)
      | some node =>
        cases ht : percentText? t with
        | none => exact .nodeResult routed (.inr ht)
        | some resultType => simp [Resource.key?, hn, ht] at hkey

/-! ### Steps of a path -/

/-- A path is split at its slashes. -/
theorem segments_steps {steps : List (List Char)} (ne : steps ≠ []) (clear : ∀ s ∈ steps, '/' ∉ s) :
    segments (String.ofList ('/' :: List.intercalate ['/'] steps)) =
      "" :: steps.map String.ofList := by
  have hbegin : '/' :: List.intercalate ['/'] steps = List.intercalate ['/'] ([] :: steps) := by
    rw [List.intercalate_cons_of_ne_nil ne]
    rfl
  have hclear : ∀ s ∈ [] :: steps, '/' ∉ s := List.forall_mem_cons.mpr ⟨List.not_mem_nil, clear⟩
  rw [segments, String.toList_ofList, hbegin, Text.splitAt_eq_splitOn,
    List.splitOn_intercalate '/' hclear (List.cons_ne_nil _ _)]
  rfl

/-- The segments of a path that is written for steps are the forms of those that are left. -/
theorem segments_normalPath {steps kept : List (List Char)} (clear : ∀ s ∈ steps, '/' ∉ s ∧ '\\' ∉ s)
    (hkept : walk plainStep [] steps = kept) (ne : kept ≠ []) :
    segments (normalPath true ('/' :: List.intercalate ['/'] steps)) =
      "" :: kept.map fun s => String.ofList (inPath s) := by
  have hsteps : steps ≠ [] := by
    rintro rfl
    exact ne hkept.symm
  have hclear : ∀ s ∈ kept.map inPath, '/' ∉ s := by
    intro s hs
    obtain ⟨step, hstep, rfl⟩ := List.mem_map.mp hs
    rw [← hkept] at hstep
    rcases Net.mem_walk hstep with hnone | hmem | rfl
    · cases hnone
    · exact Net.slash_not_mem_inPath (clear step hmem).1
    · exact List.not_mem_nil
  rw [Net.normalPath_steps hsteps clear, hkept, segments_steps (by simpa using ne) hclear, List.map_map]
  rfl

/-- A path of five segments stands for nothing. -/
theorem resource?_of_length {path : String} (h : (segments path).length = 5) : resource? path = none := by
  unfold resource?
  split
  all_goals first | rfl | simp_all

/-! ### Below the prefixes -/

/-- The steps of the prefix below which results of a kind are sent. -/
def stepsAbove (kind : String) : List (List Char) := ["api", "v1", "results", kind].map String.toList

/-- The segments of a path below a prefix. -/
private theorem segments_below {kind : String} (hkind : kind = "global" ∨ kind = "by-node")
    {steps kept : List (List Char)} (clear : ∀ s ∈ steps, '/' ∉ s ∧ '\\' ∉ s)
    (hkept : walk plainStep (stepsAbove kind).reverse steps = kept) (ne : kept ≠ []) :
    segments (normalPath true ('/' :: List.intercalate ['/'] (stepsAbove kind ++ steps))) =
      "" :: kept.map fun s => String.ofList (inPath s) := by
  have habove : ∀ s ∈ stepsAbove kind, ¬ IsDots s ∧ '/' ∉ s ∧ '\\' ∉ s := by
    rcases hkind with rfl | rfl <;> decide
  have hclear : ∀ s ∈ stepsAbove kind ++ steps, '/' ∉ s ∧ '\\' ∉ s := by
    rw [List.forall_mem_append]
    exact ⟨fun s hs => (habove s hs).2, clear⟩
  refine segments_normalPath hclear ?_ ne
  rw [Net.walk_append_of_not_isDots (fun s hs => (habove s hs).1), List.append_nil, hkept]

/-- The empty text alone has an empty form. -/
private theorem ofList_inPath_eq_empty_iff (cs : List Char) : String.ofList (inPath cs) = "" ↔ cs = [] := by
  rw [← String.toList_eq_nil_iff, String.toList_ofList, Net.inPath_eq_nil_iff]

/-- The key that a path spells below the prefix of the cluster's results. -/
theorem keyAt?_forCluster {t : List Char} (clear : '/' ∉ t ∧ '\\' ∉ t) :
    keyAt? (normalPath true ((Route.forCluster ++ "/").toList ++ t)) =
      if t = [] ∨ IsDots t then none
      else (percentText? (String.ofList t)).map ResultKey.forCluster := by
  have hpath : (Route.forCluster ++ "/").toList ++ t =
      '/' :: List.intercalate ['/'] (stepsAbove "global" ++ [t]) := by
    simp only [stepsAbove, List.map_cons, List.map_nil, List.cons_append, List.nil_append,
      List.intercalate_cons_cons, List.intercalate_singleton]
    rfl
  have hsegments {kept : List (List Char)}
      (hkept : walk plainStep (stepsAbove "global").reverse [t] = kept) (ne : kept ≠ []) :=
    segments_below (.inl rfl) (List.forall_mem_singleton.mpr clear) hkept ne
  rw [hpath, keyAt?]
  by_cases hdots : IsDots t
  · -- Only an empty step is left behind the prefix, or behind a part of it.
    obtain ⟨d, rfl | rfl, hwalk⟩ := Net.walk_cons_of_isDots hdots (stepsAbove "global").reverse []
    all_goals
      rw [if_pos (.inr hdots), resource?, hsegments hwalk (by simp [walk])]
      rfl
  · have hresource : resource? (normalPath true ('/' :: List.intercalate ['/']
        (stepsAbove "global" ++ [t]))) = if String.ofList (inPath t) = "" then none
          else some (.clusterResult (String.ofList (inPath t))) := by
      rw [resource?, hsegments (Net.walk_cons_of_not_isDots hdots _ []) (by simp [walk])]
      rfl
    rw [hresource]
    by_cases hnone : t = []
    · subst hnone
      rfl
    · rw [if_neg (mt (ofList_inPath_eq_empty_iff t).mp hnone), if_neg (not_or.mpr ⟨hnone, hdots⟩),
        Option.bind_some, Resource.key?, Net.percentText?_inPath]
      cases percentText? (String.ofList t) <;> rfl

/-- The steps of a path below the prefix of the nodes' results. -/
private theorem byNode_steps (n t : List Char) : (Route.byNode ++ "/").toList ++ (n ++ '/' :: t) =
    '/' :: List.intercalate ['/'] (stepsAbove "by-node" ++ [n, t]) := by
  simp only [stepsAbove, List.map_cons, List.map_nil, List.cons_append, List.nil_append,
    List.intercalate_cons_cons, List.intercalate_singleton]
  rw [List.append_assoc n]
  rfl

section ByNode

variable {n t : List Char} (clear : ∀ s ∈ [n, t], '/' ∉ s ∧ '\\' ∉ s)

include clear

/-- Where a step stays or goes up there is no key. -/
private theorem keyAt?_byNode_of_isDots (hdots : IsDots n ∨ IsDots t) :
    keyAt? (normalPath true ('/' :: List.intercalate ['/'] (stepsAbove "by-node" ++ [n, t]))) =
      none := by
  have hsegments {kept : List (List Char)}
      (hkept : walk plainStep (stepsAbove "by-node").reverse [n, t] = kept) (ne : kept ≠ []) :=
    segments_below (.inr rfl) clear hkept ne
  rw [keyAt?]
  by_cases hn : IsDots n
  · obtain ⟨d, hd, hwalk⟩ := Net.walk_cons_of_isDots hn (stepsAbove "by-node").reverse [t]
    rw [if_neg (List.cons_ne_nil _ _)] at hwalk
    by_cases ht : IsDots t
    · obtain ⟨e, he, hlast⟩ := Net.walk_cons_of_isDots ht d []
      rw [hlast] at hwalk
      rcases hd with rfl | rfl <;> rcases he with rfl | rfl
      all_goals
        rw [resource?, hsegments hwalk (by simp [walk])]
        rfl
    · rw [Net.walk_cons_of_not_isDots ht] at hwalk
      rcases hd with rfl | rfl
      · rw [resource?, hsegments hwalk (by simp [walk])]
        rfl
      · rw [resource?_of_length (by rw [hsegments hwalk (by simp [walk])]; rfl)]
        rfl
  · have hwalk := Net.walk_cons_of_not_isDots hn (stepsAbove "by-node").reverse [t]
    obtain ⟨e, he, hlast⟩ := Net.walk_cons_of_isDots (hdots.resolve_left hn)
      (n :: (stepsAbove "by-node").reverse) []
    rw [hlast] at hwalk
    rcases he with rfl | rfl
    · have hresource : resource? (normalPath true ('/' :: List.intercalate ['/']
          (stepsAbove "by-node" ++ [n, t]))) = if String.ofList (inPath n) = "" ∨ "" = "" then none
            else some (.nodeResult (String.ofList (inPath n)) "") := by
        rw [resource?, hsegments hwalk (by simp [walk])]
        rfl
      rw [hresource, if_pos (.inr rfl)]
      rfl
    · rw [resource?, hsegments hwalk (by simp [walk])]
      rfl

/-- Elsewhere the last two steps are the parts of a key. -/
private theorem keyAt?_byNode_of_not_isDots (hn : ¬ IsDots n) (ht : ¬ IsDots t) :
    keyAt? (normalPath true ('/' :: List.intercalate ['/'] (stepsAbove "by-node" ++ [n, t]))) =
      if n = [] ∨ t = [] then none
      else (percentText? (String.ofList n)).bind fun node =>
        (percentText? (String.ofList t)).map (ResultKey.mk node) := by
  have hwalk : walk plainStep (stepsAbove "by-node").reverse [n, t] = stepsAbove "by-node" ++ [n, t] := by
    rw [Net.walk_cons_of_not_isDots hn, Net.walk_cons_of_not_isDots ht]
    rfl
  have hresource : resource? (normalPath true ('/' :: List.intercalate ['/']
      (stepsAbove "by-node" ++ [n, t]))) =
        if String.ofList (inPath n) = "" ∨ String.ofList (inPath t) = "" then none
        else some (.nodeResult (String.ofList (inPath n)) (String.ofList (inPath t))) := by
    rw [resource?, segments_below (.inr rfl) clear hwalk (by simp)]
    rfl
  have hempty := or_congr (ofList_inPath_eq_empty_iff n) (ofList_inPath_eq_empty_iff t)
  rw [keyAt?, hresource]
  by_cases hnone : n = [] ∨ t = []
  · rw [if_pos (hempty.mpr hnone), if_pos hnone]
    rfl
  · rw [if_neg (mt hempty.mp hnone), if_neg hnone, Option.bind_some, Resource.key?,
      Net.percentText?_inPath, Net.percentText?_inPath]
    cases percentText? (String.ofList n) <;> cases percentText? (String.ofList t) <;> rfl

end ByNode

/-- The key that a path spells below the prefix of the nodes' results. -/
theorem keyAt?_byNode {n t : List Char} (clearNode : '/' ∉ n ∧ '\\' ∉ n)
    (clearType : '/' ∉ t ∧ '\\' ∉ t) :
    keyAt? (normalPath true ((Route.byNode ++ "/").toList ++ (n ++ '/' :: t))) =
      if (n = [] ∨ t = []) ∨ IsDots n ∨ IsDots t then none
      else (percentText? (String.ofList n)).bind fun node =>
        (percentText? (String.ofList t)).map (ResultKey.mk node) := by
  have clear : ∀ s ∈ [n, t], '/' ∉ s ∧ '\\' ∉ s :=
    List.forall_mem_cons.mpr ⟨clearNode, List.forall_mem_singleton.mpr clearType⟩
  rw [byNode_steps]
  by_cases hdots : IsDots n ∨ IsDots t
  · rw [keyAt?_byNode_of_isDots clear hdots, if_pos (.inr hdots)]
  · rw [keyAt?_byNode_of_not_isDots clear (fun h => hdots (.inl h)) (fun h => hdots (.inr h))]
    simp only [hdots, or_false]

/-- A path below that prefix with one step alone spells no key. -/
theorem keyAt?_byNode_alone {n : List Char} (clear : '/' ∉ n ∧ '\\' ∉ n) :
    keyAt? (normalPath true ((Route.byNode ++ "/").toList ++ n)) = none := by
  have hpath : (Route.byNode ++ "/").toList ++ n =
      '/' :: List.intercalate ['/'] (stepsAbove "by-node" ++ [n]) := by
    simp only [stepsAbove, List.map_cons, List.map_nil, List.cons_append, List.nil_append,
      List.intercalate_cons_cons, List.intercalate_singleton]
    rfl
  have hsegments {kept : List (List Char)}
      (hkept : walk plainStep (stepsAbove "by-node").reverse [n] = kept) (ne : kept ≠ []) :=
    segments_below (.inr rfl) (List.forall_mem_singleton.mpr clear) hkept ne
  rw [hpath, keyAt?]
  by_cases hdots : IsDots n
  · obtain ⟨d, rfl | rfl, hwalk⟩ := Net.walk_cons_of_isDots hdots (stepsAbove "by-node").reverse []
    all_goals
      rw [resource?, hsegments hwalk (by simp [walk])]
      rfl
  · rw [resource?, hsegments (Net.walk_cons_of_not_isDots hdots _ []) (by simp [walk])]
    rfl

end ClusterSurvey.Service

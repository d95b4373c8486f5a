import ClusterSurvey.Proofs.Plugin.Withdrawal
import ClusterSurvey.Proofs.Worker.Address

/-!
# What an instance is made of fits together

The workload of an instance refers to its secret, its monitor and its clean-up ask for what has its
mark, and its worker sends results as the keys have it that the instance owes.  Each of these is made up
on its own out of the definition, the session and the settings, so nothing but their agreement lets a
worker identify itself, and lets units be found and deleted.
-/

namespace ClusterSurvey

/-! ### Selectors -/

/-- The key and the value that a selector asks for: what stands in front of its first equals sign, and
what behind it. -/
def selection? (selector : String) : Option (String × String) :=
  match selector.toList.dropWhile (· ≠ '=') with
  | [] => none
  | _ :: value => some (.ofList (selector.toList.takeWhile (· ≠ '=')), .ofList value)

/-- Whether labels are such as a selector asks for. -/
def Selects (selector : String) (labels : List (String × String)) : Prop :=
  ∃ key value, selection? selector = some (key, value) ∧ labels.lookup key = some value

/-- A selector that is put together asks for its parts, whatever its value is. -/
theorem selection?_append {key : String} (unequal : '=' ∉ key.toList) (value : String) :
    selection? (key ++ "=" ++ value) = some (key, value) := by
  have hkey : ∀ c ∈ key.toList, decide (c ≠ '=') = true :=
    fun c hc => decide_eq_true fun h => unequal (h ▸ hc)
  have hlist : (key ++ "=" ++ value).toList = key.toList ++ '=' :: value.toList := by
    simp [String.toList_append]
  unfold selection?
  rw [hlist, List.dropWhile_append_of_pos hkey, List.takeWhile_append_of_pos hkey]
  simp

namespace Instance

variable {i j : Instance} {labels : List (String × String)}

/-- The selector of an instance asks for its session. -/
theorem selection?_selector (i : Instance) : selection? i.selector = some (sessionLabel, i.session) :=
  selection?_append (by decide) i.session

/-- It selects what is marked with the session. -/
theorem selects_selector_iff :
    Selects i.selector labels ↔ labels.lookup sessionLabel = some i.session := by
  unfold Selects
  rw [selection?_selector]
  constructor
  · rintro ⟨key, value, hselection, hlookup⟩
    cases hselection
    exact hlookup
  · exact fun h => ⟨_, _, rfl, h⟩

/-- It selects what is made for an instance exactly if both have the same session. -/
theorem selects_labels_iff : Selects i.selector j.labels ↔ j.session = i.session := by
  rw [selects_selector_iff, lookup_labels, Option.some_inj]

end Instance

/-! ### What a launch makes -/

/-- The secret that a call creates. -/
def ClusterCall.secret? : ClusterCall → Option Secret
  | .createSecret s => some s
  | _ => none

/-- The workload that a call creates. -/
def ClusterCall.workload? : ClusterCall → Option Manifest
  | .createWorkload m => some m
  | _ => none

section Launch

variable {i : Instance} {advertise : String} {credential : Credential} {m : Manifest}

/-- A launch asks for one secret. -/
theorem Instance.secrets_launch (rendered : i.render advertise credential = .ok m) (replies : Replies) :
    (i.launch replies advertise credential).1.filterMap ClusterCall.secret? =
      [i.secret credential] := by
  unfold launch dispatch
  rw [rendered]
  dsimp only
  split
  · rfl
  · split <;> rfl

/-- Unless this is refused, it asks for what was rendered. -/
theorem Instance.workloads_launch (rendered : i.render advertise credential = .ok m) {replies : Replies}
    (accepted : replies (.createSecret (i.secret credential)) = none) :
    (i.launch replies advertise credential).1.filterMap ClusterCall.workload? = [m] := by
  unfold launch dispatch
  rw [rendered]
  dsimp only
  rw [accepted]
  dsimp only
  split <;> rfl

end Launch

/-! ### What the containers are told -/

/-- The variables of a name in a container. -/
def Container.variables (c : Container) (name : String) : List EnvVar := c.env.filter (·.name = name)

/-- Whether references to secrets are looked up in a namespace: each stands for the entry that it
names. -/
def Resolves (find : EnvSource → String) (space : String) (secrets : List Secret) : Prop :=
  ∀ s ∈ secrets, s.space = space → ∀ key value, s.data.lookup key = some value →
    find (.secretKey s.name key) = value

namespace Worker

/-- What the worker of an instance takes for its identity. -/
theorem identity_of_surroundings (i : Instance) (advertise : String) (credential : Credential)
    (find : EnvSource → String) (slashes : Nat) :
    ∃ o, Options.read (surroundings find slashes (i.worker advertise credential))
        (i.worker advertise credential).args = .ok o ∧
      o.root = credential.root ∧
      o.certificate = find (.secretKey i.secretName certificateEntry) ∧
      o.key = find (.secretKey i.secretName keyEntry) := by
  have hargs : (i.worker advertise credential).args = [i.workerMode] := rfl
  rw [hargs, Instance.workerMode]
  cases i.definition.driver <;> exact ⟨_, rfl, rfl, rfl, rfl⟩

end Worker

/-- A producer has a mount of the results volume. -/
theorem Container.exists_mount_withResults (c : Container) :
    ∃ mount ∈ c.withResults.volumeMounts, mount.name = resultsVolume := by
  unfold withResults
  split
  · next mounted => simpa using mounted
  · exact ⟨resultsMount, List.mem_append_right _ (List.mem_singleton_self _), rfl⟩

/-- A container that has a mount of the results volume is left as it is. -/
theorem Container.withResults_of_mounted {c : Container}
    (mounted : ∃ mount ∈ c.volumeMounts, mount.name = resultsVolume) : c.withResults = c :=
  if_pos (by simpa using mounted)

/-- Nothing is mounted twice. -/
theorem Container.withResults_withResults (c : Container) : c.withResults.withResults = c.withResults :=
  withResults_of_mounted c.exists_mount_withResults

/-- The mounts of a producer are those of its container, and behind them the one of the results volume
unless there is one. -/
theorem Container.volumeMounts_withResults (c : Container) :
    c.withResults.volumeMounts = c.volumeMounts ++
      if ∃ mount ∈ c.volumeMounts, mount.name = resultsVolume then [] else [resultsMount] := by
  by_cases mounted : ∃ mount ∈ c.volumeMounts, mount.name = resultsVolume
  · rw [if_pos mounted, withResults_of_mounted mounted, List.append_nil]
  · rw [if_neg mounted, withResults, if_neg (by simpa using mounted)]

/-- Nothing else of a container is changed. -/
theorem Container.withResults_eq (c : Container) :
    c.withResults = { c with volumeMounts := c.withResults.volumeMounts } := by
  unfold withResults
  split <;> rfl

/-! ### The instance as a whole -/

namespace Instance

/-- The nodes of the keys that an instance owes. -/
theorem nodes_expectedResults (i : Instance) (nodes : List String) :
    (i.expectedResults nodes).map (·.node) =
      match i.definition.driver with
      | .job => [""]
      | .daemonSet => nodes := by
  unfold expectedResults
  cases i.definition.driver with
  | job => rfl
  | daemonSet => simp [Function.comp_def]

/-- How the parts that are made of an instance fit together: a manifest with a producer and the worker
at its side, a secret and a selector. -/
structure Agrees (i : Instance) (advertise : String) (credential : Credential) (m : Manifest)
    (s : Secret) (selector : String) (producer sidecar : Container) : Prop where
  /-- The workload runs these containers. -/
  containers : m.spec.containers = [producer, sidecar]
  /-- A launch creates this secret and no other. -/
  secrets : ∀ replies,
    (i.launch replies advertise credential).1.filterMap ClusterCall.secret? = [s]
  /-- Unless it is refused, the launch creates this workload and no other. -/
  workloads : ∀ replies, replies (.createSecret s) = none →
    (i.launch replies advertise credential).1.filterMap ClusterCall.workload? = [m]
  /-- Secret and workload are created side by side. -/
  space : s.space = m.metadata.space
  /-- The secret holds certificate and key. -/
  entries : s.data = [(certificateEntry, credential.certificate), (keyEntry, credential.key)]
  /-- The worker's certificate refers to the one entry. -/
  certificate : sidecar.variables "CLIENT_CERT" =
    [.ofSource "CLIENT_CERT" (.secretKey s.name certificateEntry)]
  /-- Its key refers to the other one. -/
  key : sidecar.variables "CLIENT_KEY" = [.ofSource "CLIENT_KEY" (.secretKey s.name keyEntry)]
  /-- Where references are looked up in the namespace of the workload, the worker has the identity for
  which it was made. -/
  identity : ∀ find slashes, Resolves find m.metadata.space [s] →
    ∃ o, Worker.Options.read (Worker.surroundings find slashes sidecar) sidecar.args = .ok o ∧
      o.root = credential.root ∧ o.certificate = credential.certificate ∧ o.key = credential.key
  /-- The selector finds the workload. -/
  manifestSelected : Selects selector m.metadata.labels
  /-- It finds the secret. -/
  secretSelected : Selects selector s.labels
  /-- The monitor looks by it, whatever has happened, in the namespace of the workload. -/
  looked : ∀ nodes events w, (Withdrawal.start i nodes).run? events = some w →
    w.monitor.query = (m.metadata.space, selector)
  /-- The clean-up deletes by it, in the same namespace, and the secret by its name. -/
  deleted : i.cleanup false =
    [.deleteUnits m.metadata.space selector, .deleteSecret s.space s.name]
  /-- Both containers mount the one volume of the workload. -/
  shared : ∃ v, m.spec.volumes = [v] ∧ (∃ mount ∈ producer.volumeMounts, mount.name = v.name) ∧
    ∃ mount ∈ sidecar.volumeMounts, mount.name = v.name
  /-- The producer is the container of the definition, but for its mounts. -/
  unchanged : producer = { i.definition.container with volumeMounts := producer.volumeMounts }
  /-- Its mounts are those of the definition, and behind them the results volume unless it is among them. -/
  mounts : producer.volumeMounts = i.definition.container.volumeMounts ++
    if ∃ mount ∈ i.definition.container.volumeMounts, mount.name = resultsVolume then []
    else [resultsMount]
  /-- Mounting the volume again changes nothing. -/
  idempotent : producer.withResults = producer
  /-- The worker reports under the type of every key that is owed. -/
  resultType : ∃ t, sidecar.variables "RESULT_TYPE" = [.ofValue "RESULT_TYPE" t] ∧
    ∀ nodes, ∀ k ∈ i.expectedResults nodes, k.resultType = t
  /-- It sends them to where results of the cluster, or of nodes, are taken. -/
  route : match i.definition.driver with
    | .job =>
      sidecar.args = ["global"] ∧
        sidecar.variables "MASTER_URL" =
          [.ofValue "MASTER_URL" (Route.forClusterUrl advertise)] ∧
        ∀ nodes, (i.expectedResults nodes).map (·.node) = [""]
    | .daemonSet =>
      sidecar.args = ["single-node"] ∧
        sidecar.variables "MASTER_URL" = [.ofValue "MASTER_URL" (Route.byNodeUrl advertise)] ∧
        ∀ nodes, (i.expectedResults nodes).map (·.node) = nodes

/-- The parts of every instance that can be rendered fit together. -/
theorem agrees_of_render {i : Instance} {advertise : String} {credential : Credential} {m : Manifest}
    (rendered : i.render advertise credential = .ok m) :
    i.Agrees advertise credential m (i.secret credential) i.selector
      i.definition.container.withResults (i.worker advertise credential) := by
  obtain ⟨-, -, hmetadata, hspec⟩ := render_eq_ok_iff.mp rendered
  have hspace : m.metadata.space = i.settings.cluster := by
    rw [hmetadata]
    rfl
  constructor
  case containers => rw [hspec]; rfl
  case secrets => exact secrets_launch rendered
  case workloads => exact fun _ => workloads_launch rendered
  case space => exact hspace.symm
  case entries => rfl
  case certificate => rfl
  case key => rfl
  case identity =>
    intro find slashes resolves
    have hresolves := resolves (i.secret credential) (List.mem_singleton_self _) hspace.symm
    obtain ⟨o, ho, hroot, hcertificate, hkey⟩ :=
      Worker.identity_of_surroundings i advertise credential find slashes
    exact ⟨o, ho, hroot, hcertificate.trans (hresolves _ _ rfl), hkey.trans (hresolves _ _ rfl)⟩
  case manifestSelected =>
    rw [hmetadata]
    exact selects_labels_iff.mpr rfl
  case secretSelected => exact selects_labels_iff.mpr rfl
  case looked =>
    intro nodes events w hrun
    -- Nothing that happens gives the monitor to another instance.
    have howner : w.monitor.owner = i := (Withdrawal.marked_run hrun).owner
    rw [Monitor.query, howner, hspace]
  case deleted =>
    rw [hspace]
    rfl
  case shared =>
    refine ⟨⟨resultsVolume, none⟩, ?_, Container.exists_mount_withResults _,
      resultsMount, List.mem_singleton_self _, rfl⟩
    rw [hspec]
    rfl
  case unchanged => exact Container.withResults_eq _
  case mounts => exact Container.volumeMounts_withResults _
  case idempotent => exact Container.withResults_withResults _
  case resultType => exact ⟨i.resultType, rfl, fun _ _ => resultType_of_mem⟩
  case route =>
    have hargs : (i.worker advertise credential).args = [i.workerMode] := rfl
    have hurl : (i.worker advertise credential).variables "MASTER_URL" =
        [.ofValue "MASTER_URL" (i.masterUrl advertise)] := rfl
    have hnodes := i.nodes_expectedResults
    rw [hargs, hurl, workerMode, masterUrl]
    cases hdriver : i.definition.driver with
    | job => exact ⟨rfl, rfl, fun nodes => by rw [hnodes, hdriver]⟩
    | daemonSet => exact ⟨rfl, rfl, fun nodes => by rw [hnodes, hdriver]⟩

/-- A plugin on every node whose container has the results volume somewhere else, in a session with an
equals sign. -/
def nodeLogs : Instance where
  definition := ⟨"node logs", "größe", .daemonSet,
    ⟨"logs", "example/logs:v1", none, [], ["--all"], [], [⟨"results", "/out", false⟩]⟩⟩
  session := "9f=3b"
  settings := ⟨"survey", "sonde/worker:latest", 10000⟩

/-- What its workers identify themselves with. -/
def nodeLogsCredential : Credential := ⟨"node logs", "certificate", "key", "root"⟩

/-- Its producer is the container of the definition, and its selector asks for the whole session. -/
theorem agrees_nodeLogs :
    ∃ m, nodeLogs.render "10.0.0.1:8080" nodeLogsCredential = .ok m ∧
      nodeLogs.Agrees "10.0.0.1:8080" nodeLogsCredential m
        ⟨"sonde-plugin-node logs-9f=3b", "survey",
          [("component", "sonde"), ("sonde-run", "9f=3b"), ("tier", "analysis")],
          [("tls.crt", "certificate"), ("tls.key", "key")]⟩
        "sonde-run=9f=3b" nodeLogs.definition.container
        (nodeLogs.worker "10.0.0.1:8080" nodeLogsCredential) ∧
      selection? "sonde-run=9f=3b" = some ("sonde-run", "9f=3b") := by
  obtain ⟨m, rendered⟩ :
      ∃ m, nodeLogs.render "10.0.0.1:8080" nodeLogsCredential = .ok m := ⟨_, rfl⟩
  exact ⟨m, rendered, agrees_of_render rendered, nodeLogs.selection?_selector⟩

end Instance

end ClusterSurvey

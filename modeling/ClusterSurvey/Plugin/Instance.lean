import ClusterSurvey.Cluster.Unit
import ClusterSurvey.Plugin.Manifest
import ClusterSurvey.Result.Key
import ClusterSurvey.Result.Route
import ClusterSurvey.Settings.Basic

/-!
# Plugin instances

An instance is a plugin in one run.  A session of its own marks everything that the cluster makes for
it, so that one selector finds all of it again.  The instance knows the results that it owes, the
workload that produces them and the secret with which its workers identify themselves.

Specification: section 3, `PluginInstance`; section 4.2, `ExpectedResults` and the template that `Run`
renders; section 10.6.
-/

namespace ClusterSurvey

/-- What the workers of a plugin identify themselves with. -/
structure Credential where
  /-- The plugin for which it was issued. -/
  name : String
  /-- The client certificate. -/
  certificate : String
  /-- The private key of the certificate. -/
  key : String
  /-- The root certificate that the workers trust. -/
  root : String
  deriving DecidableEq, Repr, Inhabited

/-- A credential as logs show it: without its key. -/
def Credential.debugText (c : Credential) : String :=
  "ClientCredential \x7b name: " ++ Text.quoted c.name ++ ", key_pem: \"<redacted>\" \x7d"

/-- A certificate and its key as a cluster object. -/
structure Secret where
  /-- The name of the secret. -/
  name : String
  /-- The namespace in which it lies. -/
  space : String
  /-- Its labels in the order of their names. -/
  labels : List (String × String)
  /-- Its entries in the order of their names. -/
  data : List (String × String)
  deriving DecidableEq, Repr, Inhabited

/-- A secret as logs show it: with the names of its entries and without their values. -/
def Secret.debugText (s : Secret) : String :=
  "TlsSecret \x7b name: " ++ Text.quoted s.name ++ ", namespace: " ++ Text.quoted s.space ++
    ", labels: \x7b" ++
    ", ".intercalate (s.labels.map fun l => Text.quoted l.1 ++ ": " ++ Text.quoted l.2) ++
    "\x7d, keys: [" ++ ", ".intercalate (s.data.map fun d => Text.quoted d.1) ++ "] \x7d"

/-- The label that carries the session. -/
def sessionLabel : String := "sonde-run"

/-- The entry of a secret that holds the certificate. -/
def certificateEntry : String := "tls.crt"

/-- The entry of a secret that holds the key. -/
def keyEntry : String := "tls.key"

/-- The names of the variables that configure a worker. -/
def workerVariables : List String :=
  ["NODE_NAME", "RESULTS_DIR", "MASTER_URL", "RESULT_TYPE", "CA_CERT", "CLIENT_CERT", "CLIENT_KEY"]

/-- Why a plugin's workload did not come into being. -/
inductive DispatchError where
  /-- The definition cannot be made a workload. -/
  | manifest (plugin reason : String)
  /-- The cluster refused the secret or the workload. -/
  | cluster (plugin : String) (source : ClusterError)
  deriving DecidableEq, Repr

/-- The wording of a dispatch error. -/
def DispatchError.message : DispatchError → String
  | manifest plugin reason =>
    "failed to render workload for plugin " ++ plugin ++ ": " ++ reason
  | cluster plugin source =>
    "cluster rejected workload for plugin " ++ plugin ++ ": " ++ source.message

/-- A plugin in one run. -/
structure Instance where
  /-- What the plugin is. -/
  definition : PluginDefinition
  /-- The mark of everything made for it. -/
  session : String
  /-- The settings that it shares with the run's other plugins. -/
  settings : DriverSettings
  deriving DecidableEq, Repr, Inhabited

namespace Instance

/-- The name of the plugin. -/
def name (i : Instance) : String := i.definition.name

/-- The type of the results that it owes. -/
def resultType (i : Instance) : String := i.definition.resultType

/-- The label and value that everything made for the instance has. -/
def selector (i : Instance) : String := sessionLabel ++ "=" ++ i.session

/-- The name of its secret. -/
def secretName (i : Instance) : String := "sonde-plugin-" ++ i.name ++ "-" ++ i.session

/-- The name of its workload. -/
def workloadName (i : Instance) : String :=
  "sonde-" ++ i.name ++
    (match i.definition.driver with
      | .job => "-job-"
      | .daemonSet => "-daemon-set-") ++ i.session

/-- The labels of everything made for it. -/
def labels (i : Instance) : List (String × String) :=
  [("component", "sonde"), (sessionLabel, i.session), ("tier", "analysis")]

/-- The session of an instance stands among its labels. -/
theorem lookup_labels (i : Instance) : i.labels.lookup sessionLabel = some i.session := rfl

/-- The results that it owes, given the names of the cluster's nodes. -/
def expectedResults (i : Instance) (nodes : List String) : List ResultKey :=
  match i.definition.driver with
  | .job => [.forCluster i.resultType]
  | .daemonSet => nodes.map fun n => ⟨n, i.resultType⟩

/-- All of them are of its type. -/
theorem resultType_of_mem {i : Instance} {nodes : List String} {k : ResultKey}
    (owed : k ∈ i.expectedResults nodes) : k.resultType = i.resultType := by
  unfold expectedResults at owed
  split at owed
  · rw [List.mem_singleton.mp owed]
    rfl
  · obtain ⟨n, -, rfl⟩ := List.mem_map.mp owed
    rfl

/-- Refuses a plugin whose name or result type cannot stand alone in a path. -/
def checkNames (i : Instance) : Except DispatchError Unit :=
  match (do checkSegment i.name; checkSegment i.resultType : Except KeyError Unit) with
  | .ok () => .ok ()
  | .error e => .error (.manifest i.name e.message)

/-- The names of a plugin can stand in a path exactly if both are segments. -/
theorem checkNames_eq_ok_iff {i : Instance} :
    i.checkNames = .ok () ↔ isSegment i.name = true ∧ isSegment i.resultType = true := by
  unfold checkNames checkSegment
  cases isSegment i.name with
  | false => exact ⟨nofun, fun h => by cases h.1⟩
  | true =>
    cases isSegment i.resultType with
    | false => exact ⟨nofun, fun h => by cases h.2⟩
    | true => exact ⟨fun _ => ⟨rfl, rfl⟩, fun _ => rfl⟩

/-- They are refused for the first of them that is none. -/
theorem checkNames_eq_error_iff {i : Instance} {e : DispatchError} :
    i.checkNames = .error e ↔
      ∃ segment, e = .manifest i.name (KeyError.invalidSegment segment).message ∧
        (isSegment i.name = false ∧ segment = i.name ∨
          isSegment i.name = true ∧ isSegment i.resultType = false ∧ segment = i.resultType) := by
  unfold checkNames checkSegment
  cases isSegment i.name with
  | false =>
    constructor
    · intro h
      cases h
      exact ⟨i.name, rfl, .inl ⟨rfl, rfl⟩⟩
    · rintro ⟨segment, rfl, ⟨-, rfl⟩ | ⟨named, -⟩⟩
      · rfl
      · cases named
  | true =>
    cases isSegment i.resultType with
    | false =>
      constructor
      · intro h
        cases h
        exact ⟨i.resultType, rfl, .inr ⟨rfl, rfl, rfl⟩⟩
      · rintro ⟨segment, rfl, ⟨unnamed, -⟩ | ⟨-, -, rfl⟩⟩
        · cases unnamed
        · rfl
    | true =>
      refine ⟨nofun, ?_⟩
      rintro ⟨segment, -, ⟨unnamed, -⟩ | ⟨-, untyped, -⟩⟩
      · cases unnamed
      · cases untyped

/-- The name, place and marks of its workload. -/
def metadata (i : Instance) : ObjectMeta where
  name := i.workloadName
  space := i.settings.cluster
  labels := i.labels
  annotations := [("sonde-driver", i.definition.driver.name), ("sonde-plugin", i.name),
    ("sonde-result-type", i.resultType)]

/-- What the worker is told about how results are sent. -/
def workerMode (i : Instance) : String :=
  match i.definition.driver with
  | .job => "global"
  | .daemonSet => "single-node"

/-- The address below which the worker sends results. -/
def masterUrl (i : Instance) (advertise : String) : String :=
  match i.definition.driver with
  | .job => Route.forClusterUrl advertise
  | .daemonSet => Route.byNodeUrl advertise

/-- The container that sends results: it finds certificate and key in the instance's secret. -/
def worker (i : Instance) (advertise : String) (credential : Credential) : Container where
  name := workerContainer
  image := i.settings.workerImage
  imagePullPolicy := some "IfNotPresent"
  command := ["sonde-worker"]
  args := [i.workerMode]
  env := [
    .ofSource "NODE_NAME" (.field "spec.nodeName"),
    .ofValue "RESULTS_DIR" resultsDir,
    .ofValue "MASTER_URL" (i.masterUrl advertise),
    .ofValue "RESULT_TYPE" i.resultType,
    .ofValue "CA_CERT" credential.root,
    .ofSource "CLIENT_CERT" (.secretKey i.secretName certificateEntry),
    .ofSource "CLIENT_KEY" (.secretKey i.secretName keyEntry)]
  volumeMounts := [resultsMount]

/-- The taints that a workload on every node puts up with. -/
def everyNode : List Toleration :=
  [⟨"node-role.kubernetes.io/master", some "NoSchedule"⟩,
    ⟨"node-role.kubernetes.io/control-plane", some "NoSchedule"⟩, ⟨"CriticalAddonsOnly", none⟩]

/-- What its workload runs: the producer and the worker, with the results volume between them. -/
def workload (i : Instance) (advertise : String) (credential : Credential) : WorkloadSpec where
  containers := [i.definition.container.withResults, i.worker advertise credential]
  restartPolicy := if i.definition.driver = .job then some "Never" else none
  serviceAccount := some "sonde-serviceaccount"
  hostNetwork := i.definition.driver = .daemonSet
  hostProcesses := i.definition.driver = .daemonSet
  hostIpc := i.definition.driver = .daemonSet
  dnsPolicy := if i.definition.driver = .daemonSet then some "ClusterFirstWithHostNet" else none
  tolerations := if i.definition.driver = .daemonSet then everyNode else []
  volumes := [⟨resultsVolume, none⟩]

/-- The workload as the cluster is asked for it. -/
def render (i : Instance) (advertise : String) (credential : Credential) :
    Except DispatchError Manifest := do
  i.checkNames
  return {
    kind := match i.definition.driver with
      | .job => .pod
      | .daemonSet => .daemonSet
    metadata := i.metadata
    spec := i.workload advertise credential }

/-- A workload is rendered exactly if the names can stand in a path, and then it is this one. -/
theorem render_eq_ok_iff {i : Instance} {advertise : String} {credential : Credential} {m : Manifest} :
    i.render advertise credential = .ok m ↔
      i.checkNames = .ok () ∧ m.kind = (match i.definition.driver with
        | .job => .pod
        | .daemonSet => .daemonSet) ∧
      m.metadata = i.metadata ∧ m.spec = i.workload advertise credential := by
  unfold render
  cases i.checkNames with
  | error e => exact ⟨nofun, fun h => by cases h.1⟩
  | ok u =>
    constructor
    · intro h
      cases h
      exact ⟨rfl, rfl, rfl, rfl⟩
    · rintro ⟨-, hkind, hmetadata, hspec⟩
      cases m
      cases hkind
      cases hmetadata
      cases hspec
      rfl

/-- Nothing else can go wrong when a workload is rendered. -/
theorem render_eq_error_iff {i : Instance} {advertise : String} {credential : Credential}
    {e : DispatchError} : i.render advertise credential = .error e ↔ i.checkNames = .error e := by
  unfold render
  cases i.checkNames with
  | error problem =>
    constructor
    · intro h
      cases h
      rfl
    · intro h
      cases h
      rfl
  | ok u => exact ⟨nofun, nofun⟩

/-- The secret with which the workers identify themselves. -/
def secret (i : Instance) (credential : Credential) : Secret where
  name := i.secretName
  space := i.settings.cluster
  labels := i.labels
  data := [(certificateEntry, credential.certificate), (keyEntry, credential.key)]

/-- An instance as logs show it. -/
def debugText (i : Instance) (cleaned : Bool) : String :=
  "PluginBase \x7b name: " ++ Text.quoted i.name ++ ", result_type: " ++ Text.quoted i.resultType ++
    ", session_id: " ++ Text.quoted i.session ++ ", namespace: " ++
    Text.quoted i.settings.cluster ++ ", cleaned: " ++ (if cleaned then "true" else "false") ++
    " \x7d"

end Instance

end ClusterSurvey

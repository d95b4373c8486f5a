import ClusterSurvey.Plugin.Definition

/-!
# Workload manifests

What the cluster is asked to run: a unit, or a set of units, with its containers and volumes.  A
producer writes its result into a volume that it shares with the worker container beside it.

Specification: section 10.6, workload manifests.
-/

namespace ClusterSurvey

/-- The kind of a workload. -/
inductive WorkloadKind where
  /-- One unit. -/
  | pod
  /-- One unit per node. -/
  | daemonSet
  deriving DecidableEq, Repr, Inhabited

/-- The name of a workload's kind. -/
def WorkloadKind.name : WorkloadKind → String
  | pod => "Pod"
  | daemonSet => "DaemonSet"

/-- A taint of a node that a workload puts up with. -/
structure Toleration where
  /-- The key of the taint. -/
  key : String
  /-- Its effect; without one, every effect. -/
  effect : Option String
  deriving DecidableEq, Repr, Inhabited

/-- A volume of a workload: a directory of the host, or else an empty one. -/
structure Volume where
  /-- The name of the volume. -/
  name : String
  /-- The directory of the host. -/
  hostPath : Option String
  deriving DecidableEq, Repr, Inhabited

/-- What a workload runs and how. -/
structure WorkloadSpec where
  /-- Its containers. -/
  containers : List Container
  /-- When a container is started again. -/
  restartPolicy : Option String
  /-- The account under which it runs. -/
  serviceAccount : Option String
  /-- Whether it shares the network of its node. -/
  hostNetwork : Bool
  /-- Whether it shares the processes of its node. -/
  hostProcesses : Bool
  /-- Whether it shares the interprocess communication of its node. -/
  hostIpc : Bool
  /-- How it looks names up. -/
  dnsPolicy : Option String
  /-- What it puts up with. -/
  tolerations : List Toleration
  /-- Its volumes. -/
  volumes : List Volume
  deriving DecidableEq, Repr, Inhabited

/-- The name, place and marks of a cluster object. -/
structure ObjectMeta where
  /-- The name of the object. -/
  name : String
  /-- The namespace in which it lies. -/
  space : String
  /-- Its labels in the order of their names. -/
  labels : List (String × String)
  /-- Its annotations in the order of their names. -/
  annotations : List (String × String)
  deriving DecidableEq, Repr, Inhabited

/-- A workload as the cluster is asked for it. -/
structure Manifest where
  /-- The kind of the workload. -/
  kind : WorkloadKind
  /-- Its name, place and marks. -/
  metadata : ObjectMeta
  /-- What it runs. -/
  spec : WorkloadSpec
  deriving DecidableEq, Repr, Inhabited

/-- The name of the worker's container. -/
def workerContainer : String := "sonde-worker"

/-- The name of the volume into which results are written. -/
def resultsVolume : String := "results"

/-- Where every container finds the results. -/
def resultsDir : String := "/tmp/results"

/-- The results volume as a container sees it. -/
def resultsMount : VolumeMount := ⟨resultsVolume, resultsDir, false⟩

/-- A producer's container, which sees the results volume unless it has a mount of that name. -/
def Container.withResults (c : Container) : Container :=
  if c.volumeMounts.any (·.name = resultsVolume) then c
  else { c with volumeMounts := c.volumeMounts ++ [resultsMount] }

/-- Names and values as a JSON object. -/
def Json.ofPairs (ps : List (String × String)) : Json :=
  .object (ps.map fun p => (p.1, .string p.2))

/-- The JSON form of a toleration. -/
def Toleration.toJson (t : Toleration) : Json :=
  .object ([("key", .string t.key), ("operator", .string "Exists")] ++
    Json.member? "effect" t.effect .string)

/-- The JSON form of a volume. -/
def Volume.toJson (v : Volume) : Json :=
  .object [("name", .string v.name),
    match v.hostPath with
    | none => ("emptyDir", .object [])
    | some path => ("hostPath", .object [("path", .string path)])]

/-- The JSON form of a workload's content. -/
def WorkloadSpec.toJson (s : WorkloadSpec) : Json :=
  .object (("containers", .array (s.containers.map Container.toJson)) ::
    Json.member? "restartPolicy" s.restartPolicy .string ++
    Json.member? "serviceAccountName" s.serviceAccount .string ++
    Json.memberIf s.hostNetwork "hostNetwork" (.bool true) ++
    Json.memberIf s.hostProcesses "hostPID" (.bool true) ++
    Json.memberIf s.hostIpc "hostIPC" (.bool true) ++
    Json.member? "dnsPolicy" s.dnsPolicy .string ++
    Json.memberIf (!s.tolerations.isEmpty) "tolerations"
      (.array (s.tolerations.map Toleration.toJson)) ++
    [("volumes", .array (s.volumes.map Volume.toJson))])

/-- The JSON form of an object's name, place and marks. -/
def ObjectMeta.toJson (m : ObjectMeta) : Json :=
  .object [("name", .string m.name), ("namespace", .string m.space),
    ("labels", .ofPairs m.labels), ("annotations", .ofPairs m.annotations)]

namespace Manifest

/-- The name of the workload. -/
def name (m : Manifest) : String := m.metadata.name

/-- The first container of a name. -/
def container? (m : Manifest) (name : String) : Option Container :=
  m.spec.containers.find? (·.name = name)

/-- The first environment variable of a name in a container. -/
def envVar? (m : Manifest) (container name : String) : Option EnvVar := do
  let c ← m.container? container
  c.env.find? (·.name = name)

/-- The value that a container's variable has by itself. -/
def value? (m : Manifest) (container name : String) : Option String := do
  let v ← m.envVar? container name
  v.value

/-- The JSON form of a workload. -/
def toJson (m : Manifest) : Json :=
  .object [("kind", .string m.kind.name), ("metadata", m.metadata.toJson), ("spec", m.spec.toJson)]

end Manifest

end ClusterSurvey

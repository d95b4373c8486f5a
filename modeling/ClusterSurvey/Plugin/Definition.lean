import ClusterSurvey.Json.Reader
import ClusterSurvey.Text.Quoted

/-!
# Plugin definitions

A plugin names the container that produces its result and the driver that lays it onto the cluster:
a job runs one unit and owes one result, a daemon set runs a unit on each node and owes a result per
node.

Specification: section 3, `PluginDefinition`, and section 4.2, the two variants.
-/

namespace ClusterSurvey

/-- How a plugin's workload is laid onto the cluster. -/
inductive Driver where
  /-- One unit for the whole cluster. -/
  | job
  /-- One unit per node. -/
  | daemonSet
  deriving DecidableEq, Repr, Inhabited

namespace Driver

/-- The name of a driver. -/
def name : Driver → String
  | job => "Job"
  | daemonSet => "DaemonSet"

/-- The driver that somebody means by a text. -/
def ofName? (s : String) : Option Driver :=
  if s = "Job" ∨ s = "job" then some job
  else if s = "DaemonSet" ∨ s = "daemonset" ∨ s = "daemon-set" then some daemonSet
  else none

/-- What is said of a text that means no driver. -/
def unknownMessage (s : String) : String := "unknown driver " ++ Text.quoted s

/-- The JSON form of a driver. -/
def toJson (d : Driver) : Json := .string d.name

/-- Reads a driver. -/
def reader : Json.Reader Driver :=
  .variant [.constant "Job" job, .constant "DaemonSet" daemonSet]

end Driver

/-- Where the value of an environment variable comes from. -/
inductive EnvSource where
  /-- A field of the scheduled unit. -/
  | field (path : String)
  /-- One entry of a secret. -/
  | secretKey (name : String) (key : String)
  deriving DecidableEq, Repr, Inhabited

namespace EnvSource

/-- The JSON form of a source. -/
def toJson : EnvSource → Json
  | field path => .object [("fieldRef", .object [("fieldPath", .string path)])]
  | secretKey name key =>
    .object [("secretKeyRef", .object [("name", .string name), ("key", .string key)])]

/-- Reads a source. -/
def reader : Json.Reader EnvSource :=
  .variant [
    .record "fieldRef" <| Json.RecordReader.read "struct variant EnvSource::FieldRef" <|
      field <$> .required "fieldPath" .text,
    .record "secretKeyRef" <| Json.RecordReader.read "struct variant EnvSource::SecretKeyRef" <|
      secretKey <$> .required "name" .text <*> .required "key" .text]

end EnvSource

/-- An environment variable of a container. -/
structure EnvVar where
  /-- The name of the variable. -/
  name : String
  /-- Its value. -/
  value : Option String
  /-- Where its value comes from. -/
  source : Option EnvSource
  deriving DecidableEq, Repr, Inhabited

/-- A member of an object that is left out if there is nothing to say. -/
def Json.memberIf (present : Bool) (name : String) (value : Json) : List (String × Json) :=
  if present then [(name, value)] else []

/-- A member of an object for a value that may be absent. -/
def Json.member? {α : Type} (name : String) (value : Option α) (f : α → Json) :
    List (String × Json) :=
  match value with
  | some v => [(name, f v)]
  | none => []

namespace EnvVar

/-- A variable with a value. -/
def ofValue (name value : String) : EnvVar := ⟨name, some value, none⟩

/-- A variable whose value is found elsewhere. -/
def ofSource (name : String) (source : EnvSource) : EnvVar := ⟨name, none, some source⟩

/-- The JSON form of a variable. -/
def toJson (v : EnvVar) : Json :=
  .object (("name", .string v.name) :: Json.member? "value" v.value .string ++
    Json.member? "valueFrom" v.source EnvSource.toJson)

/-- Reads a variable. -/
def reader : Json.Reader EnvVar :=
  Json.RecordReader.read "struct EnvVar" <|
    mk <$> .required "name" .text <*> .optional "value" (.option .text) none <*>
      .optional "valueFrom" (.option EnvSource.reader) none

end EnvVar

/-- A volume as a container sees it. -/
structure VolumeMount where
  /-- The name of the volume. -/
  name : String
  /-- Where the container finds it. -/
  mountPath : String
  /-- Whether the container may only read it. -/
  readOnly : Bool
  deriving DecidableEq, Repr, Inhabited

namespace VolumeMount

/-- The JSON form of a mount. -/
def toJson (m : VolumeMount) : Json :=
  .object [("name", .string m.name), ("mountPath", .string m.mountPath),
    ("readOnly", .bool m.readOnly)]

/-- Reads a mount; unless it says otherwise, it can be written to. -/
def reader : Json.Reader VolumeMount :=
  Json.RecordReader.read "struct VolumeMount" <|
    mk <$> .required "name" .text <*> .required "mountPath" .text <*>
      .optional "readOnly" .bool false

end VolumeMount

/-- A container of a workload. -/
structure Container where
  /-- The name of the container. -/
  name : String
  /-- The image that it runs. -/
  image : String
  /-- When the image is fetched. -/
  imagePullPolicy : Option String
  /-- The command, if not the image's own. -/
  command : List String
  /-- The arguments of the command. -/
  args : List String
  /-- Its environment. -/
  env : List EnvVar
  /-- The volumes that it sees. -/
  volumeMounts : List VolumeMount
  deriving DecidableEq, Repr, Inhabited

namespace Container

/-- The JSON form of a container; whatever is empty is left out, except its name. -/
def toJson (c : Container) : Json :=
  .object (("name", .string c.name) ::
    Json.memberIf (!c.image.isEmpty) "image" (.string c.image) ++
    Json.member? "imagePullPolicy" c.imagePullPolicy .string ++
    Json.memberIf (!c.command.isEmpty) "command" (.ofTexts c.command) ++
    Json.memberIf (!c.args.isEmpty) "args" (.ofTexts c.args) ++
    Json.memberIf (!c.env.isEmpty) "env" (.array (c.env.map EnvVar.toJson)) ++
    Json.memberIf (!c.volumeMounts.isEmpty) "volumeMounts"
      (.array (c.volumeMounts.map VolumeMount.toJson)))

/-- Reads a container. -/
def reader : Json.Reader Container :=
  Json.RecordReader.read "struct ContainerSpec" <|
    mk <$> .required "name" .text
      <*> .optional "image" .text ""
      <*> .optional "imagePullPolicy" (.option .text) none
      <*> .optional "command" (.list .text) []
      <*> .optional "args" (.list .text) []
      <*> .optional "env" (.list EnvVar.reader) []
      <*> .optional "volumeMounts" (.list VolumeMount.reader) []

end Container

/-- What a plugin is: its name, the type of its results, its driver and its container. -/
structure PluginDefinition where
  /-- The name of the plugin. -/
  name : String
  /-- The type of the results that it owes. -/
  resultType : String
  /-- How it is laid onto the cluster. -/
  driver : Driver
  /-- The container that produces its results. -/
  container : Container
  deriving DecidableEq, Repr, Inhabited

namespace PluginDefinition

/-- The JSON form of a definition. -/
def toJson (p : PluginDefinition) : Json :=
  .object [("name", .string p.name), ("result_type", .string p.resultType),
    ("driver", p.driver.toJson), ("spec", p.container.toJson)]

/-- Reads a definition. -/
def reader : Json.Reader PluginDefinition :=
  Json.RecordReader.read "struct PluginDefinition" <|
    mk <$> .required "name" .text
      <*> .required "result_type" .text
      <*> .required "driver" Driver.reader
      <*> .required "spec" Container.reader

end PluginDefinition

end ClusterSurvey

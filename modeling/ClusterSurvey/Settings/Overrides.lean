import ClusterSurvey.Settings.Basic
import ClusterSurvey.Toml.Reader

/-!
# Settings that are named in part

A file or an environment names some of the settings and leaves the others as they are.
-/

namespace ClusterSurvey

/-- Some of the settings of a run. -/
structure Overrides where
  /-- The address to listen on. -/
  bindAddress : Option String := none
  /-- The port to listen on. -/
  bindPort : Option Nat := none
  /-- The address at which workers reach the run. -/
  advertiseAddress : Option String := none
  /-- Seconds until the run fails. -/
  timeout : Option Nat := none
  /-- Seconds between the clean-up and the timeout. -/
  gracePeriod : Option Nat := none
  /-- The namespace of all workloads. -/
  cluster : Option String := none
  /-- The image of the worker container. -/
  workerImage : Option String := none
  /-- Seconds between two looks at a workload. -/
  monitorInterval : Option Nat := none
  deriving DecidableEq, Repr

namespace Overrides

/-- No settings at all. -/
def empty : Overrides := {}

/-- The settings named here, and the others as they stand in `base`. -/
def onto (o : Overrides) (base : Settings) : Settings where
  bindAddress := o.bindAddress.getD base.bindAddress
  bindPort := o.bindPort.getD base.bindPort
  advertiseAddress := o.advertiseAddress.getD base.advertiseAddress
  timeout := o.timeout.getD base.timeout
  gracePeriod := o.gracePeriod.getD base.gracePeriod
  cluster := o.cluster.getD base.cluster
  workerImage := o.workerImage.getD base.workerImage
  monitorInterval := o.monitorInterval.getD base.monitorInterval

/-- How each setting of a file is read. -/
def fileFields : List (String × (Toml.Value → Overrides → Except Toml.ReadError Overrides)) :=
  let text (put : String → Overrides → Overrides) (v : Toml.Value) (o : Overrides) :=
    (Toml.Reader.text v).map fun s => put s o
  let natural (bits : Nat) (put : Nat → Overrides → Overrides) (v : Toml.Value) (o : Overrides) :=
    (Toml.Reader.natural bits v).map fun n => put n o
  [("bind_address", text fun s o => { o with bindAddress := some s }),
    ("bind_port", natural 16 fun n o => { o with bindPort := some n }),
    ("advertise_address", text fun s o => { o with advertiseAddress := some s }),
    ("timeout_seconds", natural 64 fun n o => { o with timeout := some n }),
    ("grace_period_seconds", natural 64 fun n o => { o with gracePeriod := some n }),
    ("namespace", text fun s o => { o with cluster := some s }),
    ("worker_image", text fun s o => { o with workerImage := some s }),
    ("monitor_interval_seconds", natural 64 fun n o => { o with monitorInterval := some n })]

/-- Reads the settings that the text of a file names. -/
def ofFile (text : String) : Except Toml.ReadError Overrides :=
  match Toml.Members.ofText? text with
  | some ms => ms.read fileFields empty
  | none => .error .malformed

end Overrides

end ClusterSurvey

import ClusterSurvey.Json.Reader
import ClusterSurvey.Net.IpAddress
import ClusterSurvey.Text.Blank
import ClusterSurvey.Text.Quoted

/-!
# Settings of a run

A run listens on a bind address, tells its workers an advertised address, and ends at a hard timeout.
A grace period before that it cleans its workloads up.

Specification: section 10.4, `AggregationConfig`.
-/

namespace ClusterSurvey

/-- What the drivers of a run need to know. -/
structure DriverSettings where
  /-- The namespace of all workloads. -/
  cluster : String
  /-- The image of the worker container. -/
  workerImage : String
  /-- Milliseconds between two looks at a workload. -/
  interval : Nat
  deriving DecidableEq, Repr, Inhabited

/-- The settings of a run. -/
structure Settings where
  /-- The address to listen on. -/
  bindAddress : String
  /-- The port to listen on. -/
  bindPort : Nat
  /-- The address at which workers reach the run. -/
  advertiseAddress : String
  /-- Seconds until the run fails. -/
  timeout : Nat
  /-- Seconds between the clean-up and the timeout. -/
  gracePeriod : Nat
  /-- The namespace of all workloads. -/
  cluster : String
  /-- The image of the worker container. -/
  workerImage : String
  /-- Seconds between two looks at a workload. -/
  monitorInterval : Nat
  deriving DecidableEq, Repr, Inhabited

/-- Why a run cannot start with its settings. -/
inductive SettingsError where
  | noAdvertiseAddress
  | zeroBindPort
  | zeroTimeout
  | longGracePeriod (gracePeriod timeout : Nat)
  | zeroMonitorInterval
  | noNamespace
  | badBindAddress (address : String)
  deriving DecidableEq, Repr

/-- The wording of a settings error. -/
def SettingsError.message : SettingsError → String
  | noAdvertiseAddress => "advertise_address is required"
  | zeroBindPort => "bind_port must be non-zero"
  | zeroTimeout => "timeout_seconds must be non-zero"
  | longGracePeriod grace timeout =>
    "grace_period_seconds (" ++ toString grace ++ ") must be shorter than timeout_seconds (" ++
      toString timeout ++ ")"
  | zeroMonitorInterval => "monitor_interval_seconds must be non-zero"
  | noNamespace => "namespace is required"
  | badBindAddress address =>
    "invalid bind address " ++ Text.quoted address ++ ": invalid IP address syntax"

namespace Settings

/-- The settings of a run that nobody configured. -/
def default : Settings where
  bindAddress := "0.0.0.0"
  bindPort := 8080
  advertiseAddress := ""
  timeout := 10800
  gracePeriod := 45
  cluster := "sonde"
  workerImage := "sonde/worker:latest"
  monitorInterval := 10

/-- The socket to listen on. -/
def bindSocket (s : Settings) : Except SettingsError Net.SocketAddress :=
  match Net.IpAddress.parse? s.bindAddress with
  | some ip => .ok ⟨ip, s.bindPort⟩
  | none => .error (.badBindAddress s.bindAddress)

/-- Seconds until the run fails. -/
def hardTimeout (s : Settings) : Nat := s.timeout

/-- Seconds until the run cleans up. -/
def softTimeout (s : Settings) : Nat := s.timeout - s.gracePeriod

/-- What the run's drivers need to know. -/
def driverSettings (s : Settings) : DriverSettings :=
  ⟨s.cluster, s.workerImage, s.monitorInterval * 1000⟩

/-- Refuses settings with which a run cannot start, for the first reason that holds. -/
def check (s : Settings) : Except SettingsError Unit := do
  if Text.allBlank s.advertiseAddress then throw .noAdvertiseAddress
  if s.bindPort = 0 then throw .zeroBindPort
  if s.timeout = 0 then throw .zeroTimeout
  if s.timeout ≤ s.gracePeriod then throw (.longGracePeriod s.gracePeriod s.timeout)
  if s.monitorInterval = 0 then throw .zeroMonitorInterval
  if Text.allBlank s.cluster then throw .noNamespace
  let _ ← s.bindSocket

private theorem refuse_eq_ok_iff {c : Prop} [Decidable c] {e : SettingsError}
    {rest : Except SettingsError Unit} :
    (do
      if c then throw e
      rest) = .ok () ↔ ¬ c ∧ rest = .ok () := by
  by_cases h : c
  · rw [if_pos h]
    exact ⟨nofun, fun hboth => absurd h hboth.1⟩
  · rw [if_neg h, and_iff_right h]

/-- What settings have to be for a run to start with them. -/
theorem check_eq_ok_iff {s : Settings} :
    s.check = .ok () ↔
      Text.allBlank s.advertiseAddress = false ∧ s.bindPort ≠ 0 ∧ s.timeout ≠ 0 ∧
        s.gracePeriod < s.timeout ∧ s.monitorInterval ≠ 0 ∧ Text.allBlank s.cluster = false ∧
        ∃ socket, s.bindSocket = .ok socket := by
  have hsocket : (do let _ ← s.bindSocket) = .ok () ↔ ∃ socket, s.bindSocket = .ok socket := by
    cases s.bindSocket with
    | error e => exact ⟨nofun, nofun⟩
    | ok socket => exact ⟨fun _ => ⟨socket, rfl⟩, fun _ => rfl⟩
  unfold check
  rw [refuse_eq_ok_iff, refuse_eq_ok_iff, refuse_eq_ok_iff, refuse_eq_ok_iff, refuse_eq_ok_iff,
    refuse_eq_ok_iff, hsocket, Bool.not_eq_true, Bool.not_eq_true, Nat.not_le]

/-- A run that can start cleans up before it fails, and some time after its start. -/
theorem gracePeriod_lt_timeout {s : Settings} (h : s.check = .ok ()) : s.gracePeriod < s.timeout :=
  (check_eq_ok_iff.mp h).2.2.2.1

/-- The JSON form of settings. -/
def toJson (s : Settings) : Json :=
  .object [("bind_address", .string s.bindAddress), ("bind_port", .ofNat s.bindPort),
    ("advertise_address", .string s.advertiseAddress), ("timeout_seconds", .ofNat s.timeout),
    ("grace_period_seconds", .ofNat s.gracePeriod), ("namespace", .string s.cluster),
    ("worker_image", .string s.workerImage),
    ("monitor_interval_seconds", .ofNat s.monitorInterval)]

/-- Reads settings; what is absent stands as in `base`. -/
def readerOver (base : Settings) : Json.Reader Settings :=
  Json.RecordReader.read "struct AggregationConfig" <|
    mk <$> .optional "bind_address" .text base.bindAddress
      <*> .optional "bind_port" (.natural 16) base.bindPort
      <*> .optional "advertise_address" .text base.advertiseAddress
      <*> .optional "timeout_seconds" (.natural 64) base.timeout
      <*> .optional "grace_period_seconds" (.natural 64) base.gracePeriod
      <*> .optional "namespace" .text base.cluster
      <*> .optional "worker_image" .text base.workerImage
      <*> .optional "monitor_interval_seconds" (.natural 64) base.monitorInterval

/-- Reads settings; what is absent has its default. -/
def reader : Json.Reader Settings := readerOver default

end Settings

end ClusterSurvey

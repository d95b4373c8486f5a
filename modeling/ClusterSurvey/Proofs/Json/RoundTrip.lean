import ClusterSurvey.Proofs.Json.Record
import ClusterSurvey.Result.Status
import ClusterSurvey.Settings.Basic

/-!
# Values and their texts

What a run knows of its plugins, of their results and of itself can be written down and read again.  A field
that is left out because it is empty has this as its default, so nothing is lost: every value is read back
from its text, whatever characters its strings are made of, and a text that has been read is written in one
way from then on.
-/

namespace ClusterSurvey

open Json Json.Reader Json.RecordReader

/-! ### Results and their status -/

theorem ResultKey.recovers (k : ResultKey) : ResultKey.reader.Recovers k.toJson k := by
  have node := recovers_optional (recovers_text k.node) "node_name" ""
  have resultType := recovers_required (recovers_text k.resultType) "result_type"
  exact ((node.map mk).seq resultType).read _

theorem Status.recovers (s : Status) : Status.reader.Recovers s.toJson s := by
  cases s <;> exact recovers_bare rfl rfl

theorem ResultStatus.recovers (e : ResultStatus) : ResultStatus.reader.Recovers e.toJson e := by
  have resultType := recovers_required (recovers_text e.resultType) "plugin"
  have node := recovers_optional (recovers_text e.node) "node" ""
  have status := recovers_required e.status.recovers "status"
  exact (((resultType.map mk).seq node).seq status).read _

theorem RunStatus.recovers (r : RunStatus) : RunStatus.reader.Recovers r.toJson r := by
  have status := recovers_required r.status.recovers "status"
  have entries := recovers_required (recovers_list r.entries fun e _ => e.recovers) "plugins"
  exact ((status.map mk).seq entries).read _

/-! ### Plugins -/

theorem Driver.recovers (d : Driver) : Driver.reader.Recovers d.toJson d := by
  cases d <;> exact recovers_bare rfl rfl

theorem EnvSource.recovers (s : EnvSource) : EnvSource.reader.Recovers s.toJson s := by
  cases s with
  | field path =>
    have hpath := recovers_required (recovers_text path) "fieldPath"
    exact recovers_variant rfl ((hpath.map field).read _)
  | secretKey name key =>
    have hname := recovers_required (recovers_text name) "name"
    have hkey := recovers_required (recovers_text key) "key"
    exact recovers_variant rfl (((hname.map secretKey).seq hkey).read _)

theorem EnvVar.recovers (v : EnvVar) : EnvVar.reader.Recovers v.toJson v := by
  have shown (s : EnvSource) : EnvSource.reader.Recovers s.toJson s ∧ s.toJson ≠ .null :=
    ⟨s.recovers, by cases s <;> nofun⟩
  have name := recovers_required (recovers_text v.name) "name"
  have value := recovers_text? v.value "value"
  have source := recovers_member? v.source (fun s _ => shown s) "valueFrom"
  exact (((name.map mk).seq value).seq source).read _

theorem VolumeMount.recovers (m : VolumeMount) : VolumeMount.reader.Recovers m.toJson m := by
  have name := recovers_required (recovers_text m.name) "name"
  have mountPath := recovers_required (recovers_text m.mountPath) "mountPath"
  have readOnly := recovers_optional (recovers_bool m.readOnly) "readOnly" false
  exact (((name.map mk).seq mountPath).seq readOnly).read _

/-- A text that is left out is empty. -/
private theorem eq_empty_of_hidden {s : String} (h : (!s.isEmpty) = false) : s = "" := by
  rw [Bool.not_eq_false'] at h
  exact String.isEmpty_iff.mp h

/-- So is a list. -/
private theorem eq_nil_of_hidden {α : Type} {as : List α} (h : (!as.isEmpty) = false) : as = [] := by
  rw [Bool.not_eq_false'] at h
  exact List.isEmpty_iff.mp h

theorem Container.recovers (c : Container) : Container.reader.Recovers c.toJson c := by
  have vars := recovers_list c.env fun v _ => v.recovers
  have mounts := recovers_list c.volumeMounts fun m _ => m.recovers
  have name := recovers_required (recovers_text c.name) "name"
  have image := recovers_memberIf (recovers_text c.image) eq_empty_of_hidden "image"
  have pullPolicy := recovers_text? c.imagePullPolicy "imagePullPolicy"
  have command := recovers_memberIf (recovers_texts c.command) eq_nil_of_hidden "command"
  have args := recovers_memberIf (recovers_texts c.args) eq_nil_of_hidden "args"
  have env := recovers_memberIf vars eq_nil_of_hidden "env"
  have volumeMounts := recovers_memberIf mounts eq_nil_of_hidden "volumeMounts"
  exact (((((((name.map mk).seq image).seq pullPolicy).seq command).seq args).seq env).seq
    volumeMounts).read _

theorem PluginDefinition.recovers (p : PluginDefinition) :
    PluginDefinition.reader.Recovers p.toJson p := by
  have name := recovers_required (recovers_text p.name) "name"
  have resultType := recovers_required (recovers_text p.resultType) "result_type"
  have driver := recovers_required p.driver.recovers "driver"
  have container := recovers_required p.container.recovers "spec"
  exact ((((name.map mk).seq resultType).seq driver).seq container).read _

/-! ### Settings -/

/-- Whether the numbers of settings have the size of their fields: a port is one of sixteen bits, and times
are of sixty-four. -/
structure Settings.Fits (s : Settings) : Prop where
  bindPort : s.bindPort < 2 ^ 16
  timeout : s.timeout < 2 ^ 64
  gracePeriod : s.gracePeriod < 2 ^ 64
  monitorInterval : s.monitorInterval < 2 ^ 64

theorem Settings.recovers {s : Settings} (h : s.Fits) : Settings.reader.Recovers s.toJson s := by
  have bindAddress := recovers_optional (recovers_text s.bindAddress) "bind_address" default.bindAddress
  have bindPort := recovers_optional (recovers_natural (by decide) h.bindPort) "bind_port"
    default.bindPort
  have advertiseAddress := recovers_optional (recovers_text s.advertiseAddress) "advertise_address"
    default.advertiseAddress
  have timeout := recovers_optional (recovers_natural (by decide) h.timeout) "timeout_seconds"
    default.timeout
  have gracePeriod := recovers_optional (recovers_natural (by decide) h.gracePeriod)
    "grace_period_seconds" default.gracePeriod
  have cluster := recovers_optional (recovers_text s.cluster) "namespace" default.cluster
  have workerImage := recovers_optional (recovers_text s.workerImage) "worker_image" default.workerImage
  have monitorInterval := recovers_optional (recovers_natural (by decide) h.monitorInterval)
    "monitor_interval_seconds" default.monitorInterval
  exact ((((((((bindAddress.map mk).seq bindPort).seq advertiseAddress).seq timeout).seq
    gracePeriod).seq cluster).seq workerImage).seq monitorInterval).read _

/-- Settings that have been read have numbers of the right size. -/
theorem Settings.fits_of_reader {s : Settings} {d : Draft} (h : Settings.reader d = .ok s) : s.Fits := by
  obtain ⟨found, h₈⟩ := exists_build_of_read h
  obtain ⟨_, _, h₇, monitorInterval, rfl⟩ := exists_build_of_seq h₈
  obtain ⟨_, _, h₆, -, rfl⟩ := exists_build_of_seq h₇
  obtain ⟨_, _, h₅, -, rfl⟩ := exists_build_of_seq h₆
  obtain ⟨_, _, h₄, gracePeriod, rfl⟩ := exists_build_of_seq h₅
  obtain ⟨_, _, h₃, timeout, rfl⟩ := exists_build_of_seq h₄
  obtain ⟨_, _, h₂, -, rfl⟩ := exists_build_of_seq h₃
  obtain ⟨_, _, h₁, bindPort, rfl⟩ := exists_build_of_seq h₂
  obtain ⟨_, _, h₀, -, rfl⟩ := exists_build_of_seq h₁
  cases h₀
  exact ⟨lt_of_build_optional bindPort (by decide), lt_of_build_optional timeout (by decide),
    lt_of_build_optional gracePeriod (by decide), lt_of_build_optional monitorInterval (by decide)⟩

/-! ### Round trips -/

/-- How a type of values is written and read without loss.  The values of the type that there can be are
those that fit. -/
structure RoundTrips {α : Type} (toJson : α → Json) (reader : Json.Reader α) (Fits : α → Prop) : Prop where
  /-- Every value is read back from what is written for it. -/
  reads : ∀ a, Fits a → reader.ofText (toJson a).render = .ok a
  /-- What is read of a text fits. -/
  fits : ∀ text a, reader.ofText text = .ok a → Fits a
  /-- If a value is read of a text, then what is written for it is read as the same value. -/
  again : ∀ text a, reader.ofText text = .ok a → reader.ofText (toJson a).render = .ok a
  /-- And what is written for that value is the same text once more. -/
  fixed : ∀ text written, (reader.ofText text).map (fun a => (toJson a).render) = .ok written →
    (reader.ofText written).map (fun a => (toJson a).render) = .ok written

/-- A reader that recovers the values that it reads loses nothing. -/
private theorem roundTrips_of_recovers {α : Type} {toJson : α → Json} {reader : Json.Reader α}
    {Fits : α → Prop} (recovers : ∀ a, Fits a → reader.Recovers (toJson a) a)
    (fits : ∀ d a, reader d = .ok a → Fits a) : RoundTrips toJson reader Fits := by
  have reads : ∀ a, Fits a → reader.ofText (toJson a).render = .ok a :=
    fun a ha => (recovers a ha).ofText_render
  have read : ∀ text a, reader.ofText text = .ok a → Fits a := fun text a h => by
    obtain ⟨d, hd⟩ := exists_draft_of_ofText h
    exact fits d a hd
  refine ⟨reads, read, fun text a h => reads a (read text a h), fun text written h => ?_⟩
  cases ha : reader.ofText text with
  | error e =>
    rw [ha] at h
    cases h
  | ok a =>
    rw [ha] at h
    obtain rfl : (toJson a).render = written := Except.ok.inj h
    rw [reads a (read text a ha)]
    rfl

/-- Keys, plugin definitions and their parts, statuses and settings are written and read without loss. -/
theorem roundTrips_values :
    RoundTrips ResultKey.toJson ResultKey.reader (fun _ => True) ∧
    RoundTrips PluginDefinition.toJson PluginDefinition.reader (fun _ => True) ∧
    RoundTrips Container.toJson Container.reader (fun _ => True) ∧
    RoundTrips EnvVar.toJson EnvVar.reader (fun _ => True) ∧
    RoundTrips EnvSource.toJson EnvSource.reader (fun _ => True) ∧
    RoundTrips VolumeMount.toJson VolumeMount.reader (fun _ => True) ∧
    RoundTrips ResultStatus.toJson ResultStatus.reader (fun _ => True) ∧
    RoundTrips RunStatus.toJson RunStatus.reader (fun _ => True) ∧
    RoundTrips Settings.toJson Settings.reader Settings.Fits := by
  refine ⟨?_, ?_, ?_, ?_, ?_, ?_, ?_, ?_, ?_⟩
  · exact roundTrips_of_recovers (fun k _ => k.recovers) fun _ _ _ => trivial
  · exact roundTrips_of_recovers (fun p _ => p.recovers) fun _ _ _ => trivial
  · exact roundTrips_of_recovers (fun c _ => c.recovers) fun _ _ _ => trivial
  · exact roundTrips_of_recovers (fun v _ => v.recovers) fun _ _ _ => trivial
  · exact roundTrips_of_recovers (fun s _ => s.recovers) fun _ _ _ => trivial
  · exact roundTrips_of_recovers (fun m _ => m.recovers) fun _ _ _ => trivial
  · exact roundTrips_of_recovers (fun e _ => e.recovers) fun _ _ _ => trivial
  · exact roundTrips_of_recovers (fun r _ => r.recovers) fun _ _ _ => trivial
  · exact roundTrips_of_recovers (fun _ h => Settings.recovers h) fun _ _ => Settings.fits_of_reader

example : (EnvVar.ofValue "A\tB" "\"größe\" \\ \u001f").toJson.render =
    "\x7b\"name\":\"A\\tB\",\"value\":\"\\\"größe\\\" \\\\ \\u001f\"\x7d" := by
  decide +kernel

end ClusterSurvey

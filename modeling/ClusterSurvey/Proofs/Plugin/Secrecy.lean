import ClusterSurvey.Plugin.Lifecycle
import Mathlib.Data.List.Forall2

/-!
# Where key material goes

The certificate and the private key of a credential are values in the secret of an instance, and nothing
else that the instance asks of the cluster, answers or shows depends on them.
-/

namespace ClusterSurvey

/-! ### What is left without key material -/

/-- A secret without the values of its entries. -/
def Secret.masked (s : Secret) : Secret := { s with data := s.data.map fun d => (d.1, "") }

/-- A call without the values in the secret that it creates. -/
def ClusterCall.masked : ClusterCall → ClusterCall
  | createSecret secret => createSecret secret.masked
  | createWorkload manifest => createWorkload manifest
  | deleteUnits space selector => deleteUnits space selector
  | deleteSecret space name => deleteSecret space name

/-- A credential without its certificate and its key. -/
def Credential.masked (c : Credential) : Credential := { c with certificate := "", key := "" }

/-- Whether the cluster answers in one run as in another one, the values in secrets apart. -/
def Replies.Alike (replies replies' : Replies) : Prop :=
  ∀ call call', call.masked = call'.masked → replies call = replies' call'

/-- Calls of which the first creates one secret here and another one there, and which are the same
otherwise.  None of the others creates a secret. -/
inductive AlikeBut (s s' : Secret) : List ClusterCall → List ClusterCall → Prop where
  | none : AlikeBut s s' [] []
  | first (rest : List ClusterCall) (others : ∀ call ∈ rest, ∀ t, call ≠ .createSecret t) :
    AlikeBut s s' (.createSecret s :: rest) (.createSecret s' :: rest)

/-- Without the values in the secrets they are the same. -/
theorem AlikeBut.masked {s s' : Secret} {calls calls' : List ClusterCall} (h : AlikeBut s s' calls calls')
    (same : s.masked = s'.masked) : calls.map ClusterCall.masked = calls'.map ClusterCall.masked := by
  cases h with
  | none => rfl
  | first rest others => rw [List.map_cons, List.map_cons, ClusterCall.masked, ClusterCall.masked, same]

/-- Credentials are alike if they were issued for the same plugin under the same root. -/
theorem Credential.masked_eq_iff {a b : Credential} :
    a.masked = b.masked ↔ a.name = b.name ∧ a.root = b.root := by
  simp [masked]

/-- Logs show no value of a secret. -/
theorem Secret.debugText_masked (s : Secret) : s.masked.debugText = s.debugText := by
  have names : s.masked.data.map (fun d => Text.quoted d.1) = s.data.map fun d => Text.quoted d.1 := by
    rw [masked, List.map_map]
    rfl
  unfold debugText
  rw [names]
  simp only [masked]

namespace Instance

variable {i : Instance} {a b : Credential} {advertise : String} {replies replies' : Replies}

/-- The secrets of an instance differ in their values only. -/
theorem masked_secret (i : Instance) (a b : Credential) : (i.secret a).masked = (i.secret b).masked := rfl

/-- They do differ if the certificates or the keys do. -/
theorem secret_eq_iff : i.secret a = i.secret b ↔ a.certificate = b.certificate ∧ a.key = b.key := by
  simp [secret]

/-- Of a credential a workload has nothing but the root. -/
theorem render_congr (root : a.root = b.root) : i.render advertise a = i.render advertise b := by
  unfold render workload worker
  rw [root]

/-- Two launches are answered alike, and they make the same calls but for the secrets. -/
theorem launch_alike (root : a.root = b.root) (answers : replies.Alike replies') :
    AlikeBut (i.secret a) (i.secret b) (i.launch replies advertise a).1 (i.launch replies' advertise b).1 ∧
      (i.launch replies advertise a).2 = (i.launch replies' advertise b).2 := by
  unfold launch
  rw [render_congr root]
  cases i.render advertise b with
  | error e => exact ⟨.none, rfl⟩
  | ok manifest =>
    have hsecret : replies (.createSecret (i.secret a)) = replies' (.createSecret (i.secret b)) :=
      answers _ _ rfl
    have hworkload : replies (.createWorkload manifest) = replies' (.createWorkload manifest) :=
      answers _ _ rfl
    dsimp only
    unfold dispatch
    dsimp only
    rw [hsecret, hworkload]
    cases replies' (.createSecret (i.secret b)) with
    | some e => exact ⟨.first [] (by simp), rfl⟩
    | none =>
      cases replies' (.createWorkload manifest) with
      | some e => exact ⟨.first [.createWorkload manifest] (by simp), rfl⟩
      | none => exact ⟨.first [.createWorkload manifest] (by simp), rfl⟩

/-- The calls of two launches are the same without the values in their secrets. -/
theorem masked_launch (root : a.root = b.root) (answers : replies.Alike replies') :
    (i.launch replies advertise a).1.map ClusterCall.masked =
      (i.launch replies' advertise b).1.map ClusterCall.masked :=
  (launch_alike root answers).1.masked (masked_secret i a b)

/-- What is to be seen without the values in secrets. -/
def Outcome.masked (o : Outcome) : Outcome := { o with calls := o.calls.map ClusterCall.masked }

/-- The same order, given while the cluster answers alike. -/
inductive Order.Alike : Order → Order → Prop where
  | launch (advertise : String) {replies replies' : Replies} (answers : replies.Alike replies') :
    Alike (.launch replies advertise) (.launch replies' advertise)
  | cleanUp : Alike .cleanUp .cleanUp

/-- An instance carries out its orders alike whatever the certificate and the key of its credential are. -/
theorem carryOut_alike (root : a.root = b.root) {orders orders' : List Order}
    (alike : List.Forall₂ Order.Alike orders orders') (cleaned : Bool) :
    (i.carryOut a cleaned orders).map Outcome.masked =
      (i.carryOut b cleaned orders').map Outcome.masked := by
  induction alike generalizing cleaned with
  | nil => rfl
  | cons order _ ih =>
    cases order with
    | launch advertise answers =>
      have hanswer : (i.launch _ advertise a).2 = (i.launch _ advertise b).2 := (launch_alike root answers).2
      simp only [carryOut, List.map_cons, Outcome.masked, masked_launch root answers, hanswer, ih]
    | cleanUp => simp only [carryOut, List.map_cons, ih]

/-- Nothing but the values in the secret of an instance tells two credentials apart. -/
structure Indistinct (i : Instance) (a b : Credential) : Prop where
  /-- The workload is the same, or cannot be rendered for the same reason. -/
  manifest : ∀ advertise, i.render advertise a = i.render advertise b
  /-- A launch makes the same calls but for the secret, and has the same outcome if the cluster answers
  alike. -/
  launch : ∀ advertise replies replies', replies.Alike replies' →
    AlikeBut (i.secret a) (i.secret b) (i.launch replies advertise a).1 (i.launch replies' advertise b).1 ∧
      (i.launch replies advertise a).2 = (i.launch replies' advertise b).2
  /-- The secrets are the same without the values of their entries. -/
  secret : (i.secret a).masked = (i.secret b).masked
  /-- With those values they are the same only if certificates and keys are. -/
  holds : i.secret a = i.secret b ↔ a.certificate = b.certificate ∧ a.key = b.key
  /-- Whatever the instance is asked to do, and however often, it does and answers and shows the same without
  those values. -/
  orders : ∀ cleaned orders orders', List.Forall₂ Order.Alike orders orders' →
    (i.carryOut a cleaned orders).map Outcome.masked = (i.carryOut b cleaned orders').map Outcome.masked
  /-- Logs show the same of the credentials. -/
  credentialText : a.debugText = b.debugText
  /-- Logs show the same of the secrets. -/
  secretText : (i.secret a).debugText = (i.secret b).debugText

/-- Credentials for the same plugin under the same root are told apart by nothing else, whatever their
certificates and keys are. -/
theorem indistinct_of_name_of_root (i : Instance) (name : a.name = b.name) (root : a.root = b.root) :
    i.Indistinct a b := by
  refine ⟨fun _ => render_congr root, fun _ _ _ => launch_alike root, masked_secret i a b, secret_eq_iff,
    fun cleaned _ _ alike => carryOut_alike root alike cleaned, ?_, ?_⟩
  · unfold Credential.debugText
    rw [name]
  · rw [← Secret.debugText_masked, masked_secret i a b, Secret.debugText_masked]

/-- A plugin that reads logs on every node. -/
def logReader : Instance := ⟨⟨"logs", "systemd", .daemonSet, default⟩, "7", ⟨"sonde", "worker", 10000⟩⟩

/-- A credential for it, with a key of its own. -/
def logReaderCredential (key : String) : Credential := ⟨"logs", "certificate of " ++ key, key, "root"⟩

/-- A cluster that takes no workloads. -/
def noWorkloads : Replies
  | .createWorkload _ => some (.api "full")
  | _ => none

/-- The secrets that it is asked for are different, and nothing else is, when it refuses the workload. -/
theorem indistinct_renewed :
    (logReaderCredential "k").name = (logReaderCredential "l").name ∧
      (logReaderCredential "k").root = (logReaderCredential "l").root ∧
      (logReader.launch noWorkloads "10.0.0.1:443" (logReaderCredential "k")).2 =
        .error (.cluster "logs" (.api "full")) ∧
      logReader.secret (logReaderCredential "k") ≠ logReader.secret (logReaderCredential "l") ∧
      logReader.Indistinct (logReaderCredential "k") (logReaderCredential "l") :=
  ⟨rfl, rfl, rfl, by simp [secret, logReaderCredential], indistinct_of_name_of_root logReader rfl rfl⟩

end Instance

end ClusterSurvey

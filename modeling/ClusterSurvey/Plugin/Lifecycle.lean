import ClusterSurvey.Plugin.Instance

/-!
# What a plugin asks of the cluster

An instance comes into being by its secret and then its workload, and is cleaned up by deleting its
workload and then its secret.  It is cleaned up once: what comes later finds it cleaned already.

Specification: section 4.2, `Run` and `Cleanup`.
-/

namespace ClusterSurvey

/-- A change that the cluster is asked for. -/
inductive ClusterCall where
  | createSecret (secret : Secret)
  | createWorkload (manifest : Manifest)
  | deleteUnits (space selector : String)
  | deleteSecret (space name : String)
  deriving DecidableEq, Repr

/-- How the cluster answers calls: with an error or not. -/
abbrev Replies := ClusterCall → Option ClusterError

namespace Instance

/-- The calls that bring the instance into being, and their outcome.  The first refusal is the
last call. -/
def dispatch (i : Instance) (replies : Replies) (credential : Credential) (manifest : Manifest) :
    List ClusterCall × Except DispatchError Unit :=
  let secret := ClusterCall.createSecret (i.secret credential)
  let workload := ClusterCall.createWorkload manifest
  match replies secret with
  | some e => ([secret], .error (.cluster i.name e))
  | none =>
    match replies workload with
    | some e => ([secret, workload], .error (.cluster i.name e))
    | none => ([secret, workload], .ok ())

/-- The calls that make an instance out of a definition, and their outcome: `Run` of section 4.2 of the
specification.  One that cannot be made a workload causes none. -/
def launch (i : Instance) (replies : Replies) (advertise : String) (credential : Credential) :
    List ClusterCall × Except DispatchError Unit :=
  match i.render advertise credential with
  | .error e => ([], .error e)
  | .ok manifest => i.dispatch replies credential manifest

/-- The calls that clean an instance up: `Cleanup` of section 4.2 of the specification.  The secret is
deleted whether or not the units were. -/
def cleanup (i : Instance) (cleaned : Bool) : List ClusterCall :=
  if cleaned then []
  else [.deleteUnits i.settings.cluster i.selector, .deleteSecret i.settings.cluster i.secretName]

/-- What an instance is asked to do. -/
inductive Order where
  /-- To come into being, for workers that reach the run at an address. -/
  | launch (replies : Replies) (advertise : String)
  /-- To be cleaned up. -/
  | cleanUp

/-- What is to be seen of an instance that has carried out an order. -/
structure Outcome where
  /-- The calls that it made. -/
  calls : List ClusterCall
  /-- What it answered. -/
  answer : Except DispatchError Unit
  /-- How logs show it afterwards. -/
  debugText : String

/-- What is to be seen of an instance that carries out orders one after the other, with a credential issued
for it. -/
def carryOut (i : Instance) (credential : Credential) : Bool → List Order → List Outcome
  | _, [] => []
  | cleaned, .launch replies advertise :: orders =>
    let (calls, answer) := i.launch replies advertise credential
    ⟨calls, answer, i.debugText cleaned⟩ :: i.carryOut credential cleaned orders
  | cleaned, .cleanUp :: orders =>
    ⟨i.cleanup cleaned, .ok (), i.debugText true⟩ :: i.carryOut credential true orders

end Instance

end ClusterSurvey

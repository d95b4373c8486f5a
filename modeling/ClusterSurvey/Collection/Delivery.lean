import ClusterSurvey.Collection.Ledger
import ClusterSurvey.Storage.Tree
import ClusterSurvey.Text.Quoted

/-!
# Deliveries

A delivery writes its body into a scratch file beside the place where the result will lie, moves the
file there once the body is complete, and is then recorded.  Until the move nothing that can be seen
under the result's name has changed.

Specification: section 4.3, `HandleDelivery`; section 6 for the layout of the files.
-/

namespace ClusterSurvey

/-- What went wrong while a result was filed. -/
inductive StorageCause where
  /-- The storage refused an operation. -/
  | fault (f : StorageFault)
  /-- The scratch file for results of a type could not be made in a directory; its name would have
  had this mark. -/
  | noScratch (f : StorageFault) (directory resultType mark : String)
  /-- The body broke off. -/
  | body (text : String)
  deriving DecidableEq, Repr

/-- Why a result was not collected. -/
inductive CollectError where
  /-- The run does not expect the key. -/
  | unexpected (key : ResultKey)
  /-- The key cannot stand in a path. -/
  | invalidKey (reason : String)
  /-- The result could not be filed. -/
  | persistence (path : String) (cause : StorageCause)
  /-- Somebody waits for the run already. -/
  | alreadyWaited
  deriving DecidableEq, Repr

/-- The name of the scratch file of a result. -/
def scratchName (resultType mark : String) : String := "." ++ resultType ++ "." ++ mark ++ ".partial"

/-- Where the results of a key are filed. -/
def ResultKey.place (k : ResultKey) : Place := [k.scope, k.resultType]

/-- Where the results of a key are written before they are filed. -/
def ResultKey.scratchPlace (k : ResultKey) (mark : String) : Place :=
  [k.scope, scratchName k.resultType mark]

/-- The directory in which the results of a key are filed, as a path. -/
def ResultKey.directoryPath (k : ResultKey) (root : String) : String := joinPath root k.scope

/-- Where the results of a key are filed, as a path. -/
def ResultKey.path (k : ResultKey) (root : String) : String :=
  joinPath (k.directoryPath root) k.resultType

/-- The wording of what went wrong while a result was filed. -/
def StorageCause.message : StorageCause → String
  | fault f => f.message
  | noScratch f directory resultType mark =>
    f.message ++ " at path " ++ Text.quoted (joinPath directory (scratchName resultType mark))
  | body text => text

/-- The wording of a collecting error. -/
def CollectError.message : CollectError → String
  | unexpected key => "result " ++ key.display ++ " was not expected in this run"
  | invalidKey reason => "invalid result key: " ++ reason
  | persistence path cause => "failed to persist result to " ++ path ++ ": " ++ cause.message
  | alreadyWaited => "aggregator wait was already started"

/-- How far a delivery has come. -/
inductive Stage where
  /-- Its body is being written. -/
  | writing
  /-- Its file lies in place, but it is not recorded. -/
  | committed
  /-- It has been answered. -/
  | ended (outcome : Except CollectError Unit)
  /-- It was given up by its sender. -/
  | cancelled

/-- One delivery of a result. -/
structure Delivery where
  /-- What the result answers for. -/
  key : ResultKey
  /-- Whether the result is a failure. -/
  isFailure : Bool
  /-- The body as far as it has come. -/
  body : ByteArray
  /-- The mark in the name of its scratch file. -/
  mark : String
  /-- How far it has come. -/
  stage : Stage

namespace Delivery

/-- Where the delivery writes its body. -/
def scratch (d : Delivery) : Place := d.key.scratchPlace d.mark

/-- Whether the body is still being written. -/
def isWriting (d : Delivery) : Bool :=
  match d.stage with
  | .writing => true
  | _ => false

/-- Whether the file lies in place but is not recorded. -/
def isCommitted (d : Delivery) : Bool :=
  match d.stage with
  | .committed => true
  | _ => false

/-- The answer to a delivery, once it has one. -/
def outcome? (d : Delivery) : Option (Except CollectError Unit) :=
  match d.stage with
  | .ended o => some o
  | _ => none

end Delivery

end ClusterSurvey

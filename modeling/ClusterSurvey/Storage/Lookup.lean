import ClusterSurvey.Storage.Tree
import ClusterSurvey.Text.Split

/-!
# Reading by path

A path from the root is a list of steps between slashes.  An empty step and `.` stay where they are,
`..` goes one up, and each other step enters the directory it names; whatever a step starts from has
to be a directory, so a slash behind a file is an error.
-/

namespace ClusterSurvey

/-- Why a file was not read. -/
inductive ReadFault where
  /-- The storage refused. -/
  | storage (f : StorageFault)
  /-- A path contains the character with the code zero, which no name has. -/
  | zeroInName
  /-- The octets of the file are not the octets of a text. -/
  | notText
  deriving DecidableEq, Repr

/-- The wording of a fault. -/
def ReadFault.message : ReadFault → String
  | storage f => f.message
  | zeroInName => "file name contained an unexpected NUL byte"
  | notText => "stream did not contain valid UTF-8"

/-- The least number of octets that no path has. -/
def pathLimit : Nat := 4096

namespace Tree

/-- One step from a place. -/
def step (t : Tree) (p : Place) (name : String) : Except StorageFault Place :=
  match t.get? p with
  | none => .error .notFound
  | some (.file _) => .error .notDirectory
  | some .directory =>
    if name = "" ∨ name = "." then .ok p
    else if name = ".." then .ok p.dropLast
    else if !nameFits name then .error .nameTooLong
    else if (t.get? (p ++ [name])).isNone then .error .notFound
    else .ok (p ++ [name])

/-- Where steps lead. -/
def follow (t : Tree) (p : Place) : List String → Except StorageFault Place
  | [] => .ok p
  | name :: rest => do
    let q ← t.step p name
    t.follow q rest

/-- The steps of a path. -/
def steps (path : String) : List String :=
  (Text.splitAt '/' path.toList).map String.ofList

/-- The place that a path from the root leads to. -/
def resolve (t : Tree) (path : String) : Except ReadFault Place :=
  if path.toList.contains '\x00' then .error .zeroInName
  else if pathLimit ≤ path.utf8ByteSize then .error (.storage .nameTooLong)
  else (t.follow [] (steps path)).mapError .storage

/-- The octets of the file at the end of a path. -/
def readFile (t : Tree) (path : String) : Except ReadFault ByteArray := do
  let p ← t.resolve path
  match t.get? p with
  | some (.file b) => .ok b
  | some .directory => .error (.storage .isDirectory)
  | none => .error (.storage .notFound)

/-- The text in the file at the end of a path. -/
def readText (t : Tree) (path : String) : Except ReadFault String := do
  let b ← t.readFile path
  match Text.ofOctets? b with
  | some s => .ok s
  | none => .error .notText

/-- The content of the first file of a name in a directory or in those above it.  The steps to the
directory are given in reverse. -/
def findUp (t : Tree) (name : String) : List String → Option ByteArray
  | [] => t.content? [name]
  | step :: above =>
    match t.content? ((step :: above).reverse ++ [name]) with
    | some b => some b
    | none => t.findUp name above

end Tree

/-- A tree seen from one of its directories, from which all other paths are taken. -/
structure WorkingTree where
  /-- The tree. -/
  tree : Tree
  /-- The path of the directory. -/
  directory : String

namespace WorkingTree

/-- The octets of the file at the end of a path.  The empty path leads nowhere. -/
def readFile (w : WorkingTree) (path : String) : Except ReadFault ByteArray :=
  if path = "" then .error (.storage .notFound) else w.tree.readFile (joinPath w.directory path)

/-- The text in the file at the end of a path. -/
def readText (w : WorkingTree) (path : String) : Except ReadFault String :=
  if path = "" then .error (.storage .notFound) else w.tree.readText (joinPath w.directory path)

/-- Whether a path leads to anything. -/
def leads (w : WorkingTree) (path : String) : Bool :=
  path ≠ "" && (w.tree.resolve (joinPath w.directory path)).isOk

/-- The content of the first file of a name in the directory or in those above it. -/
def findUp (w : WorkingTree) (name : String) : Option ByteArray :=
  match w.tree.resolve w.directory with
  | .ok place => w.tree.findUp name place.reverse
  | .error _ => none

end WorkingTree

end ClusterSurvey

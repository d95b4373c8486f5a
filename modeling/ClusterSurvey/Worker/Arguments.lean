import ClusterSurvey.Environment.Variables
import ClusterSurvey.Text.Natural

/-!
# Command lines

A command line has options, each with a value behind it or behind an equals sign, and at most one
command with options of its own.  An option that is not there takes its value from a variable of the
environment, or a usual one.  Faults are reported in the order in which they are met: the value of an
option is looked at when the next option begins, and what is wrong behind a command goes before what
is not settled in front of it.
-/

namespace ClusterSurvey.Worker

/-- What the value of an option has to be. -/
inductive ValueKind where
  | text
  /-- A path, which is not empty. -/
  | path
  /-- A number of so many bits. -/
  | natural (bits : Nat)
  deriving DecidableEq, Repr

/-- An option that has a value. -/
structure OptionSpec where
  /-- Its name without hyphens in front. -/
  name : String
  /-- What its value has to be. -/
  kind : ValueKind
  /-- The variable that it falls back to. -/
  envVar : Option String
  /-- The value that it falls back to. -/
  usual : Option String
  deriving DecidableEq, Repr

/-- An option as messages show it. -/
def OptionSpec.label (o : OptionSpec) : String :=
  let shown (c : Char) : Char := if c = '-' then '_' else c.toUpper
  "--" ++ o.name ++ " <" ++ String.ofList (o.name.toList.map shown) ++ ">"

/-- Why a command line is not accepted. -/
inductive UsageError where
  /-- Somebody asked for help. -/
  | helpWanted
  /-- There is nothing on the command line, nor in the environment. -/
  | nothingGiven
  | noCommand (known : List String)
  | unknownCommand (name : String)
  | missing (labels : List String)
  | unexpected (argument : String)
  | noValue (label : String)
  | repeated (label : String)
  | badValue (label value : String) (fault : Text.NaturalFault)
  deriving DecidableEq, Repr

/-- The options that were given so far. -/
structure Given where
  /-- Those whose values have been looked at. -/
  values : List (String × String)
  /-- The one whose value has not been looked at, or has not even come. -/
  pending : Option (OptionSpec × Option String)

namespace Given

/-- No options. -/
def empty : Given := ⟨[], none⟩

/-- Looks at a value. -/
def checkValue (o : OptionSpec) (value : String) : Except UsageError Unit :=
  match o.kind with
  | .text => .ok ()
  | .path => if value = "" then .error (.noValue o.label) else .ok ()
  | .natural bits =>
    match Text.readNatural bits value with
    | .ok _ => .ok ()
    | .error fault => .error (.badValue o.label value fault)

/-- Takes in the value of an option that was not given before. -/
def take (g : Given) (o : OptionSpec) (value : String) : Except UsageError Given :=
  if (g.values.lookup o.name).isSome then .error (.repeated o.label)
  else do
    checkValue o value
    return ⟨g.values ++ [(o.name, value)], none⟩

/-- Takes in the value of the option that is pending. -/
def settle (g : Given) : Except UsageError Given :=
  match g.pending with
  | none => .ok g
  | some (o, none) => .error (.noValue o.label)
  | some (o, some value) => g.take o value

/-- Whether the next argument is a value. -/
def awaitsValue (g : Given) : Bool :=
  match g.pending with
  | some (_, none) => true
  | _ => false

/-- Takes in an argument that stands where a value may stand. -/
def supply (g : Given) (value : String) : Given :=
  match g.pending with
  | some (o, none) => { g with pending := some (o, some value) }
  | _ => g

/-- Takes in an argument that begins with two hyphens; `body` is what follows them. -/
def begin (g : Given) (specs : List OptionSpec) (body : List Char) : Except UsageError Given :=
  let name := String.ofList (body.takeWhile (· ≠ '='))
  if name = "help" then g.settle.bind fun _ => .error .helpWanted
  else
    match specs.find? (·.name = name) with
    | none => .error (.unexpected ("--" ++ name))
    | some o => do
      let g ← g.settle
      match body.dropWhile (· ≠ '=') with
      | [] => return { g with pending := some (o, none) }
      | _ :: value => g.take o (String.ofList value)

/-- Takes in an argument that begins with one hyphen and a further character. -/
def beginShort (g : Given) (c : Char) : Except UsageError Given :=
  if c = 'h' then g.settle.bind fun _ => .error .helpWanted
  else .error (.unexpected ("-" ++ String.singleton c))

/-- Completes the options from the environment.  The answer also has what is usual. -/
def complete (g : Given) (specs : List OptionSpec) (e : Environment) : Except UsageError Given :=
  specs.foldlM (fun g o =>
    match g.values.lookup o.name, o.envVar.bind e.get? with
    | none, some value => g.take o value
    | _, _ => .ok g) g

/-- The value of an option, given or usual. -/
def value? (g : Given) (o : OptionSpec) : Option String :=
  (g.values.lookup o.name).or o.usual

/-- Refuses options of which some have no value. -/
def checkMissing (g : Given) (specs : List OptionSpec) : Except UsageError Unit :=
  match specs.filter fun o => (g.value? o).isNone with
  | [] => .ok ()
  | missing => .error (.missing (missing.map OptionSpec.label))

end Given

/-- The command that asks for help on another one. -/
def helpCommand : String := "help"

/-- Why an argument that is no option is not accepted. -/
def strayArgument (commands : List String) (trailing : Bool) (argument : String) : UsageError :=
  if commands = [] ∨ (trailing ∧ argument ∈ commands) then .unexpected argument
  else .unknownCommand argument

/-- Goes through arguments up to a command.  The answer is what was given, and the command with the
arguments behind it; `trailing` tells that no more options come. -/
def scanArguments (specs : List OptionSpec) (commands : List String) :
    Bool → Given → List String → Except UsageError (Given × Option (String × List String))
  | _, g, [] => .ok (g, none)
  | trailing, g, argument :: rest =>
    if trailing then .error (strayArgument commands trailing argument)
    else if !g.awaitsValue && commands.contains argument then .ok (g, some (argument, rest))
    else
      match argument.toList with
      | ['-', '-'] => scanArguments specs commands true g rest
      | '-' :: '-' :: body => do
        let g ← g.begin specs body
        scanArguments specs commands false g rest
      | '-' :: c :: _ => do
        let g ← g.beginShort c
        scanArguments specs commands false g rest
      | _ =>
        if g.awaitsValue then scanArguments specs commands false (g.supply argument) rest
        else .error (strayArgument commands trailing argument)

/-- Settles and completes options, and refuses those that lack a value. -/
def Given.close (g : Given) (specs : List OptionSpec) (e : Environment) : Except UsageError Given := do
  let g ← g.settle
  let g ← g.complete specs e
  g.checkMissing specs
  return g

/-- What a command line says: the options in front of the command, the command, and its options. -/
structure CommandLine where
  /-- The options in front of the command. -/
  options : Given
  /-- The command. -/
  command : String
  /-- The options behind it. -/
  commandOptions : Given

/-- Asks for help on the commands that follow. -/
def askHelp (commands : List String) : List String → UsageError
  | [] => .helpWanted
  | name :: _ => if name ∈ commands then .helpWanted else .unknownCommand name

/-- Reads a command line with the given options and commands. -/
def CommandLine.read (specs : List OptionSpec) (commands : List (String × List OptionSpec))
    (e : Environment) (arguments : List String) : Except UsageError CommandLine := do
  let names := commands.map Prod.fst ++ [helpCommand]
  let (g, found) ← scanArguments specs names false .empty arguments
  match found with
  | none =>
    let g ← g.settle
    let g ← g.complete specs e
    if g.values = [] then throw .nothingGiven
    throw (.noCommand names)
  | some (name, rest) =>
    match commands.lookup name with
    | none => throw (askHelp names rest)
    | some own =>
      let (inner, _) ← scanArguments own [] false .empty rest
      let inner ← inner.close own e
      let g ← g.close specs e
      return ⟨g, name, inner⟩

end ClusterSurvey.Worker

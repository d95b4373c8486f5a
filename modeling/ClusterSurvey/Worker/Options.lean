import ClusterSurvey.Plugin.Manifest
import ClusterSurvey.Text.Blank
import ClusterSurvey.Worker.Arguments

/-!
# Options of a worker

A worker is told where results go, what it reports under, where its plugin leaves the result, and who
it is.  Most of this comes from the environment of its workload.

Specification: section 10.4, the arguments of the worker.
-/

namespace ClusterSurvey.Worker

/-- The name of the program. -/
def programName : String := "sonde-worker"

/-- What the program does. -/
def programPurpose : String := "Submit plugin results to the sonde aggregation server"

/-- An option that has to be given, perhaps by a variable. -/
def needed (name envVar : String) : OptionSpec := ⟨name, .text, some envVar, none⟩

/-- The address below which results are taken. -/
def masterUrlOption : OptionSpec := needed "master-url" "MASTER_URL"

/-- The type of the result. -/
def resultTypeOption : OptionSpec := needed "result-type" "RESULT_TYPE"

/-- The directory that the worker shares with its plugin. -/
def resultsDirectoryOption : OptionSpec := ⟨"results-dir", .path, some "RESULTS_DIR", some resultsDir⟩

/-- The run's root certificate. -/
def rootOption : OptionSpec := needed "ca-cert" "CA_CERT"

/-- The worker's certificate. -/
def certificateOption : OptionSpec := needed "client-cert" "CLIENT_CERT"

/-- The key of the worker's certificate. -/
def keyOption : OptionSpec := needed "client-key" "CLIENT_KEY"

/-- Seconds between two looks at the marker. -/
def pauseOption : OptionSpec := ⟨"poll-interval-seconds", .natural 64, none, some "1"⟩

/-- The node that the worker runs on. -/
def nodeOption : OptionSpec := needed "node-name" "NODE_NAME"

/-- The options of every worker. -/
def commonOptions : List OptionSpec :=
  [masterUrlOption, resultTypeOption, resultsDirectoryOption, rootOption, certificateOption, keyOption,
    pauseOption]

/-- The command of a worker for the whole cluster. -/
def clusterCommand : String := "global"

/-- The command of a worker for one node. -/
def nodeCommand : String := "single-node"

/-- The commands and their options. -/
def commands : List (String × List OptionSpec) :=
  [(clusterCommand, []), (nodeCommand, [nodeOption])]

/-- The wording of a fault of the command line. -/
def UsageError.message : UsageError → String
  | helpWanted => ""
  | nothingGiven => programPurpose
  | noCommand known =>
    "error: '" ++ programName ++ "' requires a subcommand but one was not provided\n  [subcommands: " ++
      ", ".intercalate known ++ "]"
  | unknownCommand name => "error: unrecognized subcommand '" ++ name ++ "'"
  | missing labels =>
    "error: the following required arguments were not provided:" ++
      String.join (labels.map fun l => "\n  " ++ l)
  | unexpected argument => "error: unexpected argument '" ++ argument ++ "' found"
  | noValue label => "error: a value is required for '" ++ label ++ "' but none was supplied"
  | repeated label => "error: the argument '" ++ label ++ "' cannot be used multiple times"
  | badValue label value fault =>
    "error: invalid value '" ++ value ++ "' for '" ++ label ++ "': " ++ fault.message

/-- What a worker is told. -/
structure Options where
  /-- The address below which results are taken. -/
  masterUrl : String
  /-- The type of the result. -/
  resultType : String
  /-- The directory that the worker shares with its plugin. -/
  resultsDirectory : String
  /-- The run's root certificate. -/
  root : String
  /-- The worker's certificate. -/
  certificate : String
  /-- The key of the worker's certificate. -/
  key : String
  /-- Seconds between two looks at the marker. -/
  pause : Nat
  /-- The node that the worker runs on, unless it reports for the whole cluster. -/
  node : Option String
  deriving DecidableEq, Repr

namespace Options

/-- What a command line tells a worker. -/
def ofCommandLine (l : CommandLine) : Options :=
  let value (o : OptionSpec) : String := (l.options.value? o).getD ""
  { masterUrl := value masterUrlOption
    resultType := value resultTypeOption
    resultsDirectory := value resultsDirectoryOption
    root := value rootOption
    certificate := value certificateOption
    key := value keyOption
    pause := max 1 ((Text.readNatural 64 (value pauseOption)).toOption.getD 1)
    node := if l.command = nodeCommand then l.commandOptions.value? nodeOption else none }

/-- Reads what a worker is told. -/
def read (e : Environment) (arguments : List String) : Except UsageError Options :=
  (CommandLine.read commonOptions commands e arguments).map ofCommandLine

/-- The address of the worker's result: below the given one, slashes at whose end do not count. -/
def resultUrl (o : Options) : String :=
  let above := String.ofList (Text.dropTrailing (· = '/') o.masterUrl.toList)
  match o.node with
  | none => above ++ "/" ++ o.resultType
  | some node => above ++ "/" ++ node ++ "/" ++ o.resultType

end Options

end ClusterSurvey.Worker

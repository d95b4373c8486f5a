import ClusterSurvey.Worker.Start

/-!
# The worker as a program

The program waits for its plugin's result and writes the request with it to standard output; what the
peer sends back comes from standard input.  Whoever starts the program connects both to a protected
connection.  Certificates and keys are taken for what their frames call them.
-/

namespace ClusterSurvey.Worker

/-- Takes every certificate and every key for one that belongs to the other. -/
def trusting : Encoding where
  certificate? _ := some (Authority.root ⟨⟨0⟩⟩)
  key? _ := some ⟨0⟩

/-- The variables that a worker knows. -/
def readEnvironment : IO Environment := do
  let names := (nodeOption :: commonOptions).filterMap OptionSpec.envVar
  let found ← names.mapM fun name => do
    let value ← IO.getEnv name
    return value.map fun v => (name, v)
  return found.filterMap id

/-- Reads the file at a path. -/
def readPayload (path : String) : IO (Except String Parcel) := do
  try
    let payload ← IO.FS.readBinFile path
    return .ok ⟨payload, mediaType (Text.octets path)⟩
  catch e => return .error (toString e)

/-- Looks at the marker until it decides, and reads the result. -/
partial def awaitResult (o : Options) : IO (Except String Parcel) := do
  let view : Except String MarkerView ←
    try
      let content ← IO.FS.readBinFile (markerPath o.resultsDirectory)
      pure (.ok (match Text.ofOctets? content with
        | some s => MarkerView.text s
        | none => .unreadable .notText))
    catch
      | .noFileOrDirectory .. => pure (.ok .missing)
      | e => pure (.error (toString e))
  match view with
  | .error reason => return .error reason
  | .ok view =>
    match view.verdict o.resultsDirectory with
    | some (.error fault) => return .error fault.message
    | some (.ok path) => readPayload path
    | none =>
      IO.sleep (UInt32.ofNat (min (o.pause * 1000) 4000000000))
      awaitResult o

/-- Writes the request for a result, if there is one to be sent, and reads what comes back. -/
def exchange (o : Options) (made : Except String Parcel) : IO ByteArray := do
  match made with
  | .error _ => return .empty
  | .ok parcel =>
    match requestUrl o.resultUrl parcel.mediaType with
    | .error _ => return .empty
    | .ok url =>
      let output ← IO.getStdout
      output.write (parcel.errand url).octets
      output.flush
      (← IO.getStdin).readBinToEnd

/-- Reports an ending and answers with its status. -/
def finish (ending : Ending) : IO UInt32 := do
  let text := ending.report
  if text ≠ "" then IO.eprintln text
  return UInt32.ofNat ending.status

/-- Runs a worker. -/
def work (arguments : List String) : IO UInt32 := do
  match Options.read (← readEnvironment) arguments with
  | .error e => finish (.refused e)
  | .ok o =>
    match clientFailure? trusting o with
    | some failure => finish failure
    | none =>
      let made ← awaitResult o
      let sent ← exchange o made
      finish (run trusting o (fun s => (made, s)) (fun _ s => (sent, s)) (fun _ s => s) ()).1

end ClusterSurvey.Worker

/-- The program. -/
def main (arguments : List String) : IO UInt32 := ClusterSurvey.Worker.work arguments

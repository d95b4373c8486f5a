import ClusterSurvey.Environment.Assignment
import ClusterSurvey.Environment.Line

/-!
# Environment files

An environment file defines variables line by line.  A variable that has a text keeps it, be it from
the environment or from an earlier line, and a value may use what was defined before it.
-/

namespace ClusterSurvey.EnvFile

/-- Takes in lines in order, up to one that is not the octets of a text. -/
def define (env : Environment) : List Line → Except LineFault Environment
  | [] => .ok env
  | .unreadable :: _ => .ok env
  | .unfinished text :: _ => .error ⟨String.ofList text, Text.octetCount text⟩
  | .complete text :: rest => do
    match ← assignment? env text with
    | some (name, value) => define (env.define name value) rest
    | none => define env rest

/-- Takes in a whole file. -/
def load (env : Environment) (file : ByteArray) : Except LineFault Environment :=
  define env (lines file)

end ClusterSurvey.EnvFile

import ClusterSurvey.Environment.Variables
import ClusterSurvey.Text.Alphanumeric
import ClusterSurvey.Text.Blank
import ClusterSurvey.Text.Utf8

/-!
# Assignments in an environment file

An assignment is a name, an equals sign and a value, and may stand behind the word `export`.  A value
is made of bare text, of text in single quotes, where each character stands for itself, and of text
in double quotes; outside of single quotes a backslash is followed by one of a few characters, and a
dollar sign by the name of a variable, with or without braces.
-/

namespace ClusterSurvey.EnvFile

/-- Why a line could not be read: the text in question, and where in it. -/
structure LineFault where
  /-- The text. -/
  text : String
  /-- The place of the fault. -/
  index : Nat
  deriving DecidableEq, Repr

/-- The wording of a fault. -/
def LineFault.message (f : LineFault) : String :=
  "Error parsing line: '" ++ f.text ++ "', error at line index: " ++ toString f.index

/-- Where a reader stands in a value; each `quoted` tells whether that is in double quotes. -/
inductive Mode where
  | text (quoted : Bool)
  | strong
  | escape (quoted : Bool)
  /-- Behind a dollar sign, with the name so far. -/
  | variable (quoted : Bool) (name : List Char)
  /-- Behind a dollar sign and a brace, with the name so far. -/
  | braced (quoted : Bool) (name : List Char)
  /-- Behind a blank that ends the value. -/
  | ended
  deriving DecidableEq, Repr

/-- What stands for a character behind a backslash. -/
def unescape? (c : Char) : Option Char :=
  if c = '\\' ∨ c = '\'' ∨ c = '"' ∨ c = '$' ∨ c = ' ' then some c
  else if c = 'n' then some '\n'
  else none

/-- What one character adds to a value and where its reader stands then. -/
def Mode.step (valueOf : String → List Char) (c : Char) : Mode → Option (List Char × Mode)
  | .ended => if c = ' ' ∨ c = '\t' then some ([], .ended) else none
  | .escape quoted => (unescape? c).map fun e => ([e], .text quoted)
  | .strong => if c = '\'' then some ([], .text false) else some ([c], .strong)
  | .variable quoted name =>
    if Text.alphanumeric c then some ([], .variable quoted (name ++ [c]))
    else if c = '{' ∧ name = [] then some ([], .braced quoted [])
    else
      let value := valueOf (String.ofList name)
      if c = '$' then some (value, .variable quoted []) else some (value ++ [c], .text quoted)
  | .braced quoted name =>
    if c = '}' then some (valueOf (String.ofList name), .text quoted)
    else some ([], .braced quoted (name ++ [c]))
  | .text quoted =>
    if c = '$' then some ([], .variable quoted [])
    else if c = '\\' then some ([], .escape quoted)
    else if c = '"' then some ([], .text !quoted)
    else if quoted then some ([c], .text true)
    else if c = '\'' then some ([], .strong)
    else if c = ' ' ∨ c = '\t' then some ([], .ended)
    else some ([c], .text false)

/-- What the end of the text adds to a value; quotes and braces have to be closed. -/
def Mode.finish (valueOf : String → List Char) : Mode → Option (List Char)
  | .variable false name => some (valueOf (String.ofList name))
  | .text false | .escape false | .ended => some []
  | .strong | .text true | .escape true | .variable true _ | .braced .. => none

/-- Reads a value.  A fault is the number of characters in front of it, or none at the end. -/
def readValue (valueOf : String → List Char) :
    Mode → Nat → List Char → Except (Option Nat) (List Char)
  | m, _, [] => (m.finish valueOf).elim (.error none) .ok
  | m, n, c :: cs =>
    if m = .ended ∧ c = '#' then .ok []
    else
      match m.step valueOf c with
      | none => .error (some n)
      | some (out, m) => (readValue valueOf m (n + 1) cs).map (out ++ ·)

/-- The value that a text denotes; faults name this text. -/
def value (env : Environment) (cs : List Char) : Except LineFault String :=
  let valueOf (name : String) : List Char := ((env.get? name).getD "").toList
  match readValue valueOf (.text false) 0 cs with
  | .ok v => .ok (String.ofList v)
  | .error (some n) => .error ⟨String.ofList cs, n⟩
  | .error none => .error ⟨String.ofList cs, Text.octetCount cs - 1⟩

/-- The text behind leading blanks. -/
def skipBlanks (cs : List Char) : List Char := cs.dropWhile Text.isBlank

/-- Whether a name may begin with a character. -/
def beginsName (c : Char) : Bool := c.isAlpha || c = '_'

/-- Whether a name may go on with a character. -/
def continuesName (c : Char) : Bool := c.isAlphanum || c = '_' || c = '.'

/-- The name at the head of a text and what follows it. -/
def name? (cs : List Char) : Option (List Char × List Char) :=
  if cs.head?.any beginsName then some (cs.takeWhile continuesName, cs.dropWhile continuesName)
  else none

/-- What follows an equals sign. -/
def behindEquals? : List Char → Option (List Char)
  | '=' :: cs => some cs
  | _ => none

/-- Reads the assignment in a line; a line of blanks has none, nor has a comment. -/
def assignment? (env : Environment) (line : List Char) :
    Except LineFault (Option (String × String)) := do
  let body := Text.dropTrailing Text.isBlank line
  let fault (rest : List Char) : LineFault :=
    ⟨String.ofList line, Text.octetCount body - Text.octetCount rest⟩
  let need {α : Type} (rest : List Char) (r : Option α) : Except LineFault α :=
    r.elim (.error (fault rest)) .ok
  let cs := skipBlanks body
  if cs = [] ∨ cs.head? = some '#' then return none
  let (name, cs) ← need cs (name? cs)
  let cs := skipBlanks cs
  let (name, cs) ←
    match behindEquals? cs with
    | some cs => pure (name, cs)
    | none =>
      if name = "export".toList then do
        let (name, cs) ← need cs (name? cs)
        let cs := skipBlanks cs
        let cs ← need cs (behindEquals? cs)
        pure (name, cs)
      else throw (fault cs)
  let cs := skipBlanks cs
  let name := String.ofList name
  if cs = [] ∨ cs.head? = some '#' then return some (name, "")
  let v ← value env cs
  return some (name, v)

end ClusterSurvey.EnvFile

import ClusterSurvey.Toml.Quoted
import ClusterSurvey.Toml.Table

/-!
# Texts of tables

A text is a sequence of lines: a header opens a table, and an assignment gives a value to a member of
the table that was opened last.  Comments run to the end of a line, and between the items of an array
or the members of an inline table lines may end anywhere.  Arrays and inline tables are nested at
most eighty deep.
-/

namespace ClusterSurvey.Toml

/-- A line of a text. -/
inductive Statement where
  | assign (path : Path) (name : String) (v : Value)
  | openTable (path : Path) (name : String)
  | openItem (path : Path) (name : String)

/-- Reads something at the head of a text; the answer has the text behind it. -/
abbrev Scan (α : Type) := List Char → Option (α × List Char)

/-- The text behind leading blanks. -/
def skipBlanks (cs : List Char) : List Char := cs.dropWhile fun c => c = ' ' || c = '\t'

/-- The text behind blanks, line breaks and comments; the flag tells whether the text starts inside a
comment. -/
def skipLines : Bool → List Char → Option (List Char)
  | _, [] => some []
  | comment, c :: cs =>
    if c = '\n' then skipLines false cs
    else if c = '\r' then if cs.head? = some '\n' then skipLines false cs else none
    else if comment then if isPlain c then skipLines true cs else none
    else if c = '#' then skipLines true cs
    else if c = ' ' ∨ c = '\t' then skipLines false cs
    else some (c :: cs)

/-- Whether nothing but a comment is left of the line at the head of a text. -/
def atLineEnd (cs : List Char) : Bool :=
  match skipBlanks cs with
  | [] => true
  | '\r' :: cs => cs.head? = some '\n'
  | c :: _ => c = '\n' || c = '#'

/-- Whether a character may stand in a name without quotes. -/
def isBare (c : Char) : Bool := c.isAlphanum || c = '_' || c = '-'

/-- A name with or without quotes. -/
def scanName : Scan String := fun cs =>
  match line? cs with
  | some r => r.map fun p => (String.ofList p.1, p.2)
  | none =>
    let bare := cs.takeWhile isBare
    if bare = [] then none else some (String.ofList bare, cs.drop bare.length)

/-- Names with dots between them: all but the last one, and the last one. -/
def scanKey : Nat → Scan (Path × String)
  | 0, _ => none
  | fuel + 1, cs => do
    let (name, rest) ← scanName (skipBlanks cs)
    match skipBlanks rest with
    | '.' :: rest =>
      let ((path, last), rest) ← scanKey fuel rest
      return ((name :: path, last), rest)
    | rest => return (([], name), rest)

/-- The names at the head of a text. -/
def key : Scan (Path × String) := fun cs => scanKey (cs.length + 1) cs

/-- Whether a character ends a token. -/
def endsToken (c : Char) : Bool :=
  c = ' ' || c = '\t' || c = '\r' || c = '\n' || c = '#' || c = ',' || c = ']' || c = '}'

/-- The token at the head of a text.  A time of day may follow a date behind one space. -/
def scanToken (cs : List Char) : List Char × List Char :=
  let token := cs.takeWhile (!endsToken ·)
  let rest := cs.drop token.length
  match rest with
  | ' ' :: more =>
    let time := more.takeWhile (!endsToken ·)
    if behindDate? token = some [] ∧ (behindTime? time).isSome then
      (token ++ ' ' :: time, more.drop time.length)
    else (token, rest)
  | _ => (token, rest)

/-- A value without parts. -/
def scanScalar : Scan Scalar := fun cs =>
  match string? cs with
  | some r => r.map fun p => (.text (String.ofList p.1), p.2)
  | none =>
    let (token, rest) := scanToken cs
    (Scalar.ofToken? token).map fun s => (s, rest)

/-- The items of an array behind its bracket or a comma, each read by `value`. -/
def scanItems (value : Scan Value) : Nat → Scan (List Value)
  | 0, _ => none
  | fuel + 1, cs => do
    match ← skipLines false cs with
    | ']' :: rest => return ([], rest)
    | cs =>
      let (v, rest) ← value cs
      match ← skipLines false rest with
      | ']' :: rest => return ([v], rest)
      | ',' :: rest =>
        let (vs, rest) ← scanItems value fuel rest
        return (v :: vs, rest)
      | _ => none

/-- An assignment, whose value is read by `value`. -/
def scanAssign (value : Scan Value) : Scan (Path × String × Value) := fun cs => do
  let ((path, name), rest) ← key cs
  match rest with
  | '=' :: rest =>
    let (v, rest) ← value (skipBlanks rest)
    return ((path, name, v), rest)
  | _ => none

/-- The members of an inline table behind its brace or a comma, each value read by `value`. -/
def scanMembers (value : Scan Value) : Nat → Members → Scan Members
  | 0, _, _ => none
  | fuel + 1, ms, cs => do
    match ← skipLines false cs with
    | '}' :: rest => return (ms, rest)
    | cs =>
      let ((path, name, v), rest) ← scanAssign value cs
      let ms ← ms.assign path name v
      match ← skipLines false rest with
      | '}' :: rest => return (ms, rest)
      | ',' :: rest => scanMembers value fuel ms rest
      | _ => none

/-- A value in which arrays and inline tables are nested at most so deep. -/
def scanValue : Nat → Scan Value
  | depth, '[' :: cs =>
    match depth with
    | 0 => none
    | depth + 1 =>
      (scanItems (scanValue depth) (cs.length + 1) cs).map fun p => (.array p.1, p.2)
  | depth, '\x7b' :: cs =>
    match depth with
    | 0 => none
    | depth + 1 =>
      (scanMembers (scanValue depth) (cs.length + 1) [] cs).map fun p => (.table .inline p.1, p.2)
  | _, cs => (scanScalar cs).map fun p => (.scalar p.1, p.2)

/-- How deep arrays and inline tables are nested at most. -/
def maxDepth : Nat := 80

/-- A line without what follows it. -/
def scanStatement : Scan Statement
  | '[' :: '[' :: cs => do
    let ((path, name), rest) ← key cs
    match rest with
    | ']' :: ']' :: rest => return (.openItem path name, rest)
    | _ => none
  | '[' :: cs => do
    let ((path, name), rest) ← key cs
    match rest with
    | ']' :: rest => return (.openTable path name, rest)
    | _ => none
  | cs => do
    let ((path, name, v), rest) ← scanAssign (scanValue maxDepth) cs
    return (.assign path name v, rest)

/-- The lines of a text. -/
def scanStatements : Nat → List Char → Option (List Statement)
  | 0, _ => none
  | fuel + 1, cs => do
    match ← skipLines false cs with
    | [] => return []
    | cs =>
      let (s, rest) ← scanStatement cs
      if atLineEnd rest then
        let more ← scanStatements fuel rest
        return s :: more
      else none

/-- A text that is being taken in: the table so far, and the path to the table opened last. -/
structure Progress where
  /-- The table so far. -/
  members : Members
  /-- The path to the table opened last. -/
  current : Path

/-- Takes in one line. -/
def Progress.take (p : Progress) : Statement → Option Progress
  | .assign path name v => do
    let ms ← p.members.within false (fun _ ms => ms.assign path name v) p.current .header
    return { p with members := ms }
  | .openTable path name => do
    let ms ← p.members.openTable path name
    return ⟨ms, path ++ [name]⟩
  | .openItem path name => do
    let ms ← p.members.openItem path name
    return ⟨ms, path ++ [name]⟩

/-- A text without a byte order mark at its head. -/
def dropMark : List Char → List Char
  | '\ufeff' :: cs => cs
  | cs => cs

/-- The table that a text spells out, if it is well formed. -/
def Members.ofText? (s : String) : Option Members := do
  let cs := dropMark s.toList
  let statements ← scanStatements (cs.length + 1) cs
  let p ← statements.foldlM Progress.take ⟨[], []⟩
  return p.members

end ClusterSurvey.Toml

import ClusterSurvey.Text.Blank
import ClusterSurvey.Text.Utf8

/-!
# Lines of an environment file

A line of an environment file ends at a line break outside of quotes, and a comment behind a blank
outside of quotes does not belong to it.  A backslash takes the next character its meaning.  The file
is read one physical line at a time, so octets without a meaning spoil only what comes after them.
-/

namespace ClusterSurvey.EnvFile

/-- A line as far as the file holds one. -/
inductive Line where
  | complete (text : List Char)
  /-- The file ends inside of quotes or behind a blank. -/
  | unfinished (text : List Char)
  /-- The line is not the octets of a text. -/
  | unreadable
  deriving DecidableEq, Repr

/-- Where a reader stands in a line. -/
inductive Stand where
  | word
  | blank
  | escape
  | strong
  | strongEscape
  | weak
  | weakEscape
  deriving DecidableEq, Repr

/-- Where a reader stands behind a character that opens something or belongs to a word. -/
def Stand.open (c : Char) : Stand :=
  if c = '\\' then .escape
  else if c = '"' then .weak
  else if c = '\'' then .strong
  else .word

/-- Where a reader stands behind one more character. -/
def Stand.next (c : Char) : Stand → Stand
  | .word => if Text.isBlank c ∧ c ≠ '\n' ∧ c ≠ '\r' then .blank else .open c
  | .blank => .open c
  | .escape => .word
  | .strong => if c = '\\' then .strongEscape else if c = '\'' then .word else .strong
  | .strongEscape => .strong
  | .weak => if c = '\\' then .weakEscape else if c = '"' then .word else .weak
  | .weakEscape => .weak

/-- Where a physical line ends: where its reader stands then, or the octets in front of a comment. -/
def scan : Stand → Nat → List Char → Stand ⊕ Nat
  | s, _, [] => .inl s
  | s, n, c :: cs => if s = .blank ∧ c = '#' then .inr n else scan (s.next c) (n + c.utf8Size) cs

/-- As many leading characters as fit into so many octets. -/
def takeOctets : Nat → List Char → List Char
  | _, [] => []
  | n, c :: cs => if c.utf8Size ≤ n then c :: takeOctets (n - c.utf8Size) cs else []

/-- A text without the line break at its end. -/
def dropBreak (cs : List Char) : List Char :=
  match cs.reverse with
  | '\n' :: '\r' :: r => r.reverse
  | '\n' :: r => r.reverse
  | _ => cs

/-- The lines that physical lines make up, given where the reader stands and what it has of a line so
far.  What is in front of a comment is measured in octets of its own physical line and cut from the
start of the whole. -/
def join : Stand → List Char → List (Option (List Char)) → List Line
  | s, sofar, [] => if s = .word then [] else [.unfinished sofar]
  | _, _, none :: _ => [.unreadable]
  | s, sofar, some line :: rest =>
    let whole := sofar ++ line
    if (whole.dropWhile Text.isBlank).head? = some '#' then join .word [] rest
    else
      match scan s 0 line with
      | .inr n => .complete (takeOctets n whole) :: join .word [] rest
      | .inl .word => .complete (dropBreak whole) :: join .word [] rest
      | .inl s => join s whole rest

/-- The physical lines of a file, each with its line break. -/
def physical : List UInt8 → List (List UInt8)
  | [] => []
  | b :: bs =>
    if b = 0x0a then [b] :: physical bs
    else
      match physical bs with
      | [] => [[b]]
      | l :: ls => (b :: l) :: ls

/-- The octets of a byte order mark. -/
def markOctets : List UInt8 := [0xef, 0xbb, 0xbf]

/-- The lines of a file. -/
def lines (file : ByteArray) : List Line :=
  let octets := file.data.toList
  let octets := if markOctets.isPrefixOf octets then octets.drop 3 else octets
  join .word [] ((physical octets).map fun l => (Text.ofOctets? ⟨l.toArray⟩).map String.toList)

end ClusterSurvey.EnvFile

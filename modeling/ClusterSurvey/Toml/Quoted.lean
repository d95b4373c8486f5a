import ClusterSurvey.Text.Digits

/-!
# Quoted strings

A basic string stands between double quotes and knows escapes, a literal string stands between single
quotes and holds just what is written there.  Behind three quotes either kind runs over several
lines; a line break right behind them does not count, and up to two further quotes may stand before
the three that end it.
-/

namespace ClusterSurvey.Toml

/-- Whether a character may stand for itself in a comment or a string. -/
def isPlain (c : Char) : Bool := c = '\t' || (0x20 ≤ c.toNat && c.toNat ≠ 0x7f)

/-- The character of a letter behind a backslash. -/
def escaped? (c : Char) : Option Char :=
  if c = 'b' then some '\u0008'
  else if c = 't' then some '\t'
  else if c = 'n' then some '\n'
  else if c = 'f' then some '\u000c'
  else if c = 'r' then some '\r'
  else if c = 'e' then some '\u001b'
  else if c = '"' then some '"'
  else if c = '\\' then some '\\'
  else none

/-- How many digits of a code point follow a letter behind a backslash. -/
def codeDigits? (c : Char) : Option Nat :=
  if c = 'x' then some 2
  else if c = 'u' then some 4
  else if c = 'U' then some 8
  else none

/-- The character with a code point, unless that is no character's. -/
def charOf? (n : Nat) : Option Char := if n.isValidChar then some (Char.ofNat n) else none

/-- Where a reader stands inside a basic string. -/
inductive Within where
  /-- Between characters. -/
  | text
  /-- Behind a backslash. -/
  | escape
  /-- Inside a code point: digits still to come, and the number so far. -/
  | code (left value : Nat)
  /-- In the white space that a backslash hides; the flag tells whether a line break was in it. -/
  | gap (crossed : Bool)
  deriving DecidableEq

/-- Puts a character in front of what was read. -/
def consChar (c : Char) (r : Option (List Char × List Char)) : Option (List Char × List Char) :=
  r.map fun p => (c :: p.1, p.2)

/-- The end of a string of several lines, behind the first of its closing quotes: the further quotes
that belong to the string, and the text behind it. -/
def closing? (quote : Char) (cs : List Char) : Option (List Char × List Char) :=
  if [quote, quote].isPrefixOf cs then
    let rest := cs.drop 2
    let extra := (rest.take 2).takeWhile (· = quote)
    some (extra, rest.drop extra.length)
  else none

/-- Reads a basic string behind its opening quotes; `many` tells whether it has several lines.  The
answer is the string and the text behind it. -/
def scanBasic (many : Bool) : Within → List Char → Option (List Char × List Char)
  | _, [] => none
  | .escape, c :: cs =>
    match escaped? c, codeDigits? c with
    | some e, _ => consChar e (scanBasic many .text cs)
    | none, some n => scanBasic many (.code n 0) cs
    | none, none =>
      if many && (c = ' ' || c = '\t' || c = '\r' && cs.head? = some '\n') then
        scanBasic many (.gap false) cs
      else if many && c = '\n' then scanBasic many (.gap true) cs
      else none
  | .code left value, c :: cs =>
    match Text.digitIn? 16 c with
    | none => none
    | some d =>
      if left ≤ 1 then
        match charOf? (value * 16 + d) with
        | some e => consChar e (scanBasic many .text cs)
        | none => none
      else scanBasic many (.code (left - 1) (value * 16 + d)) cs
  | w, c :: cs =>
    if w ≠ .text ∧ (c = ' ' ∨ c = '\t' ∨ (c = '\r' ∧ cs.head? = some '\n')) then scanBasic many w cs
    else if w ≠ .text ∧ c = '\n' then scanBasic many (.gap true) cs
    else if w = .gap false then none
    else if c = '"' then
      if many then
        match closing? '"' cs with
        | some ends => some ends
        | none => consChar c (scanBasic many .text cs)
      else some ([], cs)
    else if c = '\\' then scanBasic many .escape cs
    else if isPlain c || many && (c = '\n' || c = '\r' && cs.head? = some '\n') then
      consChar c (scanBasic many .text cs)
    else none

/-- Reads a literal string behind its opening quotes. -/
def scanLiteral (many : Bool) : List Char → Option (List Char × List Char)
  | [] => none
  | c :: cs =>
    if c = '\'' then
      if many then
        match closing? '\'' cs with
        | some ends => some ends
        | none => consChar c (scanLiteral many cs)
      else some ([], cs)
    else if isPlain c || many && (c = '\n' || c = '\r' && cs.head? = some '\n') then
      consChar c (scanLiteral many cs)
    else none

/-- The text behind a line break at its head, if there is one. -/
def skipBreak : List Char → List Char
  | '\n' :: cs => cs
  | '\r' :: '\n' :: cs => cs
  | cs => cs

/-- Reads a string of one line if a text begins with one. -/
def line? : List Char → Option (Option (List Char × List Char))
  | '"' :: cs => some (scanBasic false .text cs)
  | '\'' :: cs => some (scanLiteral false cs)
  | _ => none

/-- Reads a string of either kind if a text begins with one. -/
def string? : List Char → Option (Option (List Char × List Char))
  | '"' :: '"' :: '"' :: cs => some (scanBasic true .text (skipBreak cs))
  | '\'' :: '\'' :: '\'' :: cs => some (scanLiteral true (skipBreak cs))
  | cs => line? cs

end ClusterSurvey.Toml

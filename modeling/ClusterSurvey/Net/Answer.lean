import ClusterSurvey.Net.StatusCode
import ClusterSurvey.Text.Blank
import ClusterSurvey.Text.Digits
import ClusterSurvey.Text.Split

/-!
# Answers on the wire

An answer is a status line, header fields and a body.  What a peer has sent by the time it hangs up is
read as one answer; preliminary answers in front of it are passed over.  The body ends where the
header says, at the last chunk, or where the peer hangs up, and it may break off before that.  Octets
stand here for the characters with their codes.
-/

namespace ClusterSurvey.Net

/-- The characters with the codes of the octets. -/
def octetChars (b : ByteArray) : List Char := b.data.toList.map fun o => Char.ofNat o.toNat

/-- The octets with the codes of the characters. -/
def charOctets (cs : List Char) : ByteArray := ⟨(cs.map fun c => UInt8.ofNat c.toNat).toArray⟩

/-- The head of an answer. -/
structure AnswerHead where
  /-- Whether the answer is of the older version, which knows no chunks. -/
  older : Bool
  /-- The status code. -/
  status : Nat
  /-- The header fields, their names in lower case. -/
  fields : List (String × List Char)
  deriving DecidableEq

/-- The values of the header fields of a name. -/
def AnswerHead.values (h : AnswerHead) (name : String) : List (List Char) :=
  (h.fields.filter (·.1 = name)).map (·.2)

/-- An answer. -/
structure Answer where
  /-- Its head. -/
  head : AnswerHead
  /-- Its body, unless that breaks off. -/
  body : Option ByteArray

/-- The text behind a line break at its head. -/
def behindBreak? : List Char → Option (List Char)
  | '\r' :: '\n' :: cs => some cs
  | '\n' :: cs => some cs
  | _ => none

/-- The text behind the line breaks at its head. -/
def skipBreaks : List Char → List Char
  | '\r' :: '\n' :: cs => skipBreaks cs
  | '\n' :: cs => skipBreaks cs
  | cs => cs

/-- Whether a character may stand in a reason phrase or in the value of a field. -/
def isFieldChar (c : Char) : Bool := c = '\t' || (0x20 ≤ c.toNat && c.toNat ≠ 0x7f)

/-- Whether a character may stand in the name of a field. -/
def isNameChar (c : Char) : Bool := c.isAlphanum || "!#$%&'*+-.^_`|~".toList.contains c

/-- A run of characters that may stand in a value, and the text behind its line break. -/
def scanLine (cs : List Char) : Option (List Char × List Char) := do
  let line := cs.takeWhile isFieldChar
  let rest ← behindBreak? (cs.drop line.length)
  return (line, rest)

/-- Whether a character is a space or a tab. -/
def isGap (c : Char) : Bool := c = ' ' || c = '\t'

/-- The most fields that a head has. -/
def maxFields : Nat := 100

/-- Reads at most so many fields and the empty line behind them. -/
def scanFields : Nat → List Char → Option (List (String × List Char) × List Char)
  | left, cs =>
    match behindBreak? cs with
    | some rest => some ([], rest)
    | none =>
      match left with
      | 0 => none
      | left + 1 => do
        let name := cs.takeWhile isNameChar
        match name, cs.drop name.length with
        | _ :: _, ':' :: rest =>
          let (value, rest) ← scanLine (rest.dropWhile isGap)
          let (more, rest) ← scanFields left rest
          let value := Text.dropTrailing isGap value
          return ((String.ofList (name.map Char.toLower), value) :: more, rest)
        | _, _ => none

/-- Reads a status code of three digits. -/
def scanStatus : List Char → Option (Nat × List Char)
  | a :: b :: c :: cs => do
    let n ← Text.readDigits? 10 [a, b, c]
    if isStatusCode n then some (n, cs) else none
  | _ => none

/-- Reads what follows the status code: nothing, or a space and a phrase. -/
def scanPhrase (cs : List Char) : Option (List Char) :=
  match cs with
  | ' ' :: cs => (scanLine cs).map (·.2)
  | cs => behindBreak? cs

/-- Reads the version in front of a head. -/
def scanVersion : List Char → Option (Bool × List Char)
  | 'H' :: 'T' :: 'T' :: 'P' :: '/' :: '1' :: '.' :: v :: ' ' :: cs =>
    if v = '1' then some (false, cs) else if v = '0' then some (true, cs) else none
  | _ => none

/-- Reads a head. -/
def scanHead (cs : List Char) : Option (AnswerHead × List Char) := do
  let (older, cs) ← scanVersion (skipBreaks cs)
  let (status, cs) ← scanStatus cs
  let cs ← scanPhrase cs
  let (fields, cs) ← scanFields maxFields cs
  return (⟨older, status, fields⟩, cs)

/-- Where a reader stands in a body of chunks. -/
inductive ChunkState where
  /-- In the size of a chunk; the flag tells whether it has digits yet. -/
  | size (begun : Bool) (n : Nat)
  | sizeGap (n : Nat)
  | extension (n : Nat)
  | sizeEnd (n : Nat)
  /-- In a chunk with so many octets still to come. -/
  | data (left : Nat)
  | dataReturn
  | dataEnd
  | trailer
  | trailerEnd
  | lastReturn
  | lastEnd
  deriving DecidableEq

/-- Where a reader stands behind the end of a size. -/
def ChunkState.behindSize (c : Char) (n : Nat) : Option ChunkState :=
  if c = ';' then some (.extension n)
  else if c = '\r' then some (.sizeEnd n)
  else if isGap c then some (.sizeGap n)
  else none

/-- The data of chunks, unless they break off or are malformed. -/
def unchunk : ChunkState → List Char → Option (List Char)
  | _, [] => none
  | .size begun n, c :: cs =>
    match Text.digitIn? 16 c with
    | some d => if n * 16 + d < Nat.pow 2 64 then unchunk (.size true (n * 16 + d)) cs else none
    | none => if begun then (ChunkState.behindSize c n).bind (unchunk · cs) else none
  | .sizeGap n, c :: cs => (ChunkState.behindSize c n).bind (unchunk · cs)
  | .extension n, c :: cs =>
    if c = '\r' then unchunk (.sizeEnd n) cs
    else if c = '\n' then none
    else unchunk (.extension n) cs
  | .sizeEnd n, c :: cs =>
    if c = '\n' then unchunk (if n = 0 then .lastReturn else .data n) cs else none
  | .data left, c :: cs =>
    (unchunk (if left ≤ 1 then .dataReturn else .data (left - 1)) cs).map (c :: ·)
  | .dataReturn, c :: cs => if c = '\r' then unchunk .dataEnd cs else none
  | .dataEnd, c :: cs => if c = '\n' then unchunk (.size false 0) cs else none
  | .trailer, c :: cs => unchunk (if c = '\r' then .trailerEnd else .trailer) cs
  | .trailerEnd, c :: cs => if c = '\n' then unchunk .lastReturn cs else none
  | .lastReturn, c :: cs => unchunk (if c = '\r' then .lastEnd else .trailer) cs
  | .lastEnd, c :: _ => if c = '\n' then some [] else none

/-- How the end of a body is told. -/
inductive Framing where
  | length (n : Nat)
  | chunks
  /-- The peer hangs up. -/
  | close
  deriving DecidableEq

/-- The one number of octets that all values of a header field name. -/
def agreedLength? (values : List (List Char)) : Option Nat := do
  let numbers ← (values.flatMap (Text.splitAt ',')).mapM fun part => do
    let n ← Text.readDigits? 10 (Text.stripBoth Text.isBlank part)
    if n < Nat.pow 2 64 - 2 then some n else none
  match numbers with
  | [] => none
  | n :: more => if more.all (· = n) then some n else none

/-- Whether the last of the encodings that a header field names is that of chunks. -/
def endsInChunks (values : List (List Char)) : Bool :=
  match values.getLast? with
  | none => false
  | some v =>
    (Text.splitAt ',' v).getLast?.any fun part =>
      (Text.stripBoth Text.isBlank part).map Char.toLower = "chunked".toList

/-- How the end of the body behind a head is told, unless the head contradicts itself. -/
def AnswerHead.framing? (h : AnswerHead) : Option Framing :=
  let encodings := h.values "transfer-encoding"
  let lengths := h.values "content-length"
  if h.status = 101 ∨ h.status = 204 ∨ h.status = 304 then some (.length 0)
  else if encodings ≠ [] then
    if h.older then none else if endsInChunks encodings then some .chunks else some .close
  else if lengths = [] then some .close
  else (agreedLength? lengths).map .length

/-- The body in what follows a head. -/
def Framing.body (f : Framing) (cs : List Char) : Option (List Char) :=
  match f with
  | length n => if n ≤ cs.length then some (cs.take n) else none
  | chunks => unchunk (.size false 0) cs
  | close => some cs

/-- Whether an answer only announces another one. -/
def isPreliminary (status : Nat) : Bool := status < 200 && status ≠ 101

/-- Reads an answer behind at most so many preliminary ones. -/
def scanAnswer : Nat → List Char → Option Answer
  | 0, _ => none
  | fuel + 1, cs => do
    let (head, rest) ← scanHead cs
    if isPreliminary head.status then scanAnswer fuel rest
    else
      let framing ← head.framing?
      return ⟨head, (framing.body rest).map charOctets⟩

/-- The answer in what a peer has sent, if there is one. -/
def Answer.ofOctets? (b : ByteArray) : Option Answer := scanAnswer (b.size + 1) (octetChars b)

end ClusterSurvey.Net

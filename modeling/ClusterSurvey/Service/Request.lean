/-!
# Requests

A request has a method, a target, headers and a body.  Each of the first three has a grammar of its
own, and a text outside of it makes no request.
-/

namespace ClusterSurvey.Service

/-- Why no request can be made of its parts. -/
inductive RequestError where
  | badMethod
  | emptyTarget
  | longTarget
  | badTargetChar
  | badTargetFormat
  | badAuthority
  | longScheme
  | badHeaderName
  | badHeaderValue
  deriving DecidableEq, Repr

/-- The wording of a request error. -/
def RequestError.message : RequestError → String
  | badMethod => "invalid HTTP method"
  | emptyTarget => "empty string"
  | longTarget => "uri too long"
  | badTargetChar => "invalid uri character"
  | badTargetFormat => "invalid format"
  | badAuthority => "invalid authority"
  | longScheme => "scheme too long"
  | badHeaderName => "invalid HTTP header name"
  | badHeaderValue => "failed to parse header value"

/-- Whether a character may stand in a method or in the name of a header. -/
def isTokenChar (c : Char) : Bool := c.isAlphanum || "!#$%&'*+-.^_`|~".toList.contains c

/-- Whether a text is a method or the name of a header. -/
def isToken (s : String) : Bool := s ≠ "" && s.toList.all isTokenChar

/-- Whether an octet may stand in the value of a header. -/
def isHeaderOctet (b : UInt8) : Bool := (0x20 ≤ b && b ≠ 0x7f) || b = 0x09

/-- Whether a character may stand in the path of a target. -/
def isPathChar (c : Char) : Bool :=
  let n := c.toNat
  n = 0x21 || n = 0x22 || (0x24 ≤ n && n ≤ 0x3b) || n = 0x3d || (0x40 ≤ n && n ≤ 0x5f) ||
    (0x61 ≤ n && n ≤ 0x7e) || 0x80 ≤ n

/-- Whether a character may stand in the query of a target. -/
def isQueryChar (c : Char) : Bool :=
  let n := c.toNat
  n = 0x21 || (0x24 ≤ n && n ≤ 0x3b) || n = 0x3d || (0x3f ≤ n && n ≤ 0x7e) || 0x80 ≤ n

/-- Reads the query of a target, up to a fragment. -/
def checkQuery : List Char → Except RequestError Unit
  | [] => .ok ()
  | c :: cs =>
    if c = '#' then .ok () else if isQueryChar c then checkQuery cs else .error .badTargetChar

/-- Reads the path of a target, up to a query or a fragment. -/
def readPath : List Char → Except RequestError (List Char)
  | [] => .ok []
  | c :: cs =>
    if c = '#' then .ok []
    else if c = '?' then (checkQuery cs).map fun _ => []
    else if isPathChar c then (readPath cs).map (c :: ·)
    else .error .badTargetChar

/-- Whether a character may stand in an authority or ends it. -/
def isAuthorityChar (c : Char) : Bool := c.isAlphanum || "!#$&'()*+,-./:;=?@[]_~".toList.contains c

/-- What has been seen of an authority. -/
structure AuthoritySeen where
  /-- Colons behind user and bracket. -/
  colons : Nat
  /-- Whether a bracket was opened. -/
  opened : Bool
  /-- Whether it was closed. -/
  closed : Bool
  /-- Whether there was a percent sign behind user and bracket. -/
  percent : Bool
  /-- Whether the last character ended the user. -/
  atSign : Bool

/-- Goes through an authority; the answer is what has been seen of it and what follows it. -/
def readAuthority : AuthoritySeen → List Char → Except RequestError (AuthoritySeen × List Char)
  | seen, [] => .ok (seen, [])
  | seen, c :: cs =>
    let next := { seen with atSign := false }
    if c = '/' ∨ c = '?' ∨ c = '#' then .ok (seen, c :: cs)
    else if c = ':' then
      if 8 ≤ seen.colons then .error .badTargetChar
      else readAuthority { next with colons := seen.colons + 1 } cs
    else if c = '[' then
      if seen.percent ∨ seen.opened then .error .badAuthority
      else readAuthority { next with opened := true } cs
    else if c = ']' then
      if !seen.opened ∨ seen.closed then .error .badAuthority
      else readAuthority { next with closed := true, colons := 0, percent := false } cs
    else if c = '@' then
      readAuthority { next with atSign := true, colons := 0, percent := false } cs
    else if c = '%' then readAuthority { next with percent := true } cs
    else if isAuthorityChar c then readAuthority next cs
    else .error .badTargetChar

/-- Splits an authority off the head of a text. -/
def splitAuthority (cs : List Char) : Except RequestError (List Char) := do
  let (seen, rest) ← readAuthority ⟨0, false, false, false, false⟩ cs
  if seen.opened ≠ seen.closed ∨ 1 < seen.colons ∨ seen.atSign ∨ seen.percent then
    throw .badAuthority
  return rest

/-- Whether a character may stand in a scheme. -/
def isSchemeChar (c : Char) : Bool := c.isAlphanum || c = '+' || c = '-' || c = '.'

/-- Splits a scheme and the two slashes behind it off the head of a text, if they are there. -/
def splitScheme? (cs : List Char) : Except RequestError (Option (List Char)) :=
  match cs.span isSchemeChar with
  | (scheme, ':' :: '/' :: '/' :: rest) =>
    if 64 < scheme.length then .error .longScheme else .ok (some rest)
  | _ => .ok none

/-- The path of a target.  A target is a path, an address with scheme and authority, or an authority
alone, which has no path. -/
def targetPath (target : String) : Except RequestError String :=
  match target.toList with
  | [] => .error .emptyTarget
  | ['*'] => .ok "*"
  | '/' :: cs =>
    if 65534 < target.utf8ByteSize then .error .longTarget
    else (readPath ('/' :: cs)).map String.ofList
  | cs => do
    if 65534 < target.utf8ByteSize then throw .longTarget
    match ← splitScheme? cs with
    | none =>
      let rest ← splitAuthority cs
      if rest = [] then return "" else throw .badTargetFormat
    | some body =>
      let rest ← splitAuthority body
      if rest.length = body.length then throw .badTargetFormat
      let path ← readPath rest
      return if path = [] then "/" else String.ofList path

/-- A request as the service sees it. -/
structure Request where
  /-- The method. -/
  method : String
  /-- The path of the target. -/
  path : String
  /-- The body in pieces. -/
  pieces : List ByteArray
  /-- What the body breaks off with, if it does. -/
  broken : Option String

/-- Makes a request of its parts, for the first of which that is wrong there is an error. -/
def Request.ofParts (method target : String) (headers : List (String × ByteArray))
    (pieces : List ByteArray) (broken : Option String) : Except RequestError Request := do
  if !isToken method then throw .badMethod
  let path ← targetPath target
  for (name, value) in headers do
    if !isToken name then throw .badHeaderName
    if !value.data.toList.all isHeaderOctet then throw .badHeaderValue
  return ⟨method, path, pieces, broken⟩

end ClusterSurvey.Service

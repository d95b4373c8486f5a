import ClusterSurvey.Net.UrlHost
import ClusterSurvey.Text.Blank

/-!
# Addresses of resources

The address of a resource is a scheme, a host with a port, a path, a query and a fragment.  Reading
one is lenient: blanks at its ends and line breaks in it are dropped, a backslash stands for a slash
where the scheme is one of the usual ones, steps up and steps that stay are taken out of the path, and
characters that must not stand in an address are written with percent signs.  A user's name in front
of the host is passed over.
-/

namespace ClusterSurvey.Net

/-- The address of a resource. -/
structure Url where
  /-- Its scheme in lower case. -/
  scheme : String
  /-- The host, unless the address names none. -/
  host : Option HostName
  /-- The port, unless it is the usual one of the scheme. -/
  port : Option Nat
  /-- The path. -/
  path : String
  /-- What stands behind a question mark. -/
  query : Option String
  /-- What stands behind a number sign. -/
  fragment : Option String
  deriving DecidableEq, Repr

/-- The schemes whose addresses are made the same way, and their usual ports. -/
def specialSchemes : List (String × Option Nat) :=
  [("http", some 80), ("https", some 443), ("ws", some 80), ("wss", some 443), ("ftp", some 21),
    ("file", none)]

/-- Whether a scheme is one of the usual ones. -/
def isSpecial (scheme : String) : Bool := (specialSchemes.lookup scheme).isSome

/-- Whether a character may stand in a scheme behind its first letter. -/
def isSchemeChar (c : Char) : Bool := c.isAlphanum || c = '+' || c = '-' || c = '.'

/-- The scheme in front of the first colon, in lower case, and what follows the colon. -/
def scheme? (cs : List Char) : Option (String × List Char) :=
  let name := cs.takeWhile isSchemeChar
  match cs.head?, cs.drop name.length with
  | some first, ':' :: rest =>
    if first.isAlpha then some (String.ofList (name.map Char.toLower), rest) else none
  | _, _ => none

/-- Whether a character separates the steps of a path. -/
def isSlash (special : Bool) (c : Char) : Bool := c = '/' || special && c = '\\'

/-- Whether a character ends the part with the host. -/
def endsAuthority (special : Bool) (c : Char) : Bool := isSlash special c || c = '?' || c = '#'

/-- What follows the last at sign, if there is one. -/
def behindUser (cs : List Char) : List Char := (cs.reverse.takeWhile (· ≠ '@')).reverse

/-- Splits at the first colon that is not in brackets. -/
def splitPort : Bool → List Char → List Char × Option (List Char)
  | _, [] => ([], none)
  | bracketed, c :: cs =>
    if c = ':' ∧ !bracketed then ([], some cs)
    else
      let r := splitPort (if c = '[' then true else if c = ']' then false else bracketed) cs
      (c :: r.1, r.2)

/-- Reads a port; an empty one is none. -/
def port? (cs : List Char) : Except UrlFault (Option Nat) :=
  if cs = [] then .ok none
  else
    match Text.readDigits? 10 cs with
    | some n => if n < 65536 then .ok (some n) else .error .badPort
    | none => .error .badPort

/-- Whether a character is escaped in a fragment. -/
def escapedInFragment (c : Char) : Bool := isControl c || " \"<>`".toList.contains c

/-- Whether a character is escaped in a path. -/
def escapedInPath (c : Char) : Bool := escapedInFragment c || "#?^\x7b\x7d".toList.contains c

/-- Whether a character is escaped in a query. -/
def escapedInQuery (special : Bool) (c : Char) : Bool :=
  isControl c || " \"#<>".toList.contains c || special && c = '\''

/-- A step in which escaped points are points. -/
def plainStep : List Char → List Char
  | '%' :: '2' :: e :: cs => if e = 'e' ∨ e = 'E' then '.' :: plainStep cs else '%' :: '2' :: e :: cs
  | '.' :: cs => '.' :: plainStep cs
  | cs => cs

/-- Takes the steps that stay and those that go up out of a path.  A step is judged by how it looks
through `view`; `done` holds the steps so far, the last one first. -/
def walk (view : List Char → List Char) (done : List (List Char)) :
    List (List Char) → List (List Char)
  | [] => done.reverse
  | step :: rest =>
    let up := view step = ['.', '.']
    let stay := view step = ['.']
    let done := if up then done.drop 1 else done
    if up ∨ stay then walk view (if rest = [] then [] :: done else done) rest
    else walk view (step :: done) rest

/-- Splits a path at its slashes. -/
def splitPath (special : Bool) (cs : List Char) : List (List Char) :=
  Text.splitAt '/' (cs.map fun c => if isSlash special c then '/' else c)

/-- The path that is written for one that stands behind a host. -/
def normalPath (special : Bool) (cs : List Char) : String :=
  if cs = [] ∧ !special then ""
  else
    let steps := walk plainStep [] (splitPath special (cs.drop 1))
    String.ofList ('/' :: List.intercalate ['/'] (steps.map (percentEncode escapedInPath)))

/-- Splits a text at the first place of a character, if it is there. -/
def cutAt (c : Char) (cs : List Char) : List Char × Option (List Char) :=
  match cs.dropWhile (· ≠ c) with
  | [] => (cs, none)
  | _ :: rest => (cs.takeWhile (· ≠ c), some rest)

namespace Url

/-- The address of a scheme, of what stands behind the host, and of the host. -/
def assemble (scheme : String) (host : Option HostName) (port : Option Nat) (path : List Char → String)
    (cs : List Char) : Url :=
  let (front, fragment) := cutAt '#' cs
  let (body, query) := cutAt '?' front
  let written (escaped : Char → Bool) (cs : List Char) := String.ofList (percentEncode escaped cs)
  { scheme, host, port
    path := path body
    query := query.map (written (escapedInQuery (isSpecial scheme)))
    fragment := fragment.map (written escapedInFragment) }

/-- Reads what follows the two slashes in front of a host. -/
def behindSlashes (scheme : String) (cs : List Char) : Except UrlFault Url := do
  let special := isSpecial scheme
  let authority := cs.takeWhile (!endsAuthority special ·)
  let rest := cs.drop authority.length
  let (hostText, portText) := splitPort false (behindUser authority)
  if hostText = [] ∧ special ∧ scheme ≠ "file" then throw .emptyHost
  let host ←
    if hostText = [] then pure none
    else if special then (domainHost hostText).map some
    else (plainHost hostText).map some
  let port ← port? (portText.getD [])
  let port := if (specialSchemes.lookup scheme).join = port then none else port
  return assemble scheme host port (normalPath special) rest

/-- Reads an address. -/
def parse (s : String) : Except UrlFault Url :=
  let cs := (Text.stripBoth (fun c => c.toNat ≤ 0x20) s.toList).filter fun c =>
    c ≠ '\t' && c ≠ '\n' && c ≠ '\r'
  match scheme? cs with
  | none => .error .relative
  | some (scheme, rest) =>
    if scheme = "file" then
      match rest with
      | a :: b :: more =>
        if isSlash true a ∧ isSlash true b then behindSlashes scheme more
        else .ok (assemble scheme none none (fun p => normalPath true ('/' :: p.dropWhile (isSlash true)))
          rest)
      | rest =>
        .ok (assemble scheme none none (fun p => normalPath true ('/' :: p.dropWhile (isSlash true)))
          rest)
    else if isSpecial scheme then behindSlashes scheme (rest.dropWhile (isSlash true))
    else
      match rest with
      | '/' :: '/' :: more => behindSlashes scheme more
      | '/' :: _ => .ok (assemble scheme none none (normalPath false) rest)
      | rest =>
        .ok (assemble scheme none none
          (fun p => String.ofList (percentEncode isControl p)) rest)

/-- What a request for the resource names: the path and the query. -/
def target (u : Url) : String := u.path ++ (u.query.elim "" ("?" ++ ·))

/-- The host as it is written, with its port. -/
def authority (u : Url) : String :=
  (u.host.elim "" HostName.inUrl) ++ (u.port.elim "" fun p => ":" ++ toString p)

/-- The written form of an address. -/
def text (u : Url) : String :=
  let authority := if u.host.isSome ∨ u.scheme = "file" then "//" ++ u.authority else ""
  u.scheme ++ ":" ++ authority ++ u.target ++ (u.fragment.elim "" ("#" ++ ·))

end Url

end ClusterSurvey.Net

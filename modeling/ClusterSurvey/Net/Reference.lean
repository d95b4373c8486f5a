import ClusterSurvey.Net.Url

/-!
# References from one resource to another

A reference names a resource as seen from another one: it leaves out what the two have in common.
Unlike an address that somebody types, a reference is taken as it stands, and one with a character
that must be escaped is none.
-/

namespace ClusterSurvey.Net

/-- A resource of a host: what a request is sent for. -/
structure Target where
  /-- The scheme in lower case. -/
  scheme : String
  /-- The host with its port. -/
  authority : String
  /-- The path. -/
  path : String
  /-- What stands behind a question mark. -/
  query : Option String
  deriving DecidableEq, Repr

/-- What a request for an address is sent for. -/
def Url.toTarget (u : Url) : Target := ⟨u.scheme, u.authority, u.path, u.query⟩

namespace Target

/-- What a request names. -/
def name (t : Target) : String := t.path ++ (t.query.elim "" ("?" ++ ·))

/-- The written form of a target. -/
def text (t : Target) : String := t.scheme ++ "://" ++ t.authority ++ t.name

end Target

/-- Whether a character may stand everywhere in a reference. -/
def isReferenceChar (c : Char) : Bool := c.isAlphanum || "-._~!$&'()*+,;=:@".toList.contains c

/-- Whether a text has only characters that may stand in a reference, some further ones, and percent
signs with two digits behind them. -/
def isReferenceText (further : List Char) : List Char → Bool
  | [] => true
  | '%' :: a :: b :: cs =>
    (Text.digitIn? 16 a).isSome && (Text.digitIn? 16 b).isSome && isReferenceText further cs
  | c :: cs => (isReferenceChar c || further.contains c) && isReferenceText further cs

/-- Splits at the last colon if only digits follow it. -/
def splitLastPort (cs : List Char) : List Char × List Char :=
  let port := (cs.reverse.takeWhile Char.isDigit).reverse
  match (cs.take (cs.length - port.length)).reverse with
  | ':' :: host => (host.reverse, port)
  | _ => (cs, [])

/-- Whether a text is a host: a long internet address in brackets, or a name. -/
def isHost : List Char → Bool
  | '[' :: inner =>
    inner.getLast? = some ']' && (readV6? inner.dropLast).any fun (_, rest) => rest.isEmpty
  | name => name.all fun c => isReferenceChar c && c ≠ ':' && c ≠ '@'

/-- Whether a text is a host with a user and a port at most. -/
def isAuthority (cs : List Char) : Bool :=
  let host := behindUser cs
  let user := cs.take (cs.length - host.length - 1)
  isReferenceText [] user && isHost (splitLastPort host).1

/-- The parts of a reference. -/
structure Reference where
  /-- The scheme, if it names one. -/
  scheme : Option String
  /-- The host with its port, if it names one. -/
  authority : Option (List Char)
  /-- The path. -/
  path : List Char
  /-- What stands behind a question mark. -/
  query : Option (List Char)
  /-- Whether something stands behind a number sign. -/
  fragment : Bool

/-- Reads a reference. -/
def Reference.parse? (cs : List Char) : Option Reference :=
  let (front, fragment) := cutAt '#' cs
  let (body, query) := cutAt '?' front
  let (scheme, rest) := match scheme? body with
    | some (name, rest) => (some name, rest)
    | none => (none, body)
  let (authority, path) := match rest with
    | '/' :: '/' :: more => (some (more.takeWhile (· ≠ '/')), more.dropWhile (· ≠ '/'))
    | path => (none, path)
  let colonFirst := scheme.isNone && authority.isNone && (path.takeWhile (· ≠ '/')).contains ':'
  if colonFirst || !isReferenceText ['/'] path || !isReferenceText ['/', '?'] (query.getD []) ||
      !isReferenceText ['/', '?'] (fragment.getD []) || !isAuthority (authority.getD []) then none
  else some ⟨scheme, authority, path, query, fragment.isSome⟩

/-- A path without steps that stay and steps that go up. -/
def removeSteps (path : List Char) : List Char :=
  match path with
  | '/' :: cs => '/' :: List.intercalate ['/'] (walk id [] (Text.splitAt '/' cs))
  | cs => cs

/-- A path as seen from another one: it takes the place of that one's last step. -/
def mergePath (base path : List Char) : List Char :=
  (base.reverse.dropWhile (· ≠ '/')).reverse ++ path

/-- What an address names. -/
structure Pointer where
  /-- The address. -/
  text : String
  /-- The resource, if the address names a host. -/
  target : Option Target
  deriving DecidableEq, Repr

/-- The pointer to a target. -/
def Target.pointer (t : Target) : Pointer := ⟨t.text, some t⟩

/-- Whether a text that follows a scheme names something that has no host. -/
def isBareName (cs : List Char) : Bool :=
  cs.all (fun c => isReferenceChar c && c ≠ ':') && cs.getLast? ≠ some '@'

/-- Whether references can be seen from a target. -/
def Target.isBase (t : Target) : Bool :=
  isReferenceText ['/'] t.path.toList && isReferenceText ['/', '?'] (t.query.getD "").toList

/-- What a reference from a target names. -/
def Target.resolve? (t : Target) (reference : List Char) : Option Pointer := do
  guard t.isBase
  let r ← Reference.parse? reference
  let query := r.query.map String.ofList
  let located (scheme authority : String) (path : List Char) (query : Option String) : Pointer :=
    (Target.mk scheme authority (String.ofList (if path = [] then ['/'] else path)) query).pointer
  match r.scheme, r.authority with
  | _, some [] => none
  | some scheme, some authority =>
    return located scheme (String.ofList authority) (removeSteps r.path) query
  | some scheme, none =>
    if isBareName r.path ∧ query.isNone ∧ !r.fragment then
      return ⟨scheme ++ ":" ++ String.ofList r.path, none⟩
    else none
  | none, some authority =>
    return located t.scheme (String.ofList authority) (removeSteps r.path) query
  | none, none =>
    if r.path = [] then return Target.pointer { t with query := query.or t.query }
    else if r.path.head? = some '/' then
      return located t.scheme t.authority (removeSteps r.path) query
    else
      return located t.scheme t.authority (removeSteps (mergePath t.path.toList r.path)) query

end ClusterSurvey.Net

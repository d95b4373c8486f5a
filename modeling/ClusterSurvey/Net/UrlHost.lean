import ClusterSurvey.Net.HostName
import ClusterSurvey.Net.Percent

/-!
# Hosts of resource addresses

The host in the address of a resource is a long internet address in brackets, a short one, of which
some parts may be left out or stand in another base, or else a domain name in lower case.
-/

namespace ClusterSurvey.Net

/-- What is wrong with the address of a resource. -/
inductive UrlFault where
  /-- It has no scheme. -/
  | relative
  | emptyHost
  | badPort
  | badShortAddress
  | badLongAddress
  | badDomain
  | badHostCharacter
  deriving DecidableEq, Repr

/-- The wording of a fault. -/
def UrlFault.message : UrlFault → String
  | relative => "relative URL without a base"
  | emptyHost => "empty host"
  | badPort => "invalid port number"
  | badShortAddress => "invalid IPv4 address"
  | badLongAddress => "invalid IPv6 address"
  | badDomain => "invalid international domain name"
  | badHostCharacter => "invalid domain character"

/-- A number in one of three bases, which its first characters tell. -/
def baseNumber? : List Char → Option Nat
  | [] => none
  | '0' :: x :: cs =>
    if x = 'x' ∨ x = 'X' then if cs = [] then some 0 else Text.readDigits? 16 cs
    else Text.readDigits? 8 (x :: cs)
  | cs => Text.readDigits? 10 cs

/-- The parts of a name between its points, without an empty one at the end. -/
def hostParts (cs : List Char) : List (List Char) :=
  let parts := Text.splitAt '.' cs
  if 1 < parts.length ∧ parts.getLast? = some [] then parts.dropLast else parts

/-- Whether a name is to be read as a short address. -/
def endsInNumber (cs : List Char) : Bool :=
  (hostParts cs).getLast?.any fun last =>
    last ≠ [] && (last.all Char.isDigit || (baseNumber? last).isSome)

/-- The short address of its parts; the last one stands for all octets that are left. -/
def shortOfParts? (ns : List Nat) : Option IpAddress :=
  match ns.getLast? with
  | none => none
  | some last =>
    let front := ns.dropLast
    if 3 < front.length ∨ front.any (255 < ·) ∨ Nat.pow 256 (4 - front.length) ≤ last then none
    else
      some (.v4 (BitVec.ofNat 32
        (Text.ofDigits 256 front * Nat.pow 256 (4 - front.length) + last)))

/-- Whether a character stands in no host of any scheme. -/
def isDelimiter (c : Char) : Bool := "\x00\t\n\r #/:<>?@[\\]^|".toList.contains c

/-- Whether a character is a control character or none of ASCII. -/
def isControl (c : Char) : Bool := c.toNat < 0x20 || 0x7e < c.toNat

/-- Whether a character stands in no domain name. -/
def isForbidden (c : Char) : Bool :=
  isDelimiter c || c.toNat < 0x20 || c.toNat = 0x7f || c = '%'

/-- The host of an address whose scheme knows domain names. -/
def domainHost (cs : List Char) : Except UrlFault HostName :=
  match cs with
  | '[' :: inner =>
    if inner.getLast? = some ']' then
      match readV6? inner.dropLast with
      | some (gs, []) => .ok (.address (ofGroups gs))
      | _ => .error .badLongAddress
    else .error .badLongAddress
  | cs =>
    match percentText? (String.ofList cs) with
    | none => .error .badDomain
    | some name =>
      let name := name.toList.map Char.toLower
      if name.any isForbidden then .error .badDomain
      else if name = [] then .error .emptyHost
      else if endsInNumber name then
        match (hostParts name).mapM baseNumber? with
        | none => .error .badShortAddress
        | some ns =>
          match shortOfParts? ns with
          | some ip => .ok (.address ip)
          | none => .error .badShortAddress
      else .ok (.domain (String.ofList name))

/-- The host of an address of any other scheme. -/
def plainHost (cs : List Char) : Except UrlFault HostName :=
  match cs with
  | '[' :: _ => domainHost cs
  | cs =>
    if cs.any isDelimiter then .error .badHostCharacter
    else .ok (.domain (String.ofList (percentEncode isControl cs)))

/-- A host as it stands in an address. -/
def HostName.inUrl : HostName → String
  | .domain name => name
  | .address (.v4 v) => (IpAddress.v4 v).text
  | .address (.v6 v) => "[" ++ String.ofList (IpAddress.compressed (IpAddress.groupsOfV6 v)) ++ "]"

end ClusterSurvey.Net

import ClusterSurvey.Net.IpAddress
import ClusterSurvey.Text.Split

/-!
# Names of hosts

A host is called by a domain name or by an internet address.  A certificate names the hosts it stands
for in the same way, except that the first label of a domain name may be an asterisk, which stands for
any one label.
-/

namespace ClusterSurvey.Net

/-- The most characters that a label has. -/
def maxLabel : Nat := 63

/-- The most characters that a domain name has. -/
def maxDomainName : Nat := 253

/-- Whether a character may stand in a label. -/
def isLabelChar (c : Char) : Bool := c.isAlphanum || c = '-' || c = '_'

/-- A label has some characters but not too many, and no hyphen at either end. -/
def isLabel (cs : List Char) : Bool :=
  cs ≠ [] && cs.length ≤ maxLabel && cs.all isLabelChar && cs.head? ≠ some '-' &&
    cs.getLast? ≠ some '-'

/-- Labels with points between them, the last of which is not a number. -/
def areLabels (labels : List (List Char)) : Bool :=
  labels.all isLabel && labels.getLast?.any (!·.all Char.isDigit)

/-- The labels of a name, without the empty one behind a point at its end. -/
def labelsOf (cs : List Char) : List (List Char) :=
  let labels := Text.splitAt '.' cs
  if 1 < labels.length ∧ labels.getLast? = some [] then labels.dropLast else labels

/-- Whether a text is the domain name of a host; a point may stand at its end. -/
def isDomainName (s : String) : Bool :=
  s.utf8ByteSize ≤ maxDomainName && areLabels (labelsOf s.toList)

/-- What a host is called. -/
inductive HostName where
  | domain (name : String)
  | address (ip : IpAddress)
  deriving DecidableEq, Repr

/-- The name of a host that a text is: a domain name, or else an address. -/
def HostName.parse? (s : String) : Option HostName :=
  if isDomainName s then some (.domain s) else (IpAddress.parse? s).map .address

/-- A name that a certificate stands for. -/
inductive AltName where
  | dns (text : String)
  | ip (address : IpAddress)
  deriving DecidableEq, Repr

/-- The name that a certificate for a host has. -/
def AltName.ofHost (host : String) : AltName :=
  match IpAddress.parse? host with
  | some a => .ip a
  | none => .dns host

/-- Labels without regard to upper and lower case. -/
def foldLabels (labels : List (List Char)) : List (List Char) :=
  labels.map fun l => l.map Char.toLower

/-- The labels of a domain name in a certificate, if it is well formed: no point at its end, and at
least two labels behind an asterisk. -/
def presented? (text : String) : Option (Bool × List (List Char)) :=
  if maxDomainName < text.utf8ByteSize then none
  else
    match Text.splitAt '.' text.toList with
    | ['*'] :: rest => if 2 ≤ rest.length ∧ areLabels rest then some (true, rest) else none
    | labels => if areLabels labels then some (false, labels) else none

/-- Whether a name in a certificate is that of a host. -/
def AltName.covers : AltName → HostName → Bool
  | .ip a, .address b => a = b
  | .dns text, .domain name =>
    match presented? text with
    | none => false
    | some (wild, labels) =>
      let wanted := foldLabels (labelsOf name.toList)
      if wild then wanted.drop 1 = foldLabels labels else wanted = foldLabels labels
  | _, _ => false

end ClusterSurvey.Net

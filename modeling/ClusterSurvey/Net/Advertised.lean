import ClusterSurvey.Net.IpAddress

/-!
# The host of an advertised address

Workers reach the run at an address that its operator advertises: a host name or an internet
address, with or without a port.  The certificate of the run is issued for the host alone.
-/

namespace ClusterSurvey.Net

/-- Splits a text at its last colon. -/
def splitLastColon? (cs : List Char) : Option (List Char × List Char) :=
  match cs.reverse.span (· ≠ ':') with
  | (_, []) => none
  | (back, _ :: front) => some (front.reverse, back.reverse)

/-- Whether a text is a port: digits of a number below 65536, perhaps behind a plus sign. -/
def isPort (cs : List Char) : Bool :=
  let ds := match cs with
    | '+' :: rest => rest
    | cs => cs
  ds ≠ [] && ds.all Char.isDigit && Nat.ofDigitChars 10 ds 0 < 65536

/-- Whether a character is a square bracket. -/
def isBracket (c : Char) : Bool := c = '[' || c = ']'

/-- A text without the square brackets at its ends. -/
def stripBrackets (cs : List Char) : List Char :=
  ((cs.dropWhile isBracket).reverse.dropWhile isBracket).reverse

/-- The host of an advertised address.  A port is cut off a socket address and off a host that has no
other colon; otherwise only the brackets of a long address go. -/
def advertisedHost (address : String) : String :=
  match SocketAddress.parse? address with
  | some a => a.ip.text
  | none =>
    match splitLastColon? address.toList with
    | some (host, port) =>
      if ':' ∉ host ∧ isPort port then String.ofList host
      else String.ofList (stripBrackets address.toList)
    | none => String.ofList (stripBrackets address.toList)

end ClusterSurvey.Net

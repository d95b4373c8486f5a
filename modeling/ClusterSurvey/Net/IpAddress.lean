import ClusterSurvey.Text.Digits

/-!
# Internet addresses

An address is a number of 32 or of 128 bits.  The short one is written as four decimal octets
without leading zeros, the long one as eight groups in base sixteen, of which one run of zeros may be
left out and of which the last two may be written as a short address.
-/

namespace ClusterSurvey.Net

/-- An internet address of either length. -/
inductive IpAddress where
  | v4 (value : BitVec 32)
  | v6 (value : BitVec 128)
  deriving DecidableEq, Repr

/-- A number below `bound` at the head of a text.  It takes all digits there are, so more than `most`
of them are refused, as is a leading zero where `padded` does not allow it. -/
def readNumber? (base : Nat) (most : Option Nat) (padded : Bool) (bound : Nat) (cs : List Char) :
    Option (Nat × List Char) :=
  let (ds, rest) := Text.spanDigits base cs
  if ds = [] ∨ most.any (· < ds.length) then none
  else if !padded ∧ ds.head? = some 0 ∧ 1 < ds.length then none
  else if Text.ofDigits base ds < bound then some (Text.ofDigits base ds, rest) else none

/-- The text behind a given character. -/
def readChar? (c : Char) : List Char → Option (List Char)
  | [] => none
  | d :: cs => if d = c then some cs else none

/-- Reads so many octets, a point in front of each but the first. -/
def readOctets? : Nat → Bool → List Char → Option (List Nat × List Char)
  | 0, _, cs => some ([], cs)
  | n + 1, first, cs => do
    let cs ← if first then some cs else readChar? '.' cs
    let (o, cs) ← readNumber? 10 (some 3) false 256 cs
    let (os, cs) ← readOctets? n false cs
    return (o :: os, cs)

/-- Reads a short address as its four octets. -/
def readV4? (cs : List Char) : Option (List Nat × List Char) := readOctets? 4 true cs

/-- Reads at most so many groups, a colon in front of each but the first.  A short address counts as
two groups and ends the reading, as the flag tells. -/
def readGroups : Nat → Bool → List Char → List Nat × Bool × List Char
  | 0, _, cs => ([], false, cs)
  | n + 1, first, cs =>
    match if first then some cs else readChar? ':' cs with
    | none => ([], false, cs)
    | some body =>
      match if 1 ≤ n then readV4? body else none with
      | some ([a, b, c, d], rest) => ([a * 256 + b, c * 256 + d], true, rest)
      | _ =>
        match readNumber? 16 (some 4) true 65536 body with
        | none => ([], false, cs)
        | some (g, rest) =>
          let r := readGroups n false rest
          (g :: r.1, r.2.1, r.2.2)

/-- Reads a long address as its eight groups.  Two colons stand for one zero group or more. -/
def readV6? (cs : List Char) : Option (List Nat × List Char) :=
  let (front, short, rest) := readGroups 8 true cs
  if front.length = 8 then some (front, rest)
  else if short then none
  else
    match rest with
    | ':' :: ':' :: tail =>
      let (back, _, rest) := readGroups (8 - (front.length + 1)) true tail
      some (front ++ List.replicate (8 - front.length - back.length) 0 ++ back, rest)
    | _ => none

/-- The address with these octets. -/
def ofOctets (os : List Nat) : IpAddress := .v4 (BitVec.ofNat 32 (Text.ofDigits 256 os))

/-- The address with these groups. -/
def ofGroups (gs : List Nat) : IpAddress := .v6 (BitVec.ofNat 128 (Text.ofDigits 65536 gs))

namespace IpAddress

/-- Reads an address at the head of a text. -/
def read? (cs : List Char) : Option (IpAddress × List Char) :=
  match readV4? cs with
  | some (os, rest) => some (ofOctets os, rest)
  | none =>
    match readV6? cs with
    | some (gs, rest) => some (ofGroups gs, rest)
    | none => none

/-- The address that a text is. -/
def parse? (s : String) : Option IpAddress :=
  match read? s.toList with
  | some (a, []) => some a
  | _ => none

/-- The four octets of a short address. -/
def octetsOfV4 (v : BitVec 32) : List Nat :=
  [24, 16, 8, 0].map fun shift => v.toNat / Nat.pow 2 shift % 256

/-- The eight groups of a long address. -/
def groupsOfV6 (v : BitVec 128) : List Nat :=
  [112, 96, 80, 64, 48, 32, 16, 0].map fun shift => v.toNat / Nat.pow 2 shift % 65536

/-- The octets of an address from the highest on. -/
def octets : IpAddress → List Nat
  | v4 v => octetsOfV4 v
  | v6 v => (groupsOfV6 v).flatMap fun g => [g / 256, g % 256]

/-- A short address as four octets. -/
def v4Text (os : List Nat) : List Char :=
  List.intercalate ['.'] (os.map (Nat.toDigits 10))

/-- How many zero groups a list begins with. -/
def leadingZeros (gs : List Nat) : Nat := (gs.takeWhile (· = 0)).length

/-- Where the first of the longest runs of zero groups begins and how long it is. -/
def zeroRun : List Nat → Nat × Nat
  | [] => (0, 0)
  | g :: gs =>
    let here := leadingZeros (g :: gs)
    let later := zeroRun gs
    if later.2 ≤ here then (0, here) else (later.1 + 1, later.2)

/-- Groups in base sixteen with colons between them. -/
def groupsText (gs : List Nat) : List Char :=
  List.intercalate [':'] (gs.map (Nat.toDigits 16))

/-- Groups of which the longest run of at least two zeros is left out. -/
def compressed (gs : List Nat) : List Char :=
  let (start, len) := zeroRun gs
  if 1 < len then
    groupsText (gs.take start) ++ [':', ':'] ++ groupsText (gs.drop (start + len))
  else groupsText gs

/-- A long address; one that stands for a short address ends in it. -/
def v6Text (gs : List Nat) : List Char :=
  match gs with
  | [0, 0, 0, 0, 0, 65535, a, b] =>
    "::ffff:".toList ++ v4Text [a / 256, a % 256, b / 256, b % 256]
  | gs => compressed gs

/-- The written form of an address. -/
def text : IpAddress → String
  | v4 v => String.ofList (v4Text (octetsOfV4 v))
  | v6 v => String.ofList (v6Text (groupsOfV6 v))

/-- An address as the host of a socket: a long one stands in brackets. -/
def bracketed : IpAddress → String
  | v4 v => (v4 v).text
  | v6 v => "[" ++ (v6 v).text ++ "]"

end IpAddress

/-- The address and port of a socket. -/
structure SocketAddress where
  /-- The address. -/
  ip : IpAddress
  /-- The port, below 65536. -/
  port : Nat
  deriving DecidableEq, Repr

namespace SocketAddress

/-- Reads a colon and a port. -/
def readPort? (cs : List Char) : Option (Nat × List Char) := do
  let cs ← readChar? ':' cs
  readNumber? 10 none true 65536 cs

/-- Reads the zone of a long address, if it has one. -/
def skipZone? (cs : List Char) : Option (List Char) :=
  match cs with
  | '%' :: rest => (readNumber? 10 none true (Nat.pow 2 32) rest).map (·.2)
  | cs => some cs

/-- The socket address that a text is: an address, a long one in brackets, and a port. -/
def parse? (s : String) : Option SocketAddress :=
  match s.toList with
  | '[' :: rest => do
    let (gs, rest) ← readV6? rest
    let rest ← skipZone? rest
    let rest ← readChar? ']' rest
    let (port, rest) ← readPort? rest
    if rest = [] then some ⟨ofGroups gs, port⟩ else none
  | cs => do
    let (os, rest) ← readV4? cs
    let (port, rest) ← readPort? rest
    if rest = [] then some ⟨ofOctets os, port⟩ else none

/-- The written form of a socket address. -/
def text (a : SocketAddress) : String := a.ip.bracketed ++ ":" ++ toString a.port

end SocketAddress

end ClusterSurvey.Net

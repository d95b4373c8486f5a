import ClusterSurvey.Credential.Certificate

/-!
# Handshakes

Before the first request both sides show who they are.  The two agree on a protocol, the server
shows its certificate, the client checks it for the host it dialled, shows its own, and proves that
it has the key; the first of them to find fault ends the exchange.

Specification: section 4.4, and section 6, the wire protocol.
-/

namespace ClusterSurvey

/-- The protocols of the service, the preferred one first. -/
def serviceProtocols : List String := ["h2", "http/1.1"]

/-- The server's side of a handshake. -/
structure ServerSide where
  /-- Who it is. -/
  identity : Identity
  /-- The root that it shows, which is also the one to which clients have to lead. -/
  root : Certificate

/-- What a client checks. -/
inductive ClientCheck where
  /-- Nothing. -/
  | nothing
  /-- That the server leads to one of some roots and stands for a host. -/
  | server (roots : List Certificate) (host : Net.HostName)

/-- The client's side of a handshake. -/
structure ClientSide where
  /-- What it checks. -/
  check : ClientCheck
  /-- Who it is, if it says so. -/
  identity : Option Identity
  /-- The protocols that it speaks. -/
  protocols : List String

/-- Whether a certificate leads to a root and may be used for a purpose. -/
def Certificate.leadsTo (c root : Certificate) (purpose : Purpose) : Bool :=
  c.signer = root.key && c.issuer = root.subject && root.purpose = .authority &&
    c.purpose = purpose

/-- What came of the choice of a protocol. -/
inductive ProtocolChoice where
  /-- The client named none. -/
  | unasked
  | agreed (protocol : String)
  /-- None that both speak. -/
  | none
  deriving DecidableEq, Repr

/-- The first of the server's protocols that the client speaks. -/
def chooseProtocol (client : List String) : ProtocolChoice :=
  if client = [] then .unasked
  else
    match serviceProtocols.find? (client.contains ·) with
    | some p => .agreed p
    | none => .none

/-- Whether a client is content with a server. -/
def ClientSide.accepts (c : ClientSide) (s : ServerSide) : Bool :=
  match c.check with
  | .nothing => true
  | .server roots host =>
    roots.any (s.identity.certificate.leadsTo · .server) &&
      s.identity.certificate.names.any (·.covers host) &&
      s.identity.key = s.identity.certificate.key

/-- Whether a server is content with a client: its certificate leads to the server's root, may be
used by clients, and its key is at hand. -/
def ServerSide.accepts (s : ServerSide) (c : ClientSide) : Bool :=
  match c.identity with
  | none => false
  | some i => i.certificate.leadsTo s.root .client && i.key = i.certificate.key

/-- How a handshake ended. -/
inductive HandshakeOutcome where
  /-- They have no protocol in common. -/
  | noProtocol
  /-- The client refuses the server. -/
  | serverRefused
  /-- The server refuses the client. -/
  | clientRefused
  | complete
  deriving DecidableEq, Repr

/-- The outcome of a handshake. -/
def handshake (s : ServerSide) (c : ClientSide) : HandshakeOutcome :=
  if chooseProtocol c.protocols = .none then .noProtocol
  else if !c.accepts s then .serverRefused
  else if !s.accepts c then .clientRefused
  else .complete

/-- The server's side of a service at an advertised address. -/
def Authority.serverSide (a : Authority) (advertise : String) (key : KeyPair) :
    Except CertificateError ServerSide := do
  let identity ← a.serverIdentity advertise key
  return ⟨identity, a.root⟩

end ClusterSurvey

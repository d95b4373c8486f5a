import ClusterSurvey.Credential.Handshake
import ClusterSurvey.Credential.Pem

/-!
# Clients of a run's service

A worker is given three texts: the root that it trusts, its certificate and its key.  A client can be
made of them if each holds what it should and the certificate goes with the key.
-/

namespace ClusterSurvey

/-- What octets stand for: which of them are certificates and which are private keys. -/
structure Encoding where
  /-- The certificate of octets. -/
  certificate? : ByteArray → Option Certificate
  /-- The private key of octets. -/
  key? : ByteArray → Option KeyPair

/-- Why no client can be made. -/
inductive ClientError where
  /-- The identity is not made of sections. -/
  | badIdentity
  /-- The identity holds something that is neither a certificate nor a key. -/
  | strayIdentity
  /-- The identity lacks a certificate or a key. -/
  | noIdentity
  /-- The root is not made of sections. -/
  | badRoot
  /-- A certificate cannot be read. -/
  | badCertificate
  /-- The key cannot be read. -/
  | badKey
  /-- Certificate and key do not go together. -/
  | foreignKey
  deriving DecidableEq, Repr

/-- The wording of a client error. -/
def ClientError.message : ClientError → String
  | badIdentity => "unexpected error: Invalid identity PEM file"
  | strayIdentity => "unexpected error: No valid certificate was found"
  | noIdentity => "unexpected error: private key or certificate not found"
  | badRoot => "invalid certificate encoding"
  | badCertificate => "invalid peer certificate: BadEncoding"
  | badKey => "unexpected error: failed to parse private key as RSA, ECDSA, or EdDSA"
  | foreignKey => "keys may not be consistent: KeyMismatch"

/-- A client that trusts some roots and knows who it is. -/
structure Client where
  /-- The roots that it trusts. -/
  roots : List Certificate
  /-- Who it is. -/
  identity : Identity
  deriving DecidableEq, Repr

namespace Client

/-- The contents of the sections of a kind. -/
def contents (kind : Pem.Kind) (ss : List Pem.Section) : List ByteArray :=
  (ss.filter (·.kind = kind)).map (·.content)

/-- The octets of the first certificate and of the last key of an identity. -/
def readIdentity (text : String) : Except ClientError (ByteArray × ByteArray) :=
  match Pem.sections text with
  | .error _ => .error .badIdentity
  | .ok ss =>
    if ss.any (·.kind = .other) then .error .strayIdentity
    else
      match contents .certificate ss, (contents .privateKey ss).getLast? with
      | cert :: _, some key => .ok (cert, key)
      | _, _ => .error .noIdentity

/-- The roots of a text; it may hold none. -/
def readRoots (e : Encoding) (text : String) : Except ClientError (List Certificate) :=
  match Pem.sections text with
  | .error _ => .error .badRoot
  | .ok ss =>
    (contents .certificate ss).mapM fun octets =>
      match e.certificate? octets with
      | some c => .ok c
      | none => .error .badCertificate

/-- Key and certificate as one text, each on lines of its own. -/
def joinIdentity (certificate key : String) : String :=
  key ++ (if key.endsWith "\n" then "" else "\n") ++ certificate

/-- Makes a client of a root, a certificate and a key. -/
def ofTexts (e : Encoding) (root certificate key : String) : Except ClientError Client := do
  let (certOctets, keyOctets) ← readIdentity (joinIdentity certificate key)
  let roots ← readRoots e root
  match e.key? keyOctets with
  | none => throw .badKey
  | some k =>
    match e.certificate? certOctets with
    | none => throw .badCertificate
    | some c => if c.key = k then return ⟨roots, ⟨c, k⟩⟩ else throw .foreignKey

/-- The client's side of a handshake with a host. -/
def side (c : Client) (host : Net.HostName) (protocols : List String) : ClientSide :=
  ⟨.server c.roots host, some c.identity, protocols⟩

end Client

end ClusterSurvey

import ClusterSurvey.Credential.Error
import ClusterSurvey.Net.Advertised
import ClusterSurvey.Net.HostName

/-!
# Certificates of a run

A run has an authority of its own.  It issues one certificate for the host of the run's advertised
address and one for each plugin, and nobody else holds its signing key.  Keys are known by numbers, so
that two keys are the same exactly if their numbers are, and a certificate is what its signer signed:
nobody can make one in the name of a key that he does not have.

Specification: section 4.1, `CertificateAuthority`.
-/

namespace ClusterSurvey

/-- A key pair, known by a number of its own. -/
structure KeyPair where
  /-- The number of the pair. -/
  id : Nat
  deriving DecidableEq, Repr

/-- What the key of a certificate may be used for. -/
inductive Purpose where
  /-- To sign certificates. -/
  | authority
  /-- To be called as a server. -/
  | server
  /-- To call as a client. -/
  | client
  deriving DecidableEq, Repr

/-- A signed certificate. -/
structure Certificate where
  /-- The common name of its subject. -/
  subject : String
  /-- The common name of its issuer. -/
  issuer : String
  /-- The key of its subject. -/
  key : KeyPair
  /-- The key that signed it. -/
  signer : KeyPair
  /-- What its key may be used for. -/
  purpose : Purpose
  /-- The hosts that it stands for. -/
  names : List Net.AltName
  deriving DecidableEq, Repr

namespace Certificate

/-- The organization in every subject. -/
def organization : String := "sonde"

/-- The attributes of a name: the common name and the organization. -/
def attributes (commonName : String) : List (String × String) :=
  [("2.5.4.3", commonName), ("2.5.4.10", organization)]

/-- How the uses of a key are listed. -/
def keyUsage (c : Certificate) : String :=
  match c.purpose with
  | .authority => "Digital Signature, Key Cert Sign, CRL Sign"
  | _ => "Digital Signature"

/-- The first second in which a certificate is valid, counted from the start of 1970: that of 1975. -/
def validFrom : Nat := 157766400

/-- The last second in which a certificate is valid: the first one of 4096. -/
def validUntil : Nat := 67090118400

/-- The kind of every key: a point of an elliptic curve. -/
def keyAlgorithm : String := "1.2.840.10045.2.1"

/-- How every certificate is signed: over an elliptic curve and a digest of 256 bits. -/
def signatureAlgorithm : String := "1.2.840.10045.4.3.2"

end Certificate

/-- The authority of a run. -/
structure Authority where
  /-- The key with which it signs. -/
  key : KeyPair
  deriving DecidableEq, Repr

/-- A certificate and the key that goes with it. -/
structure Identity where
  /-- The certificate. -/
  certificate : Certificate
  /-- The key. -/
  key : KeyPair
  deriving DecidableEq, Repr

namespace Authority

/-- The common name of every authority. -/
def commonName : String := "sonde-ca"

/-- The certificate that the authority signed for itself. -/
def root (a : Authority) : Certificate where
  subject := commonName
  issuer := commonName
  key := a.key
  signer := a.key
  purpose := .authority
  names := []

/-- A certificate that the authority signs for somebody's key. -/
def issue (a : Authority) (subject : String) (key : KeyPair) (purpose : Purpose)
    (names : List Net.AltName) : Certificate where
  subject := subject
  issuer := commonName
  key := key
  signer := a.key
  purpose := purpose
  names := names

/-- The identity of a plugin's workers. -/
def clientIdentity (a : Authority) (plugin : String) (key : KeyPair) : Identity :=
  ⟨a.issue plugin key .client [], key⟩

/-- Whether a character may stand in a name of a certificate. -/
def isNameChar (c : Char) : Bool := c.toNat < 128

/-- Refuses a host that cannot stand in a certificate. -/
def checkHost (host : String) : Except CertificateError Unit :=
  if host.toList.all isNameChar then .ok ()
  else .error (.generation host ("Invalid IA5String: '" ++ host ++ "'"))

/-- The identity of the run's service at an advertised address. -/
def serverIdentity (a : Authority) (advertise : String) (key : KeyPair) :
    Except CertificateError Identity := do
  let host := Net.advertisedHost advertise
  checkHost host
  return ⟨a.issue host key .server [.ofHost host], key⟩

end Authority

end ClusterSurvey

import ClusterSurvey.Credential.Certificate
import ClusterSurvey.Json.Basic

/-!
# Descriptions of certificates

A certificate is described by what its signer has put into it; keys and signatures are named by their
kind alone.
-/

namespace ClusterSurvey

/-- Two digits of base sixteen for each octet. -/
def hexText (os : List Nat) : String :=
  String.ofList (os.flatMap fun o => [Json.hexDigit (o / 16), Json.hexDigit (o % 16)])

/-- The JSON form of a name in a certificate. -/
def Net.AltName.toJson : AltName → Json
  | .dns text => .ofTexts ["dns", text]
  | .ip address => .ofTexts ["ip", hexText address.octets]

namespace Certificate

/-- The JSON form of the attributes of a name. -/
def attributesJson (commonName : String) : Json :=
  .array ((attributes commonName).map fun a => .ofTexts [a.1, a.2])

/-- The JSON form of the uses of a key beyond those that are listed with it, if it has any. -/
def extendedUsageJson (c : Certificate) : Json :=
  let usage (client server : Bool) : Json :=
    .object [("any", .bool false), ("client", .bool client), ("server", .bool server)]
  match c.purpose with
  | .authority => .null
  | .client => usage true false
  | .server => usage false true

/-- The description of a certificate. -/
def toJson (c : Certificate) : Json :=
  .object [("subject", attributesJson c.subject), ("issuer", attributesJson c.issuer),
    ("sans", .array (c.names.map Net.AltName.toJson)),
    ("extended_key_usage", c.extendedUsageJson), ("key_usage", .string c.keyUsage),
    ("ca", if c.purpose = .authority then .array [.bool true, .null] else .null),
    ("validity", .array [.ofNat validFrom, .ofNat validUntil]),
    ("key", .string keyAlgorithm), ("signature", .string signatureAlgorithm)]

end Certificate

end ClusterSurvey

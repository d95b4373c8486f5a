import ClusterSurvey.Text.Quoted

/-!
# Errors of a certificate authority
-/

namespace ClusterSurvey

/-- Why an identity could not be issued. -/
inductive CertificateError where
  /-- No key pair could be made. -/
  | keyGeneration (reason : String)
  /-- No certificate could be made for a subject. -/
  | generation (subject reason : String)
  /-- The service could not be set up with its identity. -/
  | configuration (reason : String)
  deriving DecidableEq, Repr

/-- The wording of a certificate error. -/
def CertificateError.message : CertificateError → String
  | keyGeneration reason => "failed to generate key pair: " ++ reason
  | generation subject reason =>
    "failed to generate certificate for " ++ Text.quoted subject ++ ": " ++ reason
  | configuration reason => "TLS configuration error: " ++ reason

end ClusterSurvey

import ClusterSurvey.Binary.Double
import ClusterSurvey.Json.Reader

/-!
# Waiting between attempts

The delay after an attempt doubles from one attempt to the next until it reaches a limit, and is
then spread by a share of itself.  Delays are reckoned in doubles: base and limit are rounded to
fifty-three binary digits, doubling is exact, and the factor `2 ^ 1024` is past the greatest double.

Specification: section 10.6, `RetryConfig`.
-/

namespace ClusterSurvey

/-- How often and after which delays a submission is tried. -/
structure RetryPolicy where
  /-- How many requests are made at most, the first included. -/
  maxAttempts : Nat
  /-- Milliseconds after the first attempt. -/
  backoffBase : Nat
  /-- Milliseconds that no delay exceeds. -/
  backoffMax : Nat
  /-- The share of a delay by which it may be longer or shorter. -/
  jitterRatio : Float32
  deriving Inhabited

namespace RetryPolicy

/-- The policy where none is named. -/
def default : RetryPolicy := ⟨4, 1000, 10000, 0.1⟩

/-- Milliseconds to wait after so many attempts, before they are spread. -/
def baseDelay (p : RetryPolicy) (attempt : Nat) : Nat :=
  if attempt = 0 then 0
  else
    let scaled := (Double.nearest p.backoffBase).mul (.nearest (Nat.pow 2 (attempt - 1)))
    ((scaled.min (.nearest p.backoffMax)).max (.finite 0)).toWord

/-- The least and the greatest delay after so many attempts, in milliseconds. -/
def delayBand (p : RetryPolicy) (attempt : Nat) : Nat × Nat :=
  let anchor := p.baseDelay attempt
  if anchor = 0 then (0, 0)
  else
    let x := (UInt64.ofNat anchor).toFloat
    let ratio := if p.jitterRatio > 0 then p.jitterRatio.toFloat else 0
    let span := x * ratio
    let lower := if x - span > 0 then x - span else 0
    let limit := (UInt64.ofNat p.backoffMax).toFloat
    let upper := if x + span < limit then x + span else limit
    let least := lower.round.toUInt64.toNat
    if upper ≤ lower then (least, least) else (least, upper.round.toUInt64.toNat)

/-- Milliseconds to wait after so many attempts: the draw picks one of the delays of the band. -/
def delayFor (p : RetryPolicy) (draw attempt : Nat) : Nat :=
  let band := p.delayBand attempt
  band.1 + draw % (band.2 - band.1 + 1)

/-- The JSON form of a policy. -/
def toJson (p : RetryPolicy) : Json :=
  .object [("max_attempts", .ofNat p.maxAttempts), ("backoff_base_ms", .ofNat p.backoffBase),
    ("backoff_max_ms", .ofNat p.backoffMax), ("jitter_ratio", .single p.jitterRatio)]

/-- Reads a policy; all of it has to be there. -/
def reader : Json.Reader RetryPolicy :=
  Json.RecordReader.read "struct RetryConfig" <|
    mk <$> .required "max_attempts" (.natural 16)
      <*> .required "backoff_base_ms" (.natural 64)
      <*> .required "backoff_max_ms" (.natural 64)
      <*> .required "jitter_ratio" .single

end RetryPolicy

end ClusterSurvey

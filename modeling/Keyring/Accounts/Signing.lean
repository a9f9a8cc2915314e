import Keyring.Python.Calendar
import Keyring.Python.Timestamps
import Keyring.World

/-!
# Short-lived signed tokens

A token names the account it acts for and the one audience that may use it.
Its times are whole seconds: what is left of a fractional instant is dropped
towards the epoch, from the float that `timestamp` has rounded it to.
-/

set_option autoImplicit false

namespace Keyring

open Interleave

def badToken : String := "the token was not accepted"

/-- `instant.replace(microsecond=0)`. -/
def withoutMicroseconds (instant : Instant) : Instant := instant - instant % 1000000

/-- `datetime.fromtimestamp(float(exp), UTC)`. -/
def fromTimestamp (exp : Int) : Except Error Instant :=
  if maxInstant < seconds exp then
    let year := (ordToYmd (719163 + exp.toNat / 86400)).1
    .error (.value s!"year {year} is out of range")
  else .ok (seconds exp)

theorem fromTimestamp_ok {exp : Int} {instant : Instant} (dated : fromTimestamp exp = .ok instant) :
    instant = seconds exp := by
  unfold fromTimestamp at dated
  split at dated
  · cases dated
  · cases dated
    rfl

structure VerifiedAccessToken where
  accountId : String
  expiresAt : Instant

namespace TokenSigner

variable (env : Env)

def issue (accountId audience : String) (ttlSeconds : Int) : Service env String := do
  let now ← clockNow
  let expires ← Prog.ofExcept (datetimeAdd now (seconds ttlSeconds))
  pure (env.jwt.encode {
    iss := env.settings.issuer
    sub := accountId
    aud := audience
    iat := wholeSeconds now
    exp := wholeSeconds expires })

/-- One message for every failure.  The expiry is compared with the injected
clock, not by the library. -/
def verifyAccess (token audience : String) : Service env VerifiedAccessToken := do
  match env.jwt.decode token with
  | none => throw (.authentication badToken)
  | some claims =>
      refuseIf (claims.iss ≠ env.settings.issuer ∨ claims.aud ≠ audience) (.authentication badToken)
      let now ← clockNow
      refuseIf (timestamp now ≥ toFloat claims.exp) (.authentication badToken)
      let expiresAt ← Prog.ofExcept (fromTimestamp claims.exp)
      pure ⟨claims.sub, expiresAt⟩

end TokenSigner

end Keyring

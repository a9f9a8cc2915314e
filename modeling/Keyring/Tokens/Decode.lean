import Keyring.Credentials.Kinds

/-!
# The token library

What the two verifiers use of it: a signed text is written, its header and payload
are read without verification, and it is decoded, which may raise.  How the library
does this stays abstract.
-/

set_option autoImplicit false

namespace Keyring

/-- What decoding raises.  All but the last three are an `InvalidTokenError`. -/
inductive JwtError where
  | decode
  | invalidSignature
  | missingRequiredClaim (claim : String)
  | immatureSignature
  | invalidIssuedAt
  | expiredSignature
  | invalidIssuer
  | invalidAudience
  | invalidSubject
  | invalidJti
  | typeError
  | valueError
  | overflowError
  deriving DecidableEq

/-- `except jwt.InvalidTokenError`. -/
def JwtError.isInvalidToken : JwtError → Bool
  | .typeError | .valueError | .overflowError => false
  | _ => true

/-- The readings of numbers that the JSON of a payload leaves to the runtime: of
the digits in a string, of a float as it was written, and of a date too late. -/
structure Numerals where
  /-- `float(s)`; `none` is a `ValueError`. -/
  floatOfStr : String → Option String
  /-- `instant.timestamp() >= x`. -/
  reached : (written : String) → Instant → Bool
  /-- `datetime.fromtimestamp(x, UTC)`. -/
  fromTimestamp : (written : String) → Except JwtError Instant
  /-- What it raises of an integer past the last datetime. -/
  outOfRange : Int → JwtError

/-- The options of a decoding that the verifiers set, with the library's defaults. -/
structure DecodeOptions where
  verifyExp : Bool := true
  verifyIat : Bool := true
  strictAud : Bool := false
  require : List String := []

structure Jws (Key : Type) where
  encode : (payload : Secret) → (kid : String) → String
  /-- `get_unverified_header`; `none` is an `InvalidTokenError`. -/
  unverifiedHeader : String → Option Secret
  /-- `decode` with `verify_signature` off, which turns every claim check off. -/
  unverifiedPayload : String → Option Secret
  /-- `decode` under RS256.  `wall` is what it reads of the wall clock. -/
  decode : (options : DecodeOptions) → (wall : Instant) → Key →
    (token audience issuer : String) → Except JwtError Secret

end Keyring

import Keyring.Python.Timestamps
import Keyring.Tokens.Decode

/-!
# The client's token verifier

How a consuming service turns a token into an identity: which audiences it
answers to, and what it checks beyond what the library does.  Expiry is judged
by the injected clock, and the library's two checks on the wall clock are off.
-/

set_option autoImplicit false

namespace Keyring

def requiredClaims : List String := ["exp", "iat", "iss", "sub", "aud"]

def audienceSeparator : Char := '.'

/-! ## Audiences -/

/-- A name that could head an audience, as `check_audience_name` returns it. -/
def AudienceName : Type :=
  { value : String // value ≠ "" ∧ strip value = value ∧ audienceSeparator ∉ value.toList }

/-- Which verified audiences a service answers to. -/
structure AudiencePolicy where
  accepts : String → Bool

/-- One audience, spelled exactly. -/
structure ExactAudience where
  name : AudienceName

def ExactAudience.accepts (exact : ExactAudience) (audience : String) : Bool :=
  audience = exact.name.val

def ExactAudience.policy (exact : ExactAudience) : AudiencePolicy := ⟨exact.accepts⟩

/-- An audience and its compartments. -/
structure AudienceFamily where
  prefixName : AudienceName

namespace AudienceFamily

variable (family : AudienceFamily)

def accepts (audience : String) : Bool :=
  audience = family.prefixName.val ||
    (family.prefixName.val.toList ++ [audienceSeparator]).isPrefixOf audience.toList

def policy : AudiencePolicy := ⟨family.accepts⟩

end AudienceFamily

/-- The separator is what keeps a family from names that only begin like its own. -/
example : let family : AudienceFamily := ⟨⟨"user", by decide⟩⟩
    family.policy.accepts "user.health" = true ∧ family.policy.accepts "username" = false ∧
      (ExactAudience.policy ⟨family.prefixName⟩).accepts "user.health" = false := by decide

/-! ## Verifying -/

/-- What a verifier raises: the one refusal, that the keys were not to be had, or
what decoding raised past both. -/
inductive VerifyError where
  | authentication (message : String)
  | keyringUnreachable (message : String)
  | raised (error : JwtError)
  deriving DecidableEq

/-- `try: decode  except InvalidTokenError: refuse`. -/
def refuseInvalid {α : Type} (message : String) : Except JwtError α → Except VerifyError α
  | .ok a => .ok a
  | .error e => .error (if e.isInvalidToken then .authentication message else .raised e)

structure VerifiedToken where
  accountId : String
  audience : String
  deriving DecidableEq

/-- `keyFor` is the client's key set, fetched or cached. -/
structure TokenVerifier (Key : Type) where
  issuer : String
  keyFor : (kid : String) → Except VerifyError Key

namespace TokenVerifier

def badToken : String := "the token was not accepted"

variable {Key : Type} (library : Jws Key) (numerals : Numerals) (verifier : TokenVerifier Key)

def refuse {α : Type} : Except VerifyError α := .error (.authentication badToken)

/-- The key id of the unverified header. -/
def kidOf (token : String) : Except VerifyError String :=
  match library.unverifiedHeader token with
  | none => refuse
  | some header => match header.get "kid" with
      | some (.str kid) => if kid = "" then refuse else .ok kid
      | _ => refuse

/-- The audience a token claims, as one string and never a list. -/
def audienceOf (token : String) : Except VerifyError String :=
  match library.unverifiedPayload token with
  | none => refuse
  | some unverified => match unverified.get "aud" with
      | some (.str asserted) => .ok asserted
      | _ => refuse

/-- `now.timestamp() >= expires`, of a number that is not a `bool`. -/
def checkExpiry (now : Instant) : Option Json → Except VerifyError Unit
  | some (.int expires) => if Passed now expires then refuse else .ok ()
  | some (.float expires) => if numerals.reached expires now then refuse else .ok ()
  | _ => refuse

/-- `wall` is what the library reads, `now` what the injected clock shows. -/
def verify (wall now : Instant) (token : String) (audience : AudiencePolicy) :
    Except VerifyError VerifiedToken := do
  let kid ← kidOf library token
  let key ← verifier.keyFor kid
  let asserted ← audienceOf library token
  let claims ← refuseInvalid badToken (library.decode
    { require := requiredClaims, verifyExp := false, verifyIat := false }
    wall key token asserted verifier.issuer)
  checkExpiry numerals now (claims.get "exp")
  match claims.get "sub" with
  | some (.str accountId) =>
      if accountId = "" then refuse
      else match claims.get "aud" with
        | some (.str verified) =>
            if audience.accepts verified then .ok ⟨accountId, verified⟩ else refuse
        -- not reached: the asserted audience was this claim, and a string
        | _ => refuse
  | _ => refuse

end TokenVerifier

end Keyring

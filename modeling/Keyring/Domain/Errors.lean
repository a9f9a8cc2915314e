import Keyring.Domain.Text

/-!
# The domain's error vocabulary

One constructor for each exception class that the modelled code raises, with
the text it carries.  The last four are not domain errors: what SQLite, an
arithmetic overflow, a failed `int()` and a comparison of strings that are not
ASCII raise past the code that caused them.
-/

set_option autoImplicit false

namespace Keyring

inductive Error where
  | authentication (message : String)
  | accountNotFound (message : String)
  | accountExists (message : String)
  | invalidPassword (message : String)
  | invalidEmail (message : String)
  | invalidGrant (message : String)
  | invalidRole (message : String)
  | roleNotFound (message : String)
  | roleExists (message : String)
  | roleInUse (message : String)
  | insufficientPermission (message : String)
  | lastOwner (message : String)
  | invalidProfileName (message : String)
  | profileNotFound (message : String)
  | profileExists (message : String)
  | connectionNotFound (message : String)
  | credentialUnavailable (message : String)
  | vaultSealed (message : String)
  | invalidOAuthState (message : String)
  | limitExceeded (message : String)
  | rateLimited (message : String) (retryAfter : Instant)
  | reauthenticationRequired (message : String)
  | preferencesUnavailable (message : String)
  | integrity (message : String)
  | overflow (message : String)
  | value (message : String)
  | type (message : String)
  | recursion (message : String)
  deriving DecidableEq

/-- `except CredentialUnavailableError`; the sealed vault's error is a subclass. -/
def Error.isCredentialUnavailable : Error → Bool
  | .credentialUnavailable _ | .vaultSealed _ => true
  | _ => false

/-- `str(exc)`. -/
def Error.message : Error → String
  | .authentication m | .accountNotFound m | .accountExists m | .invalidPassword m
  | .invalidEmail m | .invalidGrant m | .invalidRole m | .roleNotFound m | .roleExists m
  | .roleInUse m | .insufficientPermission m | .lastOwner m | .invalidProfileName m
  | .profileNotFound m | .profileExists m | .connectionNotFound m
  | .credentialUnavailable m | .vaultSealed m | .invalidOAuthState m | .limitExceeded m
  | .rateLimited m _ | .reauthenticationRequired m | .preferencesUnavailable m
  | .integrity m | .overflow m | .value m | .type m | .recursion m => m

/-- `now + timedelta(...)`.  A `timedelta` past its own bound is past this one too,
and what it raises is of the same class. -/
def datetimeAdd (now span : Instant) : Except Error Instant :=
  if Representable (now + span) then .ok (now + span)
  else .error (.overflow "date value out of range")

theorem datetimeAdd_eq_ok {now span instant : Instant} :
    datetimeAdd now span = .ok instant ↔ Representable (now + span) ∧ instant = now + span := by
  unfold datetimeAdd
  split
  · next inside => simp [inside, eq_comm]
  · next outside => simp [outside]

theorem datetimeAdd_error {now span : Instant} {e : Error}
    (raised : datetimeAdd now span = .error e) :
    ¬ Representable (now + span) ∧ ∃ message, e = .overflow message := by
  unfold datetimeAdd at raised
  split at raised
  · cases raised
  · next outside =>
      cases raised
      exact ⟨outside, _, rfl⟩

end Keyring

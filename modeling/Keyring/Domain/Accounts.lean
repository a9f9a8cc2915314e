import Keyring.Domain.Errors

/-!
# Accounts, sessions and grants

What an account is and the rules an address and a password have to satisfy; the
two deadlines of a login session; and the single-use tokens of invites and
password resets.
-/

set_option autoImplicit false

namespace Keyring

def minPasswordLength : Nat := 8
def maxPasswordLength : Nat := 1024
def maxEmailLength : Nat := 254
def accountIdPrefix : String := "acct_"
def sessionIdPrefix : String := "sess_"
def grantIdPrefix : String := "grant_"

inductive AccountStatus where
  | active
  | disabled
  deriving DecidableEq

/-! ## Addresses and passwords -/

/-- `^[^@\s]+@[^@\s]+\.[^@\s]+$` -/
def matchesEmail (address : String) : Bool :=
  let cs := address.toList
  match cs.dropWhile (· ≠ '@') with
  | [] => false
  | _ :: domain =>
      !(cs.takeWhile (· ≠ '@')).isEmpty && !cs.any isSpace && !domain.contains '@' &&
        (domain.drop 1).dropLast.contains '.'

def normalizeEmail (text : Text) (raw : String) : Except Error String :=
  let address := text.lower (strip raw)
  if address.length > maxEmailLength then
    .error (.invalidEmail s!"email address must be at most {maxEmailLength} characters")
  else if !matchesEmail address then
    .error (.invalidEmail "email address is not a usable address")
  else .ok address

def checkPasswordPolicy (password : String) : Except Error Unit :=
  if password.length < minPasswordLength then
    .error (.invalidPassword s!"password must be at least {minPasswordLength} characters")
  else if password.length > maxPasswordLength then
    .error (.invalidPassword s!"password must be at most {maxPasswordLength} characters")
  else if (strip password).isEmpty then
    .error (.invalidPassword "password must not be entirely whitespace")
  else .ok ()

/-! ## Accounts -/

/-- The columns of an account; its roles are rows of their own. -/
structure AccountRow where
  accountId : String
  email : String
  passwordHash : String
  createdAt : Instant
  updatedAt : Instant
  status : AccountStatus
  failedAttempts : Nat
  lockedUntil : Option Instant

structure Account extends AccountRow where
  roles : List String

namespace Account

def withRoles (account : Account) (roles : List String) (now : Instant) : Account :=
  { account with roles := roles, updatedAt := now }

def isLocked (account : Account) (now : Instant) : Bool :=
  match account.lockedUntil with
  | none => false
  | some deadline => now < deadline

/-- Record a failed authentication, locking the account if that was one too many. -/
def withFailure (account : Account) (now : Instant) (lockoutThreshold : Nat)
    (lockoutSeconds : Instant) : Except Error Account := do
  let attempts := account.failedAttempts + 1
  let lockedUntil ←
    if attempts ≥ lockoutThreshold then some <$> datetimeAdd now lockoutSeconds
    else pure account.lockedUntil
  .ok { account with failedAttempts := attempts, lockedUntil := lockedUntil, updatedAt := now }

def withSuccess (account : Account) : Account :=
  { account with failedAttempts := 0, lockedUntil := none }

/-- The copy is still one of this account, with the roles it had. -/
structure Copies (copy account : Account) : Prop where
  accountId : copy.accountId = account.accountId
  roles : copy.roles = account.roles

end Account

/-! ## Sessions -/

structure Session where
  sessionId : String
  accountId : String
  tokenHash : String
  createdAt : Instant
  lastUsedAt : Instant
  expiresAt : Instant
  absoluteExpiresAt : Instant
  idleTtlSeconds : Option Int

namespace Session

def isExpired (session : Session) (now : Instant) : Bool :=
  now ≥ session.expiresAt || now ≥ session.absoluteExpiresAt

/-- Record use, extending the idle window but never the absolute one. -/
def touched (session : Session) (now : Instant) (idleTtlSeconds : Int)
    (absoluteExpiresAt : Option Instant) : Except Error Session := do
  let ceiling := absoluteExpiresAt.getD session.absoluteExpiresAt
  let idle ← datetimeAdd now (seconds idleTtlSeconds)
  .ok { session with
    lastUsedAt := now, expiresAt := min idle ceiling, absoluteExpiresAt := ceiling }

end Session

/-! ## Grants -/

inductive GrantPurpose where
  | invite
  | passwordReset
  deriving DecidableEq

/-- An invite or reset token.  One that names neither an address nor an account
cannot be built. -/
structure Grant where
  grantId : String
  purpose : GrantPurpose
  tokenHash : String
  createdAt : Instant
  expiresAt : Instant
  email : Option String
  accountId : Option String
  redeemedAt : Option Instant
  revoked : Bool
  named : email.isSome || accountId.isSome

namespace Grant

def isRedeemable (grant : Grant) (now : Instant) : Bool :=
  grant.redeemedAt.isNone && !grant.revoked && now < grant.expiresAt

def redeemed (grant : Grant) (now : Instant) : Grant := { grant with redeemedAt := some now }

def revokedNow (grant : Grant) : Grant := { grant with revoked := true }

theorem redeemed_grantId (grant : Grant) (now : Instant) :
    (grant.redeemed now).grantId = grant.grantId := rfl

theorem revokedNow_grantId (grant : Grant) : grant.revokedNow.grantId = grant.grantId := rfl

end Grant

/-! ## The lockout counter -/

section Lockout

variable {account copy : Account} {now : Instant} {lockoutThreshold : Nat}
  {lockoutSeconds : Instant}

/-- The failure that reaches the threshold is recorded when the end of its lock is a
`datetime`, and every earlier one in any case. -/
theorem withFailure_eq_ok :
    account.withFailure now lockoutThreshold lockoutSeconds = .ok copy ↔
      (lockoutThreshold ≤ account.failedAttempts + 1 → Representable (now + lockoutSeconds)) ∧
        copy = { account with
          failedAttempts := account.failedAttempts + 1
          lockedUntil :=
            if lockoutThreshold ≤ account.failedAttempts + 1 then some (now + lockoutSeconds)
            else account.lockedUntil
          updatedAt := now } := by
  by_cases reached : lockoutThreshold ≤ account.failedAttempts + 1
  · by_cases inside : Representable (now + lockoutSeconds)
    · simp [Account.withFailure, datetimeAdd, bind, Except.bind, reached, inside, eq_comm]
    · simp [Account.withFailure, datetimeAdd, bind, Except.bind, reached, inside]
  · simp [Account.withFailure, reached, eq_comm]

theorem withFailure_error {e : Error}
    (raised : account.withFailure now lockoutThreshold lockoutSeconds = .error e) :
    lockoutThreshold ≤ account.failedAttempts + 1 ∧ ¬ Representable (now + lockoutSeconds) ∧
      ∃ message, e = .overflow message := by
  by_cases reached : lockoutThreshold ≤ account.failedAttempts + 1
  · by_cases inside : Representable (now + lockoutSeconds)
    · simp [Account.withFailure, datetimeAdd, bind, Except.bind, reached, inside] at raised
    · simp [Account.withFailure, datetimeAdd, bind, Except.bind, reached, inside] at raised
      exact ⟨reached, inside, _, raised.symm⟩
  · simp [Account.withFailure, reached] at raised

section Recorded

variable (recorded : account.withFailure now lockoutThreshold lockoutSeconds = .ok copy)

include recorded

theorem withFailure_failedAttempts : copy.failedAttempts = account.failedAttempts + 1 := by
  rw [(withFailure_eq_ok.mp recorded).2]

theorem withFailure_accountId : copy.accountId = account.accountId := by
  rw [(withFailure_eq_ok.mp recorded).2]

theorem withFailure_passwordHash : copy.passwordHash = account.passwordHash := by
  rw [(withFailure_eq_ok.mp recorded).2]

theorem withFailure_roles : copy.roles = account.roles := by
  rw [(withFailure_eq_ok.mp recorded).2]

end Recorded

@[simp] theorem withSuccess_accountId : account.withSuccess.accountId = account.accountId := rfl

@[simp] theorem withSuccess_passwordHash :
    account.withSuccess.passwordHash = account.passwordHash := rfl

@[simp] theorem withSuccess_roles : account.withSuccess.roles = account.roles := rfl

@[simp] theorem withSuccess_status : account.withSuccess.status = account.status := rfl

end Lockout

/-! ## The idle window -/

theorem touched_eq_ok {session copy : Session} {now : Instant} {idle : Int} :
    session.touched now idle none = .ok copy ↔
      Representable (now + seconds idle) ∧
        copy = { session with
          lastUsedAt := now
          expiresAt := min (now + seconds idle) session.absoluteExpiresAt } := by
  by_cases inside : Representable (now + seconds idle)
  · simp [Session.touched, datetimeAdd, bind, Except.bind, inside, eq_comm]
  · simp [Session.touched, datetimeAdd, bind, Except.bind, inside]

theorem touched_outside {session : Session} {now : Instant} {idle : Int}
    (outside : ¬ Representable (now + seconds idle)) :
    ∃ message, session.touched now idle none = .error (.overflow message) := by
  refine ⟨"date value out of range", ?_⟩
  rw [Session.touched, datetimeAdd, if_neg outside]
  rfl

end Keyring

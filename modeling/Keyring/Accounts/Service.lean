import Keyring.World

/-!
# Everything that happens to an account

The requests of the account service, as programs over the store calls they
make.  An account that is read in one step and saved in a later one is the copy
the program holds: what others wrote in between, the save does not see.
-/

set_option autoImplicit false

namespace Keyring

open Interleave

def badCredentials : String := "email or password is incorrect"
def badGrant : String := "this link is invalid or has expired"
def scopeLogin : String := "login"
def scopeReset : String := "reset"
def scopeInvite : String := "invite"
def scopeResetRecipient : String := "reset-recipient"

structure IssuedGrant where
  grantId : String
  token : String
  expiresAt : Instant

structure LoginResult where
  sessionId : String
  accountId : String
  token : String
  expiresAt : Instant

structure SweepResult where
  sessions : Nat
  grants : Nat
  rateLimitRecords : Nat

/-- `RateLimiter.check` -/
def checkLimit {env : Env} (scope caller : String) (limit : Nat) (width : Instant) :
    Service env Unit := do
  let now ← clockMonotonic
  match ← ask (.record scope caller now limit width) with
  | none => pure ()
  | some retryAfter =>
      throw (.rateLimited s!"too many {scope} attempts; try again later" retryAfter)

def resetLimit {env : Env} (scope caller : String) : Service env Unit :=
  ask (.reset scope caller)

namespace AccountService

variable (env : Env)

/-! ## Shared -/

def findForLogin (email : String) : Service env (Option Account) :=
  match normalizeEmail env.text email with
  | .error _ => pure none
  | .ok address => accountStore (.getByEmail address)

/-- Whether this address may be mailed again inside the window. -/
def mayMail (address : String) : Service env Bool :=
  tryCatchThe Error
    (do
      checkLimit scopeResetRecipient (env.hashToken address)
        env.settings.maxMessagesPerAddressPerWindow env.settings.emailWindowSeconds
      pure true)
    fun
      | .rateLimited _ _ => pure false
      | e => throw e

/-- Whom a minted grant names. -/
inductive Named where
  | email (address : String)
  | account (accountId : String)

def mintGrant (purpose : GrantPurpose) (ttlSeconds : Int) (named : Named) :
    Service env IssuedGrant := do
  let now ← clockNow
  let token ← draw
  let hex ← draw
  let expiresAt ← Prog.ofExcept (datetimeAdd now (seconds ttlSeconds))
  let grant : Grant := {
    grantId := grantIdPrefix ++ hex
    purpose := purpose
    tokenHash := env.hashToken token
    createdAt := now
    expiresAt := expiresAt
    email := match named with | .email address => some address | .account _ => none
    accountId := match named with | .email _ => none | .account accountId => some accountId
    redeemedAt := none
    revoked := false
    named := by cases named <;> rfl }
  grantStore (.add grant)
  pure ⟨grant.grantId, token, grant.expiresAt⟩

/-- Consume a token, or raise the one indistinguishable error.  The purpose is
checked after the redemption. -/
def redeem (token : String) (purpose : GrantPurpose) : Service env Grant := do
  let now ← clockNow
  match ← grantStore (.redeem (env.hashToken token) now) with
  | none => throw (.invalidGrant badGrant)
  | some grant =>
      refuseIf (grant.purpose ≠ purpose) (.invalidGrant badGrant)
      pure grant

/-- Store a new password and invalidate everything the old one authorised. -/
def setPassword (account : Account) (newPassword : String) (keepSessionId : Option String) :
    Service env Unit := do
  Prog.ofExcept (checkPasswordPolicy newPassword)
  let now ← clockNow
  let salt ← draw
  accountStore (.save { account with
    passwordHash := env.hasher.hash newPassword salt
    failedAttempts := 0
    lockedUntil := none
    updatedAt := now })
  let _ ← sessionStore (.revokeAll account.accountId keepSessionId)
  let _ ← grantStore (.revokeAllForAccount account.accountId .passwordReset)

/-! ## Invites -/

def issueInvite (email : String) : Service env IssuedGrant := do
  let address ← Prog.ofExcept (normalizeEmail env.text email)
  let existing ← accountStore (.getByEmail address)
  refuseIf existing.isSome
    (.accountExists s!"an account already exists for {repr env.text address}")
  mintGrant env .invite env.settings.inviteTtlSeconds (.email address)

def redeemInvite (token password caller : String) : Service env Account := do
  checkLimit scopeInvite caller env.settings.inviteAttempts env.settings.inviteWindowSeconds
  Prog.ofExcept (checkPasswordPolicy password)
  let grant ← redeem env token .invite
  match grant.email with
  | none => throw (.invalidGrant badGrant)
  | some email =>
      let now ← clockNow
      let first := (← accountStore .count) = 0
      let hex ← draw
      let salt ← draw
      let account : Account := {
        accountId := accountIdPrefix ++ hex
        email := email
        passwordHash := env.hasher.hash password salt
        createdAt := now
        updatedAt := now
        status := .active
        failedAttempts := 0
        lockedUntil := none
        roles := if first then [OWNER] else [defaultRole] }
      accountStore (.add account)
      resetLimit scopeInvite caller
      pure account

/-! ## Login -/

/-- The guard of `login` and `confirm_password` before the password counts. -/
def notAuthenticable (account : Account) (now : Instant) : Bool :=
  account.isLocked now || account.status ≠ .active

/-- The copy that a wrong password saves. -/
def failed (account : Account) (now : Instant) : Except Error Account :=
  account.withFailure now env.settings.lockoutThreshold env.settings.lockoutSeconds

/-- Count the wrong password and refuse. -/
def rejectPassword {α : Type} (account : Account) (now : Instant) : Service env α := do
  let copy ← Prog.ofExcept (failed env account now)
  accountStore (.save copy)
  throw (.authentication badCredentials)

/-- The copy with its hash made anew, when the hasher asks for that. -/
def upgradeHash (account : Account) (password : String) (now : Instant) : Service env Account :=
  if env.hasher.needsRehash account.passwordHash then do
    let salt ← draw
    pure { account with passwordHash := env.hasher.hash password salt, updatedAt := now }
  else pure account

def acceptLogin (account : Account) (password : String) (now : Instant) :
    Service env Account := do
  let account ← upgradeHash env account.withSuccess password now
  accountStore (.save account)
  pure account

def openSession (account : Account) (now : Instant) : Service env LoginResult := do
  let prefs ← preferencesFor account.accountId
  let token ← draw
  let hex ← draw
  let expiresAt ← Prog.ofExcept (datetimeAdd now (seconds prefs.sessionTtlSeconds))
  let absoluteExpiresAt ←
    Prog.ofExcept (datetimeAdd now (seconds prefs.sessionAbsoluteTtlSeconds))
  let session : Session := {
    sessionId := sessionIdPrefix ++ hex
    accountId := account.accountId
    tokenHash := env.hashToken token
    createdAt := now
    lastUsedAt := now
    expiresAt := expiresAt
    absoluteExpiresAt := absoluteExpiresAt
    idleTtlSeconds := some prefs.sessionTtlSeconds }
  let _ ← sessionStore (.addWithinCap session prefs.maxSessions)
  pure ⟨session.sessionId, account.accountId, token, session.expiresAt⟩

/-- `login` once the account is found. -/
def authenticate (account : Account) (password caller : String) : Service env LoginResult := do
  let now ← clockNow
  refuseIf (notAuthenticable account now) (.authentication badCredentials)
  if env.hasher.verify account.passwordHash password then do
    let account ← acceptLogin env account password now
    resetLimit scopeLogin caller
    openSession env account now
  else rejectPassword env account now

def login (email password caller : String) : Service env LoginResult := do
  checkLimit scopeLogin caller env.settings.loginAttempts env.settings.loginWindowSeconds
  match ← findForLogin env email with
  | none => throw (.authentication badCredentials)
  | some account => authenticate env account password caller

/-! ## Sessions -/

def resolveSession (token : String) : Service env Session := do
  let now ← clockNow
  match ← sessionStore (.getByTokenHash (env.hashToken token) now) with
  | none => throw (.authentication badCredentials)
  | some session =>
      match ← accountStore (.get session.accountId) with
      | none => throw (.authentication badCredentials)
      | some account =>
          refuseIf (account.status ≠ .active) (.authentication badCredentials)
          let now ← clockNow
          let refreshed ← Prog.ofExcept (session.touched now
            (session.idleTtlSeconds.getD env.settings.sessionTtlSeconds) none)
          sessionStore (.save refreshed)
          pure refreshed

def logout (sessionId : String) : Service env Bool := sessionStore (.revoke sessionId)

def logoutEverywhere (accountId : String) : Service env Nat :=
  sessionStore (.revokeAll accountId none)

def setStatus (accountId : String) (status : AccountStatus) : Service env Unit := do
  match ← accountStore (.get accountId) with
  | none => pure ()
  | some account =>
      let now ← clockNow
      accountStore (.save { account with status := status, updatedAt := now })

/-! ## Passwords -/

def changePassword (accountId currentPassword newPassword : String)
    (keepSessionId : Option String) : Service env Unit := do
  match ← accountStore (.get accountId) with
  | none => throw (.authentication badCredentials)
  | some account =>
      refuseIf (env.hasher.verify account.passwordHash currentPassword = false)
        (.authentication badCredentials)
      setPassword env account newPassword keepSessionId

/-- `confirm_password` once the account is found. -/
def confirm (account : Account) (password : String) : Service env Unit := do
  let now ← clockNow
  refuseIf (notAuthenticable account now) (.authentication badCredentials)
  if env.hasher.verify account.passwordHash password then
    if account.failedAttempts = 0 then pure () else accountStore (.save account.withSuccess)
  else rejectPassword env account now

def confirmPassword (accountId password : String) : Service env Unit := do
  match ← accountStore (.get accountId) with
  | none => throw (.authentication badCredentials)
  | some account => confirm env account password

def requestPasswordReset (email caller : String) : Service env (Option IssuedGrant) := do
  checkLimit scopeReset caller env.settings.resetAttempts env.settings.resetWindowSeconds
  match ← findForLogin env email with
  | none => pure none
  | some account =>
      let allowed ← mayMail env account.email
      if allowed then do
        let _ ← grantStore (.revokeAllForAccount account.accountId .passwordReset)
        let grant ← mintGrant env .passwordReset env.settings.resetTtlSeconds
          (.account account.accountId)
        pure (some grant)
      else pure none

def issueResetFor (account : Account) : Service env IssuedGrant := do
  let allowed ← mayMail env account.email
  refuseIf (allowed = false) (.rateLimited
    "that address has been sent too many messages recently" env.settings.emailWindowSeconds)
  let _ ← grantStore (.revokeAllForAccount account.accountId .passwordReset)
  mintGrant env .passwordReset env.settings.resetTtlSeconds (.account account.accountId)

/-- The account a grant names, if it names one that is there. -/
def grantee (grant : Grant) : Service env (Option Account) :=
  match grant.accountId with
  | none => pure none
  | some accountId => accountStore (.get accountId)

def redeemPasswordReset (token newPassword caller : String) : Service env Account := do
  checkLimit scopeReset caller env.settings.resetAttempts env.settings.resetWindowSeconds
  Prog.ofExcept (checkPasswordPolicy newPassword)
  let grant ← redeem env token .passwordReset
  match ← grantee env grant with
  | none => throw (.invalidGrant badGrant)
  | some account =>
      setPassword env account newPassword none
      pure account

/-! ## Deletion and retention -/

def deleteAccount (accountId : String) : Service env Bool := accountStore (.delete accountId)

def sweepOnce : Service env SweepResult := do
  let width := max (max env.settings.loginWindowSeconds env.settings.resetWindowSeconds)
    env.settings.inviteWindowSeconds
  let now ← clockNow
  let expired ← sessionStore (.purgeExpired now)
  let now ← clockNow
  let spent ← grantStore (.purgeExpired now)
  let now ← clockMonotonic
  let records ← ask (.purgeAttempts (env.floats.sub now width))
  pure ⟨expired, spent, records⟩

end AccountService

end Keyring

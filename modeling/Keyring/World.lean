import Keyring.Accounts.RateLimit
import Keyring.Accounts.SqlRoles
import Keyring.Interleave.Logic
import Keyring.Profiles.SqlStore
import Keyring.Secrets.Sql

/-!
# The running service

`World` is everything that requests share, and `Op` what one of them can do in
one indivisible step: a transaction of a store, a reading of a clock, one answer
from outside.  Requests are programs over these steps, so that between any two
of them another request may run.
-/

set_option autoImplicit false

namespace Keyring

open Interleave Relational

/-! ## Configuration -/

/-- The modelled part of the configuration.  Durations that may be fractional
are instants, the others are whole seconds; a positive fraction of a microsecond
rounds to none.  The windows are counted as the readings of the monotonic clock
are, in the unit of the floats. -/
structure Settings where
  sessionTtlSeconds : Int
  sessionAbsoluteTtlSeconds : Int
  inviteTtlSeconds : Int
  resetTtlSeconds : Int
  maxSessionsPerAccount : Nat
  lockoutThreshold : Nat
  lockoutSeconds : Instant
  loginAttempts : Nat
  loginWindowSeconds : Instant
  resetAttempts : Nat
  resetWindowSeconds : Instant
  inviteAttempts : Nat
  inviteWindowSeconds : Instant
  maxMessagesPerAddressPerWindow : Nat
  emailWindowSeconds : Instant
  oauthStateTtlSeconds : Int
  oauthRefreshMarginSeconds : Int
  maxProfilesPerAccount : Nat
  maxConnectionsPerProfile : Nat
  issuer : String
  accessTokenTtlSeconds : Int
  oauthRedirectUri : String
  exchangeAudiences : List (String × List String)
  offlineGrantMaxTtlSeconds : Int
  maxOfflineGrantsPerProfile : Nat
  lockout_pos : 0 < lockoutThreshold ∧ 0 ≤ lockoutSeconds
  ttls_pos : 0 < sessionTtlSeconds ∧ 0 < inviteTtlSeconds ∧ 0 < resetTtlSeconds ∧
    0 < oauthStateTtlSeconds ∧ 0 < oauthRefreshMarginSeconds
  absolute_ge : sessionTtlSeconds ≤ sessionAbsoluteTtlSeconds
  attempts_pos : 0 < loginAttempts ∧ 0 < resetAttempts ∧ 0 < inviteAttempts ∧
    0 < maxMessagesPerAddressPerWindow
  windows_pos : 0 < loginWindowSeconds ∧ 0 < resetWindowSeconds ∧ 0 < inviteWindowSeconds ∧
    0 < emailWindowSeconds
  caps_pos : 0 < maxSessionsPerAccount ∧ 0 < maxProfilesPerAccount ∧ 0 < maxConnectionsPerProfile
  delegation_pos : 0 < offlineGrantMaxTtlSeconds ∧ 0 < maxOfflineGrantsPerProfile
  access_gt : oauthRefreshMarginSeconds < accessTokenTtlSeconds

structure PasswordHasher where
  hash : (password salt : String) → String
  verify : (storedHash password : String) → Bool
  needsRehash : String → Bool

structure OAuthProvider where
  service : String
  authorizationUrl : (redirectUri state : String) → String
  clientId : String
  clientSecret : String
  scopes : List String

/-- The claims of an access token; the times are whole seconds since the epoch. -/
structure TokenClaims where
  iss : String
  sub : String
  aud : String
  iat : Int
  exp : Int
  deriving DecidableEq

/-- Signing under the service's own key.  `decode` answers the claims of a token
whose signature and required claims the library accepts. -/
structure Jwt where
  encode : TokenClaims → String
  decode : String → Option TokenClaims

/-- What the credential kinds compute from a stored secret: `str.format` with the
one field `value`, and the code of a TOTP seed, where these raise nothing. -/
structure Rendering where
  format : (template value : String) → Option String
  totpCode : (seed : String) → (unixTime : Instant) → Option String

/-- What a process is configured with, and the libraries it calls. -/
structure Env where
  text : Text
  settings : Settings
  hasher : PasswordHasher
  jwt : Jwt
  rendering : Rendering
  hashToken : String → String
  master : Option String
  floats : Rounding
  /-- How deeply the containers of a JSON text may be nested for the interpreter. -/
  jsonNesting : Nat
  providers : List OAuthProvider
  maxAuditEntries : Nat

structure Preferences where
  sessionTtlSeconds : Int
  sessionAbsoluteTtlSeconds : Int
  maxSessions : Nat
  emailNotifications : Bool := true
  notifyOnNewSession : Bool := false
  notifyOnCredentialChange : Bool := false
  requireReauthForCredentialChanges : Option Bool := some false
  deriving DecidableEq

def Preferences.announcesCredentialChanges (preferences : Preferences) : Bool :=
  preferences.emailNotifications && preferences.notifyOnCredentialChange

/-- An answer of a token endpoint, with the value that its body writes; `body` is `none` when
it is not JSON. -/
inductive Response where
  | unreachable
  | answered (status : Nat) (body : Option Json)

/-! ## Shared state -/

structure FlowRow where
  stateHash : String
  flow : OAuthFlow

def FlowRow.set (row : FlowRow) (flow : OAuthFlow) : FlowRow := { row with flow := flow }

theorem FlowRow.set_stateHash (row : FlowRow) (flow : OAuthFlow) :
    (row.set flow).stateHash = row.stateHash := rfl

structure World where
  db : Db
  /-- The last reading of the clock, and of the monotonic one. -/
  clock : Instant
  monotonic : Instant
  attempts : Attempts
  flows : Table FlowRow.stateHash
  /-- The grants whose renewal lock is held. -/
  renewing : List Triple

/-- What an indivisible step takes from outside. -/
structure Input where
  now : Instant
  monotonic : Instant
  drawn : String
  entropy : Entropy
  preferences : Except String Preferences
  response : Response

inductive Op where
  | accounts (o : AccountOp)
  | sessions (o : SessionOp)
  | grants (o : GrantOp)
  | roles (o : RoleOp)
  | profiles (o : ProfileOp)
  | secrets (o : SecretOp)
  | delegations (o : DelegationOp)
  | audit (o : AuditOp)
  | now
  | monotonic
  | draw
  | urandom
  | record (scope caller : String) (now : Instant) (limit : Nat) (width : Instant)
  | reset (scope caller : String)
  | purgeAttempts (cutoff : Instant)
  | preferences (accountId : String)
  | post (service : String) (form : List (String × String))
  | issueState (stateHash : String) (flow : OAuthFlow)
  | redeemState (stateHash : String)
  | purgeStates (now : Instant)
  | acquire (key : Triple)
  | release (key : Triple)

@[reducible] def Op.Ans : Op → Type
  | accounts o => Except Error o.Ans
  | sessions o => Except Error o.Ans
  | grants o => Except Error o.Ans
  | roles o => Except Error o.Ans
  | profiles o => Except Error o.Ans
  | secrets o => Except Error o.Ans
  | delegations o => Except Error o.Ans
  | audit o => Except Error o.Ans
  | now | monotonic => Instant
  | draw => String
  | urandom => Entropy
  | record _ _ _ _ _ => Option Instant
  | reset _ _ | issueState _ _ | acquire _ | release _ => Unit
  | purgeAttempts _ | purgeStates _ => Nat
  | preferences _ => Except String Preferences
  | post _ _ => Response
  | redeemState _ => Option OAuthFlow

/-- One transaction on the shared database. -/
def onDb {α : Type} (work : Transaction α) (w : World) : Option (Except Error α × World) :=
  some ((transact work w.db).1, { w with db := (transact work w.db).2 })

theorem onDb_eq {α : Type} {work : Transaction α} {w w' : World} {a : Except Error α} :
    onDb work w = some (a, w') ↔
      transact work w.db = (a, w'.db) ∧ w' = { w with db := w'.db } := by
  constructor
  · intro done
    cases done
    exact ⟨rfl, rfl⟩
  · rintro ⟨done, frame⟩
    rw [frame, onDb, done]

/-- What one step does.  A clock may show anything, and a lock that is held
cannot be acquired. -/
def exec (env : Env) : (o : Op) → Input → World → Option (o.Ans × World)
  | .accounts o, _, w => onDb (o.run env.text) w
  | .sessions o, _, w => onDb o.run w
  | .grants o, _, w => onDb o.run w
  | .roles o, _, w => onDb (o.run env.text) w
  | .profiles o, _, w => onDb (o.run env.text) w
  | .secrets o, _, w => onDb o.run w
  | .delegations o, _, w => onDb o.run w
  | .audit o, _, w => onDb (o.run env.maxAuditEntries) w
  | .now, x, w => some (x.now, { w with clock := x.now })
  | .monotonic, x, w => some (x.monotonic, { w with monotonic := x.monotonic })
  | .draw, x, w => some (x.drawn, w)
  | .urandom, x, w => some (x.entropy, w)
  | .record scope caller now limit width, _, w =>
      let recorded := w.attempts.record env.floats scope caller now limit width
      some (recorded.1, { w with attempts := recorded.2 })
  | .reset scope caller, _, w => some ((), { w with attempts := w.attempts.reset scope caller })
  | .purgeAttempts cutoff, _, w =>
      let purged := w.attempts.purgeExpired cutoff
      some (purged.1, { w with attempts := purged.2 })
  | .preferences _, x, w => some (x.preferences, w)
  | .post _ _, x, w => some (x.response, w)
  | .issueState stateHash flow, _, w =>
      some ((), { w with
        flows := w.flows.upsert ⟨stateHash, flow⟩ (·.set flow) (·.set_stateHash flow) })
  | .redeemState stateHash, _, w =>
      some ((w.flows.find? stateHash).map (·.flow),
        { w with flows := w.flows.deleteWhere (·.stateHash = stateHash) })
  | .purgeStates now, _, w =>
      some (w.flows.countWhere fun row => !row.flow.isLive now,
        { w with flows := w.flows.deleteWhere fun row => !row.flow.isLive now })
  | .acquire key, _, w =>
      if key ∈ w.renewing then none else some ((), { w with renewing := key :: w.renewing })
  | .release key, _, w => some ((), { w with renewing := w.renewing.erase key })

@[reducible] def machine (env : Env) : Machine where
  State := World
  Op := Op
  Ans := Op.Ans
  Input := Input
  exec := exec env

/-- A request, or a part of one: it raises an `Error` or returns. -/
abbrev Service (env : Env) := Prog (machine env) Error

/-! ## Calling a store -/

section Calls

variable {env : Env}

def ask (o : Op) : Service env o.Ans := @Prog.perform (machine env) Error o

def accountStore (o : AccountOp) : Service env o.Ans := do
  Prog.ofExcept (← ask (Op.accounts o))

def sessionStore (o : SessionOp) : Service env o.Ans := do
  Prog.ofExcept (← ask (Op.sessions o))

def grantStore (o : GrantOp) : Service env o.Ans := do
  Prog.ofExcept (← ask (Op.grants o))

def roleStore (o : RoleOp) : Service env o.Ans := do
  Prog.ofExcept (← ask (Op.roles o))

def profileStore (o : ProfileOp) : Service env o.Ans := do
  Prog.ofExcept (← ask (Op.profiles o))

def secretStore (o : SecretOp) : Service env o.Ans := do
  Prog.ofExcept (← ask (Op.secrets o))

def auditLog (o : AuditOp) : Service env o.Ans := do
  Prog.ofExcept (← ask (Op.audit o))

def clockNow : Service env Instant := ask Op.now

def clockMonotonic : Service env Instant := ask Op.monotonic

def draw : Service env String := ask Op.draw

/-- `if c: raise e` -/
def refuseIf (c : Prop) [Decidable c] (e : Error) : Service env Unit :=
  if c then throw e else pure ()

/-- `preferences.for_account`. -/
def preferencesFor (accountId : String) : Service env Preferences := do
  let answered ← ask (Op.preferences accountId)
  match answered with
  | .ok preferences => pure preferences
  | .error message => throw (.preferencesUnavailable message)

end Calls

end Keyring

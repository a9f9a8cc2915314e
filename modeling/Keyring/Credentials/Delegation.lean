import Keyring.Accounts.Signing
import Keyring.Profiles.SqlStoreSpec

/-!
# Delegation

A service exchanges a user's token, or an offline grant it was given, for a
fresh token of one audience.  The allowlist is checked on each exchange, and the
account behind the authority is read before anything is minted.
-/

set_option autoImplicit false

namespace Keyring

open Interleave

def badDelegation : String := "the delegation was not accepted"
def noSuchOfflineGrant : String := "no offline grant with that id"
def offlineGrantIdPrefix : String := "dgt_"

structure ExchangedToken where
  token : String
  expiresIn : Int
  expiresAt : Instant
  deriving DecidableEq

/-- `tuple(sorted(set(names)))` -/
def sortedSet (names : List String) : List String :=
  (dictFromKeys names).insertionSort (· ≤ ·)

def delegationStore {env : Env} (o : DelegationOp) : Service env o.Ans := do
  Prog.ofExcept (← ask (Op.delegations o))

namespace DelegationService

variable (env : Env)

def allow (service : String) (audiences : List String) : Except Error Unit :=
  let allowed := (env.settings.exchangeAudiences.lookup service).getD []
  if audiences.isEmpty || !audiences.all (allowed.contains ·) then
    .error (.insufficientPermission "the service may not exchange for that audience")
  else .ok ()

def requireProfile (accountId profile : String) : Service env Unit := do
  match ← profileStore (.get accountId profile) with
  | none => throw (.profileNotFound "no profile of that name")
  | some _ => pure ()

def record (action : AuditAction) (actorId : String) (targetId : Option String)
    (detail : String) : Service env Unit := do
  let entryId ← draw
  let now ← clockNow
  auditLog (.record {
    entryId := entryId
    at_ := now
    action := action
    actorId := actorId
    targetId := targetId
    detail := detail })

def create (accountId profile service : String) (audiences : List String) (ttlSeconds : Int)
    (createdBy : Option String) : Service env OfflineGrant := do
  requireProfile env accountId profile
  Prog.ofExcept (allow env service audiences)
  let now ← clockNow
  let drawn ← draw
  let grant : OfflineGrant := {
    grantId := offlineGrantIdPrefix ++ drawn
    accountId := accountId
    profile := profile
    service := service
    audiences := sortedSet audiences
    createdAt := now
    expiresAt := now + seconds (min ttlSeconds env.settings.offlineGrantMaxTtlSeconds)
    revokedAt := none }
  delegationStore (.add grant env.settings.maxOfflineGrantsPerProfile now)
  record env .delegationCreated accountId (some accountId)
    (s!"offline grant {grant.grantId}" ++
      match createdBy with
      | some creator => s!" created by {creator}"
      | none => "")
  pure grant

def listGrants (accountId profile : String) : Service env (List OfflineGrant) := do
  requireProfile env accountId profile
  delegationStore (.listForProfile accountId profile)

/-- Stop a grant, or say that there is none. -/
def withdraw (accountId profile grantId detail : String) : Service env Unit := do
  let now ← clockNow
  let revoked ← delegationStore (.revoke accountId profile grantId now)
  refuseIf (revoked = false) (.profileNotFound noSuchOfflineGrant)
  record env .delegationRevoked accountId (some accountId) detail

def revoke (accountId profile grantId : String) : Service env Unit := do
  requireProfile env accountId profile
  withdraw env accountId profile grantId s!"offline grant {grantId}"

/-- A service may withdraw only consent that was given to it. -/
def revokeForService (accountId profile grantId service : String) : Service env Unit := do
  requireProfile env accountId profile
  let grants : List OfflineGrant ← delegationStore (.listForProfile accountId profile)
  refuseIf (grants.all fun grant => grant.grantId ≠ grantId || grant.service ≠ service)
    (.profileNotFound noSuchOfflineGrant)
  withdraw env accountId profile grantId s!"offline grant {grantId} revoked by {service}"

/-- Whom the presented authority names, and until when: a user token made for
this very service, or an offline grant that it holds. -/
def authority (service audience : String) (userToken grantId : Option String) :
    Service env (String × Instant) := do
  match userToken with
  | some token => do
      let claims ← TokenSigner.verifyAccess env token service
      pure (claims.accountId, claims.expiresAt)
  | none => do
      match ← delegationStore (.forExchange (grantId.getD "None") service) with
      | none => throw (.authentication badDelegation)
      | some grant =>
          refuseIf (grant.revokedAt.isSome ∨ audience ∉ grant.audiences)
            (.authentication badDelegation)
          pure (grant.accountId, grant.expiresAt)

/-- `exchange` once the account is found active. -/
def mint (service audience accountId : String) (deadline : Instant) (ttlSeconds : Int)
    (grantId : Option String) : Service env ExchangedToken := do
  let now ← clockNow
  let ttl := min (min ttlSeconds env.settings.accessTokenTtlSeconds) (wholeSeconds (deadline - now))
  refuseIf (ttl ≤ 0) (.authentication badDelegation)
  let token ← TokenSigner.issue env accountId audience ttl
  -- an empty handle is reported as none at all
  let held := if (grantId.getD "").isEmpty then "foreground" else grantId.getD ""
  record env .tokenExchanged s!"service:{service}" (some accountId)
    s!"audience {audience}; grant {held}"
  let expires ← Prog.ofExcept (datetimeAdd now (seconds ttl))
  pure ⟨token, ttl, withoutMicroseconds expires⟩

def exchange (service audience : String) (ttlSeconds : Int) (userToken grantId : Option String) :
    Service env ExchangedToken := do
  refuseIf (userToken.isNone = grantId.isNone) (.authentication badDelegation)
  Prog.ofExcept (allow env service [audience])
  let (accountId, deadline) ← authority env service audience userToken grantId
  match ← accountStore (.get accountId) with
  | none => throw (.authentication badDelegation)
  | some account =>
      refuseIf (account.status ≠ .active) (.authentication badDelegation)
      mint env service audience accountId deadline ttlSeconds grantId

end DelegationService

end Keyring

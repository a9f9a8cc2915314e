import Keyring.Credentials.OAuthClient

/-!
# Profiles, and the credentials inside them

The requests of the credential service.  A connection and its secret are
written by two transactions, the connection first; removing them goes the other
way round.  A refresh holds the profile it read before the network round trip.
-/

set_option autoImplicit false

namespace Keyring

open Interleave

def noSuchProfile : String := "no profile by that name"
def noSuchConnection : String := "this profile is not connected to that service"
def unknownProvider : String := "no OAuth provider is configured for that service"
def profileWentAway : String := "the profile this authorization was for no longer exists"

structure Authorization where
  authorizationUrl : String
  expiresAt : Instant

/-- `str.split()` -/
def splitWhitespace (s : String) : List String :=
  ((s.toList.splitOnP isSpace).filter (· ≠ [])).map String.ofList

/-- What the provider granted, which is not always what was asked for. -/
def grantedScopes (secret : Secret) (provider : OAuthProvider) : List String :=
  match secret.get "scope" with
  | some (.str granted) => if granted.isEmpty then provider.scopes else splitWhitespace granted
  | _ => provider.scopes

/-- The seconds of a stored `expires_in`, when it is an `int`. -/
def expirySeconds (secret : Secret) : Option Int :=
  match secret.get "expires_in" with
  | some (.int n) => some n
  | some (.bool b) => some (if b then 1 else 0)
  | _ => none

/-- `now + timedelta(seconds=...)`, which raises past the last instant. -/
def expiryInstant (secret : Secret) (now : Instant) : Except Error (Option Instant) :=
  match expirySeconds secret with
  | none => .ok none
  | some n =>
      if now + seconds n > maxInstant then .error (.overflow "date value out of range")
      else .ok (some (now + seconds n))

/-- A credential that can be attached to an HTTP request. -/
inductive HttpAuth where
  | apiKey (secret : Secret)
  | oauth2 (profile : Profile) (connection : Connection) (secret : Secret) (needsRefresh : Bool)

/-- `_require`: a stored field that must be a non-empty string. -/
def requireField (text : Text) (secret : Secret) (field : String) : Except Error String :=
  match secret.get field with
  | some (.str value) =>
      if value.isEmpty then
        .error (.credentialUnavailable s!"stored credential is missing {repr text field}")
      else .ok value
  | _ => .error (.credentialUnavailable s!"stored credential is missing {repr text field}")

/-- The header of an OAuth credential whose secret needs no refresh. -/
def bearerHeader (text : Text) (secret : Secret) : Except Error (List (String × String)) :=
  match (secret.get "token_type").getD (.str "Bearer") with
  | .str tokenType => do
      let accessToken ← requireField text secret "access_token"
      .ok [("Authorization", s!"{tokenType} {accessToken}")]
  | _ => .error (.credentialUnavailable "stored credential has a malformed token type")

/-! ## The vault -/

section Vault

variable (env : Env)

def requireUnsealed : Except Error Unit :=
  if env.master.isNone then .error (.vaultSealed sealedMessage) else .ok ()

def getSecret (accountId profile service : String) : Service env (Option Secret) := do
  let master ← Prog.ofExcept (requireMaster env.master)
  match ← secretStore (.get accountId profile service) with
  | none => pure none
  | some envelope =>
      let secret ← Prog.ofExcept (openEnvelope envelope master)
      pure (some secret)

def putSecret (accountId profile service : String) (secret : Secret) : Service env Unit := do
  let master ← Prog.ofExcept (requireMaster env.master)
  let entropy ← ask .urandom
  let now ← clockNow
  secretStore (.put accountId profile service (sealSecret secret master entropy) now)

end Vault

namespace CredentialService

variable (env : Env)

/-! ## Internals -/

def providerFor (service : String) : Except Error OAuthProvider :=
  match env.providers.find? (·.service = service) with
  | some provider => .ok provider
  | none => .error (.credentialUnavailable s!"{unknownProvider}: {service}")

/-- Write one connection; a vanished profile is reported as a missing connection. -/
def putConnection (profile : Profile) (connection : Connection) (now : Instant) :
    Service env Connection :=
  tryCatchThe Error
    (profileStore (.putConnection profile.accountId profile.name connection
      env.settings.maxConnectionsPerProfile now))
    fun
      | .profileNotFound _ => throw (.connectionNotFound profileWentAway)
      | e => throw e

def getProfile (accountId name : String) : Service env Profile := do
  let normalized ← Prog.ofExcept (normalizeProfileName env.text name)
  match ← profileStore (.get accountId normalized) with
  | none => throw (.profileNotFound noSuchProfile)
  | some profile => pure profile

/-- Persist a token pair and mark the connection active. -/
def storeOauthSecret (profile : Profile) (service : String) (secret : Secret)
    (provider : OAuthProvider) : Service env Connection := do
  Prog.ofExcept (requireUnsealed env)
  let now ← clockNow
  let expiresAt ← Prog.ofExcept (expiryInstant secret now)
  let connection : Connection := {
    service := service
    kind := .oauth2AuthorizationCode
    status := .active
    createdAt := now
    updatedAt := now
    expiresAt := expiresAt
    scopes := grantedScopes secret provider
    lastError := none }
  let stored ← putConnection env profile connection now
  putSecret env profile.accountId profile.name service secret
  pure stored

/-- Mark a connection as needing attention, keeping its stored credential. -/
def recordFailure (profile : Profile) (connection : Connection) (reason : String) :
    Service env Unit := do
  let now ← clockNow
  let _ ← putConnection env profile (connection.withError reason now) now

def renew (profile : Profile) (connection : Connection) (secret : Secret) :
    Service env Secret := do
  match (secret.get "refresh_token").bind Json.asStr with
  | none | some "" =>
      recordFailure env profile connection "no refresh token was stored"
      throw (.credentialUnavailable (s!"the {connection.service} connection cannot be renewed " ++
        "without anyone present; it must be authorised again"))
  | some refreshToken =>
      let provider ← Prog.ofExcept (providerFor env connection.service)
      let renewed ← tryCatchThe Error (TokenEndpoint.refresh env provider refreshToken) fun e =>
        if e.isCredentialUnavailable then do
          recordFailure env profile connection e.message
          throw e
        else throw e
      -- a revoke that landed during the refresh removed this connection
      let stillThere ← profileStore (.get profile.accountId profile.name)
      refuseIf (stillThere.bind (·.connection connection.service)).isNone (.connectionNotFound
        s!"the {connection.service} connection was removed while it was being renewed")
      let _ ← storeOauthSecret env profile connection.service renewed provider
      pure renewed

/-- What a caller that holds the renewal lock does. -/
def renewOnce (profile : Profile) (connection : Connection) (secret : Secret) :
    Service env Secret := do
  match ← getSecret env profile.accountId profile.name connection.service with
  | none => renew env profile connection secret
  | some stored =>
      if stored.get "access_token" != secret.get "access_token" then pure stored
      else renew env profile connection secret

def refresh (profile : Profile) (connection : Connection) (secret : Secret) :
    Service env Secret := do
  let key : Triple := (profile.accountId, profile.name, connection.service)
  ask (.acquire key)
  (renewOnce env profile connection secret).finallyDo (.release key)

/-- Find the profile, the connection, and the stored material behind it. -/
def load (accountId profileName serviceName : String) :
    Service env (Profile × Connection × Secret) := do
  let profile ← getProfile env accountId profileName
  let service ← Prog.ofExcept (normalizeServiceName env.text serviceName)
  match profile.connection service with
  | none => throw (.connectionNotFound noSuchConnection)
  | some connection =>
      refuseIf (connection.status = .pending) (.credentialUnavailable
        s!"the {service} connection was never completed; authorize it again")
      match ← getSecret env accountId profile.name service with
      | none =>
          throw (.credentialUnavailable s!"the {service} credential is missing from the vault")
      | some secret => pure (profile, connection, secret)

/-! ## Profiles -/

def createProfile (accountId name : String) : Service env Profile := do
  let normalized ← Prog.ofExcept (normalizeProfileName env.text name)
  let now ← clockNow
  let hex ← draw
  let profile : Profile := {
    profileId := profileIdPrefix ++ hex
    accountId := accountId
    name := normalized
    createdAt := now
    updatedAt := now
    connections := [] }
  profileStore (.add profile env.settings.maxProfilesPerAccount)
  pure profile

def listProfiles (accountId : String) : Service env (List Profile) :=
  profileStore (.listForAccount accountId)

def deleteProfile (accountId name : String) : Service env Bool := do
  let normalized ← Prog.ofExcept (normalizeProfileName env.text name)
  let existed ← profileStore (.delete accountId normalized)
  if existed then do
    let _ ← secretStore (.deleteProfile accountId normalized)
    pure true
  else pure false

/-! ## Storing credentials -/

def putDirectCredential (accountId profileName serviceName : String) (kind : CredentialKind)
    (secret : Secret) (storesTotpSeed : Bool) : Service env Connection := do
  let profile ← getProfile env accountId profileName
  let service ← Prog.ofExcept (normalizeServiceName env.text serviceName)
  Prog.ofExcept (requireUnsealed env)
  let now ← clockNow
  let connection : Connection := {
    service := service
    kind := kind
    status := .active
    createdAt := now
    updatedAt := now
    storesTotpSeed := storesTotpSeed }
  let stored ← putConnection env profile connection now
  putSecret env accountId profile.name service secret
  pure stored

def beginAuthorization (accountId profileName serviceName redirectUri : String) :
    Service env Authorization := do
  let profile ← getProfile env accountId profileName
  let service ← Prog.ofExcept (normalizeServiceName env.text serviceName)
  let provider ← Prog.ofExcept (providerFor env service)
  let state ← draw
  let issued ← clockNow
  ask (.issueState (env.hashToken state)
    { binding := {
        accountId := accountId
        profile := profile.name
        service := service
        kind := .oauth2AuthorizationCode
        redirectUri := redirectUri }
      expiresAt := issued + seconds env.settings.oauthStateTtlSeconds })
  let now ← clockNow
  -- the placeholder only ever stands where there is no working credential
  let pending : Connection := {
    service := service
    kind := .oauth2AuthorizationCode
    status := .pending
    createdAt := now
    updatedAt := now }
  let _ ← (if (profile.connection service).any (·.isUsable now) then pure pending
    else putConnection env profile pending now)
  pure ⟨provider.authorizationUrl redirectUri state,
    now + seconds env.settings.oauthStateTtlSeconds⟩

def redeemAuthorization (state : String) : Service env FlowBinding := do
  let now ← clockNow
  let flow : Option OAuthFlow ← ask (.redeemState (env.hashToken state))
  match flow with
  | some flow =>
      refuseIf (flow.isLive now = false)
        (.invalidOAuthState "this authorization link is invalid or has expired")
      pure flow.binding
  | none => throw (.invalidOAuthState "this authorization link is invalid or has expired")

def finishAuthorization (binding : FlowBinding) (code : String) : Service env Connection := do
  match ← profileStore (.get binding.accountId binding.profile) with
  | none => throw (.invalidOAuthState profileWentAway)
  | some profile =>
      let provider ← Prog.ofExcept (providerFor env binding.service)
      let secret ← TokenEndpoint.exchangeCode env provider code binding.redirectUri
      storeOauthSecret env profile binding.service secret provider

def completeAuthorization (state code : String) : Service env Connection := do
  let binding ← redeemAuthorization env state
  finishAuthorization env binding code

/-! ## Producing and revoking credentials -/

def resolveHttpAuth (accountId profileName serviceName : String) : Service env HttpAuth := do
  let (profile, connection, secret) ← load env accountId profileName serviceName
  match connection.kind with
  | .apiKey => pure (.apiKey secret)
  | .oauth2AuthorizationCode =>
      let now ← clockNow
      pure (.oauth2 profile connection secret
        (connection.needsRefresh now (seconds env.settings.oauthRefreshMarginSeconds)))
  | .password =>
      throw (.credentialUnavailable
        s!"the {connection.service} credential is a form login, not an HTTP credential")

/-- `OAuth2Credential.headers` of what `resolve_http_auth` returned; how an API
key is rendered touches no store. -/
def resolveHeaders (accountId profileName serviceName : String) :
    Service env (List (String × String)) := do
  match ← resolveHttpAuth env accountId profileName serviceName with
  | .apiKey _ => pure []
  | .oauth2 profile connection secret needsRefresh =>
      let current ← (if needsRefresh then refresh env profile connection secret else pure secret)
      Prog.ofExcept (bearerHeader env.text current)

def resolveFormSecrets (accountId profileName serviceName : String) : Service env Secret := do
  let (_, connection, secret) ← load env accountId profileName serviceName
  refuseIf (connection.kind ≠ .password)
    (.credentialUnavailable s!"the {connection.service} credential is not a form login")
  pure secret

def revokeConnection (accountId profileName serviceName : String) : Service env Bool := do
  let profile ← getProfile env accountId profileName
  let service ← Prog.ofExcept (normalizeServiceName env.text serviceName)
  if (profile.connection service).isNone then pure false
  else do
    let _ ← secretStore (.delete accountId profile.name service)
    let now ← clockNow
    let _ ← profileStore (.removeConnection accountId profile.name service now)
    pure true

def sweepOnce : Service env Nat := do
  let now ← clockNow
  ask (.purgeStates now)

end CredentialService

end Keyring

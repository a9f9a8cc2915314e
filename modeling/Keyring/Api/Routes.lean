import Keyring.Api.Actors
import Keyring.Api.Schemas
import Keyring.Api.Services
import Keyring.Scenario

/-!
# The routes

What each route does, once its body has been read: the dependencies that say who is
asking, and then the service that answers.  A route behind a session takes the account
from the session; one that another service calls takes it from the person's token; the
administrative ones ask for an actor.
-/

set_option autoImplicit false

namespace Keyring

open Interleave

/-- What the routes compare credentials with, and whether mail goes anywhere. -/
structure Container where
  adminToken : Option String
  serviceAuthenticator : ServiceAuthenticator
  deliversEmail : Bool

/-! ## Requests -/

/-- A request that takes the session itself. -/
inductive SessionCall where
  | logout
  | changePassword (currentPassword newPassword : String)

/-- A request that takes the account of the session. -/
inductive OwnCall where
  | logoutEverywhere
  | getCurrentAccount
  | issueServiceToken (audience : String)
  | listProfiles
  | createProfile (name : String)
  | getProfile (name : String)
  | deleteProfile (name : String) (currentPassword : Option String)
  | putApiKey (name service apiKey header template : String) (inQuery : Bool) (queryName : String)
      (currentPassword : Option String)
  | putPassword (name service username password : String) (totpSeed : Option String)
      (currentPassword : Option String)
  | authorizeConnection (name service : String) (currentPassword : Option String)
  | deleteConnection (name service : String) (currentPassword : Option String)
  | createOfflineGrant (name service : String) (audiences : List String) (ttlSeconds : Int)
  | listOfflineGrants (name : String)
  | revokeOfflineGrant (name grantId : String)

/-- A request with what it presents: the credentials of its `Authorization` header, and
the header with the person's token. -/
inductive Request where
  | login (email password caller : String)
  | redeemInvite (token password caller : String)
  | requestPasswordReset (email caller : String)
  | redeemPasswordReset (token password caller : String)
  | completeAuthorization (state code : String)
  | checkReadiness
  | session (credentials : Option String) (c : SessionCall)
  | own (credentials : Option String) (c : OwnCall)
  | exchangeUserToken (credentials userToken : Option String) (audience : String)
      (ttlSeconds : Int) (grantId : Option String)
  | internal (credentials userToken : Option String) (c : InternalCall)
  | admin (credentials : Option String) (c : AdminCall)
  | listPermissions (credentials : Option String)

/-! ## Dependencies -/

section Dependencies

variable (env : Env)

def getCurrentSession (credentials : Option String) : Service env Session :=
  match credentials with
  | none => throw (.authentication missingCredentials)
  | some presented => AccountService.resolveSession env presented

def getCurrentAccount (session : Session) : Service env Account := do
  match ← accountStore (.get session.accountId) with
  | none => throw (.authentication missingCredentials)
  | some account => pure account

def callingService (container : Container) (credentials : Option String) : Except Error String :=
  match credentials with
  | none => .error (.authentication badService)
  | some presented => container.serviceAuthenticator.identify (some presented)

end Dependencies

/-! ## Handlers -/

section Handlers

variable (env : Env)

def SessionCall.prog (session : Session) : SessionCall → Service env Reply
  | logout => do
      let _ ← AccountService.logout env session.sessionId
      pure .noContent
  | changePassword currentPassword newPassword => do
      AccountService.changePassword env session.accountId currentPassword newPassword
        (some session.sessionId)
      pure .noContent

def apiKeySecret (apiKey header template : String) (inQuery : Bool) (queryName : String) : Secret :=
  [("api_key", .str apiKey), ("header", .str header), ("template", .str template),
    ("in_query", .bool inQuery), ("query_name", .str queryName)]

/-- An empty seed is none. -/
def passwordSecret (username password : String) (totpSeed : Option String) : Secret :=
  [("username", .str username), ("password", .str password)] ++
    match totpSeed with
    | some seed => if seed = "" then [] else [("totp_seed", .str seed)]
    | none => []

def OwnCall.prog (account : Account) : OwnCall → Service env Reply
  | logoutEverywhere => do
      let revoked ← AccountService.logoutEverywhere env account.accountId
      pure (.revoked revoked)
  | getCurrentAccount => pure (renderOwn account)
  | issueServiceToken audience => do
      let ttl := env.settings.accessTokenTtlSeconds
      let token ← TokenSigner.issue env account.accountId audience ttl
      pure (.serviceToken token tokenType ttl)
  | listProfiles => do
      let profiles ← CredentialService.listProfiles env account.accountId
      pure (.profiles (profiles.map render))
  | createProfile name => do
      let profile ← CredentialService.createProfile env account.accountId name
      pure (.profile (render profile))
  | getProfile name => do
      let profile ← CredentialService.getProfile env account.accountId name
      let response := render profile
      let grants ← DelegationService.listGrants env account.accountId response.name
      pure (.profile { response with grants := grants.map GrantResponse.of })
  | deleteProfile name currentPassword => do
      let removed ← CredentialChanges.removeProfile env account.accountId name
        (Requester.person currentPassword)
      refuseIf (removed = false) (.profileNotFound noSuchProfile)
      pure .noContent
  | putApiKey name service apiKey header template inQuery queryName currentPassword => do
      let connection ← CredentialChanges.storeDirect env account.accountId name service .apiKey
        (apiKeySecret apiKey header template inQuery queryName) false
        (Requester.person currentPassword)
      pure (.connection connection)
  | putPassword name service username password totpSeed currentPassword => do
      let connection ← CredentialChanges.storeDirect env account.accountId name service .password
        (passwordSecret username password totpSeed) (totpSeed.any (· ≠ ""))
        (Requester.person currentPassword)
      pure (.connection connection)
  | authorizeConnection name service currentPassword => do
      let authorization ← CredentialChanges.beginAuthorization env account.accountId name service
        env.settings.oauthRedirectUri (Requester.person currentPassword)
      pure (.authorization authorization)
  | deleteConnection name service currentPassword => do
      let removed ← CredentialChanges.removeConnection env account.accountId name service
        (Requester.person currentPassword)
      refuseIf (removed = false) (.connectionNotFound noSuchConnection)
      pure .noContent
  | createOfflineGrant name service audiences ttlSeconds => do
      let grant ← DelegationService.create env account.accountId name service audiences ttlSeconds
        none
      pure (.grant (GrantResponse.of grant))
  | listOfflineGrants name => do
      let grants ← DelegationService.listGrants env account.accountId name
      pure (.grants (grants.map GrantResponse.of))
  | revokeOfflineGrant name grantId => do
      DelegationService.revoke env account.accountId name grantId
      pure .noContent

/-- How the two routes that resolve and those on delegated profiles answer. -/
def internalReply : InternalCall → Answer → Reply
  | _, .resolved credential => .resolved credential
  | .resolveFormSecrets _ service, .fields fields => .formSecrets service fields
  | _, .profile profile => .profile (render profile)
  | _, .authorization authorization => .authorization authorization
  | _, .offlineGrant grant => .grant (GrantResponse.of grant)
  | _, _ => .noContent

/-- How the administrative routes answer; whether an account is locked is a matter of the
clock. -/
def adminReply (container : Container) : Answer → Service env Reply
  | .accounts accounts => do
      let now ← clockNow
      pure (.accountSummaries (accounts.map fun account => renderAccount account now))
  | .account account => do
      let now ← clockNow
      pure (.accountSummary (renderAccount account now))
  | .profiles profiles => pure (.accountProfiles (profiles.map renderProfile))
  | .issued (some grant) => pure (renderInvite container.deliversEmail grant)
  | .nat revoked => pure (.revoked revoked)
  | .roles roles => pure (.roles (roles.map renderRole))
  | .role role => pure (.role (renderRole role))
  | .audit entries => pure (.audit entries)
  | _ => pure .noContent

/-- How many of the connections there are, and how many of them cannot be used. -/
def connectionHealth (profiles : List Profile) (now : Instant) : Nat × Nat :=
  let connections := profiles.flatMap (·.connections)
  (connections.length, connections.countP fun connection => !connection.isUsable now)

def checkReadiness : Service env Reply := do
  let now ← clockNow
  let profiles ← profileStore .allProfiles
  let connections := connectionHealth profiles now
  let accounts ← accountStore .count
  let vaultSealed := env.master.isNone
  pure (.health (!vaultSealed && connections.2 = 0) vaultSealed accounts connections.1 connections.2)

def Request.prog (container : Container) : Request → Service env Reply
  | login email password caller => do
      let result ← AccountService.login env email password caller
      pure (.session result.sessionId result.token result.expiresAt)
  | redeemInvite token password caller => do
      let account ← AccountService.redeemInvite env token password caller
      pure (renderOwn account)
  | requestPasswordReset email caller => do
      let _ ← AccountService.requestPasswordReset env email caller
      pure (.acknowledged resetAcknowledgement)
  | redeemPasswordReset token password caller => do
      let _ ← AccountService.redeemPasswordReset env token password caller
      pure .noContent
  | completeAuthorization state code => do
      let connection ← CredentialChanges.completeAuthorization env state code
      pure (.connection connection)
  | checkReadiness => Keyring.checkReadiness env
  | session credentials c => do
      let session ← getCurrentSession env credentials
      c.prog env session
  | own credentials c => do
      let session ← getCurrentSession env credentials
      let account ← getCurrentAccount env session
      c.prog env account
  | exchangeUserToken credentials userToken audience ttlSeconds grantId => do
      let service ← Prog.ofExcept (callingService container credentials)
      let result ← DelegationService.exchange env service audience ttlSeconds userToken grantId
      pure (.exchanged result.token tokenType result.expiresIn result.expiresAt)
  | internal credentials userToken c => do
      let service ← Prog.ofExcept (callingService container credentials)
      let answer ← (Call.internal service userToken c).prog env
      pure (internalReply c answer)
  | admin credentials c => do
      let actor ← getActor env container.adminToken credentials
      let answer ← c.prog env actor
      adminReply env container answer
  | listPermissions credentials => do
      let actor ← getActor env container.adminToken credentials
      Prog.ofExcept (actor.require .rolesRead)
      pure (.permissions permissionInfos)

/-- The requests, all still to begin. -/
def serve (container : Container) (w : World) (requests : List Request) :
    Config (machine env) Error Reply :=
  ⟨w, requests.map (Request.prog env container)⟩

end Handlers

/-! ## Logging in, and naming a profile -/

namespace Scenario

def frontDesk : Container where
  adminToken := some "glass"
  serviceAuthenticator := ⟨[("lucy", "lucy's own token")], by simp, by simp⟩
  deliversEmail := false

/-- Bob shows the token of his session to name a profile. -/
def homeRequests : List Request :=
  [.login "bob@mail.org" "battery staple" "here", .own (some "tok") (.createProfile "home")]

def homeRun : Config (machine deployment) Error Reply × List (Event (machine deployment)) :=
  (serve deployment frontDesk office homeRequests).play
    (List.replicate 10 (0, given 1 "tok") ++ List.replicate 9 (1, given 2 "d1"))

def replied : Service deployment Reply → Bool
  | .done (.ok _) => true
  | _ => false

example : homeRun.1.pool.map replied = [true, true] := by decide +kernel

end Scenario

end Keyring

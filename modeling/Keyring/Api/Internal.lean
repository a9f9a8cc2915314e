import Keyring.Credentials.Changes
import Keyring.Credentials.Delegation
import Keyring.Credentials.Kinds

/-!
# The endpoints other services call

A caller has proved which service it is, and presents the token of the person it
acts for.  The account comes out of that token and from nowhere else.
-/

set_option autoImplicit false

namespace Keyring

open Interleave

def badUserToken : String := "the user token was not accepted"

structure ResolvedCredential where
  service : String
  headers : List (String × String)
  queryParams : List (String × String)
  expiresAt : Option Instant
  deriving DecidableEq

namespace Internal

variable (env : Env)

/-- The end user that a call of `service` is made for. -/
def actingFor (service : String) (userToken : Option String) : Service env String := do
  match userToken with
  | none => throw (.authentication badUserToken)
  | some token => do
      let claims ← TokenSigner.verifyAccess env token service
      pure claims.accountId

/-- The expiry is read after resolving, which may have refreshed the token. -/
def resolveCredential (accountId profile service : String) : Service env ResolvedCredential := do
  let credential ← CredentialService.resolveHttpAuth env accountId profile service
  let headers ← credential.headers env
  let params ← Prog.ofExcept (credential.queryParams env)
  let expiresAt : Option Instant ← (match credential with
    | .apiKey _ => pure none
    | .oauth2 _ _ _ _ => do
        let record ← CredentialService.getProfile env accountId profile
        pure ((record.connection service).bind (·.expiresAt)))
  pure ⟨service, headers, params, expiresAt⟩

def resolveFormSecrets (accountId profile service : String) :
    Service env (List (String × String)) := do
  let secret ← CredentialService.resolveFormSecrets env accountId profile service
  formFields env secret

def describeProfile (accountId name : String) : Service env Profile := do
  match ← accountStore (.get accountId) with
  | none => throw (.authentication badUserToken)
  | some account =>
      refuseIf (account.status ≠ .active) (.authentication badUserToken)
      CredentialService.getProfile env accountId name

def authorizeConnection (accountId name connection : String) : Service env Authorization :=
  CredentialChanges.beginAuthorization env accountId name connection
    env.settings.oauthRedirectUri Requester.service

def deleteConnection (accountId name connection : String) : Service env Unit := do
  let removed ← CredentialChanges.removeConnection env accountId name connection Requester.service
  refuseIf (removed = false) (.connectionNotFound noSuchConnection)

end Internal

end Keyring

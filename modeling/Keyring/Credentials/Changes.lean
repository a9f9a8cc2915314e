import Keyring.Accounts.Service
import Keyring.Credentials.Service

/-!
# Who may change a stored credential

The policy around a change that a person or a service asks for: the owner's
setting may demand the account password, and a password that was sent is always
checked.
-/

set_option autoImplicit false

namespace Keyring

open Interleave

def notGuessed : String :=
  "one of your settings could not be read from settings-api and must not be guessed"

def sendYourPassword : String :=
  "this account asks for its password before a stored credential changes: " ++
    "send current_password with the request"

def servicesCannot : String :=
  "this account asks for its password before a stored credential changes, and a service " ++
    "cannot give it: the person must make this change with their own session"

/-- Who is asking for a change, and the password they sent, if any. -/
structure Requester where
  origin : ChangeOrigin
  password : Option String

namespace Requester

def person (password : Option String) : Requester := ⟨.person, password⟩
def service : Requester := ⟨.service, none⟩
def administrator : Requester := ⟨.administrator, none⟩

end Requester

namespace CredentialChanges

variable (env : Env)

/-- Refuse the change unless the owner's settings allow it. -/
def admitted (accountId : String) (requester : Requester) : Service env Preferences := do
  let preferences ← preferencesFor accountId
  if requester.origin = .administrator then pure preferences
  else
    match requester.password with
    | some password => do
        AccountService.confirmPassword env accountId password
        pure preferences
    | none =>
        match preferences.requireReauthForCredentialChanges with
        | none => throw (.preferencesUnavailable notGuessed)
        | some true =>
            throw (.reauthenticationRequired
              (if requester.origin = .service then servicesCannot else sendYourPassword))
        | some false => pure preferences

/-- The owner is looked up before a notice is queued. -/
def announce (accountId : String) (preferences : Preferences) : Service env Unit :=
  if preferences.announcesCredentialChanges then do
    match ← accountStore (.get accountId) with
    | none => pure ()
    | some _ => do
        let _ ← clockNow
        pure ()
  else pure ()

def storeDirect (accountId profileName serviceName : String) (kind : CredentialKind)
    (secret : Secret) (storesTotpSeed : Bool) (requester : Requester) :
    Service env Connection := do
  let preferences ← admitted env accountId requester
  let connection ← CredentialService.putDirectCredential env accountId profileName serviceName
    kind secret storesTotpSeed
  announce env accountId preferences
  pure connection

def beginAuthorization (accountId profileName serviceName redirectUri : String)
    (requester : Requester) : Service env Authorization := do
  let _ ← admitted env accountId requester
  CredentialService.beginAuthorization env accountId profileName serviceName redirectUri

def completeAuthorization (state code : String) : Service env Connection := do
  let binding ← CredentialService.redeemAuthorization env state
  let preferences ← preferencesFor binding.accountId
  let connection ← CredentialService.finishAuthorization env binding code
  announce env binding.accountId preferences
  pure connection

def removeConnection (accountId profileName serviceName : String) (requester : Requester) :
    Service env Bool := do
  let preferences ← admitted env accountId requester
  let removed ← CredentialService.revokeConnection env accountId profileName serviceName
  let _ ← (if removed then announce env accountId preferences else pure ())
  pure removed

/-- A profile with no connections holds no credential: it is neither checked nor
announced. -/
def removeProfile (accountId name : String) (requester : Requester) : Service env Bool := do
  let profile ← tryCatchThe Error (some <$> CredentialService.getProfile env accountId name) fun
    | .profileNotFound _ => pure none
    | e => throw e
  match profile with
  | none => pure false
  | some profile =>
      let preferences ← (if profile.connections.isEmpty then pure none
        else some <$> admitted env accountId requester)
      let removed ← CredentialService.deleteProfile env accountId name
      let _ ← (match removed, preferences with
        | true, some preferences => announce env accountId preferences
        | _, _ => pure ())
      pure removed

end CredentialChanges

end Keyring

import Keyring.Domain.Rbac

/-!
# Profiles, connections and offline grants

A profile is a named credential set of one account, a connection its link to
one service, and an offline grant a service's consent to act for it.  Who may
change a stored credential is told apart by the origin of the request.
-/

set_option autoImplicit false

namespace Keyring

def profileIdPrefix : String := "prof_"
def maxProfileNameLength : Nat := 64
def maxServiceNameLength : Nat := 64

def normalizeProfileName (text : Text) (raw : String) : Except Error String :=
  normalizeName text "profile name" maxProfileNameLength .invalidProfileName raw

def normalizeServiceName (text : Text) (raw : String) : Except Error String :=
  normalizeName text "service name" maxServiceNameLength .invalidProfileName raw

inductive CredentialKind where
  | apiKey
  | oauth2AuthorizationCode
  | password
  deriving DecidableEq

def CredentialKind.canRefresh (kind : CredentialKind) : Bool :=
  kind = .oauth2AuthorizationCode

inductive ConnectionStatus where
  | active
  | pending
  | expired
  | revoked
  deriving DecidableEq

structure Connection where
  service : String
  kind : CredentialKind
  status : ConnectionStatus
  createdAt : Instant
  updatedAt : Instant
  expiresAt : Option Instant := none
  scopes : List String := []
  storesTotpSeed : Bool := false
  lastError : Option String := none

namespace Connection

def needsRefresh (connection : Connection) (now margin : Instant) : Bool :=
  match connection.expiresAt with
  | none => false
  | some deadline => now ≥ deadline - margin

def isUsable (connection : Connection) (now : Instant) : Bool :=
  if connection.status ≠ .active then false
  else
    match connection.expiresAt with
    | none => true
    | some deadline => connection.kind.canRefresh || now < deadline

/-- Record a failure without discarding the stored credential. -/
def withError (connection : Connection) (message : String) (now : Instant) : Connection :=
  { connection with status := .expired, lastError := some message, updatedAt := now }

end Connection

structure ProfileRow where
  profileId : String
  accountId : String
  name : String
  createdAt : Instant
  updatedAt : Instant

structure Profile extends ProfileRow where
  connections : List Connection

def Profile.connection (profile : Profile) (service : String) : Option Connection :=
  profile.connections.find? (·.service = service)

theorem Profile.connection_service {profile : Profile} {service : String}
    {connection : Connection} (found : profile.connection service = some connection) :
    connection.service = service := by
  simpa using List.find?_some found

structure OfflineGrant where
  grantId : String
  accountId : String
  profile : String
  service : String
  audiences : List String
  createdAt : Instant
  expiresAt : Instant
  revokedAt : Option Instant

inductive ChangeOrigin where
  | person
  | service
  | provider
  | administrator
  deriving DecidableEq

/-- What an OAuth state parameter is bound to. -/
structure FlowBinding where
  accountId : String
  profile : String
  service : String
  kind : CredentialKind
  redirectUri : String

structure OAuthFlow where
  binding : FlowBinding
  expiresAt : Instant

def OAuthFlow.isLive (flow : OAuthFlow) (now : Instant) : Bool := now < flow.expiresAt

end Keyring

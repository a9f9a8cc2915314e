import Keyring.Admin.Service
import Keyring.Api.Internal

/-!
# What the routes answer

The wire models.  Values go in and status comes out: a connection is rendered without
its secret, and only a login, an invite, an exchange and the two resolving routes hand
out something to present elsewhere.
-/

set_option autoImplicit false

namespace Keyring

def resetAcknowledgement : String := "if that address has an account, a reset link has been sent"

def tokenType : String := "Bearer"

structure GrantResponse where
  grantId : String
  profile : String
  service : String
  audiences : List String
  createdAt : Instant
  expiresAt : Instant
  revokedAt : Option Instant

def GrantResponse.of (grant : OfflineGrant) : GrantResponse where
  grantId := grant.grantId
  profile := grant.profile
  service := grant.service
  audiences := grant.audiences
  createdAt := grant.createdAt
  expiresAt := grant.expiresAt
  revokedAt := grant.revokedAt

/-- A connection is rendered with all its fields. -/
abbrev ConnectionResponse := Connection

structure ProfileResponse where
  name : String
  createdAt : Instant
  updatedAt : Instant
  connections : List ConnectionResponse
  grants : List GrantResponse := []

def sortedByService (connections : List Connection) : List Connection :=
  connections.insertionSort (·.service ≤ ·.service)

def render (profile : Profile) : ProfileResponse where
  name := profile.name
  createdAt := profile.createdAt
  updatedAt := profile.updatedAt
  connections := sortedByService profile.connections

structure AccountSummary where
  accountId : String
  email : String
  status : AccountStatus
  roles : List String
  createdAt : Instant
  updatedAt : Instant
  locked : Bool

def renderAccount (account : Account) (now : Instant) : AccountSummary where
  accountId := account.accountId
  email := account.email
  status := account.status
  roles := account.roles
  createdAt := account.createdAt
  updatedAt := account.updatedAt
  locked := account.isLocked now

structure RoleResponse where
  name : String
  description : String
  permissions : List String
  builtin : Bool
  createdAt : Option Instant
  updatedAt : Option Instant

def renderRole (role : Role) : RoleResponse where
  name := role.name
  description := role.description
  permissions := sortedNames role.permissions
  builtin := role.builtin
  createdAt := role.createdAt
  updatedAt := role.updatedAt

/-- A profile as an administrator sees it: names and states, never values. -/
structure ProfileSummary where
  name : String
  connections : List (String × CredentialKind × ConnectionStatus)

def renderProfile (profile : Profile) : ProfileSummary where
  name := profile.name
  connections := (sortedByService profile.connections).map fun connection =>
    (connection.service, connection.kind, connection.status)

def permissionDescription : Permission → String
  | .accountsRead => "List accounts and read one. Metadata only."
  | .accountsInvite => "Mint invites for new accounts."
  | .accountsDisable => "Disable or re-enable an account, ending its sessions."
  | .accountsDelete => "Delete an account and everything it owns. Irreversible."
  | .accountsRevokeSessions => "Sign an account out everywhere."
  | .accountsResetPassword =>
      "Mint a password reset for somebody else. Close to an account takeover, so it is " ++
        "separate from disabling."
  | .rolesRead => "See which roles exist and what they allow."
  | .rolesWrite => "Create, edit and delete custom roles, bounded by your own permissions."
  | .rolesAssign => "Grant and revoke roles, bounded by your own permissions."
  | .profilesReadAny =>
      "See which profiles and connections another account has. Metadata only -- there " ++
        "is deliberately no permission that returns another account's credential."
  | .profilesDeleteAny => "Delete another account's profile. Destroys, never reads."
  | .auditRead => "Read the record of privileged actions."

/-- Every permission with its description, sorted by name. -/
def permissionInfos : List (String × String) :=
  (Permission.all.map fun permission => (permission.wire, permissionDescription permission)).insertionSort
    (·.1 ≤ ·.1)

/-- The body of an answer that raised nothing. -/
inductive Reply where
  | noContent
  | acknowledged (detail : String)
  | session (sessionId token : String) (expiresAt : Instant)
  | account (accountId email : String) (createdAt : Instant)
  | revoked (count : Nat)
  | serviceToken (token tokenType : String) (expiresIn : Int)
  | profile (profile : ProfileResponse)
  | profiles (profiles : List ProfileResponse)
  | connection (connection : ConnectionResponse)
  | authorization (authorization : Authorization)
  | grant (grant : GrantResponse)
  | grants (grants : List GrantResponse)
  | exchanged (token tokenType : String) (expiresIn : Int) (expiresAt : Instant)
  | resolved (credential : ResolvedCredential)
  | formSecrets (service : String) (fields : List (String × String))
  | accountSummary (account : AccountSummary)
  | accountSummaries (accounts : List AccountSummary)
  | accountProfiles (profiles : List ProfileSummary)
  | invite (grantId : String) (expiresAt : Instant) (delivered : Bool) (token : Option String)
  | role (role : RoleResponse)
  | roles (roles : List RoleResponse)
  | permissions (permissions : List (String × String))
  | audit (entries : List AuditEntry)
  | health (healthy vaultSealed : Bool) (accounts total unusable : Nat)

/-- An account as its owner sees it. -/
def renderOwn (account : Account) : Reply := .account account.accountId account.email account.createdAt

/-- The token goes out only where no mail is sent. -/
def renderInvite (delivered : Bool) (grant : IssuedGrant) : Reply :=
  .invite grant.grantId grant.expiresAt delivered (if delivered then none else some grant.token)

end Keyring

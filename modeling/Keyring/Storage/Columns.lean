import Keyring.Storage.Database
import Keyring.Storage.Times
import Keyring.Python.JsonSpec

/-!
# Records as columns

The rows of the schema's STRICT tables, with the texts and integers they hold, and the
two hand-written mappings of every record: what the stores bind when they write it, and
what they build from a row.  An integer column holds 64 bits.
-/

set_option autoImplicit false

namespace Keyring

open Relational

/-! ## Values -/

def int64 (n : Int) : Except Error Int :=
  if -9223372036854775808 ≤ n ∧ n ≤ 9223372036854775807 then .ok n
  else .error (.overflow "Python int too large to convert to SQLite INTEGER")

def int64Optional : Option Int → Except Error (Option Int)
  | none => .ok none
  | some n => (int64 n).map some

/-- `to_column_optional`, of an instant. -/
def stampOptional : Option Instant → Except Error (Option String)
  | none => .ok none
  | some instant => (stamp instant).map some

/-- `int(flag)` -/
def flagColumn (flag : Bool) : Int := if flag then 1 else 0

def dumpsStrings (values : List String) : Except Error String := (Json.arr (values.map .str)).dumps

/-- The value of an enum member. -/
class Valued (α : Type) where
  name : String
  members : List α
  value : α → String
  member_value : ∀ member : α, members.find? (fun other => value other = value member) = some member

instance : Valued AccountStatus where
  name := "AccountStatus"
  members := [.active, .disabled]
  value
    | .active => "active"
    | .disabled => "disabled"
  member_value member := by cases member <;> rfl

instance : Valued GrantPurpose where
  name := "GrantPurpose"
  members := [.invite, .passwordReset]
  value
    | .invite => "invite"
    | .passwordReset => "password_reset"
  member_value member := by cases member <;> rfl

instance : Valued CredentialKind where
  name := "CredentialKind"
  members := [.apiKey, .oauth2AuthorizationCode, .password]
  value
    | .apiKey => "api_key"
    | .oauth2AuthorizationCode => "oauth2_authorization_code"
    | .password => "password"
  member_value member := by cases member <;> rfl

instance : Valued ConnectionStatus where
  name := "ConnectionStatus"
  members := [.active, .pending, .expired, .revoked]
  value
    | .active => "active"
    | .pending => "pending"
    | .expired => "expired"
    | .revoked => "revoked"
  member_value member := by cases member <;> rfl

instance : Valued Permission where
  name := "Permission"
  members := Permission.all
  value := Permission.wire
  member_value := Permission.ofWire?_wire

section Reading

variable (text : Text)

/-- `from_column`, of the instant. -/
def columnInstant (raw : String) : Except Error Instant := (fromColumn text raw).map Aware.instant

def columnInstantOptional : Option String → Except Error (Option Instant)
  | none => .ok none
  | some raw => (columnInstant text raw).map some

/-- `AccountStatus(raw)`, and the other enums. -/
def memberOf (α : Type) [Valued α] (raw : String) : Except Error α :=
  match (Valued.members (α := α)).find? (fun member => Valued.value member = raw) with
  | some member => .ok member
  | none => .error (.value (repr text raw ++ " is not a valid " ++ Valued.name α))

/-- The strings of a JSON array.  Python hands on what else a column holds as it is; no
store writes anything else. -/
def loadsStrings (raw : String) : Except Error (List String) :=
  match Json.loads raw with
  | some (.arr items) =>
      match items.mapM Json.asStr with
      | some values => .ok values
      | none => .error (.type "the array holds a value that is no string")
  | some _ => .error (.type "the column holds no array")
  | none => .error (.value ("Expecting value: " ++ repr text raw))

end Reading

/-! ## Rows -/

structure AccountColumns where
  accountId : String
  email : String
  passwordHash : String
  createdAt : String
  updatedAt : String
  status : String
  failedAttempts : Int
  lockedUntil : Option String

structure SessionColumns where
  sessionId : String
  accountId : String
  tokenHash : String
  createdAt : String
  lastUsedAt : String
  expiresAt : String
  absoluteExpiresAt : String
  idleTtlSeconds : Option Int

structure GrantColumns where
  grantId : String
  purpose : String
  tokenHash : String
  createdAt : String
  expiresAt : String
  email : Option String
  accountId : Option String
  redeemedAt : Option String
  revoked : Int
  /-- `CHECK (email IS NOT NULL OR account_id IS NOT NULL)` -/
  named : email.isSome || accountId.isSome

structure RoleColumns where
  name : String
  description : String
  permissions : String
  builtin : Int
  createdAt : Option String
  updatedAt : Option String

structure ProfileColumns where
  accountId : String
  name : String
  profileId : String
  createdAt : String
  updatedAt : String

def ProfileColumns.key (row : ProfileColumns) : String × String := (row.accountId, row.name)

structure ConnectionColumns where
  accountId : String
  profileName : String
  service : String
  kind : String
  status : String
  createdAt : String
  updatedAt : String
  expiresAt : Option String
  scopes : String
  storesTotpSeed : Int
  lastError : Option String

def ConnectionColumns.key (row : ConnectionColumns) : Triple :=
  (row.accountId, row.profileName, row.service)

structure OfflineGrantColumns where
  grantId : String
  accountId : String
  profile : String
  service : String
  audiences : String
  createdAt : String
  expiresAt : String
  revokedAt : Option String

structure ColumnDb where
  accounts : Table AccountColumns.accountId
  accountRoles : Table AccountRole.key
  roles : Table RoleColumns.name
  sessions : Table SessionColumns.sessionId
  grants : Table GrantColumns.grantId
  profiles : Table ProfileColumns.key
  connections : Table ConnectionColumns.key
  offlineGrants : Table OfflineGrantColumns.grantId

def ColumnDb.empty : ColumnDb where
  accounts := .empty
  accountRoles := .empty
  roles := .empty
  sessions := .empty
  grants := .empty
  profiles := .empty
  connections := .empty
  offlineGrants := .empty

/-! ## Writing records -/

/-- The values of `_insert_account`. -/
def AccountRow.toColumns (row : AccountRow) : Except Error AccountColumns := do
  let createdAt ← stamp row.createdAt
  let updatedAt ← stamp row.updatedAt
  let lockedUntil ← stampOptional row.lockedUntil
  let failedAttempts ← int64 row.failedAttempts
  return {
    accountId := row.accountId
    email := row.email
    passwordHash := row.passwordHash
    createdAt := createdAt
    updatedAt := updatedAt
    status := Valued.value row.status
    failedAttempts := failedAttempts
    lockedUntil := lockedUntil }

def Session.toColumns (session : Session) : Except Error SessionColumns := do
  let createdAt ← stamp session.createdAt
  let lastUsedAt ← stamp session.lastUsedAt
  let expiresAt ← stamp session.expiresAt
  let absoluteExpiresAt ← stamp session.absoluteExpiresAt
  let idleTtlSeconds ← int64Optional session.idleTtlSeconds
  return {
    sessionId := session.sessionId
    accountId := session.accountId
    tokenHash := session.tokenHash
    createdAt := createdAt
    lastUsedAt := lastUsedAt
    expiresAt := expiresAt
    absoluteExpiresAt := absoluteExpiresAt
    idleTtlSeconds := idleTtlSeconds }

def Grant.toColumns (grant : Grant) : Except Error GrantColumns := do
  let createdAt ← stamp grant.createdAt
  let expiresAt ← stamp grant.expiresAt
  let redeemedAt ← stampOptional grant.redeemedAt
  return {
    grantId := grant.grantId
    purpose := Valued.value grant.purpose
    tokenHash := grant.tokenHash
    createdAt := createdAt
    expiresAt := expiresAt
    email := grant.email
    accountId := grant.accountId
    redeemedAt := redeemedAt
    revoked := flagColumn grant.revoked
    named := grant.named }

/-- `_dump` -/
def dumpPermissions (permissions : Finset Permission) : Except Error String :=
  dumpsStrings (sortedNames permissions)

def Role.toColumns (role : Role) : Except Error RoleColumns := do
  let permissions ← dumpPermissions role.permissions
  let createdAt ← stampOptional role.createdAt
  let updatedAt ← stampOptional role.updatedAt
  return {
    name := role.name
    description := role.description
    permissions := permissions
    builtin := flagColumn role.builtin
    createdAt := createdAt
    updatedAt := updatedAt }

/-- The values of `_insert_profile`. -/
def ProfileRow.toColumns (row : ProfileRow) : Except Error ProfileColumns := do
  let createdAt ← stamp row.createdAt
  let updatedAt ← stamp row.updatedAt
  return {
    accountId := row.accountId
    name := row.name
    profileId := row.profileId
    createdAt := createdAt
    updatedAt := updatedAt }

/-- The values of `_upsert_connection`. -/
def Connection.toColumns (accountId name : String) (item : Connection) :
    Except Error ConnectionColumns := do
  let createdAt ← stamp item.createdAt
  let updatedAt ← stamp item.updatedAt
  let expiresAt ← stampOptional item.expiresAt
  let scopes ← dumpsStrings item.scopes
  return {
    accountId := accountId
    profileName := name
    service := item.service
    kind := Valued.value item.kind
    status := Valued.value item.status
    createdAt := createdAt
    updatedAt := updatedAt
    expiresAt := expiresAt
    scopes := scopes
    storesTotpSeed := flagColumn item.storesTotpSeed
    lastError := item.lastError }

/-- The values of `SqlDelegationStore.add`, which lists seven of the eight columns. -/
def OfflineGrant.toColumns (grant : OfflineGrant) : Except Error OfflineGrantColumns := do
  let audiences ← dumpsStrings grant.audiences
  let createdAt ← stamp grant.createdAt
  let expiresAt ← stamp grant.expiresAt
  return {
    grantId := grant.grantId
    accountId := grant.accountId
    profile := grant.profile
    service := grant.service
    audiences := audiences
    createdAt := createdAt
    expiresAt := expiresAt
    revokedAt := none }

/-! ## Building records -/

section Reading

variable (text : Text)

/-- `_account_of`.  A count is never negative. -/
def AccountColumns.read (row : AccountColumns) (roles : List String) : Except Error Account := do
  let createdAt ← columnInstant text row.createdAt
  let updatedAt ← columnInstant text row.updatedAt
  let status ← memberOf text AccountStatus row.status
  let lockedUntil ← columnInstantOptional text row.lockedUntil
  return {
    accountId := row.accountId
    email := row.email
    passwordHash := row.passwordHash
    createdAt := createdAt
    updatedAt := updatedAt
    status := status
    failedAttempts := row.failedAttempts.toNat
    lockedUntil := lockedUntil
    roles := roles }

/-- `_session_of` -/
def SessionColumns.read (row : SessionColumns) : Except Error Session := do
  let createdAt ← columnInstant text row.createdAt
  let lastUsedAt ← columnInstant text row.lastUsedAt
  let expiresAt ← columnInstant text row.expiresAt
  let absoluteExpiresAt ← columnInstant text row.absoluteExpiresAt
  return {
    sessionId := row.sessionId
    accountId := row.accountId
    tokenHash := row.tokenHash
    createdAt := createdAt
    lastUsedAt := lastUsedAt
    expiresAt := expiresAt
    absoluteExpiresAt := absoluteExpiresAt
    idleTtlSeconds := row.idleTtlSeconds }

/-- `_grant_of` -/
def GrantColumns.read (row : GrantColumns) : Except Error Grant := do
  let purpose ← memberOf text GrantPurpose row.purpose
  let createdAt ← columnInstant text row.createdAt
  let expiresAt ← columnInstant text row.expiresAt
  let redeemedAt ← columnInstantOptional text row.redeemedAt
  return {
    grantId := row.grantId
    purpose := purpose
    tokenHash := row.tokenHash
    createdAt := createdAt
    expiresAt := expiresAt
    email := row.email
    accountId := row.accountId
    redeemedAt := redeemedAt
    revoked := row.revoked ≠ 0
    named := row.named }

/-- `_role_of` -/
def RoleColumns.read (row : RoleColumns) : Except Error Role := do
  let names ← loadsStrings text row.permissions
  let permissions ← names.mapM (memberOf text Permission)
  let createdAt ← columnInstantOptional text row.createdAt
  let updatedAt ← columnInstantOptional text row.updatedAt
  return {
    name := row.name
    permissions := permissions.toFinset
    description := row.description
    builtin := row.builtin ≠ 0
    createdAt := createdAt
    updatedAt := updatedAt }

/-- `_connection_of` -/
def ConnectionColumns.read (row : ConnectionColumns) : Except Error Connection := do
  let kind ← memberOf text CredentialKind row.kind
  let status ← memberOf text ConnectionStatus row.status
  let createdAt ← columnInstant text row.createdAt
  let updatedAt ← columnInstant text row.updatedAt
  let expiresAt ← columnInstantOptional text row.expiresAt
  let scopes ← loadsStrings text row.scopes
  return {
    service := row.service
    kind := kind
    status := status
    createdAt := createdAt
    updatedAt := updatedAt
    expiresAt := expiresAt
    scopes := scopes
    storesTotpSeed := row.storesTotpSeed ≠ 0
    lastError := row.lastError }

/-- `_profile_of` -/
def ProfileColumns.read (row : ProfileColumns) (connections : List Connection) :
    Except Error Profile := do
  let createdAt ← columnInstant text row.createdAt
  let updatedAt ← columnInstant text row.updatedAt
  return {
    profileId := row.profileId
    accountId := row.accountId
    name := row.name
    createdAt := createdAt
    updatedAt := updatedAt
    connections := connections }

/-- `_grant` -/
def OfflineGrantColumns.read (row : OfflineGrantColumns) : Except Error OfflineGrant := do
  let audiences ← loadsStrings text row.audiences
  let createdAt ← columnInstant text row.createdAt
  let expiresAt ← columnInstant text row.expiresAt
  let revokedAt ← columnInstantOptional text row.revokedAt
  return {
    grantId := row.grantId
    accountId := row.accountId
    profile := row.profile
    service := row.service
    audiences := audiences
    createdAt := createdAt
    expiresAt := expiresAt
    revokedAt := revokedAt }

end Reading

end Keyring

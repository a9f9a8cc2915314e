import Keyring.Domain.Accounts
import Keyring.Domain.Profiles
import Keyring.Relational.Table
import Keyring.Secrets.Envelope

/-!
# The database

The tables of the schema, each with its primary key, and transactions over
them.  A transaction that raises leaves the database as it was.  The other
constraints of the schema (UNIQUE columns, foreign keys, cascades) are in the
statements of the stores; `ForeignKeys` says what the declared references mean
for the rows that are stored.
-/

set_option autoImplicit false

namespace Keyring

open Relational

inductive AuditAction where
  | accountInvited
  | accountDeleted
  | accountDisabled
  | accountEnabled
  | accountSessionsRevoked
  | accountPasswordResetIssued
  | rolesAssigned
  | roleCreated
  | roleUpdated
  | roleDeleted
  | profileDeletedByAdmin
  | delegationCreated
  | delegationRevoked
  | tokenExchanged
  deriving DecidableEq

structure AuditEntry where
  entryId : String
  at_ : Instant
  action : AuditAction
  actorId : String
  targetId : Option String
  detail : String

structure AuditRow extends AuditEntry where
  sequence : Nat

/-- A row of `account_roles`. -/
structure AccountRole where
  accountId : String
  roleName : String
  position : Nat

def AccountRole.key (row : AccountRole) : String × String := (row.accountId, row.roleName)

def ProfileRow.key (row : ProfileRow) : String × String := (row.accountId, row.name)

structure ConnectionRow extends Connection where
  accountId : String
  profileName : String

/-- What addresses a connection and its secret. -/
abbrev Triple := String × String × String

def ConnectionRow.key (row : ConnectionRow) : Triple :=
  (row.accountId, row.profileName, row.service)

structure SecretRow where
  accountId : String
  profileName : String
  service : String
  envelope : Envelope
  createdAt : Instant
  updatedAt : Instant

def SecretRow.key (row : SecretRow) : Triple := (row.accountId, row.profileName, row.service)

structure Db where
  accounts : Table AccountRow.accountId
  accountRoles : Table AccountRole.key
  roles : Table Role.name
  sessions : Table Session.sessionId
  grants : Table Grant.grantId
  profiles : Table ProfileRow.key
  connections : Table ConnectionRow.key
  secrets : Table SecretRow.key
  offlineGrants : Table OfflineGrant.grantId
  audit : Table AuditRow.sequence
  /-- The row of `sqlite_sequence` for `audit`. -/
  auditSequence : Nat

def Db.empty : Db where
  accounts := .empty
  accountRoles := .empty
  roles := .empty
  sessions := .empty
  grants := .empty
  profiles := .empty
  connections := .empty
  secrets := .empty
  offlineGrants := .empty
  audit := .empty
  auditSequence := 0

/-! ## Transactions -/

abbrev Transaction := StateT Db (Except Error)

/-- Commit what the work did, or roll it back and pass on what it raised. -/
def transact {α : Type} (work : Transaction α) (db : Db) : Except Error α × Db :=
  match work.run db with
  | .ok (a, db') => (.ok a, db')
  | .error e => (.error e, db)

theorem transact_ok {α : Type} {work : Transaction α} {db db' : Db} {a : α} :
    transact work db = (.ok a, db') ↔ work.run db = .ok (a, db') := by
  rw [transact]
  cases work.run db with
  | ok r => simp [Prod.ext_iff]
  | error e => simp

theorem transact_error {α : Type} {work : Transaction α} {db db' : Db} {e : Error} :
    transact work db = (.error e, db') ↔ work.run db = .error e ∧ db' = db := by
  rw [transact]
  cases work.run db with
  | ok r => simp
  | error e' => simp [eq_comm]

def foreignKeyFailed : Error := .integrity "FOREIGN KEY constraint failed"

def uniqueFailed (column : String) : Error :=
  .integrity s!"UNIQUE constraint failed: {column}"

/-- `INSERT` into one table; a taken key is an integrity error. -/
def insertRow {ρ κ : Type} {key : ρ → κ} [DecidableEq κ] (table : Table key) (row : ρ)
    (column : String) : Except Error (Table key) :=
  match table.insert? row with
  | some table' => .ok table'
  | none => .error (uniqueFailed column)

theorem insertRow_ok {ρ κ : Type} {key : ρ → κ} [DecidableEq κ] {table table' : Table key}
    {row : ρ} {column : String} :
    insertRow table row column = .ok table' ↔ table.insert? row = some table' := by
  rw [insertRow]
  split <;> simp_all

/-! ## Cascades -/

/-- `DELETE FROM profiles WHERE p`, with what references the deleted rows. -/
def Db.deleteProfiles (db : Db) (p : ProfileRow → Bool) : Db :=
  let gone := (db.profiles.rows.filter p).map ProfileRow.key
  { db with
    profiles := db.profiles.deleteWhere p
    connections := db.connections.deleteWhere fun row => gone.contains (row.accountId, row.profileName)
    offlineGrants := db.offlineGrants.deleteWhere fun row => gone.contains (row.accountId, row.profile) }

/-- `DELETE FROM accounts WHERE account_id = ?`, with what references the row. -/
def Db.deleteAccount (db : Db) (accountId : String) : Db :=
  let db := db.deleteProfiles (·.accountId = accountId)
  { db with
    accounts := db.accounts.deleteWhere (·.accountId = accountId)
    accountRoles := db.accountRoles.deleteWhere (·.accountId = accountId)
    sessions := db.sessions.deleteWhere (·.accountId = accountId)
    grants := db.grants.deleteWhere (·.accountId = some accountId)
    secrets := db.secrets.deleteWhere (·.accountId = accountId) }

/-! ## Declared references -/

structure ForeignKeys (db : Db) : Prop where
  accountRolesAccount : ∀ row ∈ db.accountRoles, (db.accounts.find? row.accountId).isSome
  accountRolesRole : ∀ row ∈ db.accountRoles, (db.roles.find? row.roleName).isSome
  sessions : ∀ row ∈ db.sessions, (db.accounts.find? row.accountId).isSome
  grants : ∀ row ∈ db.grants, ∀ accountId, row.accountId = some accountId →
    (db.accounts.find? accountId).isSome
  profiles : ∀ row ∈ db.profiles, (db.accounts.find? row.accountId).isSome
  connections : ∀ row ∈ db.connections, (db.profiles.find? (row.accountId, row.profileName)).isSome
  offlineGrants : ∀ row ∈ db.offlineGrants, (db.profiles.find? (row.accountId, row.profile)).isSome
  secrets : ∀ row ∈ db.secrets, (db.accounts.find? row.accountId).isSome

end Keyring

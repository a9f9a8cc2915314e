import Keyring.Accounts.SqlRoles
import Keyring.Relational.Represents
import Keyring.Storage.ColumnsSpec

/-!
# Accounts, sessions, grants and roles, as columns

The statements of the stores on the texts and integers that the tables hold.  Stamps
are compared as texts, a missing stamp is NULL and a flag is an integer.
-/

set_option autoImplicit false

namespace Keyring

open Relational

/-- What a statement does to the tables; one that raises leaves them as they were. -/
abbrev ColumnTransaction := StateT ColumnDb (Except Error)

def commitColumns {α : Type} (work : ColumnTransaction α) (db : ColumnDb) :
    Except Error α × ColumnDb :=
  match work.run db with
  | .ok (a, db') => (.ok a, db')
  | .error e => (.error e, db)

/-! ## Accounts -/

namespace SqlAccountColumns

def rolesOf (db : ColumnDb) (accountId : String) : List String :=
  ((db.accountRoles.rows.filter (·.accountId = accountId)).insertionSort
    (·.position ≤ ·.position)).map (·.roleName)

def insertRole (db : ColumnDb) (accountId : String) (table : Table AccountRole.key)
    (entry : String × Nat) : Option (Table AccountRole.key) :=
  if (db.accounts.find? accountId).isSome && (db.roles.find? entry.1).isSome then
    table.insert? ⟨accountId, entry.1, entry.2⟩
  else none

def writeRoles (accountId : String) (roles : List String) : ColumnTransaction Unit := fun db =>
  match (dictFromKeys roles).zipIdx.foldlM (insertRole db accountId)
      (db.accountRoles.deleteWhere (·.accountId = accountId)) with
  | some table => .ok ((), { db with accountRoles := table })
  | none => .error (.roleNotFound "one of those roles no longer exists")

def insertAccount (account : Account) : ColumnTransaction Unit := fun db =>
  match account.toAccountRow.toColumns with
  | .error e => .error e
  | .ok row =>
      match insertRow db.accounts row "accounts.account_id" with
      | .error e => .error e
      | .ok accounts =>
          (writeRoles account.accountId account.roles).run { db with accounts := accounts }

def add (text : Text) (account : Account) : ColumnTransaction Unit := fun db =>
  if db.accounts.rows.any (·.email = account.email) then
    .error (.accountExists s!"an account already exists for {repr text account.email}")
  else (insertAccount account).run db

def get (text : Text) (accountId : String) (db : ColumnDb) : Except Error (Option Account) :=
  (db.accounts.find? accountId).mapM fun row => row.read text (rolesOf db row.accountId)

end SqlAccountColumns

/-! ## Sessions -/

namespace SqlSessionColumns

/-- `WHERE expires_at > ? AND absolute_expires_at > ?` -/
def live (now : String) (row : SessionColumns) : Bool :=
  row.expiresAt > now && row.absoluteExpiresAt > now

/-- `WHERE expires_at <= ? OR absolute_expires_at <= ?` -/
def expired (now : String) (row : SessionColumns) : Bool :=
  row.expiresAt ≤ now || row.absoluteExpiresAt ≤ now

def add (session : Session) : ColumnTransaction Unit := fun db =>
  match session.toColumns with
  | .error e => .error e
  | .ok row =>
      if db.sessions.rows.any (·.tokenHash = row.tokenHash) then
        .error (uniqueFailed "sessions.token_hash")
      else
        match insertRow db.sessions row "sessions.session_id" with
        | .error e => .error e
        | .ok sessions =>
            if (db.accounts.find? row.accountId).isNone then .error foreignKeyFailed
            else .ok ((), { db with sessions := sessions })

def getByTokenHash (text : Text) (tokenHash : String) (now : Instant) (db : ColumnDb) :
    Except Error (Option Session) := do
  let now ← stamp now
  (db.sessions.rows.find? fun row => row.tokenHash = tokenHash && live now row).mapM (·.read text)

def purgeExpired (now : Instant) : ColumnTransaction Nat := fun db =>
  match stamp now with
  | .error e => .error e
  | .ok now =>
      .ok (db.sessions.countWhere (expired now),
        { db with sessions := db.sessions.deleteWhere (expired now) })

end SqlSessionColumns

/-! ## Grants -/

namespace SqlGrantColumns

/-- `WHERE token_hash = ? AND redeemed_at IS NULL AND revoked = 0 AND expires_at > ?` -/
def redeems (tokenHash now : String) (row : GrantColumns) : Bool :=
  row.tokenHash = tokenHash && row.redeemedAt.isNone && row.revoked = 0 && row.expiresAt > now

/-- `SET redeemed_at = ?` -/
def redeemed (now : String) (row : GrantColumns) : GrantColumns := { row with redeemedAt := some now }

theorem redeemed_grantId (now : String) (row : GrantColumns) :
    (redeemed now row).grantId = row.grantId := rfl

def add (grant : Grant) : ColumnTransaction Unit := fun db =>
  match grant.toColumns with
  | .error e => .error e
  | .ok row =>
      if db.grants.rows.any (·.tokenHash = row.tokenHash) then
        .error (uniqueFailed "grants.token_hash")
      else
        match insertRow db.grants row "grants.grant_id" with
        | .error e => .error e
        | .ok grants =>
            if row.accountId.any fun accountId => (db.accounts.find? accountId).isNone then
              .error foreignKeyFailed
            else .ok ((), { db with grants := grants })

def getByTokenHash (text : Text) (tokenHash : String) (db : ColumnDb) :
    Except Error (Option Grant) :=
  (db.grants.rows.find? (·.tokenHash = tokenHash)).mapM (·.read text)

/-- The update with its `RETURNING` clause. -/
def redeemRow (tokenHash now : String) : ColumnTransaction (Option GrantColumns) := fun db =>
  .ok ((db.grants.rows.find? (redeems tokenHash now)).map (redeemed now),
    { db with
      grants := db.grants.updateWhere (redeems tokenHash now) (redeemed now) (redeemed_grantId now) })

/-- The row is read after the transaction that returns it. -/
def redeem (text : Text) (tokenHash : String) (now : Instant) (db : ColumnDb) :
    Except Error (Option Grant) × ColumnDb :=
  match stamp now with
  | .error e => (.error e, db)
  | .ok now =>
      match commitColumns (redeemRow tokenHash now) db with
      | (.error e, db) => (.error e, db)
      | (.ok row, db) => (row.mapM (·.read text), db)

def purgeExpired (now : Instant) : ColumnTransaction Nat := fun db =>
  match stamp now with
  | .error e => .error e
  | .ok now =>
      .ok (db.grants.countWhere (·.expiresAt ≤ now),
        { db with grants := db.grants.deleteWhere (·.expiresAt ≤ now) })

end SqlGrantColumns

/-! ## Roles -/

namespace SqlRoleColumns

def get (text : Text) (name : String) (db : ColumnDb) : Except Error (Option Role) :=
  (db.roles.find? name).mapM (·.read text)

def add (text : Text) (role : Role) : ColumnTransaction Unit := fun db =>
  if (db.roles.find? role.name).isSome then
    .error (.roleExists s!"a role named {repr text role.name} already exists")
  else
    match role.toColumns with
    | .error e => .error e
    | .ok row =>
        match insertRow db.roles row "roles.name" with
        | .error e => .error e
        | .ok roles => .ok ((), { db with roles := roles })

def delete (text : Text) (name : String) : ColumnTransaction Unit := fun db =>
  match db.roles.find? name with
  | none => .error (.roleNotFound noSuchRole)
  | some row =>
      if row.builtin ≠ 0 then
        .error (.invalidRole s!"{repr text name} is a built-in role and cannot be deleted")
      else
        let holders := db.accountRoles.countWhere (·.roleName = name)
        if holders ≠ 0 then
          .error (.roleInUse s!"{holders} account(s) still hold {repr text name}; revoke it first")
        else .ok ((), { db with roles := db.roles.deleteWhere (·.name = name) })

end SqlRoleColumns

end Keyring

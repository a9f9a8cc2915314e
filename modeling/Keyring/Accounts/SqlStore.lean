import Keyring.Storage.Database

/-!
# Accounts, sessions and grants, as rows

Every operation of the three stores is one transaction: `AccountOp`,
`SessionOp` and `GrantOp` list them, and `run` is what each does to the
database.  The last-owner check and the write it guards are in one transaction
of `delete` and `setRoles`; `save` rewrites the roles of an account from the
copy it is given.
-/

set_option autoImplicit false

namespace Keyring

open Relational

def lastOwnerMessage : String := "this is the last owner; appoint another owner first"
def noSuchAccount : String := "no account with that id"

/-- A `SELECT`: it reads and changes nothing. -/
def select {α : Type} (query : Db → α) : Transaction α := fun db => .ok (query db, db)

/-- A statement that cannot fail. -/
def execute {α : Type} (statement : Db → α × Db) : Transaction α := fun db => .ok (statement db)

@[simp] theorem select_run {α : Type} (query : Db → α) (db : Db) :
    (select query).run db = .ok (query db, db) := rfl

@[simp] theorem execute_run {α : Type} (statement : Db → α × Db) (db : Db) :
    (execute statement).run db = .ok (statement db) := rfl

/-! ## Accounts -/

def rolesOf (db : Db) (accountId : String) : List String :=
  ((db.accountRoles.rows.filter (·.accountId = accountId)).insertionSort
    (·.position ≤ ·.position)).map (·.roleName)

def accountOf (db : Db) (row : AccountRow) : Account :=
  { row with roles := rolesOf db row.accountId }

def readAccount (db : Db) (accountId : String) : Option Account :=
  (db.accounts.find? accountId).map (accountOf db)

def readAccountByEmail (db : Db) (email : String) : Option Account :=
  (db.accounts.rows.find? (·.email = email)).map (accountOf db)

def insertRole (accountId : String) (db : Db) (entry : String × Nat) : Option Db :=
  if (db.accounts.find? accountId).isSome && (db.roles.find? entry.1).isSome then
    (db.accountRoles.insert? ⟨accountId, entry.1, entry.2⟩).map fun table =>
      { db with accountRoles := table }
  else none

/-- Replace an account's roles.  A reference that fails is a role that went
away between the caller's check and this write. -/
def writeRoles (accountId : String) (roles : List String) : Transaction Unit := fun db =>
  let cleared :=
    { db with accountRoles := db.accountRoles.deleteWhere (·.accountId = accountId) }
  match (dictFromKeys roles).zipIdx.foldlM (insertRole accountId) cleared with
  | some db' => .ok ((), db')
  | none => .error (.roleNotFound "one of those roles no longer exists")

def checkOwnerSurvives (db : Db) (accountId : String) (keepingOwner : Bool)
    (roles : List String) : Except Error Unit :=
  if keepingOwner || !roles.contains OWNER then .ok ()
  else
    let remaining := db.accountRoles.countWhere fun row =>
      row.roleName = OWNER && row.accountId ≠ accountId
    if remaining = 0 then .error (.lastOwner lastOwnerMessage) else .ok ()

/-- The columns that `save` writes; the id and the creation stamp stay. -/
def AccountRow.overwrite (row : AccountRow) (account : Account) : AccountRow :=
  { account.toAccountRow with accountId := row.accountId, createdAt := row.createdAt }

theorem AccountRow.overwrite_accountId (row : AccountRow) (account : Account) :
    (row.overwrite account).accountId = row.accountId := rfl

def updateAccount (account : Account) : Transaction Unit := fun db =>
  let clash := (db.accounts.find? account.accountId).isSome &&
    db.accounts.rows.any fun row =>
      row.email = account.email && row.accountId ≠ account.accountId
  if clash then .error (uniqueFailed "accounts.email")
  else .ok ((), { db with
    accounts := db.accounts.updateWhere (·.accountId = account.accountId)
      (·.overwrite account) (·.overwrite_accountId account) })

def insertAccount (account : Account) : Transaction Unit := fun db =>
  match insertRow db.accounts account.toAccountRow "accounts.account_id" with
  | .error e => .error e
  | .ok accounts => (writeRoles account.accountId account.roles).run { db with accounts := accounts }

/-- `ORDER BY created_at, account_id`. -/
def AccountRow.before (a b : AccountRow) : Bool :=
  a.createdAt < b.createdAt || (a.createdAt = b.createdAt && a.accountId ≤ b.accountId)

inductive AccountOp where
  | add (account : Account)
  | get (accountId : String)
  | getByEmail (email : String)
  | save (account : Account)
  | delete (accountId : String)
  | count
  | listAll
  | countHolding (role : String)
  | setRoles (accountId : String) (roles : List String) (now : Instant)

namespace AccountOp

@[reducible] def Ans : AccountOp → Type
  | add _ | save _ => Unit
  | get _ | getByEmail _ => Option Account
  | delete _ => Bool
  | count | countHolding _ => Nat
  | listAll => List Account
  | setRoles _ _ _ => Account

def run (text : Text) : (o : AccountOp) → Transaction o.Ans
  | add account => do
      let taken ← select fun db => db.accounts.rows.any (·.email = account.email)
      if taken then
        throw (.accountExists s!"an account already exists for {repr text account.email}")
      insertAccount account
  | get accountId => select fun db => readAccount db accountId
  | getByEmail email => select fun db => readAccountByEmail db email
  | save account => do
      updateAccount account
      writeRoles account.accountId account.roles
  | delete accountId => do
      let db ← MonadState.get
      if (db.accounts.find? accountId).isNone then return false
      liftM (checkOwnerSurvives db accountId false (rolesOf db accountId))
      MonadState.set (db.deleteAccount accountId)
      return true
  | count => select fun db => db.accounts.rows.length
  | listAll => select fun db =>
      (db.accounts.rows.insertionSort (AccountRow.before · ·)).map (accountOf db)
  | countHolding role => select fun db => db.accountRoles.countWhere (·.roleName = role)
  | setRoles accountId roles now => do
      let db ← MonadState.get
      match readAccount db accountId with
      | none => throw (.accountNotFound noSuchAccount)
      | some current =>
          liftM (checkOwnerSurvives db accountId (roles.contains OWNER) current.roles)
          MonadState.set { db with
            accounts := db.accounts.updateWhere (·.accountId = accountId)
              (fun row => { row with updatedAt := now }) fun _ => rfl }
          writeRoles accountId roles
          return current.withRoles roles now

end AccountOp

/-! ## Sessions -/

/-- `ORDER BY created_at, session_id`. -/
def Session.before (a b : Session) : Bool :=
  a.createdAt < b.createdAt || (a.createdAt = b.createdAt && a.sessionId ≤ b.sessionId)

/-- `WHERE expires_at > ? AND absolute_expires_at > ?` -/
def Session.live (session : Session) (now : Instant) : Bool :=
  session.expiresAt > now && session.absoluteExpiresAt > now

/-- The columns of a session that `save` writes. -/
def Session.overwrite (row session : Session) : Session :=
  { row with
    lastUsedAt := session.lastUsedAt
    expiresAt := session.expiresAt
    absoluteExpiresAt := session.absoluteExpiresAt }

theorem Session.overwrite_sessionId (row session : Session) :
    (row.overwrite session).sessionId = row.sessionId := rfl

def insertSession (session : Session) : Transaction Unit := fun db =>
  if db.sessions.rows.any (·.tokenHash = session.tokenHash) then
    .error (uniqueFailed "sessions.token_hash")
  else
    match insertRow db.sessions session "sessions.session_id" with
    | .error e => .error e
    | .ok sessions =>
        if (db.accounts.find? session.accountId).isNone then .error foreignKeyFailed
        else .ok ((), { db with sessions := sessions })

/-- `DELETE FROM sessions WHERE p`; answers the number of rows that went. -/
def deleteSessions (p : Session → Bool) : Transaction Nat :=
  execute fun db =>
    (db.sessions.countWhere p, { db with sessions := db.sessions.deleteWhere p })

inductive SessionOp where
  | add (session : Session)
  | getByTokenHash (tokenHash : String) (now : Instant)
  | save (session : Session)
  | revoke (sessionId : String)
  | revokeAll (accountId : String) (exceptSessionId : Option String)
  | countForAccount (accountId : String) (now : Instant)
  | dropOldest (accountId : String)
  | addWithinCap (session : Session) (cap : Nat)
  | purgeExpired (now : Instant)

namespace SessionOp

@[reducible] def Ans : SessionOp → Type
  | add _ | save _ => Unit
  | getByTokenHash _ _ => Option Session
  | revoke _ => Bool
  | revokeAll _ _ | countForAccount _ _ | dropOldest _ | addWithinCap _ _ | purgeExpired _ => Nat

def run : (o : SessionOp) → Transaction o.Ans
  | add session => insertSession session
  | getByTokenHash tokenHash now => select fun db =>
      db.sessions.rows.find? fun row => row.tokenHash = tokenHash && row.live now
  | save session => execute fun db =>
      ((), { db with
        sessions := db.sessions.updateWhere (·.sessionId = session.sessionId)
          (·.overwrite session) (·.overwrite_sessionId session) })
  | revoke sessionId => do
      let gone ← deleteSessions (·.sessionId = sessionId)
      return gone > 0
  | revokeAll accountId exceptSessionId =>
      deleteSessions fun row =>
        row.accountId = accountId && some row.sessionId ≠ exceptSessionId
  | countForAccount accountId now => select fun db =>
      db.sessions.countWhere fun row => row.accountId = accountId && row.live now
  | dropOldest accountId => do
      let oldest ← select fun db =>
        ((db.sessions.rows.filter (·.accountId = accountId)).insertionSort
          (Session.before · ·)).head?
      deleteSessions fun row => some row.sessionId = oldest.map (·.sessionId)
  | addWithinCap session cap => do
      insertSession session
      let excess ← select fun db =>
        ((db.sessions.rows.filter (·.accountId = session.accountId)).insertionSort
          fun a b => Session.before b a).drop cap
      deleteSessions fun row => (excess.map (·.sessionId)).contains row.sessionId
  | purgeExpired now => deleteSessions fun row =>
      row.expiresAt ≤ now || row.absoluteExpiresAt ≤ now

end SessionOp

/-! ## Grants -/

inductive GrantOp where
  | add (grant : Grant)
  | getByTokenHash (tokenHash : String)
  | redeem (tokenHash : String) (now : Instant)
  | revokeAllForAccount (accountId : String) (purpose : GrantPurpose)
  | purgeExpired (now : Instant)

namespace GrantOp

@[reducible] def Ans : GrantOp → Type
  | add _ => Unit
  | getByTokenHash _ | redeem _ _ => Option Grant
  | revokeAllForAccount _ _ | purgeExpired _ => Nat

/-- `WHERE token_hash = ? AND redeemed_at IS NULL AND revoked = 0 AND expires_at > ?` -/
def redeems (tokenHash : String) (now : Instant) (row : Grant) : Bool :=
  row.tokenHash = tokenHash && row.redeemedAt.isNone && !row.revoked && row.expiresAt > now

def run : (o : GrantOp) → Transaction o.Ans
  | add grant => fun db =>
      if db.grants.rows.any (·.tokenHash = grant.tokenHash) then
        .error (uniqueFailed "grants.token_hash")
      else
        match insertRow db.grants grant "grants.grant_id" with
        | .error e => .error e
        | .ok grants =>
            if grant.accountId.any fun accountId => (db.accounts.find? accountId).isNone then
              .error foreignKeyFailed
            else .ok ((), { db with grants := grants })
  | getByTokenHash tokenHash => select fun db =>
      db.grants.rows.find? (·.tokenHash = tokenHash)
  | redeem tokenHash now => execute fun db =>
      ((db.grants.rows.find? (redeems tokenHash now)).map (·.redeemed now),
        { db with
          grants := db.grants.updateWhere (redeems tokenHash now) (·.redeemed now)
            (·.redeemed_grantId now) })
  | revokeAllForAccount accountId purpose => execute fun db =>
      let hit := fun row : Grant =>
        row.accountId = some accountId && row.purpose = purpose && !row.revoked
      (db.grants.countWhere hit,
        { db with grants := db.grants.updateWhere hit (·.revokedNow) (·.revokedNow_grantId) })
  | purgeExpired now => execute fun db =>
      (db.grants.countWhere (·.expiresAt ≤ now),
        { db with grants := db.grants.deleteWhere (·.expiresAt ≤ now) })

end GrantOp

end Keyring

import Keyring.Accounts.SqlStore

/-!
# Profiles, connections and offline grants, as rows

A connection is a row of its own, written by an upsert that keeps the creation
stamp.  The offline grants of a profile are in the same module: their store
writes to one table that references the profiles.
-/

set_option autoImplicit false

namespace Keyring

open Relational

/-! ## Reading -/

/-- `ORDER BY created_at, service`. -/
def ConnectionRow.before (a b : ConnectionRow) : Bool :=
  a.createdAt < b.createdAt || (a.createdAt = b.createdAt && a.service ≤ b.service)

def connectionsOf (db : Db) (accountId profileName : String) : List Connection :=
  ((db.connections.rows.filter fun row =>
    row.accountId = accountId && row.profileName = profileName).insertionSort
      (ConnectionRow.before · ·)).map (·.toConnection)

def profileOf (db : Db) (row : ProfileRow) : Profile :=
  { row with connections := connectionsOf db row.accountId row.name }

def readProfile (db : Db) (accountId name : String) : Option Profile :=
  (db.profiles.find? (accountId, name)).map (profileOf db)

/-- `ORDER BY created_at, name`. -/
def ProfileRow.before (a b : ProfileRow) : Bool :=
  a.createdAt < b.createdAt || (a.createdAt = b.createdAt && a.name ≤ b.name)

/-! ## Writing -/

def insertProfile (row : ProfileRow) : Transaction Unit := fun db =>
  if db.profiles.rows.any (·.profileId = row.profileId) then
    .error (uniqueFailed "profiles.profile_id")
  else
    match insertRow db.profiles row "profiles.account_id, profiles.name" with
    | .error e => .error e
    | .ok profiles =>
        if (db.accounts.find? row.accountId).isNone then .error foreignKeyFailed
        else .ok ((), { db with profiles := profiles })

/-- The columns of a connection that an upsert overwrites. -/
def ConnectionRow.overwrite (row : ConnectionRow) (item : Connection) : ConnectionRow :=
  { row with
    kind := item.kind
    status := item.status
    updatedAt := item.updatedAt
    expiresAt := item.expiresAt
    scopes := item.scopes
    storesTotpSeed := item.storesTotpSeed
    lastError := item.lastError }

theorem ConnectionRow.overwrite_key (row : ConnectionRow) (item : Connection) :
    (row.overwrite item).key = row.key := rfl

def upsertConnection (accountId name : String) (item : Connection) : Transaction Unit := fun db =>
  if (db.profiles.find? (accountId, name)).isNone then .error foreignKeyFailed
  else .ok ((), { db with
    connections := db.connections.upsert { item with accountId := accountId, profileName := name }
      (·.overwrite item) (·.overwrite_key item) })

def checkConnectionCap (db : Db) (accountId name service : String) (cap : Nat) :
    Except Error Unit :=
  let held := db.connections.countWhere fun row =>
    row.accountId = accountId && row.profileName = name
  if (db.connections.find? (accountId, name, service)).isNone && held ≥ cap then
    .error (.limitExceeded s!"at most {cap} connections per profile")
  else .ok ()

def ProfileRow.touch (row : ProfileRow) (now : Instant) : ProfileRow :=
  { row with updatedAt := now }

theorem ProfileRow.touch_key (row : ProfileRow) (now : Instant) : (row.touch now).key = row.key :=
  rfl

def touchProfile (db : Db) (accountId name : String) (now : Instant) : Db :=
  { db with
    profiles := db.profiles.updateWhere (fun row => row.accountId = accountId && row.name = name)
      (·.touch now) (·.touch_key now) }

inductive ProfileOp where
  | add (profile : Profile) (cap : Nat)
  | get (accountId name : String)
  | listForAccount (accountId : String)
  | putConnection (accountId name : String) (connection : Connection) (cap : Nat) (now : Instant)
  | removeConnection (accountId name service : String) (now : Instant)
  | delete (accountId name : String)
  | countForAccount (accountId : String)
  | allProfiles

namespace ProfileOp

@[reducible] def Ans : ProfileOp → Type
  | add _ _ => Unit
  | get _ _ => Option Profile
  | listForAccount _ | allProfiles => List Profile
  | putConnection _ _ _ _ _ => Connection
  | removeConnection _ _ _ _ | delete _ _ => Bool
  | countForAccount _ => Nat

def run (text : Text) : (o : ProfileOp) → Transaction o.Ans
  | add profile cap => do
      let db ← MonadState.get
      if (db.profiles.find? (profile.accountId, profile.name)).isSome then
        throw (.profileExists s!"a profile named {repr text profile.name} already exists")
      if db.profiles.countWhere (·.accountId = profile.accountId) ≥ cap then
        throw (.limitExceeded s!"at most {cap} profiles per account")
      insertProfile profile.toProfileRow
      profile.connections.forM (upsertConnection profile.accountId profile.name)
  | get accountId name => select fun db => readProfile db accountId name
  | listForAccount accountId => select fun db =>
      ((db.profiles.rows.filter (·.accountId = accountId)).insertionSort
        (ProfileRow.before · ·)).map (profileOf db)
  | putConnection accountId name connection cap now => fun db =>
      if (db.profiles.find? (accountId, name)).isNone then
        .error (.profileNotFound "the profile this connection belongs to no longer exists")
      else
        let touched := touchProfile db accountId name now
        match checkConnectionCap touched accountId name connection.service cap with
        | .error e => .error e
        | .ok () =>
            match (upsertConnection accountId name connection).run touched with
            | .error e => .error e
            | .ok ((), stored) =>
                match stored.connections.find? (accountId, name, connection.service) with
                | some row => .ok (row.toConnection, stored)
                | none => .error (.value "the stored connection was not found")
  | removeConnection accountId name service now => execute fun db =>
      if (db.connections.find? (accountId, name, service)).isSome then
        (true, { touchProfile db accountId name now with
          connections := db.connections.deleteWhere (·.key = (accountId, name, service)) })
      else (false, db)
  | delete accountId name => execute fun db =>
      ((db.profiles.find? (accountId, name)).isSome,
        db.deleteProfiles fun row => row.accountId = accountId && row.name = name)
  | countForAccount accountId => select fun db =>
      db.profiles.countWhere (·.accountId = accountId)
  | allProfiles => select fun db => db.profiles.rows.map (profileOf db)

end ProfileOp

/-! ## Offline grants -/

/-- `ORDER BY created_at, grant_id`. -/
def OfflineGrant.before (a b : OfflineGrant) : Bool :=
  a.createdAt < b.createdAt || (a.createdAt = b.createdAt && a.grantId ≤ b.grantId)

/-- `SET revoked_at = COALESCE(revoked_at, ?)` -/
def OfflineGrant.revoke (row : OfflineGrant) (now : Instant) : OfflineGrant :=
  { row with revokedAt := some (row.revokedAt.getD now) }

theorem OfflineGrant.revoke_grantId (row : OfflineGrant) (now : Instant) :
    (row.revoke now).grantId = row.grantId := rfl

inductive DelegationOp where
  | add (grant : OfflineGrant) (cap : Nat) (now : Instant)
  | forExchange (grantId service : String)
  | listForProfile (accountId profile : String)
  | revoke (accountId profile grantId : String) (now : Instant)

namespace DelegationOp

@[reducible] def Ans : DelegationOp → Type
  | add _ _ _ => Unit
  | forExchange _ _ => Option OfflineGrant
  | listForProfile _ _ => List OfflineGrant
  | revoke _ _ _ _ => Bool

def run : (o : DelegationOp) → Transaction o.Ans
  | add grant cap now => fun db =>
      if (db.profiles.find? (grant.accountId, grant.profile)).isNone then
        .error (.profileNotFound "no profile of that name")
      else if (db.offlineGrants.countWhere fun row =>
          row.accountId = grant.accountId && row.profile = grant.profile &&
            row.revokedAt.isNone && row.expiresAt > now) ≥ cap then
        .error (.limitExceeded "the offline grant limit for this profile was reached")
      else
        match insertRow db.offlineGrants { grant with revokedAt := none }
          "offline_grants.grant_id" with
        | .error e => .error e
        | .ok offlineGrants => .ok ((), { db with offlineGrants := offlineGrants })
  | forExchange grantId service => select fun db =>
      db.offlineGrants.rows.find? fun row => row.grantId = grantId && row.service = service
  | listForProfile accountId profile => select fun db =>
      (db.offlineGrants.rows.filter fun row =>
        row.accountId = accountId && row.profile = profile).insertionSort
          (OfflineGrant.before · ·)
  | revoke accountId profile grantId now => execute fun db =>
      let hit := fun row : OfflineGrant =>
        row.accountId = accountId && row.profile = profile && row.grantId = grantId
      (db.offlineGrants.countWhere hit > 0,
        { db with
          offlineGrants := db.offlineGrants.updateWhere hit (·.revoke now) (·.revoke_grantId now) })

end DelegationOp

end Keyring

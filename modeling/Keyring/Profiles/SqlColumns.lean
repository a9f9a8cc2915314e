import Keyring.Accounts.SqlColumns
import Keyring.Profiles.SqlStore

/-!
# Profiles, connections and offline grants, as columns

A profile and its connections are rows of two tables; the connections are read in the
order of the text of their creation stamps.
-/

set_option autoImplicit false

namespace Keyring

open Relational

/-! ## Profiles -/

/-- `ON CONFLICT (account_id, profile_name, service) DO UPDATE SET ...` -/
def ConnectionColumns.overwrite (row excluded : ConnectionColumns) : ConnectionColumns :=
  { row with
    kind := excluded.kind
    status := excluded.status
    updatedAt := excluded.updatedAt
    expiresAt := excluded.expiresAt
    scopes := excluded.scopes
    storesTotpSeed := excluded.storesTotpSeed
    lastError := excluded.lastError }

theorem ConnectionColumns.overwrite_key (row excluded : ConnectionColumns) :
    (row.overwrite excluded).key = row.key := rfl

/-- `ORDER BY created_at, service` -/
def ConnectionColumns.before (a b : ConnectionColumns) : Bool :=
  a.createdAt < b.createdAt || (a.createdAt = b.createdAt && a.service ≤ b.service)

namespace SqlProfileColumns

def insertProfile (profile : ProfileRow) : ColumnTransaction Unit := fun db =>
  match profile.toColumns with
  | .error e => .error e
  | .ok row =>
      if db.profiles.rows.any (·.profileId = row.profileId) then
        .error (uniqueFailed "profiles.profile_id")
      else
        match insertRow db.profiles row "profiles.account_id, profiles.name" with
        | .error e => .error e
        | .ok profiles =>
            if (db.accounts.find? row.accountId).isNone then .error foreignKeyFailed
            else .ok ((), { db with profiles := profiles })

def upsertConnection (accountId name : String) (item : Connection) : ColumnTransaction Unit :=
  fun db =>
    match item.toColumns accountId name with
    | .error e => .error e
    | .ok row =>
        if (db.profiles.find? (accountId, name)).isNone then .error foreignKeyFailed
        else .ok ((), { db with
          connections := db.connections.upsert row (·.overwrite row) (·.overwrite_key row) })

def upsertConnections (accountId name : String) : List Connection → ColumnTransaction Unit
  | [], db => .ok ((), db)
  | item :: items, db =>
      match (upsertConnection accountId name item).run db with
      | .error e => .error e
      | .ok ((), db) => (upsertConnections accountId name items).run db

def add (text : Text) (profile : Profile) (cap : Nat) : ColumnTransaction Unit := fun db =>
  if (db.profiles.find? (profile.accountId, profile.name)).isSome then
    .error (.profileExists s!"a profile named {repr text profile.name} already exists")
  else if db.profiles.countWhere (·.accountId = profile.accountId) ≥ cap then
    .error (.limitExceeded s!"at most {cap} profiles per account")
  else
    match (insertProfile profile.toProfileRow).run db with
    | .error e => .error e
    | .ok ((), db) =>
        (upsertConnections profile.accountId profile.name profile.connections).run db

/-- The rows of `_connections_of`. -/
def connectionsOf (db : ColumnDb) (accountId profileName : String) : List ConnectionColumns :=
  (db.connections.rows.filter fun row =>
    row.accountId = accountId && row.profileName = profileName).insertionSort
      (ConnectionColumns.before · ·)

def get (text : Text) (accountId name : String) (db : ColumnDb) : Except Error (Option Profile) :=
  (db.profiles.find? (accountId, name)).mapM fun row => do
    let connections ← (connectionsOf db row.accountId row.name).mapM (·.read text)
    row.read text connections

end SqlProfileColumns

/-! ## Offline grants -/

namespace SqlDelegationColumns

def add (grant : OfflineGrant) (cap : Nat) (now : Instant) : ColumnTransaction Unit := fun db =>
  if (db.profiles.find? (grant.accountId, grant.profile)).isNone then
    .error (.profileNotFound "no profile of that name")
  else
    match stamp now with
    | .error e => .error e
    | .ok now =>
        if (db.offlineGrants.countWhere fun row =>
            row.accountId = grant.accountId && row.profile = grant.profile &&
              row.revokedAt.isNone && row.expiresAt > now) ≥ cap then
          .error (.limitExceeded "the offline grant limit for this profile was reached")
        else
          match grant.toColumns with
          | .error e => .error e
          | .ok row =>
              match insertRow db.offlineGrants row "offline_grants.grant_id" with
              | .error e => .error e
              | .ok offlineGrants => .ok ((), { db with offlineGrants := offlineGrants })

def forExchange (text : Text) (grantId service : String) (db : ColumnDb) :
    Except Error (Option OfflineGrant) :=
  (db.offlineGrants.rows.find? fun row => row.grantId = grantId && row.service = service).mapM
    (·.read text)

end SqlDelegationColumns

end Keyring

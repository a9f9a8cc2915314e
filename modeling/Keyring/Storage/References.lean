import Keyring.Accounts.SqlRoles
import Keyring.Accounts.SqlStoreSpec
import Keyring.Secrets.Sql

/-!
# Declared references hold

The statements of the stores keep `ForeignKeys`, and so do the operations on
accounts, sessions, grants, roles, secrets and the audit log.
-/

set_option autoImplicit false

namespace Keyring

open Relational

variable {db db' : Db}

/-! ## Statements -/

theorem ForeignKeys.withSessions (fk : ForeignKeys db) {sessions : Table Session.sessionId}
    (each : ∀ row ∈ sessions, (db.accounts.find? row.accountId).isSome) :
    ForeignKeys { db with sessions := sessions } := { fk with sessions := each }

theorem ForeignKeys.withGrants (fk : ForeignKeys db) {grants : Table Grant.grantId}
    (each : ∀ row ∈ grants, ∀ accountId, row.accountId = some accountId →
      (db.accounts.find? accountId).isSome) :
    ForeignKeys { db with grants := grants } := { fk with grants := each }

theorem ForeignKeys.withSecrets (fk : ForeignKeys db) {secrets : Table SecretRow.key}
    (each : ∀ row ∈ secrets, (db.accounts.find? row.accountId).isSome) :
    ForeignKeys { db with secrets := secrets } := { fk with secrets := each }

theorem ForeignKeys.withAccounts (fk : ForeignKeys db) {accounts : Table AccountRow.accountId}
    (kept : ∀ accountId, (db.accounts.find? accountId).isSome →
      (accounts.find? accountId).isSome) :
    ForeignKeys { db with accounts := accounts } where
  accountRolesAccount := fun row stored => kept _ (fk.accountRolesAccount row stored)
  accountRolesRole := fk.accountRolesRole
  sessions := fun row stored => kept _ (fk.sessions row stored)
  grants := fun row stored accountId named => kept _ (fk.grants row stored accountId named)
  profiles := fun row stored => kept _ (fk.profiles row stored)
  connections := fk.connections
  offlineGrants := fk.offlineGrants
  secrets := fun row stored => kept _ (fk.secrets row stored)

theorem ForeignKeys.withProfiles (fk : ForeignKeys db) {profiles : Table ProfileRow.key}
    {connections : Table ConnectionRow.key} {offlineGrants : Table OfflineGrant.grantId}
    (owned : ∀ row ∈ profiles, (db.accounts.find? row.accountId).isSome)
    (linked : ∀ row ∈ connections, (profiles.find? (row.accountId, row.profileName)).isSome)
    (granted : ∀ row ∈ offlineGrants, (profiles.find? (row.accountId, row.profile)).isSome) :
    ForeignKeys { db with
      profiles := profiles, connections := connections, offlineGrants := offlineGrants } :=
  { fk with profiles := owned, connections := linked, offlineGrants := granted }

theorem RolesWritten.foreignKeys {accountId : String} {roles : List String}
    (written : RolesWritten db accountId roles db') (fk : ForeignKeys db) : ForeignKeys db' := by
  rw [written.frame]
  refine { fk with accountRolesAccount := ?_, accountRolesRole := ?_ }
  · intro row stored
    rcases (written.member row).mp stored with ⟨old, -⟩ | ⟨same, new⟩
    · exact fk.accountRolesAccount row old
    · have given : row.roleName ∈ roles :=
        mem_dictFromKeys.mp (List.fst_mem_of_mem_zipIdx new)
      rw [same]
      exact written.present (List.ne_nil_of_mem given)
  · intro row stored
    rcases (written.member row).mp stored with ⟨old, -⟩ | ⟨same, new⟩
    · exact fk.accountRolesRole row old
    · exact written.known _ (mem_dictFromKeys.mp (List.fst_mem_of_mem_zipIdx new))

theorem ForeignKeys.deleteProfiles (fk : ForeignKeys db) (p : ProfileRow → Bool) :
    ForeignKeys (db.deleteProfiles p) := by
  have kept : ∀ k : String × String, (db.profiles.find? k).isSome →
      ((db.profiles.rows.filter p).map ProfileRow.key).contains k = false →
      ((db.profiles.deleteWhere p).find? k).isSome := by
    intro k present spared
    obtain ⟨row, found⟩ := Option.isSome_iff_exists.mp present
    obtain ⟨stored, keyed⟩ := Table.find?_eq_some.mp found
    have missed : p row = false := by
      rw [List.contains_eq_mem, decide_eq_false_iff_not, List.mem_map] at spared
      rw [← Bool.not_eq_true]
      exact fun hit => spared ⟨row, List.mem_filter.mpr ⟨stored, hit⟩, keyed⟩
    rw [Table.find?_deleteWhere, found]
    simp [missed]
  refine fk.withProfiles (fun row stored => ?_) (fun row stored => ?_) (fun row stored => ?_)
  · exact fk.profiles row (Table.mem_deleteWhere.mp stored).1
  · obtain ⟨old, spared⟩ := Table.mem_deleteWhere.mp stored
    exact kept _ (fk.connections row old) spared
  · obtain ⟨old, spared⟩ := Table.mem_deleteWhere.mp stored
    exact kept _ (fk.offlineGrants row old) spared

theorem ForeignKeys.deleteAccount (fk : ForeignKeys db) (accountId : String) :
    ForeignKeys (db.deleteAccount accountId) := by
  have cascaded := fk.deleteProfiles (·.accountId = accountId)
  have kept : ∀ other, (db.accounts.find? other).isSome → other ≠ accountId →
      ((db.accounts.deleteWhere (·.accountId = accountId)).find? other).isSome := by
    intro other present distinct
    obtain ⟨row, found⟩ := Option.isSome_iff_exists.mp present
    obtain ⟨-, rfl⟩ := Table.find?_eq_some.mp found
    rw [Table.find?_deleteWhere, found]
    simp [distinct]
  refine ⟨?_, ?_, ?_, ?_, ?_, cascaded.connections, cascaded.offlineGrants, ?_⟩
  · intro row stored
    obtain ⟨old, spared⟩ := Table.mem_deleteWhere.mp stored
    exact kept _ (fk.accountRolesAccount row old) (by simpa using spared)
  · intro row stored
    exact fk.accountRolesRole row (Table.mem_deleteWhere.mp stored).1
  · intro row stored
    obtain ⟨old, spared⟩ := Table.mem_deleteWhere.mp stored
    exact kept _ (fk.sessions row old) (by simpa using spared)
  · intro row stored other named
    obtain ⟨old, spared⟩ := Table.mem_deleteWhere.mp stored
    refine kept _ (fk.grants row old other named) ?_
    rintro rfl
    simp [named] at spared
  · intro row stored
    obtain ⟨old, spared⟩ := Table.mem_deleteWhere.mp stored
    exact kept _ (fk.profiles row old) (by simpa using spared)
  · intro row stored
    obtain ⟨old, spared⟩ := Table.mem_deleteWhere.mp stored
    exact kept _ (fk.secrets row old) (by simpa using spared)

/-! ## Operations -/

theorem AccountOp.foreignKeys {text : Text} (o : AccountOp) (fk : ForeignKeys db) {a : o.Ans}
    (committed : (o.run text).run db = .ok (a, db')) : ForeignKeys db' := by
  cases o with
  | add account =>
      obtain ⟨-, accounts, inserted, written⟩ := AccountOp.add_ok committed
      refine written.foreignKeys (fk.withAccounts fun accountId present => ?_)
      rw [Table.find?_insert? inserted]
      split
      · rfl
      · exact present
  | get accountId => rwa [(AccountOp.get_ok committed).2]
  | getByEmail email => rwa [(AccountOp.getByEmail_ok committed).2]
  | save account =>
      refine (AccountOp.save_ok committed).foreignKeys (fk.withAccounts fun accountId present => ?_)
      rw [Table.find?_updateWhere, Option.isSome_map]
      exact present
  | delete accountId =>
      rcases AccountOp.delete_ok committed with ⟨-, -, rfl⟩ | ⟨-, -, -, rfl⟩
      · exact fk
      · exact fk.deleteAccount accountId
  | count => rwa [(AccountOp.count_ok committed).2]
  | listAll => rwa [AccountOp.listAll_ok committed]
  | countHolding role => rwa [AccountOp.countHolding_ok committed]
  | setRoles accountId roles now =>
      obtain ⟨current, -, -, written, -⟩ := AccountOp.setRoles_ok committed
      refine written.foreignKeys (fk.withAccounts fun accountId present => ?_)
      rw [Table.find?_updateWhere, Option.isSome_map]
      exact present

theorem SessionOp.foreignKeys (o : SessionOp) (fk : ForeignKeys db) {a : o.Ans}
    (committed : o.run.run db = .ok (a, db')) : ForeignKeys db' := by
  obtain ⟨same, rows⟩ := SessionOp.frame committed
  rw [same]
  refine fk.withSessions fun row stored => ?_
  rcases rows row stored with ⟨old, before, -, account, -⟩ | ⟨-, present⟩
  · rw [← account]
    exact fk.sessions old before
  · exact present

theorem GrantOp.foreignKeys (o : GrantOp) (fk : ForeignKeys db) {a : o.Ans}
    (committed : o.run.run db = .ok (a, db')) : ForeignKeys db' := by
  obtain ⟨same, rows⟩ := GrantOp.frame committed
  rw [same]
  refine fk.withGrants fun row stored accountId named => ?_
  rcases rows row stored with ⟨old, before, -, -, -, -, account⟩ | ⟨-, present⟩
  · exact fk.grants old before accountId (account.trans named)
  · exact present accountId named

/-- A role is deleted only while nobody holds it. -/
theorem RoleOp.foreignKeys {text : Text} (o : RoleOp) (fk : ForeignKeys db) {a : o.Ans}
    (committed : (o.run text).run db = .ok (a, db')) : ForeignKeys db' := by
  cases o with
  | get name => rwa [(RoleOp.get_ok committed).2]
  | listAll => cases committed; exact fk
  | add role =>
      obtain ⟨table, inserted, rfl⟩ := RoleOp.add_ok committed
      refine { fk with accountRolesRole := fun row stored => ?_ }
      change (table.find? row.roleName).isSome
      rw [Table.find?_insert? inserted]
      split
      · rfl
      · exact fk.accountRolesRole row stored
  | save role =>
      obtain ⟨same, found⟩ := RoleOp.save_ok committed
      rw [same]
      refine { fk with accountRolesRole := fun row stored => ?_ }
      change (db'.roles.find? row.roleName).isSome
      rw [found, Option.isSome_map]
      exact fk.accountRolesRole row stored
  | delete name =>
      obtain ⟨-, free, rfl⟩ := RoleOp.delete_ok committed
      refine { fk with accountRolesRole := fun row stored => ?_ }
      obtain ⟨role, found⟩ := Option.isSome_iff_exists.mp (fk.accountRolesRole row stored)
      have other : role.name ≠ name := by
        rintro rfl
        have keyed := (Table.find?_eq_some.mp found).2
        exact free row.accountId (mem_rolesOf.mpr ⟨row, stored, rfl, keyed.symm⟩)
      change ((db.roles.deleteWhere (·.name = name)).find? row.roleName).isSome
      rw [Table.find?_deleteWhere, found]
      simp [other]
  | resolve names => rwa [(RoleOp.resolve_ok committed).2]

theorem SecretOp.foreignKeys (o : SecretOp) (fk : ForeignKeys db) {a : o.Ans}
    (committed : o.run.run db = .ok (a, db')) : ForeignKeys db' := by
  cases o with
  | get accountId profile service => rwa [(SecretOp.get_ok committed).2]
  | put accountId profile service envelope now =>
      obtain ⟨present, same, -, others⟩ := SecretOp.put_ok committed
      rw [same]
      refine fk.withSecrets fun row stored => ?_
      have found := Table.find?_self stored
      by_cases mine : row.key = (accountId, profile, service)
      · rw [show row.accountId = accountId from congrArg (·.1) mine]
        exact present
      · rw [others _ mine] at found
        exact fk.secrets row (Table.find?_eq_some.mp found).1
  | delete accountId profile service =>
      cases committed
      exact fk.withSecrets fun row stored => fk.secrets row (Table.mem_deleteWhere.mp stored).1
  | deleteProfile accountId profile =>
      cases committed
      exact fk.withSecrets fun row stored => fk.secrets row (Table.mem_deleteWhere.mp stored).1

/-- The audit log is no one's reference. -/
theorem AuditOp.frame {maxEntries : Nat} {o : AuditOp} {a : o.Ans}
    (committed : (o.run maxEntries).run db = .ok (a, db')) :
    db' = { db with audit := db'.audit, auditSequence := db'.auditSequence } := by
  cases o with
  | record entry =>
      simp only [run, StateT.run] at committed
      split at committed
      · cases committed
      · split at committed
        · cases committed
        · cases committed
          rfl
  | recent limit actorId => cases committed; rfl
  | count => cases committed; rfl

theorem AuditOp.foreignKeys {maxEntries : Nat} (o : AuditOp) (fk : ForeignKeys db) {a : o.Ans}
    (committed : (o.run maxEntries).run db = .ok (a, db')) : ForeignKeys db' := by
  rw [AuditOp.frame committed]
  exact { fk with }

end Keyring

import Keyring.Profiles.SqlColumns
import Keyring.Accounts.SqlConditions
import Keyring.Accounts.SqlStoreSpec

/-!
# Storing then loading

For each of the six records the stores write: what a committed `add` leaves in the tables
is read back as the record it was given, with the roles of an account without repetitions
and the connections of a profile in the order of their creation.  An offline grant comes
back as one that was never revoked, since `add` leaves that column out.
-/

set_option autoImplicit false

namespace Keyring

open Relational

variable {text : Text} {columns columns' : ColumnDb}

/-! ## Accounts -/

namespace SqlAccountColumns

/-- The rows that an account's roles are written as. -/
def roleRows (accountId : String) (entries : List (String × Nat)) : List AccountRole :=
  entries.map fun entry => ⟨accountId, entry.1, entry.2⟩

theorem insertRoles_rows {accountId : String} {entries : List (String × Nat)}
    {table table' : Table AccountRole.key}
    (inserted : entries.foldlM (insertRole columns accountId) table = some table') :
    table'.rows = table.rows ++ roleRows accountId entries := by
  induction entries generalizing table with
  | nil =>
      cases inserted
      simp [roleRows]
  | cons entry entries ih =>
      rw [List.foldlM_cons] at inserted
      obtain ⟨mid, first, rest⟩ := Option.bind_eq_some_iff.mp inserted
      unfold insertRole at first
      split at first
      · obtain ⟨fresh, rfl⟩ := Table.insert?_eq_some.mp first
        rw [ih rest]
        simp [Table.append, roleRows]
      · cases first

theorem writeRoles_read {accountId : String} {roles : List String}
    (written : (writeRoles accountId roles).run columns = .ok ((), columns')) :
    rolesOf columns' accountId = dictFromKeys roles ∧
      columns' = { columns with accountRoles := columns'.accountRoles } := by
  simp only [writeRoles, StateT.run] at written
  split at written
  · rename_i table inserted
    cases written
    have rows := insertRoles_rows inserted
    have own : table.rows.filter (·.accountId = accountId) =
        roleRows accountId (dictFromKeys roles).zipIdx := by
      rw [rows, List.filter_append]
      have old : (columns.accountRoles.deleteWhere (·.accountId = accountId)).rows.filter
          (·.accountId = accountId) = [] := by
        rw [List.filter_eq_nil_iff]
        intro row stored
        simpa using (Table.mem_deleteWhere.mp stored).2
      rw [old, List.nil_append, List.filter_eq_self]
      intro row new
      obtain ⟨entry, _, rfl⟩ := List.mem_map.mp new
      simp
    refine ⟨?_, rfl⟩
    rw [rolesOf, own, roleRows, List.Pairwise.insertionSort_eq (zipIdx_positions _ _ _),
      List.map_map]
    simp [Function.comp_def]
  · cases written

theorem get_add {account : Account}
    (added : (add text account).run columns = .ok ((), columns')) :
    get text account.accountId columns' =
      .ok (some { account with roles := dictFromKeys account.roles }) := by
  simp only [add, StateT.run] at added
  split at added
  · cases added
  simp only [insertAccount] at added
  split at added
  · cases added
  rename_i row stored
  split at added
  · cases added
  rename_i accounts inserted
  obtain ⟨held, frame⟩ := writeRoles_read added
  have same : row.accountId = account.accountId := by
    simp only [AccountRow.toColumns, bind_eq_ok, pure_eq_ok] at stored
    obtain ⟨_, -, _, -, _, -, _, -, rfl⟩ := stored
    rfl
  have found : columns'.accounts.find? account.accountId = some row := by
    have kept : columns'.accounts = accounts := by rw [frame]
    rw [kept, Table.find?_insert? (insertRow_ok.mp inserted), if_pos same]
  rw [get, found, Option.mapM_some, same, held, AccountRow.read_toColumns text stored]
  rfl

end SqlAccountColumns

/-! ## Sessions, grants and roles -/

theorem find?_append_new {α : Type} {rows : List α} {row : α} {p : α → Bool}
    (old : ∀ r ∈ rows, p r = false) :
    (rows ++ [row]).find? p = if p row then some row else none := by
  have none : rows.find? p = .none := List.find?_eq_none.mpr fun r stored => by simp [old r stored]
  rw [List.find?_append, none, Option.none_or, List.find?_singleton]

theorem SqlSessionColumns.getByTokenHash_add {session : Session}
    (added : (SqlSessionColumns.add session).run columns = .ok ((), columns')) {now : Instant}
    (inside : Representable now) :
    SqlSessionColumns.getByTokenHash text session.tokenHash now columns' =
      .ok (if session.isExpired now then none else some session) := by
  obtain ⟨column, at_⟩ := stamp_isOk.mpr inside
  simp only [SqlSessionColumns.add, StateT.run] at added
  split at added
  · cases added
  rename_i row stored
  split at added
  · cases added
  rename_i free
  split at added
  · cases added
  rename_i sessions inserted
  split at added
  · cases added
  cases added
  have holds := Session.toColumns_holds stored
  obtain ⟨fresh, rfl⟩ := Table.insert?_eq_some.mp (insertRow_ok.mp inserted)
  have old : ∀ r ∈ columns.sessions.rows, (decide (r.tokenHash = session.tokenHash) &&
      SqlSessionColumns.live column r) = false := by
    intro r member
    simp only [List.any_eq_true, decide_eq_true_eq, not_exists, not_and] at free
    have other : r.tokenHash ≠ session.tokenHash := holds.tokenHash ▸ free r member
    simp [other]
  rw [SqlSessionColumns.getByTokenHash, at_, ok_bind, Table.append, find?_append_new old,
    holds.live at_, Session.live_eq, holds.tokenHash]
  cases expired : session.isExpired now with
  | true =>
      simp only [decide_true, Bool.not_true, Bool.and_false, Bool.false_eq_true, if_false, if_true]
      rfl
  | false => simp [Session.read_toColumns text stored]

theorem SqlGrantColumns.getByTokenHash_add {grant : Grant}
    (added : (SqlGrantColumns.add grant).run columns = .ok ((), columns')) :
    SqlGrantColumns.getByTokenHash text grant.tokenHash columns' = .ok (some grant) := by
  simp only [SqlGrantColumns.add, StateT.run] at added
  split at added
  · cases added
  rename_i row stored
  split at added
  · cases added
  rename_i free
  split at added
  · cases added
  rename_i grants inserted
  split at added
  · cases added
  cases added
  have holds := Grant.toColumns_holds stored
  obtain ⟨fresh, rfl⟩ := Table.insert?_eq_some.mp (insertRow_ok.mp inserted)
  have old : ∀ r ∈ columns.grants.rows, decide (r.tokenHash = grant.tokenHash) = false := by
    intro r member
    simp only [List.any_eq_true, decide_eq_true_eq, not_exists, not_and] at free
    have other : r.tokenHash ≠ grant.tokenHash := holds.tokenHash ▸ free r member
    simp [other]
  rw [SqlGrantColumns.getByTokenHash, Table.append, find?_append_new old, holds.tokenHash,
    decide_eq_true rfl, if_pos rfl, Option.mapM_some, Grant.read_toColumns text stored]
  rfl

theorem SqlRoleColumns.get_add {role : Role}
    (added : (SqlRoleColumns.add text role).run columns = .ok ((), columns')) :
    SqlRoleColumns.get text role.name columns' = .ok (some role) := by
  simp only [SqlRoleColumns.add, StateT.run] at added
  split at added
  · cases added
  split at added
  · cases added
  rename_i row stored
  split at added
  · cases added
  rename_i roles inserted
  cases added
  have same : row.name = role.name := by
    simp only [Role.toColumns, bind_eq_ok, pure_eq_ok] at stored
    obtain ⟨_, -, _, -, _, -, rfl⟩ := stored
    rfl
  have found : roles.find? role.name = some row := by
    rw [Table.find?_insert? (insertRow_ok.mp inserted), if_pos same]
  rw [SqlRoleColumns.get, found, Option.mapM_some, Role.read_toColumns text stored]
  rfl

/-! ## Profiles -/

/-- `ORDER BY created_at, service` -/
def Connection.before (a b : Connection) : Bool :=
  a.createdAt < b.createdAt || (a.createdAt = b.createdAt && a.service ≤ b.service)

namespace SqlProfileColumns

variable {accountId name : String}

/-- Rows that are written from connections of one profile. -/
def Writes (accountId name : String) (row : ConnectionColumns) (item : Connection) : Prop :=
  item.toColumns accountId name = .ok row

theorem Writes.fields {row : ConnectionColumns} {item : Connection}
    (written : Writes accountId name row item) :
    row.key = (accountId, name, item.service) ∧ stamp item.createdAt = .ok row.createdAt := by
  simp only [Writes, Connection.toColumns, bind_eq_ok, pure_eq_ok] at written
  obtain ⟨createdAt, created, _, -, _, -, _, -, rfl⟩ := written
  exact ⟨rfl, created⟩

theorem Writes.service {row : ConnectionColumns} {item : Connection}
    (written : Writes accountId name row item) : row.service = item.service :=
  congrArg (·.2.2) written.fields.1

theorem Writes.before {row row' : ConnectionColumns} {item item' : Connection}
    (first : Writes accountId name row item) (second : Writes accountId name row' item') :
    row.before row' = item.before item' := by
  simp only [ConnectionColumns.before, Connection.before, stamp_lt first.fields.2 second.fields.2,
    stamp_inj first.fields.2 second.fields.2, first.service, second.service]

theorem upsertConnection_ok {item : Connection}
    (upserted : (upsertConnection accountId name item).run columns = .ok ((), columns')) :
    ∃ row, Writes accountId name row item ∧ columns' = { columns with
      connections := columns.connections.upsert row (·.overwrite row) (·.overwrite_key row) } := by
  simp only [upsertConnection, StateT.run] at upserted
  split at upserted
  · cases upserted
  rename_i row stored
  split at upserted
  · cases upserted
  cases upserted
  exact ⟨row, stored, rfl⟩

theorem upsertConnections_rows {items : List Connection}
    (distinct : (items.map (·.service)).Nodup)
    (absent : ∀ row ∈ columns.connections, ∀ item ∈ items, row.key ≠ (accountId, name, item.service))
    (upserted : (upsertConnections accountId name items).run columns = .ok ((), columns')) :
    ∃ rows, List.Forall₂ (Writes accountId name) rows items ∧
      columns'.connections.rows = columns.connections.rows ++ rows ∧
        columns' = { columns with connections := columns'.connections } := by
  induction items generalizing columns with
  | nil =>
      cases upserted
      exact ⟨[], .nil, by simp, rfl⟩
  | cons item items ih =>
      simp only [upsertConnections, StateT.run] at upserted
      split at upserted
      · cases upserted
      rename_i mid first
      obtain ⟨row, written, rfl⟩ := upsertConnection_ok first
      have fresh : row.key ∉ columns.connections.rows.map ConnectionColumns.key := by
        intro taken
        obtain ⟨old, stored, same⟩ := List.mem_map.mp taken
        exact absent old stored item List.mem_cons_self (same.trans written.fields.1)
      rw [List.map_cons, List.nodup_cons] at distinct
      have appended : columns.connections.upsert row (·.overwrite row) (·.overwrite_key row) =
          columns.connections.append row fresh := dif_pos fresh
      rw [appended] at upserted
      have absent' : ∀ old ∈ columns.connections.append row fresh, ∀ later ∈ items,
          old.key ≠ (accountId, name, later.service) := by
        intro old stored later member same
        rcases Table.mem_append.mp stored with before | rfl
        · exact absent old before later (List.mem_cons_of_mem _ member) same
        · rw [written.fields.1] at same
          have equal : item.service = later.service := congrArg (·.2.2) same
          exact distinct.1 (equal ▸ List.mem_map_of_mem member)
      obtain ⟨rows, more, stored, frame⟩ := ih distinct.2 absent' upserted
      exact ⟨row :: rows, .cons written more, by simp [stored, Table.append], by rw [frame]⟩

theorem mapM_read {rows : List ConnectionColumns} {items : List Connection}
    (written : List.Forall₂ (Writes accountId name) rows items) :
    rows.mapM (·.read text) = .ok items := by
  induction written with
  | nil => rfl
  | cons first _ ih =>
      rw [List.mapM_cons, Connection.read_toColumns text first, ih]
      rfl

theorem connectionsOf_read {items : List Connection} {rows : List ConnectionColumns}
    (written : List.Forall₂ (Writes accountId name) rows items)
    (own : (columns.connections.rows.filter fun row =>
      row.accountId = accountId && row.profileName = name) = rows) :
    (connectionsOf columns accountId name).mapM (·.read text) =
      .ok (items.insertionSort (Connection.before · ·)) := by
  rw [connectionsOf, own]
  apply mapM_read
  exact forall₂_insertionSort (fun a b a' b' first second => by rw [first.before second]) written

theorem insertProfile_ok {profile : ProfileRow}
    (inserted : (insertProfile profile).run columns = .ok ((), columns')) :
    ∃ row profiles, profile.toColumns = .ok row ∧ columns.profiles.insert? row = some profiles ∧
      columns' = { columns with profiles := profiles } := by
  simp only [insertProfile, StateT.run] at inserted
  split at inserted
  · cases inserted
  rename_i row stored
  split at inserted
  · cases inserted
  split at inserted
  · cases inserted
  rename_i profiles placed
  split at inserted
  · cases inserted
  cases inserted
  exact ⟨row, profiles, stored, insertRow_ok.mp placed, rfl⟩

/-- `FOREIGN KEY (account_id, profile_name) REFERENCES profiles(account_id, name)` -/
def ConnectionsReferTo (columns : ColumnDb) : Prop :=
  ∀ row ∈ columns.connections, (columns.profiles.find? (row.accountId, row.profileName)).isSome

theorem get_add {profile : Profile} {cap : Nat} (refers : ConnectionsReferTo columns)
    (distinct : (profile.connections.map (·.service)).Nodup)
    (added : (add text profile cap).run columns = .ok ((), columns')) :
    get text profile.accountId profile.name columns' = .ok (some { profile with
      connections := profile.connections.insertionSort (Connection.before · ·) }) := by
  simp only [add, StateT.run] at added
  split at added
  · cases added
  rename_i free
  split at added
  · cases added
  split at added
  · cases added
  rename_i mid first
  obtain ⟨row, profiles, stored, inserted, rfl⟩ := insertProfile_ok first
  have key : row.accountId = profile.accountId ∧ row.name = profile.name := by
    simp only [ProfileRow.toColumns, bind_eq_ok, pure_eq_ok] at stored
    obtain ⟨_, -, _, -, rfl⟩ := stored
    exact ⟨rfl, rfl⟩
  have none : ∀ old ∈ columns.connections,
      ¬(old.accountId = profile.accountId ∧ old.profileName = profile.name) := by
    rintro old member ⟨account, named⟩
    have present := refers old member
    rw [account, named] at present
    exact free present
  let entered : ColumnDb := { columns with profiles := profiles }
  have unconnected : ∀ old ∈ entered.connections, ∀ item ∈ profile.connections,
      old.key ≠ (profile.accountId, profile.name, item.service) :=
    fun old member item _ same => none old member
      ⟨congrArg (·.1) same, congrArg (·.2.1) same⟩
  obtain ⟨rows, written, appended, frame⟩ := upsertConnections_rows distinct unconnected added
  have found : columns'.profiles.find? (profile.accountId, profile.name) = some row := by
    have kept : columns'.profiles = profiles := by rw [frame]
    rw [kept, Table.find?_insert? inserted, ProfileColumns.key, key.1, key.2, if_pos rfl]
  have own : (columns'.connections.rows.filter fun row =>
      row.accountId = profile.accountId && row.profileName = profile.name) = rows := by
    rw [appended, List.filter_append]
    have old : columns.connections.rows.filter (fun row =>
        row.accountId = profile.accountId && row.profileName = profile.name) = [] := by
      rw [List.filter_eq_nil_iff]
      intro old member
      simpa using none old member
    rw [old, List.nil_append, List.filter_eq_self]
    intro new member
    obtain ⟨item, -, same⟩ := forall₂_mem_left written member
    have account : new.accountId = profile.accountId := congrArg (·.1) same.fields.1
    have named : new.profileName = profile.name := congrArg (·.2.1) same.fields.1
    simp [account, named]
  rw [get, found, Option.mapM_some, key.1, key.2, connectionsOf_read written own, ok_bind,
    ProfileRow.read_toColumns text stored]
  rfl

end SqlProfileColumns

/-! ## Offline grants -/

theorem SqlDelegationColumns.forExchange_add {grant : OfflineGrant} {cap : Nat} {now : Instant}
    (added : (SqlDelegationColumns.add grant cap now).run columns = .ok ((), columns')) :
    SqlDelegationColumns.forExchange text grant.grantId grant.service columns' =
      .ok (some { grant with revokedAt := none }) := by
  simp only [SqlDelegationColumns.add, StateT.run] at added
  split at added
  · cases added
  split at added
  · cases added
  split at added
  · cases added
  split at added
  · cases added
  rename_i row stored
  split at added
  · cases added
  rename_i grants inserted
  cases added
  have same : row.grantId = grant.grantId ∧ row.service = grant.service := by
    simp only [OfflineGrant.toColumns, bind_eq_ok, pure_eq_ok] at stored
    obtain ⟨_, -, _, -, _, -, rfl⟩ := stored
    exact ⟨rfl, rfl⟩
  obtain ⟨fresh, rfl⟩ := Table.insert?_eq_some.mp (insertRow_ok.mp inserted)
  have old : ∀ r ∈ columns.offlineGrants.rows,
      (decide (r.grantId = grant.grantId) && decide (r.service = grant.service)) = false := by
    intro r member
    have other : r.grantId ≠ grant.grantId := fun taken =>
      fresh (List.mem_map.mpr ⟨r, member, taken.trans same.1.symm⟩)
    simp [other]
  rw [SqlDelegationColumns.forExchange, Table.append, find?_append_new old, same.1, same.2,
    decide_eq_true rfl, decide_eq_true rfl, Bool.and_self, if_pos rfl, Option.mapM_some,
    OfflineGrant.read_toColumns text stored]
  rfl

/-! ## Every record -/

/-- What the stores store.  A profile's connections are to distinct services. -/
inductive Record where
  | account (account : Account)
  | session (session : Session)
  | grant (grant : Grant)
  | role (role : Role)
  | profile (profile : Profile) (distinct : (profile.connections.map (·.service)).Nodup)
  | offlineGrant (grant : OfflineGrant)

namespace Record

/-- The `add` of the record's store; the cap is that of a profile or of an offline grant. -/
def add (text : Text) (cap : Nat) (now : Instant) : Record → ColumnTransaction Unit
  | .account a => SqlAccountColumns.add text a
  | .session s => SqlSessionColumns.add s
  | .grant g => SqlGrantColumns.add g
  | .role r => SqlRoleColumns.add text r
  | .profile p _ => SqlProfileColumns.add text p cap
  | .offlineGrant g => SqlDelegationColumns.add g cap now

/-- The record is read back as it was given.  A session is found until it expires. -/
def Loaded (text : Text) (columns : ColumnDb) : Record → Prop
  | .account a => SqlAccountColumns.get text a.accountId columns =
      .ok (some { a with roles := dictFromKeys a.roles })
  | .session s => ∀ now, Representable now →
      SqlSessionColumns.getByTokenHash text s.tokenHash now columns =
        .ok (if s.isExpired now then none else some s)
  | .grant g => SqlGrantColumns.getByTokenHash text g.tokenHash columns = .ok (some g)
  | .role r => SqlRoleColumns.get text r.name columns = .ok (some r)
  | .profile p _ => SqlProfileColumns.get text p.accountId p.name columns =
      .ok (some { p with connections := p.connections.insertionSort (Connection.before · ·) })
  | .offlineGrant g =>
      SqlDelegationColumns.forExchange text g.grantId g.service columns = .ok (some g)

/-- An offline grant that was revoked before it was added. -/
def RevokedBefore : Record → Prop
  | .offlineGrant g => g.revokedAt.isSome
  | _ => False

/-- What a store adds is loaded as it was, unless it is a revoked offline grant. -/
theorem loaded_iff (text : Text) (cap : Nat) (now : Instant) (record : Record)
    (columns columns' : ColumnDb) (refers : SqlProfileColumns.ConnectionsReferTo columns)
    (added : (record.add text cap now).run columns = .ok ((), columns')) :
    record.Loaded text columns' ↔ ¬record.RevokedBefore := by
  cases record with
  | account account =>
      exact iff_of_true (SqlAccountColumns.get_add added) not_false
  | session session =>
      exact iff_of_true (fun now inside => SqlSessionColumns.getByTokenHash_add added inside)
        not_false
  | grant grant => exact iff_of_true (SqlGrantColumns.getByTokenHash_add added) not_false
  | role role => exact iff_of_true (SqlRoleColumns.get_add added) not_false
  | profile profile distinct =>
      exact iff_of_true (SqlProfileColumns.get_add refers distinct added) not_false
  | offlineGrant grant =>
      simp only [Loaded, RevokedBefore, SqlDelegationColumns.forExchange_add added,
        Except.ok.injEq, Option.some.injEq]
      cases revoked : grant.revokedAt with
      | none => simp [← revoked]
      | some instant =>
          have other : { grant with revokedAt := none } ≠ grant := by
            intro same
            rw [← same] at revoked
            cases revoked
          simpa using other

/-- The tables of an account with one profile. -/
def home : ColumnDb :=
  { ColumnDb.empty with
    profiles := ⟨[⟨"acct_1", "home", "prof_1", "1970-01-01T00:00:00.000000+00:00",
      "1970-01-01T00:00:00.000000+00:00"⟩], by decide⟩ }

def revokedOffline : OfflineGrant :=
  ⟨"og_1", "acct_1", "home", "spotify", ["media"], 0, 60000000, some 1000000⟩

/-- The tables with the grant, and NULL for the stamp of its revocation. -/
def homeGranted : ColumnDb :=
  { home with
    offlineGrants := ⟨[⟨"og_1", "acct_1", "home", "spotify", "[\"media\"]",
      "1970-01-01T00:00:00.000000+00:00", "1970-01-01T00:01:00.000000+00:00", none⟩], by decide⟩ }

theorem add_revokedOffline (text : Text) :
    ((offlineGrant revokedOffline).add text 8 0).run home = .ok ((), homeGranted) := rfl

theorem loaded_iff_revokedOffline :
    let text : Text := ⟨id, fun _ => true, Char.isDigit, fun _ => none⟩
    (offlineGrant revokedOffline).Loaded text homeGranted ↔
      ¬(offlineGrant revokedOffline).RevokedBefore :=
  loaded_iff _ 8 0 _ home homeGranted (fun _ stored => by cases stored) (add_revokedOffline _)

/-- Not everything that is stored is loaded: this grant comes back as one that may be
exchanged. -/
theorem not_every_record_loaded :
    ¬∀ (text : Text) (cap : Nat) (now : Instant) (record : Record) (columns columns' : ColumnDb),
      SqlProfileColumns.ConnectionsReferTo columns →
        (record.add text cap now).run columns = .ok ((), columns') →
          record.Loaded text columns' := by
  intro every
  let text : Text := ⟨id, fun _ => true, Char.isDigit, fun _ => none⟩
  have loaded := every text 8 0 (offlineGrant revokedOffline) home homeGranted
    (fun _ stored => by cases stored) (add_revokedOffline text)
  have added : (SqlDelegationColumns.add revokedOffline 8 0).run home = .ok ((), homeGranted) :=
    add_revokedOffline text
  have read := @SqlDelegationColumns.forExchange_add text _ _ _ _ _ added
  simp only [Loaded] at loaded
  rw [read] at loaded
  have same := congrArg OfflineGrant.revokedAt (Option.some.inj (Except.ok.inj loaded))
  cases same

end Record

end Keyring

import Keyring.Profiles.SqlStore
import Keyring.Storage.References

/-!
# What the profile store commits

`ConnectionPut` and `ProfileGone` say what a committed write leaves behind, by
the rows that a select then finds.
-/

set_option autoImplicit false

namespace Keyring

open Relational

variable {db db' : Db}

/-! ## Statements -/

theorem find?_touchProfile (db : Db) (accountId name : String) (now : Instant)
    (k : String × String) :
    (touchProfile db accountId name now).profiles.find? k =
      (db.profiles.find? k).map fun row =>
        if row.accountId = accountId && row.name = name then row.touch now else row := by
  rw [touchProfile, Table.find?_updateWhere]

theorem isSome_touchProfile (db : Db) (accountId name : String) (now : Instant)
    (k : String × String) :
    ((touchProfile db accountId name now).profiles.find? k).isSome =
      (db.profiles.find? k).isSome := by
  rw [find?_touchProfile, Option.isSome_map]

theorem ForeignKeys.touchProfile (fk : ForeignKeys db) (accountId name : String)
    (now : Instant) : ForeignKeys (touchProfile db accountId name now) := by
  refine fk.withProfiles (fun row stored => ?_) (fun row stored => ?_) (fun row stored => ?_)
  · obtain ⟨old, before, rfl⟩ := (Table.mem_updateWhere (·.touch_key now)).mp stored
    have owned := fk.profiles old before
    split <;> exact owned
  · exact (isSome_touchProfile db accountId name now _).trans (fk.connections row stored)
  · exact (isSome_touchProfile db accountId name now _).trans (fk.offlineGrants row stored)

theorem insertProfile_ok {row : ProfileRow} {u : Unit}
    (inserted : (insertProfile row).run db = .ok (u, db')) :
    (db.accounts.find? row.accountId).isSome ∧
      ∃ table, db.profiles.insert? row = some table ∧ db' = { db with profiles := table } := by
  simp only [insertProfile, StateT.run] at inserted
  split at inserted
  · cases inserted
  · split at inserted
    · cases inserted
    · rename_i table stored
      split at inserted
      · cases inserted
      · rename_i present
        rw [Option.isNone_iff_eq_none, ← ne_eq, Option.ne_none_iff_isSome] at present
        cases inserted
        exact ⟨present, table, insertRow_ok.mp stored, rfl⟩

theorem upsertConnection_ok {accountId name : String} {item : Connection} {u : Unit}
    (written : (upsertConnection accountId name item).run db = .ok (u, db')) :
    (db.profiles.find? (accountId, name)).isSome ∧
      db' = { db with
        connections := db.connections.upsert { item with accountId := accountId, profileName := name }
          (·.overwrite item) (·.overwrite_key item) } := by
  simp only [upsertConnection, StateT.run] at written
  split at written
  · cases written
  · rename_i present
    rw [Option.isNone_iff_eq_none, ← ne_eq, Option.ne_none_iff_isSome] at present
    cases written
    exact ⟨present, rfl⟩

theorem upsertConnection_foreignKeys {accountId name : String} {item : Connection} {u : Unit}
    (fk : ForeignKeys db) (written : (upsertConnection accountId name item).run db = .ok (u, db')) :
    ForeignKeys db' := by
  obtain ⟨present, rfl⟩ := upsertConnection_ok written
  refine fk.withProfiles fk.profiles (fun row stored => ?_) fk.offlineGrants
  rcases Table.mem_upsert stored with old | ⟨same, -⟩
  · exact fk.connections row old
  · rw [ConnectionRow.key, ConnectionRow.key] at same
    injection same with account rest
    injection rest with profile service
    rw [account, profile]
    exact present

theorem upsertConnections_foreignKeys {accountId name : String} {items : List Connection}
    {u : Unit} (fk : ForeignKeys db)
    (written : (items.forM (upsertConnection accountId name)).run db = .ok (u, db')) :
    ForeignKeys db' := by
  induction items generalizing db with
  | nil => cases written; exact fk
  | cons item items ih =>
      change (upsertConnection accountId name item >>= fun _ =>
        items.forM (upsertConnection accountId name)).run db = _ at written
      rw [StateT.run_bind] at written
      cases first : (upsertConnection accountId name item).run db with
      | error e => rw [first] at written; cases written
      | ok r =>
          rw [first] at written
          exact ih (upsertConnection_foreignKeys fk first) written

theorem upsertConnections_frame {accountId name : String} {items : List Connection} {u : Unit}
    (written : (items.forM (upsertConnection accountId name)).run db = .ok (u, db')) :
    db' = { db with connections := db'.connections } := by
  induction items generalizing db with
  | nil => cases written; rfl
  | cons item items ih =>
      change (upsertConnection accountId name item >>= fun _ =>
        items.forM (upsertConnection accountId name)).run db = _ at written
      rw [StateT.run_bind] at written
      cases first : (upsertConnection accountId name item).run db with
      | error e => rw [first] at written; cases written
      | ok r =>
          obtain ⟨v, mid⟩ := r
          rw [first] at written
          rw [ih written, (upsertConnection_ok first).2]

theorem insertProfile_foreignKeys {row : ProfileRow} {u : Unit} (fk : ForeignKeys db)
    (inserted : (insertProfile row).run db = .ok (u, db')) : ForeignKeys db' := by
  obtain ⟨owner, table, added, rfl⟩ := insertProfile_ok inserted
  have kept : ∀ k, (db.profiles.find? k).isSome → (table.find? k).isSome := by
    intro k present
    rw [Table.find?_insert? added]
    split
    · rfl
    · exact present
  refine fk.withProfiles (fun row' stored => ?_)
    (fun row' stored => kept _ (fk.connections row' stored))
    (fun row' stored => kept _ (fk.offlineGrants row' stored))
  rcases (Table.mem_insert? added).mp stored with old | rfl
  · exact fk.profiles row' old
  · exact owner

/-! ## Operations -/

/-- What a committed `putConnection` leaves behind. -/
structure ConnectionPut (db : Db) (accountId name : String) (connection : Connection)
    (db' : Db) : Prop where
  present : (db.profiles.find? (accountId, name)).isSome
  frame : db' = { db with profiles := db'.profiles, connections := db'.connections }
  profiles : ∀ k, (db'.profiles.find? k).isSome = (db.profiles.find? k).isSome
  written : ∃ row, db'.connections.find? (accountId, name, connection.service) = some row ∧
    row.toConnection = { connection with createdAt := row.createdAt }
  others : ∀ triple, triple ≠ (accountId, name, connection.service) →
    db'.connections.find? triple = db.connections.find? triple
  references : ForeignKeys db → ForeignKeys db'

namespace ProfileOp

variable {text : Text}

theorem get_ok {accountId name : String} {found : Option Profile}
    (committed : ((get accountId name).run text).run db = .ok (found, db')) :
    found = readProfile db accountId name ∧ db' = db := by
  cases committed
  exact ⟨rfl, rfl⟩

theorem putConnection_ok {accountId name : String} {connection stored : Connection} {cap : Nat}
    {now : Instant}
    (committed : ((putConnection accountId name connection cap now).run text).run db =
      .ok (stored, db')) :
    ConnectionPut db accountId name connection db' ∧
      checkConnectionCap db accountId name connection.service cap = .ok () := by
  simp only [run, StateT.run] at committed
  split at committed
  · cases committed
  · rename_i present
    rw [Option.isNone_iff_eq_none, ← ne_eq, Option.ne_none_iff_isSome] at present
    split at committed
    · cases committed
    · rename_i checked
      split at committed
      · cases committed
      · rename_i after upserted
        have upserted : (upsertConnection accountId name connection).run
            (touchProfile db accountId name now) = .ok ((), after) := upserted
        have kept := fun fk : ForeignKeys db =>
          upsertConnection_foreignKeys (fk.touchProfile accountId name now) upserted
        obtain ⟨-, rfl⟩ := upsertConnection_ok upserted
        split at committed
        · rename_i row found
          cases committed
          refine ⟨⟨present, rfl, isSome_touchProfile db accountId name now, ⟨row, found, ?_⟩,
            fun triple other => ?_, kept⟩, checked⟩
          · have keyed : row.service = connection.service :=
              congrArg (·.2.2) (Table.find?_eq_some.mp found).2
            rw [Table.find?_upsert] at found
            rw [ConnectionRow.key, if_pos rfl, Option.some.injEq] at found
            subst found
            revert keyed
            cases (touchProfile db accountId name now).connections.find?
                (accountId, name, connection.service) with
            | none => exact fun _ => rfl
            | some old =>
                intro keyed
                change old.service = connection.service at keyed
                simp [ConnectionRow.overwrite, keyed]
          · rw [Table.find?_upsert]
            exact if_neg (Ne.symm other)
        · cases committed

theorem removeConnection_ok {accountId name service : String} {now : Instant} {gone : Bool}
    (committed : ((removeConnection accountId name service now).run text).run db =
      .ok (gone, db')) :
    db' = { db with profiles := db'.profiles, connections := db'.connections } ∧
      (∀ k, (db'.profiles.find? k).isSome = (db.profiles.find? k).isSome) ∧
      (∀ triple, db'.connections.find? triple =
        if triple = (accountId, name, service) then none else db.connections.find? triple) ∧
      (ForeignKeys db → ForeignKeys db') := by
  change Except.ok (if _ then _ else _) = Except.ok _ at committed
  split at committed
  · cases committed
    refine ⟨rfl, isSome_touchProfile db accountId name now, fun triple => ?_, fun fk => ?_⟩
    · rw [Table.find?_deleteWhere]
      cases found : db.connections.find? triple with
      | none => simp
      | some row =>
          obtain ⟨-, rfl⟩ := Table.find?_eq_some.mp found
          by_cases same : row.key = (accountId, name, service) <;> simp [same]
    · have touched := fk.touchProfile accountId name now
      exact touched.withProfiles touched.profiles
        (fun row stored => touched.connections row (Table.mem_deleteWhere.mp stored).1)
        touched.offlineGrants
  · rename_i absent
    rw [Bool.not_eq_true, Option.isSome_eq_false_iff, Option.isNone_iff_eq_none] at absent
    cases committed
    refine ⟨rfl, fun _ => rfl, fun triple => ?_, id⟩
    split
    · rename_i same
      rw [same, absent]
    · rfl

theorem delete_ok {accountId name : String} {gone : Bool}
    (committed : ((delete accountId name).run text).run db = .ok (gone, db')) :
    gone = (db.profiles.find? (accountId, name)).isSome ∧
      db' = db.deleteProfiles fun row => row.accountId = accountId && row.name = name := by
  cases committed
  exact ⟨rfl, rfl⟩

/-- A committed `add` has inserted the profile, and then its connections. -/
theorem add_committed {profile : Profile} {cap : Nat} {u : Unit}
    (committed : ((add profile cap).run text).run db = .ok (u, db')) :
    db.profiles.find? (profile.accountId, profile.name) = none ∧
      ∃ v mid, (insertProfile profile.toProfileRow).run db = .ok (v, mid) ∧
        (profile.connections.forM (upsertConnection profile.accountId profile.name)).run mid =
          .ok (u, db') := by
  simp only [run] at committed
  change (if _ then _ else _ : Transaction Unit).run db = _ at committed
  split at committed
  · cases committed
  · rename_i free
    change (if _ then _ else _ : Transaction Unit).run db = _ at committed
    split at committed
    · cases committed
    · change (insertProfile profile.toProfileRow >>= _ : Transaction Unit).run db = _ at committed
      rw [StateT.run_bind] at committed
      cases inserted : (insertProfile profile.toProfileRow).run db with
      | error e =>
          rw [inserted] at committed
          cases committed
      | ok r =>
          obtain ⟨v, mid⟩ := r
          rw [inserted] at committed
          exact ⟨Option.not_isSome_iff_eq_none.mp free, v, mid, rfl, committed⟩

theorem add_ok {profile : Profile} {cap : Nat} {u : Unit} (bare : profile.connections = [])
    (committed : ((add profile cap).run text).run db = .ok (u, db')) :
    db.profiles.find? (profile.accountId, profile.name) = none ∧
      (db.accounts.find? profile.accountId).isSome ∧
      ∃ table, db.profiles.insert? profile.toProfileRow = some table ∧
        db' = { db with profiles := table } := by
  obtain ⟨free, v, mid, inserted, connected⟩ := add_committed committed
  rw [bare] at connected
  cases connected
  exact ⟨free, insertProfile_ok inserted⟩

/-- A committed `add` has counted fewer profiles than the cap. -/
theorem add_counted {profile : Profile} {cap : Nat} {u : Unit}
    (committed : ((add profile cap).run text).run db = .ok (u, db')) :
    db.profiles.countWhere (·.accountId = profile.accountId) < cap := by
  simp only [run] at committed
  change (if _ then _ else _ : Transaction Unit).run db = _ at committed
  split at committed
  · cases committed
  · change (if _ then _ else _ : Transaction Unit).run db = _ at committed
    split at committed
    · cases committed
    · rename_i room
      exact Nat.lt_of_not_ge room

/-- A committed `putConnection` stamps the profile and writes one connection. -/
theorem putConnection_committed {accountId name : String} {connection stored : Connection}
    {cap : Nat} {now : Instant}
    (committed : ((putConnection accountId name connection cap now).run text).run db =
      .ok (stored, db')) :
    db' = { touchProfile db accountId name now with
      connections := db.connections.upsert
        { connection with accountId := accountId, profileName := name }
        (·.overwrite connection) (·.overwrite_key connection) } := by
  simp only [run, StateT.run] at committed
  split at committed
  · cases committed
  · split at committed
    · cases committed
    · split at committed
      · cases committed
      · rename_i after upserted
        have upserted : (upsertConnection accountId name connection).run
            (touchProfile db accountId name now) = .ok ((), after) := upserted
        obtain ⟨-, rfl⟩ := upsertConnection_ok upserted
        split at committed
        · cases committed
          rfl
        · cases committed

theorem putConnection_returned {accountId name : String} {connection stored : Connection}
    {cap : Nat} {now : Instant} {row : ConnectionRow}
    (committed : ((putConnection accountId name connection cap now).run text).run db =
      .ok (stored, db'))
    (written : db'.connections.find? (accountId, name, connection.service) = some row) :
    stored = row.toConnection := by
  simp only [run, StateT.run] at committed
  split at committed
  · cases committed
  · split at committed
    · cases committed
    · split at committed
      · cases committed
      · split at committed
        · rename_i found
          cases committed
          rw [written] at found
          cases found
          rfl
        · cases committed

theorem putConnection_profiles {accountId name : String} {connection stored : Connection}
    {cap : Nat} {now : Instant}
    (committed : ((putConnection accountId name connection cap now).run text).run db =
      .ok (stored, db')) : db'.profiles = (touchProfile db accountId name now).profiles := by
  rw [putConnection_committed committed]

theorem checkConnectionCap_ok {accountId name service : String} {cap : Nat}
    (passed : checkConnectionCap db accountId name service cap = .ok ())
    (new : (db.connections.find? (accountId, name, service)).isNone) :
    (db.connections.countWhere fun row =>
      row.accountId = accountId && row.profileName = name) < cap := by
  simp only [checkConnectionCap, new, Bool.true_and, decide_eq_true_eq] at passed
  split at passed
  · cases passed
  · rename_i room
    exact Nat.lt_of_not_ge room

theorem putConnection_replaces {accountId name : String} {connection : Connection} {cap : Nat}
    {now : Instant}
    (there : (db.connections.find? (accountId, name, connection.service)).isSome) (message : String) :
    ((putConnection accountId name connection cap now).run text).run db ≠
      .error (.limitExceeded message) := by
  intro refused
  have passes : checkConnectionCap (touchProfile db accountId name now) accountId name
      connection.service cap = .ok () := by
    have taken : (db.connections.find? (accountId, name, connection.service)).isNone = false := by
      rw [Option.isNone_eq_false_iff]
      exact there
    unfold checkConnectionCap
    rw [show (touchProfile db accountId name now).connections = db.connections from rfl, taken]
    rfl
  simp only [run, StateT.run] at refused
  split at refused
  · cases refused
  · rw [passes] at refused
    simp only [upsertConnection] at refused
    split at refused
    · rename_i wrong
      split at wrong
      · cases wrong
        cases refused
      · cases wrong
    · split at refused <;> cases refused

theorem putConnection_finds {accountId name : String} {connection : Connection} {cap : Nat}
    {now : Instant} (there : (db.profiles.find? (accountId, name)).isSome) (message : String) :
    ((putConnection accountId name connection cap now).run text).run db ≠
      .error (.profileNotFound message) := by
  intro refused
  simp only [run, StateT.run] at refused
  split at refused
  · rename_i absent
    rw [Option.isNone_iff_eq_none] at absent
    simp [absent] at there
  · split at refused
    · rename_i full
      simp only [checkConnectionCap] at full
      split at full
      · cases full
        cases refused
      · cases full
    · simp only [upsertConnection] at refused
      split at refused
      · rename_i wrong
        split at wrong
        · cases wrong
          cases refused
        · cases wrong
      · split at refused <;> cases refused

theorem putConnection_refused {accountId name : String} {connection : Connection} {cap : Nat}
    {now : Instant} {e : Error}
    (refused : ((putConnection accountId name connection cap now).run text).run db = .error e) :
    (∃ message, e = .profileNotFound message) ∨ ∃ message, e = .limitExceeded message := by
  simp only [run, StateT.run] at refused
  split at refused
  · cases refused
    exact Or.inl ⟨_, rfl⟩
  · rename_i present
    split at refused
    · rename_i full
      simp only [checkConnectionCap] at full
      split at full
      · cases full
        cases refused
        exact Or.inr ⟨_, rfl⟩
      · cases full
    · have touched : ((touchProfile db accountId name now).profiles.find? (accountId, name)).isNone =
          false := by
        have kept := isSome_touchProfile db accountId name now (accountId, name)
        rw [Bool.not_eq_true] at present
        rw [Option.isNone_eq_false_iff] at present ⊢
        rw [kept, present]
      simp only [upsertConnection, touched] at refused
      have stored := Table.find?_upsert (touchProfile db accountId name now).connections
      simp [stored, ConnectionRow.key] at refused

theorem frame {o : ProfileOp} {a : o.Ans} (committed : (o.run text).run db = .ok (a, db')) :
    db' = { db with
      profiles := db'.profiles
      connections := db'.connections
      offlineGrants := db'.offlineGrants } := by
  cases o with
  | add profile cap =>
      obtain ⟨-, v, mid, inserted, connected⟩ := add_committed committed
      obtain ⟨-, table, -, rfl⟩ := insertProfile_ok inserted
      rw [upsertConnections_frame connected]
  | get accountId name => rw [(get_ok committed).2]
  | listForAccount accountId => cases committed; rfl
  | putConnection accountId name connection cap now =>
      rw [(putConnection_ok committed).1.frame]
  | removeConnection accountId name service now => rw [(removeConnection_ok committed).1]
  | delete accountId name => rw [(delete_ok committed).2]; rfl
  | countForAccount accountId => cases committed; rfl
  | allProfiles => cases committed; rfl

theorem foreignKeys (o : ProfileOp) (fk : ForeignKeys db) {a : o.Ans}
    (committed : (o.run text).run db = .ok (a, db')) : ForeignKeys db' := by
  cases o with
  | add profile cap =>
      obtain ⟨-, v, mid, inserted, connected⟩ := add_committed committed
      exact upsertConnections_foreignKeys (insertProfile_foreignKeys fk inserted) connected
  | get accountId name => rwa [(get_ok committed).2]
  | listForAccount accountId => cases committed; exact fk
  | putConnection accountId name connection cap now =>
      exact (putConnection_ok committed).1.references fk
  | removeConnection accountId name service now =>
      exact (removeConnection_ok committed).2.2.2 fk
  | delete accountId name =>
      rw [(delete_ok committed).2]
      exact fk.deleteProfiles _
  | countForAccount accountId => cases committed; exact fk
  | allProfiles => cases committed; exact fk

end ProfileOp

/-! ## Offline grants -/

namespace DelegationOp

theorem frame {o : DelegationOp} {a : o.Ans} (committed : o.run.run db = .ok (a, db')) :
    db' = { db with offlineGrants := db'.offlineGrants } ∧
      ∀ row ∈ db'.offlineGrants,
        (∃ old ∈ db.offlineGrants, old.accountId = row.accountId ∧ old.profile = row.profile) ∨
          (db.profiles.find? (row.accountId, row.profile)).isSome := by
  cases o with
  | add grant cap now =>
      simp only [run, StateT.run] at committed
      split at committed
      · cases committed
      · rename_i present
        rw [Option.isNone_iff_eq_none, ← ne_eq, Option.ne_none_iff_isSome] at present
        split at committed
        · cases committed
        · split at committed
          · cases committed
          · rename_i table inserted
            cases committed
            refine ⟨rfl, fun row stored => ?_⟩
            rcases (Table.mem_insert? (insertRow_ok.mp inserted)).mp stored with old | rfl
            · exact Or.inl ⟨row, old, rfl, rfl⟩
            · exact Or.inr present
  | forExchange grantId service =>
      cases committed
      exact ⟨rfl, fun row stored => Or.inl ⟨row, stored, rfl, rfl⟩⟩
  | listForProfile accountId profile =>
      cases committed
      exact ⟨rfl, fun row stored => Or.inl ⟨row, stored, rfl, rfl⟩⟩
  | revoke accountId profile grantId now =>
      cases committed
      refine ⟨rfl, fun row stored => Or.inl ?_⟩
      obtain ⟨old, before, rfl⟩ := (Table.mem_updateWhere (·.revoke_grantId now)).mp stored
      refine ⟨old, before, ?_⟩
      split <;> exact ⟨rfl, rfl⟩

theorem foreignKeys (o : DelegationOp) (fk : ForeignKeys db) {a : o.Ans}
    (committed : o.run.run db = .ok (a, db')) : ForeignKeys db' := by
  obtain ⟨same, rows⟩ := frame committed
  rw [same]
  refine fk.withProfiles fk.profiles fk.connections fun row stored => ?_
  rcases rows row stored with ⟨old, before, account, profile⟩ | present
  · rw [← account, ← profile]
    exact fk.offlineGrants old before
  · exact present

end DelegationOp

end Keyring

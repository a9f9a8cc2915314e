import Keyring.Relational.Restrict
import Keyring.Runs

/-!
# What one account holds

The rows of an account, of its profiles and of what is inside them.  `Mirror` says
of a database that it holds these rows of another and no other account's; a
transaction about the account does and answers the same on both.
-/

set_option autoImplicit false

namespace Keyring

open Interleave Relational

/-- `m` holds what `db` holds of the account, and nothing of any other. -/
structure Mirror (a : String) (db m : Db) : Prop where
  accounts : m.accounts = db.accounts.restrict (·.accountId = a)
  accountRoles : m.accountRoles = db.accountRoles.restrict (·.accountId = a)
  roles : m.roles = db.roles
  profiles : m.profiles = db.profiles.restrict (·.accountId = a)
  connections : m.connections = db.connections.restrict (·.accountId = a)
  secrets : m.secrets = db.secrets.restrict (·.accountId = a)
  offlineGrants : m.offlineGrants = db.offlineGrants.restrict (·.accountId = a)

/-- `db'` holds of the account what `db` does. -/
structure Unmoved (a : String) (db db' : Db) : Prop where
  accounts : db'.accounts.restrict (·.accountId = a) = db.accounts.restrict (·.accountId = a)
  accountRoles :
    db'.accountRoles.restrict (·.accountId = a) = db.accountRoles.restrict (·.accountId = a)
  roles : db'.roles = db.roles
  profiles : db'.profiles.restrict (·.accountId = a) = db.profiles.restrict (·.accountId = a)
  connections :
    db'.connections.restrict (·.accountId = a) = db.connections.restrict (·.accountId = a)
  secrets : db'.secrets.restrict (·.accountId = a) = db.secrets.restrict (·.accountId = a)
  offlineGrants :
    db'.offlineGrants.restrict (·.accountId = a) = db.offlineGrants.restrict (·.accountId = a)

variable {a b : String} {db db' m : Db} {α β : Type}

theorem Unmoved.refl (a : String) (db : Db) : Unmoved a db db := ⟨rfl, rfl, rfl, rfl, rfl, rfl, rfl⟩

theorem Mirror.spared (mirror : Mirror a db m) (spared : Unmoved a db db') : Mirror a db' m where
  accounts := mirror.accounts.trans spared.accounts.symm
  accountRoles := mirror.accountRoles.trans spared.accountRoles.symm
  roles := mirror.roles.trans spared.roles.symm
  profiles := mirror.profiles.trans spared.profiles.symm
  connections := mirror.connections.trans spared.connections.symm
  secrets := mirror.secrets.trans spared.secrets.symm
  offlineGrants := mirror.offlineGrants.trans spared.offlineGrants.symm

/-! ## Transactions on both -/

/-- The work is answered alike on the mirror, and leaves a mirror. -/
def Mirrored (a : String) (db m : Db) (work : Transaction α) : Prop :=
  match work.run db with
  | .ok (v, db') => ∃ m', work.run m = .ok (v, m') ∧ Mirror a db' m'
  | .error e => work.run m = .error e

theorem Mirrored.ok {work : Transaction α} (v : α) (db' m' : Db) (done : work.run db = .ok (v, db'))
    (also : work.run m = .ok (v, m')) (mirror : Mirror a db' m') : Mirrored a db m work := by
  rw [Mirrored, done]
  exact ⟨m', also, mirror⟩

theorem Mirrored.error {work : Transaction α} (e : Error) (failed : work.run db = .error e)
    (also : work.run m = .error e) : Mirrored a db m work := by
  rw [Mirrored, failed]
  exact also

theorem Mirrored.bind {work : Transaction α} {f : α → Transaction β} (first : Mirrored a db m work)
    (rest : ∀ v db' m', work.run db = .ok (v, db') → Mirror a db' m' → Mirrored a db' m' (f v)) :
    Mirrored a db m (work >>= f) := by
  rw [Mirrored] at first ⊢
  simp only [StateT.run_bind]
  cases done : work.run db with
  | error e =>
      rw [done] at first
      rw [first]
      rfl
  | ok r =>
      obtain ⟨v, db'⟩ := r
      rw [done] at first
      obtain ⟨m', also, mirror⟩ := first
      rw [also]
      exact rest v db' m' done mirror

theorem Mirrored.select {query : Db → α} (mirror : Mirror a db m) (same : query m = query db) :
    Mirrored a db m (select query) :=
  Mirrored.ok (query db) db m (select_run query db) (by rw [select_run, same]) mirror

theorem Mirrored.pure (mirror : Mirror a db m) (v : α) : Mirrored a db m (pure v) :=
  Mirrored.ok v db m rfl rfl mirror

/-- What the service sees of the two transactions. -/
theorem Mirrored.transact {work : Transaction α} (mirrored : Mirrored a db m work)
    (mirror : Mirror a db m) :
    (transact work m).1 = (transact work db).1 ∧
      Mirror a (transact work db).2 (transact work m).2 := by
  rw [Mirrored] at mirrored
  rw [Keyring.transact, Keyring.transact]
  cases done : work.run db with
  | error e =>
      rw [done] at mirrored
      rw [mirrored]
      exact ⟨rfl, mirror⟩
  | ok r =>
      obtain ⟨v, db'⟩ := r
      rw [done] at mirrored
      obtain ⟨m', also, later⟩ := mirrored
      rw [also]
      exact ⟨rfl, later⟩

/-! ## Reading the mirror -/

namespace Mirror

variable (mirror : Mirror a db m)
include mirror

theorem find_account : m.accounts.find? a = db.accounts.find? a := by
  rw [mirror.accounts]
  exact Table.find?_restrict fun row same => decide_eq_true same

theorem find_profile (name : String) : m.profiles.find? (a, name) = db.profiles.find? (a, name) := by
  rw [mirror.profiles]
  exact Table.find?_restrict fun row same => decide_eq_true (congrArg Prod.fst same)

theorem find_connection (name service : String) :
    m.connections.find? (a, name, service) = db.connections.find? (a, name, service) := by
  rw [mirror.connections]
  exact Table.find?_restrict fun row same => decide_eq_true (congrArg Prod.fst same)

theorem find_secret (name service : String) :
    m.secrets.find? (a, name, service) = db.secrets.find? (a, name, service) := by
  rw [mirror.secrets]
  exact Table.find?_restrict fun row same => decide_eq_true (congrArg Prod.fst same)

theorem rolesOf : Keyring.rolesOf m a = Keyring.rolesOf db a := by
  rw [Keyring.rolesOf, Keyring.rolesOf, mirror.accountRoles, Table.filter_restrict fun _ hit => hit]

theorem readAccount : Keyring.readAccount m a = Keyring.readAccount db a := by
  rw [Keyring.readAccount, Keyring.readAccount, mirror.find_account]
  cases found : db.accounts.find? a with
  | none => rfl
  | some row =>
      have owner := (Table.find?_eq_some.mp found).2
      simp only [Option.map_some, accountOf, owner, mirror.rolesOf]

theorem connectionsOf (name : String) :
    Keyring.connectionsOf m a name = Keyring.connectionsOf db a name := by
  rw [Keyring.connectionsOf, Keyring.connectionsOf, mirror.connections,
    Table.filter_restrict fun row hit => by simp only [Bool.and_eq_true] at hit; exact hit.1]

theorem profileOf {row : ProfileRow} (owner : row.accountId = a) :
    Keyring.profileOf m row = Keyring.profileOf db row := by
  rw [Keyring.profileOf, Keyring.profileOf, owner, mirror.connectionsOf]

theorem readProfile (name : String) : Keyring.readProfile m a name = Keyring.readProfile db a name := by
  rw [Keyring.readProfile, Keyring.readProfile, mirror.find_profile]
  cases found : db.profiles.find? (a, name) with
  | none => rfl
  | some row =>
      have owner : row.accountId = a := congrArg Prod.fst (Table.find?_eq_some.mp found).2
      simp only [Option.map_some, mirror.profileOf owner]

end Mirror

/-! ## What two operations do -/

theorem addProfile_run {text : Text} {profile : Profile} {cap : Nat} (owner : profile.accountId = a)
    (t : Db) : ((ProfileOp.add profile cap).run text).run t =
      if (t.profiles.find? (a, profile.name)).isSome then
        .error (.profileExists s!"a profile named {repr text profile.name} already exists")
      else if t.profiles.countWhere (·.accountId = a) ≥ cap then
        .error (.limitExceeded s!"at most {cap} profiles per account")
      else (insertProfile profile.toProfileRow >>= fun _ =>
        profile.connections.forM (upsertConnection a profile.name)).run t := by
  rw [← owner]
  simp only [ProfileOp.run]
  change (if _ then _ else _ : Transaction Unit).run t = _
  split
  · rfl
  · change (if _ then _ else _ : Transaction Unit).run t = _
    split
    · rfl
    · rfl

theorem putConnection_run {text : Text} {name : String} {connection : Connection} {cap : Nat}
    {now : Instant} (t : Db) :
    ((ProfileOp.putConnection a name connection cap now).run text).run t =
      if (t.profiles.find? (a, name)).isNone then
        .error (.profileNotFound "the profile this connection belongs to no longer exists")
      else match checkConnectionCap (touchProfile t a name now) a name connection.service cap with
        | .error e => .error e
        | .ok () =>
            match (upsertConnection a name connection).run (touchProfile t a name now) with
            | .error e => .error e
            | .ok ((), stored) =>
                match stored.connections.find? (a, name, connection.service) with
                | some row => .ok (row.toConnection, stored)
                | none => .error (.value "the stored connection was not found") := rfl

/-! ## Operations about the account -/

section Own

variable (mirror : Mirror a db m)
include mirror

theorem Mirror.touchProfile (name : String) (now : Instant) :
    Mirror a (touchProfile db a name now) (touchProfile m a name now) := by
  refine { mirror with profiles := ?_ }
  rw [Keyring.touchProfile, Keyring.touchProfile, Table.restrict_updateWhere, mirror.profiles]
  exact fun _ => rfl

theorem upsertConnection_mirrored (name : String) (item : Connection) :
    Mirrored a db m (upsertConnection a name item) := by
  by_cases missing : (db.profiles.find? (a, name)).isNone = true
  · have missing' : (m.profiles.find? (a, name)).isNone = true := by rwa [mirror.find_profile]
    exact Mirrored.error _ (if_pos missing) (if_pos missing')
  · have present : ¬(m.profiles.find? (a, name)).isNone = true := by rwa [mirror.find_profile]
    refine Mirrored.ok _ _ _ (if_neg missing) (if_neg present) { mirror with connections := ?_ }
    rw [mirror.connections, Table.restrict_upsert]
    · intro row same
      exact decide_eq_true (congrArg Prod.fst same)
    · exact fun _ => rfl

theorem insertProfile_mirrored {row : ProfileRow} (owner : row.accountId = a)
    (fresh : ∀ other ∈ db.profiles, other.profileId ≠ row.profileId) :
    Mirrored a db m (insertProfile row) := by
  have unused : ∀ t : Db, (∀ other ∈ t.profiles, other.profileId ≠ row.profileId) →
      ¬t.profiles.rows.any (·.profileId = row.profileId) = true := by
    intro t none' taken
    obtain ⟨other, stored, same⟩ := List.any_eq_true.mp taken
    exact none' other stored (of_decide_eq_true same)
  have fresh' : ∀ other ∈ m.profiles, other.profileId ≠ row.profileId := by
    intro other stored
    rw [mirror.profiles] at stored
    exact fresh other (Table.mem_restrict.mp stored).1
  have covers : ∀ other : ProfileRow, other.key = row.key → decide (other.accountId = a) = true :=
    fun other same => decide_eq_true ((congrArg Prod.fst same).trans owner)
  have account : m.accounts.find? row.accountId = db.accounts.find? row.accountId := by
    rw [owner, mirror.find_account]
  have refuses : ∀ t : Db, (∀ other ∈ t.profiles, other.profileId ≠ row.profileId) →
      t.profiles.insert? row = none →
      (insertProfile row).run t = .error (uniqueFailed "profiles.account_id, profiles.name") := by
    intro t none' taken
    have done : (insertProfile row).run t = _ := if_neg (unused t none')
    rw [insertRow, taken] at done
    exact done
  have inserts : ∀ t : Db, (∀ other ∈ t.profiles, other.profileId ≠ row.profileId) →
      ∀ table, t.profiles.insert? row = some table → (insertProfile row).run t =
        if (t.accounts.find? row.accountId).isNone then .error foreignKeyFailed
        else .ok ((), { t with profiles := table }) := by
    intro t none' table fits
    have done : (insertProfile row).run t = _ := if_neg (unused t none')
    rw [insertRow, fits] at done
    exact done
  cases inserted : db.profiles.insert? row with
  | none =>
      have refused : m.profiles.insert? row = none := by
        rw [mirror.profiles]
        exact Table.insert?_restrict_none covers inserted
      exact Mirrored.error _ (refuses db fresh inserted) (refuses m fresh' refused)
  | some table =>
      have also : m.profiles.insert? row = some (table.restrict (·.accountId = a)) := by
        rw [mirror.profiles]
        exact Table.insert?_restrict inserted (decide_eq_true owner)
      by_cases missing : (db.accounts.find? row.accountId).isNone = true
      · refine Mirrored.error foreignKeyFailed ?_ ?_
        · rw [inserts db fresh table inserted, if_pos missing]
        · rw [inserts m fresh' _ also, if_pos (by rwa [account])]
      · refine Mirrored.ok () { db with profiles := table }
          { m with profiles := table.restrict (·.accountId = a) } ?_ ?_
          { mirror with profiles := rfl }
        · rw [inserts db fresh table inserted, if_neg missing]
        · rw [inserts m fresh' _ also, if_neg (by rwa [account])]

theorem upsertConnections_mirrored (name : String) (items : List Connection) :
    Mirrored a db m (items.forM (upsertConnection a name)) := by
  induction items generalizing db m with
  | nil => exact Mirrored.pure mirror ()
  | cons item items ih =>
      exact Mirrored.bind (upsertConnection_mirrored mirror name item) fun _ _ _ _ later => ih later

theorem addProfile_mirrored {text : Text} {profile : Profile} {cap : Nat}
    (owner : profile.accountId = a)
    (fresh : ∀ other ∈ db.profiles, other.profileId ≠ profile.profileId) :
    Mirrored a db m ((ProfileOp.add profile cap).run text) := by
  have counted : m.profiles.countWhere (·.accountId = a) = db.profiles.countWhere (·.accountId = a) := by
    rw [mirror.profiles, Table.countWhere_restrict fun _ hit => hit]
  have run := @addProfile_run a text profile cap owner
  by_cases taken : (db.profiles.find? (a, profile.name)).isSome = true
  · refine Mirrored.error _ ((run db).trans (if_pos taken)) ((run m).trans (if_pos ?_))
    rwa [mirror.find_profile]
  · have free : ¬(m.profiles.find? (a, profile.name)).isSome = true := by rwa [mirror.find_profile]
    by_cases full : db.profiles.countWhere (·.accountId = a) ≥ cap
    · have full' : m.profiles.countWhere (·.accountId = a) ≥ cap := by rwa [counted]
      refine Mirrored.error (.limitExceeded s!"at most {cap} profiles per account") ?_ ?_
      · rw [run db, if_neg taken, if_pos full]
      · rw [run m, if_neg free, if_pos full']
    · have room : ¬m.profiles.countWhere (·.accountId = a) ≥ cap := by rwa [counted]
      have both : Mirrored a db m (insertProfile profile.toProfileRow >>= fun _ =>
          profile.connections.forM (upsertConnection a profile.name)) :=
        Mirrored.bind (insertProfile_mirrored mirror owner fresh) fun _ _ _ _ later =>
          upsertConnections_mirrored later _ _
      rw [Mirrored] at both ⊢
      rw [run db, if_neg taken, if_neg full, run m, if_neg free, if_neg room]
      exact both

theorem putConnection_mirrored {text : Text} {name : String} {connection : Connection} {cap : Nat}
    {now : Instant} : Mirrored a db m ((ProfileOp.putConnection a name connection cap now).run text) := by
  have touched := mirror.touchProfile name now
  have missing' : (m.profiles.find? (a, name)).isNone = (db.profiles.find? (a, name)).isNone := by
    rw [mirror.find_profile]
  have checked : checkConnectionCap (touchProfile m a name now) a name connection.service cap =
      checkConnectionCap (touchProfile db a name now) a name connection.service cap := by
    have counted : (touchProfile m a name now).connections.countWhere
          (fun row => row.accountId = a && row.profileName = name) =
        (touchProfile db a name now).connections.countWhere
          (fun row => row.accountId = a && row.profileName = name) := by
      rw [touched.connections, Table.countWhere_restrict]
      intro row hit
      simp only [Bool.and_eq_true] at hit
      exact hit.1
    rw [checkConnectionCap, checkConnectionCap, touched.find_connection, counted]
  have run := @putConnection_run a text name connection cap now
  rw [Mirrored, run db, run m, missing', checked]
  by_cases missing : (db.profiles.find? (a, name)).isNone = true
  · simp only [if_pos missing]
  · simp only [if_neg missing]
    cases checkConnectionCap (touchProfile db a name now) a name connection.service cap with
    | error e => rfl
    | ok _ =>
        have both := upsertConnection_mirrored touched name connection
        rw [Mirrored] at both
        cases put : (upsertConnection a name connection).run (touchProfile db a name now) with
        | error e =>
            rw [put] at both
            simp only [both]
        | ok r =>
            obtain ⟨u, stored⟩ := r
            rw [put] at both
            obtain ⟨m', also, later⟩ := both
            simp only [also, later.find_connection]
            cases stored.connections.find? (a, name, connection.service) with
            | none => rfl
            | some row => exact ⟨m', rfl, later⟩

theorem removeConnection_mirrored {text : Text} {name service : String} {now : Instant} :
    Mirrored a db m ((ProfileOp.removeConnection a name service now).run text) := by
  have touched := mirror.touchProfile name now
  have run : ∀ t : Db, ((ProfileOp.removeConnection a name service now).run text).run t =
      .ok (if (t.connections.find? (a, name, service)).isSome then
        (true, { touchProfile t a name now with
          connections := t.connections.deleteWhere (·.key = (a, name, service)) })
      else (false, t)) := fun _ => rfl
  rw [Mirrored, run db, run m, mirror.find_connection]
  by_cases found : (db.connections.find? (a, name, service)).isSome = true
  · simp only [if_pos found]
    refine ⟨_, rfl, { touched with connections := ?_ }⟩
    rw [Table.restrict_deleteWhere, mirror.connections]
  · simp only [if_neg found]
    exact ⟨m, rfl, mirror⟩

theorem Mirror.deleteProfiles {p : ProfileRow → Bool} (own : ∀ row, p row = true → row.accountId = a) :
    Mirror a (db.deleteProfiles p) (m.deleteProfiles p) := by
  have gone : (m.profiles.rows.filter p).map ProfileRow.key =
      (db.profiles.rows.filter p).map ProfileRow.key := by
    rw [mirror.profiles, Table.filter_restrict fun row hit => decide_eq_true (own row hit)]
  refine { mirror with profiles := ?_, connections := ?_, offlineGrants := ?_ }
  · rw [Db.deleteProfiles, Db.deleteProfiles, Table.restrict_deleteWhere, mirror.profiles]
  · rw [Db.deleteProfiles, Db.deleteProfiles, Table.restrict_deleteWhere, mirror.connections]
    simp only [gone]
  · rw [Db.deleteProfiles, Db.deleteProfiles, Table.restrict_deleteWhere, mirror.offlineGrants]
    simp only [gone]

theorem deleteProfile_mirrored {text : Text} {name : String} :
    Mirrored a db m ((ProfileOp.delete a name).run text) := by
  have found : (m.profiles.find? (a, name)).isSome = (db.profiles.find? (a, name)).isSome := by
    rw [mirror.find_profile]
  refine Mirrored.ok (db.profiles.find? (a, name)).isSome _ _ rfl ?_ (mirror.deleteProfiles ?_)
  · rw [← found]
    rfl
  · intro row hit
    simp only [Bool.and_eq_true, decide_eq_true_eq] at hit
    exact hit.1

theorem listProfiles_mirrored {text : Text} :
    Mirrored a db m ((ProfileOp.listForAccount a).run text) := by
  refine Mirrored.select mirror ?_
  rw [mirror.profiles, Table.filter_restrict fun _ hit => hit]
  refine List.map_congr_left fun row member => ?_
  have owner := (List.mem_filter.mp ((List.mem_insertionSort _).mp member)).2
  exact mirror.profileOf (of_decide_eq_true owner)

theorem getProfile_mirrored {text : Text} {name : String} :
    Mirrored a db m ((ProfileOp.get a name).run text) :=
  Mirrored.select mirror (mirror.readProfile name)

theorem getSecret_mirrored {profile service : String} :
    Mirrored a db m (SecretOp.get a profile service).run :=
  Mirrored.select mirror (by rw [mirror.find_secret])

theorem putSecret_mirrored {profile service : String} {envelope : Envelope} {now : Instant} :
    Mirrored a db m (SecretOp.put a profile service envelope now).run := by
  by_cases missing : (db.accounts.find? a).isNone = true
  · refine Mirrored.error foreignKeyFailed (if_pos missing) (if_pos ?_)
    rwa [mirror.find_account]
  · have present : ¬(m.accounts.find? a).isNone = true := by rwa [mirror.find_account]
    refine Mirrored.ok () _ _ (if_neg missing) (if_neg present) { mirror with secrets := ?_ }
    rw [mirror.secrets, Table.restrict_upsert]
    · intro row same
      exact decide_eq_true (congrArg Prod.fst same)
    · exact fun _ => rfl

theorem deleteSecret_mirrored {profile service : String} :
    Mirrored a db m (SecretOp.delete a profile service).run := by
  refine Mirrored.ok (db.secrets.find? (a, profile, service)).isSome _
    { m with secrets := m.secrets.deleteWhere (·.key = (a, profile, service)) } rfl ?_
    { mirror with secrets := ?_ }
  · rw [← mirror.find_secret]
    rfl
  · rw [mirror.secrets, Table.restrict_deleteWhere]

theorem deleteSecrets_mirrored {profile : String} :
    Mirrored a db m (SecretOp.deleteProfile a profile).run := by
  have under : ∀ row : SecretRow, (decide (row.accountId = a) && decide (row.profileName = profile)) =
      true → decide (row.accountId = a) = true := by
    intro row hit
    simp only [Bool.and_eq_true] at hit
    exact hit.1
  refine Mirrored.ok (db.secrets.countWhere fun row => row.accountId = a && row.profileName = profile)
    _ { m with secrets := m.secrets.deleteWhere fun row =>
      row.accountId = a && row.profileName = profile } rfl ?_ { mirror with secrets := ?_ }
  · rw [← Table.countWhere_restrict under, ← mirror.secrets]
    rfl
  · rw [mirror.secrets, Table.restrict_deleteWhere]

theorem addGrant_mirrored {grant : OfflineGrant} {cap : Nat} {now : Instant}
    (owner : grant.accountId = a)
    (fresh : ∀ row ∈ db.offlineGrants, row.grantId ≠ grant.grantId) :
    Mirrored a db m (DelegationOp.add grant cap now).run := by
  subst owner
  have run : ∀ (t : Db) table,
      t.offlineGrants.insert? { grant with revokedAt := none } = some table →
      ((DelegationOp.add grant cap now).run).run t =
        if (t.profiles.find? (grant.accountId, grant.profile)).isNone then
          .error (.profileNotFound "no profile of that name")
        else if (t.offlineGrants.countWhere fun row =>
            row.accountId = grant.accountId && row.profile = grant.profile &&
              row.revokedAt.isNone && row.expiresAt > now) ≥ cap then
          .error (.limitExceeded "the offline grant limit for this profile was reached")
        else .ok ((), { t with offlineGrants := table }) := by
    intro t table fits
    by_cases missing : (t.profiles.find? (grant.accountId, grant.profile)).isNone = true
    · rw [if_pos missing]
      exact if_pos missing
    · have done : ((DelegationOp.add grant cap now).run).run t = _ := if_neg missing
      rw [insertRow, fits] at done
      rw [if_neg missing]
      exact done
  have counted : (m.offlineGrants.countWhere fun row =>
        row.accountId = grant.accountId && row.profile = grant.profile &&
          row.revokedAt.isNone && row.expiresAt > now) =
      db.offlineGrants.countWhere fun row =>
        row.accountId = grant.accountId && row.profile = grant.profile &&
          row.revokedAt.isNone && row.expiresAt > now := by
    rw [mirror.offlineGrants, Table.countWhere_restrict]
    intro row hit
    simp only [Bool.and_eq_true] at hit
    exact hit.1.1.1
  have inserted : ∃ table, db.offlineGrants.insert? { grant with revokedAt := none } = some table := by
    rw [Table.insert?, dif_pos]
    · exact ⟨_, rfl⟩
    · intro taken
      obtain ⟨row, stored, same⟩ := List.mem_map.mp taken
      exact fresh row stored same
  obtain ⟨table, inserted⟩ := inserted
  have also : m.offlineGrants.insert? { grant with revokedAt := none } =
      some (table.restrict (·.accountId = grant.accountId)) := by
    rw [mirror.offlineGrants]
    exact Table.insert?_restrict inserted (decide_eq_true rfl)
  by_cases missing : (db.profiles.find? (grant.accountId, grant.profile)).isNone = true
  · refine Mirrored.error _ ((run db table inserted).trans (if_pos missing))
      ((run m _ also).trans (if_pos ?_))
    rwa [mirror.find_profile]
  · have present : ¬(m.profiles.find? (grant.accountId, grant.profile)).isNone = true := by
      rwa [mirror.find_profile]
    by_cases full : (db.offlineGrants.countWhere fun row =>
        row.accountId = grant.accountId && row.profile = grant.profile &&
          row.revokedAt.isNone && row.expiresAt > now) ≥ cap
    · refine Mirrored.error (.limitExceeded "the offline grant limit for this profile was reached")
        ?_ ?_
      · rw [run db table inserted, if_neg missing, if_pos full]
      · rw [run m _ also, if_neg present, counted, if_pos full]
    · refine Mirrored.ok () { db with offlineGrants := table }
        { m with offlineGrants := table.restrict (·.accountId = grant.accountId) } ?_ ?_
        { mirror with offlineGrants := rfl }
      · rw [run db table inserted, if_neg missing, if_neg full]
      · rw [run m _ also, if_neg present, counted, if_neg full]

theorem listGrants_mirrored {profile : String} :
    Mirrored a db m (DelegationOp.listForProfile a profile).run := by
  refine Mirrored.select mirror ?_
  rw [mirror.offlineGrants, Table.filter_restrict]
  intro row hit
  simp only [Bool.and_eq_true] at hit
  exact hit.1

theorem revokeGrant_mirrored {profile grantId : String} {now : Instant} :
    Mirrored a db m (DelegationOp.revoke a profile grantId now).run := by
  have under : ∀ row : OfflineGrant, (decide (row.accountId = a) && decide (row.profile = profile) &&
      decide (row.grantId = grantId)) = true → decide (row.accountId = a) = true := by
    intro row hit
    simp only [Bool.and_eq_true] at hit
    exact hit.1.1
  let hit := fun row : OfflineGrant =>
    decide (row.accountId = a) && decide (row.profile = profile) && decide (row.grantId = grantId)
  have counted : m.offlineGrants.countWhere hit = db.offlineGrants.countWhere hit := by
    rw [mirror.offlineGrants, Table.countWhere_restrict under]
  refine Mirrored.ok (decide (db.offlineGrants.countWhere hit > 0)) _
    { m with offlineGrants := m.offlineGrants.updateWhere hit (·.revoke now) (·.revoke_grantId now) }
    rfl ?_ { mirror with offlineGrants := ?_ }
  · rw [← counted]
    rfl
  · rw [mirror.offlineGrants, Table.restrict_updateWhere]
    exact fun _ => rfl

theorem forExchange_mirrored {grantId service : String}
    (named : ∀ grant, db.offlineGrants.rows.find? (fun row =>
      row.grantId = grantId && row.service = service) = some grant → grant.accountId = a) :
    Mirrored a db m (DelegationOp.forExchange grantId service).run := by
  refine Mirrored.select mirror ?_
  rw [mirror.offlineGrants]
  cases found : db.offlineGrants.rows.find? (fun row =>
      row.grantId = grantId && row.service = service) with
  | none => exact Table.findNone_restrict found
  | some grant => exact Table.findFirst_restrict found (decide_eq_true (named grant found))

theorem getAccount_mirrored {text : Text} : Mirrored a db m ((AccountOp.get a).run text) :=
  Mirrored.select mirror mirror.readAccount

theorem Mirror.insertRole (entry : String × Nat) :
    match insertRole a db entry with
    | some db' => ∃ m', insertRole a m entry = some m' ∧ Mirror a db' m'
    | none => insertRole a m entry = none := by
  have covers : ∀ row : AccountRole, row.key = (a, entry.1) → decide (row.accountId = a) = true :=
    fun row same => decide_eq_true (congrArg Prod.fst same)
  have same : ((m.accounts.find? a).isSome && (m.roles.find? entry.1).isSome) =
      ((db.accounts.find? a).isSome && (db.roles.find? entry.1).isSome) := by
    rw [mirror.find_account, mirror.roles]
  rw [Keyring.insertRole, Keyring.insertRole, same]
  by_cases known : ((db.accounts.find? a).isSome && (db.roles.find? entry.1).isSome) = true
  · simp only [if_pos known]
    cases inserted : db.accountRoles.insert? ⟨a, entry.1, entry.2⟩ with
    | none =>
        have refused : m.accountRoles.insert? ⟨a, entry.1, entry.2⟩ = none := by
          rw [mirror.accountRoles]
          exact Table.insert?_restrict_none covers inserted
        rw [refused]
        rfl
    | some table =>
        have also : m.accountRoles.insert? ⟨a, entry.1, entry.2⟩ =
            some (table.restrict (·.accountId = a)) := by
          rw [mirror.accountRoles]
          exact Table.insert?_restrict inserted (decide_eq_true rfl)
        rw [also]
        exact ⟨_, rfl, { mirror with accountRoles := rfl }⟩
  · simp only [if_neg known]

theorem Mirror.insertRoles (entries : List (String × Nat)) :
    match entries.foldlM (Keyring.insertRole a) db with
    | some db' => ∃ m', entries.foldlM (Keyring.insertRole a) m = some m' ∧ Mirror a db' m'
    | none => entries.foldlM (Keyring.insertRole a) m = none := by
  induction entries generalizing db m with
  | nil => exact ⟨m, rfl, mirror⟩
  | cons entry entries ih =>
      have first := mirror.insertRole entry
      rw [List.foldlM_cons, List.foldlM_cons]
      cases done : Keyring.insertRole a db entry with
      | none =>
          rw [done] at first
          rw [first]
          rfl
      | some db' =>
          rw [done] at first
          obtain ⟨m', also, later⟩ := first
          rw [also]
          exact ih later

theorem writeRoles_mirrored (roles : List String) : Mirrored a db m (writeRoles a roles) := by
  have cleared : Mirror a { db with accountRoles := db.accountRoles.deleteWhere (·.accountId = a) }
      { m with accountRoles := m.accountRoles.deleteWhere (·.accountId = a) } := by
    refine { mirror with accountRoles := ?_ }
    rw [mirror.accountRoles, Table.restrict_deleteWhere]
  have both := cleared.insertRoles (dictFromKeys roles).zipIdx
  have run : ∀ t : Db, (writeRoles a roles).run t =
      match (dictFromKeys roles).zipIdx.foldlM (insertRole a)
        { t with accountRoles := t.accountRoles.deleteWhere (·.accountId = a) } with
      | some db' => .ok ((), db')
      | none => .error (.roleNotFound "one of those roles no longer exists") := fun _ => rfl
  rw [Mirrored, run db, run m]
  cases written : (dictFromKeys roles).zipIdx.foldlM (insertRole a)
      { db with accountRoles := db.accountRoles.deleteWhere (·.accountId = a) } with
  | none =>
      rw [written] at both
      simp only [both]
  | some db' =>
      rw [written] at both
      obtain ⟨m', also, later⟩ := both
      simp only [also]
      exact ⟨m', rfl, later⟩

theorem saveAccount_mirrored {text : Text} {account : Account} (owner : account.accountId = a)
    (own : ∀ row ∈ db.accounts, row.email = account.email → row.accountId = a) :
    Mirrored a db m ((AccountOp.save account).run text) := by
  subst owner
  have calm : ∀ t : Db, (∀ row ∈ t.accounts, row.email = account.email →
      row.accountId = account.accountId) → ¬((t.accounts.find? account.accountId).isSome &&
        t.accounts.rows.any fun row =>
          row.email = account.email && row.accountId ≠ account.accountId) = true := by
    intro t own clash
    simp only [Bool.and_eq_true, List.any_eq_true, decide_eq_true_eq] at clash
    obtain ⟨-, row, stored, same, other⟩ := clash
    exact other (own row stored same)
  have own' : ∀ row ∈ m.accounts, row.email = account.email → row.accountId = account.accountId := by
    intro row stored
    rw [mirror.accounts] at stored
    exact own row (Table.mem_restrict.mp stored).1
  have updated : Mirrored account.accountId db m (updateAccount account) := by
    refine Mirrored.ok () _ _ (if_neg (calm db own)) (if_neg (calm m own')) { mirror with accounts := ?_ }
    rw [mirror.accounts, Table.restrict_updateWhere]
    exact fun _ => rfl
  exact Mirrored.bind updated fun _ _ _ _ later => writeRoles_mirrored later account.roles

end Own

end Keyring

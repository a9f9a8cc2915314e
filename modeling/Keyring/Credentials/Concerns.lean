import Keyring.Accounts.WriteBack
import Keyring.Credentials.Holdings

/-!
# Whom a step concerns

A step about one account leaves what the others hold alone, and does and answers on
a mirror of the account what it does and answers in the deployment.
-/

set_option autoImplicit false

namespace Keyring

open Interleave Relational

/-! ## What a step about another account spares -/

/-- Whatever the work commits, it leaves alone what the account holds. -/
def Sparing {α : Type} (a : String) (work : Transaction α) : Prop :=
  ∀ db v db', work.run db = .ok (v, db') → Unmoved a db db'

section Sparing

variable {a b : String} {α β : Type}

theorem Unmoved.trans {db db' db'' : Db} (first : Unmoved a db db') (second : Unmoved a db' db'') :
    Unmoved a db db'' where
  accounts := second.accounts.trans first.accounts
  accountRoles := second.accountRoles.trans first.accountRoles
  roles := second.roles.trans first.roles
  profiles := second.profiles.trans first.profiles
  connections := second.connections.trans first.connections
  secrets := second.secrets.trans first.secrets
  offlineGrants := second.offlineGrants.trans first.offlineGrants

theorem Sparing.select (query : Db → α) : Sparing a (select query) := by
  intro db v db' done
  rw [select_run] at done
  cases done
  exact Unmoved.refl a db

theorem Sparing.bind {work : Transaction α} {f : α → Transaction β} (first : Sparing a work)
    (rest : ∀ v, Sparing a (f v)) : Sparing a (work >>= f) := by
  intro db v db' done
  rw [StateT.run_bind] at done
  cases here : work.run db with
  | error e =>
      rw [here] at done
      cases done
  | ok r =>
      rw [here] at done
      exact (first db r.1 r.2 here).trans (rest r.1 r.2 v db' done)

variable (other : b ≠ a)
include other

/-- A row of `b` is not among those of `a`. -/
theorem not_held {c : String} (same : c = b) : decide (c = a) = false :=
  decide_eq_false fun own => other (same.symm.trans own)

theorem touchProfile_spared (db : Db) (name : String) (now : Instant) :
    Unmoved a db (touchProfile db b name now) := by
  refine { Unmoved.refl a db with profiles := ?_ }
  refine Table.restrict_updateWhere_outside (·.touch_key now) (fun _ => rfl) fun row hit => ?_
  simp only [Bool.and_eq_true, decide_eq_true_eq] at hit
  exact not_held other hit.1

theorem upsertConnection_sparing (name : String) (item : Connection) :
    Sparing a (upsertConnection b name item) := by
  intro db v db' done
  by_cases missing : (db.profiles.find? (b, name)).isNone = true
  · cases (if_pos missing).symm.trans done
  · cases (if_neg missing).symm.trans done
    refine { Unmoved.refl a db with connections := ?_ }
    refine Table.restrict_upsert_outside _ (fun _ => rfl) fun row same => ?_
    exact not_held other (congrArg Prod.fst same)

theorem upsertConnections_sparing (name : String) (items : List Connection) :
    Sparing a (items.forM (upsertConnection b name)) := by
  induction items with
  | nil =>
      intro db v db' done
      cases done
      exact Unmoved.refl a db
  | cons item items ih =>
      exact Sparing.bind (upsertConnection_sparing other name item) fun _ => ih

theorem insertProfile_sparing {row : ProfileRow} (owner : row.accountId = b) :
    Sparing a (insertProfile row) := by
  intro db v db' done
  obtain ⟨-, table, inserted, written⟩ := insertProfile_ok done
  rw [written]
  refine { Unmoved.refl a db with profiles := ?_ }
  exact Table.restrict_insert?_outside inserted (not_held other owner)

theorem addProfile_sparing {text : Text} {profile : Profile} {cap : Nat}
    (owner : profile.accountId = b) : Sparing a ((ProfileOp.add profile cap).run text) := by
  intro db v db' done
  obtain ⟨-, u, mid, inserted, connected⟩ := ProfileOp.add_committed done
  have first := insertProfile_sparing other owner db u mid inserted
  rw [owner] at connected
  exact first.trans (upsertConnections_sparing other _ _ mid v db' connected)

theorem putConnection_sparing {text : Text} {name : String} {connection : Connection} {cap : Nat}
    {now : Instant} : Sparing a ((ProfileOp.putConnection b name connection cap now).run text) := by
  intro db v db' done
  rw [ProfileOp.putConnection_committed done]
  refine { touchProfile_spared other db name now with connections := ?_ }
  refine Table.restrict_upsert_outside _ (fun _ => rfl) fun row same => ?_
  exact not_held other (congrArg Prod.fst same)

theorem removeConnection_sparing {text : Text} {name service : String} {now : Instant} :
    Sparing a ((ProfileOp.removeConnection b name service now).run text) := by
  intro db v db' done
  have run : ((ProfileOp.removeConnection b name service now).run text).run db =
      .ok (if (db.connections.find? (b, name, service)).isSome then
        (true, { touchProfile db b name now with
          connections := db.connections.deleteWhere (·.key = (b, name, service)) })
      else (false, db)) := rfl
  rw [run] at done
  by_cases found : (db.connections.find? (b, name, service)).isSome = true
  · rw [if_pos found] at done
    cases done
    refine { touchProfile_spared other db name now with connections := ?_ }
    refine Table.restrict_deleteWhere_outside fun row _ hit => ?_
    exact not_held other (congrArg Prod.fst (of_decide_eq_true hit))
  · rw [if_neg found] at done
    cases done
    exact Unmoved.refl a db

theorem deleteProfiles_spared (db : Db) {p : ProfileRow → Bool}
    (own : ∀ row, p row = true → row.accountId = b) : Unmoved a db (db.deleteProfiles p) := by
  have owner : ∀ key, ((db.profiles.rows.filter p).map ProfileRow.key).contains key = true →
      key.1 = b := by
    intro key hit
    rw [List.contains_eq_mem, decide_eq_true_eq] at hit
    obtain ⟨row, member, rfl⟩ := List.mem_map.mp hit
    exact own row (List.mem_filter.mp member).2
  refine { Unmoved.refl a db with profiles := ?_, connections := ?_, offlineGrants := ?_ }
  · exact Table.restrict_deleteWhere_outside fun row _ hit => not_held other (own row hit)
  · exact Table.restrict_deleteWhere_outside fun row _ hit => not_held other (owner _ hit)
  · exact Table.restrict_deleteWhere_outside fun row _ hit => not_held other (owner _ hit)

theorem deleteProfile_sparing {text : Text} {name : String} :
    Sparing a ((ProfileOp.delete b name).run text) := by
  intro db v db' done
  rw [(ProfileOp.delete_ok done).2]
  refine deleteProfiles_spared other db fun row hit => ?_
  simp only [Bool.and_eq_true, decide_eq_true_eq] at hit
  exact hit.1

theorem putSecret_sparing {profile service : String} {envelope : Envelope} {now : Instant} :
    Sparing a (SecretOp.put b profile service envelope now).run := by
  intro db v db' done
  by_cases missing : (db.accounts.find? b).isNone = true
  · cases (if_pos missing).symm.trans done
  · cases (if_neg missing).symm.trans done
    refine { Unmoved.refl a db with secrets := ?_ }
    refine Table.restrict_upsert_outside _ (fun _ => rfl) fun row same => ?_
    exact not_held other (congrArg Prod.fst same)

theorem deleteSecret_sparing {profile service : String} :
    Sparing a (SecretOp.delete b profile service).run := by
  intro db v db' done
  cases done
  refine { Unmoved.refl a db with secrets := ?_ }
  refine Table.restrict_deleteWhere_outside fun row _ hit => ?_
  exact not_held other (congrArg Prod.fst (of_decide_eq_true hit))

theorem deleteSecrets_sparing {profile : String} :
    Sparing a (SecretOp.deleteProfile b profile).run := by
  intro db v db' done
  cases done
  refine { Unmoved.refl a db with secrets := ?_ }
  refine Table.restrict_deleteWhere_outside fun row _ hit => ?_
  simp only [Bool.and_eq_true, decide_eq_true_eq] at hit
  exact not_held other hit.1

theorem addGrant_sparing {grant : OfflineGrant} {cap : Nat} {now : Instant}
    (owner : grant.accountId = b) : Sparing a (DelegationOp.add grant cap now).run := by
  intro db v db' done
  simp only [DelegationOp.run, StateT.run] at done
  split at done
  · cases done
  · split at done
    · cases done
    · split at done
      · cases done
      · rename_i table inserted
        cases done
        refine { Unmoved.refl a db with offlineGrants := ?_ }
        exact Table.restrict_insert?_outside (insertRow_ok.mp inserted) (not_held other owner)

theorem revokeGrant_sparing {profile grantId : String} {now : Instant} :
    Sparing a (DelegationOp.revoke b profile grantId now).run := by
  intro db v db' done
  cases done
  refine { Unmoved.refl a db with offlineGrants := ?_ }
  refine Table.restrict_updateWhere_outside (·.revoke_grantId now) (fun _ => rfl) fun row hit => ?_
  simp only [Bool.and_eq_true, decide_eq_true_eq] at hit
  exact not_held other hit.1.1

theorem insertRole_spared {db db' : Db} {entry : String × Nat}
    (inserted : insertRole b db entry = some db') : Unmoved a db db' := by
  rw [insertRole] at inserted
  by_cases known : ((db.accounts.find? b).isSome && (db.roles.find? entry.1).isSome) = true
  · rw [if_pos known, Option.map_eq_some_iff] at inserted
    obtain ⟨table, inserted, rfl⟩ := inserted
    refine { Unmoved.refl a db with accountRoles := ?_ }
    exact Table.restrict_insert?_outside inserted (not_held other rfl)
  · rw [if_neg known] at inserted
    cases inserted

theorem writeRoles_sparing (roles : List String) : Sparing a (writeRoles b roles) := by
  have each : ∀ entries : List (String × Nat), ∀ db db',
      entries.foldlM (insertRole b) db = some db' → Unmoved a db db' := by
    intro entries
    induction entries with
    | nil =>
        intro db db' done
        cases done
        exact Unmoved.refl a db
    | cons entry entries ih =>
        intro db db' done
        rw [List.foldlM_cons] at done
        cases first : insertRole b db entry with
        | none =>
            rw [first] at done
            cases done
        | some mid =>
            rw [first] at done
            exact (insertRole_spared other first).trans (ih mid db' done)
  intro db v db' done
  have cleared : Unmoved a db { db with
      accountRoles := db.accountRoles.deleteWhere (·.accountId = b) } := by
    refine { Unmoved.refl a db with accountRoles := ?_ }
    exact Table.restrict_deleteWhere_outside fun row _ hit => not_held other (of_decide_eq_true hit)
  simp only [writeRoles, StateT.run] at done
  cases written : (dictFromKeys roles).zipIdx.foldlM (insertRole b)
      { db with accountRoles := db.accountRoles.deleteWhere (·.accountId = b) } with
  | none =>
      rw [written] at done
      cases done
  | some after =>
      rw [written] at done
      cases done
      exact cleared.trans (each _ _ _ written)

theorem saveAccount_sparing {text : Text} {account : Account} (owner : account.accountId = b) :
    Sparing a ((AccountOp.save account).run text) := by
  have updated : Sparing a (updateAccount account) := by
    intro db v db' done
    simp only [updateAccount, StateT.run] at done
    split at done
    · cases done
    · cases done
      refine { Unmoved.refl a db with accounts := ?_ }
      have keeps : ∀ row : AccountRow, decide ((row.overwrite account).accountId = a) =
          decide (row.accountId = a) := fun _ => rfl
      refine Table.restrict_updateWhere_outside (·.overwrite_accountId account) keeps fun row hit => ?_
      exact not_held other ((of_decide_eq_true hit).trans owner)
  have written : Sparing a (writeRoles account.accountId account.roles) := by
    rw [owner]
    exact writeRoles_sparing other account.roles
  exact Sparing.bind updated fun _ => written

end Sparing

theorem auditOp_sparing {a : String} {maxEntries : Nat} (o : AuditOp) :
    Sparing a (o.run maxEntries) := by
  intro db v db' done
  rw [AuditOp.frame done]
  exact ⟨rfl, rfl, rfl, rfl, rfl, rfl, rfl⟩

/-! ## The account that a step is about -/

def Registered (home : Db) (accountId email : String) : Prop :=
  ∃ row ∈ home.accounts, row.accountId = accountId ∧ row.email = email

/-- Nobody has an address but the one of the registration. -/
def Registry (book : String → String → Prop) (w : World) : Prop :=
  ∀ row ∈ w.db.accounts, book row.accountId row.email

/-- The step reads and writes what `who` holds and nobody else's.  An account is
written back under the address it was registered with. -/
def Op.about (book : String → String → Prop) (who : Option String) : Op → Prop
  | .accounts (.get accountId) => who = some accountId
  | .accounts (.save account) =>
      who = some account.accountId ∧ book account.accountId account.email
  | .profiles (.add profile _) => who = some profile.accountId
  | .profiles (.get accountId _) | .profiles (.listForAccount accountId)
  | .profiles (.putConnection accountId _ _ _ _) | .profiles (.removeConnection accountId _ _ _)
  | .profiles (.delete accountId _) => who = some accountId
  | .secrets (.get accountId _ _) | .secrets (.put accountId _ _ _ _)
  | .secrets (.delete accountId _ _) | .secrets (.deleteProfile accountId _) => who = some accountId
  | .delegations (.add grant _ _) => who = some grant.accountId
  | .delegations (.listForProfile accountId _) | .delegations (.revoke accountId _ _ _) =>
      who = some accountId
  | .preferences accountId => who = some accountId
  | .issueState _ flow => who = some flow.binding.accountId
  | .acquire key | .release key => who = some key.1
  | .audit (.record _) | .now | .monotonic | .draw | .urandom | .post _ _ => True
  | _ => False

/-- What is drawn at random to name one thing. -/
inductive Identifier where
  | profile (profileId : String)
  | grant (grantId : String)
  | entry (entryId : String)
  | state (stateHash : String)
  deriving DecidableEq

def Op.identifier? : Op → Option Identifier
  | .profiles (.add profile _) => some (.profile profile.profileId)
  | .delegations (.add grant _ _) => some (.grant grant.grantId)
  | .audit (.record entry) => some (.entry entry.entryId)
  | .issueState stateHash _ => some (.state stateHash)
  | _ => none

def World.holds (w : World) : Identifier → Prop
  | .profile profileId => ∃ row ∈ w.db.profiles, row.profileId = profileId
  | .grant grantId => ∃ row ∈ w.db.offlineGrants, row.grantId = grantId
  | .entry entryId => ∃ row ∈ w.db.audit, row.entryId = entryId
  | .state stateHash => ∃ row ∈ w.flows, row.stateHash = stateHash

/-- What the step would name is not there yet. -/
def Op.fresh (o : Op) (w : World) : Prop := ∀ name, o.identifier? = some name → ¬w.holds name

/-- What is served from outside the account's tables: its authorizations in progress,
and its renewal locks. -/
structure Mirrors (a : String) (w m : World) : Prop where
  db : Mirror a w.db m.db
  flows : m.flows = w.flows.restrict (·.flow.binding.accountId = a)
  renewing : m.renewing = w.renewing.filter (·.1 = a)

section Steps

variable {env : Env} {book : String → String → Prop} {who : Option String} {a : String} {w w' m : World} {x : Input}

theorem Mirrors.onDb_spared {α : Type} (mirrors : Mirrors a w m) {work : Transaction α}
    {answer : Except Error α} (sparing : Sparing a work) (done : onDb work w = some (answer, w')) :
    Mirrors a w' m := by
  have frame := (onDb_eq.mp done).2
  refine ⟨mirrors.db.spared ?_, ?_, ?_⟩
  · rcases onDb_cases done with ⟨v, -, committed⟩ | ⟨-, same⟩
    · exact sparing _ _ _ committed
    · rw [same]
      exact Unmoved.refl a w.db
  · rw [frame]
    exact mirrors.flows
  · rw [frame]
    exact mirrors.renewing

/-- A step about another account leaves a mirror of this one what it is. -/
theorem Mirrors.spared (mirrors : Mirrors a w m) {o : Op} {answer : o.Ans}
    (about : o.about book who) (other : who ≠ some a) (fresh : o.fresh w)
    (done : exec env o x w = some (answer, w')) : Mirrors a w' m := by
  have apart : ∀ {b : String}, who = some b → b ≠ a := by
    rintro b rfl same
    exact other (congrArg some same)
  cases o with
  | accounts o =>
      cases o with
      | get accountId => exact mirrors.onDb_spared (Sparing.select _) done
      | save account => exact mirrors.onDb_spared (saveAccount_sparing (apart about.1) rfl) done
      | _ => exact absurd about id
  | profiles o =>
      cases o with
      | add profile cap => exact mirrors.onDb_spared (addProfile_sparing (apart about) rfl) done
      | get accountId name => exact mirrors.onDb_spared (Sparing.select _) done
      | listForAccount accountId => exact mirrors.onDb_spared (Sparing.select _) done
      | putConnection accountId name connection cap now =>
          exact mirrors.onDb_spared (putConnection_sparing (apart about)) done
      | removeConnection accountId name service now =>
          exact mirrors.onDb_spared (removeConnection_sparing (apart about)) done
      | delete accountId name => exact mirrors.onDb_spared (deleteProfile_sparing (apart about)) done
      | _ => exact absurd about id
  | secrets o =>
      cases o with
      | get accountId profile service => exact mirrors.onDb_spared (Sparing.select _) done
      | put accountId profile service envelope now =>
          exact mirrors.onDb_spared (putSecret_sparing (apart about)) done
      | delete accountId profile service =>
          exact mirrors.onDb_spared (deleteSecret_sparing (apart about)) done
      | deleteProfile accountId profile =>
          exact mirrors.onDb_spared (deleteSecrets_sparing (apart about)) done
  | delegations o =>
      cases o with
      | add grant cap now => exact mirrors.onDb_spared (addGrant_sparing (apart about) rfl) done
      | listForProfile accountId profile => exact mirrors.onDb_spared (Sparing.select _) done
      | revoke accountId profile grantId now =>
          exact mirrors.onDb_spared (revokeGrant_sparing (apart about)) done
      | forExchange grantId service => exact absurd about id
  | audit o => exact mirrors.onDb_spared (auditOp_sparing o) done
  | issueState stateHash flow =>
      cases done
      refine ⟨mirrors.db, ?_, mirrors.renewing⟩
      rw [mirrors.flows]
      refine (Table.restrict_upsert_fresh_outside (·.set_stateHash flow) ?_ ?_).symm
      · intro taken
        obtain ⟨row, stored, same⟩ := List.mem_map.mp taken
        exact fresh _ rfl ⟨row, stored, same⟩
      · exact decide_eq_false (apart about)
  | acquire key =>
      rw [exec] at done
      split at done
      · cases done
      · cases done
        refine ⟨mirrors.db, mirrors.flows, ?_⟩
        rw [mirrors.renewing, List.filter_cons_of_neg]
        simp [apart about]
  | release key =>
      cases done
      refine ⟨mirrors.db, mirrors.flows, ?_⟩
      change m.renewing = (w.renewing.erase key).filter _
      rw [mirrors.renewing, ← List.erase_filter, List.erase_of_not_mem]
      simp [apart about]
  | sessions | grants | roles | record | reset | purgeAttempts | redeemState | purgeStates =>
      exact absurd about id
  | now | monotonic | draw | urandom | preferences | post =>
      cases done
      exact ⟨mirrors.db, mirrors.flows, mirrors.renewing⟩

theorem Mirrors.onDb_mirrored {α : Type} (mirrors : Mirrors a w m) {work : Transaction α}
    {answer : Except Error α} (mirrored : Mirrored a w.db m.db work)
    (done : onDb work w = some (answer, w')) :
    ∃ m', onDb work m = some (answer, m') ∧ Mirrors a w' m' := by
  obtain ⟨same, later⟩ := mirrored.transact mirrors.db
  cases done
  refine ⟨{ m with db := (transact work m.db).2 }, ?_, later, mirrors.flows, mirrors.renewing⟩
  rw [onDb, same]

theorem Mirrors.record (mirrors : Mirrors a w m) {maxEntries : Nat} {entry : AuditEntry}
    (fresh : (Op.audit (.record entry)).fresh w) (fresh' : (Op.audit (.record entry)).fresh m)
    (numbered : ∀ row ∈ w.db.audit, row.sequence ≤ w.db.auditSequence)
    (numbered' : ∀ row ∈ m.db.audit, row.sequence ≤ m.db.auditSequence) :
    Mirrored a w.db m.db ((AuditOp.record entry).run maxEntries) := by
  have recorded : ∀ t : World, (Op.audit (.record entry)).fresh t →
      (∀ row ∈ t.db.audit, row.sequence ≤ t.db.auditSequence) → ∃ audit,
        ((AuditOp.record entry).run maxEntries).run t.db = .ok ((), { t.db with
          audit := audit, auditSequence := t.db.auditSequence + 1 }) := by
    intro t fresh numbered
    have new : ¬t.db.audit.rows.any (·.entryId = entry.entryId) = true := by
      intro taken
      obtain ⟨row, stored, same⟩ := List.any_eq_true.mp taken
      exact fresh _ rfl ⟨row, stored, of_decide_eq_true same⟩
    have next : AuditRow.sequence { entry with sequence := t.db.auditSequence + 1 } ∉
        t.db.audit.rows.map AuditRow.sequence := by
      intro taken
      obtain ⟨row, stored, same⟩ := List.mem_map.mp taken
      have below := numbered row stored
      change row.sequence = t.db.auditSequence + 1 at same
      omega
    have inserted : insertRow t.db.audit { entry with sequence := t.db.auditSequence + 1 }
        "audit.sequence" = .ok _ := insertRow_ok.mpr (Table.insert?_eq_some.mpr ⟨next, rfl⟩)
    have done : ((AuditOp.record entry).run maxEntries).run t.db = _ := if_neg new
    rw [inserted] at done
    exact ⟨_, done⟩
  obtain ⟨audit, done⟩ := recorded w fresh numbered
  obtain ⟨audit', done'⟩ := recorded m fresh' numbered'
  exact Mirrored.ok () _ _ done done' { mirrors.db with }

/-- A step about the account does and answers on its mirror what it does and answers
in the deployment. -/
theorem Mirrors.mirrored (mirrors : Mirrors a w m) {o : Op} {answer : o.Ans}
    {home : Db} (about : o.about (Registered home) (some a)) (unique : UniqueEmails home)
    (registered : Registry (Registered home) w) (fresh : o.fresh w) (fresh' : o.fresh m)
    (numbered : ∀ row ∈ w.db.audit, row.sequence ≤ w.db.auditSequence)
    (numbered' : ∀ row ∈ m.db.audit, row.sequence ≤ m.db.auditSequence)
    (done : exec env o x w = some (answer, w')) :
    ∃ m', exec env o x m = some (answer, m') ∧ Mirrors a w' m' := by
  cases o with
  | accounts o =>
      cases o with
      | get accountId =>
          cases about
          exact mirrors.onDb_mirrored (getAccount_mirrored mirrors.db) done
      | save account =>
          obtain ⟨own, known⟩ := about
          cases own
          refine mirrors.onDb_mirrored (saveAccount_mirrored mirrors.db rfl ?_) done
          intro row stored same
          obtain ⟨first, inside, identified, address⟩ := known
          obtain ⟨second, inside', identified', address'⟩ := registered row stored
          rw [← identified, ← identified']
          exact unique second inside' first inside (by rw [address', address, same])
      | _ => exact absurd about id
  | profiles o =>
      cases o with
      | add profile cap =>
          cases about
          refine mirrors.onDb_mirrored (addProfile_mirrored mirrors.db rfl ?_) done
          exact fun row stored same => fresh _ rfl ⟨row, stored, same⟩
      | get accountId name =>
          cases about
          exact mirrors.onDb_mirrored (getProfile_mirrored mirrors.db) done
      | listForAccount accountId =>
          cases about
          exact mirrors.onDb_mirrored (listProfiles_mirrored mirrors.db) done
      | putConnection accountId name connection cap now =>
          cases about
          exact mirrors.onDb_mirrored (putConnection_mirrored mirrors.db) done
      | removeConnection accountId name service now =>
          cases about
          exact mirrors.onDb_mirrored (removeConnection_mirrored mirrors.db) done
      | delete accountId name =>
          cases about
          exact mirrors.onDb_mirrored (deleteProfile_mirrored mirrors.db) done
      | _ => exact absurd about id
  | secrets o =>
      cases o with
      | get accountId profile service =>
          cases about
          exact mirrors.onDb_mirrored (getSecret_mirrored mirrors.db) done
      | put accountId profile service envelope now =>
          cases about
          exact mirrors.onDb_mirrored (putSecret_mirrored mirrors.db) done
      | delete accountId profile service =>
          cases about
          exact mirrors.onDb_mirrored (deleteSecret_mirrored mirrors.db) done
      | deleteProfile accountId profile =>
          cases about
          exact mirrors.onDb_mirrored (deleteSecrets_mirrored mirrors.db) done
  | delegations o =>
      cases o with
      | add grant cap now =>
          have owner : grant.accountId = a := (Option.some.inj about).symm
          refine mirrors.onDb_mirrored (addGrant_mirrored mirrors.db owner ?_) done
          exact fun row stored same => fresh _ rfl ⟨row, stored, same⟩
      | listForProfile accountId profile =>
          cases about
          exact mirrors.onDb_mirrored (listGrants_mirrored mirrors.db) done
      | revoke accountId profile grantId now =>
          cases about
          exact mirrors.onDb_mirrored (revokeGrant_mirrored mirrors.db) done
      | forExchange grantId service => exact absurd about id
  | audit o =>
      cases o with
      | record entry =>
          exact mirrors.onDb_mirrored (mirrors.record fresh fresh' numbered numbered') done
      | _ => exact absurd about id
  | issueState stateHash flow =>
      cases done
      refine ⟨_, rfl, mirrors.db, ?_, mirrors.renewing⟩
      change m.flows.upsert _ _ _ = _
      rw [mirrors.flows]
      refine (Table.restrict_upsert_fresh (·.set_stateHash flow) ?_ ?_).symm
      · intro taken
        obtain ⟨row, stored, same⟩ := List.mem_map.mp taken
        exact fresh _ rfl ⟨row, stored, same⟩
      · exact decide_eq_true (Option.some.inj about).symm
  | acquire key =>
      have own : key.1 = a := (Option.some.inj about).symm
      have held : key ∈ m.renewing ↔ key ∈ w.renewing := by
        rw [mirrors.renewing, List.mem_filter]
        simp [own]
      rw [exec] at done
      by_cases busy : key ∈ w.renewing
      · rw [if_pos busy] at done
        cases done
      · rw [if_neg busy] at done
        cases done
        have free : ¬key ∈ m.renewing := fun taken => busy (held.mp taken)
        refine ⟨_, if_neg free, mirrors.db, mirrors.flows, ?_⟩
        change key :: m.renewing = (key :: w.renewing).filter _
        rw [mirrors.renewing, List.filter_cons_of_pos (by simp [own])]
  | release key =>
      cases done
      refine ⟨_, rfl, mirrors.db, mirrors.flows, ?_⟩
      change m.renewing.erase key = (w.renewing.erase key).filter _
      rw [mirrors.renewing, List.erase_filter]
  | sessions | grants | roles | record | reset | purgeAttempts | redeemState | purgeStates =>
      exact absurd about id
  | now | monotonic | draw | urandom | preferences | post =>
      cases done
      exact ⟨_, rfl, mirrors.db, mirrors.flows, mirrors.renewing⟩

end Steps

end Keyring

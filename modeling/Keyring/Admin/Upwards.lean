import Keyring.Accounts.Permissions
import Keyring.Admin.Footprint

/-!
# Acting upwards

An actor with a session makes administrative requests one after the other.  The
guard keeps it from an account that holds more than it does; what it may still
do is bounded by what it holds, which never grows.  The requests that no guard
keeps from the account are the assignment of its roles and the editing of one of
them.
-/

set_option autoImplicit false

namespace Keyring

open Interleave Relational

variable {env : Env} {target actorId : String} {db db' mid : Db}

/-- The account is there with its status and its roles, and so is everything it
owns; no grant names it that did not before. -/
structure Untouched (target : String) (db db' : Db) : Prop where
  account : readAccount db' target = readAccount db target
  sessions : ∀ row : Session, row.accountId = target → (row ∈ db'.sessions ↔ row ∈ db.sessions)
  profiles : ∀ row : ProfileRow, row.accountId = target → (row ∈ db'.profiles ↔ row ∈ db.profiles)
  connections : ∀ row : ConnectionRow, row.accountId = target →
    (row ∈ db'.connections ↔ row ∈ db.connections)
  grants : ∀ row : Grant, row.accountId = some target → (row ∈ db'.grants ↔ row ∈ db.grants)

theorem Untouched.refl (target : String) (db : Db) : Untouched target db db :=
  ⟨rfl, fun _ _ => Iff.rfl, fun _ _ => Iff.rfl, fun _ _ => Iff.rfl, fun _ _ => Iff.rfl⟩

theorem Untouched.trans (first : Untouched target db mid) (second : Untouched target mid db') :
    Untouched target db db' where
  account := second.account.trans first.account
  sessions := fun row mine => (second.sessions row mine).trans (first.sessions row mine)
  profiles := fun row mine => (second.profiles row mine).trans (first.profiles row mine)
  connections := fun row mine => (second.connections row mine).trans (first.connections row mine)
  grants := fun row mine => (second.grants row mine).trans (first.grants row mine)

/-- The target is untouched and holds all it held, and the actor nothing new. -/
structure Spared (actorId target : String) (db db' : Db) : Prop where
  untouched : Untouched target db db'
  actor : permissionsHeld db' actorId ⊆ permissionsHeld db actorId
  target : permissionsHeld db target ⊆ permissionsHeld db' target

theorem Spared.refl (actorId target : String) (db : Db) : Spared actorId target db db :=
  ⟨.refl target db, subset_rfl, subset_rfl⟩

theorem Spared.trans (first : Spared actorId target db mid) (second : Spared actorId target mid db') :
    Spared actorId target db db' :=
  ⟨first.untouched.trans second.untouched, second.actor.trans first.actor,
    first.target.trans second.target⟩

/-- The target holds something that the actor does not. -/
def Exceeds (actorId target : String) (db : Db) : Prop :=
  ¬permissionsHeld db target ⊆ permissionsHeld db actorId

instance : Decidable (Exceeds actorId target db) :=
  inferInstanceAs (Decidable (¬permissionsHeld db target ⊆ permissionsHeld db actorId))

theorem Spared.exceeds (spared : Spared actorId target db db') (exceeds : Exceeds actorId target db) :
    Exceeds actorId target db' := fun within =>
  exceeds (spared.target.trans (within.trans spared.actor))

/-! ## What one step does -/

theorem readAccount_congr (row : db'.accounts.find? target = db.accounts.find? target)
    (roles : rolesOf db' target = rolesOf db target) :
    readAccount db' target = readAccount db target := by
  rw [readAccount, readAccount, row]
  cases found : db.accounts.find? target with
  | none => rfl
  | some stored =>
      obtain ⟨-, keyed⟩ := Table.find?_eq_some.mp found
      simp [accountOf, keyed, roles]

theorem permissionsHeld_congr {accountId : String}
    (account : readAccount db' accountId = readAccount db accountId) (roles : db'.roles = db.roles) :
    permissionsHeld db' accountId = permissionsHeld db accountId := by
  simp only [permissionsHeld, account, resolveRoles, roles]

theorem permissionsHeld_of_read {accountId : String} {account : Account}
    (read : readAccount db accountId = some account) :
    permissionsHeld db accountId = resolveRoles db account.roles := by
  rw [permissionsHeld, read]

theorem permissionsHeld_subset (db : Db) (accountId : String) :
    permissionsHeld db accountId ⊆ resolveRoles db (rolesOf db accountId) := by
  intro p held
  obtain ⟨-, name, member, role, found, included⟩ := mem_permissionsHeld.mp held
  exact mem_resolveRoles.mpr ⟨name, member, role, found, included⟩

/-- A step that is not about the target, and writes no roles. -/
inductive Op.Distant (target : String) : Op → Prop where
  | idle {o : Op} (idle : o.idle) : Distant target o
  | delete {accountId : String} (other : accountId ≠ target) :
      Distant target (.accounts (.delete accountId))
  | signOut {accountId : String} {keep : Option String} (other : accountId ≠ target) :
      Distant target (.sessions (.revokeAll accountId keep))
  | mint {grant : Grant} (other : grant.accountId ≠ some target) :
      Distant target (.grants (.add grant))
  | withdraw {accountId : String} {purpose : GrantPurpose} (other : accountId ≠ target) :
      Distant target (.grants (.revokeAllForAccount accountId purpose))
  | deleteProfile {accountId name : String} (other : accountId ≠ target) :
      Distant target (.profiles (.delete accountId name))
  | deleteSecrets (accountId name : String) :
      Distant target (.secrets (.deleteProfile accountId name))
  | record (entry : AuditEntry) : Distant target (.audit (.record entry))

section OneStep

variable {o : Op} {x : Input} {w w' : World} {a : o.Ans}

theorem mem_deleteProfiles_other (db : Db) (p : ProfileRow → Bool) (target : String)
    (spares : ∀ row, p row → row.accountId ≠ target) :
    (∀ row : ProfileRow, row.accountId = target →
      (row ∈ (db.deleteProfiles p).profiles ↔ row ∈ db.profiles)) ∧
    ∀ row : ConnectionRow, row.accountId = target →
      (row ∈ (db.deleteProfiles p).connections ↔ row ∈ db.connections) := by
  constructor
  · intro row mine
    refine Table.mem_deleteWhere.trans (and_iff_left ?_)
    by_contra hit
    exact spares row (by simpa using hit) mine
  · intro row mine
    refine Table.mem_deleteWhere.trans (and_iff_left ?_)
    rw [List.contains_eq_mem, decide_eq_false_iff_not, List.mem_map]
    rintro ⟨gone, hit, keyed⟩
    have same : gone.accountId = row.accountId := congrArg Prod.fst keyed
    exact spares gone (List.mem_filter.mp hit).2 (same.trans mine)

theorem deleteAccount_untouched {accountId : String} (other : accountId ≠ target) :
    Untouched target db (db.deleteAccount accountId) := by
  obtain ⟨profiles, connections⟩ := mem_deleteProfiles_other db
    (·.accountId = accountId) target
    fun row hit same => other (by rw [← same]; exact (by simpa using hit : row.accountId = accountId).symm)
  refine ⟨readAccount_congr ?_ ?_, fun row mine => ?_, profiles, connections, fun row mine => ?_⟩
  · change (db.accounts.deleteWhere _).find? target = _
    rw [Table.find?_deleteWhere]
    cases found : db.accounts.find? target with
    | none => rfl
    | some row =>
        obtain ⟨-, keyed⟩ := Table.find?_eq_some.mp found
        simp [keyed, Ne.symm other]
  · exact rolesOf_deleteAccount other.symm
  · refine Table.mem_deleteWhere.trans (and_iff_left ?_)
    simp [mine, Ne.symm other]
  · refine Table.mem_deleteWhere.trans (and_iff_left ?_)
    simp [mine, Ne.symm other]

theorem deleteAccount_permissionsHeld (accountId other : String) :
    permissionsHeld (db.deleteAccount accountId) other ⊆ permissionsHeld db other := by
  intro p held
  obtain ⟨present, name, member, found⟩ := mem_permissionsHeld.mp held
  refine mem_permissionsHeld.mpr ⟨?_, name, ?_, found⟩
  · obtain ⟨row, stored⟩ := Option.isSome_iff_exists.mp present
    obtain ⟨inside, keyed⟩ := Table.find?_eq_some.mp stored
    exact keyed ▸ Option.isSome_iff_exists.mpr ⟨row, Table.find?_self (Table.mem_deleteWhere.mp inside).1⟩
  · obtain ⟨row, stored, mine, named⟩ := mem_rolesOf.mp member
    exact mem_rolesOf.mpr ⟨row, (Table.mem_deleteWhere.mp stored).1, mine, named⟩

theorem Spared.of_tables (accounts : db'.accounts = db.accounts)
    (accountRoles : db'.accountRoles = db.accountRoles) (roles : db'.roles = db.roles)
    (sessions : ∀ row : Session, row.accountId = target → (row ∈ db'.sessions ↔ row ∈ db.sessions))
    (profiles : ∀ row : ProfileRow, row.accountId = target →
      (row ∈ db'.profiles ↔ row ∈ db.profiles))
    (connections : ∀ row : ConnectionRow, row.accountId = target →
      (row ∈ db'.connections ↔ row ∈ db.connections))
    (grants : ∀ row : Grant, row.accountId = some target → (row ∈ db'.grants ↔ row ∈ db.grants)) :
    Spared actorId target db db' := by
  have read : ∀ accountId, readAccount db' accountId = readAccount db accountId := fun accountId =>
    readAccount_congr (by rw [accounts]) (rolesOf_congr accountRoles accountId)
  exact ⟨⟨read target, sessions, profiles, connections, grants⟩,
    (permissionsHeld_congr (read actorId) roles).subset,
    (permissionsHeld_congr (read target) roles).superset⟩

theorem exec_distant (done : exec env o x w = some (a, w')) (distant : o.Distant target)
    (actorId : String) : Spared actorId target w.db w'.db := by
  cases distant with
  | idle idle =>
      rw [exec_idle done idle]
      exact .refl actorId target w.db
  | @delete accountId other =>
      rcases exec_touches done with same | gone
      · rw [same]
        exact .refl actorId target w.db
      · have untouched : Untouched target w.db w'.db := gone ▸ deleteAccount_untouched other
        have roles : w'.db.roles = w.db.roles := by rw [gone]; rfl
        refine ⟨untouched, ?_, (permissionsHeld_congr untouched.account roles).superset⟩
        rw [gone]
        exact deleteAccount_permissionsHeld accountId actorId
  | @signOut accountId keep other =>
      rcases onDb_cases done with ⟨v, -, committed⟩ | ⟨-, same⟩
      · have frame := (SessionOp.frame committed).1
        rw [frame]
        refine .of_tables rfl rfl rfl (fun row mine => ?_) (fun _ _ => Iff.rfl) (fun _ _ => Iff.rfl)
          fun _ _ => Iff.rfl
        refine (SessionOp.revokeAll_ok committed row).trans (and_iff_left fun hit => ?_)
        exact absurd (hit.symm.trans mine) other
      · rw [same]
        exact .refl actorId target w.db
  | @mint grant other =>
      rcases onDb_cases done with ⟨v, -, committed⟩ | ⟨-, same⟩
      · obtain ⟨-, table, inserted, written⟩ := GrantOp.add_ok committed
        rw [written]
        refine .of_tables rfl rfl rfl (fun _ _ => Iff.rfl) (fun _ _ => Iff.rfl) (fun _ _ => Iff.rfl)
          fun row mine => ?_
        refine (Table.mem_insert? inserted).trans (or_iff_left ?_)
        rintro rfl
        exact other mine
      · rw [same]
        exact .refl actorId target w.db
  | @withdraw accountId purpose other =>
      cases done
      refine .of_tables rfl rfl rfl (fun _ _ => Iff.rfl) (fun _ _ => Iff.rfl) (fun _ _ => Iff.rfl)
        fun row mine => ?_
      refine (Table.mem_updateWhere Grant.revokedNow_grantId).trans ?_
      constructor
      · rintro ⟨old, stored, rfl⟩
        split at mine
        · rename_i hit
          simp only [Bool.and_eq_true, decide_eq_true_eq] at hit
          exact absurd (Option.some.inj (hit.1.1.symm.trans mine)) other
        · rename_i missed
          rw [if_neg missed]
          exact stored
      · intro stored
        refine ⟨row, stored, if_neg ?_⟩
        simp [mine, Ne.symm other]
  | @deleteProfile accountId name other =>
      cases done
      obtain ⟨profiles, connections⟩ := mem_deleteProfiles_other w.db
        (fun row => row.accountId = accountId && row.name = name) target
        fun row hit same => by
          simp only [Bool.and_eq_true, decide_eq_true_eq] at hit
          exact other (hit.1.symm.trans same)
      exact .of_tables rfl rfl rfl (fun _ _ => Iff.rfl) profiles connections fun _ _ => Iff.rfl
  | deleteSecrets accountId name =>
      cases done
      exact .of_tables rfl rfl rfl (fun _ _ => Iff.rfl) (fun _ _ => Iff.rfl) (fun _ _ => Iff.rfl)
        fun _ _ => Iff.rfl
  | record entry =>
      have frame : w'.db = { w.db with audit := w'.db.audit, auditSequence := w'.db.auditSequence } :=
        exec_touches done
      rw [frame]
      exact .of_tables rfl rfl rfl (fun _ _ => Iff.rfl) (fun _ _ => Iff.rfl) (fun _ _ => Iff.rfl)
        fun _ _ => Iff.rfl

theorem Spared.of_accounts (frame : db' = { db with
      accounts := db'.accounts
      accountRoles := db'.accountRoles })
    (account : readAccount db' target = readAccount db target)
    (actor : permissionsHeld db' actorId ⊆ permissionsHeld db actorId) :
    Spared actorId target db db' := by
  have roles : db'.roles = db.roles := by rw [frame]
  refine ⟨⟨account, ?_, ?_, ?_, ?_⟩, actor, (permissionsHeld_congr account roles).superset⟩
  all_goals
    rw [frame]
    exact fun _ _ => Iff.rfl

theorem Written.permissionsHeld (written : Written actorId o a db db') (roles : db'.roles = db.roles)
    (saves : ∀ copy, o.saved a = some copy → copy.accountId = actorId →
      resolveRoles db copy.roles ⊆ permissionsHeld db actorId)
    (assigns : ∀ names, o.assigned actorId a = some names →
      resolveRoles db names ⊆ permissionsHeld db actorId) :
    permissionsHeld db' actorId ⊆ permissionsHeld db actorId := by
  have same : ∀ names, resolveRoles db' names = resolveRoles db names := fun names => by
    rw [resolveRoles, resolveRoles, roles]
  cases written with
  | saved copy saved mine row held =>
      have within := permissionsHeld_subset db' actorId
      rw [held, same] at within
      refine within.trans (subset_trans (fun p included => ?_) (saves copy saved mine))
      simpa only [mem_resolveRoles, mem_dictFromKeys] using included
  | assigned names _ _ assigned _ held =>
      have within := permissionsHeld_subset db' actorId
      rw [held, same] at within
      exact within.trans (assigns names assigned)
  | kept _ _ row held => exact (permissionsHeld_congr (readAccount_congr row held) roles).subset

theorem exec_saved {copy : Account} {saved : Except Error Unit}
    (done : exec env (.accounts (.save copy)) x w = some (saved, w'))
    (other : copy.accountId ≠ target) (own : copy.accountId = actorId →
      resolveRoles w.db copy.roles ⊆ permissionsHeld w.db actorId) :
    Spared actorId target w.db w'.db := by
  have frame := exec_touches done
  obtain ⟨row, roles⟩ := exec_elsewhere done other
  refine .of_accounts frame (readAccount_congr row roles) ?_
  refine (exec_written done trivial actorId).permissionsHeld
    ((exec_touches done).roles fun _ => Op.noConfusion) ?_ ?_
  · intro copy' saved mine
    cases Op.saved_eq_some saved
    exact own mine
  · exact fun names assigned => nomatch assigned

theorem exec_assigned {accountId : String} {names : List String} {now : Instant}
    {assigned : Except Error Account}
    (done : exec env (.accounts (.setRoles accountId names now)) x w = some (assigned, w'))
    (other : accountId ≠ target) (own : resolveRoles w.db names ⊆ permissionsHeld w.db actorId) :
    Spared actorId target w.db w'.db := by
  have frame := exec_touches done
  obtain ⟨row, roles⟩ := exec_elsewhere done other
  refine .of_accounts frame (readAccount_congr row roles) ?_
  refine (exec_written done trivial actorId).permissionsHeld
    ((exec_touches done).roles fun _ => Op.noConfusion) ?_ ?_
  · intro copy saved
    cases Op.saved_eq_some saved
  · intro names' given
    cases assigned with
    | error e => cases given
    | ok updated =>
        change (if accountId = actorId then some (dictFromKeys names) else none) = _ at given
        split at given <;> cases given
        intro p included
        exact own (by simpa only [mem_resolveRoles, mem_dictFromKeys] using included)

/-- Roles are written; those of the target stay, and a new one names nothing the
actor did not hold. -/
theorem Spared.of_roles (frame : db' = { db with roles := db'.roles })
    (kept : ∀ name ∈ rolesOf db target, ∀ role, db.roles.find? name = some role →
      db'.roles.find? name = some role)
    (bounded : ∀ name role, db'.roles.find? name = some role →
      db.roles.find? name = some role ∨ role.permissions ⊆ permissionsHeld db actorId) :
    Spared actorId target db db' := by
  have read : ∀ accountId, readAccount db' accountId = readAccount db accountId := fun accountId => by
    rw [frame]
    rfl
  have present : ∀ accountId, db'.accounts.find? accountId = db.accounts.find? accountId :=
    fun accountId => by rw [frame]
  have names : ∀ accountId, rolesOf db' accountId = rolesOf db accountId := fun accountId => by
    rw [frame]
    rfl
  refine ⟨⟨read target, ?_, ?_, ?_, ?_⟩, fun p held => ?_, fun p held => ?_⟩
  · rw [frame]; exact fun _ _ => Iff.rfl
  · rw [frame]; exact fun _ _ => Iff.rfl
  · rw [frame]; exact fun _ _ => Iff.rfl
  · rw [frame]; exact fun _ _ => Iff.rfl
  · obtain ⟨there, name, member, role, found, included⟩ := mem_permissionsHeld.mp held
    rcases bounded name role found with before | within
    · rw [present] at there
      rw [names] at member
      exact mem_permissionsHeld.mpr ⟨there, name, member, role, before, included⟩
    · exact within included
  · obtain ⟨there, name, member, role, found, included⟩ := mem_permissionsHeld.mp held
    refine mem_permissionsHeld.mpr ⟨by rwa [present], name, by rwa [names], role, ?_, included⟩
    exact kept name member role found

theorem exec_defined {role : Role} {added : Except Error Unit}
    (done : exec env (.roles (.add role)) x w = some (added, w'))
    (bounded : role.permissions ⊆ permissionsHeld w.db actorId) :
    Spared actorId target w.db w'.db := by
  rcases onDb_cases done with ⟨v, -, committed⟩ | ⟨-, same⟩
  · obtain ⟨roles, inserted, written⟩ := RoleOp.add_ok committed
    rw [written]
    refine .of_roles rfl (fun name _ role' found => ?_) fun name role' found => ?_
    · refine (Table.find?_insert? inserted name).trans ((if_neg ?_).trans found)
      rintro rfl
      rw [Table.find?_of_insert? inserted] at found
      cases found
    · change roles.find? name = some role' at found
      rw [Table.find?_insert? inserted] at found
      split at found
      · cases found
        exact Or.inr bounded
      · exact Or.inl found
  · rw [same]
    exact .refl actorId target w.db

theorem exec_dropped {name : String} {dropped : Except Error Unit}
    (done : exec env (.roles (.delete name)) x w = some (dropped, w')) :
    Spared actorId target w.db w'.db := by
  rcases onDb_cases done with ⟨v, -, committed⟩ | ⟨-, same⟩
  · obtain ⟨-, unheld, written⟩ := RoleOp.delete_ok committed
    rw [written]
    refine .of_roles rfl (fun other held role found => ?_) fun other role found => Or.inl ?_
    · obtain ⟨stored, named⟩ := Table.find?_eq_some.mp found
      refine Table.find?_eq_some.mpr ⟨Table.mem_deleteWhere.mpr ⟨stored, ?_⟩, named⟩
      rw [decide_eq_false_iff_not, named]
      rintro rfl
      exact unheld target held
    · obtain ⟨stored, named⟩ := Table.find?_eq_some.mp found
      exact Table.find?_eq_some.mpr ⟨(Table.mem_deleteWhere.mp stored).1, named⟩
  · rw [same]
    exact .refl actorId target w.db

end OneStep

/-! ## What the requests do to other accounts -/

theorem distant_of_quiet : ∀ o, Op.quiet o → Op.Distant target o := fun _ quiet => .idle quiet.idle

theorem distant_of_limits : ∀ o, Op.limits o → Op.Distant target o := fun _ limits =>
  .idle limits.idle

namespace AccountService

theorem mayMail_distant (address : String) : (mayMail env address).Uses (Op.Distant target) := by
  refine Prog.Uses.tryCatch (Prog.Uses.bind (checkLimit_uses distant_of_limits _ _ _ _) fun _ => trivial)
    fun e => ?_
  cases e <;> trivial

theorem mintGrant_distant {named : Named} (other : named ≠ .account target) (purpose : GrantPurpose)
    (ttlSeconds : Int) : (mintGrant env purpose ttlSeconds named).Uses (Op.Distant target) := by
  refine Prog.Uses.bind (ask_uses (.idle trivial)) fun now => ?_
  refine Prog.Uses.bind (ask_uses (.idle trivial)) fun token => ?_
  refine Prog.Uses.bind (ask_uses (.idle trivial)) fun hex => ?_
  refine Prog.Uses.bind (ofExcept_uses _) fun expiresAt => ?_
  refine Prog.Uses.bind (grantStore_uses (.mint ?_)) fun _ => trivial
  cases named with
  | email address => simp
  | account accountId =>
      intro same
      exact other (congrArg Named.account (Option.some.inj same))

theorem issueInvite_distant (email : String) : (issueInvite env email).Uses (Op.Distant target) := by
  refine Prog.Uses.bind (ofExcept_uses _) fun address => ?_
  refine Prog.Uses.bind (accountStore_uses (.idle trivial)) fun existing => ?_
  refine Prog.Uses.bind (refuseIf_uses _ _) fun _ => ?_
  exact mintGrant_distant Named.noConfusion _ _

theorem issueResetFor_distant {account : Account} (other : account.accountId ≠ target) :
    (issueResetFor env account).Uses (Op.Distant target) := by
  refine Prog.Uses.bind (mayMail_distant _) fun allowed => ?_
  refine Prog.Uses.bind (refuseIf_uses _ _) fun _ => ?_
  refine Prog.Uses.bind (grantStore_uses (.withdraw other)) fun _ => ?_
  exact mintGrant_distant (fun same => other (Named.account.inj same)) _ _

end AccountService

namespace CredentialChanges

theorem admitted_distant {requester : Requester} (silent : requester.password = none)
    (accountId : String) : (admitted env accountId requester).Uses (Op.Distant target) := by
  refine Prog.Uses.bind (preferencesFor_uses (.idle trivial)) fun preferences => ?_
  split
  · trivial
  · rw [silent]
    cases preferences.requireReauthForCredentialChanges with
    | none => trivial
    | some required => cases required <;> trivial

theorem announce_distant (accountId : String) (preferences : Preferences) :
    (announce env accountId preferences).Uses (Op.Distant target) := by
  rw [announce]
  split
  · refine Prog.Uses.bind (accountStore_uses (.idle trivial)) fun found => ?_
    cases found with
    | none => trivial
    | some account => exact Prog.Uses.bind (ask_uses (.idle trivial)) fun _ => trivial
  · trivial

theorem getProfile_distant (accountId name : String) :
    (CredentialService.getProfile env accountId name).Uses (Op.Distant target) := by
  refine Prog.Uses.bind (ofExcept_uses _) fun normalized => ?_
  refine Prog.Uses.bind (profileStore_uses (.idle trivial)) fun found => ?_
  cases found <;> trivial

theorem deleteProfile_distant {accountId : String} (other : accountId ≠ target) (name : String) :
    (CredentialService.deleteProfile env accountId name).Uses (Op.Distant target) := by
  refine Prog.Uses.bind (ofExcept_uses _) fun normalized => ?_
  refine Prog.Uses.bind (profileStore_uses (.deleteProfile other)) fun existed => ?_
  cases existed with
  | false => trivial
  | true => exact Prog.Uses.bind (secretStore_uses (.deleteSecrets _ _)) fun _ => trivial

theorem removeProfile_distant {accountId : String} (other : accountId ≠ target) {requester : Requester}
    (silent : requester.password = none) (name : String) :
    (removeProfile env accountId name requester).Uses (Op.Distant target) := by
  refine Prog.Uses.bind (Prog.Uses.tryCatch ?_ fun e => ?_) fun profile => ?_
  · exact Prog.Uses.bind (getProfile_distant accountId name) fun _ => trivial
  · cases e <;> trivial
  · cases profile with
    | none => trivial
    | some profile =>
        refine Prog.Uses.bind ?_ fun preferences => ?_
        · split
          · trivial
          · exact Prog.Uses.bind (admitted_distant silent accountId) fun _ => trivial
        · refine Prog.Uses.bind (deleteProfile_distant other name) fun removed => ?_
          refine Prog.Uses.bind ?_ fun _ => trivial
          split
          · exact announce_distant accountId _
          · trivial

end CredentialChanges

namespace AdminService

theorem record_distant (actor : Actor) (action : AuditAction) (targetId : Option String)
    (detail : String) : (record env actor action targetId detail).Uses (Op.Distant target) :=
  record_uses (modest_of_quiet distant_of_quiet) .record actor action targetId detail

end AdminService

theorem spared_of_exec {α : Type} {p : Service env α} {w w' : World} {r : Except Error α}
    (exec : Exec p w r w') (uses : p.Uses (Op.Distant target)) (actorId : String) :
    Spared actorId target w.db w'.db := by
  refine exec.preserves uses (fun t => Spared actorId target w.db t.db)
    (fun o distant x s a t done before => ?_) (.refl actorId target w.db)
  exact before.trans (exec_distant done distant actorId)

/-! ## The guarded requests -/

/-- The actor, permitted what its roles resolve to now. -/
def actorOf (actorId : String) (w : World) : Actor := ⟨actorId, permissionsHeld w.db actorId, false⟩

section Guarded

variable {α : Type} {w w' : World} {r : Except Error α} {accountId : String}

theorem AccountService.setStatus_spares {status : AccountStatus} {r : Except Error Unit}
    (other : accountId ≠ target) (exec : Exec (setStatus env accountId status) w r w') :
    Spared actorId target w.db w'.db := by
  have exec := readAccount_exec exec
  cases found : readAccount w.db accountId with
  | none =>
      rw [found] at exec
      obtain ⟨-, rfl⟩ := exec.done_inv
      exact .refl actorId target w'.db
  | some account =>
      rw [found] at exec
      obtain ⟨_, -, -, keyed, -⟩ := readAccount_some found
      obtain ⟨now, t, same, exec⟩ := clockNow_exec exec
      obtain ⟨x, saved, u, done, exec⟩ := exec.call_inv
      obtain ⟨-, rfl⟩ := exec.done_inv
      have done : Keyring.exec env (.accounts (.save { account with
          status := status
          updatedAt := now })) x t = some (saved, w') := done
      rw [← same]
      refine exec_saved done ?_ fun own => ?_
      · exact fun mine => other (keyed.symm.trans mine)
      · rw [same, show actorId = accountId from own.symm.trans keyed]
        exact (permissionsHeld_of_read found).superset

theorem AdminService.guarded_spares {permission : Permission} {f : Account → Service env α}
    (distinct : target ≠ actorId) (exceeds : Exceeds actorId target w.db)
    (exec : Exec (Prog.ofExcept ((actorOf actorId w).require permission) >>= fun _ =>
      requireAccount env accountId >>= fun account =>
        checkCanActOn env (actorOf actorId w) account >>= fun _ => f account) w r w')
    (act : ∀ account : Account, accountId ≠ target → account.accountId ≠ target →
      Exec (f account) w r w' → Spared actorId target w.db w'.db) :
    Spared actorId target w.db w'.db := by
  rcases ofExcept_exec exec with rfl | ⟨_, -, exec⟩
  · exact .refl actorId target w'.db
  rcases requireAccount_exec exec with rfl | ⟨account, found, exec⟩
  · exact .refl actorId target w'.db
  rcases checkCanActOn_exec rfl exec with rfl | ⟨bounded, exec⟩
  · exact .refl actorId target w'.db
  obtain ⟨_, -, -, keyed, -⟩ := readAccount_some found
  have other : accountId ≠ target := by
    rintro rfl
    rcases bounded with own | within
    · exact distinct (keyed.symm.trans own)
    · exact exceeds (permissionsHeld_of_read found ▸ within)
  exact act account other (by rwa [keyed]) exec

end Guarded

/-! ## The requests that no guard keeps away -/

section Roles

variable {w w' : World}

/-- The checks that an assignment of roles passes. -/
structure Assignable (actor : Actor) (db : Db) (accountId : String) (wanted : List String) : Prop where
  permitted : .rolesAssign ∈ actor.permissions
  few : wanted.length ≤ maxRolesPerAccount
  known : ∀ name ∈ wanted, (db.roles.find? name).isSome
  grantable : resolveRoles db wanted ⊆ actor.permissions
  owner : checkOwnerSurvives db accountId (wanted.contains OWNER) (rolesOf db accountId) = .ok ()

/-- The checks that an edit of a role passes. -/
structure Editable (actor : Actor) (db : Db) (name : String) (wanted : Finset Permission)
    (description : String) : Prop where
  permitted : .rolesWrite ∈ actor.permissions
  custom : ∃ role, db.roles.find? name = some role ∧ role.builtin = false
  grantable : wanted ⊆ actor.permissions
  described : AdminService.checkDescription description = .ok ()

/-- The role of this name has these permissions. -/
def Db.withRole (db : Db) (name : String) (wanted : Finset Permission) : Db :=
  { db with
    roles := db.roles.updateWhere (·.name = name) (fun role => { role with permissions := wanted })
      fun _ => rfl }

theorem resolveRoles_cons {name : String} {names : List String} {role : Role}
    (found : db.roles.find? name = some role) :
    resolveRoles db (name :: names) = role.permissions ∪ resolveRoles db names := by
  ext p
  simp [mem_resolveRoles, found]

theorem AdminService.grantedBy_exec {α : Type} {names : List String} {granted : Finset Permission}
    {f : Finset Permission → Service env α} {r : Except Error α}
    (exec : Exec (grantedBy env names granted >>= f) w r w') :
    w' = w ∨ (∀ name ∈ names, (w.db.roles.find? name).isSome) ∧
      Exec (f (granted ∪ resolveRoles w.db names)) w r w' := by
  induction names generalizing granted with
  | nil =>
      rw [resolveRoles_nil, Finset.union_empty]
      exact Or.inr ⟨by simp, exec⟩
  | cons name names ih =>
      rw [grantedBy, bind_assoc] at exec
      have exec := findRole_exec exec
      cases found : w.db.roles.find? name with
      | none =>
          rw [found] at exec
          exact Or.inl exec.done_inv.2
      | some role =>
          rw [found] at exec
          rcases ih exec with refused | ⟨known, rest⟩
          · exact Or.inl refused
          · rw [Finset.union_assoc, ← resolveRoles_cons found] at rest
            refine Or.inr ⟨fun other member => ?_, rest⟩
            rcases List.mem_cons.mp member with rfl | member
            · rw [found]
              rfl
            · exact known other member

theorem AdminService.setAccountRoles_exec {accountId : String} {names : List String}
    {r : Except Error Account}
    (exec : Exec (setAccountRoles env (actorOf actorId w) accountId names) w r w') :
    w'.db = w.db ∨ ∃ normalized, names.mapM (normalizeRoleName env.text) = .ok normalized ∧
      Assignable (actorOf actorId w) w.db accountId (dictFromKeys normalized) ∧
      (accountId ≠ target → Spared actorId target w.db w'.db) := by
  rcases ofExcept_exec exec with rfl | ⟨_, permitted, exec⟩
  · exact Or.inl rfl
  rcases requireAccount_exec exec with rfl | ⟨account, found, exec⟩
  · exact Or.inl rfl
  rcases ofExcept_exec exec with rfl | ⟨normalized, normal, exec⟩
  · exact Or.inl rfl
  rcases refuseIf_exec exec with rfl | ⟨few, exec⟩
  · exact Or.inl rfl
  rcases grantedBy_exec exec with rfl | ⟨known, exec⟩
  · exact Or.inl rfl
  rcases ofExcept_exec exec with rfl | ⟨_, grantable, exec⟩
  · exact Or.inl rfl
  rw [Finset.empty_union] at grantable
  have grantable := checkCanGrant_ok.mp grantable
  obtain ⟨_, -, -, keyed, roles⟩ := readAccount_some found
  obtain ⟨now, t, same, exec⟩ := clockNow_exec exec
  obtain ⟨x, a, u, done, outcome⟩ := store_bind_exec exec
  have done : Keyring.exec env (.accounts (.setRoles account.accountId (dictFromKeys normalized) now))
      x t = some (a, u) := done
  rcases onDb_cases done with ⟨updated, rfl, committed⟩ | ⟨⟨e, rfl⟩, unchanged⟩
  · obtain ⟨current, read, owner, -, -⟩ := AccountOp.setRoles_ok committed
    rw [same, keyed, found] at read
    cases read
    refine Or.inr ⟨normalized, normal, ⟨Actor.require_ok.mp permitted, by omega, known, grantable, ?_⟩,
      fun other => ?_⟩
    · rw [← roles, ← keyed, ← same]
      exact owner
    · have assigned : Spared actorId target w.db u.db := by
        rw [← same]
        refine exec_assigned done (by rwa [keyed]) ?_
        rw [same]
        exact grantable
      rcases outcome with ⟨e, impossible, -⟩ | ⟨v, -, rest⟩
      · cases impossible
      · refine assigned.trans (spared_of_exec rest ?_ actorId)
        exact Prog.Uses.bind (record_distant _ _ _ _) fun _ => trivial
  · rcases outcome with ⟨_, -, rfl⟩ | ⟨v, impossible, -⟩
    · exact Or.inl (unchanged.trans same)
    · cases impossible

theorem RoleOp.save_permissionsHeld {text : Text} {role : Role} {u : Unit}
    (committed : ((save role).run text).run db = .ok (u, db')) (accountId : String) :
    permissionsHeld db' accountId = permissionsHeld (db.withRole role.name role.permissions) accountId := by
  obtain ⟨frame, found⟩ := RoleOp.save_ok committed
  have read : readAccount db' accountId = readAccount db accountId := by rw [frame]; rfl
  have resolved : ∀ names, resolveRoles db' names =
      resolveRoles (db.withRole role.name role.permissions) names := by
    intro names
    ext p
    simp only [mem_resolveRoles, found, Db.withRole, Table.find?_updateWhere]
    refine exists_congr fun name => and_congr_right fun _ => ?_
    cases stored : db.roles.find? name with
    | none => simp
    | some row =>
        obtain ⟨-, rfl⟩ := Table.find?_eq_some.mp stored
        by_cases same : row.name = role.name <;> simp [same]
  simp only [permissionsHeld, read, resolved]
  rfl

/-- An edit of a role that did anything had passed the checks, and touched no account. -/
theorem AdminService.updateRole_exec {name : String} {permissions : List String}
    {description : String} {r : Except Error Role}
    (exec : Exec (updateRole env (actorOf actorId w) name permissions description) w r w') :
    w'.db = w.db ∨ ∃ roleName wanted, normalizeRoleName env.text name = .ok roleName ∧
      parsePermissions permissions = .ok wanted ∧
      Editable (actorOf actorId w) w.db roleName wanted description ∧
      Untouched target w.db w'.db ∧ (Exceeds actorId target (w.db.withRole roleName wanted) →
        Exceeds actorId target w'.db) := by
  rcases ofExcept_exec exec with rfl | ⟨_, permitted, exec⟩
  · exact Or.inl rfl
  rcases ofExcept_exec exec with rfl | ⟨roleName, normal, exec⟩
  · exact Or.inl rfl
  have exec := findRole_exec exec
  cases found : w.db.roles.find? roleName with
  | none =>
      rw [found] at exec
      obtain ⟨-, rfl⟩ := exec.done_inv
      exact Or.inl rfl
  | some role =>
      rw [found] at exec
      rcases refuseIf_exec exec with rfl | ⟨custom, exec⟩
      · exact Or.inl rfl
      rcases ofExcept_exec exec with rfl | ⟨wanted, parsed, exec⟩
      · exact Or.inl rfl
      rcases ofExcept_exec exec with rfl | ⟨_, grantable, exec⟩
      · exact Or.inl rfl
      rcases ofExcept_exec exec with rfl | ⟨_, described, exec⟩
      · exact Or.inl rfl
      obtain ⟨now, t, same, exec⟩ := clockNow_exec exec
      obtain ⟨x, a, u, done, outcome⟩ := store_bind_exec exec
      obtain ⟨-, named⟩ := Table.find?_eq_some.mp found
      have done : Keyring.exec env (.roles (.save (role.withPermissions wanted description now)))
          x t = some (a, u) := done
      rcases onDb_cases done with ⟨v, rfl, committed⟩ | ⟨⟨e, rfl⟩, unchanged⟩
      · rcases outcome with ⟨e, impossible, -⟩ | ⟨v, -, rest⟩
        · cases impossible
        have after : Spared actorId target u.db w'.db :=
          spared_of_exec rest (Prog.Uses.bind (record_distant _ _ _ _) fun _ => trivial) actorId
        have frame := (RoleOp.save_ok committed).1
        have held := RoleOp.save_permissionsHeld committed
        rw [same] at frame held
        refine Or.inr ⟨roleName, wanted, normal, parsed, ⟨Actor.require_ok.mp permitted,
          ⟨role, found, by simpa using custom⟩, checkCanGrant_ok.mp grantable, described⟩, ?_,
          fun exceeds => after.exceeds ?_⟩
        · refine Untouched.trans ?_ after.untouched
          rw [frame]
          exact ⟨rfl, fun _ _ => Iff.rfl, fun _ _ => Iff.rfl, fun _ _ => Iff.rfl, fun _ _ => Iff.rfl⟩
        · rw [Exceeds, held, held]
          change Exceeds actorId target (w.db.withRole role.name wanted)
          rw [named]
          exact exceeds
      · rcases outcome with ⟨_, -, rfl⟩ | ⟨v, impossible, -⟩
        · exact Or.inl (unchanged.trans same)
        · cases impossible

theorem AdminService.createRole_spares {name : String} {permissions : List String}
    {description : String} {r : Except Error Role}
    (exec : Exec (createRole env (actorOf actorId w) name permissions description) w r w') :
    Spared actorId target w.db w'.db := by
  have nothing : Spared actorId target w.db w.db := .refl actorId target w.db
  rcases ofExcept_exec exec with rfl | ⟨_, -, exec⟩
  · exact nothing
  rcases ofExcept_exec exec with rfl | ⟨roleName, -, exec⟩
  · exact nothing
  rcases ofExcept_exec exec with rfl | ⟨wanted, -, exec⟩
  · exact nothing
  rcases ofExcept_exec exec with rfl | ⟨_, grantable, exec⟩
  · exact nothing
  rcases ofExcept_exec exec with rfl | ⟨_, -, exec⟩
  · exact nothing
  have exec := findRole_exec exec
  rcases refuseIf_exec exec with rfl | ⟨-, exec⟩
  · exact nothing
  obtain ⟨now, t, same, exec⟩ := clockNow_exec exec
  obtain ⟨x, a, u, done, outcome⟩ := store_bind_exec exec
  have defined : Spared actorId target w.db u.db := by
    rw [← same]
    refine exec_defined done ?_
    rw [same]
    exact checkCanGrant_ok.mp grantable
  rcases outcome with ⟨_, -, rfl⟩ | ⟨v, -, rest⟩
  · exact defined
  · exact defined.trans
      (spared_of_exec rest (Prog.Uses.bind (record_distant _ _ _ _) fun _ => trivial) actorId)

theorem AdminService.deleteRole_spares {actor : Actor} {name : String} {r : Except Error Unit}
    (exec : Exec (deleteRole env actor name) w r w') : Spared actorId target w.db w'.db := by
  rcases ofExcept_exec exec with rfl | ⟨_, -, exec⟩
  · exact .refl actorId target w'.db
  rcases ofExcept_exec exec with rfl | ⟨roleName, -, exec⟩
  · exact .refl actorId target w'.db
  rcases idle_bind_exec exec (accountStore_uses trivial) with same | ⟨holders, t, -, same, exec⟩
  · rw [same]
    exact .refl actorId target w.db
  · obtain ⟨x, a, u, done, outcome⟩ := store_bind_exec exec
    have dropped : Spared actorId target w.db u.db := by
      rw [← same]
      exact exec_dropped done
    rcases outcome with ⟨_, -, rfl⟩ | ⟨v, -, rest⟩
    · exact dropped
    · exact dropped.trans (spared_of_exec rest (record_distant _ _ _ _) actorId)

end Roles

/-! ## Every sequence of calls -/

/-- The call takes none of the two ways around the guard: it does not assign the
target roles in a way that passes the checks of an assignment, nor edit a role in
a way that passes those of an edit and leaves the target within the actor. -/
def AdminCall.respects (env : Env) (actorId target : String) (w : World) : AdminCall → Prop
  | .setAccountRoles accountId names => accountId = target →
      ∀ normalized, names.mapM (normalizeRoleName env.text) = .ok normalized →
        ¬Assignable (actorOf actorId w) w.db target (dictFromKeys normalized)
  | .updateRole name permissions description =>
      ∀ roleName wanted, normalizeRoleName env.text name = .ok roleName →
        parsePermissions permissions = .ok wanted →
        Editable (actorOf actorId w) w.db roleName wanted description →
          Exceeds actorId target (w.db.withRole roleName wanted)
  | _ => True

theorem AdminCall.keeps {c : AdminCall} {w w' : World} {r : Except Error Answer}
    (distinct : target ≠ actorId) (exceeds : Exceeds actorId target w.db)
    (respects : c.respects env actorId target w)
    (exec : Exec (c.prog env (actorOf actorId w)) w r w') :
    Untouched target w.db w'.db ∧ Exceeds actorId target w'.db := by
  have of_spared : Spared actorId target w.db w'.db →
      Untouched target w.db w'.db ∧ Exceeds actorId target w'.db :=
    fun spared => ⟨spared.untouched, spared.exceeds exceeds⟩
  have of_same : w'.db = w.db → Untouched target w.db w'.db ∧ Exceeds actorId target w'.db :=
    fun same => of_spared (same ▸ .refl actorId target w.db)
  cases c with
  | listAccounts =>
      obtain ⟨_, exec⟩ := returning_exec exec
      exact of_same (idle_exec exec (Prog.Uses.bind (ofExcept_uses _) fun _ =>
        accountStore_uses trivial))
  | getAccount accountId =>
      obtain ⟨_, exec⟩ := returning_exec exec
      exact of_same (idle_exec exec (Prog.Uses.bind (ofExcept_uses _) fun _ =>
        AdminService.requireAccount_uses (fun _ modest => modest.quiet.idle) accountId))
  | listProfiles accountId =>
      obtain ⟨_, exec⟩ := returning_exec exec
      exact of_same (idle_exec exec (Prog.Uses.bind (ofExcept_uses _) fun _ =>
        Prog.Uses.bind (AdminService.requireAccount_uses (fun _ modest => modest.quiet.idle) accountId) fun _ =>
          profileStore_uses trivial))
  | readAudit limit =>
      obtain ⟨_, exec⟩ := returning_exec exec
      exact of_same (idle_exec exec (Prog.Uses.bind (ofExcept_uses _) fun _ =>
        auditLog_uses trivial))
  | listRoles =>
      obtain ⟨_, exec⟩ := returning_exec exec
      exact of_same (idle_exec exec (Prog.Uses.bind (ofExcept_uses _) fun _ =>
        roleStore_uses trivial))
  | invite email =>
      obtain ⟨_, exec⟩ := returning_exec exec
      refine of_spared (spared_of_exec exec ?_ actorId)
      refine Prog.Uses.bind (ofExcept_uses _) fun _ => ?_
      refine Prog.Uses.bind (AccountService.issueInvite_distant email) fun grant => ?_
      exact Prog.Uses.bind (AdminService.record_distant _ _ _ _) fun _ => trivial
  | setStatus accountId status =>
      obtain ⟨_, exec⟩ := returning_exec exec
      refine of_spared (AdminService.guarded_spares distinct exceeds exec fun account other _ exec => ?_)
      rcases exec.bind_inv with ⟨_, failed, -⟩ | ⟨_, t, first, rest⟩
      · exact AccountService.setStatus_spares other failed
      · refine (AccountService.setStatus_spares other first).trans (spared_of_exec rest ?_ actorId)
        refine Prog.Uses.bind ?_ fun _ => ?_
        · split
          · exact sessionStore_uses (.signOut other)
          · trivial
        · refine Prog.Uses.bind (AdminService.record_distant _ _ _ _) fun _ => ?_
          exact Prog.Uses.bind (accountStore_uses (.idle trivial)) fun _ => trivial
  | revokeSessions accountId =>
      obtain ⟨_, exec⟩ := returning_exec exec
      refine of_spared (AdminService.guarded_spares distinct exceeds exec fun account other _ exec => ?_)
      refine spared_of_exec exec ?_ actorId
      refine Prog.Uses.bind (sessionStore_uses (.signOut other)) fun revoked => ?_
      exact Prog.Uses.bind (AdminService.record_distant _ _ _ _) fun _ => trivial
  | issuePasswordReset accountId =>
      obtain ⟨_, exec⟩ := returning_exec exec
      refine of_spared (AdminService.guarded_spares distinct exceeds exec fun account _ other exec => ?_)
      refine spared_of_exec exec ?_ actorId
      refine Prog.Uses.bind (AccountService.issueResetFor_distant other) fun grant => ?_
      exact Prog.Uses.bind (AdminService.record_distant _ _ _ _) fun _ => trivial
  | deleteAccount accountId =>
      obtain ⟨_, exec⟩ := returning_exec exec
      refine of_spared (AdminService.guarded_spares distinct exceeds exec fun account other _ exec => ?_)
      refine spared_of_exec exec ?_ actorId
      refine Prog.Uses.bind (accountStore_uses (.delete other)) fun _ => ?_
      exact AdminService.record_distant _ _ _ _
  | deleteProfile accountId name =>
      obtain ⟨_, exec⟩ := returning_exec exec
      refine of_spared (AdminService.guarded_spares distinct exceeds exec fun account other _ exec => ?_)
      refine spared_of_exec exec ?_ actorId
      refine Prog.Uses.bind (Prog.Uses.tryCatch ?_ fun e => ?_) fun removed => ?_
      · refine CredentialChanges.removeProfile_distant other ?_ name
        split <;> rfl
      · cases e <;> trivial
      · refine Prog.Uses.bind (refuseIf_uses _ _) fun _ => ?_
        exact AdminService.record_distant _ _ _ _
  | createRole name permissions description =>
      obtain ⟨_, exec⟩ := returning_exec exec
      exact of_spared (AdminService.createRole_spares exec)
  | updateRole name permissions description =>
      obtain ⟨_, exec⟩ := returning_exec exec
      rcases AdminService.updateRole_exec exec with same | ⟨roleName, wanted, normal, parsed, editable,
        untouched, still⟩
      · exact of_same same
      · exact ⟨untouched, still (respects roleName wanted normal parsed editable)⟩
  | deleteRole name =>
      obtain ⟨_, exec⟩ := returning_exec exec
      exact of_spared (AdminService.deleteRole_spares exec)
  | setAccountRoles accountId names =>
      obtain ⟨_, exec⟩ := returning_exec exec
      rcases AdminService.setAccountRoles_exec exec with same | ⟨normalized, normal, assignable, spared⟩
      · exact of_same same
      · refine of_spared (spared fun same => ?_)
        subst same
        exact respects rfl normalized normal assignable

section Calls

variable {w w' : World} {made : List (Made (machine env) AdminCall Error Answer)}

/-- The actor's calls, each authorised for what its roles resolve to when it begins. -/
abbrev ActorCalls (env : Env) (actorId : String) :=
  Calls (M := machine env) fun (c : AdminCall) w => c.prog env (actorOf actorId w)

/-- In every sequence of calls of one actor that take none of the two ways around
the guard, an account that holds more than the actor is untouched after each. -/
theorem target_untouched (distinct : target ≠ actorId) (exceeds : Exceeds actorId target w.db)
    (calls : ActorCalls env actorId w made w')
    (respects : ∀ m ∈ made, m.call.respects env actorId target m.before) :
    (∀ m ∈ made, Untouched target w.db m.after.db) ∧ Untouched target w.db w'.db ∧
      Exceeds actorId target w'.db := by
  induction calls with
  | refl => exact ⟨by simp, .refl target w.db, exceeds⟩
  | @snoc made t u c r init last ih =>
      obtain ⟨each, before, still⟩ := ih fun m member => respects m (List.mem_append_left _ member)
      obtain ⟨untouched, exceeds⟩ := AdminCall.keeps distinct still
        (respects ⟨c, t, r, u⟩ (by simp)) last
      have after := before.trans untouched
      refine ⟨fun m member => ?_, after, exceeds⟩
      rcases List.mem_append.mp member with earlier | newest
      · exact each m earlier
      · rw [List.mem_singleton.mp newest]
        exact after

end Calls

/-! ## An owner loses its roles -/

namespace Scenario

/-- Alice and Carol own the deployment and Bob administers it. -/
def council : World := worldOf (threeAccounts "owner" "admin" "owner")

/-- Bob's calls on the inputs they need. -/
def bobCalls (calls : List AdminCall) : List (Made (machine deployment) AdminCall Error Answer) × World :=
  playCalls (M := machine deployment) (fun (c : AdminCall) w => c.prog deployment (actorOf "bob" w))
    (calls.map fun c => (c, List.replicate 16 (given 9 "x"))) council

/-- Bob tries to disable Alice and makes Carol an auditor. -/
def rebuffed : List AdminCall := [.setStatus "alice" .disabled, .setAccountRoles "carol" ["auditor"]]

/-- Bob takes Alice's roles away and then resets her password. -/
def usurping : List AdminCall := [.setAccountRoles "alice" ["member"], .issuePasswordReset "alice"]

end Scenario

open Scenario in
theorem target_untouched_rebuffed :
    (∀ m ∈ (bobCalls rebuffed).1, Untouched "alice" council.db m.after.db) ∧
      Untouched "alice" council.db (bobCalls rebuffed).2.db ∧
      Exceeds "bob" "alice" (bobCalls rebuffed).2.db := by
  refine target_untouched (by decide) (by decide +kernel) (playCalls_calls _ _ _) fun m member => ?_
  have called := playCalls_mem member
  simp only [rebuffed, List.map_cons, List.map_nil, List.mem_cons, List.not_mem_nil, or_false]
    at called
  rcases called with same | same <;> rw [same]
  · trivial
  · exact fun impossible => absurd impossible (by decide)

open Scenario in
/-- An account that holds more than the actor loses its roles, and its password
to the actor. -/
theorem target_usurped :
    Exceeds "bob" "alice" council.db ∧
      ActorCalls deployment "bob" council (bobCalls usurping).1 (bobCalls usurping).2 ∧
      ¬Untouched "alice" council.db (bobCalls usurping).2.db ∧
      rolesOf (bobCalls usurping).2.db "alice" = ["member"] ∧
      ∃ grant ∈ (bobCalls usurping).2.db.grants,
        grant.accountId = some "alice" ∧ grant.purpose = .passwordReset := by
  have stripped : rolesOf (bobCalls usurping).2.db "alice" = ["member"] := by decide +kernel
  refine ⟨by decide +kernel, playCalls_calls _ _ _, fun untouched => ?_, stripped, ?_⟩
  · have same := congrArg (Option.map Account.roles) untouched.account
    revert same
    decide +kernel
  · decide +kernel

end Keyring

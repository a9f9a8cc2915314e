import Keyring.Credentials.Acting
import Keyring.Interleave.Alone

/-!
# One account in two states

The operations of an account are answered from what the account holds, and write
nothing else: run in two states that hold the same of it, on the same readings, draws
and answers from outside, they return the same and leave the same of it, and each state
then holds of every other account what it held before.
-/

set_option autoImplicit false

namespace Keyring

open Interleave Relational

variable {env : Env} {a b : String} {w w' w₁ w₁' w₂ w₂' : World} {α β : Type}

/-! ## What a transaction on credentials reads -/

/-- `db`, with the tables of `rest` that belong to no profile and to no account's row. -/
def Db.beside (db rest : Db) : Db :=
  { db with
    roles := rest.roles
    sessions := rest.sessions
    grants := rest.grants
    audit := rest.audit
    auditSequence := rest.auditSequence }

section Beside

variable (db rest : Db)

theorem Db.beside_accounts : (db.beside rest).accounts = db.accounts := rfl
theorem Db.beside_profiles : (db.beside rest).profiles = db.profiles := rfl
theorem Db.beside_connections : (db.beside rest).connections = db.connections := rfl
theorem Db.beside_offlineGrants : (db.beside rest).offlineGrants = db.offlineGrants := rfl

theorem touchProfile_beside (accountId name : String) (now : Instant) :
    touchProfile (db.beside rest) accountId name now =
      (touchProfile db accountId name now).beside rest := rfl

theorem checkConnectionCap_beside (accountId name service : String) (cap : Nat) :
    checkConnectionCap (db.beside rest) accountId name service cap =
      checkConnectionCap db accountId name service cap := rfl

end Beside

/-- The work neither reads nor writes these tables. -/
def Secluded (work : Transaction α) : Prop :=
  ∀ db rest, work.run (db.beside rest) = (work.run db).map fun done => (done.1, done.2.beside rest)

theorem Secluded.select {query : Db → α} (same : ∀ db rest, query (db.beside rest) = query db) :
    Secluded (select query) := by
  intro db rest
  rw [select_run, select_run, same]
  rfl

theorem Secluded.bind {work : Transaction α} {f : α → Transaction β} (first : Secluded work)
    (rest : ∀ v, Secluded (f v)) : Secluded (work >>= f) := by
  intro db others
  rw [StateT.run_bind, StateT.run_bind, first]
  cases work.run db with
  | error e => rfl
  | ok done => exact rest done.1 done.2 others

theorem Secluded.transact {work : Transaction α} (secluded : Secluded work) (db rest : Db) :
    transact work (db.beside rest) =
      ((Keyring.transact work db).1, (Keyring.transact work db).2.beside rest) := by
  rw [Keyring.transact, Keyring.transact, secluded]
  cases work.run db <;> rfl

theorem upsertConnection_confined (accountId name : String) (item : Connection) :
    Secluded (upsertConnection accountId name item) := by
  intro db rest
  by_cases missing : (db.profiles.find? (accountId, name)).isNone = true
  · have here : (upsertConnection accountId name item).run db = _ := if_pos missing
    have there : (upsertConnection accountId name item).run (db.beside rest) = _ := if_pos missing
    rw [here, there]
    rfl
  · have here : (upsertConnection accountId name item).run db = _ := if_neg missing
    have there : (upsertConnection accountId name item).run (db.beside rest) = _ := if_neg missing
    rw [here, there]
    rfl

theorem insertProfile_confined (row : ProfileRow) : Secluded (insertProfile row) := by
  intro db rest
  change insertProfile row (db.beside rest) = (insertProfile row db).map _
  simp only [insertProfile, Db.beside_profiles, Db.beside_accounts, apply_ite (Except.map _)]
  refine if_congr Iff.rfl rfl ?_
  cases insertRow db.profiles row "profiles.account_id, profiles.name" with
  | error e => rfl
  | ok profiles =>
      dsimp only
      rw [apply_ite (Except.map _)]
      exact if_congr Iff.rfl rfl rfl

theorem ProfileOp.secluded (text : Text) (o : ProfileOp) : Secluded (o.run text) := by
  cases o with
  | add profile cap =>
      intro db rest
      rw [addProfile_run rfl, addProfile_run rfl]
      change (if (db.profiles.find? _).isSome then _ else if db.profiles.countWhere _ ≥ cap then _
        else _) = _
      split
      · rfl
      · split
        · rfl
        · refine Secluded.bind (insertProfile_confined _) (fun _ => ?_) db rest
          induction profile.connections with
          | nil => exact fun _ _ => rfl
          | cons item items ih => exact Secluded.bind (upsertConnection_confined _ _ _) fun _ => ih
  | get | listForAccount | countForAccount | allProfiles => exact Secluded.select fun _ _ => rfl
  | putConnection accountId name connection cap now =>
      intro db rest
      rw [putConnection_run, putConnection_run]
      simp only [Db.beside_profiles, touchProfile_beside, checkConnectionCap_beside,
        apply_ite (Except.map _)]
      refine if_congr Iff.rfl rfl ?_
      cases checkConnectionCap (touchProfile db accountId name now) accountId name
        connection.service cap with
      | error e => rfl
      | ok _ =>
          dsimp only
          rw [upsertConnection_confined]
          cases (upsertConnection accountId name connection).run
              (touchProfile db accountId name now) with
          | error e => rfl
          | ok done =>
              simp only [Except.map, Db.beside_connections]
              cases done.2.connections.find? (accountId, name, connection.service) <;> rfl
  | removeConnection accountId name service now =>
      intro db rest
      change Except.ok (if (db.connections.find? _).isSome then _ else _) =
        Except.map _ (Except.ok (if (db.connections.find? _).isSome then _ else _))
      split <;> rfl
  | delete accountId name => exact fun _ _ => rfl

theorem SecretOp.secluded (o : SecretOp) : Secluded o.run := by
  cases o with
  | get => exact Secluded.select fun _ _ => rfl
  | put accountId profile service envelope now =>
      intro db rest
      change (if (db.accounts.find? accountId).isNone then _ else _) =
        Except.map _ (if (db.accounts.find? accountId).isNone then _ else _)
      split <;> rfl
  | delete | deleteProfile => exact fun _ _ => rfl

theorem DelegationOp.secluded (o : DelegationOp) : Secluded o.run := by
  cases o with
  | add grant cap now =>
      intro db rest
      simp only [DelegationOp.run, StateT.run, Db.beside_profiles, Db.beside_offlineGrants,
        apply_ite (Except.map _)]
      refine if_congr Iff.rfl rfl (if_congr Iff.rfl rfl ?_)
      cases insertRow db.offlineGrants { grant with revokedAt := none } "offline_grants.grant_id" <;> rfl
  | forExchange | listForProfile => exact Secluded.select fun _ _ => rfl
  | revoke => exact fun _ _ => rfl

/-! ## The rows of an account -/

/-- The rows that bear an account's id, its authorizations in progress, and the grants of
it that are being renewed. -/
@[ext]
structure AccountRows where
  accounts : Table AccountRow.accountId
  accountRoles : Table AccountRole.key
  sessions : Table Session.sessionId
  grants : Table Grant.grantId
  profiles : Table ProfileRow.key
  connections : Table ConnectionRow.key
  secrets : Table SecretRow.key
  offlineGrants : Table OfflineGrant.grantId
  flows : Table FlowRow.stateHash
  renewing : List Triple

def World.rowsOf (w : World) (a : String) : AccountRows where
  accounts := w.db.accounts.restrict (·.accountId = a)
  accountRoles := w.db.accountRoles.restrict (·.accountId = a)
  sessions := w.db.sessions.restrict (·.accountId = a)
  grants := w.db.grants.restrict (·.accountId = some a)
  profiles := w.db.profiles.restrict (·.accountId = a)
  connections := w.db.connections.restrict (·.accountId = a)
  secrets := w.db.secrets.restrict (·.accountId = a)
  offlineGrants := w.db.offlineGrants.restrict (·.accountId = a)
  flows := w.flows.restrict (·.flow.binding.accountId = a)
  renewing := w.renewing.filter (·.1 = a)

/-- What a mirror of the account holds of it, where no row but the mirrored ones differs. -/
theorem Mirrors.rowsOf {w m : World} (mirrors : Mirrors a w' m) (same : Mirrors a w m)
    (others : w'.db = w'.db.beside w.db) : w'.rowsOf a = w.rowsOf a := by
  have tables := congrArg Db.sessions others
  have links := congrArg Db.grants others
  apply AccountRows.ext
  · exact mirrors.db.accounts.symm.trans same.db.accounts
  · exact mirrors.db.accountRoles.symm.trans same.db.accountRoles
  · exact congrArg (Table.restrict · fun row => decide (row.accountId = a)) tables
  · exact congrArg (Table.restrict · fun row => decide (row.accountId = some a)) links
  · exact mirrors.db.profiles.symm.trans same.db.profiles
  · exact mirrors.db.connections.symm.trans same.db.connections
  · exact mirrors.db.secrets.symm.trans same.db.secrets
  · exact mirrors.db.offlineGrants.symm.trans same.db.offlineGrants
  · exact mirrors.flows.symm.trans same.flows
  · exact mirrors.renewing.symm.trans same.renewing

theorem onDb_alike {work : Transaction α} {answer : Except Error α} (secluded : Secluded work)
    (agree : w₁.rowsOf a = w₂.rowsOf a)
    (first : ∀ m, Mirror a w₁.db m → Mirrored a w₁.db m work)
    (second : ∀ m, Mirror a w₂.db m → Mirrored a w₂.db m work)
    (done : onDb work w₁ = some (answer, w₁')) :
    ∃ w₂', onDb work w₂ = some (answer, w₂') ∧ w₁'.rowsOf a = w₂'.rowsOf a := by
  have mirror₁ : Mirror a w₁.db (w₁.db.only a) := (mirrors_only w₁ a).db
  have mirror₂ : Mirror a w₂.db ((w₁.db.only a).beside w₂.db) :=
    ⟨congrArg AccountRows.accounts agree, congrArg AccountRows.accountRoles agree, rfl,
      congrArg AccountRows.profiles agree, congrArg AccountRows.connections agree,
      congrArg AccountRows.secrets agree, congrArg AccountRows.offlineGrants agree⟩
  obtain ⟨same₁, later₁⟩ := (first _ mirror₁).transact mirror₁
  obtain ⟨same₂, later₂⟩ := (second _ mirror₂).transact mirror₂
  rw [secluded.transact] at same₂ later₂
  have kept : ∀ w : World, transact work w.db =
      ((transact work w.db).1, (transact work w.db).2.beside w.db) := fun w => secluded.transact w.db w.db
  have kept₁ := congrArg Prod.snd (kept w₁)
  have kept₂ := congrArg Prod.snd (kept w₂)
  have flows := congrArg AccountRows.flows agree
  have renewing := congrArg AccountRows.renewing agree
  cases done
  refine ⟨{ w₂ with db := (transact work w₂.db).2 }, ?_, ?_⟩
  · rw [onDb, ← same₂, ← same₁]
  · apply AccountRows.ext
    · exact later₁.accounts.symm.trans later₂.accounts
    · exact later₁.accountRoles.symm.trans later₂.accountRoles
    · change (transact work w₁.db).2.sessions.restrict _ = (transact work w₂.db).2.sessions.restrict _
      rw [kept₁, kept₂]
      exact congrArg AccountRows.sessions agree
    · change (transact work w₁.db).2.grants.restrict _ = (transact work w₂.db).2.grants.restrict _
      rw [kept₁, kept₂]
      exact congrArg AccountRows.grants agree
    · exact later₁.profiles.symm.trans later₂.profiles
    · exact later₁.connections.symm.trans later₂.connections
    · exact later₁.secrets.symm.trans later₂.secrets
    · exact later₁.offlineGrants.symm.trans later₂.offlineGrants
    · exact flows
    · exact renewing

/-! ## One step -/

/-- The step is one that an operation on the account's credentials may take. -/
def Op.scopedTo (a : String) : Op → Prop
  | .accounts (.get accountId) | .preferences accountId => accountId = a
  | .profiles (.add profile _) => profile.accountId = a
  | .profiles (.get accountId _) | .profiles (.listForAccount accountId)
  | .profiles (.putConnection accountId _ _ _ _) | .profiles (.removeConnection accountId _ _ _)
  | .profiles (.delete accountId _) | .profiles (.countForAccount accountId) => accountId = a
  | .secrets (.get accountId _ _) | .secrets (.put accountId _ _ _ _)
  | .secrets (.delete accountId _ _) | .secrets (.deleteProfile accountId _) => accountId = a
  | .delegations (.add grant _ _) => grant.accountId = a
  | .delegations (.listForProfile accountId _) | .delegations (.revoke accountId _ _ _) =>
      accountId = a
  | .issueState _ flow => flow.binding.accountId = a
  | .acquire key | .release key => key.1 = a
  | .delegations (.forExchange _ _) | .redeemState _ => True
  | .now | .monotonic | .draw | .urandom | .post _ _ => True
  | _ => False

/-- The name that the step brings into use is new, and what its caller has redeemed is the
account's. -/
def Undisputed (a : String) (e : Event (machine env)) : Prop :=
  e.op.fresh e.before ∧ ∀ named, e.op.names? e.ans = some named → named = a

theorem Op.scopedTo.beside {o : Op} {x : Input} {answer : o.Ans} (own : o.scopedTo a)
    (done : exec env o x w = some (answer, w')) : w'.db = w'.db.beside w.db := by
  have touched := exec_touches done
  cases o with
  | accounts o =>
      cases o with
      | get accountId =>
          have frame : w'.db = { w.db with
            accounts := w'.db.accounts, accountRoles := w'.db.accountRoles } := touched
          rw [frame]
          rfl
      | _ => exact absurd own id
  | profiles o =>
      have frame : w'.db = { w.db with
        profiles := w'.db.profiles
        connections := w'.db.connections
        offlineGrants := w'.db.offlineGrants } := touched
      rw [frame]
      rfl
  | secrets o =>
      have frame : w'.db = { w.db with secrets := w'.db.secrets } := touched
      rw [frame]
      rfl
  | delegations o =>
      have frame : w'.db = { w.db with offlineGrants := w'.db.offlineGrants } := touched
      rw [frame]
      rfl
  | issueState | acquire | release | redeemState | preferences | now | monotonic | draw | urandom | post =>
      have same : w'.db = w.db := touched
      rw [same]
      rfl
  | _ => exact absurd own id

/-- It is about the account, or about what its caller holds a handle of, or it counts. -/
theorem Op.scopedTo.limited {o : Op} (own : o.scopedTo a) :
    (o.about (fun _ _ => True) (some a) ∨ o.seeks) ∨ o = .profiles (.countForAccount a) := by
  cases o with
  | accounts o =>
      cases o with
      | get accountId => exact Or.inl (Or.inl (congrArg some (Eq.symm own)))
      | _ => exact absurd own id
  | profiles o =>
      cases o with
      | countForAccount accountId => exact Or.inr (congrArg (Op.profiles ∘ .countForAccount) own)
      | allProfiles => exact absurd own id
      | _ => exact Or.inl (Or.inl (congrArg some (Eq.symm own)))
  | secrets o => cases o <;> exact Or.inl (Or.inl (congrArg some (Eq.symm own)))
  | delegations o =>
      cases o with
      | forExchange grantId service => exact Or.inl (Or.inr trivial)
      | _ => exact Or.inl (Or.inl (congrArg some (Eq.symm own)))
  | issueState | acquire | release | preferences =>
      exact Or.inl (Or.inl (congrArg some (Eq.symm own)))
  | redeemState => exact Or.inl (Or.inr trivial)
  | now | monotonic | draw | urandom | post => exact Or.inl (Or.inl trivial)
  | _ => exact absurd own id

/-- A step of the account's operations leaves what any other account holds. -/
theorem Op.scopedTo.spares {e : Event (machine env)} {x : Input} (own : e.op.scopedTo a)
    (undisputed : Undisputed a e) (other : b ≠ a)
    (done : exec env e.op x e.before = some (e.ans, e.after)) :
    e.after.rowsOf b = e.before.rowsOf b := by
  have apart : some a ≠ some b := fun same => other (Option.some.inj same).symm
  have before := mirrors_only e.before b
  refine Mirrors.rowsOf ?_ before (own.beside done)
  rcases own.limited with (about | seeks) | counts
  · exact before.spared about apart undisputed.1 done
  · refine before.sought_spared seeks ?_ apart done
    intro named here
    exact congrArg some (undisputed.2 named here).symm
  · obtain ⟨i, o, answer, s, t⟩ := e
    cases counts
    exact before.onDb_spared (Sparing.select _) done

theorem countProfiles_mirrored {db m : Db} (mirror : Mirror a db m) (text : Text) :
    Mirrored a db m ((ProfileOp.countForAccount a).run text) := by
  refine Mirrored.select mirror ?_
  rw [mirror.profiles, Table.countWhere_restrict fun _ hit => hit]

theorem World.rowsOf_memory (agree : w₁.rowsOf a = w₂.rowsOf a) (same₁ : w₁'.db = w₁.db)
    (same₂ : w₂'.db = w₂.db)
    (flows : w₁'.flows.restrict (fun row => decide (row.flow.binding.accountId = a)) =
      w₂'.flows.restrict fun row => decide (row.flow.binding.accountId = a))
    (renewing : w₁'.renewing.filter (fun key => decide (key.1 = a)) =
      w₂'.renewing.filter fun key => decide (key.1 = a)) : w₁'.rowsOf a = w₂'.rowsOf a := by
  have split : ∀ w w' : World, w'.db = w.db → w'.rowsOf a = { w.rowsOf a with
      flows := w'.flows.restrict fun row => decide (row.flow.binding.accountId = a)
      renewing := w'.renewing.filter fun key => decide (key.1 = a) } := by
    intro w w' same
    rw [World.rowsOf, same]
    rfl
  rw [split w₁ w₁' same₁, split w₂ w₂' same₂, agree, flows, renewing]

/-- A row of the account that one of the states finds, the other finds. -/
theorem find_flow_alike {stateHash : String} {row : FlowRow}
    (agree : w₁.flows.restrict (fun row => decide (row.flow.binding.accountId = a)) =
      w₂.flows.restrict fun row => decide (row.flow.binding.accountId = a))
    (own : row.flow.binding.accountId = a) (found : w₁.flows.find? stateHash = some row) :
    w₂.flows.find? stateHash = some row := by
  obtain ⟨stored, rfl⟩ := Table.find?_eq_some.mp found
  have kept : row ∈ w₁.flows.restrict (fun row => decide (row.flow.binding.accountId = a)) :=
    Table.mem_restrict.mpr ⟨stored, decide_eq_true own⟩
  rw [agree] at kept
  exact Table.find?_self (Table.mem_restrict.mp kept).1

/-- In two states that agree on the account's rows, a step of its operations is answered
alike and leaves states that agree. -/
theorem exec_alike {o : Op} {x : Input} {answer : o.Ans} (own : o.scopedTo a)
    (agree : w₁.rowsOf a = w₂.rowsOf a)
    (first : Undisputed a (⟨0, o, answer, w₁, w₁'⟩ : Event (machine env)))
    (second : ∀ answer w₂', exec env o x w₂ = some (answer, w₂') →
      Undisputed a (⟨0, o, answer, w₂, w₂'⟩ : Event (machine env)))
    (done : exec env o x w₁ = some (answer, w₁')) :
    ∃ w₂', exec env o x w₂ = some (answer, w₂') ∧ w₁'.rowsOf a = w₂'.rowsOf a := by
  have flows : w₁.flows.restrict (fun row => decide (row.flow.binding.accountId = a)) =
    w₂.flows.restrict (fun row => decide (row.flow.binding.accountId = a)) :=
      congrArg AccountRows.flows agree
  have renewing : w₁.renewing.filter (fun key => decide (key.1 = a)) =
    w₂.renewing.filter (fun key => decide (key.1 = a)) := congrArg AccountRows.renewing agree
  cases o with
  | accounts o =>
      cases o with
      | get accountId =>
          cases own
          exact onDb_alike (Secluded.select fun _ _ => rfl) agree
            (fun _ mirror => getAccount_mirrored mirror) (fun _ mirror => getAccount_mirrored mirror) done
      | _ => exact absurd own id
  | profiles o =>
      have alike := fun first second => onDb_alike (o.secluded env.text) agree first second done
      cases o with
      | add profile cap =>
          refine alike (fun m mirror => ?_) (fun m mirror => ?_)
          · refine addProfile_mirrored mirror own fun row stored same => ?_
            exact first.1 _ rfl ⟨row, stored, same⟩
          · refine addProfile_mirrored mirror own fun row stored same => ?_
            exact (second _ _ rfl).1 _ rfl ⟨row, stored, same⟩
      | get accountId name =>
          cases own
          exact alike (fun _ mirror => getProfile_mirrored mirror) fun _ mirror => getProfile_mirrored mirror
      | listForAccount accountId =>
          cases own
          exact alike (fun _ mirror => listProfiles_mirrored mirror) fun _ mirror =>
            listProfiles_mirrored mirror
      | putConnection accountId name connection cap now =>
          cases own
          exact alike (fun _ mirror => putConnection_mirrored mirror) fun _ mirror =>
            putConnection_mirrored mirror
      | removeConnection accountId name service now =>
          cases own
          exact alike (fun _ mirror => removeConnection_mirrored mirror) fun _ mirror =>
            removeConnection_mirrored mirror
      | delete accountId name =>
          cases own
          exact alike (fun _ mirror => deleteProfile_mirrored mirror) fun _ mirror =>
            deleteProfile_mirrored mirror
      | countForAccount accountId =>
          cases own
          exact alike (fun _ mirror => countProfiles_mirrored mirror env.text) fun _ mirror =>
            countProfiles_mirrored mirror env.text
      | allProfiles => exact absurd own id
  | secrets o =>
      have alike := fun first second => onDb_alike o.secluded agree first second done
      cases o with
      | get accountId profile service =>
          cases own
          exact alike (fun _ mirror => getSecret_mirrored mirror) fun _ mirror => getSecret_mirrored mirror
      | put accountId profile service envelope now =>
          cases own
          exact alike (fun _ mirror => putSecret_mirrored mirror) fun _ mirror => putSecret_mirrored mirror
      | delete accountId profile service =>
          cases own
          exact alike (fun _ mirror => deleteSecret_mirrored mirror) fun _ mirror =>
            deleteSecret_mirrored mirror
      | deleteProfile accountId profile =>
          cases own
          exact alike (fun _ mirror => deleteSecrets_mirrored mirror) fun _ mirror =>
            deleteSecrets_mirrored mirror
  | delegations o =>
      have alike := fun first second => onDb_alike o.secluded agree first second done
      cases o with
      | add grant cap now =>
          refine alike (fun m mirror => ?_) (fun m mirror => ?_)
          · refine addGrant_mirrored mirror own fun row stored same => ?_
            exact first.1 _ rfl ⟨row, stored, same⟩
          · refine addGrant_mirrored mirror own fun row stored same => ?_
            exact (second _ _ rfl).1 _ rfl ⟨row, stored, same⟩
      | listForProfile accountId profile =>
          cases own
          exact alike (fun _ mirror => listGrants_mirrored mirror) fun _ mirror => listGrants_mirrored mirror
      | revoke accountId profile grantId now =>
          cases own
          exact alike (fun _ mirror => revokeGrant_mirrored mirror) fun _ mirror =>
            revokeGrant_mirrored mirror
      | forExchange grantId service =>
          have named₂ := (second _ _ rfl).2
          refine alike (fun m mirror => ?_) (fun m mirror => ?_)
          · refine forExchange_mirrored mirror fun grant found => first.2 _ ?_
            cases done
            simp only [Op.names?, transact, DelegationOp.run, select_run, found, Option.map_some]
          · refine forExchange_mirrored mirror fun grant found => named₂ _ ?_
            simp only [Op.names?, transact, DelegationOp.run, select_run, found, Option.map_some]
  | issueState stateHash flow =>
      have new : ∀ w : World, (Op.issueState stateHash flow).fresh w →
          (w.flows.upsert ⟨stateHash, flow⟩ (·.set flow) (·.set_stateHash flow)).restrict
            (fun row => decide (row.flow.binding.accountId = a)) =
          (w.flows.restrict fun row => decide (row.flow.binding.accountId = a)).upsert
            ⟨stateHash, flow⟩ (·.set flow) (·.set_stateHash flow) := by
        intro w fresh
        refine Table.restrict_upsert_fresh (·.set_stateHash flow) (fun taken => ?_) (decide_eq_true own)
        obtain ⟨row, stored, same⟩ := List.mem_map.mp taken
        exact fresh _ rfl ⟨row, stored, same⟩
      have fresh₂ := (second _ _ rfl).1
      cases done
      refine ⟨_, rfl, World.rowsOf_memory agree rfl rfl ?_ renewing⟩
      rw [new w₁ first.1, new w₂ fresh₂, flows]
  | redeemState stateHash =>
      have named₂ := (second _ _ rfl).2
      cases done
      have same : w₂.flows.find? stateHash = w₁.flows.find? stateHash := by
        refine Option.ext fun row => ⟨fun found => ?_, fun found => ?_⟩
        · exact find_flow_alike flows.symm (named₂ _ (by simp [Op.names?, found])) found
        · exact find_flow_alike flows (first.2 _ (by simp [Op.names?, found])) found
      refine ⟨{ w₂ with flows := w₂.flows.deleteWhere (·.stateHash = stateHash) }, ?_,
        World.rowsOf_memory agree rfl rfl ?_ renewing⟩
      · change some ((w₂.flows.find? stateHash).map _, _) = _
        rw [same]
      · rw [Table.restrict_deleteWhere, Table.restrict_deleteWhere, flows]
  | acquire key =>
      have held : key ∈ w₁.renewing ↔ key ∈ w₂.renewing := by
        have both := congrArg (key ∈ ·) renewing
        simpa [List.mem_filter, show key.1 = a from own] using both
      rw [exec] at done
      by_cases busy : key ∈ w₁.renewing
      · rw [if_pos busy] at done
        cases done
      · rw [if_neg busy] at done
        cases done
        refine ⟨_, if_neg fun taken => busy (held.mpr taken),
          World.rowsOf_memory agree rfl rfl flows ?_⟩
        rw [List.filter_cons, List.filter_cons, renewing]
  | release key =>
      cases done
      refine ⟨_, rfl, World.rowsOf_memory agree rfl rfl flows ?_⟩
      change (w₁.renewing.erase key).filter _ = (w₂.renewing.erase key).filter _
      rw [← List.erase_filter, ← List.erase_filter, renewing]
  | preferences | now | monotonic | draw | urandom | post =>
      cases done
      exact ⟨_, rfl, World.rowsOf_memory agree rfl rfl flows renewing⟩
  | _ => exact absurd own id

/-! ## Programs -/

/-- As long as what it redeems is the account's, the program takes steps of the account. -/
abbrev Stays (a : String) (p : Service env α) : Prop :=
  p.Abides (Op.scopedTo a) fun o answer => ∀ named, Op.names? o answer = some named → named = a

/-- A step that writes no account and records nothing. -/
def Op.unsaved : Op → Prop
  | .accounts (.save _) | .audit (.record _) => False
  | _ => True

theorem Op.quiet.unsaved {o : Op} (quiet : o.quiet) : o.unsaved := by
  cases o with
  | accounts o => cases o <;> first | exact quiet.elim | trivial
  | audit o => cases o <;> first | exact quiet.elim | trivial
  | _ => trivial

theorem Op.scopedTo_of_limited {o : Op} (unsaved : o.unsaved)
    (limited : o.about (fun _ _ => True) (some a) ∨ o.seeks) : o.scopedTo a := by
  have own : ∀ {c : String}, some a = some c → c = a := fun same => (Option.some.inj same).symm
  rcases limited with about | seeks
  · cases o with
    | accounts o =>
        cases o with
        | get accountId => exact own about
        | save account => exact absurd unsaved id
        | _ => exact absurd about id
    | profiles o => cases o <;> first | exact own about | exact absurd about id
    | secrets o => cases o <;> exact own about
    | delegations o => cases o <;> first | exact own about | exact absurd about id
    | audit o => cases o <;> first | exact absurd unsaved id | exact absurd about id
    | issueState | acquire | release | preferences => exact own about
    | now | monotonic | draw | urandom | post => trivial
    | _ => exact absurd about id
  · cases o with
    | redeemState stateHash => trivial
    | delegations o => cases o <;> trivial
    | _ => exact absurd seeks id

theorem Stays.of_told {P : Option String → α → Prop} {p : Service env α} {known : Option String}
    (knows : ∀ named, known = some named → named = a)
    (told : p.Told (acting env fun _ _ => True) (Registry fun _ _ => True) P known)
    (uses : p.Uses Op.unsaved) : Stays a p := by
  induction p generalizing known with
  | done r => trivial
  | call o next ih =>
      have limited : Op.about (fun _ _ => True) (some a) o ∨ Op.seeks o := by
        rcases told.1 with about | ⟨seeks, -⟩
        · cases known with
          | none => exact Or.inl about.widen
          | some named => exact Or.inl (knows named rfl ▸ about)
        · exact Or.inr seeks
      refine ⟨Op.scopedTo_of_limited uses.1 limited, fun w x answer w' done named => ?_⟩
      refine ih answer (fun other same => ?_) (told.2 w x answer w' (fun _ _ => trivial) done)
        (uses.2 answer)
      cases known with
      | none => exact named other same
      | some first => exact knows other same

theorem Stays.of_acts {P : α → Prop} {p : Service env α}
    (acts : Acts (fun _ _ => True) (some a) P p) (uses : p.Uses Op.unsaved) : Stays a p :=
  Stays.of_told (fun _ same => (Option.some.inj same).symm) acts.told uses

theorem Stays.ask {o : Op} (own : o.scopedTo a) (f : o.Ans → Except Error α) :
    Stays a (Keyring.ask o >>= fun answer => Prog.ofExcept (f answer) : Service env α) :=
  ⟨own, fun _ _ _ _ _ _ => trivial⟩

/-- An operation on the credentials of the account. -/
inductive AccountScoped (env : Env) (a : String) : {α : Type} → Service env α → Prop where
  | createProfile (name : String) : AccountScoped env a (CredentialService.createProfile env a name)
  | listProfiles : AccountScoped env a (CredentialService.listProfiles env a)
  | getProfile (name : String) : AccountScoped env a (CredentialService.getProfile env a name)
  | deleteProfile (name : String) : AccountScoped env a (CredentialService.deleteProfile env a name)
  | putDirectCredential (profileName serviceName : String) (kind : CredentialKind) (secret : Secret)
      (storesTotpSeed : Bool) : AccountScoped env a (CredentialService.putDirectCredential env a
        profileName serviceName kind secret storesTotpSeed)
  | beginAuthorization (profileName serviceName redirectUri : String) :
      AccountScoped env a (CredentialService.beginAuthorization env a profileName serviceName redirectUri)
  | redeemAuthorization (state : String) :
      AccountScoped env a (CredentialService.redeemAuthorization env state)
  | finishAuthorization {binding : FlowBinding} (own : binding.accountId = a) (code : String) :
      AccountScoped env a (CredentialService.finishAuthorization env binding code)
  | completeAuthorization (state code : String) :
      AccountScoped env a (CredentialService.completeAuthorization env state code)
  | resolveHttpAuth (profileName serviceName : String) :
      AccountScoped env a (CredentialService.resolveHttpAuth env a profileName serviceName)
  | headers {auth : HttpAuth} (own : auth.Own a) : AccountScoped env a (auth.headers env)
  | resolveFormSecrets (profileName serviceName : String) :
      AccountScoped env a (CredentialService.resolveFormSecrets env a profileName serviceName)
  | revokeConnection (profileName serviceName : String) :
      AccountScoped env a (CredentialService.revokeConnection env a profileName serviceName)
  | getSecret (profile service : String) : AccountScoped env a (getSecret env a profile service)
  | putSecret (profile service : String) (secret : Secret) :
      AccountScoped env a (putSecret env a profile service secret)
  | profileStore {o : ProfileOp} (own : (Op.profiles o).scopedTo a) :
      AccountScoped env a (profileStore o)
  | secretStore {o : SecretOp} (own : (Op.secrets o).scopedTo a) : AccountScoped env a (secretStore o)
  | delegationStore {o : DelegationOp} (own : (Op.delegations o).scopedTo a) :
      AccountScoped env a (delegationStore o)

theorem AccountScoped.stays {p : Service env α} (operation : AccountScoped env a p) : Stays a p := by
  have quiet : ∀ o : Op, o.quiet → o.unsaved := fun o => Op.quiet.unsaved
  have calm := calm_of_quiet quiet
  cases operation with
  | createProfile name =>
      exact Stays.of_acts (Acts.of_uses (CredentialService.createProfile_about name))
        (CredentialService.createProfile_uses calm (fun _ _ _ => trivial) name)
  | listProfiles => exact Stays.ask (o := .profiles (.listForAccount a)) rfl id
  | getProfile name =>
      exact Stays.of_acts (CredentialService.getProfile_acts name)
        (CredentialService.getProfile_uses calm _ _)
  | deleteProfile name =>
      exact Stays.of_acts
        (Acts.of_uses (CredentialService.deleteProfile_uses (fun _ => rfl) (fun _ => rfl) name))
        (CredentialService.deleteProfile_uses (fun _ => trivial) (fun _ => trivial) name)
  | putDirectCredential profileName serviceName kind secret storesTotpSeed =>
      exact Stays.of_acts (CredentialService.putDirectCredential_acts _ _ _ _ _)
        (CredentialService.putDirectCredential_uses calm (fun _ _ _ _ => trivial)
          (fun _ _ _ _ _ => trivial) _ _ _ _ _ _)
  | beginAuthorization profileName serviceName redirectUri =>
      exact Stays.of_acts (CredentialService.beginAuthorization_acts _ _ _)
        (CredentialService.beginAuthorization_uses calm (fun _ _ _ _ => trivial)
          (fun _ _ => trivial) _ _ _ _)
  | redeemAuthorization state =>
      exact Stays.of_told (fun _ same => by cases same) (redeemAuthorization_told state)
        (CredentialService.redeemAuthorization_writes quiet state)
  | finishAuthorization own code =>
      exact Stays.of_acts (CredentialService.finishAuthorization_acts own code)
        (CredentialService.finishAuthorization_writes quiet (fun _ _ _ _ => trivial)
          (fun _ _ _ _ _ => trivial) _ code)
  | completeAuthorization state code =>
      have told : (CredentialService.completeAuthorization env state code).Told
          (acting env fun _ _ => True) (Registry fun _ _ => True) (fun _ _ => True) none := by
        refine Prog.Told.bind (redeemAuthorization_told state) ?_
        rintro binding known rfl
        exact (CredentialService.finishAuthorization_acts rfl code).speaks
      exact Stays.of_told (fun _ same => by cases same) told
        (CredentialService.completeAuthorization_writes quiet (fun _ _ _ _ => trivial)
          (fun _ _ _ _ _ => trivial) state code)
  | resolveHttpAuth profileName serviceName =>
      exact Stays.of_acts (CredentialService.resolveHttpAuth_acts _ _)
        (CredentialService.resolveHttpAuth_uses calm _ _ _)
  | headers own =>
      exact Stays.of_acts (Acts.of_uses (CredentialService.headers_about own))
        (CredentialService.headers_writes quiet (fun _ _ _ _ => trivial)
          (fun _ _ _ _ _ => trivial) _)
  | resolveFormSecrets profileName serviceName =>
      exact Stays.of_acts (CredentialService.resolveFormSecrets_acts _ _)
        (CredentialService.resolveFormSecrets_uses calm _ _ _)
  | revokeConnection profileName serviceName =>
      exact Stays.of_acts (CredentialService.revokeConnection_acts _ _)
        (CredentialService.revokeConnection_uses calm (fun _ _ _ => trivial)
          (fun _ _ _ _ => trivial) _ _ _)
  | getSecret profile service =>
      exact Stays.of_acts (Acts.of_uses (getSecret_about profile service))
        (getSecret_uses calm _ _ _)
  | putSecret profile service secret =>
      exact Stays.of_acts (Acts.of_uses (putSecret_about profile service secret))
        (putSecret_uses calm (fun _ _ => trivial) secret)
  | profileStore own => exact Stays.ask own id
  | secretStore own => exact Stays.ask own id
  | delegationStore own => exact Stays.ask own id

/-! ## Two states -/

/-- Whatever the other accounts hold, an operation of the account gives the same and leaves
the same of it, and leaves theirs alone. -/
theorem accounts_apart {p : Service env α} {xs : List Input} {r : Except Error α}
    (operation : AccountScoped env a p) (agree : w₁.rowsOf a = w₂.rowsOf a)
    (first : ∀ e ∈ p.events xs w₁, Undisputed a e) (second : ∀ e ∈ p.events xs w₂, Undisputed a e)
    (played : p.play xs w₁ = some (r, w₁')) :
    ∃ w₂', p.play xs w₂ = some (r, w₂') ∧ w₁'.rowsOf a = w₂'.rowsOf a ∧
      ∀ b, b ≠ a → w₁'.rowsOf b = w₁.rowsOf b ∧ w₂'.rowsOf b = w₂.rowsOf b := by
  have tells : ∀ e : Event (machine env), Undisputed a e →
      ∀ named, e.op.names? e.ans = some named → named = a := fun _ => And.right
  obtain ⟨w₂', played₂, same⟩ := Prog.Abides.alike (R := fun w w' : World => w.rowsOf a = w'.rowsOf a) tells
    (fun _ _ _ _ _ _ => exec_alike) operation.stays agree first second played
  have spares : ∀ {w w' : World}, (∀ e ∈ p.events xs w, Undisputed a e) →
      p.play xs w = some (r, w') → ∀ b, b ≠ a → w'.rowsOf b = w.rowsOf b := by
    intro w w' undisputed played b other
    refine Prog.Abides.related (K := fun w w' : World => w'.rowsOf b = w.rowsOf b) tells (fun _ => rfl)
      (fun first second => second.trans first) ?_ operation.stays undisputed played
    intro o x answer s t own fine done
    exact Op.scopedTo.spares (e := ⟨0, o, answer, s, t⟩) own fine other done
  exact ⟨w₂', played₂, same, fun b other =>
    ⟨spares first played b other, spares second played₂ b other⟩⟩

namespace Scenario

def aliceSpotify : ConnectionRow := { bobSpotify with accountId := "alice" }

def aliceSecret : SecretRow := { bobSecret with accountId := "alice" }

def homes : List ProfileRow := [⟨"prof_alice", "alice", "home", 0, 0⟩, homeProfile]

theorem homes_distinct : (homes.map ProfileRow.key).Nodup := by decide
theorem spotifies_distinct : ([aliceSpotify, bobSpotify].map ConnectionRow.key).Nodup := by decide
theorem secrets_distinct : ([aliceSecret, bobSecret].map SecretRow.key).Nodup := by decide

/-- The office in which Alice has connected the same service in a profile of the same name. -/
def sharedNames : World :=
  worldOf { twoAccounts "owner" "member" with
    profiles := ⟨homes, homes_distinct⟩
    connections := ⟨[aliceSpotify, bobSpotify], spotifies_distinct⟩
    secrets := ⟨[aliceSecret, bobSecret], secrets_distinct⟩ }

theorem sharedNames_bob : connectedOffice.rowsOf "bob" = sharedNames.rowsOf "bob" := by
  apply AccountRows.ext <;> rfl

def revoking : Service deployment Bool :=
  CredentialService.revokeConnection deployment "bob" "home" "spotify"

def revokingInputs : List Input := [given 1 "a", given 2 "b", given 3 "c", given 4 "d"]

end Scenario

open Scenario in
theorem accounts_apart_revoking :
    ∃ r w₁ w₂, revoking.play revokingInputs connectedOffice = some (r, w₁) ∧
      revoking.play revokingInputs sharedNames = some (r, w₂) ∧ w₁.rowsOf "bob" = w₂.rowsOf "bob" ∧
      ∀ b, b ≠ "bob" → w₁.rowsOf b = connectedOffice.rowsOf b ∧ w₂.rowsOf b = sharedNames.rowsOf b := by
  have plain : ∀ w, (revoking.events revokingInputs w).all (fun e =>
      e.op.identifier?.isNone && (e.op.names? e.ans).isNone) = true →
      ∀ e ∈ revoking.events revokingInputs w, Undisputed "bob" e := by
    intro w all e member
    have none' := List.all_eq_true.mp all e member
    simp only [Bool.and_eq_true, Option.isNone_iff_eq_none] at none'
    refine ⟨fun name given => ?_, fun named given => ?_⟩
    · rw [none'.1] at given
      cases given
    · rw [none'.2] at given
      cases given
  have ended : (revoking.play revokingInputs connectedOffice).isSome = true := by decide +kernel
  obtain ⟨⟨r, w₁⟩, played⟩ := Option.isSome_iff_exists.mp ended
  obtain ⟨w₂, result⟩ := accounts_apart (.revokeConnection "home" "spotify") sharedNames_bob
    (plain connectedOffice (by decide +kernel)) (plain sharedNames (by decide +kernel)) played
  exact ⟨r, w₁, w₂, played, result⟩

end Keyring

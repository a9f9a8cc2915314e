import Keyring.Accounts.SqlStore

/-!
# What the account store commits

One lemma for each statement and each operation: what a committed run of it has
read, checked and written.  Roles are read in the order of their positions, so
what `writeRoles` stores is read back as it was given, without repetitions.
-/

set_option autoImplicit false

namespace Keyring

open Relational

/-! ## Roles -/

theorem mem_rolesOf {db : Db} {accountId role : String} :
    role ∈ rolesOf db accountId ↔
      ∃ row ∈ db.accountRoles, row.accountId = accountId ∧ row.roleName = role := by
  simp only [rolesOf, List.mem_map, List.mem_insertionSort, List.mem_filter, decide_eq_true_eq,
    Table.mem_def, and_assoc]

theorem rolesOf_congr {db db' : Db} (same : db'.accountRoles = db.accountRoles)
    (accountId : String) : rolesOf db' accountId = rolesOf db accountId := by
  rw [rolesOf, rolesOf, same]

/-- What a committed `writeRoles` has done. -/
structure RolesWritten (db : Db) (accountId : String) (roles : List String) (db' : Db) :
    Prop where
  frame : db' = { db with accountRoles := db'.accountRoles }
  member : ∀ row, row ∈ db'.accountRoles ↔
    (row ∈ db.accountRoles ∧ row.accountId ≠ accountId) ∨
      (row.accountId = accountId ∧ (row.roleName, row.position) ∈ (dictFromKeys roles).zipIdx)
  held : rolesOf db' accountId = dictFromKeys roles
  others : ∀ other, other ≠ accountId → rolesOf db' other = rolesOf db other
  known : ∀ role ∈ roles, (db.roles.find? role).isSome
  present : roles ≠ [] → (db.accounts.find? accountId).isSome

theorem insertRole_some {accountId : String} {db db' : Db} {entry : String × Nat}
    (inserted : insertRole accountId db entry = some db') :
    db' = { db with accountRoles := db'.accountRoles } ∧
      db'.accountRoles.rows = db.accountRoles.rows ++ [⟨accountId, entry.1, entry.2⟩] ∧
      (db.accounts.find? accountId).isSome ∧ (db.roles.find? entry.1).isSome := by
  simp only [insertRole] at inserted
  split at inserted
  · rename_i references
    rw [Bool.and_eq_true] at references
    obtain ⟨table, appended, rfl⟩ := Option.map_eq_some_iff.mp inserted
    obtain ⟨fresh, rfl⟩ := Table.insert?_eq_some.mp appended
    exact ⟨rfl, rfl, references.1, references.2⟩
  · cases inserted

theorem insertRoles_some {accountId : String} {entries : List (String × Nat)} {db db' : Db}
    (inserted : entries.foldlM (insertRole accountId) db = some db') :
    db' = { db with accountRoles := db'.accountRoles } ∧
      db'.accountRoles.rows =
        db.accountRoles.rows ++ entries.map (fun entry => ⟨accountId, entry.1, entry.2⟩) ∧
      ∀ entry ∈ entries, (db.accounts.find? accountId).isSome ∧ (db.roles.find? entry.1).isSome := by
  induction entries generalizing db with
  | nil =>
      simp only [List.foldlM_nil] at inserted
      cases inserted
      exact ⟨rfl, by simp, by simp⟩
  | cons entry entries ih =>
      rw [List.foldlM_cons] at inserted
      obtain ⟨mid, first, rest⟩ := Option.bind_eq_some_iff.mp inserted
      obtain ⟨frame, rows, account, role⟩ := insertRole_some first
      obtain ⟨frame', rows', references⟩ := ih rest
      have accounts : mid.accounts = db.accounts := by rw [frame]
      have roles : mid.roles = db.roles := by rw [frame]
      refine ⟨by rw [frame', frame], by simp [rows', rows], ?_⟩
      rintro other (_ | ⟨_, later⟩)
      · exact ⟨account, role⟩
      · rw [← accounts, ← roles]
        exact references other later

theorem zipIdx_positions (roles : List String) (accountId : String) (start : Nat) :
    ((roles.zipIdx start).map fun entry =>
      (⟨accountId, entry.1, entry.2⟩ : AccountRole)).Pairwise
        (fun a b => a.position ≤ b.position) := by
  rw [List.pairwise_map]
  induction roles generalizing start with
  | nil => simp
  | cons role roles ih =>
      rw [List.zipIdx_cons, List.pairwise_cons]
      refine ⟨fun entry member => ?_, ih (start + 1)⟩
      have later : start + 1 ≤ entry.2 := List.le_snd_of_mem_zipIdx member
      exact Nat.le_of_succ_le later

theorem writeRoles_ok {accountId : String} {roles : List String} {db db' : Db} {u : Unit}
    (written : (writeRoles accountId roles).run db = .ok (u, db')) :
    RolesWritten db accountId roles db' := by
  simp only [writeRoles, StateT.run] at written
  split at written
  · rename_i db'' inserted
    cases written
    obtain ⟨frame, rows, references⟩ := insertRoles_some inserted
    have member : ∀ row, row ∈ db'.accountRoles ↔
        (row ∈ db.accountRoles ∧ row.accountId ≠ accountId) ∨
          (row.accountId = accountId ∧
            (row.roleName, row.position) ∈ (dictFromKeys roles).zipIdx) := by
      intro row
      rw [Table.mem_def, rows, List.mem_append, ← Table.mem_def, Table.mem_deleteWhere]
      simp only [decide_eq_false_iff_not, List.mem_map, Prod.exists, ne_eq]
      refine or_congr Iff.rfl ⟨?_, ?_⟩
      · rintro ⟨role, position, entry, rfl⟩
        exact ⟨rfl, entry⟩
      · rintro ⟨rfl, entry⟩
        exact ⟨row.roleName, row.position, entry, rfl⟩
    have inside : ∀ role ∈ roles, ∃ entry ∈ (dictFromKeys roles).zipIdx, entry.1 = role := by
      intro role given
      obtain ⟨i, inside, here⟩ := List.mem_iff_getElem.mp (mem_dictFromKeys.mpr given)
      exact ⟨(role, i), by rw [List.mk_mem_zipIdx_iff_getElem?, ← here]; simp [inside], rfl⟩
    refine ⟨by rw [frame], member, ?_, ?_, ?_, ?_⟩
    · have own : db'.accountRoles.rows.filter (·.accountId = accountId) =
          (dictFromKeys roles).zipIdx.map fun entry => ⟨accountId, entry.1, entry.2⟩ := by
        rw [rows, List.filter_append]
        have old : (db.accountRoles.deleteWhere (·.accountId = accountId)).rows.filter
            (·.accountId = accountId) = [] := by
          rw [List.filter_eq_nil_iff]
          intro row stored
          simpa using (Table.mem_deleteWhere.mp stored).2
        rw [old, List.nil_append, List.filter_eq_self]
        intro row new
        obtain ⟨entry, _, rfl⟩ := List.mem_map.mp new
        simp
      rw [rolesOf, own, List.Pairwise.insertionSort_eq (zipIdx_positions _ _ _), List.map_map]
      simp [Function.comp_def]
    · intro other distinct
      have kept : db'.accountRoles.rows.filter (·.accountId = other) =
          db.accountRoles.rows.filter (·.accountId = other) := by
        rw [rows, List.filter_append, Table.deleteWhere, List.filter_filter]
        have new : ((dictFromKeys roles).zipIdx.map fun entry =>
            (⟨accountId, entry.1, entry.2⟩ : AccountRole)).filter (·.accountId = other) = [] := by
          rw [List.filter_eq_nil_iff]
          intro row new
          obtain ⟨entry, _, rfl⟩ := List.mem_map.mp new
          simpa using Ne.symm distinct
        rw [new, List.append_nil]
        refine List.filter_congr fun row _ => ?_
        by_cases theirs : row.accountId = other <;> simp [theirs, distinct]
      rw [rolesOf, rolesOf, kept]
    · intro role given
      obtain ⟨entry, member, rfl⟩ := inside role given
      exact (references entry member).2
    · intro nonempty
      obtain ⟨role, given⟩ := List.exists_mem_of_ne_nil roles nonempty
      obtain ⟨entry, member, -⟩ := inside role given
      exact (references entry member).1
  · cases written

/-! ## The last owner -/

theorem checkOwnerSurvives_ok {db : Db} {accountId : String} {keepingOwner : Bool}
    {roles : List String} :
    checkOwnerSurvives db accountId keepingOwner roles = .ok () ↔
      keepingOwner = true ∨ OWNER ∉ roles ∨
        ∃ other, other ≠ accountId ∧ OWNER ∈ rolesOf db other := by
  simp only [checkOwnerSurvives]
  split
  · rename_i exempt
    simp only [Bool.or_eq_true, Bool.not_eq_true', List.contains_eq_mem,
      decide_eq_false_iff_not] at exempt
    simp only [true_iff]
    rcases exempt with keeping | without
    · exact Or.inl keeping
    · exact Or.inr (Or.inl without)
  · rename_i bound
    simp only [Bool.or_eq_true, Bool.not_eq_true', List.contains_eq_mem,
      decide_eq_false_iff_not, not_or, not_not] at bound
    have remaining : db.accountRoles.countWhere
        (fun row => row.roleName = OWNER && row.accountId ≠ accountId) = 0 ↔
        ¬ ∃ other, other ≠ accountId ∧ OWNER ∈ rolesOf db other := by
      rw [Table.countWhere, List.countP_eq_zero]
      simp only [Bool.and_eq_true, decide_eq_true_eq, not_and, not_exists, mem_rolesOf]
      constructor
      · rintro none other distinct row stored rfl owner
        exact none row stored owner distinct
      · intro none row stored owner distinct
        exact none row.accountId distinct row stored rfl owner
    split
    · rename_i empty
      have nobody := remaining.mp empty
      simp only [reduceCtorEq, false_iff, not_or]
      exact ⟨bound.1, not_not.mpr bound.2, nobody⟩
    · rename_i some_
      simp only [true_iff]
      exact Or.inr (Or.inr (not_not.mp (some_ ∘ remaining.mpr)))

/-! ## Statements on accounts -/

theorem updateAccount_ok {account : Account} {db db' : Db} {u : Unit}
    (updated : (updateAccount account).run db = .ok (u, db')) :
    db' = { db with
      accounts := db.accounts.updateWhere (·.accountId = account.accountId)
        (·.overwrite account) (·.overwrite_accountId account) } := by
  simp only [updateAccount, StateT.run] at updated
  split at updated
  · cases updated
  · cases updated
    rfl

theorem find?_overwrite (db : Db) (account : Account) (accountId : String) :
    (db.accounts.updateWhere (·.accountId = account.accountId) (·.overwrite account)
      (·.overwrite_accountId account)).find? accountId =
      (db.accounts.find? accountId).map fun row =>
        if accountId = account.accountId then row.overwrite account else row := by
  rw [Table.find?_updateWhere]
  cases found : db.accounts.find? accountId with
  | none => rfl
  | some row =>
      obtain ⟨-, keyed⟩ := Table.find?_eq_some.mp found
      simp [keyed]

theorem readAccount_some {db : Db} {accountId : String} {account : Account}
    (found : readAccount db accountId = some account) :
    ∃ row, db.accounts.find? accountId = some row ∧ account = accountOf db row ∧
      account.accountId = accountId ∧ account.roles = rolesOf db accountId := by
  obtain ⟨row, stored, rfl⟩ := Option.map_eq_some_iff.mp found
  obtain ⟨-, keyed⟩ := Table.find?_eq_some.mp stored
  exact ⟨row, stored, rfl, keyed, by rw [← keyed]; rfl⟩

theorem readAccountByEmail_some {db : Db} {email : String} {account : Account}
    (found : readAccountByEmail db email = some account) :
    readAccount db account.accountId = some account ∧ account.email = email := by
  obtain ⟨row, stored, rfl⟩ := Option.map_eq_some_iff.mp found
  have inside : row ∈ db.accounts := List.mem_of_find?_eq_some stored
  have keyed : db.accounts.find? row.accountId = some row := Table.find?_self inside
  have addressed : row.email = email := by simpa using List.find?_some stored
  refine ⟨?_, addressed⟩
  change (db.accounts.find? row.accountId).map (accountOf db) = _
  rw [keyed]
  rfl

/-! ## Operations on accounts -/

namespace AccountOp

variable {text : Text} {db db' : Db}

theorem get_ok {accountId : String} {found : Option Account}
    (committed : ((get accountId).run text).run db = .ok (found, db')) :
    found = readAccount db accountId ∧ db' = db := by
  cases committed
  exact ⟨rfl, rfl⟩

theorem getByEmail_ok {email : String} {found : Option Account}
    (committed : ((getByEmail email).run text).run db = .ok (found, db')) :
    found = readAccountByEmail db email ∧ db' = db := by
  cases committed
  exact ⟨rfl, rfl⟩

theorem count_ok {n : Nat} (committed : (count.run text).run db = .ok (n, db')) :
    n = db.accounts.rows.length ∧ db' = db := by
  cases committed
  exact ⟨rfl, rfl⟩

theorem listAll_ok {found : List Account}
    (committed : (listAll.run text).run db = .ok (found, db')) : db' = db := by
  cases committed
  rfl

theorem countHolding_ok {role : String} {n : Nat}
    (committed : ((countHolding role).run text).run db = .ok (n, db')) : db' = db := by
  cases committed
  rfl

/-- The rows of `accounts` after the first statement of a `save`. -/
def saved (db : Db) (account : Account) : Db :=
  { db with
    accounts := db.accounts.updateWhere (·.accountId = account.accountId)
      (·.overwrite account) (·.overwrite_accountId account) }

theorem save_ok {account : Account} {u : Unit}
    (committed : ((save account).run text).run db = .ok (u, db')) :
    RolesWritten (saved db account) account.accountId account.roles db' := by
  simp only [run, StateT.run_bind] at committed
  cases updated : (updateAccount account).run db with
  | error e => rw [updated] at committed; cases committed
  | ok r =>
      obtain ⟨v, mid⟩ := r
      rw [updated] at committed
      have same : mid = saved db account := updateAccount_ok updated
      rw [← same]
      exact writeRoles_ok committed

theorem save_error {account : Account} {e : Error}
    (raised : ((save account).run text).run db = .error e) :
    e = uniqueFailed "accounts.email" ∨ e = .roleNotFound "one of those roles no longer exists" := by
  simp only [run, StateT.run_bind] at raised
  cases updated : (updateAccount account).run db with
  | error e' =>
      rw [updated] at raised
      cases raised
      simp only [updateAccount, StateT.run] at updated
      split at updated <;> cases updated
      exact Or.inl rfl
  | ok r =>
      rw [updated] at raised
      change (writeRoles account.accountId account.roles).run r.2 = .error e at raised
      simp only [writeRoles, StateT.run] at raised
      split at raised <;> cases raised
      exact Or.inr rfl

theorem get_bind_run {α : Type} (rest : Db → Transaction α) (db : Db) :
    (MonadState.get >>= rest : Transaction α).run db = (rest db).run db := rfl

theorem add_ok {account : Account} {u : Unit}
    (committed : ((add account).run text).run db = .ok (u, db')) :
    (∀ row ∈ db.accounts, row.email ≠ account.email) ∧
      ∃ accounts, db.accounts.insert? account.toAccountRow = some accounts ∧
        RolesWritten { db with accounts := accounts } account.accountId account.roles db' := by
  simp only [run, StateT.run_bind, select_run] at committed
  change (if _ then _ else _ : Transaction Unit).run db = _ at committed
  split at committed
  · cases committed
  · rename_i free
    simp only [List.any_eq_true, decide_eq_true_eq, not_exists, not_and] at free
    simp only [insertAccount, StateT.run] at committed
    split at committed
    · cases committed
    · rename_i accounts inserted
      exact ⟨free, accounts, insertRow_ok.mp inserted, writeRoles_ok committed⟩

theorem delete_ok {accountId : String} {gone : Bool}
    (committed : ((delete accountId).run text).run db = .ok (gone, db')) :
    (gone = false ∧ db.accounts.find? accountId = none ∧ db' = db) ∨
      (gone = true ∧ (db.accounts.find? accountId).isSome ∧
        checkOwnerSurvives db accountId false (rolesOf db accountId) = .ok () ∧
        db' = db.deleteAccount accountId) := by
  simp only [run] at committed
  rw [get_bind_run] at committed
  split at committed
  · rename_i absent
    cases committed
    exact Or.inl ⟨rfl, Option.isNone_iff_eq_none.mp absent, rfl⟩
  · rename_i present
    rw [Option.isNone_iff_eq_none, ← ne_eq, Option.ne_none_iff_isSome] at present
    cases checked : checkOwnerSurvives db accountId false (rolesOf db accountId) with
    | error e =>
        rw [checked] at committed
        cases committed
    | ok u =>
        rw [checked] at committed
        cases committed
        exact Or.inr ⟨rfl, present, rfl, rfl⟩

theorem updatedAt_key (now : Instant) (row : AccountRow) :
    { row with updatedAt := now }.accountId = row.accountId := rfl

/-- The rows of `accounts` after the first statement of a `setRoles`. -/
def stamped (db : Db) (accountId : String) (now : Instant) : Db :=
  { db with
    accounts := db.accounts.updateWhere (·.accountId = accountId)
      (fun row => { row with updatedAt := now }) (updatedAt_key now) }

theorem setRoles_ok {accountId : String} {roles : List String} {now : Instant}
    {updated : Account}
    (committed : ((setRoles accountId roles now).run text).run db = .ok (updated, db')) :
    ∃ current, readAccount db accountId = some current ∧
      checkOwnerSurvives db accountId (roles.contains OWNER) current.roles = .ok () ∧
      RolesWritten (stamped db accountId now) accountId roles db' ∧
      updated = current.withRoles roles now := by
  simp only [run] at committed
  rw [get_bind_run] at committed
  cases found : readAccount db accountId with
  | none =>
      simp only [found] at committed
      cases committed
  | some current =>
      simp only [found] at committed
      cases checked : checkOwnerSurvives db accountId (roles.contains OWNER) current.roles with
      | error e =>
          simp only [checked] at committed
          cases committed
      | ok u =>
          simp only [checked] at committed
          change (do
            writeRoles accountId roles
            pure (current.withRoles roles now) : Transaction Account).run
              (stamped db accountId now) = _ at committed
          rw [StateT.run_bind] at committed
          cases written : (writeRoles accountId roles).run (stamped db accountId now) with
          | error e => rw [written] at committed; cases committed
          | ok r =>
              rw [written] at committed
              cases committed
              exact ⟨current, rfl, checked, writeRoles_ok written, rfl⟩

end AccountOp

/-! ## Operations on sessions -/

section Sessions

variable {db db' : Db}

theorem insertSession_ok {session : Session} {u : Unit}
    (inserted : (insertSession session).run db = .ok (u, db')) :
    (db.accounts.find? session.accountId).isSome ∧
      ∃ table, db.sessions.insert? session = some table ∧ db' = { db with sessions := table } := by
  simp only [insertSession, StateT.run] at inserted
  split at inserted
  · cases inserted
  · split at inserted
    · cases inserted
    · rename_i table stored
      split at inserted
      · cases inserted
      · rename_i present
        rw [Option.isNone_iff_eq_none, ← ne_eq, Option.ne_none_iff_isSome] at present
        cases inserted
        exact ⟨present, table, insertRow_ok.mp stored, rfl⟩

/-- The sessions of an account past the newest `cap`. -/
def excessSessions (db : Db) (accountId : String) (cap : Nat) : List Session :=
  ((db.sessions.rows.filter (·.accountId = accountId)).insertionSort
    fun a b => Session.before b a).drop cap

/-- A committed `addWithinCap` has inserted the session, and then trimmed. -/
theorem SessionOp.addWithinCap_committed {session : Session} {cap dropped : Nat}
    (committed : (addWithinCap session cap).run.run db = .ok (dropped, db')) :
    ∃ u mid, (insertSession session).run db = .ok (u, mid) ∧
      db' = { mid with
        sessions := mid.sessions.deleteWhere fun row =>
          ((excessSessions mid session.accountId cap).map (·.sessionId)).contains row.sessionId } := by
  simp only [run, StateT.run_bind] at committed
  cases inserted : (insertSession session).run db with
  | error e => rw [inserted] at committed; cases committed
  | ok r =>
      obtain ⟨u, mid⟩ := r
      rw [inserted] at committed
      cases committed
      exact ⟨u, mid, rfl, rfl⟩

theorem SessionOp.addWithinCap_ok {session : Session} {cap dropped : Nat}
    (committed : (addWithinCap session cap).run.run db = .ok (dropped, db')) :
    (db.accounts.find? session.accountId).isSome ∧
      ∃ table p, db.sessions.insert? session = some table ∧
        db' = { db with sessions := table.deleteWhere p } := by
  obtain ⟨u, mid, inserted, trimmed⟩ := addWithinCap_committed committed
  obtain ⟨present, table, stored, rfl⟩ := insertSession_ok inserted
  exact ⟨present, table, _, stored, trimmed⟩

/-- The session a step can add, if it adds one. -/
def SessionOp.added : SessionOp → Option Session
  | add session | addWithinCap session _ => some session
  | _ => none

/-- Session operations touch no other table, and every row they leave behind
keeps the id, the account and the token of a row that was there, or is the one
they were asked to add. -/
theorem SessionOp.frame {o : SessionOp} {a : o.Ans} (committed : o.run.run db = .ok (a, db')) :
    db' = { db with sessions := db'.sessions } ∧
      ∀ row ∈ db'.sessions,
        (∃ old ∈ db.sessions, old.sessionId = row.sessionId ∧ old.accountId = row.accountId ∧
          old.tokenHash = row.tokenHash) ∨
          (o.added = some row ∧ (db.accounts.find? row.accountId).isSome) := by
  cases o with
  | add session =>
      obtain ⟨present, table, inserted, rfl⟩ := insertSession_ok committed
      refine ⟨rfl, fun row stored => ?_⟩
      rcases (Table.mem_insert? inserted).mp stored with old | rfl
      · exact Or.inl ⟨row, old, rfl, rfl, rfl⟩
      · exact Or.inr ⟨rfl, present⟩
  | getByTokenHash tokenHash now =>
      cases committed
      exact ⟨rfl, fun row stored => Or.inl ⟨row, stored, rfl, rfl, rfl⟩⟩
  | save session =>
      cases committed
      refine ⟨rfl, fun row stored => Or.inl ?_⟩
      obtain ⟨old, before, rfl⟩ := (Table.mem_updateWhere (·.overwrite_sessionId session)).mp stored
      refine ⟨old, before, ?_⟩
      split <;> exact ⟨rfl, rfl, rfl⟩
  | countForAccount accountId now =>
      cases committed
      exact ⟨rfl, fun row stored => Or.inl ⟨row, stored, rfl, rfl, rfl⟩⟩
  | addWithinCap session cap =>
      obtain ⟨present, table, p, inserted, rfl⟩ := addWithinCap_ok committed
      refine ⟨rfl, fun row stored => ?_⟩
      rcases (Table.mem_insert? inserted).mp (Table.mem_deleteWhere.mp stored).1 with old | rfl
      · exact Or.inl ⟨row, old, rfl, rfl, rfl⟩
      · exact Or.inr ⟨rfl, present⟩
  | revoke _ | revokeAll _ _ | dropOldest _ | purgeExpired _ =>
      cases committed
      exact ⟨rfl, fun row stored =>
        Or.inl ⟨row, (Table.mem_deleteWhere.mp stored).1, rfl, rfl, rfl⟩⟩

/-- A `revokeAll` leaves no session of the account but the excepted one. -/
theorem SessionOp.revokeAll_ok {accountId : String} {exceptSessionId : Option String}
    {gone : Nat}
    (committed : (revokeAll accountId exceptSessionId).run.run db = .ok (gone, db')) :
    ∀ row, row ∈ db'.sessions ↔
      row ∈ db.sessions ∧ (row.accountId = accountId → some row.sessionId = exceptSessionId) := by
  cases committed
  intro row
  refine Table.mem_deleteWhere.trans (and_congr_right fun _ => ?_)
  simp only [Bool.and_eq_false_imp, decide_eq_true_eq, decide_eq_false_iff_not, not_not]

end Sessions

/-! ## Operations on grants -/

/-- The grant a step can add, if it adds one. -/
def GrantOp.added : GrantOp → Option Grant
  | add grant => some grant
  | _ => none

theorem GrantOp.add_ok {db db' : Db} {grant : Grant} {u : Unit}
    (committed : (add grant).run.run db = .ok (u, db')) :
    (∀ accountId, grant.accountId = some accountId → (db.accounts.find? accountId).isSome) ∧
      ∃ table, db.grants.insert? grant = some table ∧ db' = { db with grants := table } := by
  simp only [run, StateT.run] at committed
  split at committed
  · cases committed
  · split at committed
    · cases committed
    · rename_i table inserted
      split at committed
      · cases committed
      · rename_i references
        cases committed
        refine ⟨fun accountId named => ?_, table, insertRow_ok.mp inserted, rfl⟩
        rw [named, Option.any_some, Option.isNone_iff_eq_none] at references
        exact Option.ne_none_iff_isSome.mp references

/-- Grant operations touch no other table, and every row they leave behind has
the id, the purpose, the token and the names of a row that was there, or is the
one they were asked to add. -/
theorem GrantOp.frame {db db' : Db} {o : GrantOp} {a : o.Ans}
    (committed : o.run.run db = .ok (a, db')) :
    db' = { db with grants := db'.grants } ∧
      ∀ row ∈ db'.grants,
        (∃ old ∈ db.grants, old.grantId = row.grantId ∧ old.purpose = row.purpose ∧
          old.tokenHash = row.tokenHash ∧ old.email = row.email ∧
          old.accountId = row.accountId) ∨
        (o.added = some row ∧
          ∀ accountId, row.accountId = some accountId →
            (db.accounts.find? accountId).isSome) := by
  cases o with
  | add grant =>
      obtain ⟨references, table, inserted, rfl⟩ := add_ok committed
      refine ⟨rfl, fun row stored => ?_⟩
      rcases (Table.mem_insert? inserted).mp stored with old | rfl
      · exact Or.inl ⟨row, old, rfl, rfl, rfl, rfl, rfl⟩
      · exact Or.inr ⟨rfl, references⟩
  | getByTokenHash tokenHash =>
      cases committed
      exact ⟨rfl, fun row stored => Or.inl ⟨row, stored, rfl, rfl, rfl, rfl, rfl⟩⟩
  | redeem tokenHash now =>
      cases committed
      refine ⟨rfl, fun row stored => Or.inl ?_⟩
      obtain ⟨old, before, rfl⟩ := (Table.mem_updateWhere (·.redeemed_grantId now)).mp stored
      refine ⟨old, before, ?_⟩
      split <;> exact ⟨rfl, rfl, rfl, rfl, rfl⟩
  | revokeAllForAccount accountId purpose =>
      cases committed
      refine ⟨rfl, fun row stored => Or.inl ?_⟩
      obtain ⟨old, before, rfl⟩ := (Table.mem_updateWhere Grant.revokedNow_grantId).mp stored
      refine ⟨old, before, ?_⟩
      split <;> exact ⟨rfl, rfl, rfl, rfl, rfl⟩
  | purgeExpired now =>
      cases committed
      exact ⟨rfl, fun row stored =>
        Or.inl ⟨row, (Table.mem_deleteWhere.mp stored).1, rfl, rfl, rfl, rfl, rfl⟩⟩

end Keyring

import Keyring.Accounts.Stored

/-!
# Writing a copy back

Addresses are unique, and a copy with the address and the roles that are stored
can always be written back.
-/

set_option autoImplicit false

namespace Keyring

open Relational

variable {db db' : Db}

/-! ## Unique addresses -/

/-- The UNIQUE constraint on the addresses. -/
def UniqueEmails (db : Db) : Prop :=
  ∀ row ∈ db.accounts, ∀ other ∈ db.accounts, row.email = other.email →
    row.accountId = other.accountId

theorem UniqueEmails.congr (unique : UniqueEmails db) (same : db'.accounts = db.accounts) :
    UniqueEmails db' := by
  rw [UniqueEmails, same]
  exact unique

theorem updateAccount_free {account : Account} {u : Unit}
    (updated : (updateAccount account).run db = .ok (u, db')) {row other : AccountRow}
    (stored : row ∈ db.accounts) (own : row.accountId = account.accountId)
    (member : other ∈ db.accounts) (same : other.email = account.email) :
    other.accountId = account.accountId := by
  simp only [updateAccount, StateT.run] at updated
  split at updated
  · cases updated
  · rename_i free
    by_contra distinct
    refine free ?_
    rw [← own, Table.find?_self stored, Option.isSome_some, Bool.true_and, List.any_eq_true, own]
    exact ⟨other, member, by simp [same, distinct]⟩

theorem AccountOp.save_free {text : Text} {account : Account} {u : Unit}
    (committed : ((save account).run text).run db = .ok (u, db')) {row other : AccountRow}
    (stored : row ∈ db.accounts) (own : row.accountId = account.accountId)
    (member : other ∈ db.accounts) (same : other.email = account.email) :
    other.accountId = account.accountId := by
  simp only [run, StateT.run_bind] at committed
  cases updated : (updateAccount account).run db with
  | error e => rw [updated] at committed; cases committed
  | ok r => exact updateAccount_free updated stored own member same

theorem UniqueEmails.updateWhere (unique : UniqueEmails db) {p : AccountRow → Bool}
    {f : AccountRow → AccountRow} (keeps : ∀ row, (f row).accountId = row.accountId)
    (email : ∀ row, (f row).email = row.email) :
    UniqueEmails { db with accounts := db.accounts.updateWhere p f keeps } := by
  have of_old : ∀ row, (if p row then f row else row).email = row.email ∧
      (if p row then f row else row).accountId = row.accountId := by
    intro row
    split <;> simp [keeps, email]
  rintro row stored other member same
  obtain ⟨old, inside, rfl⟩ := (Table.mem_updateWhere keeps).mp stored
  obtain ⟨old', inside', rfl⟩ := (Table.mem_updateWhere keeps).mp member
  rw [(of_old old).1, (of_old old').1] at same
  rw [(of_old old).2, (of_old old').2]
  exact unique old inside old' inside' same

theorem AccountOp.uniqueEmails {text : Text} (o : AccountOp) (unique : UniqueEmails db) {a : o.Ans}
    (committed : (o.run text).run db = .ok (a, db')) : UniqueEmails db' := by
  cases o with
  | get _ | getByEmail _ | count | listAll | countHolding _ =>
      have same : db' = db := (Prod.mk.inj (Except.ok.inj committed)).2.symm
      rwa [same]
  | add account =>
      obtain ⟨free, accounts, inserted, written⟩ := AccountOp.add_ok committed
      have same : db'.accounts = accounts := congrArg Db.accounts written.frame
      intro row stored other member email
      rw [same, Table.mem_insert? inserted] at stored member
      rcases stored with stored | rfl <;> rcases member with member | rfl
      · exact unique row stored other member email
      · exact absurd email (free row stored)
      · exact absurd email.symm (free other member)
      · rfl
  | save account =>
      have written := AccountOp.save_ok committed
      have frame := congrArg Db.accounts written.frame
      have same : db'.accounts = (AccountOp.saved db account).accounts := frame
      have overwritten : ∀ {row}, row ∈ db'.accounts → ∃ old ∈ db.accounts,
          old.accountId = row.accountId ∧
            ((old.accountId = account.accountId ∧ row.email = account.email) ∨
              (old.accountId ≠ account.accountId ∧ row.email = old.email)) := by
        intro row stored
        rw [same] at stored
        obtain ⟨old, inside, rfl⟩ := (Table.mem_updateWhere (·.overwrite_accountId account)).mp stored
        refine ⟨old, inside, ?_⟩
        by_cases own : old.accountId = account.accountId <;> simp [own, AccountRow.overwrite]
      intro row stored other member email
      obtain ⟨old, inside, keyed, kind⟩ := overwritten stored
      obtain ⟨old', inside', keyed', kind'⟩ := overwritten member
      rw [← keyed, ← keyed']
      rcases kind with ⟨own, address⟩ | ⟨foreign, address⟩ <;>
        rcases kind' with ⟨own', address'⟩ | ⟨foreign', address'⟩
      · rw [own, own']
      · refine absurd (AccountOp.save_free committed inside own inside' ?_) foreign'
        rw [← address', ← email, address]
      · refine absurd (AccountOp.save_free committed inside' own' inside ?_) foreign
        rw [← address, email, address']
      · exact unique old inside old' inside' (by rw [← address, email, address'])
  | setRoles accountId roles now =>
      obtain ⟨current, -, -, written, -⟩ := AccountOp.setRoles_ok committed
      have kept : UniqueEmails (AccountOp.stamped db accountId now) :=
        unique.updateWhere _ fun _ => rfl
      have frame := congrArg Db.accounts written.frame
      exact kept.congr frame
  | delete accountId =>
      rcases AccountOp.delete_ok committed with ⟨-, -, rfl⟩ | ⟨-, -, -, rfl⟩
      · exact unique
      · intro row stored other member email
        exact unique row (Table.mem_deleteWhere.mp stored).1 other
          (Table.mem_deleteWhere.mp member).1 email

theorem exec_uniqueEmails {env : Env} {w w' : World} {o : Op} {x : Input} {a : o.Ans}
    (unique : UniqueEmails w.db) (done : exec env o x w = some (a, w')) : UniqueEmails w'.db := by
  by_cases writes : ∃ ao, o = .accounts ao
  · obtain ⟨ao, rfl⟩ := writes
    exact onDb_preserves done unique fun v db' => AccountOp.uniqueEmails ao unique
  · exact unique.congr ((exec_touches done).accounts fun ao same => writes ⟨ao, same⟩).1

/-! ## Saves that succeed -/

theorem insertRoles_total {accountId : String} {entries : List (String × Nat)} {db : Db}
    (present : (db.accounts.find? accountId).isSome)
    (known : ∀ entry ∈ entries, (db.roles.find? entry.1).isSome)
    (fresh : ∀ entry ∈ entries, ∀ row ∈ db.accountRoles, row.key ≠ (accountId, entry.1))
    (distinct : (entries.map Prod.fst).Nodup) :
    ∃ db', entries.foldlM (insertRole accountId) db = some db' := by
  induction entries generalizing db with
  | nil => exact ⟨db, rfl⟩
  | cons entry entries ih =>
      obtain ⟨new, distinct⟩ := List.nodup_cons.mp distinct
      have unused : AccountRole.key ⟨accountId, entry.1, entry.2⟩ ∉
          db.accountRoles.rows.map AccountRole.key := by
        rw [List.mem_map]
        rintro ⟨row, stored, same⟩
        exact fresh entry (List.mem_cons_self ..) row stored same
      have inserted : insertRole accountId db entry =
          some { db with accountRoles := db.accountRoles.append ⟨accountId, entry.1, entry.2⟩ unused } := by
        rw [insertRole, if_pos (by simp [present, known entry (List.mem_cons_self ..)]),
          Table.insert?_eq_some.mpr ⟨unused, rfl⟩]
        rfl
      rw [List.foldlM_cons, inserted]
      refine ih present (fun other member => known other (List.mem_cons_of_mem _ member)) ?_ distinct
      intro other member row stored same
      have here : row ∈ db.accountRoles.append _ unused := stored
      rcases Table.mem_append.mp here with old | rfl
      · exact fresh other (List.mem_cons_of_mem _ member) row old same
      · exact new (List.mem_map.mpr ⟨other, member, (Prod.mk.inj same).2.symm⟩)

theorem writeRoles_total {accountId : String} {roles : List String}
    (present : (db.accounts.find? accountId).isSome)
    (known : ∀ role ∈ roles, (db.roles.find? role).isSome) :
    ∃ db', (writeRoles accountId roles).run db = .ok ((), db') := by
  have inserted : ∃ db', (dictFromKeys roles).zipIdx.foldlM (insertRole accountId)
      { db with accountRoles := db.accountRoles.deleteWhere (·.accountId = accountId) } =
        some db' := by
    refine insertRoles_total present (fun entry member => ?_) (fun entry _ row stored same => ?_)
      (by simpa using dictFromKeys_nodup roles)
    · exact known entry.1 (mem_dictFromKeys.mp (List.fst_mem_of_mem_zipIdx member))
    · have other := (Table.mem_deleteWhere.mp stored).2
      rw [show row.accountId = accountId from (Prod.mk.inj same).1] at other
      simp at other
  obtain ⟨db', inserted⟩ := inserted
  exact ⟨db', by simp only [writeRoles, StateT.run, inserted]⟩

/-- A copy with the stored address and roles can be written back. -/
theorem AccountOp.save_total {text : Text} {account : Account} {row : AccountRow}
    (fk : ForeignKeys db) (unique : UniqueEmails db)
    (stored : db.accounts.find? account.accountId = some row) (email : account.email = row.email)
    (roles : ∀ role ∈ account.roles, role ∈ rolesOf db account.accountId) :
    ∃ db', ((save account).run text).run db = .ok ((), db') := by
  obtain ⟨inside, keyed⟩ := Table.find?_eq_some.mp stored
  have clear : ((db.accounts.find? account.accountId).isSome &&
      db.accounts.rows.any fun other =>
        other.email = account.email && other.accountId ≠ account.accountId) = false := by
    rw [stored, Option.isSome_some, Bool.true_and, List.any_eq_false]
    intro other member
    simp only [Bool.and_eq_true, decide_eq_true_eq, not_and, not_not]
    intro same
    rw [← keyed]
    exact unique other member row inside (same.trans email)
  have updated : (updateAccount account).run db = .ok ((), saved db account) := by
    simp only [updateAccount, StateT.run, clear]
    rfl
  have written : ∃ db', (writeRoles account.accountId account.roles).run (saved db account) =
      .ok ((), db') := by
    refine writeRoles_total (by rw [saved, find?_overwrite, stored]; rfl) fun role member => ?_
    obtain ⟨given, held, _, rfl⟩ := mem_rolesOf.mp (roles role member)
    exact fk.accountRolesRole given held
  obtain ⟨db', written⟩ := written
  refine ⟨db', ?_⟩
  simp only [run, StateT.run_bind, updated]
  exact written

end Keyring

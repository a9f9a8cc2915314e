import Keyring.Accounts.SqlStore

/-!
# Roles as rows

The built-in roles are rows of the same table.  Deleting a role that an account
holds is refused inside the transaction that would delete it.
-/

set_option autoImplicit false

namespace Keyring

open Relational

def noSuchRole : String := "no role by that name"

/-- `resolve`: the union over the stored roles that are named; a name with no
role behind it contributes nothing. -/
def resolveRoles (db : Db) (names : List String) : Finset Permission :=
  permissionsOf (db.roles.rows.filter fun role => names.contains role.name)

/-- `ORDER BY builtin DESC, name`. -/
def Role.before (a b : Role) : Bool :=
  (a.builtin && !b.builtin) || (a.builtin = b.builtin && a.name ≤ b.name)

inductive RoleOp where
  | get (name : String)
  | listAll
  | add (role : Role)
  | save (role : Role)
  | delete (name : String)
  | resolve (names : List String)

namespace RoleOp

@[reducible] def Ans : RoleOp → Type
  | get _ => Option Role
  | listAll => List Role
  | add _ | save _ | delete _ => Unit
  | resolve _ => Finset Permission

def run (text : Text) : (o : RoleOp) → Transaction o.Ans
  | get name => select fun db => db.roles.find? name
  | listAll => select fun db => db.roles.rows.insertionSort (Role.before · ·)
  | add role => fun db =>
      match db.roles.insert? role with
      | none => .error (.roleExists s!"a role named {repr text role.name} already exists")
      | some roles => .ok ((), { db with roles := roles })
  | save role => execute fun db =>
      ((), { db with
        roles := db.roles.updateWhere (·.name = role.name)
          (fun row => { row with
            description := role.description
            permissions := role.permissions
            updatedAt := role.updatedAt }) fun _ => rfl })
  | delete name => fun db =>
      match db.roles.find? name with
      | none => .error (.roleNotFound noSuchRole)
      | some row =>
          if row.builtin then
            .error (.invalidRole s!"{repr text name} is a built-in role and cannot be deleted")
          else
            let holders := db.accountRoles.countWhere (·.roleName = name)
            if holders ≠ 0 then
              .error (.roleInUse
                s!"{holders} account(s) still hold {repr text name}; revoke it first")
            else .ok ((), { db with roles := db.roles.deleteWhere (·.name = name) })
  | resolve names => select fun db => resolveRoles db names

end RoleOp

/-! ## What the role store commits -/

theorem mem_resolveRoles {db : Db} {names : List String} {p : Permission} :
    p ∈ resolveRoles db names ↔
      ∃ name ∈ names, ∃ role, db.roles.find? name = some role ∧ p ∈ role.permissions := by
  simp only [resolveRoles, mem_permissionsOf, List.mem_filter, List.contains_eq_mem,
    decide_eq_true_eq]
  constructor
  · rintro ⟨role, ⟨stored, named⟩, allowed⟩
    exact ⟨role.name, named, role, Table.find?_self stored, allowed⟩
  · rintro ⟨name, named, role, found, allowed⟩
    obtain ⟨stored, rfl⟩ := Table.find?_eq_some.mp found
    exact ⟨role, ⟨stored, named⟩, allowed⟩

@[simp] theorem resolveRoles_nil (db : Db) : resolveRoles db [] = ∅ := by
  ext p
  simp [mem_resolveRoles]

namespace RoleOp

variable {text : Text} {db db' : Db}

theorem get_ok {name : String} {found : Option Role}
    (committed : ((get name).run text).run db = .ok (found, db')) :
    found = db.roles.find? name ∧ db' = db := by
  cases committed
  exact ⟨rfl, rfl⟩

theorem listAll_ok {roles : List Role}
    (committed : (listAll.run text).run db = .ok (roles, db')) : db' = db := by
  cases committed
  rfl

theorem resolve_ok {names : List String} {held : Finset Permission}
    (committed : ((resolve names).run text).run db = .ok (held, db')) :
    held = resolveRoles db names ∧ db' = db := by
  cases committed
  exact ⟨rfl, rfl⟩

theorem add_ok {role : Role} {u : Unit}
    (committed : ((add role).run text).run db = .ok (u, db')) :
    ∃ roles, db.roles.insert? role = some roles ∧ db' = { db with roles := roles } := by
  simp only [run, StateT.run] at committed
  split at committed
  · cases committed
  · rename_i roles inserted
    cases committed
    exact ⟨roles, inserted, rfl⟩

/-- The role table after a `save`. -/
theorem save_ok {role : Role} {u : Unit}
    (committed : ((save role).run text).run db = .ok (u, db')) :
    db' = { db with roles := db'.roles } ∧
      ∀ name, db'.roles.find? name = (db.roles.find? name).map fun row =>
        if name = role.name then
          { row with
            description := role.description
            permissions := role.permissions
            updatedAt := role.updatedAt }
        else row := by
  cases committed
  refine ⟨rfl, fun name => ?_⟩
  rw [Table.find?_updateWhere]
  cases found : db.roles.find? name with
  | none => rfl
  | some row =>
      obtain ⟨-, keyed⟩ := Table.find?_eq_some.mp found
      simp [keyed]

theorem delete_ok {name : String} {u : Unit}
    (committed : ((delete name).run text).run db = .ok (u, db')) :
    (∃ row, db.roles.find? name = some row ∧ row.builtin = false) ∧
      (∀ accountId, name ∉ rolesOf db accountId) ∧
      db' = { db with roles := db.roles.deleteWhere (·.name = name) } := by
  simp only [run, StateT.run] at committed
  split at committed
  · cases committed
  · rename_i row found
    split at committed
    · cases committed
    · rename_i custom
      split at committed
      · cases committed
      · rename_i free
        cases committed
        rw [ne_eq, not_not, Table.countWhere, List.countP_eq_zero] at free
        refine ⟨⟨row, found, by simpa using custom⟩, fun accountId held => ?_, rfl⟩
        simp only [rolesOf, List.mem_map, List.mem_insertionSort, List.mem_filter] at held
        obtain ⟨row, ⟨stored, -⟩, named⟩ := held
        exact free row stored (by simpa using named)

/-- Role operations touch no other table. -/
theorem frame {o : RoleOp} {a : o.Ans} (committed : (o.run text).run db = .ok (a, db')) :
    db' = { db with roles := db'.roles } := by
  cases o with
  | get name => rw [(get_ok committed).2]
  | listAll => cases committed; rfl
  | add role => obtain ⟨roles, -, rfl⟩ := add_ok committed; rfl
  | save role => exact (save_ok committed).1
  | delete name => rw [(delete_ok committed).2.2]
  | resolve names => rw [(resolve_ok committed).2]

end RoleOp

end Keyring

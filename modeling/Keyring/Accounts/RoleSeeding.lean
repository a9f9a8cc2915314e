import Keyring.Accounts.SqlColumns

/-!
# Seeding the built-in roles

`seed_builtin_roles` upserts one row for each built-in role, whatever the table holds.
On a row that is there already it writes the description and the permissions, and
leaves the `builtin` flag, on which editing and deleting depend, as it was.
-/

set_option autoImplicit false

namespace Keyring

open Relational

/-- A built-in role: its name, permissions and description. -/
abbrev Builtin := String × Finset Permission × String

namespace SqlRoleColumns

/-- `SET description = excluded.description, permissions = excluded.permissions` -/
def repair (row excluded : RoleColumns) : RoleColumns :=
  { row with description := excluded.description, permissions := excluded.permissions }

theorem repair_name (excluded row : RoleColumns) : (repair row excluded).name = row.name := rfl

def seedRole (entry : Builtin) : ColumnTransaction Unit := fun db =>
  match dumpPermissions entry.2.1 with
  | .error e => .error e
  | .ok permissions =>
      let row : RoleColumns := ⟨entry.1, entry.2.2, permissions, 1, none, none⟩
      .ok ((), { db with roles := db.roles.upsert row (repair · row) (repair_name row) })

/-- `executemany` -/
def seedRoles : List Builtin → ColumnTransaction Unit
  | [], db => .ok ((), db)
  | entry :: entries, db =>
      match (seedRole entry).run db with
      | .error e => .error e
      | .ok ((), db) => (seedRoles entries).run db

def seedBuiltinRoles : ColumnTransaction Unit := seedRoles builtinRoles

def require (text : Text) (name : String) (db : ColumnDb) : Except Error Role := do
  match ← get text name db with
  | none => throw (.roleNotFound noSuchRole)
  | some role => return role

/-- What `update_role` reads and checks of the role before it looks at the change. -/
def requireEditable (text : Text) (name : String) (db : ColumnDb) : Except Error Role := do
  let role ← require text name db
  if role.builtin then
    throw (.invalidRole s!"{repr text role.name} is a built-in role and cannot be edited")
  return role

/-! ## What one upsert leaves -/

/-- The row of a built-in role after seeding, by the row that was there. -/
def seeded (entry : Builtin) (permissions : String) (old : Option RoleColumns) : RoleColumns :=
  let row : RoleColumns := ⟨entry.1, entry.2.2, permissions, 1, none, none⟩
  (old.map (repair · row)).getD row

theorem dumpPermissions_isOk (permissions : Finset Permission) :
    ∃ column, dumpPermissions permissions = .ok column := dumpsStrings_isOk _

theorem seedRole_ok {entry : Builtin} {permissions : String}
    (dumped : dumpPermissions entry.2.1 = .ok permissions) (db : ColumnDb) :
    ∃ roles, (seedRole entry).run db = .ok ((), { db with roles := roles }) ∧
      ∀ name, roles.find? name =
        if entry.1 = name then some (seeded entry permissions (db.roles.find? name))
        else db.roles.find? name := by
  refine ⟨_, by simp only [seedRole, StateT.run, dumped]; rfl, fun name => ?_⟩
  rw [Table.find?_upsert]
  rfl

/-- Seeding never fails, and decides the row of every name. -/
theorem seedRoles_ok (entries : List Builtin) (distinct : (entries.map (·.1)).Nodup)
    (db : ColumnDb) : ∃ roles, (seedRoles entries).run db = .ok ((), { db with roles := roles }) ∧
      (∀ entry ∈ entries, ∃ permissions, dumpPermissions entry.2.1 = .ok permissions ∧
        roles.find? entry.1 = some (seeded entry permissions (db.roles.find? entry.1))) ∧
      ∀ name ∉ entries.map (·.1), roles.find? name = db.roles.find? name := by
  induction entries generalizing db with
  | nil => exact ⟨db.roles, rfl, by simp, fun _ _ => rfl⟩
  | cons first entries ih =>
      rw [List.map_cons, List.nodup_cons] at distinct
      obtain ⟨permissions, dumped⟩ := dumpPermissions_isOk first.2.1
      obtain ⟨mid, seeding, found⟩ := seedRole_ok dumped db
      obtain ⟨roles, rest, each, others⟩ := ih distinct.2 { db with roles := mid }
      refine ⟨roles, ?_, ?_, ?_⟩
      · simp only [seedRoles, StateT.run] at seeding ⊢
        rw [seeding]
        exact rest
      · intro entry member
        rcases List.mem_cons.mp member with rfl | later
        · exact ⟨permissions, dumped, by rw [others _ distinct.1, found, if_pos rfl]⟩
        · have other : first.1 ≠ entry.1 := fun same =>
            distinct.1 (same ▸ List.mem_map_of_mem later)
          obtain ⟨text, dumped', stored⟩ := each entry later
          refine ⟨text, dumped', ?_⟩
          rw [stored, found, if_neg other]
      · intro name absent
        rw [List.map_cons, List.mem_cons, not_or] at absent
        rw [others name absent.2, found, if_neg (Ne.symm absent.1)]

/-- The row is what seeding writes, whatever its flag and its stamps are. -/
def Described (entry : Builtin) (db : ColumnDb) : Prop :=
  ∃ row, db.roles.find? entry.1 = some row ∧ row.description = entry.2.2 ∧
    dumpPermissions entry.2.1 = .ok row.permissions

theorem seeded_described (entry : Builtin) (permissions : String) (old : Option RoleColumns) :
    (seeded entry permissions old).description = entry.2.2 ∧
      (seeded entry permissions old).permissions = permissions := by
  cases old <;> exact ⟨rfl, rfl⟩

theorem seedRole_again {entry : Builtin} {db : ColumnDb} (described : Described entry db) :
    (seedRole entry).run db = .ok ((), db) := by
  obtain ⟨row, found, description, dumped⟩ := described
  simp only [seedRole, StateT.run, dumped]
  rw [Table.upsert_eq_self found]
  cases row
  simp_all [repair]

theorem seedRoles_again {entries : List Builtin} {db : ColumnDb}
    (described : ∀ entry ∈ entries, Described entry db) :
    (seedRoles entries).run db = .ok ((), db) := by
  induction entries with
  | nil => rfl
  | cons entry entries ih =>
      have first := seedRole_again (described entry List.mem_cons_self)
      have rest := ih fun later member => described later (List.mem_cons_of_mem _ member)
      simp only [StateT.run] at first rest ⊢
      rw [seedRoles, StateT.run, first]
      exact rest

/-! ## What the built-in roles are afterwards -/

/-- The permissions that `_role_of` reads from a row. -/
def readPermissions (text : Text) (row : RoleColumns) : Except Error (Finset Permission) := do
  let names ← loadsStrings text row.permissions
  let permissions ← names.mapM (memberOf text Permission)
  return permissions.toFinset

theorem readPermissions_dumped (text : Text) {permissions : Finset Permission} {row : RoleColumns}
    (dumped : dumpPermissions permissions = .ok row.permissions) :
    readPermissions text row = .ok permissions := by
  obtain ⟨names, members, loaded, known, same⟩ := Keyring.readPermissions text dumped
  rw [readPermissions, loaded, ok_bind, known, ok_bind, same]
  rfl

theorem read_builtin {text : Text} {row : RoleColumns} {role : Role}
    (read : row.read text = .ok role) : role.builtin = decide (row.builtin ≠ 0) := by
  simp only [RoleColumns.read, bind_eq_ok, pure_eq_ok] at read
  obtain ⟨_, -, _, -, _, -, _, -, rfl⟩ := read
  rfl

theorem marked_refuses (text : Text) {name : String} {db : ColumnDb} {row : RoleColumns}
    (found : db.roles.find? name = some row) (marked : row.builtin ≠ 0) :
    (delete text name).run db =
        .error (.invalidRole s!"{repr text name} is a built-in role and cannot be deleted") ∧
      ∀ role, requireEditable text name db ≠ .ok role := by
  constructor
  · simp only [delete, StateT.run, found]
    rw [if_pos marked]
  · intro role editable
    simp only [requireEditable, require, get, found, Option.mapM_some] at editable
    cases read : row.read text with
    | error e =>
        rw [read] at editable
        cases editable
    | ok stored =>
        have builtin := read_builtin read
        rw [decide_eq_true marked] at builtin
        rw [read] at editable
        simp only [Functor.map, Except.map, ok_bind, pure, Except.pure, builtin, if_true] at editable
        cases editable

/-- A built-in role is what the domain says, and cannot be changed. -/
structure Established (text : Text) (entry : Builtin) (db : ColumnDb) (row : RoleColumns) :
    Prop where
  found : db.roles.find? entry.1 = some row
  permissions : readPermissions text row = .ok entry.2.1
  marked : row.builtin ≠ 0
  undeletable : (delete text entry.1).run db =
    .error (.invalidRole s!"{repr text entry.1} is a built-in role and cannot be deleted")
  uneditable : ∀ role, requireEditable text entry.1 db ≠ .ok role

/-- No row bears the name of a built-in role without being marked as one. -/
def NoImpostor (db : ColumnDb) : Prop :=
  ∀ entry ∈ builtinRoles, ∀ row, db.roles.find? entry.1 = some row → row.builtin ≠ 0

theorem seeded_marked {entry : Builtin} {permissions : String} {old : Option RoleColumns} :
    (seeded entry permissions old).builtin ≠ 0 ↔ ∀ row, old = some row → row.builtin ≠ 0 := by
  cases old with
  | none => simp [seeded]
  | some row => simp [seeded, repair]

/-- Seeding keeps every other row, makes every built-in role's permissions what the domain
says and changes nothing the second time.  It marks the built-in roles as such exactly
where no unmarked row bore one of their names. -/
theorem seedBuiltinRoles_establishes_iff (text : Text) (db : ColumnDb) :
    ∃ roles, seedBuiltinRoles.run db = .ok ((), { db with roles := roles }) ∧
      (∀ name ∉ builtinRoles.map (·.1), roles.find? name = db.roles.find? name) ∧
      seedBuiltinRoles.run { db with roles := roles } = .ok ((), { db with roles := roles }) ∧
      (∀ entry ∈ builtinRoles, ∃ row, roles.find? entry.1 = some row ∧
        readPermissions text row = .ok entry.2.1) ∧
      ((∀ entry ∈ builtinRoles, ∃ row, Established text entry { db with roles := roles } row) ↔
        NoImpostor db) := by
  obtain ⟨roles, seeding, each, others⟩ := seedRoles_ok builtinRoles (by decide) db
  have read : ∀ entry ∈ builtinRoles, ∃ row, roles.find? entry.1 = some row ∧
      readPermissions text row = .ok entry.2.1 := by
    intro entry member
    obtain ⟨permissions, dumped, found⟩ := each entry member
    refine ⟨_, found, readPermissions_dumped text ?_⟩
    rw [(seeded_described _ _ _).2]
    exact dumped
  refine ⟨roles, seeding, others, seedRoles_again ?_, read, ?_, ?_⟩
  · intro entry member
    obtain ⟨permissions, dumped, found⟩ := each entry member
    obtain ⟨description, same⟩ := seeded_described entry permissions (db.roles.find? entry.1)
    exact ⟨_, found, description, by rw [same]; exact dumped⟩
  · intro established entry member row stored
    obtain ⟨permissions, dumped, found⟩ := each entry member
    obtain ⟨now, here⟩ := established entry member
    have same : now = seeded entry permissions (db.roles.find? entry.1) :=
      Option.some.inj (here.found.symm.trans found)
    have marked := here.marked
    rw [same] at marked
    exact seeded_marked.mp marked row stored
  · intro vacant entry member
    obtain ⟨permissions, dumped, found⟩ := each entry member
    obtain ⟨row, stored, allowed⟩ := read entry member
    have same : row = seeded entry permissions (db.roles.find? entry.1) :=
      Option.some.inj (stored.symm.trans found)
    have marked : row.builtin ≠ 0 := by
      rw [same]
      exact seeded_marked.mpr (vacant entry member)
    have present : ({ db with roles := roles } : ColumnDb).roles.find? entry.1 = some row := stored
    obtain ⟨undeletable, uneditable⟩ := marked_refuses text present marked
    exact ⟨row, stored, allowed, marked, undeletable, uneditable⟩

/-- A custom role that an older release let somebody call `auditor`. -/
def customAuditor : ColumnDb :=
  { ColumnDb.empty with
    roles := ⟨[⟨"auditor", "ours", "[]", 0, none, none⟩], by decide⟩ }

/-- Seeding does not establish the built-in roles from every table. -/
theorem customAuditor_not_established :
    ¬∀ (text : Text) (db db' : ColumnDb), seedBuiltinRoles.run db = .ok ((), db') →
      ∀ entry ∈ builtinRoles, ∃ row, Established text entry db' row := by
  intro every
  obtain ⟨roles, seeding, each, -⟩ := seedRoles_ok builtinRoles (by decide) customAuditor
  let auditor : Builtin := (AUDITOR, {.accountsRead, .rolesRead, .auditRead},
    "Read-only: accounts, roles and the audit log.")
  have member : auditor ∈ builtinRoles := by simp [builtinRoles, auditor]
  obtain ⟨row, established⟩ := every ⟨id, fun _ => true, Char.isDigit, fun _ => none⟩ customAuditor
    _ seeding auditor member
  obtain ⟨permissions, -, found⟩ := each auditor member
  have same := Option.some.inj (established.found.symm.trans found)
  have marked := established.marked
  rw [same] at marked
  exact seeded_marked.mp marked ⟨"auditor", "ours", "[]", 0, none, none⟩ rfl rfl

end SqlRoleColumns

end Keyring

import Keyring.Runs
import Keyring.Scenario
import Keyring.Writes

/-!
# The built-in roles, and the roles that are held

The built-in roles are seeded when the service starts.  An edit is refused when
the role it has read is built in, and only then written; since no custom role
bears the name of a built-in one, the write reaches none of them.
-/

set_option autoImplicit false

namespace Keyring

open Interleave Relational

variable {env : Env}

/-! ## Seeding -/

/-- The role is there, built in, with these permissions. -/
def HasBuiltin (entry : String × Finset Permission × String) (db : Db) : Prop :=
  ∃ role, db.roles.find? entry.1 = some role ∧ role.builtin = true ∧ role.permissions = entry.2.1

def Seeded (db : Db) : Prop := ∀ entry ∈ builtinRoles, HasBuiltin entry db

/-- Every role that an account holds is there. -/
def HeldKnown (db : Db) : Prop :=
  ∀ accountId, ∀ name ∈ rolesOf db accountId, (db.roles.find? name).isSome

theorem ForeignKeys.heldKnown {db : Db} (fk : ForeignKeys db) : HeldKnown db := by
  intro accountId name held
  obtain ⟨row, stored, -, rfl⟩ := mem_rolesOf.mp held
  exact fk.accountRolesRole row stored

/-! ## What an edit has read -/

inductive ReadsCustom (name : String) : Event (machine env) → Prop where
  | read {i : Nat} {asked : String} {role : Role} {s s' : World} (custom : role.builtin = false)
      (named : role.name = name) :
      ReadsCustom name ⟨i, .roles (.get asked), .ok (some role), s, s'⟩

theorem ReadsCustom.not_builtin {name : String} {e : Event (machine env)} {x : Input}
    (read : ReadsCustom name e) (done : exec env e.op x e.before = some (e.ans, e.after)) :
    ∃ role, e.before.db.roles.find? name = some role ∧ role.builtin = false := by
  cases read with
  | @read i asked role s s' custom named =>
      rcases onDb_cases done with ⟨v, answered, committed⟩ | ⟨⟨_, failed⟩, -⟩
      · cases answered
        have found := (RoleOp.get_ok committed).1.symm
        obtain ⟨-, keyed⟩ := Table.find?_eq_some.mp found
        refine ⟨role, ?_, custom⟩
        rw [← named, keyed]
        exact found
      · cases failed

theorem AdminService.updateRole_calling {actor : Actor} {name description : String}
    {permissions : List String} {es : List (Event (machine env))} {role : Role}
    {next : Except Error Unit → Service env Role}
    (path : Path (updateRole env actor name permissions description) es
      (.call (.roles (.save role)) next)) : ∃ e ∈ es, ReadsCustom role.name e := by
  obtain ⟨_, -, normal⟩ := ofExcept_bind_calling path
  obtain ⟨roleName, -, reading⟩ := ofExcept_bind_calling normal
  obtain ⟨i, a, found, s, s', rest, rfl, rfl, checking⟩ := store_bind_calling reading (by simp)
  cases found with
  | none => exact (done_calling checking).elim
  | some old =>
      obtain ⟨custom, parsing⟩ := refuseIf_bind_calling checking
      obtain ⟨wanted, -, granting⟩ := ofExcept_bind_calling parsing
      obtain ⟨_, -, describing⟩ := ofExcept_bind_calling granting
      obtain ⟨_, -, timing⟩ := ofExcept_bind_calling describing
      obtain ⟨_, now, _, _, _, rfl, saving⟩ := ask_bind_calling timing (by simp)
      rcases saving.call_inv with ⟨-, here⟩ | ⟨_, _, _, _, _, rfl, saved⟩
      · cases here
        exact ⟨_, List.mem_cons_self .., .read (by simpa using custom) rfl⟩
      · rcases done_bind_inv saved with ⟨_, -, -, impossible⟩ | ⟨_, -, recording⟩
        · cases impossible
        · have records : (record env actor .roleUpdated none
              s!"role {repr env.text old.name}").Uses Op.plain :=
            record_uses (fun _ => Op.modest.plain) (fun _ => trivial) _ _ _ _
          exact (recording.never (Prog.Uses.bind records fun _ => trivial) id).elim

/-! ## What one step does to the roles -/

theorem HasBuiltin.add {entry : String × Finset Permission × String} {db : Db} {role : Role}
    {roles : Table Role.name} (has : HasBuiltin entry db)
    (inserted : db.roles.insert? role = some roles) :
    HasBuiltin entry { db with roles := roles } := by
  obtain ⟨old, found, kept⟩ := has
  refine ⟨old, ?_, kept⟩
  change roles.find? entry.1 = some old
  rw [Table.find?_insert? inserted, found]
  split
  · rename_i same
    have taken := (Table.insert?_eq_some.mp inserted).1
    rw [← Table.isSome_find?, same, found] at taken
    exact absurd rfl taken
  · rfl

theorem HasBuiltin.exec {entry : String × Finset Permission × String} {o : Op} {a : o.Ans}
    {w w' : World} {x : Input} (has : HasBuiltin entry w.db)
    (spares : ∀ role, o = .roles (.save role) → role.name ≠ entry.1)
    (done : exec env o x w = some (a, w')) : HasBuiltin entry w'.db := by
  have kept : (∀ ro, o ≠ .roles ro) → HasBuiltin entry w'.db := by
    intro other
    rw [HasBuiltin, (exec_touches done).roles other]
    exact has
  cases o with
  | roles o =>
      rcases onDb_cases done with ⟨v, -, committed⟩ | ⟨-, same⟩
      · cases o with
        | get name => rwa [(RoleOp.get_ok committed).2]
        | listAll => rwa [RoleOp.listAll_ok committed]
        | resolve names => rwa [(RoleOp.resolve_ok committed).2]
        | add role =>
            obtain ⟨roles, inserted, written⟩ := RoleOp.add_ok committed
            rw [written]
            exact has.add inserted
        | save role =>
            obtain ⟨old, found, built⟩ := has
            refine ⟨old, ?_, built⟩
            rw [(RoleOp.save_ok committed).2, found]
            simp [Ne.symm (spares role rfl)]
        | delete name =>
            obtain ⟨⟨row, found, custom⟩, -, gone⟩ := RoleOp.delete_ok committed
            obtain ⟨old, stored, built, granted⟩ := has
            refine ⟨old, ?_, built, granted⟩
            have other : old.name ≠ name := by
              intro same
              rw [← (Table.find?_eq_some.mp stored).2, same, found] at stored
              cases stored
              rw [built] at custom
              cases custom
            rw [gone]
            change (w.db.roles.deleteWhere (·.name = name)).find? entry.1 = some old
            rw [Table.find?_deleteWhere, stored]
            simp [other]
      · rwa [HasBuiltin, same]
  | _ => exact kept fun _ => Op.noConfusion

/-- A role that an account holds is there after the step. -/
theorem HeldKnown.exec {o : Op} {a : o.Ans} {w w' : World} {x : Input} (known : HeldKnown w.db)
    (done : exec env o x w = some (a, w')) :
    ∀ accountId, ∀ name ∈ rolesOf w.db accountId, (w'.db.roles.find? name).isSome := by
  intro accountId name held
  have present := known accountId name held
  have kept : (∀ ro, o ≠ .roles ro) → (w'.db.roles.find? name).isSome := by
    intro other
    rwa [(exec_touches done).roles other]
  cases o with
  | roles o =>
      rcases onDb_cases done with ⟨v, -, committed⟩ | ⟨-, same⟩
      · cases o with
        | get asked => rwa [(RoleOp.get_ok committed).2]
        | listAll => rwa [RoleOp.listAll_ok committed]
        | resolve names => rwa [(RoleOp.resolve_ok committed).2]
        | add role =>
            obtain ⟨roles, inserted, written⟩ := RoleOp.add_ok committed
            rw [written]
            change (roles.find? name).isSome
            rw [Table.find?_insert? inserted]
            split
            · rfl
            · exact present
        | save role =>
            rw [(RoleOp.save_ok committed).2, Option.isSome_map]
            exact present
        | delete gone =>
            obtain ⟨-, free, written⟩ := RoleOp.delete_ok committed
            have other : gone ≠ name := by
              rintro rfl
              exact free accountId held
            obtain ⟨role, found⟩ := Option.isSome_iff_exists.mp present
            have keyed := (Table.find?_eq_some.mp found).2
            rw [written]
            change ((w.db.roles.deleteWhere (·.name = gone)).find? name).isSome
            rw [Table.find?_deleteWhere, found]
            simp [keyed, Ne.symm other]
      · rwa [same]
  | _ => exact kept fun _ => Op.noConfusion

/-! ## Every run -/

theorem Call.writes_save {c : Call} {role : Role} (writes : c.writes (.roles (.save role))) :
    ∃ actor name permissions description,
      c = .admin actor (.updateRole name permissions description) := by
  cases c with
  | admin actor c =>
      cases c with
      | updateRole name permissions description => exact ⟨actor, name, permissions, description, rfl⟩
      | _ => exact absurd writes id
  | change c =>
      cases c with
      | storeDirect => rcases writes with sent | stored <;> contradiction
      | removeConnection => rcases writes with sent | stored <;> contradiction
      | removeProfile => rcases writes with sent | stored <;> contradiction
      | _ => exact absurd writes id
  | exchange => exact absurd writes id
  | account c | credential c | delegation c | internal _ _ c => cases c <;> exact absurd writes id

section Runs

variable {w : World} {calls : List Call} {d : Config (machine env) Error Answer}

theorem saves_custom {early late : List (Event (machine env))} {e : Event (machine env)}
    (run : Run (start env w calls) (early ++ e :: late) d) {role : Role}
    (saves : e.op = .roles (.save role)) : ∃ e' ∈ early, ReadsCustom role.name e' := by
  obtain ⟨c, found, wrote⟩ := writes_of_run run (e := e) (by simp)
  have here : (start env w calls).pool[e.thread]? = some (c.prog env) := by simp [start, found]
  obtain ⟨next, path⟩ := run.at_event here
  obtain ⟨i, o, a, s, s'⟩ := e
  cases saves
  rcases wrote with idle | wrote
  · exact absurd idle id
  obtain ⟨actor, name, permissions, description, rfl⟩ := Call.writes_save wrote
  obtain ⟨next', inside⟩ := returning_calling path
  obtain ⟨e', member, read⟩ := AdminService.updateRole_calling inside
  exact ⟨e', (mem_ofThread.mp member).1, read⟩

/-- In every state of every run from a seeded store, the built-in roles are there
as this release defines them and every role that an account holds is there; and
no step deletes a role that an account holds. -/
theorem roles_well_formed {tr : List (Event (machine env))} (run : Run (start env w calls) tr d)
    (fk : ForeignKeys w.db) (seeded : Seeded w.db) :
    (∀ s ∈ states w tr, Seeded s.db ∧ HeldKnown s.db) ∧
      ∀ e ∈ tr, ∀ accountId, ∀ name ∈ rolesOf e.before.db accountId,
        (e.after.db.roles.find? name).isSome := by
  have builtin : ∀ s ∈ states w tr, Seeded s.db := by
    apply run.always (fun s : World => Seeded s.db) seeded
    rintro early e late rfl before entry member
    obtain ⟨x, done⟩ := run.exec_eq e (by simp)
    apply (before e (by simp) entry member).exec ?_ done
    intro role saves same
    obtain ⟨e', earlier, read⟩ := saves_custom run saves
    obtain ⟨y, asked⟩ := run.exec_eq e' (by simp [earlier])
    obtain ⟨found, stored, custom⟩ := read.not_builtin asked
    obtain ⟨role', present, built, -⟩ := before e' (by simp [earlier]) entry member
    rw [same, present] at stored
    cases stored
    rw [built] at custom
    cases custom
  refine ⟨fun s inside => ⟨builtin s inside, (states_foreignKeys run fk s inside).heldKnown⟩, ?_⟩
  intro e member
  obtain ⟨x, done⟩ := run.exec_eq e member
  exact (((run_foreignKeys run fk).2 e member).heldKnown).exec done

end Runs

/-! ## A role is made, edited and given -/

namespace Scenario

def makeEditor : Call := .admin owner (.createRole "editor" ["accounts:read"] "edits")

def editEditor : Call := .admin owner (.updateRole "editor" ["roles:read"] "reads")

def giveEditor : Call := .admin owner (.setAccountRoles "bob" ["editor", "member"])

def dropEditor : Call := .admin owner (.deleteRole "editor")

/-- The edit and the deletion begin while Bob is given the role. -/
def editorRun : Config (machine deployment) Error Answer × List (Event (machine deployment)) :=
  (start deployment office [makeEditor, editEditor, giveEditor, dropEditor]).play
    (List.replicate 5 (0, given 1 "drawn0") ++ [(1, given 2 "drawn1"), (3, given 2 "drawn3")] ++
      List.replicate 8 (2, given 3 "drawn2") ++ [(3, given 4 "drawn3")] ++
      List.replicate 5 (1, given 4 "drawn1"))

theorem office_seeded : Seeded office.db := by
  have stored : ∀ entry ∈ builtinRoles,
      (office.db.roles.find? entry.1).any fun role =>
        role.builtin && decide (role.permissions = entry.2.1) := by decide +kernel
  intro entry member
  have found := stored entry member
  cases here : office.db.roles.find? entry.1 with
  | none => simp [here] at found
  | some role =>
      simp only [here, Option.any_some, Bool.and_eq_true, decide_eq_true_eq] at found
      exact ⟨role, here, found.1, found.2⟩

end Scenario

open Scenario in
theorem roles_well_formed_editor :
    Run (start deployment office [makeEditor, editEditor, giveEditor, dropEditor]) editorRun.2
        editorRun.1 ∧
      (∃ answer, editorRun.1.pool[2]? = some (.done (.ok answer))) ∧
      ∀ s ∈ states office editorRun.2, Seeded s.db ∧ HeldKnown s.db := by
  have run : Run (start deployment office [makeEditor, editEditor, giveEditor, dropEditor])
      editorRun.2 editorRun.1 := Config.play_run _ _
  exact ⟨run, returned_some (by decide +kernel),
    (roles_well_formed run office_foreignKeys office_seeded).1⟩

end Keyring

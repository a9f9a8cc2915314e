import Keyring.Accounts.Attempts
import Keyring.Scenario

/-!
# Permissions that nobody holds

An account is permitted what its roles name.  A role is defined from permissions
that its author held, and granted by someone who held what it named when it was
read; an account that is saved again keeps roles that it had.  So a permission
that no account holds is in none of the roles that are held, and no interleaving
of these requests puts it there.
-/

set_option autoImplicit false

namespace Keyring

open Interleave Relational

variable {env : Env} {p : Permission}

/-- What an account is permitted: the union over its roles. -/
def permissionsHeld (db : Db) (accountId : String) : Finset Permission :=
  match readAccount db accountId with
  | none => ∅
  | some account => resolveRoles db account.roles

/-- No account holds this permission. -/
def Unheld (p : Permission) (w : World) : Prop := ∀ accountId, p ∉ permissionsHeld w.db accountId

/-- The role of this name, if there is one, does not include the permission. -/
def Lacks (p : Permission) (w : World) (name : String) : Prop :=
  ∀ role, w.db.roles.find? name = some role → p ∉ role.permissions

theorem mem_permissionsHeld {db : Db} {accountId : String} :
    p ∈ permissionsHeld db accountId ↔
      (db.accounts.find? accountId).isSome ∧
        ∃ name ∈ rolesOf db accountId, ∃ role, db.roles.find? name = some role ∧
          p ∈ role.permissions := by
  cases found : readAccount db accountId with
  | none =>
      have absent : db.accounts.find? accountId = none := Option.map_eq_none_iff.mp found
      simp [permissionsHeld, found, absent]
  | some account =>
      obtain ⟨row, stored, -, -, roles⟩ := readAccount_some found
      simp [permissionsHeld, found, stored, roles, mem_resolveRoles]

theorem unheld_iff {w : World} :
    Unheld p w ↔ ∀ accountId, (w.db.accounts.find? accountId).isSome →
      ∀ name ∈ rolesOf w.db accountId, Lacks p w name := by
  constructor
  · intro unheld accountId present name held role found included
    exact unheld accountId (mem_permissionsHeld.mpr ⟨present, name, held, role, found, included⟩)
  · intro lacks accountId holds
    obtain ⟨present, name, held, role, found, included⟩ := mem_permissionsHeld.mp holds
    exact lacks accountId present name held role found included

theorem Unheld.of_read {w : World} (unheld : Unheld p w) {accountId : String} {account : Account}
    (read : readAccount w.db accountId = some account) : ∀ name ∈ account.roles, Lacks p w name := by
  obtain ⟨row, stored, -, -, roles⟩ := readAccount_some read
  intro name held
  rw [roles] at held
  exact unheld_iff.mp unheld accountId (by simp [stored]) name held

/-! ## One step -/

/-- A step that leaves the permission unheld, and puts it into no role. -/
def Confined (p : Permission) (w w' : World) : Prop :=
  Unheld p w → Unheld p w' ∧ ∀ name, Lacks p w name → Lacks p w' name

theorem Confined.refl (w : World) : Confined p w w := fun unheld => ⟨unheld, fun _ => id⟩

theorem Confined.trans {w m w' : World} (first : Confined p w m) (second : Confined p m w') :
    Confined p w w' := by
  intro unheld
  obtain ⟨unheld, kept⟩ := first unheld
  obtain ⟨unheld, kept'⟩ := second unheld
  exact ⟨unheld, fun name lacks => kept' name (kept name lacks)⟩

/-- What a step writes to the accounts and the roles lacks the permission. -/
def Op.spares (p : Permission) (w : World) : Op → Prop
  | .accounts (.add _) | .accounts (.delete _) => False
  | .accounts (.save copy) => ∀ name ∈ copy.roles, Lacks p w name
  | .accounts (.setRoles _ names _) => ∀ name ∈ names, Lacks p w name
  | .roles (.add role) | .roles (.save role) => p ∉ role.permissions
  | _ => True

theorem Op.plain.spares {o : Op} (plain : o.plain) (w : World) : o.spares p w := by
  cases o with
  | accounts o => cases o <;> first | exact plain.elim | trivial
  | roles o => cases o <;> first | exact plain.elim | trivial
  | _ => trivial

theorem Op.spares.sparesAccounts {o : Op} {w : World} (spares : o.spares p w) :
    o.sparesAccounts := by
  cases o with
  | accounts o => cases o <;> first | exact spares.elim | trivial
  | _ => trivial

theorem exec_role {o : Op} {x : Input} {w w' : World} {a : o.Ans}
    (done : exec env o x w = some (a, w')) {name : String} {role : Role}
    (found : w'.db.roles.find? name = some role) :
    (∃ old, w.db.roles.find? name = some old ∧ role.permissions = old.permissions) ∨
      ∃ written, (o = .roles (.add written) ∨ o = .roles (.save written)) ∧ written.name = name ∧
        role.permissions = written.permissions := by
  by_cases writes : ∃ ro, o = .roles ro
  · obtain ⟨ro, rfl⟩ := writes
    rcases onDb_cases done with ⟨v, -, committed⟩ | ⟨-, same⟩
    · cases ro with
      | get _ | listAll | resolve _ =>
          have same : w'.db = w.db := (Prod.mk.inj (Except.ok.inj committed)).2.symm
          rw [same] at found
          exact Or.inl ⟨role, found, rfl⟩
      | add written =>
          obtain ⟨roles, inserted, after⟩ := RoleOp.add_ok committed
          rw [after, Table.find?_insert? inserted] at found
          split at found
          · rename_i named
            cases found
            exact Or.inr ⟨role, Or.inl rfl, named, rfl⟩
          · exact Or.inl ⟨role, found, rfl⟩
      | save written =>
          rw [(RoleOp.save_ok committed).2 name] at found
          obtain ⟨old, stored, same⟩ := Option.map_eq_some_iff.mp found
          split at same
          · rename_i named
            exact Or.inr ⟨written, Or.inr rfl, named.symm, same ▸ rfl⟩
          · exact Or.inl ⟨old, stored, same ▸ rfl⟩
      | delete gone =>
          rw [(RoleOp.delete_ok committed).2.2] at found
          obtain ⟨stored, named⟩ := Table.find?_eq_some.mp found
          have before := (Table.mem_deleteWhere.mp stored).1
          exact Or.inl ⟨role, named ▸ Table.find?_self before, rfl⟩
    · rw [same] at found
      exact Or.inl ⟨role, found, rfl⟩
  · rw [(exec_touches done).roles fun ro same => writes ⟨ro, same⟩] at found
    exact Or.inl ⟨role, found, rfl⟩

theorem exec_lacks {o : Op} {x : Input} {w w' : World} {a : o.Ans}
    (done : exec env o x w = some (a, w')) (spares : o.spares p w) {name : String}
    (lacks : Lacks p w name) : Lacks p w' name := by
  intro role found
  rcases exec_role done found with ⟨old, stored, same⟩ | ⟨written, writes, -, same⟩
  · rw [same]
    exact lacks old stored
  · rw [same]
    rcases writes with rfl | rfl
    · exact spares
    · exact spares

theorem exec_confined {o : Op} {x : Input} {w w' : World} {a : o.Ans}
    (done : exec env o x w = some (a, w')) (spares : o.spares p w) : Confined p w w' := by
  intro unheld
  have kept : ∀ name, Lacks p w name → Lacks p w' name := fun name => exec_lacks done spares
  refine ⟨unheld_iff.mpr fun accountId present name held => ?_, kept⟩
  apply kept
  cases exec_written done spares.sparesAccounts accountId with
  | saved copy saved _ _ roles =>
      cases Op.saved_eq_some saved
      rw [roles, mem_dictFromKeys] at held
      exact spares name held
  | assigned names _ _ assigned _ roles =>
      rw [roles] at held
      unfold Op.assigned at assigned
      split at assigned
      · split at assigned
        · cases assigned
          exact spares name (mem_dictFromKeys.mp held)
        · cases assigned
      · cases assigned
  | kept _ _ row roles =>
      rw [roles] at held
      rw [row] at present
      exact unheld_iff.mp unheld accountId present name held

/-! ## One request, under interference -/

/-- Whatever confined steps the others take, each step of the program is confined. -/
abbrev Confines {α : Type} (p : Permission) (prog : Service env α) (w : World) : Prop :=
  prog.Sat (machine env).any (Confined p) (fun _ _ => Confined p) (fun _ _ => True) w

section Programs

variable {α β : Type} {w : World}

/-- A step that writes no roles of accounts but these, and no role. -/
def Op.rewrites (roles : List String) (o : Op) : Prop :=
  o.plain ∨ ∃ copy, o = .accounts (.save copy) ∧ copy.roles = roles

theorem confines_of_rewrites {prog : Service env α} {roles : List String}
    (uses : prog.Uses (Op.rewrites roles))
    (unheld : Unheld p w) (lacks : ∀ name ∈ roles, Lacks p w name) : Confines p prog w := by
  refine Prog.Sat.of_uses (P := fun w => Unheld p w ∧ ∀ name ∈ roles, Lacks p w name) uses
    (fun w w' step start => ?_) (fun o allowed w x a w' start done _ => ?_) (fun _ _ _ => trivial)
    ⟨unheld, lacks⟩
  · obtain ⟨unheld, kept⟩ := step start.1
    exact ⟨unheld, fun name held => kept name (start.2 name held)⟩
  · have spares : o.spares p w := by
      rcases allowed with plain | ⟨copy, rfl, same⟩
      · exact plain.spares w
      · intro name held
        exact start.2 name (same ▸ held)
    have step := exec_confined done spares
    obtain ⟨unheld, kept⟩ := step start.1
    exact ⟨step, unheld, fun name held => kept name (start.2 name held)⟩

/-- A program that writes neither accounts nor roles, and what comes after it. -/
theorem confines_meanwhile {first : Service env α} {f : α → Service env β}
    (uses : first.Uses Op.plain) (rest : ∀ a w', Confined p w w' → Confines p (f a) w') :
    Confines p (first >>= f) w := by
  refine Prog.Sat.bind_uses (K := Confined p) uses Confined.refl (fun _ _ _ => Confined.trans)
    (fun _ _ => id) (fun o plain s x a t done _ => ?_) rest fun _ _ _ => trivial
  have step : Confined p s t := exec_confined done (plain.spares s)
  exact ⟨step, step⟩

theorem confines_bind {first : Service env α} {f : α → Service env β} (uses : first.Uses Op.plain)
    (unheld : Unheld p w) (rest : ∀ a w', Unheld p w' → Confines p (f a) w') :
    Confines p (first >>= f) w :=
  confines_meanwhile uses fun a w' step => rest a w' (step unheld).1

theorem confines_plain {prog : Service env α} (uses : prog.Uses Op.plain) (unheld : Unheld p w) :
    Confines p prog w := by
  rw [← Prog.bind_pure prog]
  exact confines_bind uses unheld fun _ _ _ => trivial

theorem confines_read {accountId : String} {f : Option Account → Service env β}
    (unheld : Unheld p w) (absent : ∀ w', Unheld p w' → Confines p (f none) w')
    (present : ∀ account w', Unheld p w' → (∀ name ∈ account.roles, Lacks p w' name) →
      Confines p (f (some account)) w') : Confines p (accountStore (.get accountId) >>= f) w := by
  refine Prog.Sat.bind (readAccount_sat (K := Confined p) (fun _ _ _ => Confined.trans)
    (fun _ _ => id) accountId (fun s x a t done _ => ?_) w) ?_ fun _ _ _ => trivial
  · have step : Confined p s t := exec_confined done trivial
    exact ⟨step, step⟩
  · rintro found w' ⟨step, read⟩
    have unheld := (step unheld).1
    cases found with
    | none => exact absent w' unheld
    | some account => exact present account w' unheld (unheld.of_read (read _ rfl).symm)

theorem confines_returning {prog : Service env α} {answer : α → Answer}
    (confines : Confines p prog w) : Confines p (returning prog answer) w :=
  Prog.Sat.bind confines (fun _ _ _ => trivial) fun _ _ _ => trivial

theorem confines_store {o : Op} {result : o.Ans → Except Error α} {f : α → Service env β}
    (spares : ∀ w', Confined p w w' → o.spares p w')
    (rest : ∀ v w', Confined p w w' → Confines p (f v) w') :
    Confines p ((.call o fun a => .done (result a) : Service env α) >>= f) w := by
  intro w' others x a t done _
  have step : Confined p w' t := exec_confined done (spares w' others)
  refine ⟨step, ?_⟩
  change Confines p ((.done (result a) : Service env α) >>= f) t
  cases result a with
  | ok v => exact rest v t (others.trans step)
  | error e => trivial

end Programs

namespace AccountService

variable {w : World}

theorem saves_rewrites {account : Account} :
    ∀ copy : Account, copy.Copies account → Op.rewrites account.roles (.accounts (.save copy)) :=
  fun copy same => Or.inr ⟨copy, rfl, same.roles⟩

theorem attempt_confines (attempt : Attempt) (unheld : Unheld p w) :
    Confines p (attempt.call.prog env) w := by
  rw [attempt.prog_eq]
  refine Prog.Sat.bind (attempt.find_sat (K := Confined p) Confined.refl
    (fun _ _ _ => Confined.trans) (fun _ _ => id) (fun o finding s x a t done _ => ?_) w) ?_
    fun _ _ _ => trivial
  · have step : Confined p s t := exec_confined done ((Attempt.finding_plain finding).spares s)
    exact ⟨step, step⟩
  · rintro found w' ⟨step, looked⟩
    have unheld := (step unheld).1
    cases found with
    | none => trivial
    | some account =>
        have read := Attempt.lookup_some (looked _ rfl).symm
        exact confines_of_rewrites (attempt.guarded_uses (fun _ => Or.inl) saves_rewrites) unheld
          (unheld.of_read read)

theorem changePassword_confines (unheld : Unheld p w) (accountId current newPassword : String)
    (keep : Option String) :
    Confines p (changePassword env accountId current newPassword keep) w := by
  refine confines_read unheld (fun _ _ => trivial) fun account w' unheld lacks => ?_
  refine confines_of_rewrites ?_ unheld lacks
  refine Prog.Uses.bind (refuseIf_uses _ _) fun _ => ?_
  exact setPassword_uses (fun _ => Or.inl) saves_rewrites newPassword keep

theorem redeemPasswordReset_confines (unheld : Unheld p w) (token newPassword caller : String) :
    Confines p (redeemPasswordReset env token newPassword caller) w := by
  refine confines_bind (checkLimit_uses (fun _ limits => limits.plain) _ _ _ _) unheld
    fun _ w unheld => ?_
  refine confines_bind (ofExcept_uses _) unheld fun _ w unheld => ?_
  refine confines_bind (redeem_uses (fun _ => id) token _) unheld fun grant w unheld => ?_
  unfold grantee
  split
  · trivial
  · refine confines_read unheld (fun _ _ => trivial) fun account w unheld lacks => ?_
    refine confines_of_rewrites ?_ unheld lacks
    refine Prog.Uses.bind ?_ fun _ => trivial
    exact setPassword_uses (fun _ => Or.inl) saves_rewrites newPassword none

end AccountService

namespace AdminService

variable {w : World} {actor : Actor}

theorem checkGrantable_lacks (session : actor.isBreakGlass = false) (lacks : p ∉ actor.permissions)
    {wanted : Finset Permission} (checked : checkGrantable actor wanted = .ok ()) : p ∉ wanted := by
  rw [checkGrantable, session] at checked
  exact fun included => lacks (checkCanGrant_ok.mp checked included)

theorem record_confines (unheld : Unheld p w) (action : AuditAction) (targetId : Option String)
    (detail : String) {α : Type} {f : Unit → Service env α}
    (ended : ∀ u w', Confines p (f u) w') :
    Confines p (record env actor action targetId detail >>= f) w :=
  confines_bind (record_uses (fun _ => Op.modest.plain) (fun _ => trivial) actor action targetId detail) unheld
    fun u w' _ => ended u w'

variable (session : actor.isBreakGlass = false) (lacks : p ∉ actor.permissions)
include session lacks

theorem createRole_confines (unheld : Unheld p w) (name : String) (permissions : List String)
    (description : String) :
    Confines p (createRole env actor name permissions description) w := by
  refine confines_bind (ofExcept_uses _) unheld fun _ w unheld => ?_
  refine confines_bind (ofExcept_uses _) unheld fun roleName w unheld => ?_
  refine confines_bind (ofExcept_uses _) unheld fun wanted w unheld => ?_
  refine Prog.Sat.ofExcept_bind (fun _ checked => ?_) fun _ _ => trivial
  have spared := checkGrantable_lacks session lacks checked
  refine confines_bind (ofExcept_uses _) unheld fun _ w unheld => ?_
  refine confines_bind (roleStore_uses trivial) unheld fun existing w unheld => ?_
  refine confines_bind (refuseIf_uses _ _) unheld fun _ w unheld => ?_
  refine confines_bind (ask_uses trivial) unheld fun now w unheld => ?_
  refine confines_store (fun _ _ => spared) fun _ w step => ?_
  exact record_confines (step unheld).1 _ _ _ fun _ _ => trivial

theorem updateRole_confines (unheld : Unheld p w) (name : String) (permissions : List String)
    (description : String) :
    Confines p (updateRole env actor name permissions description) w := by
  refine confines_bind (ofExcept_uses _) unheld fun _ w unheld => ?_
  refine confines_bind (ofExcept_uses _) unheld fun roleName w unheld => ?_
  refine confines_bind (roleStore_uses trivial) unheld fun found w unheld => ?_
  cases found with
  | none => trivial
  | some role =>
      refine confines_bind (refuseIf_uses _ _) unheld fun _ w unheld => ?_
      refine confines_bind (ofExcept_uses _) unheld fun wanted w unheld => ?_
      refine Prog.Sat.ofExcept_bind (fun _ checked => ?_) fun _ _ => trivial
      have spared := checkGrantable_lacks session lacks checked
      refine confines_bind (ofExcept_uses _) unheld fun _ w unheld => ?_
      refine confines_bind (ask_uses trivial) unheld fun now w unheld => ?_
      refine confines_store (fun _ _ => spared) fun _ w step => ?_
      exact record_confines (step unheld).1 _ _ _ fun _ _ => trivial

omit session lacks in
theorem deleteRole_confines (unheld : Unheld p w) (name : String) :
    Confines p (deleteRole env actor name) w := by
  refine confines_bind (ofExcept_uses _) unheld fun _ w unheld => ?_
  refine confines_bind (ofExcept_uses _) unheld fun roleName w unheld => ?_
  refine confines_bind (accountStore_uses trivial) unheld fun _ w unheld => ?_
  refine confines_store (fun _ _ => trivial) fun _ w step => ?_
  exact confines_plain (record_uses (fun _ => Op.modest.plain) (fun _ => trivial) actor _ _ _) (step unheld).1

omit session lacks in
/-- A role that is granted was read, and counts in what the check is shown. -/
theorem grantedBy_sat (names : List String) (granted : Finset Permission) (w : World) :
    (grantedBy env names granted).Sat (machine env).any (Confined p) (fun _ _ => Confined p)
      (fun r t => Confined p w t ∧ ∀ total, r = .ok total → granted ⊆ total ∧
        (Unheld p w → p ∉ total → ∀ name ∈ names, Lacks p t name)) w := by
  induction names generalizing granted w with
  | nil =>
      refine ⟨.refl w, fun total same => ?_⟩
      cases same
      simp
  | cons name names ih =>
      intro s others x a t done _
      have read : exec env (.roles (.get name)) x s = some (a, t) := done
      have step : Confined p s t := exec_confined read trivial
      refine ⟨step, ?_⟩
      obtain ⟨v, rfl, committed⟩ | ⟨⟨e, rfl⟩, -⟩ := onDb_cases read
      · obtain ⟨answer, kept⟩ := RoleOp.get_ok committed
        cases v with
        | none => exact ⟨others.trans step, fun _ impossible => nomatch impossible⟩
        | some role =>
            refine (ih (granted ∪ role.permissions) t).mono fun r u ended => ?_
            obtain ⟨later, counted⟩ := ended
            refine ⟨(others.trans step).trans later, fun total same => ?_⟩
            obtain ⟨included, rest⟩ := counted total same
            refine ⟨Finset.union_subset_left included, fun unheld spared => ?_⟩
            have unheld := ((others.trans step) unheld).1
            have here : Lacks p t name := by
              intro found stored held
              rw [kept] at stored
              rw [stored] at answer
              cases answer
              exact spared (included (Finset.mem_union_right _ held))
            intro other member
            rcases List.mem_cons.mp member with rfl | member
            · exact (later unheld).2 other here
            · exact rest unheld spared other member
      · exact ⟨others.trans step, fun _ impossible => nomatch impossible⟩

theorem setAccountRoles_confines (unheld : Unheld p w) (accountId : String) (names : List String) :
    Confines p (setAccountRoles env actor accountId names) w := by
  refine confines_bind (ofExcept_uses _) unheld fun _ w unheld => ?_
  refine confines_bind (requireAccount_uses (fun _ => Op.modest.plain) accountId) unheld fun account w unheld => ?_
  refine confines_bind (ofExcept_uses _) unheld fun normalized w unheld => ?_
  refine confines_bind (refuseIf_uses _ _) unheld fun _ w unheld => ?_
  refine Prog.Sat.bind (grantedBy_sat _ ∅ w) ?_ fun _ _ _ => trivial
  rintro granted w' ⟨step, counted⟩
  obtain ⟨unheld', -⟩ := step unheld
  refine Prog.Sat.ofExcept_bind (fun _ checked => ?_) fun _ _ => trivial
  have spared := checkGrantable_lacks session lacks checked
  have sound := (counted granted rfl).2 unheld spared
  refine confines_meanwhile (ask_uses trivial) fun now t meanwhile => ?_
  refine confines_store (fun u later name member => ?_) fun _ u later => ?_
  · exact ((meanwhile.trans later) unheld').2 name (sound name member)
  · have unheld := ((meanwhile.trans later) unheld').1
    exact record_confines unheld _ _ _ fun _ _ => trivial

end AdminService

/-! ## Every run -/

/-- The requests that define, drop and assign roles for actors with a session, and
those that read an account and write it back. -/
def Call.regrants : Call → Prop
  | .account (.login _ _ _) | .account (.confirmPassword _ _)
  | .account (.changePassword _ _ _ _) | .account (.redeemPasswordReset _ _ _) => True
  | .admin actor (.createRole _ _ _) | .admin actor (.updateRole _ _ _)
  | .admin actor (.deleteRole _) | .admin actor (.setAccountRoles _ _) =>
      actor.isBreakGlass = false
  | _ => False

/-- What each actor may do was resolved in some state before its request moved. -/
def Snapshots (calls : List Call) (w : World) (tr : List (Event (machine env))) : Prop :=
  ∀ early e late, tr = early ++ e :: late → ∀ actor c, calls[e.thread]? = some (.admin actor c) →
    ∃ s ∈ states (M := machine env) w early, actor.permissions = permissionsHeld s.db actor.accountId

theorem Call.regrants.confines {call : Call} {w : World} (regrants : call.regrants)
    (lacks : ∀ actor c, call = .admin actor c → p ∉ actor.permissions) (unheld : Unheld p w) :
    Confines p (call.prog env) w := by
  cases call with
  | account c =>
      cases c with
      | login email password caller =>
          exact AccountService.attempt_confines (.login email password caller) unheld
      | confirmPassword accountId password =>
          exact AccountService.attempt_confines (.confirm accountId password) unheld
      | changePassword accountId current newPassword keep =>
          exact confines_returning
            (AccountService.changePassword_confines unheld accountId current newPassword keep)
      | redeemPasswordReset token newPassword caller =>
          exact confines_returning
            (AccountService.redeemPasswordReset_confines unheld token newPassword caller)
      | _ => exact regrants.elim
  | admin actor c =>
      have spared := lacks actor c rfl
      cases c with
      | createRole name permissions description =>
          exact confines_returning
            (AdminService.createRole_confines regrants spared unheld name permissions description)
      | updateRole name permissions description =>
          exact confines_returning
            (AdminService.updateRole_confines regrants spared unheld name permissions description)
      | deleteRole name => exact confines_returning (AdminService.deleteRole_confines unheld name)
      | setAccountRoles accountId names =>
          exact confines_returning
            (AdminService.setAccountRoles_confines regrants spared unheld accountId names)
      | _ => exact regrants.elim
  | _ => exact regrants.elim

section Runs

variable {w : World} {calls : List Call} {d : Config (machine env) Error Answer}
  {tr : List (Event (machine env))}

theorem Snapshots.init {e : Event (machine env)} (snapshots : Snapshots calls w (tr ++ [e])) :
    Snapshots calls w tr := by
  intro early e' late split
  exact snapshots early e' (late ++ [e]) (by simp [split])

/-- While nobody holds the permission, no actor has been given it. -/
theorem Snapshots.lacks {e : Event (machine env)} (snapshots : Snapshots calls w (tr ++ [e]))
    (unheld : ∀ s ∈ states w tr, Unheld p s) : ∀ e' ∈ tr ++ [e], ∀ actor c,
      calls[e'.thread]? = some (.admin actor c) → p ∉ actor.permissions := by
  intro e' member actor c found
  obtain ⟨early, late, split⟩ := List.append_of_mem member
  obtain ⟨s, earlier, resolved⟩ := snapshots early e' late split actor c found
  have inside : early <+: tr := by
    rcases List.eq_nil_or_concat late with rfl | ⟨late, last, rfl⟩
    · exact (List.append_inj' split rfl).1 ▸ List.prefix_refl _
    · have whole : tr ++ [e] = (early ++ e' :: late) ++ [last] := by simpa using split
      exact (List.append_inj' whole rfl).1 ▸ List.prefix_append _ _
  rw [resolved]
  obtain ⟨rest, rfl⟩ := inside
  have still : s ∈ states w (early ++ rest) := by
    simp only [states, List.map_append, ← List.cons_append]
    exact List.mem_append_left _ earlier
  exact unheld s still actor.accountId

theorem unheld_of_run (regrants : ∀ call ∈ calls, call.regrants)
    (run : Run (start env w calls) tr d) (snapshots : Snapshots calls w tr) (unheld : Unheld p w) :
    ∀ s ∈ states w tr, Unheld p s := by
  induction run with
  | refl =>
      intro s here
      rw [List.mem_singleton.mp here]
      exact unheld
  | @snoc tr m d e init last ih =>
      have earlier := ih snapshots.init
      have lacks := snapshots.lacks earlier
      have confined : Confined p w d.state := by
        refine ((init.snoc last).sat (E := (machine env).any) (G := fun _ _ => Confined p)
          (Q := fun _ _ _ => True) (T := fun i => ∀ actor c, calls[i]? = some (.admin actor c) →
            p ∉ actor.permissions) Confined.refl (fun _ _ _ => Confined.trans)
          (fun _ _ _ _ _ guar => guar) (fun _ _ _ _ _ _ => trivial) lacks (fun _ _ => trivial)
          ?_).2.1
        intro i lacks prog found
        simp only [start, List.getElem?_map, Option.map_eq_some_iff] at found
        obtain ⟨call, asked, rfl⟩ := found
        refine (regrants call (List.mem_of_getElem? asked)).confines ?_ unheld
        rintro actor c rfl
        exact lacks actor c asked
      intro s member
      simp only [states, List.map_append, ← List.cons_append, List.mem_append, List.map_cons,
        List.map_nil, List.mem_singleton] at member
      rcases member with before | rfl
      · exact earlier s before
      · rw [last.after_eq]
        exact (confined unheld).1

/-- In every run of these requests, whatever an account is ever permitted, some
account was permitted when the run began. -/
theorem permissions_never_grow (regrants : ∀ call ∈ calls, call.regrants)
    (run : Run (start env w calls) tr d) (snapshots : Snapshots calls w tr) :
    ∀ s ∈ states w tr, ∀ accountId, ∀ p ∈ permissionsHeld s.db accountId,
      ∃ holder, p ∈ permissionsHeld w.db holder := by
  intro s member accountId p held
  by_contra nobody
  have unheld : Unheld p w := fun holder holds => nobody ⟨holder, holds⟩
  exact unheld_of_run regrants run snapshots unheld s member accountId held

/-- The actors of a run that begins now are resolved now. -/
theorem Snapshots.of_start (resolved : ∀ actor c, .admin actor c ∈ calls →
    actor.permissions = permissionsHeld w.db actor.accountId) : Snapshots calls w tr :=
  fun _ _ _ _ actor c found =>
    ⟨w, List.mem_cons_self .., resolved actor c (List.mem_of_getElem? found)⟩

end Runs

/-! ## A role is defined and granted -/

namespace Scenario

/-- Bob logs in while a role is defined and given to him. -/
def promotion : List Call :=
  [.account (.login "bob@mail.org" "battery staple" "home"),
    .admin owner (.createRole "helper" ["accounts:read"] "Reads accounts."),
    .admin owner (.setAccountRoles "bob" ["helper"])]

/-- The login reads Bob's account and writes it back once he has the role. -/
def promotionRun : Config (machine deployment) Error Answer × List (Event (machine deployment)) :=
  (start deployment office promotion).play
    (List.replicate 4 (0, given 5 "a") ++ List.replicate 8 (1, given 6 "b") ++
      List.replicate 8 (2, given 7 "c") ++ List.replicate 8 (0, given 8 "d"))

theorem promotion_resolved (actor : Actor) (c : AdminCall) (asked : .admin actor c ∈ promotion) :
    actor.permissions = permissionsHeld office.db actor.accountId := by
  have same : actor = owner := by
    simp only [promotion, List.mem_cons, Call.admin.injEq, reduceCtorEq, List.not_mem_nil,
      false_or, or_false] at asked
    tauto
  rw [same]
  decide +kernel

end Scenario

open Scenario in
theorem permissions_never_grow_promotion :
    Run (start deployment office promotion) promotionRun.2 promotionRun.1 ∧
      ∀ s ∈ states office promotionRun.2, ∀ accountId, ∀ p ∈ permissionsHeld s.db accountId,
        ∃ holder, p ∈ permissionsHeld office.db holder := by
  have run : Run (start deployment office promotion) promotionRun.2 promotionRun.1 :=
    Config.play_run _ _
  exact ⟨run, permissions_never_grow (by simp [promotion, Call.regrants, owner]) run
    (.of_start promotion_resolved)⟩

end Keyring

import Keyring.Accounts.Stored
import Keyring.Interleave.Decision
import Keyring.Scenario

/-!
# Administrative decisions

A committed `setRoles` decides the roles of an account, and the save of a
`set_status` its status.  Every other flow that saves the account writes both
back from the copy it has read.  So a decision stands exactly when each such
save writes what is stored.
-/

set_option autoImplicit false

namespace Keyring

open Interleave Relational

variable {env : Env}

/-- The requests that read an account and write it back, and the two that decide. -/
def Call.isFlow : Call → Prop
  | .account (.login _ _ _) | .account (.confirmPassword _ _)
  | .account (.changePassword _ _ _ _) | .account (.redeemPasswordReset _ _ _)
  | .account (.setStatus _ _) | .admin _ (.setStatus _ _) | .admin _ (.setAccountRoles _ _) => True
  | _ => False

/-- The status that a request is asked to set. -/
def Call.statusSet : Call → Option AccountStatus
  | .account (.setStatus _ status) | .admin _ (.setStatus _ status) => some status
  | _ => none

def rolesDecided (accountId : String) (e : Event (machine env)) : Option (List String) :=
  Op.assigned accountId e.op e.ans

/-- The status that the save of a `set_status` on the account has decided. -/
def statusDecided (calls : List Call) (accountId : String) (e : Event (machine env)) :
    Option (Option AccountStatus) :=
  match Op.saved e.op e.ans with
  | none => none
  | some copy =>
      if copy.accountId = accountId then ((calls[e.thread]?).bind Call.statusSet).map some
      else none

def storedRoles (accountId : String) (w : World) : List String := rolesOf w.db accountId

def storedStatus (accountId : String) (w : World) : Option AccountStatus :=
  (w.db.accounts.find? accountId).map (·.status)

/-- Every save of this account writes back the roles that are stored. -/
def KeepsRoles (accountId : String) (e : Event (machine env)) : Prop :=
  ∀ copy, Op.saved e.op e.ans = some copy → copy.accountId = accountId →
    dictFromKeys copy.roles = storedRoles accountId e.before

/-- Every save of this account, other than that of a `set_status`, writes back
the status that is stored. -/
def KeepsStatus (calls : List Call) (accountId : String) (e : Event (machine env)) : Prop :=
  ∀ copy, Op.saved e.op e.ans = some copy → copy.accountId = accountId →
    statusDecided calls accountId e = none → some copy.status = storedStatus accountId e.before

/-! ## What the requests write -/

/-- No account is added or deleted, and a save that sets a status sets this one. -/
def Op.flows (status : Option AccountStatus) (o : Op) : Prop :=
  o.sparesAccounts ∧ ∀ copy, o = .accounts (.save copy) → ∀ s, status = some s → copy.status = s

theorem Op.plain.flows {o : Op} {status : Option AccountStatus} (plain : o.plain) :
    o.flows status :=
  ⟨plain.sparesAccounts, fun copy same => by subst same; exact plain.elim⟩

theorem Call.isFlow.uses {call : Call} (flow : call.isFlow) :
    (call.prog env).Uses (Op.flows call.statusSet) := by
  have base : ∀ {status} o, Op.plain o → Op.flows status o := fun o plain => plain.flows
  have saves : ∀ copy, Op.flows none (.accounts (.save copy)) := fun copy =>
    ⟨trivial, fun _ _ _ impossible => nomatch impossible⟩
  have saves_status : ∀ {status : AccountStatus} (copy : Account), copy.status = status →
      Op.flows (some status) (.accounts (.save copy)) := fun copy same =>
    ⟨trivial, fun other saved s wanted => by cases saved; cases wanted; exact same⟩
  have assigns : ∀ target names now, Op.flows none (.accounts (.setRoles target names now)) :=
    fun target names now => ⟨trivial, fun _ impossible => nomatch impossible⟩
  cases call with
  | account c =>
      cases c with
      | login email password caller =>
          exact returning_uses (AccountService.login_uses base saves _ _ _)
      | confirmPassword accountId password =>
          exact returning_uses (AccountService.confirmPassword_uses base saves _ _)
      | changePassword accountId current newPassword keep =>
          exact returning_uses (AccountService.changePassword_uses base saves _ _ _ _)
      | redeemPasswordReset token newPassword caller =>
          exact returning_uses (AccountService.redeemPasswordReset_uses base saves _ _ _)
      | setStatus accountId status =>
          exact returning_uses (AccountService.setStatus_uses base saves_status _)
      | _ => exact flow.elim
  | admin actor c =>
      cases c with
      | setStatus accountId status =>
          exact returning_uses (AdminService.setStatus_uses base saves_status _ _)
      | setAccountRoles accountId names =>
          exact returning_uses (AdminService.setAccountRoles_uses base _ _ _ assigns)
      | _ => exact flow.elim
  | _ => exact flow.elim

section Runs

variable {w : World} {calls : List Call} {d : Config (machine env) Error Answer}
  {tr : List (Event (machine env))} {accountId : String}

theorem flows_of_run (flows : ∀ call ∈ calls, call.isFlow) (run : Run (start env w calls) tr d) :
    ∀ e ∈ tr, Op.flows ((calls[e.thread]?).bind Call.statusSet) e.op := by
  intro e member
  have inside := run.thread_lt e member
  simp only [start, List.length_map] at inside
  obtain ⟨q, -, path⟩ := path_of_run run e.thread _ (List.getElem?_eq_getElem inside)
  rw [List.getElem?_eq_getElem inside]
  exact (path.uses (flows _ (List.getElem_mem inside)).uses).1 e (mem_ofThread.mpr ⟨member, rfl⟩)

theorem present_of_run (flows : ∀ call ∈ calls, call.isFlow) (run : Run (start env w calls) tr d)
    (present : (w.db.accounts.find? accountId).isSome) :
    ∀ e ∈ tr, (e.before.db.accounts.find? accountId).isSome := by
  refine run.preserves_before (fun w => (w.db.accounts.find? accountId).isSome) ?_ present
  intro e member before
  obtain ⟨x, done⟩ := exec_of_run run member
  cases exec_written done (flows_of_run flows run e member).1 accountId with
  | saved copy _ _ row _ => rw [row, Option.isSome_map]; exact before
  | assigned names now _ _ row _ => rw [row, Option.isSome_map]; exact before
  | kept _ _ row _ => rw [row]; exact before

/-! ## One event -/

theorem rolesDecided_stored {e : Event (machine env)}
    (written : Written accountId e.op e.ans e.before.db e.after.db) {names : List String}
    (decided : rolesDecided accountId e = some names) : storedRoles accountId e.after = names := by
  cases written with
  | saved copy saved _ _ _ =>
      obtain ⟨i, o, a, s, s'⟩ := e
      cases Op.saved_eq_some saved
      cases decided
  | assigned names' _ _ assigned _ roles =>
      rw [rolesDecided, assigned] at decided
      cases decided
      exact roles
  | kept _ unassigned _ _ =>
      rw [rolesDecided, unassigned] at decided
      cases decided

theorem keepsRoles_iff {e : Event (machine env)}
    (written : Written accountId e.op e.ans e.before.db e.after.db) :
    (rolesDecided accountId e = none → storedRoles accountId e.after = storedRoles accountId e.before) ↔
      KeepsRoles accountId e := by
  cases written with
  | saved copy saved same _ roles =>
      have undecided : rolesDecided accountId e = none := by
        obtain ⟨i, o, a, s, s'⟩ := e
        cases Op.saved_eq_some saved
        rfl
      rw [show storedRoles accountId e.after = dictFromKeys copy.roles from roles]
      constructor
      · intro keeps other saved' _
        rw [saved] at saved'
        cases saved'
        exact keeps undecided
      · exact fun keeps _ => keeps copy saved same
  | assigned names _ unsaved assigned _ _ =>
      refine iff_of_true (fun undecided => ?_) (fun copy saved => ?_)
      · rw [rolesDecided, assigned] at undecided
        cases undecided
      · rw [unsaved] at saved
        cases saved
  | kept unsaved _ _ roles =>
      exact iff_of_true (fun _ => roles) fun copy saved same => absurd same (unsaved copy saved)

theorem statusDecided_some {e : Event (machine env)} {status : Option AccountStatus}
    (decided : statusDecided calls accountId e = some status) :
    ∃ copy s, Op.saved e.op e.ans = some copy ∧ copy.accountId = accountId ∧
      (calls[e.thread]?).bind Call.statusSet = some s ∧ status = some s := by
  unfold statusDecided at decided
  split at decided
  · cases decided
  · rename_i copy saved
    split at decided
    · rename_i same
      obtain ⟨s, wanted, rfl⟩ := Option.map_eq_some_iff.mp decided
      exact ⟨copy, s, saved, same, wanted, rfl⟩
    · cases decided

theorem storedStatus_saved {db db' : Db} {copy : Account} (row : db'.accounts.find? accountId =
      (db.accounts.find? accountId).map (·.overwrite copy))
    (present : (db.accounts.find? accountId).isSome) :
    (db'.accounts.find? accountId).map (·.status) = some copy.status := by
  obtain ⟨stored, found⟩ := Option.isSome_iff_exists.mp present
  rw [row, found]
  rfl

theorem statusDecided_stored {e : Event (machine env)}
    (written : Written accountId e.op e.ans e.before.db e.after.db)
    (flows : Op.flows ((calls[e.thread]?).bind Call.statusSet) e.op)
    (present : (e.before.db.accounts.find? accountId).isSome) {status : Option AccountStatus}
    (decided : statusDecided calls accountId e = some status) :
    storedStatus accountId e.after = status := by
  obtain ⟨copy, s, saved, same, wanted, rfl⟩ := statusDecided_some decided
  cases written with
  | saved copy' saved' _ row _ =>
      rw [saved] at saved'
      cases saved'
      rw [storedStatus, storedStatus_saved row present,
        flows.2 copy (Op.saved_eq_some saved) s wanted]
  | assigned _ _ unsaved _ _ _ =>
      rw [unsaved] at saved
      cases saved
  | kept unsaved _ _ _ => exact absurd same (unsaved copy saved)

theorem keepsStatus_iff {e : Event (machine env)}
    (written : Written accountId e.op e.ans e.before.db e.after.db)
    (present : (e.before.db.accounts.find? accountId).isSome) :
    (statusDecided calls accountId e = none →
        storedStatus accountId e.after = storedStatus accountId e.before) ↔
      KeepsStatus calls accountId e := by
  cases written with
  | saved copy saved same row _ =>
      rw [show storedStatus accountId e.after = some copy.status from
        storedStatus_saved row present]
      constructor
      · intro keeps other saved' _
        rw [saved] at saved'
        cases saved'
        exact keeps
      · exact fun keeps => keeps copy saved same
  | assigned names now unsaved _ row _ =>
      refine iff_of_true (fun _ => ?_) (fun copy saved => ?_)
      · rw [storedStatus, storedStatus, row, Option.map_map]
        rfl
      · rw [unsaved] at saved
        cases saved
  | kept unsaved _ row _ =>
      refine iff_of_true (fun _ => ?_) fun copy saved same => absurd same (unsaved copy saved)
      rw [storedStatus, storedStatus, row]

/-! ## Every run -/

/-- In every run of requests that read an account and write it back, the roles
and the status that were decided stand exactly when every later save of the
account writes back what is stored. -/
theorem decisions_stand_iff (present : (w.db.accounts.find? accountId).isSome)
    (flows : ∀ call ∈ calls, call.isFlow) (run : Run (start env w calls) tr d) :
    (Stands (rolesDecided accountId) (storedRoles accountId) w tr ↔
        AfterDecision (rolesDecided accountId) (KeepsRoles accountId) tr) ∧
      (Stands (statusDecided calls accountId) (storedStatus accountId) w tr ↔
        AfterDecision (statusDecided calls accountId) (KeepsStatus calls accountId) tr) := by
  have written : ∀ e ∈ tr, Written accountId e.op e.ans e.before.db e.after.db := by
    intro e member
    obtain ⟨x, done⟩ := exec_of_run run member
    exact exec_written done (flows_of_run flows run e member).1 accountId
  have there := present_of_run flows run present
  have decides_roles : ∀ e ∈ tr, ∀ names, rolesDecided accountId e = some names →
      storedRoles accountId e.after = names :=
    fun e member names => rolesDecided_stored (written e member)
  have decides_status : ∀ e ∈ tr, ∀ status, statusDecided calls accountId e = some status →
      storedStatus accountId e.after = status :=
    fun e member status => statusDecided_stored (written e member)
      (flows_of_run flows run e member) (there e member)
  constructor
  · exact (run.stands_iff decides_roles).trans
      (AfterDecision.congr fun e member => keepsRoles_iff (written e member))
  · exact (run.stands_iff decides_status).trans
      (AfterDecision.congr fun e member => keepsStatus_iff (written e member) (there e member))

end Runs

/-! ## A login that outlives two decisions -/

namespace Scenario

/-- Bob logs in while he is made an auditor and then disabled. -/
def overtaken : List Call :=
  [.account (.login "bob@mail.org" "battery staple" "home"),
    .admin owner (.setAccountRoles "bob" ["auditor"]),
    .admin owner (.setStatus "bob" .disabled)]

/-- The login reads Bob's account, both requests finish, the login saves its copy. -/
def overtakenRun : Config (machine deployment) Error Answer × List (Event (machine deployment)) :=
  (start deployment office overtaken).play
    (List.replicate 4 (0, given 5 "a") ++ List.replicate 12 (1, given 6 "b") ++
      List.replicate 12 (2, given 7 "c") ++ [(0, given 8 "d")])

end Scenario

open Scenario in
theorem decisions_stand_overtaken :
    (Stands (rolesDecided "bob") (storedRoles "bob") office overtakenRun.2 ↔
        AfterDecision (rolesDecided "bob") (KeepsRoles "bob") overtakenRun.2) ∧
      (Stands (statusDecided overtaken "bob") (storedStatus "bob") office overtakenRun.2 ↔
        AfterDecision (statusDecided overtaken "bob") (KeepsStatus overtaken "bob")
          overtakenRun.2) :=
  decisions_stand_iff (by decide +kernel) (by simp [overtaken, Call.isFlow])
    (Config.play_run (start deployment office overtaken) _)

open Scenario in
/-- A run that undoes both decisions. -/
theorem decisions_undone :
    ¬ Stands (rolesDecided "bob") (storedRoles "bob") office overtakenRun.2 ∧
      ¬ Stands (statusDecided overtaken "bob") (storedStatus "bob") office overtakenRun.2 := by
  constructor
  · intro stands
    have held := stands _ (List.prefix_refl _) ["auditor"] (by decide +kernel)
    revert held
    decide +kernel
  · intro stands
    have held := stands _ (List.prefix_refl _) (some .disabled) (by decide +kernel)
    revert held
    decide +kernel

end Keyring

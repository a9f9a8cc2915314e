import Keyring.Accounts.Stored
import Keyring.Scenario

/-!
# The last owner

`setRoles` and `delete` check, in the transaction that writes, that an owner
survives.  `save` rewrites the roles of an account from a copy and checks
nothing.  So a run keeps an owner exactly when every save that commits would
have passed that check.
-/

set_option autoImplicit false

namespace Keyring

open Interleave Relational

variable {env : Env}

def OwnerHeld (w : World) : Prop :=
  ∃ account ∈ w.db.accounts, OWNER ∈ rolesOf w.db account.accountId

instance : DecidablePred OwnerHeld := fun w =>
  inferInstanceAs
    (Decidable (∃ account ∈ w.db.accounts, OWNER ∈ rolesOf w.db account.accountId))

/-- A save whose transaction would have passed the check of `setRoles`. -/
def OwnerSurvives (o : Op) (a : o.Ans) (db : Db) : Prop :=
  ∀ account, o.saved a = some account →
    checkOwnerSurvives db account.accountId (account.roles.contains OWNER)
      (rolesOf db account.accountId) = .ok ()

/-! ## One transaction -/

def SomeHold (db : Db) : Prop := ∃ accountId, OWNER ∈ rolesOf db accountId

theorem ownerHeld_iff {w : World} (fk : ForeignKeys w.db) : OwnerHeld w ↔ SomeHold w.db := by
  constructor
  · rintro ⟨account, -, holds⟩
    exact ⟨account.accountId, holds⟩
  · rintro ⟨accountId, holds⟩
    obtain ⟨row, stored, rfl, -⟩ := mem_rolesOf.mp holds
    obtain ⟨account, found⟩ := Option.isSome_iff_exists.mp (fk.accountRolesAccount row stored)
    obtain ⟨member, keyed⟩ := Table.find?_eq_some.mp found
    exact ⟨account, member, keyed ▸ holds⟩

theorem someHold_congr {db db' : Db} (same : db'.accountRoles = db.accountRoles) :
    SomeHold db' ↔ SomeHold db := by
  simp only [SomeHold, rolesOf_congr same]

theorem RolesWritten.someHold_iff {db db' : Db} {accountId : String} {roles : List String}
    (written : RolesWritten db accountId roles db') :
    (SomeHold db → SomeHold db') ↔
      checkOwnerSurvives db accountId (roles.contains OWNER) (rolesOf db accountId) = .ok () := by
  rw [checkOwnerSurvives_ok, List.contains_eq_mem, decide_eq_true_eq]
  constructor
  · intro keeps
    by_cases stored : OWNER ∈ rolesOf db accountId
    · obtain ⟨holder, holds⟩ := keeps ⟨accountId, stored⟩
      by_cases same : holder = accountId
      · rw [same, written.held, mem_dictFromKeys] at holds
        exact Or.inl holds
      · rw [written.others holder same] at holds
        exact Or.inr (Or.inr ⟨holder, same, holds⟩)
    · exact Or.inr (Or.inl stored)
  · rintro (kept | without | ⟨other, distinct, holds⟩) ⟨holder, before⟩
    · exact ⟨accountId, by rw [written.held, mem_dictFromKeys]; exact kept⟩
    · have distinct : holder ≠ accountId := fun same => without (same ▸ before)
      exact ⟨holder, by rw [written.others holder distinct]; exact before⟩
    · exact ⟨other, by rw [written.others other distinct]; exact holds⟩

theorem ownerSurvives_of_not_save {o : Op} {a : o.Ans} {db : Db}
    (other : ∀ account, o ≠ .accounts (.save account)) : OwnerSurvives o a db := by
  intro account saved
  cases o with
  | accounts ao =>
      cases ao with
      | save copy => exact absurd rfl (other copy)
      | _ => cases saved
  | _ => cases saved

theorem AccountOp.keeps_owner {text : Text} {o : AccountOp} {db db' : Db} {v : o.Ans}
    (fk : ForeignKeys db) (other : ∀ account, o ≠ .save account)
    (committed : (o.run text).run db = .ok (v, db')) (before : SomeHold db) : SomeHold db' := by
  cases o with
  | save account => exact absurd rfl (other account)
  | setRoles accountId roles now =>
      obtain ⟨current, found, checked, written, -⟩ := AccountOp.setRoles_ok committed
      obtain ⟨-, -, -, -, held⟩ := readAccount_some found
      exact written.someHold_iff.mpr (held ▸ checked) before
  | delete accountId =>
      rcases AccountOp.delete_ok committed with ⟨-, -, rfl⟩ | ⟨-, -, checked, rfl⟩
      · exact before
      · obtain ⟨holder, holds⟩ := before
        rcases checkOwnerSurvives_ok.mp checked with never | without | ⟨other, distinct, holds⟩
        · cases never
        · have distinct : holder ≠ accountId := fun same => without (same ▸ holds)
          exact ⟨holder, by rw [rolesOf_deleteAccount distinct]; exact holds⟩
        · exact ⟨other, by rw [rolesOf_deleteAccount distinct]; exact holds⟩
  | add account =>
      obtain ⟨-, accounts, inserted, written⟩ := AccountOp.add_ok committed
      obtain ⟨holder, holds⟩ := before
      have distinct : holder ≠ account.accountId := by
        rintro rfl
        obtain ⟨row, stored, same, -⟩ := mem_rolesOf.mp holds
        have present := fk.accountRolesAccount row stored
        rw [same, Table.find?_of_insert? inserted] at present
        cases present
      exact ⟨holder, by rw [written.others holder distinct]; exact holds⟩
  | get _ | getByEmail _ | count | listAll | countHolding _ => cases committed; exact before

/-- One step keeps an owner exactly when the save it commits, if it commits
one, would have passed the check. -/
theorem exec_ownerHeld_iff {o : Op} {x : Input} {w w' : World} {a : o.Ans}
    (fk : ForeignKeys w.db) (done : exec env o x w = some (a, w')) :
    (OwnerHeld w → OwnerHeld w') ↔ OwnerSurvives o a w.db := by
  rw [ownerHeld_iff fk, ownerHeld_iff (exec_foreignKeys fk done)]
  by_cases saves : ∃ account, o = .accounts (.save account)
  · obtain ⟨account, rfl⟩ := saves
    rcases onDb_cases done with ⟨v, rfl, committed⟩ | ⟨⟨e, rfl⟩, same⟩
    · have written := AccountOp.save_ok committed
      have unsaved : SomeHold (AccountOp.saved w.db account) ↔ SomeHold w.db :=
        someHold_congr rfl
      rw [← unsaved, written.someHold_iff]
      constructor
      · intro survives copy saved
        cases saved
        exact survives
      · exact fun each => each account rfl
    · refine iff_of_true (by rw [same]; exact id) ?_
      intro copy saved
      cases saved
  · rw [not_exists] at saves
    refine iff_of_true (fun before => ?_) (ownerSurvives_of_not_save saves)
    by_cases writes : ∃ ao, o = .accounts ao
    · obtain ⟨ao, rfl⟩ := writes
      exact onDb_preserves done before fun v db' committed =>
        AccountOp.keeps_owner fk (fun account same => saves account (congrArg Op.accounts same))
          committed before
    · have frame := (exec_touches done).accounts fun ao same => writes ⟨ao, same⟩
      exact (someHold_congr frame.2).mpr before

/-! ## Every run -/

/-- In every run of requests, an owner once held is always held exactly when
every save that commits keeps OWNER in its copy, or writes an account whose
stored roles lack it, or leaves another holder. -/
theorem ownerHeld_onceAlways_iff {w : World} {calls : List Call}
    {d : Config (machine env) Error Answer} {tr : List (Event (machine env))}
    (fk : ForeignKeys w.db) (run : Run (start env w calls) tr d) :
    OnceAlways OwnerHeld w tr ↔ ∀ e ∈ tr, OwnerSurvives e.op e.ans e.before.db := by
  rw [show w = (start env w calls).state from rfl, run.onceAlways_iff]
  refine forall₂_congr fun e member => ?_
  obtain ⟨x, done⟩ := exec_of_run run member
  exact exec_ownerHeld_iff ((run_foreignKeys run fk).2 e member) done

/-! ## A login that outlives a change of owners -/

namespace Scenario

/-- Bob logs in while Alice appoints him owner and steps down herself. -/
def handover : List Call :=
  [.account (.login "bob@mail.org" "battery staple" "home"),
    .admin owner (.setAccountRoles "bob" ["owner"]),
    .admin owner (.setAccountRoles "alice" ["member"])]

/-- The login reads Bob's account, both changes happen, the login saves its copy. -/
def handoverTurns : List (Nat × Input) :=
  List.replicate 4 (0, given 5 "a") ++ List.replicate 12 (1, given 6 "b") ++
    List.replicate 12 (2, given 7 "c") ++ [(0, given 8 "d")]

end Scenario

open Scenario in
theorem ownerHeld_handover_iff :
    OnceAlways OwnerHeld office ((start deployment office handover).play handoverTurns).2 ↔
      ∀ e ∈ ((start deployment office handover).play handoverTurns).2,
        OwnerSurvives e.op e.ans e.before.db :=
  ownerHeld_onceAlways_iff office_foreignKeys (Config.play_run _ _)

open Scenario in
/-- A run after which nobody holds OWNER. -/
theorem ownerHeld_lost :
    ¬ OnceAlways OwnerHeld office ((start deployment office handover).play handoverTurns).2 := by
  intro once
  have held : OwnerHeld office := by decide +kernel
  have final := Run.onceAlways_final OwnerHeld
    (Config.play_run (start deployment office handover) handoverTurns) once held
  revert final
  decide +kernel

end Keyring

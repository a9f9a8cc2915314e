import Keyring.Accounts.Footprint
import Keyring.Runs

/-!
# What one step does to one account

An account is written by the saves of its copies and by the assignments of its
roles.  Every other step leaves its row and its roles as they are, unless it
adds or deletes accounts.
-/

set_option autoImplicit false

namespace Keyring

open Interleave Relational

variable {env : Env}

/-- The copy that a committed `save` has written. -/
def Op.saved : (o : Op) → o.Ans → Option Account
  | .accounts (.save account), .ok () => some account
  | _, _ => none

/-- The roles that a committed `setRoles` has given the account. -/
def Op.assigned (accountId : String) : (o : Op) → o.Ans → Option (List String)
  | .accounts (.setRoles target names _), .ok _ =>
      if target = accountId then some (dictFromKeys names) else none
  | _, _ => none

/-- A step that neither adds nor deletes an account. -/
def Op.sparesAccounts : Op → Prop
  | .accounts (.add _) | .accounts (.delete _) => False
  | _ => True

theorem Op.plain.sparesAccounts {o : Op} (plain : o.plain) : o.sparesAccounts := by
  cases o with
  | accounts o => cases o <;> first | exact plain | trivial
  | _ => trivial

theorem Op.saved_eq_some {o : Op} {a : o.Ans} {copy : Account} (saved : o.saved a = some copy) :
    o = .accounts (.save copy) := by
  unfold Op.saved at saved
  split at saved <;> cases saved
  rfl

theorem rolesOf_deleteAccount {db : Db} {accountId other : String} (distinct : other ≠ accountId) :
    rolesOf (db.deleteAccount accountId) other = rolesOf db other := by
  have kept : ((db.accountRoles.deleteWhere (·.accountId = accountId)).rows.filter
      (·.accountId = other)) = db.accountRoles.rows.filter (·.accountId = other) := by
    rw [Table.deleteWhere, List.filter_filter]
    refine List.filter_congr fun row _ => ?_
    by_cases theirs : row.accountId = other <;> simp [theirs, distinct]
  change ((List.filter _ (db.accountRoles.deleteWhere _).rows).insertionSort _).map _ = _
  rw [kept]
  rfl

section OneStep

variable {o : Op} {x : Input} {w w' : World} {a : o.Ans} {accountId : String}

/-- What a step has done to the row and the roles of one account. -/
inductive Written (accountId : String) (o : Op) (a : o.Ans) (db db' : Db) : Prop where
  | saved (copy : Account) (saved : o.saved a = some copy) (same : copy.accountId = accountId)
      (row : db'.accounts.find? accountId =
        (db.accounts.find? accountId).map (·.overwrite copy))
      (roles : rolesOf db' accountId = dictFromKeys copy.roles)
  | assigned (names : List String) (now : Instant) (unsaved : o.saved a = none)
      (assigned : o.assigned accountId a = some names)
      (row : db'.accounts.find? accountId =
        (db.accounts.find? accountId).map fun row => { row with updatedAt := now })
      (roles : rolesOf db' accountId = names)
  | kept (unsaved : ∀ copy, o.saved a = some copy → copy.accountId ≠ accountId)
      (unassigned : o.assigned accountId a = none)
      (row : db'.accounts.find? accountId = db.accounts.find? accountId)
      (roles : rolesOf db' accountId = rolesOf db accountId)

theorem stamped_find? (db : Db) (target : String) (now : Instant) (accountId : String) :
    (AccountOp.stamped db target now).accounts.find? accountId =
      (db.accounts.find? accountId).map fun row =>
        if accountId = target then { row with updatedAt := now } else row := by
  rw [AccountOp.stamped, Table.find?_updateWhere]
  cases found : db.accounts.find? accountId with
  | none => rfl
  | some row =>
      obtain ⟨-, keyed⟩ := Table.find?_eq_some.mp found
      simp [keyed]

theorem exec_written (done : exec env o x w = some (a, w')) (kept : o.sparesAccounts)
    (accountId : String) : Written accountId o a w.db w'.db := by
  by_cases writes : ∃ ao, o = .accounts ao
  · obtain ⟨ao, rfl⟩ := writes
    rcases onDb_cases done with ⟨v, rfl, committed⟩ | ⟨⟨e, rfl⟩, same⟩
    · cases ao with
      | add account => exact kept.elim
      | delete target => exact kept.elim
      | save copy =>
          have written := AccountOp.save_ok committed
          have accounts := congrArg Db.accounts written.frame
          by_cases same : copy.accountId = accountId
          · refine .saved copy rfl same ?_ ?_
            · rw [accounts]
              change (AccountOp.saved w.db copy).accounts.find? accountId = _
              rw [AccountOp.saved, find?_overwrite]
              simp [same]
            · rw [← same]
              exact written.held
          · refine .kept (fun other saved => ?_) rfl ?_ ?_
            · cases saved
              exact same
            · rw [accounts]
              change (AccountOp.saved w.db copy).accounts.find? accountId = _
              rw [AccountOp.saved, find?_overwrite]
              simp [Ne.symm same]
            · rw [written.others accountId (Ne.symm same)]
              exact rolesOf_congr rfl accountId
      | setRoles target names now =>
          obtain ⟨current, -, -, written, -⟩ := AccountOp.setRoles_ok committed
          have accounts := congrArg Db.accounts written.frame
          by_cases same : target = accountId
          · refine .assigned (dictFromKeys names) now rfl (if_pos same) ?_ ?_
            · rw [accounts]
              change (AccountOp.stamped w.db target now).accounts.find? accountId = _
              rw [stamped_find?]
              simp [same]
            · rw [← same]
              exact written.held
          · refine .kept (fun other saved => by cases saved) (if_neg same) ?_ ?_
            · rw [accounts]
              change (AccountOp.stamped w.db target now).accounts.find? accountId = _
              rw [stamped_find?]
              simp [Ne.symm same]
            · rw [written.others accountId (Ne.symm same)]
              exact rolesOf_congr rfl accountId
      | get _ | getByEmail _ | count | listAll | countHolding _ =>
          have same : w'.db = w.db := (Prod.mk.inj (Except.ok.inj committed)).2.symm
          exact .kept (fun copy saved => by cases saved) rfl (by rw [same]) (by rw [same])
    · refine .kept (fun copy saved => ?_) ?_ (by rw [same]) (by rw [same])
      · cases ao <;> cases saved
      · cases ao <;> rfl
  · obtain ⟨accounts, roles⟩ := (exec_touches done).accounts fun ao same => writes ⟨ao, same⟩
    refine .kept (fun copy saved => ?_) ?_ (by rw [accounts]) (rolesOf_congr roles accountId)
    · cases o with
      | accounts ao => exact absurd ⟨ao, rfl⟩ writes
      | _ => cases saved
    · cases o with
      | accounts ao => exact absurd ⟨ao, rfl⟩ writes
      | _ => rfl

/-- A step that leaves this account alone, and adds or deletes none. -/
def Op.elsewhere (accountId : String) : Op → Prop
  | .accounts (.add _) | .accounts (.delete _) => False
  | .accounts (.save copy) => copy.accountId ≠ accountId
  | .accounts (.setRoles target _ _) => target ≠ accountId
  | _ => True

theorem Op.plain.elsewhere {o : Op} (plain : o.plain) : o.elsewhere accountId := by
  cases o with
  | accounts o => cases o <;> first | exact plain.elim | trivial
  | _ => trivial

theorem Op.elsewhere.sparesAccounts {o : Op} (elsewhere : o.elsewhere accountId) :
    o.sparesAccounts := by
  cases o with
  | accounts o => cases o <;> first | exact elsewhere.elim | trivial
  | _ => trivial

theorem exec_elsewhere (done : exec env o x w = some (a, w')) (elsewhere : o.elsewhere accountId) :
    w'.db.accounts.find? accountId = w.db.accounts.find? accountId ∧
      rolesOf w'.db accountId = rolesOf w.db accountId := by
  cases exec_written done elsewhere.sparesAccounts accountId with
  | saved copy saved same _ _ =>
      cases Op.saved_eq_some saved
      exact absurd same elsewhere
  | assigned names now _ assigned _ _ =>
      unfold Op.assigned at assigned
      split at assigned
      · split at assigned
        · rename_i same
          exact absurd same elsewhere
        · cases assigned
      · cases assigned
  | kept _ _ row roles => exact ⟨row, roles⟩

theorem exec_get (env : Env) (accountId : String) (x : Input) (w : World) :
    exec env (.accounts (.get accountId)) x w = some (.ok (readAccount w.db accountId), w) := rfl

theorem readAccount_row {db : Db} {account : Account}
    (found : readAccount db accountId = some account) :
    db.accounts.find? accountId = some account.toAccountRow := by
  obtain ⟨row, stored, rfl, -, -⟩ := readAccount_some found
  exact stored

end OneStep

/-- Under any interference, a reading answers what was stored when it was made. -/
theorem readAccount_sat {E G : (machine env).Effect} {R K : World → World → Prop}
    (trans : ∀ s t u, K s t → K t u → K s u) (rely : ∀ s t, R s t → K s t) (accountId : String)
    (each : ∀ s x a t, exec env (.accounts (.get accountId)) x s = some (a, t) →
      E (.accounts (.get accountId)) a s t → G (.accounts (.get accountId)) a s t ∧ K s t)
    (s : World) :
    (accountStore (.get accountId) : Service env (Option Account)).Sat E R G (fun r t => K s t ∧
      ∀ found, r = .ok found → found = readAccount t.db accountId) s := by
  intro t' later x a u done known
  have read : exec env (.accounts (.get accountId)) x t' = some (a, u) := done
  obtain ⟨guar, step⟩ := each t' x a u read known
  refine ⟨guar, trans _ _ _ (rely _ _ later) step, ?_⟩
  rintro found rfl
  obtain ⟨v, same, committed⟩ | ⟨⟨e, impossible⟩, -⟩ := onDb_cases read
  · cases same
    obtain ⟨answer, kept⟩ := AccountOp.get_ok committed
    rw [kept]
    exact answer
  · cases impossible

end Keyring

import Keyring.Accounts.Stored
import Keyring.Draws
import Keyring.Scenario
import Keyring.Writes

/-!
# An account that is deleted stays deleted

Seven tables reference an account, directly or through a profile, and the store
refuses a row that references what is not there.  So nothing names an account that
is gone; and it is gone for good, since an account is added under an id that was
drawn for it.
-/

set_option autoImplicit false

namespace Keyring

open Interleave Relational

variable {env : Env}

/-- No row names the account. -/
structure Unnamed (accountId : String) (db : Db) : Prop where
  sessions : ∀ row ∈ db.sessions, row.accountId ≠ accountId
  grants : ∀ row ∈ db.grants, row.accountId ≠ some accountId
  accountRoles : ∀ row ∈ db.accountRoles, row.accountId ≠ accountId
  profiles : ∀ row ∈ db.profiles, row.accountId ≠ accountId
  connections : ∀ row ∈ db.connections, row.accountId ≠ accountId
  offlineGrants : ∀ row ∈ db.offlineGrants, row.accountId ≠ accountId
  secrets : ∀ row ∈ db.secrets, row.accountId ≠ accountId

theorem ForeignKeys.unnamed {db : Db} (fk : ForeignKeys db) {accountId : String}
    (gone : db.accounts.find? accountId = none) : Unnamed accountId db := by
  have direct : ∀ named, (db.accounts.find? named).isSome → named ≠ accountId := by
    intro named present same
    rw [same, gone] at present
    cases present
  have through : ∀ named profile, (db.profiles.find? (named, profile)).isSome →
      named ≠ accountId := by
    intro named profile present
    obtain ⟨row, found⟩ := Option.isSome_iff_exists.mp present
    obtain ⟨stored, keyed⟩ := Table.find?_eq_some.mp found
    have owner : row.accountId = named := congrArg Prod.fst keyed
    rw [← owner]
    exact direct _ (fk.profiles row stored)
  constructor
  · exact fun row stored => direct _ (fk.sessions row stored)
  · exact fun row stored same => direct _ (fk.grants row stored accountId same) rfl
  · exact fun row stored => direct _ (fk.accountRolesAccount row stored)
  · exact fun row stored => direct _ (fk.profiles row stored)
  · exact fun row stored => through _ _ (fk.connections row stored)
  · exact fun row stored => through _ _ (fk.offlineGrants row stored)
  · exact fun row stored => direct _ (fk.secrets row stored)

/-! ## An account is added once -/

/-- The step that adds the account. -/
def adding (accountId : String) : Op → Bool
  | .accounts (.add account) => account.accountId = accountId
  | _ => false

/-- The strings that the id may be made of. -/
def naming (accountId : String) (drawn : String) : Bool := accountIdPrefix ++ drawn = accountId

theorem adding_quiet {accountId : String} {o : Op} (quiet : o.quiet) : adding accountId o = false := by
  unfold adding
  split
  · exact quiet.elim
  · rfl

theorem AccountService.redeemInvite_minds (accountId token password caller : String) (held : Nat) :
    (redeemInvite env token password caller).Minds
      (drawing env (naming accountId) (adding accountId)).purse held := by
  have still : ∀ {α : Type} {p : Service env α},
      p.Uses (fun (o : Op) => adding accountId o = false) → ∀ held,
        p.Minds (drawing env (naming accountId) (adding accountId)).purse held :=
    fun uses held => Tickets.minds_of_uses uses held
  have quiet : ∀ o : Op, o.quiet → adding accountId o = false := fun _ => adding_quiet
  apply Prog.Minds.bind (still (checkLimit_uses (fun o limits => quiet o limits.quiet) _ _ _ _) held)
  intro _ held
  apply Prog.Minds.bind (still (ofExcept_uses _) held)
  intro _ held
  apply Prog.Minds.bind (still (redeem_writes (modest_of_quiet quiet) (fun _ _ => rfl) token _) held)
  intro grant held
  split
  · trivial
  · apply Prog.Minds.bind (still (show (clockNow : Service env Instant).Uses _ from ask_uses rfl) held)
    intro now held
    apply Prog.Minds.bind (still (accountStore_uses rfl) held)
    intro count held
    apply draw_minds rfl
    intro hex
    apply draw_minds rfl
    intro salt
    constructor
    · intro adds
      have kind : naming accountId hex = true := adds
      simp [kind]
    · intro answered
      cases answered with
      | error e => trivial
      | ok u => exact ⟨fun spends => (by cases spends), fun _ => trivial⟩

theorem Call.writes_adds {c : Call} {account : Account}
    (writes : c.writes (.accounts (.add account))) :
    ∃ token password caller, c = .account (.redeemInvite token password caller) := by
  cases c with
  | account c =>
      cases c with
      | redeemInvite token password caller => exact ⟨token, password, caller, rfl⟩
      | _ => exact absurd writes id
  | change c =>
      cases c with
      | storeDirect => rcases writes with sent | stored <;> contradiction
      | removeConnection => rcases writes with sent | stored <;> contradiction
      | removeProfile => rcases writes with sent | stored <;> contradiction
      | _ => exact absurd writes id
  | exchange => exact absurd writes id
  | admin _ c | credential c | delegation c | internal _ _ c => cases c <;> exact absurd writes id

theorem Call.minds_adding (c : Call) (accountId : String) :
    (c.prog env).Minds (drawing env (naming accountId) (adding accountId)).purse 0 := by
  by_cases redeems : ∃ token password caller, c = .account (.redeemInvite token password caller)
  · obtain ⟨token, password, caller, rfl⟩ := redeems
    exact Prog.Minds.bind (AccountService.redeemInvite_minds accountId token password caller 0)
      fun _ _ => trivial
  · apply Tickets.minds_of_uses
    refine c.prog_uses (fun _ quiet => adding_quiet quiet) ?_ fun _ _ _ => rfl
    intro o writes _
    unfold adding
    split
    · exact absurd (Call.writes_adds writes) redeems
    · rfl

/-! ## Where an account comes from -/

theorem exec_present {o : Op} {a : o.Ans} {x : Input} {w w' : World}
    (done : exec env o x w = some (a, w')) {accountId : String}
    (present : (w'.db.accounts.find? accountId).isSome) :
    (w.db.accounts.find? accountId).isSome ∨ adding accountId o = true := by
  by_cases spares : o.sparesAccounts
  · left
    cases exec_written done spares accountId with
    | saved copy _ _ row _ =>
        rw [row, Option.isSome_map] at present
        exact present
    | assigned names now _ _ row _ =>
        rw [row, Option.isSome_map] at present
        exact present
    | kept _ _ row _ =>
        rw [row] at present
        exact present
  · cases o with
    | accounts o =>
        rcases onDb_cases done with ⟨v, -, committed⟩ | ⟨-, same⟩
        · cases o with
          | add account =>
              obtain ⟨-, accounts, inserted, written⟩ := AccountOp.add_ok committed
              have after : w'.db.accounts = accounts := congrArg Db.accounts written.frame
              rw [after, Table.find?_insert? inserted] at present
              by_cases same : account.accountId = accountId
              · exact Or.inr (decide_eq_true same)
              · rw [if_neg same] at present
                exact Or.inl present
          | delete target =>
              rcases AccountOp.delete_ok committed with ⟨-, -, same⟩ | ⟨-, -, -, gone⟩
              · rw [same] at present
                exact Or.inl present
              · left
                rw [gone] at present
                obtain ⟨row, found⟩ := Option.isSome_iff_exists.mp present
                obtain ⟨stored, keyed⟩ := Table.find?_eq_some.mp found
                have before : row ∈ w.db.accounts := (Table.mem_deleteWhere.mp stored).1
                rw [← keyed, Table.find?_self before]
                rfl
          | _ => exact absurd trivial spares
        · rw [same] at present
          exact Or.inl present
    | _ => exact absurd trivial spares

/-! ## After the deletion -/

inductive Deletes (accountId : String) : Event (machine env) → Prop where
  | committed {i : Nat} {s s' : World} :
      Deletes accountId ⟨i, .accounts (.delete accountId), .ok true, s, s'⟩

theorem Deletes.gone {accountId : String} {e : Event (machine env)} {x : Input}
    (deletes : Deletes accountId e) (done : exec env e.op x e.before = some (e.ans, e.after)) :
    (e.before.db.accounts.find? accountId).isSome ∧ e.after.db.accounts.find? accountId = none := by
  obtain ⟨⟩ := deletes
  rename_i i s s'
  have done : exec env (.accounts (.delete accountId)) x s = some (.ok true, s') := done
  rcases onDb_cases done with ⟨v, same, committed⟩ | ⟨⟨_, impossible⟩, -⟩
  · cases same
    rcases AccountOp.delete_ok committed with ⟨impossible, -⟩ | ⟨-, present, -, gone⟩
    · cases impossible
    · refine ⟨present, ?_⟩
      rw [gone, Table.find?_eq_none]
      intro row stored
      have spared := (Table.mem_deleteWhere.mp stored).2
      exact of_decide_eq_false spared
  · cases impossible

section Runs

variable {w : World} {calls : List Call} {d : Config (machine env) Error Answer}
  {early late : List (Event (machine env))} {e : Event (machine env)} {accountId : String}

theorem Deletes.not_added (run : Run (start env w calls) (early ++ e :: late) d)
    (apart : DrawnApart env (early ++ e :: late))
    (undrawn : ∀ x ∈ drawnStrings (early ++ e :: late),
      w.db.accounts.find? (accountIdPrefix ++ x) = none)
    (deletes : Deletes accountId e) : ∀ e' ∈ late, adding accountId e'.op = false := by
  have each : ∀ p ∈ (start env w calls).pool,
      p.Minds (drawing env (naming accountId) (adding accountId)).purse 0 := by
    intro p member
    obtain ⟨c, -, rfl⟩ := List.mem_map.mp member
    exact c.minds_adding accountId
  have single : ∀ x y, naming accountId x = true → naming accountId y = true →
      env.hashToken x = env.hashToken y := by
    intro x y left right
    have both := (of_decide_eq_true left).trans (of_decide_eq_true right).symm
    rw [String.append_right_inj] at both
    rw [both]
  obtain ⟨x, done⟩ := run.exec_eq e (by simp)
  obtain ⟨m, first, here⟩ := run.before_of_split
  -- the account was there at first, or a step before its deletion has added it
  have origin := first.last_of (P := fun s : World => (s.db.accounts.find? accountId).isSome)
    (Q := fun e' => adding accountId e'.op = true) (T := fun _ => True)
    (by
      intro e' member present
      obtain ⟨y, done'⟩ := first.exec_eq e' member
      rcases exec_present done' present with before | adds
      · exact Or.inl ⟨before, trivial⟩
      · exact Or.inr adds)
    (by
      rw [here]
      exact (deletes.gone done).1)
  intro e' member
  rw [← Bool.not_eq_true]
  intro adds
  rcases origin with ⟨present, -⟩ | ⟨one, e₀, two, rfl, adds₀, -⟩
  · obtain ⟨y, inside, kind⟩ := drawn_of_given run each (e := e') (by simp [member]) adds
    have free := undrawn y inside
    rw [of_decide_eq_true kind] at free
    have present : (w.db.accounts.find? accountId).isSome := present
    rw [free] at present
    cases present
  · have split : (one ++ e₀ :: two) ++ e :: late = one ++ e₀ :: (two ++ e :: late) := by simp
    rw [split] at run apart
    have others := Tickets.spent_once run each (apart.once (adding accountId) single) adds₀
    have unspent := others e' (by simp [member])
    change adding accountId e'.op = false at unspent
    rw [adds] at unspent
    cases unspent

/-- In every run, from the moment the deletion of an account commits the account is
gone and no row names it. -/
theorem deletion_final (run : Run (start env w calls) (early ++ e :: late) d)
    (fk : ForeignKeys w.db) (apart : DrawnApart env (early ++ e :: late))
    (undrawn : ∀ x ∈ drawnStrings (early ++ e :: late),
      w.db.accounts.find? (accountIdPrefix ++ x) = none)
    (deletes : Deletes accountId e) :
    ∀ s ∈ states e.after late, s.db.accounts.find? accountId = none ∧ Unnamed accountId s.db := by
  have added := deletes.not_added run apart undrawn
  have held := states_foreignKeys run fk
  have split : early ++ e :: late = (early ++ [e]) ++ late := by simp
  have whole := run
  rw [split] at run
  obtain ⟨m, first, rest⟩ := run.split
  obtain ⟨n, -, last⟩ := first.snoc_inv
  obtain ⟨x, done⟩ := whole.exec_eq e (by simp)
  have gone : ∀ s ∈ states m.state late, s.db.accounts.find? accountId = none := by
    apply rest.always fun s : World => s.db.accounts.find? accountId = none
    · rw [← last.after_eq]
      exact (deletes.gone done).2
    · rintro mid e' after rfl before
      obtain ⟨y, done'⟩ := rest.exec_eq e' (by simp)
      rw [← Option.not_isSome_iff_eq_none]
      intro present
      rcases exec_present done' present with there | adds
      · rw [before e' (by simp)] at there
        cases there
      · rw [added e' (by simp)] at adds
        cases adds
  intro s member
  have inside : s ∈ states w (early ++ e :: late) := by
    simp only [states, List.map_append, List.map_cons, List.mem_cons, List.mem_append] at member ⊢
    tauto
  have absent : s.db.accounts.find? accountId = none := by
    apply gone
    rw [← last.after_eq]
    exact member
  exact ⟨absent, (held s inside).unnamed absent⟩

end Runs

/-! ## A login that the deletion overtakes -/

namespace Scenario

def deletedLoginCalls : List Call :=
  [.account (.login "bob@mail.org" "battery staple" "here"), .account (.deleteAccount "bob")]

/-- Bob's account is deleted when all that his login has still to do is to store the
session. -/
def deletedLoginRun : Config (machine deployment) Error Answer × List (Event (machine deployment)) :=
  (start deployment office deletedLoginCalls).play
    (["d0", "d1", "d2", "d3", "d4", "d5", "d6", "d7", "d8"].map (0, given 1 ·) ++
      [(1, given 2 ""), (0, given 3 "")])

def deletesBob : Event (machine deployment) → Bool
  | ⟨_, .accounts (.delete accountId), .ok true, _, _⟩ => accountId = "bob"
  | _ => false

theorem deletesBob_deletes {e : Event (machine deployment)} (deletes : deletesBob e = true) :
    Deletes "bob" e := by
  unfold deletesBob at deletes
  split at deletes
  · cases of_decide_eq_true deletes
    exact .committed
  · cases deletes

end Scenario

open Scenario in
theorem deletion_final_overtaken :
    ∃ early e late, deletedLoginRun.2 = early ++ e :: late ∧ late ≠ [] ∧ Deletes "bob" e ∧
      ∀ s ∈ states e.after late, s.db.accounts.find? "bob" = none ∧ Unnamed "bob" s.db := by
  have long : deletedLoginRun.2.length = 11 := by decide +kernel
  have split : deletedLoginRun.2 =
      deletedLoginRun.2.take 9 ++ deletedLoginRun.2[9] :: deletedLoginRun.2.drop 10 := by
    rw [List.getElem_cons_drop, List.take_append_drop]
  have run : Run (start deployment office deletedLoginCalls) deletedLoginRun.2 deletedLoginRun.1 :=
    Config.play_run _ _
  have apart : DrawnApart deployment deletedLoginRun.2 := by
    unfold DrawnApart
    decide +kernel
  have undrawn : ∀ x ∈ drawnStrings deletedLoginRun.2,
      office.db.accounts.find? (accountIdPrefix ++ x) = none := by decide +kernel
  have tested : deletedLoginRun.2[9]?.any deletesBob = true := by decide +kernel
  rw [List.getElem?_eq_getElem (by omega)] at tested
  have deletes : Deletes "bob" deletedLoginRun.2[9] := deletesBob_deletes tested
  refine ⟨_, _, _, split, ?_, deletes, ?_⟩
  · intro nothing
    have short := congrArg List.length nothing
    rw [List.length_drop, long] at short
    cases short
  · rw [split] at run apart undrawn
    exact deletion_final run office_foreignKeys apart undrawn deletes

end Keyring

import Keyring.Calls
import Keyring.Profiles.SqlStoreSpec

/-!
# What one step of a run does

Each event of a run is a transaction that committed or left the database as it
was, or a step that touches no row at all.  The tables of the accounts are
written by the account store only, and the declared references hold in every
state of a run that starts with them.
-/

set_option autoImplicit false

namespace Keyring

open Interleave Relational

variable {env : Env} {w w' : World} {x : Input}

theorem onDb_cases {α : Type} {work : Transaction α} {a : Except Error α}
    (done : onDb work w = some (a, w')) :
    (∃ v, a = .ok v ∧ work.run w.db = .ok (v, w'.db)) ∨ ((∃ e, a = .error e) ∧ w'.db = w.db) := by
  obtain ⟨done, -⟩ := onDb_eq.mp done
  cases a with
  | ok v => exact Or.inl ⟨v, rfl, transact_ok.mp done⟩
  | error e => exact Or.inr ⟨⟨e, rfl⟩, (transact_error.mp done).2⟩

/-- A transaction that keeps `P` whenever it commits keeps it. -/
theorem onDb_preserves {α : Type} {work : Transaction α} {a : Except Error α} {P : Db → Prop}
    (done : onDb work w = some (a, w')) (start : P w.db)
    (keeps : ∀ v db', work.run w.db = .ok (v, db') → P db') : P w'.db := by
  rcases onDb_cases done with ⟨v, -, committed⟩ | ⟨-, same⟩
  · exact keeps v _ committed
  · rwa [same]

/-! ## References -/

theorem exec_foreignKeys {o : Op} {a : o.Ans} (fk : ForeignKeys w.db)
    (done : exec env o x w = some (a, w')) : ForeignKeys w'.db := by
  cases o with
  | accounts o => exact onDb_preserves done fk fun v db' => AccountOp.foreignKeys o fk
  | sessions o => exact onDb_preserves done fk fun v db' => SessionOp.foreignKeys o fk
  | grants o => exact onDb_preserves done fk fun v db' => GrantOp.foreignKeys o fk
  | roles o => exact onDb_preserves done fk fun v db' => RoleOp.foreignKeys o fk
  | profiles o => exact onDb_preserves done fk fun v db' => ProfileOp.foreignKeys o fk
  | secrets o => exact onDb_preserves done fk fun v db' => SecretOp.foreignKeys o fk
  | delegations o => exact onDb_preserves done fk fun v db' => DelegationOp.foreignKeys o fk
  | audit o => exact onDb_preserves done fk fun v db' => AuditOp.foreignKeys o fk
  | acquire key =>
      rw [exec] at done
      split at done <;> cases done
      exact fk
  | _ => cases done; exact fk

theorem run_foreignKeys {c d : Config (machine env) Error Answer}
    {tr : List (Event (machine env))} (run : Run c tr d) (fk : ForeignKeys c.state.db) :
    ForeignKeys d.state.db ∧ ∀ e ∈ tr, ForeignKeys e.before.db := by
  induction run with
  | refl => exact ⟨fk, by simp⟩
  | @snoc tr m _ e init last ih =>
      obtain ⟨here, before⟩ := ih
      refine ⟨?_, fun e' member => ?_⟩
      · obtain ⟨x, done⟩ := last.exec_eq
        rw [last.before_eq, last.after_eq] at done
        exact exec_foreignKeys here done
      · rcases List.mem_append.mp member with earlier | newest
        · exact before e' earlier
        · rw [List.mem_singleton.mp newest, last.before_eq]
          exact here

theorem states_foreignKeys {c d : Config (machine env) Error Answer}
    {tr : List (Event (machine env))} (run : Run c tr d) (fk : ForeignKeys c.state.db) :
    ∀ s ∈ states c.state tr, ForeignKeys s.db := by
  apply run.always (fun s : World => ForeignKeys s.db) fk
  intro early e late split before
  obtain ⟨x, done⟩ := run.exec_eq e (by simp [split])
  exact exec_foreignKeys (before e (by simp)) done

/-! ## Which tables a step touches -/

theorem AccountOp.frame {text : Text} {db db' : Db} {o : AccountOp} {a : o.Ans}
    (kept : ∀ accountId, o ≠ .delete accountId)
    (committed : (o.run text).run db = .ok (a, db')) :
    db' = { db with accounts := db'.accounts, accountRoles := db'.accountRoles } := by
  cases o with
  | add account =>
      obtain ⟨-, accounts, -, written⟩ := AccountOp.add_ok committed
      rw [written.frame]
  | get accountId => rw [(AccountOp.get_ok committed).2]
  | getByEmail email => rw [(AccountOp.getByEmail_ok committed).2]
  | save account => rw [(AccountOp.save_ok committed).frame]; rfl
  | delete accountId => exact absurd rfl (kept accountId)
  | count => rw [(AccountOp.count_ok committed).2]
  | listAll => rw [AccountOp.listAll_ok committed]
  | countHolding role => rw [AccountOp.countHolding_ok committed]
  | setRoles accountId roles now =>
      obtain ⟨current, -, -, written, -⟩ := AccountOp.setRoles_ok committed
      rw [written.frame]
      rfl

/-- The tables an operation may change; every other one it leaves alone. -/
def Touches : Op → Db → Db → Prop
  | .accounts (.delete accountId), db, db' => db' = db ∨ db' = db.deleteAccount accountId
  | .accounts _, db, db' =>
      db' = { db with accounts := db'.accounts, accountRoles := db'.accountRoles }
  | .sessions _, db, db' => db' = { db with sessions := db'.sessions }
  | .grants _, db, db' => db' = { db with grants := db'.grants }
  | .roles _, db, db' => db' = { db with roles := db'.roles }
  | .profiles _, db, db' =>
      db' = { db with
        profiles := db'.profiles
        connections := db'.connections
        offlineGrants := db'.offlineGrants }
  | .secrets _, db, db' => db' = { db with secrets := db'.secrets }
  | .delegations _, db, db' => db' = { db with offlineGrants := db'.offlineGrants }
  | .audit _, db, db' => db' = { db with audit := db'.audit, auditSequence := db'.auditSequence }
  | _, db, db' => db' = db

theorem exec_touches {o : Op} {a : o.Ans} (done : exec env o x w = some (a, w')) :
    Touches o w.db w'.db := by
  cases o with
  | accounts o =>
      cases o with
      | delete accountId =>
          exact onDb_preserves (P := Touches (.accounts (.delete accountId)) w.db) done
            (Or.inl rfl) fun v db' committed => by
              rcases AccountOp.delete_ok committed with ⟨-, -, same⟩ | ⟨-, -, -, gone⟩
              · exact Or.inl same
              · exact Or.inr gone
      | _ =>
          exact onDb_preserves done rfl fun v db' committed =>
            AccountOp.frame (fun _ => AccountOp.noConfusion) committed
  | sessions o =>
      exact onDb_preserves (P := Touches (.sessions o) w.db) done rfl
        fun v db' committed => (SessionOp.frame committed).1
  | grants o =>
      exact onDb_preserves (P := Touches (.grants o) w.db) done rfl
        fun v db' committed => (GrantOp.frame committed).1
  | roles o =>
      exact onDb_preserves (P := Touches (.roles o) w.db) done rfl
        fun v db' committed => RoleOp.frame committed
  | profiles o =>
      exact onDb_preserves (P := Touches (.profiles o) w.db) done rfl
        fun v db' committed => ProfileOp.frame committed
  | secrets o =>
      exact onDb_preserves (P := Touches (.secrets o) w.db) done rfl
        fun v db' committed => SecretOp.frame committed
  | delegations o =>
      exact onDb_preserves (P := Touches (.delegations o) w.db) done rfl
        fun v db' committed => (DelegationOp.frame committed).1
  | audit o =>
      exact onDb_preserves (P := Touches (.audit o) w.db) done rfl
        fun v db' committed => AuditOp.frame committed
  | acquire key =>
      rw [exec] at done
      split at done <;> cases done
      rfl
  | _ => cases done; rfl

section Touches

variable {db db' : Db} {o : Op}

theorem Touches.accounts (touches : Touches o db db') (other : ∀ ao, o ≠ .accounts ao) :
    db'.accounts = db.accounts ∧ db'.accountRoles = db.accountRoles := by
  cases o with
  | accounts o => exact absurd rfl (other o)
  | _ =>
      have accounts := congrArg Db.accounts touches
      have accountRoles := congrArg Db.accountRoles touches
      exact ⟨accounts, accountRoles⟩

theorem Touches.roles (touches : Touches o db db') (other : ∀ ro, o ≠ .roles ro) :
    db'.roles = db.roles := by
  cases o with
  | accounts o =>
      cases o with
      | delete accountId =>
          rcases touches with same | gone
          · rw [same]
          · rw [gone]
            rfl
      | _ =>
          have field := congrArg Db.roles touches
          exact field
  | roles o => exact absurd rfl (other o)
  | _ =>
      have field := congrArg Db.roles touches
      exact field

/-- Sessions are written by their own store, and go with an account. -/
theorem Touches.sessions (touches : Touches o db db') (other : ∀ so, o ≠ .sessions so) :
    db'.sessions = db.sessions ∨ ∃ accountId, db' = db.deleteAccount accountId := by
  cases o with
  | sessions o => exact absurd rfl (other o)
  | accounts o =>
      cases o with
      | delete accountId =>
          rcases touches with same | gone
          · exact Or.inl (by rw [same])
          · exact Or.inr ⟨accountId, gone⟩
      | _ =>
          have field := congrArg Db.sessions touches
          exact Or.inl field
  | _ =>
      have field := congrArg Db.sessions touches
      exact Or.inl field

theorem Touches.profiles (touches : Touches o db db') (other : ∀ po, o ≠ .profiles po) :
    (db'.profiles = db.profiles ∧ db'.connections = db.connections) ∨
      ∃ accountId, db' = db.deleteAccount accountId := by
  cases o with
  | profiles o => exact absurd rfl (other o)
  | accounts o =>
      cases o with
      | delete accountId =>
          rcases touches with same | gone
          · exact Or.inl ⟨by rw [same], by rw [same]⟩
          · exact Or.inr ⟨accountId, gone⟩
      | _ =>
          have profiles := congrArg Db.profiles touches
          have connections := congrArg Db.connections touches
          exact Or.inl ⟨profiles, connections⟩
  | _ =>
      have profiles := congrArg Db.profiles touches
      have connections := congrArg Db.connections touches
      exact Or.inl ⟨profiles, connections⟩

theorem Touches.offlineGrants (touches : Touches o db db') (kept : ∀ po, o ≠ .profiles po)
    (other : ∀ go, o ≠ .delegations go) :
    db'.offlineGrants = db.offlineGrants ∨ ∃ accountId, db' = db.deleteAccount accountId := by
  cases o with
  | profiles o => exact absurd rfl (kept o)
  | delegations o => exact absurd rfl (other o)
  | accounts o =>
      cases o with
      | delete accountId =>
          rcases touches with same | gone
          · exact Or.inl (by rw [same])
          · exact Or.inr ⟨accountId, gone⟩
      | _ =>
          have field := congrArg Db.offlineGrants touches
          exact Or.inl field
  | _ =>
      have field := congrArg Db.offlineGrants touches
      exact Or.inl field

end Touches

end Keyring

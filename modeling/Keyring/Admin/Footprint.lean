import Keyring.Accounts.Stored

/-!
# What the administrative requests do, step by step

The readings that an administrative request begins with change no row, and what
it has learned from them is what was stored.  What follows touches only the
account it is about.
-/

set_option autoImplicit false

namespace Keyring

open Interleave Relational

variable {env : Env} {α β : Type}

/-! ## Steps that change no row -/

theorem exec_idle {o : Op} {x : Input} {w w' : World} {a : o.Ans}
    (done : exec env o x w = some (a, w')) (idle : o.idle) : w'.db = w.db := by
  cases o with
  | accounts o => cases o <;> first | exact idle.elim | cases done; rfl
  | sessions o => cases o <;> first | exact idle.elim | cases done; rfl
  | grants o => cases o <;> first | exact idle.elim | cases done; rfl
  | roles o => cases o <;> first | exact idle.elim | cases done; rfl
  | profiles o => cases o <;> first | exact idle.elim | cases done; rfl
  | secrets o => cases o <;> first | exact idle.elim | cases done; rfl
  | delegations o => cases o <;> first | exact idle.elim | cases done; rfl
  | audit o => cases o <;> first | exact idle.elim | cases done; rfl
  | acquire key =>
      rw [exec] at done
      split at done <;> cases done
      rfl
  | _ => cases done; rfl

theorem idle_exec {p : Service env α} {w w' : World} {r : Except Error α} (exec : Exec p w r w')
    (uses : p.Uses Op.idle) : w'.db = w.db := by
  refine exec.preserves uses (fun t => t.db = w.db) (fun o idle x s a t done before => ?_) rfl
  rw [exec_idle done idle, before]

/-- What comes after a part that changes no row. -/
theorem idle_bind_exec {p : Service env α} {f : α → Service env β} {w w' : World}
    {r : Except Error β} (exec : Exec (p >>= f) w r w') (uses : p.Uses Op.idle) :
    w'.db = w.db ∨ ∃ a t, Exec p w (.ok a) t ∧ t.db = w.db ∧ Exec (f a) t r w' := by
  rcases exec.bind_inv with ⟨e, failed, -⟩ | ⟨a, t, first, rest⟩
  · exact Or.inl (idle_exec failed uses)
  · exact Or.inr ⟨a, t, first, idle_exec first uses, rest⟩

/-- A store call that was executed alone has committed, or left every row alone. -/
theorem store_bind_exec {o : Op} {result : o.Ans → Except Error α} {f : α → Service env β}
    {w w' : World} {r : Except Error β}
    (exec : Exec ((.call o fun a => .done (result a) : Service env α) >>= f) w r w') :
    ∃ x a t, Keyring.exec env o x w = some (a, t) ∧
      ((∃ e, result a = .error e ∧ w' = t) ∨ ∃ v, result a = .ok v ∧ Exec (f v) t r w') := by
  obtain ⟨x, a, t, done, rest⟩ := exec.call_inv
  refine ⟨x, a, t, done, ?_⟩
  have rest : Exec ((.done (result a) : Service env α) >>= f) t r w' := rest
  cases answered : result a with
  | ok v =>
      rw [answered] at rest
      exact Or.inr ⟨v, rfl, rest⟩
  | error e =>
      rw [answered] at rest
      obtain ⟨-, same⟩ := rest.done_inv
      exact Or.inl ⟨e, rfl, same⟩

theorem readAccount_exec {accountId : String} {f : Option Account → Service env β} {w w' : World}
    {r : Except Error β} (exec : Exec (accountStore (.get accountId) >>= f) w r w') :
    Exec (f (readAccount w.db accountId)) w r w' := by
  obtain ⟨x, a, t, done, rest⟩ := exec.call_inv
  have done : Keyring.exec env (.accounts (.get accountId)) x w = some (a, t) := done
  rw [exec_get] at done
  cases done
  exact rest

theorem findRole_exec {name : String} {f : Option Role → Service env β} {w w' : World}
    {r : Except Error β} (exec : Exec (roleStore (.get name) >>= f) w r w') :
    Exec (f (w.db.roles.find? name)) w r w' := by
  obtain ⟨x, a, t, done, rest⟩ := exec.call_inv
  cases done
  exact rest

theorem resolve_exec {names : List String} {f : Finset Permission → Service env β} {w w' : World}
    {r : Except Error β} (exec : Exec (roleStore (.resolve names) >>= f) w r w') :
    Exec (f (resolveRoles w.db names)) w r w' := by
  obtain ⟨x, a, t, done, rest⟩ := exec.call_inv
  cases done
  exact rest

theorem clockNow_exec {f : Instant → Service env β} {w w' : World} {r : Except Error β}
    (exec : Exec (clockNow >>= f) w r w') : ∃ now t, t.db = w.db ∧ Exec (f now) t r w' := by
  obtain ⟨x, now, t, done, rest⟩ := exec.call_inv
  cases done
  exact ⟨x.now, { w with clock := x.now }, rfl, rest⟩

theorem refuseIf_exec {c : Prop} [Decidable c] {e : Error} {f : Unit → Service env β} {w w' : World}
    {r : Except Error β} (exec : Exec (refuseIf c e >>= f) w r w') :
    w' = w ∨ ¬c ∧ Exec (f ()) w r w' := by
  rw [refuseIf_bind] at exec
  split at exec
  · exact Or.inl exec.done_inv.2
  · rename_i passed
    exact Or.inr ⟨passed, exec⟩

theorem ofExcept_exec {checked : Except Error α} {f : α → Service env β} {w w' : World}
    {r : Except Error β} (exec : Exec (Prog.ofExcept checked >>= f) w r w') :
    w' = w ∨ ∃ a, checked = .ok a ∧ Exec (f a) w r w' := by
  cases checked with
  | ok a => exact Or.inr ⟨a, rfl, exec⟩
  | error e => exact Or.inl exec.done_inv.2

/-! ## The guard -/

namespace AdminService

variable {actor : Actor} {w w' : World} {r : Except Error β}

theorem requireAccount_exec {accountId : String} {f : Account → Service env β}
    (exec : Exec (requireAccount env accountId >>= f) w r w') :
    w' = w ∨ ∃ account, readAccount w.db accountId = some account ∧ Exec (f account) w r w' := by
  rw [requireAccount, bind_assoc] at exec
  have exec := readAccount_exec exec
  cases found : readAccount w.db accountId with
  | none =>
      rw [found] at exec
      exact Or.inl exec.done_inv.2
  | some account =>
      rw [found] at exec
      exact Or.inr ⟨account, rfl, exec⟩

theorem checkCanActOn_exec {target : Account} {f : Unit → Service env β}
    (session : actor.isBreakGlass = false)
    (exec : Exec (checkCanActOn env actor target >>= f) w r w') :
    w' = w ∨ ((target.accountId = actor.accountId ∨
      resolveRoles w.db target.roles ⊆ actor.permissions) ∧ Exec (f ()) w r w') := by
  rw [checkCanActOn, session, Bool.false_or] at exec
  split at exec
  · rename_i own
    exact Or.inr ⟨Or.inl (by simpa using own), exec⟩
  · rw [bind_assoc] at exec
    have checked : Exec (refuseIf (resolveRoles w.db target.roles \ actor.permissions).Nonempty
        (.insufficientPermission
          (s!"you cannot act on an account that holds permissions you do not: " ++
            joinComma (sortedNames (resolveRoles w.db target.roles \ actor.permissions)))) >>= f)
        w r w' := by
      split at exec
      · rename_i none_held
        rw [List.isEmpty_iff.mp none_held, resolveRoles_nil]
        exact exec
      · exact resolve_exec exec
    rcases refuseIf_exec checked with refused | ⟨bounded, rest⟩
    · exact Or.inl refused
    · rw [Finset.sdiff_nonempty, not_not] at bounded
      exact Or.inr ⟨Or.inr bounded, rest⟩

end AdminService

end Keyring

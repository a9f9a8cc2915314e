import Keyring.World

/-!
# Reasoning about one store call

What a program does that begins with one step of the service: the operations it
uses, and the events it leaves behind.
-/

set_option autoImplicit false

namespace Keyring

open Interleave

variable {env : Env} {α β : Type}

/-! ## Each call is one step -/

section OneStep

variable (env)

theorem ask_eq (o : Op) : (ask o : Service env o.Ans) = .call o fun a => .done (.ok a) := rfl

theorem accountStore_eq (o : AccountOp) :
    (accountStore o : Service env o.Ans) = .call (Op.accounts o) .done := rfl

theorem profileStore_eq (o : ProfileOp) :
    (profileStore o : Service env o.Ans) = .call (Op.profiles o) .done := rfl

theorem secretStore_eq (o : SecretOp) :
    (secretStore o : Service env o.Ans) = .call (Op.secrets o) .done := rfl

end OneStep

@[simp] theorem refuseIf_bind (c : Prop) [Decidable c] (e : Error) (f : Unit → Service env β) :
    refuseIf c e >>= f = if c then .done (.error e) else f () := by
  rw [refuseIf]
  split <;> rfl

/-! ## The operations a call uses -/

section Uses

variable {allowed : Op → Prop}

theorem ask_uses {o : Op} (ok : allowed o) : (ask o : Service env o.Ans).Uses allowed :=
  Prog.Uses.perform ok

theorem ofExcept_uses (r : Except Error α) : (Prog.ofExcept r : Service env α).Uses allowed :=
  trivial

theorem refuseIf_uses (c : Prop) [Decidable c] (e : Error) :
    (refuseIf c e : Service env Unit).Uses allowed := by
  rw [refuseIf]
  split <;> trivial

theorem accountStore_uses {o : AccountOp} (ok : allowed (.accounts o)) :
    (accountStore o : Service env o.Ans).Uses allowed := ⟨ok, fun _ => trivial⟩

theorem sessionStore_uses {o : SessionOp} (ok : allowed (.sessions o)) :
    (sessionStore o : Service env o.Ans).Uses allowed := ⟨ok, fun _ => trivial⟩

theorem grantStore_uses {o : GrantOp} (ok : allowed (.grants o)) :
    (grantStore o : Service env o.Ans).Uses allowed := ⟨ok, fun _ => trivial⟩

theorem roleStore_uses {o : RoleOp} (ok : allowed (.roles o)) :
    (roleStore o : Service env o.Ans).Uses allowed := ⟨ok, fun _ => trivial⟩

theorem profileStore_uses {o : ProfileOp} (ok : allowed (.profiles o)) :
    (profileStore o : Service env o.Ans).Uses allowed := ⟨ok, fun _ => trivial⟩

theorem secretStore_uses {o : SecretOp} (ok : allowed (.secrets o)) :
    (secretStore o : Service env o.Ans).Uses allowed := ⟨ok, fun _ => trivial⟩

theorem auditLog_uses {o : AuditOp} (ok : allowed (.audit o)) :
    (auditLog o : Service env o.Ans).Uses allowed := ⟨ok, fun _ => trivial⟩

theorem preferencesFor_uses {accountId : String} (ok : allowed (.preferences accountId)) :
    (preferencesFor accountId : Service env Preferences).Uses allowed := by
  refine Prog.Uses.bind (ask_uses ok) fun answered => ?_
  cases answered <;> trivial

end Uses

/-! ## The events a call leaves -/

section Paths

variable {es : List (Event (machine env))} {q : Service env β}

/-- A program that goes on with an outcome. -/
theorem done_bind_inv {r : Except Error α} {f : α → Service env β}
    (path : Path (.done r >>= f) es q) :
    (∃ e, r = .error e ∧ es = [] ∧ q = .done (.error e)) ∨ ∃ a, r = .ok a ∧ Path (f a) es q := by
  cases r with
  | ok a => exact Or.inr ⟨a, rfl, path⟩
  | error e =>
      obtain ⟨rfl, rfl⟩ := path.done_inv
      exact Or.inl ⟨e, rfl, rfl, rfl⟩

/-- A program that begins with a store call is still before it, or has ended with
what the store raised, or goes on with its answer. -/
def StoreInv (o : Op) (result : o.Ans → Except Error α) (f : α → Service env β)
    (es : List (Event (machine env))) (q : Service env β) : Prop :=
  (es = [] ∧ q = (.call o fun a => .done (result a) : Service env α) >>= f) ∨
    ∃ i a s s' rest, es = ⟨i, o, a, s, s'⟩ :: rest ∧
      ((∃ e, result a = .error e ∧ rest = [] ∧ q = .done (.error e)) ∨
        ∃ v, result a = .ok v ∧ Path (f v) rest q)

theorem store_bind_inv {o : Op} {result : o.Ans → Except Error α} {f : α → Service env β}
    (path : Path ((.call o fun a => .done (result a) : Service env α) >>= f) es q) :
    StoreInv o result f es q := by
  rcases path.call_inv with ⟨rfl, rfl⟩ | ⟨i, a, s, s', rest, rfl, tail⟩
  · exact Or.inl ⟨rfl, rfl⟩
  · exact Or.inr ⟨i, a, s, s', rest, rfl, done_bind_inv tail⟩

theorem accountStore_bind_inv {o : AccountOp} {f : o.Ans → Service env β}
    (path : Path (accountStore o >>= f) es q) : StoreInv (.accounts o) id f es q :=
  store_bind_inv path

/-- A program that begins with a step that cannot raise. -/
theorem ask_bind_inv {o : Op} {f : o.Ans → Service env β} (path : Path (ask o >>= f) es q) :
    (es = [] ∧ q = ask o >>= f) ∨
      ∃ i a s s' rest, es = ⟨i, o, a, s, s'⟩ :: rest ∧ Path (f a) rest q :=
  path.call_inv

theorem refuseIf_bind_inv {c : Prop} [Decidable c] {e : Error} {f : Unit → Service env β}
    (path : Path (refuseIf c e >>= f) es q) :
    (c ∧ es = [] ∧ q = .done (.error e)) ∨ (¬c ∧ Path (f ()) es q) := by
  rw [refuseIf_bind] at path
  split at path
  · rename_i refused
    exact Or.inl ⟨refused, path.done_inv⟩
  · rename_i passed
    exact Or.inr ⟨passed, path⟩

end Paths

/-! ## The events before a given operation -/

section Calling

variable {es : List (Event (machine env))} {o' : Op} {next : o'.Ans → Service env β}
  {f : α → Service env β}

theorem store_bind_calling {o : Op} {result : o.Ans → Except Error α}
    (path : Path ((.call o fun a => .done (result a) : Service env α) >>= f) es (.call o' next))
    (other : o' ≠ o) :
    ∃ i a v s s' rest, es = ⟨i, o, a, s, s'⟩ :: rest ∧ result a = .ok v ∧
      Path (f v) rest (.call o' next) := by
  rcases path.call_inv with ⟨-, here⟩ | ⟨i, a, s, s', rest, rfl, tail⟩
  · cases here
    exact absurd rfl other
  · rcases done_bind_inv tail with ⟨e, -, -, impossible⟩ | ⟨v, answered, final⟩
    · cases impossible
    · exact ⟨i, a, v, s, s', rest, rfl, answered, final⟩

theorem ask_bind_calling {o : Op} {f : o.Ans → Service env β}
    (path : Path (ask o >>= f) es (.call o' next)) (other : o' ≠ o) :
    ∃ i a s s' rest, es = ⟨i, o, a, s, s'⟩ :: rest ∧ Path (f a) rest (.call o' next) := by
  rcases path.call_inv with ⟨-, here⟩ | ⟨i, a, s, s', rest, rfl, tail⟩
  · cases here
    exact absurd rfl other
  · exact ⟨i, a, s, s', rest, rfl, tail⟩

theorem profileStore_bind_calling {o : ProfileOp} {f : o.Ans → Service env β}
    (path : Path (profileStore o >>= f) es (.call o' next)) (other : o' ≠ .profiles o) :
    ∃ i v s s' rest, es = ⟨i, .profiles o, .ok v, s, s'⟩ :: rest ∧
      Path (f v) rest (.call o' next) := by
  obtain ⟨i, a, v, s, s', rest, split, rfl, final⟩ := store_bind_calling path other
  exact ⟨i, v, s, s', rest, split, final⟩

theorem ofExcept_bind_calling {r : Except Error α}
    (path : Path (Prog.ofExcept r >>= f) es (.call o' next)) :
    ∃ v, r = .ok v ∧ Path (f v) es (.call o' next) := by
  rcases done_bind_inv path with ⟨e, -, -, impossible⟩ | passed
  · cases impossible
  · exact passed

theorem refuseIf_bind_calling {c : Prop} [Decidable c] {e : Error} {f : Unit → Service env β}
    (path : Path (refuseIf c e >>= f) es (.call o' next)) :
    ¬c ∧ Path (f ()) es (.call o' next) := by
  rcases refuseIf_bind_inv path with ⟨-, -, impossible⟩ | passed
  · cases impossible
  · exact passed

theorem done_calling {r : Except Error β} (path : Path (.done r : Service env β) es (.call o' next)) :
    False := by
  obtain ⟨-, impossible⟩ := path.done_inv
  cases impossible

end Calling

/-! ## The events of a call that has returned -/

section Returned

variable {es : List (Event (machine env))} {f : α → Service env β} {b : β}

theorem ask_bind_returned {o : Op} {f : o.Ans → Service env β}
    (path : Path (ask o >>= f) es (.done (.ok b))) :
    ∃ i a s s' rest, es = ⟨i, o, a, s, s'⟩ :: rest ∧ Path (f a) rest (.done (.ok b)) :=
  Path.call_done path

theorem store_bind_returned {o : Op} {result : o.Ans → Except Error α}
    (path : Path ((.call o fun a => .done (result a) : Service env α) >>= f) es (.done (.ok b))) :
    ∃ i a v s s' rest, es = ⟨i, o, a, s, s'⟩ :: rest ∧ result a = .ok v ∧
      Path (f v) rest (.done (.ok b)) := by
  obtain ⟨i, a, s, s', rest, rfl, tail⟩ := Path.call_done path
  rcases done_bind_inv tail with ⟨e, -, -, impossible⟩ | ⟨v, answered, final⟩
  · cases impossible
  · exact ⟨i, a, v, s, s', rest, rfl, answered, final⟩

theorem accountStore_bind_returned {o : AccountOp} {f : o.Ans → Service env β}
    (path : Path (accountStore o >>= f) es (.done (.ok b))) :
    ∃ i v s s' rest, es = ⟨i, .accounts o, .ok v, s, s'⟩ :: rest ∧
      Path (f v) rest (.done (.ok b)) := by
  obtain ⟨i, a, v, s, s', rest, split, rfl, final⟩ := store_bind_returned path
  exact ⟨i, v, s, s', rest, split, final⟩

theorem grantStore_bind_returned {o : GrantOp} {f : o.Ans → Service env β}
    (path : Path (grantStore o >>= f) es (.done (.ok b))) :
    ∃ i v s s' rest, es = ⟨i, .grants o, .ok v, s, s'⟩ :: rest ∧
      Path (f v) rest (.done (.ok b)) := by
  obtain ⟨i, a, v, s, s', rest, split, rfl, final⟩ := store_bind_returned path
  exact ⟨i, v, s, s', rest, split, final⟩

theorem ofExcept_bind_returned {r : Except Error α}
    (path : Path (Prog.ofExcept r >>= f) es (.done (.ok b))) :
    ∃ v, r = .ok v ∧ Path (f v) es (.done (.ok b)) := by
  rcases done_bind_inv path with ⟨e, -, -, impossible⟩ | passed
  · cases impossible
  · exact passed

theorem refuseIf_bind_returned {c : Prop} [Decidable c] {e : Error} {f : Unit → Service env β}
    (path : Path (refuseIf c e >>= f) es (.done (.ok b))) :
    ¬c ∧ Path (f ()) es (.done (.ok b)) := by
  rcases refuseIf_bind_inv path with ⟨-, -, impossible⟩ | passed
  · cases impossible
  · exact passed

theorem throw_returned {e : Error} (path : Path (.done (.error e) : Service env β) es (.done (.ok b))) :
    False := by
  obtain ⟨-, impossible⟩ := path.done_inv
  cases impossible

theorem pure_returned {b' : β} (path : Path (.done (.ok b') : Service env β) es (.done (.ok b))) :
    es = [] ∧ b' = b := by
  obtain ⟨ended, same⟩ := path.done_inv
  cases same
  exact ⟨ended, rfl⟩

end Returned

/-! ## A call that is made alone -/

section Played

variable {w w' : World} {x : Input} {f : α → Service env β}

theorem ask_bind_play {o : Op} {a : o.Ans} {f : o.Ans → Service env β}
    (done : exec env o x w = some (a, w')) (xs : List Input) :
    (ask o >>= f).play (x :: xs) w = (f a).play xs w' :=
  Prog.play_call (M := machine env) done xs

theorem clockNow_bind_play {f : Instant → Service env β} (xs : List Input) :
    (clockNow >>= f).play (x :: xs) w = (f x.now).play xs { w with clock := x.now } :=
  ask_bind_play rfl xs

theorem ofExcept_bind_play {r : Except Error α} {a : α} (passed : r = .ok a) (xs : List Input) :
    (Prog.ofExcept r >>= f).play xs w = (f a).play xs w := by
  rw [passed]
  rfl

theorem ofExcept_bind_play_error {r : Except Error α} {e : Error} (refused : r = .error e)
    (xs : List Input) : (Prog.ofExcept r >>= f).play xs w = some (.error e, w) := by
  rw [refused]
  rfl

theorem store_bind_play {o : Op} {result : o.Ans → Except Error α} {a : o.Ans} {v : α}
    (done : exec env o x w = some (a, w')) (passed : result a = .ok v) (xs : List Input) :
    ((.call o fun a => .done (result a) : Service env α) >>= f).play (x :: xs) w =
      (f v).play xs w' := by
  refine (Prog.play_call (M := machine env) done xs).trans ?_
  exact ofExcept_bind_play passed xs

theorem accountStore_bind_play {o : AccountOp} {v : o.Ans} {db' : Db} {f : o.Ans → Service env β}
    (committed : (o.run env.text).run w.db = .ok (v, db')) (xs : List Input) :
    (accountStore o >>= f).play (x :: xs) w = (f v).play xs { w with db := db' } :=
  have done : exec env (.accounts o) x w = some (.ok v, { w with db := db' }) :=
    onDb_eq.mpr ⟨transact_ok.mpr committed, rfl⟩
  store_bind_play done rfl xs

theorem sessionStore_bind_play {o : SessionOp} {v : o.Ans} {db' : Db} {f : o.Ans → Service env β}
    (committed : o.run.run w.db = .ok (v, db')) (xs : List Input) :
    (sessionStore o >>= f).play (x :: xs) w = (f v).play xs { w with db := db' } :=
  have done : exec env (.sessions o) x w = some (.ok v, { w with db := db' }) :=
    onDb_eq.mpr ⟨transact_ok.mpr committed, rfl⟩
  store_bind_play done rfl xs

end Played

end Keyring

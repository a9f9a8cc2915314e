import Mathlib.Logic.Basic

/-!
# Programs made of atomic operations

A `Machine` is a shared state with atomic operations on it.  A `Prog` is what
one caller does: it ends with a value or an exception, or it performs one
operation and goes on with the answer.  Between two operations of one caller
any other caller may run; inside an operation nothing else does.

What an operation takes from outside the state (the instant a clock shows, a
drawn token, the answer of a remote service) is its `Input`.  An operation
that cannot run now (a lock that is held) answers `none`.
-/

set_option autoImplicit false

namespace Interleave

structure Machine where
  State : Type
  Op : Type
  Ans : Op → Type
  Input : Type
  exec : (o : Op) → Input → State → Option (Ans o × State)

variable {M : Machine} {ε α β γ : Type}

inductive Prog (M : Machine) (ε α : Type) : Type where
  | done (result : Except ε α)
  | call (o : M.Op) (next : M.Ans o → Prog M ε α)

namespace Prog

def bind : Prog M ε α → (α → Prog M ε β) → Prog M ε β
  | .done (.ok a), f => f a
  | .done (.error e), _ => .done (.error e)
  | .call o next, f => .call o fun a => (next a).bind f

/-- Run `handler` on an exception of the program. -/
def tryCatch : Prog M ε α → (ε → Prog M ε α) → Prog M ε α
  | .done (.ok a), _ => .done (.ok a)
  | .done (.error e), handler => handler e
  | .call o next, handler => .call o fun a => (next a).tryCatch handler

/-- Perform `o` once the program has ended, however it ended. -/
def finallyDo (o : M.Op) : Prog M ε α → Prog M ε α
  | .done r => .call o fun _ => .done r
  | .call o' next => .call o' fun a => (next a).finallyDo o

instance : Monad (Prog M ε) where
  pure a := .done (.ok a)
  bind := Prog.bind

instance : MonadExceptOf ε (Prog M ε) where
  throw e := .done (.error e)
  tryCatch := Prog.tryCatch

/-- Perform one operation and return its answer. -/
def perform (o : M.Op) : Prog M ε (M.Ans o) := .call o fun a => .done (.ok a)

/-- Go on with a value, or raise the exception in its place. -/
def ofExcept (r : Except ε α) : Prog M ε α := .done r

/-- The exception that the program has ended with. -/
def raised? : Prog M ε α → Option ε
  | .done (.error e) => some e
  | _ => none

/-- Every operation the program can ever perform satisfies `allowed`. -/
def Uses (allowed : M.Op → Prop) : Prog M ε α → Prop
  | .done _ => True
  | .call o next => allowed o ∧ ∀ a, (next a).Uses allowed

@[simp] theorem pure_eq (a : α) : (pure a : Prog M ε α) = .done (.ok a) := rfl

@[simp] theorem throw_eq (e : ε) : (throw e : Prog M ε α) = .done (.error e) := rfl

@[simp] theorem ofExcept_eq (r : Except ε α) : (ofExcept r : Prog M ε α) = .done r := rfl

@[simp] theorem bind_ok (a : α) (f : α → Prog M ε β) :
    (.done (.ok a) : Prog M ε α) >>= f = f a := rfl

@[simp] theorem bind_error (e : ε) (f : α → Prog M ε β) :
    (.done (.error e) : Prog M ε α) >>= f = .done (.error e) := rfl

@[simp] theorem bind_call (o : M.Op) (next : M.Ans o → Prog M ε α) (f : α → Prog M ε β) :
    (.call o next : Prog M ε α) >>= f = .call o fun a => next a >>= f := rfl

@[simp] theorem bind_perform (o : M.Op) (f : M.Ans o → Prog M ε β) :
    (perform o : Prog M ε (M.Ans o)) >>= f = .call o f := rfl

@[simp] theorem tryCatch_ok (a : α) (handler : ε → Prog M ε α) :
    tryCatchThe ε (.done (.ok a) : Prog M ε α) handler = .done (.ok a) := rfl

@[simp] theorem tryCatch_error (e : ε) (handler : ε → Prog M ε α) :
    tryCatchThe ε (.done (.error e) : Prog M ε α) handler = handler e := rfl

@[simp] theorem tryCatch_call (o : M.Op) (next : M.Ans o → Prog M ε α)
    (handler : ε → Prog M ε α) :
    tryCatchThe ε (.call o next) handler = .call o fun a => tryCatchThe ε (next a) handler := rfl

@[simp] theorem finallyDo_done (o : M.Op) (r : Except ε α) :
    (.done r : Prog M ε α).finallyDo o = .call o fun _ => .done r := rfl

@[simp] theorem finallyDo_call (o o' : M.Op) (next : M.Ans o' → Prog M ε α) :
    (.call o' next : Prog M ε α).finallyDo o = .call o' fun a => (next a).finallyDo o := rfl

theorem bind_assoc (p : Prog M ε α) (f : α → Prog M ε β) (g : β → Prog M ε γ) :
    p >>= f >>= g = p >>= fun a => f a >>= g := by
  induction p with
  | done r => cases r <;> rfl
  | call o next ih =>
      simp only [bind_call]
      congr 1
      funext a
      exact ih a

theorem bind_pure (p : Prog M ε α) : p >>= (fun a => .done (.ok a)) = p := by
  induction p with
  | done r => cases r <;> rfl
  | call o next ih =>
      simp only [bind_call]
      congr 1
      funext a
      exact ih a

instance : LawfulMonad (Prog M ε) :=
  LawfulMonad.mk' (Prog M ε) bind_pure (fun _ _ => rfl) bind_assoc

/-! ## The operations a program uses -/

theorem uses_any (p : Prog M ε α) : p.Uses fun _ => True := by
  induction p with
  | done r => trivial
  | call o next ih => exact ⟨trivial, ih⟩

theorem Uses.mono {allowed wider : M.Op → Prop} (le : ∀ o, allowed o → wider o)
    {p : Prog M ε α} (uses : p.Uses allowed) : p.Uses wider := by
  induction p with
  | done r => trivial
  | call o next ih => exact ⟨le o uses.1, fun a => ih a (uses.2 a)⟩

theorem Uses.bind {allowed : M.Op → Prop} {p : Prog M ε α} {f : α → Prog M ε β}
    (first : p.Uses allowed) (rest : ∀ a, (f a).Uses allowed) : (p >>= f).Uses allowed := by
  induction p with
  | done r =>
      cases r with
      | ok a => exact rest a
      | error e => trivial
  | call o next ih => exact ⟨first.1, fun a => ih a (first.2 a)⟩

theorem Uses.tryCatch {allowed : M.Op → Prop} {p : Prog M ε α} {handler : ε → Prog M ε α}
    (first : p.Uses allowed) (rest : ∀ e, (handler e).Uses allowed) :
    (tryCatchThe ε p handler).Uses allowed := by
  induction p with
  | done r =>
      cases r with
      | ok a => trivial
      | error e => exact rest e
  | call o next ih => exact ⟨first.1, fun a => ih a (first.2 a)⟩

theorem Uses.finallyDo {allowed : M.Op → Prop} {p : Prog M ε α} {o : M.Op}
    (first : p.Uses allowed) (last : allowed o) : (p.finallyDo o).Uses allowed := by
  induction p with
  | done r => exact ⟨last, fun _ => trivial⟩
  | call o' next ih => exact ⟨first.1, fun a => ih a (first.2 a)⟩

theorem Uses.perform {allowed : M.Op → Prop} {o : M.Op} (ok : allowed o) :
    (perform o : Prog M ε (M.Ans o)).Uses allowed := ⟨ok, fun _ => trivial⟩

end Prog

end Interleave

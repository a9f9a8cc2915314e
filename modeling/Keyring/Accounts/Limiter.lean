import Keyring.Accounts.Service
import Keyring.Interleave.Logic

/-!
# One check of the limiter

A check shows the clock once, counts its attempt whatever the verdict, and leaves
everything else alone.
-/

set_option autoImplicit false

namespace Keyring

open Interleave Relational

variable {env : Env} {scope caller : String} {limit : Nat} {width : Instant}

/-- How a check ends. -/
def checkAnswer (scope : String) : Option Instant → Except Error Unit
  | none => .ok ()
  | some retryAfter =>
      .error (.rateLimited s!"too many {scope} attempts; try again later" retryAfter)

theorem checkAnswer_inj {scope : String} {verdict verdict' : Option Instant}
    (same : checkAnswer scope verdict = checkAnswer scope verdict') : verdict = verdict' := by
  cases verdict <;> cases verdict' <;> simp [checkAnswer] at same ⊢
  exact same

theorem checkAnswer_eq_ok {scope : String} {verdict : Option Instant} :
    checkAnswer scope verdict = .ok () ↔ verdict = none := by
  cases verdict <;> simp [checkAnswer]

theorem checkLimit_exec {w w' : World} {r : Except Error Unit}
    (exec : Exec (checkLimit scope caller limit width : Service env Unit) w r w') :
    r = checkAnswer scope
        (w.attempts.record env.floats scope caller w'.monotonic limit width).1 ∧
      w'.attempts = (w.attempts.record env.floats scope caller w'.monotonic limit width).2 := by
  obtain ⟨x, now, t, shown, counting⟩ := exec.call_inv
  cases shown
  obtain ⟨y, refused, t', written, final⟩ := counting.call_inv
  cases written
  revert final
  cases verdict : (w.attempts.record env.floats scope caller x.monotonic limit width).1 with
  | none =>
      intro final
      obtain ⟨rfl, rfl⟩ := final.done_inv
      exact ⟨by rw [verdict]; rfl, rfl⟩
  | some retryAfter =>
      intro final
      obtain ⟨rfl, rfl⟩ := final.done_inv
      exact ⟨by rw [verdict]; rfl, rfl⟩

theorem checkLimit_runs (w : World) (x : Input) :
    Exec (checkLimit scope caller limit width : Service env Unit) w
      (checkAnswer scope (w.attempts.record env.floats scope caller x.monotonic limit width).1)
      { w with
        monotonic := x.monotonic
        attempts := (w.attempts.record env.floats scope caller x.monotonic limit width).2 } := by
  have shown : exec env .monotonic x w = some (x.monotonic, { w with monotonic := x.monotonic }) :=
    rfl
  have counted : exec env (.record scope caller x.monotonic limit width) x
      { w with monotonic := x.monotonic } =
        some ((w.attempts.record env.floats scope caller x.monotonic limit width).1, { w with
          monotonic := x.monotonic
          attempts := (w.attempts.record env.floats scope caller x.monotonic limit width).2 }) :=
    rfl
  refine .call (x := x) shown (.call (x := x) counted ?_)
  cases (w.attempts.record env.floats scope caller x.monotonic limit width).1 with
  | none => exact .done _ _
  | some retryAfter => exact .done _ _

namespace Attempts

theorem of_record (floats : Rounding) (attempts : Attempts) (scope caller : String) (now : Instant)
    (limit : Nat) (width : Instant) (scope' caller' : String) :
    (attempts.record floats scope caller now limit width).2.of scope' caller' =
      if scope = scope' ∧ caller = caller' then window floats (attempts.of scope caller) now width
      else attempts.of scope' caller' := by
  simp only [record, of, Table.find?_upsert, AttemptRow.key, Prod.mk.injEq]
  by_cases same : scope = scope' ∧ caller = caller'
  · obtain ⟨rfl, rfl⟩ := same
    cases attempts.find? (scope, caller) with
    | none => simp
    | some row => simp [AttemptRow.set]
  · simp [same]

end Attempts

end Keyring

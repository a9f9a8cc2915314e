import Mathlib.Logic.Relation
import Mathlib.Tactic.Ring
import Mathlib.Tactic.Linarith

/-!
# Fixed-window lockouts

A counter of failures with a lock: a guess is judged only once the lock has
ended, and a failure from the threshold on locks for one window.  However long
it goes on, no more guesses are judged than the threshold and one for each
window that has passed.
-/

set_option autoImplicit false

namespace Throttle

structure State where
  failures : Nat
  lock : Option Int
  clock : Int
  /-- The guesses that were judged so far. -/
  judged : Nat

inductive Step (threshold : Nat) (window : Int) : State → State → Prop where
  | pass {s : State} {now : Int} (later : s.clock ≤ now) :
      Step threshold window s { s with clock := now }
  | judge {s : State} {now : Int} (later : s.clock ≤ now)
      (opened : ∀ lock, s.lock = some lock → lock ≤ now) :
      Step threshold window s
        { failures := s.failures + 1
          lock := if threshold ≤ s.failures + 1 then some (now + window) else s.lock
          clock := now
          judged := s.judged + 1 }

abbrev Steps (threshold : Nat) (window : Int) : State → State → Prop :=
  Relation.ReflTransGen (Step threshold window)

variable {threshold : Nat} {window : Int} {start s s' : State}

/-- What the guesses judged since `start` have cost: past the threshold, each has
waited for the lock of the one before. -/
structure Spent (threshold : Nat) (window : Int) (start s : State) : Prop where
  elapsed : start.clock ≤ s.clock
  counted : s.judged ≤ s.failures
  waited : ∀ k : Nat, s.judged = threshold + k → start.clock + k * window ≤ s.clock ∧
    ∃ lock, s.lock = some lock ∧ start.clock + (k + 1) * window ≤ lock

theorem Spent.init (positive : 0 < threshold) (fresh : start.judged = 0) :
    Spent threshold window start start := by
  refine ⟨le_rfl, by omega, fun k same => ?_⟩
  omega

theorem Spent.step (spent : Spent threshold window start s) (step : Step threshold window s s') :
    Spent threshold window start s' := by
  cases step with
  | pass later =>
      refine ⟨spent.elapsed.trans later, spent.counted, fun k same => ?_⟩
      obtain ⟨waited, locked⟩ := spent.waited k same
      exact ⟨waited.trans later, locked⟩
  | @judge now later opened =>
      refine ⟨spent.elapsed.trans later, Nat.succ_le_succ spent.counted, fun k same => ?_⟩
      have counted := spent.counted
      have reached : threshold ≤ s.failures + 1 := by
        simp only at same
        omega
      simp only [reached, if_true, Option.some.injEq, exists_eq_left']
      have waited : start.clock + (k : Int) * window ≤ now := by
        cases k with
        | zero => simpa using spent.elapsed.trans later
        | succ k =>
            simp only at same
            obtain ⟨-, lock, locked, waited⟩ := spent.waited k (by omega)
            push_cast
            exact waited.trans (opened lock locked)
      exact ⟨waited, by linarith [add_mul (k : Int) 1 window]⟩

theorem budget (positive : 0 < threshold) (fresh : start.judged = 0)
    (steps : Steps threshold window start s) :
    ((s.judged - threshold : Nat) : Int) * window ≤ s.clock - start.clock := by
  have spent : Spent threshold window start s := by
    induction steps with
    | refl => exact .init positive fresh
    | tail _ last ih => exact ih.step last
  rcases Nat.le_total s.judged threshold with few | many
  · rw [Nat.sub_eq_zero_of_le few]
    simpa using spent.elapsed
  · obtain ⟨waited, -⟩ := spent.waited (s.judged - threshold) (by omega)
    linarith

end Throttle

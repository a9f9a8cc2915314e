import Mathlib.Data.List.DropRight
import Mathlib.Data.List.Sort

/-!
# Rows numbered without a gap

A counter numbers the rows, and a bound on their number is kept by arithmetic:
the rows go whose number is the newest one less the bound, or below.  With
consecutive numbers the last ones are left.
-/

set_option autoImplicit false

namespace Relational

variable {α ρ : Type} {number : ρ → Nat} {first : Nat} {rows : List ρ}

/-- The rows are numbered from `first` on. -/
def Consecutive (number : ρ → Nat) (first : Nat) (rows : List ρ) : Prop :=
  rows.map number = List.range' first rows.length

@[simp] theorem Consecutive.nil : Consecutive number first [] := rfl

theorem consecutive_cons {r : ρ} : Consecutive number first (r :: rows) ↔
    number r = first ∧ Consecutive number (first + 1) rows := by
  simp [Consecutive, List.range'_succ]

theorem consecutive_append {later : List ρ} : Consecutive number first (rows ++ later) ↔
    Consecutive number first rows ∧ Consecutive number (first + rows.length) later := by
  induction rows generalizing first with
  | nil => simp
  | cons r rows ih => simp [consecutive_cons, ih, and_assoc, Nat.add_assoc, Nat.add_comm 1]

namespace Consecutive

theorem concat (held : Consecutive number first rows) {r : ρ}
    (next : number r = first + rows.length) : Consecutive number first (rows ++ [r]) := by
  simp [consecutive_append, consecutive_cons, held, next]

theorem mem_bounds (held : Consecutive number first rows) {r : ρ} (stored : r ∈ rows) :
    first ≤ number r ∧ number r < first + rows.length := by
  have inside : number r ∈ List.range' first rows.length := by
    rw [← held]
    exact List.mem_map_of_mem stored
  simpa using inside

theorem increasing (held : Consecutive number first rows) :
    rows.Pairwise fun a b => number a < number b := by
  have sorted := List.pairwise_lt_range' (s := first) (n := rows.length)
  rw [← held, List.pairwise_map] at sorted
  exact sorted

theorem drop (held : Consecutive number first rows) (n : Nat) (within : n ≤ rows.length) :
    Consecutive number (first + n) (rows.drop n) := by
  rw [← List.take_append_drop n rows, consecutive_append] at held
  simpa [Nat.min_eq_left within] using held.2

theorem filter_eq_drop (held : Consecutive number first rows) (bound : Nat) :
    rows.filter (fun r => decide (bound < number r)) = rows.drop (bound + 1 - first) := by
  induction rows generalizing first with
  | nil => simp
  | cons r rows ih =>
    obtain ⟨here, later⟩ := consecutive_cons.mp held
    have step := ih later
    by_cases above : bound < first
    · have whole : bound + 1 - first = 0 := by omega
      have rest : bound + 1 - (first + 1) = 0 := by omega
      rw [rest] at step
      simp [here, above, whole, step]
    · have gone : bound + 1 - first = bound + 1 - (first + 1) + 1 := by omega
      simp [here, above, gone, step]

theorem trim_eq_rtake (held : Consecutive number first rows) (bound : Nat) {newest : Nat}
    (last : newest + 1 = first + rows.length) (positive : 0 < first) :
    rows.filter (fun r => !decide ((number r : Int) ≤ newest - bound)) = rows.rtake bound := by
  by_cases few : rows.length ≤ bound
  · have none : ∀ r ∈ rows, (!decide ((number r : Int) ≤ newest - bound)) = true := by
      intro r stored
      have inside := held.mem_bounds stored
      simp only [Bool.not_eq_true', decide_eq_false_iff_not]
      omega
    rw [List.filter_eq_self.mpr none, List.rtake, Nat.sub_eq_zero_of_le few, List.drop_zero]
  · have cut : newest - bound + 1 - first = rows.length - bound := by omega
    rw [List.rtake, ← cut, ← held.filter_eq_drop]
    apply List.filter_congr
    intro r stored
    have inside := held.mem_bounds stored
    rw [Bool.eq_iff_iff]
    simp only [Bool.not_eq_true', decide_eq_false_iff_not, decide_eq_true_eq]
    omega

theorem max?_eq (held : Consecutive number first rows) {newest : Nat}
    (last : newest + 1 = first + rows.length) (nonempty : rows ≠ []) :
    (rows.map number).max? = some newest := by
  have positive : 0 < rows.length := List.length_pos_iff.mpr nonempty
  rw [held, List.max?_eq_some_iff]
  constructor
  · rw [List.mem_range'_1]
    omega
  · intro n stored
    rw [List.mem_range'_1] at stored
    omega

end Consecutive

/-! ## Newest first -/

/-- Rows in increasing order of their numbers, sorted the other way. -/
theorem insertionSort_descending {l : List ρ}
    (increasing : l.Pairwise fun a b => number a < number b) :
    l.insertionSort (fun a b => number b ≤ number a) = l.reverse := by
  induction l with
  | nil => rfl
  | cons r l ih =>
    obtain ⟨before, rest⟩ := List.pairwise_cons.mp increasing
    rw [List.insertionSort_cons, ih rest, List.reverse_cons]
    have later : ∀ e ∈ l.reverse, number r < number e := by
      intro e stored
      exact before e (List.mem_reverse.mp stored)
    generalize l.reverse = sorted at later
    induction sorted with
    | nil => rfl
    | cons e sorted ih =>
      have less := later e List.mem_cons_self
      rw [List.orderedInsert_cons, if_neg (by omega), List.cons_append]
      exact congrArg (e :: ·) (ih fun e stored => later e (List.mem_cons_of_mem _ stored))

/-- To append and trim again is to trim the longer list. -/
theorem rtake_append_singleton (history : List α) (a : α) (bound : Nat) :
    (history.rtake bound ++ [a]).rtake bound = (history ++ [a]).rtake bound := by
  cases bound with
  | zero => simp
  | succ bound =>
    rw [List.rtake_concat_succ, List.rtake_concat_succ, List.rtake_eq_reverse_take_reverse,
      List.rtake_eq_reverse_take_reverse, List.rtake_eq_reverse_take_reverse]
    simp [List.take_take]

theorem map_rtake {β : Type} (f : α → β) (history : List α) (bound : Nat) :
    (history.rtake bound).map f = (history.map f).rtake bound := by
  simp [List.rtake]

end Relational

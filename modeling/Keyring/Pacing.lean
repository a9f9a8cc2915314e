import Mathlib.Data.List.Basic
import Mathlib.Order.Lattice

/-!
# Pacing

Things start in the order of time.  Each starts far after those before it, or in a
window of its own that was taken since they started; and windows are far apart.  Then
no more than two of them start, and no more than one takes its window, before what is
far from where one began to count.
-/

set_option autoImplicit false

namespace Pacing

variable {T α : Type} [LinearOrder T] (start : α → T) (window : α → Option T)

/-- What is far apart stays so when it is drawn apart. -/
def Widens (far : T → T → Prop) : Prop :=
  ∀ a b a' b', a' ≤ a → b ≤ b' → far a b → far a' b'

structure Apart (far : T → T → Prop) (earlier later : α) : Prop where
  ordered : start earlier ≤ start later
  spaced : far (start earlier) (start later) ∨ ∃ w ∈ window later, start earlier ≤ w
  windows : ∀ w ∈ window earlier, ∀ w' ∈ window later, far w w'

/-- A window is taken before the start. -/
def Preceded (a : α) : Prop := ∀ w ∈ window a, w ≤ start a

variable {start} {window} {far : T → T → Prop}

theorem Apart.third {a b c : α} (widens : Widens far) (first : Apart start window far a b)
    (across : Apart start window far a c) (last : Apart start window far b c)
    (preceded : Preceded start window c) : far (start a) (start c) := by
  rcases across.spaced with spaced | ⟨w, taken, -⟩
  · exact spaced
  · rcases first.spaced with spaced | ⟨w', taken', since⟩
    · exact widens _ _ _ _ le_rfl last.ordered spaced
    · exact widens _ _ _ _ since (preceded w taken) (last.windows w' taken' w taken)

variable {as : List α} [DecidableRel far]

theorem length_starts_le (widens : Widens far) (paced : as.Pairwise (Apart start window far))
    (preceded : ∀ a ∈ as, Preceded start window a) (t : T) :
    (as.filter fun a => t ≤ start a ∧ ¬ far t (start a)).length ≤ 2 := by
  have inside := paced.filter fun a => decide (t ≤ start a ∧ ¬ far t (start a))
  have members := fun a (member : a ∈ as.filter fun a => t ≤ start a ∧ ¬ far t (start a)) =>
    List.mem_filter.mp member
  match filtered : as.filter fun a => t ≤ start a ∧ ¬ far t (start a) with
  | [] | [_] | [_, _] => simp
  | a :: b :: c :: rest =>
      rw [filtered] at inside members
      simp only [List.pairwise_cons, List.mem_cons, forall_eq_or_imp] at inside
      obtain ⟨⟨ab, ac, -⟩, ⟨bc, -⟩, -⟩ := inside
      obtain ⟨-, early⟩ := members a (by simp)
      obtain ⟨member, late⟩ := members c (by simp)
      simp only [decide_eq_true_eq] at early late
      have third := ab.third widens ac bc (preceded c member)
      exact absurd (widens _ _ _ _ early.1 le_rfl third) late.2

theorem length_windows_le (widens : Widens far) (paced : as.Pairwise (Apart start window far))
    (t : T) :
    (as.filter fun a => (window a).any fun w => t ≤ w ∧ ¬ far t w).length ≤ 1 := by
  have inside := paced.filter fun a => (window a).any fun w => decide (t ≤ w ∧ ¬ far t w)
  have members := fun a
      (member : a ∈ as.filter fun a => (window a).any fun w => t ≤ w ∧ ¬ far t w) =>
    List.mem_filter.mp member
  match filtered : as.filter fun a => (window a).any fun w => t ≤ w ∧ ¬ far t w with
  | [] | [_] => simp
  | a :: b :: rest =>
      rw [filtered] at inside members
      simp only [List.pairwise_cons, List.mem_cons, forall_eq_or_imp] at inside
      obtain ⟨⟨ab, -⟩, -⟩ := inside
      obtain ⟨-, early⟩ := members a (by simp)
      obtain ⟨-, late⟩ := members b (by simp)
      simp only [Option.any_eq_true, decide_eq_true_eq] at early late
      obtain ⟨w, taken, after, -⟩ := early
      obtain ⟨w', taken', -, before⟩ := late
      exact absurd (widens _ _ _ _ after le_rfl (ab.windows w taken w' taken')) before

end Pacing

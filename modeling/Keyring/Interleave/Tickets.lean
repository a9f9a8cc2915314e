import Mathlib.Algebra.BigOperators.Group.Finset.Piecewise
import Mathlib.Algebra.Order.BigOperators.Group.Finset
import Keyring.Interleave.Memory

/-!
# What is drawn once is spent once

A step may draw a ticket, and an operation may spend one.  A caller that spends
only what it holds has spent no more than it has drawn, and so have the callers
of a run together, in any order of their steps.
-/

set_option autoImplicit false

namespace Interleave

variable {M : Machine} {ε α : Type}

/-- Counting over a history is counting over its callers. -/
theorem countP_eq_sum {p : Event M → Bool} {n : Nat} {tr : List (Event M)}
    (inside : ∀ e ∈ tr, e.thread < n) :
    tr.countP p = ∑ i ∈ Finset.range n, (ofThread i tr).countP p := by
  induction tr with
  | nil => simp [ofThread]
  | cons e tr ih =>
      have later := ih fun e' member => inside e' (List.mem_cons_of_mem _ member)
      have here : e.thread ∈ Finset.range n := Finset.mem_range.mpr (inside e (by simp))
      have each : ∀ i, (ofThread i (e :: tr)).countP p =
          (ofThread i tr).countP p + if i = e.thread then [e].countP p else 0 := by
        intro i
        by_cases mine : e.thread = i
        · simp [ofThread, mine, List.countP_cons]
        · simp [ofThread, mine, Ne.symm mine]
      simp only [each, Finset.sum_add_distrib, Finset.sum_ite_eq', if_pos here, ← later]
      simp [List.countP_cons]

structure Tickets (M : Machine) where
  draws : (o : M.Op) → M.Ans o → Bool
  spends : M.Op → Bool

namespace Tickets

variable (t : Tickets M)

def drawn (es : List (Event M)) : Nat := es.countP fun e => t.draws e.op e.ans

def spent (es : List (Event M)) : Nat := es.countP fun e => t.spends e.op

/-- The tickets that a caller holds; it spends none that it does not. -/
def purse : Memory M Nat where
  note held o a := held - (if t.spends o then 1 else 0) + if t.draws o a then 1 else 0
  agrees held o := t.spends o = true → 0 < held

variable {t}

theorem minds_of_uses {p : Prog M ε α} (uses : p.Uses fun o => t.spends o = false) (held : Nat) :
    p.Minds t.purse held := by
  apply Prog.Minds.of_uses uses
  intro o kept held spends
  rw [kept] at spends
  cases spends

theorem path_spent_le {p q : Prog M ε α} {es : List (Event M)} (path : Path p es q) {held : Nat}
    (minds : p.Minds t.purse held) : t.spent es ≤ held + t.drawn es := by
  induction path generalizing held with
  | here => simp [spent]
  | @call o next i a s s' es q rest ih =>
      obtain ⟨agrees, later⟩ := minds
      have tail := ih (later a)
      simp only [spent, drawn, List.countP_cons, purse] at tail agrees ⊢
      by_cases spends : t.spends o = true
      · have holds := agrees spends
        simp only [spends, if_true] at tail ⊢
        omega
      · simp only [spends] at tail ⊢
        simp only [Bool.false_eq_true, if_false] at tail ⊢
        omega

theorem run_spent_le {c d : Config M ε α} {tr : List (Event M)} (run : Run c tr d)
    (each : ∀ p ∈ c.pool, p.Minds t.purse 0) : t.spent tr ≤ t.drawn tr := by
  have inside := run.thread_lt
  rw [spent, drawn, countP_eq_sum inside, countP_eq_sum inside]
  apply Finset.sum_le_sum
  intro i member
  have here := Finset.mem_range.mp member
  obtain ⟨q, -, path⟩ := run.path i _ (List.getElem?_eq_getElem here)
  have own := path_spent_le path (each _ (List.getElem_mem here))
  simpa [spent, drawn] using own

theorem spent_once {c d : Config M ε α} {early late : List (Event M)} {e : Event M}
    (run : Run c (early ++ e :: late) d) (each : ∀ p ∈ c.pool, p.Minds t.purse 0)
    (once : t.drawn (early ++ e :: late) ≤ 1) (spends : t.spends e.op = true) :
    ∀ e' ∈ early ++ late, t.spends e'.op = false := by
  have total := (run_spent_le run each).trans once
  simp only [spent, List.countP_append, List.countP_cons, spends, if_true] at total
  have none_early : early.countP (fun e => t.spends e.op) = 0 := by omega
  have none_late : late.countP (fun e => t.spends e.op) = 0 := by omega
  rw [List.countP_eq_zero] at none_early none_late
  intro e' member
  rcases List.mem_append.mp member with before | after
  · exact Bool.not_eq_true _ ▸ none_early e' before
  · exact Bool.not_eq_true _ ▸ none_late e' after

end Tickets

end Interleave

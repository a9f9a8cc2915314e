import Keyring.Interleave.Raises

/-!
# Programs that only ask

An `Oracle` answers every operation in the same way at any time, so a program
over it has one result, and one list of operations that it asks on the way.
-/

set_option autoImplicit false

namespace Interleave

structure Oracle where
  Op : Type
  Ans : Op → Type
  answer : (o : Op) → Ans o

namespace Oracle

variable {ε α β : Type}

/-- The machine without a state that gives the oracle's answers. -/
def machine (oracle : Oracle) : Machine where
  State := Unit
  Op := oracle.Op
  Ans := oracle.Ans
  Input := Unit
  exec o _ _ := some (oracle.answer o, ())

variable {oracle : Oracle}

def result : Prog oracle.machine ε α → Except ε α
  | .done r => r
  | .call o next => result (next (oracle.answer o))

/-- The operations a program asks, in order, until it ends. -/
def asked : Prog oracle.machine ε α → List oracle.machine.Op
  | .done _ => []
  | .call o next => o :: asked (next (oracle.answer o))

def events : Prog oracle.machine ε α → List (Event oracle.machine)
  | .done _ => []
  | .call o next => ⟨0, o, oracle.answer o, (), ()⟩ :: events (next (oracle.answer o))

theorem events_path (p : Prog oracle.machine ε α) : Path p (events p) (.done (result p)) := by
  induction p with
  | done r => exact .here _
  | call o next ih => exact .call (ih _)

theorem events_executed (p : Prog oracle.machine ε α) : Executed (events p) := by
  induction p with
  | done r => simp [Executed, events]
  | call o next ih =>
      intro e member
      rcases List.mem_cons.mp member with rfl | later
      · exact ⟨(), rfl⟩
      · exact ih _ e later

theorem forall_events {accepted : oracle.machine.Op → Prop} (p : Prog oracle.machine ε α) :
    (∀ e ∈ events p, accepted e.op) ↔ ∀ o ∈ asked p, accepted o := by
  induction p with
  | done r => simp [events, asked]
  | call o next ih =>
      rw [events, asked, List.forall_mem_cons, List.forall_mem_cons]
      exact and_congr_right fun _ => ih _

theorem documented_iff {accepted : oracle.machine.Op → Prop} {documented : ε → Prop}
    {p : Prog oracle.machine ε α} (blames : p.Blames (fun e => accepted e.op) documented) :
    Documented documented (result p) ↔ ∀ o ∈ asked p, accepted o := by
  rw [blames (events p) (result p) (events_path p) (events_executed p)]
  exact forall_events p

end Oracle

end Interleave

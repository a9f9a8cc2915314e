import Keyring.Interleave.Run

/-!
# Decisions that stand

Some events of a run decide a value that a part of the state is to have.  The
decision stands when the state has that value until the next decision.  It does
exactly when no other event that comes after a decision changes it.
-/

set_option autoImplicit false

namespace Interleave

variable {M : Machine} {ε α β : Type}

/-- What the last deciding event of `tr` has decided. -/
def lastDecided (decided : Event M → Option β) (tr : List (Event M)) : Option β :=
  tr.reverse.findSome? decided

section

variable {decided : Event M → Option β} {tr : List (Event M)} {e : Event M}

@[simp] theorem lastDecided_nil : lastDecided decided [] = none := rfl

@[simp] theorem lastDecided_snoc :
    lastDecided decided (tr ++ [e]) = (decided e).or (lastDecided decided tr) := by
  simp only [lastDecided, List.reverse_append, List.reverse_cons, List.reverse_nil,
    List.nil_append, List.cons_append, List.findSome?_cons]
  cases decided e <;> rfl

/-- `P` holds of every event that comes after a decision. -/
def AfterDecision (decided : Event M → Option β) (P : Event M → Prop) (tr : List (Event M)) :
    Prop :=
  ∀ early e late, tr = early ++ e :: late → (lastDecided decided early).isSome → P e

theorem afterDecision_snoc {P : Event M → Prop} :
    AfterDecision decided P (tr ++ [e]) ↔
      AfterDecision decided P tr ∧ ((lastDecided decided tr).isSome → P e) := by
  constructor
  · intro each
    refine ⟨fun early e' late split => each early e' (late ++ [e]) (by simp [split]),
      each tr e [] rfl⟩
  · rintro ⟨earlier, newest⟩ early e' late split
    rcases List.eq_nil_or_concat late with rfl | ⟨late', e'', rfl⟩
    · obtain ⟨rfl, same⟩ := List.append_inj' split rfl
      cases same
      exact newest
    · rw [List.concat_eq_append, ← List.cons_append, ← List.append_assoc] at split
      obtain ⟨rfl, -⟩ := List.append_inj' split rfl
      exact earlier early e' late' rfl

theorem AfterDecision.congr {P Q : Event M → Prop} (same : ∀ e ∈ tr, P e ↔ Q e) :
    AfterDecision decided P tr ↔ AfterDecision decided Q tr := by
  refine forall₄_congr fun early e late split => ?_
  rw [same e (by simp [split])]

/-- Until the next decision, the state has the value that was decided. -/
def Stands (decided : Event M → Option β) (observe : M.State → β) (s : M.State)
    (tr : List (Event M)) : Prop :=
  ∀ early, early <+: tr → ∀ v, lastDecided decided early = some v →
    observe (finalState s early) = v

theorem stands_snoc {observe : M.State → β} {s : M.State} :
    Stands decided observe s (tr ++ [e]) ↔
      Stands decided observe s tr ∧
        ∀ v, (decided e).or (lastDecided decided tr) = some v → observe e.after = v := by
  constructor
  · intro stands
    refine ⟨fun early before => stands early (before.trans (List.prefix_append tr [e])), ?_⟩
    intro v known
    have whole := stands (tr ++ [e]) (List.prefix_refl _) v
    rw [lastDecided_snoc, finalState_snoc] at whole
    exact whole known
  · rintro ⟨earlier, newest⟩ early before v known
    rcases List.prefix_concat_iff.mp before with rfl | before
    · rw [lastDecided_snoc] at known
      rw [finalState_snoc]
      exact newest v known
    · exact earlier early before v known

theorem Run.stands_iff {observe : M.State → β} {c d : Config M ε α} (run : Run c tr d)
    (decides : ∀ e ∈ tr, ∀ v, decided e = some v → observe e.after = v) :
    Stands decided observe c.state tr ↔
      AfterDecision decided (fun e => decided e = none → observe e.after = observe e.before) tr := by
  induction run with
  | refl =>
      refine iff_of_true (fun early before v known => ?_) (fun early e late split => ?_)
      · rw [List.prefix_nil.mp before] at known
        cases known
      · simp at split
  | @snoc tr m _ e init last ih =>
      have here : finalState c.state tr = e.before := by
        rw [init.finalState_eq, last.before_eq]
      rw [stands_snoc, afterDecision_snoc,
        ih fun e' member => decides e' (List.mem_append_left _ member)]
      refine and_congr_right fun earlier => ?_
      have stands := (ih fun e' member => decides e' (List.mem_append_left _ member)).mpr earlier
      cases decision : decided e with
      | some v =>
          have newest := decides e (by simp) v decision
          simpa using newest
      | none =>
          simp only [Option.none_or, true_implies]
          cases known : lastDecided decided tr with
          | none => simp
          | some v =>
              have before := stands tr (List.prefix_refl _) v known
              rw [here] at before
              simp [before]

end

end Interleave

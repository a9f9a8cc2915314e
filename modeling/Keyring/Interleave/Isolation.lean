import Keyring.Interleave.Run

/-!
# Callers that the others cannot disturb

Some callers of a run are observed, and `R early s` relates what the run has done
so far to a state in which only they have moved.  Where a step of another caller
keeps the relation as it is, and an observed step can be made in the related
state with the same answer, the observed callers did and were answered in the
run what they would have been if nobody else had moved at all.
-/

set_option autoImplicit false

namespace Interleave

variable {M : Machine} {ε α : Type}

/-- Who performed what, and the answer. -/
def Event.deed (e : Event M) : Nat × (o : M.Op) × M.Ans o := (e.thread, ⟨e.op, e.ans⟩)

/-- The steps of a run as they are seen by the callers `own` of it. -/
structure Unwinds (own : Nat → Bool) (R : List (Event M) → M.State → Prop)
    (tr : List (Event M)) : Prop where
  unseen : ∀ early e late, tr = early ++ e :: late → own e.thread = false →
    ∀ s, R early s → R (early ++ [e]) s
  seen : ∀ early e late, tr = early ++ e :: late → own e.thread = true →
    ∀ x, M.exec e.op x e.before = some (e.ans, e.after) →
      ∀ s, R early s → ∃ t, M.exec e.op x s = some (e.ans, t) ∧ R (early ++ [e]) t

theorem Unwinds.init {own : Nat → Bool} {R : List (Event M) → M.State → Prop}
    {tr : List (Event M)} {e : Event M} (unwinds : Unwinds own R (tr ++ [e])) :
    Unwinds own R tr where
  unseen early e' late split := unwinds.unseen early e' (late ++ [e]) (by simp [split])
  seen early e' late split := unwinds.seen early e' (late ++ [e]) (by simp [split])

/-- The observed callers alone. -/
theorem Run.isolated {own : Nat → Bool} {R : List (Event M) → M.State → Prop}
    {c d : Config M ε α} {tr : List (Event M)} (run : Run c tr d) (unwinds : Unwinds own R tr)
    {s : M.State} (start : R [] s) :
    ∃ alone d', Run ⟨s, c.pool⟩ alone d' ∧
      alone.map Event.deed = (tr.filter fun e => own e.thread).map Event.deed ∧
      R tr d'.state ∧
      ∀ i, d'.pool[i]? = if own i then d.pool[i]? else c.pool[i]? := by
  induction run with
  | refl => exact ⟨[], _, .refl, rfl, start, by simp⟩
  | @snoc tr m d e init last ih =>
      obtain ⟨alone, d', before, deeds, related, pools⟩ := ih unwinds.init
      cases last with
      | @perform i o next x a t waiting result =>
          have inside := (List.getElem?_eq_some_iff.mp waiting).1
          by_cases mine : own i = true
          · obtain ⟨u, answered, later⟩ := unwinds.seen tr _ [] rfl mine x result d'.state related
            have ready : d'.pool[i]? = some (.call o next) := by
              rw [pools i, if_pos mine, waiting]
            have within := (List.getElem?_eq_some_iff.mp ready).1
            refine ⟨alone ++ [⟨i, o, a, d'.state, u⟩], _, before.snoc (.perform ready answered),
              ?_, later, fun j => ?_⟩
            · simp only [List.map_append, deeds, List.filter_append, List.filter_cons, mine]
              rfl
            · by_cases same : i = j
              · subst same
                simp only [if_pos mine, List.getElem?_set_self within,
                  List.getElem?_set_self inside]
              · simp only [List.getElem?_set_ne same]
                exact pools j
          · have other : own i = false := Bool.eq_false_iff.mpr mine
            refine ⟨alone, d', before, ?_, unwinds.unseen tr _ [] rfl other d'.state related,
              fun j => ?_⟩
            · simp only [List.filter_append, List.filter_cons, List.filter_nil, other,
                Bool.false_eq_true, if_false, List.append_nil]
              exact deeds
            · rw [pools j]
              by_cases same : i = j
              · subst same
                simp [other]
              · simp only [List.getElem?_set_ne same]

end Interleave

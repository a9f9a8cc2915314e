import Keyring.Interleave.Logic

/-!
# Programs among callers that keep an invariant

`p.Under I allowed P` says of a caller whose answers all come from states with
`I`: whatever they are, it performs `allowed` operations only, and a value that
it returns satisfies `P`.  Where the allowed operations keep `I`, so does every
run of such callers.
-/

set_option autoImplicit false

namespace Interleave

variable {M : Machine} {ε α β : Type}

namespace Prog

def Under (I : M.State → Prop) (allowed : M.Op → Prop) (P : α → Prop) : Prog M ε α → Prop
  | .done (.ok a) => P a
  | .done (.error _) => True
  | .call o next =>
      allowed o ∧ ∀ s x a t, I s → M.exec o x s = some (a, t) → (next a).Under I allowed P

section Rules

variable {I : M.State → Prop} {allowed : M.Op → Prop} {P : α → Prop} {Q : β → Prop}

theorem Under.bind {p : Prog M ε α} {f : α → Prog M ε β} (first : p.Under I allowed P)
    (rest : ∀ a, P a → (f a).Under I allowed Q) : (p >>= f).Under I allowed Q := by
  induction p with
  | done r =>
      cases r with
      | ok a => exact rest a first
      | error e => trivial
  | call o next ih =>
      refine ⟨first.1, fun s x a t inside result => ?_⟩
      exact ih a (first.2 s x a t inside result)

theorem Under.tryCatch {p : Prog M ε α} {handler : ε → Prog M ε α} (first : p.Under I allowed P)
    (rest : ∀ e, (handler e).Under I allowed P) : (tryCatchThe ε p handler).Under I allowed P := by
  induction p with
  | done r =>
      cases r with
      | ok a => exact first
      | error e => exact rest e
  | call o next ih =>
      refine ⟨first.1, fun s x a t inside result => ?_⟩
      exact ih a (first.2 s x a t inside result)

theorem Under.ofExcept {r : Except ε α} (ok : ∀ a, r = .ok a → P a) :
    (ofExcept r : Prog M ε α).Under I allowed P := by
  cases r with
  | ok a => exact ok a rfl
  | error e => trivial

theorem Under.mono {P' : α → Prop} (weaker : ∀ a, P a → P' a) {p : Prog M ε α}
    (under : p.Under I allowed P) : p.Under I allowed P' := by
  induction p with
  | done r =>
      cases r with
      | ok a => exact weaker a under
      | error e => trivial
  | call o next ih =>
      exact ⟨under.1, fun s x a t inside result => ih a (under.2 s x a t inside result)⟩

/-- Operations that are allowed whatever the answers are. -/
theorem Under.of_uses {p : Prog M ε α} (uses : p.Uses allowed) :
    p.Under I allowed fun _ => True := by
  induction p with
  | done r => cases r <;> trivial
  | call o next ih => exact ⟨uses.1, fun _ _ a _ _ _ => ih a (uses.2 a)⟩

end Rules

end Prog

section Kept

variable {I : M.State → Prop} {allowed : M.Op → Prop} {P : α → Prop}
  (keeps : ∀ o, allowed o → ∀ s x a t, I s → M.exec o x s = some (a, t) → I t)
include keeps

/-- Two ways to go on after such a program look the same to `view`, when they do wherever
it can leave them. -/
theorem Prog.play_bind_congr {γ : Type} {view : Option (Except ε β × M.State) → γ} {p : Prog M ε α}
    {f f' : α → Prog M ε β} (under : p.Under I allowed P)
    (alike : ∀ a t, P a → I t → ∀ xs, view ((f a).play xs t) = view ((f' a).play xs t))
    {s : M.State} (start : I s) (xs : List M.Input) :
    view ((p >>= f).play xs s) = view ((p >>= f').play xs s) := by
  induction p generalizing xs s with
  | done r =>
      cases r with
      | ok a => exact alike a s under start xs
      | error e => rfl
  | call o next ih =>
      cases xs with
      | nil => rfl
      | cons x xs =>
          simp only [Prog.bind_call, Prog.play]
          split
          · rename_i a t result
            exact ih a (under.2 s x a t start result) (keeps o under.1 s x a t start result) xs
          · rfl

theorem Step.under {c d : Config M ε α} {e : Event M} (step : Step c e d)
    (each : ∀ p ∈ c.pool, p.Under I allowed P) (start : I c.state) :
    I d.state ∧ allowed e.op ∧ ∀ p ∈ d.pool, p.Under I allowed P := by
  cases step with
  | @perform i o next x a s waiting result =>
      have here := each _ (List.mem_of_getElem? waiting)
      refine ⟨keeps o here.1 c.state x a s start result, here.1, ?_⟩
      intro p member
      rcases List.mem_or_eq_of_mem_set member with other | rfl
      · exact each p other
      · exact here.2 c.state x a s start result

/-- Together, such callers keep the invariant in every run. -/
theorem Run.under {c d : Config M ε α} {tr : List (Event M)} (run : Run c tr d)
    (each : ∀ p ∈ c.pool, p.Under I allowed P) (start : I c.state) :
    (∀ s ∈ states c.state tr, I s) ∧ (∀ e ∈ tr, allowed e.op) := by
  have whole : ((∀ s ∈ states c.state tr, I s) ∧ ∀ e ∈ tr, allowed e.op) ∧
      I d.state ∧ ∀ p ∈ d.pool, p.Under I allowed P := by
    induction run with
    | refl => exact ⟨⟨by simpa [states] using start, by simp⟩, start, each⟩
    | @snoc tr m _ e init last ih =>
        obtain ⟨⟨before, earlier⟩, here, pool⟩ := ih
        obtain ⟨after, permitted, later⟩ := last.under keeps pool here
        refine ⟨⟨?_, ?_⟩, after, later⟩
        · have split : states c.state (tr ++ [e]) = states c.state tr ++ [e.after] := by
            simp [states]
          rw [split, List.forall_mem_append, List.forall_mem_singleton, last.after_eq]
          exact ⟨before, after⟩
        · rw [List.forall_mem_append, List.forall_mem_singleton]
          exact ⟨earlier, permitted⟩
  exact whole.1

end Kept

end Interleave

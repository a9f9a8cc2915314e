import Keyring.Interleave.Run
import Mathlib.Algebra.BigOperators.Group.Finset.Piecewise

/-!
# What the steps of a caller weigh

Every event weighs an element of a monoid.  `p.Leaves kept weight K` says of a
caller whose events are all `kept`: whatever it was answered, once it has ended
its events weigh together what `K` says of its outcome.  In a run the callers'
weights add up.
-/

set_option autoImplicit false

namespace Interleave

variable {M : Machine} {ε α β A : Type}

section Rules

variable [AddMonoid A]

def Prog.Leaves (kept : Event M → Prop) (weight : Event M → A) (K : Except ε α → A → Prop)
    (p : Prog M ε α) : Prop :=
  ∀ es r, Path p es (.done r) → (∀ e ∈ es, kept e) → K r (es.map weight).sum

namespace Prog

variable {kept : Event M → Prop} {weight : Event M → A} {K K' : Except ε α → A → Prop}
  {p : Prog M ε α}

theorem Leaves.mono (weaker : ∀ r m, K r m → K' r m) (leaves : p.Leaves kept weight K) :
    p.Leaves kept weight K' := fun es r path keeps => weaker r _ (leaves es r path keeps)

theorem Leaves.done {r : Except ε α} (nothing : K r 0) :
    (Prog.done r : Prog M ε α).Leaves kept weight K := by
  intro es r' path _
  obtain ⟨rfl, same⟩ := path.done_inv
  cases same
  exact nothing

theorem Leaves.call {o : M.Op} {next : M.Ans o → Prog M ε α}
    (each : ∀ i a s t, kept ⟨i, o, a, s, t⟩ →
      (next a).Leaves kept weight fun r m => K r (weight ⟨i, o, a, s, t⟩ + m)) :
    (Prog.call o next).Leaves kept weight K := by
  intro es r path keeps
  obtain ⟨i, a, s, t, rest, rfl, tail⟩ := path.call_done
  rw [List.map_cons, List.sum_cons]
  apply each i a s t (keeps _ List.mem_cons_self) rest r tail
  intro e member
  exact keeps e (List.mem_cons_of_mem _ member)

theorem Leaves.bind {f : α → Prog M ε β} {L : Except ε β → A → Prop}
    (first : p.Leaves kept weight K) (failed : ∀ e m, K (.error e) m → L (.error e) m)
    (second : ∀ a m, K (.ok a) m → (f a).Leaves kept weight fun r n => L r (m + n)) :
    (p >>= f).Leaves kept weight L := by
  intro es r path keeps
  rcases path.bind_done with ⟨e, raised, rfl⟩ | ⟨a, es₁, es₂, rfl, returned, rest⟩
  · exact failed e _ (first es _ raised keeps)
  · rw [List.map_append, List.sum_append]
    apply second a _ (first es₁ _ returned fun e member => keeps e (by simp [member])) es₂ r rest
    intro e member
    exact keeps e (by simp [member])

/-- A handler takes over with what the body has left. -/
theorem Leaves.tryCatch {handler : ε → Prog M ε α} (first : p.Leaves kept weight K)
    (passed : ∀ a m, K (.ok a) m → K' (.ok a) m)
    (handled : ∀ e m, K (.error e) m →
      (handler e).Leaves kept weight fun r n => K' r (m + n)) :
    (tryCatchThe ε p handler).Leaves kept weight K' := by
  have handling : ∀ e es₁ es₂ r, Path p es₁ (.done (.error e)) → Path (handler e) es₂ (.done r) →
      (∀ e ∈ es₁ ++ es₂, kept e) → K' r ((es₁ ++ es₂).map weight).sum := by
    intro e es₁ es₂ r raised tail keeps
    rw [List.map_append, List.sum_append]
    apply handled e _ (first es₁ _ raised fun e member => keeps e (by simp [member])) es₂ r tail
    intro e member
    exact keeps e (by simp [member])
  intro es r path keeps
  rcases path.tryCatch_inv with ⟨p', inside, here⟩ | ⟨e, es₁, es₂, rfl, raised, tail⟩
  · cases p' with
    | done r' =>
        cases r' with
        | ok a =>
            cases here
            exact passed a _ (first es _ inside keeps)
        | error e =>
            have ended : handler e = .done r := here.symm
            have all := handling e es [] r inside (by rw [ended]; exact .here _) (by simpa using keeps)
            simpa using all
    | call o next => cases here
  · exact handling e es₁ es₂ r raised tail keeps

/-- Operations whose events weigh nothing leave nothing. -/
theorem Leaves.of_uses {allowed : M.Op → Prop} (uses : p.Uses allowed)
    (light : ∀ e, kept e → allowed e.op → weight e = 0) :
    p.Leaves kept weight fun _ m => m = 0 := by
  intro es r path keeps
  have inside := (path.uses uses).1
  apply List.sum_eq_zero
  intro m member
  obtain ⟨e, here, rfl⟩ := List.mem_map.mp member
  exact light e (keeps e here) (inside e here)

end Prog

end Rules

/-! ## Between the callers -/

section Runs

variable [AddCommMonoid A] {weight : Event M → A}

theorem sum_eq_ofThread {tr : List (Event M)} {n : Nat} (inside : ∀ e ∈ tr, e.thread < n) :
    (tr.map weight).sum = ∑ i ∈ Finset.range n, ((ofThread i tr).map weight).sum := by
  induction tr with
  | nil => simp [ofThread]
  | cons e rest ih =>
      have split : ∀ i, ((ofThread i (e :: rest)).map weight).sum =
          (if e.thread = i then weight e else 0) + ((ofThread i rest).map weight).sum := by
        intro i
        by_cases mine : e.thread = i <;> simp [ofThread, mine]
      have here : e.thread ∈ Finset.range n := Finset.mem_range.mpr (inside e List.mem_cons_self)
      have later := ih fun e' member => inside e' (List.mem_cons_of_mem _ member)
      simp only [split, Finset.sum_add_distrib, Finset.sum_ite_eq, if_pos here, ← later,
        List.map_cons, List.sum_cons]

theorem Run.sum_eq_zero {c d : Config M ε α} {tr : List (Event M)} (run : Run c tr d)
    (each : ∀ i < c.pool.length, ((ofThread i tr).map weight).sum = 0) :
    (tr.map weight).sum = 0 := by
  rw [sum_eq_ofThread run.thread_lt]
  apply Finset.sum_eq_zero
  intro i inside
  exact each i (Finset.mem_range.mp inside)

end Runs

end Interleave

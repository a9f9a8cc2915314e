import Keyring.Interleave.Invariant
import Keyring.Interleave.Memory

/-!
# What a caller may do once it has been told

A caller whose answers come from states with `I` may be allowed more as it sees more.
`p.Told m I P seen` says that each of its operations agrees with what was seen
before it, and that a value it returns satisfies `P` with what was seen by then.
-/

set_option autoImplicit false

namespace Interleave

variable {M : Machine} {ε α β σ : Type}

namespace Prog

def Told (m : Memory M σ) (I : M.State → Prop) (P : σ → α → Prop) : Prog M ε α → σ → Prop
  | .done (.ok a), seen => P seen a
  | .done (.error _), _ => True
  | .call o next, seen =>
      m.agrees seen o ∧ ∀ s x a t, I s → M.exec o x s = some (a, t) →
        (next a).Told m I P (m.note seen o a)

variable {m : Memory M σ} {I : M.State → Prop} {P : σ → α → Prop} {Q : σ → β → Prop}

theorem Told.bind {p : Prog M ε α} {f : α → Prog M ε β} {seen : σ} (first : p.Told m I P seen)
    (rest : ∀ a seen, P seen a → (f a).Told m I Q seen) : (p >>= f).Told m I Q seen := by
  induction p generalizing seen with
  | done r =>
      cases r with
      | ok a => exact rest a seen first
      | error e => trivial
  | call o next ih =>
      refine ⟨first.1, fun s x a t inside result => ?_⟩
      exact ih a (first.2 s x a t inside result)

theorem Told.mono {P' : σ → α → Prop} (weaker : ∀ seen a, P seen a → P' seen a) {p : Prog M ε α}
    {seen : σ} (told : p.Told m I P seen) : p.Told m I P' seen := by
  induction p generalizing seen with
  | done r =>
      cases r with
      | ok a => exact weaker seen a told
      | error e => trivial
  | call o next ih =>
      exact ⟨told.1, fun s x a t inside result => ih a (told.2 s x a t inside result)⟩

/-- What begins as it may has told a first part what it needs for the rest. -/
theorem Told.of_bind {p : Prog M ε α} {f : α → Prog M ε β} {seen : σ}
    (told : (p >>= f).Told m I Q seen) : p.Told m I (fun seen a => (f a).Told m I Q seen) seen := by
  induction p generalizing seen with
  | done r =>
      cases r with
      | ok a => exact told
      | error e => trivial
  | call o next ih =>
      exact ⟨told.1, fun s x a t inside result => ih a (told.2 s x a t inside result)⟩

theorem Told.tryCatch {p : Prog M ε α} {handler : ε → Prog M ε α} {seen : σ}
    (first : p.Told m I P seen) (rest : ∀ e seen, (handler e).Told m I P seen) :
    (tryCatchThe ε p handler).Told m I P seen := by
  induction p generalizing seen with
  | done r =>
      cases r with
      | ok a => exact first
      | error e => exact rest e seen
  | call o next ih =>
      exact ⟨first.1, fun s x a t inside result => ih a (first.2 s x a t inside result)⟩

theorem Told.finallyDo {o : M.Op} {p : Prog M ε α} {seen : σ} (first : p.Told m I P seen)
    (last : ∀ seen, m.agrees seen o) : (p.finallyDo o).Told m I (fun _ _ => True) seen := by
  induction p generalizing seen with
  | done r =>
      refine ⟨last seen, fun s x a t inside result => ?_⟩
      cases r <;> trivial
  | call o' next ih =>
      exact ⟨first.1, fun s x a t inside result => ih a (first.2 s x a t inside result)⟩

/-- Operations that agree with whatever has `K`, and leave it so. -/
theorem Told.of_under_kept {K : σ → Prop} {allowed : M.Op → Prop} {R : α → Prop} {p : Prog M ε α}
    (under : p.Under I allowed R) {seen : σ} (held : K seen)
    (free : ∀ o, allowed o → ∀ seen, K seen → m.agrees seen o ∧ ∀ a, K (m.note seen o a)) :
    p.Told m I (fun seen a => K seen ∧ R a) seen := by
  induction p generalizing seen with
  | done r =>
      cases r with
      | ok a => exact ⟨held, under⟩
      | error e => trivial
  | call o next ih =>
      obtain ⟨agrees, kept⟩ := free o under.1 seen held
      refine ⟨agrees, fun s x a t inside result => ?_⟩
      exact ih a (under.2 s x a t inside result) (kept a)

/-- Operations that agree with what was seen and add nothing to it. -/
theorem Told.of_under {allowed : M.Op → Prop} {R : α → Prop} {p : Prog M ε α}
    (under : p.Under I allowed R) {seen : σ}
    (free : ∀ o, allowed o → m.agrees seen o ∧ ∀ a, m.note seen o a = seen) :
    p.Told m I (fun seen' a => seen' = seen ∧ R a) seen := by
  refine Told.of_under_kept under rfl fun o ok seen' same => ?_
  rw [same]
  exact free o ok

/-- A caller that keeps more may do what one may that keeps less. -/
theorem Told.along {τ : Type} {n : Memory M τ} (rel : τ → σ → Prop) {p : Prog M ε α} {seen : σ}
    (told : p.Told m I P seen) {known : τ} (connected : rel known seen)
    (agrees : ∀ known seen o, rel known seen → m.agrees seen o →
      n.agrees known o ∧ ∀ a, rel (n.note known o a) (m.note seen o a)) :
    p.Told n I (fun known a => ∃ seen, rel known seen ∧ P seen a) known := by
  induction p generalizing seen known with
  | done r =>
      cases r with
      | ok a => exact ⟨seen, connected, told⟩
      | error e => trivial
  | call o next ih =>
      obtain ⟨fits, kept⟩ := agrees known seen o connected told.1
      exact ⟨fits, fun s x a t inside result => ih a (told.2 s x a t inside result) (kept a)⟩

end Prog

/-- All that was answered, oldest first. -/
def Memory.transcript (agrees : List ((o : M.Op) × M.Ans o) → M.Op → Prop) :
    Memory M (List ((o : M.Op) × M.Ans o)) where
  note seen o a := seen ++ [⟨o, a⟩]
  agrees := agrees

theorem Memory.transcript_after (agrees : List ((o : M.Op) × M.Ans o) → M.Op → Prop)
    (seen : List ((o : M.Op) × M.Ans o)) (es : List (Event M)) :
    (Memory.transcript agrees).after seen es = seen ++ es.map fun e => ⟨e.op, e.ans⟩ := by
  induction es generalizing seen with
  | nil => simp
  | cons e es ih =>
      rw [Memory.after_cons, ih, List.map_cons]
      exact List.append_assoc seen [⟨e.op, e.ans⟩] _

/-! ## Together -/

section Run

variable {m : Nat → Memory M σ} {I : M.State → Prop} {P : σ → α → Prop} {c d : Config M ε α}
  {seen : Nat → σ}
  (keeps : ∀ i o seen, (m i).agrees seen o → ∀ s x a t, I s → M.exec o x s = some (a, t) → I t)
include keeps

/-- Among such callers the invariant is kept, and each goes on as it may. -/
theorem Run.told {tr : List (Event M)} (run : Run c tr d)
    (each : ∀ i (p : Prog M ε α), c.pool[i]? = some p → p.Told (m i) I P (seen i)) (start : I c.state) :
    I d.state ∧ ∀ i (p : Prog M ε α), d.pool[i]? = some p →
      p.Told (m i) I P ((m i).after (seen i) (ofThread i tr)) := by
  induction run with
  | refl => exact ⟨start, each⟩
  | @snoc tr n d e init last ih =>
      obtain ⟨inside, pool⟩ := ih
      cases last with
      | @perform j o next x a s waiting result =>
          obtain ⟨agrees, rest⟩ := pool j _ waiting
          refine ⟨keeps j o _ agrees n.state x a s inside result, fun i p found => ?_⟩
          have within := (List.getElem?_eq_some_iff.mp waiting).1
          by_cases mine : j = i
          · subst mine
            simp only [List.getElem?_set_self within, Option.some.injEq] at found
            subst found
            have own : ofThread j (tr ++ [⟨j, o, a, n.state, s⟩]) =
                ofThread j tr ++ [⟨j, o, a, n.state, s⟩] := by simp [ofThread]
            rw [own, Memory.after, List.foldl_append]
            exact rest n.state x a s inside result
          · have others : ofThread i (tr ++ [⟨j, o, a, n.state, s⟩]) = ofThread i tr := by
              simp [ofThread, mine]
            simp only [List.getElem?_set_ne mine] at found
            rw [others]
            exact pool i p found

theorem Run.told_at {early late : List (Event M)} {e : Event M}
    (run : Run c (early ++ e :: late) d)
    (each : ∀ i (p : Prog M ε α), c.pool[i]? = some p → p.Told (m i) I P (seen i)) (start : I c.state) :
    I e.before ∧ (m e.thread).agrees ((m e.thread).after (seen e.thread) (ofThread e.thread early)) e.op := by
  obtain ⟨n, first, rest⟩ := run.split
  obtain ⟨n', step, -⟩ := rest.cons_inv
  obtain ⟨inside, pool⟩ := first.told keeps each start
  cases step with
  | perform waiting result => exact ⟨inside, (pool _ _ waiting).1⟩

end Run

end Interleave

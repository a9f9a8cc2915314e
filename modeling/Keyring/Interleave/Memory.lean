import Keyring.Interleave.Run

/-!
# What a caller has seen

A `Memory` is what a caller keeps of the answers to its own steps.  A program
`Minds` it when each of its operations agrees with what was seen before, whatever
was answered; then each event of the caller agrees with its own history.
-/

set_option autoImplicit false

namespace Interleave

variable {M : Machine} {ε α β σ : Type}

structure Memory (M : Machine) (σ : Type) where
  note : σ → (o : M.Op) → M.Ans o → σ
  agrees : σ → M.Op → Prop

namespace Memory

variable (m : Memory M σ)

/-- What is seen in the events `es`, after `seen`. -/
def after (seen : σ) (es : List (Event M)) : σ :=
  es.foldl (fun seen e => m.note seen e.op e.ans) seen

@[simp] theorem after_nil (seen : σ) : m.after seen [] = seen := rfl

@[simp] theorem after_cons (seen : σ) (e : Event M) (es : List (Event M)) :
    m.after seen (e :: es) = m.after (m.note seen e.op e.ans) es := rfl

/-- What holds of the memory was brought about by a last event, and kept by those
after it, unless it held from the start. -/
theorem last_of_after {P : σ → Prop} {Q T : Event M → Prop} {seen : σ} {es : List (Event M)}
    (each : ∀ seen e, e ∈ es → P (m.note seen e.op e.ans) → (P seen ∧ T e) ∨ Q e)
    (noted : P (m.after seen es)) :
    (P seen ∧ ∀ e ∈ es, T e) ∨
      ∃ early e late, es = early ++ e :: late ∧ Q e ∧ ∀ e' ∈ late, T e' := by
  induction es generalizing seen with
  | nil => exact Or.inl ⟨noted, by simp⟩
  | cons e es ih =>
      rcases ih (fun seen e' later => each seen e' (List.mem_cons_of_mem _ later)) noted with
        ⟨here, kept⟩ | ⟨early, e', late, rfl, found, kept⟩
      · rcases each seen e (by simp) here with ⟨before, keeps⟩ | found
        · exact Or.inl ⟨before, List.forall_mem_cons.mpr ⟨keeps, kept⟩⟩
        · exact Or.inr ⟨[], e, es, rfl, found, kept⟩
      · exact Or.inr ⟨e :: early, e', late, rfl, found, kept⟩

end Memory

namespace Prog

/-- Each operation agrees with what was seen before it. -/
def Minds (m : Memory M σ) : Prog M ε α → σ → Prop
  | .done _, _ => True
  | .call o next, seen => m.agrees seen o ∧ ∀ a, (next a).Minds m (m.note seen o a)

variable {m : Memory M σ}

theorem Minds.of_uses {allowed : M.Op → Prop} {p : Prog M ε α} (uses : p.Uses allowed)
    (free : ∀ o, allowed o → ∀ seen, m.agrees seen o) (seen : σ) : p.Minds m seen := by
  induction p generalizing seen with
  | done r => trivial
  | call o next ih => exact ⟨free o uses.1 seen, fun a => ih a (uses.2 a) _⟩

theorem Minds.bind {p : Prog M ε α} {f : α → Prog M ε β} {seen : σ} (first : p.Minds m seen)
    (rest : ∀ a seen, (f a).Minds m seen) : (p >>= f).Minds m seen := by
  induction p generalizing seen with
  | done r =>
      cases r with
      | ok a => exact rest a seen
      | error e => trivial
  | call o next ih => exact ⟨first.1, fun a => ih a (first.2 a)⟩

theorem Minds.ofExcept_bind {r : Except ε α} {f : α → Prog M ε β} {seen : σ}
    (rest : ∀ a, (f a).Minds m seen) : (Prog.ofExcept r >>= f).Minds m seen := by
  cases r with
  | ok a => exact rest a
  | error e => trivial

end Prog

theorem Path.minds {m : Memory M σ} {p q : Prog M ε α} {early late : List (Event M)} {e : Event M}
    (path : Path p (early ++ e :: late) q) {seen : σ} (minds : p.Minds m seen) :
    m.agrees (m.after seen early) e.op := by
  induction early generalizing p seen with
  | nil =>
      cases path with
      | call rest => exact minds.1
  | cons e' early ih =>
      cases path with
      | call rest => exact ih rest (minds.2 _)

theorem Run.minds {m : Memory M σ} {c d : Config M ε α} {tr : List (Event M)} (run : Run c tr d)
    {p : Prog M ε α} {e : Event M} (member : e ∈ tr) (here : c.pool[e.thread]? = some p)
    {seen : σ} (minds : p.Minds m seen) :
    ∃ early late, ofThread e.thread tr = early ++ e :: late ∧
      m.agrees (m.after seen early) e.op := by
  obtain ⟨q, -, path⟩ := run.path e.thread p here
  obtain ⟨early, late, own⟩ := List.append_of_mem (mem_ofThread.mpr ⟨member, rfl⟩)
  rw [own] at path
  exact ⟨early, late, own, path.minds minds⟩

end Interleave

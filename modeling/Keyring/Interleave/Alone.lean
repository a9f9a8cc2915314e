import Keyring.Interleave.Logic

/-!
# A caller that nobody interrupts

The events of a program that runs alone from start to end: each of them begins
in the state that the one before it left.
-/

set_option autoImplicit false

namespace Interleave

variable {M : Machine} {ε α : Type}

/-- Executions one after the other, from the first state to the last. -/
inductive Linked : M.State → List (Event M) → M.State → Prop where
  | nil (s : M.State) : Linked s [] s
  | cons {e : Event M} {es : List (Event M)} {x : M.Input} {t : M.State}
      (done : M.exec e.op x e.before = some (e.ans, e.after)) (rest : Linked e.after es t) :
      Linked e.before (e :: es) t

namespace Linked

variable {s t : M.State} {es es' : List (Event M)} {e : Event M}

theorem nil_inv (linked : Linked s ([] : List (Event M)) t) : t = s := by
  cases linked
  rfl

theorem cons_inv (linked : Linked s (e :: es) t) :
    e.before = s ∧ (∃ x, M.exec e.op x s = some (e.ans, e.after)) ∧ Linked e.after es t := by
  cases linked with
  | cons done rest => exact ⟨rfl, ⟨_, done⟩, rest⟩

theorem append_inv (linked : Linked s (es ++ es') t) :
    ∃ m, Linked s es m ∧ Linked m es' t := by
  induction es generalizing s with
  | nil => exact ⟨s, .nil s, linked⟩
  | cons e es ih =>
      obtain ⟨rfl, ⟨x, done⟩, rest⟩ := linked.cons_inv
      obtain ⟨m, first, second⟩ := ih rest
      exact ⟨m, .cons done first, second⟩

end Linked

/-- What a program does when it runs alone from `s` to `s'`. -/
structure Alone (p : Prog M ε α) (s : M.State) (es : List (Event M)) (r : Except ε α)
    (s' : M.State) : Prop where
  path : Path p es (.done r)
  linked : Linked s es s'

namespace Alone

variable {β : Type} {s s' : M.State} {es : List (Event M)}

theorem done_inv {r r' : Except ε α} (alone : Alone (.done r : Prog M ε α) s es r' s') :
    es = [] ∧ r' = r ∧ s' = s := by
  obtain ⟨rfl, same⟩ := alone.path.done_inv
  cases same
  exact ⟨rfl, rfl, alone.linked.nil_inv⟩

theorem call_inv {o : M.Op} {next : M.Ans o → Prog M ε α} {r : Except ε α}
    (alone : Alone (.call o next) s es r s') :
    ∃ i a t rest x, es = ⟨i, o, a, s, t⟩ :: rest ∧ M.exec o x s = some (a, t) ∧
      Alone (next a) t rest r s' := by
  obtain ⟨i, a, before, t, rest, rfl, path⟩ := Path.call_done alone.path
  obtain ⟨rfl, ⟨x, done⟩, linked⟩ := alone.linked.cons_inv
  exact ⟨i, a, t, rest, x, rfl, done, path, linked⟩

theorem bind_returned {p : Prog M ε α} {f : α → Prog M ε β} {b : β}
    (alone : Alone (p >>= f) s es (.ok b) s') :
    ∃ a t es₁ es₂, es = es₁ ++ es₂ ∧ Alone p s es₁ (.ok a) t ∧ Alone (f a) t es₂ (.ok b) s' := by
  obtain ⟨a, es₁, es₂, rfl, first, second⟩ := alone.path.bind_returned
  obtain ⟨t, before, after⟩ := alone.linked.append_inv
  exact ⟨a, t, es₁, es₂, rfl, ⟨first, before⟩, ⟨second, after⟩⟩

theorem tryCatch_returned {p : Prog M ε α} {handler : ε → Prog M ε α} {a : α}
    (alone : Alone (tryCatchThe ε p handler) s es (.ok a) s') :
    Alone p s es (.ok a) s' ∨ ∃ e t es₁ es₂, es = es₁ ++ es₂ ∧ Alone p s es₁ (.error e) t ∧
      Alone (handler e) t es₂ (.ok a) s' := by
  rcases alone.path.tryCatch_returned with inside | ⟨e, es₁, es₂, rfl, raised, handling⟩
  · exact Or.inl ⟨inside, alone.linked⟩
  · obtain ⟨t, before, after⟩ := alone.linked.append_inv
    exact Or.inr ⟨e, t, es₁, es₂, rfl, ⟨raised, before⟩, ⟨handling, after⟩⟩

theorem finallyDo_inv {o : M.Op} {p : Prog M ε α} {r : Except ε α}
    (alone : Alone (p.finallyDo o) s es r s') :
    ∃ es' t i a x, es = es' ++ [⟨i, o, a, t, s'⟩] ∧ Alone p s es' r t ∧
      M.exec o x t = some (a, s') := by
  rcases alone.path.finallyDo_inv with ⟨p', -, impossible⟩ | ⟨r', es', i, a, t, t', rfl, ended, same⟩
  · cases p' <;> cases impossible
  · cases same
    obtain ⟨m, before, after⟩ := alone.linked.append_inv
    obtain ⟨rfl, ⟨x, done⟩, rest⟩ := after.cons_inv
    cases rest.nil_inv
    exact ⟨es', t, i, a, x, rfl, ⟨ended, before⟩, done⟩

end Alone

/-- The events of a program that is executed alone on given inputs. -/
def Prog.events : Prog M ε α → List M.Input → M.State → List (Event M)
  | .done _, _, _ => []
  | .call _ _, [], _ => []
  | .call o next, x :: xs, s =>
      match M.exec o x s with
      | some (a, t) => ⟨0, o, a, s, t⟩ :: (next a).events xs t
      | none => []

theorem Prog.events_call {o : M.Op} {next : M.Ans o → Prog M ε α} {x : M.Input} {s t : M.State}
    {a : M.Ans o} (result : M.exec o x s = some (a, t)) (xs : List M.Input) :
    (Prog.call o next).events (x :: xs) s = ⟨0, o, a, s, t⟩ :: (next a).events xs t := by
  rw [Prog.events, result]

theorem Prog.play_call_inv {o : M.Op} {next : M.Ans o → Prog M ε α} {xs : List M.Input}
    {s s' : M.State} {r : Except ε α} (played : (Prog.call o next).play xs s = some (r, s')) :
    ∃ x rest a t, xs = x :: rest ∧ M.exec o x s = some (a, t) ∧
      (next a).play rest t = some (r, s') := by
  cases xs with
  | nil => simp [Prog.play] at played
  | cons x rest =>
      simp only [Prog.play] at played
      split at played
      · rename_i a t result
        exact ⟨x, rest, a, t, rfl, result, played⟩
      · cases played

theorem Prog.play_alone {p : Prog M ε α} {xs : List M.Input} {s s' : M.State}
    {r : Except ε α} (played : p.play xs s = some (r, s')) : Alone p s (p.events xs s) r s' := by
  induction p generalizing xs s with
  | done r' =>
      simp only [Prog.play, Option.some.injEq, Prod.mk.injEq] at played
      obtain ⟨rfl, rfl⟩ := played
      exact ⟨.here _, .nil _⟩
  | call o next ih =>
      cases xs with
      | nil => simp [Prog.play] at played
      | cons x xs =>
          simp only [Prog.play] at played
          split at played
          · rename_i a t result
            obtain ⟨path, linked⟩ := ih a played
            simp only [Prog.events, result]
            exact ⟨.call path, Linked.cons (e := ⟨0, o, a, s, t⟩) result linked⟩
          · cases played

/-! ## From two states -/

/-- Each operation is an `own` one, as long as the answers are as `told`. -/
def Prog.Abides (own : M.Op → Prop) (told : (o : M.Op) → M.Ans o → Prop) : Prog M ε α → Prop
  | .done _ => True
  | .call o next => own o ∧ ∀ s x a t, M.exec o x s = some (a, t) → told o a →
      (next a).Abides own told

section Abides

variable {own : M.Op → Prop} {told : (o : M.Op) → M.Ans o → Prop} {fine : Event M → Prop}
  (tells : ∀ e, fine e → told e.op e.ans) {p : Prog M ε α} {xs : List M.Input}
  {s s' t : M.State} {r : Except ε α}
include tells

/-- A relation that every own operation establishes holds between the ends of a program. -/
theorem Prog.Abides.related {K : M.State → M.State → Prop} (refl : ∀ s, K s s)
    (trans : ∀ {s t u}, K s t → K t u → K s u)
    (each : ∀ o x a s t, own o → fine ⟨0, o, a, s, t⟩ → M.exec o x s = some (a, t) → K s t)
    (abides : p.Abides own told) (known : ∀ e ∈ p.events xs s, fine e)
    (played : p.play xs s = some (r, s')) : K s s' := by
  induction p generalizing xs s with
  | done result =>
      simp only [Prog.play, Option.some.injEq, Prod.mk.injEq] at played
      obtain ⟨rfl, rfl⟩ := played
      exact refl s
  | call o next ih =>
      obtain ⟨x, rest, a, u, rfl, result, later⟩ := Prog.play_call_inv played
      rw [Prog.events_call result, List.forall_mem_cons] at known
      have step := each o x a s u abides.1 known.1 result
      exact trans step (ih a (abides.2 s x a u result (tells _ known.1)) known.2 later)

/-- A program ends alike in two related states, where each own operation does and
leaves them related. -/
theorem Prog.Abides.alike {R : M.State → M.State → Prop}
    (each : ∀ o x a s s' t, own o → R s t → fine ⟨0, o, a, s, s'⟩ →
      (∀ a t', M.exec o x t = some (a, t') → fine ⟨0, o, a, t, t'⟩) →
      M.exec o x s = some (a, s') → ∃ t', M.exec o x t = some (a, t') ∧ R s' t')
    (abides : p.Abides own told) (related : R s t) (first : ∀ e ∈ p.events xs s, fine e)
    (second : ∀ e ∈ p.events xs t, fine e) (played : p.play xs s = some (r, s')) :
    ∃ t', p.play xs t = some (r, t') ∧ R s' t' := by
  induction p generalizing xs s t with
  | done result =>
      simp only [Prog.play, Option.some.injEq, Prod.mk.injEq] at played
      obtain ⟨rfl, rfl⟩ := played
      exact ⟨t, rfl, related⟩
  | call o next ih =>
      obtain ⟨x, rest, a, u, rfl, result, later⟩ := Prog.play_call_inv played
      rw [Prog.events_call result, List.forall_mem_cons] at first
      have opening : ∀ a t', M.exec o x t = some (a, t') → fine ⟨0, o, a, t, t'⟩ := by
        intro a t' result'
        rw [Prog.events_call result', List.forall_mem_cons] at second
        exact second.1
      obtain ⟨t', result', related'⟩ := each o x a s u t abides.1 related first.1 opening result
      rw [Prog.events_call result', List.forall_mem_cons] at second
      have rest := abides.2 s x a u result (tells _ first.1)
      obtain ⟨t'', ended, final⟩ := ih a rest related' first.2 second.2 later
      exact ⟨t'', (Prog.play_call result' _).trans ended, final⟩

end Abides

end Interleave

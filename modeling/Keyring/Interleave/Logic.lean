import Keyring.Interleave.Run

/-!
# Rules for programs under interference

`p.Sat E R G Q s` says of a caller at program `p` and state `s`: whatever
`R`-steps the others make before each of its operations, each operation that is
an `E`-step is a `G`-step, and the program ends in `Q`.  `Run.sat` puts callers
together whose guarantees are each other's rely, in any run of `E`-steps.

A caller that runs alone is the case where nobody interferes (`R` is equality);
`Exec` is its execution from start to end, and `Calls` a sequence of calls made
one after the other.
-/

set_option autoImplicit false

namespace Interleave

variable {M : Machine} {ε α β ι : Type}

/-- What an operation that is answered does to the state. -/
abbrev Machine.Effect (M : Machine) := (o : M.Op) → M.Ans o → M.State → M.State → Prop

/-- Nothing is known of a step but that it happened. -/
def Machine.any (M : Machine) : M.Effect := fun _ _ _ _ => True

namespace Prog

def Sat (E : M.Effect) (R : M.State → M.State → Prop) (G : M.Effect)
    (Q : Except ε α → M.State → Prop) : Prog M ε α → M.State → Prop
  | .done r, s => Q r s
  | .call o next, s =>
      ∀ s', R s s' → ∀ x a t, M.exec o x s' = some (a, t) → E o a s' t →
        G o a s' t ∧ (next a).Sat E R G Q t

section Rules

variable {E G : M.Effect} {R : M.State → M.State → Prop} {Q Q' : Except ε α → M.State → Prop}

theorem Sat.call {o : M.Op} {next : M.Ans o → Prog M ε α} {s : M.State}
    (each : ∀ s', R s s' → ∀ x a t, M.exec o x s' = some (a, t) → E o a s' t →
      G o a s' t ∧ (next a).Sat E R G Q t) : (Prog.call o next).Sat E R G Q s := each

theorem Sat.mono (weaker : ∀ r s, Q r s → Q' r s) {p : Prog M ε α} {s : M.State}
    (sat : p.Sat E R G Q s) : p.Sat E R G Q' s := by
  induction p generalizing s with
  | done r => exact weaker r s sat
  | call o next ih =>
      intro s' rely x a t result known
      obtain ⟨guar, rest⟩ := sat s' rely x a t result known
      exact ⟨guar, ih a rest⟩

theorem Sat.assume {E' : M.Effect} (stronger : ∀ o a s t, E' o a s t → E o a s t)
    {p : Prog M ε α} {s : M.State} (sat : p.Sat E R G Q s) : p.Sat E' R G Q s := by
  induction p generalizing s with
  | done r => exact sat
  | call o next ih =>
      intro s' rely x a t result known
      obtain ⟨guar, rest⟩ := sat s' rely x a t result (stronger o a s' t known)
      exact ⟨guar, ih a rest⟩

theorem Sat.bind {Q' : Except ε β → M.State → Prop} {p : Prog M ε α}
    {f : α → Prog M ε β} {s : M.State} (first : p.Sat E R G Q s)
    (ok : ∀ a t, Q (.ok a) t → (f a).Sat E R G Q' t)
    (error : ∀ e t, Q (.error e) t → Q' (.error e) t) : (p >>= f).Sat E R G Q' s := by
  induction p generalizing s with
  | done r =>
      cases r with
      | ok a => exact ok a s first
      | error e => exact error e s first
  | call o next ih =>
      intro s' rely x a t result known
      obtain ⟨guar, rest⟩ := first s' rely x a t result known
      exact ⟨guar, ih a rest⟩

theorem Sat.ofExcept_bind {Q' : Except ε β → M.State → Prop} {r : Except ε α}
    {f : α → Prog M ε β} {s : M.State} (ok : ∀ a, r = .ok a → (f a).Sat E R G Q' s)
    (error : ∀ e, r = .error e → Q' (.error e) s) : (ofExcept r >>= f).Sat E R G Q' s := by
  cases r with
  | ok a => exact ok a rfl
  | error e => exact error e rfl

/-- A program all of whose operations, wherever they occur, are `G`-steps that
keep `P`. -/
theorem Sat.of_uses {allowed : M.Op → Prop} {P : M.State → Prop} {p : Prog M ε α}
    (uses : p.Uses allowed) (stable : ∀ s t, R s t → P s → P t)
    (each : ∀ o, allowed o → ∀ s x a t, P s → M.exec o x s = some (a, t) → E o a s t →
      G o a s t ∧ P t)
    (finish : ∀ r s, P s → Q r s) {s : M.State} (start : P s) : p.Sat E R G Q s := by
  induction p generalizing s with
  | done r => exact finish r s start
  | call o next ih =>
      intro s' rely x a t result known
      obtain ⟨guar, kept⟩ := each o uses.1 s' x a t (stable s s' rely start) result known
      exact ⟨guar, ih a (uses.2 a) kept⟩

/-- A first part whose operations all stay within `K`, as the others' steps do,
and what comes after it. -/
theorem Sat.bind_uses {Q' : Except ε β → M.State → Prop} {K : M.State → M.State → Prop}
    {allowed : M.Op → Prop} {p : Prog M ε α} {f : α → Prog M ε β} {s : M.State}
    (uses : p.Uses allowed) (refl : ∀ s, K s s) (trans : ∀ s t u, K s t → K t u → K s u)
    (rely : ∀ s t, R s t → K s t)
    (each : ∀ o, allowed o → ∀ s x a t, M.exec o x s = some (a, t) → E o a s t →
      G o a s t ∧ K s t)
    (rest : ∀ a t, K s t → (f a).Sat E R G Q' t)
    (error : ∀ e t, K s t → Q' (.error e) t) : (p >>= f).Sat E R G Q' s := by
  refine Sat.bind (Q := fun _ t => K s t) ?_ rest error
  refine Sat.of_uses (P := K s) uses (fun t u step before => trans s t u before (rely t u step)) ?_
    (fun _ _ kept => kept) (refl s)
  intro o ok t x a u before result known
  obtain ⟨guar, step⟩ := each o ok t x a u result known
  exact ⟨guar, trans s t u before step⟩

/-- Others' steps before the next operation do no harm. -/
theorem Sat.rely (trans : ∀ s t u, R s t → R t u → R s u)
    (stable : ∀ r s t, R s t → Q r s → Q r t) {p : Prog M ε α} {s t : M.State}
    (sat : p.Sat E R G Q s) (step : R s t) : p.Sat E R G Q t := by
  cases p with
  | done r => exact stable r s t step sat
  | call o next => exact fun s' rely => sat s' (trans _ _ _ step rely)

end Rules

end Prog

/-- What a caller does and ends with, whatever the others do in between. -/
theorem Path.sat {E G : M.Effect} {Q : Except ε α → M.State → Prop} {p q : Prog M ε α}
    {es : List (Event M)} {s : M.State} (path : Path p es q)
    (real : ∀ e ∈ es, ∃ x, M.exec e.op x e.before = some (e.ans, e.after))
    (known : ∀ e ∈ es, E e.op e.ans e.before e.after) (sat : p.Sat E (fun _ _ => True) G Q s) :
    (∀ e ∈ es, G e.op e.ans e.before e.after) ∧
      ∃ t, q.Sat E (fun _ _ => True) G Q t := by
  induction path generalizing s with
  | here => exact ⟨by simp, s, sat⟩
  | @call o next i a before after es q rest ih =>
      simp only [List.forall_mem_cons] at real known ⊢
      obtain ⟨x, result⟩ := real.1
      obtain ⟨guar, later⟩ := sat before trivial x a after result known.1
      obtain ⟨events, final⟩ := ih real.2 known.2 later
      exact ⟨⟨guar, events⟩, final⟩

/-- Callers whose guarantees imply the common rely keep them in every run in which
only callers of `T` move. -/
theorem Run.sat {E G : M.Effect} {R : M.State → M.State → Prop}
    {Q : Nat → Except ε α → M.State → Prop} {T : Nat → Prop} (refl : ∀ s, R s s)
    (trans : ∀ s t u, R s t → R t u → R s u)
    (guar : ∀ o a s t, E o a s t → G o a s t → R s t)
    (stable : ∀ i r s t, R s t → Q i r s → Q i r t)
    {c d : Config M ε α} {tr : List (Event M)} (run : Run c tr d)
    (moving : ∀ e ∈ tr, T e.thread) (known : ∀ e ∈ tr, E e.op e.ans e.before e.after)
    (each : ∀ i, T i → ∀ p : Prog M ε α, c.pool[i]? = some p → p.Sat E R G (Q i) c.state) :
    (∀ e ∈ tr, G e.op e.ans e.before e.after) ∧ R c.state d.state ∧
      ∀ i, T i → ∀ p : Prog M ε α, d.pool[i]? = some p → p.Sat E R G (Q i) d.state := by
  induction run with
  | refl => exact ⟨by simp, refl _, each⟩
  | @snoc tr m _ e _ last ih =>
      obtain ⟨events, related, pool⟩ := ih (fun e member => moving e (List.mem_append_left _ member))
        fun e member => known e (List.mem_append_left _ member)
      have newest := known e (by simp)
      have mover := moving e (by simp)
      cases last with
      | @perform j o next x a s waiting result =>
          obtain ⟨guarded, rest⟩ := pool j mover _ waiting m.state (refl _) x a s result newest
          refine ⟨fun e member => ?_, trans _ _ _ related (guar _ _ _ _ newest guarded),
            fun i moves p found => ?_⟩
          · rcases List.mem_append.mp member with earlier | same
            · exact events e earlier
            · rw [List.mem_singleton.mp same]
              exact guarded
          · by_cases mine : j = i
            · subst mine
              have inside := (List.getElem?_eq_some_iff.mp waiting).1
              simp only [List.getElem?_set_self inside, Option.some.injEq] at found
              exact found ▸ rest
            · simp only [List.getElem?_set_ne mine] at found
              have step : R m.state s := guar _ _ _ _ newest guarded
              have before : p.Sat E R G (Q i) m.state := pool i moves p found
              change p.Sat E R G (Q i) s
              exact before.rely trans (stable i) step

/-! ## Calls made one after the other -/

/-- A program run alone from `s` ends with `r` in `s'`. -/
inductive Exec : Prog M ε α → M.State → Except ε α → M.State → Prop where
  | done (r : Except ε α) (s : M.State) : Exec (.done r) s r s
  | call {o : M.Op} {next : M.Ans o → Prog M ε α} {x : M.Input} {a : M.Ans o}
      {s t u : M.State} {r : Except ε α} (result : M.exec o x s = some (a, t))
      (rest : Exec (next a) t r u) : Exec (.call o next) s r u

theorem Exec.sat {G : M.Effect} {Q : Except ε α → M.State → Prop}
    {p : Prog M ε α} {s s' : M.State} {r : Except ε α} (exec : Exec p s r s')
    (sat : p.Sat M.any Eq G Q s) : Q r s' := by
  induction exec with
  | done r s => exact sat
  | call result _ ih => exact ih (sat _ rfl _ _ _ result trivial).2

theorem Exec.done_inv {r r' : Except ε α} {s s' : M.State} (exec : Exec (.done r : Prog M ε α) s r' s') :
    r' = r ∧ s' = s := by
  cases exec; exact ⟨rfl, rfl⟩

theorem Exec.call_inv {o : M.Op} {next : M.Ans o → Prog M ε α} {s s' : M.State}
    {r : Except ε α} (exec : Exec (.call o next) s r s') :
    ∃ x a t, M.exec o x s = some (a, t) ∧ Exec (next a) t r s' := by
  cases exec with
  | call result rest => exact ⟨_, _, _, result, rest⟩

/-- A program that is brought one step further ends as it does from there. -/
theorem Exec.exists_call {o : M.Op} {next : M.Ans o → Prog M ε α} {x : M.Input} {a : M.Ans o}
    {s t : M.State} {P : M.State → Prop} (result : M.exec o x s = some (a, t))
    (rest : ∃ r u, Exec (next a) t r u ∧ P u) : ∃ r u, Exec (.call o next) s r u ∧ P u := by
  obtain ⟨r, u, ends, holds⟩ := rest
  exact ⟨r, u, .call result ends, holds⟩

theorem Exec.bind_ok {p : Prog M ε α} {f : α → Prog M ε β} {s t s' : M.State} {a : α}
    {r : Except ε β} (first : Exec p s (.ok a) t) (rest : Exec (f a) t r s') :
    Exec (p >>= f) s r s' := by
  generalize ended : Except.ok a = r' at first
  induction first with
  | done r' s => subst ended; exact rest
  | call result _ ih => exact .call result (ih rest ended)

theorem Exec.bind_error {p : Prog M ε α} {f : α → Prog M ε β} {s t : M.State} {e : ε}
    (first : Exec p s (.error e) t) : Exec (p >>= f) s (.error e) t := by
  generalize ended : Except.error e = r' at first
  induction first with
  | done r' s => subst ended; exact .done _ _
  | call result _ ih => exact .call result (ih ended)

/-- What the operations that a program uses keep holds when it has ended. -/
theorem Exec.preserves {p : Prog M ε α} {s s' : M.State} {r : Except ε α} (exec : Exec p s r s')
    {allowed : M.Op → Prop} (uses : p.Uses allowed) (P : M.State → Prop)
    (keeps : ∀ o, allowed o → ∀ x s a t, M.exec o x s = some (a, t) → P s → P t) (start : P s) :
    P s' := by
  induction exec with
  | done r s => exact start
  | call result _ ih => exact ih (uses.2 _) (keeps _ uses.1 _ _ _ _ result start)

theorem Exec.bind_inv {p : Prog M ε α} {f : α → Prog M ε β} {s s' : M.State}
    {r : Except ε β} (exec : Exec (p >>= f) s r s') :
    (∃ e, Exec p s (.error e) s' ∧ r = .error e) ∨
      ∃ a t, Exec p s (.ok a) t ∧ Exec (f a) t r s' := by
  induction p generalizing s with
  | done r' =>
      cases r' with
      | ok a => exact Or.inr ⟨a, s, .done _ _, exec⟩
      | error e =>
          cases exec
          exact Or.inl ⟨e, .done _ _, rfl⟩
  | call o next ih =>
      rw [Prog.bind_call] at exec
      cases exec with
      | call result rest =>
          rcases ih _ rest with ⟨e, failed, same⟩ | ⟨a, t, first, second⟩
          · exact Or.inl ⟨e, .call result failed, same⟩
          · exact Or.inr ⟨a, t, .call result first, second⟩

/-- Execute a program alone on given inputs. -/
def Prog.play : Prog M ε α → List M.Input → M.State → Option (Except ε α × M.State)
  | .done r, _, s => some (r, s)
  | .call _ _, [], _ => none
  | .call o next, x :: xs, s =>
      match M.exec o x s with
      | some (a, t) => (next a).play xs t
      | none => none

theorem Prog.play_call {o : M.Op} {next : M.Ans o → Prog M ε α} {x : M.Input} {s t : M.State}
    {a : M.Ans o} (result : M.exec o x s = some (a, t)) (xs : List M.Input) :
    (Prog.call o next).play (x :: xs) s = (next a).play xs t := by
  rw [Prog.play, result]

theorem Prog.play_exec {p : Prog M ε α} {xs : List M.Input} {s s' : M.State}
    {r : Except ε α} (played : p.play xs s = some (r, s')) : Exec p s r s' := by
  induction p generalizing xs s with
  | done r' =>
      simp only [Prog.play, Option.some.injEq, Prod.mk.injEq] at played
      obtain ⟨rfl, rfl⟩ := played
      exact .done _ _
  | call o next ih =>
      cases xs with
      | nil => simp [Prog.play] at played
      | cons x xs =>
          simp only [Prog.play] at played
          split at played
          · rename_i a t result
            exact .call result (ih a played)
          · cases played

/-- A call that was made alone, with the states around it and its outcome. -/
structure Made (M : Machine) (ι ε α : Type) where
  call : ι
  before : M.State
  result : Except ε α
  after : M.State

/-- Calls made one after the other; what a call does may depend on the state
it begins in. -/
inductive Calls (prog : ι → M.State → Prog M ε α) (s : M.State) :
    List (Made M ι ε α) → M.State → Prop where
  | refl : Calls prog s [] s
  | snoc {made : List (Made M ι ε α)} {t u : M.State} {c : ι} {r : Except ε α}
      (init : Calls prog s made t) (last : Exec (prog c t) t r u) :
      Calls prog s (made ++ [⟨c, t, r, u⟩]) u

theorem Calls.cons {prog : ι → M.State → Prog M ε α} {s t u : M.State} {c : ι} {r : Except ε α}
    {made : List (Made M ι ε α)} (first : Exec (prog c s) s r t) (rest : Calls prog t made u) :
    Calls prog s (⟨c, s, r, t⟩ :: made) u := by
  induction rest with
  | refl => exact Calls.snoc .refl first
  | snoc _ last ih => exact Calls.snoc ih last

/-- Make the calls, each on its own inputs; one whose inputs run out is the end. -/
def playCalls (prog : ι → M.State → Prog M ε α) :
    List (ι × List M.Input) → M.State → List (Made M ι ε α) × M.State
  | [], s => ([], s)
  | (c, xs) :: turns, s =>
      match (prog c s).play xs s with
      | some (r, t) => (⟨c, s, r, t⟩ :: (playCalls prog turns t).1, (playCalls prog turns t).2)
      | none => ([], s)

theorem playCalls_calls (prog : ι → M.State → Prog M ε α) (turns : List (ι × List M.Input))
    (s : M.State) : Calls prog s (playCalls prog turns s).1 (playCalls prog turns s).2 := by
  induction turns generalizing s with
  | nil => exact .refl
  | cons turn turns ih =>
      obtain ⟨c, xs⟩ := turn
      rw [playCalls]
      split
      · rename_i r t played
        exact Calls.cons (Prog.play_exec played) (ih t)
      · exact .refl

theorem playCalls_mem {prog : ι → M.State → Prog M ε α} {turns : List (ι × List M.Input)}
    {s : M.State} {m : Made M ι ε α} (member : m ∈ (playCalls prog turns s).1) :
    m.call ∈ turns.map Prod.fst := by
  induction turns generalizing s with
  | nil => simp [playCalls] at member
  | cons turn turns ih =>
      obtain ⟨c, xs⟩ := turn
      rw [playCalls] at member
      split at member
      · rcases List.mem_cons.mp member with rfl | later
        · exact List.mem_cons_self ..
        · exact List.mem_cons_of_mem _ (ih later)
      · simp at member

end Interleave

import Keyring.Interleave.Exclusion

/-!
# Critical sections

Callers that share a resource under a lock, each outside of the lock but for one
section.  While nobody holds the lock an invariant holds of the resource and of
what was noted of the steps; the caller that holds it is disturbed by quiet steps
only, and restores the invariant before it gives the lock back (`Prog.Keeps`).
Then what is good stays good in every run (`Run.keeps`).
-/

set_option autoImplicit false

namespace Interleave

variable {M : Machine} {σ τ ε α β : Type}

/-- `note` is what is kept of the steps, and `own` what is kept of one caller's. -/
structure Shared (M : Machine) (σ τ : Type) where
  lock : Lock M
  note : σ → Event M → σ
  own : Nat → σ → τ
  known : Event M → Prop
  quiet : M.Op → Prop
  idle : σ → M.State → σ → M.State → Prop
  inv : σ → M.State → Prop
  good : σ → Prop
  note_own : ∀ {i g e}, e.thread ≠ i → own i (note g e) = own i g
  idle_refl : ∀ g s, idle g s g s
  idle_trans : ∀ {g s g' s' g'' s''}, idle g s g' s' → idle g' s' g'' s'' → idle g s g'' s''
  quiet_idle : ∀ {g e x}, quiet e.op → known e → M.exec e.op x e.before = some (e.ans, e.after) →
    idle g e.before (note g e) e.after
  quiet_gives : ∀ {o}, quiet o → ¬ lock.gives o
  inv_idle : ∀ {g s g' s'}, idle g s g' s' → inv g s → inv g' s'
  good_idle : ∀ {g s g' s'}, idle g s g' s' → good g → good g'
  inv_good : ∀ {g s}, inv g s → good g

namespace Shared

variable (S : Shared M σ τ) (i : Nat)

/-- What the others can do to what a caller sees: the notes, and the state while it
holds the lock. -/
inductive Disturbed : σ → Option M.State → σ → Option M.State → Prop where
  | outside {g g' : σ} (same : S.own i g' = S.own i g) : Disturbed g none g' none
  | inside {g g' : σ} {s s' : M.State} (same : S.own i g' = S.own i g)
      (idle : S.idle g s g' s') : Disturbed g (some s) g' (some s')

variable {S} {i}

theorem Disturbed.refl (g : σ) (held : Option M.State) : S.Disturbed i g held g held := by
  cases held with
  | none => exact .outside rfl
  | some s => exact .inside rfl (S.idle_refl g s)

theorem Disturbed.trans {g g' g'' : σ} {held held' held'' : Option M.State}
    (first : S.Disturbed i g held g' held') (rest : S.Disturbed i g' held' g'' held'') :
    S.Disturbed i g held g'' held'' := by
  cases first with
  | outside same =>
      cases rest with
      | outside same' => exact .outside (same'.trans same)
  | inside same idle =>
      cases rest with
      | inside same' idle' => exact .inside (same'.trans same) (S.idle_trans idle idle')

end Shared

namespace Prog

/-- The caller `i` at this program, which holds the lock at the state `held` if it
does, keeps the resource, and ends in `Q`. -/
def Keeps (S : Shared M σ τ) (i : Nat) (Q : Except ε α → σ → Option M.State → Prop) :
    Prog M ε α → σ → Option M.State → Prop
  | .done r, g, held => ∀ g' held', S.Disturbed i g held g' held' → Q r g' held'
  | .call o next, g, held => ∀ g' held', S.Disturbed i g held g' held' →
      ∀ x s a t, M.exec o x s = some (a, t) → S.known ⟨i, o, a, s, t⟩ →
        match held' with
        | none =>
            (S.lock.takes o ∧ (S.inv g' s → S.good (S.note g' ⟨i, o, a, s, t⟩) ∧
              (next a).Keeps S i Q (S.note g' ⟨i, o, a, s, t⟩) (some t))) ∨
            (S.quiet o ∧ (next a).Keeps S i Q (S.note g' ⟨i, o, a, s, t⟩) none)
        | some s' => s = s' →
            (S.lock.gives o ∧ S.inv (S.note g' ⟨i, o, a, s, t⟩) t ∧
              (next a).Keeps S i Q (S.note g' ⟨i, o, a, s, t⟩) none) ∨
            (¬ S.lock.takes o ∧ ¬ S.lock.gives o ∧ S.good (S.note g' ⟨i, o, a, s, t⟩) ∧
              (next a).Keeps S i Q (S.note g' ⟨i, o, a, s, t⟩) (some t))

variable {S : Shared M σ τ} {i : Nat}
  {Q : Except ε α → σ → Option M.State → Prop} {Q' : Except ε β → σ → Option M.State → Prop}

/-- Steps of the others do no harm. -/
theorem Keeps.disturbed {p : Prog M ε α} {g g' : σ} {held held' : Option M.State}
    (keeps : p.Keeps S i Q g held) (moved : S.Disturbed i g held g' held') :
    p.Keeps S i Q g' held' := by
  cases p with
  | done r => exact fun g'' held'' later => keeps g'' held'' (moved.trans later)
  | call o next => exact fun g'' held'' later => keeps g'' held'' (moved.trans later)

/-- What is kept after each answer is all that matters of what comes after a step. -/
theorem Keeps.call_imp {o : M.Op} {next : M.Ans o → Prog M ε α} {next' : M.Ans o → Prog M ε β}
    {g : σ} {held : Option M.State} (keeps : (Prog.call o next).Keeps S i Q g held)
    (each : ∀ a g held, (next a).Keeps S i Q g held → (next' a).Keeps S i Q' g held) :
    (Prog.call o next').Keeps S i Q' g held := by
  intro g' held' moved x s a t result known
  have here := keeps g' held' moved x s a t result known
  cases held' with
  | none =>
      rcases here with ⟨takes, later⟩ | ⟨quiet, later⟩
      · exact Or.inl ⟨takes, fun inv => ⟨(later inv).1, each a _ _ (later inv).2⟩⟩
      · exact Or.inr ⟨quiet, each a _ _ later⟩
  | some s' =>
      intro same
      rcases here same with ⟨gives, inv, later⟩ | ⟨takes, gives, good, later⟩
      · exact Or.inl ⟨gives, inv, each a _ _ later⟩
      · exact Or.inr ⟨takes, gives, good, each a _ _ later⟩

theorem Keeps.bind {p : Prog M ε α} {f : α → Prog M ε β} {g : σ} {held : Option M.State}
    (first : p.Keeps S i Q g held)
    (ok : ∀ a g held, Q (.ok a) g held → (f a).Keeps S i Q' g held)
    (error : ∀ e g held, Q (.error e) g held → Q' (.error e) g held) :
    (p >>= f).Keeps S i Q' g held := by
  induction p generalizing g held with
  | done r =>
      cases r with
      | ok a => exact ok a g held (first g held (.refl g held))
      | error e => exact fun g' held' moved => error e g' held' (first g' held' moved)
  | call o next ih => exact first.call_imp fun a _ _ later => ih a later

theorem Keeps.tryCatch {Q' : Except ε α → σ → Option M.State → Prop} {p : Prog M ε α}
    {handler : ε → Prog M ε α} {g : σ} {held : Option M.State} (first : p.Keeps S i Q g held)
    (ok : ∀ a g held, Q (.ok a) g held → Q' (.ok a) g held)
    (error : ∀ e g held, Q (.error e) g held → (handler e).Keeps S i Q' g held) :
    (tryCatchThe ε p handler).Keeps S i Q' g held := by
  induction p generalizing g held with
  | done r =>
      cases r with
      | ok a => exact fun g' held' moved => ok a g' held' (first g' held' moved)
      | error e => exact error e g held (first g held (.refl g held))
  | call o next ih => exact first.call_imp fun a _ _ later => ih a later

theorem Keeps.finallyDo {Q' : Except ε α → σ → Option M.State → Prop} {p : Prog M ε α} {o : M.Op}
    {g : σ} {held : Option M.State} (first : p.Keeps S i Q g held)
    (last : ∀ r g held, Q r g held → (Prog.call o fun _ => .done r).Keeps S i Q' g held) :
    (p.finallyDo o).Keeps S i Q' g held := by
  induction p generalizing g held with
  | done r => exact last r g held (first g held (.refl g held))
  | call o' next ih => exact first.call_imp fun a _ _ later => ih a later

/-- A step that is made without the lock. -/
theorem Keeps.quiet {o : M.Op} {next : M.Ans o → Prog M ε α} {g : σ} (quiet : S.quiet o)
    (each : ∀ g', S.own i g' = S.own i g → ∀ x s a t, M.exec o x s = some (a, t) →
      (next a).Keeps S i Q (S.note g' ⟨i, o, a, s, t⟩) none) :
    (Prog.call o next).Keeps S i Q g none := by
  intro g' held' moved x s a t result known
  cases moved with
  | outside same => exact Or.inr ⟨quiet, each g' same x s a t result⟩

theorem Keeps.done {r : Except ε α} {g : σ} (each : ∀ g', S.own i g' = S.own i g → Q r g' none) :
    (Prog.done r : Prog M ε α).Keeps S i Q g none := by
  intro g' held' moved
  cases moved with
  | outside same => exact each g' same

/-! ## Inside a section -/

section Within

variable (S) (i)

/-- What a caller knows in its section, and quiet steps of the others do not change. -/
def Stable (P : σ → M.State → Prop) : Prop :=
  ∀ ⦃g s g' s'⦄, S.own i g' = S.own i g → S.idle g s g' s' → P g s → P g' s'

/-- Within the section, from `P` the program ends in `R`. -/
def Within (P : σ → M.State → Prop) (p : Prog M ε α) (R : Except ε α → σ → M.State → Prop) : Prop :=
  ∀ g s, P g s → p.Keeps S i (fun r g held => ∃ s, held = some s ∧ R r g s) g (some s)

variable {S} {i} {P : σ → M.State → Prop} {R : Except ε α → σ → M.State → Prop}
  {R' : Except ε β → σ → M.State → Prop}

theorem Within.done {r : Except ε α} (stable : Stable S i (R r)) (here : ∀ g s, P g s → R r g s) :
    Within S i P (Prog.done r) R := by
  intro g s start g' held' moved
  cases moved with
  | inside same idle => exact ⟨_, rfl, stable same idle (here g s start)⟩

/-- One step of the section. -/
theorem Within.call {o : M.Op} {next : M.Ans o → Prog M ε α} (stable : Stable S i P)
    (takes : ¬ S.lock.takes o) (gives : ¬ S.lock.gives o) {B : M.Ans o → σ → M.State → Prop}
    (each : ∀ g s x a t, P g s → M.exec o x s = some (a, t) → S.known ⟨i, o, a, s, t⟩ →
      S.good (S.note g ⟨i, o, a, s, t⟩) ∧ B a (S.note g ⟨i, o, a, s, t⟩) t)
    (rest : ∀ a, Within S i (B a) (next a) R) : Within S i P (Prog.call o next) R := by
  intro g s start g' held' moved x s' a t result known
  cases moved with
  | inside same idle =>
      rintro rfl
      obtain ⟨good, after⟩ := each g' s' x a t (stable same idle start) result known
      exact Or.inr ⟨takes, gives, good, rest a _ _ after⟩

theorem Within.step {o : M.Op} {f : M.Ans o → Prog M ε β} (stable : Stable S i P)
    (takes : ¬ S.lock.takes o) (gives : ¬ S.lock.gives o) {B : M.Ans o → σ → M.State → Prop}
    (each : ∀ g s x a t, P g s → M.exec o x s = some (a, t) → S.known ⟨i, o, a, s, t⟩ →
      S.good (S.note g ⟨i, o, a, s, t⟩) ∧ B a (S.note g ⟨i, o, a, s, t⟩) t)
    (rest : ∀ a, Within S i (B a) (f a) R') : Within S i P (perform o >>= f) R' :=
  Within.call stable takes gives each rest

theorem Within.bind {p : Prog M ε α} {f : α → Prog M ε β} (first : Within S i P p R)
    (ok : ∀ a, Within S i (R (.ok a)) (f a) R') (error : ∀ e g s, R (.error e) g s → R' (.error e) g s) :
    Within S i P (p >>= f) R' := by
  intro g s start
  refine Keeps.bind (first g s start) ?_ ?_
  · rintro a g' held ⟨s', rfl, here⟩
    exact ok a g' s' here
  · rintro e g' held ⟨s', rfl, here⟩
    exact ⟨s', rfl, error e g' s' here⟩

theorem Within.tryCatch {p : Prog M ε α} {handler : ε → Prog M ε α}
    {R' : Except ε α → σ → M.State → Prop} (first : Within S i P p R)
    (ok : ∀ a g s, R (.ok a) g s → R' (.ok a) g s)
    (error : ∀ e, Within S i (R (.error e)) (handler e) R') :
    Within S i P (tryCatchThe ε p handler) R' := by
  intro g s start
  refine Keeps.tryCatch (first g s start) ?_ ?_
  · rintro a g' held ⟨s', rfl, here⟩
    exact ⟨s', rfl, ok a g' s' here⟩
  · rintro e g' held ⟨s', rfl, here⟩
    exact error e g' s' here

/-- A section: the lock is taken, and given back however the body ends. -/
theorem Keeps.locked {take give : M.Op} {body : Prog M ε α} {g : σ}
    (takes : S.lock.takes take) (gives : S.lock.gives give)
    (opening : ∀ g' s x a t, S.own i g' = S.own i g → S.inv g' s →
      M.exec take x s = some (a, t) → S.known ⟨i, take, a, s, t⟩ →
      S.good (S.note g' ⟨i, take, a, s, t⟩) ∧ P (S.note g' ⟨i, take, a, s, t⟩) t)
    (within : Within S i P body R) (stable : ∀ r, Stable S i (R r))
    (closing : ∀ r g s x a t, R r g s → M.exec give x s = some (a, t) →
      S.known ⟨i, give, a, s, t⟩ → S.inv (S.note g ⟨i, give, a, s, t⟩) t ∧
        ∀ g', S.own i g' = S.own i (S.note g ⟨i, give, a, s, t⟩) → Q r g' none) :
    (Prog.call take fun _ => body.finallyDo give).Keeps S i Q g none := by
  intro g' held' moved x s a t result known
  cases moved with
  | outside same =>
      refine Or.inl ⟨takes, fun inv => ?_⟩
      obtain ⟨good, opened⟩ := opening g' s x a t same inv result known
      refine ⟨good, Keeps.finallyDo (within _ t opened) ?_⟩
      rintro r g₁ held ⟨s₁, rfl, ended⟩ g₂ held₂ moved₂ y s₂ b u result₂ known₂
      cases moved₂ with
      | inside same₂ idle =>
          rintro rfl
          obtain ⟨inv, after⟩ :=
            closing r g₂ s₂ y b u (stable r same₂ idle ended) result₂ known₂
          exact Or.inl ⟨gives, inv, Keeps.done after⟩

end Within

end Prog

/-! ## Runs -/

section Runs

variable {S : Shared M σ τ} {Q : Nat → Except ε α → σ → Option M.State → Prop}
  {c d : Config M ε α} {g : σ} {holder : Option Nat}

/-- The state, for the caller that holds the lock. -/
def heldBy (holder : Option Nat) (s : M.State) (i : Nat) : Option M.State :=
  if holder = some i then some s else none

/-- Each caller keeps the resource, and at most one is inside its section. -/
structure Ordered (S : Shared M σ τ) (Q : Nat → Except ε α → σ → Option M.State → Prop)
    (g : σ) (c : Config M ε α) (holder : Option Nat) : Prop where
  keeps : ∀ (i : Nat) (p : Prog M ε α), c.pool[i]? = some p →
    p.Keeps S i (Q i) g (heldBy holder c.state i)
  free : holder = none → S.inv g c.state
  busy : holder ≠ none → S.lock.held c.state
  good : S.good g

theorem Ordered.others {i : Nat} {o : M.Op} {next : M.Ans o → Prog M ε α} {a : M.Ans o}
    {t : M.State} {holder' : Option Nat} (ordered : Ordered S Q g c holder)
    (waiting : c.pool[i]? = some (.call o next))
    (mover : (next a).Keeps S i (Q i) (S.note g ⟨i, o, a, c.state, t⟩) (heldBy holder' t i))
    (undisturbed : ∀ j, j ≠ i → S.Disturbed j g (heldBy holder c.state j)
      (S.note g ⟨i, o, a, c.state, t⟩) (heldBy holder' t j)) :
    ∀ (j : Nat) (p : Prog M ε α), (c.pool.set i (next a))[j]? = some p →
      p.Keeps S j (Q j) (S.note g ⟨i, o, a, c.state, t⟩) (heldBy holder' t j) := by
  intro j p found
  by_cases mine : i = j
  · subst mine
    have inside := (List.getElem?_eq_some_iff.mp waiting).1
    simp only [List.getElem?_set_self inside, Option.some.injEq] at found
    exact found ▸ mover
  · simp only [List.getElem?_set_ne mine] at found
    exact (ordered.keeps j p found).disturbed (undisturbed j (Ne.symm mine))

theorem Ordered.step {e : Event M} (ordered : Ordered S Q g c holder) (step : Step c e d)
    (known : S.known e) : ∃ holder', Ordered S Q (S.note g e) d holder' := by
  cases step with
  | @perform i o next x a t waiting result =>
      have others : ∀ j, j ≠ i → S.own j (S.note g ⟨i, o, a, c.state, t⟩) = S.own j g :=
        fun j other => S.note_own (Ne.symm other)
      have here := ordered.keeps i _ waiting g _ (.refl g _) x c.state a t result known
      by_cases inside : holder = some i
      · subst inside
        simp only [heldBy, if_true, forall_const] at here
        have outside : ∀ j, j ≠ i → heldBy (some i) c.state j = none := by
          intro j other
          simp [heldBy, Ne.symm other]
        rcases here with ⟨gives, inv, later⟩ | ⟨takes, gives, good, later⟩
        · refine ⟨none, ordered.others waiting later fun j other => ?_, fun _ => inv,
            fun none => absurd rfl none, S.inv_good inv⟩
          rw [outside j other]
          exact .outside (others j other)
        · refine ⟨some i, ordered.others waiting (by simpa [heldBy] using later) fun j other => ?_,
            fun none => (by cases none), fun _ => ?_, good⟩
          · rw [outside j other]
            simp only [heldBy, Option.some.injEq, Ne.symm other, if_false]
            exact .outside (others j other)
          · exact S.lock.kept result gives (ordered.busy (by simp))
      · have absent : heldBy holder c.state i = none := if_neg inside
        rw [absent] at here
        rcases here with ⟨takes, later⟩ | ⟨quiet, later⟩
        · have nobody : holder = none := by
            by_contra somebody
            exact S.lock.free result takes (ordered.busy somebody)
          obtain ⟨good, later⟩ := later (ordered.free nobody)
          refine ⟨some i, ordered.others waiting (by simpa [heldBy] using later) fun j other => ?_,
            fun none => (by cases none), fun _ => S.lock.taken result takes, good⟩
          simp only [heldBy, nobody, reduceCtorEq, Option.some.injEq, Ne.symm other, if_false]
          exact .outside (others j other)
        · have idle := S.quiet_idle quiet known result (g := g)
          refine ⟨holder, ordered.others waiting ?_ fun j other => ?_,
            fun none => S.inv_idle idle (ordered.free none),
            fun somebody => S.lock.kept result (S.quiet_gives quiet) (ordered.busy somebody),
            S.good_idle idle ordered.good⟩
          · rw [heldBy, if_neg inside]
            exact later
          · by_cases holds : holder = some j
            · simp only [heldBy, holds, if_true]
              exact .inside (others j other) idle
            · simp only [heldBy, holds, if_false]
              exact .outside (others j other)

/-- In a run of callers that keep the resource, what is noted stays good. -/
theorem Run.keeps {tr : List (Event M)} (run : Run c tr d) (known : ∀ e ∈ tr, S.known e)
    (start : S.inv g c.state)
    (each : ∀ (i : Nat) (p : Prog M ε α), c.pool[i]? = some p → p.Keeps S i (Q i) g none) :
    ∃ holder, Ordered S Q (tr.foldl S.note g) d holder := by
  induction run with
  | refl =>
      refine ⟨none, fun i p found => ?_, fun _ => start, fun none => absurd rfl none,
        S.inv_good start⟩
      simpa [heldBy] using each i p found
  | @snoc tr m _ e init last ih =>
      obtain ⟨holder, ordered⟩ := ih fun e' earlier => known e' (List.mem_append_left _ earlier)
      simp only [List.foldl_append, List.foldl_cons, List.foldl_nil]
      exact ordered.step last (known e (by simp))

end Runs

end Interleave

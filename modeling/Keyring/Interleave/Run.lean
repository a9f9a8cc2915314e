import Mathlib.Data.List.Induction
import Keyring.Interleave.Prog

/-!
# Interleaved runs and their histories

A `Config` is the shared state with a pool of callers, each at some point of
its program.  One step lets one caller perform its next operation; a `Run` is
any sequence of steps, with the events it leaves behind.  What one caller did
in a run is a path through its own program (`Run.path`), whatever the others
did in between.
-/

set_option autoImplicit false

namespace Interleave

variable {M : Machine} {ε α β : Type}

structure Config (M : Machine) (ε α : Type) where
  state : M.State
  pool : List (Prog M ε α)

structure Event (M : Machine) where
  thread : Nat
  op : M.Op
  ans : M.Ans op
  before : M.State
  after : M.State

inductive Step : Config M ε α → Event M → Config M ε α → Prop where
  | perform {c : Config M ε α} {i : Nat} {o : M.Op} {next : M.Ans o → Prog M ε α}
      {x : M.Input} {a : M.Ans o} {s : M.State}
      (waiting : c.pool[i]? = some (.call o next))
      (result : M.exec o x c.state = some (a, s)) :
      Step c ⟨i, o, a, c.state, s⟩ ⟨s, c.pool.set i (next a)⟩

inductive Run (c : Config M ε α) : List (Event M) → Config M ε α → Prop where
  | refl : Run c [] c
  | snoc {tr : List (Event M)} {d d' : Config M ε α} {e : Event M}
      (init : Run c tr d) (last : Step d e d') : Run c (tr ++ [e]) d'

/-- The state of a run before each event and at its end. -/
def states (s : M.State) (tr : List (Event M)) : List M.State := s :: tr.map Event.after

/-- From any state of the run where `P` holds, `P` holds in every later one. -/
def OnceAlways (P : M.State → Prop) (s : M.State) (tr : List (Event M)) : Prop :=
  (states s tr).Pairwise fun early late => P early → P late

section Steps

variable {c d d' : Config M ε α} {e : Event M}

theorem Step.before_eq (step : Step c e d) : e.before = c.state := by
  cases step; rfl

theorem Step.after_eq (step : Step c e d) : e.after = d.state := by
  cases step; rfl

theorem Step.exec_eq (step : Step c e d) :
    ∃ x, M.exec e.op x e.before = some (e.ans, e.after) := by
  cases step with
  | perform _ result => exact ⟨_, result⟩

theorem Step.pool_length (step : Step c e d) : d.pool.length = c.pool.length := by
  cases step; simp

theorem Step.thread_lt (step : Step c e d) : e.thread < c.pool.length := by
  cases step with
  | perform waiting _ => exact (List.getElem?_eq_some_iff.mp waiting).1

end Steps

namespace Run

variable {c d : Config M ε α} {tr : List (Event M)}

theorem single {e : Event M} (step : Step c e d) : Run c [e] d := by
  simpa using Run.snoc .refl step

theorem trans {m : Config M ε α} {tr' : List (Event M)} (first : Run c tr m)
    (rest : Run m tr' d) : Run c (tr ++ tr') d := by
  induction rest with
  | refl => simpa using first
  | snoc _ last ih => simpa [List.append_assoc] using Run.snoc ih last

theorem snoc_inv {e : Event M} (run : Run c (tr ++ [e]) d) : ∃ m, Run c tr m ∧ Step m e d := by
  generalize whole : tr ++ [e] = all at run
  cases run with
  | refl => simp at whole
  | @snoc tr' m _ e' init last =>
      obtain ⟨rfl, same⟩ := List.append_inj' whole rfl
      cases same
      exact ⟨m, init, last⟩

theorem split {tr₁ tr₂ : List (Event M)} (run : Run c (tr₁ ++ tr₂) d) :
    ∃ m, Run c tr₁ m ∧ Run m tr₂ d := by
  induction tr₂ using List.reverseRecOn generalizing d with
  | nil => exact ⟨d, by simpa using run, .refl⟩
  | append_singleton tr₂ e ih =>
      rw [← List.append_assoc] at run
      obtain ⟨n, init, last⟩ := run.snoc_inv
      obtain ⟨m, first, rest⟩ := ih init
      exact ⟨m, first, rest.snoc last⟩

theorem cons_inv {e : Event M} (run : Run c (e :: tr) d) : ∃ m, Step c e m ∧ Run m tr d := by
  obtain ⟨m, first, rest⟩ := (show Run c ([e] ++ tr) d from run).split
  have first : Run c ([] ++ [e]) m := first
  obtain ⟨n, nothing, step⟩ := first.snoc_inv
  generalize empty : ([] : List (Event M)) = noEvents at nothing
  cases nothing with
  | refl => exact ⟨m, step, rest⟩
  | snoc _ _ => simp at empty

theorem pool_length (run : Run c tr d) : d.pool.length = c.pool.length := by
  induction run with
  | refl => rfl
  | snoc _ last ih => rw [last.pool_length, ih]

theorem thread_lt (run : Run c tr d) : ∀ e ∈ tr, e.thread < c.pool.length := by
  induction run with
  | refl => simp
  | snoc init last ih =>
      intro e member
      rcases List.mem_append.mp member with earlier | newest
      · exact ih e earlier
      · rw [List.mem_singleton.mp newest, ← init.pool_length]
        exact last.thread_lt

/-- Every event of a run is one execution of its operation. -/
theorem exec_eq (run : Run c tr d) :
    ∀ e ∈ tr, ∃ x, M.exec e.op x e.before = some (e.ans, e.after) := by
  induction run with
  | refl => simp
  | snoc _ last ih =>
      intro e member
      rcases List.mem_append.mp member with earlier | newest
      · exact ih e earlier
      · rw [List.mem_singleton.mp newest]
        exact last.exec_eq

/-- An invariant that each event of the run keeps holds at its end. -/
theorem preserves (P : M.State → Prop) (run : Run c tr d)
    (keeps : ∀ e ∈ tr, P e.before → P e.after) (start : P c.state) : P d.state := by
  induction run with
  | refl => exact start
  | snoc _ last ih =>
      have earlier := ih fun e member => keeps e (List.mem_append_left _ member)
      have newest := keeps _ (List.mem_append_right _ (List.mem_singleton.mpr rfl))
      rw [last.before_eq, last.after_eq] at newest
      exact newest earlier

/-- A relation that is reflexive and transitive and holds across each event
holds across the run. -/
theorem related (R : M.State → M.State → Prop) (refl : ∀ s, R s s)
    (trans : ∀ {s t u}, R s t → R t u → R s u) (run : Run c tr d)
    (each : ∀ e ∈ tr, R e.before e.after) : R c.state d.state := by
  induction run with
  | refl => exact refl _
  | snoc _ last ih =>
      have earlier := ih fun e member => each e (List.mem_append_left _ member)
      have newest := each _ (List.mem_append_right _ (List.mem_singleton.mpr rfl))
      rw [last.before_eq, last.after_eq] at newest
      exact trans earlier newest

theorem before_of_split {tr₁ tr₂ : List (Event M)} {e : Event M}
    (run : Run c (tr₁ ++ e :: tr₂) d) : ∃ m, Run c tr₁ m ∧ m.state = e.before := by
  obtain ⟨m, first, rest⟩ := run.split
  obtain ⟨n, step, _⟩ := rest.cons_inv
  exact ⟨m, first, step.before_eq.symm⟩

theorem preserves_before (P : M.State → Prop) (run : Run c tr d)
    (keeps : ∀ e ∈ tr, P e.before → P e.after) (start : P c.state) : ∀ e ∈ tr, P e.before := by
  intro e member
  obtain ⟨early, late, rfl⟩ := List.append_of_mem member
  obtain ⟨m, first, here⟩ := run.before_of_split
  rw [← here]
  exact first.preserves P (fun e' earlier => keeps e' (List.mem_append_left _ earlier)) start

theorem onceAlways_snoc {P : M.State → Prop} {s : M.State} {e : Event M} :
    OnceAlways P s (tr ++ [e]) ↔
      OnceAlways P s tr ∧ ∀ early ∈ states s tr, P early → P e.after := by
  simp only [OnceAlways, states, List.map_append, List.map_cons, List.map_nil,
    ← List.cons_append, List.pairwise_append, List.pairwise_singleton, List.mem_singleton,
    forall_eq, true_and]

theorem states_last (run : Run c tr d) : ∃ earlier, states c.state tr = earlier ++ [d.state] := by
  cases run with
  | refl => exact ⟨[], rfl⟩
  | @snoc tr _ _ _ _ last => exact ⟨states c.state tr, by simp [states, last.after_eq]⟩

theorem state_mem_states (run : Run c tr d) : d.state ∈ states c.state tr := by
  obtain ⟨earlier, split⟩ := run.states_last
  simp [split]

/-- What holds once holds always exactly when no single event destroys it. -/
theorem onceAlways_iff (P : M.State → Prop) (run : Run c tr d) :
    OnceAlways P c.state tr ↔ ∀ e ∈ tr, P e.before → P e.after := by
  induction run with
  | refl => simp [OnceAlways, states]
  | @snoc tr m _ e init last ih =>
      rw [onceAlways_snoc, ih]
      constructor
      · rintro ⟨each, whole⟩ e' member
        rcases List.mem_append.mp member with earlier | newest
        · exact each e' earlier
        · rw [List.mem_singleton.mp newest, last.before_eq]
          exact whole m.state init.state_mem_states
      · intro each
        refine ⟨fun e' member => each e' (List.mem_append_left _ member), ?_⟩
        have once := (ih.mpr fun e' member => each e' (List.mem_append_left _ member))
        intro early member held
        have final : P m.state := by
          obtain ⟨before, split⟩ := init.states_last
          rw [split] at member
          rcases List.mem_append.mp member with earlier | same
          · rw [OnceAlways, split, List.pairwise_append] at once
            exact once.2.2 early earlier m.state (by simp) held
          · rwa [← List.mem_singleton.mp same]
        have newest := each e (by simp)
        rw [last.before_eq] at newest
        exact newest final

/-- A property that every event keeps exactly under its condition holds in every
state of the run exactly when each event meets the condition. -/
theorem always_iff (P : M.State → Prop) (C : Event M → Prop) (run : Run c tr d)
    (each : ∀ e ∈ tr, P e.before → (P e.after ↔ C e)) (start : P c.state) :
    (∀ s ∈ states c.state tr, P s) ↔ ∀ e ∈ tr, C e := by
  induction run with
  | refl => simp [states, start]
  | @snoc tr m _ e init last ih =>
      have ih := ih fun e' member => each e' (List.mem_append_left _ member)
      have split : states c.state (tr ++ [e]) = states c.state tr ++ [e.after] := by simp [states]
      simp only [split, List.forall_mem_append, List.forall_mem_singleton, ih]
      refine and_congr_right fun earlier => each e (by simp) ?_
      rw [last.before_eq]
      exact ih.mpr earlier m.state init.state_mem_states

theorem before_mem_states {e : Event M} (run : Run c tr d) (member : e ∈ tr) :
    e.before ∈ states c.state tr := by
  obtain ⟨early, late, rfl⟩ := List.append_of_mem member
  obtain ⟨m, first, here⟩ := run.before_of_split
  have inside := first.state_mem_states
  rw [here] at inside
  simp only [states, List.map_append, List.mem_cons, List.mem_append] at inside ⊢
  tauto

theorem after_mem_states {e : Event M} (s : M.State) (member : e ∈ tr) :
    e.after ∈ states s tr :=
  List.mem_cons_of_mem _ (List.mem_map_of_mem member)

/-- An invariant that each event keeps, given that it held before the events so far,
holds in every state of the run. -/
theorem always (P : M.State → Prop) (run : Run c tr d) (start : P c.state)
    (keeps : ∀ early e late, tr = early ++ e :: late →
      (∀ e' ∈ early ++ [e], P e'.before) → P e.after) :
    ∀ s ∈ states c.state tr, P s := by
  induction run with
  | refl => simpa [states] using start
  | @snoc tr m _ e init last ih =>
      have earlier := ih fun early e' late split =>
        keeps early e' (late ++ [e]) (by simp [split])
      have before : ∀ e' ∈ tr ++ [e], P e'.before := by
        intro e' member
        rcases List.mem_append.mp member with inside | newest
        · exact earlier _ (init.before_mem_states inside)
        · rw [List.mem_singleton.mp newest, last.before_eq]
          exact earlier _ init.state_mem_states
      intro s member
      have split : states c.state (tr ++ [e]) = states c.state tr ++ [e.after] := by simp [states]
      rw [split] at member
      rcases List.mem_append.mp member with inside | newest
      · exact earlier s inside
      · rw [List.mem_singleton.mp newest]
        exact keeps tr e [] rfl before

/-- What held at the start and holds once-always holds at the end. -/
theorem onceAlways_final (P : M.State → Prop) (run : Run c tr d)
    (once : OnceAlways P c.state tr) : P c.state → P d.state :=
  run.preserves P ((run.onceAlways_iff P).mp once)

end Run

theorem split_two (tr : List (Event M)) {i k : Nat} (inside : i + 1 + k < tr.length) :
    tr = tr.take i ++ tr[i] :: ((tr.drop (i + 1)).take k ++
      tr[i + 1 + k] :: tr.drop (i + 1 + k + 1)) := by
  have second : (tr.drop (i + 1)).take k ++ tr[i + 1 + k] :: tr.drop (i + 1 + k + 1) =
      tr.drop (i + 1) := by
    rw [← List.drop_eq_getElem_cons inside]
    have rest : tr.drop (i + 1 + k) = (tr.drop (i + 1)).drop k := by rw [List.drop_drop]
    rw [rest, List.take_append_drop]
  rw [second, ← List.drop_eq_getElem_cons (by omega), List.take_append_drop]

/-! ## The state within a run -/

/-- The state after the events `tr` from `s`. -/
def finalState (s : M.State) (tr : List (Event M)) : M.State :=
  (tr.getLast?.map Event.after).getD s

@[simp] theorem finalState_nil (s : M.State) : finalState s [] = s := rfl

@[simp] theorem finalState_snoc (s : M.State) (tr : List (Event M)) (e : Event M) :
    finalState s (tr ++ [e]) = e.after := by
  simp [finalState]

theorem Run.finalState_eq {c d : Config M ε α} {tr : List (Event M)} (run : Run c tr d) :
    finalState c.state tr = d.state := by
  cases run with
  | refl => rfl
  | snoc _ last => rw [finalState_snoc, last.after_eq]

theorem Run.related_before (R : M.State → M.State → Prop) (refl : ∀ s, R s s)
    (trans : ∀ {s t u}, R s t → R t u → R s u) {c d : Config M ε α} {early late : List (Event M)}
    (run : Run c (early ++ late) d) (each : ∀ e ∈ early ++ late, R e.before e.after) :
    ∀ e ∈ late, R (finalState c.state early) e.before := by
  intro e member
  obtain ⟨mid, tail, rfl⟩ := List.append_of_mem member
  obtain ⟨m, first, rest⟩ := run.split
  obtain ⟨n, between, here⟩ := rest.before_of_split
  rw [first.finalState_eq, ← here]
  refine between.related R refl trans fun e' inside => each e' ?_
  exact List.mem_append_right _ (List.mem_append_left _ inside)

/-- What holds of the final state was brought about by a last event, and kept by
those after it, unless it held from the start. -/
theorem Run.last_of {P : M.State → Prop} {Q T : Event M → Prop} {c d : Config M ε α}
    {tr : List (Event M)} (run : Run c tr d)
    (each : ∀ e ∈ tr, P e.after → (P e.before ∧ T e) ∨ Q e) (holds : P d.state) :
    (P c.state ∧ ∀ e ∈ tr, T e) ∨
      ∃ early e late, tr = early ++ e :: late ∧ Q e ∧ ∀ e' ∈ late, T e' := by
  induction run with
  | refl => exact Or.inl ⟨holds, by simp⟩
  | @snoc tr m _ e init last ih =>
      rcases each e (by simp) (by rwa [last.after_eq]) with ⟨before, kept⟩ | caused
      · rw [last.before_eq] at before
        rcases ih (fun e' member => each e' (List.mem_append_left _ member)) before with
          ⟨start, always⟩ | ⟨early, e', late, rfl, caused, always⟩
        · refine Or.inl ⟨start, fun e' member => ?_⟩
          rcases List.mem_append.mp member with earlier | newest
          · exact always e' earlier
          · rwa [List.mem_singleton.mp newest]
        · refine Or.inr ⟨early, e', late ++ [e], by simp, caused, fun e'' member => ?_⟩
          rcases List.mem_append.mp member with earlier | newest
          · exact always e'' earlier
          · rwa [List.mem_singleton.mp newest]
      · exact Or.inr ⟨tr, e, [], rfl, caused, by simp⟩

/-! ## One caller's own history -/

/-- The operations and answers of `es`, in order, lead the program to `q`. -/
inductive Path : Prog M ε α → List (Event M) → Prog M ε α → Prop where
  | here (p : Prog M ε α) : Path p [] p
  | call {o : M.Op} {next : M.Ans o → Prog M ε α} {i : Nat} {a : M.Ans o}
      {s s' : M.State} {es : List (Event M)} {q : Prog M ε α}
      (rest : Path (next a) es q) : Path (.call o next) (⟨i, o, a, s, s'⟩ :: es) q

namespace Path

variable {p q : Prog M ε α} {es : List (Event M)}

theorem done_inv {r : Except ε α} (path : Path (.done r) es q) : es = [] ∧ q = .done r := by
  cases path; exact ⟨rfl, rfl⟩

theorem call_inv {o : M.Op} {next : M.Ans o → Prog M ε α} (path : Path (.call o next) es q) :
    (es = [] ∧ q = .call o next) ∨
      ∃ i a s s' rest, es = ⟨i, o, a, s, s'⟩ :: rest ∧ Path (next a) rest q := by
  cases path with
  | here => exact Or.inl ⟨rfl, rfl⟩
  | call rest => exact Or.inr ⟨_, _, _, _, _, rfl, rest⟩

/-- A program that has ended has performed its first operation. -/
theorem call_done {o : M.Op} {next : M.Ans o → Prog M ε α} {r : Except ε α}
    (path : Path (.call o next) es (.done r)) :
    ∃ i a s s' rest, es = ⟨i, o, a, s, s'⟩ :: rest ∧ Path (next a) rest (.done r) := by
  rcases path.call_inv with ⟨_, stuck⟩ | found
  · cases stuck
  · exact found

theorem snoc {o : M.Op} {next : M.Ans o → Prog M ε α} (path : Path p es (.call o next))
    (i : Nat) (a : M.Ans o) (s s' : M.State) : Path p (es ++ [⟨i, o, a, s, s'⟩]) (next a) := by
  generalize last : Prog.call o next = q at path
  induction path with
  | here => subst last; exact .call (.here _)
  | call _ ih => exact .call (ih last)

theorem append {q' : Prog M ε α} {es' : List (Event M)} (path : Path p es q)
    (rest : Path q es' q') : Path p (es ++ es') q' := by
  induction path with
  | here => exact rest
  | call _ ih => exact .call (ih rest)

/-- What a caller has done so far is the beginning of what it may have done in the end. -/
theorem exists_done [Nonempty M.State] [∀ o, Nonempty (M.Ans o)] (path : Path p es q) :
    ∃ es' r, Path p (es ++ es') (.done r) := by
  have rest : ∀ q : Prog M ε α, ∃ es' r, Path q es' (.done r) := by
    intro q
    induction q with
    | done r => exact ⟨[], r, .here _⟩
    | call o next ih =>
        obtain ⟨s⟩ := ‹Nonempty M.State›
        obtain ⟨a⟩ := ‹∀ o, Nonempty (M.Ans o)› o
        obtain ⟨es', r, tail⟩ := ih a
        exact ⟨⟨0, o, a, s, s⟩ :: es', r, .call tail⟩
  obtain ⟨es', r, tail⟩ := rest q
  exact ⟨es', r, path.append tail⟩

/-- A path into a sequence of two programs is a path in the first, or it goes
through the first's result into the second. -/
theorem bind_done {p : Prog M ε α} {f : α → Prog M ε β} {r : Except ε β}
    (path : Path (p >>= f) es (.done r)) :
    (∃ e, Path p es (.done (.error e)) ∧ r = .error e) ∨
      ∃ a es₁ es₂, es = es₁ ++ es₂ ∧ Path p es₁ (.done (.ok a)) ∧ Path (f a) es₂ (.done r) := by
  induction p generalizing es with
  | done r' =>
      cases r' with
      | ok a => exact Or.inr ⟨a, [], es, rfl, .here _, path⟩
      | error e =>
          obtain ⟨rfl, same⟩ := done_inv path
          cases same
          exact Or.inl ⟨e, .here _, rfl⟩
  | call o next ih =>
      rw [Prog.bind_call] at path
      obtain ⟨i, a, s, s', rest, rfl, tail⟩ := call_done path
      rcases ih a tail with ⟨e, failed, same⟩ | ⟨b, es₁, es₂, rfl, first, second⟩
      · exact Or.inl ⟨e, .call failed, same⟩
      · exact Or.inr ⟨b, _ :: es₁, es₂, rfl, .call first, second⟩

/-- A path into a sequence of two programs ends inside the first one, or goes
through its result into the second. -/
theorem bind_inv {p : Prog M ε α} {f : α → Prog M ε β} {q : Prog M ε β}
    (path : Path (p >>= f) es q) :
    (∃ p', Path p es p' ∧ q = p' >>= f) ∨
      ∃ a es₁ es₂, es = es₁ ++ es₂ ∧ Path p es₁ (.done (.ok a)) ∧ Path (f a) es₂ q := by
  induction p generalizing es with
  | done r =>
      cases r with
      | ok a => exact Or.inr ⟨a, [], es, rfl, .here _, path⟩
      | error e =>
          obtain ⟨rfl, rfl⟩ := done_inv path
          exact Or.inl ⟨_, .here _, rfl⟩
  | call o next ih =>
      rw [Prog.bind_call] at path
      rcases path.call_inv with ⟨rfl, rfl⟩ | ⟨i, a, s, s', rest, rfl, tail⟩
      · exact Or.inl ⟨_, .here _, rfl⟩
      · rcases ih a tail with ⟨p', inside, same⟩ | ⟨b, es₁, es₂, rfl, first, second⟩
        · exact Or.inl ⟨p', .call inside, same⟩
        · exact Or.inr ⟨b, _ :: es₁, es₂, rfl, .call first, second⟩

/-- A sequence of two programs that has returned went through the first's value. -/
theorem bind_returned {p : Prog M ε α} {f : α → Prog M ε β} {b : β}
    (path : Path (p >>= f) es (.done (.ok b))) :
    ∃ a es₁ es₂, es = es₁ ++ es₂ ∧ Path p es₁ (.done (.ok a)) ∧ Path (f a) es₂ (.done (.ok b)) := by
  rcases path.bind_done with ⟨e, -, impossible⟩ | returned
  · cases impossible
  · exact returned

theorem bind_ok {p : Prog M ε α} {f : α → Prog M ε β} {a : α} {es' : List (Event M)}
    {q : Prog M ε β} (first : Path p es (.done (.ok a))) (rest : Path (f a) es' q) :
    Path (p >>= f) (es ++ es') q := by
  generalize ended : (.done (.ok a) : Prog M ε α) = p' at first
  induction first with
  | here => subst ended; exact rest
  | call _ ih => exact .call (ih ended)

theorem bind_error {p : Prog M ε α} {f : α → Prog M ε β} {e : ε}
    (first : Path p es (.done (.error e))) : Path (p >>= f) es (.done (.error e)) := by
  generalize ended : (.done (.error e) : Prog M ε α) = p' at first
  induction first with
  | here => subst ended; exact .here _
  | call _ ih => exact .call (ih ended)

theorem at_event {early late : List (Event M)} {e : Event M}
    (path : Path p (early ++ e :: late) q) :
    ∃ next, Path p early (.call e.op next) ∧ Path (next e.ans) late q := by
  induction early generalizing p with
  | nil =>
      cases path with
      | call rest => exact ⟨_, .here _, rest⟩
  | cons e' early ih =>
      cases path with
      | call rest =>
          obtain ⟨next, before, after⟩ := ih rest
          exact ⟨next, .call before, after⟩

/-- A guarded program is within its body, or its handler has taken over. -/
theorem tryCatch_inv {p q : Prog M ε α} {handler : ε → Prog M ε α}
    (path : Path (tryCatchThe ε p handler) es q) :
    (∃ p', Path p es p' ∧ q = tryCatchThe ε p' handler) ∨
      ∃ e es₁ es₂, es = es₁ ++ es₂ ∧ Path p es₁ (.done (.error e)) ∧ Path (handler e) es₂ q := by
  induction p generalizing es with
  | done r =>
      cases r with
      | ok a =>
          obtain ⟨rfl, rfl⟩ := path.done_inv
          exact Or.inl ⟨_, .here _, rfl⟩
      | error e => exact Or.inr ⟨e, [], es, rfl, .here _, path⟩
  | call o next ih =>
      rcases path.call_inv with ⟨rfl, rfl⟩ | ⟨i, a, s, s', rest, rfl, tail⟩
      · exact Or.inl ⟨_, .here _, rfl⟩
      · rcases ih a tail with ⟨p', inside, rfl⟩ | ⟨e, es₁, es₂, rfl, raised, handling⟩
        · exact Or.inl ⟨p', .call inside, rfl⟩
        · exact Or.inr ⟨e, _ :: es₁, es₂, rfl, .call raised, handling⟩

/-- A program with a last operation is within its body, or is before it, or has
performed it. -/
theorem finallyDo_inv {o : M.Op} {p q : Prog M ε α} (path : Path (p.finallyDo o) es q) :
    (∃ p', Path p es p' ∧ q = p'.finallyDo o) ∨
      ∃ r es' i a s s', es = es' ++ [⟨i, o, a, s, s'⟩] ∧ Path p es' (.done r) ∧ q = .done r := by
  induction p generalizing es with
  | done r =>
      rcases path.call_inv with ⟨rfl, rfl⟩ | ⟨i, a, s, s', rest, rfl, tail⟩
      · exact Or.inl ⟨_, .here _, rfl⟩
      · obtain ⟨rfl, rfl⟩ := tail.done_inv
        exact Or.inr ⟨r, [], i, a, s, s', rfl, .here _, rfl⟩
  | call o' next ih =>
      rcases path.call_inv with ⟨rfl, rfl⟩ | ⟨i, a, s, s', rest, rfl, tail⟩
      · exact Or.inl ⟨_, .here _, rfl⟩
      · rcases ih a tail with ⟨p', inside, rfl⟩ | ⟨r, es', j, b, t, t', rfl, ended, rfl⟩
        · exact Or.inl ⟨p', .call inside, rfl⟩
        · exact Or.inr ⟨r, _ :: es', j, b, t, t', rfl, .call ended, rfl⟩

theorem tryCatch_calling {p : Prog M ε α} {handler : ε → Prog M ε α} {o : M.Op}
    {next : M.Ans o → Prog M ε α} (path : Path (tryCatchThe ε p handler) es (.call o next)) :
    (∃ next', Path p es (.call o next')) ∨
      ∃ e es₁ es₂, es = es₁ ++ es₂ ∧ Path p es₁ (.done (.error e)) ∧
        Path (handler e) es₂ (.call o next) := by
  rcases path.tryCatch_inv with ⟨p', inside, here⟩ | handling
  · cases p' with
    | done r =>
        cases r with
        | ok a => cases here
        | error e =>
            refine Or.inr ⟨e, es, [], by simp, inside, ?_⟩
            rw [here]
            exact .here (handler e)
    | call o' next' =>
        cases here
        exact Or.inl ⟨next', inside⟩
  · exact Or.inr handling

/-- A guarded program has ended as its body did, or its handler has. -/
theorem tryCatch_done {p : Prog M ε α} {handler : ε → Prog M ε α} {r : Except ε α}
    (path : Path (tryCatchThe ε p handler) es (.done r)) :
    (∃ a, r = .ok a ∧ Path p es (.done (.ok a))) ∨
      ∃ e es₁ es₂, es = es₁ ++ es₂ ∧ Path p es₁ (.done (.error e)) ∧
        Path (handler e) es₂ (.done r) := by
  rcases path.tryCatch_inv with ⟨p', inside, here⟩ | handling
  · cases p' with
    | done r' =>
        cases r' with
        | ok a =>
            cases here
            exact Or.inl ⟨a, rfl, inside⟩
        | error e =>
            refine Or.inr ⟨e, es, [], by simp, inside, ?_⟩
            rw [here]
            exact .here (handler e)
    | call o next => cases here
  · exact Or.inr handling

theorem tryCatch_returned {p : Prog M ε α} {handler : ε → Prog M ε α} {a : α}
    (path : Path (tryCatchThe ε p handler) es (.done (.ok a))) :
    Path p es (.done (.ok a)) ∨
      ∃ e es₁ es₂, es = es₁ ++ es₂ ∧ Path p es₁ (.done (.error e)) ∧
        Path (handler e) es₂ (.done (.ok a)) := by
  rcases path.tryCatch_done with ⟨b, same, inside⟩ | handling
  · cases same
    exact Or.inl inside
  · exact Or.inr handling

/-- A program with a last operation has ended with it. -/
theorem finallyDo_done {o : M.Op} {p : Prog M ε α} {r : Except ε α}
    (path : Path (p.finallyDo o) es (.done r)) :
    ∃ es' i a s s', es = es' ++ [⟨i, o, a, s, s'⟩] ∧ Path p es' (.done r) := by
  rcases path.finallyDo_inv with ⟨p', inside, here⟩ | ⟨r', es', i, a, s, s', rfl, ended, same⟩
  · cases p' with
    | done r => cases here
    | call o next => cases here
  · cases same
    exact ⟨es', i, a, s, s', rfl, ended⟩

theorem finallyDo_calling {o o' : M.Op} {p : Prog M ε α} {next : M.Ans o' → Prog M ε α}
    (path : Path (p.finallyDo o) es (.call o' next)) :
    (∃ next', Path p es (.call o' next')) ∨ (o' = o ∧ ∃ r, Path p es (.done r)) := by
  rcases path.finallyDo_inv with ⟨p', inside, here⟩ | ⟨r, es', i, a, s, s', rfl, -, impossible⟩
  · cases p' with
    | done r =>
        cases here
        exact Or.inr ⟨rfl, r, inside⟩
    | call o'' next' =>
        cases here
        exact Or.inl ⟨next', inside⟩
  · cases impossible

theorem uses {allowed : M.Op → Prop} (path : Path p es q) (uses : p.Uses allowed) :
    (∀ e ∈ es, allowed e.op) ∧ q.Uses allowed := by
  induction path with
  | here => exact ⟨by simp, uses⟩
  | call _ ih =>
      obtain ⟨rest, final⟩ := ih (uses.2 _)
      refine ⟨fun e member => ?_, final⟩
      rcases List.mem_cons.mp member with rfl | later
      · exact uses.1
      · exact rest e later

/-- A program is not about to perform an operation that it never performs. -/
theorem never {allowed : M.Op → Prop} {o : M.Op} {next : M.Ans o → Prog M ε α}
    (path : Path p es (.call o next)) (uses : p.Uses allowed) (other : ¬ allowed o) : False :=
  other (path.uses uses).2.1

/-- The next operation of two programs in a row belongs to one of them. -/
theorem bind_calling {p : Prog M ε α} {f : α → Prog M ε β} {o : M.Op} {next : M.Ans o → Prog M ε β}
    (path : Path (p >>= f) es (.call o next)) :
    (∃ next', Path p es (.call o next')) ∨
      ∃ a es₁ es₂, es = es₁ ++ es₂ ∧ Path p es₁ (.done (.ok a)) ∧ Path (f a) es₂ (.call o next) := by
  rcases path.bind_inv with ⟨p', inside, here⟩ | beyond
  · cases p' with
    | done r =>
        cases r with
        | ok a =>
            refine Or.inr ⟨a, es, [], by simp, inside, ?_⟩
            rw [here]
            exact .here (f a)
        | error e => cases here
    | call o' next' =>
        cases here
        exact Or.inl ⟨next', inside⟩
  · exact Or.inr beyond

/-- An operation that the first of two programs never performs comes after it. -/
theorem bind_beyond {allowed : M.Op → Prop} {p : Prog M ε α} {f : α → Prog M ε β} {o : M.Op}
    {next : M.Ans o → Prog M ε β} (path : Path (p >>= f) es (.call o next))
    (first : p.Uses allowed) (other : ¬ allowed o) :
    ∃ a es₁ es₂, es = es₁ ++ es₂ ∧ Path p es₁ (.done (.ok a)) ∧ Path (f a) es₂ (.call o next) := by
  rcases path.bind_calling with ⟨next', inside⟩ | beyond
  · exact (inside.never first other).elim
  · exact beyond

/-- An operation that the second of two programs never performs comes before it. -/
theorem bind_within {allowed : M.Op → Prop} {p : Prog M ε α} {f : α → Prog M ε β} {o : M.Op}
    {next : M.Ans o → Prog M ε β} (path : Path (p >>= f) es (.call o next))
    (second : ∀ a, (f a).Uses allowed) (other : ¬ allowed o) :
    ∃ next', Path p es (.call o next') := by
  rcases path.bind_calling with inside | ⟨a, es₁, es₂, rfl, first, rest⟩
  · exact inside
  · exact (rest.never (second a) other).elim

end Path

def ofThread (i : Nat) (tr : List (Event M)) : List (Event M) := tr.filter (·.thread = i)

theorem mem_ofThread {i : Nat} {tr : List (Event M)} {e : Event M} :
    e ∈ ofThread i tr ↔ e ∈ tr ∧ e.thread = i := by
  simp [ofThread]

@[simp] theorem ofThread_append (i : Nat) (tr tr' : List (Event M)) :
    ofThread i (tr ++ tr') = ofThread i tr ++ ofThread i tr' := by
  simp [ofThread]

/-- In any run, each caller has followed its own program. -/
theorem Run.path {c d : Config M ε α} {tr : List (Event M)} (run : Run c tr d) :
    ∀ (i : Nat) (p : Prog M ε α), c.pool[i]? = some p →
      ∃ q, d.pool[i]? = some q ∧ Path p (ofThread i tr) q := by
  induction run with
  | refl => exact fun i p found => ⟨p, found, .here p⟩
  | @snoc tr m _ e _ last ih =>
      intro i p found
      obtain ⟨q, here, path⟩ := ih i p found
      cases last with
      | @perform j o next x a s waiting result =>
          rw [ofThread_append]
          by_cases mine : j = i
          · subst mine
            rw [waiting] at here
            cases here
            refine ⟨next a, by simp [(List.getElem?_eq_some_iff.mp waiting).1], ?_⟩
            simpa [ofThread] using path.snoc j a m.state s
          · refine ⟨q, by simp [mine, here], ?_⟩
            simpa [ofThread, mine] using path

/-- Only operations that the callers' programs use occur in a run. -/
theorem Run.uses {allowed : M.Op → Prop} {c d : Config M ε α} {tr : List (Event M)}
    (run : Run c tr d) (each : ∀ p ∈ c.pool, p.Uses allowed) : ∀ e ∈ tr, allowed e.op := by
  intro e member
  have inside := run.thread_lt e member
  obtain ⟨q, _, path⟩ := run.path e.thread _ (List.getElem?_eq_getElem inside)
  exact (path.uses (each _ (List.getElem_mem inside))).1 e (mem_ofThread.mpr ⟨member, rfl⟩)

/-- A step of one caller, within the run. -/
theorem ofThread_at {i : Nat} {tr early late : List (Event M)} {e : Event M}
    (own : ofThread i tr = early ++ e :: late) :
    ∃ early' late', tr = early' ++ e :: late' ∧ ofThread i early' = early ∧
      ofThread i late' = late := by
  obtain ⟨t₁, t₂, rfl, first, own⟩ := List.filter_eq_append_iff.mp own
  obtain ⟨t₃, t₄, rfl, quiet, -, own⟩ := List.filter_eq_cons_iff.mp own
  refine ⟨t₁ ++ t₃, t₄, by simp, ?_, own⟩
  have nothing : ofThread i t₃ = [] := List.filter_eq_nil_iff.mpr quiet
  have first : ofThread i t₁ = early := first
  rw [ofThread_append, first, nothing, List.append_nil]

/-- Two steps of one caller, in the order of the run. -/
theorem ofThread_split {i : Nat} {tr early mid late : List (Event M)} {e e' : Event M}
    (own : ofThread i tr = early ++ e :: (mid ++ e' :: late)) :
    ∃ early' mid' late', tr = early' ++ e :: (mid' ++ e' :: late') ∧ ofThread i mid' = mid ∧
      ofThread i late' = late := by
  obtain ⟨early', rest, rfl, -, own⟩ := ofThread_at own
  obtain ⟨mid', late', rfl, between, after⟩ := ofThread_at own
  exact ⟨early', mid', late', rfl, between, after⟩

theorem Run.at_event {c d : Config M ε α} {early late : List (Event M)} {e : Event M}
    (run : Run c (early ++ e :: late) d) {p : Prog M ε α} (found : c.pool[e.thread]? = some p) :
    ∃ next, Path p (ofThread e.thread early) (.call e.op next) := by
  obtain ⟨q, -, path⟩ := run.path e.thread p found
  have own : ofThread e.thread (early ++ e :: late) =
      ofThread e.thread early ++ e :: ofThread e.thread late := by
    simp [ofThread]
  rw [own] at path
  obtain ⟨next, before, -⟩ := path.at_event
  exact ⟨next, before⟩

/-- What relates the states across each event relates those after a step of a
caller to those before its later steps. -/
theorem Run.related_own (R : M.State → M.State → Prop) (refl : ∀ s, R s s)
    (trans : ∀ {s t u}, R s t → R t u → R s u) {c d : Config M ε α}
    {tr early late : List (Event M)} {i : Nat} {e : Event M} (run : Run c tr d)
    (each : ∀ e ∈ tr, R e.before e.after) (own : ofThread i tr = early ++ e :: late) :
    ∀ e' ∈ late, R e.after e'.before := by
  intro e' member
  obtain ⟨mid, rest, rfl⟩ := List.append_of_mem member
  obtain ⟨first, between, last, rfl, -, -⟩ := ofThread_split own
  have split : first ++ e :: (between ++ e' :: last) = (first ++ [e]) ++ (between ++ e' :: last) := by
    simp
  rw [split] at run each
  have related := run.related_before R refl trans each e' (by simp)
  rwa [finalState_snoc] at related

/-! ## Executing a schedule -/

/-- Let the scheduled callers move, in order; a caller that has ended, or whose
operation cannot run now, lets its turn pass. -/
def Config.play (c : Config M ε α) : List (Nat × M.Input) → Config M ε α × List (Event M)
  | [] => (c, [])
  | (i, x) :: turns =>
      match c.pool[i]? with
      | some (.call o next) =>
          match M.exec o x c.state with
          | some (a, s) =>
              let (d, tr) := Config.play ⟨s, c.pool.set i (next a)⟩ turns
              (d, ⟨i, o, a, c.state, s⟩ :: tr)
          | none => c.play turns
      | _ => c.play turns

theorem Config.play_run (c : Config M ε α) (turns : List (Nat × M.Input)) :
    Run c (c.play turns).2 (c.play turns).1 := by
  induction turns generalizing c with
  | nil => exact .refl
  | cons turn turns ih =>
      obtain ⟨i, x⟩ := turn
      rw [Config.play]
      split
      · rename_i o next waiting
        split
        · rename_i a s result
          have first := Run.single (Step.perform waiting result)
          exact first.trans (ih _)
        · exact ih c
      · exact ih c

end Interleave

import Keyring.Interleave.Run

/-!
# Mutual exclusion

A lock is an operation that cannot run while it is held, with another one that
gives it back.  When every caller takes it at most once, and gives back only what
it holds, at most one caller holds it at any time.
-/

set_option autoImplicit false

namespace Interleave

variable {M : Machine} {ε α : Type}

structure Lock (M : Machine) where
  takes : M.Op → Prop
  gives : M.Op → Prop
  held : M.State → Prop
  free : ∀ {o x s a t}, M.exec o x s = some (a, t) → takes o → ¬ held s
  taken : ∀ {o x s a t}, M.exec o x s = some (a, t) → takes o → held t
  kept : ∀ {o x s a t}, M.exec o x s = some (a, t) → ¬ gives o → held s → held t

namespace Lock

variable (l : Lock M)

/-- The caller has taken the lock in these events of its own, and not given it back. -/
def Holds (es : List (Event M)) : Prop :=
  (∃ e ∈ es, l.takes e.op) ∧ ∀ e ∈ es, ¬ l.gives e.op

/-- An operation takes the lock for the first time, or gives back what is held. -/
def Disciplined (es : List (Event M)) (o : M.Op) : Prop :=
  (l.takes o → ∀ e ∈ es, ¬ l.gives e.op) ∧ (l.gives o → l.Holds es)

variable {l}

theorem Holds.of_snoc {es : List (Event M)} {e : Event M} (holds : l.Holds (es ++ [e]))
    (other : ¬ l.takes e.op) : l.Holds es := by
  obtain ⟨⟨e', member, takes⟩, none⟩ := holds
  refine ⟨⟨e', ?_, takes⟩, fun e'' member => none e'' (List.mem_append_left _ member)⟩
  rcases List.mem_append.mp member with earlier | newest
  · exact earlier
  · rw [List.mem_singleton.mp newest] at takes
    exact absurd takes other

theorem exclusive {c d : Config M ε α} {tr : List (Event M)} (run : Run c tr d)
    (disciplined : ∀ early e late, tr = early ++ e :: late →
      l.Disciplined (ofThread e.thread early) e.op) :
    (∀ i j, l.Holds (ofThread i tr) → l.Holds (ofThread j tr) → i = j) ∧
      ∀ i, l.Holds (ofThread i tr) → l.held d.state := by
  induction run with
  | refl =>
      have nobody : ∀ i, ¬ l.Holds (ofThread i ([] : List (Event M))) := by
        rintro i ⟨⟨e, member, -⟩, -⟩
        cases member
      exact ⟨fun i j holds => absurd holds (nobody i), fun i holds => absurd holds (nobody i)⟩
  | @snoc tr m d e init last ih =>
      obtain ⟨unique, busy⟩ := ih fun early e' late split =>
        disciplined early e' (late ++ [e]) (by simp [split])
      obtain ⟨first, gives⟩ := disciplined tr e [] rfl
      obtain ⟨x, done⟩ := last.exec_eq
      rw [last.before_eq, last.after_eq] at done
      have others : ∀ i, i ≠ e.thread → ofThread i (tr ++ [e]) = ofThread i tr := by
        intro i other
        simp [ofThread, Ne.symm other]
      have own : ofThread e.thread (tr ++ [e]) = ofThread e.thread tr ++ [e] := by
        simp [ofThread]
      by_cases takes : l.takes e.op
      · have nobody : ∀ i, ¬ l.Holds (ofThread i tr) :=
          fun i holds => l.free done takes (busy i holds)
        have mine : ∀ i, l.Holds (ofThread i (tr ++ [e])) → i = e.thread := by
          intro i holds
          by_contra other
          rw [others i other] at holds
          exact nobody i holds
        exact ⟨fun i j here there => (mine i here).trans (mine j there).symm,
          fun i _ => l.taken done takes⟩
      · have before : ∀ i, l.Holds (ofThread i (tr ++ [e])) → l.Holds (ofThread i tr) := by
          intro i holds
          by_cases same : i = e.thread
          · subst same
            rw [own] at holds
            exact holds.of_snoc takes
          · rwa [others i same] at holds
        refine ⟨fun i j here there => unique i j (before i here) (before j there), ?_⟩
        intro i holds
        have still := busy i (before i holds)
        by_cases given : l.gives e.op
        · have same := unique i e.thread (before i holds) (gives given)
          subst same
          rw [own] at holds
          exact absurd given (holds.2 e (by simp))
        · exact l.kept done given still

/-- Before the lock is taken, whoever had taken it has given it back. -/
theorem given_back {c d : Config M ε α} {early late : List (Event M)} {e : Event M}
    (run : Run c (early ++ e :: late) d)
    (disciplined : ∀ before e' after, early ++ e :: late = before ++ e' :: after →
      l.Disciplined (ofThread e'.thread before) e'.op)
    (takes : l.takes e.op) {i : Nat} (took : ∃ a ∈ ofThread i early, l.takes a.op) :
    ∃ g ∈ ofThread i early, l.gives g.op := by
  obtain ⟨m, first, rest⟩ := run.split
  obtain ⟨n, step, -⟩ := rest.cons_inv
  obtain ⟨x, done⟩ := step.exec_eq
  rw [step.before_eq] at done
  by_contra none
  push Not at none
  have busy := (exclusive first fun before e' after split =>
    disciplined before e' (after ++ e :: late) (by simp [split])).2 i ⟨took, none⟩
  exact l.free done takes busy

end Lock

/-! ## Programs with one section -/

/-- Where a caller is: its section is still to come, or it is in it, or has left it. -/
inductive Stage where
  | before
  | inside
  | after

namespace Prog

variable (l : Lock M) (inner : M.Op → Prop)

/-- The program takes the lock at most once, gives back what it took only, and
performs `inner` operations in between only. -/
def Sectioned : Stage → Prog M ε α → Prop
  | _, .done _ => True
  | .before, .call o next => ¬ l.gives o ∧ ¬ inner o ∧
      ((l.takes o ∧ ∀ a, (next a).Sectioned .inside) ∨
        (¬ l.takes o ∧ ∀ a, (next a).Sectioned .before))
  | .inside, .call o next => ¬ l.takes o ∧
      ((l.gives o ∧ ∀ a, (next a).Sectioned .after) ∨
        (¬ l.gives o ∧ ∀ a, (next a).Sectioned .inside))
  | .after, .call o next => ¬ l.takes o ∧ ¬ l.gives o ∧ ¬ inner o ∧
      ∀ a, (next a).Sectioned .after

variable {l} {inner} {β : Type}

theorem Sectioned.bind_uses {stage : Stage} {p : Prog M ε α} {f : α → Prog M ε β}
    (uses : p.Uses fun o => ¬ l.takes o ∧ ¬ l.gives o ∧ ¬ inner o)
    (rest : ∀ a, (f a).Sectioned l inner stage) : (p >>= f).Sectioned l inner stage := by
  induction p with
  | done r =>
      cases r with
      | ok a => exact rest a
      | error e => trivial
  | call o next ih =>
      obtain ⟨⟨takes, gives, quiet⟩, uses⟩ := uses
      have later := fun a => ih a (uses a)
      cases stage with
      | before => exact ⟨gives, quiet, Or.inr ⟨takes, later⟩⟩
      | inside => exact ⟨takes, Or.inr ⟨gives, later⟩⟩
      | after => exact ⟨takes, gives, quiet, later⟩

theorem Sectioned.bind_done {stage : Stage} {p : Prog M ε α} {f : α → Prog M ε β}
    (sectioned : p.Sectioned l inner stage) (ends : ∀ a, ∃ r, f a = .done r) :
    (p >>= f).Sectioned l inner stage := by
  induction p generalizing stage with
  | done r =>
      cases r with
      | ok a =>
          obtain ⟨r, ended⟩ := ends a
          rw [bind_ok, ended]
          trivial
      | error e => trivial
  | call o next ih =>
      cases stage with
      | before =>
          obtain ⟨gives, quiet, ⟨takes, later⟩ | ⟨takes, later⟩⟩ := sectioned
          · exact ⟨gives, quiet, Or.inl ⟨takes, fun a => ih a (later a)⟩⟩
          · exact ⟨gives, quiet, Or.inr ⟨takes, fun a => ih a (later a)⟩⟩
      | inside =>
          obtain ⟨takes, ⟨gives, later⟩ | ⟨gives, later⟩⟩ := sectioned
          · exact ⟨takes, Or.inl ⟨gives, fun a => ih a (later a)⟩⟩
          · exact ⟨takes, Or.inr ⟨gives, fun a => ih a (later a)⟩⟩
      | after =>
          obtain ⟨takes, gives, quiet, later⟩ := sectioned
          exact ⟨takes, gives, quiet, fun a => ih a (later a)⟩

theorem Sectioned.finallyDo {give : M.Op} {body : Prog M ε α}
    (free : ¬ l.takes give) (gives : l.gives give)
    (uses : body.Uses fun o => ¬ l.takes o ∧ ¬ l.gives o) :
    (body.finallyDo give).Sectioned l inner .inside := by
  induction body with
  | done r => exact ⟨free, Or.inl ⟨gives, fun _ => trivial⟩⟩
  | call o next ih =>
      exact ⟨uses.1.1, Or.inr ⟨uses.1.2, fun a => ih a (uses.2 a)⟩⟩

end Prog

namespace Lock

variable {l : Lock M} {inner : M.Op → Prop}

/-- What a caller has done, at each stage. -/
def Reached (l : Lock M) : Stage → List (Event M) → Prop
  | .before, es => ∀ e ∈ es, ¬ l.takes e.op ∧ ¬ l.gives e.op
  | .inside, es => l.Holds es
  | .after, _ => True

theorem Reached.call {stage : Stage} {o : M.Op} {next : M.Ans o → Prog M ε α}
    {es : List (Event M)} (reached : l.Reached stage es)
    (sectioned : (Prog.call o next).Sectioned l inner stage) :
    l.Disciplined es o ∧ (inner o → l.Holds es) := by
  cases stage with
  | before =>
      obtain ⟨gives, quiet, -⟩ := sectioned
      exact ⟨⟨fun _ e member => (reached e member).2, fun given => absurd given gives⟩,
        fun now => absurd now quiet⟩
  | inside =>
      obtain ⟨takes, -⟩ := sectioned
      exact ⟨⟨fun taken => absurd taken takes, fun _ => reached⟩, fun _ => reached⟩
  | after =>
      obtain ⟨takes, gives, quiet, -⟩ := sectioned
      exact ⟨⟨fun taken => absurd taken takes, fun given => absurd given gives⟩,
        fun now => absurd now quiet⟩

theorem Reached.next {stage : Stage} {i : Nat} {o : M.Op} {next : M.Ans o → Prog M ε α}
    {a : M.Ans o} {s t : M.State} {es : List (Event M)} (reached : l.Reached stage es)
    (sectioned : (Prog.call o next).Sectioned l inner stage) :
    ∃ stage', l.Reached stage' (es ++ [⟨i, o, a, s, t⟩]) ∧
      (next a).Sectioned l inner stage' := by
  cases stage with
  | before =>
      obtain ⟨gives, -, ⟨takes, later⟩ | ⟨takes, later⟩⟩ := sectioned
      · refine ⟨.inside, ⟨⟨_, List.mem_concat_self, takes⟩, ?_⟩, later a⟩
        simp only [List.forall_mem_append, List.forall_mem_singleton]
        exact ⟨fun e member => (reached e member).2, gives⟩
      · refine ⟨.before, ?_, later a⟩
        simp only [Reached, List.forall_mem_append, List.forall_mem_singleton]
        exact ⟨reached, takes, gives⟩
  | inside =>
      obtain ⟨-, ⟨-, later⟩ | ⟨gives, later⟩⟩ := sectioned
      · exact ⟨.after, trivial, later a⟩
      · obtain ⟨⟨e, member, takes⟩, none⟩ := reached
        refine ⟨.inside, ⟨⟨e, List.mem_append_left _ member, takes⟩, ?_⟩, later a⟩
        simp only [List.forall_mem_append, List.forall_mem_singleton]
        exact ⟨none, gives⟩
  | after => exact ⟨.after, trivial, sectioned.2.2.2 a⟩

theorem Reached.path {stage : Stage} {p : Prog M ε α} {o : M.Op} {next : M.Ans o → Prog M ε α}
    {es es' : List (Event M)} (reached : l.Reached stage es)
    (sectioned : p.Sectioned l inner stage) (path : Path p es' (.call o next)) :
    l.Disciplined (es ++ es') o ∧ (inner o → l.Holds (es ++ es')) := by
  generalize last : Prog.call o next = q at path
  induction path generalizing stage es with
  | here =>
      subst last
      simpa using reached.call sectioned
  | @call o' next' i a s s' es' q rest ih =>
      obtain ⟨stage', reached, sectioned⟩ := reached.next (i := i) (s := s) (t := s') sectioned
      simpa using ih reached sectioned last

/-- Callers with one section each are disciplined in every run, and perform `inner`
operations while they hold the lock. -/
theorem disciplined_of_sectioned {c d : Config M ε α} {early late : List (Event M)} {e : Event M}
    (run : Run c (early ++ e :: late) d) (each : ∀ p ∈ c.pool, p.Sectioned l inner .before) :
    l.Disciplined (ofThread e.thread early) e.op ∧
      (inner e.op → l.Holds (ofThread e.thread early)) := by
  have inside := run.thread_lt e (by simp)
  obtain ⟨next, path⟩ := run.at_event (List.getElem?_eq_getElem inside)
  have reached : l.Reached .before ([] : List (Event M)) := by simp [Reached]
  simpa using reached.path (each _ (List.getElem_mem inside)) path

/-- While a caller holds the lock, the others perform no `inner` operation. -/
theorem inner_own {c d : Config M ε α} {early late : List (Event M)} {e : Event M} {i : Nat}
    (run : Run c (early ++ e :: late) d) (each : ∀ p ∈ c.pool, p.Sectioned l inner .before)
    (now : inner e.op) (holds : l.Holds (ofThread i early)) : e.thread = i := by
  obtain ⟨m, first, rest⟩ := run.split
  have unique := (exclusive first fun before e' after split => by
    have whole : early ++ e :: late = before ++ e' :: (after ++ e :: late) := by simp [split]
    rw [whole] at run
    exact (disciplined_of_sectioned run each).1).1
  exact unique _ _ ((disciplined_of_sectioned run each).2 now) holds

/-- A caller that holds the lock, between two of its own steps. -/
theorem not_inner_between {c d : Config M ε α} {early mid late : List (Event M)} {i : Nat}
    (run : Run c (early ++ (mid ++ late)) d) (each : ∀ p ∈ c.pool, p.Sectioned l inner .before)
    (holds : l.Holds (ofThread i early)) (idle : ofThread i mid = []) :
    ∀ e ∈ mid, ¬ inner e.op := by
  intro e member now
  obtain ⟨first, rest, rfl⟩ := List.append_of_mem member
  have split : early ++ ((first ++ e :: rest) ++ late) = (early ++ first) ++ e :: (rest ++ late) := by
    simp
  rw [split] at run
  simp only [ofThread_append, List.append_eq_nil_iff] at idle
  have still : l.Holds (ofThread i (early ++ first)) := by simpa [idle.1] using holds
  have own := inner_own run each now still
  have nobody : e ∈ ofThread i (e :: rest) := mem_ofThread.mpr ⟨List.mem_cons_self .., own⟩
  rw [idle.2] at nobody
  cases nobody

end Lock

end Interleave

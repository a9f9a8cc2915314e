import Keyring.Interleave.Run

/-!
# Why a program raises

Some operations are accepted and some are not, and some exceptions are
documented.  `p.Blames accepted documented` says that every execution of `p` to
its end raises an exception that is not documented exactly when an operation of
it was not accepted.  `p.Charges accepted fits documented` says the same of a
program that also computes with what it was answered: the history has to fit.
-/

set_option autoImplicit false

namespace Interleave

variable {M : Machine} {ε α β : Type}

/-- The outcome is a value or a documented exception. -/
def Documented (documented : ε → Prop) (r : Except ε α) : Prop :=
  ∀ e, r = .error e → documented e

/-- Every event is one execution of its operation. -/
def Executed (es : List (Event M)) : Prop :=
  ∀ e ∈ es, ∃ x, M.exec e.op x e.before = some (e.ans, e.after)

namespace Prog

def Blames (accepted : Event M → Prop) (documented : ε → Prop) (p : Prog M ε α) : Prop :=
  ∀ es r, Path p es (.done r) → Executed es →
    (Documented documented r ↔ ∀ e ∈ es, accepted e)

variable {accepted : Event M → Prop} {documented : ε → Prop}

theorem Blames.done {r : Except ε α} (fine : Documented documented r) :
    (.done r : Prog M ε α).Blames accepted documented := by
  intro es r' path _
  obtain ⟨rfl, same⟩ := path.done_inv
  cases same
  exact iff_of_true fine (by simp)

theorem Blames.pure (a : α) : (.done (.ok a) : Prog M ε α).Blames accepted documented :=
  .done fun _ impossible => nomatch impossible

theorem Blames.throw {e : ε} (known : documented e) :
    (.done (.error e) : Prog M ε α).Blames accepted documented :=
  .done fun _ same => by cases same; exact known

/-- An operation is accepted, or it ends the program with an exception that is not
documented. -/
theorem Blames.call {o : M.Op} {next : M.Ans o → Prog M ε α}
    (each : ∀ i x s a t, M.exec o x s = some (a, t) →
      (accepted ⟨i, o, a, s, t⟩ ∧ (next a).Blames accepted documented) ∨
        (¬ accepted ⟨i, o, a, s, t⟩ ∧ ∃ e, next a = .done (.error e) ∧ ¬ documented e)) :
    (Prog.call o next).Blames accepted documented := by
  intro es r path executed
  obtain ⟨i, a, s, t, rest, rfl, tail⟩ := path.call_done
  obtain ⟨⟨x, done⟩, later⟩ := List.forall_mem_cons.mp executed
  rw [List.forall_mem_cons]
  rcases each i x s a t done with ⟨fine, blames⟩ | ⟨refused, e, ended, unknown⟩
  · rw [blames rest r tail later]
    exact (and_iff_right fine).symm
  · rw [ended] at tail
    obtain ⟨-, same⟩ := tail.done_inv
    cases same
    apply iff_of_false
    · intro known
      exact unknown (known e rfl)
    · intro both
      exact refused both.1

theorem Blames.bind {p : Prog M ε α} {f : α → Prog M ε β}
    (first : p.Blames accepted documented) (rest : ∀ a, (f a).Blames accepted documented) :
    (p >>= f).Blames accepted documented := by
  intro es r path executed
  rcases path.bind_done with ⟨e, failed, rfl⟩ | ⟨a, es₁, es₂, rfl, returned, second⟩
  · have known := first es _ failed executed
    rw [← known]
    constructor <;> intro documents e' same <;> cases same <;> exact documents e rfl
  · obtain ⟨earlier, later⟩ := List.forall_mem_append.mp executed
    have fine : ∀ e ∈ es₁, accepted e :=
      (first es₁ _ returned earlier).mp fun _ impossible => nomatch impossible
    rw [List.forall_mem_append, rest a es₂ r second later]
    exact (and_iff_right fine).symm

def Charges (accepted : Event M → Prop) (fits : List (Event M) → Prop) (documented : ε → Prop)
    (p : Prog M ε α) : Prop :=
  ∀ es r, Path p es (.done r) → Executed es →
    (Documented documented r ↔ (∀ e ∈ es, accepted e) ∧ fits es)

variable {fits : List (Event M) → Prop}

/-- A program whose every history fits. -/
theorem Blames.charges {p : Prog M ε α} (blames : p.Blames accepted documented)
    (fine : ∀ es r, Path p es (.done r) → fits es) : p.Charges accepted fits documented := by
  intro es r path executed
  rw [blames es r path executed]
  exact (and_iff_left (fine es r path)).symm

theorem Charges.throw {e : ε} (unknown : ¬ documented e) (unfit : ¬ fits []) :
    (.done (.error e) : Prog M ε α).Charges accepted fits documented := by
  intro es r path _
  obtain ⟨rfl, same⟩ := path.done_inv
  cases same
  apply iff_of_false
  · exact fun known => unknown (known e rfl)
  · exact fun both => unfit both.2

theorem Charges.congr {other : List (Event M) → Prop} {p : Prog M ε α}
    (charges : p.Charges accepted fits documented) (same : ∀ es r, Path p es (.done r) →
      (fits es ↔ other es)) : p.Charges accepted other documented := by
  intro es r path executed
  rw [charges es r path executed, same es r path]

theorem Charges.map {p : Prog M ε α} (charges : p.Charges accepted fits documented) (f : α → β) :
    (p >>= fun a => .done (.ok (f a))).Charges accepted fits documented := by
  intro es r path executed
  rcases path.bind_done with ⟨e, failed, rfl⟩ | ⟨a, es₁, es₂, rfl, returned, final⟩
  · rw [← charges es _ failed executed]
    constructor <;> intro documents e' same <;> cases same <;> exact documents e rfl
  · obtain ⟨rfl, same⟩ := final.done_inv
    cases same
    rw [List.append_nil] at executed ⊢
    rw [← charges es₁ _ returned executed]
    exact iff_of_true (fun _ impossible => nomatch impossible) fun _ impossible => nomatch impossible

/-- A program is charged with its second part when its first returns. -/
theorem Blames.bind_charges {p : Prog M ε α} {f : α → Prog M ε β}
    (first : p.Blames accepted documented)
    (ends : ∀ es e, Path p es (.done (.error e)) → fits es)
    (rest : ∀ a es, Path p es (.done (.ok a)) →
      (f a).Charges accepted (fun later => fits (es ++ later)) documented) :
    (p >>= f).Charges accepted fits documented := by
  intro es r path executed
  rcases path.bind_done with ⟨e, failed, rfl⟩ | ⟨a, es₁, es₂, rfl, returned, second⟩
  · have known := first es _ failed executed
    rw [and_iff_left (ends es e failed), ← known]
    constructor <;> intro documents e' same <;> cases same <;> exact documents e rfl
  · obtain ⟨earlier, later⟩ := List.forall_mem_append.mp executed
    have fine : ∀ e ∈ es₁, accepted e :=
      (first es₁ _ returned earlier).mp fun _ impossible => nomatch impossible
    rw [List.forall_mem_append, rest a es₁ returned es₂ r second later]
    exact and_congr_left fun _ => (and_iff_right fine).symm

end Prog

theorem Run.charges {accepted : Event M → Prop} {fits : List (Event M) → Prop}
    {documented : ε → Prop} {c d : Config M ε α} {tr : List (Event M)} (run : Run c tr d) {i : Nat}
    {p : Prog M ε α} (found : c.pool[i]? = some p) (charges : p.Charges accepted fits documented)
    {r : Except ε α} (ended : d.pool[i]? = some (.done r)) :
    Documented documented r ↔ (∀ e ∈ ofThread i tr, accepted e) ∧ fits (ofThread i tr) := by
  obtain ⟨q, here, path⟩ := run.path i p found
  rw [ended] at here
  cases here
  apply charges _ r path
  intro e member
  exact run.exec_eq e (mem_ofThread.mp member).1

end Interleave

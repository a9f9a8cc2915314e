import Mathlib.Data.Option.Basic

/-!
# A connection to a transactional store

The client's side of a store: the committed content, while a transaction is open
the content it would commit, and what the connection keeps for itself.  Every
command may fail, and a failure either keeps the open transaction or cancels it.
A statement that is issued outside a transaction commits by itself.
-/

set_option autoImplicit false

namespace Relational

/-- How a command failed: with the transaction kept open, or cancelled. -/
inductive Fault (ε : Type) where
  | kept (raised : ε)
  | cancelled (raised : ε)
  deriving DecidableEq

def Fault.raised {ε : Type} : Fault ε → ε
  | kept e => e
  | cancelled e => e

/-- What a connection keeps for itself (its settings, its temporary objects), and what the
ends of a transaction make of it. -/
class Ambient (κ : Type) where
  opened : κ
  begun : κ → κ
  committed : κ → κ
  rolledBack : κ → κ

instance : Ambient Unit := ⟨(), fun _ => (), fun _ => (), fun _ => ()⟩

/-- Transaction control.  Without a transaction a COMMIT or a ROLLBACK does nothing, or it
raises. -/
inductive Control (ε : Type) where
  | start (nested : ε)
  | commit (idle : Option ε)
  | rollback (idle : Option ε)

structure Handle (κ σ : Type) where
  ambient : κ
  committed : σ
  pending : Option σ

namespace Handle

variable {κ σ ρ ε : Type}

/-- No transaction is open. -/
def closed (k : κ) (s : σ) : Handle κ σ := ⟨k, s, none⟩

/-- A transaction that holds `s` over the committed `c`. -/
def holding (k : κ) (c s : σ) : Handle κ σ := ⟨k, c, some s⟩

/-- What a statement on this connection reads. -/
def content (h : Handle κ σ) : σ := h.pending.getD h.committed

def write (h : Handle κ σ) (k : κ) (s : σ) : Handle κ σ :=
  match h.pending with
  | none => closed k s
  | some _ => holding k h.committed s

/-- A failure that cancels an open transaction in which something was written. -/
def Loses (fault : Option (Fault ε)) (h : Handle κ σ) : Prop :=
  (∃ e, fault = some (.cancelled e)) ∧ h.content ≠ h.committed

/-- A statement that leaves alone what the connection keeps for itself. -/
def onContent (act : σ → Except ε (ρ × σ)) (k : κ) (s : σ) : Except ε (ρ × κ × σ) :=
  match act s with
  | .ok (reply, s) => .ok (reply, k, s)
  | .error e => .error e

section Commands

variable [Ambient κ]

/-- A connection that was just opened. -/
def fresh (s : σ) : Handle κ σ := closed Ambient.opened s

def rollback (h : Handle κ σ) : Handle κ σ :=
  match h.pending with
  | none => h
  | some _ => closed (Ambient.rolledBack h.ambient) h.committed

/-- A COMMIT that succeeds.  Nothing happens when no transaction is open. -/
def settle (h : Handle κ σ) : Handle κ σ :=
  match h.pending with
  | none => h
  | some s => closed (Ambient.committed h.ambient) s

/-- A transaction does not nest. -/
def start (nested : ε) (fault : Option ε) (h : Handle κ σ) : Except ε Unit × Handle κ σ :=
  match h.pending, fault with
  | some _, _ => (.error nested, h)
  | none, some e => (.error e, h)
  | none, none => (.ok (), holding (Ambient.begun h.ambient) h.committed h.committed)

def execute (fault : Option (Fault ε)) (statement : κ → σ → Except ε (ρ × κ × σ))
    (h : Handle κ σ) : Except ε ρ × Handle κ σ :=
  match fault with
  | some (.kept e) => (.error e, h)
  | some (.cancelled e) => (.error e, h.rollback)
  | none =>
    match statement h.ambient h.content with
    | .ok (reply, k, s) => (.ok reply, h.write k s)
    | .error e => (.error e, h)

def commit (fault : Option (Fault ε)) (h : Handle κ σ) : Except ε Unit × Handle κ σ :=
  match h.pending, fault with
  | none, _ => (.ok (), h)
  | some _, none => (.ok (), h.settle)
  | some _, some (.kept e) => (.error e, h)
  | some _, some (.cancelled e) => (.error e, h.rollback)

def control (fault : Option (Fault ε)) (command : Control ε) (h : Handle κ σ) :
    Except ε Unit × Handle κ σ :=
  match command, h.pending with
  | .start nested, _ => h.start nested (fault.map Fault.raised)
  | .commit none, none | .rollback none, none => (.ok (), h)
  | .commit (some e), none | .rollback (some e), none => (.error e, h)
  | .commit _, some _ => h.commit fault
  | .rollback _, some _ =>
    match fault with
    | none => (.ok (), h.rollback)
    | some (.kept e) => (.error e, h)
    | some (.cancelled e) => (.error e, h.rollback)

end Commands

@[simp] theorem closed_ambient (k : κ) (s : σ) : (closed k s).ambient = k := rfl

@[simp] theorem closed_committed (k : κ) (s : σ) : (closed k s).committed = s := rfl

@[simp] theorem closed_pending (k : κ) (s : σ) : (closed k s).pending = none := rfl

@[simp] theorem closed_content (k : κ) (s : σ) : (closed k s).content = s := rfl

@[simp] theorem holding_ambient (k : κ) (c s : σ) : (holding k c s).ambient = k := rfl

@[simp] theorem holding_committed (k : κ) (c s : σ) : (holding k c s).committed = c := rfl

@[simp] theorem holding_pending (k : κ) (c s : σ) : (holding k c s).pending = some s := rfl

@[simp] theorem holding_content (k : κ) (c s : σ) : (holding k c s).content = s := rfl

@[simp] theorem closed_write (k k' : κ) (s t : σ) : (closed k s).write k' t = closed k' t := rfl

@[simp] theorem holding_write (k k' : κ) (c s t : σ) :
    (holding k c s).write k' t = holding k' c t := rfl

/-- A connection has no transaction open, or it holds one. -/
theorem closed_or_holding (h : Handle κ σ) :
    h = closed h.ambient h.committed ∨ ∃ s, h = holding h.ambient h.committed s := by
  rcases h with ⟨k, c, none | s⟩
  · exact .inl rfl
  · exact .inr ⟨s, rfl⟩

theorem eq_closed {h : Handle κ σ} (ended : h.pending = none) :
    h = closed h.ambient h.committed := by
  rcases h with ⟨k, c, p⟩
  rw [show p = none from ended]
  rfl

section Ends

variable [Ambient κ]

@[simp] theorem fresh_committed (s : σ) : (fresh s : Handle κ σ).committed = s := rfl

@[simp] theorem fresh_content (s : σ) : (fresh s : Handle κ σ).content = s := rfl

@[simp] theorem holding_rollback (k : κ) (c s : σ) :
    (holding k c s).rollback = closed (Ambient.rolledBack k) c := rfl

@[simp] theorem rollback_committed (h : Handle κ σ) : h.rollback.committed = h.committed := by
  rcases h with ⟨k, c, _ | s⟩ <;> rfl

@[simp] theorem rollback_pending (h : Handle κ σ) : h.rollback.pending = none := by
  rcases h with ⟨k, c, _ | s⟩ <;> rfl

@[simp] theorem settle_committed (h : Handle κ σ) : h.settle.committed = h.content := by
  rcases h with ⟨k, c, _ | s⟩ <;> rfl

@[simp] theorem settle_pending (h : Handle κ σ) : h.settle.pending = none := by
  rcases h with ⟨k, c, _ | s⟩ <;> rfl

end Ends

end Handle

/-! ## Work -/

/-- A function of the connection: statements and transaction control, each chosen from the
replies so far and from whether a transaction is open, and what it returns or raises in
the end. -/
inductive Work (κ σ ρ ε α : Type) where
  | done (outcome : Except ε α)
  | statement (run : κ → σ → Except ε (ρ × κ × σ)) (next : Except ε ρ → Work κ σ ρ ε α)
  | control (command : Control ε) (next : Except ε Unit → Work κ σ ρ ε α)
  | inTransaction (next : Bool → Work κ σ ρ ε α)

namespace Work

open Handle

variable {κ σ ρ ε α : Type}

section Runs

variable [Ambient κ]

/-- The faults meet the commands in order; past their end nothing fails. -/
def run : Work κ σ ρ ε α → List (Option (Fault ε)) → Handle κ σ → Except ε α × Handle κ σ
  | done outcome, _, h => (outcome, h)
  | statement act next, faults, h =>
    let (reply, h') := h.execute faults.head?.join act
    (next reply).run faults.tail h'
  | control command next, faults, h =>
    let (reply, h') := h.control faults.head?.join command
    (next reply).run faults.tail h'
  | inTransaction next, faults, h => (next h.pending.isSome).run faults h

/-- A failure of a statement or of a COMMIT of the work undid what the work had written. -/
def Undone : Work κ σ ρ ε α → List (Option (Fault ε)) → Handle κ σ → Prop
  | done _, _, _ => False
  | statement act next, faults, h =>
    h.Loses faults.head?.join ∨
      (next (h.execute faults.head?.join act).1).Undone faults.tail
        (h.execute faults.head?.join act).2
  | control command next, faults, h =>
    (∃ idle, command = .commit idle) ∧ h.Loses faults.head?.join ∨
      (next (h.control faults.head?.join command).1).Undone faults.tail
        (h.control faults.head?.join command).2
  | inTransaction next, faults, h => (next h.pending.isSome).Undone faults h

end Runs

/-- The same when nothing fails, on the content alone, for work that leaves its
transaction to its caller; transaction control does nothing here. -/
def eval : Work κ σ ρ ε α → κ → σ → Except ε α × κ × σ
  | done outcome, k, s => (outcome, k, s)
  | statement act next, k, s =>
    match act k s with
    | .ok (reply, k', s') => (next (.ok reply)).eval k' s'
    | .error e => (next (.error e)).eval k s
  | control _ next, k, s => (next (.ok ())).eval k s
  | inTransaction next, k, s => (next true).eval k s

/-- Statements only, after the first of which that fails nothing follows but its error. -/
def Stops : Work κ σ ρ ε α → Prop
  | done _ => True
  | statement _ next =>
    (∀ e, next (.error e) = done (.error e)) ∧ ∀ reply, (next (.ok reply)).Stops
  | control _ _ => False
  | inTransaction _ => False

variable [Ambient κ]

theorem run_statement (act : κ → σ → Except ε (ρ × κ × σ)) (next : Except ε ρ → Work κ σ ρ ε α)
    (faults : List (Option (Fault ε))) (h : Handle κ σ) :
    (statement act next).run faults h =
      (next (h.execute faults.head?.join act).1).run faults.tail
        (h.execute faults.head?.join act).2 := rfl

/-- Such work either raises and has committed nothing, or all its statements took place. -/
theorem run_stops (work : Work κ σ ρ ε α) (stops : work.Stops) (faults : List (Option (Fault ε)))
    (k : κ) (c s : σ) :
    ((∃ e, (work.run faults (holding k c s)).1 = .error e) ∧
        (work.run faults (holding k c s)).2.committed = c) ∨
      ∃ a k' t, work.run faults (holding k c s) = (.ok a, holding k' c t) ∧
        work.eval k s = (.ok a, k', t) := by
  induction work generalizing faults k s with
  | done outcome =>
    cases outcome with
    | error e => exact .inl ⟨⟨e, rfl⟩, rfl⟩
    | ok a => exact .inr ⟨a, k, s, rfl, rfl⟩
  | statement act next ih =>
    rw [run_statement, eval]
    have raises := fun e => stops.1 e
    rcases faults.head?.join with _ | e | e
    · cases reply : act k s with
      | ok r =>
        simp only [execute, holding_ambient, holding_content, holding_write, reply]
        exact ih _ (stops.2 r.1) faults.tail r.2.1 r.2.2
      | error e =>
        simp only [execute, holding_ambient, holding_content, reply, raises, run]
        exact .inl ⟨⟨e, rfl⟩, rfl⟩
    · simp only [execute, raises, run]
      exact .inl ⟨⟨e, rfl⟩, rfl⟩
    · simp only [execute, raises, run]
      exact .inl ⟨⟨e, rfl⟩, rfl⟩
  | control command next ih => exact stops.elim
  | inTransaction next ih => exact stops.elim

theorem run_faultless_holding (work : Work κ σ ρ ε α) (stops : work.Stops) (k : κ) (c s : σ) :
    work.run [] (holding k c s) =
      ((work.eval k s).1, holding (work.eval k s).2.1 c (work.eval k s).2.2) := by
  induction work generalizing k s with
  | done outcome => rfl
  | statement act next ih =>
    rw [run_statement]
    simp only [List.head?_nil, Option.join_none, List.tail_nil, execute, holding_ambient,
      holding_content, eval]
    cases act k s with
    | ok r => exact ih _ (stops.2 r.1) r.2.1 r.2.2
    | error e =>
      simp only [stops.1]
      rfl
  | control command next ih => exact stops.elim
  | inTransaction next ih => exact stops.elim

end Work

end Relational

import Keyring.Accounts.SqlStore
import Keyring.Relational.Handle

/-!
# The shared connection

`Database.run` and `Database.transact` over the one connection, with the
places at which SQLite can fail.  The worker thread runs one submitted callable
at a time, so the calls follow one another on the connection.  Work is handed the
connection itself, so it can end its transaction or change settings.  Where nothing
fails a transaction is the `transact` of the stores.
-/

set_option autoImplicit false

namespace Keyring

open Relational Handle

/-- What a work function can raise: an error of the vocabulary, or
`sqlite3.OperationalError`. -/
inductive Raised where
  | error (raised : Error)
  | operational (message : String)
  deriving DecidableEq

/-- Where SQLite fails during one call, and how. -/
structure Faults where
  beginImmediate : Option Raised
  statements : List (Option (Fault Raised))
  commit : Option (Fault Raised)

def Faults.none : Faults := ⟨.none, [], .none⟩

def nestedTransaction : Raised :=
  .operational "cannot start a transaction within a transaction"

variable {κ σ ρ α : Type} [Ambient κ]

def inTransaction (faults : Faults) (work : Work κ σ ρ Raised α) (connection : Handle κ σ) :
    Except Raised α × Handle κ σ :=
  match connection.start nestedTransaction faults.beginImmediate with
  | (.error e, connection) => (.error e, connection)
  | (.ok (), connection) =>
    match work.run faults.statements connection with
    | (.error e, connection) => (.error e, connection.rollback)
    | (.ok result, connection) =>
      -- `commit()` stands after the `try`, so what it raises rolls nothing back
      match connection.commit faults.commit with
      | (.error e, connection) => (.error e, connection)
      | (.ok (), connection) => (.ok result, connection)

namespace Database

def run (work : Handle κ σ → Except Raised α × Handle κ σ) (connection : Handle κ σ) :
    Except Raised α × Handle κ σ :=
  work connection

def transact (faults : Faults) (work : Work κ σ ρ Raised α) (connection : Handle κ σ) :
    Except Raised α × Handle κ σ :=
  run (inTransaction faults work) connection

/-- One write statement in its own transaction. -/
def execute (faults : Faults) (statement : κ → σ → Except Raised (Nat × κ × σ))
    (connection : Handle κ σ) : Except Raised Nat × Handle κ σ :=
  transact faults (.statement statement .done) connection

end Database

theorem inTransaction_begun {k : κ} {s : σ} {faults : Faults} {work : Work κ σ ρ Raised α}
    (begins : faults.beginImmediate = none) :
    inTransaction faults work (closed k s) =
      match work.run faults.statements (holding (Ambient.begun k) s s) with
      | (.error e, connection) => (.error e, connection.rollback)
      | (.ok result, connection) =>
        match connection.commit faults.commit with
        | (.error e, connection) => (.error e, connection)
        | (.ok (), connection) => (.ok result, connection) := by
  have begun : (closed k s).start nestedTransaction faults.beginImmediate =
      (.ok (), holding (Ambient.begun k) s s) := by rw [begins]; rfl
  simp only [inTransaction, begun]

/-! ## Without faults -/

theorem inTransaction_faultless (work : Work κ σ ρ Raised α) (stops : work.Stops) (k : κ) (s : σ) :
    inTransaction .none work (closed k s) =
      match work.eval (Ambient.begun k) s with
      | (.ok a, k', s') => (.ok a, closed (Ambient.committed k') s')
      | (.error e, k', _) => (.error e, closed (Ambient.rolledBack k') s) := by
  rw [inTransaction_begun rfl, Faults.none, work.run_faultless_holding stops]
  rcases work.eval (Ambient.begun k) s with ⟨_ | a, k', s'⟩
  · rfl
  · rfl

/-- The statements of a store's operation, as one. -/
def workOf (operation : Transaction α) : Work κ Db α Raised α :=
  .statement (onContent fun db => (operation.run db).mapError Raised.error) .done

/-- `transact` of the stores is the transaction on the connection in which nothing fails. -/
theorem transact_workOf (operation : Transaction α) (s : Db) :
    Database.transact .none (workOf operation) (closed () s) =
      ((transact operation s).1.mapError Raised.error, closed () (transact operation s).2) := by
  have stops : (workOf operation : Work Unit Db α Raised α).Stops :=
    ⟨fun _ => rfl, fun _ => trivial⟩
  rw [Database.transact, Database.run, inTransaction_faultless _ stops, workOf, Work.eval,
    onContent, transact]
  cases operation.run s with
  | ok r => rfl
  | error e => rfl

/-! ## With faults -/

/-- What the work leaves of the transaction that began on `s`. -/
def ended (k : κ) (s : σ) (faults : Faults) (work : Work κ σ ρ Raised α) :
    Except Raised α × Handle κ σ :=
  work.run faults.statements (holding (Ambient.begun k) s s)

/-- What a transaction promises that began on `s` with no transaction open. -/
structure Atomic (k : κ) (s : σ) (faults : Faults) (work : Work κ σ ρ Raised α)
    (outcome : Except Raised α × Handle κ σ) : Prop where
  /-- The state before it, or the one that the whole work made. -/
  whole : outcome.2.committed = s ∨
    outcome.2.committed = (ended k s faults work).2.content ∧
      ¬work.Undone faults.statements (holding (Ambient.begun k) s s)
  refused : ∀ e, outcome.1 = .error e → outcome.2.committed = s
  settled : outcome.2.pending = none
  laterTransact : ∀ {ρ' β : Type} (faults' : Faults) (work' : Work κ σ ρ' Raised β),
    Database.transact faults' work' outcome.2 =
      Database.transact faults' work' (closed k outcome.2.committed)
  laterRun : ∀ {β : Type} (work' : Handle κ σ → Except Raised β × Handle κ σ),
    Database.run work' outcome.2 = Database.run work' (closed k outcome.2.committed)

/-- How a call ends after its work. -/
inductive Ending where
  | rolledBack
  | committed
  | leftOpen
  deriving DecidableEq

def ending (faults : Faults) : Except Raised α × Handle κ σ → Ending
  | (.error _, _) => .rolledBack
  | (.ok _, h) =>
    match h.pending, faults.commit with
    | none, _ => .committed
    | some _, none => .committed
    | some _, some (.kept _) => .leftOpen
    | some _, some (.cancelled _) => .rolledBack

/-- The work stays inside its transaction, and COMMIT does not leave that open. -/
structure Contained (k : κ) (s : σ) (faults : Faults) (work : Work κ σ ρ Raised α) : Prop where
  closes : ending faults (ended k s faults work) ≠ .leftOpen
  /-- What is rolled back had committed nothing by itself. -/
  nothingEscapes : ending faults (ended k s faults work) = .rolledBack →
    (ended k s faults work).2.committed = s
  /-- What is committed did not go on after a failure that undid a part of it. -/
  nothingTorn : ending faults (ended k s faults work) = .committed →
    work.Undone faults.statements (holding (Ambient.begun k) s s) →
      (ended k s faults work).2.content = s
  /-- The connection has its settings and temporary objects back. -/
  restored : ending faults (ended k s faults work) = .rolledBack →
    (ended k s faults work).2.rollback.ambient = k
  returned : ending faults (ended k s faults work) = .committed →
    (ended k s faults work).2.settle.ambient = k

section Ends

variable {k : κ} {s : σ} {faults : Faults} {work : Work κ σ ρ Raised α}

theorem inTransaction_rolledBack (begins : faults.beginImmediate = none)
    (rolledBack : ending faults (ended k s faults work) = .rolledBack) :
    ∃ e, inTransaction faults work (closed k s) =
      (.error e, (ended k s faults work).2.rollback) := by
  rw [inTransaction_begun begins, ← ended]
  generalize ended k s faults work = outcome at rolledBack ⊢
  rcases outcome with ⟨e | a, k', c, _ | t⟩
  · exact ⟨e, rfl⟩
  · exact ⟨e, rfl⟩
  · cases rolledBack
  · rcases commits : faults.commit with _ | e | e
    · simp [ending, commits] at rolledBack
    · simp [ending, commits] at rolledBack
    · exact ⟨e, rfl⟩

theorem inTransaction_committed (begins : faults.beginImmediate = none)
    (committed : ending faults (ended k s faults work) = .committed) :
    ∃ a, inTransaction faults work (closed k s) = (.ok a, (ended k s faults work).2.settle) := by
  rw [inTransaction_begun begins, ← ended]
  generalize ended k s faults work = outcome at committed ⊢
  rcases outcome with ⟨e | a, k', c, _ | t⟩
  · cases committed
  · cases committed
  · exact ⟨a, rfl⟩
  · rcases commits : faults.commit with _ | e | e
    · exact ⟨a, rfl⟩
    · simp [ending, commits] at committed
    · simp [ending, commits] at committed

theorem inTransaction_leftOpen (begins : faults.beginImmediate = none)
    (leftOpen : ending faults (ended k s faults work) = .leftOpen) :
    (inTransaction faults work (closed k s)).2.pending ≠ none := by
  rw [inTransaction_begun begins, ← ended]
  generalize ended k s faults work = outcome at leftOpen ⊢
  rcases outcome with ⟨e | a, k', c, _ | t⟩
  · cases leftOpen
  · cases leftOpen
  · cases leftOpen
  · rcases commits : faults.commit with _ | e | e
    · simp [ending, commits] at leftOpen
    · simp [Handle.commit]
    · simp [ending, commits] at leftOpen

/-- Without a transaction and with its own things as they were, a connection is as before. -/
theorem Atomic.of_closed {result : Except Raised α} {h : Handle κ σ} (settled : h.pending = none)
    (same : h.ambient = k)
    (whole : h.committed = s ∨ h.committed = (ended k s faults work).2.content ∧
      ¬work.Undone faults.statements (holding (Ambient.begun k) s s))
    (refused : ∀ e, result = .error e → h.committed = s) :
    Atomic k s faults work (result, h) := by
  have closes : h = closed k h.committed := same ▸ eq_closed settled
  exact
    { whole := whole
      refused := refused
      settled := settled
      laterTransact := fun faults' work' => congrArg (Database.transact faults' work') closes
      laterRun := fun work' => congrArg (Database.run work') closes }

theorem Atomic.ambient {outcome : Except Raised α × Handle κ σ}
    (atomic : Atomic k s faults work outcome) : outcome.2.ambient = k := by
  have same := atomic.laterRun fun h => (.ok h, h)
  exact congrArg (fun outcome => outcome.2.ambient) same

theorem atomic_begun (begins : faults.beginImmediate = none) :
    Atomic k s faults work (inTransaction faults work (closed k s)) ↔
      Contained k s faults work := by
  cases stage : ending faults (ended k s faults work) with
  | rolledBack =>
    obtain ⟨e, raised⟩ := inTransaction_rolledBack begins stage
    rw [raised]
    constructor
    · intro atomic
      have kept : (ended k s faults work).2.rollback.committed = s := atomic.refused e rfl
      rw [rollback_committed] at kept
      exact ⟨by simp [stage], fun _ => kept, by simp [stage], fun _ => atomic.ambient,
        by simp [stage]⟩
    · intro inside
      have kept := inside.nothingEscapes stage
      rw [← rollback_committed] at kept
      exact .of_closed (rollback_pending _) (inside.restored stage) (.inl kept) fun _ _ => kept
  | committed =>
    obtain ⟨a, returned⟩ := inTransaction_committed begins stage
    rw [returned]
    constructor
    · intro atomic
      refine ⟨by simp [stage], by simp [stage], fun _ undone => ?_, by simp [stage],
        fun _ => atomic.ambient⟩
      rcases atomic.whole with before | ⟨-, intact⟩
      · rw [← settle_committed]
        exact before
      · exact absurd undone intact
    · intro inside
      refine .of_closed (settle_pending _) (inside.returned stage) ?_ (by simp)
      rw [settle_committed]
      by_cases undone : work.Undone faults.statements (holding (Ambient.begun k) s s)
      · exact .inl (inside.nothingTorn stage undone)
      · exact .inr ⟨rfl, undone⟩
  | leftOpen =>
    constructor
    · intro atomic
      exact absurd atomic.settled (inTransaction_leftOpen begins stage)
    · intro inside
      exact absurd stage inside.closes

end Ends

theorem inTransaction_atomic (k : κ) (s : σ) (faults : Faults) (work : Work κ σ ρ Raised α) :
    Atomic k s faults work (inTransaction faults work (closed k s)) ↔
      faults.beginImmediate ≠ none ∨ Contained k s faults work := by
  cases begins : faults.beginImmediate with
  | none => simp [atomic_begun begins]
  | some e =>
    have refused : inTransaction faults work (closed k s) = (.error e, closed k s) := by
      simp [inTransaction, start, begins]
    simp only [refused, ne_eq, reduceCtorEq, not_false_eq_true, true_or, iff_true]
    exact .of_closed rfl rfl (.inl rfl) fun _ _ => rfl

/-- A call of `transact` is atomic and leaves no residue exactly when it does not begin, or
its work stays inside its transaction and COMMIT does not leave that open. -/
theorem transact_atomic_iff {κ σ ρ α : Type} [Ambient κ] (k : κ) (s : σ) (faults : Faults)
    (work : Work κ σ ρ Raised α) :
    Atomic k s faults work (Database.transact faults work (closed k s)) ↔
      faults.beginImmediate ≠ none ∨ Contained k s faults work := by
  rw [Database.transact, Database.run]
  exact inTransaction_atomic k s faults work

/-! ### A COMMIT that finds the database locked -/

def lockedCommit : Faults where
  beginImmediate := none
  statements := []
  commit := some (.kept (.operational "database is locked"))

def issueInvitation : Work Unit Db Unit Raised Unit :=
  workOf (GrantOp.run (.add
    { grantId := "grant", purpose := .invite, tokenHash := "hash", createdAt := 0, expiresAt := 1,
      email := some "a@b.example", accountId := none, redeemedAt := none, revoked := false,
      named := rfl }))

def countGrants : Work Unit Db Nat Raised Nat :=
  .statement (onContent fun db => .ok (db.grants.rows.length, db)) .done

/-- The insertion that was refused stays pending: the next transaction is refused for it,
and the next read sees it. -/
theorem locked_commit_stays_open :
    ¬Atomic () Db.empty lockedCommit issueInvitation
        (Database.transact lockedCommit issueInvitation (fresh Db.empty)) ∧
      (Database.transact .none countGrants
        (Database.transact lockedCommit issueInvitation (fresh Db.empty)).2).1 =
          .error nestedTransaction ∧
      (Database.run (countGrants.run [])
        (Database.transact lockedCommit issueInvitation (fresh Db.empty)).2).1 = .ok 1 ∧
      (Database.transact lockedCommit issueInvitation
        (fresh Db.empty)).2.committed.grants.rows.length = 0 := by
  refine ⟨fun atomic => ?_, rfl, rfl, rfl⟩
  cases atomic.settled

/-! ## One call after the other -/

/-- A callable submitted to the worker thread. -/
inductive Submitted (κ σ ρ α : Type) where
  | run (faults : Faults) (work : Work κ σ ρ Raised α)
  | transact (faults : Faults) (work : Work κ σ ρ Raised α)

namespace Submitted

def perform : Submitted κ σ ρ α → Handle κ σ → Except Raised α × Handle κ σ
  | run faults work, connection => Database.run (work.run faults.statements) connection
  | transact faults work, connection => Database.transact faults work connection

/-- A transaction is an atomic one where it stands, and work outside of one leaves the
connection as it was. -/
def Leaves (k : κ) (s : σ) : Submitted κ σ ρ α → Prop
  | run faults work =>
    (work.run faults.statements (closed k s)).2.pending = none ∧
      (work.run faults.statements (closed k s)).2.ambient = k
  | transact faults work => faults.beginImmediate ≠ none ∨ Contained k s faults work

/-- Each call on the state that it meets. -/
def Sound (k : κ) : List (Submitted κ σ ρ α) → σ → Prop
  | [], _ => True
  | call :: rest, s => call.Leaves k s ∧ Sound k rest (call.perform (closed k s)).2.committed

def performAll (calls : List (Submitted κ σ ρ α)) (connection : Handle κ σ) : Handle κ σ :=
  calls.foldl (fun connection call => (call.perform connection).2) connection

theorem perform_closed (call : Submitted κ σ ρ α) {k : κ} {s : σ} (leaves : call.Leaves k s) :
    (call.perform (closed k s)).2 = closed k (call.perform (closed k s)).2.committed := by
  cases call with
  | run faults work =>
    have same := eq_closed leaves.1
    rw [leaves.2] at same
    exact same
  | transact faults work =>
    have atomic := (inTransaction_atomic k s faults work).mpr leaves
    have same := eq_closed atomic.settled
    rw [atomic.ambient] at same
    exact same

/-- Over any sequence of sound calls the connection stays without residue. -/
theorem performAll_closed (calls : List (Submitted κ σ ρ α)) {k : κ} {s : σ}
    (sound : Sound k calls s) : ∃ s', performAll calls (closed k s) = closed k s' := by
  induction calls generalizing s with
  | nil => exact ⟨s, rfl⟩
  | cons call rest ih =>
    rw [performAll, List.foldl_cons, perform_closed call sound.1]
    exact ih sound.2

end Submitted
end Keyring

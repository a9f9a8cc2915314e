import Keyring.Accounts.Guesses
import Keyring.Throttle

/-!
# How many guesses are judged

Requests that are made one after the other, none of which presents the right
password.  `login` and `confirm_password` are a fixed-window lockout, so they
keep within its budget.  `change_password` judges its password without looking
at the lock and without counting.
-/

set_option autoImplicit false

namespace Keyring

open Interleave Relational AccountService

variable {env : Env} {accountId : String}

/-! ## Every run -/

/-- What a guess never changes of a row. -/
def SameSecret (row row' : AccountRow) : Prop :=
  row'.accountId = row.accountId ∧ row'.email = row.email ∧ row'.passwordHash = row.passwordHash

theorem Guess.wrongFor_congr {guess : Guess} {row row' : AccountRow} (same : SameSecret row row')
    (wrong : guess.wrongFor env row) : guess.wrongFor env row' := by
  obtain ⟨accountId, email, passwordHash⟩ := same
  cases guess with
  | attempt one => cases one <;> simpa [wrongFor, Attempt.wrongFor, accountId, email, passwordHash] using wrong
  | change _ _ _ _ => simpa [wrongFor, accountId, passwordHash] using wrong

/-- What holds of the account in every state of the run. -/
structure Guarded (row : AccountRow) (accountId : String) (w : World) : Prop where
  foreignKeys : ForeignKeys w.db
  uniqueEmails : UniqueEmails w.db
  stored : ∃ row', w.db.accounts.find? accountId = some row' ∧ SameSecret row row'

/-- The account as a lockout, after `judged` guesses. -/
def throttle (accountId : String) (w : World) (judged : Nat) : Throttle.State :=
  ⟨failedAttempts accountId w, lockedUntil accountId w, w.clock, judged⟩

abbrev ThrottleStep (env : Env) :=
  Throttle.Step env.settings.lockoutThreshold env.settings.lockoutSeconds

theorem throttle_pass {w w' : World} {n : Nat}
    (row : w'.db.accounts.find? accountId = w.db.accounts.find? accountId)
    (clock : w.clock ≤ w'.clock) :
    ThrottleStep env (throttle accountId w n) (throttle accountId w' n) := by
  have step : ThrottleStep env (throttle accountId w n)
      { throttle accountId w n with clock := w'.clock } := .pass clock
  rwa [show ({ throttle accountId w n with clock := w'.clock } : Throttle.State) =
    throttle accountId w' n by simp [throttle, failedAttempts, lockedUntil, row]] at step

theorem throttle_judge {w w' : World} {n : Nat} {account copy : Account}
    (before : w.db.accounts.find? accountId = some account.toAccountRow)
    (clock : w.clock ≤ w'.clock) (opened : ∀ lock, account.lockedUntil = some lock → lock ≤ w'.clock)
    (recorded : failed env account w'.clock = .ok copy)
    (after : w'.db.accounts.find? accountId = some (account.toAccountRow.overwrite copy)) :
    ThrottleStep env (throttle accountId w n) (throttle accountId w' (n + 1)) := by
  have opened' : ∀ lock, (throttle accountId w n).lock = some lock → lock ≤ w'.clock := by
    simpa [throttle, lockedUntil, before] using opened
  have step : ThrottleStep env (throttle accountId w n) _ := .judge clock opened'
  convert step using 1
  obtain ⟨-, rfl⟩ := withFailure_eq_ok.mp recorded
  simp [throttle, failedAttempts, lockedUntil, before, after, AccountRow.overwrite]

/-- The call is an attempt whose failure could not be recorded. -/
def Spills (env : Env) (accountId : String) (m : MadeGuess env) : Prop :=
  match m.call with
  | .attempt one => one.spills env accountId m.before m.after.monotonic m.after.clock
  | .change _ _ _ _ => False

theorem guess_step (made : MadeGuess env) {row : AccountRow}
    (guarded : Guarded row accountId made.before)
    (exec : Exec (made.call.call.prog env) made.before made.result made.after)
    (clock : made.before.clock ≤ made.after.clock) (wrong : made.call.wrongFor env row) :
    Guarded row accountId made.after ∧
      (¬ made.call.changes accountId → ¬ Spills env accountId made → ∀ n,
      (ThrottleStep env (throttle accountId made.before n) (throttle accountId made.after n) ∧
          ¬ Judged accountId made) ∨
        (ThrottleStep env (throttle accountId made.before n) (throttle accountId made.after (n + 1)) ∧
          failedAttempts accountId made.after = failedAttempts accountId made.before + 1 ∧
          ∀ lock, lockedUntil accountId made.before = some lock → lock ≤ made.after.clock)) := by
  obtain ⟨fk, unique, row', stored, same⟩ := guarded
  have fk' : ForeignKeys made.after.db :=
    exec.preserves (Prog.uses_any _) (fun w => ForeignKeys w.db)
      (fun _ _ _ _ _ _ done kept => exec_foreignKeys kept done) fk
  have unique' : UniqueEmails made.after.db :=
    exec.preserves (Prog.uses_any _) (fun w => UniqueEmails w.db)
      (fun _ _ _ _ _ _ done kept => exec_uniqueEmails kept done) unique
  have wrong' := Guess.wrongFor_congr same wrong
  obtain ⟨guess, before, result, after⟩ := made
  cases guess with
  | attempt one =>
      cases Attempt.exec_cases fk unique stored wrong' exec with
      | ignored kept _ blind =>
          refine ⟨⟨fk', unique', row', kept.trans stored, same⟩, fun _ _ n => Or.inl ⟨?_, ?_⟩⟩
          · exact throttle_pass kept clock
          · rintro ⟨finds, password, never⟩
            exact never (blind finds password)
      | counted account copy there opened _ recorded written =>
          rw [stored] at there
          cases there
          have secret : SameSecret row (account.toAccountRow.overwrite copy) := by
            obtain ⟨-, rfl⟩ := withFailure_eq_ok.mp recorded
            exact same
          refine ⟨⟨fk', unique', _, written, secret⟩, fun _ _ n => Or.inr ⟨?_, ?_, ?_⟩⟩
          · exact throttle_judge stored clock opened recorded written
          · rw [failedAttempts, written, failedAttempts, stored]
            exact withFailure_failedAttempts recorded
          · intro lock locked
            rw [lockedUntil, stored] at locked
            exact opened lock locked
      | spilled account kept _ _ spills _ _ =>
          exact ⟨⟨fk', unique', row', kept.trans stored, same⟩, fun _ within =>
            absurd spills within⟩
  | change target current newPassword keep =>
      obtain ⟨kept, -⟩ := change_exec stored wrong' exec
      refine ⟨⟨fk', unique', row', kept.trans stored, same⟩, fun other _ n => Or.inl ⟨?_, ?_⟩⟩
      · exact throttle_pass kept clock
      · exact fun judged => other judged.1.1

section Runs

variable {w w' : World} {made : List (MadeGuess env)} {row : AccountRow}

theorem guarded_of_run (guarded : Guarded row accountId w)
    (run : Guesses env w made w') (clock : ∀ m ∈ made, m.before.clock ≤ m.after.clock)
    (wrong : ∀ m ∈ made, m.call.wrongFor env row) : Guarded row accountId w' ∧
      ∀ m ∈ made, Guarded row accountId m.before ∧
        Exec (m.call.call.prog env) m.before m.result m.after := by
  induction run with
  | refl => exact ⟨guarded, by simp⟩
  | @snoc made t u c r init last ih =>
      obtain ⟨here, each⟩ := ih (fun m member => clock m (List.mem_append_left _ member))
        fun m member => wrong m (List.mem_append_left _ member)
      refine ⟨(guess_step ⟨c, t, r, u⟩ here last (clock _ (by simp))
        (wrong _ (by simp))).1, fun m member => ?_⟩
      rcases List.mem_append.mp member with earlier | newest
      · exact each m earlier
      · rw [List.mem_singleton.mp newest]
        exact ⟨here, last⟩

theorem throttle_of_run (guarded : Guarded row accountId w)
    (run : Guesses env w made w') (clock : ∀ m ∈ made, m.before.clock ≤ m.after.clock)
    (wrong : ∀ m ∈ made, m.call.wrongFor env row)
    (recorded : ∀ m ∈ made, ¬ m.call.changes accountId ∧ ¬ Spills env accountId m) :
    ∃ n, Throttle.Steps env.settings.lockoutThreshold env.settings.lockoutSeconds
        (throttle accountId w 0) (throttle accountId w' n) ∧
      ∀ asked : List (MadeGuess env), asked.Sublist made → (∀ m ∈ asked, Judged accountId m) →
        asked.length ≤ n := by
  induction run with
  | refl => exact ⟨0, .refl, fun asked sub _ => by simp [List.sublist_nil.mp sub]⟩
  | @snoc made t u c r init last ih =>
      have earlier : ∀ m ∈ made, m ∈ made ++ [⟨c, t, r, u⟩] := fun m member =>
        List.mem_append_left _ member
      obtain ⟨n, steps, bounded⟩ := ih (fun m member => clock m (earlier m member))
        (fun m member => wrong m (earlier m member)) fun m member => recorded m (earlier m member)
      have here := (guarded_of_run guarded init (fun m member => clock m (earlier m member))
        fun m member => wrong m (earlier m member)).1
      obtain ⟨unchanged, within⟩ := recorded ⟨c, t, r, u⟩ (by simp)
      rcases (guess_step ⟨c, t, r, u⟩ here last (clock _ (by simp))
        (wrong _ (by simp))).2 unchanged within n with ⟨step, unjudged⟩ | ⟨step, -⟩
      · refine ⟨n, steps.tail step, fun asked sub judged => ?_⟩
        obtain ⟨first, second, rfl, below, single⟩ := List.sublist_append_iff.mp sub
        rcases List.sublist_singleton.mp single with rfl | rfl
        · simpa using bounded first below fun m member => judged m (by simp [member])
        · exact absurd (judged ⟨c, t, r, u⟩ (by simp)) unjudged
      · refine ⟨n + 1, steps.tail step, fun asked sub judged => ?_⟩
        obtain ⟨first, second, rfl, below, single⟩ := List.sublist_append_iff.mp sub
        have few := bounded first below fun m member => judged m (by simp [member])
        have one := single.length_le
        simp only [List.length_append, List.length_singleton] at one ⊢
        omega

/-- However many requests were judged, they keep within the threshold and one for
each lockout window that has passed; each of them counts, and none is judged
while the account is locked. -/
def WithinBudget (env : Env) (accountId : String) (w : World) (made : List (MadeGuess env))
    (w' : World) : Prop :=
  (∀ asked : List (MadeGuess env), asked.Sublist made → (∀ m ∈ asked, Judged accountId m) →
    ((asked.length - env.settings.lockoutThreshold : Nat) : Int) * env.settings.lockoutSeconds ≤
      w'.clock - w.clock) ∧
  ∀ m ∈ made, Judged accountId m →
    failedAttempts accountId m.after = failedAttempts accountId m.before + 1 ∧
      ∀ lock, lockedUntil accountId m.before = some lock → lock ≤ m.after.clock

theorem change_uncounted {m : MadeGuess env} {password : String}
    (guarded : Guarded row accountId m.before)
    (right : env.hasher.verify row.passwordHash password = true)
    (wrong : m.call.wrongFor env row) (changes : m.call.changes accountId)
    (exec : Exec (m.call.call.prog env) m.before m.result m.after) :
    Judged accountId m ∧ failedAttempts accountId m.after = failedAttempts accountId m.before := by
  obtain ⟨-, -, row', stored, same⟩ := guarded
  obtain ⟨guess, before, result, after⟩ := m
  cases guess with
  | attempt one => exact changes.elim
  | change target current newPassword keep =>
      cases changes
      obtain ⟨kept, refused⟩ := change_exec stored (Guess.wrongFor_congr same wrong) exec
      refine ⟨⟨⟨rfl, by rw [stored]; rfl⟩, password, fun other => ?_⟩, ?_⟩
      · refine change_right stored ?_ other (refused rfl)
        rw [same.2.2]
        exact right
      · rw [failedAttempts, kept, failedAttempts]

theorem spill_uncounted {m : MadeGuess env} {password : String}
    (guarded : Guarded row accountId m.before)
    (right : env.hasher.verify row.passwordHash password = true)
    (wrong : m.call.wrongFor env row) (spills : Spills env accountId m)
    (exec : Exec (m.call.call.prog env) m.before m.result m.after) :
    Judged accountId m ∧ failedAttempts accountId m.after = failedAttempts accountId m.before := by
  obtain ⟨fk, unique, row', stored, same⟩ := guarded
  obtain ⟨guess, before, result, after⟩ := m
  cases guess with
  | change target current newPassword keep => exact spills.elim
  | attempt one =>
      cases Attempt.exec_cases fk unique stored (Guess.wrongFor_congr same wrong) exec with
      | ignored _ within _ => exact absurd spills within
      | counted _ _ _ _ within _ _ => exact absurd spills within
      | spilled account kept looked own _ raised recorded =>
          refine ⟨⟨⟨account, looked, own⟩, password, fun other => ?_⟩, ?_⟩
          · have there := Attempt.lookup_some looked
            rw [own] at there
            have held := readAccount_row there
            rw [stored] at held
            cases held
            have knows : env.hasher.verify account.passwordHash (one.sending password).password =
                true := by
              rw [Attempt.password_sending, same.2.2]
              exact right
            exact Attempt.right_unrecorded ((one.lookup_sending password).trans looked) knows other
              raised ((one.recorded_sending password).mpr recorded)
          · rw [failedAttempts, kept, failedAttempts]

/-- In every run of wrong guesses over a clock that does not go back, the guesses
keep within the budget exactly when none of them is a change of password, or an attempt
whose lock would end after the last `datetime`. -/
theorem withinBudget_iff (fk : ForeignKeys w.db) (unique : UniqueEmails w.db)
    (stored : w.db.accounts.find? accountId = some row)
    (right : ∃ password, env.hasher.verify row.passwordHash password = true)
    (run : Guesses env w made w') (clock : ∀ m ∈ made, m.before.clock ≤ m.after.clock)
    (wrong : ∀ m ∈ made, m.call.wrongFor env row) :
    WithinBudget env accountId w made w' ↔
      ∀ m ∈ made, ¬ m.call.changes accountId ∧ ¬ Spills env accountId m := by
  have guarded : Guarded row accountId w := ⟨fk, unique, row, stored, rfl, rfl, rfl⟩
  obtain ⟨-, each⟩ := guarded_of_run guarded run clock wrong
  constructor
  · rintro ⟨-, counted⟩ m member
    obtain ⟨password, right⟩ := right
    obtain ⟨here, exec⟩ := each m member
    refine ⟨fun changes => ?_, fun spills => ?_⟩
    · obtain ⟨judged, uncounted⟩ := change_uncounted here right (wrong m member) changes exec
      have counts := (counted m member judged).1
      omega
    · obtain ⟨judged, uncounted⟩ := spill_uncounted here right (wrong m member) spills exec
      have counts := (counted m member judged).1
      omega
  · intro recorded
    refine ⟨fun asked sub judged => ?_, fun m member judged => ?_⟩
    · obtain ⟨n, steps, bounded⟩ := throttle_of_run guarded run clock wrong recorded
      refine le_trans ?_ (Throttle.budget env.settings.lockout_pos.1 rfl steps)
      have few := bounded asked sub judged
      refine Int.mul_le_mul_of_nonneg_right ?_ env.settings.lockout_pos.2
      exact Int.ofNat_le.mpr (Nat.sub_le_sub_right few _)
    · obtain ⟨here, exec⟩ := each m member
      obtain ⟨unchanged, within⟩ := recorded m member
      rcases (guess_step m here exec (clock m member) (wrong m member)).2 unchanged within 0 with
        ⟨-, unjudged⟩ | ⟨-, counted⟩
      · exact absurd judged unjudged
      · exact counted

end Runs

/-! ## An oracle -/

namespace Scenario

def made (guesses : List (Guess × List Input)) : List (MadeGuess deployment) × World :=
  playCalls (fun (guess : Guess) _ => guess.call.prog deployment) guesses office

/-- Three changes of Bob's password that he never asked for. -/
def changesOnly : List (Guess × List Input) :=
  [(.change "bob" "guess one" "another password" none, [given 5 "a"]),
    (.change "bob" "guess two" "another password" none, [given 6 "b"]),
    (.change "bob" "guess three" "another password" none, [given 7 "c"])]

/-- Guesses of the two other kinds. -/
def attemptsOnly : List (Guess × List Input) :=
  [(.attempt (.login "bob@mail.org" "guess one" "here"), List.replicate 5 (given 5 "a")),
    (.attempt (.confirm "bob" "guess two"), List.replicate 3 (given 6 "b")),
    (.attempt (.confirm "bob" "guess three"), List.replicate 3 (given 7 "c"))]

theorem office_uniqueEmails : UniqueEmails office.db := by
  unfold UniqueEmails
  decide +kernel

end Scenario

open Scenario in
theorem withinBudget_attemptsOnly :
    WithinBudget deployment "bob" office (made attemptsOnly).1 (made attemptsOnly).2 ↔
      ∀ m ∈ (made attemptsOnly).1, ¬ m.call.changes "bob" ∧ ¬ Spills deployment "bob" m :=
  withinBudget_iff office_foreignKeys office_uniqueEmails
    (show office.db.accounts.find? "bob" = some bob from rfl)
    ⟨"battery staple", by decide +kernel⟩ (playCalls_calls _ _ _) (by decide +kernel)
    (by decide +kernel)

open Scenario in
/-- Three passwords were judged at a threshold of two, in no time at all. -/
theorem change_password_is_an_oracle :
    ¬ WithinBudget deployment "bob" office (made changesOnly).1 (made changesOnly).2 := by
  rintro ⟨bound, -⟩
  have guarded : Guarded bob "bob" office :=
    ⟨office_foreignKeys, office_uniqueEmails, bob, rfl, rfl, rfl, rfl⟩
  have wrong : ∀ m ∈ (made changesOnly).1, m.call.wrongFor deployment bob := by decide +kernel
  have each := (guarded_of_run guarded (playCalls_calls _ _ _) (by decide +kernel) wrong).2
  have judged : ∀ m ∈ (made changesOnly).1, Judged "bob" m := by
    intro m member
    have right : deployment.hasher.verify bob.passwordHash "battery staple" = true := by
      decide +kernel
    have changes : ∀ m ∈ (made changesOnly).1, m.call.changes "bob" := by decide +kernel
    exact (change_uncounted (each m member).1 right (wrong m member) (changes m member)
      (each m member).2).1
  have cost := bound _ (List.Sublist.refl _) judged
  revert cost
  decide +kernel

end Keyring

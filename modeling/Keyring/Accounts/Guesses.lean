import Keyring.Accounts.Limiter
import Keyring.Accounts.Lockout
import Keyring.Accounts.WriteBack

/-!
# What one guess does

A request that presents a wrong password, made alone.  A login or a confirmation
leaves the account as it was, counts one failure more, or ends in an overflow
when the lock that it would bring ends after the last `datetime`.  A change of
password is refused, and nothing is written.
-/

set_option autoImplicit false

namespace Keyring

open Interleave Relational AccountService

variable {env : Env} {accountId : String}

/-- A request that presents the account's password, one way or another. -/
inductive Guess where
  | attempt (attempt : Attempt)
  | change (accountId current newPassword : String) (keepSessionId : Option String)

namespace Guess

def call : Guess → Call
  | attempt one => one.call
  | change accountId current newPassword keep =>
      .account (.changePassword accountId current newPassword keep)

def sending : Guess → String → Guess
  | attempt one, password => .attempt (one.sending password)
  | change accountId _ newPassword keep, password => .change accountId password newPassword keep

/-- The request is one about this account, and the account is there. -/
def finds (env : Env) (accountId : String) : Guess → Db → Prop
  | attempt one, db => ∃ account, one.lookup env db = some account ∧
      account.accountId = accountId
  | change target _ _ _, db => target = accountId ∧ (db.accounts.find? target).isSome

def wrongFor (env : Env) (row : AccountRow) : Guess → Prop
  | attempt one => one.wrongFor env row
  | change target current _ _ => row.accountId = target →
      env.hasher.verify row.passwordHash current = false

/-- The request is a `change_password` on this account. -/
def changes (accountId : String) : Guess → Prop
  | change target _ _ _ => target = accountId
  | attempt _ => False

end Guess

instance (accountId : String) (guess : Guess) : Decidable (guess.changes accountId) :=
  match guess with
  | .change target _ _ _ => inferInstanceAs (Decidable (target = accountId))
  | .attempt _ => isFalse id

instance (env : Env) (row : AccountRow) (guess : Guess) : Decidable (guess.wrongFor env row) :=
  match guess with
  | .attempt one => inferInstanceAs (Decidable (one.wrongFor env row))
  | .change _ _ _ _ => inferInstanceAs (Decidable (_ → _))

/-- The requests, one after the other. -/
abbrev Guesses (env : Env) := Calls (M := machine env) fun (guess : Guess) _ => guess.call.prog env

abbrev MadeGuess (env : Env) := Made (machine env) Guess Error Answer

/-- What the request did depended on the password it was sent: with another one
it could not have ended as it has. -/
def Judged (accountId : String) (made : MadeGuess env) : Prop :=
  made.call.finds env accountId made.before.db ∧
    ∃ password, ¬ Exec ((made.call.sending password).call.prog env) made.before made.result made.after

/-! ## Finding the account -/

/-- The steps of a search leave the rows and the clock alone. -/
theorem exec_finding {o : Op} (finding : Attempt.finding o) {x : Input} {w w' : World} {a : o.Ans}
    (done : exec env o x w = some (a, w')) : w'.db = w.db ∧ w'.clock = w.clock := by
  cases o with
  | accounts o =>
      obtain ⟨-, frame⟩ := onDb_eq.mp done
      refine ⟨?_, by rw [frame]⟩
      rcases onDb_cases done with ⟨v, -, committed⟩ | ⟨-, same⟩
      · cases o with
        | get _ | getByEmail _ => exact (Prod.mk.inj (Except.ok.inj committed)).2.symm
        | _ => exact finding.elim
      · exact same
  | monotonic => cases done; exact ⟨rfl, rfl⟩
  | record _ _ _ _ _ => cases done; exact ⟨rfl, rfl⟩
  | _ => exact finding.elim

theorem Attempt.find_exec {attempt : Attempt} {w w' : World} {r : Except Error (Option Account)}
    (exec : Exec (attempt.find env) w r w') : w'.db = w.db ∧ w'.clock = w.clock ∧
      ∀ found, r = .ok found → found = attempt.lookup env w.db := by
  have sat := attempt.find_sat (E := (machine env).any) (G := (machine env).any) (R := Eq)
    (K := fun w w' => w'.db = w.db ∧ w'.clock = w.clock) (fun _ => ⟨rfl, rfl⟩)
    (fun _ _ _ first second => ⟨second.1.trans first.1, second.2.trans first.2⟩)
    (fun _ _ same => same ▸ ⟨rfl, rfl⟩)
    (fun o finding w x a w' done _ => ⟨trivial, exec_finding finding done⟩) w
  obtain ⟨⟨db, clock⟩, looked⟩ := exec.sat sat
  exact ⟨db, clock, fun found same => by rw [looked found same, db]⟩

/-- The limiter lets the attempt pass at this reading; a confirmation meets none. -/
def Attempt.admitted (env : Env) : Attempt → World → Instant → Prop
  | login _ _ caller, w, now =>
      (w.attempts.record env.floats scopeLogin caller now env.settings.loginAttempts
        env.settings.loginWindowSeconds).1 = none
  | confirm _ _, _, _ => True

def Attempt.recorded : Attempt → World → Prop
  | login _ _ caller, w => (w.attempts.find? (scopeLogin, caller)).isSome
  | confirm _ _, _ => True

theorem record_recorded (floats : Rounding) (attempts : Attempts) (scope caller : String)
    (now : Instant) (limit : Nat) (width : Instant) :
    ((attempts.record floats scope caller now limit width).2.find? (scope, caller)).isSome := by
  simp [Attempts.record, AttemptRow.key]

/-- A search is let in when it returns, and only then. -/
theorem Attempt.find_admitted {attempt : Attempt} {w w' : World}
    {r : Except Error (Option Account)} (exec : Exec (attempt.find env) w r w') :
    ((∃ found, r = .ok found) ↔ attempt.admitted env w w'.monotonic) ∧ attempt.recorded w' := by
  cases attempt with
  | login email password caller =>
      rcases exec.bind_inv with ⟨e, failed, rfl⟩ | ⟨_, t, passed, rest⟩
      · obtain ⟨answer, stored⟩ := checkLimit_exec failed
        refine ⟨iff_of_false (fun ⟨_, impossible⟩ => nomatch impossible) fun admits => ?_, ?_⟩
        · cases answer.trans (checkAnswer_eq_ok.mpr admits)
        · rw [recorded, stored]
          exact record_recorded ..
      · obtain ⟨answer, stored⟩ := checkLimit_exec passed
        have found : (∃ found, r = .ok found) ∧ w'.monotonic = t.monotonic ∧
            w'.attempts = t.attempts := by
          rw [findForLogin] at rest
          split at rest
          · obtain ⟨rfl, rfl⟩ := rest.done_inv
            exact ⟨⟨_, rfl⟩, rfl, rfl⟩
          · obtain ⟨x, a, u, read, rest⟩ := rest.call_inv
            cases read
            obtain ⟨rfl, rfl⟩ := rest.done_inv
            exact ⟨⟨_, rfl⟩, rfl, rfl⟩
        refine ⟨iff_of_true found.1 ?_, ?_⟩
        · rw [admitted, found.2.1]
          exact checkAnswer_eq_ok.mp answer.symm
        · rw [recorded, found.2.2, stored]
          exact record_recorded ..
  | confirm accountId password =>
      obtain ⟨x, a, u, read, rest⟩ := exec.call_inv
      cases read
      obtain ⟨rfl, rfl⟩ := rest.done_inv
      exact ⟨iff_of_true ⟨_, rfl⟩ trivial, trivial⟩

/-! ## One attempt -/

def IsOverflow (e : Error) : Prop := ∃ message, e = .overflow message

/-- The attempt is let in at these readings, finds the account behind an open guard, and
the lock that one failure more would bring has no `datetime` to end at. -/
def Attempt.spills (env : Env) (accountId : String) (attempt : Attempt) (w : World)
    (monotonic now : Instant) : Prop :=
  attempt.admitted env w monotonic ∧ ∃ account, attempt.lookup env w.db = some account ∧
    account.accountId = accountId ∧ notAuthenticable account now = false ∧
      ¬ LockFits env account now

/-- What a wrong attempt, made alone, does to the account's row: nothing, and
then any other password would have had the same answer; one failure more once
the lock has ended; or nothing, because the failure could not be recorded. -/
inductive Attempted (env : Env) (accountId : String) (attempt : Attempt) (w : World)
    (r : Except Error Answer) (w' : World) : Prop where
  | ignored (row : w'.db.accounts.find? accountId = w.db.accounts.find? accountId)
      (within : ¬ attempt.spills env accountId w w'.monotonic w'.clock)
      (blind : (∃ account, attempt.lookup env w.db = some account ∧ account.accountId = accountId) →
        ∀ password, Exec ((attempt.sending password).call.prog env) w r w')
  | counted (account copy : Account)
      (before : w.db.accounts.find? accountId = some account.toAccountRow)
      (opened : ∀ lock, account.lockedUntil = some lock → lock ≤ w'.clock)
      (within : ¬ attempt.spills env accountId w w'.monotonic w'.clock)
      (recorded : failed env account w'.clock = .ok copy)
      (after : w'.db.accounts.find? accountId = some (account.toAccountRow.overwrite copy))
  | spilled (account : Account)
      (row : w'.db.accounts.find? accountId = w.db.accounts.find? accountId)
      (looked : attempt.lookup env w.db = some account) (own : account.accountId = accountId)
      (spills : attempt.spills env accountId w w'.monotonic w'.clock)
      (raised : ∃ e, r = .error e ∧ IsOverflow e) (recorded : attempt.recorded w')

theorem opened_lock {account : Account} {now : Instant}
    (opened : notAuthenticable account now = false) {lock : Instant}
    (locked : account.lockedUntil = some lock) : lock ≤ now := by
  simp only [notAuthenticable, Account.isLocked, locked, Bool.or_eq_false_iff] at opened
  simpa using opened.1

/-- A wrong password that can be counted is. -/
theorem rejectPassword_saves {account copy : Account} {t w' : World} {now : Instant}
    {r : Except Error Answer} (fk : ForeignKeys t.db) (unique : UniqueEmails t.db)
    (read : readAccount t.db account.accountId = some account)
    (counts : failed env account now = .ok copy)
    (exec : Exec (rejectPassword env account now) t r w') :
    w'.clock = t.clock ∧
      w'.db.accounts.find? account.accountId = some (account.toAccountRow.overwrite copy) := by
  rw [rejectPassword, counts] at exec
  obtain ⟨x, answer, t', wrote, rest⟩ := exec.call_inv
  have written : Keyring.exec env (.accounts (.save copy)) x t = some (answer, t') := wrote
  have owned := withFailure_accountId counts
  obtain ⟨row, stored, same, -, roles⟩ := readAccount_some read
  have total : ∃ db', ((AccountOp.save copy).run env.text).run t.db = .ok ((), db') := by
    obtain ⟨-, rfl⟩ := withFailure_eq_ok.mp counts
    exact AccountOp.save_total fk unique stored (by rw [same]; rfl) fun role member =>
      roles ▸ member
  obtain ⟨db', committed⟩ := total
  obtain ⟨ended, frame⟩ := onDb_eq.mp written
  rw [transact, committed] at ended
  obtain ⟨rfl, rfl⟩ := Prod.mk.inj ended
  have rest : Exec (.done (.error (.authentication badCredentials)) : Service env Answer)
    t' r w' := rest
  obtain ⟨-, rfl⟩ := rest.done_inv
  refine ⟨by rw [frame], ?_⟩
  cases exec_written written trivial account.accountId with
  | saved other saved _ row_after _ =>
      cases Op.saved_eq_some saved
      rw [row_after, readAccount_row read]
      rfl
  | assigned _ _ _ assigned _ _ => cases assigned
  | kept unsaved _ _ _ => exact absurd owned (unsaved copy rfl)

theorem guarded_exec {attempt : Attempt} {account : Account} {w t w' : World}
    {r : Except Error Answer} (fk : ForeignKeys t.db) (unique : UniqueEmails t.db)
    (here : t.db = w.db) (first : Exec (attempt.find env) w (.ok (some account)) t)
    (looked : attempt.lookup env w.db = some account)
    (wrong : env.hasher.verify account.passwordHash attempt.password = false)
    (exec : Exec (guarded env account attempt.password (attempt.accept env account)) t r w') :
    Attempted env account.accountId attempt w r w' := by
  have read : readAccount t.db account.accountId = some account := by
    rw [here]
    exact Attempt.lookup_some looked
  have stays : ∀ now, (notAuthenticable account now = false → LockFits env account now) →
      ∀ monotonic, ¬ attempt.spills env account.accountId w monotonic now := by
    rintro now fits monotonic ⟨-, other, found, -, opened, outside⟩
    cases looked.symm.trans found
    exact outside (fits opened)
  obtain ⟨x, now, t₁, showed, rest⟩ := exec.call_inv
  have advanced : Keyring.exec env .now x t = some (now, t₁) := showed
  have kept : t₁ = { t with clock := now } := by cases advanced; rfl
  have rest : Exec (refuseIf (notAuthenticable account now) (.authentication badCredentials) >>=
      fun _ => if env.hasher.verify account.passwordHash attempt.password
        then attempt.accept env account now else rejectPassword env account now) t₁ r w' := rest
  rw [refuseIf_bind] at rest
  split at rest
  · rename_i closed
    obtain ⟨rfl, rfl⟩ := rest.done_inv
    have clock : w'.clock = now := by rw [kept]
    refine .ignored (by rw [kept, here]) ?_ fun _ password => ?_
    · refine stays _ (fun opened => ?_) _
      rw [clock, closed] at opened
      cases opened
    · rw [Attempt.prog_eq, Attempt.find_sending]
      refine first.bind_ok (.call showed ?_)
      change Exec (refuseIf _ _ >>= fun _ => _) _ _ _
      rw [refuseIf_bind, if_pos closed]
      exact .done _ _
  · rename_i opened
    rw [if_neg (by simp [wrong])] at rest
    cases counts : failed env account now with
    | error e =>
        obtain ⟨outside, message, rfl⟩ := failed_error counts
        rw [rejectPassword, counts] at rest
        obtain ⟨rfl, rfl⟩ := rest.done_inv
        obtain ⟨passed, recorded⟩ := Attempt.find_admitted first
        have admitted := passed.mp ⟨_, rfl⟩
        rw [kept]
        refine .spilled account (by rw [here]) looked rfl ?_ ⟨_, rfl, _, rfl⟩ ?_
        · exact ⟨admitted, account, looked, rfl, by simpa using opened, outside⟩
        · cases attempt <;> exact recorded
    | ok copy =>
        have fits := (withFailure_eq_ok.mp counts).1
        rw [kept] at rest
        obtain ⟨clock, after⟩ :=
          rejectPassword_saves (t := { t with clock := now }) fk unique read counts rest
        have clock : w'.clock = now := clock
        rw [← clock] at counts
        refine .counted account copy ?_ (fun lock locked => ?_) ?_ counts after
        · rw [← here]
          exact readAccount_row read
        · rw [clock]
          exact opened_lock (by simpa using opened) locked
        · rw [clock]
          exact stays now (fun _ => fits) _

theorem Attempt.exec_cases {attempt : Attempt} {w w' : World} {r : Except Error Answer}
    {row : AccountRow} (fk : ForeignKeys w.db) (unique : UniqueEmails w.db)
    (stored : w.db.accounts.find? accountId = some row) (wrong : attempt.wrongFor env row)
    (exec : Exec (attempt.call.prog env) w r w') : Attempted env accountId attempt w r w' := by
  rw [Attempt.prog_eq] at exec
  rcases exec.bind_inv with ⟨e, failed, rfl⟩ | ⟨found, t, first, rest⟩
  · obtain ⟨here, -, -⟩ := Attempt.find_exec failed
    refine .ignored (by rw [here]) (fun spills => ?_) fun _ password => ?_
    · obtain ⟨found, impossible⟩ := (Attempt.find_admitted failed).1.mpr spills.1
      cases impossible
    · rw [Attempt.prog_eq, Attempt.find_sending]
      exact failed.bind_error
  · obtain ⟨here, -, looked⟩ := Attempt.find_exec first
    have looked := (looked found rfl).symm
    cases found with
    | none =>
        obtain ⟨rfl, rfl⟩ := rest.done_inv
        refine .ignored (by rw [here]) ?_ fun _ password => ?_
        · rintro ⟨-, account, found, -⟩
          cases looked.symm.trans found
        · rw [Attempt.prog_eq, Attempt.find_sending]
          exact first.bind_ok (.done _ _)
    | some account =>
        have read := Attempt.lookup_some looked
        by_cases mine : account.accountId = accountId
        · subst mine
          rw [readAccount_row read] at stored
          cases stored
          rw [← here] at fk unique
          refine guarded_exec fk unique here first looked ?_ rest
          exact Attempt.wrong_of_lookup wrong looked (Counted.refl 0 _)
        · have elsewhere : ¬ ∃ other, attempt.lookup env w.db = some other ∧
              other.accountId = accountId := by
            rintro ⟨other, found, own⟩
            cases looked.symm.trans found
            exact mine own
          refine .ignored ?_ ?_ fun found => absurd found elsewhere
          · rw [← here]
            refine rest.preserves (attempt.guarded_elsewhere mine)
              (fun w => w.db.accounts.find? accountId = t.db.accounts.find? accountId) ?_ rfl
            intro o elsewhere x s a s' done before
            rw [(exec_elsewhere done elsewhere).1, before]
          · rintro ⟨-, other, found, own, -⟩
            exact elsewhere ⟨other, found, own⟩

/-! ## What is never raised -/

/-- However the program ends, it does not raise one of these. -/
abbrev Never {α : Type} (bad : Error → Prop) (p : Service env α) : Prop :=
  ∀ w, p.Sat (machine env).any Eq (machine env).any (fun r _ => ∀ e, r = .error e → ¬ bad e) w

section Never

variable {α β : Type} {bad : Error → Prop}

theorem Never.bind {p : Service env α} {f : α → Service env β} (first : Never bad p)
    (rest : ∀ a, Never bad (f a)) : Never bad (p >>= f) := fun w =>
  Prog.Sat.bind (first w) (fun a t _ => rest a t)
    fun e t never e' same => never e' (by cases same; rfl)

theorem never_pure (a : α) : Never bad (pure a : Service env α) :=
  fun _ _ impossible => nomatch impossible

theorem never_throw {e : Error} (fine : ¬ bad e) : Never bad (throw e : Service env α) :=
  fun _ _ same => Except.error.inj same ▸ fine

theorem never_ask (o : Op) : Never bad (ask o : Service env o.Ans) :=
  fun _ _ _ _ _ _ _ _ => ⟨trivial, fun _ impossible => nomatch impossible⟩

theorem never_store {o : Op} {result : o.Ans → Except Error α}
    (total : ∀ x w a t, exec env o x w = some (a, t) → ∃ v, result a = .ok v) :
    Never bad (.call o fun a => .done (result a) : Service env α) := by
  intro w w₁ _ x a t done _
  refine ⟨trivial, fun e raised => ?_⟩
  obtain ⟨v, answered⟩ := total x w₁ a t done
  cases answered.symm.trans raised

/-- The errors that saving an account does not raise. -/
structure NotSaving (bad : Error → Prop) : Prop where
  row : ∀ message, ¬ bad (.integrity message)
  role : ∀ message, ¬ bad (.roleNotFound message)

theorem never_save (unsaved : NotSaving bad) (copy : Account) :
    Never bad (accountStore (.save copy) : Service env Unit) := by
  intro w w₁ _ x a w₂ done _
  refine ⟨trivial, fun e raised => ?_⟩
  subst raised
  have saved : exec env (.accounts (.save copy)) x w₁ = some (.error e, w₂) := done
  rcases AccountOp.save_error (transact_error.mp (onDb_eq.mp saved).1).1 with rfl | rfl
  · exact unsaved.row _
  · exact unsaved.role _

end Never

/-! ## An attempt with the right password -/

theorem IsOverflow.notSaving : NotSaving IsOverflow := by
  constructor
  · rintro _ ⟨_, ⟨⟩⟩
  · rintro _ ⟨_, ⟨⟩⟩

theorem find_never_overflows (attempt : Attempt) : Never IsOverflow (attempt.find env) := by
  cases attempt with
  | login email password caller =>
      refine Never.bind ((never_ask _).bind fun now => (never_ask _).bind fun verdict => ?_) fun _ => ?_
      · cases verdict with
        | none => exact never_pure ()
        | some retryAfter =>
            apply never_throw
            rintro ⟨_, ⟨⟩⟩
      · rw [findForLogin]
        split
        · exact never_pure none
        · refine never_store fun x w a t done => ?_
          cases done
          exact ⟨_, rfl⟩
  | confirm accountId password =>
      refine never_store fun x w a t done => ?_
      cases done
      exact ⟨_, rfl⟩

theorem acceptLogin_never_overflows (account : Account) (password : String) (now : Instant) :
    Never IsOverflow (acceptLogin env account password now) := by
  rw [acceptLogin, upgradeHash]
  refine Never.bind ?_ fun copy => ?_
  · split
    · exact (never_ask _).bind fun salt => never_pure _
    · exact never_pure _
  · exact (never_save IsOverflow.notSaving copy).bind fun _ => never_pure copy

/-- The step leaves the records of attempts alone. -/
def Op.unrecorded : Op → Prop
  | .record _ _ _ _ _ | .reset _ _ | .purgeAttempts _ => False
  | _ => True

theorem exec_unrecorded {o : Op} (apart : o.unrecorded) {x : Input} {w w' : World} {a : o.Ans}
    (done : exec env o x w = some (a, w')) : w'.attempts = w.attempts := by
  cases o with
  | record _ _ _ _ _ | reset _ _ | purgeAttempts _ => exact apart.elim
  | acquire key =>
      simp only [exec] at done
      split at done <;> cases done
      rfl
  | _ => cases done; rfl

theorem openSession_unrecorded (account : Account) (now : Instant) :
    (openSession env account now).Uses Op.unrecorded := by
  refine Prog.Uses.bind (preferencesFor_uses trivial) fun prefs => ?_
  refine Prog.Uses.bind (ask_uses trivial) fun token => ?_
  refine Prog.Uses.bind (ask_uses trivial) fun hex => ?_
  refine Prog.Uses.bind (ofExcept_uses _) fun expiresAt => ?_
  refine Prog.Uses.bind (ofExcept_uses _) fun absoluteExpiresAt => ?_
  exact Prog.Uses.bind (sessionStore_uses trivial) fun _ => trivial

theorem welcome_unrecorded (account : Account) (password caller : String) (now : Instant)
    (w : World) :
    (welcome env account password caller now).Sat (machine env).any Eq (machine env).any
      (fun r w => (∃ e, r = .error e ∧ IsOverflow e) →
        w.attempts.find? (scopeLogin, caller) = none) w := by
  refine Prog.Sat.bind (acceptLogin_never_overflows account password now w)
    (fun copy t _ => ?_) fun e t never ⟨e', same, overflow⟩ => ?_
  · rintro _ rfl x a u done -
    cases done
    refine ⟨trivial, ?_⟩
    change (openSession env copy now).Sat _ _ _ _ _
    refine Prog.Sat.of_uses (P := fun w : World => w.attempts.find? (scopeLogin, caller) = none)
      (openSession_unrecorded copy now) ?_ ?_ ?_ ?_
    · rintro _ _ rfl kept
      exact kept
    · intro o apart s x a t kept done _
      exact ⟨trivial, by rw [exec_unrecorded apart done]; exact kept⟩
    · exact fun _ _ kept _ => kept
    · simp only [Attempts.reset, Table.find?_deleteWhere, Option.filter_eq_none_iff]
      intro row found
      obtain ⟨-, keyed⟩ := Table.find?_eq_some.mp found
      simp [keyed]
  · cases same
    exact absurd overflow (never e rfl)

@[simp] theorem Attempt.password_sending (attempt : Attempt) (password : String) :
    (attempt.sending password).password = password := by
  cases attempt <;> rfl

@[simp] theorem Attempt.recorded_sending (attempt : Attempt) (password : String) {w : World} :
    (attempt.sending password).recorded w ↔ attempt.recorded w := by
  cases attempt <;> rfl

theorem Attempt.lookup_sending (attempt : Attempt) (password : String) {db : Db} :
    (attempt.sending password).lookup env db = attempt.lookup env db := by
  cases attempt <;> rfl

theorem Attempt.right_unrecorded {attempt : Attempt} {w w' : World} {r : Except Error Answer}
    {account : Account} (looked : attempt.lookup env w.db = some account)
    (right : env.hasher.verify account.passwordHash attempt.password = true)
    (exec : Exec (attempt.call.prog env) w r w') (raised : ∃ e, r = .error e ∧ IsOverflow e) :
    ¬ attempt.recorded w' := by
  obtain ⟨e, rfl, overflow⟩ := raised
  rw [Attempt.prog_eq] at exec
  rcases exec.bind_inv with ⟨e', failed, same⟩ | ⟨found, t, first, rest⟩
  · cases same
    exact absurd overflow (failed.sat (find_never_overflows attempt w) e rfl)
  · rw [(Attempt.find_exec first).2.2 found rfl, looked] at rest
    obtain ⟨x, now, t₁, showed, rest⟩ := rest.call_inv
    have rest : Exec (refuseIf (notAuthenticable account now) (.authentication badCredentials) >>=
        fun _ => if env.hasher.verify account.passwordHash attempt.password
          then attempt.accept env account now else rejectPassword env account now) t₁ _ w' := rest
    rw [refuseIf_bind, right] at rest
    split at rest
    · obtain ⟨same, -⟩ := rest.done_inv
      cases same
      obtain ⟨_, impossible⟩ := overflow
      cases impossible
    · cases attempt with
      | login email password caller =>
          rcases rest.bind_inv with ⟨e', failed, same⟩ | ⟨result, u, passed, final⟩
          · cases same
            have gone := failed.sat (welcome_unrecorded account password caller now t₁)
              ⟨e, rfl, overflow⟩
            rw [recorded, gone]
            exact Bool.noConfusion
          · obtain ⟨impossible, -⟩ := final.done_inv
            cases impossible
      | confirm accountId password =>
          intro _
          have never : Never IsOverflow (returning (clearFailures env account)
              fun _ => Answer.unit) := by
            refine Never.bind ?_ fun _ => never_pure _
            unfold clearFailures
            split
            · exact never_pure ()
            · exact never_save IsOverflow.notSaving _
          exact rest.sat (never t₁) e rfl overflow

/-! ## One change of password -/

theorem change_exec {target current newPassword : String} {keep : Option String} {w w' : World}
    {r : Except Error Answer} {row : AccountRow}
    (stored : w.db.accounts.find? accountId = some row)
    (wrong : (Guess.change target current newPassword keep).wrongFor env row)
    (exec : Exec ((Guess.change target current newPassword keep).call.prog env) w r w') :
    w'.db.accounts.find? accountId = w.db.accounts.find? accountId ∧
      (target = accountId → r = .error (.authentication badCredentials)) := by
  obtain ⟨x, a, t, read, rest⟩ := exec.call_inv
  have answer := (exec_get env target x w).symm.trans read
  cases found : readAccount w.db target with
  | none =>
      rw [found] at answer
      cases answer
      have rest : Exec (.done (.error (.authentication badCredentials)) : Service env Answer) w r w' :=
        rest
      obtain ⟨rfl, rfl⟩ := rest.done_inv
      exact ⟨rfl, fun _ => rfl⟩
  | some account =>
      rw [found] at answer
      cases answer
      obtain ⟨_, _, _, keyed, _⟩ := readAccount_some found
      have rest : Exec (returning (refuseIf (env.hasher.verify account.passwordHash current = false)
          (.authentication badCredentials) >>= fun _ => setPassword env account newPassword keep)
            fun _ => .unit) w r w' := rest
      by_cases mine : target = accountId
      · subst mine
        have same := readAccount_row found
        rw [stored] at same
        cases same
        rw [refuseIf_bind, if_pos (wrong keyed)] at rest
        have rest : Exec (.done (.error (.authentication badCredentials)) : Service env Answer)
          w r w' := rest
        obtain ⟨rfl, rfl⟩ := rest.done_inv
        exact ⟨rfl, fun _ => rfl⟩
      · refine ⟨?_, fun impossible => absurd impossible mine⟩
        have uses : (setPassword env account newPassword keep).Uses (Op.elsewhere accountId) :=
          setPassword_uses (fun o plain => plain.elsewhere)
            (fun copy same => by
              rw [← keyed, ← same.accountId] at mine
              exact mine) newPassword keep
        refine rest.preserves (returning_uses (Prog.Uses.bind (refuseIf_uses _ _) fun _ => uses))
          (fun t => t.db.accounts.find? accountId = w.db.accounts.find? accountId) ?_ rfl
        intro o elsewhere x s a s' done before
        rw [(exec_elsewhere done elsewhere).1, before]

/-! ## One change of password, when it is right -/

def IsRefusal (e : Error) : Prop := e = .authentication badCredentials

theorem IsRefusal.notSaving : NotSaving IsRefusal := ⟨fun _ => Error.noConfusion, fun _ => Error.noConfusion⟩

theorem setPassword_never_refuses (account : Account) (newPassword : String)
    (keep : Option String) : Never IsRefusal (setPassword env account newPassword keep) := by
  refine Never.bind (fun w e raised => ?_) fun _ => ?_
  · unfold checkPasswordPolicy at raised
    split at raised
    · cases raised
      exact Error.noConfusion
    · split at raised
      · cases raised
        exact Error.noConfusion
      · split at raised <;> cases raised
        exact Error.noConfusion
  refine (never_ask .now).bind fun now => ?_
  refine (never_ask .draw).bind fun salt => ?_
  refine (never_save IsRefusal.notSaving _).bind fun _ => ?_
  refine (never_store fun x w a t done => ?_).bind fun _ => ?_
  · cases done
    exact ⟨_, rfl⟩
  · refine (never_store fun x w a t done => ?_).bind fun _ => never_pure ()
    cases done
    exact ⟨_, rfl⟩

theorem change_right {target current newPassword : String} {keep : Option String} {w w' : World}
    {r : Except Error Answer} {row : AccountRow}
    (stored : w.db.accounts.find? target = some row)
    (right : env.hasher.verify row.passwordHash current = true)
    (exec : Exec ((Guess.change target current newPassword keep).call.prog env) w r w') :
    r ≠ .error (.authentication badCredentials) := by
  obtain ⟨x, a, t, read, rest⟩ := exec.call_inv
  have answer := (exec_get env target x w).symm.trans read
  obtain ⟨account, found⟩ : ∃ account, readAccount w.db target = some account :=
    ⟨accountOf w.db row, by rw [readAccount, stored]; rfl⟩
  have same := readAccount_row found
  rw [stored] at same
  cases same
  rw [found] at answer
  cases answer
  have rest : Exec (returning (refuseIf (env.hasher.verify account.passwordHash current = false)
      (.authentication badCredentials) >>= fun _ => setPassword env account newPassword keep)
        fun _ => .unit) w r w' := rest
  rw [refuseIf_bind, if_neg (by simp [right])] at rest
  have never : Never IsRefusal (returning (setPassword env account newPassword keep)
      fun _ => Answer.unit) :=
    (setPassword_never_refuses account newPassword keep).bind fun _ => never_pure _
  exact fun refused => rest.sat (never w) _ refused rfl

end Keyring

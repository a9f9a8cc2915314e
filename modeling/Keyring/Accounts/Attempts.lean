import Keyring.Accounts.Stored

/-!
# Attempts at a password

`login` and `confirm_password` find an account and then judge the password
behind the same guard.  What an attempt does before it has found the account
does not depend on the password, and nothing does once the guard has refused.
-/

set_option autoImplicit false

namespace Keyring

open Interleave

variable {env : Env}

/-- The account that a reading step has answered. -/
def Op.found : (o : Op) → o.Ans → Option Account
  | .accounts (.get _), .ok found => found
  | .accounts (.getByEmail _), .ok found => found
  | _, _ => none

/-- The instant that a reading of the clock has shown. -/
def Op.shown : (o : Op) → o.Ans → Option Instant
  | .now, t => some t
  | _, _ => none

theorem Op.limits.found {o : Op} (limits : o.limits) (a : o.Ans) : o.found a = none := by
  cases o with
  | accounts _ => exact limits.elim
  | _ => rfl

theorem Op.limits.shown {o : Op} (limits : o.limits) (a : o.Ans) : o.shown a = none := by
  cases o with
  | now => exact limits.elim
  | _ => rfl

theorem Op.found_shown {o : Op} {a : o.Ans} {account : Account} (found : o.found a = some account) :
    o.shown a = none := by
  cases o with
  | now => cases found
  | _ => rfl

/-- The first account that was found, and the first instant that was shown. -/
def foundIn (es : List (Event (machine env))) : Option Account :=
  es.findSome? fun e => Op.found e.op e.ans

def shownIn (es : List (Event (machine env))) : Option Instant :=
  es.findSome? fun e => Op.shown e.op e.ans

theorem foundIn_limits {limits es : List (Event (machine env))}
    (quiet : ∀ e ∈ limits, e.op.limits) : foundIn (limits ++ es) = foundIn es := by
  rw [foundIn, List.findSome?_append, List.findSome?_eq_none_iff.mpr fun e member =>
    (quiet e member).found e.ans]
  rfl

theorem foundIn_quiet {limits : List (Event (machine env))} (quiet : ∀ e ∈ limits, e.op.limits) :
    foundIn limits = none := by
  rw [← List.append_nil limits, foundIn_limits quiet]
  rfl

theorem shownIn_limits {limits es : List (Event (machine env))}
    (quiet : ∀ e ∈ limits, e.op.limits) : shownIn (limits ++ es) = shownIn es := by
  rw [shownIn, List.findSome?_append, List.findSome?_eq_none_iff.mpr fun e member =>
    (quiet e member).shown e.ans]
  rfl

theorem exec_found {o : Op} {x : Input} {w w' : World} {a : o.Ans} {account : Account}
    (done : exec env o x w = some (a, w')) (found : o.found a = some account) :
    readAccount w.db account.accountId = some account ∧ w'.db = w.db := by
  unfold Op.found at found
  split at found
  · rcases onDb_cases done with ⟨v, same, committed⟩ | ⟨⟨e, impossible⟩, -⟩
    · cases same
      obtain ⟨read, kept⟩ := AccountOp.get_ok committed
      rw [found] at read
      obtain ⟨_, _, _, keyed, _⟩ := readAccount_some read.symm
      exact ⟨by rw [keyed]; exact read.symm, kept⟩
    · cases impossible
  · rcases onDb_cases done with ⟨v, same, committed⟩ | ⟨⟨e, impossible⟩, -⟩
    · cases same
      obtain ⟨read, kept⟩ := AccountOp.getByEmail_ok committed
      rw [found] at read
      exact ⟨(readAccountByEmail_some read.symm).1, kept⟩
    · cases impossible
  · cases found

/-- The end of the lock that one more failure brings is a `datetime`. -/
def LockFits (env : Env) (account : Account) (now : Instant) : Prop :=
  env.settings.lockoutThreshold ≤ account.failedAttempts + 1 →
    Representable (now + env.settings.lockoutSeconds)

namespace AccountService

theorem failed_of_fits {account : Account} {now : Instant} (fits : LockFits env account now) :
    failed env account now = .ok { account with
      failedAttempts := account.failedAttempts + 1
      lockedUntil :=
        if env.settings.lockoutThreshold ≤ account.failedAttempts + 1
        then some (now + env.settings.lockoutSeconds) else account.lockedUntil
      updatedAt := now } := withFailure_eq_ok.mpr ⟨fits, rfl⟩

theorem failed_error {account : Account} {now : Instant} {e : Error}
    (raised : failed env account now = .error e) :
    ¬ LockFits env account now ∧ ∃ message, e = .overflow message := by
  obtain ⟨reached, outside, overflow⟩ := withFailure_error raised
  exact ⟨fun fits => outside (fits reached), overflow⟩

variable (env)

/-- The guard that `login` and `confirm_password` share. -/
def guarded {α : Type} (account : Account) (password : String) (accept : Instant → Service env α) :
    Service env α := do
  let now ← clockNow
  refuseIf (notAuthenticable account now) (.authentication badCredentials)
  if env.hasher.verify account.passwordHash password then accept now
  else rejectPassword env account now

/-- `login` once the password is right. -/
def welcome (account : Account) (password caller : String) (now : Instant) :
    Service env LoginResult := do
  let account ← acceptLogin env account password now
  resetLimit scopeLogin caller
  openSession env account now

/-- `confirm_password` once the password is right. -/
def clearFailures (account : Account) : Service env Unit :=
  if account.failedAttempts = 0 then pure () else accountStore (.save account.withSuccess)

theorem returning_guarded {α : Type} (account : Account) (password : String)
    (accept : Instant → Service env α) (answer : α → Answer) :
    returning (guarded env account password accept) answer =
      guarded env account password fun now => returning (accept now) answer := by
  rw [returning, guarded, guarded, bind_assoc]
  congr 1
  funext now
  rw [refuseIf_bind, refuseIf_bind]
  split
  · rfl
  · split
    · rfl
    · rw [rejectPassword, rejectPassword, bind_assoc]
      cases failed env account now with
      | error e => rfl
      | ok copy =>
          simp only [Prog.ofExcept_eq, Prog.bind_ok, bind_assoc]
          rfl

variable {env}

theorem guarded_inv {α : Type} {account : Account} {password : String}
    {accept : Instant → Service env α} {es : List (Event (machine env))} {q : Service env α}
    (path : Path (guarded env account password accept) es q) :
    (es = [] ∧ q = guarded env account password accept) ∨
      ∃ i now s s' rest, es = ⟨i, .now, now, s, s'⟩ :: rest ∧
        ((notAuthenticable account now = true ∧ rest = [] ∧
            q = .done (.error (.authentication badCredentials))) ∨
          (notAuthenticable account now = false ∧
            Path (if env.hasher.verify account.passwordHash password then accept now
              else rejectPassword env account now) rest q)) := by
  rcases ask_bind_inv path with stopped | ⟨i, now, s, s', rest, rfl, tail⟩
  · exact Or.inl stopped
  · refine Or.inr ⟨i, now, s, s', rest, rfl, ?_⟩
    rcases refuseIf_bind_inv tail with refused | ⟨passed, tail⟩
    · exact Or.inl refused
    · exact Or.inr ⟨by simpa using passed, tail⟩

theorem guarded_refuses {α : Type} {account : Account} {password : String}
    {accept : Instant → Service env α} {i : Nat} {now : Instant} {s s' : World}
    (closed : notAuthenticable account now = true) :
    Path (guarded env account password accept) [⟨i, .now, now, s, s'⟩]
      (.done (.error (.authentication badCredentials))) := by
  refine Path.call ?_
  change Path (refuseIf _ _ >>= fun _ => _) [] _
  rw [refuseIf_bind, if_pos closed]
  exact .here _

theorem rejectPassword_inv {α : Type} {account : Account} {now : Instant}
    {es : List (Event (machine env))} {q : Service env α}
    (path : Path (rejectPassword env account now : Service env α) es q) :
    (es = [] ∧ q = rejectPassword env account now) ∨
      ∃ copy i r s s', failed env account now = .ok copy ∧
        es = [⟨i, .accounts (.save copy), r, s, s'⟩] ∧
        ((∃ e, r = .error e ∧ q = .done (.error e)) ∨
          (r = .ok () ∧ q = .done (.error (.authentication badCredentials)))) := by
  unfold rejectPassword at path ⊢
  cases recorded : failed env account now with
  | error e =>
      rw [recorded] at path
      exact Or.inl path.done_inv
  | ok copy =>
      rw [recorded] at path
      rcases accountStore_bind_inv path with stopped | ⟨i, r, s, s', rest, rfl, ended⟩
      · exact Or.inl stopped
      · refine Or.inr ⟨copy, i, r, s, s', rfl, ?_⟩
        rcases ended with ⟨e, raised, rfl, rfl⟩ | ⟨v, committed, tail⟩
        · exact ⟨rfl, Or.inl ⟨e, raised, rfl⟩⟩
        · obtain ⟨rfl, rfl⟩ := tail.done_inv
          exact ⟨rfl, Or.inr ⟨committed, rfl⟩⟩

end AccountService

/-- A request that presents a password. -/
inductive Attempt where
  | login (email password caller : String)
  | confirm (accountId password : String)

namespace Attempt

open AccountService

def call : Attempt → Call
  | login email password caller => .account (.login email password caller)
  | confirm accountId password => .account (.confirmPassword accountId password)

def password : Attempt → String
  | login _ password _ => password
  | confirm _ password => password

/-- The same request with another password. -/
def sending : Attempt → String → Attempt
  | login email _ caller, password => login email password caller
  | confirm accountId _, password => confirm accountId password

/-- What an attempt does until it has the account. -/
def find (env : Env) : Attempt → Service env (Option Account)
  | login email _ caller => do
      checkLimit scopeLogin caller env.settings.loginAttempts env.settings.loginWindowSeconds
      findForLogin env email
  | confirm accountId _ => accountStore (.get accountId)

/-- What it does once the password is right. -/
def accept (env : Env) : Attempt → Account → Instant → Service env Answer
  | login _ password caller, account, now => returning (welcome env account password caller now) .login
  | confirm _ _, account, _ => returning (clearFailures env account) fun _ => .unit

/-- What it does with the account it has found. -/
def judge (env : Env) (attempt : Attempt) : Option Account → Service env Answer
  | none => .done (.error (.authentication badCredentials))
  | some account => guarded env account attempt.password (attempt.accept env account)

theorem prog_eq (attempt : Attempt) :
    attempt.call.prog env = attempt.find env >>= attempt.judge env := by
  cases attempt with
  | login email password caller =>
      change returning (AccountService.login env email password caller) Answer.login = _
      simp only [returning, AccountService.login, find, bind_assoc]
      congr 1
      funext _
      congr 1
      funext found
      cases found with
      | none => rfl
      | some account => exact returning_guarded env account password _ _
  | confirm accountId password =>
      change returning (confirmPassword env accountId password) (fun _ => Answer.unit) = _
      simp only [returning, confirmPassword, find, bind_assoc]
      congr 1
      funext found
      cases found with
      | none => rfl
      | some account => exact returning_guarded env account password _ _

@[simp] theorem find_sending (attempt : Attempt) (password : String) :
    (attempt.sending password).find env = attempt.find env := by
  cases attempt <;> rfl

/-! ## Finding the account -/

/-- The account that this request looks for. -/
def lookup (env : Env) : Attempt → Db → Option Account
  | login email _ _, db =>
      match normalizeEmail env.text email with
      | .ok address => readAccountByEmail db address
      | .error _ => none
  | confirm accountId _, db => readAccount db accountId

theorem lookup_some {attempt : Attempt} {db : Db} {account : Account}
    (found : attempt.lookup env db = some account) :
    readAccount db account.accountId = some account := by
  cases attempt with
  | login email password caller =>
      simp only [lookup] at found
      split at found
      · exact (readAccountByEmail_some found).1
      · cases found
  | confirm accountId password =>
      obtain ⟨_, _, _, keyed, _⟩ := readAccount_some found
      exact keyed.symm ▸ found

/-- A step that an attempt takes before it has the account. -/
def finding : Op → Prop
  | .accounts (.get _) | .accounts (.getByEmail _) | .monotonic | .record _ _ _ _ _ => True
  | _ => False

theorem finding_of_limits {o : Op} (limits : o.limits) : finding o := by
  cases o with
  | monotonic => trivial
  | record _ _ _ _ _ => trivial
  | _ => exact limits.elim

theorem finding_plain {o : Op} (finding : finding o) : o.plain := by
  cases o with
  | accounts o => cases o <;> first | exact finding.elim | trivial
  | roles _ => exact finding.elim
  | _ => trivial

/-- Under any interference, what an attempt has found is what it looks for, as it
was stored when it was read. -/
theorem find_sat {E G : (machine env).Effect} {R K : World → World → Prop} (refl : ∀ s, K s s)
    (trans : ∀ s t u, K s t → K t u → K s u) (rely : ∀ s t, R s t → K s t)
    (each : ∀ o, finding o → ∀ s x a t, exec env o x s = some (a, t) → E o a s t →
      G o a s t ∧ K s t) (attempt : Attempt) (s : World) :
    (attempt.find env).Sat E R G (fun r t => K s t ∧ ∀ found, r = .ok found →
      found = attempt.lookup env t.db) s := by
  cases attempt with
  | login email password caller =>
      refine Prog.Sat.bind_uses (checkLimit_uses (fun _ => finding_of_limits) _ _ _ _) refl trans
        rely each (fun _ t here => ?_) fun e t here => ⟨here, fun _ impossible => nomatch impossible⟩
      rw [findForLogin]
      split
      · rename_i error normal
        refine ⟨here, fun found same => ?_⟩
        cases same
        rw [lookup, normal]
      · rename_i address normal
        intro t' later x a u done known
        have read : exec env (.accounts (.getByEmail address)) x t' = some (a, u) := done
        obtain ⟨guar, step⟩ := each (.accounts (.getByEmail address)) trivial t' x a u read known
        refine ⟨guar, trans _ _ _ (trans _ _ _ here (rely _ _ later)) step, ?_⟩
        rintro found rfl
        obtain ⟨v, same, committed⟩ | ⟨⟨e, impossible⟩, -⟩ := onDb_cases read
        · cases same
          obtain ⟨answer, kept⟩ := AccountOp.getByEmail_ok committed
          rw [lookup, normal, kept]
          exact answer
        · cases impossible
  | confirm accountId password => exact readAccount_sat trans rely accountId (each _ trivial) s

/-- The history of a search: no account yet, or one that its last step has found. -/
def Found (es : List (Event (machine env))) (q : Service env (Option Account)) : Prop :=
  (foundIn es = none ∧ ∀ account, q ≠ .done (.ok (some account))) ∨
    ∃ limits e account, es = limits ++ [e] ∧ (∀ e ∈ limits, e.op.limits) ∧
      Op.found e.op e.ans = some account ∧ q = .done (.ok (some account))

theorem found_of_reading {o : Op} {next : o.Ans → Service env (Option Account)}
    {limits es : List (Event (machine env))} {q : Service env (Option Account)}
    (quiet : ∀ e ∈ limits, e.op.limits) (path : Path (.call o next) es q)
    (answers : ∀ a, ∃ r, next a = .done r ∧
      ∀ account, r = .ok (some account) ↔ o.found a = some account) : Found (limits ++ es) q := by
  rcases path.call_inv with ⟨rfl, rfl⟩ | ⟨i, a, s, s', rest, rfl, tail⟩
  · exact Or.inl ⟨foundIn_limits quiet, fun _ impossible => nomatch impossible⟩
  · obtain ⟨r, ends, same⟩ := answers a
    rw [ends] at tail
    obtain ⟨rfl, rfl⟩ := tail.done_inv
    cases found : o.found a with
    | none =>
        refine Or.inl ⟨?_, fun account impossible => ?_⟩
        · rw [foundIn_limits quiet, foundIn, List.findSome?_singleton]
          exact found
        · cases impossible
          have some_found := (same account).mp rfl
          rw [found] at some_found
          cases some_found
    | some account =>
        exact Or.inr ⟨limits, _, account, rfl, quiet, found, by rw [(same account).mpr found]⟩

theorem find_inv {attempt : Attempt} {es : List (Event (machine env))}
    {q : Service env (Option Account)} (path : Path (attempt.find env) es q) : Found es q := by
  cases attempt with
  | login email password caller =>
      have quiet : ∀ {es} {p' : Service env Unit}, Path (checkLimit scopeLogin caller
          env.settings.loginAttempts env.settings.loginWindowSeconds) es p' →
          ∀ e ∈ es, e.op.limits := fun path =>
        (path.uses (checkLimit_uses (fun _ limits => limits) _ _ _ _)).1
      rcases path.bind_inv with ⟨p', inside, rfl⟩ | ⟨_, es₁, es₂, rfl, first, rest⟩
      · refine Or.inl ⟨foundIn_quiet (quiet inside), ?_⟩
        intro account impossible
        cases p' with
        | done r =>
            cases r with
            | ok _ =>
                simp only [Prog.bind_ok, findForLogin] at impossible
                split at impossible <;> cases impossible
            | error _ => cases impossible
        | call o next => cases impossible
      · rw [findForLogin] at rest
        split at rest
        · obtain ⟨rfl, rfl⟩ := rest.done_inv
          refine Or.inl ⟨foundIn_limits (quiet first), ?_⟩
          intro account impossible
          cases impossible
        · refine found_of_reading (quiet first) rest fun a => ⟨a, rfl, fun account => ?_⟩
          cases a <;> simp [Op.found]
  | confirm accountId password =>
      have none_before : ∀ e ∈ ([] : List (Event (machine env))), e.op.limits := by simp
      refine found_of_reading none_before path fun a => ⟨a, rfl, fun account => ?_⟩
      cases a <;> simp [Op.found]

/-! ## The whole attempt -/

theorem guarded_uses {allowed : Op → Prop} (base : ∀ o, o.plain → allowed o) {account : Account}
    (saves : ∀ copy : Account, copy.Copies account → allowed (.accounts (.save copy)))
    (attempt : Attempt) :
    (guarded env account attempt.password (attempt.accept env account)).Uses allowed := by
  cases attempt with
  | login email password caller =>
      change (guarded env account password fun now =>
        returning (welcome env account password caller now) Answer.login).Uses _
      rw [← returning_guarded]
      exact returning_uses (authenticate_uses base saves password caller)
  | confirm _ password =>
      change (guarded env account password fun _ =>
        returning (clearFailures env account) fun _ => Answer.unit).Uses _
      rw [← returning_guarded]
      exact returning_uses (confirm_uses base saves password)

theorem guarded_elsewhere {attempt : Attempt} {account : Account} {accountId : String}
    (other : account.accountId ≠ accountId) :
    (guarded env account attempt.password (attempt.accept env account)).Uses
      (Op.elsewhere accountId) := by
  apply guarded_uses (fun o plain => plain.elsewhere)
  intro copy same
  rw [← same.accountId] at other
  exact other

theorem inv {attempt : Attempt} {es : List (Event (machine env))} {q : Service env Answer}
    (path : Path (attempt.call.prog env) es q) :
    foundIn es = none ∨
      ∃ limits e account rest, es = limits ++ e :: rest ∧ (∀ e ∈ limits, e.op.limits) ∧
        Op.found e.op e.ans = some account ∧
        Path (guarded env account attempt.password (attempt.accept env account)) rest q := by
  rw [prog_eq] at path
  rcases path.bind_inv with ⟨p', inside, rfl⟩ | ⟨found, es₁, es₂, rfl, first, rest⟩
  · rcases find_inv inside with ⟨quiet, -⟩ | ⟨limits, e, account, rfl, quiet, found, rfl⟩
    · exact Or.inl quiet
    · exact Or.inr ⟨limits, e, account, [], rfl, quiet, found, .here _⟩
  · rcases find_inv first with ⟨quiet, never⟩ | ⟨limits, e, account, rfl, quiet, found, same⟩
    · cases found with
      | none =>
          obtain ⟨rfl, rfl⟩ := rest.done_inv
          exact Or.inl (by simpa using quiet)
      | some account => exact absurd rfl (never account)
    · cases same
      exact Or.inr ⟨limits, e, account, es₂, by simp, quiet, found, rest⟩

theorem foundIn_of_found {limits rest : List (Event (machine env))} {e : Event (machine env)}
    {account : Account} (quiet : ∀ e ∈ limits, e.op.limits)
    (found : Op.found e.op e.ans = some account) : foundIn (limits ++ e :: rest) = some account := by
  rw [foundIn_limits quiet, foundIn, List.findSome?_cons, found]

theorem shownIn_of_shown {limits rest : List (Event (machine env))} {e e' : Event (machine env)}
    {account : Account} {now : Instant} (quiet : ∀ e ∈ limits, e.op.limits)
    (found : Op.found e.op e.ans = some account) (shown : Op.shown e'.op e'.ans = some now) :
    shownIn (limits ++ e :: e' :: rest) = some now := by
  rw [shownIn_limits quiet, shownIn, List.findSome?_cons, Op.found_shown found,
    List.findSome?_cons, shown]

/-- An attempt that never met an open guard has had an answer in which its
password has no part. -/
theorem blind {attempt : Attempt} {es : List (Event (machine env))} {r : Except Error Answer}
    (path : Path (attempt.call.prog env) es (.done r))
    (refused : ∀ account now, foundIn es = some account → shownIn es = some now →
      notAuthenticable account now = true)
    (password : String) : Path ((attempt.sending password).call.prog env) es (.done r) := by
  rw [prog_eq] at path ⊢
  rw [find_sending]
  rcases path.bind_done with ⟨e, failed, rfl⟩ | ⟨found, es₁, es₂, rfl, first, rest⟩
  · exact failed.bind_error
  · refine first.bind_ok ?_
    rcases find_inv first with ⟨_, never⟩ | ⟨limits, e, account, rfl, quiet, reads, same⟩
    · cases found with
      | none => exact rest
      | some account => exact absurd rfl (never account)
    · cases same
      rcases guarded_inv rest with ⟨_, impossible⟩ | ⟨i, now, s, s', rest', rfl, outcome⟩
      · cases impossible
      · rw [List.append_assoc, List.singleton_append] at refused
        have closed := refused account now (foundIn_of_found quiet reads)
          (shownIn_of_shown quiet reads rfl)
        rcases outcome with ⟨_, rfl, ended⟩ | ⟨opened, _⟩
        · rw [ended]
          exact guarded_refuses closed
        · rw [closed] at opened
          cases opened

end Attempt

end Keyring

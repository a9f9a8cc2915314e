import Keyring.Accounts.SessionLifetime

/-!
# Where a session comes from

A session that is found under the hash of a string was opened by a login: one that had
read the session's account under the address that it was given, and shown that the
password was right, and that drew the string itself.
-/

set_option autoImplicit false

namespace Keyring

open Interleave Relational

variable {env : Env}

/-- The account is read by its address. -/
inductive FindsAccount (account : Account) (address : String) : Event (machine env) → Prop where
  | found {i : Nat} {s s' : World} : FindsAccount account address
      ⟨i, .accounts (.getByEmail address), .ok (some account), s, s'⟩

inductive DrawsToken (token : String) : Event (machine env) → Prop where
  | drawn {i : Nat} {s s' : World} : DrawsToken token ⟨i, .draw, token, s, s'⟩

/-- In these steps of a login its account was found active and its password right, and
its token was drawn. -/
inductive Session.Earned (session : Session) (email password : String)
    (es : List (Event (machine env))) : Prop where
  | login {account : Account} {address token : String}
      (named : normalizeEmail env.text email = .ok address)
      (found : ∃ e ∈ es, FindsAccount account address e)
      (active : account.status = .active)
      (verified : env.hasher.verify account.passwordHash password = true)
      (owner : session.accountId = account.accountId)
      (drawn : ∃ e ∈ es, DrawsToken token e)
      (hashed : session.tokenHash = env.hashToken token) : Session.Earned session email password es

/-! ## The login that opens it -/

namespace AccountService

theorem findForLogin_returned {email : String} {es : List (Event (machine env))} {account : Account}
    (path : Path (findForLogin env email) es (.done (.ok (some account)))) :
    ∃ address, normalizeEmail env.text email = .ok address ∧
      ∃ e ∈ es, FindsAccount account address e := by
  rw [findForLogin] at path
  cases normal : normalizeEmail env.text email with
  | error e =>
      rw [normal] at path
      obtain ⟨-, impossible⟩ := pure_returned path
      cases impossible
  | ok address =>
      rw [normal] at path
      obtain ⟨i, answered, s, s', rest, rfl, final⟩ := ask_bind_returned path
      cases answered with
      | error e => exact (throw_returned final).elim
      | ok found =>
          obtain ⟨-, same⟩ := pure_returned final
          cases same
          exact ⟨address, rfl, _, List.mem_cons_self .., .found⟩

theorem acceptLogin_returned {account copy : Account} {password : String} {now : Instant}
    {es : List (Event (machine env))}
    (path : Path (acceptLogin env account password now) es (.done (.ok copy))) :
    copy.accountId = account.accountId := by
  have saved : ∀ {upgraded : Account} {es : List (Event (machine env))},
      Path (accountStore (.save upgraded) >>= fun _ => (pure upgraded : Service env Account)) es
        (.done (.ok copy)) → copy = upgraded := by
    intro upgraded es path
    obtain ⟨i, a, v, s, s', rest, rfl, answered, final⟩ := store_bind_returned path
    exact (pure_returned final).2.symm
  rw [acceptLogin, upgradeHash] at path
  split at path
  · rw [bind_assoc] at path
    obtain ⟨i, salt, s, s', rest, rfl, saving⟩ := ask_bind_returned path
    rw [saved saving]
    rfl
  · rw [saved path]
    rfl

theorem openSession_earns {account : Account} {now : Instant} {es : List (Event (machine env))}
    {session : Session} {cap : Nat} {next : Except Error Nat → Service env LoginResult}
    (path : Path (openSession env account now) es
      (.call (.sessions (.addWithinCap session cap)) next)) :
    session.accountId = account.accountId ∧
      ∃ token, (∃ e ∈ es, DrawsToken token e) ∧ session.tokenHash = env.hashToken token := by
  have asking : (preferencesFor account.accountId : Service env Preferences).Uses
      fun (o : Op) => ¬ o.opens := preferencesFor_uses id
  obtain ⟨preferences, es₁, es₂, rfl, -, drawing⟩ := path.bind_beyond asking fun n => n trivial
  obtain ⟨_, token, _, _, _, rfl, naming⟩ := ask_bind_calling drawing (by simp)
  obtain ⟨_, hex, _, _, _, rfl, ending⟩ := ask_bind_calling naming (by simp)
  obtain ⟨expiresAt, -, capping⟩ := ofExcept_bind_calling ending
  obtain ⟨absoluteExpiresAt, -, storing⟩ := ofExcept_bind_calling capping
  rcases storing.call_inv with ⟨-, here⟩ | ⟨_, _, _, _, _, rfl, stored⟩
  · cases here
    exact ⟨rfl, token, ⟨_, List.mem_append_right _ (List.mem_cons_self ..), .drawn⟩, rfl⟩
  · rcases done_bind_inv stored with ⟨_, -, -, impossible⟩ | ⟨_, -, final⟩
    · cases impossible
    · exact (done_calling final).elim

theorem login_earns {email password caller : String} {es : List (Event (machine env))}
    {session : Session} {cap : Nat} {next : Except Error Nat → Service env LoginResult}
    (path : Path (login env email password caller) es
      (.call (.sessions (.addWithinCap session cap)) next)) :
    session.Earned email password es := by
  have modest : ∀ o : Op, o.modest → ¬ o.opens := fun _ modest => modest.quiet.opens_not
  have other : ¬ ¬ Op.opens (.sessions (.addWithinCap session cap)) := fun n => n trivial
  have limits : (checkLimit scopeLogin caller env.settings.loginAttempts
      env.settings.loginWindowSeconds : Service env Unit).Uses fun (o : Op) => ¬ o.opens :=
    checkLimit_uses (fun _ limits => limits.quiet.opens_not) _ _ _ _
  obtain ⟨_, es₁, es₂, rfl, -, finding⟩ := path.bind_beyond limits other
  obtain ⟨found, es₃, es₄, rfl, looked, path₁⟩ :=
    finding.bind_beyond (findForLogin_writes modest email) other
  cases found with
  | none => exact (done_calling path₁).elim
  | some account =>
      obtain ⟨address, named, e, finds, found⟩ := findForLogin_returned looked
      obtain ⟨_, now, _, _, rest, rfl, guarding⟩ := ask_bind_calling path₁ (by simp)
      obtain ⟨free, path₂⟩ := refuseIf_bind_calling guarding
      split at path₂
      · rename_i verified
        obtain ⟨copy, es₅, es₆, rfl, accepted, path₃⟩ :=
          path₂.bind_beyond (acceptLogin_writes modest (fun _ _ => id) password now) other
        obtain ⟨_, _, _, _, es₇, rfl, opening⟩ := ask_bind_calling path₃ (by simp)
        obtain ⟨owner, token, ⟨e', draws, drawn⟩, hashed⟩ := openSession_earns opening
        simp only [notAuthenticable, Bool.or_eq_true, decide_eq_true_eq, not_or, not_not] at free
        exact .login named ⟨e, by simp [finds], found⟩ free.2 verified
          (owner.trans (acceptLogin_returned accepted)) ⟨e', by simp [draws], drawn⟩ hashed
      · have rejecting : (rejectPassword env account now : Service env LoginResult).Uses
            fun (o : Op) => ¬ o.opens := rejectPassword_uses (fun _ _ => id) now
        exact (path₂.never rejecting other).elim

end AccountService

/-! ## In a run -/

section Runs

variable {w : World} {calls : List Call} {d : Config (machine env) Error Answer}
  {early late : List (Event (machine env))} {e : Event (machine env)}

theorem earned_of_run (run : Run (start env w calls) (early ++ e :: late) d) {session : Session}
    {cap : Nat} (opens : e.op = .sessions (.addWithinCap session cap)) :
    ∃ email password caller, calls[e.thread]? = some (.account (.login email password caller)) ∧
      session.Earned email password (ofThread e.thread early) := by
  obtain ⟨c, found, wrote⟩ := writes_of_run run (e := e) (by simp)
  have here : (start env w calls).pool[e.thread]? = some (c.prog env) := by simp [start, found]
  obtain ⟨next, path⟩ := run.at_event here
  obtain ⟨i, o, a, s, s'⟩ := e
  cases opens
  rcases wrote with idle | wrote
  · exact absurd idle id
  obtain ⟨email, password, caller, rfl⟩ := Call.writes_opens wrote
  obtain ⟨next', inside⟩ := returning_calling path
  exact ⟨email, password, caller, found, AccountService.login_earns inside⟩

/-- The session has the token and the owner of one that a step in `tr` has opened. -/
def Session.OpenedIn (session : Session) (tr : List (Event (machine env))) : Prop :=
  ∃ e ∈ tr, ∃ first cap, e.op = .sessions (.addWithinCap first cap) ∧
    first.tokenHash = session.tokenHash ∧ first.accountId = session.accountId

theorem sessions_opened {tr : List (Event (machine env))} (run : Run (start env w calls) tr d) :
    ∀ row ∈ d.state.db.sessions, (∃ first ∈ w.db.sessions, first.tokenHash = row.tokenHash ∧
      first.accountId = row.accountId) ∨ row.OpenedIn tr := by
  induction run with
  | refl => exact fun row stored => Or.inl ⟨row, stored, rfl, rfl⟩
  | @snoc tr m d e init last ih =>
      intro row stored
      have capped : e.op.capped env.settings := capped_of_run (init.snoc last) (by simp)
      obtain ⟨x, done⟩ := last.exec_eq
      rw [← last.after_eq] at stored
      have stems := exec_sessions done capped stored
      rw [last.before_eq] at stems
      generalize operation : e.op = o at stems
      have kept : ∀ old ∈ m.state.db.sessions, old.tokenHash = row.tokenHash →
          old.accountId = row.accountId → (∃ first ∈ w.db.sessions,
            first.tokenHash = row.tokenHash ∧ first.accountId = row.accountId) ∨
              row.OpenedIn (tr ++ [e]) := by
        intro old inside token owner
        rcases ih old inside with ⟨first, there, same, same'⟩ | ⟨e', earlier, first, cap, opens, same, same'⟩
        · exact Or.inl ⟨first, there, same.trans token, same'.trans owner⟩
        · exact Or.inr ⟨e', by simp [earlier], first, cap, opens, same.trans token, same'.trans owner⟩
      cases stems with
      | kept inside => exact kept row inside rfl rfl
      | @saved copy old inside same written =>
          rw [written] at kept ⊢
          exact kept old inside rfl rfl
      | @opened cap unused => exact Or.inr ⟨e, by simp, row, cap, operation, rfl, rfl⟩

theorem session_earned (run : Run (start env w calls) (early ++ e :: late) d) {session : Session}
    {now : Instant} (looks : LooksUp session now e) :
    (∃ first ∈ w.db.sessions, first.tokenHash = session.tokenHash ∧
      first.accountId = session.accountId) ∨
    ∃ before opening since email password caller first cap, early = before ++ opening :: since ∧
      calls[opening.thread]? = some (.account (.login email password caller)) ∧
      opening.op = .sessions (.addWithinCap first cap) ∧ first.tokenHash = session.tokenHash ∧
      first.accountId = session.accountId ∧
      first.Earned email password (ofThread opening.thread before) := by
  obtain ⟨m, init, here⟩ := run.before_of_split
  obtain ⟨x, done⟩ := run.exec_eq e (by simp)
  have stored := (looks.stored done).1
  rw [← here] at stored
  rcases sessions_opened init session stored with old | ⟨opening, inside, first, cap, opens, same⟩
  · exact Or.inl old
  · obtain ⟨before, since, rfl⟩ := List.append_of_mem inside
    obtain ⟨email, password, caller, found, earned⟩ := earned_of_run init opens
    exact Or.inr ⟨before, opening, since, email, password, caller, first, cap, rfl, found, opens,
      same.1, same.2, earned⟩

end Runs

end Keyring

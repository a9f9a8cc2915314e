import Keyring.Accounts.Attempts
import Keyring.Accounts.SessionSteps
import Keyring.Accounts.WriteBack
import Keyring.Interleave.Raises
import Keyring.Scenario

/-!
# What authentication raises

Three requests take a password from outside: a login, the confirmation inside a
session, and the redemption of a reset.  They write rows from copies read
earlier, and a write whose references have gone raises an error that no request
documents.  So does a sum that no `datetime` can hold.
-/

set_option autoImplicit false

namespace Keyring

open Interleave Relational AccountService

variable {env : Env}

inductive Authentication where
  | login (email password caller : String)
  | confirmPassword (accountId password : String)
  | redeemPasswordReset (token newPassword caller : String)

namespace Authentication

def call : Authentication → Call
  | login email password caller => .account (.login email password caller)
  | confirmPassword accountId password => .account (.confirmPassword accountId password)
  | redeemPasswordReset token newPassword caller =>
      .account (.redeemPasswordReset token newPassword caller)

/-- The `Raises:` section of each. -/
def Raises : Authentication → Error → Prop
  | login _ _ _, .rateLimited _ _ | login _ _ _, .authentication _
  | login _ _ _, .preferencesUnavailable _ => True
  | confirmPassword _ _, .authentication _ => True
  | redeemPasswordReset _ _ _, .rateLimited _ _ | redeemPasswordReset _ _ _, .invalidGrant _
  | redeemPasswordReset _ _ _, .invalidPassword _ => True
  | _, _ => False

end Authentication

/-! ## What a write refers to -/

/-- A copy with roles finds its account row and each of its roles, and no other row
bears its address. -/
structure Savable (db : Db) (copy : Account) : Prop where
  account : copy.roles ≠ [] → (db.accounts.find? copy.accountId).isSome
  roles : ∀ role ∈ copy.roles, (db.roles.find? role).isSome
  address : (db.accounts.find? copy.accountId).isSome → ∀ row ∈ db.accounts,
    row.email = copy.email → row.accountId = copy.accountId

/-- A new session finds its account, and neither its token nor its id is taken. -/
structure Openable (db : Db) (session : Session) : Prop where
  account : (db.accounts.find? session.accountId).isSome
  token : ∀ row ∈ db.sessions, row.tokenHash ≠ session.tokenHash
  fresh : ∀ row ∈ db.sessions, row.sessionId ≠ session.sessionId

/-- The event, where it saves an account or opens a session, finds what it refers to. -/
def FindsReferences (e : Event (machine env)) : Prop :=
  match e.op with
  | .accounts (.save copy) => Savable e.before.db copy
  | .sessions (.addWithinCap session _) => Openable e.before.db session
  | _ => True

/-! ## What a request computes -/

/-- Both ends of the session that a login opens with the choices it reads are `datetime`s. -/
def SessionFits (now : Instant) (es : List (Event (machine env))) : Prop :=
  ∀ preferences : Preferences, (∃ e ∈ es, ReadsPreferences preferences e) →
    Representable (now + seconds preferences.sessionTtlSeconds) ∧
      Representable (now + seconds preferences.sessionAbsoluteTtlSeconds)

/-- What the guard lets an attempt compute. -/
def GuessFits (account : Account) (password : String) (now : Instant)
    (es : List (Event (machine env))) : Prop :=
  notAuthenticable account now = false →
    (env.hasher.verify account.passwordHash password = false → LockFits env account now) ∧
      SessionFits now es

/-- Every sum that the request computes from its own readings is a `datetime`. -/
def Authentication.SumsFit (es : List (Event (machine env))) : Authentication → Prop
  | login _ password _ | confirmPassword _ password =>
      ∀ account now, foundIn es = some account → shownIn es = some now →
        GuessFits account password now es
  | redeemPasswordReset _ _ _ => True

/-- The step reads choices. -/
def Op.chooses : Op → Prop
  | .preferences _ => True
  | _ => False

theorem Op.limits.chooses_not {o : Op} (limits : o.limits) : ¬ o.chooses := by
  cases o with
  | preferences accountId => exact limits.elim
  | _ => exact id

theorem Op.found_chooses_not {o : Op} {a : o.Ans} {account : Account}
    (found : o.found a = some account) : ¬ o.chooses := by
  cases o with
  | preferences accountId => cases found
  | _ => exact id

theorem ReadsPreferences.chooses {preferences : Preferences} {e : Event (machine env)}
    (reads : ReadsPreferences preferences e) : e.op.chooses := by
  cases reads
  trivial

theorem sessionFits_quiet {now : Instant} {es : List (Event (machine env))}
    (quiet : ∀ e ∈ es, ¬ e.op.chooses) : SessionFits now es := by
  rintro preferences ⟨e, member, reads⟩
  exact absurd reads.chooses (quiet e member)

theorem sessionFits_append {now : Instant} {es later : List (Event (machine env))} :
    SessionFits now (es ++ later) ↔ SessionFits now es ∧ SessionFits now later := by
  simp only [SessionFits, List.mem_append, or_and_right, exists_or]
  constructor
  · exact fun fits => ⟨fun p read => fits p (Or.inl read), fun p read => fits p (Or.inr read)⟩
  · rintro ⟨early, late⟩ preferences (read | read)
    · exact early preferences read
    · exact late preferences read

/-! ## The two writes -/

section Writes

variable {db : Db}

theorem updateAccount_run (copy : Account) :
    (updateAccount copy).run db = .ok ((), AccountOp.saved db copy) ↔
      ((db.accounts.find? copy.accountId).isSome → ∀ row ∈ db.accounts,
        row.email = copy.email → row.accountId = copy.accountId) := by
  simp only [updateAccount, StateT.run]
  by_cases present : (db.accounts.find? copy.accountId).isSome
  · by_cases clash : db.accounts.rows.any fun row =>
        row.email = copy.email && row.accountId ≠ copy.accountId
    · rw [if_pos (by rw [present, clash]; rfl)]
      apply iff_of_false
      · intro impossible
        cases impossible
      · intro alone
        obtain ⟨row, stored, hit⟩ := List.any_eq_true.mp clash
        simp only [Bool.and_eq_true, decide_eq_true_eq] at hit
        exact hit.2 (alone present row stored hit.1)
    · rw [if_neg (by rw [present, Bool.true_and]; exact clash)]
      apply iff_of_true rfl
      intro _ row stored email
      by_contra other
      apply clash
      exact List.any_eq_true.mpr ⟨row, stored, by simp [email, other]⟩
  · rw [if_neg (by simp [present])]
    exact iff_of_true rfl fun here => absurd here present

theorem AccountOp.save_run_iff {text : Text} {copy : Account} :
    (∃ db', ((save copy).run text).run db = .ok ((), db')) ↔ Savable db copy := by
  constructor
  · rintro ⟨db', committed⟩
    have written := save_ok committed
    have address : (updateAccount copy).run db = .ok ((), saved db copy) := by
      cases updated : (updateAccount copy).run db with
      | error e =>
          simp only [run, StateT.run_bind, updated] at committed
          cases committed
      | ok r =>
          obtain ⟨u, mid⟩ := r
          rw [show mid = saved db copy from updateAccount_ok updated]
    refine ⟨fun some => ?_, written.known, (updateAccount_run copy).mp address⟩
    have present := written.present some
    rwa [saved, Table.find?_updateWhere, Option.isSome_map] at present
  · intro savable
    have updated := (updateAccount_run copy).mpr savable.address
    have written : ∃ db', (writeRoles copy.accountId copy.roles).run (saved db copy) =
        .ok ((), db') := by
      by_cases none : copy.roles = []
      · rw [none]
        exact ⟨_, rfl⟩
      · apply writeRoles_total
        · rw [saved, Table.find?_updateWhere, Option.isSome_map]
          exact savable.account none
        · exact savable.roles
    obtain ⟨db', written⟩ := written
    refine ⟨db', ?_⟩
    simp only [run, StateT.run_bind, updated]
    exact written

theorem insertSession_run_iff {session : Session} :
    (∃ db', (insertSession session).run db = .ok ((), db')) ↔ Openable db session := by
  constructor
  · rintro ⟨db', inserted⟩
    obtain ⟨present, table, stored, -⟩ := insertSession_ok inserted
    obtain ⟨fresh, -⟩ := Table.insert?_eq_some.mp stored
    refine ⟨present, fun row member taken => ?_, fun row member same => ?_⟩
    · simp only [insertSession, StateT.run] at inserted
      rw [if_pos (List.any_eq_true.mpr ⟨row, member, by simpa using taken⟩)] at inserted
      cases inserted
    · exact fresh (List.mem_map.mpr ⟨row, member, same⟩)
  · intro openable
    have untaken : ¬ db.sessions.rows.any (·.tokenHash = session.tokenHash) = true := by
      intro taken
      obtain ⟨row, member, same⟩ := List.any_eq_true.mp taken
      exact openable.token row member (by simpa using same)
    have fresh : session.sessionId ∉ db.sessions.rows.map Session.sessionId := by
      intro stored
      obtain ⟨row, member, same⟩ := List.mem_map.mp stored
      exact openable.fresh row member same
    have stored : insertRow db.sessions session "sessions.session_id" =
        .ok (db.sessions.append session fresh) :=
      insertRow_ok.mpr (Table.insert?_eq_some.mpr ⟨fresh, rfl⟩)
    have present : ¬ (db.accounts.find? session.accountId).isNone = true := by
      simpa [Option.isSome_iff_ne_none] using openable.account
    refine ⟨{ db with sessions := db.sessions.append session fresh }, ?_⟩
    simp only [insertSession, StateT.run]
    rw [if_neg untaken, stored]
    exact if_neg present

theorem SessionOp.addWithinCap_run_iff {session : Session} {cap : Nat} :
    (∃ dropped db', (addWithinCap session cap).run.run db = .ok (dropped, db')) ↔
      Openable db session := by
  rw [← insertSession_run_iff]
  constructor
  · rintro ⟨dropped, db', committed⟩
    obtain ⟨u, mid, inserted, -⟩ := addWithinCap_committed committed
    exact ⟨mid, inserted⟩
  · rintro ⟨mid, inserted⟩
    cases committed : (addWithinCap session cap).run.run db with
    | ok r => exact ⟨r.1, r.2, rfl⟩
    | error e =>
        simp only [run, StateT.run_bind, inserted] at committed
        cases committed

theorem insertRow_error {ρ κ : Type} {key : ρ → κ} [DecidableEq κ] {table : Table key} {row : ρ}
    {column : String} {e : Error} (refused : insertRow table row column = .error e) :
    e = uniqueFailed column := by
  rw [insertRow] at refused
  split at refused <;> cases refused
  rfl

theorem SessionOp.addWithinCap_error {session : Session} {cap : Nat} {e : Error}
    (raised : (addWithinCap session cap).run.run db = .error e) : ∃ message, e = .integrity message := by
  simp only [run, StateT.run_bind] at raised
  cases inserted : (insertSession session).run db with
  | ok r =>
      rw [inserted] at raised
      cases raised
  | error e' =>
      rw [inserted] at raised
      cases raised
      simp only [insertSession, StateT.run] at inserted
      split at inserted
      · cases inserted
        exact ⟨_, rfl⟩
      · split at inserted
        · rename_i stored
          cases inserted
          exact ⟨_, insertRow_error stored⟩
        · split at inserted <;> cases inserted
          exact ⟨_, rfl⟩

end Writes

/-! ## One step -/

/-- What a write that does not find its references raises is not documented. -/
structure HidesReferences (documented : Error → Prop) : Prop where
  role : ∀ message, ¬ documented (.roleNotFound message)
  row : ∀ message, ¬ documented (.integrity message)

theorem Authentication.hidesReferences (a : Authentication) : HidesReferences a.Raises := by
  cases a <;> exact ⟨fun _ => id, fun _ => id⟩

section Steps

variable {documented : Error → Prop} {α : Type}

/-- Every step but the two writes. -/
def Op.refersToNothing : Op → Prop
  | .accounts (.save _) | .sessions (.addWithinCap _ _) => False
  | _ => True

theorem findsReferences_of {i : Nat} {o : Op} {a : o.Ans} {s t : World}
    (nothing : o.refersToNothing) :
    FindsReferences (⟨i, o, a, s, t⟩ : Event (machine env)) := by
  cases o with
  | accounts o =>
      cases o with
      | save copy => exact False.elim nothing
      | _ => trivial
  | sessions o =>
      cases o with
      | addWithinCap session cap => exact False.elim nothing
      | _ => trivial
  | _ => trivial

theorem ask_blames {o : Op} (nothing : o.refersToNothing) :
    (ask o : Service env o.Ans).Blames FindsReferences documented := by
  apply Prog.Blames.call
  intro i x s a t _
  exact Or.inl ⟨findsReferences_of nothing, .pure a⟩

theorem store_blames {o : Op} {result : o.Ans → Except Error α} (nothing : o.refersToNothing)
    (total : ∀ x s a t, exec env o x s = some (a, t) → ∃ v, result a = .ok v) :
    (.call o fun a => .done (result a) : Service env α).Blames FindsReferences documented := by
  apply Prog.Blames.call
  intro i x s a t done
  obtain ⟨v, answered⟩ := total x s a t done
  rw [answered]
  exact Or.inl ⟨findsReferences_of nothing, .pure v⟩

theorem save_blames (hides : HidesReferences documented) (copy : Account) :
    (accountStore (.save copy) : Service env Unit).Blames FindsReferences documented := by
  apply Prog.Blames.call
  intro i x s a t done
  obtain ⟨ran, -⟩ := onDb_eq.mp done
  cases a with
  | ok u =>
      have savable := AccountOp.save_run_iff.mp ⟨_, transact_ok.mp ran⟩
      exact Or.inl ⟨savable, .pure u⟩
  | error e =>
      obtain ⟨raised, -⟩ := transact_error.mp ran
      refine Or.inr ⟨fun savable => ?_, e, rfl, ?_⟩
      · obtain ⟨db', committed⟩ := AccountOp.save_run_iff.mpr savable
        rw [raised] at committed
        cases committed
      · rcases AccountOp.save_error raised with rfl | rfl
        · exact hides.row _
        · exact hides.role _

theorem addWithinCap_blames (hides : HidesReferences documented) (session : Session) (cap : Nat) :
    (sessionStore (.addWithinCap session cap) : Service env Nat).Blames FindsReferences
      documented := by
  apply Prog.Blames.call
  intro i x s a t done
  obtain ⟨ran, -⟩ := onDb_eq.mp done
  cases a with
  | ok dropped =>
      have openable := SessionOp.addWithinCap_run_iff.mp ⟨_, _, transact_ok.mp ran⟩
      exact Or.inl ⟨openable, .pure dropped⟩
  | error e =>
      obtain ⟨raised, -⟩ := transact_error.mp ran
      refine Or.inr ⟨fun openable => ?_, e, rfl, ?_⟩
      · obtain ⟨dropped, db', committed⟩ := SessionOp.addWithinCap_run_iff.mpr openable
        rw [raised] at committed
        cases committed
      · obtain ⟨message, rfl⟩ := SessionOp.addWithinCap_error raised
        exact hides.row message

theorem refuseIf_blames {c : Prop} [Decidable c] {e : Error} (known : documented e) :
    (refuseIf c e : Service env Unit).Blames FindsReferences documented := by
  unfold refuseIf
  by_cases refused : c
  · rw [if_pos refused]
    exact .throw known
  · rw [if_neg refused]
    exact .pure ()

theorem checkLimit_blames {scope caller : String} {limit : Nat} {width : Instant}
    (known : ∀ message retryAfter, documented (.rateLimited message retryAfter)) :
    (checkLimit scope caller limit width : Service env Unit).Blames FindsReferences documented := by
  unfold checkLimit
  refine Prog.Blames.bind (ask_blames trivial) fun now => ?_
  refine Prog.Blames.bind (ask_blames trivial) fun verdict => ?_
  cases verdict with
  | none => exact .pure ()
  | some retryAfter => exact .throw (known _ retryAfter)

theorem readAccount_blames (accountId : String) :
    (accountStore (.get accountId) : Service env (Option Account)).Blames FindsReferences
      documented := by
  refine store_blames trivial ?_
  intro x s a t done
  cases done
  exact ⟨_, rfl⟩

end Steps

/-! ## The three requests -/

namespace AccountService

variable {documented : Error → Prop}

theorem findForLogin_blames (email : String) :
    (findForLogin env email).Blames FindsReferences documented := by
  unfold findForLogin
  split
  · exact .pure none
  · refine store_blames trivial ?_
    intro x s a t done
    cases done
    exact ⟨_, rfl⟩

theorem rejectPassword_blames {α : Type} {account : Account} {now : Instant}
    (hides : HidesReferences documented)
    (known : ∀ message, documented (.authentication message)) (fits : LockFits env account now) :
    (rejectPassword env account now : Service env α).Blames FindsReferences documented := by
  unfold rejectPassword
  rw [failed_of_fits fits]
  apply Prog.Blames.bind (save_blames hides _)
  intro _
  exact .throw (known _)

theorem rejectPassword_charges {α : Type} (hides : HidesReferences documented)
    (spare : ∀ message, ¬ documented (.overflow message))
    (known : ∀ message, documented (.authentication message)) (account : Account)
    (now : Instant) :
    (rejectPassword env account now : Service env α).Charges FindsReferences
      (fun _ => LockFits env account now) documented := by
  by_cases fits : LockFits env account now
  · exact (rejectPassword_blames hides known fits).charges fun _ _ _ => fits
  · unfold rejectPassword
    cases recorded : failed env account now with
    | ok copy => exact absurd (withFailure_eq_ok.mp recorded).1 fits
    | error e =>
        obtain ⟨-, message, rfl⟩ := failed_error recorded
        exact .throw (spare message) fits

theorem acceptLogin_blames (hides : HidesReferences documented) (account : Account)
    (password : String) (now : Instant) :
    (acceptLogin env account password now).Blames FindsReferences documented := by
  unfold acceptLogin upgradeHash
  apply Prog.Blames.bind
  · split
    · refine Prog.Blames.bind (ask_blames trivial) fun salt => ?_
      exact .pure _
    · exact .pure _
  · intro copy
    apply Prog.Blames.bind (save_blames hides copy)
    intro _
    exact .pure copy

theorem ask_not_raised {o : Op} {es : List (Event (machine env))} {e : Error} :
    ¬ Path (ask o : Service env o.Ans) es (.done (.error e)) := by
  intro path
  obtain ⟨_, _, _, _, _, -, tail⟩ := path.call_done
  obtain ⟨-, impossible⟩ := tail.done_inv
  cases impossible

/-- The session of a login, once the choices are known. -/
def chosenSession (env : Env) (account : Account) (now : Instant) (prefs : Preferences) :
    Service env LoginResult := do
  let token ← draw
  let hex ← draw
  let expiresAt ← Prog.ofExcept (datetimeAdd now (seconds prefs.sessionTtlSeconds))
  let absoluteExpiresAt ←
    Prog.ofExcept (datetimeAdd now (seconds prefs.sessionAbsoluteTtlSeconds))
  let session : Session := {
    sessionId := sessionIdPrefix ++ hex
    accountId := account.accountId
    tokenHash := env.hashToken token
    createdAt := now
    lastUsedAt := now
    expiresAt := expiresAt
    absoluteExpiresAt := absoluteExpiresAt
    idleTtlSeconds := some prefs.sessionTtlSeconds }
  let _ ← sessionStore (.addWithinCap session prefs.maxSessions)
  pure ⟨session.sessionId, account.accountId, token, session.expiresAt⟩

theorem openSession_eq (account : Account) (now : Instant) :
    openSession env account now = preferencesFor account.accountId >>= chosenSession env account now :=
  rfl

theorem opening_uses {account : Account} {now : Instant} {preferences : Preferences} :
    (chosenSession env account now preferences).Uses fun o : Op => ¬ o.chooses := by
  refine Prog.Uses.bind (ask_uses id) fun token => ?_
  refine Prog.Uses.bind (ask_uses id) fun hex => ?_
  refine Prog.Uses.bind (ofExcept_uses _) fun expiresAt => ?_
  refine Prog.Uses.bind (ofExcept_uses _) fun absoluteExpiresAt => ?_
  exact Prog.Uses.bind (sessionStore_uses id) fun _ => trivial

theorem opening_charges (hides : HidesReferences documented)
    (spare : ∀ message, ¬ documented (.overflow message)) (account : Account) (now : Instant)
    (preferences : Preferences) :
    (chosenSession env account now preferences).Charges FindsReferences
      (fun _ => Representable (now + seconds preferences.sessionTtlSeconds) ∧
        Representable (now + seconds preferences.sessionAbsoluteTtlSeconds)) documented := by
  unfold chosenSession
  refine Prog.Blames.bind_charges (ask_blames trivial) (fun _ _ raised => ?_) fun token _ _ => ?_
  · exact (ask_not_raised raised).elim
  refine Prog.Blames.bind_charges (ask_blames trivial) (fun _ _ raised => ?_) fun hex _ _ => ?_
  · exact (ask_not_raised raised).elim
  cases idle : datetimeAdd now (seconds preferences.sessionTtlSeconds) with
  | error e =>
      obtain ⟨outside, message, rfl⟩ := datetimeAdd_error idle
      exact .throw (spare message) fun fits => outside fits.1
  | ok expiresAt =>
      cases ceiling : datetimeAdd now (seconds preferences.sessionAbsoluteTtlSeconds) with
      | error e =>
          obtain ⟨outside, message, rfl⟩ := datetimeAdd_error ceiling
          exact .throw (spare message) fun fits => outside fits.2
      | ok absoluteExpiresAt =>
          have fits := And.intro (datetimeAdd_eq_ok.mp idle).1 (datetimeAdd_eq_ok.mp ceiling).1
          refine Prog.Blames.charges ?_ fun _ _ _ => fits
          apply Prog.Blames.bind (addWithinCap_blames hides _ _)
          intro _
          exact .pure _

theorem openSession_charges (hides : HidesReferences documented)
    (spare : ∀ message, ¬ documented (.overflow message))
    (known : ∀ message, documented (.preferencesUnavailable message)) (account : Account)
    (now : Instant) :
    (openSession env account now).Charges FindsReferences (SessionFits now) documented := by
  rw [openSession_eq, preferencesFor, bind_assoc]
  refine Prog.Blames.bind_charges (ask_blames trivial) (fun _ _ raised => ?_) fun answered es asked => ?_
  · exact (ask_not_raised raised).elim
  obtain ⟨i, _, s, s', _, rfl, final⟩ := asked.call_done
  obtain ⟨rfl, same⟩ := final.done_inv
  cases same
  cases answered with
  | error message =>
      refine Prog.Blames.charges (.throw (known message)) fun later r ended => ?_
      obtain ⟨rfl, -⟩ := ended.done_inv
      rintro preferences ⟨e, member, reads⟩
      obtain rfl := List.mem_singleton.mp member
      cases reads
  | ok preferences =>
      refine (opening_charges hides spare account now preferences).congr fun later r path => ?_
      have quiet := (path.uses opening_uses).1
      rw [sessionFits_append, and_iff_left (sessionFits_quiet quiet)]
      constructor
      · rintro fits _ ⟨e, member, reads⟩
        obtain rfl := List.mem_singleton.mp member
        cases reads
        exact fits
      · intro fits
        exact fits preferences ⟨_, List.mem_singleton.mpr rfl, .read⟩

theorem acceptLogin_uses {account : Account} {password : String} {now : Instant} :
    (acceptLogin env account password now).Uses fun o : Op => ¬ o.chooses := by
  rw [acceptLogin, upgradeHash]
  apply Prog.Uses.bind
  · split
    · exact Prog.Uses.bind (ask_uses id) fun _ => trivial
    · trivial
  · intro copy
    exact Prog.Uses.bind (accountStore_uses id) fun _ => trivial

theorem welcome_charges (hides : HidesReferences documented)
    (spare : ∀ message, ¬ documented (.overflow message))
    (known : ∀ message, documented (.preferencesUnavailable message)) (account : Account)
    (password caller : String) (now : Instant) :
    (welcome env account password caller now).Charges FindsReferences (SessionFits now)
      documented := by
  unfold welcome
  refine Prog.Blames.bind_charges (acceptLogin_blames hides account password now)
    (fun es _ failed => sessionFits_quiet (failed.uses acceptLogin_uses).1) fun copy es accepted => ?_
  refine Prog.Blames.bind_charges (ask_blames trivial) (fun _ _ raised => ?_) fun _ es' reset => ?_
  · exact (ask_not_raised raised).elim
  refine (openSession_charges hides spare known copy now).congr fun later r path => ?_
  have quiet := (accepted.uses acceptLogin_uses).1
  have clearing : (resetLimit scopeLogin caller : Service env Unit).Uses fun o : Op => ¬ o.chooses :=
    ask_uses id
  have cleared := (reset.uses clearing).1
  rw [sessionFits_append, sessionFits_append, and_iff_right (sessionFits_quiet quiet),
    and_iff_right (sessionFits_quiet cleared)]

theorem clearFailures_uses {account : Account} :
    (clearFailures env account).Uses fun o : Op => ¬ o.chooses := by
  unfold clearFailures
  split
  · trivial
  · exact accountStore_uses id

theorem clearFailures_blames (hides : HidesReferences documented) (account : Account) :
    (clearFailures env account).Blames FindsReferences documented := by
  unfold clearFailures
  split
  · exact .pure ()
  · exact save_blames hides _

theorem redeem_blames (token : String) (purpose : GrantPurpose)
    (known : ∀ message, documented (.invalidGrant message)) :
    (redeem env token purpose).Blames FindsReferences documented := by
  unfold redeem
  refine Prog.Blames.bind (ask_blames trivial) fun now => ?_
  apply Prog.Blames.bind
  · refine store_blames trivial ?_
    intro x s a t done
    cases done
    exact ⟨_, rfl⟩
  · intro found
    cases found with
    | none => exact .throw (known _)
    | some grant =>
        apply Prog.Blames.bind (refuseIf_blames (known _))
        intro _
        exact .pure grant

theorem checkPasswordPolicy_blames {newPassword : String}
    (known : ∀ message, documented (.invalidPassword message)) :
    (Prog.ofExcept (checkPasswordPolicy newPassword) : Service env Unit).Blames FindsReferences
      documented := by
  apply Prog.Blames.done
  intro e refused
  rw [checkPasswordPolicy] at refused
  split at refused
  · cases refused
    exact known _
  · split at refused
    · cases refused
      exact known _
    · split at refused
      · cases refused
        exact known _
      · cases refused

theorem setPassword_blames (hides : HidesReferences documented)
    (known : ∀ message, documented (.invalidPassword message)) (account : Account)
    (newPassword : String) (keepSessionId : Option String) :
    (setPassword env account newPassword keepSessionId).Blames FindsReferences documented := by
  unfold setPassword
  apply Prog.Blames.bind (checkPasswordPolicy_blames known)
  intro _
  refine Prog.Blames.bind (ask_blames trivial) fun now => ?_
  refine Prog.Blames.bind (ask_blames trivial) fun salt => ?_
  apply Prog.Blames.bind (save_blames hides _)
  intro _
  apply Prog.Blames.bind
  · refine store_blames trivial ?_
    intro x s a t done
    cases done
    exact ⟨_, rfl⟩
  · intro _
    apply Prog.Blames.bind
    · refine store_blames trivial ?_
      intro x s a t done
      cases done
      exact ⟨_, rfl⟩
    · intro _
      exact .pure ()

theorem redeemPasswordReset_blames (token newPassword caller : String) :
    (redeemPasswordReset env token newPassword caller).Blames FindsReferences
      (Authentication.redeemPasswordReset token newPassword caller).Raises := by
  have hides := (Authentication.redeemPasswordReset token newPassword caller).hidesReferences
  unfold redeemPasswordReset
  apply Prog.Blames.bind (checkLimit_blames fun _ _ => trivial)
  intro _
  apply Prog.Blames.bind (checkPasswordPolicy_blames fun _ => trivial)
  intro _
  apply Prog.Blames.bind (redeem_blames token .passwordReset fun _ => trivial)
  intro grant
  apply Prog.Blames.bind
  · unfold grantee
    split
    · exact .pure none
    · exact readAccount_blames _
  · intro found
    cases found with
    | none => exact .throw trivial
    | some account =>
        apply Prog.Blames.bind (setPassword_blames hides (fun _ => trivial) account _ _)
        intro _
        exact .pure account

end AccountService

namespace Attempt

/-- The request that an attempt is. -/
def asked : Attempt → Authentication
  | login email password caller => .login email password caller
  | confirm accountId password => .confirmPassword accountId password

theorem find_blames (attempt : Attempt) :
    (attempt.find env).Blames FindsReferences attempt.asked.Raises := by
  cases attempt with
  | login email password caller =>
      apply Prog.Blames.bind (checkLimit_blames fun _ _ => trivial)
      intro _
      exact findForLogin_blames email
  | confirm accountId password => exact readAccount_blames accountId

theorem accept_charges (attempt : Attempt) (account : Account) (now : Instant) :
    (attempt.accept env account now).Charges FindsReferences (SessionFits now)
      attempt.asked.Raises := by
  have hides := attempt.asked.hidesReferences
  cases attempt with
  | login email password caller =>
      exact (welcome_charges hides (fun _ => id) (fun _ => trivial) account password caller
        now).map _
  | confirm accountId password =>
      refine Prog.Charges.map ?_ _
      exact (clearFailures_blames hides account).charges fun es r path =>
        sessionFits_quiet (path.uses clearFailures_uses).1

theorem guarded_charges (attempt : Attempt) (account : Account) :
    (guarded env account attempt.password (attempt.accept env account)).Charges FindsReferences
      (fun es => ∀ now, shownIn es = some now → GuessFits account attempt.password now es)
      attempt.asked.Raises := by
  have hides := attempt.asked.hidesReferences
  have known : ∀ message, attempt.asked.Raises (.authentication message) := by
    cases attempt <;> exact fun _ => trivial
  have spare : ∀ message, ¬ attempt.asked.Raises (.overflow message) := by
    cases attempt <;> exact fun _ => id
  unfold guarded
  refine Prog.Blames.bind_charges (ask_blames trivial) (fun _ _ raised => ?_) fun now es asked => ?_
  · exact (ask_not_raised raised).elim
  obtain ⟨i, _, s, s', _, rfl, final⟩ := asked.call_done
  obtain ⟨rfl, same⟩ := final.done_inv
  cases same
  have shown : ∀ later : List (Event (machine env)),
      shownIn ([⟨i, .now, now, s, s'⟩] ++ later) = some now := fun _ => rfl
  have reads : ∀ later : List (Event (machine env)),
      SessionFits now ([⟨i, .now, now, s, s'⟩] ++ later) ↔ SessionFits now later := by
    intro later
    rw [sessionFits_append, and_iff_right]
    exact sessionFits_quiet (List.forall_mem_singleton.mpr id)
  simp only [shown, Option.some.injEq, forall_eq', GuessFits, reads]
  rw [refuseIf_bind]
  by_cases closed : notAuthenticable account now = true
  · rw [if_pos closed]
    refine Prog.Blames.charges (.throw (known _)) fun _ _ _ opened => ?_
    rw [closed] at opened
    cases opened
  · rw [if_neg closed]
    have opened : notAuthenticable account now = false := by simpa using closed
    simp only [opened, forall_const]
    by_cases right : env.hasher.verify account.passwordHash attempt.password = true
    · rw [if_pos right]
      simp only [right, Bool.true_eq_false, false_imp_iff, true_and]
      exact attempt.accept_charges account now
    · rw [if_neg right]
      have wrong : env.hasher.verify account.passwordHash attempt.password = false := by
        simpa using right
      simp only [wrong, forall_const]
      refine (rejectPassword_charges hides spare known account now).congr fun es r path => ?_
      have saving : (rejectPassword env account now : Service env Answer).Uses
        fun o : Op => ¬ o.chooses := rejectPassword_uses (fun _ _ => id) now
      exact (and_iff_left (sessionFits_quiet (path.uses saving).1)).symm

theorem charges (attempt : Attempt) :
    (attempt.call.prog env).Charges FindsReferences (fun es => attempt.asked.SumsFit es)
      attempt.asked.Raises := by
  have sums : ∀ es : List (Event (machine env)), attempt.asked.SumsFit es ↔
      ∀ account now, foundIn es = some account → shownIn es = some now →
        GuessFits account attempt.password now es := by
    intro es
    cases attempt <;> rfl
  simp only [sums]
  rw [attempt.prog_eq]
  refine Prog.Blames.bind_charges attempt.find_blames (fun es e failed => ?_) fun found es looked => ?_
  · rcases find_inv failed with ⟨quiet, -⟩ | ⟨_, _, _, -, -, -, impossible⟩
    · intro account now found
      rw [quiet] at found
      cases found
    · cases impossible
  · rcases find_inv looked with ⟨quiet, never⟩ | ⟨limits, e, account, rfl, quiet, found, same⟩
    · cases found with
      | some account => exact absurd rfl (never account)
      | none =>
          have known : attempt.asked.Raises (.authentication badCredentials) := by
            cases attempt <;> trivial
          refine Prog.Blames.charges (.throw known) fun later r ended account now found => ?_
          obtain ⟨rfl, -⟩ := ended.done_inv
          rw [List.append_nil, quiet] at found
          cases found
    · cases same
      refine (attempt.guarded_charges account).congr fun later r path => ?_
      have one : foundIn (limits ++ [e] ++ later) = some account := by
        rw [List.append_assoc, List.singleton_append]
        exact foundIn_of_found quiet found
      have shown : shownIn (limits ++ [e] ++ later) = shownIn later := by
        rw [List.append_assoc, List.singleton_append, shownIn_limits quiet, shownIn,
          List.findSome?_cons, Op.found_shown found]
        rfl
      have silent : ∀ e' ∈ limits ++ [e], ¬ e'.op.chooses := by
        intro e' member
        rcases List.mem_append.mp member with earlier | last
        · exact (quiet e' earlier).chooses_not
        · obtain rfl := List.mem_singleton.mp last
          exact Op.found_chooses_not found
      have reads : ∀ now, SessionFits now (limits ++ [e] ++ later) ↔ SessionFits now later := by
        intro now
        rw [sessionFits_append, and_iff_right (sessionFits_quiet silent)]
      simp only [one, Option.some.injEq, shown, GuessFits, reads]
      constructor
      · rintro fits _ now rfl
        exact fits now
      · exact fun fits now => fits account now rfl

end Attempt

theorem Authentication.charges (a : Authentication) :
    (a.call.prog env).Charges FindsReferences (fun es => a.SumsFit es) a.Raises := by
  cases a with
  | login email password caller => exact (Attempt.login email password caller).charges
  | confirmPassword accountId password => exact (Attempt.confirm accountId password).charges
  | redeemPasswordReset token newPassword caller =>
      refine Prog.Charges.map ?_ _
      exact (AccountService.redeemPasswordReset_blames token newPassword caller).charges
        fun _ _ _ => trivial

namespace Scenario

/-- Bob logs in while his account is deleted. -/
def departing : List Call :=
  [(Authentication.login "bob@mail.org" "battery staple" "home").call,
    .account (.deleteAccount "bob")]

/-- The login reads the account, and the deletion commits before it saves its copy. -/
def departingRun : Config (machine deployment) Error Answer × List (Event (machine deployment)) :=
  (start deployment office departing).play
    (List.replicate 4 (0, given 5 "a") ++ [(1, given 6 "b"), (0, given 7 "c")])

/-- The deletion commits when the login has ended. -/
def departedRun : Config (machine deployment) Error Answer × List (Event (machine deployment)) :=
  (start deployment office departing).play
    (List.replicate 10 (0, given 5 "a") ++ [(1, given 6 "b")])

end Scenario

end Keyring

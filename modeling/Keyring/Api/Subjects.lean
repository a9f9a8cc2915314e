import Keyring.Admin.Footprint
import Keyring.Credentials.ExchangeAuthority

/-!
# Acting for a person who may not act

A user token outlives the account it names.  An exchange and a description of a
profile read that account and refuse one that is not active; the other internal
requests rest on the rows of the account alone, so they refuse an account without
profiles and serve a disabled one.
-/

set_option autoImplicit false

namespace Keyring

open Interleave Relational

variable {env : Env} {α β : Type}

/-! ## Programs that refuse -/

/-- A step that changes no row and begins no authorization. -/
def Harmless : (machine env).Effect := fun o _ s t => t.db = s.db ∧ ¬ o.starts

/-- When `P` holds before each of its steps, whatever happens in between, the
program changes nothing and raises. -/
def Declines (P : World → Prop) (p : Service env α) : Prop :=
  ∀ s, p.Sat (fun _ _ s _ => P s) (fun _ _ => True) Harmless (fun r _ => ∃ e, r = .error e) s

namespace Declines

variable {P : World → Prop}

theorem mono {Q : World → Prop} (stronger : ∀ s, Q s → P s) {p : Service env α}
    (declines : Declines P p) : Declines Q p := by
  intro s
  apply (declines s).assume
  intro o a s t
  exact stronger s

theorem throw (e : Error) : Declines P (.done (.error e) : Service env α) := fun _ => ⟨e, rfl⟩

/-- What comes after a refusal is not reached. -/
theorem bind {p : Service env α} (first : Declines P p) (f : α → Service env β) :
    Declines P (p >>= f) := by
  intro s
  apply Prog.Sat.bind (first s)
  · rintro a t ⟨e, impossible⟩
    cases impossible
  · intro e t _
    exact ⟨e, rfl⟩

theorem ofExcept_bind {r : Except Error α} {f : α → Service env β}
    (rest : ∀ a, r = .ok a → Declines P (f a)) : Declines P (Prog.ofExcept r >>= f) := by
  cases r with
  | error e => exact throw e
  | ok a => exact rest a rfl

theorem refuseIf_bind {c : Prop} [Decidable c] {e : Error} {f : Unit → Service env β}
    (rest : ¬c → Declines P (f ())) : Declines P (refuseIf c e >>= f) := by
  rw [Keyring.refuseIf_bind]
  split
  · exact throw e
  · rename_i passed
    exact rest passed

/-- A harmless first step, with what `P` says of its answer. -/
theorem call_bind {o : Op} {result : o.Ans → Except Error α} {f : α → Service env β}
    (idle : o.idle) (still : ¬ o.starts)
    (rest : ∀ x s a t, P s → exec env o x s = some (a, t) → ∀ v, result a = .ok v →
      Declines P (f v)) :
    Declines P ((.call o fun a => .done (result a) : Service env α) >>= f) := by
  intro s
  rw [Prog.bind_call]
  apply Prog.Sat.call
  intro s' _ x a t done holds
  refine ⟨⟨exec_idle done idle, still⟩, ?_⟩
  cases answered : result a with
  | error e => exact ⟨e, rfl⟩
  | ok v => exact rest x s' a t holds done v answered t

theorem ask_bind {o : Op} {f : o.Ans → Service env β} (idle : o.idle) (still : ¬ o.starts)
    (rest : ∀ a, Declines P (f a)) : Declines P (ask o >>= f) := by
  rw [ask_eq]
  apply call_bind idle still
  intro x s a t _ _ v _
  exact rest v

end Declines

/-! ## Accounts that may not act -/

/-- The account owns no profile. -/
def Profileless (accountId : String) (w : World) : Prop :=
  ∀ name, w.db.profiles.find? (accountId, name) = none

/-- The account may not act and owns no profile. -/
def Unserved (accountId : String) (w : World) : Prop :=
  Barred accountId w ∧ Profileless accountId w

def Absent (accountId : String) (w : World) : Prop := w.db.accounts.find? accountId = none

theorem Absent.barred {accountId : String} {w : World} (absent : Absent accountId w) :
    Barred accountId w := by
  intro row found
  rw [Absent] at absent
  rw [absent] at found
  cases found

theorem Absent.profileless {accountId : String} {w : World} (fk : ForeignKeys w.db)
    (absent : Absent accountId w) : Profileless accountId w := by
  intro name
  cases found : w.db.profiles.find? (accountId, name) with
  | none => rfl
  | some row =>
      obtain ⟨stored, keyed⟩ := Table.find?_eq_some.mp found
      have owner : row.accountId = accountId := congrArg Prod.fst keyed
      have present := fk.profiles row stored
      rw [owner, absent] at present
      cases present

section Refusals

variable {accountId : String}

theorem getAccount_bind_declines {f : Option Account → Service env α}
    (missing : Declines (Barred accountId) (f none))
    (rest : ∀ account : Account, account.status ≠ .active →
      Declines (Barred accountId) (f (some account))) :
    Declines (Barred accountId) (accountStore (.get accountId) >>= f) := by
  rw [accountStore_eq]
  apply Declines.call_bind (o := .accounts (.get accountId)) trivial not_false
  intro x s a t barred done found answered
  subst answered
  obtain ⟨committed, -⟩ := onDb_eq.mp done
  obtain ⟨read, -⟩ := AccountOp.get_ok (transact_ok.mp committed)
  cases found with
  | none => exact missing
  | some account =>
      apply rest
      rw [eq_comm, readAccount, Option.map_eq_some_iff] at read
      obtain ⟨row, stored, rfl⟩ := read
      exact barred row stored

theorem readProfile_bind_declines {name : String} {f : Option Profile → Service env α}
    (missing : Declines (Profileless accountId) (f none)) :
    Declines (Profileless accountId) (profileStore (.get accountId name) >>= f) := by
  rw [profileStore_eq]
  apply Declines.call_bind (o := .profiles (.get accountId name)) trivial not_false
  intro x s a t profileless done found answered
  subst answered
  obtain ⟨committed, -⟩ := onDb_eq.mp done
  obtain ⟨read, -⟩ := ProfileOp.get_ok (transact_ok.mp committed)
  rw [readProfile, profileless name] at read
  cases read
  exact missing

theorem getProfile_declines (name : String) :
    Declines (Profileless accountId) (CredentialService.getProfile env accountId name) := by
  apply Declines.ofExcept_bind
  intro normalized _
  apply readProfile_bind_declines
  exact Declines.throw _

theorem requireProfile_declines (name : String) :
    Declines (Profileless accountId) (DelegationService.requireProfile env accountId name) :=
  readProfile_bind_declines (Declines.throw _)

/-- A service sends no password, and a setting that cannot be read or asks for one
is the end of its request. -/
theorem admitted_bind_declines {P : World → Prop} {f : Preferences → Service env α}
    (rest : ∀ preferences, Declines P (f preferences)) :
    Declines P (CredentialChanges.admitted env accountId Requester.service >>= f) := by
  unfold CredentialChanges.admitted preferencesFor
  simp only [bind_assoc]
  apply Declines.ask_bind (o := .preferences accountId) trivial not_false
  intro answered
  cases answered with
  | error message => exact Declines.throw _
  | ok preferences =>
      simp only [Requester.service, Prog.pure_eq, Prog.bind_ok, reduceCtorEq, if_false]
      split
      · exact Declines.throw _
      · exact Declines.throw _
      · exact rest preferences

end Refusals

/-! ## The entry points -/

inductive Entry where
  | resolveCredential
  | resolveFormSecrets
  | describeProfile
  | authorizeConnection
  | deleteConnection
  | createGrant
  | revokeGrant
  | exchange
  deriving DecidableEq

def InternalCall.entry : InternalCall → Entry
  | resolveCredential _ _ => .resolveCredential
  | resolveFormSecrets _ _ => .resolveFormSecrets
  | describeProfile _ => .describeProfile
  | authorizeConnection _ _ => .authorizeConnection
  | deleteConnection _ _ => .deleteConnection
  | createGrant _ _ _ => .createGrant
  | revokeGrant _ _ => .revokeGrant

/-- The internal operation that a request is, and the user token it presents. -/
def Call.presented : Call → Option (Entry × Option String)
  | exchange _ _ _ userToken _ => some (.exchange, userToken)
  | internal _ userToken c => some (c.entry, userToken)
  | _ => none

/-- The operations that read the account behind the token. -/
def Entry.readsAccount (entry : Entry) : Prop := entry = .exchange ∨ entry = .describeProfile

/-- Credential material, a token, or the link of an authorization. -/
def Answer.carries : Answer → Prop
  | .headers _ | .secret _ | .resolved _ | .fields _ | .exchanged _ | .authorization _ => True
  | _ => False

/-- The request has handed out nothing and changed nothing. -/
structure Refused (i : Nat) (tr : List (Event (machine env)))
    (d : Config (machine env) Error Answer) : Prop where
  answered : ∀ answer, d.pool[i]? = some (.done (.ok answer)) → ¬ answer.carries
  unchanged : ∀ e ∈ ofThread i tr, e.after.db = e.before.db
  unstarted : ∀ e ∈ ofThread i tr, ¬ e.op.starts

/-- In every run, a request of this kind is refused when `subject` holds of the
account its token names, whenever the request moves. -/
def Entry.Refuses (entry : Entry) (subject : String → World → Prop) : Prop :=
  ∀ (env : Env) (w : World) (calls : List Call) (tr : List (Event (machine env)))
    (d : Config (machine env) Error Answer), ForeignKeys w.db → Run (start env w calls) tr d →
    ∀ i token, calls[i]?.bind Call.presented = some (entry, some token) →
      (∀ claims, env.jwt.decode token = some claims →
        ∀ e ∈ ofThread i tr, subject claims.sub e.before) →
      Refused i tr d

/-! ## What each request does then -/

section Requests

variable {token : String} {subject : String → World → Prop}

/-- A token that is not accepted ends the request; one that is names the account. -/
theorem verifyAccess_bind_declines {audience : String} {f : VerifiedAccessToken → Service env α}
    (rest : ∀ claims, env.jwt.decode token = some claims →
      Declines (subject claims.sub) (f ⟨claims.sub, seconds claims.exp⟩)) :
    Declines (fun s => ∀ claims, env.jwt.decode token = some claims → subject claims.sub s)
      (TokenSigner.verifyAccess env token audience >>= f) := by
  unfold TokenSigner.verifyAccess
  cases decoded : env.jwt.decode token with
  | none => exact Declines.throw _
  | some claims =>
      dsimp only
      rw [bind_assoc]
      apply Declines.refuseIf_bind
      intro _
      rw [bind_assoc]
      apply Declines.ask_bind (o := .now) trivial not_false
      intro now
      rw [bind_assoc]
      apply Declines.refuseIf_bind
      intro _
      rw [bind_assoc]
      apply Declines.ofExcept_bind
      intro expiresAt dated
      rw [fromTimestamp_ok dated]
      apply (rest claims decoded).mono
      intro s named
      exact named claims rfl

theorem actingFor_bind_declines {service : String} {f : String → Service env α}
    (rest : ∀ accountId, Declines (subject accountId) (f accountId)) :
    Declines (fun s => ∀ claims, env.jwt.decode token = some claims → subject claims.sub s)
      (Internal.actingFor env service (some token) >>= f) := by
  unfold Internal.actingFor
  dsimp only
  rw [bind_assoc]
  apply verifyAccess_bind_declines
  intro claims _
  exact rest claims.sub

theorem exchange_declines (service audience : String) (ttlSeconds : Int)
    (grantId : Option String) :
    Declines (fun s => ∀ claims, env.jwt.decode token = some claims → Barred claims.sub s)
      (DelegationService.exchange env service audience ttlSeconds (some token) grantId) := by
  apply Declines.refuseIf_bind
  intro _
  apply Declines.ofExcept_bind
  intro _ _
  unfold DelegationService.authority
  dsimp only
  rw [bind_assoc]
  apply verifyAccess_bind_declines
  intro claims _
  apply getAccount_bind_declines
  · exact Declines.throw _
  · intro account inactive
    apply Declines.refuseIf_bind
    intro active
    exact absurd inactive active

theorem describeProfile_declines (accountId name : String) :
    Declines (Barred accountId) (Internal.describeProfile env accountId name) := by
  apply getAccount_bind_declines
  · exact Declines.throw _
  · intro account inactive
    apply Declines.refuseIf_bind
    intro active
    exact absurd inactive active

theorem InternalCall.declines (c : InternalCall) (service accountId : String)
    (other : c.entry ≠ .describeProfile) :
    Declines (Profileless accountId) (c.run env service accountId) := by
  cases c with
  | resolveCredential profile service =>
      apply Declines.bind
      apply Declines.bind
      apply Declines.bind
      apply Declines.bind
      exact getProfile_declines profile
  | resolveFormSecrets profile service =>
      apply Declines.bind
      apply Declines.bind
      apply Declines.bind
      apply Declines.bind
      exact getProfile_declines profile
  | describeProfile name => exact absurd rfl other
  | authorizeConnection name connection =>
      apply Declines.bind
      apply admitted_bind_declines
      intro preferences
      apply Declines.bind
      exact getProfile_declines name
  | deleteConnection name connection =>
      apply Declines.bind
      apply Declines.bind
      apply admitted_bind_declines
      intro preferences
      apply Declines.bind
      apply Declines.bind
      exact getProfile_declines name
  | createGrant name audiences ttlSeconds =>
      apply Declines.bind
      apply Declines.bind
      exact requireProfile_declines name
  | revokeGrant name grantId =>
      apply Declines.bind
      apply Declines.bind
      exact requireProfile_declines name

theorem Declines.refused {P : World → Prop} {w : World} {calls : List Call} {c : Call}
    {tr : List (Event (machine env))} {d : Config (machine env) Error Answer} {i : Nat}
    (run : Run (start env w calls) tr d) (found : calls[i]? = some c)
    (declines : Declines P (c.prog env)) (holds : ∀ e ∈ ofThread i tr, P e.before) :
    Refused i tr d := by
  obtain ⟨q, here, path⟩ := path_of_run run i c found
  have real : ∀ e ∈ ofThread i tr, ∃ x, exec env e.op x e.before = some (e.ans, e.after) := by
    intro e member
    exact exec_of_run run (mem_ofThread.mp member).1
  obtain ⟨events, t, final⟩ := path.sat real holds (declines w)
  refine ⟨fun answer ended => ?_, fun e member => (events e member).1,
    fun e member => (events e member).2⟩
  rw [here] at ended
  cases ended
  obtain ⟨e, impossible⟩ := final
  cases impossible

theorem Entry.refuses_of_declines {entry : Entry}
    (each : ∀ env c token, Call.presented c = some (entry, some token) →
      Declines (fun s => ∀ claims, env.jwt.decode token = some claims → subject claims.sub s)
        (c.prog env)) : entry.Refuses subject := by
  intro env w calls tr d _ run i token asked named
  obtain ⟨c, found, presented⟩ := Option.bind_eq_some_iff.mp asked
  apply (each env c token presented).refused run found
  intro e member claims decoded
  exact named claims decoded e member

theorem Entry.refuses_barred {entry : Entry} (reads : entry.readsAccount) :
    entry.Refuses Barred := by
  apply Entry.refuses_of_declines
  intro env c token presented
  cases c with
  | exchange service audience ttlSeconds userToken grantId =>
      cases presented
      apply Declines.bind
      exact exchange_declines service audience ttlSeconds grantId
  | internal service userToken c =>
      cases presented
      apply actingFor_bind_declines
      intro accountId
      cases c with
      | describeProfile name =>
          apply Declines.bind
          exact describeProfile_declines accountId name
      | _ => rcases reads with wrong | wrong <;> cases wrong
  | _ => cases presented

/-- Every operation refuses an account that may not act and has no profile. -/
theorem Entry.refuses_unserved (entry : Entry) : entry.Refuses Unserved := by
  by_cases reads : entry.readsAccount
  · intro env w calls tr d fk run i token asked named
    apply entry.refuses_barred reads env w calls tr d fk run i token asked
    intro claims decoded e member
    exact (named claims decoded e member).1
  · apply Entry.refuses_of_declines
    intro env c token presented
    cases c with
    | exchange service audience ttlSeconds userToken grantId =>
        cases presented
        exact absurd (Or.inl rfl) reads
    | internal service userToken c =>
        cases presented
        apply actingFor_bind_declines
        intro accountId
        have other : c.entry ≠ .describeProfile := fun same => reads (Or.inr same)
        apply (c.declines service accountId other).mono
        intro s unserved
        exact unserved.2
    | _ => cases presented

/-- Every operation refuses an account that does not exist. -/
theorem Entry.refuses_absent (entry : Entry) : entry.Refuses Absent := by
  intro env w calls tr d fk run i token asked named
  apply entry.refuses_unserved env w calls tr d fk run i token asked
  intro claims decoded e member
  have references : ForeignKeys e.before.db :=
    (run_foreignKeys run fk).2 e (mem_ofThread.mp member).1
  have absent := named claims decoded e member
  exact ⟨absent.barred, absent.profileless references⟩

end Requests

/-! ## A disabled person is acted for -/

namespace Scenario

def bobGym : ConnectionRow where
  accountId := "bob"
  profileName := "home"
  service := "gym"
  kind := .password
  status := .active
  createdAt := 0
  updatedAt := 0

def bobLogin : SecretRow where
  accountId := "bob"
  profileName := "home"
  service := "gym"
  envelope := sealSecret [("username", .str "bob"), ("password", .str "sesame")] "master"
    ⟨"k", "kn", "pn"⟩
  createdAt := 0
  updatedAt := 0

def homeGrant : OfflineGrant :=
  ⟨"dgt_home", "bob", "home", "lucy-api", ["user.home"], 0, seconds 3600, none⟩

/-- Bob has connected his profile to two services, and was then disabled. -/
def disabledOffice : World :=
  worldOf { connectedOffice.db with
    accounts := ⟨[alice, { bob with status := .disabled }], by decide⟩
    connections := ⟨[bobSpotify, bobGym], by decide⟩
    secrets := ⟨[bobSecret, bobLogin], by decide⟩
    offlineGrants := ⟨[homeGrant], by simp⟩ }

def served : Entry → InternalCall
  | .resolveCredential => .resolveCredential "home" "spotify"
  | .resolveFormSecrets => .resolveFormSecrets "home" "gym"
  | .authorizeConnection => .authorizeConnection "home" "spotify"
  | .deleteConnection => .deleteConnection "home" "spotify"
  | .createGrant => .createGrant "home" ["user.home"] 60
  | .revokeGrant => .revokeGrant "home" "dgt_home"
  | .describeProfile | .exchange => .describeProfile "home"

def servedCalls (entry : Entry) : List Call :=
  [.internal "lucy-api" (some (bobToken "lucy-api" 0 100)) (served entry)]

def servedRun (entry : Entry) :
    Config (machine deployment) Error Answer × List (Event (machine deployment)) :=
  (start deployment disabledOffice (servedCalls entry)).play (List.replicate 12 (0, given 5 "a"))

/-- The account that the token names is inactive before each step. -/
def bobDisabled (tr : List (Event (machine deployment))) : Bool :=
  (ofThread 0 tr).all fun e =>
    (e.before.db.accounts.find? "bob").all fun row => decide (row.status ≠ .active)

def handedOut {env : Env} : Option (Service env Answer) → Bool
  | some (.done (.ok (.resolved _))) | some (.done (.ok (.fields _)))
  | some (.done (.ok (.authorization _))) => true
  | _ => false

def stored (w : World) : Nat × Nat × Nat :=
  (w.db.connections.rows.length, w.db.offlineGrants.rows.length,
    w.db.offlineGrants.countWhere (·.revokedAt.isSome))

/-- Something was handed out, or the rows that are counted have changed. -/
def breached (run : Config (machine deployment) Error Answer × List (Event (machine deployment))) :
    Bool :=
  handedOut run.1.pool[0]? || (ofThread 0 run.2).any fun e => stored e.after ≠ stored e.before

theorem barred_of_bobDisabled {tr : List (Event (machine deployment))}
    (disabled : bobDisabled tr = true) : ∀ e ∈ ofThread 0 tr, Barred "bob" e.before := by
  intro e member row found
  have here := List.all_eq_true.mp disabled e member
  rw [found] at here
  exact of_decide_eq_true here

theorem handedOut_carries {env : Env} {found : Option (Service env Answer)}
    (out : handedOut found = true) : ∃ answer, found = some (.done (.ok answer)) ∧ answer.carries := by
  unfold handedOut at out
  split at out
  · exact ⟨_, rfl, trivial⟩
  · exact ⟨_, rfl, trivial⟩
  · exact ⟨_, rfl, trivial⟩
  · cases out

theorem not_refused_of_breached
    {run : Config (machine deployment) Error Answer × List (Event (machine deployment))}
    (breach : breached run = true) : ¬ Refused 0 run.2 run.1 := by
  intro refused
  rcases (Bool.or_eq_true _ _).mp breach with out | changed
  · obtain ⟨answer, ended, carries⟩ := handedOut_carries out
    exact refused.answered answer ended carries
  · obtain ⟨e, member, differs⟩ := List.any_eq_true.mp changed
    have same := refused.unchanged e member
    rw [stored, stored, same] at differs
    simp at differs

theorem disabledOffice_foreignKeys : ForeignKeys disabledOffice.db := by
  constructor <;> decide +kernel

theorem servedRun_run (entry : Entry) :
    Run (start deployment disabledOffice (servedCalls entry)) (servedRun entry).2
      (servedRun entry).1 := Config.play_run _ _

theorem served_breached {entry : Entry} (unread : ¬ entry.readsAccount) :
    (served entry).entry = entry ∧ bobDisabled (servedRun entry).2 = true ∧
      breached (servedRun entry) = true := by
  cases entry with
  | describeProfile => exact absurd (Or.inr rfl) unread
  | exchange => exact absurd (Or.inl rfl) unread
  | _ => decide +kernel

end Scenario

open Scenario in
/-- In every run, an operation refuses whoever may not act exactly when it reads
the account; without profiles, or without an account, every operation refuses. -/
theorem acting_for_refused (entry : Entry) :
    (entry.Refuses Barred ↔ entry.readsAccount) ∧ entry.Refuses Unserved ∧
      entry.Refuses Absent := by
  refine ⟨⟨fun refuses => ?_, Entry.refuses_barred⟩, entry.refuses_unserved, entry.refuses_absent⟩
  by_contra unread
  obtain ⟨same, disabled, breach⟩ := served_breached unread
  apply not_refused_of_breached breach
  apply refuses deployment disabledOffice (servedCalls entry) _ _ disabledOffice_foreignKeys
    (servedRun_run entry) 0 (bobToken "lucy-api" 0 100)
  · simp [servedCalls, Call.presented, same]
  · intro claims decoded
    rw [bobToken_decoded] at decoded
    cases decoded
    exact barred_of_bobDisabled disabled

open Scenario in
/-- Bob is disabled throughout, and his access token is handed out. -/
theorem disabled_credential_resolved :
    ForeignKeys disabledOffice.db ∧
      Run (start deployment disabledOffice (servedCalls .resolveCredential))
        (servedRun .resolveCredential).2 (servedRun .resolveCredential).1 ∧
      (∀ claims, deployment.jwt.decode (bobToken "lucy-api" 0 100) = some claims →
        ∀ e ∈ ofThread 0 (servedRun .resolveCredential).2, Barred claims.sub e.before) ∧
      ∃ answer, (servedRun .resolveCredential).1.pool[0]? = some (.done (.ok answer)) ∧
        answer.carries := by
  refine ⟨disabledOffice_foreignKeys, servedRun_run _, fun claims decoded => ?_,
    handedOut_carries (by decide +kernel)⟩
  rw [bobToken_decoded] at decoded
  cases decoded
  exact barred_of_bobDisabled (by decide +kernel)

end Keyring

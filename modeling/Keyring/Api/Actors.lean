import Keyring.Calls
import Keyring.StoreCalls
import Keyring.Scenario

/-!
# Who is asking

An administrative request is made with the break-glass token or with the token
of a session, and the same bearer string stands for either.
-/

set_option autoImplicit false

namespace Keyring

open Interleave Relational

def missingCredentials : String := "a session token is required"

def isAscii (s : String) : Bool := s.toList.all fun c => c.toNat < 128

/-- `hmac.compare_digest` of two strings. -/
def compareDigest (presented configured : String) : Except Error Bool :=
  if isAscii presented && isAscii configured then .ok (presented = configured)
  else .error (.type "comparing strings with non-ASCII characters is not supported")

section Dependencies

variable (env : Env)

/-- What the roles of an account allow it right now. -/
def actorFor (accountId : String) (roles : List String) : Service env Actor := do
  let permissions ← roleStore (.resolve roles)
  pure { accountId := accountId, permissions := permissions, isBreakGlass := false }

/-- Whether the bearer string is the configured token; without one, it is not. -/
def isBreakGlass (adminToken : Option String) (presented : String) : Except Error Bool :=
  match adminToken with
  | none => .ok false
  | some configured => compareDigest presented configured

def getActor (adminToken credentials : Option String) : Service env Actor := do
  match credentials with
  | none => throw (.authentication missingCredentials)
  | some presented =>
      if ← Prog.ofExcept (isBreakGlass adminToken presented) then
        pure { accountId := breakGlassActor, permissions := Finset.univ, isBreakGlass := true }
      else do
        let session ← AccountService.resolveSession env presented
        match ← accountStore (.get session.accountId) with
        | none => throw (.authentication missingCredentials)
        | some account => actorFor env account.accountId account.roles

end Dependencies

theorem isBreakGlass_configured {adminToken : Option String} {presented : String}
    (glass : isBreakGlass adminToken presented = .ok true) : adminToken = some presented := by
  cases adminToken with
  | none => cases glass
  | some configured =>
      rw [isBreakGlass, compareDigest] at glass
      split at glass
      · rw [of_decide_eq_true (Except.ok.inj glass)]
      · cases glass

/-! ## Who a bearer string stands for -/

/-- The live session that the string names. -/
def liveSession (env : Env) (presented : String) (now : Instant) (db : Db) : Option Session :=
  db.sessions.rows.find? fun row => row.tokenHash = env.hashToken presented && row.live now

def sessionAccount (env : Env) (presented : String) (now : Instant) (db : Db) : Option Account :=
  (liveSession env presented now db).bind fun session =>
    (readAccount db session.accountId).filter (·.status = .active)

/-- The idle window that the session of an active account gets at `later` ends at a
`datetime`. -/
def IdleFits (env : Env) (presented : String) (now later : Instant) (db : Db) : Prop :=
  ∀ session account, liveSession env presented now db = some session →
    readAccount db session.accountId = some account → account.status = .active →
      Representable (later + seconds (session.idleTtlSeconds.getD env.settings.sessionTtlSeconds))

/-- The break-glass actor, or the actor of the session, or nobody. -/
def actorNamed (env : Env) (adminToken : Option String) (presented : String) (now : Instant)
    (db : Db) : Option Actor :=
  if adminToken = some presented then some ⟨breakGlassActor, Finset.univ, true⟩
  else (sessionAccount env presented now db).map fun account =>
    ⟨account.accountId, resolveRoles db account.roles, false⟩

/-- The answer is the actor, or the one refusal. -/
def Identifies (named : Option Actor) (answer : Except Error Actor) : Prop :=
  match named with
  | some actor => answer = .ok actor
  | none => ∃ message, answer = .error (.authentication message)

theorem not_identifies_error {named : Option Actor} {e : Error}
    (other : ∀ message, e ≠ .authentication message) : ¬ Identifies named (.error e) := by
  intro identifies
  cases named with
  | none =>
      obtain ⟨message, same⟩ := identifies
      exact other message (Except.error.inj same)
  | some actor => cases identifies

section Resolving

variable {env : Env} {w : World} {presented : String} {x₁ x₂ x₃ x₄ x₅ x₆ x₇ : Input}

theorem readAccount_bind_play {β : Type} {accountId : String} {x : Input}
    {f : Option Account → Service env β} (xs : List Input) :
    (accountStore (.get accountId) >>= f).play (x :: xs) w =
      (f (readAccount w.db accountId)).play xs w := accountStore_bind_play rfl xs

theorem readSession_bind_play {β : Type} {tokenHash : String} {now : Instant} {x : Input}
    {f : Option Session → Service env β} (xs : List Input) :
    (sessionStore (.getByTokenHash tokenHash now) >>= f).play (x :: xs) w =
      (f (w.db.sessions.rows.find? fun row => row.tokenHash = tokenHash && row.live now)).play
        xs w := sessionStore_bind_play rfl xs

/-- What is left to do once the session is resolved. -/
def sessionActor (env : Env) (session : Session) : Service env Actor := do
  match ← accountStore (.get session.accountId) with
  | none => throw (.authentication missingCredentials)
  | some account => actorFor env account.accountId account.roles

theorem sessionActor_plays {session : Session} {account : Account}
    (found : readAccount w.db session.accountId = some account) :
    (sessionActor env session).play [x₆, x₇] w =
      some (.ok ⟨account.accountId, resolveRoles w.db account.roles, false⟩, w) := by
  unfold sessionActor
  rw [readAccount_bind_play, found]
  rfl

/-- The actor of the session that a string names, or the refusal of one that names none,
exactly where the session's new idle window ends at a `datetime`. -/
theorem resolveSession_plays :
    ∃ r w', (AccountService.resolveSession env presented >>= sessionActor env).play
        [x₁, x₂, x₃, x₄, x₅, x₆, x₇] w = some (r, w') ∧
      (Identifies ((sessionAccount env presented x₁.now w.db).map fun account =>
          ⟨account.accountId, resolveRoles w.db account.roles, false⟩) r ↔
        IdleFits env presented x₁.now x₄.now w.db) := by
  unfold AccountService.resolveSession sessionAccount IdleFits liveSession
  rw [bind_assoc, clockNow_bind_play, bind_assoc, readSession_bind_play]
  cases live : w.db.sessions.rows.find? fun row =>
      row.tokenHash = env.hashToken presented && row.live x₁.now with
  | none => exact ⟨_, _, rfl, iff_of_true ⟨_, rfl⟩ fun _ _ impossible => by cases impossible⟩
  | some session =>
      dsimp only [Option.bind_some]
      rw [bind_assoc, readAccount_bind_play]
      cases found : readAccount w.db session.accountId with
      | none =>
          refine ⟨_, _, rfl, iff_of_true ⟨_, rfl⟩ ?_⟩
          rintro _ account ⟨⟩ read
          cases found.symm.trans read
      | some account =>
          dsimp only
          rw [bind_assoc, refuseIf_bind]
          by_cases active : account.status = .active
          · rw [if_neg (not_not.mpr active), bind_assoc, clockNow_bind_play, bind_assoc,
              Option.filter_some_pos (by simpa using active)]
            by_cases inside : Representable
                (x₄.now + seconds (session.idleTtlSeconds.getD env.settings.sessionTtlSeconds))
            · rw [ofExcept_bind_play (touched_eq_ok.mpr ⟨inside, rfl⟩), bind_assoc,
                sessionStore_bind_play rfl]
              refine ⟨_, _, sessionActor_plays found, iff_of_true rfl ?_⟩
              rintro _ _ ⟨⟩ - -
              exact inside
            · obtain ⟨message, raised⟩ := touched_outside inside
              refine ⟨_, _, ofExcept_bind_play_error raised _, iff_of_false
                (not_identifies_error fun _ => Error.noConfusion) fun fits => ?_⟩
              exact inside (fits session account rfl found active)
          · rw [if_pos active, Option.filter_some_neg (by simpa using active)]
            refine ⟨_, _, rfl, iff_of_true ⟨_, rfl⟩ ?_⟩
            rintro _ other ⟨⟩ read still
            cases found.symm.trans read
            exact absurd still active

end Resolving

/-! ## A bearer string that raises something else -/

namespace Scenario

/-- A string that a header can carry: its characters are all in Latin-1. -/
def latin : String := "t\u00f6ken"

end Scenario

end Keyring

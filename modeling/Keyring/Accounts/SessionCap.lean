import Keyring.Relational.Trim
import Keyring.Accounts.SessionSteps
import Keyring.Scenario

/-!
# Which session a full account loses

A login stores its session and trims the account to the cap in one transaction.
The sessions are ordered by the instant that each login read, and so the one that
goes can be the one that came.
-/

set_option autoImplicit false

namespace Keyring

open Interleave Relational

variable {env : Env}

/-! ## The order of the sessions -/

/-- `ORDER BY created_at DESC, session_id DESC`. -/
abbrev Session.newestFirst (a b : Session) : Prop := Session.before b a = true

/-- `row` was created after `session`, or at the same instant with a larger id. -/
def Session.newerThan (row session : Session) : Bool :=
  session.createdAt < row.createdAt ||
    (session.createdAt = row.createdAt && session.sessionId < row.sessionId)

theorem Session.before_iff {a b : Session} : Session.before a b = true ↔
    a.createdAt < b.createdAt ∨ a.createdAt = b.createdAt ∧ a.sessionId ≤ b.sessionId := by
  simp [Session.before]

instance : Std.Total Session.newestFirst := by
  constructor
  intro a b
  rw [Session.newestFirst, Session.newestFirst, Session.before_iff, Session.before_iff]
  rcases lt_trichotomy a.createdAt b.createdAt with first | same | second
  · exact Or.inr (Or.inl first)
  · rcases String.le_total a.sessionId b.sessionId with first | second
    · exact Or.inr (Or.inr ⟨same, first⟩)
    · exact Or.inl (Or.inr ⟨same.symm, second⟩)
  · exact Or.inl (Or.inl second)

instance : IsTrans Session Session.newestFirst := by
  constructor
  intro a b c
  rw [Session.newestFirst, Session.newestFirst, Session.newestFirst, Session.before_iff,
    Session.before_iff, Session.before_iff]
  rintro (first | ⟨same, first⟩) (second | ⟨same', second⟩)
  · exact Or.inl (second.trans first)
  · exact Or.inl (same' ▸ first)
  · exact Or.inl (same ▸ second)
  · exact Or.inr ⟨same'.trans same, String.le_trans second first⟩

theorem Session.newestFirst_antisymm (a b : Session) (ab : a.newestFirst b) (ba : b.newestFirst a) :
    a.sessionId = b.sessionId := by
  rw [Session.newestFirst, Session.before_iff] at ab ba
  rcases ab with first | ⟨same, first⟩ <;> rcases ba with second | ⟨same', second⟩
  · exact absurd first second.not_gt
  · exact absurd same' first.ne'
  · exact absurd same second.ne'
  · exact String.le_antisymm second first

/-- Among sessions with different ids, what is ahead is newer. -/
theorem Session.ahead_eq {session row : Session} (other : row.sessionId ≠ session.sessionId) :
    ahead (·.sessionId) Session.newestFirst session row = row.newerThan session := by
  rw [Bool.eq_iff_iff]
  simp only [ahead, Session.newestFirst, Bool.and_eq_true, decide_eq_true_eq, Session.before_iff,
    Session.newerThan, Bool.or_eq_true]
  constructor
  · rintro ⟨later | ⟨same, larger⟩, -⟩
    · exact Or.inl later
    · right
      refine ⟨same, String.not_le.mp fun smaller => ?_⟩
      exact other (String.le_antisymm smaller larger)
  · rintro (later | ⟨same, larger⟩)
    · exact ⟨Or.inl later, other⟩
    · exact ⟨Or.inr ⟨same, String.not_lt.mp (String.lt_asymm larger)⟩, other⟩

/-! ## One login -/

/-- The account's sessions that a new one would stand behind. -/
def newerSessions (db : Db) (session : Session) : Nat :=
  db.sessions.countWhere fun row => row.accountId = session.accountId && row.newerThan session

/-- What is claimed of storing `session` in `db`, which dropped so many rows and left
`db'` behind. -/
structure KeepsNewcomer (db : Db) (session : Session) (cap dropped : Nat) (db' : Db) : Prop where
  capped : db'.sessions.countWhere (·.accountId = session.accountId) ≤ cap
  newcomer : session ∈ db'.sessions
  oldest : ∀ row, row ∈ db.sessions ∨ row = session → row ∉ db'.sessions →
    ∀ other ∈ db'.sessions, other.accountId = session.accountId → other ≠ session →
      row.createdAt ≤ other.createdAt
  excess : dropped = db.sessions.countWhere (·.accountId = session.accountId) + 1 - cap ∧
    db'.sessions.countWhere (·.accountId = session.accountId) + dropped =
      db.sessions.countWhere (·.accountId = session.accountId) + 1
  others : db' = { db with sessions := db'.sessions } ∧
    ∀ row, row.accountId ≠ session.accountId → (row ∈ db'.sessions ↔ row ∈ db.sessions)

/-- The session is stored, and none of the account's is newer. -/
def StoredAsNewest (db : Db) (session : Session) : Prop :=
  session ∈ db.sessions ∧ newerSessions db session = 0

section Login

variable {db db' : Db} {session : Session} {cap dropped : Nat}

theorem SessionOp.addWithinCap_trims
    (committed : (addWithinCap session cap).run.run db = .ok (dropped, db')) :
    ∃ table, db.sessions.insert? session = some table ∧
      db' = { db with
        sessions := table.trim (·.accountId = session.accountId) Session.newestFirst cap } ∧
      dropped = table.countWhere (·.accountId = session.accountId) - cap := by
  simp only [run, StateT.run_bind] at committed
  cases inserted : (insertSession session).run db with
  | error e => rw [inserted] at committed; cases committed
  | ok r =>
      obtain ⟨u, mid⟩ := r
      rw [inserted] at committed
      obtain ⟨-, table, stored, rfl⟩ := insertSession_ok inserted
      cases committed
      exact ⟨table, stored, rfl, Table.countWhere_dropped⟩

theorem countWhere_ahead {table : Table Session.sessionId}
    (stored : db.sessions.insert? session = some table) :
    (table.countWhere fun row => decide (row.accountId = session.accountId) &&
      ahead (·.sessionId) Session.newestFirst session row) = newerSessions db session := by
  have fresh := Table.find?_of_insert? stored
  have itself : ahead (·.sessionId) Session.newestFirst session session = false := by simp [ahead]
  rw [Table.countWhere_insert? stored, itself, Bool.and_false, if_neg Bool.false_ne_true,
    Nat.add_zero, newerSessions]
  apply List.countP_congr
  intro row inside
  rw [Session.ahead_eq (Table.find?_eq_none.mp fresh row inside)]

theorem newcomer_iff (committed : (SessionOp.addWithinCap session cap).run.run db = .ok (dropped, db')) :
    session ∈ db'.sessions ↔ newerSessions db session < cap := by
  obtain ⟨table, stored, rfl, -⟩ := SessionOp.addWithinCap_trims committed
  have inside : session ∈ table := (Table.mem_insert? stored).mpr (Or.inr rfl)
  rw [Table.mem_trim_iff Session.newestFirst_antisymm inside (decide_eq_true rfl),
    countWhere_ahead stored]

/-- All but the newcomer's place holds of every login. -/
theorem keepsNewcomer_iff
    (committed : (SessionOp.addWithinCap session cap).run.run db = .ok (dropped, db')) :
    KeepsNewcomer db session cap dropped db' ↔ newerSessions db session < cap := by
  rw [← newcomer_iff committed]
  refine ⟨fun keeps => keeps.newcomer, fun newcomer => ?_⟩
  obtain ⟨table, stored, rfl, rfl⟩ := SessionOp.addWithinCap_trims committed
  have counted : table.countWhere (·.accountId = session.accountId) =
      db.sessions.countWhere (·.accountId = session.accountId) + 1 := by
    rw [Table.countWhere_insert? stored, if_pos (decide_eq_true rfl)]
  refine ⟨?_, newcomer, ?_, ?_, rfl, ?_⟩
  · rw [Table.countWhere_trim]
    omega
  · intro row source gone other kept owned _
    have first : Session.newestFirst other row :=
      Table.trim_before ((Table.mem_insert? stored).mpr source) gone kept (decide_eq_true owned)
    rcases Session.before_iff.mp first with earlier | ⟨same, -⟩
    · exact earlier.le
    · exact same.le
  · rw [Table.countWhere_trim, counted]
    constructor <;> omega
  · intro row foreign
    have stays : row ∈ table.trim (·.accountId = session.accountId) Session.newestFirst cap ↔
        row ∈ table := Table.mem_trim_outside (decide_eq_false foreign)
    refine stays.trans ((Table.mem_insert? stored).trans (or_iff_left ?_))
    rintro rfl
    exact foreign rfl

theorem newerSessions_eq_zero {db : Db} {session : Session} : newerSessions db session = 0 ↔
    ∀ row ∈ db.sessions, row.accountId = session.accountId → row.newerThan session = false := by
  rw [newerSessions, Table.countWhere, List.countP_eq_zero]
  simp [Table.mem_def]

theorem Session.newerThan_irrefl (session : Session) : session.newerThan session = false := by
  simp [Session.newerThan]

theorem Session.not_newer_of_before {row session : Session} (behind : session.newestFirst row) :
    row.newerThan session = false := by
  rw [Session.newestFirst, Session.before_iff] at behind
  simp only [Session.newerThan, Bool.or_eq_false_iff, Bool.and_eq_false_imp, decide_eq_true_eq,
    decide_eq_false_iff_not]
  rcases behind with earlier | ⟨same, smaller⟩
  · exact ⟨earlier.not_gt, fun same => absurd same earlier.ne'⟩
  · exact ⟨same.le.not_gt, fun _ => String.not_lt.mpr smaller⟩

theorem storedAsNewest_iff
    (committed : (SessionOp.addWithinCap session cap).run.run db = .ok (dropped, db')) :
    StoredAsNewest db' session ↔ 0 < cap ∧ newerSessions db session = 0 := by
  have kept := newcomer_iff committed
  obtain ⟨table, stored, rfl, -⟩ := SessionOp.addWithinCap_trims committed
  constructor
  · rintro ⟨newcomer, none_newer⟩
    refine ⟨Nat.zero_lt_of_lt (kept.mp newcomer), newerSessions_eq_zero.mpr ?_⟩
    intro row inside owned
    by_cases stays : row ∈ table.trim (·.accountId = session.accountId) Session.newestFirst cap
    · exact newerSessions_eq_zero.mp none_newer row stays owned
    · apply Session.not_newer_of_before
      exact Table.trim_before ((Table.mem_insert? stored).mpr (Or.inl inside)) stays newcomer
        (decide_eq_true rfl)
  · rintro ⟨positive, none_newer⟩
    refine ⟨kept.mpr (none_newer ▸ positive), newerSessions_eq_zero.mpr ?_⟩
    intro row stays owned
    rcases (Table.mem_insert? stored).mp (Table.mem_trim.mp stays).1 with old | rfl
    · exact newerSessions_eq_zero.mp none_newer row old owned
    · exact row.newerThan_irrefl

end Login

/-! ## Overlapping logins -/

namespace AccountService

theorem openSession_returned {account : Account} {now : Instant} {es : List (Event (machine env))}
    {result : LoginResult}
    (path : Path (openSession env account now) es (.done (.ok result))) :
    ∃ i session cap dropped s s', session.sessionId = result.sessionId ∧
      session.accountId = result.accountId ∧
      ⟨i, .sessions (.addWithinCap session cap), .ok dropped, s, s'⟩ ∈ es := by
  obtain ⟨preferences, es₁, es₂, rfl, -, drawing⟩ := path.bind_returned
  obtain ⟨_, token, _, _, rest, rfl, naming⟩ := ask_bind_returned drawing
  obtain ⟨_, hex, _, _, rest', rfl, ending⟩ := ask_bind_returned naming
  obtain ⟨expiresAt, -, capping⟩ := ofExcept_bind_returned ending
  obtain ⟨absoluteExpiresAt, -, storing⟩ := ofExcept_bind_returned capping
  obtain ⟨i, a, dropped, s, s', rest'', rfl, answered, ended⟩ := store_bind_returned storing
  obtain ⟨rfl, rfl⟩ := pure_returned ended
  cases answered
  exact ⟨i, _, _, dropped, s, s', rfl, rfl, by simp⟩

theorem login_returned {email password caller : String} {es : List (Event (machine env))}
    {result : LoginResult}
    (path : Path (login env email password caller) es (.done (.ok result))) :
    ∃ i session cap dropped s s', session.sessionId = result.sessionId ∧
      session.accountId = result.accountId ∧
      ⟨i, .sessions (.addWithinCap session cap), .ok dropped, s, s'⟩ ∈ es := by
  obtain ⟨_, limiting, rest, rfl, -, finding⟩ := path.bind_returned
  obtain ⟨found, lookup, rest₁, rfl, -, path₁⟩ := finding.bind_returned
  cases found with
  | none => exact (throw_returned path₁).elim
  | some account =>
      obtain ⟨_, now, _, _, rest₂, rfl, guarding⟩ := ask_bind_returned path₁
      obtain ⟨-, path₂⟩ := refuseIf_bind_returned guarding
      split at path₂
      · obtain ⟨copy, saving, rest₃, rfl, -, path₃⟩ := path₂.bind_returned
        obtain ⟨_, clearing, rest₄, rfl, -, opening⟩ := path₃.bind_returned
        obtain ⟨i, session, cap, dropped, s, s', named, owned, member⟩ := openSession_returned opening
        exact ⟨i, session, cap, dropped, s, s', named, owned, by simp [member]⟩
      · obtain ⟨_, -, saving⟩ := ofExcept_bind_returned path₂
        obtain ⟨_, _, rest₃, rfl, -, rejected⟩ := saving.bind_returned
        exact (throw_returned rejected).elim

end AccountService

/-- What is claimed of storing a session fails exactly when the account is full with
sessions that are newer.  The session that a returned login names was stored by one of
its steps, as the newest exactly when the account had none that is newer. -/
theorem session_cap (env : Env) (w : World) (calls : List Call) :
    (∀ (db db' : Db) (session : Session) (cap dropped : Nat),
      (SessionOp.addWithinCap session cap).run.run db = .ok (dropped, db') →
        (KeepsNewcomer db session cap dropped db' ↔ newerSessions db session < cap)) ∧
    ∀ (d : Config (machine env) Error Answer) (tr : List (Event (machine env))),
      Run (start env w calls) tr d →
      ∀ (i : Nat) (email password caller : String) (result : LoginResult),
        calls[i]? = some (.account (.login email password caller)) →
        d.pool[i]? = some (.done (.ok (.login result))) →
        ∃ session cap dropped s s', session.sessionId = result.sessionId ∧
          session.accountId = result.accountId ∧
          ⟨i, .sessions (.addWithinCap session cap), .ok dropped, s, s'⟩ ∈ tr ∧
          (StoredAsNewest s'.db session ↔ 0 < cap ∧ newerSessions s.db session = 0) := by
  refine ⟨fun db db' session cap dropped => keepsNewcomer_iff, ?_⟩
  intro d tr run i email password caller result called returned
  obtain ⟨q, here, path⟩ := path_of_run run i _ called
  rw [returned] at here
  cases here
  obtain ⟨p', inside, ended⟩ := returning_inv path
  obtain ⟨r, rfl, same⟩ := returning_done ended.symm
  cases r with
  | error e => cases same
  | ok result' =>
      cases same
      obtain ⟨j, session, cap, dropped, s, s', named, owned, member⟩ :=
        AccountService.login_returned inside
      obtain ⟨recorded, rfl⟩ := mem_ofThread.mp member
      refine ⟨session, cap, dropped, s, s', named, owned, recorded, ?_⟩
      obtain ⟨x, done⟩ := exec_of_run run recorded
      rcases onDb_cases done with ⟨v, same, committed⟩ | ⟨⟨e, impossible⟩, -⟩
      · cases same
        exact storedAsNewest_iff committed
      · cases impossible

/-! ## A login that loses its own session -/

namespace Scenario

/-- Bob logs in from two devices, and may have one session. -/
def twoLogins : List Call :=
  [.account (.login "bob@mail.org" "battery staple" "home"),
    .account (.login "bob@mail.org" "battery staple" "cafe")]

def oneSession (now : Instant) (drawn : String) : Input :=
  { given now drawn with
    preferences := .ok ⟨1209600, 7776000, 1, true, false, false, some false⟩ }

/-- The first login reads the clock, and the second is done before it stores. -/
def overlappingLogins :
    Config (machine deployment) Error Answer × List (Event (machine deployment)) :=
  (start deployment office twoLogins).play
    (List.replicate 4 (0, oneSession 5 "a") ++ List.replicate 12 (1, oneSession 6 "b") ++
      List.replicate 12 (0, oneSession 7 "a"))

/-- The session that a login which has returned names. -/
def sessionNamed : Option (Service env Answer) → Option String
  | some (.done (.ok (.login result))) => some result.sessionId
  | _ => none

theorem sessionNamed_some {found : Option (Service env Answer)} {sessionId : String}
    (named : sessionNamed found = some sessionId) :
    ∃ result : LoginResult, found = some (.done (.ok (.login result))) ∧
      result.sessionId = sessionId := by
  unfold sessionNamed at named
  split at named
  · rename_i result
    exact ⟨result, rfl, Option.some.inj named⟩
  · cases named

/-- A session was stored and is gone in the same step. -/
def losesItself : Event (machine env) → Bool
  | ⟨_, .sessions (.addWithinCap session _), .ok _, _, s'⟩ =>
      s'.db.sessions.rows.all (·.sessionId ≠ session.sessionId)
  | _ => false

end Scenario

open Scenario in
theorem session_cap_overlapping : ∃ result : LoginResult, result.sessionId = "sess_b" ∧
    ∃ session cap dropped s s', session.sessionId = result.sessionId ∧
      session.accountId = result.accountId ∧
      ⟨1, .sessions (.addWithinCap session cap), .ok dropped, s, s'⟩ ∈ overlappingLogins.2 ∧
      (StoredAsNewest s'.db session ↔ 0 < cap ∧ newerSessions s.db session = 0) := by
  have named : sessionNamed overlappingLogins.1.pool[1]? = some "sess_b" := by decide +kernel
  obtain ⟨result, returned, same⟩ := sessionNamed_some named
  exact ⟨result, same, (session_cap deployment office twoLogins).2 _ _ (Config.play_run _ _) 1
    "bob@mail.org" "battery staple" "cafe" result rfl returned⟩

open Scenario in
/-- Both logins have returned, and the session that the first one names is not stored. -/
theorem login_loses_own_session :
    Run (start deployment office twoLogins) overlappingLogins.2 overlappingLogins.1 ∧
      sessionNamed overlappingLogins.1.pool[0]? = some "sess_a" ∧
      sessionNamed overlappingLogins.1.pool[1]? = some "sess_b" ∧
      (∀ row ∈ overlappingLogins.1.state.db.sessions, row.sessionId ≠ "sess_a") ∧
      ∃ session cap dropped s s',
        ⟨0, .sessions (.addWithinCap session cap), .ok dropped, s, s'⟩ ∈ overlappingLogins.2 ∧
          ¬KeepsNewcomer s.db session cap dropped s'.db := by
  have lost : ∃ e ∈ overlappingLogins.2, e.thread = 0 ∧ losesItself e = true := by decide +kernel
  refine ⟨Config.play_run _ _, by decide +kernel, by decide +kernel, by decide +kernel, ?_⟩
  obtain ⟨⟨i, o, a, s, s'⟩, member, first, loses⟩ := lost
  unfold losesItself at loses
  split at loses
  · rename_i session cap dropped t t' same
    cases same
    cases first
    refine ⟨session, cap, dropped, s, s', member, fun keeps => ?_⟩
    have gone := List.all_eq_true.mp loses session keeps.newcomer
    simp at gone
  · cases loses

end Keyring

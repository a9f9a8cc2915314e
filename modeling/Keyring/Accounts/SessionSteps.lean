import Keyring.Core.Preferences
import Keyring.Draws
import Keyring.Runs
import Keyring.Writes

/-!
# What a step does to a session

A session is opened by a login with the choices that the login has read, and
touched by a request that has looked it up before.  Every other step keeps a
session as it is or removes it.
-/

set_option autoImplicit false

namespace Keyring

open Interleave Relational

variable {env : Env}

/-! ## Reads -/

/-- These choices are read. -/
inductive ReadsPreferences (preferences : Preferences) : Event (machine env) → Prop where
  | read {i : Nat} {accountId : String} {s s' : World} :
      ReadsPreferences preferences ⟨i, .preferences accountId, .ok preferences, s, s'⟩

inductive LooksUp (session : Session) (now : Instant) : Event (machine env) → Prop where
  | found {i : Nat} {tokenHash : String} {s s' : World} :
      LooksUp session now ⟨i, .sessions (.getByTokenHash tokenHash now), .ok (some session), s, s'⟩

/-- A session with the lifetimes that were chosen. -/
structure Session.Opened (session : Session) (preferences : Preferences) : Prop where
  expires : session.expiresAt = session.createdAt + seconds preferences.sessionTtlSeconds
  ends : session.absoluteExpiresAt =
    session.createdAt + seconds preferences.sessionAbsoluteTtlSeconds

/-! ## The requests that write sessions -/

def Op.opens : Op → Prop
  | .sessions (.addWithinCap _ _) => True
  | _ => False

theorem Op.quiet.opens_not {o : Op} (quiet : o.quiet) : ¬ o.opens := by
  cases o with
  | sessions o => cases o <;> first | exact id | exact quiet.elim
  | _ => exact id

theorem preferencesFor_returned {accountId : String} {es : List (Event (machine env))}
    {preferences : Preferences}
    (path : Path (preferencesFor accountId : Service env Preferences) es (.done (.ok preferences))) :
    ∃ e ∈ es, ReadsPreferences preferences e := by
  obtain ⟨i, answered, s, s', rest, rfl, final⟩ := ask_bind_returned path
  cases answered with
  | ok read =>
      obtain ⟨-, rfl⟩ := pure_returned final
      exact ⟨_, List.mem_cons_self .., .read⟩
  | error message => exact (throw_returned final).elim

namespace AccountService

theorem openSession_calling {account : Account} {now : Instant}
    {es : List (Event (machine env))} {session : Session} {cap : Nat}
    {next : Except Error Nat → Service env LoginResult}
    (path : Path (openSession env account now) es
      (.call (.sessions (.addWithinCap session cap)) next)) :
    ∃ preferences, (∃ e ∈ es, ReadsPreferences preferences e) ∧ session.Opened preferences ∧
      cap = preferences.maxSessions := by
  have asking : (preferencesFor account.accountId : Service env Preferences).Uses
      fun (o : Op) => ¬ o.opens := preferencesFor_uses id
  obtain ⟨preferences, es₁, es₂, rfl, asked, drawing⟩ := path.bind_beyond asking fun n => n trivial
  obtain ⟨e, member, read⟩ := preferencesFor_returned asked
  obtain ⟨_, token, _, _, _, rfl, naming⟩ := ask_bind_calling drawing (by simp)
  obtain ⟨_, hex, _, _, _, rfl, ending⟩ := ask_bind_calling naming (by simp)
  obtain ⟨expiresAt, expires, capping⟩ := ofExcept_bind_calling ending
  obtain ⟨absoluteExpiresAt, ends, storing⟩ := ofExcept_bind_calling capping
  obtain ⟨-, rfl⟩ := datetimeAdd_eq_ok.mp expires
  obtain ⟨-, rfl⟩ := datetimeAdd_eq_ok.mp ends
  rcases storing.call_inv with ⟨-, here⟩ | ⟨_, _, _, _, _, rfl, stored⟩
  · cases here
    exact ⟨preferences, ⟨e, List.mem_append_left _ member, read⟩, ⟨rfl, rfl⟩, rfl⟩
  · rcases done_bind_inv stored with ⟨_, -, -, impossible⟩ | ⟨_, -, final⟩
    · cases impossible
    · exact (done_calling final).elim

theorem login_calling {email password caller : String} {es : List (Event (machine env))}
    {session : Session} {cap : Nat} {next : Except Error Nat → Service env LoginResult}
    (path : Path (login env email password caller) es
      (.call (.sessions (.addWithinCap session cap)) next)) :
    ∃ preferences, (∃ e ∈ es, ReadsPreferences preferences e) ∧ session.Opened preferences ∧
      cap = preferences.maxSessions := by
  have quiet : ∀ o : Op, o.quiet → ¬ o.opens := fun _ quiet => quiet.opens_not
  have other : ¬ ¬ Op.opens (.sessions (.addWithinCap session cap)) := fun n => n trivial
  have limits : (checkLimit scopeLogin caller env.settings.loginAttempts
      env.settings.loginWindowSeconds : Service env Unit).Uses fun (o : Op) => ¬ o.opens :=
    checkLimit_uses (fun _ limits => limits.quiet.opens_not) _ _ _ _
  obtain ⟨_, es₁, es₂, rfl, -, finding⟩ := path.bind_beyond limits other
  obtain ⟨found, es₃, es₄, rfl, -, path₁⟩ :=
    finding.bind_beyond (findForLogin_writes (modest_of_quiet quiet) email) other
  cases found with
  | none => exact (done_calling path₁).elim
  | some account =>
      obtain ⟨_, now, _, _, rest, rfl, guarding⟩ := ask_bind_calling path₁ (by simp)
      obtain ⟨-, path₂⟩ := refuseIf_bind_calling guarding
      split at path₂
      · obtain ⟨copy, es₅, es₆, rfl, -, path₃⟩ :=
          path₂.bind_beyond (acceptLogin_writes (modest_of_quiet quiet) (fun _ _ => id) password now) other
        obtain ⟨_, _, _, _, es₇, rfl, opening⟩ := ask_bind_calling path₃ (by simp)
        obtain ⟨preferences, ⟨e, member, read⟩, opened⟩ := openSession_calling opening
        exact ⟨preferences, ⟨e, by simp [member], read⟩, opened⟩
      · have rejecting : (rejectPassword env account now : Service env LoginResult).Uses
            fun (o : Op) => ¬ o.opens := rejectPassword_uses (fun _ _ => id) now
        exact (path₂.never rejecting other).elim

/-- What is saved was looked up, and keeps its ceiling. -/
theorem resolveSession_calling {token : String} {es : List (Event (machine env))} {copy : Session}
    {next : Except Error Unit → Service env Session}
    (path : Path (resolveSession env token) es (.call (.sessions (.save copy)) next)) :
    ∃ session now instant idle, (∃ e ∈ es, LooksUp session now e) ∧
      session.touched instant idle none = .ok copy := by
  obtain ⟨_, now, _, _, rest, rfl, looking⟩ := ask_bind_calling path (by simp)
  obtain ⟨_, _, found, _, _, rest', rfl, rfl, path₁⟩ := store_bind_calling looking (by simp)
  cases found with
  | none => exact (done_calling path₁).elim
  | some session =>
      obtain ⟨_, _, present, _, _, rest'', rfl, rfl, path₂⟩ := store_bind_calling path₁ (by simp)
      cases present with
      | none => exact (done_calling path₂).elim
      | some account =>
          obtain ⟨-, path₃⟩ := refuseIf_bind_calling path₂
          obtain ⟨_, instant, _, _, es₁, rfl, touching⟩ := ask_bind_calling path₃ (by simp)
          obtain ⟨refreshed, touched, saving⟩ := ofExcept_bind_calling touching
          rcases saving.call_inv with ⟨-, here⟩ | ⟨_, _, _, _, _, rfl, saved⟩
          · cases here
            exact ⟨session, now, instant, _, ⟨_, List.mem_cons_of_mem _ (List.mem_cons_self ..), .found⟩,
              touched⟩
          · rcases done_bind_inv saved with ⟨_, -, -, impossible⟩ | ⟨_, -, final⟩
            · cases impossible
            · exact (done_calling final).elim

end AccountService

theorem Call.writes_opens {c : Call} {session : Session} {cap : Nat}
    (writes : c.writes (.sessions (.addWithinCap session cap))) :
    ∃ email password caller, c = .account (.login email password caller) := by
  cases c with
  | account c =>
      cases c with
      | login email password caller => exact ⟨email, password, caller, rfl⟩
      | _ => exact absurd writes id
  | change c =>
      cases c with
      | storeDirect => rcases writes with sent | stored <;> contradiction
      | removeConnection => rcases writes with sent | stored <;> contradiction
      | removeProfile => rcases writes with sent | stored <;> contradiction
      | _ => exact absurd writes id
  | exchange => exact absurd writes id
  | admin _ c | credential c | delegation c | internal _ _ c =>
      cases c <;> exact absurd writes id

theorem Call.writes_saves {c : Call} {copy : Session} (writes : c.writes (.sessions (.save copy))) :
    ∃ token, c = .account (.resolveSession token) := by
  cases c with
  | account c =>
      cases c with
      | resolveSession token => exact ⟨token, rfl⟩
      | _ => exact absurd writes id
  | change c =>
      cases c with
      | storeDirect => rcases writes with sent | stored <;> contradiction
      | removeConnection => rcases writes with sent | stored <;> contradiction
      | removeProfile => rcases writes with sent | stored <;> contradiction
      | _ => exact absurd writes id
  | exchange => exact absurd writes id
  | admin _ c | credential c | delegation c | internal _ _ c =>
      cases c <;> exact absurd writes id

section Runs

variable {w : World} {calls : List Call} {d : Config (machine env) Error Answer}
  {early late : List (Event (machine env))} {e : Event (machine env)}

theorem opened_of_run (run : Run (start env w calls) (early ++ e :: late) d) {session : Session}
    {cap : Nat} (opens : e.op = .sessions (.addWithinCap session cap)) :
    ∃ preferences, (∃ e' ∈ early, ReadsPreferences preferences e') ∧ session.Opened preferences ∧
      cap = preferences.maxSessions := by
  obtain ⟨c, found, wrote⟩ := writes_of_run run (e := e) (by simp)
  have here : (start env w calls).pool[e.thread]? = some (c.prog env) := by simp [start, found]
  obtain ⟨next, path⟩ := run.at_event here
  obtain ⟨i, o, a, s, s'⟩ := e
  cases opens
  rcases wrote with idle | wrote
  · exact absurd idle id
  obtain ⟨email, password, caller, rfl⟩ := Call.writes_opens wrote
  obtain ⟨next', inside⟩ := returning_calling path
  obtain ⟨preferences, ⟨e', member, read⟩, opened⟩ := AccountService.login_calling inside
  exact ⟨preferences, ⟨e', (mem_ofThread.mp member).1, read⟩, opened⟩

theorem saved_of_run (run : Run (start env w calls) (early ++ e :: late) d) {copy : Session}
    (saves : e.op = .sessions (.save copy)) :
    ∃ session now instant idle, (∃ e' ∈ early, LooksUp session now e') ∧
      session.touched instant idle none = .ok copy := by
  obtain ⟨c, found, wrote⟩ := writes_of_run run (e := e) (by simp)
  have here : (start env w calls).pool[e.thread]? = some (c.prog env) := by simp [start, found]
  obtain ⟨next, path⟩ := run.at_event here
  obtain ⟨i, o, a, s, s'⟩ := e
  cases saves
  rcases wrote with idle | wrote
  · exact absurd idle id
  obtain ⟨token, rfl⟩ := Call.writes_saves wrote
  obtain ⟨next', inside⟩ := returning_calling path
  obtain ⟨session, now, instant, idle, ⟨e', member, looked⟩, touched⟩ :=
    AccountService.resolveSession_calling inside
  exact ⟨session, now, instant, idle, ⟨e', (mem_ofThread.mp member).1, looked⟩, touched⟩

end Runs

/-! ## What one step does to the sessions -/

def Session.Unused (session : Session) (db : Db) : Prop :=
  ∀ row ∈ db.sessions, row.sessionId ≠ session.sessionId ∧ row.tokenHash ≠ session.tokenHash

/-- Where a session that is stored after a step comes from. -/
inductive Session.Stems (row : Session) (db : Db) : Op → Prop where
  | kept {o : Op} (stored : row ∈ db.sessions) : Session.Stems row db o
  | saved {copy old : Session} (stored : old ∈ db.sessions)
      (same : old.sessionId = copy.sessionId) (written : row = old.overwrite copy) :
      Session.Stems row db (.sessions (.save copy))
  | opened {cap : Nat} (unused : row.Unused db) :
      Session.Stems row db (.sessions (.addWithinCap row cap))

theorem insertSession_unused {session : Session} {db db' : Db} {u : Unit}
    (inserted : (insertSession session).run db = .ok (u, db')) : session.Unused db := by
  simp only [insertSession, StateT.run] at inserted
  split at inserted
  · cases inserted
  · rename_i free
    split at inserted
    · cases inserted
    · rename_i table stored
      obtain ⟨fresh, -⟩ := Table.insert?_eq_some.mp (insertRow_ok.mp stored)
      simp only [List.any_eq_true, decide_eq_true_eq, not_exists, not_and] at free
      intro row member
      refine ⟨fun same => fresh ?_, free row member⟩
      rw [← same]
      exact List.mem_map_of_mem member

theorem exec_sessions {o : Op} {a : o.Ans} {w w' : World} {x : Input}
    (done : exec env o x w = some (a, w')) (capped : o.capped env.settings) {row : Session}
    (stored : row ∈ w'.db.sessions) : row.Stems w.db o := by
  have elsewhere : (∀ so, o ≠ .sessions so) → row.Stems w.db o := by
    intro other
    rcases (exec_touches done).sessions other with same | ⟨accountId, gone⟩
    · rw [same] at stored
      exact .kept stored
    · rw [gone] at stored
      exact .kept (Table.mem_deleteWhere.mp stored).1
  cases o with
  | sessions o =>
      rcases onDb_cases done with ⟨v, -, committed⟩ | ⟨-, same⟩
      · cases o with
        | add session => exact absurd capped id
        | save copy =>
            have after := congrArg (fun r => r.2.sessions) (Except.ok.inj committed)
            change _ = w'.db.sessions at after
            rw [← after] at stored
            obtain ⟨old, before, rfl⟩ :=
              (Table.mem_updateWhere (·.overwrite_sessionId copy)).mp stored
            split
            · rename_i same
              exact .saved before (by simpa using same) rfl
            · exact .kept before
        | addWithinCap session cap =>
            obtain ⟨u, mid, inserted, trimmed⟩ := SessionOp.addWithinCap_committed committed
            obtain ⟨-, table, added, rfl⟩ := insertSession_ok inserted
            rw [trimmed] at stored
            rcases (Table.mem_insert? added).mp (Table.mem_deleteWhere.mp stored).1 with old | rfl
            · exact .kept old
            · exact .opened (insertSession_unused inserted)
        | getByTokenHash tokenHash now | countForAccount accountId now =>
            have after := congrArg (fun r => r.2.sessions) (Except.ok.inj committed)
            change _ = w'.db.sessions at after
            rw [← after] at stored
            exact .kept stored
        | revoke _ | revokeAll _ _ | dropOldest _ | purgeExpired _ =>
            have after := congrArg (fun r => r.2.sessions) (Except.ok.inj committed)
            change _ = w'.db.sessions at after
            rw [← after] at stored
            exact .kept (Table.mem_deleteWhere.mp stored).1
      · rw [same] at stored
        exact .kept stored
  | _ => exact elsewhere fun _ => Op.noConfusion

end Keyring

import Keyring.Accounts.SessionLifetime

/-!
# Caps

Profiles and connections are refused past their cap, sessions are trimmed to it,
and offline grants are counted by the clock reading that the caller brings.  Each
count is taken in the transaction that adds the row, so that the caps hold for any
number of callers.
-/

set_option autoImplicit false

namespace Keyring

open Interleave Relational

variable {env : Env}

/-! ## What is counted -/

namespace Db

def profilesHeld (db : Db) (accountId : String) : Nat :=
  db.profiles.countWhere (·.accountId = accountId)

def connectionsHeld (db : Db) (accountId name : String) : Nat :=
  db.connections.countWhere fun row => row.accountId = accountId && row.profileName = name

def sessionsHeld (db : Db) (accountId : String) : Nat :=
  db.sessions.countWhere (·.accountId = accountId)

/-- The offline grants of a profile that are neither revoked nor expired. -/
def grantsLive (db : Db) (accountId profile : String) (now : Instant) : Nat :=
  db.offlineGrants.countWhere fun row =>
    row.accountId = accountId && row.profile = profile &&
      row.revokedAt.isNone && row.expiresAt > now

end Db

/-- Every count is inside its cap, and the grants stay so while the clock goes on. -/
structure WithinCaps (settings : Settings) (w : World) : Prop where
  profiles : ∀ accountId, w.db.profilesHeld accountId ≤ settings.maxProfilesPerAccount
  connections : ∀ accountId name,
    w.db.connectionsHeld accountId name ≤ settings.maxConnectionsPerProfile
  sessions : ∀ accountId, w.db.sessionsHeld accountId ≤ settings.maxSessionsPerAccount
  grants : ∀ accountId profile now, w.clock ≤ now →
    w.db.grantsLive accountId profile now ≤ settings.maxOfflineGrantsPerProfile

theorem Db.grantsLive_anti (db : Db) (accountId profile : String) {now later : Instant}
    (le : now ≤ later) : db.grantsLive accountId profile later ≤ db.grantsLive accountId profile now := by
  apply Table.countWhere_mono
  intro row _ live
  simp only [Bool.and_eq_true, decide_eq_true_eq] at live ⊢
  exact ⟨live.1, lt_of_le_of_lt le live.2⟩

/-! ## What a transaction does to the counts -/

section Transactions

variable {db db' : Db} {text : Text}

theorem Db.deleteAccount_counts (db : Db) (gone accountId name : String) (now : Instant) :
    (db.deleteAccount gone).profilesHeld accountId ≤ db.profilesHeld accountId ∧
      (db.deleteAccount gone).connectionsHeld accountId name ≤ db.connectionsHeld accountId name ∧
      (db.deleteAccount gone).sessionsHeld accountId ≤ db.sessionsHeld accountId ∧
      (db.deleteAccount gone).grantsLive accountId name now ≤ db.grantsLive accountId name now := by
  refine ⟨?_, ?_, ?_, ?_⟩ <;> exact Table.countWhere_deleteWhere_le _ _ _

theorem touchProfile_profilesHeld (db : Db) (accountId name other : String) (now : Instant) :
    (touchProfile db accountId name now).profilesHeld other ≤ db.profilesHeld other :=
  Table.countWhere_updateWhere_le (·.touch_key now) fun _ => id

theorem ProfileOp.counts {o : ProfileOp} {a : o.Ans} {settings : Settings}
    (committed : (o.run text).run db = .ok (a, db'))
    (capped : Op.capped settings (.profiles o)) (accountId name : String) (now : Instant) :
    (db'.profilesHeld accountId ≤ db.profilesHeld accountId ∨
        db'.profilesHeld accountId ≤ settings.maxProfilesPerAccount) ∧
      (db'.connectionsHeld accountId name ≤ db.connectionsHeld accountId name ∨
        db'.connectionsHeld accountId name ≤ settings.maxConnectionsPerProfile) ∧
      db'.grantsLive accountId name now ≤ db.grantsLive accountId name now := by
  cases o with
  | add profile cap =>
      obtain ⟨rfl, bare⟩ := capped
      have room := add_counted committed
      obtain ⟨-, -, table, inserted, rfl⟩ := add_ok bare committed
      refine ⟨?_, Or.inl le_rfl, le_rfl⟩
      have counted := Table.countWhere_insert? (p := (·.accountId = accountId)) inserted
      simp only [Db.profilesHeld, counted]
      by_cases mine : profile.accountId = accountId
      · subst mine
        right
        rw [if_pos (decide_eq_true rfl)]
        exact room
      · left
        simp [mine]
  | putConnection holder holding connection cap now =>
      have capped : cap = settings.maxConnectionsPerProfile := capped
      subst capped
      have checked := (putConnection_ok committed).2
      have written := putConnection_committed committed
      refine ⟨Or.inl ?_, ?_, ?_⟩
      · rw [written]
        exact touchProfile_profilesHeld db holder holding accountId now
      · let new : Bool := (db.connections.find? (holder, holding, connection.service)).isNone &&
          (decide (holder = accountId) && decide (holding = name))
        have added : db'.connectionsHeld accountId name ≤
            db.connectionsHeld accountId name + if new then 1 else 0 := by
          rw [written]
          exact Table.countWhere_upsert_le (·.overwrite_key connection) fun _ => id
        -- only a connection that is not there yet is counted against the cap
        by_cases free : new = true
        · right
          rw [if_pos free] at added
          simp only [new, Bool.and_eq_true, decide_eq_true_eq] at free
          obtain ⟨free, rfl, rfl⟩ := free
          exact added.trans (checkConnectionCap_ok checked free)
        · left
          rwa [if_neg free] at added
      · rw [written]
        exact le_rfl
  | removeConnection holder holding service now =>
      change Except.ok (if _ then _ else _) = Except.ok _ at committed
      split at committed
      · cases committed
        refine ⟨Or.inl ?_, Or.inl ?_, le_rfl⟩
        · exact touchProfile_profilesHeld db holder holding accountId now
        · exact Table.countWhere_deleteWhere_le _ _ _
      · cases committed
        exact ⟨Or.inl le_rfl, Or.inl le_rfl, le_rfl⟩
  | delete holder holding =>
      rw [(delete_ok committed).2]
      refine ⟨Or.inl ?_, Or.inl ?_, ?_⟩ <;> exact Table.countWhere_deleteWhere_le _ _ _
  | get accountId name =>
      rw [(get_ok committed).2]
      exact ⟨Or.inl le_rfl, Or.inl le_rfl, le_rfl⟩
  | listForAccount _ | countForAccount _ | allProfiles =>
      cases committed
      exact ⟨Or.inl le_rfl, Or.inl le_rfl, le_rfl⟩

theorem SessionOp.counts {o : SessionOp} {a : o.Ans} {settings : Settings}
    (committed : o.run.run db = .ok (a, db')) (capped : Op.capped settings (.sessions o))
    (narrow : ∀ session cap, o = .addWithinCap session cap → cap ≤ settings.maxSessionsPerAccount)
    (accountId : String) :
    db'.sessionsHeld accountId ≤ db.sessionsHeld accountId ∨
      db'.sessionsHeld accountId ≤ settings.maxSessionsPerAccount := by
  cases o with
  | add session => exact capped.elim
  | getByTokenHash _ _ | countForAccount _ _ =>
      cases committed
      exact Or.inl le_rfl
  | save session =>
      cases committed
      exact Or.inl (Table.countWhere_updateWhere_le (·.overwrite_sessionId session) fun _ => id)
  | addWithinCap session cap =>
      obtain ⟨u, mid, inserted, trimmed⟩ := addWithinCap_committed committed
      obtain ⟨-, table, added, rfl⟩ := insertSession_ok inserted
      by_cases mine : session.accountId = accountId
      · right
        subst mine
        rw [trimmed]
        exact (Table.countWhere_trim_le table (·.accountId = session.accountId) _ cap).trans
          (narrow session cap rfl)
      · left
        have counted := Table.countWhere_insert? (p := (·.accountId = accountId)) added
        rw [if_neg (by simpa using mine)] at counted
        rw [trimmed]
        exact (Table.countWhere_deleteWhere_le table _ _).trans (le_of_eq counted)
  | revoke _ | revokeAll _ _ | dropOldest _ | purgeExpired _ =>
      cases committed
      exact Or.inl (Table.countWhere_deleteWhere_le _ _ _)

theorem DelegationOp.counts {o : DelegationOp} {a : o.Ans} {settings : Settings}
    (committed : o.run.run db = .ok (a, db')) (capped : Op.capped settings (.delegations o))
    (accountId profile : String) {now : Instant}
    (earlier : ∀ grant cap brought, o = .add grant cap brought → brought ≤ now) :
    db'.grantsLive accountId profile now ≤ db.grantsLive accountId profile now ∨
      db'.grantsLive accountId profile now ≤ settings.maxOfflineGrantsPerProfile := by
  cases o with
  | add grant cap brought =>
      have capped : cap = settings.maxOfflineGrantsPerProfile := capped
      subst capped
      have earlier := earlier grant _ brought rfl
      simp only [run, StateT.run] at committed
      split at committed
      · cases committed
      · split at committed
        · cases committed
        · rename_i room
          split at committed
          · cases committed
          · rename_i table inserted
            cases committed
            have counted := Table.countWhere_insert? (p := fun row =>
              row.accountId = accountId && row.profile = profile &&
                row.revokedAt.isNone && row.expiresAt > now) (insertRow_ok.mp inserted)
            by_cases mine : grant.accountId = accountId ∧ grant.profile = profile
            · right
              obtain ⟨rfl, rfl⟩ := mine
              have fewer := db.grantsLive_anti grant.accountId grant.profile earlier
              have room : db.grantsLive grant.accountId grant.profile brought < _ :=
                Nat.lt_of_not_ge room
              have one : (table.countWhere fun row =>
                  row.accountId = grant.accountId && row.profile = grant.profile &&
                    row.revokedAt.isNone && row.expiresAt > now) ≤
                  db.grantsLive grant.accountId grant.profile now + 1 := by
                rw [counted]
                apply Nat.add_le_add_left
                split <;> decide
              exact one.trans (Nat.lt_of_le_of_lt fewer room)
            · left
              rw [if_neg] at counted
              · exact le_of_eq counted
              · intro hit
                simp only [Bool.and_eq_true, decide_eq_true_eq] at hit
                exact mine ⟨hit.1.1.1, hit.1.1.2⟩
  | forExchange _ _ | listForProfile _ _ =>
      cases committed
      exact Or.inl le_rfl
  | revoke holder holding grantId stamp =>
      cases committed
      refine Or.inl (Table.countWhere_updateWhere_le (·.revoke_grantId stamp) fun row live => ?_)
      simp [OfflineGrant.revoke] at live

end Transactions

/-! ## What a step does to the counts -/

section Steps

variable {w w' : World} {o : Op} {a : o.Ans} {x : Input}

theorem exec_profilesHeld (done : exec env o x w = some (a, w')) (capped : o.capped env.settings)
    (accountId name : String) :
    (w'.db.profilesHeld accountId ≤ w.db.profilesHeld accountId ∨
        w'.db.profilesHeld accountId ≤ env.settings.maxProfilesPerAccount) ∧
      (w'.db.connectionsHeld accountId name ≤ w.db.connectionsHeld accountId name ∨
        w'.db.connectionsHeld accountId name ≤ env.settings.maxConnectionsPerProfile) := by
  by_cases own : ∃ po, o = .profiles po
  · obtain ⟨po, rfl⟩ := own
    rcases onDb_cases done with ⟨v, -, committed⟩ | ⟨-, same⟩
    · have counts := ProfileOp.counts committed capped accountId name 0
      exact ⟨counts.1, counts.2.1⟩
    · rw [same]
      exact ⟨Or.inl le_rfl, Or.inl le_rfl⟩
  · rcases (exec_touches done).profiles fun po same => own ⟨po, same⟩ with ⟨same, same'⟩ | ⟨gone, cut⟩
    · rw [Db.profilesHeld, Db.connectionsHeld, same, same']
      exact ⟨Or.inl le_rfl, Or.inl le_rfl⟩
    · have fewer := w.db.deleteAccount_counts gone accountId name 0
      rw [cut]
      exact ⟨Or.inl fewer.1, Or.inl fewer.2.1⟩

theorem exec_sessionsHeld (done : exec env o x w = some (a, w')) (capped : o.capped env.settings)
    (narrow : ∀ session cap, o = .sessions (.addWithinCap session cap) →
      cap ≤ env.settings.maxSessionsPerAccount) (accountId : String) :
    w'.db.sessionsHeld accountId ≤ w.db.sessionsHeld accountId ∨
      w'.db.sessionsHeld accountId ≤ env.settings.maxSessionsPerAccount := by
  by_cases own : ∃ so, o = .sessions so
  · obtain ⟨so, rfl⟩ := own
    rcases onDb_cases done with ⟨v, -, committed⟩ | ⟨-, same⟩
    · exact SessionOp.counts committed capped
        (fun session cap adds => narrow session cap (congrArg Op.sessions adds)) accountId
    · rw [same]
      exact Or.inl le_rfl
  · rcases (exec_touches done).sessions fun so same => own ⟨so, same⟩ with same | ⟨gone, cut⟩
    · rw [Db.sessionsHeld, same]
      exact Or.inl le_rfl
    · rw [cut]
      exact Or.inl (w.db.deleteAccount_counts gone accountId "" 0).2.2.1

theorem exec_grantsLive (done : exec env o x w = some (a, w')) (capped : o.capped env.settings)
    (accountId profile : String) {now : Instant}
    (earlier : ∀ grant cap brought, o = .delegations (.add grant cap brought) → brought ≤ now) :
    w'.db.grantsLive accountId profile now ≤ w.db.grantsLive accountId profile now ∨
      w'.db.grantsLive accountId profile now ≤ env.settings.maxOfflineGrantsPerProfile := by
  by_cases own : ∃ go, o = .delegations go
  · obtain ⟨go, rfl⟩ := own
    rcases onDb_cases done with ⟨v, -, committed⟩ | ⟨-, same⟩
    · exact DelegationOp.counts committed capped accountId profile
        fun grant cap brought adds => earlier grant cap brought (congrArg Op.delegations adds)
    · rw [same]
      exact Or.inl le_rfl
  by_cases kept : ∃ po, o = .profiles po
  · obtain ⟨po, rfl⟩ := kept
    rcases onDb_cases done with ⟨v, -, committed⟩ | ⟨-, same⟩
    · exact Or.inl (ProfileOp.counts committed capped accountId profile now).2.2
    · rw [same]
      exact Or.inl le_rfl
  · rcases (exec_touches done).offlineGrants (fun po same => kept ⟨po, same⟩)
      fun go same => own ⟨go, same⟩ with same | ⟨gone, cut⟩
    · rw [Db.grantsLive, same]
      exact Or.inl le_rfl
    · rw [cut]
      exact Or.inl (w.db.deleteAccount_counts gone accountId profile now).2.2.2

theorem le_of_or {n before cap : Nat} (within : before ≤ cap) (either : n ≤ before ∨ n ≤ cap) :
    n ≤ cap := by
  omega

theorem WithinCaps.exec (caps : WithinCaps env.settings w) (done : exec env o x w = some (a, w'))
    (steady : w.clock ≤ w'.clock) (capped : o.capped env.settings)
    (narrow : ∀ session cap, o = .sessions (.addWithinCap session cap) →
      cap ≤ env.settings.maxSessionsPerAccount)
    (earlier : ∀ grant cap brought, o = .delegations (.add grant cap brought) →
      brought ≤ w.clock) : WithinCaps env.settings w' where
  profiles accountId :=
    le_of_or (caps.profiles accountId) (exec_profilesHeld done capped accountId "").1
  connections accountId name :=
    le_of_or (caps.connections accountId name) (exec_profilesHeld done capped accountId name).2
  sessions accountId :=
    le_of_or (caps.sessions accountId) (exec_sessionsHeld done capped narrow accountId)
  grants accountId profile now shown := by
    apply le_of_or (caps.grants accountId profile now (steady.trans shown))
    apply exec_grantsLive done capped
    intro grant cap brought adds
    exact (earlier grant cap brought adds).trans (steady.trans shown)

end Steps

/-! ## The clock that a grant is counted by -/

/-- The clock shows this instant. -/
inductive ReadsClock (now : Instant) : Event (machine env) → Prop where
  | read {i : Nat} {s s' : World} : ReadsClock now ⟨i, .now, now, s, s'⟩

def Op.consents : Op → Prop
  | .delegations (.add _ _ _) => True
  | _ => False

theorem Op.quiet.consents_not {o : Op} (quiet : o.quiet) : ¬ o.consents := by
  cases o with
  | delegations o => cases o <;> first | exact id | exact quiet.elim
  | _ => exact id

theorem DelegationService.create_calling {accountId profile service : String}
    {audiences : List String} {ttlSeconds : Int} {createdBy : Option String}
    {es : List (Event (machine env))} {grant : OfflineGrant} {cap : Nat} {now : Instant}
    {next : Except Error Unit → Service env OfflineGrant}
    (path : Path (create env accountId profile service audiences ttlSeconds createdBy) es
      (.call (.delegations (.add grant cap now)) next)) : ∃ e ∈ es, ReadsClock now e := by
  have requiring : (requireProfile env accountId profile).Uses fun (o : Op) => ¬ o.consents :=
    requireProfile_writes (fun _ quiet => quiet.consents_not) _ _
  obtain ⟨_, es₁, es₂, rfl, -, allowing⟩ := path.bind_beyond requiring fun n => n trivial
  obtain ⟨_, -, reading⟩ := ofExcept_bind_calling allowing
  obtain ⟨i, shown, s, s', rest, rfl, naming⟩ := ask_bind_calling reading (by simp)
  obtain ⟨j, drawn, t, t', rest', rfl, storing⟩ := ask_bind_calling naming (by simp)
  have member : (⟨i, .now, shown, s, s'⟩ : Event (machine env)) ∈
      es₁ ++ ⟨i, .now, shown, s, s'⟩ :: ⟨j, .draw, drawn, t, t'⟩ :: rest' := by simp
  rcases storing.bind_calling with ⟨_, inside⟩ | ⟨_, es₃, es₄, -, -, recording⟩
  · rcases inside.call_inv with ⟨-, here⟩ | ⟨_, _, _, _, _, -, answered⟩
    · cases here
      exact ⟨_, member, .read⟩
    · exact (done_calling answered).elim
  · have quiet : ∀ detail, (record env .delegationCreated accountId (some accountId) detail).Uses
        fun (o : Op) => ¬ o.consents := fun detail =>
      record_writes (fun _ quiet => quiet.consents_not) (fun _ _ => id) .delegationCreated trivial _ _ _
    obtain ⟨_, _, _, -, -, final⟩ := recording.bind_beyond (quiet _) fun n => n trivial
    exact (done_calling final).elim

theorem Call.writes_consents {c : Call} {grant : OfflineGrant} {cap : Nat} {now : Instant}
    (writes : c.writes (.delegations (.add grant cap now))) :
    (∃ accountId profile service audiences ttlSeconds,
      c = .delegation (.create accountId profile service audiences ttlSeconds)) ∨
    ∃ service userToken name audiences ttlSeconds,
      c = .internal service userToken (.createGrant name audiences ttlSeconds) := by
  cases c with
  | delegation c =>
      cases c with
      | create accountId profile service audiences ttlSeconds =>
          exact Or.inl ⟨accountId, profile, service, audiences, ttlSeconds, rfl⟩
      | _ => exact absurd writes id
  | internal service userToken c =>
      cases c with
      | createGrant name audiences ttlSeconds =>
          exact Or.inr ⟨service, userToken, name, audiences, ttlSeconds, rfl⟩
      | _ => exact absurd writes id
  | change c =>
      cases c with
      | storeDirect => rcases writes with sent | stored <;> contradiction
      | removeConnection => rcases writes with sent | stored <;> contradiction
      | removeProfile => rcases writes with sent | stored <;> contradiction
      | _ => exact absurd writes id
  | exchange => exact absurd writes id
  | account c | admin _ c | credential c => cases c <;> exact absurd writes id

section Runs

variable {w : World} {calls : List Call} {d : Config (machine env) Error Answer}
  {early late : List (Event (machine env))} {e : Event (machine env)}

theorem consented_of_run (run : Run (start env w calls) (early ++ e :: late) d)
    {grant : OfflineGrant} {cap : Nat} {now : Instant}
    (adds : e.op = .delegations (.add grant cap now)) : ∃ e' ∈ early, ReadsClock now e' := by
  obtain ⟨c, found, wrote⟩ := writes_of_run run (e := e) (by simp)
  have here : (start env w calls).pool[e.thread]? = some (c.prog env) := by simp [start, found]
  obtain ⟨next, path⟩ := run.at_event here
  obtain ⟨i, o, a, s, s'⟩ := e
  cases adds
  rcases wrote with idle | wrote
  · exact absurd idle id
  rcases Call.writes_consents wrote with
    ⟨accountId, profile, service, audiences, ttlSeconds, rfl⟩ |
    ⟨service, userToken, name, audiences, ttlSeconds, rfl⟩
  · obtain ⟨next', inside⟩ := returning_calling path
    obtain ⟨e', member, read⟩ := DelegationService.create_calling inside
    exact ⟨e', (mem_ofThread.mp member).1, read⟩
  · have acting : (Internal.actingFor env service userToken).Uses
        fun (o : Op) => ¬ o.consents :=
      Internal.actingFor_writes (fun _ quiet => quiet.consents_not) _ _
    obtain ⟨accountId, es₁, es₂, split, -, path₁⟩ := path.bind_beyond acting fun n => n trivial
    obtain ⟨next', inside⟩ := returning_calling path₁
    obtain ⟨e', member, read⟩ := DelegationService.create_calling inside
    have own : e' ∈ ofThread i early := by
      rw [split]
      exact List.mem_append_right _ member
    exact ⟨e', (mem_ofThread.mp own).1, read⟩

theorem ReadsClock.le (run : Run (start env w calls) (early ++ e :: late) d)
    (steady : ∀ e' ∈ early ++ e :: late, e'.before.clock ≤ e'.after.clock) {now : Instant}
    {e' : Event (machine env)} (member : e' ∈ early) (reads : ReadsClock now e') :
    now ≤ e.before.clock := by
  obtain ⟨first, between, rfl⟩ := List.append_of_mem member
  obtain ⟨x, done⟩ := run.exec_eq e' (by simp)
  have shown : e'.after.clock = now := by
    obtain ⟨⟩ := reads
    rename_i i s s'
    have done : exec env .now x s = some (now, s') := done
    cases done
    rfl
  have split : (first ++ e' :: between) ++ e :: late = (first ++ [e']) ++ (between ++ e :: late) := by
    simp
  rw [split] at run steady
  have later := run.related_before (fun s t : World => s.clock ≤ t.clock) (fun _ => le_refl _)
    (fun one two => le_trans one two) steady e (by simp)
  rw [finalState_snoc, shown] at later
  exact later

/-- While the clock does not go back, every state of every run is inside the caps; and
a connection that is there is never refused for the cap. -/
theorem caps_hold {tr : List (Event (machine env))} (run : Run (start env w calls) tr d)
    (steady : ∀ e ∈ tr, e.before.clock ≤ e.after.clock) (chosen : PreferencesChosen env tr)
    (within : WithinCaps env.settings w) :
    (∀ s ∈ states w tr, WithinCaps env.settings s) ∧
      ∀ i accountId name connection cap now answer s s',
        (⟨i, .profiles (.putConnection accountId name connection cap now), answer, s, s'⟩ :
          Event (machine env)) ∈ tr →
        (s.db.connections.find? (accountId, name, connection.service)).isSome →
        ∀ message, answer ≠ .error (.limitExceeded message) := by
  constructor
  · apply run.always (fun s : World => WithinCaps env.settings s) within
    rintro early e late rfl before
    obtain ⟨x, done⟩ := run.exec_eq e (by simp)
    apply (before e (by simp)).exec done (steady e (by simp)) (capped_of_run run (by simp))
    · intro session cap opens
      obtain ⟨preferences, ⟨e', earlier, read⟩, -, rfl⟩ := opened_of_run run opens
      exact (chosen preferences e' (by simp [earlier]) read).within.sessions_le
    · intro grant cap brought adds
      obtain ⟨e', earlier, reads⟩ := consented_of_run run adds
      exact reads.le run steady earlier
  · intro i accountId name connection cap now answer s s' member there message refused
    subst refused
    obtain ⟨x, done⟩ := run.exec_eq _ member
    have done : onDb _ s = some (.error (.limitExceeded message), s') := done
    exact ProfileOp.putConnection_replaces there message
      (transact_error.mp (onDb_eq.mp done).1).1

end Runs

/-! ## A profile, a connection and a grant -/

namespace Scenario

def cappedCalls : List Call :=
  [.credential (.createProfile "bob" "home"), .delegation (.create "bob" "home" "lucy-api"
    ["user.home"] 60), .account (.login "bob@mail.org" "battery staple" "here")]

/-- The grant is made while Bob logs in. -/
def cappedRun : Config (machine deployment) Error Answer × List (Event (machine deployment)) :=
  (start deployment office cappedCalls).play
    (List.replicate 8 (0, given 1 "d0") ++ List.replicate 6 (2, given 2 "d1") ++
      List.replicate 8 (1, given 3 "d2") ++ List.replicate 4 (2, given 4 "d3"))

end Scenario

open Scenario in
theorem caps_hold_office :
    Run (start deployment office cappedCalls) cappedRun.2 cappedRun.1 ∧
      (∃ answer, cappedRun.1.pool[1]? = some (.done (.ok answer))) ∧
      ∀ s ∈ states office cappedRun.2, WithinCaps deployment.settings s := by
  have run : Run (start deployment office cappedCalls) cappedRun.2 cappedRun.1 :=
    Config.play_run _ _
  have chosen : PreferencesChosen deployment cappedRun.2 := by
    have read : ∀ preferences ∈ cappedRun.2.filterMap preferencesRead,
        preferences = deploymentPreferences deployment.settings := by decide +kernel
    intro preferences e member reads
    cases reads
    rw [read preferences (List.mem_filterMap.mpr ⟨_, member, rfl⟩)]
    exact Or.inl rfl
  refine ⟨run, returned_some (by decide +kernel), (caps_hold run ?_ chosen ?_).1⟩
  · decide +kernel
  · constructor
    · exact fun _ => Nat.zero_le _
    · exact fun _ _ => Nat.zero_le _
    · exact fun _ => Nat.zero_le _
    · exact fun _ _ _ _ => Nat.zero_le _

end Keyring

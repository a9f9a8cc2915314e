import Keyring.Accounts.SqlColumns

/-!
# The SQL conditions are the domain's predicates

A row of columns holds a session or a grant when its stamps are the columns of the
record's moments.  Conditions on the columns then decide what the predicates of the
domain decide, so the statements on columns do what the stores do to records.
-/

set_option autoImplicit false

namespace Keyring

open Relational

/-! ## Rows that hold records -/

structure SessionColumns.Holds (row : SessionColumns) (session : Session) : Prop where
  sessionId : row.sessionId = session.sessionId
  accountId : row.accountId = session.accountId
  tokenHash : row.tokenHash = session.tokenHash
  createdAt : stamp session.createdAt = .ok row.createdAt
  lastUsedAt : stamp session.lastUsedAt = .ok row.lastUsedAt
  expiresAt : stamp session.expiresAt = .ok row.expiresAt
  absoluteExpiresAt : stamp session.absoluteExpiresAt = .ok row.absoluteExpiresAt
  idleTtlSeconds : row.idleTtlSeconds = session.idleTtlSeconds

/-- Any integer but 0 is a set flag. -/
structure GrantColumns.Holds (row : GrantColumns) (grant : Grant) : Prop where
  grantId : row.grantId = grant.grantId
  purpose : row.purpose = Valued.value grant.purpose
  tokenHash : row.tokenHash = grant.tokenHash
  createdAt : stamp grant.createdAt = .ok row.createdAt
  expiresAt : stamp grant.expiresAt = .ok row.expiresAt
  email : row.email = grant.email
  accountId : row.accountId = grant.accountId
  redeemedAt : stampOptional grant.redeemedAt = .ok row.redeemedAt
  revoked : decide (row.revoked ≠ 0) = grant.revoked

/-- The tables of sessions and grants hold the records of the stores, and no two rows have
one token. -/
structure ColumnDb.Holds (columns : ColumnDb) (db : Db) : Prop where
  sessions : Represents SessionColumns.Holds columns.sessions db.sessions
  grants : Represents GrantColumns.Holds columns.grants db.grants
  sessionTokens : (columns.sessions.rows.map (·.tokenHash)).Nodup
  grantTokens : (columns.grants.rows.map (·.tokenHash)).Nodup

variable {text : Text} {row : SessionColumns} {session : Session} {grantRow : GrantColumns}
  {grant : Grant} {now : Instant} {column : String}

theorem Session.toColumns_holds (stored : session.toColumns = .ok row) : row.Holds session := by
  simp only [Session.toColumns, bind_eq_ok, pure_eq_ok] at stored
  obtain ⟨createdAt, created, lastUsedAt, used, expiresAt, expires, absoluteExpiresAt, absolute,
    idle, counted, rfl⟩ := stored
  exact ⟨rfl, rfl, rfl, created, used, expires, absolute, int64Optional_eq counted⟩

theorem Grant.toColumns_holds (stored : grant.toColumns = .ok grantRow) : grantRow.Holds grant := by
  simp only [Grant.toColumns, bind_eq_ok, pure_eq_ok] at stored
  obtain ⟨createdAt, created, expiresAt, expires, redeemedAt, redeemed, rfl⟩ := stored
  exact ⟨rfl, rfl, rfl, created, expires, rfl, rfl, redeemed, flagColumn_ne_zero _⟩

theorem SessionColumns.Holds.read (holds : row.Holds session) : row.read text = .ok session := by
  simp only [SessionColumns.read, columnInstant_stamp text holds.createdAt,
    columnInstant_stamp text holds.lastUsedAt, columnInstant_stamp text holds.expiresAt,
    columnInstant_stamp text holds.absoluteExpiresAt, ok_bind, holds.sessionId, holds.accountId,
    holds.tokenHash, holds.idleTtlSeconds]
  rfl

theorem GrantColumns.Holds.read (holds : grantRow.Holds grant) :
    grantRow.read text = .ok grant := by
  simp only [GrantColumns.read, holds.purpose, memberOf_value,
    columnInstant_stamp text holds.createdAt, columnInstant_stamp text holds.expiresAt,
    columnInstantOptional_stampOptional text holds.redeemedAt, ok_bind, holds.revoked,
    holds.grantId, holds.tokenHash, holds.email, holds.accountId]
  rfl

/-! ## Conditions -/

theorem stamp_le {s t : Instant} {a b : String} (first : stamp s = .ok a)
    (second : stamp t = .ok b) : a ≤ b ↔ s ≤ t := by
  have texts : a ≤ b ↔ ¬ b < a := String.not_lt.symm
  have instants : s ≤ t ↔ ¬ t < s := not_lt.symm
  rw [texts, instants, stamp_lt second first]

theorem SessionColumns.Holds.live (holds : row.Holds session) (at_ : stamp now = .ok column) :
    SqlSessionColumns.live column row = session.live now := by
  simp only [SqlSessionColumns.live, Session.live, gt_iff_lt, stamp_lt at_ holds.expiresAt,
    stamp_lt at_ holds.absoluteExpiresAt]

theorem SessionColumns.Holds.expired (holds : row.Holds session) (at_ : stamp now = .ok column) :
    SqlSessionColumns.expired column row =
      (decide (session.expiresAt ≤ now) || decide (session.absoluteExpiresAt ≤ now)) := by
  simp only [SqlSessionColumns.expired, stamp_le holds.expiresAt at_,
    stamp_le holds.absoluteExpiresAt at_]

theorem Session.live_eq (session : Session) (now : Instant) :
    session.live now = !session.isExpired now := by
  simp only [Session.live, Session.isExpired, ge_iff_le, Bool.not_or, gt_iff_lt]
  rw [← decide_not, ← decide_not]
  simp only [not_le]

theorem Session.expired_eq (session : Session) (now : Instant) :
    (decide (session.expiresAt ≤ now) || decide (session.absoluteExpiresAt ≤ now)) =
      session.isExpired now := rfl

theorem GrantColumns.Holds.redeems (holds : grantRow.Holds grant) (at_ : stamp now = .ok column)
    (tokenHash : String) :
    SqlGrantColumns.redeems tokenHash column grantRow = GrantOp.redeems tokenHash now grant := by
  have missing : grantRow.redeemedAt.isNone = grant.redeemedAt.isNone := by
    have same := holds.redeemedAt
    cases redeemed : grant.redeemedAt with
    | none =>
        rw [redeemed] at same
        rw [← Except.ok.inj same]
        rfl
    | some instant =>
        rw [redeemed] at same
        obtain ⟨raw, -, written⟩ := map_eq_ok.mp same
        rw [← written]
        rfl
  have flag : decide (grantRow.revoked = 0) = !grant.revoked := by
    rw [← holds.revoked, decide_not, Bool.not_not]
  simp only [SqlGrantColumns.redeems, GrantOp.redeems, missing, flag, holds.tokenHash, gt_iff_lt,
    stamp_lt at_ holds.expiresAt]

theorem GrantOp.redeems_eq (tokenHash : String) (now : Instant) (grant : Grant) :
    GrantOp.redeems tokenHash now grant = (decide (grant.tokenHash = tokenHash) &&
      grant.isRedeemable now) := by
  simp only [GrantOp.redeems, Grant.isRedeemable, gt_iff_lt, Bool.and_assoc]

theorem GrantColumns.Holds.redeemed (holds : grantRow.Holds grant) (at_ : stamp now = .ok column) :
    (SqlGrantColumns.redeemed column grantRow).Holds (grant.redeemed now) :=
  { holds with
    redeemedAt := by
      rw [Grant.redeemed, stampOptional, at_]
      rfl }

/-! ## The stores on columns and on records -/

section Simulation

variable {columns : ColumnDb} {db : Db} {tokenHash : String}

theorem ColumnDb.Holds.withSessions (holds : columns.Holds db)
    {sessions : Table SessionColumns.sessionId} {records : Table Session.sessionId}
    (rows : Represents SessionColumns.Holds sessions records)
    (kept : (sessions.rows.map (·.tokenHash)).Sublist (columns.sessions.rows.map (·.tokenHash))) :
    ColumnDb.Holds { columns with sessions := sessions } { db with sessions := records } :=
  { holds with sessions := rows, sessionTokens := holds.sessionTokens.sublist kept }

theorem ColumnDb.Holds.withGrants (holds : columns.Holds db)
    {grants : Table GrantColumns.grantId} {records : Table Grant.grantId}
    (rows : Represents GrantColumns.Holds grants records)
    (kept : (grants.rows.map (·.tokenHash)).Sublist (columns.grants.rows.map (·.tokenHash))) :
    ColumnDb.Holds { columns with grants := grants } { db with grants := records } :=
  { holds with grants := rows, grantTokens := holds.grantTokens.sublist kept }

theorem getSession_holds (holds : columns.Holds db) (at_ : stamp now = .ok column) :
    SqlSessionColumns.getByTokenHash text tokenHash now columns =
      .ok (db.sessions.rows.find? fun session => session.tokenHash = tokenHash && session.live now) := by
  have found := forall₂_find? holds.sessions
    (p := fun row => row.tokenHash = tokenHash && SqlSessionColumns.live column row)
    (q := fun session => session.tokenHash = tokenHash && session.live now)
    fun row session same => by rw [same.tokenHash, same.live at_]
  rw [SqlSessionColumns.getByTokenHash, at_, ok_bind]
  rcases found with ⟨none, none'⟩ | ⟨row, session, some, some', same⟩
  · rw [none, none']
    rfl
  · rw [some, some', Option.mapM_some, same.read]
    rfl

theorem purgeSessions_holds (holds : columns.Holds db) (at_ : stamp now = .ok column) :
    ∃ columns', (SqlSessionColumns.purgeExpired now).run columns =
        .ok (db.sessions.countWhere (·.isExpired now), columns') ∧
      columns'.Holds { db with sessions := db.sessions.deleteWhere (·.isExpired now) } := by
  have agree : ∀ row session, SessionColumns.Holds row session →
      SqlSessionColumns.expired column row = session.isExpired now := by
    intro row session same
    rw [same.expired at_, Session.expired_eq]
  refine ⟨{ columns with
    sessions := columns.sessions.deleteWhere (SqlSessionColumns.expired column) }, ?_, ?_⟩
  · simp only [SqlSessionColumns.purgeExpired, StateT.run, at_, holds.sessions.countWhere agree]
  · exact holds.withSessions (holds.sessions.deleteWhere agree)
      (List.filter_sublist.map SessionColumns.tokenHash)

theorem redeem_holds (text : Text) (tokenHash : String) (holds : columns.Holds db)
    (at_ : stamp now = .ok column) :
    ∃ columns', SqlGrantColumns.redeem text tokenHash now columns =
        (.ok ((db.grants.rows.find? (GrantOp.redeems tokenHash now)).map (·.redeemed now)), columns') ∧
      columns'.Holds { db with
        grants := db.grants.updateWhere (GrantOp.redeems tokenHash now) (·.redeemed now)
          (·.redeemed_grantId now) } := by
  have agree : ∀ row grant, GrantColumns.Holds row grant →
      SqlGrantColumns.redeems tokenHash column row = GrantOp.redeems tokenHash now grant :=
    fun row grant same => same.redeems at_ tokenHash
  have tokens : ∀ row, (SqlGrantColumns.redeemed column row).tokenHash = row.tokenHash :=
    fun row => rfl
  refine ⟨{ columns with
    grants := columns.grants.updateWhere (SqlGrantColumns.redeems tokenHash column)
      (SqlGrantColumns.redeemed column) (SqlGrantColumns.redeemed_grantId column) }, ?_, ?_⟩
  · have found := forall₂_find? holds.grants agree
    simp only [SqlGrantColumns.redeem, at_, commitColumns, SqlGrantColumns.redeemRow, StateT.run]
    rcases found with ⟨none, none'⟩ | ⟨row, grant, some, some', same⟩
    · rw [none, none']
      rfl
    · rw [some, some', Option.map_some, Option.map_some, Option.mapM_some,
        (same.redeemed at_).read]
      rfl
  · refine holds.withGrants
      (holds.grants.updateWhere agree fun row grant same => same.redeemed at_) ?_
    have same : ((columns.grants.updateWhere (SqlGrantColumns.redeems tokenHash column)
        (SqlGrantColumns.redeemed column) (SqlGrantColumns.redeemed_grantId column)).rows.map
          (·.tokenHash)) = columns.grants.rows.map (·.tokenHash) := by
      simp only [Table.updateWhere, List.map_map]
      apply List.map_congr_left
      intro row _
      simp only [Function.comp_apply]
      split
      · exact tokens row
      · rfl
    rw [same]

theorem purgeGrants_holds (holds : columns.Holds db) (at_ : stamp now = .ok column) :
    ∃ columns', (SqlGrantColumns.purgeExpired now).run columns =
        .ok (db.grants.countWhere (·.expiresAt ≤ now), columns') ∧
      columns'.Holds { db with grants := db.grants.deleteWhere (·.expiresAt ≤ now) } := by
  have agree : ∀ row grant, GrantColumns.Holds row grant →
      decide (row.expiresAt ≤ column) = decide (grant.expiresAt ≤ now) := by
    intro row grant same
    simp only [stamp_le same.expiresAt at_]
  refine ⟨{ columns with grants := columns.grants.deleteWhere (·.expiresAt ≤ column) }, ?_, ?_⟩
  · simp only [SqlGrantColumns.purgeExpired, StateT.run, at_, holds.grants.countWhere agree]
  · exact holds.withGrants (holds.grants.deleteWhere agree)
      (List.filter_sublist.map GrantColumns.tokenHash)

theorem ColumnDb.Holds.empty : ColumnDb.empty.Holds Db.empty where
  sessions := Represents.empty
  grants := Represents.empty
  sessionTokens := List.nodup_nil
  grantTokens := List.nodup_nil

theorem ColumnDb.Holds.tokens (holds : columns.Holds db) :
    (db.sessions.rows.map (·.tokenHash)).Nodup ∧ (db.grants.rows.map (·.tokenHash)).Nodup := by
  have sessions : columns.sessions.rows.map (·.tokenHash) = db.sessions.rows.map (·.tokenHash) := by
    rw [← List.forall₂_eq_eq_eq]
    exact List.rel_map (fun row session same => same.tokenHash) holds.sessions
  have grants : columns.grants.rows.map (·.tokenHash) = db.grants.rows.map (·.tokenHash) := by
    rw [← List.forall₂_eq_eq_eq]
    exact List.rel_map (fun row grant same => same.tokenHash) holds.grants
  exact ⟨sessions ▸ holds.sessionTokens, grants ▸ holds.grantTokens⟩

end Simulation

/-! ## The predicates decide -/

/-- With distinct tokens, a search for a token and a condition finds the one record with the
token exactly when it meets the condition. -/
theorem find?_token {α : Type} {records : List α} {token : α → String}
    (distinct : (records.map token).Nodup) (tokenHash : String) (p : α → Bool) (record : α) :
    records.find? (fun r => token r = tokenHash && p r) = some record ↔
      record ∈ records ∧ token record = tokenHash ∧ p record = true := by
  constructor
  · intro found
    have here := List.find?_some found
    simp only [Bool.and_eq_true, decide_eq_true_eq] at here
    exact ⟨List.mem_of_find?_eq_some found, here⟩
  · rintro ⟨stored, named, meets⟩
    cases found : records.find? fun r => token r = tokenHash && p r with
    | none =>
        have missed := List.find?_eq_none.mp found record stored
        simp [named, meets] at missed
    | some other =>
        have here := List.find?_some found
        simp only [Bool.and_eq_true, decide_eq_true_eq] at here
        exact congrArg some (List.inj_on_of_nodup_map distinct (List.mem_of_find?_eq_some found) stored
          (here.1.trans named.symm))

/-- What the statements decide on columns, the predicates of the domain decide on the
records that the tables hold. -/
theorem sqlConditions_eq_predicates (text : Text) {columns : ColumnDb} {db : Db}
    (holds : columns.Holds db) {now : Instant} (inside : Representable now) :
    (∀ tokenHash, ∃ found columns',
      SqlGrantColumns.redeem text tokenHash now columns = (.ok found, columns') ∧
        ∀ answer, found = some answer ↔ ∃ grant ∈ db.grants, grant.tokenHash = tokenHash ∧
          grant.isRedeemable now = true ∧ grant.redeemed now = answer) ∧
    (∀ tokenHash, ∃ found,
      SqlSessionColumns.getByTokenHash text tokenHash now columns = .ok found ∧
        ∀ session, found = some session ↔ session ∈ db.sessions ∧
          session.tokenHash = tokenHash ∧ session.isExpired now = false) ∧
    (∃ gone columns' db', (SqlSessionColumns.purgeExpired now).run columns = .ok (gone, columns') ∧
      columns'.Holds db' ∧ gone = db.sessions.countWhere (·.isExpired now) ∧
        ∀ session, session ∈ db'.sessions ↔
          session ∈ db.sessions ∧ session.isExpired now = false) ∧
    ∃ gone columns' db', (SqlGrantColumns.purgeExpired now).run columns = .ok (gone, columns') ∧
      columns'.Holds db' ∧ ∀ grant ∈ db.grants, grant.isRedeemable now = true →
        grant ∈ db'.grants := by
  obtain ⟨column, at_⟩ := stamp_isOk.mpr inside
  obtain ⟨sessionTokens, grantTokens⟩ := holds.tokens
  refine ⟨fun tokenHash => ?_, fun tokenHash => ?_, ?_, ?_⟩
  · obtain ⟨columns', redeemed, -⟩ := redeem_holds text tokenHash holds at_
    refine ⟨_, columns', redeemed, fun answer => ?_⟩
    have condition : GrantOp.redeems tokenHash now = fun grant =>
        decide (grant.tokenHash = tokenHash) && grant.isRedeemable now :=
      funext (GrantOp.redeems_eq tokenHash now)
    simp only [condition, Option.map_eq_some_iff,
      find?_token grantTokens tokenHash (·.isRedeemable now), and_assoc]
    rfl
  · refine ⟨_, getSession_holds holds at_, fun session => ?_⟩
    rw [find?_token sessionTokens tokenHash (·.live now)]
    simp only [Session.live_eq, Bool.not_eq_true', Table.mem_def]
  · obtain ⟨columns', purged, holds'⟩ := purgeSessions_holds holds at_
    exact ⟨_, columns', _, purged, holds', rfl, fun session => Table.mem_deleteWhere⟩
  · obtain ⟨columns', purged, holds'⟩ := purgeGrants_holds holds at_
    refine ⟨_, columns', _, purged, holds', fun grant stored redeemable => ?_⟩
    simp only [Grant.isRedeemable, Bool.and_eq_true, decide_eq_true_eq] at redeemable
    exact Table.mem_deleteWhere.mpr ⟨stored, decide_eq_false (not_le.mpr redeemable.2)⟩

/-- One session, used at the first second of 1970 and idle from the eleventh on. -/
def idleSession : Session := ⟨"sess_1", "acct_1", "token", 0, 1000000, 11000000, 60000000, some 10⟩

def idleSessionColumns : SessionColumns where
  sessionId := "sess_1"
  accountId := "acct_1"
  tokenHash := "token"
  createdAt := "1970-01-01T00:00:00.000000+00:00"
  lastUsedAt := "1970-01-01T00:00:01.000000+00:00"
  expiresAt := "1970-01-01T00:00:11.000000+00:00"
  absoluteExpiresAt := "1970-01-01T00:01:00.000000+00:00"
  idleTtlSeconds := some 10

/-- At the deadline itself the session is not found. -/
theorem sqlConditions_eq_predicates_deadline :
    let text : Text := ⟨id, fun _ => true, Char.isDigit, fun _ => none⟩
    let columns : ColumnDb := { ColumnDb.empty with sessions := ⟨[idleSessionColumns], by decide⟩ }
    let db : Db := { Db.empty with sessions := ⟨[idleSession], by decide⟩ }
    ∃ found, SqlSessionColumns.getByTokenHash text "token" 11000000 columns = .ok found ∧
      ∀ session, found = some session ↔ session ∈ db.sessions ∧
        session.tokenHash = "token" ∧ session.isExpired 11000000 = false :=
  (@sqlConditions_eq_predicates _
    { ColumnDb.empty with sessions := ⟨[idleSessionColumns], by decide⟩ }
    { Db.empty with sessions := ⟨[idleSession], by decide⟩ }
    { ColumnDb.Holds.empty with
      sessions := .cons ⟨rfl, rfl, rfl, rfl, rfl, rfl, rfl, rfl⟩ .nil
      sessionTokens := by decide }
    _ (by decide)).2.1 "token"

end Keyring

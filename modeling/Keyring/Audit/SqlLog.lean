import Keyring.Relational.Numbered
import Keyring.Secrets.Sql
import Keyring.Storage.Connection
import Keyring.Storage.Times

/-!
# The audit log is the end of its history

`audit/sql_log.py` on the shared connection.  A record inserts a row, which
`sqlite_sequence` numbers, and trims by the number in the same transaction; one
that raises at any point gives its number back.  So the numbers have no gap, and
what is held are the last entries that were committed.
-/

set_option autoImplicit false

namespace Keyring

open Relational Handle

/-- `INSERT INTO audit`. -/
def insertAudit (entry : AuditEntry) (db : Db) : Except Raised (Unit × Db) :=
  if db.audit.rows.any (·.entryId = entry.entryId) then
    .error (.error (uniqueFailed "audit.entry_id"))
  else
    let sequence := db.auditSequence + 1
    match insertRow db.audit { entry with sequence := sequence } "audit.sequence" with
    | .error e => .error (.error e)
    | .ok audit => .ok ((), { db with audit := audit, auditSequence := sequence })

/-- `DELETE FROM audit WHERE sequence <= (SELECT max(sequence) FROM audit) - ?`. -/
def trimAudit (maxEntries : Nat) (db : Db) : Except Raised (Unit × Db) :=
  .ok ((), match (db.audit.rows.map AuditRow.sequence).max? with
    -- the maximum of no rows is NULL, and so is the condition
    | none => db
    | some newest => { db with
        audit := db.audit.deleteWhere fun row => (row.sequence : Int) ≤ newest - maxEntries })

namespace SqlAuditLog

/-- What `record` submits.  The moment of the entry is spelled before the first statement. -/
def write (maxEntries : Nat) (entry : AuditEntry) : Work Unit Db Unit Raised Unit :=
  match stamp entry.at_ with
  | .error e => .done (.error (.error e))
  | .ok _ => .statement (onContent (insertAudit entry)) fun
    | .error e => .done (.error e)
    | .ok () => .statement (onContent (trimAudit maxEntries)) .done

def record (maxEntries : Nat) (faults : Faults) (entry : AuditEntry) (connection : Handle Unit Db) :
    Except Raised AuditEntry × Handle Unit Db :=
  match Database.transact faults (write maxEntries entry) connection with
  | (.error e, connection) => (.error e, connection)
  | (.ok (), connection) => (.ok entry, connection)

/-- Calls one after the other, and the entries that they returned. -/
def recordAll (maxEntries : Nat) :
    List (Faults × AuditEntry) → Handle Unit Db → List AuditEntry × Handle Unit Db
  | [], connection => ([], connection)
  | (faults, entry) :: calls, connection =>
    let (result, connection) := record maxEntries faults entry connection
    let (later, connection) := recordAll maxEntries calls connection
    (match result with
      | .error _ => later
      | .ok entry => entry :: later, connection)

def recent (maxEntries limit : Nat) (actorId : Option String) (connection : Handle Unit Db) :
    Except Raised (List AuditEntry) :=
  (Database.run ((workOf (AuditOp.run maxEntries (.recent limit actorId))).run []) connection).1

def count (maxEntries : Nat) (connection : Handle Unit Db) : Except Raised Nat :=
  (Database.run ((workOf (AuditOp.run maxEntries .count)).run []) connection).1

end SqlAuditLog

/-! ## What the table holds -/

/-- The table holds the end of the history, numbered up to the counter. -/
structure Recorded (maxEntries : Nat) (history : List AuditEntry) (db : Db) : Prop where
  entries : db.audit.rows.map (·.toAuditEntry) = history.rtake maxEntries
  numbered : ∃ first, 0 < first ∧ Consecutive AuditRow.sequence first db.audit.rows ∧
    db.auditSequence + 1 = first + db.audit.rows.length

namespace Recorded

variable {maxEntries : Nat} {history : List AuditEntry} {db db' : Db} {entry : AuditEntry}

theorem start (empty : db.audit.rows = []) : Recorded maxEntries [] db where
  entries := by simp [empty]
  numbered := ⟨db.auditSequence + 1, by omega, by simp [empty], by simp [empty]⟩

theorem sequence_le (held : Recorded maxEntries history db) :
    ∀ row ∈ db.audit.rows, row.sequence ≤ db.auditSequence := by
  obtain ⟨first, -, numbered, last⟩ := held.numbered
  intro row stored
  have bounds := numbered.mem_bounds stored
  omega

/-- The counter is ahead of every row, so its next value is free. -/
theorem insert_ok (held : Recorded maxEntries history db) :
    insertRow db.audit { entry with sequence := db.auditSequence + 1 } "audit.sequence" =
      .ok (db.audit.append { entry with sequence := db.auditSequence + 1 } (by
        intro stored
        obtain ⟨row, stored, same⟩ := List.mem_map.mp stored
        have below := held.sequence_le row stored
        simp only at same
        omega)) := by
  rw [insertRow_ok, Table.insert?_eq_some]
  exact ⟨_, rfl⟩

theorem inserted (held : Recorded maxEntries history db)
    (inserts : insertAudit entry db = .ok ((), db')) :
    db'.audit.rows = db.audit.rows ++ [{ entry with sequence := db.auditSequence + 1 }] ∧
      db'.auditSequence = db.auditSequence + 1 := by
  simp only [insertAudit, held.insert_ok] at inserts
  split at inserts
  · cases inserts
  · cases inserts
    exact ⟨rfl, rfl⟩

theorem trimmed {inserted : Db} (held : Recorded maxEntries history db)
    (rows : inserted.audit.rows =
      db.audit.rows ++ [{ entry with sequence := db.auditSequence + 1 }])
    (counter : inserted.auditSequence = db.auditSequence + 1)
    (trims : trimAudit maxEntries inserted = .ok ((), db')) :
    Recorded maxEntries (history ++ [entry]) db' := by
  obtain ⟨first, positive, numbered, last⟩ := held.numbered
  have longer : Consecutive AuditRow.sequence first inserted.audit.rows := by
    rw [rows]
    exact numbered.concat last
  have length : inserted.audit.rows.length = db.audit.rows.length + 1 := by simp [rows]
  have newest : inserted.auditSequence + 1 = first + inserted.audit.rows.length := by omega
  have nonempty : inserted.audit.rows ≠ [] := by simp [rows]
  rw [trimAudit, longer.max?_eq newest nonempty] at trims
  cases trims
  have kept := longer.trim_eq_rtake maxEntries newest positive
  constructor
  · simp only [Table.deleteWhere, kept, map_rtake]
    rw [rows, List.map_append, List.map_singleton, held.entries, rtake_append_singleton]
  · refine ⟨first + (inserted.audit.rows.length - maxEntries), by omega, ?_, ?_⟩
    · simp only [Table.deleteWhere, kept]
      exact longer.drop _ (Nat.sub_le _ _)
    · simp only [Table.deleteWhere, kept, List.rtake, List.length_drop]
      omega

theorem written (held : Recorded maxEntries history db) {u : Unit}
    (ended : (SqlAuditLog.write maxEntries entry).eval () db = (.ok u, (), db')) :
    Recorded maxEntries (history ++ [entry]) db' := by
  unfold SqlAuditLog.write at ended
  split at ended
  · cases ended
  · cases inserts : insertAudit entry db with
    | error e =>
      simp only [Work.eval, onContent, inserts] at ended
      cases ended
    | ok reply =>
      have inserted : insertAudit entry db = .ok ((), reply.2) := inserts
      obtain ⟨rows, counter⟩ := held.inserted inserted
      cases trims : trimAudit maxEntries reply.2 with
      | error e => cases trims
      | ok after =>
        simp only [Work.eval, onContent, inserts, trims, Prod.mk.injEq, true_and] at ended
        subst ended
        exact held.trimmed rows counter trims

/-- The two statements are the one step that the stores' model has for a record. -/
theorem eval_write (held : Recorded maxEntries history db) {column : String}
    (stamped : stamp entry.at_ = .ok column) :
    (SqlAuditLog.write maxEntries entry).eval () db =
      ((transact (AuditOp.run maxEntries (.record entry)) db).1.mapError Raised.error, (),
        (transact (AuditOp.run maxEntries (.record entry)) db).2) := by
  simp only [SqlAuditLog.write, stamped, Work.eval, onContent, insertAudit, transact, AuditOp.run,
    StateT.run, held.insert_ok]
  by_cases taken : (db.audit.rows.any (·.entryId = entry.entryId)) = true
  · simp only [taken, if_true]
    rfl
  · obtain ⟨first, -, numbered, last⟩ := held.numbered
    have longer := numbered.concat (r := { entry with sequence := db.auditSequence + 1 }) last
    let row : AuditRow := { entry with sequence := db.auditSequence + 1 }
    have ends : db.auditSequence + 1 + 1 = first + (db.audit.rows ++ [row]).length := by
      simp only [List.length_append, List.length_cons, List.length_nil]
      omega
    have newest := longer.max?_eq ends (by simp)
    have arithmetic : (fun row : AuditRow =>
        decide ((row.sequence : Int) ≤ ((db.auditSequence + 1 : Nat) : Int) - maxEntries)) =
          fun row => decide (row.sequence + maxEntries ≤ db.auditSequence + 1) := by
      funext row
      exact decide_eq_decide.mpr (by omega)
    simp only [taken, Bool.false_eq_true, if_false, trimAudit, Table.append, newest, arithmetic]
    rfl

end Recorded

namespace SqlAuditLog

theorem write_stops (maxEntries : Nat) (entry : AuditEntry) : (write maxEntries entry).Stops := by
  unfold write
  split
  · trivial
  · exact ⟨fun e => rfl, fun reply => ⟨fun e => rfl, fun reply => trivial⟩⟩

/-- A call records its entry, or raises and leaves the connection as it was. -/
theorem record_cases {maxEntries : Nat} {history : List AuditEntry} {s : Db} {faults : Faults}
    (entry : AuditEntry) (held : Recorded maxEntries history s)
    (rollsBack : ∀ e, faults.commit ≠ some (.kept e)) :
    (∃ e, record maxEntries faults entry (fresh s) = (.error e, fresh s)) ∨
      ∃ s', record maxEntries faults entry (fresh s) = (.ok entry, fresh s') ∧
        Recorded maxEntries (history ++ [entry]) s' := by
  simp only [record, Database.transact, Database.run, fresh]
  cases begins : faults.beginImmediate with
  | some e => exact .inl ⟨e, by simp [inTransaction, start, begins]⟩
  | none =>
    rw [inTransaction_begun begins]
    rcases (write maxEntries entry).run_stops (write_stops maxEntries entry) faults.statements
        (Ambient.begun ()) s s with ⟨⟨e, raised⟩, kept⟩ | ⟨u, k, t, ran, ended⟩
    · generalize (write maxEntries entry).run faults.statements _ = outcome at *
      obtain ⟨result, h⟩ := outcome
      cases raised
      have same := eq_closed (rollback_pending h)
      rw [rollback_committed, show h.committed = s from kept] at same
      exact .inl ⟨e, congrArg (fun h => (Except.error e, h)) same⟩
    · rw [ran]
      rcases commits : faults.commit with _ | e | e
      · exact .inr ⟨t, rfl, held.written ended⟩
      · exact absurd commits (rollsBack e)
      · exact .inl ⟨e, rfl⟩

theorem record_faultless {maxEntries : Nat} {history : List AuditEntry} {s : Db}
    {entry : AuditEntry} (held : Recorded maxEntries history s)
    (new : ∀ row ∈ s.audit.rows, row.entryId ≠ entry.entryId)
    (representable : Representable entry.at_) :
    ∃ s', record maxEntries .none entry (fresh s) = (.ok entry, fresh s') ∧
      Recorded maxEntries (history ++ [entry]) s' := by
  obtain ⟨column, stamped⟩ := stamp_isOk.mpr representable
  have free : s.audit.rows.any (·.entryId = entry.entryId) = false := by
    simpa using new
  have committed : ∃ s', transact (AuditOp.run maxEntries (.record entry)) s = (.ok (), s') := by
    simp only [transact, AuditOp.run, StateT.run, free, held.insert_ok, Bool.false_eq_true, if_false]
    exact ⟨_, rfl⟩
  obtain ⟨s', committed⟩ := committed
  have ended := held.eval_write stamped
  rw [committed] at ended
  refine ⟨s', ?_, held.written ended⟩
  simp only [record, Database.transact, Database.run, fresh, inTransaction_faultless _ (write_stops maxEntries entry), ended, Except.mapError]

theorem recordAll_recorded {maxEntries : Nat} (calls : List (Faults × AuditEntry))
    {history : List AuditEntry} {s : Db} (held : Recorded maxEntries history s)
    (rollsBack : ∀ call ∈ calls, ∀ e, call.1.commit ≠ some (.kept e)) :
    ∃ s', (recordAll maxEntries calls (fresh s)).2 = fresh s' ∧
      Recorded maxEntries (history ++ (recordAll maxEntries calls (fresh s)).1) s' := by
  induction calls generalizing history s with
  | nil => exact ⟨s, rfl, by simpa [recordAll] using held⟩
  | cons call calls ih =>
    obtain ⟨faults, entry⟩ := call
    have later := fun call member => rollsBack call (List.mem_cons_of_mem _ member)
    rcases record_cases entry held (rollsBack _ List.mem_cons_self) with
      ⟨e, failed⟩ | ⟨s', committed, longer⟩
    · simp only [recordAll, failed]
      exact ih held later
    · simp only [recordAll, committed]
      rw [List.append_cons]
      exact ih longer later

theorem recent_recorded {maxEntries : Nat} {history : List AuditEntry} {s : Db}
    (held : Recorded maxEntries history s) (limit : Nat) (actorId : Option String) :
    recent maxEntries limit actorId (fresh s) = .ok (((history.rtake maxEntries).reverse.filter
      fun entry => actorId.isNone || actorId = some entry.actorId).take limit) := by
  obtain ⟨first, -, numbered, -⟩ := held.numbered
  have sorted := insertionSort_descending
    (numbered.increasing.filter fun row => actorId.isNone || actorId = some row.actorId)
  have answer : recent maxEntries limit actorId (fresh s) = .ok ((((s.audit.rows.filter fun row =>
      actorId.isNone || actorId = some row.actorId).insertionSort
        fun a b => b.sequence ≤ a.sequence).take limit).map (·.toAuditEntry)) := rfl
  rw [answer, sorted, ← held.entries, List.map_take, List.map_reverse, List.filter_reverse,
    List.filter_map]
  rfl

theorem count_recorded {maxEntries : Nat} {history : List AuditEntry} {s : Db}
    (held : Recorded maxEntries history s) :
    count maxEntries (fresh s) = .ok (min maxEntries history.length) := by
  have answer : count maxEntries (fresh s) = .ok s.audit.rows.length := rfl
  have same := congrArg List.length held.entries
  rw [List.length_map, List.rtake, List.length_drop] at same
  rw [answer, same]
  congr 1
  omega

end SqlAuditLog

open SqlAuditLog in
/-- The table holds the last entries that were committed, reads them newest first, and
takes every new entry as the newest where nothing fails. -/
theorem audit_keeps_last (maxEntries : Nat) (calls : List (Faults × AuditEntry)) (start : Db)
    (empty : start.audit.rows = [])
    (rollsBack : ∀ call ∈ calls, ∀ e, call.1.commit ≠ some (.kept e)) :
    let (history, connection) := recordAll maxEntries calls (fresh start)
    connection.pending = none ∧
      connection.committed.audit.rows.map (·.toAuditEntry) = history.rtake maxEntries ∧
      count maxEntries connection = .ok (min maxEntries history.length) ∧
      (∀ limit actorId, recent maxEntries limit actorId connection =
        .ok (((history.rtake maxEntries).reverse.filter fun entry =>
          actorId.isNone || actorId = some entry.actorId).take limit)) ∧
      ∀ entry, (∀ row ∈ connection.committed.audit.rows, row.entryId ≠ entry.entryId) →
        Representable entry.at_ →
        (record maxEntries .none entry connection).1 = .ok entry ∧
          (record maxEntries .none entry connection).2.pending = none ∧
          (record maxEntries .none entry connection).2.committed.audit.rows.map
            (·.toAuditEntry) = (history ++ [entry]).rtake maxEntries := by
  obtain ⟨s, ended, held⟩ := recordAll_recorded calls (Recorded.start empty) rollsBack
  rw [List.nil_append] at held
  generalize recordAll maxEntries calls (fresh start) = outcome at ended held
  obtain ⟨history, connection⟩ := outcome
  subst ended
  refine ⟨rfl, held.entries, count_recorded held, recent_recorded held, ?_⟩
  intro entry new representable
  obtain ⟨s', recorded, longer⟩ := record_faultless held new representable
  change record maxEntries .none entry (fresh s) = _ at recorded
  refine ⟨?_, ?_, ?_⟩
  · exact congrArg Prod.fst recorded
  · exact congrArg (fun outcome => outcome.2.pending) recorded
  · refine Eq.trans (congrArg (fun outcome => outcome.2.committed.audit.rows.map
      (·.toAuditEntry)) recorded) longer.entries

def auditSample (entryId actorId : String) : AuditEntry where
  entryId := entryId
  at_ := 0
  action := .roleCreated
  actorId := actorId
  targetId := none
  detail := ""

/-- Four records at one moment, of which the second fails at its trim and the third takes
a taken id. -/
def auditCalls : List (Faults × AuditEntry) :=
  [(.none, auditSample "1" "owner"),
    (⟨none, [none, some (.cancelled (.operational "disk I/O error"))], none⟩,
      auditSample "2" "owner"),
    (.none, auditSample "1" "admin"),
    (.none, auditSample "4" "admin")]

open SqlAuditLog in
theorem audit_keeps_last_failures :
    let (history, connection) := recordAll 2 auditCalls (fresh Db.empty)
    connection.pending = none ∧
      connection.committed.audit.rows.map (·.toAuditEntry) = history.rtake 2 ∧
      count 2 connection = .ok (min 2 history.length) ∧
      (∀ limit actorId, recent 2 limit actorId connection =
        .ok (((history.rtake 2).reverse.filter fun entry =>
          actorId.isNone || actorId = some entry.actorId).take limit)) ∧
      (record 2 .none (auditSample "2" "admin") connection).2.committed.audit.rows.map
        (·.toAuditEntry) = [auditSample "4" "admin", auditSample "2" "admin"] := by
  have rollsBack : ∀ call ∈ auditCalls, ∀ e, call.1.commit ≠ some (.kept e) := by
    intro call member e
    simp only [auditCalls, List.mem_cons, List.not_mem_nil, or_false] at member
    rcases member with rfl | rfl | rfl | rfl <;> simp [Faults.none]
  obtain ⟨settled, entries, counted, read, next⟩ :=
    audit_keeps_last 2 auditCalls Db.empty rfl rollsBack
  have new : ∀ row ∈ (recordAll 2 auditCalls (fresh Db.empty)).2.committed.audit.rows,
      row.entryId ≠ (auditSample "2" "admin").entryId := by decide
  exact ⟨settled, entries, counted, read, (next (auditSample "2" "admin") new (by decide)).2.2⟩

end Keyring

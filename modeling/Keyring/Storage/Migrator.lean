import Keyring.Storage.Columns
import Keyring.Storage.Connection

/-!
# Numbered SQL files

`storage/migrator.py`.  A script is its statements, run one after the other until
one fails.  They stand in one transaction with the row that records the version:
`executescript` commits what is open, `BEGIN IMMEDIATE` is the first line of the
text, and the transaction is still open for the row.
-/

set_option autoImplicit false

namespace Keyring

open Relational Handle

/-- The rows of `schema_version`: a version, and when it was applied. -/
abbrev VersionTable := Table (Prod.fst : Int × String → Int)

/-- A database: the table of versions, which is absent at first, and all the rest. -/
structure Store (σ : Type) where
  schemaVersion : Option VersionTable
  rest : σ

/-- A statement on the state of its connection and on the database. -/
abbrev Statement (κ σ : Type) := κ → Store σ → Except Raised (Unit × κ × Store σ)

/-- A file of the directory, and the statements of its text. -/
structure SqlFile (κ σ : Type) where
  name : String
  statements : List (Statement κ σ)

structure Migration (κ σ : Type) where
  path : SqlFile κ σ
  version : Int

def noSuchTable : Raised := .operational "no such table: schema_version"

variable {κ σ : Type}

section
variable (text : Text)

/-- `int(raw)` of a string without an underscore. -/
def intOf (raw : String) : Except Error Int :=
  let invalid : Error := .value s!"invalid literal for int() with base 10: {repr text raw}"
  let (sign, digits) := match (strip raw).toList with
    | '-' :: digits => (-1, digits)
    | '+' :: digits => (1, digits)
    | digits => ((1 : Int), digits)
  match digits, digits.mapM text.decimal with
  | [], _ => .error invalid
  | _, none => .error invalid
  | _, some values =>
      if digits.length > maxStrDigits then
        .error (.value s!"Exceeds the limit ({maxStrDigits} digits) for integer string conversion")
      else .ok (sign * (values.foldl (fun n d => 10 * n + d) 0 : Nat))

/-- `int(path.name.split("_", 1)[0])` -/
def Migration.ofPath (path : SqlFile κ σ) : Except Error (Migration κ σ) :=
  (intOf text (String.ofList (path.name.toList.takeWhile (· ≠ '_')))).map (Migration.mk path)

/-- `sorted(migrations, key=lambda migration: migration.version)` -/
def discover (directory : List (SqlFile κ σ)) : Except Error (List (Migration κ σ)) :=
  (directory.mapM (Migration.ofPath text)).map
    (·.insertionSort fun a b => a.version ≤ b.version)

end

/-! ## Statements of the migrator -/

/-- `CREATE TABLE IF NOT EXISTS schema_version` -/
def createSchemaVersion (s : Store σ) : Except Raised (Unit × Store σ) :=
  .ok ((), { s with schemaVersion := some (s.schemaVersion.getD .empty) })

/-- `SELECT version FROM schema_version` -/
def selectVersions (s : Store σ) : Except Raised (List Int × Store σ) :=
  match s.schemaVersion with
  | none => .error noSuchTable
  | some table => .ok (table.rows.map Prod.fst, s)

/-- `INSERT INTO schema_version (version, applied_at) VALUES (?, ?)` -/
def recordVersion (version : Int) (appliedAt : String) : Statement κ σ := onContent fun s =>
  match s.schemaVersion with
  | none => .error noSuchTable
  | some table =>
      match insertRow table (version, appliedAt) "schema_version.version" with
      | .error e => .error (.error e)
      | .ok table => .ok ((), { s with schemaVersion := some table })

/-- The row of a version, whose two values are made before the statement is run. -/
def recordWork (version : Int) (now : Instant) : Work κ (Store σ) Unit Raised Unit :=
  match stamp now, int64 version with
  | .error e, _ => .done (.error (.error e))
  | .ok _, .error e => .done (.error (.error e))
  | .ok appliedAt, .ok version => .statement (recordVersion version appliedAt) .done

/-- Statements in order up to the first that fails, and then `last`. -/
def scriptWork (last : Work κ (Store σ) Unit Raised Unit) :
    List (Statement κ σ) → Work κ (Store σ) Unit Raised Unit
  | [] => last
  | statement :: statements => .statement statement fun
    | .error e => .done (.error e)
    | .ok () => scriptWork last statements

/-! ## Applying what is pending -/

section
variable [Ambient κ]

/-- Where one script can fail.  A crash is a failure that cancels. -/
structure ApplyFaults where
  readText : Option Raised
  implicitCommit : Option (Fault Raised)
  beginImmediate : Option Raised
  statements : List (Option (Fault Raised))
  commit : Option (Fault Raised)

def ApplyFaults.none : ApplyFaults := ⟨.none, .none, .none, [], .none⟩

/-- The body of the `try`: `executescript` and the row. -/
def Migration.execute (faults : ApplyFaults) (migration : Migration κ σ) (now : Instant)
    (connection : Handle κ (Store σ)) : Except Raised Unit × Handle κ (Store σ) :=
  match connection.commit faults.implicitCommit with
  | (.error e, connection) => (.error e, connection)
  | (.ok (), connection) =>
    match connection.start nestedTransaction faults.beginImmediate with
    | (.error e, connection) => (.error e, connection)
    | (.ok (), connection) =>
      (scriptWork (recordWork migration.version now) migration.path.statements).run
        faults.statements connection

def Migration.apply (faults : ApplyFaults) (migration : Migration κ σ) (now : Instant)
    (connection : Handle κ (Store σ)) : Except Raised Unit × Handle κ (Store σ) :=
  match migration.execute faults now connection with
  | (.error e, connection) => (.error e, connection.rollback)
  | (.ok (), connection) => connection.commit faults.commit

def applyPending (now : Instant) : List ApplyFaults → List (Migration κ σ) → Handle κ (Store σ) →
    Except Raised Unit × Handle κ (Store σ)
  | _, [], connection => (.ok (), connection)
  | faults, migration :: pending, connection =>
    match (faults.headD .none).readText with
    | some e => (.error e, connection)
    | none =>
      match migration.apply (faults.headD .none) now connection with
      | (.error e, connection) => (.error e, connection)
      | (.ok (), connection) => applyPending now faults.tail pending connection

structure MigrateFaults where
  create : Option (Fault Raised)
  select : Option (Fault Raised)
  applies : List ApplyFaults

def MigrateFaults.none : MigrateFaults := ⟨.none, .none, []⟩

def migrate (text : Text) (faults : MigrateFaults) (now : Instant) (directory : List (SqlFile κ σ))
    (connection : Handle κ (Store σ)) : Except Raised Nat × Handle κ (Store σ) :=
  match connection.execute faults.create (onContent createSchemaVersion) with
  | (.error e, connection) => (.error e, connection)
  | (.ok (), connection) =>
    match connection.execute faults.select (onContent selectVersions) with
    | (.error e, connection) => (.error e, connection)
    | (.ok applied, connection) =>
      match discover text directory with
      | .error e => (.error (.error e), connection)
      | .ok migrations =>
        let pending := migrations.filter (·.version ∉ applied)
        match applyPending now faults.applies pending connection with
        | (.error e, connection) => (.error e, connection)
        | (.ok (), connection) => (.ok pending.length, connection)

/-! ## Runs, and runs again -/

/-- A run, after which the process may be restarted. -/
structure MigrationRun where
  faults : MigrateFaults
  now : Instant
  restarted : Bool

/-- A new connection has no transaction open. -/
def MigrationRun.perform (text : Text) (directory : List (SqlFile κ σ)) (connection : Handle κ (Store σ))
    (attempt : MigrationRun) : Handle κ (Store σ) :=
  let connection := (migrate text attempt.faults attempt.now directory connection).2
  if attempt.restarted then fresh connection.committed else connection

end

end Keyring

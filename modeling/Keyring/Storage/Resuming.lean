import Keyring.Storage.MigratorSpec

/-!
# Runs after interruptions

A run in which nothing fails applies the scripts after the prefix up to the first
that cannot be applied, and that script is the same one whatever the prefix was.
-/

set_option autoImplicit false

namespace Keyring

open Relational Handle

variable {κ σ : Type} [Ambient κ] {now : Instant}

/-- How many of the migrations can be applied, and what they make of the rest. -/
def advance : List (Migration κ σ) → σ → Nat × σ
  | [], rest => (0, rest)
  | migration :: migrations, rest =>
    match int64 migration.version, migration.whole rest with
    | .ok _, .ok rest' => ((advance migrations rest').1 + 1, (advance migrations rest').2)
    | _, _ => (0, rest)

/-- After a prefix that was applied, the count goes on. -/
theorem advance_append (first second : List (Migration κ σ)) {rest rest' : σ}
    (fits : ∀ migration ∈ first, migration.Fits) (whole : wholeAll first rest = .ok rest') :
    advance (first ++ second) rest =
      (first.length + (advance second rest').1, (advance second rest').2) := by
  induction first generalizing rest with
  | nil =>
    cases whole
    simp
  | cons migration first ih =>
    have fit : int64 migration.version = .ok migration.version := fits _ List.mem_cons_self
    rw [wholeAll] at whole
    cases step : migration.whole rest with
    | error e => simp [step] at whole
    | ok after =>
      simp only [step] at whole
      simp only [List.cons_append, advance, fit, step, List.length_cons,
        ih (fun m member => fits m (List.mem_cons_of_mem _ member)) whole]
      congr 1
      omega

theorem Migration.apply_faultless (migration : Migration κ σ) (now : Instant)
    (h : Handle κ (Store σ)) : ∃ k, migration.apply .none now h =
      match (migration.work now).eval k h.content with
      | (.ok (), k', t) => (.ok (), closed (Ambient.committed k') t)
      | (.error e, k', _) => (.error e, closed (Ambient.rolledBack k') h.content) := by
  have opened : ∃ k, h.commit (none : Option (Fault Raised)) = (.ok (), closed k h.content) := by
    rcases closed_or_holding h with ended | ⟨s, opened⟩
    · rw [ended]
      exact ⟨_, rfl⟩
    · rw [opened]
      exact ⟨_, rfl⟩
  obtain ⟨k, opened⟩ := opened
  have begun : (closed k h.content).start nestedTransaction none =
      (.ok (), holding (Ambient.begun k) h.content h.content) := rfl
  refine ⟨Ambient.begun k, ?_⟩
  rw [Migration.apply, Migration.execute]
  simp only [ApplyFaults.none, opened, begun]
  rw [← Migration.work, Work.run_faultless_holding _ (migration.work_stops now)]
  rcases (migration.work now).eval (Ambient.begun k) h.content with ⟨_ | _, k', t⟩
  · rfl
  · rfl

/-- What a run without failures leaves, counted from the scripts that it starts with. -/
theorem applyPending_faultless (representable : Representable now) (later : List (Migration κ σ))
    (apart : ∀ migration ∈ later, migration.Apart) {h : Handle κ (Store σ)}
    (present : h.content.schemaVersion.isSome)
    (distinct : (later.map Migration.version).Nodup)
    (free : ∀ migration ∈ later, migration.version ∉ h.content.recorded) :
    (applyPending now [] later h).2.content.rest = (advance later h.content.rest).2 ∧
      (applyPending now [] later h).2.content.recorded = h.content.recorded ++
        (later.take (advance later h.content.rest).1).map Migration.version ∧
      (h.pending = none → (applyPending now [] later h).2.pending = none) := by
  induction later generalizing h with
  | nil => simp [applyPending, advance]
  | cons migration later ih =>
    have alone := apart migration List.mem_cons_self
    simp only [applyPending, List.headD_nil, List.tail_nil]
    obtain ⟨k, applied⟩ := migration.apply_faultless now h
    rw [applied]
    simp only [ApplyFaults.none]
    cases done : (migration.work now).eval k h.content with
    | mk result left =>
      obtain ⟨k', t⟩ := left
      cases result with
      | ok u =>
        obtain ⟨whole, recorded, table, fits⟩ := migration.work_next alone ⟨k, k', done⟩
        have fits : int64 migration.version = .ok migration.version := fits
        have further := ih (fun m member => apart m (List.mem_cons_of_mem _ member))
          (h := closed (Ambient.committed k') t) table (List.nodup_cons.mp distinct).2 (by
            intro other member
            rw [closed_content, recorded, List.mem_append, List.mem_singleton, not_or]
            refine ⟨free other (List.mem_cons_of_mem _ member), fun same => ?_⟩
            exact (List.nodup_cons.mp distinct).1 (same ▸ List.mem_map_of_mem member))
        simp only [closed_content, closed_pending, recorded, true_implies] at further
        simp only [advance, fits, whole, List.take_succ_cons, List.map_cons, further, and_true,
          implies_true, true_and]
        simp
      | error e =>
        have stuck : advance (migration :: later) h.content.rest = (0, h.content.rest) := by
          rw [advance]
          split
          · rename_i fit rest' fits whole
            have same := int64_eq fits
            subst same
            obtain ⟨k'', t', finished⟩ := migration.work_done alone representable present
              (free migration List.mem_cons_self) fits whole k
            rw [finished] at done
            cases done
          · rfl
        simp [stuck]

section
variable {text : Text} {directory : List (SqlFile κ σ)} {migrations : List (Migration κ σ)}
  {start : Store σ} {h : Handle κ (Store σ)} {k : Nat}

/-- A run in which nothing fails selects what is missing, and applies it. -/
theorem migrate_faultless (discovered : discover text directory = .ok migrations) (now : Instant)
    (h : Handle κ (Store σ)) :
    ∃ h' : Handle κ (Store σ), h'.content.rest = h.content.rest ∧
      h'.content.recorded = h.content.recorded ∧ h'.content.schemaVersion.isSome ∧
      (h.pending = none → h'.pending = none) ∧
      (migrate text .none now directory h).2 =
        (applyPending now [] (migrations.filter (·.version ∉ h.content.recorded)) h').2 := by
  let created : Store σ := ⟨some (h.content.schemaVersion.getD .empty), h.content.rest⟩
  refine ⟨h.write h.ambient created, ?_⟩
  have written : (h.write h.ambient created).content = created := by
    rcases closed_or_holding h with ended | ⟨s, opened⟩
    · rw [ended]
      rfl
    · rw [opened]
      rfl
  have again : ∀ s, (h.write h.ambient s).write (h.write h.ambient s).ambient s =
      h.write h.ambient s := by
    intro s
    rcases closed_or_holding h with ended | ⟨t, opened⟩
    · rw [ended]
      rfl
    · rw [opened]
      rfl
  refine ⟨by rw [written], by rw [written]; rfl, by rw [written]; rfl, ?_, ?_⟩
  · intro ended
    rw [eq_closed ended]
    rfl
  · have creates : createSchemaVersion h.content = .ok ((), created) := rfl
    have selects : selectVersions created = .ok (h.content.recorded, created) := rfl
    simp only [migrate, MigrateFaults.none, Handle.execute, onContent, creates, written, selects,
      again, discovered]
    split
    · rename_i failed
      rw [failed]
    · rename_i passed
      rw [passed]

/-- It ends in the same database from every prefix. -/
theorem migrate_complete (discovered : discover text directory = .ok migrations)
    (unique : (migrations.map Migration.version).Nodup)
    (apart : ∀ migration ∈ migrations, migration.Apart) (representable : Representable now)
    (reached : Reached start (pendingOf migrations start) k h.content) :
    (migrate text .none now directory h).2.content.rest =
        (advance (pendingOf migrations start) start.rest).2 ∧
      (migrate text .none now directory h).2.content.recorded = start.recorded ++
        ((pendingOf migrations start).take
          (advance (pendingOf migrations start) start.rest).1).map Migration.version ∧
      (h.pending = none → (migrate text .none now directory h).2.pending = none) := by
  obtain ⟨h', rest, recorded, present, closed, same⟩ := migrate_faultless discovered now h
  have here : migrations.filter (·.version ∉ h.content.recorded) =
      (pendingOf migrations start).drop k := reached.select unique
  rw [same, here]
  have unapplied : ∀ migration ∈ (pendingOf migrations start).drop k,
      migration ∈ migrations ∧ migration.version ∉ h.content.recorded := by
    intro migration member
    rw [← here, List.mem_filter, decide_eq_true_eq] at member
    exact member
  have distinct : (((pendingOf migrations start).drop k).map Migration.version).Nodup := by
    rw [← here]
    exact unique.sublist (List.filter_sublist.map _)
  obtain ⟨restAfter, recordedAfter, closedAfter⟩ := applyPending_faultless representable
    ((pendingOf migrations start).drop k)
    (fun migration member => apart migration (unapplied migration member).1) present distinct
    (fun migration member => recorded ▸ (unapplied migration member).2)
  have total := advance_append ((pendingOf migrations start).take k)
    ((pendingOf migrations start).drop k) reached.fits reached.whole
  rw [List.take_append_drop, List.length_take_of_le reached.within] at total
  rw [rest] at restAfter recordedAfter
  refine ⟨?_, ?_, fun ended => closedAfter (closed ended)⟩
  · rw [restAfter, total]
  · rw [recordedAfter, recorded, reached.recorded, total, List.append_assoc, ← List.map_append,
      List.take_add]

/-- The table of versions is there, and has every version of the directory. -/
structure UpToDate (migrations : List (Migration κ σ)) (s : Store σ) : Prop where
  present : s.schemaVersion.isSome
  recorded : ∀ migration ∈ migrations, migration.version ∈ s.recorded

/-- On such a database no statement of a run changes anything. -/
theorem migrate_upToDate (discovered : discover text directory = .ok migrations) {s : Store σ}
    (upToDate : UpToDate migrations s) (faults : MigrateFaults) (now : Instant) (k : κ) :
    (migrate text faults now directory (closed k s)).2 = closed k s ∧
      (faults.create = none → faults.select = none →
        (migrate text faults now directory (closed k s)).1 = .ok 0) := by
  obtain ⟨table, present⟩ := Option.isSome_iff_exists.mp upToDate.present
  have nothing : migrations.filter (·.version ∉ table.rows.map Prod.fst) = [] := by
    rw [List.filter_eq_nil_iff]
    intro migration member
    have held := upToDate.recorded migration member
    simpa [Store.recorded, present] using held
  have same : (⟨some table, s.rest⟩ : Store σ) = s := by
    rw [← present]
  rcases creates : faults.create with _ | e | e
  · rcases selects : faults.select with _ | e | e
    · simp only [migrate, creates, selects, Handle.execute, onContent, createSchemaVersion,
        closed_content, closed_ambient, closed_write, present, Option.getD_some, same,
        selectVersions, discovered, nothing, applyPending, List.length_nil, and_self, implies_true]
    · simp [migrate, creates, selects, Handle.execute, onContent, createSchemaVersion, present,
        same]
    · simp [migrate, creates, selects, Handle.execute, onContent, createSchemaVersion, present,
        same, Handle.rollback]
  · simp [migrate, creates, Handle.execute]
  · simp [migrate, creates, Handle.execute, Handle.rollback]

/-! ## Resumable and idempotent -/

/-- The earlier versions and a prefix of the pending ones, with their scripts applied whole. -/
def Resumed (start : Store σ) (pending : List (Migration κ σ)) (s : Store σ) : Prop :=
  ∃ k ≤ pending.length,
    (∀ version, version ∈ s.recorded ↔
      version ∈ start.recorded ∨ version ∈ (pending.take k).map Migration.version) ∧
    wholeAll (pending.take k) start.rest = .ok s.rest

theorem Reached.resumed {pending : List (Migration κ σ)} {s : Store σ}
    (reached : Reached start pending k s) : Resumed start pending s :=
  ⟨k, reached.within, fun version => by rw [reached.recorded, List.mem_append], reached.whole⟩

end

def decimalText : Text where
  lower := id
  isPrintable _ := true
  isDigit := Char.isDigit
  decimal c := if c.isDigit then some (c.toNat - '0'.toNat) else none

/-- The temporary tables of a connection, now and when its transaction began. -/
structure Temporary where
  tables : List String
  before : List String

instance : Ambient Temporary where
  opened := ⟨[], []⟩
  begun k := { k with before := k.tables }
  committed := id
  rolledBack k := { k with tables := k.before }

/-- `CREATE TABLE`, where the rest of a database is the names of its tables. -/
def createTable {κ : Type} (name : String) : Statement κ (List String) := onContent fun s =>
  if name ∈ s.rest then .error (.operational s!"table {name} already exists")
  else .ok ((), { s with rest := s.rest ++ [name] })

/-- `CREATE TEMP TABLE`. -/
def createTemp (name : String) : Statement Temporary (List String) := fun k s =>
  if name ∈ k.tables then .error (.operational s!"table {name} already exists")
  else .ok ((), { k with tables := k.tables ++ [name] }, s)

/-- `CREATE TABLE .. AS SELECT * FROM` a temporary table. -/
def createFromTemp (temp name : String) : Statement Temporary (List String) := fun k s =>
  if temp ∈ k.tables then createTable name k s
  else .error (.operational s!"no such table: {temp}")

theorem createTable_apart {κ : Type} (name : String) :
    (createTable name : Statement κ (List String)).Apart := by
  refine ⟨fun rest => if name ∈ rest then .error (.operational s!"table {name} already exists")
    else .ok (rest ++ [name]), fun k s => ?_⟩
  by_cases taken : name ∈ s.rest
  · simp [createTable, onContent, taken, Except.map]
  · simp [createTable, onContent, taken, Except.map]

def steps : List (SqlFile Temporary (List String)) :=
  [⟨"10_tenth.sql", [createTable "ten"]⟩, ⟨"2_second.sql", [createTable "two", createTable "more"]⟩]

/-- The first script records the second one's version. -/
def clashing : List (SqlFile Temporary (List String)) :=
  [⟨"1_clash.sql", [recordVersion 2 "earlier"]⟩, ⟨"2_two.sql", [createTable "two"]⟩]

/-- The second script reads a temporary table of the first. -/
def drafting : List (SqlFile Temporary (List String)) :=
  [⟨"1_draft.sql", [createTemp "draft"]⟩, ⟨"2_copy.sql", [createFromTemp "draft" "copy"]⟩]

/-- The process ends between the first script and the second. -/
def interrupted : MigrationRun where
  faults := { MigrateFaults.none with applies :=
    [.none, { ApplyFaults.none with readText := some (.operational "interrupted") }] }
  now := 0
  restarted := true

end Keyring

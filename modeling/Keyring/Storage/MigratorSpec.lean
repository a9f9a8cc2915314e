import Keyring.Storage.ColumnsSpec
import Keyring.Storage.Migrator

/-!
# A migration is resumed where it stopped

What a script does to a database is committed with its version row or not at all.
So what is committed, and what an open transaction would commit, is always the
database at first with a prefix of the pending scripts applied whole, and a run
selects exactly the scripts after that prefix.
-/

set_option autoImplicit false

namespace Keyring

open Relational Handle

variable {κ σ : Type}

def Store.recorded (s : Store σ) : List Int := (s.schemaVersion.getD .empty).rows.map Prod.fst

/-- What the directory holds that the database did not at first. -/
def pendingOf (migrations : List (Migration κ σ)) (start : Store σ) : List (Migration κ σ) :=
  migrations.filter (·.version ∉ start.recorded)

/-- What is pending is applied in numeric order. -/
theorem pendingOf_increasing {text : Text} {directory : List (SqlFile κ σ)}
    {migrations : List (Migration κ σ)} {start : Store σ}
    (discovered : discover text directory = .ok migrations)
    (unique : (migrations.map Migration.version).Nodup) :
    (pendingOf migrations start).Pairwise fun a b => a.version < b.version := by
  obtain ⟨found, -, rfl⟩ := map_eq_ok.mp discovered
  have sorted : (found.insertionSort fun a b => a.version ≤ b.version).Pairwise
      fun a b => a.version ≤ b.version := List.pairwise_insertionSort _ _
  have strict := sorted.and (List.pairwise_map.mp unique)
  exact (strict.imp fun both => lt_of_le_of_ne both.1 both.2).filter _

def runStatements : List (Statement κ σ) → κ → Store σ → Except Raised (κ × Store σ)
  | [], k, s => .ok (k, s)
  | statement :: statements, k, s =>
    match statement k s with
    | .error e => .error e
    | .ok (_, k', s') => runStatements statements k' s'

/-- A script applied whole, on a new connection and where no version is recorded. -/
def Migration.whole [Ambient κ] (migration : Migration κ σ) (rest : σ) : Except Raised σ :=
  (runStatements migration.path.statements (Ambient.begun Ambient.opened)
    ⟨some .empty, rest⟩).map fun ended => ended.2.rest

def wholeAll [Ambient κ] : List (Migration κ σ) → σ → Except Raised σ
  | [], rest => .ok rest
  | migration :: migrations, rest =>
    match migration.whole rest with
    | .error e => .error e
    | .ok rest' => wholeAll migrations rest'

/-- The statement neither reads nor writes `schema_version`, and what it does to the rest
is the same whatever settings and temporary objects its connection has. -/
def Statement.Apart (statement : Statement κ σ) : Prop :=
  ∃ act : σ → Except Raised σ, ∀ k (s : Store σ),
    (statement k s).map (fun reply => reply.2.2) =
      (act s.rest).map fun rest => { s with rest := rest }

def Migration.Apart (migration : Migration κ σ) : Prop :=
  ∀ statement ∈ migration.path.statements, statement.Apart

/-! ## A script -/

theorem runStatements_apart (statements : List (Statement κ σ))
    (apart : ∀ statement ∈ statements, statement.Apart) (k k' : κ) (s : Store σ)
    (table : Option VersionTable) :
    (runStatements statements k s).map (fun ended => ended.2) =
      (runStatements statements k' ⟨table, s.rest⟩).map fun ended =>
        ⟨s.schemaVersion, ended.2.rest⟩ := by
  induction statements generalizing k k' s with
  | nil => rfl
  | cons statement statements ih =>
    obtain ⟨act, same⟩ := apart statement List.mem_cons_self
    have here := same k s
    have there := same k' ⟨table, s.rest⟩
    simp only [runStatements]
    cases acted : act s.rest with
    | error e =>
      rw [acted] at here there
      simp only [map_eq_error.mp here, map_eq_error.mp there]
      rfl
    | ok rest =>
      rw [acted] at here there
      obtain ⟨reply, ran, left⟩ := map_eq_ok.mp here
      obtain ⟨reply', ran', left'⟩ := map_eq_ok.mp there
      simp only [ran, ran', left, left']
      exact ih (fun f member => apart f (List.mem_cons_of_mem _ member)) reply.2.1 reply'.2.1
        ⟨s.schemaVersion, rest⟩

/-- Apart from the versions, a script does the same in every database and on every
connection. -/
theorem Migration.runStatements_whole [Ambient κ] {migration : Migration κ σ}
    (apart : migration.Apart) (k : κ) (s : Store σ) :
    (runStatements migration.path.statements k s).map (fun ended => ended.2) =
      (migration.whole s.rest).map fun rest => ⟨s.schemaVersion, rest⟩ := by
  rw [runStatements_apart _ apart k (Ambient.begun Ambient.opened) s (some .empty),
    Migration.whole]
  cases runStatements migration.path.statements (Ambient.begun Ambient.opened)
      ⟨some .empty, s.rest⟩ with
  | error e => rfl
  | ok t => rfl

theorem scriptWork_stops {last : Work κ (Store σ) Unit Raised Unit} (stops : last.Stops)
    (statements : List (Statement κ σ)) : (scriptWork last statements).Stops := by
  induction statements with
  | nil => exact stops
  | cons statement statements ih => exact ⟨fun e => rfl, fun reply => ih⟩

theorem scriptWork_eval (last : Work κ (Store σ) Unit Raised Unit)
    (statements : List (Statement κ σ)) (k : κ) (s : Store σ) {k' : κ} {t : Store σ} :
    (scriptWork last statements).eval k s = (.ok (), k', t) ↔
      ∃ k₁ s₁, runStatements statements k s = .ok (k₁, s₁) ∧
        last.eval k₁ s₁ = (.ok (), k', t) := by
  induction statements generalizing k s with
  | nil => simp [scriptWork, runStatements]
  | cons statement statements ih =>
    simp only [scriptWork, runStatements, Work.eval]
    cases statement k s with
    | error e => simp
    | ok reply => exact ih reply.2.1 reply.2.2

theorem recordWork_stops (version : Int) (now : Instant) :
    (recordWork (κ := κ) (σ := σ) version now).Stops := by
  unfold recordWork
  split
  · trivial
  · trivial
  · exact ⟨fun e => rfl, fun reply => trivial⟩

/-- The number of a version fits the column. -/
def Migration.Fits (migration : Migration κ σ) : Prop :=
  int64 migration.version = .ok migration.version

theorem recordWork_eval {version : Int} {now : Instant} {k k' : κ} {s t : Store σ} :
    (recordWork version now).eval k s = (.ok (), k', t) ↔
      ∃ appliedAt table table', stamp now = .ok appliedAt ∧ int64 version = .ok version ∧
        s.schemaVersion = some table ∧ table.insert? (version, appliedAt) = some table' ∧
          k' = k ∧ t = { s with schemaVersion := some table' } := by
  unfold recordWork
  cases stamp now with
  | error e => simp [Work.eval]
  | ok appliedAt =>
    cases fits : int64 version with
    | error e => simp [Work.eval]
    | ok n =>
      have same := int64_eq fits
      subst same
      simp only [Work.eval, recordVersion, onContent, insertRow]
      cases s.schemaVersion with
      | none => simp
      | some table =>
        cases inserted : table.insert? (n, appliedAt) with
        | none => simp [inserted]
        | some table' => simp [inserted, eq_comm]

def Migration.work (migration : Migration κ σ) (now : Instant) :
    Work κ (Store σ) Unit Raised Unit :=
  scriptWork (recordWork migration.version now) migration.path.statements

theorem Migration.work_stops (migration : Migration κ σ) (now : Instant) :
    (migration.work now).Stops :=
  scriptWork_stops (recordWork_stops migration.version now) _

/-- All of the migration takes place, on some connection. -/
def Migration.Done (migration : Migration κ σ) (now : Instant) (s t : Store σ) : Prop :=
  ∃ k k', (migration.work now).eval k s = (.ok (), k', t)

section
variable [Ambient κ]

/-- What one migration commits. -/
structure Next (migration : Migration κ σ) (s t : Store σ) : Prop where
  whole : migration.whole s.rest = .ok t.rest
  recorded : t.recorded = s.recorded ++ [migration.version]
  present : t.schemaVersion.isSome
  fits : migration.Fits

theorem Migration.work_next {migration : Migration κ σ} (apart : migration.Apart) {now : Instant}
    {s t : Store σ} (done : migration.Done now s t) : Next migration s t := by
  obtain ⟨k, k', done⟩ := done
  obtain ⟨k₁, s₁, ran, recorded⟩ := (scriptWork_eval _ _ k s).mp done
  obtain ⟨appliedAt, table, table', -, fits, present, inserted, -, rfl⟩ :=
    recordWork_eval.mp recorded
  have same := migration.runStatements_whole apart k s
  rw [ran] at same
  obtain ⟨rest, whole, rfl⟩ := map_eq_ok.mp same.symm
  have present : s.schemaVersion = some table := present
  obtain ⟨fresh, rfl⟩ := Table.insert?_eq_some.mp inserted
  exact ⟨whole, by simp [Store.recorded, present, Table.append], rfl, fits⟩

theorem Migration.work_done {migration : Migration κ σ} (apart : migration.Apart) {now : Instant}
    {s : Store σ} {rest : σ} (representable : Representable now)
    (present : s.schemaVersion.isSome) (free : migration.version ∉ s.recorded)
    (fits : migration.Fits) (whole : migration.whole s.rest = .ok rest) (k : κ) :
    ∃ k' t, (migration.work now).eval k s = (.ok (), k', t) := by
  obtain ⟨appliedAt, stamped⟩ := stamp_isOk.mpr representable
  obtain ⟨table, present⟩ := Option.isSome_iff_exists.mp present
  have fresh : migration.version ∉ table.rows.map Prod.fst := by
    simpa [Store.recorded, present] using free
  have ran := migration.runStatements_whole apart k s
  rw [whole] at ran
  obtain ⟨⟨k₁, s₁⟩, ran, same⟩ := map_eq_ok.mp ran
  have same : s₁ = ⟨s.schemaVersion, rest⟩ := same
  subst same
  have recorded : (recordWork migration.version now).eval k₁ ⟨s.schemaVersion, rest⟩ =
      (.ok (), k₁, ⟨some (table.append (migration.version, appliedAt) fresh), rest⟩) :=
    recordWork_eval.mpr ⟨appliedAt, table, _, stamped, fits, present,
      Table.insert?_eq_some.mpr ⟨fresh, rfl⟩, rfl, rfl⟩
  exact ⟨_, _, (scriptWork_eval _ _ k s).mpr ⟨_, _, ran, recorded⟩⟩

/-! ## One application -/

theorem Migration.apply_closed (faults : ApplyFaults) (migration : Migration κ σ) (now : Instant)
    (k : κ) (s : Store σ) :
    (∃ k' t, migration.Done now s t ∧
        migration.apply faults now (closed k s) = (.ok (), closed k' t)) ∨
      ∃ e k', (migration.apply faults now (closed k s)).1 = .error e ∧
        ((migration.apply faults now (closed k s)).2 = closed k' s ∨
          ∃ t, migration.Done now s t ∧
            (migration.apply faults now (closed k s)).2 = holding k' s t) := by
  have opened : (closed k s).commit faults.implicitCommit = (.ok (), closed k s) := rfl
  rw [Migration.apply, Migration.execute, opened]
  cases begins : faults.beginImmediate with
  | some e => exact .inr ⟨e, k, rfl, .inl rfl⟩
  | none =>
    have begun : (closed k s).start nestedTransaction none =
        (.ok (), holding (Ambient.begun k) s s) := rfl
    simp only [begun]
    rw [← Migration.work]
    rcases (migration.work now).run_stops (migration.work_stops now) faults.statements
        (Ambient.begun k) s s with ⟨⟨e, raised⟩, kept⟩ | ⟨u, k', t, ran, ended⟩
    · generalize (migration.work now).run faults.statements _ = outcome at raised kept
      obtain ⟨result, h⟩ := outcome
      cases raised
      refine .inr ⟨e, h.rollback.ambient, rfl, .inl ?_⟩
      have same := eq_closed (rollback_pending h)
      rw [rollback_committed, show h.committed = s from kept] at same
      exact same
    · have done : migration.Done now s t := ⟨_, _, ended⟩
      rw [ran]
      rcases commits : faults.commit with _ | e | e
      · exact .inl ⟨_, t, done, rfl⟩
      · exact .inr ⟨e, k', rfl, .inr ⟨t, done, rfl⟩⟩
      · exact .inr ⟨e, _, rfl, .inl rfl⟩

/-- One application, from any connection: it commits all of its migration, or it leaves
the database as it was, or it leaves all of its migration for a later COMMIT. -/
theorem Migration.apply_cases (faults : ApplyFaults) (migration : Migration κ σ) (now : Instant)
    (h : Handle κ (Store σ)) :
    (∃ k' t, migration.Done now h.content t ∧
        migration.apply faults now h = (.ok (), closed k' t)) ∨
      ∃ e k', (migration.apply faults now h).1 = .error e ∧
        ((migration.apply faults now h).2 = closed k' h.committed ∨
          (migration.apply faults now h).2 = closed k' h.content ∨
          ∃ t, migration.Done now h.content t ∧
            (migration.apply faults now h).2 = holding k' h.content t) := by
  rcases closed_or_holding h with ended | ⟨s, opened⟩
  · rw [ended]
    rcases migration.apply_closed faults now h.ambient h.committed with
      done | ⟨e, k', raised, before | after⟩
    · exact .inl done
    · exact .inr ⟨e, k', raised, .inl before⟩
    · exact .inr ⟨e, k', raised, .inr (.inr after)⟩
  · rw [opened]
    rcases commits : faults.implicitCommit with _ | e | e
    · -- what was left open is committed, and the script starts from there
      have same : migration.apply faults now (holding h.ambient h.committed s) =
          migration.apply faults now (closed (Ambient.committed h.ambient) s) := by
        simp only [Migration.apply, Migration.execute, commits]
        rfl
      rw [same, holding_content, holding_committed]
      rcases migration.apply_closed faults now (Ambient.committed h.ambient) s with
        done | ⟨e, k', raised, before | after⟩
      · exact .inl done
      · exact .inr ⟨e, k', raised, .inr (.inl before)⟩
      · exact .inr ⟨e, k', raised, .inr (.inr after)⟩
    · refine .inr ⟨e, Ambient.rolledBack h.ambient, ?_, .inl ?_⟩ <;>
        simp only [Migration.apply, Migration.execute, commits] <;> rfl
    · refine .inr ⟨e, Ambient.rolledBack h.ambient, ?_, .inl ?_⟩ <;>
        simp only [Migration.apply, Migration.execute, commits] <;> rfl

/-! ## Prefixes of what is pending -/

/-- The database at first, with the first `k` pending scripts applied whole. -/
structure Reached (start : Store σ) (pending : List (Migration κ σ)) (k : Nat) (s : Store σ) :
    Prop where
  within : k ≤ pending.length
  recorded : s.recorded = start.recorded ++ (pending.take k).map Migration.version
  whole : wholeAll (pending.take k) start.rest = .ok s.rest
  fits : ∀ migration ∈ pending.take k, migration.Fits

theorem wholeAll_append (first second : List (Migration κ σ)) (rest : σ) :
    wholeAll (first ++ second) rest =
      match wholeAll first rest with
      | .error e => .error e
      | .ok rest' => wholeAll second rest' := by
  induction first generalizing rest with
  | nil => rfl
  | cons migration first ih =>
    simp only [List.cons_append, wholeAll]
    cases migration.whole rest with
    | error e => rfl
    | ok rest' => exact ih rest'

/-- A list without the images of its first elements. -/
theorem filter_notMem_take {α κ : Type} [DecidableEq κ] {f : α → κ} {l : List α}
    (distinct : (l.map f).Nodup) (k : Nat) :
    l.filter (fun a => decide (f a ∉ (l.take k).map f)) = l.drop k := by
  rw [← List.take_append_drop k l, List.map_append, List.nodup_append] at distinct
  have early : (l.take k).filter (fun a => decide (f a ∉ (l.take k).map f)) = [] := by
    rw [List.filter_eq_nil_iff]
    intro a member
    simp only [decide_eq_true_eq, not_not]
    exact List.mem_map_of_mem member
  have late : (l.drop k).filter (fun a => decide (f a ∉ (l.take k).map f)) = l.drop k := by
    rw [List.filter_eq_self]
    intro a member
    rw [decide_eq_true_eq]
    exact fun taken => distinct.2.2 _ taken _ (List.mem_map_of_mem member) rfl
  have both := List.filter_append (p := fun a => decide (f a ∉ (l.take k).map f)) (l.take k) (l.drop k)
  rwa [List.take_append_drop, early, late, List.nil_append] at both

section
variable {start s t : Store σ} {pending : List (Migration κ σ)} {migration : Migration κ σ} {k : Nat}

theorem Reached.zero : Reached start pending 0 start where
  within := Nat.zero_le _
  recorded := by simp
  whole := rfl
  fits := by simp

theorem Reached.next (reached : Reached start pending k s) {later : List (Migration κ σ)}
    (here : pending.drop k = migration :: later) (step : Next migration s t) :
    Reached start pending (k + 1) t ∧ pending.drop (k + 1) = later := by
  have more : k < pending.length := by
    have length := congrArg List.length here
    rw [List.length_drop, List.length_cons] at length
    omega
  rw [List.drop_eq_getElem_cons more, List.cons.injEq] at here
  obtain ⟨same, rfl⟩ := here
  have longer : pending.take (k + 1) = pending.take k ++ [migration] := by
    rw [List.take_add_one, List.getElem?_eq_getElem more, same]
    rfl
  refine ⟨⟨more, ?_, ?_, ?_⟩, rfl⟩
  · rw [step.recorded, reached.recorded, longer, List.map_append, List.append_assoc]
    rfl
  · rw [longer, wholeAll_append, reached.whole]
    simp only [wholeAll, step.whole]
  · intro other member
    rw [longer, List.mem_append, List.mem_singleton] at member
    rcases member with earlier | rfl
    · exact reached.fits other earlier
    · exact step.fits

/-- The versions that a run finds missing are those after the prefix. -/
theorem Reached.select {migrations : List (Migration κ σ)}
    (unique : (migrations.map Migration.version).Nodup)
    (reached : Reached start (migrations.filter (·.version ∉ start.recorded)) k s) :
    migrations.filter (·.version ∉ s.recorded) =
      (migrations.filter (·.version ∉ start.recorded)).drop k := by
  rw [reached.recorded]
  have distinct : ((migrations.filter (·.version ∉ start.recorded)).map Migration.version).Nodup :=
    unique.sublist (List.filter_sublist.map _)
  rw [← filter_notMem_take distinct k, List.filter_filter]
  apply List.filter_congr
  intro migration _
  simp [Bool.and_comm]

/-! ## A run -/

/-- What the connection reads, and what is committed, are prefixes. -/
structure Sound (start : Store σ) (pending : List (Migration κ σ)) (h : Handle κ (Store σ)) :
    Prop where
  committed : ∃ k, Reached start pending k h.committed
  content : ∃ k, Reached start pending k h.content

theorem Sound.closed (reached : Reached start pending k s) (ambient : κ) :
    Sound start pending (closed ambient s) :=
  ⟨⟨k, reached⟩, ⟨k, reached⟩⟩

theorem applyPending_sound (apart : ∀ migration ∈ pending, migration.Apart) (now : Instant)
    (faults : List ApplyFaults) {later : List (Migration κ σ)} (here : pending.drop k = later)
    {h : Handle κ (Store σ)} (committed : ∃ k, Reached start pending k h.committed)
    (content : Reached start pending k h.content) :
    Sound start pending (applyPending now faults later h).2 := by
  induction later generalizing faults k h with
  | nil => exact ⟨committed, ⟨k, content⟩⟩
  | cons migration later ih =>
    have alone : migration.Apart := by
      apply apart
      apply List.mem_of_mem_drop
      rw [here]
      exact List.mem_cons_self
    rw [applyPending]
    cases (faults.headD .none).readText with
    | some e => exact ⟨committed, ⟨k, content⟩⟩
    | none =>
      rcases migration.apply_cases (faults.headD .none) now h with
        ⟨ambient, t, done, applied⟩ | ⟨e, ambient, raised, ended⟩
      · obtain ⟨further, rest⟩ := content.next here (migration.work_next alone done)
        simp only [applied]
        exact ih faults.tail rest (h := Handle.closed ambient t) ⟨k + 1, further⟩ further
      · generalize migration.apply (faults.headD .none) now h = outcome at raised ended
        obtain ⟨result, h'⟩ := outcome
        cases raised
        rcases ended with rfl | rfl | ⟨t, done, rfl⟩
        · obtain ⟨j, before⟩ := committed
          exact .closed before _
        · exact .closed content _
        · obtain ⟨further, -⟩ := content.next here (migration.work_next alone done)
          exact ⟨⟨k, content⟩, ⟨k + 1, further⟩⟩

/-- A statement that changes neither the versions nor the rest. -/
theorem Sound.execute {ρ : Type} {act : Store σ → Except Raised (ρ × Store σ)}
    (keeps : ∀ s r t, act s = .ok (r, t) → t.recorded = s.recorded ∧ t.rest = s.rest)
    {h : Handle κ (Store σ)} (sound : Sound start pending h) (fault : Option (Fault Raised)) :
    Sound start pending (h.execute fault (onContent act)).2 := by
  obtain ⟨j, before⟩ := sound.committed
  obtain ⟨k, reads⟩ := sound.content
  rcases fault with _ | e | e
  · rw [Handle.execute, onContent]
    cases ran : act h.content with
    | error e => exact sound
    | ok reply =>
      obtain ⟨versions, rest⟩ := keeps h.content reply.1 reply.2 ran
      have after : Reached start pending k reply.2 :=
        ⟨reads.within, versions.trans reads.recorded, rest ▸ reads.whole, reads.fits⟩
      rcases closed_or_holding h with ended | ⟨s, opened⟩
      · rw [ended]
        exact .closed after _
      · rw [opened]
        exact ⟨⟨j, before⟩, ⟨k, after⟩⟩
  · exact sound
  · refine ⟨⟨j, ?_⟩, ⟨j, ?_⟩⟩
    · rw [Handle.execute, rollback_committed]
      exact before
    · rw [Handle.execute, eq_closed (rollback_pending h), closed_content, rollback_committed]
      exact before

theorem createSchemaVersion_keeps (s : Store σ) (r : Unit) (t : Store σ)
    (created : createSchemaVersion s = .ok (r, t)) : t.recorded = s.recorded ∧ t.rest = s.rest := by
  cases created
  exact ⟨rfl, rfl⟩

theorem selectVersions_ok {s t : Store σ} {applied : List Int}
    (selected : selectVersions s = .ok (applied, t)) : applied = s.recorded ∧ t = s := by
  unfold selectVersions at selected
  split at selected
  · cases selected
  · rename_i table present
    cases selected
    exact ⟨by simp [Store.recorded, present], rfl⟩

theorem selectVersions_keeps (s : Store σ) (r : List Int) (t : Store σ)
    (selected : selectVersions s = .ok (r, t)) : t.recorded = s.recorded ∧ t.rest = s.rest := by
  rw [(selectVersions_ok selected).2]
  exact ⟨rfl, rfl⟩

theorem execute_select {h h' : Handle κ (Store σ)} {fault : Option (Fault Raised)}
    {applied : List Int} (selected : h.execute fault (onContent selectVersions) = (.ok applied, h')) :
    applied = h'.content.recorded := by
  rcases fault with _ | e | e
  · rw [Handle.execute, onContent] at selected
    cases ran : selectVersions h.content with
    | error e => simp [ran] at selected
    | ok reply =>
      have read : selectVersions h.content = .ok (reply.1, reply.2) := ran
      obtain ⟨versions, same⟩ := selectVersions_ok read
      simp only [ran, Prod.mk.injEq, Except.ok.injEq] at selected
      obtain ⟨rfl, rfl⟩ := selected
      rw [versions, same]
      rcases closed_or_holding h with ended | ⟨s, opened⟩
      · rw [ended]
        rfl
      · rw [opened]
        rfl
  · cases selected
  · cases selected

end

section
variable {text : Text} {directory : List (SqlFile κ σ)} {migrations : List (Migration κ σ)}
  {start : Store σ} {h : Handle κ (Store σ)}

theorem migrate_sound (discovered : discover text directory = .ok migrations)
    (unique : (migrations.map Migration.version).Nodup)
    (apart : ∀ migration ∈ migrations, migration.Apart) (faults : MigrateFaults) (now : Instant)
    (sound : Sound start (pendingOf migrations start) h) :
    Sound start (pendingOf migrations start) (migrate text faults now directory h).2 := by
  have created := sound.execute createSchemaVersion_keeps faults.create
  rw [migrate]
  generalize h.execute faults.create (onContent createSchemaVersion) = outcome at created
  obtain ⟨_ | _, h₁⟩ := outcome
  · exact created
  · have selected := created.execute selectVersions_keeps faults.select
    simp only at selected ⊢
    cases ran : h₁.execute faults.select (onContent selectVersions) with
    | mk result h₂ =>
      rw [ran] at selected
      cases result with
      | error e => exact selected
      | ok applied =>
        obtain ⟨k, content⟩ := selected.content
        have here := content.select unique
        rw [← execute_select ran] at here
        have applies := applyPending_sound
          (fun migration member => apart migration (List.mem_of_mem_filter member)) now
          faults.applies rfl selected.committed content
        simp only [discovered, here]
        generalize applyPending now faults.applies _ h₂ = ended at applies ⊢
        obtain ⟨_ | _, h₃⟩ := ended
        · exact applies
        · exact applies

def performAll (text : Text) (directory : List (SqlFile κ σ)) (attempts : List MigrationRun)
    (h : Handle κ (Store σ)) : Handle κ (Store σ) :=
  attempts.foldl (MigrationRun.perform text directory) h

theorem performAll_sound (discovered : discover text directory = .ok migrations)
    (unique : (migrations.map Migration.version).Nodup)
    (apart : ∀ migration ∈ migrations, migration.Apart) (attempts : List MigrationRun)
    (sound : Sound start (pendingOf migrations start) h) :
    Sound start (pendingOf migrations start) (performAll text directory attempts h) := by
  induction attempts generalizing h with
  | nil => exact sound
  | cons attempt attempts ih =>
    apply ih
    have ran := migrate_sound discovered unique apart attempt.faults attempt.now sound
    rw [MigrationRun.perform]
    split
    · obtain ⟨k, committed⟩ := ran.committed
      exact .closed committed _
    · exact ran

end

end

end Keyring

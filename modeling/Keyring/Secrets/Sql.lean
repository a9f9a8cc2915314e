import Keyring.Accounts.SqlStore

/-!
# Encrypted credential material and the audit log, as rows

A secret is a row per triple, with no reference to the profiles: only the
account it names has to exist.  The audit table is trimmed to its bound in the
transaction that inserts, and numbers its rows by `sqlite_sequence`.
-/

set_option autoImplicit false

namespace Keyring

open Relational

/-- The columns of a secret that an upsert overwrites. -/
def SecretRow.reseal (row : SecretRow) (envelope : Envelope) (now : Instant) : SecretRow :=
  { row with envelope := envelope, updatedAt := now }

theorem SecretRow.reseal_key (row : SecretRow) (envelope : Envelope) (now : Instant) :
    (row.reseal envelope now).key = row.key := rfl

inductive SecretOp where
  | get (accountId profile service : String)
  | put (accountId profile service : String) (envelope : Envelope) (now : Instant)
  | delete (accountId profile service : String)
  | deleteProfile (accountId profile : String)

namespace SecretOp

@[reducible] def Ans : SecretOp → Type
  | get _ _ _ => Option Envelope
  | put _ _ _ _ _ => Unit
  | delete _ _ _ => Bool
  | deleteProfile _ _ => Nat

def run : (o : SecretOp) → Transaction o.Ans
  | get accountId profile service => select fun db =>
      (db.secrets.find? (accountId, profile, service)).map (·.envelope)
  | put accountId profile service envelope now => fun db =>
      if (db.accounts.find? accountId).isNone then .error foreignKeyFailed
      else .ok ((), { db with
        secrets := db.secrets.upsert ⟨accountId, profile, service, envelope, now, now⟩
          (·.reseal envelope now) (·.reseal_key envelope now) })
  | delete accountId profile service => execute fun db =>
      ((db.secrets.find? (accountId, profile, service)).isSome,
        { db with secrets := db.secrets.deleteWhere (·.key = (accountId, profile, service)) })
  | deleteProfile accountId profile => execute fun db =>
      let hit := fun row : SecretRow => row.accountId = accountId && row.profileName = profile
      (db.secrets.countWhere hit, { db with secrets := db.secrets.deleteWhere hit })

end SecretOp

/-! ## The audit log -/

inductive AuditOp where
  | record (entry : AuditEntry)
  | recent (limit : Nat) (actorId : Option String)
  | count

namespace AuditOp

@[reducible] def Ans : AuditOp → Type
  | record _ => Unit
  | recent _ _ => List AuditEntry
  | count => Nat

def run (maxEntries : Nat) : (o : AuditOp) → Transaction o.Ans
  | record entry => fun db =>
      if db.audit.rows.any (·.entryId = entry.entryId) then
        .error (uniqueFailed "audit.entry_id")
      else
        let sequence := db.auditSequence + 1
        match insertRow db.audit { entry with sequence := sequence } "audit.sequence" with
        | .error e => .error e
        | .ok audit => .ok ((), { db with
            audit := audit.deleteWhere fun row => row.sequence + maxEntries ≤ sequence
            auditSequence := sequence })
  | recent limit actorId => select fun db =>
      (((db.audit.rows.filter fun row => actorId.isNone || actorId = some row.actorId).insertionSort
        fun a b => b.sequence ≤ a.sequence).take limit).map (·.toAuditEntry)
  | count => select fun db => db.audit.rows.length

end AuditOp

/-! ## What the stores commit -/

namespace SecretOp

variable {db db' : Db}

theorem get_ok {accountId profile service : String} {found : Option Envelope}
    (committed : (get accountId profile service).run.run db = .ok (found, db')) :
    found = (db.secrets.find? (accountId, profile, service)).map (·.envelope) ∧ db' = db := by
  cases committed
  exact ⟨rfl, rfl⟩

/-- A `put` leaves a row with the new envelope, and every other triple alone. -/
theorem put_ok {accountId profile service : String} {envelope : Envelope} {now : Instant}
    {u : Unit}
    (committed : (put accountId profile service envelope now).run.run db = .ok (u, db')) :
    (db.accounts.find? accountId).isSome ∧ db' = { db with secrets := db'.secrets } ∧
      (∃ row, db'.secrets.find? (accountId, profile, service) = some row ∧
        row.envelope = envelope) ∧
      ∀ triple, triple ≠ (accountId, profile, service) →
        db'.secrets.find? triple = db.secrets.find? triple := by
  simp only [run, StateT.run] at committed
  split at committed
  · cases committed
  · rename_i present
    rw [Option.isNone_iff_eq_none, ← ne_eq, Option.ne_none_iff_isSome] at present
    cases committed
    refine ⟨present, rfl, ?_, fun triple other => ?_⟩
    · rw [Table.find?_upsert]
      refine ⟨_, if_pos rfl, ?_⟩
      cases db.secrets.find? (accountId, profile, service) <;> rfl
    · rw [Table.find?_upsert]
      exact if_neg (Ne.symm other)

theorem delete_ok {accountId profile service : String} {gone : Bool}
    (committed : (delete accountId profile service).run.run db = .ok (gone, db')) :
    db' = { db with secrets := db'.secrets } ∧
      ∀ triple, db'.secrets.find? triple =
        if triple = (accountId, profile, service) then none else db.secrets.find? triple := by
  cases committed
  refine ⟨rfl, fun triple => ?_⟩
  rw [Table.find?_deleteWhere]
  cases found : db.secrets.find? triple with
  | none => simp
  | some row =>
      obtain ⟨-, rfl⟩ := Table.find?_eq_some.mp found
      by_cases same : row.key = (accountId, profile, service) <;> simp [same]

theorem deleteProfile_ok {accountId profile : String} {gone : Nat}
    (committed : (deleteProfile accountId profile).run.run db = .ok (gone, db')) :
    db' = { db with secrets := db'.secrets } ∧
      ∀ triple : Triple, db'.secrets.find? triple =
        if triple.1 = accountId ∧ triple.2.1 = profile then none
        else db.secrets.find? triple := by
  cases committed
  refine ⟨rfl, fun triple => ?_⟩
  rw [Table.find?_deleteWhere]
  cases found : db.secrets.find? triple with
  | none => simp
  | some row =>
      obtain ⟨-, rfl⟩ := Table.find?_eq_some.mp found
      by_cases mine : row.accountId = accountId ∧ row.profileName = profile
      · simp [SecretRow.key, mine]
      · simp [SecretRow.key, mine, not_and_or.mp mine]

/-- Secret operations touch no other table. -/
theorem frame {o : SecretOp} {a : o.Ans} (committed : o.run.run db = .ok (a, db')) :
    db' = { db with secrets := db'.secrets } := by
  cases o with
  | get accountId profile service => rw [(get_ok committed).2]
  | put accountId profile service envelope now => exact (put_ok committed).2.1
  | delete accountId profile service => exact (delete_ok committed).1
  | deleteProfile accountId profile => exact (deleteProfile_ok committed).1

end SecretOp

end Keyring

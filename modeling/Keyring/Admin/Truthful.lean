import Keyring.Domain.Repr
import Keyring.Interleave.Tally
import Keyring.Scenario
import Keyring.Writes
import Keyring.Admin.Footprint
import Mathlib.Algebra.Order.BigOperators.Group.List

/-!
# Administrative requests are all or nothing, and audited as they happened

A request that raises has changed no row, and as many deletions are recorded as
were made.  Both are read off one weight for the steps of a request: how often it
has changed anything or recorded something, and how many deletions it has
recorded more than it has made.
-/

set_option autoImplicit false

namespace Keyring

open Interleave Relational

variable {env : Env}

/-! ## What is counted -/

def appended (env : Env) : Event (machine env) → Option AuditEntry
  | ⟨_, .audit (.record entry), .ok _, _, _⟩ => some entry
  | _ => none

/-- Every attempt to record an entry has succeeded. -/
def Audited (e : Event (machine env)) : Prop :=
  ∀ entry, e.op = .audit (.record entry) → appended env e = some entry

/-- What an administrative request may delete. -/
inductive Target where
  | account (accountId : String)
  | role (name : String)
  | profile (accountId name : String)

namespace Target

/-- The entries that say the target was deleted.  A profile is named there as the
request has spelled it. -/
def recordedBy (text : Text) : Target → AuditEntry → Prop
  | account accountId, entry => entry.action = .accountDeleted ∧ entry.targetId = some accountId
  | role name, entry => entry.action = .roleDeleted ∧ entry.detail = s!"role {repr text name}"
  | profile accountId name, entry =>
      entry.action = .profileDeletedByAdmin ∧ entry.targetId = some accountId ∧
        ∃ spelled, normalizeProfileName text spelled = .ok name ∧
          entry.detail = s!"profile {repr text spelled}"

def stored : Target → Db → Bool
  | account accountId, db => (db.accounts.find? accountId).isSome
  | role name, db => (db.roles.find? name).isSome
  | profile accountId name, db => (db.profiles.find? (accountId, name)).isSome

/-- The requests that delete targets of this kind for themselves. -/
def deletedBy : Target → AdminCall → Bool
  | account _, .deleteAccount _ => true
  | role _, .deleteRole _ => true
  | profile _ _, .deleteProfile _ _ => true
  | _, _ => false

/-- A step has removed the target. -/
def removedBy (target : Target) (e : Event (machine env)) : Bool :=
  target.stored e.before.db && !target.stored e.after.db

noncomputable instance (text : Text) (target : Target) (entry : AuditEntry) :
    Decidable (target.recordedBy text entry) :=
  match target with
  | account _ => inferInstanceAs (Decidable (_ ∧ _))
  | role _ => inferInstanceAs (Decidable (_ ∧ _))
  | profile _ _ => Classical.propDecidable _

/-- An event has recorded that the target was deleted. -/
noncomputable def entered (target : Target) (e : Event (machine env)) : Bool :=
  (appended env e).any fun entry => target.recordedBy env.text entry

end Target

/-- The caller is a request that deletes targets of this kind. -/
def deletes (calls : List Call) (target : Target) (i : Nat) : Bool :=
  match calls[i]? with
  | some (.admin _ c) => target.deletedBy c
  | _ => false

noncomputable def entries (target : Target) (tr : List (Event (machine env))) : Nat :=
  tr.countP target.entered

def removals (calls : List Call) (target : Target) (tr : List (Event (machine env))) : Nat :=
  tr.countP fun e => deletes calls target e.thread && target.removedBy e

/-- Administrative requests that raised have changed no row, and when all of them
have ended, as many deletions of a target are recorded as such requests have made. -/
structure Truthful (calls : List Call) (tr : List (Event (machine env)))
    (d : Config (machine env) Error Answer) : Prop where
  raised : ∀ (i : Nat) actor c error, calls[i]? = some (.admin actor c) →
    d.pool[i]? = some (.done (.error error)) → ∀ e ∈ ofThread i tr, e.after.db = e.before.db
  counted : (∀ (i : Nat) actor c, calls[i]? = some (.admin actor c) → ∃ r, d.pool[i]? = some (.done r)) →
    ∀ target, entries target tr = removals calls target tr

/-! ## When it goes well -/

/-- The reset grant can be stored: its account is there, and what it is drawn
with is not in use. -/
def Insertable (grant : Grant) (db : Db) : Prop :=
  db.grants.find? grant.grantId = none ∧ (∀ row ∈ db.grants, row.tokenHash ≠ grant.tokenHash) ∧
    ∀ accountId, grant.accountId = some accountId → (db.accounts.find? accountId).isSome

def Outstanding (accountId : String) (purpose : GrantPurpose) (db : Db) : Prop :=
  ∃ row ∈ db.grants, row.accountId = some accountId ∧ row.purpose = purpose ∧ row.revoked = false

/-- No deletion of an account finds it gone, and no reset link that replaced
others ends past the last instant or is refused by the store. -/
structure Undisturbed (calls : List Call) (tr : List (Event (machine env))) : Prop where
  deletions : ∀ e ∈ tr, ∀ actor accountId,
    calls[e.thread]? = some (.admin actor (.deleteAccount accountId)) →
    e.op = .accounts (.delete accountId) → (e.before.db.accounts.find? accountId).isSome
  resets : ∀ (i : Nat) actor accountId, calls[i]? = some (.admin actor (.issuePasswordReset accountId)) →
    ((∀ now s t, ⟨i, .now, now, s, t⟩ ∈ tr →
        Representable (now + seconds env.settings.resetTtlSeconds)) ∧
      ∀ e ∈ ofThread i tr, ∀ grant, e.op = .grants (.add grant) → Insertable grant e.before.db) ∨
      ∀ e ∈ ofThread i tr, ∀ revoked purpose, e.op = .grants (.revokeAllForAccount revoked purpose) →
        ¬Outstanding revoked purpose e.before.db

theorem onDb_failed {α : Type} {work : Transaction α} {s t : World} {e : Error}
    (done : onDb work s = some (.error e, t)) : t.db = s.db := by
  rcases onDb_cases done with ⟨v, impossible, -⟩ | ⟨-, same⟩
  · cases impossible
  · exact same

theorem removed_iff {ρ κ : Type} {key : ρ → κ} [DecidableEq κ] {t : Table key} {p : ρ → Bool}
    {k k' : κ} (names : ∀ row, p row = decide (key row = k')) (here : (t.find? k').isSome) :
    ((t.find? k).isSome && !((t.deleteWhere p).find? k).isSome) = decide (k = k') := by
  rw [Table.find?_deleteWhere]
  by_cases same : k = k'
  · subst same
    obtain ⟨row, found⟩ := Option.isSome_iff_exists.mp here
    have keyed := (Table.find?_eq_some.mp found).2
    simp [found, names, keyed]
  · cases found : t.find? k with
    | none => simp [same]
    | some row =>
        have keyed := (Table.find?_eq_some.mp found).2
        simp [names, keyed, same]

theorem deleteProfiles_absent {db : Db} {accountId name : String}
    (absent : (db.profiles.find? (accountId, name)).isSome = false) :
    db.deleteProfiles (fun row => row.accountId = accountId && row.name = name) = db := by
  rw [Option.isSome_eq_false_iff, Option.isNone_iff_eq_none, Table.find?_eq_none] at absent
  have unhit : ∀ row ∈ db.profiles,
      (decide (row.accountId = accountId) && decide (row.name = name)) = false := by
    intro row stored
    by_contra hit
    simp only [Bool.not_eq_false, Bool.and_eq_true, decide_eq_true_eq] at hit
    exact absent row stored (Prod.ext hit.1 hit.2)
  have none_gone : db.profiles.rows.filter
      (fun row => decide (row.accountId = accountId) && decide (row.name = name)) = [] :=
    List.filter_eq_nil_iff.mpr fun row stored => by simp [unhit row stored]
  simp [Db.deleteProfiles, none_gone, Table.deleteWhere_eq_self.mpr unhit,
    Table.deleteWhere_eq_self.mpr]

theorem GrantOp.add_stores {grant : Grant} {db : Db} (free : Insertable grant db) :
    ∃ db', (GrantOp.add grant).run.run db = .ok ((), db') := by
  obtain ⟨unused, unhashed, present⟩ := free
  have fresh : grant.grantId ∉ db.grants.rows.map (·.grantId) := by
    rw [← Table.isSome_find?, unused]
    decide
  have row : insertRow db.grants grant "grants.grant_id" = .ok (db.grants.append grant fresh) :=
    insertRow_ok.mpr (Table.insert?_eq_some.mpr ⟨fresh, rfl⟩)
  have single : ¬db.grants.rows.any (fun row => row.tokenHash = grant.tokenHash) := by
    simp only [List.any_eq_true, decide_eq_true_eq, not_exists, not_and]
    exact unhashed
  have owned : ¬grant.accountId.any fun accountId => (db.accounts.find? accountId).isNone := by
    cases named : grant.accountId with
    | none => simp
    | some accountId => simp [Option.isSome_iff_ne_none.mp (present accountId named)]
  refine ⟨{ db with grants := db.grants.append grant fresh }, ?_⟩
  change (if db.grants.rows.any (fun row => row.tokenHash = grant.tokenHash) then _ else _) = _
  rw [if_neg single, row]
  exact if_neg owned

/-! ## The weight of a step -/

section Weight

variable {target : Target} {mine : Bool} {e : Event (machine env)}

open Classical in
/-- Whether a step has changed a row, and how many deletions of the target it has
recorded more than made; what it removes counts if its caller deletes such targets. -/
noncomputable def weight (target : Target) (mine : Bool) (e : Event (machine env)) : ℕ × ℤ :=
  (if e.after.db = e.before.db then 0 else 1,
    (if target.entered e then 1 else 0) - if mine && target.removedBy e then 1 else 0)

/-- The step was taken as the services take it. -/
def Ran (e : Event (machine env)) : Prop :=
  ∃ x, exec env e.op x e.before = some (e.ans, e.after)

theorem appended_eq_none (silent : ∀ entry, e.op ≠ .audit (.record entry)) :
    appended env e = none := by
  unfold appended
  split
  · exact absurd rfl (silent _)
  · rfl

theorem entered_eq_false (silent : ∀ entry, e.op ≠ .audit (.record entry)) :
    target.entered e = false := by
  rw [Target.entered, appended_eq_none silent]
  rfl

theorem weight_silent (silent : ∀ entry, e.op ≠ .audit (.record entry)) :
    (weight target mine e).2 = -(if mine && target.removedBy e then 1 else 0) := by
  rw [weight, entered_eq_false silent]
  simp

theorem weight_still (same : e.after.db = e.before.db)
    (silent : ∀ entry, e.op ≠ .audit (.record entry)) : weight target mine e = 0 := by
  have kept : target.removedBy e = false := by simp [Target.removedBy, same]
  rw [weight, entered_eq_false silent, kept, if_pos same]
  simp

theorem weight_idle (ran : Ran e) (idle : e.op.idle) : weight target mine e = 0 := by
  obtain ⟨x, done⟩ := ran
  apply weight_still (exec_idle done idle)
  intro entry recorded
  rw [recorded] at idle
  exact idle

end Weight

/-! ## Programs -/

section Programs

variable {target : Target} {mine : Bool} {kept : Event (machine env) → Prop} {α β : Type}
  {p : Service env α} {k : α → ℤ}

/-- The program changes and records nothing. -/
def Still (target : Target) (mine : Bool) (kept : Event (machine env) → Prop)
    (p : Service env α) : Prop :=
  p.Leaves kept (weight target mine) fun _ m => m = 0

/-- What the program has raised it has raised before any change. -/
def Whole (target : Target) (mine : Bool) (kept : Event (machine env) → Prop)
    (p : Service env α) (k : α → ℤ) : Prop :=
  p.Leaves kept (weight target mine) fun r m =>
    match r with
    | .error _ => m = 0
    | .ok a => m.2 = k a

/-- The program raises nothing. -/
def Sure (target : Target) (mine : Bool) (kept : Event (machine env) → Prop)
    (p : Service env α) (k : α → ℤ) : Prop :=
  p.Leaves kept (weight target mine) fun r m => ∃ a, r = .ok a ∧ m.2 = k a

theorem Still.bind {f : α → Service env β} {l : β → ℤ} (first : Still target mine kept p)
    (rest : ∀ a, Whole target mine kept (f a) l) : Whole target mine kept (p >>= f) l := by
  refine Prog.Leaves.bind first ?_ ?_
  · rintro e m rfl
    rfl
  · rintro a m rfl
    simpa [Whole] using rest a

theorem Whole.bind {f : α → Service env β} {l : β → ℤ} (first : Whole target mine kept p k)
    (rest : ∀ a, Sure target mine kept (f a) fun b => l b - k a) :
    Whole target mine kept (p >>= f) l := by
  refine Prog.Leaves.bind first (fun e m nothing => nothing) ?_
  intro a m balance
  refine Prog.Leaves.mono ?_ (rest a)
  rintro r n ⟨b, rfl, settled⟩
  have balance : m.2 = k a := balance
  change (m + n).2 = l b
  rw [Prod.snd_add, balance, settled]
  exact add_sub_cancel _ _

theorem Sure.bind {f : α → Service env β} {l : β → ℤ} (first : Sure target mine kept p k)
    (rest : ∀ a, Sure target mine kept (f a) fun b => l b - k a) :
    Sure target mine kept (p >>= f) l := by
  refine Prog.Leaves.bind first ?_ ?_
  · rintro e m ⟨a, impossible, -⟩
    cases impossible
  · rintro a m ⟨a', same, balance⟩
    cases same
    refine Prog.Leaves.mono ?_ (rest a)
    rintro r n ⟨b, rfl, settled⟩
    refine ⟨b, rfl, ?_⟩
    rw [Prod.snd_add, balance, settled]
    exact add_sub_cancel _ _

theorem Sure.pure {a : α} (balance : k a = 0) : Sure target mine kept (pure a : Service env α) k :=
  Prog.Leaves.done ⟨a, rfl, balance.symm⟩

theorem Sure.whole (sure : Sure target mine kept p k) : Whole target mine kept p k := by
  refine Prog.Leaves.mono ?_ sure
  rintro r m ⟨a, rfl, balance⟩
  exact balance

theorem Still.whole (still : Still target mine kept p) : Whole target mine kept p fun _ => 0 := by
  refine Prog.Leaves.mono ?_ still
  rintro r m rfl
  cases r <;> rfl

theorem Whole.returning {answer : α → Answer} (whole : Whole target mine kept p fun _ => 0) :
    Whole target mine kept (returning p answer) fun _ => 0 :=
  Whole.bind whole fun _ => Sure.pure (by simp)

theorem Sure.congr {l : α → ℤ} (sure : Sure target mine kept p k) (same : ∀ a, k a = l a) :
    Sure target mine kept p l := by
  rwa [← funext same]

theorem Still.ofExcept (r : Except Error α) : Still target mine kept (Prog.ofExcept r) :=
  Prog.Leaves.done rfl

theorem Still.refuseIf (c : Prop) [Decidable c] (e : Error) :
    Still target mine kept (refuseIf c e) := by
  rw [Keyring.refuseIf]
  split <;> exact Prog.Leaves.done rfl

theorem Whole.call {o : Op} {result : o.Ans → Except Error α}
    (failed : ∀ i a s t e, kept ⟨i, o, a, s, t⟩ → result a = .error e →
      weight target mine ⟨i, o, a, s, t⟩ = 0)
    (done : ∀ i a s t v, kept ⟨i, o, a, s, t⟩ → result a = .ok v →
      (weight target mine ⟨i, o, a, s, t⟩).2 = k v) :
    Whole target mine kept (.call o fun a => .done (result a) : Service env α) k := by
  apply Prog.Leaves.call
  intro i a s t keeps
  apply Prog.Leaves.done
  cases answered : result a with
  | error e => simpa using failed i a s t e keeps answered
  | ok v => simpa using done i a s t v keeps answered

theorem Sure.call {o : Op} {result : o.Ans → Except Error α}
    (done : ∀ i a s t, kept ⟨i, o, a, s, t⟩ → ∃ v, result a = .ok v ∧
      (weight target mine ⟨i, o, a, s, t⟩).2 = k v) :
    Sure target mine kept (.call o fun a => .done (result a) : Service env α) k := by
  apply Prog.Leaves.call
  intro i a s t keeps
  apply Prog.Leaves.done
  obtain ⟨v, answered, balance⟩ := done i a s t keeps
  exact ⟨v, answered, by simpa using balance⟩

end Programs

/-! ## Steps -/

section Steps

variable {target : Target} {mine : Bool} {kept : Event (machine env) → Prop} {α β : Type}
  {p : Service env α} (ran : ∀ e, kept e → Ran e)
include ran

theorem Still.of_idle (uses : p.Uses fun (o : Op) => o.idle) : Still target mine kept p :=
  Prog.Leaves.of_uses uses fun e keeps idle => weight_idle (ran e keeps) idle

theorem Sure.ask {o : Op} (idle : o.idle) :
    Sure target mine kept (ask o : Service env o.Ans) fun _ => 0 := by
  apply Sure.call
  intro i a s t keeps
  exact ⟨a, rfl, by rw [weight_idle (ran _ keeps) idle]; rfl⟩

theorem Sure.readClock {β : Type} {f : Instant → Service env β} {l : β → ℤ}
    (rest : ∀ i now s t, kept ⟨i, .now, now, s, t⟩ → Sure target mine kept (f now) l) :
    Sure target mine kept (clockNow >>= f) l := by
  apply Prog.Leaves.call
  intro i now s t keeps
  have nothing : weight target mine (⟨i, .now, now, s, t⟩ : Event (machine env)) = 0 :=
    weight_idle (ran _ keeps) trivial
  refine Prog.Leaves.mono (fun r m ended => ?_) (rest i now s t keeps)
  rwa [nothing, zero_add]

theorem Sure.getAccount (accountId : String) :
    Sure target mine kept (accountStore (.get accountId) : Service env (Option Account))
      fun _ => 0 := by
  apply Sure.call
  intro i a s t keeps
  obtain ⟨x, done⟩ : ∃ x, exec env (.accounts (.get accountId)) x s = some (a, t) := ran _ keeps
  rw [exec_get] at done
  cases done
  exact ⟨_, rfl, by rw [weight_idle (ran _ keeps) trivial]; rfl⟩

/-! A caller that deletes no such target is charged for what it records only. -/

theorem Sure.revokeAll (accountId : String) (keep : Option String) :
    Sure target false kept (sessionStore (.revokeAll accountId keep) : Service env Nat)
      fun _ => 0 := by
  apply Sure.call
  intro i a s t keeps
  obtain ⟨x, done⟩ : ∃ x, exec env (.sessions (.revokeAll accountId keep)) x s = some (a, t) :=
    ran _ keeps
  cases done
  exact ⟨_, rfl, by simp [weight_silent]⟩

theorem Sure.revokeGrants (accountId : String) (purpose : GrantPurpose) :
    Sure target false kept (grantStore (.revokeAllForAccount accountId purpose) : Service env Nat)
      fun _ => 0 := by
  apply Sure.call
  intro i a s t keeps
  obtain ⟨x, done⟩ : ∃ x, exec env (.grants (.revokeAllForAccount accountId purpose)) x s =
      some (a, t) := ran _ keeps
  cases done
  exact ⟨_, rfl, by simp [weight_silent]⟩

theorem Whole.accounts (o : AccountOp) :
    Whole target false kept (accountStore o : Service env o.Ans) fun _ => 0 := by
  apply Whole.call
  · rintro i a s t e keeps rfl
    obtain ⟨x, done⟩ : ∃ x, exec env (.accounts o) x s = some (.error e, t) := ran _ keeps
    exact weight_still (onDb_failed done) fun entry => Op.noConfusion
  · intro i a s t v _ _
    simp [weight_silent]

theorem Whole.grants (o : GrantOp) :
    Whole target false kept (grantStore o : Service env o.Ans) fun _ => 0 := by
  apply Whole.call
  · rintro i a s t e keeps rfl
    obtain ⟨x, done⟩ : ∃ x, exec env (.grants o) x s = some (.error e, t) := ran _ keeps
    exact weight_still (onDb_failed done) fun entry => Op.noConfusion
  · intro i a s t v _ _
    simp [weight_silent]

theorem Whole.roles (o : RoleOp) :
    Whole target false kept (roleStore o : Service env o.Ans) fun _ => 0 := by
  apply Whole.call
  · rintro i a s t e keeps rfl
    obtain ⟨x, done⟩ : ∃ x, exec env (.roles o) x s = some (.error e, t) := ran _ keeps
    exact weight_still (onDb_failed done) fun entry => Op.noConfusion
  · intro i a s t v _ _
    simp [weight_silent]

/-! A deletion that has found its target is charged for it. -/

theorem Whole.deleteAccount {accountId other : String}
    (present : ∀ e, kept e → e.op = .accounts (.delete accountId) →
      (e.before.db.accounts.find? accountId).isSome) :
    Whole (.account other) true kept (accountStore (.delete accountId) : Service env Bool)
      fun _ => if other = accountId then -1 else 0 := by
  apply Whole.call
  · rintro i a s t e keeps rfl
    obtain ⟨x, done⟩ : ∃ x, exec env (.accounts (.delete accountId)) x s = some (.error e, t) :=
      ran _ keeps
    exact weight_still (onDb_failed done) fun entry => Op.noConfusion
  · rintro i a s t gone keeps rfl
    obtain ⟨x, done⟩ : ∃ x, exec env (.accounts (.delete accountId)) x s = some (.ok gone, t) :=
      ran _ keeps
    have here : (s.db.accounts.find? accountId).isSome := present _ keeps rfl
    rcases onDb_cases done with ⟨v, -, committed⟩ | ⟨⟨e, impossible⟩, -⟩
    · rcases AccountOp.delete_ok committed with ⟨-, absent, -⟩ | ⟨-, -, -, deleted⟩
      · rw [absent] at here
        cases here
      · rw [weight_silent fun entry => Op.noConfusion]
        have removed : Target.removedBy (.account other)
            (⟨i, .accounts (.delete accountId), .ok gone, s, t⟩ : Event (machine env)) =
              decide (other = accountId) := by
          rw [Target.removedBy, Target.stored, Target.stored, deleted]
          exact removed_iff (fun row => rfl) here
        rw [removed]
        by_cases same : other = accountId <;> simp [same]
    · cases impossible

theorem Whole.deleteRole {name other : String} :
    Whole (.role other) true kept (roleStore (.delete name) : Service env Unit)
      fun _ => if other = name then -1 else 0 := by
  apply Whole.call
  · rintro i a s t e keeps rfl
    obtain ⟨x, done⟩ : ∃ x, exec env (.roles (.delete name)) x s = some (.error e, t) :=
      ran _ keeps
    exact weight_still (onDb_failed done) fun entry => Op.noConfusion
  · rintro i a s t gone keeps rfl
    obtain ⟨x, done⟩ : ∃ x, exec env (.roles (.delete name)) x s = some (.ok gone, t) :=
      ran _ keeps
    rcases onDb_cases done with ⟨v, -, committed⟩ | ⟨⟨e, impossible⟩, -⟩
    · obtain ⟨⟨row, found, -⟩, -, deleted⟩ := RoleOp.delete_ok committed
      rw [weight_silent fun entry => Op.noConfusion]
      have removed : Target.removedBy (.role other)
          (⟨i, .roles (.delete name), .ok gone, s, t⟩ : Event (machine env)) =
            decide (other = name) := by
        rw [Target.removedBy, Target.stored, Target.stored, deleted]
        exact removed_iff (fun row => rfl) (Option.isSome_iff_exists.mpr ⟨row, found⟩)
      rw [removed]
      by_cases same : other = name <;> simp [same]
    · cases impossible

end Steps

/-! ## Recording -/

section Records

variable {target : Target} {mine : Bool} {kept : Event (machine env) → Prop}

theorem Sure.record (ran : ∀ e, kept e → Ran e) (audited : ∀ e, kept e → Audited e)
    {actor : Actor} {action : AuditAction} {targetId : Option String} {detail : String} {P : Prop}
    [Decidable P] (hit : ∀ entry : AuditEntry, entry.action = action → entry.targetId = targetId →
      entry.detail = detail → (target.recordedBy env.text entry ↔ P)) :
    Sure target mine kept (AdminService.record env actor action targetId detail)
      fun _ => if P then 1 else 0 := by
  refine Sure.bind (Sure.ask (o := .draw) ran trivial) ?_
  intro entryId
  refine Sure.bind (Sure.ask (o := .now) ran trivial) ?_
  intro now
  apply Sure.call
  intro i a s t keeps
  have recorded := audited _ keeps _ rfl
  cases a with
  | error e => cases recorded
  | ok v =>
      obtain ⟨x, done⟩ : ∃ x, exec env (.audit (.record _)) x s = some (.ok v, t) := ran _ keeps
      have touched : t.db = { s.db with audit := t.db.audit, auditSequence := t.db.auditSequence } :=
        exec_touches done
      have kept : target.stored t.db = target.stored s.db := by
        rw [touched]
        cases target <;> rfl
      refine ⟨v, rfl, ?_⟩
      have same := hit
        ⟨entryId, now, action, if actor.isBreakGlass then breakGlassActor else actor.accountId,
          targetId, detail⟩ rfl rfl rfl
      rw [weight, Target.entered, recorded, Target.removedBy, kept]
      simp [same]

/-- The actions that say something was deleted. -/
def AuditAction.deletes : AuditAction → Prop
  | .accountDeleted | .roleDeleted | .profileDeletedByAdmin => True
  | _ => False

theorem Target.recordedBy_deletes {text : Text} {entry : AuditEntry}
    (recorded : target.recordedBy text entry) : entry.action.deletes := by
  cases target <;> rw [recorded.1] <;> trivial

theorem Sure.recordUnlike (ran : ∀ e, kept e → Ran e) (audited : ∀ e, kept e → Audited e)
    {actor : Actor} {action : AuditAction} {targetId : Option String} {detail : String}
    (unlike : ∀ entry : AuditEntry, entry.action = action → ¬target.recordedBy env.text entry) :
    Sure target mine kept (AdminService.record env actor action targetId detail) fun _ => 0 := by
  have sure : Sure target mine kept (AdminService.record env actor action targetId detail)
      fun _ => if False then 1 else 0 := by
    apply Sure.record ran audited
    intro entry same _ _
    exact iff_of_false (unlike entry same) id
  simpa using sure

theorem Sure.recordOther (ran : ∀ e, kept e → Ran e) (audited : ∀ e, kept e → Audited e)
    {actor : Actor} {action : AuditAction} {targetId : Option String} {detail : String}
    (other : ¬action.deletes) :
    Sure target mine kept (AdminService.record env actor action targetId detail) fun _ => 0 := by
  apply Sure.recordUnlike ran audited
  rintro entry rfl recorded
  exact other (Target.recordedBy_deletes recorded)

end Records

/-! ## Requests that delete no such target -/

section Requests

variable {target : Target} {kept : Event (machine env) → Prop}
  (ran : ∀ e, kept e → Ran e)
include ran

theorem AccountService.mintGrant_whole (purpose : GrantPurpose) (ttlSeconds : Int) (named : Named) :
    Whole target false kept (mintGrant env purpose ttlSeconds named) fun _ => 0 := by
  refine Still.bind (Still.of_idle ran (ask_uses trivial)) fun now => ?_
  refine Still.bind (Still.of_idle ran (ask_uses trivial)) fun token => ?_
  refine Still.bind (Still.of_idle ran (ask_uses trivial)) fun hex => ?_
  refine Still.bind (Still.ofExcept _) fun expiresAt => ?_
  refine Whole.bind (Whole.grants ran _) fun _ => ?_
  exact Sure.pure (by simp)

/-- A grant that can be stored is stored. -/
theorem Sure.addGrant (inserts : ∀ e, kept e → ∀ grant, e.op = .grants (.add grant) →
    Insertable grant e.before.db) (grant : Grant) :
    Sure target false kept (grantStore (.add grant) : Service env Unit) fun _ => 0 := by
  apply Sure.call
  intro i a s t keeps
  obtain ⟨x, done⟩ : ∃ x, exec env (.grants (.add grant)) x s = some (a, t) := ran _ keeps
  obtain ⟨db, stored⟩ := GrantOp.add_stores (inserts _ keeps grant rfl)
  obtain ⟨answer, -⟩ := onDb_eq.mp done
  rw [transact_ok.mpr stored] at answer
  cases answer
  exact ⟨(), rfl, by simp [weight_silent]⟩

theorem AccountService.mintGrant_sure {ttlSeconds : Int}
    (fits : ∀ i now s t, kept ⟨i, .now, now, s, t⟩ → Representable (now + seconds ttlSeconds))
    (inserts : ∀ e, kept e → ∀ grant, e.op = .grants (.add grant) → Insertable grant e.before.db)
    (purpose : GrantPurpose) (named : Named) :
    Sure target false kept (mintGrant env purpose ttlSeconds named) fun _ => 0 := by
  refine Sure.readClock ran fun i now s t keeps => ?_
  have ends : datetimeAdd now (seconds ttlSeconds) = .ok (now + seconds ttlSeconds) :=
    datetimeAdd_eq_ok.mpr ⟨fits i now s t keeps, rfl⟩
  rw [ends]
  refine Sure.bind (Sure.ask (o := .draw) ran trivial) fun token => ?_
  refine Sure.bind (Sure.ask (o := .draw) ran trivial) fun hex => ?_
  refine Sure.bind (k := fun _ => 0) (Prog.Leaves.done ⟨_, rfl, rfl⟩) fun expiresAt => ?_
  refine Sure.bind (k := fun _ => 0) (Sure.addGrant ran inserts _) fun _ => ?_
  exact Sure.pure (by simp)

/-- A revocation that finds nothing to revoke changes nothing. -/
theorem Still.revokeGrants (unused : ∀ e, kept e → ∀ revoked purpose,
    e.op = .grants (.revokeAllForAccount revoked purpose) → ¬Outstanding revoked purpose e.before.db)
    (accountId : String) (purpose : GrantPurpose) :
    Still target false kept (grantStore (.revokeAllForAccount accountId purpose) : Service env Nat) := by
  apply Prog.Leaves.call
  intro i a s t keeps
  apply Prog.Leaves.done
  obtain ⟨x, done⟩ : ∃ x, exec env (.grants (.revokeAllForAccount accountId purpose)) x s =
      some (a, t) := ran _ keeps
  have nothing := unused _ keeps accountId purpose rfl
  cases done
  rw [add_zero]
  apply weight_still _ fun entry => Op.noConfusion
  have unhit : ∀ row ∈ s.db.grants, (row.accountId = some accountId && row.purpose = purpose &&
      !row.revoked) = false := by
    intro row stored
    by_contra hit
    simp only [Bool.not_eq_false, Bool.and_eq_true, decide_eq_true_eq, Bool.not_eq_true'] at hit
    exact nothing ⟨row, stored, hit.1.1, hit.1.2, hit.2⟩
  change ({ s.db with grants := s.db.grants.updateWhere _ _ _ } : Db) = s.db
  rw [Table.updateWhere_eq_self unhit]

theorem AccountService.issueInvite_whole (email : String) :
    Whole target false kept (issueInvite env email) fun _ => 0 := by
  refine Still.bind (Still.ofExcept _) fun address => ?_
  refine Still.bind (Still.of_idle ran (accountStore_uses trivial)) fun existing => ?_
  refine Still.bind (Still.refuseIf _ _) fun _ => ?_
  exact mintGrant_whole ran _ _ _

theorem AccountService.setStatus_whole (accountId : String) (status : AccountStatus) :
    Whole target false kept (setStatus env accountId status) fun _ => 0 := by
  refine Still.bind (Still.of_idle ran (accountStore_uses trivial)) fun found => ?_
  cases found with
  | none => exact Prog.Leaves.done rfl
  | some account =>
      refine Still.bind (Still.of_idle ran (ask_uses trivial)) fun now => ?_
      exact Whole.accounts ran _

namespace AdminService

theorem requireAccount_still {mine : Bool} (accountId : String) :
    Still target mine kept (requireAccount env accountId) :=
  Still.of_idle ran (requireAccount_uses (fun _ modest => modest.quiet.idle) accountId)

theorem checkCanActOn_still {mine : Bool} (actor : Actor) (account : Account) :
    Still target mine kept (checkCanActOn env actor account) :=
  Still.of_idle ran (checkCanActOn_uses (fun _ modest => modest.quiet.idle) actor account)

variable (audited : ∀ e, kept e → Audited e)
include audited

theorem invite_whole (actor : Actor) (email : String) :
    Whole target false kept (invite env actor email) fun _ => 0 := by
  refine Still.bind (Still.ofExcept _) fun _ => ?_
  refine Whole.bind (AccountService.issueInvite_whole ran email) fun grant => ?_
  refine Sure.bind (Sure.recordOther ran audited id) fun _ => ?_
  exact Sure.pure (by simp)

theorem setStatus_whole (actor : Actor) (accountId : String) (status : AccountStatus) :
    Whole target false kept (setStatus env actor accountId status) fun _ => 0 := by
  refine Still.bind (Still.ofExcept _) fun _ => ?_
  refine Still.bind (requireAccount_still ran accountId) fun account => ?_
  refine Still.bind (checkCanActOn_still ran actor account) fun _ => ?_
  refine Whole.bind (AccountService.setStatus_whole ran accountId status) fun _ => ?_
  -- nothing after the status is saved can raise
  have ended : Sure target false kept
      (if status ≠ .active then AccountService.logoutEverywhere env accountId else pure 0)
      fun _ => 0 := by
    split
    · exact Sure.revokeAll ran _ _
    · exact Sure.pure rfl
  refine Sure.bind ended fun _ => ?_
  refine Sure.bind (Sure.recordOther ran audited ?_) fun _ => ?_
  · split <;> exact id
  refine Sure.bind (Sure.getAccount ran accountId) fun updated => ?_
  exact Sure.pure (by simp)

theorem revokeSessions_whole (actor : Actor) (accountId : String) :
    Whole target false kept (revokeSessions env actor accountId) fun _ => 0 := by
  refine Still.bind (Still.ofExcept _) fun _ => ?_
  refine Still.bind (requireAccount_still ran accountId) fun account => ?_
  refine Still.bind (checkCanActOn_still ran actor account) fun _ => ?_
  refine Whole.bind (Sure.revokeAll ran _ _).whole fun revoked => ?_
  refine Sure.bind (Sure.recordOther ran audited id) fun _ => ?_
  exact Sure.pure (by simp)

theorem createRole_whole (actor : Actor) (name : String) (permissions : List String)
    (description : String) :
    Whole target false kept (createRole env actor name permissions description) fun _ => 0 := by
  refine Still.bind (Still.ofExcept _) fun _ => ?_
  refine Still.bind (Still.ofExcept _) fun roleName => ?_
  refine Still.bind (Still.ofExcept _) fun wanted => ?_
  refine Still.bind (Still.ofExcept _) fun _ => ?_
  refine Still.bind (Still.ofExcept _) fun _ => ?_
  refine Still.bind (Still.of_idle ran (roleStore_uses trivial)) fun existing => ?_
  refine Still.bind (Still.refuseIf _ _) fun _ => ?_
  refine Still.bind (Still.of_idle ran (ask_uses trivial)) fun now => ?_
  refine Whole.bind (Whole.roles ran _) fun _ => ?_
  refine Sure.bind (Sure.recordOther ran audited id) fun _ => ?_
  exact Sure.pure (by simp)

theorem updateRole_whole (actor : Actor) (name : String) (permissions : List String)
    (description : String) :
    Whole target false kept (updateRole env actor name permissions description) fun _ => 0 := by
  refine Still.bind (Still.ofExcept _) fun _ => ?_
  refine Still.bind (Still.ofExcept _) fun roleName => ?_
  refine Still.bind (Still.of_idle ran (roleStore_uses trivial)) fun found => ?_
  cases found with
  | none => exact Prog.Leaves.done rfl
  | some role =>
      refine Still.bind (Still.refuseIf _ _) fun _ => ?_
      refine Still.bind (Still.ofExcept _) fun wanted => ?_
      refine Still.bind (Still.ofExcept _) fun _ => ?_
      refine Still.bind (Still.ofExcept _) fun _ => ?_
      refine Still.bind (Still.of_idle ran (ask_uses trivial)) fun now => ?_
      refine Whole.bind (Whole.roles ran _) fun _ => ?_
      refine Sure.bind (Sure.recordOther ran audited id) fun _ => ?_
      exact Sure.pure (by simp)

theorem setAccountRoles_whole (actor : Actor) (accountId : String) (names : List String) :
    Whole target false kept (setAccountRoles env actor accountId names) fun _ => 0 := by
  refine Still.bind (Still.ofExcept _) fun _ => ?_
  refine Still.bind (requireAccount_still ran accountId) fun account => ?_
  refine Still.bind (Still.ofExcept _) fun normalized => ?_
  refine Still.bind (Still.refuseIf _ _) fun _ => ?_
  refine Still.bind (Still.of_idle ran (grantedBy_uses (fun _ modest => modest.quiet.idle) _ _)) fun granted => ?_
  refine Still.bind (Still.ofExcept _) fun _ => ?_
  refine Still.bind (Still.of_idle ran (ask_uses trivial)) fun now => ?_
  refine Whole.bind (Whole.accounts ran _) fun updated => ?_
  refine Sure.bind (Sure.recordOther ran audited id) fun _ => ?_
  exact Sure.pure (by simp)

/-! Between the revocation and the new link a reset can be refused.  It is whole
when the store takes the link, or when there was nothing to revoke. -/

theorem issuePasswordReset_whole (actor : Actor) (accountId : String)
    (either : ((∀ i now s t, kept ⟨i, .now, now, s, t⟩ →
        Representable (now + seconds env.settings.resetTtlSeconds)) ∧
      ∀ e, kept e → ∀ grant, e.op = .grants (.add grant) → Insertable grant e.before.db) ∨
      ∀ e, kept e → ∀ revoked purpose, e.op = .grants (.revokeAllForAccount revoked purpose) →
        ¬Outstanding revoked purpose e.before.db) :
    Whole target false kept (issuePasswordReset env actor accountId) fun _ => 0 := by
  refine Still.bind (Still.ofExcept _) fun _ => ?_
  refine Still.bind (requireAccount_still ran accountId) fun account => ?_
  refine Still.bind (checkCanActOn_still ran actor account) fun _ => ?_
  refine Whole.bind (k := fun _ => 0) ?_ fun grant => ?_
  · refine Still.bind (Still.of_idle ran (AccountService.mayMail_writes (fun _ modest => modest.quiet.idle) _))
      fun mailable => ?_
    refine Still.bind (Still.refuseIf _ _) fun _ => ?_
    rcases either with ⟨fits, inserts⟩ | unused
    · refine Whole.bind (Sure.revokeGrants ran _ _).whole fun _ => ?_
      exact (AccountService.mintGrant_sure ran fits inserts _ _).congr (by simp)
    · refine Still.bind (Still.revokeGrants ran unused _ _) fun _ => ?_
      exact AccountService.mintGrant_whole ran _ _ _
  · refine Sure.bind (Sure.recordOther ran audited id) fun _ => ?_
    exact Sure.pure (by simp)

end AdminService

end Requests

/-! ## Requests that delete -/

section Deletions

variable {target : Target} {mine : Bool} {kept : Event (machine env) → Prop} {p : Service env Bool}
  {charge : ℤ}

/-- A deletion that answers whether it has found its target is charged for it, and
has done nothing when it has found none. -/
def Removes (target : Target) (mine : Bool) (kept : Event (machine env) → Prop)
    (p : Service env Bool) (charge : ℤ) : Prop :=
  p.Leaves kept (weight target mine) fun r m =>
    match r with
    | .ok true => m.2 = -charge
    | _ => m = 0

theorem Still.bind_removes {α : Type} {p : Service env α} {f : α → Service env Bool}
    (first : Still target mine kept p) (rest : ∀ a, Removes target mine kept (f a) charge) :
    Removes target mine kept (p >>= f) charge := by
  refine Prog.Leaves.bind first ?_ ?_
  · rintro e m rfl
    rfl
  · rintro a m rfl
    simpa [Removes] using rest a

theorem Removes.bind {f : Bool → Service env Bool} (first : Removes target mine kept p charge)
    (missing : f false = pure false)
    (rest : (f true).Leaves kept (weight target mine) fun r m => r = .ok true ∧ m.2 = 0) :
    Removes target mine kept (p >>= f) charge := by
  refine Prog.Leaves.bind first (fun e m nothing => nothing) ?_
  intro removed m balance
  cases removed with
  | false =>
      have balance : m = 0 := balance
      rw [missing, balance]
      exact Prog.Leaves.done (add_zero 0)
  | true =>
      have balance : m.2 = -charge := balance
      refine Prog.Leaves.mono ?_ rest
      rintro r n ⟨rfl, settled⟩
      change (m + n).2 = -charge
      rw [Prod.snd_add, balance, settled, add_zero]

theorem Removes.bind_whole {β : Type} {f : Bool → Service env β} {e : Error}
    (first : Removes target mine kept p charge) (missing : f false = throw e)
    (rest : Sure target mine kept (f true) fun _ => charge) :
    Whole target mine kept (p >>= f) fun _ => 0 := by
  refine Prog.Leaves.bind first (fun e m nothing => nothing) ?_
  intro removed m balance
  cases removed with
  | false =>
      have balance : m = 0 := balance
      rw [missing, balance]
      exact Prog.Leaves.done (add_zero 0)
  | true =>
      have balance : m.2 = -charge := balance
      refine Prog.Leaves.mono ?_ rest
      rintro r n ⟨b, rfl, settled⟩
      change (m + n).2 = 0
      rw [Prod.snd_add, balance, settled, neg_add_cancel]

theorem Removes.rethrow {handler : Error → Service env Bool}
    (first : Removes target mine kept p charge) (throws : ∀ e, ∃ e', handler e = throw e') :
    Removes target mine kept (tryCatchThe Error p handler) charge := by
  refine Prog.Leaves.tryCatch first (fun a m balance => balance) ?_
  intro e m nothing
  have nothing : m = 0 := nothing
  obtain ⟨e', thrown⟩ := throws e
  rw [thrown, nothing]
  exact Prog.Leaves.done (add_zero 0)

/-- What ends with a fixed answer. -/
theorem ending_true {α : Type} {p : Service env α} {f : α → Service env Bool}
    (first : Sure target mine kept p fun _ => 0) (ends : ∀ a, f a = pure true) :
    (p >>= f).Leaves kept (weight target mine) fun r m => r = .ok true ∧ m.2 = 0 := by
  refine Prog.Leaves.bind first ?_ ?_
  · rintro e m ⟨a, impossible, -⟩
    cases impossible
  · rintro a m ⟨_, -, balance⟩
    rw [ends]
    exact Prog.Leaves.done ⟨rfl, by simpa using balance⟩

variable (ran : ∀ e, kept e → Ran e)
include ran

theorem Removes.deleteProfile {accountId name : String}
    (charged : ∀ i s t, kept ⟨i, .profiles (.delete accountId name), .ok true, s, t⟩ →
      (if mine && target.removedBy
        (⟨i, .profiles (.delete accountId name), .ok true, s, t⟩ : Event (machine env))
        then 1 else 0) = charge) :
    Removes target mine kept (profileStore (.delete accountId name) : Service env Bool) charge := by
  apply Prog.Leaves.call
  intro i a s t keeps
  apply Prog.Leaves.done
  rw [add_zero]
  have done : ∃ x, exec env (.profiles (.delete accountId name)) x s = some (a, t) := ran _ keeps
  obtain ⟨x, done⟩ := done
  rcases onDb_cases done with ⟨gone, rfl, committed⟩ | ⟨⟨e, rfl⟩, same⟩
  · obtain ⟨found, deleted⟩ := ProfileOp.delete_ok committed
    cases gone with
    | true =>
        rw [← charged i s t keeps]
        exact weight_silent fun entry => Op.noConfusion
    | false =>
        -- there is no such row, and so nothing that would go with it
        apply weight_still _ fun entry => Op.noConfusion
        rw [deleted]
        exact deleteProfiles_absent found.symm
  · exact weight_still same fun entry => Op.noConfusion

theorem Sure.unsealProfile (accountId name : String) :
    Sure target mine kept (secretStore (.deleteProfile accountId name) : Service env Nat)
      fun _ => 0 := by
  apply Sure.call
  intro i a s t keeps
  obtain ⟨x, done⟩ : ∃ x, exec env (.secrets (.deleteProfile accountId name)) x s = some (a, t) :=
    ran _ keeps
  have touched : t.db = { s.db with secrets := t.db.secrets } := exec_touches done
  have same : target.stored t.db = target.stored s.db := by
    rw [touched]
    cases target <;> rfl
  have still : Target.removedBy target
      (⟨i, .secrets (.deleteProfile accountId name), a, s, t⟩ : Event (machine env)) = false := by
    rw [Target.removedBy, same]
    simp
  cases done
  refine ⟨_, rfl, ?_⟩
  rw [weight_silent fun entry => Op.noConfusion, still]
  simp

open Classical in
/-- One deletion, where the profile is the one named. -/
noncomputable def charged (env : Env) (target : Target) (accountId name : String) : ℤ :=
  match target with
  | .profile accountId' stored =>
      if accountId' = accountId ∧ normalizeProfileName env.text name = .ok stored then 1 else 0
  | _ => 0

theorem CredentialService.deleteProfile_removes (accountId name : String) :
    Removes target (target.deletedBy (.deleteProfile accountId name)) kept
      (deleteProfile env accountId name) (charged env target accountId name) := by
  rw [deleteProfile]
  cases checked : normalizeProfileName env.text name with
  | error e => exact Prog.Leaves.done rfl
  | ok normalized =>
      refine Removes.bind (Removes.deleteProfile ran ?_) rfl
        (ending_true (Sure.unsealProfile ran _ _) fun _ => rfl)
      intro i s t keeps
      obtain ⟨x, done⟩ : ∃ x, exec env (.profiles (.delete accountId normalized)) x s =
          some (.ok true, t) := ran _ keeps
      rcases onDb_cases done with ⟨gone, same, committed⟩ | ⟨⟨e, impossible⟩, -⟩
      · cases same
        obtain ⟨found, deleted⟩ := ProfileOp.delete_ok committed
        cases target with
        | profile accountId' other =>
            have removed : Target.removedBy (.profile accountId' other)
                (⟨i, .profiles (.delete accountId normalized), .ok true, s, t⟩ :
                  Event (machine env)) =
                decide ((accountId', other) = (accountId, normalized)) := by
              rw [Target.removedBy, Target.stored, Target.stored, deleted]
              apply removed_iff _ found.symm
              intro row
              simp [ProfileRow.key, Prod.ext_iff]
            by_cases same : (accountId', other) = (accountId, normalized)
            · cases same
              simp [Target.deletedBy, charged, removed, checked]
            · have other : ¬(accountId' = accountId ∧ normalized = other) :=
                fun both => same (Prod.ext both.1 both.2.symm)
              simp [Target.deletedBy, charged, removed, checked, same, other]
        | account other => rfl
        | role other => rfl
      · cases impossible

omit ran in
theorem CredentialChanges.admitted_idle {requester : Requester} (silent : requester.password = none)
    (accountId : String) : (admitted env accountId requester).Uses fun (o : Op) => o.idle := by
  refine Prog.Uses.bind (preferencesFor_uses trivial) fun preferences => ?_
  split
  · trivial
  · rw [silent]
    cases preferences.requireReauthForCredentialChanges with
    | none => trivial
    | some required => cases required <;> trivial

theorem CredentialChanges.removeProfile_removes (accountId name : String) {requester : Requester}
    (silent : requester.password = none) :
    Removes target (target.deletedBy (.deleteProfile accountId name)) kept
      (removeProfile env accountId name requester) (charged env target accountId name) := by
  refine Still.bind_removes (Still.of_idle ran ?_) fun profile => ?_
  · refine Prog.Uses.tryCatch ?_ fun e => by cases e <;> trivial
    exact Prog.Uses.bind (CredentialService.getProfile_uses (fun _ calm => calm.quiet.idle) _ _)
      fun _ => trivial
  cases profile with
  | none => exact Prog.Leaves.done rfl
  | some profile =>
      refine Still.bind_removes (Still.of_idle ran ?_) fun preferences => ?_
      · split
        · trivial
        · exact Prog.Uses.bind (admitted_idle silent _) fun _ => trivial
      refine Removes.bind (CredentialService.deleteProfile_removes ran accountId name) rfl ?_
      refine ending_true ?_ fun _ => rfl
      cases preferences with
      | none => exact Sure.pure rfl
      | some preferences =>
          change Sure _ _ _ (announce env accountId preferences) _
          rw [announce]
          split
          · refine Sure.bind (Sure.getAccount ran _) fun account => ?_
            cases account with
            | none => exact Sure.pure rfl
            | some account =>
                refine Sure.bind (k := fun _ => 0) (Sure.ask (o := .now) ran trivial) fun _ => ?_
                exact Sure.pure rfl
          · exact Sure.pure rfl

variable (audited : ∀ e, kept e → Audited e)
include audited

namespace AdminService

theorem deleteProfile_whole (actor : Actor) (accountId name : String) :
    Whole target (target.deletedBy (.deleteProfile accountId name)) kept
      (deleteProfile env actor accountId name) fun _ => 0 := by
  refine Still.bind (Still.ofExcept _) fun _ => ?_
  refine Still.bind (requireAccount_still ran accountId) fun account => ?_
  refine Still.bind (checkCanActOn_still ran actor account) fun _ => ?_
  have silent : (if account.accountId = actor.accountId then Requester.person none
      else Requester.administrator).password = none := by
    split <;> rfl
  refine Removes.bind_whole (Removes.rethrow
    (CredentialChanges.removeProfile_removes ran accountId name silent) ?_) rfl ?_
  · intro e
    cases e <;> exact ⟨_, rfl⟩
  · change Sure _ _ _ (record env actor .profileDeletedByAdmin (some accountId)
      ("profile " ++ repr env.text name)) _
    cases target with
    | profile accountId' other =>
        apply Sure.record ran audited
        intro entry action targetId detail
        rw [Target.recordedBy, action, targetId, detail]
        constructor
        · rintro ⟨-, owner, spelled, normalized, recorded⟩
          have recorded : "profile " ++ repr env.text name = "profile " ++ repr env.text spelled :=
            recorded
          rw [String.append_right_inj] at recorded
          rw [repr_injective env.text recorded]
          exact ⟨(Option.some.inj owner).symm, normalized⟩
        · rintro ⟨rfl, normalized⟩
          exact ⟨rfl, rfl, name, normalized, rfl⟩
    | account other =>
        apply Sure.recordUnlike ran audited
        intro entry action
        simp [Target.recordedBy, action]
    | role other =>
        apply Sure.recordUnlike ran audited
        intro entry action
        simp [Target.recordedBy, action]

theorem deleteRole_whole (actor : Actor) (name : String) :
    Whole target (target.deletedBy (.deleteRole name)) kept (deleteRole env actor name)
      fun _ => 0 := by
  refine Still.bind (Still.ofExcept _) fun _ => ?_
  refine Still.bind (Still.ofExcept _) fun roleName => ?_
  refine Still.bind (Still.of_idle ran (accountStore_uses trivial)) fun held => ?_
  cases target with
  | role other =>
      refine Whole.bind (Whole.deleteRole ran) fun _ => ?_
      refine (Sure.record ran audited (P := other = roleName) ?_).congr ?_
      · rintro entry action - detail
        have label : entry.detail = "role " ++ repr env.text roleName := detail
        constructor
        · rintro ⟨-, recorded⟩
          have recorded : entry.detail = "role " ++ repr env.text other := recorded
          rw [label, String.append_right_inj] at recorded
          exact (repr_injective env.text recorded).symm
        · rintro rfl
          exact ⟨action, detail⟩
      · intro _
        split <;> rfl
  | account other =>
      refine Whole.bind (k := fun _ => 0) (Whole.roles ran _) fun _ => ?_
      apply Sure.recordUnlike ran audited
      intro entry action
      simp [Target.recordedBy, action]
  | profile accountId other =>
      refine Whole.bind (k := fun _ => 0) (Whole.roles ran _) fun _ => ?_
      apply Sure.recordUnlike ran audited
      intro entry action
      simp [Target.recordedBy, action]

theorem deleteAccount_whole (actor : Actor) (accountId : String)
    (present : ∀ e, kept e → e.op = .accounts (.delete accountId) →
      (e.before.db.accounts.find? accountId).isSome) :
    Whole target (target.deletedBy (.deleteAccount accountId)) kept
      (deleteAccount env actor accountId) fun _ => 0 := by
  refine Still.bind (Still.ofExcept _) fun _ => ?_
  refine Still.bind (requireAccount_still ran accountId) fun account => ?_
  refine Still.bind (checkCanActOn_still ran actor account) fun _ => ?_
  cases target with
  | account other =>
      refine Whole.bind (Whole.deleteAccount ran present) fun _ => ?_
      refine (Sure.record ran audited (P := other = accountId) ?_).congr ?_
      · rintro entry action targetId -
        simp [Target.recordedBy, action, targetId, eq_comm]
      · intro _
        split <;> rfl
  | role other =>
      refine Whole.bind (k := fun _ => 0) (Whole.accounts ran _) fun _ => ?_
      apply Sure.recordUnlike ran audited
      intro entry action
      simp [Target.recordedBy, action]
  | profile accountId' other =>
      refine Whole.bind (k := fun _ => 0) (Whole.accounts ran _) fun _ => ?_
      apply Sure.recordUnlike ran audited
      intro entry action
      simp [Target.recordedBy, action]

end AdminService

/-! ## Every request -/

theorem AdminCall.prog_whole (c : AdminCall) (actor : Actor)
    (present : ∀ accountId, c = .deleteAccount accountId → ∀ e, kept e →
      e.op = .accounts (.delete accountId) → (e.before.db.accounts.find? accountId).isSome)
    (either : ∀ accountId, c = .issuePasswordReset accountId →
      ((∀ i now s t, kept ⟨i, .now, now, s, t⟩ →
          Representable (now + seconds env.settings.resetTtlSeconds)) ∧
        ∀ e, kept e → ∀ grant, e.op = .grants (.add grant) → Insertable grant e.before.db) ∨
        ∀ e, kept e → ∀ revoked purpose, e.op = .grants (.revokeAllForAccount revoked purpose) →
          ¬Outstanding revoked purpose e.before.db) :
    Whole target (target.deletedBy c) kept (c.prog env actor) fun _ => 0 := by
  cases c with
  | deleteAccount accountId =>
      exact (AdminService.deleteAccount_whole ran audited actor accountId (present _ rfl)).returning
  | deleteProfile accountId name =>
      exact (AdminService.deleteProfile_whole ran audited actor accountId name).returning
  | deleteRole name => exact (AdminService.deleteRole_whole ran audited actor name).returning
  | invite email =>
      rw [show target.deletedBy (.invite email) = false by cases target <;> rfl]
      exact (AdminService.invite_whole ran audited actor email).returning
  | setStatus accountId status =>
      rw [show target.deletedBy (.setStatus accountId status) = false by cases target <;> rfl]
      exact (AdminService.setStatus_whole ran audited actor accountId status).returning
  | revokeSessions accountId =>
      rw [show target.deletedBy (.revokeSessions accountId) = false by cases target <;> rfl]
      exact (AdminService.revokeSessions_whole ran audited actor accountId).returning
  | issuePasswordReset accountId =>
      rw [show target.deletedBy (.issuePasswordReset accountId) = false by cases target <;> rfl]
      exact (AdminService.issuePasswordReset_whole ran audited actor accountId
        (either _ rfl)).returning
  | createRole name permissions description =>
      rw [show target.deletedBy (.createRole name permissions description) = false by cases target <;> rfl]
      exact (AdminService.createRole_whole ran audited actor name permissions description).returning
  | updateRole name permissions description =>
      rw [show target.deletedBy (.updateRole name permissions description) = false by cases target <;> rfl]
      exact (AdminService.updateRole_whole ran audited actor name permissions description).returning
  | setAccountRoles accountId names =>
      rw [show target.deletedBy (.setAccountRoles accountId names) = false by cases target <;> rfl]
      exact (AdminService.setAccountRoles_whole ran audited actor accountId names).returning
  | listAccounts =>
      refine (Still.bind (Still.ofExcept _) fun _ => ?_).returning
      exact (Still.of_idle ran (p := accountStore .listAll) (accountStore_uses trivial)).whole
  | getAccount accountId =>
      refine (Still.bind (Still.ofExcept _) fun _ => ?_).returning
      exact (AdminService.requireAccount_still ran accountId).whole
  | listProfiles accountId =>
      refine (Still.bind (Still.ofExcept _) fun _ => ?_).returning
      refine Still.bind (AdminService.requireAccount_still ran accountId) fun _ => ?_
      exact (Still.of_idle ran (p := CredentialService.listProfiles env accountId)
        (profileStore_uses trivial)).whole
  | readAudit limit =>
      refine (Still.bind (Still.ofExcept _) fun _ => ?_).returning
      exact (Still.of_idle ran (p := auditLog (.recent limit none)) (auditLog_uses trivial)).whole
  | listRoles =>
      refine (Still.bind (Still.ofExcept _) fun _ => ?_).returning
      exact (Still.of_idle ran (p := roleStore .listAll) (roleStore_uses trivial)).whole

end Deletions

/-! ## Runs -/

section Runs

variable {w : World} {calls : List Call} {d : Config (machine env) Error Answer}
  {tr : List (Event (machine env))}

theorem Undisturbed.whole (run : Run (start env w calls) tr d) (audited : ∀ e ∈ tr, Audited e)
    (undisturbed : Undisturbed calls tr) {i : Nat} {actor : Actor} {c : AdminCall}
    (called : calls[i]? = some (.admin actor c)) {r : Except Error Answer}
    (ended : d.pool[i]? = some (.done r)) (target : Target) :
    (∀ e, r = .error e → ((ofThread i tr).map (weight target (target.deletedBy c))).sum = 0) ∧
      ((ofThread i tr).map (weight target (target.deletedBy c))).sum.2 = 0 := by
  obtain ⟨q, here, path⟩ := path_of_run run i _ called
  rw [ended] at here
  cases here
  have whole : Whole target (target.deletedBy c) (fun e => e ∈ ofThread i tr)
      (c.prog env actor) fun _ => 0 := by
    apply AdminCall.prog_whole
    · intro e member
      exact exec_of_run run (mem_ofThread.mp member).1
    · intro e member
      exact audited e (mem_ofThread.mp member).1
    · rintro accountId rfl e member deleted
      obtain ⟨inside, rfl⟩ := mem_ofThread.mp member
      exact undisturbed.deletions e inside actor accountId called deleted
    · rintro accountId rfl
      refine (undisturbed.resets i actor accountId called).imp_left (And.imp_left fun fits => ?_)
      intro j now s t member
      obtain ⟨inside, rfl⟩ := mem_ofThread.mp member
      exact fits now s t inside
  have left := whole _ r path fun e member => member
  cases r with
  | error e => exact ⟨fun _ _ => left, congrArg Prod.snd left⟩
  | ok answer => exact ⟨nofun, left⟩

theorem entered_of_delegates {target : Target} {e : Event (machine env)}
    (delegates : Op.delegates e.op) : target.entered e = false := by
  cases recorded : appended env e with
  | none => rw [Target.entered, recorded]; rfl
  | some entry =>
      have unlike : ¬target.recordedBy env.text entry := by
        intro claimed
        have deletes := Target.recordedBy_deletes claimed
        obtain ⟨i, o, a, s, t⟩ := e
        simp only [appended] at recorded
        split at recorded
        · rename_i same
          cases recorded
          cases same
          have both : entry.action.delegates := delegates
          cases action : entry.action <;> rw [action] at both deletes <;>
            first | exact both | exact deletes
        · cases recorded
      rw [Target.entered, recorded]
      simpa using unlike

theorem balance_eq (target : Target) (mine : Event (machine env) → Bool)
    (tr : List (Event (machine env))) :
    (tr.map fun e => (weight target (mine e) e).2).sum =
      (tr.countP target.entered : ℤ) - (tr.countP fun e => mine e && target.removedBy e : ℕ) := by
  induction tr with
  | nil => rfl
  | cons e rest ih =>
      rw [List.map_cons, List.sum_cons, ih, List.countP_cons, List.countP_cons, weight]
      push_cast
      ring

/-- As long as no deletion of an account finds it gone, and no reset link that
replaced others is refused, the requests are all or nothing and truthfully audited. -/
theorem admin_truthful (run : Run (start env w calls) tr d) (audited : ∀ e ∈ tr, Audited e)
    (undisturbed : Undisturbed calls tr) : Truthful calls tr d := by
  constructor
  · intro i actor c error called raised e member
    have nothing := (undisturbed.whole run audited called raised (.role "")).1 error rfl
    have changed := congrArg (AddMonoidHom.fst ℕ ℤ) nothing
    rw [map_list_sum, List.map_map] at changed
    have here : (weight (.role "") (Target.deletedBy (.role "") c) e).1 = 0 :=
      List.sum_eq_zero_iff.mp changed _ (List.mem_map.mpr ⟨e, member, rfl⟩)
    by_contra other
    rw [weight, if_neg other] at here
    cases here
  · intro ended target
    have balanced : (tr.map fun e => (weight target (deletes calls target e.thread) e).2).sum = 0 := by
      apply run.sum_eq_zero
      intro i inside
      have own : (ofThread i tr).map (fun e => (weight target (deletes calls target e.thread) e).2) =
          (ofThread i tr).map fun e => (weight target (deletes calls target i) e).2 := by
        apply List.map_congr_left
        intro e member
        rw [(mem_ofThread.mp member).2]
      rw [own]
      have inside : i < calls.length := by simpa [start] using inside
      cases called : calls[i]? with
      | none => exact absurd (List.getElem?_eq_none_iff.mp called) (by omega)
      | some call =>
          by_cases ordinary : ∀ actor request, call ≠ .admin actor request
          · -- the others neither record nor are charged
            obtain ⟨q, -, path⟩ := path_of_run run i _ called
            have quiet : deletes calls target i = false := by
              rw [deletes, called]
              cases call <;> first | rfl | exact absurd rfl (ordinary _ _)
            apply List.sum_eq_zero
            intro m member
            obtain ⟨e, here, rfl⟩ := List.mem_map.mp member
            have delegates := (path.uses (call.prog_delegates ordinary)).1 e here
            rw [weight, entered_of_delegates delegates, quiet]
            rfl
          · simp only [not_forall, not_not] at ordinary
            obtain ⟨actor, c, rfl⟩ := ordinary
            obtain ⟨r, done⟩ := ended i actor c called
            have whole : AddMonoidHom.snd ℕ ℤ _ = 0 :=
              (undisturbed.whole run audited called done target).2
            have mine : deletes calls target i = target.deletedBy c := by rw [deletes, called]
            rw [map_list_sum, List.map_map] at whole
            rw [mine]
            exact whole
    rw [balance_eq] at balanced
    exact_mod_cast sub_eq_zero.mp balanced

end Runs

/-! ## Two deletions of one account -/

/-- An attempt to record has failed. -/
def unrecorded : Event (machine env) → Bool
  | ⟨_, .audit (.record _), .error _, _, _⟩ => true
  | _ => false

theorem audited_of_recorded {e : Event (machine env)} (recorded : unrecorded e = false) :
    Audited e := by
  obtain ⟨i, o, a, s, t⟩ := e
  rintro entry rfl
  cases a with
  | ok u => rfl
  | error e => cases recorded

/-- A deletion of an account finds it gone. -/
def misses : Event (machine env) → Bool
  | ⟨_, .accounts (.delete accountId), _, s, _⟩ => (s.db.accounts.find? accountId).isNone
  | _ => false

namespace Scenario

def twoDeletions : List Call :=
  [.admin owner (.deleteAccount "bob"), .admin owner (.deleteAccount "bob")]

/-- One after the other: the second finds no account to begin with. -/
def inTurnDeletions :
    Config (machine deployment) Error Answer × List (Event (machine deployment)) :=
  (start deployment office twoDeletions).play
    (List.replicate 10 (0, given 5 "a") ++ List.replicate 10 (1, given 6 "b"))

/-- Both have found the account before either deletes it. -/
def overlappingDeletions :
    Config (machine deployment) Error Answer × List (Event (machine deployment)) :=
  (start deployment office twoDeletions).play
    (List.replicate 2 (0, given 5 "a") ++ List.replicate 10 (1, given 6 "b") ++
      List.replicate 10 (0, given 7 "a"))

end Scenario

open Scenario in
theorem admin_truthful_inTurn : Truthful twoDeletions inTurnDeletions.2 inTurnDeletions.1 := by
  have found : ∀ e ∈ inTurnDeletions.2, misses e = false := by decide +kernel
  have recorded : ∀ e ∈ inTurnDeletions.2, unrecorded e = false := by decide +kernel
  apply admin_truthful (Config.play_run (start deployment office twoDeletions) _)
  · intro e member
    exact audited_of_recorded (recorded e member)
  · constructor
    · rintro ⟨i, o, a, s, t⟩ member actor accountId - rfl
      have here := found _ member
      rw [misses, Option.isNone_eq_false_iff] at here
      exact here
    · intro i actor accountId called
      have call := List.mem_of_getElem? called
      simp [twoDeletions] at call

open Scenario in
/-- Bob is deleted once, and recorded as deleted twice. -/
theorem deleted_once_recorded_twice :
    Run (start deployment office twoDeletions) overlappingDeletions.2 overlappingDeletions.1 ∧
      (∀ e ∈ overlappingDeletions.2, Audited e) ∧
      returned overlappingDeletions.1.pool[0]? = true ∧
      returned overlappingDeletions.1.pool[1]? = true ∧
      entries (.account "bob") overlappingDeletions.2 = 2 ∧
      removals twoDeletions (.account "bob") overlappingDeletions.2 = 1 ∧
      ¬Truthful twoDeletions overlappingDeletions.2 overlappingDeletions.1 := by
  have recorded : ∀ e ∈ overlappingDeletions.2, unrecorded e = false := by decide +kernel
  have first : returned overlappingDeletions.1.pool[0]? = true := by decide +kernel
  have second : returned overlappingDeletions.1.pool[1]? = true := by decide +kernel
  have twice : entries (.account "bob") overlappingDeletions.2 = 2 := by decide +kernel
  have once : removals twoDeletions (.account "bob") overlappingDeletions.2 = 1 := by decide +kernel
  refine ⟨Config.play_run _ _, fun e member => audited_of_recorded (recorded e member), first,
    second, twice, once, fun truthful => ?_⟩
  have counted := truthful.counted ?_ (.account "bob")
  · rw [twice, once] at counted
    cases counted
  · intro i actor c called
    match i with
    | 0 =>
        obtain ⟨answer, ended⟩ := returned_some first
        exact ⟨.ok answer, ended⟩
    | 1 =>
        obtain ⟨answer, ended⟩ := returned_some second
        exact ⟨.ok answer, ended⟩
    | i + 2 => simp [twoDeletions] at called

end Keyring

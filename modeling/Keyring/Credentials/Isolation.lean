import Keyring.Credentials.Concerns
import Keyring.Interleave.Isolation

/-!
# One account among the others

Where each caller of a run acts for one account, those that act for `a` do and are
answered what they would do and be answered in a deployment that holds `a` alone.
-/

set_option autoImplicit false

namespace Keyring

open Interleave Relational

variable {env : Env} {book : String → String → Prop} {who : Option String} {a : String} {w w' m : World}

/-! ## The account alone -/

/-- What the database holds of the account, with the shared log. -/
def Db.only (db : Db) (a : String) : Db :=
  { db with
    accounts := db.accounts.restrict (·.accountId = a)
    accountRoles := db.accountRoles.restrict (·.accountId = a)
    sessions := db.sessions.restrict (·.accountId = a)
    grants := db.grants.restrict (·.accountId = some a)
    profiles := db.profiles.restrict (·.accountId = a)
    connections := db.connections.restrict (·.accountId = a)
    secrets := db.secrets.restrict (·.accountId = a)
    offlineGrants := db.offlineGrants.restrict (·.accountId = a) }

def World.only (w : World) (a : String) : World :=
  { w with
    db := w.db.only a
    flows := w.flows.restrict (·.flow.binding.accountId = a)
    renewing := w.renewing.filter (·.1 = a) }

theorem mirrors_only (w : World) (a : String) : Mirrors a w (w.only a) :=
  ⟨⟨rfl, rfl, rfl, rfl, rfl, rfl, rfl⟩, rfl, rfl⟩

theorem holds_only {name : Identifier} (held : (w.only a).holds name) : w.holds name := by
  cases name with
  | entry entryId => exact held
  | _ =>
      obtain ⟨row, stored, same⟩ := held
      exact ⟨row, (Table.mem_restrict.mp stored).1, same⟩

/-! ## What an answer names -/

/-- The account that an answer of the deployment names. -/
def Op.names? : (o : Op) → o.Ans → Option String
  | .redeemState _, found => found.map (·.binding.accountId)
  | .delegations (.forExchange _ _), .ok found => found.map (·.accountId)
  | _, _ => none

/-- The step looks for what its caller holds a handle of, whosever it is. -/
def Op.seeks : Op → Prop
  | .redeemState _ | .delegations (.forExchange _ _) => True
  | _ => False

/-- The event is about the account `who`, if about any. -/
def Concerns (book : String → String → Prop) (who : Option String) (e : Event (machine env)) : Prop :=
  e.op.about book who ∨
    e.op.seeks ∧ ∀ named, e.op.names? e.ans = some named → who = some named

/-! ## Names that are in use -/

theorem ProfileOp.names_kept {text : Text} {db db' : Db} {o : ProfileOp} {v : o.Ans}
    (about : (Op.profiles o).about book who) (committed : (o.run text).run db = .ok (v, db')) :
    (∀ row ∈ db'.profiles, (∃ old ∈ db.profiles, old.profileId = row.profileId) ∨
      (Op.profiles o).identifier? = some (.profile row.profileId)) ∧
    ∀ row ∈ db'.offlineGrants, row ∈ db.offlineGrants := by
  have touched : ∀ accountId name now, ∀ row ∈ (touchProfile db accountId name now).profiles,
      ∃ old ∈ db.profiles, old.profileId = row.profileId := by
    intro accountId name now row stored
    obtain ⟨old, inside, rfl⟩ := (Table.mem_updateWhere (·.touch_key now)).mp stored
    refine ⟨old, inside, ?_⟩
    split <;> rfl
  cases o with
  | add profile cap =>
      obtain ⟨-, u, mid, inserted, connected⟩ := add_committed committed
      obtain ⟨-, table, added, rfl⟩ := insertProfile_ok inserted
      rw [upsertConnections_frame connected]
      refine ⟨fun row stored => ?_, fun row stored => stored⟩
      rcases (Table.mem_insert? added).mp stored with old | rfl
      · exact Or.inl ⟨row, old, rfl⟩
      · exact Or.inr rfl
  | get accountId name =>
      cases committed
      exact ⟨fun row stored => Or.inl ⟨row, stored, rfl⟩, fun row stored => stored⟩
  | listForAccount accountId =>
      cases committed
      exact ⟨fun row stored => Or.inl ⟨row, stored, rfl⟩, fun row stored => stored⟩
  | putConnection accountId name connection cap now =>
      rw [putConnection_committed committed]
      exact ⟨fun row stored => Or.inl (touched accountId name now row stored),
        fun row stored => stored⟩
  | removeConnection accountId name service now =>
      change Except.ok (if _ then _ else _) = Except.ok _ at committed
      split at committed
      · cases committed
        exact ⟨fun row stored => Or.inl (touched accountId name now row stored),
          fun row stored => stored⟩
      · cases committed
        exact ⟨fun row stored => Or.inl ⟨row, stored, rfl⟩, fun row stored => stored⟩
  | delete accountId name =>
      rw [(delete_ok committed).2]
      exact ⟨fun row stored => Or.inl ⟨row, (Table.mem_deleteWhere.mp stored).1, rfl⟩,
        fun row stored => (Table.mem_deleteWhere.mp stored).1⟩
  | countForAccount accountId => exact absurd about id
  | allProfiles => exact absurd about id

theorem DelegationOp.names_kept {db db' : Db} {o : DelegationOp} {v : o.Ans}
    (committed : o.run.run db = .ok (v, db')) :
    ∀ row ∈ db'.offlineGrants, (∃ old ∈ db.offlineGrants, old.grantId = row.grantId) ∨
      (Op.delegations o).identifier? = some (.grant row.grantId) := by
  cases o with
  | add grant cap now =>
      simp only [run, StateT.run] at committed
      split at committed
      · cases committed
      · split at committed
        · cases committed
        · split at committed
          · cases committed
          · rename_i table inserted
            cases committed
            intro row stored
            rcases (Table.mem_insert? (insertRow_ok.mp inserted)).mp stored with old | rfl
            · exact Or.inl ⟨row, old, rfl⟩
            · exact Or.inr rfl
  | forExchange grantId service =>
      cases committed
      exact fun row stored => Or.inl ⟨row, stored, rfl⟩
  | listForProfile accountId profile =>
      cases committed
      exact fun row stored => Or.inl ⟨row, stored, rfl⟩
  | revoke accountId profile grantId now =>
      cases committed
      intro row stored
      obtain ⟨old, inside, rfl⟩ := (Table.mem_updateWhere (·.revoke_grantId now)).mp stored
      refine Or.inl ⟨old, inside, ?_⟩
      split <;> rfl

/-- What is recorded is numbered by the counter, and trimming takes entries away. -/
theorem AuditOp.record_kept {maxEntries : Nat} {db db' : Db} {entry : AuditEntry} {u : Unit}
    (committed : ((record entry).run maxEntries).run db = .ok (u, db')) :
    (∀ row ∈ db'.audit, (∃ old ∈ db.audit, old.entryId = row.entryId) ∨
      entry.entryId = row.entryId) ∧
    ((∀ row ∈ db.audit, row.sequence ≤ db.auditSequence) →
      ∀ row ∈ db'.audit, row.sequence ≤ db'.auditSequence) := by
  simp only [run, StateT.run] at committed
  split at committed
  · cases committed
  · split at committed
    · cases committed
    · rename_i table inserted
      cases committed
      refine ⟨fun row stored => ?_, fun numbered row stored => ?_⟩
      · have before := (Table.mem_deleteWhere.mp stored).1
        rcases (Table.mem_insert? (insertRow_ok.mp inserted)).mp before with old | rfl
        · exact Or.inl ⟨row, old, rfl⟩
        · exact Or.inr rfl
      · have before := (Table.mem_deleteWhere.mp stored).1
        rcases (Table.mem_insert? (insertRow_ok.mp inserted)).mp before with old | rfl
        · exact Nat.le_succ_of_le (numbered row old)
        · exact Nat.le_refl _

/-- A step that brings no name into use but the one it is given. -/
structure NamesKept (o : Op) (w w' : World) : Prop where
  holds : ∀ name, w'.holds name → w.holds name ∨ o.identifier? = some name
  numbered : (∀ row ∈ w.db.audit, row.sequence ≤ w.db.auditSequence) →
    ∀ row ∈ w'.db.audit, row.sequence ≤ w'.db.auditSequence

theorem NamesKept.of_same {o : Op} (profiles : w'.db.profiles = w.db.profiles)
    (grants : w'.db.offlineGrants = w.db.offlineGrants) (audit : w'.db.audit = w.db.audit)
    (sequence : w'.db.auditSequence = w.db.auditSequence) (flows : w'.flows = w.flows) :
    NamesKept o w w' where
  holds name held := by
    refine Or.inl ?_
    cases name with
    | profile profileId => rwa [World.holds, profiles] at held
    | grant grantId => rwa [World.holds, grants] at held
    | entry entryId => rwa [World.holds, audit] at held
    | state stateHash => rwa [World.holds, flows] at held
  numbered := by
    rw [audit, sequence]
    exact id

/-- A transaction that rolls back, or brings no name into use where it commits. -/
theorem NamesKept.onDb {o : Op} {α : Type} {work : Transaction α} {answer : Except Error α}
    (done : onDb work w = some (answer, w'))
    (committed : ∀ v, work.run w.db = .ok (v, w'.db) → w'.flows = w.flows → NamesKept o w w') :
    NamesKept o w w' := by
  have frame := (onDb_eq.mp done).2
  have flows : w'.flows = w.flows := by rw [frame]
  rcases onDb_cases done with ⟨v, -, written⟩ | ⟨-, same⟩
  · exact committed v written flows
  · exact .of_same (by rw [same]) (by rw [same]) (by rw [same]) (by rw [same]) flows

theorem exec_namesKept {o : Op} {x : Input} {answer : o.Ans}
    (limited : o.about book who ∨ o.seeks) (done : exec env o x w = some (answer, w')) :
    NamesKept o w w' := by
  have touched := exec_touches done
  cases o with
  | accounts o =>
      cases o with
      | get | save =>
          have frame : w'.db = { w.db with
            accounts := w'.db.accounts, accountRoles := w'.db.accountRoles } := touched
          refine NamesKept.onDb done fun v _ flows => ?_
          exact .of_same (by rw [frame]) (by rw [frame]) (by rw [frame]) (by rw [frame]) flows
      | _ => exact absurd limited (by simp [Op.about, Op.seeks])
  | profiles o =>
      have about := limited.resolve_right id
      refine NamesKept.onDb done fun v committed flows => ?_
      obtain ⟨profiles, grants⟩ := ProfileOp.names_kept about committed
      have frame := ProfileOp.frame committed
      refine ⟨fun name held => ?_, ?_⟩
      · cases name with
        | profile profileId =>
            obtain ⟨row, stored, rfl⟩ := held
            exact profiles row stored
        | grant grantId =>
            obtain ⟨row, stored, same⟩ := held
            exact Or.inl ⟨row, grants row stored, same⟩
        | entry entryId =>
            rw [World.holds, frame] at held
            exact Or.inl held
        | state stateHash =>
            rw [World.holds, flows] at held
            exact Or.inl held
      · rw [frame]
        exact id
  | secrets o =>
      have frame : w'.db = { w.db with secrets := w'.db.secrets } := touched
      refine NamesKept.onDb done fun v _ flows => ?_
      exact .of_same (by rw [frame]) (by rw [frame]) (by rw [frame]) (by rw [frame]) flows
  | delegations o =>
      refine NamesKept.onDb done fun v committed flows => ?_
      have grants := DelegationOp.names_kept committed
      have frame := (DelegationOp.frame committed).1
      refine ⟨fun name held => ?_, ?_⟩
      · cases name with
        | grant grantId =>
            obtain ⟨row, stored, rfl⟩ := held
            exact grants row stored
        | state stateHash =>
            rw [World.holds, flows] at held
            exact Or.inl held
        | _ =>
            rw [World.holds, frame] at held
            exact Or.inl held
      · rw [frame]
        exact id
  | audit o =>
      cases o with
      | record entry =>
          refine NamesKept.onDb done fun v committed flows => ?_
          have frame := AuditOp.frame committed
          obtain ⟨entries, numbers⟩ := AuditOp.record_kept committed
          refine ⟨fun name held => ?_, numbers⟩
          cases name with
          | entry entryId =>
              obtain ⟨row, stored, rfl⟩ := held
              rcases entries row stored with old | here
              · exact Or.inl old
              · exact Or.inr (congrArg (some ∘ Identifier.entry) here)
          | state stateHash =>
              rw [World.holds, flows] at held
              exact Or.inl held
          | _ =>
              rw [World.holds, frame] at held
              exact Or.inl held
      | _ => exact absurd limited (by simp [Op.about, Op.seeks])
  | issueState stateHash flow =>
      cases done
      refine ⟨fun name held => ?_, id⟩
      cases name with
      | state stateHash =>
          obtain ⟨row, stored, same⟩ := held
          rcases Table.mem_upsert stored with old | ⟨keyed, -⟩
          · exact Or.inl ⟨row, old, same⟩
          · exact Or.inr (congrArg (some ∘ Identifier.state) (keyed.symm.trans same))
      | _ => exact Or.inl held
  | redeemState stateHash =>
      cases done
      refine ⟨fun name held => Or.inl ?_, id⟩
      cases name with
      | state stateHash =>
          obtain ⟨row, stored, same⟩ := held
          exact ⟨row, (Table.mem_deleteWhere.mp stored).1, same⟩
      | _ => exact held
  | acquire key =>
      rw [exec] at done
      split at done <;> cases done
      exact .of_same rfl rfl rfl rfl rfl
  | sessions | grants | roles | record | reset | purgeAttempts | purgeStates =>
      exact absurd limited (by simp [Op.about, Op.seeks])
  | now | monotonic | draw | urandom | preferences | post | release =>
      cases done
      exact .of_same rfl rfl rfl rfl rfl

/-! ## What is sought -/

theorem Mirrors.sought_spared {e : Event (machine env)} {x : Input} (mirrors : Mirrors a e.before m)
    (seeks : e.op.seeks) (named : ∀ b, e.op.names? e.ans = some b → who = some b) (other : who ≠ some a)
    (done : exec env e.op x e.before = some (e.ans, e.after)) : Mirrors a e.after m := by
  obtain ⟨i, o, answer, s, s'⟩ := e
  change exec env o x s = some (answer, s') at done
  cases o with
  | redeemState stateHash =>
      cases done
      refine ⟨mirrors.db, ?_, mirrors.renewing⟩
      change m.flows = (s.flows.deleteWhere _).restrict _
      rw [Table.restrict_deleteWhere_outside, mirrors.flows]
      intro row stored hit
      have found : s.flows.find? stateHash = some row := by
        rw [← of_decide_eq_true hit, Table.find?_self stored]
      have whose := named row.flow.binding.accountId (by simp [Op.names?, found])
      exact decide_eq_false fun own => other (own ▸ whose)
  | delegations o =>
      cases o with
      | forExchange grantId service => exact mirrors.onDb_spared (Sparing.select _) done
      | _ => exact absurd seeks id
  | _ => exact absurd seeks id

theorem Mirrors.sought_mirrored {e : Event (machine env)} {x : Input}
    (mirrors : Mirrors a e.before m) (seeks : e.op.seeks)
    (named : ∀ b, e.op.names? e.ans = some b → b = a)
    (done : exec env e.op x e.before = some (e.ans, e.after)) :
    ∃ m', exec env e.op x m = some (e.ans, m') ∧ Mirrors a e.after m' := by
  obtain ⟨i, o, answer, s, s'⟩ := e
  change exec env o x s = some (answer, s') at done
  cases o with
  | redeemState stateHash =>
      cases done
      have same : m.flows.find? stateHash = s.flows.find? stateHash := by
        rw [mirrors.flows]
        cases found : s.flows.find? stateHash with
        | none =>
            rw [Table.find?_eq_none] at found ⊢
            exact fun row stored => found row (Table.mem_restrict.mp stored).1
        | some row =>
            obtain ⟨stored, rfl⟩ := Table.find?_eq_some.mp found
            have own := named row.flow.binding.accountId (by simp [Op.names?, found])
            exact Table.find?_self (Table.mem_restrict.mpr ⟨stored, decide_eq_true own⟩)
      refine ⟨{ m with flows := m.flows.deleteWhere (·.stateHash = stateHash) }, ?_, mirrors.db, ?_,
        mirrors.renewing⟩
      · change some ((m.flows.find? stateHash).map _, _) = _
        rw [same]
      · change m.flows.deleteWhere _ = (s.flows.deleteWhere _).restrict _
        rw [Table.restrict_deleteWhere, mirrors.flows]
  | delegations o =>
      cases o with
      | forExchange grantId service =>
          refine mirrors.onDb_mirrored (forExchange_mirrored mirrors.db fun grant found => ?_) done
          cases done
          have answered : (transact (DelegationOp.forExchange grantId service).run s.db).1 =
              .ok (some grant) := congrArg Except.ok found
          exact named grant.accountId (by simp only [Op.names?, answered, Option.map_some])
      | _ => exact absurd seeks id
  | _ => exact absurd seeks id

/-! ## A run in which each caller acts for one account -/

/-- What a state reached after the events so far has in use, and how it numbers its log. -/
structure Kept (w : World) (early : List (Event (machine env))) (s : World) : Prop where
  names : ∀ name, s.holds name → w.holds name ∨ ∃ e ∈ early, e.op.identifier? = some name
  numbered : ∀ row ∈ s.db.audit, row.sequence ≤ s.db.auditSequence

theorem Kept.step {early : List (Event (machine env))} {s t : World} {e : Event (machine env)}
    (kept : Kept w early s) (step : NamesKept e.op s t) : Kept w (early ++ [e]) t where
  names name held := by
    rcases step.holds name held with before | given
    · rcases kept.names name before with start | ⟨e', member, given⟩
      · exact Or.inl start
      · exact Or.inr ⟨e', List.mem_append_left _ member, given⟩
    · exact Or.inr ⟨e, by simp, given⟩
  numbered := step.numbered kept.numbered

theorem Kept.later {early : List (Event (machine env))} {s : World} (kept : Kept w early s)
    (e : Event (machine env)) : Kept w (early ++ [e]) s where
  names name held := by
    rcases kept.names name held with start | ⟨e', member, given⟩
    · exact Or.inl start
    · exact Or.inr ⟨e', List.mem_append_left _ member, given⟩
  numbered := kept.numbered

/-- What the steps of a run name is named once, and is new. -/
def NamedApart (w : World) (tr : List (Event (machine env))) : Prop :=
  (tr.filterMap (·.op.identifier?)).Nodup ∧
    ∀ name ∈ tr.filterMap (·.op.identifier?), ¬w.holds name

theorem NamedApart.fresh {early late : List (Event (machine env))} {e : Event (machine env)}
    {s : World} (apart : NamedApart w (early ++ e :: late)) (kept : Kept w early s) :
    e.op.fresh s := by
  intro name given held
  obtain ⟨once, new⟩ := apart
  rw [List.filterMap_append, List.filterMap_cons, given] at once new
  rcases kept.names name held with start | ⟨e', member, given'⟩
  · exact new name (by simp) start
  · have before : name ∈ early.filterMap (·.op.identifier?) :=
      List.mem_filterMap.mpr ⟨e', member, given'⟩
    exact (List.nodup_append.mp once).2.2 name before name (by simp) rfl

theorem exec_registered {o : Op} {x : Input} {answer : o.Ans}
    (limited : o.about book who ∨ o.seeks) (done : exec env o x w = some (answer, w'))
    (registered : Registry book w) : Registry book w' := by
  by_cases writes : ∃ ao, o = .accounts ao
  · obtain ⟨ao, rfl⟩ := writes
    refine onDb_preserves (P := fun db => ∀ row ∈ db.accounts,
      book row.accountId row.email) done registered fun v db' committed => ?_
    cases ao with
    | get accountId => rwa [(AccountOp.get_ok committed).2]
    | save account =>
        have known := (limited.resolve_right id).2
        have same : db'.accounts = (AccountOp.saved w.db account).accounts := by
          rw [(AccountOp.save_ok committed).frame]
        rw [same]
        intro row stored
        obtain ⟨old, inside, rfl⟩ := (Table.mem_updateWhere (·.overwrite_accountId account)).mp stored
        split
        · rename_i hit
          have own : old.accountId = account.accountId := of_decide_eq_true hit
          change book old.accountId account.email
          rw [own]
          exact known
        · exact registered old inside
    | _ => exact absurd limited (by simp [Op.about, Op.seeks])
  · rw [Registry, ((exec_touches done).accounts fun ao same => writes ⟨ao, same⟩).1]
    exact registered

section Run

variable {c d : Config (machine env) Error Answer} {tr : List (Event (machine env))}
  {whom : Nat → Option String}

theorem Concerns.limited {e : Event (machine env)} (concerns : Concerns book who e) :
    e.op.about book who ∨ e.op.seeks := concerns.imp id And.left

theorem run_kept (run : Run c tr d) (concerned : ∀ e ∈ tr, Concerns book (whom e.thread) e)
    (registered : Registry book c.state)
    (numbered : ∀ row ∈ c.state.db.audit, row.sequence ≤ c.state.db.auditSequence) :
    Kept c.state tr d.state ∧ Registry book d.state := by
  induction run with
  | refl => exact ⟨⟨fun name held => Or.inl held, numbered⟩, registered⟩
  | @snoc tr m d e init last ih =>
      obtain ⟨kept, known⟩ := ih fun e' member => concerned e' (List.mem_append_left _ member)
      have limited := (concerned e (by simp)).limited
      obtain ⟨x, done⟩ := last.exec_eq
      rw [last.before_eq, last.after_eq] at done
      exact ⟨kept.step (exec_namesKept limited done), exec_registered limited done known⟩

/-- Among callers that each act for one account, those of `a` cannot tell whether the
others are there. -/
theorem unwinds_concerned (run : Run c tr d)
    (concerned : ∀ e ∈ tr, Concerns (Registered c.state.db) (whom e.thread) e)
    (unique : UniqueEmails c.state.db) (apart : NamedApart c.state tr)
    (numbered : ∀ row ∈ c.state.db.audit, row.sequence ≤ c.state.db.auditSequence) :
    Unwinds (fun i => whom i = some a)
      (fun early s => Mirrors a (finalState c.state early) s ∧ Kept c.state early s) tr := by
  have start : Registry (Registered c.state.db) c.state := fun row stored => ⟨row, stored, rfl, rfl⟩
  have before : ∀ early e late, tr = early ++ e :: late →
      finalState c.state early = e.before ∧ Kept c.state early e.before ∧
        Registry (Registered c.state.db) e.before := by
    rintro early e late rfl
    obtain ⟨mid, first, here⟩ := run.before_of_split
    have known := run_kept first (fun e' member => concerned e' (by simp [member])) start numbered
    rw [here] at known
    exact ⟨first.finalState_eq.trans here, known⟩
  constructor
  · rintro early e late split other s ⟨mirrors, kept⟩
    obtain ⟨here, kept', -⟩ := before early e late split
    obtain ⟨x, done⟩ := run.exec_eq e (by simp [split])
    rw [here] at mirrors
    rw [finalState_snoc]
    refine ⟨?_, kept.later e⟩
    rcases concerned e (by simp [split]) with about | ⟨seeks, named⟩
    · exact mirrors.spared about (of_decide_eq_false other) (NamedApart.fresh (split ▸ apart) kept') done
    · exact mirrors.sought_spared seeks named (of_decide_eq_false other) done
  · rintro early e late split own x done s ⟨mirrors, kept⟩
    obtain ⟨here, kept', registered⟩ := before early e late split
    have own : whom e.thread = some a := of_decide_eq_true own
    have concerns := concerned e (by simp [split])
    rw [own] at concerns
    rw [here] at mirrors
    have mirrored : ∃ t, exec env e.op x s = some (e.ans, t) ∧ Mirrors a e.after t := by
      rcases concerns with about | ⟨seeks, named⟩
      · exact mirrors.mirrored about unique registered (NamedApart.fresh (split ▸ apart) kept')
          (NamedApart.fresh (split ▸ apart) kept) kept'.numbered kept.numbered done
      · exact mirrors.sought_mirrored seeks (fun b known => (Option.some.inj (named b known)).symm) done
    obtain ⟨t, done', later⟩ := mirrored
    rw [finalState_snoc]
    exact ⟨t, done', later, kept.step (exec_namesKept concerns.limited done')⟩

end Run

end Keyring

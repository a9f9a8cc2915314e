import Keyring.Interleave.Memory
import Keyring.Runs
import Keyring.Scenario
import Keyring.Writes

/-!
# Grant tokens

A grant is spent by one conditional update, by a revocation, or by being absent.
Nothing but a new grant under its id makes it redeemable again, so whatever the
interleaving, it is redeemed once, before its expiry, and not after it was
revoked.
-/

set_option autoImplicit false

namespace Keyring

open Interleave Relational

variable {env : Env}

/-! ## Spent grants -/

def Grant.spent (grant : Grant) : Prop := grant.redeemedAt ≠ none ∨ grant.revoked = true

/-- No row under this id can be redeemed, at any instant. -/
def Spent (grantId : String) (w : World) : Prop :=
  ∀ row, w.db.grants.find? grantId = some row → row.spent

/-- A step that adds a grant under this id. -/
def Op.mints (grantId : String) : Op → Prop
  | .grants (.add grant) => grant.grantId = grantId
  | _ => False

section OneStep

variable {o : Op} {x : Input} {w w' : World} {a : o.Ans} {grantId : String}

theorem exec_grant (done : exec env o x w = some (a, w')) (fresh : ¬ o.mints grantId)
    {row : Grant} (stored : w'.db.grants.find? grantId = some row) :
    ∃ old, w.db.grants.find? grantId = some old ∧
      (row = old ∨ (∃ now, row = old.redeemed now) ∨ row = old.revokedNow) := by
  have unchanged : w'.db.grants = w.db.grants →
      ∃ old, w.db.grants.find? grantId = some old ∧
        (row = old ∨ (∃ now, row = old.redeemed now) ∨ row = old.revokedNow) := by
    intro same
    rw [same] at stored
    exact ⟨row, stored, Or.inl rfl⟩
  cases o with
  | grants o =>
      rcases onDb_cases done with ⟨v, -, committed⟩ | ⟨-, same⟩
      · cases o with
        | add grant =>
            obtain ⟨-, table, inserted, after⟩ := GrantOp.add_ok committed
            have other : grant.grantId ≠ grantId := fresh
            rw [after, Table.find?_insert? inserted, if_neg other] at stored
            exact ⟨row, stored, Or.inl rfl⟩
        | getByTokenHash tokenHash =>
            exact unchanged (congrArg Db.grants (Prod.mk.inj (Except.ok.inj committed)).2.symm)
        | redeem tokenHash now =>
            have after := congrArg Db.grants (Prod.mk.inj (Except.ok.inj committed)).2
            rw [← after] at stored
            change (w.db.grants.updateWhere _ (·.redeemed now)
              (·.redeemed_grantId now)).find? grantId = some row at stored
            rw [Table.find?_updateWhere, Option.map_eq_some_iff] at stored
            obtain ⟨old, before, same⟩ := stored
            refine ⟨old, before, ?_⟩
            split at same
            · exact Or.inr (Or.inl ⟨now, same.symm⟩)
            · exact Or.inl same.symm
        | revokeAllForAccount accountId purpose =>
            have after := congrArg Db.grants (Prod.mk.inj (Except.ok.inj committed)).2
            rw [← after] at stored
            change (w.db.grants.updateWhere _ (·.revokedNow)
              (·.revokedNow_grantId)).find? grantId = some row at stored
            rw [Table.find?_updateWhere, Option.map_eq_some_iff] at stored
            obtain ⟨old, before, same⟩ := stored
            refine ⟨old, before, ?_⟩
            split at same
            · exact Or.inr (Or.inr same.symm)
            · exact Or.inl same.symm
        | purgeExpired now =>
            have after := congrArg Db.grants (Prod.mk.inj (Except.ok.inj committed)).2
            rw [← after] at stored
            change (w.db.grants.deleteWhere _).find? grantId = some row at stored
            rw [Table.find?_deleteWhere, Option.filter_eq_some_iff] at stored
            exact ⟨row, stored.1, Or.inl rfl⟩
      · exact unchanged (congrArg Db.grants same)
  | accounts o =>
      have touched := exec_touches done
      cases o with
      | delete target =>
          rcases touched with same | gone
          · exact unchanged (congrArg Db.grants same)
          · rw [gone] at stored
            change (w.db.grants.deleteWhere _).find? grantId = some row at stored
            rw [Table.find?_deleteWhere, Option.filter_eq_some_iff] at stored
            exact ⟨row, stored.1, Or.inl rfl⟩
      | _ =>
          have same := congrArg Db.grants touched
          exact unchanged same
  | _ =>
      have same := congrArg Db.grants (exec_touches done)
      exact unchanged same

theorem exec_spent (done : exec env o x w = some (a, w')) (fresh : ¬ o.mints grantId)
    (spent : Spent grantId w) : Spent grantId w' := by
  intro row stored
  obtain ⟨old, before, rfl | ⟨now, rfl⟩ | rfl⟩ := exec_grant done fresh stored
  · exact spent row before
  · exact Or.inl (by simp [Grant.redeemed])
  · exact Or.inr rfl

end OneStep

/-! ## Steps that spend a grant -/

inductive Spends (grantId : String) : Event (machine env) → Prop where
  | redeemed {i : Nat} {tokenHash : String} {now : Instant} {s s' : World} {row : Grant}
      {a : (Op.grants (.redeem tokenHash now)).Ans} (stored : s.db.grants.find? grantId = some row)
      (redeemable : GrantOp.redeems tokenHash now row) :
      Spends grantId ⟨i, .grants (.redeem tokenHash now), a, s, s'⟩
  | revoked {i : Nat} {accountId : String} {purpose : GrantPurpose} {s s' : World} {row : Grant}
      {a : (Op.grants (.revokeAllForAccount accountId purpose)).Ans}
      (stored : s.db.grants.find? grantId = some row) (owner : row.accountId = some accountId)
      (kind : row.purpose = purpose) :
      Spends grantId ⟨i, .grants (.revokeAllForAccount accountId purpose), a, s, s'⟩

/-- A step that has redeemed the grant of this id. -/
inductive Redeems (grantId : String) : Event (machine env) → Prop where
  | redeemed {i : Nat} {tokenHash : String} {now : Instant} {grant : Grant} {s s' : World}
      (same : grant.grantId = grantId) :
      Redeems grantId ⟨i, .grants (.redeem tokenHash now), .ok (some grant), s, s'⟩

theorem Spends.spent {grantId : String} {e : Event (machine env)} {x : Input}
    (spends : Spends grantId e) (done : exec env e.op x e.before = some (e.ans, e.after)) :
    Spent grantId e.after := by
  intro left found
  cases spends with
  | @redeemed i tokenHash now s s' row a stored redeemable =>
      have after := congrArg (fun r => r.2.db.grants) (Option.some.inj done)
      change _ = s'.db.grants at after
      rw [← after] at found
      change (s.db.grants.updateWhere (GrantOp.redeems tokenHash now) (·.redeemed now)
        (·.redeemed_grantId now)).find? grantId = some left at found
      rw [Table.find?_updateWhere, stored, Option.map_some, if_pos redeemable] at found
      cases found
      exact Or.inl (by simp [Grant.redeemed])
  | @revoked i accountId purpose s s' row a stored owner kind =>
      have after := congrArg (fun r => r.2.db.grants) (Option.some.inj done)
      change _ = s'.db.grants at after
      rw [← after] at found
      change (s.db.grants.updateWhere (fun row : Grant => row.accountId = some accountId &&
        row.purpose = purpose && !row.revoked) (·.revokedNow)
        (·.revokedNow_grantId)).find? grantId = some left at found
      rw [Table.find?_updateWhere, stored, Option.map_some] at found
      cases found
      split
      · exact Or.inr rfl
      · rename_i kept
        simp only [owner, kind, decide_true, Bool.true_and, Bool.not_eq_true', Bool.not_eq_false]
          at kept
        exact Or.inr kept

/-- The row that a redemption has found, and what it answered. -/
theorem exec_redeem {tokenHash : String} {now : Instant} {x : Input} {w w' : World} {grant : Grant}
    (done : exec env (.grants (.redeem tokenHash now)) x w = some (.ok (some grant), w')) :
    ∃ row, w.db.grants.find? grant.grantId = some row ∧ grant = row.redeemed now ∧
      GrantOp.redeems tokenHash now row := by
  have answer := congrArg Prod.fst (Option.some.inj done)
  have found : (w.db.grants.rows.find? (GrantOp.redeems tokenHash now)).map (·.redeemed now) =
      some grant := Except.ok.inj answer
  obtain ⟨row, here, rfl⟩ := Option.map_eq_some_iff.mp found
  have stored : row ∈ w.db.grants := List.mem_of_find?_eq_some here
  exact ⟨row, Table.find?_self stored, rfl, List.find?_some here⟩

theorem Redeems.spends {grantId : String} {e : Event (machine env)} {x : Input}
    (redeems : Redeems grantId e) (done : exec env e.op x e.before = some (e.ans, e.after)) :
    Spends grantId e := by
  cases redeems with
  | @redeemed i tokenHash now grant s s' same =>
      have done : exec env (.grants (.redeem tokenHash now)) x s = some (.ok (some grant), s') := done
      obtain ⟨row, stored, -, redeemable⟩ := exec_redeem done
      rw [same] at stored
      exact .redeemed stored redeemable

theorem redeems_iff {tokenHash : String} {now : Instant} {row : Grant} :
    GrantOp.redeems tokenHash now row = true ↔
      row.tokenHash = tokenHash ∧ row.redeemedAt = none ∧ row.revoked = false ∧
        now < row.expiresAt := by
  simp [GrantOp.redeems, and_assoc]

/-! ## Instants that a step carries -/

/-- The reading of the clock that a step on the grants was given. -/
def Op.dated : Op → Option Instant
  | .grants (.redeem _ instant) | .grants (.purgeExpired instant) => some instant
  | _ => none

/-- The last instant that the clock has shown to a caller. -/
def lastReading : Memory (machine env) (Option Instant) where
  note seen o a :=
    match o, a with
    | .now, instant => some instant
    | _, _ => seen
  agrees seen o := ∀ now, o.dated = some now → seen = some now

theorem Op.idle.undated {o : Op} (idle : o.idle) : o.dated = none := by
  cases o with
  | grants o => cases o <;> first | rfl | exact idle.elim
  | _ => rfl

theorem minds_of_undated {α : Type} {p : Service env α} (uses : p.Uses fun (o : Op) => o.dated = none)
    (seen : Option Instant) : p.Minds lastReading seen := by
  refine Prog.Minds.of_uses uses (fun o undated seen now dated => ?_) seen
  rw [undated] at dated
  cases dated

theorem ask_bind_minds {α σ : Type} {m : Memory (machine env) σ} {o : Op} {f : o.Ans → Service env α}
    {seen : σ} (agrees : m.agrees seen o) (rest : ∀ a, (f a).Minds m (m.note seen o a)) :
    (ask o >>= f).Minds m seen := ⟨agrees, rest⟩

theorem grantStore_bind_minds {α σ : Type} {m : Memory (machine env) σ} {o : GrantOp}
    {f : o.Ans → Service env α} {seen : σ} (agrees : m.agrees seen (.grants o))
    (rest : ∀ v, (f v).Minds m (m.note seen (.grants o) (.ok v))) :
    (grantStore o >>= f).Minds m seen := by
  refine ⟨agrees, fun a => ?_⟩
  cases a with
  | error e => trivial
  | ok v => exact rest v

/-- A step on the grants that is given what the clock has just shown. -/
theorem minds_of_reading {α : Type} {o : Instant → GrantOp}
    {f : (now : Instant) → (o now).Ans → Service env α}
    (dated : ∀ now, Op.dated (.grants (o now)) = some now)
    (rest : ∀ now answer seen, (f now answer).Minds lastReading seen) (seen : Option Instant) :
    (clockNow >>= fun now => grantStore (o now) >>= f now : Service env α).Minds lastReading
      seen := by
  refine ask_bind_minds (fun now impossible => by cases impossible) fun now => ?_
  refine grantStore_bind_minds (fun now' same => ?_) fun answer => rest now answer _
  rw [dated] at same
  exact same

theorem AccountService.redeem_minds (token : String) (purpose : GrantPurpose)
    (seen : Option Instant) : (redeem env token purpose).Minds lastReading seen := by
  refine minds_of_reading (fun _ => rfl) (fun now answer seen => ?_) seen
  cases answer with
  | none => trivial
  | some grant =>
      refine minds_of_undated ?_ seen
      exact Prog.Uses.bind (refuseIf_uses _ _) fun _ => trivial

/-- The requests that present a token, with the purpose it has to have. -/
def Call.redemption : Call → Option (String × GrantPurpose)
  | .account (.redeemInvite token _ _) => some (token, .invite)
  | .account (.redeemPasswordReset token _ _) => some (token, .passwordReset)
  | _ => none

/-- Of all requests, these and the sweep carry instants to the grants. -/
theorem Call.writes_dated {c : Call} {o : Op} {instant : Instant} (dated : o.dated = some instant)
    (writes : c.writes o) : c.redemption ≠ none ∨ c = .account .sweepOnce := by
  have shape : (∃ tokenHash, o = .grants (.redeem tokenHash instant)) ∨
      o = .grants (.purgeExpired instant) := by
    unfold Op.dated at dated
    split at dated
    · cases dated
      exact Or.inl ⟨_, rfl⟩
    · cases dated
      exact Or.inr rfl
    · cases dated
  rcases shape with ⟨tokenHash, rfl⟩ | rfl
  all_goals
    cases c with
    | account c =>
        cases c <;> first | exact writes.elim | exact Or.inr rfl | exact Or.inl (by simp [redemption])
    | admin actor c => cases c <;> exact writes.elim
    | credential c => cases c <;> exact writes.elim
    | change c => cases c <;> first | exact writes.elim | exact (writes.elim id id).elim
    | delegation c => cases c <;> exact writes.elim
    | exchange service audience ttlSeconds userToken grantId => exact writes.elim
    | internal service userToken c => cases c <;> exact writes.elim

theorem sweepOnce_minds : (AccountCall.sweepOnce.prog env).Minds lastReading none := by
  refine Prog.Minds.bind ?_ fun result seen => trivial
  refine ask_bind_minds (fun _ impossible => by cases impossible) fun now => ?_
  refine Prog.Minds.bind (minds_of_undated (sessionStore_uses rfl) _) fun expired seen => ?_
  refine minds_of_reading (fun _ => rfl) (fun now answer seen => ?_) seen
  refine minds_of_undated ?_ seen
  refine Prog.Uses.bind (ask_uses rfl) fun now => ?_
  exact Prog.Uses.bind (ask_uses rfl) fun records => trivial

/-! ## Presenting a token -/

/-- A presentation is refused here before its token is consumed. -/
def Error.beforeRedemption : Error → Prop
  | .rateLimited _ _ | .invalidPassword _ => True
  | _ => False

/-- A step that consumes a token. -/
def Op.redeems : Op → Prop
  | .grants (.redeem _ _) => True
  | _ => False

theorem Op.keeps_of_undated {o : Op} (undated : o.dated = none) : ¬ o.redeems := by
  cases o with
  | grants o => cases o <;> first | exact id | cases undated
  | _ => exact id

theorem checkPasswordPolicy_error {password : String} {e : Error}
    (refused : checkPasswordPolicy password = .error e) : e.beforeRedemption := by
  unfold checkPasswordPolicy at refused
  split at refused
  · cases refused
    trivial
  · split at refused
    · cases refused
      trivial
    · split at refused <;> cases refused
      trivial

theorem checkLimit_error {scope caller : String} {limit : Nat} {width : Instant}
    {es : List (Event (machine env))} {e : Error}
    (path : Path (checkLimit scope caller limit width : Service env Unit) es (.done (.error e))) :
    e.beforeRedemption := by
  obtain ⟨i, now, s, s', rest, rfl, recording⟩ := Path.call_done path
  obtain ⟨j, refusal, t, t', rest', rfl, final⟩ := Path.call_done recording
  cases refusal with
  | none =>
      obtain ⟨-, impossible⟩ := Path.done_inv final
      cases impossible
  | some retryAfter =>
      obtain ⟨-, same⟩ := Path.done_inv final
      cases same
      trivial

/-- A presentation that has ended was refused before, or has consumed its token
after reading the clock; it returns only with a grant of its own purpose. -/
inductive Presentation (tokenHash : String) (purpose : GrantPurpose) {α : Type} :
    List (Event (machine env)) → Except Error α → Prop where
  | refused {es : List (Event (machine env))} {e : Error} (quiet : ∀ e ∈ es, ¬ e.op.redeems)
      (early : e.beforeRedemption) : Presentation tokenHash purpose es (.error e)
  | consumed {es early late : List (Event (machine env))} {i : Nat} {now : Instant} {s s' : World}
      {a : (Op.grants (.redeem tokenHash now)).Ans} {r : Except Error α}
      (split : es = early ++ ⟨i, .grants (.redeem tokenHash now), a, s, s'⟩ :: late)
      (before : ∀ e ∈ early, ¬ e.op.redeems) (after : ∀ e ∈ late, ¬ e.op.redeems)
      (granted : ∀ v, r = .ok v → ∃ grant, a = .ok (some grant) ∧ grant.purpose = purpose) :
      Presentation tokenHash purpose es r

/-- The two steps of a redemption. -/
theorem redeem_done {token : String} {purpose : GrantPurpose} {es : List (Event (machine env))}
    {r : Except Error Grant} (path : Path (AccountService.redeem env token purpose) es (.done r)) :
    ∃ i now s s' j a t t', es = [⟨i, .now, now, s, s'⟩,
        ⟨j, .grants (.redeem (env.hashToken token) now), a, t, t'⟩] ∧
      ∀ grant, r = .ok grant → a = .ok (some grant) ∧ grant.purpose = purpose := by
  obtain ⟨i, now, s, s', rest, rfl, redeeming⟩ := Path.call_done path
  obtain ⟨j, a, t, t', last, rfl, redeemed⟩ := Path.call_done redeeming
  refine ⟨i, now, s, s', j, a, t, t', ?_⟩
  cases a with
  | error e =>
      obtain ⟨rfl, same⟩ := Path.done_inv redeemed
      cases same
      exact ⟨rfl, fun grant impossible => by cases impossible⟩
  | ok found =>
      cases found with
      | none =>
          obtain ⟨rfl, same⟩ := Path.done_inv redeemed
          cases same
          exact ⟨rfl, fun grant impossible => by cases impossible⟩
      | some grant =>
          have checking : Path (refuseIf (grant.purpose ≠ purpose) (.invalidGrant badGrant) >>=
            fun _ => (pure grant : Service env Grant)) last (.done r) := redeemed
          rcases refuseIf_bind_inv checking with ⟨-, rfl, same⟩ | ⟨accepted, final⟩
          · cases same
            exact ⟨rfl, fun grant impossible => by cases impossible⟩
          · obtain ⟨rfl, same⟩ := Path.done_inv final
            cases same
            refine ⟨rfl, fun grant' same => ?_⟩
            cases same
            exact ⟨rfl, not_not.mp accepted⟩

theorem presentation_of_path {α : Type} {scope caller token password : String} {limit : Nat}
    {width : Instant} {purpose : GrantPurpose} {f : Grant → Service env α}
    (rest : ∀ grant, (f grant).Uses fun (o : Op) => o.dated = none)
    {es : List (Event (machine env))} {r : Except Error α}
    (path : Path (checkLimit scope caller limit width >>= fun _ =>
      Prog.ofExcept (checkPasswordPolicy password) >>= fun _ =>
        AccountService.redeem env token purpose >>= f) es (.done r)) :
    Presentation (env.hashToken token) purpose es r := by
  have limits : (checkLimit scope caller limit width : Service env Unit).Uses
      fun (o : Op) => ¬ o.redeems :=
    checkLimit_uses (fun _ limits => Op.keeps_of_undated limits.idle.undated) _ _ _ _
  obtain ⟨e, failed, rfl⟩ | ⟨_, first, es₂, rfl, passed, checking⟩ := path.bind_done
  · exact .refused (failed.uses limits).1 (checkLimit_error failed)
  have before := (passed.uses limits).1
  have quiet : ∀ (i : Nat) (now : Instant) (s s' : World),
      ∀ e ∈ first ++ [(⟨i, .now, now, s, s'⟩ : Event (machine env))], ¬ e.op.redeems := by
    intro i now s s' e member
    rcases List.mem_append.mp member with earlier | reading
    · exact before e earlier
    · rw [List.mem_singleton.mp reading]
      exact id
  cases policy : checkPasswordPolicy password with
  | error e =>
      rw [policy] at checking
      obtain ⟨rfl, same⟩ := Path.done_inv checking
      cases same
      rw [List.append_nil]
      exact .refused before (checkPasswordPolicy_error policy)
  | ok _ =>
      rw [policy] at checking
      have redeeming : Path (AccountService.redeem env token purpose >>= f) es₂ (.done r) := checking
      obtain ⟨e, failed, rfl⟩ | ⟨grant, taken, es₃, rfl, redeemed, final⟩ := redeeming.bind_done
      · obtain ⟨i, now, s, s', j, a, t, t', rfl, -⟩ := redeem_done failed
        have split : first ++ [⟨i, .now, now, s, s'⟩,
              ⟨j, .grants (.redeem (env.hashToken token) now), a, t, t'⟩] =
            (first ++ [⟨i, .now, now, s, s'⟩]) ++
              ⟨j, .grants (.redeem (env.hashToken token) now), a, t, t'⟩ :: [] := by simp
        refine .consumed split (quiet i now s s') (by simp) fun v impossible => ?_
        cases impossible
      · obtain ⟨i, now, s, s', j, a, t, t', rfl, granted⟩ := redeem_done redeemed
        have split : first ++ ([⟨i, .now, now, s, s'⟩,
              ⟨j, .grants (.redeem (env.hashToken token) now), a, t, t'⟩] ++ es₃) =
            (first ++ [⟨i, .now, now, s, s'⟩]) ++
              ⟨j, .grants (.redeem (env.hashToken token) now), a, t, t'⟩ :: es₃ := by simp
        have after := (final.uses (rest grant)).1
        exact .consumed split (quiet i now s s') (fun e member => Op.keeps_of_undated (after e member))
          fun v _ => ⟨grant, granted grant rfl⟩

theorem Presentation.map {α β : Type} {tokenHash : String} {purpose : GrantPurpose}
    {es : List (Event (machine env))} {r : Except Error α} (answer : α → β)
    (presentation : Presentation tokenHash purpose es r) :
    Presentation tokenHash purpose es (r.map answer) := by
  cases presentation with
  | refused quiet early => exact .refused quiet early
  | consumed split before after granted =>
      refine .consumed split before after fun v returned => ?_
      cases r with
      | error e => cases returned
      | ok a => exact granted a rfl

theorem minds_of_presentation {α : Type} {scope caller token password : String} {limit : Nat}
    {width : Instant} {purpose : GrantPurpose} {f : Grant → Service env α}
    (rest : ∀ grant, (f grant).Uses fun (o : Op) => o.dated = none) (seen : Option Instant) :
    (checkLimit scope caller limit width >>= fun _ => Prog.ofExcept (checkPasswordPolicy password)
      >>= fun _ => AccountService.redeem env token purpose >>= f).Minds lastReading seen := by
  have limits : (checkLimit scope caller limit width : Service env Unit).Uses
      fun (o : Op) => o.dated = none := checkLimit_uses (fun _ limits => limits.idle.undated) _ _ _ _
  refine Prog.Minds.bind (minds_of_undated limits seen) fun _ seen => ?_
  refine Prog.Minds.bind (minds_of_undated (ofExcept_uses _) seen) fun _ seen => ?_
  exact Prog.Minds.bind (AccountService.redeem_minds token purpose seen) fun grant =>
    minds_of_undated (rest grant)

theorem Call.redemption_shape (env : Env) {c : Call} {token : String} {purpose : GrantPurpose}
    (presents : c.redemption = some (token, purpose)) :
    ∃ (α : Type) (answer : α → Answer) (scope caller password : String) (limit : Nat)
        (width : Instant) (f : Grant → Service env α),
      c.prog env = returning (checkLimit scope caller limit width >>= fun _ =>
        Prog.ofExcept (checkPasswordPolicy password) >>= fun _ =>
          AccountService.redeem env token purpose >>= f) answer ∧
      ∀ grant, (f grant).Uses fun (o : Op) => o.dated = none := by
  unfold Call.redemption at presents
  split at presents
  · cases presents
    refine ⟨_, _, _, _, _, _, _, _, rfl, fun grant => ?_⟩
    split
    · trivial
    · refine Prog.Uses.bind (ask_uses rfl) fun now => ?_
      refine Prog.Uses.bind (accountStore_uses rfl) fun count => ?_
      refine Prog.Uses.bind (ask_uses rfl) fun hex => ?_
      refine Prog.Uses.bind (ask_uses rfl) fun salt => ?_
      refine Prog.Uses.bind (accountStore_uses rfl) fun _ => ?_
      exact Prog.Uses.bind (ask_uses rfl) fun _ => trivial
  · cases presents
    have quiet : ∀ o : Op, o.quiet → o.dated = none := fun _ quiet => quiet.idle.undated
    refine ⟨_, _, _, _, _, _, _, _, rfl, fun grant => ?_⟩
    refine Prog.Uses.bind (AccountService.grantee_writes (modest_of_quiet quiet) grant) fun found => ?_
    cases found with
    | none => trivial
    | some account =>
        exact Prog.Uses.bind (AccountService.setPassword_writes (modest_of_quiet quiet) (fun _ _ => rfl)
          (fun _ _ => rfl) (fun _ => rfl) _ none) fun _ => trivial
  · cases presents

theorem Call.presentation {c : Call} {token : String} {purpose : GrantPurpose}
    (presents : c.redemption = some (token, purpose)) {es : List (Event (machine env))}
    {r : Except Error Answer} (path : Path (c.prog env) es (.done r)) :
    Presentation (env.hashToken token) purpose es r := by
  obtain ⟨α, answer, scope, caller, password, limit, width, f, shape, rest⟩ :=
    Call.redemption_shape env presents
  rw [shape] at path
  obtain ⟨p', inside, ended⟩ := returning_inv path
  obtain ⟨r', rfl, rfl⟩ := returning_done ended.symm
  exact (presentation_of_path rest inside).map answer

theorem Call.redemption_minds {c : Call} (presents : c.redemption ≠ none) :
    (c.prog env).Minds lastReading none := by
  obtain ⟨⟨token, purpose⟩, presents⟩ := Option.ne_none_iff_exists'.mp presents
  obtain ⟨α, answer, scope, caller, password, limit, width, f, shape, rest⟩ :=
    Call.redemption_shape env presents
  rw [shape]
  exact Prog.Minds.bind (minds_of_presentation rest none) fun _ _ => trivial

/-! ## Runs -/

section Runs

variable {w : World} {calls : List Call} {d : Config (machine env) Error Answer}
  {tr : List (Event (machine env))}

theorem dated_of_run (run : Run (start env w calls) tr d) {e : Event (machine env)}
    (member : e ∈ tr) {instant : Instant} (dated : e.op.dated = some instant) :
    (∃ t t', ⟨e.thread, .now, instant, t, t'⟩ ∈ tr) ∧
      ((∀ e ∈ tr, e.before.clock ≤ e.after.clock) → instant ≤ e.before.clock) := by
  obtain ⟨c, found, idle | writes⟩ := writes_of_run run member
  · rw [idle.undated] at dated
    cases dated
  have minds : (c.prog env).Minds lastReading none := by
    rcases Call.writes_dated dated writes with presents | rfl
    · exact Call.redemption_minds presents
    · exact sweepOnce_minds
  have here : (start env w calls).pool[e.thread]? = some (c.prog env) := by
    simp [start, found]
  obtain ⟨early, late, own, agrees⟩ := run.minds member here minds
  have seen := agrees instant dated
  have noted : ∀ before (e' : Event (machine env)), e' ∈ early →
      lastReading.note before e'.op e'.ans = some instant →
        (before = some instant ∧ True) ∨ ∃ i t t', e' = ⟨i, .now, instant, t, t'⟩ := by
    rintro before ⟨i, o, a, t, t'⟩ - noted
    cases o with
    | now =>
        cases Option.some.inj noted
        exact Or.inr ⟨i, t, t', rfl⟩
    | _ => exact Or.inl ⟨noted, trivial⟩
  obtain ⟨impossible, -⟩ | ⟨first, _, second, rfl, ⟨i, t, t', rfl⟩, -⟩ :=
    lastReading.last_of_after (P := (· = some instant)) noted seen
  · cases impossible
  obtain ⟨reading, same⟩ := mem_ofThread.mp
    (show (⟨i, .now, instant, t, t'⟩ : Event (machine env)) ∈ ofThread e.thread tr by
      rw [own]
      simp)
  have same : i = e.thread := same
  subst same
  refine ⟨⟨t, t', reading⟩, fun steady => ?_⟩
  have order : t'.clock ≤ e.before.clock := by
    have split : ofThread e.thread tr =
        first ++ ⟨e.thread, .now, instant, t, t'⟩ :: (second ++ e :: late) := by
      rw [own]
      simp
    exact run.related_own (fun s t : World => s.clock ≤ t.clock) (fun _ => le_refl _)
      (fun first second => le_trans first second) steady split e (by simp)
  obtain ⟨x, done⟩ := run.exec_eq _ reading
  have done : exec env .now x t = some (instant, t') := done
  have shown : t'.clock = instant := by
    cases done
    rfl
  rwa [shown] at order

theorem minted_between (run : Run (start env w calls) tr d) {grantId : String}
    {early mid late : List (Event (machine env))} {e e' : Event (machine env)}
    (split : tr = early ++ e :: (mid ++ e' :: late)) (spends : Spends grantId e)
    (redeems : Redeems grantId e') : ∃ m ∈ mid, m.op.mints grantId := by
  by_contra none
  push Not at none
  subst split
  obtain ⟨c, first, rest⟩ := run.split
  obtain ⟨c', step, rest⟩ := rest.cons_inv
  obtain ⟨x, done⟩ := step.exec_eq
  have spent : Spent grantId c'.state := by
    rw [← step.after_eq]
    exact spends.spent done
  obtain ⟨c'', between, here⟩ := rest.before_of_split
  have still : Spent grantId c''.state := by
    refine between.preserves _ (fun m member => ?_) spent
    obtain ⟨x, done⟩ := between.exec_eq m member
    exact exec_spent done (none m member)
  obtain ⟨x, done⟩ := rest.exec_eq e' (by simp)
  rw [here] at still
  cases redeems with
  | @redeemed i tokenHash now grant s s' same =>
      have done : exec env (.grants (.redeem tokenHash now)) x s = some (.ok (some grant), s') := done
      obtain ⟨row, stored, -, redeemable⟩ := exec_redeem done
      rw [same] at stored
      obtain ⟨-, unredeemed, unrevoked, -⟩ := redeems_iff.mp redeemable
      rcases still row stored with redeemed | revoked
      · exact redeemed unredeemed
      · rw [unrevoked] at revoked
        cases revoked

theorem purge_keeps (run : Run (start env w calls) tr d)
    (steady : ∀ e ∈ tr, e.before.clock ≤ e.after.clock) {i : Nat} {now : Instant}
    {a : (Op.grants (.purgeExpired now)).Ans} {s s' : World}
    (member : ⟨i, .grants (.purgeExpired now), a, s, s'⟩ ∈ tr) {row : Grant}
    (stored : row ∈ s.db.grants) (unexpired : s.clock < row.expiresAt) : row ∈ s'.db.grants := by
  have read : now ≤ s.clock := (dated_of_run run member rfl).2 steady
  obtain ⟨x, done⟩ := run.exec_eq _ member
  have after := congrArg (fun r => r.2.db.grants) (Option.some.inj done)
  change _ = s'.db.grants at after
  rw [← after]
  refine Table.mem_deleteWhere.mpr ⟨stored, ?_⟩
  simp only [decide_eq_false_iff_not, not_le]
  exact lt_of_le_of_lt read unexpired

/-- In every run, under a clock that never goes back:
a grant is redeemed unspent and before its expiry, by the clock that the call has
read; what was redeemed or revoked is not redeemed again; a presentation that is
not refused by the limit or the policy redeems its token whatever the purpose,
which spends the grant, and returns only with a grant of its own purpose; and a
purge keeps what is redeemable. -/
theorem grant_tokens (run : Run (start env w calls) tr d)
    (steady : ∀ e ∈ tr, e.before.clock ≤ e.after.clock) :
    (∀ i tokenHash now grant s s',
      ⟨i, .grants (.redeem tokenHash now), .ok (some grant), s, s'⟩ ∈ tr →
        ∃ row, s.db.grants.find? grant.grantId = some row ∧ grant = row.redeemed now ∧
          row.tokenHash = tokenHash ∧ row.isRedeemable now ∧
          ∃ t t', ⟨i, .now, now, t, t'⟩ ∈ tr) ∧
    (∀ grantId early e mid e' late, tr = early ++ e :: (mid ++ e' :: late) →
      Redeems grantId e ∨ Spends grantId e → Redeems grantId e' → ∃ m ∈ mid, m.op.mints grantId) ∧
    (∀ i tokenHash now a s s' row, ⟨i, .grants (.redeem tokenHash now), a, s, s'⟩ ∈ tr →
      row ∈ s.db.grants → row.tokenHash = tokenHash → row.isRedeemable now →
        Spends row.grantId (⟨i, .grants (.redeem tokenHash now), a, s, s'⟩ : Event (machine env))) ∧
    (∀ i c token purpose r, calls[i]? = some c → c.redemption = some (token, purpose) →
      d.pool[i]? = some (.done r) → Presentation (env.hashToken token) purpose (ofThread i tr) r) ∧
    (∀ i now a s s' row, ⟨i, .grants (.purgeExpired now), a, s, s'⟩ ∈ tr → row ∈ s.db.grants →
      row.isRedeemable s.clock → row ∈ s'.db.grants) := by
  refine ⟨?_, ?_, ?_, ?_, ?_⟩
  · intro i tokenHash now grant s s' member
    obtain ⟨x, done⟩ := run.exec_eq _ member
    have done : exec env (.grants (.redeem tokenHash now)) x s = some (.ok (some grant), s') := done
    obtain ⟨row, stored, rfl, redeemable⟩ := exec_redeem done
    obtain ⟨hashed, unredeemed, unrevoked, unexpired⟩ := redeems_iff.mp redeemable
    refine ⟨row, stored, rfl, hashed, ?_, (dated_of_run run member rfl).1⟩
    simp [Grant.isRedeemable, unredeemed, unrevoked, unexpired]
  · intro grantId early e mid e' late split gone
    rcases gone with redeems | spends
    · obtain ⟨x, done⟩ := run.exec_eq e (by simp [split])
      exact minted_between run split (redeems.spends done)
    · exact minted_between run split spends
  · intro i tokenHash now a s s' row member stored hashed redeemable
    refine .redeemed (Table.find?_self stored) (redeems_iff.mpr ?_)
    simp only [Grant.isRedeemable, Bool.and_eq_true, Option.isNone_iff_eq_none, Bool.not_eq_true',
      decide_eq_true_eq] at redeemable
    exact ⟨hashed, redeemable.1.1, redeemable.1.2, redeemable.2⟩
  · intro i c token purpose r found presents ended
    obtain ⟨q, here, path⟩ := path_of_run run i c found
    rw [ended] at here
    cases here
    exact Call.presentation presents path
  · intro i now a s s' row member stored redeemable
    have unexpired : s.clock < row.expiresAt := by
      simp only [Grant.isRedeemable, Bool.and_eq_true, decide_eq_true_eq] at redeemable
      exact redeemable.2
    exact purge_keeps run steady member stored unexpired

end Runs

/-! ## A token presented with a weak password -/

namespace Scenario

/-- Bob asks for a reset, his token is presented as an invite, then as a reset. -/
def misdirected (password : String) : List Call :=
  [.account (.requestPasswordReset "bob@mail.org" "home"),
    .account (.redeemInvite "a" password "home"),
    .account (.redeemPasswordReset "a" "slow paper boat" "home")]

def presentedRun (password : String) :
    Config (machine deployment) Error Answer × List (Event (machine deployment)) :=
  (start deployment office (misdirected password)).play
    (List.replicate 10 (0, given 5 "a") ++ List.replicate 4 (1, given 6 "b"))

def resetRun (password : String) :
    Config (machine deployment) Error Answer × List (Event (machine deployment)) :=
  (presentedRun password).1.play (List.replicate 10 (2, given 7 "c"))

end Scenario

open Scenario in
/-- The invite endpoint consumes the reset token, so the reset that comes later
redeems nothing. -/
theorem grant_tokens_misdirected :
    Presentation (deployment.hashToken "a") .invite
      (ofThread 1 (presentedRun "slow paper boat").2)
      (.error (.invalidGrant badGrant) : Except Error Answer) := by
  have run := Config.play_run (start deployment office (misdirected "slow paper boat"))
    (List.replicate 10 (0, given 5 "a") ++ List.replicate 4 (1, given 6 "b"))
  exact (grant_tokens run (by decide +kernel)).2.2.2.1 1 _ "a" .invite _ rfl rfl rfl

open Scenario in
/-- A redeemable reset token that is presented as an invite, with a password that
the policy rejects, is not consumed: it is redeemed later. -/
theorem token_survives_presentation :
    Run (start deployment office (misdirected "short")) (presentedRun "short").2
        (presentedRun "short").1 ∧
      Run (presentedRun "short").1 (resetRun "short").2 (resetRun "short").1 ∧
      (∀ e ∈ (presentedRun "short").2 ++ (resetRun "short").2, e.before.clock ≤ e.after.clock) ∧
      (∃ row ∈ (presentedRun "short").1.state.db.grants,
        row.tokenHash = deployment.hashToken "a" ∧ row.purpose = .passwordReset ∧
          row.isRedeemable (presentedRun "short").1.state.clock) ∧
      (∃ message, (presentedRun "short").1.pool[1]? =
        some (.done (.error (.invalidPassword message)))) ∧
      ∃ answer, (resetRun "short").1.pool[2]? = some (.done (.ok answer)) := by
  refine ⟨Config.play_run _ _, Config.play_run _ _, by decide +kernel, by decide +kernel,
    ⟨_, rfl⟩, returned_some (by decide +kernel)⟩

end Keyring

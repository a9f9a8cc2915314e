import Keyring.Credentials.ExchangeChain
import Keyring.Writes

/-!
# The authority behind an exchanged token

A minted token rests on one authority that the exchange has read as valid, and on
an account that it has read as active.  Once a grant is revoked, its profile
deleted, or the account disabled or deleted, the stored rows are void, and they
stay so unless a later step writes the account back as active or adds it, or the
grant, anew.
-/

set_option autoImplicit false

namespace Keyring

open Interleave Relational

variable {env : Env}

/-! ## Void rows -/

/-- The account is absent or may not act. -/
def Barred (accountId : String) (w : World) : Prop :=
  ∀ row, w.db.accounts.find? accountId = some row → row.status ≠ .active

/-- The offline grant is absent or revoked. -/
def Voided (held : String) (w : World) : Prop :=
  ∀ row, w.db.offlineGrants.find? held = some row → row.revokedAt ≠ none

/-- A step that may make the account active again. -/
def Op.reinstates (accountId : String) : Op → Prop
  | .accounts (.add account) => account.accountId = accountId
  | .accounts (.save copy) => copy.accountId = accountId ∧ copy.status = .active
  | _ => False

/-- A step that adds a grant under this handle. -/
def Op.regrants (held : String) : Op → Prop
  | .delegations (.add grant _ _) => grant.grantId = held
  | _ => False

section OneStep

variable {o : Op} {x : Input} {w w' : World} {a : o.Ans}

theorem exec_barred {accountId : String} (done : exec env o x w = some (a, w'))
    (kept : ¬ o.reinstates accountId) (barred : Barred accountId w) : Barred accountId w' := by
  by_cases spares : o.sparesAccounts
  · cases exec_written done spares accountId with
    | saved copy saved same row _ =>
        cases Op.saved_eq_some saved
        intro found stored
        rw [row, Option.map_eq_some_iff] at stored
        obtain ⟨old, -, rfl⟩ := stored
        exact fun active => kept ⟨same, active⟩
    | assigned names now _ _ row _ =>
        intro found stored
        rw [row, Option.map_eq_some_iff] at stored
        obtain ⟨old, before, rfl⟩ := stored
        exact barred old before
    | kept _ _ row _ =>
        intro found stored
        rw [row] at stored
        exact barred found stored
  · cases o with
    | accounts o =>
        refine onDb_preserves (P := fun db => ∀ row, db.accounts.find? accountId = some row →
          row.status ≠ .active) done barred fun v db' committed => ?_
        cases o with
        | add account =>
            obtain ⟨-, accounts, added, written⟩ := AccountOp.add_ok committed
            intro row stored
            rw [written.frame] at stored
            change accounts.find? accountId = some row at stored
            have other : account.accountId ≠ accountId := kept
            rw [Table.find?_insert? added, if_neg other] at stored
            exact barred row stored
        | delete target =>
            rcases AccountOp.delete_ok committed with ⟨-, -, rfl⟩ | ⟨-, -, -, rfl⟩
            · exact barred
            · intro row stored
              change (w.db.accounts.deleteWhere _).find? accountId = some row at stored
              rw [Table.find?_deleteWhere, Option.filter_eq_some_iff] at stored
              exact barred row stored.1
        | _ => exact absurd trivial spares
    | _ => exact absurd trivial spares

theorem ProfileOp.offlineGrants_eq {text : Text} {db db' : Db} {o : ProfileOp} {v : o.Ans}
    (kept : ∀ accountId name, o ≠ .delete accountId name)
    (committed : (o.run text).run db = .ok (v, db')) : db'.offlineGrants = db.offlineGrants := by
  cases o with
  | add profile cap =>
      obtain ⟨-, v, mid, inserted, connected⟩ := add_committed committed
      obtain ⟨-, table, -, rfl⟩ := insertProfile_ok inserted
      rw [upsertConnections_frame connected]
  | get accountId name => rw [(get_ok committed).2]
  | putConnection accountId name connection cap now =>
      rw [(putConnection_ok committed).1.frame]
  | removeConnection accountId name service now =>
      change Except.ok (if _ then _ else _) = Except.ok _ at committed
      split at committed <;> cases committed <;> rfl
  | delete accountId name => exact absurd rfl (kept accountId name)
  | listForAccount accountId => cases committed; rfl
  | countForAccount accountId => cases committed; rfl
  | allProfiles => cases committed; rfl

theorem find?_deleteProfiles {db : Db} {p : ProfileRow → Bool} {held : String} {row : OfflineGrant}
    (stored : (db.deleteProfiles p).offlineGrants.find? held = some row) :
    db.offlineGrants.find? held = some row := by
  change (db.offlineGrants.deleteWhere _).find? held = some row at stored
  rw [Table.find?_deleteWhere, Option.filter_eq_some_iff] at stored
  exact stored.1

theorem exec_offlineGrant {held : String} (done : exec env o x w = some (a, w'))
    (fresh : ¬ o.regrants held) {row : OfflineGrant}
    (stored : w'.db.offlineGrants.find? held = some row) :
    ∃ old, w.db.offlineGrants.find? held = some old ∧
      (row = old ∨ ∃ now, row = old.revoke now) := by
  have unchanged : w'.db.offlineGrants = w.db.offlineGrants →
      ∃ old, w.db.offlineGrants.find? held = some old ∧
        (row = old ∨ ∃ now, row = old.revoke now) := by
    intro same
    rw [same] at stored
    exact ⟨row, stored, Or.inl rfl⟩
  cases o with
  | delegations o =>
      rcases onDb_cases done with ⟨v, -, committed⟩ | ⟨-, same⟩
      · cases o with
        | add grant cap now =>
            change (if _ then _ else _ : Except Error (Unit × Db)) = _ at committed
            split at committed
            · cases committed
            · split at committed
              · cases committed
              · split at committed
                · cases committed
                · rename_i table inserted
                  have after := congrArg Db.offlineGrants (Prod.mk.inj (Except.ok.inj committed)).2
                  rw [← after] at stored
                  change table.find? held = some row at stored
                  have other : grant.grantId ≠ held := fresh
                  rw [Table.find?_insert? (insertRow_ok.mp inserted), if_neg other] at stored
                  exact ⟨row, stored, Or.inl rfl⟩
        | forExchange grantId service =>
            exact unchanged (congrArg Db.offlineGrants (Prod.mk.inj (Except.ok.inj committed)).2.symm)
        | listForProfile accountId profile =>
            exact unchanged (congrArg Db.offlineGrants (Prod.mk.inj (Except.ok.inj committed)).2.symm)
        | revoke accountId profile grantId now =>
            have after := congrArg Db.offlineGrants (Prod.mk.inj (Except.ok.inj committed)).2
            rw [← after] at stored
            change (w.db.offlineGrants.updateWhere _ (·.revoke now)
              (·.revoke_grantId now)).find? held = some row at stored
            rw [Table.find?_updateWhere, Option.map_eq_some_iff] at stored
            obtain ⟨old, before, same⟩ := stored
            refine ⟨old, before, ?_⟩
            split at same
            · exact Or.inr ⟨now, same.symm⟩
            · exact Or.inl same.symm
      · exact unchanged (congrArg Db.offlineGrants same)
  | profiles o =>
      rcases onDb_cases done with ⟨v, -, committed⟩ | ⟨-, same⟩
      · by_cases deletes : ∃ accountId name, o = .delete accountId name
        · obtain ⟨accountId, name, rfl⟩ := deletes
          rw [(ProfileOp.delete_ok committed).2] at stored
          exact ⟨row, find?_deleteProfiles stored, Or.inl rfl⟩
        · refine unchanged (ProfileOp.offlineGrants_eq (fun accountId name same => ?_) committed)
          exact deletes ⟨accountId, name, same⟩
      · exact unchanged (congrArg Db.offlineGrants same)
  | accounts o =>
      have touched := exec_touches done
      cases o with
      | delete target =>
          rcases touched with same | gone
          · exact unchanged (congrArg Db.offlineGrants same)
          · rw [gone] at stored
            exact ⟨row, find?_deleteProfiles stored, Or.inl rfl⟩
      | _ =>
          have same := congrArg Db.offlineGrants touched
          exact unchanged same
  | _ =>
      have same := congrArg Db.offlineGrants (exec_touches done)
      exact unchanged same

theorem exec_voided {held : String} (done : exec env o x w = some (a, w'))
    (fresh : ¬ o.regrants held) (voided : Voided held w) : Voided held w' := by
  intro row stored
  obtain ⟨old, before, rfl | ⟨now, rfl⟩⟩ := exec_offlineGrant done fresh stored
  · exact voided row before
  · simp [OfflineGrant.revoke]

theorem exec_forExchange {held service : String} {w w' : World} {row : OfflineGrant}
    (done : exec env (.delegations (.forExchange held service)) x w = some (.ok (some row), w')) :
    w.db.offlineGrants.find? held = some row ∧ row.service = service := by
  have answer := congrArg Prod.fst (Option.some.inj done)
  have found : w.db.offlineGrants.rows.find? (fun row => row.grantId = held && row.service = service)
      = some row := Except.ok.inj answer
  have stored := List.mem_of_find?_eq_some found
  have matched := List.find?_some found
  simp only [Bool.and_eq_true, decide_eq_true_eq] at matched
  exact ⟨Table.find?_eq_some.mpr ⟨stored, matched.1⟩, matched.2⟩

end OneStep

/-! ## Steps that end an authority -/

/-- A committed step that ends what the account, or the grant under this handle,
may be used for. -/
inductive Curbs (accountId : String) (grantId : Option String) :
    Event (machine env) → Prop where
  | grantRevoked {i : Nat} {s s' : World} {held owner profile : String} {now : Instant}
      (presented : grantId = some held) :
      Curbs accountId grantId ⟨i, .delegations (.revoke owner profile held now), .ok true, s, s'⟩
  | profileDeleted {i : Nat} {s s' : World} {held : String} {row : OfflineGrant}
      (presented : grantId = some held) (stored : s.db.offlineGrants.find? held = some row) :
      Curbs accountId grantId ⟨i, .profiles (.delete row.accountId row.profile), .ok true, s, s'⟩
  | disabled {i : Nat} {s s' : World} {copy : Account} (same : copy.accountId = accountId)
      (status : copy.status = .disabled) :
      Curbs accountId grantId ⟨i, .accounts (.save copy), .ok (), s, s'⟩
  | deleted {i : Nat} {s s' : World} {gone : Bool} :
      Curbs accountId grantId ⟨i, .accounts (.delete accountId), .ok gone, s, s'⟩

/-- A step that may give the account, or the grant under this handle, back. -/
def Op.restores (accountId : String) (grantId : Option String) (o : Op) : Prop :=
  o.reinstates accountId ∨ ∃ held, grantId = some held ∧ o.regrants held

section Ends

variable {x : Input} {s s' : World}

theorem revoke_voids {held owner profile : String} {now : Instant}
    (done : exec env (.delegations (.revoke owner profile held now)) x s = some (.ok true, s')) :
    Voided held s' := by
  intro row stored
  rcases onDb_cases done with ⟨v, same, committed⟩ | ⟨⟨e, impossible⟩, -⟩
  · have outcome := Prod.mk.inj (Except.ok.inj committed)
    have hit : 0 < s.db.offlineGrants.countWhere fun row : OfflineGrant =>
        row.accountId = owner && row.profile = profile && row.grantId = held := by
      have counted := outcome.1.trans (Except.ok.inj same).symm
      exact of_decide_eq_true counted
    obtain ⟨revoked, before, matched⟩ := List.countP_pos_iff.mp hit
    rw [← outcome.2] at stored
    change (s.db.offlineGrants.updateWhere _ (·.revoke now)
      (·.revoke_grantId now)).find? held = some row at stored
    rw [Table.find?_updateWhere, Option.map_eq_some_iff] at stored
    obtain ⟨old, found, rfl⟩ := stored
    have same : old = revoked := by
      have keyed : revoked.grantId = held := by simp_all
      rw [← keyed, Table.find?_self before] at found
      exact (Option.some.inj found).symm
    rw [same, if_pos matched]
    simp [OfflineGrant.revoke]
  · cases impossible

theorem profileDelete_voids {held : String} {row : OfflineGrant}
    (stored : s.db.offlineGrants.find? held = some row)
    (done : exec env (.profiles (.delete row.accountId row.profile)) x s = some (.ok true, s')) :
    Voided held s' := by
  intro left found
  rcases onDb_cases done with ⟨v, same, committed⟩ | ⟨⟨e, impossible⟩, -⟩
  · obtain ⟨answer, after⟩ := ProfileOp.delete_ok committed
    have present : (s.db.profiles.find? (row.accountId, row.profile)).isSome := by
      rw [← answer]
      exact (Except.ok.inj same).symm
    obtain ⟨profile, existing⟩ := Option.isSome_iff_exists.mp present
    obtain ⟨member, keyed⟩ := Table.find?_eq_some.mp existing
    rw [after] at found
    change (s.db.offlineGrants.deleteWhere _).find? held = some left at found
    rw [Table.find?_deleteWhere, stored, Option.filter_eq_some_iff] at found
    obtain ⟨same, kept⟩ := found
    cases same
    exfalso
    simp only [Bool.not_eq_true', List.contains_eq_mem, decide_eq_false_iff_not] at kept
    refine kept (List.mem_map.mpr ⟨profile, List.mem_filter.mpr ⟨member, ?_⟩, keyed⟩)
    injection keyed with owner name
    simp [owner, name]
  · cases impossible

theorem disable_bars {copy : Account} (status : copy.status = .disabled)
    (done : exec env (.accounts (.save copy)) x s = some (.ok (), s')) :
    Barred copy.accountId s' := by
  intro row stored
  cases exec_written done trivial copy.accountId with
  | saved copy' saved _ row' _ =>
      cases saved
      rw [row', Option.map_eq_some_iff] at stored
      obtain ⟨old, -, rfl⟩ := stored
      change copy.status ≠ .active
      simp [status]
  | assigned names now unsaved _ _ _ => cases unsaved
  | kept unsaved _ _ _ => exact absurd rfl (unsaved copy rfl)

theorem accountDelete_bars {accountId : String} {gone : Bool}
    (done : exec env (.accounts (.delete accountId)) x s = some (.ok gone, s')) :
    Barred accountId s' := by
  intro row stored
  rcases onDb_cases done with ⟨v, same, committed⟩ | ⟨⟨e, impossible⟩, -⟩
  · rcases AccountOp.delete_ok committed with ⟨-, absent, after⟩ | ⟨-, -, -, after⟩
    · rw [after, absent] at stored
      cases stored
    · rw [after] at stored
      change (s.db.accounts.deleteWhere _).find? accountId = some row at stored
      rw [Table.find?_deleteWhere, Option.filter_eq_some_iff] at stored
      obtain ⟨found, kept⟩ := stored
      obtain ⟨-, keyed⟩ := Table.find?_eq_some.mp found
      simp [keyed] at kept
  · cases impossible

end Ends

theorem Curbs.ended {accountId : String} {grantId : Option String} {e : Event (machine env)}
    {x : Input} (curbs : Curbs accountId grantId e)
    (done : exec env e.op x e.before = some (e.ans, e.after)) :
    Barred accountId e.after ∨ ∃ held, grantId = some held ∧ Voided held e.after := by
  cases curbs with
  | grantRevoked presented => exact Or.inr ⟨_, presented, revoke_voids done⟩
  | profileDeleted presented stored => exact Or.inr ⟨_, presented, profileDelete_voids stored done⟩
  | disabled same status =>
      subst same
      exact Or.inl (disable_bars status done)
  | deleted => exact Or.inl (accountDelete_bars done)

/-! ## What a minted token rests on -/

/-- The token, or the grant, that the exchange `i` has read, valid for the service
and for the account. -/
inductive Presented (tr : List (Event (machine env))) (i : Nat) (service audience : String)
    (userToken grantId : Option String) (accountId : String) : Prop where
  | token (token : String) (claims : TokenClaims) (now : Instant) (s s' : World)
      (sent : userToken = some token) (unsent : grantId = none)
      (decoded : env.jwt.decode token = some claims) (issuer : claims.iss = env.settings.issuer)
      (aud : claims.aud = service) (subject : claims.sub = accountId)
      (read : ⟨i, .now, now, s, s'⟩ ∈ tr) (unexpired : now < seconds claims.exp)
  | grant (held : String) (row : OfflineGrant) (now : Instant) (s s' t t' : World)
      (sent : grantId = some held) (unsent : userToken = none)
      (read : ⟨i, .delegations (.forExchange held service), .ok (some row), s, s'⟩ ∈ tr)
      (stored : s.db.offlineGrants.find? held = some row) (holder : row.service = service)
      (listed : audience ∈ row.audiences) (subject : row.accountId = accountId)
      (unrevoked : row.revokedAt = none) (shown : ⟨i, .now, now, t, t'⟩ ∈ tr)
      (later : now < row.expiresAt)
      (unexpired : (∀ e ∈ tr, e.before.clock ≤ e.after.clock) → s.clock < row.expiresAt)

/-- What is known of the exchange `i` that has minted a token for the account. -/
structure Authorised (tr : List (Event (machine env))) (i : Nat) (service audience : String)
    (userToken grantId : Option String) (accountId : String) (minted : ExchangedToken) : Prop where
  token : ∃ iat exp, minted.token =
    env.jwt.encode ⟨env.settings.issuer, accountId, audience, iat, exp⟩
  allowlist : ∃ allowed, env.settings.exchangeAudiences.lookup service = some allowed ∧
    audience ∈ allowed
  authority : Presented tr i service audience userToken grantId accountId
  active : ∃ account s s', ⟨i, .accounts (.get accountId), .ok (some account), s, s'⟩ ∈ tr ∧
    account.status = .active ∧ s.db.accounts.find? accountId = some account.toAccountRow

/-- Whom the exchange `i` is made for: the subject of the token that it presents,
the account of the grant that it finds. -/
structure Names (tr : List (Event (machine env))) (i : Nat) (userToken : Option String)
    (accountId : String) : Prop where
  token : ∀ token claims, userToken = some token → env.jwt.decode token = some claims →
    claims.sub = accountId
  grant : ∀ held service row s s',
    ⟨i, .delegations (.forExchange held service), .ok (some row), s, s'⟩ ∈ tr →
      row.accountId = accountId

section Runs

variable {w : World} {calls : List Call} {d : Config (machine env) Error Answer}
  {tr : List (Event (machine env))} {i : Nat} {service audience : String} {ttlSeconds : Int}
  {userToken grantId : Option String}

theorem exchange_history (run : Run (start env w calls) tr d)
    (asked : calls[i]? = some (.exchange service audience ttlSeconds userToken grantId))
    {minted : ExchangedToken} (returned : d.pool[i]? = some (.done (.ok (.exchanged minted)))) :
    ∃ accountId deadline shown account i₁ s s' i₂ now t t' i₃ issued u u' rest,
      ofThread i tr = shown ++ ⟨i₁, .accounts (.get accountId), .ok (some account), s, s'⟩ ::
        ⟨i₂, .now, now, t, t'⟩ :: ⟨i₃, .now, issued, u, u'⟩ :: rest ∧
      ¬(userToken.isNone = grantId.isNone) ∧
      DelegationService.allow env service [audience] = .ok () ∧
      Shown env service audience userToken grantId accountId deadline shown ∧
      account.status = .active ∧
      MintedAt env audience accountId deadline ttlSeconds now issued minted := by
  obtain ⟨q, here, path⟩ := path_of_run run i _ asked
  rw [returned] at here
  cases here
  obtain ⟨p', inside, ended⟩ := returning_inv path
  obtain ⟨r, rfl, same⟩ := returning_done ended.symm
  cases r with
  | error e => cases same
  | ok minted' =>
      cases same
      obtain ⟨accountId, deadline, shown, account, i₁, s, s', i₂, now, t, t', i₃, issued, u, u',
        rest, history, -, one, allowed, authority, active, minting⟩ :=
          DelegationService.exchange_returned inside
      exact ⟨accountId, deadline, shown, account, i₁, s, s', i₂, now, t, t', i₃, issued, u, u',
        rest, history, one, allowed, authority, active, minting⟩

/-- While the clock never goes back, a grant that has not ended at a later reading
of the exchange had not ended when it was read. -/
theorem clock_le_reading (run : Run (start env w calls) tr d)
    (steady : ∀ e ∈ tr, e.before.clock ≤ e.after.clock) {held : String}
    {a : (Op.delegations (.forExchange held service)).Ans} {j k : Nat} {now : Instant}
    {s s' t t' : World} {mid : Event (machine env)} {rest : List (Event (machine env))}
    (own : ofThread i tr = ⟨j, .delegations (.forExchange held service), a, s, s'⟩ ::
      mid :: ⟨k, .now, now, t, t'⟩ :: rest) : s.clock ≤ now := by
  have first : (⟨j, .delegations (.forExchange held service), a, s, s'⟩ : Event (machine env)) ∈ tr :=
    (mem_ofThread.mp (by rw [own]; simp)).1
  have last : (⟨k, .now, now, t, t'⟩ : Event (machine env)) ∈ tr :=
    (mem_ofThread.mp (by rw [own]; simp)).1
  have between : s'.clock ≤ t.clock :=
    run.related_own (fun s t : World => s.clock ≤ t.clock) (fun _ => le_refl _)
      (fun first second => le_trans first second) steady
      (show ofThread i tr = [] ++ _ :: _ from own) ⟨k, .now, now, t, t'⟩ (by simp)
  obtain ⟨x, read⟩ := run.exec_eq _ last
  have read : exec env .now x t = some (now, t') := read
  have shown : t'.clock = now := by
    cases read
    rfl
  calc s.clock ≤ s'.clock := steady _ first
    _ ≤ t.clock := between
    _ ≤ t'.clock := steady _ last
    _ = now := shown

theorem exchange_authorised (run : Run (start env w calls) tr d)
    (asked : calls[i]? = some (.exchange service audience ttlSeconds userToken grantId))
    {minted : ExchangedToken} (returned : d.pool[i]? = some (.done (.ok (.exchanged minted)))) :
    ∃ accountId, Authorised tr i service audience userToken grantId accountId minted := by
  obtain ⟨accountId, deadline, shown, account, i₁, s, s', i₂, now, t, t', i₃, issued, u, u', rest,
    history, one, allowed, authority, active, minting⟩ := exchange_history run asked returned
  have inside : ∀ e ∈ ofThread i tr, e ∈ tr ∧ e.thread = i := fun e => mem_ofThread.mp
  have get := inside ⟨i₁, .accounts (.get accountId), .ok (some account), s, s'⟩ (by rw [history]; simp)
  have reading := inside ⟨i₂, .now, now, t, t'⟩ (by rw [history]; simp)
  have shows : ∀ e ∈ shown, e ∈ tr ∧ e.thread = i := fun e member =>
    inside e (by rw [history]; exact List.mem_append_left _ member)
  obtain ⟨get, rfl⟩ := get
  obtain ⟨reading, rfl⟩ := reading
  have later : now < deadline := by
    have positive := minting.positive
    rw [minting.lifetime] at positive
    have whole : 0 < wholeSeconds (deadline - now) := by omega
    exact Int.sub_pos.mp (pos_of_wholeSeconds_pos whole)
  refine ⟨accountId, ⟨_, _, minting.token⟩, DelegationService.allow_ok allowed (by simp), ?_, ?_⟩
  · cases authority with
    | @token token claims j now' r r' sent decoded issuer aud unexpired subject ends =>
        obtain ⟨read, rfl⟩ := shows _ (List.mem_singleton.mpr rfl)
        have unsent : grantId = none := by
          subst sent
          cases grantId with
          | none => rfl
          | some held => simp at one
        exact .token token claims now' r r' sent unsent decoded issuer aud subject.symm read unexpired
    | @grant held row j r r' unsent sent unrevoked listed subject ends =>
        obtain ⟨read, rfl⟩ := shows _ (List.mem_singleton.mpr rfl)
        obtain ⟨x, done⟩ := run.exec_eq _ read
        have done : exec env (.delegations (.forExchange held service)) x r =
          some (.ok (some row), r') := done
        obtain ⟨stored, holder⟩ := exec_forExchange done
        subst ends
        refine .grant held row now r r' t t' sent unsent read stored holder listed subject.symm
          unrevoked reading later fun steady => ?_
        exact lt_of_le_of_lt (clock_le_reading run steady history) later
  · refine ⟨account, s, s', get, active, ?_⟩
    obtain ⟨x, done⟩ := run.exec_eq _ get
    have answer := congrArg Prod.fst (Option.some.inj done)
    exact readAccount_row (Except.ok.inj answer)

/-- An exchange that begins after its authority has ended, and whose authority is
not given back, fails. -/
theorem exchange_refused (run : Run (start env w calls) tr d)
    (asked : calls[i]? = some (.exchange service audience ttlSeconds userToken grantId))
    {accountId : String} {early late : List (Event (machine env))} {curb : Event (machine env)}
    (split : tr = early ++ curb :: late) (begun : ∀ e ∈ early ++ [curb], e.thread ≠ i)
    (names : Names tr i userToken accountId) (curbs : Curbs accountId grantId curb)
    (kept : ∀ e ∈ late, ¬ e.op.restores accountId grantId) (minted : ExchangedToken) :
    d.pool[i]? ≠ some (.done (.ok (.exchanged minted))) := by
  intro returned
  obtain ⟨accountId', deadline, shown, account, i₁, s, s', i₂, now, t, t', i₃, issued, u, u', rest,
    history, one, -, authority, active, -⟩ := exchange_history run asked returned
  subst split
  have split : early ++ curb :: late = (early ++ [curb]) ++ late := by simp
  rw [split] at run history names
  -- all that the exchange does, it does after the curb
  have afterwards : ∀ e ∈ ofThread i (early ++ [curb] ++ late), e ∈ late := by
    intro e member
    obtain ⟨member, same⟩ := mem_ofThread.mp member
    rcases List.mem_append.mp member with before | after
    · exact absurd same (begun e before)
    · exact after
  have shows : ∀ e ∈ shown, e ∈ ofThread i (early ++ [curb] ++ late) := fun e member => by
    rw [history]
    exact List.mem_append_left _ member
  obtain ⟨m, first, second⟩ := run.split
  obtain ⟨x, done⟩ := first.exec_eq curb (by simp)
  have final := first.finalState_eq
  rw [finalState_snoc] at final
  rcases curbs.ended done with barred | ⟨held, presented, voided⟩
  · have subject : accountId' = accountId := by
      cases authority with
      | token sent decoded issuer aud unexpired subject ends =>
          rw [subject]
          exact names.token _ _ sent decoded
      | grant unsent sent unrevoked listed subject ends =>
          rw [subject]
          obtain ⟨read, rfl⟩ := mem_ofThread.mp (shows _ (List.mem_singleton.mpr rfl))
          exact names.grant _ _ _ _ _ read
    subst subject
    rw [final] at barred
    have get := afterwards ⟨i₁, .accounts (.get accountId'), .ok (some account), s, s'⟩
      (by rw [history]; simp)
    have still := second.preserves_before (Barred accountId') (fun e member => by
      obtain ⟨x, done⟩ := second.exec_eq e member
      exact exec_barred done fun again => kept e member (Or.inl again)) barred _ get
    obtain ⟨x, done⟩ := second.exec_eq _ get
    have answer := congrArg Prod.fst (Option.some.inj done)
    exact still _ (readAccount_row (Except.ok.inj answer)) active
  · rw [final] at voided
    subst presented
    cases authority with
    | token sent decoded issuer aud unexpired subject ends =>
        subst sent
        exact one rfl
    | @grant _ row j r r' unsent sent unrevoked listed subject ends =>
        cases sent
        have read := afterwards _ (shows _ (List.mem_singleton.mpr rfl))
        have still := second.preserves_before (Voided held) (fun e member => by
          obtain ⟨x, done⟩ := second.exec_eq e member
          exact exec_voided done fun again => kept e member (Or.inr ⟨held, rfl, again⟩)) voided _ read
        obtain ⟨x, done⟩ := second.exec_eq _ read
        have done : exec env (.delegations (.forExchange held service)) x r =
          some (.ok (some row), r') := done
        exact still _ (exec_forExchange done).1 unrevoked

end Runs

/-! ## Requests that only curb -/

/-- An exchange, or a request that ends a grant, a profile or an account. -/
def Call.curbing : Call → Prop
  | .exchange _ _ _ _ _ => True
  | .delegation (.revoke _ _ _) | .internal _ _ (.revokeGrant _ _) => True
  | .credential (.deleteProfile _ _) | .change (.removeProfile _ _ _) => True
  | .account (.deleteAccount _) => True
  | .account (.setStatus _ status) => status = .disabled
  | .admin _ (.deleteProfile _ _) | .admin _ (.deleteAccount _) => True
  | .admin _ (.setStatus _ status) => status = .disabled
  | _ => False

theorem Op.restores_cases {accountId : String} {grantId : Option String} {o : Op}
    (restores : o.restores accountId grantId) :
    (∃ account, o = .accounts (.add account)) ∨
      (∃ copy, o = .accounts (.save copy) ∧ copy.status = .active) ∨
      ∃ grant cap now, o = .delegations (.add grant cap now) := by
  rcases restores with again | ⟨held, -, again⟩
  · unfold Op.reinstates at again
    split at again
    · exact Or.inl ⟨_, rfl⟩
    · exact Or.inr (Or.inl ⟨_, rfl, again.2⟩)
    · exact again.elim
  · unfold Op.regrants at again
    split at again
    · exact Or.inr (Or.inr ⟨_, _, _, rfl⟩)
    · exact again.elim

theorem Call.curbing.adds_none {c : Call} (kind : c.curbing) :
    (∀ account, ¬ c.writes (.accounts (.add account))) ∧
      ∀ grant cap now, ¬ c.writes (.delegations (.add grant cap now)) := by
  refine ⟨fun account writes => ?_, fun grant cap now writes => ?_⟩
  all_goals
    cases c with
    | account c => cases c <;> first | exact kind | exact writes
    | admin actor c => cases c <;> first | exact kind | exact writes
    | credential c => cases c <;> first | exact kind | exact writes
    | change c => cases c <;> first | exact kind | exact writes.elim id id
    | delegation c => cases c <;> first | exact kind | exact writes
    | exchange service audience ttlSeconds userToken grantId => exact writes
    | internal service userToken c => cases c <;> first | exact kind | exact writes

theorem Call.curbing.restores {c : Call} (kind : c.curbing) {accountId : String}
    {grantId : Option String} {o : Op} (restores : o.restores accountId grantId)
    (writes : c.writes o) :
    ∃ owner name requester, c = .change (.removeProfile owner name requester) ∧
      requester.password ≠ none ∧ ∃ copy, o = .accounts (.save copy) := by
  obtain ⟨account, rfl⟩ | ⟨copy, rfl, active⟩ | ⟨grant, cap, now, rfl⟩ := Op.restores_cases restores
  · exact absurd writes (kind.adds_none.1 account)
  · cases c with
    | account c =>
        cases c with
        | setStatus target status => cases kind.symm.trans (writes.symm.trans active)
        | _ => first | exact kind.elim | exact writes.elim
    | admin actor c =>
        cases c with
        | setStatus target status => cases kind.symm.trans (writes.symm.trans active)
        | _ => first | exact kind.elim | exact writes.elim
    | credential c => cases c <;> first | exact kind.elim | exact writes.elim
    | change c =>
        cases c with
        | removeProfile owner name requester =>
            exact ⟨owner, name, requester, rfl, writes.elim id False.elim, copy, rfl⟩
        | _ => exact kind.elim
    | delegation c => cases c <;> first | exact kind.elim | exact writes.elim
    | exchange service audience ttlSeconds userToken grantId => exact writes.elim
    | internal service userToken c => cases c <;> first | exact kind.elim | exact writes.elim
  · exact absurd writes (kind.adds_none.2 grant cap now)

/-! ## The authority of an exchanged token -/

section Runs

variable {w : World} {calls : List Call} {d : Config (machine env) Error Answer}
  {tr : List (Event (machine env))} {i : Nat} {service audience : String} {ttlSeconds : Int}
  {userToken grantId : Option String}

/-- What an exchange mints is authorised.  An exchange that begins after its
authority has ended fails unless a later step gives the authority back; among
the requests that only curb, a password sent with the removal of a profile can. -/
theorem exchange_authority (run : Run (start env w calls) tr d)
    (asked : calls[i]? = some (.exchange service audience ttlSeconds userToken grantId)) :
    (∀ minted, d.pool[i]? = some (.done (.ok (.exchanged minted))) →
      ∃ accountId, Authorised tr i service audience userToken grantId accountId minted) ∧
    (∀ accountId early curb late, tr = early ++ curb :: late →
      (∀ e ∈ early ++ [curb], e.thread ≠ i) → Names tr i userToken accountId →
      Curbs accountId grantId curb → (∀ e ∈ late, ¬ e.op.restores accountId grantId) →
      ∀ r, d.pool[i]? = some (.done r) → ∃ error, r = .error error) ∧
    ((∀ c ∈ calls, c.curbing) → ∀ accountId, ∀ e ∈ tr, e.op.restores accountId grantId →
      ∃ owner name requester,
        calls[e.thread]? = some (.change (.removeProfile owner name requester)) ∧
          requester.password ≠ none ∧ ∃ copy, e.op = .accounts (.save copy)) := by
  refine ⟨fun minted => exchange_authorised run asked, ?_, ?_⟩
  · intro accountId early curb late split begun names curbs kept r ended
    cases r with
    | error error => exact ⟨error, rfl⟩
    | ok answer =>
        obtain ⟨q, here, path⟩ := path_of_run run i _ asked
        rw [ended] at here
        cases here
        obtain ⟨p', -, shape⟩ := returning_inv path
        obtain ⟨r', -, same⟩ := returning_done shape.symm
        cases r' with
        | error e => cases same
        | ok minted =>
            cases same
            exact absurd ended (exchange_refused run asked split begun names curbs kept minted)
  · intro curbing accountId e member restores
    obtain ⟨c, found, idle | writes⟩ := writes_of_run run member
    · obtain ⟨account, same⟩ | ⟨copy, same, -⟩ | ⟨grant, cap, now, same⟩ :=
        Op.restores_cases restores
      all_goals
        rw [same] at idle
        exact idle.elim
    · obtain ⟨owner, name, requester, rfl, sent, saved⟩ :=
        (curbing c (List.mem_of_getElem? found)).restores restores writes
      exact ⟨owner, name, requester, found, sent, saved⟩

end Runs

/-! ## A guess that outlives the disabling -/

/-- The account that a committed step has disabled. -/
def disables? (e : Event (machine env)) : Option String :=
  match e with
  | ⟨_, .accounts (.save copy), .ok (), _, _⟩ =>
      if copy.status = .disabled then some copy.accountId else none
  | _ => none

theorem curbs_of_disables {e : Event (machine env)} {accountId : String} {grantId : Option String}
    (found : disables? e = some accountId) : Curbs accountId grantId e := by
  unfold disables? at found
  split at found
  · split at found
    · rename_i status
      cases found
      exact .disabled rfl status
    · cases found
  · cases found

/-- The parts of a history around the step that has been found to disable. -/
theorem split_of_disables {tr : List (Event (machine env))} {k : Nat} {accountId : String}
    (grantId : Option String) (found : tr[k]?.bind disables? = some accountId) :
    ∃ curb, tr = tr.take k ++ curb :: tr.drop (k + 1) ∧ tr.take k ++ [curb] = tr.take (k + 1) ∧
      Curbs accountId grantId curb := by
  obtain ⟨curb, here, disables⟩ := Option.bind_eq_some_iff.mp found
  obtain ⟨inside, same⟩ := List.getElem?_eq_some_iff.mp here
  refine ⟨curb, ?_, ?_, curbs_of_disables disables⟩
  · rw [← same, ← List.drop_eq_getElem_cons inside, List.take_append_drop]
  · rw [List.take_add_one, here]
    rfl

namespace Scenario

def bobExchange : Call :=
  .exchange "lucy-api" "user.home" 60 (some (bobToken "lucy-api" 0 100)) none

/-- Bob is disabled and a service exchanges his token. -/
def disabledFirst : List Call := [.account (.setStatus "bob" .disabled), bobExchange]

def disabledFirstRun : Config (machine deployment) Error Answer × List (Event (machine deployment)) :=
  (start deployment office disabledFirst).play
    (List.replicate 3 (0, given 5000000 "a") ++ List.replicate 7 (1, given 6000000 "b"))

/-- Someone guesses a password to remove Bob's profile, Bob is disabled, and a
service exchanges his token. -/
def guessed : List Call :=
  [.change (.removeProfile "bob" "home" ⟨.person, some "guess"⟩),
    .account (.setStatus "bob" .disabled), bobExchange]

/-- The guess reads Bob's account before he is disabled and counts a failure after. -/
def guessedRun : Config (machine deployment) Error Answer × List (Event (machine deployment)) :=
  (start deployment connectedOffice guessed).play
    (List.replicate 4 (0, given 5000000 "a") ++ List.replicate 3 (1, given 6000000 "b") ++
      [(0, given 7000000 "c")] ++ List.replicate 7 (2, given 8000000 "d"))

def succeeded {env : Env} : Option (Service env Answer) → Bool
  | some (.done (.ok .unit)) => true
  | _ => false

theorem succeeded_some {env : Env} {found : Option (Service env Answer)}
    (ended : succeeded found = true) : found = some (.done (.ok .unit)) := by
  unfold succeeded at ended
  split at ended
  · rfl
  · cases ended

def onGrants : Op → Bool
  | .delegations _ => true
  | _ => false

theorem bobToken_names {tr : List (Event (machine deployment))} {i : Nat}
    (foreground : tr.all fun e => !onGrants e.op) :
    Names tr i (some (bobToken "lucy-api" 0 100)) "bob" where
  token token claims sent decoded := by
    cases sent
    rw [bobToken_decoded] at decoded
    cases decoded
    rfl
  grant held service row s s' member := by
    have quiet := List.all_eq_true.mp foreground _ member
    cases quiet

end Scenario

open Scenario in
/-- The exchange that comes after Bob was disabled fails. -/
theorem exchange_authority_disabled :
    Run (start deployment office disabledFirst) disabledFirstRun.2 disabledFirstRun.1 ∧
      ∀ r, disabledFirstRun.1.pool[1]? = some (.done r) → ∃ error, r = .error error := by
  have run : Run (start deployment office disabledFirst) disabledFirstRun.2 disabledFirstRun.1 :=
    Config.play_run _ _
  have authority := exchange_authority run (show disabledFirst[1]? = some bobExchange from rfl)
  obtain ⟨curb, split, begun, curbs⟩ := split_of_disables none
    (show disabledFirstRun.2[2]?.bind disables? = some "bob" by decide +kernel)
  refine ⟨run, authority.2.1 "bob" _ curb _ split ?_ (bobToken_names (by decide +kernel)) curbs ?_⟩
  · rw [begun]
    decide +kernel
  · intro e member restores
    have curbing : ∀ c ∈ disabledFirst, c.curbing := by
      simp [disabledFirst, Call.curbing, bobExchange]
    obtain ⟨owner, name, requester, found, -⟩ :=
      authority.2.2 curbing "bob" e (List.mem_of_mem_drop member) restores
    have member := List.mem_of_getElem? found
    simp [disabledFirst, bobExchange] at member

open Scenario in
/-- Bob was disabled, nobody enabled him, and the exchange that began after it
has minted a token. -/
theorem exchange_after_disabling :
    Run (start deployment connectedOffice guessed) guessedRun.2 guessedRun.1 ∧
      (∀ c ∈ guessed, c.curbing) ∧ guessed[2]? = some bobExchange ∧
      guessedRun.1.pool[1]? = some (.done (.ok .unit)) ∧
      ∃ early curb late, guessedRun.2 = early ++ curb :: late ∧
        (∀ e ∈ early ++ [curb], e.thread ≠ 2) ∧ (∀ e ∈ late, e.thread ≠ 1) ∧
        Names guessedRun.2 2 (some (bobToken "lucy-api" 0 100)) "bob" ∧ Curbs "bob" none curb ∧
        ∃ minted, guessedRun.1.pool[2]? = some (.done (.ok (.exchanged minted))) := by
  obtain ⟨curb, split, begun, curbs⟩ := split_of_disables none
    (show guessedRun.2[6]?.bind disables? = some "bob" by decide +kernel)
  refine ⟨Config.play_run _ _, by simp [guessed, Call.curbing, bobExchange], rfl,
    succeeded_some (by decide +kernel), _, curb, _, split, ?_, by decide +kernel, bobToken_names (by decide +kernel), curbs, ⟨bobToken "user.home" 8 68, 60, seconds 68⟩,
    exchanged?_eq_some (by decide +kernel)⟩
  rw [begun]
  decide +kernel

end Keyring

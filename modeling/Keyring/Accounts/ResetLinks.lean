import Keyring.Accounts.GrantTokens

/-!
# Reset links

A request for a reset revokes the account's links and then mints one, in two
transactions.  One link is live in every state exactly when no mint finds
another; a mint that does was overtaken between its own two steps.  What a
password change has revoked stays revoked.
-/

set_option autoImplicit false

namespace Keyring

open Interleave Relational

variable {env : Env}

/-! ## Live links -/

/-- A reset grant of the account that is neither redeemed nor revoked. -/
structure Grant.LinksTo (grant : Grant) (accountId : String) : Prop where
  purpose : grant.purpose = .passwordReset
  owner : grant.accountId = some accountId
  unspent : ¬ grant.spent

/-- At no instant are two reset grants of one account redeemable. -/
def OneLink (w : World) : Prop :=
  ∀ accountId now, ∀ row ∈ w.db.grants, ∀ row' ∈ w.db.grants,
    row.purpose = .passwordReset → row'.purpose = .passwordReset →
      row.accountId = some accountId → row'.accountId = some accountId →
        row.isRedeemable now → row'.isRedeemable now → row = row'

theorem not_spent_iff {grant : Grant} :
    ¬ grant.spent ↔ grant.redeemedAt = none ∧ grant.revoked = false := by
  simp [Grant.spent]

theorem isRedeemable_iff {grant : Grant} {now : Instant} :
    grant.isRedeemable now = true ↔ ¬ grant.spent ∧ now < grant.expiresAt := by
  simp [Grant.isRedeemable, not_spent_iff]

/-- Two unspent grants are both redeemable at some instant. -/
theorem oneLink_iff {w : World} : OneLink w ↔
    ∀ accountId, ∀ row ∈ w.db.grants, ∀ row' ∈ w.db.grants, row.LinksTo accountId →
      row'.LinksTo accountId → row = row' := by
  constructor
  · intro one accountId row stored row' stored' links links'
    obtain ⟨now, before, before'⟩ : ∃ now : Instant, now < row.expiresAt ∧ now < row'.expiresAt := by
      have earlier : ∀ a b : Int, ∃ now : Int, now < a ∧ now < b :=
        fun a b => ⟨min a b - 1, by omega, by omega⟩
      exact earlier _ _
    exact one accountId now row stored row' stored' links.purpose links'.purpose links.owner
      links'.owner (isRedeemable_iff.mpr ⟨links.unspent, before⟩)
      (isRedeemable_iff.mpr ⟨links'.unspent, before'⟩)
  · intro unspent accountId now row stored row' stored' reset reset' owner owner' live live'
    exact unspent accountId row stored row' stored'
      ⟨reset, owner, (isRedeemable_iff.mp live).1⟩ ⟨reset', owner', (isRedeemable_iff.mp live').1⟩

/-- A committed step that mints this grant. -/
def Minted (grant : Grant) : Event (machine env) → Prop
  | ⟨_, .grants (.add added), .ok (), _, _⟩ => added = grant
  | _ => False

/-- The step mints a reset grant while the account has a live one. -/
def FindsLink (e : Event (machine env)) : Prop :=
  ∃ grant accountId, Minted grant e ∧ grant.LinksTo accountId ∧
    ∃ row ∈ e.before.db.grants, row.LinksTo accountId

section OneStep

variable {e : Event (machine env)} {x : Input} {accountId : String}

theorem minted_iff {grant : Grant} :
    Minted grant e ↔ ∃ i s s', e = ⟨i, .grants (.add grant), .ok (), s, s'⟩ := by
  constructor
  · intro minted
    unfold Minted at minted
    split at minted
    · exact ⟨_, _, _, by rw [minted]⟩
    · exact minted.elim
  · rintro ⟨i, s, s', rfl⟩
    exact rfl

/-- A live link was live before the step, or the step has minted it. -/
theorem exec_linksTo (done : exec env e.op x e.before = some (e.ans, e.after)) {row : Grant}
    (stored : row ∈ e.after.db.grants) (links : row.LinksTo accountId) :
    row ∈ e.before.db.grants ∨ Minted row e := by
  by_cases fresh : e.op.mints row.grantId
  · obtain ⟨i, o, a, s, s'⟩ := e
    cases o with
    | grants o =>
        cases o with
        | add grant =>
            rcases onDb_cases done with ⟨v, same, committed⟩ | ⟨-, same⟩
            · obtain ⟨-, table, inserted, after⟩ := GrantOp.add_ok committed
              have stored : row ∈ s'.db.grants := stored
              rw [after] at stored
              rcases (Table.mem_insert? inserted).mp stored with old | rfl
              · exact Or.inl old
              · exact Or.inr (minted_iff.mpr ⟨i, s, s', by rw [show a = .ok () from same]⟩)
            · have stored : row ∈ s'.db.grants := stored
              rw [same] at stored
              exact Or.inl stored
        | _ => exact fresh.elim
    | _ => exact fresh.elim
  · obtain ⟨old, before, rfl | ⟨now, rfl⟩ | rfl⟩ := exec_grant done fresh (Table.find?_self stored)
    · exact Or.inl (Table.find?_eq_some.mp before).1
    · exact absurd (Or.inl (by simp [Grant.redeemed])) links.unspent
    · exact absurd (Or.inr rfl) links.unspent

theorem exec_kept (done : exec env e.op x e.before = some (e.ans, e.after)) {grant row : Grant}
    (minted : Minted grant e) (stored : row ∈ e.before.db.grants) :
    row ∈ e.after.db.grants ∧ grant ∈ e.after.db.grants ∧ row ≠ grant := by
  obtain ⟨i, s, s', rfl⟩ := minted_iff.mp minted
  rcases onDb_cases done with ⟨v, same, committed⟩ | ⟨⟨e, impossible⟩, -⟩
  · obtain ⟨-, table, inserted, after⟩ := GrantOp.add_ok committed
    change row ∈ s'.db.grants ∧ grant ∈ s'.db.grants ∧ _
    rw [after]
    refine ⟨(Table.mem_insert? inserted).mpr (Or.inl stored),
      (Table.mem_insert? inserted).mpr (Or.inr rfl), ?_⟩
    rintro rfl
    have absent := Table.find?_of_insert? inserted
    rw [Table.find?_self stored] at absent
    cases absent
  · cases impossible

/-- A step keeps the links single exactly when it is no mint that finds one. -/
theorem exec_oneLink (done : exec env e.op x e.before = some (e.ans, e.after))
    (one : OneLink e.before) : OneLink e.after ↔ ¬ FindsLink e := by
  rw [oneLink_iff] at one ⊢
  constructor
  · rintro after ⟨grant, accountId, minted, links, row, stored, links'⟩
    obtain ⟨kept, added, distinct⟩ := exec_kept done minted stored
    exact distinct (after accountId row kept grant added links' links)
  · intro alone accountId row stored row' stored' links links'
    rcases exec_linksTo done stored links with old | minted <;>
      rcases exec_linksTo done stored' links' with old' | minted'
    · exact one accountId row old row' old' links links'
    · exact absurd ⟨row', accountId, minted', links', row, old, links⟩ alone
    · exact absurd ⟨row, accountId, minted, links, row', old', links'⟩ alone
    · obtain ⟨i, s, s', rfl⟩ := minted_iff.mp minted
      exact minted'

end OneStep

theorem minted_since {c d : Config (machine env) Error Answer} {tr : List (Event (machine env))}
    (run : Run c tr d) {accountId : String}
    (none : ∀ row ∈ c.state.db.grants, ¬ row.LinksTo accountId) :
    ∀ row ∈ d.state.db.grants, row.LinksTo accountId → ∃ m ∈ tr, Minted row m := by
  induction run with
  | refl => exact fun row stored links => absurd links (none row stored)
  | @snoc tr m _ e init last ih =>
      intro row stored links
      obtain ⟨x, done⟩ := last.exec_eq
      rw [← last.after_eq] at stored
      rcases exec_linksTo done stored links with old | minted
      · rw [last.before_eq] at old
        obtain ⟨m, earlier, minted⟩ := ih row old links
        exact ⟨m, List.mem_append_left _ earlier, minted⟩
      · exact ⟨e, by simp, minted⟩

theorem exec_revokeLinks {accountId : String} {x : Input} {s s' : World}
    {a : (Op.grants (.revokeAllForAccount accountId .passwordReset)).Ans}
    (done : exec env (.grants (.revokeAllForAccount accountId .passwordReset)) x s = some (a, s')) :
    ∀ row ∈ s'.db.grants, ¬ row.LinksTo accountId := by
  intro row stored links
  have after := congrArg (fun r => r.2.db.grants) (Option.some.inj done)
  change s.db.grants.updateWhere _ (·.revokedNow) (·.revokedNow_grantId) = s'.db.grants at after
  rw [← after] at stored
  obtain ⟨old, before, rfl⟩ := (Table.mem_updateWhere (·.revokedNow_grantId)).mp stored
  split at links
  · exact links.unspent (Or.inr rfl)
  · rename_i kept
    obtain ⟨purpose, owner, unspent⟩ := links
    simp [purpose, owner, (not_spent_iff.mp unspent).2] at kept

/-! ## A request for a reset -/

/-- The account whose links a caller has revoked, until it mints. -/
def lastRevoked : Memory (machine env) (Option String) where
  note seen o _ :=
    match o with
    | .grants (.revokeAllForAccount accountId .passwordReset) => some accountId
    | .grants (.add _) => none
    | _ => seen
  agrees seen o :=
    match o with
    | .grants (.add grant) => grant.purpose = .passwordReset → grant.accountId = none ∨ grant.accountId = seen
    | _ => True

/-- A step that mints no reset grant. -/
def Op.mintsNoLink : Op → Prop
  | .grants (.add grant) => grant.purpose ≠ .passwordReset
  | _ => True

theorem Op.idle.mintsNoLink {o : Op} (idle : o.idle) : o.mintsNoLink := by
  cases o with
  | grants o => cases o <;> trivial
  | _ => trivial

theorem minds_of_mintsNoLink {α : Type} {p : Service env α} (uses : p.Uses Op.mintsNoLink)
    (seen : Option String) : p.Minds lastRevoked seen := by
  refine Prog.Minds.of_uses uses (fun o other seen => ?_) seen
  cases o with
  | grants o =>
      cases o with
      | add grant => exact fun reset => absurd reset other
      | _ => trivial
  | _ => trivial

theorem mintGrant_minds (accountId : String) (ttlSeconds : Int) :
    (AccountService.mintGrant env .passwordReset ttlSeconds (.account accountId)).Minds lastRevoked
      (some accountId) := by
  refine ask_bind_minds trivial fun now => ?_
  refine ask_bind_minds trivial fun token => ?_
  refine ask_bind_minds trivial fun hex => ?_
  refine Prog.Minds.ofExcept_bind fun expiresAt => ?_
  exact grantStore_bind_minds (fun _ => Or.inr rfl) fun _ => trivial

theorem requestPasswordReset_minds (email caller : String) (seen : Option String) :
    (AccountService.requestPasswordReset env email caller).Minds lastRevoked seen := by
  have quiet : ∀ o : Op, o.quiet → o.mintsNoLink := fun _ quiet => quiet.idle.mintsNoLink
  have limits : (checkLimit scopeReset caller env.settings.resetAttempts
      env.settings.resetWindowSeconds : Service env Unit).Uses Op.mintsNoLink :=
    checkLimit_uses (fun o limits => quiet o limits.quiet) _ _ _ _
  refine Prog.Minds.bind (minds_of_mintsNoLink limits seen) fun _ seen => ?_
  refine Prog.Minds.bind (minds_of_mintsNoLink (AccountService.findForLogin_writes (modest_of_quiet quiet) email) seen)
    fun found seen => ?_
  cases found with
  | none => trivial
  | some account =>
      refine Prog.Minds.bind (minds_of_mintsNoLink (AccountService.mayMail_writes (modest_of_quiet quiet) _) seen)
        fun allowed seen => ?_
      cases allowed with
      | false => trivial
      | true =>
          refine grantStore_bind_minds trivial fun _ => ?_
          exact Prog.Minds.bind (mintGrant_minds _ _) fun _ _ => trivial

theorem issueResetFor_minds (account : Account) (seen : Option String) :
    (AccountService.issueResetFor env account).Minds lastRevoked seen := by
  have quiet : ∀ o : Op, o.quiet → o.mintsNoLink := fun _ quiet => quiet.idle.mintsNoLink
  refine Prog.Minds.bind (minds_of_mintsNoLink (AccountService.mayMail_writes (modest_of_quiet quiet) _) seen)
    fun allowed seen => ?_
  refine Prog.Minds.bind (minds_of_mintsNoLink (refuseIf_uses _ _) seen) fun _ seen => ?_
  exact grantStore_bind_minds trivial fun _ => mintGrant_minds _ _

theorem issuePasswordReset_minds (actor : Actor) (accountId : String) (seen : Option String) :
    (AdminService.issuePasswordReset env actor accountId).Minds lastRevoked seen := by
  have quiet : ∀ o : Op, o.quiet → o.mintsNoLink := fun _ quiet => quiet.idle.mintsNoLink
  refine Prog.Minds.bind (minds_of_mintsNoLink (ofExcept_uses _) seen) fun _ seen => ?_
  refine Prog.Minds.bind
    (minds_of_mintsNoLink (AdminService.requireAccount_uses (modest_of_quiet quiet) accountId) seen) fun account seen => ?_
  refine Prog.Minds.bind
    (minds_of_mintsNoLink (AdminService.checkCanActOn_uses (modest_of_quiet quiet) actor account) seen) fun _ seen => ?_
  refine Prog.Minds.bind (issueResetFor_minds account seen) fun grant seen => ?_
  refine minds_of_mintsNoLink ?_ seen
  exact Prog.Uses.bind (AdminService.record_uses (modest_of_quiet quiet) (fun _ => trivial) _ _ _ _) fun _ => trivial

theorem Call.writes_link {c : Call} {grant : Grant} (reset : grant.purpose = .passwordReset)
    (writes : c.writes (.grants (.add grant))) :
    (∃ email caller, c = .account (.requestPasswordReset email caller)) ∨
      ∃ actor accountId, c = .admin actor (.issuePasswordReset accountId) := by
  cases c with
  | account c =>
      cases c with
      | requestPasswordReset email caller => exact Or.inl ⟨email, caller, rfl⟩
      | issueInvite email => cases reset.symm.trans writes
      | _ => exact writes.elim
  | admin actor c =>
      cases c with
      | issuePasswordReset accountId => exact Or.inr ⟨actor, accountId, rfl⟩
      | invite email => cases reset.symm.trans writes
      | _ => exact writes.elim
  | credential c => cases c <;> exact writes.elim
  | change c => cases c <;> first | exact writes.elim | exact (writes.elim id id).elim
  | delegation c => cases c <;> exact writes.elim
  | exchange service audience ttlSeconds userToken grantId => exact writes.elim
  | internal service userToken c => cases c <;> exact writes.elim

section Runs

variable {w : World} {calls : List Call} {d : Config (machine env) Error Answer}
  {tr : List (Event (machine env))}

/-- The mint `e` was overtaken: between the revocation of its own request and `e`,
another request has minted a link of the account that is still live. -/
def Overtaken (tr : List (Event (machine env))) (e : Event (machine env)) : Prop :=
  ∃ accountId early mid late s s',
    ∃ a : (Op.grants (.revokeAllForAccount accountId .passwordReset)).Ans,
    tr = early ++ ⟨e.thread, .grants (.revokeAllForAccount accountId .passwordReset), a, s, s'⟩ ::
      (mid ++ e :: late) ∧
    ∃ m ∈ mid, m.thread ≠ e.thread ∧ ∃ row ∈ e.before.db.grants, row.LinksTo accountId ∧ Minted row m

theorem links_minds {c : Call} {grant : Grant} (reset : grant.purpose = .passwordReset)
    (writes : c.writes (.grants (.add grant))) : (c.prog env).Minds lastRevoked none := by
  obtain ⟨email, caller, rfl⟩ | ⟨actor, accountId, rfl⟩ := Call.writes_link reset writes
  · exact Prog.Minds.bind (requestPasswordReset_minds email caller none) fun _ _ => trivial
  · exact Prog.Minds.bind (issuePasswordReset_minds actor accountId none) fun _ _ => trivial

theorem overtaken_of_finds (run : Run (start env w calls) tr d) {e : Event (machine env)}
    (member : e ∈ tr) (finds : FindsLink e) : Overtaken tr e := by
  obtain ⟨grant, accountId, minted, links, row, stored, links'⟩ := finds
  obtain ⟨i, s, s', rfl⟩ := minted_iff.mp minted
  obtain ⟨c, found, idle | writes⟩ := writes_of_run run member
  · exact idle.elim
  have here : (start env w calls).pool[i]? = some (c.prog env) := by
    have found : calls[i]? = some c := found
    simp [start, found]
  obtain ⟨early, late, own, agrees⟩ := run.minds member here (links_minds links.purpose writes)
  have seen : lastRevoked.after none early = some accountId := by
    rcases agrees links.purpose with unowned | same
    · rw [links.owner] at unowned
      cases unowned
    · rw [← same, links.owner]
  -- the last revocation of this request, after which it has minted nothing
  have noted : ∀ before (e' : Event (machine env)), e' ∈ early →
      lastRevoked.note before e'.op e'.ans = some accountId →
        (before = some accountId ∧ ∀ grant, ¬ Minted grant e') ∨ ∃ i a t t',
          e' = ⟨i, .grants (.revokeAllForAccount accountId .passwordReset), a, t, t'⟩ := by
    rintro before ⟨j, o, a, t, t'⟩ - noted
    cases o with
    | grants o =>
        cases o with
        | revokeAllForAccount target purpose =>
            cases purpose with
            | passwordReset =>
                cases Option.some.inj noted
                exact Or.inr ⟨j, a, t, t', rfl⟩
            | invite => exact Or.inl ⟨noted, fun _ => id⟩
        | add added => cases noted
        | _ => exact Or.inl ⟨noted, fun _ => id⟩
    | _ => exact Or.inl ⟨noted, fun _ => id⟩
  obtain ⟨impossible, -⟩ | ⟨first, _, second, rfl, ⟨j, a, t, t', rfl⟩, kept⟩ :=
    lastRevoked.last_of_after (P := (· = some accountId)) noted seen
  · cases impossible
  have split : ofThread i tr = first ++ ⟨j, .grants (.revokeAllForAccount accountId .passwordReset),
      a, t, t'⟩ :: (second ++ ⟨i, .grants (.add grant), .ok (), s, s'⟩ :: late) := by
    have own : ofThread i tr = _ := own
    rw [own]
    simp
  have same : j = i := by
    have member := mem_ofThread.mp (show (⟨j, .grants (.revokeAllForAccount accountId
      .passwordReset), a, t, t'⟩ : Event (machine env)) ∈ ofThread i tr by
        rw [split]
        simp)
    exact member.2
  subst same
  obtain ⟨before, mid, after, rfl, ownMid, -⟩ := ofThread_split split
  refine ⟨accountId, before, mid, after, t, t', a, rfl, ?_⟩
  obtain ⟨c₁, -, rest⟩ := run.split
  obtain ⟨c₂, revoked, rest⟩ := rest.cons_inv
  obtain ⟨x, done⟩ := revoked.exec_eq
  have done : exec env (.grants (.revokeAllForAccount accountId .passwordReset)) x t =
    some (a, t') := done
  have none := exec_revokeLinks done
  obtain ⟨c₃, between, here⟩ := rest.before_of_split
  have stored : row ∈ s.db.grants := stored
  have here : c₃.state = s := here
  rw [← here] at stored
  obtain ⟨m, inside, minted⟩ := minted_since between (by rwa [← revoked.after_eq]) row stored links'
  refine ⟨m, inside, fun mine => ?_, row, by rwa [here] at stored, links', minted⟩
  have mine : m ∈ ofThread j mid := mem_ofThread.mpr ⟨inside, mine⟩
  rw [ownMid] at mine
  exact kept m mine row minted

/-! ## A completed change -/

/-- The request, having returned this answer, has changed the account's password. -/
def Call.changedPassword : Call → Answer → Option String
  | .account (.changePassword accountId _ _ _), _ => some accountId
  | .account (.redeemPasswordReset _ _ _), .account changed => some changed.accountId
  | _, _ => none

theorem setPassword_returned {account : Account} {newPassword : String} {keep : Option String}
    {es : List (Event (machine env))} {u : Unit}
    (path : Path (AccountService.setPassword env account newPassword keep) es (.done (.ok u))) :
    ∃ early i a s s',
      es = early ++ [⟨i, .grants (.revokeAllForAccount account.accountId .passwordReset), a, s, s'⟩] := by
  obtain ⟨_, policy, rest, rfl, -, path₁⟩ := path.bind_returned
  obtain ⟨_, reading, rest₁, rfl, -, path₂⟩ := path₁.bind_returned
  obtain ⟨_, salting, rest₂, rfl, -, path₃⟩ := path₂.bind_returned
  obtain ⟨_, saving, rest₃, rfl, -, path₄⟩ := path₃.bind_returned
  obtain ⟨_, ending, rest₄, rfl, -, path₅⟩ := path₄.bind_returned
  obtain ⟨i, revoked, s, s', last, rfl, path₆⟩ := grantStore_bind_returned path₅
  obtain ⟨rfl, -⟩ := pure_returned path₆
  exact ⟨policy ++ reading ++ salting ++ saving ++ ending, i, .ok revoked, s, s', by simp⟩

theorem change_returned {c : Call} {answer : Answer} {accountId : String}
    {es : List (Event (machine env))} (changed : c.changedPassword answer = some accountId)
    (path : Path (c.prog env) es (.done (.ok answer)))
    (each : ∀ e ∈ es, ∃ x, exec env e.op x e.before = some (e.ans, e.after)) :
    ∃ early i a s s',
      es = early ++ [⟨i, .grants (.revokeAllForAccount accountId .passwordReset), a, s, s'⟩] := by
  unfold Call.changedPassword at changed
  split at changed
  · rename_i target current newPassword keep
    cases changed
    obtain ⟨p', inside, ended⟩ := returning_inv path
    obtain ⟨r, rfl, same⟩ := returning_done ended.symm
    cases r with
    | error e => cases same
    | ok u =>
        obtain ⟨i, found, s, s', rest, rfl, loaded⟩ := accountStore_bind_returned inside
        cases found with
        | none => exact (throw_returned loaded).elim
        | some account =>
            obtain ⟨-, setting⟩ := refuseIf_bind_returned loaded
            obtain ⟨x, done⟩ := each ⟨i, .accounts (.get accountId), .ok (some account), s, s'⟩ (by simp)
            have answered := congrArg Prod.fst (Option.some.inj done)
            obtain ⟨-, -, -, owned, -⟩ := readAccount_some (Except.ok.inj answered)
            obtain ⟨early, j, b, t, t', rfl⟩ := setPassword_returned setting
            subst owned
            exact ⟨_ :: early, j, b, t, t', rfl⟩
  · cases changed
    obtain ⟨p', inside, ended⟩ := returning_inv path
    obtain ⟨r, rfl, same⟩ := returning_done ended.symm
    cases r with
    | error e => cases same
    | ok account =>
        cases same
        obtain ⟨_, limiting, rest, rfl, -, path₁⟩ := inside.bind_returned
        obtain ⟨_, policy, rest₁, rfl, -, path₂⟩ := path₁.bind_returned
        obtain ⟨grant, redeeming, rest₂, rfl, -, path₃⟩ := path₂.bind_returned
        obtain ⟨found, loading, rest₃, rfl, -, path₄⟩ := path₃.bind_returned
        cases found with
        | none => exact (throw_returned path₄).elim
        | some account' =>
            obtain ⟨_, setting, rest₄, rfl, changing, path₅⟩ := path₄.bind_returned
            obtain ⟨rfl, rfl⟩ := pure_returned path₅
            obtain ⟨early, j, b, t, t', rfl⟩ := setPassword_returned changing
            exact ⟨limiting ++ policy ++ redeeming ++ loading ++ early, j, b, t, t', by simp⟩
  · cases changed

theorem links_after_change (run : Run (start env w calls) tr d) {j : Nat} {c : Call}
    {answer : Answer} {accountId : String} (found : calls[j]? = some c)
    (returned : d.pool[j]? = some (.done (.ok answer)))
    (changed : c.changedPassword answer = some accountId) :
    ∃ early e late, tr = early ++ e :: late ∧ e.thread = j ∧ (∀ e' ∈ late, e'.thread ≠ j) ∧
      ∀ row ∈ d.state.db.grants, row.LinksTo accountId → ∃ m ∈ late, Minted row m := by
  obtain ⟨q, here, path⟩ := path_of_run run j c found
  rw [returned] at here
  cases here
  have each : ∀ e ∈ ofThread j tr, ∃ x, exec env e.op x e.before = some (e.ans, e.after) :=
    fun e member => run.exec_eq e (mem_ofThread.mp member).1
  obtain ⟨own, i, a, s, s', split⟩ := change_returned changed path each
  have same : i = j := by
    have member := mem_ofThread.mp (show (⟨i, .grants (.revokeAllForAccount accountId
      .passwordReset), a, s, s'⟩ : Event (machine env)) ∈ ofThread j tr by
        rw [split]
        simp)
    exact member.2
  subst same
  obtain ⟨t₁, t₂, rfl, -, last⟩ := List.filter_eq_append_iff.mp split
  obtain ⟨t₃, late, rfl, -, -, quiet⟩ := List.filter_eq_cons_iff.mp last
  refine ⟨t₁ ++ t₃, ⟨i, .grants (.revokeAllForAccount accountId .passwordReset), a, s, s'⟩, late,
    by simp, rfl, fun e' member => ?_, ?_⟩
  · simpa using List.filter_eq_nil_iff.mp quiet e' member
  · obtain ⟨c₁, -, rest⟩ := run.split
    obtain ⟨c₂, -, rest⟩ := rest.split
    obtain ⟨c₃, revoked, rest⟩ := rest.cons_inv
    obtain ⟨x, done⟩ := revoked.exec_eq
    have done : exec env (.grants (.revokeAllForAccount accountId .passwordReset)) x s =
      some (a, s') := done
    have none := exec_revokeLinks done
    exact minted_since rest (by rwa [← revoked.after_eq])

/-- Started with single links, a run keeps them single in every state exactly when
no mint finds a live link of its account; a mint that does was overtaken.  In every
run, the live links of an account whose password was changed were minted after it. -/
theorem one_live_link (run : Run (start env w calls) tr d) (one : OneLink w) :
    ((∀ s ∈ states w tr, OneLink s) ↔ ∀ e ∈ tr, ¬ FindsLink e) ∧
    (∀ e ∈ tr, FindsLink e → Overtaken tr e) ∧
    (∀ j c answer accountId, calls[j]? = some c → d.pool[j]? = some (.done (.ok answer)) →
      c.changedPassword answer = some accountId →
        ∃ early e late, tr = early ++ e :: late ∧ e.thread = j ∧ (∀ e' ∈ late, e'.thread ≠ j) ∧
          ∀ row ∈ d.state.db.grants, row.LinksTo accountId → ∃ m ∈ late, Minted row m) := by
  refine ⟨?_, fun e member => overtaken_of_finds run member,
    fun j c answer accountId => links_after_change run⟩
  refine run.always_iff OneLink _ (fun e member one => ?_) one
  obtain ⟨x, done⟩ := run.exec_eq e member
  exact exec_oneLink done one

end Runs

/-! ## Two requests at once -/

namespace Scenario

/-- Bob's reset is asked for twice. -/
def twoResets : List Call :=
  [.account (.requestPasswordReset "bob@mail.org" "home"),
    .account (.requestPasswordReset "bob@mail.org" "cafe")]

/-- One request after the other. -/
def inTurnResets : Config (machine deployment) Error Answer × List (Event (machine deployment)) :=
  (start deployment office twoResets).play
    (List.replicate 10 (0, given 5 "a") ++ List.replicate 10 (1, given 6 "b"))

/-- Both revoke before either mints. -/
def overlappingResets :
    Config (machine deployment) Error Answer × List (Event (machine deployment)) :=
  (start deployment office twoResets).play
    (List.replicate 6 (0, given 5 "a") ++ List.replicate 10 (1, given 6 "b") ++
      List.replicate 4 (0, given 7 "a"))

theorem office_oneLink : OneLink office := fun _ _ row stored => by cases stored

end Scenario

open Scenario in
theorem one_live_link_inTurn :
    (∀ s ∈ states office inTurnResets.2, OneLink s) ↔ ∀ e ∈ inTurnResets.2, ¬ FindsLink e :=
  (one_live_link (Config.play_run (start deployment office twoResets) _) office_oneLink).1

open Scenario in
/-- Bob has two redeemable reset grants. -/
theorem two_live_links :
    Run (start deployment office twoResets) overlappingResets.2 overlappingResets.1 ∧
      ∃ row ∈ overlappingResets.1.state.db.grants, ∃ row' ∈ overlappingResets.1.state.db.grants,
        row.grantId ≠ row'.grantId ∧ row.purpose = .passwordReset ∧
          row'.purpose = .passwordReset ∧ row.accountId = some "bob" ∧
            row'.accountId = some "bob" ∧
              row.isRedeemable overlappingResets.1.state.clock ∧
                row'.isRedeemable overlappingResets.1.state.clock :=
  ⟨Config.play_run _ _, by decide +kernel⟩

end Keyring

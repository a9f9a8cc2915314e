import Keyring.Accounts.GrantTokens
import Keyring.Admin.Upwards

/-!
# What a reset token reaches

The guard bounds a reset by what the account holds while the token is being
issued.  The token lives on: until it is redeemed, whoever may assign or edit
roles can give the account more, and nothing takes the token back.
-/

set_option autoImplicit false

namespace Keyring

open Interleave Relational

variable {env : Env} {target : String} {held : Finset Permission}

/-! ## What a step gives an account -/

/-- What a step may permit the account: what the roles resolve to that it writes to the
account, or what it puts into a role that the account has. -/
def Op.gives (target : String) (db : Db) : Op → Finset Permission
  | .accounts (.add account) =>
      if account.accountId = target then resolveRoles db account.roles else ∅
  | .accounts (.save copy) => if copy.accountId = target then resolveRoles db copy.roles else ∅
  | .accounts (.setRoles accountId names _) =>
      if accountId = target then resolveRoles db names else ∅
  | .roles (.add role) | .roles (.save role) =>
      if role.name ∈ rolesOf db target then role.permissions else ∅
  | _ => ∅

section OneStep

variable {o : Op} {x : Input} {w w' : World} {a : o.Ans}

theorem resolveRoles_dict (db : Db) (names : List String) :
    resolveRoles db (dictFromKeys names) = resolveRoles db names := by
  ext p
  simp only [mem_resolveRoles, mem_dictFromKeys]

def rolesGrant (db : Db) (accountId : String) : Finset Permission :=
  resolveRoles db (rolesOf db accountId)

theorem rolesGrant_given {db db' : Db} {names : List String} (roles : db'.roles = db.roles)
    (given : rolesOf db' target = dictFromKeys names) (within : resolveRoles db names ⊆ held) :
    rolesGrant db' target ⊆ held := by
  rw [rolesGrant, given, resolveRoles_dict, resolveRoles, roles]
  exact within

theorem rolesGrant_deleteAccount (db : Db) (accountId : String) :
    rolesGrant (db.deleteAccount accountId) accountId = ∅ := by
  have none : rolesOf (db.deleteAccount accountId) accountId = [] := by
    rw [List.eq_nil_iff_forall_not_mem]
    intro name held
    obtain ⟨row, stored, mine, -⟩ := mem_rolesOf.mp held
    have kept := (Table.mem_deleteWhere.mp stored).2
    simp [mine] at kept
  rw [rolesGrant, none, resolveRoles_nil]

theorem exec_gives (done : exec env o x w = some (a, w'))
    (bounded : o.gives target w.db ⊆ held) :
    rolesOf w'.db target = rolesOf w.db target ∨ rolesGrant w'.db target ⊆ held := by
  by_cases spares : o.sparesAccounts
  · have roles : ∀ ao, o = .accounts ao → w'.db.roles = w.db.roles := by
      rintro ao rfl
      exact (exec_touches done).roles fun _ => Op.noConfusion
    cases exec_written done spares target with
    | saved copy saved mine _ given =>
        cases Op.saved_eq_some saved
        exact Or.inr (rolesGrant_given (roles _ rfl) given ((if_pos mine).superset.trans bounded))
    | assigned names _ _ assigned _ given =>
        unfold Op.assigned at assigned
        split at assigned
        · split at assigned
          · rename_i mine
            cases assigned
            exact Or.inr (rolesGrant_given (roles _ rfl) given
              ((if_pos mine).superset.trans bounded))
          · cases assigned
        · cases assigned
    | kept _ _ _ same => exact Or.inl same
  · cases o with
    | accounts ao =>
        cases ao with
        | add account =>
            have roles := (exec_touches done).roles fun _ => Op.noConfusion
            rcases onDb_cases done with ⟨v, -, committed⟩ | ⟨-, same⟩
            · obtain ⟨-, accounts, -, written⟩ := AccountOp.add_ok committed
              by_cases mine : account.accountId = target
              · exact Or.inr (rolesGrant_given roles (mine ▸ written.held)
                  ((if_pos mine).superset.trans bounded))
              · exact Or.inl (written.others target (Ne.symm mine))
            · rw [same]
              exact Or.inl rfl
        | delete accountId =>
            rcases exec_touches done with same | gone
            · rw [same]
              exact Or.inl rfl
            · rw [gone]
              by_cases mine : accountId = target
              · rw [mine, rolesGrant_deleteAccount]
                exact Or.inr (Finset.empty_subset held)
              · exact Or.inl (rolesOf_deleteAccount (Ne.symm mine))
        | _ => exact (spares trivial).elim
    | _ => exact (spares trivial).elim

theorem exec_within (done : exec env o x w = some (a, w')) (bounded : o.gives target w.db ⊆ held)
    (within : rolesGrant w.db target ⊆ held) : rolesGrant w'.db target ⊆ held := by
  rcases exec_gives done bounded with same | within'
  · intro p granted
    obtain ⟨name, member, role, found, included⟩ := mem_resolveRoles.mp granted
    rw [same] at member
    rcases exec_role done found with ⟨old, stored, kept⟩ | ⟨written, writes, named, kept⟩
    · exact within (mem_resolveRoles.mpr ⟨name, member, old, stored, kept ▸ included⟩)
    · have given : p ∈ if written.name ∈ rolesOf w.db target then written.permissions else ∅ := by
        rw [if_pos (named ▸ member), ← kept]
        exact included
      rcases writes with rfl | rfl
      · exact bounded given
      · exact bounded given
  · exact within'

end OneStep

/-! ## What the guard has seen -/

namespace AdminService

variable {es : List (Event (machine env))} {actor : Actor} {account : Account}

theorem requireAccount_returned {accountId : String}
    (path : Path (requireAccount env accountId) es (.done (.ok account))) :
    ∃ i s s', es = [⟨i, .accounts (.get accountId), .ok (some account), s, s'⟩] := by
  obtain ⟨i, a, s, s', rest, rfl, after⟩ := path.call_done
  rcases a with e | found
  · obtain ⟨-, impossible⟩ := after.done_inv
    cases impossible
  · cases found with
    | none =>
        obtain ⟨-, impossible⟩ := after.done_inv
        cases impossible
    | some account =>
        obtain ⟨rfl, same⟩ := after.done_inv
        cases same
        exact ⟨i, s, s', rfl⟩

theorem checkCanActOn_returned {u : Unit} (session : actor.isBreakGlass = false)
    (path : Path (checkCanActOn env actor account) es (.done (.ok u))) :
    account.accountId = actor.accountId ∨ account.roles = [] ∨
      ∃ i granted s s', es = [⟨i, .roles (.resolve account.roles), .ok granted, s, s'⟩] ∧
        granted ⊆ actor.permissions := by
  rw [checkCanActOn, session, Bool.false_or] at path
  split at path
  · rename_i own
    exact Or.inl (by simpa using own)
  · split at path
    · rename_i bare
      exact Or.inr (Or.inl (List.isEmpty_iff.mp bare))
    · obtain ⟨i, a, s, s', rest, rfl, after⟩ := path.call_done
      refine Or.inr (Or.inr ?_)
      rcases a with e | granted
      · obtain ⟨-, impossible⟩ := after.done_inv
        cases impossible
      · have checked : Path (refuseIf (granted \ actor.permissions).Nonempty _ : Service env Unit) rest
            (.done (.ok u)) := after
        rw [refuseIf] at checked
        split at checked
        · obtain ⟨-, impossible⟩ := checked.done_inv
          cases impossible
        · rename_i passed
          obtain ⟨rfl, -⟩ := checked.done_inv
          rw [Finset.sdiff_nonempty, not_not] at passed
          exact ⟨i, granted, s, s', rfl, passed⟩

end AdminService

theorem reset_guarded {actor : Actor} {grant : Grant} {es : List (Event (machine env))}
    {next : (Op.grants (.add grant)).Ans → Service env Answer} (session : actor.isBreakGlass = false)
    (path : Path ((Call.admin actor (.issuePasswordReset target)).prog env) es
      (.call (.grants (.add grant)) next)) :
    ∃ i account s s' rest,
      es = ⟨i, .accounts (.get target), .ok (some account), s, s'⟩ :: rest ∧
        (account.accountId = actor.accountId ∨ account.roles = [] ∨
          ∃ j granted t t' rest',
            rest = ⟨j, .roles (.resolve account.roles), .ok granted, t, t'⟩ :: rest' ∧
              granted ⊆ actor.permissions) := by
  have quiet : ¬Op.quiet (.grants (.add grant)) := id
  obtain ⟨next, asked⟩ := returning_calling path
  rcases done_bind_inv asked with ⟨_, -, -, impossible⟩ | ⟨_, -, permitted⟩
  · cases impossible
  obtain ⟨account, es₁, es₂, rfl, found, rest⟩ :=
    permitted.bind_beyond (AdminService.requireAccount_uses (fun _ => Op.modest.quiet) target) quiet
  obtain ⟨i, s, s', rfl⟩ := AdminService.requireAccount_returned found
  obtain ⟨_, es₃, es₄, rfl, guarded, -⟩ :=
    rest.bind_beyond (AdminService.checkCanActOn_uses (fun _ => Op.modest.quiet) actor account) quiet
  refine ⟨i, account, s, s', es₃ ++ es₄, rfl, ?_⟩
  rcases AdminService.checkCanActOn_returned session guarded with
    own | bare | ⟨j, granted, t, t', rfl, within⟩
  · exact Or.inl own
  · exact Or.inr (Or.inl bare)
  · exact Or.inr (Or.inr ⟨j, granted, t, t', es₄, rfl, within⟩)

/-! ## Every run -/

section Runs

variable {w : World} {calls : List Call} {d : Config (machine env) Error Answer}
  {i : Nat} {actor : Actor}

/-- The account has the roles the guard has read, or is within the bound. -/
def GuardedRoles (target : String) (roles : List String) (held : Finset Permission) (w : World) :
    Prop := rolesOf w.db target = roles ∨ rolesGrant w.db target ⊆ held

theorem GuardedRoles.of_run {roles : List String} {c m : Config (machine env) Error Answer}
    {tr : List (Event (machine env))} (run : Run c tr m)
    (bounded : ∀ e ∈ tr, e.op.gives target e.before.db ⊆ held)
    (guarded : GuardedRoles target roles held c.state) : GuardedRoles target roles held m.state := by
  refine run.preserves _ (fun e member guarded => ?_) guarded
  obtain ⟨x, done⟩ := run.exec_eq e member
  rcases guarded with same | within
  · exact (exec_gives done (bounded e member)).imp_left fun kept => kept.trans same
  · exact Or.inr (exec_within done (bounded e member) within)

theorem within_of_run {c m : Config (machine env) Error Answer} {tr : List (Event (machine env))}
    (run : Run c tr m) (bounded : ∀ e ∈ tr, e.op.gives target e.before.db ⊆ held)
    (within : rolesGrant c.state.db target ⊆ held) : rolesGrant m.state.db target ⊆ held := by
  refine run.preserves (fun w : World => rolesGrant w.db target ⊆ held)
    (fun e member within => ?_) within
  obtain ⟨x, done⟩ := run.exec_eq e member
  exact exec_within done (bounded e member) within

theorem exec_get_some {account : Account} {x : Input} {t t' : World}
    (done : exec env (.accounts (.get target)) x t = some (.ok (some account), t')) :
    account.accountId = target ∧ rolesOf t'.db target = account.roles := by
  rw [exec_get] at done
  have found : readAccount t.db target = some account :=
    Except.ok.inj (congrArg Prod.fst (Option.some.inj done))
  have same : t = t' := congrArg Prod.snd (Option.some.inj done)
  obtain ⟨_, -, -, keyed, roles⟩ := readAccount_some found
  exact ⟨keyed, same ▸ roles.symm⟩

theorem guarded_within {actor : Actor} {account : Account} {j : Nat} {t t' : World}
    {c m : Config (machine env) Error Answer} {first : Event (machine env)}
    {rest : List (Event (machine env))}
    (read : first = ⟨j, .accounts (.get target), .ok (some account), t, t'⟩)
    (run : Run c (first :: rest) m)
    (bounded : ∀ e ∈ rest, e.op.gives target e.before.db ⊆ actor.permissions)
    (checked : account.roles = [] ∨ ∃ k granted u u', (⟨k, .roles (.resolve account.roles), .ok granted,
      u, u'⟩ : Event (machine env)) ∈ rest ∧ granted ⊆ actor.permissions) :
    permissionsHeld m.state.db target ⊆ actor.permissions := by
  refine (permissionsHeld_subset m.state.db target).trans ?_
  change rolesGrant m.state.db target ⊆ _
  obtain ⟨c', step, run⟩ := run.cons_inv
  have guarded : GuardedRoles target account.roles actor.permissions c'.state := by
    obtain ⟨x, done⟩ := step.exec_eq
    rw [← step.after_eq]
    rw [read] at done ⊢
    have done : exec env (.accounts (.get target)) x t = some (.ok (some account), t') := done
    exact Or.inl (exec_get_some done).2
  rcases checked with bare | ⟨k, granted, u, u', member, told⟩
  · rcases guarded.of_run run bounded with none | within
    · rw [rolesGrant, none, bare, resolveRoles_nil]
      exact Finset.empty_subset _
    · exact within
  · obtain ⟨before, after, rfl⟩ := List.append_of_mem member
    obtain ⟨c'', init, late⟩ := run.split
    obtain ⟨n, resolving, -⟩ := late.cons_inv
    refine within_of_run late (fun e inside => bounded e (List.mem_append_right _ inside)) ?_
    rcases guarded.of_run init (fun e inside => bounded e (List.mem_append_left _ inside)) with
      same | within
    · obtain ⟨x, done⟩ := resolving.exec_eq
      have done : exec env (.roles (.resolve account.roles)) x u = some (.ok granted, u') := done
      have resolved : resolveRoles u.db account.roles = granted :=
        Except.ok.inj (congrArg Prod.fst (Option.some.inj done))
      have here : u = c''.state := resolving.before_eq
      rw [rolesGrant, same, ← here, resolved]
      exact told
    · exact within

/-- A reset of another account, minted for an actor with a session: whenever its grant
is redeemed, the account is permitted no more than the actor was, if no step since the
guard's read has given it more. -/
theorem reset_within {tr : List (Event (machine env))} (run : Run (start env w calls) tr d)
    (session : actor.isBreakGlass = false)
    (asked : calls[i]? = some (.admin actor (.issuePasswordReset target))) :
    ∀ grant s s' early mid redemption late,
      tr = (early ++ ⟨i, .grants (.add grant), .ok (), s, s'⟩ :: mid) ++ redemption :: late →
      Redeems grant.grantId redemption →
      (∀ before e after, early ++ ⟨i, .grants (.add grant), .ok (), s, s'⟩ :: mid =
        before ++ e :: after → (∃ own ∈ before, own.thread = i) →
          e.op.gives target e.before.db ⊆ actor.permissions) →
      target = actor.accountId ∨
        permissionsHeld redemption.before.db target ⊆ actor.permissions := by
  rintro grant s s' early mid redemption late rfl - bounded
  obtain ⟨m, init, here⟩ := run.before_of_split
  rw [← here]
  have found : (start env w calls).pool[i]? = some
      ((Call.admin actor (.issuePasswordReset target)).prog env) := by simp [start, asked]
  obtain ⟨next, path⟩ := init.at_event found
  obtain ⟨j, account, t, t', rest, own, guarded⟩ := reset_guarded session path
  have mine : j = i := by
    have inside : ⟨j, .accounts (.get target), .ok (some account), t, t'⟩ ∈ ofThread i early := by
      rw [own]
      exact List.mem_cons_self
    exact (mem_ofThread.mp inside).2
  obtain ⟨first, second, rfl, -, later⟩ :=
    ofThread_at (show ofThread i early = [] ++ _ :: rest from own)
  simp only [List.append_assoc, List.cons_append] at init bounded
  obtain ⟨c, -, reading⟩ := init.split
  have within : account.roles = [] ∨ (∃ k granted u u', (⟨k, .roles (.resolve account.roles),
      .ok granted, u, u'⟩ : Event (machine env)) ∈
        second ++ ⟨i, .grants (.add grant), .ok (), s, s'⟩ :: mid ∧ granted ⊆ actor.permissions) →
      permissionsHeld m.state.db target ⊆ actor.permissions := by
    refine guarded_within rfl reading fun e inside => ?_
    obtain ⟨before, after, split⟩ := List.append_of_mem inside
    refine bounded (first ++ ⟨j, .accounts (.get target), .ok (some account), t, t'⟩ :: before) e after
      ?_ ⟨_, List.mem_append_right _ List.mem_cons_self, mine⟩
    rw [split]
    simp
  rcases guarded with same | bare | ⟨k, granted, u, u', rest', rfl, told⟩
  · obtain ⟨x, done⟩ := reading.exec_eq _ List.mem_cons_self
    have done : exec env (.accounts (.get target)) x t = some (.ok (some account), t') := done
    exact Or.inl ((exec_get_some done).1.symm.trans same)
  · exact Or.inr (within (Or.inl bare))
  · refine Or.inr (within (Or.inr ⟨k, granted, u, u', List.mem_append_left _ ?_, told⟩))
    have asked : ⟨k, .roles (.resolve account.roles), .ok granted, u, u'⟩ ∈ ofThread i second := by
      rw [later]
      exact List.mem_cons_self
    exact (mem_ofThread.mp asked).1

end Runs

/-! ## A member is appointed owner -/

namespace Scenario

/-- Alice owns the deployment, Bob administers it and Carol is a member. -/
def staff : World := worldOf (threeAccounts "owner" "admin" "member")

/-- Bob issues a reset for Carol, whom Alice gives this role; the token is redeemed. -/
def resetCalls (role : String) : List Call :=
  [.admin (actorOf "bob" staff) (.issuePasswordReset "carol"),
    .admin owner (.setAccountRoles "carol" [role]),
    .account (.redeemPasswordReset "a" "slow paper boat" "home")]

/-- Bob's request runs to its end, then Alice's. -/
def issuedReset (role : String) :
    Config (machine deployment) Error Answer × List (Event (machine deployment)) :=
  (start deployment staff (resetCalls role)).play
    (List.replicate 16 (0, given 5 "a") ++ List.replicate 16 (1, given 6 "b"))

/-- Then Bob's token is presented. -/
def redeemedReset (role : String) :
    Config (machine deployment) Error Answer × List (Event (machine deployment)) :=
  (issuedReset role).1.play (List.replicate 16 (2, given 7 "c"))

/-- The grant of Bob's token. -/
def issuedGrant : Grant where
  grantId := grantIdPrefix ++ "a"
  purpose := .passwordReset
  tokenHash := "#a"
  createdAt := 5
  expiresAt := 5 + seconds 3600
  email := none
  accountId := some "carol"
  redeemedAt := none
  revoked := false
  named := rfl

end Scenario

open Scenario in
theorem reset_within_member :
    ∃ redemption ∈ (redeemedReset "member").2, Redeems issuedGrant.grantId redemption ∧
      ("carol" = (actorOf "bob" staff).accountId ∨
        permissionsHeld redemption.before.db "carol" ⊆ (actorOf "bob" staff).permissions) := by
  obtain ⟨redemption, member, redeems⟩ : ∃ redemption ∈ (redeemedReset "member").2,
      Redeems issuedGrant.grantId redemption :=
    ⟨_, List.mem_of_getElem? (i := 3) rfl, .redeemed rfl⟩
  refine ⟨redemption, member, redeems, ?_⟩
  have run : Run (start deployment staff (resetCalls "member"))
      ((issuedReset "member").2 ++ (redeemedReset "member").2) (redeemedReset "member").1 :=
    (Config.play_run _ _).trans (Config.play_run _ _)
  have bounded : ∀ e ∈ (issuedReset "member").2 ++ (redeemedReset "member").2,
      e.op.gives "carol" e.before.db ⊆ (actorOf "bob" staff).permissions := by
    decide +kernel
  have minted : ∃ s s', ⟨0, .grants (.add issuedGrant), .ok (), s, s'⟩ ∈ (issuedReset "member").2 :=
    ⟨_, _, List.mem_of_getElem? (i := 8) rfl⟩
  obtain ⟨s, s', minted⟩ := minted
  obtain ⟨early, mid, issued⟩ := List.append_of_mem minted
  obtain ⟨before, late, redeemed⟩ := List.append_of_mem member
  refine reset_within (i := 0) run rfl rfl issuedGrant s s' early (mid ++ before) redemption late ?_ redeems
    fun first e rest split _ => bounded e ?_
  · rw [issued, redeemed]
    simp
  · have inside : e ∈ early ++ ⟨0, .grants (.add issuedGrant), .ok (), s, s'⟩ :: (mid ++ before) := by
      rw [split]
      simp
    rw [issued, redeemed]
    simp only [List.mem_append, List.mem_cons] at inside ⊢
    tauto

open Scenario in
/-- Carol owns the deployment when Bob's token sets her password. -/
theorem reset_lifts :
    Run (start deployment staff (resetCalls "owner")) (issuedReset "owner").2 (issuedReset "owner").1 ∧
      Run (issuedReset "owner").1 (redeemedReset "owner").2 (redeemedReset "owner").1 ∧
      (∃ grantId expiresAt, (issuedReset "owner").1.pool[0]? =
        some (.done (.ok (.issued (some ⟨grantId, "a", expiresAt⟩))))) ∧
      (∃ answer, (redeemedReset "owner").1.pool[2]? = some (.done (.ok answer))) ∧
      ∀ s ∈ states (issuedReset "owner").1.state (redeemedReset "owner").2,
        ¬permissionsHeld s.db "carol" ⊆ (actorOf "bob" staff).permissions := by
  refine ⟨Config.play_run _ _, Config.play_run _ _, ⟨_, _, rfl⟩, returned_some (by decide +kernel), ?_⟩
  decide +kernel

end Keyring

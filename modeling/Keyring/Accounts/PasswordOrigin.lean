import Keyring.Hearing
import Keyring.Scenario
import Keyring.Writes

/-!
# Who has chosen a password

The hash of a password is stored by a call that has redeemed an invite or a reset link
for this account, or has shown that it knows the password before.  Every other call
that writes the account copies a hash that it has read.
-/

set_option autoImplicit false

namespace Keyring

open Interleave Relational

/-- The account that a step writes, its password hash included. -/
def Op.written : Op → Option Account
  | .accounts (.add account) | .accounts (.save account) => some account
  | _ => none

/-- The account was read, by its identifier or by its address. -/
def Read (said : Said) (account : Account) : Prop :=
  (∃ accountId, ⟨.accounts (.get accountId), .ok (some account)⟩ ∈ said) ∨
    ∃ address, ⟨.accounts (.getByEmail address), .ok (some account)⟩ ∈ said

/-- The call, having been answered `said`, has chosen the password of this copy. -/
inductive Picked (env : Env) (said : Said) : Call → Account → Prop where
  | invited {token password caller salt : String} {now : Instant} {grant : Grant} {copy : Account}
      (redeemed : ⟨.grants (.redeem (env.hashToken token) now), .ok (some grant)⟩ ∈ said)
      (purpose : grant.purpose = .invite) (address : grant.email = some copy.email)
      (policy : checkPasswordPolicy password = .ok ())
      (hashed : copy.passwordHash = env.hasher.hash password salt) :
      Picked env said (.account (.redeemInvite token password caller)) copy
  | changed {current new salt : String} {keep : Option String} {account copy : Account}
      (known : ⟨.accounts (.get copy.accountId), .ok (some account)⟩ ∈ said)
      (verified : env.hasher.verify account.passwordHash current = true)
      (policy : checkPasswordPolicy new = .ok ())
      (hashed : copy.passwordHash = env.hasher.hash new salt) :
      Picked env said (.account (.changePassword copy.accountId current new keep)) copy
  | reset {token new caller salt : String} {now : Instant} {grant : Grant} {copy : Account}
      (redeemed : ⟨.grants (.redeem (env.hashToken token) now), .ok (some grant)⟩ ∈ said)
      (purpose : grant.purpose = .passwordReset) (named : grant.accountId = some copy.accountId)
      (policy : checkPasswordPolicy new = .ok ())
      (hashed : copy.passwordHash = env.hasher.hash new salt) :
      Picked env said (.account (.redeemPasswordReset token new caller)) copy
  | upgraded {email password caller address salt : String} {account copy : Account}
      (named : normalizeEmail env.text email = .ok address)
      (found : ⟨.accounts (.getByEmail address), .ok (some account)⟩ ∈ said)
      (active : account.status = .active)
      (verified : env.hasher.verify account.passwordHash password = true)
      (owner : copy.accountId = account.accountId)
      (hashed : copy.passwordHash = env.hasher.hash password salt) :
      Picked env said (.account (.login email password caller)) copy

/-- What a call writes of an account has the hash that it has read, or one that it has
chosen. -/
def settled (env : Env) (call : Call) (said : Said) (o : Op) : Prop :=
  ∀ copy, o.written = some copy →
    (∃ old, Read said old ∧ old.accountId = copy.accountId ∧ old.passwordHash = copy.passwordHash) ∨
      Picked env said call copy

variable {env : Env} {call : Call} {I : World → Prop} {said : Said} {α : Type}

theorem Op.quiet.unwritten {o : Op} (quiet : o.quiet) : o.written = none := by
  cases o with
  | accounts o => cases o <;> first | rfl | exact quiet.elim
  | _ => rfl

theorem settled_of_unwritten (o : Op) (unwritten : o.written = none) (said : Said) :
    settled env call said o := by
  intro copy written
  rw [unwritten] at written
  cases written

theorem settled_of_read {old copy : Account} (read : Read said old)
    (same : old.accountId = copy.accountId) (hash : old.passwordHash = copy.passwordHash) :
    settled env call said (.accounts (.save copy)) := by
  rintro _ ⟨⟩
  exact Or.inl ⟨old, read, same, hash⟩

theorem settled_of_chosen {o : Op} {copy : Account} (written : o.written = some copy)
    (chosen : Picked env said call copy) : settled env call said o := by
  intro other same
  rw [written] at same
  cases same
  exact Or.inr chosen

/-- A call, or a part of one, that writes what it may. -/
abbrev Settles (call : Call) (I : World → Prop) (said : Said) (p : Service env α) : Prop :=
  Hears (settled env call) I (fun _ _ => True) said p

theorem Settles.quiet {p : Service env α} (uses : p.Uses fun (o : Op) => o.written = none) :
    Settles call I said p :=
  Prog.Told.mono (fun _ _ _ => trivial) (Hears.apart uses settled_of_unwritten)

/-- After a part that writes nothing. -/
theorem Settles.after {β : Type} {p : Service env α} {f : α → Service env β}
    (uses : p.Uses fun (o : Op) => o.written = none)
    (rest : ∀ a said', said <+: said' → Settles call I said' (f a)) : Settles call I said (p >>= f) :=
  Prog.Told.bind (Hears.apart uses settled_of_unwritten) fun a said' more => rest a said' more

theorem Read.later {said' : Said} (more : said <+: said') {account : Account}
    (read : Read said account) : Read said' account := by
  rcases read with ⟨accountId, known⟩ | ⟨address, found⟩
  · exact Or.inl ⟨accountId, more.subset known⟩
  · exact Or.inr ⟨address, more.subset found⟩

theorem Read.of_last {account : Account} {accountId : String} :
    Read (said ++ [⟨.accounts (.get accountId), .ok (some account)⟩]) account :=
  Or.inl ⟨accountId, by simp⟩

/-! ## What each call writes -/

namespace AccountService

theorem quiet_unwritten (o : Op) (modest : o.modest) : o.written = none := modest.quiet.unwritten

theorem checkLimit_unwritten (scope caller : String) (limit : Nat) (width : Instant) :
    (checkLimit scope caller limit width : Service env Unit).Uses fun (o : Op) => o.written = none :=
  checkLimit_uses (fun _ limits => limits.quiet.unwritten) scope caller limit width

theorem save_settles {old copy : Account} (read : Read said old)
    (same : old.accountId = copy.accountId) (hash : old.passwordHash = copy.passwordHash) :
    Settles call I said (accountStore (.save copy) : Service env Unit) :=
  Hears.asks (settled_of_read read same hash) fun answer => by cases answer <;> trivial

theorem rejectPassword_settles {account : Account} (read : Read said account) (now : Instant) :
    Settles call I said (rejectPassword env account now : Service env α) :=
  Hears.ofExcept fun _ recorded =>
    Hears.store (settled_of_read read (withFailure_accountId recorded).symm
      (withFailure_passwordHash recorded).symm) fun _ _ _ => trivial

theorem redeem_hears (token : String) (purpose : GrantPurpose) :
    Hears (settled env call) I (fun said' grant => said <+: said' ∧ grant.purpose = purpose ∧
      ∃ now, ⟨.grants (.redeem (env.hashToken token) now), .ok (some grant)⟩ ∈ said') said
      (redeem env token purpose) := by
  refine Hears.asks (settled_of_unwritten _ rfl _) fun now => ?_
  refine Hears.store (settled_of_unwritten _ rfl _) fun answer found answered => ?_
  cases answered
  cases found with
  | none => trivial
  | some grant =>
      refine Hears.refuses fun same => ?_
      refine ⟨?_, not_not.mp same, now, by simp⟩
      rw [List.append_assoc]
      exact List.prefix_append said _

theorem findForLogin_hears (email : String) :
    Hears (settled env call) I (fun said' found => said <+: said' ∧ ∀ account, found = some account →
      ∃ address, normalizeEmail env.text email = .ok address ∧
        ⟨.accounts (.getByEmail address), .ok (some account)⟩ ∈ said') said
      (findForLogin env email) := by
  rw [findForLogin]
  cases normal : normalizeEmail env.text email with
  | error e =>
      refine ⟨List.prefix_refl said, fun account absent => ?_⟩
      cases absent
  | ok address =>
      refine Hears.asks (settled_of_unwritten _ rfl _) fun answer => ?_
      cases answer with
      | error e => trivial
      | ok found =>
          refine ⟨List.prefix_append said _, fun account here => ⟨address, rfl, ?_⟩⟩
          rw [here]
          simp

theorem setPassword_settles {account : Account} {newPassword : String} {keep : Option String}
    (chosen : ∀ said' copy salt, said <+: said' → checkPasswordPolicy newPassword = .ok () →
      copy.accountId = account.accountId → copy.passwordHash = env.hasher.hash newPassword salt →
      Picked env said' call copy) :
    Settles call I said (setPassword env account newPassword keep) := by
  refine Hears.ofExcept fun _ policy => ?_
  refine Settles.after (ask_uses rfl) fun now said' more => ?_
  refine Settles.after (ask_uses rfl) fun salt said'' more' => ?_
  refine Hears.store (settled_of_chosen rfl
    (chosen said'' _ salt (more.trans more') policy rfl rfl)) fun _ _ _ => ?_
  refine Settles.quiet (Prog.Uses.bind (sessionStore_uses rfl) fun _ => ?_)
  exact Prog.Uses.bind (grantStore_uses rfl) fun _ => trivial

theorem changePassword_settles (accountId current new : String) (keep : Option String) :
    Settles (.account (.changePassword accountId current new keep)) I said
      (changePassword env accountId current new keep) := by
  refine Hears.account (settled_of_unwritten _ rfl _) fun found own => ?_
  cases found with
  | none => trivial
  | some account =>
      obtain rfl := own account rfl
      refine Hears.refuses fun verified => ?_
      refine setPassword_settles fun said' copy salt more policy same hashed => ?_
      have known : ⟨.accounts (.get copy.accountId), .ok (some account)⟩ ∈ said' :=
        more.subset (by simp [same])
      rw [← same]
      exact .changed known (by simpa using verified) policy hashed

theorem redeemPasswordReset_settles (token new caller : String) :
    Settles (.account (.redeemPasswordReset token new caller)) I said
      (redeemPasswordReset env token new caller) := by
  refine Settles.after (checkLimit_unwritten _ _ _ _) fun _ said' _ => ?_
  refine Hears.ofExcept fun _ _ => ?_
  refine Prog.Told.bind (redeem_hears token .passwordReset) fun grant said'' redeemed => ?_
  obtain ⟨-, purpose, now, known⟩ := redeemed
  rw [grantee]
  cases named : grant.accountId with
  | none => trivial
  | some accountId =>
      refine Hears.account (settled_of_unwritten _ rfl _) fun found own => ?_
      cases found with
      | none => trivial
      | some account =>
          obtain rfl := own account rfl
          refine Prog.Told.bind (setPassword_settles fun said' copy salt more policy same hashed => ?_)
            fun _ _ _ => trivial
          refine .reset (more.subset (List.mem_append_left _ known)) purpose ?_ policy hashed
          rw [named, same]

theorem redeemInvite_settles (token password caller : String) :
    Settles (.account (.redeemInvite token password caller)) I said
      (redeemInvite env token password caller) := by
  refine Settles.after (checkLimit_unwritten _ _ _ _) fun _ said' _ => ?_
  refine Hears.ofExcept fun _ policy => ?_
  refine Prog.Told.bind (redeem_hears token .invite) fun grant said'' redeemed => ?_
  obtain ⟨-, purpose, now, known⟩ := redeemed
  cases address : grant.email with
  | none => trivial
  | some email =>
      refine Settles.after (ask_uses rfl) fun _ said₁ more₁ => ?_
      refine Settles.after (accountStore_uses rfl) fun count said₂ more₂ => ?_
      refine Settles.after (ask_uses rfl) fun hex said₃ more₃ => ?_
      refine Settles.after (ask_uses rfl) fun salt said₄ more₄ => ?_
      have later : said'' <+: said₄ := more₁.trans (more₂.trans (more₃.trans more₄))
      refine Hears.store (settled_of_chosen rfl
        (.invited (later.subset known) purpose address policy rfl)) fun _ _ _ => ?_
      exact Settles.quiet (Prog.Uses.bind (ask_uses rfl) fun _ => trivial)

theorem acceptLogin_settles {account : Account} {email password caller address : String}
    (named : normalizeEmail env.text email = .ok address)
    (found : ⟨.accounts (.getByEmail address), .ok (some account)⟩ ∈ said)
    (active : account.status = .active)
    (verified : env.hasher.verify account.passwordHash password = true) (now : Instant) :
    Settles (.account (.login email password caller)) I said (acceptLogin env account password now) := by
  rw [acceptLogin, upgradeHash]
  split
  · rw [bind_assoc]
    refine Settles.after (ask_uses rfl) fun salt said' more => ?_
    exact Hears.store (settled_of_chosen rfl
      (.upgraded named (more.subset found) active verified rfl rfl)) fun _ _ _ => trivial
  · exact Hears.store (settled_of_read (Or.inr ⟨address, found⟩) rfl rfl) fun _ _ _ => trivial

theorem login_settles (email password caller : String) :
    Settles (.account (.login email password caller)) I said (login env email password caller) := by
  refine Settles.after (checkLimit_unwritten _ _ _ _) fun _ said' _ => ?_
  refine Prog.Told.bind (findForLogin_hears email) fun found said'' looked => ?_
  cases found with
  | none => trivial
  | some account =>
      obtain ⟨address, named, known⟩ := looked.2 account rfl
      refine Settles.after (ask_uses rfl) fun now said₁ more => ?_
      have found := more.subset known
      refine Hears.refuses fun free => ?_
      simp only [notAuthenticable, Bool.or_eq_true, decide_eq_true_eq, not_or, not_not] at free
      split
      · rename_i verified
        refine Prog.Told.bind (acceptLogin_settles named found free.2 verified now) fun copy _ _ => ?_
        refine Settles.quiet (Prog.Uses.bind (ask_uses rfl) fun _ => ?_)
        exact openSession_writes quiet_unwritten (fun _ _ => rfl) copy now
      · exact rejectPassword_settles (Or.inr ⟨address, found⟩) now

theorem confirmPassword_settles (accountId password : String) :
    Settles call I said (confirmPassword env accountId password) := by
  refine Hears.account (settled_of_unwritten _ rfl _) fun found _ => ?_
  cases found with
  | none => trivial
  | some account =>
      refine Settles.after (ask_uses rfl) fun now said' more => ?_
      have read : Read said' account := Read.of_last.later more
      refine Hears.refuses fun _ => ?_
      split
      · split
        · trivial
        · exact save_settles read rfl rfl
      · exact rejectPassword_settles read now

theorem setStatus_settles (accountId : String) (status : AccountStatus) :
    Settles call I said (setStatus env accountId status) := by
  refine Hears.account (settled_of_unwritten _ rfl _) fun found _ => ?_
  cases found with
  | none => trivial
  | some account =>
      refine Settles.after (ask_uses rfl) fun now said' more => ?_
      exact save_settles (Read.of_last.later more) rfl rfl

end AccountService

namespace CredentialChanges

theorem admitted_settles (accountId : String) (requester : Requester) :
    Settles call I said (admitted env accountId requester) := by
  refine Settles.after (preferencesFor_uses rfl) fun preferences said' _ => ?_
  split
  · trivial
  · split
    · exact Prog.Told.bind (AccountService.confirmPassword_settles accountId _) fun _ _ _ => trivial
    · split <;> trivial

theorem after_admitted {f : Preferences → Service env α} {accountId : String} {requester : Requester}
    (rest : ∀ preferences, (f preferences).Uses fun (o : Op) => o.written = none) :
    Settles call I said (admitted env accountId requester >>= f) :=
  Prog.Told.bind (admitted_settles accountId requester) fun preferences _ _ =>
    Settles.quiet (rest preferences)

theorem calm_unwritten (o : Op) (calm : o.calm) : o.written = none := calm.quiet.unwritten

theorem removeProfile_settles (accountId name : String) (requester : Requester) :
    Settles call I said (removeProfile env accountId name requester) := by
  refine Settles.after (Prog.Uses.tryCatch ?_ fun e => ?_) fun found said' _ => ?_
  · exact Prog.Uses.bind (CredentialService.getProfile_uses calm_unwritten _ _) fun _ => trivial
  · cases e <;> trivial
  · cases found with
    | none => trivial
    | some profile =>
        refine Prog.Told.bind (P := fun _ _ => True) ?_ fun preferences said'' _ => Settles.quiet ?_
        · split
          · trivial
          · exact Prog.Told.bind (admitted_settles accountId requester) fun _ _ _ => trivial
        · refine Prog.Uses.bind (CredentialService.deleteProfile_uses (fun _ => rfl) (fun _ => rfl) _)
            fun removed => Prog.Uses.bind ?_ fun _ => trivial
          split
          · exact announce_uses calm_unwritten _ _
          · trivial

end CredentialChanges

theorem AdminService.setStatus_settles (actor : Actor) (accountId : String) (status : AccountStatus) :
    Settles call I said (AdminService.setStatus env actor accountId status) := by
  have modest := AccountService.quiet_unwritten
  refine Hears.ofExcept fun _ _ => ?_
  refine Settles.after (AdminService.requireAccount_uses modest accountId) fun account said₁ _ => ?_
  refine Settles.after (AdminService.checkCanActOn_uses modest actor account) fun _ said₂ _ => ?_
  refine Prog.Told.bind (AccountService.setStatus_settles accountId status) fun _ said₃ _ => ?_
  refine Settles.quiet (Prog.Uses.bind ?_ fun _ => ?_)
  · split
    · exact sessionStore_uses rfl
    · trivial
  · refine Prog.Uses.bind (AdminService.record_uses modest (fun _ => rfl) _ _ _ _) fun _ => ?_
    exact Prog.Uses.bind (accountStore_uses rfl) fun _ => trivial

/-! ## Every call -/

theorem Settles.returning {p : Service env α} {answer : α → Answer} (settles : Settles call I said p) :
    Settles call I said (returning p answer) := Prog.Told.bind settles fun _ _ _ => trivial

theorem Call.prog_unwritten (c : Call) (none : ∀ o, c.writes o → o.written = none) :
    Settles c I said (c.prog env) :=
  Settles.quiet (c.prog_uses (fun _ quiet => quiet.unwritten) (fun o writes _ => none o writes)
    fun _ _ _ => rfl)

theorem ChangeCall.prog_settles (c : ChangeCall) : Settles call I said (c.prog env) := by
  have calm := CredentialChanges.calm_unwritten
  cases c with
  | storeDirect accountId profileName serviceName kind secret storesTotpSeed requester =>
      refine Settles.returning (CredentialChanges.after_admitted fun preferences => ?_)
      refine Prog.Uses.bind (CredentialService.putDirectCredential_uses calm (fun _ _ _ _ => rfl)
        (fun _ _ _ _ _ => rfl) _ _ _ _ _ _) fun connection => ?_
      exact Prog.Uses.bind (CredentialChanges.announce_uses calm _ _) fun _ => trivial
  | beginAuthorization accountId profileName serviceName redirectUri requester =>
      refine Settles.returning (CredentialChanges.after_admitted fun _ => ?_)
      exact CredentialService.beginAuthorization_uses calm (fun _ _ _ _ => rfl) (fun _ _ => rfl) _ _ _ _
  | completeAuthorization state code =>
      refine Settles.returning (Settles.quiet ?_)
      exact CredentialChanges.completeAuthorization_writes (fun _ quiet => quiet.unwritten)
        (fun _ _ _ _ => rfl) (fun _ _ _ _ _ => rfl) state code
  | removeConnection accountId profileName serviceName requester =>
      refine Settles.returning (CredentialChanges.after_admitted fun preferences => ?_)
      refine Prog.Uses.bind (CredentialService.revokeConnection_uses calm (fun _ _ _ => rfl)
        (fun _ _ _ _ => rfl) _ _ _) fun removed => Prog.Uses.bind ?_ fun _ => trivial
      split
      · exact CredentialChanges.announce_uses calm _ _
      · trivial
  | removeProfile accountId name requester =>
      exact Settles.returning (CredentialChanges.removeProfile_settles accountId name requester)

/-- Only the four calls that choose a password, and those that copy what they have read,
write an account. -/
theorem Call.prog_settles (c : Call) : Settles c I said (c.prog env) := by
  have unwritten : ∀ {c : Call}, (∀ account, ¬ c.writes (.accounts (.add account)) ∧
      ¬ c.writes (.accounts (.save account))) → Settles c I said (c.prog env) := by
    intro c spares
    refine c.prog_unwritten fun o writes => ?_
    cases o with
    | accounts o =>
        cases o with
        | add account => exact absurd writes (spares account).1
        | save account => exact absurd writes (spares account).2
        | _ => rfl
    | _ => rfl
  cases c with
  | account c =>
      cases c with
      | redeemInvite token password caller =>
          exact Settles.returning (AccountService.redeemInvite_settles token password caller)
      | login email password caller =>
          exact Settles.returning (AccountService.login_settles email password caller)
      | setStatus accountId status =>
          exact Settles.returning (AccountService.setStatus_settles accountId status)
      | changePassword accountId current new keep =>
          exact Settles.returning (AccountService.changePassword_settles accountId current new keep)
      | confirmPassword accountId password =>
          exact Settles.returning (AccountService.confirmPassword_settles accountId password)
      | redeemPasswordReset token new caller =>
          exact Settles.returning (AccountService.redeemPasswordReset_settles token new caller)
      | _ => exact unwritten fun _ => ⟨id, id⟩
  | admin actor c =>
      cases c with
      | setStatus accountId status =>
          exact Settles.returning (AdminService.setStatus_settles actor accountId status)
      | _ => exact unwritten fun _ => ⟨id, id⟩
  | credential c => cases c <;> exact unwritten fun _ => ⟨id, id⟩
  | change c => exact c.prog_settles
  | delegation c => cases c <;> exact unwritten fun _ => ⟨id, id⟩
  | exchange service audience ttlSeconds userToken grantId => exact unwritten fun _ => ⟨id, id⟩
  | internal service userToken c => cases c <;> exact unwritten fun _ => ⟨id, id⟩

/-! ## In a run -/

theorem exec_hashes {o : Op} {x : Input} {a : o.Ans} {w w' : World} (done : exec env o x w = some (a, w'))
    {row : AccountRow} (stored : row ∈ w'.db.accounts) :
    (∃ old ∈ w.db.accounts, old.accountId = row.accountId ∧ old.passwordHash = row.passwordHash) ∨
      ∃ copy, o.written = some copy ∧ copy.accountId = row.accountId ∧
        copy.passwordHash = row.passwordHash := by
  have kept : w'.db.accounts = w.db.accounts → ∃ old ∈ w.db.accounts,
      old.accountId = row.accountId ∧ old.passwordHash = row.passwordHash :=
    fun same => ⟨row, same ▸ stored, rfl, rfl⟩
  by_cases writes : ∃ ao, o = .accounts ao
  · obtain ⟨ao, rfl⟩ := writes
    rcases onDb_cases done with ⟨v, -, committed⟩ | ⟨-, same⟩
    · cases ao with
      | add account =>
          obtain ⟨-, accounts, inserted, written⟩ := AccountOp.add_ok committed
          have same : w'.db.accounts = accounts := congrArg Db.accounts written.frame
          rw [same, Table.mem_insert? inserted] at stored
          rcases stored with old | rfl
          · exact Or.inl ⟨row, old, rfl, rfl⟩
          · exact Or.inr ⟨account, rfl, rfl, rfl⟩
      | save copy =>
          rw [congrArg Db.accounts (AccountOp.save_ok committed).frame] at stored
          obtain ⟨old, inside, rfl⟩ :=
            (Table.mem_updateWhere (·.overwrite_accountId copy)).mp stored
          by_cases own : old.accountId = copy.accountId
          · refine Or.inr ⟨copy, rfl, ?_⟩
            simp [own, AccountRow.overwrite]
          · exact Or.inl ⟨old, inside, by simp [own]⟩
      | setRoles target names now =>
          obtain ⟨current, -, -, written, -⟩ := AccountOp.setRoles_ok committed
          rw [congrArg Db.accounts written.frame] at stored
          have stamped : row ∈ (AccountOp.stamped w.db target now).accounts := stored
          rw [AccountOp.stamped, Table.mem_updateWhere] at stamped
          obtain ⟨old, inside, rfl⟩ := stamped
          refine Or.inl ⟨old, inside, ?_⟩
          split <;> exact ⟨rfl, rfl⟩
      | delete target =>
          rcases AccountOp.delete_ok committed with ⟨-, -, same⟩ | ⟨-, -, -, gone⟩
          · exact Or.inl (kept (congrArg Db.accounts same))
          · rw [gone] at stored
            exact Or.inl ⟨row, (Table.mem_deleteWhere.mp stored).1, rfl, rfl⟩
      | get _ | getByEmail _ | count | listAll | countHolding _ =>
          have same : w'.db = w.db := (Prod.mk.inj (Except.ok.inj committed)).2.symm
          exact Or.inl (kept (congrArg Db.accounts same))
    · exact Or.inl (kept (congrArg Db.accounts same))
  · exact Or.inl (kept ((exec_touches done).accounts fun ao same => writes ⟨ao, same⟩).1)

theorem Read.stored {account : Account} {es : List (Event (machine env))}
    (read : Read (es.map fun e => ⟨e.op, e.ans⟩) account)
    (executed : ∀ e ∈ es, ∃ x, exec env e.op x e.before = some (e.ans, e.after)) :
    ∃ e ∈ es, ∃ row ∈ e.before.db.accounts,
      row.accountId = account.accountId ∧ row.passwordHash = account.passwordHash := by
  rcases read with ⟨accountId, known⟩ | ⟨address, known⟩
  · obtain ⟨⟨i, o, a, s, s'⟩, inside, said⟩ := List.mem_map.mp known
    cases said
    obtain ⟨x, done⟩ := executed _ inside
    rw [exec_get, Option.some.injEq, Prod.mk.injEq, Except.ok.injEq] at done
    refine ⟨_, inside, account.toAccountRow, ?_, rfl, rfl⟩
    exact (Table.find?_eq_some.mp (readAccount_row done.1)).1
  · obtain ⟨⟨i, o, a, s, s'⟩, inside, said⟩ := List.mem_map.mp known
    cases said
    obtain ⟨x, done⟩ := executed _ inside
    rcases onDb_cases done with ⟨v, same, committed⟩ | ⟨⟨e, impossible⟩, -⟩
    · cases same
      have found := readAccountByEmail_some (AccountOp.getByEmail_ok committed).1.symm
      refine ⟨_, inside, account.toAccountRow, ?_, rfl, rfl⟩
      exact (Table.find?_eq_some.mp (readAccount_row found.1)).1
    · cases impossible

section Runs

variable {w : World} {calls : List Call} {d : Config (machine env) Error Answer}
  {tr : List (Event (machine env))}

/-- A call whose step in `tr` has stored this hash for the account had chosen it. -/
inductive PickedIn (env : Env) (calls : List Call) (tr : List (Event (machine env)))
    (accountId passwordHash : String) : Prop where
  | intro {early late : List (Event (machine env))} {e : Event (machine env)} {call : Call}
      {copy : Account} (split : tr = early ++ e :: late) (asked : calls[e.thread]? = some call)
      (writes : e.op.written = some copy) (owner : copy.accountId = accountId)
      (hashed : copy.passwordHash = passwordHash)
      (stored : ∃ row ∈ e.after.db.accounts,
        row.accountId = accountId ∧ row.passwordHash = passwordHash)
      (chosen : Picked env ((ofThread e.thread early).map fun e => ⟨e.op, e.ans⟩) call copy) :
      PickedIn env calls tr accountId passwordHash

theorem PickedIn.later {accountId passwordHash : String} (es : List (Event (machine env)))
    (chosen : PickedIn env calls tr accountId passwordHash) :
    PickedIn env calls (tr ++ es) accountId passwordHash := by
  cases chosen with
  | @intro early late e call copy split asked writes owner hashed stored chosen =>
      have longer : tr ++ es = early ++ e :: (late ++ es) := by simp [split]
      exact .intro longer asked writes owner hashed stored chosen

/-- The hash was the account's in the first state, or a call in `tr` has chosen it. -/
def HashKnown (env : Env) (w : World) (calls : List Call) (tr : List (Event (machine env)))
    (accountId passwordHash : String) : Prop :=
  (∃ first ∈ w.db.accounts, first.accountId = accountId ∧ first.passwordHash = passwordHash) ∨
    PickedIn env calls tr accountId passwordHash

theorem HashKnown.later {accountId passwordHash : String} (es : List (Event (machine env)))
    (known : HashKnown env w calls tr accountId passwordHash) :
    HashKnown env w calls (tr ++ es) accountId passwordHash :=
  known.imp_right (PickedIn.later es)

/-- What holds before every step, for the copies that were read there, and at the end. -/
theorem hashes_known (run : Run (start env w calls) tr d) :
    (∀ e ∈ tr, ∀ row ∈ e.before.db.accounts,
      HashKnown env w calls tr row.accountId row.passwordHash) ∧
    ∀ row ∈ d.state.db.accounts, HashKnown env w calls tr row.accountId row.passwordHash := by
  induction run with
  | refl => exact ⟨by simp, fun row stored => Or.inl ⟨row, stored, rfl, rfl⟩⟩
  | @snoc tr m d e init last ih =>
      obtain ⟨before, here⟩ := ih
      refine ⟨fun e' inside row stored => ?_, fun row stored => ?_⟩
      · rcases List.mem_append.mp inside with earlier | only
        · exact (before e' earlier row stored).later [e]
        · rw [List.mem_singleton.mp only, last.before_eq] at stored
          exact (here row stored).later [e]
      · obtain ⟨x, done⟩ := last.exec_eq
        rw [← last.after_eq] at stored
        rcases exec_hashes done stored with ⟨old, inside, owner, hash⟩ | ⟨copy, writes, owner, hash⟩
        · rw [last.before_eq] at inside
          rw [← owner, ← hash]
          exact (here old inside).later [e]
        · obtain ⟨call, asked, settles⟩ := Hears.of_run
            (fun call => Call.prog_settles (I := fun _ => True) call) (fun _ => trivial) (init.snoc last)
          rcases settles copy writes with ⟨old, read, same, same'⟩ | chosen
          · -- a copy: its hash was stored when the call read it
            obtain ⟨e', earlier, old', stored', owner', hash'⟩ := read.stored fun e' earlier =>
              init.exec_eq e' (mem_ofThread.mp earlier).1
            rw [← owner, ← hash, ← same, ← same', ← owner', ← hash']
            exact (before e' (mem_ofThread.mp earlier).1 old' stored').later [e]
          · have split : tr ++ [e] = tr ++ e :: [] := rfl
            exact Or.inr (.intro split asked writes owner hash ⟨row, stored, rfl, rfl⟩ chosen)

/-- In every run, the password hash that is stored for an account was the one of the
first state, or was chosen by a call that held an invite or a reset link for it, or that
had shown that it knew the password before.  A call that writes an account otherwise
copies the hash of this account that it has read. -/
theorem passwords_chosen (run : Run (start env w calls) tr d) :
    (∀ row ∈ d.state.db.accounts, HashKnown env w calls tr row.accountId row.passwordHash) ∧
      ∀ early e late copy, tr = early ++ e :: late → e.op.written = some copy →
        ∃ call, calls[e.thread]? = some call ∧
          ((∃ old, Read ((ofThread e.thread early).map fun e => ⟨e.op, e.ans⟩) old ∧
              old.accountId = copy.accountId ∧ old.passwordHash = copy.passwordHash) ∨
            Picked env ((ofThread e.thread early).map fun e => ⟨e.op, e.ans⟩) call copy) := by
  refine ⟨(hashes_known run).2, ?_⟩
  rintro early e late copy rfl writes
  obtain ⟨call, asked, settles⟩ := Hears.of_run
    (fun call => Call.prog_settles (I := fun _ => True) call) (fun _ => trivial) run
  exact ⟨call, asked, settles copy writes⟩

end Runs

namespace Scenario

def changeCalls : List Call :=
  [.account (.changePassword "bob" "battery staple" "a different battery" none)]

/-- Bob changes his password. -/
def changeRun : Config (machine deployment) Error Answer × List (Event (machine deployment)) :=
  (start deployment office changeCalls).play (List.replicate 6 (0, given 1 "pepper"))

theorem passwords_chosen_changed :
    PickedIn deployment changeCalls changeRun.2 "bob" (hasher.hash "a different battery" "pepper") := by
  have stored : { bob with passwordHash := hasher.hash "a different battery" "pepper", updatedAt := 1 } ∈
      changeRun.1.state.db.accounts := List.mem_of_getElem? (i := 1) rfl
  refine ((passwords_chosen (Config.play_run _ _)).1 _ stored).resolve_left fun before => ?_
  obtain ⟨first, inside, -, hash⟩ := before
  revert hash
  exact (List.forall_mem_cons.mpr ⟨by decide, List.forall_mem_singleton.mpr (by decide)⟩ :
    ∀ row ∈ [alice, bob], row.passwordHash ≠ hasher.hash "a different battery" "pepper") first inside

end Scenario

end Keyring

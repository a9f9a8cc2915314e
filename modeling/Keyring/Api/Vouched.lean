import Keyring.Api.Routes
import Keyring.Credentials.Acting
import Keyring.Hearing

/-!
# What vouches for a request

A step that reaches what somebody has stored belongs to a request that was answered,
before it, what vouches for it: that its bearer string is one of a session of this
account, that its service's token and this person's token are in order, that its
state was handed out for this account, or that its actor holds the permission.
-/

set_option autoImplicit false

namespace Keyring

open Interleave Relational

/-- Whose profiles, connections, secrets, offline grants, authorizations or renewal locks
a step reaches. -/
inductive Reach where
  | nobody
  | account (accountId : String)
  | everybody
  /-- The grant, whoever's it is, that was handed to a service. -/
  | grant (grantId service : String)
  /-- The authorization, whoever's it is, that was handed out as a state. -/
  | flow (stateHash : String)
  | expiredFlows

/-- Deleting an account takes along what it has stored. -/
def Op.reaches : Op → Reach
  | .accounts (.delete accountId) => .account accountId
  | .profiles (.add profile _) => .account profile.accountId
  | .profiles (.get accountId _) | .profiles (.listForAccount accountId)
  | .profiles (.putConnection accountId _ _ _ _) | .profiles (.removeConnection accountId _ _ _)
  | .profiles (.delete accountId _) | .profiles (.countForAccount accountId) => .account accountId
  | .profiles .allProfiles => .everybody
  | .secrets (.get accountId _ _) | .secrets (.put accountId _ _ _ _)
  | .secrets (.delete accountId _ _) | .secrets (.deleteProfile accountId _) => .account accountId
  | .delegations (.add grant _ _) => .account grant.accountId
  | .delegations (.listForProfile accountId _) | .delegations (.revoke accountId _ _ _) =>
      .account accountId
  | .delegations (.forExchange grantId service) => .grant grantId service
  | .issueState _ flow => .account flow.binding.accountId
  | .redeemState stateHash => .flow stateHash
  | .purgeStates _ => .expiredFlows
  | .acquire key | .release key => .account key.1
  | _ => .nobody

/-- Whose an administrative call reaches, and the permission that this takes. -/
def AdminCall.reach : AdminCall → Option (Permission × String)
  | listProfiles accountId => some (.profilesReadAny, accountId)
  | deleteProfile accountId _ => some (.profilesDeleteAny, accountId)
  | deleteAccount accountId => some (.accountsDelete, accountId)
  | _ => none

section Evidence

variable (env : Env) (container : Container) (said : Said)

/-- The string was found to be the one of a session that had not ended, of an account
that was active. -/
inductive SignedIn (presented accountId : String) : Prop where
  | intro {now : Instant} {session : Session} {account : Account} (read : ⟨.now, now⟩ ∈ said)
      (found : ⟨.sessions (.getByTokenHash (env.hashToken presented) now), .ok (some session)⟩ ∈ said)
      (owner : session.accountId = accountId)
      (known : ⟨.accounts (.get accountId), .ok (some account)⟩ ∈ said)
      (active : account.status = .active)

/-- The token is one that the account may use at the service, and had not ended. -/
inductive Delegated (userToken : Option String) (service accountId : String) : Prop where
  | intro {token : String} {claims : TokenClaims} {now : Instant} (sent : userToken = some token)
      (decoded : env.jwt.decode token = some claims) (issuer : claims.iss = env.settings.issuer)
      (audience : claims.aud = service) (subject : claims.sub = accountId)
      (read : ⟨.now, now⟩ ∈ said) (alive : now < seconds claims.exp)

/-- The string is the break-glass token, or the actor is the account of its session with
the permissions that its roles were resolved to. -/
inductive MayAct (presented : String) : Actor → Prop where
  | breakGlass (configured : container.adminToken = some presented) :
      MayAct presented ⟨breakGlassActor, Finset.univ, true⟩
  | account {account : Account} {permissions : Finset Permission}
      (signed : SignedIn env said presented account.accountId)
      (known : ⟨.accounts (.get account.accountId), .ok (some account)⟩ ∈ said)
      (resolved : ⟨.roles (.resolve account.roles), .ok permissions⟩ ∈ said) :
      MayAct presented ⟨account.accountId, permissions, false⟩

/-- The request may reach what the account has stored. -/
inductive Vouched : Request → String → Prop where
  | own {presented accountId : String} {c : OwnCall} (signed : SignedIn env said presented accountId) :
      Vouched (.own (some presented) c) accountId
  | internal {presented service accountId : String} {userToken : Option String} {c : InternalCall}
      (identified : container.serviceAuthenticator.identify (some presented) = .ok service)
      (delegated : Delegated env said userToken service accountId) :
      Vouched (.internal (some presented) userToken c) accountId
  | completeAuthorization {state code : String} {flow : OAuthFlow}
      (redeemed : ⟨.redeemState (env.hashToken state), some flow⟩ ∈ said) :
      Vouched (.completeAuthorization state code) flow.binding.accountId
  | admin {presented accountId : String} {actor : Actor} {c : AdminCall} {permission : Permission}
      (permitted : MayAct env container said presented actor)
      (reach : c.reach = some (permission, accountId)) (holds : permission ∈ actor.permissions) :
      Vouched (.admin (some presented) c) accountId

/-- The request may reach this.  No request drops the authorizations that have expired. -/
inductive Vouches (request : Request) : Reach → Prop where
  | nobody : Vouches request .nobody
  | account {accountId : String} (vouched : Vouched env container said request accountId) :
      Vouches request (.account accountId)
  | everybody (asked : request = .checkReadiness) : Vouches request .everybody
  | grant {credentials : Option String} {audience grantId service : String} {ttlSeconds : Int}
      (asked : request = .exchangeUserToken credentials none audience ttlSeconds (some grantId))
      (identified : container.serviceAuthenticator.identify credentials = .ok service) :
      Vouches request (.grant grantId service)
  | flow {state code : String} (asked : request = .completeAuthorization state code) :
      Vouches request (.flow (env.hashToken state))

end Evidence

section Later

variable {env : Env} {container : Container} {said said' : Said} (more : said <+: said')
include more

theorem SignedIn.later {presented accountId : String} (signed : SignedIn env said presented accountId) :
    SignedIn env said' presented accountId := by
  cases signed with
  | intro read found owner known active =>
      exact .intro (more.subset read) (more.subset found) owner (more.subset known) active

theorem MayAct.later {presented : String} {actor : Actor}
    (permitted : MayAct env container said presented actor) :
    MayAct env container said' presented actor := by
  cases permitted with
  | breakGlass configured => exact .breakGlass configured
  | account signed known resolved =>
      exact .account (signed.later more) (more.subset known) (more.subset resolved)

theorem Vouched.later {request : Request} {accountId : String}
    (vouched : Vouched env container said request accountId) :
    Vouched env container said' request accountId := by
  cases vouched with
  | own signed => exact .own (signed.later more)
  | internal identified delegated =>
      cases delegated with
      | intro sent decoded issuer audience subject read alive =>
          exact .internal identified
            (.intro sent decoded issuer audience subject (more.subset read) alive)
  | completeAuthorization redeemed => exact .completeAuthorization (more.subset redeemed)
  | admin permitted reach holds => exact .admin (permitted.later more) reach holds

end Later

/-! ## Heeding what vouches -/

variable {env : Env} {container : Container} {request : Request} {said : Said} {α β γ : Type}

/-- The book in which anyone is registered. -/
abbrev anyone (_accountId _email : String) : Prop := True

/-- A step of the request that reaches what the request may. -/
def vouchedFor (env : Env) (container : Container) (request : Request) (said : Said) (o : Op) : Prop :=
  Vouches env container said request o.reaches

theorem vouchedFor_of_nobody (o : Op) (apart : o.reaches = .nobody) (said : Said) :
    vouchedFor env container request said o := by
  rw [vouchedFor, apart]
  exact .nobody

/-- A request, or a part of one, that reaches what it is vouched for. -/
abbrev Heeds (container : Container) (request : Request) (P : Said → α → Prop) (said : Said)
    (p : Service env α) : Prop :=
  Hears (vouchedFor env container request) (Registry anyone) P said p

/-- The rest of a request of which it does not matter what it returns. -/
abbrev Follows (container : Container) (request : Request) (said : Said) (p : Service env α) : Prop :=
  Heeds container request (fun _ _ => True) said p

section Heeding

variable {P : Said → α → Prop}

theorem Heeds.follows {p : Service env α} (heeds : Heeds container request P said p) :
    Follows container request said p := Prog.Told.mono (fun _ _ _ => trivial) heeds

theorem Heeds.asks {o : Op} {f : o.Ans → Service env α} (apart : o.reaches = .nobody)
    (rest : ∀ answer, Heeds container request P (said ++ [⟨o, answer⟩]) (f answer)) :
    Heeds container request P said (.call o f) := Hears.asks (vouchedFor_of_nobody o apart said) rest

theorem Heeds.store {o : Op} {result : o.Ans → Except Error γ} {f : γ → Service env α}
    (apart : o.reaches = .nobody)
    (rest : ∀ answer v, result answer = .ok v →
      Heeds container request P (said ++ [⟨o, answer⟩]) (f v)) :
    Heeds container request P said ((.call o fun answer => .done (result answer)) >>= f) :=
  Hears.store (vouchedFor_of_nobody o apart said) rest

theorem Heeds.account {accountId : String} {f : Option Account → Service env α}
    (rest : ∀ found, (∀ account, found = some account → account.accountId = accountId) →
      Heeds container request P (said ++ [⟨.accounts (.get accountId), .ok found⟩]) (f found)) :
    Heeds container request P said (accountStore (.get accountId) >>= f) :=
  Hears.account (vouchedFor_of_nobody _ rfl said) rest

end Heeding

theorem Heeds.apart {p : Service env α} (uses : p.Uses fun (o : Op) => o.reaches = .nobody) :
    Heeds container request (fun said' _ => said <+: said') said p :=
  Hears.apart uses vouchedFor_of_nobody

theorem Op.about.reaches {book : String → String → Prop} {who : Option String} {o : Op}
    (about : o.about book who) :
    o.reaches = .nobody ∨ ∃ accountId, who = some accountId ∧ o.reaches = .account accountId := by
  cases o with
  | accounts o =>
      cases o with
      | delete => exact absurd about id
      | _ => exact Or.inl rfl
  | profiles o =>
      cases o with
      | countForAccount => exact absurd about id
      | allProfiles => exact absurd about id
      | _ => exact Or.inr ⟨_, about, rfl⟩
  | secrets o => cases o <;> exact Or.inr ⟨_, about, rfl⟩
  | delegations o =>
      cases o with
      | forExchange => exact absurd about id
      | _ => exact Or.inr ⟨_, about, rfl⟩
  | issueState | acquire | release => exact Or.inr ⟨_, about, rfl⟩
  | redeemState | purgeStates => exact absurd about id
  | _ => exact Or.inl rfl

/-- A program that is about nobody. -/
theorem Heeds.acting {R : α → Prop} {p : Service env α} (acts : Acts anyone none R p) :
    Heeds container request (fun said' a => said <+: said' ∧ R a) said p := by
  refine Prog.Told.of_under_kept (K := (said <+: ·)) acts (List.prefix_refl said)
    fun o about said' more => ⟨?_, fun answer => ?_⟩
  · obtain apart | ⟨accountId, named, -⟩ := about.reaches
    · exact vouchedFor_of_nobody o apart said'
    · cases named
  · exact more.trans (List.prefix_append said' _)

theorem Heeds.speaking {p : Service env α} {accountId : String}
    (speaks : Speaks anyone (some accountId) p)
    (vouched : Vouched env container said request accountId) :
    Heeds container request (fun said' _ => said <+: said') said p := by
  refine Prog.Told.mono (fun said' a held => ?_) (Prog.Told.along
    (fun said' who => said <+: said' ∧ who = some accountId) speaks ⟨List.prefix_refl said, rfl⟩
    fun said' who o held agrees => ⟨?_, fun answer => ?_⟩)
  · obtain ⟨who, connected, -⟩ := held
    exact connected.1
  · obtain ⟨more, rfl⟩ := held
    rcases agrees with about | ⟨-, unnamed⟩
    · obtain apart | ⟨named, same, reaches⟩ := about.reaches
      · exact vouchedFor_of_nobody o apart said'
      · cases same
        change Vouches env container said' request o.reaches
        rw [reaches]
        exact .account (vouched.later more)
    · cases unnamed
  · obtain ⟨more, rfl⟩ := held
    exact ⟨more.trans (List.prefix_append said' _), rfl⟩

/-! ## Who is asking -/

theorem resolveSession_heeds (presented : String) :
    Heeds container request (fun said' session => SignedIn env said' presented session.accountId) said
      (AccountService.resolveSession env presented) := by
  refine Heeds.asks rfl fun now => ?_
  refine Heeds.store rfl fun answer found same => ?_
  subst same
  cases found with
  | none => trivial
  | some session =>
      refine Heeds.store rfl fun answer found same => ?_
      subst same
      cases found with
      | none => trivial
      | some account =>
          refine Hears.refuses fun active => ?_
          refine Heeds.asks rfl fun later => ?_
          change Hears _ _ _ _ (Prog.ofExcept (session.touched later _ none) >>= _)
          refine Hears.ofExcept fun refreshed touched => ?_
          obtain ⟨-, rfl⟩ := touched_eq_ok.mp touched
          refine Heeds.store rfl fun answer saved same => ?_
          refine @SignedIn.intro env _ presented _ now session account ?_ ?_ rfl ?_ (not_not.mp active)
          all_goals simp

theorem getActor_heeds {presented : String} {P : Said → α → Prop} {f : Actor → Service env α}
    (rest : ∀ said' actor, MayAct env container said' presented actor →
      Heeds container request P said' (f actor)) :
    Heeds container request P said (getActor env container.adminToken (some presented) >>= f) := by
  rw [getActor, bind_assoc]
  refine Hears.ofExcept fun glass compared => ?_
  cases glass with
  | true => exact rest said _ (.breakGlass (isBreakGlass_configured compared))
  | false =>
      rw [if_neg (by simp), bind_assoc]
      refine Prog.Told.bind (resolveSession_heeds presented) fun session said' signed => ?_
      rw [bind_assoc]
      refine Heeds.account fun found own => ?_
      cases found with
      | none => trivial
      | some account =>
          have owner := own account rfl
          dsimp only
          rw [actorFor, bind_assoc]
          refine Heeds.store rfl fun answer permissions same => ?_
          subst same
          refine rest _ _ (.account ?_ ?_ ?_)
          · rw [owner]
            exact signed.later (by simp)
          · simp [owner]
          · simp

theorem actingFor_heeds (service : String) (userToken : Option String) :
    Heeds container request (fun said' accountId => Delegated env said' userToken service accountId) said
      (Internal.actingFor env service userToken) := by
  cases userToken with
  | none => trivial
  | some token =>
      rw [Internal.actingFor, TokenSigner.verifyAccess]
      cases decoded : env.jwt.decode token with
      | none => trivial
      | some claims =>
          rw [bind_assoc]
          refine Hears.refuses fun fits => ?_
          rw [bind_assoc]
          refine Heeds.asks rfl fun now => ?_
          refine Prog.Told.bind (P := fun said' (verified : VerifiedAccessToken) =>
            Delegated env said' (some token) service verified.accountId) ?_ fun _ _ shown => shown
          refine Hears.refuses fun alive => ?_
          refine Hears.ofExcept fun expiresAt _ => ?_
          rw [not_or, not_not, not_not] at fits
          exact .intro rfl decoded fits.1 fits.2 rfl (List.mem_append_right _ (List.mem_singleton.mpr rfl))
            (lt_of_timestamp_lt (lt_of_not_ge alive))

theorem redeemAuthorization_heeds (state code : String) :
    Heeds container (.completeAuthorization state code)
      (fun said' binding =>
        Vouched env container said' (.completeAuthorization state code) binding.accountId) said
      (CredentialService.redeemAuthorization env state) := by
  refine Heeds.asks rfl fun now => Hears.asks (.flow rfl) fun answer => ?_
  cases answer with
  | none => trivial
  | some flow => exact Hears.refuses fun _ => .completeAuthorization (by simp)

/-! ## What is done for an account -/

theorem Op.modest.apart {o : Op} (modest : o.modest) : o.reaches = .nobody := by
  cases o with
  | accounts o =>
      cases o with
      | delete accountId => exact absurd modest id
      | _ => rfl
  | issueState stateHash flow => exact absurd modest id
  | redeemState stateHash => exact absurd modest id
  | purgeStates now => exact absurd modest id
  | profiles o => exact absurd modest id
  | secrets o => exact absurd modest id
  | delegations o => exact absurd modest id
  | acquire key => exact absurd modest id
  | release key => exact absurd modest id
  | _ => rfl

theorem AccountCall.prog_apart (c : AccountCall) (keeps : ∀ accountId, c ≠ .deleteAccount accountId) :
    (c.prog env).Uses fun (o : Op) => o.reaches = .nobody := by
  refine c.prog_uses (fun _ modest => modest.apart) fun o writes _ => ?_
  cases o with
  | accounts o =>
      cases o with
      | delete accountId =>
          cases c with
          | deleteAccount target => exact absurd rfl (keeps target)
          | _ => exact absurd writes id
      | _ => rfl
  | profiles o => cases c <;> exact absurd writes id
  | secrets o => cases c <;> exact absurd writes id
  | delegations o => cases c <;> exact absurd writes id
  | issueState stateHash flow => cases c <;> exact absurd writes id
  | redeemState stateHash => cases c <;> exact absurd writes id
  | purgeStates now => cases c <;> exact absurd writes id
  | acquire key => cases c <;> exact absurd writes id
  | release key => cases c <;> exact absurd writes id
  | _ => rfl

theorem Follows.calls (call : Call) {p : Service env γ} {answer : γ → Answer} {accountId : String}
    (asked : call.prog env = returning p answer) (subject : call.subject env = some accountId)
    (personal : call.personal) (vouched : Vouched env container said request accountId)
    {f : γ → Service env α}
    (rest : ∀ v said', said <+: said' → Follows container request said' (f v)) :
    Follows container request said (p >>= f) := by
  have speaks : Speaks anyone (call.subject env) (call.prog env) := call.prog_speaks personal
  rw [subject, asked] at speaks
  exact Prog.Told.bind (Heeds.speaking speaks.of_returning vouched) fun v said' more =>
    rest v said' more

theorem OwnCall.prog_follows (c : OwnCall) {presented : String} {account : Account}
    (signed : SignedIn env said presented account.accountId) :
    Follows container (.own (some presented) c) said (c.prog env account) := by
  have vouched : Vouched env container said (.own (some presented) c) account.accountId :=
    .own signed
  cases c with
  | logoutEverywhere => exact Heeds.store rfl fun _ _ _ => trivial
  | getCurrentAccount => trivial
  | issueServiceToken audience =>
      rw [OwnCall.prog, TokenSigner.issue, bind_assoc]
      refine Heeds.asks rfl fun now => ?_
      change Heeds container _ _ _ (Prog.ofExcept _ >>= _ >>= _)
      rw [bind_assoc]
      exact Hears.ofExcept fun _ _ => trivial
  | listProfiles =>
      exact Follows.calls (.credential (.listProfiles account.accountId)) rfl rfl trivial
        vouched fun _ _ _ => trivial
  | createProfile name =>
      exact Follows.calls (.credential (.createProfile account.accountId name)) rfl rfl
        trivial vouched fun _ _ _ => trivial
  | getProfile name =>
      refine Follows.calls (.credential (.getProfile account.accountId name)) rfl rfl trivial
        vouched fun profile said' more => ?_
      exact Follows.calls (.delegation (.listGrants account.accountId _)) rfl rfl trivial
        (vouched.later more) fun _ _ _ => trivial
  | deleteProfile name password =>
      exact Follows.calls (.change (.removeProfile account.accountId name _)) rfl rfl trivial
        vouched fun _ _ _ => Hears.refuses fun _ => trivial
  | putApiKey name service apiKey header template inQuery queryName password =>
      exact Follows.calls (.change (.storeDirect account.accountId name service _ _ _ _)) rfl
        rfl trivial vouched fun _ _ _ => trivial
  | putPassword name service username secret totpSeed password =>
      exact Follows.calls (.change (.storeDirect account.accountId name service _ _ _ _)) rfl
        rfl trivial vouched fun _ _ _ => trivial
  | authorizeConnection name service password =>
      exact Follows.calls (.change (.beginAuthorization account.accountId name service _ _))
        rfl rfl trivial vouched fun _ _ _ => trivial
  | deleteConnection name service password =>
      exact Follows.calls (.change (.removeConnection account.accountId name service _)) rfl
        rfl trivial vouched fun _ _ _ => Hears.refuses fun _ => trivial
  | createOfflineGrant name service audiences ttlSeconds =>
      exact Follows.calls (.delegation (.create account.accountId name service audiences _))
        rfl rfl trivial vouched fun _ _ _ => trivial
  | listOfflineGrants name =>
      exact Follows.calls (.delegation (.listGrants account.accountId name)) rfl rfl trivial
        vouched fun _ _ _ => trivial
  | revokeOfflineGrant name grantId =>
      exact Follows.calls (.delegation (.revoke account.accountId name grantId)) rfl rfl
        trivial vouched fun _ _ _ => trivial

theorem exchange_follows {credentials : Option String} {service audience : String} {ttlSeconds : Int}
    {userToken grantId : Option String}
    (asked : request = .exchangeUserToken credentials userToken audience ttlSeconds grantId)
    (identified : container.serviceAuthenticator.identify credentials = .ok service) :
    Follows container request said
      (DelegationService.exchange env service audience ttlSeconds userToken grantId) := by
  refine Hears.refuses fun one => Hears.ofExcept fun _ _ => ?_
  refine Prog.Told.bind (P := fun _ _ => True) ?_ fun found said' _ => ?_
  · cases userToken with
    | some token =>
        refine Prog.Told.bind (Heeds.acting (verifyAccess_acts token service)) fun _ _ _ => trivial
    | none =>
        cases grantId with
        | none => exact absurd rfl one
        | some grantId =>
            refine Hears.store (.grant asked identified) fun answer grant _ => ?_
            cases grant with
            | none => trivial
            | some grant => exact Hears.refuses fun _ => trivial
  · refine Heeds.account fun account _ => ?_
    cases account with
    | none => trivial
    | some account =>
        refine Hears.refuses fun _ => ?_
        exact Heeds.follows (Heeds.acting (Acts.of_uses (DelegationService.mint_about _ _ _ _ _ _)))

theorem internal_follows (c : InternalCall) {presented service : String} (userToken : Option String)
    (identified : container.serviceAuthenticator.identify (some presented) = .ok service) :
    Follows container (.internal (some presented) userToken c) said
      ((Call.internal service userToken c).prog env) := by
  refine Prog.Told.bind (actingFor_heeds service userToken) fun accountId said' delegated => ?_
  exact Heeds.follows (Heeds.speaking (c.run_speaks service) (.internal identified delegated))

/-! ## What an administrator does -/

section Administering

variable {actor : Actor} {presented : String}

theorem checkCanActOn_heeds {accountId : String} {f : Account → Unit → Service env α}
    {P : Said → α → Prop}
    (rest : ∀ account said', said <+: said' → Heeds container request P said' (f account ())) :
    Heeds container request P said (AdminService.requireAccount env accountId >>= fun account =>
      AdminService.checkCanActOn env actor account >>= f account) := by
  refine Prog.Told.bind (Heeds.apart (AdminService.requireAccount_uses
    (fun _ modest => modest.apart) accountId)) fun account said' more => ?_
  refine Prog.Told.bind (Heeds.apart (AdminService.checkCanActOn_uses
    (fun _ modest => modest.apart) actor account)) fun _ said'' further => ?_
  exact rest account said'' (more.trans further)

theorem record_follows (action : AuditAction) (targetId : Option String) (detail : String) :
    Follows container request said (AdminService.record env actor action targetId detail) :=
  Heeds.follows (Heeds.apart (AdminService.record_uses (fun _ modest => modest.apart) (fun _ => rfl)
    actor action targetId detail))

theorem AdminCall.prog_apart (c : AdminCall) (apart : c.reach = none) :
    (c.prog env actor).Uses fun (o : Op) => o.reaches = .nobody := by
  have looks : c.looks → ∀ o : Op, o.quiet → o.reaches = .nobody := by
    intro looks
    cases c with
    | listProfiles accountId => cases apart
    | deleteProfile accountId name => cases apart
    | _ => exact absurd looks id
  refine c.prog_uses (fun _ modest => modest.apart) looks actor fun o writes _ => ?_
  cases o with
  | accounts o =>
      cases o with
      | delete accountId =>
          cases c with
          | deleteAccount target => cases apart
          | _ => exact absurd writes id
      | _ => rfl
  | profiles o =>
      cases c with
      | deleteProfile accountId name => cases apart
      | _ => exact absurd writes id
  | secrets o =>
      cases c with
      | deleteProfile accountId name => cases apart
      | _ => exact absurd writes id
  | delegations o => cases c <;> exact absurd writes id
  | issueState stateHash flow => cases c <;> exact absurd writes id
  | redeemState stateHash => cases c <;> exact absurd writes id
  | purgeStates now => cases c <;> exact absurd writes id
  | acquire key => cases c <;> exact absurd writes id
  | release key => cases c <;> exact absurd writes id
  | _ => rfl

/-- An administrator reaches what one permission allows, of the account that it names. -/
theorem AdminCall.prog_follows (c : AdminCall)
    (permitted : MayAct env container said presented actor) :
    Follows container (.admin (some presented) c) said (c.prog env actor) := by
  by_cases apart : c.reach = none
  · exact Heeds.follows (Heeds.apart (c.prog_apart apart))
  · cases c with
    | listProfiles accountId =>
        refine Prog.Told.bind (P := fun _ _ => True) ?_ fun _ _ _ => trivial
        refine Hears.ofExcept fun _ allowed => ?_
        have vouched := Vouched.admin (c := .listProfiles accountId) permitted rfl
          (Actor.require_ok.mp allowed)
        refine Prog.Told.bind (Heeds.apart (AdminService.requireAccount_uses
          (fun _ modest => modest.apart) accountId)) fun account said' more => ?_
        have listing : (CredentialService.listProfiles env accountId).Uses
            (Op.about anyone (some accountId)) := profileStore_uses rfl
        exact Heeds.follows (Heeds.speaking (Acts.of_uses listing).speaks (vouched.later more))
    | deleteAccount accountId =>
        refine Prog.Told.bind (P := fun _ _ => True) ?_ fun _ _ _ => trivial
        refine Hears.ofExcept fun _ allowed => ?_
        have vouched := Vouched.admin (c := .deleteAccount accountId) permitted rfl
          (Actor.require_ok.mp allowed)
        refine checkCanActOn_heeds fun account said' more => ?_
        refine Hears.asks (.account (vouched.later more)) fun answer => ?_
        · cases answer with
          | error e => trivial
          | ok removed => exact record_follows _ _ _
    | deleteProfile accountId name =>
        refine Prog.Told.bind (P := fun _ _ => True) ?_ fun _ _ _ => trivial
        refine Hears.ofExcept fun _ allowed => ?_
        have vouched := Vouched.admin (c := .deleteProfile accountId name) permitted rfl
          (Actor.require_ok.mp allowed)
        refine checkCanActOn_heeds fun account said' more => ?_
        refine Prog.Told.bind (Heeds.speaking (Acts.speaks (P := fun _ => True) ?_)
          (vouched.later more)) fun removed said'' _ => Hears.refuses fun _ => record_follows _ _ _
        exact Prog.Under.tryCatch (CredentialChanges.removeProfile_acts _ _) fun e => by
          cases e <;> trivial
    | _ => exact absurd rfl apart

end Administering

/-! ## Every request -/

theorem Follows.account (call : AccountCall) {p : Service env γ} {answer : γ → Answer}
    (asked : call.prog env = returning p answer) (keeps : ∀ accountId, call ≠ .deleteAccount accountId)
    {f : γ → Service env Reply} (rest : ∀ v said', Follows container request said' (f v)) :
    Follows container request said (p >>= f) := by
  have told : Heeds container request (fun said' _ => said <+: said') said (call.prog env) :=
    Heeds.apart (call.prog_apart keeps)
  rw [asked] at told
  exact Hears.of_returning told rest

theorem Request.prog_follows (request : Request) :
    Follows container request [] (request.prog env container) := by
  cases request with
  | login email password caller =>
      exact Follows.account (.login email password caller) rfl nofun fun _ _ => trivial
  | redeemInvite token password caller =>
      exact Follows.account (.redeemInvite token password caller) rfl nofun fun _ _ => trivial
  | requestPasswordReset email caller =>
      exact Follows.account (.requestPasswordReset email caller) rfl nofun fun _ _ => trivial
  | redeemPasswordReset token password caller =>
      exact Follows.account (.redeemPasswordReset token password caller) rfl nofun fun _ _ => trivial
  | completeAuthorization state code =>
      refine Prog.Told.bind (P := fun _ _ => True) ?_ fun _ _ _ => trivial
      refine Prog.Told.bind (redeemAuthorization_heeds state code) fun binding said' vouched => ?_
      exact Heeds.follows (Heeds.speaking (finishing_speaks binding code) vouched)
  | checkReadiness =>
      refine Heeds.asks rfl fun now => Hears.store (.everybody rfl) fun _ profiles _ => ?_
      exact Heeds.store rfl fun _ accounts _ => trivial
  | session credentials c =>
      cases credentials with
      | none => trivial
      | some presented =>
          refine Prog.Told.bind (resolveSession_heeds presented) fun session said' _ => ?_
          cases c with
          | logout => exact Heeds.store rfl fun _ _ _ => trivial
          | changePassword currentPassword newPassword =>
              exact Follows.account (.changePassword session.accountId currentPassword newPassword
                (some session.sessionId)) rfl nofun fun _ _ => trivial
  | own credentials c =>
      cases credentials with
      | none => trivial
      | some presented =>
          refine Prog.Told.bind (resolveSession_heeds presented) fun session said' signed => ?_
          rw [getCurrentAccount, bind_assoc]
          refine Heeds.account fun found own => ?_
          cases found with
          | none => trivial
          | some account =>
              refine c.prog_follows ?_
              rw [own account rfl]
              exact signed.later (List.prefix_append said' _)
  | exchangeUserToken credentials userToken audience ttlSeconds grantId =>
      refine Hears.ofExcept fun service identified => ?_
      exact Prog.Told.bind (exchange_follows rfl identified) fun _ _ _ => trivial
  | internal credentials userToken c =>
      refine Hears.ofExcept fun service identified => ?_
      cases credentials with
      | none => cases identified
      | some presented =>
          exact Prog.Told.bind (internal_follows c userToken identified) fun _ _ _ => trivial
  | admin credentials c =>
      cases credentials with
      | none => trivial
      | some presented =>
          refine getActor_heeds fun said' actor permitted => ?_
          refine Prog.Told.bind (c.prog_follows permitted) fun answer said'' _ => ?_
          cases answer with
          | accounts accounts => exact Heeds.asks rfl fun _ => trivial
          | account account => exact Heeds.asks rfl fun _ => trivial
          | issued grant => cases grant <;> trivial
          | _ => trivial
  | listPermissions credentials =>
      cases credentials with
      | none => trivial
      | some presented =>
          exact getActor_heeds fun said' actor _ => Hears.ofExcept fun _ _ => trivial

section Runs

variable {w : World} {requests : List Request} {d : Config (machine env) Error Reply}

/-- In every run of HTTP requests, a step that reaches what somebody has stored belongs
to a request that may: it had been answered, before this step, what vouches for the
account, or it is one of the three that reach without naming an account. -/
theorem credentials_vouched {early late : List (Event (machine env))} {e : Event (machine env)}
    (run : Run (serve env container w requests) (early ++ e :: late) d) :
    ∃ request, requests[e.thread]? = some request ∧
      Vouches env container ((ofThread e.thread early).map fun e => ⟨e.op, e.ans⟩) request
        e.op.reaches :=
  Hears.of_run (fun request => Request.prog_follows request) (fun _ _ _ => trivial) run

end Runs

open Scenario in
theorem credentials_vouched_home :
    homeRun.2[18]?.map (·.op.reaches) = some (.account "bob") ∧
      ∃ request, homeRequests[1]? = some request ∧
        Vouches deployment frontDesk ((ofThread 1 (homeRun.2.take 18)).map fun e => ⟨e.op, e.ans⟩)
          request (.account "bob") := by
  have reached : homeRun.2[18]?.map (fun e => (e.thread, e.op.reaches)) =
      some (1, .account "bob") := by rfl
  obtain ⟨e, here, same⟩ := Option.map_eq_some_iff.mp reached
  obtain ⟨bound, at18⟩ := List.getElem?_eq_some_iff.mp here
  have split : homeRun.2 = homeRun.2.take 18 ++ e :: homeRun.2.drop 19 := by
    rw [← at18, List.getElem_cons_drop, List.take_append_drop]
  have run := Config.play_run (M := machine deployment) (serve deployment frontDesk office homeRequests)
    (List.replicate 10 (0, given 1 "tok") ++ List.replicate 9 (1, given 2 "d1"))
  rw [Prod.mk.injEq] at same
  have vouched := credentials_vouched (split ▸ run)
  rw [same.1, same.2] at vouched
  exact ⟨by rw [here, Option.map_some, same.2], vouched⟩

end Keyring

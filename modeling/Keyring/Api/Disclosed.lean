import Keyring.Api.Vouched
import Keyring.Credentials.Silent

/-!
# Where secrets go

A secret is opened for no route but the two that resolve, and for the names that were
asked for.  A provider is sent the code of a callback that it was bound to when consent
was asked for, or the refresh token that is stored for its own service.
-/

set_option autoImplicit false

namespace Keyring

open Interleave Relational

/-- Under these names a request asks what to attach, or what to type. -/
inductive Solicits (env : Env) : Request → (profile service : String) → Prop where
  | credential {credentials userToken : Option String} {name connection profile service : String}
      (named : normalizeProfileName env.text name = .ok profile)
      (connected : normalizeServiceName env.text connection = .ok service) :
      Solicits env (.internal credentials userToken (.resolveCredential name connection)) profile service
  | formSecrets {credentials userToken : Option String} {name connection profile service : String}
      (named : normalizeProfileName env.text name = .ok profile)
      (connected : normalizeServiceName env.text connection = .ok service) :
      Solicits env (.internal credentials userToken (.resolveFormSecrets name connection)) profile service

/-- The secret was read under these names, and the master key opens it. -/
inductive Opened (env : Env) (said : Said) (profile service : String) (secret : Secret) : Prop where
  | intro {accountId master : String} {envelope : Envelope}
      (read : ⟨.secrets (.get accountId profile service), .ok (some envelope)⟩ ∈ said)
      (key : env.master = some master) (opened : openEnvelope envelope master = .ok secret)

/-- How the deployment identifies itself to a provider. -/
def OAuthProvider.identification (provider : OAuthProvider) : List (String × String) :=
  [("client_id", provider.clientId), ("client_secret", provider.clientSecret)]

/-- What a request that was answered `said` may send to the provider of a service. -/
inductive Sends (env : Env) (said : Said) : Request → String → List (String × String) → Prop where
  | code {state code : String} {flow : OAuthFlow} {provider : OAuthProvider}
      (redeemed : ⟨.redeemState (env.hashToken state), some flow⟩ ∈ said)
      (configured : provider ∈ env.providers) (bound : provider.service = flow.binding.service) :
      Sends env said (.completeAuthorization state code) flow.binding.service
        ([("grant_type", "authorization_code"), ("code", code),
          ("redirect_uri", flow.binding.redirectUri)] ++ provider.identification)
  | refreshToken {credentials userToken : Option String} {name connection profile service token : String}
      {secret : Secret} {provider : OAuthProvider}
      (named : normalizeProfileName env.text name = .ok profile)
      (connected : normalizeServiceName env.text connection = .ok service)
      (opened : Opened env said profile service secret)
      (held : secret.get "refresh_token" = some (.str token))
      (configured : provider ∈ env.providers) (bound : provider.service = service) :
      Sends env said (.internal credentials userToken (.resolveCredential name connection)) service
        ([("grant_type", "refresh_token"), ("refresh_token", token)] ++ provider.identification)

/-- What a step of a request discloses to it, or to a provider. -/
structure Disclosing (env : Env) (request : Request) (said : Said) (o : Op) : Prop where
  opens : ∀ accountId profile service, o = .secrets (.get accountId profile service) →
    Solicits env request profile service
  sends : ∀ service form, o = .post service form → Sends env said request service form

variable {env : Env} {container : Container} {request : Request} {I : World → Prop} {said : Said}
  {α β : Type}

theorem disclosing_of_silent (o : Op) (silent : o.silent) (said : Said) :
    Disclosing env request said o := by
  constructor
  · rintro accountId profile service rfl
    exact absurd silent id
  · rintro service form rfl
    exact absurd silent id

/-- A request, or a part of one, that discloses what it may. -/
abbrev Discloses (request : Request) (I : World → Prop) (said : Said) (p : Service env α) : Prop :=
  Hears (Disclosing env request) I (fun _ _ => True) said p

theorem Discloses.silent {p : Service env α} (uses : p.Uses Op.silent) : Discloses request I said p :=
  Prog.Told.mono (fun _ _ _ => trivial) (Hears.apart uses disclosing_of_silent)

theorem Discloses.after {p : Service env α} {f : α → Service env β} (uses : p.Uses Op.silent)
    (rest : ∀ a said', said <+: said' → Discloses request I said' (f a)) :
    Discloses request I said (p >>= f) :=
  Prog.Told.bind (Hears.apart uses disclosing_of_silent) fun a said' more =>
    rest a said' more

theorem asks_silently {P : Said → α → Prop} {o : Op} {f : o.Ans → Service env α} (silent : o.silent)
    (rest : ∀ answer, Hears (Disclosing env request) I P (said ++ [⟨o, answer⟩]) (f answer)) :
    Hears (Disclosing env request) I P said (.call o f) :=
  Hears.asks (disclosing_of_silent o silent said) rest

theorem Opened.later {said' : Said} (more : said <+: said') {profile service : String} {secret : Secret}
    (opened : Opened env said profile service secret) : Opened env said' profile service secret := by
  cases opened with
  | intro read key opened => exact .intro (more.subset read) key opened

/-! ## What a provider is sent -/

theorem post_discloses {provider : OAuthProvider} {form : List (String × String)}
    (sends : Sends env said request provider.service (form ++ provider.identification)) :
    Discloses request I said (TokenEndpoint.post env provider form) := by
  have asked : Discloses request I said
      (@ask env (.post provider.service (form ++ provider.identification))) := by
    refine Hears.asks ⟨nofun, fun service form' same => ?_⟩ fun _ => trivial
    cases same
    exact sends
  refine Prog.Told.bind asked fun response said' _ => Discloses.silent ?_
  cases response with
  | unreachable => trivial
  | answered status body =>
      dsimp only
      split
      · exact Prog.Uses.bind (ofExcept_uses _) fun _ => trivial
      · exact ofExcept_uses _

theorem providerFor_configured {service : String} {provider : OAuthProvider}
    (found : CredentialService.providerFor env service = .ok provider) :
    provider ∈ env.providers ∧ provider.service = service := by
  unfold CredentialService.providerFor at found
  split at found
  · rename_i listed
    cases found
    exact ⟨List.mem_of_find?_eq_some listed, by simpa using List.find?_some listed⟩
  · cases found

theorem finishAuthorization_discloses {state code : String} {flow : OAuthFlow}
    (redeemed : ⟨.redeemState (env.hashToken state), some flow⟩ ∈ said) :
    Discloses (.completeAuthorization state code) I said
      (CredentialService.finishAuthorization env flow.binding code) := by
  refine Discloses.after (profileStore_uses trivial) fun found said' more => ?_
  cases found with
  | none => trivial
  | some profile =>
      refine Hears.ofExcept fun provider listed => ?_
      obtain ⟨configured, bound⟩ := providerFor_configured listed
      refine Prog.Told.bind (post_discloses ?_) fun secret _ _ =>
        Discloses.silent (CredentialService.storeOauthSecret_silent _ _ _ _)
      rw [bound]
      exact .code (more.subset redeemed) configured bound

theorem completeAuthorization_discloses (state code : String) :
    Discloses (.completeAuthorization state code) I said
      (CredentialChanges.completeAuthorization env state code) := by
  refine Prog.Told.bind (P := fun said' binding => ∃ flow : OAuthFlow, binding = flow.binding ∧
    ⟨.redeemState (env.hashToken state), some flow⟩ ∈ said') ?_ fun binding said' redeemed => ?_
  · refine asks_silently trivial fun now => ?_
    refine asks_silently trivial fun answer => ?_
    cases answer with
    | none => trivial
    | some flow => exact Hears.refuses fun _ => ⟨flow, rfl, by simp⟩
  · obtain ⟨flow, rfl, redeemed⟩ := redeemed
    refine Discloses.after (preferencesFor_uses trivial) fun preferences said'' more => ?_
    refine Prog.Told.bind (finishAuthorization_discloses (more.subset redeemed)) fun _ _ _ => ?_
    exact Discloses.silent (Prog.Uses.bind (CredentialChanges.announce_silent _ _) fun _ => trivial)

/-! ## What a service asks for -/

theorem getProfile_hears (accountId name : String) :
    Hears (Disclosing env request) I (fun said' profile => said <+: said' ∧
      normalizeProfileName env.text name = .ok profile.name ∧ profile.accountId = accountId) said
      (CredentialService.getProfile env accountId name) := by
  refine Hears.ofExcept fun normalized named => ?_
  refine ⟨disclosing_of_silent (.profiles (.get accountId normalized)) trivial said, fun w x answer w' _ done => ?_⟩
  have read : exec env (.profiles (.get accountId normalized)) x w = some (answer, w') := done
  rcases onDb_cases read with ⟨found, rfl, committed⟩ | ⟨⟨e, rfl⟩, -⟩
  · obtain ⟨found', -⟩ := ProfileOp.get_ok committed
    rw [found']
    cases stored : readProfile w.db accountId normalized with
    | none => trivial
    | some profile =>
        rw [readProfile, Option.map_eq_some_iff] at stored
        obtain ⟨row, stored, rfl⟩ := stored
        have key := (Table.find?_eq_some.mp stored).2
        cases key
        exact ⟨List.prefix_append said _, named, rfl⟩
  · trivial

/-- What is loaded was opened under the names that were asked for. -/
structure Loaded (env : Env) (said : Said) (accountId name connection : String)
    (loaded : Profile × Connection × Secret) : Prop where
  own : loaded.1.accountId = accountId
  named : normalizeProfileName env.text name = .ok loaded.1.name
  connected : normalizeServiceName env.text connection = .ok loaded.2.1.service
  opened : Opened env said loaded.1.name loaded.2.1.service loaded.2.2

theorem getSecret_hears {accountId profile service : String}
    (resolves : Solicits env request profile service) :
    Hears (Disclosing env request) I (fun said' found => said <+: said' ∧ ∀ secret, found = some secret →
      Opened env said' profile service secret) said (getSecret env accountId profile service) := by
  refine Hears.ofExcept fun master key => ?_
  have configured : env.master = some master := by
    cases some : env.master with
    | none =>
        rw [some] at key
        cases key
    | some other =>
        rw [some] at key
        cases key
        rfl
  refine Hears.store ⟨fun _ _ _ same => ?_, nofun⟩ fun answer found answered => ?_
  · cases same
    exact resolves
  · cases answered
    cases found with
    | none => exact ⟨List.prefix_append said _, nofun⟩
    | some envelope =>
        refine Hears.ofExcept fun secret opened => ⟨List.prefix_append said _, ?_⟩
        rintro _ ⟨⟩
        exact @Opened.intro env _ _ _ _ accountId master envelope (by simp) configured opened

theorem load_hears {accountId name connection : String}
    (resolves : ∀ profile service, normalizeProfileName env.text name = .ok profile →
      normalizeServiceName env.text connection = .ok service → Solicits env request profile service) :
    Hears (Disclosing env request) I (Loaded env · accountId name connection) said
      (CredentialService.load env accountId name connection) := by
  refine Prog.Told.bind (getProfile_hears accountId name) fun profile said' read => ?_
  obtain ⟨-, named, own⟩ := read
  refine Hears.ofExcept fun service connected => ?_
  cases listed : profile.connection service with
  | none => trivial
  | some held =>
      obtain rfl := Profile.connection_service listed
      refine Hears.refuses fun _ => ?_
      refine Prog.Told.bind (getSecret_hears (resolves _ _ named connected)) fun found said'' opened => ?_
      cases found with
      | none => trivial
      | some secret => exact ⟨own, named, connected, opened.2 secret rfl⟩

theorem Loaded.later {said' : Said} (more : said <+: said') {accountId name connection : String}
    {loaded : Profile × Connection × Secret} (held : Loaded env said accountId name connection loaded) :
    Loaded env said' accountId name connection loaded :=
  { held with opened := held.opened.later more }

section Resolving

variable {credentials userToken : Option String} {accountId name connection : String}
  {profile : Profile} {held : Connection} {secret : Secret}

theorem renew_discloses (loaded : Loaded env said accountId name connection (profile, held, secret)) :
    Discloses (.internal credentials userToken (.resolveCredential name connection)) I said
      (CredentialService.renew env profile held secret) := by
  have failing : ∀ reason (e : Error), ((CredentialService.recordFailure env profile held reason >>=
      fun _ => throw e : Service env Secret)).Uses Op.silent := fun reason e =>
    Prog.Uses.bind (CredentialService.recordFailure_silent _ _ _) fun _ => trivial
  unfold CredentialService.renew
  split
  · exact Discloses.silent (failing _ _)
  · exact Discloses.silent (failing _ _)
  · rename_i token _ stored
    refine Hears.ofExcept fun provider listed => ?_
    obtain ⟨configured, bound⟩ := providerFor_configured listed
    have kept : secret.get "refresh_token" = some (.str token) := by
      obtain ⟨value, found, string⟩ := Option.bind_eq_some_iff.mp stored
      cases value with
      | str text =>
          cases string
          exact found
      | _ => cases string
    refine Prog.Told.bind (P := fun _ _ => True) (Prog.Told.tryCatch ?_ fun e said' => ?_)
      fun renewed said' _ => Discloses.silent ?_
    · refine Prog.Told.bind (post_discloses ?_) fun _ _ _ => trivial
      rw [bound]
      exact .refreshToken loaded.named loaded.connected loaded.opened kept configured bound
    · apply Discloses.silent
      split
      · exact failing _ _
      · trivial
    · refine Prog.Uses.bind (profileStore_uses trivial) fun stillThere => ?_
      refine Prog.Uses.bind (refuseIf_uses _ _) fun _ => ?_
      exact Prog.Uses.bind (CredentialService.storeOauthSecret_silent _ _ _ _) fun _ => trivial

theorem refresh_discloses (loaded : Loaded env said accountId name connection (profile, held, secret)) :
    Discloses (.internal credentials userToken (.resolveCredential name connection)) I said
      (CredentialService.refresh env profile held secret) := by
  refine Discloses.after (ask_uses trivial) fun _ said' more => ?_
  refine Prog.Told.finallyDo (P := fun _ _ => True) ?_ fun said' =>
    disclosing_of_silent (.release _) trivial said'
  refine Prog.Told.bind (getSecret_hears (.credential loaded.named loaded.connected))
    fun found said'' opened => ?_
  have renews : Discloses (.internal credentials userToken (.resolveCredential name connection)) I
      said'' (CredentialService.renew env profile held secret) :=
    renew_discloses (loaded.later (more.trans opened.1))
  cases found with
  | none => exact renews
  | some stored =>
      dsimp only
      split
      · trivial
      · exact renews

/-- What may be attached was opened under the names of the request. -/
def HttpAuth.Opened (env : Env) (said : Said) (accountId name connection : String) : HttpAuth → Prop
  | .apiKey _ => True
  | .oauth2 profile held secret _ => Loaded env said accountId name connection (profile, held, secret)

theorem resolveHttpAuth_hears :
    Hears (Disclosing env (.internal credentials userToken (.resolveCredential name connection))) I
      (fun said' auth => auth.Opened env said' accountId name connection) said
      (CredentialService.resolveHttpAuth env accountId name connection) := by
  refine Prog.Told.bind (load_hears fun _ _ named connected => .credential named connected)
    fun loaded said' opened => ?_
  obtain ⟨profile, held, secret⟩ := loaded
  dsimp only
  split
  · trivial
  · refine Prog.Told.bind (Hears.apart (ask_uses trivial) disclosing_of_silent) fun now said'' more => ?_
    exact opened.later more
  · trivial

theorem resolveCredential_discloses :
    Discloses (.internal credentials userToken (.resolveCredential name connection)) I said
      (Internal.resolveCredential env accountId name connection) := by
  refine Prog.Told.bind resolveHttpAuth_hears fun auth said' opened => ?_
  refine Prog.Told.bind (P := fun _ _ => True) ?_ fun headers said'' _ => ?_
  · cases auth with
    | apiKey secret => exact Discloses.silent (ofExcept_uses _)
    | oauth2 profile held secret needsRefresh =>
        refine Prog.Told.bind (P := fun _ _ => True) ?_ fun _ _ _ => Discloses.silent (ofExcept_uses _)
        split
        · exact refresh_discloses opened
        · trivial
  · refine Hears.ofExcept fun params _ => Discloses.silent (Prog.Uses.bind ?_ fun _ => trivial)
    cases auth with
    | apiKey secret => trivial
    | oauth2 profile held secret needsRefresh =>
        exact Prog.Uses.bind (CredentialService.getProfile_silent _ _) fun _ => trivial

theorem resolveFormSecrets_discloses :
    Discloses (.internal credentials userToken (.resolveFormSecrets name connection)) I said
      (Internal.resolveFormSecrets env accountId name connection) := by
  refine Prog.Told.bind (P := fun _ _ => True) ?_ fun secret said' _ =>
    Discloses.silent (formFields_silent secret)
  refine Prog.Told.bind (load_hears fun _ _ named connected => .formSecrets named connected)
    fun loaded said' _ => ?_
  exact Hears.refuses fun _ => trivial

end Resolving

/-! ## Every request -/

theorem AccountCall.prog_silent (c : AccountCall) : (c.prog env).Uses Op.silent := by
  refine c.prog_uses modest_silent fun o writes _ => ?_
  cases o with
  | secrets o => cases c <;> exact absurd writes id
  | post service form => cases c <;> exact absurd writes id
  | _ => trivial

theorem AdminCall.prog_silent (c : AdminCall) (actor : Actor) : (c.prog env actor).Uses Op.silent := by
  by_cases looks : c.looks
  · cases c with
    | listProfiles accountId =>
        refine returning_uses (Prog.Uses.bind (ofExcept_uses _) fun _ => ?_)
        refine Prog.Uses.bind (AdminService.requireAccount_uses modest_silent accountId) fun _ => ?_
        exact profileStore_uses trivial
    | deleteProfile accountId name =>
        refine returning_uses (Prog.Uses.bind (ofExcept_uses _) fun _ => ?_)
        refine Prog.Uses.bind (AdminService.requireAccount_uses modest_silent accountId) fun target => ?_
        refine Prog.Uses.bind (AdminService.checkCanActOn_uses modest_silent actor target) fun _ => ?_
        refine Prog.Uses.bind (Prog.Uses.tryCatch
          (CredentialChanges.removeProfile_silent _ _ _) fun e => ?_) fun removed => ?_
        · cases e <;> trivial
        · refine Prog.Uses.bind (refuseIf_uses _ _) fun _ => ?_
          exact AdminService.record_uses modest_silent (fun _ => trivial) _ _ _ _
    | _ => exact absurd looks id
  · refine c.prog_uses modest_silent (fun here => absurd here looks) actor fun o writes _ => ?_
    cases o with
    | secrets o =>
        cases c with
        | deleteProfile accountId name => exact absurd trivial looks
        | _ => exact absurd writes id
    | post service form => cases c <;> exact absurd writes id
    | _ => trivial

theorem OwnCall.prog_silent (c : OwnCall) (account : Account) : (c.prog env account).Uses Op.silent := by
  cases c with
  | logoutEverywhere => exact Prog.Uses.bind (sessionStore_uses trivial) fun _ => trivial
  | getCurrentAccount => trivial
  | issueServiceToken audience =>
      refine Prog.Uses.bind (Prog.Uses.bind (ask_uses trivial) fun _ => ?_) fun _ => trivial
      exact Prog.Uses.bind (ofExcept_uses _) fun _ => trivial
  | listProfiles => exact Prog.Uses.bind (profileStore_uses trivial) fun _ => trivial
  | createProfile name =>
      exact Prog.Uses.bind (CredentialService.createProfile_silent _ _) fun _ => trivial
  | getProfile name =>
      refine Prog.Uses.bind (CredentialService.getProfile_silent _ _) fun profile => ?_
      exact Prog.Uses.bind (DelegationService.listGrants_silent _ _) fun _ => trivial
  | deleteProfile name password =>
      refine Prog.Uses.bind (CredentialChanges.removeProfile_silent _ _ _) fun removed => ?_
      exact Prog.Uses.bind (refuseIf_uses _ _) fun _ => trivial
  | putApiKey name service apiKey header template inQuery queryName password =>
      exact Prog.Uses.bind (CredentialChanges.storeDirect_silent _ _ _ _ _ _ _) fun _ => trivial
  | putPassword name service username secret totpSeed password =>
      exact Prog.Uses.bind (CredentialChanges.storeDirect_silent _ _ _ _ _ _ _) fun _ => trivial
  | authorizeConnection name service password =>
      exact Prog.Uses.bind (CredentialChanges.beginAuthorization_silent _ _ _ _ _) fun _ => trivial
  | deleteConnection name service password =>
      refine Prog.Uses.bind (CredentialChanges.removeConnection_silent _ _ _ _) fun removed => ?_
      exact Prog.Uses.bind (refuseIf_uses _ _) fun _ => trivial
  | createOfflineGrant name service audiences ttlSeconds =>
      exact Prog.Uses.bind (DelegationService.create_silent _ _ _ _ _ _) fun _ => trivial
  | listOfflineGrants name =>
      exact Prog.Uses.bind (DelegationService.listGrants_silent _ _) fun _ => trivial
  | revokeOfflineGrant name grantId =>
      exact Prog.Uses.bind (DelegationService.revoke_silent _ _ _) fun _ => trivial

theorem resolveSession_silent (token : String) :
    (AccountService.resolveSession env token).Uses Op.silent :=
  AccountService.resolveSession_writes modest_silent (fun _ => trivial) token

theorem getActor_silent (adminToken credentials : Option String) :
    (getActor env adminToken credentials).Uses Op.silent := by
  cases credentials with
  | none => trivial
  | some presented =>
      refine Prog.Uses.bind (ofExcept_uses _) fun glass => ?_
      split
      · trivial
      · refine Prog.Uses.bind (resolveSession_silent _) fun session => ?_
        refine Prog.Uses.bind (accountStore_uses trivial) fun found => ?_
        cases found with
        | none => trivial
        | some account => exact Prog.Uses.bind (roleStore_uses trivial) fun _ => trivial

theorem internal_discloses (c : InternalCall) (credentials userToken : Option String)
    (service : String) : Discloses (.internal credentials userToken c) I said
      ((Call.internal service userToken c).prog env) := by
  refine Discloses.after (Internal.actingFor_silent _ _) fun accountId said' _ => ?_
  cases c with
  | resolveCredential profile connection =>
      exact Prog.Told.bind resolveCredential_discloses fun _ _ _ => trivial
  | resolveFormSecrets profile connection =>
      exact Prog.Told.bind resolveFormSecrets_discloses fun _ _ _ => trivial
  | describeProfile name =>
      exact Discloses.silent (returning_uses (Internal.describeProfile_silent _ _))
  | authorizeConnection name connection =>
      exact Discloses.silent (returning_uses (CredentialChanges.beginAuthorization_silent _ _ _ _ _))
  | deleteConnection name connection =>
      refine Discloses.silent (returning_uses ?_)
      exact Prog.Uses.bind (CredentialChanges.removeConnection_silent _ _ _ _) fun _ =>
        refuseIf_uses _ _
  | createGrant name audiences ttlSeconds =>
      exact Discloses.silent (returning_uses (DelegationService.create_silent _ _ _ _ _ _))
  | revokeGrant name grantId =>
      exact Discloses.silent (returning_uses (DelegationService.revokeForService_silent _ _ _ _))

theorem Discloses.account (call : AccountCall) {p : Service env α} {answer : α → Answer}
    (asked : call.prog env = returning p answer) {f : α → Service env β}
    (rest : ∀ v, (f v).Uses Op.silent) : Discloses request I said (p >>= f) := by
  have told : Discloses request I said (call.prog env) := Discloses.silent call.prog_silent
  rw [asked] at told
  exact Hears.of_returning told fun v _ => Discloses.silent (rest v)

theorem Request.prog_discloses (request : Request) :
    Discloses request I [] (request.prog env container) := by
  cases request with
  | login email password caller =>
      exact Discloses.account (.login email password caller) rfl fun _ => trivial
  | redeemInvite token password caller =>
      exact Discloses.account (.redeemInvite token password caller) rfl fun _ => trivial
  | requestPasswordReset email caller =>
      exact Discloses.account (.requestPasswordReset email caller) rfl fun _ => trivial
  | redeemPasswordReset token password caller =>
      exact Discloses.account (.redeemPasswordReset token password caller) rfl fun _ => trivial
  | completeAuthorization state code =>
      exact Prog.Told.bind (completeAuthorization_discloses state code) fun _ _ _ => trivial
  | checkReadiness =>
      refine Discloses.silent (Prog.Uses.bind (ask_uses trivial) fun now => ?_)
      refine Prog.Uses.bind (profileStore_uses trivial) fun profiles => ?_
      exact Prog.Uses.bind (accountStore_uses trivial) fun _ => trivial
  | session credentials c =>
      cases credentials with
      | none => trivial
      | some presented =>
          refine Discloses.after (resolveSession_silent _) fun session said' _ => ?_
          cases c with
          | logout =>
              exact Discloses.silent (Prog.Uses.bind (sessionStore_uses trivial) fun _ => trivial)
          | changePassword currentPassword newPassword =>
              exact Discloses.account (.changePassword session.accountId currentPassword newPassword
                (some session.sessionId)) rfl fun _ => trivial
  | own credentials c =>
      cases credentials with
      | none => trivial
      | some presented =>
          refine Discloses.after (resolveSession_silent _) fun session said' _ => ?_
          refine Discloses.after (Prog.Uses.bind (accountStore_uses trivial) fun found => ?_)
            fun account said'' _ => Discloses.silent (c.prog_silent account)
          cases found <;> trivial
  | exchangeUserToken credentials userToken audience ttlSeconds grantId =>
      refine Hears.ofExcept fun service _ => Discloses.silent ?_
      exact Prog.Uses.bind (DelegationService.exchange_silent _ _ _ _ _) fun _ => trivial
  | internal credentials userToken c =>
      refine Hears.ofExcept fun service _ => ?_
      exact Prog.Told.bind (internal_discloses c credentials userToken service) fun _ _ _ => trivial
  | admin credentials c =>
      refine Discloses.silent (Prog.Uses.bind (getActor_silent _ _) fun actor => ?_)
      refine Prog.Uses.bind (c.prog_silent actor) fun answer => ?_
      cases answer with
      | accounts accounts => exact Prog.Uses.bind (ask_uses trivial) fun _ => trivial
      | account account => exact Prog.Uses.bind (ask_uses trivial) fun _ => trivial
      | issued grant => cases grant <;> trivial
      | _ => trivial
  | listPermissions credentials =>
      refine Discloses.silent (Prog.Uses.bind (getActor_silent _ _) fun actor => ?_)
      exact Prog.Uses.bind (ofExcept_uses _) fun _ => trivial

/-- In every run of HTTP requests, a step that opens a secret, or sends something to a
provider, belongs to a request that may: the account is the one of its user token, the
names are those that it asked for, and each provider is sent only its own. -/
theorem secrets_disclosed {w : World} {requests : List Request} {d : Config (machine env) Error Reply}
    {early late : List (Event (machine env))} {e : Event (machine env)}
    (run : Run (serve env container w requests) (early ++ e :: late) d) :
    ∃ request, requests[e.thread]? = some request ∧
      (∀ accountId profile service, e.op = .secrets (.get accountId profile service) →
        Solicits env request profile service ∧
        Vouched env container ((ofThread e.thread early).map fun e => ⟨e.op, e.ans⟩) request
          accountId) ∧
      ∀ service form, e.op = .post service form →
        Sends env ((ofThread e.thread early).map fun e => ⟨e.op, e.ans⟩) request service form := by
  obtain ⟨request, asked, disclosing⟩ := Hears.of_run
    (fun request => Request.prog_discloses (I := fun _ => True) request) (fun _ => trivial) run
  obtain ⟨request', asked', vouches⟩ :=
    Hears.of_run (fun request => Request.prog_follows request) (fun _ _ _ => trivial) run
  obtain rfl := Option.some.inj (asked.symm.trans asked')
  refine ⟨request, asked, fun accountId profile service opens => ?_, disclosing.sends⟩
  have reaches : e.op.reaches = .account accountId := by rw [opens]; rfl
  have vouches : Vouches env container ((ofThread e.thread early).map fun e => ⟨e.op, e.ans⟩) request
      e.op.reaches := vouches
  rw [reaches] at vouches
  cases vouches with
  | account vouched => exact ⟨disclosing.opens accountId profile service opens, vouched⟩

/-! ## Lucy attaches what Bob has stored -/

namespace Scenario

/-- Lucy acts for Bob, whose access token has ended. -/
def lucyRequests : List Request :=
  [.internal (some "lucy's own token")
    (some (encodeClaims ⟨settings.issuer, "bob", "lucy", 0, 7200⟩)) (.resolveCredential "home" "spotify")]

def renewed : Input :=
  { given (seconds 3600) "k" with
    response := .answered 200 (some (.obj [("access_token", .str "access1")])) }

def lucyRun : Config (machine deployment) Error Reply × List (Event (machine deployment)) :=
  (serve deployment frontDesk connectedOffice lucyRequests).play (List.replicate 15 (0, renewed))

def posted : Op → Option (String × List (String × String))
  | .post service form => some (service, form)
  | _ => none

theorem posted_some {op : Op} {service : String} {form : List (String × String)}
    (posts : posted op = some (service, form)) : op = .post service form := by
  unfold posted at posts
  split at posts
  · cases posts
    rfl
  · cases posts

theorem secrets_disclosed_lucy : ∃ request, lucyRequests[0]? = some request ∧
    Sends deployment ((ofThread 0 (lucyRun.2.take 6)).map fun e => ⟨e.op, e.ans⟩) request "spotify"
      [("grant_type", "refresh_token"), ("refresh_token", "refresh0"), ("client_id", "client"),
        ("client_secret", "secret")] := by
  have bound : 6 < lucyRun.2.length := by decide +kernel
  have split : lucyRun.2 = lucyRun.2.take 6 ++ lucyRun.2[6] :: lucyRun.2.drop 7 := by
    rw [List.getElem_cons_drop, List.take_append_drop]
  have run := Config.play_run (M := machine deployment)
    (serve deployment frontDesk connectedOffice lucyRequests) (List.replicate 15 (0, renewed))
  obtain ⟨request, asked, -, sends⟩ := secrets_disclosed (split ▸ run)
  have sent : (lucyRun.2.map fun e => (e.thread, posted e.op))[6]? = some (0, some ("spotify",
      [("grant_type", "refresh_token"), ("refresh_token", "refresh0"), ("client_id", "client"),
        ("client_secret", "secret")])) := by decide +kernel
  rw [List.getElem?_map, List.getElem?_eq_getElem bound, Option.map_some, Option.some.injEq,
    Prod.mk.injEq] at sent
  rw [sent.1] at asked sends
  exact ⟨request, asked, sends "spotify" _ (posted_some sent.2)⟩

end Scenario

end Keyring

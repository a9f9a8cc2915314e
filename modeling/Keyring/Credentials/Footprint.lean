import Keyring.Accounts.Footprint
import Keyring.Api.Internal

/-!
# What the requests on credentials may write

`calm` allows the steps that only read, and `quiet` all that change no row; every
other step that a function can take is a hypothesis of its own.  A provider is
reached, and a renewal lock taken, by steps that change no row.
-/

set_option autoImplicit false

namespace Keyring

open Interleave

/-- A step that reads rows, a clock or some randomness, and does nothing else. -/
def Op.calm : Op → Prop
  | .monotonic | .record _ _ _ _ _ | .reset _ _ | .purgeAttempts _ | .preferences _ | .post _ _
  | .issueState _ _ | .redeemState _ | .purgeStates _ | .acquire _ | .release _ => False
  | o => o.idle

theorem Op.calm.quiet {o : Op} (calm : o.calm) : o.quiet := by
  cases o with
  | now => trivial
  | draw => trivial
  | urandom => trivial
  | monotonic => trivial
  | record scope caller now limit width => trivial
  | reset scope caller => trivial
  | purgeAttempts cutoff => trivial
  | preferences accountId => trivial
  | post service form => trivial
  | issueState stateHash flow => exact absurd calm id
  | redeemState stateHash => trivial
  | purgeStates now => trivial
  | acquire key => trivial
  | release key => trivial
  | _ => exact calm

variable {env : Env} {allowed : Op → Prop}

theorem calm_of_quiet (quiet : ∀ o, o.quiet → allowed o) (o : Op) (calm : o.calm) : allowed o :=
  quiet o calm.quiet

/-! ## Reading, storing and removing -/

section Calm

variable (calm : ∀ o, o.calm → allowed o)
include calm

theorem getSecret_uses (accountId profile service : String) :
    (getSecret env accountId profile service).Uses allowed := by
  refine Prog.Uses.bind (ofExcept_uses _) fun master => ?_
  refine Prog.Uses.bind (secretStore_uses (calm _ trivial)) fun found => ?_
  cases found with
  | none => trivial
  | some envelope => exact Prog.Uses.bind (ofExcept_uses _) fun _ => trivial

theorem putSecret_uses {accountId profile service : String}
    (seals : ∀ envelope now, allowed (.secrets (.put accountId profile service envelope now)))
    (secret : Secret) : (putSecret env accountId profile service secret).Uses allowed := by
  refine Prog.Uses.bind (ofExcept_uses _) fun master => ?_
  refine Prog.Uses.bind (ask_uses (calm _ trivial)) fun entropy => ?_
  refine Prog.Uses.bind (ask_uses (calm _ trivial)) fun now => ?_
  exact secretStore_uses (seals _ _)

omit calm in
theorem TokenEndpoint.post_uses {field : String × String} {more : List (String × String)}
    (posts : ∀ service more, allowed (.post service (field :: more))) (provider : OAuthProvider) :
    (TokenEndpoint.post env provider (field :: more)).Uses allowed := by
  refine Prog.Uses.bind (ask_uses (posts _ _)) fun response => ?_
  cases response with
  | unreachable => trivial
  | answered status body =>
      dsimp only
      split
      · exact Prog.Uses.bind (ofExcept_uses _) fun _ => trivial
      · exact ofExcept_uses _

omit calm in
theorem TokenEndpoint.refresh_uses
    (posts : ∀ service more, allowed (.post service (("grant_type", "refresh_token") :: more)))
    (provider : OAuthProvider) (refreshToken : String) :
    (TokenEndpoint.refresh env provider refreshToken).Uses allowed :=
  Prog.Uses.bind (TokenEndpoint.post_uses posts _) fun _ => trivial

namespace CredentialService

omit calm in
theorem putConnection_uses {profile : Profile} {connection : Connection}
    (puts : ∀ now, allowed (.profiles
      (.putConnection profile.accountId profile.name connection
        env.settings.maxConnectionsPerProfile now))) (now : Instant) :
    (putConnection env profile connection now).Uses allowed := by
  refine Prog.Uses.tryCatch (profileStore_uses (puts _)) fun e => ?_
  cases e <;> trivial

theorem getProfile_uses (accountId name : String) :
    (getProfile env accountId name).Uses allowed := by
  refine Prog.Uses.bind (ofExcept_uses _) fun normalized => ?_
  refine Prog.Uses.bind (profileStore_uses (calm _ trivial)) fun found => ?_
  cases found <;> trivial

theorem storeOauthSecret_uses {profile : Profile} {service : String}
    (puts : ∀ connection now, connection.service = service → allowed (.profiles
      (.putConnection profile.accountId profile.name connection
        env.settings.maxConnectionsPerProfile now)))
    (seals : ∀ envelope now,
      allowed (.secrets (.put profile.accountId profile.name service envelope now)))
    (secret : Secret) (provider : OAuthProvider) :
    (storeOauthSecret env profile service secret provider).Uses allowed := by
  refine Prog.Uses.bind (ofExcept_uses _) fun _ => ?_
  refine Prog.Uses.bind (ask_uses (calm _ trivial)) fun now => ?_
  refine Prog.Uses.bind (ofExcept_uses _) fun expiresAt => ?_
  refine Prog.Uses.bind (putConnection_uses (fun now => puts _ now rfl) now) fun stored => ?_
  exact Prog.Uses.bind (putSecret_uses calm seals secret) fun _ => trivial

theorem recordFailure_uses {profile : Profile} {connection : Connection}
    (puts : ∀ failed now, failed.service = connection.service → allowed (.profiles
      (.putConnection profile.accountId profile.name failed
        env.settings.maxConnectionsPerProfile now)))
    (reason : String) :
    (recordFailure env profile connection reason).Uses allowed := by
  refine Prog.Uses.bind (ask_uses (calm _ trivial)) fun now => ?_
  refine Prog.Uses.bind (putConnection_uses (fun at_ => ?_) now) fun _ => trivial
  exact puts (connection.withError reason now) at_ rfl

section Renew

variable {profile : Profile} {connection : Connection}
  (posts : ∀ service more, allowed (.post service (("grant_type", "refresh_token") :: more)))
  (puts : ∀ written now, written.service = connection.service → allowed (.profiles
    (.putConnection profile.accountId profile.name written
      env.settings.maxConnectionsPerProfile now)))
  (seals : ∀ envelope now,
    allowed (.secrets (.put profile.accountId profile.name connection.service envelope now)))
include posts puts seals

theorem renew_uses (secret : Secret) : (renew env profile connection secret).Uses allowed := by
  have failing : ∀ reason (e : Error),
      ((recordFailure env profile connection reason >>= fun _ => throw e : Service env Secret)).Uses
        allowed := fun reason e =>
    Prog.Uses.bind (recordFailure_uses calm puts reason) fun _ => trivial
  unfold renew
  split
  · exact failing _ _
  · exact failing _ _
  · rename_i refreshToken _ _
    refine Prog.Uses.bind (ofExcept_uses _) fun provider => ?_
    refine Prog.Uses.bind (Prog.Uses.tryCatch (TokenEndpoint.refresh_uses posts _ _) fun e => ?_)
      fun renewed => ?_
    · split
      · exact failing _ _
      · trivial
    · refine Prog.Uses.bind (profileStore_uses (calm _ trivial)) fun stillThere => ?_
      refine Prog.Uses.bind (refuseIf_uses _ _) fun _ => ?_
      exact Prog.Uses.bind (storeOauthSecret_uses calm puts seals renewed provider) fun _ => trivial

theorem renewOnce_uses (secret : Secret) :
    (renewOnce env profile connection secret).Uses allowed := by
  refine Prog.Uses.bind (getSecret_uses calm _ _ _) fun found => ?_
  cases found with
  | none => exact renew_uses calm posts puts seals secret
  | some stored =>
      dsimp only
      split
      · trivial
      · exact renew_uses calm posts puts seals secret

end Renew

theorem load_uses (accountId profileName serviceName : String) :
    (load env accountId profileName serviceName).Uses allowed := by
  refine Prog.Uses.bind (getProfile_uses calm _ _) fun profile => ?_
  refine Prog.Uses.bind (ofExcept_uses _) fun service => ?_
  split
  · trivial
  · refine Prog.Uses.bind (refuseIf_uses _ _) fun _ => ?_
    refine Prog.Uses.bind (getSecret_uses calm _ _ _) fun found => ?_
    cases found <;> trivial

theorem createProfile_uses {accountId : String}
    (adds : ∀ profile, profile.accountId = accountId → profile.connections = [] →
      allowed (.profiles (.add profile env.settings.maxProfilesPerAccount))) (name : String) :
    (createProfile env accountId name).Uses allowed := by
  refine Prog.Uses.bind (ofExcept_uses _) fun normalized => ?_
  refine Prog.Uses.bind (ask_uses (calm _ trivial)) fun now => ?_
  refine Prog.Uses.bind (ask_uses (calm _ trivial)) fun hex => ?_
  exact Prog.Uses.bind (profileStore_uses (adds _ rfl rfl)) fun _ => trivial

omit calm in
theorem deleteProfile_uses {accountId : String}
    (deletes : ∀ name, allowed (.profiles (.delete accountId name)))
    (clears : ∀ name, allowed (.secrets (.deleteProfile accountId name))) (name : String) :
    (deleteProfile env accountId name).Uses allowed := by
  refine Prog.Uses.bind (ofExcept_uses _) fun normalized => ?_
  refine Prog.Uses.bind (profileStore_uses (deletes _)) fun existed => ?_
  split
  · exact Prog.Uses.bind (secretStore_uses (clears _)) fun _ => trivial
  · trivial

section Puts

variable (puts : ∀ accountId name connection now,
    allowed (.profiles (.putConnection accountId name connection
      env.settings.maxConnectionsPerProfile now)))
include puts

theorem beginAuthorization_uses
    (issues : ∀ stateHash flow, allowed (.issueState stateHash flow))
    (accountId profileName serviceName redirectUri : String) :
    (beginAuthorization env accountId profileName serviceName redirectUri).Uses allowed := by
  refine Prog.Uses.bind (getProfile_uses calm _ _) fun profile => ?_
  refine Prog.Uses.bind (ofExcept_uses _) fun service => ?_
  refine Prog.Uses.bind (ofExcept_uses _) fun provider => ?_
  refine Prog.Uses.bind (ask_uses (calm _ trivial)) fun state => ?_
  refine Prog.Uses.bind (ask_uses (calm _ trivial)) fun issued => ?_
  refine Prog.Uses.bind (ask_uses (issues _ _)) fun _ => ?_
  refine Prog.Uses.bind (ask_uses (calm _ trivial)) fun now => ?_
  refine Prog.Uses.bind ?_ fun _ => trivial
  split
  · trivial
  · exact putConnection_uses (fun now => puts _ _ _ now) _

variable (seals : ∀ accountId profile service envelope now,
    allowed (.secrets (.put accountId profile service envelope now)))
include seals

theorem putDirectCredential_uses (accountId profileName serviceName : String)
    (kind : CredentialKind) (secret : Secret) (storesTotpSeed : Bool) :
    (putDirectCredential env accountId profileName serviceName kind secret storesTotpSeed).Uses
      allowed := by
  refine Prog.Uses.bind (getProfile_uses calm _ _) fun profile => ?_
  refine Prog.Uses.bind (ofExcept_uses _) fun service => ?_
  refine Prog.Uses.bind (ofExcept_uses _) fun _ => ?_
  refine Prog.Uses.bind (ask_uses (calm _ trivial)) fun now => ?_
  refine Prog.Uses.bind (putConnection_uses (fun now => puts _ _ _ now) _) fun stored => ?_
  exact Prog.Uses.bind (putSecret_uses calm (fun envelope now => seals _ _ _ envelope now) secret)
    fun _ => trivial

theorem finishAuthorization_uses
    (posts : ∀ service more, allowed (.post service (("grant_type", "authorization_code") :: more)))
    (binding : FlowBinding) (code : String) :
    (finishAuthorization env binding code).Uses allowed := by
  refine Prog.Uses.bind (profileStore_uses (calm _ trivial)) fun found => ?_
  cases found with
  | none => trivial
  | some profile =>
      refine Prog.Uses.bind (ofExcept_uses _) fun provider => ?_
      refine Prog.Uses.bind (TokenEndpoint.post_uses posts _) fun secret => ?_
      exact storeOauthSecret_uses calm (fun connection now _ => puts _ _ connection now)
        (fun envelope now => seals _ _ _ envelope now) secret provider

end Puts

theorem redeemAuthorization_uses (redeems : ∀ stateHash, allowed (.redeemState stateHash))
    (state : String) : (redeemAuthorization env state).Uses allowed := by
  refine Prog.Uses.bind (ask_uses (calm _ trivial)) fun now => ?_
  refine Prog.Uses.bind (ask_uses (redeems _)) fun flow => ?_
  split
  · exact Prog.Uses.bind (refuseIf_uses _ _) fun _ => trivial
  · trivial

theorem resolveHttpAuth_uses (accountId profileName serviceName : String) :
    (resolveHttpAuth env accountId profileName serviceName).Uses allowed := by
  refine Prog.Uses.bind (load_uses calm _ _ _) fun loaded => ?_
  obtain ⟨profile, connection, secret⟩ := loaded
  dsimp only
  split
  · trivial
  · exact Prog.Uses.bind (ask_uses (calm _ trivial)) fun now => trivial
  · trivial

theorem resolveFormSecrets_uses (accountId profileName serviceName : String) :
    (resolveFormSecrets env accountId profileName serviceName).Uses allowed := by
  refine Prog.Uses.bind (load_uses calm _ _ _) fun loaded => ?_
  obtain ⟨profile, connection, secret⟩ := loaded
  exact Prog.Uses.bind (refuseIf_uses _ _) fun _ => trivial

theorem revokeConnection_uses
    (unseals : ∀ accountId profile service, allowed (.secrets (.delete accountId profile service)))
    (removes : ∀ accountId name service now,
      allowed (.profiles (.removeConnection accountId name service now)))
    (accountId profileName serviceName : String) :
    (revokeConnection env accountId profileName serviceName).Uses allowed := by
  refine Prog.Uses.bind (getProfile_uses calm _ _) fun profile => ?_
  refine Prog.Uses.bind (ofExcept_uses _) fun service => ?_
  split
  · trivial
  · refine Prog.Uses.bind (secretStore_uses (unseals _ _ _)) fun _ => ?_
    refine Prog.Uses.bind (ask_uses (calm _ trivial)) fun now => ?_
    exact Prog.Uses.bind (profileStore_uses (removes _ _ _ _)) fun _ => trivial

end CredentialService

theorem CredentialChanges.announce_uses (accountId : String) (preferences : Preferences) :
    (CredentialChanges.announce env accountId preferences).Uses allowed := by
  rw [CredentialChanges.announce]
  split
  · refine Prog.Uses.bind (accountStore_uses (calm _ trivial)) fun found => ?_
    cases found with
    | none => trivial
    | some account => exact Prog.Uses.bind (ask_uses (calm _ trivial)) fun _ => trivial
  · trivial

end Calm

/-! ## Reaching a provider, a lock or a flow in progress -/

variable (quiet : ∀ o, o.quiet → allowed o)
include quiet

namespace CredentialService

theorem refresh_writes {profile : Profile} {connection : Connection}
    (puts : ∀ written now, written.service = connection.service → allowed (.profiles
      (.putConnection profile.accountId profile.name written
        env.settings.maxConnectionsPerProfile now)))
    (seals : ∀ envelope now,
      allowed (.secrets (.put profile.accountId profile.name connection.service envelope now)))
    (secret : Secret) : (refresh env profile connection secret).Uses allowed := by
  refine Prog.Uses.bind (ask_uses (quiet _ trivial)) fun _ => ?_
  refine Prog.Uses.finallyDo ?_ (quiet _ trivial)
  exact renewOnce_uses (calm_of_quiet quiet) (fun _ _ => quiet _ trivial) puts seals secret

theorem redeemAuthorization_writes (state : String) :
    (redeemAuthorization env state).Uses allowed :=
  redeemAuthorization_uses (calm_of_quiet quiet) (fun _ => quiet _ trivial) state

theorem sweepOnce_writes : (sweepOnce env).Uses allowed := by
  refine Prog.Uses.bind (ask_uses (quiet _ trivial)) fun now => ?_
  exact ask_uses (quiet _ trivial)

section Puts

variable (puts : ∀ accountId name connection now,
    allowed (.profiles (.putConnection accountId name connection
      env.settings.maxConnectionsPerProfile now)))
  (seals : ∀ accountId profile service envelope now,
    allowed (.secrets (.put accountId profile service envelope now)))
include puts seals

theorem finishAuthorization_writes (binding : FlowBinding) (code : String) :
    (finishAuthorization env binding code).Uses allowed :=
  finishAuthorization_uses (calm_of_quiet quiet) puts seals (fun _ _ => quiet _ trivial) binding code

theorem completeAuthorization_writes (state code : String) :
    (completeAuthorization env state code).Uses allowed :=
  Prog.Uses.bind (redeemAuthorization_writes quiet state) fun binding =>
    finishAuthorization_writes quiet puts seals binding code

theorem headers_writes (auth : HttpAuth) : (auth.headers env).Uses allowed := by
  cases auth with
  | apiKey secret => exact ofExcept_uses _
  | oauth2 profile connection secret needsRefresh =>
      refine Prog.Uses.bind ?_ fun current => ofExcept_uses _
      split
      · exact refresh_writes quiet (fun connection now _ => puts _ _ connection now)
          (fun envelope now => seals _ _ _ envelope now) secret
      · trivial

theorem resolveHeaders_writes (accountId profileName serviceName : String) :
    (resolveHeaders env accountId profileName serviceName).Uses allowed := by
  refine Prog.Uses.bind (resolveHttpAuth_uses (calm_of_quiet quiet) _ _ _) fun auth => ?_
  cases auth with
  | apiKey secret => trivial
  | oauth2 profile connection secret needsRefresh =>
      exact headers_writes quiet puts seals (.oauth2 profile connection secret needsRefresh)

end Puts

end CredentialService

/-! ## Behind the owner's settings -/

namespace CredentialChanges

variable {requester : Requester}
  (saves : requester.password ≠ none → ∀ copy, allowed (.accounts (.save copy)))
include saves

theorem admitted_writes (accountId : String) : (admitted env accountId requester).Uses allowed := by
  refine Prog.Uses.bind (preferencesFor_uses (quiet _ trivial)) fun preferences => ?_
  split
  · trivial
  · split
    · rename_i password sent
      refine Prog.Uses.bind ?_ fun _ => trivial
      exact AccountService.confirmPassword_writes (modest_of_quiet quiet) (saves (by simp [sent])) _ _
    · split <;> trivial

variable (puts : ∀ accountId name connection now,
    allowed (.profiles (.putConnection accountId name connection
      env.settings.maxConnectionsPerProfile now)))
  (seals : ∀ accountId profile service envelope now,
    allowed (.secrets (.put accountId profile service envelope now)))
  (unseals : ∀ accountId profile service, allowed (.secrets (.delete accountId profile service)))
  (removes : ∀ accountId name service now,
    allowed (.profiles (.removeConnection accountId name service now)))
  {accountId : String} (deletes : ∀ name, allowed (.profiles (.delete accountId name)))
  (clears : ∀ name, allowed (.secrets (.deleteProfile accountId name)))

include puts seals in
theorem storeDirect_writes (accountId profileName serviceName : String) (kind : CredentialKind)
    (secret : Secret) (storesTotpSeed : Bool) :
    (storeDirect env accountId profileName serviceName kind secret storesTotpSeed requester).Uses
      allowed := by
  refine Prog.Uses.bind (admitted_writes quiet saves _) fun preferences => ?_
  refine Prog.Uses.bind
    (CredentialService.putDirectCredential_uses (calm_of_quiet quiet) puts seals _ _ _ _ _ _) fun connection => ?_
  exact Prog.Uses.bind (announce_uses (calm_of_quiet quiet) _ _) fun _ => trivial

include puts in
theorem beginAuthorization_writes
    (issues : ∀ stateHash flow, allowed (.issueState stateHash flow))
    (accountId profileName serviceName redirectUri : String) :
    (beginAuthorization env accountId profileName serviceName redirectUri requester).Uses
      allowed := by
  refine Prog.Uses.bind (admitted_writes quiet saves _) fun _ => ?_
  exact CredentialService.beginAuthorization_uses (calm_of_quiet quiet) puts issues _ _ _ _

omit saves in
include puts seals in
theorem completeAuthorization_writes (state code : String) :
    (completeAuthorization env state code).Uses allowed := by
  refine Prog.Uses.bind (CredentialService.redeemAuthorization_writes quiet _) fun binding => ?_
  refine Prog.Uses.bind (preferencesFor_uses (quiet _ trivial)) fun preferences => ?_
  refine Prog.Uses.bind (CredentialService.finishAuthorization_writes quiet puts seals _ _)
    fun connection => ?_
  exact Prog.Uses.bind (announce_uses (calm_of_quiet quiet) _ _) fun _ => trivial

include unseals removes in
theorem removeConnection_writes (accountId profileName serviceName : String) :
    (removeConnection env accountId profileName serviceName requester).Uses allowed := by
  refine Prog.Uses.bind (admitted_writes quiet saves _) fun preferences => ?_
  refine Prog.Uses.bind
    (CredentialService.revokeConnection_uses (calm_of_quiet quiet) unseals removes _ _ _) fun removed => ?_
  refine Prog.Uses.bind ?_ fun _ => trivial
  split
  · exact announce_uses (calm_of_quiet quiet) _ _
  · trivial

include deletes clears in
theorem removeProfile_writes (name : String) :
    (removeProfile env accountId name requester).Uses allowed := by
  refine Prog.Uses.bind (Prog.Uses.tryCatch ?_ fun e => ?_) fun found => ?_
  · exact Prog.Uses.bind (CredentialService.getProfile_uses (calm_of_quiet quiet) _ _) fun _ => trivial
  · cases e <;> trivial
  · cases found with
    | none => trivial
    | some profile =>
        refine Prog.Uses.bind ?_ fun preferences => ?_
        · split
          · trivial
          · exact Prog.Uses.bind (admitted_writes quiet saves _) fun _ => trivial
        · refine Prog.Uses.bind
            (CredentialService.deleteProfile_uses deletes clears _) fun removed => ?_
          refine Prog.Uses.bind ?_ fun _ => trivial
          split
          · exact announce_uses (calm_of_quiet quiet) _ _
          · trivial

end CredentialChanges

/-! ## Delegation -/

omit quiet in
theorem delegationStore_uses {o : DelegationOp} (ok : allowed (.delegations o)) :
    (delegationStore o : Service env o.Ans).Uses allowed := ⟨ok, fun _ => trivial⟩

/-- What is recorded about consent, and about tokens exchanged on it. -/
def AuditAction.delegates : AuditAction → Prop
  | .delegationCreated | .delegationRevoked | .tokenExchanged => True
  | _ => False

/-- A step that records nothing else. -/
def Op.delegates : Op → Prop
  | .audit (.record entry) => entry.action.delegates
  | _ => True

omit quiet in
theorem Op.idle.delegates {o : Op} (idle : o.idle) : o.delegates := by
  cases o with
  | audit o => cases o <;> first | exact idle.elim | trivial
  | _ => trivial

namespace DelegationService

theorem requireProfile_writes (accountId profile : String) :
    (requireProfile env accountId profile).Uses allowed := by
  refine Prog.Uses.bind (profileStore_uses (quiet _ trivial)) fun found => ?_
  cases found <;> trivial

variable (records : ∀ entry : AuditEntry, entry.action.delegates → allowed (.audit (.record entry)))
include records

theorem record_writes (action : AuditAction) (delegates : action.delegates) (actorId : String)
    (targetId : Option String) (detail : String) :
    (record env action actorId targetId detail).Uses allowed := by
  refine Prog.Uses.bind (ask_uses (quiet _ trivial)) fun entryId => ?_
  exact Prog.Uses.bind (ask_uses (quiet _ trivial)) fun now => auditLog_uses (records _ delegates)

theorem create_writes {accountId : String}
    (grants : ∀ grant now, allowed (.delegations
      (.add grant env.settings.maxOfflineGrantsPerProfile now)))
    (profile service : String) (audiences : List String) (ttlSeconds : Int)
    (createdBy : Option String) :
    (create env accountId profile service audiences ttlSeconds createdBy).Uses allowed := by
  refine Prog.Uses.bind (requireProfile_writes quiet _ _) fun _ => ?_
  refine Prog.Uses.bind (ofExcept_uses _) fun _ => ?_
  refine Prog.Uses.bind (ask_uses (quiet _ trivial)) fun now => ?_
  refine Prog.Uses.bind (ask_uses (quiet _ trivial)) fun drawn => ?_
  refine Prog.Uses.bind (delegationStore_uses (grants _ _)) fun _ => ?_
  exact Prog.Uses.bind (record_writes quiet records .delegationCreated trivial _ _ _) fun _ => trivial

omit records in
theorem listGrants_writes (accountId profile : String) :
    (listGrants env accountId profile).Uses allowed := by
  refine Prog.Uses.bind (requireProfile_writes quiet _ _) fun _ => ?_
  exact delegationStore_uses (quiet _ trivial)

section Withdraw

variable (withdraws : ∀ accountId profile grantId now,
  allowed (.delegations (.revoke accountId profile grantId now)))
include withdraws

theorem withdraw_writes (accountId profile grantId detail : String) :
    (withdraw env accountId profile grantId detail).Uses allowed := by
  refine Prog.Uses.bind (ask_uses (quiet _ trivial)) fun now => ?_
  refine Prog.Uses.bind (delegationStore_uses (withdraws _ _ _ _)) fun revoked => ?_
  refine Prog.Uses.bind (refuseIf_uses _ _) fun _ => ?_
  exact record_writes quiet records .delegationRevoked trivial _ _ _

theorem revoke_writes (accountId profile grantId : String) :
    (revoke env accountId profile grantId).Uses allowed :=
  Prog.Uses.bind (requireProfile_writes quiet _ _) fun _ =>
    withdraw_writes quiet records withdraws _ _ _ _

theorem revokeForService_writes (accountId profile grantId service : String) :
    (revokeForService env accountId profile grantId service).Uses allowed := by
  refine Prog.Uses.bind (requireProfile_writes quiet _ _) fun _ => ?_
  refine Prog.Uses.bind (delegationStore_uses (quiet _ trivial)) fun grants => ?_
  refine Prog.Uses.bind (refuseIf_uses _ _) fun _ => ?_
  exact withdraw_writes quiet records withdraws _ _ _ _

end Withdraw

omit records in
theorem verifyAccess_writes (token audience : String) :
    (TokenSigner.verifyAccess env token audience).Uses allowed := by
  unfold TokenSigner.verifyAccess
  split
  · trivial
  · refine Prog.Uses.bind (refuseIf_uses _ _) fun _ => ?_
    refine Prog.Uses.bind (ask_uses (quiet _ trivial)) fun now => ?_
    refine Prog.Uses.bind (refuseIf_uses _ _) fun _ => ?_
    exact Prog.Uses.bind (ofExcept_uses _) fun _ => trivial

theorem exchange_writes (service audience : String) (ttlSeconds : Int)
    (userToken grantId : Option String) :
    (exchange env service audience ttlSeconds userToken grantId).Uses allowed := by
  refine Prog.Uses.bind (refuseIf_uses _ _) fun _ => ?_
  refine Prog.Uses.bind (ofExcept_uses _) fun _ => ?_
  refine Prog.Uses.bind ?_ fun authority => ?_
  · unfold authority
    split
    · exact Prog.Uses.bind (verifyAccess_writes quiet _ _) fun _ => trivial
    · refine Prog.Uses.bind (delegationStore_uses (quiet _ trivial)) fun found => ?_
      cases found with
      | none => trivial
      | some grant => exact Prog.Uses.bind (refuseIf_uses _ _) fun _ => trivial
  · refine Prog.Uses.bind (accountStore_uses (quiet _ trivial)) fun found => ?_
    cases found with
    | none => trivial
    | some account =>
        refine Prog.Uses.bind (refuseIf_uses _ _) fun _ => ?_
        refine Prog.Uses.bind (ask_uses (quiet _ trivial)) fun now => ?_
        refine Prog.Uses.bind (refuseIf_uses _ _) fun _ => ?_
        refine Prog.Uses.bind ?_ fun token => ?_
        · refine Prog.Uses.bind (ask_uses (quiet _ trivial)) fun _ => ?_
          exact Prog.Uses.bind (ofExcept_uses _) fun _ => trivial
        · refine Prog.Uses.bind (record_writes quiet records .tokenExchanged trivial _ _ _) fun _ => ?_
          exact Prog.Uses.bind (ofExcept_uses _) fun _ => trivial

end DelegationService

/-! ## The internal routes -/

theorem formFields_writes (secret : Secret) : (formFields env secret).Uses allowed := by
  refine Prog.Uses.bind (ofExcept_uses _) fun username => ?_
  refine Prog.Uses.bind (ofExcept_uses _) fun password => ?_
  split
  · trivial
  · trivial
  · refine Prog.Uses.bind (ask_uses (quiet _ trivial)) fun now => ?_
    split <;> trivial

namespace Internal

theorem actingFor_writes (service : String) (userToken : Option String) :
    (actingFor env service userToken).Uses allowed := by
  unfold actingFor
  split
  · trivial
  · exact Prog.Uses.bind (DelegationService.verifyAccess_writes quiet _ _) fun _ => trivial

theorem resolveCredential_writes
    (puts : ∀ accountId name connection now,
      allowed (.profiles (.putConnection accountId name connection
      env.settings.maxConnectionsPerProfile now)))
    (seals : ∀ accountId profile service envelope now,
      allowed (.secrets (.put accountId profile service envelope now)))
    (accountId profile service : String) :
    (resolveCredential env accountId profile service).Uses allowed := by
  refine Prog.Uses.bind (CredentialService.resolveHttpAuth_uses (calm_of_quiet quiet) _ _ _) fun auth => ?_
  refine Prog.Uses.bind (CredentialService.headers_writes quiet puts seals auth) fun headers => ?_
  refine Prog.Uses.bind (ofExcept_uses _) fun params => ?_
  refine Prog.Uses.bind ?_ fun expiresAt => trivial
  split
  · trivial
  · exact Prog.Uses.bind (CredentialService.getProfile_uses (calm_of_quiet quiet) _ _) fun _ => trivial

theorem resolveFormSecrets_writes (accountId profile service : String) :
    (resolveFormSecrets env accountId profile service).Uses allowed :=
  Prog.Uses.bind (CredentialService.resolveFormSecrets_uses (calm_of_quiet quiet) _ _ _) fun secret =>
    formFields_writes quiet secret

theorem describeProfile_writes (accountId name : String) :
    (describeProfile env accountId name).Uses allowed := by
  refine Prog.Uses.bind (accountStore_uses (quiet _ trivial)) fun found => ?_
  cases found with
  | none => trivial
  | some account =>
      refine Prog.Uses.bind (refuseIf_uses _ _) fun _ => ?_
      exact CredentialService.getProfile_uses (calm_of_quiet quiet) _ _

end Internal

end Keyring

import Keyring.Writes

/-!
# What leaves the vault closed

Most of what is done with credentials neither opens a secret nor sends anything to a
provider: profiles are named and described, secrets are stored and removed, and consent
is asked for and withdrawn, without looking at what is stored.
-/

set_option autoImplicit false

namespace Keyring

open Interleave

/-- A step that opens no secret, and sends nothing to a provider. -/
def Op.silent : Op → Prop
  | .secrets (.get _ _ _) | .post _ _ => False
  | _ => True

theorem Op.modest.silent {o : Op} (modest : o.modest) : o.silent := by
  cases o with
  | secrets o => exact absurd modest id
  | post service form => exact absurd modest id
  | _ => trivial

variable {env : Env}

theorem modest_silent (o : Op) (modest : o.modest) : o.silent := modest.silent

theorem putSecret_silent (accountId profile service : String) (secret : Secret) :
    (putSecret env accountId profile service secret).Uses Op.silent := by
  refine Prog.Uses.bind (ofExcept_uses _) fun master => ?_
  refine Prog.Uses.bind (ask_uses trivial) fun entropy => ?_
  refine Prog.Uses.bind (ask_uses trivial) fun now => ?_
  exact secretStore_uses trivial

namespace CredentialService

theorem getProfile_silent (accountId name : String) :
    (getProfile env accountId name).Uses Op.silent := by
  refine Prog.Uses.bind (ofExcept_uses _) fun normalized => ?_
  refine Prog.Uses.bind (profileStore_uses trivial) fun found => ?_
  cases found <;> trivial

theorem putConnection_silent (profile : Profile) (connection : Connection) (now : Instant) :
    (putConnection env profile connection now).Uses Op.silent :=
  putConnection_uses (fun _ => trivial) now

theorem storeOauthSecret_silent (profile : Profile) (service : String) (secret : Secret)
    (provider : OAuthProvider) :
    (storeOauthSecret env profile service secret provider).Uses Op.silent := by
  refine Prog.Uses.bind (ofExcept_uses _) fun _ => ?_
  refine Prog.Uses.bind (ask_uses trivial) fun now => ?_
  refine Prog.Uses.bind (ofExcept_uses _) fun expiresAt => ?_
  refine Prog.Uses.bind (putConnection_silent _ _ _) fun stored => ?_
  exact Prog.Uses.bind (putSecret_silent _ _ _ _) fun _ => trivial

theorem recordFailure_silent (profile : Profile) (connection : Connection) (reason : String) :
    (recordFailure env profile connection reason).Uses Op.silent := by
  refine Prog.Uses.bind (ask_uses trivial) fun now => ?_
  exact Prog.Uses.bind (putConnection_silent _ _ _) fun _ => trivial

theorem createProfile_silent (accountId name : String) :
    (createProfile env accountId name).Uses Op.silent := by
  refine Prog.Uses.bind (ofExcept_uses _) fun normalized => ?_
  refine Prog.Uses.bind (ask_uses trivial) fun now => ?_
  refine Prog.Uses.bind (ask_uses trivial) fun hex => ?_
  exact Prog.Uses.bind (profileStore_uses trivial) fun _ => trivial

theorem deleteProfile_silent (accountId name : String) :
    (deleteProfile env accountId name).Uses Op.silent :=
  deleteProfile_uses (fun _ => trivial) (fun _ => trivial) name

theorem putDirectCredential_silent (accountId profileName serviceName : String)
    (kind : CredentialKind) (secret : Secret) (storesTotpSeed : Bool) :
    (putDirectCredential env accountId profileName serviceName kind secret storesTotpSeed).Uses
      Op.silent := by
  refine Prog.Uses.bind (getProfile_silent _ _) fun profile => ?_
  refine Prog.Uses.bind (ofExcept_uses _) fun service => ?_
  refine Prog.Uses.bind (ofExcept_uses _) fun _ => ?_
  refine Prog.Uses.bind (ask_uses trivial) fun now => ?_
  refine Prog.Uses.bind (putConnection_silent _ _ _) fun stored => ?_
  exact Prog.Uses.bind (putSecret_silent _ _ _ _) fun _ => trivial

theorem beginAuthorization_silent (accountId profileName serviceName redirectUri : String) :
    (beginAuthorization env accountId profileName serviceName redirectUri).Uses Op.silent := by
  refine Prog.Uses.bind (getProfile_silent _ _) fun profile => ?_
  refine Prog.Uses.bind (ofExcept_uses _) fun service => ?_
  refine Prog.Uses.bind (ofExcept_uses _) fun provider => ?_
  refine Prog.Uses.bind (ask_uses trivial) fun state => ?_
  refine Prog.Uses.bind (ask_uses trivial) fun issued => ?_
  refine Prog.Uses.bind (ask_uses trivial) fun _ => ?_
  refine Prog.Uses.bind (ask_uses trivial) fun now => ?_
  refine Prog.Uses.bind ?_ fun _ => trivial
  split
  · trivial
  · exact putConnection_silent _ _ _

theorem revokeConnection_silent (accountId profileName serviceName : String) :
    (revokeConnection env accountId profileName serviceName).Uses Op.silent := by
  refine Prog.Uses.bind (getProfile_silent _ _) fun profile => ?_
  refine Prog.Uses.bind (ofExcept_uses _) fun service => ?_
  split
  · trivial
  · refine Prog.Uses.bind (secretStore_uses trivial) fun _ => ?_
    refine Prog.Uses.bind (ask_uses trivial) fun now => ?_
    exact Prog.Uses.bind (profileStore_uses trivial) fun _ => trivial

end CredentialService

namespace CredentialChanges

theorem admitted_silent (accountId : String) (requester : Requester) :
    (admitted env accountId requester).Uses Op.silent := by
  refine Prog.Uses.bind (preferencesFor_uses trivial) fun preferences => ?_
  split
  · trivial
  · split
    · exact Prog.Uses.bind (AccountService.confirmPassword_writes modest_silent (fun _ => trivial) _ _)
        fun _ => trivial
    · split <;> trivial

theorem announce_silent (accountId : String) (preferences : Preferences) :
    (announce env accountId preferences).Uses Op.silent := by
  rw [announce]
  split
  · refine Prog.Uses.bind (accountStore_uses trivial) fun found => ?_
    cases found with
    | none => trivial
    | some account => exact Prog.Uses.bind (ask_uses trivial) fun _ => trivial
  · trivial

theorem storeDirect_silent (accountId profileName serviceName : String) (kind : CredentialKind)
    (secret : Secret) (storesTotpSeed : Bool) (requester : Requester) :
    (storeDirect env accountId profileName serviceName kind secret storesTotpSeed requester).Uses
      Op.silent := by
  refine Prog.Uses.bind (admitted_silent _ _) fun preferences => ?_
  refine Prog.Uses.bind (CredentialService.putDirectCredential_silent _ _ _ _ _ _) fun connection => ?_
  exact Prog.Uses.bind (announce_silent _ _) fun _ => trivial

theorem beginAuthorization_silent (accountId profileName serviceName redirectUri : String)
    (requester : Requester) :
    (beginAuthorization env accountId profileName serviceName redirectUri requester).Uses Op.silent :=
  Prog.Uses.bind (admitted_silent _ _) fun _ =>
    CredentialService.beginAuthorization_silent _ _ _ _

theorem removeConnection_silent (accountId profileName serviceName : String) (requester : Requester) :
    (removeConnection env accountId profileName serviceName requester).Uses Op.silent := by
  refine Prog.Uses.bind (admitted_silent _ _) fun preferences => ?_
  refine Prog.Uses.bind (CredentialService.revokeConnection_silent _ _ _) fun removed => ?_
  refine Prog.Uses.bind ?_ fun _ => trivial
  split
  · exact announce_silent _ _
  · trivial

theorem removeProfile_silent (accountId name : String) (requester : Requester) :
    (removeProfile env accountId name requester).Uses Op.silent := by
  refine Prog.Uses.bind (Prog.Uses.tryCatch ?_ fun e => ?_) fun found => ?_
  · exact Prog.Uses.bind (CredentialService.getProfile_silent _ _) fun _ => trivial
  · cases e <;> trivial
  · cases found with
    | none => trivial
    | some profile =>
        refine Prog.Uses.bind ?_ fun preferences => ?_
        · split
          · trivial
          · exact Prog.Uses.bind (admitted_silent _ _) fun _ => trivial
        · refine Prog.Uses.bind (CredentialService.deleteProfile_silent _ _) fun removed => ?_
          refine Prog.Uses.bind ?_ fun _ => trivial
          split
          · exact announce_silent _ _
          · trivial

end CredentialChanges

namespace DelegationService

theorem requireProfile_silent (accountId profile : String) :
    (requireProfile env accountId profile).Uses Op.silent := by
  refine Prog.Uses.bind (profileStore_uses trivial) fun found => ?_
  cases found <;> trivial

theorem record_silent (action : AuditAction) (actorId : String) (targetId : Option String)
    (detail : String) : (record env action actorId targetId detail).Uses Op.silent := by
  refine Prog.Uses.bind (ask_uses trivial) fun entryId => ?_
  exact Prog.Uses.bind (ask_uses trivial) fun now => auditLog_uses trivial

theorem create_silent (accountId profile service : String) (audiences : List String)
    (ttlSeconds : Int) (createdBy : Option String) :
    (create env accountId profile service audiences ttlSeconds createdBy).Uses Op.silent := by
  refine Prog.Uses.bind (requireProfile_silent _ _) fun _ => ?_
  refine Prog.Uses.bind (ofExcept_uses _) fun _ => ?_
  refine Prog.Uses.bind (ask_uses trivial) fun now => ?_
  refine Prog.Uses.bind (ask_uses trivial) fun drawn => ?_
  refine Prog.Uses.bind (delegationStore_uses trivial) fun _ => ?_
  exact Prog.Uses.bind (record_silent _ _ _ _) fun _ => trivial

theorem listGrants_silent (accountId profile : String) :
    (listGrants env accountId profile).Uses Op.silent :=
  Prog.Uses.bind (requireProfile_silent _ _) fun _ => delegationStore_uses trivial

theorem withdraw_silent (accountId profile grantId detail : String) :
    (withdraw env accountId profile grantId detail).Uses Op.silent := by
  refine Prog.Uses.bind (ask_uses trivial) fun now => ?_
  refine Prog.Uses.bind (delegationStore_uses trivial) fun revoked => ?_
  exact Prog.Uses.bind (refuseIf_uses _ _) fun _ => record_silent _ _ _ _

theorem revoke_silent (accountId profile grantId : String) :
    (revoke env accountId profile grantId).Uses Op.silent :=
  Prog.Uses.bind (requireProfile_silent _ _) fun _ => withdraw_silent _ _ _ _

theorem revokeForService_silent (accountId profile grantId service : String) :
    (revokeForService env accountId profile grantId service).Uses Op.silent := by
  refine Prog.Uses.bind (requireProfile_silent _ _) fun _ => ?_
  refine Prog.Uses.bind (delegationStore_uses trivial) fun grants => ?_
  exact Prog.Uses.bind (refuseIf_uses _ _) fun _ => withdraw_silent _ _ _ _

theorem verifyAccess_silent (token audience : String) :
    (TokenSigner.verifyAccess env token audience).Uses Op.silent := by
  rw [TokenSigner.verifyAccess]
  split
  · trivial
  · refine Prog.Uses.bind (refuseIf_uses _ _) fun _ => ?_
    refine Prog.Uses.bind (ask_uses trivial) fun now => ?_
    refine Prog.Uses.bind (refuseIf_uses _ _) fun _ => ?_
    exact Prog.Uses.bind (ofExcept_uses _) fun _ => trivial

theorem exchange_silent (service audience : String) (ttlSeconds : Int)
    (userToken grantId : Option String) :
    (exchange env service audience ttlSeconds userToken grantId).Uses Op.silent := by
  refine Prog.Uses.bind (refuseIf_uses _ _) fun _ => ?_
  refine Prog.Uses.bind (ofExcept_uses _) fun _ => ?_
  refine Prog.Uses.bind ?_ fun named => ?_
  · unfold authority
    split
    · exact Prog.Uses.bind (verifyAccess_silent _ _) fun _ => trivial
    · refine Prog.Uses.bind (delegationStore_uses trivial) fun found => ?_
      cases found with
      | none => trivial
      | some grant => exact Prog.Uses.bind (refuseIf_uses _ _) fun _ => trivial
  · refine Prog.Uses.bind (accountStore_uses trivial) fun found => ?_
    cases found with
    | none => trivial
    | some account =>
        refine Prog.Uses.bind (refuseIf_uses _ _) fun _ => ?_
        refine Prog.Uses.bind (ask_uses trivial) fun now => ?_
        refine Prog.Uses.bind (refuseIf_uses _ _) fun _ => ?_
        refine Prog.Uses.bind (Prog.Uses.bind (ask_uses trivial) fun _ => ?_) fun token => ?_
        · exact Prog.Uses.bind (ofExcept_uses _) fun _ => trivial
        · refine Prog.Uses.bind (record_silent _ _ _ _) fun _ => ?_
          exact Prog.Uses.bind (ofExcept_uses _) fun _ => trivial

end DelegationService

theorem formFields_silent (secret : Secret) : (formFields env secret).Uses Op.silent := by
  refine Prog.Uses.bind (ofExcept_uses _) fun username => ?_
  refine Prog.Uses.bind (ofExcept_uses _) fun password => ?_
  split
  · trivial
  · trivial
  · refine Prog.Uses.bind (ask_uses trivial) fun now => ?_
    split <;> trivial

namespace Internal

theorem actingFor_silent (service : String) (userToken : Option String) :
    (actingFor env service userToken).Uses Op.silent := by
  unfold actingFor
  split
  · trivial
  · exact Prog.Uses.bind (DelegationService.verifyAccess_silent _ _) fun _ => trivial

theorem describeProfile_silent (accountId name : String) :
    (describeProfile env accountId name).Uses Op.silent := by
  refine Prog.Uses.bind (accountStore_uses trivial) fun found => ?_
  cases found with
  | none => trivial
  | some account =>
      exact Prog.Uses.bind (refuseIf_uses _ _) fun _ => CredentialService.getProfile_silent _ _

end Internal

end Keyring

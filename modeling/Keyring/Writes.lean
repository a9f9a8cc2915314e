import Keyring.Credentials.Footprint

/-!
# What each request can write

The steps of a request that can change a row, whatever is answered to it.
Every other step is quiet.
-/

set_option autoImplicit false

namespace Keyring

open Interleave

def AccountCall.writes : AccountCall → Op → Prop
  | issueInvite _, .grants (.add grant) => grant.purpose = .invite
  | redeemInvite _ _ _, .grants (.redeem _ _) => True
  | redeemInvite _ _ _, .accounts (.add _) => True
  | login _ _ _, .accounts (.save _) => True
  | login _ _ _, .sessions (.addWithinCap _ _) => True
  | resolveSession _, .sessions (.save _) => True
  | logout sessionId, .sessions (.revoke revoked) => revoked = sessionId
  | logoutEverywhere accountId, .sessions (.revokeAll target _) => target = accountId
  | setStatus _ status, .accounts (.save copy) => copy.status = status
  | changePassword _ _ _ _, .accounts (.save _) => True
  | changePassword _ _ _ _, .sessions (.revokeAll _ _) => True
  | changePassword _ _ _ _, .grants (.revokeAllForAccount _ purpose) => purpose = .passwordReset
  | confirmPassword _ _, .accounts (.save _) => True
  | requestPasswordReset _ _, .grants (.revokeAllForAccount _ purpose) => purpose = .passwordReset
  | requestPasswordReset _ _, .grants (.add grant) => grant.purpose = .passwordReset
  | redeemPasswordReset _ _ _, .grants (.redeem _ _) => True
  | redeemPasswordReset _ _ _, .accounts (.save _) => True
  | redeemPasswordReset _ _ _, .sessions (.revokeAll _ _) => True
  | redeemPasswordReset _ _ _, .grants (.revokeAllForAccount _ purpose) => purpose = .passwordReset
  | deleteAccount accountId, .accounts (.delete target) => target = accountId
  | sweepOnce, .sessions (.purgeExpired _) => True
  | sweepOnce, .grants (.purgeExpired _) => True
  | _, _ => False

def AdminCall.writes : AdminCall → Op → Prop
  | invite _, .grants (.add grant) => grant.purpose = .invite
  | setStatus _ status, .accounts (.save copy) => copy.status = status
  | setStatus _ _, .sessions (.revokeAll _ _) => True
  | revokeSessions _, .sessions (.revokeAll _ _) => True
  | issuePasswordReset _, .grants (.revokeAllForAccount _ purpose) => purpose = .passwordReset
  | issuePasswordReset _, .grants (.add grant) => grant.purpose = .passwordReset
  | deleteAccount accountId, .accounts (.delete target) => target = accountId
  | deleteProfile accountId _, .profiles (.delete target _) => target = accountId
  | deleteProfile accountId _, .secrets (.deleteProfile target _) => target = accountId
  | createRole _ _ _, .roles (.add _) => True
  | updateRole _ _ _, .roles (.save _) => True
  | deleteRole _, .roles (.delete _) => True
  | setAccountRoles _ _, .accounts (.setRoles _ _ _) => True
  | _, .audit (.record _) => True
  | _, _ => False

/-- The two steps that store a connection with its secret. -/
def Op.stores : Op → Prop
  | .profiles (.putConnection _ _ _ _ _) | .secrets (.put _ _ _ _ _) => True
  | _ => False

/-- The two steps that remove a connection with its secret. -/
def Op.unstores : Op → Prop
  | .profiles (.removeConnection _ _ _ _) | .secrets (.delete _ _ _) => True
  | _ => False

/-- The two steps that remove a profile of the account with its secrets. -/
def Op.discards (accountId : String) : Op → Prop
  | .profiles (.delete target _) | .secrets (.deleteProfile target _) => target = accountId
  | _ => False

def CredentialCall.writes : CredentialCall → Op → Prop
  | createProfile accountId _, .profiles (.add profile _) =>
      profile.accountId = accountId ∧ profile.connections = []
  | deleteProfile accountId _, o => o.discards accountId
  | putDirectCredential _ _ _ _ _ _, o => o.stores
  | beginAuthorization _ _ _ _, .profiles (.putConnection _ _ _ _ _) => True
  | finishAuthorization _ _, o => o.stores
  | completeAuthorization _ _, o => o.stores
  | resolveHeaders _ _ _, o => o.stores
  | revokeConnection _ _ _, o => o.unstores
  | _, _ => False

/-- A password that is sent may be counted against the account. -/
def Requester.writes (requester : Requester) : Op → Prop
  | .accounts (.save _) => requester.password ≠ none
  | _ => False

def ChangeCall.writes : ChangeCall → Op → Prop
  | storeDirect _ _ _ _ _ _ requester, o => requester.writes o ∨ o.stores
  | beginAuthorization _ _ _ _ _, .profiles (.putConnection _ _ _ _ _) => True
  | beginAuthorization _ _ _ _ requester, o => requester.writes o
  | completeAuthorization _ _, o => o.stores
  | removeConnection _ _ _ requester, o => requester.writes o ∨ o.unstores
  | removeProfile accountId _ requester, o => requester.writes o ∨ o.discards accountId

def DelegationCall.writes : DelegationCall → Op → Prop
  | create _ _ _ _ _, .delegations (.add _ _ _) => True
  | create _ _ _ _ _, .audit (.record _) => True
  | revoke _ _ _, .delegations (.revoke _ _ _ _) => True
  | revoke _ _ _, .audit (.record _) => True
  | _, _ => False

def InternalCall.writes : InternalCall → Op → Prop
  | resolveCredential _ _, o => o.stores
  | authorizeConnection _ _, .profiles (.putConnection _ _ _ _ _) => True
  | deleteConnection _ _, o => o.unstores
  | createGrant _ _ _, .delegations (.add _ _ _) => True
  | createGrant _ _ _, .audit (.record _) => True
  | revokeGrant _ _, .delegations (.revoke _ _ _ _) => True
  | revokeGrant _ _, .audit (.record _) => True
  | _, _ => False

def Call.writes : Call → Op → Prop
  | account c, o => c.writes o
  | admin _ c, o => c.writes o
  | credential c, o => c.writes o
  | change c, o => c.writes o
  | delegation c, o => c.writes o
  | exchange _ _ _ _ _, .audit (.record _) => True
  | exchange _ _ _ _ _, _ => False
  | internal _ _ c, o => c.writes o

/-! ## The caps that the requests carry -/

/-- A step that may add a row carries the cap of the configuration. -/
def Op.capped (settings : Settings) : Op → Prop
  | .profiles (.add profile cap) =>
      cap = settings.maxProfilesPerAccount ∧ profile.connections = []
  | .profiles (.putConnection _ _ _ cap _) => cap = settings.maxConnectionsPerProfile
  | .delegations (.add _ cap _) => cap = settings.maxOfflineGrantsPerProfile
  | .sessions (.add _) => False
  | _ => True

theorem Op.idle.capped {o : Op} {settings : Settings} (idle : o.idle) : o.capped settings := by
  cases o with
  | profiles o => cases o <;> trivial
  | delegations o => cases o <;> trivial
  | sessions o => cases o <;> trivial
  | _ => trivial

/-! ## The requests that begin an authorization -/

def CredentialCall.begins : CredentialCall → Prop
  | beginAuthorization _ _ _ _ => True
  | _ => False

def ChangeCall.begins : ChangeCall → Prop
  | beginAuthorization _ _ _ _ _ => True
  | _ => False

def InternalCall.begins : InternalCall → Prop
  | authorizeConnection _ _ => True
  | _ => False

def Call.begins : Call → Prop
  | credential c => c.begins
  | change c => c.begins
  | internal _ _ c => c.begins
  | _ => False

variable {env : Env}

/-! ## The requests of each service -/

theorem AccountCall.prog_uses {allowed : Op → Prop} (modest : ∀ o, o.modest → allowed o)
    (c : AccountCall) (writes : ∀ o, c.writes o → o.capped env.settings → allowed o) :
    (c.prog env).Uses allowed := by
  cases c with
  | issueInvite email =>
      apply returning_uses
      exact AccountService.issueInvite_writes modest (fun _ same => writes _ same trivial) email
  | redeemInvite token password caller =>
      apply returning_uses
      exact AccountService.redeemInvite_writes modest (fun _ _ => writes _ trivial trivial)
        (fun _ => writes _ trivial trivial) token password caller
  | login email password caller =>
      apply returning_uses
      exact AccountService.login_writes modest (fun _ => writes _ trivial trivial)
        (fun _ _ => writes _ trivial trivial) email password caller
  | resolveSession token =>
      apply returning_uses
      exact AccountService.resolveSession_writes modest (fun _ => writes _ trivial trivial) token
  | logout sessionId => exact returning_uses (sessionStore_uses (writes _ rfl trivial))
  | logoutEverywhere accountId => exact returning_uses (sessionStore_uses (writes _ rfl trivial))
  | setStatus accountId status =>
      apply returning_uses
      exact AccountService.setStatus_writes modest fun _ same => writes _ same trivial
  | changePassword accountId current newPassword keep =>
      apply returning_uses
      exact AccountService.changePassword_writes modest (fun _ => writes _ trivial trivial)
        (fun _ _ => writes _ trivial trivial) (fun _ => writes _ rfl trivial) accountId current
        newPassword keep
  | confirmPassword accountId password =>
      apply returning_uses
      exact AccountService.confirmPassword_writes modest (fun _ => writes _ trivial trivial)
        accountId password
  | requestPasswordReset email caller =>
      apply returning_uses
      exact AccountService.requestPasswordReset_writes modest (fun _ => writes _ rfl trivial)
        (fun _ same => writes _ same trivial) email caller
  | redeemPasswordReset token newPassword caller =>
      apply returning_uses
      exact AccountService.redeemPasswordReset_writes modest (fun _ _ => writes _ trivial trivial)
        (fun _ => writes _ trivial trivial) (fun _ _ => writes _ trivial trivial)
        (fun _ => writes _ rfl trivial) token newPassword caller
  | deleteAccount accountId => exact returning_uses (accountStore_uses (writes _ rfl trivial))
  | sweepOnce =>
      apply returning_uses
      exact AccountService.sweepOnce_writes modest (fun _ => writes _ trivial trivial)
        fun _ => writes _ trivial trivial

section Requests

variable {allowed : Op → Prop} (quiet : ∀ o, o.quiet → allowed o)
include quiet

theorem CredentialCall.prog_uses (c : CredentialCall)
    (writes : ∀ o, c.writes o → o.capped env.settings → allowed o)
    (issues : c.begins → ∀ stateHash flow, allowed (.issueState stateHash flow)) :
    (c.prog env).Uses allowed := by
  have calm := calm_of_quiet quiet
  cases c with
  | createProfile accountId name =>
      apply returning_uses
      exact CredentialService.createProfile_uses calm
        (fun _ same bare => writes _ ⟨same, bare⟩ ⟨rfl, bare⟩) name
  | listProfiles accountId => exact returning_uses (profileStore_uses (quiet _ trivial))
  | getProfile accountId name =>
      exact returning_uses (CredentialService.getProfile_uses calm accountId name)
  | deleteProfile accountId name =>
      apply returning_uses
      exact CredentialService.deleteProfile_uses (fun _ => writes _ rfl trivial)
        (fun _ => writes _ rfl trivial) name
  | putDirectCredential accountId profileName serviceName kind secret storesTotpSeed =>
      apply returning_uses
      exact CredentialService.putDirectCredential_uses calm
        (fun _ _ _ _ => writes _ trivial rfl) (fun _ _ _ _ _ => writes _ trivial trivial)
        accountId profileName serviceName kind secret storesTotpSeed
  | beginAuthorization accountId profileName serviceName redirectUri =>
      apply returning_uses
      exact CredentialService.beginAuthorization_uses calm (fun _ _ _ _ => writes _ trivial rfl)
        (issues trivial) accountId profileName serviceName redirectUri
  | finishAuthorization binding code =>
      apply returning_uses
      exact CredentialService.finishAuthorization_writes quiet
        (fun _ _ _ _ => writes _ trivial rfl) (fun _ _ _ _ _ => writes _ trivial trivial)
        binding code
  | completeAuthorization state code =>
      apply returning_uses
      exact CredentialService.completeAuthorization_writes quiet
        (fun _ _ _ _ => writes _ trivial rfl) (fun _ _ _ _ _ => writes _ trivial trivial)
        state code
  | resolveHeaders accountId profileName serviceName =>
      apply returning_uses
      exact CredentialService.resolveHeaders_writes quiet (fun _ _ _ _ => writes _ trivial rfl)
        (fun _ _ _ _ _ => writes _ trivial trivial) accountId profileName serviceName
  | resolveFormSecrets accountId profileName serviceName =>
      apply returning_uses
      exact CredentialService.resolveFormSecrets_uses calm accountId profileName serviceName
  | revokeConnection accountId profileName serviceName =>
      apply returning_uses
      exact CredentialService.revokeConnection_uses calm (fun _ _ _ => writes _ trivial trivial)
        (fun _ _ _ _ => writes _ trivial trivial) accountId profileName serviceName
  | sweepOnce => exact returning_uses (CredentialService.sweepOnce_writes quiet)

theorem ChangeCall.prog_uses (c : ChangeCall)
    (writes : ∀ o, c.writes o → o.capped env.settings → allowed o)
    (issues : c.begins → ∀ stateHash flow, allowed (.issueState stateHash flow)) :
    (c.prog env).Uses allowed := by
  cases c with
  | storeDirect accountId profileName serviceName kind secret storesTotpSeed requester =>
      apply returning_uses
      exact CredentialChanges.storeDirect_writes quiet
        (fun sent _ => writes _ (Or.inl sent) trivial)
        (fun _ _ _ _ => writes _ (Or.inr trivial) rfl)
        (fun _ _ _ _ _ => writes _ (Or.inr trivial) trivial)
        accountId profileName serviceName kind secret storesTotpSeed
  | beginAuthorization accountId profileName serviceName redirectUri requester =>
      apply returning_uses
      exact CredentialChanges.beginAuthorization_writes quiet
        (fun sent _ => writes _ sent trivial) (fun _ _ _ _ => writes _ trivial rfl)
        (issues trivial) accountId profileName serviceName redirectUri
  | completeAuthorization state code =>
      apply returning_uses
      exact CredentialChanges.completeAuthorization_writes quiet
        (fun _ _ _ _ => writes _ trivial rfl) (fun _ _ _ _ _ => writes _ trivial trivial)
        state code
  | removeConnection accountId profileName serviceName requester =>
      apply returning_uses
      exact CredentialChanges.removeConnection_writes quiet
        (fun sent _ => writes _ (Or.inl sent) trivial)
        (fun _ _ _ => writes _ (Or.inr trivial) trivial)
        (fun _ _ _ _ => writes _ (Or.inr trivial) trivial) accountId profileName serviceName
  | removeProfile accountId name requester =>
      apply returning_uses
      exact CredentialChanges.removeProfile_writes quiet
        (fun sent _ => writes _ (Or.inl sent) trivial) (fun _ => writes _ (Or.inr rfl) trivial)
        (fun _ => writes _ (Or.inr rfl) trivial) name

theorem DelegationCall.prog_uses (c : DelegationCall)
    (writes : ∀ o, c.writes o → o.capped env.settings → o.delegates → allowed o) :
    (c.prog env).Uses allowed := by
  cases c with
  | create accountId profile service audiences ttlSeconds =>
      apply returning_uses
      exact DelegationService.create_writes quiet (fun _ delegates => writes _ trivial trivial delegates)
        (fun _ _ => writes _ trivial rfl trivial) profile service audiences ttlSeconds none
  | listGrants accountId profile =>
      exact returning_uses (DelegationService.listGrants_writes quiet accountId profile)
  | revoke accountId profile grantId =>
      apply returning_uses
      exact DelegationService.revoke_writes quiet (fun _ delegates => writes _ trivial trivial delegates)
        (fun _ _ _ _ => writes _ trivial trivial trivial) accountId profile grantId

/-- An internal request sends no password. -/
theorem InternalCall.run_uses (c : InternalCall)
    (writes : ∀ o, c.writes o → o.capped env.settings → o.delegates → allowed o)
    (issues : c.begins → ∀ stateHash flow, allowed (.issueState stateHash flow))
    (service accountId : String) : (c.run env service accountId).Uses allowed := by
  have unsent : Requester.service.password ≠ none → ∀ copy, allowed (.accounts (.save copy)) :=
    fun sent => absurd rfl sent
  cases c with
  | resolveCredential profile name =>
      apply returning_uses
      exact Internal.resolveCredential_writes quiet (fun _ _ _ _ => writes _ trivial rfl trivial)
        (fun _ _ _ _ _ => writes _ trivial trivial trivial) accountId profile name
  | resolveFormSecrets profile name =>
      exact returning_uses (Internal.resolveFormSecrets_writes quiet accountId profile name)
  | describeProfile name =>
      exact returning_uses (Internal.describeProfile_writes quiet accountId name)
  | authorizeConnection name connection =>
      apply returning_uses
      exact CredentialChanges.beginAuthorization_writes quiet unsent
        (fun _ _ _ _ => writes _ trivial rfl trivial) (issues trivial) _ _ _ _
  | deleteConnection name connection =>
      refine returning_uses (Prog.Uses.bind ?_ fun removed => refuseIf_uses _ _)
      exact CredentialChanges.removeConnection_writes quiet unsent
        (fun _ _ _ => writes _ trivial trivial trivial) (fun _ _ _ _ => writes _ trivial trivial trivial) _ _ _
  | createGrant name audiences ttlSeconds =>
      apply returning_uses
      exact DelegationService.create_writes quiet (fun _ delegates => writes _ trivial trivial delegates)
        (fun _ _ => writes _ trivial rfl trivial) name service audiences ttlSeconds (some service)
  | revokeGrant name grantId =>
      apply returning_uses
      exact DelegationService.revokeForService_writes quiet (fun _ delegates => writes _ trivial trivial delegates)
        (fun _ _ _ _ => writes _ trivial trivial trivial) accountId name grantId service

end Requests

namespace AdminService

variable {allowed : Op → Prop} (modest : ∀ o, o.modest → allowed o)
  (records : ∀ entry, allowed (.audit (.record entry)))
include modest records

theorem setStatus_writes {accountId : String} {status : AccountStatus}
    (saves : ∀ copy : Account, copy.status = status → allowed (.accounts (.save copy)))
    (ends : ∀ accountId keep, allowed (.sessions (.revokeAll accountId keep))) (actor : Actor) :
    (setStatus env actor accountId status).Uses allowed := by
  refine Prog.Uses.bind (ofExcept_uses _) fun _ => ?_
  refine Prog.Uses.bind (requireAccount_uses modest accountId) fun account => ?_
  refine Prog.Uses.bind (checkCanActOn_uses modest actor account) fun _ => ?_
  refine Prog.Uses.bind (AccountService.setStatus_writes modest saves) fun _ => ?_
  refine Prog.Uses.bind ?_ fun _ => ?_
  · split
    · exact sessionStore_uses (ends _ _)
    · trivial
  · refine Prog.Uses.bind (record_uses modest records _ _ _ _) fun _ => ?_
    exact Prog.Uses.bind (accountStore_uses (modest _ trivial)) fun _ => trivial

theorem deleteProfile_writes (quiet : ∀ o, o.quiet → allowed o) {accountId : String}
    (deletes : ∀ name, allowed (.profiles (.delete accountId name)))
    (clears : ∀ name, allowed (.secrets (.deleteProfile accountId name))) (actor : Actor)
    (name : String) : (deleteProfile env actor accountId name).Uses allowed := by
  refine Prog.Uses.bind (ofExcept_uses _) fun _ => ?_
  refine Prog.Uses.bind (requireAccount_uses modest accountId) fun account => ?_
  refine Prog.Uses.bind (checkCanActOn_uses modest actor account) fun _ => ?_
  refine Prog.Uses.bind (Prog.Uses.tryCatch ?_ fun e => ?_) fun removed => ?_
  · refine CredentialChanges.removeProfile_writes quiet (fun sent => absurd ?_ sent) deletes clears
      name
    split <;> rfl
  · cases e <;> trivial
  · refine Prog.Uses.bind (refuseIf_uses _ _) fun _ => ?_
    exact record_uses modest records _ _ _ _

theorem createRole_writes (adds : ∀ role, allowed (.roles (.add role))) (actor : Actor)
    (name : String) (permissions : List String) (description : String) :
    (createRole env actor name permissions description).Uses allowed := by
  refine Prog.Uses.bind (ofExcept_uses _) fun _ => ?_
  refine Prog.Uses.bind (ofExcept_uses _) fun roleName => ?_
  refine Prog.Uses.bind (ofExcept_uses _) fun wanted => ?_
  refine Prog.Uses.bind (ofExcept_uses _) fun _ => ?_
  refine Prog.Uses.bind (ofExcept_uses _) fun _ => ?_
  refine Prog.Uses.bind (roleStore_uses (modest _ trivial)) fun existing => ?_
  refine Prog.Uses.bind (refuseIf_uses _ _) fun _ => ?_
  refine Prog.Uses.bind (ask_uses (modest _ trivial)) fun now => ?_
  refine Prog.Uses.bind (roleStore_uses (adds _)) fun _ => ?_
  exact Prog.Uses.bind (record_uses modest records _ _ _ _) fun _ => trivial

theorem updateRole_writes (saves : ∀ role, allowed (.roles (.save role))) (actor : Actor)
    (name : String) (permissions : List String) (description : String) :
    (updateRole env actor name permissions description).Uses allowed := by
  refine Prog.Uses.bind (ofExcept_uses _) fun _ => ?_
  refine Prog.Uses.bind (ofExcept_uses _) fun roleName => ?_
  refine Prog.Uses.bind (roleStore_uses (modest _ trivial)) fun found => ?_
  cases found with
  | none => trivial
  | some role =>
      refine Prog.Uses.bind (refuseIf_uses _ _) fun _ => ?_
      refine Prog.Uses.bind (ofExcept_uses _) fun wanted => ?_
      refine Prog.Uses.bind (ofExcept_uses _) fun _ => ?_
      refine Prog.Uses.bind (ofExcept_uses _) fun _ => ?_
      refine Prog.Uses.bind (ask_uses (modest _ trivial)) fun now => ?_
      refine Prog.Uses.bind (roleStore_uses (saves _)) fun _ => ?_
      exact Prog.Uses.bind (record_uses modest records _ _ _ _) fun _ => trivial

theorem setAccountRoles_writes
    (assigns : ∀ target names now, allowed (.accounts (.setRoles target names now)))
    (actor : Actor) (accountId : String) (names : List String) :
    (setAccountRoles env actor accountId names).Uses allowed := by
  refine Prog.Uses.bind (ofExcept_uses _) fun _ => ?_
  refine Prog.Uses.bind (requireAccount_uses modest accountId) fun account => ?_
  refine Prog.Uses.bind (ofExcept_uses _) fun normalized => ?_
  refine Prog.Uses.bind (refuseIf_uses _ _) fun _ => ?_
  refine Prog.Uses.bind (grantedBy_uses modest _ _) fun granted => ?_
  refine Prog.Uses.bind (ofExcept_uses _) fun _ => ?_
  refine Prog.Uses.bind (ask_uses (modest _ trivial)) fun now => ?_
  refine Prog.Uses.bind (accountStore_uses (assigns _ _ _)) fun updated => ?_
  exact Prog.Uses.bind (record_uses modest records _ _ _ _) fun _ => trivial

end AdminService

/-- The administrative requests that look at what somebody has stored. -/
def AdminCall.looks : AdminCall → Prop
  | listProfiles _ | deleteProfile _ _ => True
  | _ => False

theorem AdminCall.prog_uses {allowed : Op → Prop} (modest : ∀ o, o.modest → allowed o)
    (c : AdminCall) (looks : c.looks → ∀ o, o.quiet → allowed o) (actor : Actor)
    (writes : ∀ o, c.writes o → o.capped env.settings → allowed o) :
    (c.prog env actor).Uses allowed := by
  have records : ∀ entry, allowed (.audit (.record entry)) := fun entry =>
    writes _ (by cases c <;> trivial) trivial
  cases c with
  | listAccounts =>
      refine returning_uses (Prog.Uses.bind (ofExcept_uses _) fun _ => ?_)
      exact accountStore_uses (modest _ trivial)
  | getAccount accountId =>
      refine returning_uses (Prog.Uses.bind (ofExcept_uses _) fun _ => ?_)
      exact AdminService.requireAccount_uses modest accountId
  | listProfiles accountId =>
      refine returning_uses (Prog.Uses.bind (ofExcept_uses _) fun _ => ?_)
      refine Prog.Uses.bind (AdminService.requireAccount_uses modest accountId) fun _ => ?_
      exact profileStore_uses (looks trivial _ trivial)
  | readAudit limit =>
      refine returning_uses (Prog.Uses.bind (ofExcept_uses _) fun _ => ?_)
      exact auditLog_uses (modest _ trivial)
  | invite email =>
      refine returning_uses (Prog.Uses.bind (ofExcept_uses _) fun _ => ?_)
      refine Prog.Uses.bind
        (AccountService.issueInvite_writes modest (fun _ same => writes _ same trivial) _) fun grant => ?_
      exact Prog.Uses.bind (AdminService.record_uses modest records _ _ _ _) fun _ => trivial
  | setStatus accountId status =>
      exact returning_uses (AdminService.setStatus_writes modest records (fun _ same => writes _ same trivial)
        (fun _ _ => writes _ trivial trivial) actor)
  | revokeSessions accountId =>
      refine returning_uses (Prog.Uses.bind (ofExcept_uses _) fun _ => ?_)
      refine Prog.Uses.bind (AdminService.requireAccount_uses modest accountId) fun account => ?_
      refine Prog.Uses.bind (AdminService.checkCanActOn_uses modest actor account) fun _ => ?_
      refine Prog.Uses.bind (sessionStore_uses (writes _ trivial trivial)) fun revoked => ?_
      exact Prog.Uses.bind (AdminService.record_uses modest records _ _ _ _) fun _ => trivial
  | issuePasswordReset accountId =>
      refine returning_uses (Prog.Uses.bind (ofExcept_uses _) fun _ => ?_)
      refine Prog.Uses.bind (AdminService.requireAccount_uses modest accountId) fun account => ?_
      refine Prog.Uses.bind (AdminService.checkCanActOn_uses modest actor account) fun _ => ?_
      refine Prog.Uses.bind (AccountService.issueResetFor_writes modest (fun _ => writes _ rfl trivial)
        (fun _ same => writes _ same trivial) account) fun grant => ?_
      exact Prog.Uses.bind (AdminService.record_uses modest records _ _ _ _) fun _ => trivial
  | deleteAccount accountId =>
      refine returning_uses (Prog.Uses.bind (ofExcept_uses _) fun _ => ?_)
      refine Prog.Uses.bind (AdminService.requireAccount_uses modest accountId) fun account => ?_
      refine Prog.Uses.bind (AdminService.checkCanActOn_uses modest actor account) fun _ => ?_
      refine Prog.Uses.bind (accountStore_uses (writes _ rfl trivial)) fun _ => ?_
      exact AdminService.record_uses modest records _ _ _ _
  | deleteProfile accountId name =>
      exact returning_uses (AdminService.deleteProfile_writes modest records (looks trivial)
        (fun _ => writes _ rfl trivial) (fun _ => writes _ rfl trivial) actor name)
  | listRoles =>
      refine returning_uses (Prog.Uses.bind (ofExcept_uses _) fun _ => ?_)
      exact roleStore_uses (modest _ trivial)
  | createRole name permissions description =>
      exact returning_uses (AdminService.createRole_writes modest records (fun _ => writes _ trivial trivial)
        actor _ _ _)
  | updateRole name permissions description =>
      exact returning_uses (AdminService.updateRole_writes modest records (fun _ => writes _ trivial trivial)
        actor _ _ _)
  | deleteRole name =>
      refine returning_uses (Prog.Uses.bind (ofExcept_uses _) fun _ => ?_)
      refine Prog.Uses.bind (ofExcept_uses _) fun roleName => ?_
      refine Prog.Uses.bind (accountStore_uses (modest _ trivial)) fun _ => ?_
      refine Prog.Uses.bind (roleStore_uses (writes _ trivial trivial)) fun _ => ?_
      exact AdminService.record_uses modest records _ _ _ _
  | setAccountRoles accountId names =>
      exact returning_uses (AdminService.setAccountRoles_writes modest records
        (fun _ _ _ => writes _ trivial trivial) actor _ _)

section Requests

variable {allowed : Op → Prop} (quiet : ∀ o, o.quiet → allowed o)
include quiet

/-- Every step of a request is quiet or one of its writes. -/
theorem Call.prog_uses (c : Call) (writes : ∀ o, c.writes o → o.capped env.settings → allowed o)
    (issues : c.begins → ∀ stateHash flow, allowed (.issueState stateHash flow)) :
    (c.prog env).Uses allowed := by
  cases c with
  | account c => exact c.prog_uses (modest_of_quiet quiet) writes
  | admin actor c => exact c.prog_uses (modest_of_quiet quiet) (fun _ => quiet) actor writes
  | credential c => exact c.prog_uses quiet writes issues
  | change c => exact c.prog_uses quiet writes issues
  | delegation c => exact c.prog_uses quiet fun o wrote capped _ => writes o wrote capped
  | exchange service audience ttlSeconds userToken grantId =>
      exact returning_uses (DelegationService.exchange_writes quiet
        (fun _ _ => writes _ trivial trivial) _ _ _ _ _)
  | internal service userToken c =>
      refine Prog.Uses.bind (Internal.actingFor_writes quiet _ _) fun accountId => ?_
      exact c.run_uses quiet (fun o wrote capped _ => writes o wrote capped) issues service accountId

end Requests

/-- Nothing that a request writes begins an authorization. -/
theorem Call.writes_still (c : Call) {o : Op} (writes : c.writes o) : ¬ o.starts := by
  cases o with
  | issueState stateHash flow =>
      cases c with
      | account c => cases c <;> exact writes.elim
      | admin actor c => cases c <;> exact writes.elim
      | credential c => cases c <;> exact writes.elim
      | change c =>
          cases c with
          | storeDirect => rcases writes with sent | stored <;> contradiction
          | removeConnection => rcases writes with sent | stored <;> contradiction
          | removeProfile => rcases writes with sent | stored <;> contradiction
          | _ => exact writes.elim
      | delegation c => cases c <;> exact writes.elim
      | exchange service audience ttlSeconds userToken grantId => exact writes.elim
      | internal service userToken c => cases c <;> exact writes.elim
  | _ => exact id

/-- Outside the administrative requests, only consent and its exchange are
recorded. -/
theorem Call.prog_delegates (c : Call) (ordinary : ∀ actor request, c ≠ .admin actor request) :
    (c.prog env).Uses fun (o : Op) => o.delegates := by
  have quiet : ∀ o : Op, o.quiet → o.delegates := fun o quiet => quiet.idle.delegates
  cases c with
  | account c =>
      refine c.prog_uses (modest_of_quiet quiet) fun o wrote _ => ?_
      cases o with
      | audit o => cases c <;> exact wrote.elim
      | _ => trivial
  | admin actor c => exact absurd rfl (ordinary actor c)
  | credential c =>
      refine c.prog_uses quiet (fun o wrote _ => ?_) fun _ _ _ => trivial
      cases o with
      | audit o => cases c <;> exact wrote.elim
      | _ => trivial
  | change c =>
      refine c.prog_uses quiet (fun o wrote _ => ?_) fun _ _ _ => trivial
      cases o with
      | audit o =>
          cases c with
          | beginAuthorization _ _ _ _ _ => exact wrote.elim
          | completeAuthorization _ _ => exact wrote.elim
          | _ => exact wrote.elim False.elim False.elim
      | _ => trivial
  | delegation c => exact c.prog_uses quiet fun o _ _ delegates => delegates
  | exchange service audience ttlSeconds userToken grantId =>
      exact returning_uses (DelegationService.exchange_writes quiet (fun _ delegates => delegates)
        _ _ _ _ _)
  | internal service userToken c =>
      refine Prog.Uses.bind (Internal.actingFor_writes quiet _ _) fun accountId => ?_
      exact c.run_uses quiet (fun o _ _ delegates => delegates) (fun _ _ _ => trivial) service
        accountId

theorem Call.uses_still (c : Call) (other : ¬ c.begins) :
    (c.prog env).Uses fun (o : Op) => ¬ o.starts :=
  c.prog_uses (fun _ quiet => quiet.still) (fun _ writes _ => c.writes_still writes)
    fun begins => absurd begins other

theorem writes_of_run {w : World} {calls : List Call} {d : Config (machine env) Error Answer}
    {tr : List (Event (machine env))} (run : Run (start env w calls) tr d)
    {e : Event (machine env)} (member : e ∈ tr) :
    ∃ c, calls[e.thread]? = some c ∧ (e.op.idle ∨ c.writes e.op) := by
  have inside : e.thread < calls.length := by
    simpa [start] using run.thread_lt e member
  have found : calls[e.thread]? = some calls[e.thread] := List.getElem?_eq_getElem inside
  obtain ⟨q, -, path⟩ := path_of_run run e.thread _ found
  refine ⟨_, found, ?_⟩
  have uses : (calls[e.thread].prog env).Uses fun (o : Op) => o.idle ∨ calls[e.thread].writes o :=
    Call.prog_uses (fun _ quiet => Or.inl quiet.idle) _ (fun _ writes _ => Or.inr writes)
      fun _ _ _ => Or.inl trivial
  exact (path.uses uses).1 e (mem_ofThread.mpr ⟨member, rfl⟩)

theorem Call.prog_capped (c : Call) : (c.prog env).Uses fun (o : Op) => o.capped env.settings :=
  c.prog_uses (fun _ quiet => quiet.idle.capped) (fun _ _ capped => capped) fun _ _ _ => trivial

theorem capped_of_run {w : World} {calls : List Call} {d : Config (machine env) Error Answer}
    {tr : List (Event (machine env))} (run : Run (start env w calls) tr d)
    {e : Event (machine env)} (member : e ∈ tr) : e.op.capped env.settings := by
  refine run.uses ?_ e member
  intro p inside
  obtain ⟨c, -, rfl⟩ := List.mem_map.mp inside
  exact c.prog_capped

end Keyring

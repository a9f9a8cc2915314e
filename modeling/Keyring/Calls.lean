import Keyring.Admin.Service
import Keyring.Api.Internal

/-!
# Requests

Every request the services answer, as data, and the program each one runs.  A
deployment is started from a world with any finite list of requests, which then
interleave step by step.
-/

set_option autoImplicit false

namespace Keyring

open Interleave

inductive AccountCall where
  | issueInvite (email : String)
  | redeemInvite (token password caller : String)
  | login (email password caller : String)
  | resolveSession (token : String)
  | logout (sessionId : String)
  | logoutEverywhere (accountId : String)
  | setStatus (accountId : String) (status : AccountStatus)
  | changePassword (accountId currentPassword newPassword : String) (keepSessionId : Option String)
  | confirmPassword (accountId password : String)
  | requestPasswordReset (email caller : String)
  | redeemPasswordReset (token newPassword caller : String)
  | deleteAccount (accountId : String)
  | sweepOnce

inductive AdminCall where
  | listAccounts
  | getAccount (accountId : String)
  | listProfiles (accountId : String)
  | readAudit (limit : Nat)
  | invite (email : String)
  | setStatus (accountId : String) (status : AccountStatus)
  | revokeSessions (accountId : String)
  | issuePasswordReset (accountId : String)
  | deleteAccount (accountId : String)
  | deleteProfile (accountId name : String)
  | listRoles
  | createRole (name : String) (permissions : List String) (description : String)
  | updateRole (name : String) (permissions : List String) (description : String)
  | deleteRole (name : String)
  | setAccountRoles (accountId : String) (names : List String)

inductive CredentialCall where
  | createProfile (accountId name : String)
  | listProfiles (accountId : String)
  | getProfile (accountId name : String)
  | deleteProfile (accountId name : String)
  | putDirectCredential (accountId profileName serviceName : String) (kind : CredentialKind)
      (secret : Secret) (storesTotpSeed : Bool)
  | beginAuthorization (accountId profileName serviceName redirectUri : String)
  | finishAuthorization (binding : FlowBinding) (code : String)
  | completeAuthorization (state code : String)
  | resolveHeaders (accountId profileName serviceName : String)
  | resolveFormSecrets (accountId profileName serviceName : String)
  | revokeConnection (accountId profileName serviceName : String)
  | sweepOnce

inductive ChangeCall where
  | storeDirect (accountId profileName serviceName : String) (kind : CredentialKind)
      (secret : Secret) (storesTotpSeed : Bool) (requester : Requester)
  | beginAuthorization (accountId profileName serviceName redirectUri : String)
      (requester : Requester)
  | completeAuthorization (state code : String)
  | removeConnection (accountId profileName serviceName : String) (requester : Requester)
  | removeProfile (accountId name : String) (requester : Requester)

inductive DelegationCall where
  | create (accountId profile service : String) (audiences : List String) (ttlSeconds : Int)
  | listGrants (accountId profile : String)
  | revoke (accountId profile grantId : String)

/-- What a service asks for on behalf of the person whose token it presents. -/
inductive InternalCall where
  | resolveCredential (profile service : String)
  | resolveFormSecrets (profile service : String)
  | describeProfile (name : String)
  | authorizeConnection (name connection : String)
  | deleteConnection (name connection : String)
  | createGrant (name : String) (audiences : List String) (ttlSeconds : Int)
  | revokeGrant (name grantId : String)

/-- A request, with the actor an administrative one was authorised for and the
service that proved itself in an internal one. -/
inductive Call where
  | account (c : AccountCall)
  | admin (actor : Actor) (c : AdminCall)
  | credential (c : CredentialCall)
  | change (c : ChangeCall)
  | delegation (c : DelegationCall)
  | exchange (service audience : String) (ttlSeconds : Int) (userToken grantId : Option String)
  | internal (service : String) (userToken : Option String) (c : InternalCall)

/-- What a request returns when it raises nothing. -/
inductive Answer where
  | unit
  | bool (b : Bool)
  | nat (n : Nat)
  | issued (grant : Option IssuedGrant)
  | session (session : Session)
  | login (result : LoginResult)
  | account (account : Account)
  | accounts (accounts : List Account)
  | sweep (result : SweepResult)
  | profile (profile : Profile)
  | profiles (profiles : List Profile)
  | connection (connection : Connection)
  | authorization (authorization : Authorization)
  | headers (headers : List (String × String))
  | secret (secret : Secret)
  | role (role : Role)
  | roles (roles : List Role)
  | audit (entries : List AuditEntry)
  | offlineGrant (grant : OfflineGrant)
  | offlineGrants (grants : List OfflineGrant)
  | exchanged (token : ExchangedToken)
  | resolved (credential : ResolvedCredential)
  | fields (values : List (String × String))

/-- End a program with its value as an answer. -/
def returning {env : Env} {α : Type} (p : Service env α) (answer : α → Answer) :
    Service env Answer := p >>= fun a => pure (answer a)

section Returning

variable {env : Env} {α : Type} {p : Service env α} {answer : α → Answer}

theorem returning_uses {allowed : Op → Prop} (uses : p.Uses allowed) :
    (returning p answer).Uses allowed := Prog.Uses.bind uses fun _ => trivial

/-- The request is where its program is. -/
theorem returning_inv {es : List (Event (machine env))} {q : Service env Answer}
    (path : Path (returning p answer) es q) : ∃ p', Path p es p' ∧ q = returning p' answer := by
  rcases path.bind_inv with inside | ⟨a, es₁, es₂, rfl, first, rest⟩
  · exact inside
  · obtain ⟨rfl, rfl⟩ := rest.done_inv
    exact ⟨.done (.ok a), by simpa using first, rfl⟩

theorem returning_calling {es : List (Event (machine env))} {o : Op}
    {next : o.Ans → Service env Answer} (path : Path (returning p answer) es (.call o next)) :
    ∃ next', Path p es (.call o next') := by
  rcases path.bind_calling with inside | ⟨a, es₁, es₂, -, -, rest⟩
  · exact inside
  · obtain ⟨-, impossible⟩ := rest.done_inv
    cases impossible

theorem returning_done {r : Except Error Answer} (ended : returning p answer = .done r) :
    ∃ r', p = .done r' ∧ r = r'.map answer := by
  cases p with
  | done r' =>
      refine ⟨r', rfl, ?_⟩
      cases r' <;> cases ended <;> rfl
  | call o next => cases ended

theorem returning_returned {es : List (Event (machine env))} {a : Answer}
    (path : Path (returning p answer) es (.done (.ok a))) :
    ∃ v, Path p es (.done (.ok v)) := by
  obtain ⟨p', inside, ended⟩ := returning_inv path
  obtain ⟨r, rfl, result⟩ := returning_done ended.symm
  cases r with
  | ok v => exact ⟨v, inside⟩
  | error e => cases result

theorem returning_exec {w w' : World} {r : Except Error Answer}
    (exec : Exec (returning p answer) w r w') : ∃ r', Exec p w r' w' := by
  rcases exec.bind_inv with ⟨e, failed, -⟩ | ⟨a, t, first, rest⟩
  · exact ⟨.error e, failed⟩
  · obtain ⟨-, rfl⟩ := rest.done_inv
    exact ⟨.ok a, first⟩

end Returning

section Programs

variable (env : Env)

def AccountCall.prog : AccountCall → Service env Answer
  | issueInvite email => returning (AccountService.issueInvite env email) fun g => .issued (some g)
  | redeemInvite token password caller =>
      returning (AccountService.redeemInvite env token password caller) .account
  | login email password caller =>
      returning (AccountService.login env email password caller) .login
  | resolveSession token => returning (AccountService.resolveSession env token) .session
  | logout sessionId => returning (AccountService.logout env sessionId) .bool
  | logoutEverywhere accountId =>
      returning (AccountService.logoutEverywhere env accountId) .nat
  | setStatus accountId status =>
      returning (AccountService.setStatus env accountId status) fun _ => .unit
  | changePassword accountId currentPassword newPassword keepSessionId =>
      returning (AccountService.changePassword env accountId currentPassword newPassword
        keepSessionId) fun _ => .unit
  | confirmPassword accountId password =>
      returning (AccountService.confirmPassword env accountId password) fun _ => .unit
  | requestPasswordReset email caller =>
      returning (AccountService.requestPasswordReset env email caller) .issued
  | redeemPasswordReset token newPassword caller =>
      returning (AccountService.redeemPasswordReset env token newPassword caller) .account
  | deleteAccount accountId => returning (AccountService.deleteAccount env accountId) .bool
  | sweepOnce => returning (AccountService.sweepOnce env) .sweep

def AdminCall.prog (actor : Actor) : AdminCall → Service env Answer
  | listAccounts => returning (AdminService.listAccounts env actor) .accounts
  | getAccount accountId => returning (AdminService.getAccount env actor accountId) .account
  | listProfiles accountId => returning (AdminService.listProfiles env actor accountId) .profiles
  | readAudit limit => returning (AdminService.readAudit env actor limit) .audit
  | invite email => returning (AdminService.invite env actor email) fun g => .issued (some g)
  | setStatus accountId status =>
      returning (AdminService.setStatus env actor accountId status) .account
  | revokeSessions accountId => returning (AdminService.revokeSessions env actor accountId) .nat
  | issuePasswordReset accountId =>
      returning (AdminService.issuePasswordReset env actor accountId) fun g => .issued (some g)
  | deleteAccount accountId =>
      returning (AdminService.deleteAccount env actor accountId) fun _ => .unit
  | deleteProfile accountId name =>
      returning (AdminService.deleteProfile env actor accountId name) fun _ => .unit
  | listRoles => returning (AdminService.listRoles env actor) .roles
  | createRole name permissions description =>
      returning (AdminService.createRole env actor name permissions description) .role
  | updateRole name permissions description =>
      returning (AdminService.updateRole env actor name permissions description) .role
  | deleteRole name => returning (AdminService.deleteRole env actor name) fun _ => .unit
  | setAccountRoles accountId names =>
      returning (AdminService.setAccountRoles env actor accountId names) .account

def CredentialCall.prog : CredentialCall → Service env Answer
  | createProfile accountId name =>
      returning (CredentialService.createProfile env accountId name) .profile
  | listProfiles accountId => returning (CredentialService.listProfiles env accountId) .profiles
  | getProfile accountId name =>
      returning (CredentialService.getProfile env accountId name) .profile
  | deleteProfile accountId name =>
      returning (CredentialService.deleteProfile env accountId name) .bool
  | putDirectCredential accountId profileName serviceName kind secret storesTotpSeed =>
      returning (CredentialService.putDirectCredential env accountId profileName serviceName kind
        secret storesTotpSeed) .connection
  | beginAuthorization accountId profileName serviceName redirectUri =>
      returning (CredentialService.beginAuthorization env accountId profileName serviceName
        redirectUri) .authorization
  | finishAuthorization binding code =>
      returning (CredentialService.finishAuthorization env binding code) .connection
  | completeAuthorization state code =>
      returning (CredentialService.completeAuthorization env state code) .connection
  | resolveHeaders accountId profileName serviceName =>
      returning (CredentialService.resolveHeaders env accountId profileName serviceName) .headers
  | resolveFormSecrets accountId profileName serviceName =>
      returning (CredentialService.resolveFormSecrets env accountId profileName serviceName) .secret
  | revokeConnection accountId profileName serviceName =>
      returning (CredentialService.revokeConnection env accountId profileName serviceName) .bool
  | sweepOnce => returning (CredentialService.sweepOnce env) .nat

def ChangeCall.prog : ChangeCall → Service env Answer
  | storeDirect accountId profileName serviceName kind secret storesTotpSeed requester =>
      returning (CredentialChanges.storeDirect env accountId profileName serviceName kind secret
        storesTotpSeed requester) .connection
  | beginAuthorization accountId profileName serviceName redirectUri requester =>
      returning (CredentialChanges.beginAuthorization env accountId profileName serviceName
        redirectUri requester) .authorization
  | completeAuthorization state code =>
      returning (CredentialChanges.completeAuthorization env state code) .connection
  | removeConnection accountId profileName serviceName requester =>
      returning (CredentialChanges.removeConnection env accountId profileName serviceName
        requester) .bool
  | removeProfile accountId name requester =>
      returning (CredentialChanges.removeProfile env accountId name requester) .bool

def DelegationCall.prog : DelegationCall → Service env Answer
  | create accountId profile service audiences ttlSeconds =>
      returning (DelegationService.create env accountId profile service audiences ttlSeconds none)
        .offlineGrant
  | listGrants accountId profile =>
      returning (DelegationService.listGrants env accountId profile) .offlineGrants
  | revoke accountId profile grantId =>
      returning (DelegationService.revoke env accountId profile grantId) fun _ => .unit

/-- What an internal request does for the account that the user token names. -/
def InternalCall.run (service accountId : String) : InternalCall → Service env Answer
  | resolveCredential profile service =>
      returning (Internal.resolveCredential env accountId profile service) .resolved
  | resolveFormSecrets profile service =>
      returning (Internal.resolveFormSecrets env accountId profile service) .fields
  | describeProfile name => returning (Internal.describeProfile env accountId name) .profile
  | authorizeConnection name connection =>
      returning (Internal.authorizeConnection env accountId name connection) .authorization
  | deleteConnection name connection =>
      returning (Internal.deleteConnection env accountId name connection) fun _ => .unit
  | createGrant name audiences ttlSeconds =>
      returning (DelegationService.create env accountId name service audiences ttlSeconds
        (some service)) .offlineGrant
  | revokeGrant name grantId =>
      returning (DelegationService.revokeForService env accountId name grantId service)
        fun _ => .unit

def Call.prog : Call → Service env Answer
  | account c => c.prog env
  | admin actor c => c.prog env actor
  | credential c => c.prog env
  | change c => c.prog env
  | delegation c => c.prog env
  | exchange service audience ttlSeconds userToken grantId =>
      returning (DelegationService.exchange env service audience ttlSeconds userToken grantId)
        .exchanged
  | internal service userToken c => do
      let accountId ← Internal.actingFor env service userToken
      c.run env service accountId

/-- The requests `calls`, all still to begin, in the world `w`. -/
def start (w : World) (calls : List Call) : Config (machine env) Error Answer :=
  ⟨w, calls.map (Call.prog env)⟩

end Programs

/-! ## What one step of a run has done -/

section Events

variable {env : Env}

/-- Every step of a run executes its operation. -/
theorem exec_of_run {c d : Config (machine env) Error Answer} {tr : List (Event (machine env))}
    (run : Interleave.Run c tr d) {e : Event (machine env)} (member : e ∈ tr) :
    ∃ x, Keyring.exec env e.op x e.before = some (e.ans, e.after) := run.exec_eq e member

theorem path_of_run {w : World} {calls : List Call} {d : Config (machine env) Error Answer}
    {tr : List (Event (machine env))} (run : Interleave.Run (start env w calls) tr d) (i : Nat)
    (call : Call) (found : calls[i]? = some call) :
    ∃ q, d.pool[i]? = some q ∧ Path (call.prog env) (ofThread i tr) q :=
  run.path i _ (by simp [start, found])

end Events

end Keyring

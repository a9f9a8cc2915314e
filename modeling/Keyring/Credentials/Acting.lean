import Keyring.Credentials.Isolation
import Keyring.Interleave.Told
import Keyring.Scenario
import Keyring.Writes

/-!
# Whom a request acts for

A request on credentials acts for one account: the one it was called with, the one
that the presented token names, or the one that the answer to a handle names.  So in
every run the requests of an account can be told from the others, and they do and are
answered what they would be if nobody else had ever been there.
-/

set_option autoImplicit false

namespace Keyring

open Interleave Relational

variable {env : Env} {book : String → String → Prop} {who : Option String} {b : String} {α β : Type}

/-- A program whose steps are about `who`, and which returns a value with `P`. -/
abbrev Acts (book : String → String → Prop) (who : Option String) (P : α → Prop) (p : Service env α) : Prop :=
  p.Under (Registry book) (Op.about book who) P

theorem Acts.of_uses {p : Service env α} (uses : p.Uses (Op.about book who)) :
    Acts book who (fun _ => True) p := Prog.Under.of_uses uses

/-! ## The vault and the profiles -/

theorem getSecret_about (profile service : String) :
    (getSecret env b profile service).Uses (Op.about book (some b)) := by
  refine Prog.Uses.bind (ofExcept_uses _) fun master => ?_
  refine Prog.Uses.bind (secretStore_uses rfl) fun found => ?_
  cases found with
  | none => trivial
  | some envelope => exact Prog.Uses.bind (ofExcept_uses _) fun _ => trivial

theorem putSecret_about (profile service : String) (secret : Secret) :
    (putSecret env b profile service secret).Uses (Op.about book (some b)) := by
  refine Prog.Uses.bind (ofExcept_uses _) fun master => ?_
  refine Prog.Uses.bind (ask_uses trivial) fun entropy => ?_
  refine Prog.Uses.bind (ask_uses trivial) fun now => ?_
  exact secretStore_uses rfl

theorem readProfile_acts (name : String) :
    Acts book (some b) (fun found : Option Profile => ∀ profile, found = some profile →
      profile.accountId = b) (profileStore (.get b name) : Service env (Option Profile)) := by
  refine ⟨rfl, fun w x answer w' known done => ?_⟩
  cases answer with
  | error e => trivial
  | ok found =>
      intro profile here
      subst here
      obtain ⟨read, -⟩ := ProfileOp.get_ok (transact_ok.mp (onDb_eq.mp done).1)
      rw [readProfile, eq_comm, Option.map_eq_some_iff] at read
      obtain ⟨row, stored, rfl⟩ := read
      exact congrArg Prod.fst (Table.find?_eq_some.mp stored).2

/-- The profile behind an OAuth credential is the account's. -/
def HttpAuth.Own (b : String) : HttpAuth → Prop
  | .apiKey _ => True
  | .oauth2 profile _ _ _ => profile.accountId = b

namespace CredentialService

theorem getProfile_acts (name : String) :
    Acts book (some b) (·.accountId = b) (getProfile env b name) := by
  refine Prog.Under.bind (Prog.Under.ofExcept fun _ _ => trivial) fun normalized _ => ?_
  refine Prog.Under.bind (readProfile_acts normalized) fun found own => ?_
  cases found with
  | none => trivial
  | some profile => exact own profile rfl

section Own

variable {profile : Profile} (own : profile.accountId = b)
include own

theorem putConnection_about (connection : Connection) (now : Instant) :
    (putConnection env profile connection now).Uses (Op.about book (some b)) :=
  putConnection_uses (fun _ => congrArg some own.symm) now

theorem storeOauthSecret_about (service : String) (secret : Secret) (provider : OAuthProvider) :
    (storeOauthSecret env profile service secret provider).Uses (Op.about book (some b)) := by
  refine Prog.Uses.bind (ofExcept_uses _) fun _ => ?_
  refine Prog.Uses.bind (ask_uses trivial) fun now => ?_
  refine Prog.Uses.bind (ofExcept_uses _) fun expiresAt => ?_
  refine Prog.Uses.bind (putConnection_about own _ now) fun stored => ?_
  rw [own]
  exact Prog.Uses.bind (putSecret_about _ _ secret) fun _ => trivial

theorem recordFailure_about (connection : Connection) (reason : String) :
    (recordFailure env profile connection reason).Uses (Op.about book (some b)) := by
  refine Prog.Uses.bind (ask_uses trivial) fun now => ?_
  exact Prog.Uses.bind (putConnection_about own _ now) fun _ => trivial

theorem renew_about (connection : Connection) (secret : Secret) :
    (renew env profile connection secret).Uses (Op.about book (some b)) := by
  have failing : ∀ reason (e : Error),
      ((recordFailure env profile connection reason >>= fun _ => throw e : Service env Secret)).Uses
        (Op.about book (some b)) := fun reason e =>
    Prog.Uses.bind (recordFailure_about own connection reason) fun _ => trivial
  unfold renew
  split
  · exact failing _ _
  · exact failing _ _
  · rename_i refreshToken _ _
    refine Prog.Uses.bind (ofExcept_uses _) fun provider => ?_
    have refreshing : (TokenEndpoint.refresh env provider refreshToken).Uses
        (Op.about book (some b)) := TokenEndpoint.refresh_uses (fun _ _ => trivial) _ _
    refine Prog.Uses.bind (Prog.Uses.tryCatch refreshing fun e => ?_) fun renewed => ?_
    · split
      · exact failing _ _
      · trivial
    · refine Prog.Uses.bind (profileStore_uses (congrArg some own.symm)) fun stillThere => ?_
      refine Prog.Uses.bind (refuseIf_uses _ _) fun _ => ?_
      exact Prog.Uses.bind (storeOauthSecret_about own _ renewed provider) fun _ => trivial

theorem refresh_about (connection : Connection) (secret : Secret) :
    (refresh env profile connection secret).Uses (Op.about book (some b)) := by
  refine Prog.Uses.bind (ask_uses (congrArg some own.symm)) fun _ => ?_
  refine Prog.Uses.finallyDo ?_ (congrArg some own.symm)
  refine Prog.Uses.bind (by rw [own]; exact getSecret_about _ _) fun found => ?_
  cases found with
  | none => exact renew_about own connection secret
  | some stored =>
      dsimp only
      split
      · trivial
      · exact renew_about own connection secret

end Own

theorem load_acts (profileName serviceName : String) :
    Acts book (some b) (fun loaded => loaded.1.accountId = b)
      (load env b profileName serviceName) := by
  refine Prog.Under.bind (getProfile_acts profileName) fun profile own => ?_
  refine Prog.Under.bind (Prog.Under.ofExcept fun _ _ => trivial) fun service _ => ?_
  split
  · trivial
  · refine Prog.Under.bind (Acts.of_uses (refuseIf_uses _ _)) fun _ _ => ?_
    refine Prog.Under.bind (Acts.of_uses (getSecret_about _ _)) fun found _ => ?_
    cases found with
    | none => trivial
    | some secret => exact own

theorem resolveHttpAuth_acts (profileName serviceName : String) :
    Acts book (some b) (HttpAuth.Own b) (resolveHttpAuth env b profileName serviceName) := by
  refine Prog.Under.bind (load_acts profileName serviceName) fun loaded own => ?_
  obtain ⟨profile, connection, secret⟩ := loaded
  dsimp only
  split
  · trivial
  · exact Prog.Under.bind (Acts.of_uses (ask_uses trivial)) fun now _ => own
  · trivial

theorem headers_about {auth : HttpAuth} (own : auth.Own b) :
    (auth.headers env).Uses (Op.about book (some b)) := by
  cases auth with
  | apiKey secret => trivial
  | oauth2 profile connection secret needsRefresh =>
      refine Prog.Uses.bind ?_ fun current => ofExcept_uses _
      split
      · exact refresh_about own connection secret
      · trivial

theorem createProfile_about (name : String) :
    (createProfile env b name).Uses (Op.about book (some b)) := by
  refine Prog.Uses.bind (ofExcept_uses _) fun normalized => ?_
  refine Prog.Uses.bind (ask_uses trivial) fun now => ?_
  refine Prog.Uses.bind (ask_uses trivial) fun hex => ?_
  exact Prog.Uses.bind (profileStore_uses rfl) fun _ => trivial

theorem putDirectCredential_acts (profileName serviceName : String) (kind : CredentialKind)
    (secret : Secret) (storesTotpSeed : Bool) :
    Acts book (some b) (fun _ => True) (putDirectCredential env b profileName serviceName kind
      secret storesTotpSeed) := by
  refine Prog.Under.bind (getProfile_acts profileName) fun profile own => ?_
  apply Acts.of_uses
  refine Prog.Uses.bind (ofExcept_uses _) fun service => ?_
  refine Prog.Uses.bind (ofExcept_uses _) fun _ => ?_
  refine Prog.Uses.bind (ask_uses trivial) fun now => ?_
  refine Prog.Uses.bind (putConnection_about own _ now) fun stored => ?_
  exact Prog.Uses.bind (putSecret_about _ _ secret) fun _ => trivial

theorem beginAuthorization_acts (profileName serviceName redirectUri : String) :
    Acts book (some b) (fun _ => True)
      (beginAuthorization env b profileName serviceName redirectUri) := by
  refine Prog.Under.bind (getProfile_acts profileName) fun profile own => ?_
  apply Acts.of_uses
  refine Prog.Uses.bind (ofExcept_uses _) fun service => ?_
  refine Prog.Uses.bind (ofExcept_uses _) fun provider => ?_
  refine Prog.Uses.bind (ask_uses trivial) fun state => ?_
  refine Prog.Uses.bind (ask_uses trivial) fun issued => ?_
  refine Prog.Uses.bind (ask_uses rfl) fun _ => ?_
  refine Prog.Uses.bind (ask_uses trivial) fun now => ?_
  refine Prog.Uses.bind ?_ fun _ => trivial
  split
  · trivial
  · exact putConnection_about own _ _

theorem finishAuthorization_acts {binding : FlowBinding} (own : binding.accountId = b)
    (code : String) :
    Acts book (some b) (fun _ => True) (finishAuthorization env binding code) := by
  subst own
  refine Prog.Under.bind (readProfile_acts binding.profile) fun found own => ?_
  cases found with
  | none => trivial
  | some profile =>
      apply Acts.of_uses
      refine Prog.Uses.bind (ofExcept_uses _) fun provider => ?_
      refine Prog.Uses.bind (TokenEndpoint.post_uses (fun _ _ => trivial) _) fun secret => ?_
      exact storeOauthSecret_about (own profile rfl) _ secret provider

theorem resolveHeaders_acts (profileName serviceName : String) :
    Acts book (some b) (fun _ => True) (resolveHeaders env b profileName serviceName) := by
  refine Prog.Under.bind (resolveHttpAuth_acts profileName serviceName) fun auth own => ?_
  apply Acts.of_uses
  cases auth with
  | apiKey secret => trivial
  | oauth2 profile connection secret needsRefresh =>
      have heading : ((HttpAuth.oauth2 profile connection secret needsRefresh).headers env).Uses
          (Op.about book (some b)) := headers_about own
      exact heading

theorem resolveFormSecrets_acts (profileName serviceName : String) :
    Acts book (some b) (fun _ => True) (resolveFormSecrets env b profileName serviceName) := by
  refine Prog.Under.bind (load_acts profileName serviceName) fun loaded _ => ?_
  obtain ⟨profile, connection, secret⟩ := loaded
  exact Acts.of_uses (Prog.Uses.bind (refuseIf_uses _ _) fun _ => trivial)

theorem revokeConnection_acts (profileName serviceName : String) :
    Acts book (some b) (fun _ => True) (revokeConnection env b profileName serviceName) := by
  refine Prog.Under.bind (getProfile_acts profileName) fun profile own => ?_
  apply Acts.of_uses
  refine Prog.Uses.bind (ofExcept_uses _) fun service => ?_
  split
  · trivial
  · refine Prog.Uses.bind (secretStore_uses rfl) fun _ => ?_
    refine Prog.Uses.bind (ask_uses trivial) fun now => ?_
    exact Prog.Uses.bind (profileStore_uses rfl) fun _ => trivial

end CredentialService

/-! ## Changes, and the password they ask for -/

theorem readAccount_acts :
    Acts book (some b) (fun found : Option Account => ∀ account, found = some account →
      account.accountId = b ∧ book b account.email)
      (accountStore (.get b) : Service env (Option Account)) := by
  refine ⟨rfl, fun w x answer w' known done => ?_⟩
  cases answer with
  | error e => trivial
  | ok found =>
      intro account here
      subst here
      obtain ⟨read, -⟩ := AccountOp.get_ok (transact_ok.mp (onDb_eq.mp done).1)
      rw [readAccount, eq_comm, Option.map_eq_some_iff] at read
      obtain ⟨row, stored, rfl⟩ := read
      obtain ⟨inside, rfl⟩ := Table.find?_eq_some.mp stored
      exact ⟨rfl, known row inside⟩

theorem confirmPassword_acts (password : String) :
    Acts book (some b) (fun _ => True) (AccountService.confirmPassword env b password) := by
  refine Prog.Under.bind readAccount_acts fun found own => ?_
  cases found with
  | none => trivial
  | some account =>
      obtain ⟨rfl, registered⟩ := own account rfl
      apply Acts.of_uses
      refine Prog.Uses.bind (ask_uses trivial) fun now => ?_
      refine Prog.Uses.bind (refuseIf_uses _ _) fun _ => ?_
      split
      · split
        · trivial
        · exact accountStore_uses ⟨rfl, registered⟩
      · refine AccountService.rejectPassword_writes fun copy recorded => ?_
        obtain ⟨-, rfl⟩ := withFailure_eq_ok.mp recorded
        exact ⟨rfl, registered⟩

namespace CredentialChanges

theorem admitted_acts (requester : Requester) :
    Acts book (some b) (fun _ => True) (admitted env b requester) := by
  refine Prog.Under.bind (Acts.of_uses (preferencesFor_uses rfl)) fun preferences _ => ?_
  split
  · trivial
  · split
    · exact Prog.Under.bind (confirmPassword_acts _) fun _ _ => trivial
    · split <;> trivial

theorem announce_about (preferences : Preferences) :
    (announce env b preferences).Uses (Op.about book (some b)) := by
  rw [announce]
  split
  · refine Prog.Uses.bind (accountStore_uses rfl) fun found => ?_
    cases found with
    | none => trivial
    | some account => exact Prog.Uses.bind (ask_uses trivial) fun _ => trivial
  · trivial

theorem removeConnection_acts (profileName serviceName : String) (requester : Requester) :
    Acts book (some b) (fun _ => True)
      (removeConnection env b profileName serviceName requester) := by
  refine Prog.Under.bind (admitted_acts requester) fun preferences _ => ?_
  refine Prog.Under.bind (CredentialService.revokeConnection_acts _ _) fun removed _ => ?_
  apply Acts.of_uses
  refine Prog.Uses.bind ?_ fun _ => trivial
  split
  · exact announce_about preferences
  · trivial

theorem looking_acts (name : String) {handler : Error → Service env (Option Profile)}
    (handled : ∀ e, Acts book (some b) (fun _ => True) (handler e)) :
    Acts book (some b) (fun _ => True)
      (tryCatchThe Error (some <$> CredentialService.getProfile env b name) handler) := by
  refine Prog.Under.tryCatch ?_ handled
  exact Prog.Under.bind (CredentialService.getProfile_acts name) fun _ _ => trivial

theorem removeProfile_acts (name : String) (requester : Requester) :
    Acts book (some b) (fun _ => True) (removeProfile env b name requester) := by
  refine Prog.Under.bind (looking_acts name fun e => by cases e <;> trivial) fun found _ => ?_
  cases found with
  | none => trivial
  | some profile =>
      have asking : Acts book (some b) (fun _ => True) (if profile.connections.isEmpty then pure none
          else some <$> admitted env b requester : Service env (Option Preferences)) := by
        split
        · trivial
        · exact Prog.Under.bind (admitted_acts requester) fun _ _ => trivial
      refine Prog.Under.bind asking fun preferences _ => ?_
      apply Acts.of_uses
      refine Prog.Uses.bind (CredentialService.deleteProfile_uses (fun _ => rfl) (fun _ => rfl) name)
        fun removed => ?_
      refine Prog.Uses.bind ?_ fun _ => trivial
      split
      · exact announce_about _
      · trivial

end CredentialChanges

/-! ## Delegation, and what other services ask for -/

namespace DelegationService

theorem requireProfile_about (profile : String) :
    (requireProfile env b profile).Uses (Op.about book (some b)) := by
  refine Prog.Uses.bind (profileStore_uses rfl) fun found => ?_
  cases found <;> trivial

theorem record_about (action : AuditAction) (actorId : String) (targetId : Option String)
    (detail : String) : (record env action actorId targetId detail).Uses (Op.about book who) := by
  refine Prog.Uses.bind (ask_uses trivial) fun entryId => ?_
  refine Prog.Uses.bind (ask_uses trivial) fun now => ?_
  exact auditLog_uses trivial

theorem create_about (profile service : String) (audiences : List String) (ttlSeconds : Int)
    (createdBy : Option String) :
    (create env b profile service audiences ttlSeconds createdBy).Uses
      (Op.about book (some b)) := by
  refine Prog.Uses.bind (requireProfile_about profile) fun _ => ?_
  refine Prog.Uses.bind (ofExcept_uses _) fun _ => ?_
  refine Prog.Uses.bind (ask_uses trivial) fun now => ?_
  refine Prog.Uses.bind (ask_uses trivial) fun drawn => ?_
  refine Prog.Uses.bind (delegationStore_uses rfl) fun _ => ?_
  exact Prog.Uses.bind (record_about _ _ _ _) fun _ => trivial

theorem listGrants_about (profile : String) :
    (listGrants env b profile).Uses (Op.about book (some b)) :=
  Prog.Uses.bind (requireProfile_about profile) fun _ => delegationStore_uses rfl

theorem withdraw_about (profile grantId detail : String) :
    (withdraw env b profile grantId detail).Uses (Op.about book (some b)) := by
  refine Prog.Uses.bind (ask_uses trivial) fun now => ?_
  refine Prog.Uses.bind (delegationStore_uses rfl) fun revoked => ?_
  exact Prog.Uses.bind (refuseIf_uses _ _) fun _ => record_about _ _ _ _

theorem revoke_about (profile grantId : String) :
    (revoke env b profile grantId).Uses (Op.about book (some b)) :=
  Prog.Uses.bind (requireProfile_about profile) fun _ => withdraw_about _ _ _

theorem revokeForService_about (profile grantId service : String) :
    (revokeForService env b profile grantId service).Uses (Op.about book (some b)) := by
  refine Prog.Uses.bind (requireProfile_about profile) fun _ => ?_
  refine Prog.Uses.bind (delegationStore_uses rfl) fun grants => ?_
  exact Prog.Uses.bind (refuseIf_uses _ _) fun _ => withdraw_about _ _ _

theorem mint_about (service audience accountId : String) (deadline : Instant) (ttlSeconds : Int)
    (grantId : Option String) :
    (mint env service audience accountId deadline ttlSeconds grantId).Uses (Op.about book who) := by
  refine Prog.Uses.bind (ask_uses trivial) fun now => ?_
  refine Prog.Uses.bind (refuseIf_uses _ _) fun _ => ?_
  refine Prog.Uses.bind (Prog.Uses.bind (ask_uses trivial) fun _ => ?_) fun token => ?_
  · exact Prog.Uses.bind (ofExcept_uses _) fun _ => trivial
  · refine Prog.Uses.bind (record_about _ _ _ _) fun _ => ?_
    exact Prog.Uses.bind (ofExcept_uses _) fun _ => trivial

end DelegationService

/-- The account that a user token names. -/
def tokenSubject (env : Env) (userToken : Option String) : Option String :=
  (userToken.bind env.jwt.decode).map (·.sub)

theorem verifyAccess_acts (token audience : String) :
    Acts book who (fun claims => tokenSubject env (some token) = some claims.accountId)
      (TokenSigner.verifyAccess env token audience) := by
  rw [TokenSigner.verifyAccess]
  cases decoded : env.jwt.decode token with
  | none => trivial
  | some claims =>
      have named : tokenSubject env (some token) = some claims.sub := by
        simp [tokenSubject, decoded]
      refine Prog.Under.bind (Acts.of_uses (refuseIf_uses _ _)) fun _ _ => ?_
      refine Prog.Under.bind (Acts.of_uses (ask_uses trivial)) fun now _ => ?_
      refine Prog.Under.bind (Acts.of_uses (refuseIf_uses _ _)) fun _ _ => ?_
      exact Prog.Under.bind (Acts.of_uses (ofExcept_uses _)) fun _ _ => named

theorem actingFor_acts (service : String) (userToken : Option String) :
    Acts book who (fun accountId => tokenSubject env userToken = some accountId)
      (Internal.actingFor env service userToken) := by
  cases userToken with
  | none => trivial
  | some token => exact Prog.Under.bind (verifyAccess_acts token service) fun _ named => named

namespace Internal

theorem resolveCredential_acts (profile service : String) :
    Acts book (some b) (fun _ => True) (resolveCredential env b profile service) := by
  refine Prog.Under.bind (CredentialService.resolveHttpAuth_acts profile service) fun auth own => ?_
  refine Prog.Under.bind (Acts.of_uses (CredentialService.headers_about own)) fun headers _ => ?_
  refine Prog.Under.bind (Prog.Under.ofExcept fun _ _ => trivial) fun params _ => ?_
  refine Prog.Under.bind (P := fun _ => True) ?_ fun expiresAt _ => trivial
  cases auth with
  | apiKey secret => trivial
  | oauth2 held connection secret needsRefresh =>
      exact Prog.Under.bind (CredentialService.getProfile_acts profile) fun _ _ => trivial

theorem resolveFormSecrets_acts (profile service : String) :
    Acts book (some b) (fun _ => True) (resolveFormSecrets env b profile service) := by
  refine Prog.Under.bind (CredentialService.resolveFormSecrets_acts profile service)
    fun secret _ => ?_
  apply Acts.of_uses
  refine Prog.Uses.bind (ofExcept_uses _) fun username => ?_
  refine Prog.Uses.bind (ofExcept_uses _) fun password => ?_
  split
  · trivial
  · trivial
  · refine Prog.Uses.bind (ask_uses trivial) fun now => ?_
    split <;> trivial

theorem describeProfile_acts (name : String) :
    Acts book (some b) (fun _ => True) (describeProfile env b name) := by
  refine Prog.Under.bind (Acts.of_uses (accountStore_uses rfl)) fun found _ => ?_
  cases found with
  | none => trivial
  | some account =>
      refine Prog.Under.bind (Acts.of_uses (refuseIf_uses _ _)) fun _ _ => ?_
      exact (CredentialService.getProfile_acts name).mono fun _ _ => trivial

theorem deleteConnection_acts (name connection : String) :
    Acts book (some b) (fun _ => True) (deleteConnection env b name connection) := by
  refine Prog.Under.bind (CredentialChanges.removeConnection_acts _ _ _) fun removed _ => ?_
  exact Acts.of_uses (refuseIf_uses _ _)

end Internal

/-! ## Every request -/

def CredentialCall.subject : CredentialCall → Option String
  | .createProfile accountId _ | .listProfiles accountId | .getProfile accountId _
  | .deleteProfile accountId _ | .putDirectCredential accountId _ _ _ _ _
  | .beginAuthorization accountId _ _ _ | .resolveHeaders accountId _ _
  | .resolveFormSecrets accountId _ _ | .revokeConnection accountId _ _ => some accountId
  | .finishAuthorization binding _ => some binding.accountId
  | .completeAuthorization _ _ | .sweepOnce => none

def ChangeCall.subject : ChangeCall → Option String
  | .storeDirect accountId _ _ _ _ _ _ | .beginAuthorization accountId _ _ _ _
  | .removeConnection accountId _ _ _ | .removeProfile accountId _ _ => some accountId
  | .completeAuthorization _ _ => none

def DelegationCall.subject : DelegationCall → Option String
  | .create accountId _ _ _ _ | .listGrants accountId _ | .revoke accountId _ _ => some accountId

/-- Whom a request acts for, where that can be told before it is answered anything. -/
def Call.subject (env : Env) : Call → Option String
  | .account (.confirmPassword accountId _) => some accountId
  | .credential c => c.subject
  | .change c => c.subject
  | .delegation c => c.subject
  | .exchange _ _ _ userToken _ => tokenSubject env userToken
  | .internal _ userToken _ => tokenSubject env userToken
  | _ => none

/-- A request that is made for one person, and reaches the credentials. -/
def Call.personal : Call → Prop
  | .account (.confirmPassword _ _) => True
  | .credential .sweepOnce => False
  | .credential _ | .change _ | .delegation _ | .exchange _ _ _ _ _ | .internal _ _ _ => True
  | _ => False

/-- The account that a caller knows itself to act for. -/
def acting (env : Env) (book : String → String → Prop) : Memory (machine env) (Option String) where
  note who o answer := who.or (o.names? answer)
  agrees who o := o.about book who ∨ o.seeks ∧ who = none

theorem Op.about.names_none {o : Op} (about : o.about book who) (answer : o.Ans) :
    o.names? answer = none := by
  cases o with
  | redeemState stateHash => exact absurd about id
  | delegations o =>
      cases o with
      | forExchange grantId service => exact absurd about id
      | _ => cases answer <;> rfl
  | _ => rfl

theorem Acts.told {P : α → Prop} {p : Service env α} (acts : Acts book who P p) :
    p.Told (acting env book) (Registry book) (fun known a => known = who ∧ P a) who := by
  refine Prog.Told.of_under acts fun o about => ⟨Or.inl about, fun answer => ?_⟩
  change who.or (o.names? answer) = who
  rw [about.names_none answer, Option.or_none]

/-- A program of which it only matters whom it acts for. -/
abbrev Speaks (book : String → String → Prop) (who : Option String) (p : Service env α) : Prop :=
  p.Told (acting env book) (Registry book) (fun _ _ => True) who

theorem Acts.speaks {P : α → Prop} {p : Service env α} (acts : Acts book who P p) :
    Speaks book who p := acts.told.mono fun _ _ _ => trivial

theorem Speaks.returning {p : Service env α} (speaks : Speaks book who p) (answer : α → Answer) :
    Speaks book who (returning p answer) := Prog.Told.bind speaks fun _ _ _ => trivial

theorem Speaks.of_returning {p : Service env α} {answer : α → Answer}
    (speaks : Speaks book who (Keyring.returning p answer)) : Speaks book who p :=
  (Prog.Told.of_bind speaks).mono fun _ _ _ => trivial

theorem Acts.bind_speaks {P : α → Prop} {p : Service env α} {f : α → Service env β}
    (acts : Acts book who P p) (rest : ∀ v, P v → Speaks book who (f v)) :
    Speaks book who (p >>= f) := by
  refine Prog.Told.bind acts.told ?_
  rintro v known ⟨rfl, holds⟩
  exact rest v holds

theorem redeemAuthorization_told (state : String) :
    (CredentialService.redeemAuthorization env state).Told (acting env book) (Registry book)
      (fun known binding => known = some binding.accountId) none := by
  refine ⟨Or.inl trivial, fun _ _ now _ _ _ => ⟨Or.inr ⟨trivial, rfl⟩, fun _ _ found _ _ _ => ?_⟩⟩
  cases found with
  | none => trivial
  | some flow =>
      change Prog.Told _ _ _ (refuseIf (flow.isLive now = false) _ >>= fun _ =>
        (pure flow.binding : Service env FlowBinding)) (some flow.binding.accountId)
      exact Prog.Told.bind (Acts.of_uses (refuseIf_uses _ _)).told fun _ _ same => same.1

/-- What is done once the state has been redeemed. -/
theorem finishing_speaks (binding : FlowBinding) (code : String) :
    Speaks book (some binding.accountId) (do
      let preferences ← preferencesFor binding.accountId
      let connection ← CredentialService.finishAuthorization env binding code
      CredentialChanges.announce env binding.accountId preferences
      pure connection) := by
  refine (Acts.of_uses (preferencesFor_uses rfl)).bind_speaks fun preferences _ => ?_
  refine (CredentialService.finishAuthorization_acts rfl code).bind_speaks fun stored _ => ?_
  refine (Acts.of_uses (CredentialChanges.announce_about preferences)).bind_speaks ?_
  exact fun _ _ => trivial

theorem authority_told (service audience : String) (userToken grantId : Option String) :
    (DelegationService.authority env service audience userToken grantId).Told (acting env book)
      (Registry book) (fun known found => known = some found.1) (tokenSubject env userToken) := by
  cases userToken with
  | some token =>
      refine Prog.Told.bind (verifyAccess_acts token service).told ?_
      rintro claims known ⟨rfl, named⟩
      exact named
  | none =>
      refine ⟨Or.inr ⟨trivial, rfl⟩, fun _ _ answer _ _ _ => ?_⟩
      cases answer with
      | error e => trivial
      | ok found =>
          cases found with
          | none => trivial
          | some grant =>
              change Prog.Told _ _ _ (refuseIf (grant.revokedAt.isSome ∨ audience ∉ grant.audiences) _
                >>= fun _ => (pure (grant.accountId, grant.expiresAt) :
                  Service env (String × Instant))) (some grant.accountId)
              exact Prog.Told.bind (Acts.of_uses (refuseIf_uses _ _)).told fun _ _ same => same.1

theorem exchange_speaks (service audience : String) (ttlSeconds : Int)
    (userToken grantId : Option String) :
    Speaks book (tokenSubject env userToken)
      (DelegationService.exchange env service audience ttlSeconds userToken grantId) := by
  refine (Acts.of_uses (refuseIf_uses _ _)).bind_speaks fun _ _ => ?_
  refine (Acts.of_uses (ofExcept_uses _)).bind_speaks fun _ _ => ?_
  refine Prog.Told.bind (authority_told service audience userToken grantId) ?_
  rintro ⟨accountId, deadline⟩ known rfl
  refine readAccount_acts.bind_speaks fun found _ => ?_
  cases found with
  | none => trivial
  | some account =>
      refine (Acts.of_uses (refuseIf_uses _ _)).bind_speaks fun _ _ => ?_
      exact (Acts.of_uses (DelegationService.mint_about _ _ _ _ _ _)).speaks

theorem CredentialCall.prog_speaks (c : CredentialCall) (personal : (Call.credential c).personal) :
    Speaks book c.subject (c.prog env) := by
  cases c with
  | createProfile accountId name =>
      exact (Acts.of_uses (CredentialService.createProfile_about name)).speaks.returning _
  | listProfiles accountId =>
      have listing : (CredentialService.listProfiles env accountId).Uses
          (Op.about book (some accountId)) := profileStore_uses rfl
      exact (Acts.of_uses listing).speaks.returning _
  | getProfile accountId name => exact (CredentialService.getProfile_acts name).speaks.returning _
  | deleteProfile accountId name =>
      have deleting : (CredentialService.deleteProfile env accountId name).Uses
          (Op.about book (some accountId)) :=
        CredentialService.deleteProfile_uses (fun _ => rfl) (fun _ => rfl) name
      exact (Acts.of_uses deleting).speaks.returning _
  | putDirectCredential accountId profileName serviceName kind secret storesTotpSeed =>
      exact (CredentialService.putDirectCredential_acts _ _ _ _ _).speaks.returning _
  | beginAuthorization accountId profileName serviceName redirectUri =>
      exact (CredentialService.beginAuthorization_acts _ _ _).speaks.returning _
  | finishAuthorization binding code =>
      exact (CredentialService.finishAuthorization_acts rfl code).speaks.returning _
  | completeAuthorization state code =>
      refine Speaks.returning (Prog.Told.bind (redeemAuthorization_told state) ?_) _
      rintro binding known rfl
      exact (CredentialService.finishAuthorization_acts rfl code).speaks
  | resolveHeaders accountId profileName serviceName =>
      exact (CredentialService.resolveHeaders_acts _ _).speaks.returning _
  | resolveFormSecrets accountId profileName serviceName =>
      exact (CredentialService.resolveFormSecrets_acts _ _).speaks.returning _
  | revokeConnection accountId profileName serviceName =>
      exact (CredentialService.revokeConnection_acts _ _).speaks.returning _
  | sweepOnce => exact absurd personal id

theorem ChangeCall.prog_speaks (c : ChangeCall) : Speaks book c.subject (c.prog env) := by
  cases c with
  | storeDirect accountId profileName serviceName kind secret storesTotpSeed requester =>
      refine Speaks.returning ?_ _
      refine (CredentialChanges.admitted_acts requester).bind_speaks fun preferences _ => ?_
      refine (CredentialService.putDirectCredential_acts _ _ _ _ _).bind_speaks fun stored _ => ?_
      refine (Acts.of_uses (CredentialChanges.announce_about preferences)).bind_speaks ?_
      exact fun _ _ => trivial
  | beginAuthorization accountId profileName serviceName redirectUri requester =>
      refine Speaks.returning ?_ _
      refine (CredentialChanges.admitted_acts requester).bind_speaks fun preferences _ => ?_
      exact (CredentialService.beginAuthorization_acts _ _ _).speaks
  | completeAuthorization state code =>
      refine Speaks.returning (Prog.Told.bind (redeemAuthorization_told state) ?_) _
      intro binding known same
      rw [same]
      exact finishing_speaks binding code
  | removeConnection accountId profileName serviceName requester =>
      exact (CredentialChanges.removeConnection_acts _ _ requester).speaks.returning _
  | removeProfile accountId name requester =>
      exact (CredentialChanges.removeProfile_acts name requester).speaks.returning _

theorem DelegationCall.prog_speaks (c : DelegationCall) : Speaks book c.subject (c.prog env) := by
  cases c with
  | create accountId profile service audiences ttlSeconds =>
      exact (Acts.of_uses (DelegationService.create_about _ _ _ _ _)).speaks.returning _
  | listGrants accountId profile =>
      exact (Acts.of_uses (DelegationService.listGrants_about profile)).speaks.returning _
  | revoke accountId profile grantId =>
      exact (Acts.of_uses (DelegationService.revoke_about profile grantId)).speaks.returning _

theorem InternalCall.run_speaks (c : InternalCall) (service : String) :
    Speaks book (some b) (c.run env service b) := by
  cases c with
  | resolveCredential profile name =>
      exact (Internal.resolveCredential_acts profile name).speaks.returning _
  | resolveFormSecrets profile name =>
      exact (Internal.resolveFormSecrets_acts profile name).speaks.returning _
  | describeProfile name => exact (Internal.describeProfile_acts name).speaks.returning _
  | authorizeConnection name connection =>
      refine Speaks.returning ?_ _
      refine (CredentialChanges.admitted_acts Requester.service).bind_speaks fun preferences _ => ?_
      exact (CredentialService.beginAuthorization_acts _ _ _).speaks
  | deleteConnection name connection =>
      exact (Internal.deleteConnection_acts name connection).speaks.returning _
  | createGrant name audiences ttlSeconds =>
      exact (Acts.of_uses (DelegationService.create_about _ _ _ _ _)).speaks.returning _
  | revokeGrant name grantId =>
      exact (Acts.of_uses (DelegationService.revokeForService_about _ _ _)).speaks.returning _

theorem Call.prog_speaks (c : Call) (personal : c.personal) :
    Speaks book (c.subject env) (c.prog env) := by
  cases c with
  | account c =>
      cases c with
      | confirmPassword accountId password => exact (confirmPassword_acts password).speaks.returning _
      | _ => exact absurd personal id
  | admin actor c => exact absurd personal id
  | credential c => exact c.prog_speaks personal
  | change c => exact c.prog_speaks
  | delegation c => exact c.prog_speaks
  | exchange service audience ttlSeconds userToken grantId =>
      exact (exchange_speaks service audience ttlSeconds userToken grantId).returning _
  | internal service userToken c =>
      refine (actingFor_acts service userToken).bind_speaks fun accountId named => ?_
      change Speaks book (tokenSubject env userToken) _
      rw [named]
      exact c.run_speaks service

/-! ## In a run -/

/-- Whom a caller has acted for, once its request or an answer to it has named someone. -/
def actsFor (env : Env) (calls : List Call) (tr : List (Event (machine env))) (i : Nat) :
    Option String :=
  (ofThread i tr).foldl (fun who e => who.or (e.op.names? e.ans)) (calls[i]?.bind (Call.subject env))

theorem foldl_names_some (es : List (Event (machine env))) (named : String) :
    es.foldl (fun who e => who.or (e.op.names? e.ans)) (some named) = some named := by
  induction es with
  | nil => rfl
  | cons e es ih => exact ih

theorem Op.about.widen {o : Op} (about : o.about book none) : o.about book who := by
  cases o with
  | accounts o =>
      cases o with
      | get => cases about
      | save => cases about.1
      | _ => exact absurd about id
  | profiles o => cases o <;> first | exact absurd about id | cases about
  | secrets o => cases o <;> cases about
  | delegations o => cases o <;> first | exact absurd about id | cases about
  | audit o =>
      cases o with
      | record => trivial
      | _ => exact absurd about id
  | issueState | acquire | release | preferences => cases about
  | now | monotonic | draw | urandom | post => trivial
  | sessions | grants | roles | record | reset | purgeAttempts | redeemState | purgeStates =>
      exact absurd about id

theorem concerns_of_run {w : World} {calls : List Call} {d : Config (machine env) Error Answer}
    {tr : List (Event (machine env))} (run : Run (start env w calls) tr d)
    (personal : ∀ c ∈ calls, c.personal) :
    ∀ e ∈ tr, Concerns (Registered w.db) (actsFor env calls tr e.thread) e := by
  intro e member
  obtain ⟨early, late, rfl⟩ := List.append_of_mem member
  have keeps : ∀ (_ : Nat) (o : Op) who, (acting env (Registered w.db)).agrees who o →
      ∀ s x answer t, Registry (Registered w.db) s → exec env o x s = some (answer, t) →
        Registry (Registered w.db) t :=
    fun _ o who agrees s x answer t known done =>
      exec_registered (agrees.imp id And.left) done known
  have each : ∀ (i : Nat) (p : Service env Answer), (start env w calls).pool[i]? = some p →
      Speaks (Registered w.db) (calls[i]?.bind (Call.subject env)) p := by
    intro i p found
    rw [start, List.getElem?_map, Option.map_eq_some_iff] at found
    obtain ⟨call, here, rfl⟩ := found
    rw [here]
    exact call.prog_speaks (personal call (List.mem_of_getElem? here))
  have agrees := (run.told_at keeps each fun row stored => ⟨row, stored, rfl, rfl⟩).2
  have own : ofThread e.thread (early ++ e :: late) =
      ofThread e.thread early ++ e :: ofThread e.thread late := by
    simp [ofThread, List.filter_append]
  have final : actsFor env calls (early ++ e :: late) e.thread =
      (ofThread e.thread late).foldl (fun who e => who.or (e.op.names? e.ans))
        (((acting env (Registered w.db)).after (calls[e.thread]?.bind (Call.subject env))
          (ofThread e.thread early)).or (e.op.names? e.ans)) := by
    rw [actsFor, own, List.foldl_append, List.foldl_cons]
    rfl
  rw [final]
  cases known : (acting env (Registered w.db)).after (calls[e.thread]?.bind (Call.subject env))
      (ofThread e.thread early) with
  | none =>
      rw [known] at agrees
      rcases agrees with about | ⟨seeks, -⟩
      · exact Or.inl about.widen
      · refine Or.inr ⟨seeks, fun named answered => ?_⟩
        rw [answered, Option.none_or, foldl_names_some]
  | some named =>
      rw [known] at agrees
      rcases agrees with about | ⟨-, impossible⟩
      · rw [Option.some_or, foldl_names_some]
        exact Or.inl about
      · cases impossible

/-- In every run of people's requests on credentials, those that act for one account do
and are answered what they do and are answered in a deployment that holds this account
alone and where nobody else makes a request. -/
theorem account_isolated {w : World} {calls : List Call} {d : Config (machine env) Error Answer}
    {tr : List (Event (machine env))} (run : Run (start env w calls) tr d)
    (personal : ∀ c ∈ calls, c.personal) (unique : UniqueEmails w.db) (apart : NamedApart w tr)
    (numbered : ∀ row ∈ w.db.audit, row.sequence ≤ w.db.auditSequence) (a : String) :
    ∃ alone d', Run (start env (w.only a) calls) alone d' ∧
      alone.map Event.deed =
        (tr.filter fun e => actsFor env calls tr e.thread = some a).map Event.deed ∧
      Mirrors a d.state d'.state ∧
      ∀ i, d'.pool[i]? = if actsFor env calls tr i = some a then d.pool[i]?
        else (start env w calls).pool[i]? := by
  have concerned := concerns_of_run run personal
  have unwinds := unwinds_concerned (a := a) run concerned unique apart numbered
  have begins : Mirrors a w (w.only a) ∧ Kept w ([] : List (Event (machine env))) (w.only a) :=
    ⟨mirrors_only w a, ⟨fun name held => Or.inl (holds_only held), numbered⟩⟩
  obtain ⟨alone, d', before, deeds, ⟨mirrors, -⟩, pools⟩ := run.isolated unwinds begins
  rw [run.finalState_eq] at mirrors
  refine ⟨alone, d', before, deeds, mirrors, fun i => ?_⟩
  rw [pools i]
  by_cases own : actsFor env calls tr i = some a <;> simp [own]

namespace Scenario

def nameHomes : List Call :=
  [.credential (.createProfile "alice" "home"), .credential (.createProfile "bob" "home")]

/-- Their steps take turns. -/
def nameHomesRun : Config (machine deployment) Error Answer × List (Event (machine deployment)) :=
  (start deployment office nameHomes).play
    [(0, given 1 "first"), (1, given 2 "second"), (0, given 3 "third"), (1, given 4 "fourth"),
      (1, given 5 "fifth"), (0, given 6 "sixth")]

end Scenario

open Scenario in
theorem account_isolated_naming :
    ∃ alone d', Run (start deployment (office.only "bob") nameHomes) alone d' ∧
      alone.map Event.deed = (nameHomesRun.2.filter fun e =>
        actsFor deployment nameHomes nameHomesRun.2 e.thread = some "bob").map Event.deed ∧
      Mirrors "bob" nameHomesRun.1.state d'.state ∧
      ∀ i, d'.pool[i]? = if actsFor deployment nameHomes nameHomesRun.2 i = some "bob"
        then nameHomesRun.1.pool[i]? else (start deployment office nameHomes).pool[i]? := by
  have personal : ∀ c ∈ nameHomes, c.personal := by simp [nameHomes, Call.personal]
  have unique : UniqueEmails office.db := by
    unfold UniqueEmails
    decide +kernel
  have names : nameHomesRun.2.filterMap (·.op.identifier?) =
      [.profile "prof_fourth", .profile "prof_third"] := by decide +kernel
  have apart : NamedApart office nameHomesRun.2 := by
    rw [NamedApart, names]
    refine ⟨by decide, fun name _ held => ?_⟩
    cases name <;> obtain ⟨row, stored, -⟩ := held <;> cases stored
  exact account_isolated (Config.play_run _ _) personal unique apart
    (fun row stored => by cases stored) "bob"

end Keyring

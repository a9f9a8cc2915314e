import Keyring.Credentials.StoredNames
import Keyring.Scenario
import Mathlib.Data.List.DropRight

/-!
# What a name means

The operations that are addressed by a profile or a service name, run on two
spellings of the same name.  The credential service reduces a name to its normal
form before it looks anything up; the delegation service compares the spelling
that it was given, and so does one read of the internal surface.
-/

set_option autoImplicit false

namespace Keyring

open Interleave Relational

/-- An operation that is addressed by names, without its names. -/
inductive NamedOperation where
  | createProfile
  | getProfile
  | deleteProfile
  | putDirectCredential (kind : CredentialKind) (secret : Secret) (storesTotpSeed : Bool)
  | beginAuthorization (redirectUri : String)
  | resolveHttpAuth
  | resolveFormSecrets
  | revokeConnection
  | storeDirect (kind : CredentialKind) (secret : Secret) (storesTotpSeed : Bool)
      (requester : Requester)
  | authorize (redirectUri : String) (requester : Requester)
  | removeConnection (requester : Requester)
  | removeProfile (requester : Requester)
  | createGrant (audiences : List String) (ttlSeconds : Int) (createdBy : Option String)
  | listGrants
  | revokeGrant (grantId : String)
  | revokeGrantForService (grantId : String)
  | resolveCredential

structure Spelling where
  profile : String
  service : String

structure SameNames (text : Text) (n n' : Spelling) : Prop where
  profile : normalizeProfileName text n.profile = normalizeProfileName text n'.profile
  service : normalizeServiceName text n.service = normalizeServiceName text n'.service

namespace NamedOperation

@[reducible] def Ans : NamedOperation → Type
  | createProfile | getProfile => Profile
  | deleteProfile | revokeConnection | removeConnection _ | removeProfile _ => Bool
  | putDirectCredential _ _ _ | storeDirect _ _ _ _ => Connection
  | beginAuthorization _ | authorize _ _ => Authorization
  | resolveHttpAuth => HttpAuth
  | resolveFormSecrets => Secret
  | createGrant _ _ _ => OfflineGrant
  | listGrants => List OfflineGrant
  | revokeGrant _ | revokeGrantForService _ => Unit
  | resolveCredential => ResolvedCredential

def prog (env : Env) (accountId : String) (n : Spelling) : (o : NamedOperation) → Service env o.Ans
  | createProfile => CredentialService.createProfile env accountId n.profile
  | getProfile => CredentialService.getProfile env accountId n.profile
  | deleteProfile => CredentialService.deleteProfile env accountId n.profile
  | putDirectCredential kind secret storesTotpSeed =>
      CredentialService.putDirectCredential env accountId n.profile n.service kind secret
        storesTotpSeed
  | beginAuthorization redirectUri =>
      CredentialService.beginAuthorization env accountId n.profile n.service redirectUri
  | resolveHttpAuth => CredentialService.resolveHttpAuth env accountId n.profile n.service
  | resolveFormSecrets => CredentialService.resolveFormSecrets env accountId n.profile n.service
  | revokeConnection => CredentialService.revokeConnection env accountId n.profile n.service
  | storeDirect kind secret storesTotpSeed requester =>
      CredentialChanges.storeDirect env accountId n.profile n.service kind secret storesTotpSeed
        requester
  | authorize redirectUri requester =>
      CredentialChanges.beginAuthorization env accountId n.profile n.service redirectUri requester
  | removeConnection requester =>
      CredentialChanges.removeConnection env accountId n.profile n.service requester
  | removeProfile requester => CredentialChanges.removeProfile env accountId n.profile requester
  | createGrant audiences ttlSeconds createdBy =>
      DelegationService.create env accountId n.profile n.service audiences ttlSeconds createdBy
  | listGrants => DelegationService.listGrants env accountId n.profile
  | revokeGrant grantId => DelegationService.revoke env accountId n.profile grantId
  | revokeGrantForService grantId =>
      DelegationService.revokeForService env accountId n.profile grantId n.service
  | resolveCredential => Internal.resolveCredential env accountId n.profile n.service

def delegates : NamedOperation → Prop
  | createGrant _ _ _ | listGrants | revokeGrant _ | revokeGrantForService _ => True
  | _ => False

/-- The response without the names that it repeats. -/
def unechoed : (o : NamedOperation) → o.Ans → o.Ans
  | createGrant _ _ _, grant => { grant with profile := "", service := "" }
  | resolveCredential, resolved => { resolved with service := "" }
  | _, answer => answer

/-- The outcome and the state after the operation was run alone. -/
def played (env : Env) (o : NamedOperation) (accountId : String) (n : Spelling)
    (inputs : List Input) (w : World) : Option (Except Error o.Ans × World) :=
  ((o.prog env accountId n).play inputs w).map fun (result, w') => (result.map o.unechoed, w')

/-- On every state that the services can leave, with the same readings from outside, both
spellings do the same. -/
def OneMeaning (env : Env) (o : NamedOperation) (n n' : Spelling) : Prop :=
  ∀ accountId w, NormalNames env.text w → ForeignKeys w.db →
    ∀ inputs, o.played env accountId n inputs w = o.played env accountId n' inputs w

/-- Neither spelling is the stored one. -/
def Unstored (text : Text) (n n' : Spelling) : Prop :=
  ¬IsProfileName text n.profile ∧ ¬IsProfileName text n'.profile

/-- The condition on the two spellings, where the operation compares a name as it was spelled. -/
def Consistent (env : Env) (n n' : Spelling) : NamedOperation → Prop
  | createGrant audiences _ _ =>
      Unstored env.text n n' ∨ n.profile = n'.profile ∧ (n.service = n'.service ∨
        DelegationService.allow env n.service audiences ≠ .ok () ∧
        DelegationService.allow env n'.service audiences ≠ .ok ())
  | listGrants | revokeGrant _ => Unstored env.text n n' ∨ n.profile = n'.profile
  | revokeGrantForService _ =>
      Unstored env.text n n' ∨ n.profile = n'.profile ∧ n.service = n'.service
  | resolveCredential =>
      n.service = n'.service ∨
        ¬IsServiceName env.text n.service ∧ ¬IsServiceName env.text n'.service ∨
        (∀ name, normalizeProfileName env.text n.profile ≠ .ok name) ∨ env.master = none
  | _ => True

theorem OneMeaning.symm {env : Env} {o : NamedOperation} {n n' : Spelling}
    (one : o.OneMeaning env n n') : o.OneMeaning env n' n :=
  fun accountId w names fk inputs => (one accountId w names fk inputs).symm

end NamedOperation

/-! ## Lookups by the normal form -/

section Normalized

variable {env : Env} {n n' : Spelling} (same : SameNames env.text n n') (accountId : String)
include same

namespace CredentialService

theorem getProfile_spelled :
    getProfile env accountId n.profile = getProfile env accountId n'.profile := by
  rw [getProfile, getProfile, same.profile]

theorem deleteProfile_spelled :
    deleteProfile env accountId n.profile = deleteProfile env accountId n'.profile := by
  rw [deleteProfile, deleteProfile, same.profile]

theorem putDirectCredential_spelled (kind : CredentialKind) (secret : Secret)
    (storesTotpSeed : Bool) :
    putDirectCredential env accountId n.profile n.service kind secret storesTotpSeed =
      putDirectCredential env accountId n'.profile n'.service kind secret storesTotpSeed := by
  rw [putDirectCredential, putDirectCredential, getProfile_spelled same, same.service]

theorem beginAuthorization_spelled (redirectUri : String) :
    beginAuthorization env accountId n.profile n.service redirectUri =
      beginAuthorization env accountId n'.profile n'.service redirectUri := by
  rw [beginAuthorization, beginAuthorization, getProfile_spelled same, same.service]

theorem load_spelled :
    load env accountId n.profile n.service = load env accountId n'.profile n'.service := by
  rw [load, load, getProfile_spelled same, same.service]

theorem resolveHttpAuth_spelled :
    resolveHttpAuth env accountId n.profile n.service =
      resolveHttpAuth env accountId n'.profile n'.service := by
  rw [resolveHttpAuth, resolveHttpAuth, load_spelled same]

theorem revokeConnection_spelled :
    revokeConnection env accountId n.profile n.service =
      revokeConnection env accountId n'.profile n'.service := by
  rw [revokeConnection, revokeConnection, getProfile_spelled same, same.service]

end CredentialService

open CredentialService in
/-- Where every lookup is by the normal form, both spellings run the same program. -/
theorem NamedOperation.prog_spelled {o : NamedOperation} (direct : ¬o.delegates)
    (other : o ≠ .resolveCredential) : o.prog env accountId n = o.prog env accountId n' := by
  cases o with
  | createProfile =>
      simp only [prog]
      rw [CredentialService.createProfile, CredentialService.createProfile, same.profile]
  | getProfile => exact getProfile_spelled same accountId
  | deleteProfile => exact deleteProfile_spelled same accountId
  | putDirectCredential kind secret storesTotpSeed =>
      exact putDirectCredential_spelled same accountId kind secret storesTotpSeed
  | beginAuthorization redirectUri => exact beginAuthorization_spelled same accountId redirectUri
  | resolveHttpAuth => exact resolveHttpAuth_spelled same accountId
  | resolveFormSecrets =>
      simp only [prog]
      rw [CredentialService.resolveFormSecrets, CredentialService.resolveFormSecrets,
        load_spelled same]
  | revokeConnection => exact revokeConnection_spelled same accountId
  | storeDirect kind secret storesTotpSeed requester =>
      simp only [prog]
      rw [CredentialChanges.storeDirect, CredentialChanges.storeDirect,
        putDirectCredential_spelled same]
  | authorize redirectUri requester =>
      simp only [prog]
      rw [CredentialChanges.beginAuthorization, CredentialChanges.beginAuthorization,
        beginAuthorization_spelled same]
  | removeConnection requester =>
      simp only [prog]
      rw [CredentialChanges.removeConnection, CredentialChanges.removeConnection,
        revokeConnection_spelled same]
  | removeProfile requester =>
      simp only [prog]
      rw [CredentialChanges.removeProfile, CredentialChanges.removeProfile,
        getProfile_spelled same, deleteProfile_spelled same]
  | resolveCredential => exact absurd rfl other
  | _ => exact absurd trivial direct

end Normalized

/-! ## Lookups by the spelling -/

def noProfileOfThatName : Error := .profileNotFound "no profile of that name"

section Alone

variable {env : Env} {α β : Type} {w : World}

theorem play_profileGet (accountId name : String) (f : Option Profile → Service env β) (x : Input)
    (xs : List Input) :
    ((profileStore (.get accountId name) : Service env (Option Profile)) >>= f).play (x :: xs) w =
      (f (readProfile w.db accountId name)).play xs w := rfl

theorem play_clockNow (f : Instant → Service env β) (x : Input) (xs : List Input) :
    ((clockNow : Service env Instant) >>= f).play (x :: xs) w =
      (f x.now).play xs { w with clock := x.now } := rfl

theorem play_draw (f : String → Service env β) (x : Input) (xs : List Input) :
    ((draw : Service env String) >>= f).play (x :: xs) w = (f x.drawn).play xs w := rfl

theorem play_delegationStore {o : DelegationOp} {a : o.Ans} {db : Db}
    (stored : transact o.run w.db = (.ok a, db)) (f : o.Ans → Service env β) (x : Input)
    (xs : List Input) :
    ((delegationStore o : Service env o.Ans) >>= f).play (x :: xs) w =
      (f a).play xs { w with db := db } := by
  have performed : exec env (.delegations o) x w = some (.ok a, { w with db := db }) := by
    rw [exec, onDb, stored]
  exact Prog.play_call (M := machine env) (o := Op.delegations o) performed xs

theorem play_secretStore {o : SecretOp} {a : o.Ans} {db : Db}
    (stored : transact o.run w.db = (.ok a, db)) (f : o.Ans → Service env β) (x : Input)
    (xs : List Input) :
    ((secretStore o : Service env o.Ans) >>= f).play (x :: xs) w =
      (f a).play xs { w with db := db } := by
  have performed : exec env (.secrets o) x w = some (.ok a, { w with db := db }) := by
    rw [exec, onDb, stored]
  exact Prog.play_call (M := machine env) (o := Op.secrets o) performed xs

theorem play_requireProfile (accountId name : String) (f : Unit → Service env β) (x : Input)
    (xs : List Input) :
    (DelegationService.requireProfile env accountId name >>= f).play (x :: xs) w =
      if (w.db.profiles.find? (accountId, name)).isSome then (f ()).play xs w
      else some (.error noProfileOfThatName, w) := by
  rw [DelegationService.requireProfile, Prog.bind_assoc, play_profileGet, readProfile]
  cases w.db.profiles.find? (accountId, name) <;> rfl

/-- Two programs that first look up a profile which is not there. -/
theorem play_unstored {accountId name name' : String} {f f' : Unit → Service env β}
    (absent : w.db.profiles.find? (accountId, name) = none)
    (absent' : w.db.profiles.find? (accountId, name') = none) (inputs : List Input) :
    (DelegationService.requireProfile env accountId name >>= f).play inputs w =
      (DelegationService.requireProfile env accountId name' >>= f').play inputs w := by
  cases inputs with
  | nil => rfl
  | cons x xs => rw [play_requireProfile, play_requireProfile, absent, absent']; rfl

end Alone

theorem DelegationService.allow_refused {env : Env} {service : String} {audiences : List String}
    (refused : allow env service audiences ≠ .ok ()) :
    allow env service audiences =
      .error (.insufficientPermission "the service may not exchange for that audience") := by
  rw [allow] at refused ⊢
  split
  · rfl
  · rename_i granted
    simp only [granted] at refused
    exact absurd rfl refused

theorem DelegationService.create_refused {env : Env} {accountId profile service : String}
    {audiences : List String} {ttlSeconds : Int} {createdBy : Option String}
    (refused : allow env service audiences ≠ .ok ()) :
    create env accountId profile service audiences ttlSeconds createdBy =
      requireProfile env accountId profile >>= fun _ => throw
        (.insufficientPermission "the service may not exchange for that audience") := by
  unfold create
  congr 1
  funext _
  rw [allow_refused refused]
  rfl

theorem NormalNames.unstored {text : Text} {w : World} (names : NormalNames text w)
    {accountId name : String} (other : ¬IsProfileName text name) :
    w.db.profiles.find? (accountId, name) = none := by
  rw [← Option.not_isSome_iff_eq_none]
  exact fun stored => other (names.profiles (accountId, name) stored)

namespace NamedOperation

variable {env : Env} {n n' : Spelling}

theorem unstored_meaning {accountId : String} {w : World} (names : NormalNames env.text w)
    (unstored : Unstored env.text n n') {o : NamedOperation} {f f' : Unit → Service env o.Ans}
    (shape : o.prog env accountId n =
      DelegationService.requireProfile env accountId n.profile >>= f)
    (shape' : o.prog env accountId n' =
      DelegationService.requireProfile env accountId n'.profile >>= f') (inputs : List Input) :
    o.played env accountId n inputs w = o.played env accountId n' inputs w := by
  rw [played, played, shape, shape']
  rw [play_unstored (names.unstored unstored.1) (names.unstored unstored.2)]

theorem delegation_meaning {o : NamedOperation} (delegates : o.delegates)
    (one : o.Consistent env n n') : o.OneMeaning env n n' := by
  intro accountId w names fk inputs
  cases o with
  | createGrant audiences ttlSeconds createdBy =>
      rcases one with unstored | ⟨profile, service | ⟨refused, refused'⟩⟩
      · exact unstored_meaning names unstored rfl rfl inputs
      · rw [played, played, prog, prog, profile, service]
      · rw [played, played, prog, prog, DelegationService.create_refused refused,
          DelegationService.create_refused refused', profile]
  | listGrants =>
      rcases one with unstored | profile
      · exact unstored_meaning names unstored rfl rfl inputs
      · rw [played, played, prog, prog, profile]
  | revokeGrant grantId =>
      rcases one with unstored | profile
      · exact unstored_meaning names unstored rfl rfl inputs
      · rw [played, played, prog, prog, profile]
  | revokeGrantForService grantId =>
      rcases one with unstored | ⟨profile, service⟩
      · exact unstored_meaning names unstored rfl rfl inputs
      · rw [played, played, prog, prog, profile, service]
  | _ => exact absurd delegates id

/-- The internal read of a credential, past what it asks the credential service. -/
def reportExpiry (env : Env) (accountId : String) (n : Spelling)
    (headers params : List (String × String)) : HttpAuth → Service env ResolvedCredential
  | .apiKey _ => pure ⟨n.service, headers, params, none⟩
  | .oauth2 _ _ _ _ => do
      let record ← CredentialService.getProfile env accountId n.profile
      pure ⟨n.service, headers, params, (record.connection n.service).bind (·.expiresAt)⟩

theorem resolveCredential_eq (accountId : String) :
    resolveCredential.prog env accountId n =
      CredentialService.resolveHttpAuth env accountId n.profile n.service >>= fun credential =>
        credential.headers env >>= fun headers =>
          Prog.ofExcept (credential.queryParams env) >>= fun params =>
            reportExpiry env accountId n headers params credential := by
  simp only [prog, Internal.resolveCredential]
  congr 1
  funext credential
  congr 1
  funext headers
  congr 1
  funext params
  cases credential with
  | apiKey secret => rfl
  | oauth2 profile connection secret needsRefresh =>
      rw [Prog.bind_assoc]
      rfl

/-- The two readings of the response, past where it repeats a name. -/
theorem reportExpiry_alike (same : SameNames env.text n n') {accountId : String}
    (other : ¬IsServiceName env.text n.service ∧ ¬IsServiceName env.text n'.service)
    (headers params : List (String × String)) (credential : HttpAuth) {w : World}
    (names : NormalNames env.text w) (inputs : List Input) :
    ((reportExpiry env accountId n headers params credential).play inputs w).map
        (fun (result, w') => (result.map resolveCredential.unechoed, w')) =
      ((reportExpiry env accountId n' headers params credential).play inputs w).map
        (fun (result, w') => (result.map resolveCredential.unechoed, w')) := by
  have missing : ∀ service, ¬IsServiceName env.text service → ∀ profile : Profile,
      profile.NormalServices env.text → profile.connection service = none := by
    intro service raw profile normal
    rw [Profile.connection, List.find?_eq_none]
    intro connection held
    simp only [decide_eq_true_eq]
    exact fun here => raw (here ▸ normal connection held)
  cases credential with
  | apiKey secret => rfl
  | oauth2 _ _ _ _ =>
      simp only [reportExpiry]
      rw [CredentialService.getProfile_spelled same]
      refine Prog.play_bind_congr (fun o named s x a t names done => names.exec named done)
        (CredentialService.getProfile_named accountId n'.profile) (fun profile w normal _ xs => ?_)
        names inputs
      simp [missing _ other.1 profile normal, missing _ other.2 profile normal, Prog.play, unechoed,
        Except.map]

/-- A credential that cannot be resolved under one spelling cannot be under the other. -/
theorem resolveHttpAuth_never {accountId : String}
    (never : (∀ name, normalizeProfileName env.text n.profile ≠ .ok name) ∨ env.master = none) :
    Named (fun _ => False)
      (CredentialService.resolveHttpAuth env accountId n.profile n.service) := by
  suffices loading : Named (fun _ => False)
      (CredentialService.load env accountId n.profile n.service) from
    Prog.Under.bind loading fun _ impossible => impossible.elim
  rcases never with unnamed | vaultless
  · have nameless : Named (fun _ => False)
        (CredentialService.getProfile env accountId n.profile) := by
      refine Prog.Under.bind (P := fun _ => False) (Prog.Under.ofExcept fun name normal => ?_)
        fun _ impossible => impossible.elim
      exact unnamed name normal
    exact Prog.Under.bind nameless fun _ impossible => impossible.elim
  · refine Prog.Under.bind (CredentialService.getProfile_named accountId n.profile)
      fun profile _ => ?_
    refine Prog.Under.bind (Named.of_uses (ofExcept_uses _)) fun service _ => ?_
    split
    · trivial
    · refine Prog.Under.bind (Named.of_uses (refuseIf_uses _ _)) fun _ _ => ?_
      have unread : Named (fun _ => False) (getSecret env accountId profile.name service) := by
        rw [getSecret, vaultless]
        trivial
      exact Prog.Under.bind unread fun _ impossible => impossible.elim

theorem resolveCredential_meaning (same : SameNames env.text n n')
    (one : resolveCredential.Consistent env n n') : resolveCredential.OneMeaning env n n' := by
  intro accountId w names fk inputs
  have heads := CredentialService.resolveHttpAuth_spelled same accountId
  rw [played, played, resolveCredential_eq, resolveCredential_eq, ← heads]
  rcases one with service | other | never
  · have reports : reportExpiry env accountId n = reportExpiry env accountId n' := by
      funext headers params credential
      cases credential with
      | apiKey secret => rw [reportExpiry, reportExpiry, service]
      | oauth2 _ _ _ _ =>
          rw [reportExpiry, reportExpiry, service, CredentialService.getProfile_spelled same]
    rw [reports]
  · have keeps : ∀ o : Op, o.namesNormally env.text → ∀ (w : World) (x : Input) (a : o.Ans) w',
        NormalNames env.text w → exec env o x w = some (a, w') → NormalNames env.text w' :=
      fun o named w x a w' names done => names.exec named done
    refine Prog.play_bind_congr keeps (CredentialService.resolveHttpAuth_named _ _ _)
      (fun credential t normal names xs => ?_) names inputs
    refine Prog.play_bind_congr keeps (CredentialService.headers_named normal)
      (fun headers t _ names xs => ?_) names xs
    refine Prog.play_bind_congr keeps (Named.of_uses (ofExcept_uses _))
      (fun params t _ names xs => ?_) names xs
    exact reportExpiry_alike same other headers params credential names xs
  · exact Prog.play_bind_congr (fun o named s x a t names done => names.exec named done)
      (resolveHttpAuth_never never) (fun _ _ impossible => impossible.elim) names inputs

/-! ## Where the spelling decides -/

/-- A database with one account that has one profile, and grants on it. -/
def oneProfile (accountId name : String) (grants : Table OfflineGrant.grantId) : Db :=
  { Db.empty with
    accounts := ⟨[⟨accountId, "", "", 0, 0, .active, 0, none⟩], List.nodup_singleton _⟩
    profiles := ⟨[⟨"", accountId, name, 0, 0⟩], List.nodup_singleton _⟩
    offlineGrants := grants }

def atRest (db : Db) : World := ⟨db, 0, 0, .empty, .empty, []⟩

theorem oneProfile_find? (accountId name other : String) (grants : Table OfflineGrant.grantId) :
    ((oneProfile accountId name grants).profiles.find? (accountId, other)).isSome =
      decide (name = other) := by
  by_cases same : name = other <;> simp [oneProfile, Table.find?, ProfileRow.key, same]

theorem oneProfile_names {text : Text} {accountId name : String}
    {grants : Table OfflineGrant.grantId} (normal : IsProfileName text name) :
    NormalNames text (atRest (oneProfile accountId name grants)) where
  profiles key stored := by
    have here : key ∈ [(accountId, name)] := Table.isSome_find?.mp stored
    rw [List.mem_singleton.mp here]
    exact normal
  connections triple stored := by cases Table.isSome_find?.mp stored
  flows row stored := by cases stored

theorem oneProfile_foreignKeys {accountId name : String} {grants : Table OfflineGrant.grantId}
    (held : ∀ grant ∈ grants, (grant.accountId, grant.profile) = (accountId, name)) :
    ForeignKeys (oneProfile accountId name grants) where
  accountRolesAccount row stored := by cases stored
  accountRolesRole row stored := by cases stored
  sessions row stored := by cases stored
  grants row stored := by cases stored
  profiles row stored := by
    have here : row ∈ [_] := stored
    rw [List.mem_singleton.mp here]
    simp [oneProfile, Table.find?]
  connections row stored := by cases stored
  offlineGrants row stored := by
    rw [held row stored, oneProfile_find?]
    simp
  secrets row stored := by cases stored

/-- Enough readings for any of the calls below, all alike. -/
def readings : List Input := List.replicate 10 (Scenario.given 0 "drawn")

section Stage

variable {accountId : String} {grants : Table OfflineGrant.grantId} {o : NamedOperation}

theorem played_absent {name : String} (other : n.profile ≠ name) {f : Unit → Service env o.Ans}
    (shape : o.prog env accountId n =
      DelegationService.requireProfile env accountId n.profile >>= f) :
    o.played env accountId n readings (atRest (oneProfile accountId name grants)) =
      some (.error noProfileOfThatName, atRest (oneProfile accountId name grants)) := by
  rw [played, shape, readings, List.replicate_succ, play_requireProfile]
  simp [atRest, oneProfile_find?, Ne.symm other, Except.map]

theorem played_present {f : Unit → Service env o.Ans}
    (shape : o.prog env accountId n =
      DelegationService.requireProfile env accountId n.profile >>= f) :
    o.played env accountId n readings (atRest (oneProfile accountId n.profile grants)) =
      ((f ()).play (List.replicate 9 (Scenario.given 0 "drawn"))
        (atRest (oneProfile accountId n.profile grants))).map
        fun (result, w') => (result.map o.unechoed, w') := by
  rw [played, shape, readings, List.replicate_succ, play_requireProfile]
  simp [atRest, oneProfile_find?]

theorem listGrants_present :
    listGrants.played env accountId n readings (atRest (oneProfile accountId n.profile .empty)) =
      some (.ok [], atRest (oneProfile accountId n.profile .empty)) := by
  rw [played_present rfl]
  rfl

theorem revokeGrant_present (grantId : String) :
    (revokeGrant grantId).played env accountId n readings
        (atRest (oneProfile accountId n.profile .empty)) =
      some (.error (.profileNotFound noSuchOfflineGrant),
        atRest (oneProfile accountId n.profile .empty)) := by
  rw [played_present rfl]
  rfl

theorem revokeGrantForService_present (grantId : String) :
    (revokeGrantForService grantId).played env accountId n readings
        (atRest (oneProfile accountId n.profile .empty)) =
      some (.error (.profileNotFound noSuchOfflineGrant),
        atRest (oneProfile accountId n.profile .empty)) := by
  rw [played_present rfl]
  rfl

theorem transact_add {grant : OfflineGrant} {cap : Nat} (room : 0 < cap) (now : Instant)
    (ofAccount : grant.accountId = accountId) {name : String} (onProfile : grant.profile = name) :
    transact ((DelegationOp.add grant cap now).run) (oneProfile accountId name .empty) =
      (.ok (), oneProfile accountId name
        ⟨[{ grant with revokedAt := none }], List.nodup_singleton _⟩) := by
  rw [transact_ok]
  subst ofAccount onProfile
  have stored := oneProfile_find? grant.accountId grant.profile grant.profile .empty
  simp only [decide_true] at stored
  simp only [DelegationOp.run, StateT.run]
  rw [if_neg (by simp [← Option.not_isSome, stored]),
    if_neg (by simpa [oneProfile, Table.countWhere, Table.empty] using room.ne')]
  rfl

variable (accountId) in
theorem createGrant_present {audiences : List String} (ttlSeconds : Int)
    (createdBy : Option String)
    (granted : DelegationService.allow env n.service audiences = .ok ()) :
    ∃ grant w', (createGrant audiences ttlSeconds createdBy).played env accountId n readings
        (atRest (oneProfile accountId n.profile .empty)) = some (.ok grant, w') ∧
      w'.db.offlineGrants.rows.map (·.service) = [n.service] := by
  rw [played_present rfl]
  simp only [granted, Prog.ofExcept_eq, Prog.bind_ok]
  rw [List.replicate_succ, play_clockNow, List.replicate_succ, play_draw, List.replicate_succ,
    play_delegationStore (transact_add env.settings.delegation_pos.2 _ rfl rfl)]
  exact ⟨_, _, rfl, rfl⟩

section Held

variable (held : OfflineGrant) (ofAccount : held.accountId = accountId) {name : String}
  (onProfile : held.profile = name)
include ofAccount onProfile

theorem transact_listForProfile :
    transact ((DelegationOp.listForProfile accountId name).run)
        (oneProfile accountId name ⟨[held], List.nodup_singleton _⟩) =
      (.ok [held], oneProfile accountId name ⟨[held], List.nodup_singleton _⟩) := by
  subst ofAccount onProfile
  rw [transact_ok]
  simp [DelegationOp.run, select, StateT.run, oneProfile]

theorem transact_revoke (now : Instant) :
    ∃ grants, transact ((DelegationOp.revoke accountId name held.grantId now).run)
        (oneProfile accountId name ⟨[held], List.nodup_singleton _⟩) =
      (.ok true, oneProfile accountId name grants) := by
  subst ofAccount onProfile
  refine ⟨(⟨[held], List.nodup_singleton _⟩ : Table OfflineGrant.grantId).updateWhere
    (fun row => row.accountId = held.accountId && row.profile = held.profile &&
      row.grantId = held.grantId) (·.revoke now) (·.revoke_grantId now), ?_⟩
  rw [transact_ok]
  simp [DelegationOp.run, execute, StateT.run, oneProfile, Table.countWhere]

end Held

theorem revokeGrantForService_held (held : OfflineGrant) (ofAccount : held.accountId = accountId)
    (onProfile : held.profile = n.profile) (forService : held.service = n.service) :
    ∃ w', (revokeGrantForService held.grantId).played env accountId n readings
        (atRest (oneProfile accountId n.profile ⟨[held], List.nodup_singleton _⟩)) =
      some (.ok (), w') := by
  obtain ⟨grants, revoked⟩ := transact_revoke held ofAccount onProfile 0
  rw [played_present rfl, List.replicate_succ,
    play_delegationStore (transact_listForProfile held ofAccount onProfile)]
  have passes : ¬([held].all fun grant =>
      grant.grantId ≠ held.grantId || grant.service ≠ n.service) := by
    simp [forService]
  rw [refuseIf_bind, if_neg passes, DelegationService.withdraw, List.replicate_succ, play_clockNow,
    List.replicate_succ, play_delegationStore revoked]
  exact ⟨_, rfl⟩

theorem revokeGrantForService_other (held : OfflineGrant) (ofAccount : held.accountId = accountId)
    (onProfile : held.profile = n.profile) (forOther : held.service ≠ n.service) :
    ∃ w', (revokeGrantForService held.grantId).played env accountId n readings
        (atRest (oneProfile accountId n.profile ⟨[held], List.nodup_singleton _⟩)) =
      some (.error (.profileNotFound noSuchOfflineGrant), w') := by
  rw [played_present rfl, List.replicate_succ,
    play_delegationStore (transact_listForProfile held ofAccount onProfile)]
  have refused : [held].all fun grant =>
      grant.grantId ≠ held.grantId || grant.service ≠ n.service := by
    simp [forOther]
  rw [refuseIf_bind, if_pos refused]
  exact ⟨_, rfl⟩

theorem createGrant_refused {audiences : List String} {ttlSeconds : Int}
    {createdBy : Option String}
    (refused : DelegationService.allow env n.service audiences ≠ .ok ()) :
    (createGrant audiences ttlSeconds createdBy).played env accountId n readings
        (atRest (oneProfile accountId n.profile grants)) =
      some (.error (.insufficientPermission "the service may not exchange for that audience"),
        atRest (oneProfile accountId n.profile grants)) := by
  have shape : (createGrant audiences ttlSeconds createdBy).prog env accountId n =
      DelegationService.requireProfile env accountId n.profile >>= fun _ => throw
        (.insufficientPermission "the service may not exchange for that audience") :=
    DelegationService.create_refused refused
  rw [played_present shape]
  rfl

end Stage

theorem stored_decides {o : NamedOperation} (delegates : o.delegates)
    (normal : IsProfileName env.text n.profile) (other : n'.profile ≠ n.profile)
    (one : o.OneMeaning env n n') : False := by
  have fk : ForeignKeys (oneProfile "account" n.profile .empty) :=
    oneProfile_foreignKeys fun grant stored => by cases stored
  have both := one "account" (atRest (oneProfile "account" n.profile .empty))
    (oneProfile_names normal) fk readings
  cases o with
  | createGrant audiences ttlSeconds createdBy =>
      rw [played_absent other rfl] at both
      by_cases granted : DelegationService.allow env n.service audiences = .ok ()
      · obtain ⟨grant, w', answered, -⟩ := createGrant_present "account" ttlSeconds createdBy
          granted
        rw [answered] at both
        cases both
      · rw [createGrant_refused granted] at both
        cases both
  | listGrants =>
      rw [played_absent other rfl, listGrants_present] at both
      cases both
  | revokeGrant grantId =>
      rw [played_absent other rfl, revokeGrant_present] at both
      simp [noSuchOfflineGrant, noProfileOfThatName] at both
  | revokeGrantForService grantId =>
      rw [played_absent other rfl, revokeGrantForService_present] at both
      simp [noSuchOfflineGrant, noProfileOfThatName] at both
  | _ => exact delegates

theorem profile_decides {o : NamedOperation} (delegates : o.delegates)
    (one : o.OneMeaning env n n') :
    Unstored env.text n n' ∨ n.profile = n'.profile := by
  by_cases equal : n.profile = n'.profile
  · exact .inr equal
  · refine .inl ⟨fun normal => ?_, fun normal => ?_⟩
    · exact stored_decides delegates normal (Ne.symm equal) one
    · exact stored_decides delegates normal equal one.symm

theorem service_decides_create {audiences : List String} {ttlSeconds : Int}
    {createdBy : Option String} (normal : IsProfileName env.text n.profile)
    (profile : n.profile = n'.profile)
    (granted : DelegationService.allow env n.service audiences = .ok ())
    (one : (createGrant audiences ttlSeconds createdBy).OneMeaning env n n') :
    n.service = n'.service := by
  have fk : ForeignKeys (oneProfile "account" n.profile .empty) :=
    oneProfile_foreignKeys fun grant stored => by cases stored
  have both := one "account" (atRest (oneProfile "account" n.profile .empty))
    (oneProfile_names normal) fk readings
  obtain ⟨grant, w', answered, stored⟩ := createGrant_present "account" ttlSeconds createdBy granted
  rw [answered, profile] at both
  by_cases granted' : DelegationService.allow env n'.service audiences = .ok ()
  · obtain ⟨grant', w'', answered', stored'⟩ := createGrant_present "account" ttlSeconds createdBy
      granted'
    rw [answered'] at both
    cases both
    rw [stored] at stored'
    simpa using stored'
  · rw [createGrant_refused granted'] at both
    cases both

theorem service_decides_revoke {grantId : String} (normal : IsProfileName env.text n.profile)
    (profile : n.profile = n'.profile)
    (one : (revokeGrantForService grantId).OneMeaning env n n') : n.service = n'.service := by
  by_contra differ
  obtain ⟨held, rfl, ofAccount, onProfile, forService⟩ : ∃ held : OfflineGrant,
      held.grantId = grantId ∧ held.accountId = "account" ∧ held.profile = n.profile ∧
        held.service = n.service :=
    ⟨⟨grantId, "account", n.profile, n.service, [], 0, 0, none⟩, rfl, rfl, rfl, rfl⟩
  have fk : ForeignKeys (oneProfile "account" n.profile ⟨[held], List.nodup_singleton _⟩) :=
    oneProfile_foreignKeys fun grant stored => by
      rw [List.mem_singleton.mp (show grant ∈ [held] from stored), ofAccount, onProfile]
  have both := one "account" (atRest (oneProfile "account" n.profile
    ⟨[held], List.nodup_singleton _⟩)) (oneProfile_names normal) fk readings
  obtain ⟨w', answered⟩ := revokeGrantForService_held held ofAccount onProfile forService
  rw [answered, profile] at both
  obtain ⟨w'', refused⟩ := revokeGrantForService_other held ofAccount (onProfile.trans profile)
    (fun same => differ (forService.symm.trans same))
  rw [refused] at both
  cases both

/-- The delegation service gives both spellings one meaning only under the condition. -/
theorem delegation_consistent {o : NamedOperation} (delegates : o.delegates)
    (one : o.OneMeaning env n n') : o.Consistent env n n' := by
  rcases profile_decides delegates one with unstored | profile
  · cases o with
    | createGrant audiences ttlSeconds createdBy => exact .inl unstored
    | listGrants => exact .inl unstored
    | revokeGrant grantId => exact .inl unstored
    | revokeGrantForService grantId => exact .inl unstored
    | _ => exact absurd delegates id
  by_cases normal : IsProfileName env.text n.profile
  · cases o with
    | createGrant audiences ttlSeconds createdBy =>
        refine .inr ⟨profile, ?_⟩
        by_cases granted : DelegationService.allow env n.service audiences = .ok ()
        · exact .inl (service_decides_create normal profile granted one)
        by_cases granted' : DelegationService.allow env n'.service audiences = .ok ()
        · exact .inl (service_decides_create (profile ▸ normal) profile.symm granted' one.symm).symm
        · exact .inr ⟨granted, granted'⟩
    | listGrants => exact .inr profile
    | revokeGrant grantId => exact .inr profile
    | revokeGrantForService grantId =>
        exact .inr ⟨profile, service_decides_revoke normal profile one⟩
    | _ => exact absurd delegates id
  · have unstored : Unstored env.text n n' := ⟨normal, profile ▸ normal⟩
    cases o with
    | createGrant audiences ttlSeconds createdBy => exact .inl unstored
    | listGrants => exact .inl unstored
    | revokeGrant grantId => exact .inl unstored
    | revokeGrantForService grantId => exact .inl unstored
    | _ => exact absurd delegates id

/-! ### The reported expiry -/

/-- The one profile with an OAuth connection that is good until `deadline`. -/
def oneConnection (accountId name service : String) (envelope : Envelope) (deadline : Instant) :
    Db :=
  { oneProfile accountId name .empty with
    connections := ⟨[{
      service := service
      kind := .oauth2AuthorizationCode
      status := .active
      createdAt := 0
      updatedAt := 0
      expiresAt := some deadline
      accountId := accountId
      profileName := name }], List.nodup_singleton _⟩
    secrets := ⟨[⟨accountId, name, service, envelope, 0, 0⟩], List.nodup_singleton _⟩ }

section Connected

variable {accountId name service : String} {envelope : Envelope} {deadline : Instant}

theorem oneConnection_names {text : Text} (normal : IsProfileName text name)
    (named : IsServiceName text service) :
    NormalNames text (atRest (oneConnection accountId name service envelope deadline)) where
  profiles key stored := by
    have here : key ∈ [(accountId, name)] := Table.isSome_find?.mp stored
    rw [List.mem_singleton.mp here]
    exact normal
  connections triple stored := by
    have here : triple ∈ [(accountId, name, service)] := Table.isSome_find?.mp stored
    rw [List.mem_singleton.mp here]
    exact named
  flows row stored := by cases stored

theorem oneConnection_foreignKeys :
    ForeignKeys (oneConnection accountId name service envelope deadline) where
  accountRolesAccount row stored := by cases stored
  accountRolesRole row stored := by cases stored
  sessions row stored := by cases stored
  grants row stored := by cases stored
  profiles row stored := by
    have here : row ∈ [_] := stored
    rw [List.mem_singleton.mp here]
    simp [oneConnection, oneProfile, Table.find?]
  connections row stored := by
    have here : row ∈ [_] := stored
    rw [List.mem_singleton.mp here]
    change ((oneProfile accountId name .empty).profiles.find? (accountId, name)).isSome
    rw [oneProfile_find?]
    simp
  offlineGrants row stored := by cases stored
  secrets row stored := by
    have here : row ∈ [_] := stored
    rw [List.mem_singleton.mp here]
    simp [oneConnection, oneProfile, Table.find?]

/-- The connection as it is read. -/
def goodUntil (service : String) (deadline : Instant) : Connection where
  service := service
  kind := .oauth2AuthorizationCode
  status := .active
  createdAt := 0
  updatedAt := 0
  expiresAt := some deadline

theorem readProfile_oneConnection :
    readProfile (oneConnection accountId name service envelope deadline) accountId name =
      some ⟨⟨"", accountId, name, 0, 0⟩, [goodUntil service deadline]⟩ := by
  simp [readProfile, oneConnection, oneProfile, Table.find?, ProfileRow.key, profileOf,
    connectionsOf, goodUntil]

theorem play_getProfile {β : Type} {raw : String} {profile : Profile} {w : World}
    (normal : normalizeProfileName env.text raw = .ok name)
    (stored : readProfile w.db accountId name = some profile) (f : Profile → Service env β)
    (x : Input) (xs : List Input) :
    (CredentialService.getProfile env accountId raw >>= f).play (x :: xs) w =
      (f profile).play xs w := by
  rw [CredentialService.getProfile, normal]
  simp only [Prog.ofExcept_eq, Prog.bind_ok, Prog.bind_assoc]
  rw [play_profileGet, stored]
  rfl

theorem play_getSecret {β : Type} {master : String} {secret : Secret} {w : World}
    (vault : env.master = some master)
    (stored : (w.db.secrets.find? (accountId, name, service)).map (·.envelope) = some envelope)
    (opens : openEnvelope envelope master = .ok secret) (f : Option Secret → Service env β)
    (x : Input) (xs : List Input) :
    (getSecret env accountId name service >>= f).play (x :: xs) w =
      (f (some secret)).play xs w := by
  have read : transact ((SecretOp.get accountId name service).run) w.db =
      (.ok (some envelope), w.db) := by
    rw [transact_ok, ← stored]
    rfl
  rw [getSecret, vault]
  simp only [requireMaster, Prog.ofExcept_eq, Prog.bind_ok, Prog.bind_assoc]
  rw [play_secretStore read]
  simp only [opens, Prog.bind_ok]
  rfl

theorem play_resolveHttpAuth {β : Type} {master : String} {secret : Secret}
    (profile : normalizeProfileName env.text n.profile = .ok name)
    (connection : normalizeServiceName env.text n.service = .ok service)
    (vault : env.master = some master) (opens : openEnvelope envelope master = .ok secret)
    (f : HttpAuth → Service env β) (x y z : Input) (xs : List Input)
    (early : z.now < deadline - seconds env.settings.oauthRefreshMarginSeconds) :
    (CredentialService.resolveHttpAuth env accountId n.profile n.service >>= f).play
        (x :: y :: z :: xs) (atRest (oneConnection accountId name service envelope deadline)) =
      (f (.oauth2 ⟨⟨"", accountId, name, 0, 0⟩, [goodUntil service deadline]⟩
        (goodUntil service deadline) secret false)).play xs
        { atRest (oneConnection accountId name service envelope deadline) with clock := z.now } := by
  have found : (Profile.mk ⟨"", accountId, name, 0, 0⟩ [goodUntil service deadline]).connection
      service = some (goodUntil service deadline) := by
    simp [Profile.connection, goodUntil]
  have stored : ((atRest (oneConnection accountId name service envelope deadline)).db.secrets.find?
      (accountId, name, service)).map (·.envelope) = some envelope := by
    simp [atRest, oneConnection, Table.find?, SecretRow.key]
  have fresh : (goodUntil service deadline).needsRefresh z.now
      (seconds env.settings.oauthRefreshMarginSeconds) = false := by
    simp only [Connection.needsRefresh, goodUntil, ge_iff_le, decide_eq_false_iff_not, not_le]
    exact early
  rw [CredentialService.resolveHttpAuth, Prog.bind_assoc, CredentialService.load, Prog.bind_assoc,
    play_getProfile profile readProfile_oneConnection, connection]
  simp only [Prog.ofExcept_eq, Prog.bind_ok, found]
  rw [refuseIf_bind, if_neg (by simp [goodUntil])]
  simp only [Prog.bind_assoc]
  rw [play_getSecret vault stored opens]
  simp only [Prog.pure_eq, Prog.bind_ok]
  rw [show (goodUntil service deadline).kind = .oauth2AuthorizationCode from rfl]
  dsimp only
  rw [Prog.bind_assoc, play_clockNow, fresh]
  rfl

/-- The expiry is reported when the spelling is the stored one. -/
theorem resolveCredential_connected {master : String}
    (profile : normalizeProfileName env.text n.profile = .ok name)
    (connection : normalizeServiceName env.text n.service = .ok service)
    (vault : env.master = some master)
    (opens : openEnvelope envelope master = .ok [("access_token", .str "token")])
    (early : 0 < deadline - seconds env.settings.oauthRefreshMarginSeconds) :
    ∃ headers w', resolveCredential.played env accountId n readings
        (atRest (oneConnection accountId name service envelope deadline)) =
      some (.ok ⟨"", headers, [], if n.service = service then some deadline else none⟩, w') := by
  rw [played, resolveCredential_eq, readings, List.replicate_succ, List.replicate_succ,
    List.replicate_succ, play_resolveHttpAuth profile connection vault opens _ _ _ _ _ early]
  have rendered : (HttpAuth.oauth2 ⟨⟨"", accountId, name, 0, 0⟩, [goodUntil service deadline]⟩
      (goodUntil service deadline) [("access_token", .str "token")] false).headers env =
      .done (.ok [("Authorization", "Bearer token")]) := rfl
  have lookedUp : (Profile.mk ⟨"", accountId, name, 0, 0⟩ [goodUntil service deadline]).connection
      n.service = if n.service = service then some (goodUntil service deadline) else none := by
    by_cases same : n.service = service
    · simp [Profile.connection, goodUntil, same]
    · simp [Profile.connection, goodUntil, same, Ne.symm same]
  simp only [rendered, HttpAuth.queryParams, Prog.ofExcept_eq, Prog.bind_ok, reportExpiry]
  rw [List.replicate_succ, play_getProfile profile readProfile_oneConnection, lookedUp]
  by_cases same : n.service = service
  · rw [if_pos same, if_pos same]
    exact ⟨_, _, rfl⟩
  · rw [if_neg same, if_neg same]
    exact ⟨_, _, rfl⟩

end Connected

theorem service_decides_resolve (stable : LowerStable env.text) (same : SameNames env.text n n')
    {name master : String} (profile : normalizeProfileName env.text n.profile = .ok name)
    (vault : env.master = some master) (normal : IsServiceName env.text n.service)
    (one : resolveCredential.OneMeaning env n n') : n'.service = n.service := by
  by_contra other
  let margin := seconds env.settings.oauthRefreshMarginSeconds
  let envelope := sealSecret [("access_token", .str "token")] master ⟨"", "", ""⟩
  have early : (0 : Int) < margin + 1 - margin := Int.sub_pos_of_lt (Int.lt_succ margin)
  have both := one "account" (atRest (oneConnection "account" name n.service envelope (margin + 1)))
    (oneConnection_names (isProfileName_normalize stable profile) normal)
    oneConnection_foreignKeys readings
  obtain ⟨headers, w', answered⟩ := resolveCredential_connected profile normal vault
    (openEnvelope_sealSecret _ _ _) early
  obtain ⟨headers', w'', answered'⟩ := resolveCredential_connected (same.profile ▸ profile)
    (same.service.symm.trans normal) vault (openEnvelope_sealSecret _ _ _) early
  rw [answered, answered', if_pos rfl, if_neg other] at both
  cases both

theorem resolveCredential_consistent (stable : LowerStable env.text)
    (same : SameNames env.text n n') (one : resolveCredential.OneMeaning env n n') :
    resolveCredential.Consistent env n n' := by
  by_cases unnamed : ∀ name, normalizeProfileName env.text n.profile ≠ .ok name
  · exact .inr (.inr (.inl unnamed))
  obtain ⟨name, profile⟩ := not_forall_not.mp unnamed
  cases vault : env.master with
  | none => exact .inr (.inr (.inr vault))
  | some master =>
      by_cases normal : IsServiceName env.text n.service
      · exact .inl (service_decides_resolve stable same profile vault normal one).symm
      by_cases normal' : IsServiceName env.text n'.service
      · exact .inl (service_decides_resolve stable ⟨same.profile.symm, same.service.symm⟩
          (same.profile ▸ profile) vault normal' one.symm)
      · exact .inr (.inl ⟨normal, normal'⟩)

end NamedOperation

/-- Two spellings of the same names mean the same to an operation exactly under the condition
on the names that it compares as they were spelled. -/
theorem one_meaning_iff (env : Env) (stable : LowerStable env.text) (o : NamedOperation)
    (n n' : Spelling) (same : SameNames env.text n n') :
    o.OneMeaning env n n' ↔ o.Consistent env n n' := by
  by_cases delegates : o.delegates
  · exact ⟨NamedOperation.delegation_consistent delegates,
      NamedOperation.delegation_meaning delegates⟩
  by_cases resolves : o = .resolveCredential
  · subst resolves
    exact ⟨NamedOperation.resolveCredential_consistent stable same,
      NamedOperation.resolveCredential_meaning same⟩
  constructor
  · intro _
    cases o with
    | resolveCredential => exact absurd rfl resolves
    | createGrant | listGrants | revokeGrant | revokeGrantForService =>
        exact absurd trivial delegates
    | _ => trivial
  · intro _ accountId w names fk inputs
    rw [NamedOperation.played, NamedOperation.played,
      NamedOperation.prog_spelled same accountId delegates resolves]

/-! ## Two spellings of one home -/

namespace Scenario

def plainSpelling : Spelling := ⟨"home", "mail"⟩

def looseSpelling : Spelling := ⟨" Home", "MAIL"⟩

theorem home_normal : IsProfileName asciiText "home" := rfl

theorem mail_normal : IsServiceName asciiText "mail" := rfl

theorem sameNames_loose : SameNames asciiText plainSpelling looseSpelling where
  profile := by
    have loose : normalizeProfileName asciiText " Home" = .ok "home" := rfl
    exact Eq.trans home_normal loose.symm
  service := by
    have loose : normalizeServiceName asciiText "MAIL" = .ok "mail" := rfl
    exact Eq.trans mail_normal loose.symm

end Scenario

open Scenario NamedOperation in
theorem one_meaning_iff_loose : SameNames asciiText plainSpelling looseSpelling ∧
    (listGrants.OneMeaning deployment plainSpelling looseSpelling ↔
      listGrants.Consistent deployment plainSpelling looseSpelling) :=
  ⟨sameNames_loose,
    one_meaning_iff deployment asciiText_stable listGrants plainSpelling looseSpelling sameNames_loose⟩

open Scenario NamedOperation in
/-- The grants of a profile are found, and an expiry reported, under one spelling only. -/
theorem loose_names_differ : SameNames asciiText plainSpelling looseSpelling ∧
    ¬listGrants.OneMeaning deployment plainSpelling looseSpelling ∧
    ¬resolveCredential.OneMeaning deployment plainSpelling looseSpelling := by
  refine ⟨sameNames_loose, fun one => ?_, fun one => ?_⟩
  · have delegates : listGrants.delegates := trivial
    rcases delegation_consistent delegates one with unstored | same
    · exact unstored.1 home_normal
    · exact absurd same (by decide)
  · have stable : LowerStable deployment.text := asciiText_stable
    have spelled : SameNames deployment.text plainSpelling looseSpelling := sameNames_loose
    rcases resolveCredential_consistent stable spelled one with same | other | unnamed | vaultless
    · exact absurd same (by decide)
    · exact other.1 mail_normal
    · exact unnamed "home" home_normal
    · cases vaultless

end Keyring

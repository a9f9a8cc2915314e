import Keyring.Credentials.Callbacks
import Keyring.Interleave.Invariant
import Mathlib.Data.List.DropRight

/-!
# The names that are stored

The credential service writes a profile or a connection under the normal form of
the name it was given.  So in every run every stored profile and connection, and
every authorization in progress, is named by a normal form.
-/

set_option autoImplicit false

namespace Keyring

open Interleave Relational

/-- A profile name as it is stored and addressed. -/
def IsProfileName (text : Text) (name : String) : Prop := normalizeProfileName text name = .ok name

def IsServiceName (text : Text) (name : String) : Prop := normalizeServiceName text name = .ok name

/-- A normal form is a spelling of itself: `str.lower` is idempotent and brings no
surrounding space. -/
def LowerStable (text : Text) : Prop :=
  ∀ raw, text.lower (strip (text.lower (strip raw))) = text.lower (strip raw)

section Normal

variable {text : Text} (stable : LowerStable text)
include stable

theorem normalizeName_idem {what : String} {limit : Nat} {error : String → Error}
    {raw name : String} (normal : normalizeName text what limit error raw = .ok name) :
    normalizeName text what limit error name = .ok name := by
  have same : name = text.lower (strip raw) := by
    rw [normalizeName] at normal
    split at normal
    · cases normal
    · split at normal
      · cases normal
      · split at normal
        · cases normal
        · cases normal
          rfl
  rw [normalizeName, same, stable raw]
  rw [normalizeName] at normal
  rw [normal, same]

theorem isProfileName_normalize {raw name : String}
    (normal : normalizeProfileName text raw = .ok name) : IsProfileName text name :=
  normalizeName_idem stable normal

theorem isServiceName_normalize {raw name : String}
    (normal : normalizeServiceName text raw = .ok name) : IsServiceName text name :=
  normalizeName_idem stable normal

end Normal

structure NormalNames (text : Text) (w : World) : Prop where
  profiles : ∀ key, (w.db.profiles.find? key).isSome → IsProfileName text key.2
  connections : ∀ triple, (w.db.connections.find? triple).isSome → IsServiceName text triple.2.2
  flows : ∀ row ∈ w.flows, IsServiceName text row.flow.binding.service

/-- A step that writes no name but a normal form. -/
def Op.namesNormally (text : Text) : Op → Prop
  | .profiles (.add profile _) => IsProfileName text profile.name ∧ profile.connections = []
  | .profiles (.putConnection _ _ connection _ _) => IsServiceName text connection.service
  | .issueState _ flow => IsServiceName text flow.binding.service
  | _ => True

theorem Op.quiet.namesNormally {text : Text} {o : Op} (quiet : o.quiet) : o.namesNormally text := by
  cases o with
  | profiles o => cases o <;> trivial
  | issueState => exact absurd quiet id
  | _ => trivial

variable {env : Env}

/-! ## One step -/

section Step

variable {text : Text} {w w' : World}

theorem NormalNames.deleteAccount (names : NormalNames text w) {accountId : String}
    (gone : w'.db = w.db.deleteAccount accountId) (same : w'.flows = w.flows) :
    NormalNames text w' where
  profiles key stored := by
    apply names.profiles key
    rw [gone] at stored
    simp only [Db.deleteAccount, Db.deleteProfiles, Table.find?_deleteWhere] at stored
    exact Option.isSome_of_isSome_filter _ _ stored
  connections triple stored := by
    apply names.connections triple
    rw [gone] at stored
    simp only [Db.deleteAccount, Db.deleteProfiles, Table.find?_deleteWhere] at stored
    exact Option.isSome_of_isSome_filter _ _ stored
  flows := same ▸ names.flows

/-- A transaction that leaves no row under a new name. -/
theorem NormalNames.of_kept (names : NormalNames text w)
    (profiles : ∀ key, (w'.db.profiles.find? key).isSome → (w.db.profiles.find? key).isSome)
    (connections : ∀ triple,
      (w'.db.connections.find? triple).isSome → (w.db.connections.find? triple).isSome)
    (flows : w'.flows = w.flows) : NormalNames text w' where
  profiles key stored := names.profiles key (profiles key stored)
  connections triple stored := names.connections triple (connections triple stored)
  flows := flows ▸ names.flows

theorem NormalNames.of_same (names : NormalNames text w) (same : w'.db = w.db)
    (flows : w'.flows = w.flows) : NormalNames text w' :=
  names.of_kept (fun _ stored => same ▸ stored) (fun _ stored => same ▸ stored) flows

theorem NormalNames.profileOp (names : NormalNames text w) {o : ProfileOp} {v : o.Ans}
    (named : Op.namesNormally text (.profiles o))
    (committed : (o.run text).run w.db = .ok (v, w'.db)) (flows : w'.flows = w.flows) :
    NormalNames text w' := by
  cases o with
  | add profile cap =>
      obtain ⟨-, -, table, inserted, written⟩ := ProfileOp.add_ok named.2 committed
      refine ⟨fun key stored => ?_, fun triple stored => ?_, flows ▸ names.flows⟩
      · rw [written, Table.find?_insert? inserted] at stored
        split at stored
        · rename_i here
          rw [← here]
          exact named.1
        · exact names.profiles key stored
      · rw [written] at stored
        exact names.connections triple stored
  | putConnection accountId name connection cap now =>
      obtain ⟨put, -⟩ := ProfileOp.putConnection_ok committed
      refine ⟨fun key stored => ?_, fun triple stored => ?_, flows ▸ names.flows⟩
      · rw [put.profiles key] at stored
        exact names.profiles key stored
      · by_cases here : triple = (accountId, name, connection.service)
        · rw [here]
          exact named
        · rw [put.others triple here] at stored
          exact names.connections triple stored
  | removeConnection accountId name service now =>
      obtain ⟨-, profiles, connections, -⟩ := ProfileOp.removeConnection_ok committed
      refine names.of_kept (fun key stored => profiles key ▸ stored) (fun triple stored => ?_) flows
      rw [connections triple] at stored
      split at stored
      · cases stored
      · exact stored
  | delete accountId name =>
      have gone := (ProfileOp.delete_ok committed).2
      refine names.of_kept (fun key stored => ?_) (fun triple stored => ?_) flows
      · rw [gone, Db.deleteProfiles] at stored
        simp only [Table.find?_deleteWhere] at stored
        exact Option.isSome_of_isSome_filter _ _ stored
      · rw [gone, Db.deleteProfiles] at stored
        simp only [Table.find?_deleteWhere] at stored
        exact Option.isSome_of_isSome_filter _ _ stored
  | get accountId name => exact names.of_same (ProfileOp.get_ok committed).2 flows
  | listForAccount accountId =>
      exact names.of_same (Prod.mk.inj (Except.ok.inj committed)).2.symm flows
  | countForAccount accountId =>
      exact names.of_same (Prod.mk.inj (Except.ok.inj committed)).2.symm flows
  | allProfiles => exact names.of_same (Prod.mk.inj (Except.ok.inj committed)).2.symm flows

/-- Steps of other stores leave the names, or take those of an account away. -/
theorem NormalNames.touches (names : NormalNames text w) {o : Op} (touches : Touches o w.db w'.db)
    (other : ∀ po, o ≠ .profiles po) (flows : w'.flows = w.flows) : NormalNames text w' := by
  rcases touches.profiles other with ⟨profiles, connections⟩ | ⟨accountId, gone⟩
  · exact names.of_kept (fun _ stored => profiles ▸ stored) (fun _ stored => connections ▸ stored)
      flows
  · exact names.deleteAccount gone flows

theorem NormalNames.exec {w w' : World} (names : NormalNames env.text w) {o : Op} {x : Input}
    {a : o.Ans} (named : o.namesNormally env.text) (done : Keyring.exec env o x w = some (a, w')) :
    NormalNames env.text w' := by
  have touched := exec_touches done
  cases o with
  | profiles o =>
      have flows : w'.flows = w.flows := by rw [(onDb_eq.mp done).2]
      rcases onDb_cases done with ⟨v, -, committed⟩ | ⟨-, same⟩
      · exact names.profileOp named committed flows
      · exact names.of_same same flows
  | issueState stateHash flow =>
      cases done
      refine ⟨names.profiles, names.connections, fun row stored => ?_⟩
      rcases Table.mem_upsert stored with old | ⟨-, written⟩
      · exact names.flows row old
      · have bound : row.flow = flow := by
          rw [written]
          cases w.flows.find? stateHash <;> rfl
        rw [bound]
        exact named
  | redeemState stateHash =>
      cases done
      exact ⟨names.profiles, names.connections, fun row stored =>
        names.flows row (Table.mem_deleteWhere.mp stored).1⟩
  | purgeStates now =>
      cases done
      exact ⟨names.profiles, names.connections, fun row stored =>
        names.flows row (Table.mem_deleteWhere.mp stored).1⟩
  | acquire key =>
      rw [Keyring.exec] at done
      split at done <;> cases done
      exact names.of_same rfl rfl
  | accounts o | sessions o | grants o | roles o | secrets o | delegations o | audit o =>
      have flows : w'.flows = w.flows := by rw [(onDb_eq.mp done).2]
      exact names.touches touched (fun _ => Op.noConfusion) flows
  | _ =>
      cases done
      exact names.of_same rfl rfl

end Step

/-! ## What a request reads and writes -/

/-- A program that reads and writes normal names only, and returns a value with `P`. -/
abbrev Named {α : Type} (P : α → Prop) (p : Service env α) : Prop :=
  p.Under (NormalNames env.text) (Op.namesNormally env.text) P

def Profile.NormalServices (text : Text) (profile : Profile) : Prop :=
  ∀ connection ∈ profile.connections, IsServiceName text connection.service

theorem Named.of_uses {α : Type} {p : Service env α}
    (uses : p.Uses fun (o : Op) => o.namesNormally env.text) : Named (fun _ => True) p :=
  Prog.Under.of_uses uses

theorem calm_namesNormally (o : Op) (calm : o.calm) : o.namesNormally env.text :=
  calm.quiet.namesNormally

theorem NormalNames.readProfile {text : Text} {w : World} (names : NormalNames text w)
    {accountId name : String} {profile : Profile}
    (read : Keyring.readProfile w.db accountId name = some profile) :
    profile.NormalServices text := by
  rw [Keyring.readProfile, Option.map_eq_some_iff] at read
  obtain ⟨row, -, rfl⟩ := read
  intro connection held
  simp only [profileOf, connectionsOf, List.mem_map, List.mem_insertionSort, List.mem_filter] at held
  obtain ⟨stored, ⟨inside, -⟩, rfl⟩ := held
  apply names.connections stored.key
  rw [Table.find?_self inside]
  rfl

theorem readProfile_named (accountId name : String) :
    Named (fun found : Option Profile => ∀ profile, found = some profile →
      profile.NormalServices env.text)
      (profileStore (.get accountId name) : Service env (Option Profile)) := by
  refine ⟨trivial, fun w x a w' names done => ?_⟩
  cases a with
  | error e => trivial
  | ok found =>
      intro profile here
      subst here
      obtain ⟨read, -⟩ := ProfileOp.get_ok (transact_ok.mp (onDb_eq.mp done).1)
      exact names.readProfile read.symm

/-- The connection behind an OAuth credential was read from the store. -/
def HttpAuth.NormalService (text : Text) : HttpAuth → Prop
  | .apiKey _ => True
  | .oauth2 _ connection _ _ => IsServiceName text connection.service

namespace CredentialService

theorem getProfile_named (accountId name : String) :
    Named (·.NormalServices env.text) (getProfile env accountId name) := by
  refine Prog.Under.bind (Prog.Under.ofExcept fun _ _ => trivial) fun normalized _ => ?_
  refine Prog.Under.bind (readProfile_named accountId normalized) fun found normal => ?_
  cases found with
  | none => trivial
  | some profile => exact normal profile rfl

theorem load_named (accountId profileName serviceName : String) :
    Named (fun loaded => IsServiceName env.text loaded.2.1.service)
      (load env accountId profileName serviceName) := by
  refine Prog.Under.bind (getProfile_named accountId profileName) fun profile normal => ?_
  refine Prog.Under.bind (Prog.Under.ofExcept fun _ _ => trivial) fun service _ => ?_
  split
  · trivial
  · rename_i connection held
    have named := normal connection (List.mem_of_find?_eq_some held)
    refine Prog.Under.bind (Named.of_uses (refuseIf_uses _ _)) fun _ _ => ?_
    refine Prog.Under.bind (Named.of_uses (getSecret_uses calm_namesNormally _ _ _))
      fun found _ => ?_
    cases found with
    | none => trivial
    | some secret => exact named

theorem resolveHttpAuth_named (accountId profileName serviceName : String) :
    Named (·.NormalService env.text) (resolveHttpAuth env accountId profileName serviceName) := by
  refine Prog.Under.bind (load_named accountId profileName serviceName) fun loaded named => ?_
  obtain ⟨profile, connection, secret⟩ := loaded
  dsimp only
  split
  · trivial
  · exact Prog.Under.bind (Named.of_uses (ask_uses trivial)) fun now _ => named
  · trivial

theorem headers_named {auth : HttpAuth} (normal : auth.NormalService env.text) :
    Named (fun _ => True) (auth.headers env) := by
  apply Named.of_uses
  cases auth with
  | apiKey secret => trivial
  | oauth2 profile connection secret needsRefresh =>
      refine Prog.Uses.bind ?_ fun current => ofExcept_uses _
      split
      · refine refresh_writes (fun _ quiet => quiet.namesNormally) (fun written now same => ?_)
          (fun _ _ => trivial) secret
        change IsServiceName env.text written.service
        rw [same]
        exact normal
      · trivial

theorem redeemAuthorization_named (state : String) :
    Named (fun binding => IsServiceName env.text binding.service)
      (redeemAuthorization env state) := by
  refine Prog.Under.bind (Named.of_uses (ask_uses trivial)) fun now _ => ?_
  refine ⟨trivial, fun w x found w' names done => ?_⟩
  cases done
  cases here : w.flows.find? (env.hashToken state) with
  | none => trivial
  | some row =>
      have bound := names.flows row (Table.find?_eq_some.mp here).1
      change Named _ (refuseIf _ _ >>= fun _ => (pure row.flow.binding : Service env FlowBinding))
      exact Prog.Under.bind (Named.of_uses (refuseIf_uses _ _)) fun _ _ => bound

theorem finishAuthorization_named {binding : FlowBinding}
    (bound : IsServiceName env.text binding.service) (code : String) :
    Named (fun _ => True) (finishAuthorization env binding code) := by
  apply Named.of_uses
  refine Prog.Uses.bind (profileStore_uses trivial) fun found => ?_
  cases found with
  | none => trivial
  | some profile =>
      refine Prog.Uses.bind (ofExcept_uses _) fun provider => ?_
      refine Prog.Uses.bind (TokenEndpoint.post_uses (fun _ _ => trivial) _) fun secret => ?_
      refine storeOauthSecret_uses calm_namesNormally (fun connection now same => ?_)
        (fun _ _ => trivial) secret provider
      change IsServiceName env.text connection.service
      rw [same]
      exact bound

section Stable

variable (stable : LowerStable env.text)
include stable

theorem normalizeServiceName_named (raw : String) :
    Named (IsServiceName env.text)
      (Prog.ofExcept (normalizeServiceName env.text raw) : Service env String) :=
  Prog.Under.ofExcept fun _ normal => isServiceName_normalize stable normal

theorem createProfile_named (accountId name : String) :
    Named (fun _ => True) (createProfile env accountId name) := by
  have normalizing : Named (IsProfileName env.text)
      (Prog.ofExcept (normalizeProfileName env.text name) : Service env String) :=
    Prog.Under.ofExcept fun _ normal => isProfileName_normalize stable normal
  refine Prog.Under.bind normalizing fun normalized named => ?_
  apply Named.of_uses
  refine Prog.Uses.bind (ask_uses trivial) fun now => ?_
  refine Prog.Uses.bind (ask_uses trivial) fun hex => ?_
  exact Prog.Uses.bind (profileStore_uses ⟨named, rfl⟩) fun _ => trivial

theorem putDirectCredential_named (accountId profileName serviceName : String)
    (kind : CredentialKind) (secret : Secret) (storesTotpSeed : Bool) :
    Named (fun _ => True) (putDirectCredential env accountId profileName serviceName kind secret
      storesTotpSeed) := by
  refine Prog.Under.bind (getProfile_named accountId profileName) fun profile _ => ?_
  refine Prog.Under.bind (normalizeServiceName_named stable serviceName) fun service named => ?_
  apply Named.of_uses
  refine Prog.Uses.bind (ofExcept_uses _) fun _ => ?_
  refine Prog.Uses.bind (ask_uses trivial) fun now => ?_
  refine Prog.Uses.bind (putConnection_uses (fun _ => named) _) fun stored => ?_
  exact Prog.Uses.bind (putSecret_uses calm_namesNormally (fun _ _ => trivial) secret)
    fun _ => trivial

theorem beginAuthorization_named (accountId profileName serviceName redirectUri : String) :
    Named (fun _ => True)
      (beginAuthorization env accountId profileName serviceName redirectUri) := by
  refine Prog.Under.bind (getProfile_named accountId profileName) fun profile _ => ?_
  refine Prog.Under.bind (normalizeServiceName_named stable serviceName) fun service named => ?_
  apply Named.of_uses
  refine Prog.Uses.bind (ofExcept_uses _) fun provider => ?_
  refine Prog.Uses.bind (ask_uses trivial) fun state => ?_
  refine Prog.Uses.bind (ask_uses trivial) fun issued => ?_
  refine Prog.Uses.bind (ask_uses named) fun _ => ?_
  refine Prog.Uses.bind (ask_uses trivial) fun now => ?_
  refine Prog.Uses.bind ?_ fun _ => trivial
  split
  · trivial
  · exact putConnection_uses (fun _ => named) _

end Stable

end CredentialService

/-! ## Every request -/

theorem returning_named {α : Type} {p : Service env α} {P : α → Prop} (named : Named P p)
    (answer : α → Answer) : Named (fun _ => True) (returning p answer) :=
  Prog.Under.bind named fun _ _ => trivial

theorem admitted_named (accountId : String) (requester : Requester) :
    Named (fun _ => True) (CredentialChanges.admitted env accountId requester) :=
  Named.of_uses (CredentialChanges.admitted_writes (fun _ quiet => quiet.namesNormally)
    (fun _ _ => trivial) accountId)

theorem announce_named (accountId : String) (preferences : Preferences) :
    Named (fun _ => True) (CredentialChanges.announce env accountId preferences) :=
  Named.of_uses (CredentialChanges.announce_uses calm_namesNormally accountId preferences)

/-- The binding that a callback finishes came from an authorization in progress. -/
def Call.bound (text : Text) : Call → Prop
  | .credential (.finishAuthorization binding _) => IsServiceName text binding.service
  | _ => True

theorem Call.unnamed {c : Call} (adds : ∀ profile cap, ¬c.writes (.profiles (.add profile cap)))
    (puts : ∀ accountId name connection cap now,
      ¬c.writes (.profiles (.putConnection accountId name connection cap now)))
    (begins : ¬c.begins) : Named (fun _ => True) (c.prog env) := by
  apply Named.of_uses
  refine c.prog_uses (fun _ quiet => quiet.namesNormally) (fun o writes _ => ?_)
    fun some => absurd some begins
  cases o with
  | profiles o =>
      cases o with
      | add profile cap => exact absurd writes (adds profile cap)
      | putConnection accountId name connection cap now =>
          exact absurd writes (puts accountId name connection cap now)
      | _ => trivial
  | issueState stateHash flow => exact absurd trivial (c.writes_still writes)
  | _ => trivial

section Requests

variable (stable : LowerStable env.text)
include stable

theorem CredentialCall.prog_named (c : CredentialCall)
    (bound : Call.bound env.text (.credential c)) :
    Named (fun _ => True) ((Call.credential c).prog env) := by
  cases c with
  | createProfile accountId name =>
      exact returning_named (CredentialService.createProfile_named stable accountId name) _
  | putDirectCredential accountId profileName serviceName kind secret storesTotpSeed =>
      exact returning_named (CredentialService.putDirectCredential_named stable _ _ _ _ _ _) _
  | beginAuthorization accountId profileName serviceName redirectUri =>
      exact returning_named (CredentialService.beginAuthorization_named stable _ _ _ _) _
  | finishAuthorization binding code =>
      exact returning_named (CredentialService.finishAuthorization_named bound code) _
  | completeAuthorization state code =>
      refine returning_named (P := fun _ => True) ?_ _
      exact Prog.Under.bind (CredentialService.redeemAuthorization_named state)
        fun binding named => CredentialService.finishAuthorization_named named code
  | resolveHeaders accountId profileName serviceName =>
      refine returning_named (P := fun _ => True) ?_ _
      refine Prog.Under.bind (CredentialService.resolveHttpAuth_named _ _ _) fun auth normal => ?_
      cases auth with
      | apiKey secret => trivial
      | oauth2 profile connection secret needsRefresh =>
          have renewing : Named (fun _ => True)
              ((HttpAuth.oauth2 profile connection secret needsRefresh).headers env) :=
            CredentialService.headers_named normal
          exact renewing
  | _ => exact Call.unnamed (fun _ _ => id) (fun _ _ _ _ _ => id) id

theorem ChangeCall.prog_named (c : ChangeCall) :
    Named (fun _ => True) ((Call.change c).prog env) := by
  cases c with
  | storeDirect accountId profileName serviceName kind secret storesTotpSeed requester =>
      refine returning_named (P := fun _ => True) ?_ _
      refine Prog.Under.bind (admitted_named accountId requester) fun preferences _ => ?_
      refine Prog.Under.bind (CredentialService.putDirectCredential_named stable _ _ _ _ _ _)
        fun connection _ => ?_
      exact Prog.Under.bind (announce_named accountId preferences) fun _ _ => trivial
  | beginAuthorization accountId profileName serviceName redirectUri requester =>
      refine returning_named (P := fun _ => True) ?_ _
      refine Prog.Under.bind (admitted_named accountId requester) fun preferences _ => ?_
      exact CredentialService.beginAuthorization_named stable _ _ _ _
  | completeAuthorization state code =>
      refine returning_named (P := fun _ => True) ?_ _
      refine Prog.Under.bind (CredentialService.redeemAuthorization_named state)
        fun binding named => ?_
      refine Prog.Under.bind (Named.of_uses (preferencesFor_uses trivial)) fun preferences _ => ?_
      refine Prog.Under.bind (CredentialService.finishAuthorization_named named code)
        fun connection _ => ?_
      exact Prog.Under.bind (announce_named _ preferences) fun _ _ => trivial
  | _ =>
      refine Call.unnamed (fun _ _ => ?_) (fun _ _ _ _ _ => ?_) id
      · simp [Call.writes, ChangeCall.writes, Requester.writes, Op.unstores, Op.discards]
      · simp [Call.writes, ChangeCall.writes, Requester.writes, Op.unstores, Op.discards]

theorem InternalCall.prog_named (c : InternalCall) (service : String) (userToken : Option String) :
    Named (fun _ => True) ((Call.internal service userToken c).prog env) := by
  have acting : Named (fun _ => True) (Internal.actingFor env service userToken) :=
    Named.of_uses (Internal.actingFor_writes (fun _ quiet => quiet.namesNormally) service userToken)
  cases c with
  | resolveCredential profile name =>
      refine Prog.Under.bind acting fun accountId _ => ?_
      refine returning_named (P := fun _ => True) ?_ _
      refine Prog.Under.bind (CredentialService.resolveHttpAuth_named _ _ _) fun auth normal => ?_
      refine Prog.Under.bind (CredentialService.headers_named normal) fun headers _ => ?_
      apply Named.of_uses
      refine Prog.Uses.bind (ofExcept_uses _) fun params => ?_
      refine Prog.Uses.bind ?_ fun expiresAt => trivial
      split
      · trivial
      · exact Prog.Uses.bind (CredentialService.getProfile_uses calm_namesNormally _ _)
          fun _ => trivial
  | authorizeConnection name connection =>
      refine Prog.Under.bind acting fun accountId _ => ?_
      refine returning_named (P := fun _ => True) ?_ _
      refine Prog.Under.bind (admitted_named accountId .service) fun preferences _ => ?_
      exact CredentialService.beginAuthorization_named stable _ _ _ _
  | _ => exact Call.unnamed (fun _ _ => id) (fun _ _ _ _ _ => id) id

theorem Call.prog_named (c : Call) (bound : c.bound env.text) :
    Named (fun _ => True) (c.prog env) := by
  cases c with
  | account c => cases c <;> exact Call.unnamed (fun _ _ => id) (fun _ _ _ _ _ => id) id
  | admin actor c => cases c <;> exact Call.unnamed (fun _ _ => id) (fun _ _ _ _ _ => id) id
  | credential c => exact c.prog_named stable bound
  | change c => exact c.prog_named stable
  | delegation c =>
      cases c <;> exact Call.unnamed (fun _ _ => id) (fun _ _ _ _ _ => id) id
  | exchange => exact Call.unnamed (fun _ _ => id) (fun _ _ _ _ _ => id) id
  | internal service userToken c => exact c.prog_named stable service userToken

end Requests

namespace Scenario

/-- The two ways a character can be lowered. -/
theorem toLower_cases (c : Char) :
    c.toLower = c ∨ (65 ≤ c.toNat ∧ c.toNat ≤ 90 ∧ c.toLower.toNat = c.toNat + 32) := by
  unfold Char.toLower
  split
  · rename_i upper
    right
    have low : 65 ≤ c.toNat := UInt32.le_iff_toNat_le.mp upper.1
    have high : c.toNat ≤ 90 := UInt32.le_iff_toNat_le.mp upper.2
    refine ⟨low, high, ?_⟩
    simp only [Char.toNat, UInt32.toNat_add] at *
    change (c.val.toNat + 32) % 2 ^ 32 = _
    omega
  · exact .inl rfl

theorem isSpace_toLower (c : Char) : isSpace c.toLower = isSpace c := by
  rcases toLower_cases c with same | ⟨low, high, lowered⟩
  · rw [same]
  · have plain : ∀ d : Char, 65 ≤ d.toNat → d.toNat ≤ 122 → isSpace d = false := by
      intro d low high
      simp only [isSpace, Bool.or_eq_false_iff, Bool.and_eq_false_iff, decide_eq_false_iff_not]
      omega
    rw [plain c low (by omega), plain c.toLower (by omega) (by omega)]

theorem toLower_toLower (c : Char) : c.toLower.toLower = c.toLower := by
  rcases toLower_cases c with same | ⟨low, high, lowered⟩
  · rw [same, same]
  · rcases toLower_cases c.toLower with same | ⟨low', high', -⟩
    · exact same
    · omega

/-- What `strip` leaves of the characters. -/
def trim (cs : List Char) : List Char := (cs.dropWhile isSpace).rdropWhile isSpace

theorem strip_ofList (cs : List Char) : strip (String.ofList cs) = String.ofList (trim cs) := by
  simp [strip, trim, List.rdropWhile]

theorem trim_idem (cs : List Char) : trim (trim cs) = trim cs := by
  have start : (trim cs).dropWhile isSpace = trim cs := by
    have inside : trim cs <+: cs.dropWhile isSpace := List.rdropWhile_prefix isSpace _
    cases kept : trim cs with
    | nil => rfl
    | cons c rest =>
        rw [kept] at inside
        obtain ⟨more, whole⟩ := inside
        have first := List.head?_dropWhile_not isSpace cs
        rw [← whole] at first
        have solid : isSpace c = false := first
        simp [solid]
  rw [trim, start, trim, List.rdropWhile_idempotent]

theorem trim_map (cs : List Char) : trim (cs.map Char.toLower) = (trim cs).map Char.toLower := by
  have same : isSpace ∘ Char.toLower = isSpace := funext isSpace_toLower
  simp [trim, List.dropWhile_map, List.rdropWhile, same, ← List.map_reverse]

theorem asciiText_stable : LowerStable asciiText := by
  intro raw
  have lowered : ∀ cs, asciiText.lower (String.ofList cs) = String.ofList (cs.map Char.toLower) := by
    intro cs
    simp [asciiText]
  rw [← String.ofList_toList (s := raw), strip_ofList, lowered, strip_ofList, lowered, trim_map,
    trim_idem, List.map_map]
  have twice : Char.toLower ∘ Char.toLower = Char.toLower := by
    funext c
    exact toLower_toLower c
  rw [twice]

theorem connectedOffice_normalNames : NormalNames deployment.text connectedOffice where
  profiles key stored := by
    obtain ⟨profile, member, rfl⟩ := List.mem_map.mp (Table.isSome_find?.mp stored)
    rw [List.mem_singleton.mp member]
    rfl
  connections triple stored := by
    obtain ⟨connection, member, rfl⟩ := List.mem_map.mp (Table.isSome_find?.mp stored)
    rw [List.mem_singleton.mp member]
    rfl
  flows row pending := by cases pending

end Scenario

end Keyring

import Keyring.Admin.Footprint
import Keyring.Credentials.RefreshChain

/-!
# The placeholder of a consent

Whether the placeholder is written was decided on the profile read at the start;
the write itself replaces whatever connection is there by then.  So a connection
that works stays as it is exactly when none begins to work between that read and
the placeholder.
-/

set_option autoImplicit false

namespace Keyring

open Interleave Relational

variable {env : Env}

/-! ## Working connections -/

/-- The stored connection is usable. -/
def UsableAt (triple : Triple) (now : Instant) (db : Db) : Prop :=
  ∃ row, db.connections.find? triple = some row ∧ row.isUsable now = true

/-- The stored connection is usable, and its secret is in the vault. -/
def Working (triple : Triple) (now : Instant) (db : Db) : Prop :=
  UsableAt triple now db ∧ (db.secrets.find? triple).isSome

/-- `resolve_http_auth` succeeds on these names, called alone. -/
def Resolves (env : Env) (accountId profileName serviceName : String) (w : World) : Prop :=
  ∃ es auth w', Alone (CredentialService.resolveHttpAuth env accountId profileName serviceName) w es
    (.ok auth) w'

/-- What a successful `resolve_http_auth` finds under the names. -/
structure Resolvable (env : Env) (triple : Triple) (w : World) : Prop where
  profile : (w.db.profiles.find? (triple.1, triple.2.1)).isSome
  connection : ∃ row, w.db.connections.find? triple = some row ∧ row.status ≠ .pending ∧
    row.kind ≠ .password
  secret : (secretAt env triple w).isSome

theorem readProfile_connection {db : Db} {accountId name : String} {profile : Profile}
    (found : readProfile db accountId name = some profile) (service : String) :
    profile.connection service =
      (db.connections.find? (accountId, name, service)).map (·.toConnection) := by
  obtain ⟨stored, present, rfl⟩ := Option.map_eq_some_iff.mp found
  have keyed := (Table.find?_eq_some.mp present).2
  have owner : stored.accountId = accountId := congrArg Prod.fst keyed
  have named : stored.name = name := congrArg Prod.snd keyed
  have member : ∀ connection, connection ∈ (profileOf db stored).connections ↔
      ∃ row ∈ db.connections, row.accountId = accountId ∧ row.profileName = name ∧
        row.toConnection = connection := by
    intro connection
    simp only [profileOf, connectionsOf, List.mem_map, List.mem_insertionSort, List.mem_filter,
      Bool.and_eq_true, decide_eq_true_eq, owner, named, Table.mem_def, and_assoc]
  cases here : db.connections.find? (accountId, name, service) with
  | none =>
      rw [Option.map_none, Profile.connection, List.find?_eq_none]
      intro connection held same
      obtain ⟨row, inside, rfl, rfl, rfl⟩ := (member connection).mp held
      have none := Table.find?_eq_none.mp here row inside
      exact none (by simp [ConnectionRow.key, show row.service = service by simpa using same])
  | some row =>
      obtain ⟨inside, key⟩ := Table.find?_eq_some.mp here
      have held : row.toConnection ∈ (profileOf db stored).connections :=
        (member _).mpr ⟨row, inside, congrArg (·.1) key, congrArg (·.2.1) key, rfl⟩
      cases first : (profileOf db stored).connection service with
      | none =>
          have other := List.find?_eq_none.mp first _ held
          exact absurd (show row.service = service from congrArg (·.2.2) key) (by simpa using other)
      | some connection =>
          have service' := Profile.connection_service first
          obtain ⟨row', inside', owner', named', rfl⟩ :=
            (member connection).mp (List.mem_of_find?_eq_some first)
          have key' : row'.key = (accountId, name, service) := by
            rw [ConnectionRow.key, owner', named']
            exact congrArg _ (congrArg _ service')
          have same := Table.find?_eq_some.mpr ⟨inside', key'⟩
          rw [here] at same
          cases same
          rfl

theorem secretAt_congr {triple : Triple} {w w' : World} (same : w'.db = w.db) :
    secretAt env triple w' = secretAt env triple w := by
  rw [secretAt, secretAt, envelopeAt, envelopeAt, same]

theorem refuseIf_passed {β : Type} {c : Prop} [Decidable c] {e : Error} {f : Unit → Service env β}
    {w w' : World} {es : List (Event (machine env))} {b : β}
    (alone : Alone (refuseIf c e >>= f) w es (.ok b) w') :
    ¬ c ∧ Alone (f ()) w es (.ok b) w' := by
  obtain ⟨passed, path⟩ := refuseIf_bind_returned alone.path
  exact ⟨passed, path, alone.linked⟩

theorem getSecret_alone {accountId name service : String} {found : Option Secret} {w w' : World}
    {es : List (Event (machine env))}
    (alone : Alone (getSecret env accountId name service) w es (.ok found) w') :
    found = secretAt env (accountId, name, service) w := by
  obtain ⟨master, known, alone₁⟩ := ofExcept_bind_alone alone
  have configured := requireMaster_ok known
  obtain ⟨i, a, v, t, rest, x, rfl, done, same, alone₂⟩ := store_bind_alone alone₁
  change a = .ok v at same
  subst same
  have read := (SecretOp.get_ok (transact_ok.mp (onDb_eq.mp done).1)).1
  have stored : envelopeAt (accountId, name, service) w = v := read.symm
  cases v with
  | none =>
      obtain ⟨-, same, -⟩ := alone₂.done_inv
      cases same
      simp [secretAt, configured, stored]
  | some envelope =>
      obtain ⟨secret, opened, ended⟩ := ofExcept_bind_alone alone₂
      obtain ⟨-, same, -⟩ := ended.done_inv
      cases same
      simp [secretAt, configured, stored, opened, Except.toOption]

theorem readProfile_bind_play {β : Type} {accountId name : String} {w : World} {x : Input}
    {f : Option Profile → Service env β} (xs : List Input) :
    (profileStore (.get accountId name) >>= f).play (x :: xs) w =
      (f (readProfile w.db accountId name)).play xs w := by
  have done : exec env (.profiles (.get accountId name)) x w =
      some (.ok (readProfile w.db accountId name), w) := rfl
  exact store_bind_play done rfl xs

theorem readEnvelope_bind_play {β : Type} {accountId name service : String} {w : World} {x : Input}
    {f : Option Envelope → Service env β} (xs : List Input) :
    (secretStore (.get accountId name service) >>= f).play (x :: xs) w =
      (f (envelopeAt (accountId, name, service) w)).play xs w := by
  have done : exec env (.secrets (.get accountId name service)) x w =
      some (.ok (envelopeAt (accountId, name, service) w), w) := rfl
  exact store_bind_play done rfl xs

theorem getSecret_bind_play {β : Type} {accountId name service : String} {secret : Secret}
    {w : World} (sealed : secretAt env (accountId, name, service) w = some secret)
    {f : Option Secret → Service env β} (x : Input) (xs : List Input) :
    (getSecret env accountId name service >>= f).play (x :: xs) w =
      (f (some secret)).play xs w := by
  obtain ⟨master, configured, sealed⟩ := Option.bind_eq_some_iff.mp sealed
  obtain ⟨envelope, stored, opened⟩ := Option.bind_eq_some_iff.mp sealed
  have known : requireMaster env.master = .ok master := by rw [configured]; rfl
  have opens : openEnvelope envelope master = .ok secret := by
    cases outcome : openEnvelope envelope master with
    | error e => simp [outcome, Except.toOption] at opened
    | ok secret' => simpa [outcome, Except.toOption] using opened
  unfold getSecret
  rw [bind_assoc, ofExcept_bind_play known, bind_assoc, readEnvelope_bind_play, stored]
  dsimp only
  rw [bind_assoc]
  exact ofExcept_bind_play opens xs

namespace CredentialService

theorem load_alone {accountId profileName serviceName : String} {profile : Profile}
    {connection : Connection} {secret : Secret} {w w' : World} {es : List (Event (machine env))}
    (alone : Alone (load env accountId profileName serviceName) w es
      (.ok (profile, connection, secret)) w') :
    ∃ name service row, normalizeProfileName env.text profileName = .ok name ∧
      normalizeServiceName env.text serviceName = .ok service ∧
      (w.db.profiles.find? (accountId, name)).isSome ∧
      w.db.connections.find? (accountId, name, service) = some row ∧
      row.toConnection = connection ∧ connection.status ≠ .pending ∧
      (secretAt env (accountId, name, service) w).isSome := by
  unfold load getProfile at alone
  rw [bind_assoc] at alone
  obtain ⟨name, normal, alone₁⟩ := ofExcept_bind_alone alone
  rw [bind_assoc] at alone₁
  obtain ⟨i, a, found, t, rest, x, rfl, done, same, alone₂⟩ := store_bind_alone alone₁
  change a = .ok found at same
  subst same
  obtain ⟨read, unchanged⟩ := ProfileOp.get_ok (transact_ok.mp (onDb_eq.mp done).1)
  cases found with
  | none => exact (throw_returned alone₂.path).elim
  | some profile' =>
      dsimp only at alone₂
      rw [Prog.pure_eq, Prog.bind_ok] at alone₂
      obtain ⟨service, normal', alone₃⟩ := ofExcept_bind_alone alone₂
      have held := readProfile_connection read.symm service
      obtain ⟨stored, present, -⟩ := Option.map_eq_some_iff.mp read.symm
      have key := (Table.find?_eq_some.mp present).2
      cases linked : profile'.connection service with
      | none =>
          rw [linked] at alone₃
          exact (throw_returned alone₃.path).elim
      | some connection' =>
          rw [linked] at alone₃ held
          obtain ⟨row, here, rfl⟩ := Option.map_eq_some_iff.mp held.symm
          obtain ⟨complete, alone₄⟩ := refuseIf_passed alone₃
          obtain ⟨found, u, es₁, es₂, rfl, reading, alone₅⟩ := alone₄.bind_returned
          have kept := getSecret_alone reading
          cases found with
          | none => exact (throw_returned alone₅.path).elim
          | some secret' =>
              obtain ⟨-, same, -⟩ := alone₅.done_inv
              cases same
              obtain ⟨-, named, -⟩ := exec_readProfile done
              rw [named, secretAt_congr (show t.db = w.db from unchanged)] at kept
              exact ⟨name, service, row, normal, normal', by rw [present]; rfl, here, rfl,
                complete, by rw [← kept]; rfl⟩

end CredentialService

variable {w : World} {accountId profileName serviceName : String}

/-- A call resolves exactly what it finds under the normal names. -/
theorem resolves_iff :
    Resolves env accountId profileName serviceName w ↔
      ∃ name service, normalizeProfileName env.text profileName = .ok name ∧
        normalizeServiceName env.text serviceName = .ok service ∧
        Resolvable env (accountId, name, service) w := by
  constructor
  · rintro ⟨es, auth, w', alone⟩
    obtain ⟨⟨profile, connection, secret⟩, t, es₁, es₂, rfl, loading, rest⟩ := alone.bind_returned
    obtain ⟨name, service, row, normal, normal', present, stored, rfl, complete, sealed⟩ :=
      CredentialService.load_alone loading
    refine ⟨name, service, normal, normal', present, ⟨row, stored, complete, ?_⟩, sealed⟩
    intro form
    dsimp only at rest
    rw [form] at rest
    exact throw_returned rest.path
  · rintro ⟨name, service, normal, normal', present, ⟨row, stored, complete, form⟩, sealed⟩
    obtain ⟨found, present⟩ := Option.isSome_iff_exists.mp present
    obtain ⟨secret, sealed⟩ := Option.isSome_iff_exists.mp sealed
    have read : readProfile w.db accountId name = some (profileOf w.db found) := by
      rw [readProfile, present]
      rfl
    have linked := readProfile_connection read service
    rw [stored] at linked
    have named : found.name = name := congrArg Prod.snd (Table.find?_eq_some.mp present).2
    let x := Scenario.given 0 ""
    have loads : ∀ {β : Type} (f : Profile × Connection × Secret → Service env β) (xs : List Input),
        (CredentialService.load env accountId profileName serviceName >>= f).play (x :: x :: xs) w =
          (f (profileOf w.db found, row.toConnection, secret)).play xs w := by
      intro β f xs
      unfold CredentialService.load CredentialService.getProfile
      rw [bind_assoc, bind_assoc, ofExcept_bind_play normal, bind_assoc, readProfile_bind_play, read]
      dsimp only
      rw [Prog.pure_eq, Prog.bind_ok, bind_assoc, ofExcept_bind_play normal', linked]
      dsimp only [Option.map_some]
      rw [bind_assoc, refuseIf_bind, if_neg complete, bind_assoc]
      rw [← named] at sealed
      exact getSecret_bind_play sealed x xs
    have played : ∃ auth w', (CredentialService.resolveHttpAuth env accountId profileName
        serviceName).play [x, x, x] w = some (.ok auth, w') := by
      unfold CredentialService.resolveHttpAuth
      rw [loads]
      dsimp only
      cases kind : row.kind with
      | apiKey => exact ⟨_, _, rfl⟩
      | oauth2AuthorizationCode => exact ⟨_, _, rfl⟩
      | password => exact absurd kind form
    obtain ⟨auth, w', played⟩ := played
    exact ⟨_, auth, w', Prog.play_alone played⟩

/-! ## What a consent has read -/

/-- The step puts a placeholder where the profile that was read had no usable
connection. -/
def Placed (es : List (Event (machine env))) (accountId name : String) (connection : Connection)
    (now : Instant) : Prop :=
  connection.status = .pending ∧ ∃ read ∈ es, read.op = .profiles (.get accountId name) ∧
    ¬ UsableAt (accountId, name, connection.service) now read.before.db

section Begin

variable {es : List (Event (machine env))} {name : String} {connection : Connection} {cap : Nat}
  {now : Instant}

theorem Placed.mono {es' : List (Event (machine env))}
    (placed : Placed es accountId name connection now) (sub : es ⊆ es') :
    Placed es' accountId name connection now := by
  obtain ⟨pending, read, member, rest⟩ := placed
  exact ⟨pending, read, sub member, rest⟩

theorem beginAuthorization_places {holder redirectUri : String}
    {next : Except Error Connection → Service env Authorization}
    (real : ∀ e ∈ es, ∃ x, exec env e.op x e.before = some (e.ans, e.after))
    (path : Path (CredentialService.beginAuthorization env holder profileName serviceName
      redirectUri) es (.call (.profiles (.putConnection accountId name connection cap now)) next)) :
    Placed es accountId name connection now := by
  unfold CredentialService.beginAuthorization CredentialService.getProfile at path
  rw [bind_assoc] at path
  obtain ⟨normalized, -, path₁⟩ := ofExcept_bind_calling path
  rw [bind_assoc] at path₁
  obtain ⟨i, found, s, s', rest, rfl, path₂⟩ := profileStore_bind_calling path₁ (by simp)
  cases found with
  | none => exact (done_calling path₂).elim
  | some profile =>
      dsimp only at path₂
      rw [Prog.pure_eq, Prog.bind_ok] at path₂
      obtain ⟨service, -, path₃⟩ := ofExcept_bind_calling path₂
      obtain ⟨provider, -, path₄⟩ := ofExcept_bind_calling path₃
      obtain ⟨j, state, t, t', rest, rfl, path₅⟩ := ask_bind_calling path₄ (by simp)
      obtain ⟨k, issued, u, u', rest, rfl, path₆⟩ := ask_bind_calling path₅ (by simp)
      obtain ⟨l, a, v, v', rest, rfl, path₇⟩ := ask_bind_calling path₆ (by simp)
      obtain ⟨m, read, y, y', rest, rfl, path₈⟩ := ask_bind_calling path₇ (by simp)
      rcases path₈.bind_calling with ⟨next', placing⟩ | ⟨_, _, _, -, -, ended⟩
      · split at placing
        · exact (done_calling placing).elim
        · rename_i unusable
          rcases CredentialService.putConnection_inv placing with ⟨rfl, here⟩ |
            ⟨_, _, _, _, -, ⟨_, -, ended⟩ | ⟨_, _, -, ended⟩⟩
          · cases here
            obtain ⟨x, done⟩ := real _ (List.mem_cons_self ..)
            obtain ⟨owner, named, -⟩ := exec_readProfile done
            obtain ⟨found, -⟩ := ProfileOp.get_ok (transact_ok.mp (onDb_eq.mp done).1)
            refine ⟨rfl, _, List.mem_cons_self .., by rw [owner, named], ?_⟩
            rintro ⟨row, stored, usable⟩
            apply unusable
            rw [owner, named] at stored
            rw [readProfile_connection found.symm service, stored]
            exact usable
          · cases ended
          · cases ended
      · exact (done_calling ended).elim

theorem changes_beginAuthorization_places {α : Type} {holder redirectUri : String}
    {requester : Requester} {answer : Authorization → α}
    {next : Except Error Connection → Service env α}
    (real : ∀ e ∈ es, ∃ x, exec env e.op x e.before = some (e.ans, e.after))
    (path : Path (CredentialChanges.beginAuthorization env holder profileName serviceName
      redirectUri requester >>= fun a => pure (answer a)) es
        (.call (.profiles (.putConnection accountId name connection cap now)) next)) :
    Placed es accountId name connection now := by
  rcases path.bind_calling with ⟨next', inside⟩ | ⟨_, _, _, -, -, ended⟩
  · have admitting : (CredentialChanges.admitted env holder requester).Uses Op.sparesConnections :=
      CredentialChanges.admitted_writes (fun _ quiet => quiet.idle.sparesConnections)
        (fun _ _ => trivial) holder
    obtain ⟨preferences, es₁, es₂, rfl, -, beginning⟩ := inside.bind_beyond admitting id
    have placed := beginAuthorization_places
      (fun e member => real e (List.mem_append_right _ member)) beginning
    exact placed.mono (List.subset_append_right es₁ es₂)
  · exact (done_calling ended).elim

/-- A request that begins an authorization puts nothing but placeholders. -/
theorem Call.begins.places {call : Call} (begins : call.begins)
    {next : Except Error Connection → Service env Answer}
    (real : ∀ e ∈ es, ∃ x, exec env e.op x e.before = some (e.ans, e.after))
    (path : Path (call.prog env) es
      (.call (.profiles (.putConnection accountId name connection cap now)) next)) :
    Placed es accountId name connection now := by
  cases call with
  | credential c =>
      cases c with
      | beginAuthorization holder profileName serviceName redirectUri =>
          rcases path.bind_calling with ⟨next', inside⟩ | ⟨_, _, _, -, -, ended⟩
          · exact beginAuthorization_places real inside
          · exact (done_calling ended).elim
      | _ => exact begins.elim
  | change c =>
      cases c with
      | beginAuthorization holder profileName serviceName redirectUri requester =>
          exact changes_beginAuthorization_places real path
      | _ => exact begins.elim
  | internal service userToken c =>
      cases c with
      | authorizeConnection profileName serviceName =>
          have acting : (Internal.actingFor env service userToken).Uses Op.sparesConnections :=
            Internal.actingFor_writes (fun _ quiet => quiet.idle.sparesConnections) _ _
          obtain ⟨holder, es₁, es₂, rfl, -, beginning⟩ := path.bind_beyond acting id
          have placed := changes_beginAuthorization_places
            (fun e member => real e (List.mem_append_right _ member)) beginning
          exact placed.mono (List.subset_append_right es₁ es₂)
      | _ => exact begins.elim
  | _ => exact begins.elim

end Begin

/-! ## What a consent writes -/

/-- A step that leaves the profiles, the connections and the vault as they are. -/
def Op.sparesCredentials : Op → Prop
  | .accounts (.save _) => True
  | o => o.idle

def Op.putsConnection : Op → Prop
  | .profiles (.putConnection _ _ _ _ _) => True
  | _ => False

theorem Op.idle.sparesCredentials {o : Op} (idle : o.idle) : o.sparesCredentials := by
  cases o with
  | accounts o => cases o <;> trivial
  | _ => exact idle

theorem Requester.writes_spares {requester : Requester} (o : Op) (writes : requester.writes o) :
    o.sparesCredentials := by
  cases o with
  | accounts o => cases o <;> trivial
  | _ => exact writes.elim

theorem Call.begins.uses {call : Call} (begins : call.begins) :
    (call.prog env).Uses fun (o : Op) => o.putsConnection ∨ o.sparesCredentials := by
  apply call.prog_uses (fun o quiet => Or.inr quiet.idle.sparesCredentials)
  · intro o writes _
    cases call with
    | credential c =>
        cases c with
        | beginAuthorization holder profileName serviceName redirectUri =>
            cases o with
            | profiles o => cases o <;> first | exact Or.inl trivial | exact writes.elim
            | _ => exact writes.elim
        | _ => exact begins.elim
    | change c =>
        cases c with
        | beginAuthorization holder profileName serviceName redirectUri requester =>
            cases o with
            | profiles o => cases o <;> first | exact Or.inl trivial | exact writes.elim
            | accounts o => exact Or.inr (requester.writes_spares _ writes)
            | _ => exact writes.elim
        | _ => exact begins.elim
    | internal service userToken c =>
        cases c with
        | authorizeConnection profileName serviceName =>
            cases o with
            | profiles o => cases o <;> first | exact Or.inl trivial | exact writes.elim
            | _ => exact writes.elim
        | _ => exact begins.elim
    | _ => exact begins.elim
  · intro _ stateHash flow
    exact Or.inr trivial

/-- Two worlds in which the same can be resolved under this triple. -/
structure SameCredential (triple : Triple) (db db' : Db) : Prop where
  profile : (db'.profiles.find? (triple.1, triple.2.1)).isSome =
    (db.profiles.find? (triple.1, triple.2.1)).isSome
  connection : db'.connections.find? triple = db.connections.find? triple
  secrets : db'.secrets = db.secrets

theorem Resolvable.congr {triple : Triple} {w w' : World}
    (same : SameCredential triple w.db w'.db) (resolvable : Resolvable env triple w) :
    Resolvable env triple w' where
  profile := same.profile.trans resolvable.profile
  connection := by
    rw [same.connection]
    exact resolvable.connection
  secret := by
    have kept : secretAt env triple w' = secretAt env triple w := by
      rw [secretAt, secretAt, envelopeAt, envelopeAt, same.secrets]
    rw [kept]
    exact resolvable.secret

theorem exec_sparesCredentials {o : Op} {x : Input} {w w' : World} {a : o.Ans}
    (done : exec env o x w = some (a, w')) (spares : o.sparesCredentials) (triple : Triple) :
    SameCredential triple w.db w'.db := by
  have unchanged : w'.db = w.db → SameCredential triple w.db w'.db := by
    intro same
    rw [same]
    exact ⟨rfl, rfl, rfl⟩
  by_cases idle : o.idle
  · exact unchanged (exec_idle done idle)
  · cases o with
    | accounts o =>
        cases o with
        | save copy =>
            rw [exec_touches done]
            exact ⟨rfl, rfl, rfl⟩
        | _ => exact absurd spares idle
    | _ => exact absurd spares idle

theorem exec_put_others {accountId name : String} {connection : Connection} {cap : Nat}
    {now : Instant} {x : Input} {w w' : World} {a : Except Error Connection}
    (done : exec env (.profiles (.putConnection accountId name connection cap now)) x w =
      some (a, w')) {triple : Triple} (other : triple ≠ (accountId, name, connection.service)) :
    SameCredential triple w.db w'.db := by
  rcases onDb_cases done with ⟨v, -, committed⟩ | ⟨-, same⟩
  · obtain ⟨put, -⟩ := ProfileOp.putConnection_ok committed
    refine ⟨put.profiles _, put.others triple other, ?_⟩
    rw [put.frame]
  · rw [same]
    exact ⟨rfl, rfl, rfl⟩

theorem exec_put_replaces {accountId name : String} {connection : Connection} {cap : Nat}
    {now : Instant} {x : Input} {w w' : World} {a : Except Error Connection}
    (fk : ForeignKeys w.db)
    (there : (w.db.connections.find? (accountId, name, connection.service)).isSome)
    (done : exec env (.profiles (.putConnection accountId name connection cap now)) x w =
      some (a, w')) :
    ∃ row, w'.db.connections.find? (accountId, name, connection.service) = some row ∧
      row.status = connection.status := by
  obtain ⟨ran, -⟩ := onDb_eq.mp done
  cases a with
  | ok stored =>
      obtain ⟨row, found, same⟩ := (ProfileOp.putConnection_ok (transact_ok.mp ran)).1.written
      exact ⟨row, found, by rw [show row.status = row.toConnection.status from rfl, same]⟩
  | error e =>
      obtain ⟨refused, -⟩ := transact_error.mp ran
      obtain ⟨row, found⟩ := Option.isSome_iff_exists.mp there
      obtain ⟨stored, key⟩ := Table.find?_eq_some.mp found
      have present : (w.db.profiles.find? (accountId, name)).isSome := by
        have linked := fk.connections row stored
        rwa [show row.accountId = accountId from congrArg (·.1) key,
          show row.profileName = name from congrArg (·.2.1) key] at linked
      rcases ProfileOp.putConnection_refused refused with ⟨message, rfl⟩ | ⟨message, rfl⟩
      · exact absurd refused (ProfileOp.putConnection_finds present message)
      · exact absurd refused (ProfileOp.putConnection_replaces there message)

/-! ## Consents in a run -/

/-- The instant that a put stamps, or else the one that the clock has shown last. -/
def moment (e : Event (machine env)) : Instant :=
  match e.op with
  | .profiles (.putConnection _ _ _ _ now) => now
  | _ => e.before.clock

/-- A connection that works is left as it is, and what resolved still resolves. -/
def SparesWorking (e : Event (machine env)) : Prop :=
  ∀ accountId name service, Working (accountId, name, service) (moment e) e.before.db →
    e.after.db.connections.find? (accountId, name, service) =
        e.before.db.connections.find? (accountId, name, service) ∧
      ∀ profileName serviceName, normalizeProfileName env.text profileName = .ok name →
        normalizeServiceName env.text serviceName = .ok service →
          Resolves env accountId profileName serviceName e.before →
            Resolves env accountId profileName serviceName e.after

/-- A connection that works when the placeholder is put was usable already when the
caller read its profile. -/
def NoneRevived (early : List (Event (machine env))) (e : Event (machine env)) : Prop :=
  ∀ accountId name connection cap now,
    e.op = .profiles (.putConnection accountId name connection cap now) →
      Working (accountId, name, connection.service) now e.before.db →
        ∀ read ∈ ofThread e.thread early, read.op = .profiles (.get accountId name) →
          UsableAt (accountId, name, connection.service) now read.before.db

theorem SameCredential.spares {accountId name service : String} {w w' : World}
    (same : SameCredential (accountId, name, service) w.db w'.db) :
    w'.db.connections.find? (accountId, name, service) =
        w.db.connections.find? (accountId, name, service) ∧
      ∀ profileName serviceName, normalizeProfileName env.text profileName = .ok name →
        normalizeServiceName env.text serviceName = .ok service →
          Resolves env accountId profileName serviceName w →
            Resolves env accountId profileName serviceName w' := by
  refine ⟨same.connection, ?_⟩
  intro profileName serviceName normal normal' resolves
  obtain ⟨name', service', named, named', resolvable⟩ := resolves_iff.mp resolves
  rw [normal] at named
  rw [normal'] at named'
  cases named
  cases named'
  exact resolves_iff.mpr ⟨name, service, normal, normal', resolvable.congr same⟩

section Runs

variable {calls : List Call} {d : Config (machine env) Error Answer}
  {tr early late : List (Event (machine env))} {e : Event (machine env)}

/-- One step of a request that begins an authorization. -/
theorem spares_iff_noneRevived (fk : ForeignKeys w.db) (run : Run (start env w calls) tr d)
    (split : tr = early ++ e :: late) {call : Call} (asked : calls[e.thread]? = some call)
    (begins : call.begins) : SparesWorking e ↔ NoneRevived early e := by
  obtain ⟨x, done⟩ := exec_of_run run (show e ∈ tr by simp [split])
  have real : ∀ e' ∈ ofThread e.thread early,
      ∃ x, exec env e'.op x e'.before = some (e'.ans, e'.after) := by
    intro e' inside
    exact exec_of_run run (split ▸ List.mem_append_left _ (mem_ofThread.mp inside).1)
  rw [split] at run
  have sound := (run_foreignKeys run fk).2 e (by simp)
  have waiting : (start env w calls).pool[e.thread]? = some (call.prog env) := by
    simp [start, asked]
  obtain ⟨next, path⟩ := run.at_event waiting
  have uses := (path.uses begins.uses).2.1
  obtain ⟨i, o, a, s, s'⟩ := e
  rcases uses with puts | spares
  · cases o with
    | profiles o =>
        cases o with
        | putConnection accountId name connection cap now =>
            obtain ⟨pending, read, member, reading, unusable⟩ := begins.places real path
            by_cases working : Working (accountId, name, connection.service) now s.db
            · apply iff_of_false
              · intro kept
                obtain ⟨same, -⟩ := kept accountId name connection.service working
                obtain ⟨⟨row, stored, usable⟩, -⟩ := working
                have there : (s.db.connections.find?
                    (accountId, name, connection.service)).isSome := by
                  rw [stored]
                  rfl
                obtain ⟨row', stored', status⟩ := exec_put_replaces sound there done
                dsimp only at same
                rw [stored', stored] at same
                cases same
                rw [Connection.isUsable, status, pending] at usable
                cases usable
              · intro unrevived
                exact unusable (unrevived _ _ _ _ _ rfl working read member reading)
            · apply iff_of_true
              · intro accountId' name' service' works
                by_cases same : (accountId', name', service') = (accountId, name, connection.service)
                · rw [same] at works
                  exact absurd works working
                · exact (exec_put_others done same).spares
              · intro accountId' name' connection' cap' now' same works
                cases same
                exact absurd works working
        | _ => exact puts.elim
    | _ => exact puts.elim
  · apply iff_of_true
    · intro accountId name service _
      exact (exec_sparesCredentials done spares _).spares
    · intro accountId name connection cap now same
      cases same
      exact spares.elim

/-- Every consent of a run leaves every working connection as it is, exactly when no
connection begins to work between the read of a consent and its placeholder. -/
theorem consents_spare_iff (fk : ForeignKeys w.db) (run : Run (start env w calls) tr d) :
    (∀ early e late, tr = early ++ e :: late → ∀ call, calls[e.thread]? = some call →
        call.begins → SparesWorking e) ↔
      ∀ early e late, tr = early ++ e :: late → ∀ call, calls[e.thread]? = some call →
        call.begins → NoneRevived early e := by
  constructor
  · intro spares early e late split call asked begins
    exact (spares_iff_noneRevived fk run split asked begins).mp
      (spares early e late split call asked begins)
  · intro unrevived early e late split call asked begins
    exact (spares_iff_noneRevived fk run split asked begins).mpr
      (unrevived early e late split call asked begins)

end Runs

namespace Scenario

/-- Bob has a profile without connections. -/
def unlinkedOffice : World :=
  worldOf { twoAccounts "owner" "member" with profiles := ⟨[homeProfile], homeProfile_alone⟩ }

theorem unlinkedOffice_foreignKeys : ForeignKeys unlinkedOffice.db := by
  constructor <;> decide +kernel

/-- Bob starts a consent and stores a key for the same service. -/
def undecided : List Call :=
  [.credential (.beginAuthorization "bob" "home" "spotify" "https://keyring/callback"),
    .credential (.putDirectCredential "bob" "home" "spotify" .apiKey [("api_key", .str "k1")] false)]

/-- The key is stored between the read of the consent and its placeholder. -/
def undecidedRun : Config (machine deployment) Error Answer × List (Event (machine deployment)) :=
  (start deployment unlinkedOffice undecided).play
    (List.replicate 5 (0, given 5 "a") ++ List.replicate 6 (1, given 6 "b"))

/-- What the consent does next. -/
def placeholderRun : Config (machine deployment) Error Answer × List (Event (machine deployment)) :=
  undecidedRun.1.play [(0, given 7 "c")]

/-- The key is stored before the consent is begun. -/
def decidedRun : Config (machine deployment) Error Answer × List (Event (machine deployment)) :=
  (start deployment unlinkedOffice undecided).play
    (List.replicate 6 (1, given 5 "b") ++ List.replicate 6 (0, given 6 "a"))

end Scenario

open Scenario in
theorem consents_spare_decided :
    (∀ early e late, decidedRun.2 = early ++ e :: late → ∀ call, undecided[e.thread]? = some call →
        call.begins → SparesWorking e) ↔
      ∀ early e late, decidedRun.2 = early ++ e :: late → ∀ call,
        undecided[e.thread]? = some call → call.begins → NoneRevived early e :=
  consents_spare_iff unlinkedOffice_foreignKeys
    (Config.play_run (start deployment unlinkedOffice undecided) _)

open Scenario in
/-- The key resolves until the placeholder is written over it. -/
theorem consent_breaks_key :
    ForeignKeys unlinkedOffice.db ∧
      ∃ tr d e, Run (start deployment unlinkedOffice undecided) (tr ++ [e]) d ∧ e.thread = 0 ∧
        Working ("bob", "home", "spotify") (moment e) e.before.db ∧
        Resolves deployment "bob" "home" "spotify" e.before ∧
        ¬ Resolves deployment "bob" "home" "spotify" e.after ∧ ¬ SparesWorking e := by
  have broken : ∃ e, placeholderRun.2 = [e] ∧ e.thread = 0 ∧
      Working ("bob", "home", "spotify") (moment e) e.before.db ∧
      Resolvable deployment ("bob", "home", "spotify") e.before ∧
      ∃ row, e.after.db.connections.find? ("bob", "home", "spotify") = some row ∧
        row.status = .pending := by
    refine ⟨_, rfl, rfl, ⟨⟨_, rfl, ?_⟩, rfl⟩, ⟨rfl, ⟨_, rfl, ?_, ?_⟩, rfl⟩, _, rfl, rfl⟩
    · rfl
    · decide +kernel
    · decide +kernel
  obtain ⟨e, whole, mine, working, resolvable, row, stored, pending⟩ := broken
  have run := (Config.play_run (start deployment unlinkedOffice undecided) _).trans
    (Config.play_run undecidedRun.1 [(0, given 7 "c")])
  have whole : (undecidedRun.1.play [(0, given 7 "c")]).2 = [e] := whole
  rw [whole] at run
  have unresolved : ¬ Resolves deployment "bob" "home" "spotify" e.after := by
    intro resolves
    obtain ⟨name, service, normal, normal', found⟩ := resolves_iff.mp resolves
    rw [show normalizeProfileName deployment.text "home" = .ok "home" from rfl] at normal
    rw [show normalizeServiceName deployment.text "spotify" = .ok "spotify" from rfl] at normal'
    cases normal
    cases normal'
    obtain ⟨row', stored', complete, -⟩ := found.connection
    rw [stored] at stored'
    cases stored'
    exact complete pending
  have resolved : Resolves deployment "bob" "home" "spotify" e.before :=
    resolves_iff.mpr ⟨"home", "spotify", rfl, rfl, resolvable⟩
  refine ⟨unlinkedOffice_foreignKeys, _, _, e, run, mine, working, resolved, unresolved, ?_⟩
  intro spares
  exact unresolved ((spares "bob" "home" "spotify" working).2 "home" "spotify" rfl rfl resolved)

end Keyring

import Keyring.Runs
import Keyring.Scenario
import Keyring.Writes

/-!
# Where a callback lands

A state is issued for a profile by its name, and the callback that redeems it
writes to whatever profile has that name then.  The name stands for the same
profile as long as no profile appears under it in between.
-/

set_option autoImplicit false

namespace Keyring

open Interleave Relational

variable {env : Env}

/-! ## Flows in progress -/

def flowAt (stateHash : String) (w : World) : Option OAuthFlow :=
  (w.flows.find? stateHash).map (·.flow)

/-- A step that issues or redeems the state. -/
def Op.handles (stateHash : String) : Op → Prop
  | .issueState issued _ => issued = stateHash
  | .redeemState redeemed => redeemed = stateHash
  | _ => False

section OneStep

variable {o : Op} {x : Input} {w w' : World} {a : o.Ans}

/-- A flow in progress was there before the step, or the step has issued it. -/
theorem exec_flowAt {stateHash : String} {flow : OAuthFlow}
    (done : exec env o x w = some (a, w')) (here : flowAt stateHash w' = some flow) :
    (flowAt stateHash w = some flow ∧ ¬ o.handles stateHash) ∨ o = .issueState stateHash flow := by
  cases o with
  | issueState issued started =>
      cases done
      simp only [flowAt, Table.find?_upsert] at here
      by_cases same : issued = stateHash
      · subst same
        right
        rw [if_pos rfl] at here
        cases before : w.flows.find? issued with
        | none =>
            rw [before] at here
            cases here
            rfl
        | some row =>
            rw [before] at here
            cases here
            rfl
      · rw [if_neg same] at here
        exact Or.inl ⟨here, same⟩
  | redeemState redeemed =>
      cases done
      simp only [flowAt, Table.find?_deleteWhere, Option.map_eq_some_iff, Option.filter_eq_some_iff] at here
      obtain ⟨row, ⟨found, kept⟩, rfl⟩ := here
      refine Or.inl ⟨by rw [flowAt, found]; rfl, fun same => ?_⟩
      have keyed := (Table.find?_eq_some.mp found).2
      change redeemed = stateHash at same
      simp [keyed, same] at kept
  | purgeStates now =>
      cases done
      simp only [flowAt, Table.find?_deleteWhere, Option.map_eq_some_iff, Option.filter_eq_some_iff] at here
      obtain ⟨row, ⟨found, -⟩, rfl⟩ := here
      exact Or.inl ⟨by rw [flowAt, found]; rfl, id⟩
  | acquire key =>
      rw [exec] at done
      split at done
      · cases done
      · cases done
        exact Or.inl ⟨here, id⟩
  | _ =>
      cases done
      exact Or.inl ⟨here, id⟩

theorem exec_redeemState {stateHash : String} {found : Option OAuthFlow} 
    (done : exec env (.redeemState stateHash) x w = some (found, w')) :
    found = flowAt stateHash w ∧ flowAt stateHash w' = none := by
  cases done
  refine ⟨rfl, ?_⟩
  rw [flowAt, Table.find?_deleteWhere, Option.map_eq_none_iff, Option.filter_eq_none_iff]
  intro row found
  have keyed := (Table.find?_eq_some.mp found).2
  simp [keyed]

end OneStep

/-! ## The profile behind a name -/

def profileIdAt (key : String × String) (db : Db) : Option String :=
  (db.profiles.find? key).map (·.profileId)

theorem profileIdAt_touchProfile (key : String × String) (db : Db) (accountId name : String)
    (now : Instant) : profileIdAt key (touchProfile db accountId name now) = profileIdAt key db := by
  rw [profileIdAt, find?_touchProfile, Option.map_map, profileIdAt]
  congr 1
  funext row
  simp only [Function.comp]
  split <;> rfl

theorem profileIdAt_deleteProfiles (key : String × String) (db : Db) (p : ProfileRow → Bool) :
    profileIdAt key (db.deleteProfiles p) = profileIdAt key db ∨
      profileIdAt key (db.deleteProfiles p) = none := by
  simp only [profileIdAt, Db.deleteProfiles, Table.find?_deleteWhere]
  cases db.profiles.find? key with
  | none => simp
  | some row => cases p row <;> simp

theorem ProfileOp.profileIdAt {text : Text} {db db' : Db} {o : ProfileOp} {v : o.Ans}
    (key : String × String) (committed : (o.run text).run db = .ok (v, db')) :
    Keyring.profileIdAt key db' = Keyring.profileIdAt key db ∨
      Keyring.profileIdAt key db = none ∨ Keyring.profileIdAt key db' = none := by
  cases o with
  | add profile cap =>
      obtain ⟨free, u, mid, inserted, connected⟩ := add_committed committed
      obtain ⟨-, table, added, rfl⟩ := insertProfile_ok inserted
      have same := congrArg Db.profiles (upsertConnections_frame connected)
      change db'.profiles = table at same
      by_cases mine : profile.toProfileRow.key = key
      · right
        left
        subst mine
        rw [Keyring.profileIdAt, Table.find?_of_insert? added]
        rfl
      · left
        rw [Keyring.profileIdAt, same, Table.find?_insert? added, if_neg mine, Keyring.profileIdAt]
  | putConnection accountId name connection cap now =>
      left
      have same := putConnection_profiles committed
      rw [Keyring.profileIdAt, same]
      exact profileIdAt_touchProfile key db accountId name now
  | removeConnection accountId name service now =>
      left
      change Except.ok (if _ then _ else _) = Except.ok _ at committed
      split at committed
      · cases committed
        exact profileIdAt_touchProfile key db accountId name now
      · cases committed
        rfl
  | delete accountId name =>
      rw [(delete_ok committed).2]
      rcases profileIdAt_deleteProfiles key db _ with same | gone
      · exact Or.inl same
      · exact Or.inr (Or.inr gone)
  | get accountId name => rw [(get_ok committed).2]; exact Or.inl rfl
  | listForAccount accountId => cases committed; exact Or.inl rfl
  | countForAccount accountId => cases committed; exact Or.inl rfl
  | allProfiles => cases committed; exact Or.inl rfl

/-- No step renames one profile into another: a name keeps its profile, or it is
free before the step or after it. -/
theorem exec_profileIdAt {o : Op} {x : Input} {w w' : World} {a : o.Ans} (key : String × String)
    (done : exec env o x w = some (a, w')) :
    profileIdAt key w'.db = profileIdAt key w.db ∨ profileIdAt key w.db = none ∨
      profileIdAt key w'.db = none := by
  have unchanged : w'.db.profiles = w.db.profiles →
      profileIdAt key w'.db = profileIdAt key w.db ∨ profileIdAt key w.db = none ∨
        profileIdAt key w'.db = none := by
    intro same
    left
    rw [profileIdAt, same, profileIdAt]
  cases o with
  | profiles o =>
      rcases onDb_cases done with ⟨v, -, committed⟩ | ⟨-, same⟩
      · exact ProfileOp.profileIdAt key committed
      · rw [same]
        exact Or.inl rfl
  | accounts o =>
      have touched := exec_touches done
      cases o with
      | delete target =>
          rcases touched with same | gone
          · rw [same]
            exact Or.inl rfl
          · rw [gone]
            rcases profileIdAt_deleteProfiles key w.db (·.accountId = target) with same | none
            · exact Or.inl same
            · exact Or.inr (Or.inr none)
      | _ =>
          have same := congrArg Db.profiles touched
          exact unchanged same
  | _ =>
      have same := congrArg Db.profiles (exec_touches done)
      exact unchanged same

/-- A profile appears under the name. -/
def Appears (key : String × String) (e : Event (machine env)) : Prop :=
  profileIdAt key e.before.db = none ∧ profileIdAt key e.after.db ≠ none

/-- The profile under the name goes away. -/
def Vanishes (key : String × String) (e : Event (machine env)) : Prop :=
  profileIdAt key e.before.db ≠ none ∧ profileIdAt key e.after.db = none

/-! ## What a callback writes -/

/-- A step that writes no connection. -/
def Op.sparesConnections : Op → Prop
  | .profiles (.putConnection _ _ _ _ _) => False
  | _ => True

/-- A step that writes no credential. -/
def Op.sparesSecrets : Op → Prop
  | .secrets (.put _ _ _ _ _) => False
  | _ => True

theorem Op.idle.sparesConnections {o : Op} (idle : o.idle) : o.sparesConnections := by
  cases o with
  | profiles o => cases o <;> trivial
  | _ => trivial

theorem Op.idle.sparesSecrets {o : Op} (idle : o.idle) : o.sparesSecrets := by
  cases o with
  | secrets o => cases o <;> trivial
  | _ => trivial

theorem Op.quiet.storesNothing (o : Op) (quiet : o.quiet) : ¬ o.stores := by
  have idle := quiet.idle
  cases o with
  | profiles o => cases o <;> first | exact id | exact idle.elim
  | secrets o => cases o <;> first | exact id | exact idle.elim
  | _ => exact id

/-- A connection or a credential is stored under the triple. -/
inductive Stores : Triple → Event (machine env) → Prop where
  | connection {i : Nat} {accountId name service : String} {item stored : Connection} {cap : Nat}
      {now : Instant} {s s' : World} (same : item.service = service) :
      Stores (accountId, name, service)
        ⟨i, .profiles (.putConnection accountId name item cap now), .ok stored, s, s'⟩
  | secret {i : Nat} {accountId name service : String} {envelope : Envelope} {now : Instant}
      {s s' : World} : Stores (accountId, name, service)
        ⟨i, .secrets (.put accountId name service envelope now), .ok (), s, s'⟩

section Histories

variable {es : List (Event (machine env))} {o : Op}

/-- The step writes the connection of this profile and service. -/
def PutsConnection (profile : Profile) (service : String) (o : Op) : Prop :=
  ∃ connection cap now, connection.service = service ∧
    o = .profiles (.putConnection profile.accountId profile.name connection cap now)

/-- The step writes the credential of this profile and service, after its
connection was written to a profile of that name. -/
def PutsSecret (profile : Profile) (service : String) (es : List (Event (machine env))) (o : Op) :
    Prop :=
  (∃ envelope now, o = .secrets (.put profile.accountId profile.name service envelope now)) ∧
    ∃ put ∈ es, Stores (profile.accountId, profile.name, service) put ∧
      profileIdAt (profile.accountId, profile.name) put.after.db ≠ none

/-- The state was redeemed, at a clock that had not reached the end of the flow. -/
def RedeemedInTime (stateHash : String) (flow : OAuthFlow) (es : List (Event (machine env))) : Prop :=
  ∃ i now s s' j t t',
    es = [⟨i, .now, now, s, s'⟩, ⟨j, .redeemState stateHash, some flow, t, t'⟩] ∧
      now < flow.expiresAt

theorem PutsConnection.triple {profile : Profile} {service : String} {e : Event (machine env)}
    {triple : Triple} (puts : PutsConnection profile service e.op) (stored : Stores triple e) :
    triple = (profile.accountId, profile.name, service) := by
  obtain ⟨connection, cap, now, rfl, same⟩ := puts
  cases stored with
  | connection named =>
      cases same
      rw [named]
  | secret => cases same

theorem PutsSecret.triple {profile : Profile} {service : String} {e : Event (machine env)}
    {triple : Triple} (puts : PutsSecret profile service es e.op) (stored : Stores triple e) :
    triple = (profile.accountId, profile.name, service) := by
  obtain ⟨⟨envelope, now, same⟩, -⟩ := puts
  cases stored with
  | connection named => cases same
  | secret =>
      cases same
      rfl

theorem Op.stores_cases (stores : o.stores) :
    (∃ accountId name connection cap now,
      o = .profiles (.putConnection accountId name connection cap now)) ∨
      ∃ accountId profile service envelope now,
        o = .secrets (.put accountId profile service envelope now) := by
  cases o with
  | profiles o =>
      cases o with
      | putConnection accountId name connection cap now => exact Or.inl ⟨_, _, _, _, _, rfl⟩
      | _ => exact stores.elim
  | secrets o =>
      cases o with
      | put accountId profile service envelope now => exact Or.inr ⟨_, _, _, _, _, rfl⟩
      | _ => exact stores.elim
  | _ => exact stores.elim

theorem exec_putConnection_present {accountId name : String} {connection stored : Connection}
    {cap : Nat} {now : Instant} {x : Input} {w w' : World}
    (done : exec env (.profiles (.putConnection accountId name connection cap now)) x w =
      some (.ok stored, w')) : profileIdAt (accountId, name) w'.db ≠ none := by
  have committed := transact_ok.mp (onDb_eq.mp done).1
  obtain ⟨put, -⟩ := ProfileOp.putConnection_ok committed
  have present := put.profiles (accountId, name)
  rw [put.present] at present
  rw [profileIdAt, ne_eq, Option.map_eq_none_iff, ← ne_eq, Option.ne_none_iff_isSome]
  exact present

namespace CredentialService

theorem putConnection_inv {profile : Profile} {connection : Connection} {now : Instant}
    {q : Service env Connection} (path : Path (putConnection env profile connection now) es q) :
    (es = [] ∧ q = putConnection env profile connection now) ∨
      ∃ i a s s', es = [⟨i, .profiles (.putConnection profile.accountId profile.name connection
        env.settings.maxConnectionsPerProfile now), a, s, s'⟩] ∧
        ((∃ stored, a = .ok stored ∧ q = .done (.ok stored)) ∨
          ∃ e e', a = .error e ∧ q = .done (.error e')) := by
  unfold putConnection at path
  rw [profileStore_eq, Prog.tryCatch_call] at path
  rcases path.call_inv with ⟨rfl, rfl⟩ | ⟨i, a, s, s', rest, rfl, tail⟩
  · exact Or.inl ⟨rfl, rfl⟩
  · right
    cases a with
    | ok stored =>
        obtain ⟨rfl, rfl⟩ := tail.done_inv
        exact ⟨i, .ok stored, s, s', rfl, Or.inl ⟨stored, rfl, rfl⟩⟩
    | error e =>
        have ended : ∃ e', rest = [] ∧ q = .done (.error e') := by
          cases e <;> exact ⟨_, tail.done_inv⟩
        obtain ⟨e', rfl, rfl⟩ := ended
        exact ⟨i, .error e, s, s', rfl, Or.inr ⟨e, e', rfl, rfl⟩⟩

theorem putSecret_calling {accountId profile service : String} {secret : Secret}
    {next : o.Ans → Service env Unit}
    (path : Path (putSecret env accountId profile service secret) es (.call o next))
    (stores : o.stores) : ∃ envelope now, o = .secrets (.put accountId profile service envelope now) := by
  obtain ⟨master, -, path₁⟩ := ofExcept_bind_calling path
  obtain ⟨i, entropy, s, s', rest, rfl, path₂⟩ := ask_bind_calling path₁ (by rintro rfl; exact stores)
  obtain ⟨j, now, t, t', rest, rfl, path₃⟩ := ask_bind_calling path₂ (by rintro rfl; exact stores)
  rw [secretStore_eq] at path₃
  rcases path₃.call_inv with ⟨-, here⟩ | ⟨k, a, u, u', rest, -, ended⟩
  · cases here
    exact ⟨_, _, rfl⟩
  · exact (done_calling ended).elim

theorem storeOauthSecret_calling {profile : Profile} {service : String} {secret : Secret}
    {provider : OAuthProvider} {next : o.Ans → Service env Connection}
    (real : ∀ e ∈ es, ∃ x, exec env e.op x e.before = some (e.ans, e.after))
    (path : Path (storeOauthSecret env profile service secret provider) es (.call o next))
    (stores : o.stores) :
    PutsConnection profile service o ∨ PutsSecret profile service es o := by
  obtain ⟨_, -, path₁⟩ := ofExcept_bind_calling path
  obtain ⟨i, now, s, s', rest, rfl, path₂⟩ := ask_bind_calling path₁ (by rintro rfl; exact stores)
  obtain ⟨expiresAt, -, path₃⟩ := ofExcept_bind_calling path₂
  rcases Op.stores_cases stores with ⟨_, _, _, _, _, rfl⟩ | ⟨_, _, _, _, _, rfl⟩
  · left
    have sealing : ∀ stored : Connection,
        (putSecret env profile.accountId profile.name service secret >>= fun _ =>
          (pure stored : Service env Connection)).Uses Op.sparesConnections := fun stored =>
      Prog.Uses.bind (putSecret_uses (fun _ calm => calm.quiet.idle.sparesConnections)
        (fun _ _ => trivial) secret) fun _ => trivial
    obtain ⟨next', inside⟩ := path₃.bind_within sealing id
    rcases putConnection_inv inside with ⟨-, here⟩ | ⟨i, a, s, s', -, ended⟩
    · cases here
      exact ⟨_, _, _, rfl, rfl⟩
    · obtain ⟨stored, -, ended⟩ | ⟨e, e', -, ended⟩ := ended <;> cases ended
  · right
    have linking : ∀ connection, (putConnection env profile connection now).Uses Op.sparesSecrets :=
      fun connection => putConnection_uses (fun _ => trivial) now
    obtain ⟨stored, es₁, es₂, rfl, put, sealing⟩ := path₃.bind_beyond (linking _) id
    rcases putConnection_inv put with ⟨-, here⟩ | ⟨j, a, t, t', rfl, ended⟩
    · cases here
    · obtain ⟨answer, rfl, -⟩ | ⟨e, e', -, ended⟩ := ended
      · have ending : ∀ u : Unit, (pure stored : Service env Connection).Uses Op.sparesSecrets :=
          fun _ => trivial
        obtain ⟨next', inside⟩ := sealing.bind_within ending id
        refine ⟨putSecret_calling inside stores, _,
          List.mem_cons_of_mem _ (List.mem_append_left _ (List.mem_singleton.mpr rfl)), ?_, ?_⟩
        · exact .connection rfl
        · obtain ⟨x, done⟩ :=
            real _ (List.mem_cons_of_mem _ (List.mem_append_left _ (List.mem_singleton.mpr rfl)))
          exact exec_putConnection_present done
      · cases ended

theorem finishAuthorization_calling {binding : FlowBinding} {code : String}
    {next : o.Ans → Service env Connection}
    (real : ∀ e ∈ es, ∃ x, exec env e.op x e.before = some (e.ans, e.after))
    (path : Path (finishAuthorization env binding code) es (.call o next)) (stores : o.stores) :
    ∃ profile, profile.accountId = binding.accountId ∧ profile.name = binding.profile ∧
      (PutsConnection profile binding.service o ∨ PutsSecret profile binding.service es o) := by
  obtain ⟨i, found, s, s', rest, rfl, path₁⟩ :=
    profileStore_bind_calling path (by rintro rfl; exact stores)
  cases found with
  | none => exact (done_calling path₁).elim
  | some profile =>
      obtain ⟨provider, -, path₂⟩ := ofExcept_bind_calling path₁
      obtain ⟨x, done⟩ := real _ (List.mem_cons_self ..)
      have done : exec env (.profiles (.get binding.accountId binding.profile)) x s =
        some (.ok (some profile), s') := done
      obtain ⟨read, -⟩ := ProfileOp.get_ok (transact_ok.mp (onDb_eq.mp done).1)
      rw [eq_comm, readProfile, Option.map_eq_some_iff] at read
      obtain ⟨row, stored, rfl⟩ := read
      have keyed := (Table.find?_eq_some.mp stored).2
      have posting : (TokenEndpoint.exchangeCode env provider code binding.redirectUri).Uses
          fun (o : Op) => ¬ o.stores := TokenEndpoint.post_uses (fun _ _ => id) _
      obtain ⟨secret, es₁, es₂, rfl, -, storing⟩ := path₂.bind_beyond posting (not_not.mpr stores)
      have owner : row.accountId = binding.accountId := congrArg Prod.fst keyed
      have named : row.name = binding.profile := congrArg Prod.snd keyed
      refine ⟨profileOf s.db row, owner, named, ?_⟩
      rcases storeOauthSecret_calling (fun e member => real e (by simp [member])) storing stores with
        puts | ⟨puts, put, member, written⟩
      · exact Or.inl puts
      · exact Or.inr ⟨puts, put, by simp [member], written⟩

/-- A redemption that returns has found the flow, and its clock has not reached the
end of it. -/
theorem redeemAuthorization_returned {state : String} {binding : FlowBinding}
    (path : Path (redeemAuthorization env state) es (.done (.ok binding))) :
    ∃ flow, RedeemedInTime (env.hashToken state) flow es ∧ binding = flow.binding := by
  obtain ⟨i, now, s, s', rest, rfl, path₁⟩ := ask_bind_returned path
  obtain ⟨j, found, t, t', rest, rfl, path₂⟩ := ask_bind_returned path₁
  cases found with
  | none => exact (throw_returned path₂).elim
  | some flow =>
      obtain ⟨live, path₃⟩ := refuseIf_bind_returned path₂
      obtain ⟨rfl, rfl⟩ := pure_returned path₃
      refine ⟨flow, ⟨i, now, s, s', j, t, t', rfl, ?_⟩, rfl⟩
      simpa [OAuthFlow.isLive] using live

/-- The redemption ends after two steps. -/
theorem redeemAuthorization_short {state : String} {q : Service env FlowBinding}
    (path : Path (redeemAuthorization env state) es q) : es.length ≤ 2 := by
  rcases ask_bind_inv path with ⟨rfl, -⟩ | ⟨i, now, s, s', rest, rfl, path₁⟩
  · simp
  · rcases ask_bind_inv path₁ with ⟨rfl, -⟩ | ⟨j, found, t, t', rest, rfl, path₂⟩
    · simp
    · have ended : rest = [] := by
        cases found with
        | none => exact path₂.done_inv.1
        | some flow =>
            rcases refuseIf_bind_inv path₂ with ⟨-, ended, -⟩ | ⟨-, path₃⟩
            · exact ended
            · exact path₃.done_inv.1
      simp [ended]

end CredentialService

/-- The requests that a provider's callback makes, with the state and the code. -/
def Call.callback : Call → Option (String × String)
  | .credential (.completeAuthorization state code) => some (state, code)
  | .change (.completeAuthorization state code) => some (state, code)
  | _ => none

theorem RedeemedInTime.take {stateHash : String} {flow : OAuthFlow}
    (redeemed : RedeemedInTime stateHash flow es) (later : List (Event (machine env))) :
    RedeemedInTime stateHash flow ((es ++ later).take 2) := by
  obtain ⟨i, now, s, s', j, t, t', rfl, live⟩ := redeemed
  exact ⟨i, now, s, s', j, t, t', rfl, live⟩

theorem Stores.stores {triple : Triple} {e : Event (machine env)} (stored : Stores triple e) :
    e.op.stores := by
  cases stored <;> trivial

/-- What follows the redemption in a callback. -/
theorem Call.callback_shape (env : Env) {c : Call} {state code : String}
    (callback : c.callback = some (state, code)) :
    ∃ rest : FlowBinding → Service env Answer,
      c.prog env = CredentialService.redeemAuthorization env state >>= rest ∧
        ∀ binding es o next, Path (rest binding) es (.call o next) → Op.stores o →
          ∃ es₁ es₂ next', es = es₁ ++ es₂ ∧
            Path (CredentialService.finishAuthorization env binding code) es₂ (.call o next') := by
  cases c with
  | credential c =>
      cases c with
      | completeAuthorization state' code' =>
          cases callback
          refine ⟨fun binding =>
            returning (CredentialService.finishAuthorization env binding code) .connection,
            bind_assoc _ _ _, fun binding es o next path stores => ?_⟩
          have ending : ∀ connection : Connection,
              (pure (.connection connection) : Service env Answer).Uses fun (o : Op) => ¬ o.stores :=
            fun _ => trivial
          obtain ⟨next', inside⟩ := path.bind_within ending (not_not.mpr stores)
          exact ⟨[], es, next', rfl, inside⟩
      | _ => cases callback
  | change c =>
      cases c with
      | completeAuthorization state' code' =>
          cases callback
          refine ⟨fun binding => returning (do
              let preferences ← preferencesFor binding.accountId
              let connection ← CredentialService.finishAuthorization env binding code
              CredentialChanges.announce env binding.accountId preferences
              pure connection) .connection,
            bind_assoc _ _ _, fun binding es o next path stores => ?_⟩
          have never : ¬ ¬ o.stores := not_not.mpr stores
          have ending : ∀ connection : Connection,
              (pure (.connection connection) : Service env Answer).Uses fun (o : Op) => ¬ o.stores :=
            fun _ => trivial
          obtain ⟨next', inside⟩ := path.bind_within ending never
          have asking : (preferencesFor binding.accountId : Service env Preferences).Uses
              fun (o : Op) => ¬ o.stores := preferencesFor_uses id
          obtain ⟨preferences, es₁, es₂, rfl, -, path₁⟩ := inside.bind_beyond asking never
          have announcing : ∀ connection : Connection,
              (CredentialChanges.announce env binding.accountId preferences >>= fun _ =>
                (pure connection : Service env Connection)).Uses fun (o : Op) => ¬ o.stores :=
            fun _ => Prog.Uses.bind
              (CredentialChanges.announce_uses (calm_of_quiet Op.quiet.storesNothing) _ _) fun _ => trivial
          obtain ⟨next'', finishing⟩ := path₁.bind_within announcing never
          exact ⟨es₁, es₂, next'', rfl, finishing⟩
      | _ => cases callback
  | _ => cases callback

/-! ## How an authorization begins -/

/-- The flow was begun for the profile that was read under its name, and ends a
fixed time after the clock was read. -/
def Begun (flow : OAuthFlow) (profileId : String) (read : Event (machine env))
    (es : List (Event (machine env))) : Prop :=
  read ∈ es ∧ read.op = .profiles (.get flow.binding.accountId flow.binding.profile) ∧
    profileIdAt (flow.binding.accountId, flow.binding.profile) read.before.db = some profileId ∧
    ∃ i issued s s', (⟨i, .now, issued, s, s'⟩ : Event (machine env)) ∈ es ∧
      flow.expiresAt = issued + seconds env.settings.oauthStateTtlSeconds

theorem Begun.mono {flow : OAuthFlow} {profileId : String} {read : Event (machine env)}
    {es' : List (Event (machine env))} (begun : Begun flow profileId read es) (sub : es ⊆ es') :
    Begun flow profileId read es' := by
  obtain ⟨member, reading, stored, i, issued, s, s', clock, ends⟩ := begun
  exact ⟨sub member, reading, stored, i, issued, s, s', sub clock, ends⟩

theorem exec_readProfile {accountId name : String} {profile : Profile} {x : Input} {w w' : World}
    (done : exec env (.profiles (.get accountId name)) x w = some (.ok (some profile), w')) :
    profile.accountId = accountId ∧ profile.name = name ∧
      profileIdAt (accountId, name) w.db = some profile.profileId := by
  obtain ⟨read, -⟩ := ProfileOp.get_ok (transact_ok.mp (onDb_eq.mp done).1)
  rw [eq_comm, readProfile, Option.map_eq_some_iff] at read
  obtain ⟨row, stored, rfl⟩ := read
  have keyed := (Table.find?_eq_some.mp stored).2
  have owner : row.accountId = accountId := congrArg Prod.fst keyed
  have named : row.name = name := congrArg Prod.snd keyed
  exact ⟨owner, named, by rw [profileIdAt, stored]; rfl⟩

section Begin

variable {stateHash : String} {flow : OAuthFlow}

/-- A program that never begins an authorization is not about to begin one. -/
theorem starts_of_calling {α : Type} {p : Service env α}
    {next : (Op.issueState stateHash flow).Ans → Service env α}
    (path : Path p es (.call (Op.issueState stateHash flow) next))
    (still : p.Uses fun (o : Op) => ¬ o.starts) : False :=
  (path.uses still).2.1 trivial

theorem beginAuthorization_calling {accountId profileName serviceName redirectUri : String}
    {next : (Op.issueState stateHash flow).Ans → Service env Authorization}
    (real : ∀ e ∈ es, ∃ x, exec env e.op x e.before = some (e.ans, e.after))
    (path : Path (CredentialService.beginAuthorization env accountId profileName serviceName
      redirectUri) es (.call (Op.issueState stateHash flow) next)) :
    ∃ profileId read, Begun flow profileId read es := by
  unfold CredentialService.beginAuthorization CredentialService.getProfile at path
  rw [bind_assoc] at path
  obtain ⟨normalized, -, path₁⟩ := ofExcept_bind_calling path
  rw [bind_assoc] at path₁
  obtain ⟨i, found, s, s', rest, rfl, path₂⟩ := profileStore_bind_calling path₁ (by simp)
  cases found with
  | none => exact (done_calling path₂).elim
  | some profile =>
      dsimp only at path₂
      rw [Prog.pure_eq, Prog.bind_ok] at path₂
      obtain ⟨service, -, path₃⟩ := ofExcept_bind_calling path₂
      obtain ⟨provider, -, path₄⟩ := ofExcept_bind_calling path₃
      obtain ⟨j, state, t, t', rest, rfl, path₅⟩ := ask_bind_calling path₄ (by simp)
      obtain ⟨k, issued, u, u', rest, rfl, path₆⟩ := ask_bind_calling path₅ (by simp)
      rcases ask_bind_inv path₆ with ⟨rfl, here⟩ | ⟨l, a, v, v', rest, rfl, path₇⟩
      · cases here
        obtain ⟨x, done⟩ := real _ (List.mem_cons_self ..)
        obtain ⟨owner, named, stored⟩ := exec_readProfile done
        refine ⟨profile.profileId, ⟨i, .profiles (.get accountId normalized), .ok (some profile), s, s'⟩,
          List.mem_cons_self .., ?_, ?_, k, issued, u, u', by simp, rfl⟩
        · simp [named]
        · rw [named]
          exact stored
      · refine (starts_of_calling path₇ ?_).elim
        refine Prog.Uses.bind (ask_uses id) fun now => ?_
        refine Prog.Uses.bind ?_ fun _ => trivial
        split
        · trivial
        · exact CredentialService.putConnection_uses (fun _ => id) now

theorem changes_beginAuthorization_calling
    {accountId profileName serviceName redirectUri : String} {requester : Requester}
    {answer : Authorization → Answer}
    {next : (Op.issueState stateHash flow).Ans → Service env Answer}
    (real : ∀ e ∈ es, ∃ x, exec env e.op x e.before = some (e.ans, e.after))
    (path : Path (returning (CredentialChanges.beginAuthorization env accountId profileName
      serviceName redirectUri requester) answer) es (.call (Op.issueState stateHash flow) next)) :
    ∃ profileId read, Begun flow profileId read es := by
  have starts : ¬ ¬ Op.starts (.issueState stateHash flow) := not_not.mpr trivial
  have ending : ∀ a : Authorization, (pure (answer a) : Service env Answer).Uses
      fun (o : Op) => ¬ o.starts := fun _ => trivial
  obtain ⟨next', inside⟩ := path.bind_within ending starts
  have admitting : (CredentialChanges.admitted env accountId requester).Uses
      fun (o : Op) => ¬ o.starts :=
    CredentialChanges.admitted_writes (fun _ quiet => quiet.still) (fun _ _ => id) accountId
  obtain ⟨preferences, es₁, es₂, rfl, -, beginning⟩ := inside.bind_beyond admitting starts
  obtain ⟨profileId, read, begun⟩ :=
    beginAuthorization_calling (fun e member => real e (List.mem_append_right _ member)) beginning
  exact ⟨profileId, read, begun.mono (List.subset_append_right es₁ es₂)⟩

theorem Call.begun {c : Call} {next : (Op.issueState stateHash flow).Ans → Service env Answer}
    (real : ∀ e ∈ es, ∃ x, exec env e.op x e.before = some (e.ans, e.after))
    (path : Path (c.prog env) es (.call (Op.issueState stateHash flow) next)) :
    ∃ profileId read, Begun flow profileId read es := by
  have starts : ¬ ¬ Op.starts (.issueState stateHash flow) := not_not.mpr trivial
  by_cases begins : c.begins
  · cases c with
    | credential c =>
        cases c with
        | beginAuthorization accountId profileName serviceName redirectUri =>
            have ending : ∀ a : Authorization, (pure (.authorization a) : Service env Answer).Uses
                fun (o : Op) => ¬ o.starts := fun _ => trivial
            obtain ⟨next', inside⟩ := path.bind_within ending starts
            exact beginAuthorization_calling real inside
        | _ => exact begins.elim
    | change c =>
        cases c with
        | beginAuthorization accountId profileName serviceName redirectUri requester =>
            exact changes_beginAuthorization_calling real path
        | _ => exact begins.elim
    | internal service userToken c =>
        cases c with
        | authorizeConnection name connection =>
            have acting : (Internal.actingFor env service userToken).Uses
                fun (o : Op) => ¬ o.starts :=
              Internal.actingFor_writes (fun _ quiet => quiet.still) _ _
            obtain ⟨accountId, es₁, es₂, rfl, -, beginning⟩ := path.bind_beyond acting starts
            obtain ⟨profileId, read, begun⟩ := changes_beginAuthorization_calling
              (fun e member => real e (List.mem_append_right _ member)) beginning
            exact ⟨profileId, read, begun.mono (List.subset_append_right es₁ es₂)⟩
        | _ => exact begins.elim
    | _ => exact begins.elim
  · exact (starts_of_calling path (c.uses_still begins)).elim

end Begin

end Histories

/-! ## Runs -/

section Runs

variable {w : World} {calls : List Call} {d : Config (machine env) Error Answer}
  {tr : List (Event (machine env))}

theorem same_profile {c : Config (machine env) Error Answer} {key : String × String}
    {profileId : String} (run : Run c tr d) (quiet : ∀ e ∈ tr, ¬ Appears key e)
    (start : profileIdAt key c.state.db = some profileId) :
    profileIdAt key d.state.db = some profileId ∨ profileIdAt key d.state.db = none := by
  apply run.preserves
    (fun w : World => profileIdAt key w.db = some profileId ∨ profileIdAt key w.db = none)
  · intro e member here
    obtain ⟨x, done⟩ := run.exec_eq e member
    rcases here with here | free
    · rcases exec_profileIdAt key done with same | none | gone
      · exact Or.inl (same.trans here)
      · rw [here] at none
        cases none
      · exact Or.inr gone
    · by_contra appeared
      push Not at appeared
      exact quiet e member ⟨free, appeared.2⟩
  · exact Or.inl start

/-- While none goes away either, it names the same profile. -/
theorem kept_profile {c : Config (machine env) Error Answer} {key : String × String}
    {profileId : String} (run : Run c tr d) (quiet : ∀ e ∈ tr, ¬ Vanishes key e)
    (start : profileIdAt key c.state.db = some profileId) :
    profileIdAt key d.state.db = some profileId := by
  apply run.preserves (fun w : World => profileIdAt key w.db = some profileId)
  · intro e member here
    obtain ⟨x, done⟩ := run.exec_eq e member
    rcases exec_profileIdAt key done with same | none | gone
    · exact same.trans here
    · rw [here] at none
      cases none
    · refine absurd ⟨?_, gone⟩ (quiet e member)
      rw [here]
      exact Option.some_ne_none _
  · exact start

inductive RedeemsState (stateHash : String) (flow : OAuthFlow) : Event (machine env) → Prop where
  | redeemed {i : Nat} {s s' : World} :
      RedeemsState stateHash flow ⟨i, .redeemState stateHash, some flow, s, s'⟩

def FlowBinding.triple (binding : FlowBinding) : Triple :=
  (binding.accountId, binding.profile, binding.service)

/-- No profile appears under the name, and none goes away from it once this caller
has written to it. -/
def Steady (triple : Triple) (j : Nat) (since : List (Event (machine env))) : Prop :=
  (∀ m ∈ since, ¬ Appears (triple.1, triple.2.1) m) ∧
    ∀ before put after, since = before ++ put :: after → put.thread = j → Stores triple put →
      ∀ m ∈ after, ¬ Vanishes (triple.1, triple.2.1) m

theorem RedeemsState.found {stateHash : String} {flow : OAuthFlow} {e : Event (machine env)} {x : Input}
    (redeems : RedeemsState stateHash flow e) (done : exec env e.op x e.before = some (e.ans, e.after)) :
    flowAt stateHash e.before = some flow ∧ flowAt stateHash e.after = none := by
  cases redeems with
  | @redeemed i s s' =>
      have done : exec env (.redeemState stateHash) x s = some (some flow, s') := done
      obtain ⟨found, gone⟩ := exec_redeemState done
      exact ⟨found.symm, gone⟩

/-- A flow in progress was in progress at the start, or a step has issued it. -/
theorem flow_issued {c : Config (machine env) Error Answer} (run : Run c tr d) {stateHash : String}
    {flow : OAuthFlow} (here : flowAt stateHash d.state = some flow) :
    flowAt stateHash c.state = some flow ∨
      ∃ before q after, tr = before ++ q :: after ∧ q.op = .issueState stateHash flow := by
  have each : ∀ e ∈ tr, flowAt stateHash e.after = some flow →
      (flowAt stateHash e.before = some flow ∧ True) ∨ e.op = .issueState stateHash flow := by
    intro e member after
    obtain ⟨x, done⟩ := run.exec_eq e member
    rcases exec_flowAt done after with ⟨before, -⟩ | issued
    · exact Or.inl ⟨before, trivial⟩
    · exact Or.inr issued
  rcases run.last_of (P := fun w : World => flowAt stateHash w = some flow) (T := fun _ => True)
      each here with ⟨start, -⟩ | ⟨before, q, after, split, issued, -⟩
  · exact Or.inl start
  · exact Or.inr ⟨before, q, after, split, issued⟩

theorem issued_between (run : Run (start env w calls) tr d) {stateHash : String}
    {early mid late : List (Event (machine env))} {r r' : Event (machine env)}
    {flow flow' : OAuthFlow} (split : tr = early ++ r :: (mid ++ r' :: late))
    (first : RedeemsState stateHash flow r) (second : RedeemsState stateHash flow' r') :
    ∃ q ∈ mid, q.op = .issueState stateHash flow' := by
  subst split
  obtain ⟨c, -, rest⟩ := run.split
  obtain ⟨c', step, rest⟩ := rest.cons_inv
  obtain ⟨x, redeemed⟩ := step.exec_eq
  obtain ⟨c'', between, here⟩ := rest.before_of_split
  obtain ⟨y, again⟩ := rest.exec_eq r' (by simp)
  have gone := (first.found redeemed).2
  have found := (second.found again).1
  rw [step.after_eq] at gone
  rw [← here] at found
  rcases flow_issued between found with start | ⟨before, q, after, rfl, issued⟩
  · rw [gone] at start
    cases start
  · exact ⟨q, by simp, issued⟩

theorem flow_begun (run : Run (start env w calls) tr d) {stateHash : String} {flow : OAuthFlow}
    (here : flowAt stateHash d.state = some flow) :
    flowAt stateHash w = some flow ∨
      ∃ profileId read before since, tr = before ++ read :: since ∧ Begun flow profileId read tr := by
  rcases flow_issued run here with start | ⟨before, q, after, rfl, issued⟩
  · exact Or.inl start
  · right
    obtain ⟨k, o, a, s, s'⟩ := q
    have issued : o = .issueState stateHash flow := issued
    subst issued
    have inside : k < calls.length := by
      simpa [start] using run.thread_lt ⟨k, _, a, s, s'⟩ (by simp)
    obtain ⟨next, path⟩ := run.at_event
      (show (start env w calls).pool[k]? = some (calls[k].prog env) by simp [start, inside])
    obtain ⟨profileId, read, begun⟩ := Call.begun
      (fun e member => run.exec_eq e (List.mem_append_left _ (mem_ofThread.mp member).1)) path
    have begun : Begun flow profileId read before :=
      begun.mono fun m member => (mem_ofThread.mp member).1
    obtain ⟨before', since, rfl⟩ := List.append_of_mem begun.1
    exact ⟨profileId, read, before', since ++ ⟨k, _, a, s, s'⟩ :: after, by simp,
      begun.mono (List.subset_append_left ..)⟩

theorem write_redeemed {early late : List (Event (machine env))} {e : Event (machine env)}
    (run : Run (start env w calls) (early ++ e :: late) d) {c : Call} {state code : String}
    (found : calls[e.thread]? = some c) (callback : c.callback = some (state, code))
    (stores : e.op.stores) :
    ∃ flow es₁ es₂ profile, ofThread e.thread early = es₁ ++ es₂ ∧
      RedeemedInTime (env.hashToken state) flow es₁ ∧
      profile.accountId = flow.binding.accountId ∧ profile.name = flow.binding.profile ∧
      (PutsConnection profile flow.binding.service e.op ∨
        PutsSecret profile flow.binding.service es₂ e.op) := by
  obtain ⟨rest, shape, later⟩ := Call.callback_shape env callback
  obtain ⟨next, path⟩ := run.at_event
    (show (start env w calls).pool[e.thread]? = some (c.prog env) by simp [start, found])
  have real : ∀ e' ∈ ofThread e.thread early, ∃ x, exec env e'.op x e'.before = some (e'.ans, e'.after) :=
    fun e' member => run.exec_eq e' (List.mem_append_left _ (mem_ofThread.mp member).1)
  rw [shape] at path
  have redeeming : (CredentialService.redeemAuthorization env state).Uses
      fun (o : Op) => ¬ o.stores :=
    CredentialService.redeemAuthorization_writes Op.quiet.storesNothing state
  obtain ⟨binding, es₁, es₂, own, first, second⟩ := path.bind_beyond redeeming (not_not.mpr stores)
  obtain ⟨flow, redeemed, rfl⟩ := CredentialService.redeemAuthorization_returned first
  obtain ⟨es₃, es₄, next', rfl, finishing⟩ := later _ _ _ _ second stores
  obtain ⟨profile, owner, named, puts⟩ := CredentialService.finishAuthorization_calling
    (fun e' member => real e' (by rw [own]; simp [member])) finishing stores
  refine ⟨flow, es₁, es₃ ++ es₄, profile, own, redeemed, owner, named, ?_⟩
  rcases puts with puts | ⟨puts, put, member, written⟩
  · exact Or.inl puts
  · exact Or.inr ⟨puts, put, List.mem_append_right _ member, written⟩

/-- A write that takes effect goes to the profile that the name stood for, when
nothing happens to the name. -/
theorem lands_of_steady {c : Config (machine env) Error Answer}
    {since late : List (Event (machine env))} {read e : Event (machine env)} {profileId : String}
    {triple : Triple} (run : Run c (read :: (since ++ e :: late)) d)
    (begun : profileIdAt (triple.1, triple.2.1) read.before.db = some profileId)
    (stored : Stores triple e)
    (linked : e.op.sparesSecrets ∨ ∃ put ∈ since, put.thread = e.thread ∧ Stores triple put ∧
      profileIdAt (triple.1, triple.2.1) put.after.db ≠ none)
    (steady : Steady triple e.thread since) :
    profileIdAt (triple.1, triple.2.1) e.before.db = some profileId := by
  have run : Run c ((read :: since) ++ e :: late) d := run
  obtain ⟨m, first, here⟩ := run.before_of_split
  obtain ⟨n, step, rest⟩ := first.cons_inv
  have started : profileIdAt (triple.1, triple.2.1) c.state.db = some profileId := by
    rwa [← step.before_eq]
  have quiet : ∀ e' ∈ read :: since, ¬ Appears (triple.1, triple.2.1) e' := by
    intro e' member appears
    rcases List.mem_cons.mp member with rfl | later
    · have free := appears.1
      rw [begun] at free
      cases free
    · exact steady.1 e' later appears
  obtain ⟨x, done⟩ := run.exec_eq e (by simp)
  rw [← here]
  cases stored with
  | @connection i accountId name service item answer cap now s s' _ =>
      have done : exec env (.profiles (.putConnection accountId name item cap now)) x s =
        some (.ok answer, s') := done
      have present := (ProfileOp.putConnection_ok (transact_ok.mp (onDb_eq.mp done).1)).1.present
      rcases same_profile first quiet started with same | gone
      · exact same
      · rw [here, profileIdAt, Option.map_eq_none_iff] at gone
        change s.db.profiles.find? (accountId, name) = none at gone
        rw [gone] at present
        cases present
  | @secret i accountId name service envelope now s s' =>
      rcases linked with impossible | ⟨put, member, own, puts, present⟩
      · exact impossible.elim
      · obtain ⟨before, after, rfl⟩ := List.append_of_mem member
        have split : read :: (before ++ put :: after) = (read :: before ++ [put]) ++ after := by simp
        rw [split] at first quiet
        obtain ⟨o, early, late⟩ := first.split
        have written : profileIdAt (accountId, name) o.state.db = some profileId := by
          have last := early.finalState_eq
          rw [finalState_snoc] at last
          rcases same_profile early (fun e' member => quiet e' (List.mem_append_left _ member))
            started with same | gone
          · exact same
          · rw [← last] at gone
            exact absurd gone present
        exact kept_profile late (steady.2 before put after rfl own puts) written

/-- In every run: a state is redeemed again only after it was issued again; a
callback gets past its redemption only at a clock before the end of the flow; and
what it stores is stored under the names of the flow it redeemed, in the profile
that the authorization was begun for when the name has kept its profile. -/
theorem callbacks_land (run : Run (start env w calls) tr d) :
    (∀ stateHash early r mid r' late flow flow', tr = early ++ r :: (mid ++ r' :: late) →
      RedeemsState stateHash flow r → RedeemsState stateHash flow' r' →
        ∃ q ∈ mid, q.op = .issueState stateHash flow') ∧
    (∀ j c state code, calls[j]? = some c → c.callback = some (state, code) →
      (2 < (ofThread j tr).length ∨ ∃ answer, d.pool[j]? = some (.done (.ok answer))) →
        ∃ flow, RedeemedInTime (env.hashToken state) flow ((ofThread j tr).take 2)) ∧
    (∀ early e late c state code triple, tr = early ++ e :: late → calls[e.thread]? = some c →
      c.callback = some (state, code) → Stores triple e →
        ∃ flow, RedeemedInTime (env.hashToken state) flow ((ofThread e.thread early).take 2) ∧
          triple = flow.binding.triple ∧
          (flowAt (env.hashToken state) w = some flow ∨
            ∃ profileId read before since, early = before ++ read :: since ∧
              Begun flow profileId read early ∧
              (Steady triple e.thread since →
                profileIdAt (triple.1, triple.2.1) e.before.db = some profileId))) := by
  refine ⟨fun stateHash early r mid r' late flow flow' => issued_between run, ?_, ?_⟩
  · intro j c state code found callback moved
    obtain ⟨q, here, path⟩ := path_of_run run j c found
    obtain ⟨rest, shape, -⟩ := Call.callback_shape env callback
    rw [shape] at path
    have redeemed : ∃ binding es₁ es₂, ofThread j tr = es₁ ++ es₂ ∧
        Path (CredentialService.redeemAuthorization env state) es₁ (.done (.ok binding)) := by
      rcases moved with long | ⟨answer, ended⟩
      · rcases path.bind_inv with ⟨p', inside, -⟩ | ⟨binding, es₁, es₂, own, first, -⟩
        · have short := CredentialService.redeemAuthorization_short inside
          omega
        · exact ⟨binding, es₁, es₂, own, first⟩
      · rw [here, Option.some.injEq] at ended
        subst ended
        obtain ⟨binding, es₁, es₂, own, first, -⟩ := path.bind_returned
        exact ⟨binding, es₁, es₂, own, first⟩
    obtain ⟨binding, es₁, es₂, own, first⟩ := redeemed
    obtain ⟨flow, inTime, -⟩ := CredentialService.redeemAuthorization_returned first
    exact ⟨flow, by rw [own]; exact inTime.take es₂⟩
  · intro early e late c state code triple split found callback stored
    subst split
    obtain ⟨flow, es₁, es₂, profile, own, redeemed, owner, named, puts⟩ :=
      write_redeemed run found callback stored.stores
    have addressed : triple = flow.binding.triple := by
      rw [FlowBinding.triple, ← owner, ← named]
      exact puts.elim (fun puts => puts.triple stored) fun puts => puts.triple stored
    refine ⟨flow, by rw [own]; exact redeemed.take es₂, addressed, ?_⟩
    obtain ⟨i, now, s, s', j, t, t', rfl, -⟩ := id redeemed
    obtain ⟨before, after, rfl, -, ownAfter⟩ := ofThread_at
      (show ofThread e.thread early = [⟨i, .now, now, s, s'⟩] ++
        ⟨j, .redeemState (env.hashToken state), some flow, t, t'⟩ :: es₂ from own)
    obtain ⟨m, first, -⟩ := run.before_of_split
    obtain ⟨n, prior, here⟩ := first.before_of_split
    obtain ⟨x, done⟩ := first.exec_eq _ (List.mem_append_right _ (List.mem_cons_self ..))
    have done : exec env (.redeemState (env.hashToken state)) x t = some (some flow, t') := done
    have outstanding := (exec_redeemState done).1.symm
    rw [show t = n.state from here.symm] at outstanding
    rcases flow_begun prior outstanding with begun | ⟨profileId, read, earlier, since, rfl, begun⟩
    · exact Or.inl begun
    · right
      refine ⟨profileId, read, earlier,
        since ++ ⟨j, .redeemState (env.hashToken state), some flow, t, t'⟩ :: after,
        by simp, begun.mono (List.subset_append_left ..), ?_⟩
      obtain ⟨-, -, known, -⟩ := begun
      intro steady
      subst addressed
      have split : (earlier ++ read :: since) ++ (⟨j, .redeemState (env.hashToken state), some flow, t, t'⟩
          :: after) ++ e :: late = earlier ++ (read :: ((since ++
            ⟨j, .redeemState (env.hashToken state), some flow, t, t'⟩ :: after) ++ e :: late)) := by
        simp
      rw [split] at run
      obtain ⟨o, -, rest⟩ := run.split
      refine lands_of_steady rest known stored ?_ steady
      rcases puts with puts | ⟨-, put, member, written, present⟩
      · obtain ⟨connection, cap, stamp, -, same⟩ := puts
        rw [same]
        exact Or.inl trivial
      · right
        rw [← ownAfter] at member
        obtain ⟨inside, mine⟩ := mem_ofThread.mp member
        rw [owner, named] at written present
        exact ⟨put, by simp [inside], mine, written, present⟩

end Runs

/-! ## A profile is recreated during the consent -/

namespace Scenario

/-- The provider's answer to a code. -/
def grantedInput (now : Instant) (drawn : String) : Input :=
  { given now drawn with
    response := .answered 200 (some (.obj [("access_token", .str "access1")])) }

def beginHome : Call :=
  .credential (.beginAuthorization "bob" "home" "spotify" settings.oauthRedirectUri)

def completeHome : Call := .credential (.completeAuthorization "state" "code")

def recreated : List Call :=
  [beginHome, .credential (.deleteProfile "bob" "home"), .credential (.createProfile "bob" "home"),
    completeHome]

def authorized : List Call := [beginHome, completeHome]

def authorizedRun : Config (machine deployment) Error Answer × List (Event (machine deployment)) :=
  (start deployment connectedOffice authorized).play
    (List.replicate 6 (0, given 1 "state") ++ List.replicate 9 (1, grantedInput 2 "b"))

def recreatedRun : Config (machine deployment) Error Answer × List (Event (machine deployment)) :=
  (start deployment connectedOffice recreated).play
    (List.replicate 6 (0, given 1 "state") ++ List.replicate 2 (1, given 2 "b") ++
      List.replicate 3 (2, given 3 "new") ++ List.replicate 9 (3, grantedInput 4 "c"))

instance : DecidablePred Op.stores := fun o => by
  unfold Op.stores
  split <;> infer_instance

/-- The step reads Bob's profile. -/
def readsHome : Op → Prop
  | .profiles (.get accountId name) => accountId = "bob" ∧ name = "home"
  | _ => False

instance : DecidablePred readsHome := fun o => by
  unfold readsHome
  split <;> infer_instance

/-- The step issues this state for Bob's profile. -/
def issuesHome (state : String) : Op → Prop
  | .issueState stateHash flow =>
      stateHash = deployment.hashToken state ∧ flow.binding.triple = ("bob", "home", "spotify")
  | _ => False

instance (state : String) : DecidablePred (issuesHome state) := fun o => by
  unfold issuesHome
  split <;> infer_instance

end Scenario

open Scenario in
theorem callbacks_land_authorized :
    Run (start deployment connectedOffice authorized) authorizedRun.2 authorizedRun.1 ∧
      ∃ flow, RedeemedInTime (deployment.hashToken "state") flow ((ofThread 1 authorizedRun.2).take 2) := by
  have run : Run (start deployment connectedOffice authorized) authorizedRun.2 authorizedRun.1 :=
    Config.play_run _ _
  exact ⟨run, (callbacks_land run).2.1 1 completeHome "state" "code" rfl rfl
    (Or.inl (by decide +kernel))⟩

open Scenario in
/-- The state was issued for the profile that Bob had, and the callback that
returned has stored the credential in another one of that name. -/
theorem callback_lands_elsewhere :
    Run (start deployment connectedOffice recreated) recreatedRun.2 recreatedRun.1 ∧
      recreated[0]? = some beginHome ∧ recreated[3]? = some completeHome ∧
      (∃ e ∈ ofThread 0 recreatedRun.2, readsHome e.op ∧
        profileIdAt ("bob", "home") e.before.db = some "prof_home") ∧
      (∃ e ∈ ofThread 0 recreatedRun.2, issuesHome "state" e.op) ∧
      (∃ answer, recreatedRun.1.pool[3]? = some (.done (.ok answer))) ∧
      ∃ e ∈ ofThread 3 recreatedRun.2, e.op.stores ∧
        profileIdAt ("bob", "home") e.before.db = some "prof_new" := by
  refine ⟨Config.play_run _ _, rfl, rfl, by decide +kernel, by decide +kernel,
    returned_some (by decide +kernel), by decide +kernel⟩

end Keyring

import Keyring.Api.Routes
import Keyring.Interleave.Scripts
import Keyring.Runs

/-!
# The routes are fronts of the services

Every run of HTTP requests is a run of calls to the services, and each of these calls is
one that its request is entitled to: a route behind a session calls for the account of a
session that its bearer string was resolved to, an administrative one as the actor whose
permissions were resolved, and an internal one as the service whose token it is.
-/

set_option autoImplicit false

namespace Keyring

open Interleave Relational

/-- A step of a route itself, which only looks something up. -/
def Op.consults : Op → Bool
  | .accounts (.get _) | .accounts .count | .roles (.resolve _) | .profiles .allProfiles | .now =>
      true
  | _ => false

/-- The same state but for the last reading of the clock. -/
def Retimed (w u : World) : Prop := u = { w with clock := u.clock }

/-! ## What a request is entitled to -/

section Entitlement

variable {env : Env} (container : Container) (heard : List (Heard (machine env) Call Error Answer))

/-- The bearer string was resolved to the session. -/
def ResolvedTo (presented : String) (session : Session) : Prop :=
  .called (.account (.resolveSession presented)) (.ok (.session session)) ∈ heard

/-- The session that the string was resolved to is one of the account. -/
def Owns (presented : String) (account : Account) : Prop :=
  ∃ session, ResolvedTo heard presented session ∧
    .read (.accounts (.get session.accountId)) (.ok (some account)) ∈ heard

/-- The string is the break-glass token, or the actor is the account of its session with
the permissions that were resolved. -/
inductive ActsAs (presented : String) : Actor → Prop where
  | breakGlass (configured : container.adminToken = some presented) :
      ActsAs presented ⟨breakGlassActor, Finset.univ, true⟩
  | account {account : Account} {permissions : Finset Permission} (owns : Owns heard presented account)
      (permitted : .read (.roles (.resolve account.roles)) (.ok permissions) ∈ heard) :
      ActsAs presented ⟨account.accountId, permissions, false⟩

/-- The string is the service's token. -/
def CallsAs (presented service : String) : Prop :=
  container.serviceAuthenticator.identify (some presented) = .ok service

/-- What a request with a session calls. -/
def SessionCall.call (session : Session) : SessionCall → Call
  | .logout => .account (.logout session.sessionId)
  | .changePassword currentPassword newPassword =>
      .account (.changePassword session.accountId currentPassword newPassword
        (some session.sessionId))

/-- What a request of an account may call. -/
inductive OwnCall.Calls (env : Env) (account : Account) : OwnCall → Call → Prop where
  | logoutEverywhere :
      Calls env account .logoutEverywhere (.account (.logoutEverywhere account.accountId))
  | listProfiles : Calls env account .listProfiles (.credential (.listProfiles account.accountId))
  | createProfile (name : String) :
      Calls env account (.createProfile name) (.credential (.createProfile account.accountId name))
  | getProfile (name : String) :
      Calls env account (.getProfile name) (.credential (.getProfile account.accountId name))
  | getProfileGrants (name found : String) :
      Calls env account (.getProfile name) (.delegation (.listGrants account.accountId found))
  | deleteProfile (name : String) (password : Option String) :
      Calls env account (.deleteProfile name password)
        (.change (.removeProfile account.accountId name (Requester.person password)))
  | putApiKey (name service apiKey header template : String) (inQuery : Bool) (queryName : String)
      (password : Option String) :
      Calls env account (.putApiKey name service apiKey header template inQuery queryName password)
        (.change (.storeDirect account.accountId name service .apiKey
          (apiKeySecret apiKey header template inQuery queryName) false (Requester.person password)))
  | putPassword (name service username secret : String) (totpSeed password : Option String) :
      Calls env account (.putPassword name service username secret totpSeed password)
        (.change (.storeDirect account.accountId name service .password
          (passwordSecret username secret totpSeed) (totpSeed.any (· ≠ ""))
          (Requester.person password)))
  | authorizeConnection (name service : String) (password : Option String) :
      Calls env account (.authorizeConnection name service password)
        (.change (.beginAuthorization account.accountId name service env.settings.oauthRedirectUri
          (Requester.person password)))
  | deleteConnection (name service : String) (password : Option String) :
      Calls env account (.deleteConnection name service password)
        (.change (.removeConnection account.accountId name service (Requester.person password)))
  | createOfflineGrant (name service : String) (audiences : List String) (ttlSeconds : Int) :
      Calls env account (.createOfflineGrant name service audiences ttlSeconds)
        (.delegation (.create account.accountId name service audiences ttlSeconds))
  | listOfflineGrants (name : String) :
      Calls env account (.listOfflineGrants name) (.delegation (.listGrants account.accountId name))
  | revokeOfflineGrant (name grantId : String) :
      Calls env account (.revokeOfflineGrant name grantId)
        (.delegation (.revoke account.accountId name grantId))

/-- The string that is resolved to a session, where a request presents one. -/
def Request.bearer : Request → Option String
  | .session credentials _ | .own credentials _ | .admin credentials _
  | .listPermissions credentials => credentials
  | _ => none

/-- A call that a request may make once it has heard this much. -/
inductive Entitled : Request → Call → Prop where
  | login (email password caller : String) :
      Entitled (.login email password caller) (.account (.login email password caller))
  | redeemInvite (token password caller : String) :
      Entitled (.redeemInvite token password caller) (.account (.redeemInvite token password caller))
  | requestPasswordReset (email caller : String) :
      Entitled (.requestPasswordReset email caller) (.account (.requestPasswordReset email caller))
  | redeemPasswordReset (token password caller : String) :
      Entitled (.redeemPasswordReset token password caller)
        (.account (.redeemPasswordReset token password caller))
  | completeAuthorization (state code : String) :
      Entitled (.completeAuthorization state code) (.change (.completeAuthorization state code))
  | resolve {request : Request} {presented : String} (bearer : request.bearer = some presented) :
      Entitled request (.account (.resolveSession presented))
  | session {presented : String} {session : Session} {c : SessionCall}
      (resolved : ResolvedTo heard presented session) :
      Entitled (.session (some presented) c) (c.call session)
  | own {presented : String} {account : Account} {c : OwnCall} {call : Call}
      (owns : Owns heard presented account) (calls : c.Calls env account call) :
      Entitled (.own (some presented) c) call
  | exchange {presented service : String} {userToken grantId : Option String} {audience : String}
      {ttlSeconds : Int} (identified : CallsAs container presented service) :
      Entitled (.exchangeUserToken (some presented) userToken audience ttlSeconds grantId)
        (.exchange service audience ttlSeconds userToken grantId)
  | internal {presented service : String} {userToken : Option String} {c : InternalCall}
      (identified : CallsAs container presented service) :
      Entitled (.internal (some presented) userToken c) (.internal service userToken c)
  | admin {presented : String} {actor : Actor} {c : AdminCall}
      (acts : ActsAs container heard presented actor) :
      Entitled (.admin (some presented) c) (.admin actor c)

/-- What a request has shown that is answered with more than a refusal. -/
def Authenticated : Request → Prop
  | .session credentials _ => ∃ presented session, credentials = some presented ∧
      ResolvedTo heard presented session
  | .own credentials _ => ∃ presented account, credentials = some presented ∧
      Owns heard presented account
  | .exchangeUserToken credentials _ _ _ _ | .internal credentials _ _ =>
      ∃ presented service, credentials = some presented ∧ CallsAs container presented service
  | .admin credentials _ => ∃ presented actor, credentials = some presented ∧
      ActsAs container heard presented actor
  | .listPermissions credentials => ∃ presented actor, credentials = some presented ∧
      ActsAs container heard presented actor ∧ .rolesRead ∈ actor.permissions
  | _ => True

end Entitlement

section Mono

variable {env : Env} {container : Container}
  {heard : List (Heard (machine env) Call Error Answer)}

theorem Owns.mono {presented : String} {account : Account} (owns : Owns heard presented account)
    (more : List (Heard (machine env) Call Error Answer)) : Owns (heard ++ more) presented account := by
  obtain ⟨session, resolved, found⟩ := owns
  exact ⟨session, List.mem_append_left _ resolved, List.mem_append_left _ found⟩

theorem ActsAs.mono {presented : String} {actor : Actor} (acts : ActsAs container heard presented actor)
    (more : List (Heard (machine env) Call Error Answer)) :
    ActsAs container (heard ++ more) presented actor := by
  cases acts with
  | breakGlass configured => exact .breakGlass configured
  | account owns permitted => exact .account (owns.mono more) (List.mem_append_left _ permitted)

theorem Authenticated.mono {request : Request} (shown : Authenticated container heard request)
    (more : List (Heard (machine env) Call Error Answer)) :
    Authenticated container (heard ++ more) request := by
  cases request with
  | session credentials c =>
      obtain ⟨presented, session, sent, resolved⟩ := shown
      exact ⟨presented, session, sent, List.mem_append_left _ resolved⟩
  | own credentials c =>
      obtain ⟨presented, account, sent, owns⟩ := shown
      exact ⟨presented, account, sent, owns.mono more⟩
  | admin credentials c =>
      obtain ⟨presented, actor, sent, acts⟩ := shown
      exact ⟨presented, actor, sent, acts.mono more⟩
  | listPermissions credentials =>
      obtain ⟨presented, actor, sent, acts, permitted⟩ := shown
      exact ⟨presented, actor, sent, acts.mono more, permitted⟩
  | _ => exact shown

end Mono

/-! ## The routes as fronts -/

section Routes

variable {env : Env} {container : Container} {request : Request}
  {heard : List (Heard (machine env) Call Error Answer)} {γ : Type}

/-- The rest of a request that has heard this much. -/
abbrev Route (container : Container) (request : Request)
    (heard : List (Heard (machine env) Call Error Answer)) (p : Service env Reply) : Prop :=
  Script (Call.prog env) Op.consults (fun heard call => Entitled container heard request call)
    (fun heard r => ∀ reply, r = .ok reply → Authenticated container heard request) heard p

theorem Route.raises (e : Error) : Route container request heard (.done (.error e)) := .ended nofun

theorem Route.replies (reply : Reply) (shown : Authenticated container heard request) :
    Route container request heard (pure reply) := .ended fun _ _ => shown

theorem Route.refuses {c : Prop} [Decidable c] {e : Error} {f : Unit → Service env Reply}
    (rest : ¬c → Route container request heard (f ())) :
    Route container request heard (refuseIf c e >>= f) := by
  rw [refuseIf_bind]
  by_cases refused : c
  · rw [if_pos refused]
    exact Route.raises e
  · rw [if_neg refused]
    exact rest refused

/-- A value is gone on with, an exception raised. -/
theorem Route.ofExcept {r : Except Error γ} {f : γ → Service env Reply}
    (rest : ∀ v, r = .ok v → Route container request heard (f v)) :
    Route container request heard (Prog.ofExcept r >>= f) := by
  cases r with
  | error e => exact Route.raises e
  | ok v => exact rest v rfl

theorem Route.account {accountId : String} {f : Option Account → Service env Reply}
    (rest : ∀ found, Route container request
      (heard ++ [.read (.accounts (.get accountId)) (.ok found)]) (f found)) :
    Route container request heard (accountStore (.get accountId) >>= f) := by
  refine .read rfl fun answer => ?_
  cases answer with
  | error e => exact Route.raises e
  | ok found => exact rest found

theorem Route.permissions {roles : List String} {f : Finset Permission → Service env Reply}
    (rest : ∀ permissions, Route container request
      (heard ++ [.read (.roles (.resolve roles)) (.ok permissions)]) (f permissions)) :
    Route container request heard (roleStore (.resolve roles) >>= f) := by
  refine .read rfl fun answer => ?_
  cases answer with
  | error e => exact Route.raises e
  | ok permissions => exact rest permissions

theorem Route.clock {f : Instant → Service env Reply}
    (rest : ∀ now, Route container request (heard ++ [.read .now now]) (f now)) :
    Route container request heard (clockNow >>= f) := .read rfl rest

open Classical in
theorem returning_andThen {β : Type} {answer : γ → Answer} (apart : Function.Injective answer)
    (p : Service env γ) (f : γ → Service env β) :
    ∃ k : Except Error Answer → Service env β, p >>= f = (returning p answer).andThen k ∧
      (∀ v, k (.ok (answer v)) = f v) ∧
      ∀ r, (∀ v, r ≠ .ok (answer v)) → ∃ e, k r = .done (.error e) := by
  have takes : ∃ k : Except Error Answer → Service env β, (∀ v, k (.ok (answer v)) = f v) ∧
      (∀ e, k (.error e) = .done (.error e)) ∧
      ∀ r, (∀ v, r ≠ .ok (answer v)) → ∃ e, k r = .done (.error e) := by
    refine ⟨fun
      | .ok x => if given : ∃ v, answer v = x then f given.choose else .done (.error (.value ""))
      | .error e => .done (.error e), fun v => ?_, fun e => rfl, fun r other => ?_⟩
    · have given : ∃ v', answer v' = answer v := ⟨v, rfl⟩
      dsimp only
      rw [dif_pos given, apart given.choose_spec]
    · cases r with
      | error e => exact ⟨e, rfl⟩
      | ok x =>
          have absent : ¬ ∃ v, answer v = x := fun given => by
            obtain ⟨v, same⟩ := given
            exact other v (by rw [same])
          exact ⟨_, dif_neg absent⟩
  obtain ⟨k, given, raised, junk⟩ := takes
  refine ⟨k, ?_, given, junk⟩
  induction p with
  | done r =>
      cases r with
      | ok v => exact (given v).symm
      | error e => exact (raised e).symm
  | call o next ih =>
      rw [Prog.bind_call, returning, Prog.bind_call, Prog.andThen]
      congr 1
      funext a
      exact ih a

theorem Route.asks (call : Call) {p : Service env γ} {answer : γ → Answer}
    (asked : call.prog env = returning p answer) (apart : Function.Injective answer)
    (entitled : Entitled container heard request call) {f : γ → Service env Reply}
    (rest : ∀ v, Route container request (heard ++ [.called call (.ok (answer v))]) (f v)) :
    Route container request heard (p >>= f) := by
  obtain ⟨k, goes, given, junk⟩ := returning_andThen apart p f
  rw [goes, ← asked]
  refine .calls entitled fun r => ?_
  by_cases answered : ∃ v, r = .ok (answer v)
  · obtain ⟨v, same⟩ := answered
    rw [same, given v]
    exact rest v
  · obtain ⟨e, raised⟩ := junk r fun v same => answered ⟨v, same⟩
    rw [raised]
    exact Route.raises e

theorem Route.asks_reply (call : Call) {p : Service env γ} {answer : γ → Answer}
    (asked : call.prog env = returning p answer) (apart : Function.Injective answer)
    (entitled : Entitled container heard request call)
    (shown : Authenticated container heard request) (reply : γ → Reply) :
    Route container request heard (p >>= fun v => pure (reply v)) :=
  Route.asks call asked apart entitled fun _ => Route.replies _ (shown.mono _)

/-! ## Who is asking -/

theorem getCurrentSession_route (request : Request) {f : Session → Service env Reply}
    (rest : ∀ presented session, request.bearer = some presented → Route container request
      (heard ++ [.called (.account (.resolveSession presented)) (.ok (.session session))])
      (f session)) :
    Route container request heard (getCurrentSession env request.bearer >>= f) := by
  cases sent : request.bearer with
  | none => exact Route.raises _
  | some presented =>
      exact Route.asks (.account (.resolveSession presented)) rfl
        (fun _ _ same => by cases same; rfl) (.resolve sent) fun session => rest presented session sent

theorem getCurrentAccount_route {session : Session} {f : Account → Service env Reply}
    (rest : ∀ account, Route container request
      (heard ++ [.read (.accounts (.get session.accountId)) (.ok (some account))]) (f account)) :
    Route container request heard (getCurrentAccount env session >>= f) := by
  rw [getCurrentAccount, bind_assoc]
  refine Route.account fun found => ?_
  cases found with
  | none => exact Route.raises _
  | some account => exact rest account

theorem getActor_route (request : Request) {f : Actor → Service env Reply}
    (rest : ∀ presented actor more, request.bearer = some presented →
      ActsAs container (heard ++ more) presented actor →
      Route container request (heard ++ more) (f actor)) :
    Route container request heard (getActor env container.adminToken request.bearer >>= f) := by
  cases sent : request.bearer with
  | none => exact Route.raises _
  | some presented =>
      rw [getActor, bind_assoc]
      refine Route.ofExcept fun glass compared => ?_
      cases glass with
      | true =>
          have acts := rest presented _ [] sent (.breakGlass (isBreakGlass_configured compared))
          rwa [List.append_nil] at acts
      | false =>
          rw [if_neg (by simp), bind_assoc]
          refine Route.asks (.account (.resolveSession presented)) rfl
            (fun _ _ same => by cases same; rfl) (.resolve sent) fun session => ?_
          rw [bind_assoc]
          refine Route.account fun found => ?_
          cases found with
          | none => exact Route.raises _
          | some account =>
              dsimp only
              rw [actorFor, bind_assoc]
              refine Route.permissions fun permissions => ?_
              simp only [List.append_assoc]
              refine rest presented _ _ sent (.account ⟨session, ?_, ?_⟩ ?_) <;>
                simp [ResolvedTo]

/-! ## Every route -/

theorem SessionCall.prog_route (c : SessionCall) {presented : String} {session : Session}
    (resolved : ResolvedTo heard presented session) :
    Route container (.session (some presented) c) heard (c.prog env session) := by
  have shown : Authenticated container heard (.session (some presented) c) :=
    ⟨presented, session, rfl, resolved⟩
  cases c with
  | logout =>
      exact Route.asks_reply (.account (.logout session.sessionId)) rfl
        (fun _ _ same => by cases same; rfl) (.session resolved) shown _
  | changePassword currentPassword newPassword =>
      exact Route.asks_reply (.account (.changePassword session.accountId currentPassword newPassword
        (some session.sessionId))) rfl (fun _ _ _ => rfl) (.session resolved) shown _

theorem OwnCall.prog_route (c : OwnCall) {presented : String} {account : Account}
    (owns : Owns heard presented account) :
    Route container (.own (some presented) c) heard (c.prog env account) := by
  have shown : ∀ more, Authenticated container (heard ++ more) (.own (some presented) c) :=
    fun more => ⟨presented, account, rfl, owns.mono more⟩
  have shown₀ : Authenticated container heard (.own (some presented) c) :=
    ⟨presented, account, rfl, owns⟩
  have entitled : ∀ {call}, c.Calls env account call →
      Entitled container heard (.own (some presented) c) call := fun calls => .own owns calls
  cases c with
  | logoutEverywhere =>
      exact Route.asks_reply _ rfl (fun _ _ same => by cases same; rfl) (entitled .logoutEverywhere)
        shown₀ _
  | getCurrentAccount => exact Route.replies _ shown₀
  | issueServiceToken audience =>
      rw [OwnCall.prog, TokenSigner.issue, bind_assoc]
      refine Route.clock fun now => ?_
      rw [bind_assoc]
      exact Route.ofExcept fun _ _ => Route.replies _ (shown _)
  | listProfiles =>
      exact Route.asks_reply _ rfl (fun _ _ same => by cases same; rfl) (entitled .listProfiles) shown₀ _
  | createProfile name =>
      exact Route.asks_reply _ rfl (fun _ _ same => by cases same; rfl) (entitled (.createProfile name))
        shown₀ _
  | getProfile name =>
      refine Route.asks _ rfl (fun _ _ same => by cases same; rfl) (entitled (.getProfile name))
        fun profile => ?_
      exact Route.asks_reply _ rfl (fun _ _ same => by cases same; rfl)
        (.own (owns.mono _) (.getProfileGrants name _)) (shown _) _
  | deleteProfile name password =>
      refine Route.asks _ rfl (fun _ _ same => by cases same; rfl)
        (entitled (.deleteProfile name password)) fun removed => ?_
      exact Route.refuses fun _ => Route.replies _ (shown _)
  | putApiKey name service apiKey header template inQuery queryName password =>
      exact Route.asks_reply _ rfl (fun _ _ same => by cases same; rfl)
        (entitled (.putApiKey name service apiKey header template inQuery queryName password)) shown₀ _
  | putPassword name service username secret totpSeed password =>
      exact Route.asks_reply _ rfl (fun _ _ same => by cases same; rfl)
        (entitled (.putPassword name service username secret totpSeed password)) shown₀ _
  | authorizeConnection name service password =>
      exact Route.asks_reply _ rfl (fun _ _ same => by cases same; rfl)
        (entitled (.authorizeConnection name service password)) shown₀ _
  | deleteConnection name service password =>
      refine Route.asks _ rfl (fun _ _ same => by cases same; rfl)
        (entitled (.deleteConnection name service password)) fun removed => ?_
      exact Route.refuses fun _ => Route.replies _ (shown _)
  | createOfflineGrant name service audiences ttlSeconds =>
      exact Route.asks_reply _ rfl (fun _ _ same => by cases same; rfl)
        (entitled (.createOfflineGrant name service audiences ttlSeconds)) shown₀ _
  | listOfflineGrants name =>
      exact Route.asks_reply _ rfl (fun _ _ same => by cases same; rfl)
        (entitled (.listOfflineGrants name)) shown₀ _
  | revokeOfflineGrant name grantId =>
      exact Route.asks_reply _ rfl (fun _ _ _ => rfl) (entitled (.revokeOfflineGrant name grantId))
        shown₀ _

theorem adminReply_route (answer : Answer)
    (shown : ∀ more, Authenticated container (heard ++ more) request) :
    Route container request heard (adminReply env container answer) := by
  have shown₀ : Authenticated container heard request := by simpa using shown []
  cases answer with
  | accounts accounts => exact Route.clock fun now => Route.replies _ (shown _)
  | account account => exact Route.clock fun now => Route.replies _ (shown _)
  | issued grant => cases grant <;> exact Route.replies _ shown₀
  | _ => exact Route.replies _ shown₀

theorem checkReadiness_route : Route container .checkReadiness heard (checkReadiness env) := by
  refine Route.clock fun now => .read rfl fun answer => ?_
  cases answer with
  | error e => exact Route.raises e
  | ok profiles =>
      refine .read rfl fun answer => ?_
      cases answer with
      | error e => exact Route.raises e
      | ok accounts => exact Route.replies _ trivial

theorem callingService_route {credentials : Option String} {f : String → Service env Reply}
    (rest : ∀ presented service, credentials = some presented → CallsAs container presented service →
      Route container request heard (f service)) :
    Route container request heard (Prog.ofExcept (callingService container credentials) >>= f) := by
  refine Route.ofExcept fun service identified => ?_
  cases credentials with
  | none => cases identified
  | some presented => exact rest presented service rfl identified

/-- Every request is a front of the services. -/
theorem Request.prog_route (request : Request) :
    Route container request [] (request.prog env container) := by
  cases request with
  | login email password caller =>
      exact Route.asks_reply _ rfl (fun _ _ same => by cases same; rfl) (.login email password caller)
        trivial _
  | redeemInvite token password caller =>
      exact Route.asks_reply _ rfl (fun _ _ same => by cases same; rfl)
        (.redeemInvite token password caller) trivial _
  | requestPasswordReset email caller =>
      exact Route.asks_reply _ rfl (fun _ _ same => by cases same; rfl)
        (.requestPasswordReset email caller) trivial _
  | redeemPasswordReset token password caller =>
      exact Route.asks_reply _ rfl (fun _ _ same => by cases same; rfl)
        (.redeemPasswordReset token password caller) trivial _
  | completeAuthorization state code =>
      exact Route.asks_reply _ rfl (fun _ _ same => by cases same; rfl)
        (.completeAuthorization state code) trivial _
  | checkReadiness => exact checkReadiness_route
  | session credentials c =>
      refine getCurrentSession_route (.session credentials c) fun presented session sent => ?_
      cases sent
      exact c.prog_route (by simp [ResolvedTo])
  | own credentials c =>
      refine getCurrentSession_route (.own credentials c) fun presented session sent => ?_
      cases sent
      refine getCurrentAccount_route fun account => c.prog_route ⟨session, ?_, ?_⟩ <;>
        simp [ResolvedTo]
  | exchangeUserToken credentials userToken audience ttlSeconds grantId =>
      refine callingService_route fun presented service sent identified => ?_
      cases sent
      exact Route.asks_reply _ rfl (fun _ _ same => by cases same; rfl) (.exchange identified)
        ⟨presented, service, rfl, identified⟩ _
  | internal credentials userToken c =>
      refine callingService_route fun presented service sent identified => ?_
      cases sent
      exact Script.bind (.internal identified) (fun _ => nofun) fun answer =>
        Route.replies _ ⟨presented, service, rfl, identified⟩
  | admin credentials c =>
      refine getActor_route (.admin credentials c) fun presented actor more sent acts => ?_
      cases sent
      refine Script.bind (.admin acts) (fun _ => nofun) fun answer =>
        adminReply_route answer fun further => ?_
      exact ⟨presented, actor, rfl, (acts.mono _).mono _⟩
  | listPermissions credentials =>
      refine getActor_route (.listPermissions credentials) fun presented actor more sent acts => ?_
      cases sent
      refine Route.ofExcept fun _ allowed => Route.replies _ ?_
      exact ⟨presented, actor, rfl, acts, Actor.require_ok.mp allowed⟩

end Routes

/-! ## The run of the calls -/

section Serving

variable {env : Env} {w w' u : World} {x : Input}

/-- Nothing that a step does or answers depends on what the clock last showed. -/
theorem Retimed.answers (retimed : Retimed w u) {o : Op} {a : o.Ans}
    (done : exec env o x w = some (a, w')) :
    ∃ u', exec env o x u = some (a, u') ∧ Retimed w' u' := by
  rw [Retimed] at retimed
  generalize u.clock = shown at retimed
  subst retimed
  cases o with
  | acquire key =>
      rw [exec] at done ⊢
      by_cases held : key ∈ w.renewing
      · rw [if_pos held] at done
        cases done
      · rw [if_neg held] at done
        cases done
        exact ⟨_, if_neg held, rfl⟩
  | _ =>
      cases done
      exact ⟨_, rfl, rfl⟩

/-- A step of a route itself changes nothing but the last reading of the clock. -/
theorem Retimed.unseen (retimed : Retimed w u) {o : Op} {a : o.Ans} (idle : o.consults = true)
    (done : exec env o x w = some (a, w')) : Retimed w' u := by
  have kept : w'.db = w.db → w' = { w with db := w'.db } → Retimed w' u := by
    intro same frame
    rw [same] at frame
    rwa [frame]
  cases o with
  | now =>
      cases done
      rw [Retimed] at retimed ⊢
      exact retimed
  | accounts o =>
      have frame := (onDb_eq.mp done).2
      cases o with
      | get accountId =>
          refine kept (onDb_preserves (P := (· = w.db)) done rfl fun v db' committed => ?_) frame
          exact (AccountOp.get_ok committed).2
      | count =>
          refine kept (onDb_preserves (P := (· = w.db)) done rfl fun v db' committed => ?_) frame
          exact (AccountOp.count_ok committed).2
      | _ => cases idle
  | roles o =>
      have frame := (onDb_eq.mp done).2
      cases o with
      | resolve names =>
          refine kept (onDb_preserves (P := (· = w.db)) done rfl fun v db' committed => ?_) frame
          exact (RoleOp.resolve_ok committed).2
      | _ => cases idle
  | profiles o =>
      have frame := (onDb_eq.mp done).2
      cases o with
      | allProfiles =>
          refine kept (onDb_preserves (P := (· = w.db)) done rfl fun v db' committed => ?_) frame
          cases committed
          rfl
      | _ => cases idle
  | _ => cases idle

/-- Request `i` may make the call. -/
def Makes (container : Container) (requests : List Request) (i : Nat)
    (heard : List (Heard (machine env) Call Error Answer)) (call : Call) : Prop :=
  ∃ request, requests[i]? = some request ∧ Entitled container heard request call

theorem serve_fronts {container : Container} {requests : List Request} (i : Nat) (p : Service env Reply)
    (found : (serve env container w requests).pool[i]? = some p) :
    Script (Call.prog env) Op.consults (Makes container requests i)
      (fun heard r => ∀ reply, r = .ok reply → ∀ request, requests[i]? = some request →
        Authenticated container heard request) [] p := by
  rw [serve, List.getElem?_map, Option.map_eq_some_iff] at found
  obtain ⟨request, here, asked⟩ := found
  rw [← asked]
  refine request.prog_route.mono (fun heard call entitled => ⟨request, here, entitled⟩)
    fun heard r fits reply same other found => ?_
  rw [here] at found
  cases found
  exact fits reply same

section Requests

variable {container : Container} {requests : List Request} {d : Config (machine env) Error Reply}
  {tr : List (Event (machine env))} (run : Run (serve env container w requests) tr d)
include run

theorem serve_scripted :
    ∃ calls tr' d' own, Run (start env w calls) tr' d' ∧ Retimed d.state d'.state ∧
      Alike Op.consults own tr' tr ∧
      (∀ k call, calls[k]? = some call →
        Backed (Call.prog env) Op.consults w (Makes container requests (own k)) own calls tr tr'
          k call) ∧
      ∀ (i : Nat) r, d.pool[i]? = some (.done r) → ∃ heard, (∀ reply, r = .ok reply →
        ∀ request, requests[i]? = some request → Authenticated container heard request) ∧
          ∀ said ∈ heard, Happened own calls tr d' i said :=
  run.scripted (M := machine env) (R := Retimed) (s := w)
    (fun _ _ _ _ _ _ retimed done => retimed.answers done)
    (fun _ _ _ _ _ _ idle retimed done => retimed.unseen idle done) rfl serve_fronts

/-- Every run of HTTP requests is a run of calls to the services, in the same states and
with the same steps but for what the routes look up.  Each call is one that its request
was entitled to by what it had itself been answered before the call began, and who is
answered has been answered so that it has shown who it is. -/
theorem surface_serves :
    ∃ calls tr' d' own, Run (start env w calls) tr' d' ∧ Retimed d.state d'.state ∧
      Alike Op.consults own tr' tr ∧
      (∀ k call, calls[k]? = some call →
        Backed (Call.prog env) Op.consults w (Makes container requests (own k)) own calls tr tr'
          k call) ∧
      ∀ (i : Nat) request reply, requests[i]? = some request →
        d.pool[i]? = some (.done (.ok reply)) →
        ∃ heard, Authenticated container heard request ∧
          ∀ said ∈ heard, Happened own calls tr d' i said := by
  obtain ⟨calls, tr', d', own, ran, retimed, same, backed, answered⟩ := serve_scripted run
  refine ⟨calls, tr', d', own, ran, retimed, same, backed, fun i request reply here ended => ?_⟩
  obtain ⟨heard, fits, happened⟩ := answered i _ ended
  exact ⟨heard, fits reply rfl request here, happened⟩

end Requests

end Serving

open Scenario in
theorem surface_serves_home :
    ∃ calls tr' d' own, Run (start deployment office calls) tr' d' ∧
      Retimed homeRun.1.state d'.state ∧ Alike Op.consults own tr' homeRun.2 ∧
      (∀ k call, calls[k]? = some call →
        Backed (Call.prog deployment) Op.consults office (Makes frontDesk homeRequests (own k)) own
          calls homeRun.2 tr' k call) ∧
      ∀ (i : Nat) request reply, homeRequests[i]? = some request →
        homeRun.1.pool[i]? = some (.done (.ok reply)) →
        ∃ heard, Authenticated frontDesk heard request ∧
          ∀ said ∈ heard, Happened own calls homeRun.2 d' i said :=
  surface_serves (Config.play_run _ _)

end Keyring

import Keyring.Interleave.Exclusion
import Keyring.Credentials.Callbacks

/-!
# The steps of a renewal

What a caller that renews a credential has seen before each of its steps: the
secret it loaded, the lock it waited for, and what the vault had then.  What is
sealed into the vault was granted to the caller that seals it.
-/

set_option autoImplicit false

namespace Keyring

open Interleave Relational

variable {env : Env}

/-! ## The vault at one triple -/

def envelopeAt (triple : Triple) (w : World) : Option Envelope :=
  (w.db.secrets.find? triple).map (·.envelope)

/-- The step seals this envelope into the vault. -/
def PutsEnvelope (triple : Triple) (envelope : Envelope) : Op → Prop
  | .secrets (.put accountId profile service sealed _) =>
      (accountId, profile, service) = triple ∧ sealed = envelope
  | _ => False

theorem envelopeAt_deleteAccount {triple : Triple} {w w' : World} {envelope : Envelope}
    {target : String} (gone : w'.db = w.db.deleteAccount target)
    (here : envelopeAt triple w' = some envelope) : envelopeAt triple w = some envelope := by
  rw [envelopeAt, gone] at here
  simp only [Db.deleteAccount, Db.deleteProfiles, Table.find?_deleteWhere,
    Option.map_eq_some_iff, Option.filter_eq_some_iff] at here
  obtain ⟨row, ⟨found, -⟩, rfl⟩ := here
  rw [envelopeAt, found]
  rfl

/-- What is in the vault after a step was there before it, or the step sealed it. -/
theorem exec_envelopeAt {o : Op} {x : Input} {w w' : World} {a : o.Ans} {triple : Triple}
    {envelope : Envelope} (done : exec env o x w = some (a, w'))
    (here : envelopeAt triple w' = some envelope) :
    envelopeAt triple w = some envelope ∨ PutsEnvelope triple envelope o := by
  have unchanged : w'.db.secrets = w.db.secrets →
      envelopeAt triple w = some envelope ∨ PutsEnvelope triple envelope o := by
    intro same
    rw [envelopeAt, same] at here
    exact Or.inl here
  cases o with
  | secrets o =>
      rcases onDb_cases done with ⟨v, -, committed⟩ | ⟨-, same⟩
      · cases o with
        | get accountId profile service =>
            rw [(SecretOp.get_ok committed).2] at unchanged
            exact unchanged rfl
        | put accountId profile service sealed now =>
            obtain ⟨-, -, ⟨row, found, same⟩, others⟩ := SecretOp.put_ok committed
            by_cases mine : triple = (accountId, profile, service)
            · subst mine
              right
              rw [envelopeAt, found] at here
              cases here
              exact ⟨rfl, same.symm⟩
            · left
              rwa [envelopeAt, others triple mine] at here
        | delete accountId profile service =>
            left
            rw [envelopeAt, (SecretOp.delete_ok committed).2] at here
            split at here
            · cases here
            · exact here
        | deleteProfile accountId profile =>
            left
            rw [envelopeAt, (SecretOp.deleteProfile_ok committed).2] at here
            split at here
            · cases here
            · exact here
      · exact unchanged (congrArg Db.secrets same)
  | accounts o =>
      have touched := exec_touches done
      cases o with
      | delete target =>
          rcases touched with same | gone
          · exact unchanged (congrArg Db.secrets same)
          · exact Or.inl (envelopeAt_deleteAccount gone here)
      | _ =>
          have same := congrArg Db.secrets touched
          exact unchanged same
  | _ =>
      have same := congrArg Db.secrets (exec_touches done)
      exact unchanged same

/-! ## Tokens -/

/-- The access token and the refresh token of a secret, where they are strings. -/
def Secret.tokens (secret : Secret) : Option String × Option String :=
  ((secret.get "access_token").bind Json.asStr, (secret.get "refresh_token").bind Json.asStr)

/-- The tokens that a provider has answered with. -/
def granted (e : Event (machine env)) : Option (String × Option String) :=
  match e with
  | ⟨_, .post _ _, .answered status (some (.obj fields)), _, _⟩ =>
      if status < 400 then
        match Secret.tokens fields with
        | (some access, refresh) => some (access, refresh)
        | _ => none
      else none
  | _ => none

/-- The refresh token that a step sends to the token endpoint. -/
def Op.sends : Op → Option String
  | .post _ (("grant_type", "refresh_token") :: ("refresh_token", refreshToken) :: _) =>
      some refreshToken
  | _ => none

theorem Json.asStr_eq {x y : Json} (same : x.same y = true) : x.asStr = y.asStr := by
  cases x <;> cases y <;> first | rfl | (simp [Json.same] at same; done) | skip
  simp only [Json.same, beq_iff_eq] at same
  rw [same]

theorem asStr_eq_of_beq {a b : Option Json} (same : (a == b) = true) :
    a.bind Json.asStr = b.bind Json.asStr := by
  cases a with
  | none =>
      cases b with
      | none => rfl
      | some y => cases same
  | some x =>
      cases b with
      | none => cases same
      | some y => exact Json.asStr_eq same

theorem refreshToken_kept (fields : Secret) (access : String) (lifetime : Json) :
    (Secret.get fields "refresh_token").bind Json.asStr =
      (Secret.get ([("access_token", .str access),
        ("token_type", (Secret.get fields "token_type").getD (.str "Bearer")),
        ("expires_in", lifetime)] ++
        (match Secret.get fields "refresh_token" with
          | some (.str value) => [("refresh_token", Json.str value)]
          | _ => []) ++
        (match Secret.get fields "scope" with
          | some (.str value) => [("scope", Json.str value)]
          | _ => [])) "refresh_token").bind Json.asStr := by
  have scope : ∀ found : Option Json, List.find? (fun field => field.1 = "refresh_token")
      (match found with
        | some (.str value) => [("scope", Json.str value)]
        | _ => []) = none := by
    intro found
    split <;> rfl
  cases Secret.get fields "refresh_token" with
  | none => simp [Secret.get, scope]
  | some value => cases value <;> simp [Secret.get, scope, Json.asStr]

theorem normalizeToken_tokens {text : Text} {nesting : Nat} {service : String}
    {body : Option Json} {secret : Secret}
    (normalized : normalizeToken text nesting service body = .ok secret) :
    ∃ fields access, body = some (.obj fields) ∧
      Secret.tokens fields = (some access, secret.tokens.2) ∧ secret.tokens.1 = some access := by
  unfold normalizeToken at normalized
  split at normalized
  · cases normalized
  · cases normalized
  · rename_i fields written
    obtain ⟨rfl, -⟩ := responseJson_ok.mp written
    split at normalized
    · rename_i access token
      cases lifetime : expiresIn text fields with
      | error e =>
          rw [lifetime] at normalized
          cases normalized
      | ok seconds =>
          rw [lifetime] at normalized
          cases normalized
          refine ⟨fields, access, rfl, ?_, ?_⟩
          · have access : (Secret.get fields "access_token").bind Json.asStr = some access := by
              rw [token]
              rfl
            refine Prod.ext access ?_
            exact refreshToken_kept fields _ seconds
          · simp [Secret.tokens, Secret.get, Json.asStr]
    · cases normalized
  · cases normalized

/-! ## What a caller that renews has seen -/

/-- A step of a lock. -/
def Op.locks : Op → Prop
  | .acquire _ | .release _ => True
  | _ => False

def Opens (env : Env) (envelope : Envelope) (secret : Secret) : Prop :=
  ∃ master, env.master = some master ∧ openEnvelope envelope master = .ok secret

theorem requireMaster_ok {configured : Option String} {master : String}
    (known : requireMaster configured = .ok master) : configured = some master := by
  cases configured with
  | none => cases known
  | some key =>
      cases known
      rfl

inductive ReadsSecret : Triple → Secret → Event (machine env) → Prop where
  | read {i : Nat} {accountId profile service : String} {envelope : Envelope} {secret : Secret}
      {s s' : World} (opens : Opens env envelope secret) :
      ReadsSecret (accountId, profile, service) secret
        ⟨i, .secrets (.get accountId profile service), .ok (some envelope), s, s'⟩

inductive ReadsNothing : Triple → Event (machine env) → Prop where
  | read {i : Nat} {accountId profile service : String} {s s' : World} :
      ReadsNothing (accountId, profile, service)
        ⟨i, .secrets (.get accountId profile service), .ok none, s, s'⟩

/-- A caller that read the secret has taken the lock of its triple. -/
inductive Waited (triple : Triple) (secret : Secret) : List (Event (machine env)) → Prop where
  | acquired {early : List (Event (machine env))} {i : Nat} {s s' : World}
      (calm : ∀ e ∈ early, e.op.calm) (loaded : ∃ l ∈ early, ReadsSecret triple secret l) :
      Waited triple secret (early ++ [⟨i, .acquire triple, (), s, s'⟩])

/-- What the vault had under the lock is no reason not to renew. -/
def Stale (triple : Triple) (secret : Secret) (e : Event (machine env)) : Prop :=
  ReadsNothing triple e ∨ ∃ stored, ReadsSecret triple stored e ∧ stored.tokens.1 = secret.tokens.1

/-- The envelope holds a secret whose tokens were granted among these steps, none of
which has sealed anything. -/
def SealsGranted (env : Env) (envelope : Envelope) (es : List (Event (machine env))) : Prop :=
  (∀ e ∈ es, e.op.sparesSecrets) ∧
    ∃ e ∈ es, ∃ access refresh secret, granted e = some (access, refresh) ∧
      Opens env envelope secret ∧ secret.tokens.1 = some access ∧
      (secret.tokens.2 = refresh ∨ (refresh = none ∧ e.op.sends ≠ none))

section Histories

variable {es : List (Event (machine env))} {o : Op}

theorem getSecret_returned {accountId profile service : String} {found : Option Secret}
    (path : Path (getSecret env accountId profile service) es (.done (.ok found))) :
    ∃ e, es = [e] ∧ match found with
      | none => ReadsNothing (accountId, profile, service) e
      | some secret => ReadsSecret (accountId, profile, service) secret e := by
  obtain ⟨master, known, path₁⟩ := ofExcept_bind_returned path
  obtain ⟨i, a, envelope, s, s', rest, rfl, same, path₂⟩ := store_bind_returned path₁
  change a = .ok envelope at same
  subst same
  cases envelope with
  | none =>
      obtain ⟨rfl, rfl⟩ := pure_returned path₂
      exact ⟨_, rfl, .read⟩
  | some envelope =>
      obtain ⟨secret, opened, path₃⟩ := ofExcept_bind_returned path₂
      obtain ⟨rfl, rfl⟩ := pure_returned path₃
      exact ⟨_, rfl, .read ⟨master, requireMaster_ok known, opened⟩⟩

theorem Op.calm.sends_none {o : Op} (calm : o.calm) : o.sends = none := by
  cases o with
  | post service form => exact absurd calm id
  | _ => rfl

namespace TokenEndpoint

variable {provider : OAuthProvider} {form : List (String × String)}

/-- The token endpoint is asked once. -/
theorem post_calling {next : o.Ans → Service env Secret}
    (path : Path (post env provider form) es (.call o next)) :
    es = [] ∧ o = .post provider.service (form ++
      [("client_id", provider.clientId), ("client_secret", provider.clientSecret)]) := by
  rcases ask_bind_inv path with ⟨rfl, here⟩ | ⟨i, response, s, s', rest, rfl, tail⟩
  · cases here
    exact ⟨rfl, rfl⟩
  · cases response with
    | unreachable => exact (done_calling tail).elim
    | answered status body =>
        dsimp only at tail
        split at tail
        · obtain ⟨_, -, refusing⟩ := ofExcept_bind_calling tail
          exact (done_calling refusing).elim
        · exact (done_calling tail).elim

theorem post_returned {secret : Secret}
    (path : Path (post env provider form) es (.done (.ok secret))) :
    ∃ e access, es = [e] ∧ granted e = some (access, secret.tokens.2) ∧
      secret.tokens.1 = some access ∧ e.op = .post provider.service (form ++
        [("client_id", provider.clientId), ("client_secret", provider.clientSecret)]) := by
  obtain ⟨i, response, s, s', rest, rfl, tail⟩ := ask_bind_returned path
  cases response with
  | unreachable => exact (throw_returned tail).elim
  | answered status body =>
      dsimp only at tail
      split at tail
      · obtain ⟨_, -, refusing⟩ := ofExcept_bind_returned tail
        exact (throw_returned refusing).elim
      · rename_i accepted
        obtain ⟨rfl, normalized⟩ := tail.done_inv
        obtain ⟨fields, access, rfl, tokens, held⟩ :=
          normalizeToken_tokens (Prog.done.inj normalized).symm
        refine ⟨_, access, rfl, ?_, held, rfl⟩
        rw [granted, if_pos (by omega), tokens]

theorem setDefault_tokens (secret : Secret) (refreshToken : String) :
    (secret.setDefault "refresh_token" (.str refreshToken)).tokens.1 = secret.tokens.1 ∧
      ((secret.setDefault "refresh_token" (.str refreshToken)).tokens.2 = secret.tokens.2 ∨
        secret.tokens.2 = none) := by
  unfold Secret.setDefault
  split
  · exact ⟨rfl, Or.inl rfl⟩
  · rename_i absent
    refine ⟨?_, Or.inr ?_⟩
    · simp [Secret.tokens, Secret.get]
    · simp only [Option.not_isSome_iff_eq_none] at absent
      simp [Secret.tokens, absent]

theorem refresh_returned {refreshToken : String} {renewed : Secret}
    (path : Path (refresh env provider refreshToken) es (.done (.ok renewed))) :
    ∃ e access rotated, es = [e] ∧ granted e = some (access, rotated) ∧
      renewed.tokens.1 = some access ∧ e.op.sends = some refreshToken ∧
      (renewed.tokens.2 = rotated ∨ rotated = none) := by
  obtain ⟨secret, es₁, es₂, rfl, posted, ended⟩ := path.bind_returned
  obtain ⟨rfl, rfl⟩ := pure_returned ended
  obtain ⟨e, access, rfl, tokens, held, posting⟩ := post_returned posted
  obtain ⟨first, second⟩ := setDefault_tokens secret refreshToken
  refine ⟨e, access, secret.tokens.2, by simp, tokens, first.trans held, ?_, second⟩
  rw [posting]
  rfl

end TokenEndpoint

namespace CredentialService

/-- A credential that was loaded was read from the vault under its own names. -/
theorem load_returned {accountId profileName serviceName : String} {profile : Profile}
    {connection : Connection} {secret : Secret}
    (real : ∀ e ∈ es, ∃ x, exec env e.op x e.before = some (e.ans, e.after))
    (path : Path (load env accountId profileName serviceName) es
      (.done (.ok (profile, connection, secret)))) :
    ∃ l ∈ es, ReadsSecret (profile.accountId, profile.name, connection.service) secret l := by
  unfold load getProfile at path
  rw [bind_assoc] at path
  obtain ⟨normalized, -, path₁⟩ := ofExcept_bind_returned path
  rw [bind_assoc] at path₁
  obtain ⟨i, a, found, s, s', rest, rfl, same, path₂⟩ := store_bind_returned path₁
  change a = .ok found at same
  subst same
  cases found with
  | none => exact (throw_returned path₂).elim
  | some profile' =>
      dsimp only at path₂
      rw [Prog.pure_eq, Prog.bind_ok] at path₂
      obtain ⟨service, -, path₃⟩ := ofExcept_bind_returned path₂
      cases connected : profile'.connection service with
      | none =>
          rw [connected] at path₃
          exact (throw_returned path₃).elim
      | some connection' =>
          rw [connected] at path₃
          obtain ⟨-, path₄⟩ := refuseIf_bind_returned path₃
          obtain ⟨found, es₁, es₂, rfl, first, path₅⟩ := path₄.bind_returned
          cases found with
          | none => exact (throw_returned path₅).elim
          | some secret' =>
              obtain ⟨rfl, same⟩ := pure_returned path₅
              cases same
              obtain ⟨l, rfl, read⟩ := getSecret_returned first
              obtain ⟨x, done⟩ := real _ (List.mem_cons_self ..)
              obtain ⟨owner, -, -⟩ := exec_readProfile done
              rw [owner, Profile.connection_service connected]
              exact ⟨l, by simp, read⟩

theorem renew_sends {profile : Profile} {connection : Connection} {secret : Secret}
    {refreshToken : String} {next : o.Ans → Service env Secret}
    (path : Path (renew env profile connection secret) es (.call o next))
    (sends : o.sends = some refreshToken) : es = [] ∧ secret.tokens.2 = some refreshToken := by
  have sending : ¬ o.sends = none := by simp [sends]
  have failing : ∀ reason (e : Error),
      ((recordFailure env profile connection reason >>= fun _ => throw e : Service env Secret)).Uses
        fun (o : Op) => o.sends = none := fun reason e =>
    Prog.Uses.bind (recordFailure_uses (fun _ calm => calm.sends_none) (fun _ _ _ => rfl) _)
      fun _ => trivial
  unfold renew at path
  split at path
  · exact (path.never (failing _ _) sending).elim
  · exact (path.never (failing _ _) sending).elim
  · rename_i token _ held
    obtain ⟨provider, -, path₁⟩ := ofExcept_bind_calling path
    have storing : ∀ renewed : Secret, (profileStore (.get profile.accountId profile.name) >>=
        fun stillThere => refuseIf (stillThere.bind (·.connection connection.service)).isNone
          (.connectionNotFound s!"the {connection.service} connection was removed while it was being renewed")
        >>= fun _ => storeOauthSecret env profile connection.service renewed provider >>= fun _ =>
          (pure renewed : Service env Secret)).Uses fun (o : Op) => o.sends = none := by
      intro renewed
      refine Prog.Uses.bind (profileStore_uses rfl) fun stillThere => ?_
      refine Prog.Uses.bind (refuseIf_uses _ _) fun _ => ?_
      exact Prog.Uses.bind (storeOauthSecret_uses (fun _ calm => calm.sends_none)
        (fun _ _ _ => rfl) (fun _ _ => rfl) renewed provider) fun _ => trivial
    obtain ⟨next', trying⟩ := path₁.bind_within storing sending
    rcases trying.tryCatch_calling with ⟨next'', refreshing⟩ | ⟨e, es₁, es₂, rfl, -, handling⟩
    · have answering : ∀ secret : Secret, (pure (secret.setDefault "refresh_token" (.str token)) :
          Service env Secret).Uses fun (o : Op) => o.sends = none := fun _ => trivial
      obtain ⟨next₃, posting⟩ := refreshing.bind_within answering sending
      obtain ⟨rfl, rfl⟩ := TokenEndpoint.post_calling posting
      cases sends
      exact ⟨rfl, held⟩
    · split at handling
      · exact (handling.never (failing _ _) sending).elim
      · exact (done_calling handling).elim

/-- Whoever is about to renew has found what it read before, or nothing. -/
theorem renewOnce_sends {profile : Profile} {connection : Connection} {secret : Secret}
    {refreshToken : String} {next : o.Ans → Service env Secret}
    (path : Path (renewOnce env profile connection secret) es (.call o next))
    (sends : o.sends = some refreshToken) :
    ∃ e, es = [e] ∧ Stale (profile.accountId, profile.name, connection.service) secret e ∧
      secret.tokens.2 = some refreshToken := by
  have sending : ¬ o.sends = none := by simp [sends]
  obtain ⟨found, es₁, es₂, rfl, first, rest⟩ :=
    path.bind_beyond (getSecret_uses (fun _ calm => calm.sends_none) _ _ _) sending
  obtain ⟨e, rfl, read⟩ := getSecret_returned first
  cases found with
  | none =>
      obtain ⟨rfl, held⟩ := renew_sends rest sends
      exact ⟨e, rfl, Or.inl read, held⟩
  | some stored =>
      dsimp only at rest
      split at rest
      · exact (done_calling rest).elim
      · rename_i same
        obtain ⟨rfl, held⟩ := renew_sends rest sends
        refine ⟨e, rfl, Or.inr ⟨stored, read, ?_⟩, held⟩
        apply asStr_eq_of_beq
        simpa [bne] using same

theorem putSecret_seals {accountId profile service : String} {secret : Secret}
    {next : o.Ans → Service env Unit} (stores : ¬ o.sparesSecrets)
    (path : Path (putSecret env accountId profile service secret) es (.call o next)) :
    (∀ e ∈ es, e.op.sparesSecrets) ∧
      ∃ envelope, PutsEnvelope (accountId, profile, service) envelope o ∧ Opens env envelope secret := by
  obtain ⟨master, known, path₁⟩ := ofExcept_bind_calling path
  obtain ⟨i, entropy, s, s', rest, rfl, path₂⟩ :=
    ask_bind_calling path₁ (by rintro rfl; exact stores trivial)
  obtain ⟨j, now, t, t', rest, rfl, path₃⟩ :=
    ask_bind_calling path₂ (by rintro rfl; exact stores trivial)
  rw [secretStore_eq] at path₃
  rcases path₃.call_inv with ⟨rfl, here⟩ | ⟨k, a, u, u', rest, -, ended⟩
  · cases here
    exact ⟨by simp [Op.sparesSecrets], _, ⟨rfl, rfl⟩, master, requireMaster_ok known,
      openEnvelope_sealSecret _ _ _⟩
  · exact (done_calling ended).elim

theorem storeOauthSecret_seals {profile : Profile} {service : String} {secret : Secret}
    {provider : OAuthProvider} {next : o.Ans → Service env Connection} (stores : ¬ o.sparesSecrets)
    (path : Path (storeOauthSecret env profile service secret provider) es (.call o next)) :
    (∀ e ∈ es, e.op.sparesSecrets) ∧
      ∃ envelope, PutsEnvelope (profile.accountId, profile.name, service) envelope o ∧
        Opens env envelope secret := by
  obtain ⟨_, -, path₁⟩ := ofExcept_bind_calling path
  obtain ⟨i, now, s, s', rest, rfl, path₂⟩ :=
    ask_bind_calling path₁ (by rintro rfl; exact stores trivial)
  obtain ⟨expiresAt, -, path₃⟩ := ofExcept_bind_calling path₂
  have linking : ∀ connection, (putConnection env profile connection now).Uses Op.sparesSecrets :=
    fun connection => putConnection_uses (fun _ => trivial) now
  obtain ⟨stored, es₁, es₂, rfl, put, sealing⟩ := path₃.bind_beyond (linking _) stores
  have ending : ∀ u : Unit, (pure stored : Service env Connection).Uses Op.sparesSecrets :=
    fun _ => trivial
  obtain ⟨next', inside⟩ := sealing.bind_within ending stores
  obtain ⟨spared, sealed⟩ := putSecret_seals stores inside
  refine ⟨?_, sealed⟩
  simp only [List.forall_mem_cons, List.forall_mem_append]
  exact ⟨trivial, (put.uses (linking _)).1, spared⟩

theorem renew_seals {profile : Profile} {connection : Connection} {secret : Secret}
    {next : o.Ans → Service env Secret} (stores : ¬ o.sparesSecrets)
    (path : Path (renew env profile connection secret) es (.call o next)) :
    ∃ envelope, PutsEnvelope (profile.accountId, profile.name, connection.service) envelope o ∧
      SealsGranted env envelope es := by
  have failing : ∀ reason (e : Error),
      ((recordFailure env profile connection reason >>= fun _ => throw e : Service env Secret)).Uses
        Op.sparesSecrets := fun reason e =>
    Prog.Uses.bind (recordFailure_uses (fun _ calm => calm.quiet.idle.sparesSecrets)
      (fun _ _ _ => trivial) _) fun _ => trivial
  unfold renew at path
  split at path
  · exact (path.never (failing _ _) stores).elim
  · exact (path.never (failing _ _) stores).elim
  · rename_i token _ held
    obtain ⟨provider, -, path₁⟩ := ofExcept_bind_calling path
    have trying : (tryCatchThe Error (TokenEndpoint.refresh env provider token) fun e =>
        if e.isCredentialUnavailable then do
          recordFailure env profile connection e.message
          throw e
        else throw e).Uses Op.sparesSecrets := by
      refine Prog.Uses.tryCatch (TokenEndpoint.refresh_uses (fun _ _ => trivial) _ _) fun e => ?_
      split
      · exact failing _ _
      · trivial
    obtain ⟨renewed, es₁, es₂, rfl, tried, path₂⟩ := path₁.bind_beyond trying stores
    have spared := (tried.uses trying).1
    rcases tried.tryCatch_returned with refreshed | ⟨e, es₃, es₄, -, -, handling⟩
    · obtain ⟨e, access, rotated, rfl, tokens, first, sends, second⟩ :=
        TokenEndpoint.refresh_returned refreshed
      obtain ⟨i, found, s, s', rest, rfl, path₃⟩ :=
        profileStore_bind_calling path₂ (by rintro rfl; exact stores trivial)
      obtain ⟨-, path₄⟩ := refuseIf_bind_calling path₃
      have ending : ∀ c : Connection, (pure renewed : Service env Secret).Uses Op.sparesSecrets :=
        fun _ => trivial
      obtain ⟨next', storing⟩ := path₄.bind_within ending stores
      obtain ⟨quietly, envelope, puts, opens⟩ := storeOauthSecret_seals stores storing
      refine ⟨envelope, puts, ?_, e, by simp, access, rotated, renewed, tokens, opens, first, ?_⟩
      · simp only [List.forall_mem_append, List.forall_mem_cons]
        exact ⟨⟨spared e (List.mem_singleton.mpr rfl), by simp⟩, trivial, quietly⟩
      · exact second.imp_right fun none => ⟨none, by simp [sends]⟩
    · split at handling
      · obtain ⟨_, _, _, _, -, thrown⟩ := handling.bind_returned
        exact (throw_returned thrown).elim
      · exact (throw_returned handling).elim

theorem renewOnce_seals {profile : Profile} {connection : Connection} {secret : Secret}
    {next : o.Ans → Service env Secret} (stores : ¬ o.sparesSecrets)
    (path : Path (renewOnce env profile connection secret) es (.call o next)) :
    ∃ envelope, PutsEnvelope (profile.accountId, profile.name, connection.service) envelope o ∧
      SealsGranted env envelope es := by
  have reading : (getSecret env profile.accountId profile.name connection.service).Uses
      Op.sparesSecrets := getSecret_uses (fun _ calm => calm.quiet.idle.sparesSecrets) _ _ _
  obtain ⟨found, es₁, es₂, rfl, first, rest⟩ := path.bind_beyond reading stores
  have spared := (first.uses reading).1
  have renewing : ∃ next', Path (renew env profile connection secret) es₂ (.call o next') := by
    cases found with
    | none => exact ⟨_, rest⟩
    | some stored =>
        dsimp only at rest
        split at rest
        · exact (done_calling rest).elim
        · exact ⟨_, rest⟩
  obtain ⟨next', inside⟩ := renewing
  obtain ⟨envelope, puts, quietly, e, member, granted⟩ := renew_seals stores inside
  refine ⟨envelope, puts, ?_, e, List.mem_append_right _ member, granted⟩
  simp only [List.forall_mem_append]
  exact ⟨spared, quietly⟩

theorem renewOnce_unlocked (profile : Profile) (connection : Connection) (secret : Secret) :
    (renewOnce env profile connection secret).Uses fun (o : Op) => ¬ o.locks :=
  renewOnce_uses (fun o calm => by cases o <;> first | exact id | exact absurd calm id)
    (fun _ _ => id) (fun _ _ _ => id) (fun _ _ => id) secret

/-- Where a caller that resolves headers stands: it is still loading, or about to
take the lock, or at work under it, or about to give it back. -/
inductive Resolving (env : Env) : List (Event (machine env)) → Op → Prop where
  | loading {es : List (Event (machine env))} {o : Op} (read : ∀ e ∈ es, e.op.calm)
      (calm : o.calm) : Resolving env es o
  | waiting {es : List (Event (machine env))} {triple : Triple} (read : ∀ e ∈ es, e.op.calm) :
      Resolving env es (.acquire triple)
  | working {early es : List (Event (machine env))} {profile : Profile} {connection : Connection}
      {secret : Secret} {o : Op} {next : o.Ans → Service env Secret}
      (waited : Waited (profile.accountId, profile.name, connection.service) secret early)
      (path : Path (renewOnce env profile connection secret) es (.call o next)) :
      Resolving env (early ++ es) o
  | leaving {early es : List (Event (machine env))} {profile : Profile} {connection : Connection}
      {secret : Secret} {r : Except Error Secret}
      (waited : Waited (profile.accountId, profile.name, connection.service) secret early)
      (path : Path (renewOnce env profile connection secret) es (.done r)) :
      Resolving env (early ++ es) (.release (profile.accountId, profile.name, connection.service))

theorem refresh_calling {profile : Profile} {connection : Connection} {secret : Secret}
    {before : List (Event (machine env))} {next : o.Ans → Service env Secret}
    (calm : ∀ e ∈ before, e.op.calm)
    (loaded : ∃ l ∈ before, ReadsSecret (profile.accountId, profile.name, connection.service) secret l)
    (path : Path (refresh env profile connection secret) es (.call o next)) :
    Resolving env (before ++ es) o := by
  rcases ask_bind_inv path with ⟨rfl, here⟩ | ⟨i, a, s, s', rest, rfl, tail⟩
  · cases here
    rw [List.append_nil]
    exact .waiting calm
  · have waited : Waited (profile.accountId, profile.name, connection.service) secret
        (before ++ [⟨i, .acquire (profile.accountId, profile.name, connection.service), (), s, s'⟩]) :=
      .acquired calm loaded
    have split : before ++ ⟨i, .acquire (profile.accountId, profile.name, connection.service), a, s,
        s'⟩ :: rest = (before ++ [⟨i, .acquire (profile.accountId, profile.name, connection.service),
          (), s, s'⟩]) ++ rest := by simp
    rw [split]
    rcases tail.finallyDo_calling with ⟨next', inside⟩ | ⟨rfl, r, ended⟩
    · exact .working waited inside
    · exact .leaving waited ended

/-- What may have to be renewed was loaded from the vault. -/
theorem resolveHttpAuth_returned {accountId profileName serviceName : String} {profile : Profile}
    {connection : Connection} {secret : Secret} {needsRefresh : Bool}
    (real : ∀ e ∈ es, ∃ x, exec env e.op x e.before = some (e.ans, e.after))
    (path : Path (resolveHttpAuth env accountId profileName serviceName) es
      (.done (.ok (.oauth2 profile connection secret needsRefresh)))) :
    ∃ l ∈ es, ReadsSecret (profile.accountId, profile.name, connection.service) secret l := by
  obtain ⟨⟨profile', connection', secret'⟩, es₁, es₂, rfl, loaded, rest⟩ := path.bind_returned
  obtain ⟨l, member, read⟩ :=
    load_returned (fun e member => real e (List.mem_append_left _ member)) loaded
  dsimp only at rest
  split at rest
  · obtain ⟨-, same⟩ := pure_returned rest
    cases same
  · obtain ⟨i, now, s, s', rest', rfl, ended⟩ := ask_bind_returned rest
    obtain ⟨-, same⟩ := pure_returned ended
    cases same
    exact ⟨l, List.mem_append_left _ member, read⟩
  · exact (throw_returned rest).elim

theorem resolveHeaders_calling {accountId profileName serviceName : String}
    {next : o.Ans → Service env (List (String × String))}
    (real : ∀ e ∈ es, ∃ x, exec env e.op x e.before = some (e.ans, e.after))
    (path : Path (resolveHeaders env accountId profileName serviceName) es (.call o next)) :
    Resolving env es o := by
  have resolving : (resolveHttpAuth env accountId profileName serviceName).Uses Op.calm :=
    resolveHttpAuth_uses (fun _ calm => calm) _ _ _
  rcases path.bind_calling with ⟨next', inside⟩ | ⟨auth, es₁, es₂, rfl, first, rest⟩
  · exact .loading (inside.uses resolving).1 (inside.uses resolving).2.1
  · cases auth with
    | apiKey secret => exact (done_calling rest).elim
    | oauth2 profile connection secret needsRefresh =>
        have loaded := resolveHttpAuth_returned
          (fun e member => real e (List.mem_append_left _ member)) first
        rcases rest.bind_calling with ⟨next', refreshing⟩ | ⟨current, es₃, es₄, -, -, ended⟩
        · split at refreshing
          · exact refresh_calling (first.uses resolving).1 loaded refreshing
          · exact (done_calling refreshing).elim
        · exact (done_calling ended).elim

end CredentialService

/-! ## What every step of a caller has before it -/

/-- The lock that the renewals of one triple take turns on. -/
def renewalLock (env : Env) (triple : Triple) : Lock (machine env) where
  takes o := o = .acquire triple
  gives o := o = .release triple
  held w := triple ∈ w.renewing
  free := by
    rintro o x s a t done rfl held
    have done : exec env (.acquire triple) x s = some (a, t) := done
    rw [exec, if_pos held] at done
    cases done
  taken := by
    rintro o x s a t done rfl
    have done : exec env (.acquire triple) x s = some (a, t) := done
    rw [exec] at done
    split at done
    · cases done
    · cases done
      exact List.mem_cons_self ..
  kept := by
    intro o x s a t done other held
    have done : exec env o x s = some (a, t) := done
    cases o with
    | acquire key =>
        rw [exec] at done
        split at done
        · cases done
        · cases done
          exact List.mem_cons_of_mem _ held
    | release key =>
        cases done
        refine (List.mem_erase_of_ne ?_).mpr held
        rintro rfl
        exact other rfl
    | _ => cases done; exact held

theorem Op.calm.locks_not (o : Op) (calm : o.calm) : ¬ o.locks := by
  cases o <;> first | exact id | exact absurd calm id

theorem disciplined_of_unlocked {triple : Triple} (unlocked : ¬ o.locks) :
    (renewalLock env triple).Disciplined es o := by
  constructor
  · intro takes
    cases takes
    exact absurd trivial unlocked
  · intro gives
    cases gives
    exact absurd trivial unlocked

namespace Waited

variable {triple : Triple} {secret : Secret}

theorem releases_not (waited : Waited triple secret es) : ∀ e ∈ es, ∀ key, e.op ≠ .release key := by
  cases waited with
  | acquired calm loaded =>
      intro e member key same
      rcases List.mem_append.mp member with earlier | last
      · exact Op.calm.locks_not _ (calm e earlier) (by rw [same]; trivial)
      · rw [List.mem_singleton.mp last] at same
        cases same

theorem sends_none (waited : Waited triple secret es) : ∀ e ∈ es, e.op.sends = none := by
  cases waited with
  | acquired calm loaded =>
      intro e member
      rcases List.mem_append.mp member with earlier | last
      · exact (calm e earlier).sends_none
      · rw [List.mem_singleton.mp last]
        rfl

theorem acquires (waited : Waited triple secret es) :
    (∃ e ∈ es, e.op = .acquire triple) ∧
      ∀ e ∈ es, ∀ key, e.op = .acquire key → key = triple := by
  cases waited with
  | acquired calm loaded =>
      refine ⟨⟨_, List.mem_append_right _ (List.mem_singleton.mpr rfl), rfl⟩,
        fun e member key same => ?_⟩
      rcases List.mem_append.mp member with earlier | last
      · exact absurd (show e.op.locks by rw [same]; trivial) (Op.calm.locks_not _ (calm e earlier))
      · rw [List.mem_singleton.mp last] at same
        cases same
        rfl

theorem loads (waited : Waited triple secret es) : ∃ l ∈ es, ReadsSecret triple secret l := by
  cases waited with
  | acquired calm loaded =>
      obtain ⟨l, member, read⟩ := loaded
      exact ⟨l, List.mem_append_left _ member, read⟩

theorem sparesSecrets (waited : Waited triple secret es) : ∀ e ∈ es, e.op.sparesSecrets := by
  cases waited with
  | acquired calm loaded =>
      intro e member
      rcases List.mem_append.mp member with earlier | last
      · exact (calm e earlier).quiet.idle.sparesSecrets
      · rw [List.mem_singleton.mp last]
        trivial

end Waited

/-- A caller is about to send the refresh token of a secret it has loaded, under the
lock, after it found the secret still in the vault, or nothing. -/
inductive Sending (refreshToken : String) (triple : Triple) : List (Event (machine env)) → Prop where
  | found {early : List (Event (machine env))} {secret : Secret} {e : Event (machine env)}
      (waited : Waited triple secret early) (stale : Stale triple secret e)
      (held : secret.tokens.2 = some refreshToken) : Sending refreshToken triple (early ++ [e])

/-- What holds before each step of a caller. -/
structure Careful (env : Env) (es : List (Event (machine env))) (o : Op) : Prop where
  disciplined : ∀ triple, (renewalLock env triple).Disciplined es o
  sending : ∀ refreshToken, o.sends = some refreshToken → ∃ triple, Sending refreshToken triple es
  sealing : ¬ o.sparesSecrets →
    ∃ triple envelope, PutsEnvelope triple envelope o ∧ SealsGranted env envelope es

theorem Careful.of_calm (calm : o.calm) : Careful env es o where
  disciplined _ := disciplined_of_unlocked (Op.calm.locks_not o calm)
  sending refreshToken sends := by
    rw [calm.sends_none] at sends
    cases sends
  sealing stores := absurd calm.quiet.idle.sparesSecrets stores

theorem CredentialService.Resolving.careful (resolving : CredentialService.Resolving env es o) :
    Careful env es o := by
  cases resolving with
  | loading read calm => exact .of_calm calm
  | waiting read =>
      refine ⟨fun triple => ⟨fun _ e member gives => ?_, fun gives => ?_⟩, fun _ sends => ?_,
        fun stores => absurd trivial stores⟩
      · exact Op.calm.locks_not _ (read e member) (by rw [show e.op = .release triple from gives]; trivial)
      · cases gives
      · cases sends
  | @working early es profile connection secret o next waited path =>
      refine ⟨fun triple => ?_, fun refreshToken sends => ?_, fun stores => ?_⟩
      · exact disciplined_of_unlocked
          (path.uses (CredentialService.renewOnce_unlocked profile connection secret)).2.1
      · obtain ⟨e, rfl, stale, held⟩ := CredentialService.renewOnce_sends path sends
        exact ⟨_, .found waited stale held⟩
      · obtain ⟨envelope, puts, spared, e, member, granted⟩ :=
          CredentialService.renewOnce_seals stores path
        refine ⟨_, envelope, puts, ?_, e, List.mem_append_right _ member, granted⟩
        exact List.forall_mem_append.mpr ⟨waited.sparesSecrets, spared⟩
  | @leaving early es profile connection secret r waited path =>
      have unlocked := (path.uses (CredentialService.renewOnce_unlocked profile connection secret)).1
      refine ⟨fun triple => ⟨fun takes => ?_, fun gives => ?_⟩, fun _ sends => ?_,
        fun stores => absurd trivial stores⟩
      · cases takes
      · cases gives
        obtain ⟨⟨e, member, same⟩, -⟩ := waited.acquires
        refine ⟨⟨e, List.mem_append_left _ member, same⟩, fun e' member' gives => ?_⟩
        rcases List.mem_append.mp member' with earlier | later
        · exact waited.releases_not e' earlier _ gives
        · exact unlocked e' later (by rw [show e'.op = .release _ from gives]; trivial)
      · cases sends

theorem finishAuthorization_seals {binding : FlowBinding} {code : String}
    {next : o.Ans → Service env Connection} (stores : ¬ o.sparesSecrets)
    (path : Path (CredentialService.finishAuthorization env binding code) es (.call o next)) :
    ∃ triple envelope, PutsEnvelope triple envelope o ∧ SealsGranted env envelope es := by
  obtain ⟨i, found, s, s', rest, rfl, path₁⟩ :=
    profileStore_bind_calling path (by rintro rfl; exact stores trivial)
  cases found with
  | none => exact (done_calling path₁).elim
  | some profile =>
      obtain ⟨provider, -, path₂⟩ := ofExcept_bind_calling path₁
      have posting : (TokenEndpoint.exchangeCode env provider code binding.redirectUri).Uses
          Op.sparesSecrets := TokenEndpoint.post_uses (fun _ _ => trivial) _
      obtain ⟨secret, es₁, es₂, rfl, posted, storing⟩ := path₂.bind_beyond posting stores
      obtain ⟨e, access, rfl, tokens, held, -⟩ := TokenEndpoint.post_returned posted
      obtain ⟨spared, envelope, puts, opens⟩ :=
        CredentialService.storeOauthSecret_seals stores storing
      refine ⟨_, envelope, puts, ?_, e, by simp, access, secret.tokens.2, secret, tokens, opens,
        held, Or.inl rfl⟩
      simp only [List.forall_mem_append, List.forall_mem_cons]
      exact ⟨trivial, ⟨(posted.uses posting).1 e (List.mem_singleton.mpr rfl), by simp⟩, spared⟩

/-- A callback takes no lock and sends no refresh token. -/
theorem completeAuthorization_careful {state code : String}
    {next : o.Ans → Service env Connection}
    (path : Path (CredentialService.completeAuthorization env state code) es (.call o next)) :
    Careful env es o := by
  have unlocked : (CredentialService.completeAuthorization env state code).Uses
      fun (o : Op) => ¬ o.locks :=
    Prog.Uses.bind (CredentialService.redeemAuthorization_uses Op.calm.locks_not (fun _ => id) _)
      fun binding => CredentialService.finishAuthorization_uses Op.calm.locks_not
        (fun _ _ _ _ => id) (fun _ _ _ _ _ => id) (fun _ _ => id) binding code
  have silent : (CredentialService.completeAuthorization env state code).Uses
      fun (o : Op) => o.sends = none :=
    Prog.Uses.bind (CredentialService.redeemAuthorization_uses (fun _ calm => calm.sends_none)
      (fun _ => rfl) _) fun binding => CredentialService.finishAuthorization_uses
        (fun _ calm => calm.sends_none) (fun _ _ _ _ => rfl) (fun _ _ _ _ _ => rfl)
        (fun _ _ => rfl) binding code
  refine ⟨fun triple => disciplined_of_unlocked (path.uses unlocked).2.1, fun refreshToken sends => ?_,
    fun stores => ?_⟩
  · have none := (path.uses silent).2.1
    change o.sends = Option.none at none
    rw [none] at sends
    cases sends
  · have redeeming : (CredentialService.redeemAuthorization env state).Uses Op.sparesSecrets :=
      CredentialService.redeemAuthorization_uses (fun _ calm => calm.quiet.idle.sparesSecrets)
        (fun _ => trivial) state
    obtain ⟨binding, es₁, es₂, rfl, redeemed, finishing⟩ := path.bind_beyond redeeming stores
    obtain ⟨triple, envelope, puts, spared, e, member, granted⟩ :=
      finishAuthorization_seals stores finishing
    refine ⟨triple, envelope, puts, ?_, e, List.mem_append_right _ member, granted⟩
    exact List.forall_mem_append.mpr ⟨(redeemed.uses redeeming).1, spared⟩

/-- A revocation reads, and removes. -/
theorem revokeConnection_careful {accountId profileName serviceName : String}
    {next : o.Ans → Service env Bool}
    (path : Path (CredentialService.revokeConnection env accountId profileName serviceName) es
      (.call o next)) : Careful env es o := by
  have uses : (CredentialService.revokeConnection env accountId profileName serviceName).Uses
      fun (o : Op) => o.calm ∨ o.unstores := by
    apply CredentialService.revokeConnection_uses (fun _ => Or.inl)
    · intro owner profile service
      exact Or.inr (show Op.unstores (.secrets (.delete owner profile service)) from trivial)
    · intro owner name service now
      exact Or.inr (show Op.unstores (.profiles (.removeConnection owner name service now)) from trivial)
  rcases (path.uses uses).2.1 with calm | unstores
  · exact .of_calm calm
  · cases o with
    | profiles o =>
        exact ⟨fun triple => disciplined_of_unlocked id, fun _ sends => (by cases sends),
          fun stores => absurd trivial stores⟩
    | secrets o =>
        cases o with
        | delete owner profile service =>
            exact ⟨fun triple => disciplined_of_unlocked id, fun _ sends => (by cases sends),
              fun stores => absurd trivial stores⟩
        | _ => exact unstores.elim
    | _ => exact unstores.elim

/-- The requests that share the credentials of OAuth connections. -/
def CredentialCall.shares : CredentialCall → Prop
  | .resolveHeaders _ _ _ | .revokeConnection _ _ _ | .completeAuthorization _ _ => True
  | _ => False

def Call.shares : Call → Prop
  | .credential c => c.shares
  | _ => False

theorem Call.careful {c : Call} (shares : c.shares) {next : o.Ans → Service env Answer}
    (real : ∀ e ∈ es, ∃ x, exec env e.op x e.before = some (e.ans, e.after))
    (path : Path (c.prog env) es (.call o next)) : Careful env es o := by
  cases c with
  | credential c =>
      cases c with
      | resolveHeaders accountId profileName serviceName =>
          rcases path.bind_calling with ⟨next', inside⟩ | ⟨answer, es₁, es₂, -, -, ended⟩
          · exact (CredentialService.resolveHeaders_calling real inside).careful
          · exact (done_calling ended).elim
      | completeAuthorization state code =>
          rcases path.bind_calling with ⟨next', inside⟩ | ⟨answer, es₁, es₂, -, -, ended⟩
          · exact completeAuthorization_careful inside
          · exact (done_calling ended).elim
      | revokeConnection accountId profileName serviceName =>
          rcases path.bind_calling with ⟨next', inside⟩ | ⟨answer, es₁, es₂, -, -, ended⟩
          · exact revokeConnection_careful inside
          · exact (done_calling ended).elim
      | _ => exact shares.elim
  | _ => exact shares.elim

end Histories

end Keyring

import Keyring.Interleave.Alone
import Keyring.Credentials.Renewal
import Keyring.Credentials.TokenResponses

/-!
# A consent and the refreshes after it

A code exchange and any number of refreshes, each made alone: what a response
leaves in the vault and in the connection, and what is still there for the next
refresh.
-/

set_option autoImplicit false

namespace Keyring

open Interleave Relational

variable {env : Env}

/-! ## Calls that are made alone -/

section Alone

variable {α β : Type} {w w' : World} {es : List (Event (machine env))} {b : β}

theorem ofExcept_bind_alone {r : Except Error α} {f : α → Service env β}
    (alone : Alone (Prog.ofExcept r >>= f) w es (.ok b) w') :
    ∃ v, r = .ok v ∧ Alone (f v) w es (.ok b) w' := by
  obtain ⟨v, passed, path⟩ := ofExcept_bind_returned alone.path
  exact ⟨v, passed, path, alone.linked⟩

theorem refuseIf_bind_alone {c : Prop} [Decidable c] {e : Error} {f : Unit → Service env β}
    (alone : Alone (refuseIf c e >>= f) w es (.ok b) w') : Alone (f ()) w es (.ok b) w' :=
  ⟨(refuseIf_bind_returned alone.path).2, alone.linked⟩

theorem ask_bind_alone {o : Op} {f : o.Ans → Service env β}
    (alone : Alone (ask o >>= f) w es (.ok b) w') :
    ∃ i a t rest x, es = ⟨i, o, a, w, t⟩ :: rest ∧ exec env o x w = some (a, t) ∧
      Alone (f a) t rest (.ok b) w' := Alone.call_inv (M := machine env) alone

theorem store_bind_alone {o : Op} {result : o.Ans → Except Error α} {f : α → Service env β}
    (alone : Alone ((.call o fun a => .done (result a) : Service env α) >>= f) w es (.ok b) w') :
    ∃ i a v t rest x, es = ⟨i, o, a, w, t⟩ :: rest ∧ exec env o x w = some (a, t) ∧
      result a = .ok v ∧ Alone (f v) t rest (.ok b) w' := by
  obtain ⟨i, a, t, rest, x, rfl, done, tail⟩ := Alone.call_inv (M := machine env) (o := o) alone
  obtain ⟨v, passed, after⟩ := ofExcept_bind_alone tail
  exact ⟨i, a, v, t, rest, x, rfl, done, passed, after⟩

end Alone

/-! ## One response -/

def recordedScopes (triple : Triple) (w : World) : Option (List String) :=
  (w.db.connections.find? triple).map (·.scopes)

/-- The provider answered with these fields. -/
inductive Answers (fields : Secret) : Event (machine env) → Prop where
  | post {i status : Nat} {service : String} {form : List (String × String)} {s s' : World}
      (accepted : status < 400) :
      Answers fields ⟨i, .post service form, .answered status (some (.obj fields)), s, s'⟩

theorem Answers.fields_eq {fields fields' : Secret} {e : Event (machine env)}
    (first : Answers fields e) (second : Answers fields' e) : fields = fields' := by
  cases first
  cases second
  rfl

/-- The step asks no token endpoint. -/
def Op.asksNone : Op → Prop
  | .post _ _ => False
  | _ => True

theorem Answers.asks {fields : Secret} {e : Event (machine env)} (answers : Answers fields e) :
    ¬ e.op.asksNone := by
  cases answers
  exact id

theorem Op.calm.asksNone (o : Op) (calm : o.calm) : o.asksNone := by
  cases o with
  | post service form => exact calm.elim
  | _ => trivial

theorem Secret.get_of_asStr {secret : Secret} {field value : String}
    (held : (secret.get field).bind Json.asStr = some value) :
    secret.get field = some (.str value) := by
  cases found : secret.get field with
  | none => simp [found] at held
  | some stored => cases stored <;> simp_all [Json.asStr]

/-- An accepted response, and what it has left behind at the triple. -/
structure Storing (env : Env) (triple : Triple) (provider : OAuthProvider) (sent : Option String)
    (fields : Secret) (w : World) (secret : Secret) : Prop where
  configured : CredentialService.providerFor env triple.2.2 = .ok provider
  accepted : ∃ normalized, Normalized env.text fields normalized ∧ secret = withSent sent normalized
  kept : secretAt env triple w = some secret
  recorded : recordedScopes triple w = some (grantedScopes secret provider)

section Steps

variable {es : List (Event (machine env))} {w w' : World} {profile : Profile} {service : String}
  {provider : OAuthProvider} {secret : Secret}

theorem post_accepted {form : List (String × String)}
    (path : Path (TokenEndpoint.post env provider form) es (.done (.ok secret))) :
    ∃ e fields, es = [e] ∧ Answers fields e ∧ Normalized env.text fields secret := by
  obtain ⟨i, response, s, s', rest, rfl, tail⟩ := ask_bind_returned path
  cases response with
  | unreachable => exact (throw_returned tail).elim
  | answered status body =>
      dsimp only at tail
      split at tail
      · obtain ⟨_, -, refusing⟩ := ofExcept_bind_returned tail
        exact (throw_returned refusing).elim
      · rename_i accepted
        obtain ⟨rfl, normalized⟩ := tail.done_inv
        obtain ⟨fields, rfl, kept⟩ := normalizeToken_ok (Prog.done.inj normalized).symm
        exact ⟨_, fields, rfl, .post (by omega), kept⟩

theorem putConnection_alone {connection stored : Connection} {now : Instant}
    (alone : Alone (CredentialService.putConnection env profile connection now) w es (.ok stored) w') :
    recordedScopes (profile.accountId, profile.name, connection.service) w' =
      some connection.scopes ∧ ∀ e ∈ es, e.op.asksNone := by
  rcases CredentialService.putConnection_inv alone.path with ⟨-, impossible⟩ |
    ⟨i, a, s, s', rfl, ⟨stored', rfl, ended⟩ | ⟨e, e', -, impossible⟩⟩
  · cases impossible
  · obtain ⟨rfl, ⟨x, done⟩, rest⟩ := alone.linked.cons_inv
    cases rest.nil_inv
    obtain ⟨put, -⟩ := ProfileOp.putConnection_ok (transact_ok.mp (onDb_eq.mp done).1)
    obtain ⟨row, found, same⟩ := put.written
    have scopes : row.scopes = connection.scopes := by
      rw [show row.scopes = row.toConnection.scopes from rfl, same]
    rw [recordedScopes, found]
    exact ⟨congrArg some scopes, by simp [Op.asksNone]⟩
  · cases impossible

theorem putSecret_alone {accountId name : String} {u : Unit}
    (alone : Alone (putSecret env accountId name service secret) w es (.ok u) w') :
    secretAt env (accountId, name, service) w' = some secret ∧
      w'.db.connections = w.db.connections ∧ ∀ e ∈ es, e.op.asksNone := by
  obtain ⟨master, known, alone₁⟩ := ofExcept_bind_alone alone
  obtain ⟨i, entropy, w₁, rest₁, x₁, rfl, done₁, alone₂⟩ := ask_bind_alone alone₁
  obtain ⟨j, now, w₂, rest₂, x₂, rfl, done₂, alone₃⟩ := ask_bind_alone alone₂
  obtain ⟨k, answered, w₃, rest₃, x₃, rfl, done₃, ended⟩ := Alone.call_inv (M := machine env) alone₃
  obtain ⟨rfl, same, rfl⟩ := ended.done_inv
  cases same
  have read₁ : w₁.db = w.db := exec_touches done₁
  have read₂ : w₂.db = w₁.db := exec_touches done₂
  obtain ⟨-, frame, ⟨row, found, sealed⟩, -⟩ :=
    SecretOp.put_ok (transact_ok.mp (onDb_eq.mp done₃).1)
  refine ⟨?_, ?_, by simp [Op.asksNone]⟩
  · have opens : Opens env row.envelope secret := by
      rw [sealed]
      exact ⟨master, requireMaster_ok known, openEnvelope_sealSecret _ _ _⟩
    apply opens.secretAt
    rw [envelopeAt, found]
    rfl
  · rw [frame, read₂, read₁]

theorem storeOauthSecret_alone {stored : Connection}
    (alone : Alone (CredentialService.storeOauthSecret env profile service secret provider) w es
      (.ok stored) w') :
    secretAt env (profile.accountId, profile.name, service) w' = some secret ∧
      recordedScopes (profile.accountId, profile.name, service) w' =
        some (grantedScopes secret provider) ∧ ∀ e ∈ es, e.op.asksNone := by
  obtain ⟨_, -, alone₁⟩ := ofExcept_bind_alone alone
  obtain ⟨i, now, w₁, rest₁, x₁, rfl, -, alone₂⟩ := ask_bind_alone alone₁
  obtain ⟨expiresAt, -, alone₃⟩ := ofExcept_bind_alone alone₂
  obtain ⟨stored', w₂, es₁, es₂, rfl, putting, alone₄⟩ := alone₃.bind_returned
  obtain ⟨u, w₃, es₃, es₄, rfl, sealing, ended⟩ := alone₄.bind_returned
  obtain ⟨rfl, -, rfl⟩ := ended.done_inv
  obtain ⟨recorded, noneAsked⟩ := putConnection_alone putting
  obtain ⟨kept, connections, noneAsked'⟩ := putSecret_alone sealing
  refine ⟨kept, ?_, ?_⟩
  · rw [recordedScopes, connections]
    exact recorded
  · simp only [List.forall_mem_cons, List.forall_mem_append]
    exact ⟨trivial, noneAsked, noneAsked', by simp⟩

theorem withSent_scopes (sent : Option String) (secret : Secret) :
    grantedScopes (withSent sent secret) provider = grantedScopes secret provider := by
  rw [grantedScopes, grantedScopes, withSent_get sent secret (by decide)]

/-- A code exchange leaves what its one response granted. -/
theorem finishAuthorization_alone {binding : FlowBinding} {code : String} {stored : Connection}
    {fields : Secret} (answered : ∃ e ∈ es, Answers fields e)
    (alone : Alone (CredentialService.finishAuthorization env binding code) w es (.ok stored) w') :
    ∃ provider secret, Storing env binding.triple provider none fields w' secret := by
  obtain ⟨i, a, found, w₁, rest₁, x₁, rfl, done₁, same, alone₁⟩ := store_bind_alone alone
  change a = .ok found at same
  subst same
  cases found with
  | none => exact (throw_returned alone₁.path).elim
  | some profile =>
      obtain ⟨owner, named, -⟩ := exec_readProfile done₁
      obtain ⟨provider, configured, alone₂⟩ := ofExcept_bind_alone alone₁
      obtain ⟨secret, w₂, es₁, es₂, rfl, exchanging, storing⟩ := alone₂.bind_returned
      obtain ⟨e, fields', rfl, answers, accepted⟩ := post_accepted exchanging.path
      obtain ⟨kept, recorded, noneAsked⟩ := storeOauthSecret_alone storing
      obtain ⟨e', member, answers'⟩ := answered
      have mine : e' = e := by
        rcases List.mem_cons.mp member with rfl | later
        · exact (answers'.asks trivial).elim
        · rcases List.mem_cons.mp later with here | tail
          · exact here
          · exact (answers'.asks (noneAsked e' tail)).elim
      subst mine
      cases answers.fields_eq answers'
      rw [owner, named] at kept recorded
      exact ⟨provider, secret, configured, ⟨secret, accepted, rfl⟩, kept, recorded⟩

/-- A renewal sends the refresh token it was given, and leaves what its one response
granted. -/
theorem renew_alone {connection : Connection} {renewed : Secret}
    (alone : Alone (CredentialService.renew env profile connection secret) w es (.ok renewed) w') :
    ∃ token provider fields, secret.get "refresh_token" = some (.str token) ∧ token ≠ "" ∧
      (∀ e ∈ es, ∀ fields', Answers fields' e → fields' = fields) ∧
      Storing env (profile.accountId, profile.name, connection.service) provider (some token)
        fields w' renewed := by
  unfold CredentialService.renew at alone
  split at alone
  · obtain ⟨_, _, _, _, -, -, thrown⟩ := alone.bind_returned
    exact (throw_returned thrown.path).elim
  · obtain ⟨_, _, _, _, -, -, thrown⟩ := alone.bind_returned
    exact (throw_returned thrown.path).elim
  · rename_i token filled held
    have given := Secret.get_of_asStr held
    obtain ⟨provider, configured, alone₁⟩ := ofExcept_bind_alone alone
    obtain ⟨renewed', w₁, es₁, es₂, rfl, trying, alone₂⟩ := alone₁.bind_returned
    rcases trying.tryCatch_returned with refreshing | ⟨e, _, _, _, -, -, handling⟩
    · obtain ⟨normalized, w₂, es₃, es₄, rfl, posting, ended⟩ := refreshing.bind_returned
      obtain ⟨rfl, same, rfl⟩ := ended.done_inv
      cases same
      obtain ⟨e, fields, rfl, answers, accepted⟩ := post_accepted posting.path
      obtain ⟨i, a, found, w₃, rest, x, rfl, -, -, alone₃⟩ := store_bind_alone alone₂
      obtain ⟨stored, w₄, es₅, es₆, rfl, storing, final⟩ :=
        (refuseIf_bind_alone alone₃).bind_returned
      obtain ⟨rfl, same, rfl⟩ := final.done_inv
      cases same
      obtain ⟨kept, recorded, noneAsked⟩ := storeOauthSecret_alone storing
      refine ⟨token, provider, fields, given, filled, ?_, configured, ⟨normalized, accepted, rfl⟩,
        kept, recorded⟩
      intro e' member fields' answers'
      have mine : e' = e := by
        simp only [List.append_nil, List.cons_append, List.nil_append, List.mem_cons] at member
        rcases member with here | rfl | tail
        · exact here
        · exact (answers'.asks trivial).elim
        · exact (answers'.asks (noneAsked e' tail)).elim
      subst mine
      exact answers'.fields_eq answers
    · split at handling
      · obtain ⟨_, _, _, _, -, -, thrown⟩ := handling.bind_returned
        exact (throw_returned thrown.path).elim
      · exact (throw_returned handling.path).elim

theorem Storing.of_db {triple : Triple} {sent : Option String} {fields : Secret}
    (storing : Storing env triple provider sent fields w secret) (same : w'.db = w.db) :
    Storing env triple provider sent fields w' secret := by
  obtain ⟨configured, accepted, kept, recorded⟩ := storing
  refine ⟨configured, accepted, ?_, ?_⟩
  · rw [← kept, secretAt, secretAt, envelopeAt, envelopeAt, same]
  · rw [← recorded, recordedScopes, recordedScopes, same]

theorem refresh_alone {connection : Connection} {renewed fields : Secret}
    (answered : ∃ e ∈ es, Answers fields e)
    (alone : Alone (CredentialService.refresh env profile connection secret) w es
      (.ok renewed) w') :
    ∃ token provider, secret.get "refresh_token" = some (.str token) ∧ token ≠ "" ∧
      Storing env (profile.accountId, profile.name, connection.service) provider (some token)
        fields w' renewed := by
  obtain ⟨e, member, answers⟩ := answered
  obtain ⟨i, a, w₁, rest, x, rfl, -, alone₁⟩ := ask_bind_alone alone
  obtain ⟨es', w₂, j, b, y, rfl, once, released⟩ := alone₁.finallyDo_inv
  have released : exec env (.release (profile.accountId, profile.name, connection.service)) y w₂ =
    some (b, w') := released
  have unchanged : w'.db = w₂.db := exec_touches released
  have inside : e ∈ es' := by
    simp only [List.mem_cons, List.mem_append, List.not_mem_nil, or_false] at member
    rcases member with rfl | here | rfl
    · exact (answers.asks trivial).elim
    · exact here
    · exact (answers.asks trivial).elim
  obtain ⟨found, w₃, es₁, es₂, rfl, reading, alone₂⟩ := once.bind_returned
  have renewing : Alone (CredentialService.renew env profile connection secret) w₃ es₂
      (.ok renewed) w₂ ∧ e ∈ es₂ := by
    have quiet := (reading.path.uses (getSecret_uses (fun o calm => Op.calm.asksNone o calm) _ _ _)).1
    have later : e ∈ es₂ := by
      rcases List.mem_append.mp inside with early | late
      · exact (answers.asks (quiet e early)).elim
      · exact late
    cases found with
    | none => exact ⟨alone₂, later⟩
    | some stored =>
        dsimp only at alone₂
        split at alone₂
        · obtain ⟨rfl, -, -⟩ := alone₂.done_inv
          cases later
        · exact ⟨alone₂, later⟩
  obtain ⟨token, provider, fields', given, filled, only, storing⟩ := renew_alone renewing.1
  cases only e renewing.2 fields answers
  exact ⟨token, provider, given, filled, storing.of_db unchanged⟩

end Steps

/-! ## The next refresh -/

/-- There is a refresh token to send. -/
def Refreshable (secret : Secret) : Prop :=
  ∃ token, secret.get "refresh_token" = some (.str token) ∧ token ≠ ""

/-- A renewal of the secret asks nobody, and records that it has no refresh token. -/
def Exhausted (env : Env) (secret : Secret) : Prop :=
  ∀ profile connection, ∃ message, CredentialService.renew env profile connection secret = (do
    CredentialService.recordFailure env profile connection "no refresh token was stored"
    throw (.credentialUnavailable message))

theorem Secret.setDefault_get_self (secret : Secret) (field : String) (value : Json) :
    (secret.setDefault field value).get field = some ((secret.get field).getD value) := by
  unfold Secret.setDefault
  cases held : secret.get field with
  | none => simp [Secret.get_append, Secret.get_cons, held]
  | some old => simp [held]

theorem exhausted_iff (secret : Secret) : Exhausted env secret ↔ ¬ Refreshable secret := by
  constructor
  · rintro exhausted ⟨token, held, filled⟩
    obtain ⟨message, same⟩ := exhausted ⟨⟨"", "", "", 0, 0⟩, []⟩
      { service := "", kind := .apiKey, status := .active, createdAt := 0, updatedAt := 0 }
    unfold CredentialService.renew at same
    rw [held] at same
    split at same
    · rename_i none
      cases none
    · rename_i empty
      cases empty
      exact filled rfl
    · cases configured : CredentialService.providerFor env "" with
      | error e =>
          rw [configured] at same
          cases same
      | ok provider =>
          rw [configured] at same
          injection same with asked
          cases asked
  · intro lacking profile connection
    unfold CredentialService.renew
    split
    · exact ⟨_, rfl⟩
    · exact ⟨_, rfl⟩
    · rename_i token filled held
      refine (lacking ⟨token, ?_, filled⟩).elim
      exact Secret.get_of_asStr held

/-- A refresh with a token leaves one, unless it was answered with an empty one. -/
theorem Storing.refreshable_iff {triple : Triple} {provider : OAuthProvider} {token : String}
    {fields secret : Secret} {w : World} (filled : token ≠ "")
    (storing : Storing env triple provider (some token) fields w secret) :
    Refreshable secret ↔ fields.get "refresh_token" ≠ some (.str "") := by
  obtain ⟨normalized, accepted, rfl⟩ := storing.accepted
  rw [Refreshable, withSent, Secret.setDefault_get_self, accepted.refresh]
  cases fields.get "refresh_token" with
  | none => simp [filled]
  | some value =>
      cases value with
      | str given => simp [Option.filter, Json.isStr]
      | _ => simp [Option.filter, Json.isStr, filled]

/-! ## Refreshes one after the other -/

/-- What a step was answered, and the world that it left. -/
abbrev Granting := Secret × World

/-- Successful refreshes of what the vault holds at a triple, with nothing but reads
between them. -/
inductive Refreshes (env : Env) (triple : Triple) (w : World) : List Granting → World → Prop where
  | refl : Refreshes env triple w [] w
  | snoc {steps : List Granting} {u v v' : World} {profile : Profile} {connection : Connection}
      {secret renewed fields : Secret} {es : List (Event (machine env))}
      (earlier : Refreshes env triple w steps u) (reads : v.db = u.db)
      (names : (profile.accountId, profile.name, connection.service) = triple)
      (loaded : secretAt env triple v = some secret)
      (alone : Alone (CredentialService.refresh env profile connection secret) v es
        (.ok renewed) v')
      (answered : ∃ e ∈ es, Answers fields e) :
      Refreshes env triple w (steps ++ [(fields, v')]) v'

theorem Refreshes.storing {triple : Triple} {w w' : World} {steps : List Granting}
    (chain : Refreshes env triple w steps w') :
    ∀ step ∈ steps, ∃ token provider secret, token ≠ "" ∧
      Storing env triple provider (some token) step.1 step.2 secret := by
  induction chain with
  | refl => simp
  | snoc earlier _ names _ alone answered ih =>
      intro step member
      rcases List.mem_append.mp member with before | last
      · exact ih step before
      · rw [List.mem_singleton.mp last]
        obtain ⟨token, provider, -, filled, storing⟩ := refresh_alone answered alone
        rw [names] at storing
        exact ⟨token, provider, _, filled, storing⟩

theorem requireField_str {text : Text} {secret : Secret} {field value : String}
    (stored : secret.get field = some (.str value)) :
    requireField text secret field = if value = "" then
      .error (.credentialUnavailable s!"stored credential is missing {repr text field}")
      else .ok value := by
  simp only [requireField, stored, String.isEmpty_iff]

/-- The access token can be put in a header. -/
def Attachable (fields : Secret) : Prop :=
  Secret.get fields "access_token" ≠ some (.str "") ∧
    ∀ kind, Secret.get fields "token_type" = some kind → kind.isStr = true

theorem bearerHeader_ok_iff {text : Text} {fields secret : Secret}
    (accepted : Normalized text fields secret) :
    (∃ headers, bearerHeader text secret = .ok headers) ↔ Attachable fields := by
  obtain ⟨token, held, kept⟩ := accepted.access
  have named : (secret.get "token_type").getD (.str "Bearer") =
      (Secret.get fields "token_type").getD (.str "Bearer") := by
    rw [accepted.tokenType]
    rfl
  rw [Attachable, held, bearerHeader, named, requireField_str kept]
  have nonempty : some (Json.str token) ≠ some (.str "") ↔ token ≠ "" := by simp
  rw [nonempty]
  cases Secret.get fields "token_type" with
  | none => by_cases empty : token = "" <;> simp [empty, bind, Except.bind]
  | some kind =>
      cases kind with
      | str written => by_cases empty : token = "" <;> simp [empty, bind, Except.bind, Json.isStr]
      | _ => simp [Json.isStr]

/-- Every token that is accepted can be used, and every secret that a refresh stores can
be refreshed again, exactly where no answer has a string that is empty or a token type
that is no string. -/
theorem accepted_usable_iff (env : Env) :
    (∀ service body secret, normalizeToken env.text env.jsonNesting service body = .ok secret →
      ((∃ headers, bearerHeader env.text secret = .ok headers) ↔
        ∃ fields, body = some (.obj fields) ∧ Attachable fields)) ∧
    ∀ triple w steps w', Refreshes env triple w steps w' →
      ((∀ step ∈ steps, ∃ secret, secretAt env triple step.2 = some secret ∧
          Refreshable secret ∧ ¬ Exhausted env secret) ↔
        ∀ step ∈ steps, Secret.get step.1 "refresh_token" ≠ some (.str "")) := by
  constructor
  · intro service body secret accepted
    obtain ⟨fields, rfl, normalized⟩ := normalizeToken_ok accepted
    rw [bearerHeader_ok_iff normalized]
    constructor
    · intro attachable
      exact ⟨fields, rfl, attachable⟩
    · rintro ⟨fields', same, attachable⟩
      cases same
      exact attachable
  · intro triple w steps w' chain
    apply forall₂_congr
    intro step member
    obtain ⟨token, provider, secret, filled, storing⟩ := chain.storing step member
    rw [← storing.refreshable_iff filled]
    constructor
    · rintro ⟨secret', kept, refreshable, -⟩
      rw [storing.kept] at kept
      cases kept
      exact refreshable
    · intro refreshable
      exact ⟨secret, storing.kept, refreshable, fun exhausted => exhausted_iff secret |>.mp exhausted refreshable⟩

/-! ## The scopes of a chain -/

/-- The scopes that an answer names; one that is no string names none. -/
def namedScopes (fields : Secret) : Option (List String) :=
  ((fields.get "scope").bind Json.asStr).map splitWhitespace

/-- What has been granted after these answers: one that names no scopes grants what was
granted before it, and before the first that is what was requested. -/
def grantedAfter (requested : List String) (answers : List Secret) : List String :=
  answers.foldl (fun before fields => (namedScopes fields).getD before) requested

def SameScopes (scopes scopes' : List String) : Prop := ∀ scope, scope ∈ scopes ↔ scope ∈ scopes'

/-- A code exchange and the refreshes after it. -/
structure Consent (env : Env) (binding : FlowBinding) (provider : OAuthProvider)
    (first : Granting) (steps : List Granting) (w : World) : Prop where
  configured : CredentialService.providerFor env binding.service = .ok provider
  exchanged : ∃ code stored before es,
    Alone (CredentialService.finishAuthorization env binding code) before es (.ok stored) first.2 ∧
      ∃ e ∈ es, Answers first.1 e
  refreshed : Refreshes env binding.triple first.2 steps w

/-- The answers before this one have granted what is configured, where this one names
nothing; and nothing is configured, where it names an empty string. -/
def NamesScopes (provider : OAuthProvider) (before : List Secret) (fields : Secret) : Prop :=
  (namedScopes fields = none → SameScopes provider.scopes (grantedAfter provider.scopes before)) ∧
    (fields.get "scope" = some (.str "") → provider.scopes = [])

theorem grantedAfter_snoc (requested : List String) (before : List Secret) (fields : Secret) :
    grantedAfter requested (before ++ [fields]) =
      (namedScopes fields).getD (grantedAfter requested before) := by
  simp [grantedAfter]

theorem Normalized.scopes_iff {text : Text} {fields secret : Secret}
    (accepted : Normalized text fields secret) (provider : OAuthProvider) (before : List Secret) :
    SameScopes (grantedScopes secret provider)
        (grantedAfter provider.scopes (before ++ [fields])) ↔
      NamesScopes provider before fields := by
  rw [grantedAfter_snoc, NamesScopes, grantedScopes, accepted.scope, namedScopes]
  cases fields.get "scope" with
  | none => simp
  | some value =>
      cases value with
      | str named =>
          by_cases empty : named = ""
          · subst empty
            have nothing : splitWhitespace "" = [] := by decide
            simp [Option.filter, Json.isStr, Json.asStr, nothing, SameScopes,
              List.eq_nil_iff_forall_not_mem]
          · simp [Option.filter, Json.isStr, Json.asStr, empty, SameScopes]
      | _ => simp [Option.filter, Json.isStr, Json.asStr]

theorem Storing.scopes_iff {triple : Triple} {provider : OAuthProvider} {sent : Option String}
    {fields secret : Secret} {w : World}
    (storing : Storing env triple provider sent fields w secret) (before : List Secret) :
    (∃ recorded, recordedScopes triple w = some recorded ∧
        SameScopes recorded (grantedAfter provider.scopes (before ++ [fields]))) ↔
      NamesScopes provider before fields := by
  obtain ⟨normalized, accepted, rfl⟩ := storing.accepted
  have recorded := storing.recorded
  rw [withSent_scopes] at recorded
  simp only [recorded, Option.some.injEq, exists_eq_left']
  exact accepted.scopes_iff provider before

/-- The scopes that are recorded after each step are those that it granted, exactly where
every answer names its scopes or the configured ones are still what it grants. -/
theorem recorded_scopes_iff {binding : FlowBinding} {provider : OAuthProvider} {first : Granting}
    {steps : List Granting} {w : World} (consent : Consent env binding provider first steps w) :
    (∀ early step late, first :: steps = early ++ step :: late →
        ∃ recorded, recordedScopes binding.triple step.2 = some recorded ∧
          SameScopes recorded
            (grantedAfter provider.scopes (early.map Prod.fst ++ [step.1]))) ↔
      ∀ early step late, first :: steps = early ++ step :: late →
        NamesScopes provider (early.map Prod.fst) step.1 := by
  apply forall_congr'
  intro early
  apply forall_congr'
  intro step
  apply forall_congr'
  intro late
  apply forall_congr'
  intro split
  obtain ⟨code, stored, before, es, exchanging, answered⟩ := consent.exchanged
  have member : step ∈ first :: steps := by simp [split]
  rcases List.mem_cons.mp member with rfl | later
  · obtain ⟨provider', secret, storing⟩ := finishAuthorization_alone answered exchanging
    cases consent.configured.symm.trans storing.configured
    exact storing.scopes_iff _
  · obtain ⟨token, provider', secret, -, storing⟩ := consent.refreshed.storing step later
    cases consent.configured.symm.trans storing.configured
    exact storing.scopes_iff _

/-! ## Answers that leave something else -/

namespace Scenario

def answering (body : Secret) : Input :=
  { given 5 "a" with response := .answered 200 (some (.obj body)) }

/-- The world that a program leaves when every answer has this body. -/
def leaving {α : Type} (p : Service deployment α) (body : Secret) (w : World) : World :=
  ((p.play (List.replicate 16 (answering body)) w).map (·.2)).getD w

def homeBinding : FlowBinding := ⟨"bob", "home", "spotify", .oauth2AuthorizationCode, "uri"⟩

def exchangeHome : Service deployment Connection :=
  CredentialService.finishAuthorization deployment homeBinding "code"

def refreshHome (w : World) : Service deployment Secret :=
  CredentialService.refresh deployment homeRead bobSpotify.toConnection
    ((secretAt deployment bobTriple w).getD [])

def refreshedOffice (body : Secret) (w : World) : World := leaving (refreshHome w) body w

theorem refreshes_once {body : Secret} {w : World}
    (loaded : (secretAt deployment bobTriple w).isSome)
    (played : ∃ renewed, (refreshHome w).play (List.replicate 16 (answering body)) w =
      some (.ok renewed, refreshedOffice body w))
    (answered : ∃ e ∈ (refreshHome w).events (List.replicate 16 (answering body)) w,
      Answers body e) :
    Refreshes deployment bobTriple w [(body, refreshedOffice body w)] (refreshedOffice body w) := by
  obtain ⟨renewed, played⟩ := played
  obtain ⟨secret, found⟩ := Option.isSome_iff_exists.mp loaded
  apply Refreshes.snoc .refl rfl rfl ?_ (Prog.play_alone played) answered
  change secretAt deployment bobTriple w = some ((secretAt deployment bobTriple w).getD [])
  rw [found]
  rfl

def rotating : Secret := [("access_token", .str "access1"), ("refresh_token", .str "refresh1")]

def emptying : Secret := [("access_token", .str "access1"), ("refresh_token", .str "")]

theorem accepted_usable_rotating :
    (∃ headers, bearerHeader deployment.text (tokenPair "access1" "refresh1") = .ok headers) ∧
      ∃ secret, secretAt deployment bobTriple (refreshedOffice rotating connectedOffice) =
        some secret ∧ Refreshable secret ∧ ¬ Exhausted deployment secret := by
  obtain ⟨attached, refreshed⟩ := accepted_usable_iff deployment
  constructor
  · apply (attached "spotify" (some (.obj (tokenPair "access1" "refresh1"))) _ rfl).mpr
    exact ⟨_, rfl, by simp [tokenPair, Secret.get], by simp [tokenPair, Secret.get, Json.isStr]⟩
  · have chain : Refreshes deployment bobTriple connectedOffice
        [(rotating, refreshedOffice rotating connectedOffice)] _ := refreshes_once rfl ⟨_, rfl⟩
      ⟨_, List.mem_cons_of_mem _ (List.mem_cons_of_mem _ (List.mem_cons_self ..)),
        .post (by decide)⟩
    apply (refreshed _ _ _ _ chain).mpr _ _ (List.mem_singleton.mpr rfl)
    simp [rotating, Secret.get]

/-- An empty access token and a token type that is `null` are accepted and cannot be
used; an empty refresh token is stored, and nothing can be refreshed after it. -/
theorem accepted_unusable :
    (∃ secret, normalizeToken deployment.text deployment.jsonNesting "spotify"
        (some (.obj [("access_token", .str "")])) = .ok secret ∧
      ∀ headers, bearerHeader deployment.text secret ≠ .ok headers) ∧
    (∃ secret, normalizeToken deployment.text deployment.jsonNesting "spotify"
        (some (.obj [("access_token", .str "access1"), ("token_type", .null)])) = .ok secret ∧
      ∀ headers, bearerHeader deployment.text secret ≠ .ok headers) ∧
    Refreshes deployment bobTriple connectedOffice
        [(emptying, refreshedOffice emptying connectedOffice)]
        (refreshedOffice emptying connectedOffice) ∧
      ∃ secret, secretAt deployment bobTriple (refreshedOffice emptying connectedOffice) =
        some secret ∧ Exhausted deployment secret := by
  refine ⟨⟨_, rfl, ?_⟩, ⟨_, rfl, ?_⟩, ?_, _, rfl, ?_⟩
  · intro headers impossible
    cases impossible
  · intro headers impossible
    cases impossible
  · exact refreshes_once rfl ⟨_, rfl⟩
      ⟨_, List.mem_cons_of_mem _ (List.mem_cons_of_mem _ (List.mem_cons_self ..)),
        .post (by decide)⟩
  · rw [exhausted_iff]
    rintro ⟨token, held, filled⟩
    cases held
    exact filled rfl

/-! Less is granted than was requested, and the next answer does not say so again. -/

def narrowing : Secret := rotating ++ [("scope", .str "write")]

def narrowedOffice : World := leaving exchangeHome narrowing connectedOffice

def silentOffice : World := refreshedOffice rotating narrowedOffice

def repeatedOffice : World := refreshedOffice narrowing narrowedOffice

theorem exchanged_home :
    ∃ code stored before es, Alone (CredentialService.finishAuthorization deployment homeBinding code)
        before es (.ok stored) narrowedOffice ∧ ∃ e ∈ es, Answers narrowing e := by
  have played : ∃ stored, exchangeHome.play (List.replicate 16 (answering narrowing))
      connectedOffice = some (.ok stored, narrowedOffice) := ⟨_, rfl⟩
  obtain ⟨stored, played⟩ := played
  exact ⟨"code", stored, connectedOffice, _, Prog.play_alone played,
    _, List.mem_cons_of_mem _ (List.mem_cons_self ..), .post (by decide)⟩

theorem recorded_scopes_repeated :
    Consent deployment homeBinding provider (narrowing, narrowedOffice)
        [(narrowing, repeatedOffice)] repeatedOffice ∧
      ∃ recorded, recordedScopes bobTriple repeatedOffice = some recorded ∧
        SameScopes recorded (grantedAfter provider.scopes [narrowing, narrowing]) := by
  have consent : Consent deployment homeBinding provider (narrowing, narrowedOffice)
      [(narrowing, repeatedOffice)] repeatedOffice := by
    refine ⟨rfl, exchanged_home, refreshes_once rfl ⟨_, rfl⟩ ?_⟩
    exact ⟨_, List.mem_cons_of_mem _ (List.mem_cons_of_mem _ (List.mem_cons_self ..)),
      .post (by decide)⟩
  refine ⟨consent, (recorded_scopes_iff consent).mpr ?_ [(narrowing, narrowedOffice)] _ [] rfl⟩
  intro early step late split
  have member : step ∈ [(narrowing, narrowedOffice), (narrowing, repeatedOffice)] := by simp [split]
  have same : step.1 = narrowing := by
    simp only [List.mem_cons, List.not_mem_nil, or_false] at member
    rcases member with rfl | rfl <;> rfl
  rw [same]
  constructor
  · intro silent
    cases silent
  · intro empty
    simp [narrowing, rotating, Secret.get] at empty

/-- What was granted less of is recorded as all that is configured after a refresh that
names no scopes. -/
theorem recorded_scopes_widened :
    Consent deployment homeBinding provider (narrowing, narrowedOffice)
        [(rotating, silentOffice)] silentOffice ∧
      recordedScopes bobTriple silentOffice = some ["read"] ∧
      grantedAfter provider.scopes [narrowing, rotating] = ["write"] := by
  refine ⟨⟨rfl, exchanged_home, refreshes_once rfl ⟨_, rfl⟩ ?_⟩, by decide +kernel, by decide +kernel⟩
  exact ⟨_, List.mem_cons_of_mem _ (List.mem_cons_of_mem _ (List.mem_cons_self ..)),
    .post (by decide)⟩

end Scenario

end Keyring

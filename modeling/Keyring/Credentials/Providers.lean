import Keyring.Credentials.Callbacks
import Keyring.Percent

/-!
# Where people are sent to consent

The authorization URL is the provider's own endpoint with the parameters of the
request behind it, and the consent page learns the state from there.
-/

set_option autoImplicit false

namespace Keyring

open Interleave Relational

/-- An entry of the provider file; the URLs are as `HttpUrl` renders them. -/
structure ProviderEntry where
  service : String
  authorizeUrl : String
  tokenUrl : String
  clientId : String
  clientSecret : String
  scopes : List String := []
  audience : Option String := none
  deriving DecidableEq

namespace ProviderEntry

def query (entry : ProviderEntry) (redirectUri state : String) : List (String × String) :=
  [("response_type", "code"), ("client_id", entry.clientId), ("redirect_uri", redirectUri),
    ("state", state), ("access_type", "offline")] ++
  (if entry.scopes.isEmpty then [] else [("scope", " ".intercalate entry.scopes)]) ++
  (match entry.audience with
    | none => []
    | some audience => [("audience", audience)])

def authorizationUrl (entry : ProviderEntry) (redirectUri state : String) : String :=
  entry.authorizeUrl ++ "?" ++ String.ofList (Percent.urlencode (entry.query redirectUri state))

/-- What the requests see of an entry. -/
def provider (entry : ProviderEntry) : OAuthProvider where
  service := entry.service
  authorizationUrl := entry.authorizationUrl
  clientId := entry.clientId
  clientSecret := entry.clientSecret
  scopes := entry.scopes

/-- The endpoint has neither a query nor a fragment of its own. -/
def Bare (entry : ProviderEntry) : Prop :=
  '?' ∉ entry.authorizeUrl.toList ∧ '#' ∉ entry.authorizeUrl.toList

theorem query_state {entry : ProviderEntry} {redirectUri state redirectUri' state' : String}
    (same : entry.query redirectUri state = entry.query redirectUri' state') : state = state' := by
  simp only [query, List.cons_append, List.nil_append, List.cons.injEq, Prod.mk.injEq,
    true_and] at same
  exact same.2.1

theorem authorizationUrl_toList (entry : ProviderEntry) (redirectUri state : String) :
    (entry.authorizationUrl redirectUri state).toList =
      entry.authorizeUrl.toList ++ '?' :: Percent.urlencode (entry.query redirectUri state) := by
  rw [authorizationUrl, String.toList_append, String.toList_append, List.append_assoc]
  simp

theorem Bare.carries {entry : ProviderEntry} (bare : entry.Bare) (redirectUri state : String) :
    Percent.Carries (entry.authorizationUrl redirectUri state).toList
      (entry.query redirectUri state) := by
  have plain : '#' ∉ Percent.urlencode (entry.query redirectUri state) :=
    Percent.urlencode_not_mem (by decide) (by decide) _
  rw [authorizationUrl_toList, Percent.carries_append_iff _ (Percent.form_urlencode _)]
  · exact bare.1
  · simp only [List.mem_append, List.mem_cons, not_or]
    exact ⟨bare.2, by decide, plain⟩

/-- The consent page is asked for what the request asks for, whatever the redirect URI
and the state are, exactly when the endpoint has no query and no fragment. -/
theorem authorizationUrl_carries_iff (entry : ProviderEntry) :
    (∀ redirectUri state, Percent.Carries (entry.authorizationUrl redirectUri state).toList
      (entry.query redirectUri state)) ↔ entry.Bare := by
  constructor
  · intro carries
    have hash : '#' ∉ entry.authorizeUrl.toList := by
      intro fragment
      -- The query ends before the state, so two states would be read alike.
      have first := carries "" "a"
      have second := carries "" "b"
      rw [authorizationUrl_toList, Percent.carries_of_fragment fragment] at first second
      exact absurd (query_state (first.unique second)) (by decide)
    refine ⟨?_, hash⟩
    have one := carries "" ""
    rw [authorizationUrl_toList, Percent.carries_append_iff _ (Percent.form_urlencode _)] at one
    · exact one
    · simp only [List.mem_append, List.mem_cons, not_or]
      exact ⟨hash, by decide, Percent.urlencode_not_mem (by decide) (by decide) _⟩
  · intro bare redirectUri state
    exact bare.carries redirectUri state

end ProviderEntry

/-! ## What the consent page learns -/

section Links

variable {env : Env} {es : List (Event (machine env))}

/-- The URL is the endpoint of a provider with a query behind it, and carries a state that
was drawn, and for which a flow of the provider's service has been issued with the redirect
URI that the URL names. -/
def Linked (entries : List ProviderEntry) (url : String) (es : List (Event (machine env))) : Prop :=
  ∃ entry ∈ entries, ∃ state flow,
    (∃ i s s', (⟨i, .draw, state, s, s'⟩ : Event (machine env)) ∈ es) ∧
    (∃ i s s', (⟨i, .issueState (env.hashToken state) flow, (), s, s'⟩ : Event (machine env)) ∈ es) ∧
    flow.binding.service = entry.service ∧
    entry.authorizeUrl.toList ++ ['?'] <+: url.toList ∧
    Percent.Carries url.toList (entry.query flow.binding.redirectUri state)

theorem Linked.mono {entries : List ProviderEntry} {url : String}
    {es es' : List (Event (machine env))} (linked : Linked entries url es) (sub : es ⊆ es') :
    Linked entries url es' := by
  obtain ⟨entry, listed, state, flow, ⟨i, s, s', drew⟩, ⟨j, t, t', issued⟩, rest⟩ := linked
  exact ⟨entry, listed, state, flow, ⟨i, s, s', sub drew⟩, ⟨j, t, t', sub issued⟩, rest⟩

variable {entries : List ProviderEntry}

theorem providerFor_entry (deployed : env.providers = entries.map ProviderEntry.provider)
    {service : String} {provider : OAuthProvider}
    (found : CredentialService.providerFor env service = .ok provider) :
    ∃ entry ∈ entries, entry.service = service ∧ provider = entry.provider := by
  rw [CredentialService.providerFor] at found
  cases first : env.providers.find? (·.service = service) with
  | none => simp [first] at found
  | some p =>
      rw [first] at found
      cases found
      have listed := List.mem_of_find?_eq_some first
      have named := List.find?_some first
      rw [deployed, List.mem_map] at listed
      obtain ⟨entry, member, rfl⟩ := listed
      exact ⟨entry, member, of_decide_eq_true named, rfl⟩

theorem beginAuthorization_linked (deployed : env.providers = entries.map ProviderEntry.provider)
    (bare : ∀ entry ∈ entries, entry.Bare)
    {accountId profileName serviceName redirectUri : String} {authorization : Authorization}
    (path : Path (CredentialService.beginAuthorization env accountId profileName serviceName
      redirectUri) es (.done (.ok authorization))) :
    Linked entries authorization.authorizationUrl es := by
  unfold CredentialService.beginAuthorization at path
  obtain ⟨profile, es₁, es₂, rfl, -, path₁⟩ := path.bind_returned
  obtain ⟨service, -, path₂⟩ := ofExcept_bind_returned path₁
  obtain ⟨provider, found, path₃⟩ := ofExcept_bind_returned path₂
  obtain ⟨i, state, s, s', rest, rfl, path₄⟩ := ask_bind_returned path₃
  obtain ⟨j, issued, t, t', rest, rfl, path₅⟩ := ask_bind_returned path₄
  obtain ⟨k, u, v, v', rest, rfl, path₆⟩ := ask_bind_returned path₅
  obtain ⟨l, now, x, x', rest, rfl, path₇⟩ := ask_bind_returned path₆
  obtain ⟨put, es₃, es₄, rfl, -, path₈⟩ := path₇.bind_returned
  obtain ⟨rfl, rfl⟩ := pure_returned path₈
  obtain ⟨entry, listed, named, rfl⟩ := providerFor_entry deployed found
  let flow : OAuthFlow := {
    binding := {
      accountId := accountId
      profile := profile.name
      service := service
      kind := .oauth2AuthorizationCode
      redirectUri := redirectUri }
    expiresAt := issued + seconds env.settings.oauthStateTtlSeconds }
  have carries : Percent.Carries (entry.authorizationUrl redirectUri state).toList
      (entry.query redirectUri state) := (bare entry listed).carries redirectUri state
  have begins : entry.authorizeUrl.toList ++ ['?'] <+:
      (entry.authorizationUrl redirectUri state).toList := by
    rw [ProviderEntry.authorizationUrl_toList]
    exact ⟨Percent.urlencode (entry.query redirectUri state), by simp⟩
  exact ⟨entry, listed, state, flow, ⟨i, s, s', by simp⟩, ⟨k, v, v', by simp [flow]⟩, named.symm,
    begins, carries⟩

theorem changes_beginAuthorization_linked
    (deployed : env.providers = entries.map ProviderEntry.provider)
    (bare : ∀ entry ∈ entries, entry.Bare)
    {accountId profileName serviceName redirectUri : String} {requester : Requester}
    {authorization : Authorization}
    (path : Path (CredentialChanges.beginAuthorization env accountId profileName serviceName
      redirectUri requester) es (.done (.ok authorization))) :
    Linked entries authorization.authorizationUrl es := by
  unfold CredentialChanges.beginAuthorization at path
  obtain ⟨preferences, es₁, es₂, rfl, -, beginning⟩ := path.bind_returned
  exact (beginAuthorization_linked deployed bare beginning).mono (List.subset_append_right _ _)

theorem not_authorization {α : Type} {p : Service env α} {answer : α → Answer}
    {authorization : Authorization} (other : ∀ a, answer a ≠ .authorization authorization)
    (path : Path (returning p answer) es (.done (.ok (.authorization authorization)))) : False := by
  obtain ⟨a, es₁, es₂, -, -, last⟩ := path.bind_returned
  exact other a (pure_returned last).2

theorem authorization_returned {p : Service env Authorization} {authorization : Authorization}
    (path : Path (returning p .authorization) es (.done (.ok (.authorization authorization)))) :
    Path p es (.done (.ok authorization)) := by
  obtain ⟨a, es₁, es₂, rfl, first, last⟩ := path.bind_returned
  obtain ⟨rfl, same⟩ := pure_returned last
  cases same
  rw [List.append_nil]
  exact first

theorem Call.linked (deployed : env.providers = entries.map ProviderEntry.provider)
    (bare : ∀ entry ∈ entries, entry.Bare) {call : Call} {authorization : Authorization}
    (path : Path (call.prog env) es (.done (.ok (.authorization authorization)))) :
    Linked entries authorization.authorizationUrl es := by
  cases call with
  | account c => cases c <;> exact (not_authorization (by simp) path).elim
  | admin actor c => cases c <;> exact (not_authorization (by simp) path).elim
  | delegation c => cases c <;> exact (not_authorization (by simp) path).elim
  | exchange service audience ttlSeconds userToken grantId =>
      exact (not_authorization (by simp) path).elim
  | credential c =>
      cases c with
      | beginAuthorization accountId profileName serviceName redirectUri =>
          exact beginAuthorization_linked deployed bare (authorization_returned path)
      | _ => exact (not_authorization (by simp) path).elim
  | change c =>
      cases c with
      | beginAuthorization accountId profileName serviceName redirectUri requester =>
          exact changes_beginAuthorization_linked deployed bare (authorization_returned path)
      | _ => exact (not_authorization (by simp) path).elim
  | internal service userToken c =>
      obtain ⟨accountId, es₁, es₂, rfl, -, rest⟩ := path.bind_returned
      cases c with
      | authorizeConnection name connection =>
          exact (changes_beginAuthorization_linked deployed bare
            (authorization_returned rest)).mono (List.subset_append_right _ _)
      | _ => exact (not_authorization (by simp) rest).elim

end Links

/-- In every run, whoever is sent to consent brings the provider a state that the request
has issued a flow for, to the provider's own service. -/
theorem authorizations_linked {env : Env} {entries : List ProviderEntry}
    (deployed : env.providers = entries.map ProviderEntry.provider)
    (bare : ∀ entry ∈ entries, entry.Bare) {w : World} {calls : List Call}
    {tr : List (Event (machine env))} {d : Config (machine env) Error Answer}
    (run : Run (start env w calls) tr d) {i : Nat} {call : Call} (asked : calls[i]? = some call)
    {authorization : Authorization}
    (answered : d.pool[i]? = some (.done (.ok (.authorization authorization)))) :
    Linked entries authorization.authorizationUrl (ofThread i tr) := by
  obtain ⟨q, here, path⟩ := path_of_run run i call asked
  rw [answered] at here
  cases here
  exact Call.linked deployed bare path

namespace Scenario

def spotify : ProviderEntry where
  service := "spotify"
  authorizeUrl := "https://accounts.example.com/authorize"
  tokenUrl := "https://accounts.example.com/api/token"
  clientId := "client-abc"
  clientSecret := "secret-abc"
  scopes := ["user-read-private", "user-library-read"]

def providing : Env := { deployment with providers := [spotify.provider] }

def providedRun : Config (machine providing) Error Answer × List (Event (machine providing)) :=
  (start providing connectedOffice [beginHome]).play (List.replicate 6 (0, given 1 "state"))

def authorizationOf {env : Env} : Option (Service env Answer) → Option Authorization
  | some (.done (.ok (.authorization authorization))) => some authorization
  | _ => none

theorem authorizationOf_some {env : Env} {found : Option (Service env Answer)}
    (some' : (authorizationOf found).isSome = true) :
    ∃ authorization, found = some (.done (.ok (.authorization authorization))) := by
  unfold authorizationOf at some'
  split at some'
  · exact ⟨_, rfl⟩
  · cases some'

end Scenario

open Scenario in
theorem authorizations_linked_home :
    ∃ authorization, providedRun.1.pool[0]? = some (.done (.ok (.authorization authorization))) ∧
      Linked [spotify] authorization.authorizationUrl (ofThread 0 providedRun.2) := by
  obtain ⟨authorization, answered⟩ :=
    @authorizationOf_some providing providedRun.1.pool[0]? (by decide +kernel)
  have run : Run (start providing connectedOffice [beginHome]) providedRun.2 providedRun.1 :=
    Config.play_run _ _
  have bare : ∀ entry ∈ [spotify], entry.Bare := by
    intro entry listed
    rw [List.mem_singleton.mp listed]
    exact ⟨by decide, by decide⟩
  exact ⟨authorization, answered, authorizations_linked rfl bare run rfl answered⟩

end Keyring

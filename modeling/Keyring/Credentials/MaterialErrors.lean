import Keyring.Credentials.Material
import Keyring.Admin.Footprint
import Keyring.Scenario

/-!
# Stored material fails one way, or escapes

Whatever is stored, a use of it returns a mapping, raises the documented error
with one of a few fixed texts behind it, or lets another exception through.  The
last happens exactly when an object that the header template reaches raises
another class than the three that are handled, or when the time step of a code
does not fit the eight bytes it is packed in.
-/

set_option autoImplicit false

namespace Keyring

open Interleave

/-- `key` can be read in `text`. -/
abbrev Shows (text key : String) : Prop := key.toList <:+: text.toList

/-- A non-empty stored string. -/
def storedString (secret : Secret) (field : String) : Option String :=
  ((secret.get field).bind Json.asStr).filter (· ≠ "")

/-- The four ways in which stored material is used. -/
inductive MaterialUse where
  | apiKeyHeaders
  | apiKeyQueryParams
  | bearerHeaders
  | formFields (now : UnixTime)

namespace MaterialUse

variable (python : Python) (secret : Secret)

def outcome : MaterialUse → Except Failure (List (String × String))
  | apiKeyHeaders => ApiKeyCredential.headers python secret
  | apiKeyQueryParams => ApiKeyCredential.queryParams python secret
  | bearerHeaders => OAuth2Credential.headers python secret
  | formFields now => PasswordCredential.fields python secret now

/-- The secrets that a use reads, a seed also in the spelling that is decoded. -/
def keys : MaterialUse → List String
  | apiKeyHeaders | apiKeyQueryParams => (storedString secret "api_key").toList
  | bearerHeaders => (storedString secret "access_token").toList
  | formFields _ =>
      let seed := storedString secret "totp_seed"
      let decoded := (seed.map fun seed => String.ofList (python.padSeed seed)).filter (· ≠ "")
      (storedString secret "password").toList ++ seed.toList ++ decoded.toList

end MaterialUse

/-- A failure is the documented error, and no text along its chain shows a key. -/
def FailsOneWay {α : Type} (keys : List String) (r : Except Failure α) : Prop :=
  ∀ failure, r = .error failure → ∃ message chained, failure = .unavailable message chained ∧
    ∀ text ∈ message :: chained, ∀ key ∈ keys, ¬ Shows text key

/-! ## What is refused, and in which words -/

section Refusals

variable (python : Python) (secret : Secret)

def missingField (field : String) : String :=
  s!"stored credential is missing {repr python.text field}"

def requireRefusal (field : String) : List String :=
  match storedString secret field with
  | some _ => []
  | none => [missingField python field]

/-- The template and the key that `headers` applies, when it gets so far. -/
def ApiKeyCredential.applied : Option (String × String) :=
  match (secret.get "header").getD (.str defaultApiKeyHeader),
    (secret.get "template").getD (.str defaultApiKeyTemplate) with
  | .str _, .str template =>
      if inQuery secret then none else (storedString secret "api_key").map (template, ·)
  | _, _ => none

/-- The seed that `fields` makes a code from, when it gets so far. -/
def PasswordCredential.coded : Option String :=
  match storedString secret "username", storedString secret "password" with
  | some _, some _ => storedString secret "totp_seed"
  | _, _ => none

def templateRefusal (template value : String) : List String :=
  match python.formatted template value with
  | .ok _ => []
  | .error _ => ["stored credential has a malformed header template"]

/-- A seed that is not base32, or a time that is not a number. -/
def codeRefusal (seed : String) (now : UnixTime) : List String :=
  match base32Refusal (python.padSeed seed), now with
  | [], .finite _ => []
  | [], .infinite => ["stored TOTP seed could not be used", "cannot convert float NaN to integer"]
  | why, _ => "stored TOTP seed could not be used" :: "TOTP seed is not valid base32" :: why

/-- The texts in which unusable material is refused. -/
def MaterialUse.refusal : MaterialUse → List String
  | apiKeyHeaders =>
      match (secret.get "header").getD (.str defaultApiKeyHeader),
        (secret.get "template").getD (.str defaultApiKeyTemplate) with
      | .str _, .str template =>
          if inQuery secret then []
          else
            match storedString secret "api_key" with
            | some value => templateRefusal python template value
            | none => [missingField python "api_key"]
      | _, _ => ["stored credential has a malformed header configuration"]
  | apiKeyQueryParams =>
      if inQuery secret then
        match (secret.get "query_name").getD (.str "api_key") with
        | .str _ => requireRefusal python secret "api_key"
        | _ => ["stored credential has a malformed query parameter name"]
      else []
  | bearerHeaders =>
      match (secret.get "token_type").getD (.str "Bearer") with
      | .str _ => requireRefusal python secret "access_token"
      | _ => ["stored credential has a malformed token type"]
  | formFields now =>
      match storedString secret "username", storedString secret "password" with
      | none, _ => [missingField python "username"]
      | some _, none => [missingField python "password"]
      | some _, some _ =>
          match storedString secret "totp_seed" with
          | none => []
          | some seed => codeRefusal python seed now

/-- `counter` fits the eight bytes it is packed in. -/
def Packs (counter : Int) : Prop := 0 ≤ counter ∧ counter < 2 ^ 64

/-- The objects of the template raise nothing but what is handled, and the time step of
a seed that can be decoded fits its eight bytes. -/
def MaterialUse.Contained : MaterialUse → Prop
  | apiKeyHeaders => ∀ template value, ApiKeyCredential.applied secret = some (template, value) →
      ∀ o ∈ python.asks template value, python.Tame o
  | formFields (.finite time) => ∀ seed, PasswordCredential.coded secret = some seed →
      base32Refusal (python.padSeed seed) = [] → Packs (time / seconds defaultPeriodSeconds)
  | _ => True

end Refusals

/-- It is refused in those texts, or there is nothing to refuse. -/
def RefusedIn {α : Type} (texts : List String) (r : Except Failure α) : Prop :=
  (∃ value, r = .ok value ∧ texts = []) ∨
    ∃ message chained, r = .error (.unavailable message chained) ∧ texts = message :: chained

def Escapes {α : Type} (r : Except Failure α) : Prop := ∃ e, r = .error (.escaped e)

section Results

variable {α β : Type} {texts keys : List String} {r : Except Failure α}

theorem RefusedIn.map (f : α → β) (refused : RefusedIn texts r) :
    RefusedIn texts (r >>= fun value => .ok (f value)) := by
  rcases refused with ⟨value, rfl, fine⟩ | ⟨message, chained, rfl, same⟩
  · exact .inl ⟨f value, rfl, fine⟩
  · exact .inr ⟨message, chained, rfl, same⟩

theorem Escapes.map (f : α → β) (escapes : Escapes r) :
    Escapes (r >>= fun value => .ok (f value)) := by
  obtain ⟨e, rfl⟩ := escapes
  exact ⟨e, rfl⟩

theorem RefusedIn.failsOneWay_iff (refused : RefusedIn texts r) :
    FailsOneWay keys r ↔ ∀ text ∈ texts, ∀ key ∈ keys, ¬ Shows text key := by
  rcases refused with ⟨value, rfl, rfl⟩ | ⟨message, chained, rfl, rfl⟩
  · simp [FailsOneWay]
  · simp [FailsOneWay]

theorem Escapes.not_failsOneWay (escapes : Escapes r) : ¬ FailsOneWay keys r := by
  obtain ⟨e, rfl⟩ := escapes
  simp [FailsOneWay]

end Results

section Parts

variable {python : Python} {secret : Secret}

theorem requireField_stored {text : Text} {field value : String}
    (stored : storedString secret field = some value) :
    requireField text secret field = .ok value := by
  unfold storedString at stored
  unfold requireField
  cases found : secret.get field with
  | none => simp [found] at stored
  | some json =>
      cases json with
      | str text =>
          simp only [found, Json.asStr, Option.bind_some, Option.filter_eq_some_iff,
            Option.some.injEq, decide_eq_true_eq] at stored
          obtain ⟨rfl, filled⟩ := stored
          simp [filled]
      | _ => simp [found, Json.asStr] at stored

theorem requireField_missing {text : Text} {field : String}
    (missing : storedString secret field = none) :
    requireField text secret field =
      .error (.credentialUnavailable s!"stored credential is missing {repr text field}") := by
  unfold storedString at missing
  unfold requireField
  cases found : secret.get field with
  | none => rfl
  | some json =>
      cases json with
      | str text =>
          obtain rfl : text = "" := by simpa [found, Json.asStr, Option.filter] using missing
          rfl
      | _ => rfl

theorem require_stored {field value : String} (stored : storedString secret field = some value) :
    python.require secret field = .ok value := by
  rw [Python.require, requireField_stored stored]
  rfl

theorem require_missing {field : String} (missing : storedString secret field = none) :
    python.require secret field = .error (.unavailable (missingField python field) []) := by
  rw [Python.require, requireField_missing missing]
  rfl

theorem require_map_refused {α : Type} (field : String) (f : String → α) :
    RefusedIn (requireRefusal python secret field)
      (python.require secret field >>= fun value => .ok (f value)) := by
  apply RefusedIn.map
  unfold requireRefusal
  cases stored : storedString secret field with
  | some value => exact .inl ⟨value, require_stored stored, rfl⟩
  | none => exact .inr ⟨_, [], require_missing stored, rfl⟩

/-! ### Templates -/

theorem applyTemplate_refused {template value : String}
    (tame : ∀ o ∈ python.asks template value, python.Tame o) :
    RefusedIn (templateRefusal python template value) (python.applyTemplate template value) := by
  have handled := (python.formatted_documented_iff template value).mpr tame
  unfold templateRefusal Python.applyTemplate
  cases formatted : python.formatted template value with
  | ok text => exact .inl ⟨text, rfl, rfl⟩
  | error e =>
      have lookup : e.isLookup = true := handled e formatted
      right
      simp [lookup]

theorem applyTemplate_escapes {template value : String}
    (wild : ¬ ∀ o ∈ python.asks template value, python.Tame o) :
    Escapes (python.applyTemplate template value) := by
  rw [← python.formatted_documented_iff] at wild
  simp only [Documented, not_forall] at wild
  obtain ⟨e, raised, unhandled⟩ := wild
  refine ⟨e, ?_⟩
  simp [Python.applyTemplate, raised, unhandled]

/-! ### Codes -/

theorem decodeSeed_refused (python : Python) (seed : String) :
    (∃ key, python.decodeSeed seed = .ok key ∧ base32Refusal (python.padSeed seed) = []) ∨
      ∃ e first rest, python.decodeSeed seed = .error e ∧ e.kind = .value ∧
        base32Refusal (python.padSeed seed) = first :: rest ∧
          e.texts = "TOTP seed is not valid base32" :: first :: rest := by
  unfold Python.decodeSeed
  rcases b32decode_cases (python.padSeed seed) with ⟨key, decoded, fine⟩ | ⟨e, failed, kind, texts⟩
  · rw [decoded]
    exact .inl ⟨key, rfl, fine⟩
  · right
    rw [failed, ← texts]
    simp [kind, Exception.during, Exception.texts]

theorem structPack_ok {counter : Int} (packs : Packs counter) :
    ∃ bytes, structPack counter = .ok bytes := by
  have small : counter.toNat < 256 ^ 8 := by
    have same : (256 : Nat) ^ 8 = 2 ^ 64 := by decide
    have bound := packs.2
    omega
  obtain ⟨bytes, written⟩ := toBytes_ok small
  rw [structPack, if_pos packs.1, written]
  exact ⟨bytes, rfl⟩

theorem structPack_error {counter : Int} (outside : ¬ Packs counter) :
    structPack counter = .error outOfFormat := by
  unfold structPack
  by_cases negative : 0 ≤ counter
  · have large : ¬ counter.toNat < 256 ^ 8 := by
      have same : (256 : Nat) ^ 8 = 2 ^ 64 := by decide
      have bound : ¬ counter < 2 ^ 64 := fun small => outside ⟨negative, small⟩
      omega
    rw [if_pos negative, toBytes, if_neg large]
    rfl
  · rw [if_neg negative]

/-- Four bytes can be read at any offset that a nibble can be. -/
theorem truncateDigest_ok (digest : Vector UInt8 20) :
    ∃ code, Python.truncateDigest digest = .ok code := by
  have nibble : (digest[19] &&& 0x0f).toNat ≤ 15 := by
    rw [UInt8.toNat_and]
    exact Nat.and_le_right
  have four : ((digest.toList.drop (digest[19] &&& 0x0f).toNat).take 4).length = 4 := by
    rw [List.length_take, List.length_drop, Vector.length_toList]
    omega
  unfold Python.truncateDigest structUnpack
  dsimp only
  rw [if_pos four]
  exact ⟨_, rfl⟩

theorem code_refused {seed : String} {now : UnixTime}
    (packs : ∀ time, now = .finite time → base32Refusal (python.padSeed seed) = [] →
      Packs (time / seconds defaultPeriodSeconds)) :
    RefusedIn (codeRefusal python seed now) (PasswordCredential.code python seed now) := by
  unfold codeRefusal PasswordCredential.code Python.totpCode
  rcases decodeSeed_refused python seed with
    ⟨key, decoded, fine⟩ | ⟨e, first, rest, failed, kind, why, texts⟩
  · rw [decoded, fine]
    cases now with
    | finite time =>
        obtain ⟨message, packed⟩ := structPack_ok (packs time rfl fine)
        obtain ⟨code, made⟩ := truncateDigest_ok (python.hmacSha1 key message)
        left
        simp [bind, Except.bind, UnixTime.counter, packed, made]
    | infinite =>
        right
        simp [bind, Except.bind, UnixTime.counter, Exception.texts]
  · right
    rw [failed, why]
    simp [bind, Except.bind, kind, texts]

theorem code_escapes {seed : String} {time : Instant}
    (fine : base32Refusal (python.padSeed seed) = [])
    (outside : ¬ Packs (time / seconds defaultPeriodSeconds)) :
    Escapes (PasswordCredential.code python seed (.finite time)) := by
  refine ⟨outOfFormat, ?_⟩
  unfold PasswordCredential.code Python.totpCode
  rcases decodeSeed_refused python seed with
    ⟨key, decoded, -⟩ | ⟨e, first, rest, -, -, why, -⟩
  · simp [decoded, bind, Except.bind, UnixTime.counter, structPack_error outside, outOfFormat]
  · rw [fine] at why
    cases why

end Parts

/-! ## The four uses -/

section Uses

variable {python : Python} {secret : Secret}

theorem headers_refused (contained : MaterialUse.apiKeyHeaders.Contained python secret) :
    RefusedIn (MaterialUse.apiKeyHeaders.refusal python secret)
      (ApiKeyCredential.headers python secret) := by
  simp only [MaterialUse.Contained, ApiKeyCredential.applied] at contained
  simp only [MaterialUse.refusal, ApiKeyCredential.headers]
  generalize (secret.get "header").getD (.str defaultApiKeyHeader) = header at contained ⊢
  generalize (secret.get "template").getD (.str defaultApiKeyTemplate) = template at contained ⊢
  cases header with
  | str header =>
      cases template with
      | str template =>
          by_cases query : inQuery secret = true
          · simp only [if_pos query]
            exact .inl ⟨[], rfl, rfl⟩
          · simp only [if_neg query] at contained ⊢
            cases stored : storedString secret "api_key" with
            | some value =>
                rw [require_stored stored]
                apply RefusedIn.map
                apply applyTemplate_refused
                exact contained template value (by rw [stored]; rfl)
            | none =>
                rw [require_missing stored]
                exact .inr ⟨_, [], rfl, rfl⟩
      | _ => exact .inr ⟨_, [], rfl, rfl⟩
  | _ => exact .inr ⟨_, [], rfl, rfl⟩

theorem headers_escapes (uncontained : ¬ MaterialUse.apiKeyHeaders.Contained python secret) :
    Escapes (ApiKeyCredential.headers python secret) := by
  simp only [MaterialUse.Contained, ApiKeyCredential.applied, not_forall] at uncontained
  obtain ⟨template, value, applied, wild⟩ := uncontained
  unfold ApiKeyCredential.headers
  generalize (secret.get "header").getD (.str defaultApiKeyHeader) = header at applied ⊢
  generalize (secret.get "template").getD (.str defaultApiKeyTemplate) = written at applied ⊢
  cases header with
  | str header =>
      cases written with
      | str written =>
          by_cases query : inQuery secret = true
          · simp only [if_pos query] at applied
            cases applied
          · simp only [if_neg query] at applied ⊢
            rw [Option.map_eq_some_iff] at applied
            obtain ⟨value', stored, same⟩ := applied
            cases same
            rw [require_stored stored]
            apply Escapes.map
            exact applyTemplate_escapes (by simpa using wild)
      | _ => cases applied
  | _ => cases applied

theorem queryParams_refused :
    RefusedIn (MaterialUse.apiKeyQueryParams.refusal python secret)
      (ApiKeyCredential.queryParams python secret) := by
  simp only [MaterialUse.refusal, ApiKeyCredential.queryParams]
  by_cases query : inQuery secret = true
  · simp only [if_pos query]
    cases (secret.get "query_name").getD (.str "api_key") with
    | str name => exact require_map_refused "api_key" _
    | _ => exact .inr ⟨_, [], rfl, rfl⟩
  · simp only [if_neg query]
    exact .inl ⟨[], rfl, rfl⟩

theorem bearer_refused :
    RefusedIn (MaterialUse.bearerHeaders.refusal python secret)
      (OAuth2Credential.headers python secret) := by
  simp only [MaterialUse.refusal, OAuth2Credential.headers]
  cases (secret.get "token_type").getD (.str "Bearer") with
  | str tokenType => exact require_map_refused "access_token" _
  | _ => exact .inr ⟨_, [], rfl, rfl⟩

/-- `fields` with its two required values, and the seed when there is one. -/
theorem fields_eq {username password : String} (now : UnixTime)
    (named : storedString secret "username" = some username)
    (guarded : storedString secret "password" = some password) :
    PasswordCredential.fields python secret now =
      match storedString secret "totp_seed" with
      | none => .ok [("username", username), ("password", password)]
      | some seed => PasswordCredential.code python seed now >>= fun code =>
          .ok [("username", username), ("password", password), ("totp", code)] := by
  unfold PasswordCredential.fields storedString
  rw [require_stored named, require_stored guarded]
  simp only [bind, Except.bind]
  cases (secret.get "totp_seed").bind Json.asStr with
  | none => rfl
  | some seed =>
      by_cases empty : seed = ""
      · subst empty
        rfl
      · simp [Option.filter, empty]

theorem fields_refused {now : UnixTime}
    (contained : (MaterialUse.formFields now).Contained python secret) :
    RefusedIn ((MaterialUse.formFields now).refusal python secret)
      (PasswordCredential.fields python secret now) := by
  simp only [MaterialUse.refusal]
  cases named : storedString secret "username" with
  | none =>
      right
      simp [PasswordCredential.fields, require_missing named, bind, Except.bind]
  | some username =>
      cases guarded : storedString secret "password" with
      | none =>
          right
          simp [PasswordCredential.fields, require_stored named, require_missing guarded, bind,
            Except.bind]
      | some password =>
          rw [fields_eq now named guarded]
          cases seeded : storedString secret "totp_seed" with
          | none => exact .inl ⟨_, rfl, rfl⟩
          | some seed =>
              apply RefusedIn.map
              apply code_refused
              intro time same
              subst same
              apply contained
              simp [PasswordCredential.coded, named, guarded, seeded]

theorem fields_escapes {now : UnixTime}
    (uncontained : ¬ (MaterialUse.formFields now).Contained python secret) :
    Escapes (PasswordCredential.fields python secret now) := by
  cases now with
  | finite time =>
      simp only [MaterialUse.Contained, not_forall] at uncontained
      obtain ⟨seed, coded, fine, outside⟩ := uncontained
      unfold PasswordCredential.coded at coded
      split at coded
      · rename_i named guarded
        rw [fields_eq _ named guarded, coded]
        exact (code_escapes fine outside).map _
      · cases coded
  | infinite => simp [MaterialUse.Contained] at uncontained

end Uses

/-- A use of stored material fails only with the documented error, without showing the key,
exactly when nothing escapes it and its refusal does not happen to spell the key. -/
theorem material_fails_one_way_iff (python : Python) (secret : Secret) (use : MaterialUse) :
    FailsOneWay (use.keys python secret) (use.outcome python secret) ↔
      use.Contained python secret ∧
        ∀ text ∈ use.refusal python secret, ∀ key ∈ use.keys python secret, ¬ Shows text key := by
  by_cases contained : use.Contained python secret
  · have refused : RefusedIn (use.refusal python secret) (use.outcome python secret) := by
      cases use with
      | apiKeyHeaders => exact headers_refused contained
      | apiKeyQueryParams => exact queryParams_refused
      | bearerHeaders => exact bearer_refused
      | formFields now => exact fields_refused contained
    rw [refused.failsOneWay_iff]
    exact (and_iff_right contained).symm
  · have escapes : Escapes (use.outcome python secret) := by
      cases use with
      | apiKeyHeaders => exact headers_escapes contained
      | apiKeyQueryParams => exact absurd trivial contained
      | bearerHeaders => exact absurd trivial contained
      | formFields now => exact fields_escapes contained
    apply iff_of_false
    · exact escapes.not_failsOneWay
    · intro both
      exact contained both.1

namespace Scenario

/-- Strings have two attributes here, both of them methods. -/
def interpreter : Python where
  text := asciiText
  upper c := [c]
  fits length := length < 2 ^ 40
  hmacSha1 _ _ := Vector.replicate 20 0
  Other := String
  strAttribute _ name := if name ∈ ["lower", "upper"] then some (.other name) else none
  getattr _ name :=
    .error ⟨.attribute, s!"'builtin_function_or_method' object has no attribute '{name}'", []⟩
  getitem _ _ := .error ⟨.type, "'builtin_function_or_method' object is not subscriptable", []⟩
  convert name _ := .ok s!"<built-in method {name} of str object>"
  format name spec :=
    if spec.isEmpty then .ok s!"<built-in method {name} of str object>"
    else .error
      ⟨.type, "unsupported format string passed to builtin_function_or_method.__format__", []⟩

def templated (template : String) : Secret :=
  [("api_key", .str "k1"), ("template", .str template)]

def seeded (seed : String) : Secret :=
  [("username", .str "ada"), ("password", .str "hunter2"), ("totp_seed", .str seed)]

/-- The first instant whose time step needs more than eight bytes. -/
def farAway : UnixTime := .finite (seconds (30 * 2 ^ 64))

end Scenario

open Scenario in
example : ApiKeyCredential.headers interpreter (templated "\x7bvalue:\x7bvalue\x7d\x7d") =
    .error (.unavailable "stored credential has a malformed header template" []) := by decide

open Scenario in
/-- Two exceptions that are not handled, and a chain in which the seed stands. -/
theorem material_escapes :
    ¬ FailsOneWay (MaterialUse.apiKeyHeaders.keys interpreter (templated "\x7bvalue.foo\x7d"))
        (MaterialUse.apiKeyHeaders.outcome interpreter (templated "\x7bvalue.foo\x7d")) ∧
      ¬ FailsOneWay ((MaterialUse.formFields farAway).keys interpreter (seeded "GEZDGNBV"))
        ((MaterialUse.formFields farAway).outcome interpreter (seeded "GEZDGNBV")) ∧
      ¬ FailsOneWay ((MaterialUse.formFields (.finite 0)).keys interpreter (seeded "SECRETÖ"))
        ((MaterialUse.formFields (.finite 0)).outcome interpreter (seeded "SECRETÖ")) := by
  refine ⟨?_, ?_, ?_⟩
  · apply Escapes.not_failsOneWay
    exact ⟨⟨.attribute, "'str' object has no attribute 'foo'", []⟩, by decide⟩
  · apply Escapes.not_failsOneWay
    exact ⟨outOfFormat, by decide⟩
  · have refused : (MaterialUse.formFields (.finite 0)).outcome interpreter (seeded "SECRETÖ") =
        .error (.unavailable "stored TOTP seed could not be used"
          ["TOTP seed is not valid base32", "string argument should contain only ASCII characters",
            "'ascii' codec can't encode character '\\xd6' in position 6: ordinal not in range(128)",
            "ascii", "SECRETÖ=", "ordinal not in range(128)"]) := by decide
    intro failsOneWay
    obtain ⟨message, chained, same, silent⟩ := failsOneWay _ refused
    cases same
    exact silent "SECRETÖ=" (by decide) "SECRETÖ" (by decide) (by decide)

end Keyring

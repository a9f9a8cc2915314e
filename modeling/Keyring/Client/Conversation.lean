import Keyring.Api.Disclosed
import Keyring.Client.Credentials
import Keyring.Storage.ColumnsSpec

/-!
# What a service is told

A service that asks for a credential is told exactly what was resolved for it, or why
it was not.
-/

set_option autoImplicit false

namespace Keyring

open Interleave FixedWidth

/-! ## Moments -/

/-- The date and the time, to the second. -/
def Wall.clock (wall : Wall) : List Char :=
  wall.date.text (field 2 wall.hour ':' (field 2 wall.minute ':' (digits 2 wall.second)))

def Wall.fraction (wall : Wall) : List Char :=
  if wall.microsecond = 0 then [] else '.' :: digits 6 wall.microsecond

theorem Wall.clock_length (wall : Wall) : wall.clock.length = 19 := by
  simp [Wall.clock, Date.text, field]

theorem Wall.zulu_eq (wall : Wall) : wall.zulu = wall.clock ++ (wall.fraction ++ ['Z']) := by
  simp [Wall.zulu, Wall.clock, Wall.fraction, Date.text, field]

theorem Wall.text_eq (wall : Wall) (rest : List Char) :
    wall.text rest = wall.clock ++ ('.' :: digits 6 wall.microsecond ++ rest) := by
  simp [Wall.text, Wall.timeText, Wall.clock, Date.text, field]

namespace CredentialClient

theorem digit_ne_zulu {n : Nat} (small : n < 10) : digit n ≠ 'Z' := by
  have each : ∀ i : Fin 10, digit i ≠ 'Z' := by decide
  exact each ⟨n, small⟩

theorem withoutZulu_cons {c : Char} (other : c ≠ 'Z') (rest : List Char) :
    withoutZulu (c :: rest) = c :: withoutZulu rest := by
  rw [withoutZulu, List.flatMap_cons, if_neg other]
  rfl

theorem withoutZulu_digits (width n : Nat) (rest : List Char) :
    withoutZulu (digits width n ++ rest) = digits width n ++ withoutZulu rest := by
  induction width with
  | zero => rfl
  | succ width ih =>
      have other : digit (n / 10 ^ width % 10) ≠ 'Z' := digit_ne_zulu (Nat.mod_lt _ (by decide))
      rw [digits, List.cons_append, withoutZulu_cons other, ih, List.cons_append]

theorem withoutZulu_field {separator : Char} (other : separator ≠ 'Z') (width n : Nat)
    (rest : List Char) :
    withoutZulu (field width n separator rest) = field width n separator (withoutZulu rest) := by
  rw [field, withoutZulu_digits, withoutZulu_cons other, field]

theorem withoutZulu_clock (wall : Wall) (rest : List Char) :
    withoutZulu (wall.clock ++ rest) = wall.clock ++ withoutZulu rest := by
  have moved (rest : List Char) : wall.clock ++ rest = wall.date.text (field 2 wall.hour ':'
      (field 2 wall.minute ':' (digits 2 wall.second ++ rest))) := by
    simp [Wall.clock, Date.text, field]
  have dash : '-' ≠ 'Z' := by decide
  have colon : ':' ≠ 'Z' := by decide
  rw [moved, moved, Date.text, Date.text, withoutZulu_field dash, withoutZulu_field dash,
    withoutZulu_field (by decide), withoutZulu_field colon, withoutZulu_field colon,
    withoutZulu_digits]

theorem withoutZulu_fraction (wall : Wall) :
    withoutZulu (wall.fraction ++ ['Z']) = wall.fraction ++ ['+', '0', '0', ':', '0', '0'] := by
  have zulu : withoutZulu ['Z'] = ['+', '0', '0', ':', '0', '0'] := rfl
  rw [Wall.fraction]
  by_cases whole : wall.microsecond = 0
  · rw [if_pos whole]
    exact zulu
  · rw [if_neg whole, List.cons_append, withoutZulu_cons (by decide), withoutZulu_digits, zulu]
    rfl

theorem readOffset_utc : readOffset ['+', '0', '0', ':', '0', '0'] = some utc :=
  readOffset_formatOffset utc

/-- What was written of a moment in UTC is read as that moment. -/
theorem fromIsoformat_zulu (wall : Wall) :
    fromIsoformat (withoutZulu wall.zulu) = some (.aware ⟨wall, utc⟩) := by
  have clock := wall.clock_length
  have whole : readWall (wall.clock ++ ('.' :: digits 6 wall.microsecond)) = some (wall, []) := by
    have read := readWall_text wall []
    rwa [Wall.text_eq, List.append_nil] at read
  rw [Wall.zulu_eq, withoutZulu_clock, withoutZulu_fraction, fromIsoformat,
    List.take_left' clock, List.drop_left' clock, Wall.fraction]
  by_cases none : wall.microsecond = 0
  · have zeros : digits 6 0 = ['0', '0', '0', '0', '0', '0'] := rfl
    rw [none, zeros] at whole
    simp [none, whole, readOffset_utc]
  · simp [none, whole, readOffset_utc]

theorem moment_written {s : Serializer} (faithful : s.Faithful) {expiresAt : Option Instant}
    (dated : ∀ t, expiresAt = some t → Representable t) :
    (moment (some ((expiresAt.map fun t => Json.str (s.datetime t)).getD .null))).map Aware.instant =
      expiresAt := by
  cases expiresAt with
  | none => rfl
  | some t =>
      obtain ⟨wall, built⟩ := utcWall?_isSome (dated t rfl)
      have read := fromIsoformat_zulu wall
      simp only [Option.map_some, Option.getD_some, moment, faithful.datetimes t wall built,
        String.toList_ofList, read, utcWall?_instant built]

/-! ## Bodies -/

theorem stringMap_body (fields : List (String × String)) :
    stringMap (some (stringsBody fields)) = some fields := by
  rw [stringsBody, stringMap]
  induction fields with
  | nil => rfl
  | cons entry fields ih =>
      rw [List.map_cons, List.mapM_cons, ih]
      rfl

/-- What the client makes of a body that keyring sent. -/
theorem get_json {s : Serializer} (faithful : s.Faithful) {body : List (String × Json)}
    (items : ∀ entry ∈ body, BodyItem entry.2) (distinct : (body.map (·.1)).Nodup) :
    get (some (jsonResponse s (.obj body))) = .ok body := by
  have read := faithful.reads body distinct items
  simp [get, jsonResponse, read]

theorem problem_read {s : Serializer} (faithful : s.Faithful) (problem : Problem)
    (small : (Json.int problem.status).fitsDigits = true) :
    Json.loads (s.dumps problem.dump) = some problem.dump := by
  obtain ⟨type, title, status, detail, requestId⟩ := problem
  have items : ∀ entry ∈ [("type", Json.str type), ("title", .str title), ("status", .int status),
      ("detail", .str detail)], BodyItem entry.2 := by
    intro entry member
    simp only [List.mem_cons, List.not_mem_nil, or_false] at member
    rcases member with rfl | rfl | rfl | rfl
    · exact .text type
    · exact .text title
    · exact .number status small
    · exact .text detail
  cases requestId with
  | none =>
      have distinct : ["type", "title", "status", "detail"].Nodup := by decide
      exact faithful.reads _ distinct items
  | some requestId =>
      have distinct : ["type", "title", "status", "detail", "request_id"].Nodup := by decide
      refine faithful.reads _ distinct (List.forall_mem_append.mpr ⟨items, ?_⟩)
      exact List.forall_mem_singleton.mpr (.text requestId)

theorem detailOf_problem {s : Serializer} (faithful : s.Faithful) (requestId : Option String)
    (detail : String) (headers : List (String × String)) :
    detailOf (problemResponse s requestId 503 detail headers) =
      if detail = "" then unusable else detail := by
  have fits : (Json.int 503).fitsDigits = true := by decide
  rw [detailOf, problemResponse, problem_read faithful _ fits]
  rfl

/-! ## What was resolved -/

theorem resolveCredential_body {s : Serializer} (faithful : s.Faithful)
    {credential : Keyring.ResolvedCredential} (service : String)
    (headers : (credential.headers.map (·.1)).Nodup)
    (params : (credential.queryParams.map (·.1)).Nodup)
    (dated : ∀ t, credential.expiresAt = some t → Representable t) :
    ∃ expiry, resolveCredential service (some (jsonResponse s (credential.body s))) =
        .ok ⟨service, credential.headers, credential.queryParams, expiry⟩ ∧
      expiry.map Aware.instant = credential.expiresAt := by
  have distinct : ["service", "headers", "query_params", "expires_at"].Nodup := by decide
  have items : ∀ entry ∈ [("service", Json.str credential.service),
      ("headers", stringsBody credential.headers), ("query_params", stringsBody credential.queryParams),
      ("expires_at", (credential.expiresAt.map fun t => Json.str (s.datetime t)).getD .null)],
      BodyItem entry.2 := by
    intro entry member
    simp only [List.mem_cons, List.not_mem_nil, or_false] at member
    rcases member with rfl | rfl | rfl | rfl
    · exact .text credential.service
    · exact .texts credential.headers headers
    · exact .texts credential.queryParams params
    · cases credential.expiresAt with
      | none => exact .null
      | some t => exact .text _
  have read := get_json faithful items distinct
  refine ⟨_, ?_, moment_written faithful dated⟩
  rw [resolveCredential, ResolvedCredential.body, read]
  simp [fieldOf, List.lookup_cons, stringMap_body, bind, Except.bind]

theorem resolveFormSecrets_body {s : Serializer} (faithful : s.Faithful) (service : String)
    {fields : List (String × String)} (present : fields ≠ [])
    (distinct : (fields.map (·.1)).Nodup) :
    resolveFormSecrets service (some (jsonResponse s (formSecretsBody service fields))) =
      .ok ⟨service, fields⟩ := by
  have names : ["service", "fields"].Nodup := by decide
  have items : ∀ entry ∈ [("service", Json.str service), ("fields", stringsBody fields)],
      BodyItem entry.2 := by
    intro entry member
    simp only [List.mem_cons, List.not_mem_nil, or_false] at member
    rcases member with rfl | rfl
    · exact .text service
    · exact .texts fields distinct
  have read := get_json faithful items names
  cases fields with
  | nil => exact absurd rfl present
  | cons entry fields =>
      rw [resolveFormSecrets, formSecretsBody, read]
      simp [fieldOf, List.lookup_cons, stringMap_body, bind, Except.bind]

end CredentialClient

/-! ## What the routes return -/

section Returned

variable {env : Env} {es : List (Event (machine env))}

theorem nodup_of_short {fields : List (String × String)} (short : fields.length ≤ 1) :
    (fields.map (·.1)).Nodup := by
  cases fields with
  | nil => exact List.nodup_nil
  | cons entry fields =>
      have rest : fields = [] := List.eq_nil_of_length_eq_zero (by simpa using short)
      rw [rest]
      exact List.nodup_singleton _

theorem apiKeyHeaders_short {secret : Secret} {headers : List (String × String)}
    (made : apiKeyHeaders env secret = .ok headers) : headers.length ≤ 1 := by
  rw [apiKeyHeaders] at made
  split at made
  · split at made
    · cases made
      exact Nat.zero_le 1
    · obtain ⟨value, -, rest⟩ := bind_eq_ok.mp made
      obtain ⟨formatted, -, rest⟩ := bind_eq_ok.mp rest
      cases rest
      exact Nat.le_refl 1
  · cases made

theorem apiKeyQueryParams_short {secret : Secret} {params : List (String × String)}
    (made : apiKeyQueryParams env secret = .ok params) : params.length ≤ 1 := by
  rw [apiKeyQueryParams] at made
  split at made
  · split at made
    · obtain ⟨value, -, rest⟩ := bind_eq_ok.mp made
      cases rest
      exact Nat.le_refl 1
    · cases made
  · cases made
    exact Nat.zero_le 1

theorem bearerHeader_short {text : Text} {secret : Secret} {headers : List (String × String)}
    (made : bearerHeader text secret = .ok headers) : headers.length ≤ 1 := by
  rw [bearerHeader] at made
  split at made
  · obtain ⟨accessToken, -, rest⟩ := bind_eq_ok.mp made
    cases rest
    exact Nat.le_refl 1
  · cases made

theorem headers_short {credential : HttpAuth} {headers : List (String × String)}
    (path : Path (credential.headers env) es (.done (.ok headers))) : headers.length ≤ 1 := by
  cases credential with
  | apiKey secret =>
      obtain ⟨-, made⟩ := path.done_inv
      exact apiKeyHeaders_short (Prog.done.inj made).symm
  | oauth2 profile connection secret needsRefresh =>
      obtain ⟨current, _, _, -, -, last⟩ := path.bind_returned
      obtain ⟨-, made⟩ := last.done_inv
      exact bearerHeader_short (Prog.done.inj made).symm

theorem queryParams_short {credential : HttpAuth} {params : List (String × String)}
    (made : credential.queryParams env = .ok params) : params.length ≤ 1 := by
  cases credential with
  | apiKey secret => exact apiKeyQueryParams_short made
  | oauth2 profile connection secret needsRefresh =>
      cases made
      exact Nat.zero_le 1

theorem resolveCredential_returns {accountId profile service : String} {credential : ResolvedCredential}
    (path : Path (Internal.resolveCredential env accountId profile service) es
      (.done (.ok credential))) :
    credential.service = service ∧ credential.headers.length ≤ 1 ∧
      credential.queryParams.length ≤ 1 := by
  rw [Internal.resolveCredential] at path
  obtain ⟨found, _, _, -, -, path⟩ := path.bind_returned
  obtain ⟨headers, _, _, -, made, path⟩ := path.bind_returned
  obtain ⟨params, _, _, -, written, path⟩ := path.bind_returned
  obtain ⟨expiresAt, _, _, -, -, path⟩ := path.bind_returned
  obtain ⟨-, same⟩ := path.done_inv
  cases same
  obtain ⟨-, same⟩ := written.done_inv
  exact ⟨rfl, headers_short made, queryParams_short (Prog.done.inj same).symm⟩

/-- A login form has a user name and a password, and perhaps a code. -/
theorem formFields_returns {secret : Secret} {fields : List (String × String)}
    (path : Path (formFields env secret) es (.done (.ok fields))) :
    fields ≠ [] ∧ (fields.map (·.1)).Nodup := by
  rw [formFields] at path
  obtain ⟨username, _, _, -, -, path⟩ := path.bind_returned
  obtain ⟨password, _, _, -, -, path⟩ := path.bind_returned
  have two : ["username", "password"].Nodup := by decide
  have three : ["username", "password", "totp"].Nodup := by decide
  simp only at path
  split at path
  · obtain ⟨-, same⟩ := path.done_inv
    cases same
    exact ⟨by simp, two⟩
  · obtain ⟨-, same⟩ := path.done_inv
    cases same
    exact ⟨by simp, two⟩
  · obtain ⟨now, _, _, -, -, path⟩ := path.bind_returned
    split at path
    · obtain ⟨-, same⟩ := path.done_inv
      cases same
      exact ⟨by simp, three⟩
    · obtain ⟨-, same⟩ := path.done_inv
      cases same

theorem internal_returns {container : Container} {credentials userToken : Option String}
    {call : InternalCall} {reply : Reply}
    (path : Path (Request.prog env container (.internal credentials userToken call)) es
      (.done (.ok reply))) :
    ∃ accountId service answer es', Path (call.run env service accountId) es' (.done (.ok answer)) ∧
      reply = internalReply call answer := by
  rw [Request.prog] at path
  obtain ⟨service, _, _, -, -, path⟩ := path.bind_returned
  obtain ⟨answer, _, _, -, answered, path⟩ := path.bind_returned
  obtain ⟨-, same⟩ := path.done_inv
  cases same
  rw [Call.prog] at answered
  obtain ⟨accountId, _, es', -, -, answered⟩ := answered.bind_returned
  exact ⟨accountId, service, answer, es', answered, rfl⟩

end Returned

/-! ## Errors -/

namespace CredentialClient

/-- What each error of keyring is to a service that uses the client. -/
def told : Error → ClientError
  | .authentication _ => .rejected rejected
  | .accountNotFound _ | .roleNotFound _ | .profileNotFound _ | .connectionNotFound _ =>
      .notFound notFound
  | .credentialUnavailable detail | .vaultSealed detail | .preferencesUnavailable detail =>
      .unavailable (if detail = "" then unusable else detail)
  | _ => .unreachable unreachable

theorem get_problem (s : Serializer) (requestId : Option String) {status : Nat} (detail : String)
    (headers : List (String × String)) (other : status ≠ 401 ∧ status ≠ 404 ∧ status ≠ 503)
    (failing : 400 ≤ status ∧ status ≤ 599) :
    get (some (problemResponse s requestId status detail headers)) =
      .error (.unreachable unreachable) := by
  have same : (problemResponse s requestId status detail headers).status = status := rfl
  simp [get, same, other, failing]

theorem get_error {s : Serializer} (faithful : s.Faithful) (floats : Rounding)
    (requestId : Option String) (e : Error) :
    get (some (errorResponse s floats requestId e)) = .error (told e) := by
  have elsewhere {status : Nat} (detail : String) (headers : List (String × String))
      (other : status ≠ 401 ∧ status ≠ 404 ∧ status ≠ 503) (failing : 400 ≤ status ∧ status ≤ 599) :=
    get_problem s requestId detail headers other failing
  have unavailable (detail : String) : get (some (problemResponse s requestId 503 detail [])) =
      .error (.unavailable (if detail = "" then unusable else detail)) := by
    rw [get, detailOf_problem faithful]
    rfl
  cases e with
  | authentication message => rfl
  | accountNotFound message => rfl
  | roleNotFound message => rfl
  | profileNotFound message => rfl
  | connectionNotFound message => rfl
  | credentialUnavailable message => exact unavailable message
  | vaultSealed message => exact unavailable message
  | preferencesUnavailable message => exact unavailable message
  | _ => exact elsewhere _ _ (by decide) (by decide)

/-- What a service that asked for a credential learns of the outcome. -/
def ToldCredential (s : Serializer) (floats : Rounding) (requestId : Option String)
    (service : String) (r : Except Error Reply) : Prop :=
  ∃ response, respond s floats requestId r = some response ∧
    ((∃ credential expiry, r = .ok (.resolved credential) ∧ credential.service = service ∧
        resolveCredential service (some response) =
          .ok ⟨service, credential.headers, credential.queryParams, expiry⟩ ∧
        expiry.map Aware.instant = credential.expiresAt) ∨
      ∃ e, r = .error e ∧ resolveCredential service (some response) = .error (told e))

/-- What a service that asked for the fields of a form learns of the outcome. -/
def ToldSecrets (s : Serializer) (floats : Rounding) (requestId : Option String)
    (service : String) (r : Except Error Reply) : Prop :=
  ∃ response, respond s floats requestId r = some response ∧
    ((∃ fields, r = .ok (.formSecrets service fields) ∧
        resolveFormSecrets service (some response) = .ok ⟨service, fields⟩) ∨
      ∃ e, r = .error e ∧ resolveFormSecrets service (some response) = .error (told e))

section Outcomes

variable {env : Env} {container : Container} {s : Serializer} {es : List (Event (machine env))}
  {credentials userToken : Option String} {r : Except Error Reply}

theorem credential_told (faithful : s.Faithful) (requestId : Option String) {profile service : String}
    (path : Path (Request.prog env container
      (.internal credentials userToken (.resolveCredential profile service))) es (.done r))
    (dated : ∀ credential t, r = .ok (.resolved credential) → credential.expiresAt = some t →
      Representable t) : ToldCredential s env.floats requestId service r := by
  cases r with
  | error e =>
      refine ⟨_, rfl, Or.inr ⟨e, rfl, ?_⟩⟩
      rw [resolveCredential, get_error faithful env.floats]
      rfl
  | ok reply =>
      obtain ⟨accountId, caller, answer, es', answered, rfl⟩ := internal_returns path
      rw [InternalCall.run] at answered
      obtain ⟨credential, _, _, -, resolved, answered⟩ := answered.bind_returned
      obtain ⟨-, same⟩ := answered.done_inv
      cases same
      obtain ⟨named, headers, params⟩ := resolveCredential_returns resolved
      obtain ⟨expiry, read, when⟩ := resolveCredential_body faithful service
        (nodup_of_short headers) (nodup_of_short params) fun t => dated credential t rfl
      exact ⟨_, rfl, Or.inl ⟨credential, expiry, rfl, named, read, when⟩⟩

theorem secrets_told (faithful : s.Faithful) (requestId : Option String) {profile service : String}
    (path : Path (Request.prog env container
      (.internal credentials userToken (.resolveFormSecrets profile service))) es (.done r)) :
    ToldSecrets s env.floats requestId service r := by
  cases r with
  | error e =>
      refine ⟨_, rfl, Or.inr ⟨e, rfl, ?_⟩⟩
      rw [resolveFormSecrets, get_error faithful env.floats]
      rfl
  | ok reply =>
      obtain ⟨accountId, caller, answer, es', answered, rfl⟩ := internal_returns path
      rw [InternalCall.run] at answered
      obtain ⟨fields, _, _, -, resolved, answered⟩ := answered.bind_returned
      obtain ⟨-, same⟩ := answered.done_inv
      cases same
      rw [Internal.resolveFormSecrets] at resolved
      obtain ⟨secret, _, _, -, -, made⟩ := resolved.bind_returned
      obtain ⟨nonempty, distinct⟩ := formFields_returns made
      exact ⟨_, rfl, Or.inl ⟨fields, rfl, resolveFormSecrets_body faithful service nonempty distinct⟩⟩

end Outcomes

end CredentialClient

/-- Whatever runs beside it, a call of a service that has ended is told to the service as it
ended: what was resolved, field by field, or the error that its ending stands for. -/
theorem outcomes_told {env : Env} {container : Container} {w : World} {requests : List Request}
    {tr : List (Event (machine env))} {d : Config (machine env) Error Reply} {s : Serializer}
    (faithful : s.Faithful) (run : Run (serve env container w requests) tr d) {i : Nat}
    {credentials userToken : Option String} {call : InternalCall} {r : Except Error Reply}
    (asked : requests[i]? = some (.internal credentials userToken call))
    (ended : d.pool[i]? = some (.done r))
    (dated : ∀ credential t, r = .ok (.resolved credential) → credential.expiresAt = some t →
      Representable t)
    (requestId : Option String) :
    (∀ profile service, call = .resolveCredential profile service →
      CredentialClient.ToldCredential s env.floats requestId service r) ∧
    ∀ profile service, call = .resolveFormSecrets profile service →
      CredentialClient.ToldSecrets s env.floats requestId service r := by
  have waiting : (serve env container w requests).pool[i]? =
      some (Request.prog env container (.internal credentials userToken call)) := by
    rw [serve, List.getElem?_map, asked]
    rfl
  obtain ⟨q, here, path⟩ := run.path i _ waiting
  rw [ended] at here
  cases here
  constructor
  · intro profile service same
    subst same
    exact CredentialClient.credential_told faithful requestId path dated
  · intro profile service same
    subst same
    exact CredentialClient.secrets_told faithful requestId path

/-! ## Lucy hears what she may attach -/

namespace Scenario

theorem bodyItem_proper {value : Json} (item : BodyItem value) :
    value.Proper ∧ value.fitsDigits = true := by
  cases item with
  | text written => exact ⟨trivial, rfl⟩
  | number n fits => exact ⟨trivial, fits⟩
  | null => exact ⟨trivial, rfl⟩
  | texts fields distinct =>
      have names : (fields.map fun entry => (entry.1, Json.str entry.2)).map (·.1) =
          fields.map (·.1) := by
        rw [List.map_map]
        rfl
      have each : Json.ProperFields (fields.map fun entry => (entry.1, Json.str entry.2)) ∧
          Json.fitsDigitsFields (fields.map fun entry => (entry.1, Json.str entry.2)) = true := by
        clear distinct names
        induction fields with
        | nil => exact ⟨trivial, rfl⟩
        | cons entry fields ih => exact ⟨⟨trivial, ih.1⟩, ih.2⟩
      exact ⟨⟨names ▸ distinct, each.1⟩, each.2⟩

theorem body_proper (fields : List (String × Json)) (items : ∀ entry ∈ fields, BodyItem entry.2) :
    Json.ProperFields fields ∧ Json.fitsDigitsFields fields = true := by
  induction fields with
  | nil => exact ⟨trivial, rfl⟩
  | cons entry fields ih =>
      obtain ⟨first, rest⟩ := List.forall_mem_cons.mp items
      obtain ⟨proper, fits⟩ := bodyItem_proper first
      refine ⟨⟨proper, (ih rest).1⟩, ?_⟩
      rw [Json.fitsDigitsFields, fits, (ih rest).2]
      rfl

/-- JSON as the standard library writes it. -/
def serializer : Serializer where
  dumps value := String.ofList value.write
  datetime instant :=
    match utcWall? instant with
    | some wall => String.ofList wall.zulu
    | none => ""

theorem serializer_faithful : serializer.Faithful where
  reads fields distinct items := by
    obtain ⟨proper, fits⟩ := body_proper fields items
    have written : (Json.obj fields).dumps = .ok (String.ofList (Json.obj fields).write) := by
      rw [Json.dumps, Json.fitsDigits, if_pos fits]
    have whole : (Json.obj fields).Proper := ⟨distinct, proper⟩
    exact Json.loads_dumps whole written
  datetimes instant wall built := by
    simp only [serializer, built]

def resolved? {env : Env} : Option (Service env Reply) → Option ResolvedCredential
  | some (.done (.ok (.resolved credential))) => some credential
  | _ => none

theorem resolved?_eq_some {env : Env} {found : Option (Service env Reply)}
    {credential : ResolvedCredential} (ended : resolved? found = some credential) :
    found = some (.done (.ok (.resolved credential))) := by
  unfold resolved? at ended
  split at ended
  · cases ended
    rfl
  · cases ended

def attachable : ResolvedCredential :=
  ⟨"spotify", [("Authorization", "Bearer access1")], [], some 7200000000⟩

theorem outcomes_told_lucy : CredentialClient.ToldCredential serializer deployment.floats none "spotify"
    (.ok (.resolved attachable)) := by
  have ended : lucyRun.1.pool[0]? = some (.done (.ok (.resolved attachable))) :=
    resolved?_eq_some (by decide +kernel)
  refine (outcomes_told serializer_faithful (Config.play_run _ _) rfl ended ?_ none).1 "home"
    "spotify" rfl
  intro credential t same dated
  cases same
  cases dated
  decide

end Scenario

end Keyring

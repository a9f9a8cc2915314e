import Keyring.Api.Schemas
import Keyring.Python.JsonSpec
import Keyring.Storage.Times

/-!
# Answers as they travel

Every error becomes a problem body with a status, and an error that nobody expected
loses its text.  Of the answers that raised nothing, those of the two resolving routes
are rendered here.
-/

set_option autoImplicit false

namespace Keyring

open FixedWidth

/-- What goes over the wire. -/
structure HttpResponse where
  status : Nat
  mediaType : String
  headers : List (String × String)
  text : String

/-- How bodies and moments are written: by libraries. -/
structure Serializer where
  dumps : Json → String
  datetime : Instant → String

/-! ## Problems -/

def problemContentType : String := "application/problem+json"
def problemBaseUri : String := "https://keyring.invalid/problems"
def retryAfterHeader : String := "Retry-After"
def errorWithheld : String := "an unexpected error occurred; quote the request id when reporting it"

/-- `_STATUS_TITLES` -/
def statusTitle : Nat → Option String
  | 400 => some "Bad request"
  | 401 => some "Unauthorized"
  | 403 => some "Forbidden"
  | 404 => some "Not found"
  | 409 => some "Conflict"
  | 422 => some "Validation failed"
  | 429 => some "Too many requests"
  | 500 => some "Internal server error"
  | 503 => some "Service unavailable"
  | _ => none

/-- The titles are ASCII. -/
def slugFor (status : Nat) : String :=
  String.ofList (((statusTitle status).getD "error").toList.map fun c =>
    if c = ' ' then '-' else c.toLower)

structure Problem where
  type : String
  title : String
  status : Nat
  detail : String
  requestId : Option String

/-- `model_dump(exclude_none=True)` -/
def Problem.dump (problem : Problem) : Json :=
  .obj ([("type", .str problem.type), ("title", .str problem.title), ("status", .int problem.status),
    ("detail", .str problem.detail)] ++
      match problem.requestId with
      | some requestId => [("request_id", .str requestId)]
      | none => [])

section Responses

variable (s : Serializer) (floats : Rounding) (requestId : Option String)

def problemResponse (status : Nat) (detail : String) (headers : List (String × String)) :
    HttpResponse where
  status := status
  mediaType := problemContentType
  headers := headers
  text := s.dumps (Problem.dump {
    type := problemBaseUri ++ "/" ++ slugFor status
    title := (statusTitle status).getD "Error"
    status := status
    detail := detail
    requestId := requestId })

/-- `_DOMAIN_STATUS`: anything absent is a bug. -/
def domainStatus : Error → Option Nat
  | .authentication _ => some 401
  | .invalidGrant _ | .invalidOAuthState _ => some 400
  | .invalidEmail _ | .invalidPassword _ | .invalidProfileName _ | .invalidRole _ => some 422
  | .insufficientPermission _ | .reauthenticationRequired _ => some 403
  | .accountNotFound _ | .roleNotFound _ | .profileNotFound _ | .connectionNotFound _ => some 404
  | .accountExists _ | .roleExists _ | .roleInUse _ | .lastOwner _ | .profileExists _ => some 409
  | .limitExceeded _ => some 429
  | .credentialUnavailable _ | .vaultSealed _ | .preferencesUnavailable _ => some 503
  | .rateLimited _ _ | .integrity _ | .overflow _ | .value _ | .type _ | .recursion _ => none

/-- `int(retry_after) + 1` -/
def retryAfterSeconds (retryAfter : Instant) : Int := Int.tdiv retryAfter floats.one + 1

/-- The handlers of errors, the one for unexpected ones included. -/
def errorResponse : Error → HttpResponse
  | .rateLimited message retryAfter =>
      problemResponse s requestId 429 message
        [(retryAfterHeader, String.ofList (intText (retryAfterSeconds floats retryAfter)))]
  | e =>
      match domainStatus e with
      | some status => problemResponse s requestId status e.message []
      | none => problemResponse s requestId 500 errorWithheld []

/-! ## What a service is to attach, or to type -/

def jsonResponse (body : Json) : HttpResponse := ⟨200, "application/json", [], s.dumps body⟩

/-- A `dict[str, str]` -/
def stringsBody (fields : List (String × String)) : Json :=
  .obj (fields.map fun entry => (entry.1, .str entry.2))

def ResolvedCredential.body (credential : ResolvedCredential) : Json :=
  .obj [("service", .str credential.service), ("headers", stringsBody credential.headers),
    ("query_params", stringsBody credential.queryParams),
    ("expires_at", (credential.expiresAt.map fun moment => Json.str (s.datetime moment)).getD .null)]

def formSecretsBody (service : String) (fields : List (String × String)) : Json :=
  .obj [("service", .str service), ("fields", stringsBody fields)]

/-- How the app answers a request that resolves; the bodies of other replies are not
rendered. -/
def respond : Except Error Reply → Option HttpResponse
  | .error e => some (errorResponse s floats requestId e)
  | .ok (.resolved credential) => some (jsonResponse s (credential.body s))
  | .ok (.formSecrets service fields) => some (jsonResponse s (formSecretsBody service fields))
  | .ok _ => none

end Responses

/-! ## Reading what was written -/

/-- A moment in UTC: microseconds only where there are any, and `Z`. -/
def Wall.zulu (wall : Wall) : List Char :=
  wall.date.text (field 2 wall.hour ':' (field 2 wall.minute ':' (digits 2 wall.second ++
    ((if wall.microsecond = 0 then [] else '.' :: digits 6 wall.microsecond) ++ ['Z']))))

/-- What the fields of a body hold: a text, a number, nothing, or texts by name. -/
inductive BodyItem : Json → Prop where
  | text (written : String) : BodyItem (.str written)
  | number (n : Int) (fits : (Json.int n).fitsDigits = true) : BodyItem (.int n)
  | null : BodyItem .null
  | texts (fields : List (String × String)) (distinct : (fields.map (·.1)).Nodup) :
      BodyItem (stringsBody fields)

/-- The libraries write bodies that can be read again, and moments in UTC. -/
structure Serializer.Faithful (s : Serializer) : Prop where
  reads : ∀ fields : List (String × Json), (fields.map (·.1)).Nodup →
    (∀ entry ∈ fields, BodyItem entry.2) → Json.loads (s.dumps (.obj fields)) = some (.obj fields)
  datetimes : ∀ instant wall, utcWall? instant = some wall →
    s.datetime instant = String.ofList wall.zulu

end Keyring

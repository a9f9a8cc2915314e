import Keyring.Api.Errors

/-!
# The client of the resolving routes

`keyring_client/credentials.py`: what a call makes of the answer.  Each of keyring's
answers becomes a value or an error that points at the person
who can fix it.
-/

set_option autoImplicit false

namespace Keyring

/-- `KeyringRejectedError`, `CredentialNotFoundError`, `CredentialUnavailableError` and
`KeyringUnreachableError`. -/
inductive ClientError where
  | rejected (message : String)
  | notFound (message : String)
  | unavailable (message : String)
  | unreachable (message : String)
  deriving DecidableEq

namespace CredentialClient

def unreachable : String := "keyring could not be reached"
def rejected : String := "keyring did not accept the credentials presented"
def notFound : String := "keyring has no such connection for this profile"
def malformed : String := "keyring's answer could not be understood"
def unusable : String := "keyring could not make the stored credential usable"

/-- What to attach to one outgoing request. -/
structure ResolvedCredential where
  service : String
  headers : List (String × String)
  queryParams : List (String × String)
  expiresAt : Option Aware

structure FormSecrets where
  service : String
  fields : List (String × String)

/-- `_string_map`; `none` is Python's `None`, also where there is no such field. -/
def stringMap : Option Json → Option (List (String × String))
  | some (.obj fields) => fields.mapM fun entry => entry.2.asStr.map fun value => (entry.1, value)
  | _ => none

/-- `value.replace("Z", "+00:00")` -/
def withoutZulu (text : List Char) : List Char :=
  text.flatMap fun c => if c = 'Z' then ['+', '0', '0', ':', '0', '0'] else [c]

/-- `datetime.fromisoformat`, of a date and a time to the second, with six digits of
microseconds or none, and with an offset or none; its other forms are not modelled. -/
def fromIsoformat (text : List Char) : Option Datetime :=
  let after := text.drop 19
  let split := if after.head? = some '.' then after.splitAt 7 else ('.' :: List.replicate 6 '0', after)
  match readWall (text.take 19 ++ split.1) with
  | some (wall, []) =>
      if split.2 = [] then some (.naive wall)
      else (readOffset split.2).map fun offset => .aware ⟨wall, offset⟩
  | _ => none

/-- `_moment`: a naive timestamp is taken to be in UTC. -/
def moment : Option Json → Option Aware
  | some (.str value) =>
      match fromIsoformat (withoutZulu value.toList) with
      | some (.aware parsed) => some parsed
      | some (.naive wall) => some ⟨wall, utc⟩
      | none => none
  | _ => none

/-- `body.get(name)` -/
def fieldOf (body : List (String × Json)) (name : String) : Option Json := body.lookup name

def detailOf (response : HttpResponse) : String :=
  match Json.loads response.text with
  | some (.obj body) =>
      match fieldOf body "detail" with
      | some (.str detail) => if detail = "" then unusable else detail
      | _ => unusable
  | _ => unusable

/-- `_get`, from the answer on; `none` is an `HTTPError`. -/
def get : Option HttpResponse → Except ClientError (List (String × Json))
  | none => .error (.unreachable unreachable)
  | some response =>
      if response.status = 401 then .error (.rejected rejected)
      else if response.status = 404 then .error (.notFound notFound)
      else if response.status = 503 then .error (.unavailable (detailOf response))
      else if 400 ≤ response.status ∧ response.status ≤ 599 then .error (.unreachable unreachable)
      else
        match Json.loads response.text with
        | some (.obj body) => .ok body
        | _ => .error (.unreachable malformed)

def resolveCredential (service : String) (answer : Option HttpResponse) :
    Except ClientError ResolvedCredential := do
  let body ← get answer
  match stringMap (fieldOf body "headers"),
    stringMap (some ((fieldOf body "query_params").getD (.obj []))) with
  | some headers, some queryParams =>
      .ok ⟨service, headers, queryParams, moment (fieldOf body "expires_at")⟩
  | _, _ => .error (.unreachable malformed)

/-- No fields at all are as bad as none. -/
def resolveFormSecrets (service : String) (answer : Option HttpResponse) :
    Except ClientError FormSecrets := do
  let body ← get answer
  match stringMap (fieldOf body "fields") with
  | some (field :: fields) => .ok ⟨service, field :: fields⟩
  | _ => .error (.unreachable malformed)

end CredentialClient

end Keyring

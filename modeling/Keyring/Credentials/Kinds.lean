import Keyring.Credentials.Service

/-!
# How each kind of credential is consumed

What an API key, an OAuth token pair and a form login turn into: headers, query
parameters, or the values of a login form.
-/

set_option autoImplicit false

namespace Keyring

open Interleave

def bearerHeaderName : String := "Authorization"
def defaultApiKeyHeader : String := "Authorization"
def defaultApiKeyTemplate : String := "Bearer {value}"

/-- `bool(value)`; a float that was written is zero when all its digits are. -/
def Json.truthy : Json → Bool
  | .null => false
  | .bool value => value
  | .int value => value ≠ 0
  | .float written =>
      ((written.toList.takeWhile fun c => c ≠ 'e' && c ≠ 'E').any fun c => c.isDigit && c ≠ '0') ||
        written.toList.any fun c => c = 'I' || c = 'N'
  | .str value => !value.isEmpty
  | .arr items => !items.isEmpty
  | .obj fields => !fields.isEmpty

section ApiKey

variable (env : Env) (secret : Secret)

def inQuery : Bool := (secret.get "in_query").any Json.truthy

/-- `_apply_template`: neither the template nor the key is in the message. -/
def applyTemplate (template value : String) : Except Error String :=
  match env.rendering.format template value with
  | some formatted => .ok formatted
  | none => .error (.credentialUnavailable "stored credential has a malformed header template")

def apiKeyHeaders : Except Error (List (String × String)) :=
  match (secret.get "header").getD (.str defaultApiKeyHeader),
    (secret.get "template").getD (.str defaultApiKeyTemplate) with
  | .str header, .str template =>
      if inQuery secret then .ok []
      else do
        let value ← requireField env.text secret "api_key"
        let formatted ← applyTemplate env template value
        .ok [(header, formatted)]
  | _, _ =>
      .error (.credentialUnavailable "stored credential has a malformed header configuration")

def apiKeyQueryParams : Except Error (List (String × String)) :=
  if inQuery secret then
    match (secret.get "query_name").getD (.str "api_key") with
    | .str name => do
        let value ← requireField env.text secret "api_key"
        .ok [(name, value)]
    | _ =>
        .error (.credentialUnavailable "stored credential has a malformed query parameter name")
  else .ok []

end ApiKey

namespace HttpAuth

variable (env : Env)

def headers : HttpAuth → Service env (List (String × String))
  | apiKey secret => Prog.ofExcept (apiKeyHeaders env secret)
  | oauth2 profile connection secret needsRefresh => do
      let current ← (if needsRefresh then CredentialService.refresh env profile connection secret
        else pure secret)
      Prog.ofExcept (bearerHeader env.text current)

def queryParams : HttpAuth → Except Error (List (String × String))
  | apiKey secret => apiKeyQueryParams env secret
  | oauth2 _ _ _ _ => .ok []

end HttpAuth

/-- The values to type into a login form, with a code made at this moment. -/
def formFields (env : Env) (secret : Secret) : Service env (List (String × String)) := do
  let username ← Prog.ofExcept (requireField env.text secret "username")
  let password ← Prog.ofExcept (requireField env.text secret "password")
  let values := [("username", username), ("password", password)]
  match (secret.get "totp_seed").bind Json.asStr with
  | none | some "" => pure values
  | some seed => do
      let now ← clockNow
      match env.rendering.totpCode seed now with
      | some code => pure (values ++ [("totp", code)])
      | none => throw (.credentialUnavailable "stored TOTP seed could not be used")

end Keyring

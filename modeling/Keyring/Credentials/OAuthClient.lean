import Keyring.Python.Json
import Keyring.World

/-!
# Talking to a provider's token endpoint

What is accepted from a provider and how it is normalized into the secret that
is kept.
-/

set_option autoImplicit false

namespace Keyring

open Interleave

def defaultExpiresInSeconds : Int := 3600

/-- `int(raw)` of a string of digits.  Not every digit is a decimal one. -/
def parseInt (text : Text) (raw : String) : Except Error Int :=
  match raw.toList.mapM text.decimal with
  | none => .error (.value s!"invalid literal for int() with base 10: {repr text raw}")
  | some digits =>
      if digits.length > maxStrDigits then
        .error (.value s!"Exceeds the limit ({maxStrDigits} digits) for integer string conversion")
      else .ok (digits.foldl (fun n digit => 10 * n + digit) 0 : Nat)

def isDigitString (text : Text) (raw : String) : Bool :=
  !raw.isEmpty && raw.toList.all text.isDigit

/-- Seconds until expiry, defaulting when the provider does not say.  A Python
`bool` is an `int`. -/
def expiresIn (text : Text) (body : Secret) : Except Error Json :=
  let default : Json := .int defaultExpiresInSeconds
  match body.get "expires_in" with
  | some (.int n) => .ok (if n > 0 then .int n else default)
  | some (.bool b) => .ok (if b then .bool b else default)
  | some (.str raw) =>
      if isDigitString text raw then do
        let n ← parseInt text raw
        .ok (if n > 0 then .int n else default)
      else .ok default
  | _ => .ok default

/-- `response.json()` -/
def responseJson (nesting : Nat) (body : Option Json) : Except JsonError Json :=
  match body with
  | none => .error .value
  | some value => match value.flaw nesting with
      | some e => .error e
      | none => .ok value

theorem responseJson_ok {nesting : Nat} {body : Option Json} {value : Json} :
    responseJson nesting body = .ok value ↔ body = some value ∧ value.flaw nesting = none := by
  cases body with
  | none => simp [responseJson]
  | some written =>
      rw [responseJson]
      cases stopped : written.flaw nesting with
      | some e => exact iff_of_false (fun same => by cases same) fun both => by grind
      | none => exact ⟨fun same => by cases same; exact ⟨rfl, stopped⟩, fun both => by grind⟩

theorem responseJson_error {nesting : Nat} {body : Option Json} {e : JsonError} :
    responseJson nesting body = .error e ↔
      body = none ∧ e = .value ∨ ∃ value, body = some value ∧ value.flaw nesting = some e := by
  cases body with
  | none => simp [responseJson, eq_comm]
  | some written =>
      rw [responseJson]
      cases stopped : written.flaw nesting <;> simp [stopped]

/-- The `RecursionError` of a body; nothing catches it. -/
def nestedError (container : String) : Error :=
  .recursion s!"maximum recursion depth exceeded while decoding a JSON {container} from a unicode string"

def normalizeToken (text : Text) (nesting : Nat) (service : String) (body : Option Json) :
    Except Error Secret :=
  match responseJson nesting body with
  | .error .value =>
      .error (.credentialUnavailable s!"{service} returned a token response that is not JSON")
  | .error (.recursion container) => .error (nestedError container)
  | .ok (.obj fields) =>
      match Secret.get fields "access_token" with
      | some (.str accessToken) => do
          let lifetime ← expiresIn text fields
          let kept (field : String) : Secret :=
            match Secret.get fields field with
            | some (.str value) => [(field, .str value)]
            | _ => []
          .ok ([("access_token", .str accessToken),
            ("token_type", (Secret.get fields "token_type").getD (.str "Bearer")),
            ("expires_in", lifetime)] ++ kept "refresh_token" ++ kept "scope")
      | _ => .error (.credentialUnavailable s!"{service} returned no access token")
  | .ok _ => .error (.credentialUnavailable s!"{service} returned no access token")

def errorCode (nesting status : Nat) (body : Option Json) : Except Error String :=
  match responseJson nesting body with
  | .error (.recursion container) => .error (nestedError container)
  | .ok (.obj fields) =>
      match Secret.get fields "error" with
      | some (.str code) => .ok code
      | _ => .ok s!"HTTP {status}"
  | _ => .ok s!"HTTP {status}"

namespace TokenEndpoint

variable (env : Env)

def post (provider : OAuthProvider) (form : List (String × String)) : Service env Secret := do
  let sent := form ++ [("client_id", provider.clientId), ("client_secret", provider.clientSecret)]
  match ← ask (.post provider.service sent) with
  | .unreachable =>
      throw (.credentialUnavailable s!"could not reach the {provider.service} token endpoint")
  | .answered status body =>
      if status ≥ 400 then do
        let code ← Prog.ofExcept (errorCode env.jsonNesting status body)
        throw (.credentialUnavailable
          (s!"{provider.service} refused the request ({code}); " ++
            "the connection must be re-authorised"))
      else Prog.ofExcept (normalizeToken env.text env.jsonNesting provider.service body)

def exchangeCode (provider : OAuthProvider) (code redirectUri : String) : Service env Secret :=
  post env provider
    [("grant_type", "authorization_code"), ("code", code), ("redirect_uri", redirectUri)]

/-- A response without a refresh token keeps the one that was sent. -/
def refresh (provider : OAuthProvider) (refreshToken : String) : Service env Secret := do
  let renewed ← post env provider
    [("grant_type", "refresh_token"), ("refresh_token", refreshToken)]
  pure (renewed.setDefault "refresh_token" (.str refreshToken))

end TokenEndpoint

end Keyring

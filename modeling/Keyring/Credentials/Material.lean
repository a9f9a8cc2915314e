import Keyring.Credentials.Kinds
import Keyring.Python.Format
import Keyring.Python.Base32

/-!
# Using stored material

What `headers`, `query_params` and `fields` return or raise, with the exception
that a caller sees and everything its chain still holds: a header template is
interpreted, a TOTP seed is decoded and a code is made from it.
-/

set_option autoImplicit false

namespace Keyring

open Interleave

/-- How a use of stored material fails: with the `CredentialUnavailableError` that it
documents, and the texts its cause and context lead to, or with anything else. -/
inductive Failure where
  | unavailable (message : String) (chained : List String)
  | escaped (e : Exception)
  deriving DecidableEq

/-- A domain error that is raised outside any handler. -/
def Error.failure : Error → Failure
  | .credentialUnavailable message => .unavailable message []
  | e => .escaped ⟨.other, e.message, []⟩

/-! ## Time-based one-time passwords -/

def defaultDigits : Nat := 6
def defaultPeriodSeconds : Int := 30

/-- A unix time as a float gives it. -/
inductive UnixTime where
  | finite (time : Instant)
  | infinite

/-- `int(unix_time // period_seconds)`; no part of an infinite time is a number. -/
def UnixTime.counter : UnixTime → Except Exception Int
  | .finite time => .ok (time / seconds defaultPeriodSeconds)
  | .infinite => .error ⟨.value, "cannot convert float NaN to integer", []⟩

def outOfFormat : Exception := ⟨.struct, "int too large to convert", []⟩

/-- `struct.pack(">Q", counter)` -/
def structPack (counter : Int) : Except Exception (List UInt8) :=
  if 0 ≤ counter then (toBytes 8 counter.toNat).mapError fun _ => outOfFormat
  else .error outOfFormat

/-- `struct.unpack(">I", bytes)[0]` -/
def structUnpack (bytes : List UInt8) : Except Exception Nat :=
  if bytes.length = 4 then .ok (bytes.foldl (fun n byte => n * 256 + byte.toNat) 0)
  else .error ⟨.struct, "unpack requires a buffer of 4 bytes", []⟩

def zfill (width : Nat) (digits : String) : String :=
  String.ofList (List.replicate (width - digits.toList.length) '0') ++ digits

namespace Python

variable (python : Python)

def upperChar (c : Char) : List Char := if inAscii c then [c.toUpper] else python.upper c

/-- `seed.replace(" ", "").replace("-", "").upper()` -/
def cleanSeed (seed : String) : List Char :=
  ((seed.toList.filter (· ≠ ' ')).filter (· ≠ '-')).flatMap python.upperChar

/-- With the padding restored that authenticator UIs omit. -/
def padSeed (seed : String) : List Char :=
  let cleaned := python.cleanSeed seed
  cleaned ++ List.replicate ((8 - cleaned.length % 8) % 8) '='

def decodeSeed (seed : String) : Except Exception (List UInt8) :=
  match b32decode (python.padSeed seed) with
  | .ok key => .ok key
  | .error e =>
      if e.kind = .value then
        .error (Exception.during ⟨.value, "TOTP seed is not valid base32", []⟩ e)
      else .error e

/-- The dynamic truncation of a digest to decimal digits. -/
def truncateDigest (digest : Vector UInt8 20) : Except Exception String := do
  let offset := (digest[19] &&& 0x0f).toNat
  let word ← structUnpack ((digest.toList.drop offset).take 4)
  .ok (zfill defaultDigits (toString ((word &&& 0x7fffffff) % 10 ^ defaultDigits)))

def totpCode (seed : String) (time : UnixTime) : Except Exception String := do
  let key ← python.decodeSeed seed
  let counter ← time.counter
  let message ← structPack counter
  truncateDigest (python.hmacSha1 key message)

/-! ## The credential kinds -/

/-- `_apply_template`: raised below the handler, so nothing is attached. -/
def applyTemplate (template value : String) : Except Failure String :=
  match python.formatted template value with
  | .ok formatted => .ok formatted
  | .error e =>
      if e.isLookup then
        .error (.unavailable "stored credential has a malformed header template" [])
      else .error (.escaped e)

def require (secret : Secret) (field : String) : Except Failure String :=
  (requireField python.text secret field).mapError Error.failure

end Python

section Kinds

variable (python : Python) (secret : Secret)

def ApiKeyCredential.headers : Except Failure (List (String × String)) :=
  match (secret.get "header").getD (.str defaultApiKeyHeader),
    (secret.get "template").getD (.str defaultApiKeyTemplate) with
  | .str header, .str template =>
      if inQuery secret then .ok []
      else do
        let value ← python.require secret "api_key"
        let formatted ← python.applyTemplate template value
        .ok [(header, formatted)]
  | _, _ =>
      .error (.unavailable "stored credential has a malformed header configuration" [])

def ApiKeyCredential.queryParams : Except Failure (List (String × String)) :=
  if inQuery secret then
    match (secret.get "query_name").getD (.str "api_key") with
    | .str name => do
        let value ← python.require secret "api_key"
        .ok [(name, value)]
    | _ =>
        .error (.unavailable "stored credential has a malformed query parameter name" [])
  else .ok []

/-- `OAuth2Credential.headers` when the stored token needs no refresh. -/
def OAuth2Credential.headers : Except Failure (List (String × String)) :=
  match (secret.get "token_type").getD (.str "Bearer") with
  | .str tokenType => do
      let accessToken ← python.require secret "access_token"
      .ok [(bearerHeaderName, s!"{tokenType} {accessToken}")]
  | _ => .error (.unavailable "stored credential has a malformed token type" [])

/-- `_code`; the cause of the error is the `ValueError` that it replaces. -/
def PasswordCredential.code (seed : String) (now : UnixTime) : Except Failure String :=
  match python.totpCode seed now with
  | .ok code => .ok code
  | .error e =>
      if e.kind = .value then .error (.unavailable "stored TOTP seed could not be used" e.texts)
      else .error (.escaped e)

def PasswordCredential.fields (now : UnixTime) : Except Failure (List (String × String)) := do
  let username ← python.require secret "username"
  let password ← python.require secret "password"
  let values := [("username", username), ("password", password)]
  match (secret.get "totp_seed").bind Json.asStr with
  | none | some "" => .ok values
  | some seed => do
      let code ← PasswordCredential.code python seed now
      .ok (values ++ [("totp", code)])

end Kinds

end Keyring

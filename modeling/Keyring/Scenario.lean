import Keyring.Calls

/-!
# A small deployment

A concrete configuration and a few accounts, on which runs can be executed.  The
hasher writes the password so that no two passwords share a hash.
-/

set_option autoImplicit false

namespace Keyring.Scenario

open Relational

def asciiText : Text where
  lower s := String.ofList (s.toList.map Char.toLower)
  isPrintable c := c.toNat < 0x7f
  isDigit c := c.isDigit
  decimal c := if c.isDigit then some (c.toNat - '0'.toNat) else none

/-- Each character after a dot, so that the salt cannot continue a password. -/
def spell (password : String) : List Char := password.toList.flatMap fun c => ['.', c]

def hasher : PasswordHasher where
  hash password salt := String.ofList (spell password ++ '$' :: salt.toList)
  verify storedHash password := (spell password ++ ['$']).isPrefixOf storedHash.toList
  needsRehash _ := false

/-! ## Tokens -/

/-- Fields one after the other, each spelled and closed by a dollar sign. -/
def spellFields (fields : List (List Char)) : List Char :=
  fields.flatMap fun field => field.flatMap (fun c => ['.', c]) ++ ['$']

def readFields : (field written : List Char) → List (List Char)
  | field, '.' :: c :: rest => readFields (field ++ [c]) rest
  | field, '$' :: rest => field :: readFields [] rest
  | _, _ => []

theorem readFields_spelled (field more : List Char) (rest : List Char) :
    readFields field (more.flatMap (fun c => ['.', c]) ++ '$' :: rest) =
      (field ++ more) :: readFields [] rest := by
  induction more generalizing field with
  | nil => simp [readFields]
  | cons c more ih => simp [readFields, ih]

theorem readFields_spellFields (fields : List (List Char)) :
    readFields [] (spellFields fields) = fields := by
  induction fields with
  | nil => rfl
  | cons field fields ih =>
      have first := readFields_spelled [] field (spellFields fields)
      rw [ih] at first
      simpa [spellFields] using first

def intChars : Int → List Char
  | .ofNat n => '+' :: Nat.toDigits 10 n
  | .negSucc n => '-' :: Nat.toDigits 10 n

def readInt : List Char → Int
  | '-' :: digits => .negSucc (Nat.ofDigitChars 10 digits 0)
  | _ :: digits => .ofNat (Nat.ofDigitChars 10 digits 0)
  | [] => 0

theorem readInt_intChars (n : Int) : readInt (intChars n) = n := by
  cases n <;> simp [intChars, readInt, Nat.ofDigitChars_ten_toDigits]

def encodeClaims (claims : TokenClaims) : String :=
  String.ofList (spellFields [claims.iss.toList, claims.sub.toList, claims.aud.toList,
    intChars claims.iat, intChars claims.exp])

def decodeClaims (token : String) : Option TokenClaims :=
  match readFields [] token.toList with
  | [iss, sub, aud, iat, exp] => some {
      iss := String.ofList iss
      sub := String.ofList sub
      aud := String.ofList aud
      iat := readInt iat
      exp := readInt exp }
  | _ => none

theorem decodeClaims_encodeClaims (claims : TokenClaims) :
    decodeClaims (encodeClaims claims) = some claims := by
  simp [decodeClaims, encodeClaims, readFields_spellFields, readInt_intChars]

def settings : Settings where
  sessionTtlSeconds := 1209600
  sessionAbsoluteTtlSeconds := 7776000
  inviteTtlSeconds := 604800
  resetTtlSeconds := 3600
  maxSessionsPerAccount := 20
  lockoutThreshold := 2
  lockoutSeconds := seconds 900
  loginAttempts := 10
  loginWindowSeconds := seconds 300
  resetAttempts := 5
  resetWindowSeconds := seconds 3600
  inviteAttempts := 10
  inviteWindowSeconds := seconds 3600
  maxMessagesPerAddressPerWindow := 5
  emailWindowSeconds := seconds 3600
  oauthStateTtlSeconds := 600
  oauthRefreshMarginSeconds := 120
  maxProfilesPerAccount := 20
  maxConnectionsPerProfile := 50
  issuer := "http://127.0.0.1:8001"
  accessTokenTtlSeconds := 900
  oauthRedirectUri := "http://127.0.0.1:8001/v1/oauth/callback"
  exchangeAudiences := [("lucy-api", ["user.home", "user.mail"]), ("user.home", ["user.mail"])]
  offlineGrantMaxTtlSeconds := 2592000
  maxOfflineGrantsPerProfile := 100
  lockout_pos := by decide
  ttls_pos := by decide
  absolute_ge := by decide
  attempts_pos := by decide
  windows_pos := by decide
  caps_pos := by decide
  delegation_pos := by decide
  access_gt := by decide

def provider : OAuthProvider where
  service := "spotify"
  authorizationUrl redirectUri state := "https://provider/authorize?" ++ redirectUri ++ state
  clientId := "client"
  clientSecret := "secret"
  scopes := ["read"]

def deployment : Env where
  text := asciiText
  settings := settings
  hasher := hasher
  jwt := ⟨encodeClaims, decodeClaims⟩
  rendering := ⟨fun _ value => some ("Bearer " ++ value), fun _ _ => some "000000"⟩
  hashToken token := "#" ++ token
  master := some "master"
  floats := .exact 1000000 (by decide)
  jsonNesting := 1000
  providers := [provider]
  maxAuditEntries := 10000

theorem deployment_decode (claims : TokenClaims) :
    deployment.jwt.decode (encodeClaims claims) = some claims := by
  simp only [deployment, decodeClaims_encodeClaims]

theorem deployment_encode (claims : TokenClaims) :
    deployment.jwt.encode claims = encodeClaims claims := rfl

/-! ## Accounts and worlds -/

def person (accountId email password : String) : AccountRow where
  accountId := accountId
  email := email
  passwordHash := hasher.hash password "salt"
  createdAt := 0
  updatedAt := 0
  status := .active
  failedAttempts := 0
  lockedUntil := none

def builtin (entry : String × Finset Permission × String) : Role where
  name := entry.1
  permissions := entry.2.1
  description := entry.2.2
  builtin := true
  createdAt := none
  updatedAt := none

def alice : AccountRow := person "alice" "alice@mail.org" "correct horse"
def bob : AccountRow := person "bob" "bob@mail.org" "battery staple"

theorem builtin_distinct : ((builtinRoles.map builtin).map Role.name).Nodup := by decide

/-- Two accounts with the roles they are given. -/
def twoAccounts (aliceRole bobRole : String) : Db :=
  { Db.empty with
    accounts := ⟨[alice, bob], by decide⟩
    accountRoles := ⟨[⟨"alice", aliceRole, 0⟩, ⟨"bob", bobRole, 0⟩], by simp [AccountRole.key]⟩
    roles := ⟨builtinRoles.map builtin, builtin_distinct⟩ }

def carol : AccountRow := person "carol" "carol@mail.org" "slide trombone"

def threeAccounts (aliceRole bobRole carolRole : String) : Db :=
  { twoAccounts aliceRole bobRole with
    accounts := ⟨[alice, bob, carol], by decide⟩
    accountRoles := ⟨[⟨"alice", aliceRole, 0⟩, ⟨"bob", bobRole, 0⟩, ⟨"carol", carolRole, 0⟩],
      by simp [AccountRole.key]⟩ }

def worldOf (db : Db) : World where
  db := db
  clock := 0
  monotonic := 0
  attempts := .empty
  flows := .empty
  renewing := []

/-- What a step is given at instant `now`. -/
def given (now : Instant) (drawn : String) : Input where
  now := now
  monotonic := now
  drawn := drawn
  entropy := ⟨drawn, drawn, drawn⟩
  preferences := .ok ⟨1209600, 7776000, 20, true, false, false, some false⟩
  response := .unreachable

def owner : Actor := ⟨"alice", Finset.univ, false⟩

/-- Alice owns the deployment and Bob is a member. -/
def office : World := worldOf (twoAccounts "owner" "member")

/-! ## A connected profile -/

def homeProfile : ProfileRow := ⟨"prof_home", "bob", "home", 0, 0⟩

theorem homeProfile_alone : ([homeProfile].map ProfileRow.key).Nodup := by simp

/-- Bob's connection, whose access token ends after an hour. -/
def bobSpotify : ConnectionRow where
  accountId := "bob"
  profileName := "home"
  service := "spotify"
  kind := .oauth2AuthorizationCode
  status := .active
  createdAt := 0
  updatedAt := 0
  expiresAt := some (seconds 3600)

def tokenPair (access refresh : String) : Secret :=
  [("access_token", .str access), ("token_type", .str "Bearer"), ("expires_in", .int 3600),
    ("refresh_token", .str refresh)]

def bobSecret : SecretRow where
  accountId := "bob"
  profileName := "home"
  service := "spotify"
  envelope := sealSecret (tokenPair "access0" "refresh0") "master" ⟨"k", "kn", "pn"⟩
  createdAt := 0
  updatedAt := 0

def connectedOffice : World :=
  worldOf { twoAccounts "owner" "member" with
    profiles := ⟨[homeProfile], homeProfile_alone⟩
    connections := ⟨[bobSpotify], by simp⟩
    secrets := ⟨[bobSecret], by simp⟩ }

theorem office_foreignKeys : ForeignKeys office.db := by
  constructor <;> decide +kernel

/-! ## Outcomes -/

def returned {env : Env} : Option (Service env Answer) → Bool
  | some (.done (.ok _)) => true
  | _ => false

theorem returned_some {env : Env} {found : Option (Service env Answer)}
    (ok : returned found = true) : ∃ answer, found = some (.done (.ok answer)) := by
  unfold returned at ok
  split at ok
  · exact ⟨_, rfl⟩
  · cases ok

end Keyring.Scenario

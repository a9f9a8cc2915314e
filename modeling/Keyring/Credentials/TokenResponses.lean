import Keyring.Credentials.RenewalSteps
import Keyring.Scenario

/-!
# What a provider may answer

What is made of a token response, whatever JSON it is: which fields are kept,
which lifetime it declares, and what is stored of it.
-/

set_option autoImplicit false

namespace Keyring

open Interleave Relational

variable {env : Env}

/-! ## The fields that are kept -/

def Json.isStr : Json → Bool
  | .str _ => true
  | _ => false

/-- What a response becomes when it is accepted. -/
structure Normalized (text : Text) (fields secret : Secret) : Prop where
  access : ∃ token, fields.get "access_token" = some (.str token) ∧
    secret.get "access_token" = some (.str token)
  tokenType : secret.get "token_type" = some ((fields.get "token_type").getD (.str "Bearer"))
  lifetime : ∃ value, expiresIn text fields = .ok value ∧ secret.get "expires_in" = some value
  refresh : secret.get "refresh_token" = (fields.get "refresh_token").filter Json.isStr
  scope : secret.get "scope" = (fields.get "scope").filter Json.isStr

/-- An optional field is kept when it is a string. -/
def keptField (fields : Secret) (field : String) : Secret :=
  match fields.get field with
  | some (.str value) => [(field, .str value)]
  | _ => []

theorem keptField_get (fields : Secret) (field wanted : String) :
    (keptField fields field).get wanted =
      if field = wanted then (fields.get field).filter Json.isStr else none := by
  unfold keptField
  by_cases same : field = wanted
  · rw [if_pos same]
    cases fields.get field with
    | none => rfl
    | some value => cases value <;> simp [Secret.get, same] <;> rfl
  · rw [if_neg same]
    cases fields.get field with
    | none => rfl
    | some value => cases value <;> simp [Secret.get, same]

theorem Secret.get_append (first second : Secret) (field : String) :
    Secret.get (first ++ second) field = (first.get field).or (second.get field) := by
  simp only [Secret.get, List.find?_append]
  cases first.find? (·.1 = field) <;> rfl

theorem Secret.get_cons (key field : String) (value : Json) (rest : Secret) :
    Secret.get ((key, value) :: rest) field =
      if key = field then some value else rest.get field := by
  by_cases same : key = field <;> simp [Secret.get, same]

theorem normalizeToken_ok {text : Text} {nesting : Nat} {service : String} {body : Option Json}
    {secret : Secret} (accepted : normalizeToken text nesting service body = .ok secret) :
    ∃ fields, body = some (.obj fields) ∧ Normalized text fields secret := by
  unfold normalizeToken at accepted
  split at accepted
  · cases accepted
  · cases accepted
  · rename_i fields written
    refine ⟨fields, (responseJson_ok.mp written).1, ?_⟩
    split at accepted
    · rename_i token found
      cases lifetime : expiresIn text fields with
      | error e =>
          rw [lifetime] at accepted
          cases accepted
      | ok value =>
          rw [lifetime] at accepted
          cases accepted
          change Normalized text fields
            ([("access_token", .str token), ("token_type", _), ("expires_in", value)] ++
              keptField fields "refresh_token" ++ keptField fields "scope")
          constructor
          · exact ⟨token, found, rfl⟩
          · rfl
          · exact ⟨value, lifetime, rfl⟩
          · simp [Secret.get_cons, Secret.get_append, keptField_get]
          · simp [Secret.get_cons, Secret.get_append, keptField_get]
    · cases accepted
  · cases accepted

/-- Why a response is refused: it lacks what is needed, it is nested too deeply, or its
lifetime cannot be read. -/
inductive Refusal (text : Text) (nesting : Nat) (body : Option Json) : Error → Prop where
  | lacking {message : String} (lacks : ∀ fields token,
        responseJson nesting body = .ok (.obj fields) →
          Secret.get fields "access_token" ≠ some (.str token))
      (shallow : ∀ container, responseJson nesting body ≠ .error (.recursion container)) :
      Refusal text nesting body (.credentialUnavailable message)
  | nested {container : String} (deep : responseJson nesting body = .error (.recursion container)) :
      Refusal text nesting body (nestedError container)
  | lifetime {e : Error} {fields : Secret} {token : String}
      (read : responseJson nesting body = .ok (.obj fields))
      (held : Secret.get fields "access_token" = some (.str token))
      (failed : expiresIn text fields = .error e) : Refusal text nesting body e

theorem normalizeToken_error {text : Text} {nesting : Nat} {service : String}
    {body : Option Json} {e : Error}
    (refused : normalizeToken text nesting service body = .error e) :
    Refusal text nesting body e := by
  unfold normalizeToken at refused
  split at refused
  · next unread =>
      cases refused
      exact .lacking (by simp [unread]) (by simp [unread])
  · next deep =>
      cases refused
      exact .nested deep
  · next fields read =>
      split at refused
      · next token held =>
          cases lifetime : expiresIn text fields with
          | error e' =>
              rw [lifetime] at refused
              cases refused
              exact .lifetime read held lifetime
          | ok value =>
              rw [lifetime] at refused
              cases refused
      · next lacks =>
          cases refused
          refine .lacking (fun fields' token same => ?_) (by simp [read])
          cases read.symm.trans same
          exact lacks token
  · next other read =>
      cases refused
      refine .lacking (fun fields token same => ?_) (by simp [read])
      cases read.symm.trans same
      exact absurd rfl (other fields)

/-! ## The lifetime that is declared -/

/-- The number that a string of decimal digits writes. -/
def decimalValue (text : Text) (raw : String) : Nat :=
  raw.toList.foldl (fun n c => 10 * n + (text.decimal c).getD 0) 0

/-- What `int` makes of a string that passed `str.isdigit` is a number. -/
def Decimal (text : Text) (raw : String) : Prop :=
  (∀ c ∈ raw.toList, (text.decimal c).isSome) ∧ raw.length ≤ maxStrDigits

/-- The seconds of a declared lifetime that can be read. -/
def declaredSeconds (text : Text) : Option Json → Int
  | some (.int n) => if n > 0 then n else defaultExpiresInSeconds
  | some (.bool true) => 1
  | some (.str raw) =>
      if isDigitString text raw = true ∧ decimalValue text raw > 0 then decimalValue text raw
      else defaultExpiresInSeconds
  | _ => defaultExpiresInSeconds

/-- A string that only looks like digits is no lifetime, and neither is one past
what `int` converts. -/
def ReadableLifetime (text : Text) (declared : Option Json) : Prop :=
  ∀ raw, declared = some (.str raw) → isDigitString text raw = true → Decimal text raw

theorem declaredSeconds_pos (text : Text) (declared : Option Json) :
    0 < declaredSeconds text declared := by
  unfold declaredSeconds
  split
  · split
    · assumption
    · decide
  · decide
  · split
    · rename_i positive
      exact Int.natCast_pos.mpr positive.2
    · decide
  · decide

theorem mapM_decimal (text : Text) (digits : List Char) :
    digits.mapM text.decimal =
      if digits.all (fun c => (text.decimal c).isSome) then
        some (digits.map fun c => (text.decimal c).getD 0)
      else none := by
  induction digits with
  | nil => simp
  | cons c digits ih =>
      rw [List.mapM_cons, ih, List.all_cons, List.map_cons]
      cases text.decimal c with
      | none => rfl
      | some n => cases digits.all fun c => (text.decimal c).isSome <;> rfl

theorem parseInt_decimal {text : Text} {raw : String} (decimal : Decimal text raw) :
    parseInt text raw = .ok (decimalValue text raw : Int) := by
  obtain ⟨each, short⟩ := decimal
  unfold parseInt
  rw [mapM_decimal, if_pos (List.all_eq_true.mpr each)]
  dsimp only
  rw [List.length_map, if_neg (by rw [String.length_toList]; omega), List.foldl_map]
  rfl

theorem parseInt_refuses {text : Text} {raw : String} (awkward : ¬ Decimal text raw) :
    ∃ message, parseInt text raw = .error (.value message) := by
  unfold parseInt
  rw [mapM_decimal]
  by_cases each : ∀ c ∈ raw.toList, (text.decimal c).isSome
  · rw [if_pos (List.all_eq_true.mpr each)]
    dsimp only
    have long : raw.length > maxStrDigits := by
      by_contra short
      exact awkward ⟨each, by omega⟩
    rw [List.length_map, if_pos (by rwa [String.length_toList])]
    exact ⟨_, rfl⟩
  · rw [if_neg (mt List.all_eq_true.mp each)]
    exact ⟨_, rfl⟩

/-- A lifetime that can be read is the one that was declared, as an `int` or a `bool`. -/
theorem expiresIn_ok {text : Text} {fields : Secret}
    (readable : ReadableLifetime text (fields.get "expires_in")) :
    ∃ value, expiresIn text fields = .ok value ∧ ∀ secret : Secret,
      secret.get "expires_in" = some value →
        expirySeconds secret = some (declaredSeconds text (fields.get "expires_in")) := by
  have counted : ∀ n : Int, ∀ secret : Secret, secret.get "expires_in" = some (.int n) →
      expirySeconds secret = some n := by
    intro n secret kept
    rw [expirySeconds, kept]
  have assumed : ∀ secret : Secret, secret.get "expires_in" = some (.int defaultExpiresInSeconds) →
      expirySeconds secret = some defaultExpiresInSeconds := counted _
  unfold expiresIn
  generalize fields.get "expires_in" = declared at readable
  cases declared with
  | none => exact ⟨_, rfl, assumed⟩
  | some value =>
      cases value with
      | int n =>
          refine ⟨_, rfl, fun secret kept => ?_⟩
          rw [declaredSeconds]
          by_cases positive : n > 0
          · rw [if_pos positive] at kept ⊢
            exact counted n secret kept
          · rw [if_neg positive] at kept ⊢
            exact assumed secret kept
      | bool b =>
          refine ⟨_, rfl, fun secret kept => ?_⟩
          cases b with
          | true =>
              rw [expirySeconds, kept]
              rfl
          | false => exact assumed secret kept
      | str raw =>
          dsimp only
          by_cases digits : isDigitString text raw = true
          · rw [if_pos digits, parseInt_decimal (readable raw rfl digits)]
            refine ⟨_, rfl, fun secret kept => ?_⟩
            rw [declaredSeconds]
            by_cases positive : decimalValue text raw > 0
            · rw [if_pos ⟨digits, positive⟩]
              rw [if_pos (Int.natCast_pos.mpr positive)] at kept
              exact counted _ secret kept
            · rw [if_neg (fun both => positive both.2)]
              rw [if_neg (by omega)] at kept
              exact assumed secret kept
          · rw [if_neg digits, declaredSeconds, if_neg (fun both => digits both.1)]
            exact ⟨_, rfl, assumed⟩
      | null => exact ⟨_, rfl, assumed⟩
      | float written => exact ⟨_, rfl, assumed⟩
      | arr items => exact ⟨_, rfl, assumed⟩
      | obj inner => exact ⟨_, rfl, assumed⟩

theorem expiresIn_refuses {text : Text} {fields : Secret}
    (unreadable : ¬ ReadableLifetime text (fields.get "expires_in")) :
    ∃ message, expiresIn text fields = .error (.value message) := by
  simp only [ReadableLifetime, not_forall] at unreadable
  obtain ⟨raw, declared, digits, awkward⟩ := unreadable
  obtain ⟨message, refused⟩ := parseInt_refuses awkward
  refine ⟨message, ?_⟩
  simp only [expiresIn, declared, digits, if_true, refused]
  rfl

/-! ## What is stored of a response -/

theorem Secret.setDefault_get {secret : Secret} {field other : String} {value : Json}
    (different : field ≠ other) : (secret.setDefault field value).get other = secret.get other := by
  unfold Secret.setDefault
  split
  · rfl
  · rw [Secret.get_append, Secret.get_cons, if_neg different]
    exact Option.or_none

/-- What is kept of an accepted secret once a refresh has added the token that it sent. -/
def withSent (sent : Option String) (secret : Secret) : Secret :=
  match sent with
  | some refreshToken => secret.setDefault "refresh_token" (.str refreshToken)
  | none => secret

theorem withSent_get (sent : Option String) (secret : Secret) {field : String}
    (other : "refresh_token" ≠ field) : (withSent sent secret).get field = secret.get field := by
  cases sent with
  | none => rfl
  | some refreshToken => exact Secret.setDefault_get other

/-- `_normalize`, and `_store_oauth_secret` of what it returns. -/
def acceptToken (env : Env) (provider : OAuthProvider) (profile : Profile) (service : String)
    (sent : Option String) (body : Option Json) : Service env Connection := do
  let secret ← Prog.ofExcept (normalizeToken env.text env.jsonNesting provider.service body)
  CredentialService.storeOauthSecret env profile service (withSent sent secret) provider

/-- The refusals that a response may lead to. -/
def Error.declinesToken : Error → Bool
  | .connectionNotFound _ | .limitExceeded _ => true
  | e => e.isCredentialUnavailable

/-- Nothing is stored, or a secret and a connection that expires after `now`. -/
inductive Handled (env : Env) (triple : Triple) (now : Instant) (w w' : World) :
    Except Error Connection → Prop where
  | refused {e : Error} (declines : e.declinesToken = true) (nothing : w'.db = w.db) :
      Handled env triple now w w' (.error e)
  | stored {row : ConnectionRow} {envelope : Envelope} {secret : Secret} {n : Int}
      (written : w'.db.connections.find? triple = some row)
      (kept : envelopeAt triple w' = some envelope) (opens : Opens env envelope secret)
      (later : 0 < n) (expires : row.expiresAt = some (now + seconds n)) :
      Handled env triple now w w' (.ok row.toConnection)

/-- The body is not nested too deeply; and if it has no integer that is too long before,
and has a token, the declared lifetime can be read, and ends at an instant there is. -/
structure Manageable (env : Env) (now : Instant) (body : Option Json) : Prop where
  shallow : ∀ value container, body = some value →
    value.flaw env.jsonNesting ≠ some (.recursion container)
  lifetime : ∀ fields token, body = some (.obj fields) →
    (Json.obj fields).flaw env.jsonNesting = none →
    Secret.get fields "access_token" = some (.str token) →
      ReadableLifetime env.text (Secret.get fields "expires_in") ∧
        (env.master.isSome →
          now + seconds (declaredSeconds env.text (Secret.get fields "expires_in")) ≤ maxInstant)

section Accepted

variable {w : World} {profile : Profile} {service : String} {provider : OAuthProvider}
  {x₁ x₂ x₃ x₄ x₅ : Input} {secret : Secret} {master : String} {n : Int}

theorem expiryInstant_of_seconds {now : Instant} (counted : expirySeconds secret = some n) :
    expiryInstant secret now =
      if now + seconds n > maxInstant then .error (.overflow "date value out of range")
      else .ok (some (now + seconds n)) := by
  rw [expiryInstant, counted]

theorem putConnection_bind_play {connection stored : Connection} {now : Instant} {x : Input}
    {db' : Db} {β : Type} {f : Connection → Service env β}
    (committed : ((ProfileOp.putConnection profile.accountId profile.name connection
      env.settings.maxConnectionsPerProfile now).run env.text).run w.db = .ok (stored, db'))
    (xs : List Input) :
    (CredentialService.putConnection env profile connection now >>= f).play (x :: xs) w =
      (f stored).play xs { w with db := db' } := by
  have done : Keyring.exec env (.profiles (.putConnection profile.accountId profile.name connection
      env.settings.maxConnectionsPerProfile now)) x w = some (.ok stored, { w with db := db' }) :=
    onDb_eq.mpr ⟨transact_ok.mpr committed, rfl⟩
  exact Prog.play_call (M := machine env) (o := Op.profiles _) done xs

theorem putConnection_bind_play_error {connection : Connection} {now : Instant} {x : Input}
    {e : Error} {β : Type} {f : Connection → Service env β}
    (refused : ((ProfileOp.putConnection profile.accountId profile.name connection
      env.settings.maxConnectionsPerProfile now).run env.text).run w.db = .error e)
    (xs : List Input) :
    ∃ e', (CredentialService.putConnection env profile connection now >>= f).play (x :: xs) w =
      some (.error e', w) ∧ e'.declinesToken = true := by
  have done : Keyring.exec env (.profiles (.putConnection profile.accountId profile.name connection
      env.settings.maxConnectionsPerProfile now)) x w = some (.error e, w) :=
    onDb_eq.mpr ⟨transact_error.mpr ⟨refused, rfl⟩, rfl⟩
  have played : (CredentialService.putConnection env profile connection now >>= f).play (x :: xs) w =
      _ := Prog.play_call (M := machine env) (o := Op.profiles _) done xs
  rw [played]
  rcases ProfileOp.putConnection_refused refused with ⟨message, rfl⟩ | ⟨message, rfl⟩
  · exact ⟨_, rfl, rfl⟩
  · exact ⟨_, rfl, rfl⟩

theorem putSecret_bind_play {accountId name : String} {x y z : Input} {β : Type}
    {f : Unit → Service env β} (known : env.master = some master)
    (owner : (w.db.accounts.find? accountId).isSome) (xs : List Input) :
    ∃ w', (putSecret env accountId name service secret >>= f).play (x :: y :: z :: xs) w =
        (f ()).play xs w' ∧
      w'.db.connections = w.db.connections ∧ ∃ envelope,
        envelopeAt (accountId, name, service) w' = some envelope ∧ Opens env envelope secret := by
  let put := SecretOp.put accountId name service (sealSecret secret master x.entropy) y.now
  have missing : (w.db.accounts.find? accountId).isNone = false := by
    rwa [Option.isNone_eq_false_iff]
  obtain ⟨db', committed⟩ : ∃ db', put.run.run w.db = .ok ((), db') := by
    simp only [put, SecretOp.run, StateT.run, missing]
    exact ⟨_, rfl⟩
  have done : Keyring.exec env (.secrets put) z { w with clock := y.now } =
      some (.ok (), { w with clock := y.now, db := db' }) :=
    onDb_eq.mpr ⟨transact_ok.mpr committed, rfl⟩
  refine ⟨{ w with clock := y.now, db := db' }, ?_, ?_, ?_⟩
  · simp only [putSecret, bind_assoc]
    rw [ofExcept_bind_play (by rw [known]; rfl), ask_bind_play rfl, clockNow_bind_play]
    exact Prog.play_call (M := machine env) (o := Op.secrets put) done xs
  · rw [(SecretOp.put_ok committed).2.1]
  · obtain ⟨-, -, ⟨row, found, same⟩, -⟩ := SecretOp.put_ok committed
    refine ⟨row.envelope, ?_, master, known, ?_⟩
    · rw [envelopeAt, found]
      rfl
    · rw [same]
      exact openEnvelope_sealSecret secret master x.entropy

/-- A lifetime past the last instant raises before anything is stored. -/
theorem storeOauthSecret_overflows (known : env.master = some master)
    (counted : expirySeconds secret = some n) (late : maxInstant < x₁.now + seconds n) :
    (CredentialService.storeOauthSecret env profile service secret provider).play
      [x₁, x₂, x₃, x₄, x₅] w =
        some (.error (.overflow "date value out of range"), { w with clock := x₁.now }) := by
  have expiry : expiryInstant secret x₁.now = _ := expiryInstant_of_seconds counted
  rw [if_pos late] at expiry
  unfold CredentialService.storeOauthSecret
  rw [ofExcept_bind_play (by rw [requireUnsealed, known]; rfl), clockNow_bind_play,
    ofExcept_bind_play_error expiry]

theorem storeOauthSecret_handled (fk : ForeignKeys w.db) (known : env.master = some master)
    (counted : expirySeconds secret = some n) (positive : 0 < n)
    (inTime : x₁.now + seconds n ≤ maxInstant) :
    ∃ r w', (CredentialService.storeOauthSecret env profile service secret provider).play
        [x₁, x₂, x₃, x₄, x₅] w = some (r, w') ∧
      Handled env (profile.accountId, profile.name, service) x₁.now w w' r := by
  have expiry : expiryInstant secret x₁.now = _ := expiryInstant_of_seconds counted
  rw [if_neg (not_lt.mpr inTime)] at expiry
  unfold CredentialService.storeOauthSecret
  rw [ofExcept_bind_play (by rw [requireUnsealed, known]; rfl), clockNow_bind_play,
    ofExcept_bind_play expiry]
  extract_lets connection
  cases put : ((ProfileOp.putConnection profile.accountId profile.name connection
      env.settings.maxConnectionsPerProfile x₁.now).run env.text).run w.db with
  | error e =>
      obtain ⟨e', played, declines⟩ := putConnection_bind_play_error
        (w := { w with clock := x₁.now }) put [x₃, x₄, x₅]
      exact ⟨_, _, played, .refused declines rfl⟩
  | ok answer =>
      obtain ⟨stored, db'⟩ := answer
      rw [putConnection_bind_play (w := { w with clock := x₁.now }) put]
      obtain ⟨put', -⟩ := ProfileOp.putConnection_ok put
      obtain ⟨row, written, same⟩ := put'.written
      have returned := ProfileOp.putConnection_returned put written
      have owner : (db'.accounts.find? profile.accountId).isSome := by
        obtain ⟨owned, found⟩ := Option.isSome_iff_exists.mp put'.present
        obtain ⟨member, keyed⟩ := Table.find?_eq_some.mp found
        rw [put'.frame]
        have present := fk.profiles owned member
        rwa [show owned.accountId = profile.accountId from congrArg Prod.fst keyed] at present
      obtain ⟨w', played, connections, envelope, kept, opens⟩ := putSecret_bind_play
        (w := { w with clock := x₁.now, db := db' }) (f := fun _ => pure stored) known owner []
      refine ⟨_, w', played, ?_⟩
      rw [returned]
      apply Handled.stored (connections ▸ written) kept opens positive
      exact congrArg (·.expiresAt) same

theorem Handled.declines {triple : Triple} {now : Instant} {w' : World} {e : Error}
    (handled : Handled env triple now w w' (.error e)) : e.declinesToken = true := by
  cases handled with
  | refused declines => exact declines

/-- What is refused before the profile is looked at. -/
theorem normalizeToken_handled {triple : Triple} {now : Instant} {body : Option Json} {e : Error}
    (normalized : normalizeToken env.text env.jsonNesting provider.service body = .error e) :
    Handled env triple now w w (.error e) ↔ Manageable env now body := by
  cases normalizeToken_error normalized with
  | lacking lacks shallow =>
      refine iff_of_true (.refused rfl rfl) ⟨fun value container same deep => ?_, ?_⟩
      · exact shallow container (responseJson_error.mpr (.inr ⟨value, same, deep⟩))
      · exact fun fields token same whole held =>
          absurd held (lacks fields token (responseJson_ok.mpr ⟨same, whole⟩))
  | nested deep =>
      apply iff_of_false
      · intro handled
        cases handled.declines
      · intro manageable
        rcases responseJson_error.mp deep with ⟨-, impossible⟩ | ⟨value, same, nested⟩
        · cases impossible
        · exact manageable.shallow value _ same nested
  | @lifetime _ fields token read held failed =>
      obtain ⟨rfl, whole⟩ := responseJson_ok.mp read
      have unreadable : ¬ ReadableLifetime env.text (Secret.get fields "expires_in") := by
        intro readable
        obtain ⟨value, read, -⟩ := expiresIn_ok readable
        rw [failed] at read
        cases read
      obtain ⟨message, raised⟩ := expiresIn_refuses unreadable
      cases failed.symm.trans raised
      apply iff_of_false
      · intro handled
        cases handled.declines
      · exact fun manageable => unreadable (manageable.lifetime fields token rfl whole held).1

/-- A body that was read has no flaw. -/
theorem normalizeToken_flawless {fields : Secret}
    (normalized : normalizeToken env.text env.jsonNesting provider.service (some (.obj fields)) =
      .ok secret) : (Json.obj fields).flaw env.jsonNesting = none := by
  by_contra flawed
  obtain ⟨e, stopped⟩ := Option.ne_none_iff_exists'.mp flawed
  have unread := responseJson_error.mpr (.inr ⟨_, rfl, stopped⟩)
  cases e <;> simp [normalizeToken, unread] at normalized

end Accepted

/-! ## Three responses that raise something else -/

namespace Scenario

def homeRead : Profile := { homeProfile with connections := [] }

/-- Superscripts are digits to `isdigit`, and not to `int`. -/
def superscripts : Env :=
  { deployment with text := { asciiText with isDigit := fun c => c.isDigit || c = '\u00b2' } }

def tokenFor (lifetime : Json) : Json :=
  .obj [("access_token", .str "token"), ("expires_in", lifetime)]

/-- What happens to a response at the epoch. -/
def accepted (env : Env) (body : Json) : Option (Except Error Connection × World) :=
  (acceptToken env provider homeRead "spotify" none (some body)).play
    (List.replicate 5 (given 0 "a")) connectedOffice

theorem connectedOffice_foreignKeys : ForeignKeys connectedOffice.db := by
  constructor <;> decide +kernel

/-- So many arrays, one inside the other. -/
def arrays : Nat → Json
  | 0 => .null
  | n + 1 => .arr [arrays n]

theorem flaw_arrays (depth n : Nat) :
    (arrays n).flaw depth = if depth < n then some (.recursion "array") else none := by
  induction n generalizing depth with
  | zero => rfl
  | succ n ih =>
      cases depth with
      | zero => rfl
      | succ depth =>
          rw [arrays, Json.flaw, if_neg (by omega), Json.flawItems, Json.flawItems, Option.or_none,
            ih, Nat.add_sub_cancel]
          simp only [Nat.add_lt_add_iff_right]

end Scenario

end Keyring

import Mathlib
import Keyring.Aead
import Keyring.Python.JsonSpec
import Keyring.Secrets.Envelope
import Keyring.Storage.Database
import Keyring.Storage.Times

/-!
# The vault in bytes

`secrets/envelope.py` and `secrets/sql.py` with the four byte fields of a row as
they are stored.  AES-GCM is an ideal cipher: `encrypt` is any function, and what
opens is what the ledger has.
-/

set_option autoImplicit false

namespace Keyring.Vault

open Relational Aead

abbrev Bytes := ByteArray

abbrev Ledger := List (Sealing Bytes Bytes Bytes Bytes)

structure Envelope where
  version : Nat
  wrappedKey : Bytes
  keyNonce : Bytes
  nonce : Bytes
  ciphertext : Bytes

/-- What `os.urandom` gives to one `seal`. -/
structure Entropy where
  dataKey : Bytes
  keyNonce : Bytes
  payloadNonce : Bytes

/-- A dict that JSON can carry. -/
structure JsonSecret where
  fields : Secret
  proper : (Json.obj fields).Proper

section
variable (encrypt : Bytes → Bytes → Bytes → Bytes)

def wrapSealing (master : Bytes) (entropy : Entropy) : Sealing Bytes Bytes Bytes Bytes :=
  ⟨master, entropy.keyNonce, entropy.dataKey, encrypt master entropy.keyNonce entropy.dataKey⟩

def payloadSealing (entropy : Entropy) (plaintext : Bytes) : Sealing Bytes Bytes Bytes Bytes :=
  ⟨entropy.dataKey, entropy.payloadNonce, plaintext,
    encrypt entropy.dataKey entropy.payloadNonce plaintext⟩

/-- The data key is wrapped before the secret is written as JSON, which may raise. -/
def sealSecret (secret : JsonSecret) (master : Bytes) (entropy : Entropy) (ledger : Ledger) :
    Except Error Envelope × Ledger :=
  let wrap := wrapSealing encrypt master entropy
  match (Json.obj secret.fields).dumps with
  | .error e => (.error e, wrap :: ledger)
  | .ok text =>
    let payload := payloadSealing encrypt entropy text.toByteArray
    (.ok {
      version := envelopeVersion
      wrappedKey := wrap.ciphertext
      keyNonce := entropy.keyNonce
      nonce := entropy.payloadNonce
      ciphertext := payload.ciphertext }, payload :: wrap :: ledger)

end

/-- `json.loads` of bytes, in the encoding that `dumps` was encoded in. -/
def loadsBytes (plaintext : Bytes) : Option Json :=
  (String.fromUTF8? plaintext).bind Json.loads

/-- Whatever fails is the same error. -/
def openEnvelope (envelope : Envelope) (master : Bytes) (ledger : Ledger) : Except Error Json :=
  let opened := do
    let dataKey ← decrypt ledger master envelope.keyNonce envelope.wrappedKey
    let plaintext ← decrypt ledger dataKey envelope.nonce envelope.ciphertext
    loadsBytes plaintext
  match opened with
  | some decoded => .ok decoded
  | none => .error (.credentialUnavailable unreadable)

/-! ## The store -/

structure VaultRow where
  accountId : String
  profileName : String
  service : String
  envelope : Envelope
  createdAt : String
  updatedAt : String

def VaultRow.key (row : VaultRow) : Triple := (row.accountId, row.profileName, row.service)

/-- The columns that an upsert overwrites. -/
def VaultRow.reseal (row : VaultRow) (envelope : Envelope) (now : String) : VaultRow :=
  { row with envelope := envelope, updatedAt := now }

theorem VaultRow.reseal_key (row : VaultRow) (envelope : Envelope) (now : String) :
    (row.reseal envelope now).key = row.key := rfl

/-- The row with another envelope, written past the store. -/
def VaultRow.tamper (row : VaultRow) (envelope : Envelope) : VaultRow :=
  { row with envelope := envelope }

theorem VaultRow.tamper_key (row : VaultRow) (envelope : Envelope) :
    (row.tamper envelope).key = row.key := rfl

/-- The table of secrets, the accounts that it refers to, and what was ever encrypted. -/
structure State where
  accounts : List String
  secrets : Table VaultRow.key
  ledger : Ledger

def State.empty (accounts : List String) : State := ⟨accounts, .empty, []⟩

inductive Op where
  | get (accountId profile service : String)
  | put (accountId profile service : String) (secret : JsonSecret) (entropy : Entropy)
      (now : Instant)
  | delete (accountId profile service : String)
  | deleteProfile (accountId profile : String)

@[reducible] def Op.Ans : Op → Type
  | .get _ _ _ => Option Json
  | .put _ _ _ _ _ _ => Unit
  | .delete _ _ _ => Bool
  | .deleteProfile _ _ => Nat

section
variable (encrypt : Bytes → Bytes → Bytes → Bytes) (master : Option Bytes)

def get (accountId profile service : String) (s : State) : Except Error (Option Json) × State :=
  match master with
  | none => (.error (.vaultSealed sealedMessage), s)
  | some master =>
    match s.secrets.find? (accountId, profile, service) with
    | none => (.ok none, s)
    | some row => ((openEnvelope row.envelope master s.ledger).map some, s)

def put (accountId profile service : String) (secret : JsonSecret) (entropy : Entropy)
    (now : Instant) (s : State) : Except Error Unit × State :=
  match master with
  | none => (.error (.vaultSealed sealedMessage), s)
  | some master =>
    match sealSecret encrypt secret master entropy s.ledger with
    | (.error e, ledger) => (.error e, { s with ledger := ledger })
    | (.ok envelope, ledger) =>
      let s := { s with ledger := ledger }
      match stamp now with
      | .error e => (.error e, s)
      | .ok now =>
        if accountId ∉ s.accounts then (.error foreignKeyFailed, s)
        else (.ok (), { s with
          secrets := s.secrets.upsert ⟨accountId, profile, service, envelope, now, now⟩
            (·.reseal envelope now) (·.reseal_key envelope now) })

def delete (accountId profile service : String) (s : State) : Except Error Bool × State :=
  (.ok (s.secrets.find? (accountId, profile, service)).isSome,
    { s with secrets := s.secrets.deleteWhere (·.key = (accountId, profile, service)) })

def deleteProfile (accountId profile : String) (s : State) : Except Error Nat × State :=
  let hit := fun row : VaultRow => row.accountId = accountId && row.profileName = profile
  (.ok (s.secrets.countWhere hit), { s with secrets := s.secrets.deleteWhere hit })

def perform : (o : Op) → State → Except Error o.Ans × State
  | .get accountId profile service => get master accountId profile service
  | .put accountId profile service secret entropy now =>
      put encrypt master accountId profile service secret entropy now
  | .delete accountId profile service => delete accountId profile service
  | .deleteProfile accountId profile => deleteProfile accountId profile

def performAll (ops : List Op) (s : State) : State :=
  ops.foldl (fun s o => (perform encrypt master o s).2) s

end

/-! ## The map -/

/-- What the vault is for. -/
abbrev SecretMap := Triple → Option Secret

/-- What `put` has to be given: an account, numbers that JSON can write, and a moment
that can be stored. -/
def Accepts (accounts : List String) (accountId : String) (secret : JsonSecret) (now : Instant) :
    Prop :=
  accountId ∈ accounts ∧ (Json.obj secret.fields).fitsDigits = true ∧ Representable now

instance (accounts : List String) (accountId : String) (secret : JsonSecret) (now : Instant) :
    Decidable (Accepts accounts accountId secret now) :=
  inferInstanceAs (Decidable (_ ∧ _ ∧ _))

def SecretMap.step (accounts : List String) (m : SecretMap) : Op → SecretMap
  | .get _ _ _ => m
  | .put accountId profile service secret _ now =>
      if Accepts accounts accountId secret now then
        Function.update m (accountId, profile, service) (some secret.fields)
      else m
  | .delete accountId profile service => Function.update m (accountId, profile, service) none
  | .deleteProfile accountId profile => fun triple =>
      if triple.1 = accountId ∧ triple.2.1 = profile then none else m triple

def mapOf (accounts : List String) (ops : List Op) : SecretMap :=
  ops.foldl (SecretMap.step accounts) fun _ => none

/-! ## Damage -/

/-- The byte fields of a row. -/
inductive Field where
  | wrappedKey
  | keyNonce
  | nonce
  | ciphertext
  deriving DecidableEq

def Envelope.field (envelope : Envelope) : Field → Bytes
  | .wrappedKey => envelope.wrappedKey
  | .keyNonce => envelope.keyNonce
  | .nonce => envelope.nonce
  | .ciphertext => envelope.ciphertext

/-- The envelope with one field altered. -/
def Envelope.alter (envelope : Envelope) (bytes : Bytes) : Field → Envelope
  | .wrappedKey => { envelope with wrappedKey := bytes }
  | .keyNonce => { envelope with keyNonce := bytes }
  | .nonce => { envelope with nonce := bytes }
  | .ciphertext => { envelope with ciphertext := bytes }

/-- Every byte field is one of the two, and neither has all of them. -/
structure Mixture (first second mixed : Envelope) : Prop where
  either : ∀ field, mixed.field field = first.field field ∨ mixed.field field = second.field field
  notFirst : ∃ field, mixed.field field ≠ first.field field
  notSecond : ∃ field, mixed.field field ≠ second.field field

def State.tamper (s : State) (triple : Triple) (envelope : Envelope) : State :=
  { s with
    secrets := s.secrets.updateWhere (·.key = triple) (·.tamper envelope) (·.tamper_key envelope) }

/-! ## Freshness -/

def Op.entropy? : Op → Option Entropy
  | .put _ _ _ _ entropy _ => some entropy
  | _ => none

def Entropy.nonces (entropy : Entropy) : List Bytes := [entropy.payloadNonce, entropy.keyNonce]

/-- No random key or nonce comes twice, and none of the keys is the master. -/
structure Fresh (master : Bytes) (drawn : List Entropy) : Prop where
  nonces : (drawn.flatMap Entropy.nonces).Nodup
  keys : (master :: drawn.map Entropy.dataKey).Nodup

end Keyring.Vault

import Keyring.Domain.Errors

/-!
# Envelope encryption

A secret is sealed under a fresh data key, and the data key under the master
key.  The cipher is ideal: what was sealed under a key and a nonce opens with
exactly these, and bytes that were not sealed open with none.
-/

set_option autoImplicit false

namespace Keyring

inductive Ciphertext (α : Type) where
  | sealed (key nonce : String) (plaintext : α)
  | forged (bytes : String)

def Ciphertext.decrypt {α : Type} (key nonce : String) : Ciphertext α → Option α
  | .sealed key' nonce' plaintext => if key = key' ∧ nonce = nonce' then some plaintext else none
  | .forged _ => none

def envelopeVersion : Nat := 1
def unreadable : String := "stored credential material could not be read"
def sealedMessage : String := "the credential vault is sealed: set KEYRING_MASTER_KEY"

/-- The data key and the two nonces of one encryption. -/
structure Entropy where
  dataKey : String
  keyNonce : String
  payloadNonce : String

structure Envelope where
  version : Nat
  wrappedKey : Ciphertext String
  keyNonce : String
  nonce : String
  ciphertext : Ciphertext Secret

def requireMaster (master : Option String) : Except Error String :=
  match master with
  | some key => .ok key
  | none => .error (.vaultSealed sealedMessage)

def sealSecret (secret : Secret) (master : String) (entropy : Entropy) : Envelope where
  version := envelopeVersion
  wrappedKey := .sealed master entropy.keyNonce entropy.dataKey
  keyNonce := entropy.keyNonce
  nonce := entropy.payloadNonce
  ciphertext := .sealed entropy.dataKey entropy.payloadNonce secret

def openEnvelope (envelope : Envelope) (master : String) : Except Error Secret :=
  let opened := do
    let dataKey ← envelope.wrappedKey.decrypt master envelope.keyNonce
    envelope.ciphertext.decrypt dataKey envelope.nonce
  match opened with
  | some secret => .ok secret
  | none => .error (.credentialUnavailable unreadable)

theorem openEnvelope_sealSecret (secret : Secret) (master : String) (entropy : Entropy) :
    openEnvelope (sealSecret secret master entropy) master = .ok secret := by
  simp [openEnvelope, sealSecret, Ciphertext.decrypt]

end Keyring

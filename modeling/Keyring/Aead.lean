import Mathlib.Data.List.Nodup

/-!
# An ideal authenticated cipher

The ledger has every encryption that was made.  A ciphertext is opened when it is
exactly what an encryption under the same key and nonce returned, and every other
one is refused.
-/

set_option autoImplicit false

namespace Aead

/-- One encryption. -/
structure Sealing (κ ν π γ : Type) where
  key : κ
  nonce : ν
  plaintext : π
  ciphertext : γ

variable {κ ν π γ : Type} [DecidableEq κ] [DecidableEq ν] [DecidableEq γ]

def decrypt (ledger : List (Sealing κ ν π γ)) (key : κ) (nonce : ν) (ciphertext : γ) : Option π :=
  (ledger.find? fun s => s.key = key ∧ s.nonce = nonce ∧ s.ciphertext = ciphertext).map
    Sealing.plaintext

variable {ledger : List (Sealing κ ν π γ)} {key : κ} {nonce : ν} {plaintext : π} {ciphertext : γ}

theorem mem_of_decrypt (opened : decrypt ledger key nonce ciphertext = some plaintext) :
    ⟨key, nonce, plaintext, ciphertext⟩ ∈ ledger := by
  obtain ⟨s, found, rfl⟩ := Option.map_eq_some_iff.mp opened
  have same := List.find?_some found
  simp only [decide_eq_true_eq] at same
  obtain ⟨rfl, rfl, rfl⟩ := same
  exact List.mem_of_find?_eq_some found

theorem decrypt_eq_some (fresh : (ledger.map Sealing.nonce).Nodup) :
    decrypt ledger key nonce ciphertext = some plaintext ↔
      ⟨key, nonce, plaintext, ciphertext⟩ ∈ ledger := by
  constructor
  · exact mem_of_decrypt
  · intro made
    rw [decrypt]
    cases found : ledger.find? fun s => s.key = key ∧ s.nonce = nonce ∧ s.ciphertext = ciphertext with
    | none =>
      have missed := List.find?_eq_none.mp found _ made
      simp at missed
    | some s =>
      have same := List.find?_some found
      simp only [decide_eq_true_eq] at same
      have one := List.inj_on_of_nodup_map fresh (List.mem_of_find?_eq_some found) made same.2.1
      rw [one]
      rfl

end Aead

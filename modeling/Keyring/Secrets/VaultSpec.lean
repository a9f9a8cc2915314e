import Keyring.Secrets.Vault
import Keyring.Storage.ColumnsSpec

/-!
# The vault is a map

The ledger is the list of what was drawn and sealed.  A stored row is the envelope
of one draw, and an envelope opens only when its four fields are those of one draw.
-/

set_option autoImplicit false

namespace Keyring.Vault

open Relational Aead

variable {encrypt : Bytes → Bytes → Bytes → Bytes} {master : Bytes}

/-- A draw, and the JSON text that was sealed with it unless that raised. -/
structure Draw where
  entropy : Entropy
  text : Option String

section
variable (encrypt : Bytes → Bytes → Bytes → Bytes) (master : Bytes)

def Draw.sealings (draw : Draw) : Ledger :=
  (draw.text.map fun text => payloadSealing encrypt draw.entropy text.toByteArray).toList ++
    [wrapSealing encrypt master draw.entropy]

def ledgerOf (draws : List Draw) : Ledger := draws.flatMap (Draw.sealings encrypt master)

def Draw.envelope (draw : Draw) (text : String) : Envelope where
  version := envelopeVersion
  wrappedKey := encrypt master draw.entropy.keyNonce draw.entropy.dataKey
  keyNonce := draw.entropy.keyNonce
  nonce := draw.entropy.payloadNonce
  ciphertext := encrypt draw.entropy.dataKey draw.entropy.payloadNonce text.toByteArray

end

theorem mem_ledgerOf {draws : List Draw} {s : Sealing Bytes Bytes Bytes Bytes} :
    s ∈ ledgerOf encrypt master draws ↔ ∃ draw ∈ draws,
      s = wrapSealing encrypt master draw.entropy ∨
        ∃ text, draw.text = some text ∧
          s = payloadSealing encrypt draw.entropy text.toByteArray := by
  simp only [ledgerOf, List.mem_flatMap, Draw.sealings, List.mem_append, Option.mem_toList,
    Option.map_eq_some_iff, List.mem_singleton]
  constructor
  · rintro ⟨draw, drawn, ⟨text, written, rfl⟩ | rfl⟩
    · exact ⟨draw, drawn, .inr ⟨text, written, rfl⟩⟩
    · exact ⟨draw, drawn, .inl rfl⟩
  · rintro ⟨draw, drawn, rfl | ⟨text, written, rfl⟩⟩
    · exact ⟨draw, drawn, .inr rfl⟩
    · exact ⟨draw, drawn, .inl ⟨text, written, rfl⟩⟩

/-! ## Fresh draws -/

section
variable {draws : List Draw} (fresh : Fresh master (draws.map Draw.entropy))
include fresh

theorem Fresh.ledger : ((ledgerOf encrypt master draws).map Sealing.nonce).Nodup := by
  have sub : List.Sublist ((ledgerOf encrypt master draws).map Sealing.nonce)
      ((draws.map Draw.entropy).flatMap Entropy.nonces) := by
    clear fresh
    induction draws with
    | nil => exact List.Sublist.refl _
    | cons draw draws ih =>
      simp only [ledgerOf, List.flatMap_cons, List.map_append, List.map_cons] at ih ⊢
      refine List.Sublist.append ?_ ih
      cases written : draw.text with
      | none => simp [Draw.sealings, written, wrapSealing, Entropy.nonces]
      | some text => simp [Draw.sealings, written, wrapSealing, payloadSealing, Entropy.nonces]
  exact fresh.nonces.sublist sub

/-- No nonce is drawn twice, nor for two purposes. -/
theorem Fresh.distinct : (draws.map fun draw => draw.entropy.keyNonce).Nodup ∧
    (draws.map fun draw => draw.entropy.payloadNonce).Nodup ∧
    ∀ first ∈ draws, ∀ second ∈ draws,
      first.entropy.payloadNonce ≠ second.entropy.keyNonce := by
  have perm := List.map_append_flatMap_perm (draws.map Draw.entropy) Entropy.payloadNonce
    fun entropy => [entropy.keyNonce]
  have single : ((draws.map Draw.entropy).flatMap fun entropy => [entropy.keyNonce]) =
      (draws.map Draw.entropy).map Entropy.keyNonce := List.flatMap_pure_eq_map _ _
  have all := perm.nodup_iff.mpr fresh.nonces
  rw [single, List.nodup_append, List.map_map, List.map_map] at all
  obtain ⟨payload, key, apart⟩ := all
  refine ⟨key, payload, fun first member second member' => ?_⟩
  exact apart _ (List.mem_map_of_mem member) _ (List.mem_map_of_mem member')

theorem Fresh.dataKey_ne {draw : Draw} (drawn : draw ∈ draws) : draw.entropy.dataKey ≠ master := by
  have master_notMem := (List.nodup_cons.mp fresh.keys).1
  intro same
  rw [List.map_map] at master_notMem
  exact master_notMem (same ▸ List.mem_map_of_mem (f := Entropy.dataKey ∘ Draw.entropy) drawn)

theorem Fresh.same_dataKey {first second : Draw} (drawn : first ∈ draws) (drawn' : second ∈ draws)
    (same : first.entropy.dataKey = second.entropy.dataKey) : first = second := by
  have distinct := (List.nodup_cons.mp fresh.keys).2
  rw [List.map_map] at distinct
  exact List.inj_on_of_nodup_map distinct drawn drawn' same

theorem Fresh.opened {envelope : Envelope} {decoded : Json}
    (opens : openEnvelope envelope master (ledgerOf encrypt master draws) = .ok decoded) :
    ∃ draw ∈ draws, ∃ text, draw.text = some text ∧
      ∀ field, envelope.field field = (draw.envelope encrypt master text).field field := by
  unfold openEnvelope at opens
  simp only at opens
  cases unwrapped : decrypt (ledgerOf encrypt master draws) master envelope.keyNonce
      envelope.wrappedKey with
  | none => simp [unwrapped] at opens
  | some dataKey =>
    cases read : decrypt (ledgerOf encrypt master draws) dataKey envelope.nonce
        envelope.ciphertext with
    | none => simp [unwrapped, read] at opens
    | some plaintext =>
      obtain ⟨draw, drawn, wrapped | ⟨text, -, wrapped⟩⟩ := mem_ledgerOf.mp (mem_of_decrypt unwrapped)
      · obtain ⟨other, drawn', second | ⟨text, written, second⟩⟩ :=
          mem_ledgerOf.mp (mem_of_decrypt read)
        · -- a wrapped key as payload would be wrapped under a data key
          simp only [wrapSealing, Sealing.mk.injEq] at wrapped second
          exact absurd (wrapped.2.2.1.symm.trans second.1) (fresh.dataKey_ne drawn)
        · simp only [wrapSealing, payloadSealing, Sealing.mk.injEq] at wrapped second
          have same := fresh.same_dataKey drawn drawn' (wrapped.2.2.1.symm.trans second.1)
          subst same
          refine ⟨draw, drawn, text, written, fun field => ?_⟩
          cases field with
          | wrappedKey => exact wrapped.2.2.2
          | keyNonce => exact wrapped.2.1
          | nonce => exact second.2.1
          | ciphertext => exact second.2.2.2
      · simp only [payloadSealing, Sealing.mk.injEq] at wrapped
        exact absurd wrapped.1.symm (fresh.dataKey_ne drawn)

theorem Fresh.other_master {draw : Draw} (drawn : draw ∈ draws) {envelope : Envelope}
    (same : envelope.keyNonce = draw.entropy.keyNonce) {other : Bytes} (different : other ≠ master) :
    openEnvelope envelope other (ledgerOf encrypt master draws) =
      .error (.credentialUnavailable unreadable) := by
  unfold openEnvelope
  cases unwrapped : decrypt (ledgerOf encrypt master draws) other envelope.keyNonce
      envelope.wrappedKey with
  | none => rfl
  | some dataKey =>
    obtain ⟨third, drawn', wrapped | ⟨text, -, wrapped⟩⟩ := mem_ledgerOf.mp (mem_of_decrypt unwrapped)
    · simp only [wrapSealing, Sealing.mk.injEq] at wrapped
      exact absurd wrapped.1 different
    · simp only [payloadSealing, Sealing.mk.injEq] at wrapped
      exact absurd (wrapped.2.1.symm.trans same) (fresh.distinct.2.2 third drawn' draw drawn)

theorem Fresh.same_keyNonce {first second : Draw} (drawn : first ∈ draws) (drawn' : second ∈ draws)
    (same : first.entropy.keyNonce = second.entropy.keyNonce) : first = second :=
  List.inj_on_of_nodup_map fresh.distinct.1 drawn drawn' same

theorem Fresh.same_payloadNonce {first second : Draw} (drawn : first ∈ draws)
    (drawn' : second ∈ draws)
    (same : first.entropy.payloadNonce = second.entropy.payloadNonce) : first = second :=
  List.inj_on_of_nodup_map fresh.distinct.2.1 drawn drawn' same

end

theorem loadsBytes_dumps {secret : JsonSecret} {text : String}
    (written : (Json.obj secret.fields).dumps = .ok text) :
    loadsBytes text.toByteArray = some (.obj secret.fields) := by
  have decoded : String.fromUTF8? text.toByteArray = some text := by
    simp [String.fromUTF8?, String.fromUTF8, text.isValidUTF8]
  rw [loadsBytes, decoded, Option.bind_some, Json.loads_dumps secret.proper written]

theorem Fresh.opens {draws : List Draw} (fresh : Fresh master (draws.map Draw.entropy))
    {draw : Draw} (drawn : draw ∈ draws) {text : String} (kept : draw.text = some text)
    {secret : JsonSecret} (written : (Json.obj secret.fields).dumps = .ok text) :
    openEnvelope (draw.envelope encrypt master text) master (ledgerOf encrypt master draws) =
      .ok (.obj secret.fields) := by
  have wrapped : wrapSealing encrypt master draw.entropy ∈ ledgerOf encrypt master draws :=
    mem_ledgerOf.mpr ⟨draw, drawn, .inl rfl⟩
  have payload : payloadSealing encrypt draw.entropy text.toByteArray ∈
      ledgerOf encrypt master draws := mem_ledgerOf.mpr ⟨draw, drawn, .inr ⟨text, kept, rfl⟩⟩
  have first := (decrypt_eq_some fresh.ledger).mpr wrapped
  have second := (decrypt_eq_some fresh.ledger).mpr payload
  unfold openEnvelope
  simp only [Draw.envelope, first, second, loadsBytes_dumps written, Option.bind_eq_bind,
    Option.bind_some]

/-! ## Damaged envelopes -/

section
variable {draws : List Draw} (fresh : Fresh master (draws.map Draw.entropy))
include fresh

theorem Fresh.refused {envelope : Envelope}
    (other : ∀ draw ∈ draws, ∀ text, draw.text = some text →
      ∃ field, envelope.field field ≠ (draw.envelope encrypt master text).field field) :
    openEnvelope envelope master (ledgerOf encrypt master draws) =
      .error (.credentialUnavailable unreadable) := by
  cases opened : openEnvelope envelope master (ledgerOf encrypt master draws) with
  | ok decoded =>
    obtain ⟨draw, drawn, text, written, same⟩ := fresh.opened opened
    obtain ⟨field, different⟩ := other draw drawn text written
    exact absurd (same field) different
  | error e =>
    unfold openEnvelope at opened
    simp only at opened
    split at opened
    · cases opened
    · exact opened.symm

theorem Fresh.envelope_eq {first second : Draw} (drawn : first ∈ draws) (drawn' : second ∈ draws)
    {text text' : String} (written : first.text = some text) (written' : second.text = some text')
    (same : first.entropy.keyNonce = second.entropy.keyNonce ∨
      first.entropy.payloadNonce = second.entropy.payloadNonce) :
    first.envelope encrypt master text = second.envelope encrypt master text' := by
  have one : first = second :=
    same.elim (fresh.same_keyNonce drawn drawn') (fresh.same_payloadNonce drawn drawn')
  subst one
  rw [written] at written'
  cases written'
  rfl

theorem Fresh.alter_refused {draw : Draw} (drawn : draw ∈ draws) {text : String}
    (written : draw.text = some text) {field : Field} {bytes : Bytes}
    (altered : bytes ≠ (draw.envelope encrypt master text).field field) :
    openEnvelope ((draw.envelope encrypt master text).alter bytes field) master
      (ledgerOf encrypt master draws) = .error (.credentialUnavailable unreadable) := by
  apply fresh.refused
  intro other drawn' text' written'
  by_contra same
  simp only [not_exists, not_not] at same
  -- one of the two nonces is still the draw's own
  have shared : draw.entropy.keyNonce = other.entropy.keyNonce ∨
      draw.entropy.payloadNonce = other.entropy.payloadNonce := by
    cases field with
    | wrappedKey => exact .inl (same .keyNonce)
    | keyNonce => exact .inr (same .nonce)
    | nonce => exact .inl (same .keyNonce)
    | ciphertext => exact .inl (same .keyNonce)
  have one : draw.envelope encrypt master text = other.envelope encrypt master text' :=
    fresh.envelope_eq drawn drawn' written written' shared
  apply altered
  rw [one]
  cases field with
  | wrappedKey => exact same .wrappedKey
  | keyNonce => exact same .keyNonce
  | nonce => exact same .nonce
  | ciphertext => exact same .ciphertext

theorem Fresh.mixture_refused {first second : Draw} (drawn : first ∈ draws)
    (drawn' : second ∈ draws) {text text' : String} (written : first.text = some text)
    (written' : second.text = some text') {mixed : Envelope}
    (mixture : Mixture (first.envelope encrypt master text) (second.envelope encrypt master text')
      mixed) :
    openEnvelope mixed master (ledgerOf encrypt master draws) =
      .error (.credentialUnavailable unreadable) := by
  apply fresh.refused
  intro third drawn'' text'' written''
  by_contra same
  simp only [not_exists, not_not] at same
  -- the key nonce says which of the two rows the mixture would be
  rcases mixture.either .keyNonce with key | key
  · have one : third.envelope encrypt master text'' = first.envelope encrypt master text :=
      fresh.envelope_eq drawn'' drawn written'' written (.inl ((same .keyNonce).symm.trans key))
    obtain ⟨field, different⟩ := mixture.notFirst
    exact different (by rw [same field, one])
  · have one : third.envelope encrypt master text'' = second.envelope encrypt master text' :=
      fresh.envelope_eq drawn'' drawn' written'' written' (.inl ((same .keyNonce).symm.trans key))
    obtain ⟨field, different⟩ := mixture.notSecond
    exact different (by rw [same field, one])

end

end Keyring.Vault

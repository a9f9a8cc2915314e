import Keyring.Relational.Represents
import Keyring.Secrets.VaultSpec

/-!
# Runs of the vault

Every operation keeps the table and the map together: a row is the envelope of a
draw, sealed from the secret that the map has for its triple.
-/

set_option autoImplicit false

namespace Keyring.Vault

open Relational Aead

variable {encrypt : Bytes → Bytes → Bytes → Bytes} {master : Bytes} {accounts : List String}

def RowHolds (encrypt : Bytes → Bytes → Bytes → Bytes) (master : Bytes) (draws : List Draw)
    (row : VaultRow) (fields : Secret) : Prop :=
  ∃ draw ∈ draws, ∃ text, ∃ secret : JsonSecret, draw.text = some text ∧ secret.fields = fields ∧
    (Json.obj secret.fields).dumps = .ok text ∧ row.envelope = draw.envelope encrypt master text

structure Holds (encrypt : Bytes → Bytes → Bytes → Bytes) (master : Bytes)
    (accounts : List String) (draws : List Draw) (s : State) (m : SecretMap) : Prop where
  accounts : s.accounts = accounts
  ledger : s.ledger = ledgerOf encrypt master draws
  rows : Maps (RowHolds encrypt master draws) s.secrets m

theorem RowHolds.mono {draws : List Draw} {row : VaultRow} {fields : Secret}
    (holds : RowHolds encrypt master draws row fields) (draw : Draw) :
    RowHolds encrypt master (draw :: draws) row fields := by
  obtain ⟨draw', drawn, rest⟩ := holds
  exact ⟨draw', List.mem_cons_of_mem _ drawn, rest⟩

theorem Holds.empty :
    Holds encrypt master accounts [] (State.empty accounts) fun _ => none where
  accounts := rfl
  ledger := rfl
  rows := .empty

/-! ## One operation -/

/-- What `put` does: it draws in any case, and stores what the map accepts. -/
theorem put_cases (accountId profile service : String) (secret : JsonSecret) (entropy : Entropy)
    (now : Instant) (s : State) :
    let draw : Draw := ⟨entropy, (Json.obj secret.fields).dumps.toOption⟩
    let drawn : State := { s with ledger := draw.sealings encrypt master ++ s.ledger }
    (Accepts s.accounts accountId secret now ∧ ∃ text column,
      (Json.obj secret.fields).dumps = .ok text ∧
        put encrypt (some master) accountId profile service secret entropy now s = (.ok (), { drawn with
          secrets := s.secrets.upsert
            ⟨accountId, profile, service, draw.envelope encrypt master text, column, column⟩
              (·.reseal (draw.envelope encrypt master text) column)
              (·.reseal_key (draw.envelope encrypt master text) column) })) ∨
      ¬Accepts s.accounts accountId secret now ∧ ∃ e,
        put encrypt (some master) accountId profile service secret entropy now s =
          (.error e, drawn) := by
  intro draw drawn
  cases written : (Json.obj secret.fields).dumps with
  | error e =>
    have tooLong : (Json.obj secret.fields).fitsDigits ≠ true := by
      intro fits
      simp [Json.dumps, fits] at written
    refine .inr ⟨fun accepted => tooLong accepted.2.1, e, ?_⟩
    simp [put, sealSecret, written, drawn, draw, Draw.sealings, Except.toOption]
  | ok text =>
    have fits : (Json.obj secret.fields).fitsDigits = true := by
      by_contra tooLong
      simp [Json.dumps, tooLong] at written
    have ledger : draw.sealings encrypt master ++ s.ledger =
        payloadSealing encrypt entropy text.toByteArray ::
          wrapSealing encrypt master entropy :: s.ledger := by
      simp [draw, written, Draw.sealings, Except.toOption]
    cases stamped : stamp now with
    | error e =>
      refine .inr ⟨fun accepted => ?_, e, ?_⟩
      · obtain ⟨column, stored⟩ := stamp_isOk.mpr accepted.2.2
        rw [stored] at stamped
        cases stamped
      · simp only [put, sealSecret, written, stamped, drawn, ledger]
    | ok column =>
      have representable : Representable now := stamp_isOk.mp ⟨column, stamped⟩
      by_cases known : accountId ∈ s.accounts
      · refine .inl ⟨⟨known, fits, representable⟩, text, column, rfl, ?_⟩
        simp only [put, sealSecret, written, stamped, known, not_true_eq_false, if_false, drawn,
          ledger]
        rfl
      · refine .inr ⟨fun accepted => known accepted.1, foreignKeyFailed, ?_⟩
        simp only [put, sealSecret, written, stamped, known, not_false_eq_true, if_true, drawn,
          ledger]

theorem Holds.deleteWhere {draws : List Draw} {s : State} {m : SecretMap}
    (holds : Holds encrypt master accounts draws s m) (hit : VaultRow → Bool) (gone : Triple → Prop)
    [DecidablePred gone] (same : ∀ row, hit row = true ↔ gone row.key) :
    Holds encrypt master accounts draws { s with secrets := s.secrets.deleteWhere hit }
      fun triple => if gone triple then none else m triple where
  accounts := holds.accounts
  ledger := holds.ledger
  rows := holds.rows.deleteWhere same

theorem Holds.put {draws : List Draw} {s : State} {m : SecretMap}
    (holds : Holds encrypt master accounts draws s m) (accountId profile service : String)
    (secret : JsonSecret) (entropy : Entropy) (now : Instant) :
    Holds encrypt master accounts (⟨entropy, (Json.obj secret.fields).dumps.toOption⟩ :: draws)
      (put encrypt (some master) accountId profile service secret entropy now s).2
      (m.step accounts (.put accountId profile service secret entropy now)) := by
  have ledger : ∀ draw : Draw, draw.sealings encrypt master ++ s.ledger =
      ledgerOf encrypt master (draw :: draws) := by
    intro draw
    rw [holds.ledger]
    rfl
  have outcome := @put_cases encrypt master accountId profile service secret entropy now s
  simp only [ledger, holds.accounts] at outcome
  rcases outcome with ⟨accepted, text, column, written, same⟩ | ⟨refused, e, same⟩
  · rw [same, SecretMap.step, if_pos accepted]
    have wider := holds.rows.mono fun row fields held =>
      held.mono ⟨entropy, (Json.obj secret.fields).dumps.toOption⟩
    have sealedRow : ∀ row : VaultRow, row.envelope = Draw.envelope encrypt master
        ⟨entropy, (Json.obj secret.fields).dumps.toOption⟩ text →
          RowHolds encrypt master (⟨entropy, (Json.obj secret.fields).dumps.toOption⟩ :: draws) row
            secret.fields := fun row same =>
      ⟨_, List.mem_cons_self, text, secret, by simp [written, Except.toOption], rfl, written, same⟩
    exact ⟨rfl, rfl, wider.upsert (sealedRow _ rfl) _ _ fun old => sealedRow _ rfl⟩
  · rw [same, SecretMap.step, if_neg refused]
    exact ⟨rfl, rfl, holds.rows.mono fun row fields held => held.mono _⟩

/-- The draw of an operation goes in front of the earlier ones. -/
theorem Holds.step {draws : List Draw} {s : State} {m : SecretMap}
    (holds : Holds encrypt master accounts draws s m) (o : Op) :
    ∃ drawn : List Draw, drawn.map Draw.entropy = o.entropy?.toList ∧
      Holds encrypt master accounts (drawn ++ draws) (perform encrypt (some master) o s).2
        (m.step accounts o) := by
  cases o with
  | get accountId profile service =>
    refine ⟨[], rfl, ?_⟩
    have unchanged : (perform encrypt (some master) (.get accountId profile service) s).2 = s := by
      simp only [perform, get]
      split <;> rfl
    rw [unchanged]
    exact holds
  | put accountId profile service secret entropy now =>
    exact ⟨[_], rfl, holds.put accountId profile service secret entropy now⟩
  | delete accountId profile service =>
    refine ⟨[], rfl, ?_⟩
    have forgets : m.step accounts (.delete accountId profile service) =
        fun triple => if triple = (accountId, profile, service) then none else m triple := by
      funext triple
      exact Function.update_apply m _ none triple
    rw [forgets]
    exact holds.deleteWhere _ (· = (accountId, profile, service)) (by simp)
  | deleteProfile accountId profile =>
    refine ⟨[], rfl, ?_⟩
    exact holds.deleteWhere _ (fun triple => triple.1 = accountId ∧ triple.2.1 = profile)
      (by simp [VaultRow.key])

theorem Holds.run {draws : List Draw} {s : State} {m : SecretMap}
    (holds : Holds encrypt master accounts draws s m) (ops : List Op) :
    ∃ drawn : List Draw, drawn.map Draw.entropy = (ops.filterMap Op.entropy?).reverse ∧
      Holds encrypt master accounts (drawn ++ draws) (performAll encrypt (some master) ops s)
        (ops.foldl (SecretMap.step accounts) m) := by
  induction ops generalizing draws s m with
  | nil => exact ⟨[], rfl, holds⟩
  | cons o ops ih =>
    obtain ⟨drawn, entropies, holds⟩ := holds.step o
    obtain ⟨later, entropies', holds⟩ := ih holds
    refine ⟨later ++ drawn, ?_, by rwa [List.append_assoc]⟩
    rw [List.map_append, entropies, entropies']
    cases drawnBy : o.entropy? with
    | none => simp [drawnBy]
    | some entropy => simp [drawnBy]

theorem Fresh.reverse {drawn : List Entropy} (fresh : Fresh master drawn) :
    Fresh master drawn.reverse where
  nonces := ((drawn.reverse_perm.flatMap_right Entropy.nonces).nodup_iff).mpr fresh.nonces
  keys := (((drawn.reverse_perm.map Entropy.dataKey).cons master).nodup_iff).mpr fresh.keys

/-! ## What a run leaves -/

section
variable {draws : List Draw} {s : State} {m : SecretMap}

theorem Holds.get (holds : Holds encrypt master accounts draws s m)
    (fresh : Fresh master (draws.map Draw.entropy)) (accountId profile service : String) :
    get (some master) accountId profile service s =
      (.ok ((m (accountId, profile, service)).map Json.obj), s) := by
  simp only [Vault.get]
  cases found : s.secrets.find? (accountId, profile, service) with
  | none => simp [holds.rows.absent _ found]
  | some row =>
    obtain ⟨fields, held, draw, drawn, text, secret, kept, rfl, written, same⟩ :=
      holds.rows.row _ row found
    simp only [same, holds.ledger, fresh.opens drawn kept written, held]
    rfl

theorem get_tamper {row : VaultRow} (stored : row ∈ s.secrets) (envelope : Envelope)
    (key : Bytes) :
    (get (some key) row.accountId row.profileName row.service (s.tamper row.key envelope)).1 =
      (openEnvelope envelope key s.ledger).map some := by
  have found : (s.tamper row.key envelope).secrets.find?
      (row.accountId, row.profileName, row.service) = some (row.tamper envelope) := by
    have here : s.secrets.find? (row.accountId, row.profileName, row.service) = some row :=
      Table.find?_self stored
    rw [State.tamper, Table.find?_updateWhere, here]
    simp
  simp only [Vault.get, found]
  rfl

theorem Holds.damaged (holds : Holds encrypt master accounts draws s m)
    (fresh : Fresh master (draws.map Draw.entropy)) {row : VaultRow} (stored : row ∈ s.secrets) :
    (∀ other, other ≠ master →
      (Vault.get (some other) row.accountId row.profileName row.service s).1 =
        .error (.credentialUnavailable unreadable)) ∧
    (∀ field bytes, bytes ≠ row.envelope.field field →
      (Vault.get (some master) row.accountId row.profileName row.service
        (s.tamper row.key (row.envelope.alter bytes field))).1 =
          .error (.credentialUnavailable unreadable)) ∧
    ∀ row' ∈ s.secrets, ∀ mixed, Mixture row.envelope row'.envelope mixed →
      (Vault.get (some master) row.accountId row.profileName row.service
        (s.tamper row.key mixed)).1 = .error (.credentialUnavailable unreadable) := by
  have sealedRows : ∀ r ∈ s.secrets, ∃ fields, RowHolds encrypt master draws r fields := by
    intro r member
    obtain ⟨fields, -, holds⟩ := holds.rows.row r.key r (Table.find?_self member)
    exact ⟨fields, holds⟩
  obtain ⟨fields, draw, drawn, text, secret, kept, -, -, same⟩ := sealedRows row stored
  refine ⟨fun other different => ?_, fun field bytes altered => ?_, fun row' stored' mixed mixture => ?_⟩
  · have found : s.secrets.find? (row.accountId, row.profileName, row.service) = some row :=
      Table.find?_self stored
    have refused : openEnvelope row.envelope other (ledgerOf encrypt master draws) =
        .error (.credentialUnavailable unreadable) :=
      fresh.other_master drawn (by rw [same]; rfl) different
    simp only [Vault.get, found, holds.ledger, refused]
    rfl
  · rw [same] at altered ⊢
    rw [get_tamper stored, holds.ledger, fresh.alter_refused drawn kept altered]
    rfl
  · obtain ⟨fields', draw', drawn', text', secret', kept', -, -, same'⟩ := sealedRows row' stored'
    rw [same, same'] at mixture
    rw [get_tamper stored, holds.ledger, fresh.mixture_refused drawn drawn' kept kept' mixture]
    rfl

end

/-- The vault is a map from triples to secrets. -/
theorem vault_is_map (encrypt : Bytes → Bytes → Bytes → Bytes) (master : Bytes)
    (accounts : List String) (ops : List Op) (fresh : Fresh master (ops.filterMap Op.entropy?)) :
    let s := performAll encrypt (some master) ops (State.empty accounts)
    (∀ accountId profile service,
      perform encrypt (some master) (.get accountId profile service) s =
        (.ok ((mapOf accounts ops (accountId, profile, service)).map Json.obj), s)) ∧
    (∀ accountId profile service secret entropy now,
      (perform encrypt (some master) (.put accountId profile service secret entropy now) s).1 =
        .ok () ↔ Accepts accounts accountId secret now) ∧
    (∀ s' accountId profile service secret entropy now,
      perform encrypt none (.get accountId profile service) s' =
          (.error (.vaultSealed sealedMessage), s') ∧
        perform encrypt none (.put accountId profile service secret entropy now) s' =
          (.error (.vaultSealed sealedMessage), s')) ∧
    ∀ row ∈ s.secrets,
      (∀ other, other ≠ master →
        (Vault.get (some other) row.accountId row.profileName row.service s).1 =
          .error (.credentialUnavailable unreadable)) ∧
      (∀ field bytes, bytes ≠ row.envelope.field field →
        (Vault.get (some master) row.accountId row.profileName row.service
          (s.tamper row.key (row.envelope.alter bytes field))).1 =
            .error (.credentialUnavailable unreadable)) ∧
      ∀ row' ∈ s.secrets, ∀ mixed, Mixture row.envelope row'.envelope mixed →
        (Vault.get (some master) row.accountId row.profileName row.service
          (s.tamper row.key mixed)).1 = .error (.credentialUnavailable unreadable) := by
  have nothing : Holds encrypt master accounts [] (State.empty accounts) fun _ => none := .empty
  obtain ⟨draws, entropies, holds⟩ := nothing.run ops
  rw [List.append_nil] at holds
  have fresh : Fresh master (draws.map Draw.entropy) := by
    rw [entropies]
    exact fresh.reverse
  refine ⟨holds.get fresh, fun accountId profile service secret entropy now => ?_,
    fun _ _ _ _ _ _ _ => ⟨rfl, rfl⟩, fun row stored => holds.damaged fresh stored⟩
  have outcome := @put_cases encrypt master accountId profile service secret entropy now
    (performAll encrypt (some master) ops (State.empty accounts))
  rw [holds.accounts] at outcome
  rcases outcome with ⟨accepted, text, column, -, same⟩ | ⟨refused, e, same⟩
  · simp [perform, same, accepted]
  · simp [perform, same, refused]

/-! ### Two secrets under a master of zeros -/

def filled (n : Nat) (byte : UInt8) : Bytes := ⟨Array.replicate n byte⟩

def firstEntropy : Entropy := ⟨filled 32 1, filled 12 1, filled 12 2⟩

def secondEntropy : Entropy := ⟨filled 32 2, filled 12 3, filled 12 4⟩

/-- AES-256-GCM, on the four encryptions of this run. -/
def aesGcm (_key nonce _data : Bytes) : Bytes :=
  if nonce = filled 12 1 then
    ⟨#[116, 65, 194, 107, 123, 136, 121, 252, 99, 183, 229, 135, 186, 46, 125, 104, 189, 100, 237,
      90, 14, 231, 52, 55, 14, 180, 16, 177, 254, 238, 166, 237, 156, 145, 31, 216, 34, 101, 142,
      202, 120, 129, 15, 75, 150, 98, 153, 78]⟩
  else if nonce = filled 12 2 then
    ⟨#[124, 244, 168, 57, 35, 8, 170, 152, 170, 238, 134, 232, 126, 204, 224, 207, 8, 6, 254, 138,
      72, 79, 83, 109, 43, 65, 126, 73, 196, 216, 115, 43]⟩
  else if nonce = filled 12 3 then
    ⟨#[154, 49, 54, 38, 200, 4, 62, 146, 37, 53, 23, 20, 175, 37, 196, 27, 189, 168, 156, 12, 60, 7,
      211, 125, 175, 160, 190, 253, 221, 246, 220, 0, 85, 87, 65, 56, 41, 162, 92, 27, 140, 250, 30,
      242, 162, 157, 204, 110]⟩
  else
    ⟨#[127, 49, 33, 88, 10, 17, 57, 71, 2, 25, 213, 90, 68, 213, 33, 236, 255, 154]⟩

/-- `{"api_key": "k"}` for one service and `{}` for another. -/
def twoPuts : List Op :=
  [.put "acct" "main" "spotify" ⟨[("api_key", .str "k")], by simp [Json.Proper, Json.ProperFields]⟩
      firstEntropy 0,
    .put "acct" "main" "github" ⟨[], by simp [Json.Proper, Json.ProperFields]⟩ secondEntropy 0]

theorem vault_is_map_twoPuts :
    let s := performAll aesGcm (some (filled 32 0)) twoPuts (State.empty ["acct"])
    (∀ accountId profile service,
      perform aesGcm (some (filled 32 0)) (.get accountId profile service) s =
        (.ok ((mapOf ["acct"] twoPuts (accountId, profile, service)).map Json.obj), s)) ∧
    (∀ accountId profile service secret entropy now,
      (perform aesGcm (some (filled 32 0))
        (.put accountId profile service secret entropy now) s).1 = .ok () ↔
          Accepts ["acct"] accountId secret now) ∧
    (∀ s' accountId profile service secret entropy now,
      perform aesGcm none (.get accountId profile service) s' =
          (.error (.vaultSealed sealedMessage), s') ∧
        perform aesGcm none (.put accountId profile service secret entropy now) s' =
          (.error (.vaultSealed sealedMessage), s')) ∧
    ∀ row ∈ s.secrets,
      (∀ other, other ≠ filled 32 0 →
        (Vault.get (some other) row.accountId row.profileName row.service s).1 =
          .error (.credentialUnavailable unreadable)) ∧
      (∀ field bytes, bytes ≠ row.envelope.field field →
        (Vault.get (some (filled 32 0)) row.accountId row.profileName row.service
          (s.tamper row.key (row.envelope.alter bytes field))).1 =
            .error (.credentialUnavailable unreadable)) ∧
      ∀ row' ∈ s.secrets, ∀ mixed, Mixture row.envelope row'.envelope mixed →
        (Vault.get (some (filled 32 0)) row.accountId row.profileName row.service
          (s.tamper row.key mixed)).1 = .error (.credentialUnavailable unreadable) :=
  vault_is_map aesGcm (filled 32 0) ["acct"] twoPuts ⟨by decide, by decide⟩

end Keyring.Vault

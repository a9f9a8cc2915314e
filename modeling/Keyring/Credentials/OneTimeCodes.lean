import Keyring.FixedWidth
import Keyring.Credentials.MaterialErrors
import Keyring.Python.Base32Keys
import Keyring.Python.Floats

/-!
# The codes of a seed

`totp_code` beside the code that RFC 6238 defines.  A seed is read as people copy it
from an authenticator app; the time is an integer or a float, and the time step that a
float gives is the one of the interpreter's floor division.
-/

set_option autoImplicit false

namespace Keyring

open FixedPrecision

/-! ## The standard -/

/-- RFC 4226, section 5.3: four bytes from where the last four bits point to, without
the first bit. -/
def truncate (digest : Vector UInt8 20) : Nat :=
  let offset := Fin.ofNat 16 (digest.get 19).toNat
  have inside := offset.isLt
  Positional.value 256 0
    [digest[offset.val].toNat % 128, digest[offset.val + 1].toNat,
      digest[offset.val + 2].toNat, digest[offset.val + 3].toNat]

/-- The code of a key and a counter, six decimal digits. -/
def hotp (hmac : List UInt8 → List UInt8 → Vector UInt8 20) (key : List UInt8)
    (counter : Nat) : List Char :=
  FixedWidth.digits 6 (truncate (hmac key (bigEndian 8 counter)) % 10 ^ 6)

theorem hotp_length (hmac : List UInt8 → List UInt8 → Vector UInt8 20) (key : List UInt8)
    (counter : Nat) : (hotp hmac key counter).length = 6 := FixedWidth.digits_length _ _

theorem digit_isDigit {n : Nat} (small : n < 10) : (FixedWidth.digit n).isDigit = true := by
  have each : ∀ d < 10, (FixedWidth.digit d).isDigit = true := by decide
  exact each n small

theorem digits_isDigit (width n : Nat) : ∀ c ∈ FixedWidth.digits width n, c.isDigit = true := by
  induction width with
  | zero => simp [FixedWidth.digits]
  | succ width ih =>
      intro c member
      rcases List.mem_cons.mp member with rfl | later
      · exact digit_isDigit (Nat.mod_lt _ (by decide))
      · exact ih c later

/-! ## The truncation -/

/-- `digest[-1] & 0x0F` -/
def truncationOffset (digest : Vector UInt8 20) : Nat := (digest.get 19 &&& 0x0f).toNat

/-- `digest[offset : offset + 4]` -/
def truncationSlice (digest : Vector UInt8 20) : List UInt8 :=
  (digest.toList.drop (truncationOffset digest)).take 4

theorem truncateDigest_slice (digest : Vector UInt8 20) :
    Python.truncateDigest digest = (do
      let word ← structUnpack (truncationSlice digest)
      .ok (zfill defaultDigits (toString ((word &&& 0x7fffffff) % 10 ^ defaultDigits)))) := rfl

theorem truncationOffset_eq (digest : Vector UInt8 20) :
    truncationOffset digest = (digest.get 19).toNat % 16 := by
  rw [truncationOffset, UInt8.toNat_and]
  exact Nat.and_two_pow_sub_one_eq_mod _ 4

theorem truncationOffset_le (digest : Vector UInt8 20) : truncationOffset digest + 4 ≤ 20 := by
  rw [truncationOffset_eq]
  omega

theorem slice_four {α : Type} {l : List α} {i : Nat} (inside : i + 4 ≤ l.length) :
    (l.drop i).take 4 = [l[i], l[i + 1], l[i + 2], l[i + 3]] := by
  rw [List.drop_eq_getElem_cons (by omega), List.drop_eq_getElem_cons (by omega),
    List.drop_eq_getElem_cons (by omega), List.drop_eq_getElem_cons (by omega)]
  rfl

theorem truncationSlice_length (digest : Vector UInt8 20) :
    (truncationSlice digest).length = 4 := by
  have inside := truncationOffset_le digest
  have length : digest.toList.length = 20 := digest.length_toList
  rw [truncationSlice, List.length_take, List.length_drop]
  omega

theorem value_four (a b c d : Nat) (hb : b < 256) (hc : c < 256) (hd : d < 256) :
    Positional.value 256 0 [a % 128, b, c, d] = Positional.value 256 0 [a, b, c, d] % 2 ^ 31 := by
  simp only [Positional.value_cons, Positional.value_nil]
  omega

theorem structUnpack_slice (digest : Vector UInt8 20) :
    ∃ word, structUnpack (truncationSlice digest) = .ok word ∧
      word &&& 0x7fffffff = truncate digest := by
  have inside := truncationOffset_le digest
  have length : digest.toList.length = 20 := digest.length_toList
  refine ⟨_, if_pos (truncationSlice_length digest), ?_⟩
  have masked := Nat.and_two_pow_sub_one_eq_mod
    ((truncationSlice digest).foldl (fun n byte => n * 256 + byte.toNat) 0) 31
  have offset : (Fin.ofNat 16 (digest.get 19).toNat).val = truncationOffset digest := by
    rw [truncationOffset_eq]
    rfl
  refine Eq.trans masked ?_
  simp only [truncate, offset]
  rw [value_four _ _ _ _ (UInt8.toNat_lt _) (UInt8.toNat_lt _) (UInt8.toNat_lt _),
    truncationSlice, slice_four (by omega)]
  rfl

theorem zfill_eq {n : Nat} (fits : n < 10 ^ 6) :
    zfill defaultDigits (toString n) = String.ofList (FixedWidth.digits 6 n) := by
  have filled := FixedWidth.replicate_append_toDigits fits
  rw [zfill, Nat.toString_eq_ofList_toDigits, String.toList_ofList, ← String.ofList_append,
    ← filled]
  rfl

/-- The code that is made from a digest. -/
theorem truncateDigest_eq (digest : Vector UInt8 20) :
    Python.truncateDigest digest =
      .ok (String.ofList (FixedWidth.digits 6 (truncate digest % 10 ^ 6))) := by
  obtain ⟨word, unpacked, masked⟩ := structUnpack_slice digest
  have fits : truncate digest % 10 ^ 6 < 10 ^ 6 := Nat.mod_lt _ (by decide)
  rw [truncateDigest_slice, unpacked, ← zfill_eq fits, ← masked]
  rfl

/-! ## The time step -/

/-- A `unix_time` that is not negative. -/
inductive UnixSeconds where
  | int (n : Nat)
  | float (x : Double)

namespace UnixSeconds

/-- `int(unix_time // period_seconds)` -/
def counter : UnixSeconds → Nat
  | .int n => n / defaultPeriodSeconds.toNat
  | .float x => (floorDiv x (Number.ratio defaultPeriodSeconds.toNat 1)).toNat

/-- RFC 6238, section 4.2: the whole periods of thirty seconds. -/
def timeStep : UnixSeconds → Nat
  | .int n => n / 30
  | .float x => x.units / (30 * binary64.one)

def Below (bound : Nat) : UnixSeconds → Prop
  | .int n => n < bound
  | .float x => x.units < bound * binary64.one

/-- A time whose step the interpreter computes: any integer, and a float that is not
more than two billion years away. -/
def Precise : UnixSeconds → Prop
  | .int _ => True
  | .float x => x.units < 2 ^ 56 * binary64.one

/-- The microseconds that have passed. -/
def instant : UnixSeconds → Instant
  | .int n => seconds n
  | .float x => (x.units * 1000000 / binary64.one : Nat)

end UnixSeconds

theorem period_units : (Number.ratio defaultPeriodSeconds.toNat 1 : Double).units =
    30 * binary64.one := by
  have few : defaultPeriodSeconds.toNat ≤ 2 ^ (binary64.fraction + 1) := by
    rw [binary64_fraction]
    decide
  rw [Number.ratio_one_units few]
  rfl

/-- The floats below that many seconds stay clear of them. -/
theorem float_gap {x : Double} (early : x.units < 30 * 2 ^ 64 * binary64.one) :
    x.units ≤ 30 * binary64.one * (2 ^ 64 - 2 ^ 11) := by
  have pos := binary64.one_pos
  by_cases large : 2 ^ 68 * binary64.one ≤ x.units
  · have wide : 2 ^ (binary64.fraction + (16 + binary64.scale)) ≤ x.units := by
      rw [← Nat.add_assoc, Nat.pow_add, binary64_fraction]
      exact large
    obtain ⟨k, same⟩ := x.representable.dvd wide
    rw [Nat.pow_add, ← Format.one] at same
    have few : k < 30 * 2 ^ 48 := by
      apply Nat.lt_of_mul_lt_mul_left (a := 2 ^ 16 * binary64.one)
      omega
    have most := Nat.mul_le_mul_left (2 ^ 16 * binary64.one) (Nat.le_sub_one_of_lt few)
    omega
  · omega

theorem counter_le {x : Double} (early : x.units < 30 * 2 ^ 64 * binary64.one) :
    (UnixSeconds.float x).counter ≤ 2 ^ 64 - 2 ^ 11 := by
  have representable : binary64.Representable ((2 ^ 64 - 2 ^ 11) * binary64.one) := by
    have few : 2 ^ 53 - 1 ≤ 2 ^ (binary64.fraction + 1) := by
      rw [binary64_fraction]
      decide
    have multiple := Format.representable_mul few (11 + binary64.scale)
    rwa [Nat.pow_add, ← Nat.mul_assoc] at multiple
  have pos := binary64.one_pos
  apply floorDiv_le binary64_scale
  · rw [period_units]
    omega
  · exact representable
  · rw [period_units]
    exact float_gap early

theorem counter_lt {time : UnixSeconds} (early : time.Below (30 * 2 ^ 64)) :
    time.counter < 2 ^ 64 := by
  cases time with
  | int n => exact Nat.div_lt_of_lt_mul early
  | float x =>
      have most := counter_le early
      omega

/-- What the two roundings add up to in less than a half of thirty seconds. -/
theorem float_counter {x : Double} (precise : x.units < 2 ^ 56 * binary64.one) :
    (UnixSeconds.float x).counter = x.units / (30 * binary64.one) := by
  have pos := binary64.one_pos
  have half : 2 * 2 ^ (binary64.scale - 1) = binary64.one := by
    rw [Format.one, ← Nat.pow_succ']
    congr 1
    have divisible := binary64_scale
    omega
  rw [← period_units]
  apply floorDiv_exact binary64_scale (d := 3 + binary64.scale) (e := binary64.scale - 1)
  · rw [← Nat.add_assoc, Nat.pow_add, binary64_fraction]
    exact precise
  · rw [period_units, Nat.pow_add, binary64_fraction]
    generalize 2 ^ (binary64.scale - 1) = h at half ⊢
    have room : x.units < 30 * (2 ^ (52 + 1) * h) := by omega
    calc x.units * binary64.one < 30 * (2 ^ (52 + 1) * h) * binary64.one :=
          Nat.mul_lt_mul_of_pos_right room pos
      _ = 30 * binary64.one * (2 ^ (52 + 1) * h) := by ring
  · rw [period_units, Nat.pow_add, ← Format.one]
    generalize 2 ^ (binary64.scale - 1) = h at half ⊢
    have room : 30 * h + 2 ^ 3 * binary64.one < 30 * binary64.one := by omega
    calc 30 * binary64.one * h + binary64.one * (2 ^ 3 * binary64.one) =
          binary64.one * (30 * h + 2 ^ 3 * binary64.one) := by ring
      _ < binary64.one * (30 * binary64.one) := Nat.mul_lt_mul_of_pos_left room pos
      _ = 30 * binary64.one * binary64.one := by ring

theorem counter_eq_timeStep {time : UnixSeconds} (precise : time.Precise) :
    time.counter = time.timeStep := by
  cases time with
  | int n => rfl
  | float x => exact float_counter precise

/-! ## Seeds as they are written down -/

/-- A text that copies some symbols out, each in either case, with spaces and dashes
anywhere. -/
inductive Copied : List Char → List Char → Prop where
  | nil : Copied [] []
  | space {symbols text : List Char} : Copied symbols text → Copied symbols (' ' :: text)
  | dash {symbols text : List Char} : Copied symbols text → Copied symbols ('-' :: text)
  | upper {symbols text : List Char} (s : Char) :
      Copied symbols text → Copied (s :: symbols) (s :: text)
  | lower {symbols text : List Char} (s : Char) :
      Copied symbols text → Copied (s :: symbols) (s.toLower :: text)

theorem copied_self (symbols : List Char) : Copied symbols symbols := by
  induction symbols with
  | nil => exact .nil
  | cons s _ ih => exact .upper s ih

/-- The digits of a base32 text; not every number of them fills whole bytes. -/
structure Seed where
  digits : List Char
  base32 : IsBase32 digits
  complete : digits.length % 8 ∈ [0, 2, 4, 5, 7]

namespace Seed

def key (seed : Seed) : List UInt8 := base32Key seed.digits

/-- With the padding, with a part of it or without. -/
def Written (seed : Seed) (text : String) : Prop :=
  ∃ n ≤ base32Padding seed.digits.length,
    Copied (seed.digits ++ List.replicate n '=') text.toList

end Seed

section Cleaning

variable (python : Python)

/-- What the clean-up does to a character that stands for a symbol. -/
def Cleans (c s : Char) : Prop := inAscii c = true ∧ c.toUpper = s ∧ c ≠ ' ' ∧ c ≠ '-'

instance (c s : Char) : Decidable (Cleans c s) := inferInstanceAs (Decidable (_ ∧ _))

theorem symbol_spec {s : Char} (symbol : s ∈ '=' :: base32Alphabet) :
    Cleans s s ∧ Cleans s.toLower s := by
  have each : ('=' :: base32Alphabet).all fun s => decide (Cleans s s ∧ Cleans s.toLower s) := by
    decide
  exact of_decide_eq_true (List.all_eq_true.mp each s symbol)

theorem clean_copied {symbols text : List Char} (copied : Copied symbols text)
    (all : ∀ s ∈ symbols, s ∈ '=' :: base32Alphabet) :
    ((text.filter (· ≠ ' ')).filter (· ≠ '-')).flatMap python.upperChar = symbols := by
  induction copied with
  | nil => rfl
  | space _ ih => simpa using ih all
  | dash _ ih => simpa using ih all
  | upper s _ ih =>
      obtain ⟨symbol, others⟩ := List.forall_mem_cons.mp all
      obtain ⟨ascii, same, blank, dash⟩ := (symbol_spec symbol).1
      have rest := ih others
      simp_all [Python.upperChar]
  | lower s _ ih =>
      obtain ⟨symbol, others⟩ := List.forall_mem_cons.mp all
      obtain ⟨ascii, same, blank, dash⟩ := (symbol_spec symbol).2
      have rest := ih others
      simp_all [Python.upperChar]

theorem padSeed_written {seed : Seed} {text : String} (written : seed.Written text) :
    python.padSeed text =
      seed.digits ++ List.replicate (base32Padding seed.digits.length) '=' := by
  obtain ⟨n, few, copied⟩ := written
  have symbols : ∀ s ∈ seed.digits ++ List.replicate n '=', s ∈ '=' :: base32Alphabet := by
    intro s member
    rcases List.mem_append.mp member with digit | padding
    · exact List.mem_cons_of_mem _ (seed.base32 s digit)
    · rw [List.eq_of_mem_replicate padding]
      exact List.mem_cons_self
  have cleaned : python.cleanSeed text = seed.digits ++ List.replicate n '=' :=
    clean_copied python copied symbols
  have total : n + (8 - (seed.digits.length + n) % 8) % 8 = base32Padding seed.digits.length := by
    rw [base32Padding] at few ⊢
    omega
  rw [Python.padSeed, cleaned, List.length_append, List.length_replicate, List.append_assoc,
    List.replicate_append_replicate, total]

theorem decodeSeed_written {seed : Seed} {text : String} (written : seed.Written text) :
    python.decodeSeed text = .ok seed.key := by
  rw [Python.decodeSeed, padSeed_written python written,
    b32decode_padded seed.base32 seed.complete]
  rfl

end Cleaning

/-! ## The codes -/

/-- `totp_code` with the time as it is read. -/
def Python.totpCodeAt (python : Python) (seed : String) (time : UnixSeconds) :
    Except Exception String := do
  let key ← python.decodeSeed seed
  let message ← structPack time.counter
  truncateDigest (python.hmacSha1 key message)

/-- RFC 6238: the code of the time step. -/
def totp (hmac : List UInt8 → List UInt8 → Vector UInt8 20) (key : List UInt8)
    (time : UnixSeconds) : List Char := hotp hmac key time.timeStep

theorem totpCode_eq (python : Python) (seed : String) {now : UnixTime} {time : UnixSeconds}
    (read : now.counter = .ok (time.counter : Int)) :
    python.totpCode seed now = python.totpCodeAt seed time := by
  rw [Python.totpCode, read]
  rfl

theorem structPack_eq {counter : Nat} (fits : counter < 2 ^ 64) :
    structPack counter = .ok (bigEndian 8 counter) := by
  have bytes : counter < 256 ^ 8 := fits
  rw [structPack, if_pos (Int.natCast_nonneg _), Int.toNat_natCast, toBytes_eq bytes]
  rfl

theorem totpCodeAt_eq (python : Python) {seed : Seed} {text : String}
    (written : seed.Written text) {time : UnixSeconds} (early : time.Below (30 * 2 ^ 64)) :
    python.totpCodeAt text time =
      .ok (String.ofList (hotp python.hmacSha1 seed.key time.counter)) := by
  simp only [Python.totpCodeAt, decodeSeed_written python written,
    structPack_eq (counter_lt early), truncateDigest_eq, bind, Except.bind]
  rfl

/-- Every way of writing a seed down gives one code at a time: six digits, those of the
standard where the interpreter computes the time step. -/
theorem totp_code_standard (python : Python) (seed : Seed) {text : String}
    (written : seed.Written text) {time : UnixSeconds} (early : time.Below (30 * 2 ^ 64)) :
    python.totpCodeAt text time =
        .ok (String.ofList (hotp python.hmacSha1 seed.key time.counter)) ∧
      (∀ now : UnixTime, now.counter = .ok (time.counter : Int) →
        PasswordCredential.code python text now =
          .ok (String.ofList (hotp python.hmacSha1 seed.key time.counter))) ∧
      (time.Precise →
        hotp python.hmacSha1 seed.key time.counter = totp python.hmacSha1 seed.key time) ∧
      time.counter < 2 ^ 64 ∧
      (hotp python.hmacSha1 seed.key time.counter).length = 6 ∧
      (∀ c ∈ hotp python.hmacSha1 seed.key time.counter, c.isDigit = true) ∧
      ∀ digest, truncationOffset digest + 4 ≤ 20 ∧ (truncationSlice digest).length = 4 := by
  have code := totpCodeAt_eq python written early
  have used : ∀ now : UnixTime, now.counter = .ok (time.counter : Int) →
      PasswordCredential.code python text now =
        .ok (String.ofList (hotp python.hmacSha1 seed.key time.counter)) := by
    intro now read
    rw [PasswordCredential.code, totpCode_eq python text read, code]
  have standard : time.Precise →
      hotp python.hmacSha1 seed.key time.counter = totp python.hmacSha1 seed.key time := by
    intro precise
    rw [totp, counter_eq_timeStep precise]
  exact ⟨code, used, standard, counter_lt early, hotp_length _ _ _, digits_isDigit _ _,
    fun digest => ⟨truncationOffset_le digest, truncationSlice_length digest⟩⟩

namespace Scenario

/-- The key of the published vectors. -/
def publishedSeed : Seed where
  digits := "GEZDGNBVGY3TQOJQGEZDGNBVGY3TQOJQ".toList
  base32 := by decide
  complete := by decide

/-- The digest of the counter 1 under that key. -/
def publishedDigest : Vector UInt8 20 :=
  ⟨#[0x75, 0xa4, 0x8a, 0x19, 0xd4, 0xcb, 0xe1, 0x00, 0x64, 0x4e,
    0x8a, 0xc1, 0x39, 0x7e, 0xea, 0x74, 0x7a, 0x2d, 0x33, 0xab], rfl⟩

def published : Python :=
  { interpreter with
    hmacSha1 := fun key message =>
      if key = "12345678901234567890".toUTF8.toList ∧ message = bigEndian 8 1 then publishedDigest
      else Vector.replicate 20 0 }

/-- Its codes show the last byte of the counter. -/
def counting : Python :=
  { interpreter with
    hmacSha1 := fun _ message => (Vector.replicate 20 0).set 3 (message.getLastD 0) }

/-- A float from which on the neighbours are sixteen seconds away. -/
def farFloat : UnixSeconds := .float (Number.ratio (2 ^ 56 + 112) 1)

theorem published_written : publishedSeed.Written "gezd gnbv-GY3T qojq gezd-gnbv-gy3t-qojq" := by
  refine ⟨0, by decide, ?_⟩
  have text : "gezd gnbv-GY3T qojq gezd-gnbv-gy3t-qojq".toList =
      ['g', 'e', 'z', 'd', ' ', 'g', 'n', 'b', 'v', '-', 'G', 'Y', '3', 'T', ' ', 'q', 'o', 'j', 'q', ' ',
        'g', 'e', 'z', 'd', '-', 'g', 'n', 'b', 'v', '-', 'g', 'y', '3', 't', '-', 'q', 'o', 'j', 'q'] := by
    decide
  rw [text]
  repeat first
    | exact .nil
    | apply Copied.space
    | apply Copied.dash
    | apply Copied.upper
    | apply Copied.lower

theorem plain_written : publishedSeed.Written (String.ofList publishedSeed.digits) := by
  refine ⟨0, Nat.zero_le _, ?_⟩
  rw [List.replicate_zero, List.append_nil, String.toList_ofList]
  exact copied_self _

theorem farFloat_early : farFloat.Below (30 * 2 ^ 64) := by
  unfold UnixSeconds.Below farFloat
  decide +kernel

end Scenario

open Scenario in
/-- The code of the published vectors at 59 seconds. -/
theorem totp_code_standard_published :
    published.totpCodeAt "gezd gnbv-GY3T qojq gezd-gnbv-gy3t-qojq" (.int 59) = .ok "287082" := by
  have early : (UnixSeconds.int 59).Below (30 * 2 ^ 64) := by
    unfold UnixSeconds.Below
    decide
  have code : hotp published.hmacSha1 publishedSeed.key (UnixSeconds.int 59).counter =
      ['2', '8', '7', '0', '8', '2'] := by
    decide +kernel
  have made := (totp_code_standard published publishedSeed published_written early).1
  rw [code] at made
  exact made

open Scenario in
theorem totp_far_float :
    ¬ ∀ (python : Python) (seed : Seed) (text : String), seed.Written text →
      ∀ time : UnixSeconds, time.Below (30 * 2 ^ 64) →
        python.totpCodeAt text time =
          .ok (String.ofList (totp python.hmacSha1 seed.key time)) := by
  intro standard
  have expected := standard counting publishedSeed _ plain_written farFloat farFloat_early
  rw [totpCodeAt_eq counting plain_written farFloat_early] at expected
  have codes : hotp counting.hmacSha1 publishedSeed.key farFloat.counter ≠
      totp counting.hmacSha1 publishedSeed.key farFloat := by
    decide +kernel
  exact codes (String.ofList_injective (Except.ok.inj expected))

end Keyring

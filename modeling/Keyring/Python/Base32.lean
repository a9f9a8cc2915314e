import Keyring.Python.Objects

/-!
# `base64.b32decode`

Every text that is not base32 is refused with a `ValueError`, whichever of its
checks finds out; in particular the groups of digits never overflow the bytes
they are written to.
-/

set_option autoImplicit false

namespace Keyring

def inAscii (c : Char) : Bool := c.toNat < 128

/-- How an error writes a character that cannot be encoded. -/
def escaped (c : Char) : List Char :=
  if c.toNat ≤ 0xff then ['\\', 'x'] ++ hexDigits 2 c.toNat
  else if c.toNat ≤ 0xffff then ['\\', 'u'] ++ hexDigits 4 c.toNat
  else ['\\', 'U'] ++ hexDigits 8 c.toNat

/-- The `UnicodeEncodeError` about the first run of characters that are not ASCII.  Among
its arguments is the whole text. -/
def encodeError (s : List Char) : Exception :=
  let start := (s.takeWhile inAscii).length
  let what :=
    match (s.dropWhile inAscii).takeWhile (!inAscii ·) with
    | [c] => s!"character '{String.ofList (escaped c)}' in position {start}"
    | run => s!"characters in position {start}-{start + run.length - 1}"
  ⟨.value, s!"'ascii' codec can't encode {what}: ordinal not in range(128)",
    ["ascii", String.ofList s, "ordinal not in range(128)"]⟩

/-- `_bytes_from_decode_data`; an ASCII character is its own byte. -/
def bytesFromDecodeData (s : List Char) : Except Exception (List Char) :=
  if s.all inAscii then .ok s
  else .error (Exception.during
    ⟨.value, "string argument should contain only ASCII characters", []⟩ (encodeError s))

def base32Alphabet : List Char := "ABCDEFGHIJKLMNOPQRSTUVWXYZ234567".toList

/-- `from None` leaves the `KeyError` of the lookup in the context. -/
def notDigit (c : Char) : Exception :=
  Exception.during ⟨.value, "Non-base32 digit found", []⟩ ⟨.key, toString c.toNat, []⟩

def base32Digit (c : Char) : Except Exception Nat :=
  if c ∈ base32Alphabet then .ok (base32Alphabet.idxOf c) else .error (notDigit c)

/-- The number that some digits stand for, after `acc`. -/
def base32Value : Nat → List Char → Except Exception Nat
  | acc, [] => .ok acc
  | acc, c :: rest => do
      let digit ← base32Digit c
      base32Value (acc * 32 + digit) rest

/-- `int.to_bytes`, most significant byte first. -/
def toBytes (width n : Nat) : Except Exception (List UInt8) :=
  if n < 256 ^ width then
    .ok ((List.range width).reverse.map fun i => UInt8.ofNat (n / 256 ^ i % 256))
  else .error ⟨.overflow, "int too big to convert", []⟩

/-- `s[i : i + 8]` for `i` in `range(0, len(s), 8)`. -/
def quanta (s : List Char) : List (List Char) :=
  (List.range ((s.length + 7) / 8)).map fun i => (s.drop (8 * i)).take 8

/-- What is left when the padding is stripped from the right. -/
def base32Digits (s : List Char) : List Char :=
  ((s.map Char.toUpper).reverse.dropWhile (· = '=')).reverse

/-- The bytes of all groups of digits, and the number of the last group. -/
def decodeQuanta : List UInt8 → Nat → List (List Char) → Except Exception (List UInt8 × Nat)
  | decoded, acc, [] => .ok (decoded, acc)
  | decoded, _, quantum :: rest => do
      let acc ← base32Value 0 quantum
      let bytes ← toBytes 5 acc
      decodeQuanta (decoded ++ bytes) acc rest

def incorrectPadding : Exception := ⟨.value, "Incorrect padding", []⟩

/-- `base64.b32decode(s, casefold=True)` -/
def b32decode (text : List Char) : Except Exception (List UInt8) := do
  let s ← bytesFromDecodeData text
  if s.length % 8 ≠ 0 then .error incorrectPadding
  else do
    let digits := base32Digits s
    let padchars := s.length - digits.length
    let (decoded, acc) ← decodeQuanta [] 0 (quanta digits)
    if padchars ∉ [0, 1, 3, 4, 6] then .error incorrectPadding
    else if padchars ≠ 0 ∧ decoded ≠ [] then do
      let last ← toBytes 5 (acc * 32 ^ padchars)
      .ok (decoded.take (decoded.length - 5) ++ last.take ((43 - 5 * padchars) / 8))
    else .ok decoded

/-! ## What is refused -/

def foreign? (digits : List Char) : Option Char := digits.find? (· ∉ base32Alphabet)

/-- Why a text is not base32, in all that the exceptions that say so can show. -/
def base32Refusal (s : List Char) : List String :=
  if ¬ s.all inAscii = true then
    "string argument should contain only ASCII characters" :: (encodeError s).texts
  else if s.length % 8 ≠ 0 then ["Incorrect padding"]
  else
    match foreign? (base32Digits s) with
    | some c => ["Non-base32 digit found", toString c.toNat]
    | none =>
        if s.length - (base32Digits s).length ∉ [0, 1, 3, 4, 6] then ["Incorrect padding"] else []

theorem base32Value_error {digits : List Char} {e : Exception} :
    ∀ {acc : Nat}, base32Value acc digits = .error e →
      ∃ c, foreign? digits = some c ∧ e = notDigit c := by
  induction digits with
  | nil => intro acc failed; simp [base32Value] at failed
  | cons c rest ih =>
      intro acc failed
      by_cases digit : c ∈ base32Alphabet
      · simp only [base32Value, base32Digit, if_pos digit, bind, Except.bind] at failed
        obtain ⟨d, found, same⟩ := ih failed
        refine ⟨d, ?_, same⟩
        rw [foreign?, List.find?_cons_of_neg (by simpa using digit)]
        exact found
      · simp only [base32Value, base32Digit, if_neg digit, bind, Except.bind,
          Except.error.injEq] at failed
        exact ⟨c, List.find?_cons_of_pos (by simpa using digit), failed.symm⟩

theorem base32Value_foreign {digits : List Char} {n : Nat} :
    ∀ {acc : Nat}, base32Value acc digits = .ok n → foreign? digits = none := by
  induction digits with
  | nil => intro acc _; rfl
  | cons c rest ih =>
      intro acc read
      by_cases digit : c ∈ base32Alphabet
      · simp only [base32Value, base32Digit, if_pos digit, bind, Except.bind] at read
        rw [foreign?, List.find?_cons_of_neg (by simpa using digit)]
        exact ih read
      · simp only [base32Value, base32Digit, if_neg digit, bind, Except.bind] at read
        cases read

theorem base32Digit_lt {c : Char} {n : Nat} (read : base32Digit c = .ok n) : n < 32 := by
  unfold base32Digit at read
  split at read
  · rename_i member
    obtain rfl := Except.ok.inj read
    exact List.idxOf_lt_length_of_mem member
  · cases read

theorem base32Value_lt {digits : List Char} :
    ∀ {acc n : Nat}, base32Value acc digits = .ok n → n < (acc + 1) * 32 ^ digits.length := by
  induction digits with
  | nil =>
      intro acc n read
      simp only [base32Value, Except.ok.injEq] at read
      simp [read]
  | cons c rest ih =>
      intro acc n read
      cases found : base32Digit c with
      | error e =>
          rw [base32Value, found] at read
          cases read
      | ok digit =>
          rw [base32Value, found] at read
          have bound := ih read
          have small := base32Digit_lt found
          calc n < (acc * 32 + digit + 1) * 32 ^ rest.length := bound
            _ ≤ (acc + 1) * 32 * 32 ^ rest.length := Nat.mul_le_mul_right _ (by omega)
            _ = (acc + 1) * 32 ^ (rest.length + 1) := by rw [Nat.pow_succ, Nat.mul_assoc,
                Nat.mul_comm 32]

theorem toBytes_ok {width n : Nat} (fits : n < 256 ^ width) :
    ∃ bytes, toBytes width n = .ok bytes := by
  rw [toBytes, if_pos fits]
  exact ⟨_, rfl⟩

/-- Eight digits fill five bytes. -/
theorem quantum_fits {quantum : List Char} {n : Nat} (short : quantum.length ≤ 8)
    (read : base32Value 0 quantum = .ok n) : n < 256 ^ 5 := by
  have bound := base32Value_lt read
  have most : 32 ^ quantum.length ≤ 32 ^ 8 := Nat.pow_le_pow_right (by decide) short
  have same : 32 ^ 8 = 256 ^ 5 := by decide
  omega

theorem quanta_length {s quantum : List Char} (member : quantum ∈ quanta s) :
    quantum.length ≤ 8 := by
  obtain ⟨i, -, rfl⟩ := List.mem_map.mp member
  exact List.length_take_le _ _

theorem quanta_flatten (s : List Char) : (quanta s).flatten = s := by
  have prefixes : ∀ n, ((List.range n).map fun i => (s.drop (8 * i)).take 8).flatten =
      s.take (8 * n) := by
    intro n
    induction n with
    | zero => simp
    | succ n ih => simp [List.range_succ, ih, Nat.mul_succ, List.take_add]
  rw [quanta, prefixes]
  exact List.take_of_length_le (by omega)

theorem decodeQuanta_error {groups : List (List Char)}
    (short : ∀ quantum ∈ groups, quantum.length ≤ 8) {e : Exception} :
    ∀ {decoded : List UInt8} {acc : Nat}, decodeQuanta decoded acc groups = .error e →
      ∃ c, foreign? groups.flatten = some c ∧ e = notDigit c := by
  induction groups with
  | nil => intro decoded acc failed; simp [decodeQuanta] at failed
  | cons quantum rest ih =>
      intro decoded acc failed
      obtain ⟨first, later⟩ := List.forall_mem_cons.mp short
      rw [foreign?, List.flatten_cons, List.find?_append]
      cases read : base32Value 0 quantum with
      | error e' =>
          rw [decodeQuanta, read] at failed
          cases failed
          obtain ⟨c, found, same⟩ := base32Value_error read
          rw [foreign?] at found
          exact ⟨c, by rw [found]; rfl, same⟩
      | ok n =>
          obtain ⟨bytes, written⟩ := toBytes_ok (quantum_fits first read)
          simp only [decodeQuanta, read, bind, Except.bind, written] at failed
          obtain ⟨c, found, same⟩ := ih later failed
          have none_here := base32Value_foreign read
          rw [foreign?] at none_here found
          exact ⟨c, by rw [none_here, found]; rfl, same⟩

/-- No digit is foreign, and the number left over is the one of the last group. -/
theorem decodeQuanta_ok {groups : List (List Char)} :
    ∀ {decoded decoded' : List UInt8} {acc acc' : Nat},
      decodeQuanta decoded acc groups = .ok (decoded', acc') →
        foreign? groups.flatten = none ∧
          ∀ last, groups.getLast? = some last → acc' < 32 ^ last.length := by
  induction groups with
  | nil => intro decoded decoded' acc acc' _; simp [foreign?]
  | cons quantum rest ih =>
      intro decoded decoded' acc acc' success
      cases read : base32Value 0 quantum with
      | error e =>
          rw [decodeQuanta, read] at success
          cases success
      | ok n =>
          cases written : toBytes 5 n with
          | error e =>
              simp only [decodeQuanta, read, bind, Except.bind, written] at success
              cases success
          | ok bytes =>
              simp only [decodeQuanta, read, bind, Except.bind, written] at success
              obtain ⟨clean, last_bound⟩ := ih success
              have none_here := base32Value_foreign read
              rw [foreign?] at none_here clean
              constructor
              · rw [foreign?, List.flatten_cons, List.find?_append, none_here, clean]
                rfl
              · intro last found
                cases rest with
                | nil =>
                    cases success
                    obtain rfl : quantum = last := by simpa using found
                    simpa using base32Value_lt read
                | cons next others =>
                    rw [List.getLast?_cons_cons] at found
                    exact last_bound last found

/-- With as much padding as that, the last group is what the padding leaves of eight
digits. -/
theorem quanta_last {digits last : List Char} {padchars : Nat}
    (whole : (digits.length + padchars) % 8 = 0) (few : 0 < padchars ∧ padchars < 8)
    (found : (quanta digits).getLast? = some last) : last.length + padchars = 8 := by
  rw [quanta, List.getLast?_map, List.getLast?_range] at found
  by_cases empty : (digits.length + 7) / 8 = 0
  · simp [empty] at found
  · simp only [if_neg empty, Option.map_some, Option.some.injEq] at found
    rw [← found, List.length_take, List.length_drop]
    omega

/-- What is left over fits, so writing it does not overflow. -/
theorem leftover_fits {digits : List Char} {decoded : List UInt8} {acc padchars : Nat}
    (whole : (digits.length + padchars) % 8 = 0) (few : 0 < padchars ∧ padchars < 8)
    (success : decodeQuanta [] 0 (quanta digits) = .ok (decoded, acc)) (some_bytes : decoded ≠ []) :
    acc * 32 ^ padchars < 256 ^ 5 := by
  cases found : (quanta digits).getLast? with
  | none =>
      rw [List.getLast?_eq_none_iff.mp found] at success
      cases success
      exact absurd rfl some_bytes
  | some last =>
      have bound := (decodeQuanta_ok success).2 last found
      have length := quanta_last whole few found
      calc acc * 32 ^ padchars < 32 ^ last.length * 32 ^ padchars :=
            Nat.mul_lt_mul_of_pos_right bound (Nat.pow_pos (by decide))
        _ = 32 ^ 8 := by rw [← Nat.pow_add, length]

theorem base32Digits_length (s : List Char) : (base32Digits s).length ≤ s.length := by
  have shorter : ((s.map Char.toUpper).reverse.dropWhile (· = '=')).length ≤
      (s.map Char.toUpper).reverse.length := (List.dropWhile_sublist _).length_le
  rw [List.length_reverse, List.length_map] at shorter
  rw [base32Digits, List.length_reverse]
  exact shorter

theorem b32decode_cases (s : List Char) :
    (∃ bytes, b32decode s = .ok bytes ∧ base32Refusal s = []) ∨
      ∃ e, b32decode s = .error e ∧ e.kind = .value ∧ e.texts = base32Refusal s := by
  unfold b32decode base32Refusal bytesFromDecodeData
  by_cases ascii : s.all inAscii = true
  · rw [if_pos ascii, if_neg (not_not.mpr ascii)]
    dsimp only [bind, Except.bind]
    by_cases whole : s.length % 8 = 0
    · rw [if_neg (not_not.mpr whole), if_neg (not_not.mpr whole)]
      have lengths := base32Digits_length s
      generalize base32Digits s = digits at lengths ⊢
      cases success : decodeQuanta [] 0 (quanta digits) with
      | error e =>
          obtain ⟨c, found, rfl⟩ := decodeQuanta_error (fun _ => quanta_length) success
          rw [quanta_flatten] at found
          rw [found]
          exact .inr ⟨notDigit c, rfl, rfl, rfl⟩
      | ok result =>
          obtain ⟨decoded, acc⟩ := result
          have clean := (decodeQuanta_ok success).1
          rw [quanta_flatten] at clean
          rw [clean]
          dsimp only
          by_cases padding : s.length - digits.length ∈ [0, 1, 3, 4, 6]
          · rw [if_neg (not_not.mpr padding), if_neg (not_not.mpr padding)]
            by_cases leftover : s.length - digits.length ≠ 0 ∧ decoded ≠ []
            · rw [if_pos leftover]
              have few : s.length - digits.length < 8 := by
                simp only [List.mem_cons, List.not_mem_nil, or_false] at padding
                omega
              have fits : acc * 32 ^ (s.length - digits.length) < 256 ^ 5 :=
                leftover_fits (by omega) ⟨by omega, few⟩ success leftover.2
              obtain ⟨last, written⟩ := toBytes_ok fits
              rw [written]
              exact .inl ⟨_, rfl, rfl⟩
            · rw [if_neg leftover]
              exact .inl ⟨_, rfl, rfl⟩
          · rw [if_pos padding, if_pos padding]
            exact .inr ⟨_, rfl, rfl, rfl⟩
    · rw [if_pos whole, if_pos whole]
      exact .inr ⟨_, rfl, rfl, rfl⟩
  · rw [if_neg ascii, if_pos ascii]
    exact .inr ⟨_, rfl, rfl, rfl⟩

end Keyring

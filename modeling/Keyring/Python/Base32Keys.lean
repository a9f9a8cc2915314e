import Keyring.Python.Base32
import Keyring.Positional

/-!
# The bytes of a base32 text

What the groups of `b32decode` add up to: the digits are one number, five bits to a
digit, of which the whole bytes are taken from the front.
-/

set_option autoImplicit false

namespace Keyring

def bigEndian (width n : Nat) : List UInt8 := (Positional.digits 256 width n).map UInt8.ofNat

@[simp] theorem bigEndian_length (width n : Nat) : (bigEndian width n).length = width := by
  simp [bigEndian]

@[simp] theorem bigEndian_zero (n : Nat) : bigEndian 0 n = [] := rfl

theorem bigEndian_append {high low m n : Nat} (fits : n < 256 ^ low) :
    bigEndian high m ++ bigEndian low n = bigEndian (high + low) (m * 256 ^ low + n) := by
  rw [bigEndian, bigEndian, ← List.map_append, ← Positional.digits_mul_add (by decide) fits,
    bigEndian]

theorem take_bigEndian {high width : Nat} (le : high ≤ width) (n : Nat) :
    (bigEndian width n).take high = bigEndian high (n / 256 ^ (width - high)) := by
  obtain ⟨low, rfl⟩ := Nat.exists_eq_add_of_le le
  rw [bigEndian, ← List.map_take, Positional.take_digits, bigEndian, Nat.add_sub_cancel_left]

theorem toBytes_eq {width n : Nat} (fits : n < 256 ^ width) :
    toBytes width n = .ok (bigEndian width n) := by
  have bytes : ∀ w, (List.range w).reverse.map (fun i => UInt8.ofNat (n / 256 ^ i % 256)) =
      bigEndian w n := by
    intro w
    induction w with
    | zero => rfl
    | succ w ih =>
        rw [List.range_succ, List.reverse_append, List.reverse_singleton, List.singleton_append,
          List.map_cons, ih, bigEndian, bigEndian, Positional.digits, List.map_cons]
  rw [toBytes, if_pos fits, bytes]

/-- The number that the digits of a text stand for. -/
def base32Number (digits : List Char) : Nat :=
  Positional.value 32 0 (digits.map fun c => base32Alphabet.idxOf c)

/-- The whole bytes of the bits that the digits stand for. -/
def base32Key (digits : List Char) : List UInt8 :=
  bigEndian (5 * digits.length / 8) (base32Number digits / 2 ^ (5 * digits.length % 8))

def IsBase32 (digits : List Char) : Prop := ∀ c ∈ digits, c ∈ base32Alphabet

instance (digits : List Char) : Decidable (IsBase32 digits) :=
  decidable_of_iff (digits.all fun c => decide (c ∈ base32Alphabet)) (by simp [IsBase32])

theorem base32Number_lt {digits : List Char} (clean : IsBase32 digits) :
    base32Number digits < 32 ^ digits.length := by
  have small : ∀ d ∈ digits.map fun c => base32Alphabet.idxOf c, d < 32 := by
    intro d member
    obtain ⟨c, digit, rfl⟩ := List.mem_map.mp member
    exact List.idxOf_lt_length_of_mem (clean c digit)
  have below := Positional.value_lt small
  rwa [List.length_map] at below

theorem base32Number_append (ds es : List Char) :
    base32Number (ds ++ es) = base32Number ds * 32 ^ es.length + base32Number es := by
  rw [base32Number, List.map_append, Positional.value_append, Positional.value_eq,
    List.length_map]
  rfl

theorem base32Value_eq {digits : List Char} (clean : IsBase32 digits) (acc : Nat) :
    base32Value acc digits =
      .ok (Positional.value 32 acc (digits.map fun c => base32Alphabet.idxOf c)) := by
  induction digits generalizing acc with
  | nil => rfl
  | cons c rest ih =>
      obtain ⟨digit, others⟩ := List.forall_mem_cons.mp clean
      rw [base32Value, base32Digit, if_pos digit]
      exact ih others _

/-! ## The groups -/

theorem quanta_nil : quanta [] = [] := rfl

theorem quanta_single {last : List Char} (some_digits : last ≠ []) (short : last.length ≤ 8) :
    quanta last = [last] := by
  have pos := List.length_pos_iff.mpr some_digits
  have one : (last.length + 7) / 8 = 1 := by omega
  rw [quanta, one]
  simp [List.take_of_length_le short]

theorem quanta_append {group : List Char} (full : group.length = 8) (rest : List Char) :
    quanta (group ++ rest) = group :: quanta rest := by
  have count : ((group ++ rest).length + 7) / 8 = (rest.length + 7) / 8 + 1 := by
    rw [List.length_append]
    omega
  rw [quanta, count, List.range_succ_eq_map, List.map_cons, List.map_map, quanta]
  congr 1
  · rw [Nat.mul_zero, List.drop_zero, ← full, List.take_left']
    rfl
  · apply List.map_congr_left
    intro i _
    have moved : (group ++ rest).drop (8 * (i + 1)) = rest.drop (8 * i) := by
      rw [Nat.mul_succ, Nat.add_comm, ← List.drop_drop, List.drop_left' full]
    rw [Function.comp, Nat.succ_eq_add_one, moved]

theorem decodeQuanta_cons {quantum : List Char} (clean : IsBase32 quantum)
    (short : quantum.length ≤ 8) (decoded : List UInt8) (acc : Nat) (rest : List (List Char)) :
    decodeQuanta decoded acc (quantum :: rest) =
      decodeQuanta (decoded ++ bigEndian 5 (base32Number quantum)) (base32Number quantum) rest := by
  have read := base32Value_eq clean 0
  rw [decodeQuanta, read]
  have written := toBytes_eq (quantum_fits short read)
  simp only [bind, Except.bind, written]
  rfl

theorem pow_groups (j : Nat) : 32 ^ (8 * j) = 256 ^ (5 * j) := by
  rw [Nat.pow_mul, Nat.pow_mul]

theorem decodeQuanta_full {full : List Char} {j : Nat} (groups : full.length = 8 * j)
    (clean : IsBase32 full) (rest : List Char) (decoded : List UInt8) (acc : Nat) :
    ∃ acc', decodeQuanta decoded acc (quanta (full ++ rest)) =
      decodeQuanta (decoded ++ bigEndian (5 * j) (base32Number full)) acc' (quanta rest) := by
  induction j generalizing full decoded acc with
  | zero =>
      obtain rfl := List.length_eq_zero_iff.mp groups
      exact ⟨acc, by simp⟩
  | succ j ih =>
      have first : (full.take 8).length = 8 := by
        rw [List.length_take]
        omega
      have later : (full.drop 8).length = 8 * j := by
        rw [List.length_drop]
        omega
      have clean_first : IsBase32 (full.take 8) := fun c member => clean c (List.mem_of_mem_take member)
      have clean_later : IsBase32 (full.drop 8) := fun c member => clean c (List.mem_of_mem_drop member)
      have fits := base32Number_lt clean_later
      rw [later, pow_groups] at fits
      have split := base32Number_append (full.take 8) (full.drop 8)
      rw [List.take_append_drop, later, pow_groups] at split
      obtain ⟨acc', same⟩ := ih later clean_later
        (decoded ++ bigEndian 5 (base32Number (full.take 8))) (base32Number (full.take 8))
      refine ⟨acc', ?_⟩
      rw [← List.take_append_drop 8 full, List.append_assoc, quanta_append first,
        decodeQuanta_cons clean_first first.le, same, List.append_assoc, bigEndian_append fits,
        List.take_append_drop, split]
      congr 3
      omega

/-! ## Padded texts -/

theorem alphabet_spec {c : Char} (digit : c ∈ base32Alphabet) :
    inAscii c = true ∧ c.toUpper = c ∧ c ≠ '=' := by
  have each : base32Alphabet.all fun c => decide (inAscii c = true ∧ c.toUpper = c ∧ c ≠ '=') := by
    decide
  exact of_decide_eq_true (List.all_eq_true.mp each c digit)

/-- The characters that make up for the digits which the last group lacks. -/
def base32Padding (length : Nat) : Nat := (8 - length % 8) % 8

theorem base32Digits_padded {digits : List Char} (clean : IsBase32 digits) (n : Nat) :
    base32Digits (digits ++ List.replicate n '=') = digits := by
  have upper : (digits ++ List.replicate n '=').map Char.toUpper =
      digits ++ List.replicate n '=' := by
    conv_rhs => rw [← List.map_id (digits ++ List.replicate n '=')]
    apply List.map_congr_left
    intro c member
    rcases List.mem_append.mp member with digit | padding
    · exact (alphabet_spec (clean c digit)).2.1
    · rw [List.eq_of_mem_replicate padding]
      rfl
  have stripped : (List.replicate n '=' ++ digits.reverse).dropWhile (· = '=') =
      digits.reverse := by
    rw [List.dropWhile_append_of_pos (by simp)]
    cases reversed : digits.reverse with
    | nil => rfl
    | cons c rest =>
        have digit : c ∈ digits := by
          rw [← List.mem_reverse, reversed]
          exact List.mem_cons_self
        exact List.dropWhile_cons_of_neg (by simpa using (alphabet_spec (clean c digit)).2.2)
  rw [base32Digits, upper, List.reverse_append, List.reverse_replicate, stripped,
    List.reverse_reverse]

theorem base32Key_append {full last : List Char} {j : Nat} (groups : full.length = 8 * j)
    (clean : IsBase32 last) :
    base32Key (full ++ last) =
      bigEndian (5 * j) (base32Number full) ++
        bigEndian (5 * last.length / 8) (base32Number last / 2 ^ (5 * last.length % 8)) := by
  have bits : 32 ^ last.length = 256 ^ (5 * last.length / 8) * 2 ^ (5 * last.length % 8) := by
    rw [show (32 : Nat) = 2 ^ 5 by rfl, show (256 : Nat) = 2 ^ 8 by rfl, ← Nat.pow_mul,
      ← Nat.pow_mul, ← Nat.pow_add, Nat.div_add_mod]
  have fits : base32Number last / 2 ^ (5 * last.length % 8) < 256 ^ (5 * last.length / 8) := by
    apply Nat.div_lt_of_lt_mul
    rw [Nat.mul_comm, ← bits]
    exact base32Number_lt clean
  have width : 5 * (full ++ last).length / 8 = 5 * j + 5 * last.length / 8 := by
    rw [List.length_append]
    omega
  have left : 5 * (full ++ last).length % 8 = 5 * last.length % 8 := by
    rw [List.length_append]
    omega
  have number : base32Number (full ++ last) / 2 ^ (5 * last.length % 8) =
      base32Number full * 256 ^ (5 * last.length / 8) +
        base32Number last / 2 ^ (5 * last.length % 8) := by
    rw [base32Number_append, bits, ← Nat.mul_assoc, Nat.add_comm,
      Nat.add_mul_div_right _ _ (Nat.two_pow_pos _), Nat.add_comm]
  rw [base32Key, width, left, number, bigEndian_append fits]

theorem padding_mod (length : Nat) : base32Padding (length % 8) = base32Padding length := by
  rw [base32Padding, base32Padding, Nat.mod_mod]

theorem padded_length (length : Nat) : (length + base32Padding length) % 8 = 0 := by
  rw [base32Padding]
  omega

/-- Of a last group that is not full the padded bytes are taken as far as they are whole. -/
theorem last_bytes {r : Nat} (lacking : r ∈ [2, 4, 5, 7]) (n : Nat) :
    (bigEndian 5 (n * 32 ^ base32Padding r)).take ((43 - 5 * base32Padding r) / 8) =
      bigEndian (5 * r / 8) (n / 2 ^ (5 * r % 8)) := by
  have each : ∀ r ∈ [2, 4, 5, 7], (43 - 5 * base32Padding r) / 8 = 5 * r / 8 ∧ 5 * r / 8 ≤ 5 ∧
      5 * r % 8 + 5 * base32Padding r = 8 * (5 - 5 * r / 8) := by decide
  obtain ⟨whole, fits, bits⟩ := each r lacking
  rw [whole, take_bigEndian fits]
  congr 1
  rw [show (32 : Nat) = 2 ^ 5 by rfl, show (256 : Nat) = 2 ^ 8 by rfl, ← Nat.pow_mul,
    ← Nat.pow_mul, ← bits, Nat.pow_add, Nat.mul_div_mul_right _ _ (Nat.two_pow_pos _)]

theorem last_fits {last : List Char} (clean : IsBase32 last) (short : last.length < 8) :
    base32Number last * 32 ^ base32Padding last.length < 256 ^ 5 := by
  have total : last.length + base32Padding last.length ≤ 8 := by
    rw [base32Padding]
    omega
  calc base32Number last * 32 ^ base32Padding last.length <
        32 ^ last.length * 32 ^ base32Padding last.length :=
        Nat.mul_lt_mul_of_pos_right (base32Number_lt clean) (Nat.pow_pos (by decide))
    _ = 32 ^ (last.length + base32Padding last.length) := (Nat.pow_add ..).symm
    _ ≤ 32 ^ 8 := Nat.pow_le_pow_right (by decide) total

theorem b32decode_padded {digits : List Char} (clean : IsBase32 digits)
    (complete : digits.length % 8 ∈ [0, 2, 4, 5, 7]) :
    b32decode (digits ++ List.replicate (base32Padding digits.length) '=') =
      .ok (base32Key digits) := by
  have ascii : (digits ++ List.replicate (base32Padding digits.length) '=').all inAscii = true := by
    rw [List.all_append, Bool.and_eq_true, List.all_eq_true, List.all_eq_true]
    constructor
    · intro c digit
      exact (alphabet_spec (clean c digit)).1
    · intro c padding
      rw [List.eq_of_mem_replicate padding]
      rfl
  have length : (digits ++ List.replicate (base32Padding digits.length) '=').length =
      digits.length + base32Padding digits.length := by
    rw [List.length_append, List.length_replicate]
  have few : base32Padding digits.length ∈ [0, 1, 3, 4, 6] := by
    have each : ∀ r ∈ [0, 2, 4, 5, 7], base32Padding r ∈ [0, 1, 3, 4, 6] := by decide
    rw [← padding_mod]
    exact each _ complete
  obtain ⟨full, last, rfl, groups, short⟩ : ∃ full last, digits = full ++ last ∧
      full.length = 8 * (digits.length / 8) ∧ last.length < 8 := by
    refine ⟨digits.take (8 * (digits.length / 8)), digits.drop (8 * (digits.length / 8)),
      (List.take_append_drop ..).symm, ?_, ?_⟩
    · rw [List.length_take]
      omega
    · rw [List.length_drop]
      omega
  have clean_full : IsBase32 full := fun c member => clean c (List.mem_append_left _ member)
  have clean_last : IsBase32 last := fun c member => clean c (List.mem_append_right _ member)
  obtain ⟨acc, decoded⟩ := decodeQuanta_full groups clean_full last [] 0
  rw [List.nil_append] at decoded
  unfold b32decode bytesFromDecodeData
  simp only [if_pos ascii, bind, Except.bind, length, padded_length, base32Digits_padded clean,
    Nat.add_sub_cancel_left, decoded]
  have remainder : (full ++ last).length % 8 = last.length := by
    rw [List.length_append]
    omega
  rw [← padding_mod, remainder] at few ⊢
  rw [base32Key_append groups clean_last]
  cases none_left : last with
  | nil => simp [decodeQuanta, quanta_nil, base32Padding]
  | cons c others =>
      have digits_left : last ≠ [] := by simp [none_left]
      have lacking : last.length ∈ [2, 4, 5, 7] := by
        rw [remainder, List.mem_cons] at complete
        exact complete.resolve_left (mt List.length_eq_zero_iff.mp digits_left)
      have padded : base32Padding last.length ≠ 0 := by
        have each : ∀ r ∈ [2, 4, 5, 7], base32Padding r ≠ 0 := by decide
        exact each _ lacking
      have bytes : bigEndian (5 * ((full ++ last).length / 8)) (base32Number full) ++
          bigEndian 5 (base32Number last) ≠ [] := by
        intro empty
        have none := congrArg List.length empty
        simp at none
      rw [← none_left, quanta_single digits_left short.le,
        decodeQuanta_cons clean_last short.le, decodeQuanta, if_neg (not_not.mpr rfl)]
      dsimp only
      rw [if_neg (not_not.mpr few), if_pos ⟨padded, bytes⟩,
        toBytes_eq (last_fits clean_last short)]
      dsimp only
      rw [last_bytes lacking, List.length_append, bigEndian_length 5, Nat.add_sub_cancel,
        List.take_left']
      rfl

end Keyring

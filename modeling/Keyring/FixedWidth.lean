import Mathlib.Data.List.Basic
import Mathlib.Tactic.Ring
import Mathlib.Tactic.Tauto

/-!
# Numerals of a fixed width

Decimal numerals that are padded with zeros to a width.  Texts of one length are
compared digit by digit, so among numerals of one width the order of the texts is
the order of the numbers, and of two texts in a row the first decides.
-/

set_option autoImplicit false

namespace FixedWidth

def digit (n : Nat) : Char := "0123456789".toList.getD n '0'

/-- The last `width` decimal digits of a number. -/
def digits : Nat → Nat → List Char
  | 0, _ => []
  | width + 1, n => digit (n / 10 ^ width % 10) :: digits width n

def digitValue (c : Char) : Option Nat :=
  if '0' ≤ c ∧ c ≤ '9' then some (c.toNat - '0'.toNat) else none

/-- The number that some digits stand for, after `acc`. -/
def number? : Nat → List Char → Option Nat
  | acc, [] => some acc
  | acc, c :: rest => do
      let d ← digitValue c
      number? (10 * acc + d) rest

@[simp] theorem digits_length (width n : Nat) : (digits width n).length = width := by
  induction width with
  | zero => rfl
  | succ width ih => rw [digits, List.length_cons, ih]

theorem digit_lt {m n : Nat} (hm : m < 10) (hn : n < 10) : digit m < digit n ↔ m < n := by
  have each : ∀ i j : Fin 10, digit i < digit j ↔ i < j := by decide
  exact each ⟨m, hm⟩ ⟨n, hn⟩

theorem digit_inj {m n : Nat} (hm : m < 10) (hn : n < 10) : digit m = digit n ↔ m = n := by
  have each : ∀ i j : Fin 10, digit i = digit j ↔ i = j := by decide
  simpa using each ⟨m, hm⟩ ⟨n, hn⟩

theorem digitValue_digit {n : Nat} (small : n < 10) : digitValue (digit n) = some n := by
  have each : ∀ i : Fin 10, digitValue (digit i) = some i.val := by decide
  exact each ⟨n, small⟩

/-- The leading digit and what follows it. -/
theorem mod_pow_succ (width n : Nat) :
    n % 10 ^ (width + 1) = n / 10 ^ width % 10 * 10 ^ width + n % 10 ^ width := by
  rw [Nat.pow_succ, Nat.mod_mul, Nat.mul_comm, Nat.add_comm]

theorem digits_lt_mod (width m n : Nat) :
    digits width m < digits width n ↔ m % 10 ^ width < n % 10 ^ width := by
  induction width with
  | zero => simp [digits, Nat.mod_one]
  | succ width ih =>
      have hm := Nat.mod_lt (m / 10 ^ width) (show 0 < 10 by decide)
      have hn := Nat.mod_lt (n / 10 ^ width) (show 0 < 10 by decide)
      have lowM := Nat.mod_lt m (Nat.pow_pos (n := width) (show 0 < 10 by decide))
      have lowN := Nat.mod_lt n (Nat.pow_pos (n := width) (show 0 < 10 by decide))
      rw [digits, digits, List.cons_lt_cons_iff, digit_lt hm hn, digit_inj hm hn, ih,
        mod_pow_succ, mod_pow_succ]
      generalize m / 10 ^ width % 10 = a at *
      generalize n / 10 ^ width % 10 = b at *
      generalize m % 10 ^ width = x at *
      generalize n % 10 ^ width = y at *
      generalize 10 ^ width = p at *
      constructor
      · rintro (less | ⟨same, less⟩)
        · have stepped : (a + 1) * p ≤ b * p := Nat.mul_le_mul_right p less
          rw [Nat.add_mul] at stepped
          omega
        · rw [same]
          omega
      · intro less
        rcases Nat.lt_trichotomy a b with below | same | above
        · exact .inl below
        · exact .inr ⟨same, by rw [same] at less; omega⟩
        · have stepped : (b + 1) * p ≤ a * p := Nat.mul_le_mul_right p above
          rw [Nat.add_mul] at stepped
          omega

/-- The order of the numerals is the order of the numbers. -/
theorem digits_lt {width m n : Nat} (hm : m < 10 ^ width) (hn : n < 10 ^ width) :
    digits width m < digits width n ↔ m < n := by
  rw [digits_lt_mod, Nat.mod_eq_of_lt hm, Nat.mod_eq_of_lt hn]

theorem number?_digits_append (width n acc : Nat) (rest : List Char) :
    number? acc (digits width n ++ rest) = number? (acc * 10 ^ width + n % 10 ^ width) rest := by
  induction width generalizing acc with
  | zero => simp [digits, Nat.mod_one]
  | succ width ih =>
      rw [digits, List.cons_append, number?,
        digitValue_digit (Nat.mod_lt _ (by decide)), Option.bind_eq_bind, Option.bind_some, ih,
        mod_pow_succ, Nat.pow_succ]
      congr 1
      ring

/-- A numeral is read back. -/
theorem number?_digits {width n : Nat} (fits : n < 10 ^ width) :
    number? 0 (digits width n) = some n := by
  have read := number?_digits_append width n 0 []
  rwa [List.append_nil, Nat.zero_mul, Nat.zero_add, Nat.mod_eq_of_lt fits] at read

theorem digits_inj {width m n : Nat} (hm : m < 10 ^ width) (hn : n < 10 ^ width) :
    digits width m = digits width n ↔ m = n := by
  constructor
  · intro same
    have read := congrArg (number? 0) same
    rw [number?_digits hm, number?_digits hn] at read
    exact Option.some.inj read
  · intro same
    rw [same]

/-! ## Numerals without a width -/

theorem digits_succ (width n : Nat) :
    digits (width + 1) n = digits width (n / 10) ++ [digit (n % 10)] := by
  induction width with
  | zero => simp [digits]
  | succ width ih =>
      rw [digits, ih, digits, List.cons_append, Nat.div_div_eq_div_mul, Nat.pow_succ,
        Nat.mul_comm 10]

theorem digits_zero (width : Nat) : digits width 0 = List.replicate width '0' := by
  induction width with
  | zero => rfl
  | succ width ih => rw [digits, ih, Nat.zero_div, List.replicate_succ]; rfl

/-- Zeros in front bring a numeral to the width. -/
theorem replicate_append_toDigits {width n : Nat} (fits : n < 10 ^ (width + 1)) :
    List.replicate (width + 1 - (Nat.toDigits 10 n).length) '0' ++ Nat.toDigits 10 n =
      digits (width + 1) n := by
  have last : ∀ d < 10, [d.digitChar] = [digit d] := by decide
  induction width generalizing n with
  | zero =>
      have small : n < 10 := fits
      rw [Nat.toDigits_of_lt_base small, digits_succ, Nat.mod_eq_of_lt small, last n small]
      rfl
  | succ width ih =>
      rw [digits_succ]
      by_cases small : n < 10
      · rw [Nat.toDigits_of_lt_base small, Nat.div_eq_of_lt small, digits_zero,
          Nat.mod_eq_of_lt small, last n small]
        rfl
      · have shorter : n / 10 < 10 ^ (width + 1) := by
          apply Nat.div_lt_of_lt_mul
          rwa [Nat.mul_comm, ← Nat.pow_succ]
        have widths : width + 1 + 1 - ((Nat.toDigits 10 (n / 10)).length + 1) =
            width + 1 - (Nat.toDigits 10 (n / 10)).length := by omega
        rw [Nat.toDigits_of_base_le (by decide) (by omega), List.length_append,
          List.length_singleton, widths, ← List.append_assoc, ih shorter,
          last _ (Nat.mod_lt n (by decide))]

/-! ## Texts in a row -/

/-- Of two pairs of texts whose first parts have one length, the first parts decide. -/
theorem append_lt_append {a b c d : List Char} (same : a.length = b.length) :
    a ++ c < b ++ d ↔ a < b ∨ a = b ∧ c < d := by
  induction a generalizing b with
  | nil =>
      obtain rfl := List.length_eq_zero_iff.mp same.symm
      simp
  | cons x a ih =>
      cases b with
      | nil => simp at same
      | cons y b =>
          rw [List.cons_append, List.cons_append, List.cons_lt_cons_iff, List.cons_lt_cons_iff,
            ih (Nat.succ.inj same), List.cons.injEq]
          tauto

end FixedWidth

import Mathlib.Data.Nat.Basic
import Mathlib.Tactic.Ring

/-!
# Positional numerals

Numerals of a fixed width in any base, the most significant digit first, and the
number that some digits stand for.  Numerals in a row are the numeral of a number
that is shifted by the width of the second and added to it.
-/

set_option autoImplicit false

namespace Positional

variable (base : Nat)

/-- The last `width` digits of a number. -/
def digits : Nat → Nat → List Nat
  | 0, _ => []
  | width + 1, n => n / base ^ width % base :: digits width n

/-- The number that some digits stand for, after `acc`. -/
def value (acc : Nat) (ds : List Nat) : Nat := ds.foldl (fun n d => n * base + d) acc

variable {base}

@[simp] theorem digits_length (width n : Nat) : (digits base width n).length = width := by
  induction width with
  | zero => rfl
  | succ width ih => rw [digits, List.length_cons, ih]

@[simp] theorem value_nil (acc : Nat) : value base acc [] = acc := rfl

@[simp] theorem value_cons (acc d : Nat) (ds : List Nat) :
    value base acc (d :: ds) = value base (acc * base + d) ds := rfl

theorem value_append (acc : Nat) (ds es : List Nat) :
    value base acc (ds ++ es) = value base (value base acc ds) es := List.foldl_append ..

theorem value_eq (acc : Nat) (ds : List Nat) :
    value base acc ds = acc * base ^ ds.length + value base 0 ds := by
  induction ds generalizing acc with
  | nil => simp
  | cons d ds ih =>
      rw [value_cons, value_cons, ih, ih (0 * base + d), List.length_cons, Nat.pow_succ]
      ring

theorem value_lt {ds : List Nat} (small : ∀ d ∈ ds, d < base) :
    value base 0 ds < base ^ ds.length := by
  induction ds with
  | nil => simp
  | cons d ds ih =>
      obtain ⟨first, rest⟩ := List.forall_mem_cons.mp small
      have below := ih rest
      rw [value_cons, value_eq, List.length_cons, Nat.pow_succ, Nat.zero_mul, Nat.zero_add]
      calc d * base ^ ds.length + value base 0 ds < (d + 1) * base ^ ds.length := by
            rw [Nat.succ_mul]
            omega
        _ ≤ base * base ^ ds.length := Nat.mul_le_mul_right _ first
        _ = base ^ ds.length * base := Nat.mul_comm ..

/-- What stands before the last digits does not matter to them. -/
theorem digits_add_mul (pos : 0 < base) (width shift k n : Nat) :
    digits base width (k * base ^ (width + shift) + n) = digits base width n := by
  induction width generalizing shift with
  | zero => rfl
  | succ width ih =>
      have moved : k * base ^ (width + 1 + shift) = k * base ^ shift * base * base ^ width := by
        rw [Nat.pow_add, Nat.pow_succ]
        ring
      have inner := ih (shift + 1)
      rw [show width + (shift + 1) = width + 1 + shift by omega] at inner
      rw [digits, digits, inner, moved, Nat.add_comm,
        Nat.add_mul_div_right _ _ (Nat.pow_pos pos), Nat.add_mul_mod_self_right]

/-- The leading digits of a number are the last ones of what is left without the others. -/
theorem digits_append (high low n : Nat) :
    digits base (high + low) n = digits base high (n / base ^ low) ++ digits base low n := by
  induction high with
  | zero => simp [digits]
  | succ high ih =>
      rw [Nat.succ_add, digits, digits, ih, List.cons_append, Nat.div_div_eq_div_mul,
        ← Nat.pow_add, Nat.add_comm low high]

/-- Numerals in a row. -/
theorem digits_mul_add {high low m n : Nat} (pos : 0 < base) (fits : n < base ^ low) :
    digits base (high + low) (m * base ^ low + n) =
      digits base high m ++ digits base low n := by
  have quotient : (m * base ^ low + n) / base ^ low = m := by
    rw [Nat.add_comm, Nat.add_mul_div_right _ _ (Nat.pow_pos pos), Nat.div_eq_of_lt fits,
      Nat.zero_add]
  have rest := digits_add_mul pos low 0 m n
  rw [Nat.add_zero] at rest
  rw [digits_append, quotient, rest]

/-- The leading digits of a numeral. -/
theorem take_digits (high low n : Nat) :
    (digits base (high + low) n).take high = digits base high (n / base ^ low) := by
  rw [digits_append]
  exact List.take_left' (digits_length _ _)

end Positional

import Keyring.FixedPrecision

/-!
# Floor division of floats

`//` of two floats as the interpreter computes it: not from the exact quotient, but
from the rounded quotient of what the remainder leaves, which it then brings to the
integer that it takes to be meant.
-/

set_option autoImplicit false

namespace Keyring

open FixedPrecision

/-- Irreducible, so that no check unfolds its powers of two. -/
@[irreducible] def binary64 : Format := ⟨52, 1074⟩

@[simp] theorem binary64_fraction : binary64.fraction = 52 := by rw [binary64]

theorem binary64_scale : 0 < binary64.scale := by rw [binary64]; decide

/-- A `float` that is neither negative nor infinite nor a NaN. -/
abbrev Double := Number binary64

section FloorDiv

variable {f : Format}

/-- `vx // wx`, `wx` positive; the remainder has the sign of the divisor already. -/
def floorDiv (vx wx : Number f) : Number f :=
  let mod := vx % wx
  let div := (vx - mod) / wx
  let floordiv := div.floor
  if Number.ratio 1 2 < div - floordiv then floordiv + Number.ratio 1 1 else floordiv

/-- The rounded quotient that the result is taken from. -/
def floorQuotient (vx wx : Number f) : Number f := (vx - vx % wx) / wx

theorem floorDiv_eq (vx wx : Number f) :
    floorDiv vx wx =
      if Number.ratio 1 2 < floorQuotient vx wx - (floorQuotient vx wx).floor then
        (floorQuotient vx wx).floor + Number.ratio 1 1
      else (floorQuotient vx wx).floor := rfl

theorem half_lt_iff (divisible : 0 < f.scale) (x : Number f) :
    Number.ratio 1 2 < x - x.floor ↔ f.one < 2 * (x.units % f.one) := by
  have half := Number.half_units divisible
  rw [Number.lt_iff, Number.sub_floor_units]
  omega

/-- The integer that the rounded quotient is brought to: the nearest one, below it where
it is as far from two of them. -/
theorem floorDiv_toNat (divisible : 0 < f.scale) (vx wx : Number f) :
    (floorDiv vx wx).toNat =
      if f.one < 2 * ((floorQuotient vx wx).units % f.one) then
        (floorQuotient vx wx).units / f.one + 1
      else (floorQuotient vx wx).units / f.one := by
  rw [floorDiv_eq]
  generalize floorQuotient vx wx = q
  by_cases up : f.one < 2 * (q.units % f.one)
  · have fractional : ¬ f.one ∣ q.units := by
      intro whole
      rw [Nat.mod_eq_zero_of_dvd whole] at up
      omega
    have few := q.representable.few fractional
    rw [if_pos ((half_lt_iff divisible q).mpr up), if_pos up, Number.toNat, Number.add_units,
      Number.floor_units, Number.ratio_one_units Nat.one_le_two_pow, ← Nat.add_mul,
      Number.nearest_self (Format.representable_nat few)]
    exact Nat.mul_div_cancel _ Format.one_pos
  · rw [if_neg (mt (half_lt_iff divisible q).mp up), if_neg up, Number.toNat,
      Number.floor_units]
    exact Nat.mul_div_cancel _ Format.one_pos

theorem difference_le (vx wx : Number f) : (vx - vx % wx).units ≤ vx.units := by
  apply Format.nearest_le Nat.one_pos vx.representable
  rw [Nat.one_mul]
  exact Nat.sub_le ..

/-- A whole number that the exact quotient does not pass is not passed. -/
theorem floorDiv_le {vx wx : Number f} {c : Nat} (divisible : 0 < f.scale)
    (pos : 0 < wx.units) (hc : f.Representable (c * f.one)) (le : vx.units ≤ wx.units * c) :
    (floorDiv vx wx).toNat ≤ c := by
  have quotient : (floorQuotient vx wx).units ≤ c * f.one := by
    apply Format.nearest_le pos hc
    calc (vx - vx % wx).units * f.one ≤ wx.units * c * f.one :=
          Nat.mul_le_mul_right _ (Nat.le_trans (difference_le vx wx) le)
      _ = wx.units * (c * f.one) := Nat.mul_assoc ..
  have split := Nat.div_add_mod' (floorQuotient vx wx).units f.one
  rw [floorDiv_toNat divisible]
  split_ifs with up
  · by_contra passed
    have reached : c * f.one ≤ (floorQuotient vx wx).units / f.one * f.one :=
      Nat.mul_le_mul_right _ (by omega)
    omega
  · exact Nat.div_le_of_le_mul (by rwa [Nat.mul_comm])

/-- A quotient that is off by less than a half is brought to the integer. -/
theorem brought_to {one q k : Nat} (above : 2 * q < 2 * (k * one) + one)
    (below : 2 * (k * one) < 2 * q + one) :
    (if one < 2 * (q % one) then q / one + 1 else q / one) = k := by
  have pos : 0 < one := by omega
  rcases Nat.lt_or_ge q (k * one) with less | ge
  · obtain ⟨j, rfl⟩ : ∃ j, k = j + 1 := by
      cases k with
      | zero => omega
      | succ j => exact ⟨j, rfl⟩
    have next : (j + 1) * one = j * one + one := Nat.succ_mul ..
    have whole : q / one = j := Nat.div_eq_of_lt_le (by omega) less
    have split := Nat.div_add_mod' q one
    rw [whole] at split ⊢
    rw [if_pos (by omega)]
  · have whole : q / one = k := Nat.div_eq_of_lt_le ge (by rw [Nat.succ_mul]; omega)
    have split := Nat.div_add_mod' q one
    rw [whole] at split ⊢
    rw [if_neg (by omega)]

theorem within_half {w k one product quotient u v : Nat}
    (first : 2 * product ≤ 2 * (w * k) + u ∧ 2 * (w * k) ≤ 2 * product + u)
    (second : 2 * (w * quotient) ≤ 2 * (product * one) + w * v ∧
      2 * (product * one) ≤ 2 * (w * quotient) + w * v)
    (precise : w * v + one * u < w * one) :
    2 * quotient < 2 * (k * one) + one ∧ 2 * (k * one) < 2 * quotient + one := by
  constructor
  · apply Nat.lt_of_mul_lt_mul_left (a := w)
    have scaled := Nat.mul_le_mul_right one first.1
    linarith only [scaled, second.1, precise]
  · apply Nat.lt_of_mul_lt_mul_left (a := w)
    have scaled := Nat.mul_le_mul_right one first.2
    linarith only [scaled, second.2, precise]

/-- The division is exact where what the two roundings can add up to is less than half
the divisor. -/
theorem floorDiv_exact {vx wx : Number f} (divisible : 0 < f.scale) {d e : Nat}
    (small : vx.units < 2 ^ (f.fraction + 1 + d))
    (quotient_small : vx.units * f.one < wx.units * 2 ^ (f.fraction + 1 + e))
    (precise : wx.units * 2 ^ e + f.one * 2 ^ d < wx.units * f.one) :
    (floorDiv vx wx).toNat = vx.units / wx.units := by
  have pos : 0 < wx.units := by
    by_contra zero
    rw [Nat.eq_zero_of_not_pos zero] at precise
    omega
  have split := Nat.div_add_mod vx.units wx.units
  have exact : vx.units - vx.units % wx.units = wx.units * (vx.units / wx.units) := by omega
  have near_product := Format.nearest_near (f := f) (a := vx.units - vx.units % wx.units)
    Nat.one_pos
  have near_quotient := Format.nearest_near (f := f) (a := (vx - vx % wx).units * f.one) pos
  rw [← Number.mod_units, ← Number.sub_units, Number.mod_units, exact, Nat.one_mul,
    Nat.one_mul, Nat.div_one] at near_product
  rw [← Number.div_units, ← floorQuotient] at near_quotient
  have product_ulp : f.ulp (wx.units * (vx.units / wx.units)) ≤ 2 ^ d := by
    apply Nat.le_of_dvd (Nat.two_pow_pos d)
    exact Format.ulp_dvd (by omega)
  have quotient_ulp : f.ulp ((vx - vx % wx).units * f.one / wx.units) ≤ 2 ^ e := by
    apply Nat.le_of_dvd (Nat.two_pow_pos e)
    apply Format.ulp_dvd
    apply Nat.div_lt_of_lt_mul
    exact Nat.lt_of_le_of_lt (Nat.mul_le_mul_right _ (difference_le vx wx)) quotient_small
  have widened := Nat.mul_le_mul_left wx.units quotient_ulp
  have first : 2 * (vx - vx % wx).units ≤ 2 * (wx.units * (vx.units / wx.units)) + 2 ^ d ∧
      2 * (wx.units * (vx.units / wx.units)) ≤ 2 * (vx - vx % wx).units + 2 ^ d := by omega
  have second : 2 * (wx.units * (floorQuotient vx wx).units) ≤
        2 * ((vx - vx % wx).units * f.one) + wx.units * 2 ^ e ∧
      2 * ((vx - vx % wx).units * f.one) ≤
        2 * (wx.units * (floorQuotient vx wx).units) + wx.units * 2 ^ e := by omega
  have close := within_half first second precise
  rw [floorDiv_toNat divisible]
  exact brought_to close.1 close.2

end FloorDiv

end Keyring

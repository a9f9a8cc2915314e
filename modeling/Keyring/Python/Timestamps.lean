import Keyring.Domain.Text
import Keyring.Python.Floats
import Keyring.Rounding

/-!
# Instants as floats

`timestamp` divides microseconds by a million, and `int` drops the fraction.  Up to
`2 ^ 34` seconds from the epoch the doubles are dense enough to tell the microsecond
before a whole second from it; farther away they take the one for the other.
-/

set_option autoImplicit false

namespace Keyring

open FixedPrecision Rounding

/-- `float(n)`, counted in the unit of a double. -/
def toFloat (n : Int) : Int := quotient binary64 (n * binary64.one) 1

/-- `instant.timestamp()`, and `duration.total_seconds()`. -/
def timestamp (instant : Instant) : Int := quotient binary64 (instant * binary64.one) 1000000

/-- `int(instant.timestamp())`, and `int(duration.total_seconds())`. -/
def wholeSeconds (instant : Instant) : Int := (timestamp instant).tdiv binary64.one

/-- `instant.timestamp() >= n`: a float and an integer are compared as they are. -/
def Passed (instant : Instant) (n : Int) : Prop := n * binary64.one ≤ timestamp instant

instance (instant : Instant) (n : Int) : Decidable (Passed instant n) :=
  inferInstanceAs (Decidable (_ ≤ _))

theorem one_pos_int : (0 : Int) < binary64.one := Int.natCast_pos.mpr Format.one_pos

theorem timestamp_mono {a b : Instant} (le : a ≤ b) : timestamp a ≤ timestamp b :=
  quotient_mono (mul_le_mul_of_nonneg_right le one_pos_int.le) _

theorem timestamp_neg (instant : Instant) : timestamp (-instant) = -timestamp instant := by
  rw [timestamp, neg_mul, quotient_neg, timestamp]

theorem toFloat_neg (n : Int) : toFloat (-n) = -toFloat n := by
  rw [toFloat, neg_mul, quotient_neg, toFloat]

theorem timestamp_natCast (us : Nat) :
    timestamp us = (binary64.nearest (us * binary64.one) 1000000 : Nat) := by
  rw [timestamp, ← Int.natCast_mul, quotient_natCast]

theorem timestamp_zero : timestamp 0 = 0 := by
  have odd := timestamp_neg 0
  rw [neg_zero] at odd
  omega

/-- Whole seconds are divided as they are. -/
theorem timestamp_seconds (n : Int) : timestamp (seconds n) = toFloat n := by
  have natural : ∀ n : Nat, timestamp (seconds n) = toFloat n := by
    intro n
    have scaled : seconds n * binary64.one = ((1000000 * (n * binary64.one) : Nat) : Int) := by
      rw [seconds]
      push_cast
      ring
    have unscaled : (n : Int) * binary64.one = ((n * binary64.one : Nat) : Int) := by push_cast; rfl
    have ratio := Format.nearest_mul_left (f := binary64) (c := 1000000) (by decide)
      (n * binary64.one) 1
    rw [timestamp, toFloat, scaled, unscaled, quotient_natCast, quotient_natCast, ← ratio]
  rcases Int.eq_nat_or_neg n with ⟨m, rfl | rfl⟩
  · exact natural m
  · have negated : seconds (-(m : Int)) = -seconds m := by rw [seconds, seconds, neg_mul]
    rw [negated, timestamp_neg, toFloat_neg, natural]

/-- The integers of that size are floats. -/
theorem toFloat_eq {n : Int} (small : n.natAbs ≤ 2 ^ 53) : toFloat n = n * binary64.one := by
  have natural : ∀ n : Nat, n ≤ 2 ^ 53 → toFloat n = n * binary64.one := by
    intro n small
    have representable := Format.representable_nat (f := binary64) (k := n) (by simpa using small)
    have exact := quotient_of_representable representable
    push_cast at exact
    exact exact
  rcases Int.eq_nat_or_neg n with ⟨m, rfl | rfl⟩
  · exact natural m (by simpa using small)
  · rw [toFloat_neg, natural m (by simpa using small), neg_mul]

theorem not_passed_iff {instant : Instant} {n : Int} (small : n.natAbs ≤ 2 ^ 53) :
    ¬ Passed instant n ↔ timestamp instant < toFloat n := by
  rw [Passed, toFloat_eq small, not_le]

/-- What is shown to be before a whole second is. -/
theorem lt_of_timestamp_lt {instant : Instant} {n : Int}
    (before : timestamp instant < toFloat n) : instant < seconds n := by
  by_contra after
  have reached := timestamp_mono (not_lt.mp after)
  rw [timestamp_seconds] at reached
  exact absurd before (not_lt.mpr reached)

theorem wholeSeconds_nonpos {instant : Instant} (early : instant ≤ 0) :
    wholeSeconds instant ≤ 0 := by
  have reached := timestamp_mono early
  rw [timestamp_zero] at reached
  rw [wholeSeconds, ← Int.zero_tdiv]
  exact Int.tdiv_le_tdiv one_pos_int reached

/-! ## The distance of neighbours -/

/-- The distance of neighbours just below `2 ^ 34` seconds. -/
def spacing : Nat := 2 ^ (binary64.scale - 19)

theorem one_eq_spacing : binary64.one = 524288 * spacing := by
  have split : binary64.scale = 19 + (binary64.scale - 19) := by
    rw [binary64]
    rfl
  rw [Format.one, spacing, split, Nat.pow_add, Nat.add_sub_cancel_left]

theorem ulp_le_spacing {n : Nat} (below : n < 17179869184 * binary64.one) :
    binary64.ulp n ≤ spacing := by
  refine Nat.le_of_dvd (Nat.two_pow_pos _) (Format.ulp_dvd ?_)
  rw [one_eq_spacing] at below
  rw [binary64_fraction, Nat.pow_add, ← spacing]
  omega

theorem spacing_le_ulp {n : Nat} (above : 17179869184 * binary64.one ≤ n) :
    2 * spacing ≤ binary64.ulp n := by
  have power : 2 ^ (52 + 1 + (binary64.scale - 19) + 0) ≤ n := by
    rw [one_eq_spacing] at above
    rw [Nat.add_zero, Nat.pow_add, ← spacing]
    omega
  have positive : n ≠ 0 := by
    have less := Nat.lt_of_lt_of_le (Nat.two_pow_pos _) power
    omega
  have log := (Nat.le_log2 positive).mpr power
  rw [Format.ulp, binary64_fraction, spacing, ← Nat.pow_succ']
  exact Nat.pow_le_pow_right (by decide) (by omega)

/-- The number of a second before a whole one stays before it, up to there. -/
theorem nearest_lt_whole {us n : Nat} (before : us < n * 1000000) (dense : n ≤ 17179869184) :
    binary64.nearest (us * binary64.one) 1000000 < n * binary64.one := by
  have last : us * binary64.one ≤ n * 1000000 * binary64.one - binary64.one := by
    rw [← Nat.sub_one_mul]
    exact Nat.mul_le_mul_right _ (by omega)
  have rounded := Format.nearest_mono (f := binary64) last 1000000
  have near := (Format.nearest_near (f := binary64) (b := 1000000)
    (a := n * 1000000 * binary64.one - binary64.one) (by decide)).1
  have positive := Format.one_pos (f := binary64)
  have whole : n * 1000000 * binary64.one = 1000000 * (n * binary64.one) := by ring
  have room : 1000000 * binary64.one ≤ n * 1000000 * binary64.one :=
    Nat.mul_le_mul_right _ (by omega)
  have many : n * binary64.one ≤ 17179869184 * binary64.one := Nat.mul_le_mul_right _ dense
  have spaced := ulp_le_spacing
    (n := (n * 1000000 * binary64.one - binary64.one) / 1000000) (by omega)
  have unit := one_eq_spacing
  generalize binary64.ulp _ = ulp at near spaced
  generalize binary64.nearest (n * 1000000 * binary64.one - binary64.one) 1000000 = r at rounded near
  generalize n * binary64.one = k at whole many ⊢
  rw [whole] at near room
  omega

theorem whole_lt_nearest {us n : Nat} (after : n * 1000000 < us) (dense : n < 17179869184) :
    n * binary64.one < binary64.nearest (us * binary64.one) 1000000 := by
  have first : n * 1000000 * binary64.one + binary64.one ≤ us * binary64.one := by
    rw [← Nat.succ_mul]
    exact Nat.mul_le_mul_right _ after
  have rounded := Format.nearest_mono (f := binary64) first 1000000
  have near := (Format.nearest_near (f := binary64) (b := 1000000)
    (a := n * 1000000 * binary64.one + binary64.one) (by decide)).2
  have positive := Format.one_pos (f := binary64)
  have whole : n * 1000000 * binary64.one = 1000000 * (n * binary64.one) := by ring
  have many : n * binary64.one + binary64.one ≤ 17179869184 * binary64.one := by
    rw [← Nat.succ_mul]
    exact Nat.mul_le_mul_right _ dense
  have spaced := ulp_le_spacing
    (n := (n * 1000000 * binary64.one + binary64.one) / 1000000) (by omega)
  have unit := one_eq_spacing
  generalize binary64.ulp _ = ulp at near spaced
  generalize binary64.nearest (n * 1000000 * binary64.one + binary64.one) 1000000 = r at rounded near
  generalize n * binary64.one = k at whole many ⊢
  rw [whole] at near
  omega

theorem whole_le_nearest {n : Nat} (sparse : 17179869184 < n) (exact : n ≤ 2 ^ 53) :
    n * binary64.one ≤ binary64.nearest ((n * 1000000 - 1) * binary64.one) 1000000 := by
  have positive := Format.one_pos (f := binary64)
  have whole : (n * 1000000 - 1) * binary64.one = 1000000 * (n * binary64.one) - binary64.one := by
    rw [Nat.sub_one_mul]
    ring_nf
  have above : 17179869184 * binary64.one + binary64.one ≤ n * binary64.one := by
    rw [← Nat.succ_mul]
    exact Nat.mul_le_mul_right _ sparse
  have below : n * binary64.one ≤ 2 ^ 53 * binary64.one := Nat.mul_le_mul_right _ exact
  have power : 2 ^ 53 * binary64.one = 2 ^ (binary64.fraction + 1 + binary64.scale) := by
    rw [binary64_fraction, Format.one, ← Nat.pow_add]
  rw [whole]
  have far := spacing_le_ulp (n := (1000000 * (n * binary64.one) - binary64.one) / 1000000) (by omega)
  have unit := one_eq_spacing
  have room := Nat.two_pow_pos (binary64.scale - 19)
  rw [← spacing] at room
  refine Format.le_nearest_of_near (by decide) (Nat.dvd_trans (Format.ulp_dvd ?_)
    (Nat.dvd_mul_left _ n)) ?_
  · omega
  · omega

theorem nearest_le_whole {n : Nat} (sparse : 17179869184 ≤ n) (exact : n < 2 ^ 53) :
    binary64.nearest ((n * 1000000 + 1) * binary64.one) 1000000 ≤ n * binary64.one := by
  have positive := Format.one_pos (f := binary64)
  have whole : (n * 1000000 + 1) * binary64.one = 1000000 * (n * binary64.one) + binary64.one := by
    rw [Nat.succ_mul]
    ring_nf
  have above : 17179869184 * binary64.one ≤ n * binary64.one := Nat.mul_le_mul_right _ sparse
  have below : n * binary64.one + binary64.one ≤ 2 ^ 53 * binary64.one := by
    rw [← Nat.succ_mul]
    exact Nat.mul_le_mul_right _ exact
  have power : 2 ^ 53 * binary64.one = 2 ^ (binary64.fraction + 1 + binary64.scale) := by
    rw [binary64_fraction, Format.one, ← Nat.pow_add]
  rw [whole]
  have far := spacing_le_ulp (n := (1000000 * (n * binary64.one) + binary64.one) / 1000000) (by omega)
  have unit := one_eq_spacing
  have room := Nat.two_pow_pos (binary64.scale - 19)
  rw [← spacing] at room
  refine Format.nearest_le_of_near (by decide) (Nat.dvd_trans (Format.ulp_dvd ?_)
    (Nat.dvd_mul_left _ n)) ?_
  · omega
  · omega

/-! ## Compared with whole seconds -/

/-- Up to `2 ^ 34` seconds from the epoch the comparison of the floats is that of the
instants. -/
theorem timestamp_lt_iff {now n : Int} (dense : -17179869184 < n ∧ n ≤ 17179869184) :
    timestamp now < toFloat n ↔ now < seconds n := by
  refine ⟨lt_of_timestamp_lt, fun before => ?_⟩
  have before : now < n * 1000000 := before
  have positive := one_pos_int
  rw [toFloat_eq (by omega)]
  rcases Int.eq_nat_or_neg now with ⟨us, rfl | rfl⟩
  · obtain ⟨m, rfl⟩ := Int.eq_ofNat_of_zero_le (by omega : 0 ≤ n)
    rw [timestamp_natCast]
    exact_mod_cast nearest_lt_whole (n := m) (by omega) (by omega)
  · rcases Int.eq_nat_or_neg n with ⟨m, rfl | rfl⟩
    · have late := timestamp_mono (show -(us : Int) ≤ 0 by omega)
      rw [timestamp_zero] at late
      rcases Nat.eq_zero_or_pos m with rfl | pos
      · have some : 0 < us := by simpa using before
        have after := whole_lt_nearest (n := 0) (by rwa [Nat.zero_mul]) (by omega)
        rw [timestamp_neg, timestamp_natCast]
        rw [Nat.zero_mul] at after
        simpa using after
      · exact late.trans_lt (Int.mul_pos (by omega) positive)
    · have after := whole_lt_nearest (show m * 1000000 < us by omega) (by omega)
      rw [timestamp_neg, timestamp_natCast, Int.neg_mul]
      exact neg_lt_neg (by exact_mod_cast after)

/-- Farther away the last microsecond before a whole second is taken for it. -/
theorem toFloat_le_timestamp {n : Int} (sparse : n ≤ -17179869184 ∨ 17179869184 < n)
    (exact : n.natAbs < 2 ^ 53) : toFloat n ≤ timestamp (seconds n - 1) := by
  rw [toFloat_eq exact.le]
  rcases Int.eq_nat_or_neg n with ⟨m, rfl | rfl⟩
  · have last : (m : Int) * 1000000 - 1 = ((m * 1000000 - 1 : Nat) : Int) := by omega
    have reached := whole_le_nearest (n := m) (by omega) (by omega)
    rw [seconds, last, timestamp_natCast]
    exact_mod_cast reached
  · have last : seconds (-(m : Int)) - 1 = -((m * 1000000 + 1 : Nat) : Int) := by
      rw [seconds]
      push_cast
      ring
    have reached := nearest_le_whole (n := m) (by omega) (by omega)
    rw [last, timestamp_neg, timestamp_natCast, Int.neg_mul]
    exact neg_le_neg (by exact_mod_cast reached)

/-! ## Cut to whole seconds -/

theorem wholeSeconds_eq {instant : Int} (epoch : 0 ≤ instant)
    (dense : instant < 17179869184 * 1000000) : wholeSeconds instant = instant / 1000000 := by
  have positive := one_pos_int
  have least := timestamp_mono (show instant / 1000000 * 1000000 ≤ instant by omega)
  have less := (timestamp_lt_iff (n := instant / 1000000 + 1) (by omega)).mpr
    (show instant < (instant / 1000000 + 1) * 1000000 by omega)
  rw [← seconds, timestamp_seconds, toFloat_eq (by omega)] at least
  rw [toFloat_eq (by omega)] at less
  have nonneg : 0 ≤ timestamp instant := least.trans' (Int.mul_nonneg (by omega) positive.le)
  rw [wholeSeconds, Int.tdiv_eq_ediv_of_nonneg nonneg]
  exact Int.le_antisymm (Int.lt_add_one_iff.mp ((Int.ediv_lt_iff_lt_mul positive).mpr less))
    ((Int.le_ediv_iff_mul_le positive).mpr least)

theorem wholeSeconds_mono {a b : Instant} (le : a ≤ b) : wholeSeconds a ≤ wholeSeconds b :=
  Int.tdiv_le_tdiv one_pos_int (timestamp_mono le)

theorem wholeSeconds_seconds {n : Int} (small : n.natAbs ≤ 2 ^ 53) :
    wholeSeconds (seconds n) = n := by
  rw [wholeSeconds, timestamp_seconds, toFloat_eq small, Int.mul_tdiv_cancel _ one_pos_int.ne']

/-- An instant that a `datetime` can hold has few seconds. -/
theorem wholeSeconds_small {instant : Instant} (dated : Representable instant) :
    (wholeSeconds instant).natAbs < 2 ^ 53 := by
  have least := wholeSeconds_mono (show seconds (-62135596800) ≤ instant from dated.1)
  have most := wholeSeconds_mono (dated.2.trans (show maxInstant ≤ seconds 253402300800 by decide))
  rw [wholeSeconds_seconds (by decide)] at least most
  omega

theorem pos_of_wholeSeconds_pos {duration : Int} (pos : 0 < wholeSeconds duration) :
    0 < duration := by
  by_contra early
  exact absurd pos (not_lt.mpr (wholeSeconds_nonpos (not_lt.mp early)))

theorem seconds_le_of_le_wholeSeconds {duration n : Int} (pos : 0 < n)
    (dense : n ≤ 17179869184) (le : n ≤ wholeSeconds duration) : seconds n ≤ duration := by
  by_contra more
  have positive := one_pos_int
  have less := (timestamp_lt_iff (by omega)).mpr (not_le.mp more)
  have nonneg : 0 ≤ timestamp duration := by
    by_contra negative
    have early : wholeSeconds duration ≤ 0 := by
      rw [wholeSeconds, ← Int.zero_tdiv]
      exact Int.tdiv_le_tdiv positive (by omega)
    omega
  rw [wholeSeconds, Int.tdiv_eq_ediv_of_nonneg nonneg] at le
  rw [toFloat_eq (by omega)] at less
  exact absurd ((Int.le_ediv_iff_mul_le positive).mp le) (not_le.mpr less)

end Keyring

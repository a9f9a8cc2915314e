import Keyring.FixedPrecision
import Mathlib.Algebra.Order.Group.Int

/-!
# Rounded arithmetic

Signed numbers of some precision, counted in a unit that is a number itself.  An
operation rounds its exact result, and rounding is monotone.  Arithmetic without
rounding is an instance, and so is every binary format.
-/

set_option autoImplicit false

structure Rounding where
  /-- How many units make up the number one. -/
  one : Int
  round : Int → Int
  one_pos : 0 < one
  mono : ∀ a b, a ≤ b → round a ≤ round b
  round_round : ∀ a, round (round a) = round a
  round_neg : ∀ a, round (-a) = -round a
  round_unit : round 1 = 1
  round_one : round one = one
  /-- There is no largest number. -/
  unbounded : ∀ a, ∃ k : Nat, round (a + k) = a + k

namespace Rounding

variable (r : Rounding)

def IsNumber (a : Int) : Prop := r.round a = a

instance (a : Int) : Decidable (r.IsNumber a) := inferInstanceAs (Decidable (_ = _))

def add (a b : Int) : Int := r.round (a + b)

def sub (a b : Int) : Int := r.round (a - b)

/-- The least number that is not below `a`. -/
def above (a : Int) : Int := a + (Nat.find (r.unbounded a) : Nat)

variable {r} {a b c : Int}

theorem round_zero : r.round 0 = 0 := by
  have odd := r.round_neg 0
  rw [neg_zero] at odd
  omega

@[simp] theorem sub_self (a : Int) : r.sub a a = 0 := by
  rw [sub, Int.sub_self, round_zero]

theorem IsNumber.le_round (hb : r.IsNumber b) (le : b ≤ a) : b ≤ r.round a := by
  rw [← hb]
  exact r.mono _ _ le

theorem IsNumber.round_le (hb : r.IsNumber b) (le : a ≤ b) : r.round a ≤ b := by
  rw [← hb]
  exact r.mono _ _ le

theorem sub_le_sub {a' b' : Int} (left : a ≤ a') (right : b' ≤ b) : r.sub a b ≤ r.sub a' b' :=
  r.mono _ _ (by omega)

theorem sub_neg (lt : a < b) : r.sub a b < 0 := by
  have unit : r.IsNumber (-1) := by rw [IsNumber, r.round_neg, r.round_unit]
  have below : r.sub a b ≤ -1 := unit.round_le (by omega)
  omega

/-- A difference that rounds to less than a number is less. -/
theorem sub_lt_of_sub_lt (hc : r.IsNumber c) (lt : r.sub a b < c) : a < b + c := by
  by_contra above
  have reached := hc.le_round (a := a - b) (by omega)
  rw [sub] at lt
  omega

theorem le_above (a : Int) : a ≤ r.above a := by
  rw [above]
  omega

theorem isNumber_above (a : Int) : r.IsNumber (r.above a) := Nat.find_spec (r.unbounded a)

theorem above_le (hb : r.IsNumber b) (le : a ≤ b) : r.above a ≤ b := by
  obtain ⟨k, rfl⟩ := Int.le.dest le
  have least := Nat.find_le (h := r.unbounded a) hb
  rw [above]
  omega

/-! ## Exact arithmetic -/

def exact (one : Int) (pos : 0 < one) : Rounding where
  one := one
  round a := a
  one_pos := pos
  mono := monotone_id
  round_round _ := rfl
  round_neg _ := rfl
  round_unit := rfl
  round_one := rfl
  unbounded _ := ⟨0, rfl⟩

/-! ## Binary formats -/

section Binary

open FixedPrecision

variable (f : Format)

/-- The number nearest to `a / b` units: rounding is symmetric. -/
def quotient (a : Int) (b : Nat) : Int := a.sign * f.nearest a.natAbs b

variable {f}

theorem quotient_natCast (n b : Nat) : quotient f n b = f.nearest n b := by
  rcases Nat.eq_zero_or_pos n with rfl | pos
  · have zero : f.nearest 0 b = 0 := by
      rw [Format.nearest, roundDiv, Nat.zero_mod, Nat.zero_div]
      split_ifs <;> simp_all
    simp [quotient, zero]
  · rw [quotient, Int.sign_natCast_of_ne_zero pos.ne', one_mul, Int.natAbs_natCast]

theorem quotient_neg (a : Int) (b : Nat) : quotient f (-a) b = -quotient f a b := by
  rw [quotient, quotient, Int.sign_neg, Int.natAbs_neg, neg_mul]

theorem quotient_nonneg (n b : Nat) : 0 ≤ quotient f n b := by
  rw [quotient_natCast]
  omega

theorem quotient_mono {a a' : Int} (le : a ≤ a') (b : Nat) : quotient f a b ≤ quotient f a' b := by
  have natural : ∀ m n : Nat, m ≤ n → quotient f m b ≤ quotient f n b := by
    intro m n le
    rw [quotient_natCast, quotient_natCast, Int.ofNat_le]
    exact Format.nearest_mono le b
  rcases Int.eq_nat_or_neg a with ⟨m, rfl | rfl⟩ <;> rcases Int.eq_nat_or_neg a' with ⟨n, rfl | rfl⟩
  · exact natural m n (by omega)
  · obtain ⟨rfl, rfl⟩ : m = 0 ∧ n = 0 := by omega
    rfl
  · rw [quotient_neg]
    have first := quotient_nonneg (f := f) m b
    have second := quotient_nonneg (f := f) n b
    omega
  · rw [quotient_neg, quotient_neg]
    exact neg_le_neg (natural n m (by omega))

theorem quotient_of_representable {n : Nat} (hn : f.Representable n) : quotient f n 1 = n := by
  rw [quotient_natCast, Number.nearest_self hn]

theorem quotient_quotient (a : Int) : quotient f (quotient f a 1) 1 = quotient f a 1 := by
  have natural : ∀ n : Nat, quotient f (quotient f n 1) 1 = quotient f n 1 := by
    intro n
    rw [quotient_natCast]
    exact quotient_of_representable (Format.nearest_representable n 1)
  rcases Int.eq_nat_or_neg a with ⟨n, rfl | rfl⟩
  · exact natural n
  · rw [quotient_neg, quotient_neg, natural]

theorem representable_two_pow (e : Nat) : f.Representable (2 ^ e) := by
  have power := Format.representable_mul (f := f) (k := 1) Nat.one_le_two_pow e
  rwa [Nat.one_mul] at power

theorem quotient_unbounded (a : Int) : ∃ k : Nat, quotient f (a + k) 1 = a + k := by
  have far : a ≤ ((2 ^ a.natAbs : Nat) : Int) := by
    have power := Nat.lt_two_pow_self (n := a.natAbs)
    omega
  obtain ⟨k, same⟩ := Int.le.dest far
  refine ⟨k, ?_⟩
  rw [same]
  exact quotient_of_representable (representable_two_pow _)

/-- The numbers of a binary format, of either sign. -/
def ofFormat (f : Format) : Rounding where
  one := f.one
  round a := quotient f a 1
  one_pos := Int.natCast_pos.mpr Format.one_pos
  mono _ _ le := quotient_mono le 1
  round_round := quotient_quotient
  round_neg a := quotient_neg a 1
  round_unit := quotient_of_representable (representable_two_pow 0)
  round_one := quotient_of_representable Format.representable_one
  unbounded := quotient_unbounded

end Binary

end Rounding

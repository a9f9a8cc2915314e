import Mathlib.Data.Nat.Basic
import Mathlib.Tactic.Ring
import Mathlib.Tactic.Linarith

/-!
# Numbers of a fixed precision

The non-negative numbers of a binary floating-point format, each counted in the
smallest unit that the format has.  Up to a power of two all of them are numbers,
from there on the distance of neighbours doubles with every power.  An operation
gives the number nearest to the exact result, of two the one with the even last
digit; overflow is not considered.
-/

set_option autoImplicit false

namespace FixedPrecision

/-- The integer nearest to `a / b`, of two the even one. -/
def roundDiv (a b : Nat) : Nat :=
  if 2 * (a % b) < b then a / b
  else if b < 2 * (a % b) then a / b + 1
  else a / b + a / b % 2

theorem roundDiv_cases (a b : Nat) :
    roundDiv a b = a / b ∧ 2 * (a % b) ≤ b ∨ roundDiv a b = a / b + 1 ∧ b ≤ 2 * (a % b) := by
  unfold roundDiv
  split_ifs <;> omega

theorem roundDiv_le {a b c : Nat} (pos : 0 < b) (le : a ≤ b * c) : roundDiv a b ≤ c := by
  have split := Nat.div_add_mod a b
  have quotient : a / b ≤ c := Nat.div_le_of_le_mul le
  rcases roundDiv_cases a b with ⟨down, -⟩ | ⟨up, half⟩
  · omega
  · rcases Nat.lt_or_eq_of_le quotient with less | rfl
    · omega
    · omega

theorem le_roundDiv {a b c : Nat} (pos : 0 < b) (le : b * c ≤ a) : c ≤ roundDiv a b := by
  have quotient : c ≤ a / b := (Nat.le_div_iff_mul_le pos).mpr (by rwa [Nat.mul_comm])
  rcases roundDiv_cases a b with ⟨down, -⟩ | ⟨up, -⟩ <;> omega

/-- The error is half a step at most. -/
theorem roundDiv_near {a b : Nat} (pos : 0 < b) :
    2 * (b * roundDiv a b) ≤ 2 * a + b ∧ 2 * a ≤ 2 * (b * roundDiv a b) + b := by
  have split := Nat.div_add_mod a b
  have rest := Nat.mod_lt a pos
  rcases roundDiv_cases a b with ⟨down, half⟩ | ⟨up, half⟩
  · rw [down]
    omega
  · rw [up, Nat.mul_succ]
    omega

theorem roundDiv_mono {a a' : Nat} (le : a ≤ a') (b : Nat) : roundDiv a b ≤ roundDiv a' b := by
  rcases Nat.lt_or_eq_of_le (Nat.div_le_div_right (c := b) le) with less | same
  · rcases roundDiv_cases a b with ⟨down, -⟩ | ⟨up, -⟩ <;>
      rcases roundDiv_cases a' b with ⟨down', -⟩ | ⟨up', -⟩ <;> omega
  · have split := Nat.div_add_mod a b
    have split' := Nat.div_add_mod a' b
    rw [same] at split
    unfold roundDiv
    rw [same]
    split_ifs <;> omega

/-- How many digits follow the leading one, and how many units, as a power of two,
make up the number one. -/
structure Format where
  fraction : Nat
  scale : Nat

namespace Format

variable (f : Format)

def one : Nat := 2 ^ f.scale

/-- The distance from the neighbours, for numbers as large as `n`. -/
def ulp (n : Nat) : Nat := 2 ^ (n.log2 - f.fraction)

def Representable (n : Nat) : Prop := f.ulp n ∣ n

instance (n : Nat) : Decidable (f.Representable n) :=
  inferInstanceAs (Decidable (f.ulp n ∣ n))

/-- The number nearest to `a / b` units. -/
def nearest (a b : Nat) : Nat := roundDiv a (b * f.ulp (a / b)) * f.ulp (a / b)

variable {f}

theorem one_pos : 0 < f.one := Nat.two_pow_pos _

theorem ulp_pos (n : Nat) : 0 < f.ulp n := Nat.two_pow_pos _

theorem log2_mono {m n : Nat} (le : m ≤ n) : m.log2 ≤ n.log2 := by
  by_cases zero : m = 0
  · simp [zero]
  · exact (Nat.le_log2 (by omega)).mpr (Nat.le_trans (Nat.log2_self_le zero) le)

theorem ulp_dvd_ulp {m n : Nat} (le : m ≤ n) : f.ulp m ∣ f.ulp n := by
  have mono := log2_mono le
  exact Nat.pow_dvd_pow 2 (by omega)

/-- A number has one digit more than its fraction. -/
theorem lt_mul_ulp (n : Nat) : n < 2 ^ (f.fraction + 1) * f.ulp n := by
  calc n < 2 ^ (n.log2 + 1) := Nat.lt_log2_self
    _ ≤ 2 ^ (f.fraction + 1 + (n.log2 - f.fraction)) :=
        Nat.pow_le_pow_right (by decide) (by omega)
    _ = 2 ^ (f.fraction + 1) * f.ulp n := Nat.pow_add ..

theorem ulp_dvd {n e : Nat} (below : n < 2 ^ (f.fraction + 1 + e)) : f.ulp n ∣ 2 ^ e := by
  by_cases zero : n = 0
  · simp [zero, ulp]
  · have log := (Nat.log2_lt zero).mpr below
    exact Nat.pow_dvd_pow 2 (by omega)

/-- Up to there all multiples of a power of two are numbers. -/
theorem representable_mul {k : Nat} (few : k ≤ 2 ^ (f.fraction + 1)) (e : Nat) :
    f.Representable (k * 2 ^ e) := by
  rcases Nat.lt_or_eq_of_le few with less | rfl
  · apply Nat.dvd_trans (ulp_dvd _) (Nat.dvd_mul_left _ k)
    rw [Nat.pow_add]
    exact Nat.mul_lt_mul_of_pos_right less (Nat.two_pow_pos e)
  · rw [Representable, ulp, ← Nat.pow_add, Nat.log2_two_pow]
    exact Nat.pow_dvd_pow 2 (by omega)

/-- The integers of as many digits. -/
theorem representable_nat {k : Nat} (few : k ≤ 2 ^ (f.fraction + 1)) :
    f.Representable (k * f.one) := representable_mul few f.scale

theorem representable_one : f.Representable f.one := by
  have whole := representable_nat (f := f) (k := 1) Nat.one_le_two_pow
  rwa [Nat.one_mul] at whole

/-- From a power of two on the numbers are multiples of another. -/
theorem Representable.dvd {n e : Nat} (hn : f.Representable n)
    (large : 2 ^ (f.fraction + e) ≤ n) : 2 ^ e ∣ n := by
  have log : f.fraction + e ≤ n.log2 :=
    (Nat.le_log2 (Nat.ne_of_gt (Nat.lt_of_lt_of_le (Nat.two_pow_pos _) large))).mpr large
  exact Nat.dvd_trans (Nat.pow_dvd_pow 2 (by omega)) hn

/-- What one number leaves of another is a number. -/
theorem Representable.mod {m n : Nat} (hm : f.Representable m) (hn : f.Representable n) :
    f.Representable (m % n) := by
  rcases Nat.eq_zero_or_pos n with rfl | pos
  · rwa [Nat.mod_zero]
  rcases Nat.lt_or_ge m n with less | ge
  · rwa [Nat.mod_eq_of_lt less]
  have small : f.ulp (m % n) ∣ f.ulp n := ulp_dvd_ulp (Nat.mod_lt m pos).le
  have first : f.ulp (m % n) ∣ m := Nat.dvd_trans small (Nat.dvd_trans (ulp_dvd_ulp ge) hm)
  exact (Nat.dvd_mod_iff (Nat.dvd_trans small hn)).mpr first

/-- A number with a fractional part has a small whole part. -/
theorem Representable.few {n : Nat} (hn : f.Representable n) (fractional : ¬ f.one ∣ n) :
    n / f.one < 2 ^ (f.fraction + 1) := by
  have fine : n.log2 - f.fraction < f.scale := by
    by_contra above
    exact fractional (Nat.dvd_trans (Nat.pow_dvd_pow 2 (by omega)) hn)
  apply Nat.div_lt_of_lt_mul
  calc n < 2 ^ (f.fraction + 1) * f.ulp n := lt_mul_ulp n
    _ ≤ 2 ^ (f.fraction + 1) * f.one :=
        Nat.mul_le_mul_left _ (Nat.pow_le_pow_right (by decide) fine.le)
    _ = f.one * 2 ^ (f.fraction + 1) := Nat.mul_comm ..

/-- The whole part of a number is a number. -/
theorem Representable.whole {n : Nat} (hn : f.Representable n) :
    f.Representable (n / f.one * f.one) := by
  by_cases whole : f.one ∣ n
  · rwa [Nat.div_mul_cancel whole]
  · exact representable_nat (hn.few whole).le

/-! ## Rounding -/

section Nearest

variable {a b : Nat}

theorem nearest_representable (a b : Nat) : f.Representable (f.nearest a b) := by
  apply representable_mul
  rcases Nat.eq_zero_or_pos b with rfl | pos
  · have one : roundDiv a (0 * f.ulp (a / 0)) ≤ 1 := by
      rcases roundDiv_cases a (0 * f.ulp (a / 0)) with ⟨down, -⟩ | ⟨up, -⟩ <;> simp_all
    exact Nat.le_trans one Nat.one_le_two_pow
  · apply roundDiv_le (Nat.mul_pos pos (ulp_pos _))
    have quotient := Nat.lt_mul_div_succ a pos
    have most := lt_mul_ulp (f := f) (a / b)
    calc a ≤ b * (a / b + 1) := quotient.le
      _ ≤ b * (2 ^ (f.fraction + 1) * f.ulp (a / b)) := Nat.mul_le_mul_left b most
      _ = b * f.ulp (a / b) * 2 ^ (f.fraction + 1) := by ring

theorem nearest_near (pos : 0 < b) :
    2 * (b * f.nearest a b) ≤ 2 * a + b * f.ulp (a / b) ∧
      2 * a ≤ 2 * (b * f.nearest a b) + b * f.ulp (a / b) := by
  have near := roundDiv_near (a := a) (Nat.mul_pos pos (f.ulp_pos (a / b)))
  have same : b * f.ulp (a / b) * roundDiv a (b * f.ulp (a / b)) = b * f.nearest a b := by
    rw [nearest]
    ring
  rwa [same] at near

/-- A multiple of the step is not above the nearest one when it is less than half a step
above the ratio. -/
theorem le_nearest_of_near {c : Nat} (pos : 0 < b) (multiple : f.ulp (a / b) ∣ c)
    (near : 2 * (b * c) < 2 * a + b * f.ulp (a / b)) : c ≤ f.nearest a b := by
  by_contra less
  have step : f.nearest a b + f.ulp (a / b) ≤ c := by
    obtain ⟨k, rfl⟩ := multiple
    rw [nearest, Nat.mul_comm _ k, ← Nat.succ_mul]
    refine Nat.mul_le_mul_right _ (Nat.lt_of_mul_lt_mul_right (a := f.ulp (a / b)) ?_)
    rw [Nat.mul_comm k]
    exact not_le.mp less
  have scaled := Nat.mul_le_mul_left b step
  have close := (nearest_near (f := f) (a := a) pos).2
  rw [Nat.mul_add] at scaled
  omega

theorem nearest_le_of_near {c : Nat} (pos : 0 < b) (multiple : f.ulp (a / b) ∣ c)
    (near : 2 * a < 2 * (b * c) + b * f.ulp (a / b)) : f.nearest a b ≤ c := by
  by_contra more
  have step : c + f.ulp (a / b) ≤ f.nearest a b := by
    obtain ⟨k, rfl⟩ := multiple
    rw [nearest, Nat.mul_comm _ k, ← Nat.succ_mul]
    refine Nat.mul_le_mul_right _ (Nat.lt_of_mul_lt_mul_right (a := f.ulp (a / b)) ?_)
    rw [Nat.mul_comm k]
    exact not_le.mp more
  have scaled := Nat.mul_le_mul_left b step
  have close := (nearest_near (f := f) (a := a) pos).1
  rw [Nat.mul_add] at scaled
  omega

/-- Rounding does not pass a number. -/
theorem nearest_le {c : Nat} (pos : 0 < b) (hc : f.Representable c) (le : a ≤ b * c) :
    f.nearest a b ≤ c := by
  have quotient : a / b ≤ c := Nat.div_le_of_le_mul le
  obtain ⟨k, rfl⟩ := Nat.dvd_trans (ulp_dvd_ulp (f := f) quotient) hc
  rw [nearest, Nat.mul_comm]
  apply Nat.mul_le_mul_left
  apply roundDiv_le (Nat.mul_pos pos (ulp_pos _))
  rwa [Nat.mul_assoc]

theorem le_nearest {c : Nat} (pos : 0 < b) (hc : f.Representable c) (le : b * c ≤ a) :
    c ≤ f.nearest a b := by
  have quotient : c ≤ a / b := (Nat.le_div_iff_mul_le pos).mpr (by rwa [Nat.mul_comm])
  have multiple : ∀ k, k * f.ulp (a / b) ≤ a / b → k * f.ulp (a / b) ≤ f.nearest a b := by
    intro k fits
    apply Nat.mul_le_mul_right
    apply le_roundDiv (Nat.mul_pos pos (ulp_pos _))
    calc b * f.ulp (a / b) * k = b * (k * f.ulp (a / b)) := by ring
      _ ≤ b * (a / b) := Nat.mul_le_mul_left b fits
      _ ≤ a := Nat.mul_div_le a b
  by_cases coarse : f.ulp (a / b) ∣ c
  · obtain ⟨k, rfl⟩ := coarse
    rw [Nat.mul_comm] at quotient ⊢
    exact multiple k quotient
  · -- a power of two that is not below `c` is a multiple of the wider steps
    have less : c.log2 < (a / b).log2 ∧ f.fraction < (a / b).log2 := by
      by_contra close
      exact coarse (Nat.dvd_trans (Nat.pow_dvd_pow 2 (by omega)) hc)
    have below : c ≤ 2 ^ (a / b).log2 := by
      calc c ≤ 2 ^ (c.log2 + 1) := Nat.lt_log2_self.le
        _ ≤ 2 ^ (a / b).log2 := Nat.pow_le_pow_right (by decide) less.1
    have whole : 2 ^ f.fraction * f.ulp (a / b) = 2 ^ (a / b).log2 := by
      rw [ulp, ← Nat.pow_add]
      congr 1
      omega
    apply Nat.le_trans below
    rw [← whole]
    apply multiple
    rw [whole]
    apply Nat.log2_self_le
    intro zero
    simp [zero] at less

theorem nearest_exact {c : Nat} (pos : 0 < b) (hc : f.Representable c) :
    f.nearest (b * c) b = c :=
  Nat.le_antisymm (nearest_le pos hc (Nat.le_refl _)) (le_nearest pos hc (Nat.le_refl _))

theorem roundDiv_mul_left {c : Nat} (pos : 0 < c) (a b : Nat) :
    roundDiv (c * a) (c * b) = roundDiv a b := by
  have less : ∀ x y, c * x < c * y ↔ x < y := fun x y => Nat.mul_lt_mul_left pos
  have double : ∀ x, 2 * (c * x) = c * (2 * x) := fun x => Nat.mul_left_comm ..
  rw [roundDiv, roundDiv, Nat.mul_mod_mul_left, Nat.mul_div_mul_left _ _ pos, double]
  simp only [less]

/-- A quotient depends on the ratio only. -/
theorem nearest_mul_left {c : Nat} (pos : 0 < c) (a b : Nat) :
    f.nearest (c * a) (c * b) = f.nearest a b := by
  rw [nearest, nearest, Nat.mul_div_mul_left _ _ pos, Nat.mul_assoc, roundDiv_mul_left pos]

/-- Of two numbers of different length, the power of two between them is a number. -/
theorem nearest_mono {a' : Nat} (le : a ≤ a') (b : Nat) : f.nearest a b ≤ f.nearest a' b := by
  rcases Nat.eq_zero_or_pos b with rfl | pos
  · have same : f.ulp (a / 0) = f.ulp (a' / 0) := by rw [Nat.div_zero, Nat.div_zero]
    rw [nearest, nearest, same]
    exact Nat.mul_le_mul_right _ (roundDiv_mono le _)
  rcases Nat.lt_or_eq_of_le (log2_mono (Nat.div_le_div_right (c := b) le)) with less | same
  · have large : a' / b ≠ 0 := by
      intro zero
      simp [zero] at less
    have power : f.Representable (2 ^ (a' / b).log2) := by
      have whole := representable_mul (f := f) (k := 1) Nat.one_le_two_pow (a' / b).log2
      rwa [Nat.one_mul] at whole
    have below : a / b < 2 ^ (a' / b).log2 := by
      by_cases zero : a / b = 0
      · rw [zero]
        exact Nat.two_pow_pos _
      · exact (Nat.log2_lt zero).mp less
    calc f.nearest a b ≤ 2 ^ (a' / b).log2 :=
          nearest_le pos power ((Nat.div_lt_iff_lt_mul pos).mp below |>.le.trans_eq (Nat.mul_comm ..))
      _ ≤ f.nearest a' b := by
          apply le_nearest pos power
          rw [Nat.mul_comm]
          exact (Nat.le_div_iff_mul_le pos).mp (Nat.log2_self_le large)
  · have spaced : f.ulp (a / b) = f.ulp (a' / b) := by rw [ulp, ulp, same]
    rw [nearest, nearest, spaced]
    exact Nat.mul_le_mul_right _ (roundDiv_mono le _)

end Nearest

end Format

/-! ## The operations -/

structure Number (f : Format) where
  units : Nat
  representable : f.Representable units

namespace Number

variable {f : Format}

/-- The number that `a / b` is read as. -/
def ratio (a b : Nat) : Number f := ⟨f.nearest (a * f.one) b, f.nearest_representable _ _⟩

def add (x y : Number f) : Number f :=
  ⟨f.nearest (x.units + y.units) 1, f.nearest_representable _ _⟩

/-- Of a number and one that is not larger. -/
def sub (x y : Number f) : Number f :=
  ⟨f.nearest (x.units - y.units) 1, f.nearest_representable _ _⟩

def div (x y : Number f) : Number f :=
  ⟨f.nearest (x.units * f.one) y.units, f.nearest_representable _ _⟩

/-- The remainder is not rounded. -/
def mod (x y : Number f) : Number f := ⟨x.units % y.units, x.representable.mod y.representable⟩

def floor (x : Number f) : Number f := ⟨x.units / f.one * f.one, x.representable.whole⟩

def toNat (x : Number f) : Nat := x.units / f.one

instance : Add (Number f) := ⟨add⟩
instance : Sub (Number f) := ⟨sub⟩
instance : Div (Number f) := ⟨div⟩
instance : Mod (Number f) := ⟨mod⟩
instance : LT (Number f) := ⟨fun x y => x.units < y.units⟩

instance (x y : Number f) : Decidable (x < y) := inferInstanceAs (Decidable (x.units < y.units))

theorem lt_iff {x y : Number f} : x < y ↔ x.units < y.units := Iff.rfl

theorem ratio_units (a b : Nat) : (ratio a b : Number f).units = f.nearest (a * f.one) b := rfl

theorem add_units (x y : Number f) : (x + y).units = f.nearest (x.units + y.units) 1 := rfl

theorem sub_units (x y : Number f) : (x - y).units = f.nearest (x.units - y.units) 1 := rfl

theorem div_units (x y : Number f) : (x / y).units = f.nearest (x.units * f.one) y.units := rfl

@[simp] theorem mod_units (x y : Number f) : (x % y).units = x.units % y.units := rfl

@[simp] theorem floor_units (x : Number f) : x.floor.units = x.units / f.one * f.one := rfl

theorem nearest_self {n : Nat} (hn : f.Representable n) : f.nearest n 1 = n := by
  have exact := Format.nearest_exact Nat.one_pos hn
  rwa [Nat.one_mul] at exact

@[simp] theorem ratio_one_units {n : Nat} (few : n ≤ 2 ^ (f.fraction + 1)) :
    (ratio n 1 : Number f).units = n * f.one :=
  nearest_self (Format.representable_nat few)

theorem half_units (divisible : 0 < f.scale) : 2 * (ratio 1 2 : Number f).units = f.one := by
  have even : 2 * 2 ^ (f.scale - 1) = f.one := by
    rw [Format.one, ← Nat.pow_succ']
    congr 1
    omega
  have representable := Format.representable_mul (f := f) Nat.one_le_two_pow (f.scale - 1)
  rw [Nat.one_mul] at representable
  rw [ratio_units, Nat.one_mul, ← even, Format.nearest_exact (by decide) representable]

/-- What is left of a number by its whole part is not rounded. -/
theorem sub_floor_units (x : Number f) : (x - x.floor).units = x.units % f.one := by
  have split := Nat.div_add_mod' x.units f.one
  have rest : x.units - x.units / f.one * f.one = x.units % f.one := by omega
  rw [sub_units, floor_units, rest]
  exact nearest_self (x.representable.mod Format.representable_one)

end Number

end FixedPrecision

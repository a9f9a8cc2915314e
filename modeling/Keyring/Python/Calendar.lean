import Mathlib.Data.List.Basic
import Mathlib.Order.Basic

/-!
# The calendar of `datetime`

The proleptic Gregorian calendar, with the day count that `date.toordinal` and
`date.fromordinal` convert: the first of January of the year 1 has the number 1.
-/

set_option autoImplicit false

namespace Keyring

def isLeap (year : Nat) : Bool := year % 4 = 0 && (year % 100 ≠ 0 || year % 400 = 0)

/-- `_days_in_month`, by whether the year is a leap year. -/
def daysInMonth (leap : Bool) (month : Nat) : Nat :=
  if month = 2 && leap then 29
  else [0, 31, 28, 31, 30, 31, 30, 31, 31, 30, 31, 30, 31].getD month 0

def daysBeforeMonth (leap : Bool) (month : Nat) : Nat :=
  [0, 0, 31, 59, 90, 120, 151, 181, 212, 243, 273, 304, 334].getD month 0 +
    (month > 2 && leap).toNat

def daysBeforeYear (year : Nat) : Nat :=
  let y := year - 1
  y * 365 + y / 4 - y / 100 + y / 400

def maxYear : Nat := 9999

/-- `date.max.toordinal()`. -/
def maxOrdinal : Nat := 3652059

structure Date where
  year : Nat
  month : Nat
  day : Nat
  year_pos : 1 ≤ year
  year_le : year ≤ maxYear
  month_pos : 1 ≤ month
  month_le : month ≤ 12
  day_pos : 1 ≤ day
  day_le : day ≤ daysInMonth (isLeap year) month

/-- `date(year, month, day)`; `none` is a `ValueError`. -/
def date? (year month day : Nat) : Option Date :=
  if valid : (1 ≤ year ∧ year ≤ maxYear) ∧ (1 ≤ month ∧ month ≤ 12) ∧
      1 ≤ day ∧ day ≤ daysInMonth (isLeap year) month then
    some ⟨year, month, day, valid.1.1, valid.1.2, valid.2.1.1, valid.2.1.2, valid.2.2.1, valid.2.2.2⟩
  else none

/-- `date.toordinal`. -/
def Date.ordinal (date : Date) : Nat :=
  daysBeforeYear date.year + daysBeforeMonth (isLeap date.year) date.month + date.day

/-- The month and the day of the month of the `n`-th day of a year, counted from 0. -/
def monthDay (leap : Bool) (n : Nat) : Nat × Nat :=
  let month := (n + 50) / 32
  if daysBeforeMonth leap month > n then (month - 1, n - daysBeforeMonth leap (month - 1) + 1)
  else (month, n - daysBeforeMonth leap month + 1)

/-- The year of the `n`-th day, counted from 0, and how many of its days come before. -/
def yearDay (n : Nat) : Nat × Nat :=
  let n400 := n / 146097
  let n := n % 146097
  let n100 := n / 36524
  let n := n % 36524
  let n4 := n / 1461
  let n := n % 1461
  let n1 := n / 365
  let year := n400 * 400 + 1 + n100 * 100 + n4 * 4 + n1
  if n1 = 4 || n100 = 4 then (year - 1, 365) else (year, n % 365)

/-- `_ord2ymd`. -/
def ordToYmd (ordinal : Nat) : Nat × Nat × Nat :=
  let (year, n) := yearDay (ordinal - 1)
  let (month, day) := monthDay (isLeap year) n
  (year, month, day)

/-! ## Days of a year -/

theorem daysInMonth_le (leap : Bool) {month : Nat} (le : month ≤ 12) :
    daysInMonth leap month ≤ 31 := by
  have each : ∀ leap, ∀ i : Fin 13, daysInMonth leap i ≤ 31 := by decide
  exact each leap ⟨month, by omega⟩

theorem daysBeforeMonth_mono (leap : Bool) {early late : Nat} (pos : 1 ≤ early) (less : early < late)
    (le : late ≤ 12) :
    daysBeforeMonth leap early + daysInMonth leap early ≤ daysBeforeMonth leap late := by
  have each : ∀ leap, ∀ i j : Fin 13, 1 ≤ i.val → i < j →
      daysBeforeMonth leap i + daysInMonth leap i ≤ daysBeforeMonth leap j := by decide
  exact each leap ⟨early, by omega⟩ ⟨late, by omega⟩ pos less

theorem day_of_year_le (leap : Bool) {month : Nat} (pos : 1 ≤ month) (le : month ≤ 12) :
    daysBeforeMonth leap month + daysInMonth leap month ≤ 365 + leap.toNat := by
  have each : ∀ leap, ∀ i : Fin 13, 1 ≤ i.val →
      daysBeforeMonth leap i + daysInMonth leap i ≤ 365 + leap.toNat := by decide
  exact each leap ⟨month, by omega⟩ pos

/-- What `monthDay` answers is a day of the year, and the right one. -/
structure DayOf (leap : Bool) (n month day : Nat) : Prop where
  month_pos : 1 ≤ month
  month_le : month ≤ 12
  day_pos : 1 ≤ day
  day_le : day ≤ daysInMonth leap month
  counted : daysBeforeMonth leap month + day = n + 1

instance (leap : Bool) (n month day : Nat) : Decidable (DayOf leap n month day) :=
  decidable_of_iff
    (1 ≤ month ∧ month ≤ 12 ∧ 1 ≤ day ∧ day ≤ daysInMonth leap month ∧
      daysBeforeMonth leap month + day = n + 1)
    ⟨fun h => ⟨h.1, h.2.1, h.2.2.1, h.2.2.2.1, h.2.2.2.2⟩,
      fun h => ⟨h.month_pos, h.month_le, h.day_pos, h.day_le, h.counted⟩⟩

theorem monthDay_dayOf (leap : Bool) {n : Nat} (within : n < 365 + leap.toNat) :
    DayOf leap n (monthDay leap n).1 (monthDay leap n).2 := by
  have ordinary : ∀ n : Fin 365, DayOf false n (monthDay false n).1 (monthDay false n).2 := by
    decide +kernel
  have leaping : ∀ n : Fin 366, DayOf true n (monthDay true n).1 (monthDay true n).2 := by
    decide +kernel
  cases leap with
  | false => exact ordinary ⟨n, by simpa using within⟩
  | true => exact leaping ⟨n, by simpa using within⟩

/-! ## Years -/

theorem isLeap_iff {year : Nat} :
    isLeap year = true ↔ year % 4 = 0 ∧ (year % 100 ≠ 0 ∨ year % 400 = 0) := by
  simp [isLeap]

theorem daysBeforeYear_place {a b c d : Nat} (hb : b < 4) (hc : c < 25) (hd : d < 4) :
    daysBeforeYear (400 * a + 100 * b + 4 * c + d + 1) =
      146097 * a + 36524 * b + 1461 * c + 365 * d := by
  have fours : (400 * a + 100 * b + 4 * c + d) / 4 = 100 * a + 25 * b + c := by omega
  have hundreds : (400 * a + 100 * b + 4 * c + d) / 100 = 4 * a + b := by omega
  have four_hundreds : (400 * a + 100 * b + 4 * c + d) / 400 = a := by omega
  unfold daysBeforeYear
  simp only [Nat.add_sub_cancel, fours, hundreds, four_hundreds]
  omega

theorem isLeap_place {a b c d : Nat} (hb : b < 4) (hc : c < 25) (hd : d < 4) :
    isLeap (400 * a + 100 * b + 4 * c + d + 1) = true ↔ d = 3 ∧ (c ≠ 24 ∨ b = 3) := by
  rw [isLeap_iff]
  have four : (400 * a + 100 * b + 4 * c + d + 1) % 4 = 0 ↔ d = 3 := by omega
  have hundred : (400 * a + 100 * b + 4 * c + d + 1) % 100 = 0 ↔ 4 * c + d = 99 := by omega
  have four_hundred : (400 * a + 100 * b + 4 * c + d + 1) % 400 = 0 ↔ 100 * b + 4 * c + d = 399 := by
    omega
  rw [four, ne_eq, hundred, four_hundred]
  omega

theorem place_of_year {year : Nat} (pos : 1 ≤ year) :
    ∃ a b c d, b < 4 ∧ c < 25 ∧ d < 4 ∧ year = 400 * a + 100 * b + 4 * c + d + 1 := by
  refine ⟨(year - 1) / 400, (year - 1) % 400 / 100, (year - 1) % 100 / 4, (year - 1) % 4, ?_⟩
  omega

theorem daysBeforeYear_succ {year : Nat} (pos : 1 ≤ year) :
    daysBeforeYear (year + 1) = daysBeforeYear year + 365 + (isLeap year).toNat := by
  obtain ⟨a, b, c, d, hb, hc, hd, rfl⟩ := place_of_year pos
  have leap := isLeap_place (a := a) hb hc hd
  rw [daysBeforeYear_place hb hc hd]
  unfold daysBeforeYear
  simp only [Nat.add_sub_cancel]
  cases here : isLeap (400 * a + 100 * b + 4 * c + d + 1) with
  | true =>
      have last := leap.mp here
      rw [Bool.toNat_true]
      omega
  | false =>
      have inner : ¬(d = 3 ∧ (c ≠ 24 ∨ b = 3)) := fun last => by
        rw [leap.mpr last] at here
        cases here
      rw [Bool.toNat_false]
      omega

theorem daysBeforeYear_mono {early late : Nat} (pos : 1 ≤ early) (le : early ≤ late) :
    daysBeforeYear early ≤ daysBeforeYear late := by
  induction le with
  | refl => exact Nat.le_refl _
  | @step late le ih =>
      have stepped := daysBeforeYear_succ (Nat.le_trans pos le)
      rw [Nat.succ_eq_add_one]
      omega

/-- What `yearDay` answers is a day of that year, and the right one. -/
structure DayIn (n year day : Nat) : Prop where
  year_pos : 1 ≤ year
  within : day < 365 + (isLeap year).toNat
  counted : daysBeforeYear year + day = n

theorem dayIn_place (a b c d day : Nat) (hb : b < 4) (hc : c < 25) (hd : d < 4)
    (within : day < 365 ∨ day = 365 ∧ d = 3 ∧ (c ≠ 24 ∨ b = 3)) :
    DayIn (146097 * a + 36524 * b + 1461 * c + 365 * d + day)
      (400 * a + 100 * b + 4 * c + d + 1) day where
  year_pos := by omega
  within := by
    rcases within with less | ⟨last, leap⟩
    · omega
    · rw [(isLeap_place hb hc hd).mpr leap, last]
      decide
  counted := by rw [daysBeforeYear_place hb hc hd]

theorem yearDay_dayIn (n : Nat) : DayIn n (yearDay n).1 (yearDay n).2 := by
  unfold yearDay
  simp only
  generalize h400 : n / 146097 = a
  generalize r400 : n % 146097 = n'
  generalize h100 : n' / 36524 = b
  generalize r100 : n' % 36524 = n''
  generalize h4 : n'' / 1461 = c
  generalize r4 : n'' % 1461 = m
  generalize h1 : m / 365 = d
  split
  · rename_i last
    rw [Bool.or_eq_true, decide_eq_true_eq, decide_eq_true_eq] at last
    by_cases century : b = 4
    · -- the last day of 400 years
      have place := dayIn_place a 3 24 3 365
        (by decide) (by decide) (by decide) (.inr ⟨rfl, rfl, .inr rfl⟩)
      convert place using 1 <;> omega
    · -- the last day of 4 years
      have place := dayIn_place a b c 3 365
        (by omega) (by omega) (by decide) (.inr ⟨rfl, rfl, by omega⟩)
      convert place using 1 <;> omega
  · rename_i inner
    rw [Bool.or_eq_true, decide_eq_true_eq, decide_eq_true_eq] at inner
    have place := dayIn_place a b c d (m % 365)
      (by omega) (by omega) (by omega) (.inl (Nat.mod_lt _ (by decide)))
    convert place using 1 <;> omega

/-! ## Day numbers -/

theorem Date.ordinal_pos (date : Date) : 1 ≤ date.ordinal :=
  Nat.le_trans date.day_pos (Nat.le_add_left _ _)

/-- The dates of an earlier year have smaller numbers. -/
theorem Date.ordinal_le (date : Date) : date.ordinal ≤ daysBeforeYear (date.year + 1) := by
  have within := day_of_year_le (isLeap date.year) date.month_pos date.month_le
  have last := date.day_le
  rw [daysBeforeYear_succ date.year_pos, Date.ordinal]
  omega

/-- Dates compared by year, then month, then day. -/
def Date.before (a b : Date) : Prop :=
  a.year < b.year ∨ a.year = b.year ∧ (a.month < b.month ∨ a.month = b.month ∧ a.day < b.day)

theorem Date.ordinal_lt_of_before {a b : Date} (less : a.before b) : a.ordinal < b.ordinal := by
  rcases less with year | ⟨year, month | ⟨month, day⟩⟩
  · have early := a.ordinal_le
    have between := daysBeforeYear_mono (Nat.le_add_left 1 a.year) year
    have started := b.day_pos
    rw [Date.ordinal.eq_def b]
    omega
  · have between := daysBeforeMonth_mono (isLeap b.year) a.month_pos month b.month_le
    have last := a.day_le
    have started := b.day_pos
    rw [year] at last
    rw [Date.ordinal, Date.ordinal, year]
    omega
  · rw [Date.ordinal, Date.ordinal, year, month]
    omega

theorem Date.eq_of_fields {a b : Date} (year : a.year = b.year) (month : a.month = b.month)
    (day : a.day = b.day) : a = b := by
  cases a
  cases b
  simp_all

theorem Date.before_trichotomy (a b : Date) : a.before b ∨ a = b ∨ b.before a := by
  unfold Date.before
  rcases Nat.lt_trichotomy a.year b.year with year | year | year
  · exact .inl (.inl year)
  · rcases Nat.lt_trichotomy a.month b.month with month | month | month
    · exact .inl (.inr ⟨year, .inl month⟩)
    · rcases Nat.lt_trichotomy a.day b.day with day | day | day
      · exact .inl (.inr ⟨year, .inr ⟨month, day⟩⟩)
      · exact .inr (.inl (Date.eq_of_fields year month day))
      · exact .inr (.inr (.inr ⟨year.symm, .inr ⟨month.symm, day⟩⟩))
    · exact .inr (.inr (.inr ⟨year.symm, .inl month⟩))
  · exact .inr (.inr (.inl year))

/-- The order of the day numbers is the order of the dates. -/
theorem Date.ordinal_lt {a b : Date} : a.ordinal < b.ordinal ↔ a.before b := by
  refine ⟨fun less => ?_, Date.ordinal_lt_of_before⟩
  rcases a.before_trichotomy b with before | rfl | after
  · exact before
  · omega
  · have reversed := Date.ordinal_lt_of_before after
    omega

theorem Date.ordinal_inj {a b : Date} : a.ordinal = b.ordinal ↔ a = b := by
  refine ⟨fun same => ?_, fun same => by rw [same]⟩
  rcases a.before_trichotomy b with before | same | after
  · have less := Date.ordinal_lt_of_before before
    omega
  · exact same
  · have less := Date.ordinal_lt_of_before after
    omega

/-- `date.fromordinal`; `none` is a `ValueError`. -/
def fromOrdinal? (ordinal : Nat) : Option Date :=
  let (year, month, day) := ordToYmd ordinal
  if 1 ≤ ordinal then date? year month day else none

theorem date?_fields {year month day : Nat} {date : Date} (built : date? year month day = some date) :
    date.year = year ∧ date.month = month ∧ date.day = day := by
  unfold date? at built
  split at built
  · cases built
    exact ⟨rfl, rfl, rfl⟩
  · cases built

@[simp] theorem date?_self (date : Date) : date? date.year date.month date.day = some date := by
  unfold date?
  rw [dif_pos ⟨⟨date.year_pos, date.year_le⟩, ⟨date.month_pos, date.month_le⟩, date.day_pos,
    date.day_le⟩]

theorem fromOrdinal?_ordinal {ordinal : Nat} {date : Date}
    (built : fromOrdinal? ordinal = some date) : date.ordinal = ordinal := by
  unfold fromOrdinal? at built
  simp only [ordToYmd] at built
  split at built
  · rename_i pos
    have inYear := yearDay_dayIn (ordinal - 1)
    have inMonth := monthDay_dayOf _ inYear.within
    obtain ⟨year, month, day⟩ := date?_fields built
    have counted := inYear.counted
    have counted' := inMonth.counted
    rw [Date.ordinal, year, month, day]
    omega
  · cases built

theorem fromOrdinal?_isSome {ordinal : Nat} (pos : 1 ≤ ordinal) (le : ordinal ≤ maxOrdinal) :
    ∃ date, fromOrdinal? ordinal = some date := by
  have inYear := yearDay_dayIn (ordinal - 1)
  have inMonth := monthDay_dayOf _ inYear.within
  have last : daysBeforeYear (maxYear + 1) = maxOrdinal := by decide
  have year_le : (yearDay (ordinal - 1)).1 ≤ maxYear := by
    by_contra late
    have later : maxYear + 1 ≤ (yearDay (ordinal - 1)).1 := by omega
    have after := daysBeforeYear_mono (Nat.le_add_left 1 maxYear) later
    have counted := inYear.counted
    omega
  have valid := And.intro (And.intro inYear.year_pos year_le) (And.intro
    (And.intro inMonth.month_pos inMonth.month_le) (And.intro inMonth.day_pos inMonth.day_le))
  rw [fromOrdinal?]
  simp only [ordToYmd]
  rw [if_pos pos, date?, dif_pos valid]
  exact ⟨_, rfl⟩

theorem Date.ordinal_le_max (date : Date) : date.ordinal ≤ maxOrdinal := by
  have within := date.ordinal_le
  have last : daysBeforeYear (maxYear + 1) = maxOrdinal := by decide
  rw [← last]
  exact Nat.le_trans within
    (daysBeforeYear_mono (Nat.le_add_left 1 date.year) (Nat.succ_le_succ date.year_le))

end Keyring

import Keyring.Domain.Errors
import Keyring.FixedWidth
import Keyring.Python.Calendar

/-!
# Aware datetimes

`datetime` as far as columns use it: the fields of a wall clock with its offset
from UTC, the conversion to UTC, and the text that `isoformat` writes and
`fromisoformat` reads back.
-/

set_option autoImplicit false

namespace Keyring

open FixedWidth

def microsPerDay : Nat := 86400000000

/-- The fields of a `datetime`, without its time zone. -/
structure Wall where
  date : Date
  hour : Nat
  minute : Nat
  second : Nat
  microsecond : Nat
  hour_lt : hour < 24
  minute_lt : minute < 60
  second_lt : second < 60
  microsecond_lt : microsecond < 1000000

def wall? (year month day hour minute second microsecond : Nat) : Option Wall := do
  let date ← date? year month day
  if valid : (hour < 24 ∧ minute < 60) ∧ second < 60 ∧ microsecond < 1000000 then
    some ⟨date, hour, minute, second, microsecond, valid.1.1, valid.1.2, valid.2.1, valid.2.2⟩
  else none

namespace Wall

def timeOfDay (wall : Wall) : Nat :=
  ((wall.hour * 60 + wall.minute) * 60 + wall.second) * 1000000 + wall.microsecond

/-- Microseconds since the start of the day with the number 0. -/
def micros (wall : Wall) : Nat := wall.date.ordinal * microsPerDay + wall.timeOfDay

end Wall

/-- The fields that a sum of a `datetime` and a `timedelta` is put into; `none` is an
`OverflowError`. -/
def wallOf? (micros : Int) : Option Wall :=
  let days := micros / microsPerDay
  let rest := (micros % microsPerDay).toNat
  if 0 < days ∧ days ≤ maxOrdinal then
    (fromOrdinal? days.toNat).map fun date =>
      { date := date
        hour := rest / 3600000000
        minute := rest / 60000000 % 60
        second := rest / 1000000 % 60
        microsecond := rest % 1000000
        hour_lt := by simp only [rest, microsPerDay]; omega
        minute_lt := Nat.mod_lt _ (by decide)
        second_lt := Nat.mod_lt _ (by decide)
        microsecond_lt := Nat.mod_lt _ (by decide) }
  else none

/-- What `utcoffset()` answers: less than a day in either direction. -/
structure Offset where
  micros : Int
  above : -microsPerDay < micros
  below : micros < microsPerDay

def utc : Offset := ⟨0, by decide, by decide⟩

structure Aware where
  wall : Wall
  utcoffset : Offset

inductive Datetime where
  | naive (wall : Wall)
  | aware (value : Aware)

/-- 1970-01-01 since the start of the day with the number 0. -/
def epochMicros : Int := 719163 * microsPerDay

namespace Aware

def instant (a : Aware) : Instant := a.wall.micros - a.utcoffset.micros - epochMicros

/-- `astimezone(UTC)` -/
def astimezoneUtc (a : Aware) : Except Error Aware :=
  match wallOf? (a.wall.micros - a.utcoffset.micros) with
  | some wall => .ok ⟨wall, utc⟩
  | none => .error (.overflow "date value out of range")

end Aware

/-! ## The text -/

/-- A number of a fixed width with the separator after it. -/
def field (width n : Nat) (separator : Char) (rest : List Char) : List Char :=
  digits width n ++ separator :: rest

/-- `%04d-%02d-%02dT`; no field of a `datetime` has more digits. -/
def Date.text (date : Date) (rest : List Char) : List Char :=
  field 4 date.year '-' (field 2 date.month '-' (field 2 date.day 'T' rest))

/-- `%02d:%02d:%02d.%06d`. -/
def Wall.timeText (wall : Wall) (rest : List Char) : List Char :=
  field 2 wall.hour ':' (field 2 wall.minute ':' (field 2 wall.second '.'
    (digits 6 wall.microsecond ++ rest)))

def Wall.text (wall : Wall) (rest : List Char) : List Char := wall.date.text (wall.timeText rest)

/-- `_format_offset`: seconds and microseconds are left out where there are none. -/
def formatOffset (offset : Offset) : List Char :=
  let sign := if offset.micros < 0 then '-' else '+'
  let n := offset.micros.natAbs
  let seconds := n / 1000000 % 60
  let micros := n % 1000000
  sign :: field 2 (n / 3600000000) ':' (digits 2 (n / 60000000 % 60) ++
    (if seconds = 0 ∧ micros = 0 then []
      else ':' :: digits 2 seconds ++ if micros = 0 then [] else '.' :: digits 6 micros))

/-- `isoformat(timespec="microseconds")` -/
def Aware.isoformat (a : Aware) : String := String.ofList (a.wall.text (formatOffset a.utcoffset))

/-! ## Reading -/

def readNumber (width : Nat) (text : List Char) : Option (Nat × List Char) :=
  if (text.take width).length = width then
    (number? 0 (text.take width)).map fun n => (n, text.drop width)
  else none

def readField (width : Nat) (separator : Char) (text : List Char) : Option (Nat × List Char) := do
  let (n, after) ← readNumber width text
  match after with
  | c :: rest => if c = separator then some (n, rest) else none
  | [] => none

def readWall (text : List Char) : Option (Wall × List Char) := do
  let (year, text) ← readField 4 '-' text
  let (month, text) ← readField 2 '-' text
  let (day, text) ← readField 2 'T' text
  let (hour, text) ← readField 2 ':' text
  let (minute, text) ← readField 2 ':' text
  let (second, text) ← readField 2 '.' text
  let (microsecond, text) ← readNumber 6 text
  let wall ← wall? year month day hour minute second microsecond
  some (wall, text)

/-- The seconds of an offset in microseconds, when there are any. -/
def readOffsetSeconds : List Char → Option Nat
  | [] => some 0
  | ':' :: text => do
      let (seconds, text) ← readNumber 2 text
      match text with
      | [] => some (seconds * 1000000)
      | '.' :: text => do
          let (micros, text) ← readNumber 6 text
          if text = [] then some (seconds * 1000000 + micros) else none
      | _ => none
  | _ => none

def readOffset : List Char → Option Offset
  | [] => none
  | sign :: text => do
      let (hours, text) ← readField 2 ':' text
      let (minutes, text) ← readNumber 2 text
      let seconds ← readOffsetSeconds text
      let n : Int := (hours * 60 + minutes : Nat) * 60000000 + seconds
      let micros := if sign = '-' then -n else n
      if (sign = '+' ∨ sign = '-') ∧ minutes < 60 then
        if bounded : -microsPerDay < micros ∧ micros < microsPerDay then
          some ⟨micros, bounded.1, bounded.2⟩
        else none
      else none

/-- `fromisoformat`, of the one form that `isoformat` gives an aware `datetime` with its
microseconds; the other forms of ISO 8601 are not modelled, and no column has one. -/
def fromIsoformat? (text : String) : Option Aware := do
  let (wall, rest) ← readWall text.toList
  let offset ← readOffset rest
  some ⟨wall, offset⟩

/-! ## Fields and microseconds -/

namespace Wall

theorem timeOfDay_lt (wall : Wall) : wall.timeOfDay < microsPerDay := by
  have hour := wall.hour_lt
  have minute := wall.minute_lt
  have second := wall.second_lt
  have microsecond := wall.microsecond_lt
  unfold timeOfDay microsPerDay
  omega

theorem eq_of_fields {a b : Wall} (date : a.date = b.date) (hour : a.hour = b.hour)
    (minute : a.minute = b.minute) (second : a.second = b.second)
    (microsecond : a.microsecond = b.microsecond) : a = b := by
  cases a
  cases b
  simp_all

theorem timeOfDay_inj {a b : Wall} (same : a.timeOfDay = b.timeOfDay) :
    a.hour = b.hour ∧ a.minute = b.minute ∧ a.second = b.second ∧
      a.microsecond = b.microsecond := by
  have minuteA := a.minute_lt
  have minuteB := b.minute_lt
  have secondA := a.second_lt
  have secondB := b.second_lt
  have microsecondA := a.microsecond_lt
  have microsecondB := b.microsecond_lt
  unfold timeOfDay at same
  omega

theorem micros_inj {a b : Wall} : a.micros = b.micros ↔ a = b := by
  refine ⟨fun same => ?_, fun same => by rw [same]⟩
  have fitsA := a.timeOfDay_lt
  have fitsB := b.timeOfDay_lt
  unfold micros at same
  have days : a.date.ordinal = b.date.ordinal := by
    unfold microsPerDay at *
    omega
  have time : a.timeOfDay = b.timeOfDay := by
    rw [days] at same
    omega
  obtain ⟨hour, minute, second, microsecond⟩ := timeOfDay_inj time
  exact eq_of_fields (Date.ordinal_inj.mp days) hour minute second microsecond

end Wall

theorem wallOf?_micros {m : Int} {wall : Wall} (built : wallOf? m = some wall) :
    (wall.micros : Int) = m := by
  unfold wallOf? at built
  simp only at built
  split at built
  · rename_i inside
    obtain ⟨date, found, rfl⟩ := Option.map_eq_some_iff.mp built
    have day := fromOrdinal?_ordinal found
    have pos := inside.1
    simp only [Wall.micros, Wall.timeOfDay, day]
    unfold microsPerDay at *
    omega
  · cases built

theorem wallOf?_isSome {m : Int} (pos : (microsPerDay : Int) ≤ m)
    (below : m < (maxOrdinal + 1) * microsPerDay) : ∃ wall, wallOf? m = some wall := by
  have inside : 0 < m / microsPerDay ∧ m / microsPerDay ≤ maxOrdinal := by
    unfold microsPerDay maxOrdinal at *
    omega
  have ordinal : 1 ≤ (m / microsPerDay).toNat ∧ (m / microsPerDay).toNat ≤ maxOrdinal := by omega
  obtain ⟨date, found⟩ := fromOrdinal?_isSome ordinal.1 ordinal.2
  unfold wallOf?
  simp only
  rw [if_pos inside, found]
  exact ⟨_, rfl⟩

theorem Wall.micros_ge (wall : Wall) : microsPerDay ≤ wall.micros := by
  have day := wall.date.ordinal_pos
  have whole : 1 * microsPerDay ≤ wall.date.ordinal * microsPerDay :=
    Nat.mul_le_mul_right microsPerDay day
  unfold Wall.micros
  omega

theorem Wall.micros_lt (wall : Wall) : wall.micros < (maxOrdinal + 1) * microsPerDay := by
  have day := wall.date.ordinal_le_max
  have whole : wall.date.ordinal * microsPerDay ≤ maxOrdinal * microsPerDay :=
    Nat.mul_le_mul_right microsPerDay day
  have time := wall.timeOfDay_lt
  rw [Nat.add_mul]
  unfold Wall.micros
  omega

/-- Fields that are put together again are the same. -/
@[simp] theorem wallOf?_self (wall : Wall) : wallOf? wall.micros = some wall := by
  obtain ⟨found, built⟩ := wallOf?_isSome (m := wall.micros)
    (by exact_mod_cast wall.micros_ge) (by exact_mod_cast wall.micros_lt)
  have same : found.micros = wall.micros := by exact_mod_cast wallOf?_micros built
  rw [built, Wall.micros_inj.mp same]

/-! ## The order of the texts -/

theorem field_lt {width m n : Nat} {separator : Char} {a b : List Char} (hm : m < 10 ^ width)
    (hn : n < 10 ^ width) :
    field width m separator a < field width n separator b ↔ m < n ∨ m = n ∧ a < b := by
  unfold field
  rw [append_lt_append (by simp), digits_lt hm hn, digits_inj hm hn, List.cons_lt_cons_self]

theorem Date.year_lt (date : Date) : date.year < 10 ^ 4 :=
  Nat.lt_of_le_of_lt date.year_le (by decide)

theorem Date.month_lt (date : Date) : date.month < 10 ^ 2 :=
  Nat.lt_of_le_of_lt date.month_le (by decide)

theorem Date.day_lt (date : Date) : date.day < 10 ^ 2 :=
  Nat.lt_of_le_of_lt (Nat.le_trans date.day_le (daysInMonth_le _ date.month_le)) (by decide)

theorem Date.eq_iff {a b : Date} :
    a = b ↔ a.year = b.year ∧ a.month = b.month ∧ a.day = b.day := by
  refine ⟨fun same => by simp [same], fun fields => ?_⟩
  exact Date.eq_of_fields fields.1 fields.2.1 fields.2.2

theorem Date.text_lt (a b : Date) (r r' : List Char) :
    a.text r < b.text r' ↔ a.before b ∨ a = b ∧ r < r' := by
  unfold Date.text
  rw [field_lt a.year_lt b.year_lt, field_lt a.month_lt b.month_lt, field_lt a.day_lt b.day_lt,
    Date.before, Date.eq_iff]
  tauto

namespace Wall

theorem hour_fits (wall : Wall) : wall.hour < 10 ^ 2 := Nat.lt_trans wall.hour_lt (by decide)

theorem minute_fits (wall : Wall) : wall.minute < 10 ^ 2 := Nat.lt_trans wall.minute_lt (by decide)

theorem second_fits (wall : Wall) : wall.second < 10 ^ 2 := Nat.lt_trans wall.second_lt (by decide)

theorem microsecond_fits (wall : Wall) : wall.microsecond < 10 ^ 6 := wall.microsecond_lt

/-- Times of day compared field by field. -/
theorem timeOfDay_before (a b : Wall) : a.timeOfDay < b.timeOfDay ↔
    a.hour < b.hour ∨ a.hour = b.hour ∧ (a.minute < b.minute ∨ a.minute = b.minute ∧
      (a.second < b.second ∨ a.second = b.second ∧ a.microsecond < b.microsecond)) := by
  have minuteA := a.minute_lt
  have minuteB := b.minute_lt
  have secondA := a.second_lt
  have secondB := b.second_lt
  have microsecondA := a.microsecond_lt
  have microsecondB := b.microsecond_lt
  unfold timeOfDay
  omega

theorem timeOfDay_eq (a b : Wall) : a.timeOfDay = b.timeOfDay ↔
    a.hour = b.hour ∧ a.minute = b.minute ∧ a.second = b.second ∧
      a.microsecond = b.microsecond := by
  refine ⟨timeOfDay_inj, fun fields => ?_⟩
  rw [timeOfDay, timeOfDay, fields.1, fields.2.1, fields.2.2.1, fields.2.2.2]

theorem timeText_lt (a b : Wall) (r r' : List Char) : a.timeText r < b.timeText r' ↔
    a.timeOfDay < b.timeOfDay ∨ a.timeOfDay = b.timeOfDay ∧ r < r' := by
  unfold timeText
  rw [field_lt a.hour_fits b.hour_fits, field_lt a.minute_fits b.minute_fits,
    field_lt a.second_fits b.second_fits, append_lt_append (by simp),
    digits_lt a.microsecond_fits b.microsecond_fits,
    digits_inj a.microsecond_fits b.microsecond_fits, timeOfDay_before, timeOfDay_eq]
  tauto

theorem micros_before (a b : Wall) : a.micros < b.micros ↔
    a.date.before b.date ∨ a.date = b.date ∧ a.timeOfDay < b.timeOfDay := by
  have fitsA := a.timeOfDay_lt
  have fitsB := b.timeOfDay_lt
  rw [← Date.ordinal_lt, ← Date.ordinal_inj]
  unfold micros microsPerDay at *
  omega

theorem eq_iff (a b : Wall) : a = b ↔ a.date = b.date ∧ a.timeOfDay = b.timeOfDay := by
  refine ⟨fun same => by simp [same], fun parts => ?_⟩
  rw [← micros_inj, micros, micros, parts.1, parts.2]

theorem text_lt (a b : Wall) (r r' : List Char) :
    a.text r < b.text r' ↔ a.micros < b.micros ∨ a = b ∧ r < r' := by
  rw [text, text, Date.text_lt, timeText_lt, micros_before, eq_iff]
  tauto

end Wall

/-! ## Reading a text back -/

theorem readNumber_digits {width n : Nat} (fits : n < 10 ^ width) (rest : List Char) :
    readNumber width (digits width n ++ rest) = some (n, rest) := by
  have head : (digits width n ++ rest).take width = digits width n :=
    List.take_left' (digits_length width n)
  have tail : (digits width n ++ rest).drop width = rest :=
    List.drop_left' (digits_length width n)
  rw [readNumber, head, tail, if_pos (digits_length width n), number?_digits fits]
  rfl

theorem readNumber_digits_only {width n : Nat} (fits : n < 10 ^ width) :
    readNumber width (digits width n) = some (n, []) := by
  have read := readNumber_digits fits []
  rwa [List.append_nil] at read

theorem readField_field {width n : Nat} (fits : n < 10 ^ width) (separator : Char)
    (rest : List Char) : readField width separator (field width n separator rest) = some (n, rest) := by
  rw [readField, field, readNumber_digits fits]
  simp

@[simp] theorem wall?_self (wall : Wall) :
    wall? wall.date.year wall.date.month wall.date.day wall.hour wall.minute wall.second
      wall.microsecond = some wall := by
  rw [wall?, date?_self, Option.bind_eq_bind, Option.bind_some,
    dif_pos ⟨⟨wall.hour_lt, wall.minute_lt⟩, wall.second_lt, wall.microsecond_lt⟩]

theorem readWall_text (wall : Wall) (rest : List Char) :
    readWall (wall.text rest) = some (wall, rest) := by
  rw [readWall, Wall.text, Date.text, readField_field wall.date.year_lt]
  simp only [Option.bind_eq_bind, Option.bind_some]
  rw [readField_field wall.date.month_lt, Option.bind_some,
    readField_field wall.date.day_lt, Option.bind_some, Wall.timeText,
    readField_field wall.hour_fits, Option.bind_some, readField_field wall.minute_fits,
    Option.bind_some, readField_field wall.second_fits, Option.bind_some,
    readNumber_digits wall.microsecond_fits, Option.bind_some]
  simp

theorem readOffsetSeconds_written {seconds micros : Nat} (hs : seconds < 60)
    (hm : micros < 1000000) :
    readOffsetSeconds (if seconds = 0 ∧ micros = 0 then []
      else ':' :: digits 2 seconds ++ if micros = 0 then [] else '.' :: digits 6 micros) =
        some (seconds * 1000000 + micros) := by
  have fits : seconds < 10 ^ 2 := by omega
  have fits' : micros < 10 ^ 6 := by omega
  by_cases none : seconds = 0 ∧ micros = 0
  · rw [if_pos none, readOffsetSeconds, none.1, none.2]
  · rw [if_neg none, List.cons_append, readOffsetSeconds]
    by_cases whole : micros = 0
    · rw [if_pos whole, List.append_nil, readNumber_digits_only fits]
      simp [whole]
    · rw [if_neg whole, readNumber_digits fits]
      simp [readNumber_digits_only fits']

theorem readOffset_formatOffset (offset : Offset) :
    readOffset (formatOffset offset) = some offset := by
  have above := offset.above
  have below := offset.below
  unfold microsPerDay at above below
  have hours : offset.micros.natAbs / 3600000000 < 10 ^ 2 := by omega
  have minutes : offset.micros.natAbs / 60000000 % 60 < 10 ^ 2 := by omega
  unfold formatOffset readOffset
  simp only
  rw [readField_field hours, Option.bind_eq_bind, Option.bind_some, readNumber_digits minutes,
    Option.bind_eq_bind, Option.bind_some,
    readOffsetSeconds_written (Nat.mod_lt _ (by decide)) (Nat.mod_lt _ (by decide)),
    Option.bind_some]
  simp only
  by_cases negative : offset.micros < 0
  · have value : -(((offset.micros.natAbs / 3600000000 * 60 + offset.micros.natAbs / 60000000 % 60 :
        Nat) : Int) * 60000000 + ((offset.micros.natAbs / 1000000 % 60 * 1000000 +
          offset.micros.natAbs % 1000000 : Nat) : Int)) = offset.micros := by omega
    simp only [negative, if_true, value]
    rw [if_pos ⟨.inr trivial, Nat.mod_lt _ (by decide)⟩, dif_pos ⟨offset.above, offset.below⟩]
  · have value : ((offset.micros.natAbs / 3600000000 * 60 + offset.micros.natAbs / 60000000 % 60 :
        Nat) : Int) * 60000000 + ((offset.micros.natAbs / 1000000 % 60 * 1000000 +
          offset.micros.natAbs % 1000000 : Nat) : Int) = offset.micros := by omega
    have plus : ¬ ('+' = '-') := by decide
    simp only [negative, if_false, plus, value]
    rw [if_pos ⟨.inl trivial, Nat.mod_lt _ (by decide)⟩, dif_pos ⟨offset.above, offset.below⟩]

/-- `fromisoformat` undoes `isoformat`, at any offset. -/
theorem fromIsoformat?_isoformat (a : Aware) : fromIsoformat? a.isoformat = some a := by
  rw [fromIsoformat?, Aware.isoformat, String.toList_ofList, readWall_text, Option.bind_eq_bind,
    Option.bind_some]
  simp only [readOffset_formatOffset, Option.bind_eq_bind, Option.bind_some]

end Keyring

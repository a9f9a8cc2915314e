import Keyring.Python.Datetime

/-!
# Moments as columns

`storage/times.py`.  A column holds the text of a moment in UTC with all six digits
of its microseconds, so SQL orders these texts as the moments are ordered.
-/

set_option autoImplicit false

namespace Keyring

section
variable (text : Text)

def toColumn : Datetime → Except Error String
  | .naive _ =>
      .error (.value "refusing to store a naive datetime: it has no unambiguous instant")
  | .aware value => do
      let value ← value.astimezoneUtc
      .ok value.isoformat

def fromColumn (raw : String) : Except Error Aware :=
  match fromIsoformat? raw with
  | some value => value.astimezoneUtc
  | none => .error (.value ("Invalid isoformat string: " ++ repr text raw))

end

/-! ## A column is its instant -/

/-- The wall clock in UTC at an instant. -/
def utcWall? (instant : Instant) : Option Wall := wallOf? (instant + epochMicros)

/-- The column that every `datetime` of one instant is stored as. -/
def stamp (instant : Instant) : Except Error String :=
  match utcWall? instant with
  | some wall => .ok (Aware.mk wall utc).isoformat
  | none => .error (.overflow "date value out of range")

@[simp] theorem utc_micros : utc.micros = 0 := rfl

theorem toColumn_aware (a : Aware) : toColumn (.aware a) = stamp a.instant := by
  have shift : a.instant + epochMicros = a.wall.micros - a.utcoffset.micros := by
    simp only [Aware.instant, Int.sub_add_cancel]
  simp only [toColumn, stamp, utcWall?, Aware.astimezoneUtc, shift]
  cases wallOf? (a.wall.micros - a.utcoffset.micros) with
  | none => rfl
  | some wall => rfl

theorem utcWall?_isSome {instant : Instant} (inside : Representable instant) :
    ∃ wall, utcWall? instant = some wall := by
  obtain ⟨above, below⟩ := inside
  unfold minInstant at above
  unfold maxInstant at below
  unfold Instant at *
  apply wallOf?_isSome
  · unfold epochMicros microsPerDay
    omega
  · unfold epochMicros microsPerDay maxOrdinal
    omega

theorem utcWall?_instant {instant : Instant} {wall : Wall}
    (built : utcWall? instant = some wall) : (Aware.mk wall utc).instant = instant := by
  have same := wallOf?_micros built
  rw [Aware.instant, utc_micros, same]
  unfold Instant at *
  omega

theorem utcWall?_representable {instant : Instant} {wall : Wall}
    (built : utcWall? instant = some wall) : Representable instant := by
  have same := wallOf?_micros built
  have above := wall.micros_ge
  have below := wall.micros_lt
  unfold Representable minInstant maxInstant
  unfold epochMicros microsPerDay maxOrdinal at *
  unfold Instant at *
  omega

theorem stamp_ok_iff {instant : Instant} {column : String} : stamp instant = .ok column ↔
    ∃ wall, utcWall? instant = some wall ∧ column = (Aware.mk wall utc).isoformat := by
  unfold stamp
  cases utcWall? instant with
  | none => simp
  | some wall => simp [eq_comm]

/-- A moment can be stored when its UTC form is a `datetime`. -/
theorem stamp_isOk {instant : Instant} : (∃ column, stamp instant = .ok column) ↔
    Representable instant := by
  constructor
  · rintro ⟨column, stored⟩
    obtain ⟨wall, built, -⟩ := stamp_ok_iff.mp stored
    exact utcWall?_representable built
  · intro inside
    obtain ⟨wall, built⟩ := utcWall?_isSome inside
    exact ⟨_, stamp_ok_iff.mpr ⟨wall, built, rfl⟩⟩

theorem isoformat_lt (a b : Wall) :
    (Aware.mk a utc).isoformat < (Aware.mk b utc).isoformat ↔ a.micros < b.micros := by
  rw [Aware.isoformat, Aware.isoformat, String.lt_iff, String.toList_ofList,
    String.toList_ofList, Wall.text_lt]
  simp

theorem stamp_lt {s t : Instant} {a b : String} (first : stamp s = .ok a)
    (second : stamp t = .ok b) : a < b ↔ s < t := by
  obtain ⟨wall, built, rfl⟩ := stamp_ok_iff.mp first
  obtain ⟨wall', built', rfl⟩ := stamp_ok_iff.mp second
  have micros := wallOf?_micros built
  have micros' := wallOf?_micros built'
  rw [isoformat_lt]
  unfold Instant at *
  omega

theorem stamp_inj {s t : Instant} {a b : String} (first : stamp s = .ok a)
    (second : stamp t = .ok b) : a = b ↔ s = t := by
  constructor
  · intro same
    subst same
    have before := stamp_lt first second
    have after := stamp_lt second first
    have irrefl := String.lt_irrefl a
    by_contra different
    rcases lt_or_gt_of_ne different with less | more
    · exact irrefl (before.mpr less)
    · exact irrefl (after.mpr more)
  · intro same
    subst same
    rw [first] at second
    exact Except.ok.inj second

theorem astimezoneUtc_of {a : Aware} {wall : Wall}
    (built : wallOf? (a.wall.micros - a.utcoffset.micros) = some wall) :
    a.astimezoneUtc = .ok ⟨wall, utc⟩ := by
  unfold Aware.astimezoneUtc
  rw [built]

theorem wallOf?_utc (wall : Wall) : wallOf? (wall.micros - utc.micros) = some wall := by
  rw [utc_micros, Int.sub_zero, wallOf?_self]

theorem astimezoneUtc_utc (wall : Wall) : (Aware.mk wall utc).astimezoneUtc = .ok ⟨wall, utc⟩ :=
  astimezoneUtc_of (wallOf?_utc wall)

theorem fromColumn_stamp (text : Text) {instant : Instant} {column : String}
    (stored : stamp instant = .ok column) : ∃ value, fromColumn text column = .ok value ∧
      value.instant = instant ∧ value.utcoffset = utc := by
  obtain ⟨wall, built, rfl⟩ := stamp_ok_iff.mp stored
  refine ⟨⟨wall, utc⟩, ?_, utcWall?_instant built, rfl⟩
  rw [fromColumn, fromIsoformat?_isoformat]
  exact astimezoneUtc_utc wall

/-- Columns embed the order of instants, and hold exactly the instant. -/
theorem columns_embed_instants (text : Text) (a b : Aware) (hA : Representable a.instant)
    (hB : Representable b.instant) : ∃ s t, toColumn (.aware a) = .ok s ∧
      toColumn (.aware b) = .ok t ∧ (s < t ↔ a.instant < b.instant) ∧
        (s = t ↔ a.instant = b.instant) ∧ ∃ value, fromColumn text s = .ok value ∧
          value.instant = a.instant ∧ value.utcoffset = utc := by
  obtain ⟨s, first⟩ := stamp_isOk.mpr hA
  obtain ⟨t, second⟩ := stamp_isOk.mpr hB
  exact ⟨s, t, (toColumn_aware a).trans first, (toColumn_aware b).trans second,
    stamp_lt first second, stamp_inj first second, fromColumn_stamp text first⟩

/-- Six in the morning in Tokyo, and a moment of the year 1 at an offset with seconds. -/
theorem columns_embed_instants_tokyo :
    let tokyo : Aware := ⟨⟨⟨2026, 9, 10, by decide, by decide, by decide, by decide, by decide,
      by decide⟩, 6, 0, 0, 0, by decide, by decide, by decide, by decide⟩,
        ⟨32400000000, by decide, by decide⟩⟩
    let early : Aware := ⟨⟨⟨1, 1, 2, by decide, by decide, by decide, by decide, by decide,
      by decide⟩, 3, 4, 5, 6, by decide, by decide, by decide, by decide⟩,
        ⟨-17762000000, by decide, by decide⟩⟩
    ∃ s t, toColumn (.aware tokyo) = .ok s ∧ toColumn (.aware early) = .ok t ∧
      (s < t ↔ tokyo.instant < early.instant) ∧ (s = t ↔ tokyo.instant = early.instant) ∧
        ∃ value, fromColumn ⟨id, fun _ => true, Char.isDigit, fun _ => none⟩ s = .ok value ∧
          value.instant = tokyo.instant ∧ value.utcoffset = utc :=
  columns_embed_instants _ _ _ (by decide) (by decide)

end Keyring

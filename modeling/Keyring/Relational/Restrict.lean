import Keyring.Relational.Table

/-!
# Some rows of a table

The rows under a condition are a table of their own.  A statement about such rows
does to them what it does to the whole table, and a statement about other rows
leaves them alone.
-/

set_option autoImplicit false

namespace Relational

namespace Table

variable {ρ κ : Type} {key : ρ → κ}

theorem ext_rows {t t' : Table key} (same : t.rows = t'.rows) : t = t' := by
  cases t
  cases t'
  simp only [mk.injEq]
  exact same

/-- The rows under `p`, in the order of the table. -/
def restrict (t : Table key) (p : ρ → Bool) : Table key :=
  ⟨t.rows.filter p, t.nodup.sublist (List.filter_sublist.map key)⟩

variable {t t' : Table key} {p q : ρ → Bool} {f : ρ → ρ}

theorem mem_restrict {r : ρ} : r ∈ t.restrict p ↔ r ∈ t ∧ p r = true := List.mem_filter

/-! ## Reading -/

/-- A narrower condition selects among these rows. -/
theorem filter_restrict (under : ∀ r, q r = true → p r = true) :
    (t.restrict p).rows.filter q = t.rows.filter q := by
  rw [restrict, List.filter_filter]
  apply List.filter_congr
  intro r _
  by_cases hit : q r = true
  · simp [hit, under r hit]
  · simp [hit]

theorem countWhere_restrict (under : ∀ r, q r = true → p r = true) :
    (t.restrict p).countWhere q = t.countWhere q := by
  rw [countWhere, countWhere, List.countP_eq_length_filter, filter_restrict under,
    ← List.countP_eq_length_filter]

/-- What the whole table answers first, if it is among these rows. -/
theorem findFirst_restrict {r : ρ} (found : t.rows.find? q = some r) (inside : p r = true) :
    (t.restrict p).rows.find? q = some r := by
  rw [List.find?_eq_some_iff_append] at found
  obtain ⟨hit, front, back, split, missed⟩ := found
  change (t.rows.filter p).find? q = some r
  rw [split, List.filter_append, List.filter_cons_of_pos inside, List.find?_append]
  have none' : (front.filter p).find? q = none := by
    rw [List.find?_eq_none]
    intro s member
    have plain := missed s (List.mem_filter.mp member).1
    simpa using plain
  rw [none', List.find?_cons_of_pos hit]
  rfl

theorem findNone_restrict (missing : t.rows.find? q = none) :
    (t.restrict p).rows.find? q = none := by
  rw [List.find?_eq_none] at missing ⊢
  exact fun r member => missing r (List.mem_filter.mp member).1

theorem find?_restrict [DecidableEq κ] {k : κ} (covers : ∀ r, key r = k → p r = true) :
    (t.restrict p).find? k = t.find? k := by
  cases found : t.find? k with
  | none => exact findNone_restrict found
  | some r => exact findFirst_restrict found (covers r (find?_eq_some.mp found).2)

/-! ## Writing among these rows -/

theorem restrict_deleteWhere : (t.deleteWhere q).restrict p = (t.restrict p).deleteWhere q := by
  apply ext_rows
  simp only [restrict, deleteWhere, List.filter_filter]
  congr 1
  funext r
  rw [Bool.and_comm]

theorem restrict_updateWhere (keeps : ∀ r, key (f r) = key r) (inside : ∀ r, p (f r) = p r) :
    (t.updateWhere q f keeps).restrict p = (t.restrict p).updateWhere q f keeps := by
  have same : (p ∘ fun r => if q r then f r else r) = p := by
    funext r
    simp only [Function.comp]
    split
    · exact inside r
    · rfl
  apply ext_rows
  simp only [restrict, updateWhere, List.filter_map, same]

section Inserting

variable [DecidableEq κ]

theorem taken_restrict {k : κ} (covers : ∀ r, key r = k → p r = true) :
    k ∈ (t.restrict p).rows.map key ↔ k ∈ t.rows.map key := by
  rw [← isSome_find?, ← isSome_find?, find?_restrict covers]

/-- A row that can be inserted into the table can be inserted among these. -/
theorem insert?_restrict {r : ρ} (inserted : t.insert? r = some t') (fits : p r = true) :
    (t.restrict p).insert? r = some (t'.restrict p) := by
  obtain ⟨fresh, rfl⟩ := insert?_eq_some.mp inserted
  have fresh' : key r ∉ (t.restrict p).rows.map key := by
    intro taken
    obtain ⟨s, member, same⟩ := List.mem_map.mp taken
    exact fresh (List.mem_map.mpr ⟨s, (List.mem_filter.mp member).1, same⟩)
  rw [insert?, dif_pos fresh']
  congr 1
  apply ext_rows
  simp [restrict, append, List.filter_append, fits]

theorem insert?_restrict_none {r : ρ} (covers : ∀ s, key s = key r → p s = true)
    (refused : t.insert? r = none) : (t.restrict p).insert? r = none := by
  rw [insert?] at refused ⊢
  by_cases fresh : key r ∉ t.rows.map key
  · rw [dif_pos fresh] at refused
    cases refused
  · rw [dif_neg]
    rw [taken_restrict covers]
    exact fresh

theorem restrict_upsert {r : ρ} (keeps : ∀ old, key (f old) = key old)
    (covers : ∀ s, key s = key r → p s = true) (inside : ∀ s, p (f s) = p s) :
    (t.upsert r f keeps).restrict p = (t.restrict p).upsert r f keeps := by
  rw [upsert, upsert]
  by_cases fresh : key r ∉ t.rows.map key
  · rw [dif_pos fresh, dif_pos (by rwa [taken_restrict covers])]
    apply ext_rows
    simp [restrict, append, List.filter_append, covers r rfl]
  · rw [dif_neg fresh, dif_neg (by rwa [taken_restrict covers])]
    exact restrict_updateWhere keeps inside

theorem restrict_upsert_fresh {r : ρ} (keeps : ∀ old, key (f old) = key old)
    (fresh : key r ∉ t.rows.map key) (fits : p r = true) :
    (t.upsert r f keeps).restrict p = (t.restrict p).upsert r f keeps := by
  have fresh' : key r ∉ (t.restrict p).rows.map key := by
    intro taken
    obtain ⟨s, member, same⟩ := List.mem_map.mp taken
    exact fresh (List.mem_map.mpr ⟨s, (List.mem_filter.mp member).1, same⟩)
  rw [upsert, upsert, dif_pos fresh, dif_pos fresh']
  apply ext_rows
  simp [restrict, append, List.filter_append, fits]

end Inserting

/-! ## Writing elsewhere -/

theorem restrict_deleteWhere_outside (outside : ∀ r, r ∈ t → q r = true → p r = false) :
    (t.deleteWhere q).restrict p = t.restrict p := by
  apply ext_rows
  simp only [restrict, deleteWhere, List.filter_filter]
  apply List.filter_congr
  intro r stored
  by_cases hit : q r = true
  · simp [hit, outside r stored hit]
  · simp [hit]

theorem restrict_updateWhere_outside (keeps : ∀ r, key (f r) = key r)
    (inside : ∀ r, p (f r) = p r) (outside : ∀ r, q r = true → p r = false) :
    (t.updateWhere q f keeps).restrict p = t.restrict p := by
  rw [restrict_updateWhere keeps inside]
  apply updateWhere_eq_self
  intro r member
  by_contra hit
  have missed := outside r (by simpa using hit)
  rw [(mem_restrict.mp member).2] at missed
  cases missed

theorem restrict_insert?_outside [DecidableEq κ] {r : ρ} (inserted : t.insert? r = some t')
    (outside : p r = false) : t'.restrict p = t.restrict p := by
  obtain ⟨fresh, rfl⟩ := insert?_eq_some.mp inserted
  apply ext_rows
  simp [restrict, append, List.filter_append, outside]

theorem restrict_upsert_outside [DecidableEq κ] {r : ρ} (keeps : ∀ old, key (f old) = key old)
    (inside : ∀ s, p (f s) = p s) (outside : ∀ s, key s = key r → p s = false) :
    (t.upsert r f keeps).restrict p = t.restrict p := by
  rw [upsert]
  by_cases fresh : key r ∉ t.rows.map key
  · rw [dif_pos fresh]
    apply ext_rows
    simp [restrict, append, List.filter_append, outside r rfl]
  · rw [dif_neg fresh]
    exact restrict_updateWhere_outside keeps inside fun s hit => outside s (by simpa using hit)

theorem restrict_upsert_fresh_outside [DecidableEq κ] {r : ρ}
    (keeps : ∀ old, key (f old) = key old) (fresh : key r ∉ t.rows.map key)
    (outside : p r = false) : (t.upsert r f keeps).restrict p = t.restrict p := by
  rw [upsert, dif_pos fresh]
  apply ext_rows
  simp [restrict, append, List.filter_append, outside]

end Table

end Relational

import Mathlib.Data.List.Nodup
import Mathlib.Data.List.Sort

/-!
# Keyed tables

A table is a list of rows in insertion order whose keys are distinct; the
proof is part of the table, so a duplicate key cannot be stored.  The
operations are the statements SQL has for one table: a select by key, an
insert that fails on a taken key, an update and a delete with a condition, and
an insert that turns into an update on conflict.
-/

set_option autoImplicit false

namespace Relational

structure Table {ρ κ : Type} (key : ρ → κ) where
  rows : List ρ
  nodup : (rows.map key).Nodup

namespace Table

variable {ρ κ : Type} {key : ρ → κ}

def empty : Table key := ⟨[], List.nodup_nil⟩

instance : Membership ρ (Table key) := ⟨fun t r => r ∈ t.rows⟩

theorem mem_def {t : Table key} {r : ρ} : r ∈ t ↔ r ∈ t.rows := Iff.rfl

instance {t : Table key} {p : ρ → Prop} [DecidablePred p] : Decidable (∀ r ∈ t, p r) :=
  inferInstanceAs (Decidable (∀ r ∈ t.rows, p r))

instance {t : Table key} {p : ρ → Prop} [DecidablePred p] : Decidable (∃ r ∈ t, p r) :=
  inferInstanceAs (Decidable (∃ r ∈ t.rows, p r))

/-- `DELETE ... WHERE p`. -/
def deleteWhere (t : Table key) (p : ρ → Bool) : Table key :=
  ⟨t.rows.filter (!p ·), t.nodup.sublist (List.filter_sublist.map key)⟩

def countWhere (t : Table key) (p : ρ → Bool) : Nat := t.rows.countP p

/-- `UPDATE ... SET f WHERE p`, of columns outside the key. -/
def updateWhere (t : Table key) (p : ρ → Bool) (f : ρ → ρ) (keeps : ∀ r, key (f r) = key r) :
    Table key :=
  ⟨t.rows.map fun r => if p r then f r else r, by
    have same : (key ∘ fun r => if p r then f r else r) = key := by
      funext r
      simp only [Function.comp]
      split
      · exact keeps r
      · rfl
    rw [List.map_map, same]
    exact t.nodup⟩

variable [DecidableEq κ]

def find? (t : Table key) (k : κ) : Option ρ := t.rows.find? fun r => key r = k

def append (t : Table key) (r : ρ) (fresh : key r ∉ t.rows.map key) : Table key :=
  ⟨t.rows ++ [r], by
    rw [List.map_append, List.map_singleton, List.nodup_append]
    refine ⟨t.nodup, by simp, ?_⟩
    intro k stored k' new
    rw [List.mem_singleton.mp new]
    exact fun same => fresh (same ▸ stored)⟩

/-- `INSERT`; `none` when the key is taken. -/
def insert? (t : Table key) (r : ρ) : Option (Table key) :=
  if fresh : key r ∉ t.rows.map key then some (t.append r fresh) else none

/-- `INSERT ... ON CONFLICT (key) DO UPDATE SET f`. -/
def upsert (t : Table key) (r : ρ) (f : ρ → ρ) (keeps : ∀ old, key (f old) = key old) :
    Table key :=
  if fresh : key r ∉ t.rows.map key then t.append r fresh
  else t.updateWhere (fun old => key old = key r) f keeps

/-! ## What a select finds -/

theorem find?_eq_some {t : Table key} {k : κ} {r : ρ} :
    t.find? k = some r ↔ r ∈ t ∧ key r = k := by
  constructor
  · intro found
    exact ⟨List.mem_of_find?_eq_some found, by simpa using List.find?_some found⟩
  · rintro ⟨stored, rfl⟩
    cases found : t.find? (key r) with
    | none =>
        have none := List.find?_eq_none.mp found r stored
        simp at none
    | some r' =>
        have stored' := List.mem_of_find?_eq_some found
        have same : key r' = key r := by simpa using List.find?_some found
        exact congrArg some (List.inj_on_of_nodup_map t.nodup stored' stored same)

theorem find?_eq_none {t : Table key} {k : κ} : t.find? k = none ↔ ∀ r ∈ t, key r ≠ k := by
  simp [find?, mem_def]

theorem find?_self {t : Table key} {r : ρ} (stored : r ∈ t) : t.find? (key r) = some r :=
  find?_eq_some.mpr ⟨stored, rfl⟩

theorem isSome_find? {t : Table key} {k : κ} : (t.find? k).isSome ↔ k ∈ t.rows.map key := by
  simp [find?, List.find?_isSome]

omit [DecidableEq κ] in
theorem mem_deleteWhere {t : Table key} {p : ρ → Bool} {r : ρ} :
    r ∈ t.deleteWhere p ↔ r ∈ t ∧ p r = false := by
  simp [mem_def, deleteWhere]

omit [DecidableEq κ] in
theorem deleteWhere_eq_self {t : Table key} {p : ρ → Bool} :
    t.deleteWhere p = t ↔ ∀ r ∈ t, p r = false := by
  cases t with
  | mk rows nodup => simp [deleteWhere, mem_def]

omit [DecidableEq κ] in
/-- An update that hits no row changes nothing. -/
theorem updateWhere_eq_self {t : Table key} {p : ρ → Bool} {f : ρ → ρ}
    {keeps : ∀ r, key (f r) = key r} (unhit : ∀ r ∈ t, p r = false) :
    t.updateWhere p f keeps = t := by
  have same : t.rows.map (fun r => if p r then f r else r) = t.rows.map id := by
    apply List.map_congr_left
    intro r stored
    simp [unhit r stored]
  cases t with
  | mk rows nodup => simpa [updateWhere] using same

omit [DecidableEq κ] in
theorem mem_updateWhere {t : Table key} {p : ρ → Bool} {f : ρ → ρ}
    (keeps : ∀ r, key (f r) = key r) {r : ρ} :
    r ∈ t.updateWhere p f keeps ↔ ∃ old ∈ t, (if p old then f old else old) = r := by
  simp [mem_def, updateWhere]

@[simp] theorem find?_deleteWhere (t : Table key) (p : ρ → Bool) (k : κ) :
    (t.deleteWhere p).find? k = (t.find? k).filter (!p ·) := by
  cases found : t.find? k with
  | none =>
      rw [find?_eq_none] at found
      simp only [Option.filter_none, find?_eq_none]
      exact fun r stored => found r (mem_deleteWhere.mp stored).1
  | some r =>
      obtain ⟨stored, rfl⟩ := find?_eq_some.mp found
      by_cases hit : p r = true
      · simp only [Option.filter_some, hit, Bool.not_true, Bool.false_eq_true, if_false,
          find?_eq_none]
        intro r' kept same
        obtain ⟨stored', missed⟩ := mem_deleteWhere.mp kept
        rw [List.inj_on_of_nodup_map t.nodup stored' stored same] at missed
        simp [hit] at missed
      · have missed : p r = false := Bool.eq_false_iff.mpr hit
        simp only [Option.filter_some, missed, Bool.not_false, if_true]
        exact find?_self (mem_deleteWhere.mpr ⟨stored, missed⟩)

@[simp] theorem find?_updateWhere (t : Table key) (p : ρ → Bool) (f : ρ → ρ)
    (keeps : ∀ r, key (f r) = key r) (k : κ) :
    (t.updateWhere p f keeps).find? k = (t.find? k).map fun r => if p r then f r else r := by
  have same : ∀ r, key (if p r then f r else r) = key r := by
    intro r
    split
    · exact keeps r
    · rfl
  simp only [find?, updateWhere, List.find?_map, Function.comp_def, same]

omit [DecidableEq κ] in
theorem mem_append {t : Table key} {r r' : ρ} {fresh : key r ∉ t.rows.map key} :
    r' ∈ t.append r fresh ↔ r' ∈ t ∨ r' = r := by
  simp [mem_def, append]

@[simp] theorem find?_append (t : Table key) (r : ρ) (fresh : key r ∉ t.rows.map key) (k : κ) :
    (t.append r fresh).find? k = if key r = k then some r else t.find? k := by
  split
  · rename_i same
    exact find?_eq_some.mpr ⟨mem_append.mpr (Or.inr rfl), same⟩
  · rename_i other
    simp [find?, append, other]

theorem insert?_eq_some {t t' : Table key} {r : ρ} :
    t.insert? r = some t' ↔ ∃ fresh : key r ∉ t.rows.map key, t' = t.append r fresh := by
  simp only [insert?]
  split
  · rename_i fresh
    simp only [Option.some.injEq, fresh, not_false_eq_true, exists_true_left]
    exact eq_comm
  · rename_i taken
    constructor
    · intro nothing
      cases nothing
    · rintro ⟨fresh, -⟩
      exact absurd fresh taken

theorem mem_insert? {t t' : Table key} {r r' : ρ} (inserted : t.insert? r = some t') :
    r' ∈ t' ↔ r' ∈ t ∨ r' = r := by
  obtain ⟨fresh, rfl⟩ := insert?_eq_some.mp inserted
  exact mem_append

theorem find?_insert? {t t' : Table key} {r : ρ} (inserted : t.insert? r = some t') (k : κ) :
    t'.find? k = if key r = k then some r else t.find? k := by
  obtain ⟨fresh, rfl⟩ := insert?_eq_some.mp inserted
  exact find?_append t r fresh k

theorem find?_of_insert? {t t' : Table key} {r : ρ} (inserted : t.insert? r = some t') :
    t.find? (key r) = none := by
  obtain ⟨fresh, -⟩ := insert?_eq_some.mp inserted
  rw [← Option.not_isSome_iff_eq_none, isSome_find?]
  exact fresh

@[simp] theorem find?_upsert (t : Table key) (r : ρ) (f : ρ → ρ)
    (keeps : ∀ old, key (f old) = key old) (k : κ) :
    (t.upsert r f keeps).find? k =
      if key r = k then some (((t.find? k).map f).getD r) else t.find? k := by
  simp only [upsert]
  split
  · rename_i fresh
    rw [find?_append]
    split
    · rename_i same
      have absent : t.find? k = none := by
        rw [← Option.not_isSome_iff_eq_none, isSome_find?, ← same]
        exact fresh
      simp [absent]
    · rfl
  · rename_i taken
    rw [not_not, ← isSome_find?, Option.isSome_iff_exists] at taken
    obtain ⟨old, found⟩ := taken
    rw [find?_updateWhere]
    split
    · rename_i same
      obtain ⟨-, keyed⟩ := find?_eq_some.mp found
      rw [← same, found]
      simp [keyed]
    · rename_i other
      cases here : t.find? k with
      | none => rfl
      | some r' =>
          obtain ⟨-, rfl⟩ := find?_eq_some.mp here
          simp [Ne.symm other]

/-- An upsert over a row that already is what it would write changes nothing. -/
theorem upsert_eq_self {t : Table key} {r old : ρ} {f : ρ → ρ}
    {keeps : ∀ old, key (f old) = key old} (found : t.find? (key r) = some old)
    (same : f old = old) : t.upsert r f keeps = t := by
  obtain ⟨stored, keyed⟩ := find?_eq_some.mp found
  have taken : ¬key r ∉ t.rows.map key := by
    rw [not_not, ← keyed]
    exact List.mem_map_of_mem stored
  have rows : t.rows.map (fun row => if key row = key r then f row else row) = t.rows := by
    conv_rhs => rw [← List.map_id t.rows]
    apply List.map_congr_left
    intro row member
    split
    · rename_i hit
      rw [List.inj_on_of_nodup_map t.nodup member stored (hit.trans keyed.symm), same]
      rfl
    · rfl
  rw [upsert, dif_neg taken]
  cases t with
  | mk rows' nodup => simpa [updateWhere] using rows

theorem mem_upsert {t : Table key} {r r' : ρ} {f : ρ → ρ}
    {keeps : ∀ old, key (f old) = key old} (stored : r' ∈ t.upsert r f keeps) :
    r' ∈ t ∨ (key r' = key r ∧ r' = ((t.find? (key r)).map f).getD r) := by
  have found := find?_self stored
  rw [find?_upsert] at found
  split at found
  · rename_i same
    refine Or.inr ⟨same.symm, ?_⟩
    rw [← same] at found
    exact (Option.some.inj found).symm
  · exact Or.inl (find?_eq_some.mp found).1

/-! ## Counting -/

section Counting

variable {t t' : Table key} {p : ρ → Bool} {f : ρ → ρ}

omit [DecidableEq κ] in
theorem countWhere_mono {q : ρ → Bool} (implies : ∀ r ∈ t, p r = true → q r = true) :
    t.countWhere p ≤ t.countWhere q :=
  List.countP_mono_left implies

omit [DecidableEq κ] in
theorem countWhere_deleteWhere_le (t : Table key) (p q : ρ → Bool) :
    (t.deleteWhere q).countWhere p ≤ t.countWhere p :=
  List.filter_sublist.countP_le

omit [DecidableEq κ] in
/-- An update that brings no row under the condition makes no count grow. -/
theorem countWhere_updateWhere_le {q : ρ → Bool} (keeps : ∀ r, key (f r) = key r)
    (under : ∀ r, p (f r) = true → p r = true) :
    (t.updateWhere q f keeps).countWhere p ≤ t.countWhere p := by
  simp only [countWhere, updateWhere, List.countP_map]
  apply List.countP_mono_left
  intro r _ counted
  simp only [Function.comp] at counted
  split at counted
  · exact under r counted
  · exact counted

omit [DecidableEq κ] in
theorem countWhere_append (t : Table key) (r : ρ) (fresh : key r ∉ t.rows.map key) :
    (t.append r fresh).countWhere p = t.countWhere p + if p r then 1 else 0 := by
  simp [countWhere, append, List.countP_cons]

theorem countWhere_insert? {r : ρ} (inserted : t.insert? r = some t') :
    t'.countWhere p = t.countWhere p + if p r then 1 else 0 := by
  obtain ⟨fresh, rfl⟩ := insert?_eq_some.mp inserted
  exact countWhere_append t r fresh

/-- An upsert adds a row where the key is free, and none where it is taken. -/
theorem countWhere_upsert_le {r : ρ} (keeps : ∀ old, key (f old) = key old)
    (under : ∀ r, p (f r) = true → p r = true) :
    (t.upsert r f keeps).countWhere p ≤
      t.countWhere p + if (t.find? (key r)).isNone && p r then 1 else 0 := by
  unfold upsert
  split
  · rename_i fresh
    have free : t.find? (key r) = none := by
      rwa [← isSome_find?, Option.not_isSome_iff_eq_none] at fresh
    rw [countWhere_append, free, Option.isNone_none, Bool.true_and]
  · exact Nat.le_trans (countWhere_updateWhere_le keeps under) (Nat.le_add_right _ _)

/-- At most `cap` rows are left where all but the first `cap` are deleted. -/
theorem countWhere_trim_le (t : Table key) (p : ρ → Bool) (before : ρ → ρ → Prop)
    [DecidableRel before] (cap : Nat) :
    (t.deleteWhere fun r =>
      ((((t.rows.filter p).insertionSort before).drop cap).map key).contains (key r)).countWhere p ≤
        cap := by
  generalize sorted : (t.rows.filter p).insertionSort before = ordered
  have same : ordered.Perm (t.rows.filter p) := by
    rw [← sorted]
    exact List.perm_insertionSort before _
  let kept : ρ → Bool := fun r => !((ordered.drop cap).map key).contains (key r)
  have dropped : (ordered.drop cap).countP kept = 0 := by
    rw [List.countP_eq_zero]
    intro r member survives
    have gone : ((ordered.drop cap).map key).contains (key r) = true :=
      List.contains_iff_mem.mpr (List.mem_map_of_mem member)
    simp only [kept, gone] at survives
    cases survives
  calc ((t.rows.filter kept).countP p)
      = (t.rows.filter p).countP kept := by
        rw [List.countP_filter, List.countP_filter]
        exact List.countP_congr fun r _ => by rw [Bool.and_comm]
    _ = ordered.countP kept := (same.countP_eq kept).symm
    _ = (ordered.take cap).countP kept + (ordered.drop cap).countP kept := by
        rw [← List.countP_append, List.take_append_drop]
    _ ≤ cap := by
        have first : (ordered.take cap).countP kept ≤ (ordered.take cap).length :=
          List.countP_le_length
        have short : (ordered.take cap).length ≤ cap := List.length_take_le cap ordered
        omega

end Counting

end Table

end Relational

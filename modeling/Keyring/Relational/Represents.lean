import Keyring.Relational.Table
import Mathlib.Data.List.Forall2

/-!
# What tables stand for

The rows of one table stand, one for one and in the same order, for the rows of
another.  A statement whose condition agrees on rows that stand for each other keeps
this, and selects rows that stand for each other.

A table also stands for a map, whose entries its rows hold in any order.
-/

set_option autoImplicit false

namespace Relational

variable {α β κ κ' : Type} {R : α → β → Prop}

/-! ## Lists -/

section Lists

variable {xs : List α} {ys : List β} {p : α → Bool} {q : β → Bool}

theorem forall₂_filter (rows : List.Forall₂ R xs ys) (agree : ∀ a b, R a b → p a = q b) :
    List.Forall₂ R (xs.filter p) (ys.filter q) :=
  List.rel_filter (fun a b same => Bool.eq_iff_iff.mp (agree a b same)) rows

theorem forall₂_countP (rows : List.Forall₂ R xs ys) (agree : ∀ a b, R a b → p a = q b) :
    xs.countP p = ys.countP q := by
  rw [List.countP_eq_length_filter, List.countP_eq_length_filter]
  exact (forall₂_filter rows agree).length_eq

/-- What two searches find stands for each other. -/
theorem forall₂_find? (rows : List.Forall₂ R xs ys) (agree : ∀ a b, R a b → p a = q b) :
    (xs.find? p = none ∧ ys.find? q = none) ∨
      ∃ a b, xs.find? p = some a ∧ ys.find? q = some b ∧ R a b := by
  induction rows with
  | nil => exact .inl ⟨rfl, rfl⟩
  | @cons a b xs ys first _ ih =>
      rw [List.find?_cons, List.find?_cons, agree a b first]
      cases q b with
      | true => exact .inr ⟨a, b, rfl, rfl, first⟩
      | false => exact ih

theorem forall₂_orderedInsert {r : α → α → Prop} {s : β → β → Prop} [DecidableRel r]
    [DecidableRel s] (agree : ∀ a b a' b', R a b → R a' b' → (r a a' ↔ s b b')) {a : α} {b : β}
    (new : R a b) (rows : List.Forall₂ R xs ys) :
    List.Forall₂ R (xs.orderedInsert r a) (ys.orderedInsert s b) := by
  induction rows with
  | nil => exact .cons new .nil
  | @cons a' b' xs ys first rest ih =>
      simp only [List.orderedInsert]
      by_cases before : r a a'
      · rw [if_pos before, if_pos ((agree a b a' b' new first).mp before)]
        exact .cons new (.cons first rest)
      · rw [if_neg before, if_neg fun after => before ((agree a b a' b' new first).mpr after)]
        exact .cons first ih

theorem forall₂_insertionSort {r : α → α → Prop} {s : β → β → Prop} [DecidableRel r]
    [DecidableRel s] (agree : ∀ a b a' b', R a b → R a' b' → (r a a' ↔ s b b'))
    (rows : List.Forall₂ R xs ys) :
    List.Forall₂ R (xs.insertionSort r) (ys.insertionSort s) := by
  induction rows with
  | nil => exact .nil
  | cons first _ ih => exact forall₂_orderedInsert agree first ih

theorem forall₂_mem_left (rows : List.Forall₂ R xs ys) {a : α} (stored : a ∈ xs) :
    ∃ b ∈ ys, R a b := by
  induction rows with
  | nil => cases stored
  | @cons a' b' xs ys first _ ih =>
      rcases List.mem_cons.mp stored with rfl | later
      · exact ⟨b', List.mem_cons_self, first⟩
      · obtain ⟨b, stored, same⟩ := ih later
        exact ⟨b, List.mem_cons_of_mem _ stored, same⟩

end Lists

/-! ## Tables -/

variable {key : α → κ} {key' : β → κ'}

def Represents (R : α → β → Prop) (t : Table key) (u : Table key') : Prop :=
  List.Forall₂ R t.rows u.rows

namespace Represents

variable {t : Table key} {u : Table key'} {p : α → Bool} {q : β → Bool}

theorem empty : Represents R (Table.empty : Table key) (Table.empty : Table key') := .nil

theorem deleteWhere (rows : Represents R t u) (agree : ∀ a b, R a b → p a = q b) :
    Represents R (t.deleteWhere p) (u.deleteWhere q) :=
  forall₂_filter rows fun a b same => by rw [agree a b same]

theorem countWhere (rows : Represents R t u) (agree : ∀ a b, R a b → p a = q b) :
    t.countWhere p = u.countWhere q := forall₂_countP rows agree

theorem updateWhere (rows : Represents R t u) (agree : ∀ a b, R a b → p a = q b) {f : α → α}
    {g : β → β} {keeps : ∀ a, key (f a) = key a} {keeps' : ∀ b, key' (g b) = key' b}
    (moves : ∀ a b, R a b → R (f a) (g b)) :
    Represents R (t.updateWhere p f keeps) (u.updateWhere q g keeps') := by
  refine List.rel_map (fun a b same => ?_) rows
  rw [agree a b same]
  split
  · exact moves a b same
  · exact same

end Represents

/-! ## Maps -/

section Maps
variable [DecidableEq κ]

/-- The rows of the table hold the entries of the map. -/
structure Maps (R : α → β → Prop) (t : Table key) (m : κ → Option β) : Prop where
  row : ∀ k a, t.find? k = some a → ∃ b, m k = some b ∧ R a b
  absent : ∀ k, t.find? k = none → m k = none

namespace Maps

variable {t : Table key} {m : κ → Option β}

theorem empty : Maps R (Table.empty : Table key) fun _ => none where
  row _ _ found := by cases found
  absent _ _ := rfl

theorem mono {S : α → β → Prop} (wider : ∀ a b, R a b → S a b) (maps : Maps R t m) :
    Maps S t m where
  row k a found := by
    obtain ⟨b, held, holds⟩ := maps.row k a found
    exact ⟨b, held, wider a b holds⟩
  absent := maps.absent

theorem isSome_find? (maps : Maps R t m) (k : κ) : (t.find? k).isSome = (m k).isSome := by
  cases found : t.find? k with
  | none =>
      rw [maps.absent k found]
      rfl
  | some a =>
      obtain ⟨b, held, -⟩ := maps.row k a found
      rw [held]
      rfl

theorem upsert (maps : Maps R t m) {a : α} {b : β} (new : R a b) (f : α → α)
    (keeps : ∀ old, key (f old) = key old) (renewed : ∀ old, R (f old) b) :
    Maps R (t.upsert a f keeps) (Function.update m (key a) (some b)) where
  row k a' found := by
    rw [Table.find?_upsert] at found
    split at found
    · rename_i here
      refine ⟨b, by rw [here, Function.update_self], ?_⟩
      cases stored : t.find? k with
      | none =>
          rw [stored] at found
          cases found
          exact new
      | some old =>
          rw [stored] at found
          cases found
          exact renewed old
    · rename_i there
      rw [Function.update_of_ne (Ne.symm there)]
      exact maps.row k a' found
  absent k missing := by
    rw [Table.find?_upsert] at missing
    split at missing
    · cases missing
    · rename_i there
      rw [Function.update_of_ne (Ne.symm there)]
      exact maps.absent k missing

theorem deleteWhere (maps : Maps R t m) {p : α → Bool} {gone : κ → Prop} [DecidablePred gone]
    (same : ∀ a, p a = true ↔ gone (key a)) :
    Maps R (t.deleteWhere p) fun k => if gone k then none else m k where
  row k a found := by
    rw [Table.find?_deleteWhere, Option.filter_eq_some_iff, Bool.not_eq_true'] at found
    obtain ⟨stored, missed⟩ := found
    have kept : ¬gone k := by
      rw [← (Table.find?_eq_some.mp stored).2, ← same, missed]
      exact Bool.false_ne_true
    rw [if_neg kept]
    exact maps.row k a stored
  absent k missing := by
    rw [Table.find?_deleteWhere] at missing
    split
    · rfl
    · rename_i kept
      cases stored : t.find? k with
      | none => exact maps.absent k stored
      | some a =>
          rw [← (Table.find?_eq_some.mp stored).2, ← same, Bool.not_eq_true] at kept
          simp [stored, kept] at missing

theorem countWhere_eq {γ : Type} {S : γ → β → Prop} {key'' : γ → κ} {u : Table key''}
    (maps : Maps R t m) (maps' : Maps S u m) {p : α → Bool} {q : γ → Bool} (hit : κ → Bool)
    (reads : ∀ a, p a = hit (key a)) (reads' : ∀ c, q c = hit (key'' c)) :
    t.countWhere p = u.countWhere q := by
  have keys : (t.rows.map key).Perm (u.rows.map key'') := by
    refine (List.perm_ext_iff_of_nodup t.nodup u.nodup).mpr fun k => ?_
    rw [← Table.isSome_find?, ← Table.isSome_find?, maps.isSome_find?, maps'.isSome_find?]
  have read : p = hit ∘ key := funext reads
  have read' : q = hit ∘ key'' := funext reads'
  rw [Table.countWhere, Table.countWhere, read, read', ← List.countP_map, ← List.countP_map]
  exact keys.countP_eq hit

end Maps

end Maps

end Relational

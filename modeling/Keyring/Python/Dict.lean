import Mathlib.Data.List.Induction
import Mathlib.Data.List.Nodup

/-!
# Building a dict from pairs

A dict keeps its keys in the order of their first insertion.  An item that is set
again keeps its place and takes the new value.
-/

set_option autoImplicit false

namespace Keyring

variable {κ α : Type} [DecidableEq κ]

/-- `d[key] = value` -/
def setItem (key : κ) (value : α) : List (κ × α) → List (κ × α)
  | [] => [(key, value)]
  | (k, v) :: rest => if k = key then (k, value) :: rest else (k, v) :: setItem key value rest

/-- `{key: value for key, value in pairs}` -/
def dictOf (pairs : List (κ × α)) : List (κ × α) :=
  pairs.foldl (fun d pair => setItem pair.1 pair.2 d) []

theorem mem_setItem {key k : κ} {value : α} (d : List (κ × α)) :
    k ∈ (setItem key value d).map Prod.fst ↔ k ∈ d.map Prod.fst ∨ k = key := by
  induction d with
  | nil => simp [setItem]
  | cons item rest ih =>
    obtain ⟨k', v⟩ := item
    by_cases same : k' = key
    · simp only [setItem, same, if_true, List.map_cons, List.mem_cons]
      tauto
    · simp only [setItem, same, if_false, List.map_cons, List.mem_cons, ih]
      tauto

theorem setItem_nodup {key : κ} {value : α} {d : List (κ × α)} (distinct : (d.map Prod.fst).Nodup) :
    ((setItem key value d).map Prod.fst).Nodup := by
  induction d with
  | nil => simp [setItem]
  | cons item rest ih =>
    obtain ⟨k', v⟩ := item
    rw [List.map_cons, List.nodup_cons] at distinct
    by_cases same : k' = key
    · simpa [setItem, same] using distinct
    · rw [setItem, if_neg same, List.map_cons, List.nodup_cons, mem_setItem]
      exact ⟨fun held => held.elim distinct.1 same, ih distinct.2⟩

theorem setItem_new {key : κ} {value : α} {d : List (κ × α)} (fresh : key ∉ d.map Prod.fst) :
    setItem key value d = d ++ [(key, value)] := by
  induction d with
  | nil => rfl
  | cons item rest ih =>
    obtain ⟨k', v⟩ := item
    simp only [List.map_cons, List.mem_cons, not_or] at fresh
    simp [setItem, Ne.symm fresh.1, ih fresh.2]

/-- What a dict has under a key. -/
theorem lookup_iff_mem {key : κ} {value : α} {d : List (κ × α)}
    (distinct : (d.map Prod.fst).Nodup) : d.lookup key = some value ↔ (key, value) ∈ d := by
  induction d with
  | nil => simp
  | cons item rest ih =>
    obtain ⟨k, v⟩ := item
    rw [List.map_cons, List.nodup_cons] at distinct
    by_cases here : key = k
    · subst here
      have absent : (key, value) ∉ rest := fun held => distinct.1 (List.mem_map.mpr ⟨_, held, rfl⟩)
      simp [absent, eq_comm]
    · rw [List.lookup_cons, beq_eq_false_iff_ne.mpr here, List.mem_cons]
      have other : (key, value) ≠ (k, v) := fun same => here (congrArg Prod.fst same)
      simpa [other] using ih distinct.2

theorem mem_of_mem_setItem {key : κ} {value : α} {item : κ × α} {d : List (κ × α)}
    (held : item ∈ setItem key value d) : item ∈ d ∨ item = (key, value) := by
  induction d with
  | nil => exact Or.inr (List.mem_singleton.mp held)
  | cons first rest ih =>
    obtain ⟨k', v⟩ := first
    by_cases here : k' = key
    · rw [setItem, if_pos here] at held
      rcases List.mem_cons.mp held with same | later
      · exact Or.inr (here ▸ same)
      · exact Or.inl (List.mem_cons_of_mem _ later)
    · rw [setItem, if_neg here] at held
      rcases List.mem_cons.mp held with same | later
      · exact Or.inl (same ▸ List.mem_cons_self)
      · exact (ih later).imp_left (List.mem_cons_of_mem _)

theorem mem_of_mem_dictOf {item : κ × α} {pairs : List (κ × α)} (held : item ∈ dictOf pairs) :
    item ∈ pairs := by
  induction pairs using List.reverseRecOn with
  | nil => exact held
  | append_singleton pairs pair ih =>
    rw [dictOf, List.foldl_append] at held
    rcases mem_of_mem_setItem held with earlier | last
    · exact List.mem_append_left _ (ih earlier)
    · exact List.mem_append_right _ (List.mem_singleton.mpr last)

/-- The keys of a dict are distinct. -/
theorem nodup_dictOf (pairs : List (κ × α)) : ((dictOf pairs).map Prod.fst).Nodup := by
  have step : ∀ d : List (κ × α), (d.map Prod.fst).Nodup →
      ((pairs.foldl (fun d pair => setItem pair.1 pair.2 d) d).map Prod.fst).Nodup := by
    induction pairs with
    | nil => exact fun d distinct => distinct
    | cons pair rest ih => exact fun d distinct => ih _ (setItem_nodup distinct)
  exact step [] List.nodup_nil

theorem dictOf_eq_self {pairs : List (κ × α)} (distinct : (pairs.map Prod.fst).Nodup) :
    dictOf pairs = pairs := by
  have step : ∀ d : List (κ × α), ((d ++ pairs).map Prod.fst).Nodup →
      pairs.foldl (fun d pair => setItem pair.1 pair.2 d) d = d ++ pairs := by
    clear distinct
    induction pairs with
    | nil => simp
    | cons pair rest ih =>
      intro d distinct
      have fresh : pair.1 ∉ d.map Prod.fst := by
        intro held
        rw [List.map_append, List.map_cons, List.nodup_middle, List.nodup_cons] at distinct
        exact distinct.1 (List.mem_append_left _ held)
      rw [List.append_cons] at distinct ⊢
      rw [List.foldl_cons, setItem_new fresh]
      exact ih _ distinct
  exact step [] distinct

end Keyring

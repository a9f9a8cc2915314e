import Keyring.Relational.Table

/-!
# Trimming a table to the first rows of an order

Of the rows under a condition all but the first `cap` are deleted.  A row is kept
when fewer than `cap` of them come before it.
-/

set_option autoImplicit false

namespace Relational

/-! ## Ranks -/

section Rank

variable {α κ : Type} [DecidableEq κ] {key : α → κ} {before : α → α → Prop}
  [DecidableRel before]

/-- `e` comes before `r`, and is another. -/
def ahead (key : α → κ) (before : α → α → Prop) [DecidableRel before] (r e : α) : Bool :=
  before e r && key e ≠ key r

variable {l early late : List α} {r : α} {cap : Nat}
  (antisymm : ∀ a b, before a b → before b a → key a = key b)
include antisymm

/-- In a sorted list, what is ahead of an element stands to its left. -/
theorem countP_ahead (sorted : (early ++ r :: late).Pairwise before)
    (distinct : ((early ++ r :: late).map key).Nodup) :
    (early ++ r :: late).countP (ahead key before r) = early.length := by
  rw [List.pairwise_append] at sorted
  have other : ∀ e ∈ early ++ late, key e ≠ key r := by
    intro e member same
    rw [List.map_append, List.map_cons, List.nodup_middle, List.nodup_cons] at distinct
    apply distinct.1
    rw [← same, ← List.map_append]
    exact List.mem_map_of_mem member
  have left : early.countP (ahead key before r) = early.length := by
    rw [List.countP_eq_length]
    intro e member
    simp [ahead, sorted.2.2 e member r List.mem_cons_self, other e (by simp [member])]
  have right : late.countP (ahead key before r) = 0 := by
    rw [List.countP_eq_zero]
    intro e member stands
    simp only [ahead, Bool.and_eq_true, decide_eq_true_eq] at stands
    exact stands.2 (antisymm e r stands.1 ((List.pairwise_cons.mp sorted.2.1).1 e member))
  have itself : ahead key before r r = false := by simp [ahead]
  rw [List.countP_append, List.countP_cons_of_neg (by simp [itself]), left, right, Nat.add_zero]

theorem mem_drop_iff (sorted : l.Pairwise before) (distinct : (l.map key).Nodup) (member : r ∈ l) :
    r ∈ l.drop cap ↔ cap ≤ l.countP (ahead key before r) := by
  obtain ⟨early, late, rfl⟩ := List.append_of_mem member
  rw [countP_ahead antisymm sorted distinct]
  have absent : r ∉ early := by
    intro inside
    rw [List.map_append, List.map_cons, List.nodup_middle, List.nodup_cons] at distinct
    apply distinct.1
    rw [← List.map_append]
    exact List.mem_map_of_mem (by simp [inside])
  constructor
  · intro dropped
    by_contra few
    have kept : r ∈ (early ++ r :: late).take cap := by
      rw [List.take_append, List.take_of_length_le (by omega),
        show cap - early.length = (cap - early.length - 1) + 1 by omega, List.take_succ_cons]
      simp
    have whole := distinct
    rw [← List.take_append_drop cap (early ++ r :: late), List.map_append] at whole
    exact (List.nodup_append.mp whole).2.2 _ (List.mem_map_of_mem kept) _
      (List.mem_map_of_mem dropped) rfl
  · intro many
    rw [List.drop_append_of_le_length many]
    simp

end Rank

namespace Table

variable {ρ κ : Type} {key : ρ → κ} {t : Table key} {p : ρ → Bool}
  {before : ρ → ρ → Prop} [DecidableRel before] {cap : Nat} {r e : ρ}

/-- The rows under the condition, in order. -/
def ranked (t : Table key) (p : ρ → Bool) (before : ρ → ρ → Prop) [DecidableRel before] : List ρ :=
  (t.rows.filter p).insertionSort before

theorem ranked_perm : (t.ranked p before).Perm (t.rows.filter p) := List.perm_insertionSort ..

theorem mem_ranked : r ∈ t.ranked p before ↔ r ∈ t ∧ p r = true := by
  rw [ranked_perm.mem_iff, List.mem_filter]
  rfl

theorem ranked_distinct : ((t.ranked p before).map key).Nodup := by
  rw [(ranked_perm.map key).nodup_iff]
  exact t.nodup.sublist (List.filter_sublist.map key)

theorem ranked_length : (t.ranked p before).length = t.countWhere p := by
  rw [ranked_perm.length_eq, ← List.countP_eq_length_filter]
  rfl

theorem ranked_countP (q : ρ → Bool) :
    (t.ranked p before).countP q = t.countWhere fun r => p r && q r := by
  rw [ranked_perm.countP_eq, List.countP_filter]
  apply List.countP_congr
  intro r _
  rw [Bool.and_comm]

theorem ranked_sorted [Std.Total before] [IsTrans ρ before] :
    (t.ranked p before).Pairwise before := List.pairwise_insertionSort ..

variable [DecidableEq κ]

/-- Delete the rows under the condition past the first `cap`. -/
def trim (t : Table key) (p : ρ → Bool) (before : ρ → ρ → Prop) [DecidableRel before]
    (cap : Nat) : Table key :=
  t.deleteWhere fun r => (((t.ranked p before).drop cap).map key).contains (key r)

theorem contains_dropped (stored : r ∈ t) :
    (((t.ranked p before).drop cap).map key).contains (key r) = true ↔
      r ∈ (t.ranked p before).drop cap := by
  rw [List.contains_iff_mem, List.mem_map]
  constructor
  · rintro ⟨r', dropped, same⟩
    have stored' := (mem_ranked.mp (List.mem_of_mem_drop dropped)).1
    rwa [← List.inj_on_of_nodup_map t.nodup stored' stored same]
  · exact fun dropped => ⟨r, dropped, rfl⟩

theorem mem_trim : r ∈ t.trim p before cap ↔ r ∈ t ∧ r ∉ (t.ranked p before).drop cap := by
  rw [trim, mem_deleteWhere]
  refine and_congr_right fun stored => ?_
  rw [← Bool.not_eq_true, contains_dropped stored]

/-- Rows outside of the condition stay. -/
theorem mem_trim_outside (outside : p r = false) : r ∈ t.trim p before cap ↔ r ∈ t := by
  rw [mem_trim]
  refine and_iff_left_of_imp fun _ dropped => ?_
  have inside := (mem_ranked.mp (List.mem_of_mem_drop dropped)).2
  rw [outside] at inside
  cases inside

section Order

variable [Std.Total before] [IsTrans ρ before]

theorem mem_trim_iff (antisymm : ∀ a b, before a b → before b a → key a = key b)
    (stored : r ∈ t) (inside : p r = true) : r ∈ t.trim p before cap ↔
      (t.countWhere fun e => p e && ahead key before r e) < cap := by
  rw [mem_trim, mem_drop_iff antisymm ranked_sorted ranked_distinct
    (mem_ranked.mpr ⟨stored, inside⟩), ranked_countP, not_le]
  exact and_iff_right stored

/-- What was deleted comes after what was kept. -/
theorem trim_before (stored : r ∈ t) (dropped : r ∉ t.trim p before cap)
    (kept : e ∈ t.trim p before cap) (inside : p e = true) : before e r := by
  have late : r ∈ (t.ranked p before).drop cap := by
    by_contra absent
    have kept : r ∈ t.trim p before cap ↔ _ := mem_trim
    exact dropped (kept.mpr ⟨stored, absent⟩)
  obtain ⟨stored', early⟩ := mem_trim.mp kept
  have ranked : e ∈ (t.ranked p before).take cap := by
    have member : e ∈ t.ranked p before := mem_ranked.mpr ⟨stored', inside⟩
    rw [← List.take_append_drop cap (t.ranked p before), List.mem_append] at member
    exact member.resolve_right early
  have sorted : (t.ranked p before).Pairwise before := ranked_sorted
  rw [← List.take_append_drop cap (t.ranked p before), List.pairwise_append] at sorted
  exact sorted.2.2 e ranked r late

end Order

/-- Among the ranked rows, those past the first `cap` are deleted. -/
theorem ranked_countP_dropped :
    (t.ranked p before).countP (fun r => (((t.ranked p before).drop cap).map key).contains (key r)) =
      t.countWhere p - cap := by
  have kept : ((t.ranked p before).take cap).countP
      (fun r => (((t.ranked p before).drop cap).map key).contains (key r)) = 0 := by
    rw [List.countP_eq_zero]
    intro r early late
    have distinct : ((t.ranked p before).map key).Nodup := ranked_distinct
    rw [← List.take_append_drop cap (t.ranked p before), List.map_append] at distinct
    exact (List.nodup_append.mp distinct).2.2 _ (List.mem_map_of_mem early) _
      (List.contains_iff_mem.mp late) rfl
  have gone : ((t.ranked p before).drop cap).countP
      (fun r => (((t.ranked p before).drop cap).map key).contains (key r)) =
        ((t.ranked p before).drop cap).length := by
    rw [List.countP_eq_length]
    intro r late
    exact List.contains_iff_mem.mpr (List.mem_map_of_mem late)
  conv => lhs; arg 2; rw [← List.take_append_drop cap (t.ranked p before)]
  rw [List.countP_append, kept, gone, List.length_drop, ranked_length, Nat.zero_add]

/-- Exactly the excess is deleted. -/
theorem countWhere_dropped :
    (t.countWhere fun r => (((t.ranked p before).drop cap).map key).contains (key r)) =
      t.countWhere p - cap := by
  have among : (t.ranked p before).countP
      (fun r => (((t.ranked p before).drop cap).map key).contains (key r)) = _ :=
    ranked_countP_dropped
  rw [← among, ranked_countP]
  apply List.countP_congr
  intro r stored
  rw [Bool.and_eq_true]
  refine (and_iff_right_of_imp fun dropped => ?_).symm
  exact (mem_ranked.mp (List.mem_of_mem_drop ((contains_dropped stored).mp dropped))).2

theorem countWhere_trim :
    (t.trim p before cap).countWhere p = t.countWhere p - (t.countWhere p - cap) := by
  have split := List.length_eq_countP_add_countP
    (fun r => (((t.ranked p before).drop cap).map key).contains (key r)) (l := t.ranked p before)
  rw [ranked_length, ranked_countP_dropped] at split
  have kept : (t.trim p before cap).countWhere p = (t.ranked p before).countP
      fun r => !(((t.ranked p before).drop cap).map key).contains (key r) := by
    rw [ranked_countP, trim, deleteWhere, countWhere, countWhere, List.countP_filter]
  have same : ((t.ranked p before).countP
      fun r => !(((t.ranked p before).drop cap).map key).contains (key r)) =
        (t.ranked p before).countP fun r =>
          decide ¬(((t.ranked p before).drop cap).map key).contains (key r) = true := by
    apply List.countP_congr
    intro r _
    simp
  rw [kept, same]
  omega

end Table

end Relational

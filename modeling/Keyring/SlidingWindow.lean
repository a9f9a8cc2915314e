import Mathlib.Algebra.Order.Group.Defs
import Mathlib.Data.List.DropRight
import Mathlib.Data.List.TakeWhile
import Mathlib.Order.Monotone.Defs

/-!
# Sliding windows with a bounded memory

Arrivals are remembered, the oldest first, while they are newer than a cutoff that
moves with the newest of them, and no more of them than `cap`.  What is remembered
are the newest `cap` of the arrivals in the window that the last one ends.
-/

set_option autoImplicit false

namespace SlidingWindow

variable {T : Type} [LinearOrder T]

/-- The arrivals that are newer than the cutoff. -/
def recent (cutoff : T) (arrivals : List T) : List T := arrivals.filter (cutoff < ·)

/-- The window that the last arrival ends; that one is inside whatever its cutoff. -/
def window (cutoff : T → T) (arrivals : List T) : List T :=
  match arrivals.getLast? with
  | none => []
  | some now => recent (cutoff now) arrivals.dropLast ++ [now]

/-- Forget what is too old, and then remember one more arrival. -/
def remember (cap : Nat) (cutoff : T) (stored : List T) (now : T) : List T :=
  let kept := stored.dropWhile (· ≤ cutoff) ++ [now]
  if kept.length > cap then kept.drop 1 else kept

/-- `stored` is remembered of `arrivals`, none of which came after `now`. -/
structure Remembers (cap : Nat) (cutoff : T → T) (now : T) (arrivals stored : List T) : Prop where
  sorted : arrivals.Pairwise (· ≤ ·)
  past : ∀ t ∈ arrivals, t ≤ now
  stored_eq : stored = (window cutoff arrivals).rtake cap

variable {cap : Nat} {cutoff : T → T} {now later : T} {arrivals stored : List T}

@[simp] theorem window_concat (cutoff : T → T) (arrivals : List T) (now : T) :
    window cutoff (arrivals ++ [now]) = recent (cutoff now) arrivals ++ [now] := by
  simp [window]

theorem remembers_nil (now : T) : Remembers cap cutoff now [] [] :=
  ⟨List.Pairwise.nil, by simp, by simp [window, List.rtake]⟩

theorem dropWhile_le_eq_recent {ts : List T} (sorted : ts.Pairwise (· ≤ ·)) (cutoff : T) :
    ts.dropWhile (· ≤ cutoff) = recent cutoff ts := by
  induction ts with
  | nil => rfl
  | cons t rest ih =>
      rw [List.pairwise_cons] at sorted
      by_cases old : t ≤ cutoff
      · rw [List.dropWhile_cons_of_pos (by simpa using old), ih sorted.2, recent, recent,
          List.filter_cons_of_neg (by simpa using old)]
      · have newer : ∀ s ∈ t :: rest, cutoff < s := by
          intro s member
          rcases List.mem_cons.mp member with rfl | later
          · exact not_le.mp old
          · exact (not_le.mp old).trans_le (sorted.1 s later)
        rw [List.dropWhile_cons_of_neg (by simpa using old), recent, eq_comm,
          List.filter_eq_self]
        intro s member
        exact decide_eq_true (newer s member)

/-! ## The newest of a list -/

section Newest

variable {α : Type}

theorem rtake_of_length_le {l : List α} {n : Nat} (short : l.length ≤ n) : l.rtake n = l := by
  rw [List.rtake, Nat.sub_eq_zero_of_le short, List.drop_zero]

theorem length_rtake (l : List α) (n : Nat) : (l.rtake n).length = min n l.length := by
  rw [List.rtake, List.length_drop]
  omega

theorem rtake_append_of_length {older newer : List α} {n : Nat} (same : newer.length = n) :
    (older ++ newer).rtake n = newer := by
  rw [List.rtake, List.length_append, same, Nat.add_sub_cancel, List.drop_left]

/-- The newest and one more, the oldest of them dropped where there are too many. -/
theorem rtake_concat (l : List α) (a : α) (n : Nat) :
    (if (l.rtake n ++ [a]).length > n then (l.rtake n ++ [a]).drop 1 else l.rtake n ++ [a]) =
      (l ++ [a]).rtake n := by
  have count := length_rtake l n
  rw [List.length_append, List.length_singleton, count]
  rcases Nat.lt_or_ge l.length n with short | long
  · rw [if_neg (by omega), rtake_of_length_le short.le, rtake_of_length_le]
    rw [List.length_append, List.length_singleton]
    exact short
  · have split : l ++ [a] = (l.take (l.length - n) ++ (l.rtake n ++ [a]).take 1) ++
        (l.rtake n ++ [a]).drop 1 := by
      rw [List.append_assoc, List.take_append_drop, ← List.append_assoc, List.rtake,
        List.take_append_drop]
    rw [if_pos (by omega), split, rtake_append_of_length]
    rw [List.length_drop, List.length_append, List.length_singleton, count]
    omega

end Newest

/-! ## One more arrival -/

theorem recent_rtake {ts : List T} (sorted : ts.Pairwise (· ≤ ·)) (cutoff : T) (n : Nat) :
    recent cutoff (ts.rtake n) = (recent cutoff ts).rtake n := by
  have split : ts = ts.take (ts.length - n) ++ ts.rtake n := (List.take_append_drop ..).symm
  have count := length_rtake ts n
  generalize ts.take (ts.length - n) = older at split
  generalize ts.rtake n = newest at split count ⊢
  subst split
  rw [recent, recent, List.filter_append, ← recent, ← recent]
  by_cases stale : recent cutoff older = []
  · have part : (recent cutoff newest).length ≤ newest.length := List.length_filter_le ..
    rw [stale, List.nil_append, rtake_of_length_le (by omega)]
  · obtain ⟨t, member⟩ := List.exists_mem_of_ne_nil _ stale
    obtain ⟨old, newer⟩ := List.mem_filter.mp member
    have whole : recent cutoff newest = newest := by
      rw [recent, List.filter_eq_self]
      intro s inside
      have ordered := (List.pairwise_append.mp sorted).2.2 t old s inside
      exact decide_eq_true ((of_decide_eq_true newer).trans_le ordered)
    have present := List.length_pos_of_mem old
    rw [List.length_append] at count
    rw [whole, rtake_append_of_length (by omega)]

theorem window_sublist (cutoff : T → T) (arrivals : List T) :
    (window cutoff arrivals).Sublist arrivals := by
  induction arrivals using List.reverseRecOn with
  | nil => exact List.nil_sublist _
  | append_singleton earlier t _ =>
      rw [window_concat]
      exact List.filter_sublist.append_right [t]

theorem recent_window (mono : Monotone cutoff) (past : ∀ t ∈ arrivals, t ≤ later) :
    recent (cutoff later) (window cutoff arrivals) = recent (cutoff later) arrivals := by
  induction arrivals using List.reverseRecOn with
  | nil => rfl
  | append_singleton earlier t _ =>
      have le : cutoff t ≤ cutoff later := mono (past t (by simp))
      rw [window_concat, recent, recent, recent, List.filter_append, List.filter_append,
        List.filter_filter]
      congr 1
      apply List.filter_congr
      intro s _
      simp only [Bool.and_eq_decide, decide_eq_true_eq, decide_eq_decide, and_iff_left_iff_imp]
      exact le.trans_lt

variable (remembers : Remembers cap cutoff now arrivals stored)
include remembers

theorem Remembers.stored_sorted : stored.Pairwise (· ≤ ·) := by
  rw [remembers.stored_eq]
  exact remembers.sorted.sublist ((List.drop_sublist ..).trans (window_sublist ..))

theorem Remembers.short : stored.length ≤ cap := by
  rw [remembers.stored_eq, length_rtake]
  exact Nat.min_le_left ..

theorem Remembers.step (mono : Monotone cutoff) (le : now ≤ later) :
    Remembers cap cutoff later (arrivals ++ [later]) (remember cap (cutoff later) stored later) := by
  have past : ∀ t ∈ arrivals, t ≤ later := fun t member => (remembers.past t member).trans le
  refine ⟨?_, ?_, ?_⟩
  · rw [List.pairwise_append]
    refine ⟨remembers.sorted, List.pairwise_singleton .., ?_⟩
    intro t member t' last
    rw [List.mem_singleton.mp last]
    exact past t member
  · intro t member
    rcases List.mem_append.mp member with before | last
    · exact past t before
    · exact (List.mem_singleton.mp last).le
  · have sorted : (window cutoff arrivals).Pairwise (· ≤ ·) :=
      remembers.sorted.sublist (window_sublist ..)
    have kept : stored.dropWhile (· ≤ cutoff later) = (recent (cutoff later) arrivals).rtake cap := by
      rw [dropWhile_le_eq_recent remembers.stored_sorted, remembers.stored_eq,
        recent_rtake sorted, recent_window mono past]
    rw [remember, kept, window_concat]
    exact rtake_concat ..

/-- A memory that holds no more than the budget shows that the window does not
either, unless it can hold no more. -/
theorem Remembers.length_le_iff (limit : Nat) :
    stored.length ≤ limit ↔ (window cutoff arrivals).length ≤ limit ∨ cap ≤ limit := by
  rw [remembers.stored_eq, length_rtake]
  omega

omit remembers

/-! ## Decisions -/

section Decisions

variable {α : Type} {time : α → T} {admitted : α → Bool} {limit : Nat} {width : T}

theorem length_recent (cutoff : T) (time : α → T) (ds : List α) :
    (recent cutoff (ds.map time)).length = ds.countP fun e => cutoff < time e := by
  rw [recent, ← List.countP_eq_length_filter, List.countP_map]
  rfl

variable [AddCommGroup T]

/-- Arrivals, none of them admitted with `limit` others before it in the window that
it ends. -/
inductive Decided (time : α → T) (admitted : α → Bool) (limit : Nat) (width : T) :
    List α → Prop where
  | nil : Decided time admitted limit width []
  | arrive {ds : List α} {d : α} (before : Decided time admitted limit width ds)
      (bounded : admitted d = true → (ds.countP fun e => time d - width < time e) < limit) :
      Decided time admitted limit width (ds ++ [d])

/-- No window holds more than `limit` that were admitted: the last of them was
admitted when the window that it ends held all of them. -/
theorem Decided.budget [IsOrderedAddMonoid T] {ds : List α}
    (decided : Decided time admitted limit width ds) (start : T) :
    (ds.countP fun d => admitted d && start < time d && time d ≤ start + width) ≤ limit := by
  induction decided with
  | nil => exact Nat.zero_le _
  | @arrive ds d before bounded ih =>
      by_cases counted : (admitted d && start < time d && time d ≤ start + width) = true
      · have parts := counted
        simp only [Bool.and_eq_true, decide_eq_true_eq] at parts
        obtain ⟨⟨passed, -⟩, inside⟩ := parts
        rw [List.countP_append, List.countP_singleton, if_pos counted]
        refine Nat.succ_le_of_lt (lt_of_le_of_lt (List.countP_mono_left ?_) (bounded passed))
        intro e member held
        simp only [Bool.and_eq_true, decide_eq_true_eq] at held ⊢
        exact (sub_le_iff_le_add.mpr inside).trans_lt held.1.2
      · rw [List.countP_append, List.countP_singleton, if_neg counted]
        exact ih

end Decisions

end SlidingWindow

import Keyring.Accounts.Sweeping
import Keyring.Python.Floats
import Keyring.SlidingWindow

/-!
# The budget of one caller

The checks of one caller, whatever the others do in between, see the newest of its
attempts after the cutoff of the check: no more of them than are kept.  The cutoff
is a rounded difference.  It never comes before an attempt that has left the window,
but it can reach one that has not.
-/

set_option autoImplicit false

namespace Keyring

open Interleave SlidingWindow FixedPrecision

variable {env : Env}

/-! ## The checks of one caller -/

/-- A check, and how long to wait when it was refused. -/
structure Checked where
  at_ : Instant
  verdict : Option Instant

def Checked.admitted (c : Checked) : Bool := c.verdict.isNone

/-- The checks of one caller, at readings of the clock, which are floats and never go
back; other callers are checked in between. -/
inductive Checks (env : Env) (scope caller : String) (limit : Nat) (width : Instant) :
    World → List Checked → World → Prop where
  | nil (w : World) : Checks env scope caller limit width w [] w
  | checked {w v v' : World} {cs : List Checked} {verdict : Option Instant}
      (before : Checks env scope caller limit width w cs v)
      (exec : Exec (checkLimit scope caller limit width : Service env Unit) v
        (checkAnswer scope verdict) v')
      (reading : env.floats.IsNumber v'.monotonic) (later : v.monotonic ≤ v'.monotonic) :
      Checks env scope caller limit width w (cs ++ [⟨v'.monotonic, verdict⟩]) v'
  | other {w v v' : World} {cs : List Checked} {scope' caller' : String} {limit' : Nat}
      {width' : Instant} {r : Except Error Unit}
      (before : Checks env scope caller limit width w cs v)
      (exec : Exec (checkLimit scope' caller' limit' width' : Service env Unit) v r v')
      (elsewhere : ¬(scope' = scope ∧ caller' = caller)) (later : v.monotonic ≤ v'.monotonic) :
      Checks env scope caller limit width w cs v'

theorem verdict_eq_none {floats : Rounding} {timestamps : List Instant} {now : Instant} {limit : Nat}
    {width : Instant} : Attempts.verdict floats timestamps now limit width = none ↔
      timestamps.length ≤ limit := by
  rw [Attempts.verdict]
  split <;> simp_all

/-- Up to which attempts a check at this reading forgets. -/
def cutoff (env : Env) (width now : Instant) : Instant := env.floats.sub now width

theorem cutoff_mono {width now later : Instant} (le : now ≤ later) :
    cutoff env width now ≤ cutoff env width later :=
  Rounding.sub_le_sub le le_rfl

namespace Checks

variable {scope caller : String} {limit : Nat} {width : Instant} {w v v' : World}
  {cs : List Checked}

/-- What is stored for the caller is what a memory of that size holds. -/
theorem remembers (checks : Checks env scope caller limit width w cs v)
    (fresh : w.attempts.of scope caller = []) :
    ∃ now ≤ v.monotonic, Remembers maxTimestampsPerCaller (cutoff env width) now (cs.map (·.at_))
      (v.attempts.of scope caller) := by
  induction checks with
  | nil =>
      rw [fresh]
      exact ⟨w.monotonic, le_rfl, remembers_nil _⟩
  | @checked v v' cs verdict before exec reading later ih =>
      obtain ⟨now, past, remembers⟩ := ih
      obtain ⟨-, stored⟩ := checkLimit_exec exec
      have next := remembers.step (fun _ _ => cutoff_mono) (past.trans later)
      rw [stored, Attempts.of_record, if_pos ⟨rfl, rfl⟩, List.map_append]
      exact ⟨v'.monotonic, le_rfl, next⟩
  | other before exec elsewhere later ih =>
      obtain ⟨now, past, remembers⟩ := ih
      obtain ⟨-, stored⟩ := checkLimit_exec exec
      rw [stored, Attempts.of_record, if_neg elsewhere]
      exact ⟨now, past.trans later, remembers⟩

/-- A check admits its attempt when fewer than `limit` came after its cutoff, or when
the memory cannot hold more. -/
theorem admitted_iff (checks : Checks env scope caller limit width w cs v)
    (fresh : w.attempts.of scope caller = []) {verdict : Option Instant}
    (exec : Exec (checkLimit scope caller limit width : Service env Unit) v
      (checkAnswer scope verdict) v') (later : v.monotonic ≤ v'.monotonic) :
    verdict = none ↔ (cs.countP fun c => cutoff env width v'.monotonic < c.at_) < limit ∨
      maxTimestampsPerCaller ≤ limit := by
  obtain ⟨now, past, remembers⟩ := checks.remembers fresh
  obtain ⟨answer, -⟩ := checkLimit_exec exec
  rw [checkAnswer_inj answer, Attempts.record, verdict_eq_none]
  have bounded := (remembers.step (fun _ _ => cutoff_mono) (past.trans later)).length_le_iff limit
  rw [window_concat, List.length_append, length_recent] at bounded
  exact bounded

theorem numbers (checks : Checks env scope caller limit width w cs v) :
    ∀ c ∈ cs, env.floats.IsNumber c.at_ := by
  induction checks with
  | nil => simp
  | checked before exec reading later ih =>
      intro c member
      rcases List.mem_append.mp member with earlier | last
      · exact ih c earlier
      · rw [List.mem_singleton.mp last]
        exact reading
  | other before exec elsewhere later ih => exact ih

end Checks

/-! ## The budget -/

/-- No half-open interval of one width holds more than `limit` admitted checks, and
none was refused that had fewer than `limit` before it in the window that it ends. -/
structure TrueWindow (limit : Nat) (width : Instant) (cs : List Checked) : Prop where
  budget : ∀ start, (cs.countP fun c =>
    c.admitted && start < c.at_ && c.at_ ≤ start + width) ≤ limit
  refusals : ∀ early c late, cs = early ++ c :: late → c.verdict ≠ none →
    limit ≤ early.countP fun e => c.at_ - width < e.at_

/-- The cutoff of a check is not rounded up to an earlier one that is in its window. -/
def Spares (env : Env) (width : Instant) (earlier later : Checked) : Prop :=
  later.at_ - width < earlier.at_ → cutoff env width later.at_ < earlier.at_

instance (env : Env) (width : Instant) (earlier later : Checked) :
    Decidable (Spares env width earlier later) := inferInstanceAs (Decidable (_ → _))

section Budget

variable {scope caller : String} {limit : Nat} {width : Instant} {w v : World}
  {cs : List Checked}

theorem Checks.decided (checks : Checks env scope caller limit width w cs v)
    (fresh : w.attempts.of scope caller = []) (small : limit < maxTimestampsPerCaller)
    (spared : cs.Pairwise (Spares env width)) :
    Decided Checked.at_ Checked.admitted limit width cs := by
  induction checks with
  | nil => exact .nil
  | @checked v v' cs verdict before exec reading later ih =>
      obtain ⟨earlier, -, last⟩ := List.pairwise_append.mp spared
      refine .arrive (ih earlier) fun passed => ?_
      have none_waits : verdict = none := Option.isNone_iff_eq_none.mp passed
      rcases (before.admitted_iff fresh exec later).mp none_waits with few | large
      · refine lt_of_le_of_lt (List.countP_mono_left ?_) few
        intro e member inside
        exact decide_eq_true (last e member _ List.mem_cons_self (of_decide_eq_true inside))
      · omega
  | other before exec elsewhere later ih => exact ih spared

/-- With a budget that the memory can hold, and only then, a check is refused.  An
attempt after the cutoff is in the window, because it is a number. -/
theorem Checks.refusals (checks : Checks env scope caller limit width w cs v)
    (fresh : w.attempts.of scope caller = []) {early late : List Checked} {c : Checked}
    (split : cs = early ++ c :: late) (refused : c.verdict ≠ none) :
    (limit ≤ early.countP fun e => c.at_ - width < e.at_) ∧ limit < maxTimestampsPerCaller := by
  induction checks generalizing late with
  | nil => simp at split
  | @checked v v' cs verdict before exec reading later ih =>
      rcases List.eq_nil_or_concat late with rfl | ⟨late', last, rfl⟩
      · obtain ⟨rfl, same⟩ := List.append_inj' split rfl
        obtain rfl := (List.cons.inj same).1
        have beyond := mt (before.admitted_iff fresh exec later).mpr refused
        rw [not_or, not_lt, not_le] at beyond
        refine ⟨beyond.1.trans (List.countP_mono_left ?_), beyond.2⟩
        intro e member newer
        rw [decide_eq_true_eq] at newer ⊢
        by_contra outside
        exact absurd newer (not_lt.mpr ((before.numbers e member).le_round (not_lt.mp outside)))
      · rw [List.concat_eq_append, ← List.cons_append, ← List.append_assoc] at split
        exact ih (List.append_inj' split rfl).1
  | other before exec elsewhere later ih => exact ih split

/-- With a larger budget than the memory can hold no check is refused, and with any
other no window holds more checks that were admitted, as long as no cutoff is rounded
up to an attempt of its window. -/
theorem true_window_iff (checks : Checks env scope caller limit width w cs v)
    (fresh : w.attempts.of scope caller = []) (spared : cs.Pairwise (Spares env width)) :
    TrueWindow limit width cs ↔ limit < maxTimestampsPerCaller ∨
      ∀ start, (cs.countP fun c => start < c.at_ && c.at_ ≤ start + width) ≤ limit := by
  constructor
  · intro true_window
    by_cases small : limit < maxTimestampsPerCaller
    · exact Or.inl small
    · right
      intro start
      refine le_trans (List.countP_mono_left ?_) (true_window.budget start)
      intro c member inside
      have passed : c.admitted = true := by
        by_contra refused
        obtain ⟨early, late, split⟩ := List.append_of_mem member
        have waits : c.verdict ≠ none := fun none => refused (Option.isNone_iff_eq_none.mpr none)
        exact small (checks.refusals fresh split waits).2
      rw [passed]
      exact inside
  · intro bounded
    constructor
    · intro start
      rcases bounded with small | few
      · exact (checks.decided fresh small spared).budget start
      · refine le_trans (List.countP_mono_left ?_) (few start)
        intro c member held
        rw [Bool.and_assoc] at held
        exact (Bool.and_eq_true_iff.mp held).2
    · intro early c late split refused
      exact (checks.refusals fresh split refused).1

end Budget

/-! ## Waiting as told -/

/-- Whoever waits for as long as told is admitted, whatever the other callers do. -/
def WaitingEnough (env : Env) (scope caller : String) (limit : Nat) (width : Instant) (v : World)
    (retryAfter : Instant) : Prop :=
  ∀ v' v'' r, Checks env scope caller limit width v [] v' →
    Exec (checkLimit scope caller limit width : Service env Unit) v' r v'' →
    env.floats.IsNumber v''.monotonic → v.monotonic + retryAfter ≤ v''.monotonic → r = .ok ()

/-- When the wait is over, that is at the first reading that is not before its end, fewer
than `limit` of the attempts that were on record at `now` are after the cutoff. -/
def Drains (env : Env) (limit : Nat) (width now : Instant) (arrivals : List Instant) : Prop :=
  let kept := (window (cutoff env width) arrivals).rtake maxTimestampsPerCaller
  let reading := env.floats.above (now + Attempts.wait env.floats kept now width)
  (kept.countP fun t => cutoff env width reading < t) < limit

instance (env : Env) (limit : Nat) (width now : Instant) (arrivals : List Instant) :
    Decidable (Drains env limit width now arrivals) := inferInstanceAs (Decidable (_ < limit))

section Waiting

variable {scope caller : String} {limit : Nat} {width : Instant} {w v v' : World}
  {cs : List Checked}

theorem Checks.untouched (checks : Checks env scope caller limit width w [] v) :
    v.attempts.of scope caller = w.attempts.of scope caller := by
  generalize none_own : ([] : List Checked) = cs at checks
  induction checks with
  | nil => rfl
  | checked before exec reading later ih => simp at none_own
  | other before exec elsewhere later ih =>
      obtain ⟨-, stored⟩ := checkLimit_exec exec
      rw [stored, Attempts.of_record, if_neg elsewhere]
      exact ih none_own

/-- A check admits its attempt when fewer than `limit` of those on record are after
its cutoff. -/
theorem window_length_le {stored : List Instant} (sorted : stored.Pairwise (· ≤ ·))
    (short : stored.length ≤ maxTimestampsPerCaller) (small : limit < maxTimestampsPerCaller)
    (now : Instant) : (Attempts.window env.floats stored now width).length ≤ limit ↔
      (stored.countP fun t => cutoff env width now < t) < limit := by
  have count : (Attempts.evictBefore stored (env.floats.sub now width)).length =
      stored.countP fun t => cutoff env width now < t := by
    rw [Attempts.evictBefore, dropWhile_le_eq_recent sorted, recent, ← List.countP_eq_length_filter]
    rfl
  have bound := List.countP_le_length (p := fun t => decide (cutoff env width now < t)) (l := stored)
  simp only [Attempts.window]
  split
  · rename_i beyond
    rw [List.length_append, List.length_singleton] at beyond
    rw [List.length_drop, List.length_append, List.length_singleton]
    omega
  · rw [List.length_append, List.length_singleton]
    omega

theorem verdict_eq_some {floats : Rounding} {timestamps : List Instant} {now retryAfter : Instant}
    (refused : Attempts.verdict floats timestamps now limit width = some retryAfter) :
    limit < timestamps.length ∧ retryAfter = Attempts.wait floats timestamps now width := by
  rw [Attempts.verdict] at refused
  split at refused
  · cases refused
  · rename_i beyond
    exact ⟨not_le.mp beyond, (Option.some.inj refused).symm⟩

/-- Exactly when a caller's attempts drain in time, waiting as told is enough. -/
theorem waiting_enough_iff (checks : Checks env scope caller limit width w cs v)
    (fresh : w.attempts.of scope caller = []) {retryAfter : Instant}
    (refused : Exec (checkLimit scope caller limit width : Service env Unit) v
      (checkAnswer scope (some retryAfter)) v') (later : v.monotonic ≤ v'.monotonic) :
    WaitingEnough env scope caller limit width v' retryAfter ↔
      Drains env limit width v'.monotonic (cs.map (·.at_) ++ [v'.monotonic]) := by
  obtain ⟨now, past, remembers⟩ := checks.remembers fresh
  have next : Remembers maxTimestampsPerCaller (cutoff env width) v'.monotonic
      (cs.map (·.at_) ++ [v'.monotonic])
      (Attempts.window env.floats (v.attempts.of scope caller) v'.monotonic width) :=
    remembers.step (fun _ _ => cutoff_mono) (past.trans later)
  obtain ⟨answer, stored⟩ := checkLimit_exec refused
  have told := verdict_eq_some (checkAnswer_inj answer).symm
  have kept : v'.attempts.of scope caller =
      Attempts.window env.floats (v.attempts.of scope caller) v'.monotonic width := by
    rw [stored, Attempts.of_record, if_pos ⟨rfl, rfl⟩]
  rw [← kept] at next told
  have small : limit < maxTimestampsPerCaller := told.1.trans_le next.short
  have admits : ∀ now, (Attempts.window env.floats (v'.attempts.of scope caller) now width).length ≤
      limit ↔ ((v'.attempts.of scope caller).countP fun t => cutoff env width now < t) < limit :=
    window_length_le next.stored_sorted next.short small
  have drains : Drains env limit width v'.monotonic (cs.map (·.at_) ++ [v'.monotonic]) ↔
      ((v'.attempts.of scope caller).countP fun t =>
        cutoff env width (env.floats.above (v'.monotonic + retryAfter)) < t) < limit := by
    rw [told.2, Drains, ← next.stored_eq]
  rw [drains, ← admits]
  constructor
  · intro enough
    let x := Scenario.given (env.floats.above (v'.monotonic + retryAfter)) ""
    have again : Exec (checkLimit scope caller limit width : Service env Unit) v' _ _ :=
      checkLimit_runs v' x
    have allowed := enough v' _ _ (.nil v') again (Rounding.isNumber_above _) (Rounding.le_above _)
    rw [checkAnswer_eq_ok, Attempts.record, verdict_eq_none] at allowed
    exact allowed
  · intro few v'' v₃ r others exec reading waited
    obtain ⟨rfl, -⟩ := checkLimit_exec exec
    rw [checkAnswer_eq_ok, Attempts.record, others.untouched, verdict_eq_none, admits]
    refine lt_of_le_of_lt (List.countP_mono_left ?_) ((admits _).mp few)
    intro t _ inside
    rw [decide_eq_true_eq] at inside ⊢
    exact (cutoff_mono (Rounding.above_le reading waited)).trans_lt inside

end Waiting

/-! ## Callers that check in turn -/

/-- One more check at the reading `now`. -/
def checkedAt (env : Env) (scope caller : String) (limit : Nat) (width : Instant)
    (so_far : List Checked × World) (now : Instant) : List Checked × World :=
  let recorded := so_far.2.attempts.record env.floats scope caller now limit width
  (so_far.1 ++ [⟨now, recorded.1⟩],
    { so_far.2 with monotonic := now, attempts := recorded.2 })

theorem Checks.foldl {scope caller : String} {limit : Nat} {width : Instant} {w : World}
    {so_far : List Checked × World}
    (checks : Checks env scope caller limit width w so_far.1 so_far.2) {times : List Instant}
    (readings : ∀ t ∈ times, env.floats.IsNumber t)
    (sorted : (so_far.2.monotonic :: times).Pairwise (· ≤ ·)) :
    Checks env scope caller limit width w
      (times.foldl (checkedAt env scope caller limit width) so_far).1
      (times.foldl (checkedAt env scope caller limit width) so_far).2 := by
  induction times generalizing so_far with
  | nil => exact checks
  | cons now times ih =>
      rw [List.pairwise_cons] at sorted
      obtain ⟨reading, others⟩ := List.forall_mem_cons.mp readings
      have runs : Exec (checkLimit scope caller limit width : Service env Unit) so_far.2 _ _ :=
        checkLimit_runs so_far.2 (Scenario.given now "")
      exact ih (.checked checks runs reading (sorted.1 now List.mem_cons_self)) others sorted.2

namespace Scenario

def doubles : Rounding := .ofFormat binary64

/-- The deployment on a clock that shows doubles. -/
def timed : Env := { deployment with floats := doubles }

/-- So many whole seconds. -/
def whole (n : Int) : Instant := n * doubles.one

/-- The double that `a / b` seconds are written as. -/
def decimal (a b : Nat) : Instant := (Number.ratio a b : Double).units

/-- The checks of one login caller at these readings, from nothing on record. -/
def loginChecks (limit : Nat) (width : Instant) (times : List Instant) : List Checked × World :=
  times.foldl (checkedAt timed "login" "10.0.0.7" limit width) ([], office)

theorem loginChecks_checks (limit : Nat) (width : Instant) {times : List Instant}
    (readings : ∀ t ∈ times, doubles.IsNumber t) (sorted : (0 :: times).Pairwise (· ≤ ·)) :
    Checks timed "login" "10.0.0.7" limit width office (loginChecks limit width times).1
      (loginChecks limit width times).2 :=
  Checks.foldl (.nil office) readings sorted

/-- The next check of the caller, at the reading `now`. -/
theorem loginChecks_next {limit : Nat} {width now : Instant} {times : List Instant}
    {verdict : Option Instant} (decided : ((loginChecks limit width times).2.attempts.record doubles
      "login" "10.0.0.7" now limit width).1 = verdict) :
    Exec (checkLimit "login" "10.0.0.7" limit width : Service timed Unit)
      (loginChecks limit width times).2 (checkAnswer "login" verdict)
      (loginChecks limit width (times ++ [now])).2 := by
  rw [← decided, loginChecks, loginChecks, List.foldl_append]
  exact checkLimit_runs _ (given now "")

end Scenario

open Scenario in
theorem true_window_ten :
    TrueWindow 10 (whole 300) (loginChecks 10 (whole 300) (List.replicate 11 0)).1 ↔
      10 < maxTimestampsPerCaller ∨
        ∀ start, ((loginChecks 10 (whole 300) (List.replicate 11 0)).1.countP fun c =>
          start < c.at_ && c.at_ ≤ start + whole 300) ≤ 10 :=
  true_window_iff (loginChecks_checks 10 _ (by decide +kernel) (by decide)) rfl (by decide +kernel)

open Scenario in
/-- A budget of 128 is never spent. -/
theorem budget_never_spent :
    Checks timed "login" "10.0.0.7" 128 (whole 300) office
        (loginChecks 128 (whole 300) (List.replicate 129 0)).1
        (loginChecks 128 (whole 300) (List.replicate 129 0)).2 ∧
      ((loginChecks 128 (whole 300) (List.replicate 129 0)).1.countP fun c =>
        c.admitted && -1 < c.at_ && c.at_ ≤ -1 + whole 300) = 129 ∧
      ¬TrueWindow 128 (whole 300) (loginChecks 128 (whole 300) (List.replicate 129 0)).1 := by
  have spent : ((loginChecks 128 (whole 300) (List.replicate 129 0)).1.countP fun c =>
      c.admitted && -1 < c.at_ && c.at_ ≤ -1 + whole 300) = 129 := by decide +kernel
  refine ⟨loginChecks_checks 128 _ (by decide +kernel) (by decide), spent, fun true_window => ?_⟩
  have bound := true_window.budget (-1)
  rw [spent] at bound
  omega

open Scenario in
/-- With a window of 60.1 seconds, the cutoff of a check reaches the one before it. -/
example : let checks := (loginChecks 1 (decimal 601 10) [decimal 9999399 10, whole 1000000]).1
    checks.map Checked.admitted = [true, true] ∧
      whole 1000000 - decimal 601 10 < decimal 9999399 10 ∧
      ¬checks.Pairwise (Spares timed (decimal 601 10)) := by
  decide +kernel

open Scenario in
theorem waiting_enough_tied :
    WaitingEnough timed "login" "10.0.0.7" 2 (whole 300) (loginChecks 2 (whole 300) [0, 0, 0]).2
      (whole 300) ↔ Drains timed 2 (whole 300) 0 [0, 0, 0] :=
  waiting_enough_iff (@loginChecks_checks 2 (whole 300) [0, 0] (by decide +kernel) (by decide)) rfl
    (loginChecks_next (by decide +kernel)) le_rfl

open Scenario in
/-- Told to wait for 299 seconds, a caller that waits for 299 seconds is refused. -/
theorem waited_in_vain :
    Exec (checkLimit "login" "10.0.0.7" 1 (whole 300) : Service timed Unit)
        (loginChecks 1 (whole 300) [0]).2 (checkAnswer "login" (some (whole 299)))
        (loginChecks 1 (whole 300) [0, whole 1]).2 ∧
      ¬WaitingEnough timed "login" "10.0.0.7" 1 (whole 300)
        (loginChecks 1 (whole 300) [0, whole 1]).2 (whole 299) := by
  refine ⟨loginChecks_next (by decide +kernel), fun enough => ?_⟩
  have told : ((loginChecks 1 (whole 300) [0, whole 1]).2.attempts.record doubles "login" "10.0.0.7"
      (whole 300) 1 (whole 300)).1.isSome = true := by decide +kernel
  obtain ⟨retryAfter, decided⟩ := Option.isSome_iff_exists.mp told
  cases enough _ _ _ (.nil _) (loginChecks_next decided) (by decide +kernel) (by decide +kernel)

open Scenario in
/-- Told 299.9 seconds at 0.3, a caller is refused at 300.2, where the first two attempts
are still after the cutoff. -/
example : let checks := loginChecks 2 (whole 300) [decimal 2 10, decimal 2 10, decimal 3 10]
    checks.1.map (·.verdict) = [none, none, some (decimal 2999 10)] ∧
      decimal 3 10 + decimal 2999 10 ≤ decimal 3002 10 ∧
      (checks.2.attempts.record doubles "login" "10.0.0.7" (decimal 3002 10) 2 (whole 300)).1 ≠
        none := by
  decide +kernel

end Keyring

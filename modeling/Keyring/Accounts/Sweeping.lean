import Mathlib.Data.List.TakeWhile
import Keyring.Accounts.Limiter
import Keyring.Scenario

/-!
# What a sweep does to the limiter

A sweep forgets the callers whose last attempt is older than the widest window of
the three scopes that a caller names.  The cap on mail to one address has a window
of its own, which that width does not cover.
-/

set_option autoImplicit false

namespace Keyring

open Interleave Relational

variable {env : Env}

/-! ## The window of one caller -/

namespace Attempts

section Keys

variable (attempts : Attempts) (scope caller : String)

theorem of_reset (scope' caller' : String) :
    (attempts.reset scope caller).of scope' caller' =
      if scope = scope' ∧ caller = caller' then [] else attempts.of scope' caller' := by
  simp only [reset, of, Table.find?_deleteWhere]
  cases found : attempts.find? (scope', caller') with
  | none => simp
  | some row =>
      obtain ⟨-, keyed⟩ := Table.find?_eq_some.mp found
      by_cases same : scope = scope' ∧ caller = caller'
      · obtain ⟨rfl, rfl⟩ := same
        simp [keyed, Option.filter_some]
      · have other : row.key ≠ (scope, caller) := by
          rw [keyed]
          intro equal
          injection equal with left right
          exact same ⟨left.symm, right.symm⟩
        simp [other, same, Option.filter_some]

theorem of_purgeExpired (cutoff : Instant) :
    (attempts.purgeExpired cutoff).2.of scope caller =
      if (attempts.of scope caller).getLast?.all (· ≤ cutoff) then []
      else attempts.of scope caller := by
  have purged : (attempts.purgeExpired cutoff).2.of scope caller =
      (((attempts.find? (scope, caller)).filter (!isDoomed cutoff ·)).map (·.timestamps)).getD [] := by
    rw [purgeExpired, of, Table.find?_deleteWhere]
  rw [purged]
  by_cases present : (attempts.find? (scope, caller)).isSome
  · obtain ⟨row, found⟩ := Option.isSome_iff_exists.mp present
    have held : attempts.of scope caller = row.timestamps := by
      rw [of, found]
      rfl
    have doomed : isDoomed cutoff row = row.timestamps.getLast?.all (· ≤ cutoff) := rfl
    rw [held, found, Option.filter_some, doomed]
    by_cases expired : row.timestamps.getLast?.all (· ≤ cutoff) = true <;> simp [expired]
  · rw [Option.not_isSome_iff_eq_none] at present
    simp [of, present]

end Keys

/-- Attempts in the order they were made, up to now, and no more than are kept. -/
structure Kept (timestamps : List Instant) (now : Instant) : Prop where
  sorted : timestamps.Pairwise (· ≤ ·)
  past : ∀ t ∈ timestamps, t ≤ now
  short : timestamps.length ≤ maxTimestampsPerCaller

theorem Kept.mono {timestamps : List Instant} {now later : Instant} (kept : Kept timestamps now)
    (le : now ≤ later) : Kept timestamps later :=
  { kept with past := fun t member => (kept.past t member).trans le }

theorem kept_nil (now : Instant) : Kept [] now :=
  ⟨List.Pairwise.nil, by simp, Nat.zero_le _⟩

theorem Kept.window {timestamps : List Instant} {now : Instant} (kept : Kept timestamps now)
    (floats : Rounding) (width : Instant) : Kept (window floats timestamps now width) now := by
  generalize cut : floats.sub now width = cutoff
  have part : (evictBefore timestamps cutoff).Sublist timestamps :=
    (List.dropWhile_suffix _).sublist
  have sorted : (evictBefore timestamps cutoff ++ [now]).Pairwise (· ≤ ·) := by
    rw [List.pairwise_append]
    refine ⟨kept.sorted.sublist part, List.pairwise_singleton .., ?_⟩
    intro t member t' last
    rw [List.mem_singleton.mp last]
    exact kept.past t (part.subset member)
  have past : ∀ t ∈ evictBefore timestamps cutoff ++ [now], t ≤ now := by
    intro t member
    rcases List.mem_append.mp member with earlier | last
    · exact kept.past t (part.subset earlier)
    · exact (List.mem_singleton.mp last).le
  have short : (evictBefore timestamps cutoff ++ [now]).length ≤
      maxTimestampsPerCaller + 1 := by
    rw [List.length_append]
    exact Nat.add_le_add_right (part.length_le.trans kept.short) 1
  simp only [Attempts.window, cut]
  split
  · constructor
    · exact sorted.sublist (List.drop_sublist 1 _)
    · exact fun t member => past t (List.mem_of_mem_drop member)
    · rw [List.length_drop]
      omega
  · exact ⟨sorted, past, by omega⟩

/-- Where every attempt has expired, nothing is left. -/
theorem evictBefore_expired {timestamps : List Instant} {cutoff : Instant}
    (expired : ∀ t ∈ timestamps, t ≤ cutoff) : evictBefore timestamps cutoff = [] := by
  rw [evictBefore, List.dropWhile_eq_nil_iff]
  intro t member
  exact decide_eq_true (expired t member)

/-- The last attempt is the latest. -/
theorem Kept.expired {timestamps : List Instant} {now cutoff : Instant}
    (kept : Kept timestamps now) (last : ∀ t ∈ timestamps.getLast?, t ≤ cutoff) :
    ∀ t ∈ timestamps, t ≤ cutoff := by
  induction timestamps using List.reverseRecOn with
  | nil => simp
  | append_singleton earlier newest _ =>
      have final : newest ≤ cutoff := last newest (by simp)
      intro t member
      rcases List.mem_append.mp member with before | same
      · exact le_trans ((List.pairwise_append.mp kept.sorted).2.2 t before newest (by simp)) final
      · rw [List.mem_singleton.mp same]
        exact final

end Attempts

/-! ## The steps that reach the limiter -/

/-- A check that a request makes, and whom it counts: both reset requests count their
caller, and every mail to an address that is about to be reset counts the address. -/
inductive LimiterUse where
  | login (caller : String)
  | redeemInvite (caller : String)
  | reset (caller : String)
  | mail (address : String)

namespace LimiterUse

def scope : LimiterUse → String
  | login _ => scopeLogin
  | redeemInvite _ => scopeInvite
  | reset _ => scopeReset
  | mail _ => scopeResetRecipient

def caller (env : Env) : LimiterUse → String
  | login caller | redeemInvite caller | reset caller => caller
  | mail address => env.hashToken address

def limit (settings : Settings) : LimiterUse → Nat
  | login _ => settings.loginAttempts
  | redeemInvite _ => settings.inviteAttempts
  | reset _ => settings.resetAttempts
  | mail _ => settings.maxMessagesPerAddressPerWindow

def width (settings : Settings) : LimiterUse → Instant
  | login _ => settings.loginWindowSeconds
  | redeemInvite _ => settings.inviteWindowSeconds
  | reset _ => settings.resetWindowSeconds
  | mail _ => settings.emailWindowSeconds

def check (env : Env) (u : LimiterUse) : Service env Unit :=
  checkLimit u.scope (u.caller env) (u.limit env.settings) (u.width env.settings)

/-- A success clears what its caller has used up. -/
def forget (env : Env) (u : LimiterUse) : Service env Unit := resetLimit u.scope (u.caller env)

/-- How a check ends, and what it leaves, at a reading of the clock. -/
def recorded (env : Env) (u : LimiterUse) (now : Instant) (attempts : Attempts) :
    Option Instant × Attempts :=
  attempts.record env.floats u.scope (u.caller env) now (u.limit env.settings)
    (u.width env.settings)

def outcome (env : Env) (u : LimiterUse) (now : Instant) (attempts : Attempts) :
    Except Error Unit :=
  checkAnswer u.scope (u.recorded env now attempts).1

theorem check_exec {u : LimiterUse} {w w' : World} {r : Except Error Unit}
    (exec : Exec (u.check env) w r w') :
    r = u.outcome env w'.monotonic w.attempts ∧
      w'.attempts = (u.recorded env w'.monotonic w.attempts).2 :=
  checkLimit_exec exec

theorem check_runs (u : LimiterUse) (w : World) (x : Input) :
    Exec (u.check env) w (u.outcome env x.monotonic w.attempts)
      { w with monotonic := x.monotonic, attempts := (u.recorded env x.monotonic w.attempts).2 } :=
  checkLimit_runs w x

theorem forget_exec {u : LimiterUse} {w w' : World} {r : Except Error Unit}
    (exec : Exec (u.forget env) w r w') :
    w' = { w with attempts := w.attempts.reset u.scope (u.caller env) } := by
  obtain ⟨x, a, t, cleared, final⟩ := exec.call_inv
  cases cleared
  exact final.done_inv.2

end LimiterUse

def widestWindow (settings : Settings) : Instant :=
  max (max settings.loginWindowSeconds settings.resetWindowSeconds) settings.inviteWindowSeconds

theorem sweepOnce_exec {w w' : World} {r : Except Error SweepResult}
    (exec : Exec (AccountService.sweepOnce env) w r w') :
    w'.attempts =
      (w.attempts.purgeExpired
        (env.floats.sub w'.monotonic (widestWindow env.settings))).2 := by
  obtain ⟨x₁, now, t₁, shown, sessions⟩ := exec.call_inv
  cases shown
  obtain ⟨x₂, expired, t₂, purged, grants⟩ := sessions.call_inv
  cases purged
  obtain ⟨x₃, later, t₃, shown', spending⟩ := grants.call_inv
  cases shown'
  obtain ⟨x₄, spent, t₄, purged', records⟩ := spending.call_inv
  cases purged'
  obtain ⟨x₅, reading, t₅, shown'', forgetting⟩ := records.call_inv
  cases shown''
  obtain ⟨x₆, gone, t₆, forgot, final⟩ := forgetting.call_inv
  cases forgot
  obtain ⟨-, rfl⟩ := final.done_inv
  rfl

theorem sweepOnce_runs (w : World) (x : Input) :
    ∃ r w', Exec (AccountService.sweepOnce env) w r w' ∧ w'.monotonic = x.monotonic := by
  iterate 6 apply Exec.exists_call (x := x) rfl
  exact ⟨_, _, .done _ _, rfl⟩

/-! ## A sequence of steps -/

/-- One step of a sequence, with the reading and the outcome of a check. -/
inductive Limited where
  | checked (u : LimiterUse) (now : Instant) (outcome : Except Error Unit)
  | forgot (u : LimiterUse)
  | swept

def Limited.isSweep : Limited → Bool
  | swept => true
  | _ => false

/-- The step without its outcome. -/
def Limited.asked : Limited → Limited
  | checked u now _ => checked u now (.ok ())
  | step => step

/-- The steps that are taken from a world, on a clock that does not go back. -/
inductive Sequence (env : Env) : World → List Limited → Prop where
  | nil (w : World) : Sequence env w []
  | checked {w m : World} {u : LimiterUse} {r : Except Error Unit} {rest : List Limited}
      (exec : Exec (u.check env) w r m) (later : w.monotonic ≤ m.monotonic)
      (onward : Sequence env m rest) : Sequence env w (.checked u m.monotonic r :: rest)
  | forgot {w m : World} {u : LimiterUse} {r : Except Error Unit} {rest : List Limited}
      (exec : Exec (u.forget env) w r m) (onward : Sequence env m rest) :
      Sequence env w (.forgot u :: rest)
  | swept {w m : World} {r : Except Error SweepResult} {rest : List Limited}
      (exec : Exec (AccountService.sweepOnce env) w r m) (later : w.monotonic ≤ m.monotonic)
      (onward : Sequence env m rest) : Sequence env w (.swept :: rest)

/-- The same steps without the sweeps, at the same readings, end with the same outcomes. -/
def SweepInvisible (env : Env) : Prop :=
  ∀ (w : World) (steps plain : List Limited), w.attempts = .empty → Sequence env w steps →
    Sequence env w plain →
      plain.map Limited.asked = (steps.filter (!·.isSweep)).map Limited.asked →
        plain = steps.filter (!·.isSweep)

/-- What every caller has is in order. -/
def Attempts.WellKept (attempts : Attempts) (now : Instant) : Prop :=
  ∀ scope caller, Kept (attempts.of scope caller) now

/-- The two limiters agree, from `now` on, on what is inside a window that a sweep
covers. -/
def Agree (env : Env) (now : Instant) (swept plain : Attempts) : Prop :=
  ∀ u : LimiterUse, u.width env.settings ≤ widestWindow env.settings → ∀ later, now ≤ later →
    Attempts.evictBefore (swept.of u.scope (u.caller env))
        (env.floats.sub later (u.width env.settings)) =
      Attempts.evictBefore (plain.of u.scope (u.caller env))
        (env.floats.sub later (u.width env.settings))

section Simulation

variable {attempts swept plain : Attempts} {now later : Instant}

theorem LimiterUse.width_congr {u v : LimiterUse} (same : u.scope = v.scope) :
    u.width env.settings = v.width env.settings := by
  cases u <;> cases v <;> first
    | rfl
    | simp [LimiterUse.scope, scopeLogin, scopeInvite, scopeReset, scopeResetRecipient] at same

theorem Attempts.WellKept.recorded (kept : attempts.WellKept now) (le : now ≤ later)
    (u : LimiterUse) : (u.recorded env later attempts).2.WellKept later := by
  intro scope caller
  rw [LimiterUse.recorded, Attempts.of_record]
  split
  · exact ((kept _ _).mono le).window ..
  · exact (kept scope caller).mono le

theorem Attempts.WellKept.mono (kept : attempts.WellKept now) (le : now ≤ later) :
    attempts.WellKept later :=
  fun scope caller => (kept scope caller).mono le

theorem Attempts.WellKept.reset (kept : attempts.WellKept now) (scope caller : String) :
    (attempts.reset scope caller).WellKept now := by
  intro scope' caller'
  rw [Attempts.of_reset]
  split
  · exact Attempts.kept_nil now
  · exact kept scope' caller'

theorem Attempts.WellKept.purgeExpired (kept : attempts.WellKept now) (le : now ≤ later)
    (cutoff : Instant) : (attempts.purgeExpired cutoff).2.WellKept later := by
  intro scope caller
  rw [Attempts.of_purgeExpired]
  split
  · exact Attempts.kept_nil later
  · exact (kept scope caller).mono le

theorem Agree.window (agree : Agree env now swept plain) (le : now ≤ later) {u : LimiterUse}
    (covered : u.width env.settings ≤ widestWindow env.settings) :
    Attempts.window env.floats (swept.of u.scope (u.caller env)) later (u.width env.settings) =
      Attempts.window env.floats (plain.of u.scope (u.caller env)) later
        (u.width env.settings) := by
  simp only [Attempts.window, agree u covered later le]

/-- A check that a sweep covers, or whose budget no history can reach, ends alike. -/
theorem Agree.outcome (agree : Agree env now swept plain) (le : now ≤ later)
    (kept : swept.WellKept now) (kept' : plain.WellKept now) {u : LimiterUse}
    (fair : u.width env.settings ≤ widestWindow env.settings ∨
      maxTimestampsPerCaller ≤ u.limit env.settings) :
    u.outcome env later swept = u.outcome env later plain := by
  have verdict : (u.recorded env later swept).1 = (u.recorded env later plain).1 := by
    rcases fair with covered | roomy
    · simp only [LimiterUse.recorded, Attempts.record, agree.window le covered]
    · have allowed : ∀ attempts : Attempts, attempts.WellKept now →
          (u.recorded env later attempts).1 = none := by
        intro attempts kept
        have short := (((kept u.scope (u.caller env)).mono le).window env.floats
          (u.width env.settings)).short
        exact if_pos (short.trans roomy)
      rw [allowed swept kept, allowed plain kept']
  rw [LimiterUse.outcome, LimiterUse.outcome, verdict]

theorem Agree.recorded (agree : Agree env now swept plain) (le : now ≤ later) (u : LimiterUse) :
    Agree env later (u.recorded env later swept).2 (u.recorded env later plain).2 := by
  intro v covered last le'
  simp only [LimiterUse.recorded, Attempts.of_record]
  by_cases same : u.scope = v.scope ∧ u.caller env = v.caller env
  · rw [if_pos same, if_pos same]
    have width : u.width env.settings = v.width env.settings := LimiterUse.width_congr same.1
    rw [agree.window le (width ▸ covered)]
  · rw [if_neg same, if_neg same]
    exact agree v covered last (le.trans le')

theorem Agree.reset (agree : Agree env now swept plain) (u : LimiterUse) :
    Agree env now (swept.reset u.scope (u.caller env)) (plain.reset u.scope (u.caller env)) := by
  intro v covered last le
  simp only [Attempts.of_reset]
  split
  · rfl
  · exact agree v covered last le

/-- What a sweep forgets is outside of every window that it covers. -/
theorem Agree.purgeExpired (agree : Agree env now swept plain) (kept : swept.WellKept now)
    (le : now ≤ later) :
    Agree env later
      (swept.purgeExpired (env.floats.sub later (widestWindow env.settings))).2 plain := by
  intro u covered last le'
  rw [← agree u covered last (le.trans le')]
  rw [Attempts.of_purgeExpired]
  split
  · rename_i expired
    symm
    apply Attempts.evictBefore_expired
    intro t member
    have last : ∀ t ∈ (swept.of u.scope (u.caller env)).getLast?,
        t ≤ env.floats.sub later (widestWindow env.settings) := by
      intro t newest
      rw [show (swept.of u.scope (u.caller env)).getLast? = some t from newest] at expired
      exact of_decide_eq_true expired
    exact ((kept u.scope (u.caller env)).expired last t member).trans
      (Rounding.sub_le_sub le' covered)
  · rfl

end Simulation

/-- Where every check is covered by the sweeps, or has a budget that no history can
reach, the sweeps cannot be seen. -/
theorem sweeps_unseen (fair : ∀ u : LimiterUse, u.width env.settings ≤ widestWindow env.settings ∨
      maxTimestampsPerCaller ≤ u.limit env.settings) {w v : World} {steps rest : List Limited}
    (sequence : Sequence env w steps) (without : Sequence env v rest)
    (agree : Agree env w.monotonic w.attempts v.attempts) (behind : v.monotonic ≤ w.monotonic)
    (kept : w.attempts.WellKept w.monotonic) (kept' : v.attempts.WellKept v.monotonic)
    (same : rest.map Limited.asked = (steps.filter (!·.isSweep)).map Limited.asked) :
    rest = steps.filter (!·.isSweep) := by
  induction sequence generalizing v rest with
  | nil w =>
      rw [List.filter_nil, List.map_nil, List.map_eq_nil_iff] at same
      rw [same, List.filter_nil]
  | @checked w m u r steps exec later onward ih =>
      obtain ⟨rfl, after⟩ := LimiterUse.check_exec exec
      cases without with
      | @checked _ m' u' r' rest exec' later' onward' =>
          obtain ⟨rfl, after'⟩ := LimiterUse.check_exec exec'
          simp only [Limited.isSweep, List.filter_cons, Bool.not_false, if_true, List.map_cons,
            List.cons.injEq, Limited.asked, Limited.checked.injEq, and_true] at same ⊢
          obtain ⟨⟨rfl, reading⟩, same⟩ := same
          have outcome := agree.outcome later kept (kept'.mono behind) (fair u')
          rw [reading, ← outcome]
          refine ⟨⟨rfl, rfl, rfl⟩, ih onward' ?_ ?_ ?_ ?_ same⟩
          · rw [after, after', reading]
            exact agree.recorded later u'
          · exact reading.le
          · rw [after]
            exact kept.recorded later u'
          · rw [after']
            exact kept'.recorded later' u'
      | nil => simp [Limited.isSweep] at same
      | forgot => simp [Limited.isSweep, Limited.asked] at same
      | swept => simp [Limited.isSweep, Limited.asked] at same
  | @forgot w m u r steps exec onward ih =>
      have after := LimiterUse.forget_exec exec
      cases without with
      | @forgot _ m' u' r' rest exec' onward' =>
          have after' := LimiterUse.forget_exec exec'
          simp only [Limited.isSweep, List.filter_cons, Bool.not_false, if_true, List.map_cons,
            List.cons.injEq, Limited.asked, Limited.forgot.injEq] at same ⊢
          obtain ⟨rfl, same⟩ := same
          refine ⟨rfl, ih onward' ?_ ?_ ?_ ?_ same⟩
          · rw [after, after']
            exact agree.reset u'
          · rw [after, after']
            exact behind
          · rw [after]
            exact kept.reset _ _
          · rw [after']
            exact kept'.reset _ _
      | nil => simp [Limited.isSweep] at same
      | checked => simp [Limited.isSweep, Limited.asked] at same
      | swept => simp [Limited.isSweep, Limited.asked] at same
  | @swept w m r steps exec later onward ih =>
      have after := sweepOnce_exec exec
      simp only [Limited.isSweep, List.filter_cons, Bool.not_true, Bool.false_eq_true, if_false]
        at same ⊢
      apply ih without ?_ (behind.trans later) ?_ kept' same
      · rw [after]
        exact agree.purgeExpired kept later
      · rw [after]
        exact kept.purgeExpired later _

/-! ## A sweep that is seen -/

section Seen

variable (env)

/-- The world in which `n` mails to one address were counted at the reading `0`. -/
def mailed (u : LimiterUse) : Nat → World
  | 0 => Scenario.worldOf Db.empty
  | n + 1 => { mailed u n with
      monotonic := 0, attempts := (u.recorded env 0 (mailed u n).attempts).2 }

variable {env} {u : LimiterUse}

/-- The window of a caller whose attempts at `0` have not expired. -/
theorem window_replicate {floats : Rounding} {n : Nat} {now width : Instant}
    (inside : now < width) (short : n < maxTimestampsPerCaller) :
    Attempts.window floats (List.replicate n 0) now width = List.replicate n 0 ++ [now] := by
  have whole : Attempts.evictBefore (List.replicate n 0) (floats.sub now width) =
      List.replicate n 0 := by
    cases n with
    | zero => rfl
    | succ n =>
        have unexpired : ¬ (0 : Instant) ≤ floats.sub now width :=
          not_le.mpr (Rounding.sub_neg inside)
        rw [Attempts.evictBefore, List.replicate_succ, List.dropWhile_cons_of_neg]
        simpa using unexpired
  simp only [Attempts.window, whole]
  rw [if_neg]
  rw [List.length_append, List.length_replicate]
  exact Nat.not_lt.mpr short

theorem mailed_of (positive : 0 < u.width env.settings) {n : Nat}
    (short : n ≤ maxTimestampsPerCaller) :
    (mailed env u n).attempts.of u.scope (u.caller env) = List.replicate n 0 := by
  induction n with
  | zero => rfl
  | succ n ih =>
      rw [mailed, LimiterUse.recorded, Attempts.of_record, if_pos ⟨rfl, rfl⟩,
        ih (Nat.le_of_succ_le short), window_replicate positive short]
      exact List.replicate_succ'.symm

theorem mailed_monotonic (n : Nat) : (mailed env u n).monotonic = 0 := by
  cases n <;> rfl

/-- The checks that the budget allows, one after the other. -/
theorem mailed_sequence (positive : 0 < u.width env.settings)
    (few : u.limit env.settings < maxTimestampsPerCaller) {rest : List Limited} :
    ∀ n, n ≤ u.limit env.settings → Sequence env (mailed env u n) rest →
      Sequence env (mailed env u 0) (List.replicate n (.checked u 0 (.ok ())) ++ rest) := by
  intro n
  induction n generalizing rest with
  | zero => exact fun _ onward => onward
  | succ n ih =>
      intro inside onward
      have held := mailed_of positive (show n ≤ maxTimestampsPerCaller by omega)
      have allowed : u.outcome env 0 (mailed env u n).attempts = .ok () := by
        rw [LimiterUse.outcome, checkAnswer_eq_ok, LimiterUse.recorded, Attempts.record, held]
        apply if_pos
        rw [window_replicate positive (by omega), List.length_append, List.length_replicate]
        exact inside
      have ran : Exec (u.check env) _ _ _ :=
        LimiterUse.check_runs u (mailed env u n) (Scenario.given 0 "")
      have shown : (Scenario.given 0 "").monotonic = 0 := rfl
      rw [shown, allowed] at ran
      have here : Sequence env (mailed env u n) (.checked u 0 (.ok ()) :: rest) :=
        .checked ran (mailed_monotonic n).le onward
      have before := ih (Nat.le_of_succ_le inside) here
      rw [List.replicate_succ', List.append_assoc]
      exact before

/-- A budget that is used up is refused while the window lasts. -/
theorem mailed_refused (positive : 0 < u.width env.settings)
    (few : u.limit env.settings < maxTimestampsPerCaller) {now : Instant}
    (inside : now < u.width env.settings) :
    u.outcome env now (mailed env u (u.limit env.settings)).attempts ≠ .ok () := by
  have held := mailed_of positive few.le
  have spent : ¬ (Attempts.window env.floats (List.replicate (u.limit env.settings) 0) now
      (u.width env.settings)).length ≤ u.limit env.settings := by
    rw [window_replicate inside few, List.length_append, List.length_replicate]
    exact Nat.not_succ_le_self _
  rw [Ne, LimiterUse.outcome, checkAnswer_eq_ok, LimiterUse.recorded, Attempts.record, held]
  intro allowed
  cases (if_neg spent).symm.trans allowed

theorem forgotten_allowed (some : 0 < u.limit env.settings) {attempts : Attempts}
    (forgotten : attempts.of u.scope (u.caller env) = []) (now : Instant) :
    u.outcome env now attempts = .ok () := by
  rw [LimiterUse.outcome, checkAnswer_eq_ok, LimiterUse.recorded, Attempts.record, forgotten]
  exact if_pos some

/-- What was counted at `0` is forgotten by a sweep once the widest window has passed. -/
theorem mailed_forgotten (positive : 0 < u.width env.settings) {n : Nat}
    (short : n ≤ maxTimestampsPerCaller) {w' : World} {r : Except Error SweepResult}
    (swept : Exec (AccountService.sweepOnce env) (mailed env u n) r w')
    (reading : w'.monotonic = widestWindow env.settings) :
    w'.attempts.of u.scope (u.caller env) = [] := by
  rw [sweepOnce_exec swept, reading, Attempts.of_purgeExpired, mailed_of positive short,
    Rounding.sub_self]
  apply if_pos
  cases n with
  | zero => rfl
  | succ n => simp [List.getLast?_replicate]

theorem sweep_seen (address : String)
    (wide : widestWindow env.settings < env.settings.emailWindowSeconds)
    (few : env.settings.maxMessagesPerAddressPerWindow < maxTimestampsPerCaller) :
    ¬ SweepInvisible env := by
  generalize hu : LimiterUse.mail address = u
  have width : u.width env.settings = env.settings.emailWindowSeconds := by
    rw [← hu]
    rfl
  have limit : u.limit env.settings = env.settings.maxMessagesPerAddressPerWindow := by
    rw [← hu]
    rfl
  have some : 0 < u.limit env.settings := by
    rw [limit]
    exact env.settings.attempts_pos.2.2.2
  rw [← width] at wide
  rw [← limit] at few
  have passes : 0 < widestWindow env.settings := lt_max_of_lt_right env.settings.windows_pos.2.2.1
  have positive : 0 < u.width env.settings := passes.trans wide
  let m := u.limit env.settings
  let later := widestWindow env.settings
  have start : (mailed env u m).monotonic = 0 := mailed_monotonic m
  obtain ⟨r, w', swept, reading⟩ : ∃ r w', Exec (AccountService.sweepOnce env) (mailed env u m) r w' ∧
      w'.monotonic = later := sweepOnce_runs (mailed env u m) (Scenario.given later "")
  have allowed := forgotten_allowed some (mailed_forgotten positive few.le swept reading) later
  have plainly : Sequence env (mailed env u m)
      [.checked u later (u.outcome env later (mailed env u m).attempts)] :=
    .checked (LimiterUse.check_runs u (mailed env u m) (Scenario.given later ""))
      (start.le.trans passes.le) (.nil _)
  have sweeping : Sequence env (mailed env u m) [.swept, .checked u later (.ok ())] := by
    have ran : Exec (u.check env) _ _ _ := LimiterUse.check_runs u w' (Scenario.given later "")
    rw [show (Scenario.given later "").monotonic = later from rfl, allowed] at ran
    have second : Sequence env w' [.checked u later (.ok ())] := .checked ran reading.le (.nil _)
    rw [show later = w'.monotonic from reading.symm] at second ⊢
    exact .swept swept (start.le.trans (passes.le.trans reading.ge)) second
  intro invisible
  have same := invisible _ _ _ rfl (mailed_sequence positive few m le_rfl sweeping)
    (mailed_sequence positive few m le_rfl plainly) (by simp [Limited.asked, Limited.isSweep])
  have kept : (List.replicate m (Limited.checked u 0 (.ok ()))).filter (!·.isSweep) =
      List.replicate m (Limited.checked u 0 (.ok ())) := by simp [Limited.isSweep]
  rw [List.filter_append, kept, List.append_cancel_left_eq] at same
  simp only [Limited.isSweep, List.filter_cons, Bool.not_true, Bool.not_false, if_true,
    Bool.false_eq_true, if_false, List.filter_nil, List.cons.injEq, Limited.checked.injEq] at same
  exact mailed_refused positive few wide same.1.2.2

end Seen

/-- Sweeping is invisible to the limiter exactly when the window of the mail cap is no
wider than the widest of the others, or the cap is more than is ever counted. -/
theorem sweep_invisible_iff (env : Env) :
    SweepInvisible env ↔
      env.settings.emailWindowSeconds ≤ widestWindow env.settings ∨
        maxTimestampsPerCaller ≤ env.settings.maxMessagesPerAddressPerWindow := by
  constructor
  · intro invisible
    by_contra neither
    rw [not_or, not_le, not_le] at neither
    exact sweep_seen "" neither.1 neither.2 invisible
  · intro fair w steps plain fresh sequence without same
    have every : ∀ u : LimiterUse, u.width env.settings ≤ widestWindow env.settings ∨
        maxTimestampsPerCaller ≤ u.limit env.settings := by
      intro u
      cases u with
      | login caller => exact Or.inl ((le_max_left _ _).trans (le_max_left _ _))
      | redeemInvite caller => exact Or.inl (le_max_right _ _)
      | reset caller => exact Or.inl ((le_max_right _ _).trans (le_max_left _ _))
      | mail address => exact fair
    have kept : w.attempts.WellKept w.monotonic := by
      rw [fresh]
      exact fun _ _ => Attempts.kept_nil _
    exact sweeps_unseen every sequence without (fun _ _ _ _ => rfl) le_rfl kept kept same

/-! ## A mail cap of a day -/

namespace Scenario

/-- The deployment with a mail window of a day. -/
def patientMail : Env :=
  { deployment with settings := { settings with
      emailWindowSeconds := seconds 86400
      windows_pos := by decide } }

end Scenario

/-- Five mails, a sweep an hour later, and a sixth mail that the cap should refuse. -/
theorem sweep_seen_patientMail : ¬ SweepInvisible Scenario.patientMail :=
  sweep_seen "bob@mail.org" (by decide) (by decide)

end Keyring

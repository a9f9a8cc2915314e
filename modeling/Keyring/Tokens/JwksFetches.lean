import Mathlib.Algebra.Order.Group.Int
import Mathlib.Logic.Function.Basic
import Keyring.Interleave.Sections
import Keyring.Pacing
import Keyring.Python.Floats
import Keyring.Tokens.Jwks

/-!
# The fetches of the client's key set

Three timers stand between a flood of tokens and a flood of fetches: the age of
what is held, the floor after a failure, and the window that an unknown key id has
to take.  Under the lock every fetch that has ended is behind one of the first two;
one that a fresh key set did not prevent has taken the third.
-/

set_option autoImplicit false

namespace Keyring

open Interleave FixedPrecision

namespace JwksClient

variable {library : KeySets} {settings : JwksSettings}

/-! ## What is noted of a run -/

/-- A fetch: the reading of the clock that it started at, whether its caller had
just found a fresh key set, and the reading at which the caller took its window. -/
structure Fetch where
  start : Int
  provoked : Bool
  window : Option Int
  deriving DecidableEq

/-- What a caller has last found, and taken. -/
structure Seen where
  fresh : Bool
  window : Option Int

structure Account where
  seen : Nat → Seen
  fetches : List Fetch

def Account.empty : Account := ⟨fun _ => ⟨false, none⟩, []⟩

def Account.note (g : Account) (e : Event (machine library settings)) : Account :=
  match e with
  | ⟨i, .freshKeys, held, _, _⟩ =>
      { g with seen := Function.update g.seen i { g.seen i with fresh := Option.isSome held } }
  | ⟨i, .claimRefetchWindow, true, _, s⟩ =>
      { g with seen := Function.update g.seen i { g.seen i with window := some (State.clock s) } }
  | ⟨i, .begin, asked, _, _⟩ =>
      { g with fetches := g.fetches ++ [⟨asked, (g.seen i).fresh, (g.seen i).window⟩] }
  | _ => g

/-- The fetches of a run, in order. -/
def fetches (tr : List (Event (machine library settings))) : List Fetch :=
  (tr.foldl Account.note Account.empty).fetches

/-- Callers of `key_for`, and the client they share. -/
def start (library : KeySets) (settings : JwksSettings) (clock : Int) (kids : List String) :
    Config (machine library settings) VerifyError library.Key :=
  ⟨State.new library clock, kids.map keyFor⟩

/-! ## What holds under the lock -/

theorem widens (settings : JwksSettings) : Pacing.Widens settings.Apart :=
  fun _ _ _ _ earlier later far => far.trans (JwksSettings.age_mono earlier later)

/-- The fetches so far are apart, but for those in windows of their own. -/
structure Paced (settings : JwksSettings) (fetches : List Fetch) : Prop where
  apart : fetches.Pairwise (Pacing.Apart Fetch.start Fetch.window settings.Apart)
  preceded : ∀ f ∈ fetches, Pacing.Preceded Fetch.start Fetch.window f
  provoked : ∀ f ∈ fetches, f.provoked = true → f.window ≠ none

/-- The windows that were taken are behind the last one. -/
def WindowsBehind (fetches : List Fetch) (s : State library) : Prop :=
  ∀ f ∈ fetches, ∀ w ∈ f.window, ∃ last, s.provokedAt = some last ∧ w ≤ last

/-- The fetch is behind the failure floor, or behind the age of what is held. -/
def Behind (s : State library) (f : Fetch) : Prop :=
  (∃ failed, s.failedAt = some failed ∧ f.start ≤ failed) ∨ (s.keys ≠ none ∧ f.start ≤ s.fetchedAt)

/-- Every fetch has ended. -/
structure Settled (settings : JwksSettings) (fetches : List Fetch) (s : State library) : Prop where
  paced : Paced settings fetches
  windows : WindowsBehind fetches s
  started : ∀ f ∈ fetches, f.start ≤ s.clock
  behind : ∀ f ∈ fetches, Behind s f

/-- A caller has found out why to fetch. -/
inductive Reason (settings : JwksSettings) (fetches : List Fetch) (s : State library) :
    Seen → Prop where
  | expired (old : s.keys = none ∨ settings.cacheSeconds ≤ settings.age s.fetchedAt s.clock) :
      Reason settings fetches s ⟨false, none⟩
  | provoked {w : Int} {fresh : Bool} (taken : s.provokedAt = some w) (past : w ≤ s.clock)
      (since : ∀ f ∈ fetches, f.start ≤ w ∧ ∀ w' ∈ f.window, settings.Apart w' w) :
      Reason settings fetches s ⟨fresh, some w⟩

/-- A fetch is under way. -/
structure Fetching (settings : JwksSettings) (asked : Int) (fetches : List Fetch)
    (s : State library) : Prop where
  paced : Paced settings fetches
  windows : WindowsBehind fetches s
  started : ∀ f ∈ fetches, f.start ≤ asked
  past : asked ≤ s.clock

theorem Settled.later {fetches : List Fetch} {s s' : State library} (later : Later s s')
    (settled : Settled settings fetches s) : Settled settings fetches s' := by
  obtain ⟨now, after, rfl⟩ := later
  exact ⟨settled.paced, settled.windows, fun f member => (settled.started f member).trans after,
    settled.behind⟩

theorem Settled.locked {fetches : List Fetch} {s : State library}
    (settled : Settled settings fetches s) (held : Bool) :
    Settled settings fetches { s with locked := held } :=
  ⟨settled.paced, settled.windows, settled.started, settled.behind⟩

theorem Reason.later {fetches : List Fetch} {s s' : State library} {seen : Seen}
    (later : Later s s') (reason : Reason settings fetches s seen) :
    Reason settings fetches s' seen := by
  obtain ⟨now, after, rfl⟩ := later
  cases reason with
  | expired old =>
      exact .expired (old.imp_right fun aged => aged.trans (JwksSettings.age_mono le_rfl after))
  | provoked taken past since => exact .provoked taken (past.trans after) since

theorem Fetching.later {asked : Int} {fetches : List Fetch} {s s' : State library}
    (later : Later s s') (fetching : Fetching settings asked fetches s) :
    Fetching settings asked fetches s' := by
  obtain ⟨now, after, rfl⟩ := later
  exact ⟨fetching.paced, fetching.windows, fetching.started, fetching.past.trans after⟩

theorem settled_new (clock : Int) : Settled settings [] (State.new library clock) := by
  refine ⟨⟨List.Pairwise.nil, by simp, by simp⟩, by simp [WindowsBehind], by simp, by simp⟩

/-! ## Steps of a section -/

/-- The failure floor has passed. -/
def FloorPassed (settings : JwksSettings) (s : State library) : Prop :=
  ∀ failed, s.failedAt = some failed → settings.Apart failed s.clock

theorem Reason.apart {fetches : List Fetch} {s : State library} {seen : Seen} {asked : Int}
    (reason : Reason settings fetches s seen)
    (patient : settings.minRefetchSeconds ≤ settings.cacheSeconds)
    (settled : Settled settings fetches s) (passed : FloorPassed settings s)
    (now : s.clock ≤ asked) :
    ∀ f ∈ fetches, Pacing.Apart Fetch.start Fetch.window settings.Apart f
      ⟨asked, seen.fresh, seen.window⟩ := by
  intro f member
  have started := settled.started f member
  cases reason with
  | expired old =>
      refine ⟨started.trans now, Or.inl ?_, by simp⟩
      rcases settled.behind f member with ⟨failed, floor, before⟩ | ⟨held, before⟩
      · exact widens settings _ _ _ _ before now (passed failed floor)
      · have aged : settings.Apart s.fetchedAt s.clock := patient.trans (old.resolve_left held)
        exact widens settings _ _ _ _ before now aged
  | provoked taken past since =>
      obtain ⟨before, apart⟩ := since f member
      refine ⟨started.trans now, Or.inr ⟨_, rfl, before⟩, ?_⟩
      intro w' window w same
      cases same
      exact apart w' window

theorem Paced.snoc {fetches : List Fetch} {f : Fetch} (paced : Paced settings fetches)
    (apart : ∀ f' ∈ fetches,
      Pacing.Apart Fetch.start Fetch.window settings.Apart f' f)
    (preceded : Pacing.Preceded Fetch.start Fetch.window f)
    (provoked : f.provoked = true → f.window ≠ none) : Paced settings (fetches ++ [f]) where
  apart := by
    simp only [List.pairwise_append, List.pairwise_singleton, List.mem_singleton, forall_eq,
      true_and]
    exact ⟨paced.apart, apart⟩
  preceded := by
    simp only [List.forall_mem_append, List.forall_mem_singleton]
    exact ⟨paced.preceded, preceded⟩
  provoked := by
    simp only [List.forall_mem_append, List.forall_mem_singleton]
    exact ⟨paced.provoked, provoked⟩

theorem Reason.fetching {fetches : List Fetch} {s : State library} {seen : Seen} {asked : Int}
    (reason : Reason settings fetches s seen)
    (patient : settings.minRefetchSeconds ≤ settings.cacheSeconds)
    (settled : Settled settings fetches s) (passed : FloorPassed settings s)
    (now : s.clock ≤ asked) :
    Fetching settings asked (fetches ++ [⟨asked, seen.fresh, seen.window⟩])
      { s with clock := asked } where
  paced := by
    refine settled.paced.snoc (reason.apart patient settled passed now) ?_ ?_
    · cases reason with
      | expired old => simp [Pacing.Preceded]
      | provoked taken past since =>
          rintro w ⟨⟩
          exact past.trans now
    · cases reason with
      | expired old => simp
      | provoked taken past since => simp
  windows := by
    simp only [WindowsBehind, List.forall_mem_append, List.forall_mem_singleton]
    refine ⟨settled.windows, ?_⟩
    cases reason with
    | expired old => simp
    | provoked taken past since =>
        rintro w ⟨⟩
        exact ⟨_, taken, le_refl _⟩
  started := by
    simp only [List.forall_mem_append, List.forall_mem_singleton, le_refl, and_true]
    exact fun f member => (settled.started f member).trans now
  past := le_refl _

theorem Fetching.kept {asked : Int} {fetches : List Fetch} {s : State library}
    (fetching : Fetching settings asked fetches s) (keySet : library.KeySet) :
    Settled settings fetches
      { s with keys := some keySet, fetchedAt := asked, failedAt := none } where
  paced := fetching.paced
  windows := fetching.windows
  started f member := (fetching.started f member).trans fetching.past
  behind f member := Or.inr ⟨Option.some_ne_none _, fetching.started f member⟩

theorem Fetching.failed {asked now : Int} {fetches : List Fetch} {s : State library}
    (fetching : Fetching settings asked fetches s) (after : s.clock ≤ now) :
    Settled settings fetches { s with failedAt := some now, clock := now } where
  paced := fetching.paced
  windows := fetching.windows
  started f member := ((fetching.started f member).trans fetching.past).trans after
  behind f member := Or.inl ⟨now, rfl, ((fetching.started f member).trans fetching.past).trans after⟩

/-- A window that is taken is behind none. -/
theorem Settled.claimed {fetches : List Fetch} {s : State library} {now : Int}
    (settled : Settled settings fetches s) (after : s.clock ≤ now)
    (free : withinFloor settings s.provokedAt now = false) (fresh : Bool) :
    Settled settings fetches { s with provokedAt := some now, clock := now } ∧
      Reason settings fetches { s with provokedAt := some now, clock := now } ⟨fresh, some now⟩ := by
  have apart : ∀ f ∈ fetches, ∀ w ∈ f.window, settings.Apart w now ∧ w ≤ now := by
    intro f member w taken
    obtain ⟨last, known, before⟩ := settled.windows f member w taken
    have start := settled.paced.preceded f member w taken
    have started := settled.started f member
    simp only [known, withinFloor, decide_eq_false_iff_not, not_lt] at free
    exact ⟨widens settings _ _ _ _ before le_rfl free, by omega⟩
  refine ⟨⟨settled.paced, ?_, fun f member => (settled.started f member).trans after,
    settled.behind⟩, ?_⟩
  · exact fun f member w taken => ⟨now, rfl, (apart f member w taken).2⟩
  · refine .provoked rfl (le_refl _) fun f member => ?_
    exact ⟨(settled.started f member).trans after, fun w taken => (apart f member w taken).1⟩

/-! ## The section of a caller -/

def Idle (g : Account) (s : State library) (g' : Account) (s' : State library) : Prop :=
  g'.fetches = g.fetches ∧ Later s s'

theorem note_seen {i : Nat} {g : Account} {e : Event (machine library settings)}
    (other : e.thread ≠ i) : (g.note e).seen i = g.seen i := by
  unfold Account.note
  split
  · exact Function.update_of_ne (Ne.symm other) _ _
  · exact Function.update_of_ne (Ne.symm other) _ _
  · rfl
  · rfl

def shared (library : KeySets) (settings : JwksSettings) :
    Shared (machine library settings) Account Seen where
  lock := lock library settings
  note := Account.note
  own i g := g.seen i
  known e := State.clock e.before ≤ State.clock e.after
  quiet o := o = .freshKeys
  idle := Idle
  inv g s := Settled settings g.fetches s
  good g := Paced settings g.fetches
  note_own := note_seen
  idle_refl g s := ⟨rfl, .refl s⟩
  idle_trans first rest := ⟨rest.1.trans first.1, first.2.trans rest.2⟩
  quiet_idle := by
    rintro g ⟨i, o, held, s, t⟩ x quiet steady done
    obtain rfl : o = .freshKeys := quiet
    have done : exec settings .freshKeys x s = some (held, t) := done
    exact ⟨rfl, (State.younger_spec (Option.some.inj done) steady).1⟩
  quiet_gives := by
    rintro o rfl gives
    cases gives
  inv_idle idle settled := by
    rw [idle.1]
    exact settled.later idle.2
  good_idle idle paced := by
    rw [idle.1]
    exact paced
  inv_good settled := settled.paced

section Section

variable {i : Nat}

/-- The caller has not taken a window, and every fetch has ended. -/
def Looking (settings : JwksSettings) (i : Nat) (g : Account) (s : State library) : Prop :=
  Settled settings g.fetches s ∧ (g.seen i).window = none

/-- The caller has a reason to fetch. -/
def Ready (settings : JwksSettings) (i : Nat) (g : Account) (s : State library) : Prop :=
  Settled settings g.fetches s ∧ Reason settings g.fetches s (g.seen i)

/-- The caller ends its section. -/
def Ended (settings : JwksSettings) (g : Account) (s : State library) : Prop :=
  Settled settings g.fetches s

theorem looking_stable : Prog.Stable (shared library settings) i (Looking settings i) := by
  rintro g s g' s' own ⟨same, later⟩ ⟨settled, untaken⟩
  refine ⟨?_, ?_⟩
  · rw [same]
    exact settled.later later
  · exact (congrArg Seen.window own).trans untaken

theorem ready_stable : Prog.Stable (shared library settings) i (Ready settings i) := by
  rintro g s g' s' own ⟨same, later⟩ ⟨settled, reason⟩
  have own : g'.seen i = g.seen i := own
  change Settled settings g'.fetches s' ∧ Reason settings g'.fetches s' (g'.seen i)
  rw [same, own]
  exact ⟨settled.later later, reason.later later⟩

theorem ended_stable : Prog.Stable (shared library settings) i (Ended settings) := by
  rintro g s g' s' own ⟨same, later⟩ settled
  change Settled settings g'.fetches s'
  rw [same]
  exact settled.later later

theorem freshKeys_within {α : Type} {next : Option library.KeySet → Caller library settings α}
    {R : Except VerifyError α → Account → State library → Prop}
    (found : ∀ held, Prog.Within (shared library settings) i
      (fun g s => Looking settings i g s ∧ (g.seen i).fresh = held.isSome ∧
        (held = none → s.keys = none ∨ settings.cacheSeconds ≤ settings.age s.fetchedAt s.clock))
      (next held) R) :
    Prog.Within (shared library settings) i (Looking settings i)
      (ask .freshKeys >>= next) R := by
  refine Prog.Within.step looking_stable (by rintro ⟨⟩) (by rintro ⟨⟩) ?_ found
  rintro g s x held t ⟨settled, untaken⟩ done steady
  have done : exec settings .freshKeys x s = some (held, t) := done
  obtain ⟨later, old⟩ := State.younger_spec (Option.some.inj done) steady
  refine ⟨settled.paced, ⟨settled.later later, ?_⟩, ?_, old⟩
  · simpa [shared, Account.note] using untaken
  · simp [shared, Account.note]

theorem cached_within {kid : String} :
    Prog.Within (shared library settings) i (Looking settings i) (cached kid)
      (fun _ => Looking settings i) := by
  refine freshKeys_within fun held => ?_
  exact Prog.Within.done looking_stable fun g s here => here.1

theorem claimRefetchWindow_within :
    Prog.Within (shared library settings) i (Looking settings i) claimRefetchWindow
      (fun r => match r with
        | .ok _ => Ready settings i
        | .error _ => Ended settings) := by
  refine Prog.Within.step looking_stable (by rintro ⟨⟩) (by rintro ⟨⟩)
    (B := fun (taken : Bool) => if taken then Ready settings i else Ended settings) ?_ ?_
  · rintro g s x taken t ⟨settled, untaken⟩ done steady
    have done : exec settings .claimRefetchWindow x s = some (taken, t) := done
    have steady : s.clock ≤ t.clock := steady
    rcases exec_claimRefetchWindow done with ⟨rfl, rfl⟩ | ⟨rfl, free, rfl⟩
    · exact ⟨settled.paced, settled.later ⟨_, steady, rfl⟩⟩
    · obtain ⟨claimed, reason⟩ := settled.claimed steady free (g.seen i).fresh
      refine ⟨settled.paced, claimed, ?_⟩
      simpa [shared, Account.note] using reason
  · intro taken
    cases taken with
    | true => exact Prog.Within.done ready_stable fun g s here => here
    | false => exact Prog.Within.done ended_stable fun g s here => here

/-- The caller may fetch. -/
def Passed (settings : JwksSettings) (i : Nat) (g : Account) (s : State library) : Prop :=
  Ready settings i g s ∧ FloorPassed settings s

/-- The caller's request is out. -/
def Asking (settings : JwksSettings) (asked : Int) (g : Account) (s : State library) : Prop :=
  Fetching settings asked g.fetches s

theorem passed_stable : Prog.Stable (shared library settings) i (Passed settings i) := by
  rintro g s g' s' own idle ⟨ready, passed⟩
  refine ⟨ready_stable own idle ready, ?_⟩
  obtain ⟨-, now, after, rfl⟩ := idle
  exact fun failed known => (passed failed known).trans (JwksSettings.age_mono le_rfl after)

theorem asking_stable {asked : Int} :
    Prog.Stable (shared library settings) i (Asking settings asked) := by
  rintro g s g' s' own ⟨same, later⟩ fetching
  change Fetching settings asked g'.fetches s'
  rw [same]
  exact fetching.later later

theorem get_within {asked : Int} :
    Prog.Within (shared library settings) i (Asking settings asked) get
      (fun r g s => Asking settings asked g s ∧ ∀ e, r = .error e → e = unreachable) := by
  have stable : ∀ r : Except VerifyError Json, Prog.Stable (shared library settings) i
      (fun g s => Asking settings asked g s ∧ ∀ e, r = .error e → e = unreachable) :=
    fun r g s g' s' own idle here => ⟨asking_stable own idle here.1, here.2⟩
  refine Prog.Within.step asking_stable (by rintro ⟨⟩) (by rintro ⟨⟩)
    (B := fun _ => Asking settings asked) ?_ ?_
  · rintro g s x document t fetching ⟨⟩ steady
    exact ⟨fetching.paced, fetching⟩
  · intro document
    cases document with
    | none => exact Prog.Within.done (stable _) fun g s here => ⟨here, by rintro e ⟨⟩; rfl⟩
    | some document => exact Prog.Within.done (stable _) fun g s here => ⟨here, by rintro e ⟨⟩⟩

/-- A look at what can be served through an outage. -/
theorem staleKey_within {kid : String} :
    Prog.Within (shared library settings) i (Ended settings) (staleKey kid)
      (fun _ => Ended settings) := by
  refine Prog.Within.step ended_stable (by rintro ⟨⟩) (by rintro ⟨⟩)
    (B := fun _ => Ended settings) ?_ fun held => ?_
  · rintro g s x held t settled done steady
    have done : exec settings .usableStaleKeys x s = some (held, t) := done
    obtain ⟨later, -⟩ := State.younger_spec (Option.some.inj done) steady
    exact ⟨settled.paced, settled.later later⟩
  · exact Prog.Within.done ended_stable fun g s here => here

section Patient

variable (patient : settings.minRefetchSeconds ≤ settings.cacheSeconds)
include patient

/-- A fetch brings a key set, or is known to be under way when it fails. -/
theorem fetch_within :
    Prog.Within (shared library settings) i (Passed settings i) fetch
      (fun r g s => match r with
        | .ok _ => Ended settings g s
        | .error e => e = unreachable ∧ ∃ asked, Asking settings asked g s) := by
  have failing : ∀ e, Prog.Stable (shared library settings) i
      (fun g s => e = unreachable ∧ ∃ asked, Asking settings asked g s) := by
    rintro e g s g' s' own idle ⟨same, asked, fetching⟩
    exact ⟨same, asked, asking_stable own idle fetching⟩
  refine Prog.Within.step passed_stable (by rintro ⟨⟩) (by rintro ⟨⟩)
    (B := fun asked => Asking settings asked) ?_ fun asked => ?_
  · rintro g s x asked t ⟨⟨settled, reason⟩, passed⟩ done steady
    have done : exec settings .begin x s = some (asked, t) := done
    cases done
    have fetching := reason.fetching patient settled passed steady
    exact ⟨fetching.paced, fetching⟩
  · refine Prog.Within.bind get_within (fun document => ?_) ?_
    · cases parsed : (keySetOf document : Except VerifyError library.KeySet) with
      | error e =>
          exact Prog.Within.done (failing e) fun g s here => ⟨keySetOf_error parsed, asked, here.1⟩
      | ok keySet =>
          refine Prog.Within.step (fun g s g' s' own idle here => ?_) (by rintro ⟨⟩) (by rintro ⟨⟩)
            (B := fun _ => Ended settings) ?_ fun _ => ?_
          · exact ⟨asking_stable own idle here.1, here.2⟩
          · rintro g s x a t ⟨fetching, -⟩ ⟨⟩ steady
            exact ⟨fetching.paced, fetching.kept keySet⟩
          · exact Prog.Within.done ended_stable fun g s here => here
    · rintro e g s ⟨fetching, only⟩
      exact ⟨only e rfl, asked, fetching⟩

theorem refresh_within :
    Prog.Within (shared library settings) i (Ready settings i) refresh
      (fun _ => Ended settings) := by
  refine Prog.Within.step ready_stable (by rintro ⟨⟩) (by rintro ⟨⟩)
    (B := fun (recently : Bool) g s => Ready settings i g s ∧
      (recently = false → FloorPassed settings s)) ?_ fun (recently : Bool) => ?_
  · rintro g s x recently t ⟨settled, reason⟩ done steady
    have done : exec settings .failedRecently x s = some (recently, t) := done
    cases done
    have later : Later s { s with clock := x.monotonic } := ⟨_, steady, rfl⟩
    refine ⟨settled.paced, ⟨settled.later later, reason.later later⟩, fun passed failed known => ?_⟩
    have known : s.failedAt = some failed := known
    simp only [known, withinFloor, decide_eq_false_iff_not, not_lt] at passed
    exact passed
  · cases recently with
    | true => exact Prog.Within.done ended_stable fun g s here => here.1.1
    | false =>
        refine Prog.Within.tryCatch (fun g s here => fetch_within patient g s ⟨here.1, here.2 rfl⟩)
          (fun keySet g s here => here) fun e => ?_
        cases e with
        | keyringUnreachable message =>
            refine Prog.Within.step ?_ (by rintro ⟨⟩) (by rintro ⟨⟩)
              (B := fun _ => Ended settings) ?_ fun _ => ?_
            · rintro g s g' s' own idle ⟨same, asked, fetching⟩
              exact ⟨same, asked, asking_stable own idle fetching⟩
            · rintro g s x a t ⟨-, asked, fetching⟩ ⟨⟩ steady
              exact ⟨fetching.paced, fetching.failed steady⟩
            · exact Prog.Within.done ended_stable fun g s here => here
        | authentication message | raised error =>
            exact Prog.Within.done ended_stable fun g s here => by cases here.1

theorem refreshOrStale_within {kid : String} :
    Prog.Within (shared library settings) i (Ready settings i) (refreshOrStale kid)
      (fun _ => Ended settings) := by
  refine Prog.Within.tryCatch (R := fun _ => Ended settings)
    (Prog.Within.bind (refresh_within patient) (fun fetched => ?_) fun e g s here => here)
    (fun a g s here => here) fun e => ?_
  · exact Prog.Within.done ended_stable fun g s here => here
  · cases e with
    | keyringUnreachable message =>
        refine Prog.Within.bind (R := fun _ => Ended settings) staleKey_within (fun stale => ?_)
          fun e g s here => here
        cases stale with
        | none => exact Prog.Within.done ended_stable fun g s here => here
        | some key => exact Prog.Within.done ended_stable fun g s here => here
    | authentication message | raised error =>
        exact Prog.Within.done ended_stable fun g s here => here

theorem lookAgain_within {kid : String} :
    Prog.Within (shared library settings) i (Looking settings i) (lookAgain kid)
      (fun _ => Ended settings) := by
  refine Prog.Within.bind cached_within (fun found => ?_) fun e g s here => here.1
  cases found with
  | some key => exact Prog.Within.done ended_stable fun g s here => here.1
  | none =>
      refine freshKeys_within fun held => ?_
      cases held with
      | none =>
          intro g s ⟨⟨settled, untaken⟩, fresh, old⟩
          refine refreshOrStale_within patient g s ⟨settled, ?_⟩
          have seen : g.seen i = ⟨false, none⟩ := by
            cases here : g.seen i
            simp_all
          rw [seen]
          exact .expired (old rfl)
      | some held =>
          refine Prog.Within.bind (fun g s here => claimRefetchWindow_within g s here.1)
            (fun _ => ?_) fun e g s here => here
          exact refreshOrStale_within patient

end Patient

/-! ## Callers of `key_for` -/

/-- A look at the key set without the lock. -/
theorem cached_keeps {α : Type} {kid : String} {next : Option library.Key → Caller library settings α}
    {Q : Except VerifyError α → Account → Option (State library) → Prop} {g : Account}
    (untaken : (g.seen i).window = none)
    (each : ∀ found g', (g'.seen i).window = none →
      (next found).Keeps (shared library settings) i Q g' none) :
    (cached kid >>= next).Keeps (shared library settings) i Q g none := by
  refine Prog.Keeps.quiet rfl fun g' own x s held t done => each _ _ ?_
  have own : g'.seen i = g.seen i := own
  simpa [shared, Account.note, own] using untaken

theorem withLock_keeps {kid : String} {g : Account}
    (patient : settings.minRefetchSeconds ≤ settings.cacheSeconds)
    (untaken : (g.seen i).window = none) :
    (withLock (lookAgain kid) : Caller library settings _).Keeps (shared library settings) i
      (fun _ _ held => held = none) g none := by
  refine Prog.Keeps.locked rfl rfl ?_ (lookAgain_within patient) (fun _ => ended_stable) ?_
  · intro g' s x a t own settled done steady
    have own : g'.seen i = g.seen i := own
    have settled : Settled settings g'.fetches s := settled
    have done : exec settings .acquire x s = some (a, t) := done
    obtain ⟨-, rfl⟩ := exec_acquire done
    refine ⟨settled.paced, settled.locked true, ?_⟩
    change (g'.seen i).window = none
    rw [own, untaken]
  · rintro r g s x a t settled ⟨⟩ steady
    have settled : Settled settings g.fetches s := settled
    exact ⟨settled.locked false, fun _ _ => rfl⟩

theorem keyFor_keeps {kid : String} {g : Account}
    (patient : settings.minRefetchSeconds ≤ settings.cacheSeconds)
    (untaken : (g.seen i).window = none) :
    (keyFor kid : Caller library settings library.Key).Keeps (shared library settings) i
      (fun _ _ held => held = none) g none := by
  refine cached_keeps untaken fun found g' untaken => ?_
  have ends : ∀ (r : Except VerifyError library.Key) (g : Account) (held : Option (State library)),
      held = none → (Prog.done r : Caller library settings library.Key).Keeps
        (shared library settings) i (fun _ _ held => held = none) g held := by
    rintro r g held rfl
    exact Prog.Keeps.done fun _ _ => rfl
  cases found with
  | some key => exact ends _ _ _ rfl
  | none =>
      refine Prog.Keeps.bind (withLock_keeps patient untaken) ?_ fun e g held outside => outside
      intro found g held outside
      cases found with
      | inl key => exact ends _ _ _ outside
      | inr fetched =>
          dsimp only
          split
          · exact ends _ _ _ outside
          · exact ends _ _ _ outside

end Section

theorem fetches_paced {clock : Int} {kids : List String}
    {tr : List (Event (machine library settings))}
    {d : Config (machine library settings) VerifyError library.Key}
    (patient : settings.minRefetchSeconds ≤ settings.cacheSeconds)
    (run : Run (start library settings clock kids) tr d)
    (steady : ∀ e ∈ tr, State.clock e.before ≤ State.clock e.after) :
    Paced settings (fetches tr) := by
  have each : ∀ (i : Nat) (p : Caller library settings library.Key),
      (start library settings clock kids).pool[i]? = some p →
      p.Keeps (shared library settings) i (fun _ _ held => held = none) Account.empty none := by
    intro i p found
    simp only [start, List.getElem?_map, Option.map_eq_some_iff] at found
    obtain ⟨kid, -, rfl⟩ := found
    exact keyFor_keeps patient rfl
  obtain ⟨holder, ordered⟩ := run.keeps (S := shared library settings)
    (Q := fun _ _ _ held => held = none) (g := Account.empty) steady (settled_new clock) each
  exact ordered.good

/-! ## How many fetches -/

/-- The fetches that start from `t` on and while `t` is recent: in the half-open interval
of `min_refetch_seconds` that begins there, as the client computes ages. -/
def startedIn (settings : JwksSettings) (t : Int) (fetches : List Fetch) : List Fetch :=
  fetches.filter fun f => t ≤ f.start ∧ ¬ settings.Apart t f.start

/-- The fetches whose callers took their windows in it. -/
def windowsIn (settings : JwksSettings) (t : Int) (fetches : List Fetch) : List Fetch :=
  fetches.filter fun f => f.window.any fun w => t ≤ w ∧ ¬ settings.Apart t w

theorem Paced.provoked_windows {fetches : List Fetch} (paced : Paced settings fetches) :
    ∀ f ∈ fetches, f.provoked = true → ∃ w, f.window = some w ∧ w ≤ f.start := by
  intro f member provoked
  obtain ⟨w, taken⟩ := Option.ne_none_iff_exists'.mp (paced.provoked f member provoked)
  exact ⟨w, taken, paced.preceded f member w taken⟩

theorem length_provoked_le {fetches : List Fetch} {t : Int}
    (prompt : ∀ f ∈ fetches, f.provoked = true → f.window = some f.start) :
    ((startedIn settings t fetches).filter (·.provoked)).length ≤
      (windowsIn settings t fetches).length := by
  simp only [startedIn, windowsIn, List.filter_filter, ← List.countP_eq_length_filter]
  refine List.countP_mono_left fun f member counted => ?_
  simp only [Bool.and_eq_true, decide_eq_true_eq] at counted
  simpa [prompt f member counted.1] using counted.2

/-- In any half-open interval of `min_refetch_seconds` at most two fetches start, and at
most one of those that a fresh key set provoked has taken its window; the window is
taken before the fetch starts. -/
theorem flood_bounded {clock : Int} {kids : List String}
    {tr : List (Event (machine library settings))}
    {d : Config (machine library settings) VerifyError library.Key}
    (patient : settings.minRefetchSeconds ≤ settings.cacheSeconds)
    (run : Run (start library settings clock kids) tr d)
    (steady : ∀ e ∈ tr, State.clock e.before ≤ State.clock e.after) (t : Int) :
    (startedIn settings t (fetches tr)).length ≤ 2 ∧
      ((windowsIn settings t (fetches tr)).filter (·.provoked)).length ≤ 1 ∧
      (∀ f ∈ fetches tr, f.provoked = true → ∃ w, f.window = some w ∧ w ≤ f.start) ∧
      ((∀ f ∈ fetches tr, f.provoked = true → f.window = some f.start) →
        ((startedIn settings t (fetches tr)).filter (·.provoked)).length ≤ 1) := by
  have paced := fetches_paced patient run steady
  have windows : (windowsIn settings t (fetches tr)).length ≤ 1 :=
    Pacing.length_windows_le (widens settings) paced.apart t
  refine ⟨Pacing.length_starts_le (widens settings) paced.apart paced.preceded t, ?_, paced.provoked_windows, ?_⟩
  · exact (List.length_filter_le _ _).trans windows
  · exact fun prompt => (length_provoked_le prompt).trans windows

/-! ## A slow caller -/

def named : KeySets where
  KeySet := List String
  Key := String
  ofKeys keys :=
    match keys.filterMap fun
      | .obj fields => (Secret.get fields "kid").bind Json.asStr
      | _ => none with
    | [] => none
    | ids => some ids
  getItem ids kid := ids.find? (· = kid)

def hourly : JwksSettings where
  floats := .exact 1 (by decide)
  cacheSeconds := 3600
  minRefetchSeconds := 60
  staleGraceSeconds := 86400
  cache_number := rfl
  min_refetch_number := rfl

def published : Json := .obj [("keys", .arr [.obj [("kid", .str "current")]])]

/-- One caller's turns: the clock shows `now`, and `later` once the window is taken. -/
def turns (i : Nat) (now later : Int) (steps : Nat) : List (Nat × Input) :=
  List.replicate steps (i, ⟨now, none⟩) ++ List.replicate 4 (i, ⟨later, some published⟩)

/-- The first caller finds nothing, and the others a fresh key set; the second is held
up between its window and its fetch. -/
def heldUp : Config (machine named hourly) VerifyError String × List (Event (machine named hourly)) :=
  (start named hourly 0 ["current", "invented", "madeUp"]).play
    (turns 0 0 0 5 ++ turns 1 0 50 6 ++ turns 2 60 60 6)

theorem heldUp_run :
    Run (start named hourly 0 ["current", "invented", "madeUp"]) heldUp.2 heldUp.1 :=
  Config.play_run _ _

theorem heldUp_steady : ∀ e ∈ heldUp.2, State.clock e.before ≤ State.clock e.after := by
  decide

theorem fetches_heldUp :
    fetches heldUp.2 = [⟨0, false, none⟩, ⟨50, true, some 0⟩, ⟨60, true, some 60⟩] := by
  decide

theorem flood_bounded_heldUp :
    (startedIn hourly 0 (fetches heldUp.2)).length ≤ 2 ∧
      ((windowsIn hourly 0 (fetches heldUp.2)).filter (·.provoked)).length ≤ 1 := by
  have bounded := flood_bounded (by decide) heldUp_run heldUp_steady 0
  exact ⟨bounded.1, bounded.2.1⟩

/-! ## A floor that is rounded -/

/-- So many tenths of a second, as a double. -/
def tenths (n : Nat) : Int := (Number.ratio n 10 : Double).units

/-- The defaults, as doubles. -/
def hourlyDoubles : JwksSettings where
  floats := .ofFormat binary64
  cacheSeconds := tenths 36000
  minRefetchSeconds := tenths 600
  staleGraceSeconds := tenths 864000
  cache_number := by decide +kernel
  min_refetch_number := by decide +kernel

/-- One caller finds nothing, and two find a fresh key set, at 0.3 and at 60.3. -/
def minuteApart : Config (machine named hourlyDoubles) VerifyError String ×
    List (Event (machine named hourlyDoubles)) :=
  (start named hourlyDoubles 0 ["current", "invented", "madeUp"]).play
    (turns 0 (tenths 3) (tenths 3) 5 ++ turns 1 (tenths 3) (tenths 3) 6 ++
      turns 2 (tenths 603) (tenths 603) 6)

theorem minuteApart_run :
    Run (start named hourlyDoubles 0 ["current", "invented", "madeUp"]) minuteApart.2 minuteApart.1 :=
  Config.play_run _ _

theorem minuteApart_steady : ∀ e ∈ minuteApart.2, State.clock e.before ≤ State.clock e.after := by
  decide +kernel

/-- The fetches that start in the half-open interval of this width from `t` on. -/
def startedWithin (t width : Int) (fetches : List Fetch) : List Fetch :=
  fetches.filter fun f => t ≤ f.start ∧ f.start < t + width

/-- In a half-open interval whose ends are not rounded three fetches can start, because
the floor between the last two is; and two that a fresh key set provoked, when the clock
moves between a window and its fetch. -/
theorem claimed_bounds_fail :
    (¬ ∀ (library : KeySets) (settings : JwksSettings) (clock : Int) (kids : List String)
      (tr : List (Event (machine library settings)))
      (d : Config (machine library settings) VerifyError library.Key),
      settings.minRefetchSeconds ≤ settings.cacheSeconds →
      Run (start library settings clock kids) tr d →
      (∀ e ∈ tr, State.clock e.before ≤ State.clock e.after) → ∀ t,
        (startedWithin t settings.minRefetchSeconds (fetches tr)).length ≤ 2) ∧
    ¬ ∀ (library : KeySets) (settings : JwksSettings) (clock : Int) (kids : List String)
      (tr : List (Event (machine library settings)))
      (d : Config (machine library settings) VerifyError library.Key),
      settings.minRefetchSeconds ≤ settings.cacheSeconds →
      Run (start library settings clock kids) tr d →
      (∀ e ∈ tr, State.clock e.before ≤ State.clock e.after) → ∀ t,
        ((startedWithin t settings.minRefetchSeconds (fetches tr)).filter (·.provoked)).length ≤ 1 := by
  constructor
  · intro claimed
    have twice := claimed named hourlyDoubles 0 _ _ _ (by decide +kernel) minuteApart_run
      minuteApart_steady (tenths 3)
    have thrice : (startedWithin (tenths 3) (tenths 600) (fetches minuteApart.2)).length = 3 := by
      decide +kernel
    exact absurd (thrice.symm.trans_le twice) (by decide)
  · intro claimed
    have once := claimed named hourly 0 _ _ _ (by decide) heldUp_run heldUp_steady 10
    rw [fetches_heldUp] at once
    revert once
    decide

end JwksClient

end Keyring

import Keyring.Interleave.Exclusion
import Keyring.Rounding
import Keyring.Tokens.Client

/-!
# The client's key set

How a consuming service comes by the keys a token is verified with: when the
document of keys is fetched, and how long what was fetched is kept.  A caller runs
undisturbed between two awaits; every step here is one of its readings of the
clock, a turn at the lock, or the request itself.

The clock shows floats, counted in their unit, and an age is a rounded difference.
-/

set_option autoImplicit false

namespace Keyring

open Interleave

/-- What is used of `jwt.PyJWKSet`. -/
structure KeySets where
  KeySet : Type
  Key : Type
  /-- `none` where the constructor raises. -/
  ofKeys : List Json → Option KeySet
  /-- `none` where there is no such key. -/
  getItem : KeySet → String → Option Key

structure JwksSettings where
  floats : Rounding
  cacheSeconds : Int
  minRefetchSeconds : Int
  staleGraceSeconds : Int
  cache_number : floats.IsNumber cacheSeconds
  min_refetch_number : floats.IsNumber minRefetchSeconds

/-- How old something is, as the client computes it. -/
def JwksSettings.age (settings : JwksSettings) (since now : Int) : Int :=
  settings.floats.sub now since

theorem JwksSettings.age_mono {settings : JwksSettings} {since since' now now' : Int}
    (earlier : since' ≤ since) (later : now ≤ now') :
    settings.age since now ≤ settings.age since' now' :=
  Rounding.sub_le_sub later earlier

/-- The one is no longer recent at the other. -/
def JwksSettings.Apart (settings : JwksSettings) (since now : Int) : Prop :=
  settings.minRefetchSeconds ≤ settings.age since now

instance (settings : JwksSettings) : DecidableRel settings.Apart :=
  fun _ _ => inferInstanceAs (Decidable (_ ≤ _))

namespace JwksClient

def keysUnavailable : String := "keyring's signing keys could not be fetched"

def keysStale : String := "keyring could not be reached; tokens are verified against cached keys"

structure State (library : KeySets) where
  keys : Option library.KeySet
  fetchedAt : Int
  failedAt : Option Int
  provokedAt : Option Int
  locked : Bool
  /-- The last reading of the clock. -/
  clock : Int

/-- A client that was constructed when the clock showed `clock`. -/
def State.new (library : KeySets) (clock : Int) : State library :=
  ⟨none, 0, none, none, false, clock⟩

inductive Op (library : KeySets) where
  | freshKeys
  | usableStaleKeys
  | acquire
  | release
  /-- Whether the window was free, and now is taken. -/
  | claimRefetchWindow
  /-- Whether a fetch failed too recently. -/
  | failedRecently
  /-- `at = self._clock.monotonic()`, and the request goes out. -/
  | begin
  | get
  | keep (keySet : library.KeySet) (asked : Int)
  | fail

def Op.Ans {library : KeySets} : Op library → Type
  | .freshKeys | .usableStaleKeys => Option library.KeySet
  | .acquire | .release | .keep _ _ | .fail => Unit
  | .claimRefetchWindow | .failedRecently => Bool
  | .begin => Int
  | .get => Option Json

/-- What the clock shows, and the document that a request is answered with, if it is. -/
structure Input where
  monotonic : Int
  document : Option Json

variable {library : KeySets} (settings : JwksSettings)

def State.younger (limit : Int) (x : Input) (s : State library) :
    Option library.KeySet × State library :=
  match s.keys with
  | none => (none, s)
  | some held =>
      (if settings.age s.fetchedAt x.monotonic ≥ limit then none else some held,
        { s with clock := x.monotonic })

def withinFloor (since : Option Int) (now : Int) : Bool :=
  match since with
  | none => false
  | some since => settings.age since now < settings.minRefetchSeconds

def exec : (o : Op library) → Input → State library → Option (o.Ans × State library)
  | .freshKeys, x, s => some (s.younger settings settings.cacheSeconds x)
  | .usableStaleKeys, x, s =>
      some (s.younger settings
        (settings.floats.add settings.cacheSeconds settings.staleGraceSeconds) x)
  | .acquire, _, s => if s.locked then none else some ((), { s with locked := true })
  | .release, _, s => some ((), { s with locked := false })
  | .claimRefetchWindow, x, s =>
      if withinFloor settings s.provokedAt x.monotonic
      then some (false, { s with clock := x.monotonic })
      else some (true, { s with provokedAt := some x.monotonic, clock := x.monotonic })
  | .failedRecently, x, s =>
      some (withinFloor settings s.failedAt x.monotonic, { s with clock := x.monotonic })
  | .begin, x, s => some (x.monotonic, { s with clock := x.monotonic })
  | .get, x, s => some (x.document, s)
  | .keep keySet asked, _, s =>
      some ((), { s with keys := some keySet, fetchedAt := asked, failedAt := none })
  | .fail, x, s => some ((), { s with failedAt := some x.monotonic, clock := x.monotonic })

def machine (library : KeySets) (settings : JwksSettings) : Machine where
  State := State library
  Op := Op library
  Ans := Op.Ans
  Input := Input
  exec := exec settings

abbrev Caller (library : KeySets) (settings : JwksSettings) (α : Type) :=
  Prog (machine library settings) VerifyError α

section Methods

variable {settings}

def ask (o : Op library) : Caller library settings o.Ans := Prog.perform (M := machine _ _) o

def cached (kid : String) : Caller library settings (Option library.Key) := do
  let held : Option library.KeySet ← ask .freshKeys
  return held.bind (library.getItem · kid)

def staleKey (kid : String) : Caller library settings (Option library.Key) := do
  let held : Option library.KeySet ← ask .usableStaleKeys
  return held.bind (library.getItem · kid)

def claimRefetchWindow : Caller library settings Unit := do
  let taken : Bool ← ask .claimRefetchWindow
  if taken then return () else throw (.authentication TokenVerifier.badToken)

def unreachable : VerifyError := .keyringUnreachable keysUnavailable

def get : Caller library settings Json := do
  let response : Option Json ← ask .get
  match response with
  | none => throw unreachable
  | some document => return document

def keySetOf (document : Json) : Except VerifyError library.KeySet :=
  match document with
  | .obj fields => match Secret.get fields "keys" with
      | some (.arr keys) => match library.ofKeys keys with
          | some keySet => .ok keySet
          | none => .error unreachable
      | _ => .error unreachable
  | _ => .error unreachable

def fetch : Caller library settings library.KeySet := do
  let asked : Int ← ask .begin
  let document ← get
  let keySet ← Prog.ofExcept (keySetOf document)
  ask (.keep keySet asked)
  return keySet

def refresh : Caller library settings library.KeySet := do
  let recently : Bool ← ask .failedRecently
  if recently then throw unreachable
  else
    tryCatch fetch fun
      | .keyringUnreachable message => do
          ask .fail
          throw (.keyringUnreachable message)
      | e => throw e

/-- `async with self._lock` -/
def withLock {α : Type} (body : Caller library settings α) : Caller library settings α := do
  ask .acquire
  body.finallyDo (M := machine _ _) .release

/-- `try: fetched = await self._refresh()  except: ...`, which returns a key, or goes on
with the key set that was fetched. -/
def refreshOrStale (kid : String) :
    Caller library settings (library.Key ⊕ library.KeySet) :=
  tryCatch (return .inr (← refresh)) fun
    | .keyringUnreachable message => do
        match ← staleKey kid with
        | none => throw (.keyringUnreachable message)
        | some stale => return .inl stale
    | e => throw e

/-- What `key_for` does under the lock. -/
def lookAgain (kid : String) : Caller library settings (library.Key ⊕ library.KeySet) := do
  match ← cached kid with
  | some key => return .inl key
  | none =>
      let held : Option library.KeySet ← ask .freshKeys
      if held.isSome then claimRefetchWindow
      refreshOrStale kid

def keyFor (kid : String) : Caller library settings library.Key := do
  match ← cached kid with
  | some key => return key
  | none => match ← withLock (lookAgain kid) with
      | .inl key => return key
      | .inr fetched => match library.getItem fetched kid with
          | none => throw (.authentication TokenVerifier.badToken)
          | some key => return key

def staleHealth : Caller library settings (Bool × Option String) := do
  let held : Option library.KeySet ← ask .usableStaleKeys
  if held.isSome then return (true, some keysStale)
  else return (false, some keysUnavailable)

def healthy : Caller library settings (Bool × Option String) := do
  let held : Option library.KeySet ← ask .freshKeys
  if held.isSome then return (true, none)
  else
    -- What `_refresh` brings is not looked at, and nothing is looked at before it.
    withLock <| tryCatch (do let _ ← refresh; return (true, none)) fun _ => staleHealth

/-- The two methods, as their callers ask for them. -/
inductive Call where
  | keyFor (kid : String)
  | healthy
  deriving DecidableEq

inductive Answer (library : KeySets) where
  | key (key : library.Key)
  | health (verifies : Bool) (problem : Option String)

def Call.program : Call → Caller library settings (Answer library)
  | .keyFor kid => do return .key (← JwksClient.keyFor kid)
  | .healthy => do
      let (verifies, problem) ← JwksClient.healthy
      return .health verifies problem

end Methods

/-- Nothing but the document is wrong with an answer that holds no keys. -/
theorem keySetOf_error {document : Json} {e : VerifyError}
    (failed : (keySetOf document : Except VerifyError library.KeySet) = .error e) : e = unreachable := by
  unfold keySetOf at failed
  split at failed
  · split at failed
    · split at failed <;> cases failed
      rfl
    · cases failed
      rfl
  · cases failed
    rfl

/-! ## The lock, and a step without it -/

variable {settings} {x : Input} {s t : State library}

/-- The lock is taken where it is free. -/
theorem exec_acquire {a : Unit} (done : exec settings .acquire x s = some (a, t)) :
    s.locked = false ∧ t = { s with locked := true } := by
  cases free : s.locked with
  | true => simp [exec, free] at done
  | false =>
      simp only [exec, free, Bool.false_eq_true, if_false] at done
      cases done
      exact ⟨rfl, rfl⟩

theorem exec_locked {o : Op library} {a : o.Ans} (done : exec settings o x s = some (a, t))
    (other : o ≠ .release) (held : s.locked = true) : t.locked = true := by
  cases o with
  | release => exact absurd rfl other
  | acquire => exact absurd held (by simp [(exec_acquire done).1])
  | freshKeys | usableStaleKeys =>
      simp only [exec, State.younger] at done
      split at done <;> cases done <;> exact held
  | claimRefetchWindow =>
      simp only [exec] at done
      split at done <;> cases done <;> exact held
  | _ =>
      cases done
      exact held

def lock (library : KeySets) (settings : JwksSettings) : Lock (machine library settings) where
  takes o := o = .acquire
  gives o := o = .release
  held s := State.locked s = true
  free := by
    rintro o x s a t done rfl held
    have done : exec settings .acquire x s = some (a, t) := done
    rw [(exec_acquire done).1] at held
    cases held
  taken := by
    rintro o x s a t done rfl
    have done : exec settings .acquire x s = some (a, t) := done
    rw [(exec_acquire done).2]
  kept := by
    intro o x s a t done other held
    have done : exec settings o x s = some (a, t) := done
    exact exec_locked done other held

theorem withinFloor_true {since : Option Int} {now : Int}
    (within : withinFloor settings since now = true) :
    ∃ start, since = some start ∧ settings.age start now < settings.minRefetchSeconds := by
  cases since with
  | none => cases within
  | some start =>
      simp only [withinFloor, decide_eq_true_eq] at within
      exact ⟨start, rfl, within⟩

theorem exec_failedRecently {recently : Bool}
    (done : exec settings .failedRecently x s = some (recently, t)) :
    recently = withinFloor settings s.failedAt x.monotonic ∧ t = { s with clock := x.monotonic } := by
  cases done
  exact ⟨rfl, rfl⟩

theorem exec_claimRefetchWindow {taken : Bool}
    (done : exec settings .claimRefetchWindow x s = some (taken, t)) :
    (taken = false ∧ t = { s with clock := x.monotonic }) ∨
      (taken = true ∧ withinFloor settings s.provokedAt x.monotonic = false ∧
        t = { s with provokedAt := some x.monotonic, clock := x.monotonic }) := by
  simp only [exec] at done
  split at done
  · cases done
    exact Or.inl ⟨rfl, rfl⟩
  · rename_i free
    cases done
    exact Or.inr ⟨rfl, by simpa using free, rfl⟩

def Op.Keeps : Op library → Prop
  | .keep _ _ => True
  | _ => False

/-- A step that keeps no key set leaves the one that is held. -/
theorem exec_keys {o : Op library} {a : o.Ans} (done : exec settings o x s = some (a, t))
    (other : ¬ o.Keeps) : t.keys = s.keys ∧ t.fetchedAt = s.fetchedAt := by
  cases o with
  | keep keySet asked => exact absurd trivial other
  | freshKeys | usableStaleKeys =>
      simp only [exec, State.younger] at done
      split at done <;> cases done <;> exact ⟨rfl, rfl⟩
  | acquire =>
      rw [(exec_acquire done).2]
      exact ⟨rfl, rfl⟩
  | claimRefetchWindow =>
      simp only [exec] at done
      split at done <;> cases done <;> exact ⟨rfl, rfl⟩
  | _ =>
      cases done
      exact ⟨rfl, rfl⟩

theorem exec_failedAt {o : Op library} {a : o.Ans} (done : exec settings o x s = some (a, t))
    (other : ¬ o.Keeps) (failing : o ≠ .fail) : t.failedAt = s.failedAt := by
  cases o with
  | keep keySet asked => exact absurd trivial other
  | fail => exact absurd rfl failing
  | freshKeys | usableStaleKeys =>
      simp only [exec, State.younger] at done
      split at done <;> cases done <;> rfl
  | acquire => rw [(exec_acquire done).2]
  | claimRefetchWindow =>
      simp only [exec] at done
      split at done <;> cases done <;> rfl
  | _ =>
      cases done
      rfl

/-- The clock has moved on, and nothing else. -/
def Later (s s' : State library) : Prop := ∃ now, s.clock ≤ now ∧ s' = { s with clock := now }

theorem Later.refl (s : State library) : Later s s := ⟨s.clock, le_refl _, rfl⟩

theorem Later.trans {s s' s'' : State library} (first : Later s s') (rest : Later s' s'') :
    Later s s'' := by
  obtain ⟨now, after, rfl⟩ := first
  obtain ⟨now', after', rfl⟩ := rest
  exact ⟨now', after.trans after', rfl⟩

theorem State.younger_cases {limit : Int} {held : Option library.KeySet}
    (looked : s.younger settings limit x = (held, t)) :
    (s.keys = none ∧ held = none ∧ t = s) ∨
      ∃ keySet, s.keys = some keySet ∧ t = { s with clock := x.monotonic } ∧
        ((held = none ∧ limit ≤ settings.age s.fetchedAt x.monotonic) ∨
          (held = some keySet ∧ settings.age s.fetchedAt x.monotonic < limit)) := by
  unfold State.younger at looked
  split at looked
  · rename_i nothing
    cases looked
    exact Or.inl ⟨nothing, rfl, rfl⟩
  · rename_i keySet known
    cases looked
    refine Or.inr ⟨keySet, known, rfl, ?_⟩
    by_cases old : settings.age s.fetchedAt x.monotonic ≥ limit
    · exact Or.inl ⟨if_pos old, old⟩
    · exact Or.inr ⟨if_neg old, not_le.mp old⟩

theorem State.younger_spec {limit : Int} {held : Option library.KeySet}
    (looked : s.younger settings limit x = (held, t)) (steady : s.clock ≤ t.clock) :
    Later s t ∧ (held = none → t.keys = none ∨ limit ≤ settings.age t.fetchedAt t.clock) := by
  rcases State.younger_cases looked with ⟨nothing, -, rfl⟩ | ⟨keySet, -, rfl, found⟩
  · exact ⟨.refl t, fun _ => Or.inl nothing⟩
  · refine ⟨⟨x.monotonic, steady, rfl⟩, fun absent => Or.inr ?_⟩
    rcases found with ⟨-, old⟩ | ⟨present, -⟩
    · exact old
    · cases present.symm.trans absent

end JwksClient

end Keyring

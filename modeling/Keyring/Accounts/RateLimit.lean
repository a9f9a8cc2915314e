import Keyring.Domain.Text
import Keyring.Relational.Table
import Keyring.Rounding

/-!
# The sliding window

Attempts by scope and caller, as readings of the monotonic clock: floats, in whose
arithmetic the window and the wait are computed.
-/

set_option autoImplicit false

namespace Keyring

open Relational

def maxTimestampsPerCaller : Nat := 128

structure AttemptRow where
  scope : String
  caller : String
  timestamps : List Instant

def AttemptRow.key (row : AttemptRow) : String × String := (row.scope, row.caller)

def AttemptRow.set (row : AttemptRow) (timestamps : List Instant) : AttemptRow :=
  { row with timestamps := timestamps }

theorem AttemptRow.set_key (row : AttemptRow) (timestamps : List Instant) :
    (row.set timestamps).key = row.key := rfl

abbrev Attempts := Table AttemptRow.key

namespace Attempts

variable (floats : Rounding)

def of (attempts : Attempts) (scope caller : String) : List Instant :=
  ((attempts.find? (scope, caller)).map (·.timestamps)).getD []

def evictBefore (timestamps : List Instant) (cutoff : Instant) : List Instant :=
  timestamps.dropWhile (· ≤ cutoff)

/-- The window after one more attempt; recorded before the verdict. -/
def window (timestamps : List Instant) (now width : Instant) : List Instant :=
  let kept := evictBefore timestamps (floats.sub now width) ++ [now]
  if kept.length > maxTimestampsPerCaller then kept.drop 1 else kept

/-- What a caller that is refused is told. -/
def wait (timestamps : List Instant) (now width : Instant) : Instant :=
  max (floats.sub width (floats.sub now (timestamps.headD now))) floats.one

/-- How long to wait, or `none` if the attempt is allowed. -/
def verdict (timestamps : List Instant) (now : Instant) (limit : Nat) (width : Instant) :
    Option Instant :=
  if timestamps.length ≤ limit then none else some (wait floats timestamps now width)

def record (attempts : Attempts) (scope caller : String) (now : Instant) (limit : Nat)
    (width : Instant) : Option Instant × Attempts :=
  let timestamps := window floats (attempts.of scope caller) now width
  (verdict floats timestamps now limit width,
    attempts.upsert ⟨scope, caller, timestamps⟩ (·.set timestamps) (·.set_key timestamps))

def reset (attempts : Attempts) (scope caller : String) : Attempts :=
  attempts.deleteWhere (·.key = (scope, caller))

def isDoomed (cutoff : Instant) (row : AttemptRow) : Bool :=
  row.timestamps.getLast?.all (· ≤ cutoff)

def purgeExpired (attempts : Attempts) (cutoff : Instant) : Nat × Attempts :=
  (attempts.countWhere (isDoomed cutoff), attempts.deleteWhere (isDoomed cutoff))

end Attempts

end Keyring

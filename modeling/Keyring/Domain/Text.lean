import Mathlib.Algebra.Group.Int.Defs
import Mathlib.Algebra.Group.Nat.Defs
import Mathlib.Data.List.Nodup
import Mathlib.Data.List.Sort

/-!
# Text, instants and stored values

Strings are Python's: `strip` removes what `str.isspace` accepts, and the
operations that need the Unicode tables take them from a `Text`.  An instant or
a duration is a number of microseconds.  A stored secret is a JSON object.
-/

set_option autoImplicit false

namespace Keyring

/-- The Unicode tables behind `str.lower`, `repr`, `str.isdigit` and `int`. -/
structure Text where
  lower : String → String
  isPrintable : Char → Bool
  isDigit : Char → Bool
  decimal : Char → Option Nat

/-- `str.isspace` of one character. -/
def isSpace (c : Char) : Bool :=
  (0x09 ≤ c.toNat && c.toNat ≤ 0x0d) || (0x1c ≤ c.toNat && c.toNat ≤ 0x20) ||
    c.toNat = 0x85 || c.toNat = 0xa0 || c.toNat = 0x1680 ||
    (0x2000 ≤ c.toNat && c.toNat ≤ 0x200a) || c.toNat = 0x2028 || c.toNat = 0x2029 ||
    c.toNat = 0x202f || c.toNat = 0x205f || c.toNat = 0x3000

def strip (s : String) : String :=
  String.ofList ((s.toList.dropWhile isSpace).reverse.dropWhile isSpace).reverse

def hexDigit (n : Nat) : Char := "0123456789abcdef".toList.getD n '0'

def hexDigits (width n : Nat) : List Char :=
  (List.range width).reverse.map fun i => hexDigit (n / 16 ^ i % 16)

/-- How `repr` writes one character between `quote`s. -/
def reprChar (text : Text) (quote c : Char) : List Char :=
  if c = quote || c = '\\' then ['\\', c]
  else if c = '\t' then ['\\', 't']
  else if c = '\n' then ['\\', 'n']
  else if c = '\r' then ['\\', 'r']
  else if c.toNat < 0x20 || c.toNat = 0x7f then ['\\', 'x'] ++ hexDigits 2 c.toNat
  else if c.toNat < 0x7f || text.isPrintable c then [c]
  else if c.toNat ≤ 0xff then ['\\', 'x'] ++ hexDigits 2 c.toNat
  else if c.toNat ≤ 0xffff then ['\\', 'u'] ++ hexDigits 4 c.toNat
  else ['\\', 'U'] ++ hexDigits 8 c.toNat

/-- `repr(s)`, the conversion that `!r` asks for in a message. -/
def repr (text : Text) (s : String) : String :=
  let quote := if s.toList.contains '\'' && !s.toList.contains '"' then '"' else '\''
  String.ofList ([quote] ++ s.toList.flatMap (reprChar text quote) ++ [quote])

def joinComma (names : List String) : String := ", ".intercalate names

/-- Microseconds, since the epoch or between two instants. -/
abbrev Instant := Int

def seconds (n : Int) : Instant := n * 1000000

/-- The first instant a `datetime` can hold in UTC. -/
def minInstant : Instant := -62135596800000000

/-- The last one; past it, addition raises. -/
def maxInstant : Instant := 253402300799999999

/-- The instants whose UTC form is a `datetime`. -/
def Representable (instant : Instant) : Prop := minInstant ≤ instant ∧ instant ≤ maxInstant

instance (instant : Instant) : Decidable (Representable instant) :=
  inferInstanceAs (Decidable (_ ∧ _))

/-- The longest decimal string that `int` converts. -/
def maxStrDigits : Nat := 4300

/-- A JSON value; a number that is not an integer is kept as it was written. -/
inductive Json where
  | null
  | bool (value : Bool)
  | int (value : Int)
  | float (written : String)
  | str (value : String)
  | arr (items : List Json)
  | obj (fields : List (String × Json))

mutual

/-- `==`; a `bool` is an `int`, and a `float` equals the one that is written alike. -/
def Json.same : Json → Json → Bool
  | .null, .null => true
  | .bool a, .bool b => a == b
  | .bool a, .int b => b == a.toNat
  | .int a, .bool b => a == b.toNat
  | .int a, .int b => a == b
  | .float a, .float b => a == b
  | .str a, .str b => a == b
  | .arr xs, .arr ys => Json.sameItems xs ys
  | .obj xs, .obj ys => xs.length == ys.length && Json.sameFields xs ys
  | _, _ => false

def Json.sameItems : List Json → List Json → Bool
  | [], [] => true
  | x :: xs, y :: ys => x.same y && Json.sameItems xs ys
  | _, _ => false

/-- The fields of a `dict` are compared in any order. -/
def Json.sameFields : List (String × Json) → List (String × Json) → Bool
  | [], _ => true
  | (field, x) :: xs, ys =>
      (match ys.find? (·.1 = field) with
        | some (_, y) => x.same y
        | none => false) && Json.sameFields xs ys

end

instance : BEq Json := ⟨Json.same⟩

abbrev Secret := List (String × Json)

def Secret.get (secret : Secret) (field : String) : Option Json :=
  (secret.find? (·.1 = field)).map (·.2)

def Secret.setDefault (secret : Secret) (field : String) (value : Json) : Secret :=
  if (secret.get field).isSome then secret else secret ++ [(field, value)]

/-- `isinstance(value, str)`. -/
def Json.asStr : Json → Option String
  | .str s => some s
  | _ => none

/-! ## Order-preserving deduplication -/

section Dedup

variable {α : Type} [DecidableEq α]

/-- `dict.fromkeys`: the first occurrence of each key, in order. -/
def dictFromKeys (keys : List α) : List α := keys.eraseDups

@[simp] theorem mem_dictFromKeys {key : α} {keys : List α} :
    key ∈ dictFromKeys keys ↔ key ∈ keys := List.mem_eraseDups

theorem dictFromKeys_nodup : ∀ keys : List α, (dictFromKeys keys).Nodup
  | [] => by simp [dictFromKeys]
  | key :: keys => by
      have shorter : (keys.filter fun other => !other == key).length < keys.length + 1 :=
        Nat.lt_succ_of_le (List.length_filter_le _ _)
      have rest := dictFromKeys_nodup (keys.filter fun other => !other == key)
      rw [dictFromKeys] at rest
      rw [dictFromKeys, List.eraseDups_cons, List.nodup_cons]
      exact ⟨by simp, rest⟩
  termination_by keys => keys.length

end Dedup

end Keyring

import Keyring.Domain.Text
import Keyring.Interleave.Oracle

/-!
# Objects that a template can reach

A template starts from strings and reaches whatever their attributes and items
are.  Strings are modelled here; what any other object answers is a parameter.
-/

set_option autoImplicit false

namespace Keyring

open Interleave

/-- The class of an exception; a subclass counts as the class that a handler names. -/
inductive ExceptionClass where
  | index
  | key
  | value
  | attribute
  | type
  | memory
  | overflow
  | struct
  | other
  deriving DecidableEq

/-- An exception, and what else can be read from it: the strings among its arguments, and
the exceptions that its cause and its context lead to. -/
structure Exception where
  kind : ExceptionClass
  text : String
  chained : List String := []
  deriving DecidableEq

/-- Everything that a walk along the exception chain can read. -/
def Exception.texts (e : Exception) : List String := e.text :: e.chained

/-- `raise` inside the handler of `handled`, with or without a `from`. -/
def Exception.during (e handled : Exception) : Exception :=
  { e with chained := e.chained ++ handled.texts }

inductive Obj (Other : Type) where
  | str (value : String)
  | other (object : Other)

/-- What stands between brackets: a number when it is written in decimal digits. -/
inductive Subscript where
  | index (n : Nat)
  | name (name : String)

inductive Conversion where
  | repr
  | str
  | ascii

/-- What the interpreter decides: the tables of Unicode, the memory it has, its
cryptography, and the objects that are not strings. -/
structure Python where
  text : Text
  /-- `str.upper` of a character that is not ASCII. -/
  upper : Char → List Char
  /-- Whether a string of that many characters can be allocated. -/
  fits : Nat → Bool
  /-- `hmac.new(key, message, hashlib.sha1).digest()` -/
  hmacSha1 : List UInt8 → List UInt8 → Vector UInt8 20
  Other : Type
  strAttribute : String → String → Option (Obj Other)
  getattr : Other → String → Except Exception (Obj Other)
  getitem : Other → Subscript → Except Exception (Obj Other)
  convert : Other → Conversion → Except Exception String
  format : Other → String → Except Exception String

namespace Python

variable (python : Python)

abbrev Object := Obj python.Other

def strGetattr (value name : String) : Except Exception python.Object :=
  match python.strAttribute value name with
  | some object => .ok object
  | none => .error ⟨.attribute, s!"'str' object has no attribute '{name}'", []⟩

end Python

/-- `value[n]`, or the subscript with a name that no string has. -/
def strGetitem (value : String) : Subscript → Except Exception String
  | .index n =>
      match value.toList[n]? with
      | some c => .ok (String.ofList [c])
      | none => .error ⟨.index, "string index out of range", []⟩
  | .name _ => .error ⟨.type, "string indices must be integers, not 'str'", []⟩

/-- `str(value)`, `repr(value)` or `ascii(value)`. -/
def strConvert (text : Text) (value : String) : Conversion → String
  | .str => value
  | .repr => repr text value
  | .ascii => repr { text with isPrintable := fun _ => false } value

end Keyring

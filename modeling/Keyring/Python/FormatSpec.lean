import Keyring.Python.Objects

/-!
# `str.__format__`

The format specification of a string: how it is read, what it refuses, and the
padded and truncated text it makes.  Every refusal is a `ValueError`; the one
failure that is not is a width that memory has no room for.
-/

set_option autoImplicit false

namespace Keyring

/-- `PY_SSIZE_T_MAX` -/
def sizeMax : Nat := 2 ^ 63 - 1

/-- The decimal digits in front; `none` when there are none. -/
def readInteger (text : Text) : Option Nat → List Char → Except Exception (Option Nat × List Char)
  | read, [] => .ok (read, [])
  | read, c :: rest =>
      match text.decimal c with
      | none => .ok (read, c :: rest)
      | some digit =>
          if read.getD 0 * 10 + digit > sizeMax then
            .error ⟨.value, "Too many decimal digits in format string", []⟩
          else readInteger text (some (read.getD 0 * 10 + digit)) rest

/-- The next character, when it is one of those. -/
def readOne (accepted : Char → Bool) : List Char → Option Char × List Char
  | [] => (none, [])
  | c :: rest => if accepted c then (some c, rest) else (none, c :: rest)

def isAlignment (c : Char) : Bool := c = '<' || c = '>' || c = '=' || c = '^'
def isSign (c : Char) : Bool := c = ' ' || c = '+' || c = '-'

/-- The fill character, the alignment and what comes after them. -/
def readAlignment : List Char → Option Char × Option Char × List Char
  | [] => (none, none, [])
  | [c] => if isAlignment c then (none, some c, []) else (none, none, [c])
  | c :: d :: rest =>
      if isAlignment d then (some c, some d, rest)
      else if isAlignment c then (none, some c, d :: rest)
      else (none, none, c :: d :: rest)

structure FormatSpec where
  fill : Char
  alignment : Char
  sign : Option Char
  noNegativeZero : Bool
  alternate : Bool
  width : Option Nat
  separator : Option Char
  precision : Option Nat
  type : Char

/-- How an error names a character of the specification. -/
def nameOf (c : Char) : String :=
  if 32 < c.toNat ∧ c.toNat < 128 then String.ofList [c]
  else "\\x" ++ String.ofList (Nat.toDigits 16 c.toNat)

def bothSeparators : Exception := ⟨.value, "Cannot specify both ',' and '_'.", []⟩

/-- `,` or `_`, and not both. -/
def readSeparator (rest : List Char) : Except Exception (Option Char × List Char) :=
  match readOne (· = ',') rest with
  | (some comma, rest) =>
      match rest with
      | '_' :: _ => .error bothSeparators
      | _ => .ok (some comma, rest)
  | (none, rest) =>
      match readOne (· = '_') rest with
      | (some underscore, rest) =>
          match rest with
          | ',' :: _ => .error bothSeparators
          | _ => .ok (some underscore, rest)
      | (none, rest) => .ok (none, rest)

def readPrecision (text : Text) (rest : List Char) :
    Except Exception (Option Nat × List Char) :=
  match readOne (· = '.') rest with
  | (none, rest) => .ok (none, rest)
  | (some _, rest) => do
      let (precision, rest) ← readInteger text none rest
      if precision.isNone then .error ⟨.value, "Format specifier missing precision", []⟩
      else .ok (precision, rest)

/-- The one character that may be left. -/
def readType (spec : String) : List Char → Except Exception Char
  | [] => .ok 's'
  | [c] => .ok c
  | _ => .error ⟨.value, s!"Invalid format specifier '{spec}' for object of type 'str'", []⟩

/-- Which types of number a thousands separator goes with. -/
def checkSeparator (type : Char) : Option Char → Except Exception Unit
  | none => .ok ()
  | some separator =>
      if "deEfFgG%\x00".toList.contains type then .ok ()
      else if separator = '_' ∧ "boxX".toList.contains type then .ok ()
      else .error ⟨.value, s!"Cannot specify '{separator}' with '{nameOf type}'.", []⟩

/-- `parse_internal_render_format_spec` -/
def parseFormatSpec (text : Text) (spec : String) : Except Exception FormatSpec := do
  let (fill, alignment, rest) := readAlignment spec.toList
  let (sign, rest) := readOne isSign rest
  let (noNegativeZero, rest) := readOne (· = 'z') rest
  let (alternate, rest) := readOne (· = '#') rest
  let (zero, rest) := if fill.isNone then readOne (· = '0') rest else (none, rest)
  let (width, rest) ← readInteger text none rest
  let (separator, rest) ← readSeparator rest
  let (precision, rest) ← readPrecision text rest
  let type ← readType spec rest
  checkSeparator type separator
  .ok {
    fill := (fill.or zero).getD ' '
    alignment := alignment.getD '<'
    sign := sign
    noNegativeZero := noNegativeZero.isSome
    alternate := alternate.isSome
    width := width
    separator := separator
    precision := precision
    type := type }

/-- `format_string_internal`, what only numbers may ask for. -/
def refuseSpec (spec : FormatSpec) : Except Exception Unit :=
  if spec.type ≠ 's' then
    .error ⟨.value, s!"Unknown format code '{nameOf spec.type}' for object of type 'str'", []⟩
  else if spec.sign = some ' ' then
    .error ⟨.value, "Space not allowed in string format specifier", []⟩
  else if spec.sign.isSome then
    .error ⟨.value, "Sign not allowed in string format specifier", []⟩
  else if spec.noNegativeZero then
    .error ⟨.value, "Negative zero coercion (z) not allowed in string format specifier", []⟩
  else if spec.alternate then
    .error ⟨.value, "Alternate form (#) not allowed in string format specifier", []⟩
  else if spec.alignment = '=' then
    .error ⟨.value, "'=' alignment not allowed in string format specifier", []⟩
  else .ok ()

/-- `calc_padding` and the text between. -/
def pad (spec : FormatSpec) (chars : List Char) (total : Nat) : List Char :=
  let missing := total - chars.length
  let left :=
    if spec.alignment = '>' then missing
    else if spec.alignment = '^' then missing / 2
    else 0
  List.replicate left spec.fill ++ chars ++ List.replicate (missing - left) spec.fill

/-- `str.__format__` -/
def strRender (python : Python) (value spec : String) : Except Exception String :=
  if spec.isEmpty then .ok value
  else do
    let parsed ← parseFormatSpec python.text spec
    refuseSpec parsed
    let length := value.toList.length
    let kept := min (parsed.precision.getD length) length
    let total := max (parsed.width.getD 0) kept
    if kept = length ∧ total = length then .ok value
    else if python.fits total then .ok (String.ofList (pad parsed (value.toList.take kept) total))
    else .error ⟨.memory, "", []⟩

end Keyring

import Keyring.Domain.Repr
import Keyring.Domain.Errors
import Keyring.Python.Dict

/-!
# JSON texts

`json.dumps`, with its default separators and `ensure_ascii`, and `json.loads`.
A number that is not an integer stays the text it is written as.
-/

set_option autoImplicit false

namespace Keyring

/-! ## Writing -/

/-- `\uXXXX` -/
def unitEscape (unit : Nat) : List Char := '\\' :: 'u' :: hexDigits 4 unit

/-- The characters that have an escape of their own, and its letter. -/
def shortEscapes : List (Char × Char) :=
  [('"', '"'), ('\\', '\\'), ('\n', 'n'), ('\r', 'r'), ('\t', 't'), ('\x0c', 'f'), ('\x08', 'b')]

def highSurrogate (n : Nat) : Nat := 0xd800 + (n - 0x10000) / 0x400

def lowSurrogate (n : Nat) : Nat := 0xdc00 + (n - 0x10000) % 0x400

/-- `py_encode_basestring_ascii`, of one character. -/
def escapeChar (c : Char) : List Char :=
  match shortEscapes.lookup c with
  | some letter => ['\\', letter]
  | none =>
      if 0x20 ≤ c.toNat ∧ c.toNat ≤ 0x7e then [c]
      else if c.toNat < 0x10000 then unitEscape c.toNat
      else unitEscape (highSurrogate c.toNat) ++ unitEscape (lowSurrogate c.toNat)

def quoted (s : String) : List Char := '"' :: s.toList.flatMap escapeChar ++ ['"']

/-- `int.__repr__` -/
def intText (n : Int) : List Char :=
  if n < 0 then '-' :: Nat.toDigits 10 n.natAbs else Nat.toDigits 10 n.natAbs

namespace Json

mutual

def write : Json → List Char
  | .null => "null".toList
  | .bool true => "true".toList
  | .bool false => "false".toList
  | .int n => intText n
  | .float written => written.toList
  | .str s => quoted s
  | .arr [] => ['[', ']']
  | .arr (item :: items) => '[' :: item.write ++ writeItems items
  | .obj [] => ['{', '}']
  | .obj ((name, item) :: fields) => '{' :: quoted name ++ ':' :: ' ' :: item.write ++ writeFields fields

def writeItems : List Json → List Char
  | [] => [']']
  | item :: items => ',' :: ' ' :: item.write ++ writeItems items

def writeFields : List (String × Json) → List Char
  | [] => ['}']
  | (name, item) :: fields =>
      ',' :: ' ' :: quoted name ++ ':' :: ' ' :: item.write ++ writeFields fields

end

mutual

/-- No integer has more digits than `int` converts. -/
def fitsDigits : Json → Bool
  | .int n => (Nat.toDigits 10 n.natAbs).length ≤ maxStrDigits
  | .arr items => fitsDigitsItems items
  | .obj fields => fitsDigitsFields fields
  | _ => true

def fitsDigitsItems : List Json → Bool
  | [] => true
  | item :: items => item.fitsDigits && fitsDigitsItems items

def fitsDigitsFields : List (String × Json) → Bool
  | [] => true
  | (_, item) :: fields => item.fitsDigits && fitsDigitsFields fields

end

def dumps (value : Json) : Except Error String :=
  if value.fitsDigits then .ok (String.ofList value.write)
  else .error
    (.value s!"Exceeds the limit ({maxStrDigits} digits) for integer string conversion")

end Json

/-! ## Reading -/

def skipSpace (text : List Char) : List Char :=
  text.dropWhile fun c => c = ' ' || c = '\t' || c = '\n' || c = '\r'

def readUnit (text : List Char) : Option (Nat × List Char) :=
  let digits := text.take 4
  if digits.length = 4 ∧ digits.all ("0123456789abcdefABCDEF".toList.contains ·) then
    some (hexValue (digits.map Char.toLower), text.drop 4)
  else none

def isHighSurrogate (unit : Nat) : Bool := 0xd800 ≤ unit && unit < 0xdc00

def isLowSurrogate (unit : Nat) : Bool := 0xdc00 ≤ unit && unit < 0xe000

def joinSurrogates (high low : Nat) : Nat := 0x10000 + (high - 0xd800) * 0x400 + (low - 0xdc00)

/-- What comes after a backslash.  A surrogate on its own is no character here. -/
def readEscape : List Char → Option (Char × List Char)
  | 'u' :: text => do
      let (unit, text) ← readUnit text
      if isHighSurrogate unit then
        match text with
        | '\\' :: 'u' :: text => do
            let (low, text) ← readUnit text
            if isLowSurrogate low then some (Char.ofNat (joinSurrogates unit low), text) else none
        | _ => none
      else if isLowSurrogate unit then none
      else some (Char.ofNat unit, text)
  | '/' :: text => some ('/', text)
  | letter :: text => (shortEscapes.find? (·.2 = letter)).map fun entry => (entry.1, text)
  | [] => none

/-- `py_scanstring`, from behind the opening quote. -/
def readString : Nat → List Char → Option (List Char × List Char)
  | 0, _ => none
  | fuel + 1, text =>
      match text with
      | [] => none
      | '"' :: text => some ([], text)
      | '\\' :: text => do
          let (c, text) ← readEscape text
          let (cs, text) ← readString fuel text
          some (c :: cs, text)
      | c :: text =>
          if c.toNat < 0x20 then none
          else do
            let (cs, text) ← readString fuel text
            some (c :: cs, text)

def readText (text : List Char) : Option (String × List Char) :=
  (readString (text.length + 1) text).map fun (cs, text) => (String.ofList cs, text)

/-- `-?(?:0|[1-9]\d*)` -/
def scanWhole (text : List Char) : Option (List Char × List Char) :=
  let (sign, text) := if text.head? = some '-' then (['-'], text.tail) else ([], text)
  match text with
  | '0' :: text => some (sign ++ ['0'], text)
  | text =>
      match text.takeWhile Char.isDigit with
      | [] => none
      | digits => some (sign ++ digits, text.dropWhile Char.isDigit)

/-- `(\.\d+)?` -/
def scanFraction : List Char → List Char × List Char
  | '.' :: text =>
      match text.takeWhile Char.isDigit with
      | [] => ([], '.' :: text)
      | digits => ('.' :: digits, text.dropWhile Char.isDigit)
  | text => ([], text)

/-- `([eE][-+]?\d+)?` -/
def scanExponent : List Char → List Char × List Char
  | [] => ([], [])
  | e :: text =>
      if e = 'e' ∨ e = 'E' then
        let (sign, after) :=
          if text.head? = some '-' ∨ text.head? = some '+' then (text.take 1, text.tail)
          else ([], text)
        match after.takeWhile Char.isDigit with
        | [] => ([], e :: text)
        | digits => (e :: sign ++ digits, after.dropWhile Char.isDigit)
      else ([], e :: text)

/-- The number that a text of digits, perhaps behind a sign, stands for. -/
def wholeValue (text : List Char) : Int :=
  if text.head? = some '-' then -(Nat.ofDigitChars 10 text.tail 0 : Int)
  else (Nat.ofDigitChars 10 text 0 : Int)

/-- `_match_number` -/
def readJsonNumber (text : List Char) : Option (Json × List Char) := do
  let (whole, text) ← scanWhole text
  let (fraction, text) := scanFraction text
  let (exponent, text) := scanExponent text
  if fraction = [] ∧ exponent = [] then
    if whole.countP Char.isDigit ≤ maxStrDigits then some (.int (wholeValue whole), text)
    else none
  else some (.float (String.ofList (whole ++ fraction ++ exponent)), text)

/-- The values that are written as words. -/
def jsonWords : List (List Char × Json) :=
  [("null".toList, .null), ("true".toList, .bool true), ("false".toList, .bool false),
    ("NaN".toList, .float "NaN"), ("Infinity".toList, .float "Infinity"),
    ("-Infinity".toList, .float "-Infinity")]

def readScalar (text : List Char) : Option (Json × List Char) :=
  match jsonWords.find? fun entry => entry.1.isPrefixOf text with
  | some (word, value) => some (value, text.drop word.length)
  | none => readJsonNumber text

mutual

/-- `scan_once` -/
def readValue : Nat → List Char → Option (Json × List Char)
  | 0, _ => none
  | fuel + 1, text =>
      match text with
      | '"' :: text => (readText text).map fun (s, text) => (.str s, text)
      | '[' :: text =>
          match skipSpace text with
          | ']' :: text => some (.arr [], text)
          | text => (readItems fuel text).map fun (items, text) => (.arr items, text)
      | '{' :: text =>
          match skipSpace text with
          | '}' :: text => some (.obj [], text)
          | text => (readFields fuel text).map fun (pairs, text) => (.obj (dictOf pairs), text)
      | text => readScalar text

/-- `JSONArray`, from the first item on. -/
def readItems : Nat → List Char → Option (List Json × List Char)
  | 0, _ => none
  | fuel + 1, text => do
      let (item, text) ← readValue fuel text
      match skipSpace text with
      | ']' :: text => some ([item], text)
      | ',' :: text => do
          let (items, text) ← readItems fuel (skipSpace text)
          some (item :: items, text)
      | _ => none

/-- `JSONObject`, from the first field on. -/
def readFields : Nat → List Char → Option (List (String × Json) × List Char)
  | 0, _ => none
  | fuel + 1, text =>
      match text with
      | '"' :: text => do
          let (name, text) ← readText text
          match skipSpace text with
          | ':' :: text => do
              let (item, text) ← readValue fuel (skipSpace text)
              match skipSpace text with
              | '}' :: text => some ([(name, item)], text)
              | ',' :: text => do
                  let (fields, text) ← readFields fuel (skipSpace text)
                  some ((name, item) :: fields, text)
              | _ => none
          | _ => none
      | _ => none

end

/-- What reading a text raises: a `ValueError`, or a `RecursionError` where a container is
nested too deeply. -/
inductive JsonError where
  | value
  | recursion (container : String)
  deriving DecidableEq

mutual

/-- What stops the reading of a value whose text is well formed, at the first place in it:
an integer past what `int` converts, or a container inside of `depth` others. -/
def Json.flaw (depth : Nat) : Json → Option JsonError
  | .int n => if (Nat.toDigits 10 n.natAbs).length ≤ maxStrDigits then none else some .value
  | .arr items => if depth = 0 then some (.recursion "array") else flawItems (depth - 1) items
  | .obj fields => if depth = 0 then some (.recursion "object") else flawFields (depth - 1) fields
  | _ => none

def Json.flawItems (depth : Nat) : List Json → Option JsonError
  | [] => none
  | item :: items => (item.flaw depth).or (flawItems depth items)

def Json.flawFields (depth : Nat) : List (String × Json) → Option JsonError
  | [] => none
  | (_, item) :: fields => (item.flaw depth).or (flawFields depth fields)

end

/-- `json.loads`; `none` is a `ValueError`. -/
def Json.loads (text : String) : Option Json :=
  match readValue (text.toList.length + 1) (skipSpace text.toList) with
  | some (value, rest) => if skipSpace rest = [] then some value else none
  | none => none

end Keyring

import Keyring.Python.FormatSpec

/-!
# The markup of a template

How `str.format` cuts a template into literal text and replacement fields, and
a field name into its steps.  The pieces come in the order in which they are
evaluated; where the text is malformed there is a last piece that says so, since
everything before it has been evaluated by then.
-/

set_option autoImplicit false

namespace Keyring

inductive Markup where
  | literal (text : String)
  | field (name : String) (conversion : Option Char) (spec : String) (expands : Bool)
  | malformed (message : String)
  deriving DecidableEq

/-- How far the reader is inside a template. -/
inductive Reading where
  | literal (text : List Char)
  | name (text : List Char)
  | bracket (text : List Char)
  | conversion (name : List Char)
  | converted (name : List Char) (conversion : Char)
  | spec (name : List Char) (conversion : Option Char) (text : List Char) (depth : Nat)
      (expands : Bool)

def fieldOf (name : List Char) (conversion : Option Char) (spec : List Char) (expands : Bool) :
    Markup :=
  -- The null character is how the source writes that there is no conversion.
  .field (String.ofList name) (conversion.filter (· ≠ '\x00')) (String.ofList spec) expands

/-- `MarkupIterator_next`, again and again; a field is read by `parse_field`. -/
def markup : Reading → List Char → List Markup
  | .literal text, [] => [.literal (String.ofList text)]
  | .literal _, ['{'] => [.malformed "Single '\x7b' encountered in format string"]
  | .literal _, ['}'] => [.malformed "Single '\x7d' encountered in format string"]
  | .literal text, c :: d :: rest =>
      if c = '{' ∧ d = '{' ∨ c = '}' ∧ d = '}' then markup (.literal (text ++ [c])) rest
      else if c = '{' then .literal (String.ofList text) :: markup (.name []) (d :: rest)
      else if c = '}' then [.malformed "Single '\x7d' encountered in format string"]
      else markup (.literal (text ++ [c])) (d :: rest)
  | .literal text, [c] => [.literal (String.ofList (text ++ [c]))]
  | .name _, [] => [.malformed "expected '\x7d' before end of string"]
  | .name text, c :: rest =>
      if c = '{' then [.malformed "unexpected '\x7b' in field name"]
      else if c = '[' then markup (.bracket (text ++ [c])) rest
      else if c = '}' then fieldOf text none [] false :: markup (.literal []) rest
      else if c = ':' then markup (.spec text none [] 0 false) rest
      else if c = '!' then markup (.conversion text) rest
      else markup (.name (text ++ [c])) rest
  | .bracket _, [] => [.malformed "expected '\x7d' before end of string"]
  | .bracket text, c :: rest =>
      if c = ']' then markup (.name (text ++ [c])) rest
      else markup (.bracket (text ++ [c])) rest
  | .conversion _, [] => [.malformed "end of string while looking for conversion specifier"]
  | .conversion name, c :: rest => markup (.converted name c) rest
  | .converted _ _, [] => [.malformed "unmatched '\x7b' in format spec"]
  | .converted name conversion, c :: rest =>
      if c = '}' then fieldOf name (some conversion) [] false :: markup (.literal []) rest
      else if c = ':' then markup (.spec name (some conversion) [] 0 false) rest
      else [.malformed "expected ':' after conversion specifier"]
  | .spec _ _ _ _ _, [] => [.malformed "unmatched '\x7b' in format spec"]
  | .spec name conversion text depth expands, c :: rest =>
      if c = '{' then markup (.spec name conversion (text ++ [c]) (depth + 1) true) rest
      else if c = '}' then
        match depth with
        | 0 => fieldOf name conversion text expands :: markup (.literal []) rest
        | depth + 1 => markup (.spec name conversion (text ++ [c]) depth expands) rest
      else markup (.spec name conversion (text ++ [c]) depth expands) rest

/-- One step from an object to the next. -/
inductive Accessor where
  | attr (name : String)
  | item (subscript : Subscript)
  | malformed (message : String)

/-- `get_integer`: the number that the whole text is. -/
def getInteger (text : Text) (name : List Char) : Except Exception (Option Nat) := do
  let (number, rest) ← readInteger text none name
  .ok (if rest.isEmpty then number else none)

/-- How far the reader is inside a field name. -/
inductive Following where
  | start
  | attr (name : List Char)
  | item (name : List Char)

def emptyAttribute : Accessor := .malformed "Empty attribute in format string"

def attributeOf (name : List Char) : Accessor :=
  if name.isEmpty then emptyAttribute else .attr (String.ofList name)

def itemOf (text : Text) (name : List Char) : Accessor :=
  match getInteger text name with
  | .error e => .malformed e.text
  | .ok (some n) => .item (.index n)
  | .ok none => if name.isEmpty then emptyAttribute else .item (.name (String.ofList name))

/-- `FieldNameIterator_next`, again and again. -/
def accessors (text : Text) : Following → List Char → List Accessor
  | .start, [] => []
  | .start, c :: rest =>
      if c = '.' then accessors text (.attr []) rest
      else if c = '[' then accessors text (.item []) rest
      else [.malformed "Only '.' or '[' may follow ']' in format field specifier"]
  | .attr name, [] => [attributeOf name]
  | .attr name, c :: rest =>
      if c = '.' then attributeOf name :: accessors text (.attr []) rest
      else if c = '[' then attributeOf name :: accessors text (.item []) rest
      else accessors text (.attr (name ++ [c])) rest
  | .item _, [] => [.malformed "Missing ']' in format string"]
  | .item name, c :: rest =>
      if c = ']' then itemOf text name :: accessors text .start rest
      else accessors text (.item (name ++ [c])) rest

end Keyring

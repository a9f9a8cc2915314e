import Keyring.Python.Markup

/-!
# `str.format`

A template is a program over objects: each replacement field looks an object up
by attributes and items, may convert it, and renders it by a specification that
may be a template itself.  What it asks of an object is an operation, answered
by the object.
-/

set_option autoImplicit false

namespace Keyring

open Interleave

/-- What a template asks of an object. -/
inductive ObjectOp (Other : Type) where
  | getattr (object : Obj Other) (name : String)
  | getitem (object : Obj Other) (subscript : Subscript)
  | convert (object : Obj Other) (conversion : Conversion)
  | render (object : Obj Other) (spec : String)

abbrev ObjectOp.Result {Other : Type} : ObjectOp Other → Type
  | .getattr _ _ | .getitem _ _ => Obj Other
  | .convert _ _ | .render _ _ => String

namespace Python

variable (python : Python)

def answer : (o : ObjectOp python.Other) → Except Exception o.Result
  | .getattr (.str value) name => python.strGetattr value name
  | .getattr (.other object) name => python.getattr object name
  | .getitem (.str value) subscript => (strGetitem value subscript).map Obj.str
  | .getitem (.other object) subscript => python.getitem object subscript
  | .convert (.str value) conversion => .ok (strConvert python.text value conversion)
  | .convert (.other object) conversion => python.convert object conversion
  | .render (.str value) spec => strRender python value spec
  | .render (.other object) spec => python.format object spec

def objects : Oracle := ⟨ObjectOp python.Other, fun o => Except Exception o.Result, python.answer⟩

abbrev Template (α : Type) := Prog python.objects.machine Exception α

/-- Ask an object, and go on with its answer or raise what it raised. -/
def ask (o : ObjectOp python.Other) : Template python o.Result := .call o fun answer => .done answer

/-- `get_field_object`, once the first object is found. -/
def follow (object : Obj python.Other) : List Accessor → Template python (Obj python.Other)
  | [] => pure object
  | .attr name :: rest => do
      let next ← ask python (.getattr object name)
      follow next rest
  | .item subscript :: rest => do
      let next ← ask python (.getitem object subscript)
      follow next rest
  | .malformed message :: _ => throw ⟨.value, message, []⟩

/-- `get_field_object`: with no positional arguments a number is out of range. -/
def fieldObject (kwargs : List (String × Obj python.Other)) (name : String) :
    Template python (Obj python.Other) := do
  let first := name.toList.takeWhile fun c => c ≠ '.' && c ≠ '['
  let rest := name.toList.dropWhile fun c => c ≠ '.' && c ≠ '['
  let number ← Prog.ofExcept (getInteger python.text first)
  -- The first field that is numbered raises, so numbering by hand and
  -- automatic numbering never meet.
  match number, first with
  | some n, _ => throw (outOfRange n)
  | none, [] => throw (outOfRange 0)
  | none, _ =>
      match kwargs.find? (·.1 = String.ofList first) with
      | some (_, object) => follow python object (accessors python.text .start rest)
      | none => throw ⟨.key, repr python.text (String.ofList first), []⟩
where
  outOfRange (n : Nat) : Exception :=
    ⟨.index, s!"Replacement index {n} out of range for positional args tuple", []⟩

def doConversion (object : Obj python.Other) : Option Char → Template python (Obj python.Other)
  | none => pure object
  | some c =>
      match readConversion c with
      | some conversion => do
          let value ← ask python (.convert object conversion)
          pure (.str value)
      | none => throw ⟨.value, s!"Unknown conversion specifier {written c}", []⟩
where
  readConversion : Char → Option Conversion
    | 'r' => some .repr
    | 's' => some .str
    | 'a' => some .ascii
    | _ => none
  written (c : Char) : String :=
    if 32 < c.toNat ∧ c.toNat < 127 then String.ofList [c]
    else "\\x" ++ String.ofList (Nat.toDigits 16 c.toNat)

/-- `do_markup`; `expand` is what makes a specification out of a template. -/
def doMarkup (kwargs : List (String × Obj python.Other)) (expand : String → Template python String) :
    List Markup → Template python String
  | [] => pure ""
  | .literal text :: rest => do
      let after ← doMarkup kwargs expand rest
      pure (text ++ after)
  | .field name conversion spec expands :: rest => do
      let found ← fieldObject python kwargs name
      let object ← doConversion python found conversion
      let spec ← (if expands then expand spec else pure spec)
      let rendered ← ask python (.render object spec)
      let after ← doMarkup kwargs expand rest
      pure (rendered ++ after)
  | .malformed message :: _ => throw ⟨.value, message, []⟩

/-- `build_string`, with the recursion it may still use. -/
def buildString (kwargs : List (String × Obj python.Other)) :
    Nat → String → Template python String
  | 0, _ => throw ⟨.value, "Max string recursion exceeded", []⟩
  | depth + 1, template =>
      doMarkup python kwargs (buildString kwargs depth) (markup (.literal []) template.toList)

/-- `template.format(**kwargs)` as a program over the objects. -/
def strFormat (template : String) (kwargs : List (String × Obj python.Other)) :
    Template python String :=
  buildString python kwargs 2 template

/-- What `template.format(value=value)` returns or raises. -/
def formatted (template value : String) : Except Exception String :=
  Oracle.result (strFormat python template [("value", .str value)])

/-- What it asks of objects on the way, up to the first that raises. -/
def asks (template value : String) : List (ObjectOp python.Other) :=
  Oracle.asked (strFormat python template [("value", .str value)])

end Python

/-! ## What a template raises of its own -/

/-- `IndexError`, `KeyError` or `ValueError`. -/
def Exception.isLookup (e : Exception) : Bool :=
  e.kind = .index || e.kind = .key || e.kind = .value

namespace Python

variable (python : Python)

/-- What an operation raises is one of the three, if it raises. -/
def Tame (o : ObjectOp python.Other) : Prop := Documented (·.isLookup) (python.answer o)

abbrev BlamesObjects {α : Type} (p : Template python α) : Prop :=
  p.Blames (fun e => python.Tame e.op) (·.isLookup)

theorem ask_blames (o : ObjectOp python.Other) : BlamesObjects python (ask python o) := by
  apply Prog.Blames.call
  intro i x s a t answered
  obtain rfl : python.answer o = a := (Prod.mk.inj (Option.some.inj answered)).1
  by_cases tame : python.Tame o
  · exact .inl ⟨tame, .done tame⟩
  · right
    constructor
    · exact tame
    · simp only [Tame, Documented, not_forall] at tame
      obtain ⟨e, raised, wild⟩ := tame
      exact ⟨e, congrArg Prog.done raised, wild⟩

theorem follow_blames (object : Obj python.Other) (steps : List Accessor) :
    BlamesObjects python (follow python object steps) := by
  induction steps generalizing object with
  | nil => exact .pure object
  | cons step rest ih =>
      cases step with
      | attr name => exact .bind (ask_blames python _) ih
      | item subscript => exact .bind (ask_blames python _) ih
      | malformed message => exact .throw rfl

theorem readInteger_error {text : Text} {chars : List Char} {e : Exception} :
    ∀ {read : Option Nat}, readInteger text read chars = .error e → e.isLookup = true := by
  induction chars with
  | nil => intro read failed; simp [readInteger] at failed
  | cons c rest ih =>
      intro read failed
      rw [readInteger] at failed
      split at failed
      · cases failed
      · split at failed
        · cases failed
          rfl
        · exact ih failed

theorem getInteger_error {text : Text} {name : List Char} {e : Exception}
    (failed : getInteger text name = .error e) : e.isLookup = true := by
  rw [getInteger] at failed
  cases read : readInteger text none name with
  | error e' =>
      rw [read] at failed
      cases failed
      exact readInteger_error read
  | ok result =>
      rw [read] at failed
      cases failed

theorem fieldObject_blames (kwargs : List (String × Obj python.Other)) (name : String) :
    BlamesObjects python (fieldObject python kwargs name) := by
  apply Prog.Blames.bind
  · exact .done fun e => getInteger_error
  · intro number
    split
    · exact .throw rfl
    · exact .throw rfl
    · split
      · exact follow_blames python _ _
      · exact .throw rfl

theorem doConversion_blames (object : Obj python.Other) (conversion : Option Char) :
    BlamesObjects python (doConversion python object conversion) := by
  cases conversion with
  | none => exact .pure object
  | some c =>
      unfold doConversion
      dsimp only
      split
      · exact .bind (ask_blames python _) fun value => .pure _
      · exact .throw rfl

theorem doMarkup_blames (kwargs : List (String × Obj python.Other))
    {expand : String → Template python String} (inner : ∀ spec, BlamesObjects python (expand spec))
    (pieces : List Markup) : BlamesObjects python (doMarkup python kwargs expand pieces) := by
  induction pieces with
  | nil => exact .pure ""
  | cons piece rest ih =>
      cases piece with
      | literal text => exact .bind ih fun after => .pure _
      | field name conversion spec expands =>
          apply Prog.Blames.bind (fieldObject_blames python kwargs name)
          intro found
          apply Prog.Blames.bind (doConversion_blames python found conversion)
          intro object
          have spec_blames : BlamesObjects python (if expands then expand spec else pure spec) := by
            split
            · exact inner spec
            · exact .pure spec
          apply Prog.Blames.bind spec_blames
          intro spec
          apply Prog.Blames.bind (ask_blames python _)
          intro rendered
          exact .bind ih fun after => .pure _
      | malformed message => exact .throw rfl

theorem buildString_blames (kwargs : List (String × Obj python.Other)) (depth : Nat)
    (template : String) : BlamesObjects python (buildString python kwargs depth template) := by
  induction depth generalizing template with
  | zero => exact .throw rfl
  | succ depth ih => exact doMarkup_blames python kwargs ih _

/-- A template raises one of the three exactly when the objects it reaches do. -/
theorem formatted_documented_iff (template value : String) :
    Documented (·.isLookup) (python.formatted template value) ↔
      ∀ o ∈ python.asks template value, python.Tame o :=
  Oracle.documented_iff (buildString_blames python _ 2 template)

end Python

end Keyring

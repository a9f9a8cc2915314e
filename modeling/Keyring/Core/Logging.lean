import Mathlib.Data.List.Infix
import Keyring.Domain.Text
import Keyring.Python.Dict

/-!
# Redaction of a log record

`core/logging.py`.  The walk rebuilds the dicts and lists of a record, replaces
what stands under a sensitive name, and drops a container that is nested too
deep.  Whatever is neither a dict nor a list is passed on as it is, and that
includes a tuple with all that is in it.
-/

set_option autoImplicit false

namespace Keyring

/-- What is no container. -/
inductive Scalar where
  | str (value : String)
  /-- Of any other type, and what `str` makes of it. -/
  | other (type text : String)
  deriving DecidableEq

def Scalar.text : Scalar → String
  | str value => value
  | other _ text => text

@[simp] theorem Scalar.text_str (value : String) : (str value).text = value := rfl

inductive LogValue where
  | scalar (value : Scalar)
  | dict (fields : List (Scalar × LogValue))
  | list (items : List LogValue)
  | tuple (items : List LogValue)

def redacted : LogValue := .scalar (.str "[redacted]")

def maxRedactionDepth : Nat := 6

def sensitiveSubstrings : List String :=
  ["authorization", "cookie", "credential", "passphrase", "password", "passwd", "private_key",
    "secret", "seed", "token", "api_key", "master_key", "signing_key"]

namespace LogValue

mutual

/-- No dict in the value has a key twice. -/
def Proper : LogValue → Prop
  | .scalar _ => True
  | .dict fields => (fields.map Prod.fst).Nodup ∧ ProperFields fields
  | .list items => ProperItems items
  | .tuple items => ProperItems items

def ProperItems : List LogValue → Prop
  | [] => True
  | item :: items => Proper item ∧ ProperItems items

def ProperFields : List (Scalar × LogValue) → Prop
  | [] => True
  | (_, item) :: fields => Proper item ∧ ProperFields fields

end

end LogValue

structure EventDict where
  fields : List (String × LogValue)
  distinct : (fields.map Prod.fst).Nodup
  proper : LogValue.ProperFields (fields.map fun field => (.str field.1, field.2))

/-- The record as the items of a dict. -/
def EventDict.items (event : EventDict) : List (Scalar × LogValue) :=
  event.fields.map fun field => (.str field.1, field.2)

section
variable (text : Text)

def isSensitive (field : String) : Bool :=
  sensitiveSubstrings.any fun marker => decide (marker.toList <:+: (text.lower field).toList)

mutual

def redactContainer : Nat → LogValue → LogValue
  | _, .scalar value => .scalar value
  | _, .tuple items => .tuple items
  | depth, .dict fields =>
      if depth ≥ maxRedactionDepth then redacted
      else .dict ((dictOf (redactFields (depth + 1) fields)).map fun field => (.str field.1, field.2))
  | depth, .list items =>
      if depth ≥ maxRedactionDepth then redacted
      else .list (redactItems (depth + 1) items)

def redactItems : Nat → List LogValue → List LogValue
  | _, [] => []
  | depth, item :: items => redactContainer depth item :: redactItems depth items

/-- The pairs of a dict, each key as its text. -/
def redactFields : Nat → List (Scalar × LogValue) → List (String × LogValue)
  | _, [] => []
  | depth, (key, item) :: fields =>
      (key.text, if isSensitive text key.text then redacted else redactContainer depth item) ::
        redactFields depth fields

end

def redactValue (key : String) (value : LogValue) (depth : Nat) : LogValue :=
  if isSensitive text key then redacted else redactContainer text depth value

/-! ### What is rebuilt -/

theorem LogValue.properFields_iff {fields : List (Scalar × LogValue)} :
    LogValue.ProperFields fields ↔ ∀ field ∈ fields, field.2.Proper := by
  induction fields with
  | nil => simp [LogValue.ProperFields]
  | cons field fields ih => simp [LogValue.ProperFields, ih]

mutual

theorem redactContainer_proper : ∀ (depth : Nat) (value : LogValue), value.Proper →
    (redactContainer text depth value).Proper
  | _, .scalar _, proper => proper
  | _, .tuple _, proper => proper
  | depth, .dict fields, proper => by
    by_cases deep : depth ≥ maxRedactionDepth
    · simp [redactContainer, deep, redacted, LogValue.Proper]
    · rw [redactContainer, if_neg deep]
      constructor
      · rw [List.map_map]
        have keys := nodup_dictOf (redactFields text (depth + 1) fields)
        have apart := keys.map fun _ _ same => Scalar.str.inj same
        rwa [List.map_map] at apart
      · rw [LogValue.properFields_iff]
        intro field member
        obtain ⟨pair, held, rfl⟩ := List.mem_map.mp member
        exact redactFields_proper (depth + 1) fields proper.2 pair (mem_of_mem_dictOf held)
  | depth, .list items, proper => by
    by_cases deep : depth ≥ maxRedactionDepth
    · simp [redactContainer, deep, redacted, LogValue.Proper]
    · rw [redactContainer, if_neg deep]
      exact redactItems_proper (depth + 1) items proper

theorem redactItems_proper : ∀ (depth : Nat) (items : List LogValue),
    LogValue.ProperItems items → LogValue.ProperItems (redactItems text depth items)
  | _, [], _ => trivial
  | depth, item :: items, proper =>
      ⟨redactContainer_proper depth item proper.1, redactItems_proper depth items proper.2⟩

theorem redactFields_proper : ∀ (depth : Nat) (fields : List (Scalar × LogValue)),
    LogValue.ProperFields fields → ∀ field ∈ redactFields text depth fields, field.2.Proper
  | _, [], _ => by simp [redactFields]
  | depth, (key, item) :: fields, proper => by
    have rest := redactFields_proper depth fields proper.2
    rw [redactFields, List.forall_mem_cons]
    refine ⟨?_, rest⟩
    by_cases sensitive : isSensitive text key.text = true
    · simp [sensitive, redacted, LogValue.Proper]
    · simpa [sensitive] using redactContainer_proper depth item proper.1

end

def redactSecrets (event : EventDict) : EventDict where
  fields := event.fields.map fun (key, value) => (key, redactValue text key value 0)
  distinct := by
    rw [List.map_map]
    exact event.distinct
  proper := by
    rw [LogValue.properFields_iff]
    intro field member
    rw [List.map_map] at member
    obtain ⟨before, held, rfl⟩ := List.mem_map.mp member
    have proper := LogValue.properFields_iff.mp event.proper _ (List.mem_map_of_mem held)
    by_cases sensitive : isSensitive text before.1 = true
    · simp [redactValue, sensitive, redacted, LogValue.Proper]
    · simpa [redactValue, sensitive] using redactContainer_proper text 0 before.2 proper

/-! ## What a redacted record is -/

mutual

/-- Every sensitive key in the value has the marker as its value. -/
def Hidden : LogValue → Prop
  | .scalar _ => True
  | .dict fields => HiddenFields fields
  | .list items => HiddenItems items
  | .tuple items => HiddenItems items

def HiddenItems : List LogValue → Prop
  | [] => True
  | item :: items => Hidden item ∧ HiddenItems items

def HiddenFields : List (Scalar × LogValue) → Prop
  | [] => True
  | (key, item) :: fields =>
      (isSensitive text key.text = true → item = redacted) ∧ Hidden item ∧ HiddenFields fields

end

mutual

/-- What is neither below a sensitive key nor beyond the depth limit is the same after. -/
def Unchanged : Nat → LogValue → LogValue → Prop
  | _, .scalar value, after => after = .scalar value
  | depth, .dict fields, after => depth < maxRedactionDepth →
      ∃ fields', after = .dict fields' ∧ UnchangedFields (depth + 1) fields fields'
  | depth, .list items, after => depth < maxRedactionDepth →
      ∃ items', after = .list items' ∧ UnchangedItems (depth + 1) items items'
  | depth, .tuple items, after => depth < maxRedactionDepth →
      ∃ items', after = .tuple items' ∧ UnchangedItems (depth + 1) items items'

def UnchangedItems : Nat → List LogValue → List LogValue → Prop
  | _, [], after => after = []
  | depth, item :: items, after => ∃ item' items', after = item' :: items' ∧
      Unchanged depth item item' ∧ UnchangedItems depth items items'

def UnchangedFields : Nat → List (Scalar × LogValue) → List (Scalar × LogValue) → Prop
  | _, [], after => after = []
  | depth, (key, item) :: fields, after => ∃ key' item' fields',
      after = (key', item') :: fields' ∧ key' = key ∧
        (isSensitive text key.text = false → Unchanged depth item item') ∧
          UnchangedFields depth fields fields'

end

/-- Nothing under a sensitive name is left, and everything else is. -/
structure Redaction (before after : EventDict) : Prop where
  hidden : HiddenFields text after.items
  unchanged : UnchangedFields text 0 before.items after.items

/-! ## What the walk can redact -/

mutual

/-- The tuples that the walk passes on hide their own sensitive keys, and the keys of a
dict that it rebuilds are strings. -/
def Walkable : Nat → LogValue → Prop
  | _, .scalar _ => True
  | _, .tuple items => HiddenItems text items
  | depth, .dict fields => depth < maxRedactionDepth → WalkableFields (depth + 1) fields
  | depth, .list items => depth < maxRedactionDepth → WalkableItems (depth + 1) items

def WalkableItems : Nat → List LogValue → Prop
  | _, [] => True
  | depth, item :: items => Walkable depth item ∧ WalkableItems depth items

def WalkableFields : Nat → List (Scalar × LogValue) → Prop
  | _, [] => True
  | depth, (key, item) :: fields => key = .str key.text ∧
      (isSensitive text key.text = false → Walkable depth item) ∧ WalkableFields depth fields

end

end

/-! ## The walk redacts what it can -/

section
variable {text : Text}

theorem hidden_redacted : Hidden text redacted := trivial

theorem redactFields_keys (depth : Nat) (fields : List (Scalar × LogValue)) :
    (redactFields text depth fields).map Prod.fst = fields.map fun field => field.1.text := by
  induction fields with
  | nil => rfl
  | cons field fields ih => simp [redactFields, ih]

theorem UnchangedFields.keys {depth : Nat} {fields after : List (Scalar × LogValue)}
    (unchanged : UnchangedFields text depth fields after) :
    after.map Prod.fst = fields.map Prod.fst := by
  induction fields generalizing after with
  | nil =>
    rw [UnchangedFields] at unchanged
    rw [unchanged]
  | cons field fields ih =>
    obtain ⟨key', item', fields', rfl, rfl, -, rest⟩ := unchanged
    simp [ih rest]

theorem texts_nodup {fields : List (Scalar × LogValue)} (distinct : (fields.map Prod.fst).Nodup)
    (strings : ∀ field ∈ fields, field.1 = .str field.1.text) :
    (fields.map fun field => field.1.text).Nodup := by
  have same : (fields.map fun field => field.1.text).map Scalar.str = fields.map Prod.fst := by
    rw [List.map_map]
    exact List.map_congr_left fun field member => (strings field member).symm
  exact List.Nodup.of_map Scalar.str (same ▸ distinct)

theorem UnchangedFields.strings {depth : Nat} {fields : List (Scalar × LogValue)}
    {rebuilt : List (String × LogValue)}
    (unchanged : UnchangedFields text depth fields (rebuilt.map fun field =>
      (.str field.1, field.2))) : ∀ field ∈ fields, field.1 = .str field.1.text := by
  intro field member
  have key : field.1 ∈ fields.map Prod.fst := List.mem_map_of_mem member
  rw [← unchanged.keys, List.map_map] at key
  obtain ⟨pair, -, same⟩ := List.mem_map.mp key
  rw [← same]
  rfl

theorem rebuilt_iff {depth : Nat} {fields : List (Scalar × LogValue)}
    (distinct : (fields.map Prod.fst).Nodup) :
    (HiddenFields text ((dictOf (redactFields text depth fields)).map fun field =>
        (.str field.1, field.2)) ∧
      UnchangedFields text depth fields ((dictOf (redactFields text depth fields)).map fun field =>
        (.str field.1, field.2))) ↔
      HiddenFields text ((redactFields text depth fields).map fun field =>
          (.str field.1, field.2)) ∧
        UnchangedFields text depth fields ((redactFields text depth fields).map fun field =>
          (.str field.1, field.2)) := by
  have whole (strings : ∀ field ∈ fields, field.1 = .str field.1.text) :
      dictOf (redactFields text depth fields) = redactFields text depth fields := by
    apply dictOf_eq_self
    rw [redactFields_keys]
    exact texts_nodup distinct strings
  constructor
  · rintro ⟨hidden, unchanged⟩
    rw [whole unchanged.strings] at hidden unchanged
    exact ⟨hidden, unchanged⟩
  · rintro ⟨hidden, unchanged⟩
    rw [whole unchanged.strings]
    exact ⟨hidden, unchanged⟩

mutual

/-- By recursion on the value, along the walk. -/
theorem redactContainer_iff : ∀ (depth : Nat) (value : LogValue), value.Proper →
    ((Hidden text (redactContainer text depth value) ∧
      Unchanged text depth value (redactContainer text depth value)) ↔ Walkable text depth value)
  | depth, .scalar value, _ => by simp [redactContainer, Hidden, Unchanged, Walkable]
  | depth, .tuple items, _ => by
    simp only [redactContainer, Hidden, Unchanged, Walkable]
    refine and_iff_left_of_imp fun _ _ => ?_
    exact ⟨items, rfl, unchangedItems_refl (depth + 1) items⟩
  | depth, .list items, proper => by
    by_cases deep : depth ≥ maxRedactionDepth
    · simp [redactContainer, deep, Unchanged, Walkable, hidden_redacted]
    · simp [redactContainer, deep, Hidden, Unchanged, Walkable, Nat.lt_of_not_le deep,
        redactItems_iff (depth + 1) items proper]
  | depth, .dict fields, proper => by
    by_cases deep : depth ≥ maxRedactionDepth
    · simp [redactContainer, deep, Unchanged, Walkable, hidden_redacted]
    · simp [redactContainer, deep, Hidden, Unchanged, Walkable, Nat.lt_of_not_le deep,
        rebuilt_iff proper.1, redactFields_iff (depth + 1) fields proper.2]

theorem redactItems_iff : ∀ (depth : Nat) (items : List LogValue), LogValue.ProperItems items →
    ((HiddenItems text (redactItems text depth items) ∧
      UnchangedItems text depth items (redactItems text depth items)) ↔
        WalkableItems text depth items)
  | depth, [], _ => by simp [redactItems, HiddenItems, UnchangedItems, WalkableItems]
  | depth, item :: items, proper => by
    have head := redactContainer_iff depth item proper.1
    have rest := redactItems_iff depth items proper.2
    simp only [redactItems, HiddenItems, UnchangedItems, WalkableItems, ← head, ← rest]
    constructor
    · rintro ⟨⟨hidden, hiddens⟩, item', items', same, unchanged, unchangeds⟩
      cases same
      exact ⟨⟨hidden, unchanged⟩, hiddens, unchangeds⟩
    · intro ⟨⟨hidden, unchanged⟩, hiddens, unchangeds⟩
      exact ⟨⟨hidden, hiddens⟩, _, _, rfl, unchanged, unchangeds⟩

theorem redactFields_iff : ∀ (depth : Nat) (fields : List (Scalar × LogValue)),
    LogValue.ProperFields fields →
    ((HiddenFields text ((redactFields text depth fields).map fun field =>
        (.str field.1, field.2)) ∧
      UnchangedFields text depth fields ((redactFields text depth fields).map fun field =>
        (.str field.1, field.2))) ↔ WalkableFields text depth fields)
  | depth, [], _ => by simp [redactFields, HiddenFields, UnchangedFields, WalkableFields]
  | depth, (key, item) :: fields, proper => by
    have head := redactContainer_iff depth item proper.1
    have rest := redactFields_iff depth fields proper.2
    have turned : Scalar.str key.text = key ↔ key = .str key.text := eq_comm
    simp only [redactFields, List.map_cons, HiddenFields, UnchangedFields, WalkableFields, ← rest]
    by_cases sensitive : isSensitive text key.text = true
    · simp [sensitive, hidden_redacted, turned]
      tauto
    · rw [Bool.not_eq_true] at sensitive
      simp [sensitive, ← head, turned]
      tauto

theorem unchanged_refl : ∀ (depth : Nat) (value : LogValue), Unchanged text depth value value
  | _, .scalar _ => rfl
  | depth, .dict fields => fun _ => ⟨fields, rfl, unchangedFields_refl (depth + 1) fields⟩
  | depth, .list items => fun _ => ⟨items, rfl, unchangedItems_refl (depth + 1) items⟩
  | depth, .tuple items => fun _ => ⟨items, rfl, unchangedItems_refl (depth + 1) items⟩

theorem unchangedItems_refl : ∀ (depth : Nat) (items : List LogValue),
    UnchangedItems text depth items items
  | _, [] => rfl
  | depth, item :: items =>
      ⟨item, items, rfl, unchanged_refl depth item, unchangedItems_refl depth items⟩

theorem unchangedFields_refl : ∀ (depth : Nat) (fields : List (Scalar × LogValue)),
    UnchangedFields text depth fields fields
  | _, [] => rfl
  | depth, (key, item) :: fields =>
      ⟨key, item, fields, rfl, rfl, fun _ => unchanged_refl depth item,
        unchangedFields_refl depth fields⟩

end

theorem redactSecrets_items (event : EventDict) : (redactSecrets text event).items =
    (redactFields text 0 event.items).map fun field => (.str field.1, field.2) := by
  have walk : ∀ fields : List (String × LogValue),
      (fields.map fun (key, value) => (key, redactValue text key value 0)) =
        redactFields text 0 (fields.map fun field => (.str field.1, field.2)) := by
    intro fields
    induction fields with
    | nil => rfl
    | cons field fields ih =>
      rw [List.map_cons, List.map_cons, ih]
      rfl
  simp only [EventDict.items, redactSecrets, walk]

end

/-- A record is redacted exactly when the walk can redact it. -/
theorem redactSecrets_iff (text : Text) (event : EventDict) :
    Redaction text event (redactSecrets text event) ↔ WalkableFields text 0 event.items := by
  rw [← redactFields_iff 0 event.items event.proper]
  constructor
  · intro ⟨hidden, unchanged⟩
    rw [redactSecrets_items] at hidden unchanged
    exact ⟨hidden, unchanged⟩
  · intro ⟨hidden, unchanged⟩
    constructor
    · rwa [redactSecrets_items]
    · rwa [redactSecrets_items]

/-! ### A credential in a tuple -/

/-- `args=({"password": "hunter2"},)` -/
def tupleRecord : EventDict where
  fields := [("args", .tuple [.dict [(.str "password", .scalar (.str "hunter2"))]])]
  distinct := by decide
  proper := by simp [LogValue.ProperFields, LogValue.Proper, LogValue.ProperItems]

theorem tuple_not_redacted :
    let text : Text := ⟨id, fun _ => true, Char.isDigit, fun _ => none⟩
    ¬Redaction text tupleRecord (redactSecrets text tupleRecord) := by
  intro text redaction
  have same : (redactSecrets text tupleRecord).items = tupleRecord.items := by
    have plain : isSensitive text "args" = false := by decide
    simp [EventDict.items, redactSecrets, tupleRecord, redactValue, plain, redactContainer]
  have hidden := redaction.hidden
  have sensitive : isSensitive text "password" = true :=
    List.any_eq_true.mpr ⟨"password", by simp [sensitiveSubstrings], decide_eq_true List.infix_rfl⟩
  rw [same] at hidden
  simp [EventDict.items, tupleRecord, HiddenFields, HiddenItems, Hidden, sensitive,
    redacted] at hidden

end Keyring

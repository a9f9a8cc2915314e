import Keyring.Domain.Text
import Mathlib.Tactic.Ring

/-!
# Reading a `repr` back

`repr` writes two different strings differently: what stands between its quotes
is read back character by character.
-/

set_option autoImplicit false

namespace Keyring

def hexValue (digits : List Char) : Nat :=
  digits.foldl (fun n digit => 16 * n + "0123456789abcdef".toList.idxOf digit) 0

/-- The first character that is written in a text between quotes, and what comes
after it. -/
def unreprChar : List Char → Option (Char × List Char)
  | '\\' :: 't' :: rest => some ('\t', rest)
  | '\\' :: 'n' :: rest => some ('\n', rest)
  | '\\' :: 'r' :: rest => some ('\r', rest)
  | '\\' :: 'x' :: rest => some (Char.ofNat (hexValue (rest.take 2)), rest.drop 2)
  | '\\' :: 'u' :: rest => some (Char.ofNat (hexValue (rest.take 4)), rest.drop 4)
  | '\\' :: 'U' :: rest => some (Char.ofNat (hexValue (rest.take 8)), rest.drop 8)
  | '\\' :: c :: rest => some (c, rest)
  | c :: rest => some (c, rest)
  | [] => none

theorem hexDigit_value {n : Nat} (small : n < 16) :
    "0123456789abcdef".toList.idxOf (hexDigit n) = n := by
  have each : ∀ i : Fin 16, "0123456789abcdef".toList.idxOf (hexDigit i) = i := by decide
  exact each ⟨n, small⟩

theorem hexDigits_succ (width n : Nat) :
    hexDigits (width + 1) n = hexDigit (n / 16 ^ width % 16) :: hexDigits width n := by
  simp [hexDigits, List.range_succ]

@[simp] theorem hexDigits_length (width n : Nat) : (hexDigits width n).length = width := by
  simp [hexDigits]

theorem hexValue_hexDigits (width n : Nat) : hexValue (hexDigits width n) = n % 16 ^ width := by
  have from_left : ∀ (width start : Nat), (hexDigits width n).foldl
      (fun n digit => 16 * n + "0123456789abcdef".toList.idxOf digit) start =
        start * 16 ^ width + n % 16 ^ width := by
    intro width
    induction width with
    | zero => intro start; simp [hexDigits, Nat.mod_one]
    | succ width ih =>
        intro start
        rw [hexDigits_succ, List.foldl_cons, ih, hexDigit_value (Nat.mod_lt _ (by decide)),
          pow_succ, Nat.mod_mul]
        ring
  simpa [hexValue] using from_left width 0

theorem read_hexDigits (width : Nat) {c : Char} (fits : c.toNat < 16 ^ width) (rest : List Char) :
    (Char.ofNat (hexValue ((hexDigits width c.toNat ++ rest).take width)),
      (hexDigits width c.toNat ++ rest).drop width) = (c, rest) := by
  rw [List.take_left' (hexDigits_length _ _), List.drop_left' (hexDigits_length _ _),
    hexValue_hexDigits, Nat.mod_eq_of_lt fits, Char.ofNat_toNat]

theorem toNat_lt (c : Char) : c.toNat < 16 ^ 8 := by
  have scalar : c.toNat.isValidChar := c.valid
  rcases scalar with low | ⟨-, high⟩ <;> omega

theorem unreprChar_plain {c : Char} (plain : c ≠ '\\') (rest : List Char) :
    unreprChar (c :: rest) = some (c, rest) := by
  unfold unreprChar
  split <;> simp_all

theorem unreprChar_reprChar (text : Text) {quote : Char} (quotes : quote = '\'' ∨ quote = '"')
    (c : Char) (rest : List Char) :
    unreprChar (reprChar text quote c ++ rest) = some (c, rest) := by
  unfold reprChar
  split
  · rename_i escaped
    rw [Bool.or_eq_true, decide_eq_true_eq, decide_eq_true_eq] at escaped
    rcases escaped with rfl | rfl
    · rcases quotes with rfl | rfl <;> rfl
    · rfl
  · rename_i plain
    have plain : c ≠ '\\' := by
      intro same
      simp [same] at plain
    split
    · rename_i same
      rw [same]
      rfl
    split
    · rename_i same
      rw [same]
      rfl
    split
    · rename_i same
      rw [same]
      rfl
    split
    · rename_i control
      rw [Bool.or_eq_true, decide_eq_true_eq, decide_eq_true_eq] at control
      exact congrArg some (read_hexDigits 2 (by omega) rest)
    split
    · exact unreprChar_plain plain rest
    split
    · exact congrArg some (read_hexDigits 2 (by omega) rest)
    split
    · exact congrArg some (read_hexDigits 4 (by omega) rest)
    · exact congrArg some (read_hexDigits 8 (toNat_lt c) rest)

theorem reprChars_injective (text : Text) {quote : Char} (quotes : quote = '\'' ∨ quote = '"') :
    ∀ {cs ds : List Char}, cs.flatMap (reprChar text quote) ++ [quote] =
      ds.flatMap (reprChar text quote) ++ [quote] → cs = ds := by
  have plain : quote ≠ '\\' := by rcases quotes with rfl | rfl <;> decide
  have ended : unreprChar [quote] = some (quote, []) := unreprChar_plain plain []
  have read : ∀ c cs, unreprChar ((c :: cs).flatMap (reprChar text quote) ++ [quote]) =
      some (c, cs.flatMap (reprChar text quote) ++ [quote]) := by
    intro c cs
    rw [List.flatMap_cons, List.append_assoc, unreprChar_reprChar text quotes]
  intro cs
  induction cs with
  | nil =>
      intro ds same
      cases ds with
      | nil => rfl
      | cons d ds =>
          have impossible := congrArg unreprChar same
          rw [read, List.flatMap_nil, List.nil_append, ended] at impossible
          simp at impossible
  | cons c cs ih =>
      intro ds same
      have reads := congrArg unreprChar same
      rw [read] at reads
      cases ds with
      | nil =>
          rw [List.flatMap_nil, List.nil_append, ended] at reads
          simp at reads
      | cons d ds =>
          rw [read] at reads
          simp only [Option.some.injEq, Prod.mk.injEq] at reads
          rw [reads.1, ih reads.2]

theorem repr_injective (text : Text) {s t : String} (same : repr text s = repr text t) : s = t := by
  have quotes : ∀ c : Bool, (if c then '"' else '\'') = '\'' ∨ (if c then '"' else '\'') = '"' := by
    decide
  simp only [repr, String.ofList_inj, List.cons_append, List.cons.injEq] at same
  obtain ⟨quote, body⟩ := same
  rw [quote] at body
  exact String.toList_inj.mp (reprChars_injective text (quotes _) body)

end Keyring

import Keyring.Python.Json
import Mathlib.Data.List.Induction

/-!
# Reading JSON texts back

`loads` undoes `dumps`: every kind of value is read back from what it is written as,
whatever comes after it, by induction on the characters that are left.
-/

set_option autoImplicit false

namespace Keyring

/-! ## Escapes -/

theorem hexDigit_isHex (n : Nat) :
    "0123456789abcdefABCDEF".toList.contains (hexDigit (n % 16)) = true := by
  have each : ∀ i : Fin 16, "0123456789abcdefABCDEF".toList.contains (hexDigit i) = true := by
    decide
  exact each ⟨n % 16, Nat.mod_lt _ (by decide)⟩

theorem hexDigit_toLower (n : Nat) : (hexDigit (n % 16)).toLower = hexDigit (n % 16) := by
  have each : ∀ i : Fin 16, (hexDigit i).toLower = hexDigit i := by decide
  exact each ⟨n % 16, Nat.mod_lt _ (by decide)⟩

theorem readUnit_hexDigits {n : Nat} (fits : n < 0x10000) (rest : List Char) :
    readUnit (hexDigits 4 n ++ rest) = some (n, rest) := by
  have head : (hexDigits 4 n ++ rest).take 4 = hexDigits 4 n :=
    List.take_left' (hexDigits_length 4 n)
  have tail : (hexDigits 4 n ++ rest).drop 4 = rest := List.drop_left' (hexDigits_length 4 n)
  have hex : (hexDigits 4 n).all ("0123456789abcdefABCDEF".toList.contains ·) = true := by
    simp only [hexDigits, List.all_map, List.all_eq_true, Function.comp_apply]
    intro i _
    exact hexDigit_isHex (n / 16 ^ i)
  have lower : (hexDigits 4 n).map Char.toLower = hexDigits 4 n := by
    simp only [hexDigits, List.map_map]
    apply List.map_congr_left
    intro i _
    exact hexDigit_toLower (n / 16 ^ i)
  rw [readUnit, head, tail, if_pos ⟨hexDigits_length 4 n, hex⟩, lower, hexValue_hexDigits,
    Nat.mod_eq_of_lt (by omega)]

theorem not_surrogate (c : Char) : isHighSurrogate c.toNat = false ∧ isLowSurrogate c.toNat = false := by
  have scalar : c.toNat.isValidChar := c.valid
  simp only [isHighSurrogate, isLowSurrogate, Bool.and_eq_false_iff, decide_eq_false_iff_not]
  rcases scalar with low | ⟨high, -⟩ <;> omega

theorem surrogates_fit {n : Nat} (below : n < 0x110000) :
    highSurrogate n < 0x10000 ∧ lowSurrogate n < 0x10000 := by
  unfold highSurrogate lowSurrogate
  omega

theorem isHighSurrogate_highSurrogate {n : Nat} (below : n < 0x110000) :
    isHighSurrogate (highSurrogate n) = true := by
  unfold isHighSurrogate highSurrogate
  rw [Bool.and_eq_true, decide_eq_true_eq, decide_eq_true_eq]
  omega

theorem isLowSurrogate_lowSurrogate (n : Nat) : isLowSurrogate (lowSurrogate n) = true := by
  unfold isLowSurrogate lowSurrogate
  rw [Bool.and_eq_true, decide_eq_true_eq, decide_eq_true_eq]
  omega

theorem joinSurrogates_of {n : Nat} (high : 0x10000 ≤ n) :
    joinSurrogates (highSurrogate n) (lowSurrogate n) = n := by
  unfold joinSurrogates highSurrogate lowSurrogate
  omega

theorem readEscape_unit {c : Char} (fits : c.toNat < 0x10000) (rest : List Char) :
    readEscape ('u' :: (hexDigits 4 c.toNat ++ rest)) = some (c, rest) := by
  rw [readEscape, readUnit_hexDigits fits]
  simp only [Option.bind_eq_bind, Option.bind_some, not_surrogate c, Bool.false_eq_true, if_false,
    Char.ofNat_toNat]

theorem readEscape_surrogates {high low : Nat} (fits : high < 0x10000) (fits' : low < 0x10000)
    (first : isHighSurrogate high = true) (second : isLowSurrogate low = true) (rest : List Char) :
    readEscape ('u' :: (hexDigits 4 high ++ (unitEscape low ++ rest))) =
      some (Char.ofNat (joinSurrogates high low), rest) := by
  rw [readEscape, readUnit_hexDigits fits]
  simp only [Option.bind_eq_bind, Option.bind_some, first, if_true, unitEscape, List.cons_append,
    readUnit_hexDigits fits', second]

theorem readEscape_pair {c : Char} (wide : 0x10000 ≤ c.toNat) (rest : List Char) :
    readEscape ('u' :: (hexDigits 4 (highSurrogate c.toNat) ++
      (unitEscape (lowSurrogate c.toNat) ++ rest))) = some (c, rest) := by
  have below : c.toNat < 0x110000 := by
    have scalar : c.toNat.isValidChar := c.valid
    rcases scalar with low | ⟨-, high⟩ <;> omega
  obtain ⟨fits, fits'⟩ := surrogates_fit below
  rw [readEscape_surrogates fits fits' (isHighSurrogate_highSurrogate below)
    (isLowSurrogate_lowSurrogate _), joinSurrogates_of wide, Char.ofNat_toNat]

theorem readEscape_letter {c letter : Char} (short : (c, letter) ∈ shortEscapes)
    (rest : List Char) : readEscape (letter :: rest) = some (c, rest) := by
  have each : ∀ entry ∈ shortEscapes, entry.2 ≠ 'u' ∧ entry.2 ≠ '/' ∧
      (shortEscapes.find? (·.2 = entry.2)).map (·.1) = some entry.1 := by decide
  obtain ⟨notU, notSlash, found⟩ := each _ short
  obtain ⟨entry, here, rfl⟩ := Option.map_eq_some_iff.mp found
  simp only at notU notSlash here
  unfold readEscape
  split
  · rename_i same
    exact absurd (List.cons.inj same).1 notU
  · rename_i same
    exact absurd (List.cons.inj same).1 notSlash
  · rename_i same
    obtain ⟨rfl, rfl⟩ := List.cons.inj same
    rw [here]
    rfl
  · rename_i same
    cases same

/-! ## Strings -/

theorem lookup_shortEscapes {c letter : Char} (found : shortEscapes.lookup c = some letter) :
    (c, letter) ∈ shortEscapes := by
  obtain ⟨l₁, l₂, split, -⟩ := List.lookup_eq_some_iff.mp found
  rw [split]
  simp

theorem readString_backslash (fuel : Nat) (text : List Char) :
    readString (fuel + 1) ('\\' :: text) = (readEscape text).bind fun (c, text) =>
      (readString fuel text).map fun (cs, text) => (c :: cs, text) := by
  rw [readString]
  cases readEscape text with
  | none => rfl
  | some read =>
      cases h : readString fuel read.2 <;> simp [h]

theorem readString_escapeChar (fuel : Nat) (c : Char) (rest : List Char) :
    readString (fuel + 1) (escapeChar c ++ rest) =
      (readString fuel rest).map fun (cs, text) => (c :: cs, text) := by
  unfold escapeChar
  split
  · rename_i letter found
    rw [List.cons_append, List.cons_append, List.nil_append, readString_backslash,
      readEscape_letter (lookup_shortEscapes found), Option.bind_some]
  · rename_i plain
    have noQuote : c ≠ '"' := by
      intro same
      rw [same] at plain
      cases plain
    have noBackslash : c ≠ '\\' := by
      intro same
      rw [same] at plain
      cases plain
    split
    · rename_i printable
      rw [List.cons_append, List.nil_append, readString]
      · rw [if_neg (by omega)]
        cases readString fuel rest <;> rfl
      · exact noQuote
      · exact noBackslash
    split
    · rename_i fits
      rw [unitEscape, List.cons_append, List.cons_append, readString_backslash,
        readEscape_unit fits, Option.bind_some]
    · rename_i wide
      rw [unitEscape, List.append_assoc, List.cons_append, List.cons_append, readString_backslash,
        readEscape_pair (by omega), Option.bind_some]

theorem readString_escaped (cs rest : List Char) : ∀ {fuel : Nat}, cs.length < fuel →
    readString fuel (cs.flatMap escapeChar ++ '"' :: rest) = some (cs, rest) := by
  induction cs with
  | nil =>
      intro fuel enough
      obtain ⟨fuel, rfl⟩ := Nat.exists_eq_add_one_of_ne_zero (Nat.ne_of_gt enough)
      rfl
  | cons c cs ih =>
      intro fuel enough
      rw [List.length_cons] at enough
      obtain ⟨fuel, rfl⟩ := Nat.exists_eq_add_one_of_ne_zero (Nat.ne_zero_of_lt enough)
      rw [List.flatMap_cons, List.append_assoc, readString_escapeChar, ih (by omega)]
      rfl

theorem escapeChar_length_pos (c : Char) : 0 < (escapeChar c).length := by
  unfold escapeChar
  split
  · simp
  split
  · simp
  split <;> simp [unitEscape]

theorem length_le_escaped (cs : List Char) : cs.length ≤ (cs.flatMap escapeChar).length := by
  induction cs with
  | nil => simp
  | cons c cs ih =>
      have some := escapeChar_length_pos c
      rw [List.flatMap_cons, List.length_append, List.length_cons]
      omega

theorem readText_escaped (s : String) (rest : List Char) :
    readText (s.toList.flatMap escapeChar ++ '"' :: rest) = some (s, rest) := by
  have enough := length_le_escaped s.toList
  have fuel : s.toList.length < (s.toList.flatMap escapeChar ++ '"' :: rest).length + 1 := by
    rw [List.length_append]
    omega
  rw [readText, readString_escaped _ _ fuel]
  simp

/-! ## Numbers -/

structure IsDigits (digits : List Char) : Prop where
  nonempty : digits ≠ []
  all : ∀ c ∈ digits, c.isDigit = true

/-- `-?(?:0|[1-9]\d*)` -/
def IsWhole (text : List Char) : Prop :=
  ∃ digits, (text = digits ∨ text = '-' :: digits) ∧ IsDigits digits ∧
    (digits.head? = some '0' → digits = ['0'])

def IsFraction (text : List Char) : Prop :=
  text = [] ∨ ∃ digits, text = '.' :: digits ∧ IsDigits digits

def IsExponent (text : List Char) : Prop :=
  text = [] ∨ ∃ e sign digits, (e = 'e' ∨ e = 'E') ∧ (sign = [] ∨ sign = ['-'] ∨ sign = ['+']) ∧
    text = e :: (sign ++ digits) ∧ IsDigits digits

/-- The texts that `float.__repr__` writes, and some more. -/
def FloatText (written : String) : Prop :=
  written = "NaN" ∨ written = "Infinity" ∨ written = "-Infinity" ∨
    ∃ whole fraction exponent, IsWhole whole ∧ IsFraction fraction ∧ IsExponent exponent ∧
      (fraction ≠ [] ∨ exponent ≠ []) ∧ written.toList = whole ++ (fraction ++ exponent)

/-- No number goes on in this text. -/
def EndsNumber (rest : List Char) : Prop :=
  ∀ c ∈ rest.head?, c.isDigit = false ∧ c ≠ '.' ∧ c ≠ 'e' ∧ c ≠ 'E'

def NoDigit (rest : List Char) : Prop := ∀ c ∈ rest.head?, c.isDigit = false

theorem EndsNumber.noDigit {rest : List Char} (ends : EndsNumber rest) : NoDigit rest :=
  fun c first => (ends c first).1

theorem noDigit_takeWhile {rest : List Char} (ends : NoDigit rest) :
    rest.takeWhile Char.isDigit = [] ∧ rest.dropWhile Char.isDigit = rest := by
  cases rest with
  | nil => simp
  | cons c rest =>
      have no := ends c (by simp)
      simp [no]

theorem IsDigits.takeWhile {digits rest : List Char} (number : IsDigits digits)
    (ends : NoDigit rest) : (digits ++ rest).takeWhile Char.isDigit = digits := by
  rw [List.takeWhile_append_of_pos number.all, (noDigit_takeWhile ends).1, List.append_nil]

theorem IsDigits.dropWhile {digits rest : List Char} (number : IsDigits digits)
    (ends : NoDigit rest) : (digits ++ rest).dropWhile Char.isDigit = rest := by
  rw [List.dropWhile_append_of_pos number.all, (noDigit_takeWhile ends).2]

theorem IsDigits.head {digits : List Char} (number : IsDigits digits) :
    ∃ d rest, digits = d :: rest ∧ d.isDigit = true := by
  cases digits with
  | nil => exact absurd rfl number.nonempty
  | cons d rest => exact ⟨d, rest, rfl, number.all d List.mem_cons_self⟩

theorem scanWhole_digits {digits rest : List Char} (sign : List Char) (number : IsDigits digits)
    (zero : digits.head? = some '0' → digits = ['0']) (ends : NoDigit rest) :
    (match digits ++ rest with
      | '0' :: text => some (sign ++ ['0'], text)
      | text =>
          match text.takeWhile Char.isDigit with
          | [] => none
          | digits => some (sign ++ digits, text.dropWhile Char.isDigit)) =
      some (sign ++ digits, rest) := by
  obtain ⟨d, tail, rfl, digit⟩ := number.head
  split
  · rename_i text same
    obtain ⟨rfl, rfl⟩ := List.cons.inj same
    have only := zero rfl
    rw [only]
    simp [(List.cons.inj only).2]
  · rw [number.takeWhile ends, number.dropWhile ends]

theorem scanWhole_whole {whole rest : List Char} (number : IsWhole whole) (ends : NoDigit rest) :
    scanWhole (whole ++ rest) = some (whole, rest) := by
  obtain ⟨digits, rfl | rfl, number, zero⟩ := number
  · obtain ⟨d, tail, rfl, digit⟩ := number.head
    have plain : ¬d = '-' := by
      intro same
      rw [same] at digit
      cases digit
    have scanned := scanWhole_digits [] number zero ends
    unfold scanWhole
    simp only [List.cons_append, List.head?_cons, Option.some.injEq, plain, if_false]
    exact scanned
  · exact scanWhole_digits ['-'] number zero ends

theorem scanFraction_fraction {fraction rest : List Char} (number : IsFraction fraction)
    (ends : NoDigit rest) (noPoint : rest.head? ≠ some '.') :
    scanFraction (fraction ++ rest) = (fraction, rest) := by
  obtain rfl | ⟨digits, rfl, number⟩ := number
  · rw [List.nil_append]
    unfold scanFraction
    split
    · exact absurd rfl noPoint
    · rfl
  · obtain ⟨d, tail, rfl, digit⟩ := number.head
    rw [List.cons_append, scanFraction, number.takeWhile ends, number.dropWhile ends]

theorem scanExponent_exponent {exponent rest : List Char} (number : IsExponent exponent)
    (ends : EndsNumber rest) : scanExponent (exponent ++ rest) = (exponent, rest) := by
  obtain rfl | ⟨e, sign, digits, mark, signed, rfl, number⟩ := number
  · cases rest with
    | nil => rfl
    | cons c rest =>
        have ended := ends c (by simp)
        rw [List.nil_append, scanExponent, if_neg (by tauto)]
  · have first := number.takeWhile ends.noDigit
    have rest := number.dropWhile ends.noDigit
    obtain ⟨d, tail, rfl, digit⟩ := number.head
    have plain : ¬(d = '-' ∨ d = '+') := by
      rintro (rfl | rfl) <;> cases digit
    rw [List.cons_append, scanExponent, if_pos mark]
    obtain rfl | rfl | rfl := signed
    · simp only [List.nil_append, List.cons_append, List.head?_cons, Option.some.injEq, plain,
        if_false] at first rest ⊢
      rw [first, rest]
    · simp only [List.cons_append, List.nil_append, List.head?_cons, Option.some.injEq, true_or,
        if_true, List.tail_cons, List.take_succ_cons, List.take_zero] at first rest ⊢
      rw [first, rest]
    · simp only [List.cons_append, List.nil_append, List.head?_cons, Option.some.injEq, or_true,
        if_true, List.tail_cons, List.take_succ_cons, List.take_zero] at first rest ⊢
      rw [first, rest]

theorem toDigits_isDigits (n : Nat) : IsDigits (Nat.toDigits 10 n) where
  nonempty := Nat.toDigits_ne_nil
  all _ member := Nat.isDigit_of_mem_toDigits (by decide) (by decide) member

/-- Only the number 0 is written with a leading 0. -/
theorem toDigits_head (n : Nat) :
    (Nat.toDigits 10 n).head? = some '0' → Nat.toDigits 10 n = ['0'] := by
  induction n using Nat.strongRecOn with
  | ind n ih =>
      intro zero
      by_cases small : n < 10
      · rw [Nat.toDigits_of_lt_base small] at zero ⊢
        rw [Option.some.inj zero]
      · rw [Nat.toDigits_of_base_le (by decide) (by omega), List.head?_append] at zero
        have nonempty : (Nat.toDigits 10 (n / 10)).head? ≠ none := by
          simp
        have above : (Nat.toDigits 10 (n / 10)).head? = some '0' := by
          cases head : (Nat.toDigits 10 (n / 10)).head? with
          | none => exact absurd head nonempty
          | some d => rw [head] at zero; exact zero
        have value := congrArg (Nat.ofDigitChars 10 · 0) (ih (n / 10) (by omega) above)
        simp only [Nat.ofDigitChars_ten_toDigits] at value
        have zero : n / 10 = 0 := value
        omega

theorem intText_isWhole (n : Int) : IsWhole (intText n) := by
  refine ⟨Nat.toDigits 10 n.natAbs, ?_, toDigits_isDigits _, toDigits_head _⟩
  unfold intText
  split
  · exact .inr rfl
  · exact .inl rfl

theorem wholeValue_intText (n : Int) : wholeValue (intText n) = n := by
  unfold intText wholeValue
  split
  · rw [List.head?_cons, if_pos rfl, List.tail_cons, Nat.ofDigitChars_ten_toDigits]
    omega
  · obtain ⟨d, tail, digits, digit⟩ := (toDigits_isDigits n.natAbs).head
    have plain : ¬(Nat.toDigits 10 n.natAbs).head? = some '-' := by
      rw [digits]
      intro same
      rw [Option.some.inj same] at digit
      cases digit
    rw [if_neg plain, Nat.ofDigitChars_ten_toDigits]
    omega

theorem intText_countP (n : Int) :
    (intText n).countP Char.isDigit = (Nat.toDigits 10 n.natAbs).length := by
  have all : (Nat.toDigits 10 n.natAbs).countP Char.isDigit = (Nat.toDigits 10 n.natAbs).length :=
    List.countP_eq_length.mpr (toDigits_isDigits n.natAbs).all
  unfold intText
  split
  · rw [List.countP_cons_of_neg (by decide), all]
  · exact all

theorem readJsonNumber_intText {n : Int} (fits : (Json.int n).fitsDigits = true)
    {rest : List Char} (ends : EndsNumber rest) :
    readJsonNumber (intText n ++ rest) = some (.int n, rest) := by
  have noPoint : rest.head? ≠ some '.' := fun point => (ends _ point).2.1 rfl
  have fraction := scanFraction_fraction (.inl rfl) ends.noDigit noPoint
  have exponent := scanExponent_exponent (.inl rfl) ends
  rw [List.nil_append] at fraction exponent
  simp only [Json.fitsDigits, decide_eq_true_eq] at fits
  rw [readJsonNumber, scanWhole_whole (intText_isWhole n) ends.noDigit]
  simp only [Option.bind_eq_bind, Option.bind_some, fraction, exponent, and_self, if_true,
    intText_countP, fits, wholeValue_intText]

theorem IsExponent.noDigit {exponent rest : List Char} (number : IsExponent exponent)
    (ends : EndsNumber rest) :
    NoDigit (exponent ++ rest) ∧ (exponent ++ rest).head? ≠ some '.' := by
  obtain rfl | ⟨e, sign, digits, mark, -, rfl, -⟩ := number
  · exact ⟨ends.noDigit, fun point => (ends _ point).2.1 rfl⟩
  · obtain rfl | rfl := mark <;> simp [NoDigit]

theorem IsFraction.noDigit {fraction rest : List Char} (number : IsFraction fraction)
    (ends : NoDigit rest) : NoDigit (fraction ++ rest) := by
  obtain rfl | ⟨digits, rfl, -⟩ := number
  · exact ends
  · simp [NoDigit]

theorem readJsonNumber_float {whole fraction exponent rest : List Char} (isWhole : IsWhole whole)
    (isFraction : IsFraction fraction) (isExponent : IsExponent exponent)
    (some : fraction ≠ [] ∨ exponent ≠ []) (ends : EndsNumber rest) :
    readJsonNumber (whole ++ (fraction ++ (exponent ++ rest))) =
      .some (.float (String.ofList (whole ++ (fraction ++ exponent))), rest) := by
  obtain ⟨after, noPoint⟩ := isExponent.noDigit ends
  have scanned := scanWhole_whole isWhole (isFraction.noDigit after)
  have neither : ¬(fraction = [] ∧ exponent = []) := by tauto
  rw [readJsonNumber, scanned]
  simp only [Option.bind_eq_bind, Option.bind_some,
    scanFraction_fraction isFraction after noPoint, scanExponent_exponent isExponent ends, neither,
    if_false, List.append_assoc]

/-! ## Scalars -/

/-- How a number begins. -/
def NumberHead (text : List Char) : Prop :=
  (∃ d rest, text = d :: rest ∧ d.isDigit = true) ∨
    ∃ d rest, text = '-' :: d :: rest ∧ d.isDigit = true

theorem IsWhole.numberHead {whole : List Char} (number : IsWhole whole) (rest : List Char) :
    NumberHead (whole ++ rest) := by
  obtain ⟨digits, rfl | rfl, number, -⟩ := number
  · obtain ⟨d, tail, rfl, digit⟩ := number.head
    exact .inl ⟨d, tail ++ rest, rfl, digit⟩
  · obtain ⟨d, tail, rfl, digit⟩ := number.head
    exact .inr ⟨d, tail ++ rest, rfl, digit⟩

theorem readScalar_number {text : List Char} (head : NumberHead text) :
    readScalar text = readJsonNumber text := by
  have none : jsonWords.find? (fun entry => entry.1.isPrefixOf text) = none := by
    rw [List.find?_eq_none]
    have first : ∀ entry ∈ jsonWords, (∃ c rest, entry.1 = c :: rest ∧ c.isDigit = false ∧ c ≠ '-') ∨
        ∃ c rest, entry.1 = '-' :: c :: rest ∧ c.isDigit = false := by
      intro entry member
      simp only [jsonWords, List.mem_cons, List.not_mem_nil, or_false] at member
      obtain rfl | rfl | rfl | rfl | rfl | rfl := member
      · exact .inl ⟨'n', _, rfl, by decide, by decide⟩
      · exact .inl ⟨'t', _, rfl, by decide, by decide⟩
      · exact .inl ⟨'f', _, rfl, by decide, by decide⟩
      · exact .inl ⟨'N', _, rfl, by decide, by decide⟩
      · exact .inl ⟨'I', _, rfl, by decide, by decide⟩
      · exact .inr ⟨'I', _, rfl, by decide⟩
    intro entry member isPrefix
    rw [List.isPrefixOf_iff_prefix] at isPrefix
    obtain ⟨c, rest, word, noDigit, noSign⟩ | ⟨c, rest, word, noDigit⟩ := first entry member
    · rw [word] at isPrefix
      obtain ⟨d, tail, rfl, digit⟩ | ⟨d, tail, rfl, digit⟩ := head
      · rw [(List.cons_prefix_cons.mp isPrefix).1, digit] at noDigit
        cases noDigit
      · exact noSign (List.cons_prefix_cons.mp isPrefix).1
    · rw [word] at isPrefix
      obtain ⟨d, tail, rfl, digit⟩ | ⟨d, tail, rfl, digit⟩ := head
      · rw [← (List.cons_prefix_cons.mp isPrefix).1] at digit
        cases digit
      · rw [(List.cons_prefix_cons.mp (List.cons_prefix_cons.mp isPrefix).2).1, digit] at noDigit
        cases noDigit
  rw [readScalar, none]

theorem readScalar_word {word : List Char} {value : Json} (entry : (word, value) ∈ jsonWords)
    (rest : List Char) : readScalar (word ++ rest) = some (value, rest) := by
  simp only [jsonWords, List.mem_cons, List.not_mem_nil, or_false, Prod.mk.injEq] at entry
  obtain ⟨rfl, rfl⟩ | ⟨rfl, rfl⟩ | ⟨rfl, rfl⟩ | ⟨rfl, rfl⟩ | ⟨rfl, rfl⟩ | ⟨rfl, rfl⟩ := entry
  all_goals rfl

/-! ## Values -/

namespace Json

mutual

/-- The fields of an object have distinct names, and a number that is no integer is one. -/
def Proper : Json → Prop
  | .float written => FloatText written
  | .arr items => ProperItems items
  | .obj fields => (fields.map (·.1)).Nodup ∧ ProperFields fields
  | _ => True

def ProperItems : List Json → Prop
  | [] => True
  | item :: items => item.Proper ∧ ProperItems items

def ProperFields : List (String × Json) → Prop
  | [] => True
  | (_, item) :: fields => item.Proper ∧ ProperFields fields

end

end Json

/-- How a value begins. -/
structure ValueHead (text : List Char) : Prop where
  nonempty : text ≠ []
  noSpace : skipSpace text = text
  noEnd : text.head? ≠ some ']'

theorem valueHead_cons {c : Char} (rest : List Char)
    (plain : c ≠ ' ' ∧ c ≠ '\t' ∧ c ≠ '\n' ∧ c ≠ '\r' ∧ c ≠ ']') : ValueHead (c :: rest) where
  nonempty := List.cons_ne_nil _ _
  noSpace := by simp [skipSpace, plain]
  noEnd := by simp [plain]

theorem digit_plain {d : Char} (digit : d.isDigit = true) :
    (d ≠ ' ' ∧ d ≠ '\t' ∧ d ≠ '\n' ∧ d ≠ '\r' ∧ d ≠ ']') ∧ d ≠ '"' ∧ d ≠ '[' ∧ d ≠ '{' := by
  refine ⟨⟨?_, ?_, ?_, ?_, ?_⟩, ?_, ?_, ?_⟩ <;> (rintro rfl; cases digit)

/-- A value that is read by `readScalar`. -/
structure ScalarHead (text : List Char) : Prop extends ValueHead text where
  plain : ∀ c ∈ text.head?, c ≠ '"' ∧ c ≠ '[' ∧ c ≠ '{'

theorem NumberHead.scalarHead {text : List Char} (head : NumberHead text) : ScalarHead text := by
  obtain ⟨d, tail, rfl, digit⟩ | ⟨d, tail, rfl, -⟩ := head
  · exact ⟨valueHead_cons _ (digit_plain digit).1, by simpa using (digit_plain digit).2⟩
  · exact ⟨valueHead_cons _ (by decide), by simp⟩

theorem scalarHead_word {word : List Char} {value : Json} (entry : (word, value) ∈ jsonWords)
    (rest : List Char) : ScalarHead (word ++ rest) := by
  simp only [jsonWords, List.mem_cons, List.not_mem_nil, or_false, Prod.mk.injEq] at entry
  obtain ⟨rfl, rfl⟩ | ⟨rfl, rfl⟩ | ⟨rfl, rfl⟩ | ⟨rfl, rfl⟩ | ⟨rfl, rfl⟩ | ⟨rfl, rfl⟩ := entry
  all_goals exact ⟨valueHead_cons _ (by decide), by simp⟩

theorem readValue_scalar {text : List Char} (head : ScalarHead text) (fuel : Nat) :
    readValue (fuel + 1) text = readScalar text := by
  cases text with
  | nil => exact absurd rfl head.nonempty
  | cons c text =>
      obtain ⟨quote, bracket, brace⟩ := head.plain c rfl
      rw [readValue]
      · exact fun _ same => quote (List.cons.inj same).1
      · exact fun _ same => bracket (List.cons.inj same).1
      · exact fun _ same => brace (List.cons.inj same).1

theorem FloatText.scalarHead {written : String} (proper : FloatText written) (rest : List Char) :
    ScalarHead (written.toList ++ rest) := by
  obtain rfl | rfl | rfl | ⟨whole, fraction, exponent, isWhole, -, -, -, text⟩ := proper
  · exact scalarHead_word (show (_, Json.float "NaN") ∈ jsonWords by simp [jsonWords]) rest
  · exact scalarHead_word (show (_, Json.float "Infinity") ∈ jsonWords by simp [jsonWords]) rest
  · exact scalarHead_word (show (_, Json.float "-Infinity") ∈ jsonWords by simp [jsonWords]) rest
  · rw [text, List.append_assoc]
    exact (isWhole.numberHead _).scalarHead

theorem readScalar_float {written : String} (proper : FloatText written) {rest : List Char}
    (ends : EndsNumber rest) :
    readScalar (written.toList ++ rest) = some (.float written, rest) := by
  obtain rfl | rfl | rfl | ⟨whole, fraction, exponent, isWhole, isFraction, isExponent, some, text⟩ :=
    proper
  · exact readScalar_word (by simp [jsonWords]) rest
  · exact readScalar_word (by simp [jsonWords]) rest
  · exact readScalar_word (by simp [jsonWords]) rest
  · have head := isWhole.numberHead (fraction ++ (exponent ++ rest))
    have read := readJsonNumber_float isWhole isFraction isExponent some ends
    rw [← text, String.ofList_toList] at read
    rw [text, List.append_assoc, List.append_assoc, readScalar_number head, read]

theorem readScalar_int {n : Int} (fits : (Json.int n).fitsDigits = true) {rest : List Char}
    (ends : EndsNumber rest) : readScalar (intText n ++ rest) = some (.int n, rest) := by
  rw [readScalar_number ((intText_isWhole n).numberHead rest), readJsonNumber_intText fits ends]

theorem endsNumber_of {c : Char} (plain : c.isDigit = false ∧ c ≠ '.' ∧ c ≠ 'e' ∧ c ≠ 'E')
    (rest : List Char) : EndsNumber (c :: rest) := by
  simpa [EndsNumber] using plain

theorem writeItems_ends (items : List Json) (rest : List Char) :
    EndsNumber (Json.writeItems items ++ rest) := by
  cases items with
  | nil => exact endsNumber_of (by decide) _
  | cons item items => exact endsNumber_of (by decide) _

theorem writeFields_ends (fields : List (String × Json)) (rest : List Char) :
    EndsNumber (Json.writeFields fields ++ rest) := by
  cases fields with
  | nil => exact endsNumber_of (by decide) _
  | cons field fields => exact endsNumber_of (by decide) _

theorem valueHead_write {value : Json} (proper : value.Proper) (rest : List Char) :
    ValueHead (value.write ++ rest) := by
  cases value with
  | null => exact valueHead_cons _ (by decide)
  | bool value => cases value <;> exact valueHead_cons _ (by decide)
  | int n => exact ((intText_isWhole n).numberHead rest).scalarHead.toValueHead
  | float written =>
      simp only [Json.Proper] at proper
      exact (proper.scalarHead rest).toValueHead
  | str s => exact valueHead_cons _ (by decide)
  | arr items => cases items <;> exact valueHead_cons _ (by decide)
  | obj fields => cases fields <;> exact valueHead_cons _ (by decide)

/-! ## The round trip -/

theorem skipSpace_item {value : Json} (proper : value.Proper) (rest : List Char) :
    skipSpace (' ' :: (value.write ++ rest)) = value.write ++ rest := by
  have head := (valueHead_write proper rest).noSpace
  unfold skipSpace at head ⊢
  rw [List.dropWhile_cons_of_pos (by decide), head]

theorem quoted_append (name : String) (rest : List Char) :
    quoted name ++ rest = '"' :: (name.toList.flatMap escapeChar ++ '"' :: rest) := by
  simp [quoted]

theorem skipSpace_quoted (name : String) (rest : List Char) :
    skipSpace (' ' :: (quoted name ++ rest)) = quoted name ++ rest := by
  rw [quoted_append]
  rfl

/-- With this fuel, what is written is read back, and nothing of what comes after it. -/
structure ReadsBack (fuel : Nat) : Prop where
  value : ∀ {value : Json}, value.Proper → value.fitsDigits = true → value.write.length ≤ fuel →
    ∀ {rest : List Char}, EndsNumber rest →
      readValue fuel (value.write ++ rest) = some (value, rest)
  items : ∀ {item : Json} {items : List Json}, item.Proper → Json.ProperItems items →
    item.fitsDigits = true → Json.fitsDigitsItems items = true →
      (item.write ++ Json.writeItems items).length ≤ fuel → ∀ rest : List Char,
        readItems fuel (item.write ++ (Json.writeItems items ++ rest)) = some (item :: items, rest)
  fields : ∀ {name : String} {item : Json} {fields : List (String × Json)}, item.Proper →
    Json.ProperFields fields → item.fitsDigits = true → Json.fitsDigitsFields fields = true →
      (quoted name ++ ':' :: ' ' :: (item.write ++ Json.writeFields fields)).length ≤ fuel →
        ∀ rest : List Char, readFields fuel (quoted name ++ (':' :: ' ' :: (item.write ++
          (Json.writeFields fields ++ rest)))) = some ((name, item) :: fields, rest)

namespace ReadsBack

variable {fuel : Nat}

theorem value_succ (ih : ReadsBack fuel) {value : Json} (proper : value.Proper)
    (fits : value.fitsDigits = true) (enough : value.write.length ≤ fuel + 1) {rest : List Char}
    (ends : EndsNumber rest) : readValue (fuel + 1) (value.write ++ rest) = some (value, rest) := by
  cases value with
  | null =>
      have entry : ("null".toList, Json.null) ∈ jsonWords := by simp [jsonWords]
      rw [Json.write, readValue_scalar (scalarHead_word entry rest), readScalar_word entry]
  | bool value =>
      have entry : ((Json.bool value).write, Json.bool value) ∈ jsonWords := by
        cases value <;> simp [jsonWords, Json.write]
      rw [readValue_scalar (scalarHead_word entry rest), readScalar_word entry]
  | int n =>
      rw [Json.write, readValue_scalar ((intText_isWhole n).numberHead rest).scalarHead,
        readScalar_int fits ends]
  | float written =>
      simp only [Json.Proper] at proper
      rw [Json.write, readValue_scalar (proper.scalarHead rest), readScalar_float proper ends]
  | str s =>
      rw [Json.write, quoted_append, readValue, readText_escaped]
      rfl
  | arr items =>
      cases items with
      | nil => rfl
      | cons item items =>
          simp only [Json.Proper, Json.ProperItems] at proper
          simp only [Json.fitsDigits, Json.fitsDigitsItems, Bool.and_eq_true] at fits
          have head := valueHead_write proper.1 (Json.writeItems items ++ rest)
          have read := ih.items proper.1 proper.2 fits.1 fits.2
            (by simpa [Json.write] using enough) rest
          simp only [Json.write, List.cons_append, List.append_assoc]
          rw [readValue, head.noSpace]
          split
          · rename_i same
            exact absurd (by rw [same]; rfl) head.noEnd
          · rw [read]
            rfl
  | obj fields =>
      cases fields with
      | nil => rfl
      | cons field fields =>
          obtain ⟨name, item⟩ := field
          simp only [Json.Proper, Json.ProperFields] at proper
          simp only [Json.fitsDigits, Json.fitsDigitsFields, Bool.and_eq_true] at fits
          have short : (quoted name ++ ':' :: ' ' :: (item.write ++
              Json.writeFields fields)).length ≤ fuel := by simpa [Json.write] using enough
          have read := ih.fields proper.2.1 proper.2.2 fits.1 fits.2 short rest
          have noSpace : ∀ rest, skipSpace (quoted name ++ rest) = quoted name ++ rest := by
            intro rest
            rw [quoted_append]
            rfl
          simp only [Json.write, List.cons_append, List.append_assoc]
          rw [readValue, noSpace, quoted_append]
          rw [quoted_append] at read
          split
          · rename_i same
            exact absurd (List.cons.inj same).1 (by decide)
          · rw [read, Option.map_some]
            simp only [dictOf_eq_self proper.1]

theorem items_succ (ih : ReadsBack fuel) {item : Json} {items : List Json} (proper : item.Proper)
    (propers : Json.ProperItems items) (fits : item.fitsDigits = true)
    (fitting : Json.fitsDigitsItems items = true)
    (enough : (item.write ++ Json.writeItems items).length ≤ fuel + 1) (rest : List Char) :
    readItems (fuel + 1) (item.write ++ (Json.writeItems items ++ rest)) =
      some (item :: items, rest) := by
  have more : 0 < (Json.writeItems items).length := by cases items <;> simp [Json.writeItems]
  rw [List.length_append] at enough
  rw [readItems, ih.value proper fits (by omega) (writeItems_ends items rest)]
  simp only [Option.bind_eq_bind, Option.bind_some]
  cases items with
  | nil => rfl
  | cons next items =>
      simp only [Json.ProperItems] at propers
      simp only [Json.fitsDigitsItems, Bool.and_eq_true] at fitting
      have short : (next.write ++ Json.writeItems items).length ≤ fuel := by
        simp only [Json.writeItems, List.length_cons, List.length_append] at enough ⊢
        omega
      have comma : skipSpace (Json.writeItems (next :: items) ++ rest) =
          ',' :: ' ' :: (next.write ++ (Json.writeItems items ++ rest)) := by
        simp [Json.writeItems, skipSpace]
      rw [comma]
      simp only
      rw [skipSpace_item propers.1, ih.items propers.1 propers.2 fitting.1 fitting.2 short rest]
      rfl

theorem fields_succ (ih : ReadsBack fuel) {name : String} {item : Json}
    {fields : List (String × Json)} (proper : item.Proper) (propers : Json.ProperFields fields)
    (fits : item.fitsDigits = true) (fitting : Json.fitsDigitsFields fields = true)
    (enough : (quoted name ++ ':' :: ' ' :: (item.write ++ Json.writeFields fields)).length ≤
      fuel + 1) (rest : List Char) :
    readFields (fuel + 1) (quoted name ++ (':' :: ' ' :: (item.write ++
      (Json.writeFields fields ++ rest)))) = some ((name, item) :: fields, rest) := by
  simp only [List.length_append, List.length_cons] at enough
  have colon : skipSpace (':' :: ' ' :: (item.write ++ (Json.writeFields fields ++ rest))) =
      ':' :: ' ' :: (item.write ++ (Json.writeFields fields ++ rest)) := rfl
  rw [quoted_append, readFields, readText_escaped]
  simp only [Option.bind_eq_bind, Option.bind_some]
  rw [colon]
  simp only
  rw [skipSpace_item proper, ih.value proper fits (by omega) (writeFields_ends fields rest),
    Option.bind_some]
  cases fields with
  | nil => rfl
  | cons field fields =>
      obtain ⟨next, value⟩ := field
      simp only [Json.ProperFields] at propers
      simp only [Json.fitsDigitsFields, Bool.and_eq_true] at fitting
      have short : (quoted next ++ ':' :: ' ' :: (value.write ++ Json.writeFields fields)).length ≤
          fuel := by
        simp only [Json.writeFields, List.length_cons, List.length_append] at enough ⊢
        omega
      have comma : skipSpace (Json.writeFields ((next, value) :: fields) ++ rest) =
          ',' :: ' ' :: (quoted next ++ (':' :: ' ' :: (value.write ++
            (Json.writeFields fields ++ rest)))) := by
        simp [Json.writeFields, skipSpace]
      simp only
      rw [comma]
      simp only
      rw [skipSpace_quoted, ih.fields propers.1 propers.2 fitting.1 fitting.2 short rest]
      rfl

end ReadsBack

theorem readsBack (fuel : Nat) : ReadsBack fuel := by
  induction fuel with
  | zero =>
      constructor
      · intro value proper _ enough rest _
        have some := (valueHead_write proper []).nonempty
        rw [List.append_nil] at some
        exact absurd (List.length_eq_zero_iff.mp (Nat.le_zero.mp enough)) some
      · intro item items _ _ _ _ enough
        have more : 0 < (Json.writeItems items).length := by cases items <;> simp [Json.writeItems]
        rw [List.length_append] at enough
        omega
      · intro name item fields _ _ _ _ enough
        simp only [List.length_append, List.length_cons] at enough
        omega
  | succ fuel ih => exact ⟨ih.value_succ, ih.items_succ, ih.fields_succ⟩

/-- `json.loads` undoes `json.dumps`. -/
theorem Json.loads_dumps {value : Json} (proper : value.Proper) {text : String}
    (written : value.dumps = .ok text) : Json.loads text = some value := by
  unfold Json.dumps at written
  split at written
  · rename_i fits
    cases written
    have head := (valueHead_write proper []).noSpace
    have ends : EndsNumber [] := by simp [EndsNumber]
    have read := (readsBack (value.write.length + 1)).value proper fits (by omega) ends
    rw [List.append_nil] at head read
    rw [Json.loads, String.toList_ofList, head, read]
    rfl
  · cases written

end Keyring

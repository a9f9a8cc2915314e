import Mathlib.Data.List.TakeWhile
import Mathlib.Tactic.Common

/-!
# Percent-encoding and query strings

`quote`, `quotePlus` and `urlencode` write text into a URL; `unquote` and `form`
are how whoever receives the URL reads it.  Reading is by bytes, and says what the
text was since UTF-8 is injective.
-/

set_option autoImplicit false

namespace Percent

/-! ## Writing -/

def utf8 (s : String) : List UInt8 := s.toList.flatMap String.utf8EncodeChar

/-- The characters that are never encoded. -/
def alwaysSafe : List Char :=
  "ABCDEFGHIJKLMNOPQRSTUVWXYZabcdefghijklmnopqrstuvwxyz0123456789_.-~".toList

def hexDigit (n : Nat) : Char := "0123456789ABCDEF".toList.getD n '0'

def percent (b : UInt8) : List Char := ['%', hexDigit (b.toNat / 16), hexDigit (b.toNat % 16)]

def quoteByte (safe : List Char) (b : UInt8) : List Char :=
  if Char.ofNat b.toNat ∈ alwaysSafe ++ safe then [Char.ofNat b.toNat] else percent b

def quote (safe : List Char) (s : String) : List Char := (utf8 s).flatMap (quoteByte safe)

/-- A space is written `+`. -/
def quotePlus (s : String) : List Char :=
  if ' ' ∈ s.toList then (quote [' '] s).map fun c => if c = ' ' then '+' else c
  else quote [] s

def parameter (p : String × String) : List Char := quotePlus p.1 ++ '=' :: quotePlus p.2

def urlencode (query : List (String × String)) : List Char :=
  ['&'].intercalate (query.map parameter)

/-! ## Reading -/

def hexValue (c : Char) : Option Nat :=
  if '0' ≤ c ∧ c ≤ '9' then some (c.toNat - '0'.toNat)
  else if 'A' ≤ c ∧ c ≤ 'F' then some (c.toNat - 'A'.toNat + 10)
  else if 'a' ≤ c ∧ c ≤ 'f' then some (c.toNat - 'a'.toNat + 10)
  else none

def octet (h l : Char) : Option UInt8 :=
  match hexValue h, hexValue l with
  | some a, some b => some (UInt8.ofNat (16 * a + b))
  | _, _ => none

/-- A `%` without two hexadecimal digits stands for itself. -/
def unquote : List Char → List UInt8
  | [] => []
  | c :: rest =>
      if c = '%' then
        match rest with
        | h :: l :: later =>
            match octet h l with
            | some b => b :: unquote later
            | none => 37 :: unquote (h :: l :: later)
        | [h] => 37 :: unquote [h]
        | [] => [37]
      else String.utf8EncodeChar c ++ unquote rest

def unplus (s : List Char) : List Char := s.map fun c => if c = '+' then ' ' else c

/-- A piece of a query up to its first `=`, and after it. -/
def cut (piece : List Char) : List Char × List Char :=
  (piece.takeWhile (· ≠ '='), (piece.dropWhile (· ≠ '=')).drop 1)

def field (piece : List Char) : List UInt8 × List UInt8 :=
  (unquote (unplus (cut piece).1), unquote (unplus (cut piece).2))

/-- The names and values of a query, as bytes; empty pieces count for nothing. -/
def form (query : List Char) : List (List UInt8 × List UInt8) :=
  ((query.splitOn '&').filter (· ≠ [])).map field

/-- What stands between the first `?` of a URL and its fragment. -/
def query (url : List Char) : List Char :=
  ((url.takeWhile (· ≠ '#')).dropWhile (· ≠ '?')).drop 1

/-- The URL asks for these parameters and no others, in this order. -/
def Carries (url : List Char) (parameters : List (String × String)) : Prop :=
  form (query url) = parameters.map fun p => (utf8 p.1, utf8 p.2)

/-! ## UTF-8 -/

theorem utf8_injective {s t : String} (same : utf8 s = utf8 t) : s = t := by
  have encoded : ∀ u : String, u.toList.utf8Encode = (utf8 u).toByteArray := fun _ => rfl
  have equal : s.toList.utf8Encode = t.toList.utf8Encode := by rw [encoded, encoded, same]
  rw [String.utf8Encode_toList, String.utf8Encode_toList] at equal
  exact String.toByteArray_inj.mp equal

theorem Carries.unique {url : List Char} {ps qs : List (String × String)}
    (first : Carries url ps) (second : Carries url qs) : ps = qs := by
  have same := first.symm.trans second
  refine List.map_inj_right (fun p q equal => ?_) |>.mp same
  simp only [Prod.mk.injEq] at equal
  exact Prod.ext (utf8_injective equal.1) (utf8_injective equal.2)

theorem utf8EncodeChar_ascii {c : Char} (ascii : c.toNat < 128) :
    String.utf8EncodeChar c = [UInt8.ofNat c.toNat] := by
  have small : c.val.toNat ≤ 0x7f := by
    have : c.val.toNat < 128 := ascii
    omega
  simp only [String.utf8EncodeChar, if_pos small]
  rfl

/-! ## What was encoded is read back -/

theorem unquote_cons {c : Char} (plain : c ≠ '%') (rest : List Char) :
    unquote (c :: rest) = String.utf8EncodeChar c ++ unquote rest := by
  rw [unquote.eq_def]
  exact if_neg plain

theorem unquote_octet {h l : Char} {b : UInt8} (octets : octet h l = some b) (rest : List Char) :
    unquote ('%' :: h :: l :: rest) = b :: unquote rest := by
  simp only [unquote, if_pos, octets]

theorem hexValue_hexDigit {n : Nat} (lt : n < 16) : hexValue (hexDigit n) = some n := by
  have each : ∀ i : Fin 16, hexValue (hexDigit i) = some i.val := by decide
  exact each ⟨n, lt⟩

theorem octet_percent (b : UInt8) :
    octet (hexDigit (b.toNat / 16)) (hexDigit (b.toNat % 16)) = some b := by
  have bound := b.toNat_lt
  have high : b.toNat / 16 < 16 := by omega
  have low : b.toNat % 16 < 16 := by omega
  have whole : 16 * (b.toNat / 16) + b.toNat % 16 = b.toNat := by omega
  simp only [octet, hexValue_hexDigit high, hexValue_hexDigit low, whole, UInt8.ofNat_toNat]

/-- A set of ASCII characters, without the one that marks an escape. -/
abbrev Plain (safe : List Char) : Prop := ∀ c ∈ safe, c.toNat < 128 ∧ c ≠ '%'

theorem plain_of_all {safe : List Char}
    (checked : safe.all (fun c => c.toNat < 128 && c ≠ '%') = true) : Plain safe := by
  intro c listed
  simpa using List.all_eq_true.mp checked c listed

theorem plain_alwaysSafe : Plain alwaysSafe := plain_of_all (by decide +kernel)

theorem unquote_quoteByte {safe : List Char} (plain : Plain safe) (b : UInt8) (rest : List Char) :
    unquote (quoteByte safe b ++ rest) = b :: unquote rest := by
  rw [quoteByte]
  by_cases kept : Char.ofNat b.toNat ∈ alwaysSafe ++ safe
  · rw [if_pos kept]
    have ascii : (Char.ofNat b.toNat).toNat < 128 ∧ Char.ofNat b.toNat ≠ '%' := by
      rcases List.mem_append.mp kept with always | listed
      · exact plain_alwaysSafe _ always
      · exact plain _ listed
    have number : (Char.ofNat b.toNat).toNat = b.toNat := by
      have bound := b.toNat_lt
      have valid : b.toNat.isValidChar := Or.inl (by omega)
      rw [Char.ofNat, dif_pos valid]
      rfl
    rw [List.singleton_append, unquote_cons ascii.2, utf8EncodeChar_ascii ascii.1, number,
      UInt8.ofNat_toNat]
    rfl
  · rw [if_neg kept]
    exact unquote_octet (octet_percent b) rest

theorem unquote_quote {safe : List Char} (plain : Plain safe) (s : String) (rest : List Char) :
    unquote (quote safe s ++ rest) = utf8 s ++ unquote rest := by
  have each : ∀ bytes : List UInt8,
      unquote (bytes.flatMap (quoteByte safe) ++ rest) = bytes ++ unquote rest := by
    intro bytes
    induction bytes with
    | nil => rfl
    | cons b bytes ih =>
        rw [List.flatMap_cons, List.append_assoc, unquote_quoteByte plain, ih, List.cons_append]
  exact each (utf8 s)

/-- Only the characters that are left as they are, and those of an escape. -/
theorem quote_mem {safe : List Char} {s : String} {c : Char} (member : c ∈ quote safe s) :
    c ∈ alwaysSafe ∨ c ∈ safe ∨ c = '%' := by
  obtain ⟨b, -, written⟩ := List.mem_flatMap.mp member
  rw [quoteByte] at written
  by_cases kept : Char.ofNat b.toNat ∈ alwaysSafe ++ safe
  · rw [if_pos kept, List.mem_singleton] at written
    rw [written]
    rcases List.mem_append.mp kept with always | listed
    · exact Or.inl always
    · exact Or.inr (Or.inl listed)
  · rw [if_neg kept] at written
    have digits : ∀ i : Fin 16, hexDigit i ∈ alwaysSafe := by decide
    have bound := b.toNat_lt
    simp only [percent, List.mem_cons, List.not_mem_nil, or_false] at written
    rcases written with rfl | rfl | rfl
    · exact Or.inr (Or.inr rfl)
    · exact Or.inl (digits ⟨b.toNat / 16, by omega⟩)
    · exact Or.inl (digits ⟨b.toNat % 16, by omega⟩)

theorem quote_not_mem {safe : List Char} {c : Char} (unsafe' : c ∉ alwaysSafe) (listed : c ∉ safe)
    (marker : c ≠ '%') (s : String) : c ∉ quote safe s := by
  intro member
  rcases quote_mem member with always | kept | escape
  · exact unsafe' always
  · exact listed kept
  · exact marker escape

theorem unplus_eq_self {s : List Char} (without : '+' ∉ s) : unplus s = s := by
  have each : ∀ c ∈ s, (if c = '+' then ' ' else c) = c := by
    intro c member
    by_cases plus : c = '+'
    · exact absurd (plus ▸ member) without
    · rw [if_neg plus]
  rw [unplus, List.map_congr_left each, List.map_id']

theorem quotePlus_not_mem {c : Char} (other : c ∉ alwaysSafe) (marker : c ≠ '%') (plus : c ≠ '+')
    (s : String) : c ∉ quotePlus s := by
  rw [quotePlus]
  by_cases spaced : ' ' ∈ s.toList
  · rw [if_pos spaced]
    intro member
    obtain ⟨d, written, same⟩ := List.mem_map.mp member
    by_cases space : d = ' '
    · rw [if_pos space] at same
      exact plus same.symm
    · rw [if_neg space] at same
      rw [same] at written space
      exact quote_not_mem other (by simpa using space) marker s written
  · rw [if_neg spaced]
    exact quote_not_mem other (by simp) marker s

theorem unquote_quotePlus (s : String) : unquote (unplus (quotePlus s)) = utf8 s := by
  have read : ∀ safe, Plain safe → '+' ∉ safe → unquote (unplus (quote safe s)) = utf8 s := by
    intro safe plain without
    have whole := unquote_quote plain s []
    rw [List.append_nil, show unquote [] = [] from rfl, List.append_nil] at whole
    rw [unplus_eq_self (quote_not_mem (by decide) without (by decide) s), whole]
  rw [quotePlus]
  by_cases spaced : ' ' ∈ s.toList
  · rw [if_pos spaced]
    have back : unplus ((quote [' '] s).map fun c => if c = ' ' then '+' else c) =
        unplus (quote [' '] s) := by
      rw [unplus, unplus, List.map_map]
      refine List.map_congr_left fun c _ => ?_
      by_cases space : c = ' '
      · simp [space]
      · simp [space]
    rw [back]
    exact read [' '] (plain_of_all rfl) (by decide)
  · rw [if_neg spaced]
    exact read [] (plain_of_all rfl) (by decide)

/-! ## Queries -/

theorem cut_eq {name value : List Char} (without : '=' ∉ name) :
    cut (name ++ '=' :: value) = (name, value) := by
  have kept : ∀ c ∈ name, decide (c ≠ '=') = true := by
    intro c member
    simp only [decide_eq_true_eq]
    exact fun same => without (same ▸ member)
  rw [cut, List.takeWhile_append_of_pos kept, List.dropWhile_append_of_pos kept]
  simp

theorem cut_of_not_mem {piece : List Char} (without : '=' ∉ piece) : cut piece = (piece, []) := by
  have kept : ∀ c ∈ piece, decide (c ≠ '=') = true := by
    intro c member
    simp only [decide_eq_true_eq]
    exact fun same => without (same ▸ member)
  rw [cut, List.takeWhile_eq_self_iff.mpr kept, List.dropWhile_eq_nil_iff.mpr kept]
  rfl

theorem form_intercalate {α : Type} (write : α → List Char) (items : List α)
    (apart : ∀ a ∈ items, '&' ∉ write a) (some : ∀ a ∈ items, write a ≠ []) :
    form (['&'].intercalate (items.map write)) = items.map fun a => field (write a) := by
  cases items with
  | nil => simp [form]
  | cons a rest =>
      have pieces : (['&'].intercalate ((a :: rest).map write)).splitOn '&' =
          (a :: rest).map write := by
        refine List.splitOn_intercalate '&' ?_ (by simp)
        intro piece member
        obtain ⟨b, listed, rfl⟩ := List.mem_map.mp member
        exact apart b listed
      have whole : ((a :: rest).map write).filter (· ≠ []) = (a :: rest).map write := by
        refine List.filter_eq_self.mpr ?_
        intro piece member
        obtain ⟨b, listed, rfl⟩ := List.mem_map.mp member
        simpa using some b listed
      rw [form, pieces, whole, List.map_map]
      rfl

/-- A query that was encoded is read as it was. -/
theorem form_urlencode (ps : List (String × String)) :
    form (urlencode ps) = ps.map fun p => (utf8 p.1, utf8 p.2) := by
  have safe : ∀ {c : Char}, c ∉ alwaysSafe → c ≠ '%' → c ≠ '+' → ∀ s, c ∉ quotePlus s :=
    fun other marker plus s => quotePlus_not_mem other marker plus s
  rw [urlencode, form_intercalate parameter ps]
  · refine List.map_congr_left fun p _ => ?_
    rw [field, parameter, cut_eq (safe (by decide) (by decide) (by decide) p.1),
      unquote_quotePlus, unquote_quotePlus]
  · intro p _ member
    rcases List.mem_append.mp member with name | rest
    · exact safe (by decide) (by decide) (by decide) p.1 name
    · rcases List.mem_cons.mp rest with impossible | value
      · exact absurd impossible (by decide)
      · exact safe (by decide) (by decide) (by decide) p.2 value
  · intro p _ empty
    simp [parameter] at empty

theorem urlencode_not_mem {c : Char} (other : c ∉ alwaysSafe) (marker : c ∉ ['%', '+', '&', '='])
    (ps : List (String × String)) : c ∉ urlencode ps := by
  simp only [List.mem_cons, List.not_mem_nil, or_false, not_or] at marker
  obtain ⟨escape, plus, between, equals⟩ := marker
  have safe := quotePlus_not_mem other escape plus
  have each : ∀ p, c ∉ parameter p := by
    intro p
    simp only [parameter, List.mem_append, List.mem_cons, not_or]
    exact ⟨safe p.1, equals, safe p.2⟩
  rw [urlencode]
  induction ps with
  | nil => simp
  | cons p ps ih =>
      cases ps with
      | nil => simpa using each p
      | cons q ps =>
          rw [List.map_cons, List.map_cons, List.intercalate_cons_cons, List.append_assoc,
            List.mem_append, List.singleton_append, List.mem_cons, not_or, not_or]
          exact ⟨each p, between, ih⟩

/-! ## Queries of a longer text -/

/-- A character that no escape contains keeps what is before it and after it apart. -/
theorem unquote_append_cons {c : Char} (marker : c ≠ '%') (digit : hexValue c = none)
    (s rest : List Char) :
    unquote (s ++ c :: rest) = unquote s ++ String.utf8EncodeChar c ++ unquote rest := by
  have here : unquote (c :: rest) = String.utf8EncodeChar c ++ unquote rest :=
    unquote_cons marker rest
  have escape : ∀ t, unquote ('%' :: c :: t) = 37 :: unquote (c :: t) := by
    intro t
    cases t with
    | nil => rfl
    | cons d t =>
        have no : octet c d = none := by simp only [octet, digit]
        simp only [unquote, if_pos, no]
  induction s using unquote.induct with
  | case1 => exact here
  | case2 h l later b octets ih =>
      rw [List.cons_append, List.cons_append, List.cons_append, unquote_octet octets, ih,
        unquote_octet octets, List.cons_append, List.cons_append]
  | case3 h l later none' ih =>
      have left : unquote ('%' :: h :: l :: later) = 37 :: unquote (h :: l :: later) := by
        simp only [unquote, if_pos, none']
      have right : unquote ('%' :: h :: l :: (later ++ c :: rest)) =
          37 :: unquote (h :: l :: (later ++ c :: rest)) := by
        simp only [unquote, if_pos, none']
      rw [left, List.cons_append, List.cons_append, List.cons_append, right]
      simp only [List.cons_append] at ih
      rw [ih]
      rfl
  | case4 h ih =>
      have no : octet h c = none := by
        rw [octet]
        cases hexValue h with
        | none => rfl
        | some a => simp only [digit]
      have left : unquote ['%', h] = 37 :: unquote [h] := rfl
      have right : unquote ('%' :: h :: c :: rest) = 37 :: unquote (h :: c :: rest) := by
        simp only [unquote, if_pos, no]
      rw [left, List.cons_append, List.cons_append, List.nil_append, right]
      simp only [List.cons_append, List.nil_append] at ih
      rw [ih]
      rfl
  | case5 =>
      rw [List.cons_append, List.nil_append, escape, here]
      rfl
  | case6 d s other ih =>
      rw [List.cons_append, unquote_cons other, ih, unquote_cons other, List.append_assoc,
        List.append_assoc, List.append_assoc]

/-- How many question marks a text stands for. -/
def marks (s : List Char) : Nat := (unquote (unplus s)).count 63

theorem marks_append_cons {c : Char} (plus : c ≠ '+') (marker : c ≠ '%') (digit : hexValue c = none)
    (s rest : List Char) :
    marks (s ++ c :: rest) = marks s + (String.utf8EncodeChar c).count 63 + marks rest := by
  have split : unplus (s ++ c :: rest) = unplus s ++ c :: unplus rest := by
    rw [unplus, List.map_append, List.map_cons, if_neg plus]
    rfl
  rw [marks, split, unquote_append_cons marker digit, List.count_append, List.count_append]
  rfl

/-- How many question marks there are in names and values. -/
def marksIn (fields : List (List UInt8 × List UInt8)) : Nat :=
  fields.foldr (fun p others => p.1.count 63 + p.2.count 63 + others) 0

theorem marks_field (piece : List Char) :
    (field piece).1.count 63 + (field piece).2.count 63 = marks piece := by
  by_cases equals : '=' ∈ piece
  · obtain ⟨name, value, rfl, without⟩ := List.eq_append_cons_of_mem equals
    have separator : (String.utf8EncodeChar '=').count 63 = 0 := by decide
    rw [field, cut_eq without, marks_append_cons (by decide) (by decide) (by decide), separator]
    rfl
  · rw [field, cut_of_not_mem equals]
    rfl

theorem marksIn_cons (part : List Char) (parts : List (List Char)) :
    marksIn (((part :: parts).filter (· ≠ [])).map field) =
      marks part + marksIn ((parts.filter (· ≠ [])).map field) := by
  by_cases empty : part = []
  · subst empty
    simp [marks, unplus, unquote]
  · rw [List.filter_cons_of_pos (by simpa using empty), List.map_cons, marksIn, List.foldr_cons,
      marks_field]
    rfl

theorem marksIn_form (query : List Char) : marksIn (form query) = marks query := by
  have pieces : ∀ parts : List (List Char),
      marksIn ((parts.filter (· ≠ [])).map field) = marks (['&'].intercalate parts) := by
    intro parts
    induction parts with
    | nil => rfl
    | cons part parts ih =>
        rw [marksIn_cons]
        cases parts with
        | nil => rw [List.intercalate_singleton]; rfl
        | cons next parts =>
            have separator : (String.utf8EncodeChar '&').count 63 = 0 := by decide
            rw [ih, List.intercalate_cons_cons, List.append_assoc, List.singleton_append,
              marks_append_cons (by decide) (by decide) (by decide)]
            omega
  rw [form, pieces, List.intercalate_splitOn]

/-! ## URLs -/

theorem takeWhile_append_cons {α : Type} {p : α → Bool} {l : List α} {a : α} (rest : List α)
    (kept : ∀ b ∈ l, p b = true) (stop : p a = false) : (l ++ a :: rest).takeWhile p = l := by
  rw [List.takeWhile_append_of_pos kept, List.takeWhile_cons_of_neg (by simp [stop]),
    List.append_nil]

/-- What follows the first question mark, where there is no fragment. -/
theorem query_append {base : List Char} (mark : '?' ∉ base) (rest : List Char)
    (hash : '#' ∉ base ++ '?' :: rest) : query (base ++ '?' :: rest) = rest := by
  have whole : ∀ c ∈ base ++ '?' :: rest, decide (c ≠ '#') = true := by
    intro c member
    simp only [decide_eq_true_eq]
    exact fun same => hash (same ▸ member)
  have before : ∀ c ∈ base, decide (c ≠ '?') = true := by
    intro c member
    simp only [decide_eq_true_eq]
    exact fun same => mark (same ▸ member)
  rw [query, List.takeWhile_eq_self_iff.mpr whole, List.dropWhile_append_of_pos before]
  simp

theorem query_of_fragment {base : List Char} (hash : '#' ∈ base) (rest : List Char) :
    query (base ++ rest) = query base := by
  obtain ⟨front, back, rfl, without⟩ := List.eq_append_cons_of_mem hash
  have kept : ∀ c ∈ front, decide (c ≠ '#') = true := by
    intro c member
    simp only [decide_eq_true_eq]
    exact fun same => without (same ▸ member)
  rw [query, query, List.append_assoc, List.cons_append,
    takeWhile_append_cons _ kept (by decide), takeWhile_append_cons _ kept (by decide)]

theorem carries_of_fragment {base : List Char} (hash : '#' ∈ base) (rest : List Char)
    (ps : List (String × String)) : Carries (base ++ rest) ps ↔ Carries base ps := by
  rw [Carries, Carries, query_of_fragment hash]

/-- Parameters put after the first question mark are the URL's, and after a later one
are not: that question mark is read with them. -/
theorem carries_append_iff {base rest : List Char} {ps : List (String × String)}
    (hash : '#' ∉ base ++ '?' :: rest)
    (written : form rest = ps.map fun p => (utf8 p.1, utf8 p.2)) :
    Carries (base ++ '?' :: rest) ps ↔ '?' ∉ base := by
  constructor
  · intro carries mark
    obtain ⟨front, back, rfl, without⟩ := List.eq_append_cons_of_mem mark
    rw [List.append_assoc, List.cons_append] at hash carries
    have asked : query (front ++ '?' :: (back ++ '?' :: rest)) = back ++ '?' :: rest :=
      query_append without _ hash
    have counted : marks (back ++ '?' :: rest) = marks rest := by
      rw [← marksIn_form, ← marksIn_form, ← asked, carries, written]
    rw [marks_append_cons (by decide) (by decide) (by decide)] at counted
    have mark : (String.utf8EncodeChar '?').count 63 = 1 := by decide
    omega
  · intro without
    rw [Carries, query_append without rest hash, written]

end Percent

import LnpResolver.TextStreams

/-!
Functions of the C library on strings without their terminators: strstr, strchr,
strncpy and atoi. An index found by strstr is that of the first occurrence. atoi
converts the result of strtol to int, and strtol keeps to the range of long; a
text that begins with no numeral reads as 0.
-/

namespace CStrings

open PackedBytes TextStreams

def strstr (needle : Bytes) : Bytes → Option Nat
  | [] => if needle = [] then some 0 else none
  | byte :: rest =>
      if needle <+: byte :: rest then some 0 else (strstr needle rest).map (· + 1)

def strchr (character : UInt8) (text : Bytes) : Option Nat := text.findIdx? (· = character)

/-- A text cut at the first occurrence of another. -/
def FirstAt (needle text before after : Bytes) : Prop :=
  text = before ++ needle ++ after ∧
    ∀ front back, text = front ++ needle ++ back → before.length ≤ front.length

theorem firstAt_unique {needle text before after other rest : Bytes}
    (first : FirstAt needle text before after) (second : FirstAt needle text other rest) :
    before = other ∧ after = rest := by
  have size : before.length = other.length :=
    Nat.le_antisymm (first.2 other rest second.1) (second.2 before after first.1)
  have same := first.1.symm.trans second.1
  rw [List.append_assoc, List.append_assoc] at same
  obtain ⟨fronts, backs⟩ := List.append_inj same size
  exact ⟨fronts, List.append_cancel_left backs⟩

theorem firstAt_cons {needle text before after : Bytes} {byte : UInt8}
    (notHere : ¬ needle <+: byte :: text) (found : FirstAt needle text before after) :
    FirstAt needle (byte :: text) (byte :: before) after := by
  constructor
  · rw [found.1]
    rfl
  · intro front back split
    cases front with
    | nil => exact absurd ⟨back, split.symm⟩ notHere
    | cons head front =>
        have tail := (List.cons.inj split).2
        exact Nat.succ_le_succ (found.2 front back tail)

theorem strstr_some {needle text : Bytes} {index : Nat} (found : strstr needle text = some index) :
    FirstAt needle text (text.take index) (text.drop (index + needle.length)) := by
  induction text generalizing index with
  | nil =>
      by_cases empty : needle = []
      · subst needle
        simp [FirstAt]
      · simp [strstr, empty] at found
  | cons byte rest ih =>
      by_cases here : needle <+: byte :: rest
      · rw [strstr, if_pos here] at found
        cases found
        obtain ⟨after, whole⟩ := here
        rw [← whole]
        simp [FirstAt]
      · rw [strstr, if_neg here] at found
        obtain ⟨before, earlier, rfl⟩ := Option.map_eq_some_iff.mp found
        have later : before + 1 + needle.length = before + needle.length + 1 := by omega
        rw [later]
        exact firstAt_cons here (ih earlier)

theorem strstr_none {needle text : Bytes} (missing : strstr needle text = none) :
    ∀ front back, text ≠ front ++ needle ++ back := by
  induction text with
  | nil =>
      intro front back split
      have empty : needle = [] := by
        have parts := List.append_eq_nil_iff.mp split.symm
        exact (List.append_eq_nil_iff.mp parts.1).2
      simp [strstr, empty] at missing
  | cons byte rest ih =>
      by_cases here : needle <+: byte :: rest
      · simp [strstr, here] at missing
      · simp only [strstr, here, ↓reduceIte, Option.map_eq_none_iff] at missing
        intro front back split
        cases front with
        | nil => exact here ⟨back, split.symm⟩
        | cons head front => exact ih missing front back (List.cons.inj split).2

theorem strchr_some {character : UInt8} {text : Bytes} {index : Nat}
    (found : strchr character text = some index) :
    character ∉ text.take index ∧
      text = text.take index ++ character :: text.drop (index + 1) := by
  obtain ⟨inside, here, before⟩ := List.findIdx?_eq_some_iff_getElem.mp found
  constructor
  · intro earlier
    obtain ⟨position, low, same⟩ := List.mem_take_iff_getElem.mp earlier
    have other := before position (by omega)
    simp [same] at other
  · have same : text[index] = character := by simpa using here
    rw [← same, List.getElem_cons_drop, List.take_append_drop]

theorem strchr_none {character : UInt8} {text : Bytes} (missing : strchr character text = none) :
    character ∉ text := by
  intro member
  have absent := List.findIdx?_eq_none_iff.mp missing character member
  simp at absent

/-! strncpy pads with terminators up to the count. What it would store outside the
array is left out here. -/

def strncpy (array source : Bytes) (count : Nat) : Bytes :=
  (source.take count ++ List.replicate (count - source.length) 0 ++ array.drop count).take
    array.length

theorem strncpy_length (array source : Bytes) (count : Nat) :
    (strncpy array source count).length = array.length := by
  simp only [strncpy, List.length_take, List.length_append, List.length_replicate, List.length_drop]
  omega

theorem strncpy_inside (array source : Bytes) (count : Nat) (enough : count ≤ source.length)
    (fits : count ≤ array.length) :
    strncpy array source count = source.take count ++ array.drop count := by
  have size : (source.take count ++ array.drop count).length = array.length := by
    simp only [List.length_append, List.length_take, List.length_drop]
    omega
  rw [strncpy, Nat.sub_eq_zero_of_le enough, List.replicate_zero, List.append_nil]
  exact List.take_of_length_le (Nat.le_of_eq size)

theorem strncpy_over (array source : Bytes) (count : Nat) (enough : count ≤ source.length)
    (full : array.length ≤ count) : strncpy array source count = source.take array.length := by
  rw [strncpy, Nat.sub_eq_zero_of_le enough, List.replicate_zero, List.append_nil,
    List.drop_of_length_le full, List.append_nil, List.take_take, Nat.min_eq_left full]

/-! Numerals: blanks, a sign and digits. -/

def isspace (byte : UInt8) : Bool := byte = 32 || (9 ≤ byte && byte ≤ 13)
def isdigit (byte : UInt8) : Bool := 48 ≤ byte && byte ≤ 57

/-- A hexadecimal digit as its value. -/
def hexDigit (byte : UInt8) : Option Nat :=
  if 48 ≤ byte ∧ byte ≤ 57 then some (byte.toNat - 48)
  else if 65 ≤ byte ∧ byte ≤ 70 then some (10 + byte.toNat - 65)
  else if 97 ≤ byte ∧ byte ≤ 102 then some (10 + byte.toNat - 97)
  else none

theorem hexDigit_lt {byte : UInt8} {value : Nat} (digit : hexDigit byte = some value) :
    value < 16 := by
  unfold hexDigit at digit
  repeat' split at digit
  all_goals cases digit
  all_goals
    rename_i range
    simp only [UInt8.le_iff_toNat_le] at range
    simp only [UInt8.reduceToNat] at range
    omega

inductive Sign where
  | none | plus | minus
  deriving DecidableEq, Repr

def Sign.text : Sign → Bytes
  | .none => []
  | .plus => [43]
  | .minus => [45]

def Sign.apply : Sign → Nat → Int
  | .minus, value => -value
  | _, value => value

/-- The number a text of digits spells. -/
def digitsValue (digits : Bytes) : Nat :=
  digits.foldl (fun value digit => 10 * value + (digit.toNat - 48)) 0

def signOf : Bytes → Sign × Bytes
  | [] => (.none, [])
  | byte :: rest =>
      if byte = 43 then (.plus, rest) else if byte = 45 then (.minus, rest)
      else (.none, byte :: rest)

/-- What strtol reads in base 10, in no range yet. -/
def leadingValue (text : Bytes) : Int :=
  let signed := signOf (text.dropWhile isspace)
  signed.1.apply (digitsValue (signed.2.takeWhile isdigit))

def longMax : Int := 2 ^ 63 - 1
def longMin : Int := -2 ^ 63

def strtol (text : Bytes) : Int := max longMin (min longMax (leadingValue text))

def atoi (text : Bytes) : Int := Int.bmod (strtol text) (2 ^ 32)

/-- The numeral a text begins with, and its value. -/
def Numeral (text : Bytes) (value : Int) : Prop :=
  ∃ blanks sign digits rest, text = blanks ++ (Sign.text sign ++ (digits ++ rest)) ∧
    (∀ byte ∈ blanks, isspace byte = true) ∧ digits ≠ [] ∧ (∀ byte ∈ digits, isdigit byte = true) ∧
    (∀ byte ∈ rest.head?, isdigit byte = false) ∧ value = sign.apply (digitsValue digits)

def DecimalValue (text : Bytes) (value : Int) : Prop :=
  Numeral text value ∨ (value = 0 ∧ ∀ other, ¬ Numeral text other)

theorem isspace_of_isdigit {byte : UInt8} (digit : isdigit byte = true) :
    isspace byte = false ∧ byte ≠ 43 ∧ byte ≠ 45 := by
  simp only [isdigit, Bool.and_eq_true, decide_eq_true_eq, UInt8.le_iff_toNat_le] at digit
  simp only [isspace, Bool.or_eq_false_iff, Bool.and_eq_false_iff, decide_eq_false_iff_not,
    UInt8.le_iff_toNat_le, ← UInt8.toNat_inj, ne_eq]
  simp only [UInt8.reduceToNat] at digit ⊢
  omega

theorem isspace_sign (sign : Sign) {byte : UInt8} (first : byte ∈ sign.text.head?) :
    isspace byte = false := by
  cases sign with
  | none => simp [Sign.text] at first
  | plus =>
      cases first
      decide
  | minus =>
      cases first
      decide

theorem signOf_text (sign : Sign) {text : Bytes}
    (unsigned : ∀ byte ∈ text.head?, byte ≠ 43 ∧ byte ≠ 45) :
    signOf (sign.text ++ text) = (sign, text) := by
  cases sign with
  | plus => rfl
  | minus => rfl
  | none =>
      cases text with
      | nil => rfl
      | cons byte text =>
          obtain ⟨notPlus, notMinus⟩ := unsigned byte rfl
          simp [Sign.text, signOf, notPlus, notMinus]

theorem signOf_eq (text : Bytes) : text = (signOf text).1.text ++ (signOf text).2 := by
  cases text with
  | nil => rfl
  | cons byte rest =>
      by_cases plus : byte = 43
      · simp [signOf, plus, Sign.text]
      · by_cases minus : byte = 45
        · simp [signOf, minus, Sign.text]
        · simp [signOf, plus, minus, Sign.text]

/-- strtol finds the digits of the numeral, whichever way the text is cut. -/
theorem numeral_read {blanks digits : Bytes} (rest : Bytes) (sign : Sign)
    (blank : ∀ byte ∈ blanks, isspace byte = true) (filled : digits ≠ [])
    (all : ∀ byte ∈ digits, isdigit byte = true) :
    signOf ((blanks ++ (sign.text ++ (digits ++ rest))).dropWhile isspace) =
      (sign, digits ++ rest) := by
  obtain ⟨digit, digits, rfl⟩ := List.exists_cons_of_ne_nil filled
  obtain ⟨notBlank, notPlus, notMinus⟩ := isspace_of_isdigit (all digit List.mem_cons_self)
  have stops : ∀ byte ∈ (sign.text ++ (digit :: digits ++ rest)).head?, isspace byte = false := by
    intro byte first
    cases sign with
    | none =>
        cases first
        exact notBlank
    | plus => exact isspace_sign .plus first
    | minus => exact isspace_sign .minus first
  rw [(span_front blank stops).1]
  apply signOf_text
  intro byte first
  cases first
  exact ⟨notPlus, notMinus⟩

theorem numeral_value {text : Bytes} {value : Int} (numeral : Numeral text value) :
    value = leadingValue text ∧
      (signOf (text.dropWhile isspace)).2.takeWhile isdigit ≠ [] := by
  obtain ⟨blanks, sign, digits, rest, rfl, blank, filled, all, stops, rfl⟩ := numeral
  have read := numeral_read rest sign blank filled all
  have digitsRead := (span_front all stops).2
  constructor
  · rw [leadingValue, read, digitsRead]
  · rw [read, digitsRead]
    exact filled

theorem leading_numeral {text : Bytes}
    (filled : (signOf (text.dropWhile isspace)).2.takeWhile isdigit ≠ []) :
    Numeral text (leadingValue text) := by
  refine ⟨text.takeWhile isspace, (signOf (text.dropWhile isspace)).1,
    (signOf (text.dropWhile isspace)).2.takeWhile isdigit,
    (signOf (text.dropWhile isspace)).2.dropWhile isdigit, ?_, ?_, filled, ?_, ?_, rfl⟩
  · rw [List.takeWhile_append_dropWhile, ← signOf_eq, List.takeWhile_append_dropWhile]
  · exact fun byte member => List.mem_takeWhile_imp member
  · exact fun byte member => List.mem_takeWhile_imp member
  · intro byte first
    have stopped := List.head?_dropWhile_not isdigit (signOf (text.dropWhile isspace)).2
    rw [Option.mem_def.mp first] at stopped
    exact stopped

theorem decimalValue_iff (text : Bytes) (value : Int) :
    DecimalValue text value ↔ value = leadingValue text := by
  by_cases filled : (signOf (text.dropWhile isspace)).2.takeWhile isdigit = []
  · have absent : ∀ other, ¬ Numeral text other :=
      fun other numeral => (numeral_value numeral).2 filled
    have zero : leadingValue text = 0 := by
      simp only [leadingValue, filled]
      cases (signOf (text.dropWhile isspace)).1 <;> rfl
    rw [zero]
    exact ⟨fun decimal => decimal.elim (fun numeral => absurd numeral (absent value)) And.left,
      fun none => Or.inr ⟨none, absent⟩⟩
  · have numeral := leading_numeral filled
    constructor
    · rintro (known | ⟨-, absent⟩)
      · exact (numeral_value known).1
      · exact absurd numeral (absent _)
    · rintro rfl
      exact Or.inl numeral

theorem atoi_range (text : Bytes) : -2 ^ 31 ≤ atoi text ∧ atoi text < 2 ^ 31 := by
  have low := Int.le_bmod (x := strtol text) (m := 2 ^ 32) (by decide)
  have high := Int.bmod_lt (x := strtol text) (m := 2 ^ 32) (by decide)
  simp only [atoi]
  omega

theorem atoi_iff (text : Bytes) :
    atoi text = leadingValue text ↔ -2 ^ 31 ≤ leadingValue text ∧ leadingValue text < 2 ^ 31 := by
  constructor
  · intro same
    rw [← same]
    exact atoi_range text
  · rintro ⟨low, high⟩
    have whole : strtol text = leadingValue text := by
      simp only [strtol, longMax, longMin]
      omega
    rw [atoi, whole]
    exact Int.bmod_eq_of_le (by omega) (by omega)

end CStrings

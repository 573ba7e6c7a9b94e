import Mathlib.Data.List.DropRight
import LnpResolver.BinaryFloats
import LnpResolver.CStrings

/-!
Decimal numerals with a fraction and an exponent: what strtod takes of a text, and
how printf writes a number with the conversion %g. A text is described by its
spelling, so that a printed text is read back part by part.
-/

namespace DecimalNumerals

open PackedBytes TextStreams CStrings BinaryFloats

/-- The digits before and behind the point, and the power of ten of the last one. -/
structure Numeral where
  sign : Sign
  digits : Bytes
  scale : Int
  deriving DecidableEq, Repr

def Numeral.magnitude (numeral : Numeral) : ℚ :=
  digitsValue numeral.digits * 10 ^ numeral.scale

theorem magnitude_nonneg (numeral : Numeral) : 0 ≤ numeral.magnitude :=
  mul_nonneg (Nat.cast_nonneg _) (zpow_pos (by norm_num) _).le

/-- The number that a numeral stands for. -/
def Numeral.value (numeral : Numeral) : ℚ :=
  match numeral.sign with
  | .minus => -numeral.magnitude
  | _ => numeral.magnitude

/-! Reading. A point may end a numeral; an exponent without digits is no part of it. -/

def fractionPart : Bytes → Bytes × Bytes
  | [] => ([], [])
  | byte :: rest =>
      if byte = 46 then (rest.takeWhile isdigit, rest.dropWhile isdigit) else ([], byte :: rest)

def exponentPart : Bytes → Int × Bytes
  | [] => (0, [])
  | byte :: rest =>
      let signed := signOf rest
      if (byte = 101 ∨ byte = 69) ∧ signed.2.takeWhile isdigit ≠ [] then
        (signed.1.apply (digitsValue (signed.2.takeWhile isdigit)), signed.2.dropWhile isdigit)
      else (0, byte :: rest)

/-- The numeral a text begins with, and what follows it. -/
def readNumeral (text : Bytes) : Option (Numeral × Bytes) :=
  let signed := signOf text
  let whole := signed.2.takeWhile isdigit
  let fraction := fractionPart (signed.2.dropWhile isdigit)
  let exponent := exponentPart fraction.2
  if whole ++ fraction.1 = [] then none
  else some (⟨signed.1, whole ++ fraction.1, exponent.1 - fraction.1.length⟩, exponent.2)

/-! Spellings. -/

structure Spelling where
  sign : Sign
  whole : Bytes
  fraction : Option Bytes
  exponent : Option (UInt8 × Sign × Bytes)
  deriving DecidableEq, Repr

def fractionText : Option Bytes → Bytes
  | none => []
  | some digits => 46 :: digits

def exponentText : Option (UInt8 × Sign × Bytes) → Bytes
  | none => []
  | some (mark, sign, digits) => mark :: (sign.text ++ digits)

def exponentValue : Option (UInt8 × Sign × Bytes) → Int
  | none => 0
  | some (_, sign, digits) => sign.apply (digitsValue digits)

def Spelling.text (spelling : Spelling) : Bytes :=
  spelling.sign.text ++
    (spelling.whole ++ (fractionText spelling.fraction ++ exponentText spelling.exponent))

def Spelling.numeral (spelling : Spelling) : Numeral :=
  ⟨spelling.sign, spelling.whole ++ spelling.fraction.getD [],
    exponentValue spelling.exponent - (spelling.fraction.getD []).length⟩

def Digits (text : Bytes) : Prop := ∀ byte ∈ text, isdigit byte = true

structure Spelling.Proper (spelling : Spelling) : Prop where
  filled : spelling.whole ≠ []
  whole : Digits spelling.whole
  fraction : ∀ digits ∈ spelling.fraction, Digits digits
  exponent : ∀ part ∈ spelling.exponent,
    (part.1 = 101 ∨ part.1 = 69) ∧ part.2.2 ≠ [] ∧ Digits part.2.2

/-- The bytes that a numeral is spelled with. -/
def numeralByte (byte : UInt8) : Bool :=
  isdigit byte || byte = 43 || byte = 45 || byte = 46 || byte = 101 || byte = 69

theorem digit_numeralByte {byte : UInt8} (digit : isdigit byte = true) :
    numeralByte byte = true := by
  simp [numeralByte, digit]

theorem sign_numeralByte (sign : Sign) : ∀ byte ∈ sign.text, numeralByte byte = true := by
  cases sign <;> simp [Sign.text, numeralByte]

theorem text_numeralByte {spelling : Spelling} (proper : spelling.Proper) :
    ∀ byte ∈ spelling.text, numeralByte byte = true := by
  intro byte member
  simp only [Spelling.text, List.mem_append] at member
  rcases member with sign | whole | fraction | exponent
  · exact sign_numeralByte _ byte sign
  · exact digit_numeralByte (proper.whole byte whole)
  · cases shape : spelling.fraction with
    | none =>
        rw [shape] at fraction
        cases fraction
    | some digits =>
        rw [shape] at fraction
        rcases List.mem_cons.mp fraction with rfl | inside
        · decide
        · exact digit_numeralByte (proper.fraction digits shape byte inside)
  · cases shape : spelling.exponent with
    | none =>
        rw [shape] at exponent
        cases exponent
    | some part =>
        obtain ⟨mark, sign, digits⟩ := part
        obtain ⟨marked, -, all⟩ := proper.exponent _ shape
        rw [shape] at exponent
        rcases List.mem_cons.mp exponent with rfl | inside
        · rcases marked with rfl | rfl <;> decide
        · rcases List.mem_append.mp inside with signed | digit
          · exact sign_numeralByte sign byte signed
          · exact digit_numeralByte (all byte digit)

theorem digits_span {digits rest : Bytes} (all : Digits digits)
    (stops : ∀ byte ∈ rest.head?, isdigit byte = false) :
    (digits ++ rest).takeWhile isdigit = digits ∧ (digits ++ rest).dropWhile isdigit = rest :=
  (span_front all stops).symm

theorem digits_alone {digits : Bytes} (all : Digits digits) :
    digits.takeWhile isdigit = digits ∧ digits.dropWhile isdigit = [] := by
  have nothing : ∀ byte ∈ ([] : Bytes).head?, isdigit byte = false := by simp
  have span := digits_span all nothing
  rwa [List.append_nil] at span

theorem digits_unsigned {digits : Bytes} (filled : digits ≠ []) (all : Digits digits) (rest : Bytes) :
    ∀ byte ∈ (digits ++ rest).head?, byte ≠ 43 ∧ byte ≠ 45 := by
  obtain ⟨digit, digits, rfl⟩ := List.exists_cons_of_ne_nil filled
  intro byte first
  cases first
  exact (isspace_of_isdigit (all digit List.mem_cons_self)).2

theorem exponentPart_text {exponent : Option (UInt8 × Sign × Bytes)}
    (proper : ∀ part ∈ exponent, (part.1 = 101 ∨ part.1 = 69) ∧ part.2.2 ≠ [] ∧ Digits part.2.2) :
    exponentPart (exponentText exponent) = (exponentValue exponent, []) := by
  cases exponent with
  | none => rfl
  | some part =>
      obtain ⟨mark, sign, digits⟩ := part
      obtain ⟨marked, filled, all⟩ := proper _ rfl
      have signed : signOf (sign.text ++ digits) = (sign, digits) := by
        have unsigned := digits_unsigned filled all []
        rw [List.append_nil] at unsigned
        exact signOf_text sign unsigned
      simp only [exponentText, exponentPart, signed, (digits_alone all).1, (digits_alone all).2]
      rw [if_pos ⟨marked, filled⟩]
      rfl

theorem exponentText_head {exponent : Option (UInt8 × Sign × Bytes)}
    (proper : ∀ part ∈ exponent, (part.1 = 101 ∨ part.1 = 69) ∧ part.2.2 ≠ [] ∧ Digits part.2.2) :
    ∀ byte ∈ (exponentText exponent).head?, isdigit byte = false ∧ byte ≠ 46 := by
  intro byte first
  cases exponent with
  | none => cases first
  | some part =>
      cases first
      rcases (proper part rfl).1 with mark | mark <;> rw [mark] <;> decide

theorem fractionPart_text {fraction : Option Bytes} {rest : Bytes}
    (proper : ∀ digits ∈ fraction, Digits digits)
    (stops : ∀ byte ∈ rest.head?, isdigit byte = false ∧ byte ≠ 46) :
    fractionPart (fractionText fraction ++ rest) = (fraction.getD [], rest) := by
  cases fraction with
  | none =>
      cases rest with
      | nil => rfl
      | cons byte rest =>
          have other := (stops byte rfl).2
          simp [fractionText, fractionPart, other]
  | some digits =>
      have span := digits_span (proper digits rfl) fun byte first => (stops byte first).1
      simp [fractionText, fractionPart, span.1, span.2]

/-- A properly spelled numeral is read to its end. -/
theorem readNumeral_text {spelling : Spelling} (proper : spelling.Proper) :
    readNumeral spelling.text = some (spelling.numeral, []) := by
  have behind := exponentText_head proper.exponent
  have stops : ∀ byte ∈ (fractionText spelling.fraction ++
      exponentText spelling.exponent).head?, isdigit byte = false := by
    intro byte first
    cases shape : spelling.fraction with
    | none =>
        rw [shape] at first
        exact (behind byte first).1
    | some digits =>
        rw [shape] at first
        cases first
        decide
  have signed := signOf_text spelling.sign (digits_unsigned proper.filled proper.whole
    (fractionText spelling.fraction ++ exponentText spelling.exponent))
  have whole := digits_span proper.whole stops
  have fraction := fractionPart_text proper.fraction behind
  have exponent := exponentPart_text proper.exponent
  have filled : spelling.whole ++ spelling.fraction.getD [] ≠ [] :=
    List.append_ne_nil_of_left_ne_nil proper.filled _
  simp only [readNumeral, Spelling.text, signed, whole, fraction, exponent, if_neg filled]
  rfl

theorem exponentPart_shorter (text : Bytes) : (exponentPart text).2 <:+ text := by
  cases text with
  | nil => exact List.suffix_refl _
  | cons byte rest =>
      rw [exponentPart]
      split
      · have signed : (signOf rest).2 <:+ rest := ⟨_, (signOf_eq rest).symm⟩
        exact (List.dropWhile_suffix _).trans (signed.trans (List.suffix_cons _ _))
      · exact List.suffix_refl _

theorem fractionPart_shorter (text : Bytes) : (fractionPart text).2 <:+ text := by
  cases text with
  | nil => exact List.suffix_refl _
  | cons byte rest =>
      rw [fractionPart]
      split
      · exact (List.dropWhile_suffix _).trans (List.suffix_cons _ _)
      · exact List.suffix_refl _

theorem readNumeral_suffix {text rest : Bytes} {numeral : Numeral}
    (read : readNumeral text = some (numeral, rest)) : rest <:+ text := by
  simp only [readNumeral] at read
  split at read
  · cases read
  · cases read
    have signed : (signOf text).2 <:+ text := ⟨_, (signOf_eq text).symm⟩
    exact (exponentPart_shorter _).trans ((fractionPart_shorter _).trans
      ((List.dropWhile_suffix _).trans signed))

theorem takeWhile_dropWhile_length (text : Bytes) :
    (text.takeWhile isdigit).length + (text.dropWhile isdigit).length = text.length := by
  rw [← List.length_append, List.takeWhile_append_dropWhile]

/-- A numeral has at least one byte. -/
theorem readNumeral_consumes {text rest : Bytes} {numeral : Numeral}
    (read : readNumeral text = some (numeral, rest)) : rest.length < text.length := by
  simp only [readNumeral] at read
  split at read
  · cases read
  · rename_i filled
    cases read
    have signed := congrArg List.length (signOf_eq text)
    rw [List.length_append] at signed
    have whole := takeWhile_dropWhile_length (signOf text).2
    have behind := (exponentPart_shorter
      (fractionPart ((signOf text).2.dropWhile isdigit)).2).length_le
    have point : (fractionPart ((signOf text).2.dropWhile isdigit)).1.length +
        (fractionPart ((signOf text).2.dropWhile isdigit)).2.length ≤
          ((signOf text).2.dropWhile isdigit).length := by
      generalize (signOf text).2.dropWhile isdigit = left
      cases left with
      | nil => exact Nat.le_refl _
      | cons byte rest =>
          have digits := takeWhile_dropWhile_length rest
          rw [fractionPart]
          split
          · simp only [List.length_cons]
            omega
          · simp
    have some : 1 ≤ ((signOf text).2.takeWhile isdigit ++
        (fractionPart ((signOf text).2.dropWhile isdigit)).1).length :=
      List.length_pos_of_ne_nil filled
    rw [List.length_append] at some
    omega

/-! Digits of a fixed count. -/

def digitsText : Nat → Nat → Bytes
  | 0, _ => []
  | count + 1, value => digitsText count (value / 10) ++ [48 + UInt8.ofNat (value % 10)]

theorem digitsText_length (count value : Nat) : (digitsText count value).length = count := by
  induction count generalizing value with
  | zero => rfl
  | succ count ih => simp [digitsText, ih]

theorem lastDigit_spec (value : Nat) :
    isdigit (48 + UInt8.ofNat (value % 10)) = true ∧
      (48 + UInt8.ofNat (value % 10)).toNat = 48 + value % 10 := by
  have small : value % 10 < 10 := Nat.mod_lt _ (by decide)
  have plain : (48 + UInt8.ofNat (value % 10)).toNat = 48 + value % 10 := by
    simp only [UInt8.toNat_add, UInt8.toNat_ofNat']
    simp only [UInt8.reduceToNat]
    omega
  refine ⟨?_, plain⟩
  simp only [isdigit, Bool.and_eq_true, decide_eq_true_eq, UInt8.le_iff_toNat_le, plain]
  simp only [UInt8.reduceToNat]
  omega

theorem digitsText_digits (count value : Nat) : Digits (digitsText count value) := by
  induction count generalizing value with
  | zero =>
      intro byte none
      cases none
  | succ count ih =>
      intro byte member
      rcases List.mem_append.mp member with front | last
      · exact ih _ byte front
      · rw [List.mem_singleton.mp last]
        exact (lastDigit_spec value).1

theorem digitsValue_from (digits : Bytes) (start : Nat) :
    digits.foldl (fun value digit => 10 * value + (digit.toNat - 48)) start =
      start * 10 ^ digits.length + digitsValue digits := by
  induction digits generalizing start with
  | nil => simp [digitsValue]
  | cons digit digits ih =>
      rw [digitsValue, List.foldl_cons, List.foldl_cons, ih, ih (10 * 0 + (digit.toNat - 48)),
        List.length_cons, pow_succ]
      ring

theorem digitsValue_append (front back : Bytes) :
    digitsValue (front ++ back) = digitsValue front * 10 ^ back.length + digitsValue back := by
  rw [digitsValue, List.foldl_append, digitsValue_from]
  rfl

theorem digitsValue_text (count value : Nat) :
    digitsValue (digitsText count value) = value % 10 ^ count := by
  induction count generalizing value with
  | zero => simp [digitsText, digitsValue, Nat.mod_one]
  | succ count ih =>
      have last : digitsValue [48 + UInt8.ofNat (value % 10)] = value % 10 := by
        simp [digitsValue, (lastDigit_spec value).2]
      rw [digitsText, digitsValue_append, ih, last, pow_succ', Nat.mod_mul, List.length_singleton]
      omega

theorem digitsValue_text_lt {count value : Nat} (fits : value < 10 ^ count) :
    digitsValue (digitsText count value) = value := by
  rw [digitsValue_text, Nat.mod_eq_of_lt fits]

theorem digitsValue_zeros (count : Nat) : digitsValue (List.replicate count 48) = 0 := by
  induction count with
  | zero => rfl
  | succ count ih =>
      rw [List.replicate_succ', digitsValue_append, ih]
      rfl

/-! Rounding to a count of digits: the digits as one number, and the decimal exponent
of the first of them. -/

def roundedDigits (precision : ℕ) (q : ℚ) : ℕ × ℤ :=
  let exponent := Int.log 10 q
  let digits := roundHalfEven (q / 10 ^ (exponent + 1 - precision))
  if digits = 10 ^ precision then (10 ^ (precision - 1), exponent + 1) else (digits, exponent)

def roundedValue (precision : ℕ) (rounded : ℕ × ℤ) : ℚ :=
  rounded.1 * 10 ^ (rounded.2 + 1 - precision)

section Rounding

variable {precision : ℕ} {q : ℚ}

theorem ten_pos (exponent : ℤ) : (0 : ℚ) < 10 ^ exponent := zpow_pos (by norm_num) exponent

theorem decimal_log_spec (positive : 0 < q) :
    (10 : ℚ) ^ Int.log 10 q ≤ q ∧ q < 10 ^ (Int.log 10 q + 1) := by
  have low := Int.zpow_log_le_self (b := 10) (by decide) positive
  have high := Int.lt_zpow_succ_log_self (b := 10) (by decide) q
  push_cast at low high
  exact ⟨low, high⟩

theorem scaled_digits (positive : 0 < q) (some : 0 < precision) :
    ((10 ^ (precision - 1) : ℕ) : ℚ) ≤ q / 10 ^ (Int.log 10 q + 1 - precision) ∧
      q / 10 ^ (Int.log 10 q + 1 - precision) < (10 ^ precision : ℕ) := by
  obtain ⟨low, high⟩ := decimal_log_spec positive
  have step := ten_pos (Int.log 10 q + 1 - precision)
  push_cast
  rw [le_div_iff₀ step, div_lt_iff₀ step, ← zpow_natCast, ← zpow_natCast,
    ← zpow_add₀ (by norm_num), ← zpow_add₀ (by norm_num)]
  have first : ((precision - 1 : ℕ) : ℤ) + (Int.log 10 q + 1 - precision) = Int.log 10 q := by omega
  have last : (precision : ℤ) + (Int.log 10 q + 1 - precision) = Int.log 10 q + 1 := by omega
  rw [first, last]
  exact ⟨low, high⟩

theorem roundedDigits_range (positive : 0 < q) (some : 0 < precision) :
    10 ^ (precision - 1) ≤ (roundedDigits precision q).1 ∧
      (roundedDigits precision q).1 < 10 ^ precision := by
  obtain ⟨low, high⟩ := scaled_digits positive some
  have least := le_roundHalfEven low
  have most := roundHalfEven_le (le_trans (Nat.cast_nonneg _) low) high.le
  simp only [roundedDigits]
  split
  · exact ⟨le_refl _, Nat.pow_lt_pow_right (by decide) (by omega)⟩
  · exact ⟨least, by omega⟩

theorem roundedDigits_exponent (precision : ℕ) (q : ℚ) :
    Int.log 10 q ≤ (roundedDigits precision q).2 ∧
      (roundedDigits precision q).2 ≤ Int.log 10 q + 1 := by
  simp only [roundedDigits]
  split <;> simp

/-- The carry to one more digit does not change what is written. -/
theorem roundedValue_digits (some : 0 < precision) :
    roundedValue precision (roundedDigits precision q) =
      roundHalfEven (q / 10 ^ (Int.log 10 q + 1 - precision)) *
        10 ^ (Int.log 10 q + 1 - precision) := by
  simp only [roundedDigits]
  split
  · rename_i carry
    rw [roundedValue, carry]
    push_cast
    rw [← zpow_natCast, ← zpow_natCast, ← zpow_add₀ (by norm_num), ← zpow_add₀ (by norm_num)]
    congr 1
    omega
  · rfl

theorem roundedValue_error (positive : 0 < q) (some : 0 < precision) :
    |roundedValue precision (roundedDigits precision q) - q| ≤
      10 ^ (Int.log 10 q + 1 - precision) / 2 := by
  have step := ten_pos (Int.log 10 q + 1 - precision)
  have error := roundHalfEven_error (div_nonneg positive.le step.le)
  have split : roundedValue precision (roundedDigits precision q) - q =
      -((q / 10 ^ (Int.log 10 q + 1 - precision) -
        roundHalfEven (q / 10 ^ (Int.log 10 q + 1 - precision))) *
          10 ^ (Int.log 10 q + 1 - precision)) := by
    rw [roundedValue_digits some, sub_mul, div_mul_cancel₀ _ step.ne']
    ring
  rw [split, abs_neg, abs_mul, abs_of_pos step]
  calc _ ≤ 1 / 2 * 10 ^ (Int.log 10 q + 1 - precision) :=
        mul_le_mul_of_nonneg_right error step.le
    _ = 10 ^ (Int.log 10 q + 1 - precision) / 2 := by ring

end Rounding

/-! The conversion %g. -/

/-- The spellings that data formats allow: no plus sign, no needless leading zero, no
point without digits behind it. -/
structure Spelling.Strict (spelling : Spelling) : Prop where
  unsigned : spelling.sign ≠ .plus
  leading : spelling.whole = [48] ∨ ∀ byte ∈ spelling.whole.head?, byte ≠ 48
  behind : ∀ digits ∈ spelling.fraction, digits ≠ []

/-- A fraction without its trailing zeros, and none at all if nothing is left. -/
def shownFraction (digits : Bytes) : Option Bytes :=
  if digits.rdropWhile (· = 48) = [] then none else some (digits.rdropWhile (· = 48))

/-- At least two digits. -/
def exponentDigits (exponent : ℕ) : Bytes :=
  digitsText (max 2 (Nat.log 10 exponent + 1)) exponent

def scientific (precision digits : ℕ) (exponent : ℤ) (sign : Sign) : Spelling :=
  { sign := sign
    whole := (digitsText precision digits).take 1
    fraction := shownFraction ((digitsText precision digits).drop 1)
    exponent := some (101, if exponent < 0 then .minus else .plus,
      exponentDigits exponent.natAbs) }

def positional (precision digits : ℕ) (exponent : ℤ) (sign : Sign) : Spelling :=
  if exponent < 0 then
    { sign := sign
      whole := [48]
      fraction := shownFraction
        (List.replicate (-exponent - 1).toNat 48 ++ digitsText precision digits)
      exponent := none }
  else
    { sign := sign
      whole := (digitsText precision digits).take (exponent + 1).toNat
      fraction := shownFraction ((digitsText precision digits).drop (exponent + 1).toNat)
      exponent := none }

def printG (precision : ℕ) (sign : Sign) (q : ℚ) : Spelling :=
  if q = 0 then { sign := sign, whole := [48], fraction := none, exponent := none }
  else
    let rounded := roundedDigits precision q
    if rounded.2 < -4 ∨ precision ≤ rounded.2 then
      scientific precision rounded.1 rounded.2 sign
    else positional precision rounded.1 rounded.2 sign

theorem shownFraction_zeros (digits : Bytes) :
    ∃ count, digits = (shownFraction digits).getD [] ++ List.replicate count 48 := by
  have whole := List.rdropWhile_append_rtakeWhile (p := (· = 48)) (l := digits)
  have zeros : digits.rtakeWhile (· = 48) =
      List.replicate (digits.rtakeWhile (· = 48)).length 48 := by
    apply List.eq_replicate_of_mem
    intro byte member
    simpa using List.mem_rtakeWhile_imp member
  refine ⟨(digits.rtakeWhile (· = 48)).length, ?_⟩
  rw [← zeros, shownFraction]
  split
  · rename_i nothing
    rw [nothing] at whole
    exact whole.symm
  · exact whole.symm

theorem shownFraction_digits {digits : Bytes} (all : Digits digits) :
    ∀ shown ∈ shownFraction digits, shown ≠ [] ∧ Digits shown := by
  intro shown chosen
  rw [shownFraction] at chosen
  split at chosen
  · cases chosen
  · rename_i filled
    cases chosen
    exact ⟨filled, fun byte member =>
      all byte ((List.rdropWhile_prefix (p := (· = 48)) digits).subset member)⟩

/-- Trailing zeros of a fraction do not count. -/
theorem shownFraction_value (whole digits : Bytes) (scale : ℤ) :
    (digitsValue (whole ++ (shownFraction digits).getD []) : ℚ) *
        10 ^ (scale - ((shownFraction digits).getD []).length) =
      digitsValue (whole ++ digits) * 10 ^ (scale - digits.length) := by
  obtain ⟨count, same⟩ := shownFraction_zeros digits
  generalize (shownFraction digits).getD [] = shown at same
  subst same
  have longer : scale - shown.length = scale - (shown ++ List.replicate count 48).length + count := by
    simp only [List.length_append, List.length_replicate]
    push_cast
    ring
  rw [← List.append_assoc, digitsValue_append (whole ++ shown), digitsValue_zeros, longer,
    zpow_add₀ (by norm_num), List.length_replicate]
  push_cast
  rw [zpow_natCast]
  ring

theorem exponentDigits_spec (exponent : ℕ) :
    exponentDigits exponent ≠ [] ∧ Digits (exponentDigits exponent) ∧
      digitsValue (exponentDigits exponent) = exponent := by
  refine ⟨?_, digitsText_digits _ _, ?_⟩
  · intro nothing
    have size := digitsText_length (max 2 (Nat.log 10 exponent + 1)) exponent
    rw [show digitsText _ exponent = [] from nothing] at size
    simp only [List.length_nil] at size
    omega
  · apply digitsValue_text_lt
    exact lt_of_lt_of_le (Nat.lt_pow_succ_log_self (by decide) exponent)
      (Nat.pow_le_pow_right (by decide) (le_max_right _ _))

theorem digits_take {digits : Bytes} (all : Digits digits) (count : ℕ) :
    Digits (digits.take count) ∧ Digits (digits.drop count) :=
  ⟨fun byte member => all byte (List.mem_of_mem_take member),
    fun byte member => all byte (List.mem_of_mem_drop member)⟩

theorem digits_padded (count : ℕ) {digits : Bytes} (all : Digits digits) :
    Digits (List.replicate count 48 ++ digits) := by
  intro byte member
  rcases List.mem_append.mp member with zero | digit
  · rw [List.eq_of_mem_replicate zero]
    decide
  · exact all byte digit

section Printing

variable (precision digits : ℕ) (exponent : ℤ) (sign : Sign)

theorem scientific_proper (some : 0 < precision) :
    (scientific precision digits exponent sign).Proper where
  filled := by
    intro nothing
    have size := digitsText_length precision digits
    rcases List.take_eq_nil_iff.mp nothing with none | empty
    · cases none
    · rw [empty] at size
      exact absurd size some.ne
  whole := (digits_take (digitsText_digits precision digits) 1).1
  fraction := fun shown chosen =>
    (shownFraction_digits (digits_take (digitsText_digits precision digits) 1).2 shown chosen).2
  exponent := by
    intro part same
    cases same
    exact ⟨Or.inl rfl, (exponentDigits_spec _).1, (exponentDigits_spec _).2.1⟩

theorem positional_proper (some : 0 < precision) :
    (positional precision digits exponent sign).Proper := by
  have all := digitsText_digits precision digits
  unfold positional
  split
  · exact
      { filled := by simp
        whole := by
          intro byte member
          rw [List.mem_singleton.mp member]
          decide
        fraction := fun shown chosen =>
          (shownFraction_digits (digits_padded _ all) shown chosen).2
        exponent := by
          intro part none
          cases none }
  · rename_i nonneg
    exact
      { filled := by
          intro nothing
          have size := digitsText_length precision digits
          rcases List.take_eq_nil_iff.mp nothing with none | empty
          · omega
          · rw [empty] at size
            exact absurd size some.ne
        whole := (digits_take all _).1
        fraction := fun shown chosen =>
          (shownFraction_digits (digits_take all _).2 shown chosen).2
        exponent := by
          intro part none
          cases none }

variable {precision digits exponent}

theorem scientific_magnitude (some : 0 < precision) (fits : digits < 10 ^ precision) :
    (scientific precision digits exponent sign).numeral.magnitude =
      roundedValue precision (digits, exponent) := by
  have signed : (if exponent < 0 then Sign.minus else Sign.plus).apply
      (digitsValue (exponentDigits exponent.natAbs)) = exponent := by
    rw [(exponentDigits_spec _).2.2]
    split <;> simp only [Sign.apply] <;> omega
  have value := shownFraction_value ((digitsText precision digits).take 1)
    ((digitsText precision digits).drop 1) exponent
  rw [List.take_append_drop, digitsValue_text_lt fits, List.length_drop, digitsText_length] at value
  simp only [scientific, Spelling.numeral, Numeral.magnitude, exponentValue, signed]
  rw [value, roundedValue]
  congr 2
  omega

theorem positional_magnitude (fits : digits < 10 ^ precision) (within : exponent < precision) :
    (positional precision digits exponent sign).numeral.magnitude =
      roundedValue precision (digits, exponent) := by
  unfold positional
  split
  · rename_i negative
    have value := shownFraction_value [48]
      (List.replicate (-exponent - 1).toNat 48 ++ digitsText precision digits) 0
    have padded : digitsValue ([48] ++ (List.replicate (-exponent - 1).toNat 48 ++
        digitsText precision digits)) = digits := by
      have zeros : [48] ++ (List.replicate (-exponent - 1).toNat 48 ++
          digitsText precision digits) =
          List.replicate ((-exponent - 1).toNat + 1) 48 ++ digitsText precision digits := rfl
      rw [zeros, digitsValue_append, digitsValue_zeros, digitsValue_text_lt fits, Nat.zero_mul,
        Nat.zero_add]
    rw [padded, List.length_append, List.length_replicate, digitsText_length] at value
    simp only [Spelling.numeral, Numeral.magnitude, exponentValue]
    rw [value, roundedValue]
    congr 2
    omega
  · rename_i nonneg
    have value := shownFraction_value ((digitsText precision digits).take (exponent + 1).toNat)
      ((digitsText precision digits).drop (exponent + 1).toNat) 0
    rw [List.take_append_drop, digitsValue_text_lt fits, List.length_drop, digitsText_length]
      at value
    simp only [Spelling.numeral, Numeral.magnitude, exponentValue]
    rw [value, roundedValue]
    congr 2
    omega

theorem printG_proper (some : 0 < precision) (q : ℚ) : (printG precision sign q).Proper := by
  unfold printG
  split
  · exact
      { filled := by simp
        whole := by
          intro byte member
          rw [List.mem_singleton.mp member]
          decide
        fraction := by
          intro digits none
          cases none
        exponent := by
          intro part none
          cases none }
  · simp only
    split
    · exact scientific_proper precision _ _ sign some
    · exact positional_proper precision _ _ sign some

theorem printG_sign (q : ℚ) : (printG precision sign q).sign = sign := by
  unfold printG scientific positional
  split
  · rfl
  · simp only
    split
    · rfl
    · split <;> rfl

/-- A printed number is the number rounded to its digits. -/
theorem printG_magnitude (some : 0 < precision) {q : ℚ} (positive : 0 < q) :
    (printG precision sign q).numeral.magnitude =
      roundedValue precision (roundedDigits precision q) := by
  have fits := (roundedDigits_range positive some).2
  simp only [printG, if_neg positive.ne']
  split
  · exact scientific_magnitude sign some fits
  · rename_i inside
    exact positional_magnitude sign fits (by omega)

theorem sign_length (sign : Sign) : sign.text.length ≤ 1 := by cases sign <;> decide

theorem shownFraction_length (digits : Bytes) :
    (fractionText (shownFraction digits)).length ≤ digits.length + 1 := by
  rw [shownFraction]
  split
  · simp [fractionText]
  · have shorter := (List.rdropWhile_prefix (p := (· = 48)) digits).length_le
    simpa [fractionText] using shorter

theorem exponentDigits_length {exponent : ℕ} (small : exponent < 1000) :
    (exponentDigits exponent).length ≤ 3 := by
  have log := Nat.log_lt_of_lt_pow' (b := 10) (x := 3) (by decide) small
  rw [exponentDigits, digitsText_length]
  omega

theorem scientific_length (small : exponent.natAbs < 1000) :
    (scientific precision digits exponent sign).text.length ≤ precision + 7 := by
  have signed := sign_length sign
  have exponentSigned := sign_length (if exponent < 0 then .minus else .plus)
  have behind := shownFraction_length ((digitsText precision digits).drop 1)
  have shown := exponentDigits_length small
  simp only [scientific, Spelling.text, exponentText, List.length_append, List.length_cons,
    List.length_take, List.length_drop, digitsText_length] at behind ⊢
  omega

theorem positional_length (within : exponent < precision) (above : -4 ≤ exponent) :
    (positional precision digits exponent sign).text.length ≤ precision + 7 := by
  have signed := sign_length sign
  unfold positional
  split
  · have behind := shownFraction_length
      (List.replicate (-exponent - 1).toNat 48 ++ digitsText precision digits)
    simp only [Spelling.text, exponentText, List.length_append, List.length_replicate,
      digitsText_length, List.length_singleton, List.length_nil] at behind ⊢
    omega
  · have behind := shownFraction_length ((digitsText precision digits).drop (exponent + 1).toNat)
    simp only [Spelling.text, exponentText, List.length_append, List.length_take, List.length_drop,
      digitsText_length, List.length_nil] at behind ⊢
    omega

theorem printG_length {q : ℚ} (low : -998 ≤ Int.log 10 q) (high : Int.log 10 q ≤ 998) :
    (printG precision sign q).text.length ≤ precision + 7 := by
  obtain ⟨least, most⟩ := roundedDigits_exponent precision q
  unfold printG
  split
  · have signed := sign_length sign
    simp only [Spelling.text, fractionText, exponentText, List.length_append,
      List.length_singleton, List.length_nil]
    omega
  · simp only
    split
    · exact scientific_length sign (by omega)
    · exact positional_length sign (by omega) (by omega)

theorem printG_zero : (printG precision sign 0).numeral.magnitude = 0 := by
  simp [printG, Spelling.numeral, Numeral.magnitude, digitsValue]

theorem digitsText_head {count value : ℕ} (least : 10 ^ count ≤ value)
    (fits : value < 10 ^ (count + 1)) : ∀ byte ∈ (digitsText (count + 1) value).head?, byte ≠ 48 := by
  induction count generalizing value with
  | zero =>
      intro byte first
      cases first
      have digit := (lastDigit_spec value).2
      intro zero
      rw [zero, show (48 : UInt8).toNat = 48 from rfl] at digit
      omega
  | succ count ih =>
      intro byte first
      have front : digitsText (count + 1) (value / 10) ≠ [] := by
        intro nothing
        have size := digitsText_length (count + 1) (value / 10)
        rw [nothing] at size
        cases size
      rw [digitsText, List.head?_append_of_ne_nil _ front] at first
      rw [pow_succ] at least fits
      exact ih (by omega) (by omega) byte first

theorem head_of_take {text : Bytes} {count : ℕ} {byte : UInt8}
    (first : byte ∈ (text.take count).head?) : byte ∈ text.head? := by
  rw [List.head?_take] at first
  split at first
  · cases first
  · exact first

theorem printG_strict (some : 0 < precision) (unsigned : sign ≠ .plus) {q : ℚ} (nonneg : 0 ≤ q) :
    (printG precision sign q).Strict := by
  refine ⟨by rwa [printG_sign], ?_, ?_⟩
  · unfold printG
    split
    · exact Or.inl rfl
    · rename_i nonzero
      obtain ⟨least, fits⟩ :=
        roundedDigits_range (lt_of_le_of_ne nonneg (Ne.symm nonzero)) some
      obtain ⟨less, size⟩ : ∃ less, precision = less + 1 := ⟨precision - 1, by omega⟩
      subst size
      have leading := digitsText_head least fits
      simp only
      split
      · exact Or.inr fun byte first => leading byte (head_of_take first)
      · unfold positional
        split
        · exact Or.inl rfl
        · right
          exact fun byte first => leading byte (head_of_take first)
  · intro digits chosen
    have all := digitsText_digits precision (roundedDigits precision q).1
    unfold printG scientific positional at chosen
    split at chosen
    · cases chosen
    · simp only at chosen
      split at chosen
      · exact (shownFraction_digits (digits_take all 1).2 digits chosen).1
      · split at chosen
        · exact (shownFraction_digits (digits_padded _ all) digits chosen).1
        · exact (shownFraction_digits (digits_take all _).2 digits chosen).1

end Printing

end DecimalNumerals

import LnpResolver.CJsonParser
import LnpResolver.JsonDocuments

/-!
cJSON reads JSON strings: it finds where a string ends and unescapes it, unless a
surrogate in it lacks its other half. The code of an escape is turned into UTF-8
as the grammar has it.
-/

namespace LnpResolver.CJsonStrings

open PackedBytes CStrings DecimalNumerals Doubles JsonText JsonSpellings JsonDocuments JsonItems
open CJsonParser

/-! Escapes. -/

theorem parseHex_short (left h : Nat) (input : Bytes) (short : input.length < left) :
    parseHex left h input = 0 := by
  induction left generalizing h input with
  | zero => cases short
  | succ left ih =>
      cases input with
      | nil => rfl
      | cons byte rest =>
          rw [parseHex]
          split
          · rfl
          · exact ih _ rest (Nat.lt_of_succ_lt_succ short)

/-- Digits that are none are read as 0. -/
theorem parseHex4_eq (input : Bytes) : parseHex4 input = ((hexQuad input).map Prod.fst).getD 0 := by
  match input with
  | [] | [_] | [_, _] | [_, _, _] => exact parseHex_short 4 0 _ (by simp)
  | a :: b :: c :: d :: rest =>
      simp only [parseHex4, parseHex, hexQuad]
      cases hexDigit a with
      | none => rfl
      | some v =>
          cases hexDigit b with
          | none => rfl
          | some w =>
              cases hexDigit c with
              | none => rfl
              | some x =>
                  cases hexDigit d with
                  | none => rfl
                  | some y => simp [Nat.shiftLeft_eq]

theorem continuation_byte (code : Nat) :
    UInt8.ofNat ((code ||| 0x80) &&& 0xBF) = UInt8.ofNat (128 + code % 64) := by
  have bytes : ∀ byte : Fin 256, (byte.val ||| 0x80) &&& 0xBF = 128 + byte.val % 64 := by
    decide +kernel
  have low : ((code ||| 0x80) &&& 0xBF) % 2 ^ 8 = 128 + code % 64 := by
    rw [Nat.and_mod_two_pow, Nat.or_mod_two_pow]
    have byte := bytes ⟨code % 2 ^ 8, Nat.mod_lt _ (by decide)⟩
    rw [Nat.mod_mod_of_dvd code (by decide : 64 ∣ 2 ^ 8)] at byte
    exact byte
  apply UInt8.toNat_inj.mp
  rw [UInt8.toNat_ofNat', UInt8.toNat_ofNat', low]
  exact (Nat.mod_eq_of_lt (by omega)).symm

theorem first_byte : (∀ left : Fin 32, (left.val ||| 0xC0) &&& 0xFF = 192 + left.val) ∧
    (∀ left : Fin 16, (left.val ||| 0xE0) &&& 0xFF = 224 + left.val) ∧
    (∀ left : Fin 8, (left.val ||| 0xF0) &&& 0xFF = 240 + left.val) := by
  decide +kernel

theorem encodeUtf8_eq {code : Nat} (valid : code < 1114112) : encodeUtf8 code = some (encode code) := by
  obtain ⟨two, three, four⟩ := first_byte
  have low : code < 128 → code &&& 0x7F = code := by
    intro small
    rw [Nat.and_two_pow_sub_one_eq_mod code 7]
    exact Nat.mod_eq_of_lt small
  have shift : ∀ n, n >>> 6 = n / 64 := fun n => Nat.shiftRight_eq_div_pow n 6
  unfold encodeUtf8 encode
  split
  · rename_i small
    rw [low small]
  · split
    · have first := two ⟨code / 64, by omega⟩
      simp only at first
      simp only [encodeWith, continuation, continuation_byte, shift, first]
    · split
      · have first := three ⟨code / 4096, by omega⟩
        simp only at first
        simp only [encodeWith, continuation, continuation_byte, shift, Nat.div_div_eq_div_mul, first]
      · have first := four ⟨code / 262144, by omega⟩
        simp only at first
        rw [if_pos (by omega)]
        simp only [encodeWith, continuation, continuation_byte, shift, Nat.div_div_eq_div_mul, first]

theorem pair_codepoint {high low : Nat} (first : HighSurrogate high) (second : LowSurrogate low) :
    0x10000 + (((high &&& 0x3FF) <<< 10) ||| (low &&& 0x3FF)) =
      65536 + (high - 55296) * 1024 + (low - 56320) := by
  obtain ⟨_, _⟩ := first
  obtain ⟨_, _⟩ := second
  have highBits : high &&& 0x3FF = high - 55296 := by
    rw [Nat.and_two_pow_sub_one_eq_mod high 10]
    omega
  have lowBits : low &&& 0x3FF = low - 56320 := by
    rw [Nat.and_two_pow_sub_one_eq_mod low 10]
    omega
  rw [highBits, lowBits, ← Nat.shiftLeft_add_eq_or_of_lt (by omega), Nat.shiftLeft_eq]
  omega

theorem utf16_input (quad more : Bytes) {code : Nat} (digits : hexQuad quad = some (code, [])) :
    parseHex4 ((92 :: 117 :: (quad ++ more)).drop 2) = code ∧
      (92 :: 117 :: (quad ++ more)).drop 6 = more ∧ 6 ≤ (92 :: 117 :: (quad ++ more)).length := by
  obtain ⟨a, b, c, d, rfl, -⟩ := hexQuad_spec digits
  have read := hexQuad_append digits more
  refine ⟨?_, rfl, by simp⟩
  rw [parseHex4_eq, List.drop_succ_cons, List.drop_succ_cons, List.drop_zero, read]
  rfl

theorem utf16_unit (quad more : Bytes) {code : Nat} (digits : hexQuad quad = some (code, []))
    (single : ¬ (55296 ≤ code ∧ code < 57344)) :
    utf16LiteralToUtf8 (92 :: 117 :: (quad ++ more)) = some (6, encode code) := by
  obtain ⟨read, -, size⟩ := utf16_input quad more digits
  have valid := hexQuad_lt digits
  unfold utf16LiteralToUtf8
  rw [if_neg (by omega)]
  simp only [read]
  rw [if_neg (by omega), if_neg (by omega), encodeUtf8_eq (by omega)]
  rfl

theorem utf16_pair (quad other more : Bytes) {code low : Nat}
    (digits : hexQuad quad = some (code, [])) (first : HighSurrogate code)
    (following : hexQuad other = some (low, [])) (second : LowSurrogate low) :
    utf16LiteralToUtf8 (92 :: 117 :: (quad ++ 92 :: 117 :: (other ++ more))) =
      some (12, encode (65536 + (code - 55296) * 1024 + (low - 56320))) := by
  obtain ⟨read, behind, size⟩ := utf16_input quad (92 :: 117 :: (other ++ more)) digits
  obtain ⟨readLow, -, sizeLow⟩ := utf16_input other more following
  have point := pair_codepoint first second
  obtain ⟨firstLow, firstHigh⟩ := first
  obtain ⟨secondLow, secondHigh⟩ := second
  unfold utf16LiteralToUtf8
  rw [if_neg (by omega)]
  simp only [read, behind]
  rw [if_neg (by omega), if_pos (by omega), if_neg (by omega), if_neg (by simp), readLow,
    if_neg (by omega), point, encodeUtf8_eq (by omega)]
  rfl

/-- A surrogate without its other half is refused. -/
theorem utf16_lone (quad more : Bytes) {code : Nat} (digits : hexQuad quad = some (code, []))
    (low : 55296 ≤ code) (high : code < 57344) (rest : Bytes)
    (alone : HighSurrogate code → lowSurrogate (more ++ rest) = none) :
    utf16LiteralToUtf8 (92 :: 117 :: (quad ++ more)) = none := by
  obtain ⟨read, behind, size⟩ := utf16_input quad more digits
  unfold utf16LiteralToUtf8
  rw [if_neg (by omega)]
  simp only [read, behind]
  split
  · rfl
  · rw [if_pos (by omega)]
    split
    · rfl
    · split
      · rfl
      · rename_i mark
        obtain ⟨tail, shape⟩ : ∃ tail, more = 92 :: 117 :: tail := by
          refine ⟨more.drop 2, ?_⟩
          have split := List.take_append_drop 2 more
          rw [not_not.mp mark] at split
          exact split.symm
        subst shape
        rw [if_pos]
        have none := alone ⟨low, by omega⟩
        rw [List.drop_succ_cons, List.drop_succ_cons, List.drop_zero, parseHex4_eq]
        cases found : hexQuad tail with
        | none => exact Or.inl (by decide)
        | some result =>
            obtain ⟨value, left⟩ := result
            obtain ⟨other, rfl, more⟩ := hexQuad_split found
            by_contra second
            have second : LowSurrogate value := by
              simp only [Option.map_some, Option.getD_some, not_or, not_lt] at second
              exact ⟨second.1, by omega⟩
            have pair := (lowSurrogate_iff (92 :: 117 :: (other ++ left) ++ rest) (left ++ rest)
              value).mpr ⟨other, by simp, more, second⟩
            rw [pair] at none
            cases none

theorem escapedChar_known {letter value : UInt8} (known : shortEscapes.lookup letter = some value) :
    escapedChar letter = some value ∧ letter < 128 ∧ value < 128 := by
  obtain ⟨front, back, split, -⟩ := List.lookup_eq_some_iff.mp known
  have member : (letter, value) ∈ shortEscapes := by
    rw [split]
    simp
  simp only [shortEscapes, List.mem_cons, Prod.mk.injEq, List.not_mem_nil, or_false] at member
  rcases member with ⟨rfl, rfl⟩ | ⟨rfl, rfl⟩ | ⟨rfl, rfl⟩ | ⟨rfl, rfl⟩ | ⟨rfl, rfl⟩ | ⟨rfl, rfl⟩ |
    ⟨rfl, rfl⟩ | ⟨rfl, rfl⟩ <;> decide

theorem hexDigit_plain {byte : UInt8} (digit : (hexDigit byte).isSome = true) :
    byte < 128 ∧ byte ≠ 34 ∧ byte ≠ 92 := by
  obtain ⟨value, found⟩ := Option.isSome_iff_exists.mp digit
  have range : (48 ≤ byte.toNat ∧ byte.toNat ≤ 57) ∨ (65 ≤ byte.toNat ∧ byte.toNat ≤ 70) ∨
      (97 ≤ byte.toNat ∧ byte.toNat ≤ 102) := by
    simp only [hexDigit, UInt8.le_iff_toNat_le] at found
    simp only [UInt8.reduceToNat] at found
    split at found
    · exact Or.inl ‹_›
    · split at found
      · exact Or.inr (Or.inl ‹_›)
      · split at found
        · exact Or.inr (Or.inr ‹_›)
        · cases found
  simp only [UInt8.lt_iff_toNat_lt, ne_eq, ← UInt8.toNat_inj]
  simp only [UInt8.reduceToNat]
  omega

theorem quad_ascii {quad : Bytes} {code : Nat} (digits : hexQuad quad = some (code, [])) :
    Ascii quad :=
  fun byte member => (hexDigit_plain (hexQuad_bytes digits byte member)).1

theorem escapes_ascii {front piece rest : Bytes} (escapes : Escapes front piece rest) :
    Ascii front := by
  cases escapes with
  | short letter value _ known => simpa [Ascii] using (escapedChar_known known).2.1
  | unit quad code _ digits alone =>
      have all := quad_ascii digits
      intro byte member
      rcases List.mem_cons.mp member with rfl | inside
      · decide
      · exact all byte inside
  | pair quad other code low _ digits first more second =>
      intro byte member
      simp only [List.mem_cons, List.mem_append] at member
      rcases member with rfl | front | rfl | rfl | back
      · decide
      · exact quad_ascii digits byte front
      · decide
      · decide
      · exact quad_ascii more byte back

/-! Strings. -/

theorem scanString_plain {text rest : Bytes} (plain : ∀ byte ∈ text, byte ≠ 34 ∧ byte ≠ 92) :
    scanString (text ++ rest) = (scanString rest).map fun (raw, rest) => (text ++ raw, rest) := by
  induction text with
  | nil => simp
  | cons byte text ih =>
      obtain ⟨noQuote, noEscape⟩ := plain byte List.mem_cons_self
      have later := ih fun other member => plain other (List.mem_cons_of_mem _ member)
      rw [List.cons_append, scanString.eq_def]
      simp only [if_neg noQuote, if_neg noEscape, later, Option.map_map]
      rfl

theorem scanString_escape (letter : UInt8) (rest : Bytes) :
    scanString (92 :: letter :: rest) =
      (scanString rest).map fun (raw, rest) => (92 :: letter :: raw, rest) := by
  rw [scanString, if_neg (by decide), if_pos rfl]

theorem quad_plain {quad : Bytes} {code : Nat} (digits : hexQuad quad = some (code, [])) :
    ∀ byte ∈ quad, byte ≠ 34 ∧ byte ≠ 92 :=
  fun byte member => (hexDigit_plain (hexQuad_bytes digits byte member)).2

/-- The end of a string is found, however it is escaped. -/
theorem scanString_spells {raw text : Bytes} (spells : Spells raw text) (rest : Bytes) :
    scanString (raw ++ quotationMark :: rest) = some (raw, rest) := by
  induction spells with
  | nil =>
      rw [List.nil_append, scanString.eq_def]
      rfl
  | plain byte raw text printable noQuote noEscape later ih =>
      have noEscape' : byte ≠ 92 := noEscape
      have noQuote' : byte ≠ 34 := noQuote
      rw [List.cons_append, scanString.eq_def]
      simp only [if_neg noQuote', if_neg noEscape', ih]
      rfl
  | escape front piece raw text escapes later ih =>
      rw [List.cons_append, List.append_assoc]
      cases escapes rest with
      | short letter value _ known =>
          rw [List.singleton_append]
          exact (scanString_escape letter _).trans (by rw [ih]; rfl)
      | unit quad code _ digits alone =>
          rw [List.cons_append]
          refine (scanString_escape 117 _).trans ?_
          rw [scanString_plain (quad_plain digits), ih]
          rfl
      | pair quad other code low _ digits first more second =>
          rw [List.cons_append, List.append_assoc, List.cons_append, List.cons_append]
          refine (scanString_escape 117 _).trans ?_
          rw [scanString_plain (quad_plain digits), scanString_escape,
            scanString_plain (quad_plain more), ih]
          simp [reverseSolidus]

/-- A piece of a string is unescaped to UTF-8, or it cannot be part of UTF-8. -/
theorem unescape_spells {raw text : Bytes} (spells : Spells raw text) (fuel : Nat)
    (enough : raw.length < fuel) (owed final : Owed) (proper : owed.Proper)
    (read : scan owed raw = some final) :
    (unescapeWithin fuel raw = some text ∧ scan owed text = some final) ∨
      (unescapeWithin fuel raw = none ∧ scan owed text = none) := by
  induction spells generalizing fuel owed with
  | nil =>
      obtain ⟨fuel, rfl⟩ : ∃ less, fuel = less + 1 := ⟨fuel - 1, by simp at enough; omega⟩
      exact Or.inl ⟨rfl, read⟩
  | plain byte raw text printable noQuote noEscape later ih =>
      obtain ⟨fuel, rfl⟩ : ∃ less, fuel = less + 1 := ⟨fuel - 1, by simp at enough; omega⟩
      rw [scan_cons] at read
      obtain ⟨after, first, rest⟩ := Option.bind_eq_some_iff.mp read
      have noEscape' : byte ≠ 92 := noEscape
      simp only [unescapeWithin, if_pos noEscape', scan_cons, first, Option.bind_some]
      rcases ih fuel (Nat.lt_of_succ_lt_succ enough) after (continue_proper owed after byte first) rest
        with ⟨whole, valid⟩ | ⟨refused, invalid⟩
      · exact Or.inl ⟨by rw [whole]; rfl, valid⟩
      · exact Or.inr ⟨by rw [refused]; rfl, invalid⟩
  | escape front piece raw text escapes later ih =>
      obtain ⟨fuel, rfl⟩ : ∃ less, fuel = less + 1 := ⟨fuel - 1, by simp at enough; omega⟩
      have longer := escapes_filled (escapes [])
      rw [List.length_cons, List.length_append] at enough
      rw [scan_cons] at read
      obtain ⟨after, first, rest⟩ := Option.bind_eq_some_iff.mp read
      -- a reverse solidus stands between characters
      have settled := continue_ascii owed after reverseSolidus (by decide) proper first
      subst settled
      have same : after = {} := by
        cases first
        rfl
      rw [same, scan_front (escapes_ascii (escapes []))] at rest
      have remaining := ih fuel (by omega) {} ⟨by decide, fun _ => rfl⟩ rest
      have solidus : ¬ (reverseSolidus ≠ 92) := by decide
      have unicode : escapedChar 117 = none := by decide
      simp only [unescapeWithin, if_neg solidus]
      cases escapes [] with
      | short letter value _ known =>
          obtain ⟨output, -, ascii⟩ := escapedChar_known known
          simp only [List.singleton_append, List.head?_cons, Option.getD_some, output,
            List.drop_succ_cons, List.drop_zero, scan_mark ascii]
          rcases remaining with ⟨whole, valid⟩ | ⟨refused, invalid⟩
          · exact Or.inl ⟨by rw [whole]; rfl, valid⟩
          · exact Or.inr ⟨by rw [refused]; rfl, invalid⟩
      | unit quad code _ digits alone =>
          have behind : (reverseSolidus :: 117 :: (quad ++ raw)).drop 6 = raw :=
            (utf16_input quad raw digits).2.1
          simp only [List.cons_append, List.head?_cons, Option.getD_some, unicode, if_true]
          by_cases surrogate : 55296 ≤ code ∧ code < 57344
          · right
            have refused : utf16LiteralToUtf8 (reverseSolidus :: 117 :: (quad ++ raw)) = none :=
              utf16_lone quad raw digits surrogate.1 surrogate.2 _ alone
            exact ⟨by rw [refused], scan_surrogate surrogate.1 surrogate.2 _⟩
          · have output : utf16LiteralToUtf8 (reverseSolidus :: 117 :: (quad ++ raw)) =
                some (6, encode code) := utf16_unit quad raw digits surrogate
            have valid := hexQuad_lt digits
            simp only [output, behind, scan_append, scan_encode _ (by omega) surrogate,
              Option.bind_some]
            rcases remaining with ⟨whole, valid⟩ | ⟨refused, invalid⟩
            · exact Or.inl ⟨by rw [whole]; rfl, valid⟩
            · exact Or.inr ⟨by rw [refused]; rfl, invalid⟩
      | pair quad other code low _ digits first more second =>
          have output : utf16LiteralToUtf8
              (reverseSolidus :: 117 :: (quad ++ 92 :: 117 :: (other ++ raw))) =
                some (12, encode (65536 + (code - 55296) * 1024 + (low - 56320))) :=
            utf16_pair quad other raw digits first more second
          have behind : (reverseSolidus :: 117 :: (quad ++ 92 :: 117 :: (other ++ raw))).drop 12 =
              raw := by
            have outer := (utf16_input quad (92 :: 117 :: (other ++ raw)) digits).2.1
            have inner := (utf16_input other raw more).2.1
            calc (reverseSolidus :: 117 :: (quad ++ 92 :: 117 :: (other ++ raw))).drop 12
                = ((reverseSolidus :: 117 :: (quad ++ 92 :: 117 :: (other ++ raw))).drop 6).drop 6 :=
                  by rw [List.drop_drop]
              _ = (92 :: 117 :: (other ++ raw)).drop 6 := congrArg _ outer
              _ = raw := inner
          obtain ⟨firstLow, firstHigh⟩ := first
          obtain ⟨secondLow, secondHigh⟩ := second
          simp only [List.cons_append, List.append_assoc, List.head?_cons, Option.getD_some, unicode,
            if_true, output, behind, scan_append,
            scan_encode (65536 + (code - 55296) * 1024 + (low - 56320)) (by omega) (by omega),
            Option.bind_some]
          rcases remaining with ⟨whole, valid⟩ | ⟨refused, invalid⟩
          · exact Or.inl ⟨by rw [whole]; rfl, valid⟩
          · exact Or.inr ⟨by rw [refused]; rfl, invalid⟩

theorem parseString_quoted (quoted : Quoted) (encoded : quoted.Encoded) (rest : Bytes) :
    parseString (quotationMark :: (quoted.raw ++ quotationMark :: rest)) =
      if IsUtf8 quoted.text then some (cString quoted.text, rest) else none := by
  have quote : ¬ (quotationMark ≠ 34) := by decide
  simp only [parseString, if_neg quote, scanString_spells quoted.spells]
  rcases unescape_spells quoted.spells (quoted.raw.length + 1) (Nat.lt_succ_self _) {} {}
    ⟨by decide, fun _ => rfl⟩ encoded with ⟨whole, valid⟩ | ⟨refused, invalid⟩
  · rw [unescape, whole, if_pos (show IsUtf8 quoted.text from valid)]
    rfl
  · have other : ¬ IsUtf8 quoted.text := by
      intro valid
      rw [IsUtf8, invalid] at valid
      cases valid
    rw [unescape, refused, if_neg other]
    rfl

end LnpResolver.CJsonStrings

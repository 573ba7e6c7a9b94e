import LnpResolver.DecimalNumerals
import LnpResolver.JsonText

/-!
The spellings of JSON strings and numbers. A string is described by a derivation
over the bytes between its quotation marks, a number by its parts; the readers
accept these spellings and no others.
-/

namespace JsonSpellings

open PackedBytes TextStreams CStrings DecimalNumerals JsonText

/-! Escapes. Whether the first half of a surrogate pair stands alone depends on what
follows it. -/

def HighSurrogate (code : Nat) : Prop := 55296 ≤ code ∧ code < 56320
def LowSurrogate (code : Nat) : Prop := 56320 ≤ code ∧ code < 57344

instance (code : Nat) : Decidable (HighSurrogate code) := inferInstanceAs (Decidable (_ ∧ _))
instance (code : Nat) : Decidable (LowSurrogate code) := inferInstanceAs (Decidable (_ ∧ _))

/-- The bytes of an escape behind its reverse solidus, what they stand for, and what follows. -/
inductive Escapes : Bytes → Bytes → Bytes → Prop
  | short (letter value : UInt8) (rest : Bytes) (known : shortEscapes.lookup letter = some value) :
      Escapes [letter] [value] rest
  | unit (quad : Bytes) (code : Nat) (rest : Bytes) (digits : hexQuad quad = some (code, []))
      (alone : HighSurrogate code → lowSurrogate rest = none) :
      Escapes (117 :: quad) (encode code) rest
  | pair (quad other : Bytes) (code low : Nat) (rest : Bytes) (digits : hexQuad quad = some (code, []))
      (first : HighSurrogate code) (more : hexQuad other = some (low, []))
      (second : LowSurrogate low) :
      Escapes (117 :: (quad ++ 92 :: 117 :: other))
        (encode (65536 + (code - 55296) * 1024 + (low - 56320))) rest

theorem hexQuad_spec {quad rest : Bytes} {code : Nat} (read : hexQuad quad = some (code, rest)) :
    ∃ a b c d, quad = a :: b :: c :: d :: rest ∧ ∃ v w x y, hexDigit a = some v ∧
      hexDigit b = some w ∧ hexDigit c = some x ∧ hexDigit d = some y ∧
      code = ((v * 16 + w) * 16 + x) * 16 + y := by
  unfold hexQuad at read
  split at read
  · rename_i a b c d tail
    simp only [bind, Option.bind_eq_some_iff] at read
    obtain ⟨v, first, w, second, x, third, y, fourth, same⟩ := read
    cases same
    exact ⟨a, b, c, d, rfl, v, w, x, y, first, second, third, fourth, rfl⟩
  · cases read

theorem hexQuad_append {quad : Bytes} {code : Nat} (read : hexQuad quad = some (code, []))
    (rest : Bytes) : hexQuad (quad ++ rest) = some (code, rest) := by
  obtain ⟨a, b, c, d, rfl, v, w, x, y, first, second, third, fourth, rfl⟩ := hexQuad_spec read
  simp [hexQuad, first, second, third, fourth]

theorem hexQuad_split {input rest : Bytes} {code : Nat} (read : hexQuad input = some (code, rest)) :
    ∃ quad, input = quad ++ rest ∧ hexQuad quad = some (code, []) := by
  obtain ⟨a, b, c, d, rfl, v, w, x, y, first, second, third, fourth, rfl⟩ := hexQuad_spec read
  exact ⟨[a, b, c, d], rfl, by simp [hexQuad, first, second, third, fourth]⟩

theorem hexQuad_lt {quad rest : Bytes} {code : Nat} (read : hexQuad quad = some (code, rest)) :
    code < 65536 := by
  obtain ⟨a, b, c, d, rfl, v, w, x, y, first, second, third, fourth, rfl⟩ := hexQuad_spec read
  have lt₁ := hexDigit_lt first
  have lt₂ := hexDigit_lt second
  have lt₃ := hexDigit_lt third
  have lt₄ := hexDigit_lt fourth
  omega

theorem hexQuad_bytes {quad : Bytes} {code : Nat} (read : hexQuad quad = some (code, [])) :
    ∀ byte ∈ quad, (hexDigit byte).isSome = true := by
  obtain ⟨a, b, c, d, rfl, v, w, x, y, first, second, third, fourth, rfl⟩ := hexQuad_spec read
  simp [first, second, third, fourth]

theorem lowSurrogate_iff (input rest : Bytes) (code : Nat) :
    lowSurrogate input = some (code, rest) ↔
      ∃ quad, input = 92 :: 117 :: (quad ++ rest) ∧ hexQuad quad = some (code, []) ∧
        LowSurrogate code := by
  constructor
  · intro read
    unfold lowSurrogate at read
    split at read
    · simp only [bind, Option.bind_eq_some_iff] at read
      obtain ⟨⟨value, tail⟩, found, chosen⟩ := read
      split at chosen
      · rename_i range
        cases chosen
        obtain ⟨quad, rfl, digits⟩ := hexQuad_split found
        exact ⟨quad, rfl, digits, range⟩
      · cases chosen
    · cases read
  · rintro ⟨quad, rfl, digits, range⟩
    have range' : 56320 ≤ code ∧ code < 57344 := range
    simp [lowSurrogate, hexQuad_append digits, range']

/-- What stands behind the closing quotation mark has no part in a surrogate pair. -/
theorem lowSurrogate_local {front rest other : Bytes}
    (alone : lowSurrogate (front ++ quotationMark :: rest) = none) :
    lowSurrogate (front ++ quotationMark :: other) = none := by
  by_contra found
  obtain ⟨⟨code, after⟩, read⟩ := Option.ne_none_iff_exists'.mp found
  obtain ⟨quad, same, digits, range⟩ := (lowSurrogate_iff _ _ _).mp read
  have inside : ∃ more, front = 92 :: 117 :: (quad ++ more) := by
    rw [← List.cons_append, ← List.cons_append] at same
    rcases List.append_eq_append_iff.mp same with ⟨more, whole, behind⟩ | ⟨more, whole, -⟩
    · cases more with
      | nil => exact ⟨[], by rw [List.append_nil] at whole ⊢; exact whole.symm⟩
      | cons byte more =>
          obtain ⟨rfl, -⟩ := List.cons.inj behind
          -- the quotation mark would be one of the six bytes
          have member : quotationMark ∈ 92 :: 117 :: quad := by
            rw [whole]
            simp
          rcases List.mem_cons.mp member with same | member
          · cases same
          · rcases List.mem_cons.mp member with same | member
            · cases same
            · exact absurd (hexQuad_bytes digits _ member) (by decide)
    · exact ⟨more, whole⟩
  obtain ⟨more, rfl⟩ := inside
  have again := (lowSurrogate_iff (92 :: 117 :: (quad ++ more) ++ quotationMark :: rest)
    (more ++ quotationMark :: rest) code).mpr ⟨quad, by simp, digits, range⟩
  rw [alone] at again
  cases again

theorem escaped_iff (input piece rest : Bytes) :
    escaped input = some (piece, rest) ↔
      ∃ front, input = front ++ rest ∧ Escapes front piece rest := by
  constructor
  · intro read
    unfold escaped at read
    split at read
    · cases read
    · rename_i letter tail
      split at read
      · rename_i value known
        cases read
        exact ⟨[letter], rfl, .short letter value rest known⟩
      · split at read
        · rename_i unicode
          subst unicode
          unfold escapedUnicode at read
          simp only [bind, Option.bind_eq_some_iff] at read
          obtain ⟨⟨code, middle⟩, found, chosen⟩ := read
          obtain ⟨quad, rfl, digits⟩ := hexQuad_split found
          split at chosen
          · rename_i first
            split at chosen
            · rename_i low behind second
              obtain ⟨rfl, rfl⟩ := Prod.mk.inj (Option.some.inj chosen)
              obtain ⟨other, rfl, more, range⟩ := (lowSurrogate_iff _ _ _).mp second
              exact ⟨117 :: (quad ++ 92 :: 117 :: other), by simp,
                .pair quad other code low behind digits first more range⟩
            · rename_i alone
              obtain ⟨rfl, rfl⟩ := Prod.mk.inj (Option.some.inj chosen)
              exact ⟨117 :: quad, rfl, .unit quad code middle digits fun _ => alone⟩
          · rename_i other
            obtain ⟨rfl, rfl⟩ := Prod.mk.inj (Option.some.inj chosen)
            exact ⟨117 :: quad, rfl, .unit quad code middle digits fun first => absurd first other⟩
        · cases read
  · rintro ⟨front, rfl, escape⟩
    have unicode : shortEscapes.lookup 117 = none := by decide
    cases escape with
    | short letter value rest known => simp [escaped, known]
    | unit quad code rest digits alone =>
        simp only [List.cons_append, escaped, unicode, if_true, escapedUnicode,
          hexQuad_append digits, bind, Option.bind_some]
        split
        · rename_i first
          rw [alone first]
          rfl
        · rfl
    | pair quad other code low rest digits first more second =>
        have following := (lowSurrogate_iff (92 :: 117 :: (other ++ rest)) rest low).mpr
          ⟨other, rfl, more, second⟩
        have shape : quad ++ 92 :: 117 :: other ++ rest = quad ++ 92 :: 117 :: (other ++ rest) := by
          simp
        simp only [List.cons_append, escaped, unicode, if_true, escapedUnicode, shape,
          hexQuad_append digits, bind, Option.bind_some, following]
        rw [if_pos (show 55296 ≤ code ∧ code < 56320 from first)]
        rfl

/-! Strings: the bytes between the quotation marks and the text they stand for. -/

inductive Spells : Bytes → Bytes → Prop
  | nil : Spells [] []
  | plain (byte : UInt8) (raw text : Bytes) (printable : ¬ byte < 32) (noQuote : byte ≠ quotationMark)
      (noEscape : byte ≠ reverseSolidus) (later : Spells raw text) :
      Spells (byte :: raw) (byte :: text)
  | escape (front piece raw text : Bytes)
      (escapes : ∀ rest, Escapes front piece (raw ++ quotationMark :: rest))
      (later : Spells raw text) : Spells (reverseSolidus :: (front ++ raw)) (piece ++ text)

theorem escapes_local {front piece raw rest : Bytes}
    (escapes : Escapes front piece (raw ++ quotationMark :: rest)) (other : Bytes) :
    Escapes front piece (raw ++ quotationMark :: other) := by
  cases escapes with
  | short letter value _ known => exact .short letter value _ known
  | unit quad code _ digits alone =>
      exact .unit quad code _ digits fun first => lowSurrogate_local (alone first)
  | pair quad more code low _ digits first following second =>
      exact .pair quad more code low _ digits first following second

theorem escapes_filled {front piece rest : Bytes} (escapes : Escapes front piece rest) :
    1 ≤ front.length := by
  cases escapes <;> simp

theorem stringWithin_spells (fuel : Nat) (input text rest : Bytes)
    (read : stringWithin fuel input = some (text, rest)) :
    ∃ raw, input = raw ++ quotationMark :: rest ∧ Spells raw text := by
  induction fuel generalizing input text with
  | zero => cases read
  | succ fuel ih =>
      cases input with
      | nil => cases read
      | cons byte tail =>
          rw [stringWithin] at read
          split at read
          · rename_i closing
            obtain ⟨rfl, rfl⟩ := Prod.mk.inj (Option.some.inj read)
            exact ⟨[], by rw [closing]; rfl, .nil⟩
          · rename_i noQuote
            split at read
            · rename_i solidus
              simp only [bind, Option.bind_eq_some_iff] at read
              obtain ⟨⟨piece, middle⟩, escape, ⟨later, last⟩, more, same⟩ := read
              obtain ⟨rfl, rfl⟩ := Prod.mk.inj (Option.some.inj same)
              obtain ⟨front, rfl, escapes⟩ := (escaped_iff _ _ _).mp escape
              obtain ⟨raw, rfl, spells⟩ := ih _ _ more
              refine ⟨reverseSolidus :: (front ++ raw), by simp [solidus], ?_⟩
              exact .escape front piece raw later (escapes_local escapes) spells
            · rename_i noEscape
              split at read
              · cases read
              · rename_i printable
                simp only [bind, Option.bind_eq_some_iff] at read
                obtain ⟨⟨later, last⟩, more, same⟩ := read
                obtain ⟨rfl, rfl⟩ := Prod.mk.inj (Option.some.inj same)
                obtain ⟨raw, rfl, spells⟩ := ih _ _ more
                exact ⟨byte :: raw, rfl, .plain byte raw later printable noQuote noEscape spells⟩

theorem stringWithin_spelled {raw text : Bytes} (spells : Spells raw text) (rest : Bytes) (fuel : Nat)
    (enough : raw.length < fuel) :
    stringWithin fuel (raw ++ quotationMark :: rest) = some (text, rest) := by
  induction spells generalizing fuel with
  | nil =>
      obtain ⟨fuel, rfl⟩ : ∃ less, fuel = less + 1 := ⟨fuel - 1, by simp at enough; omega⟩
      simp [stringWithin]
  | plain byte raw text printable noQuote noEscape later ih =>
      obtain ⟨fuel, rfl⟩ : ∃ less, fuel = less + 1 := ⟨fuel - 1, by simp at enough; omega⟩
      have read := ih fuel (Nat.lt_of_succ_lt_succ enough)
      simp [stringWithin, printable, noQuote, noEscape, read]
  | escape front piece raw text escapes later ih =>
      obtain ⟨fuel, rfl⟩ : ∃ less, fuel = less + 1 := ⟨fuel - 1, by simp at enough; omega⟩
      have longer := escapes_filled (escapes rest)
      rw [List.length_cons, List.length_append] at enough
      have read := ih fuel (by omega)
      have first : escaped (front ++ (raw ++ quotationMark :: rest)) =
          some (piece, raw ++ quotationMark :: rest) :=
        (escaped_iff _ _ _).mpr ⟨front, rfl, escapes rest⟩
      have distinct : ¬ reverseSolidus = quotationMark := by decide
      rw [List.cons_append, stringWithin, if_neg distinct, if_pos rfl, List.append_assoc, first]
      simp only [bind, Option.bind_some, read]
      rfl

/-- The reader of strings and the grammar. -/
theorem readString_iff (input text rest : Bytes) :
    readString input = some (text, rest) ↔
      ∃ raw, input = raw ++ quotationMark :: rest ∧ Spells raw text := by
  constructor
  · exact stringWithin_spells input.length input text rest
  · rintro ⟨raw, rfl, spells⟩
    apply stringWithin_spelled spells rest
    rw [List.length_append, List.length_cons]
    omega

theorem hexDigit_zero : hexDigit 0 = none := by decide

theorem escapes_noNul {front piece rest : Bytes} (escapes : Escapes front piece rest) :
    0 ∉ front := by
  have quads : ∀ (quad : Bytes) (code : Nat), hexQuad quad = some (code, []) → 0 ∉ quad := by
    intro quad code digits member
    have digit := hexQuad_bytes digits 0 member
    rw [hexDigit_zero] at digit
    cases digit
  cases escapes with
  | short letter value _ known =>
      intro member
      rw [← List.mem_singleton.mp member] at known
      cases known
  | unit quad code _ digits alone =>
      intro member
      rcases List.mem_cons.mp member with zero | inside
      · cases zero
      · exact quads quad code digits inside
  | pair quad other code low _ digits first more second =>
      intro member
      rcases List.mem_cons.mp member with zero | inside
      · cases zero
      · rcases List.mem_append.mp inside with front | inside
        · exact quads quad code digits front
        · rcases List.mem_cons.mp inside with zero | inside
          · cases zero
          · rcases List.mem_cons.mp inside with zero | inside
            · cases zero
            · exact quads other low more inside

theorem spells_noNul {raw text : Bytes} (spells : Spells raw text) : 0 ∉ raw := by
  induction spells with
  | nil => exact List.not_mem_nil
  | plain byte raw text printable noQuote noEscape later ih =>
      intro member
      rcases List.mem_cons.mp member with zero | inside
      · exact printable (zero ▸ by decide)
      · exact ih inside
  | escape front piece raw text escapes later ih =>
      intro member
      rcases List.mem_cons.mp member with zero | inside
      · cases zero
      · rcases List.mem_append.mp inside with front | inside
        · exact escapes_noNul (escapes []) front
        · exact ih inside

/-! Numbers. -/

structure Number where
  spelling : Spelling
  proper : spelling.Proper
  strict : spelling.Strict

/-- What follows a number goes on with none of its bytes. -/
def Stops (rest : Bytes) : Prop := ∀ byte ∈ rest.head?, numeralByte byte = false

theorem stops_digit {rest : Bytes} (stops : Stops rest) :
    ∀ byte ∈ rest.head?, isdigit byte = false := by
  intro byte first
  have other := stops byte first
  simp only [numeralByte, Bool.or_eq_false_iff] at other
  exact other.1.1.1.1.1

theorem someDigits_spec {input digits rest : Bytes} (read : someDigits input = some (digits, rest)) :
    input = digits ++ rest ∧ digits ≠ [] ∧ Digits digits := by
  unfold someDigits at read
  split at read
  · cases read
  · rename_i filled
    cases read
    refine ⟨(List.takeWhile_append_dropWhile).symm, by simpa using filled, ?_⟩
    exact fun byte member => List.mem_takeWhile_imp member

theorem someDigits_append {digits rest : Bytes} (filled : digits ≠ []) (all : Digits digits)
    (stops : ∀ byte ∈ rest.head?, isdigit byte = false) :
    someDigits (digits ++ rest) = some (digits, rest) := by
  simp [someDigits, digits_span all stops, filled]

theorem integerPart_spec {input whole rest : Bytes} (read : integerPart input = some (whole, rest)) :
    input = whole ++ rest ∧ whole ≠ [] ∧ Digits whole ∧
      (whole = [48] ∨ ∀ byte ∈ whole.head?, byte ≠ 48) := by
  unfold integerPart at read
  split at read
  · cases read
    refine ⟨rfl, by simp, ?_, Or.inl rfl⟩
    intro byte member
    rw [List.mem_singleton.mp member]
    decide
  · rename_i other
    obtain ⟨split, filled, all⟩ := someDigits_spec read
    refine ⟨split, filled, all, Or.inr ?_⟩
    obtain ⟨digit, digits, rfl⟩ := List.exists_cons_of_ne_nil filled
    intro byte first zero
    cases first
    exact other (digits ++ rest) (by rw [split, zero]; rfl)

theorem integerPart_append {whole rest : Bytes} (filled : whole ≠ []) (all : Digits whole)
    (leading : whole = [48] ∨ ∀ byte ∈ whole.head?, byte ≠ 48)
    (stops : ∀ byte ∈ rest.head?, isdigit byte = false) :
    integerPart (whole ++ rest) = some (whole, rest) := by
  rcases leading with rfl | leading
  · rfl
  · obtain ⟨digit, digits, rfl⟩ := List.exists_cons_of_ne_nil filled
    have nonzero := leading digit rfl
    rw [List.cons_append, integerPart.eq_2]
    · exact someDigits_append (by simp) all stops
    · intro more same
      exact nonzero (List.cons.inj same).1

theorem fractionPart_spec {input text rest : Bytes}
    (read : JsonText.fractionPart input = some (text, rest)) :
    ∃ fraction, text = fractionText fraction ∧ input = text ++ rest ∧
      ∀ digits ∈ fraction, digits ≠ [] ∧ Digits digits := by
  unfold JsonText.fractionPart at read
  split at read
  · obtain ⟨⟨digits, behind⟩, found, same⟩ := Option.map_eq_some_iff.mp read
    cases same
    obtain ⟨rfl, filled, all⟩ := someDigits_spec found
    refine ⟨some digits, rfl, rfl, ?_⟩
    rintro _ ⟨⟩
    exact ⟨filled, all⟩
  · cases read
    refine ⟨none, rfl, rfl, ?_⟩
    rintro _ ⟨⟩

theorem fractionPart_append {fraction : Option Bytes} {rest : Bytes}
    (proper : ∀ digits ∈ fraction, digits ≠ [] ∧ Digits digits)
    (stops : ∀ byte ∈ rest.head?, isdigit byte = false ∧ byte ≠ 46) :
    JsonText.fractionPart (fractionText fraction ++ rest) = some (fractionText fraction, rest) := by
  cases fraction with
  | none =>
      rw [fractionText, List.nil_append, JsonText.fractionPart.eq_2]
      intro more same
      exact (stops 46 (by rw [same]; rfl)).2 rfl
  | some digits =>
      obtain ⟨filled, all⟩ := proper digits rfl
      have read := someDigits_append filled all fun byte first => (stops byte first).1
      simp [fractionText, JsonText.fractionPart, read]

theorem exponentSign_spec (input : Bytes) :
    ∃ sign : Sign, (exponentSign input).1 = sign.text ∧
      input = (exponentSign input).1 ++ (exponentSign input).2 := by
  unfold exponentSign
  split
  · exact ⟨.plus, rfl, rfl⟩
  · exact ⟨.minus, rfl, rfl⟩
  · exact ⟨.none, rfl, rfl⟩

theorem exponentSign_append (sign : Sign) {text : Bytes}
    (unsigned : ∀ byte ∈ text.head?, byte ≠ 43 ∧ byte ≠ 45) :
    exponentSign (sign.text ++ text) = (sign.text, text) := by
  cases sign with
  | plus => rfl
  | minus => rfl
  | none =>
      rw [Sign.text, List.nil_append, exponentSign.eq_3]
      · intro more same
        exact (unsigned 43 (by rw [same]; rfl)).1 rfl
      · intro more same
        exact (unsigned 45 (by rw [same]; rfl)).2 rfl

theorem exponentPart_spec {input text rest : Bytes}
    (read : JsonText.exponentPart input = some (text, rest)) :
    ∃ exponent, text = exponentText exponent ∧ input = text ++ rest ∧
      ∀ part ∈ exponent, (part.1 = 101 ∨ part.1 = 69) ∧ part.2.2 ≠ [] ∧ Digits part.2.2 := by
  cases input with
  | nil =>
      cases read
      refine ⟨none, rfl, rfl, ?_⟩
      rintro _ ⟨⟩
  | cons mark tail =>
      rw [JsonText.exponentPart] at read
      split at read
      · rename_i marked
        obtain ⟨sign, signText, split⟩ := exponentSign_spec tail
        generalize exponentSign tail = signed at read signText split
        obtain ⟨⟨digits, behind⟩, found, same⟩ := Option.map_eq_some_iff.mp read
        cases same
        obtain ⟨whole, filled, all⟩ := someDigits_spec found
        refine ⟨some (mark, sign, digits), by rw [signText]; rfl, ?_, ?_⟩
        · rw [split, whole]
          simp
        · rintro _ ⟨⟩
          exact ⟨marked, filled, all⟩
      · cases read
        refine ⟨none, rfl, rfl, ?_⟩
        rintro _ ⟨⟩

theorem exponentPart_append {exponent : Option (UInt8 × Sign × Bytes)} {rest : Bytes}
    (proper : ∀ part ∈ exponent, (part.1 = 101 ∨ part.1 = 69) ∧ part.2.2 ≠ [] ∧ Digits part.2.2)
    (stops : Stops rest) :
    JsonText.exponentPart (exponentText exponent ++ rest) = some (exponentText exponent, rest) := by
  cases exponent with
  | none =>
      cases rest with
      | nil => rfl
      | cons byte rest =>
          have other := stops byte rfl
          simp only [numeralByte, Bool.or_eq_false_iff, decide_eq_false_iff_not] at other
          simp [exponentText, JsonText.exponentPart, other.1.2, other.2]
  | some part =>
      obtain ⟨mark, sign, digits⟩ := part
      obtain ⟨marked, filled, all⟩ := proper _ rfl
      have signed : exponentSign (sign.text ++ digits ++ rest) = (sign.text, digits ++ rest) := by
        rw [List.append_assoc]
        exact exponentSign_append sign (digits_unsigned filled all _)
      have read := someDigits_append filled all (stops_digit stops)
      simp only [exponentText, List.cons_append, JsonText.exponentPart, if_pos marked, signed, read]
      rfl

/-- What the reader takes as a number is a properly spelled one. -/
theorem readNumber_spec {input text rest : Bytes} (read : readNumber input = some (text, rest)) :
    ∃ number : Number, text = number.spelling.text ∧ input = text ++ rest := by
  have parts : ∃ sign : Sign, sign ≠ .plus ∧ ∃ behind, input = sign.text ++ behind ∧
      ∃ whole first, integerPart behind = some (whole, first) ∧
      ∃ point second, JsonText.fractionPart first = some (point, second) ∧
      ∃ power third, JsonText.exponentPart second = some (power, third) ∧
        (sign.text ++ whole ++ point ++ power, third) = (text, rest) := by
    unfold readNumber at read
    split at read
    rename_i minus behind shape
    simp only [bind, Option.bind_eq_some_iff] at read
    obtain ⟨whole, integer, point, fraction, power, exponent, same⟩ := read
    split at shape
    · cases shape
      exact ⟨.minus, by decide, _, rfl, _, _, integer, _, _, fraction, _, _, exponent,
        Option.some.inj same⟩
    · cases shape
      exact ⟨.none, by decide, _, rfl, _, _, integer, _, _, fraction, _, _, exponent,
        Option.some.inj same⟩
  obtain ⟨sign, unsigned, behind, rfl, whole, first, integer, point, second, fraction, power, third,
    exponent, same⟩ := parts
  cases same
  obtain ⟨rfl, filled, all, leading⟩ := integerPart_spec integer
  obtain ⟨digits, rfl, rfl, behindPoint⟩ := fractionPart_spec fraction
  obtain ⟨part, rfl, rfl, marked⟩ := exponentPart_spec exponent
  refine ⟨⟨⟨sign, whole, digits, part⟩, ⟨filled, all, fun some chosen =>
    (behindPoint some chosen).2, marked⟩, ⟨unsigned, leading, fun some chosen =>
    (behindPoint some chosen).1⟩⟩, ?_, ?_⟩
  · simp [Spelling.text]
  · simp

theorem readNumber_text (number : Number) {rest : Bytes} (stops : Stops rest) :
    readNumber (number.spelling.text ++ rest) = some (number.spelling.text, rest) := by
  obtain ⟨⟨sign, whole, fraction, exponent⟩, proper, strict⟩ := number
  have behind : ∀ byte ∈ (exponentText exponent ++ rest).head?, isdigit byte = false ∧ byte ≠ 46 := by
    intro byte first
    cases exponent with
    | none =>
        have other := stops byte first
        simp only [numeralByte, Bool.or_eq_false_iff, decide_eq_false_iff_not] at other
        exact ⟨other.1.1.1.1.1, other.1.1.2⟩
    | some part => exact exponentText_head proper.exponent byte first
  have afterWhole : ∀ byte ∈ (fractionText fraction ++ (exponentText exponent ++ rest)).head?,
      isdigit byte = false := by
    intro byte first
    cases fraction with
    | none => exact (behind byte first).1
    | some digits =>
        cases first
        decide
  have integer := integerPart_append proper.filled proper.whole strict.leading afterWhole
  have point := fractionPart_append
    (fun digits chosen => ⟨strict.behind digits chosen, proper.fraction digits chosen⟩) behind
  have power := exponentPart_append proper.exponent stops
  have unsigned := digits_unsigned proper.filled proper.whole
    (fractionText fraction ++ (exponentText exponent ++ rest))
  cases sign with
  | plus => exact absurd rfl strict.unsigned
  | minus => simp [readNumber, Spelling.text, Sign.text, integer, point, power]
  | none =>
      have text : Spelling.text ⟨.none, whole, fraction, exponent⟩ ++ rest =
          whole ++ (fractionText fraction ++ (exponentText exponent ++ rest)) := by
        simp [Spelling.text, Sign.text]
      rw [text]
      unfold readNumber
      split
      rename_i minus behind same
      split at same
      · rename_i marked
        exact absurd rfl (unsigned 45 (by rw [marked]; rfl)).2
      · cases same
        simp [Spelling.text, Sign.text, integer, point, power]

/-! The bytes of a code are UTF-8, unless it is a surrogate. -/

theorem byte_toNat {n : Nat} (small : n < 256) : (UInt8.ofNat n).toNat = n := by
  rw [UInt8.toNat_ofNat']
  exact Nat.mod_eq_of_lt small

theorem lead_ofNat {n : Nat} (small : n < 256) :
    lead (UInt8.ofNat n) =
      if n < 128 then some {}
      else if n < 194 then none
      else if n < 224 then some { count := 1 }
      else if n = 224 then some { count := 2, low := 160 }
      else if n = 237 then some { count := 2, high := 159 }
      else if n < 240 then some { count := 2 }
      else if n = 240 then some { count := 3, low := 144 }
      else if n < 244 then some { count := 3 }
      else if n = 244 then some { count := 3, high := 143 }
      else none := by
  simp only [lead, UInt8.lt_iff_toNat_lt, ← UInt8.toNat_inj, byte_toNat small]
  rfl

theorem continue_ofNat {owed : Owed} {n : Nat} (small : n < 256) (some : owed.count ≠ 0) :
    continueWith owed (UInt8.ofNat n) =
      if owed.low.toNat ≤ n ∧ n ≤ owed.high.toNat then .some { count := owed.count - 1 } else none := by
  simp only [continueWith, if_neg some, UInt8.le_iff_toNat_le, byte_toNat small]

theorem scan_tail (count : Nat) {n : Nat} (low : 128 ≤ n) (high : n ≤ 191) (rest : Bytes) :
    scan { count := count + 1 } (UInt8.ofNat n :: rest) = scan { count := count } rest := by
  have more : ({ count := count + 1 } : Owed).count ≠ 0 := Nat.succ_ne_zero count
  rw [scan_cons, continue_ofNat (by omega) more, if_pos ⟨low, high⟩]
  rfl

theorem scan_lead {n : Nat} (rest : Bytes) {owed : Owed}
    (first : lead (UInt8.ofNat n) = some owed) :
    scan {} (UInt8.ofNat n :: rest) = scan owed rest := by
  rw [scan_cons, continueWith, if_pos rfl, first, Option.bind_some]

theorem scan_second {owed : Owed} {n : Nat} (small : n < 256) (some : owed.count ≠ 0)
    (low : owed.low.toNat ≤ n) (high : n ≤ owed.high.toNat) (rest : Bytes) :
    scan owed (UInt8.ofNat n :: rest) = scan { count := owed.count - 1 } rest := by
  rw [scan_cons, continue_ofNat small some, if_pos ⟨low, high⟩, Option.bind_some]

theorem scan_encode (code : Nat) (valid : code < 1114112)
    (single : ¬ (55296 ≤ code ∧ code < 57344)) : scan {} (encode code) = some {} := by
  unfold encode
  split
  · rename_i small
    have first : lead (UInt8.ofNat code) = some {} := by rw [lead_ofNat (by omega), if_pos small]
    rw [scan_lead [] first]
    rfl
  · split
    · have first : lead (UInt8.ofNat (192 + code / 64)) = some { count := 1 } := by
        rw [lead_ofNat (by omega), if_neg (by omega), if_neg (by omega), if_pos (by omega)]
      rw [scan_lead _ first, scan_tail 0 (by omega) (by omega)]
      rfl
    · split
      · obtain ⟨owed, first, two, low, high⟩ : ∃ owed,
            lead (UInt8.ofNat (224 + code / 4096)) = some owed ∧ owed.count = 2 ∧
              owed.low.toNat ≤ 128 + code / 64 % 64 ∧ 128 + code / 64 % 64 ≤ owed.high.toNat := by
          rw [lead_ofNat (by omega)]
          split_ifs
          any_goals omega
          all_goals
            refine ⟨_, rfl, rfl, ?_, ?_⟩ <;> simp only [UInt8.reduceToNat] <;> omega
        rw [scan_lead _ first, scan_second (by omega) (by omega) low high, two,
          scan_tail 0 (by omega) (by omega)]
        rfl
      · obtain ⟨owed, first, three, low, high⟩ : ∃ owed,
            lead (UInt8.ofNat (240 + code / 262144)) = some owed ∧ owed.count = 3 ∧
              owed.low.toNat ≤ 128 + code / 4096 % 64 ∧
                128 + code / 4096 % 64 ≤ owed.high.toNat := by
          rcases Nat.eq_zero_or_pos (code / 262144) with least | more
          · refine ⟨{ count := 3, low := 144 }, by rw [least]; rfl, rfl, ?_, ?_⟩ <;>
              simp only [UInt8.reduceToNat] <;> omega
          · rcases Nat.lt_or_ge (code / 262144) 4 with less | most
            · refine ⟨{ count := 3 }, ?_, rfl, ?_, ?_⟩
              · rw [lead_ofNat (by omega), if_neg (by omega), if_neg (by omega), if_neg (by omega),
                  if_neg (by omega), if_neg (by omega), if_neg (by omega), if_neg (by omega),
                  if_pos (by omega)]
              all_goals
                simp only [UInt8.reduceToNat]
                omega
            · have largest : code / 262144 = 4 := by omega
              refine ⟨{ count := 3, high := 143 }, by rw [largest]; rfl, rfl, ?_, ?_⟩ <;>
                simp only [UInt8.reduceToNat] <;> omega
        rw [scan_lead _ first, scan_second (by omega) (by omega) low high, three,
          scan_tail 1 (by omega) (by omega), scan_tail 0 (by omega) (by omega)]
        rfl

theorem scan_surrogate {code : Nat} (low : 55296 ≤ code) (high : code < 57344) (rest : Bytes) :
    scan {} (encode code ++ rest) = none := by
  have shape : encode code = [UInt8.ofNat 237, UInt8.ofNat (128 + code / 64 % 64),
      UInt8.ofNat (128 + code % 64)] := by
    rw [encode, if_neg (by omega), if_neg (by omega), if_pos (by omega),
      show 224 + code / 4096 = 237 by omega]
  have first : lead (UInt8.ofNat 237) = some { count := 2, high := 159 } := by rfl
  rw [shape, List.cons_append, scan_lead _ first, List.cons_append, scan_cons,
    continue_ofNat (by omega) (by decide), if_neg]
  · rfl
  · simp only [UInt8.reduceToNat]
    omega

end JsonSpellings

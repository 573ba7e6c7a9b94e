import LnpResolver.CJsonConformance

/-!
What the drivers see of a stored document. parse_number sets both members of a
number, and an integer literal determines `valueint` without rounding: it is the
literal, or the bound of an int that the literal passes.
-/

namespace LnpResolver.CJsonValues

open PackedBytes CStrings DecimalNumerals Doubles JsonText JsonSpellings JsonDocuments JsonItems
open CJsonParser CJsonConformance

mutual

def json : Item → Json
  | .null => .null
  | .bool value => .bool value
  | .number valuedouble => .number (numberValueint valuedouble) valuedouble
  | .string valuestring => .string valuestring
  | .array items => .array (jsonItems items)
  | .object members => .object (jsonMembers members)

def jsonItems : List Item → List Json
  | [] => []
  | item :: items => json item :: jsonItems items

def jsonMembers : List (Bytes × Item) → List (Bytes × Json)
  | [] => []
  | (name, item) :: members => (name, json item) :: jsonMembers members

end

/-! The printer reads `valuedouble` only. -/

mutual

def item : Json → Item
  | .null => .null
  | .bool value => .bool value
  | .number _ valuedouble => .number valuedouble
  | .string valuestring => .string valuestring
  | .array values => .array (items values)
  | .object values => .object (members values)

def items : List Json → List Item
  | [] => []
  | value :: values => item value :: items values

def members : List (Bytes × Json) → List (Bytes × Item)
  | [] => []
  | (name, value) :: values => (name, item value) :: members values

end

mutual

theorem item_json : ∀ value : Item, item (json value) = value
  | .null | .bool _ | .number _ | .string _ => rfl
  | .array values => by rw [json, item, items_jsonItems values]
  | .object values => by rw [json, item, members_jsonMembers values]

theorem items_jsonItems : ∀ values : List Item, items (jsonItems values) = values
  | [] => rfl
  | value :: values => by rw [jsonItems, items, item_json value, items_jsonItems values]

theorem members_jsonMembers :
    ∀ values : List (Bytes × Item), members (jsonMembers values) = values
  | [] => rfl
  | (name, value) :: values => by
      rw [jsonMembers, members, item_json value, members_jsonMembers values]

end

/-- A number without a fraction and an exponent. Minus zero is no integer. -/
def isInteger (spelling : Bytes) : Bool :=
  (signOf spelling).2.all isdigit && (!isNegative (signOf spelling).1 || leadingValue spelling ≠ 0)

def numeralOf (spelling : Bytes) : Numeral :=
  ((readNumeral spelling).map Prod.fst).getD ⟨.none, [], 0⟩

mutual

/-- A JSON value as it is written for cJSON. -/
def written : Value → Written
  | .null => .null
  | .bool value => .bool value
  | .number spelling =>
      if isInteger spelling then .integer (leadingValue spelling) else .fraction (numeralOf spelling)
  | .string text => .string text
  | .array items => .array (writtenItems items)
  | .object members => .object (writtenMembers members)

def writtenItems : List Value → List Written
  | [] => []
  | value :: values => written value :: writtenItems values

def writtenMembers : List (Bytes × Value) → List (Bytes × Written)
  | [] => []
  | (name, value) :: values => (name, written value) :: writtenMembers values

end

theorem integer_spelling (number : Number) (integer : isInteger number.spelling.text = true) :
    number.spelling.numeral = ⟨number.spelling.sign, number.spelling.whole, 0⟩ ∧
      leadingValue number.spelling.text =
        number.spelling.sign.apply (digitsValue number.spelling.whole) := by
  obtain ⟨⟨sign, whole, fraction, exponent⟩, proper, strict⟩ := number
  have unsigned := digits_unsigned proper.filled proper.whole
    (fractionText fraction ++ exponentText exponent)
  have signed : signOf (Spelling.text ⟨sign, whole, fraction, exponent⟩) =
      (sign, whole ++ (fractionText fraction ++ exponentText exponent)) := signOf_text sign unsigned
  have all : ∀ byte ∈ whole ++ (fractionText fraction ++ exponentText exponent),
      isdigit byte = true := by
    rw [isInteger, signed, Bool.and_eq_true] at integer
    exact List.all_eq_true.mp integer.1
  have noFraction : fraction = none := by
    cases fraction with
    | none => rfl
    | some digits => exact absurd (all 46 (by simp [fractionText])) (by decide)
  have noExponent : exponent = none := by
    cases exponent with
    | none => rfl
    | some part =>
        obtain ⟨mark, sign, digits⟩ := part
        have marked : mark = 101 ∨ mark = 69 := (proper.exponent _ rfl).1
        have digit := all mark (by simp [exponentText])
        rcases marked with rfl | rfl <;> cases digit
  subst noFraction noExponent
  have blanks : (Spelling.text ⟨sign, whole, none, none⟩).dropWhile isspace =
      Spelling.text ⟨sign, whole, none, none⟩ := by
    cases first : (Spelling.text ⟨sign, whole, none, none⟩) with
    | nil => rfl
    | cons byte rest =>
        have solid : isspace byte = false := by
          have head : byte ∈ (Spelling.text ⟨sign, whole, none, none⟩).head? := by rw [first]; rfl
          cases sign with
          | plus => exact isspace_sign .plus head
          | minus => exact isspace_sign .minus head
          | none =>
              have digit : byte ∈ whole := by
                rw [show Spelling.text ⟨.none, whole, none, none⟩ = whole by
                  simp [Spelling.text, Sign.text, fractionText, exponentText]] at first
                rw [first]
                exact List.mem_cons_self
              exact (isspace_of_isdigit (proper.whole byte digit)).1
        simp [solid]
  constructor
  · simp [Spelling.numeral, exponentValue]
  · have digits : (whole ++ (fractionText none ++ exponentText none)).takeWhile isdigit = whole := by
      simpa [fractionText, exponentText] using (digits_alone proper.whole).1
    rw [leadingValue, blanks, signed, digits]

/-- The double of an integer literal. -/
theorem integer_double (number : Number) (integer : isInteger number.spelling.text = true) :
    ofNumeral number.spelling.numeral = ofInteger (leadingValue number.spelling.text) := by
  obtain ⟨numeral, leading⟩ := integer_spelling number integer
  have unsigned := digits_unsigned number.proper.filled number.proper.whole
    (fractionText number.spelling.fraction ++ exponentText number.spelling.exponent)
  have sign : (signOf number.spelling.text).1 = number.spelling.sign := by
    rw [Spelling.text, signOf_text _ unsigned]
  have some : isNegative number.spelling.sign = true → leadingValue number.spelling.text ≠ 0 := by
    intro negative
    rw [isInteger, sign, negative, Bool.and_eq_true] at integer
    simpa using integer.2
  rw [leading] at some ⊢
  rw [ofNumeral, ofInteger, numeral, Numeral.magnitude, zpow_zero, mul_one]
  cases shape : number.spelling.sign with
  | minus =>
      rw [shape] at some
      have filled := some rfl
      rw [Sign.apply] at filled ⊢
      have below : -(digitsValue number.spelling.whole : ℤ) < 0 := by omega
      rw [isNegative, decide_eq_true below, Int.natAbs_neg, Int.natAbs_natCast]
  | none | plus =>
      have above : ¬ (digitsValue number.spelling.whole : ℤ) < 0 := by omega
      rw [Sign.apply, decide_eq_false above, Int.natAbs_natCast] <;> simp [isNegative]

/-- The `valueint` of an integer literal. -/
theorem integer_valueint (literal : ℤ) : numberValueint (ofInteger literal) = valueint literal :=
  saturated_integer intMin intMax literal (by decide) (by decide) (by decide) (by decide)

mutual

theorem stored_json (doc : Document) (levels : Nat) (item : Item)
    (found : stored levels doc.value = some item) : json item = (written doc.value).stored := by
  match doc with
  | .null | .bool true | .bool false =>
      cases found
      rfl
  | .number number =>
      rw [Document.value, stored] at found
      split at found
      · rw [strtod_text number.proper] at found
        cases found
        rw [json, Document.value, written]
        by_cases integer : isInteger number.spelling.text = true
        · rw [if_pos integer, integer_double number integer, integer_valueint]
          rfl
        · rw [if_neg integer, numeralOf, readNumeral_text number.proper]
          rfl
      · cases found
  | .string quoted =>
      rw [Document.value, stored] at found
      split at found
      · cases found
        rfl
      · cases found
  | .array space items =>
      match levels with
      | 0 => cases found
      | less + 1 =>
          rw [Document.value, stored] at found
          obtain ⟨values, inner, same⟩ := Option.map_eq_some_iff.mp found
          subst same
          rw [json, stored_jsonItems items less values inner]
          rfl
  | .object space members =>
      match levels with
      | 0 => cases found
      | less + 1 =>
          rw [Document.value, stored] at found
          obtain ⟨values, inner, same⟩ := Option.map_eq_some_iff.mp found
          subst same
          rw [json, stored_jsonMembers members less values inner]
          rfl

theorem stored_jsonItems (items : List (Blank × Document × Blank)) (levels : Nat) (values : List Item)
    (found : CJsonConformance.storedItems levels (itemsValue items) = some values) :
    jsonItems values = JsonItems.storedItems (writtenItems (itemsValue items)) := by
  match items with
  | [] =>
      cases found
      rfl
  | (before, item, after) :: more =>
      rw [itemsValue, CJsonConformance.storedItems] at found
      obtain ⟨first, value, others⟩ := Option.bind_eq_some_iff.mp found
      obtain ⟨rest, values, same⟩ := Option.map_eq_some_iff.mp others
      subst same
      rw [jsonItems, stored_json item levels first value, stored_jsonItems more levels rest values]
      rfl

theorem stored_jsonMembers (members : List (Name × Document × Blank)) (levels : Nat)
    (values : List (Bytes × Item))
    (found : CJsonConformance.storedMembers levels (membersValue members) = some values) :
    jsonMembers values = JsonItems.storedMembers (writtenMembers (membersValue members)) := by
  match members with
  | [] =>
      cases found
      rfl
  | (name, item, after) :: more =>
      rw [membersValue, CJsonConformance.storedMembers] at found
      obtain ⟨first, member, others⟩ := Option.bind_eq_some_iff.mp found
      obtain ⟨rest, values, same⟩ := Option.map_eq_some_iff.mp others
      subst same
      split at member
      · obtain ⟨value, inner, named⟩ := Option.map_eq_some_iff.mp member
        subst named
        rw [jsonMembers, stored_json item levels value inner,
          stored_jsonMembers more levels rest values]
        rfl
      · cases member

end

/-- The drivers see the document that was written, if it is no lone number of more than
63 bytes. -/
theorem cJsonParse_written (text : Bytes) (value : Value) (item : Item)
    (decoded : decode text = some value)
    (short : ∀ spelling, value = .number spelling → spelling.length ≤ 63)
    (parsed : cJsonParse (cString text) = some item) : json item = (written value).stored := by
  obtain ⟨utf8, before, doc, after, rfl, rfl⟩ := (decode_iff text value).mp decoded
  have encoded := (isUtf8_document before doc after).mp utf8
  rw [document_cString, cJsonParse_document before doc after encoded short] at parsed
  exact stored_json doc cjsonNestingLimit item parsed

section Integer

open RequestWire

def integerText : Bytes := bytesOf "\x7b\"n\":[-7,4e9]\x7d"

def integerValue : Value :=
  .object [(bytesOf "n", .array [.number (bytesOf "-7"), .number (bytesOf "4e9")])]

theorem cJsonParse_written_integer : ∃ item, cJsonParse (cString integerText) = some item ∧
    json item = (written integerValue).stored := by
  have known : (cJsonParse (cString integerText)).isSome = true := rfl
  obtain ⟨item, parsed⟩ := Option.isSome_iff_exists.mp known
  have short : ∀ spelling, integerValue = .number spelling → spelling.length ≤ 63 := fun _ number => by
    cases number
  exact ⟨item, parsed, cJsonParse_written integerText integerValue item rfl short parsed⟩

end Integer

end LnpResolver.CJsonValues

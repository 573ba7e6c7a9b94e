import LnpResolver.CJsonConformance

/-!
The texts that libs/cJSON.c prints without formatting. What is printed is JSON, and
it is read back as the document that was printed: a finite number is spelled with
as many digits as it needs, an infinite one is printed as null.
-/

namespace LnpResolver.CJsonPrinter

open PackedBytes CStrings BinaryFloats DecimalNumerals Doubles JsonText JsonSpellings JsonDocuments
open JsonItems CJsonParser CJsonStrings CJsonConformance

/-! Numbers. -/

def signedValue (negative : Bool) (magnitude : Magnitude binary64) : ℚ :=
  if negative then -magnitude.value else magnitude.value

/-- Doubles that are equal in C: a zero has two signs. -/
def sameNumber : Double → Double → Bool
  | .finite negative magnitude, .finite negative' magnitude' =>
      signedValue negative magnitude = signedValue negative' magnitude'
  | .infinite negative, .infinite negative' => negative = negative'
  | _, _ => false

/-- Fifteen digits if they are read back as the number, and seventeen otherwise. -/
def printNumber : Double → Bytes
  | .infinite _ => nullText
  | .finite negative magnitude =>
      let numberBuffer := (spelled 15 negative magnitude).text
      match strtod numberBuffer with
      | none => (spelled 17 negative magnitude).text
      | some (test, _) =>
          if sameNumber test (.finite negative magnitude) then numberBuffer
          else (spelled 17 negative magnitude).text

/-! Strings. -/

def lowerHex (digit : Nat) : UInt8 := if digit < 10 then UInt8.ofNat (48 + digit) else UInt8.ofNat (87 + digit)

/-- The letter of an escape of two bytes. -/
def escapeLetter (byte : UInt8) : Option UInt8 :=
  if byte = 92 then some 92
  else if byte = 34 then some 34
  else if byte = 8 then some 98
  else if byte = 12 then some 102
  else if byte = 10 then some 110
  else if byte = 13 then some 114
  else if byte = 9 then some 116
  else none

def isNormal (byte : UInt8) : Bool := 31 < byte ∧ byte ≠ 34 ∧ byte ≠ 92

/-- The digits of u%04x. -/
def codeDigits (byte : UInt8) : Bytes :=
  [48, 48, lowerHex (byte.toNat / 16), lowerHex (byte.toNat % 16)]

def escapedByte (byte : UInt8) : Bytes :=
  if isNormal byte then [byte]
  else
    match escapeLetter byte with
    | some letter => [92, letter]
    | none => 92 :: 117 :: codeDigits byte

def escapedText (input : Bytes) : Bytes := input.flatMap escapedByte

def printStringPtr (input : Bytes) : Bytes := 34 :: (escapedText (cString input) ++ [34])

/-! Values. -/

mutual

def printValue : Item → Bytes
  | .null => nullText
  | .bool value => if value then trueText else falseText
  | .number valuedouble => printNumber valuedouble
  | .string valuestring => printStringPtr valuestring
  | .array items => 91 :: (printElements items ++ [93])
  | .object members => 123 :: (printMembers members ++ [125])

def printElements : List Item → Bytes
  | [] => []
  | item :: items => printValue item ++ separated items (printElements items)

def printMembers : List (Bytes × Item) → Bytes
  | [] => []
  | (name, item) :: members =>
      printStringPtr name ++ (58 :: (printValue item ++ separated members (printMembers members)))

end

/-! What is printed of a string spells the string. -/

theorem hexDigit_lowerHex (digit : Fin 16) : hexDigit (lowerHex digit.val) = some digit.val := by
  revert digit
  decide

theorem hexQuad_code (byte : UInt8) : hexQuad (codeDigits byte) = some (byte.toNat, []) := by
  have high := hexDigit_lowerHex ⟨byte.toNat / 16, by have := byte.toNat_lt; omega⟩
  have low := hexDigit_lowerHex ⟨byte.toNat % 16, Nat.mod_lt _ (by decide)⟩
  have zero : hexDigit 48 = some 0 := by decide
  simp only [codeDigits, hexQuad, zero, high, low, bind, Option.bind_some]
  simp only [pure, Option.some.injEq, Prod.mk.injEq, and_true]
  omega

theorem escapes_letter {byte letter : UInt8} (known : escapeLetter byte = some letter) (rest : Bytes) :
    Escapes [letter] [byte] rest := by
  apply Escapes.short
  unfold escapeLetter at known
  repeat' split at known
  all_goals cases known
  all_goals subst_vars
  all_goals decide

theorem escapes_code {byte : UInt8} (small : byte < 128) (rest : Bytes) :
    Escapes (117 :: codeDigits byte) [byte] rest := by
  have less : byte.toNat < 128 := UInt8.lt_iff_toNat_lt.mp small
  have single : encode byte.toNat = [byte] := by
    rw [encode, if_pos less, UInt8.ofNat_toNat]
  have alone : ¬ HighSurrogate byte.toNat := fun high => by
    have far := high.1
    omega
  have unit := Escapes.unit (codeDigits byte) byte.toNat rest (hexQuad_code byte)
    fun high => absurd high alone
  rwa [single] at unit

/-- What is escaped is ASCII. -/
theorem special_ascii {byte : UInt8} (special : ¬ isNormal byte = true) : byte < 128 := by
  simp only [isNormal, decide_eq_true_eq, not_and_or, not_not, UInt8.lt_iff_toNat_lt] at special
  rw [UInt8.lt_iff_toNat_lt]
  rcases special with small | rfl | rfl
  · simp only [UInt8.reduceToNat] at small ⊢
    omega
  · decide
  · decide

theorem spells_escaped (text : Bytes) : Spells (escapedText text) text := by
  induction text with
  | nil => exact Spells.nil
  | cons byte rest ih =>
      rw [escapedText, List.flatMap_cons, escapedByte]
      by_cases normal : isNormal byte = true
      · rw [if_pos normal]
        simp only [isNormal, decide_eq_true_eq] at normal
        have printable : ¬ byte < 32 := by
          have large := UInt8.lt_iff_toNat_lt.mp normal.1
          rw [UInt8.lt_iff_toNat_lt]
          simp only [UInt8.reduceToNat] at large ⊢
          omega
        exact Spells.plain byte _ _ printable normal.2.1 normal.2.2 ih
      · rw [if_neg normal]
        cases known : escapeLetter byte with
        | some letter =>
            exact Spells.escape [letter] [byte] _ _ (fun rest => escapes_letter known _) ih
        | none =>
            exact Spells.escape (117 :: codeDigits byte) [byte] _ _
              (fun rest => escapes_code (special_ascii normal) _) ih

theorem scan_special {owed : Owed} (proper : owed.Proper) {byte : UInt8} (ascii : byte < 128) {text : Bytes}
    (filled : text ≠ []) (all : Ascii text) (rest : Bytes) :
    scan owed (text ++ rest) = scan owed (byte :: rest) := by
  obtain ⟨first, more, rfl⟩ := List.exists_cons_of_ne_nil filled
  by_cases settled : owed = {}
  · subst settled
    have single : scan {} (byte :: rest) = scan {} rest :=
      scan_mark ascii rest
    rw [single, scan_front all]
  · have stuck : ∀ other : UInt8, other < 128 → continueWith owed other = none := by
      intro other small
      cases read : continueWith owed other with
      | none => rfl
      | some after => exact absurd (continue_ascii owed after other small proper read) settled
    rw [List.cons_append, scan_cons, scan_cons, stuck _ ascii, stuck _ (all first List.mem_cons_self)]
    rfl

theorem lowerHex_ascii (digit : Fin 16) : lowerHex digit.val < 128 := by
  revert digit
  decide

theorem escapedByte_ascii {byte : UInt8} (special : ¬ isNormal byte = true) :
    escapedByte byte ≠ [] ∧ Ascii (escapedByte byte) := by
  rw [escapedByte, if_neg special]
  have solidus : (92 : UInt8) < 128 := by decide
  cases known : escapeLetter byte with
  | some letter =>
      refine ⟨List.cons_ne_nil _ _, ?_⟩
      have small : letter < 128 := by
        unfold escapeLetter at known
        repeat' split at known
        all_goals cases known
        all_goals decide
      simp [Ascii, small, solidus]
  | none =>
      refine ⟨List.cons_ne_nil _ _, ?_⟩
      have high := lowerHex_ascii ⟨byte.toNat / 16, by have := byte.toNat_lt; omega⟩
      have low := lowerHex_ascii ⟨byte.toNat % 16, Nat.mod_lt _ (by decide)⟩
      have letter : (117 : UInt8) < 128 := by decide
      have zero : (48 : UInt8) < 128 := by decide
      simp only at high low
      simp [Ascii, codeDigits, high, low, solidus, letter, zero]

/-- Escaping keeps a text in its encoding. -/
theorem scan_escaped (text : Bytes) (owed : Owed) (proper : owed.Proper) :
    scan owed (escapedText text) = scan owed text := by
  induction text generalizing owed with
  | nil => rfl
  | cons byte rest ih =>
      have later : scan owed (byte :: escapedText rest) = scan owed (byte :: rest) := by
        rw [scan_cons, scan_cons]
        cases read : continueWith owed byte with
        | none => rfl
        | some after => exact ih after (continue_proper owed after byte read)
      rw [← later, escapedText, List.flatMap_cons]
      by_cases normal : isNormal byte = true
      · rw [escapedByte, if_pos normal]
        rfl
      · obtain ⟨filled, all⟩ := escapedByte_ascii normal
        exact scan_special proper (special_ascii normal) filled all _

theorem isUtf8_escaped (text : Bytes) : IsUtf8 (escapedText text) ↔ IsUtf8 text := by
  rw [IsUtf8, IsUtf8, scan_escaped text {} ⟨by decide, fun _ => rfl⟩]

/-! What is printed of a number spells the number. -/

theorem sameNumber_read {precision : ℕ} (negative : Bool) (magnitude : Magnitude binary64)
    (same : sameNumber (ofNumeral (spelled precision negative magnitude).numeral)
      (.finite negative magnitude) = true) :
    ofNumeral (spelled precision negative magnitude).numeral = .finite negative magnitude := by
  have sign : isNegative (spelled precision negative magnitude).numeral.sign = negative := by
    have kept : (spelled precision negative magnitude).numeral.sign = signOfDouble negative :=
      printG_sign _ _
    rw [kept, isNegative_sign]
  unfold ofNumeral rounded at same ⊢
  rw [sign] at same ⊢
  cases read : nearest binary64 (spelled precision negative magnitude).numeral.magnitude with
  | none =>
      rw [read] at same
      cases same
  | some found =>
      rw [read] at same
      have equal : found.value = magnitude.value := by
        have values := of_decide_eq_true same
        cases negative with
        | true => exact neg_injective values
        | false => exact values
      rw [value_injective found equal]

def printedNumber (negative : Bool) (magnitude : Magnitude binary64) : Number :=
  if sameNumber (ofNumeral (spelled 15 negative magnitude).numeral) (.finite negative magnitude) then
    ⟨spelled 15 negative magnitude, spelled_proper (by decide) _ _, spelled_strict (by decide) _ _⟩
  else
    ⟨spelled 17 negative magnitude, spelled_proper (by decide) _ _, spelled_strict (by decide) _ _⟩

section Numbers

variable (negative : Bool) (magnitude : Magnitude binary64)

theorem printNumber_text :
    printNumber (.finite negative magnitude) = (printedNumber negative magnitude).spelling.text := by
  have read := strtod_text (spelled_proper (by decide : 0 < 15) negative magnitude)
  simp only [printNumber, read, printedNumber]
  split <;> rfl

/-- A finite number is read back. -/
theorem printedNumber_read :
    ofNumeral (printedNumber negative magnitude).spelling.numeral = .finite negative magnitude := by
  unfold printedNumber
  split
  · rename_i same
    exact sameNumber_read negative magnitude same
  · exact spelled_read negative magnitude

theorem printedNumber_length : (printedNumber negative magnitude).spelling.text.length ≤ 24 := by
  unfold printedNumber
  split
  · exact (spelled_length 15 negative magnitude).trans (by decide)
  · exact spelled_length 17 negative magnitude

end Numbers

/-! The document that is printed. -/

def noBlank : Blank := ⟨[], fun _ none => absurd none List.not_mem_nil⟩

def quotedText (text : Bytes) : Quoted := ⟨escapedText text, text, spells_escaped text⟩

mutual

def document : Item → Document
  | .null => .null
  | .bool value => .bool value
  | .number (.finite negative magnitude) => .number (printedNumber negative magnitude)
  | .number (.infinite _) => .null
  | .string valuestring => .string (quotedText (cString valuestring))
  | .array items => .array noBlank (itemDocuments items)
  | .object members => .object noBlank (memberDocuments members)

def itemDocuments : List Item → List (Blank × Document × Blank)
  | [] => []
  | item :: items => (noBlank, document item, noBlank) :: itemDocuments items

def memberDocuments : List (Bytes × Item) → List (Name × Document × Blank)
  | [] => []
  | (name, item) :: members =>
      (⟨noBlank, quotedText (cString name), noBlank, noBlank⟩, document item, noBlank) ::
        memberDocuments members

end

theorem separated_items (items : List Item) (text : Bytes) :
    separated (itemDocuments items) text = separated items text := by
  cases items <;> rfl

theorem separated_members (members : List (Bytes × Item)) (text : Bytes) :
    separated (memberDocuments members) text = separated members text := by
  cases members <;> rfl

mutual

theorem document_text (item : Item) : (document item).text = printValue item := by
  match item with
  | .null | .bool _ | .number (.infinite _) => rfl
  | .number (.finite negative magnitude) => exact (printNumber_text negative magnitude).symm
  | .string valuestring => rfl
  | .array items =>
      rw [document, Document.text, itemDocuments_text items, printValue]
      rfl
  | .object members =>
      rw [document, Document.text, memberDocuments_text members, printValue]
      rfl

theorem itemDocuments_text (items : List Item) : itemsText (itemDocuments items) = printElements items := by
  match items with
  | [] => rfl
  | item :: items =>
      rw [itemDocuments, itemsText, document_text item, itemDocuments_text items, separated_items,
        printElements]
      rfl

theorem memberDocuments_text (members : List (Bytes × Item)) :
    membersText (memberDocuments members) = printMembers members := by
  match members with
  | [] => rfl
  | (name, item) :: members =>
      rw [memberDocuments, membersText, document_text item, memberDocuments_text members,
        separated_members, printMembers]
      simp [Name.text, quotedText, noBlank, printStringPtr, quotationMark]

end

/-! What the parser stores can be printed and stored again. -/

mutual

/-- An infinite number is printed as null. -/
def settled : Item → Item
  | .number (.infinite _) => .null
  | .array items => .array (settledItems items)
  | .object members => .object (settledMembers members)
  | item => item

def settledItems : List Item → List Item
  | [] => []
  | item :: items => settled item :: settledItems items

def settledMembers : List (Bytes × Item) → List (Bytes × Item)
  | [] => []
  | (name, item) :: members => (name, settled item) :: settledMembers members

end

/-- A C string in UTF-8. -/
def StorableText (text : Bytes) : Prop := IsUtf8 text ∧ 0 ∉ text

mutual

def StorableItem : Nat → Item → Prop
  | _, .string valuestring => StorableText valuestring
  | levels + 1, .array items => StorableItems levels items
  | levels + 1, .object members => StorableMembers levels members
  | 0, .array _ => False
  | 0, .object _ => False
  | _, _ => True

def StorableItems (levels : Nat) : List Item → Prop
  | [] => True
  | item :: items => StorableItem levels item ∧ StorableItems levels items

def StorableMembers (levels : Nat) : List (Bytes × Item) → Prop
  | [] => True
  | (name, item) :: members =>
      StorableText name ∧ StorableItem levels item ∧ StorableMembers levels members

end

theorem isUtf8_cString {text : Bytes} (utf8 : IsUtf8 text) : IsUtf8 (cString text) := by
  have split : cString text ++ text.dropWhile (· ≠ 0) = text := List.takeWhile_append_dropWhile
  cases behind : text.dropWhile (· ≠ 0) with
  | nil =>
      rw [behind, List.append_nil] at split
      rwa [split]
  | cons byte rest =>
      have zero : byte = 0 := by
        have head := List.head?_dropWhile_not (· ≠ 0) text
        rw [behind] at head
        simpa using head
      subst zero
      rw [behind] at split
      rw [← split, IsUtf8, scan_append] at utf8
      obtain ⟨owed, front, back⟩ := Option.bind_eq_some_iff.mp utf8
      rw [scan_cons] at back
      obtain ⟨after, first, -⟩ := Option.bind_eq_some_iff.mp back
      have proper := scan_proper _ _ _ ⟨by decide, fun _ => rfl⟩ front
      rw [IsUtf8, front, continue_ascii owed after 0 (by decide) proper first]

theorem cString_storable {text : Bytes} (utf8 : IsUtf8 text) : StorableText (cString text) :=
  ⟨isUtf8_cString utf8, cString_noNul text⟩

mutual

theorem stored_storable (levels : Nat) (value : Value) (item : Item)
    (found : stored levels value = some item) : StorableItem levels item := by
  match value with
  | .null | .bool _ =>
      cases found
      cases levels <;> trivial
  | .number spelling =>
      rw [stored] at found
      split at found
      · obtain ⟨⟨number, rest⟩, -, same⟩ := Option.map_eq_some_iff.mp found
        subst same
        cases levels <;> trivial
      · cases found
  | .string text =>
      rw [stored] at found
      split at found
      · rename_i utf8
        cases found
        cases levels <;> exact cString_storable utf8
      · cases found
  | .array values =>
      match levels with
      | 0 => cases found
      | less + 1 =>
          rw [stored] at found
          obtain ⟨items, inner, same⟩ := Option.map_eq_some_iff.mp found
          subst same
          exact storedItems_storable less values items inner
  | .object values =>
      match levels with
      | 0 => cases found
      | less + 1 =>
          rw [stored] at found
          obtain ⟨members, inner, same⟩ := Option.map_eq_some_iff.mp found
          subst same
          exact storedMembers_storable less values members inner

theorem storedItems_storable (levels : Nat) (values : List Value) (items : List Item)
    (found : CJsonConformance.storedItems levels values = some items) : StorableItems levels items := by
  match values with
  | [] =>
      cases found
      trivial
  | value :: values =>
      rw [CJsonConformance.storedItems] at found
      obtain ⟨first, item, others⟩ := Option.bind_eq_some_iff.mp found
      obtain ⟨rest, more, same⟩ := Option.map_eq_some_iff.mp others
      subst same
      exact ⟨stored_storable levels value first item, storedItems_storable levels values rest more⟩

theorem storedMembers_storable (levels : Nat) (values : List (Bytes × Value))
    (members : List (Bytes × Item))
    (found : CJsonConformance.storedMembers levels values = some members) :
    StorableMembers levels members := by
  match values with
  | [] =>
      cases found
      trivial
  | (name, value) :: values =>
      rw [CJsonConformance.storedMembers] at found
      obtain ⟨first, member, others⟩ := Option.bind_eq_some_iff.mp found
      obtain ⟨rest, more, same⟩ := Option.map_eq_some_iff.mp others
      subst same
      split at member
      · rename_i utf8
        obtain ⟨item, inner, named⟩ := Option.map_eq_some_iff.mp member
        subst named
        exact ⟨cString_storable utf8, stored_storable levels value item inner,
          storedMembers_storable levels values rest more⟩
      · cases member

end

mutual

theorem document_encoded (levels : Nat) (item : Item) (storable : StorableItem levels item) :
    (document item).Encoded := by
  match item with
  | .null | .bool _ | .number (.infinite _) | .number (.finite _ _) => trivial
  | .string valuestring =>
      have text : StorableText valuestring := by cases levels <;> exact storable
      exact (isUtf8_escaped _).mpr (isUtf8_cString text.1)
  | .array items =>
      match levels with
      | 0 => exact absurd storable id
      | less + 1 => exact itemDocuments_encoded less items storable
  | .object members =>
      match levels with
      | 0 => exact absurd storable id
      | less + 1 => exact memberDocuments_encoded less members storable

theorem itemDocuments_encoded (levels : Nat) (items : List Item) (storable : StorableItems levels items) :
    ItemsEncoded (itemDocuments items) := by
  match items with
  | [] => trivial
  | item :: items =>
      exact ⟨document_encoded levels item storable.1, itemDocuments_encoded levels items storable.2⟩

theorem memberDocuments_encoded (levels : Nat) (members : List (Bytes × Item))
    (storable : StorableMembers levels members) : MembersEncoded (memberDocuments members) := by
  match members with
  | [] => trivial
  | (name, item) :: members =>
      exact ⟨(isUtf8_escaped _).mpr (isUtf8_cString storable.1.1),
        document_encoded levels item storable.2.1,
        memberDocuments_encoded levels members storable.2.2⟩

end

mutual

theorem document_stored (levels : Nat) (item : Item) (storable : StorableItem levels item) :
    stored levels (document item).value = some (settled item) := by
  match item with
  | .null | .bool _ | .number (.infinite _) => rfl
  | .number (.finite negative magnitude) =>
      have short := printedNumber_length negative magnitude
      rw [document, Document.value, stored, if_pos (by omega),
        strtod_text (printedNumber negative magnitude).proper, printedNumber_read]
      rfl
  | .string valuestring =>
      have text : StorableText valuestring := by cases levels <;> exact storable
      have same : (document (.string valuestring)).value = .string (cString valuestring) := rfl
      rw [same, stored, cString_eq_self text.2, if_pos text.1, cString_eq_self text.2]
      rfl
  | .array items =>
      match levels with
      | 0 => exact absurd storable id
      | less + 1 =>
          rw [document, Document.value, stored, itemDocuments_stored less items storable]
          rfl
  | .object members =>
      match levels with
      | 0 => exact absurd storable id
      | less + 1 =>
          rw [document, Document.value, stored, memberDocuments_stored less members storable]
          rfl

theorem itemDocuments_stored (levels : Nat) (items : List Item) (storable : StorableItems levels items) :
    CJsonConformance.storedItems levels (itemsValue (itemDocuments items)) = some (settledItems items) := by
  match items with
  | [] => rfl
  | item :: items =>
      rw [itemDocuments, itemsValue, CJsonConformance.storedItems,
        document_stored levels item storable.1, itemDocuments_stored levels items storable.2]
      rfl

theorem memberDocuments_stored (levels : Nat) (members : List (Bytes × Item))
    (storable : StorableMembers levels members) :
    CJsonConformance.storedMembers levels (membersValue (memberDocuments members)) =
      some (settledMembers members) := by
  match members with
  | [] => rfl
  | (name, item) :: members =>
      have same : (quotedText (cString name)).text = name := cString_eq_self storable.1.2
      rw [memberDocuments, membersValue, CJsonConformance.storedMembers, same, if_pos storable.1.1,
        document_stored levels item storable.2.1, memberDocuments_stored levels members storable.2.2,
        cString_eq_self storable.1.2]
      rfl

end

theorem printValue_whole (item : Item) :
    printValue item = noBlank.text ++ ((document item).text ++ noBlank.text) := by
  rw [document_text]
  exact (List.append_nil _).symm

theorem document_decodes (levels : Nat) (item : Item) (storable : StorableItem levels item) :
    decode (printValue item) = some (document item).value := by
  rw [printValue_whole]
  exact (decode_iff _ _).mpr ⟨(isUtf8_document noBlank (document item) noBlank).mpr
    (document_encoded levels item storable), noBlank, document item, noBlank, rfl, rfl⟩

/-- What is printed is read back, but for an infinite number. -/
theorem cJsonParse_printed (item : Item) (storable : StorableItem cjsonNestingLimit item) :
    cJsonParse (printValue item) = some (settled item) := by
  have short : ∀ spelling, (document item).value = .number spelling → spelling.length ≤ 63 := by
    intro spelling same
    match item with
    | .null | .bool _ | .number (.infinite _) | .string _ | .array _ | .object _ => cases same
    | .number (.finite negative magnitude) =>
        cases same
        exact (printedNumber_length negative magnitude).trans (by decide)
  rw [printValue_whole, cJsonParse_document noBlank (document item) noBlank
    (document_encoded _ item storable) short, document_stored _ item storable]

/-- The double next to 0.1. -/
def tenth : Magnitude binary64 where
  significand := 7205759403792794
  exponent := -56
  below := by decide
  low := by decide
  high := by decide
  normal := Or.inl (by decide)

def mixedItem : Item :=
  .object [([110], .array [.null, .bool true, .number (.infinite true), .string [92, 10, 195, 169],
    .number (.finite true tenth)])]

theorem cJsonParse_printed_mixed : cJsonParse (printValue mixedItem) = some (settled mixedItem) := by
  have name : StorableText [110] := by constructor <;> decide
  have text : StorableText [92, 10, 195, 169] := by constructor <;> decide
  exact cJsonParse_printed mixedItem
    ⟨name, ⟨trivial, trivial, trivial, text, trivial, trivial⟩, trivial⟩

end LnpResolver.CJsonPrinter

import LnpResolver.CJsonStrings

/-!
cJSON reads JSON. A document that is nested no deeper than the parser goes, with
no number longer than its buffer and no surrogate without its other half, is
stored: its numbers as the nearest doubles, its strings and names as C strings, cut
at the first \u0000 that they decode to. Of all others nothing is stored.
-/

namespace LnpResolver.CJsonConformance

open PackedBytes CStrings DecimalNumerals Doubles JsonText JsonSpellings JsonDocuments JsonItems
open CJsonParser CJsonStrings

/-! Numbers. -/

/-- A number that is longer than the buffer is read in part. -/
def BrokenOff (rest : Bytes) : Prop := ∃ byte ∈ rest.head?, numeralByte byte = true

theorem numberCString_text (number : Number) {rest : Bytes} (stops : Stops rest) :
    numberCString (number.spelling.text ++ rest) = number.spelling.text.take 63 := by
  have span := (TextStreams.span_front (text_numeralByte number.proper) stops).2
  rw [numberCString, span]

theorem parseNumber_text (number : Number) {rest : Bytes} (stops : Stops rest)
    (short : number.spelling.text.length ≤ 63) :
    parseNumber (number.spelling.text ++ rest) = some (ofNumeral number.spelling.numeral, rest) := by
  rw [parseNumber, numberCString_text number stops, List.take_of_length_le short,
    strtod_text number.proper]
  simp

theorem parseNumber_long (number : Number) {rest left : Bytes} {value : Double} (stops : Stops rest)
    (long : 63 < number.spelling.text.length)
    (read : parseNumber (number.spelling.text ++ rest) = some (value, left)) : BrokenOff left := by
  rw [parseNumber, numberCString_text number stops] at read
  split at read
  · cases read
  · rename_i found afterEnd strtod
    cases read
    obtain ⟨taken, split⟩ := (strtod_suffix strtod).1
    have size := congrArg List.length split
    rw [List.length_append, List.length_take] at size
    have consumed : (number.spelling.text.take 63).length - afterEnd.length < number.spelling.text.length := by
      rw [List.length_take]
      omega
    refine ⟨number.spelling.text[(number.spelling.text.take 63).length - afterEnd.length], ?_, ?_⟩
    · rw [List.head?_drop, List.getElem?_append_left consumed, Option.mem_def,
        List.getElem?_eq_getElem consumed]
    · exact text_numeralByte number.proper _ (List.getElem_mem consumed)

/-! What is stored of a value. -/

mutual

def stored (levels : Nat) : Value → Option Item
  | .null => some .null
  | .bool value => some (.bool value)
  | .number spelling =>
      if spelling.length ≤ 63 then (strtod spelling).map fun (number, _) => .number number else none
  | .string text => if IsUtf8 text then some (.string (cString text)) else none
  | .array items =>
      match levels with
      | 0 => none
      | less + 1 => (storedItems less items).map .array
  | .object members =>
      match levels with
      | 0 => none
      | less + 1 => (storedMembers less members).map .object

def storedItems (levels : Nat) : List Value → Option (List Item)
  | [] => some []
  | value :: values =>
      (stored levels value).bind fun item =>
        (storedItems levels values).map fun items => item :: items

def storedMembers (levels : Nat) : List (Bytes × Value) → Option (List (Bytes × Item))
  | [] => some []
  | (name, value) :: values =>
      (if IsUtf8 name then (stored levels value).map fun item => (cString name, item)
        else none).bind fun member =>
          (storedMembers levels values).map fun members => member :: members

end

/-! Whitespace. -/

theorem skipWhitespace_blank (blank : Blank) (rest : Bytes) :
    skipWhitespace (blank.text ++ rest) = skipWhitespace rest :=
  List.dropWhile_append_of_pos fun byte member =>
    decide_eq_true (isSpace_small (blank.spaces byte member))

theorem skipWhitespace_solid {byte : UInt8} (rest : Bytes) (large : 32 < byte) :
    skipWhitespace (byte :: rest) = byte :: rest := by
  have solid : ¬ byte ≤ 32 := UInt8.not_le.mpr large
  simp [skipWhitespace, solid]

theorem skipWhitespace_mark (blank : Blank) (byte : UInt8) (rest : Bytes) (large : 32 < byte) :
    skipWhitespace (blank.text ++ byte :: rest) = byte :: rest := by
  rw [skipWhitespace_blank, skipWhitespace_solid _ large]

theorem skipWhitespace_document (doc : Document) (rest : Bytes) :
    skipWhitespace (doc.text ++ rest) = doc.text ++ rest := by
  obtain ⟨byte, more, shape, large, -⟩ := document_head doc
  rw [shape, List.cons_append, skipWhitespace_solid _ large]

theorem skipWhitespace_twice (text : Bytes) :
    skipWhitespace (skipWhitespace text) = skipWhitespace text := by
  induction text with
  | nil => rfl
  | cons byte rest ih =>
      by_cases small : byte ≤ 32
      · simpa [skipWhitespace, small] using ih
      · simp [skipWhitespace, small]

/-- What a number leaves behind is not skipped, and ends no element. -/
theorem brokenOff_head {rest : Bytes} (broken : BrokenOff rest) :
    ∃ byte more, skipWhitespace rest = byte :: more ∧ byte ≠ 44 ∧ byte ≠ 93 ∧ byte ≠ 125 := by
  obtain ⟨byte, first, numeral⟩ := broken
  obtain ⟨more, rfl⟩ : ∃ more, rest = byte :: more := by
    cases rest with
    | nil => cases first
    | cons head more =>
        cases first
        exact ⟨more, rfl⟩
  have large : 32 < byte ∧ byte ≠ 44 ∧ byte ≠ 93 ∧ byte ≠ 125 := by
    simp only [numeralByte, isdigit, Bool.or_eq_true, Bool.and_eq_true, decide_eq_true_eq,
      UInt8.le_iff_toNat_le, ← UInt8.toNat_inj] at numeral
    simp only [UInt8.lt_iff_toNat_lt, ne_eq, ← UInt8.toNat_inj]
    simp only [UInt8.reduceToNat] at numeral ⊢
    omega
  exact ⟨byte, more, skipWhitespace_solid more large.1, large.2⟩

/-! Documents. -/

/-- The parser stores what is to be stored; if that is nothing, it fails there or
right behind. -/
def Outcome {α : Type} (result : Option α) (found : Option (α × Bytes)) (rest : Bytes) : Prop :=
  match result with
  | some item => found = some (item, rest)
  | none => ∀ item left, found = some (item, left) → BrokenOff left

theorem outcome_refused {α : Type} (rest : Bytes) : Outcome (none : Option α) none rest := by
  intro item left read
  cases read

theorem outcome_map {α β : Type} {result : Option α} {found : Option (α × Bytes)} {rest : Bytes}
    (outcome : Outcome result found rest) (make : α → β) :
    Outcome (result.map make) (found.map fun (value, rest) => (make value, rest)) rest := by
  cases result with
  | none =>
      intro item left read
      obtain ⟨⟨value, behind⟩, parsed, same⟩ := Option.map_eq_some_iff.mp read
      cases same
      exact outcome _ _ parsed
  | some value =>
      have parsed : found = some (value, rest) := outcome
      rw [parsed]
      rfl

theorem outcome_exact {α : Type} (result : Option α) (rest : Bytes) :
    Outcome result (result.map fun value => (value, rest)) rest := by
  cases result with
  | none => exact outcome_refused rest
  | some value => rfl

theorem parseElements_skip (value : Parser Item) (fuel : Nat) (text : Bytes) :
    parseElements value fuel (skipWhitespace text) = parseElements value fuel text := by
  cases fuel with
  | zero => rfl
  | succ fuel => rw [parseElements, parseElements, skipWhitespace_twice]

theorem parseMembers_skip (value : Parser Item) (fuel : Nat) (text : Bytes) :
    parseMembers value fuel (skipWhitespace text) = parseMembers value fuel text := by
  cases fuel with
  | zero => rfl
  | succ fuel => rw [parseMembers, parseMembers, parseMember, parseMember, skipWhitespace_twice]

theorem parseElements_last {value : Parser Item} (fuel : Nat) {text behind rest : Bytes}
    {result : Option Item} (outcome : Outcome result (value (skipWhitespace text)) behind)
    (closed : skipWhitespace behind = 93 :: rest) :
    parseElements value (fuel + 1) text = result.map fun item => ([item], rest) := by
  have comma : ¬ (93 : UInt8) = 44 := by decide
  rw [parseElements]
  cases result with
  | some item =>
      have parsed : value (skipWhitespace text) = some (item, behind) := outcome
      simp only [parsed, closed, if_neg comma, if_true]
      rfl
  | none =>
      cases parsed : value (skipWhitespace text) with
      | none => rfl
      | some found =>
          obtain ⟨byte, more, head, notComma, notClosed, -⟩ :=
            brokenOff_head (outcome found.1 found.2 parsed)
          simp only [head, if_neg notComma, if_neg notClosed]
          rfl

theorem parseElements_more {value : Parser Item} (fuel : Nat) {text behind later rest : Bytes}
    {result : Option Item} {others : Option (List Item)}
    (outcome : Outcome result (value (skipWhitespace text)) behind)
    (comma : skipWhitespace behind = 44 :: later)
    (continued : parseElements value fuel later = others.map fun items => (items, rest)) :
    parseElements value (fuel + 1) text =
      (result.bind fun item => others.map fun items => item :: items).map fun items =>
        (items, rest) := by
  rw [parseElements]
  cases result with
  | some item =>
      have parsed : value (skipWhitespace text) = some (item, behind) := outcome
      simp only [parsed, comma, if_true, continued, Option.map_map, Option.bind_some]
      rfl
  | none =>
      cases parsed : value (skipWhitespace text) with
      | none => rfl
      | some found =>
          obtain ⟨byte, more, head, notComma, notClosed, -⟩ :=
            brokenOff_head (outcome found.1 found.2 parsed)
          simp only [head, if_neg notComma, if_neg notClosed]
          rfl

theorem parseMembers_last {value : Parser Item} (fuel : Nat) {text behind rest : Bytes}
    {result : Option (Bytes × Item)} (outcome : Outcome result (parseMember value text) behind)
    (closed : skipWhitespace behind = 125 :: rest) :
    parseMembers value (fuel + 1) text = result.map fun member => ([member], rest) := by
  have comma : ¬ (125 : UInt8) = 44 := by decide
  rw [parseMembers]
  cases result with
  | some member =>
      have parsed : parseMember value text = some (member, behind) := outcome
      simp only [parsed, closed, if_neg comma, if_true]
      rfl
  | none =>
      cases parsed : parseMember value text with
      | none => rfl
      | some found =>
          obtain ⟨byte, more, head, notComma, -, notClosed⟩ :=
            brokenOff_head (outcome found.1 found.2 parsed)
          simp only [head, if_neg notComma, if_neg notClosed]
          rfl

theorem parseMembers_more {value : Parser Item} (fuel : Nat) {text behind later rest : Bytes}
    {result : Option (Bytes × Item)} {others : Option (List (Bytes × Item))}
    (outcome : Outcome result (parseMember value text) behind)
    (comma : skipWhitespace behind = 44 :: later)
    (continued : parseMembers value fuel later = others.map fun members => (members, rest)) :
    parseMembers value (fuel + 1) text =
      (result.bind fun member => others.map fun members => member :: members).map fun members =>
        (members, rest) := by
  rw [parseMembers]
  cases result with
  | some member =>
      have parsed : parseMember value text = some (member, behind) := outcome
      simp only [parsed, comma, if_true, continued, Option.map_map, Option.bind_some]
      rfl
  | none =>
      cases parsed : parseMember value text with
      | none => rfl
      | some found =>
          obtain ⟨byte, more, head, notComma, -, notClosed⟩ :=
            brokenOff_head (outcome found.1 found.2 parsed)
          simp only [head, if_neg notComma, if_neg notClosed]
          rfl

/-- A member is stored if its name and its value are. -/
theorem parseMember_text {value : Parser Item} (name : Name) (encoded : name.name.Encoded)
    {text rest : Bytes} {result : Option Item} (solid : skipWhitespace text = text)
    (outcome : Outcome result (value text) rest) :
    Outcome (if IsUtf8 name.name.text then result.map fun item => (cString name.name.text, item)
      else none) (parseMember value (name.text ++ text)) rest := by
  have start : skipWhitespace (name.text ++ text) = quotationMark :: (name.name.raw ++
      quotationMark :: (name.after.text ++ 58 :: (name.behind.text ++ text))) := by
    simp only [Name.text, List.append_assoc, List.cons_append, skipWhitespace_blank]
    exact skipWhitespace_solid _ (by decide)
  rw [parseMember, start, parseString_quoted _ encoded]
  split
  · have colon := skipWhitespace_mark name.after 58 (name.behind.text ++ text) (by decide)
    simp only [colon, if_true, skipWhitespace_blank, solid]
    exact outcome_map outcome _
  · exact outcome_refused rest

theorem parseValue_mark (levels : Nat) (byte : UInt8) (rest : Bytes) (notNull : byte ≠ 110)
    (notFalse : byte ≠ 102) (notTrue : byte ≠ 116) :
    parseValue levels (byte :: rest) =
      if byte = 34 then (parseString (byte :: rest)).map fun (value, rest) => (.string value, rest)
      else if byte = 45 ∨ isdigit byte then
        (parseNumber (byte :: rest)).map fun (number, rest) => (.number number, rest)
      else if byte = 91 then
        match levels with
        | 0 => none
        | less + 1 => parseArray (parseValue less) rest
      else if byte = 123 then
        match levels with
        | 0 => none
        | less + 1 => parseObject (parseValue less) rest
      else none := by
  have words : ∀ (head : UInt8) (tail : Bytes), byte ≠ head →
      ¬ (head :: tail).isPrefixOf (byte :: rest) = true := by
    intro head tail other
    simp [List.isPrefixOf, beq_eq_false_iff_ne.mpr (Ne.symm other)]
  cases levels <;> rw [parseValue.eq_def] <;>
    simp only [if_neg (words _ _ notNull), if_neg (words _ _ notFalse), if_neg (words _ _ notTrue)]

theorem parseArray_text (space : Blank) (items : List (Blank × Document × Blank)) (levels : Nat)
    (rest : Bytes)
    (elements : items ≠ [] → ∀ fuel, items.length ≤ fuel →
      parseElements (parseValue levels) fuel (itemsText items ++ 93 :: rest) =
        (storedItems levels (itemsValue items)).map fun items => (items, rest)) :
    parseArray (parseValue levels) (space.text ++ (itemsText items ++ 93 :: rest)) =
      (storedItems levels (itemsValue items)).map fun items => (.array items, rest) := by
  rw [parseArray]
  cases items with
  | nil =>
      have closed := skipWhitespace_mark space 93 rest (by decide)
      simp only [itemsText, List.nil_append, closed, if_true]
      rfl
  | cons first more =>
      obtain ⟨before, item, after⟩ := first
      obtain ⟨byte, tail, shape, large, open_⟩ := document_head item
      have start : skipWhitespace (space.text ++
          (itemsText ((before, item, after) :: more) ++ 93 :: rest)) =
            byte :: (tail ++ (after.text ++ (separated more (itemsText more) ++ 93 :: rest))) := by
        rw [skipWhitespace_blank, itemsText, List.append_assoc, skipWhitespace_blank,
          List.append_assoc, skipWhitespace_document, shape, List.append_assoc]
        rfl
      have longer := itemsText_length ((before, item, after) :: more)
      have parse := elements (by simp)
        (space.text ++ (itemsText ((before, item, after) :: more) ++ 93 :: rest)).length
        (by simp only [List.length_append] at longer ⊢; omega)
      rw [← parseElements_skip, ← skipWhitespace_blank space, start] at parse
      simp only [start, if_neg open_, parse, Option.map_map]
      rfl

theorem parseObject_text (space : Blank) (members : List (Name × Document × Blank)) (levels : Nat)
    (rest : Bytes)
    (elements : members ≠ [] → ∀ fuel, members.length ≤ fuel →
      parseMembers (parseValue levels) fuel (membersText members ++ 125 :: rest) =
        (storedMembers levels (membersValue members)).map fun members => (members, rest)) :
    parseObject (parseValue levels) (space.text ++ (membersText members ++ 125 :: rest)) =
      (storedMembers levels (membersValue members)).map fun members => (.object members, rest) := by
  rw [parseObject]
  cases members with
  | nil =>
      have closed := skipWhitespace_mark space 125 rest (by decide)
      simp only [membersText, List.nil_append, closed, if_true]
      rfl
  | cons first more =>
      obtain ⟨name, item, after⟩ := first
      have open_ : quotationMark ≠ 125 := by decide
      have start : skipWhitespace (space.text ++
          (membersText ((name, item, after) :: more) ++ 125 :: rest)) =
            quotationMark :: (name.name.raw ++ quotationMark :: (name.after.text ++
              58 :: (name.behind.text ++ (item.text ++ (after.text ++
                (separated more (membersText more) ++ 125 :: rest)))))) := by
        rw [skipWhitespace_blank, membersText, Name.text, List.append_assoc, List.append_assoc,
          skipWhitespace_blank, List.cons_append, skipWhitespace_solid _ (by decide)]
        simp only [List.append_assoc, List.cons_append]
      have longer := membersText_length ((name, item, after) :: more)
      have parse := elements (by simp)
        (space.text ++ (membersText ((name, item, after) :: more) ++ 125 :: rest)).length
        (by simp only [List.length_append] at longer ⊢; omega)
      rw [← parseMembers_skip, ← skipWhitespace_blank space, start] at parse
      simp only [start, if_neg open_, parse, Option.map_map]
      rfl

theorem parseValue_array (levels : Nat) (rest : Bytes) :
    parseValue levels (91 :: rest) =
      match levels with
      | 0 => none
      | less + 1 => parseArray (parseValue less) rest := by
  have mark : ¬ ((91 : UInt8) = 45 ∨ isdigit 91 = true) := by decide
  rw [parseValue_mark levels _ _ (by decide) (by decide) (by decide), if_neg (by decide),
    if_neg mark, if_pos rfl]

theorem parseValue_object (levels : Nat) (rest : Bytes) :
    parseValue levels (123 :: rest) =
      match levels with
      | 0 => none
      | less + 1 => parseObject (parseValue less) rest := by
  have mark : ¬ ((123 : UInt8) = 45 ∨ isdigit 123 = true) := by decide
  rw [parseValue_mark levels _ _ (by decide) (by decide) (by decide), if_neg (by decide),
    if_neg mark, if_neg (by decide), if_pos rfl]

theorem parseValue_string (levels : Nat) (quoted : Quoted) (encoded : quoted.Encoded) (rest : Bytes) :
    parseValue levels ((Document.string quoted).text ++ rest) =
      (stored levels (.string quoted.text)).map fun item => (item, rest) := by
  rw [Document.text, List.cons_append, List.append_assoc, List.singleton_append,
    parseValue_mark levels _ _ (by decide) (by decide) (by decide),
    if_pos (show quotationMark = 34 from rfl), parseString_quoted quoted encoded, stored]
  split <;> rfl

theorem parseValue_number (levels : Nat) (number : Number) (rest : Bytes) :
    parseValue levels (number.spelling.text ++ rest) =
      (parseNumber (number.spelling.text ++ rest)).map fun (number, rest) =>
        (.number number, rest) := by
  obtain ⟨byte, more, shape, first⟩ := number_head number
  obtain ⟨-, -, -, notString, notTrue, notFalse, notNull⟩ := number_first first
  have notQuote : byte ≠ 34 := notString
  rw [shape, List.cons_append, parseValue_mark levels byte _ notNull notFalse notTrue,
    if_neg notQuote, if_pos first]

theorem parseValue_short (levels : Nat) (number : Number) {rest : Bytes} (stops : Stops rest)
    (short : number.spelling.text.length ≤ 63) :
    parseValue levels (number.spelling.text ++ rest) =
      (stored levels (.number number.spelling.text)).map fun item => (item, rest) := by
  rw [parseValue_number, parseNumber_text number stops short, stored, if_pos short,
    strtod_text number.proper]
  rfl

mutual

theorem parse_document (doc : Document) (levels : Nat) (rest : Bytes) (encoded : doc.Encoded)
    (stops : Stops rest) :
    Outcome (stored levels doc.value) (parseValue levels (doc.text ++ rest)) rest := by
  match doc with
  | .null =>
      rw [Document.text, nullText, parseValue.eq_def]
      rfl
  | .bool true =>
      rw [Document.text, if_pos rfl, trueText, parseValue.eq_def]
      rfl
  | .bool false =>
      rw [Document.text, if_neg (by decide), falseText, parseValue.eq_def]
      rfl
  | .number number =>
      rw [Document.text, Document.value]
      by_cases short : number.spelling.text.length ≤ 63
      · rw [parseValue_short levels number stops short]
        exact outcome_exact _ rest
      · rw [parseValue_number, stored, if_neg short]
        intro item left read
        obtain ⟨⟨value, behind⟩, found, same⟩ := Option.map_eq_some_iff.mp read
        cases same
        exact parseNumber_long number stops (Nat.lt_of_not_le short) found
  | .string quoted =>
      rw [parseValue_string levels quoted encoded]
      exact outcome_exact _ rest
  | .array space items =>
      rw [Document.text, Document.value, List.cons_append, parseValue_array]
      match levels with
      | 0 => exact outcome_refused rest
      | less + 1 =>
          have parse := parseArray_text space items less rest fun some fuel size =>
            parse_items items less fuel rest some encoded size
          simp only [List.append_assoc, List.singleton_append, parse, stored]
          cases storedItems less (itemsValue items) with
          | none => exact outcome_refused rest
          | some items => rfl
  | .object space members =>
      rw [Document.text, Document.value, List.cons_append, parseValue_object]
      match levels with
      | 0 => exact outcome_refused rest
      | less + 1 =>
          have parse := parseObject_text space members less rest fun some fuel size =>
            parse_members members less fuel rest some encoded size
          simp only [List.append_assoc, List.singleton_append, parse, stored]
          cases storedMembers less (membersValue members) with
          | none => exact outcome_refused rest
          | some members => rfl

theorem parse_items (items : List (Blank × Document × Blank)) (levels fuel : Nat) (rest : Bytes)
    (some : items ≠ []) (encoded : ItemsEncoded items) (size : items.length ≤ fuel) :
    parseElements (parseValue levels) fuel (itemsText items ++ 93 :: rest) =
      (storedItems levels (itemsValue items)).map fun items => (items, rest) := by
  match items with
  | (before, item, after) :: more =>
      obtain ⟨fuel, rfl⟩ : ∃ less, fuel = less + 1 := ⟨fuel - 1, by simp at size; omega⟩
      obtain ⟨itemEncoded, moreEncoded⟩ := encoded
      have start : ∀ behind, skipWhitespace (before.text ++ (item.text ++ behind)) =
          item.text ++ behind := by
        intro behind
        rw [skipWhitespace_blank, skipWhitespace_document]
      rw [itemsText, List.append_assoc, List.append_assoc, List.append_assoc]
      match more with
      | [] =>
          have outcome := parse_document item levels (after.text ++ 93 :: rest) itemEncoded
            (stops_blank after rest (by decide))
          rw [← start] at outcome
          rw [separated, List.nil_append, parseElements_last fuel outcome
            (skipWhitespace_mark after _ rest (by decide))]
          rw [itemsValue, storedItems]
          cases stored levels item.value <;> rfl
      | next :: others =>
          have outcome := parse_document item levels
            (after.text ++ 44 :: (itemsText (next :: others) ++ 93 :: rest)) itemEncoded
            (stops_blank after _ (by decide))
          have later := parse_items (next :: others) levels fuel rest (by simp) moreEncoded
            (Nat.le_of_succ_le_succ size)
          rw [← start] at outcome
          rw [separated, List.cons_append, parseElements_more fuel outcome
            (skipWhitespace_mark after _ _ (by decide)) later]
          rfl

theorem parse_members (members : List (Name × Document × Blank)) (levels fuel : Nat) (rest : Bytes)
    (some : members ≠ []) (encoded : MembersEncoded members) (size : members.length ≤ fuel) :
    parseMembers (parseValue levels) fuel (membersText members ++ 125 :: rest) =
      (storedMembers levels (membersValue members)).map fun members => (members, rest) := by
  match members with
  | (name, item, after) :: more =>
      obtain ⟨fuel, rfl⟩ : ∃ less, fuel = less + 1 := ⟨fuel - 1, by simp at size; omega⟩
      obtain ⟨nameEncoded, itemEncoded, moreEncoded⟩ := encoded
      rw [membersText, List.append_assoc, List.append_assoc, List.append_assoc]
      match more with
      | [] =>
          have outcome := parseMember_text name nameEncoded (skipWhitespace_document item _)
            (parse_document item levels (after.text ++ 125 :: rest) itemEncoded
              (stops_blank after rest (by decide)))
          rw [separated, List.nil_append, parseMembers_last fuel outcome
            (skipWhitespace_mark after _ rest (by decide))]
          rw [membersValue, storedMembers]
          generalize (if IsUtf8 name.name.text then _ else _ : Option (Bytes × Item)) = member
          cases member <;> rfl
      | next :: others =>
          have outcome := parseMember_text name nameEncoded (skipWhitespace_document item _)
            (parse_document item levels
              (after.text ++ 44 :: (membersText (next :: others) ++ 125 :: rest)) itemEncoded
              (stops_blank after _ (by decide)))
          have later := parse_members (next :: others) levels fuel rest (by simp) moreEncoded
            (Nat.le_of_succ_le_succ size)
          rw [separated, List.cons_append, parseMembers_more fuel outcome
            (skipWhitespace_mark after _ _ (by decide)) later]
          rfl

end

/-- What is no number is stored whole or not at all. -/
theorem parse_whole (doc : Document) (levels : Nat) (rest : Bytes) (encoded : doc.Encoded)
    (stops : Stops rest)
    (short : ∀ spelling, doc.value = .number spelling → spelling.length ≤ 63) :
    parseValue levels (doc.text ++ rest) = (stored levels doc.value).map fun item => (item, rest) := by
  match doc with
  | .null | .bool true | .bool false => exact parse_document _ levels rest encoded stops
  | .number number => exact parseValue_short levels number stops (short _ rfl)
  | .string quoted => exact parseValue_string levels quoted encoded rest
  | .array space items =>
      rw [Document.text, Document.value, List.cons_append, parseValue_array]
      match levels with
      | 0 => rfl
      | less + 1 =>
          have parse := parseArray_text space items less rest fun some fuel size =>
            parse_items items less fuel rest some encoded size
          simp only [List.append_assoc, List.singleton_append, parse, stored, Option.map_map]
          rfl
  | .object space members =>
      rw [Document.text, Document.value, List.cons_append, parseValue_object]
      match levels with
      | 0 => rfl
      | less + 1 =>
          have parse := parseObject_text space members less rest fun some fuel size =>
            parse_members members less fuel rest some encoded size
          simp only [List.append_assoc, List.singleton_append, parse, stored, Option.map_map]
          rfl

theorem skipUtf8Bom_document (before : Blank) (doc : Document) (rest : Bytes) :
    skipUtf8Bom (before.text ++ (doc.text ++ rest)) = before.text ++ (doc.text ++ rest) := by
  apply if_neg
  rintro ⟨-, mark⟩
  have first : (before.text ++ (doc.text ++ rest)).head? = some 239 := by
    cases shape : before.text ++ (doc.text ++ rest) with
    | nil =>
        rw [shape] at mark
        cases mark
    | cons byte more =>
        rw [shape] at mark
        rw [(List.cons.inj mark).1]
        rfl
  cases blank : before.text with
  | cons byte more =>
      rw [blank] at first
      cases first
      exact absurd (before.spaces 239 (blank ▸ List.mem_cons_self)) (by decide)
  | nil =>
      rw [blank] at first
      match doc with
      | .null | .bool true | .bool false | .string quoted | .array space items
      | .object space members => cases first
      | .number number =>
          obtain ⟨byte, more, shape, digit⟩ := number_head number
          rw [Document.text, shape] at first
          cases first
          exact absurd digit (by decide)

theorem document_cString (before : Blank) (doc : Document) (after : Blank) :
    cString (before.text ++ (doc.text ++ after.text)) = before.text ++ (doc.text ++ after.text) :=
  cString_eq_self (by simp [(blank_ascii before).2, document_noNul doc, (blank_ascii after).2])

theorem cJsonParse_document (before : Blank) (doc : Document) (after : Blank) (encoded : doc.Encoded)
    (short : ∀ spelling, doc.value = .number spelling → spelling.length ≤ 63) :
    cJsonParse (before.text ++ (doc.text ++ after.text)) = stored cjsonNestingLimit doc.value := by
  have parse := parse_whole doc cjsonNestingLimit after.text encoded (stops_blanks after) short
  rw [cJsonParse, skipUtf8Bom_document, skipWhitespace_blank, skipWhitespace_document, parse,
    Option.map_map]
  cases stored cjsonNestingLimit doc.value <;> rfl

/-- A JSON text is stored, its strings up to their first NUL, or refused. A lone number of
more than 63 bytes is left out: nothing behind the copy of it would be noticed. -/
theorem cJsonParse_decoded (text : Bytes) (value : Value) (decoded : decode text = some value)
    (short : ∀ spelling, value = .number spelling → spelling.length ≤ 63) :
    cString text = text ∧ cJsonParse text = stored cjsonNestingLimit value := by
  obtain ⟨utf8, before, doc, after, rfl, rfl⟩ := (decode_iff text value).mp decoded
  have encoded := (isUtf8_document before doc after).mp utf8
  exact ⟨document_cString before doc after, cJsonParse_document before doc after encoded short⟩

section Nested

open RequestWire

def nestedText : Bytes := bytesOf " \x7b\"a\" : [true, \"x\\u00e9\"],\"n\":-3e1\x7d"

def nestedValue : Value :=
  .object [(bytesOf "a", .array [.bool true, .string (bytesOf "xé")]),
    (bytesOf "n", .number (bytesOf "-3e1"))]

theorem cJsonParse_decoded_nested :
    cString nestedText = nestedText ∧
      cJsonParse nestedText = stored cjsonNestingLimit nestedValue :=
  cJsonParse_decoded nestedText nestedValue rfl fun _ number => by cases number

end Nested

end LnpResolver.CJsonConformance

import LnpResolver.JsonSpellings

/-!
JSON texts as trees. A document keeps the blanks and spellings of its text and
carries the proofs that they are such, so every document is one of a JSON text.
What the reader accepts is the text of a document, and every document is read
back as its value.
-/

namespace JsonDocuments

open PackedBytes CStrings DecimalNumerals JsonText JsonSpellings

structure Blank where
  text : Bytes
  spaces : ∀ byte ∈ text, isSpace byte = true

/-- A string between its quotation marks, and the text it stands for. -/
structure Quoted where
  raw : Bytes
  text : Bytes
  spells : Spells raw text

/-- The name of a member with the blanks around it and behind its colon. -/
structure Name where
  before : Blank
  name : Quoted
  after : Blank
  behind : Blank

def Name.text (name : Name) : Bytes :=
  name.before.text ++ (quotationMark :: (name.name.raw ++ quotationMark ::
    (name.after.text ++ 58 :: name.behind.text)))

inductive Document where
  | null
  | bool (value : Bool)
  | number (number : Number)
  | string (quoted : Quoted)
  | array (space : Blank) (items : List (Blank × Document × Blank))
  | object (space : Blank) (members : List (Name × Document × Blank))

/-- What follows an item: a comma and the others, if there are any. -/
def separated {α : Type} : List α → Bytes → Bytes
  | [], _ => []
  | _ :: _, text => 44 :: text

def trueText : Bytes := [116, 114, 117, 101]
def falseText : Bytes := [102, 97, 108, 115, 101]
def nullText : Bytes := [110, 117, 108, 108]

mutual

def Document.text : Document → Bytes
  | .null => nullText
  | .bool value => if value then trueText else falseText
  | .number number => number.spelling.text
  | .string quoted => quotationMark :: (quoted.raw ++ [quotationMark])
  | .array space items => 91 :: (space.text ++ (itemsText items ++ [93]))
  | .object space members => 123 :: (space.text ++ (membersText members ++ [125]))

def itemsText : List (Blank × Document × Blank) → Bytes
  | [] => []
  | (before, item, after) :: more =>
      before.text ++ (item.text ++ (after.text ++ separated more (itemsText more)))

def membersText : List (Name × Document × Blank) → Bytes
  | [] => []
  | (name, item, after) :: more =>
      name.text ++ (item.text ++ (after.text ++ separated more (membersText more)))

end

mutual

def Document.value : Document → Value
  | .null => .null
  | .bool value => .bool value
  | .number number => .number number.spelling.text
  | .string quoted => .string quoted.text
  | .array _ items => .array (itemsValue items)
  | .object _ members => .object (membersValue members)

def itemsValue : List (Blank × Document × Blank) → List Value
  | [] => []
  | (_, item, _) :: more => item.value :: itemsValue more

def membersValue : List (Name × Document × Blank) → List (Bytes × Value)
  | [] => []
  | (name, item, _) :: more => (name.name.text, item.value) :: membersValue more

end

mutual

def Document.depth : Document → Nat
  | .array _ items => itemsDepth items + 1
  | .object _ members => membersDepth members + 1
  | _ => 1

def itemsDepth : List (Blank × Document × Blank) → Nat
  | [] => 0
  | (_, item, _) :: more => max item.depth (itemsDepth more)

def membersDepth : List (Name × Document × Blank) → Nat
  | [] => 0
  | (_, item, _) :: more => max item.depth (membersDepth more)

end

theorem isSpace_stops {byte : UInt8} (space : isSpace byte = true) : numeralByte byte = false := by
  simp only [isSpace, Bool.or_eq_true, decide_eq_true_eq] at space
  rcases space with ((rfl | rfl) | rfl) | rfl <;> decide

theorem stops_blank (blank : Blank) {byte : UInt8} (rest : Bytes)
    (other : numeralByte byte = false) : Stops (blank.text ++ byte :: rest) := by
  intro found first
  cases shape : blank.text with
  | nil =>
      rw [shape] at first
      cases first
      exact other
  | cons space more =>
      rw [shape] at first
      cases first
      exact isSpace_stops (blank.spaces _ (shape ▸ List.mem_cons_self))

theorem skipSpace_blank (blank : Blank) (rest : Bytes) :
    skipSpace (blank.text ++ rest) = skipSpace rest :=
  List.dropWhile_append_of_pos blank.spaces

theorem skipSpace_split (input : Bytes) :
    ∃ blank : Blank, input = blank.text ++ skipSpace input :=
  ⟨⟨input.takeWhile isSpace, fun _ member => List.mem_takeWhile_imp member⟩,
    (List.takeWhile_append_dropWhile).symm⟩

theorem skipSpace_solid {byte : UInt8} (rest : Bytes) (solid : isSpace byte = false) :
    skipSpace (byte :: rest) = byte :: rest := by
  simp [skipSpace, solid]

theorem readValue_blank (depth : Nat) (blank : Blank) (rest : Bytes) :
    readValue depth (blank.text ++ rest) = readValue depth rest := by
  cases depth with
  | zero => rfl
  | succ depth => rw [readValue, readValue, skipSpace_blank]

theorem number_head (number : Number) :
    ∃ byte more, number.spelling.text = byte :: more ∧ (byte = 45 ∨ isdigit byte = true) := by
  obtain ⟨⟨sign, whole, fraction, exponent⟩, proper, strict⟩ := number
  obtain ⟨digit, digits, shape⟩ := List.exists_cons_of_ne_nil proper.filled
  simp only at shape
  subst shape
  cases sign with
  | plus => exact absurd rfl strict.unsigned
  | minus => exact ⟨45, _, rfl, Or.inl rfl⟩
  | none => exact ⟨digit, _, rfl, Or.inr (proper.whole digit List.mem_cons_self)⟩

/-- What the first byte of a number is not. -/
theorem number_first {byte : UInt8} (first : byte = 45 ∨ isdigit byte = true) :
    isSpace byte = false ∧ byte ≠ 123 ∧ byte ≠ 91 ∧ byte ≠ quotationMark ∧
      byte ≠ 116 ∧ byte ≠ 102 ∧ byte ≠ 110 := by
  rcases first with rfl | digit
  · decide
  · simp only [isdigit, Bool.and_eq_true, decide_eq_true_eq, UInt8.le_iff_toNat_le] at digit
    simp only [isSpace, quotationMark, Bool.or_eq_false_iff, decide_eq_false_iff_not, ne_eq,
      ← UInt8.toNat_inj]
    simp only [UInt8.reduceToNat] at digit ⊢
    omega

theorem readScalar_number (number : Number) {rest : Bytes} (stops : Stops rest) :
    readScalar (number.spelling.text ++ rest) = some (.number number.spelling.text, rest) := by
  obtain ⟨byte, more, shape, first⟩ := number_head number
  obtain ⟨-, -, -, -, notTrue, notFalse, notNull⟩ := number_first first
  have read := readNumber_text number stops
  rw [shape, List.cons_append] at read ⊢
  have words : ∀ (head : UInt8) (tail : Bytes), byte ≠ head →
      word (head :: tail) (byte :: (more ++ rest)) = none := by
    intro head tail other
    simp [word, List.isPrefixOf, beq_eq_false_iff_ne.mpr (Ne.symm other)]
  simp [readScalar, words _ _ notTrue, words _ _ notFalse, words _ _ notNull, read]

theorem readName_text (name : Name) (rest : Bytes) :
    readName (name.text ++ rest) = some (name.name.text, name.behind.text ++ rest) := by
  have quote : isSpace quotationMark = false := by decide
  have colon : isSpace 58 = false := by decide
  have read : readString (name.name.raw ++ quotationMark ::
      (name.after.text ++ 58 :: (name.behind.text ++ rest))) =
      some (name.name.text, name.after.text ++ 58 :: (name.behind.text ++ rest)) :=
    (readString_iff _ _ _).mpr ⟨name.name.raw, rfl, name.name.spells⟩
  simp only [readName, Name.text, List.append_assoc, List.cons_append, skipSpace_blank,
    skipSpace_solid _ quote, if_true, read, bind, Option.bind_some, skipSpace_solid _ colon]
  rfl

/-! Every document is read as its value. -/

theorem readValue_scalar {depth : Nat} {byte : UInt8} (rest : Bytes) (solid : isSpace byte = false)
    (notObject : byte ≠ 123) (notArray : byte ≠ 91) (notString : byte ≠ quotationMark) :
    readValue (depth + 1) (byte :: rest) = readScalar (byte :: rest) := by
  rw [readValue, skipSpace_solid rest solid]
  simp only [if_neg notObject, if_neg notArray, if_neg notString]

/-- A document begins with none of the bytes that end an array or are skipped. -/
theorem document_head (doc : Document) :
    ∃ byte more, doc.text = byte :: more ∧ 32 < byte ∧ byte ≠ 93 := by
  match doc with
  | .null => exact ⟨110, _, rfl, by decide⟩
  | .bool true => exact ⟨116, _, rfl, by decide⟩
  | .bool false => exact ⟨102, _, rfl, by decide⟩
  | .string quoted => exact ⟨quotationMark, _, rfl, by decide⟩
  | .array space items => exact ⟨91, _, by rw [Document.text], by decide⟩
  | .object space members => exact ⟨123, _, by rw [Document.text], by decide⟩
  | .number number =>
      obtain ⟨byte, more, shape, first⟩ := number_head number
      refine ⟨byte, more, by rw [Document.text, shape], ?_⟩
      rcases first with rfl | digit
      · decide
      · simp only [isdigit, Bool.and_eq_true, decide_eq_true_eq, UInt8.le_iff_toNat_le] at digit
        simp only [UInt8.lt_iff_toNat_lt, ne_eq, ← UInt8.toNat_inj]
        simp only [UInt8.reduceToNat] at digit ⊢
        omega

theorem isSpace_small {byte : UInt8} (space : isSpace byte = true) : byte ≤ 32 := by
  simp only [isSpace, Bool.or_eq_true, decide_eq_true_eq] at space
  rcases space with ((rfl | rfl) | rfl) | rfl <;> decide

theorem isSpace_large {byte : UInt8} (large : 32 < byte) : isSpace byte = false := by
  apply Bool.eq_false_iff.mpr
  intro space
  exact absurd (isSpace_small space) (UInt8.not_le.mpr large)

theorem skipSpace_document (doc : Document) (rest : Bytes) :
    skipSpace (doc.text ++ rest) = doc.text ++ rest := by
  obtain ⟨byte, more, shape, large, -⟩ := document_head doc
  rw [shape, List.cons_append, skipSpace_solid _ (isSpace_large large)]

theorem itemsText_length (items : List (Blank × Document × Blank)) :
    items.length ≤ (itemsText items).length := by
  induction items with
  | nil => exact Nat.zero_le _
  | cons item more ih =>
      obtain ⟨before, item, after⟩ := item
      obtain ⟨byte, tail, shape, -⟩ := document_head item
      rw [itemsText, shape]
      cases more with
      | nil =>
          simp only [List.length_cons, List.length_append, List.length_nil]
          omega
      | cons next others =>
          simp only [separated, List.length_cons, List.length_append] at ih ⊢
          omega

theorem membersText_length (members : List (Name × Document × Blank)) :
    members.length ≤ (membersText members).length := by
  induction members with
  | nil => exact Nat.zero_le _
  | cons member more ih =>
      obtain ⟨name, item, after⟩ := member
      obtain ⟨byte, tail, shape, -⟩ := document_head item
      rw [membersText, shape]
      cases more with
      | nil =>
          simp only [List.length_cons, List.length_append, List.length_nil]
          omega
      | cons next others =>
          simp only [separated, List.length_cons, List.length_append] at ih ⊢
          omega

theorem readItems_blank (depth fuel : Nat) (blank : Blank) (input : Bytes) :
    readItems (readValue depth) fuel (blank.text ++ input) =
      readItems (readValue depth) fuel input := by
  cases fuel with
  | zero => rfl
  | succ fuel => rw [readItems, readItems, readValue_blank]

theorem readMembers_blank (depth fuel : Nat) (blank : Blank) (input : Bytes) :
    readMembers (readValue depth) fuel (blank.text ++ input) =
      readMembers (readValue depth) fuel input := by
  cases fuel with
  | zero => rfl
  | succ fuel => rw [readMembers, readMembers, readName, readName, skipSpace_blank]

theorem readArray_items (depth : Nat) (space : Blank) (input : Bytes) {byte : UInt8} {more : Bytes}
    (shape : skipSpace input = byte :: more) (open_ : byte ≠ 93) :
    readArray (readValue depth) (space.text ++ input) =
      (readItems (readValue depth) (byte :: more).length input).map
        fun (items, rest) => (.array items, rest) := by
  obtain ⟨blank, split⟩ := skipSpace_split input
  have same := readItems_blank depth (byte :: more).length blank (skipSpace input)
  rw [← split, shape] at same
  simp only [readArray, skipSpace_blank, shape, if_neg open_, same]
  cases readItems (readValue depth) (byte :: more).length (byte :: more) <;> rfl

theorem readObject_members (depth : Nat) (space : Blank) (input : Bytes) {byte : UInt8} {more : Bytes}
    (shape : skipSpace input = byte :: more) (open_ : byte ≠ 125) :
    readObject (readValue depth) (space.text ++ input) =
      (readMembers (readValue depth) (byte :: more).length input).map
        fun (members, rest) => (.object members, rest) := by
  obtain ⟨blank, split⟩ := skipSpace_split input
  have same := readMembers_blank depth (byte :: more).length blank (skipSpace input)
  rw [← split, shape] at same
  simp only [readObject, skipSpace_blank, shape, if_neg open_, same]
  cases readMembers (readValue depth) (byte :: more).length (byte :: more) <;> rfl

theorem readItems_last (value : Reader Value) (fuel : Nat) {input behind rest : Bytes} {item : Value}
    (valued : value input = some (item, behind)) (closed : skipSpace behind = 93 :: rest) :
    readItems value (fuel + 1) input = some ([item], rest) := by
  simp [readItems, valued, closed]

theorem readItems_more (value : Reader Value) (fuel : Nat) {input behind later rest : Bytes}
    {item : Value} {more : List Value} (valued : value input = some (item, behind))
    (comma : skipSpace behind = 44 :: later)
    (others : readItems value fuel later = some (more, rest)) :
    readItems value (fuel + 1) input = some (item :: more, rest) := by
  simp [readItems, valued, comma, others]

theorem readMembers_end (value : Reader Value) (fuel : Nat) {input middle behind rest name : Bytes}
    {item : Value} (named : readName input = some (name, middle))
    (valued : value middle = some (item, behind)) (closed : skipSpace behind = 125 :: rest) :
    readMembers value (fuel + 1) input = some ([(name, item)], rest) := by
  simp [readMembers, named, valued, closed]

theorem readMembers_next (value : Reader Value) (fuel : Nat)
    {input middle behind later rest name : Bytes} {item : Value} {more : List (Bytes × Value)}
    (named : readName input = some (name, middle)) (valued : value middle = some (item, behind))
    (comma : skipSpace behind = 44 :: later)
    (others : readMembers value fuel later = some (more, rest)) :
    readMembers value (fuel + 1) input = some ((name, item) :: more, rest) := by
  simp [readMembers, named, valued, comma, others]

theorem skipSpace_mark (blank : Blank) (byte : UInt8) (rest : Bytes) (large : 32 < byte) :
    skipSpace (blank.text ++ byte :: rest) = byte :: rest := by
  rw [skipSpace_blank, skipSpace_solid _ (isSpace_large large)]

theorem separated_length {α : Type} (more : List α) {text : Bytes}
    (longer : more.length ≤ text.length) : more.length ≤ (separated more text).length := by
  cases more with
  | nil => exact Nat.zero_le _
  | cons next others =>
      rw [separated]
      exact Nat.le_succ_of_le longer

mutual

theorem read_document (doc : Document) (depth : Nat) (rest : Bytes) (enough : doc.depth ≤ depth)
    (stops : Stops rest) : readValue depth (doc.text ++ rest) = some (doc.value, rest) := by
  obtain ⟨depth, rfl⟩ : ∃ less, depth = less + 1 := by
    refine ⟨depth - 1, ?_⟩
    have some : 1 ≤ doc.depth := by cases doc <;> simp [Document.depth]
    omega
  match doc with
  | .null =>
      rw [Document.text, nullText, List.cons_append,
        readValue_scalar _ (by decide) (by decide) (by decide) (by decide)]
      rfl
  | .bool true =>
      rw [Document.text, if_pos rfl, trueText, List.cons_append,
        readValue_scalar _ (by decide) (by decide) (by decide) (by decide)]
      rfl
  | .bool false =>
      rw [Document.text, if_neg (by decide), falseText, List.cons_append,
        readValue_scalar _ (by decide) (by decide) (by decide) (by decide)]
      rfl
  | .number number =>
      obtain ⟨byte, more, shape, first⟩ := number_head number
      obtain ⟨solid, notObject, notArray, notString, -⟩ := number_first first
      have read := readScalar_number number stops
      rw [Document.text, shape, List.cons_append, readValue_scalar _ solid notObject notArray notString,
        ← List.cons_append, ← shape, read]
      rfl
  | .string quoted =>
      have read := (readString_iff (quoted.raw ++ quotationMark :: rest) quoted.text rest).mpr
        ⟨quoted.raw, rfl, quoted.spells⟩
      rw [Document.text, List.cons_append, List.append_assoc, List.singleton_append, readValue_string,
        read]
      rfl
  | .array space items =>
      rw [Document.depth] at enough
      have solid : isSpace 91 = false := by decide
      have notObject : ¬ (91 : UInt8) = 123 := by decide
      rw [Document.text, List.cons_append, readValue, skipSpace_solid _ solid]
      simp only [if_neg notObject, if_true, List.append_assoc, List.singleton_append]
      match items with
      | [] =>
          have closed := skipSpace_mark space 93 rest (by decide)
          simp only [itemsText, List.nil_append, readArray, closed, if_true]
          rfl
      | (before, item, after) :: more =>
          obtain ⟨byte, tail, shape, large, open_⟩ := document_head item
          have start : skipSpace (itemsText ((before, item, after) :: more) ++ 93 :: rest) =
              byte :: (tail ++ (after.text ++ (separated more (itemsText more) ++ 93 :: rest))) := by
            rw [itemsText, List.append_assoc, skipSpace_blank, List.append_assoc, skipSpace_document,
              shape, List.append_assoc]
            rfl
          have longer := separated_length more (itemsText_length more)
          rw [readArray_items depth space _ start open_, read_items _ depth _ rest (by simp) (by omega)
            (by simp only [List.length_cons, List.length_append]; omega)]
          rfl
  | .object space members =>
      rw [Document.depth] at enough
      have solid : isSpace 123 = false := by decide
      rw [Document.text, List.cons_append, readValue, skipSpace_solid _ solid]
      simp only [if_true, List.append_assoc, List.singleton_append]
      match members with
      | [] =>
          have closed := skipSpace_mark space 125 rest (by decide)
          simp only [membersText, List.nil_append, readObject, closed, if_true]
          rfl
      | (name, item, after) :: more =>
          have open_ : quotationMark ≠ 125 := by decide
          obtain ⟨byte, tail, shape, -⟩ := document_head item
          have start : skipSpace (membersText ((name, item, after) :: more) ++ 125 :: rest) =
              quotationMark :: (name.name.raw ++ quotationMark :: (name.after.text ++
                58 :: (name.behind.text ++ (byte :: (tail ++ (after.text ++
                  (separated more (membersText more) ++ 125 :: rest))))))) := by
            rw [membersText, Name.text, List.append_assoc, List.append_assoc, skipSpace_blank,
              List.cons_append, skipSpace_solid _ (by decide), shape]
            simp only [List.append_assoc, List.cons_append]
          have longer := separated_length more (membersText_length more)
          rw [readObject_members depth space _ start open_,
            read_members _ depth _ rest (by simp) (by omega)
            (by simp only [List.length_cons, List.length_append]; omega)]
          rfl

theorem read_items (items : List (Blank × Document × Blank)) (depth fuel : Nat) (rest : Bytes)
    (some : items ≠ []) (enough : itemsDepth items ≤ depth) (size : items.length ≤ fuel) :
    readItems (readValue depth) fuel (itemsText items ++ 93 :: rest) =
      .some (itemsValue items, rest) := by
  match items with
  | (before, item, after) :: more =>
      obtain ⟨fuel, rfl⟩ : ∃ less, fuel = less + 1 := ⟨fuel - 1, by simp at size; omega⟩
      rw [itemsDepth] at enough
      rw [itemsText, List.append_assoc, readItems_blank, List.append_assoc, List.append_assoc]
      match more with
      | [] =>
          exact readItems_last (readValue depth) fuel
            (read_document item depth (after.text ++ 93 :: rest) (by omega)
              (stops_blank after rest (by decide)))
            (skipSpace_mark after _ rest (by decide))
      | next :: others =>
          have later := read_items (next :: others) depth fuel rest (by simp) (by omega)
            (Nat.le_of_succ_le_succ size)
          exact readItems_more (readValue depth) fuel
            (read_document item depth
              (after.text ++ 44 :: (itemsText (next :: others) ++ 93 :: rest)) (by omega)
              (stops_blank after _ (by decide)))
            (skipSpace_mark after _ _ (by decide)) later

theorem read_members (members : List (Name × Document × Blank)) (depth fuel : Nat) (rest : Bytes)
    (some : members ≠ []) (enough : membersDepth members ≤ depth) (size : members.length ≤ fuel) :
    readMembers (readValue depth) fuel (membersText members ++ 125 :: rest) =
      .some (membersValue members, rest) := by
  match members with
  | (name, item, after) :: more =>
      obtain ⟨fuel, rfl⟩ : ∃ less, fuel = less + 1 := ⟨fuel - 1, by simp at size; omega⟩
      rw [membersDepth] at enough
      rw [membersText, List.append_assoc, List.append_assoc, List.append_assoc]
      have named := readName_text name
      match more with
      | [] =>
          have read := read_document item depth (after.text ++ 125 :: rest) (by omega)
            (stops_blank after rest (by decide))
          rw [← readValue_blank depth name.behind] at read
          exact readMembers_end (readValue depth) fuel (named _) read
            (skipSpace_mark after _ rest (by decide))
      | next :: others =>
          have later := read_members (next :: others) depth fuel rest (by simp) (by omega)
            (Nat.le_of_succ_le_succ size)
          have read := read_document item depth
            (after.text ++ 44 :: (membersText (next :: others) ++ 125 :: rest)) (by omega)
            (stops_blank after _ (by decide))
          rw [← readValue_blank depth name.behind] at read
          exact readMembers_next (readValue depth) fuel (named _) read
            (skipSpace_mark after _ _ (by decide)) later

end

/-! What is read is the text of a document. -/

theorem word_spec {spelling input rest : Bytes} (read : word spelling input = some rest) :
    input = spelling ++ rest := by
  unfold word at read
  split at read
  · rename_i front
    obtain ⟨tail, rfl⟩ := List.isPrefixOf_iff_prefix.mp front
    rw [List.drop_left] at read
    rw [Option.some.inj read]
  · cases read

theorem readScalar_spec {input rest : Bytes} {value : Value}
    (read : readScalar input = some (value, rest)) :
    ∃ doc : Document, input = doc.text ++ rest ∧ doc.value = value := by
  unfold readScalar at read
  split at read
  · rename_i behind found
    cases read
    exact ⟨.bool true, word_spec found, rfl⟩
  · split at read
    · rename_i behind found
      cases read
      exact ⟨.bool false, word_spec found, rfl⟩
    · split at read
      · rename_i behind found
        cases read
        exact ⟨.null, word_spec found, rfl⟩
      · simp only [bind, Option.bind_eq_some_iff] at read
        obtain ⟨⟨text, behind⟩, found, same⟩ := read
        cases same
        obtain ⟨number, rfl, split⟩ := readNumber_spec found
        exact ⟨.number number, split, rfl⟩

theorem readName_spec {input text rest : Bytes} (read : readName input = some (text, rest)) :
    ∃ name : Name, name.behind.text = [] ∧ input = name.text ++ rest ∧ name.name.text = text := by
  obtain ⟨before, split⟩ := skipSpace_split input
  unfold readName at read
  split at read
  · cases read
  · rename_i byte behind shape
    split at read
    · rename_i quote
      simp only [bind, Option.bind_eq_some_iff] at read
      obtain ⟨⟨found, middle⟩, string, continued⟩ := read
      obtain ⟨raw, rfl, spells⟩ := (readString_iff _ _ _).mp string
      obtain ⟨after, more⟩ := skipSpace_split middle
      split at continued
      · cases continued
      · rename_i mark last colon
        split at continued
        · rename_i same
          subst same
          cases continued
          refine ⟨⟨before, ⟨raw, _, spells⟩, after, ⟨[], by simp⟩⟩, rfl, ?_, rfl⟩
          rw [split, shape, quote, more, colon]
          simp [Name.text]
        · cases continued
    · cases read

theorem readItems_cases {value : Reader Value} {fuel : Nat} {input rest : Bytes} {items : List Value}
    (read : readItems value (fuel + 1) input = some (items, rest)) :
    ∃ item behind, value input = some (item, behind) ∧
      ((items = [item] ∧ skipSpace behind = 93 :: rest) ∨
        ∃ later more, skipSpace behind = 44 :: later ∧
          readItems value fuel later = some (more, rest) ∧ items = item :: more) := by
  rw [readItems] at read
  simp only [bind, Option.bind_eq_some_iff] at read
  obtain ⟨⟨item, behind⟩, valued, continued⟩ := read
  refine ⟨item, behind, valued, ?_⟩
  split at continued
  · cases continued
  · rename_i byte later space
    split at continued
    · rename_i comma
      simp only [Option.bind_eq_some_iff] at continued
      obtain ⟨⟨more, last⟩, others, same⟩ := continued
      cases same
      exact Or.inr ⟨later, more, comma ▸ space, others, rfl⟩
    · split at continued
      · rename_i closed
        cases continued
        exact Or.inl ⟨rfl, closed ▸ space⟩
      · cases continued

theorem readMembers_cases {value : Reader Value} {fuel : Nat} {input rest : Bytes}
    {members : List (Bytes × Value)} (read : readMembers value (fuel + 1) input = some (members, rest)) :
    ∃ name middle item behind, readName input = some (name, middle) ∧
      value middle = some (item, behind) ∧
      ((members = [(name, item)] ∧ skipSpace behind = 125 :: rest) ∨
        ∃ later more, skipSpace behind = 44 :: later ∧
          readMembers value fuel later = some (more, rest) ∧ members = (name, item) :: more) := by
  rw [readMembers] at read
  simp only [bind, Option.bind_eq_some_iff] at read
  obtain ⟨⟨name, middle⟩, named, ⟨item, behind⟩, valued, continued⟩ := read
  refine ⟨name, middle, item, behind, named, valued, ?_⟩
  split at continued
  · cases continued
  · rename_i byte later space
    split at continued
    · rename_i comma
      simp only [Option.bind_eq_some_iff] at continued
      obtain ⟨⟨more, last⟩, others, same⟩ := continued
      cases same
      exact Or.inr ⟨later, more, comma ▸ space, others, rfl⟩
    · split at continued
      · rename_i closed
        cases continued
        exact Or.inl ⟨rfl, closed ▸ space⟩
      · cases continued

/-- What a reader accepts is the text of a document behind blanks. -/
def Sound (read : Reader Value) : Prop :=
  ∀ input value rest, read input = some (value, rest) →
    ∃ (before : Blank) (doc : Document), input = before.text ++ (doc.text ++ rest) ∧ doc.value = value

theorem items_of_read {value : Reader Value} (sound : Sound value) (fuel : Nat) (input rest : Bytes)
    (values : List Value) (read : readItems value fuel input = some (values, rest)) :
    ∃ items, items ≠ [] ∧ input = itemsText items ++ 93 :: rest ∧ itemsValue items = values := by
  induction fuel generalizing input values with
  | zero => cases read
  | succ fuel ih =>
      obtain ⟨item, behind, valued, continued⟩ := readItems_cases read
      obtain ⟨before, doc, rfl, rfl⟩ := sound _ _ _ valued
      obtain ⟨after, split⟩ := skipSpace_split behind
      rcases continued with ⟨rfl, closed⟩ | ⟨later, more, comma, others, rfl⟩
      · refine ⟨[(before, doc, after)], by simp, ?_, rfl⟩
        rw [split, closed]
        simp [itemsText, separated]
      · obtain ⟨items, some, rfl, rfl⟩ := ih later more others
        obtain ⟨next, tail, rfl⟩ := List.exists_cons_of_ne_nil some
        refine ⟨(before, doc, after) :: next :: tail, by simp, ?_, rfl⟩
        have text : itemsText ((before, doc, after) :: next :: tail) =
            before.text ++ (doc.text ++ (after.text ++ 44 :: itemsText (next :: tail))) := rfl
        rw [split, comma, text]
        simp only [List.append_assoc, List.cons_append]

theorem members_of_read {value : Reader Value} (sound : Sound value) (fuel : Nat)
    (input rest : Bytes) (values : List (Bytes × Value))
    (read : readMembers value fuel input = some (values, rest)) :
    ∃ members, members ≠ [] ∧ input = membersText members ++ 125 :: rest ∧
      membersValue members = values := by
  induction fuel generalizing input values with
  | zero => cases read
  | succ fuel ih =>
      obtain ⟨name, middle, item, behind, named, valued, continued⟩ := readMembers_cases read
      obtain ⟨⟨before, quoted, colon, _⟩, _, rfl, rfl⟩ := readName_spec named
      obtain ⟨blank, doc, rfl, rfl⟩ := sound _ _ _ valued
      obtain ⟨after, split⟩ := skipSpace_split behind
      rename_i none
      rcases continued with ⟨rfl, closed⟩ | ⟨later, more, comma, others, rfl⟩
      · refine ⟨[(⟨before, quoted, colon, blank⟩, doc, after)], by simp, ?_, rfl⟩
        rw [split, closed]
        simp only at none
        simp [membersText, separated, Name.text, none]
      · obtain ⟨members, some, rfl, rfl⟩ := ih later more others
        obtain ⟨next, tail, rfl⟩ := List.exists_cons_of_ne_nil some
        refine ⟨(⟨before, quoted, colon, blank⟩, doc, after) :: next :: tail, by simp, ?_, rfl⟩
        have text : membersText ((⟨before, quoted, colon, blank⟩, doc, after) :: next :: tail) =
            Name.text ⟨before, quoted, colon, blank⟩ ++
              (doc.text ++ (after.text ++ 44 :: membersText (next :: tail))) := rfl
        simp only at none
        rw [split, comma, text]
        simp only [Name.text, none, List.append_assoc, List.cons_append, List.nil_append]

theorem readValue_sound (depth : Nat) : Sound (readValue depth) := by
  induction depth with
  | zero =>
      intro input value rest read
      cases read
  | succ depth ih =>
      intro input value rest read
      obtain ⟨before, split⟩ := skipSpace_split input
      refine ⟨before, ?_⟩
      rw [readValue] at read
      split at read
      · cases read
      · rename_i byte tail shape
        rw [shape] at split
        split at read
        · rename_i object
          obtain ⟨space, behind⟩ := skipSpace_split tail
          unfold readObject at read
          split at read
          · cases read
          · rename_i first more inner
            rw [inner] at behind
            split at read
            · rename_i closed
              cases read
              exact ⟨.object space [], by rw [split, object, behind, closed]; simp [Document.text,
                membersText], rfl⟩
            · simp only [bind, Option.bind_eq_some_iff] at read
              obtain ⟨⟨values, last⟩, found, same⟩ := read
              cases same
              obtain ⟨members, -, whole, rfl⟩ := members_of_read ih _ _ _ _ found
              exact ⟨.object space members, by rw [split, object, behind, whole]; simp [Document.text],
                rfl⟩
        · split at read
          · rename_i array
            obtain ⟨space, behind⟩ := skipSpace_split tail
            unfold readArray at read
            split at read
            · cases read
            · rename_i first more inner
              rw [inner] at behind
              split at read
              · rename_i closed
                cases read
                exact ⟨.array space [], by rw [split, array, behind, closed]; simp [Document.text,
                  itemsText], rfl⟩
              · simp only [bind, Option.bind_eq_some_iff] at read
                obtain ⟨⟨values, last⟩, found, same⟩ := read
                cases same
                obtain ⟨items, -, whole, rfl⟩ := items_of_read ih _ _ _ _ found
                exact ⟨.array space items, by rw [split, array, behind, whole]; simp [Document.text],
                  rfl⟩
          · split at read
            · rename_i quote
              simp only [bind, Option.bind_eq_some_iff] at read
              obtain ⟨⟨text, last⟩, found, same⟩ := read
              cases same
              obtain ⟨raw, rfl, spells⟩ := (readString_iff _ _ _).mp found
              exact ⟨.string ⟨raw, text, spells⟩, by rw [split, quote]; simp [Document.text], rfl⟩
            · obtain ⟨doc, whole, same⟩ := readScalar_spec read
              exact ⟨doc, by rw [split, whole], same⟩

mutual

theorem depth_le (doc : Document) : doc.depth ≤ doc.text.length := by
  match doc with
  | .null => exact (by decide : 1 ≤ nullText.length)
  | .bool true => exact (by decide : 1 ≤ trueText.length)
  | .bool false => exact (by decide : 1 ≤ falseText.length)
  | .number number =>
      obtain ⟨byte, more, shape, -⟩ := number_head number
      rw [Document.text, shape]
      exact Nat.succ_le_succ (Nat.zero_le _)
  | .string quoted =>
      rw [Document.text]
      exact Nat.succ_le_succ (Nat.zero_le _)
  | .array space items =>
      have inside := itemsDepth_le items
      simp only [Document.depth, Document.text, List.length_cons, List.length_append]
      omega
  | .object space members =>
      have inside := membersDepth_le members
      simp only [Document.depth, Document.text, List.length_cons, List.length_append]
      omega

theorem itemsDepth_le (items : List (Blank × Document × Blank)) :
    itemsDepth items ≤ (itemsText items).length := by
  match items with
  | [] => exact Nat.le_refl _
  | (before, item, after) :: more =>
      have first := depth_le item
      have others := itemsDepth_le more
      simp only [itemsDepth, itemsText, List.length_append]
      cases more with
      | nil =>
          simp only [itemsDepth]
          omega
      | cons next tail =>
          simp only [separated, List.length_cons]
          omega

theorem membersDepth_le (members : List (Name × Document × Blank)) :
    membersDepth members ≤ (membersText members).length := by
  match members with
  | [] => exact Nat.le_refl _
  | (name, item, after) :: more =>
      have first := depth_le item
      have others := membersDepth_le more
      simp only [membersDepth, membersText, List.length_append]
      cases more with
      | nil =>
          simp only [membersDepth]
          omega
      | cons next tail =>
          simp only [separated, List.length_cons]
          omega

end

theorem skipSpace_nil_iff (input : Bytes) : (skipSpace input).isEmpty ↔ ∃ blank : Blank, input = blank.text := by
  constructor
  · intro nothing
    obtain ⟨blank, split⟩ := skipSpace_split input
    rw [List.isEmpty_iff.mp nothing, List.append_nil] at split
    exact ⟨blank, split⟩
  · rintro ⟨blank, rfl⟩
    have skipped := skipSpace_blank blank []
    rw [List.append_nil] at skipped
    rw [skipped]
    rfl

theorem stops_blanks (blank : Blank) : Stops blank.text := by
  intro byte first
  exact isSpace_stops (blank.spaces byte (List.mem_of_mem_head? first))

/-- The JSON texts are the documents between blanks, in UTF-8. -/
theorem decode_iff (text : Bytes) (value : Value) :
    decode text = some value ↔ IsUtf8 text ∧ ∃ (before : Blank) (doc : Document) (after : Blank),
      text = before.text ++ (doc.text ++ after.text) ∧ doc.value = value := by
  constructor
  · intro decoded
    unfold decode at decoded
    split at decoded
    · rename_i utf8
      split at decoded
      · rename_i found rest read
        split at decoded
        · rename_i nothing
          cases decoded
          obtain ⟨before, doc, split, same⟩ := readValue_sound _ _ _ _ read
          obtain ⟨after, rfl⟩ := (skipSpace_nil_iff rest).mp nothing
          exact ⟨utf8, before, doc, after, split, same⟩
        · cases decoded
      · cases decoded
    · cases decoded
  · rintro ⟨utf8, before, doc, after, rfl, rfl⟩
    have enough : doc.depth ≤ (before.text ++ (doc.text ++ after.text)).length := by
      have least := depth_le doc
      simp only [List.length_append]
      omega
    have read := read_document doc _ after.text enough (stops_blanks after)
    rw [← readValue_blank _ before] at read
    have nothing := (skipSpace_nil_iff after.text).mpr ⟨after, rfl⟩
    rw [decode, if_pos utf8, read]
    simp only [if_pos nothing]

/-! The bytes of a document: none is zero, and only strings have bytes beyond ASCII. -/

theorem numeral_ascii {byte : UInt8} (numeral : numeralByte byte = true) : byte < 128 ∧ byte ≠ 0 := by
  simp only [numeralByte, isdigit, Bool.or_eq_true, Bool.and_eq_true, decide_eq_true_eq,
    UInt8.le_iff_toNat_le, ← UInt8.toNat_inj] at numeral
  simp only [UInt8.lt_iff_toNat_lt, ne_eq, ← UInt8.toNat_inj]
  simp only [UInt8.reduceToNat] at numeral ⊢
  omega

theorem blank_ascii (blank : Blank) : Ascii blank.text ∧ 0 ∉ blank.text := by
  constructor
  · intro byte member
    exact UInt8.lt_of_le_of_lt (isSpace_small (blank.spaces byte member)) (by decide)
  · intro member
    exact absurd (blank.spaces 0 member) (by decide)

theorem number_ascii (number : Number) :
    Ascii number.spelling.text ∧ 0 ∉ number.spelling.text := by
  have all := text_numeralByte number.proper
  exact ⟨fun byte member => (numeral_ascii (all byte member)).1,
    fun member => (numeral_ascii (all 0 member)).2 rfl⟩

theorem name_noNul (name : Name) : 0 ∉ name.text := by
  have quote : (0 : UInt8) ≠ quotationMark := by decide
  have colon : (0 : UInt8) ≠ 58 := by decide
  simp [Name.text, (blank_ascii name.before).2, (blank_ascii name.after).2,
    (blank_ascii name.behind).2, spells_noNul name.name.spells, quote, colon]

theorem separated_noNul {α : Type} (more : List α) {text : Bytes} (others : 0 ∉ text) :
    0 ∉ separated more text := by
  cases more with
  | nil => exact List.not_mem_nil
  | cons next tail =>
      have comma : (0 : UInt8) ≠ 44 := by decide
      simp [separated, comma, others]

mutual

theorem document_noNul (doc : Document) : 0 ∉ doc.text := by
  match doc with
  | .null => exact (by decide : 0 ∉ nullText)
  | .bool true => exact (by decide : 0 ∉ trueText)
  | .bool false => exact (by decide : 0 ∉ falseText)
  | .number number => exact (number_ascii number).2
  | .string quoted =>
      have quote : (0 : UInt8) ≠ quotationMark := by decide
      simp [Document.text, spells_noNul quoted.spells, quote]
  | .array space items =>
      simp [Document.text, (blank_ascii space).2, itemsText_noNul items]
  | .object space members =>
      simp [Document.text, (blank_ascii space).2, membersText_noNul members]

theorem itemsText_noNul (items : List (Blank × Document × Blank)) : 0 ∉ itemsText items := by
  match items with
  | [] => exact List.not_mem_nil
  | (before, item, after) :: more =>
      simp [itemsText, (blank_ascii before).2, document_noNul item, (blank_ascii after).2,
        separated_noNul more (itemsText_noNul more)]

theorem membersText_noNul (members : List (Name × Document × Blank)) : 0 ∉ membersText members := by
  match members with
  | [] => exact List.not_mem_nil
  | (name, item, after) :: more =>
      simp [membersText, name_noNul name, document_noNul item, (blank_ascii after).2,
        separated_noNul more (membersText_noNul more)]

end

/-- The bytes of every string are UTF-8. -/
def Quoted.Encoded (quoted : Quoted) : Prop := IsUtf8 quoted.raw

mutual

def Document.Encoded : Document → Prop
  | .string quoted => quoted.Encoded
  | .array _ items => ItemsEncoded items
  | .object _ members => MembersEncoded members
  | _ => True

def ItemsEncoded : List (Blank × Document × Blank) → Prop
  | [] => True
  | (_, item, _) :: more => item.Encoded ∧ ItemsEncoded more

def MembersEncoded : List (Name × Document × Blank) → Prop
  | [] => True
  | (name, item, _) :: more => name.name.Encoded ∧ item.Encoded ∧ MembersEncoded more

end

theorem scan_front {front : Bytes} (ascii : Ascii front) (rest : Bytes) :
    scan {} (front ++ rest) = scan {} rest := by
  rw [scan_append, scan_ascii front ascii, Option.bind_some]

theorem scan_mark {byte : UInt8} (ascii : byte < 128) (rest : Bytes) :
    scan {} (byte :: rest) = scan {} rest := by
  have front : Ascii [byte] := by simpa [Ascii] using ascii
  exact scan_front front rest

/-- A string between ASCII bytes is read from the state between characters to it. -/
theorem scan_quoted (raw rest : Bytes) (final : Owed) :
    scan {} (quotationMark :: (raw ++ quotationMark :: rest)) = some final ↔
      IsUtf8 raw ∧ scan {} rest = some final := by
  have quote : quotationMark < 128 := by decide
  rw [scan_mark quote, scan_append]
  constructor
  · intro read
    obtain ⟨owed, first, later⟩ := Option.bind_eq_some_iff.mp read
    rw [scan_cons] at later
    obtain ⟨after, mark, last⟩ := Option.bind_eq_some_iff.mp later
    have proper := scan_proper raw {} owed ⟨by decide, fun _ => rfl⟩ first
    have settled := continue_ascii owed after quotationMark quote proper mark
    subst settled
    have same : after = {} := by
      cases mark
      rfl
    rw [same] at last
    exact ⟨first, last⟩
  · rintro ⟨valid, last⟩
    rw [valid, Option.bind_some, scan_mark quote, last]

theorem scan_name (name : Name) (rest : Bytes) (final : Owed) :
    scan {} (name.text ++ rest) = some final ↔
      name.name.Encoded ∧ scan {} rest = some final := by
  have colon : (58 : UInt8) < 128 := by decide
  simp only [Name.text, List.append_assoc, List.cons_append]
  rw [scan_front (blank_ascii _).1, scan_quoted, scan_front (blank_ascii _).1, scan_mark colon,
    scan_front (blank_ascii _).1]
  rfl

mutual

theorem scan_document (doc : Document) (rest : Bytes) (final : Owed) :
    scan {} (doc.text ++ rest) = some final ↔ doc.Encoded ∧ scan {} rest = some final := by
  match doc with
  | .null => simp [Document.text, scan_front (by decide : Ascii nullText), Document.Encoded]
  | .bool true => simp [Document.text, scan_front (by decide : Ascii trueText), Document.Encoded]
  | .bool false => simp [Document.text, scan_front (by decide : Ascii falseText), Document.Encoded]
  | .number number => simp [Document.text, scan_front (number_ascii number).1, Document.Encoded]
  | .string quoted =>
      rw [Document.text, List.cons_append, List.append_assoc, List.singleton_append, scan_quoted]
      rfl
  | .array space items =>
      rw [Document.text, List.cons_append, scan_mark (by decide), List.append_assoc,
        scan_front (blank_ascii _).1, List.append_assoc, scan_items items, List.singleton_append,
        scan_mark (by decide)]
      rfl
  | .object space members =>
      rw [Document.text, List.cons_append, scan_mark (by decide), List.append_assoc,
        scan_front (blank_ascii _).1, List.append_assoc, scan_members members, List.singleton_append,
        scan_mark (by decide)]
      rfl

theorem scan_items (items : List (Blank × Document × Blank)) (rest : Bytes) (final : Owed) :
    scan {} (itemsText items ++ rest) = some final ↔
      ItemsEncoded items ∧ scan {} rest = some final := by
  match items with
  | [] => simp [itemsText, ItemsEncoded]
  | (before, item, after) :: more =>
      have later : scan {} (separated more (itemsText more) ++ rest) = some final ↔
          ItemsEncoded more ∧ scan {} rest = some final := by
        match more with
        | [] => exact scan_items [] rest final
        | next :: others =>
            rw [separated, List.cons_append, scan_mark (by decide)]
            exact scan_items (next :: others) rest final
      rw [itemsText, List.append_assoc, scan_front (blank_ascii _).1, List.append_assoc,
        scan_document item, List.append_assoc, scan_front (blank_ascii _).1, later, ItemsEncoded,
        and_assoc]

theorem scan_members (members : List (Name × Document × Blank)) (rest : Bytes) (final : Owed) :
    scan {} (membersText members ++ rest) = some final ↔
      MembersEncoded members ∧ scan {} rest = some final := by
  match members with
  | [] => simp [membersText, MembersEncoded]
  | (name, item, after) :: more =>
      have later : scan {} (separated more (membersText more) ++ rest) = some final ↔
          MembersEncoded more ∧ scan {} rest = some final := by
        match more with
        | [] => exact scan_members [] rest final
        | next :: others =>
            rw [separated, List.cons_append, scan_mark (by decide)]
            exact scan_members (next :: others) rest final
      rw [membersText, List.append_assoc, scan_name, List.append_assoc, scan_document item,
        List.append_assoc, scan_front (blank_ascii _).1, later, MembersEncoded, and_assoc, and_assoc]

end

/-- A document is UTF-8 if its strings are. -/
theorem isUtf8_document (before : Blank) (doc : Document) (after : Blank) :
    IsUtf8 (before.text ++ (doc.text ++ after.text)) ↔ doc.Encoded := by
  have behind : scan {} after.text = some {} := scan_ascii _ (blank_ascii after).1
  rw [IsUtf8, scan_front (blank_ascii _).1, scan_document, behind]
  simp

end JsonDocuments

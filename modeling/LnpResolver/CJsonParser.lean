import LnpResolver.Doubles
import LnpResolver.JsonItems
import LnpResolver.JsonSpellings

/-!
The parser of libs/cJSON.c on what is left of a text. The text is a C string
without its terminator, so it holds no NUL byte; what the code does at the
terminator is done here at the end of the list. Recursion over values is bounded by
CJSON_NESTING_LIMIT, the loops over elements by the length of the text.
-/

namespace LnpResolver.CJsonParser

open PackedBytes CStrings DecimalNumerals Doubles RequestWire JsonItems

inductive Item where
  | null
  | bool (value : Bool)
  | number (valuedouble : Double)
  | string (valuestring : Bytes)
  | array (items : List Item)
  | object (members : List (Bytes × Item))

abbrev Parser (α : Type) := Bytes → Option (α × Bytes)

def cjsonNestingLimit : Nat := 1000

/-- Every byte up to the space is skipped. -/
def skipWhitespace (text : Bytes) : Bytes := text.dropWhile (· ≤ 32)

/-- The mark is skipped if a byte follows it. -/
def skipUtf8Bom (text : Bytes) : Bytes :=
  if 4 ≤ text.length ∧ text.take 3 = [239, 187, 191] then text.drop 3 else text

/-! Strings. -/

/-- The loop over the digits that are left, with what was read so far. -/
def parseHex : Nat → Nat → Bytes → Nat
  | 0, h, _ => h
  | _ + 1, _, [] => 0
  | left + 1, h, byte :: rest =>
      match hexDigit byte with
      | none => 0
      | some digit => parseHex left (if 0 < left then (h + digit) <<< 4 else h + digit) rest

/-- A digit that is none makes the number 0. -/
def parseHex4 (input : Bytes) : Nat := parseHex 4 0 input

/-- The continuation bytes are stored from the last to the second; what is left of the
code goes into the first byte. -/
def continuation : Nat → Nat → Bytes → Nat × Bytes
  | 0, codepoint, stored => (codepoint, stored)
  | position + 1, codepoint, stored =>
      continuation position (codepoint >>> 6)
        (UInt8.ofNat ((codepoint ||| 0x80) &&& 0xBF) :: stored)

def encodeWith (length firstByteMark codepoint : Nat) : Bytes :=
  let (left, stored) := continuation (length - 1) codepoint []
  UInt8.ofNat ((left ||| firstByteMark) &&& 0xFF) :: stored

def encodeUtf8 (codepoint : Nat) : Option Bytes :=
  if codepoint < 0x80 then some [UInt8.ofNat (codepoint &&& 0x7F)]
  else if codepoint < 0x800 then some (encodeWith 2 0xC0 codepoint)
  else if codepoint < 0x10000 then some (encodeWith 3 0xE0 codepoint)
  else if codepoint ≤ 0x10FFFF then some (encodeWith 4 0xF0 codepoint)
  else none

/-- The length of the sequence and the bytes it stands for. The input goes from the
reverse solidus to the end of the string. -/
def utf16LiteralToUtf8 (input : Bytes) : Option (Nat × Bytes) :=
  if input.length < 6 then none
  else
    let firstCode := parseHex4 (input.drop 2)
    if 0xDC00 ≤ firstCode ∧ firstCode ≤ 0xDFFF then none
    else if 0xD800 ≤ firstCode ∧ firstCode ≤ 0xDBFF then
      let second := input.drop 6
      if second.length < 6 then none
      else if second.take 2 ≠ [92, 117] then none
      else
        let secondCode := parseHex4 (second.drop 2)
        if secondCode < 0xDC00 ∨ 0xDFFF < secondCode then none
        else
          (encodeUtf8 (0x10000 + (((firstCode &&& 0x3FF) <<< 10) ||| (secondCode &&& 0x3FF)))).map
            fun output => (12, output)
    else (encodeUtf8 firstCode).map fun output => (6, output)

/-- The bytes up to the quotation mark that ends a string, and what follows it. A
reverse solidus takes the next byte with it. -/
def scanString : Bytes → Option (Bytes × Bytes)
  | [] => none
  | byte :: rest =>
      if byte = 34 then some ([], rest)
      else if byte = 92 then
        match rest with
        | [] => none
        | escaped :: rest => (scanString rest).map fun (raw, rest) => (byte :: escaped :: raw, rest)
      else (scanString rest).map fun (raw, rest) => (byte :: raw, rest)

def escapedChar (letter : UInt8) : Option UInt8 :=
  if letter = 98 then some 8
  else if letter = 102 then some 12
  else if letter = 110 then some 10
  else if letter = 114 then some 13
  else if letter = 116 then some 9
  else if letter = 34 ∨ letter = 92 ∨ letter = 47 then some letter
  else none

/-- The loop through the string literal. Behind its last byte stands the closing
quotation mark, which is read if the last byte is a reverse solidus. -/
def unescapeWithin : Nat → Bytes → Option Bytes
  | 0, _ => none
  | _ + 1, [] => some []
  | fuel + 1, byte :: rest =>
      if byte ≠ 92 then (unescapeWithin fuel rest).map (byte :: ·)
      else
        let letter := rest.head?.getD 34
        match escapedChar letter with
        | some output => (unescapeWithin fuel (rest.drop 1)).map (output :: ·)
        | none =>
            if letter = 117 then
              match utf16LiteralToUtf8 (byte :: rest) with
              | none => none
              | some (sequenceLength, output) =>
                  (unescapeWithin fuel ((byte :: rest).drop sequenceLength)).map (output ++ ·)
            else none

/-- Every turn takes a byte, so the length bounds the turns. -/
def unescape (raw : Bytes) : Option Bytes := unescapeWithin (raw.length + 1) raw

/-- The value is a C string: what follows a NUL byte in the output is not seen. -/
def parseString : Parser Bytes
  | [] => none
  | byte :: rest =>
      if byte ≠ 34 then none
      else
        match scanString rest with
        | none => none
        | some (raw, rest) => (unescape raw).map fun output => (cString output, rest)

/-! Numbers. -/

/-- What is copied for strtod: at most 63 bytes of a number. -/
def numberCString (text : Bytes) : Bytes := (text.takeWhile numeralByte).take 63

def parseNumber : Parser Double := fun text =>
  match strtod (numberCString text) with
  | none => none
  | some (number, afterEnd) =>
      some (number, text.drop ((numberCString text).length - afterEnd.length))

/-! Arrays and objects. -/

def parseElements (value : Parser Item) : Nat → Parser (List Item)
  | 0, _ => none
  | fuel + 1, text =>
      match value (skipWhitespace text) with
      | none => none
      | some (item, rest) =>
          match skipWhitespace rest with
          | [] => none
          | byte :: rest =>
              if byte = 44 then
                (parseElements value fuel rest).map fun (items, rest) => (item :: items, rest)
              else if byte = 93 then some ([item], rest)
              else none

def parseArray (value : Parser Item) (text : Bytes) : Option (Item × Bytes) :=
  match skipWhitespace text with
  | [] => none
  | byte :: rest =>
      if byte = 93 then some (.array [], rest)
      else
        (parseElements value text.length (byte :: rest)).map fun (items, rest) => (.array items, rest)

/-- The name of a member, its colon and its value. -/
def parseMember (value : Parser Item) : Parser (Bytes × Item) := fun text =>
  match parseString (skipWhitespace text) with
  | none => none
  | some (name, rest) =>
      match skipWhitespace rest with
      | [] => none
      | byte :: rest =>
          if byte = 58 then (value (skipWhitespace rest)).map fun (item, rest) => ((name, item), rest)
          else none

def parseMembers (value : Parser Item) : Nat → Parser (List (Bytes × Item))
  | 0, _ => none
  | fuel + 1, text =>
      match parseMember value text with
      | none => none
      | some (member, rest) =>
          match skipWhitespace rest with
          | [] => none
          | byte :: rest =>
              if byte = 44 then
                (parseMembers value fuel rest).map fun (members, rest) => (member :: members, rest)
              else if byte = 125 then some ([member], rest)
              else none

def parseObject (value : Parser Item) (text : Bytes) : Option (Item × Bytes) :=
  match skipWhitespace text with
  | [] => none
  | byte :: rest =>
      if byte = 125 then some (.object [], rest)
      else
        (parseMembers value text.length (byte :: rest)).map fun (members, rest) => (.object members, rest)

/-- `levels` is how much deeper arrays and objects may be nested. -/
def parseValue : Nat → Parser Item
  | levels, text =>
      if [110, 117, 108, 108].isPrefixOf text then some (.null, text.drop 4)
      else if [102, 97, 108, 115, 101].isPrefixOf text then some (.bool false, text.drop 5)
      else if [116, 114, 117, 101].isPrefixOf text then some (.bool true, text.drop 4)
      else
        match text with
        | [] => none
        | byte :: rest =>
            if byte = 34 then (parseString text).map fun (value, rest) => (.string value, rest)
            else if byte = 45 ∨ isdigit byte then
              (parseNumber text).map fun (number, rest) => (.number number, rest)
            else if byte = 91 then
              match levels with
              | 0 => none
              | less + 1 => parseArray (parseValue less) rest
            else if byte = 123 then
              match levels with
              | 0 => none
              | less + 1 => parseObject (parseValue less) rest
            else none

/-- What follows the value is not looked at. -/
def cJsonParse (data : Bytes) : Option Item :=
  (parseValue cjsonNestingLimit (skipWhitespace (skipUtf8Bom data))).map Prod.fst

/-! What a parser leaves is the end of what it was given, and less. -/

def Shrinks {α : Type} (parser : Parser α) : Prop :=
  ∀ text value rest, parser text = some (value, rest) →
    rest <:+ text ∧ rest.length < text.length

theorem skipWhitespace_suffix (text : Bytes) : skipWhitespace text <:+ text :=
  List.dropWhile_suffix _

theorem suffix_tail {text rest : Bytes} {byte : UInt8} (inside : byte :: rest <:+ text) :
    rest <:+ text ∧ rest.length < text.length :=
  ⟨(List.suffix_cons byte rest).trans inside, inside.length_le⟩

theorem suffix_skipped {text rest : Bytes} {byte : UInt8} (found : skipWhitespace text = byte :: rest) :
    rest <:+ text ∧ rest.length < text.length :=
  suffix_tail (found ▸ skipWhitespace_suffix text)

theorem suffix_trans {text middle rest : Bytes} (first : middle <:+ text ∧ middle.length < text.length)
    (second : rest <:+ middle) : rest <:+ text ∧ rest.length < text.length :=
  ⟨second.trans first.1, Nat.lt_of_le_of_lt second.length_le first.2⟩

theorem scanString_spec {text raw rest : Bytes} (found : scanString text = some (raw, rest)) :
    text = raw ++ 34 :: rest := by
  fun_induction scanString text generalizing raw rest with
  | case1 => cases found
  | case2 behind =>
      cases found
      rfl
  | case3 noQuote => cases found
  | case4 noQuote escaped behind ih =>
      obtain ⟨⟨more, last⟩, later, same⟩ := Option.map_eq_some_iff.mp found
      cases same
      rw [ih later]
      rfl
  | case5 byte behind noQuote noEscape ih =>
      obtain ⟨⟨more, last⟩, later, same⟩ := Option.map_eq_some_iff.mp found
      cases same
      rw [ih later]
      rfl

theorem parseString_shrinks : Shrinks parseString := by
  intro text value rest found
  unfold parseString at found
  split at found
  · cases found
  · split at found
    · cases found
    · rename_i byte behind quote
      split at found
      · cases found
      · rename_i raw last scanned
        obtain ⟨output, -, same⟩ := Option.map_eq_some_iff.mp found
        cases same
        rw [scanString_spec scanned]
        refine ⟨⟨byte :: (raw ++ [34]), by simp⟩, ?_⟩
        simp only [List.length_cons, List.length_append]
        omega

theorem numberCString_length (text : Bytes) : (numberCString text).length ≤ text.length :=
  ((List.take_sublist _ _).trans (List.takeWhile_sublist _)).length_le

theorem parseNumber_shrinks : Shrinks parseNumber := by
  intro text value rest found
  unfold parseNumber at found
  split at found
  · cases found
  · rename_i number afterEnd read
    cases found
    have shorter := (strtod_suffix read).2
    have window := numberCString_length text
    refine ⟨List.drop_suffix _ _, ?_⟩
    rw [List.length_drop]
    omega

theorem parseElements_shrinks {value : Parser Item} (shrinks : Shrinks value) (fuel : Nat) :
    Shrinks (parseElements value fuel) := by
  induction fuel with
  | zero =>
      intro text items rest found
      cases found
  | succ fuel ih =>
      intro text items rest found
      rw [parseElements] at found
      split at found
      · cases found
      · rename_i item behind first
        have item := suffix_trans (shrinks _ _ _ first) (List.suffix_refl _)
        have start : behind <:+ text ∧ behind.length < text.length :=
          ⟨item.1.trans (skipWhitespace_suffix text),
            Nat.lt_of_lt_of_le item.2 (skipWhitespace_suffix text).length_le⟩
        split at found
        · cases found
        · rename_i byte later skipped
          have next := suffix_trans start (suffix_skipped skipped).1
          split at found
          · obtain ⟨⟨more, last⟩, others, same⟩ := Option.map_eq_some_iff.mp found
            cases same
            exact suffix_trans next (ih _ _ _ others).1
          · split at found
            · cases found
              exact next
            · cases found

theorem parseMember_shrinks {value : Parser Item} (shrinks : Shrinks value) :
    Shrinks (parseMember value) := by
  intro text member rest found
  rw [parseMember] at found
  split at found
  · cases found
  · rename_i name behind first
    have named := parseString_shrinks _ _ _ first
    have start : behind <:+ text ∧ behind.length < text.length :=
      ⟨named.1.trans (skipWhitespace_suffix text),
        Nat.lt_of_lt_of_le named.2 (skipWhitespace_suffix text).length_le⟩
    split at found
    · cases found
    · rename_i byte later skipped
      have next := suffix_trans start (suffix_skipped skipped).1
      split at found
      · obtain ⟨⟨item, last⟩, valued, same⟩ := Option.map_eq_some_iff.mp found
        cases same
        exact suffix_trans next ((shrinks _ _ _ valued).1.trans (skipWhitespace_suffix later))
      · cases found

theorem parseMembers_shrinks {value : Parser Item} (shrinks : Shrinks value) (fuel : Nat) :
    Shrinks (parseMembers value fuel) := by
  induction fuel with
  | zero =>
      intro text members rest found
      cases found
  | succ fuel ih =>
      intro text members rest found
      rw [parseMembers] at found
      split at found
      · cases found
      · rename_i member behind first
        have start := parseMember_shrinks shrinks _ _ _ first
        split at found
        · cases found
        · rename_i byte later skipped
          have next := suffix_trans start (suffix_skipped skipped).1
          split at found
          · obtain ⟨⟨more, last⟩, others, same⟩ := Option.map_eq_some_iff.mp found
            cases same
            exact suffix_trans next (ih _ _ _ others).1
          · split at found
            · cases found
              exact next
            · cases found

theorem parseArray_shorter {value : Parser Item} (shrinks : Shrinks value) {text rest : Bytes}
    {item : Item} (found : parseArray value text = some (item, rest)) : rest <:+ text := by
  rw [parseArray] at found
  split at found
  · cases found
  · rename_i byte behind skipped
    split at found
    · cases found
      exact (suffix_skipped skipped).1
    · obtain ⟨⟨items, last⟩, inner, same⟩ := Option.map_eq_some_iff.mp found
      cases same
      exact (parseElements_shrinks shrinks _ _ _ _ inner).1.trans
        (skipped ▸ skipWhitespace_suffix text)

theorem parseObject_shorter {value : Parser Item} (shrinks : Shrinks value) {text rest : Bytes}
    {item : Item} (found : parseObject value text = some (item, rest)) : rest <:+ text := by
  rw [parseObject] at found
  split at found
  · cases found
  · rename_i byte behind skipped
    split at found
    · cases found
      exact (suffix_skipped skipped).1
    · obtain ⟨⟨items, last⟩, inner, same⟩ := Option.map_eq_some_iff.mp found
      cases same
      exact (parseMembers_shrinks shrinks _ _ _ _ inner).1.trans
        (skipped ▸ skipWhitespace_suffix text)

theorem word_shrinks {word text : Bytes} (filled : 1 ≤ word.length)
    (front : word.isPrefixOf text = true) :
    text.drop word.length <:+ text ∧ (text.drop word.length).length < text.length := by
  have shorter := (List.isPrefixOf_iff_prefix.mp front).length_le
  refine ⟨List.drop_suffix _ _, ?_⟩
  rw [List.length_drop]
  omega

/-- The values there are. -/
theorem parseValue_cases {levels : Nat} {text rest : Bytes} {item : Item}
    (found : parseValue levels text = some (item, rest)) :
    (∃ word : Bytes, 1 ≤ word.length ∧ word.isPrefixOf text = true ∧ rest = text.drop word.length) ∨
      (∃ valuestring, parseString text = some (valuestring, rest)) ∨
      (∃ number, parseNumber text = some (number, rest)) ∨
      ∃ less byte behind, levels = less + 1 ∧ text = byte :: behind ∧
        (parseArray (parseValue less) behind = some (item, rest) ∨
          parseObject (parseValue less) behind = some (item, rest)) := by
  unfold parseValue at found
  split at found
  · rename_i front
    cases found
    exact Or.inl ⟨_, by decide, front, rfl⟩
  · split at found
    · rename_i front
      cases found
      exact Or.inl ⟨_, by decide, front, rfl⟩
    · split at found
      · rename_i front
        cases found
        exact Or.inl ⟨_, by decide, front, rfl⟩
      · right
        split at found
        · cases found
        · rename_i byte behind
          split at found
          · obtain ⟨⟨valuestring, last⟩, string, same⟩ := Option.map_eq_some_iff.mp found
            cases same
            exact Or.inl ⟨valuestring, string⟩
          · right
            split at found
            · obtain ⟨⟨number, last⟩, read, same⟩ := Option.map_eq_some_iff.mp found
              cases same
              exact Or.inl ⟨number, read⟩
            · right
              split at found
              · split at found
                · cases found
                · rename_i less
                  exact ⟨less, _, _, rfl, rfl, Or.inl found⟩
              · split at found
                · split at found
                  · cases found
                  · rename_i less
                    exact ⟨less, _, _, rfl, rfl, Or.inr found⟩
                · cases found

theorem parseValue_shrinks (levels : Nat) : Shrinks (parseValue levels) := by
  induction levels with
  | zero =>
      intro text item rest found
      rcases parseValue_cases found with ⟨word, some, front, rfl⟩ | ⟨valuestring, string⟩ |
        ⟨number, read⟩ | ⟨less, byte, behind, none, -⟩
      · exact word_shrinks some front
      · exact parseString_shrinks _ _ _ string
      · exact parseNumber_shrinks _ _ _ read
      · cases none
  | succ levels ih =>
      intro text item rest found
      rcases parseValue_cases found with ⟨word, some, front, rfl⟩ | ⟨valuestring, string⟩ |
        ⟨number, read⟩ | ⟨less, byte, behind, same, rfl, inner⟩
      · exact word_shrinks some front
      · exact parseString_shrinks _ _ _ string
      · exact parseNumber_shrinks _ _ _ read
      · cases same
        have shorter : rest <:+ behind :=
          inner.elim (parseArray_shorter ih) (parseObject_shorter ih)
        exact suffix_trans (suffix_tail (List.suffix_refl (byte :: behind))) shorter

/-! The bounds on the loops are never reached. -/

theorem parseElements_enough {value : Parser Item} (shrinks : Shrinks value) (fuel : Nat)
    (text : Bytes) (enough : text.length ≤ fuel) :
    parseElements value fuel text = parseElements value text.length text := by
  induction fuel using Nat.strong_induction_on generalizing text with
  | _ fuel ih =>
      cases fuel with
      | zero => rw [Nat.le_zero.mp enough]
      | succ fuel =>
          cases size : text.length with
          | zero =>
              rw [List.length_eq_zero_iff.mp size]
              cases first : value (skipWhitespace []) with
              | none => simp only [parseElements, first]
              | some found => exact absurd (shrinks _ _ _ first).2 (Nat.not_lt_zero _)
          | succ less =>
              rw [parseElements, parseElements]
              split
              · rfl
              · rename_i item behind first
                have shorter := (shrinks _ _ _ first).2
                have skipped := (skipWhitespace_suffix text).length_le
                split
                · rfl
                · rename_i byte later next
                  have left := (suffix_skipped next).2
                  rw [ih fuel (by omega) later (by omega), ih less (by omega) later (by omega)]

theorem parseMembers_enough {value : Parser Item} (shrinks : Shrinks value) (fuel : Nat)
    (text : Bytes) (enough : text.length ≤ fuel) :
    parseMembers value fuel text = parseMembers value text.length text := by
  induction fuel using Nat.strong_induction_on generalizing text with
  | _ fuel ih =>
      cases fuel with
      | zero => rw [Nat.le_zero.mp enough]
      | succ fuel =>
          cases size : text.length with
          | zero =>
              rw [List.length_eq_zero_iff.mp size]
              rfl
          | succ less =>
              rw [parseMembers, parseMembers]
              split
              · rfl
              · rename_i member behind first
                have shorter := (parseMember_shrinks shrinks _ _ _ first).2
                split
                · rfl
                · rename_i byte later next
                  have left := (suffix_skipped next).2
                  rw [ih fuel (by omega) later (by omega), ih less (by omega) later (by omega)]

theorem utf16_length {input output : Bytes} {length : Nat}
    (read : utf16LiteralToUtf8 input = some (length, output)) :
    (length = 6 ∨ length = 12) ∧ length ≤ input.length := by
  unfold utf16LiteralToUtf8 at read
  split at read
  · cases read
  · rename_i six
    simp only at read
    split at read
    · cases read
    · split at read
      · split at read
        · cases read
        · rename_i twelve
          split at read
          · cases read
          · split at read
            · cases read
            · obtain ⟨_, -, same⟩ := Option.map_eq_some_iff.mp read
              cases same
              rw [List.length_drop] at twelve
              exact ⟨Or.inr rfl, by omega⟩
      · obtain ⟨_, -, same⟩ := Option.map_eq_some_iff.mp read
        cases same
        exact ⟨Or.inl rfl, by omega⟩

theorem unescapeWithin_enough (fuel : Nat) (raw : Bytes) (enough : raw.length < fuel) :
    unescapeWithin fuel raw = unescape raw := by
  unfold unescape
  induction fuel using Nat.strong_induction_on generalizing raw with
  | _ fuel ih =>
      obtain ⟨fuel, rfl⟩ : ∃ less, fuel = less + 1 := ⟨fuel - 1, by omega⟩
      cases raw with
      | nil => rfl
      | cons byte rest =>
          have size : rest.length < fuel := Nat.lt_of_succ_lt_succ enough
          have dropped : ∀ count, 1 ≤ count → count ≤ (byte :: rest).length →
              unescapeWithin fuel ((byte :: rest).drop count) =
                unescapeWithin (rest.length + 1) ((byte :: rest).drop count) := by
            intro count some inside
            have less : ((byte :: rest).drop count).length ≤ rest.length := by
              rw [List.length_drop, List.length_cons]
              omega
            rw [ih fuel (Nat.lt_succ_self _) _ (by omega), ih (rest.length + 1) (by omega) _ (by omega)]
          rw [List.length_cons, unescapeWithin, unescapeWithin]
          have tail : unescapeWithin fuel rest = unescapeWithin (rest.length + 1) rest :=
            dropped 1 (Nat.le_refl _) (by simp)
          have short : unescapeWithin fuel (rest.drop 1) =
              unescapeWithin (rest.length + 1) (rest.drop 1) := by
            cases rest with
            | nil => exact tail
            | cons letter more => exact dropped 2 (by decide) (by simp)
          simp only [tail, short]
          split
          · rfl
          · split
            · rfl
            · split
              · split
                · rfl
                · rename_i length output read
                  obtain ⟨length, inside⟩ := utf16_length read
                  rw [dropped _ (by omega) inside]
              · rfl

end LnpResolver.CJsonParser

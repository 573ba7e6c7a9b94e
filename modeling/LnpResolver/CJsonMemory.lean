import LnpResolver.BoundedAccess
import LnpResolver.CJsonStrings

/-!
The parser of libs/cJSON.c on its buffer. Positions are offsets into the text with
its terminator, and every access to the text, to the buffer of a number and to the
memory allocated for a string is recorded. Whatever the text, all accesses are
inside, and the result is that of the parser on lists.
-/

namespace LnpResolver.CJsonMemory

open PackedBytes CStrings DecimalNumerals Doubles JsonItems JsonText JsonSpellings RecordedAccess
open BoundedAccess CJsonParser CJsonStrings

section Program

variable (text : Bytes)

/-- The length of the buffer counts the terminator. -/
def bufferLength : Nat := text.length + 1

def bufferAt (index : Nat) : Touching UInt8 := do
  touch index (bufferLength text)
  return (text ++ [0]).getD index 0

/-- A byte behind can_access_at_index. -/
def accessAt (offset : Nat) : Touching (Option UInt8) :=
  if offset < bufferLength text then do
    let byte ← bufferAt text offset
    return some byte
  else return none

def skipLoop : Nat → Nat → Touching Nat
  | 0, offset => return offset
  | fuel + 1, offset => do
      match ← accessAt text offset with
      | none => return offset
      | some byte => if byte ≤ 32 then skipLoop fuel (offset + 1) else return offset

/-- The terminator is skipped, and the step behind it taken back. -/
def skipWhitespaceAt (offset : Nat) : Touching Nat := do
  let offset ← skipLoop text (bufferLength text) offset
  return if offset = bufferLength text then offset - 1 else offset

/-- strncmp with a word, which stops at the first difference. -/
def strncmpAt : Bytes → Nat → Touching Bool
  | [], _ => return true
  | byte :: rest, index => do
      let found ← bufferAt text index
      if found = byte then strncmpAt rest (index + 1) else return false

/-- The comparison behind can_read. -/
def wordAt (word : Bytes) (offset : Nat) : Touching Bool :=
  if offset + word.length ≤ bufferLength text then strncmpAt text word offset else return false

/-! Strings. -/

def parseHexAt : Nat → Nat → Nat → Touching Nat
  | 0, h, _ => return h
  | left + 1, h, index => do
      let byte ← bufferAt text index
      match hexDigit byte with
      | none => return 0
      | some digit => parseHexAt left (if 0 < left then (h + digit) <<< 4 else h + digit) (index + 1)

def utf16LiteralToUtf8At (inputPointer inputEnd : Nat) : Touching (Option (Nat × Bytes)) :=
  if inputEnd - inputPointer < 6 then return none
  else do
    let firstCode ← parseHexAt text 4 0 (inputPointer + 2)
    if 0xDC00 ≤ firstCode ∧ firstCode ≤ 0xDFFF then return none
    else if 0xD800 ≤ firstCode ∧ firstCode ≤ 0xDBFF then
      if inputEnd - (inputPointer + 6) < 6 then return none
      else do
        let mark ← bufferAt text (inputPointer + 6)
        if mark ≠ 92 then return none
        else do
          let letter ← bufferAt text (inputPointer + 6 + 1)
          if letter ≠ 117 then return none
          else do
            let secondCode ← parseHexAt text 4 0 (inputPointer + 6 + 2)
            if secondCode < 0xDC00 ∨ 0xDFFF < secondCode then return none
            else
              return (encodeUtf8 (0x10000 + (((firstCode &&& 0x3FF) <<< 10) ||| (secondCode &&& 0x3FF)))).map
                fun output => (12, output)
    else return (encodeUtf8 firstCode).map fun output => (6, output)

/-- The end of a string and the number of its escapes. -/
def scanAt : Nat → Nat → Nat → Touching (Option (Nat × Nat))
  | 0, _, _ => return none
  | fuel + 1, inputEnd, skippedBytes => do
      match ← accessAt text inputEnd with
      | none => return none
      | some byte =>
          if byte = 34 then return some (inputEnd, skippedBytes)
          else if byte = 92 then
            if bufferLength text ≤ inputEnd + 1 then return none
            else scanAt fuel (inputEnd + 2) (skippedBytes + 1)
          else scanAt fuel (inputEnd + 1) skippedBytes

/-- The output is stored at the front of its allocation, the terminator behind it. -/
def unescapeAt (allocation inputEnd : Nat) : Nat → Nat → Bytes → Touching (Option Bytes)
  | 0, _, _ => return none
  | fuel + 1, inputPointer, output =>
      if inputPointer < inputEnd then do
        let byte ← bufferAt text inputPointer
        if byte ≠ 92 then do
          touch output.length allocation
          unescapeAt allocation inputEnd fuel (inputPointer + 1) (output ++ [byte])
        else do
          let letter ← bufferAt text (inputPointer + 1)
          match escapedChar letter with
          | some char => do
              touch output.length allocation
              unescapeAt allocation inputEnd fuel (inputPointer + 2) (output ++ [char])
          | none =>
              if letter = 117 then do
                match ← utf16LiteralToUtf8At text inputPointer inputEnd with
                | none => return none
                | some (sequenceLength, stored) => do
                    touchRange output.length stored.length allocation
                    unescapeAt allocation inputEnd fuel (inputPointer + sequenceLength)
                      (output ++ stored)
              else return none
      else do
        touch output.length allocation
        return some output

def allocationLength (offset inputEnd skippedBytes : Nat) : Nat := inputEnd - offset - skippedBytes

def parseStringAt (offset : Nat) : Touching (Option (Bytes × Nat)) := do
  let byte ← bufferAt text offset
  if byte ≠ 34 then return none
  else
    match ← scanAt text (bufferLength text) (offset + 1) 0 with
    | none => return none
    | some (inputEnd, skippedBytes) =>
        let output ← unescapeAt text (allocationLength offset inputEnd skippedBytes + 1) inputEnd
          (bufferLength text) (offset + 1) []
        return output.map fun output => (cString output, inputEnd + 1)

/-! Numbers. -/

/-- The loop that fills the buffer for strtod, with the places that are left for digits. -/
def copyNumber (offset : Nat) : Nat → Nat → Touching Bytes
  | 0, i => do
      touch i 64
      return []
  | left + 1, i => do
      match ← accessAt text (offset + i) with
      | none => do
          touch i 64
          return []
      | some byte =>
          if numeralByte byte then do
            touch i 64
            let rest ← copyNumber offset left (i + 1)
            return byte :: rest
          else do
            touch i 64
            return []

def parseNumberAt (offset : Nat) : Touching (Option (Double × Nat)) := do
  let copied ← copyNumber text offset 63 0
  return (strtod copied).map fun (number, afterEnd) =>
    (number, offset + (copied.length - afterEnd.length))

/-! Arrays and objects. -/

abbrev ParserAt (α : Type) := Nat → Touching (Option (α × Nat))

def parseElementsAt (value : ParserAt Item) : Nat → ParserAt (List Item)
  | 0, _ => return none
  | fuel + 1, offset => do
      let start ← skipWhitespaceAt text offset
      match ← value start with
      | none => return none
      | some (item, behind) => do
          let behind ← skipWhitespaceAt text behind
          match ← accessAt text behind with
          | none => return none
          | some byte =>
              if byte = 44 then do
                let others ← parseElementsAt value fuel (behind + 1)
                return others.map fun (items, last) => (item :: items, last)
              else if byte = 93 then return some ([item], behind + 1)
              else return none

def parseArrayAt (value : ParserAt Item) (offset : Nat) : Touching (Option (Item × Nat)) := do
  let start ← skipWhitespaceAt text (offset + 1)
  match ← accessAt text start with
  | none => return none
  | some byte =>
      if byte = 93 then return some (.array [], start + 1)
      else do
        let elements ← parseElementsAt text value (bufferLength text) start
        return elements.map fun (items, last) => (.array items, last)

def parseMemberAt (value : ParserAt Item) : ParserAt (Bytes × Item) := fun offset => do
  let start ← skipWhitespaceAt text offset
  match ← parseStringAt text start with
  | none => return none
  | some (name, behind) => do
      let behind ← skipWhitespaceAt text behind
      match ← accessAt text behind with
      | none => return none
      | some byte =>
          if byte = 58 then do
            let start ← skipWhitespaceAt text (behind + 1)
            let found ← value start
            return found.map fun (item, last) => ((name, item), last)
          else return none

def parseMembersAt (value : ParserAt Item) : Nat → ParserAt (List (Bytes × Item))
  | 0, _ => return none
  | fuel + 1, offset => do
      match ← parseMemberAt text value offset with
      | none => return none
      | some (member, behind) => do
          let behind ← skipWhitespaceAt text behind
          match ← accessAt text behind with
          | none => return none
          | some byte =>
              if byte = 44 then do
                let others ← parseMembersAt value fuel (behind + 1)
                return others.map fun (members, last) => (member :: members, last)
              else if byte = 125 then return some ([member], behind + 1)
              else return none

def parseObjectAt (value : ParserAt Item) (offset : Nat) : Touching (Option (Item × Nat)) := do
  let start ← skipWhitespaceAt text (offset + 1)
  match ← accessAt text start with
  | none => return none
  | some byte =>
      if byte = 125 then return some (.object [], start + 1)
      else do
        let members ← parseMembersAt text value (bufferLength text) start
        return members.map fun (members, last) => (.object members, last)

def parseValueAt : Nat → ParserAt Item
  | levels, offset => do
      if ← wordAt text [110, 117, 108, 108] offset then return some (.null, offset + 4)
      else if ← wordAt text [102, 97, 108, 115, 101] offset then return some (.bool false, offset + 5)
      else if ← wordAt text [116, 114, 117, 101] offset then return some (.bool true, offset + 4)
      else
        match ← accessAt text offset with
        | none => return none
        | some byte =>
            if byte = 34 then do
              let found ← parseStringAt text offset
              return found.map fun (value, last) => (.string value, last)
            else if byte = 45 ∨ isdigit byte then do
              let found ← parseNumberAt text offset
              return found.map fun (number, last) => (.number number, last)
            else if byte = 91 then
              match levels with
              | 0 => return none
              | less + 1 => parseArrayAt text (parseValueAt less) offset
            else if byte = 123 then
              match levels with
              | 0 => return none
              | less + 1 => parseObjectAt text (parseValueAt less) offset
            else return none

def skipUtf8BomAt : Touching Nat :=
  if 4 < bufferLength text then do
    let mark ← strncmpAt text [239, 187, 191] 0
    return if mark then 3 else 0
  else return 0

def cJsonParseAt : Touching (Option Item) := do
  let start ← skipUtf8BomAt text
  let offset ← skipWhitespaceAt text start
  let found ← parseValueAt text cjsonNestingLimit offset
  return found.map Prod.fst

end Program

/-! Positions. An offset stands for what is left of the text there. -/

section Positions

variable {text : Bytes}

def position (text rest : Bytes) : Nat := text.length - rest.length

theorem position_length {rest : Bytes} (inside : rest <:+ text) :
    position text rest + rest.length = text.length :=
  Nat.sub_add_cancel inside.length_le

theorem position_tail {rest : Bytes} {byte : UInt8} (inside : byte :: rest <:+ text) :
    position text rest = position text (byte :: rest) + 1 := by
  have longer := inside.length_le
  simp only [position, List.length_cons] at longer ⊢
  omega

theorem position_append {front rest : Bytes} (inside : front ++ rest <:+ text) :
    position text rest = position text (front ++ rest) + front.length := by
  have longer := inside.length_le
  simp only [position, List.length_append] at longer ⊢
  omega

theorem position_drop {rest : Bytes} {count : Nat} (inside : rest <:+ text)
    (enough : count ≤ rest.length) :
    position text (rest.drop count) = position text rest + count := by
  have longer := inside.length_le
  simp only [position, List.length_drop]
  omega

theorem suffix_of_cons {rest : Bytes} {byte : UInt8} (inside : byte :: rest <:+ text) : rest <:+ text :=
  (List.suffix_cons byte rest).trans inside

/-- What is read where a rest begins: its first byte, or the terminator. -/
theorem bufferAt_yields {rest : Bytes} (inside : rest <:+ text) :
    Yields Access.Inside (bufferAt text (position text rest)) (rest.head?.getD 0) := by
  have bound : position text rest < bufferLength text := by
    rw [position, bufferLength]
    omega
  obtain ⟨front, rfl⟩ := inside
  have found : (front ++ rest ++ [0]).getD (position (front ++ rest) rest) 0 = rest.head?.getD 0 := by
    rw [position, List.length_append, Nat.add_sub_cancel, List.append_assoc, List.getD_append_right
      _ _ _ _ (Nat.le_refl _), Nat.sub_self]
    cases rest <;> rfl
  exact yields_then (yields_touch bound) (found ▸ yields_pure _)

theorem accessAt_yields {rest : Bytes} (inside : rest <:+ text) :
    Yields Access.Inside (accessAt text (position text rest)) (some (rest.head?.getD 0)) := by
  have bound : position text rest < bufferLength text := by
    rw [position, bufferLength]
    omega
  rw [accessAt, if_pos bound]
  exact yields_bind (bufferAt_yields inside) (yields_pure _)

theorem bufferAt_cons {rest : Bytes} {byte : UInt8} (inside : byte :: rest <:+ text) :
    Yields Access.Inside (bufferAt text (position text (byte :: rest))) byte := bufferAt_yields inside

theorem bufferAt_end : Yields Access.Inside (bufferAt text (position text [])) 0 :=
  bufferAt_yields (List.nil_suffix)

theorem accessAt_cons {rest : Bytes} {byte : UInt8} (inside : byte :: rest <:+ text) :
    Yields Access.Inside (accessAt text (position text (byte :: rest))) (some byte) := accessAt_yields inside

theorem accessAt_end : Yields Access.Inside (accessAt text (position text [])) (some 0) :=
  accessAt_yields (List.nil_suffix)

theorem accessAt_behind {offset : Nat} (behind : bufferLength text ≤ offset) :
    Yields Access.Inside (accessAt text offset) none := by
  rw [accessAt, if_neg (Nat.not_lt.mpr behind)]
  exact yields_pure none

/-! Whitespace. -/

/-- The terminator counts as whitespace. -/
theorem skipLoop_yields (fuel : Nat) (rest : Bytes) (inside : rest <:+ text)
    (enough : rest.length < fuel) :
    Yields Access.Inside (skipLoop text fuel (position text rest))
      (if skipWhitespace rest = [] then bufferLength text else position text (skipWhitespace rest)) := by
  induction rest generalizing fuel with
  | nil =>
      obtain ⟨fuel, rfl⟩ : ∃ less, fuel = less + 1 := ⟨fuel - 1, by omega⟩
      refine yields_bind accessAt_end ?_
      have behind : position text [] + 1 = bufferLength text := rfl
      have small : (0 : UInt8) ≤ 32 := by decide
      have nothing : skipWhitespace [] = [] := rfl
      simp only [if_pos small, if_pos nothing, behind]
      cases fuel with
      | zero => exact yields_pure _
      | succ fuel => exact yields_bind (accessAt_behind (Nat.le_refl _)) (yields_pure _)
  | cons byte rest ih =>
      obtain ⟨fuel, rfl⟩ : ∃ less, fuel = less + 1 := ⟨fuel - 1, by omega⟩
      refine yields_bind (accessAt_cons inside) ?_
      by_cases small : byte ≤ 32
      · have skipped : skipWhitespace (byte :: rest) = skipWhitespace rest := by
          simp [skipWhitespace, small]
        simp only [if_pos small, skipped, ← position_tail inside]
        exact ih fuel (suffix_of_cons inside) (Nat.lt_of_succ_lt_succ enough)
      · have kept : skipWhitespace (byte :: rest) = byte :: rest := by
          simp [skipWhitespace, small]
        simp only [if_neg small, kept, if_neg (List.cons_ne_nil _ _)]
        exact yields_pure _

theorem skipWhitespaceAt_yields {rest : Bytes} (inside : rest <:+ text) :
    Yields Access.Inside (skipWhitespaceAt text (position text rest)) (position text (skipWhitespace rest)) := by
  have enough : rest.length < bufferLength text := Nat.lt_succ_of_le inside.length_le
  refine yields_bind (skipLoop_yields _ rest inside enough) ?_
  by_cases nothing : skipWhitespace rest = []
  · rw [if_pos nothing, if_pos rfl, nothing]
    exact yields_pure _
  · have less : position text (skipWhitespace rest) ≠ bufferLength text := by
      rw [position, bufferLength]
      omega
    rw [if_neg nothing, if_neg less]
    exact yields_pure _

/-! Words. -/

theorem strncmpAt_yields (word rest : Bytes) (inside : rest <:+ text) (noNul : 0 ∉ word) :
    Yields Access.Inside (strncmpAt text word (position text rest)) (word.isPrefixOf rest) := by
  induction word generalizing rest with
  | nil => exact yields_pure true
  | cons byte word ih =>
      have first : byte ≠ 0 := fun zero => noNul (zero ▸ List.mem_cons_self)
      cases rest with
      | nil =>
          refine yields_bind bufferAt_end ?_
          rw [if_neg first.symm]
          exact yields_pure false
      | cons found rest =>
          refine yields_bind (bufferAt_cons inside) ?_
          by_cases same : found = byte
          · subst same
            rw [if_pos rfl, ← position_tail inside]
            simpa [List.isPrefixOf] using
              ih rest (suffix_of_cons inside) fun member => noNul (List.mem_cons_of_mem _ member)
          · rw [if_neg same]
            have other : (byte :: word).isPrefixOf (found :: rest) = false := by
              simp [List.isPrefixOf, Ne.symm same]
            rw [other]
            exact yields_pure false

theorem wordAt_yields (word rest : Bytes) (inside : rest <:+ text) (noNul : 0 ∉ word) :
    Yields Access.Inside (wordAt text word (position text rest)) (word.isPrefixOf rest) := by
  unfold wordAt
  split
  · exact strncmpAt_yields word rest inside noNul
  · rename_i short
    have other : word.isPrefixOf rest = false := by
      apply Bool.eq_false_iff.mpr
      intro front
      have longer := (List.isPrefixOf_iff_prefix.mp front).length_le
      have place := position_length inside
      rw [bufferLength] at short
      omega
    rw [other]
    exact yields_pure false

/-! The pairs that the scan of a string takes together. The flag says whether a byte
is the second of a pair. -/

def pairs : Bool → Bytes → Nat
  | _, [] => 0
  | true, _ :: rest => pairs false rest
  | false, byte :: rest => if byte = 92 then pairs true rest + 1 else pairs false rest

def second : Bool → Bytes → Bool
  | flag, [] => flag
  | true, _ :: rest => second false rest
  | false, byte :: rest => second (byte = 92) rest

theorem pairs_append (flag : Bool) (front back : Bytes) :
    pairs flag (front ++ back) = pairs flag front + pairs (second flag front) back := by
  induction front generalizing flag with
  | nil => simp [pairs, second]
  | cons byte front ih =>
      cases flag with
      | true => exact ih false
      | false =>
          by_cases solidus : byte = 92
          · simp only [List.cons_append, pairs, second, solidus, if_true, ih, decide_true]
            omega
          · simp only [List.cons_append, pairs, second, solidus, if_false, ih, decide_false]

theorem second_append (flag : Bool) (front back : Bytes) :
    second flag (front ++ back) = second (second flag front) back := by
  induction front generalizing flag with
  | nil => simp [second]
  | cons byte front ih =>
      cases flag with
      | true => exact ih false
      | false => exact ih _

/-- Pairs do not overlap. -/
theorem pairs_le (flag : Bool) (text : Bytes) :
    2 * pairs flag text + flag.toNat ≤ text.length + 1 := by
  induction text generalizing flag with
  | nil => cases flag <;> decide
  | cons byte text ih =>
      cases flag with
      | true =>
          have later := ih false
          simp only [pairs, List.length_cons, Bool.toNat_true, Bool.toNat_false] at later ⊢
          omega
      | false =>
          by_cases solidus : byte = 92
          · have later := ih true
            simp only [pairs, solidus, if_true, List.length_cons, Bool.toNat_true,
              Bool.toNat_false] at later ⊢
            omega
          · have later := ih false
            simp only [pairs, solidus, if_false, List.length_cons, Bool.toNat_false] at later ⊢
            omega

/-- The quotation mark that ends a string is no second byte. -/
theorem scanString_second {text raw rest : Bytes} (found : scanString text = some (raw, rest)) :
    second false raw = false := by
  fun_induction scanString text generalizing raw rest with
  | case1 => cases found
  | case2 behind =>
      cases found
      rfl
  | case3 noQuote => cases found
  | case4 escaped behind noQuote ih =>
      obtain ⟨⟨more, last⟩, later, same⟩ := Option.map_eq_some_iff.mp found
      cases same
      have behind : second false more = false := ih later
      exact behind
  | case5 byte behind noQuote noEscape ih =>
      obtain ⟨⟨more, last⟩, later, same⟩ := Option.map_eq_some_iff.mp found
      cases same
      simp only [second, noEscape, decide_false]
      exact ih later

theorem scanAt_yields (fuel skipped : Nat) (rest : Bytes) (inside : rest <:+ text)
    (enough : rest.length < fuel) :
    Yields Access.Inside (scanAt text fuel (position text rest) skipped)
      ((scanString rest).map fun (raw, _) =>
        (position text rest + raw.length, skipped + pairs false raw)) := by
  fun_induction scanString rest generalizing fuel skipped with
  | case1 =>
      obtain ⟨fuel, rfl⟩ : ∃ less, fuel = less + 1 := ⟨fuel - 1, by omega⟩
      refine yields_bind accessAt_end ?_
      cases fuel with
      | zero => exact yields_pure _
      | succ fuel =>
          have behind : bufferLength text ≤ position text [] + 1 := Nat.le_refl _
          exact yields_bind (accessAt_behind behind) (yields_pure _)
  | case2 behind =>
      obtain ⟨fuel, rfl⟩ : ∃ less, fuel = less + 1 := ⟨fuel - 1, by omega⟩
      exact yields_bind (accessAt_cons inside) (yields_pure _)
  | case3 noQuote =>
      obtain ⟨fuel, rfl⟩ : ∃ less, fuel = less + 1 := ⟨fuel - 1, by omega⟩
      refine yields_bind (accessAt_cons inside) ?_
      have last : position text [] = position text [92] + 1 := position_tail inside
      have place : position text [] = text.length := rfl
      have more : ¬ bufferLength text ≤ position text [92] + 1 := by
        rw [bufferLength]
        omega
      simp only [if_neg noQuote, if_true, if_neg more]
      cases fuel with
      | zero => exact yields_pure _
      | succ fuel =>
          have behind : bufferLength text ≤ position text [92] + 2 := by
            rw [bufferLength]
            omega
          exact yields_bind (accessAt_behind behind) (yields_pure _)
  | case4 escaped behind noQuote ih =>
      obtain ⟨fuel, rfl⟩ : ∃ less, fuel = less + 1 := ⟨fuel - 1, by omega⟩
      refine yields_bind (accessAt_cons inside) ?_
      have first := position_tail inside
      have next : position text behind = position text (92 :: escaped :: behind) + 2 := by
        rw [position_tail (suffix_of_cons inside), first]
      have place := position_length (suffix_of_cons inside)
      have more : ¬ bufferLength text ≤ position text (92 :: escaped :: behind) + 1 := by
        rw [bufferLength, ← first]
        rw [List.length_cons] at place
        omega
      have left : behind.length < fuel := by
        rw [List.length_cons, List.length_cons] at enough
        omega
      have later := ih fuel (skipped + 1) (suffix_of_cons (suffix_of_cons inside)) left
      simp only [if_neg noQuote, if_true, if_neg more]
      rw [next] at later
      rw [Option.map_map]
      convert later using 2
      funext found
      simp only [Function.comp, List.length_cons, pairs, if_true, Prod.mk.injEq]
      omega
  | case5 byte behind noQuote noEscape ih =>
      obtain ⟨fuel, rfl⟩ : ∃ less, fuel = less + 1 := ⟨fuel - 1, by omega⟩
      refine yields_bind (accessAt_cons inside) ?_
      have first := position_tail inside
      simp only [if_neg noQuote, if_neg noEscape]
      have later := ih fuel skipped (suffix_of_cons inside) (Nat.lt_of_succ_lt_succ enough)
      rw [first] at later
      rw [Option.map_map]
      convert later using 2
      funext found
      simp only [Function.comp, List.length_cons, pairs, noEscape, if_false, Prod.mk.injEq, and_true]
      omega

/-! The codes of escapes. -/

theorem parseHexAt_yields (left h : Nat) (rest : Bytes) (inside : rest <:+ text)
    (enough : left ≤ rest.length) :
    Yields Access.Inside (parseHexAt text left h (position text rest)) (parseHex left h rest) := by
  induction left generalizing h rest with
  | zero => exact yields_pure h
  | succ left ih =>
      cases rest with
      | nil => cases enough
      | cons byte rest =>
          refine yields_bind (bufferAt_cons inside) ?_
          rw [parseHex]
          cases hexDigit byte with
          | none => exact yields_pure 0
          | some digit =>
              simp only [← position_tail inside]
              exact ih _ rest (suffix_of_cons inside) (Nat.le_of_succ_le_succ enough)

theorem parseHex_append (left h : Nat) (front back : Bytes) (enough : left ≤ front.length) :
    parseHex left h (front ++ back) = parseHex left h front := by
  induction left generalizing h front with
  | zero => cases front <;> rfl
  | succ left ih =>
      cases front with
      | nil => cases enough
      | cons byte front =>
          rw [List.cons_append, parseHex, parseHex]
          cases hexDigit byte with
          | none => rfl
          | some digit => exact ih _ front (Nat.le_of_succ_le_succ enough)

/-- The four digits behind some bytes of a string. -/
theorem parseHex4_yields {raw back : Bytes} (count : Nat) (inside : raw ++ back <:+ text)
    (enough : count + 4 ≤ raw.length) :
    Yields Access.Inside (parseHexAt text 4 0 (position text (raw ++ back) + count))
      (parseHex4 (raw.drop count)) := by
  have size : count ≤ (raw ++ back).length := by
    rw [List.length_append]
    omega
  have dropped : (raw ++ back).drop count = raw.drop count ++ back :=
    List.drop_append_of_le_length (by omega)
  have read := parseHexAt_yields 4 0 ((raw ++ back).drop count)
    ((List.drop_suffix _ _).trans inside) (by rw [List.length_drop, List.length_append]; omega)
  rw [position_drop inside size, dropped,
    parseHex_append 4 0 _ _ (by rw [List.length_drop]; omega)] at read
  exact read

theorem bufferAt_inside {raw back : Bytes} (count : Nat) (inside : raw ++ back <:+ text)
    (enough : count < raw.length) :
    Yields Access.Inside (bufferAt text (position text (raw ++ back) + count)) raw[count] := by
  have size : count ≤ (raw ++ back).length := by
    rw [List.length_append]
    omega
  have read := bufferAt_yields ((List.drop_suffix count (raw ++ back)).trans inside)
  rw [position_drop inside size, List.head?_drop, List.getElem?_append_left enough,
    List.getElem?_eq_getElem enough, Option.getD_some] at read
  exact read

theorem utf16LiteralToUtf8At_yields {raw back : Bytes} (inside : raw ++ back <:+ text) :
    Yields Access.Inside (utf16LiteralToUtf8At text (position text (raw ++ back))
        (position text (raw ++ back) + raw.length))
      (utf16LiteralToUtf8 raw) := by
  unfold utf16LiteralToUtf8At utf16LiteralToUtf8
  rw [Nat.add_sub_cancel_left]
  by_cases short : raw.length < 6
  · rw [if_pos short, if_pos short]
    exact yields_pure none
  · rw [if_neg short, if_neg short]
    refine yields_bind (parseHex4_yields 2 inside (by omega)) ?_
    by_cases low : 0xDC00 ≤ parseHex4 (raw.drop 2) ∧ parseHex4 (raw.drop 2) ≤ 0xDFFF
    · simp only [if_pos low]
      exact yields_pure none
    · by_cases high : 0xD800 ≤ parseHex4 (raw.drop 2) ∧ parseHex4 (raw.drop 2) ≤ 0xDBFF
      · have left : position text (raw ++ back) + raw.length - (position text (raw ++ back) + 6) =
            (raw.drop 6).length := by
          rw [List.length_drop]
          omega
        simp only [if_neg low, if_pos high, left]
        by_cases few : (raw.drop 6).length < 6
        · simp only [if_pos few]
          exact yields_pure none
        · have twelve : 12 ≤ raw.length := by
            rw [List.length_drop] at few
            omega
          have front : (raw.drop 6).take 2 = [raw[6], raw[7]] := by
            rw [List.drop_eq_getElem_cons (by omega), List.take_succ_cons,
              List.drop_eq_getElem_cons (by omega), List.take_succ_cons, List.take_zero]
          have digits : ((raw.drop 6).drop 2) = raw.drop 8 := List.drop_drop
          simp only [if_neg few, front, digits]
          refine yields_bind (bufferAt_inside 6 inside (by omega)) ?_
          by_cases mark : raw[6] = 92
          · simp only [mark, ne_eq, not_true_eq_false, if_false]
            refine yields_bind (bufferAt_inside 7 inside (by omega)) ?_
            by_cases letter : raw[7] = 117
            · simp only [letter, not_true_eq_false, if_false]
              refine yields_bind (parseHex4_yields 8 inside (by omega)) ?_
              by_cases lone : parseHex4 (raw.drop 8) < 0xDC00 ∨ 0xDFFF < parseHex4 (raw.drop 8)
              · simp only [if_pos lone]
                exact yields_pure none
              · simp only [if_neg lone]
                exact yields_pure _
            · simp only [List.cons.injEq, letter, and_true, not_false_eq_true, and_false, if_true]
              exact yields_pure none
          · simp only [ne_eq, List.cons.injEq, mark, false_and, not_false_eq_true, if_true]
            exact yields_pure none
      · simp only [if_neg low, if_neg high]
        exact yields_pure _

/-! What an escape stores is no longer than half of it. -/

theorem continuation_length (count codepoint : Nat) (stored : Bytes) :
    (continuation count codepoint stored).2.length = count + stored.length := by
  induction count generalizing codepoint stored with
  | zero => rw [continuation, Nat.zero_add]
  | succ count ih =>
      rw [continuation, ih, List.length_cons]
      omega

theorem encodeUtf8_length {codepoint : Nat} {output : Bytes} (encoded : encodeUtf8 codepoint = some output) :
    output.length ≤ 4 ∧ (codepoint < 0x10000 → output.length ≤ 3) := by
  unfold encodeUtf8 at encoded
  split at encoded
  · cases encoded
    simp
  · split at encoded
    · cases encoded
      simp [encodeWith, continuation_length]
    · split at encoded
      · cases encoded
        simp [encodeWith, continuation_length]
      · rename_i big
        split at encoded
        · cases encoded
          simp [encodeWith, continuation_length, big]
        · cases encoded

theorem parseHex_lt (left h : Nat) (input : Bytes) :
    parseHex (left + 1) h input < h * 16 ^ left + 16 ^ (left + 1) := by
  induction left generalizing h input with
  | zero =>
      cases input with
      | nil => simp [parseHex]
      | cons byte rest =>
          rw [parseHex]
          split
          · simp
          · rename_i digit value
            have small := hexDigit_lt value
            simp only [parseHex, Nat.lt_irrefl, if_false]
            omega
  | succ left ih =>
      cases input with
      | nil => simp [parseHex]
      | cons byte rest =>
          rw [parseHex]
          split
          · simp
          · rename_i digit value
            have small := hexDigit_lt value
            have later := ih ((h + digit) <<< 4) rest
            rw [if_pos (Nat.succ_pos _)]
            have scaled : (h + digit) <<< 4 * 16 ^ left = h * 16 ^ (left + 1) + digit * 16 ^ (left + 1) := by
              rw [Nat.shiftLeft_eq, pow_succ]
              ring
            have digits : (digit + 1) * 16 ^ (left + 1) ≤ 16 ^ (left + 1 + 1) := by
              rw [pow_succ 16 (left + 1), Nat.mul_comm]
              exact Nat.mul_le_mul_left _ small
            rw [scaled] at later
            rw [Nat.add_mul, Nat.one_mul] at digits
            omega

theorem parseHex4_lt (input : Bytes) : parseHex4 input < 0x10000 := by
  have bound := parseHex_lt 3 0 input
  norm_num at bound
  exact bound

theorem utf16_stored {input output : Bytes} {length : Nat}
    (read : utf16LiteralToUtf8 input = some (length, output)) : 2 * output.length ≤ length := by
  unfold utf16LiteralToUtf8 at read
  split at read
  · cases read
  · simp only at read
    split at read
    · cases read
    · split at read
      · split at read
        · cases read
        · split at read
          · cases read
          · split at read
            · cases read
            · obtain ⟨_, encoded, same⟩ := Option.map_eq_some_iff.mp read
              cases same
              have four := (encodeUtf8_length encoded).1
              omega
      · obtain ⟨_, encoded, same⟩ := Option.map_eq_some_iff.mp read
        cases same
        have three := (encodeUtf8_length encoded).2 (parseHex4_lt _)
        omega

/-- Whatever is taken, what is left fits behind what has been stored. -/
theorem pairs_drop (flag : Bool) {raw : Bytes} {count : Nat} (inside : count ≤ raw.length) :
    ∃ next, second next (raw.drop count) = second flag raw ∧
      2 * pairs flag raw ≤ count + 1 + 2 * pairs next (raw.drop count) := by
  refine ⟨second flag (raw.take count), ?_, ?_⟩
  · rw [← second_append, List.take_append_drop]
  · have split := pairs_append flag (raw.take count) (raw.drop count)
    rw [List.take_append_drop] at split
    have taken := pairs_le flag (raw.take count)
    rw [List.length_take, Nat.min_eq_left inside] at taken
    omega

/-- Room for what is left of a string behind its stored beginning: the length of the
allocation counts one byte for a pair. -/
def Room (allocation : Nat) (output raw : Bytes) : Prop :=
  ∃ flag, second flag raw = false ∧ output.length + raw.length + 1 < allocation + pairs flag raw

theorem room_here {allocation : Nat} {output raw : Bytes} (room : Room allocation output raw) :
    output.length < allocation := by
  obtain ⟨flag, -, enough⟩ := room
  have taken := pairs_le flag raw
  omega

/-- A byte is copied. -/
theorem room_plain {allocation : Nat} {output rest : Bytes} {byte char : UInt8} (plain : byte ≠ 92)
    (room : Room allocation output (byte :: rest)) : Room allocation (output ++ [char]) rest := by
  obtain ⟨flag, aligned, enough⟩ := room
  refine ⟨false, ?_, ?_⟩
  · cases flag with
    | true => exact aligned
    | false => simpa only [second, plain, decide_false] using aligned
  · have same : pairs flag (byte :: rest) = pairs false rest := by
      cases flag with
      | true => rfl
      | false => rw [pairs, if_neg plain]
    rw [same, List.length_cons] at enough
    rw [List.length_append, List.length_singleton]
    omega

/-- An escape is taken that stores at most half its length. -/
theorem room_escape {allocation count : Nat} {output stored raw : Bytes} (inside : count ≤ raw.length)
    (half : 2 * stored.length ≤ count) (room : Room allocation output raw) :
    output.length + stored.length ≤ allocation ∧ Room allocation (output ++ stored) (raw.drop count) := by
  obtain ⟨flag, aligned, enough⟩ := room
  obtain ⟨next, kept, taken⟩ := pairs_drop flag inside
  have most := pairs_le flag raw
  refine ⟨by omega, next, kept.trans aligned, ?_⟩
  rw [List.length_append, List.length_drop]
  omega

theorem unescapeAt_end {allocation inputEnd inputPointer : Nat} {output : Bytes} (fuel : Nat)
    (behind : inputEnd ≤ inputPointer) (room : output.length < allocation) :
    Yields Access.Inside (unescapeAt text allocation inputEnd (fuel + 1) inputPointer output) (some output) := by
  rw [unescapeAt, if_neg (Nat.not_lt.mpr behind)]
  exact yields_then (yields_touch room) (yields_pure _)

theorem unescapeAt_yields (allocation fuel : Nat) (raw output : Bytes) {back : Bytes}
    (inside : raw ++ 34 :: back <:+ text) (room : Room allocation output raw) :
    Yields Access.Inside (unescapeAt text allocation (position text (34 :: back)) fuel
        (position text (raw ++ 34 :: back)) output)
      ((unescapeWithin fuel raw).map (output ++ ·)) := by
  induction fuel generalizing raw output with
  | zero => exact yields_pure none
  | succ fuel ih =>
      have place := position_append inside
      cases raw with
      | nil =>
          rw [unescapeWithin, Option.map_some, List.append_nil]
          exact unescapeAt_end fuel (Nat.le_refl _) (room_here room)
      | cons byte rest =>
          have more : position text (byte :: rest ++ 34 :: back) < position text (34 :: back) := by
            rw [place, List.length_cons]
            omega
          have next : position text (rest ++ 34 :: back) =
              position text (byte :: rest ++ 34 :: back) + 1 := position_tail inside
          rw [unescapeAt, if_pos more, unescapeWithin]
          refine yields_bind (bufferAt_cons inside) ?_
          by_cases plain : byte ≠ 92
          · simp only [if_pos plain]
            refine yields_then (yields_touch (room_here room)) ?_
            have later := ih rest (output ++ [byte]) (suffix_of_cons inside) (room_plain plain room)
            rw [next] at later
            simpa only [Option.map_map, Function.comp_def, List.append_assoc, List.singleton_append]
              using later
          · have solidus : byte = 92 := not_not.mp plain
            subst solidus
            simp only [ne_eq, not_true_eq_false, if_false]
            have read : Yields Access.Inside (bufferAt text (position text (92 :: rest ++ 34 :: back) + 1))
                (rest.head?.getD 34) := by
              rw [← next]
              cases rest <;> exact bufferAt_cons (suffix_of_cons inside)
            have taken : ∀ count (stored : Bytes), count ≤ (92 :: rest).length →
                2 * stored.length ≤ count →
                Yields Access.Inside (unescapeAt text allocation (position text (34 :: back)) fuel
                    (position text (92 :: rest ++ 34 :: back) + count) (output ++ stored))
                  (((unescapeWithin fuel ((92 :: rest).drop count)).map (stored ++ ·)).map
                    (output ++ ·)) := by
              intro count stored most half
              have dropped : (92 :: rest ++ 34 :: back).drop count =
                  (92 :: rest).drop count ++ 34 :: back := List.drop_append_of_le_length most
              have last : (92 :: rest).drop count ++ 34 :: back <:+ text :=
                dropped ▸ (List.drop_suffix _ _).trans inside
              have later := ih _ _ last (room_escape most half room).2
              rw [← dropped, position_drop inside (by rw [List.length_append]; omega)] at later
              simpa only [Option.map_map, Function.comp_def, List.append_assoc] using later
            refine yields_bind read ?_
            cases known : escapedChar (rest.head?.getD 34) with
            | some char =>
                simp only
                refine yields_then (yields_touch (room_here room)) ?_
                cases rest with
                | nil =>
                    -- the quotation mark that ends the string was the escaped one
                    obtain ⟨flag, aligned, enough⟩ := room
                    cases flag with
                    | false => cases aligned
                    | true =>
                        have left : (output ++ [char]).length < allocation := by
                          rw [List.length_append, List.length_singleton]
                          rw [List.length_singleton, pairs, pairs] at enough
                          omega
                        cases fuel with
                        | zero => exact yields_pure none
                        | succ fuel =>
                            refine unescapeAt_end fuel ?_ left
                            rw [place, List.length_singleton]
                            omega
                | cons letter rest => exact taken 2 [char] (by simp) (by simp)
            | none =>
                simp only
                by_cases letter : rest.head?.getD 34 = 117
                · simp only [if_pos letter]
                  have read := utf16LiteralToUtf8At_yields inside
                  rw [← place] at read
                  refine yields_bind read ?_
                  cases code : utf16LiteralToUtf8 (92 :: rest) with
                  | none => exact yields_pure none
                  | some found =>
                      obtain ⟨length, stored⟩ := found
                      have most := (utf16_length code).2
                      have half := utf16_stored code
                      exact yields_then (yields_touchRange (room_escape most half room).1)
                        (taken length stored most half)
                · simp only [if_neg letter]
                  exact yields_pure none

/-! Tokens. -/

/-- A parser on offsets follows one on what is left of the text. -/
def Refines {α : Type} (text : Bytes) (programAt : ParserAt α) (parser : Parser α) : Prop :=
  ∀ rest, rest <:+ text →
    Yields Access.Inside (programAt (position text rest))
      ((parser rest).map fun (value, left) => (value, position text left))

theorem parseStringAt_refines : Refines text (parseStringAt text) parseString := by
  intro rest inside
  cases rest with
  | nil => exact yields_bind bufferAt_end (yields_pure none)
  | cons byte rest =>
      refine yields_bind (bufferAt_cons inside) ?_
      by_cases quote : byte ≠ 34
      · simp only [parseString, if_pos quote]
        exact yields_pure none
      · simp only [parseString, if_neg quote]
        have within := suffix_of_cons inside
        have next := position_tail inside
        have scan := scanAt_yields (bufferLength text) 0 rest within
          (Nat.lt_succ_of_le within.length_le)
        rw [← next]
        refine yields_bind scan ?_
        cases found : scanString rest with
        | none => exact yields_pure none
        | some split =>
            obtain ⟨raw, left⟩ := split
            have whole := scanString_spec found
            subst whole
            have place := position_append within
            have last := position_tail ((List.suffix_append raw _).trans within)
            have most := pairs_le false raw
            have room : Room (allocationLength (position text (byte :: (raw ++ 34 :: left)))
                (position text (34 :: left)) (0 + pairs false raw) + 1) [] raw := by
              refine ⟨false, scanString_second found, ?_⟩
              simp only [allocationLength, List.length_nil, Bool.toNat_false] at most ⊢
              omega
            simp only [Option.map_some, ← place]
            refine yields_bind (unescapeAt_yields _ _ raw [] within room) ?_
            have enough : raw.length < bufferLength text := by
              have size := within.length_le
              rw [List.length_append] at size
              rw [bufferLength]
              omega
            rw [unescapeWithin_enough _ _ enough, ← last]
            simp only [List.nil_append, Option.map_map]
            exact yields_pure _

theorem copyNumber_yields (left i : Nat) (rest : Bytes) (offset : Nat) (inside : rest <:+ text)
    (place : position text rest = offset + i) (size : i + left = 63) :
    Yields Access.Inside (copyNumber text offset left i) ((rest.takeWhile numeralByte).take left) := by
  have slot : i < 64 := by omega
  induction left generalizing i rest with
  | zero => exact yields_then (yields_touch slot) (yields_pure _)
  | succ left ih =>
      rw [copyNumber, ← place]
      cases rest with
      | nil =>
          refine yields_bind accessAt_end ?_
          have other : ¬ numeralByte 0 = true := by decide
          simp only [if_neg other]
          exact yields_then (yields_touch slot) (yields_pure _)
      | cons byte rest =>
          refine yields_bind (accessAt_cons inside) ?_
          by_cases numeral : numeralByte byte = true
          · simp only [if_pos numeral]
            have next := position_tail inside
            have later := ih (i + 1) rest (suffix_of_cons inside) (by omega) (by omega) (by omega)
            rw [List.takeWhile_cons_of_pos numeral, List.take_succ_cons]
            exact yields_then (yields_touch slot) (yields_bind later (yields_pure _))
          · simp only [if_neg numeral]
            rw [List.takeWhile_cons_of_neg numeral]
            exact yields_then (yields_touch slot) (yields_pure _)

theorem parseNumberAt_refines : Refines text (parseNumberAt text) parseNumber := by
  intro rest inside
  refine yields_bind (copyNumber_yields 63 0 rest _ inside rfl rfl) ?_
  rw [parseNumber, numberCString]
  cases read : strtod ((rest.takeWhile numeralByte).take 63) with
  | none => exact yields_pure none
  | some found =>
      obtain ⟨number, afterEnd⟩ := found
      have window := numberCString_length rest
      rw [numberCString] at window
      simp only [Option.map_some]
      rw [position_drop inside (by omega)]
      exact yields_pure _

/-! Arrays and objects. -/

theorem parseElementsAt_refines {valueAt : ParserAt Item} {value : Parser Item}
    (refines : Refines text valueAt value) (shrinks : Shrinks value) (fuel : Nat) :
    Refines text (parseElementsAt text valueAt fuel) (parseElements value fuel) := by
  induction fuel with
  | zero => exact fun _ _ => yields_pure none
  | succ fuel ih =>
      intro rest inside
      have start := (skipWhitespace_suffix rest).trans inside
      refine yields_bind (skipWhitespaceAt_yields inside) (yields_bind (refines _ start) ?_)
      rw [parseElements]
      cases first : value (skipWhitespace rest) with
      | none => exact yields_pure none
      | some found =>
          obtain ⟨item, behind⟩ := found
          have left := (shrinks _ _ _ first).1.trans start
          have skipped := (skipWhitespace_suffix behind).trans left
          simp only [Option.map_some]
          refine yields_bind (skipWhitespaceAt_yields left) ?_
          cases next : skipWhitespace behind with
          | nil => exact yields_bind accessAt_end (yields_pure none)
          | cons byte later =>
              rw [next] at skipped
              refine yields_bind (accessAt_cons skipped) ?_
              simp only [← position_tail skipped]
              by_cases comma : byte = 44
              · simp only [if_pos comma]
                refine yields_bind (ih later (suffix_of_cons skipped)) ?_
                simp only [Option.map_map]
                exact yields_pure _
              · by_cases closed : byte = 93
                · simp only [if_neg comma, if_pos closed]
                  exact yields_pure _
                · simp only [if_neg comma, if_neg closed]
                  exact yields_pure none

theorem parseArrayAt_yields {valueAt : ParserAt Item} {value : Parser Item}
    (refines : Refines text valueAt value) (shrinks : Shrinks value) {byte : UInt8} {rest : Bytes}
    (inside : byte :: rest <:+ text) :
    Yields Access.Inside (parseArrayAt text valueAt (position text (byte :: rest)))
      ((parseArray value rest).map fun (item, left) => (item, position text left)) := by
  have within := suffix_of_cons inside
  have skipped := (skipWhitespace_suffix rest).trans within
  rw [parseArrayAt, ← position_tail inside, parseArray]
  refine yields_bind (skipWhitespaceAt_yields within) ?_
  cases next : skipWhitespace rest with
  | nil =>
      refine yields_bind accessAt_end ?_
      have opened : ¬ (0 : UInt8) = 93 := by decide
      have none : parseElements value (bufferLength text) [] = none :=
        parseElements_enough shrinks _ [] (Nat.zero_le _)
      simp only [if_neg opened]
      refine yields_bind (parseElementsAt_refines refines shrinks _ [] List.nil_suffix) ?_
      rw [none]
      exact yields_pure _
  | cons first later =>
      rw [next] at skipped
      have enough : ∀ fuel, rest.length ≤ fuel →
          parseElements value fuel (first :: later) =
            parseElements value (first :: later).length (first :: later) := by
        intro fuel size
        have shorter := (skipWhitespace_suffix rest).length_le
        exact parseElements_enough shrinks fuel _ ((next ▸ shorter).trans size)
      have buffer : rest.length ≤ bufferLength text := within.length_le.trans (Nat.le_succ _)
      refine yields_bind (accessAt_cons skipped) ?_
      by_cases closed : first = 93
      · simp only [if_pos closed, ← position_tail skipped]
        exact yields_pure _
      · simp only [if_neg closed]
        refine yields_bind (parseElementsAt_refines refines shrinks _ _ skipped) ?_
        rw [enough _ (Nat.le_refl _), enough _ buffer]
        simp only [Option.map_map]
        exact yields_pure _

theorem parseMemberAt_refines {valueAt : ParserAt Item} {value : Parser Item}
    (refines : Refines text valueAt value) : Refines text (parseMemberAt text valueAt) (parseMember value) := by
  intro rest inside
  have start := (skipWhitespace_suffix rest).trans inside
  refine yields_bind (skipWhitespaceAt_yields inside) (yields_bind (parseStringAt_refines _ start) ?_)
  rw [parseMember]
  cases first : parseString (skipWhitespace rest) with
  | none => exact yields_pure none
  | some found =>
      obtain ⟨name, behind⟩ := found
      have left := (parseString_shrinks _ _ _ first).1.trans start
      have skipped := (skipWhitespace_suffix behind).trans left
      simp only [Option.map_some]
      refine yields_bind (skipWhitespaceAt_yields left) ?_
      cases next : skipWhitespace behind with
      | nil => exact yields_bind accessAt_end (yields_pure none)
      | cons byte later =>
          rw [next] at skipped
          have last := suffix_of_cons skipped
          refine yields_bind (accessAt_cons skipped) ?_
          simp only [← position_tail skipped]
          by_cases colon : byte = 58
          · simp only [if_pos colon]
            refine yields_bind (skipWhitespaceAt_yields last)
              (yields_bind (refines _ ((skipWhitespace_suffix later).trans last)) ?_)
            simp only [Option.map_map]
            exact yields_pure _
          · simp only [if_neg colon]
            exact yields_pure none

theorem parseMembersAt_refines {valueAt : ParserAt Item} {value : Parser Item}
    (refines : Refines text valueAt value) (shrinks : Shrinks value) (fuel : Nat) :
    Refines text (parseMembersAt text valueAt fuel) (parseMembers value fuel) := by
  induction fuel with
  | zero => exact fun _ _ => yields_pure none
  | succ fuel ih =>
      intro rest inside
      refine yields_bind (parseMemberAt_refines refines _ inside) ?_
      rw [parseMembers]
      cases first : parseMember value rest with
      | none => exact yields_pure none
      | some found =>
          obtain ⟨member, behind⟩ := found
          have left := (parseMember_shrinks shrinks _ _ _ first).1.trans inside
          have skipped := (skipWhitespace_suffix behind).trans left
          simp only [Option.map_some]
          refine yields_bind (skipWhitespaceAt_yields left) ?_
          cases next : skipWhitespace behind with
          | nil => exact yields_bind accessAt_end (yields_pure none)
          | cons byte later =>
              rw [next] at skipped
              refine yields_bind (accessAt_cons skipped) ?_
              simp only [← position_tail skipped]
              by_cases comma : byte = 44
              · simp only [if_pos comma]
                refine yields_bind (ih later (suffix_of_cons skipped)) ?_
                simp only [Option.map_map]
                exact yields_pure _
              · by_cases closed : byte = 125
                · simp only [if_neg comma, if_pos closed]
                  exact yields_pure _
                · simp only [if_neg comma, if_neg closed]
                  exact yields_pure none

theorem parseObjectAt_yields {valueAt : ParserAt Item} {value : Parser Item}
    (refines : Refines text valueAt value) (shrinks : Shrinks value) {byte : UInt8} {rest : Bytes}
    (inside : byte :: rest <:+ text) :
    Yields Access.Inside (parseObjectAt text valueAt (position text (byte :: rest)))
      ((parseObject value rest).map fun (item, left) => (item, position text left)) := by
  have within := suffix_of_cons inside
  have skipped := (skipWhitespace_suffix rest).trans within
  rw [parseObjectAt, ← position_tail inside, parseObject]
  refine yields_bind (skipWhitespaceAt_yields within) ?_
  cases next : skipWhitespace rest with
  | nil =>
      refine yields_bind accessAt_end ?_
      have opened : ¬ (0 : UInt8) = 125 := by decide
      have none : parseMembers value (bufferLength text) [] = none :=
        parseMembers_enough shrinks _ [] (Nat.zero_le _)
      simp only [if_neg opened]
      refine yields_bind (parseMembersAt_refines refines shrinks _ [] List.nil_suffix) ?_
      rw [none]
      exact yields_pure _
  | cons first later =>
      rw [next] at skipped
      have enough : ∀ fuel, rest.length ≤ fuel →
          parseMembers value fuel (first :: later) =
            parseMembers value (first :: later).length (first :: later) := by
        intro fuel size
        have shorter := (skipWhitespace_suffix rest).length_le
        exact parseMembers_enough shrinks fuel _ ((next ▸ shorter).trans size)
      have buffer : rest.length ≤ bufferLength text := within.length_le.trans (Nat.le_succ _)
      refine yields_bind (accessAt_cons skipped) ?_
      by_cases closed : first = 125
      · simp only [if_pos closed, ← position_tail skipped]
        exact yields_pure _
      · simp only [if_neg closed]
        refine yields_bind (parseMembersAt_refines refines shrinks _ _ skipped) ?_
        rw [enough _ (Nat.le_refl _), enough _ buffer]
        simp only [Option.map_map]
        exact yields_pure _

/-! Values. -/

theorem position_word {word rest : Bytes} (inside : rest <:+ text) (front : word.isPrefixOf rest = true) :
    position text (rest.drop word.length) = position text rest + word.length :=
  position_drop inside (List.isPrefixOf_iff_prefix.mp front).length_le

/-- One level, if the next one is right. -/
theorem parseValueAt_step {levels : Nat}
    (deeper : ∀ less, levels = less + 1 → Refines text (parseValueAt text less) (parseValue less)) :
    Refines text (parseValueAt text levels) (parseValue levels) := by
  intro rest inside
  unfold parseValueAt parseValue
  have null := wordAt_yields [110, 117, 108, 108] rest inside (by decide)
  have falsity := wordAt_yields [102, 97, 108, 115, 101] rest inside (by decide)
  have truth := wordAt_yields [116, 114, 117, 101] rest inside (by decide)
  refine yields_bind null ?_
  by_cases isNull : [110, 117, 108, 108].isPrefixOf rest = true
  · simp only [if_pos isNull, Option.map_some]
    exact position_word inside isNull ▸ yields_pure _
  · simp only [if_neg isNull]
    refine yields_bind falsity ?_
    by_cases isFalse : [102, 97, 108, 115, 101].isPrefixOf rest = true
    · simp only [if_pos isFalse, Option.map_some]
      exact position_word inside isFalse ▸ yields_pure _
    · simp only [if_neg isFalse]
      refine yields_bind truth ?_
      by_cases isTrue : [116, 114, 117, 101].isPrefixOf rest = true
      · simp only [if_pos isTrue, Option.map_some]
        exact position_word inside isTrue ▸ yields_pure _
      · simp only [if_neg isTrue]
        cases rest with
        | nil =>
            refine yields_bind accessAt_end ?_
            exact yields_pure none
        | cons byte rest =>
            refine yields_bind (accessAt_cons inside) ?_
            by_cases quote : byte = 34
            · simp only [if_pos quote]
              refine yields_bind (parseStringAt_refines _ inside) ?_
              simp only [Option.map_map]
              exact yields_pure _
            · by_cases numeral : byte = 45 ∨ isdigit byte
              · simp only [if_neg quote, if_pos numeral]
                refine yields_bind (parseNumberAt_refines _ inside) ?_
                simp only [Option.map_map]
                exact yields_pure _
              · by_cases array : byte = 91
                · simp only [if_neg quote, if_neg numeral, if_pos array]
                  cases levels with
                  | zero => exact yields_pure none
                  | succ less =>
                      exact parseArrayAt_yields (deeper less rfl) (parseValue_shrinks less) inside
                · by_cases object : byte = 123
                  · simp only [if_neg quote, if_neg numeral, if_neg array, if_pos object]
                    cases levels with
                    | zero => exact yields_pure none
                    | succ less =>
                        exact parseObjectAt_yields (deeper less rfl) (parseValue_shrinks less) inside
                  · simp only [if_neg quote, if_neg numeral, if_neg array, if_neg object]
                    exact yields_pure none

theorem parseValueAt_refines (levels : Nat) :
    Refines text (parseValueAt text levels) (parseValue levels) := by
  induction levels with
  | zero => exact parseValueAt_step fun _ none => absurd none (Nat.succ_ne_zero _).symm
  | succ levels ih => exact parseValueAt_step fun less same => Nat.succ.inj same ▸ ih

/-! Whole texts. -/

theorem skipUtf8BomAt_yields : Yields Access.Inside (skipUtf8BomAt text) (position text (skipUtf8Bom text)) := by
  have start : position text text = 0 := Nat.sub_self _
  unfold skipUtf8BomAt skipUtf8Bom
  by_cases four : 4 ≤ text.length
  · have more : 4 < bufferLength text := Nat.lt_succ_of_le four
    have mark := strncmpAt_yields [239, 187, 191] text (List.suffix_refl text) (by decide)
    rw [start] at mark
    rw [if_pos more]
    refine yields_bind mark ?_
    by_cases front : [239, 187, 191].isPrefixOf text = true
    · have taken : text.take 3 = [239, 187, 191] :=
        (List.prefix_iff_eq_take.mp (List.isPrefixOf_iff_prefix.mp front)).symm
      rw [if_pos front, if_pos ⟨four, taken⟩, position_drop (List.suffix_refl text) (by omega), start]
      exact yields_pure _
    · have other : text.take 3 ≠ [239, 187, 191] := by
        intro taken
        exact front (List.isPrefixOf_iff_prefix.mpr (taken ▸ List.take_prefix 3 text))
      rw [if_neg front, if_neg fun both => other both.2, start]
      exact yields_pure _
  · have few : ¬ 4 < bufferLength text := fun more => four (Nat.le_of_lt_succ more)
    rw [if_neg few, if_neg fun both => four both.1, start]
    exact yields_pure _

theorem cJsonParseAt_yields : Yields Access.Inside (cJsonParseAt text) (cJsonParse text) := by
  have start : skipUtf8Bom text <:+ text := by
    unfold skipUtf8Bom
    split
    · exact List.drop_suffix _ _
    · exact List.suffix_refl _
  refine yields_bind skipUtf8BomAt_yields (yields_bind (skipWhitespaceAt_yields start)
    (yields_bind (parseValueAt_refines _ _ ((skipWhitespace_suffix _).trans start)) ?_))
  rw [Option.map_map]
  exact yields_pure _

end Positions

/-- Whatever the text, no byte outside it is read, the 64 bytes for a number suffice,
and every string fits in the memory allocated for it. -/
theorem parser_memory (text : Bytes) :
    result (cJsonParseAt text) = cJsonParse text ∧
      ∀ access ∈ accesses (cJsonParseAt text), access.Inside :=
  ⟨yields_result cJsonParseAt_yields, yields_inside cJsonParseAt_yields⟩

end LnpResolver.CJsonMemory

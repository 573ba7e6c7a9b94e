import LnpResolver.BoundedAccess
import LnpResolver.CJsonPrinter

/-!
The printer of libs/cJSON.c on its buffer, which `ensure` lets grow. What is in the
memory before it is written is arbitrary, and an allocation does not fail. Every
access stays inside its array; the text is printed, or it is too long for an int.
-/

namespace LnpResolver.CJsonPrintBuffer

open PackedBytes CStrings Doubles JsonDocuments JsonItems RecordedAccess BoundedAccess CJsonParser
  CJsonPrinter

/-- The memory of the buffer; its length is that of the list. -/
structure Printbuffer where
  buffer : Bytes
  offset : Nat

abbrev Printing := OptionT Touching Printbuffer

/-- INT_MAX, as a size. -/
def largestInt : Nat := 2147483647

section Program

variable (fresh : Nat → UInt8)

/-- New memory behind the old one. -/
def reallocate (p : Printbuffer) (size : Nat) : Printbuffer :=
  { p with
    buffer := p.buffer ++ (List.range' p.buffer.length (size - p.buffer.length)).map fresh }

def ensure (p : Printbuffer) (needed : Nat) : Printing :=
  if 0 < p.buffer.length ∧ p.buffer.length ≤ p.offset then failure
  else if largestInt < needed then failure
  else
    let needed := needed + (p.offset + 1)
    if needed ≤ p.buffer.length then return p
    else if largestInt / 2 < needed then
      if needed ≤ largestInt then return reallocate fresh p largestInt else failure
    else return reallocate fresh p (needed * 2)

def storeAt (p : Printbuffer) (index : Nat) (bytes : Bytes) : Touching Printbuffer := do
  touchRange index bytes.length p.buffer.length
  return { p with buffer := p.buffer.take index ++ (bytes ++ p.buffer.drop (index + bytes.length)) }

def store (p : Printbuffer) (bytes : Bytes) : Printing := OptionT.lift (storeAt p p.offset bytes)

/-- The length of the C string at the offset is added to it. -/
def updateOffset (p : Printbuffer) : Printing := OptionT.lift do
  let length := (cString (p.buffer.drop p.offset)).length
  touchRange p.offset (length + 1) p.buffer.length
  return { p with offset := p.offset + length }

/-- What sprintf leaves in number_buffer. -/
def numberBuffer : Double → Touching Bytes
  | .infinite _ => do
      touchRange 0 (nullText.length + 1) 26
      return nullText
  | .finite negative magnitude => do
      let short := (spelled 15 negative magnitude).text
      let long := (spelled 17 negative magnitude).text
      touchRange 0 (short.length + 1) 26
      match strtod short with
      | none => do
          touchRange 0 (long.length + 1) 26
          return long
      | some (test, _) =>
          if sameNumber test (.finite negative magnitude) then return short
          else do
            touchRange 0 (long.length + 1) 26
            return long

def printNumberAt (valuedouble : Double) (p : Printbuffer) : Printing := do
  let number ← OptionT.lift (numberBuffer valuedouble)
  if 25 < number.length then failure
  else do
    let p ← ensure fresh p (number.length + 1)
    let p ← store p (number ++ [0])
    return { p with offset := p.offset + number.length }

/-! Strings: one pass counts, the other one writes. -/

def escapeCharacters (byte : UInt8) : Nat :=
  if byte = 34 ∨ byte = 92 ∨ byte = 8 ∨ byte = 12 ∨ byte = 10 ∨ byte = 13 ∨ byte = 9 then 1
  else if byte < 32 then 5
  else 0

def countEscapes (input : Bytes) : Nat := (input.map escapeCharacters).sum

/-- sprintf terminates the digits of a code; the next byte is stored over that. -/
def storeEscaped : Bytes → Nat → Printbuffer → Touching Printbuffer
  | [], _, p => return p
  | byte :: input, outputPointer, p =>
      if isNormal byte then do
        let p ← storeAt p outputPointer [byte]
        storeEscaped input (outputPointer + 1) p
      else do
        let p ← storeAt p outputPointer [92]
        match escapeLetter byte with
        | some letter => do
            let p ← storeAt p (outputPointer + 1) [letter]
            storeEscaped input (outputPointer + 2) p
        | none => do
            let p ← storeAt p (outputPointer + 1) (117 :: (codeDigits byte ++ [0]))
            storeEscaped input (outputPointer + 6) p

def printStringPtrAt (text : Bytes) (p : Printbuffer) : Printing := do
  let input := cString text
  let outputLength := input.length + countEscapes input
  let p ← ensure fresh p (outputLength + 3)
  if countEscapes input = 0 then OptionT.lift do
    let p ← storeAt p p.offset [34]
    let p ← storeAt p (p.offset + 1) input
    storeAt p (p.offset + (outputLength + 1)) [34, 0]
  else OptionT.lift do
    let p ← storeAt p p.offset [34]
    let p ← storeEscaped input (p.offset + 1) p
    storeAt p (p.offset + (outputLength + 1)) [34, 0]

mutual

def printValueAt : Item → Printbuffer → Printing
  | .null, p => do
      let p ← ensure fresh p 5
      store p (nullText ++ [0])
  | .bool false, p => do
      let p ← ensure fresh p 6
      store p (falseText ++ [0])
  | .bool true, p => do
      let p ← ensure fresh p 5
      store p (trueText ++ [0])
  | .number valuedouble, p => printNumberAt fresh valuedouble p
  | .string valuestring, p => printStringPtrAt fresh valuestring p
  | .array items, p => do
      let p ← ensure fresh p 1
      let p ← store p [91]
      let p ← printElementsAt items { p with offset := p.offset + 1 }
      let p ← ensure fresh p 2
      store p [93, 0]
  | .object members, p => do
      let p ← ensure fresh p 2
      let p ← store p [123]
      let p ← printMembersAt members { p with offset := p.offset + 1 }
      let p ← ensure fresh p 2
      store p [125, 0]

def printElementsAt : List Item → Printbuffer → Printing
  | [], p => return p
  | item :: items, p => do
      let p ← printValueAt item p
      let p ← updateOffset p
      if items.isEmpty then printElementsAt items p
      else do
        let p ← ensure fresh p 2
        let p ← store p [44, 0]
        printElementsAt items { p with offset := p.offset + 1 }

def printMembersAt : List (Bytes × Item) → Printbuffer → Printing
  | [], p => return p
  | (name, item) :: members, p => do
      let p ← printStringPtrAt fresh name p
      let p ← updateOffset p
      let p ← ensure fresh p 1
      let p ← store p [58]
      let p ← printValueAt item { p with offset := p.offset + 1 }
      let p ← updateOffset p
      let comma : Bytes := if members.isEmpty then [] else [44]
      let p ← ensure fresh p (comma.length + 1)
      let p ← store p (comma ++ [0])
      printMembersAt members { p with offset := p.offset + comma.length }

end

/-- The memory is cut behind the terminator. -/
def cJsonPrintUnformattedAt (item : Item) : OptionT Touching Bytes := do
  let p ← printValueAt fresh item ⟨(List.range 256).map fresh, 0⟩
  let p ← updateOffset p
  return cString (p.buffer.take (p.offset + 1))

end Program

/-- The text of a document, if its size with the terminator and one byte more is an int. -/
def cJsonPrintUnformatted (item : Item) : Option Bytes :=
  if (printValue item).length + 2 ≤ largestInt then some (printValue item) else none

/-! The buffer. -/

/-- The buffer begins with the text that was printed, and has at least so many bytes left. -/
def Holds (text : Bytes) (spare : Nat) (p : Printbuffer) : Prop :=
  ∃ rest, p.buffer = text ++ rest ∧ p.offset = text.length ∧ spare ≤ rest.length ∧
    p.buffer.length ≤ largestInt

/-- Behind the text stand other bytes that were stored. -/
def Stored (text bytes : Bytes) (spare : Nat) (p : Printbuffer) : Prop :=
  ∃ rest, p.buffer = text ++ (bytes ++ rest) ∧ p.offset = text.length ∧ spare ≤ rest.length ∧
    p.buffer.length ≤ largestInt

/-- The text has a terminator, and the offset is at most that of the terminator. -/
def Rendered (text : Bytes) (p : Printbuffer) : Prop :=
  ∃ done left rest, text = done ++ left ∧ 0 ∉ left ∧ p.buffer = text ++ 0 :: rest ∧
    p.offset = done.length ∧ 1 ≤ rest.length ∧ p.buffer.length ≤ largestInt

theorem cString_terminated {text : Bytes} (noNul : 0 ∉ text) (rest : Bytes) :
    cString (text ++ 0 :: rest) = text := by
  have plain : ∀ byte ∈ text, decide (byte ≠ 0) = true := fun byte member =>
    decide_eq_true fun zero => noNul (zero ▸ member)
  rw [cString, List.takeWhile_append_of_pos plain]
  simp

theorem holds_less {text : Bytes} {spare less : Nat} {p : Printbuffer} (holds : Holds text spare p)
    (fewer : less ≤ spare) : Holds text less p := by
  obtain ⟨rest, shape, place, room, size⟩ := holds
  exact ⟨rest, shape, place, fewer.trans room, size⟩

theorem stored_rendered {text piece : Bytes} {p : Printbuffer}
    (stored : Stored text (piece ++ [0]) 1 p) (noNul : 0 ∉ piece) : Rendered (text ++ piece) p := by
  obtain ⟨rest, shape, place, room, size⟩ := stored
  exact ⟨text, piece, rest, rfl, noNul, by simpa using shape, place, room, size⟩

theorem stored_advanced {text piece more : Bytes} {spare : Nat} {p : Printbuffer}
    (stored : Stored text (piece ++ more) spare p) :
    Holds (text ++ piece) (more.length + spare) { p with offset := p.offset + piece.length } := by
  obtain ⟨rest, shape, place, room, size⟩ := stored
  refine ⟨more ++ rest, by simpa using shape, by simp [place], ?_, size⟩
  rw [List.length_append]
  omega

section Buffer

variable {fresh : Nat → UInt8} {total : Nat}

theorem reallocate_length {p : Printbuffer} {size : Nat} (larger : p.buffer.length ≤ size) :
    (reallocate fresh p size).buffer.length = size := by
  rw [reallocate, List.length_append, List.length_map, List.length_range']
  omega

theorem reallocate_holds {text : Bytes} {spare size : Nat} {p : Printbuffer} (holds : Holds text 1 p)
    (larger : p.buffer.length ≤ size) (enough : text.length + spare ≤ size) (fits : size ≤ largestInt) :
    Holds text spare (reallocate fresh p size) := by
  have length : (reallocate fresh p size).buffer.length = size := reallocate_length larger
  obtain ⟨rest, shape, place, room, -⟩ := holds
  have grown : (reallocate fresh p size).buffer = text ++ (rest ++
      (List.range' p.buffer.length (size - p.buffer.length)).map fresh) := by
    rw [reallocate, ← List.append_assoc, ← shape]
  refine ⟨_, grown, place, ?_, length.trans_le fits⟩
  rw [grown, List.length_append] at length
  omega

/-- Only what an int does not count is refused. -/
theorem ensure_delivers {text : Bytes} {needed : Nat} {p : Printbuffer} (holds : Holds text 1 p)
    (inside : text.length + (needed + 1) ≤ total) :
    Delivers (ensure fresh p needed) (Holds text (needed + 1)) (largestInt < total) := by
  obtain ⟨rest, shape, place, room, size⟩ := holds
  have length : p.buffer.length = text.length + rest.length := by rw [shape, List.length_append]
  have valid : ¬ (0 < p.buffer.length ∧ p.buffer.length ≤ p.offset) := by omega
  have before : Holds text 1 p := ⟨rest, shape, place, room, size⟩
  rw [ensure, if_neg valid]
  by_cases large : largestInt < needed
  · rw [if_pos large]
    exact delivers_failure (by omega)
  · rw [if_neg large]
    by_cases already : needed + (p.offset + 1) ≤ p.buffer.length
    · simp only [if_pos already]
      exact delivers_pure ⟨rest, shape, place, by omega, size⟩
    · simp only [if_neg already]
      by_cases half : largestInt / 2 < needed + (p.offset + 1)
      · simp only [if_pos half]
        by_cases fits : needed + (p.offset + 1) ≤ largestInt
        · rw [if_pos fits]
          exact delivers_pure (reallocate_holds before size (by omega) (Nat.le_refl _))
        · rw [if_neg fits]
          exact delivers_failure (by omega)
      · simp only [if_neg half]
        exact delivers_pure (reallocate_holds before (by omega) (by omega) (by omega))

/-- The bytes of a part are replaced. -/
theorem storeAt_yields (front old back bytes : Bytes) (offset : Nat) (same : old.length = bytes.length) :
    Yields Access.Inside (storeAt ⟨front ++ (old ++ back), offset⟩ front.length bytes)
      ⟨front ++ (bytes ++ back), offset⟩ := by
  have inside : front.length + bytes.length ≤ (front ++ (old ++ back)).length := by
    simp only [List.length_append]
    omega
  have stored : (front ++ (old ++ back)).take front.length ++
      (bytes ++ (front ++ (old ++ back)).drop (front.length + bytes.length)) =
      front ++ (bytes ++ back) := by
    rw [List.take_left, ← List.drop_drop, List.drop_left, ← same, List.drop_left]
  refine yields_then (yields_touchRange inside) ?_
  simp only [stored]
  exact yields_pure _

/-- The same, whatever stood there. -/
theorem storeAt_room (front room bytes : Bytes) (offset : Nat) (enough : bytes.length ≤ room.length) :
    Yields Access.Inside (storeAt ⟨front ++ room, offset⟩ front.length bytes)
      ⟨front ++ (bytes ++ room.drop bytes.length), offset⟩ := by
  have stored := storeAt_yields front (room.take bytes.length) (room.drop bytes.length) bytes offset
    (List.length_take_of_le enough)
  rwa [List.take_append_drop] at stored

theorem store_delivers {text bytes : Bytes} {spare : Nat} {p : Printbuffer} {reason : Prop}
    (holds : Holds text (bytes.length + spare) p) :
    Delivers (store p bytes) (Stored text bytes spare) reason := by
  obtain ⟨buffer, offset⟩ := p
  obtain ⟨rest, rfl, rfl, room, size⟩ := holds
  refine delivers_lift (storeAt_room text rest bytes _ (by omega)) ⟨_, rfl, rfl, ?_, ?_⟩
  · rw [List.length_drop]
    omega
  · simp only [List.length_append, List.length_drop] at size ⊢
    omega

theorem updateOffset_delivers {text : Bytes} {p : Printbuffer} {reason : Prop}
    (rendered : Rendered text p) :
    Delivers (updateOffset p) (fun p => Rendered text p ∧ p.offset = text.length) reason := by
  obtain ⟨buffer, offset⟩ := p
  obtain ⟨done, left, rest, rfl, noNul, rfl, rfl, room, size⟩ := rendered
  have behind : cString ((done ++ left ++ 0 :: rest).drop done.length) = left := by
    rw [List.append_assoc, List.drop_left]
    exact cString_terminated noNul rest
  refine ⟨some ⟨done ++ left ++ 0 :: rest, done.length + left.length⟩, ?_, ?_⟩
  · refine yields_bind ?_ (yields_pure _)
    simp only [behind]
    refine yields_then (yields_touchRange ?_) (yields_pure _)
    simp only [List.length_append, List.length_cons]
    omega
  · have whole : done.length + left.length = (done ++ left).length := List.length_append.symm
    exact ⟨⟨done ++ left, [], rest, by simp, List.not_mem_nil, rfl, whole, room, size⟩, whole⟩

theorem rendered_holds {text : Bytes} {p : Printbuffer} (rendered : Rendered text p)
    (place : p.offset = text.length) : Holds text 2 p := by
  obtain ⟨done, left, rest, -, -, shape, -, room, size⟩ := rendered
  refine ⟨0 :: rest, shape, place, ?_, size⟩
  rw [List.length_cons]
  omega

end Buffer

/-! Numbers. -/

theorem stored_passed {text piece : Bytes} {p : Printbuffer}
    (stored : Stored text (piece ++ [0]) 1 p) :
    Rendered (text ++ piece) { p with offset := p.offset + piece.length } := by
  obtain ⟨rest, shape, place, room, size⟩ := stored
  exact ⟨text ++ piece, [], rest, by simp, List.not_mem_nil, by simpa using shape, by simp [place],
    room, size⟩

theorem printValue_noNul (item : Item) : 0 ∉ printValue item := by
  rw [← document_text]
  exact document_noNul _

theorem printStringPtr_noNul (input : Bytes) : 0 ∉ printStringPtr input :=
  printValue_noNul (.string input)

/-- number_buffer is large enough. -/
theorem numberBuffer_yields (valuedouble : Double) :
    Yields Access.Inside (numberBuffer valuedouble) (printNumber valuedouble) := by
  cases valuedouble with
  | infinite negative => exact yields_then (yields_touchRange (by decide)) (yields_pure _)
  | finite negative magnitude =>
      have short := spelled_length 15 negative magnitude
      have long := spelled_length 17 negative magnitude
      have stored : Yields Access.Inside (touchRange 0 ((spelled 17 negative magnitude).text.length + 1) 26) () :=
        yields_touchRange (by omega)
      rw [numberBuffer, printNumber]
      refine yields_then (yields_touchRange (by omega)) ?_
      cases strtod (spelled 15 negative magnitude).text with
      | none => exact yields_then stored (yields_pure _)
      | some test =>
          simp only
          by_cases same : sameNumber test.1 (.finite negative magnitude) = true
          · simp only [if_pos same]
            exact yields_pure _
          · simp only [if_neg same]
            exact yields_then stored (yields_pure _)

theorem printNumber_length (valuedouble : Double) : (printNumber valuedouble).length ≤ 24 := by
  cases valuedouble with
  | infinite negative => exact (by decide : nullText.length ≤ 24)
  | finite negative magnitude =>
      rw [printNumber_text]
      exact printedNumber_length negative magnitude

section Values

variable {fresh : Nat → UInt8} {total : Nat}

theorem printNumberAt_delivers (valuedouble : Double) {text : Bytes} {p : Printbuffer}
    (holds : Holds text 1 p) (inside : text.length + (printNumber valuedouble).length + 2 ≤ total) :
    Delivers (printNumberAt fresh valuedouble p) (Rendered (text ++ printNumber valuedouble))
      (largestInt < total) := by
  have short : ¬ 25 < (printNumber valuedouble).length := by
    have size := printNumber_length valuedouble
    omega
  have number : Delivers (OptionT.lift (numberBuffer valuedouble)) (· = printNumber valuedouble)
      (largestInt < total) := delivers_lift (numberBuffer_yields valuedouble) rfl
  refine delivers_bind number ?_
  rintro _ rfl
  rw [if_neg short]
  refine delivers_bind (ensure_delivers holds (by omega)) fun p held => ?_
  have room : Holds text ((printNumber valuedouble ++ [0]).length + 1) p := by
    rw [List.length_append]
    exact held
  exact delivers_bind (store_delivers room) fun p stored => delivers_pure (stored_passed stored)

/-! Strings. -/

theorem escapedByte_length (byte : UInt8) :
    (escapedByte byte).length = 1 + escapeCharacters byte := by
  have table : ∀ code : Fin 256, (escapedByte (UInt8.ofNat code.val)).length =
      1 + escapeCharacters (UInt8.ofNat code.val) := by decide +kernel
  have row := table ⟨byte.toNat, byte.toNat_lt⟩
  rwa [UInt8.ofNat_toNat] at row

theorem escapedByte_plain {byte : UInt8} (plain : escapeCharacters byte = 0) :
    escapedByte byte = [byte] := by
  have table : ∀ code : Fin 256, escapeCharacters (UInt8.ofNat code.val) = 0 →
      escapedByte (UInt8.ofNat code.val) = [UInt8.ofNat code.val] := by decide +kernel
  have row := table ⟨byte.toNat, byte.toNat_lt⟩
  rw [UInt8.ofNat_toNat] at row
  exact row plain

/-- Both passes agree on the length. -/
theorem escapedText_length (input : Bytes) :
    (escapedText input).length = input.length + countEscapes input := by
  induction input with
  | nil => rfl
  | cons byte input ih =>
      simp only [escapedText, countEscapes, List.flatMap_cons, List.length_append, List.length_cons,
        List.map_cons, List.sum_cons, escapedByte_length] at ih ⊢
      omega

theorem escapedText_plain {input : Bytes} (plain : countEscapes input = 0) :
    escapedText input = input := by
  induction input with
  | nil => rfl
  | cons byte input ih =>
      rw [countEscapes, List.map_cons, List.sum_cons] at plain
      rw [escapedText, List.flatMap_cons, escapedByte_plain (by omega)]
      exact congrArg (byte :: ·) (ih (by rw [countEscapes]; omega))

/-- The same with the place after the bytes as the new end. -/
theorem storeAt_next (front room bytes more : Bytes) (offset : Nat)
    (enough : (bytes ++ more).length ≤ room.length) :
    ∃ left, left.length + bytes.length = room.length ∧
      Yields Access.Inside (storeAt ⟨front ++ room, offset⟩ front.length (bytes ++ more))
        ⟨(front ++ bytes) ++ left, offset⟩ := by
  refine ⟨more ++ room.drop (bytes ++ more).length, ?_, ?_⟩
  · simp only [List.length_append, List.length_drop] at enough ⊢
    omega
  · have stored := storeAt_room front room (bytes ++ more) offset enough
    rwa [List.append_assoc bytes more, ← List.append_assoc front bytes] at stored

theorem storeEscaped_yields (input front room : Bytes) (offset : Nat)
    (enough : (escapedText input).length + 1 ≤ room.length) :
    ∃ left, left.length + (escapedText input).length = room.length ∧
      Yields Access.Inside (storeEscaped input front.length ⟨front ++ room, offset⟩)
        ⟨front ++ (escapedText input ++ left), offset⟩ := by
  induction input generalizing front room with
  | nil => exact ⟨room, rfl, yields_pure _⟩
  | cons byte input ih =>
      have text : escapedText (byte :: input) = escapedByte byte ++ escapedText input := rfl
      rw [text, List.length_append] at enough
      -- the others, behind what was stored for the first
      have later : ∀ room' : Bytes, room'.length + (escapedByte byte).length = room.length →
          ∃ left, left.length + (escapedText (byte :: input)).length = room.length ∧
            Yields Access.Inside (storeEscaped input (front.length + (escapedByte byte).length)
                ⟨(front ++ escapedByte byte) ++ room', offset⟩)
              ⟨front ++ (escapedText (byte :: input) ++ left), offset⟩ := by
        intro room' size
        obtain ⟨left, length, yields⟩ := ih (front ++ escapedByte byte) room' (by omega)
        refine ⟨left, by rw [text, List.length_append]; omega, ?_⟩
        rw [List.length_append] at yields
        simpa only [text, List.append_assoc] using yields
      rw [storeEscaped]
      by_cases normal : isNormal byte = true
      · have piece : escapedByte byte = [byte] := by rw [escapedByte, if_pos normal]
        rw [piece] at later enough
        obtain ⟨behind, size, first⟩ := storeAt_next front room [byte] [] offset
          (by rw [List.append_nil]; omega)
        obtain ⟨left, length, others⟩ := later behind size
        rw [if_pos normal]
        exact ⟨left, length, yields_bind first others⟩
      · cases known : escapeLetter byte with
        | some letter =>
            have piece : escapedByte byte = [92] ++ [letter] := by
              rw [escapedByte, if_neg normal, known]
              rfl
            rw [piece] at later enough
            simp only [List.length_append, List.length_singleton] at enough
            obtain ⟨middle, size, first⟩ := storeAt_next front room [92] [] offset
              (by rw [List.append_nil, List.length_singleton]; omega)
            rw [List.length_singleton] at size
            obtain ⟨behind, size', second⟩ := storeAt_next (front ++ [92]) middle [letter] [] offset
              (by rw [List.append_nil, List.length_singleton]; omega)
            rw [List.length_singleton] at size'
            rw [List.length_append] at second
            obtain ⟨left, length, others⟩ := later behind (by
              rw [List.length_append, List.length_singleton, List.length_singleton]
              omega)
            rw [← List.append_assoc front] at others
            rw [if_neg normal]
            exact ⟨left, length, yields_bind first (yields_bind second others)⟩
        | none =>
            have piece : escapedByte byte = [92] ++ (117 :: codeDigits byte) := by
              rw [escapedByte, if_neg normal, known]
              rfl
            have five : (117 :: codeDigits byte).length = 5 := rfl
            rw [piece] at later enough
            simp only [List.length_append, List.length_singleton, five] at enough
            obtain ⟨middle, size, first⟩ := storeAt_next front room [92] [] offset
              (by rw [List.append_nil, List.length_singleton]; omega)
            rw [List.length_singleton] at size
            obtain ⟨behind, size', second⟩ := storeAt_next (front ++ [92]) middle
              (117 :: codeDigits byte) [0] offset
              (by rw [List.length_append, five, List.length_singleton]; omega)
            rw [five] at size'
            rw [List.length_append] at second
            obtain ⟨left, length, others⟩ := later behind (by
              rw [List.length_append, List.length_singleton, five]
              omega)
            rw [← List.append_assoc front] at others
            rw [if_neg normal]
            exact ⟨left, length, yields_bind first (yields_bind second others)⟩

theorem printStringPtrAt_delivers (input : Bytes) {text : Bytes} {p : Printbuffer}
    (holds : Holds text 1 p) (inside : text.length + (printStringPtr input).length + 2 ≤ total) :
    Delivers (printStringPtrAt fresh input p) (Rendered (text ++ printStringPtr input))
      (largestInt < total) := by
  have size := escapedText_length (cString input)
  have length : (printStringPtr input).length = (escapedText (cString input)).length + 2 := by
    simp [printStringPtr]
  refine delivers_bind (ensure_delivers holds (by omega)) fun p held => ?_
  obtain ⟨buffer, offset⟩ := p
  obtain ⟨rest, rfl, rfl, room, most⟩ := held
  simp only at room most
  obtain ⟨behind, size₁, opening⟩ := storeAt_next text rest [34] [] text.length
    (by rw [List.append_nil, List.length_singleton]; omega)
  rw [List.length_singleton] at size₁
  -- the closing quotation mark goes where the count says
  have closing : ∀ left : Bytes, left.length + (escapedText (cString input)).length = behind.length →
      ∃ q, Rendered (text ++ printStringPtr input) q ∧
        Yields Access.Inside (storeAt ⟨text ++ [34] ++ (escapedText (cString input) ++ left), text.length⟩
          (text.length + ((cString input).length + countEscapes (cString input) + 1)) [34, 0]) q := by
    intro left size₂
    have two : ([34, 0] : Bytes).length = 2 := rfl
    have stored := storeAt_room (text ++ [34] ++ escapedText (cString input)) left [34, 0] text.length
      (by rw [two]; omega)
    have place : (text ++ [34] ++ escapedText (cString input)).length =
        text.length + ((cString input).length + countEscapes (cString input) + 1) := by
      simp only [List.length_append, List.length_singleton, size]
      omega
    rw [place, List.append_assoc (text ++ [34])] at stored
    refine ⟨_, stored_rendered ⟨left.drop 2, ?_, rfl, ?_, ?_⟩ (printStringPtr_noNul input), stored⟩
    · simp [printStringPtr]
    · rw [List.length_drop]
      omega
    · simp only [List.length_append, List.length_drop, List.length_singleton, two] at most ⊢
      omega
  by_cases plain : countEscapes (cString input) = 0
  · obtain ⟨left, size₂, body⟩ := storeAt_next (text ++ [34]) behind (cString input) [] text.length
      (by rw [List.append_nil]; omega)
    obtain ⟨q, rendered, final⟩ := closing left (by omega)
    rw [List.append_nil, List.length_append, List.append_assoc _ (cString input) left] at body
    rw [escapedText_plain plain] at final
    simp only [if_pos plain]
    exact delivers_lift (yields_bind opening (yields_bind body final)) rendered
  · obtain ⟨left, size₂, body⟩ := storeEscaped_yields (cString input) (text ++ [34]) behind text.length
      (by omega)
    obtain ⟨q, rendered, final⟩ := closing left size₂
    rw [List.length_append] at body
    simp only [if_neg plain]
    exact delivers_lift (yields_bind opening (yields_bind body final)) rendered

/-! Values. -/

theorem store_rendered {text piece : Bytes} {p : Printbuffer} {reason : Prop} (noNul : 0 ∉ piece)
    (held : Holds text (piece.length + 2) p) :
    Delivers (store p (piece ++ [0])) (Rendered (text ++ piece)) reason := by
  have room : Holds text ((piece ++ [0]).length + 1) p := by
    rw [List.length_append]
    exact held
  exact delivers_weaken (store_delivers room) (fun _ stored => stored_rendered stored noNul) id

theorem store_closing {text : Bytes} {byte : UInt8} {p : Printbuffer} {reason : Prop}
    (noNul : (0 : UInt8) ≠ byte) (held : Holds text 3 p) :
    Delivers (store p [byte, 0]) (Rendered (text ++ [byte])) reason := by
  have rendered : Delivers (store p ([byte] ++ [0])) (Rendered (text ++ [byte])) reason :=
    store_rendered (fun member => noNul (List.mem_singleton.mp member)) held
  exact rendered

/-- A piece is stored and passed. -/
theorem store_advanced {text piece more : Bytes} {spare : Nat} {p : Printbuffer} {reason : Prop}
    (held : Holds text (piece.length + (more.length + spare)) p) :
    Delivers (store p (piece ++ more))
      (fun p => Holds (text ++ piece) (more.length + spare) { p with offset := p.offset + piece.length })
      reason := by
  have room : Holds text ((piece ++ more).length + spare) p := by
    rw [List.length_append, Nat.add_assoc]
    exact held
  exact delivers_weaken (store_delivers room) (fun _ stored => stored_advanced stored) id

theorem store_byte {text : Bytes} (byte : UInt8) {spare : Nat} {p : Printbuffer} {reason : Prop}
    (held : Holds text (spare + 1) p) :
    Delivers (store p [byte])
      (fun p => Holds (text ++ [byte]) spare { p with offset := p.offset + 1 }) reason := by
  have room : Holds text (([byte] : Bytes).length + (([] : Bytes).length + spare)) p := by
    rw [List.length_singleton, List.length_nil, Nat.zero_add, Nat.add_comm]
    exact held
  have advanced : Delivers (store p ([byte] ++ [])) _ reason := store_advanced room
  rwa [List.append_nil, List.length_nil, Nat.zero_add] at advanced

/-- What is stored between two values, with its terminator. -/
theorem store_passed {text piece : Bytes} {p : Printbuffer} {reason : Prop}
    (held : Holds text (piece.length + 2) p) :
    Delivers (store p (piece ++ [0]))
      (fun p => Holds (text ++ piece) 1 { p with offset := p.offset + piece.length }) reason := by
  have advanced : Delivers (store p (piece ++ [0]))
      (fun p => Holds (text ++ piece) (([0] : Bytes).length + 1)
        { p with offset := p.offset + piece.length }) reason := store_advanced held
  exact delivers_weaken advanced (fun _ holds => holds_less holds (by decide)) id

theorem store_comma {text : Bytes} {p : Printbuffer} {reason : Prop} (held : Holds text 3 p) :
    Delivers (store p [44, 0]) (fun p => Holds (text ++ [44]) 1 { p with offset := p.offset + 1 })
      reason := by
  have passed : Delivers (store p ([44] ++ [0]))
      (fun p => Holds (text ++ [44]) 1 { p with offset := p.offset + 1 }) reason := store_passed held
  exact passed

theorem updateOffset_holds {text : Bytes} {p : Printbuffer} {reason : Prop} (rendered : Rendered text p) :
    Delivers (updateOffset p) (Holds text 1) reason :=
  delivers_weaken (updateOffset_delivers rendered)
    (fun _ both => holds_less (rendered_holds both.1 both.2) (by decide)) id

mutual

theorem printValueAt_delivers (item : Item) {text : Bytes} {p : Printbuffer} (holds : Holds text 1 p)
    (inside : text.length + (printValue item).length + 2 ≤ total) :
    Delivers (printValueAt fresh item p) (Rendered (text ++ printValue item)) (largestInt < total) := by
  match item with
  | .null =>
      exact delivers_bind (ensure_delivers holds (by simpa [printValue, nullText] using inside))
        fun p held => store_rendered (printValue_noNul .null) held
  | .bool true =>
      exact delivers_bind (ensure_delivers holds (by simpa [printValue, trueText] using inside))
        fun p held => store_rendered (printValue_noNul (.bool true)) held
  | .bool false =>
      exact delivers_bind (ensure_delivers holds (by simpa [printValue, falseText] using inside))
        fun p held => store_rendered (printValue_noNul (.bool false)) held
  | .number valuedouble => exact printNumberAt_delivers valuedouble holds inside
  | .string valuestring => exact printStringPtrAt_delivers valuestring holds inside
  | .array items =>
      have length : (printValue (.array items)).length = (printElements items).length + 2 := by
        simp [printValue]
      have whole : text ++ printValue (.array items) = (text ++ [91] ++ printElements items) ++ [93] := by
        simp [printValue]
      rw [whole]
      refine delivers_bind (ensure_delivers holds (by omega)) fun p held => ?_
      refine delivers_bind (store_byte 91 held) fun p held => ?_
      refine delivers_bind (printElementsAt_delivers items held ?_) fun p held => ?_
      · rw [List.length_append, List.length_singleton]
        omega
      refine delivers_bind (ensure_delivers held ?_) fun p held => ?_
      · simp only [List.length_append, List.length_singleton]
        omega
      exact store_closing (by decide) held
  | .object members =>
      have length : (printValue (.object members)).length = (printMembers members).length + 2 := by
        simp [printValue]
      have whole : text ++ printValue (.object members) =
          (text ++ [123] ++ printMembers members) ++ [125] := by
        simp [printValue]
      rw [whole]
      refine delivers_bind (ensure_delivers holds (by omega)) fun p held => ?_
      refine delivers_bind (store_byte 123 held) fun p held => ?_
      refine delivers_bind (printMembersAt_delivers members (holds_less held (by decide)) ?_) fun p held => ?_
      · rw [List.length_append, List.length_singleton]
        omega
      refine delivers_bind (ensure_delivers held ?_) fun p held => ?_
      · simp only [List.length_append, List.length_singleton]
        omega
      exact store_closing (by decide) held

theorem printElementsAt_delivers (items : List Item) {text : Bytes} {p : Printbuffer}
    (holds : Holds text 1 p) (inside : text.length + (printElements items).length + 2 ≤ total) :
    Delivers (printElementsAt fresh items p) (Holds (text ++ printElements items) 1) (largestInt < total) := by
  match items with
  | [] =>
      rw [printElements, List.append_nil]
      exact delivers_pure holds
  | item :: items =>
      have length : (printElements (item :: items)).length =
          (printValue item).length + (separated items (printElements items)).length := by
        rw [printElements, List.length_append]
      have others : ∀ {text : Bytes} {p : Printbuffer}, Holds text 1 p →
          text.length + (printElements items).length + 2 ≤ total →
          Delivers (printElementsAt fresh items p) (Holds (text ++ printElements items) 1)
            (largestInt < total) :=
        fun holds inside => printElementsAt_delivers items holds inside
      rw [printElements, ← List.append_assoc]
      refine delivers_bind (printValueAt_delivers item holds (by omega)) fun p rendered => ?_
      refine delivers_bind (updateOffset_holds rendered) fun p held => ?_
      cases items with
      | nil =>
          have last : separated ([] : List Item) (printElements []) = printElements [] := rfl
          rw [last] at length ⊢
          exact others held (by rw [List.length_append]; omega)
      | cons next items =>
          rw [separated, List.length_cons] at length
          refine delivers_bind (ensure_delivers held ?_) fun p held => ?_
          · rw [List.length_append]
            omega
          refine delivers_bind (store_comma held) fun p held => ?_
          have rest := others held (by rw [List.length_append, List.length_append, List.length_singleton]; omega)
          rwa [List.append_assoc _ [44]] at rest

theorem printMembersAt_delivers (members : List (Bytes × Item)) {text : Bytes} {p : Printbuffer}
    (holds : Holds text 1 p) (inside : text.length + (printMembers members).length + 2 ≤ total) :
    Delivers (printMembersAt fresh members p) (Holds (text ++ printMembers members) 1)
      (largestInt < total) := by
  match members with
  | [] =>
      rw [printMembers, List.append_nil]
      exact delivers_pure holds
  | (name, item) :: members =>
      have length : (printMembers ((name, item) :: members)).length = (printStringPtr name).length +
          ((printValue item).length + (separated members (printMembers members)).length + 1) := by
        rw [printMembers, List.length_append, List.length_cons, List.length_append]
      have others : ∀ {text : Bytes} {p : Printbuffer}, Holds text 1 p →
          text.length + (printMembers members).length + 2 ≤ total →
          Delivers (printMembersAt fresh members p) (Holds (text ++ printMembers members) 1)
            (largestInt < total) :=
        fun holds inside => printMembersAt_delivers members holds inside
      have whole : text ++ printMembers ((name, item) :: members) =
          text ++ printStringPtr name ++ [58] ++ printValue item ++
            separated members (printMembers members) := by
        simp [printMembers]
      rw [whole]
      refine delivers_bind (printStringPtrAt_delivers name holds (by omega)) fun p rendered => ?_
      refine delivers_bind (updateOffset_holds rendered) fun p held => ?_
      refine delivers_bind (ensure_delivers held ?_) fun p held => ?_
      · rw [List.length_append]
        omega
      refine delivers_bind (store_byte 58 held) fun p held => ?_
      refine delivers_bind (printValueAt_delivers item held ?_) fun p rendered => ?_
      · simp only [List.length_append, List.length_singleton]
        omega
      refine delivers_bind (updateOffset_holds rendered) fun p held => ?_
      have before : (text ++ printStringPtr name ++ [58] ++ printValue item).length =
          text.length + (printStringPtr name).length + (printValue item).length + 1 := by
        simp only [List.length_append, List.length_singleton]
        omega
      have comma : separated members (printMembers members) =
          (if members.isEmpty then [] else [44]) ++ printMembers members := by
        cases members <;> rfl
      rw [comma] at length ⊢
      rw [List.length_append] at length
      rw [← List.append_assoc]
      refine delivers_bind (ensure_delivers held ?_) fun p held => ?_
      · rw [before]
        omega
      refine delivers_bind (store_passed held) fun p held => others held ?_
      rw [List.length_append, before]
      omega

end

theorem rendered_fits {text : Bytes} {p : Printbuffer} (rendered : Rendered text p) :
    text.length + 2 ≤ largestInt := by
  obtain ⟨done, left, rest, -, -, shape, -, room, size⟩ := rendered
  rw [shape, List.length_append, List.length_cons] at size
  omega

/-- Behind the text stands the terminator with which the memory is cut. -/
theorem rendered_printed {text : Bytes} {p : Printbuffer} (rendered : Rendered text p)
    (place : p.offset = text.length) (noNul : 0 ∉ text) :
    cString (p.buffer.take (p.offset + 1)) = text := by
  obtain ⟨done, left, rest, -, -, shape, -⟩ := rendered
  have cut : p.buffer.take (p.offset + 1) = text ++ 0 :: [] := by
    rw [shape, place, List.take_length_add_append]
    rfl
  rw [cut, cString_terminated noNul]

theorem print_delivers (item : Item) :
    Delivers (cJsonPrintUnformattedAt fresh item)
      (fun printed => printed = printValue item ∧ (printValue item).length + 2 ≤ largestInt)
      (largestInt < (printValue item).length + 2) := by
  have start : Holds [] 1 ⟨(List.range 256).map fresh, 0⟩ := by
    refine ⟨(List.range 256).map fresh, rfl, rfl, ?_, ?_⟩ <;>
      simp only [List.length_map, List.length_range] <;> decide
  have printed : Delivers (printValueAt fresh item ⟨(List.range 256).map fresh, 0⟩)
      (Rendered ([] ++ printValue item)) (largestInt < (printValue item).length + 2) :=
    printValueAt_delivers item start (Nat.le_of_eq (congrArg (· + 2) (Nat.zero_add _)))
  rw [List.nil_append] at printed
  refine delivers_bind printed fun p rendered => ?_
  refine delivers_bind (updateOffset_delivers rendered) fun p both => ?_
  exact delivers_pure ⟨rendered_printed both.1 both.2 (printValue_noNul item), rendered_fits both.1⟩

end Values

/-- Whatever the document and whatever the memory held before: no byte outside a buffer
is read or written, the text of the document is printed, and only a text that is too long
is refused. -/
theorem printer_memory (fresh : Nat → UInt8) (item : Item) :
    result (cJsonPrintUnformattedAt fresh item).run = cJsonPrintUnformatted item ∧
      ∀ access ∈ accesses (cJsonPrintUnformattedAt fresh item).run, access.Inside := by
  obtain ⟨outcome, yields, ends⟩ := print_delivers item
  refine ⟨?_, yields_inside yields⟩
  rw [yields_result yields, cJsonPrintUnformatted]
  cases outcome with
  | none => rw [if_neg (Nat.not_le.mpr ends)]
  | some printed => rw [if_pos ends.2, ends.1]

end LnpResolver.CJsonPrintBuffer

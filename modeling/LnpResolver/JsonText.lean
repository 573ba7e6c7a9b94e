import LnpResolver.CStrings

/-!
JSON texts by RFC 8259, read from bytes. A text is UTF-8, a string may be written
with escapes, a number is kept as its spelling. The reader is executable; its
bounds are lengths of what is left to read, so they never cut a valid text short.
-/

namespace JsonText

open PackedBytes CStrings

/-! UTF-8: how many continuation bytes are owed and in what range the next one lies. -/

structure Owed where
  count : Nat := 0
  low : UInt8 := 128
  high : UInt8 := 191
  deriving DecidableEq, Repr

def lead (byte : UInt8) : Option Owed :=
  if byte < 128 then some {}
  else if byte < 194 then none
  else if byte < 224 then some { count := 1 }
  else if byte = 224 then some { count := 2, low := 160 }
  else if byte = 237 then some { count := 2, high := 159 }
  else if byte < 240 then some { count := 2 }
  else if byte = 240 then some { count := 3, low := 144 }
  else if byte < 244 then some { count := 3 }
  else if byte = 244 then some { count := 3, high := 143 }
  else none

def continueWith (owed : Owed) (byte : UInt8) : Option Owed :=
  if owed.count = 0 then lead byte
  else if owed.low ≤ byte ∧ byte ≤ owed.high then some { count := owed.count - 1 }
  else none

def scan (owed : Owed) (text : Bytes) : Option Owed := text.foldlM continueWith owed

def IsUtf8 (text : Bytes) : Prop := scan {} text = some {}

instance (text : Bytes) : Decidable (IsUtf8 text) := inferInstanceAs (Decidable (_ = _))

theorem scan_append (owed : Owed) (front back : Bytes) :
    scan owed (front ++ back) = (scan owed front).bind fun owed => scan owed back :=
  List.foldlM_append

theorem scan_cons (owed : Owed) (byte : UInt8) (rest : Bytes) :
    scan owed (byte :: rest) = (continueWith owed byte).bind fun owed => scan owed rest :=
  List.foldlM_cons

def Ascii (text : Bytes) : Prop := ∀ byte ∈ text, byte < 128

instance (text : Bytes) : Decidable (Ascii text) := List.decidableBAll _ text

theorem scan_ascii (text : Bytes) (ascii : Ascii text) :
    scan {} text = some {} := by
  induction text with
  | nil => rfl
  | cons byte rest ih =>
      have small := ascii byte List.mem_cons_self
      have first : continueWith {} byte = some {} := by simp [continueWith, lead, small]
      rw [scan_cons, first]
      exact ih fun other member => ascii other (List.mem_cons_of_mem _ member)

/-- The states of the machine: an owed byte is no ASCII byte, and owing nothing is
the state between characters. -/
structure Owed.Proper (owed : Owed) : Prop where
  low : 128 ≤ owed.low
  settled : owed.count = 0 → owed = {}

theorem lead_proper (byte : UInt8) (owed : Owed) (read : lead byte = some owed) : owed.Proper := by
  unfold lead at read
  repeat' split at read
  all_goals cases read
  all_goals exact ⟨by decide, by decide⟩

theorem continue_proper (owed after : Owed) (byte : UInt8)
    (read : continueWith owed byte = some after) : after.Proper := by
  unfold continueWith at read
  split at read
  · exact lead_proper byte after read
  · split at read
    · cases read
      refine ⟨(by decide : (128 : UInt8) ≤ 128), ?_⟩
      intro none
      exact congrArg (fun count => ({ count := count } : Owed)) none
    · cases read

theorem scan_proper (text : Bytes) (owed after : Owed) (proper : owed.Proper)
    (read : scan owed text = some after) : after.Proper := by
  induction text generalizing owed with
  | nil =>
      cases read
      exact proper
  | cons byte rest ih =>
      rw [scan_cons] at read
      obtain ⟨middle, first, later⟩ := Option.bind_eq_some_iff.mp read
      exact ih middle (continue_proper owed middle byte first) later

/-- ASCII is read between characters only. -/
theorem continue_ascii (owed after : Owed) (byte : UInt8) (ascii : byte < 128)
    (proper : owed.Proper) (read : continueWith owed byte = some after) : owed = {} := by
  apply proper.settled
  by_contra more
  rw [continueWith, if_neg more] at read
  split at read
  · rename_i range
    have impossible := UInt8.lt_of_le_of_lt (UInt8.le_trans proper.low range.1) ascii
    exact absurd impossible (UInt8.lt_irrefl _)
  · cases read

theorem isUtf8_between (front text back : Bytes) (byte : UInt8)
    (frontAscii : Ascii front) (backAscii : Ascii (byte :: back)) :
    IsUtf8 (front ++ (text ++ byte :: back)) ↔ IsUtf8 text := by
  rw [IsUtf8, scan_append, scan_ascii front frontAscii, Option.bind_some, scan_append]
  constructor
  · intro read
    obtain ⟨owed, whole, later⟩ := Option.bind_eq_some_iff.mp read
    rw [scan_cons] at later
    obtain ⟨after, first, -⟩ := Option.bind_eq_some_iff.mp later
    have proper := scan_proper text {} owed ⟨by decide, fun _ => rfl⟩ whole
    have settled := continue_ascii owed after byte (backAscii byte List.mem_cons_self) proper first
    rw [IsUtf8, whole, settled]
  · intro valid
    rw [valid, Option.bind_some, scan_ascii _ backAscii]

/-! Strings. -/

def quotationMark : UInt8 := 34
def reverseSolidus : UInt8 := 92

def hexQuad : Bytes → Option (Nat × Bytes)
  | a :: b :: c :: d :: rest => do
      let a ← hexDigit a
      let b ← hexDigit b
      let c ← hexDigit c
      let d ← hexDigit d
      return (((a * 16 + b) * 16 + c) * 16 + d, rest)
  | _ => none

def encode (code : Nat) : Bytes :=
  if code < 128 then [UInt8.ofNat code]
  else if code < 2048 then [UInt8.ofNat (192 + code / 64), UInt8.ofNat (128 + code % 64)]
  else if code < 65536 then
    [UInt8.ofNat (224 + code / 4096), UInt8.ofNat (128 + code / 64 % 64),
      UInt8.ofNat (128 + code % 64)]
  else
    [UInt8.ofNat (240 + code / 262144), UInt8.ofNat (128 + code / 4096 % 64),
      UInt8.ofNat (128 + code / 64 % 64), UInt8.ofNat (128 + code % 64)]

/-- The second half of a surrogate pair, if one follows. -/
def lowSurrogate : Bytes → Option (Nat × Bytes)
  | 92 :: 117 :: rest => do
      let (code, rest) ← hexQuad rest
      if 56320 ≤ code ∧ code < 57344 then return (code, rest) else none
  | _ => none

def escapedUnicode (input : Bytes) : Option (Bytes × Bytes) := do
  let (code, rest) ← hexQuad input
  if 55296 ≤ code ∧ code < 56320 then
    match lowSurrogate rest with
    | some (low, rest) =>
        return (encode (65536 + (code - 55296) * 1024 + (low - 56320)), rest)
    | none => return (encode code, rest)
  else return (encode code, rest)

def shortEscapes : List (UInt8 × UInt8) :=
  [(34, 34), (92, 92), (47, 47), (98, 8), (102, 12), (110, 10), (114, 13), (116, 9)]

/-- What stands for an escape, read behind its reverse solidus. -/
def escaped : Bytes → Option (Bytes × Bytes)
  | [] => none
  | byte :: rest =>
      match shortEscapes.lookup byte with
      | some value => some ([value], rest)
      | none => if byte = 117 then escapedUnicode rest else none

def stringWithin : Nat → Bytes → Option (Bytes × Bytes)
  | 0, _ => none
  | _ + 1, [] => none
  | fuel + 1, byte :: rest =>
      if byte = quotationMark then some ([], rest)
      else if byte = reverseSolidus then do
        let (piece, rest) ← escaped rest
        let (text, rest) ← stringWithin fuel rest
        return (piece ++ text, rest)
      else if byte < 32 then none
      else do
        let (text, rest) ← stringWithin fuel rest
        return (byte :: text, rest)

/-- A string behind its opening quotation mark: the text and what follows the closing one. -/
def readString (input : Bytes) : Option (Bytes × Bytes) := stringWithin input.length input

/-- Bytes that stand for themselves inside a string. -/
def Plain (text : Bytes) : Prop :=
  ∀ byte ∈ text, ¬ byte < 32 ∧ byte ≠ quotationMark ∧ byte ≠ reverseSolidus

instance (text : Bytes) : Decidable (Plain text) := List.decidableBAll _ text

theorem stringWithin_plain (fuel : Nat) (text rest : Bytes) (plain : Plain text)
    (enough : text.length < fuel) :
    stringWithin fuel (text ++ quotationMark :: rest) = some (text, rest) := by
  induction text generalizing fuel with
  | nil =>
      obtain ⟨fuel, rfl⟩ : ∃ less, fuel = less + 1 := ⟨fuel - 1, by simp at enough; omega⟩
      simp [stringWithin]
  | cons byte text ih =>
      obtain ⟨fuel, rfl⟩ : ∃ less, fuel = less + 1 := ⟨fuel - 1, by simp at enough; omega⟩
      obtain ⟨printable, noQuote, noEscape⟩ := plain byte List.mem_cons_self
      have later := ih fuel (fun other member => plain other (List.mem_cons_of_mem _ member))
        (Nat.lt_of_succ_lt_succ enough)
      simp [stringWithin, printable, noQuote, noEscape, later]

theorem readString_plain (text rest : Bytes) (plain : Plain text) :
    readString (text ++ quotationMark :: rest) = some (text, rest) := by
  apply stringWithin_plain _ _ _ plain
  rw [List.length_append, List.length_cons]
  omega

theorem encode_length (code : Nat) : (encode code).length ≤ 4 := by
  unfold encode
  repeat' split
  all_goals simp

theorem hexQuad_consumes (input rest : Bytes) (code : Nat) (read : hexQuad input = some (code, rest)) :
    ∃ raw, input = raw ++ rest ∧ raw.length = 4 := by
  unfold hexQuad at read
  split at read
  · rename_i a b c d tail
    simp only [bind, Option.bind_eq_some_iff] at read
    obtain ⟨_, _, _, _, _, _, _, _, same⟩ := read
    cases same
    exact ⟨[a, b, c, d], rfl, rfl⟩
  · cases read

theorem lowSurrogate_consumes (input rest : Bytes) (code : Nat)
    (read : lowSurrogate input = some (code, rest)) : ∃ raw, input = raw ++ rest := by
  unfold lowSurrogate at read
  split at read
  · simp only [bind, Option.bind_eq_some_iff] at read
    obtain ⟨⟨value, tail⟩, quad, chosen⟩ := read
    obtain ⟨raw, rfl, -⟩ := hexQuad_consumes _ _ _ quad
    split at chosen
    · cases chosen
      exact ⟨92 :: 117 :: raw, rfl⟩
    · cases chosen
  · cases read

/-- An escape is longer than what it stands for. -/
theorem escaped_shrinks (input piece rest : Bytes) (read : escaped input = some (piece, rest)) :
    ∃ raw, input = raw ++ rest ∧ piece.length ≤ raw.length := by
  unfold escaped at read
  split at read
  · cases read
  · rename_i byte tail
    split at read
    · cases read
      exact ⟨[byte], rfl, by simp⟩
    · split at read
      · unfold escapedUnicode at read
        simp only [bind, Option.bind_eq_some_iff] at read
        obtain ⟨⟨code, middle⟩, quad, chosen⟩ := read
        obtain ⟨raw, rfl, four⟩ := hexQuad_consumes _ _ _ quad
        repeat' split at chosen
        · rename_i low
          obtain ⟨more, rfl⟩ := lowSurrogate_consumes _ _ _ low
          obtain ⟨rfl, rfl⟩ := Prod.mk.inj (Option.some.inj chosen)
          refine ⟨byte :: (raw ++ more), by simp, ?_⟩
          apply (encode_length _).trans
          simp only [List.length_cons, List.length_append]
          omega
        all_goals
          obtain ⟨rfl, rfl⟩ := Prod.mk.inj (Option.some.inj chosen)
          refine ⟨byte :: raw, by simp, ?_⟩
          apply (encode_length _).trans
          simp only [List.length_cons]
          omega
      · cases read

/-- A string and the bytes it was read from. The text is never longer, and it is
as long only when nothing was escaped. -/
theorem stringWithin_raw (fuel : Nat) (input text rest : Bytes)
    (read : stringWithin fuel input = some (text, rest)) :
    ∃ raw, input = raw ++ quotationMark :: rest ∧ text.length ≤ raw.length ∧
      (raw.length = text.length → raw = text ∧ Plain raw) := by
  induction fuel generalizing input text with
  | zero => cases read
  | succ fuel ih =>
      cases input with
      | nil => cases read
      | cons byte tail =>
          rw [stringWithin] at read
          split at read
          · rename_i closing
            obtain ⟨rfl, rfl⟩ := Prod.mk.inj (Option.some.inj read)
            exact ⟨[], by rw [closing]; rfl, Nat.le_refl _, fun _ => ⟨rfl, by simp [Plain]⟩⟩
          · rename_i noQuote
            split at read
            · simp only [bind, Option.bind_eq_some_iff] at read
              obtain ⟨⟨piece, middle⟩, escape, ⟨later, last⟩, more, same⟩ := read
              obtain ⟨rfl, rfl⟩ := Prod.mk.inj (Option.some.inj same)
              obtain ⟨raw, rfl, shrinks⟩ := escaped_shrinks _ _ _ escape
              obtain ⟨others, rfl, shorter, -⟩ := ih _ _ more
              refine ⟨byte :: (raw ++ others), by simp, ?_, ?_⟩
              · simp only [List.length_cons, List.length_append]
                omega
              · simp only [List.length_cons, List.length_append]
                omega
            · rename_i noEscape
              split at read
              · cases read
              · rename_i printable
                simp only [bind, Option.bind_eq_some_iff] at read
                obtain ⟨⟨later, last⟩, more, same⟩ := read
                obtain ⟨rfl, rfl⟩ := Prod.mk.inj (Option.some.inj same)
                obtain ⟨others, rfl, shorter, literal⟩ := ih _ _ more
                refine ⟨byte :: others, by simp, by simpa using shorter, ?_⟩
                intro sameLength
                obtain ⟨equal, plain⟩ := literal (by simpa using sameLength)
                refine ⟨by rw [equal], ?_⟩
                intro other member
                rcases List.mem_cons.mp member with rfl | inside
                · exact ⟨printable, noQuote, noEscape⟩
                · exact plain other inside

/-- If a text reads back as itself, every byte of it stood for itself. The quotation
mark behind it has to be the only one in what follows. -/
theorem plain_of_readString (text back rest : Bytes) (single : quotationMark ∉ back)
    (read : readString (text ++ quotationMark :: back) = some (text, rest)) : Plain text := by
  obtain ⟨raw, whole, shorter, literal⟩ := stringWithin_raw _ _ _ _ read
  have sameLength : raw.length = text.length := by
    by_contra longer
    -- otherwise the closing quotation mark lies in the part behind the text
    have inside : quotationMark ∈ back := by
      have dropped := congrArg (List.drop raw.length) whole
      obtain ⟨more, extra⟩ : ∃ more, raw.length = text.length + 1 + more :=
        ⟨raw.length - text.length - 1, by omega⟩
      rw [List.drop_left, extra, ← List.drop_drop, ← List.drop_drop, List.drop_left,
        List.drop_one, List.tail_cons] at dropped
      exact List.mem_of_mem_drop (dropped ▸ List.mem_cons_self)
    exact single inside
  exact (literal sameLength).1 ▸ (literal sameLength).2

/-! Numbers and literals. -/

def someDigits (input : Bytes) : Option (Bytes × Bytes) :=
  if (input.takeWhile isdigit).isEmpty then none
  else some (input.takeWhile isdigit, input.dropWhile isdigit)

/-- No digit follows a leading zero. -/
def integerPart : Bytes → Option (Bytes × Bytes)
  | 48 :: rest => some ([48], rest)
  | input => someDigits input

def fractionPart : Bytes → Option (Bytes × Bytes)
  | 46 :: rest => (someDigits rest).map fun (digits, rest) => (46 :: digits, rest)
  | input => some ([], input)

def exponentSign : Bytes → Bytes × Bytes
  | 43 :: rest => ([43], rest)
  | 45 :: rest => ([45], rest)
  | input => ([], input)

def exponentPart (input : Bytes) : Option (Bytes × Bytes) :=
  match input with
  | [] => some ([], input)
  | byte :: rest =>
      if byte = 101 ∨ byte = 69 then
        let (sign, rest) := exponentSign rest
        (someDigits rest).map fun (digits, rest) => (byte :: (sign ++ digits), rest)
      else some ([], input)

def readNumber (input : Bytes) : Option (Bytes × Bytes) := do
  let (minus, rest) := match input with
    | 45 :: rest => ([(45 : UInt8)], rest)
    | input => ([], input)
  let (integer, rest) ← integerPart rest
  let (fraction, rest) ← fractionPart rest
  let (exponent, rest) ← exponentPart rest
  return (minus ++ integer ++ fraction ++ exponent, rest)

def word (spelling input : Bytes) : Option Bytes :=
  if spelling.isPrefixOf input then some (input.drop spelling.length) else none

/-! Values. -/

inductive Value where
  | null
  | bool (value : Bool)
  | number (spelling : Bytes)
  | string (text : Bytes)
  | array (items : List Value)
  | object (members : List (Bytes × Value))

def isSpace (byte : UInt8) : Bool := byte = 32 || byte = 9 || byte = 10 || byte = 13

def skipSpace (input : Bytes) : Bytes := input.dropWhile isSpace

abbrev Reader (α : Type) := Bytes → Option (α × Bytes)

/-- The name of a member with its colon. -/
def readName : Reader Bytes := fun input =>
  match skipSpace input with
  | [] => none
  | byte :: rest =>
      if byte = quotationMark then do
        let (name, rest) ← readString rest
        match skipSpace rest with
        | [] => none
        | byte :: rest => if byte = 58 then return (name, rest) else none
      else none

/-- The members of an object, up to and with its closing brace. -/
def readMembers (value : Reader Value) : Nat → Reader (List (Bytes × Value))
  | 0, _ => none
  | fuel + 1, input => do
      let (name, rest) ← readName input
      let (item, rest) ← value rest
      match skipSpace rest with
      | [] => none
      | byte :: rest =>
          if byte = 44 then do
            let (more, rest) ← readMembers value fuel rest
            return ((name, item) :: more, rest)
          else if byte = 125 then return ([(name, item)], rest)
          else none

def readItems (value : Reader Value) : Nat → Reader (List Value)
  | 0, _ => none
  | fuel + 1, input => do
      let (item, rest) ← value input
      match skipSpace rest with
      | [] => none
      | byte :: rest =>
          if byte = 44 then do
            let (more, rest) ← readItems value fuel rest
            return (item :: more, rest)
          else if byte = 93 then return ([item], rest)
          else none

def readObject (value : Reader Value) : Reader Value := fun input =>
  match skipSpace input with
  | [] => none
  | byte :: rest =>
      if byte = 125 then some (.object [], rest)
      else do
        let (members, rest) ← readMembers value (byte :: rest).length (byte :: rest)
        return (.object members, rest)

def readArray (value : Reader Value) : Reader Value := fun input =>
  match skipSpace input with
  | [] => none
  | byte :: rest =>
      if byte = 93 then some (.array [], rest)
      else do
        let (items, rest) ← readItems value (byte :: rest).length (byte :: rest)
        return (.array items, rest)

def readScalar : Reader Value := fun input =>
  match word [116, 114, 117, 101] input with
  | some rest => some (.bool true, rest)
  | none =>
      match word [102, 97, 108, 115, 101] input with
      | some rest => some (.bool false, rest)
      | none =>
          match word [110, 117, 108, 108] input with
          | some rest => some (.null, rest)
          | none => do
              let (spelling, rest) ← readNumber input
              return (.number spelling, rest)

/-- A value nested at most `depth` deep. -/
def readValue : Nat → Reader Value
  | 0, _ => none
  | depth + 1, input =>
      match skipSpace input with
      | [] => none
      | byte :: rest =>
          if byte = 123 then readObject (readValue depth) rest
          else if byte = 91 then readArray (readValue depth) rest
          else if byte = quotationMark then do
            let (text, rest) ← readString rest
            return (.string text, rest)
          else readScalar (byte :: rest)

/-- The value of a JSON text, if the bytes are one. -/
def decode (text : Bytes) : Option Value :=
  if IsUtf8 text then
    match readValue text.length text with
    | some (value, rest) => if (skipSpace rest).isEmpty then some value else none
    | none => none
  else none

theorem readName_plain (name rest : Bytes) (plain : Plain name) :
    readName (quotationMark :: (name ++ quotationMark :: 58 :: rest)) = some (name, rest) := by
  have mark : skipSpace (quotationMark :: (name ++ quotationMark :: 58 :: rest)) =
      quotationMark :: (name ++ quotationMark :: 58 :: rest) := rfl
  simp only [readName, mark, if_true, readString_plain name _ plain]
  rfl

theorem readValue_string (depth : Nat) (input : Bytes) :
    readValue (depth + 1) (quotationMark :: input) =
      (readString input).map fun (text, rest) => (.string text, rest) := by
  cases read : readString input with
  | none => simp [readValue, skipSpace, isSpace, quotationMark, read]
  | some result => simp [readValue, skipSpace, isSpace, quotationMark, read]

/-- The first of the members is read first; the others follow a comma. -/
theorem readMembers_cons (value : Reader Value) (fuel : Nat) (input rest : Bytes)
    (members : List (Bytes × Value))
    (read : readMembers value (fuel + 1) input = some (members, rest)) :
    ∃ name item middle behind more, readName input = some (name, middle) ∧
      value middle = some (item, behind) ∧ members = (name, item) :: more ∧
      (more = [] ∨ ∃ later, skipSpace behind = 44 :: later ∧
        readMembers value fuel later = some (more, rest)) := by
  rw [readMembers] at read
  simp only [bind, Option.bind_eq_some_iff] at read
  obtain ⟨⟨name, middle⟩, named, ⟨item, behind⟩, valued, continued⟩ := read
  cases space : skipSpace behind with
  | nil =>
      simp only [space] at continued
      cases continued
  | cons byte later =>
      simp only [space] at continued
      split at continued
      · rename_i comma
        simp only [Option.bind_eq_some_iff] at continued
        obtain ⟨⟨more, last⟩, others, same⟩ := continued
        obtain ⟨rfl, rfl⟩ := Prod.mk.inj (Option.some.inj same)
        exact ⟨name, item, middle, behind, more, named, valued, rfl,
          Or.inr ⟨later, by rw [space, comma], others⟩⟩
      · split at continued
        · obtain ⟨rfl, rfl⟩ := Prod.mk.inj (Option.some.inj continued)
          exact ⟨name, item, middle, behind, [], named, valued, rfl, Or.inl rfl⟩
        · cases continued

/-- The first member of what was read, where its name is known. -/
theorem readMembers_first {value : Reader Value} {fuel : Nat} {input middle rest name key : Bytes}
    {item : Value} {more : List (Bytes × Value)} (named : readName input = some (name, middle))
    (read : readMembers value (fuel + 1) input = some ((key, item) :: more, rest)) :
    ∃ behind, value middle = some (item, behind) ∧
      (more = [] ∨ ∃ later, skipSpace behind = 44 :: later ∧
        readMembers value fuel later = some (more, rest)) := by
  obtain ⟨first, found, between, behind, others, again, valued, shape, continued⟩ :=
    readMembers_cons value fuel input rest _ read
  rw [named] at again
  obtain ⟨rfl, rfl⟩ := Prod.mk.inj (Option.some.inj again)
  obtain ⟨same, rfl⟩ := List.cons.inj shape
  exact ⟨behind, (Prod.mk.inj same).2 ▸ valued, continued⟩

theorem readMembers_last (value : Reader Value) (fuel : Nat) (input middle rest name : Bytes)
    (item : Value) (named : readName input = some (name, middle))
    (valued : value middle = some (item, 125 :: rest)) :
    readMembers value (fuel + 1) input = some ([(name, item)], rest) := by
  have brace : skipSpace (125 :: rest) = 125 :: rest := rfl
  simp [readMembers, named, valued, brace]

theorem readMembers_more (value : Reader Value) (fuel : Nat)
    (input middle later rest name : Bytes) (item : Value) (more : List (Bytes × Value))
    (named : readName input = some (name, middle))
    (valued : value middle = some (item, 44 :: later))
    (others : readMembers value fuel later = some (more, rest)) :
    readMembers value (fuel + 1) input = some ((name, item) :: more, rest) := by
  have comma : skipSpace (44 :: later) = 44 :: later := rfl
  simp [readMembers, named, valued, comma, others]

/-- An object that starts with a member. -/
theorem readValue_object (depth : Nat) (input : Bytes) :
    readValue (depth + 1) (123 :: quotationMark :: input) =
      (readMembers (readValue depth) (input.length + 1) (quotationMark :: input)).map
        fun (members, rest) => (.object members, rest) := by
  have brace : skipSpace (123 :: quotationMark :: input) = 123 :: quotationMark :: input := rfl
  have mark : skipSpace (quotationMark :: input) = quotationMark :: input := rfl
  have open_ : ¬ quotationMark = 125 := by decide
  simp only [readValue, brace, if_true, readObject, mark, open_, if_false, List.length_cons]
  cases readMembers (readValue depth) (input.length + 1) (quotationMark :: input) <;> rfl

end JsonText

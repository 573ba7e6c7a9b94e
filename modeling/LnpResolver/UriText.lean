import LnpResolver.CStrings

/-!
Texts with delimiters and percent encoding, as URIs have them: cutting a text at a
separator and putting the parts together again, character classes, texts of allowed
characters and percent-encoded triplets, and lists of parameters.
-/

namespace UriText

open PackedBytes (Bytes)
open CStrings (isdigit hexDigit)

def percent : UInt8 := 37
def ampersand : UInt8 := 38
def slash : UInt8 := 47
def colon : UInt8 := 58
def semicolon : UInt8 := 59
def equalsSign : UInt8 := 61
def question : UInt8 := 63
def atSign : UInt8 := 64
def hash : UInt8 := 35
def dot : UInt8 := 46
def hyphen : UInt8 := 45

/-! Cutting at the first separator. -/

def cutAt (separator : UInt8) : Bytes → Bytes × Option Bytes
  | [] => ([], none)
  | byte :: rest =>
      if byte = separator then ([], some rest)
      else (byte :: (cutAt separator rest).1, (cutAt separator rest).2)

def joinAt (separator : UInt8) (parts : Bytes × Option Bytes) : Bytes :=
  match parts.2 with
  | none => parts.1
  | some after => parts.1 ++ separator :: after

@[simp] theorem join_cutAt (separator : UInt8) (text : Bytes) :
    joinAt separator (cutAt separator text) = text := by
  induction text with
  | nil => rfl
  | cons byte rest ih =>
      by_cases here : byte = separator
      · simp [cutAt, joinAt, here]
      · simp only [cutAt, here, ↓reduceIte]
        rw [joinAt] at ih ⊢
        cases found : (cutAt separator rest).2 with
        | none => simpa [found] using ih
        | some after => simpa [found] using ih

/-- The parts are found again when the first of them is free of the separator. -/
theorem cutAt_join {separator : UInt8} {before : Bytes} (free : separator ∉ before)
    (after : Option Bytes) :
    cutAt separator (joinAt separator (before, after)) = (before, after) := by
  induction before with
  | nil => cases after <;> simp [joinAt, cutAt]
  | cons byte rest ih =>
      simp only [List.mem_cons, not_or] at free
      cases after with
      | none =>
          have tail : cutAt separator rest = (rest, none) := ih free.2
          simp [joinAt, cutAt, Ne.symm free.1, tail]
      | some after =>
          have tail : cutAt separator (rest ++ separator :: after) = (rest, some after) := ih free.2
          simp [joinAt, cutAt, Ne.symm free.1, tail]

theorem cutAt_free {separator : UInt8} {text : Bytes} (free : separator ∉ text) :
    cutAt separator text = (text, none) :=
  cutAt_join free none

theorem mem_joinAt {separator byte : UInt8} {parts : Bytes × Option Bytes} :
    byte ∈ joinAt separator parts ↔
      byte ∈ parts.1 ∨ ∃ after, parts.2 = some after ∧ (byte = separator ∨ byte ∈ after) := by
  obtain ⟨before, after⟩ := parts
  cases after <;> simp [joinAt]

theorem joinAt_free {separator byte : UInt8} {parts : Bytes × Option Bytes} (front : byte ∉ parts.1)
    (back : ∀ after, parts.2 = some after → byte ∉ after) (other : byte ≠ separator) :
    byte ∉ joinAt separator parts := by
  rw [mem_joinAt]
  rintro (member | ⟨after, there, same | member⟩)
  · exact front member
  · exact other same
  · exact back after there member

/-! Character classes and percent encoding. -/

def isAlpha (byte : UInt8) : Bool := (65 ≤ byte && byte ≤ 90) || (97 ≤ byte && byte ≤ 122)

def triplet (first second third : UInt8) : Bool :=
  first = percent && (hexDigit second).isSome && (hexDigit third).isSome

/-- Percent decoding; a percent sign without two hexadecimal digits stands for itself. -/
def pctDecode : Bytes → Bytes
  | first :: second :: third :: rest =>
      if triplet first second third then
        UInt8.ofNat (16 * (hexDigit second).getD 0 + (hexDigit third).getD 0) :: pctDecode rest
      else first :: pctDecode (second :: third :: rest)
  | text => text

/-- A text of allowed characters and percent-encoded triplets. -/
def encoded (allowed : UInt8 → Bool) : Bytes → Bool
  | first :: second :: third :: rest =>
      if triplet first second third then encoded allowed rest
      else first ≠ percent && allowed first && encoded allowed (second :: third :: rest)
  | text => text.all fun byte => byte ≠ percent && allowed byte

theorem pctDecode_length (text : Bytes) : (pctDecode text).length ≤ text.length := by
  fun_induction pctDecode text with
  | case1 first second third rest _ ih =>
      simp only [List.length_cons]
      omega
  | case2 first second third rest _ ih => simpa using ih
  | case3 => exact Nat.le_refl _

theorem pctDecode_raw {text : Bytes} (raw : percent ∉ text) : pctDecode text = text := by
  fun_induction pctDecode text with
  | case1 first second third rest opens =>
      simp only [triplet, Bool.and_eq_true, decide_eq_true_eq] at opens
      simp [opens.1.1] at raw
  | case2 first second third rest _ ih => rw [ih (List.not_mem_of_not_mem_cons raw)]
  | case3 => rfl

/-- Decoding shortens every triplet, so a text that is its own decoding has none. -/
theorem raw_of_pctDecode {allowed : UInt8 → Bool} {text : Bytes}
    (valid : encoded allowed text = true) (same : pctDecode text = text) : percent ∉ text := by
  fun_induction encoded allowed text with
  | case1 first second third rest opens ih =>
      rw [pctDecode, if_pos opens] at same
      have shorter := pctDecode_length rest
      have length := congrArg List.length same
      simp only [List.length_cons] at length
      omega
  | case2 first second third rest opens ih =>
      rw [pctDecode, if_neg opens] at same
      simp only [Bool.and_eq_true, decide_eq_true_eq] at valid
      have later := ih valid.2 (List.cons.inj same).2
      exact List.not_mem_cons_of_ne_of_not_mem (Ne.symm valid.1.1) later
  | case3 text =>
      intro member
      have here := List.all_eq_true.mp valid percent member
      simp at here

theorem encoded_raw {allowed : UInt8 → Bool} {text : Bytes} (raw : percent ∉ text) :
    encoded allowed text = true ↔ ∀ byte ∈ text, allowed byte = true := by
  fun_induction encoded allowed text with
  | case1 first second third rest opens =>
      simp only [triplet, Bool.and_eq_true, decide_eq_true_eq] at opens
      simp [opens.1.1] at raw
  | case2 first second third rest _ ih =>
      have plain : first ≠ percent := fun same => raw (same ▸ List.mem_cons_self)
      rw [Bool.and_eq_true, ih (List.not_mem_of_not_mem_cons raw), List.forall_mem_cons]
      simp [plain]
  | case3 text =>
      rw [List.all_eq_true]
      apply forall₂_congr
      intro byte member
      have plain : byte ≠ percent := fun same => raw (same ▸ member)
      simp [plain]

/-- Whatever is neither allowed nor part of a triplet does not occur. -/
theorem encoded_free {allowed : UInt8 → Bool} {byte : UInt8} {text : Bytes}
    (valid : encoded allowed text = true)
    (outside : allowed byte = false ∧ hexDigit byte = none ∧ byte ≠ percent) : byte ∉ text := by
  fun_induction encoded allowed text with
  | case1 first second third rest opens ih =>
      simp only [triplet, Bool.and_eq_true, decide_eq_true_eq] at opens
      simp only [List.mem_cons, not_or]
      refine ⟨fun same => outside.2.2 (same.trans opens.1.1), ?_, ?_, ih valid⟩
      · rintro rfl
        simp [outside.2.1] at opens
      · rintro rfl
        simp [outside.2.1] at opens
  | case2 first second third rest _ ih =>
      simp only [Bool.and_eq_true, decide_eq_true_eq] at valid
      refine List.not_mem_cons_of_ne_of_not_mem ?_ (ih valid.2)
      rintro rfl
      rw [outside.1] at valid
      exact Bool.false_ne_true valid.1.2
  | case3 text =>
      intro member
      have here := List.all_eq_true.mp valid byte member
      simp [outside.1] at here

theorem encoded_congr {allowed other : UInt8 → Bool} {text : Bytes}
    (same : ∀ byte ∈ text, allowed byte = other byte) :
    encoded allowed text = encoded other text := by
  fun_induction encoded allowed text with
  | case1 first second third rest opens ih =>
      rw [encoded, if_pos opens]
      exact ih fun byte member => same byte (by simp [member])
  | case2 first second third rest opens ih =>
      rw [encoded, if_neg opens, same first List.mem_cons_self,
        ih fun byte member => same byte (List.mem_cons_of_mem first member)]
  | case3 text short =>
      rw [encoded]
      · apply Bool.eq_iff_iff.mpr
        rw [List.all_eq_true, List.all_eq_true]
        apply forall₂_congr
        intro byte member
        rw [same byte member]
      · exact short

/-- The texts that stand for themselves under percent decoding. -/
theorem encoded_self_iff {allowed : UInt8 → Bool} (literal : allowed percent = false)
    (text : Bytes) : encoded allowed text = true ∧ pctDecode text = text ↔
      ∀ byte ∈ text, allowed byte = true := by
  constructor
  · rintro ⟨valid, same⟩
    exact (encoded_raw (raw_of_pctDecode valid same)).mp valid
  · intro every
    have raw : percent ∉ text := by
      intro member
      rw [every percent member] at literal
      cases literal
    exact ⟨(encoded_raw raw).mpr every, pctDecode_raw raw⟩

def isUnreserved (byte : UInt8) : Bool :=
  isAlpha byte || isdigit byte || byte = hyphen || byte = dot || byte = 95 || byte = 126

/-- `!` `$` `&` `'` `(` `)` `*` `+` `,` `;` `=` -/
def isSubDelim (byte : UInt8) : Bool :=
  byte = 33 || byte = 36 || (38 ≤ byte && byte ≤ 44) || byte = semicolon || byte = equalsSign

/-- `:` `/` `?` `#` `[` `]` `@` -/
def isGenDelim (byte : UInt8) : Bool :=
  byte = colon || byte = slash || byte = question || byte = hash || byte = 91 || byte = 93 ||
    byte = atSign

def isReserved (byte : UInt8) : Bool := isGenDelim byte || isSubDelim byte

def schemeChar (byte : UInt8) : Bool :=
  isAlpha byte || isdigit byte || byte = 43 || byte = hyphen || byte = dot

def regNameChar (byte : UInt8) : Bool := isUnreserved byte || isSubDelim byte
def userinfoChar (byte : UInt8) : Bool := regNameChar byte || byte = colon
def pchar (byte : UInt8) : Bool := regNameChar byte || byte = colon || byte = atSign
def queryChar (byte : UInt8) : Bool := pchar byte || byte = slash || byte = question

/-! Lists of parameters. -/

abbrev Parameter := Bytes × Option Bytes

def cutList (separator : UInt8) (text : Bytes) : List Parameter :=
  (text.splitOn separator).map (cutAt equalsSign)

def joinList (separator : UInt8) (parameters : List Parameter) : Bytes :=
  [separator].intercalate (parameters.map (joinAt equalsSign))

@[simp] theorem join_cutList (separator : UInt8) (text : Bytes) :
    joinList separator (cutList separator text) = text := by
  have whole : joinAt equalsSign ∘ cutAt equalsSign = id := by
    funext piece
    exact join_cutAt equalsSign piece
  rw [joinList, cutList, List.map_map, whole, List.map_id, List.intercalate_splitOn]

theorem cutList_join {separator : UInt8} {parameters : List Parameter} (filled : parameters ≠ [])
    (free : ∀ parameter ∈ parameters,
      equalsSign ∉ parameter.1 ∧ separator ∉ joinAt equalsSign parameter) :
    cutList separator (joinList separator parameters) = parameters := by
  rw [joinList, cutList, List.splitOn_intercalate]
  · rw [List.map_map]
    conv_rhs => rw [← List.map_id parameters]
    apply List.map_congr_left
    intro parameter member
    exact cutAt_join (free parameter member).1 parameter.2
  · intro piece member
    obtain ⟨parameter, known, rfl⟩ := List.mem_map.mp member
    exact (free parameter known).2
  · simpa using filled

theorem intercalate_joinAt (separator : UInt8) (first : Bytes) (rest : List Bytes) :
    [separator].intercalate (first :: rest) =
      joinAt separator (first, if rest = [] then none else some ([separator].intercalate rest)) := by
  cases rest with
  | nil => simp [joinAt, List.intercalate]
  | cons second rest => simp [joinAt, List.intercalate, List.intersperse]

theorem intercalate_append (separator : UInt8) {front back : List Bytes} (filled : front ≠ [])
    (more : back ≠ []) : [separator].intercalate (front ++ back) =
      [separator].intercalate front ++ separator :: [separator].intercalate back := by
  induction front with
  | nil => exact absurd rfl filled
  | cons first rest ih =>
      cases rest with
      | nil => simp [intercalate_joinAt separator first, joinAt, more]
      | cons second rest =>
          rw [List.cons_append, intercalate_joinAt separator first, intercalate_joinAt separator first,
            ih (List.cons_ne_nil _ _)]
          simp [joinAt]

theorem mem_intercalate {separator byte : UInt8} {pieces : List Bytes}
    (member : byte ∈ [separator].intercalate pieces) :
    byte = separator ∨ ∃ piece ∈ pieces, byte ∈ piece := by
  induction pieces with
  | nil => simp [List.intercalate] at member
  | cons first rest ih =>
      rw [intercalate_joinAt, mem_joinAt] at member
      rcases member with here | ⟨after, there, same | later⟩
      · exact .inr ⟨first, List.mem_cons_self, here⟩
      · exact .inl same
      · split at there
        · cases there
        · cases there
          rcases ih later with same | ⟨piece, known, inside⟩
          · exact .inl same
          · exact .inr ⟨piece, List.mem_cons_of_mem first known, inside⟩

theorem joinList_free {separator byte : UInt8} {parameters : List Parameter}
    (each : ∀ parameter ∈ parameters, byte ∉ joinAt equalsSign parameter)
    (other : byte ≠ separator) : byte ∉ joinList separator parameters := by
  intro member
  rcases mem_intercalate member with same | ⟨piece, known, inside⟩
  · exact other same
  · obtain ⟨parameter, listed, rfl⟩ := List.mem_map.mp known
    exact each parameter listed inside

theorem parameter_free {allowed : UInt8 → Bool} {byte : UInt8} {parameter : Parameter}
    (name : encoded allowed parameter.1 = true)
    (value : ∀ text, parameter.2 = some text → encoded allowed text = true)
    (outside : allowed byte = false ∧ hexDigit byte = none ∧ byte ≠ percent)
    (other : byte ≠ equalsSign) : byte ∉ joinAt equalsSign parameter := by
  refine joinAt_free (encoded_free name outside) ?_ other
  intro text there
  exact encoded_free (value text there) outside

theorem digits_free {byte : UInt8} {text : Bytes} (digits : text.all isdigit = true)
    (outside : isdigit byte = false) : byte ∉ text := by
  intro member
  rw [List.all_eq_true.mp digits byte member] at outside
  cases outside

/-- A delimiter that a host and the digits of a port do not contain. -/
theorem host_port_free {byte : UInt8} {host : Bytes} {port : Option Bytes} (inHost : byte ∉ host)
    (digits : port.all (List.all · isdigit) = true)
    (outside : isdigit byte = false ∧ byte ≠ colon) : byte ∉ joinAt colon (host, port) := by
  apply joinAt_free inHost _ outside.2
  rintro after rfl
  exact digits_free digits outside.1

end UriText

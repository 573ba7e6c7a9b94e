import LnpResolver.CoureAnqAnswers

/-!
The values of a configuration row, as columns and as members of a JSON document, and
what the getters make of them. A JSON getter narrows integers without a check and
takes what is no integer for 0; names and strings are cut at a NUL byte.
-/

namespace LnpResolver.ConfigValues

open PackedBytes RequestWire JsonItems JsonGetters CoureAnqAnswers Drivers DriverConfig

/-! The values of a row. -/

/-- The integer that a column spells. -/
def integerText : Bytes → Option Int
  | 45 :: digits =>
      if digits ≠ [] ∧ digits.all CStrings.isdigit then some (-CStrings.digitsValue digits) else none
  | digits => if digits ≠ [] ∧ digits.all CStrings.isdigit then some (CStrings.digitsValue digits) else none

/-- A conversion of libpqxx yields the integer of the column, or it raises. -/
structure ExactColumns [Pqxx] : Prop where
  uint16 : ∀ text number, Pqxx.toUInt16 text = some number →
    integerText text = some (number.toNat : Int)
  uint32 : ∀ text number, Pqxx.toUInt32 text = some number →
    integerText text = some (number.toNat : Int)

/-- The document in the column "parameters". -/
def Wrote [CJson] (data : RawConfig) (members : List (Bytes × Written)) : Prop :=
  CJson.parse (cString (cStr (data.value "parameters"))) = some (Written.object members).stored

/-- The entries of the operators map: those of the member, or of the document in it. -/
def WroteOperators [CJson] (members entries : List (Bytes × Written)) : Prop :=
  match foundUnder members (bytesOf "operators_map") with
  | some (.object inner) => entries = inner
  | some (.string text) =>
      CJson.parse (cString (unquoted (cString text))) = some (Written.object entries).stored
  | _ => True

/-- The text itself, or the text between a pair of quotes. -/
def SameText (text stored : Bytes) : Prop := text = stored ∨ text = quote :: stored ++ [quote]

def firstEntry (entries : List (Bytes × Written)) (name : Bytes) : Option Written :=
  (entries.find? fun entry => entry.1 = name).map Prod.snd

/-- The map holds the first entry of each name, and the default. -/
structure EntriesStored (entries : List (Bytes × Written)) (operators : OperatorsMap) : Prop where
  named : ∀ name, name ≠ defaultKey →
    match firstEntry entries name with
    | none => operators.entries.lookup name = none
    | some value => ∃ stored, operators.entries.lookup name = some stored ∧
        value.IsInteger stored.toNat
  default : ∃ value, firstEntry entries defaultKey = some value ∧
    value.IsInteger operators.defaultValue.toNat

section Values

variable (format : ECfgFormat) (data : RawConfig) (members entries : List (Bytes × Written))

def TextStored (column key : String) (stored : Bytes) : Prop :=
  match format with
  | .jsonString => UnderOwnName members (bytesOf key) ∧
      ∃ text, valueUnder members (bytesOf key) = some (.string text) ∧ SameText text stored
  | _ => data.value column = some stored

-- a column that is NULL stands for the default of its getter
def IntegerStored (column key : String) (default stored : Nat) : Prop :=
  match format with
  | .jsonString => UnderOwnName members (bytesOf key) ∧
      ∃ value, valueUnder members (bytesOf key) = some value ∧ value.IsInteger stored
  | _ =>
      match data.value column with
      | none => stored = default
      | some text => integerText text = some (stored : Int)

def FlagStored (key : String) (stored : Bool) : Prop :=
  UnderOwnName members (bytesOf key) ∧ valueUnder members (bytesOf key) = some (.bool stored)

/-- A document in a string is read whole, and the map is that of the document. -/
def MapStored (operators : OperatorsMap) : Prop :=
  UnderOwnName members (bytesOf "operators_map") ∧
    (∀ text, valueUnder members (bytesOf "operators_map") = some (.string text) →
      SameText text (unquoted (cString text))) ∧
    EntriesStored entries operators

end Values

/-! When a value of a document arrives unchanged. -/

/-- No NUL byte in the string, and quotes at both of its ends or at none. -/
def WellQuoted (text : Bytes) : Prop :=
  0 ∉ text ∧ (text.head? = some quote ↔ text.getLast? = some quote)

def TextKept (members : List (Bytes × Written)) (key : String) : Prop :=
  UnderOwnName members (bytesOf key) ∧
    ∀ text, valueUnder members (bytesOf key) = some (.string text) → WellQuoted text

/-- However it is written, the number is an integer from 0 to the limit. -/
def IntegerUpTo (limit : Int) (value : Written) : Prop :=
  ∃ number, value.IsInteger number ∧ 0 ≤ number ∧ number ≤ limit

def InRange (members : List (Bytes × Written)) (key : String) (limit : Int) : Prop :=
  UnderOwnName members (bytesOf key) ∧
    ∃ value, valueUnder members (bytesOf key) = some value ∧ IntegerUpTo limit value

def FlagKept (members : List (Bytes × Written)) (key : String) : Prop :=
  UnderOwnName members (bytesOf key) ∧ ∃ flag, valueUnder members (bytesOf key) = some (.bool flag)

def EntriesKept (entries : List (Bytes × Written)) : Prop :=
  (∀ entry ∈ entries, 0 ∉ entry.1) ∧
    ∀ name value, firstEntry entries name = some value → IntegerUpTo intMax value

def MapKept (members entries : List (Bytes × Written)) : Prop :=
  TextKept members "operators_map" ∧ EntriesKept entries

/-! What a JSON getter has read, and when that is the value of the member. -/

def TextRead (members : List (Bytes × Written)) (key : String) (stored : Bytes) : Prop :=
  ∃ text, foundUnder members (bytesOf key) = some (.string text) ∧
    (cString text ≠ [] ∧ cString text ≠ [quote]) ∧ stored = unquoted (cString text)

/-- A member read as an int; what is no number counts as 0. -/
def IntegerRead (members : List (Bytes × Written)) (key : String) (read : Int) : Prop :=
  ∃ value, foundUnder members (bytesOf key) = some value ∧ read = itemInteger value.stored

/-- A member read as a flag; what is none counts as false. -/
def FlagRead (members : List (Bytes × Written)) (key : String) (read : Bool) : Prop :=
  ∃ value, foundUnder members (bytesOf key) = some value ∧ read = itemBool value.stored

theorem sameText_length {text stored : Bytes} (same : SameText text stored) :
    text.length = stored.length ∨ text.length = stored.length + 2 := by
  rcases same with rfl | rfl
  · exact Or.inl rfl
  · right
    simp

theorem sameText_iff {text : Bytes} (filled : text ≠ []) (more : text ≠ [quote]) :
    SameText text (unquoted text) ↔ (text.head? = some quote ↔ text.getLast? = some quote) := by
  obtain ⟨first, rest, rfl⟩ := List.exists_cons_of_ne_nil filled
  by_cases opened : first = quote
  · subst opened
    have left : rest ≠ [] := fun empty => more (by rw [empty])
    have last : (quote :: rest).getLast? = rest.getLast? := by
      obtain ⟨second, others, rfl⟩ := List.exists_cons_of_ne_nil left
      exact List.getLast?_cons_cons
    rw [last]
    by_cases closed : rest.getLast? = some quote
    · have inner : unquoted (quote :: rest) = rest.dropLast := by simp [unquoted, closed]
      have whole : rest.dropLast ++ [quote] = rest := List.dropLast_append_getLast? _ closed
      rw [inner]
      exact ⟨fun _ => ⟨fun _ => closed, fun _ => rfl⟩, fun _ => Or.inr (by rw [List.cons_append, whole])⟩
    · have inner : unquoted (quote :: rest) = rest := by simp [unquoted, closed]
      rw [inner]
      constructor
      · intro same
        have lengths := sameText_length same
        simp only [List.length_cons] at lengths
        omega
      · intro both
        exact absurd (both.mp rfl) closed
  · have plain : ¬ (first :: rest).head? = some quote := by simpa using opened
    by_cases closed : (first :: rest).getLast? = some quote
    · have inner : unquoted (first :: rest) = (first :: rest).dropLast := by
        simp only [unquoted, if_neg plain, if_pos closed]
      rw [inner]
      constructor
      · intro same
        have lengths := sameText_length same
        simp only [List.length_cons, List.length_dropLast] at lengths
        omega
      · intro both
        exact absurd (both.mpr closed) plain
    · rw [unquoted_plain plain closed]
      exact ⟨fun _ => iff_of_false plain closed, fun _ => Or.inl rfl⟩

theorem unquoted_noNul {text : Bytes} (noNul : 0 ∉ text) : 0 ∉ unquoted text := by
  intro member
  apply noNul
  unfold unquoted at member
  simp only at member
  split at member <;> split at member
  · exact List.mem_of_mem_tail (List.mem_of_mem_dropLast member)
  · exact List.mem_of_mem_tail member
  · exact List.mem_of_mem_dropLast member
  · exact member

/-- A string is read as it stands if nothing of it is cut. -/
theorem read_same_iff {text : Bytes} (filled : cString text ≠ []) (more : cString text ≠ [quote]) :
    SameText text (unquoted (cString text)) ↔ WellQuoted text := by
  have whole : SameText text (unquoted (cString text)) → 0 ∉ text := by
    have inner := unquoted_noNul (cString_noNul text)
    rintro (same | same)
    · rw [same]
      exact inner
    · rw [same]
      simpa [quote] using inner
  constructor
  · intro same
    have noNul := whole same
    rw [cString_eq_self noNul] at filled more same
    exact ⟨noNul, (sameText_iff filled more).mp same⟩
  · rintro ⟨noNul, quotes⟩
    rw [cString_eq_self noNul] at filled more ⊢
    exact (sameText_iff filled more).mpr quotes

theorem text_kept_iff (members : List (Bytes × Written)) (key : String) (stored : Bytes)
    (read : TextRead members key stored) :
    (UnderOwnName members (bytesOf key) ∧
      ∃ text, valueUnder members (bytesOf key) = some (.string text) ∧ SameText text stored) ↔
      TextKept members key := by
  obtain ⟨text, found, ⟨filled, more⟩, rfl⟩ := read
  apply and_congr_right
  intro own
  rw [UnderOwnName, found] at own
  constructor
  · rintro ⟨other, found', same⟩ third found''
    cases Option.some.inj (own.trans found')
    cases Option.some.inj (own.trans found'')
    exact (read_same_iff filled more).mp same
  · intro quoted
    exact ⟨text, own.symm, (read_same_iff filled more).mpr (quoted text own.symm)⟩

theorem itemInteger_stored {value : Written} {number : Int} (whole : value.IsInteger number) :
    itemInteger value.stored = valueint number := by
  obtain ⟨valuedouble, stored⟩ := stored_integer whole
  rw [stored, itemInteger]

/-- A value that is cast to an unsigned type stays the same up to the limit of the
type, or up to the limit of an int if that is smaller. -/
theorem integer_kept_iff (value : Written) (stored : Nat) (modulus limit : Int)
    (cast : (stored : Int) = itemInteger value.stored % modulus)
    (positive : 0 ≤ limit) (fits : limit < modulus) (small : limit ≤ intMax)
    (covers : modulus ≤ limit + 1 ∨ limit = intMax) :
    value.IsInteger stored ↔ IntegerUpTo limit value := by
  have smallest : intMin = -2147483648 := rfl
  have largest : intMax = 2147483647 := rfl
  constructor
  · intro exact
    refine ⟨stored, exact, by omega, ?_⟩
    rcases covers with whole | rfl
    · have below := Int.emod_lt_of_pos (itemInteger value.stored) (show 0 < modulus by omega)
      omega
    · by_contra above
      -- a larger number has been saturated to the limit
      have saturated : valueint stored = intMax := if_pos (by omega)
      rw [itemInteger_stored exact, saturated, Int.emod_eq_of_lt (by omega) fits] at cast
      omega
  · rintro ⟨number, whole, low, high⟩
    rw [itemInteger_stored whole, Decimals.valueint_in_range (by omega) (by omega),
      Int.emod_eq_of_lt low (by omega)] at cast
    rwa [cast]

theorem member_kept_iff (members : List (Bytes × Written)) (key : String) (limit : Int)
    (stored : Nat) (read : Int) (known : IntegerRead members key read)
    (kept : ∀ value : Written, itemInteger value.stored = read →
      (value.IsInteger stored ↔ IntegerUpTo limit value)) :
    (UnderOwnName members (bytesOf key) ∧
      ∃ value, valueUnder members (bytesOf key) = some value ∧ value.IsInteger stored) ↔
      InRange members key limit := by
  obtain ⟨value, found, rfl⟩ := known
  apply and_congr_right
  intro own
  rw [UnderOwnName, found] at own
  apply exists_congr
  intro other
  apply and_congr_right
  intro same
  cases Option.some.inj (own.trans same)
  exact kept value rfl

theorem port_kept_iff (members : List (Bytes × Written)) (read : Int)
    (known : IntegerRead members "port" read) :
    (UnderOwnName members (bytesOf "port") ∧ ∃ value,
      valueUnder members (bytesOf "port") = some value ∧
        value.IsInteger (UInt16.ofInt read).toNat) ↔ InRange members "port" 65535 := by
  apply member_kept_iff members "port" 65535 _ read known
  rintro value rfl
  exact integer_kept_iff value _ 65536 65535 (toNat_uint16 _) (by decide) (by decide) (by decide)
    (by decide)

theorem uint32_kept_iff (value : Written) :
    value.IsInteger (UInt32.ofInt (itemInteger value.stored)).toNat ↔ IntegerUpTo intMax value :=
  integer_kept_iff value _ 4294967296 intMax (toNat_uint32 _) (by decide) (by decide) (by decide)
    (by decide)

theorem timeout_kept_iff (members : List (Bytes × Written)) (read : Int)
    (known : IntegerRead members "timeout" read) :
    (UnderOwnName members (bytesOf "timeout") ∧ ∃ value,
      valueUnder members (bytesOf "timeout") = some value ∧
        value.IsInteger (UInt32.ofInt read).toNat) ↔ InRange members "timeout" intMax := by
  apply member_kept_iff members "timeout" intMax _ read known
  rintro value rfl
  exact uint32_kept_iff value

theorem flag_kept_iff (members : List (Bytes × Written)) (key : String) (read : Bool)
    (known : FlagRead members key read) :
    FlagStored members key read ↔ FlagKept members key := by
  obtain ⟨value, found, rfl⟩ := known
  apply and_congr_right
  intro own
  rw [UnderOwnName, found] at own
  rw [← own]
  cases value <;> simp [Written.stored, itemBool]

/-! The operators map. The entries are those that OperatorsMap_t::parse has read. -/

theorem mapped_integer {value : Written} {tag : UInt32} (converted : mapped value.stored = some tag) :
    value.IsInteger tag.toNat ↔ IntegerUpTo intMax value := by
  cases stored : value.stored with
  | number valueint valuedouble =>
      rw [stored] at converted
      have read : itemInteger value.stored = valueint := by rw [stored, itemInteger]
      rw [← Option.some.inj converted, ← read]
      exact uint32_kept_iff value
  | null | bool | string | array | object =>
      rw [stored] at converted
      cases converted

theorem firstEntry_mapped {entries : List (Bytes × Written)} (whole : ∀ entry ∈ entries, 0 ∉ entry.1)
    (name : Bytes) :
    ((entries.find? fun entry => cString entry.1 = name).bind fun entry => mapped entry.2.stored) =
      (firstEntry entries name).bind fun value => mapped value.stored := by
  have same : (entries.find? fun entry => cString entry.1 = name) =
      entries.find? fun entry => entry.1 = name := by
    apply List.find?_congr
    intro entry inside
    rw [cString_eq_self (whole entry inside)]
  rw [same, firstEntry, Option.bind_map]
  rfl

theorem mapped_some {value : Written} {number : Int} (whole : value.IsInteger number) :
    ∃ tag, mapped value.stored = some tag := by
  obtain ⟨valuedouble, stored⟩ := stored_integer whole
  exact ⟨_, by rw [stored, mapped]⟩

theorem entries_whole {entries : List (Bytes × Written)} {operators : OperatorsMap}
    (parsed : operatorsMap (Written.object entries).stored = .ok operators)
    (stored : EntriesStored entries operators) : ∀ entry ∈ entries, 0 ∉ entry.1 := by
  intro entry inside nul
  have other : entry.1 ≠ defaultKey := by
    intro same
    rw [same] at nul
    exact absurd nul (by decide)
  have unheld : (entries.find? fun member => cString member.1 = entry.1) = none := by
    apply List.find?_eq_none.mpr
    intro member _ same
    exact cString_noNul member.1 (of_decide_eq_true same ▸ nul)
  have lookup := (operatorsMap_holds parsed).1 entry.1 other
  rw [unheld, Option.bind_none] at lookup
  have named := stored.named entry.1 other
  cases first : firstEntry entries entry.1 with
  | none =>
      have absent := List.find?_eq_none.mp (Option.map_eq_none_iff.mp first) entry inside
      exact absent (decide_eq_true rfl)
  | some value =>
      rw [first] at named
      obtain ⟨tag, present, -⟩ := named
      rw [lookup] at present
      cases present

theorem entries_kept_iff {entries : List (Bytes × Written)} {operators : OperatorsMap}
    (parsed : operatorsMap (Written.object entries).stored = .ok operators) :
    EntriesStored entries operators ↔ EntriesKept entries := by
  obtain ⟨lookups, -, default⟩ := operatorsMap_holds parsed
  constructor
  · intro stored
    have whole := entries_whole parsed stored
    refine ⟨whole, ?_⟩
    intro name value first
    by_cases isDefault : name = defaultKey
    · subst isDefault
      rw [firstEntry_mapped whole, first] at default
      obtain ⟨other, same, exact⟩ := stored.default
      cases first.symm.trans same
      exact (mapped_integer default.symm).mp exact
    · have named := stored.named name isDefault
      have lookup := lookups name isDefault
      rw [firstEntry_mapped whole, first] at lookup
      rw [first] at named
      obtain ⟨tag, present, exact⟩ := named
      exact (mapped_integer (lookup.symm.trans present)).mp exact
  · rintro ⟨whole, kept⟩
    constructor
    · intro name isOther
      have lookup := lookups name isOther
      rw [firstEntry_mapped whole] at lookup
      cases first : firstEntry entries name with
      | none => rw [lookup, first, Option.bind_none]
      | some value =>
          obtain ⟨number, integer, bounds⟩ := kept name value first
          obtain ⟨tag, converted⟩ := mapped_some integer
          rw [first, Option.bind_some, converted] at lookup
          exact ⟨tag, lookup, (mapped_integer converted).mpr ⟨number, integer, bounds⟩⟩
    · rw [firstEntry_mapped whole] at default
      obtain ⟨value, first, converted⟩ := Option.bind_eq_some_iff.mp default.symm
      exact ⟨value, first, (mapped_integer converted).mpr (kept defaultKey value first)⟩

/-! The getters in terms of the document. -/

theorem jsonxxItem_iff (members : List (Bytes × Written)) (key : String) (item : Json) :
    jsonxxItem (Written.object members).stored key = .ok item ↔
      ∃ value, foundUnder members (bytesOf key) = some value ∧ item = value.stored := by
  have found := getObjectItem_stored members (bytesOf key)
  rw [Written.stored] at found ⊢
  rw [jsonxxItem, found]
  cases foundUnder members (bytesOf key) <;> simp [eq_comm]

theorem memberInteger_iff (members : List (Bytes × Written)) (key : String) (read : Int) :
    memberInteger key (Written.object members).stored = .ok read ↔ IntegerRead members key read := by
  rw [memberInteger, Throwing.bind_ok_iff]
  simp only [jsonxxItem_iff, Throwing.pure_ok_iff, IntegerRead]
  constructor
  · rintro ⟨_, ⟨value, found, rfl⟩, rfl⟩
    exact ⟨value, found, rfl⟩
  · rintro ⟨value, found, rfl⟩
    exact ⟨_, ⟨value, found, rfl⟩, rfl⟩

theorem flag_read (members : List (Bytes × Written)) (read : Bool)
    (got : getJsonValidateHttpsCer (Written.object members).stored = .ok read) :
    FlagRead members "validate_https_certificate" read := by
  rw [getJsonValidateHttpsCer, Throwing.bind_ok_iff] at got
  obtain ⟨item, present, flag⟩ := got
  obtain ⟨value, found, rfl⟩ := (jsonxxItem_iff members _ item).mp present
  exact ⟨value, found, (Throwing.pure_ok_iff _ _).mp flag |>.symm⟩

theorem filled_eq {ε : Type} (invalid : ε) (raw stored : Bytes)
    (checked : filled invalid raw = .ok stored) : raw = stored ∧ stored ≠ [] := by
  unfold filled at checked
  split at checked
  · cases checked
  · rename_i some
    cases checked
    exact ⟨rfl, by simpa using some⟩

/-- What a string getter returns for a member that is written as a string. -/
theorem eraseQuotes_read {members : List (Bytes × Written)} {key : String} {text stored : Bytes}
    (found : foundUnder members (bytesOf key) = some (.string text))
    (erased : eraseQuotes (cString text) = .ok stored) : TextRead members key stored := by
  rw [eraseQuotes_eq] at erased
  split at erased
  · cases erased
  · rename_i readable
    exact ⟨text, found, not_or.mp readable, (Except.ok.inj erased).symm⟩

theorem filled_memberText {ε : Type} (invalid : ε) (members : List (Bytes × Written)) (key : String)
    (raw stored : Bytes) (read : memberText key (Written.object members).stored = .ok raw)
    (checked : filled invalid raw = .ok stored) : TextRead members key stored := by
  rw [memberText, Throwing.bind_ok_iff] at read
  obtain ⟨item, got, text⟩ := read
  obtain ⟨value, found, rfl⟩ := (jsonxxItem_iff members key item).mp got
  obtain ⟨rfl, some⟩ := filled_eq _ _ _ checked
  cases value with
  | string content => exact eraseQuotes_read found text
  | null | bool | integer | fraction | array | object =>
      cases text
      exact absurd rfl some

theorem getJsonString_read (members : List (Bytes × Written)) (key : String) (stored : Bytes)
    (got : getJsonValueByKey getJsonString (Written.object members).stored key = .ok stored) :
    TextRead members key stored := by
  rw [Written.stored, getJsonValueByKey_ok_iff, ← Written.stored, getObjectItem_stored] at got
  obtain ⟨item, found, string⟩ := got
  obtain ⟨value, under, rfl⟩ := Option.map_eq_some_iff.mp found
  cases value with
  | string content => exact eraseQuotes_read under string
  | null | bool | integer | fraction | array | object => cases string

theorem getJsonInt_read (members : List (Bytes × Written)) (key : String) (read : Int)
    (got : getJsonValueByKey getJsonInt (Written.object members).stored key = .ok read) :
    IntegerRead members key read := by
  rw [Written.stored, getJsonValueByKey_ok_iff, ← Written.stored, getObjectItem_stored] at got
  obtain ⟨item, found, number⟩ := got
  obtain ⟨value, under, rfl⟩ := Option.map_eq_some_iff.mp found
  refine ⟨value, under, ?_⟩
  obtain ⟨valuedouble, same⟩ := (getJsonInt_ok_iff _ _).mp number
  rw [same, itemInteger]

/-- The map comes from the entries that are written, and a string that holds them has
been read like every other one. -/
theorem operators_read [CJson] (members entries : List (Bytes × Written))
    (wrote : WroteOperators members entries) (operators : OperatorsMap)
    (got : getOperatorsMap (Written.object members).stored = .ok operators) :
    operatorsMap (Written.object entries).stored = .ok operators ∧
      ∀ text, foundUnder members (bytesOf "operators_map") = some (.string text) →
        cString text ≠ [] ∧ cString text ≠ [quote] := by
  unfold WroteOperators at wrote
  unfold getOperatorsMap at got
  rw [getObjectItem_stored] at got
  cases found : foundUnder members (bytesOf "operators_map") with
  | none =>
      rw [found] at got
      cases got
  | some value =>
      rw [found] at got
      simp only [found] at wrote
      cases value with
      | object inner =>
          subst wrote
          refine ⟨got, ?_⟩
          intro text same
          cases same
      | string text =>
          simp only [Option.map_some, Written.stored, Throwing.bind_ok_iff] at got
          obtain ⟨stored, erased, parsed⟩ := got
          rw [getJsonString, eraseQuotes_eq] at erased
          split at erased
          · cases erased
          · rename_i readable
            cases erased
            rw [wrote] at parsed
            refine ⟨parsed, ?_⟩
            intro other same
            cases same
            exact not_or.mp readable
      | null | bool | integer | fraction | array => cases got

theorem map_kept_iff {members entries : List (Bytes × Written)} {operators : OperatorsMap}
    (parsed : operatorsMap (Written.object entries).stored = .ok operators)
    (readable : ∀ text, foundUnder members (bytesOf "operators_map") = some (.string text) →
      cString text ≠ [] ∧ cString text ≠ [quote]) :
    MapStored members entries operators ↔ MapKept members entries := by
  rw [MapStored, MapKept, TextKept, and_assoc]
  apply and_congr_right
  intro own
  refine and_congr ?_ (entries_kept_iff parsed)
  refine forall₂_congr fun text found => ?_
  obtain ⟨filled, more⟩ := readable text (own.trans found)
  exact read_same_iff filled more

end LnpResolver.ConfigValues

import LnpResolver.DriverConfig

/-!
The driver type of a row. CDriverCfg::getID searches sDriverTypeArray and reads
the element its iterator designates before it knows that the search succeeded;
the filter for out of range ids comes after the read.
-/

namespace LnpResolver.DriverTypes

open PackedBytes RequestWire JsonItems Drivers Resolver DriverConfig

/-- The entry of the table that has the value as its stringId or numberId. -/
def entryOf (value : TypeValue) : Option SDriverTypeMap := sDriverTypeArray.find? value.names

/-- The id of a value: that of its entry, but Alcazar has no columns in the first format. -/
def specifiedId (value : TypeValue) (sConfigType : ECfgFormat) : ECDriverId :=
  match entryOf value with
  | none => .null
  | some entry =>
      if entry.privateId = .httpAlcazar ∧ sConfigType = .separateColumnV1 then .null
      else entry.privateId

section Lookup

variable [Pqxx] [CJson] (env : Environment) (data : RawConfig) (statics : Statics)

structure SafeLookup : Prop where
  inTable : ∀ identified after index, getID env data statics = .ok identified after →
    identified.dereferenced = some index → index < sDriverTypeArray.length
  answer : ∀ value, typeValue data = .ok value → ∃ identified after,
    getID env data statics = .ok identified after ∧
      identified.driverId = specifiedId value (detected data.columns statics.sConfigType)
  skipped : ∀ value, typeValue data = .ok value → entryOf value = none →
    ∃ after, instantiate env data statics = .ok none after

/-- The value needs no search or is found; Alcazar rows come in a known format. -/
def KnownType (value : TypeValue) (sConfigType : ECfgFormat) : Prop :=
  (value.isEmpty = true ∨ ∃ entry ∈ sDriverTypeArray, value.names entry = true) ∧
    ¬ (sConfigType = .invalid ∧
      ∃ entry ∈ sDriverTypeArray, value.names entry = true ∧ entry.privateId = .httpAlcazar)

omit [Pqxx] [CJson] in
theorem driverIdOf_value (driverId : ECDriverId) : driverIdOf driverId.value = driverId := by
  cases driverId <;> rfl

omit [Pqxx] [CJson] in
theorem privateIdAt_findIdx (pastTable : UInt8) (value : TypeValue) :
    privateIdAt pastTable (sDriverTypeArray.findIdx value.names) =
      match entryOf value with
      | some entry => entry.privateId.value
      | none => pastTable := by
  have same : entryOf value = sDriverTypeArray[sDriverTypeArray.findIdx value.names]? :=
    List.find?_eq_getElem?_findIdx
  cases found : entryOf value with
  | none => rw [privateIdAt, ← same, found]
  | some entry => rw [privateIdAt, ← same, found]

omit [Pqxx] [CJson] in
theorem entry_not_empty (value : TypeValue) (entry : SDriverTypeMap)
    (found : entryOf value = some entry) : value.isEmpty = false := by
  have member := List.mem_of_find?_eq_some found
  have named : value.names entry = true := List.find?_some found
  have filledTable : ∀ entry ∈ sDriverTypeArray,
      (bytesOf entry.stringId).isEmpty = false ∧ entry.numberId ≠ 0 := by decide
  obtain ⟨text, number⟩ := filledTable entry member
  cases value with
  | databaseType value =>
      have same : value = bytesOf entry.stringId := of_decide_eq_true named
      simpa [TypeValue.isEmpty, same] using text
  | driverNumber value =>
      have same : value = entry.numberId := of_decide_eq_true named
      simpa [TypeValue.isEmpty, same] using number

omit [Pqxx] [CJson] in
theorem entryOf_some_iff (value : TypeValue) :
    (∃ entry, entryOf value = some entry) ↔
      ∃ entry ∈ sDriverTypeArray, value.names entry = true := by
  rw [← Option.isSome_iff_exists, entryOf, List.find?_isSome]

-- no two entries share a stringId or a numberId
omit [Pqxx] [CJson] in
theorem entry_unique (value : TypeValue) (first second : SDriverTypeMap)
    (left : first ∈ sDriverTypeArray) (right : second ∈ sDriverTypeArray)
    (namesFirst : value.names first = true) (namesSecond : value.names second = true) :
    first = second := by
  have distinct : ∀ first ∈ sDriverTypeArray, ∀ second ∈ sDriverTypeArray,
      (bytesOf first.stringId = bytesOf second.stringId ∨ first.numberId = second.numberId) →
        first = second := by decide
  cases value with
  | databaseType value =>
      have same := (of_decide_eq_true namesFirst).symm.trans (of_decide_eq_true namesSecond)
      exact distinct first left second right (Or.inl same)
  | driverNumber value =>
      have same := (of_decide_eq_true namesFirst).symm.trans (of_decide_eq_true namesSecond)
      exact distinct first left second right (Or.inr same)

omit [CJson] in
theorem getID_ok (value : TypeValue) (typed : typeValue data = .ok value) :
    getID env data statics =
      .ok (lookUp env.pastTable value (detected data.columns statics.sConfigType))
        { statics with sConfigType := detected data.columns statics.sConfigType } := by
  simp only [getID, typed]

omit [CJson] in
theorem getID_inv (identified : Identified) (after : Statics)
    (returned : getID env data statics = .ok identified after) :
    ∃ value, typeValue data = .ok value ∧
      identified = lookUp env.pastTable value (detected data.columns statics.sConfigType) := by
  cases typed : typeValue data with
  | ok value =>
      rw [getID_ok env data statics value typed] at returned
      cases returned
      exact ⟨value, rfl, rfl⟩
  | error thrown =>
      simp only [getID, typed] at returned
      cases returned

omit [Pqxx] [CJson] in
theorem lookUp_empty (pastTable : UInt8) (value : TypeValue) (sConfigType : ECfgFormat)
    (empty : value.isEmpty = true) :
    lookUp pastTable value sConfigType = { driverId := .null } := by
  rw [lookUp, if_pos empty]

omit [Pqxx] [CJson] in
theorem lookUp_found (pastTable : UInt8) (value : TypeValue) (sConfigType : ECfgFormat)
    (entry : SDriverTypeMap) (found : entryOf value = some entry) :
    lookUp pastTable value sConfigType =
      { driverId := if entry.privateId = .httpAlcazar ∧
            sConfigType.rank ≤ ECfgFormat.separateColumnV1.rank then .null else entry.privateId
        dereferenced := some (sDriverTypeArray.findIdx value.names) } := by
  have filled := entry_not_empty value entry found
  simp only [lookUp, filled, privateIdAt_findIdx, found, driverIdOf_value, Bool.false_eq_true,
    if_false]

omit [Pqxx] [CJson] in
/-- An entry outside Alcazar under no format is read as the table says. -/
theorem lookUp_specified (pastTable : UInt8) (value : TypeValue) (sConfigType : ECfgFormat)
    (known : KnownType value sConfigType) :
    (lookUp pastTable value sConfigType).driverId = specifiedId value sConfigType := by
  obtain ⟨present, formatted⟩ := known
  cases found : entryOf value with
  | none =>
      rcases present with empty | named
      · rw [lookUp_empty _ _ _ empty, specifiedId, found]
      · obtain ⟨entry, other⟩ := (entryOf_some_iff value).mpr named
        rw [found] at other
        cases other
  | some entry =>
      have member := List.mem_of_find?_eq_some found
      have named : value.names entry = true := List.find?_some found
      rw [lookUp_found _ _ _ _ found, specifiedId, found]
      by_cases alcazar : entry.privateId = .httpAlcazar
      · cases sConfigType with
        | invalid => exact absurd ⟨rfl, entry, member, named, alcazar⟩ formatted
        | separateColumnV1 | separateColumnV2 | jsonString => simp [alcazar, ECfgFormat.rank]
      · simp [alcazar]

theorem instantiate_null (value : TypeValue) (typed : typeValue data = .ok value)
    (null : (lookUp env.pastTable value (detected data.columns statics.sConfigType)).driverId =
      .null) : ∃ after, instantiate env data statics = .ok none after := by
  simp only [instantiate, getID_ok env data statics value typed, null, newDriver]
  exact ⟨_, rfl⟩

theorem known_types_safe (known : ∀ value, typeValue data = .ok value →
      KnownType value (detected data.columns statics.sConfigType)) :
    SafeLookup env data statics where
  inTable := by
    intro identified after index returned dereferenced
    obtain ⟨value, typed, rfl⟩ := getID_inv env data statics identified after returned
    rcases (known value typed).1 with empty | named
    · rw [lookUp_empty _ _ _ empty] at dereferenced
      cases dereferenced
    · obtain ⟨entry, found⟩ := (entryOf_some_iff value).mpr named
      rw [lookUp_found _ _ _ _ found] at dereferenced
      cases dereferenced
      exact List.findIdx_lt_length_of_exists named
  answer := by
    intro value typed
    exact ⟨_, _, getID_ok env data statics value typed,
      lookUp_specified _ _ _ (known value typed)⟩
  skipped := by
    intro value typed absent
    apply instantiate_null env data statics value typed
    rw [lookUp_specified _ _ _ (known value typed), specifiedId, absent]

/-- The lookup stays in the table and answers by it exactly for the known types. -/
theorem safe_lookup_iff :
    SafeLookup env data statics ↔ ∀ value, typeValue data = .ok value →
      KnownType value (detected data.columns statics.sConfigType) := by
  refine ⟨?_, known_types_safe env data statics⟩
  rintro ⟨inTable, answer, -⟩ value typed
  obtain ⟨identified, after, returned, specified⟩ := answer value typed
  rw [getID_ok env data statics value typed] at returned
  cases returned
  constructor
  · by_contra unknown
    push Not at unknown
    obtain ⟨filled, absent⟩ := unknown
    -- the search ends at end(), and its element is read
    have atEnd : sDriverTypeArray.findIdx value.names = sDriverTypeArray.length := by
      apply List.findIdx_eq_length_of_false
      intro entry member
      simpa using absent entry member
    have outside := inTable _ _ (sDriverTypeArray.findIdx value.names)
      (getID_ok env data statics value typed) (by simp [lookUp, filled])
    omega
  · rintro ⟨unformatted, entry, member, named, alcazar⟩
    obtain ⟨other, found⟩ := (entryOf_some_iff value).mpr ⟨entry, member, named⟩
    have same : other = entry := entry_unique value other entry (List.mem_of_find?_eq_some found)
      member (List.find?_some found) named
    rw [lookUp_found _ _ _ _ found, specifiedId, found, unformatted, same] at specified
    simp [alcazar, ECfgFormat.rank] at specified

end Lookup

/-! A row of a type the table does not have. -/

def decimalDigits : Nat → Bytes → Option Nat
  | value, [] => some value
  | value, byte :: rest =>
      if 48 ≤ byte ∧ byte ≤ 57 then decimalDigits (10 * value + (byte.toNat - 48)) rest else none

/-- libpqxx on the texts of non-negative integers. -/
@[reducible]
def postgres : Pqxx where
  toInt32 := fun text => (decimalDigits 0 text).map Int.ofNat
  toUInt32 := fun text => (decimalDigits 0 text).map UInt32.ofNat
  toUInt16 := fun text => (decimalDigits 0 text).map UInt16.ofNat
  argumentError := fun name => bytesOf "Unknown column name: '" ++ bytesOf name ++ bytesOf "'."
  conversionError := bytesOf "Attempt to read null field."

@[reducible]
def noJson : CJson := ⟨fun _ => none, fun _ => []⟩

def quiet : Environment :=
  { files := fun _ => none
    sipClient := none
    asprintf := id
    pastTable := 0
    indeterminate := (0, false) }

def unknownRow : RawConfig where
  columns := ["id", "name", "database_type", "parameters"]
  value := fun name =>
    if name = "database_type" then some (bytesOf "Lnp::DatabaseTelco") else some (bytesOf "1")

attribute [local instance] postgres noJson

theorem unknown_type_reads_past_table : ¬ SafeLookup quiet unknownRow {} := by
  rintro ⟨inTable, -, -⟩
  have read : getID quiet unknownRow {} =
      .ok { driverId := .null, dereferenced := some 7 } { sConfigType := .jsonString } := by rfl
  exact absurd (inTable _ _ 7 read rfl) (by decide)

end LnpResolver.DriverTypes

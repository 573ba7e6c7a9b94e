import LnpResolver.ConfigValues
import LnpResolver.UrlTemplates

/-!
What an accepted configuration row makes of its values. Each of the seven
constructors reads its fields from the columns of the row or from the members of
the JSON document in its column "parameters". The columns are read as they are; the
members are kept under conditions on each of them.
-/

namespace LnpResolver.ConfigFidelity

open PackedBytes RequestWire JsonItems JsonGetters CoureAnqAnswers ConfigValues Drivers DriverConfig
open UrlTemplates

section Values

variable (format : ECfgFormat) (data : RawConfig) (members entries : List (Bytes × Written))

def PortStored (port : UInt16) : Prop :=
  IntegerStored format data members "o_port" "port" 0 port.toNat

def TimeoutStored (timeout : Nat) : Prop :=
  IntegerStored format data members "o_timeout" "timeout" defaultTimeout.toNat timeout

def HostStored (host : Bytes) : Prop := TextStored format data members "o_host" "host" host

/-- Every field of the driver has its value from the row; for the CSV driver that is the
path of the file it has read. Three types of drivers have no columns of their own. -/
def Faithful [Pqxx] [CJson] (env : Environment) : Driver → Prop
  | .sip driver =>
      HostStored format data members driver.host ∧ PortStored format data members driver.port ∧
        TimeoutStored format data members driver.timeout
  | .thinq driver =>
      HostStored format data members driver.host ∧
        TextStored format data members "o_thinq_username" "username" driver.userName ∧
        TextStored format data members "o_thinq_token" "token" driver.token ∧
        PortStored format data members driver.port ∧
        TimeoutStored format data members driver.timeout
  | .alcazar driver =>
      HostStored format data members driver.host ∧
        TextStored format data members "o_alkazar_key" "key" driver.key ∧
        PortStored format data members driver.port ∧
        TimeoutStored format data members driver.timeout
  | .mhashCsv _ => ∀ label path, mhashCsvFilePath env format data label = .ok path →
      TextStored format data members "o_csv_file" "csv_file_path" path
  | .bulkvs driver => format = .jsonString ∧
      TextStored format data members "" "url" driver.url ∧
        TextStored format data members "" "token" driver.token ∧
        TimeoutStored format data members driver.timeout ∧
        FlagStored members "validate_https_certificate" driver.validateHttpsCer
  | .coureAnq driver => format = .jsonString ∧
      TextStored format data members "" "base_url" driver.baseUrl ∧
        TextStored format data members "" "username" driver.username ∧
        TextStored format data members "" "password" driver.password ∧
        TextStored format data members "" "country_code" driver.countryCode ∧
        TimeoutStored format data members driver.timeout ∧
        MapStored members entries driver.operatorsMap
  | .cnam driver => format = .jsonString ∧
      TextStored format data members "" "url" (render driver.uriParts) ∧
        TimeoutStored format data members driver.timeout

end Values

/-! The condition, by the type of the driver. -/

def textKeys : ECDriverId → List String
  | .null => []
  | .sip => ["host"]
  | .httpThinq => ["host", "username", "token"]
  | .mhashCsv => ["csv_file_path"]
  | .httpAlcazar => ["host", "key"]
  | .httpCoureanq => ["base_url", "username", "password", "country_code"]
  | .cnamHttp => ["url"]
  | .httpBulkvs => ["url", "token"]

def hasPort : ECDriverId → Bool
  | .sip | .httpThinq | .httpAlcazar => true
  | _ => false

def hasTimeout : ECDriverId → Bool
  | .null | .mhashCsv => false
  | _ => true

def hasFlag : ECDriverId → Bool
  | .httpBulkvs => true
  | _ => false

def hasMap : ECDriverId → Bool
  | .httpCoureanq => true
  | _ => false

def JsonKept (members entries : List (Bytes × Written)) (driverId : ECDriverId) : Prop :=
  (∀ key ∈ textKeys driverId, TextKept members key) ∧
    (hasPort driverId = true → InRange members "port" 65535) ∧
    (hasTimeout driverId = true → InRange members "timeout" intMax) ∧
    (hasFlag driverId = true → FlagKept members "validate_https_certificate") ∧
    (hasMap driverId = true → MapKept members entries)

def Kept (format : ECfgFormat) (members entries : List (Bytes × Written)) (driverId : ECDriverId) :
    Prop :=
  if format = .jsonString then JsonKept members entries driverId else driverId ≠ .httpBulkvs

/-! The constructors, one lemma for each on a JSON document. -/

section Documents

variable [Pqxx] [CJson] (env : Environment) (data : RawConfig) (members : List (Bytes × Written))

omit [CJson] in
theorem parameters_eq (text : Bytes) (read : parameters data = .ok text) :
    text = cStr (data.value "parameters") := by
  unfold parameters field at read
  split at read
  · rename_i value known
    split at known
    · cases known
      cases read
      rfl
    · cases known
  · cases read

theorem jsonxx_eq (wrote : Wrote data members) (text : Bytes) (root : Json)
    (read : parameters data = .ok text) (parsed : jsonxx text = .ok root) :
    root = (Written.object members).stored := by
  rw [parameters_eq data text read, jsonxx, wrote] at parsed
  exact (Except.ok.inj parsed).symm

theorem parsedParameters_eq (wrote : Wrote data members) (root : Json)
    (parsed : parsedParameters data = .ok root) : root = (Written.object members).stored := by
  rw [parsedParameters, Throwing.bind_ok_iff] at parsed
  obtain ⟨text, read, parsed⟩ := parsed
  rw [parameters_eq data text read, wrote] at parsed
  exact (Except.ok.inj parsed).symm

/-- The fields of a driver as the getters have read them. -/
structure Read (texts : List (String × Bytes)) (port : Option UInt16) (timeout : Option Nat) :
    Prop where
  texts : ∀ field ∈ texts, TextRead members field.1 field.2
  port : ∀ stored ∈ port, ∃ read, IntegerRead members "port" read ∧ stored = UInt16.ofInt read
  timeout : ∀ stored ∈ timeout,
    ∃ read, IntegerRead members "timeout" read ∧ stored = (UInt32.ofInt read).toNat

theorem sip_read (wrote : Wrote data members) (driver : CSipDriver)
    (accepted : sipDriverCfg env .jsonString data = .ok driver) :
    Read members [("host", driver.host)] (some driver.port) (some driver.timeout) := by
  simp only [sipDriverCfg, Throwing.bind_ok_iff, if_true, rethrowing_ok_iff, getJsonPort,
    getJsonTimeout, Throwing.pure_ok_iff] at accepted
  obtain ⟨-, -, text, read, root, parsed, raw, got, host, checked, _, ⟨port, first, rfl⟩, _,
    ⟨timeout, second, rfl⟩, rfl⟩ := accepted
  cases jsonxx_eq data members wrote text root read parsed
  rw [memberInteger_iff] at first second
  refine ⟨?_, ?_, ?_⟩
  · simpa using filled_memberText _ members "host" raw host got checked
  · simpa using ⟨port, first, rfl⟩
  · simpa using ⟨timeout, second, rfl⟩

theorem thinq_read (wrote : Wrote data members) (driver : CHttpThinqDriver)
    (accepted : thinqDriverCfg env .jsonString data = .ok driver) :
    Read members [("host", driver.host), ("username", driver.userName), ("token", driver.token)]
      (some driver.port) (some driver.timeout) := by
  simp only [thinqDriverCfg, Throwing.bind_ok_iff, if_true, rethrowing_ok_iff, getJsonPort,
    getJsonTimeout, Throwing.pure_ok_iff] at accepted
  obtain ⟨-, -, text, read, root, parsed, rawHost, gotHost, host, checkedHost, rawName, gotName,
    name, checkedName, rawToken, gotToken, token, checkedToken, _, ⟨port, first, rfl⟩, _,
    ⟨timeout, second, rfl⟩, rfl⟩ := accepted
  cases jsonxx_eq data members wrote text root read parsed
  rw [memberInteger_iff] at first second
  refine ⟨?_, ?_, ?_⟩
  · simpa using ⟨filled_memberText _ members "host" rawHost host gotHost checkedHost,
      filled_memberText _ members "username" rawName name gotName checkedName,
      filled_memberText _ members "token" rawToken token gotToken checkedToken⟩
  · simpa using ⟨port, first, rfl⟩
  · simpa using ⟨timeout, second, rfl⟩

theorem alcazar_read (wrote : Wrote data members) (driver : CHttpAlcazarDriver)
    (accepted : alcazarDriverCfg env .jsonString data = .ok driver) :
    Read members [("host", driver.host), ("key", driver.key)] (some driver.port)
      (some driver.timeout) := by
  simp only [alcazarDriverCfg, Throwing.bind_ok_iff, if_true, rethrowing_ok_iff, getJsonPort,
    getJsonTimeout, Throwing.pure_ok_iff] at accepted
  obtain ⟨-, -, text, read, root, parsed, rawHost, gotHost, host, checkedHost, rawKey, gotKey,
    key, checkedKey, _, ⟨port, first, rfl⟩, _, ⟨timeout, second, rfl⟩, rfl⟩ := accepted
  cases jsonxx_eq data members wrote text root read parsed
  rw [memberInteger_iff] at first second
  refine ⟨?_, ?_, ?_⟩
  · simpa using ⟨filled_memberText _ members "host" rawHost host gotHost checkedHost,
      filled_memberText _ members "key" rawKey key gotKey checkedKey⟩
  · simpa using ⟨port, first, rfl⟩
  · simpa using ⟨timeout, second, rfl⟩

theorem csv_read (wrote : Wrote data members) (label path : Bytes)
    (accepted : mhashCsvFilePath env .jsonString data label = .ok path) :
    Read members [("csv_file_path", path)] none none := by
  simp only [mhashCsvFilePath, if_true, rethrowing_ok_iff, Throwing.bind_ok_iff] at accepted
  obtain ⟨text, read, root, parsed, raw, got, checked⟩ := accepted
  cases jsonxx_eq data members wrote text root read parsed
  refine ⟨?_, by simp, by simp⟩
  simpa using filled_memberText _ members "csv_file_path" raw path got checked

theorem bulkvs_read (wrote : Wrote data members) (driver : CHttpBulkvsDriver)
    (accepted : bulkvsDriverCfg env .jsonString data = .ok driver) :
    Read members [("url", driver.url), ("token", driver.token)] none (some driver.timeout) ∧
      FlagRead members "validate_https_certificate" driver.validateHttpsCer := by
  simp only [bulkvsDriverCfg, Throwing.bind_ok_iff, if_true, rethrowing_ok_iff, getJsonTimeout,
    Throwing.pure_ok_iff] at accepted
  obtain ⟨-, -, text, read, root, parsed, rawUrl, gotUrl, url, checkedUrl, rawToken, gotToken,
    token, checkedToken, _, ⟨timeout, second, rfl⟩, flag, third, rfl⟩ := accepted
  cases jsonxx_eq data members wrote text root read parsed
  rw [memberInteger_iff] at second
  refine ⟨⟨?_, by simp, ?_⟩, flag_read members flag third⟩
  · simpa using ⟨filled_memberText _ members "url" rawUrl url gotUrl checkedUrl,
      filled_memberText _ members "token" rawToken token gotToken checkedToken⟩
  · simpa using ⟨timeout, second, rfl⟩

theorem coureAnq_read (wrote : Wrote data members) (driver : CHttpCoureAnqDriver)
    (accepted : coureAnqDriverCfg env .jsonString data = .ok driver) :
    Read members [("base_url", driver.baseUrl), ("username", driver.username),
      ("password", driver.password), ("country_code", driver.countryCode)] none
      (some driver.timeout) ∧
      getOperatorsMap (Written.object members).stored = .ok driver.operatorsMap := by
  simp only [coureAnqDriverCfg, ne_eq, not_true_eq_false, if_false, Throwing.bind_ok_iff,
    rethrowing_ok_iff, Throwing.pure_ok_iff] at accepted
  obtain ⟨-, -, root, parsed, baseUrl, first, username, second, password, third, countryCode,
    fourth, timeout, fifth, operators, sixth, rfl⟩ := accepted
  cases parsedParameters_eq data members wrote root parsed
  refine ⟨⟨?_, by simp, ?_⟩, sixth⟩
  · simpa using ⟨getJsonString_read members "base_url" _ first,
      getJsonString_read members "username" _ second, getJsonString_read members "password" _ third,
      getJsonString_read members "country_code" _ fourth⟩
  · simpa using ⟨timeout, getJsonInt_read members "timeout" timeout fifth, rfl⟩

theorem cnam_read (wrote : Wrote data members) (driver : CCnamHttpDriver)
    (accepted : cnamDriverCfg env .jsonString data = .ok driver) :
    Read members [("url", render driver.uriParts)] none (some driver.timeout) := by
  simp only [cnamDriverCfg, ne_eq, not_true_eq_false, if_false, Throwing.bind_ok_iff,
    rethrowing_ok_iff, Throwing.pure_ok_iff] at accepted
  obtain ⟨-, -, root, parsed, timeout, first, url, second, parts, scanned, rfl⟩ := accepted
  cases parsedParameters_eq data members wrote root parsed
  have lossless := (parse_scanned false [] url parts ⟨List.not_mem_nil, List.not_mem_nil⟩
    scanned).lossless
  refine ⟨?_, by simp, ?_⟩
  · simpa [lossless, pending] using getJsonString_read members "url" _ second
  · simpa using ⟨timeout, getJsonInt_read members "timeout" timeout first, rfl⟩

omit [Pqxx] [CJson] in
/-- What was read is the value of the row exactly under the condition on the members. -/
theorem read_kept_iff (texts : List (String × Bytes)) (port : Option UInt16) (timeout : Option Nat)
    (read : Read members texts port timeout) :
    ((∀ field ∈ texts, UnderOwnName members (bytesOf field.1) ∧
        ∃ text, valueUnder members (bytesOf field.1) = some (.string text) ∧ SameText text field.2) ∧
      (∀ stored ∈ port, UnderOwnName members (bytesOf "port") ∧ ∃ value,
        valueUnder members (bytesOf "port") = some value ∧ value.IsInteger stored.toNat) ∧
      (∀ stored ∈ timeout, UnderOwnName members (bytesOf "timeout") ∧ ∃ value,
        valueUnder members (bytesOf "timeout") = some value ∧ value.IsInteger stored)) ↔
    (∀ field ∈ texts, TextKept members field.1) ∧
      (∀ _ ∈ port, InRange members "port" 65535) ∧
      (∀ _ ∈ timeout, InRange members "timeout" intMax) := by
  refine and_congr ?_ (and_congr ?_ ?_)
  · exact forall₂_congr fun field member =>
      text_kept_iff members field.1 field.2 (read.texts field member)
  · refine forall₂_congr fun stored member => ?_
    obtain ⟨value, known, rfl⟩ := read.port stored member
    exact port_kept_iff members value known
  · refine forall₂_congr fun stored member => ?_
    obtain ⟨value, known, rfl⟩ := read.timeout stored member
    exact timeout_kept_iff members value known

end Documents

/-! The constructors on columns. -/

section Columns

variable [Pqxx] (data : RawConfig)

theorem asText_value (name : String) (stored : Bytes) (read : asText data name = .ok stored) :
    data.value name = some stored := by
  simp only [asText, field, Throwing.bind_ok_iff] at read
  obtain ⟨value, known, read⟩ := read
  split at known
  · cases known
    split at read
    · rename_i text present
      rw [present]
      exact congrArg some (Except.ok.inj read)
    · cases read
  · cases known

theorem asNumber_value {α : Type} (name : String) (convert : Bytes → Option α) (default stored : α)
    (read : asNumber data name convert default = .ok stored) :
    (data.value name = none ∧ stored = default) ∨
      ∃ text, data.value name = some text ∧ convert text = some stored := by
  simp only [asNumber, field, Throwing.bind_ok_iff] at read
  obtain ⟨value, known, read⟩ := read
  split at known
  · cases known
    split at read
    · rename_i absent
      exact Or.inl ⟨absent, (Except.ok.inj read).symm⟩
    · rename_i text present
      right
      refine ⟨text, present, ?_⟩
      split at read
      · rename_i number converted
        rw [converted]
        exact congrArg some (Except.ok.inj read)
      · cases read
  · cases known

/-- The two formats with columns. -/
def Columns (format : ECfgFormat) : Prop := format = .separateColumnV1 ∨ format = .separateColumnV2

variable (members : List (Bytes × Written)) {format : ECfgFormat} (columns : Columns format)

include columns

theorem columnText_stored (column key : String) (stored : Bytes)
    (read : columnText format column data = .ok stored) :
    TextStored format data members column key stored := by
  rcases columns with rfl | rfl <;> exact asText_value data column stored read

theorem columnNumber_stored {α : Type} (toNat : α → Nat) (convert : Bytes → Option α)
    (exact : ∀ text number, convert text = some number →
      integerText text = some (toNat number : Int))
    (column key : String) (default stored : α)
    (read : columnNumber format column convert default data = .ok stored) :
    IntegerStored format data members column key (toNat default) (toNat stored) := by
  have known : asNumber data column convert default = .ok stored := by
    rcases columns with rfl | rfl <;> exact read
  rcases asNumber_value data _ _ _ _ known with ⟨absent, rfl⟩ | ⟨text, present, converted⟩
  · rcases columns with rfl | rfl <;> simp only [IntegerStored, absent]
  · have same := exact text stored converted
    rcases columns with rfl | rfl <;> simpa only [IntegerStored, present] using same

theorem getRawPort_stored (exact : ExactColumns) (port : UInt16)
    (read : getRawPort format data = .ok port) : PortStored format data members port :=
  columnNumber_stored data members columns UInt16.toNat _ exact.uint16 _ _ 0 port read

theorem getRawTimeout_stored (exact : ExactColumns) (timeout : UInt32)
    (read : getRawTimeout format data = .ok timeout) :
    TimeoutStored format data members timeout.toNat :=
  columnNumber_stored data members columns UInt32.toNat _ exact.uint32 _ _ defaultTimeout timeout
    read

omit columns in
theorem driverCfg_columns (cfg : CDriverCfg) (other : format ≠ .jsonString)
    (made : driverCfg format data = .ok cfg) : Columns format := by
  cases format with
  | invalid => simp [driverCfg, getRawUniqId, Throwing.ok_bind, Throwing.bind_ok_iff] at made
  | separateColumnV1 => exact Or.inl rfl
  | separateColumnV2 => exact Or.inr rfl
  | jsonString => exact absurd rfl other

end Columns

section Rows

variable [Pqxx] [CJson] (env : Environment) (data : RawConfig)
  (members entries : List (Bytes × Written)) {format : ECfgFormat} (other : format ≠ .jsonString)

include other

theorem sip_columns (exact : ExactColumns) (driver : CSipDriver)
    (accepted : sipDriverCfg env format data = .ok driver) :
    Faithful format data members entries env (.sip driver) := by
  simp only [sipDriverCfg, Throwing.bind_ok_iff, other, if_false, Throwing.pure_ok_iff] at accepted
  obtain ⟨cfg, base, raw, read, host, checked, port, first, timeout, second, rfl⟩ := accepted
  have columns := driverCfg_columns data cfg other base
  cases (filled_eq _ _ _ checked).1
  exact ⟨columnText_stored data members columns _ _ _ read,
    getRawPort_stored data members columns exact port first,
    getRawTimeout_stored data members columns exact timeout second⟩

theorem thinq_columns (exact : ExactColumns) (driver : CHttpThinqDriver)
    (accepted : thinqDriverCfg env format data = .ok driver) :
    Faithful format data members entries env (.thinq driver) := by
  simp only [thinqDriverCfg, Throwing.bind_ok_iff, other, if_false, Throwing.pure_ok_iff] at accepted
  obtain ⟨cfg, base, rawHost, readHost, host, checkedHost, rawName, readName, name, checkedName,
    rawToken, readToken, token, checkedToken, port, first, timeout, second, rfl⟩ := accepted
  have columns := driverCfg_columns data cfg other base
  cases (filled_eq _ _ _ checkedHost).1
  cases (filled_eq _ _ _ checkedName).1
  cases (filled_eq _ _ _ checkedToken).1
  exact ⟨columnText_stored data members columns _ _ _ readHost,
    columnText_stored data members columns _ _ _ readName,
    columnText_stored data members columns _ _ _ readToken,
    getRawPort_stored data members columns exact port first,
    getRawTimeout_stored data members columns exact timeout second⟩

-- the first column format has no key, which the check for an empty one finds out
theorem alcazar_columns (exact : ExactColumns) (driver : CHttpAlcazarDriver)
    (accepted : alcazarDriverCfg env format data = .ok driver) :
    Faithful format data members entries env (.alcazar driver) := by
  simp only [alcazarDriverCfg, Throwing.bind_ok_iff, other, if_false,
    Throwing.pure_ok_iff] at accepted
  obtain ⟨cfg, base, rawHost, readHost, host, checkedHost, rawKey, readKey, key, checkedKey, port,
    first, timeout, second, rfl⟩ := accepted
  have columns := driverCfg_columns data cfg other base
  have key : TextStored format data members "o_alkazar_key" "key" rawKey := by
    rcases columns with rfl | rfl
    · cases readKey
      cases checkedKey
    · exact asText_value data _ _ readKey
  cases (filled_eq _ _ _ checkedHost).1
  cases (filled_eq _ _ _ checkedKey).1
  exact ⟨columnText_stored data members columns _ _ _ readHost, key,
    getRawPort_stored data members columns exact port first,
    getRawTimeout_stored data members columns exact timeout second⟩

theorem csv_columns (driver : CMhashCsvDriver)
    (accepted : mhashCsvDriver env format data = .ok driver) :
    Faithful format data members entries env (.mhashCsv driver) := by
  simp only [mhashCsvDriver, Throwing.bind_ok_iff] at accepted
  obtain ⟨cfg, base, -⟩ := accepted
  have columns := driverCfg_columns data cfg other base
  intro label path opened
  simp only [mhashCsvFilePath, other, if_false, Throwing.bind_ok_iff] at opened
  obtain ⟨raw, read, checked⟩ := opened
  cases (filled_eq _ _ _ checked).1
  exact columnText_stored data members columns _ _ _ read

end Rows

/-! Both formats together. -/

section Rule

variable [Pqxx] [CJson] (env : Environment) (data : RawConfig)
  (members entries : List (Bytes × Written))

/-- The constructor that made a driver. -/
inductive Made (format : ECfgFormat) : ECDriverId → Driver → Prop where
  | sip (driver : CSipDriver) (made : sipDriverCfg env format data = .ok driver) :
      Made format .sip (.sip driver)
  | thinq (driver : CHttpThinqDriver) (made : thinqDriverCfg env format data = .ok driver) :
      Made format .httpThinq (.thinq driver)
  | mhashCsv (driver : CMhashCsvDriver) (made : mhashCsvDriver env format data = .ok driver) :
      Made format .mhashCsv (.mhashCsv driver)
  | alcazar (driver : CHttpAlcazarDriver) (made : alcazarDriverCfg env format data = .ok driver) :
      Made format .httpAlcazar (.alcazar driver)
  | coureAnq (driver : CHttpCoureAnqDriver) (made : coureAnqDriverCfg env format data = .ok driver) :
      Made format .httpCoureanq (.coureAnq driver)
  | cnam (driver : CCnamHttpDriver) (made : cnamDriverCfg env format data = .ok driver) :
      Made format .cnamHttp (.cnam driver)
  | bulkvs (driver : CHttpBulkvsDriver) (made : bulkvsDriverCfg env format data = .ok driver) :
      Made format .httpBulkvs (.bulkvs driver)

theorem newDriver_made (format : ECfgFormat) (driverId : ECDriverId) (driver : Driver)
    (accepted : newDriver env format data driverId = .ok (some driver)) :
    Made env data format driverId driver := by
  cases driverId with
  | null => cases accepted
  | sip | httpThinq | mhashCsv | httpAlcazar | httpCoureanq | cnamHttp | httpBulkvs =>
      simp only [newDriver, Throwing.bind_ok_iff, Throwing.pure_ok_iff, Option.some.injEq] at accepted
      obtain ⟨driver, made, rfl⟩ := accepted
      constructor
      exact made

theorem csv_faithful_iff (wrote : Wrote data members) (driver : CMhashCsvDriver)
    (made : mhashCsvDriver env .jsonString data = .ok driver) :
    Faithful .jsonString data members entries env (.mhashCsv driver) ↔
      JsonKept members entries .mhashCsv := by
  simp only [mhashCsvDriver, Throwing.bind_ok_iff] at made
  obtain ⟨cfg, -, path, opened, -⟩ := made
  have each : ∀ label path, mhashCsvFilePath env .jsonString data label = .ok path →
      (TextStored .jsonString data members "o_csv_file" "csv_file_path" path ↔
        TextKept members "csv_file_path") := by
    intro label path found
    have kept := read_kept_iff members _ _ _ (csv_read env data members wrote label path found)
    simpa [TextStored] using kept
  have whole : JsonKept members entries .mhashCsv ↔ TextKept members "csv_file_path" := by
    simp [JsonKept, textKeys, hasPort, hasTimeout, hasFlag, hasMap]
  rw [whole]
  constructor
  · intro faithful
    exact (each _ path opened).mp (faithful _ path opened)
  · intro quoted label other found
    exact (each label other found).mpr quoted

theorem json_faithful_iff (wrote : Wrote data members) (driverId : ECDriverId)
    (wroteMap : driverId = .httpCoureanq → WroteOperators members entries) (driver : Driver)
    (accepted : newDriver env .jsonString data driverId = .ok (some driver)) :
    Faithful .jsonString data members entries env driver ↔ JsonKept members entries driverId := by
  cases newDriver_made env data _ driverId driver accepted with
  | sip driver made =>
      have kept := read_kept_iff members _ _ _ (sip_read env data members wrote driver made)
      simpa [Faithful, HostStored, PortStored, TimeoutStored, TextStored, IntegerStored, JsonKept,
        textKeys, hasPort, hasTimeout, hasFlag, hasMap] using kept
  | thinq driver made =>
      have kept := read_kept_iff members _ _ _ (thinq_read env data members wrote driver made)
      simpa [Faithful, HostStored, PortStored, TimeoutStored, TextStored, IntegerStored, JsonKept,
        textKeys, hasPort, hasTimeout, hasFlag, hasMap, and_assoc] using kept
  | mhashCsv driver made => exact csv_faithful_iff env data members entries wrote driver made
  | alcazar driver made =>
      have kept := read_kept_iff members _ _ _ (alcazar_read env data members wrote driver made)
      simpa [Faithful, HostStored, PortStored, TimeoutStored, TextStored, IntegerStored, JsonKept,
        textKeys, hasPort, hasTimeout, hasFlag, hasMap, and_assoc] using kept
  | coureAnq driver made =>
      obtain ⟨read, got⟩ := coureAnq_read env data members wrote driver made
      obtain ⟨parsed, readable⟩ := operators_read members entries (wroteMap rfl) _ got
      have kept := and_congr (read_kept_iff members _ _ _ read) (map_kept_iff parsed readable)
      simpa [Faithful, TimeoutStored, TextStored, IntegerStored, JsonKept,
        textKeys, hasPort, hasTimeout, hasFlag, hasMap, and_assoc] using kept
  | cnam driver made =>
      have kept := read_kept_iff members _ _ _ (cnam_read env data members wrote driver made)
      simpa [Faithful, TimeoutStored, TextStored, IntegerStored, JsonKept,
        textKeys, hasPort, hasTimeout, hasFlag, hasMap, and_assoc] using kept
  | bulkvs driver made =>
      obtain ⟨read, flag⟩ := bulkvs_read env data members wrote driver made
      have kept := and_congr (read_kept_iff members _ _ _ read) (flag_kept_iff members _ _ flag)
      simpa [Faithful, TimeoutStored, TextStored, IntegerStored, JsonKept,
        textKeys, hasPort, hasTimeout, hasFlag, hasMap, and_assoc] using kept

/-- Columns are kept as they are, but the BulkVS driver reads none. -/
theorem columns_faithful_iff (exact : ExactColumns) {format : ECfgFormat}
    (other : format ≠ .jsonString) (driverId : ECDriverId) (driver : Driver)
    (accepted : newDriver env format data driverId = .ok (some driver)) :
    Faithful format data members entries env driver ↔ driverId ≠ .httpBulkvs := by
  cases newDriver_made env data _ driverId driver accepted with
  | sip driver made => simp [sip_columns env data members entries other exact driver made]
  | thinq driver made => simp [thinq_columns env data members entries other exact driver made]
  | mhashCsv driver made => simp [csv_columns env data members entries other driver made]
  | alcazar driver made => simp [alcazar_columns env data members entries other exact driver made]
  | coureAnq driver made =>
      simp [coureAnqDriverCfg, Throwing.bind_ok_iff, other, throw, throwThe, MonadExceptOf.throw] at made
  | cnam driver made =>
      simp [cnamDriverCfg, Throwing.bind_ok_iff, other, throw, throwThe, MonadExceptOf.throw] at made
  | bulkvs driver made => simp [Faithful, other]

/-- An accepted row is kept exactly under the condition of its format. -/
theorem configuration_faithful_iff (exact : ExactColumns) (format : ECfgFormat)
    (wrote : format = .jsonString → Wrote data members) (driverId : ECDriverId)
    (wroteMap : format = .jsonString → driverId = .httpCoureanq → WroteOperators members entries)
    (driver : Driver) (accepted : newDriver env format data driverId = .ok (some driver)) :
    Faithful format data members entries env driver ↔ Kept format members entries driverId := by
  unfold Kept
  by_cases json : format = .jsonString
  · subst json
    rw [if_pos rfl]
    exact json_faithful_iff env data members entries (wrote rfl) driverId (wroteMap rfl) driver
      accepted
  · rw [if_neg json]
    exact columns_faithful_iff env data members entries exact json driverId driver accepted

end Rule

/-! A row of the Coure ANQ driver that is kept, and one of a SIP driver whose port is too
large. -/

def inType (limit : Nat) (text : Bytes) : Option Nat :=
  (integerText text).bind fun value => if 0 ≤ value ∧ value ≤ limit then some value.toNat else none

theorem inType_exact {limit : Nat} {text : Bytes} {number : Nat}
    (converted : inType limit text = some number) :
    integerText text = some (number : Int) ∧ number ≤ limit := by
  unfold inType at converted
  cases value : integerText text with
  | none => simp [value] at converted
  | some integer =>
      simp only [value, Option.bind_some] at converted
      split at converted
      · cases converted
        constructor
        · congr 1
          omega
        · omega
      · cases converted

@[reducible]
def decimalColumns : Pqxx where
  toInt32 := integerText
  toUInt32 := fun text => (inType 4294967295 text).map UInt32.ofNat
  toUInt16 := fun text => (inType 65535 text).map UInt16.ofNat
  argumentError := fun _ => []
  conversionError := []

def anqOperators : List (Bytes × Written) := [(defaultKey, .integer 9), (bytesOf "ETS", .integer 3)]

/-- The timeout is written with an exponent, as 4e3. -/
def anqMembers : List (Bytes × Written) :=
  [(bytesOf "base_url", .string (bytesOf "http://anq")), (bytesOf "username", .string (bytesOf "u")),
   (bytesOf "password", .string (bytesOf "p")), (bytesOf "country_code", .string (bytesOf "234")),
   (bytesOf "timeout", .fraction ⟨.none, bytesOf "4", 3⟩),
   (bytesOf "operators_map", .object anqOperators)]

def sipMembers : List (Bytes × Written) :=
  [(bytesOf "host", .string (bytesOf "lnp")), (bytesOf "port", .integer 70000),
   (bytesOf "timeout", .integer 4000)]

def anqParameters : Bytes :=
  bytesOf "\x7b\"base_url\":\"http://anq\",\"username\":\"u\",\"password\":\"p\"," ++
    bytesOf "\"country_code\":\"234\",\"timeout\":4e3," ++
    bytesOf "\"operators_map\":\x7b\"default\":9,\"ETS\":3\x7d\x7d"

def sipParameters : Bytes :=
  bytesOf "\x7b\"host\":\"lnp\",\"port\":70000,\"timeout\":4000\x7d"

@[reducible]
def sampleParameters : CJson where
  parse := fun text =>
    if text = anqParameters then some (Written.object anqMembers).stored
    else if text = sipParameters then some (Written.object sipMembers).stored
    else none
  printUnformatted := fun _ => []

attribute [local instance] decimalColumns sampleParameters

def sampleRow (parameters : Bytes) : RawConfig where
  columns := ["id", "name", "parameters"]
  value := fun column =>
    if column = "id" then some (bytesOf "1")
    else if column = "name" then some (bytesOf "sample")
    else if column = "parameters" then some parameters
    else none

def emptyEnvironment : Environment := ⟨fun _ => none, none, id, 0, (0, false)⟩

theorem decimalColumns_exact : ExactColumns where
  uint16 := by
    intro text number converted
    obtain ⟨value, within, rfl⟩ := Option.map_eq_some_iff.mp converted
    obtain ⟨integer, small⟩ := inType_exact within
    rw [integer, UInt16.toNat_ofNat', Nat.mod_eq_of_lt (by omega)]
  uint32 := by
    intro text number converted
    obtain ⟨value, within, rfl⟩ := Option.map_eq_some_iff.mp converted
    obtain ⟨integer, small⟩ := inType_exact within
    rw [integer, UInt32.toNat_ofNat', Nat.mod_eq_of_lt (by omega)]

theorem anq_entries_kept : EntriesKept anqOperators := by
  constructor
  · decide
  · intro name value first
    obtain ⟨entry, found, rfl⟩ := Option.map_eq_some_iff.mp first
    rcases List.mem_pair.mp (List.mem_of_find?_eq_some found) with rfl | rfl
    · exact ⟨9, rfl, by decide, by decide⟩
    · exact ⟨3, rfl, by decide, by decide⟩

theorem anq_kept : Kept .jsonString anqMembers anqOperators .httpCoureanq := by
  have own : ∀ key : String, 0 ∉ bytesOf key → UnderOwnName anqMembers (bytesOf key) :=
    fun key plain => underOwnName_plain (by decide) plain
  rw [Kept, if_pos rfl]
  refine ⟨?_, fun port => absurd port (by decide),
    fun _ => ⟨own "timeout" (by decide), _, rfl, 4000, ?_, by decide, by decide⟩,
    fun flag => absurd flag (by decide),
    fun _ => ⟨⟨own "operators_map" (by decide), ?_⟩, anq_entries_kept⟩⟩
  · intro key member
    simp only [textKeys, List.mem_cons, List.not_mem_nil, or_false] at member
    rcases member with rfl | rfl | rfl | rfl
    all_goals
      refine ⟨own _ (by decide), ?_⟩
      intro text found
      cases found
      exact ⟨by decide, by decide⟩
  · norm_num [Written.IsInteger, DecimalNumerals.Numeral.value, DecimalNumerals.Numeral.magnitude,
      show CStrings.digitsValue (bytesOf "4") = 4 from rfl]
  · intro text found
    cases found

theorem configuration_faithful_for_operators : ∃ driver,
    newDriver emptyEnvironment .jsonString (sampleRow anqParameters) .httpCoureanq =
      .ok (some (.coureAnq driver)) ∧
    Faithful .jsonString (sampleRow anqParameters) anqMembers anqOperators emptyEnvironment
      (.coureAnq driver) := by
  obtain ⟨driver, accepted⟩ : ∃ driver,
      newDriver emptyEnvironment .jsonString (sampleRow anqParameters) .httpCoureanq =
        .ok (some (.coureAnq driver)) := ⟨_, rfl⟩
  have wrote : Wrote (sampleRow anqParameters) anqMembers := by
    rfl
  have operators : WroteOperators anqMembers anqOperators := by
    rfl
  exact ⟨driver, accepted, (configuration_faithful_iff emptyEnvironment _ anqMembers anqOperators
    decimalColumns_exact .jsonString (fun _ => wrote) .httpCoureanq (fun _ _ => operators) _
    accepted).mpr anq_kept⟩

/-- Port 70000 is accepted and becomes port 4464. -/
theorem large_port_accepted_as_another :
    newDriver emptyEnvironment .jsonString (sampleRow sipParameters) .sip =
      .ok (some (.sip ⟨1, bytesOf "lnp", 4464, 4000⟩)) ∧
    ¬ Faithful .jsonString (sampleRow sipParameters) sipMembers [] emptyEnvironment
      (.sip ⟨1, bytesOf "lnp", 4464, 4000⟩) := by
  refine ⟨by rfl, ?_⟩
  rintro ⟨-, ⟨-, value, found, exact⟩, -⟩
  cases Option.some.inj found
  exact absurd (show (70000 : Int) = 4464 from exact) (by decide)

end LnpResolver.ConfigFidelity

import LnpResolver.DriverLoading
import LnpResolver.PrintfFormats
import LnpResolver.Tracing

/-!
Constructions of CDriver::error, CDriverCfg::error and CCsvClient::error while the
drivers are loaded. Each passes a format and arguments to fmterror. The functions
with a throw of these classes are written here once more with a record of what they
construct; without the record they are those of CsvClient and DriverConfig.
-/

namespace LnpResolver.ErrorConstructions

open PackedBytes RequestWire JsonItems TextStreams PrintfFormats Tracing Drivers CsvClient
open DriverConfig
open Resolver (emplace)

inductive ErrorClass where
  | driver | driverCfg | csvClient
  deriving DecidableEq, Repr

structure Construction where
  errorClass : ErrorClass
  fmt : Bytes
  args : List Arg := []
  /-- the format is the text of the exception that has been caught -/
  rewraps : Bool := false
  deriving DecidableEq, Repr

/-- The text of the error: what is printed, or what asprintf leaves where the format
and the arguments determine nothing. -/
def Construction.what (asprintf : Bytes → Bytes) (construction : Construction) : Bytes :=
  (render construction.fmt construction.args).getD (asprintf construction.fmt)

section Throws

variable {ε α : Type} (asprintf : Bytes → Bytes) (thrown : Bytes → ε)

def throwConstructed (construction : Construction) : Traced Construction ε α :=
  throwing construction (thrown (construction.what asprintf))

def throwFormatted (errorClass : ErrorClass) (fmt : String) (args : List Arg := []) :
    Traced Construction ε α :=
  throwConstructed asprintf thrown { errorClass, fmt := bytesOf fmt, args }

/-- `throw error(e.what())`, or the same with an identifier before the format. -/
def throwRewrapped (errorClass : ErrorClass) (what : Bytes) : Traced Construction ε α :=
  throwConstructed asprintf thrown { errorClass, fmt := what, rewraps := true }

end Throws

/-! drivers/modules/CsvClient.cpp -/

section Csv

variable (asprintf : Bytes → Bytes)

def csvError {α : Type} (fmt : String) (args : List Arg := []) : Traced Construction Bytes α :=
  throwFormatted asprintf id .csvClient fmt args

def readFieldsTraced (delimiter : UInt8) (lineCnt : Nat) :
    Nat → Nat → Bytes → Traced Construction Bytes (List Bytes)
  | 0, _, _ => pure []
  | fieldsLeft + 1, idx, lineStream =>
      match getline delimiter lineStream with
      | none => csvError asprintf "unexpected format field %zu at line %zu"
          [.size (idx + 1), .size lineCnt]
      | some (csvField, lineStream) => do
          let csvFields ← readFieldsTraced delimiter lineCnt fieldsLeft (idx + 1) lineStream
          return csvField :: csvFields

-- fieldsNumber is a uint8_t, which is passed as an int
def loadLineTraced (primaryIdx fieldsNumber delimiter : UInt8) (lineCnt : Nat) (line : Bytes)
    (hash : Hash) : Traced Construction Bytes Hash :=
  if line.isEmpty then pure hash
  else do
    let csvFields ← readFieldsTraced asprintf delimiter lineCnt fieldsNumber.toNat 0 line
    let requiredFieldsCnt := fieldsNumber.toNat - 1
    if validityCnt csvFields < requiredFieldsCnt then
      csvError asprintf "required at least %zu valid fields in the line %zu"
        [.int fieldsNumber.toNat, .size lineCnt]
    else
      let key := csvFields.getD primaryIdx.toNat []
      match hash.lookup key with
      | some _ => return hash
      | none => return hash.insert key ⟨lineCnt, csvFields⟩

def loadLinesTraced (primaryIdx fieldsNumber delimiter : UInt8) :
    Nat → List Bytes → Hash → Traced Construction Bytes Hash
  | _, [], hash => pure hash
  | lineCnt, line :: lines, hash => do
      let hash ← loadLineTraced asprintf primaryIdx fieldsNumber delimiter (lineCnt + 1) line hash
      loadLinesTraced primaryIdx fieldsNumber delimiter (lineCnt + 1) lines hash

def loadCsvFileTraced (fileName file : Option Bytes) (primaryIdx fieldsNumber : UInt8)
    (delimiter : UInt8 := comma) : Traced Construction Bytes Hash :=
  match fileName with
  | none => csvError asprintf "not specified the path to CSV file"
  | some path =>
      if fieldsNumber = 0 then csvError asprintf "invalid value for CSV values in the row"
      else
        match file with
        | none => csvError asprintf "could not open file: %s" [.str path]
        | some content =>
            loadLinesTraced asprintf primaryIdx fieldsNumber delimiter 0 (tokens newline content) ∅

end Csv

/-! drivers/DriverConfig.cpp and the constructors of the configuration classes. In a
try block an error is a std::exception, of which only the text is used. -/

section Configuration

variable [Pqxx] [CJson] (env : Environment) (sConfigType : ECfgFormat) (data : RawConfig)

def cfgError {ε α : Type} (thrown : Bytes → ε) (fmt : String) : Traced Construction ε α :=
  throwFormatted env.asprintf thrown .driverCfg fmt

def filledTraced {ε : Type} (invalid : Traced Construction ε Bytes) (value : Bytes) :
    Traced Construction ε Bytes :=
  if value.isEmpty then invalid else pure value

def driverCfgTraced : Traced Construction Thrown CDriverCfg := do
  let uniqId ← getRawUniqId sConfigType data
  if uniqId = -1 then
    cfgError env (.cfgError (bytesOf "Unknown")) "not found driver unique identifier!"
  else
    let label ← getRawLabel sConfigType data
    if label.isEmpty then
      cfgError env (.cfgError (bytesOf "Unknown")) "not found user defined name for driver!"
    else return ⟨uniqId, label⟩

def rethrowingTraced {α : Type} (label : Bytes) (block : Traced Construction Bytes α) :
    Traced Construction Thrown α :=
  catching block (throwRewrapped env.asprintf (.cfgError label) .driverCfg)

def sipDriverCfgTraced : Traced Construction Thrown CSipDriver := do
  let ⟨uniqId, label⟩ ← driverCfgTraced env sConfigType data
  if sConfigType = .jsonString then
    rethrowingTraced env label do
      let jData ← jsonxx (← parameters data)
      let host ← filledTraced (cfgError env id "host value is invalid!")
        (← getJsonHost jData)
      let port ← getJsonPort jData
      let timeout ← getJsonTimeout jData
      return ⟨uniqId, host, port, timeout.toNat⟩
  else
    let host ← filledTraced (cfgError env (.cfgError label) "host value is invalid!")
      (← getRawHost sConfigType data)
    let port ← getRawPort sConfigType data
    let timeout ← getRawTimeout sConfigType data
    return ⟨uniqId, host, port, timeout.toNat⟩

def thinqDriverCfgTraced : Traced Construction Thrown CHttpThinqDriver := do
  let ⟨uniqId, label⟩ ← driverCfgTraced env sConfigType data
  if sConfigType = .jsonString then
    rethrowingTraced env label do
      let jData ← jsonxx (← parameters data)
      let host ← filledTraced (cfgError env id "host value is invalid!")
        (← getJsonHost jData)
      let userName ← filledTraced (cfgError env id "user name value is invalid!")
        (← getJsonUserName jData)
      let token ← filledTraced (cfgError env id "token value is invalid!")
        (← getJsonToken jData)
      let port ← getJsonPort jData
      let timeout ← getJsonTimeout jData
      return ⟨uniqId, host, port, userName, token, timeout.toNat⟩
  else
    let host ← filledTraced (cfgError env (.cfgError label) "host value is invalid!")
      (← getRawHost sConfigType data)
    let userName ← filledTraced (cfgError env (.cfgError label) "user name value is invalid!")
      (← getRawUserName sConfigType data)
    let token ← filledTraced (cfgError env (.cfgError label) "token value is invalid!")
      (← getRawToken sConfigType data)
    let port ← getRawPort sConfigType data
    let timeout ← getRawTimeout sConfigType data
    return ⟨uniqId, host, port, userName, token, timeout.toNat⟩

def alcazarDriverCfgTraced : Traced Construction Thrown CHttpAlcazarDriver := do
  let ⟨uniqId, label⟩ ← driverCfgTraced env sConfigType data
  if sConfigType = .jsonString then
    rethrowingTraced env label do
      let jData ← jsonxx (← parameters data)
      let host ← filledTraced (cfgError env id "host value is invalid!") (← getJsonHost jData)
      let key ← filledTraced (cfgError env id "key value is invalid!") (← getJsonKey jData)
      let port ← getJsonPort jData
      let timeout ← getJsonTimeout jData
      return ⟨uniqId, host, port, key, timeout.toNat⟩
  else
    let host ← filledTraced (cfgError env (.cfgError label) "host value is invalid!")
      (← getRawHost sConfigType data)
    let key ← filledTraced (cfgError env (.cfgError label) "key value is invalid!")
      (← getRawKey sConfigType data)
    let port ← getRawPort sConfigType data
    let timeout ← getRawTimeout sConfigType data
    return ⟨uniqId, host, port, key, timeout.toNat⟩

def mhashCsvFilePathTraced (label : Bytes) : Traced Construction Thrown Bytes :=
  if sConfigType = .jsonString then
    rethrowingTraced env label do
      let jData ← jsonxx (← parameters data)
      filledTraced (cfgError env id "invalid csv file path!") (← getJsonFilePath jData)
  else do
    filledTraced (cfgError env (.cfgError label) "invalid csv file path!")
      (← getRawFilePath sConfigType data)

/-- The catch clause of CMhashCsvDriver takes a CCsvClient::error and throws the error
of the configuration, with the text of the former as the format. -/
def mhashCsvDriverTraced : Traced Construction Thrown CMhashCsvDriver := do
  let ⟨uniqId, label⟩ ← driverCfgTraced env sConfigType data
  let path ← mhashCsvFilePathTraced env sConfigType data label
  let hash ← rethrowingTraced env label
    (loadCsvFileTraced env.asprintf (some path) (env.files path) csvFieldNumber csvFieldMaxValue)
  return ⟨uniqId, hash⟩

def bulkvsDriverCfgTraced : Traced Construction Thrown CHttpBulkvsDriver := do
  let ⟨uniqId, label⟩ ← driverCfgTraced env sConfigType data
  if sConfigType = .jsonString then
    rethrowingTraced env label do
      let jData ← jsonxx (← parameters data)
      let url ← filledTraced (cfgError env id "url value is invalid!") (← getJsonUrl jData)
      let token ← filledTraced (cfgError env id "token value is invalid!") (← getJsonToken jData)
      let timeout ← getJsonTimeout jData
      let validateHttpsCer ← getJsonValidateHttpsCer jData
      return ⟨uniqId, url, token, timeout.toNat, validateHttpsCer⟩
  else
    return ⟨uniqId, [], [], env.indeterminate.1.toNat, env.indeterminate.2⟩

/-- The error before the throw is constructed and dropped. -/
def parseOperatorsTraced :
    List (Bytes × Json) → OperatorsMap → Bool → Traced Construction Bytes OperatorsMap
  | [], operators, hasDefault =>
      if hasDefault then pure operators
      else attempt
        (.error (bytesOf "OperatorsMap_t::parse: misssed \"default\" value mapping"))
  | (name, .number valueint _) :: members, operators, hasDefault =>
      if name = bytesOf "default" then
        if hasDefault then
          attempt (.error (bytesOf "OperatorsMap_t::parse: duplicate \"default\" key"))
        else
          parseOperatorsTraced members { operators with defaultValue := UInt32.ofInt valueint } true
      else
        let entries := emplace operators.entries name (UInt32.ofInt valueint)
        parseOperatorsTraced members { operators with entries := entries } hasDefault
  | (name, item) :: _, _, _ => do
      record
        { errorClass := .driverCfg
          fmt := bytesOf "unexpected operators_map value type %d by key '%s'. skip it"
          args := [.int (jsonTypeNumber item), .str name] }
      attempt (.error (bytesOf "OperatorsMap_t::parse: unexpected operators_map value type"))

def operatorsMapTraced : Json → Traced Construction Bytes OperatorsMap
  | .object members => parseOperatorsTraced members ⟨∅, 0⟩ false
  | _ => attempt (.error (bytesOf "OperatorsMap_t::parse: JSON object expected"))

def getOperatorsMapTraced (j : Json) : Traced Construction Bytes OperatorsMap :=
  match getObjectItem j (bytesOf "operators_map") with
  | none => cfgError env id "misssed operators_map field"
  | some item@(.string _) => do
      let text ← getJsonString item
      match CJson.parse (cString text) with
      | none => cfgError env id "failed to parse operators_map json"
      | some operators => operatorsMapTraced operators
  | some item@(.object _) => operatorsMapTraced item
  | some _ => cfgError env id "unexpected operators_map field type"

def parsedParametersTraced : Traced Construction Bytes Json := do
  match CJson.parse (cString (← parameters data)) with
  | none => cfgError env id "failed to parse json"
  | some j => return j

def coureAnqDriverCfgTraced : Traced Construction Thrown CHttpCoureAnqDriver := do
  let ⟨uniqId, label⟩ ← driverCfgTraced env sConfigType data
  if sConfigType ≠ .jsonString then cfgError env (.cfgError label) "unsupported config format"
  else
    rethrowingTraced env label do
      let j ← parsedParametersTraced env data
      let baseUrl ← getJsonValueByKey getJsonString j "base_url"
      let username ← getJsonValueByKey getJsonString j "username"
      let password ← getJsonValueByKey getJsonString j "password"
      let countryCode ← getJsonValueByKey getJsonString j "country_code"
      let timeout ← getJsonValueByKey getJsonInt j "timeout"
      let operatorsMap ← getOperatorsMapTraced env j
      return ⟨uniqId, baseUrl, username, password, countryCode, (UInt32.ofInt timeout).toNat,
        operatorsMap⟩

def cnamDriverCfgTraced : Traced Construction Thrown CCnamHttpDriver := do
  let ⟨uniqId, label⟩ ← driverCfgTraced env sConfigType data
  if sConfigType ≠ .jsonString then cfgError env (.cfgError label) "unsupported config format"
  else
    rethrowingTraced env label do
      let j ← parsedParametersTraced env data
      let timeout ← getJsonValueByKey getJsonInt j "timeout"
      let url ← getJsonValueByKey getJsonString j "url"
      let uriParts ← parseUrlTemplate false [] url
      return ⟨uniqId, uriParts, (UInt32.ofInt timeout).toNat⟩

def newDriverTraced : ECDriverId → Traced Construction Thrown (Option Driver)
  | .null => pure none
  | .sip => do return some (.sip (← sipDriverCfgTraced env sConfigType data))
  | .httpThinq => do return some (.thinq (← thinqDriverCfgTraced env sConfigType data))
  | .mhashCsv => do return some (.mhashCsv (← mhashCsvDriverTraced env sConfigType data))
  | .httpAlcazar => do return some (.alcazar (← alcazarDriverCfgTraced env sConfigType data))
  | .httpCoureanq => do return some (.coureAnq (← coureAnqDriverCfgTraced env sConfigType data))
  | .cnamHttp => do return some (.cnam (← cnamDriverCfgTraced env sConfigType data))
  | .httpBulkvs => do return some (.bulkvs (← bulkvsDriverCfgTraced env sConfigType data))

end Configuration

/-! Without the record. -/

theorem what_plain {construction : Construction} (asprintf : Bytes → Bytes)
    (plain : 37 ∉ construction.fmt) : construction.what asprintf = construction.fmt := by
  rw [Construction.what, render_plain plain]
  rfl

/-- asprintf prints what a format determines. -/
def Prints (asprintf : Bytes → Bytes) : Prop :=
  ∀ fmt text, render fmt [] = some text → asprintf fmt = text

/-! The formats with arguments, piece by piece. -/

theorem unexpectedFormat_pieces : bytesOf "unexpected format field %zu at line %zu" =
    bytesOf "unexpected format field " ++ (Kind.size.spec ++ (bytesOf " at line " ++
      (Kind.size.spec ++ []))) := by
  decide

theorem requiredAtLeast_pieces :
    bytesOf "required at least %zu valid fields in the line %zu" =
      bytesOf "required at least " ++ (Kind.size.spec ++ (bytesOf " valid fields in the line " ++
        (Kind.size.spec ++ []))) := by
  decide

theorem couldNotOpen_pieces : bytesOf "could not open file: %s" =
    bytesOf "could not open file: " ++ (Kind.str.spec ++ []) := by
  decide

section Csv

variable (asprintf : Bytes → Bytes)

theorem csvError_outcome {α : Type} {fmt : String} {args : List Arg} {text : Bytes}
    (printed : render (bytesOf fmt) args = some text) :
    (csvError asprintf fmt args : Traced Construction Bytes α).outcome = .error text := by
  rw [csvError, throwFormatted, throwConstructed, outcome_throwing, Construction.what, printed]
  rfl

theorem unexpectedFormat_printed (field lineCnt : Nat) :
    render (bytesOf "unexpected format field %zu at line %zu") [.size field, .size lineCnt] =
      some (unexpectedFormat field lineCnt) := by
  rw [unexpectedFormat_pieces, render_text (by decide), render_spec rfl, render_text (by decide),
    render_spec rfl, render_nil]
  simp [unexpectedFormat, numeral, decimal, bytesOf]

theorem requiredAtLeast_printed (fieldsNumber : UInt8) (lineCnt : Nat) :
    render (bytesOf "required at least %zu valid fields in the line %zu")
      [.int fieldsNumber.toNat, .size lineCnt] = some (requiredAtLeast fieldsNumber lineCnt) := by
  rw [requiredAtLeast_pieces, render_text (by decide), render_spec rfl, render_text (by decide),
    render_spec rfl, render_nil]
  simp [requiredAtLeast, numeral, decimal, bytesOf]

theorem couldNotOpen_printed (path : Bytes) :
    render (bytesOf "could not open file: %s") [.str path] =
      some (bytesOf "could not open file: " ++ path) := by
  rw [couldNotOpen_pieces, render_text (by decide), render_spec rfl, render_nil]
  simp

theorem readFieldsTraced_outcome (delimiter : UInt8) (lineCnt fieldsLeft idx : Nat)
    (lineStream : Bytes) :
    (readFieldsTraced asprintf delimiter lineCnt fieldsLeft idx lineStream).outcome =
      readFields delimiter lineCnt fieldsLeft idx lineStream := by
  induction fieldsLeft generalizing idx lineStream with
  | zero => rfl
  | succ fieldsLeft ih =>
      rw [readFieldsTraced, readFields]
      cases getline delimiter lineStream with
      | none => exact csvError_outcome asprintf (unexpectedFormat_printed _ _)
      | some read =>
          obtain ⟨csvField, rest⟩ := read
          simp only [outcome_bind, ih]
          rfl

theorem loadLineTraced_outcome (primaryIdx fieldsNumber delimiter : UInt8) (lineCnt : Nat)
    (line : Bytes) (hash : Hash) :
    (loadLineTraced asprintf primaryIdx fieldsNumber delimiter lineCnt line hash).outcome =
      loadLine primaryIdx fieldsNumber delimiter lineCnt line hash := by
  rw [loadLineTraced, loadLine]
  split
  · rfl
  · rw [outcome_bind, readFieldsTraced_outcome]
    congr 1
    funext csvFields
    dsimp only
    split
    · exact csvError_outcome asprintf (requiredAtLeast_printed _ _)
    · cases hash.lookup (csvFields.getD primaryIdx.toNat []) <;> rfl

theorem loadLinesTraced_outcome (primaryIdx fieldsNumber delimiter : UInt8) (lineCnt : Nat)
    (lines : List Bytes) (hash : Hash) :
    (loadLinesTraced asprintf primaryIdx fieldsNumber delimiter lineCnt lines hash).outcome =
      loadLines primaryIdx fieldsNumber delimiter lineCnt lines hash := by
  induction lines generalizing lineCnt hash with
  | nil => rfl
  | cons line lines ih =>
      rw [loadLinesTraced, loadLines, outcome_bind, loadLineTraced_outcome]
      simp only [ih]

theorem loadCsvFileTraced_outcome (fileName file : Option Bytes)
    (primaryIdx fieldsNumber delimiter : UInt8) :
    (loadCsvFileTraced asprintf fileName file primaryIdx fieldsNumber delimiter).outcome =
      loadCsvFile fileName file primaryIdx fieldsNumber delimiter := by
  cases fileName with
  | none => exact csvError_outcome asprintf (render_plain (by decide) _)
  | some path =>
      simp only [loadCsvFileTraced, loadCsvFile]
      split
      · exact csvError_outcome asprintf (render_plain (by decide) _)
      · cases file with
        | none => exact csvError_outcome asprintf (couldNotOpen_printed path)
        | some content => exact loadLinesTraced_outcome asprintf _ _ _ _ _ _

end Csv

section Configuration

variable [Pqxx] [CJson] {env : Environment} (sConfigType : ECfgFormat) (data : RawConfig)

omit [Pqxx] [CJson] in
theorem cfgError_outcome {ε α : Type} (thrown : Bytes → ε) {fmt : String}
    (plain : 37 ∉ bytesOf fmt) :
    (cfgError env thrown fmt : Traced Construction ε α).outcome =
      .error (thrown (bytesOf fmt)) := by
  rw [cfgError, throwFormatted, throwConstructed, outcome_throwing, what_plain _ plain]

omit [Pqxx] [CJson] in
theorem filledTraced_outcome {ε : Type} (thrown : Bytes → ε) {fmt : String}
    (plain : 37 ∉ bytesOf fmt) (value : Bytes) :
    (filledTraced (cfgError env thrown fmt) value).outcome =
      filled (thrown (bytesOf fmt)) value := by
  rw [filledTraced, filled]
  split
  · exact cfgError_outcome thrown plain
  · rfl

omit [CJson] in
theorem driverCfgTraced_outcome :
    (driverCfgTraced env sConfigType data).outcome = driverCfg sConfigType data := by
  simp only [driverCfgTraced, driverCfg, outcome_bind, liftM_eq_attempt, outcome_attempt]
  congr 1
  funext uniqId
  split
  · exact cfgError_outcome _ (by decide)
  · rw [outcome_bind]
    congr 1
    funext label
    split
    · exact cfgError_outcome _ (by decide)
    · rfl

omit [Pqxx] [CJson] in
theorem rethrowingTraced_outcome {α : Type} (prints : Prints env.asprintf) (label : Bytes)
    (block : Traced Construction Bytes α) :
    (rethrowingTraced env label block).outcome = rethrowing env label block.outcome := by
  rw [rethrowingTraced, outcome_catching]
  cases block.outcome with
  | ok value => rfl
  | error what =>
      have text : (render what []).getD (env.asprintf what) = env.asprintf what := by
        cases printed : render what [] with
        | none => rfl
        | some text => exact (prints what text printed).symm
      exact congrArg (fun text => Except.error (Thrown.cfgError label text)) text

theorem sipDriverCfgTraced_outcome (prints : Prints env.asprintf) :
    (sipDriverCfgTraced env sConfigType data).outcome = sipDriverCfg env sConfigType data := by
  simp only [sipDriverCfgTraced, sipDriverCfg, outcome_bind, driverCfgTraced_outcome]
  congr 1
  funext cfg
  split
  · rw [rethrowingTraced_outcome prints]
    simp (disch := decide) only [outcome_bind, liftM_eq_attempt, outcome_attempt,
      filledTraced_outcome, outcome_pure]
    rfl
  · simp (disch := decide) only [outcome_bind, liftM_eq_attempt, outcome_attempt,
      filledTraced_outcome, outcome_pure]
    rfl

theorem thinqDriverCfgTraced_outcome (prints : Prints env.asprintf) :
    (thinqDriverCfgTraced env sConfigType data).outcome = thinqDriverCfg env sConfigType data := by
  simp only [thinqDriverCfgTraced, thinqDriverCfg, outcome_bind, driverCfgTraced_outcome]
  congr 1
  funext cfg
  split
  · rw [rethrowingTraced_outcome prints]
    simp (disch := decide) only [outcome_bind, liftM_eq_attempt, outcome_attempt,
      filledTraced_outcome, outcome_pure]
    rfl
  · simp (disch := decide) only [outcome_bind, liftM_eq_attempt, outcome_attempt,
      filledTraced_outcome, outcome_pure]
    rfl

theorem alcazarDriverCfgTraced_outcome (prints : Prints env.asprintf) :
    (alcazarDriverCfgTraced env sConfigType data).outcome =
      alcazarDriverCfg env sConfigType data := by
  simp only [alcazarDriverCfgTraced, alcazarDriverCfg, outcome_bind, driverCfgTraced_outcome]
  congr 1
  funext cfg
  split
  · rw [rethrowingTraced_outcome prints]
    simp (disch := decide) only [outcome_bind, liftM_eq_attempt, outcome_attempt,
      filledTraced_outcome, outcome_pure]
    rfl
  · simp (disch := decide) only [outcome_bind, liftM_eq_attempt, outcome_attempt,
      filledTraced_outcome, outcome_pure]
    rfl

theorem mhashCsvFilePathTraced_outcome (prints : Prints env.asprintf) (label : Bytes) :
    (mhashCsvFilePathTraced env sConfigType data label).outcome =
      mhashCsvFilePath env sConfigType data label := by
  rw [mhashCsvFilePathTraced, mhashCsvFilePath]
  split
  · rw [rethrowingTraced_outcome prints]
    simp (disch := decide) only [outcome_bind, liftM_eq_attempt, outcome_attempt,
      filledTraced_outcome]
    rfl
  · simp (disch := decide) only [outcome_bind, liftM_eq_attempt, outcome_attempt,
      filledTraced_outcome]
    rfl

theorem mhashCsvDriverTraced_outcome (prints : Prints env.asprintf) :
    (mhashCsvDriverTraced env sConfigType data).outcome = mhashCsvDriver env sConfigType data := by
  simp only [mhashCsvDriverTraced, mhashCsvDriver, outcome_bind, driverCfgTraced_outcome]
  congr 1
  funext cfg
  simp only [mhashCsvFilePathTraced_outcome sConfigType data prints]
  congr 1
  funext path
  rw [rethrowingTraced_outcome prints, loadCsvFileTraced_outcome]
  cases loadCsvFile (some path) (env.files path) csvFieldNumber csvFieldMaxValue <;> rfl

theorem bulkvsDriverCfgTraced_outcome (prints : Prints env.asprintf) :
    (bulkvsDriverCfgTraced env sConfigType data).outcome =
      bulkvsDriverCfg env sConfigType data := by
  simp only [bulkvsDriverCfgTraced, bulkvsDriverCfg, outcome_bind, driverCfgTraced_outcome]
  congr 1
  funext cfg
  split
  · rw [rethrowingTraced_outcome prints]
    simp (disch := decide) only [outcome_bind, liftM_eq_attempt, outcome_attempt,
      filledTraced_outcome, outcome_pure]
    rfl
  · rfl

omit [Pqxx] [CJson] in
theorem parseOperatorsTraced_outcome (members : List (Bytes × Json)) (operators : OperatorsMap)
    (hasDefault : Bool) :
    (parseOperatorsTraced members operators hasDefault).outcome =
      parseOperators members operators hasDefault := by
  fun_induction parseOperators members operators hasDefault with
  | case1 operators => rfl
  | case2 operators hasDefault missing =>
      rw [parseOperatorsTraced, if_neg missing]
      rfl
  | case3 valueint valuedouble members operators =>
      rw [parseOperatorsTraced, if_pos rfl, if_pos rfl]
      rfl
  | case4 valueint valuedouble members operators hasDefault first ih =>
      rw [parseOperatorsTraced, if_pos rfl, if_neg first, ih]
  | case5 name valueint valuedouble members operators hasDefault other entries ih =>
      rw [parseOperatorsTraced, if_neg other, ih]
  | case6 member members operators hasDefault other =>
      obtain ⟨name, item⟩ := member
      cases item with
      | number valueint valuedouble => exact absurd rfl (other name valueint valuedouble)
      | bool value => rfl
      | null => rfl
      | string text => rfl
      | array items => rfl
      | object members => rfl

omit [Pqxx] [CJson] in
theorem operatorsMapTraced_outcome (item : Json) :
    (operatorsMapTraced item).outcome = operatorsMap item := by
  cases item with
  | object members => exact parseOperatorsTraced_outcome members _ _
  | bool value => rfl
  | null => rfl
  | number => rfl
  | string text => rfl
  | array items => rfl

omit [Pqxx] in
theorem getOperatorsMapTraced_outcome (j : Json) :
    (getOperatorsMapTraced env j).outcome = getOperatorsMap j := by
  rw [getOperatorsMapTraced, getOperatorsMap]
  cases getObjectItem j (bytesOf "operators_map") with
  | none => exact cfgError_outcome _ (by decide)
  | some item =>
      cases item with
      | string value =>
          simp only [outcome_bind, liftM_eq_attempt, outcome_attempt]
          congr 1
          funext text
          cases CJson.parse (cString text) with
          | none => exact cfgError_outcome _ (by decide)
          | some operators => exact operatorsMapTraced_outcome operators
      | object members => exact operatorsMapTraced_outcome (.object members)
      | bool value => exact cfgError_outcome _ (by decide)
      | null => exact cfgError_outcome _ (by decide)
      | number valueint => exact cfgError_outcome _ (by decide)
      | array items => exact cfgError_outcome _ (by decide)

theorem parsedParametersTraced_outcome :
    (parsedParametersTraced env data).outcome = parsedParameters data := by
  simp only [parsedParametersTraced, parsedParameters, outcome_bind, liftM_eq_attempt,
    outcome_attempt]
  congr 1
  funext text
  cases CJson.parse (cString text) with
  | none => exact cfgError_outcome _ (by decide)
  | some j => rfl

theorem coureAnqDriverCfgTraced_outcome (prints : Prints env.asprintf) :
    (coureAnqDriverCfgTraced env sConfigType data).outcome =
      coureAnqDriverCfg env sConfigType data := by
  simp only [coureAnqDriverCfgTraced, coureAnqDriverCfg, outcome_bind, driverCfgTraced_outcome]
  congr 1
  funext cfg
  split
  · exact cfgError_outcome _ (by decide)
  · rw [rethrowingTraced_outcome prints]
    simp only [outcome_bind, liftM_eq_attempt, outcome_attempt, parsedParametersTraced_outcome,
      getOperatorsMapTraced_outcome, outcome_pure]
    rfl

theorem cnamDriverCfgTraced_outcome (prints : Prints env.asprintf) :
    (cnamDriverCfgTraced env sConfigType data).outcome = cnamDriverCfg env sConfigType data := by
  simp only [cnamDriverCfgTraced, cnamDriverCfg, outcome_bind, driverCfgTraced_outcome]
  congr 1
  funext cfg
  split
  · exact cfgError_outcome _ (by decide)
  · rw [rethrowingTraced_outcome prints]
    simp only [outcome_bind, liftM_eq_attempt, outcome_attempt, parsedParametersTraced_outcome,
      outcome_pure]
    rfl

/-- Recording the constructions does not change what a row becomes. -/
theorem newDriverTraced_outcome (prints : Prints env.asprintf) (driverId : ECDriverId) :
    (newDriverTraced env sConfigType data driverId).outcome =
      newDriver env sConfigType data driverId := by
  cases driverId with
  | null => rfl
  | sip =>
      rw [newDriverTraced, newDriver, outcome_bind, sipDriverCfgTraced_outcome _ _ prints]
      rfl
  | httpThinq =>
      rw [newDriverTraced, newDriver, outcome_bind, thinqDriverCfgTraced_outcome _ _ prints]
      rfl
  | mhashCsv =>
      rw [newDriverTraced, newDriver, outcome_bind, mhashCsvDriverTraced_outcome _ _ prints]
      rfl
  | httpAlcazar =>
      rw [newDriverTraced, newDriver, outcome_bind, alcazarDriverCfgTraced_outcome _ _ prints]
      rfl
  | httpCoureanq =>
      rw [newDriverTraced, newDriver, outcome_bind, coureAnqDriverCfgTraced_outcome _ _ prints]
      rfl
  | cnamHttp =>
      rw [newDriverTraced, newDriver, outcome_bind, cnamDriverCfgTraced_outcome _ _ prints]
      rfl
  | httpBulkvs =>
      rw [newDriverTraced, newDriver, outcome_bind, bulkvsDriverCfgTraced_outcome _ _ prints]
      rfl

end Configuration

end LnpResolver.ErrorConstructions

import LnpResolver.CsvClient
import LnpResolver.Resolver

/-!
Configuration of the drivers: drivers/DriverConfig.cpp, DriverDefines.h and the
constructors of the seven configuration classes. A row of the query carries the
columns of its table. libpqxx is the parameter `Pqxx`: how it reads a column as a
number and the texts of its exceptions. Everything else a constructor may ask for
is in `Environment`.
-/

namespace LnpResolver.DriverConfig

open PackedBytes RequestWire JsonItems DriverInterface Drivers CsvClient Resolver

class Pqxx where
  toInt32 : Bytes → Option Int
  toUInt32 : Bytes → Option UInt32
  toUInt16 : Bytes → Option UInt16
  argumentError : String → Bytes
  conversionError : Bytes

/-- The exception families of the catch clauses in loadResolveDrivers. -/
inductive Thrown where
  | pqxx (what : Bytes)
  | cfgError (ident what : Bytes)
  | other (what : Bytes)
  deriving DecidableEq, Repr

def Thrown.what : Thrown → Bytes
  | .pqxx what => what
  | .cfgError _ what => what
  | .other what => what

/-- pqxx::row: the columns of the result and the values of the row, `none` for NULL. -/
structure RawConfig where
  columns : List String
  value : String → Option Bytes

structure Environment where
  /-- the content of a file that can be opened -/
  files : Bytes → Option Bytes
  /-- the CSipClient::error of the first getInstance, if it throws -/
  sipClient : Option CSipClientError
  /-- what asprintf makes of a text used as a format without arguments -/
  asprintf : Bytes → Bytes
  /-- the byte behind sDriverTypeArray -/
  pastTable : UInt8
  /-- timeout and certificate flag of a BulkVS configuration that no branch sets -/
  indeterminate : UInt32 × Bool

/-! Reading columns. -/

section Columns

variable [Pqxx] (data : RawConfig) (name : String)

def field : Except Thrown (Option Bytes) :=
  if name ∈ data.columns then .ok (data.value name) else .error (.pqxx (Pqxx.argumentError name))

/-- PQgetvalue yields an empty string for NULL. -/
def cStr (value : Option Bytes) : Bytes := value.getD []

def asText : Except Thrown Bytes := do
  match ← field data name with
  | some text => return text
  | none => throw (.pqxx Pqxx.conversionError)

def asNumber {α : Type} (convert : Bytes → Option α) (default : α) : Except Thrown α := do
  match ← field data name with
  | none => return default
  | some text =>
      match convert text with
      | some number => return number
      | none => throw (.pqxx Pqxx.conversionError)

end Columns

/-! The format of the table and the type of a driver. -/

inductive ECfgFormat where
  | invalid | separateColumnV1 | separateColumnV2 | jsonString
  deriving DecidableEq, Repr

def ECfgFormat.rank : ECfgFormat → Nat
  | .invalid => 0
  | .separateColumnV1 => 1
  | .separateColumnV2 => 2
  | .jsonString => 3

/-- A column that exists has a type; the newest format is tried first. -/
def detectFormat (columns : List String) : ECfgFormat :=
  if "parameters" ∈ columns then .jsonString
  else if "o_alkazar_key" ∈ columns then .separateColumnV2
  else if "o_thinq_token" ∈ columns then .separateColumnV1
  else .invalid

/-- The static members that outlive a call: the detected format and whether the
SIP client has been created. -/
structure Statics where
  sConfigType : ECfgFormat := .invalid
  sipInstance : Bool := false
  deriving DecidableEq, Repr

def detected (columns : List String) (sConfigType : ECfgFormat) : ECfgFormat :=
  if sConfigType.rank ≤ ECfgFormat.invalid.rank then detectFormat columns else sConfigType

inductive ECDriverId where
  | null | sip | httpThinq | mhashCsv | httpAlcazar | httpCoureanq | cnamHttp | httpBulkvs
  deriving DecidableEq, Repr

def ECDriverId.value : ECDriverId → UInt8
  | .null => 0
  | .sip => 1
  | .httpThinq => 2
  | .mhashCsv => 3
  | .httpAlcazar => 4
  | .httpCoureanq => 5
  | .cnamHttp => 6
  | .httpBulkvs => 7

structure SDriverTypeMap where
  privateId : ECDriverId
  numberId : UInt16
  stringId : String
  deriving DecidableEq, Repr

def sDriverTypeArray : List SDriverTypeMap :=
  [⟨.sip, 1, "Lnp::DatabaseSipRedirect"⟩,
   ⟨.httpThinq, 2, "Lnp::DatabaseThinq"⟩,
   ⟨.mhashCsv, 3, "Lnp::DatabaseCsv"⟩,
   ⟨.httpAlcazar, 4, "Lnp::DatabaseAlcazar"⟩,
   ⟨.httpCoureanq, 5, "Lnp::DatabaseCoureAnq"⟩,
   ⟨.cnamHttp, 6, "Cnam::DatabaseHttp"⟩,
   ⟨.httpBulkvs, 7, "Lnp::DatabaseBulkvs"⟩]

/-- The byte read through an iterator at `index`, also when that is end(). -/
def privateIdAt (pastTable : UInt8) (index : Nat) : UInt8 :=
  match sDriverTypeArray[index]? with
  | some entry => entry.privateId.value
  | none => pastTable

/-- A byte as the enumerator with its value, after the test against ERESOLVER_DRIVER_MAX_ID. -/
def driverIdOf (value : UInt8) : ECDriverId :=
  match value.toNat with
  | 1 => .sip
  | 2 => .httpThinq
  | 3 => .mhashCsv
  | 4 => .httpAlcazar
  | 5 => .httpCoureanq
  | 6 => .cnamHttp
  | 7 => .httpBulkvs
  | _ => .null

/-- The value getID looks for. -/
inductive TypeValue where
  | databaseType (text : Bytes)
  | driverNumber (number : UInt16)
  deriving DecidableEq, Repr

def TypeValue.names : TypeValue → SDriverTypeMap → Bool
  | .databaseType text, entry => text = bytesOf entry.stringId
  | .driverNumber number, entry => number = entry.numberId

/-- An empty text and the number 0 are not looked up. -/
def TypeValue.isEmpty : TypeValue → Bool
  | .databaseType text => text.isEmpty
  | .driverNumber number => number = 0

-- a table without the column of yeti-web 1.8 is read in the format of 1.7
def typeValue [Pqxx] (data : RawConfig) : Except Thrown TypeValue :=
  match field data "database_type" with
  | .ok value => .ok (.databaseType (cStr value))
  | .error _ => do
      let numId ← asNumber data "o_driver_id" Pqxx.toUInt16 0
      return .driverNumber numId

/-- What getID returns, and the position of the iterator it dereferenced. -/
structure Identified where
  driverId : ECDriverId
  dereferenced : Option Nat := none
  deriving DecidableEq, Repr

def lookUp (pastTable : UInt8) (value : TypeValue) (sConfigType : ECfgFormat) : Identified :=
  if value.isEmpty then { driverId := .null }
  else
    let drv := sDriverTypeArray.findIdx value.names
    let driverId := driverIdOf (privateIdAt pastTable drv)
    { driverId :=
        if driverId = .httpAlcazar ∧ sConfigType.rank ≤ ECfgFormat.separateColumnV1.rank then .null
        else driverId
      dereferenced := some drv }

def getID [Pqxx] (env : Environment) (data : RawConfig) (statics : Statics) :
    EStateM.Result Thrown Statics Identified :=
  let statics := { statics with sConfigType := detected data.columns statics.sConfigType }
  match typeValue data with
  | .ok value => .ok (lookUp env.pastTable value statics.sConfigType) statics
  | .error thrown => .error thrown statics

/-! The getters. Each reads a column or a JSON member, by the format of the table. -/

def defaultTimeout : UInt32 := 4000

section Getters

variable [Pqxx] (sConfigType : ECfgFormat)

def getRawUniqId (data : RawConfig) : Except Thrown Int :=
  match sConfigType with
  | .separateColumnV1 | .separateColumnV2 => asNumber data "o_id" Pqxx.toInt32 (-1)
  | .jsonString => asNumber data "id" Pqxx.toInt32 (-1)
  | .invalid => .ok (-1)

def getRawLabel (data : RawConfig) : Except Thrown Bytes :=
  match sConfigType with
  | .separateColumnV1 | .separateColumnV2 => asText data "o_name"
  | .jsonString => asText data "name"
  | .invalid => .ok []

def columnText (column : String) (data : RawConfig) : Except Thrown Bytes :=
  match sConfigType with
  | .separateColumnV1 | .separateColumnV2 => asText data column
  | _ => .ok []

def columnNumber {α : Type} (column : String) (convert : Bytes → Option α) (default : α)
    (data : RawConfig) : Except Thrown α :=
  match sConfigType with
  | .separateColumnV1 | .separateColumnV2 => asNumber data column convert default
  | _ => .ok default

def getRawHost : RawConfig → Except Thrown Bytes := columnText sConfigType "o_host"
def getRawUserName : RawConfig → Except Thrown Bytes := columnText sConfigType "o_thinq_username"
def getRawToken : RawConfig → Except Thrown Bytes := columnText sConfigType "o_thinq_token"
def getRawFilePath : RawConfig → Except Thrown Bytes := columnText sConfigType "o_csv_file"

-- the first column format has no Alcazar key
def getRawKey (data : RawConfig) : Except Thrown Bytes :=
  match sConfigType with
  | .separateColumnV2 => asText data "o_alkazar_key"
  | _ => .ok []

def getRawPort : RawConfig → Except Thrown UInt16 :=
  columnNumber sConfigType "o_port" Pqxx.toUInt16 0

def getRawTimeout : RawConfig → Except Thrown UInt32 :=
  columnNumber sConfigType "o_timeout" Pqxx.toUInt32 defaultTimeout

end Getters

/-! The JSON getters. They are called under the JSON format only, whose test they
repeat, and inside a block that maps every std::exception to its text. -/

def memberText (key : String) (jData : Json) : Except Bytes Bytes := do
  let item ← jsonxxItem jData key
  itemString item

def memberInteger (key : String) (jData : Json) : Except Bytes Int := do
  let item ← jsonxxItem jData key
  return itemInteger item

def getJsonHost : Json → Except Bytes Bytes := memberText "host"
def getJsonUserName : Json → Except Bytes Bytes := memberText "username"
def getJsonToken : Json → Except Bytes Bytes := memberText "token"
def getJsonKey : Json → Except Bytes Bytes := memberText "key"
def getJsonUrl : Json → Except Bytes Bytes := memberText "url"
def getJsonFilePath : Json → Except Bytes Bytes := memberText "csv_file_path"

def getJsonPort (jData : Json) : Except Bytes UInt16 := do
  let port ← memberInteger "port" jData
  return UInt16.ofInt port

def getJsonTimeout (jData : Json) : Except Bytes UInt32 := do
  let timeout ← memberInteger "timeout" jData
  return UInt32.ofInt timeout

def getJsonValidateHttpsCer (jData : Json) : Except Bytes Bool := do
  let item ← jsonxxItem jData "validate_https_certificate"
  return itemBool item

/-- A value that must not be empty, or the text of the error about it. -/
def filled {ε : Type} (invalid : ε) (value : Bytes) : Except ε Bytes :=
  if value.isEmpty then .error invalid else .ok value

/-! The constructors. -/

structure CDriverCfg where
  uniqId : Int
  label : Bytes

section Constructors

variable [Pqxx] [CJson] (env : Environment) (sConfigType : ECfgFormat) (data : RawConfig)

def driverCfg : Except Thrown CDriverCfg := do
  let uniqId ← getRawUniqId sConfigType data
  if uniqId = -1 then
    throw (.cfgError (bytesOf "Unknown") (bytesOf "not found driver unique identifier!"))
  let label ← getRawLabel sConfigType data
  if label.isEmpty then
    throw (.cfgError (bytesOf "Unknown") (bytesOf "not found user defined name for driver!"))
  return ⟨uniqId, label⟩

def labelled (label : Bytes) (text : String) : Thrown := .cfgError label (bytesOf text)

def parameters : Except Bytes Bytes :=
  match field data "parameters" with
  | .ok value => .ok (cStr value)
  | .error thrown => .error thrown.what

/-- `catch (std::exception & e) { throw error(getLabel(), e.what()); }`; the text
of the exception becomes a format. -/
def rethrowing {α : Type} (label : Bytes) (block : Except Bytes α) : Except Thrown α :=
  match block with
  | .ok value => .ok value
  | .error what => .error (.cfgError label (env.asprintf what))

omit [Pqxx] [CJson] in
/-- A block returns what it returned before its exceptions were rewritten. -/
theorem rethrowing_ok_iff {α : Type} (label : Bytes) (block : Except Bytes α) (value : α) :
    rethrowing env label block = .ok value ↔ block = .ok value := by
  cases block <;> simp [rethrowing]

def sipDriverCfg : Except Thrown CSipDriver := do
  let ⟨uniqId, label⟩ ← driverCfg sConfigType data
  if sConfigType = .jsonString then
    rethrowing env label do
      let jData ← jsonxx (← parameters data)
      let host ← filled (bytesOf "host value is invalid!") (← getJsonHost jData)
      let port ← getJsonPort jData
      let timeout ← getJsonTimeout jData
      return ⟨uniqId, host, port, timeout.toNat⟩
  else
    let host ← filled (labelled label "host value is invalid!") (← getRawHost sConfigType data)
    let port ← getRawPort sConfigType data
    let timeout ← getRawTimeout sConfigType data
    return ⟨uniqId, host, port, timeout.toNat⟩

def thinqDriverCfg : Except Thrown CHttpThinqDriver := do
  let ⟨uniqId, label⟩ ← driverCfg sConfigType data
  if sConfigType = .jsonString then
    rethrowing env label do
      let jData ← jsonxx (← parameters data)
      let host ← filled (bytesOf "host value is invalid!") (← getJsonHost jData)
      let userName ← filled (bytesOf "user name value is invalid!") (← getJsonUserName jData)
      let token ← filled (bytesOf "token value is invalid!") (← getJsonToken jData)
      let port ← getJsonPort jData
      let timeout ← getJsonTimeout jData
      return ⟨uniqId, host, port, userName, token, timeout.toNat⟩
  else
    let host ← filled (labelled label "host value is invalid!") (← getRawHost sConfigType data)
    let userName ← filled (labelled label "user name value is invalid!")
      (← getRawUserName sConfigType data)
    let token ← filled (labelled label "token value is invalid!") (← getRawToken sConfigType data)
    let port ← getRawPort sConfigType data
    let timeout ← getRawTimeout sConfigType data
    return ⟨uniqId, host, port, userName, token, timeout.toNat⟩

def alcazarDriverCfg : Except Thrown CHttpAlcazarDriver := do
  let ⟨uniqId, label⟩ ← driverCfg sConfigType data
  if sConfigType = .jsonString then
    rethrowing env label do
      let jData ← jsonxx (← parameters data)
      let host ← filled (bytesOf "host value is invalid!") (← getJsonHost jData)
      let key ← filled (bytesOf "key value is invalid!") (← getJsonKey jData)
      let port ← getJsonPort jData
      let timeout ← getJsonTimeout jData
      return ⟨uniqId, host, port, key, timeout.toNat⟩
  else
    let host ← filled (labelled label "host value is invalid!") (← getRawHost sConfigType data)
    let key ← filled (labelled label "key value is invalid!") (← getRawKey sConfigType data)
    let port ← getRawPort sConfigType data
    let timeout ← getRawTimeout sConfigType data
    return ⟨uniqId, host, port, key, timeout.toNat⟩

def mhashCsvFilePath (label : Bytes) : Except Thrown Bytes :=
  if sConfigType = .jsonString then
    rethrowing env label do
      let jData ← jsonxx (← parameters data)
      filled (bytesOf "invalid csv file path!") (← getJsonFilePath jData)
  else do
    filled (labelled label "invalid csv file path!") (← getRawFilePath sConfigType data)

/-- The driver reads its file while it is constructed. -/
def mhashCsvDriver : Except Thrown CMhashCsvDriver := do
  let ⟨uniqId, label⟩ ← driverCfg sConfigType data
  let path ← mhashCsvFilePath env sConfigType data label
  match loadCsvFile (some path) (env.files path) csvFieldNumber csvFieldMaxValue with
  | .ok hash => return ⟨uniqId, hash⟩
  | .error what => throw (.cfgError label (env.asprintf what))

-- outside the JSON format nothing is read and nothing is checked
def bulkvsDriverCfg : Except Thrown CHttpBulkvsDriver := do
  let ⟨uniqId, label⟩ ← driverCfg sConfigType data
  if sConfigType = .jsonString then
    rethrowing env label do
      let jData ← jsonxx (← parameters data)
      let url ← filled (bytesOf "url value is invalid!") (← getJsonUrl jData)
      let token ← filled (bytesOf "token value is invalid!") (← getJsonToken jData)
      let timeout ← getJsonTimeout jData
      let validateHttpsCer ← getJsonValidateHttpsCer jData
      return ⟨uniqId, url, token, timeout.toNat, validateHttpsCer⟩
  else
    return ⟨uniqId, [], [], env.indeterminate.1.toNat, env.indeterminate.2⟩

/-- OperatorsMap_t::parse on the members of the object, in order. -/
def parseOperators : List (Bytes × Json) → OperatorsMap → Bool → Except Bytes OperatorsMap
  | [], operators, hasDefault =>
      if hasDefault then .ok operators
      else .error (bytesOf "OperatorsMap_t::parse: misssed \"default\" value mapping")
  | (name, .number valueint _) :: members, operators, hasDefault =>
      if name = bytesOf "default" then
        if hasDefault then .error (bytesOf "OperatorsMap_t::parse: duplicate \"default\" key")
        else parseOperators members { operators with defaultValue := UInt32.ofInt valueint } true
      else
        let entries := emplace operators.entries name (UInt32.ofInt valueint)
        parseOperators members { operators with entries := entries } hasDefault
  | _ :: _, _, _ => .error (bytesOf "OperatorsMap_t::parse: unexpected operators_map value type")

def operatorsMap : Json → Except Bytes OperatorsMap
  | .object members => parseOperators members ⟨∅, 0⟩ false
  | _ => .error (bytesOf "OperatorsMap_t::parse: JSON object expected")

/-- The member operators_map: an object, or a string that holds one. -/
def getOperatorsMap (j : Json) : Except Bytes OperatorsMap :=
  match getObjectItem j (bytesOf "operators_map") with
  | none => .error (bytesOf "misssed operators_map field")
  | some item@(.string _) => do
      let text ← getJsonString item
      match CJson.parse (cString text) with
      | none => throw (bytesOf "failed to parse operators_map json")
      | some operators => operatorsMap operators
  | some item@(.object _) => operatorsMap item
  | some _ => .error (bytesOf "unexpected operators_map field type")

def parsedParameters : Except Bytes Json := do
  match CJson.parse (cString (← parameters data)) with
  | none => throw (bytesOf "failed to parse json")
  | some j => return j

def coureAnqDriverCfg : Except Thrown CHttpCoureAnqDriver := do
  let ⟨uniqId, label⟩ ← driverCfg sConfigType data
  if sConfigType ≠ .jsonString then throw (labelled label "unsupported config format")
  rethrowing env label do
    let j ← parsedParameters data
    let baseUrl ← getJsonValueByKey getJsonString j "base_url"
    let username ← getJsonValueByKey getJsonString j "username"
    let password ← getJsonValueByKey getJsonString j "password"
    let countryCode ← getJsonValueByKey getJsonString j "country_code"
    let timeout ← getJsonValueByKey getJsonInt j "timeout"
    let operatorsMap ← getOperatorsMap j
    return ⟨uniqId, baseUrl, username, password, countryCode, (UInt32.ofInt timeout).toNat,
      operatorsMap⟩

def openBrace : UInt8 := 123
def closeBrace : UInt8 := 125

/-- A static part is kept when it is not empty. -/
def staticPart (part : Bytes) : List UriPart := if part.isEmpty then [] else [.string part]

/-- The state machine of parse_url_template: `placeholder` is its state, `part`
what it has read since `pos`. -/
def parseUrlTemplate : (placeholder : Bool) → (part url : Bytes) → Except Bytes (List UriPart)
  | false, part, [] => .ok (staticPart part)
  | true, _, [] => .error (bytesOf "unclosed placeholder in the url template")
  | false, part, c :: url =>
      if c = openBrace then do
        let uriParts ← parseUrlTemplate true [] url
        return staticPart part ++ uriParts
      else if c = closeBrace then .error (bytesOf "unexpected '\x7d' in the url template")
      else parseUrlTemplate false (part ++ [c]) url
  | true, part, c :: url =>
      if c = closeBrace then
        if part.isEmpty then .error (bytesOf "empty placeholder in the url template")
        else do
          let uriParts ← parseUrlTemplate false [] url
          return .placeholder part :: uriParts
      else if c = openBrace then .error (bytesOf "unexpected '\x7b' in the url template")
      else parseUrlTemplate true (part ++ [c]) url

def cnamDriverCfg : Except Thrown CCnamHttpDriver := do
  let ⟨uniqId, label⟩ ← driverCfg sConfigType data
  if sConfigType ≠ .jsonString then throw (labelled label "unsupported config format")
  rethrowing env label do
    let j ← parsedParameters data
    let timeout ← getJsonValueByKey getJsonInt j "timeout"
    let url ← getJsonValueByKey getJsonString j "url"
    let uriParts ← parseUrlTemplate false [] url
    return ⟨uniqId, uriParts, (UInt32.ofInt timeout).toNat⟩

/-- The driver object of a supported type. -/
def newDriver : ECDriverId → Except Thrown (Option Driver)
  | .null => .ok none
  | .sip => do return some (.sip (← sipDriverCfg env sConfigType data))
  | .httpThinq => do return some (.thinq (← thinqDriverCfg env sConfigType data))
  | .mhashCsv => do return some (.mhashCsv (← mhashCsvDriver env sConfigType data))
  | .httpAlcazar => do return some (.alcazar (← alcazarDriverCfg env sConfigType data))
  | .httpCoureanq => do return some (.coureAnq (← coureAnqDriverCfg env sConfigType data))
  | .cnamHttp => do return some (.cnam (← cnamDriverCfg env sConfigType data))
  | .httpBulkvs => do return some (.bulkvs (← bulkvsDriverCfg env sConfigType data))

end Constructors

/-- CSipClient::getInstance. The instance is stored before it is initialized, so
a call that throws leaves one behind. -/
def getInstance (env : Environment) (statics : Statics) : EStateM.Result Thrown Statics Unit :=
  if statics.sipInstance then .ok () statics
  else
    let statics := { statics with sipInstance := true }
    match env.sipClient with
    | none => .ok () statics
    | some error => .error (.other error.what) statics

def needsSipClient : Option Driver → Bool
  | some (.sip _) => true
  | _ => false

def instantiate [Pqxx] [CJson] (env : Environment) (data : RawConfig) (statics : Statics) :
    EStateM.Result Thrown Statics (Option Driver) :=
  match getID env data statics with
  | .error thrown statics => .error thrown statics
  | .ok identified statics =>
      match newDriver env statics.sConfigType data identified.driverId with
      | .error thrown => .error thrown statics
      | .ok driver =>
          -- the constructor of the SIP driver fetches the client once it has its configuration
          if needsSipClient driver then
            match getInstance env statics with
            | .ok _ statics => .ok driver statics
            | .error thrown statics => .error thrown statics
          else .ok driver statics

end LnpResolver.DriverConfig

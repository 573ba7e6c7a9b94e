import Mathlib.Data.List.AList
import LnpResolver.DriverInterface
import LnpResolver.TextStreams

/-!
The seven concrete drivers, drivers/*Driver.cpp: the URL or URI each resolve
builds and what each parse makes of a provider's reply. A driver carries the
configuration its methods read; labels and the like are left out. The re-thrown
texts contain no conversion specification, so formatting them is the identity.
-/

namespace LnpResolver.Drivers

open PackedBytes RequestWire JsonItems DriverInterface

def driverError (text : String) : DriverException := .error (bytesOf text)

def jsonHeaders : List Bytes := [bytesOf "Content-Type: application/json"]

def address (protocol : String) (host : Bytes) (port : UInt16) : Bytes :=
  bytesOf protocol ++ bytesOf "://" ++ host ++
    (if port = 0 then [] else bytesOf ":" ++ decimal port.toNat)

/-! SIP/301-302 -/

structure CSipDriver where
  uniqId : Int
  host : Bytes
  port : UInt16
  timeout : Nat
  deriving DecidableEq

def CSipDriver.dstUri (driver : CSipDriver) (request : ResolverRequest) : Bytes :=
  bytesOf "sip:" ++ request.data ++ (bytesOf "@" ++ driver.host ++
    (if driver.port = 0 then [] else bytesOf ":" ++ decimal driver.port.toNat))

def semicolon : UInt8 := 59
def equalsSign : UInt8 := 61

def split (text : Bytes) (delimiter : UInt8) : List Bytes := TextStreams.tokens delimiter text

def rnValue (element : Bytes) : Option Bytes :=
  match split element equalsSign with
  | [name, value] => if name = bytesOf "rn" then some value else none
  | _ => none

def CSipDriver.parse (data : Bytes) (result : SResult) : ParseOutcome :=
  if semicolon ∈ data then
    match (split data semicolon).findSome? rnValue with
    | some value => .ok () { result with localRoutingNumber := value, rawData := data }
    | none => .error (driverError "Сontact user without 'rn' parameter") result
  else .ok () { result with localRoutingNumber := data, rawData := data }

def CSipDriver.resolve (driver : CSipDriver) (sip : Bytes → SipOutcome)
    (request : ResolverRequest) : Resolution :=
  match sip (cString (driver.dstUri request)) with
  | .threw error => .threw (.error error.what)
  | .fail => .threw (driverError "no SIP response")
  | .ok rawContactData =>
      match CSipDriver.parse rawContactData request.result with
      | .ok _ result => .done result
      | .error exception _ => .threw exception

/-! MHASH/CSV. A row holds the three fields number, tag and routing number. -/

structure SRow where
  id : Nat
  field : List Bytes
  deriving DecidableEq

structure CMhashCsvDriver where
  uniqId : Int
  hash : AList (fun _ : Bytes => SRow)
  deriving DecidableEq

def CMhashCsvDriver.perform (driver : CMhashCsvDriver) (number : Bytes) : Option SRow :=
  driver.hash.lookup (cString number)

def CMhashCsvDriver.resolve (driver : CMhashCsvDriver) (request : ResolverRequest) : Resolution :=
  match driver.perform request.data with
  -- a number that is not in the file is its own routing number
  | none => .done { request.result with localRoutingNumber := request.data }
  | some row => .done { request.result with
      localRoutingNumber := row.field.getD 2 []
      localRoutingTag := row.field.getD 1 [] }

def CMhashCsvDriver.parse (_data : Bytes) (result : SResult) : ParseOutcome := .ok () result

/-! The HTTP drivers. Three of them read string members of the reply through
jsonxx and re-throw its exceptions as CDriver::error. -/

def replyString [CJson] (data : Bytes) (key : String) : Except Bytes Bytes := do
  let root ← jsonxx data
  let item ← jsonxxItem root key
  itemString item

/-- ThinQ and BulkVS keep one member of the reply as the routing number. -/
def parseNumber [CJson] (key : String) (data : Bytes) (result : SResult) : ParseOutcome :=
  match replyString data key with
  | .ok number => .ok () { result with localRoutingNumber := number, rawData := data }
  | .error what => .error (.error what) result

structure CHttpThinqDriver where
  uniqId : Int
  host : Bytes
  port : UInt16
  userName : Bytes
  token : Bytes
  timeout : Nat
  deriving DecidableEq

def CHttpThinqDriver.dstUrl (driver : CHttpThinqDriver) (request : ResolverRequest) : Bytes :=
  address "https" driver.host driver.port ++ bytesOf "/lrn/extended/" ++ request.data ++
    bytesOf "?format=json"

def CHttpThinqDriver.resolve (driver : CHttpThinqDriver) (request : ResolverRequest) : Resolution :=
  .http
    { id := request.id
      url := cString (driver.dstUrl request)
      authType := .basic
      login := some driver.userName
      pass := some driver.token
      timeoutMs := driver.timeout
      headers := jsonHeaders }

def CHttpThinqDriver.parse [CJson] (data : Bytes) (result : SResult) : ParseOutcome :=
  parseNumber "lrn" data result

structure CHttpBulkvsDriver where
  uniqId : Int
  url : Bytes
  token : Bytes
  timeout : Nat
  validateHttpsCer : Bool
  deriving DecidableEq

def CHttpBulkvsDriver.dstUrl (driver : CHttpBulkvsDriver) (request : ResolverRequest) : Bytes :=
  driver.url ++ bytesOf "/?id=" ++ driver.token ++ bytesOf "&did=" ++ request.data ++
    bytesOf "&format=json"

def CHttpBulkvsDriver.resolve (driver : CHttpBulkvsDriver) (request : ResolverRequest) :
    Resolution :=
  .http
    { id := request.id
      url := cString (driver.dstUrl request)
      verifySsl := driver.validateHttpsCer
      authType := .basic
      timeoutMs := driver.timeout }

def CHttpBulkvsDriver.parse [CJson] (data : Bytes) (result : SResult) : ParseOutcome :=
  parseNumber "name" data result

structure CHttpAlcazarDriver where
  uniqId : Int
  host : Bytes
  port : UInt16
  key : Bytes
  timeout : Nat
  deriving DecidableEq

def CHttpAlcazarDriver.dstUrl (driver : CHttpAlcazarDriver) (request : ResolverRequest) : Bytes :=
  address "http" driver.host driver.port ++ bytesOf "/api/2.2/lrn?extended=true&output=json" ++
    bytesOf "&key=" ++ driver.key ++ bytesOf "&tn=" ++ request.data

def CHttpAlcazarDriver.resolve (driver : CHttpAlcazarDriver) (request : ResolverRequest) :
    Resolution :=
  .http
    { id := request.id
      url := cString (driver.dstUrl request)
      timeoutMs := driver.timeout
      headers := jsonHeaders }

-- the number is stored before the tag is read, and stays when the tag is missing
def CHttpAlcazarDriver.parse [CJson] (data : Bytes) (result : SResult) : ParseOutcome :=
  match replyString data "LRN" with
  | .error what => .error (.error what) result
  | .ok number =>
      let result := { result with localRoutingNumber := number }
      match replyString data "JURISDICTION" with
      | .error what => .error (.error what) result
      | .ok tag => .ok () { result with localRoutingTag := tag, rawData := data }

structure OperatorsMap where
  entries : AList (fun _ : Bytes => UInt32)
  defaultValue : UInt32
  deriving DecidableEq

def OperatorsMap.resolve (operators : OperatorsMap) (operatorName : Bytes) : UInt32 :=
  (operators.entries.lookup operatorName).getD operators.defaultValue

structure CHttpCoureAnqDriver where
  uniqId : Int
  baseUrl : Bytes
  username : Bytes
  password : Bytes
  countryCode : Bytes
  timeout : Nat
  operatorsMap : OperatorsMap
  deriving DecidableEq

def CHttpCoureAnqDriver.dstUrl (driver : CHttpCoureAnqDriver) (request : ResolverRequest) : Bytes :=
  driver.baseUrl ++ bytesOf "/api/json/LookUpNumber/GsmPortStatus?" ++
    bytesOf "username=" ++ driver.username ++ bytesOf "&password=" ++ driver.password ++
    bytesOf "&ServiceType=4" ++ bytesOf "&country=" ++ driver.countryCode ++
    bytesOf "&numbersToLookUp=" ++ request.data

def CHttpCoureAnqDriver.resolve (driver : CHttpCoureAnqDriver) (request : ResolverRequest) :
    Resolution :=
  .http
    { id := request.id
      url := cString (driver.dstUrl request)
      timeoutMs := driver.timeout
      headers := jsonHeaders }

/-- The first element of "Result", or the text of the CDriver::error. -/
def resultElement : Json → Except String Json
  | root@(.object _) =>
      match getObjectItem root (bytesOf "Result") with
      | none => .error "no \"Result\" key in reply"
      | some (.array []) => .error "empty array in \"Result\" key in reply"
      | some (.array (first@(.object _) :: _)) => .ok first
      | some (.array _) => .error "expected object array in \"Result\" key in reply"
      | some _ => .error "expected array in \"Result\" key in reply"
  | _ => .error "expected JSON object in reply"

/-- The JSON helpers throw std::runtime_error here, which no driver clause maps. -/
def CHttpCoureAnqDriver.parseElement (driver : CHttpCoureAnqDriver) (element : Json)
    (number : Bytes) (result : SResult) : ParseOutcome :=
  match getJsonValueByKey getJsonInt element "IsPorted" with
  | .error _ => .error .other result
  | .ok ported =>
      if ported = 0 ∨ ported = 2 then
        .ok () { result with localRoutingNumber := number, localRoutingTag := [] }
      else if ported = 1 then
        match getJsonValueByKey getJsonString element "Number" with
        | .error _ => .error .other result
        | .ok lrn =>
            let result := { result with localRoutingNumber := lrn }
            match getJsonValueByKey getJsonString element "TheOperator" with
            | .error _ => .error .other result
            | .ok operatorName => .ok () { result with
                localRoutingTag := decimal (driver.operatorsMap.resolve operatorName).toNat }
      else .error (driverError "unexpected ported \"IsPorted\" value in reply") result

def CHttpCoureAnqDriver.parse [CJson] (driver : CHttpCoureAnqDriver) (data : Bytes)
    (request : ResolverRequest) : ParseOutcome :=
  let result := { request.result with rawData := data }
  match CJson.parse (cString data) with
  | none => .error (driverError "failed to parse reply JSON") result
  | some root =>
      match resultElement root with
      | .error text => .error (driverError text) result
      | .ok element => driver.parseElement element request.data result

inductive UriPart where
  | string (data : Bytes)
  | placeholder (key : Bytes)
  deriving DecidableEq

structure CCnamHttpDriver where
  uniqId : Int
  uriParts : List UriPart
  timeout : Nat
  deriving DecidableEq

def jsonTypeNumber : Json → Int
  | .bool false => 1
  | .bool true => 2
  | .null => 4
  | .number _ _ => 8
  | .string _ => 16
  | .array _ => 32
  | .object _ => 64

-- Numbers go through valueint, so a fraction or a large number is cut.
def placeholderValue (root : Json) (key : Bytes) : Except DriverException Bytes :=
  match getObjectItem root key with
  | none => .error (.error (bytesOf "missed required key '" ++ key ++ bytesOf "' in request"))
  | some (.string value) => .ok value
  | some (.number valueint _) => .ok (decimal valueint)
  | some (.bool true) => .ok (bytesOf "1")
  | some (.bool false) => .ok (bytesOf "0")
  | some item => .error (.error (bytesOf "unsupported hash item type " ++
      decimal (jsonTypeNumber item) ++ bytesOf " by key '" ++ key ++ bytesOf "'"))

def getUrl (root : Json) : List UriPart → Except DriverException Bytes
  | [] => .ok []
  | .string data :: rest => do
      let tail ← getUrl root rest
      return data ++ tail
  | .placeholder key :: rest => do
      let value ← placeholderValue root key
      let tail ← getUrl root rest
      return value ++ tail

def CCnamHttpDriver.resolve [CJson] (driver : CCnamHttpDriver) (request : ResolverRequest) :
    Resolution :=
  match CJson.parse (cString request.data) with
  | none => .threw (driverError "failed to parse request json")
  | some root@(.object _) =>
      match getUrl root driver.uriParts with
      | .error exception => .threw exception
      | .ok dstUrl => .http
          { id := request.id
            url := cString dstUrl
            timeoutMs := driver.timeout
            headers := jsonHeaders }
  | some _ => .threw (driverError "expected JSON object in request")

def CCnamHttpDriver.parse [CJson] (data : Bytes) (result : SResult) : ParseOutcome :=
  let result := { result with rawData := data }
  match CJson.parse (cString data) with
  | none => .error (driverError "failed to parse reply JSON") result
  | some root@(.object _) =>
      .ok () { result with rawData := CJson.printUnformatted (.object [(bytesOf "response", root)]) }
  | some _ => .error (driverError "expected JSON object in reply") result

/-! The class hierarchy under CDriver. -/

inductive Driver where
  | sip (driver : CSipDriver)
  | thinq (driver : CHttpThinqDriver)
  | mhashCsv (driver : CMhashCsvDriver)
  | alcazar (driver : CHttpAlcazarDriver)
  | coureAnq (driver : CHttpCoureAnqDriver)
  | cnam (driver : CCnamHttpDriver)
  | bulkvs (driver : CHttpBulkvsDriver)
  deriving DecidableEq

def Driver.name : Driver → String
  | .sip _ => "SIP/301-302"
  | .thinq _ => "REST/ThinQ"
  | .mhashCsv _ => "MHASH/CSV"
  | .alcazar _ => "Alcazar Networks"
  | .coureAnq _ => "Coure ANQ"
  | .cnam _ => "CNAM HTTP"
  | .bulkvs _ => "Buklvs API"

def Driver.uniqueId : Driver → Int
  | .sip driver => driver.uniqId
  | .thinq driver => driver.uniqId
  | .mhashCsv driver => driver.uniqId
  | .alcazar driver => driver.uniqId
  | .coureAnq driver => driver.uniqId
  | .cnam driver => driver.uniqId
  | .bulkvs driver => driver.uniqId

def Driver.driverType : Driver → Int
  | .cnam _ => driverTypeCnam
  | _ => driverTypeTagged

def Driver.resolve [CJson] (driver : Driver) (sip : Bytes → SipOutcome)
    (request : ResolverRequest) : Resolution :=
  match driver with
  | .sip driver => driver.resolve sip request
  | .thinq driver => driver.resolve request
  | .mhashCsv driver => driver.resolve request
  | .alcazar driver => driver.resolve request
  | .coureAnq driver => driver.resolve request
  | .cnam driver => driver.resolve request
  | .bulkvs driver => driver.resolve request

def Driver.parse [CJson] (driver : Driver) (data : Bytes) (request : ResolverRequest) :
    ParseOutcome :=
  match driver with
  | .sip _ => CSipDriver.parse data request.result
  | .thinq _ => CHttpThinqDriver.parse data request.result
  | .mhashCsv _ => CMhashCsvDriver.parse data request.result
  | .alcazar _ => CHttpAlcazarDriver.parse data request.result
  | .coureAnq driver => driver.parse data request
  | .cnam _ => CCnamHttpDriver.parse data request.result
  | .bulkvs _ => CHttpBulkvsDriver.parse data request.result

theorem sip_resolve_no_http (driver : CSipDriver) (sip : Bytes → SipOutcome)
    (request : ResolverRequest) (http : HttpRequest) : driver.resolve sip request ≠ .http http := by
  intro resolved
  unfold CSipDriver.resolve at resolved
  repeat' split at resolved
  all_goals cases resolved

theorem csv_resolve_no_http (driver : CMhashCsvDriver) (request : ResolverRequest)
    (http : HttpRequest) : driver.resolve request ≠ .http http := by
  intro resolved
  unfold CMhashCsvDriver.resolve at resolved
  split at resolved <;> cases resolved

theorem cnam_resolve_id [CJson] (driver : CCnamHttpDriver) (request : ResolverRequest)
    (http : HttpRequest) (resolved : driver.resolve request = .http http) :
    http.id = request.id := by
  unfold CCnamHttpDriver.resolve at resolved
  repeat' split at resolved
  all_goals cases resolved
  rfl

theorem driver_resolve_id [CJson] (driver : Driver) (sip : Bytes → SipOutcome)
    (request : ResolverRequest) (http : HttpRequest)
    (resolved : driver.resolve sip request = .http http) : http.id = request.id := by
  cases driver with
  | sip driver => exact absurd resolved (sip_resolve_no_http driver sip request http)
  | mhashCsv driver => exact absurd resolved (csv_resolve_no_http driver request http)
  | cnam driver => exact cnam_resolve_id driver request http resolved
  | thinq driver => cases resolved; rfl
  | alcazar driver => cases resolved; rfl
  | coureAnq driver => cases resolved; rfl
  | bulkvs driver => cases resolved; rfl

instance [CJson] : CDriver Driver where
  getName := Driver.name
  getUniqueId := Driver.uniqueId
  getDriverType := Driver.driverType
  resolve := Driver.resolve
  parse := Driver.parse
  resolve_id := driver_resolve_id

end LnpResolver.Drivers

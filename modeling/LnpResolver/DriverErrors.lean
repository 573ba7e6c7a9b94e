import LnpResolver.ErrorConstructions
import LnpResolver.ExceptionTexts

/-!
Constructions of CDriver::error and CCsvClient::error while a driver resolves a
request or parses a reply. What these functions do to the request is left to Drivers;
here they return nothing, or throw what they throw there.
-/

namespace LnpResolver.DriverErrors

open PackedBytes RequestWire JsonItems DriverInterface Drivers PrintfFormats Tracing Throwing
open CsvClient ErrorConstructions ExceptionTexts

variable (asprintf : Bytes → Bytes)

def driverErrorTraced {α : Type} (fmt : String) (args : List Arg := []) :
    Traced Construction DriverException α :=
  throwFormatted asprintf .error .driver fmt args

/-- `catch (std::exception & e) { throw error(e.what()); }` -/
def rewrapping {α : Type} (block : Traced Construction Bytes α) :
    Traced Construction DriverException α :=
  catching block (throwRewrapped asprintf .error .driver)

def sipParseTraced (data : Bytes) : Traced Construction DriverException Unit :=
  if semicolon ∈ data then
    match (split data semicolon).findSome? rnValue with
    | some _ => pure ()
    | none => driverErrorTraced asprintf "Сontact user without 'rn' parameter"
  else pure ()

def sipResolveTraced (driver : CSipDriver) (sip : Bytes → SipOutcome) (request : ResolverRequest) :
    Traced Construction DriverException Unit :=
  match sip (cString (driver.dstUri request)) with
  | .threw error => rewrapping asprintf (attempt (.error error.what))
  | .fail => driverErrorTraced asprintf "no SIP response"
  | .ok rawContactData => sipParseTraced asprintf rawContactData

/-- CCsvClient::perform on a `const char *`. -/
def performTraced (driver : CMhashCsvDriver) :
    Option Bytes → Traced Construction Bytes (Option SRow)
  | none => csvError asprintf "not specified number for searching"
  | some number => pure (driver.perform number)

def mhashCsvResolveTraced (driver : CMhashCsvDriver) (request : ResolverRequest) :
    Traced Construction DriverException Unit := do
  let _ ← rewrapping asprintf (performTraced asprintf driver (some request.data))

def parseNumberTraced [CJson] (key : String) (data : Bytes) :
    Traced Construction DriverException Unit := do
  let _ ← rewrapping asprintf (attempt (replyString data key))

def alcazarParseTraced [CJson] (data : Bytes) : Traced Construction DriverException Unit :=
  rewrapping asprintf do
    let _ ← replyString data "LRN"
    let _ ← replyString data "JURISDICTION"

/-- An exception of the JSON helpers, which no clause of the driver catches. -/
def uncaught {α : Type} (action : Except Bytes α) : Traced Construction DriverException α :=
  attempt (action.mapError fun _ => .other)

def parseElementTraced (element : Json) : Traced Construction DriverException Unit := do
  let ported ← uncaught (getJsonValueByKey getJsonInt element "IsPorted")
  if ported = 0 ∨ ported = 2 then pure ()
  else if ported = 1 then
    let _ ← uncaught (getJsonValueByKey getJsonString element "Number")
    let _ ← uncaught (getJsonValueByKey getJsonString element "TheOperator")
  else driverErrorTraced asprintf "unexpected ported \"IsPorted\" value in reply"

def coureAnqParseTraced [CJson] (data : Bytes) : Traced Construction DriverException Unit :=
  match CJson.parse (cString data) with
  | none => driverErrorTraced asprintf "failed to parse reply JSON"
  | some root =>
      match resultElement root with
      | .error text => driverErrorTraced asprintf text
      | .ok element => parseElementTraced asprintf element

def placeholderValueTraced (root : Json) (key : Bytes) :
    Traced Construction DriverException Bytes :=
  match getObjectItem root key with
  | none => driverErrorTraced asprintf "missed required key '%s' in request" [.str key]
  | some (.string value) => pure value
  | some (.number valueint _) => pure (decimal valueint)
  | some (.bool true) => pure (bytesOf "1")
  | some (.bool false) => pure (bytesOf "0")
  | some item => driverErrorTraced asprintf "unsupported hash item type %d by key '%s'"
      [.int (jsonTypeNumber item), .str key]

def getUrlTraced (root : Json) : List UriPart → Traced Construction DriverException Bytes
  | [] => pure []
  | .string data :: rest => do
      let tail ← getUrlTraced root rest
      return data ++ tail
  | .placeholder key :: rest => do
      let value ← placeholderValueTraced asprintf root key
      let tail ← getUrlTraced root rest
      return value ++ tail

def cnamResolveTraced [CJson] (driver : CCnamHttpDriver) (request : ResolverRequest) :
    Traced Construction DriverException Unit :=
  match CJson.parse (cString request.data) with
  | none => driverErrorTraced asprintf "failed to parse request json"
  | some root@(.object _) => do
      let _ ← getUrlTraced asprintf root driver.uriParts
  | some _ => driverErrorTraced asprintf "expected JSON object in request"

def cnamParseTraced [CJson] (data : Bytes) : Traced Construction DriverException Unit :=
  match CJson.parse (cString data) with
  | none => driverErrorTraced asprintf "failed to parse reply JSON"
  | some (.object _) => pure ()
  | some _ => driverErrorTraced asprintf "expected JSON object in reply"

def resolveTraced [CJson] (driver : Driver) (sip : Bytes → SipOutcome) (request : ResolverRequest) :
    Traced Construction DriverException Unit :=
  match driver with
  | .sip driver => sipResolveTraced asprintf driver sip request
  | .mhashCsv driver => mhashCsvResolveTraced asprintf driver request
  | .cnam driver => cnamResolveTraced asprintf driver request
  | .thinq _ | .alcazar _ | .coureAnq _ | .bulkvs _ => pure ()

def parseTraced [CJson] (driver : Driver) (data : Bytes) :
    Traced Construction DriverException Unit :=
  match driver with
  | .sip _ => sipParseTraced asprintf data
  | .thinq _ => parseNumberTraced asprintf "lrn" data
  | .mhashCsv _ => pure ()
  | .alcazar _ => alcazarParseTraced asprintf data
  | .coureAnq _ => coureAnqParseTraced asprintf data
  | .cnam _ => cnamParseTraced asprintf data
  | .bulkvs _ => parseNumberTraced asprintf "name" data

/-! The formats with arguments, piece by piece. -/

theorem missedKey_pieces : bytesOf "missed required key '%s' in request" =
    bytesOf "missed required key '" ++ (Kind.str.spec ++ (bytesOf "' in request" ++ [])) := by
  decide

theorem unsupportedItem_pieces : bytesOf "unsupported hash item type %d by key '%s'" =
    bytesOf "unsupported hash item type " ++ (Kind.int.spec ++ (bytesOf " by key '" ++
      (Kind.str.spec ++ (bytesOf "'" ++ [])))) := by
  decide

theorem missedKey_printed (key : Bytes) :
    render (bytesOf "missed required key '%s' in request") [.str key] =
      some (bytesOf "missed required key '" ++ key ++ bytesOf "' in request") := by
  rw [missedKey_pieces, render_text (by decide), render_spec rfl, render_text (by decide),
    render_nil]
  simp

theorem unsupportedItem_printed (type : Int) (key : Bytes) :
    render (bytesOf "unsupported hash item type %d by key '%s'") [.int type, .str key] =
      some (bytesOf "unsupported hash item type " ++ decimal type ++ bytesOf " by key '" ++ key ++
        bytesOf "'") := by
  rw [unsupportedItem_pieces, render_text (by decide), render_spec rfl, render_text (by decide),
    render_spec rfl, render_text (by decide), render_nil]
  simp [numeral, decimal, bytesOf]

/-! Without the record. -/

def resolutionThrown : Resolution → Except DriverException Unit
  | .threw exception => .error exception
  | .done _ | .http _ => .ok ()

def outcomeThrown : ParseOutcome → Except DriverException Unit
  | .ok _ _ => .ok ()
  | .error exception _ => .error exception

theorem driverErrorTraced_outcome {α : Type} {fmt : String} {args : List Arg} {text : Bytes}
    (printed : render (bytesOf fmt) args = some text) :
    (driverErrorTraced asprintf fmt args : Traced Construction DriverException α).outcome =
      .error (.error text) := by
  rw [driverErrorTraced, throwFormatted, throwConstructed, outcome_throwing, Construction.what,
    printed]
  rfl

theorem driverErrorTraced_plain {α : Type} {fmt : String} (plain : 37 ∉ bytesOf fmt) :
    (driverErrorTraced asprintf fmt : Traced Construction DriverException α).outcome =
      .error (driverError fmt) :=
  driverErrorTraced_outcome asprintf (render_plain plain [])

/-- A text without a percent sign stays what it is. -/
theorem rewrapping_outcome {α : Type} {block : Traced Construction Bytes α}
    (plain : Plainly block.outcome) :
    (rewrapping asprintf block).outcome = block.outcome.mapError .error := by
  rw [rewrapping, outcome_catching]
  cases thrown : block.outcome with
  | ok value => rfl
  | error what =>
      exact congrArg (fun text => Except.error (DriverException.error text))
        (what_plain asprintf (plain what thrown))

theorem sipParseTraced_outcome (data : Bytes) (result : SResult) :
    (sipParseTraced asprintf data).outcome = outcomeThrown (CSipDriver.parse data result) := by
  rw [sipParseTraced, CSipDriver.parse]
  split
  · cases (split data semicolon).findSome? rnValue with
    | some value => rfl
    | none => exact driverErrorTraced_plain asprintf (by decide)
  · rfl

theorem sipResolveTraced_outcome (driver : CSipDriver) (sip : Bytes → SipOutcome)
    (request : ResolverRequest) :
    (sipResolveTraced asprintf driver sip request).outcome =
      resolutionThrown (driver.resolve sip request) := by
  rw [sipResolveTraced, CSipDriver.resolve]
  cases sip (cString (driver.dstUri request)) with
  | threw error =>
      exact rewrapping_outcome asprintf (throws_error (sipClientError_plain error))
  | fail => exact driverErrorTraced_plain asprintf (by decide)
  | ok rawContactData =>
      refine (sipParseTraced_outcome asprintf rawContactData request.result).trans ?_
      dsimp only
      cases CSipDriver.parse rawContactData request.result <;> rfl

theorem mhashCsvResolveTraced_outcome (driver : CMhashCsvDriver) (request : ResolverRequest) :
    (mhashCsvResolveTraced asprintf driver request).outcome =
      resolutionThrown (driver.resolve request) := by
  rw [CMhashCsvDriver.resolve]
  cases driver.perform request.data <;> rfl

theorem parseNumberTraced_outcome [CJson] {key : String} (plain : 37 ∉ bytesOf key) (data : Bytes)
    (result : SResult) :
    (parseNumberTraced asprintf key data).outcome =
      outcomeThrown (parseNumber key data result) := by
  have plainReply : Plainly (attempt (replyString data key) :
      Traced Construction Bytes Bytes).outcome := replyString_plainly data plain
  rw [parseNumberTraced, outcome_bind, rewrapping_outcome asprintf plainReply, parseNumber,
    outcome_attempt]
  cases replyString data key <;> rfl

theorem alcazarParseTraced_outcome [CJson] (data : Bytes) (result : SResult) :
    (alcazarParseTraced asprintf data).outcome =
      outcomeThrown (CHttpAlcazarDriver.parse data result) := by
  have plainReply : Plainly (do
      let _ ← replyString data "LRN"
      let _ ← replyString data "JURISDICTION" : Traced Construction Bytes Unit).outcome := by
    simp only [outcome_bind, liftM_eq_attempt, outcome_attempt, outcome_pure]
    apply throws_bind (replyString_plainly data (by decide))
    intro number
    exact throws_bind (replyString_plainly data (by decide)) fun _ => throws_ok _ _
  rw [alcazarParseTraced, rewrapping_outcome asprintf plainReply, CHttpAlcazarDriver.parse]
  simp only [outcome_bind, liftM_eq_attempt, outcome_attempt, outcome_pure]
  cases replyString data "LRN" with
  | error what => rfl
  | ok number =>
      dsimp only
      cases replyString data "JURISDICTION" <;> rfl

theorem resultElement_plain (root : Json) : Throws (fun text => 37 ∉ bytesOf text)
    (resultElement root) := by
  unfold resultElement
  repeat' split
  all_goals first | exact throws_ok _ _ | exact throws_error (by decide)

theorem parseElementTraced_outcome (driver : CHttpCoureAnqDriver) (element : Json)
    (number : Bytes) (result : SResult) :
    (parseElementTraced asprintf element).outcome =
      outcomeThrown (driver.parseElement element number result) := by
  simp only [parseElementTraced, CHttpCoureAnqDriver.parseElement, outcome_bind, uncaught,
    outcome_attempt]
  cases getJsonValueByKey getJsonInt element "IsPorted" with
  | error what => rfl
  | ok ported =>
      dsimp only [Except.mapError, ok_bind]
      split
      · rfl
      · split
        · cases getJsonValueByKey getJsonString element "Number" with
          | error what => rfl
          | ok lrn =>
              cases getJsonValueByKey getJsonString element "TheOperator" <;> rfl
        · exact driverErrorTraced_plain asprintf (by decide)

theorem coureAnqParseTraced_outcome [CJson] (driver : CHttpCoureAnqDriver) (data : Bytes)
    (request : ResolverRequest) :
    (coureAnqParseTraced asprintf data).outcome = outcomeThrown (driver.parse data request) := by
  rw [coureAnqParseTraced, CHttpCoureAnqDriver.parse]
  cases CJson.parse (cString data) with
  | none => exact driverErrorTraced_plain asprintf (by decide)
  | some root =>
      have plain := resultElement_plain root
      dsimp only
      cases found : resultElement root with
      | error text => exact driverErrorTraced_plain asprintf (plain text found)
      | ok element => exact parseElementTraced_outcome asprintf driver element _ _

theorem placeholderValueTraced_outcome (root : Json) (key : Bytes) :
    (placeholderValueTraced asprintf root key).outcome = placeholderValue root key := by
  rw [placeholderValueTraced, placeholderValue]
  cases getObjectItem root key with
  | none => exact driverErrorTraced_outcome asprintf (missedKey_printed key)
  | some item =>
      cases item with
      | string value => rfl
      | number valueint => rfl
      | bool value => cases value <;> rfl
      | null => exact driverErrorTraced_outcome asprintf (unsupportedItem_printed _ key)
      | array items => exact driverErrorTraced_outcome asprintf (unsupportedItem_printed _ key)
      | object members => exact driverErrorTraced_outcome asprintf (unsupportedItem_printed _ key)

theorem getUrlTraced_outcome (root : Json) (uriParts : List UriPart) :
    (getUrlTraced asprintf root uriParts).outcome = getUrl root uriParts := by
  induction uriParts with
  | nil => rfl
  | cons part rest ih =>
      cases part with
      | string data =>
          simp only [getUrlTraced, getUrl, outcome_bind, ih]
          rfl
      | placeholder key =>
          simp only [getUrlTraced, getUrl, outcome_bind, ih, placeholderValueTraced_outcome]
          rfl

theorem cnamResolveTraced_outcome [CJson] (driver : CCnamHttpDriver) (request : ResolverRequest) :
    (cnamResolveTraced asprintf driver request).outcome =
      resolutionThrown (driver.resolve request) := by
  rw [cnamResolveTraced, CCnamHttpDriver.resolve]
  cases CJson.parse (cString request.data) with
  | none => exact driverErrorTraced_plain asprintf (by decide)
  | some root =>
      cases root with
      | object members =>
          simp only [outcome_bind, getUrlTraced_outcome]
          cases getUrl (.object members) driver.uriParts <;> rfl
      | null => exact driverErrorTraced_plain asprintf (by decide)
      | bool value => exact driverErrorTraced_plain asprintf (by decide)
      | number valueint => exact driverErrorTraced_plain asprintf (by decide)
      | string text => exact driverErrorTraced_plain asprintf (by decide)
      | array items => exact driverErrorTraced_plain asprintf (by decide)

theorem cnamParseTraced_outcome [CJson] (data : Bytes) (result : SResult) :
    (cnamParseTraced asprintf data).outcome =
      outcomeThrown (CCnamHttpDriver.parse data result) := by
  rw [cnamParseTraced, CCnamHttpDriver.parse]
  cases CJson.parse (cString data) with
  | none => exact driverErrorTraced_plain asprintf (by decide)
  | some root =>
      cases root with
      | object members => rfl
      | null => exact driverErrorTraced_plain asprintf (by decide)
      | bool value => exact driverErrorTraced_plain asprintf (by decide)
      | number valueint => exact driverErrorTraced_plain asprintf (by decide)
      | string text => exact driverErrorTraced_plain asprintf (by decide)
      | array items => exact driverErrorTraced_plain asprintf (by decide)

/-- Recording the constructions does not change what escapes from a driver. -/
theorem resolveTraced_outcome [CJson] (driver : Driver) (sip : Bytes → SipOutcome)
    (request : ResolverRequest) :
    (resolveTraced asprintf driver sip request).outcome =
      resolutionThrown (driver.resolve sip request) := by
  cases driver with
  | sip driver => exact sipResolveTraced_outcome asprintf driver sip request
  | mhashCsv driver => exact mhashCsvResolveTraced_outcome asprintf driver request
  | cnam driver => exact cnamResolveTraced_outcome asprintf driver request
  | thinq driver => rfl
  | alcazar driver => rfl
  | coureAnq driver => rfl
  | bulkvs driver => rfl

theorem parseTraced_outcome [CJson] (driver : Driver) (data : Bytes) (request : ResolverRequest) :
    (parseTraced asprintf driver data).outcome = outcomeThrown (driver.parse data request) := by
  cases driver with
  | sip driver => exact sipParseTraced_outcome asprintf data request.result
  | thinq driver => exact parseNumberTraced_outcome asprintf (by decide) data request.result
  | mhashCsv driver => rfl
  | alcazar driver => exact alcazarParseTraced_outcome asprintf data request.result
  | coureAnq driver => exact coureAnqParseTraced_outcome asprintf driver data request
  | cnam driver => exact cnamParseTraced_outcome asprintf data request.result
  | bulkvs driver => exact parseNumberTraced_outcome asprintf (by decide) data request.result

end LnpResolver.DriverErrors

import LnpResolver.AsyncHttpClient
import LnpResolver.LabelledRuns
import LnpResolver.ReplyWire

/-!
The resolver of resolver/Resolver.cpp as a transition system over everything it
shares between events: the driver map, the pending table, the transfers libcurl
works on, the response queue, the cache queue and the counters. The dispatcher
thread handles one event at a time; a reload may come between any two of them.

History variables, read by no function of the program: which driver issued a
waiting request or a transfer, which request a transfer was started for, the
datagrams received, the drivers whose parse was applied to a response, and for
every datagram sent the request's serial, the response it answers and the driver
whose parse produced the result.
-/

namespace LnpResolver.Resolver

open PackedBytes Transport RequestWire DriverInterface AsyncHttpClient ReplyWire

structure Waiting (D : Type) where
  request : ResolverRequest
  issuer : D

structure Transfer (D : Type) where
  http : HttpRequest
  request : ResolverRequest
  issuer : D

structure Queued (D : Type) where
  response : HttpResponse
  transfer : Transfer D

structure Sent (D : Type) where
  outgoing : Outgoing
  serial : Nat
  answered : Option (Queued D) := none
  parser : Option D := none

/-- One application of a driver's parse. -/
structure Reading (D : Type) where
  queued : Queued D
  driver : D

structure CacheEntry where
  databaseId : Int
  dst : Bytes
  lrn : Bytes
  data : Bytes
  tag : Bytes
  deriving DecidableEq, Repr

/-- The counter families of the exporter, labelled by driver name and id. -/
structure Metrics where
  requestsCount : String × Int → Nat := fun _ => 0
  requestsFailed : String × Int → Nat := fun _ => 0
  requestsFinished : String × Int → Nat := fun _ => 0

abbrev Database (D : Type) := AList (fun _ : Int => D)

structure State (D : Type) where
  driversMap : Database D := ∅
  waitingRequests : AList (fun _ : UInt32 => Waiting D) := ∅
  inFlight : List (Transfer D) := []
  responseQueue : List (Queued D) := []
  cacheQueue : List CacheEntry := []
  metrics : Metrics := {}
  sent : List (Sent D) := []
  received : List RecvData := []
  readings : List (Reading D) := []

/-- What the environment answers while one datagram is handled. -/
structure World where
  sip : Bytes → SipOutcome
  curl : Curl

/-- std::map::emplace does nothing when the key is present. -/
def emplace {Key : Type} [DecidableEq Key] {Value : Type} (table : AList (fun _ : Key => Value))
    (key : Key) (value : Value) : AList (fun _ : Key => Value) :=
  match table.lookup key with
  | some _ => table
  | none => table.insert key value

section Functions

variable {D : Type} [CDriver D]

def label (driver : D) : String × Int := (CDriver.getName driver, CDriver.getUniqueId driver)

def bump (counter : String × Int → Nat) (driver : D) : String × Int → Nat :=
  Function.update counter (label driver) (counter (label driver) + 1)

def requestsCountIncrement (driver : D) (metrics : Metrics) : Metrics :=
  { metrics with requestsCount := bump metrics.requestsCount driver }

def requestsFailedIncrement (driver : D) (metrics : Metrics) : Metrics :=
  { metrics with requestsFailed := bump metrics.requestsFailed driver }

def requestsFinishedIncrement (driver : D) (metrics : Metrics) : Metrics :=
  { metrics with requestsFinished := bump metrics.requestsFinished driver }

def send (message : Option (Sent D)) (state : State D) : State D :=
  { state with sent := state.sent ++ message.toList }

def sentFor (request : ResolverRequest) (outgoing : Outgoing) : Sent D :=
  { outgoing := outgoing, serial := request.serial }

def cacheEntry (driver : D) (request : ResolverRequest) : CacheEntry :=
  { databaseId := CDriver.getUniqueId driver
    dst := request.data
    lrn := request.result.localRoutingNumber
    data := request.result.rawData
    tag := request.result.localRoutingTag }

def cached (driver : D) (request : ResolverRequest) : List CacheEntry :=
  if CDriver.getDriverType driver = driverTypeTagged then [cacheEntry driver request] else []

def handleRequestIsDone (request : ResolverRequest) (driver : D) (answered : Option (Queued D))
    (parser : Option D) (state : State D) : State D :=
  let state :=
    { state with
      metrics := requestsFinishedIncrement driver state.metrics
      cacheQueue := state.cacheQueue ++ cached driver request }
  send ((sendReply request).map fun outgoing =>
    { outgoing := outgoing, serial := request.serial, answered := answered, parser := parser }) state

def resolvingError (what : Bytes) : CResolverError := ⟨.generalResolvingError, what⟩

/-- The catch clauses around the driver calls. -/
def mapException : DriverException → CResolverError
  | .error what => ⟨.driverResolvingError, what⟩
  | .other => resolvingError (bytesOf "unknown resovling exception")

abbrev Throwing (D : Type) := EStateM.Result CResolverError (State D) Unit

/-- The entry is stored before the transfer is started, and stays when that
fails; the return value of make_request is ignored. -/
def makeHttpRequest (issuer : D) (request : ResolverRequest) (http : HttpRequest) (curl : Curl)
    (state : State D) : EStateM.Result Bytes (State D) Unit :=
  let state :=
    { state with
      waitingRequests := emplace state.waitingRequests request.id ⟨request, issuer⟩ }
  match makeRequest curl http with
  | .error what => .error what state
  | .ok status =>
      .ok () (if status = 0 then
        { state with inFlight := state.inFlight ++ [⟨http, request, issuer⟩] } else state)

def resolve (world : World) (request : ResolverRequest) (state : State D) : Throwing D :=
  match state.driversMap.lookup request.dbId with
  | none => .error (resolvingError (bytesOf "unknown database id")) state
  | some driver =>
      if CDriver.getDriverType driver ≠ request.type then
        .error (resolvingError (bytesOf "request type is unsupported")) state
      else
        -- counted before the driver runs, whatever becomes of the request
        let state := { state with metrics := requestsCountIncrement driver state.metrics }
        match CDriver.resolve driver world.sip request with
        | .threw exception => .error (mapException exception)
            { state with metrics := requestsFailedIncrement driver state.metrics }
        | .done result => .ok ()
            (handleRequestIsDone { request with result := result, isDone := true } driver none none
              state)
        | .http http =>
            match makeHttpRequest driver request http world.curl state with
            | .ok _ state => .ok () state
            | .error what state => .error (resolvingError what)
                { state with metrics := requestsFailedIncrement driver state.metrics }

def onDataReceived (recv : RecvData) (world : World) (state : State D) : State D :=
  let fresh : ResolverRequest := { serial := state.received.length }
  let state := { state with received := state.received ++ [recv] }
  match parse recv fresh with
  | .error error half => send ((sendErrorReply half error).map (sentFor half)) state
  | .ok _ request =>
      let state := send (some (sentFor request (sendProvisionalReply request))) state
      match resolve world request state with
      | .ok _ state => state
      | .error error state => send ((sendErrorReply request error).map (sentFor request)) state

def parseResponse (queued : Queued D) (request : ResolverRequest) (state : State D) : Throwing D :=
  match state.driversMap.lookup request.dbId with
  | none => .error (resolvingError (bytesOf "unknown database id")) state
  | some driver =>
      if CDriver.getDriverType driver ≠ request.type then
        .error (resolvingError (bytesOf "request type is unsupported")) state
      else if queued.response.isSuccess = false then
        .error (resolvingError (JsonItems.cString queued.response.data))
          { state with metrics := requestsFailedIncrement driver state.metrics }
      else
        let state := { state with readings := state.readings ++ [⟨queued, driver⟩] }
        match CDriver.parse driver queued.response.data request with
        | .error exception _ => .error (mapException exception)
            { state with metrics := requestsFailedIncrement driver state.metrics }
        | .ok _ result => .ok ()
            (handleRequestIsDone { request with result := result, isDone := true } driver
              (some queued) (some driver) state)

def onHttpResponseReceived (queued : Queued D) (state : State D) : State D :=
  match state.waitingRequests.lookup queued.response.id with
  | none => state
  | some waiting =>
      -- the entry is gone before the response is looked at
      let request := waiting.request
      let state :=
        { state with waitingRequests := state.waitingRequests.erase queued.response.id }
      match parseResponse queued request state with
      | .ok _ state => state
      | .error error state => send ((sendErrorReply request error).map fun outgoing =>
          { sentFor request outgoing with answered := some queued }) state

/-- One CURLMSG_DONE message of check_multi_info. -/
def checkMultiInfo (index : Nat) (result : TransferResult) (state : State D) : Option (State D) :=
  match state.inFlight[index]? with
  | none => none
  | some transfer => some
      { state with
        inFlight := state.inFlight.eraseIdx index
        responseQueue := state.responseQueue ++ [⟨result.response transfer.http.id, transfer⟩] }

/-- One turn of the loop in respose_notifier_event_handler. -/
def takeResponse (state : State D) : Option (State D) :=
  match state.responseQueue with
  | [] => none
  | queued :: rest => some (onHttpResponseReceived queued { state with responseQueue := rest })

/-- CDriver::instantiate on one row of the configuration query. -/
inductive Row (D : Type) where
  | driver (driver : D)
  | unsupported
  | threw

/-- The query with its rows, or an exception before the first row. -/
inductive Load (D : Type) where
  | failed
  | rows (rows : List (Row D))

def loadRows : Database D → List (Row D) → Option (Database D)
  | dbMap, [] => some dbMap
  | dbMap, .driver driver :: rest =>
      -- the first of two rows with one id wins
      loadRows (emplace dbMap (CDriver.getUniqueId driver) driver) rest
  | dbMap, .unsupported :: rest => loadRows dbMap rest
  | _, .threw :: _ => none

def loadResolveDrivers : Load D → Option (Database D)
  | .failed => none
  | .rows rows => loadRows ∅ rows

def configure (load : Load D) (state : State D) : Bool × State D :=
  match loadResolveDrivers load with
  | some dbMap => (true, { state with driversMap := dbMap })
  | none => (false, state)

inductive Event (D : Type) where
  | datagram (recv : RecvData) (world : World)
  | transferDone (index : Nat) (result : TransferResult)
  | response
  | configure (load : Load D)

def step (state : State D) : Event D → Option (State D)
  | .datagram recv world => some (onDataReceived recv world state)
  | .transferDone index result => checkMultiInfo index result state
  | .response => takeResponse state
  | .configure load => some (configure load state).2

def system (D : Type) [CDriver D] : LabelledRuns.System (State D) (Event D) where
  initial := {}
  step := step

end Functions

end LnpResolver.Resolver

import LnpResolver.Resolver

/-!
What one event of the resolver can do, said once. `Received` lists the ways out
of on_data_received with the state each one leaves behind, `Answered` those of
on_http_response_received. The invariants of the following modules are proved
by cases on them and never unfold the program.
-/

namespace LnpResolver.ResolverSteps

open PackedBytes Transport RequestWire DriverInterface AsyncHttpClient ReplyWire Resolver

variable {D : Type} [CDriver D]

section Emplace

variable {Key Value : Type} [DecidableEq Key] (table : AList (fun _ : Key => Value)) (key other : Key)
  (value : Value)

theorem emplace_present {old : Value} (present : table.lookup key = some old) :
    emplace table key value = table := by
  simp [emplace, present]

theorem emplace_absent (absent : table.lookup key = none) :
    emplace table key value = table.insert key value := by
  simp [emplace, absent]

theorem emplace_lookup_other (different : other ≠ key) :
    (emplace table key value).lookup other = table.lookup other := by
  unfold emplace
  split
  · rfl
  · exact AList.lookup_insert_ne different

/-- A value is found under its key when an earlier call or this one put it there. -/
theorem emplace_lookup : (emplace table key value).lookup other =
    (table.lookup other).or (if key = other then some value else none) := by
  by_cases same : other = key
  · subst same
    cases old : table.lookup other with
    | some earlier => simp [emplace_present _ _ _ old, old]
    | none => simp [emplace_absent _ _ _ old]
  · rw [emplace_lookup_other _ _ _ _ same, if_neg (Ne.symm same), Option.or_none]

end Emplace

/-- The request that an accepted datagram becomes. -/
def admitted (state : State D) (recv : RecvData) : ResolverRequest :=
  accepted recv { serial := state.received.length }

def logged (state : State D) (recv : RecvData) : State D :=
  { state with received := state.received ++ [recv] }

def provisional (request : ResolverRequest) : Sent D :=
  sentFor request (sendProvisionalReply request)

/-- The driver map has no driver for the request, or one of the other kind. -/
def NoDriver (map : Database D) (request : ResolverRequest) : Prop :=
  ∀ driver, map.lookup request.dbId = some driver → CDriver.getDriverType driver ≠ request.type

def Serves (map : Database D) (request : ResolverRequest) (driver : D) : Prop :=
  map.lookup request.dbId = some driver ∧ CDriver.getDriverType driver = request.type

theorem driver_cases (map : Database D) (request : ResolverRequest) :
    NoDriver map request ∨ ∃ driver, Serves map request driver := by
  cases found : map.lookup request.dbId with
  | none => exact Or.inl (fun driver present => by simp [found] at present)
  | some driver =>
      by_cases same : CDriver.getDriverType driver = request.type
      · exact Or.inr ⟨driver, found, same⟩
      · exact Or.inl (fun other present => by
          have equal : driver = other := by simpa [found] using present
          exact equal ▸ same)

theorem serves_unique {map : Database D} {request : ResolverRequest} {first second : D}
    (left : Serves map request first) (right : Serves map request second) : first = second := by
  have equal := left.1.symm.trans right.1
  exact Option.some.inj equal

inductive Received (state : State D) (recv : RecvData) (world : World) : State D → Prop where
  | rejected (malformed : ¬ WellFormed recv) (error : CResolverError) (half : ResolverRequest)
      (failed : parse recv { serial := state.received.length } = .error error half) :
      Received state recv world
        { logged state recv with
          sent := state.sent ++ ((sendErrorReply half error).map (sentFor half)).toList }
  | refused (wellFormed : WellFormed recv)
      (absent : NoDriver state.driversMap (admitted state recv)) (error : CResolverError)
      (outgoing : Outgoing) (reply : sendErrorReply (admitted state recv) error = some outgoing) :
      Received state recv world
        { logged state recv with
          sent := state.sent ++
            [provisional (admitted state recv), sentFor (admitted state recv) outgoing] }
  | threw (wellFormed : WellFormed recv) (driver : D)
      (serves : Serves state.driversMap (admitted state recv) driver) (exception : DriverException)
      (resolved : CDriver.resolve driver world.sip (admitted state recv) = .threw exception)
      (outgoing : Outgoing)
      (reply : sendErrorReply (admitted state recv) (mapException exception) = some outgoing) :
      Received state recv world
        { logged state recv with
          metrics := requestsFailedIncrement driver (requestsCountIncrement driver state.metrics)
          sent := state.sent ++
            [provisional (admitted state recv), sentFor (admitted state recv) outgoing] }
  | done (wellFormed : WellFormed recv) (driver : D)
      (serves : Serves state.driversMap (admitted state recv) driver) (result : SResult)
      (resolved : CDriver.resolve driver world.sip (admitted state recv) = .done result)
      (outgoing : Outgoing)
      (reply : sendReply { admitted state recv with result := result, isDone := true } = some outgoing) :
      Received state recv world
        { logged state recv with
          metrics := requestsFinishedIncrement driver (requestsCountIncrement driver state.metrics)
          cacheQueue := state.cacheQueue ++
            cached driver { admitted state recv with result := result, isDone := true }
          sent := state.sent ++
            [provisional (admitted state recv), sentFor (admitted state recv) outgoing] }
  | dispatchThrew (wellFormed : WellFormed recv) (driver : D)
      (serves : Serves state.driversMap (admitted state recv) driver) (http : HttpRequest)
      (resolved : CDriver.resolve driver world.sip (admitted state recv) = .http http)
      (what : Bytes) (started : makeRequest world.curl http = .error what) (outgoing : Outgoing)
      (reply : sendErrorReply (admitted state recv) (resolvingError what) = some outgoing) :
      Received state recv world
        { logged state recv with
          waitingRequests := emplace state.waitingRequests (admitted state recv).id
            ⟨admitted state recv, driver⟩
          metrics := requestsFailedIncrement driver (requestsCountIncrement driver state.metrics)
          sent := state.sent ++
            [provisional (admitted state recv), sentFor (admitted state recv) outgoing] }
  | dispatchFailed (wellFormed : WellFormed recv) (driver : D)
      (serves : Serves state.driversMap (admitted state recv) driver) (http : HttpRequest)
      (resolved : CDriver.resolve driver world.sip (admitted state recv) = .http http)
      (status : Int) (started : makeRequest world.curl http = .ok status) (failed : status ≠ 0) :
      Received state recv world
        { logged state recv with
          waitingRequests := emplace state.waitingRequests (admitted state recv).id
            ⟨admitted state recv, driver⟩
          metrics := requestsCountIncrement driver state.metrics
          sent := state.sent ++ [provisional (admitted state recv)] }
  | dispatched (wellFormed : WellFormed recv) (driver : D)
      (serves : Serves state.driversMap (admitted state recv) driver) (http : HttpRequest)
      (resolved : CDriver.resolve driver world.sip (admitted state recv) = .http http)
      (started : makeRequest world.curl http = .ok 0) :
      Received state recv world
        { logged state recv with
          waitingRequests := emplace state.waitingRequests (admitted state recv).id
            ⟨admitted state recv, driver⟩
          inFlight := state.inFlight ++ [⟨http, admitted state recv, driver⟩]
          metrics := requestsCountIncrement driver state.metrics
          sent := state.sent ++ [provisional (admitted state recv)] }

/-- A request of one of the two kinds always gets its reply out. -/
theorem send_reply_some (request : ResolverRequest)
    (typed : request.type = taggedReqVersion ∨ request.type = cnamReqVersion) :
    ∃ outgoing, sendReply request = some outgoing := by
  unfold sendReply
  by_cases tagged : request.type = taggedReqVersion
  · exact ⟨_, if_pos tagged⟩
  · have cnam := typed.resolve_left tagged
    exact ⟨_, by rw [if_neg tagged, if_pos cnam]⟩

theorem send_error_reply_some (request : ResolverRequest) (error : CResolverError)
    (typed : request.type = taggedReqVersion ∨ request.type = cnamReqVersion) :
    ∃ outgoing, sendErrorReply request error = some outgoing := by
  unfold sendErrorReply
  by_cases tagged : request.type = taggedReqVersion
  · exact ⟨_, if_pos tagged⟩
  · have cnam := typed.resolve_left tagged
    exact ⟨_, by rw [if_neg tagged, if_pos cnam]⟩

theorem on_data_accepted (recv : RecvData) (world : World) (state : State D)
    (parsed : parse recv { serial := state.received.length } = .ok () (admitted state recv)) :
    onDataReceived recv world state =
      match resolve world (admitted state recv)
        (send (some (provisional (admitted state recv))) (logged state recv)) with
      | .ok _ after => after
      | .error error after =>
          send ((sendErrorReply (admitted state recv) error).map (sentFor (admitted state recv)))
            after := by
  simp only [onDataReceived, parsed]
  rfl

theorem datagram_received (recv : RecvData) (world : World) (state : State D) :
    Received state recv world (onDataReceived recv world state) := by
  rcases parse_cases recv { serial := state.received.length } with
    ⟨wellFormed, parsed⟩ | ⟨malformed, _, error, half, failed, _⟩ | ⟨malformed, _, error, failed⟩
  · have typed := accepted_type recv { serial := state.received.length } wellFormed
    rw [on_data_accepted recv world state parsed]
    -- from here on the cases follow resolve: no driver, then the three ways out of one
    unfold resolve
    rcases driver_cases state.driversMap (admitted state recv) with absent | ⟨driver, serves⟩
    · cases found : state.driversMap.lookup (admitted state recv).dbId with
      | none =>
          obtain ⟨outgoing, reply⟩ := send_error_reply_some (admitted state recv)
            (resolvingError (bytesOf "unknown database id")) typed
          simpa [send, logged, found, reply] using
            @Received.refused D _ state recv world wellFormed absent _ outgoing reply
      | some driver =>
          obtain ⟨outgoing, reply⟩ := send_error_reply_some (admitted state recv)
            (resolvingError (bytesOf "request type is unsupported")) typed
          have other := absent driver found
          simpa [send, logged, found, other, reply] using
            @Received.refused D _ state recv world wellFormed absent _ outgoing reply
    · have found := serves.1
      have same := serves.2
      cases resolved : CDriver.resolve driver world.sip (admitted state recv) with
      | threw exception =>
          obtain ⟨outgoing, reply⟩ :=
            send_error_reply_some (admitted state recv) (mapException exception) typed
          simpa [send, logged, found, same, resolved, reply] using
            Received.threw wellFormed driver serves exception resolved outgoing reply
      | done result =>
          obtain ⟨outgoing, reply⟩ := send_reply_some
            { admitted state recv with result := result, isDone := true } typed
          simpa [send, logged, found, same, resolved, reply, handleRequestIsDone, sentFor] using
            Received.done wellFormed driver serves result resolved outgoing reply
      | http http =>
          cases started : makeRequest world.curl http with
          | error what =>
              obtain ⟨outgoing, reply⟩ :=
                send_error_reply_some (admitted state recv) (resolvingError what) typed
              simpa [send, logged, found, same, resolved, reply, makeHttpRequest, started] using
                Received.dispatchThrew wellFormed driver serves http resolved what started outgoing
                  reply
          | ok status =>
              by_cases zero : status = 0
              · subst zero
                simpa [send, logged, found, same, resolved, makeHttpRequest, started] using
                  Received.dispatched wellFormed driver serves http resolved started
              · simpa [send, logged, found, same, resolved, makeHttpRequest, started, zero] using
                  Received.dispatchFailed wellFormed driver serves http resolved status started zero
  · have result := @Received.rejected D _ state recv world malformed error half failed
    simpa [onDataReceived, failed, send, logged] using result
  · have result := @Received.rejected D _ state recv world malformed error _ failed
    simpa [onDataReceived, failed, send, logged] using result

/-- The state after the pending entry of a response has been taken out. -/
def taken (state : State D) (queued : Queued D) : State D :=
  { state with waitingRequests := state.waitingRequests.erase queued.response.id }

/-- The answer to a response: the reply of the pending request, with its history. -/
def answers (queued : Queued D) (request : ResolverRequest) (parser : Option D)
    (reply : Option Outgoing) : List (Sent D) :=
  (reply.map fun outgoing =>
    { outgoing := outgoing, serial := request.serial, answered := some queued
      parser := parser }).toList

inductive Answered (state : State D) (queued : Queued D) : State D → Prop where
  | notFound (absent : state.waitingRequests.lookup queued.response.id = none) :
      Answered state queued state
  | refused (waiting : Waiting D)
      (found : state.waitingRequests.lookup queued.response.id = some waiting)
      (absent : NoDriver state.driversMap waiting.request) (error : CResolverError) :
      Answered state queued
        { taken state queued with
          sent := state.sent ++
            answers queued waiting.request none (sendErrorReply waiting.request error) }
  | failed (waiting : Waiting D)
      (found : state.waitingRequests.lookup queued.response.id = some waiting) (driver : D)
      (serves : Serves state.driversMap waiting.request driver)
      (failure : queued.response.isSuccess = false) :
      Answered state queued
        { taken state queued with
          metrics := requestsFailedIncrement driver state.metrics
          sent := state.sent ++ answers queued waiting.request none (sendErrorReply waiting.request
            (resolvingError (JsonItems.cString queued.response.data))) }
  | threw (waiting : Waiting D)
      (found : state.waitingRequests.lookup queued.response.id = some waiting) (driver : D)
      (serves : Serves state.driversMap waiting.request driver)
      (success : queued.response.isSuccess = true) (exception : DriverException) (half : SResult)
      (thrown : CDriver.parse driver queued.response.data waiting.request = .error exception half) :
      Answered state queued
        { taken state queued with
          metrics := requestsFailedIncrement driver state.metrics
          sent := state.sent ++ answers queued waiting.request none
            (sendErrorReply waiting.request (mapException exception))
          readings := state.readings ++ [⟨queued, driver⟩] }
  | parsed (waiting : Waiting D)
      (found : state.waitingRequests.lookup queued.response.id = some waiting) (driver : D)
      (serves : Serves state.driversMap waiting.request driver)
      (success : queued.response.isSuccess = true) (result : SResult)
      (read : CDriver.parse driver queued.response.data waiting.request = .ok () result) :
      Answered state queued
        { taken state queued with
          metrics := requestsFinishedIncrement driver state.metrics
          cacheQueue := state.cacheQueue ++
            cached driver { waiting.request with result := result, isDone := true }
          sent := state.sent ++ answers queued waiting.request (some driver)
            (sendReply { waiting.request with result := result, isDone := true })
          readings := state.readings ++ [⟨queued, driver⟩] }

theorem response_answered (queued : Queued D) (state : State D) :
    Answered state queued (onHttpResponseReceived queued state) := by
  unfold onHttpResponseReceived
  cases found : state.waitingRequests.lookup queued.response.id with
  | none => exact .notFound found
  | some waiting =>
      unfold parseResponse
      rcases driver_cases state.driversMap waiting.request with absent | ⟨driver, serves⟩
      · cases present : state.driversMap.lookup waiting.request.dbId with
        | none =>
            simpa [send, taken, answers, sentFor, present] using Answered.refused waiting found absent
              (resolvingError (bytesOf "unknown database id"))
        | some driver =>
            have other := absent driver present
            simpa [send, taken, answers, sentFor, present, other] using
              Answered.refused waiting found absent
                (resolvingError (bytesOf "request type is unsupported"))
      · have present := serves.1
        have same := serves.2
        cases success : queued.response.isSuccess with
        | false =>
            simpa [send, taken, answers, sentFor, present, same, success] using
              Answered.failed waiting found driver serves success
        | true =>
            cases read : CDriver.parse driver queued.response.data waiting.request with
            | error exception result =>
                simpa [send, taken, answers, sentFor, present, same, success, read] using
                  Answered.threw waiting found driver serves success exception result read
            | ok _ result =>
                simpa [send, taken, answers, present, same, success, read,
                  handleRequestIsDone] using
                  Answered.parsed waiting found driver serves success result read

/-! The same steps seen from the pending part of the state: the table, the
transfers and the messages. -/

instance (recv : RecvData) : Decidable (TaggedFormat recv) := inferInstanceAs (Decidable (_ ∧ _))
instance (recv : RecvData) : Decidable (CnamFormat recv) := inferInstanceAs (Decidable (_ ∧ _))
instance (recv : RecvData) : Decidable (WellFormed recv) := inferInstanceAs (Decidable (_ ∧ _))

/-- The driver that turns a datagram into an HTTP request, with the request. -/
def issued (state : State D) (recv : RecvData) (world : World) : Option (D × HttpRequest) :=
  if WellFormed recv then
    match state.driversMap.lookup (admitted state recv).dbId with
    | none => none
    | some driver =>
        if CDriver.getDriverType driver = (admitted state recv).type then
          match CDriver.resolve driver world.sip (admitted state recv) with
          | .http http => some (driver, http)
          | _ => none
        else none
  else none

theorem issued_http (state : State D) (recv : RecvData) (world : World) (driver : D)
    (http : HttpRequest) (wellFormed : WellFormed recv)
    (serves : Serves state.driversMap (admitted state recv) driver)
    (resolved : CDriver.resolve driver world.sip (admitted state recv) = .http http) :
    issued state recv world = some (driver, http) := by
  simp [issued, wellFormed, serves.1, serves.2, resolved]

theorem issued_spec {state : State D} {recv : RecvData} {world : World} {driver : D}
    {http : HttpRequest} (issues : issued state recv world = some (driver, http)) :
    WellFormed recv ∧ Serves state.driversMap (admitted state recv) driver ∧
      CDriver.resolve driver world.sip (admitted state recv) = .http http := by
  unfold issued at issues
  repeat' split at issues
  all_goals cases issues
  exact ⟨by assumption, ⟨by assumption, by assumption⟩, by assumption⟩

theorem issued_serves {state : State D} {recv : RecvData} {world : World} {driver : D}
    {http : HttpRequest} (issues : issued state recv world = some (driver, http)) :
    Serves state.driversMap (admitted state recv) driver := (issued_spec issues).2.1

/-- libcurl takes the request over. -/
def takesOver (curl : Curl) (http : HttpRequest) : Bool :=
  match makeRequest curl http with
  | .ok status => status = 0
  | .error _ => false

/-- The pending table after a request has been stored. -/
def filed (state : State D) (recv : RecvData) (driver : D) : AList (fun _ : UInt32 => Waiting D) :=
  emplace state.waitingRequests (admitted state recv).id ⟨admitted state recv, driver⟩

inductive Pends (state : State D) (recv : RecvData) (world : World) (after : State D) : Prop where
  | nothing (table : after.waitingRequests = state.waitingRequests)
      (flight : after.inFlight = state.inFlight)
  | stored (driver : D) (http : HttpRequest) (wellFormed : WellFormed recv)
      (resolved : CDriver.resolve driver world.sip (admitted state recv) = .http http)
      (issues : issued state recv world = some (driver, http))
      (kept : takesOver world.curl http = false)
      (table : after.waitingRequests = filed state recv driver)
      (flight : after.inFlight = state.inFlight)
  | started (driver : D) (http : HttpRequest) (wellFormed : WellFormed recv)
      (resolved : CDriver.resolve driver world.sip (admitted state recv) = .http http)
      (issues : issued state recv world = some (driver, http))
      (handed : takesOver world.curl http = true)
      (table : after.waitingRequests = filed state recv driver)
      (flight : after.inFlight = state.inFlight ++ [⟨http, admitted state recv, driver⟩])

section Datagram

variable {state after : State D} {recv : RecvData} {world : World}

theorem received_pends (received : Received state recv world after) :
    Pends state recv world after := by
  cases received with
  | rejected | refused | threw | done => exact .nothing rfl rfl
  | dispatchThrew wellFormed driver serves http resolved what failed =>
      exact .stored driver http wellFormed resolved
        (issued_http state recv world driver http wellFormed serves resolved)
        (by simp [takesOver, failed]) rfl rfl
  | dispatchFailed wellFormed driver serves http resolved status failed other =>
      exact .stored driver http wellFormed resolved
        (issued_http state recv world driver http wellFormed serves resolved)
        (by simp [takesOver, failed, other]) rfl rfl
  | dispatched wellFormed driver serves http resolved handed =>
      exact .started driver http wellFormed resolved
        (issued_http state recv world driver http wellFormed serves resolved)
        (by simp [takesOver, handed]) rfl rfl

theorem received_frame (received : Received state recv world after) :
    after.received = state.received ++ [recv] ∧ after.responseQueue = state.responseQueue ∧
      after.driversMap = state.driversMap ∧ after.readings = state.readings := by
  cases received <;> exact ⟨rfl, rfl, rfl, rfl⟩

omit [CDriver D] in
/-- The record a failing parse leaves behind: of the datagram's id, or still of no type. -/
theorem parse_error_half {serial : Nat} {half : ResolverRequest} {error : CResolverError}
    (failed : parse recv { serial := serial } = .error error half) :
    half.clientInfo = recv.clientInfo ∧ half.serial = serial ∧
      (half.id = headerId recv ∨ half.type = -1) := by
  rcases parse_cases recv { serial := serial } with
    ⟨_, parsed⟩ | ⟨_, _, _, _, same, id, _, client, number⟩ | ⟨_, _, _, same⟩
  · simp [parsed] at failed
  · rw [same] at failed
    cases failed
    exact ⟨client, number, Or.inl id⟩
  · rw [same] at failed
    cases failed
    exact ⟨rfl, rfl, Or.inr rfl⟩

/-- The reply has the result of a driver that needs no HTTP request. -/
def Found (map : Database D) (request : ResolverRequest) (outgoing : Outgoing) : Prop :=
  ∃ driver sip result, Serves map request driver ∧
    CDriver.resolve driver sip request = .done result ∧
    sendReply { request with result := result, isDone := true } = some outgoing

/-- A message sent while a datagram is handled: for that datagram and from no
response; a result in it was found by the driver that serves the datagram. -/
structure Immediate (state : State D) (recv : RecvData) (message : Sent D) : Prop where
  serial : message.serial = state.received.length
  client : message.outgoing.clientInfo = recv.clientInfo
  carriesId : message.outgoing.CarriesId (headerId recv)
  unanswered : message.answered = none
  result : message.outgoing.kind.isResult = true → WellFormed recv ∧
    Found state.driversMap (admitted state recv) message.outgoing

theorem immediate_provisional : Immediate state recv (provisional (admitted state recv)) where
  serial := rfl
  client := rfl
  carriesId := provisional_carries_id (admitted state recv)
  unanswered := rfl
  result := nofun

theorem immediate_error {request : ResolverRequest} {error : CResolverError} {outgoing : Outgoing}
    (reply : sendErrorReply request error = some outgoing)
    (serial : request.serial = state.received.length)
    (client : request.clientInfo = recv.clientInfo) (id : request.id = headerId recv) :
    Immediate state recv (sentFor request outgoing) := by
  obtain ⟨toClient, carriesId, _⟩ := send_error_reply_spec request error outgoing reply
  have noResult := error_reply_no_result request error outgoing reply
  refine ⟨serial, toClient.trans client, id ▸ carriesId, rfl, ?_⟩
  intro isResult
  simp [sentFor, noResult] at isResult

theorem immediate_result {driver : D} {result : SResult} {outgoing : Outgoing}
    (wellFormed : WellFormed recv) (serves : Serves state.driversMap (admitted state recv) driver)
    (resolved : CDriver.resolve driver world.sip (admitted state recv) = .done result)
    (reply : sendReply { admitted state recv with result := result, isDone := true } = some outgoing) :
    Immediate state recv (sentFor (admitted state recv) outgoing) := by
  obtain ⟨toClient, carriesId, _⟩ := send_reply_spec _ outgoing reply
  exact ⟨rfl, toClient, carriesId, rfl,
    fun _ => ⟨wellFormed, driver, world.sip, result, serves, resolved, reply⟩⟩

theorem received_sent (received : Received state recv world after) :
    ∃ messages, after.sent = state.sent ++ messages ∧
      ∀ message ∈ messages, Immediate state recv message := by
  have pair : ∀ outgoing : Outgoing, Immediate state recv (sentFor (admitted state recv) outgoing) →
      ∀ message ∈ [provisional (admitted state recv), sentFor (admitted state recv) outgoing],
        Immediate state recv message := by
    intro outgoing immediate message member
    rcases List.mem_pair.mp member with rfl | rfl
    · exact immediate_provisional
    · exact immediate
  have single : ∀ message ∈ [provisional (D := D) (admitted state recv)],
      Immediate state recv message := by
    intro message member
    rw [List.mem_singleton.mp member]
    exact immediate_provisional
  cases received with
  | rejected malformed error half failed =>
      refine ⟨_, rfl, ?_⟩
      intro message member
      obtain ⟨outgoing, sent, rfl⟩ := Option.map_eq_some_iff.mp (Option.mem_toList.mp member)
      obtain ⟨client, serial, id | untyped⟩ := parse_error_half failed
      · exact immediate_error sent serial client id
      · -- send_error_reply has no case for the default type
        simp [sendErrorReply, untyped, taggedReqVersion, cnamReqVersion] at sent
  | refused _ _ error outgoing reply =>
      exact ⟨_, rfl, pair outgoing (immediate_error reply rfl rfl rfl)⟩
  | threw _ _ _ exception _ outgoing reply =>
      exact ⟨_, rfl, pair outgoing (immediate_error reply rfl rfl rfl)⟩
  | done wellFormed _ serves result resolved outgoing reply =>
      exact ⟨_, rfl, pair outgoing (immediate_result wellFormed serves resolved reply)⟩
  | dispatchThrew _ _ _ _ _ what _ outgoing reply =>
      exact ⟨_, rfl, pair outgoing (immediate_error reply rfl rfl rfl)⟩
  | dispatchFailed => exact ⟨_, rfl, single⟩
  | dispatched => exact ⟨_, rfl, single⟩

end Datagram

/-- What a reply to a response consists of: an error, or the result the driver
now under the database id reads from the response. -/
inductive Computed (map : Database D) (queued : Queued D) (request : ResolverRequest) :
    Sent D → Prop where
  | error (error : CResolverError) (outgoing : Outgoing)
      (reply : sendErrorReply request error = some outgoing) :
      Computed map queued request
        { outgoing := outgoing, serial := request.serial, answered := some queued }
  | result (driver : D) (serves : Serves map request driver) (result : SResult)
      (read : CDriver.parse driver queued.response.data request = .ok () result)
      (outgoing : Outgoing)
      (reply : sendReply { request with result := result, isDone := true } = some outgoing) :
      Computed map queued request
        { outgoing := outgoing, serial := request.serial, answered := some queued
          parser := some driver }

section Response

variable {state after : State D} {queued : Queued D}

omit [CDriver D] in
theorem mem_answers {request : ResolverRequest} {parser : Option D} {reply : Option Outgoing}
    {message : Sent D} (member : message ∈ answers queued request parser reply) :
    ∃ outgoing, reply = some outgoing ∧ message =
      { outgoing := outgoing, serial := request.serial, answered := some queued, parser := parser } := by
  obtain ⟨outgoing, sent, same⟩ := Option.map_eq_some_iff.mp (Option.mem_toList.mp member)
  exact ⟨outgoing, sent, same.symm⟩

theorem answered_frame (answered : Answered state queued after) :
    after.received = state.received ∧ after.inFlight = state.inFlight ∧
      after.responseQueue = state.responseQueue ∧ after.driversMap = state.driversMap := by
  cases answered <;> exact ⟨rfl, rfl, rfl, rfl⟩

theorem answered_table (answered : Answered state queued after) :
    after.waitingRequests = state.waitingRequests.erase queued.response.id := by
  cases answered with
  | notFound absent =>
      -- erasing a missing key changes nothing
      apply AList.ext
      exact (List.kerase_of_notMem_keys (AList.lookup_eq_none.mp absent)).symm
  | refused | failed | threw | parsed => rfl

theorem answered_sent (answered : Answered state queued after) :
    ∃ messages, after.sent = state.sent ++ messages ∧ ∀ message ∈ messages, ∃ waiting,
      state.waitingRequests.lookup queued.response.id = some waiting ∧
        Computed state.driversMap queued waiting.request message := by
  cases answered with
  | notFound absent => exact ⟨[], (List.append_nil _).symm, by simp⟩
  | refused waiting found | failed waiting found | threw waiting found =>
      refine ⟨_, rfl, ?_⟩
      intro message member
      obtain ⟨outgoing, sent, rfl⟩ := mem_answers member
      exact ⟨waiting, found, .error _ outgoing sent⟩
  | parsed waiting found driver serves success result read =>
      refine ⟨_, rfl, ?_⟩
      intro message member
      obtain ⟨outgoing, sent, rfl⟩ := mem_answers member
      exact ⟨waiting, found, .result driver serves result read outgoing sent⟩

/-- A response that finds its entry is answered with one message. -/
theorem answered_once (answered : Answered state queued after) {waiting : Waiting D}
    (found : state.waitingRequests.lookup queued.response.id = some waiting)
    (typed : waiting.request.type = taggedReqVersion ∨ waiting.request.type = cnamReqVersion) :
    ∃ message, after.sent = state.sent ++ [message] ∧
      Computed state.driversMap queued waiting.request message := by
  cases answered with
  | notFound absent => simp [absent] at found
  | refused other present _ error =>
      cases found.symm.trans present
      obtain ⟨outgoing, reply⟩ := send_error_reply_some waiting.request error typed
      exact ⟨_, by rw [answers, reply]; rfl, .error error outgoing reply⟩
  | failed other present | threw other present =>
      cases found.symm.trans present
      obtain ⟨outgoing, reply⟩ := send_error_reply_some waiting.request _ typed
      exact ⟨_, by rw [answers, reply]; rfl, .error _ outgoing reply⟩
  | parsed other present driver serves _ result read =>
      cases found.symm.trans present
      obtain ⟨outgoing, reply⟩ :=
        send_reply_some { waiting.request with result := result, isDone := true } typed
      exact ⟨_, by rw [answers, reply]; rfl, .result driver serves result read outgoing reply⟩

/-- Only a driver that serves the pending request reads its response. -/
theorem answered_readings (answered : Answered state queued after) :
    after.readings = state.readings ∨ ∃ waiting driver,
      state.waitingRequests.lookup queued.response.id = some waiting ∧
      Serves state.driversMap waiting.request driver ∧
      after.readings = state.readings ++ [⟨queued, driver⟩] := by
  cases answered with
  | notFound | refused | failed => exact Or.inl rfl
  | threw waiting found driver serves | parsed waiting found driver serves =>
      exact Or.inr ⟨waiting, driver, found, serves, rfl⟩

end Response

theorem configure_swaps (load : Load D) (state : State D) :
    ∃ map, (configure load state).2 = { state with driversMap := map } := by
  unfold configure
  cases loadResolveDrivers load with
  | none => exact ⟨state.driversMap, rfl⟩
  | some map => exact ⟨map, rfl⟩

/-- One step of the system, by event. -/
inductive Stepped (state : State D) : Event D → State D → Prop where
  | datagram (recv : RecvData) (world : World) (after : State D)
      (received : Received state recv world after) : Stepped state (.datagram recv world) after
  | transferDone (index : Nat) (result : TransferResult) (transfer : Transfer D)
      (inside : state.inFlight[index]? = some transfer) :
      Stepped state (.transferDone index result)
        { state with
          inFlight := state.inFlight.eraseIdx index
          responseQueue := state.responseQueue ++ [⟨result.response transfer.http.id, transfer⟩] }
  | response (queued : Queued D) (rest : List (Queued D))
      (front : state.responseQueue = queued :: rest) (after : State D)
      (answered : Answered { state with responseQueue := rest } queued after) :
      Stepped state .response after
  | configure (load : Load D) : Stepped state (.configure load) (configure load state).2

theorem step_stepped {state after : State D} {event : Event D} (stepped : step state event = some after) :
    Stepped state event after := by
  cases event with
  | datagram recv world =>
      cases stepped
      exact .datagram recv world _ (datagram_received recv world state)
  | transferDone index result =>
      simp only [step, checkMultiInfo] at stepped
      cases inside : state.inFlight[index]? with
      | none => simp [inside] at stepped
      | some transfer =>
          simp only [inside, Option.some.injEq] at stepped
          subst stepped
          exact .transferDone index result transfer inside
  | response =>
      simp only [step, takeResponse] at stepped
      cases front : state.responseQueue with
      | nil => simp [front] at stepped
      | cons queued rest =>
          simp only [front, Option.some.injEq] at stepped
          subst stepped
          exact .response queued rest front _ (response_answered queued _)
  | configure load =>
      cases stepped
      exact .configure load

/-- The datagrams that an event brings in. -/
def arrived : Event D → List RecvData
  | .datagram recv _ => [recv]
  | _ => []

theorem stepped_received {state after : State D} {event : Event D}
    (stepped : Stepped state event after) : after.received = state.received ++ arrived event := by
  cases stepped with
  | datagram recv world _ received => exact (received_frame received).1
  | transferDone => exact (List.append_nil _).symm
  | response queued rest front _ answered =>
      rw [(answered_frame answered).1]
      exact (List.append_nil _).symm
  | configure load =>
      obtain ⟨map, swapped⟩ := configure_swaps load state
      rw [swapped]
      exact (List.append_nil _).symm

/-- Where a message in the log after a step comes from. -/
inductive SentBy (state : State D) : Event D → Sent D → Prop where
  | earlier {event : Event D} {message : Sent D} (old : message ∈ state.sent) :
      SentBy state event message
  | immediate {message : Sent D} (recv : RecvData) (world : World)
      (immediate : Immediate state recv message) : SentBy state (.datagram recv world) message
  | computed {message : Sent D} (queued : Queued D) (member : queued ∈ state.responseQueue)
      (waiting : Waiting D)
      (found : state.waitingRequests.lookup queued.response.id = some waiting)
      (computed : Computed state.driversMap queued waiting.request message) :
      SentBy state .response message

-- Every property of the messages of a run is an induction over these three origins.
theorem stepped_sent {state after : State D} {event : Event D} {message : Sent D}
    (stepped : Stepped state event after) (member : message ∈ after.sent) :
    SentBy state event message := by
  cases stepped with
  | datagram recv world _ received =>
      obtain ⟨messages, sent, immediate⟩ := received_sent received
      rw [sent] at member
      rcases List.mem_append.mp member with old | new
      · exact .earlier old
      · exact .immediate recv world (immediate message new)
  | transferDone => exact .earlier member
  | response queued rest front _ answered =>
      obtain ⟨messages, sent, computed⟩ := answered_sent answered
      rw [sent] at member
      rcases List.mem_append.mp member with old | new
      · exact .earlier old
      · obtain ⟨waiting, found, made⟩ := computed message new
        exact .computed queued (front ▸ List.mem_cons_self) waiting found made
  | configure load =>
      obtain ⟨map, swapped⟩ := configure_swaps load state
      rw [swapped] at member
      exact .earlier member

end LnpResolver.ResolverSteps

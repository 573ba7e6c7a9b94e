import LnpResolver.PendingTable
import LnpResolver.Throwing

/-!
Error replies in the tagged form. desc_size is one byte, and nothing checks that
the description fits. It does: the texts of the parser, of the drivers that serve
tagged requests and of the JSON wrappers are constants, and the texts of libcurl
come from a buffer of CURL_ERROR_SIZE bytes.
-/

namespace LnpResolver.ErrorReplies

open PackedBytes Transport RequestWire JsonItems DriverInterface Drivers AsyncHttpClient ReplyWire
  Resolver ResolverSteps PendingTable

/-! The receiver's reading of `reply_hdr_tagged_err`. -/

structure TaggedError where
  id : UInt32
  code : Nat
  description : Bytes
  deriving DecidableEq, Repr

def taggedErrHeaderSize : Nat := 6

def replyDescSize (datagram : Bytes) : Nat := load (window 5 1 datagram)

def decodeTaggedError (datagram : Bytes) : Option TaggedError :=
  if datagram.length < taggedErrHeaderSize + replyDescSize datagram then none
  else some
    { id := UInt32.ofNat (load (window 0 4 datagram))
      code := load (window 4 1 datagram)
      description := window taggedErrHeaderSize (replyDescSize datagram) datagram }

/-- An error whose reply is neither cut nor taken for a success. -/
structure Terse (error : CResolverError) : Prop where
  short : error.what.length ≤ 255
  coded : error.code ≠ .noError

section Header

variable (id code descSize : Nat) (description : Bytes)

theorem err_header_id :
    window 0 4 (replyHdrTaggedErr id code descSize ++ description) = store 4 id := by
  simp only [replyHdrTaggedErr, List.append_assoc]
  exact id_prefix _ _

theorem err_header_code :
    window 4 1 (replyHdrTaggedErr id code descSize ++ description) = store 1 code := by
  have field := window_middle (store 4 id) (store 1 code) (store 1 descSize ++ description)
  simpa only [replyHdrTaggedErr, List.append_assoc, store_length] using field

theorem err_header_desc_size :
    window 5 1 (replyHdrTaggedErr id code descSize ++ description) = store 1 descSize := by
  have field := window_middle (store 4 id ++ store 1 code) (store 1 descSize) description
  simpa only [replyHdrTaggedErr, List.append_assoc, List.length_append, store_length] using field

theorem err_header_description :
    window 6 description.length (replyHdrTaggedErr id code descSize ++ description) =
      description := by
  have field := window_middle (replyHdrTaggedErr id code descSize) description []
  simpa only [replyHdrTaggedErr, List.append_nil, List.length_append, store_length] using field

end Header

theorem code_fits (code : ECErrorId) : code.value < 256 ^ 1 := by
  cases code <;> decide

theorem tagged_error_desc_size (request : ResolverRequest) (error : CResolverError)
    (terse : Terse error) :
    replyDescSize (sendTaggedErrorReply request error).payload = error.what.length := by
  have short := terse.short
  rw [replyDescSize, sendTaggedErrorReply, err_header_desc_size, load_store_fits 1 _ (by omega)]

theorem tagged_error_length (request : ResolverRequest) (error : CResolverError) :
    (sendTaggedErrorReply request error).payload.length =
      taggedErrHeaderSize + error.what.length := by
  simp only [sendTaggedErrorReply, replyHdrTaggedErr, List.length_append, store_length,
    taggedErrHeaderSize]

theorem tagged_error_decodes (request : ResolverRequest) (error : CResolverError)
    (terse : Terse error) :
    decodeTaggedError (sendTaggedErrorReply request error).payload =
      some ⟨request.id, error.code.value, error.what⟩ := by
  have size := tagged_error_desc_size request error terse
  have whole := tagged_error_length request error
  have id : UInt32.ofNat (load (window 0 4 (sendTaggedErrorReply request error).payload)) =
      request.id := by
    rw [sendTaggedErrorReply, err_header_id, load_store_fits 4 _ request.id.toNat_lt,
      UInt32.ofNat_toNat]
  have code : load (window 4 1 (sendTaggedErrorReply request error).payload) =
      error.code.value := by
    rw [sendTaggedErrorReply, err_header_code, load_store_fits 1 _ (code_fits _)]
  have description : window taggedErrHeaderSize error.what.length
      (sendTaggedErrorReply request error).payload = error.what :=
    err_header_description _ _ _ _
  have accepts : ¬ (sendTaggedErrorReply request error).payload.length <
      taggedErrHeaderSize + error.what.length := by omega
  simp only [decodeTaggedError, size, accepts, if_false, id, code, description]

/-! The texts. What escapes from a driver is a CDriver::error with a text, or is
replaced by one text of the resolver. -/

def ShortText (exception : DriverException) : Prop :=
  ∀ what, exception = .error what → what.length ≤ 255

theorem mapException_terse (exception : DriverException) (short : ShortText exception) :
    Terse (mapException exception) := by
  cases exception with
  | error what => exact ⟨short what rfl, by simp [mapException]⟩
  | other => exact ⟨by decide, by simp [mapException, resolvingError]⟩

theorem error_short {what : Bytes} (short : what.length ≤ 255) : ShortText (.error what) := by
  rintro other same
  cases same
  exact short

theorem short_text (text : String) (short : (bytesOf text).length ≤ 255) :
    ShortText (driverError text) := error_short short

theorem sip_client_error_short (error : CSipClientError) : error.what.length ≤ 255 := by
  cases error <;> decide

theorem sip_parse_short (data : Bytes) (result half : SResult) (exception : DriverException)
    (thrown : CSipDriver.parse data result = .error exception half) : ShortText exception := by
  unfold CSipDriver.parse at thrown
  split at thrown
  · split at thrown
    · cases thrown
    · cases thrown
      exact short_text _ (by decide)
  · cases thrown

theorem sip_resolve_short (driver : CSipDriver) (sip : Bytes → SipOutcome)
    (request : ResolverRequest) (exception : DriverException)
    (thrown : driver.resolve sip request = .threw exception) : ShortText exception := by
  unfold CSipDriver.resolve at thrown
  split at thrown
  · rename_i error _
    cases thrown
    exact error_short (sip_client_error_short error)
  · cases thrown
    exact short_text _ (by decide)
  · split at thrown
    · cases thrown
    · rename_i parsed
      cases thrown
      exact sip_parse_short _ _ _ _ parsed

theorem eraseQuotes_short (value what : Bytes) (thrown : eraseQuotes value = .error what) :
    what.length ≤ 255 := by
  unfold eraseQuotes at thrown
  simp only at thrown
  repeat' split at thrown
  all_goals cases thrown
  all_goals decide

section Json

variable [CJson]

theorem replyString_short (data : Bytes) (key : String) (what : Bytes)
    (name : (bytesOf key).length ≤ 100) (thrown : replyString data key = .error what) :
    what.length ≤ 255 := by
  simp only [replyString, Throwing.bind_error_iff] at thrown
  rcases thrown with unparsed | ⟨root, -, missing | ⟨item, -, cut⟩⟩
  · unfold jsonxx at unparsed
    split at unparsed <;> cases unparsed
    decide
  · unfold jsonxxItem at missing
    split at missing
    · split at missing <;> cases missing
      have label : (bytesOf "jsonxx: not found parsing item - ").length = 33 := by decide
      rw [List.length_append, label]
      omega
    · cases missing
      decide
  · cases item with
    | string value => exact eraseQuotes_short value what cut
    | null | bool | number | array | object => cases cut

theorem parseNumber_short (key : String) (data : Bytes) (result half : SResult)
    (exception : DriverException) (name : (bytesOf key).length ≤ 100)
    (thrown : parseNumber key data result = .error exception half) : ShortText exception := by
  unfold parseNumber at thrown
  split at thrown
  · cases thrown
  · rename_i failed
    cases thrown
    exact error_short (replyString_short data key _ name failed)

theorem alcazar_parse_short (data : Bytes) (result half : SResult) (exception : DriverException)
    (thrown : CHttpAlcazarDriver.parse data result = .error exception half) :
    ShortText exception := by
  unfold CHttpAlcazarDriver.parse at thrown
  split at thrown
  · rename_i failed
    cases thrown
    exact error_short (replyString_short data "LRN" _ (by decide) failed)
  · simp only at thrown
    split at thrown
    · rename_i failed
      cases thrown
      exact error_short (replyString_short data "JURISDICTION" _ (by decide) failed)
    · cases thrown

omit [CJson] in
theorem resultElement_short (root : Json) (text : String)
    (thrown : resultElement root = .error text) : (bytesOf text).length ≤ 255 := by
  unfold resultElement at thrown
  repeat' split at thrown
  all_goals cases thrown
  all_goals decide

omit [CJson] in
theorem other_short : ShortText .other := by
  rintro what same
  cases same

omit [CJson] in
theorem coure_element_short (driver : CHttpCoureAnqDriver) (element : Json) (number : Bytes)
    (result half : SResult) (exception : DriverException)
    (thrown : driver.parseElement element number result = .error exception half) :
    ShortText exception := by
  unfold CHttpCoureAnqDriver.parseElement at thrown
  simp only at thrown
  repeat' split at thrown
  all_goals cases thrown
  all_goals first
    | exact other_short
    | exact short_text _ (by decide)

theorem coure_parse_short (driver : CHttpCoureAnqDriver) (data : Bytes)
    (request : ResolverRequest) (half : SResult) (exception : DriverException)
    (thrown : driver.parse data request = .error exception half) : ShortText exception := by
  unfold CHttpCoureAnqDriver.parse at thrown
  simp only at thrown
  split at thrown
  · cases thrown
    exact short_text _ (by decide)
  · split at thrown
    · rename_i failed
      cases thrown
      exact short_text _ (resultElement_short _ _ failed)
    · exact coure_element_short driver _ _ _ _ _ thrown

/-- A driver of tagged requests throws short texts only. -/
theorem driver_resolve_short (driver : Driver) (sip : Bytes → SipOutcome)
    (request : ResolverRequest) (exception : DriverException)
    (tagged : driver.driverType = driverTypeTagged)
    (thrown : driver.resolve sip request = .threw exception) : ShortText exception := by
  cases driver with
  | sip driver => exact sip_resolve_short driver sip request exception thrown
  | mhashCsv driver =>
      change driver.resolve request = .threw exception at thrown
      unfold CMhashCsvDriver.resolve at thrown
      split at thrown <;> cases thrown
  | cnam driver => cases tagged
  | thinq driver | alcazar driver | coureAnq driver | bulkvs driver => cases thrown

theorem driver_parse_short (driver : Driver) (data : Bytes) (request : ResolverRequest)
    (exception : DriverException) (half : SResult)
    (tagged : driver.driverType = driverTypeTagged)
    (thrown : driver.parse data request = .error exception half) : ShortText exception := by
  cases driver with
  | sip driver => exact sip_parse_short _ _ _ _ thrown
  | thinq driver => exact parseNumber_short "lrn" _ _ _ _ (by decide) thrown
  | mhashCsv driver => cases thrown
  | alcazar driver => exact alcazar_parse_short _ _ _ _ thrown
  | coureAnq driver => exact coure_parse_short driver _ _ _ _ thrown
  | cnam driver => cases tagged
  | bulkvs driver => exact parseNumber_short "name" _ _ _ _ (by decide) thrown

end Json

/-! The resolver's own texts and those it passes on. -/

theorem invalidRequest_terse (text : String) (short : (bytesOf text).length ≤ 255) :
    Terse (invalidRequest text) := ⟨short, by simp [invalidRequest]⟩

theorem resolvingError_terse (what : Bytes) (short : what.length ≤ 255) :
    Terse (resolvingError what) := ⟨short, by simp [resolvingError]⟩

theorem parse_error_terse (recv : RecvData) (request half : ResolverRequest)
    (error : CResolverError) (failed : parse recv request = .error error half) : Terse error := by
  unfold parse assignData at failed
  simp only at failed
  repeat' split at failed
  all_goals cases failed
  all_goals exact invalidRequest_terse _ (by decide)

/-- The texts an AsyncHttpClient::error can have. -/
def ShortErrors (result : Except Bytes Int) : Prop :=
  ∀ what, result = .error what → what.length ≤ 255

theorem shortErrors_ok (status : Int) : ShortErrors (.ok status) := by
  rintro what same
  cases same

theorem shortErrors_error (text : String) (short : (bytesOf text).length ≤ 255) :
    ShortErrors (.error (bytesOf text)) := by
  rintro what same
  cases same
  exact short

theorem shortErrors_if {failing : Prop} [Decidable failing] {thrown rest : Except Bytes Int}
    (now : ShortErrors thrown) (later : ShortErrors rest) :
    ShortErrors (if failing then thrown else rest) := by
  split
  · exact now
  · exact later

theorem makeRequest_short (curl : Curl) (http : HttpRequest) :
    ShortErrors (makeRequest curl http) := by
  unfold makeRequest
  apply shortErrors_if (shortErrors_ok _)
  repeat apply shortErrors_if (shortErrors_error _ (by decide))
  exact shortErrors_if (shortErrors_ok _) (shortErrors_ok _)

theorem error_buffer_short (id : UInt32) (result : TransferResult)
    (failure : (result.response id).isSuccess = false) :
    (result.response id).data.length ≤ 255 := by
  cases result with
  | ok body => cases failure
  | failed error =>
      have terminated := error.terminated
      simp only [curlErrorSize] at terminated
      simp only [TransferResult.response]
      omega

theorem cString_length (data : Bytes) : (cString data).length ≤ data.length :=
  (List.takeWhile_sublist _).length_le

section Resolving

variable [CJson]

/-- Messages that are no tagged error replies leave the log as good as it was. -/
def NoNewErrors (before after : State Driver) : Prop :=
  ∀ message ∈ after.sent, message ∈ before.sent ∨ message.outgoing.kind ≠ .taggedError

omit [CJson] in
theorem sendReply_kind (request : ResolverRequest) (outgoing : Outgoing)
    (sent : sendReply request = some outgoing) : outgoing.kind ≠ .taggedError := by
  unfold sendReply at sent
  repeat' split at sent
  all_goals cases sent
  all_goals nofun

theorem done_no_errors (request : ResolverRequest) (driver : Driver)
    (answered : Option (Queued Driver)) (parser : Option Driver) (before state : State Driver)
    (same : state.sent = before.sent) :
    NoNewErrors before (handleRequestIsDone request driver answered parser state) := by
  intro message member
  simp only [handleRequestIsDone, send, List.mem_append] at member
  rcases member with old | new
  · exact Or.inl (same ▸ old)
  · obtain ⟨outgoing, sent, rfl⟩ := Option.map_eq_some_iff.mp (Option.mem_toList.mp new)
    exact Or.inr (sendReply_kind _ _ sent)

/-- Resolving sends no error itself, and what it throws for a tagged request is terse. -/
theorem resolve_errors (world : World) (request : ResolverRequest) (state : State Driver) :
    match resolve world request state with
    | .ok _ after => NoNewErrors state after
    | .error error after =>
        after.sent = state.sent ∧ (request.type = taggedReqVersion → Terse error) := by
  unfold resolve
  rcases driver_cases state.driversMap request with absent | ⟨driver, serves⟩
  · cases found : state.driversMap.lookup request.dbId with
    | none => exact ⟨rfl, fun _ => resolvingError_terse _ (by decide)⟩
    | some driver =>
        simp only [absent driver found, ne_eq, not_false_eq_true, if_true]
        exact ⟨trivial, fun _ => resolvingError_terse _ (by decide)⟩
  · simp only [serves.1, serves.2, ne_eq, not_true_eq_false, if_false]
    cases resolved : CDriver.resolve driver world.sip request with
    | threw exception =>
        refine ⟨rfl, fun tagged => mapException_terse exception ?_⟩
        exact driver_resolve_short driver world.sip request exception
          (serves.2.trans tagged) resolved
    | done result => exact done_no_errors _ _ _ _ _ _ rfl
    | http http =>
        simp only [makeHttpRequest]
        cases started : makeRequest world.curl http with
        | error what =>
            exact ⟨rfl, fun _ => resolvingError_terse _ (makeRequest_short _ _ what started)⟩
        | ok status =>
            intro message member
            left
            by_cases zero : status = 0
            · simpa [zero] using member
            · simpa [zero] using member

theorem parse_response_errors (queued : Queued Driver) (request : ResolverRequest)
    (state : State Driver)
    (buffered : queued.response.isSuccess = false → queued.response.data.length ≤ 255) :
    match parseResponse queued request state with
    | .ok _ after => NoNewErrors state after
    | .error error after =>
        after.sent = state.sent ∧ (request.type = taggedReqVersion → Terse error) := by
  unfold parseResponse
  rcases driver_cases state.driversMap request with absent | ⟨driver, serves⟩
  · cases found : state.driversMap.lookup request.dbId with
    | none => exact ⟨rfl, fun _ => resolvingError_terse _ (by decide)⟩
    | some driver =>
        simp only [absent driver found, ne_eq, not_false_eq_true, if_true]
        exact ⟨trivial, fun _ => resolvingError_terse _ (by decide)⟩
  · simp only [serves.1, serves.2, ne_eq, not_true_eq_false, if_false]
    cases success : queued.response.isSuccess with
    | false =>
        have short := (cString_length queued.response.data).trans (buffered success)
        exact ⟨rfl, fun _ => resolvingError_terse _ short⟩
    | true =>
        simp only [Bool.true_eq_false, if_false]
        cases read : CDriver.parse driver queued.response.data request with
        | error exception half =>
            refine ⟨rfl, fun tagged => mapException_terse exception ?_⟩
            exact driver_parse_short driver _ request exception half (serves.2.trans tagged) read
        | ok _ result => exact done_no_errors _ _ _ _ _ _ rfl

/-- What on_data_received or on_http_response_received catches, the latter with the
response that it was called with. -/
inductive Catches (before : State Driver) (recv : RecvData) :
    ResolverRequest → CResolverError → Option (Queued Driver) → Prop
  | malformed {error : CResolverError} {half : ResolverRequest}
      (failed : parse recv { serial := before.received.length } = .error error half) :
      Catches before recv half error none
  | unresolved {world : World} {error : CResolverError} {after : State Driver}
      (parsed : parse recv { serial := before.received.length } = .ok () (admitted before recv))
      (failed : resolve world (admitted before recv)
        (send (some (provisional (admitted before recv))) (logged before recv)) = .error error after) :
      Catches before recv (admitted before recv) error none
  | unread {queued : Queued Driver} {rest : List (Queued Driver)} {waiting : Waiting Driver}
      {error : CResolverError} {after : State Driver}
      (front : before.responseQueue = queued :: rest)
      (found : before.waitingRequests.lookup queued.response.id = some waiting)
      (failed : parseResponse queued waiting.request
        (taken { before with responseQueue := rest } queued) = .error error after) :
      Catches before recv waiting.request error (some queued)

/-- A step of a run failed so for the request of datagram `message.serial`. -/
def Failed (received : List RecvData) (message : Sent Driver) (request : ResolverRequest)
    (error : CResolverError) : Prop :=
  ∃ recv, received[message.serial]? = some recv ∧ request.id = headerId recv ∧
    ∃ before, (system Driver).Reachable before ∧ Catches before recv request error message.answered

/-- The message is the error reply to datagram `message.serial`, and the reader
of its header finds that datagram's id, the code and the whole description. -/
structure ExactError (received : List RecvData) (message : Sent Driver)
    (request : ResolverRequest) (error : CResolverError) : Prop where
  sent : message.outgoing = sendTaggedErrorReply request error
  failed : Failed received message request error
  short : error.what.length ≤ 255
  coded : error.code.value ≠ 0
  decoded : decodeTaggedError message.outgoing.payload =
    some ⟨request.id, error.code.value, error.what⟩
  whole : taggedErrHeaderSize + replyDescSize message.outgoing.payload =
    message.outgoing.payload.length

def ErrorsExact (received : List RecvData) (sent : List (Sent Driver)) : Prop :=
  ∀ message ∈ sent, message.outgoing.kind = .taggedError →
    ∃ request error, ExactError received message request error

/-- The responses of failed transfers hold what was in the error buffer. -/
def FailuresBuffered (state : State Driver) : Prop :=
  ∀ queued ∈ state.responseQueue, queued.response.isSuccess = false →
    queued.response.data.length ≤ 255

theorem exact_error (received : List RecvData) (message : Sent Driver)
    (request : ResolverRequest) (error : CResolverError)
    (reply : sendErrorReply request error = some message.outgoing)
    (tagged : message.outgoing.kind = .taggedError) (failed : Failed received message request error)
    (terse : request.type = taggedReqVersion → Terse error) :
    ExactError received message request error := by
  have typed : request.type = taggedReqVersion := by
    by_contra other
    unfold sendErrorReply at reply
    rw [if_neg other] at reply
    split at reply
    · have same := Option.some.inj reply
      rw [← same] at tagged
      cases tagged
    · cases reply
  have sent : message.outgoing = sendTaggedErrorReply request error := by
    rw [sendErrorReply, if_pos typed] at reply
    exact (Option.some.inj reply).symm
  have fits := terse typed
  have size := tagged_error_desc_size request error fits
  have length := tagged_error_length request error
  have nonzero : error.code.value ≠ 0 := by
    have coded := fits.coded
    revert coded
    cases error.code <;> decide
  exact ⟨sent, failed, fits.short, nonzero,
    by rw [sent, tagged_error_decodes request error fits], by rw [sent, size, length]⟩

theorem errors_exact_later (received more : List RecvData) (sent : List (Sent Driver))
    (exact : ErrorsExact received sent) : ErrorsExact (received ++ more) sent := by
  intro message member tagged
  obtain ⟨request, error, proper⟩ := exact message member tagged
  obtain ⟨recv, found, caught⟩ := proper.failed
  obtain ⟨inside, _⟩ := List.getElem?_eq_some_iff.mp found
  exact ⟨request, error, { proper with
    failed := ⟨recv, by rw [List.getElem?_append_left inside, found], caught⟩ }⟩

theorem no_new_errors_exact {received : List RecvData} {before after : State Driver}
    (none : NoNewErrors before after) (exact : ErrorsExact received before.sent) :
    ErrorsExact received after.sent := by
  intro message member tagged
  rcases none message member with old | other
  · exact exact message old tagged
  · exact absurd tagged other

/-- The error reply to a known datagram joins the others. -/
theorem error_reply_exact {received : List RecvData} {sent : List (Sent Driver)}
    {request : ResolverRequest} {error : CResolverError} (wrapped : Outgoing → Sent Driver)
    (kept : ∀ outgoing, (wrapped outgoing).outgoing = outgoing)
    (exact : ErrorsExact received sent)
    (failed : ∀ outgoing, sendErrorReply request error = some outgoing →
      Failed received (wrapped outgoing) request error)
    (terse : request.type = taggedReqVersion → Terse error) :
    ErrorsExact received (sent ++ ((sendErrorReply request error).map wrapped).toList) := by
  intro message member tagged
  rcases List.mem_append.mp member with old | new
  · exact exact message old tagged
  · obtain ⟨outgoing, reply, rfl⟩ := Option.map_eq_some_iff.mp (Option.mem_toList.mp new)
    have own := failed outgoing reply
    rw [← kept outgoing] at reply
    exact ⟨request, error, exact_error _ _ request error reply tagged own terse⟩

theorem datagram_errors_exact (state : State Driver) (recv : RecvData) (world : World)
    (reachable : (system Driver).Reachable state) (exact : ErrorsExact state.received state.sent) :
    ErrorsExact (state.received ++ [recv]) (onDataReceived recv world state).sent := by
  have older := errors_exact_later state.received [recv] state.sent exact
  have here : (state.received ++ [recv])[state.received.length]? = some recv :=
    List.getElem?_concat_length
  rcases parse_cases recv { serial := state.received.length } with
    ⟨wellFormed, parsed⟩ | ⟨malformed, _, error, half, failed, _⟩ | ⟨malformed, _, error, failed⟩
  · rw [on_data_accepted recv world state parsed]
    have spec := resolve_errors world (admitted state recv)
      (send (some (provisional (admitted state recv))) (logged state recv))
    have begun : ErrorsExact (state.received ++ [recv])
        (send (some (provisional (admitted state recv))) (logged state recv)).sent := by
      intro message member tagged
      simp only [send, logged, List.mem_append, Option.toList_some, List.mem_singleton] at member
      rcases member with old | rfl
      · exact older message old tagged
      · cases tagged
    have caught := fun error after => @Catches.unresolved _ state recv world error after parsed
    generalize resolve (D := Driver) world (admitted state recv) _ = outcome at spec caught ⊢
    cases outcome with
    | ok _ after => exact no_new_errors_exact spec begun
    | error error after =>
        obtain ⟨same, terse⟩ := spec
        rw [← same] at begun
        exact error_reply_exact _ (fun _ => rfl) begun
          (fun _ _ => ⟨recv, here, rfl, state, reachable, caught _ _ rfl⟩) terse
  all_goals
    obtain ⟨_, serial, known⟩ := parse_error_half failed
    simp only [onDataReceived, failed]
    refine error_reply_exact _ (fun _ => rfl) older (fun outgoing replied => ?_)
      (fun _ => parse_error_terse _ _ _ _ failed)
    -- a request whose type was not read gets no reply at all
    rcases known with id | untyped
    · exact ⟨recv, by rw [sentFor, serial]; exact here, id, state, reachable, .malformed failed⟩
    · simp [sendErrorReply, untyped, taggedReqVersion, cnamReqVersion] at replied

theorem response_errors_exact (state : State Driver) (queued : Queued Driver)
    (rest : List (Queued Driver)) (front : state.responseQueue = queued :: rest)
    (reachable : (system Driver).Reachable state)
    (entries : ∀ id waiting, state.waitingRequests.lookup id = some waiting →
      Accepted state.received waiting.request)
    (buffered : queued.response.isSuccess = false → queued.response.data.length ≤ 255)
    (exact : ErrorsExact state.received state.sent) :
    ErrorsExact state.received
      (onHttpResponseReceived queued { state with responseQueue := rest }).sent := by
  unfold onHttpResponseReceived
  cases found : state.waitingRequests.lookup queued.response.id with
  | none => exact exact
  | some waiting =>
      obtain ⟨recv, asked, _, id⟩ := accepted_client (entries _ waiting found)
      have spec := parse_response_errors queued waiting.request
        (taken { state with responseQueue := rest } queued) buffered
      have caught := fun error after =>
        @Catches.unread _ state recv queued rest waiting error after front found
      unfold taken at spec caught
      simp only
      generalize parseResponse (D := Driver) queued waiting.request _ = outcome at spec caught ⊢
      cases outcome with
      | ok _ after => exact no_new_errors_exact spec exact
      | error error after =>
          obtain ⟨same, terse⟩ := spec
          have begun : ErrorsExact state.received after.sent := by
            rw [same]
            exact exact
          exact error_reply_exact _ (fun _ => rfl) begun
            (fun _ _ => ⟨recv, asked, id, state, reachable, caught _ _ rfl⟩) terse

theorem failures_buffered_step {state after : State Driver} {event : Event Driver}
    (stepped : Stepped state event after) (buffered : FailuresBuffered state) :
    FailuresBuffered after := by
  cases stepped with
  | datagram recv world _ received =>
      obtain ⟨_, queue, _⟩ := received_frame received
      exact fun queued member => buffered queued (queue ▸ member)
  | transferDone index result transfer inside =>
      intro queued member failure
      rcases List.mem_append.mp member with old | new
      · exact buffered queued old failure
      · rw [List.mem_singleton.mp new] at failure ⊢
        exact error_buffer_short _ result failure
  | response queued rest front _ answered =>
      obtain ⟨_, _, queue, _⟩ := answered_frame answered
      intro other member
      rw [queue] at member
      exact buffered other (front ▸ List.mem_cons_of_mem _ member)
  | configure load =>
      obtain ⟨map, swapped⟩ := configure_swaps load state
      rw [swapped]
      exact buffered

theorem failures_buffered_reached {allowed : State Driver → Event Driver → Prop}
    {state : State Driver} (reached : (system Driver).Reached allowed state) :
    FailuresBuffered state :=
  LabelledRuns.reached_invariant (system Driver) allowed FailuresBuffered
    (by simp [FailuresBuffered, system])
    (fun _ _ _ buffered _ stepped => failures_buffered_step (step_stepped stepped) buffered) reached

theorem errors_exact_step {state after : State Driver} {event : Event Driver}
    (stepped : step state event = some after) (reachable : (system Driver).Reachable state)
    (kept : Bookkeeping state) (buffered : FailuresBuffered state)
    (exact : ErrorsExact state.received state.sent) :
    ErrorsExact after.received after.sent := by
  rw [stepped_received (step_stepped stepped)]
  cases event with
  | datagram recv world =>
      cases stepped
      exact datagram_errors_exact state recv world reachable exact
  | transferDone index result =>
      cases step_stepped stepped
      exact errors_exact_later _ _ _ exact
  | response =>
      simp only [step, takeResponse] at stepped
      cases front : state.responseQueue with
      | nil =>
          rw [front] at stepped
          cases stepped
      | cons queued rest =>
          rw [front] at stepped
          cases stepped
          apply errors_exact_later
          have member : queued ∈ state.responseQueue := front ▸ List.mem_cons_self
          exact response_errors_exact state queued rest front reachable kept.entries
            (buffered queued member) exact
  | configure load =>
      cases stepped
      obtain ⟨map, swapped⟩ := configure_swaps load state
      rw [swapped]
      exact errors_exact_later _ _ _ exact

/-- In every run, every tagged error reply says what went wrong, in full. -/
theorem tagged_errors_exact (state : State Driver) (reached : (system Driver).Reachable state) :
    ErrorsExact state.received state.sent :=
  LabelledRuns.reached_invariant_given (system Driver) (fun _ _ => True)
    (fun state => (system Driver).Reachable state ∧ Bookkeeping state ∧ FailuresBuffered state)
    (fun state => ErrorsExact state.received state.sent)
    (fun _ earlier => ⟨earlier, bookkeeping_reached earlier, failures_buffered_reached earlier⟩)
    (by simp [ErrorsExact, system])
    (fun _ _ _ known exact _ stepped =>
      errors_exact_step stepped known.1 known.2.1 known.2.2 exact) reached

end Resolving

section BrokenTransfer

attribute [local instance] thinqJson

/-- The longest text the error buffer can hold. -/
def fullBuffer : ErrorBuffer where
  text := List.replicate 255 63
  terminated := by rw [List.length_replicate]; decide
  noNul := fun member => absurd (List.eq_of_mem_replicate member) (by decide)

theorem tagged_errors_exact_full_buffer : ∃ state, (system Driver).Reachable state ∧
    (∃ message ∈ state.sent, message.outgoing.kind = .taggedError) ∧
    ErrorsExact state.received state.sent := by
  obtain ⟨state, reached, shown⟩ := LabelledRuns.run_when_shows (system Driver) (fun _ _ => True)
    [.configure (.rows [.driver thinq]), ask firstClient 7 "1", .transferDone 0 (.failed fullBuffer),
      .response]
    (fun state => state.sent.any fun message => message.outgoing.kind = .taggedError)
    (by decide +kernel)
  obtain ⟨message, member, tagged⟩ := List.any_eq_true.mp shown
  exact ⟨state, reached, ⟨message, member, of_decide_eq_true tagged⟩,
    tagged_errors_exact state reached⟩

end BrokenTransfer

end LnpResolver.ErrorReplies

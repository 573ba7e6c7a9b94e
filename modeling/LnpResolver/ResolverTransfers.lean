import Mathlib.Data.List.InsertIdx
import LnpResolver.HttpTransfers
import LnpResolver.PendingTable

/-!
The resolver over the http client with its memory, and that it refines the resolver
over a list of transfers. The resolver's part has no histories: nothing that the
program does not store is read from it. respose_notifier_event_handler hands its
responses over one by one, and a reload of another thread may come between two of them.
-/

namespace LnpResolver.ResolverTransfers

open PackedBytes Transport RequestWire DriverInterface AsyncHttpClient ReplyWire Resolver
  ResolverSteps HttpTransfers

variable {D : Type} [CDriver D]

structure Process (D : Type) where
  resolver : Resolver.State D := {}
  http : HttpTransfers.State := {}
  handing : List HttpResponse := []

def bare (message : Sent D) : Sent D := { message with answered := none, parser := none }

omit [CDriver D] in
@[simp] theorem bare_bare (message : Sent D) : bare (bare message) = bare message := rfl

omit [CDriver D] in
@[simp] theorem bare_reply (reply : Option Outgoing) (serial : Nat) (answered : Option (Queued D))
    (parser : Option D) :
    (reply.map fun outgoing => Sent.mk outgoing serial answered parser).toList.map bare =
      (reply.map fun outgoing => Sent.mk outgoing serial none none).toList := by
  cases reply <;> rfl

/-- A state without the histories and without libcurl's part. -/
def program (state : Resolver.State D) : Resolver.State D :=
  { state with inFlight := [], responseQueue := [], readings := [], sent := state.sent.map bare }

/-- The call of the handler. The transfer of a Queued is a history, made up here. -/
def answerResponse (response : HttpResponse) (state : Resolver.State D) : Resolver.State D :=
  match state.waitingRequests.lookup response.id with
  | none => state
  | some waiting =>
      onHttpResponseReceived
        ⟨response, ⟨⟨response.id, [], .none, none, none, false, 0, []⟩, waiting.request, waiting.issuer⟩⟩
        state

theorem program_datagram (recv : RecvData) (world : World) (state : Resolver.State D) :
    program (onDataReceived recv world (program state)) =
      program (onDataReceived recv world state) := by
  unfold onDataReceived
  simp only [program]
  cases parse recv { serial := state.received.length } with
  | error error half => simp [send]
  | ok _ request =>
      simp only [resolve, send]
      cases state.driversMap.lookup request.dbId with
      | none => simp
      | some driver =>
          by_cases same : CDriver.getDriverType driver ≠ request.type
          · simp [same]
          · simp only [same, if_false]
            cases CDriver.resolve driver world.sip request with
            | threw exception => simp
            | done result => simp [handleRequestIsDone, send]
            | http http =>
                simp only [makeHttpRequest]
                cases AsyncHttpClient.makeRequest world.curl http with
                | error what => simp
                | ok status => by_cases zero : status = 0 <;> simp [zero]

theorem program_response (queued : Queued D) (state : Resolver.State D) :
    program (answerResponse queued.response (program state)) =
      program (onHttpResponseReceived queued state) := by
  unfold answerResponse onHttpResponseReceived
  have table : (program state).waitingRequests = state.waitingRequests := rfl
  rw [table]
  cases found : state.waitingRequests.lookup queued.response.id with
  | none => simp [program]
  | some waiting =>
      simp only [parseResponse, program, found]
      cases state.driversMap.lookup waiting.request.dbId with
      | none => simp [send, sentFor]
      | some driver =>
          by_cases same : CDriver.getDriverType driver ≠ waiting.request.type
          · simp [same, send, sentFor]
          · by_cases failed : queued.response.isSuccess = false
            · simp [same, failed, send, sentFor]
            · simp only [same, failed, if_false]
              cases CDriver.parse driver queued.response.data waiting.request with
              | error exception result => simp [send, sentFor]
              | ok _ result => simp [handleRequestIsDone, send]

inductive Event (D : Type) where
  | datagram (recv : RecvData) (world : World)
  | write (easy : Nat) (chunk : Bytes)
  | finish (easy : Nat) (failure : Option ErrorBuffer)
  | message
  | action
  | notified
  | response
  | configure (load : Load D)

/-- The call of make_request that a datagram leads to. -/
def requested (state : Process D) (recv : RecvData) (world : World) : HttpTransfers.State :=
  match issued state.resolver recv world with
  | none => state.http
  | some (_, request) => (HttpTransfers.makeRequest world.curl request state.http).2

/-- The thread of the dispatcher has one event at a time; the loop over the responses
is one that a reload can come into. -/
def step (state : Process D) : Event D → Option (Process D)
  | .configure load =>
      some { state with resolver := program (Resolver.configure load state.resolver).2 }
  | .response =>
      match state.handing with
      | [] => none
      | response :: rest =>
          some { state with
            resolver := program (answerResponse response state.resolver), handing := rest }
  | .datagram recv world =>
      if state.handing.isEmpty then
        some { state with
          resolver := program (onDataReceived recv world state.resolver)
          http := requested state recv world }
      else none
  | .write easy chunk =>
      if state.handing.isEmpty then some { state with http := writeCb easy chunk state.http } else none
  | .finish easy failure =>
      if state.handing.isEmpty then some { state with http := endTransfer easy failure state.http }
      else none
  | .message =>
      if state.handing.isEmpty then
        some { state with
          http := { state.http with messages := state.http.messages ++ [.other] } }
      else none
  | .action =>
      if state.handing.isEmpty then
        some { state with http := HttpTransfers.checkMultiInfo state.http }
      else none
  | .notified =>
      if state.handing.isEmpty && readable state.http then
        some { state with
          http := resposeNotifierEventHandler state.http, handing := state.http.responseQueue }
      else none

/-- What libcurl promises of its own steps. -/
def Promised (state : Process D) : Event D → Prop
  | .write easy chunk => HttpTransfers.Promised state.http (.write easy chunk)
  | .finish easy failure => HttpTransfers.Promised state.http (.finish easy failure)
  | _ => True

instance (state : Process D) : (event : Event D) → Decidable (Promised state event)
  | .write easy chunk =>
      inferInstanceAs (Decidable (HttpTransfers.Promised state.http (.write easy chunk)))
  | .finish easy failure =>
      inferInstanceAs (Decidable (HttpTransfers.Promised state.http (.finish easy failure)))
  | .datagram _ _ => isTrue trivial
  | .message => isTrue trivial
  | .action => isTrue trivial
  | .notified => isTrue trivial
  | .response => isTrue trivial
  | .configure _ => isTrue trivial

def system (D : Type) [CDriver D] (eventfd link : Bool) :
    LabelledRuns.System (Process D) (Event D) where
  initial := { http := initResposeNotifier eventfd link {} }
  step := step

/-! The http client of a run. -/

theorem http_step {eventfd link : Bool} {state after : Process D} {event : Event D}
    (reached : (HttpTransfers.system eventfd link).Reached HttpTransfers.Promised state.http)
    (promised : Promised state event) (stepped : step state event = some after) :
    (HttpTransfers.system eventfd link).Reached HttpTransfers.Promised after.http := by
  cases event with
  | configure load =>
      cases stepped
      exact reached
  | response =>
      rw [step] at stepped
      split at stepped
      · cases stepped
      · cases stepped
        exact reached
  | datagram recv world =>
      rw [step] at stepped
      split at stepped
      · cases stepped
        simp only [requested]
        split
        · exact reached
        · exact .next (.request world.curl _) reached trivial rfl
      · cases stepped
  | write easy chunk =>
      rw [step] at stepped
      split at stepped
      · cases stepped
        exact .next (.write easy chunk) reached promised rfl
      · cases stepped
  | finish easy failure =>
      rw [step] at stepped
      split at stepped
      · cases stepped
        exact .next (.finish easy failure) reached promised rfl
      · cases stepped
  | message =>
      rw [step] at stepped
      split at stepped
      · cases stepped
        exact .next .message reached trivial rfl
      · cases stepped
  | action =>
      rw [step] at stepped
      split at stepped
      · cases stepped
        exact .next .action reached trivial rfl
      · cases stepped
  | notified =>
      rw [step] at stepped
      split at stepped
      · rename_i idle
        cases stepped
        have reported := (Bool.and_eq_true_iff.mp idle).2
        refine .next .notified reached trivial ?_
        simp only [HttpTransfers.system, HttpTransfers.step, if_pos reported]
      · cases stepped

theorem http_reached {eventfd link : Bool} {state : Process D}
    (reached : (system D eventfd link).Reached Promised state) :
    (HttpTransfers.system eventfd link).Reached HttpTransfers.Promised state.http :=
  LabelledRuns.reached_invariant (system D eventfd link) Promised
    (fun state => (HttpTransfers.system eventfd link).Reached HttpTransfers.Promised state.http)
    .initial (fun _ _ _ => http_step) reached

/-! The refinement. -/

/-- libcurl has the transfers of the list, and the queue is split by the running loop. -/
structure Refines (state : Process D) (abstract : Resolver.State D) : Prop where
  same : program abstract = state.resolver
  transfers : abstract.inFlight.map (fun transfer => some transfer.http) =
    state.http.multi.map state.http.requests
  responses : abstract.responseQueue.map Queued.response = state.handing ++ state.http.responseQueue

def newTransfers (curl : Curl) : Option (D × HttpRequest) → List HttpRequest
  | none => []
  | some (_, request) => if takesOver curl request then [request] else []

theorem received_flight {state after : Resolver.State D} {recv : RecvData} {world : World}
    (received : Received state recv world after) :
    after.inFlight.map Transfer.http =
      state.inFlight.map Transfer.http ++ newTransfers world.curl (issued state recv world) := by
  cases received with
  | rejected malformed => simp [logged, issued, malformed, newTransfers]
  | refused wellFormed absent =>
      have none : issued state recv world = none := by
        unfold issued
        rw [if_pos wellFormed]
        split
        · rfl
        · rename_i driver found
          rw [if_neg (absent driver found)]
      simp [logged, none, newTransfers]
  | threw wellFormed driver serves exception resolved =>
      simp [logged, issued, wellFormed, serves.1, serves.2, resolved, newTransfers]
  | done wellFormed driver serves result resolved =>
      simp [logged, issued, wellFormed, serves.1, serves.2, resolved, newTransfers]
  | dispatchThrew wellFormed driver serves http resolved what failed =>
      simp [logged, issued_http state recv world driver http wellFormed serves resolved, newTransfers,
        takesOver, failed]
  | dispatchFailed wellFormed driver serves http resolved status failed other =>
      simp [logged, issued_http state recv world driver http wellFormed serves resolved, newTransfers,
        takesOver, failed, other]
  | dispatched wellFormed driver serves http resolved handed =>
      simp [issued_http state recv world driver http wellFormed serves resolved, newTransfers,
        takesOver, handed]

theorem called_multi {messages : List Message} {curl : Curl} {request : HttpRequest}
    {state after : HttpTransfers.State} (sound : Sound messages state)
    (called : Called curl request state after) :
    after.multi.map after.requests =
      state.multi.map state.requests ++ if takesOver curl request then [some request] else [] := by
  have same : takesOver curl request = started curl request := rfl
  rw [same]
  cases called with
  | unavailable failed =>
      have none : started curl request = false := by rw [started_eq, failed]; rfl
      simp [none]
  | refused privateData available failed others => simp [abandoned, failed]
  | started available all =>
      have others : state.multi.map (added curl request state).requests =
          state.multi.map state.requests := by
        refine List.map_congr_left fun easy member => Function.update_of_ne ?_ _ _
        rintro rfl
        exact sound.newHandle (Nat.le_refl _) member
      have multi : (added curl request state).multi = state.multi ++ [state.fresh] := rfl
      rw [multi, List.map_append, others, all]
      simp [added]

theorem requested_transfers {state : Process D} {abstract : Resolver.State D}
    (refines : Refines state abstract) (sound : Sound state.http.messages state.http)
    (recv : RecvData) (world : World) :
    (onDataReceived recv world abstract).inFlight.map (fun transfer => some transfer.http) =
      (requested state recv world).multi.map (requested state recv world).requests := by
  have flight := received_flight (datagram_received recv world abstract)
  have issue : issued abstract recv world = issued state.resolver recv world := by
    rw [← refines.same]
    rfl
  have some_http : ∀ transfers : List (Transfer D),
      transfers.map (fun transfer => some transfer.http) = (transfers.map Transfer.http).map some :=
    fun transfers => (List.map_map ..).symm
  have transfers := refines.transfers
  rw [some_http] at transfers ⊢
  rw [flight, List.map_append, transfers, issue, requested]
  cases issued state.resolver recv world with
  | none => simp [newTransfers]
  | some found =>
      obtain ⟨driver, request⟩ := found
      simp only [called_multi sound (sound.called world.curl request), newTransfers]
      split <;> rfl

theorem call_queue {curl : Curl} {request : HttpRequest} {state after : HttpTransfers.State}
    (called : Called curl request state after) : after.responseQueue = state.responseQueue := by
  cases called <;> rfl

theorem requested_queue {state : Process D} (sound : Sound state.http.messages state.http)
    (recv : RecvData) (world : World) :
    (requested state recv world).responseQueue = state.http.responseQueue := by
  unfold requested
  split
  · rfl
  · rename_i driver request issue
    exact call_queue (sound.called world.curl request)

/-- A message is the transferDone event of its handle's place. -/
theorem closed_refines {http : HttpTransfers.State} {abstract : Resolver.State D} {easy : Nat}
    {request : HttpRequest} {conn : ConnInfo} (entry : Entry http easy request conn)
    (member : easy ∈ http.multi) (success : Bool)
    (reachable : (Resolver.system D).Reachable abstract)
    (transfers : abstract.inFlight.map (fun transfer => some transfer.http) =
      http.multi.map http.requests)
    (responses : abstract.responseQueue.map Queued.response = http.responseQueue) :
    ∃ later, (Resolver.system D).Reachable later ∧ program later = program abstract ∧
      later.inFlight.map (fun transfer => some transfer.http) =
        (http.multi.erase easy).map http.requests ∧
      later.responseQueue.map Queued.response = http.responseQueue ++ [responseOf conn success] := by
  have place := List.idxOf_lt_length_of_mem member
  have lengths := congrArg List.length transfers
  rw [List.length_map, List.length_map] at lengths
  have bound : http.multi.idxOf easy < abstract.inFlight.length := lengths ▸ place
  have own : (abstract.inFlight[http.multi.idxOf easy]).http = request := by
    have at_place := congrArg (fun list => list[http.multi.idxOf easy]?) transfers
    simp only [List.getElem?_map, List.getElem?_eq_getElem bound, List.getElem?_eq_getElem place,
      Option.map_some, List.getElem_idxOf, entry.requested] at at_place
    exact Option.some.inj (Option.some.inj at_place)
  let result : TransferResult := if success then .ok conn.response else .failed conn.error
  have response : result.response (abstract.inFlight[http.multi.idxOf easy]).http.id =
      responseOf conn success := by
    rw [own, ← entry.id]
    cases success <;> rfl
  let later : Resolver.State D :=
    { abstract with
      inFlight := abstract.inFlight.eraseIdx (http.multi.idxOf easy)
      responseQueue := abstract.responseQueue ++
        [⟨responseOf conn success, abstract.inFlight[http.multi.idxOf easy]⟩] }
  have stepped : (Resolver.system D).step abstract (.transferDone (http.multi.idxOf easy) result) =
      some later := by
    simp only [Resolver.system, Resolver.step, Resolver.checkMultiInfo,
      List.getElem?_eq_getElem bound, response, later]
  refine ⟨later, .next _ reachable trivial stepped, rfl, ?_, ?_⟩
  · simp only [later]
    rw [List.erase_eq_eraseIdx_of_idxOf rfl, ← List.eraseIdx_map, transfers, List.eraseIdx_map]
  · simp only [later, List.map_append, responses, List.map_cons, List.map_nil]

theorem checkMessages_refines (messages : List Message) {http : HttpTransfers.State}
    {abstract : Resolver.State D} (sound : Sound messages http)
    (reachable : (Resolver.system D).Reachable abstract)
    (transfers : abstract.inFlight.map (fun transfer => some transfer.http) =
      http.multi.map http.requests)
    (responses : abstract.responseQueue.map Queued.response = http.responseQueue) :
    ∃ later, (Resolver.system D).Reachable later ∧ program later = program abstract ∧
      later.inFlight.map (fun transfer => some transfer.http) =
        (checkMessages messages http).multi.map (checkMessages messages http).requests ∧
      later.responseQueue.map Queued.response = (checkMessages messages http).responseQueue := by
  induction messages generalizing http abstract with
  | nil => exact ⟨abstract, reachable, rfl, transfers, responses⟩
  | cons message messages ih =>
      have next := checkMessage_sound sound
      cases message with
      | other => exact ih next reachable transfers responses
      | done easy success =>
          have member := sound.pending easy success List.mem_cons_self
          obtain ⟨request, conn, entry⟩ := sound.entries easy member
          obtain ⟨later, reached, same, flight, queue⟩ :=
            closed_refines entry member success reachable transfers responses
          have closes := checkMessage_closed entry success
          obtain ⟨last, lastReached, lastSame, lastFlight, lastQueue⟩ :=
            ih next reached (by rw [closes]; exact flight) (by rw [closes]; exact queue)
          exact ⟨last, lastReached, lastSame.trans same, lastFlight, lastQueue⟩

/-- Every step of the process is a run of the abstract resolver. -/
theorem refines_step {state after : Process D} {event : Event D} {abstract : Resolver.State D}
    (sound : Sound state.http.messages state.http)
    (reachable : (Resolver.system D).Reachable abstract) (refines : Refines state abstract)
    (stepped : step state event = some after) (promised : Promised state event) :
    ∃ later, (Resolver.system D).Reachable later ∧ Refines after later := by
  cases event with
  | configure load =>
      cases stepped
      have same : program (Resolver.configure load abstract).2 =
          program (Resolver.configure load state.resolver).2 := by
        rw [← refines.same]
        simp only [Resolver.configure]
        cases loadResolveDrivers load <;> simp [program]
      have kept : (Resolver.configure load abstract).2.inFlight = abstract.inFlight ∧
          (Resolver.configure load abstract).2.responseQueue = abstract.responseQueue := by
        simp only [Resolver.configure]
        cases loadResolveDrivers load <;> exact ⟨rfl, rfl⟩
      exact ⟨_, .next (.configure load) reachable trivial rfl, same, kept.1 ▸ refines.transfers,
        kept.2 ▸ refines.responses⟩
  | response =>
      rw [step] at stepped
      split at stepped
      · cases stepped
      · rename_i response rest handing
        cases stepped
        have responses := refines.responses
        rw [handing] at responses
        obtain ⟨queued, others, shape, first, tail⟩ := List.map_eq_cons_iff.mp responses
        let popped : Resolver.State D := { abstract with responseQueue := others }
        have stepped : (Resolver.system D).step abstract .response =
            some (onHttpResponseReceived queued popped) := by
          simp only [Resolver.system, Resolver.step, takeResponse, shape, popped]
        obtain ⟨received, flight, queue, drivers⟩ := answered_frame (response_answered queued popped)
        refine ⟨_, .next .response reachable trivial stepped, ?_, ?_, ?_⟩
        · rw [← program_response, first, ← refines.same]
          rfl
        · rw [flight]
          exact refines.transfers
        · rw [queue]
          exact tail
  | datagram recv world =>
      rw [step] at stepped
      split at stepped
      · cases stepped
        have queue := (received_frame (datagram_received recv world abstract)).2.1
        refine ⟨_, .next (.datagram recv world) reachable trivial rfl, ?_, ?_, ?_⟩
        · rw [← program_datagram, refines.same]
        · exact requested_transfers refines sound recv world
        · rw [queue, requested_queue sound]
          exact refines.responses
      · cases stepped
  | write easy chunk =>
      rw [step] at stepped
      split at stepped
      · cases stepped
        obtain ⟨request, conn, entry⟩ := sound.entries easy promised.1.1
        rw [writeCb_edited entry]
        exact ⟨abstract, reachable, refines.same, refines.transfers, refines.responses⟩
      · cases stepped
  | finish easy failure =>
      rw [step] at stepped
      split at stepped
      · cases stepped
        obtain ⟨request, conn, entry⟩ := sound.entries easy promised.1
        rw [endTransfer_edited entry]
        exact ⟨abstract, reachable, refines.same, refines.transfers, refines.responses⟩
      · cases stepped
  | message =>
      rw [step] at stepped
      split at stepped
      · cases stepped
        exact ⟨abstract, reachable, refines.same, refines.transfers, refines.responses⟩
      · cases stepped
  | action =>
      rw [step] at stepped
      split at stepped
      · rename_i idle
        cases stepped
        have empty : state.handing = [] := List.isEmpty_iff.mp idle
        have responses := refines.responses
        rw [empty, List.nil_append] at responses
        obtain ⟨later, reached, same, flight, queue⟩ :=
          checkMessages_refines state.http.messages (sound.relabelled []) reachable
            refines.transfers responses
        refine ⟨later, reached, same.trans refines.same, flight, ?_⟩
        rw [queue, empty, List.nil_append]
        rfl
      · cases stepped
  | notified =>
      rw [step] at stepped
      split at stepped
      · rename_i idle
        cases stepped
        have empty : state.handing = [] := List.isEmpty_iff.mp (Bool.and_eq_true_iff.mp idle).1
        have responses := refines.responses
        rw [empty, List.nil_append] at responses
        rw [resposeNotifierEventHandler_eq (Bool.and_eq_true_iff.mp idle).2]
        refine ⟨abstract, reachable, refines.same, refines.transfers, ?_⟩
        rw [responses]
        exact (List.append_nil _).symm
      · cases stepped

/-- With the memory of the http client the resolver is the resolver over a list of
transfers: in every run of the process libcurl's handles are the transfers of a state
that the resolver reaches, with its table, driver map, counters and datagrams. -/
theorem process_refines_resolver {eventfd link : Bool} {state : Process D}
    (reached : (system D eventfd link).Reached Promised state) :
    (HttpTransfers.system eventfd link).Reached HttpTransfers.Promised state.http ∧
      ∃ abstract, (Resolver.system D).Reachable abstract ∧ Refines state abstract := by
  refine ⟨http_reached reached, ?_⟩
  refine LabelledRuns.reached_invariant_given (system D eventfd link) Promised
    (fun state => Sound state.http.messages state.http)
    (fun state => ∃ abstract, (Resolver.system D).Reachable abstract ∧ Refines state abstract)
    (fun state known => sound_reached (http_reached known)) ?_ ?_ reached
  · refine ⟨_, .initial, ?_⟩
    cases eventfd <;> exact ⟨rfl, rfl, rfl⟩
  · rintro before event after sound ⟨abstract, reachable, refines⟩ promised stepped
    exact refines_step sound reachable refines stepped promised

section OneLookup

open JsonItems Drivers PendingTable

attribute [local instance] thinqJson

/-- A lookup whose body comes in two chunks; the drivers are loaded again before the
response is handed over. -/
def oneLookup : List (Event Driver) :=
  [.configure (.rows [.driver thinq]),
    .datagram (recvData 3 firstClient (encode 7 1 .tagged (bytesOf "1"))) working,
    .write 0 (thinqReply.take 4), .write 0 (thinqReply.drop 4), .finish 0 none, .action, .notified,
    .configure (.rows [.driver thinq]), .response]

theorem process_refines_one_lookup : ∃ state, (system Driver true true).Reached Promised state ∧
    state.resolver.sent.length = 2 ∧
    (HttpTransfers.system true true).Reached HttpTransfers.Promised state.http ∧
      ∃ abstract, (Resolver.system Driver).Reachable abstract ∧ Refines state abstract := by
  obtain ⟨state, reached, shown⟩ := LabelledRuns.run_when_shows (system Driver true true) Promised oneLookup
    (fun state => state.resolver.sent.length = 2) (by decide +kernel)
  exact ⟨state, reached, of_decide_eq_true shown, process_refines_resolver reached⟩

end OneLookup

end LnpResolver.ResolverTransfers

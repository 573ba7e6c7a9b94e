import LnpResolver.PendingTable

/-!
Which driver reads a response. parse_response looks the driver up again by the
database id of the pending request and compares only its kind, so the driver
that issued the transfer reads the response as long as no reload puts another
driver of that kind under the id of an unfinished request.
-/

namespace LnpResolver.IssuingDriver

open PackedBytes Transport RequestWire DriverInterface AsyncHttpClient ReplyWire Resolver
  ResolverSteps PendingTable

variable {D : Type} [CDriver D]

/-- Under the database id of every unfinished transfer the new map has the
issuer itself, a driver of the other kind, or nothing. -/
def KeepsIssuers (state : State D) : Option (Database D) → Prop
  | none => True
  | some map => ∀ transfer ∈ unfinished state, ∀ driver ∈ map.lookup transfer.request.dbId,
      CDriver.getDriverType driver = transfer.request.type → driver = transfer.issuer

def StableDrivers (state : State D) : Event D → Prop
  | .configure load => KeepsIssuers state (loadResolveDrivers load)
  | event => Undisturbed state event

theorem stable_undisturbed (state : State D) (event : Event D) (stable : StableDrivers state event) :
    Undisturbed state event := by
  cases event with
  | datagram | transferDone | response => exact stable
  | configure => trivial

/-- The driver map leads from every unfinished transfer to its issuer or nowhere. -/
def LeadsBack (state : State D) : Prop :=
  ∀ transfer ∈ unfinished state, ∀ driver,
    Serves state.driversMap transfer.request driver → driver = transfer.issuer

theorem leads_back_received {state after : State D} {recv : RecvData} {world : World}
    (received : Received state recv world after) (leads : LeadsBack state) : LeadsBack after := by
  obtain ⟨_, queue, map, _⟩ := received_frame received
  intro transfer member driver serves
  rw [map] at serves
  cases received_pends received with
  | nothing _ flight | stored _ _ _ _ _ _ _ flight =>
      rw [unfinished, flight, queue] at member
      exact leads transfer member driver serves
  | started issuer http _ _ issues _ _ flight =>
      rw [unfinished, flight, queue] at member
      rcases unfinished_started member with old | rfl
      · exact leads transfer old driver serves
      · exact serves_unique serves (issued_serves issues)

theorem leads_back_step {state after : State D} {event : Event D}
    (stepped : Stepped state event after) (stable : StableDrivers state event)
    (leads : LeadsBack state) : LeadsBack after := by
  cases stepped with
  | datagram recv world _ received => exact leads_back_received received leads
  | transferDone index result transfer inside =>
      have moved := unfinished_done state index result transfer inside
      exact fun other member => leads other (moved.mem_iff.mp member)
  | response queued rest front _ answered =>
      intro transfer member driver serves
      rw [(answered_frame answered).2.2.2] at serves
      exact leads transfer (answered_unfinished front answered member) driver serves
  | configure load =>
      unfold configure
      cases loaded : loadResolveDrivers load with
      | none => exact leads
      | some map =>
          intro transfer member driver serves
          have keeps : KeepsIssuers state (some map) := loaded ▸ stable
          exact keeps transfer member driver serves.1 serves.2

theorem leads_back_reached {state : State D} (reached : (system D).Reached StableDrivers state) :
    LeadsBack state :=
  LabelledRuns.reached_invariant (system D) StableDrivers LeadsBack
    (by simp [LeadsBack, system, unfinished])
    (fun _ _ _ leads stable stepped => leads_back_step (step_stepped stepped) stable leads) reached

def ReadByIssuer (message : Sent D) : Prop :=
  ∀ queued, message.answered = some queued →
    message.outgoing.kind.isResult = true → message.parser = some queued.transfer.issuer

/-- The reply to a response: the result of the driver that asked for it, as long as that
one serves the request, or an error. -/
structure IssuersReply (map : Database D) (queued : Queued D) (request : ResolverRequest)
    (message : Sent D) : Prop where
  answered : message.answered = some queued
  client : message.outgoing.clientInfo = request.clientInfo
  carriesId : message.outgoing.CarriesId request.id
  result : message.outgoing.kind.isResult = true →
    Serves map request queued.transfer.issuer ∧ message.parser = some queued.transfer.issuer ∧
      ∃ result, CDriver.parse queued.transfer.issuer queued.response.data request = .ok () result ∧
        sendReply { request with result := result, isDone := true } = some message.outgoing
  error : message.outgoing.kind.isResult = false →
    ∃ error, sendErrorReply request error = some message.outgoing
  gone : ¬ Serves map request queued.transfer.issuer →
    ∃ error, sendErrorReply request error = some message.outgoing

def RepliesOnce (state : State D) (queued : Queued D) (waiting : Waiting D) : Prop :=
  ∃ after message, step state .response = some after ∧ after.sent = state.sent ++ [message] ∧
    IssuersReply state.driversMap queued waiting.request message

/-- Every parse is that of the driver that asked, no other one's result is sent, and the
response that is next gets its one reply if its request is still waiting. -/
structure IssuersRead (state : State D) : Prop where
  readings : ∀ reading ∈ state.readings, reading.driver = reading.queued.transfer.issuer
  results : ∀ message ∈ state.sent, ReadByIssuer message
  replies : ∀ queued rest waiting, state.responseQueue = queued :: rest →
    state.waitingRequests.lookup queued.response.id = some waiting →
    RepliesOnce state queued waiting

theorem server_issued {state : State D} (kept : Bookkeeping state) (matched : Matched state)
    (leads : LeadsBack state) {queued : Queued D} (member : queued ∈ state.responseQueue)
    {waiting : Waiting D} {driver : D}
    (found : state.waitingRequests.lookup queued.response.id = some waiting)
    (serves : Serves state.driversMap waiting.request driver) :
    driver = queued.transfer.issuer := by
  have pending : queued.transfer ∈ unfinished state :=
    List.mem_append_right _ (List.mem_map_of_mem member)
  have same : SameRequest waiting.request queued.transfer.request :=
    matched queued.transfer pending waiting (kept.responses queued member ▸ found)
  obtain ⟨_, _, database, kind, _⟩ := same
  exact leads queued.transfer pending driver ⟨database ▸ serves.1, kind ▸ serves.2⟩

theorem readings_step {state after : State D} {event : Event D}
    (stepped : Stepped state event after) (kept : Bookkeeping state) (matched : Matched state)
    (leads : LeadsBack state)
    (read : ∀ reading ∈ state.readings, reading.driver = reading.queued.transfer.issuer) :
    ∀ reading ∈ after.readings, reading.driver = reading.queued.transfer.issuer := by
  cases stepped with
  | datagram recv world _ received =>
      obtain ⟨_, _, _, readings⟩ := received_frame received
      exact readings ▸ read
  | transferDone => exact read
  | response queued rest front _ answered =>
      rcases answered_readings answered with same | ⟨waiting, driver, found, serves, more⟩
      · exact same ▸ read
      · intro reading inside
        rw [more] at inside
        rcases List.mem_append.mp inside with old | new
        · exact read reading old
        · rw [List.mem_singleton.mp new]
          exact server_issued kept matched leads (front ▸ List.mem_cons_self) found serves
  | configure load =>
      obtain ⟨map, swapped⟩ := configure_swaps load state
      rw [swapped]
      exact read

theorem computed_read_by_issuer {state : State D} (kept : Bookkeeping state)
    (matched : Matched state) (leads : LeadsBack state) {queued : Queued D}
    (member : queued ∈ state.responseQueue) {waiting : Waiting D}
    (found : state.waitingRequests.lookup queued.response.id = some waiting) {message : Sent D}
    (computed : Computed state.driversMap queued waiting.request message) :
    ReadByIssuer message := by
  intro other answered isResult
  cases computed with
  | error error outgoing reply =>
      rw [error_reply_no_result _ _ _ reply] at isResult
      cases isResult
  | result driver serves =>
      cases answered
      exact congrArg some (server_issued kept matched leads member found serves)

theorem results_step {state after : State D} {event : Event D}
    (stepped : Stepped state event after) (kept : Bookkeeping state) (matched : Matched state)
    (leads : LeadsBack state) (read : ∀ message ∈ state.sent, ReadByIssuer message) :
    ∀ message ∈ after.sent, ReadByIssuer message := by
  intro message member
  cases stepped_sent stepped member with
  | earlier old => exact read message old
  | immediate recv world immediate =>
      intro queued answered
      simp [immediate.unanswered] at answered
  | computed queued inside waiting found computed =>
      exact computed_read_by_issuer kept matched leads inside found computed

theorem result_reply_kind {request : ResolverRequest} {outgoing : Outgoing}
    (sent : sendReply request = some outgoing) : outgoing.kind.isResult = true := by
  unfold sendReply at sent
  split at sent
  · cases sent
    rfl
  · split at sent
    · cases sent
      rfl
    · cases sent

theorem computed_issuers_reply {state : State D} (kept : Bookkeeping state)
    (matched : Matched state) (leads : LeadsBack state) {queued : Queued D}
    (member : queued ∈ state.responseQueue) {waiting : Waiting D}
    (found : state.waitingRequests.lookup queued.response.id = some waiting) {message : Sent D}
    (computed : Computed state.driversMap queued waiting.request message) :
    IssuersReply state.driversMap queued waiting.request message := by
  obtain ⟨-, answered, client, carriesId⟩ := computed_spec computed
  cases computed with
  | error error outgoing reply =>
      refine ⟨answered, client, carriesId, ?_, fun _ => ⟨error, reply⟩, fun _ => ⟨error, reply⟩⟩
      intro isResult
      rw [error_reply_no_result _ _ _ reply] at isResult
      cases isResult
  | result driver serves result read outgoing reply =>
      have issuer := server_issued kept matched leads member found serves
      subst issuer
      refine ⟨answered, client, carriesId, fun _ => ⟨serves, rfl, result, read, reply⟩, ?_,
        fun gone => absurd serves gone⟩
      intro noResult
      rw [result_reply_kind reply] at noResult
      cases noResult

theorem replies_once {state : State D} (kept : Bookkeeping state) (matched : Matched state)
    (leads : LeadsBack state) (queued : Queued D) (rest : List (Queued D)) (waiting : Waiting D)
    (front : state.responseQueue = queued :: rest)
    (found : state.waitingRequests.lookup queued.response.id = some waiting) :
    RepliesOnce state queued waiting := by
  have typed : waiting.request.type = taggedReqVersion ∨ waiting.request.type = cnamReqVersion := by
    obtain ⟨recv, _, wellFormed, same⟩ := kept.entries _ waiting found
    exact same ▸ accepted_type recv _ wellFormed
  have taken : step state .response =
      some (onHttpResponseReceived queued { state with responseQueue := rest }) := by
    simp only [step, takeResponse, front]
  obtain ⟨message, sent, computed⟩ :=
    answered_once (response_answered queued { state with responseQueue := rest }) found typed
  exact ⟨_, message, taken, sent,
    computed_issuers_reply kept matched leads (front ▸ List.mem_cons_self) found computed⟩

/-- In every run with stable drivers each response is read by the driver that
asked for it, or answered with an error. -/
theorem responses_read_by_issuer (state : State D)
    (reached : (system D).Reached StableDrivers state) : IssuersRead state := by
  have known : ∀ state, (system D).Reached StableDrivers state →
      Bookkeeping state ∧ Matched state ∧ LeadsBack state :=
    fun _ earlier => ⟨bookkeeping_reached earlier,
      matched_reached (LabelledRuns.reached_weaken (system D) stable_undisturbed earlier),
      leads_back_reached earlier⟩
  obtain ⟨kept, matched, leads⟩ := known state reached
  refine ⟨?_, ?_, replies_once kept matched leads⟩
  · exact LabelledRuns.reached_invariant_given (system D) StableDrivers _
      (fun state => ∀ reading ∈ state.readings, reading.driver = reading.queued.transfer.issuer)
      known (by simp [system])
      (fun _ _ _ earlier read _ stepped =>
        readings_step (step_stepped stepped) earlier.1 earlier.2.1 earlier.2.2 read) reached
  · exact LabelledRuns.reached_invariant_given (system D) StableDrivers _
      (fun state => ∀ message ∈ state.sent, ReadByIssuer message) known (by simp [system])
      (fun _ _ _ earlier read _ stepped =>
        results_step (step_stepped stepped) earlier.1 earlier.2.1 earlier.2.2 read) reached

section Reload

open JsonItems Drivers

attribute [local instance] thinqJson

instance (state : State Driver) : (map : Option (Database Driver)) → Decidable (KeepsIssuers state map)
  | none => isTrue trivial
  | some map => inferInstanceAs (Decidable (∀ transfer ∈ unfinished state,
      ∀ driver ∈ map.lookup transfer.request.dbId,
        CDriver.getDriverType driver = transfer.request.type → driver = transfer.issuer))

instance (state : State Driver) : (event : Event Driver) → Decidable (StableDrivers state event)
  | .configure load => inferInstanceAs (Decidable (KeepsIssuers state (loadResolveDrivers load)))
  | .datagram recv world => inferInstanceAs (Decidable (Undisturbed state (.datagram recv world)))
  | .transferDone _ _ => isTrue trivial
  | .response => isTrue trivial

def csv : Driver := .mhashCsv { uniqId := 1, hash := ∅ }

/-- Of three lookups the first is answered by the reloaded driver; then the driver is gone. -/
def reloads : List (Event Driver) :=
  [.configure (.rows [.driver csv]), .configure (.rows [.driver thinq]), ask firstClient 7 "2",
    ask firstClient 8 "2", ask firstClient 9 "2", .configure (.rows [.unsupported, .driver thinq]),
    .transferDone 0 (.ok thinqReply), .response, .configure (.rows []),
    .transferDone 0 (.ok thinqReply), .response, .transferDone 0 (.ok thinqReply)]

theorem responses_read_by_issuer_reload : ∃ state, (system Driver).Reached StableDrivers state ∧
    (∃ message ∈ state.sent, message.parser.isSome = true) ∧
    (∃ message ∈ state.sent,
      (message.answered.isSome && !message.outgoing.kind.isResult) = true) ∧
    state.responseQueue.isEmpty = false ∧ IssuersRead state := by
  obtain ⟨state, reached, shown⟩ := LabelledRuns.run_when_shows (system Driver) StableDrivers reloads
    (fun state => (state.sent.any fun message => message.parser.isSome) &&
      (state.sent.any fun message => message.answered.isSome && !message.outgoing.kind.isResult) &&
      !state.responseQueue.isEmpty) (by decide +kernel)
  simp only [Bool.and_eq_true, Bool.not_eq_true'] at shown
  obtain ⟨⟨result, error⟩, waiting⟩ := shown
  exact ⟨state, reached, List.any_eq_true.mp result, by simpa using List.any_eq_true.mp error, waiting,
    responses_read_by_issuer state reached⟩

/-- A success reply with an empty routing number: the number table "read" the
answer of the ThinQ provider. -/
def misread (state : State Driver) : Bool :=
  state.sent.any fun message =>
    message.outgoing.payload = [7, 0, 0, 0, 0, 0, 0] && message.outgoing.kind.isResult &&
    message.answered.any fun queued => message.parser ≠ some queued.transfer.issuer

theorem reload_misreads_response : ∃ state, (system Driver).Reachable state ∧
    misread state = true ∧ ¬ IssuersRead state := by
  obtain ⟨state, reached, shown⟩ := LabelledRuns.run_when_shows (system Driver) (fun _ _ => True)
    [.configure (.rows [.driver thinq]), ask firstClient 7 "2", .configure (.rows [.driver csv]),
      .transferDone 0 (.ok thinqReply), .response]
    misread (by decide +kernel)
  refine ⟨state, reached, shown, ?_⟩
  intro read
  obtain ⟨message, member, facts⟩ := List.any_eq_true.mp shown
  simp only [Bool.and_eq_true, Option.any_eq_true, decide_eq_true_eq] at facts
  obtain ⟨⟨_, isResult⟩, queued, answered, other⟩ := facts
  exact other (read.results message member queued answered isResult)

end Reload

end LnpResolver.IssuingDriver

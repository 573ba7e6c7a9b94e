import Mathlib.Data.List.Perm.Basic
import LnpResolver.ResolverSteps

/-!
The pending table against the transfers. The table is keyed by the id a client
chose and `emplace` keeps an older entry, so a response finds the right request
only while no two different requests share an id. `Undisturbed` states that
condition on the state before a datagram; under it every answered response goes
to the request whose URL was fetched.
-/

namespace LnpResolver.PendingTable

open PackedBytes Transport RequestWire DriverInterface AsyncHttpClient ReplyWire Resolver
  ResolverSteps

variable {D : Type} [CDriver D]

/-- The transfers whose response has not been taken from the queue yet. -/
def unfinished (state : State D) : List (Transfer D) :=
  state.inFlight ++ state.responseQueue.map Queued.transfer

/-- The request is the parse of the datagram received under its serial number. -/
def Accepted (received : List RecvData) (request : ResolverRequest) : Prop :=
  ∃ recv, received[request.serial]? = some recv ∧ WellFormed recv ∧
    request = accepted recv { serial := request.serial }

/-- The URL of the transfer was built by its issuer from its request. -/
def BuiltFor (transfer : Transfer D) : Prop :=
  ∃ sip, CDriver.resolve transfer.issuer sip transfer.request = .http transfer.http

structure Bookkeeping (state : State D) : Prop where
  keys : ∀ id waiting, state.waitingRequests.lookup id = some waiting → waiting.request.id = id
  entries : ∀ id waiting, state.waitingRequests.lookup id = some waiting →
    Accepted state.received waiting.request
  transfers : ∀ transfer ∈ unfinished state, Accepted state.received transfer.request
  built : ∀ transfer ∈ unfinished state, BuiltFor transfer
  responses : ∀ queued ∈ state.responseQueue, queued.response.id = queued.transfer.http.id

omit [CDriver D] in
theorem accepted_later {received : List RecvData} {request : ResolverRequest} (more : List RecvData)
    (known : Accepted received request) : Accepted (received ++ more) request := by
  obtain ⟨recv, found, rest⟩ := known
  obtain ⟨inside, _⟩ := List.getElem?_eq_some_iff.mp found
  exact ⟨recv, by rw [List.getElem?_append_left inside, found], rest⟩

omit [CDriver D] in
theorem admitted_accepted (state : State D) (recv : RecvData) (wellFormed : WellFormed recv) :
    Accepted (state.received ++ [recv]) (admitted state recv) :=
  ⟨recv, List.getElem?_concat_length, wellFormed, rfl⟩

theorem built_id {transfer : Transfer D} (built : BuiltFor transfer) :
    transfer.http.id = transfer.request.id := by
  obtain ⟨sip, resolved⟩ := built
  exact CDriver.resolve_id _ _ _ _ resolved

omit [CDriver D] in
/-- An entry of the table after storing is an old one, or the new one under a
key that was free. -/
theorem filed_lookup {state : State D} {recv : RecvData} {driver : D} {id : UInt32}
    {waiting : Waiting D} (found : (filed state recv driver).lookup id = some waiting) :
    state.waitingRequests.lookup id = some waiting ∨
      (state.waitingRequests.lookup id = none ∧ id = (admitted state recv).id ∧
        waiting = ⟨admitted state recv, driver⟩) := by
  by_cases same : id = (admitted state recv).id
  · subst same
    cases old : state.waitingRequests.lookup (admitted state recv).id with
    | some entry =>
        rw [filed, emplace_present _ _ _ old] at found
        exact Or.inl (old ▸ found)
    | none =>
        rw [filed, emplace_absent _ _ _ old, AList.lookup_insert] at found
        exact Or.inr ⟨rfl, rfl, (Option.some.inj found).symm⟩
  · rw [filed, emplace_lookup_other _ _ _ _ same] at found
    exact Or.inl found

omit [CDriver D] in
theorem erase_lookup {table : AList (fun _ : UInt32 => Waiting D)} {key id : UInt32}
    {waiting : Waiting D} (found : (table.erase key).lookup id = some waiting) :
    id ≠ key ∧ table.lookup id = some waiting := by
  by_cases same : id = key
  · subst same
    simp [AList.lookup_erase] at found
  · exact ⟨same, by rwa [AList.lookup_erase_ne same] at found⟩

omit [CDriver D] in
/-- A finished transfer only moves from the multi handle to the queue. -/
theorem unfinished_done (state : State D) (index : Nat) (result : TransferResult)
    (transfer : Transfer D) (inside : state.inFlight[index]? = some transfer) :
    (state.inFlight.eraseIdx index ++ (state.responseQueue ++
        [(⟨result.response transfer.http.id, transfer⟩ : Queued D)]).map Queued.transfer).Perm
      (unfinished state) := by
  obtain ⟨bound, same⟩ := List.getElem?_eq_some_iff.mp inside
  have front : (transfer :: state.inFlight.eraseIdx index).Perm state.inFlight :=
    same ▸ List.getElem_cons_eraseIdx_perm bound
  simp only [List.map_append, List.map_cons, List.map_nil, unfinished]
  rw [← List.append_assoc]
  exact (List.perm_append_singleton _ _).trans (front.append_right _)

omit [CDriver D] in
theorem unfinished_started {state : State D} {transfer new : Transfer D}
    (member : transfer ∈ state.inFlight ++ [new] ++ state.responseQueue.map Queued.transfer) :
    transfer ∈ unfinished state ∨ transfer = new := by
  simp only [List.mem_append, List.mem_singleton, unfinished] at member ⊢
  tauto

-- Answering takes one transfer off the queue and starts none.
theorem answered_unfinished {state after : State D} {queued : Queued D} {rest : List (Queued D)}
    {transfer : Transfer D} (front : state.responseQueue = queued :: rest)
    (answered : Answered { state with responseQueue := rest } queued after)
    (member : transfer ∈ unfinished after) : transfer ∈ unfinished state := by
  obtain ⟨_, flight, queue, _⟩ := answered_frame answered
  rw [unfinished, flight, queue] at member
  rw [unfinished, front]
  simp only [List.map_cons, List.mem_append, List.mem_cons] at member ⊢
  tauto

theorem bookkeeping_received {state after : State D} {recv : RecvData} {world : World}
    (received : Received state recv world after) (kept : Bookkeeping state) : Bookkeeping after := by
  obtain ⟨log, queue, _⟩ := received_frame received
  have stored : ∀ driver, WellFormed recv → after.waitingRequests = filed state recv driver →
      (∀ id waiting, after.waitingRequests.lookup id = some waiting → waiting.request.id = id) ∧
      ∀ id waiting, after.waitingRequests.lookup id = some waiting →
        Accepted after.received waiting.request := by
    intro driver wellFormed table
    rw [table, log]
    constructor
    · intro id waiting found
      rcases filed_lookup found with old | ⟨_, same, rfl⟩
      · exact kept.keys id waiting old
      · exact same.symm
    · intro id waiting found
      rcases filed_lookup found with old | ⟨_, _, rfl⟩
      · exact accepted_later _ (kept.entries id waiting old)
      · exact admitted_accepted state recv wellFormed
  have older : ∀ transfer ∈ unfinished state, Accepted after.received transfer.request :=
    fun transfer member => log ▸ accepted_later _ (kept.transfers transfer member)
  have responses := queue ▸ kept.responses
  cases received_pends received with
  | nothing table flight =>
      have same : unfinished after = unfinished state := by rw [unfinished, flight, queue]; rfl
      exact ⟨table ▸ kept.keys,
        fun id waiting found => log ▸ accepted_later _ (kept.entries id waiting (table ▸ found)),
        same ▸ older, same ▸ kept.built, responses⟩
  | stored driver http wellFormed _ _ _ table flight =>
      have same : unfinished after = unfinished state := by rw [unfinished, flight, queue]; rfl
      exact ⟨(stored driver wellFormed table).1, (stored driver wellFormed table).2,
        same ▸ older, same ▸ kept.built, responses⟩
  | started driver http wellFormed resolved _ _ table flight =>
      refine ⟨(stored driver wellFormed table).1, (stored driver wellFormed table).2,
        fun transfer member => ?_, fun transfer member => ?_, responses⟩
      · rw [unfinished, flight, queue] at member
        rcases unfinished_started member with old | rfl
        · exact older transfer old
        · exact log ▸ admitted_accepted state recv wellFormed
      · rw [unfinished, flight, queue] at member
        rcases unfinished_started member with old | rfl
        · exact kept.built transfer old
        · exact ⟨world.sip, resolved⟩

theorem bookkeeping_step {state after : State D} {event : Event D}
    (stepped : Stepped state event after) (kept : Bookkeeping state) : Bookkeeping after := by
  cases stepped with
  | datagram recv world _ received => exact bookkeeping_received received kept
  | transferDone index result transfer inside =>
      have moved := unfinished_done state index result transfer inside
      refine ⟨kept.keys, kept.entries,
        fun other member => kept.transfers other (moved.mem_iff.mp member),
        fun other member => kept.built other (moved.mem_iff.mp member), ?_⟩
      intro queued member
      rcases List.mem_append.mp member with old | new
      · exact kept.responses queued old
      · rw [List.mem_singleton.mp new]
        exact response_id _ _
  | response queued rest front _ answered =>
      obtain ⟨log, flight, queue, _⟩ := answered_frame answered
      have table := answered_table answered
      refine ⟨fun id waiting found => ?_, fun id waiting found => ?_,
        fun transfer member => ?_, fun transfer member => ?_, ?_⟩
      · exact kept.keys id waiting (erase_lookup (table ▸ found)).2
      · exact log ▸ kept.entries id waiting (erase_lookup (table ▸ found)).2
      · exact log ▸ kept.transfers transfer (answered_unfinished front answered member)
      · exact kept.built transfer (answered_unfinished front answered member)
      · intro other member
        rw [queue] at member
        exact kept.responses other (front ▸ List.mem_cons_of_mem _ member)
  | configure load =>
      obtain ⟨map, swapped⟩ := configure_swaps load state
      rw [swapped]
      exact ⟨kept.keys, kept.entries, kept.transfers, kept.built, kept.responses⟩

theorem bookkeeping_initial : Bookkeeping (system D).initial where
  keys := by simp [system]
  entries := by simp [system]
  transfers := by simp [system, unfinished]
  built := by simp [system, unfinished]
  responses := by simp [system]

theorem bookkeeping_reached {allowed : State D → Event D → Prop} {state : State D}
    (reached : (system D).Reached allowed state) : Bookkeeping state :=
  LabelledRuns.reached_invariant (system D) allowed Bookkeeping bookkeeping_initial
    (fun _ _ _ kept _ stepped => bookkeeping_step (step_stepped stepped) kept) reached

/-! Who a response is delivered to. -/

/-- Two datagrams of one client that ask for the same thing under the same id. -/
def SameRequest (first second : ResolverRequest) : Prop :=
  first.clientInfo = second.clientInfo ∧ first.id = second.id ∧ first.dbId = second.dbId ∧
    first.type = second.type ∧ first.data = second.data

instance (first second : ResolverRequest) : Decidable (SameRequest first second) :=
  inferInstanceAs (Decidable (_ ∧ _))

/-- The request issued for a datagram meets no other request under its id:
neither as the entry its transfer would be answered to, nor as a transfer that
would be answered to its own entry. -/
def ClearOfOthers (state : State D) (recv : RecvData) (world : World) :
    Option (D × HttpRequest) → Prop
  | none => True
  | some (_, http) =>
      (takesOver world.curl http = true →
        ∀ waiting ∈ state.waitingRequests.lookup (admitted state recv).id,
          SameRequest waiting.request (admitted state recv)) ∧
      (state.waitingRequests.lookup (admitted state recv).id = none →
        ∀ transfer ∈ unfinished state, transfer.http.id = (admitted state recv).id →
          SameRequest (admitted state recv) transfer.request)

def Undisturbed (state : State D) : Event D → Prop
  | .datagram recv world => ClearOfOthers state recv world (issued state recv world)
  | _ => True

def Matched (state : State D) : Prop :=
  ∀ transfer ∈ unfinished state, ∀ waiting,
    state.waitingRequests.lookup transfer.http.id = some waiting →
      SameRequest waiting.request transfer.request

/-- Storing an entry cannot misdirect a transfer that was there before. -/
theorem matched_stored {state : State D} {recv : RecvData} {world : World} {driver issuer : D}
    {http : HttpRequest} (issues : issued state recv world = some (issuer, http))
    (undisturbed : Undisturbed state (.datagram recv world)) (matched : Matched state) :
    ∀ transfer ∈ unfinished state, ∀ waiting,
      (filed state recv driver).lookup transfer.http.id = some waiting →
        SameRequest waiting.request transfer.request := by
  intro transfer member waiting found
  rcases filed_lookup found with old | ⟨free, same, rfl⟩
  · exact matched transfer member waiting old
  · have clear : ClearOfOthers state recv world (some (issuer, http)) := issues ▸ undisturbed
    exact clear.2 (same ▸ free) transfer member same

theorem matched_received {state after : State D} {recv : RecvData} {world : World}
    (received : Received state recv world after)
    (undisturbed : Undisturbed state (.datagram recv world)) (matched : Matched state) :
    Matched after := by
  obtain ⟨_, queue, _⟩ := received_frame received
  cases received_pends received with
  | nothing table flight =>
      have same : unfinished after = unfinished state := by rw [unfinished, flight, queue]; rfl
      simpa only [Matched, same, table] using matched
  | stored driver http _ _ issues _ table flight =>
      have same : unfinished after = unfinished state := by rw [unfinished, flight, queue]; rfl
      simpa only [Matched, same, table] using matched_stored issues undisturbed matched
  | started driver http _ resolved issues handed table flight =>
      intro transfer member waiting found
      rw [unfinished, flight, queue] at member
      rw [table] at found
      -- an old transfer against the new entry, then the new transfer against either entry
      rcases unfinished_started member with old | rfl
      · exact matched_stored issues undisturbed matched transfer old waiting found
      · have id : http.id = (admitted state recv).id := CDriver.resolve_id _ _ _ _ resolved
        rcases filed_lookup found with present | ⟨_, _, rfl⟩
        · have clear : ClearOfOthers state recv world (some (driver, http)) := issues ▸ undisturbed
          exact clear.1 handed waiting (id ▸ present)
        · exact ⟨rfl, rfl, rfl, rfl, rfl⟩

theorem matched_step {state after : State D} {event : Event D}
    (stepped : Stepped state event after) (undisturbed : Undisturbed state event)
    (matched : Matched state) : Matched after := by
  cases stepped with
  | datagram recv world _ received => exact matched_received received undisturbed matched
  | transferDone index result transfer inside =>
      have moved := unfinished_done state index result transfer inside
      exact fun other member => matched other (moved.mem_iff.mp member)
  | response queued rest front _ answered =>
      intro transfer member waiting found
      rw [answered_table answered] at found
      exact matched transfer (answered_unfinished front answered member) waiting
        (erase_lookup found).2
  | configure load =>
      obtain ⟨map, swapped⟩ := configure_swaps load state
      rw [swapped]
      exact matched

theorem matched_reached {state : State D} (reached : (system D).Reached Undisturbed state) :
    Matched state :=
  LabelledRuns.reached_invariant (system D) Undisturbed Matched (by simp [Matched, system, unfinished])
    (fun _ _ _ matched undisturbed stepped =>
      matched_step (step_stepped stepped) undisturbed matched) reached

/-- The message carries the id of datagram `message.serial` to the client that
sent it. If it was made from an HTTP response, the response is that of a URL
built for a datagram of the same client with the same id, database id, type and
data; a result sent without one is that of a driver which needs no request. -/
structure OwnReply (received : List RecvData) (message : Sent D) : Prop where
  client : ∃ asked, received[message.serial]? = some asked ∧
    message.outgoing.clientInfo = asked.clientInfo ∧ message.outgoing.CarriesId (headerId asked)
  response : ∀ queued, message.answered = some queued → ∃ asked map,
    Accepted received asked ∧ asked.serial = message.serial ∧
    Computed map queued asked message ∧
    Accepted received queued.transfer.request ∧ BuiltFor queued.transfer ∧
    SameRequest asked queued.transfer.request
  atOnce : message.answered = none → message.outgoing.kind.isResult = true →
    ∃ (asked : ResolverRequest) (map : Database D), Accepted received asked ∧
      asked.serial = message.serial ∧ Found map asked message.outgoing

omit [CDriver D] in
theorem accepted_client {received : List RecvData} {request : ResolverRequest}
    (known : Accepted received request) : ∃ recv, received[request.serial]? = some recv ∧
      request.clientInfo = recv.clientInfo ∧ request.id = headerId recv := by
  obtain ⟨recv, found, _, same⟩ := known
  exact ⟨recv, found, by rw [same]; rfl, by rw [same]; rfl⟩

theorem own_reply_later {received : List RecvData} {message : Sent D} (more : List RecvData)
    (own : OwnReply received message) : OwnReply (received ++ more) message := by
  obtain ⟨asked, found, carried⟩ := own.client
  obtain ⟨inside, _⟩ := List.getElem?_eq_some_iff.mp found
  refine ⟨⟨asked, by rw [List.getElem?_append_left inside, found], carried⟩, ?_, ?_⟩
  · intro queued answered
    obtain ⟨request, map, known, serial, computed, fetched, built, same⟩ :=
      own.response queued answered
    exact ⟨request, map, accepted_later more known, serial, computed,
      accepted_later more fetched, built, same⟩
  · intro unanswered isResult
    obtain ⟨request, map, known, rest⟩ := own.atOnce unanswered isResult
    exact ⟨request, map, accepted_later more known, rest⟩

theorem computed_spec {map : Database D} {queued : Queued D} {request : ResolverRequest}
    {message : Sent D} (computed : Computed map queued request message) :
    message.serial = request.serial ∧ message.answered = some queued ∧
      message.outgoing.clientInfo = request.clientInfo ∧ message.outgoing.CarriesId request.id := by
  cases computed with
  | error error outgoing reply =>
      have spec := send_error_reply_spec request error outgoing reply
      exact ⟨rfl, rfl, spec.1, spec.2.1⟩
  | result driver serves result read outgoing reply =>
      have spec := send_reply_spec _ outgoing reply
      exact ⟨rfl, rfl, spec.1, spec.2.1⟩

theorem immediate_own {state : State D} {recv : RecvData} {message : Sent D}
    (immediate : Immediate state recv message) : OwnReply (state.received ++ [recv]) message where
  client := ⟨recv, by rw [immediate.serial]; exact List.getElem?_concat_length, immediate.client,
    immediate.carriesId⟩
  response := fun queued answered => by simp [immediate.unanswered] at answered
  atOnce := fun _ isResult => by
    obtain ⟨wellFormed, found⟩ := immediate.result isResult
    exact ⟨admitted state recv, state.driversMap, admitted_accepted state recv wellFormed,
      immediate.serial.symm, found⟩

/-- The reply to a response goes to the owner of the transfer behind it. -/
theorem computed_own {state : State D} (kept : Bookkeeping state) (matched : Matched state)
    {queued : Queued D} (member : queued ∈ state.responseQueue) {waiting : Waiting D}
    (found : state.waitingRequests.lookup queued.response.id = some waiting) {message : Sent D}
    (computed : Computed state.driversMap queued waiting.request message) :
    OwnReply state.received message := by
  obtain ⟨serial, answered, client, carries⟩ := computed_spec computed
  have known := kept.entries _ waiting found
  have pending : queued.transfer ∈ unfinished state :=
    List.mem_append_right _ (List.mem_map_of_mem member)
  have same : SameRequest waiting.request queued.transfer.request :=
    matched queued.transfer pending waiting (kept.responses queued member ▸ found)
  refine ⟨?_, ?_, ?_⟩
  · obtain ⟨asked, received, fromClient, id⟩ := accepted_client known
    exact ⟨asked, serial ▸ received, client.trans fromClient, id ▸ carries⟩
  · intro other otherAnswered
    have equal : queued = other := Option.some.inj (answered.symm.trans otherAnswered)
    subst equal
    exact ⟨waiting.request, state.driversMap, known, serial.symm, computed,
      kept.transfers _ pending, kept.built _ pending, same⟩
  · intro unanswered
    simp [answered] at unanswered

theorem own_step {state after : State D} {event : Event D} (stepped : Stepped state event after)
    (kept : Bookkeeping state) (matched : Matched state)
    (own : ∀ message ∈ state.sent, OwnReply state.received message) :
    ∀ message ∈ after.sent, OwnReply after.received message := by
  intro message member
  rw [stepped_received stepped]
  cases stepped_sent stepped member with
  | earlier old => exact own_reply_later _ (own message old)
  | immediate recv world immediate => exact immediate_own immediate
  | computed queued inside waiting found computed =>
      exact own_reply_later _ (computed_own kept matched inside found computed)

/-- In every run whose datagrams are undisturbed, every client gets the answers
to its own requests. -/
theorem replies_own (state : State D) (reached : (system D).Reached Undisturbed state) :
    ∀ message ∈ state.sent, OwnReply state.received message :=
  LabelledRuns.reached_invariant_given (system D) Undisturbed
    (fun state => Bookkeeping state ∧ Matched state)
    (fun state => ∀ message ∈ state.sent, OwnReply state.received message)
    (fun _ earlier => ⟨bookkeeping_reached earlier, matched_reached earlier⟩)
    (by simp [system])
    (fun _ _ _ known own _ stepped => own_step (step_stepped stepped) known.1 known.2 own) reached

instance (state : State D) (recv : RecvData) (world : World) :
    (issues : Option (D × HttpRequest)) → Decidable (ClearOfOthers state recv world issues)
  | none => isTrue trivial
  | some (_, _) => inferInstanceAs (Decidable (_ ∧ _))

instance (state : State D) : (event : Event D) → Decidable (Undisturbed state event)
  | .datagram recv world => inferInstanceAs (Decidable (ClearOfOthers state recv world _))
  | .transferDone _ _ => isTrue trivial
  | .response => isTrue trivial
  | .configure _ => isTrue trivial

/-! A transfer that is not started. The entry is stored before about ten calls
that can fail, and nothing takes it out again. -/

/-- An accepted request under a free id whose transfer libcurl does not take over. -/
structure FailedDispatch (state : State D) (recv : RecvData) (world : World) : Prop where
  free : state.waitingRequests.lookup (admitted state recv).id = none
  failed : ∃ driver http, issued state recv world = some (driver, http) ∧
    takesOver world.curl http = false

def isErrorReply (message : Sent D) : Bool :=
  message.outgoing.kind = .taggedError || message.outgoing.kind = .jsonError

/-- The datagram left no trace but one error reply to its client. -/
structure RolledBack (state after : State D) (recv : RecvData) : Prop where
  table : ∀ id, after.waitingRequests.lookup id = state.waitingRequests.lookup id
  reply : ∃ message, (after.sent.drop state.sent.length).filter isErrorReply = [message] ∧
    message.outgoing.clientInfo = recv.clientInfo

-- make_http_request stores the entry on every path through it
theorem issued_filed {state after : State D} {recv : RecvData} {world : World} {driver : D}
    {http : HttpRequest} (issues : issued state recv world = some (driver, http))
    (received : Received state recv world after) :
    after.waitingRequests = filed state recv driver := by
  obtain ⟨wellFormed, serves, resolved⟩ := issued_spec issues
  cases received with
  | rejected malformed => exact absurd wellFormed malformed
  | refused _ absent => exact absurd serves.2 (absent driver serves.1)
  | threw _ other same exception thrown =>
      rw [serves_unique same serves, resolved] at thrown
      cases thrown
  | done _ other same result found =>
      rw [serves_unique same serves, resolved] at found
      cases found
  | dispatchThrew _ other same | dispatchFailed _ other same | dispatched _ other same =>
      rw [serves_unique same serves]
      rfl

theorem failed_dispatch_keeps_entry {state : State D} {recv : RecvData} {world : World}
    (dispatch : FailedDispatch state recv world) :
    ∃ driver, (onDataReceived recv world state).waitingRequests.lookup (admitted state recv).id =
      some ⟨admitted state recv, driver⟩ := by
  obtain ⟨free, driver, http, issues, -⟩ := dispatch
  refine ⟨driver, ?_⟩
  rw [issued_filed issues (datagram_received recv world state), filed, emplace_absent _ _ _ free,
    AList.lookup_insert]

theorem failed_dispatch_never_rolled_back (state : State D) (recv : RecvData) (world : World)
    (dispatch : FailedDispatch state recv world) :
    ¬ RolledBack state (onDataReceived recv world state) recv := by
  rintro ⟨table, -⟩
  obtain ⟨driver, stored⟩ := failed_dispatch_keeps_entry dispatch
  rw [table, dispatch.free] at stored
  cases stored

/-! Two clients and one ThinQ provider. cJSON is stood in for by its value on
the one body the provider sends. -/

section TwoClients

open JsonItems Drivers

def thinqReply : Bytes := bytesOf "\x7b\"lrn\":\"2\"\x7d"

@[reducible]
def thinqJson : CJson where
  parse := fun text =>
    if text = thinqReply then some (.object [(bytesOf "lrn", .string (bytesOf "2"))]) else none
  printUnformatted := fun _ => []

attribute [local instance] thinqJson

def thinq : Driver := .thinq
  { uniqId := 1, host := bytesOf "api.thinq.com", port := 0, userName := [], token := []
    timeout := 4000 }

def firstClient : SockaddrIn := ⟨16777343, 5060⟩
def secondClient : SockaddrIn := ⟨33554559, 5060⟩

def working : World := ⟨fun _ => .fail, fun _ => true⟩

def ask (client : SockaddrIn) (id : UInt32) (number : String) : Event Driver :=
  .datagram (recvData 3 client (encode id 1 .tagged (bytesOf number))) working

theorem replies_own_two_clients : ∃ state, (system Driver).Reached Undisturbed state ∧
    (∃ message ∈ state.sent, message.answered.isSome = true) ∧
    ∀ message ∈ state.sent, OwnReply state.received message := by
  obtain ⟨state, reached, shown⟩ := LabelledRuns.run_when_shows (system Driver) Undisturbed
    [.configure (.rows [.driver thinq]), ask firstClient 7 "1", ask secondClient 8 "2",
      .transferDone 1 (.ok thinqReply), .response]
    (fun state => state.sent.any fun message => message.answered.isSome) (by decide +kernel)
  exact ⟨state, reached, List.any_eq_true.mp shown, replies_own state reached⟩

theorem own_reply_data {received : List RecvData} {message : Sent Driver} {queued : Queued Driver}
    {recv : RecvData} (own : OwnReply received message) (answered : message.answered = some queued)
    (found : received[message.serial]? = some recv) :
    layoutData recv = queued.transfer.request.data := by
  obtain ⟨asked, _, ⟨sent, present, _, parsed⟩, serial, _, _, _, same⟩ :=
    own.response queued answered
  have equal : sent = recv := Option.some.inj (present.symm.trans (serial ▸ found))
  rw [← same.2.2.2.2, parsed, equal]
  rfl

/-- The first client asked for number 1 and is told the routing number of 2. -/
def crossed (state : State Driver) : Bool :=
  state.sent.any fun message =>
    message.outgoing.clientInfo.addr = firstClient &&
    message.outgoing.payload = [7, 0, 0, 0, 0, 1, 1, 50] &&
    message.answered.any fun queued =>
      state.received[message.serial]?.any fun recv =>
        layoutData recv ≠ queued.transfer.request.data

theorem same_id_crosses_answers : ∃ state, (system Driver).Reachable state ∧
    crossed state = true ∧ ¬ ∀ message ∈ state.sent, OwnReply state.received message := by
  obtain ⟨state, reached, shown⟩ := LabelledRuns.run_when_shows (system Driver) (fun _ _ => True)
    [.configure (.rows [.driver thinq]), ask firstClient 7 "1", ask secondClient 7 "2",
      .transferDone 1 (.ok thinqReply), .response]
    crossed (by decide +kernel)
  refine ⟨state, reached, shown, ?_⟩
  intro own
  obtain ⟨message, member, facts⟩ := List.any_eq_true.mp shown
  simp only [Bool.and_eq_true, Option.any_eq_true, decide_eq_true_eq] at facts
  obtain ⟨_, queued, answered, recv, found, other⟩ := facts
  exact other (own_reply_data (own message member) answered found)

/-- A resolver that knows ThinQ, and one question for it. -/
def loaded : State Driver := (configure (.rows [.driver thinq]) {}).2

def question : RecvData := recvData 3 firstClient (encode 7 1 .tagged (bytesOf "1"))

def questionUrl : HttpRequest :=
  { id := 7
    url := bytesOf "https://api.thinq.com/lrn/extended/1?format=json"
    authType := .basic
    login := some []
    pass := some []
    timeoutMs := 4000
    headers := jsonHeaders }

/-- libcurl fails in one of its calls. -/
def failing (call : CurlCall) : World := ⟨fun _ => .fail, (· != call)⟩

theorem failed_dispatch_never_rolled_back_at_url :
    FailedDispatch loaded question (failing (.setopt .url)) ∧
      ¬ RolledBack loaded (onDataReceived question (failing (.setopt .url)) loaded) question := by
  have dispatch : FailedDispatch loaded question (failing (.setopt .url)) :=
    ⟨by decide +kernel, thinq, questionUrl, by decide +kernel, by decide +kernel⟩
  exact ⟨dispatch, failed_dispatch_never_rolled_back _ _ _ dispatch⟩

/-- When curl_multi_add_handle fails the entry stays and the client hears nothing more. -/
theorem roll_back_fails_at_multi_add :
    FailedDispatch loaded question (failing .multiAddHandle) ∧
      ¬ RolledBack loaded (onDataReceived question (failing .multiAddHandle) loaded) question := by
  refine ⟨⟨by decide +kernel, thinq, questionUrl, by decide +kernel, by decide +kernel⟩, ?_⟩
  rintro ⟨-, message, replies, -⟩
  have silent : ((onDataReceived question (failing .multiAddHandle) loaded).sent.drop
      loaded.sent.length).filter isErrorReply = [] := by
    rfl
  rw [silent] at replies
  cases replies

end TwoClients

end LnpResolver.PendingTable

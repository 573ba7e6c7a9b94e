import LnpResolver.PendingTable

/-!
Every accepted datagram is answered once. The account of a request is what the
resolver has sent for it, the entry it has in the pending table and the transfer
that is still to come. A step settles at most one account and leaves the others
as they are.
-/

namespace LnpResolver.ReplyAccounting

open PackedBytes Transport RequestWire DriverInterface AsyncHttpClient ReplyWire Resolver
  ResolverSteps PendingTable

variable {D : Type} [CDriver D]

def repliesTo (state : State D) (serial : Nat) : List (Sent D) :=
  state.sent.filter fun message => message.serial = serial

/-- Transfers in flight and queued responses of one request together. -/
def transfersOf (state : State D) (serial : Nat) : Nat :=
  (unfinished state).countP fun transfer => transfer.request.serial = serial

/-- The final reply to a request, whichever of the four forms it has. -/
structure FinalReply (request : ResolverRequest) (message : Sent D) : Prop where
  isFinal : message.outgoing.kind.isFinal = true
  client : message.outgoing.clientInfo = request.clientInfo
  carriesId : message.outgoing.CarriesId request.id

/-- The provisional reply to a request. -/
structure ProvisionalReply (request : ResolverRequest) (message : Sent D) : Prop where
  isProvisional : message.outgoing.kind = .provisional
  client : message.outgoing.clientInfo = request.clientInfo
  carriesId : message.outgoing.CarriesId request.id

inductive Accounted (state : State D) (request : ResolverRequest) : Prop where
  | waiting (issuer : D)
      (entry : state.waitingRequests.lookup request.id = some ⟨request, issuer⟩)
      (transfer : transfersOf state request.serial = 1)
      (first : ProvisionalReply request (provisional (D := D) request))
      (replies : repliesTo state request.serial = [provisional request])
  | answered (removed : ∀ id waiting, state.waitingRequests.lookup id = some waiting →
        waiting.request.serial ≠ request.serial)
      (finished : transfersOf state request.serial = 0)
      (first : ProvisionalReply request (provisional (D := D) request)) (final : Sent D)
      (isReply : FinalReply request final)
      (replies : repliesTo state request.serial = [provisional request, final])

/-- The request issued for a datagram has a free id, and libcurl takes it. -/
def FreshAndTaken (state : State D) (recv : RecvData) (world : World) :
    Option (D × HttpRequest) → Prop
  | none => True
  | some (_, http) =>
      state.waitingRequests.lookup (admitted state recv).id = none ∧
        takesOver world.curl http = true

def Orderly (state : State D) : Event D → Prop
  | .datagram recv world => FreshAndTaken state recv world (issued state recv world)
  | _ => True

omit [CDriver D] in
theorem provisional_reply (request : ResolverRequest) :
    ProvisionalReply request (provisional (D := D) request) :=
  ⟨rfl, rfl, provisional_carries_id request⟩

omit [CDriver D] in
/-- An account that a step does not touch. -/
theorem accounted_frame {state after : State D} {request : ResolverRequest}
    (account : Accounted state request)
    (replies : repliesTo after request.serial = repliesTo state request.serial)
    (transfers : transfersOf after request.serial = transfersOf state request.serial)
    (kept : ∀ issuer, state.waitingRequests.lookup request.id = some ⟨request, issuer⟩ →
      after.waitingRequests.lookup request.id = some ⟨request, issuer⟩)
    (noNew : ∀ id waiting, after.waitingRequests.lookup id = some waiting →
      waiting.request.serial = request.serial → state.waitingRequests.lookup id = some waiting) :
    Accounted after request := by
  cases account with
  | waiting issuer entry transfer first sent =>
      exact .waiting issuer (kept issuer entry) (transfers ▸ transfer) first (replies ▸ sent)
  | answered removed finished first final isReply sent =>
      refine .answered ?_ (transfers ▸ finished) first final isReply (replies ▸ sent)
      intro id waiting found same
      exact removed id waiting (noNew id waiting found same) same

theorem accepted_serial {received : List RecvData} {request : ResolverRequest}
    (known : Accepted received request) : request.serial < received.length := by
  obtain ⟨recv, found, _⟩ := known
  exact (List.getElem?_eq_some_iff.mp found).1

-- The serial number alone determines an accepted request.
theorem accepted_unique {received : List RecvData} {first second : ResolverRequest}
    (left : Accepted received first) (right : Accepted received second)
    (same : first.serial = second.serial) : first = second := by
  obtain ⟨recv, found, _, firstIs⟩ := left
  obtain ⟨other, present, _, secondIs⟩ := right
  have equal : recv = other := Option.some.inj (found.symm.trans (same ▸ present))
  rw [firstIs, secondIs, equal, same]

section Replies

variable {state after : State D} {messages : List (Sent D)} {serial : Nat}

omit [CDriver D] in
theorem replies_other (sent : after.sent = state.sent ++ messages)
    (others : ∀ message ∈ messages, message.serial ≠ serial) :
    repliesTo after serial = repliesTo state serial := by
  have none : messages.filter (fun message => message.serial = serial) = [] := by
    simpa [List.filter_eq_nil_iff] using others
  rw [repliesTo, sent, List.filter_append, none, List.append_nil, repliesTo]

omit [CDriver D] in
theorem replies_extended (sent : after.sent = state.sent ++ messages)
    (own : ∀ message ∈ messages, message.serial = serial) :
    repliesTo after serial = repliesTo state serial ++ messages := by
  have all : messages.filter (fun message => message.serial = serial) = messages := by
    simpa [List.filter_eq_self] using own
  rw [repliesTo, sent, List.filter_append, all, repliesTo]

end Replies

/-- Nothing was sent for a datagram that has not arrived yet. -/
def Numbered (state : State D) : Prop :=
  ∀ message ∈ state.sent, message.serial < state.received.length

theorem numbered_step {state after : State D} {event : Event D} (stepped : Stepped state event after)
    (kept : Bookkeeping state) (numbered : Numbered state) : Numbered after := by
  intro message member
  rw [stepped_received stepped, List.length_append]
  cases stepped_sent stepped member with
  | earlier old => exact Nat.lt_add_right _ (numbered message old)
  | immediate recv world immediate =>
      rw [immediate.serial]
      exact Nat.lt_succ_self _
  | computed queued inside waiting found computed =>
      rw [(computed_spec computed).1]
      exact Nat.lt_add_right _ (accepted_serial (kept.entries _ waiting found))

theorem numbered_reached {allowed : State D → Event D → Prop} {state : State D}
    (reached : (system D).Reached allowed state) : Numbered state :=
  LabelledRuns.reached_invariant_given (system D) allowed Bookkeeping Numbered
    (fun _ earlier => bookkeeping_reached earlier) (by simp [Numbered, system])
    (fun _ _ _ kept numbered _ stepped => numbered_step (step_stepped stepped) kept numbered) reached

/-! A datagram opens its own account and touches no other. -/

section Datagram

variable {state after : State D} {recv : RecvData} {world : World}

theorem fresh_transfers (kept : Bookkeeping state) :
    transfersOf state state.received.length = 0 := by
  rw [transfersOf, List.countP_eq_zero]
  intro transfer member same
  have before := accepted_serial (kept.transfers transfer member)
  simp only [decide_eq_true_eq] at same
  omega

omit [CDriver D] in
theorem fresh_replies (numbered : Numbered state) : repliesTo state state.received.length = [] := by
  rw [repliesTo, List.filter_eq_nil_iff]
  intro message member same
  have before := numbered message member
  simp only [decide_eq_true_eq] at same
  omega

theorem fresh_entries (kept : Bookkeeping state) (id : UInt32) (waiting : Waiting D)
    (found : state.waitingRequests.lookup id = some waiting) :
    waiting.request.serial ≠ state.received.length :=
  Nat.ne_of_lt (accepted_serial (kept.entries id waiting found))

/-- The account of a request that is answered while its datagram is handled. -/
theorem accounted_at_once (kept : Bookkeeping state) (numbered : Numbered state)
    (outgoing : Outgoing) (isReply : FinalReply (admitted state recv)
      (sentFor (D := D) (admitted state recv) outgoing))
    (table : after.waitingRequests = state.waitingRequests)
    (pending : unfinished after = unfinished state)
    (sent : after.sent = state.sent ++
      [provisional (admitted state recv), sentFor (admitted state recv) outgoing]) :
    Accounted after (admitted state recv) := by
  refine .answered ?_ ?_ (provisional_reply _) _ isReply ?_
  · rw [table]
    exact fresh_entries kept
  · rw [transfersOf, pending]
    exact fresh_transfers kept
  · rw [replies_extended sent (by simp [provisional, sentFor])]
    exact congrArg (· ++ _) (fresh_replies numbered)

omit [CDriver D] in
theorem final_of_error {request : ResolverRequest} {error : CResolverError} {outgoing : Outgoing}
    (reply : sendErrorReply request error = some outgoing) (message : Sent D)
    (same : message.outgoing = outgoing) : FinalReply request message := by
  obtain ⟨client, carries, isFinal⟩ := send_error_reply_spec request error outgoing reply
  subst same
  exact ⟨isFinal, client, carries⟩

omit [CDriver D] in
theorem final_of_result {request : ResolverRequest} {result : SResult} {outgoing : Outgoing}
    (reply : sendReply { request with result := result, isDone := true } = some outgoing)
    (message : Sent D) (same : message.outgoing = outgoing) : FinalReply request message := by
  obtain ⟨client, carries, isFinal⟩ := send_reply_spec _ outgoing reply
  subst same
  exact ⟨isFinal, client, carries⟩

theorem accounted_new (received : Received state recv world after)
    (orderly : Orderly state (.datagram recv world)) (kept : Bookkeeping state)
    (numbered : Numbered state) (wellFormed : WellFormed recv) :
    Accounted after (admitted state recv) := by
  cases received with
  | rejected malformed => exact absurd wellFormed malformed
  | refused _ _ error outgoing reply =>
      exact accounted_at_once kept numbered outgoing (final_of_error reply _ rfl) rfl rfl rfl
  | threw _ _ _ exception _ outgoing reply =>
      exact accounted_at_once kept numbered outgoing (final_of_error reply _ rfl) rfl rfl rfl
  | done _ _ _ result _ outgoing reply =>
      exact accounted_at_once kept numbered outgoing (final_of_result reply _ rfl) rfl rfl rfl
  | dispatchThrew _ driver serves http resolved what failed =>
      have issues := issued_http state recv world driver http wellFormed serves resolved
      have taken : FreshAndTaken state recv world (some (driver, http)) := issues ▸ orderly
      simp [FreshAndTaken, takesOver, failed] at taken
  | dispatchFailed _ driver serves http resolved status failed other =>
      have issues := issued_http state recv world driver http wellFormed serves resolved
      have taken : FreshAndTaken state recv world (some (driver, http)) := issues ▸ orderly
      simp [FreshAndTaken, takesOver, failed, other] at taken
  | dispatched _ driver serves http resolved started =>
      have issues := issued_http state recv world driver http wellFormed serves resolved
      have taken : FreshAndTaken state recv world (some (driver, http)) := issues ▸ orderly
      refine .waiting driver ?_ ?_ (provisional_reply _) ?_
      · simp only [emplace_absent _ _ _ taken.1, AList.lookup_insert]
      · have fresh := fresh_transfers kept
        rw [transfersOf, unfinished, List.countP_append] at fresh ⊢
        have new : ((admitted state recv).serial = state.received.length) := rfl
        simp only [logged, List.countP_append, List.countP_singleton, new, decide_true, if_true]
        omega
      · rw [replies_extended (show _ = state.sent ++ [provisional (admitted state recv)] from rfl)
          (by simp [provisional, sentFor])]
        exact congrArg (· ++ _) (fresh_replies numbered)

theorem accounted_older (received : Received state recv world after)
    (orderly : Orderly state (.datagram recv world)) {request : ResolverRequest}
    (older : request.serial < state.received.length) (account : Accounted state request) :
    Accounted after request := by
  obtain ⟨_, queue, _⟩ := received_frame received
  obtain ⟨messages, sent, immediate⟩ := received_sent received
  have replies : repliesTo after request.serial = repliesTo state request.serial := by
    refine replies_other sent fun message member same => ?_
    rw [(immediate message member).serial] at same
    omega
  cases received_pends received with
  | nothing table flight =>
      refine accounted_frame account replies ?_ (fun issuer entry => table ▸ entry)
        (fun id waiting found _ => table ▸ found)
      simp only [transfersOf, unfinished, flight, queue]
  | stored driver http _ _ issues kept =>
      have taken : FreshAndTaken state recv world (some (driver, http)) := issues ▸ orderly
      exact absurd (kept.symm.trans taken.2) (by decide)
  | started driver http _ _ issues _ table flight =>
      have taken : FreshAndTaken state recv world (some (driver, http)) := issues ▸ orderly
      have new : (admitted state recv).serial ≠ request.serial := Nat.ne_of_gt older
      refine accounted_frame account replies ?_ ?_ ?_
      · simp [transfersOf, unfinished, flight, queue, new]
      · intro issuer entry
        have other : request.id ≠ (admitted state recv).id := by
          intro same
          rw [same, taken.1] at entry
          cases entry
        rw [table, filed, emplace_lookup_other _ _ _ _ other, entry]
      · intro id waiting found same
        rcases filed_lookup (table ▸ found) with old | ⟨_, _, rfl⟩
        · exact old
        · exact absurd same new

end Datagram

/-! A response settles the account of its own transfer and touches no other. -/

section Response

variable {state after : State D} {queued : Queued D}

theorem final_of_computed {map : Database D} {request : ResolverRequest} {message : Sent D}
    (computed : Computed map queued request message) : FinalReply request message := by
  cases computed with
  | error error outgoing reply => exact final_of_error reply _ rfl
  | result driver serves result read outgoing reply => exact final_of_result reply _ rfl

theorem answered_settles (answered : Answered state queued after) {waiting : Waiting D}
    (found : state.waitingRequests.lookup queued.response.id = some waiting)
    (typed : waiting.request.type = taggedReqVersion ∨ waiting.request.type = cnamReqVersion) :
    ∃ message, after.sent = state.sent ++ [message] ∧ message.serial = waiting.request.serial ∧
      FinalReply waiting.request message := by
  obtain ⟨message, sent, computed⟩ := answered_once answered found typed
  exact ⟨message, sent, (computed_spec computed).1, final_of_computed computed⟩

variable {rest : List (Queued D)} (front : state.responseQueue = queued :: rest)
  (answered : Answered { state with responseQueue := rest } queued after)
  (kept : Bookkeeping state)
  (accounts : ∀ request, Accepted state.received request → Accounted state request)

omit [CDriver D] in
include front in
theorem front_unfinished : queued.transfer ∈ unfinished state := by
  simp [unfinished, front]

include front kept accounts in
/-- The request behind the front response is still waiting, under its own id. -/
theorem front_waiting : ∃ issuer,
    state.waitingRequests.lookup queued.response.id = some ⟨queued.transfer.request, issuer⟩ ∧
      transfersOf state queued.transfer.request.serial = 1 ∧
      repliesTo state queued.transfer.request.serial = [provisional queued.transfer.request] := by
  have pending : queued.transfer ∈ unfinished state := front_unfinished front
  have id : queued.response.id = queued.transfer.request.id :=
    (kept.responses queued (front ▸ List.mem_cons_self)).trans (built_id (kept.built _ pending))
  -- an answered request has no transfer left, and this one is in the queue
  cases accounts _ (kept.transfers _ pending) with
  | waiting issuer entry transfer _ replies => exact ⟨issuer, id ▸ entry, transfer, replies⟩
  | answered _ finished =>
      have none := List.countP_eq_zero.mp finished queued.transfer pending
      simp at none

include front answered in
theorem transfers_answered (serial : Nat) : transfersOf state serial =
    transfersOf after serial + if queued.transfer.request.serial = serial then 1 else 0 := by
  obtain ⟨_, flight, queue, _⟩ := answered_frame answered
  simp only [transfersOf, unfinished, front, flight, queue, List.map_cons, List.countP_append,
    List.countP_cons, decide_eq_true_eq]
  omega

include front answered kept accounts in
theorem accounted_answered {request : ResolverRequest} (known : Accepted state.received request) :
    Accounted after request := by
  obtain ⟨issuer, found, transfer, provisionalOnly⟩ := front_waiting front kept accounts
  have pending := kept.transfers _ (front_unfinished front)
  have table := answered_table answered
  have typed : queued.transfer.request.type = taggedReqVersion ∨
      queued.transfer.request.type = cnamReqVersion := by
    obtain ⟨recv, _, wellFormed, same⟩ := pending
    exact same ▸ accepted_type recv _ wellFormed
  obtain ⟨message, sent, serial, isReply⟩ := answered_settles answered found typed
  have transfers := transfers_answered front answered request.serial
  by_cases own : queued.transfer.request.serial = request.serial
  · have equal : queued.transfer.request = request := accepted_unique pending known own
    subst equal
    refine .answered ?_ ?_ (provisional_reply _) message isReply ?_
    · -- an entry of the same datagram would sit under the id just erased
      intro id waiting present same
      obtain ⟨other, old⟩ := erase_lookup (table ▸ present)
      have entry := accepted_unique (kept.entries id waiting old) pending same
      exact other ((kept.keys id waiting old).symm.trans
        ((congrArg ResolverRequest.id entry).trans (kept.keys _ _ found)))
    · rw [if_pos rfl] at transfers
      omega
    · rw [replies_extended sent (by simpa using serial)]
      exact congrArg (· ++ _) provisionalOnly
  · refine accounted_frame (accounts request known) ?_ ?_ ?_ ?_
    · exact replies_other sent (by simpa [serial] using own)
    · simpa [own] using transfers.symm
    · intro other entry
      have differ : request.id ≠ queued.response.id := by
        intro same
        rw [same, found] at entry
        exact own (congrArg (fun waiting => waiting.request.serial) (Option.some.inj entry))
      rw [table, AList.lookup_erase_ne differ, entry]
    · exact fun id waiting present _ => (erase_lookup (table ▸ present)).2

end Response

theorem accounted_step {state after : State D} {event : Event D} (stepped : Stepped state event after)
    (orderly : Orderly state event) (kept : Bookkeeping state) (numbered : Numbered state)
    (accounts : ∀ request, Accepted state.received request → Accounted state request) :
    ∀ request, Accepted after.received request → Accounted after request := by
  intro request known
  cases stepped with
  | datagram recv world _ received =>
      obtain ⟨found, present, wellFormed, same⟩ := known
      rw [(received_frame received).1] at present
      by_cases older : request.serial < state.received.length
      · rw [List.getElem?_append_left older] at present
        exact accounted_older received orderly older
          (accounts request ⟨found, present, wellFormed, same⟩)
      · have bound := (List.getElem?_eq_some_iff.mp present).1
        have last : request.serial = state.received.length := by
          simp only [List.length_append, List.length_singleton] at bound
          omega
        rw [last, List.getElem?_concat_length] at present
        cases present
        rw [last] at same
        exact same ▸ accounted_new received orderly kept numbered wellFormed
  | transferDone index result transfer inside =>
      have moved := unfinished_done state index result transfer inside
      exact accounted_frame (accounts request known) rfl (moved.countP_eq _)
        (fun _ entry => entry) (fun _ _ found _ => found)
  | response queued rest front _ answered =>
      rw [(answered_frame answered).1] at known
      exact accounted_answered front answered kept accounts known
  | configure load =>
      obtain ⟨map, swapped⟩ := configure_swaps load state
      rw [swapped] at known ⊢
      exact accounted_frame (accounts request known) rfl rfl (fun _ entry => entry)
        (fun _ _ found _ => found)

/-- In every state of every orderly run each accepted datagram has had its
provisional reply and is either waiting for one transfer or answered once. -/
theorem accepted_answered_once (state : State D) (reached : (system D).Reached Orderly state)
    (serial : Nat) (recv : RecvData) (request : ResolverRequest)
    (received : state.received[serial]? = some recv)
    (parsed : parse recv { serial := serial } = .ok () request) : Accounted state request := by
  have all := LabelledRuns.reached_invariant_given (system D) Orderly
    (fun state => Bookkeeping state ∧ Numbered state)
    (fun state => ∀ request, Accepted state.received request → Accounted state request)
    (fun _ earlier => ⟨bookkeeping_reached earlier, numbered_reached earlier⟩)
    (fun request known => absurd (accepted_serial known) (Nat.not_lt_zero _))
    (fun _ _ _ known accounts orderly stepped =>
      accounted_step (step_stepped stepped) orderly known.1 known.2 accounts) reached
  have wellFormed := (parse_accepts_iff recv _).mp ⟨request, parsed⟩
  rw [parse_accepted recv _ request parsed]
  exact all _ ⟨recv, received, wellFormed, rfl⟩

section OneClient

open JsonItems Drivers

attribute [local instance] thinqJson

instance (state : State D) (recv : RecvData) (world : World) :
    (issues : Option (D × HttpRequest)) → Decidable (FreshAndTaken state recv world issues)
  | none => isTrue trivial
  | some (_, _) => inferInstanceAs (Decidable (_ ∧ _))

instance (state : State D) : (event : Event D) → Decidable (Orderly state event)
  | .datagram recv world => inferInstanceAs (Decidable (FreshAndTaken state recv world _))
  | .transferDone _ _ => isTrue trivial
  | .response => isTrue trivial
  | .configure _ => isTrue trivial

/-- The id is used again as soon as its first request has been answered. -/
theorem id_reused_answered_once : ∃ state, (system Driver).Reached Orderly state ∧
    state.sent.length = 3 ∧ ∃ recv request, state.received[0]? = some recv ∧
      parse recv { serial := 0 } = .ok () request ∧ Accounted state request := by
  obtain ⟨state, reached, shown⟩ := LabelledRuns.run_when_shows (system Driver) Orderly
    [.configure (.rows [.driver thinq]), ask firstClient 7 "2", .transferDone 0 (.ok thinqReply),
      .response, ask secondClient 7 "1"]
    (fun state => state.sent.length = 3 ∧ state.received[0]?.any (fun recv => WellFormed recv))
    (by decide +kernel)
  obtain ⟨length, present⟩ := of_decide_eq_true shown
  obtain ⟨recv, received, wellFormed⟩ := (Option.any_eq_true _ _).mp present
  obtain ⟨request, parsed⟩ :=
    (parse_accepts_iff recv { serial := 0 }).mpr (of_decide_eq_true wellFormed)
  exact ⟨state, reached, length, recv, request, received, parsed,
    accepted_answered_once state reached 0 recv request received parsed⟩

end OneClient

end LnpResolver.ReplyAccounting

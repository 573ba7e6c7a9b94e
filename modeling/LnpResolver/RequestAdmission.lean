import LnpResolver.ResolverSteps

/-!
What the resolver lets in. A datagram is accepted exactly when it has one of the
two documented formats; a rejected one changes nothing but the log of messages,
and its error reply depends on how far ResolverRequest::parse got.
-/

namespace LnpResolver.RequestAdmission

open PackedBytes Transport RequestWire DriverInterface AsyncHttpClient ReplyWire Resolver
  ResolverSteps

variable {D : Type} [CDriver D]

/-- The fields of the layout comments: id in bytes 0 to 3, database id in byte 4,
type in byte 5, then the length and that many bytes of data. -/
structure ReadsLayout (recv : RecvData) (request : ResolverRequest) : Prop where
  id : store 4 request.id.toNat = window 0 4 recv.data
  dbId : request.dbId = (recv.data.getD 4 0).toNat
  type : request.type = (recv.data.getD 5 0).toNat
  tagged : request.type = taggedReqVersion →
    request.data = window 7 (recv.data.getD 6 0).toNat recv.data
  cnam : request.type = cnamReqVersion →
    request.data = window 10 (load (window 6 4 recv.data)) recv.data
  client : request.clientInfo = recv.clientInfo

/-- The reply that says why the parser failed, with the id of the datagram and in the
form its type byte asks for. -/
structure ErrorReply (recv : RecvData) (serial : Nat) (outgoing : Outgoing) : Prop where
  ownId : window 0 4 outgoing.payload = window 0 4 recv.data
  client : outgoing.clientInfo = recv.clientInfo
  form : outgoing.kind = if recv.data.getD 5 0 = 1 then .jsonError else .taggedError
  failure : ∃ error half, parse recv { serial := serial } = .error error half ∧
    outgoing =
      if recv.data.getD 5 0 = 1 then sendJsonErrorReply half error else sendTaggedErrorReply half error

structure Rejected (recv : RecvData) (state after : State D) : Prop where
  pendingTable : after.waitingRequests = state.waitingRequests
  transfers : after.inFlight = state.inFlight ∧ after.responseQueue = state.responseQueue
  driverMap : after.driversMap = state.driversMap
  cacheQueue : after.cacheQueue = state.cacheQueue
  silent : recv.length < 6 → after.sent = state.sent
  reply : 6 ≤ recv.length → ∃ message, after.sent = state.sent ++ [message] ∧
    ErrorReply recv state.received.length message.outgoing

theorem store_header_id (recv : RecvData) :
    store 4 (headerId recv).toNat = window 0 4 recv.data := by
  have four : (window 0 4 recv.data).length = 4 :=
    window_length 0 4 recv.data (by rw [recv.sized]; decide)
  have small : load (window 0 4 recv.data) < UInt32.size := by
    simpa [four] using load_lt (window 0 4 recv.data)
  rw [headerId, UInt32.toNat_ofNat_of_lt' small]
  simpa [four] using store_load (window 0 4 recv.data)

theorem accepted_layout (recv : RecvData) (request : ResolverRequest) :
    ReadsLayout recv (accepted recv request) where
  id := store_header_id recv
  dbId := rfl
  type := rfl
  tagged := fun tagged => if_pos ((type_tagged_iff recv request).mp tagged)
  cnam := fun cnam => if_neg (by rw [(type_cnam_iff recv request).mp cnam]; decide)
  client := rfl

theorem error_reply_form (recv : RecvData) (serial : Nat) (half : ResolverRequest)
    (error : CResolverError) (failed : parse recv { serial := serial } = .error error half)
    (id : half.id = headerId recv) (type : half.type = forcedType recv)
    (client : half.clientInfo = recv.clientInfo) :
    ∃ outgoing, sendErrorReply half error = some outgoing ∧ ErrorReply recv serial outgoing := by
  have carries : ∀ outgoing, sendErrorReply half error = some outgoing →
      window 0 4 outgoing.payload = window 0 4 recv.data ∧
        outgoing.clientInfo = recv.clientInfo := by
    intro outgoing sent
    obtain ⟨toClient, ownId, _⟩ := send_error_reply_spec half error outgoing sent
    exact ⟨ownId.trans (id ▸ store_header_id recv), toClient.trans client⟩
  by_cases cnam : headerType recv = 1
  · have json : sendErrorReply half error = some (sendJsonErrorReply half error) := by
      have typed : half.type = cnamReqVersion := by rw [type, forcedType, if_pos cnam]
      rw [sendErrorReply, typed]
      rfl
    exact ⟨_, json, (carries _ json).1, (carries _ json).2, (if_pos cnam).symm,
      error, half, failed, (if_pos cnam).symm⟩
  · have tagged : sendErrorReply half error = some (sendTaggedErrorReply half error) := by
      have typed : half.type = taggedReqVersion := by rw [type, forcedType, if_neg cnam]
      rw [sendErrorReply, typed]
      rfl
    exact ⟨_, tagged, (carries _ tagged).1, (carries _ tagged).2, (if_neg cnam).symm,
      error, half, failed, (if_neg cnam).symm⟩

theorem malformed_rejected (state : State D) (recv : RecvData) (world : World)
    (malformed : ¬ WellFormed recv) : Rejected recv state (onDataReceived recv world state) := by
  rcases parse_cases recv { serial := state.received.length } with
    ⟨wellFormed, _⟩ | ⟨_, enough, error, half, failed, id, type, client, _⟩ | ⟨_, short, error, failed⟩
  · exact absurd wellFormed malformed
  · obtain ⟨outgoing, sent, reply⟩ := error_reply_form recv _ half error failed id type client
    simp only [onDataReceived, failed, sent]
    exact ⟨rfl, ⟨rfl, rfl⟩, rfl, rfl, fun short => absurd enough (Nat.not_le.mpr short),
      fun _ => ⟨_, rfl, reply⟩⟩
  · -- below six bytes the record keeps its default type -1, and no reply has that form
    simp only [onDataReceived, failed]
    exact ⟨rfl, ⟨rfl, rfl⟩, rfl, rfl, fun _ => List.append_nil _,
      fun enough => absurd enough (Nat.not_le.mpr short)⟩

/-- The parser accepts the documented format and nothing else, reads its fields,
gives back what a client encoded, and a rejected datagram changes nothing. -/
theorem datagram_admission (state : State D) (recv : RecvData) (world : World)
    (request : ResolverRequest) :
    ((∃ parsed, parse recv request = .ok () parsed) ↔ WellFormed recv) ∧
    (∀ parsed, parse recv request = .ok () parsed → ReadsLayout recv parsed) ∧
    (∀ fd sender id databaseId type data, Fits type data →
      ∃ parsed, parse (encoded fd sender id databaseId type data) request = .ok () parsed ∧
        parsed.id = id ∧ parsed.dbId = databaseId.toNat ∧ parsed.type = type.version.toNat ∧
        parsed.data = data) ∧
    (¬ WellFormed recv → Rejected recv state (onDataReceived recv world state)) := by
  refine ⟨parse_accepts_iff recv request, ?_, ?_, malformed_rejected state recv world⟩
  · intro parsed success
    rw [parse_accepted recv request parsed success]
    exact accepted_layout recv request
  · intro fd sender id databaseId type data fits
    exact ⟨_, parse_encode fd sender id databaseId type data fits request, rfl, rfl, rfl, rfl⟩

end LnpResolver.RequestAdmission

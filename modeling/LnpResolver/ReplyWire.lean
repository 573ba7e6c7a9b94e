import LnpResolver.Drivers

/-!
Replies on the wire: the Resolver::send_* functions of resolver/Resolver.cpp as
the datagrams they hand to Transport::send_data. Sizes are stored into fields of
one or four bytes by a narrowing assignment.
-/

namespace LnpResolver.ReplyWire

open PackedBytes Transport RequestWire Drivers

/-- Which send_* function built a datagram. -/
inductive ReplyKind where
  | provisional | tagged | json | taggedError | jsonError
  deriving DecidableEq, Repr

structure Outgoing where
  kind : ReplyKind
  clientInfo : ClientInfo
  payload : Bytes
  deriving DecidableEq, Repr

def ReplyKind.isFinal : ReplyKind → Bool
  | .provisional => false
  | _ => true

/-- Success replies, which carry what a driver found. -/
def ReplyKind.isResult : ReplyKind → Bool
  | .tagged | .json => true
  | _ => false

def sendProvisionalReply (request : ResolverRequest) : Outgoing :=
  ⟨.provisional, request.clientInfo, store 4 request.id.toNat⟩

def replyHdrTagged (id code dataSize lrnSize : Nat) : Bytes :=
  store 4 id ++ (store 1 code ++ (store 1 dataSize ++ store 1 lrnSize))

def sendTaggedReply (request : ResolverRequest) : Outgoing :=
  let lrn := request.result.localRoutingNumber
  let tag := request.result.localRoutingTag
  ⟨.tagged, request.clientInfo,
    replyHdrTagged request.id.toNat ECErrorId.noError.value (lrn.length + tag.length) lrn.length ++
      (lrn ++ tag)⟩

def replyHdrCnam (id jsonSize : Nat) : Bytes := store 4 id ++ store 4 jsonSize

def sendJsonReply (request : ResolverRequest) : Outgoing :=
  ⟨.json, request.clientInfo,
    replyHdrCnam request.id.toNat request.result.rawData.length ++ request.result.rawData⟩

def sendReply (request : ResolverRequest) : Option Outgoing :=
  if request.type = taggedReqVersion then some (sendTaggedReply request)
  else if request.type = cnamReqVersion then some (sendJsonReply request)
  else none

def replyHdrTaggedErr (id code descSize : Nat) : Bytes :=
  store 4 id ++ (store 1 code ++ store 1 descSize)

def sendTaggedErrorReply (request : ResolverRequest) (error : CResolverError) : Outgoing :=
  ⟨.taggedError, request.clientInfo,
    replyHdrTaggedErr request.id.toNat error.code.value error.what.length ++ error.what⟩

def errorJson (error : CResolverError) : Bytes :=
  bytesOf "\x7b\"error\":\x7b\"code\":" ++ JsonItems.decimal error.code.value ++
    bytesOf ",\"reason\":\"" ++ error.what ++ bytesOf "\"\x7d\x7d"

def sendJsonErrorReply (request : ResolverRequest) (error : CResolverError) : Outgoing :=
  ⟨.jsonError, request.clientInfo,
    replyHdrCnam request.id.toNat (errorJson error).length ++ errorJson error⟩

def sendErrorReply (request : ResolverRequest) (error : CResolverError) : Option Outgoing :=
  if request.type = taggedReqVersion then some (sendTaggedErrorReply request error)
  else if request.type = cnamReqVersion then some (sendJsonErrorReply request error)
  else none

/-- Every reply starts with the four bytes of the request's id. -/
def Outgoing.CarriesId (outgoing : Outgoing) (id : UInt32) : Prop :=
  window 0 4 outgoing.payload = store 4 id.toNat

-- Every reply begins with hdr_common, so one lemma serves them all.
theorem id_prefix (id : Nat) (rest : Bytes) : window 0 4 (store 4 id ++ rest) = store 4 id := by
  have field := window_middle [] (store 4 id) rest
  simpa using field

theorem provisional_carries_id (request : ResolverRequest) :
    (sendProvisionalReply request).CarriesId request.id := by
  have field := id_prefix request.id.toNat []
  simpa [Outgoing.CarriesId, sendProvisionalReply] using field

/-- A successful final reply goes to the requester and carries its id. -/
theorem send_reply_spec (request : ResolverRequest) (outgoing : Outgoing)
    (sent : sendReply request = some outgoing) :
    outgoing.clientInfo = request.clientInfo ∧ outgoing.CarriesId request.id ∧
      outgoing.kind.isFinal = true := by
  unfold sendReply at sent
  split at sent
  · cases sent
    refine ⟨rfl, ?_, rfl⟩
    simp only [Outgoing.CarriesId, sendTaggedReply, replyHdrTagged, List.append_assoc]
    exact id_prefix _ _
  · split at sent
    · cases sent
      refine ⟨rfl, ?_, rfl⟩
      simp only [Outgoing.CarriesId, sendJsonReply, replyHdrCnam, List.append_assoc]
      exact id_prefix _ _
    · cases sent

theorem send_error_reply_spec (request : ResolverRequest) (error : CResolverError)
    (outgoing : Outgoing) (sent : sendErrorReply request error = some outgoing) :
    outgoing.clientInfo = request.clientInfo ∧ outgoing.CarriesId request.id ∧
      outgoing.kind.isFinal = true := by
  unfold sendErrorReply at sent
  split at sent
  · cases sent
    refine ⟨rfl, ?_, rfl⟩
    simp only [Outgoing.CarriesId, sendTaggedErrorReply, replyHdrTaggedErr, List.append_assoc]
    exact id_prefix _ _
  · split at sent
    · cases sent
      refine ⟨rfl, ?_, rfl⟩
      simp only [Outgoing.CarriesId, sendJsonErrorReply, replyHdrCnam, List.append_assoc]
      exact id_prefix _ _
    · cases sent

theorem error_reply_no_result (request : ResolverRequest) (error : CResolverError)
    (outgoing : Outgoing) (sent : sendErrorReply request error = some outgoing) :
    outgoing.kind.isResult = false := by
  unfold sendErrorReply at sent
  split at sent
  · cases sent
    rfl
  · split at sent
    · cases sent
      rfl
    · cases sent

/-! The receiver's reading of `reply_hdr_tagged`. -/

structure TaggedReply where
  id : UInt32
  code : Nat
  lrn : Bytes
  tag : Bytes
  deriving DecidableEq, Repr

def taggedHeaderSize : Nat := 7

def replyDataSize (datagram : Bytes) : Nat := load (window 5 1 datagram)
def replyLrnSize (datagram : Bytes) : Nat := load (window 6 1 datagram)

def decodeTaggedReply (datagram : Bytes) : Option TaggedReply :=
  let dataSize := replyDataSize datagram
  let lrnSize := replyLrnSize datagram
  if datagram.length < taggedHeaderSize + dataSize ∨ dataSize < lrnSize then none
  else
    let data := window taggedHeaderSize dataSize datagram
    some
      { id := UInt32.ofNat (load (window 0 4 datagram))
        code := load (window 4 1 datagram)
        lrn := data.take lrnSize
        tag := data.drop lrnSize }

/-- What the reader of a tagged reply relies on, for the reply to `request`. -/
def RoundTrip (request : ResolverRequest) : Prop :=
  decodeTaggedReply (sendTaggedReply request).payload =
      some ⟨request.id, ECErrorId.noError.value, request.result.localRoutingNumber,
        request.result.localRoutingTag⟩ ∧
    taggedHeaderSize + replyDataSize (sendTaggedReply request).payload =
      (sendTaggedReply request).payload.length

theorem tagged_payload_length (request : ResolverRequest) :
    (sendTaggedReply request).payload.length = taggedHeaderSize +
      (request.result.localRoutingNumber.length + request.result.localRoutingTag.length) := by
  simp only [sendTaggedReply, replyHdrTagged, List.length_append, store_length, taggedHeaderSize]

section TaggedHeader

variable (id code dataSize lrnSize : Nat) (body : Bytes)

theorem header_id : window 0 4 (replyHdrTagged id code dataSize lrnSize ++ body) = store 4 id := by
  simp only [replyHdrTagged, List.append_assoc]
  exact id_prefix _ _

theorem header_code :
    window 4 1 (replyHdrTagged id code dataSize lrnSize ++ body) = store 1 code := by
  have field := window_middle (store 4 id) (store 1 code) (store 1 dataSize ++ (store 1 lrnSize ++ body))
  simpa only [replyHdrTagged, List.append_assoc, store_length] using field

theorem header_data_size :
    window 5 1 (replyHdrTagged id code dataSize lrnSize ++ body) = store 1 dataSize := by
  have field := window_middle (store 4 id ++ store 1 code) (store 1 dataSize) (store 1 lrnSize ++ body)
  simpa only [replyHdrTagged, List.append_assoc, List.length_append, store_length] using field

theorem header_lrn_size :
    window 6 1 (replyHdrTagged id code dataSize lrnSize ++ body) = store 1 lrnSize := by
  have field := window_middle (store 4 id ++ (store 1 code ++ store 1 dataSize)) (store 1 lrnSize) body
  simpa only [replyHdrTagged, List.append_assoc, List.length_append, store_length] using field

theorem header_body :
    window taggedHeaderSize body.length (replyHdrTagged id code dataSize lrnSize ++ body) = body := by
  have field := window_middle (replyHdrTagged id code dataSize lrnSize) body []
  simpa only [replyHdrTagged, List.append_nil, List.length_append, store_length,
    taggedHeaderSize] using field

end TaggedHeader

theorem reply_data_size (request : ResolverRequest) :
    replyDataSize (sendTaggedReply request).payload =
      (request.result.localRoutingNumber.length + request.result.localRoutingTag.length) % 256 := by
  rw [replyDataSize, sendTaggedReply, header_data_size, load_store]
  rfl

theorem tagged_reply_decodes (request : ResolverRequest)
    (short : request.result.localRoutingNumber.length +
      request.result.localRoutingTag.length ≤ 255) :
    decodeTaggedReply (sendTaggedReply request).payload =
      some ⟨request.id, ECErrorId.noError.value, request.result.localRoutingNumber,
        request.result.localRoutingTag⟩ := by
  have length := tagged_payload_length request
  have dataSize : replyDataSize (sendTaggedReply request).payload =
      request.result.localRoutingNumber.length + request.result.localRoutingTag.length := by
    rw [reply_data_size, Nat.mod_eq_of_lt (by omega)]
  have lrnSize : replyLrnSize (sendTaggedReply request).payload =
      request.result.localRoutingNumber.length := by
    rw [replyLrnSize, sendTaggedReply, header_lrn_size, load_store_fits 1 _ (by omega)]
  have data : window taggedHeaderSize
      (request.result.localRoutingNumber.length + request.result.localRoutingTag.length)
      (sendTaggedReply request).payload =
      request.result.localRoutingNumber ++ request.result.localRoutingTag := by
    have body := header_body request.id.toNat ECErrorId.noError.value
      (request.result.localRoutingNumber.length + request.result.localRoutingTag.length)
      request.result.localRoutingNumber.length
      (request.result.localRoutingNumber ++ request.result.localRoutingTag)
    rwa [List.length_append] at body
  have accepts : ¬ ((sendTaggedReply request).payload.length < taggedHeaderSize +
      (request.result.localRoutingNumber.length + request.result.localRoutingTag.length) ∨
      request.result.localRoutingNumber.length + request.result.localRoutingTag.length <
        request.result.localRoutingNumber.length) := by omega
  have id : UInt32.ofNat (load (window 0 4 (sendTaggedReply request).payload)) = request.id := by
    rw [sendTaggedReply, header_id, load_store_fits 4 _ request.id.toNat_lt, UInt32.ofNat_toNat]
  have code : load (window 4 1 (sendTaggedReply request).payload) = ECErrorId.noError.value := by
    rw [sendTaggedReply, header_code, load_store_fits 1 _ (by decide)]
  simp only [decodeTaggedReply, dataSize, lrnSize, accepts, ↓reduceIte, data, id, code,
    List.take_left, List.drop_left]

theorem round_trip_short (request : ResolverRequest) (readable : RoundTrip request) :
    request.result.localRoutingNumber.length + request.result.localRoutingTag.length ≤ 255 := by
  have whole := readable.2
  rw [reply_data_size, tagged_payload_length] at whole
  -- the announced size is below 256 and equals the real one
  have low := Nat.mod_lt
    (request.result.localRoutingNumber.length + request.result.localRoutingTag.length)
    (show 0 < 256 by decide)
  omega

/-- The two sizes are stored in one byte each, so a success reply is readable
exactly when number and tag together have at most 255 bytes. -/
theorem tagged_reply_round_trip_iff (request : ResolverRequest) :
    RoundTrip request ↔
      request.result.localRoutingNumber.length + request.result.localRoutingTag.length ≤ 255 := by
  constructor
  · exact round_trip_short request
  · intro short
    refine ⟨tagged_reply_decodes request short, ?_⟩
    rw [reply_data_size, tagged_payload_length, Nat.mod_eq_of_lt (by omega)]

/-- A Contact user part of 256 digits and no parameter: the SIP driver takes it
whole as the routing number, and the reply announces no data at all. -/
def longContact : Bytes := List.replicate 256 49

theorem long_contact_reply_unreadable :
    ∃ result, CSipDriver.parse longContact {} = .ok () result ∧
      ¬ RoundTrip { id := 7, type := taggedReqVersion, dbId := 1, result := result } := by
  have plain : semicolon ∉ longContact := by
    intro member
    exact absurd (List.eq_of_mem_replicate member) (by decide)
  refine ⟨{ localRoutingNumber := longContact, rawData := longContact }, ?_, ?_⟩
  · simp [CSipDriver.parse, plain]
  · intro readable
    have short := round_trip_short _ readable
    simp only [longContact, List.length_replicate, List.length_nil] at short
    omega

end LnpResolver.ReplyWire

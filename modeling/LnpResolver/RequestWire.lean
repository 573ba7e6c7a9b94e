import Mathlib.Data.List.GetD
import LnpResolver.Transport

/-!
Requests on the wire: the packed headers of resolver/Resolver.cpp and
ResolverRequest::parse. The two formats share the six common bytes. A failing
parse leaves the record half filled, and the error reply depends on how far it
got, so both outcomes carry the record. Integers have the host byte order of the
supported little-endian builds, and size_t has 64 bits.
-/

namespace LnpResolver.RequestWire

open PackedBytes Transport

def bytesOf (text : String) : Bytes := text.toUTF8.data.toList

inductive ECErrorId where
  | noError | generalError | psqlInvalidRequest | generalResolvingError | driverResolvingError
  deriving DecidableEq, Repr

def ECErrorId.value : ECErrorId → Nat
  | .noError => 0
  | .generalError => 1
  | .psqlInvalidRequest => 11
  | .generalResolvingError => 21
  | .driverResolvingError => 22

structure CResolverError where
  code : ECErrorId
  what : Bytes
  deriving DecidableEq, Repr

structure SResult where
  localRoutingNumber : Bytes := []
  localRoutingTag : Bytes := []
  rawData : Bytes := []
  deriving DecidableEq, Repr, Inhabited

/-- The record of resolver/Resolver.h with its default member initializers.
`serial` is a history variable, the number of the datagram among all received
ones; no function of the program reads it. -/
structure ResolverRequest where
  id : UInt32 := 4294967295
  type : Int := -1
  dbId : Int := -1
  clientInfo : ClientInfo := default
  data : Bytes := []
  isDone : Bool := false
  result : SResult := {}
  serial : Nat := 0
  deriving DecidableEq, Repr, Inhabited

def taggedReqVersion : Int := 0
def cnamReqVersion : Int := 1

def reqHdrCommonSize : Nat := 6
def taggedPduHdrSize : Nat := reqHdrCommonSize + 1
def cnamHdrSize : Nat := reqHdrCommonSize + 4

/-! Fields of `req_hdr_cominbed`, read from the receive buffer. -/

def headerId (recv : RecvData) : UInt32 := UInt32.ofNat (load (window 0 4 recv.data))
def headerDatabaseId (recv : RecvData) : UInt8 := recv.data.getD 4 0
def headerType (recv : RecvData) : UInt8 := recv.data.getD 5 0
def headerNumberSize (recv : RecvData) : UInt8 := recv.data.getD 6 0
def headerJsonSize (recv : RecvData) : Nat := load (window 6 4 recv.data)

abbrev ParseResult := EStateM.Result CResolverError ResolverRequest Unit

def invalidRequest (text : String) : CResolverError := ⟨.psqlInvalidRequest, bytesOf text⟩

def sizeT : Nat := 2 ^ 64

-- The sum is a size_t and could wrap; `assign_data_eq` shows that it does not.
def assignData (recv : RecvData) (dataOffset dataLen : Nat) (request : ResolverRequest) :
    ParseResult :=
  if (dataOffset + dataLen) % sizeT > recv.length then
    .error (invalidRequest "malformed request") request
  else .ok () { request with data := window dataOffset dataLen recv.data }

def readHeader (recv : RecvData) (request : ResolverRequest) : ResolverRequest :=
  { request with
    clientInfo := recv.clientInfo
    id := headerId recv
    dbId := (headerDatabaseId recv).toNat
    type := (headerType recv).toNat }

def parse (recv : RecvData) (request : ResolverRequest) : ParseResult :=
  if recv.length < reqHdrCommonSize then
    .error (invalidRequest "request is too small") { request with clientInfo := recv.clientInfo }
  else
    let request := readHeader recv request
    if request.type = taggedReqVersion then
      if recv.length < taggedPduHdrSize then
        .error (invalidRequest "request is too small") request
      else assignData recv taggedPduHdrSize (headerNumberSize recv).toNat request
    else if request.type = cnamReqVersion then
      if recv.length < cnamHdrSize then
        .error (invalidRequest "request is too small") request
      else assignData recv cnamHdrSize (headerJsonSize recv) request
    else
      -- the reply to an unknown type is forced to the tagged form
      .error (invalidRequest "unknown request type") { request with type := taggedReqVersion }

/-! The documented format, stated on the received bytes without wrap-around. -/

def TaggedFormat (recv : RecvData) : Prop :=
  headerType recv = 0 ∧ 7 ≤ recv.length ∧ 7 + (headerNumberSize recv).toNat ≤ recv.length

def CnamFormat (recv : RecvData) : Prop :=
  headerType recv = 1 ∧ 10 ≤ recv.length ∧ 10 + headerJsonSize recv ≤ recv.length

def WellFormed (recv : RecvData) : Prop :=
  6 ≤ recv.length ∧ (TaggedFormat recv ∨ CnamFormat recv)

def layoutData (recv : RecvData) : Bytes :=
  if headerType recv = 0 then window 7 (headerNumberSize recv).toNat recv.data
  else window 10 (headerJsonSize recv) recv.data

def accepted (recv : RecvData) (request : ResolverRequest) : ResolverRequest :=
  { readHeader recv request with data := layoutData recv }

theorem json_size_lt (recv : RecvData) : headerJsonSize recv < 2 ^ 32 := by
  have short : (window 6 4 recv.data).length = 4 :=
    window_length 6 4 recv.data (by rw [recv.sized]; decide)
  simpa [headerJsonSize, short] using load_lt (window 6 4 recv.data)

/-- With lengths below 2^32 the sum of size_t values never wraps. -/
theorem assign_data_eq (recv : RecvData) (dataOffset dataLen : Nat) (request : ResolverRequest)
    (offset : dataOffset ≤ 10) (short : dataLen < 2 ^ 32) :
    assignData recv dataOffset dataLen request =
      if recv.length < dataOffset + dataLen then
        .error (invalidRequest "malformed request") request
      else .ok () { request with data := window dataOffset dataLen recv.data } := by
  have exact : (dataOffset + dataLen) % sizeT = dataOffset + dataLen := by
    apply Nat.mod_eq_of_lt
    simp only [sizeT]
    omega
  simp only [assignData, exact, gt_iff_lt]

theorem type_tagged_iff (recv : RecvData) (request : ResolverRequest) :
    (readHeader recv request).type = taggedReqVersion ↔ headerType recv = 0 := by
  simp only [readHeader, taggedReqVersion]
  rw [← UInt8.toNat_inj]
  exact Int.natCast_inj

theorem type_cnam_iff (recv : RecvData) (request : ResolverRequest) :
    (readHeader recv request).type = cnamReqVersion ↔ headerType recv = 1 := by
  simp only [readHeader, cnamReqVersion]
  rw [← UInt8.toNat_inj]
  exact Int.natCast_inj

theorem parse_too_small (recv : RecvData) (request : ResolverRequest) (small : recv.length < 6) :
    parse recv request = .error (invalidRequest "request is too small")
      { request with clientInfo := recv.clientInfo } := by
  simp [parse, reqHdrCommonSize, small]

theorem parse_tagged (recv : RecvData) (request : ResolverRequest) (enough : 6 ≤ recv.length)
    (tagged : headerType recv = 0) :
    parse recv request =
      if recv.length < 7 then
        .error (invalidRequest "request is too small") (readHeader recv request)
      else if recv.length < 7 + (headerNumberSize recv).toNat then
        .error (invalidRequest "malformed request") (readHeader recv request)
      else .ok () (accepted recv request) := by
  have common : ¬ recv.length < reqHdrCommonSize := by simp only [reqHdrCommonSize]; omega
  have short : (headerNumberSize recv).toNat < 2 ^ 32 := by
    have := (headerNumberSize recv).toNat_lt
    omega
  simp only [parse, common, ↓reduceIte, (type_tagged_iff recv request).mpr tagged,
    show taggedPduHdrSize = 7 from rfl, accepted, layoutData, tagged,
    assign_data_eq recv 7 _ _ (by decide) short]

theorem parse_cnam (recv : RecvData) (request : ResolverRequest) (enough : 6 ≤ recv.length)
    (cnam : headerType recv = 1) :
    parse recv request =
      if recv.length < 10 then
        .error (invalidRequest "request is too small") (readHeader recv request)
      else if recv.length < 10 + headerJsonSize recv then
        .error (invalidRequest "malformed request") (readHeader recv request)
      else .ok () (accepted recv request) := by
  have common : ¬ recv.length < reqHdrCommonSize := by simp only [reqHdrCommonSize]; omega
  have other : ¬ cnamReqVersion = taggedReqVersion := by decide
  simp only [parse, common, other, ↓reduceIte, (type_cnam_iff recv request).mpr cnam,
    show cnamHdrSize = 10 from rfl, accepted, layoutData, cnam, show ¬ (1 : UInt8) = 0 by decide,
    assign_data_eq recv 10 _ _ (by decide) (json_size_lt recv)]

theorem parse_unknown (recv : RecvData) (request : ResolverRequest) (enough : 6 ≤ recv.length)
    (notTagged : headerType recv ≠ 0) (notCnam : headerType recv ≠ 1) :
    parse recv request = .error (invalidRequest "unknown request type")
      { readHeader recv request with type := taggedReqVersion } := by
  have common : ¬ recv.length < reqHdrCommonSize := by simp only [reqHdrCommonSize]; omega
  simp only [parse, common, ↓reduceIte, (type_tagged_iff recv request).not.mpr notTagged,
    (type_cnam_iff recv request).not.mpr notCnam]

/-- The form of the error reply a rejected datagram will get. -/
def forcedType (recv : RecvData) : Int :=
  if headerType recv = 1 then cnamReqVersion else taggedReqVersion

theorem tagged_well_formed (recv : RecvData) (enough : 6 ≤ recv.length)
    (tagged : headerType recv = 0) : WellFormed recv ↔
      7 ≤ recv.length ∧ 7 + (headerNumberSize recv).toNat ≤ recv.length := by
  constructor
  · rintro ⟨_, ⟨_, sizes⟩ | ⟨cnam, _⟩⟩
    · exact sizes
    · rw [tagged] at cnam
      exact absurd cnam (by decide)
  · intro sizes
    exact ⟨enough, Or.inl ⟨tagged, sizes⟩⟩

theorem cnam_well_formed (recv : RecvData) (enough : 6 ≤ recv.length)
    (cnam : headerType recv = 1) : WellFormed recv ↔
      10 ≤ recv.length ∧ 10 + headerJsonSize recv ≤ recv.length := by
  constructor
  · rintro ⟨_, ⟨tagged, _⟩ | ⟨_, sizes⟩⟩
    · rw [cnam] at tagged
      exact absurd tagged (by decide)
    · exact sizes
  · intro sizes
    exact ⟨enough, Or.inr ⟨cnam, sizes⟩⟩

-- The two formats fail in the same two places; only their header and length differ.
theorem format_cases (recv : RecvData) (request : ResolverRequest) (header size : Nat)
    (wellFormed : WellFormed recv ↔ header ≤ recv.length ∧ header + size ≤ recv.length)
    (parsed : parse recv request =
      if recv.length < header then
        .error (invalidRequest "request is too small") (readHeader recv request)
      else if recv.length < header + size then
        .error (invalidRequest "malformed request") (readHeader recv request)
      else .ok () (accepted recv request)) :
    (WellFormed recv ∧ parse recv request = .ok () (accepted recv request)) ∨
    (¬ WellFormed recv ∧ ∃ error, parse recv request = .error error (readHeader recv request)) := by
  rw [parsed, wellFormed]
  by_cases short : recv.length < header
  · exact Or.inr ⟨by omega, _, if_pos short⟩
  · by_cases cut : recv.length < header + size
    · exact Or.inr ⟨by omega, _, by rw [if_neg short, if_pos cut]⟩
    · exact Or.inl ⟨by omega, by rw [if_neg short, if_neg cut]⟩

/-- Everything ResolverRequest::parse can do, one disjunct per way out. -/
theorem parse_cases (recv : RecvData) (request : ResolverRequest) :
    (WellFormed recv ∧ parse recv request = .ok () (accepted recv request)) ∨
    (¬ WellFormed recv ∧ 6 ≤ recv.length ∧ ∃ error half, parse recv request = .error error half ∧
      half.id = headerId recv ∧ half.type = forcedType recv ∧
      half.clientInfo = recv.clientInfo ∧ half.serial = request.serial) ∨
    (¬ WellFormed recv ∧ recv.length < 6 ∧ ∃ error, parse recv request = .error error
      { request with clientInfo := recv.clientInfo }) := by
  by_cases enough : 6 ≤ recv.length
  · by_cases tagged : headerType recv = 0
    · have form : (readHeader recv request).type = forcedType recv := by
        rw [(type_tagged_iff recv request).mpr tagged, forcedType, tagged]
        rfl
      rcases format_cases recv request 7 _ (tagged_well_formed recv enough tagged)
        (parse_tagged recv request enough tagged) with success | ⟨rejected, error, failed⟩
      · exact Or.inl success
      · exact Or.inr (Or.inl ⟨rejected, enough, error, _, failed, rfl, form, rfl, rfl⟩)
    · by_cases cnam : headerType recv = 1
      · have form : (readHeader recv request).type = forcedType recv := by
          rw [(type_cnam_iff recv request).mpr cnam, forcedType, cnam]
          rfl
        rcases format_cases recv request 10 _ (cnam_well_formed recv enough cnam)
          (parse_cnam recv request enough cnam) with success | ⟨rejected, error, failed⟩
        · exact Or.inl success
        · exact Or.inr (Or.inl ⟨rejected, enough, error, _, failed, rfl, form, rfl, rfl⟩)
      · have rejected : ¬ WellFormed recv := by
          rintro ⟨_, ⟨isTagged, _⟩ | ⟨isCnam, _⟩⟩
          · exact tagged isTagged
          · exact cnam isCnam
        exact Or.inr (Or.inl ⟨rejected, enough, _, _, parse_unknown recv request enough tagged cnam,
          rfl, by simp [forcedType, cnam], rfl, rfl⟩)
  · have rejected : ¬ WellFormed recv := fun wellFormed => enough wellFormed.1
    exact Or.inr (Or.inr ⟨rejected, by omega, _, parse_too_small recv request (by omega)⟩)

theorem parse_accepts_iff (recv : RecvData) (request : ResolverRequest) :
    (∃ parsed, parse recv request = .ok () parsed) ↔ WellFormed recv := by
  rcases parse_cases recv request with ⟨wellFormed, parsed⟩ | ⟨rejected, _, error, half, failed, _⟩ |
    ⟨rejected, _, error, failed⟩
  · exact ⟨fun _ => wellFormed, fun _ => ⟨_, parsed⟩⟩
  · exact ⟨fun ⟨_, parsed⟩ => by simp [failed] at parsed, fun wellFormed => absurd wellFormed rejected⟩
  · exact ⟨fun ⟨_, parsed⟩ => by simp [failed] at parsed, fun wellFormed => absurd wellFormed rejected⟩

theorem parse_accepted (recv : RecvData) (request parsed : ResolverRequest)
    (success : parse recv request = .ok () parsed) : parsed = accepted recv request := by
  rcases parse_cases recv request with ⟨_, same⟩ | ⟨_, _, error, half, failed, _⟩ | ⟨_, _, error, failed⟩
  · rw [same] at success
    cases success
    rfl
  · simp [failed] at success
  · simp [failed] at success

/-- An accepted request is of one of the two kinds. -/
theorem accepted_type (recv : RecvData) (request : ResolverRequest) (wellFormed : WellFormed recv) :
    (accepted recv request).type = taggedReqVersion ∨
      (accepted recv request).type = cnamReqVersion := by
  rcases wellFormed.2 with ⟨tagged, _⟩ | ⟨cnam, _⟩
  · exact Or.inl ((type_tagged_iff recv request).mpr tagged)
  · exact Or.inr ((type_cnam_iff recv request).mpr cnam)

/-! The client's side of the layout comments, used to state the round trip. -/

inductive RequestType where
  | tagged | cnam
  deriving DecidableEq, Repr

def RequestType.version : RequestType → UInt8
  | .tagged => 0
  | .cnam => 1

def RequestType.sizeWidth : RequestType → Nat
  | .tagged => 1
  | .cnam => 4

def encode (id : UInt32) (databaseId : UInt8) (type : RequestType) (data : Bytes) : Bytes :=
  store 4 id.toNat ++ ([databaseId, type.version] ++ (store type.sizeWidth data.length ++ data))

def Fits (type : RequestType) (data : Bytes) : Prop :=
  data.length < 256 ^ type.sizeWidth ∧ 6 + type.sizeWidth + data.length ≤ msgSz

theorem encode_length (id : UInt32) (databaseId : UInt8) (type : RequestType) (data : Bytes) :
    (encode id databaseId type data).length = 6 + type.sizeWidth + data.length := by
  simp only [encode, List.length_append, store_length, List.length_cons, List.length_nil]
  omega

section EncodedHeader

variable (fd : Int) (sender : SockaddrIn) (id : UInt32) (databaseId : UInt8) (type : RequestType)
  (data : Bytes) (fits : Fits type data)

def encoded : RecvData := recvData fd sender (encode id databaseId type data)

include fits

theorem encoded_short : (encode id databaseId type data).length ≤ msgSz := by
  rw [encode_length]
  exact fits.2

theorem encoded_length :
    (encoded fd sender id databaseId type data).length = 6 + type.sizeWidth + data.length := by
  rw [encoded, recv_data_length _ _ _ (encoded_short id databaseId type data fits), encode_length]

theorem encoded_window (offset width : Nat) (inside : offset + width ≤ 6 + type.sizeWidth + data.length) :
    window offset width (encoded fd sender id databaseId type data).data =
      window offset width (encode id databaseId type data) :=
  recv_data_window fd sender _ (encoded_short id databaseId type data fits) offset width
    (by rwa [encode_length])

theorem encoded_byte (offset : Nat) (inside : offset < 6 + type.sizeWidth + data.length) :
    (encoded fd sender id databaseId type data).data.getD offset 0 =
      (encode id databaseId type data).getD offset 0 := by
  have short := encoded_short id databaseId type data fits
  change (buffer _).getD offset 0 = _
  rw [buffer_eq _ short, List.getD_append _ _ _ _ (by rwa [encode_length])]

theorem encoded_id : headerId (encoded fd sender id databaseId type data) = id := by
  have field := window_middle [] (store 4 id.toNat)
    ([databaseId, type.version] ++ (store type.sizeWidth data.length ++ data))
  simp only [List.length_nil, store_length, List.nil_append] at field
  rw [headerId, encoded_window _ _ _ _ _ _ fits 0 4 (by omega), encode, field,
    load_store_fits 4 _ id.toNat_lt, UInt32.ofNat_toNat]

theorem encoded_database_id :
    headerDatabaseId (encoded fd sender id databaseId type data) = databaseId := by
  rw [headerDatabaseId, encoded_byte _ _ _ _ _ _ fits 4 (by omega), encode,
    List.getD_append_right _ _ _ _ (by simp)]
  simp

theorem encoded_type : headerType (encoded fd sender id databaseId type data) = type.version := by
  rw [headerType, encoded_byte _ _ _ _ _ _ fits 5 (by omega), encode,
    List.getD_append_right _ _ _ _ (by simp)]
  simp

theorem encoded_size_window :
    window 6 type.sizeWidth (encoded fd sender id databaseId type data).data =
      store type.sizeWidth data.length := by
  have field := window_middle (store 4 id.toNat ++ [databaseId, type.version])
    (store type.sizeWidth data.length) data
  simp only [List.length_append, store_length, List.length_cons, List.length_nil] at field
  rw [encoded_window _ _ _ _ _ _ fits 6 _ (by omega), encode, ← List.append_assoc, field]

theorem encoded_data_window :
    window (6 + type.sizeWidth) data.length (encoded fd sender id databaseId type data).data =
      data := by
  have field := window_middle
    (store 4 id.toNat ++ ([databaseId, type.version] ++ store type.sizeWidth data.length)) data []
  simp only [List.length_append, store_length, List.length_cons, List.length_nil,
    List.append_nil, List.append_assoc] at field
  rw [encoded_window _ _ _ _ _ _ fits _ _ (by omega), encode]
  have offset : 6 + type.sizeWidth = 4 + (0 + 1 + 1 + type.sizeWidth) := by omega
  rw [offset, field]

end EncodedHeader

theorem encoded_number_size (fd : Int) (sender : SockaddrIn) (id : UInt32) (databaseId : UInt8)
    (data : Bytes) (fits : Fits .tagged data) :
    (headerNumberSize (encoded fd sender id databaseId .tagged data)).toNat = data.length := by
  have small : data.length < 256 := fits.1
  have at6 := encoded_byte fd sender id databaseId .tagged data fits 6
    (by simp only [RequestType.sizeWidth]; omega)
  rw [headerNumberSize, at6, encode, List.getD_append_right _ _ _ _ (by simp)]
  simp only [RequestType.sizeWidth, store]
  simpa using Nat.mod_eq_of_lt small

theorem encoded_json_size (fd : Int) (sender : SockaddrIn) (id : UInt32) (databaseId : UInt8)
    (data : Bytes) (fits : Fits .cnam data) :
    headerJsonSize (encoded fd sender id databaseId .cnam data) = data.length := by
  have field := encoded_size_window fd sender id databaseId .cnam data fits
  simp only [RequestType.sizeWidth] at field
  rw [headerJsonSize, field]
  exact load_store_fits 4 _ fits.1

/-- Parsing what a client wrote by the layout comments gives its fields back. -/
theorem parse_encode (fd : Int) (sender : SockaddrIn) (id : UInt32) (databaseId : UInt8)
    (type : RequestType) (data : Bytes) (fits : Fits type data) (request : ResolverRequest) :
    parse (encoded fd sender id databaseId type data) request = .ok ()
      { request with
        clientInfo := ⟨sender, sockaddrInSize, fd⟩, id := id, dbId := databaseId.toNat,
        type := type.version.toNat, data := data } := by
  have length := encoded_length fd sender id databaseId type data fits
  have typeIs := encoded_type fd sender id databaseId type data fits
  have body := encoded_data_window fd sender id databaseId type data fits
  have header : readHeader (encoded fd sender id databaseId type data) request =
      { request with
        clientInfo := ⟨sender, sockaddrInSize, fd⟩, id := id, dbId := databaseId.toNat,
        type := type.version.toNat } := by
    simp only [readHeader, encoded_id fd sender id databaseId type data fits,
      encoded_database_id fd sender id databaseId type data fits, typeIs]
    rfl
  cases type with
  | tagged =>
      have size := encoded_number_size fd sender id databaseId data fits
      have isTagged : headerType (encoded fd sender id databaseId .tagged data) = 0 := typeIs
      simp only [RequestType.sizeWidth] at length body
      rw [parse_tagged _ _ (by omega) isTagged, if_neg (by omega), if_neg (by omega), accepted,
        layoutData, if_pos isTagged, size, body, header]
  | cnam =>
      have size := encoded_json_size fd sender id databaseId data fits
      simp only [RequestType.sizeWidth] at length body
      rw [parse_cnam _ _ (by omega) typeIs, if_neg (by omega), if_neg (by omega), accepted,
        layoutData, if_neg (by rw [typeIs]; decide), size, body, header]

end LnpResolver.RequestWire

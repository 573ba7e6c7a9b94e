import LnpResolver.RecordedAccess
import LnpResolver.RequestWire

/-!
The receive buffer and its bounds: Transport::recv_data and ResolverRequest::parse
with every index of RecvData::data that they store to or read. Without the record
these are the receive path of the transport and the parser of requests. The record
passed in is on the stack of Transport::handle_event and has any content.
-/

namespace LnpResolver.ReceiveBounds

open PackedBytes RecordedAccess Transport RequestWire

/-- The memory of a RecvData. -/
@[ext] structure Memory where
  clientInfo : ClientInfo
  data : Bytes
  length : Nat
  sized : data.length = msgSz

def memoryOf (recv : RecvData) : Memory := ⟨recv.clientInfo, recv.data, recv.length, recv.sized⟩

structure Received where
  ret : Int
  out : Memory
  stored : List Nat

/-- `memset(&out.data, 0, sizeof(char) * MSG_SZ)` -/
def zeroed (out : Memory) : Recorded := storeBytes 0 (List.replicate msgSz 0) ⟨out.data, []⟩

/-- What recvfrom stores, and the terminator behind it. -/
def filled (received : Bytes) (data : Recorded) : Recorded :=
  if 0 < received.length then storeByte received.length 0 (storeBytes 0 received data)
  else storeBytes 0 received data

theorem zeroed_length (out : Memory) : (zeroed out).data.length = msgSz := by
  rw [zeroed, storeBytes_length]
  exact out.sized

theorem filled_length (received : Bytes) (data : Recorded) :
    (filled received data).data.length = data.data.length := by
  unfold filled
  split
  · rw [storeByte, List.length_set, storeBytes_length]
  · rw [storeBytes_length]

/-- Transport::recv_data. recvfrom yields the front of a datagram, or fails. -/
def recvDataRecorded (fd : Int) (sender : SockaddrIn) (delivery : Option Bytes) (out : Memory) :
    Received :=
  if fd < 0 then ⟨-1, out, []⟩
  else
    match delivery with
    | none =>
        { ret := -1
          out := ⟨⟨⟨0, 0⟩, sockaddrInSize, fd⟩, (zeroed out).data, 0, zeroed_length out⟩
          stored := (zeroed out).stored }
    | some datagram =>
        let ret := (datagram.take msgSz).length
        { ret
          out :=
            { clientInfo := ⟨sender, sockaddrInSize, fd⟩
              data := (filled (datagram.take msgSz) (zeroed out)).data
              length := if 0 < ret then ret else 0
              sized := (filled_length _ _).trans (zeroed_length out) }
          stored := (filled (datagram.take msgSz) (zeroed out)).stored }

def assignDataRecorded (recv : Memory) (dataOffset dataLen : Nat) (request : ResolverRequest) :
    Reading ParseResult :=
  if (dataOffset + dataLen) % sizeT > recv.length then
    return .error (invalidRequest "malformed request") request
  else do
    let data ← fetch recv.data dataOffset dataLen
    return .ok () { request with data }

def readHeaderRecorded (recv : Memory) (request : ResolverRequest) : Reading ResolverRequest := do
  let id ← fetch recv.data 0 4
  let databaseId ← fetch recv.data 4 1
  let type ← fetch recv.data 5 1
  return { request with
    clientInfo := recv.clientInfo, id := UInt32.ofNat (load id), dbId := load databaseId,
    type := load type }

def parseRecorded (recv : Memory) (request : ResolverRequest) : Reading ParseResult :=
  if recv.length < reqHdrCommonSize then
    return .error (invalidRequest "request is too small") { request with clientInfo := recv.clientInfo }
  else do
    let request ← readHeaderRecorded recv request
    if request.type = taggedReqVersion then
      if recv.length < taggedPduHdrSize then
        return .error (invalidRequest "request is too small") request
      else
        let numberSize ← fetch recv.data 6 1
        assignDataRecorded recv taggedPduHdrSize (load numberSize) request
    else if request.type = cnamReqVersion then
      if recv.length < cnamHdrSize then
        return .error (invalidRequest "request is too small") request
      else
        let jsonSize ← fetch recv.data 6 4
        assignDataRecorded recv cnamHdrSize (load jsonSize) request
    else
      return .error (invalidRequest "unknown request type") { request with type := taggedReqVersion }

/-- The two functions on one datagram keep to the buffer. -/
structure InsideBuffer (datagram : Bytes) (received : Received) (reads : List Nat) : Prop where
  storedInside : ∀ index ∈ received.stored, index < msgSz
  readInside : ∀ index ∈ reads, index < msgSz
  readReceived : ∀ index ∈ reads, index < received.out.length
  length : received.out.length = min datagram.length msgSz
  returned : received.ret = received.out.length

/-! The parser. The record changes nothing, and has no index outside the datagram. -/

theorem load_byte (array : Bytes) (offset : Nat) (inside : offset < array.length) :
    load (window offset 1 array) = (array.getD offset 0).toNat := by
  have single : window offset 1 array = [array.getD offset 0] := by
    rw [window, List.drop_eq_getElem_cons inside, List.take_succ_cons, List.take_zero,
      List.getD_eq_getElem _ _ inside]
  simp [single, load]

section Parser

variable (recv : RecvData) (request : ResolverRequest)

theorem header_yields (enough : 6 ≤ recv.length) :
    Yields (· < recv.length) (readHeaderRecorded (memoryOf recv) request) (readHeader recv request) := by
  have size := recv.sized
  have room : 5 < msgSz := by decide
  have result : readHeader recv request =
      { request with
        clientInfo := recv.clientInfo
        id := UInt32.ofNat (load (window 0 4 recv.data))
        dbId := load (window 4 1 recv.data)
        type := load (window 5 1 recv.data) } := by
    rw [load_byte recv.data 4 (by omega), load_byte recv.data 5 (by omega)]
    rfl
  rw [result]
  apply yields_bind (yields_fetch _ 0 4 (by omega))
  apply yields_bind (yields_fetch _ 4 1 (by omega))
  apply yields_bind (yields_fetch _ 5 1 (by omega))
  exact yields_pure _

theorem assign_yields (dataOffset dataLen : Nat) (offset : dataOffset ≤ 10)
    (short : dataLen < 2 ^ 32) :
    Yields (· < recv.length) (assignDataRecorded (memoryOf recv) dataOffset dataLen request)
      (assignData recv dataOffset dataLen request) := by
  have whole : (dataOffset + dataLen) % sizeT = dataOffset + dataLen := by
    apply Nat.mod_eq_of_lt
    simp only [sizeT]
    omega
  refine yields_ite (fun _ => yields_pure _) fun fits => ?_
  change ¬ (dataOffset + dataLen) % sizeT > recv.length at fits
  rw [whole] at fits
  exact yields_bind (yields_fetch _ dataOffset dataLen (by omega)) (yields_pure _)

theorem parse_yields :
    Yields (· < recv.length) (parseRecorded (memoryOf recv) request) (parse recv request) := by
  have size := recv.sized
  have room : 6 < msgSz := by decide
  refine yields_ite (fun _ => yields_pure _) fun enough => ?_
  apply yields_bind (header_yields recv request (Nat.le_of_not_lt enough))
  refine yields_ite (fun _ => ?_) fun _ => ?_
  · refine yields_ite (fun _ => yields_pure _) fun long => ?_
    apply yields_bind (yields_fetch _ 6 1 (Nat.le_of_not_lt long))
    have byte : load (window 6 1 recv.data) = (headerNumberSize recv).toNat :=
      load_byte recv.data 6 (by omega)
    have small := (headerNumberSize recv).toNat_lt
    change Yields _ (assignDataRecorded _ _ (load (window 6 1 recv.data)) _) _
    rw [byte]
    exact assign_yields recv _ 7 _ (by decide) (by omega)
  · refine yields_ite (fun _ => ?_) fun _ => yields_pure _
    refine yields_ite (fun _ => yields_pure _) fun long => ?_
    apply yields_bind (yields_fetch _ 6 4 (Nat.le_of_not_lt long))
    exact assign_yields recv _ 10 _ (by decide) (json_size_lt recv)

end Parser

/-! The transport. The terminator behind a full buffer is the one store outside it. -/

section Transport

variable (fd : Int) (opened : 0 ≤ fd) (sender : SockaddrIn) (datagram : Bytes) (out : Memory)

include opened

theorem recv_stored :
    (recvDataRecorded fd sender (some datagram) out).stored =
      List.range' 0 msgSz ++ List.range' 0 (datagram.take msgSz).length ++
        (if 0 < (datagram.take msgSz).length then [(datagram.take msgSz).length] else []) := by
  have valid : ¬ fd < 0 := Int.not_lt.mpr opened
  simp only [recvDataRecorded, valid, ↓reduceIte, filled]
  split
  · rw [storeByte, storeBytes_stored, zeroed, storeBytes_stored, List.length_replicate,
      List.nil_append]
  · rw [storeBytes_stored, zeroed, storeBytes_stored, List.length_replicate, List.nil_append,
      List.append_nil]

theorem recv_length :
    (recvDataRecorded fd sender (some datagram) out).out.length = (datagram.take msgSz).length ∧
      (recvDataRecorded fd sender (some datagram) out).ret = (datagram.take msgSz).length := by
  have valid : ¬ fd < 0 := Int.not_lt.mpr opened
  simp only [recvDataRecorded, valid, ↓reduceIte]
  constructor
  · split <;> omega
  · trivial

omit opened in
theorem zeroed_data : (zeroed out).data = List.replicate msgSz 0 := by
  rw [zeroed, storeBytes_front _ _ (by rw [List.length_replicate, out.sized]),
    List.length_replicate, ← out.sized, List.drop_length, List.append_nil]

omit opened in
theorem filled_data : (filled (datagram.take msgSz) (zeroed out)).data = buffer datagram := by
  have room : (datagram.take msgSz).length ≤ (zeroed out).data.length := by
    rw [zeroed_length]
    exact List.length_take_le _ _
  have front := storeBytes_front (datagram.take msgSz) (zeroed out) room
  rw [zeroed_data, List.drop_replicate] at front
  by_cases some : 0 < (datagram.take msgSz).length
  · rw [filled, if_pos some, storeByte, front]
    rfl
  · -- nothing is stored for an empty datagram, where the buffer has a zero already
    have none : datagram.take msgSz = [] := List.length_eq_zero_iff.mp (by omega)
    have empty : datagram = [] := by
      rcases List.take_eq_nil_iff.mp none with zero | empty
      · exact absurd zero (by decide)
      · exact empty
    rw [filled, if_neg some, front, empty, buffer_eq [] (Nat.zero_le _), List.take_nil]

/-- Without its record this is the receive path of the transport. -/
theorem recv_memory :
    (recvDataRecorded fd sender (some datagram) out).out =
      memoryOf (recvData fd sender datagram) := by
  have valid : ¬ fd < 0 := Int.not_lt.mpr opened
  apply Memory.ext
  · simp only [recvDataRecorded, valid, ↓reduceIte]
    rfl
  · simp only [recvDataRecorded, valid, ↓reduceIte, filled_data]
    rfl
  · exact (recv_length fd opened sender datagram out).1

theorem stored_inside_iff :
    (∀ index ∈ (recvDataRecorded fd sender (some datagram) out).stored, index < msgSz) ↔
      datagram.length < msgSz := by
  have positive : 0 < msgSz := by decide
  rw [recv_stored fd opened sender datagram out]
  constructor
  · intro inside
    by_contra full
    have size : (datagram.take msgSz).length = msgSz := by
      rw [List.length_take]
      omega
    have terminator := inside msgSz (by rw [size, if_pos positive]; simp)
    exact Nat.lt_irrefl _ terminator
  · intro short index member
    have size : (datagram.take msgSz).length = datagram.length := by
      rw [List.length_take]
      omega
    rw [size] at member
    rcases List.mem_append.mp member with front | terminator
    · rcases List.mem_append.mp front with zeroed | received
      · have range := List.mem_range'_1.mp zeroed
        omega
      · have range := List.mem_range'_1.mp received
        omega
    · split at terminator
      · rw [List.mem_singleton.mp terminator]
        exact short
      · cases terminator

end Transport

/-- The receive path keeps to its buffer exactly for a datagram that leaves room
for a terminator. -/
theorem receive_path_iff (fd : Int) (opened : 0 ≤ fd) (sender : SockaddrIn) (datagram : Bytes)
    (out : Memory) (request : ResolverRequest) :
    InsideBuffer datagram (recvDataRecorded fd sender (some datagram) out)
        (accesses (parseRecorded (recvDataRecorded fd sender (some datagram) out).out request)) ↔
      datagram.length < msgSz := by
  have stored := stored_inside_iff fd opened sender datagram out
  obtain ⟨length, returned⟩ := recv_length fd opened sender datagram out
  constructor
  · intro inside
    exact stored.mp inside.storedInside
  · intro short
    have reads : ∀ index ∈ accesses
        (parseRecorded (recvDataRecorded fd sender (some datagram) out).out request),
        index < (datagram.take msgSz).length := by
      rw [recv_memory fd opened sender datagram out]
      exact yields_inside (parse_yields (recvData fd sender datagram) request)
    rw [List.length_take] at length returned reads
    constructor
    · exact stored.mpr short
    · intro index member
      exact Nat.lt_of_lt_of_le (reads index member) (Nat.min_le_left _ _)
    · intro index member
      rw [length]
      exact reads index member
    · rw [length, Nat.min_comm]
    · rw [returned, length]

/-- The record of handle_event before its first use. -/
def stackMemory : Memory := ⟨default, List.replicate msgSz 170, 9, List.length_replicate⟩

def shortDatagram : Bytes := [1, 0, 0, 0, 5, 0, 2, 49, 50]

theorem short_datagram_inside :
    InsideBuffer shortDatagram (recvDataRecorded 3 ⟨16777343, 4114⟩ (some shortDatagram) stackMemory)
      (accesses (parseRecorded
        (recvDataRecorded 3 ⟨16777343, 4114⟩ (some shortDatagram) stackMemory).out {})) :=
  (receive_path_iff 3 (by decide) ⟨16777343, 4114⟩ shortDatagram stackMemory {}).mpr (by decide)

/-- The terminator of a datagram of MSG_SZ bytes is stored behind the buffer. -/
theorem full_datagram_outside :
    ¬ InsideBuffer (List.replicate msgSz 49)
      (recvDataRecorded 3 ⟨16777343, 4114⟩ (some (List.replicate msgSz 49)) stackMemory)
      (accesses (parseRecorded (recvDataRecorded 3 ⟨16777343, 4114⟩
        (some (List.replicate msgSz 49)) stackMemory).out {})) := by
  intro inside
  have short := (stored_inside_iff 3 (by decide) ⟨16777343, 4114⟩ (List.replicate msgSz 49)
    stackMemory).mp inside.storedInside
  rw [List.length_replicate] at short
  exact Nat.lt_irrefl _ short

end LnpResolver.ReceiveBounds

import LnpResolver.PackedBytes

/-!
The UDP transport, transport/Transport.h and Transport::recv_data. A received
datagram sits at the front of a zeroed buffer of MSG_SZ bytes. recvfrom cuts a
longer datagram, and the terminator store behind a full buffer is left to the
buffer-bounds model: `List.set` ignores an index outside the list.
-/

namespace LnpResolver.Transport

open PackedBytes

def msgSz : Nat := 1024 * 2

structure SockaddrIn where
  sinAddr : UInt32
  sinPort : UInt16
  deriving DecidableEq, Repr, Inhabited

structure ClientInfo where
  addr : SockaddrIn
  addrSize : Nat
  recvFd : Int
  deriving DecidableEq, Repr, Inhabited

structure RecvData where
  clientInfo : ClientInfo
  data : Bytes
  length : Nat
  sized : data.length = msgSz
  fits : length ≤ msgSz

def sockaddrInSize : Nat := 16

def buffer (datagram : Bytes) : Bytes :=
  let received := datagram.take msgSz
  (received ++ List.replicate (msgSz - received.length) 0).set received.length 0

theorem buffer_length (datagram : Bytes) : (buffer datagram).length = msgSz := by
  simp only [buffer, List.length_set, List.length_append, List.length_replicate,
    List.length_take]
  omega

def recvData (fd : Int) (sender : SockaddrIn) (datagram : Bytes) : RecvData where
  clientInfo := ⟨sender, sockaddrInSize, fd⟩
  data := buffer datagram
  length := (datagram.take msgSz).length
  sized := buffer_length datagram
  fits := by simp only [List.length_take]; omega

/-- The terminator lands on a byte that memset has zeroed already, or outside. -/
theorem buffer_eq (datagram : Bytes) (short : datagram.length ≤ msgSz) :
    buffer datagram = datagram ++ List.replicate (msgSz - datagram.length) 0 := by
  have whole : datagram.take msgSz = datagram := List.take_of_length_le short
  simp only [buffer, whole]
  rw [List.set_append_right datagram.length _ (Nat.le_refl _), Nat.sub_self]
  cases msgSz - datagram.length with
  | zero => rfl
  | succ rest => rfl

theorem recv_data_length (fd : Int) (sender : SockaddrIn) (datagram : Bytes)
    (short : datagram.length ≤ msgSz) : (recvData fd sender datagram).length = datagram.length := by
  simp [recvData, List.take_of_length_le short]

theorem recv_data_window (fd : Int) (sender : SockaddrIn) (datagram : Bytes)
    (short : datagram.length ≤ msgSz) (offset width : Nat)
    (inside : offset + width ≤ datagram.length) :
    window offset width (recvData fd sender datagram).data = window offset width datagram := by
  change window offset width (buffer datagram) = _
  rw [buffer_eq datagram short]
  exact window_pad offset width datagram _ inside

end LnpResolver.Transport

import VeteraBridge.Lib.EventRun
import VeteraBridge.Lib.Framing
import VeteraBridge.Lib.CheckedMemory

/-!
# The VHCI transport

The controller's task puts each packet for the host in a ring buffer, behind its
length, and asks the run loop to call `transport_deliver_packets` on the main
thread, which takes the packets out again and hands them to the stack.  A mutex
keeps the two apart, but for the call of the stack and for the registration with
the run loop.  A step is what one task does while it holds the mutex, or one of
those two calls.

The ring buffer is BTstack's: its functions are a parameter, and `RingLaws` says
what is known of them.
-/

namespace VeteraBridge.Hci

open ByteWords

/-- `hci_ringbuffer_storage`, with the header sizes of HCI. -/
def ringbufferStorageSize : Nat :=
  20 * (2 + 1 + 4 + 1024) + 10 * (2 + 1 + 3 + 60) + 4 * (2 + 1 + 257)

/-- `btstack_ring_buffer_t` after its initialization, and its functions. -/
structure RingBuffer where
  Ring : Type
  init : Ring
  /-- `btstack_ring_buffer_bytes_free` -/
  bytesFree : Ring → Nat
  /-- `btstack_ring_buffer_bytes_available` -/
  bytesAvailable : Ring → Nat
  /-- `btstack_ring_buffer_write`; nobody looks at its status -/
  write : Ring → List UInt8 → Ring
  /-- `btstack_ring_buffer_read` -/
  read : Ring → Nat → List UInt8 × Ring

/-- A ring buffer of `size` bytes is a queue: a write that does not fit writes
nothing, and a read takes what there is. -/
structure RingLaws (buffer : RingBuffer) (size : Nat)
    (contents : buffer.Ring → List UInt8) : Prop where
  init : contents buffer.init = []
  bounded : ∀ ring, (contents ring).length ≤ size
  bytesFree : ∀ ring, buffer.bytesFree ring = size - (contents ring).length
  bytesAvailable : ∀ ring, buffer.bytesAvailable ring = (contents ring).length
  write : ∀ ring data,
    data.length + (contents ring).length ≤ size →
    contents (buffer.write ring data) = contents ring ++ data
  writeFull : ∀ ring data,
    size < data.length + (contents ring).length →
    contents (buffer.write ring data) = contents ring
  readBytes : ∀ ring count,
    (buffer.read ring count).1 = (contents ring).take count
  readRest : ∀ ring count,
    contents (buffer.read ring count).2 = (contents ring).drop count

/-- A queue of at most `size` bytes. -/
def queueBuffer (size : Nat) : RingBuffer where
  Ring := { bytes : List UInt8 // bytes.length ≤ size }
  init := ⟨[], Nat.zero_le size⟩
  bytesFree ring := size - ring.val.length
  bytesAvailable ring := ring.val.length
  write ring data :=
    if fits : (ring.val ++ data).length ≤ size then ⟨ring.val ++ data, fits⟩
    else ring
  read ring count :=
    (ring.val.take count,
      ⟨ring.val.drop count, by
        rw [List.length_drop]
        exact Nat.le_trans (Nat.sub_le _ count) ring.property⟩)

theorem queueBuffer_laws (size : Nat) :
    RingLaws (queueBuffer size) size Subtype.val where
  init := rfl
  bounded ring := ring.property
  bytesFree _ := rfl
  bytesAvailable _ := rfl
  write ring data fits := by
    have within : (ring.val ++ data).length ≤ size := by
      rw [List.length_append]
      omega
    exact congrArg Subtype.val (dif_pos within)
  writeFull ring data full := by
    have beyond : ¬ (ring.val ++ data).length ≤ size := by
      rw [List.length_append]
      omega
    exact congrArg Subtype.val (dif_neg beyond)
  readBytes _ _ := rfl
  readRest _ _ := rfl

/-! ## The two tasks -/

/-- What the controller's task does next. -/
inductive ControllerPc where
  | idle
  /-- the mutex is given: put the receive callback on the run loop -/
  | stored
deriving DecidableEq, Repr

/-- What the main thread does next. -/
inductive MainPc where
  | idle
  /-- take the mutex and look whether the ring holds bytes -/
  | checks
  /-- the mutex is given: hand over a packet of `len` bytes -/
  | hands (len : UInt32)
deriving DecidableEq, Repr

/-- What `transport_packet_handler` is called with: the type, and the bytes of
the packet. -/
abbrev Handed := UInt8 × List UInt8

structure Transport (buffer : RingBuffer) where
  /-- `hci_ringbuffer` -/
  ring : buffer.Ring
  /-- `hci_receive_buffer` -/
  receiveBuffer : List UInt8
  controller : ControllerPc
  main : MainPc
  /-- `packet_receive_callback_context` is on the list of the run loop -/
  listed : Bool
  /-- a read left `hci_receive_buffer` -/
  overrun : Bool
  /-- the packets that were not dropped -/
  accepted : List (List UInt8)
  /-- what the stack was called with -/
  handed : List Handed

inductive Event where
  /-- the controller calls `host_recv_pkt_cb` -/
  | hostRecv (data : List UInt8)
  /-- its task goes on -/
  | controller
  /-- the main thread goes on; what `len_tag` holds before the read -/
  | main (stale : List UInt8)
deriving DecidableEq, Repr

variable {buffer : RingBuffer}

/-- `btstack_ring_buffer_read` to an array: what is missing stays. -/
def readOver (array : List UInt8) (bytes : List UInt8) : Option (List UInt8) :=
  CheckedMemory.store array 0 bytes

namespace Transport

def boot (buffer : RingBuffer) (receiveBuffer : List UInt8) :
    Transport buffer where
  ring := buffer.init
  receiveBuffer := receiveBuffer
  controller := .idle
  main := .idle
  listed := false
  overrun := false
  accepted := []
  handed := []

/-- `host_recv_pkt_cb` while it holds the mutex. -/
def hostRecvPktCb (data : List UInt8) (s : Transport buffer) :
    Transport buffer :=
  let len := UInt16.ofNat data.length
  let space := UInt16.ofNat (buffer.bytesFree s.ring)
  if space < len then s
  else
    { s with
      ring := buffer.write (buffer.write s.ring (put16 [0, 0] 0 len)) data
      controller := .stored
      accepted := s.accepted ++ [data] }

/-- One turn of the loop of `transport_deliver_packets`, up to the call of the
stack. -/
def deliverPacket (stale : List UInt8) (s : Transport buffer) :
    Transport buffer :=
  if buffer.bytesAvailable s.ring = 0 then { s with main := .idle }
  else
    let tagRead := buffer.read s.ring 2
    let lenTag := (readOver stale tagRead.1).getD stale
    let len := (get16 lenTag 0).toNat
    let packetRead := buffer.read tagRead.2 len
    { s with
      ring := packetRead.2
      receiveBuffer :=
        (readOver s.receiveBuffer packetRead.1).getD s.receiveBuffer
      overrun := s.overrun || (readOver s.receiveBuffer packetRead.1).isNone
      main := .hands (.ofNat len) }

/-- The packet that `hci_receive_buffer` holds, of `size` bytes behind its
type. -/
def received (size : UInt16) (s : Transport buffer) : Handed :=
  (s.receiveBuffer.headD 0, s.receiveBuffer.tail.take size.toNat)

def mainStep (stale : List UInt8) (s : Transport buffer) : Transport buffer :=
  match s.main with
  | .idle => if s.listed then { s with listed := false, main := .checks } else s
  | .checks => s.deliverPacket stale
  | .hands len =>
    { s with
      handed := s.handed ++ [s.received (len - 1).toUInt16]
      main := .checks }

def step (s : Transport buffer) : Event → Transport buffer
  | .hostRecv data =>
    match s.controller with
    | .idle => s.hostRecvPktCb data
    | .stored => s
  | .controller =>
    match s.controller with
    | .idle => s
    | .stored => { s with controller := .idle, listed := true }
  | .main stale => s.mainStep stale

end Transport

end VeteraBridge.Hci

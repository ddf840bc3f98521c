import VeteraBridge.Hci.Transport

/-!
# Packets from the controller reach the stack in order

`host_recv_pkt_cb` compares the free space of the ring with the packet alone.
Where it has no room for the two bytes of the length as well, the length is
written without its packet, and the main thread loses the frames.  In every
other run the stack is called once with each packet that was not dropped, in the
order in which they came, and none is left behind.
-/

namespace VeteraBridge.Hci

open EventRun Framing ByteWords

/-- What the stack is to be called with for a packet. -/
def handedOf (packet : List UInt8) : Handed := (packet.headD 0, packet.tail)

/-- A packet with its type that fits in `hci_receive_buffer`. -/
def Packet (room : Nat) (data : List UInt8) : Prop :=
  data ≠ [] ∧ data.length ≤ room ∧ data.length < 65536

/-- The controller passes packets, and `len_tag` has two bytes. -/
def Event.Proper (room : Nat) : Event → Prop
  | .hostRecv data => Packet room data
  | .controller => True
  | .main stale => stale.length = 2

variable {buffer : RingBuffer} {size : Nat}
  {contents : buffer.Ring → List UInt8} {s : Transport buffer}

namespace Transport

/-- The packet on its way to the stack. -/
def inHand (s : Transport buffer) : List Handed :=
  match s.main with
  | .idle | .checks => []
  | .hands len => [s.received (len - 1).toUInt16]

/-- The stack was called with the first packets, and the ring holds the frames
of the others. -/
def InOrder (contents : buffer.Ring → List UInt8) (s : Transport buffer) :
    Prop :=
  s.overrun = false ∧
    ∃ gone waiting, s.accepted = gone ++ waiting ∧
      s.handed ++ s.inHand = gone.map handedOf ∧
      contents s.ring = frames waiting

/-- A packet that is not dropped finds room for its length as well. -/
def Roomy (s : Transport buffer) : Event → Prop
  | .hostRecv data =>
    s.controller = .idle →
      buffer.bytesFree s.ring < data.length ∨
        data.length + 2 ≤ buffer.bytesFree s.ring
  | .controller | .main _ => True

/-- What the order rests on. -/
structure Ordered (room : Nat) (contents : buffer.Ring → List UInt8)
    (s : Transport buffer) : Prop where
  inOrder : s.InOrder contents
  packets : ∀ packet ∈ s.accepted, Packet room packet
  receiveBuffer : s.receiveBuffer.length = room

/-- Bytes in the ring are waited for. -/
def Woken (contents : buffer.Ring → List UInt8) (s : Transport buffer) : Prop :=
  contents s.ring ≠ [] →
    s.listed = true ∨ s.controller = .stored ∨ s.main ≠ .idle

/-! ## The controller's task -/

/-- The free space as `host_recv_pkt_cb` reads it. -/
theorem bytesFree_lt (laws : RingLaws buffer size contents)
    (small : size < 65536) (ring : buffer.Ring) :
    buffer.bytesFree ring < 65536 := by
  have free := laws.bytesFree ring
  omega

theorem hostRecvPktCb_dropped (laws : RingLaws buffer size contents)
    (small : size < 65536) {data : List UInt8} (fits : data.length < 65536)
    (dropped : buffer.bytesFree s.ring < data.length) :
    s.hostRecvPktCb data = s := by
  have below :
      UInt16.ofNat (buffer.bytesFree s.ring) < UInt16.ofNat data.length := by
    rw [UInt16.lt_iff_toNat_lt, UInt16.toNat_ofNat', UInt16.toNat_ofNat',
      Nat.mod_eq_of_lt (bytesFree_lt laws small s.ring), Nat.mod_eq_of_lt fits]
    exact dropped
  simp only [hostRecvPktCb, below, if_true]

theorem hostRecvPktCb_stored (laws : RingLaws buffer size contents)
    (small : size < 65536) {data : List UInt8} (fits : data.length < 65536)
    (kept : data.length ≤ buffer.bytesFree s.ring) :
    s.hostRecvPktCb data =
      { s with
        ring := buffer.write (buffer.write s.ring (tag data.length)) data
        controller := .stored
        accepted := s.accepted ++ [data] } := by
  have notBelow :
      ¬ UInt16.ofNat (buffer.bytesFree s.ring) < UInt16.ofNat data.length := by
    rw [UInt16.lt_iff_toNat_lt, UInt16.toNat_ofNat', UInt16.toNat_ofNat',
      Nat.mod_eq_of_lt (bytesFree_lt laws small s.ring), Nat.mod_eq_of_lt fits]
    omega
  simp only [hostRecvPktCb, notBelow, if_false, tag]

/-- With room for both, the ring has the whole frame. -/
theorem contents_frame (laws : RingLaws buffer size contents)
    {ring : buffer.Ring} {data : List UInt8}
    (room : data.length + 2 ≤ buffer.bytesFree ring) :
    contents (buffer.write (buffer.write ring (tag data.length)) data) =
      contents ring ++ tag data.length ++ data := by
  have free := laws.bytesFree ring
  have tagged :
      contents (buffer.write ring (tag data.length)) =
        contents ring ++ tag data.length := by
    apply laws.write
    rw [tag_length]
    omega
  rw [laws.write _ _ ?_, tagged]
  rw [tagged, List.length_append, tag_length]
  omega

/-- Without room for both, it has not. -/
theorem contents_short (laws : RingLaws buffer size contents)
    {ring after : buffer.Ring} {data : List UInt8}
    (tight : buffer.bytesFree ring < data.length + 2) :
    contents after ≠ contents ring ++ tag data.length ++ data := by
  have free := laws.bytesFree ring
  have bounded := laws.bounded ring
  have boundedAfter := laws.bounded after
  intro whole
  rw [whole, List.length_append, List.length_append, tag_length] at boundedAfter
  omega

theorem Ordered.hostRecvPktCb (laws : RingLaws buffer size contents)
    (small : size < 65536) {room : Nat} (ordered : s.Ordered room contents)
    {data : List UInt8} (packet : Packet room data)
    (roomy :
      buffer.bytesFree s.ring < data.length ∨
        data.length + 2 ≤ buffer.bytesFree s.ring) :
    (s.hostRecvPktCb data).Ordered room contents := by
  rcases roomy with dropped | enough
  · rw [hostRecvPktCb_dropped laws small packet.2.2 dropped]
    exact ordered
  · rw [hostRecvPktCb_stored laws small packet.2.2 (by omega)]
    obtain ⟨inside, gone, waiting, parts, went, held⟩ := ordered.inOrder
    refine ⟨⟨inside, gone, waiting ++ [data], ?_, went, ?_⟩, ?_,
      ordered.receiveBuffer⟩
    · rw [parts, List.append_assoc]
    · rw [contents_frame laws enough, held, frames_snoc]
    · intro other member
      rcases List.mem_append.mp member with before | last
      · exact ordered.packets other before
      · rw [List.mem_singleton.mp last]
        exact packet

/-- A packet that is stored without its frame. -/
theorem InOrder.roomy (laws : RingLaws buffer size contents)
    (small : size < 65536) {data : List UInt8} (fits : data.length < 65536)
    (before : s.InOrder contents)
    (after : (s.hostRecvPktCb data).InOrder contents) :
    buffer.bytesFree s.ring < data.length ∨
      data.length + 2 ≤ buffer.bytesFree s.ring := by
  by_contra neither
  push Not at neither
  obtain ⟨kept, tight⟩ := neither
  rw [hostRecvPktCb_stored laws small fits kept] at after
  obtain ⟨-, gone, waiting, parts, went, held⟩ := before
  obtain ⟨-, gone', waiting', parts', went', held'⟩ := after
  have sameLength : gone.length = gone'.length := by
    have same : gone.map handedOf = gone'.map handedOf := went.symm.trans went'
    simpa only [List.length_map] using congrArg List.length same
  have waitingSnoc : waiting ++ [data] = waiting' := by
    have same : gone ++ (waiting ++ [data]) = gone' ++ waiting' := by
      rw [← List.append_assoc, ← parts, ← parts']
    exact (List.append_inj same sameLength).2
  apply contents_short laws tight
  rw [held', ← waitingSnoc, held, frames_snoc]

/-! ## The main thread -/

/-- The next packet is taken off the ring whole. -/
theorem deliverPacket_of_frames (laws : RingLaws buffer size contents)
    {packet stale : List UInt8} {rest : List (List UInt8)}
    (held : contents s.ring = frames (packet :: rest))
    (fits : packet.length < 65536)
    (inside : packet.length ≤ s.receiveBuffer.length) (two : stale.length = 2) :
    ∃ ring, contents ring = frames rest ∧
      s.deliverPacket stale =
        { s with
          ring := ring
          receiveBuffer := CheckedMemory.splice s.receiveBuffer 0 packet
          main := .hands (.ofNat packet.length) } := by
  have nonempty : buffer.bytesAvailable s.ring ≠ 0 := by
    rw [laws.bytesAvailable, held, frames_cons, List.length_append, tag_length]
    omega
  have tagBytes : (buffer.read s.ring 2).1 = tag packet.length := by
    rw [laws.readBytes, held, take_frames_cons]
  have afterTag : contents (buffer.read s.ring 2).2 = packet ++ frames rest := by
    rw [laws.readRest, held, drop_frames_cons]
  have lenTag :
      (readOver stale (tag packet.length)).getD stale = tag packet.length := by
    rw [readOver, CheckedMemory.store, tag_length, if_pos (by omega),
      Option.getD_some, List.take_zero, List.nil_append, Nat.zero_add,
      List.drop_eq_nil_of_le (by omega), List.append_nil]
  have bytes :
      (buffer.read (buffer.read s.ring 2).2 packet.length).1 = packet := by
    rw [laws.readBytes, afterTag, List.take_left]
  have store :
      readOver s.receiveBuffer packet =
        some (CheckedMemory.splice s.receiveBuffer 0 packet) :=
    CheckedMemory.store_of_le (by omega)
  refine ⟨(buffer.read (buffer.read s.ring 2).2 packet.length).2, ?_, ?_⟩
  · rw [laws.readRest, afterTag, List.drop_left]
  · simp only [deliverPacket, nonempty, if_false, tagBytes, lenTag,
      get16_tag fits, bytes, store, Option.getD_some, Option.isNone_some,
      Bool.or_false]

/-- The stack sees the packet that was read. -/
theorem received_splice {packet : List UInt8} {room : Nat}
    (whole : Packet room packet) {after : Transport buffer}
    (read :
      after.receiveBuffer = CheckedMemory.splice s.receiveBuffer 0 packet) :
    after.received (UInt32.ofNat packet.length - 1).toUInt16 =
      handedOf packet := by
  obtain ⟨some, -, fits⟩ := whole
  cases packet with
  | nil => exact absurd rfl some
  | cons first others =>
      have length :
          (UInt32.ofNat (first :: others).length - 1).toUInt16.toNat =
            others.length := by
        rw [List.length_cons] at fits ⊢
        rw [UInt32.toNat_toUInt16, UInt32.toNat_sub, UInt32.toNat_ofNat']
        simp only [UInt32.toNat_one]
        omega
      rw [received, read, length]
      simp only [CheckedMemory.splice, List.take_zero, List.nil_append,
        List.cons_append, List.headD_cons, List.tail_cons, List.take_left]
      rfl

theorem Ordered.deliverPacket (laws : RingLaws buffer size contents)
    {room : Nat} (ordered : s.Ordered room contents) (checks : s.main = .checks)
    {stale : List UInt8} (two : stale.length = 2) :
    (s.deliverPacket stale).Ordered room contents := by
  obtain ⟨inside, gone, waiting, parts, went, held⟩ := ordered.inOrder
  rw [inHand, checks, List.append_nil] at went
  cases waiting with
  | nil =>
      have empty : buffer.bytesAvailable s.ring = 0 := by
        rw [laws.bytesAvailable, held, frames_nil, List.length_nil]
      rw [Transport.deliverPacket, if_pos empty]
      refine ⟨⟨inside, gone, [], parts, ?_, held⟩, ordered.packets,
        ordered.receiveBuffer⟩
      exact (List.append_nil s.handed).trans went
  | cons packet rest =>
      have whole : Packet room packet := by
        apply ordered.packets packet
        rw [parts]
        exact List.mem_append_right gone List.mem_cons_self
      have fits : packet.length ≤ s.receiveBuffer.length := by
        rw [ordered.receiveBuffer]
        exact whole.2.1
      obtain ⟨ring, left, delivered⟩ :=
        deliverPacket_of_frames laws held whole.2.2 fits two
      rw [delivered]
      refine ⟨⟨inside, gone ++ [packet], rest, ?_, ?_, left⟩, ordered.packets,
        ?_⟩
      · rw [List.append_assoc]
        exact parts
      · rw [List.map_append, ← went]
        exact congrArg (fun last => s.handed ++ [last])
          (received_splice (s := s) whole rfl)
      · rw [← ordered.receiveBuffer]
        exact CheckedMemory.splice_length (by omega)

theorem Ordered.mainStep (laws : RingLaws buffer size contents)
    {room : Nat} (ordered : s.Ordered room contents)
    {stale : List UInt8} (two : stale.length = 2) :
    (s.mainStep stale).Ordered room contents := by
  obtain ⟨inside, gone, waiting, parts, went, held⟩ := ordered.inOrder
  unfold Transport.mainStep
  cases main : s.main with
  | idle =>
      rw [inHand, main] at went
      dsimp only
      split
      · exact ⟨⟨inside, gone, waiting, parts, went, held⟩, ordered.packets,
          ordered.receiveBuffer⟩
      · exact ordered
  | checks => exact ordered.deliverPacket laws main two
  | hands len =>
      rw [inHand, main] at went
      refine ⟨⟨inside, gone, waiting, parts, ?_, held⟩, ordered.packets,
        ordered.receiveBuffer⟩
      exact (List.append_nil _).trans went

/-! ## Every run -/

theorem Ordered.step (laws : RingLaws buffer size contents)
    (small : size < 65536) {room : Nat} (ordered : s.Ordered room contents)
    {event : Event} (proper : event.Proper room) (roomy : s.Roomy event) :
    (s.step event).Ordered room contents := by
  cases event with
  | hostRecv data =>
      rw [Transport.step]
      cases controller : s.controller with
      | idle =>
          exact ordered.hostRecvPktCb laws small proper (roomy controller)
      | stored => exact ordered
  | controller =>
      rw [Transport.step]
      cases s.controller with
      | idle => exact ordered
      | stored =>
          exact ⟨ordered.inOrder, ordered.packets, ordered.receiveBuffer⟩
  | main stale => exact ordered.mainStep laws proper

theorem InOrder.roomy_step (laws : RingLaws buffer size contents)
    (small : size < 65536) {room : Nat} {event : Event}
    (proper : event.Proper room) (before : s.InOrder contents)
    (after : (s.step event).InOrder contents) : s.Roomy event := by
  cases event with
  | hostRecv data =>
      intro controller
      rw [Transport.step, controller] at after
      exact before.roomy laws small proper.2.2 after
  | controller => trivial
  | main stale => trivial

theorem boot_ordered (laws : RingLaws buffer size contents)
    (receiveBuffer : List UInt8) :
    (boot buffer receiveBuffer).Ordered receiveBuffer.length contents where
  inOrder := ⟨rfl, [], [], rfl, rfl, laws.init⟩
  packets _ member := absurd member List.not_mem_nil
  receiveBuffer := rfl

/-- The packets go to the stack in order, and the ring holds the frames of the
others, as long as no packet finds room for itself and not for its length. -/
theorem inOrder_throughout_iff (laws : RingLaws buffer size contents)
    (small : size < 65536) (receiveBuffer : List UInt8) {events : List Event}
    (proper : ∀ event ∈ events, event.Proper receiveBuffer.length) :
    (∀ earlier, earlier <+: events →
        (run step (boot buffer receiveBuffer) earlier).InOrder contents) ↔
      Along step Roomy (boot buffer receiveBuffer) events := by
  have any : Along step (fun _ _ => True) (boot buffer receiveBuffer) events :=
    along_of_forall (fun _ _ => trivial) _ events
  have possible := any.with_each proper
  refine throughout_iff_along (Ordered receiveBuffer.length contents)
    (InOrder contents) ?_ ?_ ?_ (boot_ordered laws receiveBuffer) possible
  · exact fun _ ordered => ordered.inOrder
  · exact fun _ _ ordered may roomy => ordered.step laws small may.1 roomy
  · exact fun _ _ ordered may after =>
      ordered.inOrder.roomy_step laws small may.1 after

/-- An event comes in while the one before it is taken out. -/
def twoEvents : List Event :=
  [.hostRecv [4, 14, 0], .controller, .main [0, 0], .main [0, 0],
    .hostRecv [4, 19, 0], .main [0, 0], .main [0, 0]]

theorem inOrder_throughout_two_events :
    (∀ earlier, earlier <+: twoEvents →
      (run step (boot (queueBuffer ringbufferStorageSize) [0, 0, 0, 0])
        earlier).InOrder Subtype.val) ∧
      (run step (boot (queueBuffer ringbufferStorageSize) [0, 0, 0, 0])
        twoEvents).handed = [(4, [14, 0])] := by
  refine ⟨(inOrder_throughout_iff (queueBuffer_laws ringbufferStorageSize)
    (by decide) [0, 0, 0, 0] ?_).mpr ?_, by decide +kernel⟩
  · intro event member
    simp only [twoEvents, List.mem_cons, List.not_mem_nil, or_false] at member
    rcases member with rfl | rfl | rfl | rfl | rfl | rfl | rfl
    all_goals simp [Event.Proper, Packet]
  · exact ⟨fun _ => .inr (by decide), trivial, trivial, trivial,
      fun _ => .inr (by decide), trivial, trivial, trivial⟩

/-! ## No packet is left behind -/

theorem Woken.step (laws : RingLaws buffer size contents)
    (woken : s.Woken contents) (event : Event) :
    (s.step event).Woken contents := by
  cases event with
  | hostRecv data =>
      rw [Transport.step]
      cases controller : s.controller with
      | idle =>
          unfold hostRecvPktCb
          dsimp only
          split
          · exact woken
          · exact fun _ => .inr (.inl rfl)
      | stored => exact woken
  | controller =>
      rw [Transport.step]
      cases controller : s.controller with
      | idle => exact woken
      | stored => exact fun _ => .inl rfl
  | main stale =>
      rw [Transport.step, mainStep]
      cases main : s.main with
      | idle =>
          dsimp only
          split
          · exact fun _ => .inr (.inr (by simp))
          · exact woken
      | checks =>
          dsimp only
          unfold deliverPacket
          split
          · next empty =>
            intro some
            rw [laws.bytesAvailable] at empty
            exact absurd (List.length_eq_zero_iff.mp empty) some
          · exact fun _ => .inr (.inr (by simp))
      | hands len => exact fun _ => .inr (.inr (by simp))

/-- The controller's task returns. -/
theorem step_controller (s : Transport buffer) :
    (s.step .controller).accepted = s.accepted ∧
      (s.step .controller).controller = .idle := by
  rw [step]
  cases controller : s.controller with
  | idle => exact ⟨rfl, controller⟩
  | stored => exact ⟨rfl, rfl⟩

theorem boot_woken (laws : RingLaws buffer size contents)
    (receiveBuffer : List UInt8) :
    (boot buffer receiveBuffer).Woken contents :=
  fun some => absurd laws.init some

/-- In its loop the main thread hands over all that waits. -/
theorem drains_checks (laws : RingLaws buffer size contents)
    {room : Nat} {stale : List UInt8} (two : stale.length = 2)
    (ordered : s.Ordered room contents) (checks : s.main = .checks)
    {gone waiting : List (List UInt8)} (parts : s.accepted = gone ++ waiting)
    (went : s.handed = gone.map handedOf)
    (held : contents s.ring = frames waiting) :
    (run step s (.replicate (2 * waiting.length) (.main stale))).handed =
      s.accepted.map handedOf := by
  induction waiting generalizing s gone with
  | nil =>
      rw [parts, List.append_nil]
      exact went
  | cons packet rest inductionHypothesis =>
      have whole : Packet room packet := by
        apply ordered.packets packet
        rw [parts]
        exact List.mem_append_right gone List.mem_cons_self
      have fits : packet.length ≤ s.receiveBuffer.length := by
        rw [ordered.receiveBuffer]
        exact whole.2.1
      obtain ⟨ring, left, delivered⟩ :=
        deliverPacket_of_frames laws held whole.2.2 fits two
      have first := ordered.mainStep laws two
      have second := first.mainStep laws two
      have twoSteps :
          (s.mainStep stale).mainStep stale =
            { s with
              ring := ring
              receiveBuffer := CheckedMemory.splice s.receiveBuffer 0 packet
              main := .checks
              handed := s.handed ++ [handedOf packet] } := by
        have taken : s.mainStep stale = s.deliverPacket stale := by
          rw [mainStep, checks]
        rw [taken, delivered, mainStep]
        dsimp only
        rw [received_splice (s := s) whole rfl]
      have count : 2 * (packet :: rest).length = 2 * rest.length + 1 + 1 := by
        rw [List.length_cons]
        omega
      rw [count, List.replicate_succ, List.replicate_succ, run_cons, run_cons]
      show (run step ((s.mainStep stale).mainStep stale) _).handed = _
      rw [twoSteps] at second ⊢
      have parts' : s.accepted = gone ++ [packet] ++ rest := by
        rw [List.append_assoc]
        exact parts
      have went' :
          s.handed ++ [handedOf packet] = (gone ++ [packet]).map handedOf := by
        rw [List.map_append, ← went]
        rfl
      exact inductionHypothesis second rfl parts' went' left

/-- The main thread, woken or in its loop, hands over all that waits. -/
theorem drains_main (laws : RingLaws buffer size contents)
    {room : Nat} {stale : List UInt8} (two : stale.length = 2)
    (ordered : s.Ordered room contents) (woken : s.Woken contents)
    (controller : s.controller = .idle) :
    ∃ count,
      (run step s (.replicate count (.main stale))).handed =
        s.accepted.map handedOf := by
  obtain ⟨inside, gone, waiting, parts, went, held⟩ := ordered.inOrder
  have next := ordered.mainStep laws two
  cases main : s.main with
  | idle =>
      rw [inHand, main, List.append_nil] at went
      cases listed : s.listed with
      | false =>
          have empty : contents s.ring = [] := by
            by_contra some
            rcases woken some with isListed | stored | busy
            · exact absurd (listed.symm.trans isListed) (by decide)
            · exact absurd (controller.symm.trans stored) (by decide)
            · exact busy main
          rw [held] at empty
          rw [frames_eq_nil_iff.mp empty, List.append_nil] at parts
          exact ⟨0, by rw [parts]; exact went⟩
      | true =>
          have woke :
              s.mainStep stale = { s with listed := false, main := .checks } := by
            simp only [mainStep, main, listed, if_true]
          rw [woke] at next
          refine ⟨2 * waiting.length + 1, ?_⟩
          rw [List.replicate_succ, run_cons]
          show (run step (s.mainStep stale) _).handed = _
          rw [woke]
          exact drains_checks laws two next rfl parts went held
  | checks =>
      rw [inHand, main, List.append_nil] at went
      exact ⟨_, drains_checks laws two ordered main parts went held⟩
  | hands len =>
      rw [inHand, main] at went
      have handed :
          s.mainStep stale =
            { s with
              handed := s.handed ++ [s.received (len - 1).toUInt16]
              main := .checks } := by
        simp only [mainStep, main]
      rw [handed] at next
      refine ⟨2 * waiting.length + 1, ?_⟩
      rw [List.replicate_succ, run_cons]
      show (run step (s.mainStep stale) _).handed = _
      rw [handed]
      exact drains_checks laws two next rfl parts went held

/-- Once the controller's task has left `host_recv_pkt_cb`, the main thread alone
calls the stack with every packet that was accepted, once and in order. -/
theorem drains (laws : RingLaws buffer size contents) (small : size < 65536)
    (receiveBuffer : List UInt8) {events : List Event}
    (proper : ∀ event ∈ events, event.Proper receiveBuffer.length)
    (roomy : Along step Roomy (boot buffer receiveBuffer) events)
    {stale : List UInt8} (two : stale.length = 2) :
    ∃ count,
      (run step (boot buffer receiveBuffer)
          (events ++ .controller :: .replicate count (.main stale))).handed =
        (run step (boot buffer receiveBuffer) events).accepted.map
          handedOf := by
  have ordered :
      (run step (boot buffer receiveBuffer) events).Ordered
        receiveBuffer.length contents := by
    refine run_invariant_along _ ?_ (boot_ordered laws receiveBuffer)
      (roomy.with_each proper)
    exact fun _ _ ordered may => ordered.step laws small may.1 may.2
  have woken :
      (run step (boot buffer receiveBuffer) events).Woken contents :=
    run_invariant _ (fun _ event woken => woken.step laws event)
      (boot_woken laws receiveBuffer) events
  have left :
      ((run step (boot buffer receiveBuffer) events).step .controller).Ordered
        receiveBuffer.length contents :=
    ordered.step laws small trivial trivial
  have leftWoken := woken.step laws .controller
  obtain ⟨same, idle⟩ := step_controller
    (run step (boot buffer receiveBuffer) events)
  obtain ⟨count, drained⟩ := drains_main laws two left leftWoken idle
  refine ⟨count, ?_⟩
  rw [run_append, run_cons, drained, same]

/-- The second event comes in with the main thread in its loop. -/
theorem drains_two_events :
    ∃ count,
      (run step (boot (queueBuffer ringbufferStorageSize) [0, 0, 0, 0])
          ([.hostRecv [4, 14, 0], .controller, .main [0, 0],
            .hostRecv [4, 19, 0]] ++
              .controller :: .replicate count (.main [0, 0]))).handed =
        (run step (boot (queueBuffer ringbufferStorageSize) [0, 0, 0, 0])
          [.hostRecv [4, 14, 0], .controller, .main [0, 0],
            .hostRecv [4, 19, 0]]).accepted.map handedOf := by
  apply drains (queueBuffer_laws ringbufferStorageSize) (by decide)
  · intro event member
    simp only [List.mem_cons, List.not_mem_nil, or_false] at member
    rcases member with rfl | rfl | rfl | rfl
    all_goals simp [Event.Proper, Packet]
  · exact ⟨fun _ => .inr (by decide), trivial, trivial,
      fun _ => .inr (by decide), trivial⟩
  · rfl

end Transport

end VeteraBridge.Hci

import VeteraBridge.Proxy.Packet

/-!
# Checksums under header rewriting

`csum_adj` folds twice and complements; modulo 65535 it adds the old word and
subtracts the new one, whichever representation of zero the stored checksum
has.  Both checksum sums of a packet therefore keep their residue when an
address and a port are exchanged, and neither sum can be the all-zero one: the
version field of the IP header and the protocol byte of the pseudo-header are
never zero.
-/

namespace VeteraBridge.Proxy

open ByteWords OnesComplement

/-! ## The incremental update modulo 65535 -/

/-- One folding step: the upper half is added to the lower one. -/
private def fold (s : Nat) : Nat := s % 65536 + s / 65536

private theorem fold_mod (s : Nat) : fold s % 65535 = s % 65535 := by
  unfold fold
  omega

/-- Two folding steps bring a sum of three words back to one word. -/
private theorem fold_fold_lt {s : Nat} (bound : s ≤ 3 * 65535) :
    fold (fold s) < 65536 := by
  have once : fold s ≤ 65535 + 2 := by
    unfold fold
    omega
  have split : fold s < 65536 ∨ fold s = 65536 ∨ fold s = 65537 := by omega
  rcases split with small | same | same
  · unfold fold at small ⊢
    omega
  · rw [same]
    decide
  · rw [same]
    decide

private theorem csumAdj_toNat (sum old new : UInt16) :
    (csumAdj sum old new).toNat =
      65535 -
        fold (fold
          ((65535 - sum.toNat) + (65535 - old.toNat) + new.toNat)) := by
  have sumBound := sum.toNat_lt
  have oldBound := old.toNat_lt
  have newBound := new.toNat_lt
  have settled :=
    fold_fold_lt
      (s := (65535 - sum.toNat) + (65535 - old.toNat) + new.toNat) (by omega)
  have low (s : UInt32) :
      (s &&& (0xffff : UInt32)).toNat = s.toNat % 65536 := by
    rw [UInt32.toNat_and]
    exact Nat.and_two_pow_sub_one_eq_mod s.toNat 16
  have high (s : UInt32) : (s >>> 16).toNat = s.toNat / 65536 := by
    rw [UInt32.toNat_shiftRight]
    exact Nat.shiftRight_eq_div_pow s.toNat 16
  have complement (w : UInt16) : (~~~w).toNat = 65535 - w.toNat :=
    UInt16.toNat_not w
  simp only [csumAdj, complement, UInt32.toNat_toUInt16, UInt32.toNat_add, low,
    high, UInt16.toNat_toUInt32]
  -- the complements are words like any others
  have sumComplement : 65535 - sum.toNat ≤ 65535 := Nat.sub_le _ _
  have oldComplement : 65535 - old.toNat ≤ 65535 := Nat.sub_le _ _
  generalize 65535 - sum.toNat = notSum at *
  generalize 65535 - old.toNat = notOld at *
  unfold fold at settled ⊢
  omega

/-- The adjusted checksum and the new word weigh as much as the stored
checksum and the old word. -/
theorem csumAdj_mod (sum old new : UInt16) :
    ((csumAdj sum old new).toNat + new.toNat) % 65535 =
      (sum.toNat + old.toNat) % 65535 := by
  have sumBound := sum.toNat_lt
  have oldBound := old.toNat_lt
  have newBound := new.toNat_lt
  rw [csumAdj_toNat]
  have settled :=
    fold_fold_lt
      (s := (65535 - sum.toNat) + (65535 - old.toNat) + new.toNat) (by omega)
  have residue :=
    (fold_mod (fold
        ((65535 - sum.toNat) + (65535 - old.toNat) + new.toNat))).trans
      (fold_mod _)
  omega

theorem csumAdj32_mod (sum : UInt16) (old new : UInt32) :
    ((csumAdj32 sum old new).toNat +
        ((low16 new).toNat + (high16 new).toNat)) % 65535 =
      (sum.toNat + ((low16 old).toNat + (high16 old).toNat)) % 65535 := by
  have highUpdate := csumAdj_mod sum (high16 old) (high16 new)
  have lowUpdate :=
    csumAdj_mod (csumAdj sum (high16 old) (high16 new)) (low16 old) (low16 new)
  unfold csumAdj32
  dsimp only
  omega

/-- Exchanging the bytes of a word is multiplication by 256, up to a multiple
of 65535. -/
private theorem swap16_linear (word : UInt16) :
    (swap16 word).toNat + 65535 * (word.toNat / 256) = 256 * word.toNat := by
  rw [swap16_toNat]
  omega

/-! ## The two checksums of a packet -/

/-- An IPv4 packet that carries a TCP segment: the headers are complete and in
the first buffer, and the total length covers them and lies in the packet. -/
structure TcpPacket where
  pbuf : Pbuf
  version : iphV pbuf.payload = 4
  protocol : iphProto pbuf.payload = ipProtoTcp
  minimal : ipHlen ≤ iphHlBytes pbuf.payload
  room : iphHlBytes pbuf.payload + tcpHlen ≤ pbuf.payload.length
  carriesTcp : iphHlBytes pbuf.payload + tcpHlen ≤ iphLen pbuf.payload
  complete : iphLen pbuf.payload ≤ pbuf.bytes.length

def TcpPacket.hl (packet : TcpPacket) : Nat :=
  iphHlBytes packet.pbuf.payload

def ipHeader (b : List UInt8) : List UInt8 :=
  slice b 0 (iphHlBytes b)

/-- The pseudo-header: both addresses, a zero byte, the protocol and the TCP
length. -/
def pseudoHeader (b : List UInt8) : List UInt8 :=
  slice b 12 8 ++
    [0, b.getD 9 0, UInt8.ofNat ((iphLen b - iphHlBytes b) / 256),
      UInt8.ofNat (iphLen b - iphHlBytes b)]

def tcpSegment (b : List UInt8) : List UInt8 :=
  slice b (iphHlBytes b) (iphLen b - iphHlBytes b)

def IpChecksumOk (p : Pbuf) : Prop :=
  Verifies (ipHeader p.bytes)

def TcpChecksumOk (p : Pbuf) : Prop :=
  Verifies (pseudoHeader p.bytes ++ tcpSegment p.bytes)

/-! ## Rewriting keeps both residues -/

section Residues

variable {b : List UInt8} {addr port hl : Nat} (newIp : UInt32)
  (newPortN : UInt16)

/-- Where the addresses and ports of a packet with its TCP header at `hl`
sit. -/
structure EndpointAt (addr port hl : Nat) : Prop where
  addrEven : addr % 2 = 0
  addrAfterSum : 12 ≤ addr
  addrInHeader : addr + 4 ≤ 20
  portEven : port % 2 = 0
  portAfterHeader : hl ≤ port
  portBeforeSum : port + 2 ≤ hl + 16
  minimal : 20 ≤ hl
  hlEven : hl % 2 = 0

variable {newIp newPortN}

theorem slice_header_rewriteEndpoint (endpoint : EndpointAt addr port hl) :
    slice (rewriteEndpoint addr port b hl newIp newPortN) 0 hl =
      put16 (put32 (slice b 0 hl) addr newIp) 10
        (csumAdj32 (get16 (slice b 0 hl) 10) (get32 (slice b 0 hl) addr)
          newIp) := by
  obtain ⟨_, afterSum, inHeader, _, afterHeader, _, minimal, _⟩ := endpoint
  simp only [rewriteEndpoint, iphChksum]
  rw [slice_put16_of_outside _ (by omega),
    slice_put16_of_inside _ (by omega) (by omega),
    slice_put16_of_outside _ (by omega),
    slice_put32_of_inside _ (by omega) (by omega),
    get16_put16_of_disjoint _ (by omega), get16_put32_of_disjoint _ (by omega),
    get16_slice (by omega), get32_slice (by omega)]
  simp only [Nat.sub_zero, Nat.zero_add]

theorem header_residue (endpoint : EndpointAt addr port hl)
    (inside : hl ≤ b.length) :
    (beWords (slice (rewriteEndpoint addr port b hl newIp newPortN) 0 hl)).sum %
        65535 =
      (beWords (slice b 0 hl)).sum % 65535 := by
  rw [slice_header_rewriteEndpoint endpoint]
  obtain ⟨addrEven, afterSum, inHeader, _, _, _, minimal, _⟩ := endpoint
  have length : (slice b 0 hl).length = hl := slice_length (by omega)
  generalize slice b 0 hl = header at length ⊢
  have storeAddr :=
    beWords_sum_put32 header addr newIp addrEven (by omega)
  have storeSum :=
    beWords_sum_put16 (put32 header addr newIp) 10
      (csumAdj32 (get16 header 10) (get32 header addr) newIp) (by omega)
      (by rw [put32_length]; omega)
  rw [get16_put32_of_disjoint _ (by omega)] at storeSum
  have update :=
    csumAdj32_mod (get16 header 10) (get32 header addr) newIp
  have sumNew :=
    swap16_linear (csumAdj32 (get16 header 10) (get32 header addr) newIp)
  have sumOld := swap16_linear (get16 header 10)
  have lowNew := swap16_linear (low16 newIp)
  have highNew := swap16_linear (high16 newIp)
  have lowOld := swap16_linear (low16 (get32 header addr))
  have highOld := swap16_linear (high16 (get32 header addr))
  omega

theorem slice_addresses_rewriteEndpoint
    (endpoint : EndpointAt addr port hl) :
    slice (rewriteEndpoint addr port b hl newIp newPortN) 12 8 =
      put32 (slice b 12 8) (addr - 12) newIp := by
  obtain ⟨_, afterSum, inHeader, _, afterHeader, _, minimal, _⟩ := endpoint
  simp only [rewriteEndpoint]
  rw [slice_put16_of_outside _ (by omega), slice_put16_of_outside _ (by omega),
    slice_put16_of_outside _ (by omega),
    slice_put32_of_inside _ (by omega) (by omega)]

theorem slice_segment_rewriteEndpoint {count : Nat}
    (endpoint : EndpointAt addr port hl) (room : 20 ≤ count) :
    slice (rewriteEndpoint addr port b hl newIp newPortN) hl count =
      put16 (put16 (slice b hl count) (port - hl) newPortN) 16
        (csumAdj
          (csumAdj32 (get16 (slice b hl count) 16) (get32 b addr) newIp)
          (get16 (slice b hl count) (port - hl)) newPortN) := by
  obtain ⟨_, afterSum, inHeader, _, afterHeader, beforeSum, minimal, _⟩ :=
    endpoint
  have port_eq : hl + (port - hl) = port := by omega
  simp only [rewriteEndpoint, thChksum]
  rw [slice_put16_of_inside _ (by omega) (by omega),
    slice_put16_of_outside _ (by omega),
    slice_put16_of_inside _ (by omega) (by omega),
    slice_put32_of_outside _ (by omega),
    get16_put16_of_disjoint _ (by omega), get16_put16_of_disjoint _ (by omega),
    get16_put32_of_disjoint _ (by omega), get16_slice (by omega),
    get16_slice (by omega), port_eq, Nat.add_sub_cancel_left]

/-- The pseudo-header and the segment together keep their residue. -/
theorem segment_residue {count : Nat} (tail : List UInt8)
    (endpoint : EndpointAt addr port hl) (room : 20 ≤ count)
    (inside : hl + count ≤ b.length) (tailEven : tail.length % 2 = 0) :
    (beWords
        ((slice (rewriteEndpoint addr port b hl newIp newPortN) 12 8 ++ tail) ++
          slice (rewriteEndpoint addr port b hl newIp newPortN) hl count)).sum %
        65535 =
      (beWords ((slice b 12 8 ++ tail) ++ slice b hl count)).sum % 65535 := by
  rw [slice_addresses_rewriteEndpoint endpoint,
    slice_segment_rewriteEndpoint endpoint room]
  obtain
    ⟨addrEven, afterSum, inHeader, portEven, afterHeader, beforeSum, minimal,
      hlEven⟩ := endpoint
  have addressesLength : (slice b 12 8).length = 8 := slice_length (by omega)
  have segmentLength : (slice b hl count).length = count :=
    slice_length inside
  have oldAddr : get32 (slice b 12 8) (addr - 12) = get32 b addr := by
    rw [get32_slice (by omega)]
    congr 1
    omega
  rw [← oldAddr]
  generalize slice b 12 8 = addresses at addressesLength ⊢
  generalize slice b hl count = segment at segmentLength ⊢
  rw [beWords_append_of_even _ (by simp; omega),
    beWords_append_of_even _ (by simp; omega),
    beWords_append_of_even _ (by simp; omega),
    beWords_append_of_even _ (by omega)]
  simp only [List.sum_append]
  have storeAddr :=
    beWords_sum_put32 addresses (addr - 12) newIp (by omega)
      (by omega)
  have storePort :=
    beWords_sum_put16 segment (port - hl) newPortN (by omega)
      (by omega)
  have storeSum :=
    beWords_sum_put16 (put16 segment (port - hl) newPortN) 16
      (csumAdj
        (csumAdj32 (get16 segment 16) (get32 addresses (addr - 12)) newIp)
        (get16 segment (port - hl)) newPortN)
      (by omega) (by rw [put16_length]; omega)
  rw [get16_put16_of_disjoint _ (by omega)] at storeSum
  have addrUpdate :=
    csumAdj32_mod (get16 segment 16) (get32 addresses (addr - 12)) newIp
  have portUpdate :=
    csumAdj_mod
      (csumAdj32 (get16 segment 16) (get32 addresses (addr - 12)) newIp)
      (get16 segment (port - hl)) newPortN
  generalize csumAdj32 (get16 segment 16) (get32 addresses (addr - 12)) newIp =
    middle at storeSum addrUpdate portUpdate ⊢
  generalize csumAdj middle (get16 segment (port - hl)) newPortN =
    adjusted at storeSum portUpdate ⊢
  have sumNew := swap16_linear adjusted
  have sumOld := swap16_linear (get16 segment 16)
  have portNew := swap16_linear newPortN
  have portOld := swap16_linear (get16 segment (port - hl))
  have lowNew := swap16_linear (low16 newIp)
  have highNew := swap16_linear (high16 newIp)
  have lowOld := swap16_linear (low16 (get32 addresses (addr - 12)))
  have highOld := swap16_linear (high16 (get32 addresses (addr - 12)))
  omega

end Residues

/-! ## Rewriting a packet -/

section Packets

variable (packet : TcpPacket)

private theorem packet_lengths :
    20 ≤ packet.hl ∧ packet.hl % 2 = 0 ∧
      packet.hl + 20 ≤ packet.pbuf.payload.length := by
  have minimal : 20 ≤ packet.hl := packet.minimal
  have room : packet.hl + 20 ≤ packet.pbuf.payload.length := packet.room
  have even : packet.hl % 2 = 0 := by
    unfold TcpPacket.hl iphHlBytes
    omega
  exact ⟨minimal, even, room⟩

private theorem bytes_length (p : Pbuf) :
    p.bytes.length = p.payload.length + p.next.length :=
  List.length_append

/-- The stores of a rewrite all fall into the first buffer. -/
theorem bytes_rewriteEndpoint {p : Pbuf} {addr port hl : Nat}
    (endpoint : EndpointAt addr port hl)
    (room : hl + 20 ≤ p.payload.length) (newIp : UInt32) (newPortN : UInt16) :
    rewriteEndpoint addr port p.payload hl newIp newPortN ++ p.next =
      rewriteEndpoint addr port p.bytes hl newIp newPortN := by
  obtain ⟨_, afterSum, inHeader, _, afterHeader, beforeSum, minimal, _⟩ :=
    endpoint
  simp only [rewriteEndpoint, Pbuf.bytes, iphChksum, thChksum]
  rw [get32_append _ (by omega), get16_append _ (by omega),
    put32_append _ _ (by omega),
    put16_append _ _ (by rw [put32_length]; omega),
    get16_append _ (by rw [put16_length, put32_length]; omega),
    put16_append _ _ (by rw [put16_length, put32_length]; omega),
    get16_append _ (by rw [put16_length, put16_length, put32_length]; omega),
    put16_append _ _
      (by rw [put16_length, put16_length, put32_length]; omega)]

/-- The protocol byte keeps the pseudo-header from summing to zero. -/
private theorem pseudoHeader_pos (b tail : List UInt8)
    (addresses : 20 ≤ b.length) (protocol : b.getD 9 0 = 6) :
    0 < (beWords (pseudoHeader b ++ tail)).sum := by
  have length : (slice b 12 8).length = 8 := slice_length (by omega)
  apply beWords_sum_pos 9
  rw [List.getD_eq_getElem?_getD, List.getElem?_append_left
      (by simp [pseudoHeader, length]),
    pseudoHeader, List.getElem?_append_right (by omega), length, protocol]
  change (6 : UInt8) ≠ 0
  decide

section OneRewrite

variable {packet} {addr port : Nat}

private theorem hl_bytes : iphHlBytes packet.pbuf.bytes = packet.hl := by
  have room := (packet_lengths packet).2.2
  unfold TcpPacket.hl iphHlBytes Pbuf.bytes
  rw [getD_append_left _ (by omega)]

private theorem len_bytes :
    iphLen packet.pbuf.bytes = iphLen packet.pbuf.payload := by
  have room := (packet_lengths packet).2.2
  unfold iphLen Pbuf.bytes
  rw [get16_append _ (by omega)]

variable (endpoint : EndpointAt addr port packet.hl) (newIp : UInt32)
  (newPortN : UInt16)

include endpoint

private theorem getD_rewritten (position : Nat) (early : position < 10) :
    (rewriteEndpoint addr port packet.pbuf.bytes packet.hl newIp
        newPortN).getD position 0 =
      packet.pbuf.bytes.getD position 0 := by
  obtain ⟨_, afterSum, _, _, afterHeader, _, minimal, _⟩ := endpoint
  exact
    getD_rewriteEndpoint_of_outside newIp newPortN (by omega) (by omega)
      (by omega) (by omega)

private theorem hl_rewritten :
    iphHlBytes
        (rewriteEndpoint addr port packet.pbuf.bytes packet.hl newIp newPortN) =
      packet.hl := by
  have same := getD_rewritten endpoint newIp newPortN 0 (by omega)
  rw [iphHlBytes, same]
  exact hl_bytes

private theorem len_rewritten :
    iphLen
        (rewriteEndpoint addr port packet.pbuf.bytes packet.hl newIp newPortN) =
      iphLen packet.pbuf.payload := by
  rw [← len_bytes]
  unfold iphLen get16
  rw [getD_rewritten endpoint newIp newPortN 2 (by omega),
    getD_rewritten endpoint newIp newPortN (2 + 1) (by omega)]

theorem ipHeader_verifies_rewriteEndpoint :
    Verifies
        (ipHeader
          (rewriteEndpoint addr port packet.pbuf.bytes packet.hl newIp
            newPortN)) ↔
      Verifies (ipHeader packet.pbuf.bytes) := by
  obtain ⟨minimal, _, room⟩ := packet_lengths packet
  have inside : packet.hl ≤ packet.pbuf.bytes.length := by
    rw [bytes_length]
    omega
  have versionByte : packet.pbuf.bytes.getD 0 0 ≠ 0 := by
    intro zero
    have version := packet.version
    rw [iphV, ← getD_append_left packet.pbuf.next (by omega)] at version
    change (packet.pbuf.bytes.getD 0 0).toNat / 16 = 4 at version
    rw [zero] at version
    exact absurd version (by decide)
  have rewrittenByte :=
    getD_rewritten endpoint newIp newPortN 0 (by omega)
  unfold ipHeader
  rw [hl_rewritten endpoint, hl_bytes]
  apply verifies_congr (header_residue endpoint inside)
  · apply beWords_sum_pos 0
    rw [getD_slice (by omega), Nat.add_zero, rewrittenByte]
    exact versionByte
  · apply beWords_sum_pos 0
    rw [getD_slice (by omega), Nat.add_zero]
    exact versionByte

theorem tcpSegment_verifies_rewriteEndpoint :
    Verifies
        (pseudoHeader
            (rewriteEndpoint addr port packet.pbuf.bytes packet.hl newIp
              newPortN) ++
          tcpSegment
            (rewriteEndpoint addr port packet.pbuf.bytes packet.hl newIp
              newPortN)) ↔
      Verifies
        (pseudoHeader packet.pbuf.bytes ++ tcpSegment packet.pbuf.bytes) := by
  obtain ⟨minimal, hlEven, room⟩ := packet_lengths packet
  have carries : packet.hl + 20 ≤ iphLen packet.pbuf.payload :=
    packet.carriesTcp
  have complete := packet.complete
  have protocolByte : packet.pbuf.bytes.getD 9 0 = 6 := by
    have protocol := packet.protocol
    rw [iphProto, ← getD_append_left packet.pbuf.next (by omega)] at protocol
    exact UInt8.toNat_inj.mp protocol
  have rewrittenByte :=
    getD_rewritten endpoint newIp newPortN 9 (by omega)
  apply verifies_congr
  · unfold pseudoHeader tcpSegment
    rw [hl_rewritten endpoint, len_rewritten endpoint, hl_bytes, len_bytes,
      rewrittenByte]
    exact
      segment_residue _ endpoint (by omega) (by omega) (by simp)
  · apply pseudoHeader_pos
    · rw [rewriteEndpoint_length]
      omega
    · rw [rewrittenByte, protocolByte]
  · exact pseudoHeader_pos _ _ (by omega) protocolByte

end OneRewrite

private theorem endpointAt_dst : EndpointAt 16 (packet.hl + 2) packet.hl := by
  obtain ⟨minimal, even, _⟩ := packet_lengths packet
  constructor <;> omega

private theorem endpointAt_src : EndpointAt 12 packet.hl packet.hl := by
  obtain ⟨minimal, even, _⟩ := packet_lengths packet
  constructor <;> omega

private theorem bytes_rewriteDst (newIp : UInt32) (newPortN : UInt16) :
    (rewriteDst packet.pbuf packet.hl newIp newPortN).bytes =
      rewriteEndpoint 16 (packet.hl + 2) packet.pbuf.bytes packet.hl newIp
        newPortN :=
  bytes_rewriteEndpoint (endpointAt_dst packet) (packet_lengths packet).2.2
    newIp newPortN

private theorem bytes_rewriteSrc (newIp : UInt32) (newPortN : UInt16) :
    (rewriteSrc packet.pbuf packet.hl newIp newPortN).bytes =
      rewriteEndpoint 12 packet.hl packet.pbuf.bytes packet.hl newIp
        newPortN :=
  bytes_rewriteEndpoint (endpointAt_src packet) (packet_lengths packet).2.2
    newIp newPortN

/-- Outside the endpoint at `addr` and `port` and the two checksums `after` is
`before`. -/
structure SameOutside (addr port hl : Nat) (before after : Pbuf) : Prop where
  next : after.next = before.next
  length : after.payload.length = before.payload.length
  elsewhere : ∀ position, (position < addr ∨ addr + 4 ≤ position) →
    (position < port ∨ port + 2 ≤ position) →
    (position < 10 ∨ 12 ≤ position) →
    (position < hl + 16 ∨ hl + 18 ≤ position) →
    after.payload.getD position 0 = before.payload.getD position 0

/-- `after` verifies where `before` does. -/
structure SameChecksums (before after : Pbuf) : Prop where
  ip : IpChecksumOk after ↔ IpChecksumOk before
  tcp : TcpChecksumOk after ↔ TcpChecksumOk before

/-- `after` is `before` with `newIp` at `addr` and `newPortN` at `port`. -/
structure Readdressed (addr port hl : Nat) (newIp : UInt32) (newPortN : UInt16)
    (before after : Pbuf) : Prop where
  newAddr : get32 after.payload addr = newIp
  newPort : get16 after.payload port = newPortN
  outside : SameOutside addr port hl before after
  checksums : SameChecksums before after

theorem sameOutside_rewriteDst (newIp : UInt32) (newPortN : UInt16) :
    SameOutside 16 (packet.hl + 2) packet.hl packet.pbuf
      (rewriteDst packet.pbuf packet.hl newIp newPortN) where
  next := rfl
  length := rewriteEndpoint_length newIp newPortN
  elsewhere := fun _ => getD_rewriteEndpoint_of_outside newIp newPortN

theorem sameOutside_rewriteSrc (newIp : UInt32) (newPortN : UInt16) :
    SameOutside 12 packet.hl packet.hl packet.pbuf
      (rewriteSrc packet.pbuf packet.hl newIp newPortN) where
  next := rfl
  length := rewriteEndpoint_length newIp newPortN
  elsewhere := fun _ => getD_rewriteEndpoint_of_outside newIp newPortN

theorem sameChecksums_rewriteDst (newIp : UInt32) (newPortN : UInt16) :
    SameChecksums packet.pbuf
      (rewriteDst packet.pbuf packet.hl newIp newPortN) := by
  have endpoint := endpointAt_dst packet
  constructor
  · rw [IpChecksumOk, bytes_rewriteDst]
    exact ipHeader_verifies_rewriteEndpoint endpoint newIp newPortN
  · rw [TcpChecksumOk, bytes_rewriteDst]
    exact tcpSegment_verifies_rewriteEndpoint endpoint newIp newPortN

theorem sameChecksums_rewriteSrc (newIp : UInt32) (newPortN : UInt16) :
    SameChecksums packet.pbuf
      (rewriteSrc packet.pbuf packet.hl newIp newPortN) := by
  have endpoint := endpointAt_src packet
  constructor
  · rw [IpChecksumOk, bytes_rewriteSrc]
    exact ipHeader_verifies_rewriteEndpoint endpoint newIp newPortN
  · rw [TcpChecksumOk, bytes_rewriteSrc]
    exact tcpSegment_verifies_rewriteEndpoint endpoint newIp newPortN

/-- Whatever the packet, the stored checksums and the new endpoint:
`rewrite_dst` and `rewrite_src` store the endpoint and change nothing else but
the two checksums, and each of these verifies afterwards exactly if it verified
before. -/
theorem rewrite_checksums_iff (newIp : UInt32) (newPortN : UInt16) :
    Readdressed 16 (packet.hl + 2) packet.hl newIp newPortN packet.pbuf
        (rewriteDst packet.pbuf packet.hl newIp newPortN) ∧
      Readdressed 12 packet.hl packet.hl newIp newPortN packet.pbuf
        (rewriteSrc packet.pbuf packet.hl newIp newPortN) := by
  obtain ⟨minimal, _, inside⟩ := packet_lengths packet
  have room : 20 ≤ packet.hl ∧ packet.hl + 20 ≤ packet.pbuf.payload.length :=
    ⟨minimal, inside⟩
  constructor
  · exact {
      newAddr := ipDest_rewriteDst room newIp newPortN
      newPort := thDest_rewriteDst room newIp newPortN
      outside := sameOutside_rewriteDst packet newIp newPortN
      checksums := sameChecksums_rewriteDst packet newIp newPortN }
  · exact {
      newAddr := ipSrc_rewriteSrc room newIp newPortN
      newPort := thSrc_rewriteSrc room newIp newPortN
      outside := sameOutside_rewriteSrc packet newIp newPortN
      checksums := sameChecksums_rewriteSrc packet newIp newPortN }

end Packets

/-- The phone's SYN 192.168.7.2:5001 → 93.184.216.34:80, in two buffers: four
bytes of its options are in the second one. -/
def phoneSyn : TcpPacket where
  pbuf := {
    payload :=
      [0x45, 0, 0, 48, 0, 0, 0, 0, 64, 6, 0x7d, 0x43, 192, 168, 7, 2, 93, 184,
        216, 34, 0x13, 0x89, 0, 80, 0, 0, 0, 0, 0, 0, 0, 0, 0x70, 2, 0xff, 0xff,
        0x71, 0xc1, 0, 0, 2, 4, 5, 0xb4]
    next := [1, 1, 4, 2] }
  version := by decide
  protocol := by decide
  minimal := by decide
  room := by decide
  carriesTcp := by decide
  complete := by decide

/-- Sent on to the relay it verifies, with the relay's endpoint in it. -/
theorem rewrite_checksums_phoneSyn :
    let dst :=
      rewriteDst phoneSyn.pbuf phoneSyn.hl gwAddrN (lwipHtons relayHttpPort)
    ipDest dst.payload = gwAddrN ∧
      thDest dst.payload phoneSyn.hl = lwipHtons relayHttpPort ∧
      IpChecksumOk dst ∧ TcpChecksumOk dst := by
  obtain ⟨⟨addr, port, _, same⟩, _⟩ :=
    rewrite_checksums_iff phoneSyn gwAddrN (lwipHtons relayHttpPort)
  have ip : IpChecksumOk phoneSyn.pbuf := by
    unfold IpChecksumOk
    decide
  have tcp : TcpChecksumOk phoneSyn.pbuf := by
    unfold TcpChecksumOk
    decide
  exact ⟨addr, port, same.ip.mpr ip, same.tcp.mpr tcp⟩

end VeteraBridge.Proxy

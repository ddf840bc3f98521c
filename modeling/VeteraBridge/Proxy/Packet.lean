import VeteraBridge.Lib.ByteWords

/-!
# IPv4/TCP packets and header rewriting

The packets the redirect works on, as the bytes of an lwIP `pbuf` chain.  All
header fields are read and written at their byte offsets, in the order of the
little-endian core the bridge runs on, so a value such as `GW_ADDR_N` is the
raw word found in the packet.
-/

namespace VeteraBridge.Proxy

open ByteWords

/-! ## Constants -/

def ipHlen : Nat := 20

def tcpHlen : Nat := 20

def ipProtoTcp : Nat := 6

def ipOffmask : UInt16 := 0x1fff

def ipMf : UInt16 := 0x2000

def tcpSyn : UInt16 := 0x02

def tcpAck : UInt16 := 0x10

def tcpFlags : UInt16 := 0x3f

/-- `LWIP_MAKEU32`: an address in host order, most significant part first. -/
def lwipMakeU32 (a b c d : UInt32) : UInt32 :=
  (a <<< 24) ||| (b <<< 16) ||| (c <<< 8) ||| d

def lwipNtohs (word : UInt16) : UInt16 := swap16 word

def lwipHtons (word : UInt16) : UInt16 := swap16 word

/-- `GW_ADDR_N`: the bridge, 192.168.7.1, in network order. -/
def gwAddrN : UInt32 := swap32 (lwipMakeU32 192 168 7 1)

/-- `PHONE_ADDR_N`: the phone, 192.168.7.2, in network order. -/
def phoneAddrN : UInt32 := swap32 (lwipMakeU32 192 168 7 2)

def relayHttpPort : UInt16 := 3080

def relayTlsPort : UInt16 := 3443

/-! ## Packet buffers and header fields -/

/-- A packet buffer chain: the bytes of the first `pbuf`, whose length is its
`len`, and the bytes of all the buffers after it. -/
structure Pbuf where
  payload : List UInt8
  next : List UInt8
deriving DecidableEq, Repr

namespace Pbuf

def bytes (p : Pbuf) : List UInt8 := p.payload ++ p.next

end Pbuf

/-- `pbuf_clone(PBUF_RAW, PBUF_RAM, p)`: a copy in one buffer. -/
def pbufClone (p : Pbuf) : Pbuf := ⟨p.bytes, []⟩

section Fields

variable (h : List UInt8)

def iphV : Nat := (h.getD 0 0).toNat / 16

def iphHlBytes : Nat := (h.getD 0 0).toNat % 16 * 4

def iphLen : Nat := (lwipNtohs (get16 h 2)).toNat

def iphOffset : UInt16 := get16 h 6

def iphProto : Nat := (h.getD 9 0).toNat

def iphChksum : UInt16 := get16 h 10

def ipSrc : UInt32 := get32 h 12

def ipDest : UInt32 := get32 h 16

variable (hl : Nat)

def thSrc : UInt16 := get16 h hl

def thDest : UInt16 := get16 h (hl + 2)

def tcphFlags : UInt16 := lwipNtohs (get16 h (hl + 12)) &&& tcpFlags

def thChksum : UInt16 := get16 h (hl + 16)

end Fields

/-- IPv4 TCP packet with both headers in the first `pbuf`, not a fragment; the
result is the offset of the TCP header. -/
def tcpHeaders (p : Pbuf) : Option Nat :=
  if p.payload.length < ipHlen then none
  else if iphV p.payload ≠ 4 ∨ iphProto p.payload ≠ ipProtoTcp then none
  else
    let hl := iphHlBytes p.payload
    if hl < ipHlen ∨ p.payload.length < hl + tcpHlen then none
    else if iphOffset p.payload &&& swap16 (ipOffmask ||| ipMf) ≠ 0 then none
    else some hl

/-- A segment without options or payload, for concrete runs: addresses as they
are written, ports in host order, checksums left zero. -/
def plainSegment (src dst : List UInt8) (sport dport : UInt16)
    (flags : UInt8) : Pbuf :=
  let port (word : UInt16) : List UInt8 :=
    [UInt8.ofNat (word.toNat / 256), UInt8.ofNat word.toNat]
  { payload :=
      [0x45, 0, 0, 40, 0, 0, 0, 0, 64, 6, 0, 0] ++ src ++ dst ++ port sport ++
        port dport ++
        [0, 0, 0, 0, 0, 0, 0, 0, 0x50, flags, 0xff, 0xff, 0, 0, 0, 0]
    next := [] }

def phoneSegment (dst : List UInt8) (sport dport : UInt16) (flags : UInt8) :
    Pbuf :=
  plainSegment [192, 168, 7, 2] dst sport dport flags

/-! ## Rewriting -/

/-- RFC 1624 incremental checksum update of one 16-bit word. -/
def csumAdj (sum old new : UInt16) : UInt16 :=
  let s : UInt32 := (~~~sum).toUInt32
  let s := s + (~~~old).toUInt32
  let s := s + new.toUInt32
  let s : UInt32 := (s &&& (0xffff : UInt32)) + (s >>> 16)
  let s : UInt32 := (s &&& (0xffff : UInt32)) + (s >>> 16)
  ~~~s.toUInt16

def csumAdj32 (sum : UInt16) (old new : UInt32) : UInt16 :=
  let sum := csumAdj sum (high16 old) (high16 new)
  csumAdj sum (low16 old) (low16 new)

/-- Replace the address at byte `addr` and the port at byte `port` of a packet
whose TCP header is at `hl`, and adjust both checksums. -/
def rewriteEndpoint (addr port : Nat) (h : List UInt8) (hl : Nat)
    (newIp : UInt32) (newPortN : UInt16) : List UInt8 :=
  let oldIp := get32 h addr
  let oldPort := get16 h port
  let h := put32 h addr newIp
  let h := put16 h port newPortN
  let h := put16 h 10 (csumAdj32 (iphChksum h) oldIp newIp)
  put16 h (hl + 16)
    (csumAdj (csumAdj32 (thChksum h hl) oldIp newIp) oldPort newPortN)

def rewriteDst (p : Pbuf) (hl : Nat) (newIp : UInt32) (newPortN : UInt16) :
    Pbuf :=
  { p with
    payload := rewriteEndpoint 16 (hl + 2) p.payload hl newIp newPortN }

def rewriteSrc (p : Pbuf) (hl : Nat) (newIp : UInt32) (newPortN : UInt16) :
    Pbuf :=
  { p with payload := rewriteEndpoint 12 hl p.payload hl newIp newPortN }

/-! ## What the header check establishes -/

section Checked

variable {p : Pbuf} {hl : Nat}

theorem tcpHeaders_eq_some_iff :
    tcpHeaders p = some hl ↔
      hl = iphHlBytes p.payload ∧ ipHlen ≤ p.payload.length ∧
        iphV p.payload = 4 ∧ iphProto p.payload = ipProtoTcp ∧
        ipHlen ≤ hl ∧ hl + tcpHlen ≤ p.payload.length ∧
        iphOffset p.payload &&& swap16 (ipOffmask ||| ipMf) = 0 := by
  unfold tcpHeaders
  constructor
  · intro found
    split at found
    · cases found
    · split at found
      · cases found
      · dsimp only at found
        split at found
        · cases found
        · split at found
          · cases found
          · cases found
            simp only [not_or, ne_eq, not_not, not_lt] at *
            grind
  · rintro ⟨rfl, long, version, protocol, minimal, room, whole⟩
    rw [if_neg (by omega), if_neg (by simp [version, protocol])]
    dsimp only
    rw [if_neg (by omega), if_neg (by simp [whole])]

theorem tcpHeaders_room (found : tcpHeaders p = some hl) :
    20 ≤ hl ∧ hl + 20 ≤ p.payload.length := by
  obtain ⟨_, _, _, _, minimal, room, _⟩ := tcpHeaders_eq_some_iff.mp found
  exact ⟨minimal, room⟩

/-- The check looks at the first ten bytes only, and at how many follow. -/
theorem tcpHeaders_congr {q : Pbuf}
    (sameFields :
      ∀ position, position < 10 →
        q.payload.getD position 0 = p.payload.getD position 0)
    (longer : p.payload.length ≤ q.payload.length)
    (found : tcpHeaders p = some hl) :
    tcpHeaders q = some hl := by
  obtain ⟨length, long, version, protocol, minimal, room, whole⟩ :=
    tcpHeaders_eq_some_iff.mp found
  apply tcpHeaders_eq_some_iff.mpr
  refine
    ⟨?_, long.trans longer, ?_, ?_, minimal, room.trans longer, ?_⟩
  · rw [length, iphHlBytes, iphHlBytes, sameFields 0 (by omega)]
  · rw [← version, iphV, iphV, sameFields 0 (by omega)]
  · rw [← protocol, iphProto, iphProto, sameFields 9 (by omega)]
  · rw [← whole, iphOffset, iphOffset, get16, get16,
      sameFields 6 (by omega), sameFields 7 (by omega)]

theorem tcpHeaders_pbufClone (found : tcpHeaders p = some hl) :
    tcpHeaders (pbufClone p) = some hl := by
  have room := tcpHeaders_room found
  apply tcpHeaders_congr _ _ found
  · intro position small
    exact getD_append_left _ (by omega)
  · simp [pbufClone, Pbuf.bytes]

end Checked

/-! ## What a rewrite changes -/

section Rewrite

variable {h : List UInt8} {addr port hl : Nat} (newIp : UInt32)
  (newPortN : UInt16)

@[simp]
theorem rewriteEndpoint_length :
    (rewriteEndpoint addr port h hl newIp newPortN).length = h.length := by
  simp [rewriteEndpoint]

/-- Everything outside the four rewritten fields stays as it was. -/
theorem getD_rewriteEndpoint_of_outside {position : Nat}
    (notAddr : position < addr ∨ addr + 4 ≤ position)
    (notPort : position < port ∨ port + 2 ≤ position)
    (notIpSum : position < 10 ∨ 12 ≤ position)
    (notTcpSum : position < hl + 16 ∨ hl + 18 ≤ position) :
    (rewriteEndpoint addr port h hl newIp newPortN).getD position 0 =
      h.getD position 0 := by
  simp only [rewriteEndpoint]
  rw [getD_put16_of_ne _ (by omega) (by omega),
    getD_put16_of_ne _ (by omega) (by omega),
    getD_put16_of_ne _ (by omega) (by omega),
    getD_put32_of_outside _ (by omega)]

theorem get32_rewriteEndpoint_addr
    (afterSum : 12 ≤ addr) (beforePort : addr + 4 ≤ port)
    (portInTcp : port + 2 ≤ hl + 16) (inside : hl + 18 ≤ h.length) :
    get32 (rewriteEndpoint addr port h hl newIp newPortN) addr = newIp := by
  simp only [rewriteEndpoint]
  rw [get32_put16_of_disjoint _ (by omega),
    get32_put16_of_disjoint _ (by omega),
    get32_put16_of_disjoint _ (by omega),
    get32_put32_self _ (by omega)]

theorem get16_rewriteEndpoint_port
    (afterSum : 12 ≤ port) (portInTcp : port + 2 ≤ hl + 16)
    (inside : hl + 18 ≤ h.length) :
    get16 (rewriteEndpoint addr port h hl newIp newPortN) port =
      newPortN := by
  simp only [rewriteEndpoint]
  rw [get16_put16_of_disjoint _ (by omega),
    get16_put16_of_disjoint _ (by omega),
    get16_put16_self _ (by rw [put32_length]; omega)]

end Rewrite

section NewEndpoint

variable {p : Pbuf} {hl : Nat}
  (room : 20 ≤ hl ∧ hl + 20 ≤ p.payload.length) (newIp : UInt32)
  (newPortN : UInt16)

include room

theorem ipSrc_rewriteSrc :
    ipSrc (rewriteSrc p hl newIp newPortN).payload = newIp :=
  get32_rewriteEndpoint_addr newIp newPortN (by omega) (by omega) (by omega)
    (by omega)

theorem thSrc_rewriteSrc :
    thSrc (rewriteSrc p hl newIp newPortN).payload hl = newPortN :=
  get16_rewriteEndpoint_port newIp newPortN (by omega) (by omega) (by omega)

theorem ipDest_rewriteDst :
    ipDest (rewriteDst p hl newIp newPortN).payload = newIp :=
  get32_rewriteEndpoint_addr newIp newPortN (by omega) (by omega) (by omega)
    (by omega)

theorem thDest_rewriteDst :
    thDest (rewriteDst p hl newIp newPortN).payload hl = newPortN :=
  get16_rewriteEndpoint_port newIp newPortN (by omega) (by omega) (by omega)

end NewEndpoint

end VeteraBridge.Proxy

import VeteraBridge.Lib.CopyBuffer
import VeteraBridge.Proxy.Redirector
import VeteraBridge.Proxy.Request

/-!
# Relay sessions

One session of the relay task, from the phone's first bytes to the copying of
both directions.  The functions work on a session together with the statics
they touch, and record what goes over its sockets.  The outcome of every
system call is an answer in `SessIo`; one call of `sess_service` makes each of
these calls at most once.
-/

namespace VeteraBridge.Proxy

open ByteWords Redirector

def upSz : Nat := 2048

def upCap : Nat := upSz + 512

def downSz : Nat := 1536

def setupMs : UInt32 := 10000

def hostSz : Nat := 80

def reqSz : Nat := 200

inductive SessState where
  /-- reading the request head or ClientHello from the phone -/
  | head
  /-- non-blocking connect to the proxy -/
  | connecting
  /-- HTTPS: waiting for the proxy's answer to CONNECT -/
  | reply
  /-- copying both ways -/
  | splice
deriving DecidableEq, Repr

/-- `sess_t`: a descriptor is -1 when there is none, and each buffer holds the
bytes up to its `len`. -/
structure Sess where
  used : Bool
  tls : Bool
  st : SessState
  ph : Int
  px : Int
  phonePort : UInt16
  origIp : UInt32
  mem : Option Nat
  up : CopyBuffer UInt8
  down : CopyBuffer UInt8
  phEof : Bool
  pxEof : Bool
  pxShut : Bool
  deadline : UInt32
  host : List UInt8
deriving DecidableEq, Repr

def Sess.cleared : Sess :=
  { used := false, tls := false, st := .head, ph := -1, px := -1
    phonePort := 0, origIp := 0, mem := none, up := CopyBuffer.empty
    down := CopyBuffer.empty, phEof := false, pxEof := false, pxShut := false
    deadline := 0, host := [] }

/-! ## Descriptors and memory -/

/-- The descriptors and blocks the relay task holds.  `faults` counts closes
of a descriptor and frees of a block that it does not hold. -/
structure Os where
  isOpen : Int → Bool
  isLive : Nat → Bool
  faults : Nat

namespace Os

/-- `socket` or `accept`: a descriptor that is not in use, or -1. -/
def open' (os : Os) (fd : Int) : Int × Os :=
  if 0 ≤ fd ∧ os.isOpen fd = false then
    (fd, { os with isOpen := Function.update os.isOpen fd true })
  else
    (-1, os)

def close (os : Os) (fd : Int) : Os :=
  if os.isOpen fd then
    { os with isOpen := Function.update os.isOpen fd false }
  else
    { os with faults := os.faults + 1 }

/-- `malloc`: a block that is not in use, or `NULL`. -/
def malloc (os : Os) : Option Nat → Option Nat × Os
  | some m =>
      if os.isLive m then (none, os)
      else (some m, { os with isLive := Function.update os.isLive m true })
  | none => (none, os)

def free (os : Os) : Option Nat → Os
  | some m =>
      if os.isLive m then
        { os with isLive := Function.update os.isLive m false }
      else
        { os with faults := os.faults + 1 }
  | none => os

variable {os : Os} {fd : Int}

theorem open'_cases (os : Os) (hint : Int) :
    os.open' hint = (-1, os) ∨
      (0 ≤ hint ∧ os.isOpen hint = false ∧
        os.open' hint =
          (hint, { os with isOpen := Function.update os.isOpen hint true })) := by
  unfold open'
  split
  · next fresh =>
    exact Or.inr ⟨fresh.1, fresh.2, rfl⟩
  · exact Or.inl rfl

theorem malloc_cases (os : Os) (hint : Option Nat) :
    os.malloc hint = (none, os) ∨
      ∃ m, hint = some m ∧ os.isLive m = false ∧
        os.malloc hint =
          (some m, { os with isLive := Function.update os.isLive m true }) := by
  unfold malloc
  cases hint with
  | none =>
      exact Or.inl rfl
  | some m =>
      dsimp only
      split
      · exact Or.inl rfl
      · next fresh =>
        exact Or.inr ⟨m, rfl, by simpa using fresh, rfl⟩

theorem close_of_isOpen (isOpen : os.isOpen fd = true) :
    os.close fd =
      { os with isOpen := Function.update os.isOpen fd false } := by
  rw [close, if_pos isOpen]

theorem free_of_isLive {m : Nat} (isLive : os.isLive m = true) :
    os.free (some m) =
      { os with isLive := Function.update os.isLive m false } := by
  simp [free, isLive]

theorem close_open (fresh : os.isOpen fd = false) :
    Os.close { os with isOpen := Function.update os.isOpen fd true } fd =
      os := by
  rw [close_of_isOpen (Function.update_self ..), Function.update_idem,
    ← fresh, Function.update_eq_self]

end Os

/-! ## Answers of the system -/

/-- `recv`: some bytes (none at the end of the stream), an error that would
block, or another error. -/
inductive RecvRes where
  | bytes (b : List UInt8)
  | again
  | failed
deriving DecidableEq, Repr

/-- No more bytes than were asked for. -/
def RecvRes.upTo (size : Nat) : RecvRes → RecvRes
  | .bytes b => .bytes (b.take size)
  | .again => .again
  | .failed => .failed

/-- `send`: how many bytes were taken, or an error. -/
inductive SendRes where
  | wrote (n : Nat)
  | again
  | failed
deriving DecidableEq, Repr

/-- `send` of `b`: the bytes that went out. -/
def SendRes.sent (res : SendRes) (b : List UInt8) : List UInt8 :=
  match res with
  | .wrote n => b.take n
  | .again => []
  | .failed => []

inductive ConnectRes where
  | connected
  | inProgress
  | failed
deriving DecidableEq, Repr

/-- What the system answers during one call of `sess_service`. -/
structure SessIo where
  recvPh : RecvRes
  recvPx : RecvRes
  sendPh : SendRes
  sendPx : SendRes
  /-- the `send` of the CONNECT request -/
  sendConnect : SendRes
  /-- `SO_ERROR` is not zero -/
  soError : Bool
  socket : Int
  connect : ConnectRes
  /-- `inet_pton` of the proxy host -/
  pton : Option UInt32
  /-- `getaddrinfo` of the proxy host -/
  addrInfo : Option UInt32
  /-- the block for the rewritten head -/
  outMem : Option Nat
  /-- what other tasks do before `flow_mark_closed` -/
  meanwhile : List OutsideEvent
  /-- the clock in `flow_mark_closed` -/
  closeMs : UInt32
deriving DecidableEq, Repr

/-- What goes over the sockets of a session, and how it ends. -/
inductive IoEvent where
  | accepted (tls : Bool) (origIp : UInt32)
  | phRecv (b : List UInt8)
  | phEof
  | phSend (b : List UInt8)
  | pxRecv (b : List UInt8)
  | pxEof
  | pxSend (b : List UInt8)
  /-- `shutdown(px, SHUT_WR)` -/
  | pxShut
  | closed (why : String)
deriving DecidableEq, Repr

/-- `resolved_host`, `resolved_addr` and `resolved_valid`. -/
structure Resolver where
  host : List UInt8
  addr : UInt32
  valid : Bool
deriving DecidableEq, Repr

/-- The statics of the relay task, and the state it shares with other
tasks. -/
structure Shared where
  activeSessions : Int
  resolver : Resolver
  os : Os
  rd : Redirector

/-- A session, the statics, and the record of its sockets. -/
structure SessCtx where
  s : Sess
  shared : Shared
  tr : List IoEvent

namespace SessCtx

def log (c : SessCtx) (event : IoEvent) : SessCtx :=
  { c with tr := c.tr ++ [event] }

def withOs (c : SessCtx) (os : Os) : SessCtx :=
  { c with shared := { c.shared with os := os } }

def withResolver (c : SessCtx) (resolver : Resolver) : SessCtx :=
  { c with shared := { c.shared with resolver := resolver } }

def withSess (c : SessCtx) (s : Sess) : SessCtx := { c with s := s }

end SessCtx

/-! ## Closing -/

/-- `if (fd >= 0) close(fd)`. -/
def closeFd (fd : Int) (os : Os) : Os :=
  if fd ≥ 0 then os.close fd else os

def sessClose (io : SessIo) (why : String) (c : SessCtx) : SessCtx :=
  { s := Sess.cleared
    shared :=
      { c.shared with
        os := (closeFd c.s.px (closeFd c.s.ph c.shared.os)).free c.s.mem
        rd :=
          (c.shared.rd.outsideRun io.meanwhile).step
            (.relayClose c.s.phonePort io.closeMs)
        activeSessions := c.shared.activeSessions - 1 }
    tr := c.tr ++ [.closed why] }

/-- `sess_fail`: the reason goes to the log in any case. -/
def sessFail (io : SessIo) (why : String) (c : SessCtx) : SessCtx :=
  sessClose io why c

/-! ## Connecting to the proxy -/

/-- `proxy_addr`: address and port of the proxy, and the cached name. -/
def proxyAddr (io : SessIo) (settings : Settings) (resolver : Resolver) :
    Option (UInt32 × UInt16) × Resolver :=
  let (_, host, port) := proxyGet settings proxyHostMax
  if host = [] ∨ port = 0 then (none, resolver)
  else
    match io.pton with
    | some addr => (some (addr, port), resolver)
    | none =>
      if resolver.valid ∧ resolver.host = host then
        (some (resolver.addr, port), resolver)
      else
        match io.addrInfo with
        | none => (none, resolver)
        | some addr =>
          (some (addr, port), ⟨strlcpy host proxyHostMax, addr, true⟩)

def onConnected (io : SessIo) (now : UInt32) (c : SessCtx) : SessCtx :=
  if c.s.tls then
    let req := connectRequest c.s.host
    if req.length ≥ reqSz then sessFail io "sending CONNECT failed" c
    else
      let c := c.log (.pxSend (io.sendConnect.sent req))
      if (io.sendConnect.sent req).length ≠ req.length then
        sessFail io "sending CONNECT failed" c
      else
        c.withSess
          { c.s with
            st := .reply
            down := ⟨[], c.s.down.off⟩
            deadline := now + setupMs }
  else
    c.withSess
      { c.s with
        st := .splice
        up := ⟨c.s.up.data, 0⟩
        deadline := now + idleMs }

def startConnect (io : SessIo) (now : UInt32) (c : SessCtx) : SessCtx :=
  let resolved := proxyAddr io c.shared.rd.settings c.shared.resolver
  let c := c.withResolver resolved.2
  match resolved.1 with
  | none => sessFail io "no proxy address" c
  | some _ =>
    let (fd, os) := c.shared.os.open' io.socket
    let c := (c.withOs os).withSess { c.s with px := fd }
    if fd < 0 then sessFail io "out of sockets" c
    else
      match io.connect with
      | .connected => onConnected io now c
      | .inProgress =>
        c.withSess
          { c.s with st := .connecting, deadline := now + setupMs }
      | .failed =>
        sessFail io "connecting to the proxy failed"
          (c.withResolver { c.shared.resolver with valid := false })

/-! ## Reading the request and the reply -/

/-- The host of an HTTPS session: the server name in the phone's bytes, or the
address it dialled. -/
def tlsHost (origIp : UInt32) (up : List UInt8) : List UInt8 :=
  match tlsSni up hostSz with
  | some host => host
  | none => ip4addrNtoa origIp

/-- `head_ready`: phone data in `S_HEAD`. -/
def headReady (io : SessIo) (now : UInt32) (c : SessCtx) : SessCtx :=
  let up := c.s.up.data
  if c.s.tls then
    if up.length < 5 then c
    else if
        byteAt up 0 = 0x16 ∧ up.length < 5 + lengthAt up 3 ∧
          up.length < upSz then
      c
    else
      startConnect io now
        (c.withSess { c.s with host := tlsHost c.s.origIp up })
  else
    match findCrlf2 up with
    | none =>
      if up.length ≥ upSz then sessFail io "request head too large" c else c
    | some e =>
      let body := up.drop (e + 4)
      match c.shared.os.malloc io.outMem with
      | (none, os) => sessFail io "out of memory" (c.withOs os)
      | (some out, os) =>
        let c := c.withOs os
        match
          httpRewrite (up.take (e + 4)) c.s.origIp (upCap - body.length)
            hostSz with
        | none =>
          sessFail io "can't parse the request"
            (c.withOs (c.shared.os.free (some out)))
        | some (head, host) =>
          let c :=
            c.withSess
              { c.s with up := ⟨head ++ body, c.s.up.off⟩, host := host }
          startConnect io now (c.withOs (c.shared.os.free (some out)))

/-- The proxy accepts the CONNECT: `HTTP/1.` and a status that starts with
2. -/
def acceptsConnect (d : List UInt8) : Bool :=
  d.take 7 == ascii "HTTP/1." && decide (12 ≤ d.length) && d.getD 9 0 == 50

/-- `reply_ready`: proxy data in `S_REPLY`. -/
def replyReady (io : SessIo) (now : UInt32) (c : SessCtx) : SessCtx :=
  let d := c.s.down.data
  match findCrlf2 d with
  | none =>
    if d.length ≥ downSz - 1 then sessFail io "proxy reply too large" c
    else c
  | some e =>
    if acceptsConnect d then
      c.withSess
        { c.s with
          down := ⟨d.drop (e + 4), 0⟩
          -- The ClientHello goes out first.
          up := ⟨c.s.up.data, 0⟩
          st := .splice
          deadline := now + idleMs }
    else
      sessClose io "proxy refused CONNECT" c

/-! ## Copying -/

/-- What one direction of `splice` did. -/
inductive PumpEvent where
  | idle
  | sent (b : List UInt8)
  | got (b : List UInt8)
  | eof
deriving DecidableEq, Repr

inductive PumpResult where
  | writeFailed
  | readFailed
  | ok (buffer : CopyBuffer UInt8) (eof moved : Bool) (event : PumpEvent)
deriving DecidableEq, Repr

/-- One direction of `splice`: pending bytes are sent if the sink is writable,
and otherwise an empty buffer is filled if the source is readable. -/
def pump (size : Nat) (writable readable : Bool) (send : SendRes)
    (recv : RecvRes) (buffer : CopyBuffer UInt8) (eof : Bool) : PumpResult :=
  if buffer.off < buffer.data.length ∧ writable = true then
    match send with
    | .failed => .writeFailed
    | .again => .ok buffer eof false .idle
    | .wrote n =>
      let n := min n buffer.pending.length
      .ok (buffer.drain n) eof (decide (0 < n)) (.sent (buffer.pending.take n))
  else if buffer.data.length = 0 ∧ eof = false ∧ readable = true then
    match recv.upTo size with
    | .failed => .readFailed
    | .again => .ok buffer eof false .idle
    | .bytes b =>
      if b = [] then .ok buffer true false .eof
      else .ok (CopyBuffer.fill b) eof true (.got b)
  else
    .ok buffer eof false .idle

/-- What the phone-to-proxy direction leaves on the sockets. -/
def upEvents : PumpEvent → List IoEvent
  | .idle => []
  | .sent b => [.pxSend b]
  | .got b => [.phRecv b]
  | .eof => [.phEof]

/-- What the proxy-to-phone direction leaves on the sockets. -/
def downEvents : PumpEvent → List IoEvent
  | .idle => []
  | .sent b => [.phSend b]
  | .got b => [.pxRecv b]
  | .eof => [.pxEof]

/-- The end of `splice`: pass on the phone's end of stream, then close a
drained session or push its deadline out. -/
def spliceEnd (io : SessIo) (now : UInt32) (moved : Bool) (c : SessCtx) :
    SessCtx :=
  let c :=
    if c.s.phEof = true ∧ c.s.up.data.length = 0 ∧ c.s.pxShut = false then
      (c.withSess { c.s with pxShut := true }).log .pxShut
    else
      c
  if c.s.pxEof = true ∧ c.s.down.data.length = 0 then sessClose io "done" c
  else if moved then c.withSess { c.s with deadline := now + idleMs }
  else c

def splice (io : SessIo) (rd wr : Int → Bool) (now : UInt32) (c : SessCtx) :
    SessCtx :=
  match
    pump upSz (wr c.s.px) (rd c.s.ph) io.sendPx io.recvPh c.s.up c.s.phEof with
  | .writeFailed => sessClose io "proxy write error" c
  | .readFailed => sessClose io "phone reset" c
  | .ok up phEof movedUp event =>
    let c : SessCtx :=
      { c with
        s := { c.s with up := up, phEof := phEof }
        tr := c.tr ++ upEvents event }
    match
      pump downSz (wr c.s.ph) (rd c.s.px) io.sendPh io.recvPx c.s.down
        c.s.pxEof with
    | .writeFailed => sessClose io "phone write error" c
    | .readFailed => sessClose io "proxy reset" c
    | .ok down pxEof movedDown event =>
      let c : SessCtx :=
        { c with
          s := { c.s with down := down, pxEof := pxEof }
          tr := c.tr ++ downEvents event }
      spliceEnd io now (movedUp || movedDown) c

/-! ## One service call -/

def sessService (io : SessIo) (rd wr : Int → Bool) (now : UInt32)
    (c : SessCtx) : SessCtx :=
  match c.s.st with
  | .head =>
    if rd c.s.ph then
      match io.recvPh.upTo (upSz - c.s.up.data.length) with
      | .failed => sessClose io "phone closed before sending" c
      | .again => c
      | .bytes b =>
        if b = [] then
          sessClose io "phone closed before sending" (c.log .phEof)
        else
          headReady io now
            ((c.withSess
              { c.s with up := ⟨c.s.up.data ++ b, c.s.up.off⟩ }).log
                (.phRecv b))
    else
      c
  | .connecting =>
    if wr c.s.px then
      if io.soError then
        sessFail io "connecting to the proxy failed"
          (c.withResolver { c.shared.resolver with valid := false })
      else
        onConnected io now c
    else
      c
  | .reply =>
    if rd c.s.px then
      match io.recvPx.upTo (downSz - 1 - c.s.down.data.length) with
      | .failed => sessFail io "proxy closed after CONNECT" c
      | .again => c
      | .bytes b =>
        if b = [] then
          sessFail io "proxy closed after CONNECT" (c.log .pxEof)
        else
          replyReady io now
            ((c.withSess
              { c.s with down := ⟨c.s.down.data ++ b, c.s.down.off⟩ }).log
                (.pxRecv b))
    else
      c
  | .splice => splice io rd wr now c

/-! ## What copying does -/

/-- A direction that goes on has done nothing, or sent, or met the end of its
stream, or received. -/
inductive Pumped (size : Nat) (buffer : CopyBuffer UInt8) (eof : Bool) :
    CopyBuffer UInt8 → Bool → Bool → PumpEvent → Prop where
  | idles : Pumped size buffer eof buffer eof false .idle
  | sends (n : Nat) (within : n ≤ buffer.pending.length) :
      Pumped size buffer eof (buffer.drain n) eof (decide (0 < n))
        (.sent (buffer.pending.take n))
  | ends : Pumped size buffer eof buffer true false .eof
  | receives (drained : buffer.pending = []) (b : List UInt8)
      (nonempty : b ≠ []) (short : b.length ≤ size) :
      Pumped size buffer eof (CopyBuffer.fill b) eof true (.got b)

theorem upTo_length_le {recv : RecvRes} {size : Nat} {b : List UInt8}
    (received : recv.upTo size = .bytes b) : b.length ≤ size := by
  cases recv with
  | failed => cases received
  | again => cases received
  | bytes all =>
      cases received
      exact List.length_take_le size all

theorem pump_pumped {size : Nat} {writable readable : Bool} {send : SendRes}
    {recv : RecvRes} {buffer after : CopyBuffer UInt8}
    {eof eofAfter moved : Bool} {event : PumpEvent}
    (pumped :
      pump size writable readable send recv buffer eof =
        .ok after eofAfter moved event) :
    Pumped size buffer eof after eofAfter moved event := by
  unfold pump at pumped
  split at pumped
  · cases send with
    | failed =>
        cases pumped
    | again =>
        cases pumped
        exact .idles
    | wrote n =>
        cases pumped
        exact .sends _ (min_le_right n _)
  · split at pumped
    · next nothing =>
      have drained : buffer.pending = [] :=
        CopyBuffer.pending_of_data_nil (List.length_eq_zero_iff.mp nothing.1)
      cases received : recv.upTo size with
      | failed =>
          rw [received] at pumped
          cases pumped
      | again =>
          rw [received] at pumped
          cases pumped
          exact .idles
      | bytes b =>
          simp only [received] at pumped
          split at pumped
          · cases pumped
            exact .ends
          · next nonempty =>
            cases pumped
            exact .receives drained b nonempty (upTo_length_le received)
    · cases pumped
      exact .idles

/-- The session after the phone's end of stream was passed on, where that was
due. -/
def passEof (c : SessCtx) : SessCtx :=
  if c.s.phEof = true ∧ c.s.up.data.length = 0 ∧ c.s.pxShut = false then
    (c.withSess { c.s with pxShut := true }).log .pxShut
  else
    c

theorem spliceEnd_eq (io : SessIo) (now : UInt32) (moved : Bool)
    (c : SessCtx) :
    spliceEnd io now moved c =
      if (passEof c).s.pxEof = true ∧ (passEof c).s.down.data.length = 0 then
        sessClose io "done" (passEof c)
      else if moved then
        (passEof c).withSess { (passEof c).s with deadline := now + idleMs }
      else passEof c := by
  rfl

end VeteraBridge.Proxy

import VeteraBridge.Proxy.Session

/-!
# The relay task

`proxy_task`: its listeners, its table of sessions and its loop.  One pass of
the loop waits in `select`, serves the sessions, accepts new ones and closes
those that are past their deadline.  Other tasks run in between; the relay
task meets them only where it reads the settings or takes `flow_mux`.
-/

namespace VeteraBridge.Proxy

open EventRun Redirector

def sessMax : Nat := 4

instance : NeZero sessMax := ⟨by decide⟩

def minFreeHeap : Nat := 20480

/-- A flow, by its slot and its number among the flows of that slot. -/
abbrev FlowId : Type := Fin flowMax × Nat

/-- What statements about the relay task refer to; no function reads it. -/
structure RelayRecord where
  /-- what went over the sockets of the last session in each slot -/
  tr : Fin sessMax → List IoEvent
  /-- the flow that `flow_lookup` found when the session was accepted -/
  acceptedOn : Fin sessMax → Option FlowId
  /-- flows of accepted connections that the relay task has closed -/
  ended : List FlowId
  /-- phone ports of redirected connections closed for want of a slot -/
  turnedAway : List UInt16

structure Relay where
  sess : Fin sessMax → Sess
  shared : Shared
  lh : Int
  lt : Int
  record : RelayRecord

namespace Relay

/-- The session in slot `i`, with what it works on. -/
def ctx (w : Relay) (i : Fin sessMax) : SessCtx :=
  ⟨w.sess i, w.shared, w.record.tr i⟩

def withOs (w : Relay) (os : Os) : Relay :=
  { w with shared := { w.shared with os := os } }

def withRd (w : Relay) (rd : Redirector) : Relay :=
  { w with shared := { w.shared with rd := rd } }

/-- Other tasks run. -/
def outside (w : Relay) (events : List OutsideEvent) : Relay :=
  w.withRd (w.shared.rd.outsideRun events)

end Relay

/-- The record after a session function has run in slot `i`. -/
def RelayRecord.after (record : RelayRecord) (i : Fin sessMax) (c : SessCtx) :
    RelayRecord :=
  { record with
    tr := Function.update record.tr i c.tr
    acceptedOn :=
      if c.s.used then record.acceptedOn
      else Function.update record.acceptedOn i none
    ended :=
      if c.s.used then record.ended
      else (record.acceptedOn i).toList ++ record.ended }

/-- The task's data after a session function has run in slot `i`. -/
def Relay.put (w : Relay) (i : Fin sessMax) (c : SessCtx) : Relay :=
  { w with
    sess := Function.update w.sess i c.s
    shared := c.shared
    record := w.record.after i c }

/-! ## Accepting -/

/-- What the system answers in one call of `do_accept`. -/
structure AcceptIo where
  conn : Int
  /-- `peer.sin_addr.s_addr`, in network order -/
  peerAddr : UInt32
  /-- `ntohs(peer.sin_port)` -/
  pport : UInt16
  mem : Option Nat
  /-- what other tasks do before `flow_lookup` -/
  before : List OutsideEvent
  /-- what other tasks do before `flow_mark_closed` -/
  meanwhile : List OutsideEvent
  /-- the clock in `flow_mark_closed` -/
  closeMs : UInt32
deriving DecidableEq, Repr

def relayPort (tls : Bool) : UInt16 :=
  if tls then relayTlsPort else relayHttpPort

/-- The destination of a connection that the hook redirected. -/
def redirectedFrom (flows : FlowTable) (tls : Bool) (io : AcceptIo) :
    Option (UInt32 × UInt16) :=
  if io.peerAddr ≠ phoneAddrN then none
  else flowLookup flows io.pport (relayPort tls)

/-- The first slot without a session. -/
def freeSlot (sess : Fin sessMax → Sess) : Option (Fin sessMax) :=
  (List.finRange sessMax).find? fun i => !(sess i).used

/-- The session `do_accept` starts. -/
def newSess (tls : Bool) (conn : Int) (pport : UInt16) (origIp : UInt32)
    (mem : Nat) (now : UInt32) : Sess :=
  { Sess.cleared with
    used := true
    tls := tls
    st := .head
    ph := conn
    px := -1
    phonePort := pport
    origIp := origIp
    mem := some mem
    deadline := now + setupMs
    host := ip4addrNtoa origIp }

/-- The flow in use for a phone port. -/
def flowOf (rd : Redirector) (phonePort : UInt16) : Option FlowId :=
  (flowFind rd.flows phonePort).map fun j => (j, rd.born j)

/-- The task's data when `do_accept` starts a session in slot `i`. -/
def Relay.begin (w : Relay) (i : Fin sessMax) (tls : Bool) (s : Sess) :
    Relay :=
  { w with
    sess := Function.update w.sess i s
    shared := { w.shared with activeSessions := w.shared.activeSessions + 1 }
    record :=
      { w.record with
        tr := Function.update w.record.tr i [.accepted tls s.origIp]
        acceptedOn :=
          Function.update w.record.acceptedOn i
            (flowOf w.shared.rd s.phonePort) } }

/-- `do_accept` when there is no slot or no memory for the session:
`close(c); flow_mark_closed(pport)`. -/
def Relay.drop (w : Relay) (conn : Int) (io : AcceptIo) (slot : Bool) :
    Relay :=
  { w with
    shared :=
      { w.shared with
        os := w.shared.os.close conn
        rd :=
          (w.shared.rd.outsideRun io.meanwhile).step
            (.relayClose io.pport io.closeMs) }
    record :=
      { w.record with
        ended := (flowOf w.shared.rd io.pport).toList ++ w.record.ended
        turnedAway :=
          if slot then w.record.turnedAway
          else io.pport :: w.record.turnedAway } }

/-- `do_accept`. -/
def Relay.doAccept (w : Relay) (tls : Bool) (io : AcceptIo) (now : UInt32) :
    Relay :=
  let (conn, os) := w.shared.os.open' io.conn
  let w := (w.withOs os).outside io.before
  if conn < 0 then w
  else
    match redirectedFrom w.shared.rd.flows tls io with
    | none => w.withOs (w.shared.os.close conn)
    | some (origIp, _) =>
      match freeSlot w.sess with
      | none => w.drop conn io false
      | some i =>
        match w.shared.os.malloc io.mem with
        | (none, os) => (w.withOs os).drop conn io true
        | (some mem, os) =>
          (w.withOs os).begin i tls
            (newSess tls conn io.pport origIp mem now)

/-! ### What an accept can do -/

/-- The connection that `do_accept` gets is one the hook redirected. -/
structure Redirected (w : Relay) (tls : Bool) (io : AcceptIo) : Prop where
  nonneg : 0 ≤ io.conn
  fresh : w.shared.os.isOpen io.conn = false
  lookup :
    (redirectedFrom (w.outside io.before).shared.rd.flows tls io).isSome =
      true

/-- There is memory for the session. -/
def HasMemory (w : Relay) (io : AcceptIo) : Prop :=
  ∃ m, io.mem = some m ∧ w.shared.os.isLive m = false

/-- The task's data while `do_accept` holds its connection. -/
def Relay.accepted (w : Relay) (io : AcceptIo) : Relay :=
  (w.outside io.before).withOs
    { w.shared.os with
      isOpen := Function.update w.shared.os.isOpen io.conn true }

/-- The four things `do_accept` can do. -/
inductive AcceptOutcome (w : Relay) (tls : Bool) (io : AcceptIo)
    (now : UInt32) : Relay → Prop
  | nothing (notRedirected : ¬ Redirected w tls io) :
      AcceptOutcome w tls io now (w.outside io.before)
  | noSlot (redirected : Redirected w tls io)
      (full : freeSlot w.sess = none) :
      AcceptOutcome w tls io now ((w.accepted io).drop io.conn io false)
  | noMemory (i : Fin sessMax) (redirected : Redirected w tls io)
      (found : freeSlot w.sess = some i) (noMem : ¬ HasMemory w io) :
      AcceptOutcome w tls io now ((w.accepted io).drop io.conn io true)
  | begins (i : Fin sessMax) (mem : Nat) (origIp : UInt32)
      (redirected : Redirected w tls io) (found : freeSlot w.sess = some i)
      (hint : io.mem = some mem) (memFresh : w.shared.os.isLive mem = false) :
      AcceptOutcome w tls io now
        (((w.accepted io).withOs
          { (w.accepted io).shared.os with
            isLive := Function.update w.shared.os.isLive mem true }).begin i
          tls (newSess tls io.conn io.pport origIp mem now))

theorem doAccept_outcome (w : Relay) (tls : Bool) (io : AcceptIo)
    (now : UInt32) : AcceptOutcome w tls io now (w.doAccept tls io now) := by
  unfold Relay.doAccept
  rcases Os.open'_cases w.shared.os io.conn with
    refused | ⟨nonneg, fresh, opened⟩
  · simp only [refused]
    refine AcceptOutcome.nothing ?_
    rintro ⟨nonneg, fresh, _⟩
    simp [Os.open', nonneg, fresh] at refused
    omega
  · simp only [opened, if_neg (not_lt.mpr nonneg)]
    split
    · next notFound =>
      have restored := Os.close_open fresh
      have nothing : AcceptOutcome w tls io now (w.outside io.before) := by
        refine AcceptOutcome.nothing ?_
        rintro ⟨_, _, lookup⟩
        change
          (redirectedFrom (w.outside io.before).shared.rd.flows tls io) =
            none at notFound
        rw [notFound] at lookup
        cases lookup
      simp only [Relay.withOs, Relay.outside, Relay.withRd, restored]
      exact nothing
    · next origIp _ found =>
      have redirected : Redirected w tls io :=
        ⟨nonneg, fresh, Option.isSome_iff_exists.mpr ⟨_, found⟩⟩
      split
      · next full =>
        exact AcceptOutcome.noSlot redirected full
      · next i slot =>
        rcases
          Os.malloc_cases
            { w.shared.os with
              isOpen := Function.update w.shared.os.isOpen io.conn true }
            io.mem with
          refused | ⟨m, hint, memFresh, allocated⟩
        · simp only [Relay.withOs, Relay.outside, Relay.withRd, refused]
          refine AcceptOutcome.noMemory i redirected slot ?_
          rintro ⟨m, hint, memFresh⟩
          simp [Os.malloc, hint, memFresh] at refused
        · simp only [Relay.withOs, Relay.outside, Relay.withRd, allocated]
          exact
            AcceptOutcome.begins i m origIp redirected slot hint memFresh

theorem freeSlot_eq_some {sess : Fin sessMax → Sess} {i : Fin sessMax}
    (found : freeSlot sess = some i) : (sess i).used = false := by
  have isFree := List.find?_some found
  simpa using isFree

theorem freeSlot_eq_none_iff {sess : Fin sessMax → Sess} :
    freeSlot sess = none ↔ ∀ i, (sess i).used = true := by
  simp [freeSlot, List.find?_eq_none]

/-! ## The deadline -/

/-- `(int32_t)(now - s->deadline) > 0`. -/
def pastDeadline (now deadline : UInt32) : Bool :=
  decide (0 < (now - deadline).toBitVec.toInt)

/-- What the loop does with a session that is past its deadline. -/
def sessTimeout (io : SessIo) (c : SessCtx) : SessCtx :=
  match c.s.st with
  | .splice => sessClose io "idle" c
  | .head => sessFail io "timed out waiting for the request" c
  | .connecting => sessFail io "timed out connecting to the proxy" c
  | .reply => sessFail io "timed out waiting for the CONNECT reply" c

/-! ## The steps of the task -/

/-- One step of the task, or of another one. -/
inductive RelayEvent where
  | outside (event : OutsideEvent)
  | service (i : Fin sessMax) (io : SessIo) (rd wr : Int → Bool)
      (now : UInt32)
  | accept (tls : Bool) (io : AcceptIo) (now : UInt32)
  | timeout (i : Fin sessMax) (io : SessIo) (now : UInt32)

namespace Relay

/-- `if (sess[i].used) sess_service(...)`. -/
def service (w : Relay) (i : Fin sessMax) (io : SessIo) (rd wr : Int → Bool)
    (now : UInt32) : Relay :=
  if (w.sess i).used then w.put i (sessService io rd wr now (w.ctx i)) else w

/-- Close the session in slot `i` if it is past its deadline. -/
def timeout (w : Relay) (i : Fin sessMax) (io : SessIo) (now : UInt32) :
    Relay :=
  if (w.sess i).used = true ∧ pastDeadline now (w.sess i).deadline = true then
    w.put i (sessTimeout io (w.ctx i))
  else
    w

def step (w : Relay) : RelayEvent → Relay
  | .outside event => w.withRd (w.shared.rd.outsideStep event)
  | .service i io rd wr now => w.service i io rd wr now
  | .accept tls io now => w.doAccept tls io now
  | .timeout i io now => w.timeout i io now

end Relay

/-! ## The loop -/

/-- `sess_fds`: the descriptors to read from and those to write to. -/
def sessFds (s : Sess) : List Int × List Int :=
  match s.st with
  | .head => ([s.ph], [])
  | .connecting => ([], [s.px])
  | .reply => ([s.px], [])
  | .splice =>
    let up : List Int × List Int :=
      if s.up.off < s.up.data.length then ([], [s.px])
      else if s.phEof then ([], [])
      else ([s.ph], [])
    let down : List Int × List Int :=
      if s.down.off < s.down.data.length then ([], [s.ph])
      else if s.pxEof then ([], [])
      else ([s.px], [])
    (up.1 ++ down.1, up.2 ++ down.2)

/-- What the system answers in one pass of the loop. -/
structure PassIo where
  freeHeap : Nat
  /-- the result of `select` and the descriptors it leaves in its sets -/
  selected : Int
  readable : Int → Bool
  writable : Int → Bool
  now : UInt32
  /-- what other tasks do during `select` -/
  waiting : List OutsideEvent
  /-- what other tasks do before each session is served -/
  before : Fin sessMax → List OutsideEvent
  sess : Fin sessMax → SessIo
  /-- by listener, as `tls` has it -/
  accept : Bool → AcceptIo
  timeout : Fin sessMax → SessIo

namespace Relay

/-- The loop has room for another session: a slot and enough memory. -/
def room (w : Relay) (freeHeap : Nat) : Bool :=
  (freeSlot w.sess).isSome && decide (minFreeHeap ≤ freeHeap)

/-- The descriptors that `select` is asked for. -/
def fdSets (w : Relay) (room : Bool) : List Int × List Int :=
  let inUse := (List.finRange sessMax).filter fun i => (w.sess i).used
  (inUse.flatMap (fun i => (sessFds (w.sess i)).1) ++
      (if room then [w.lh, w.lt] else []),
    inUse.flatMap fun i => (sessFds (w.sess i)).2)

/-- The first part of a pass after `select`: every session in use is
served. -/
def serveAll (w : Relay) (io : PassIo) (rd wr : Int → Bool) : Relay :=
  (List.finRange sessMax).foldl
    (fun w i => (w.outside (io.before i)).service i (io.sess i) rd wr io.now) w

def listener (w : Relay) (tls : Bool) : Int :=
  if tls then w.lt else w.lh

/-- One of the two accepts of a pass. -/
def acceptFrom (w : Relay) (io : PassIo) (room : Bool) (rd : Int → Bool)
    (tls : Bool) : Relay :=
  if room = true ∧ rd (w.listener tls) = true then
    w.doAccept tls (io.accept tls) io.now
  else
    w

/-- The last part of a pass. -/
def timeoutAll (w : Relay) (io : PassIo) : Relay :=
  (List.finRange sessMax).foldl
    (fun w i => w.timeout i (io.timeout i) io.now) w

/-- What `select` leaves in the set of descriptors to read from. -/
def rdSet (w : Relay) (io : PassIo) (fd : Int) : Bool :=
  (w.fdSets (w.room io.freeHeap)).1.contains fd && io.readable fd

/-- What `select` leaves in the set of descriptors to write to. -/
def wrSet (w : Relay) (io : PassIo) (fd : Int) : Bool :=
  (w.fdSets (w.room io.freeHeap)).2.contains fd && io.writable fd

/-- One pass of the loop in `proxy_task`. -/
def pass (w : Relay) (io : PassIo) : Relay :=
  let room := w.room io.freeHeap
  let rd := w.rdSet io
  let wr := w.wrSet io
  let w := w.outside io.waiting
  if io.selected < 0 then w
  else
    let w :=
      if io.selected > 0 then
        ((w.serveAll io rd wr).acceptFrom io room rd false).acceptFrom io room
          rd true
      else
        w
    w.timeoutAll io

end Relay

/-! ## The start of the task -/

/-- What the system answers in one call of `make_listener`: a socket, and
whether `bind` and `listen` succeed. -/
structure ListenIo where
  socket : Int
  listens : Bool
deriving DecidableEq, Repr

/-- `make_listener`. -/
def makeListener (io : ListenIo) (os : Os) : Int × Os :=
  let (fd, os) := os.open' io.socket
  if fd < 0 then (-1, os)
  else if io.listens then (fd, os)
  else (-1, os.close fd)

/-- Nothing open, nothing allocated. -/
def Os.start : Os := ⟨fun _ => false, fun _ => false, 0⟩

/-- `proxy_task` up to its loop. -/
def proxyTaskStart (http tls : ListenIo) (rd : Redirector) : Relay :=
  let (lh, os) := makeListener http Os.start
  let (lt, os) := makeListener tls os
  { sess := fun _ => Sess.cleared
    shared :=
      { activeSessions := 0
        resolver := ⟨[], 0, false⟩
        os := if lh < 0 ∨ lt < 0 then closeFd lt (closeFd lh os) else os
        rd := rd.step (.listen (decide (0 ≤ lh)) (decide (0 ≤ lt))) }
    lh := lh
    lt := lt
    record := ⟨fun _ => [], fun _ => none, [], []⟩ }

/-- Both listeners are open, so the task enters its loop. -/
def Relay.Listening (w : Relay) : Prop :=
  0 ≤ w.lh ∧ 0 ≤ w.lt

instance (w : Relay) : Decidable w.Listening :=
  inferInstanceAs (Decidable (_ ∧ _))

/-- `proxy_task` after some passes of its loop. -/
def proxyTask (http tls : ListenIo) (rd : Redirector)
    (passes : List PassIo) : Relay :=
  let w := proxyTaskStart http tls rd
  if w.Listening then run Relay.pass w passes else w

/-! ## Parts of concrete runs -/

/-- The phone dials a web port of 93.184.216.34, and the hook handles the
SYN. -/
def dial (sport dport : UInt16) : List OutsideEvent :=
  [.arrive (phoneSegment [93, 184, 216, 34] sport dport 0x02) (some .ppp) 7,
    .commit]

/-- A connection of the phone, with this descriptor and block. -/
def phoneConn (pport : UInt16) (fd : Nat) : AcceptIo :=
  { conn := fd, peerAddr := phoneAddrN, pport := pport, mem := some fd
    before := [], meanwhile := [], closeMs := 8 }

/-- Nothing happens on the sockets of a session. -/
def quietSess : SessIo :=
  { recvPh := .again, recvPx := .again, sendPh := .again, sendPx := .again
    sendConnect := .again, soError := false, socket := -1
    connect := .inProgress, pton := none, addrInfo := none, outMem := none
    meanwhile := [], closeMs := 8 }

/-- A pass in which `select` runs into its own timeout. -/
def quietPass : PassIo :=
  { freeHeap := 30000, selected := 0
    readable := fun _ => false, writable := fun _ => false
    now := 8, waiting := [], before := fun _ => []
    sess := fun _ => quietSess, accept := fun _ => phoneConn 0 0
    timeout := fun _ => quietSess }

/-! ## A pass is a run of steps -/

namespace Relay

variable {w : Relay}

theorem reachable_outside (w : Relay) (events : List OutsideEvent) :
    Reachable step w (w.outside events) := by
  refine ⟨events.map RelayEvent.outside, ?_⟩
  induction events generalizing w with
  | nil =>
      rfl
  | cons event rest inductionHypothesis =>
      rw [List.map_cons, run_cons, inductionHypothesis]
      rfl

theorem reachable_serveAll (w : Relay) (io : PassIo) (rd wr : Int → Bool) :
    Reachable step w (w.serveAll io rd wr) := by
  apply Reachable.foldl
  intro w i
  exact
    (reachable_outside w (io.before i)).next
      (.service i (io.sess i) rd wr io.now)

theorem reachable_acceptFrom (w : Relay) (io : PassIo) (room : Bool)
    (rd : Int → Bool) (tls : Bool) :
    Reachable step w (w.acceptFrom io room rd tls) := by
  unfold acceptFrom
  split
  · exact (Reachable.refl w).next
      (RelayEvent.accept tls (io.accept tls) io.now)
  · exact Reachable.refl w

theorem reachable_timeoutAll (w : Relay) (io : PassIo) :
    Reachable step w (w.timeoutAll io) := by
  apply Reachable.foldl
  intro w i
  exact
    (Reachable.refl w).next (RelayEvent.timeout i (io.timeout i) io.now)

theorem reachable_pass (w : Relay) (io : PassIo) :
    Reachable step w (w.pass io) := by
  have waited := reachable_outside w io.waiting
  unfold pass
  dsimp only
  split
  · exact waited
  · apply Reachable.trans _ (reachable_timeoutAll _ io)
    split
    · exact
        ((waited.trans (reachable_serveAll _ io _ _)).trans
          (reachable_acceptFrom _ io _ _ false)).trans
            (reachable_acceptFrom _ io _ _ true)
    · exact waited

theorem reachable_proxyTask (http tls : ListenIo) (rd : Redirector)
    (passes : List PassIo) :
    Reachable step (proxyTaskStart http tls rd)
      (proxyTask http tls rd passes) := by
  unfold proxyTask
  dsimp only
  split
  · exact Reachable.foldl reachable_pass passes _
  · exact Reachable.refl _

end Relay

end VeteraBridge.Proxy

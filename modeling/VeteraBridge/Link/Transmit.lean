import VeteraBridge.Link.Channels

/-!
# The transmit path

PPP's output goes into a stream buffer on the tcpip task and is taken out on the
BTstack task, which is told by a callback on its run loop and then asks to send.
A step is one access to what the two tasks share; left alone, the steps of a
handler are the handler.
-/

namespace VeteraBridge.Link

open EventRun

/-- What the tcpip task does next, in `ppp_output_cb`. -/
inductive OutputPc where
  | idle
  /-- the session is active: send to the stream -/
  | sends (data : List UInt8)
  /-- look at `tx_notify_pending` -/
  | sent
  /-- it was clear, and is set: put `tx_cb_reg` on the run loop -/
  | registers
deriving DecidableEq, Repr

/-- What the BTstack task does next. -/
inductive SendPc where
  | idle
  /-- `tx_notify_cb` -/
  | notifies
  /-- a chunk was sent: look whether there is more -/
  | received (cid : UInt16)
  /-- the stream is reset: clear `tx_notify_pending` -/
  | opening (cid handle : UInt16)
  /-- start PPP -/
  | starting (cid handle : UInt16)
deriving DecidableEq, Repr

/-- The two tasks, with what BTstack keeps for the bridge. -/
structure TxTasks where
  link : LinkState
  phase : UInt16 → Phase
  output : OutputPc
  bt : SendPc
  /-- `tx_cb_reg` is on the list of the run loop -/
  queued : Bool
  /-- a channel waits to be told that it can send -/
  requested : UInt16 → Bool

inductive TxEvent where
  /-- an event of the BTstack task that is handled at once -/
  | other (event : Event)
  | opened (cid handle : UInt16)
  | canSendNow (cid maxFrameSize : UInt16) (sendStatus : UInt8)
  /-- the run loop takes `tx_cb_reg` off its list -/
  | notify
  /-- the BTstack task goes on; the answers are those of `ppp_session_start` -/
  | bt (created listens : Bool)
  | pppStatus (pcb : Nat) (up : Bool)
  | pppOutput (data : List UInt8)
  /-- the tcpip task goes on -/
  | tcpip
deriving DecidableEq, Repr

/-- An event of the BTstack task that neither opens a channel nor sends. -/
def Event.Whole : Event → Prop
  | .opened _ status _ _ _ => status ≠ 0
  | .canSendNow _ _ _ | .txNotify | .pppOutput _ | .pppStatus _ _ => False
  | _ => True

/-- `rfcomm_request_can_send_now_event`. -/
def noteRequest (requested : UInt16 → Bool) : Call → UInt16 → Bool
  | .requestCanSendNow cid => Function.update requested cid true
  | _ => requested

/-- A channel that comes in or closes waits for nothing. -/
def forgetRequest (requested : UInt16 → Bool) : Event → UInt16 → Bool
  | .incoming cid _ _ _ => Function.update requested cid false
  | .closed cid => Function.update requested cid false
  | _ => requested

/-- `RFCOMM_EVENT_CHANNEL_OPENED`, from the start of PPP. -/
def startSession (cid handle : UInt16) (created listens : Bool)
    (s : LinkState) : LinkState :=
  let started := pppSessionStart created listens s
  if started.1 then started.2.call (.gwOnRfcommOpened handle)
  else (started.2.call (.disconnect cid)).noSession

/-- The transmit path and the handshake as a channel opens, but for the
stream. -/
def clearedChannel (s : LinkState) : LinkState :=
  { s with
    txNotifyPending := false
    txDropped := 0
    pppFrameSeen := false
    prePppReply := none }

/-- `xStreamBufferSend`, and what does not fit. -/
def sendToStream (data : List UInt8) (s : LinkState) : LinkState :=
  let stream := streamSend s.pppTxStream data
  let sent := stream.length - s.pppTxStream.length
  { s with
    pppTxStream := stream
    txDropped := if sent < data.length then s.txDropped + 1 else s.txDropped }

namespace TxTasks

def world (s : TxTasks) : World := { link := s.link, phase := s.phase }

/-- The link after a step, with the calls of the step. -/
def becomes (s : TxTasks) (link : LinkState) : TxTasks :=
  { s with
    link := link
    requested := link.calls.foldl noteRequest s.requested }

/-- The link, before it lists the calls of a step. -/
def quiet (s : TxTasks) : LinkState := { s.link with calls := [] }

@[simp]
def withBt (s : TxTasks) (pc : SendPc) : TxTasks := { s with bt := pc }

@[simp]
def withOutput (s : TxTasks) (pc : OutputPc) : TxTasks := { s with output := pc }

/-! ## The BTstack task -/

def other (event : Event) (s : TxTasks) : TxTasks :=
  { s with
    phase := (s.world.step event).phase
    requested := forgetRequest s.requested event }.becomes
      (s.world.step event).link

/-- `RFCOMM_EVENT_CHANNEL_OPENED`: `xStreamBufferReset`. -/
def opened (cid handle : UInt16) (s : TxTasks) : TxTasks :=
  ({ s with phase := Function.update s.phase cid .opened }.becomes
    { s.quiet with pppTxStream := [] }).withBt (.opening cid handle)

/-- `RFCOMM_EVENT_CAN_SEND_NOW`, up to the look at what is left. -/
def canSendNow (cid maxFrameSize : UInt16) (sendStatus : UInt8)
    (s : TxTasks) : TxTasks :=
  let s := { s with requested := Function.update s.requested cid false }
  if s.link.activeCid = 0 then s.becomes s.quiet
  else
    match s.link.prePppReply with
    | some reply => s.becomes (sendReply reply sendStatus s.quiet)
    | none =>
      (s.becomes (sendChunk maxFrameSize sendStatus s.quiet)).withBt
        (.received s.link.activeCid)

def notify (s : TxTasks) : TxTasks :=
  { s with queued := false, bt := .notifies }

/-- The next step of the BTstack task. -/
def btStep (created listens : Bool) (s : TxTasks) : TxTasks :=
  match s.bt with
  | .idle => s
  | .notifies => (s.becomes (txNotifyCb s.quiet)).withBt .idle
  | .received cid =>
    (s.becomes
      (if s.link.pppTxStream ≠ [] then s.quiet.call (.requestCanSendNow cid)
      else s.quiet)).withBt .idle
  | .opening cid handle =>
    (s.becomes (clearedChannel s.quiet)).withBt (.starting cid handle)
  | .starting cid handle =>
    (s.becomes (startSession cid handle created listens s.quiet)).withBt .idle

/-! ## The tcpip task -/

def pppStatus (pcb : Nat) (up : Bool) (s : TxTasks) : TxTasks :=
  s.becomes (pppStatusCb pcb up s.quiet)

/-- `ppp_output_cb` looks at the session. -/
def pppOutput (data : List UInt8) (s : TxTasks) : TxTasks :=
  if s.link.sessionActive then s.withOutput (.sends data) else s

/-- The next step of the tcpip task. -/
def tcpipStep (s : TxTasks) : TxTasks :=
  match s.output with
  | .idle => s
  | .sends data => (s.becomes (sendToStream data s.quiet)).withOutput .sent
  | .sent =>
    if s.link.txNotifyPending then s.withOutput .idle
    else
      (s.becomes { s.quiet with txNotifyPending := true }).withOutput .registers
  | .registers =>
    { s.becomes (s.quiet.call .executeOnMainThread) with
      output := .idle
      queued := true }

def step (s : TxTasks) : TxEvent → TxTasks
  | .other event => s.other event
  | .opened cid handle => s.opened cid handle
  | .canSendNow cid maxFrameSize sendStatus =>
    s.canSendNow cid maxFrameSize sendStatus
  | .notify => s.notify
  | .bt created listens => s.btStep created listens
  | .pppStatus pcb up => s.pppStatus pcb up
  | .pppOutput data => s.pppOutput data
  | .tcpip => s.tcpipStep

def boot (linkMode : BtsecMode) : TxTasks :=
  { link := LinkState.boot linkMode
    phase := fun _ => .free
    output := .idle
    bt := .idle
    queued := false
    requested := fun _ => false }

end TxTasks

/-! ## A task left alone -/

section Alone

variable {s : TxTasks}

theorem rfcommCanSendNow_reply {maxFrameSize : UInt16} {sendStatus : UInt8}
    {reply : List UInt8} (link : LinkState) (some : link.activeCid ≠ 0)
    (prepared : link.prePppReply = .some reply) :
    rfcommCanSendNow maxFrameSize sendStatus link =
      sendReply reply sendStatus link := by
  unfold rfcommCanSendNow
  rw [if_neg some, prepared]

theorem rfcommCanSendNow_chunk {maxFrameSize : UInt16} {sendStatus : UInt8}
    (link : LinkState) (some : link.activeCid ≠ 0)
    (noReply : link.prePppReply = none) :
    rfcommCanSendNow maxFrameSize sendStatus link =
      if (sendChunk maxFrameSize sendStatus link).pppTxStream ≠ [] then
        (sendChunk maxFrameSize sendStatus link).call
          (.requestCanSendNow
            (sendChunk maxFrameSize sendStatus link).activeCid)
      else
        sendChunk maxFrameSize sendStatus link := by
  unfold rfcommCanSendNow
  rw [if_neg some, noReply]

theorem canSendNow_none {cid maxFrameSize : UInt16} {sendStatus : UInt8}
    (none : s.link.activeCid = 0) :
    s.canSendNow cid maxFrameSize sendStatus =
      { s with requested := Function.update s.requested cid false }.becomes
        s.quiet := by
  unfold TxTasks.canSendNow
  dsimp only
  rw [if_pos none]
  rfl

theorem canSendNow_reply {cid maxFrameSize : UInt16} {sendStatus : UInt8}
    {reply : List UInt8} (some : s.link.activeCid ≠ 0)
    (prepared : s.link.prePppReply = .some reply) :
    s.canSendNow cid maxFrameSize sendStatus =
      { s with requested := Function.update s.requested cid false }.becomes
        (sendReply reply sendStatus s.quiet) := by
  unfold TxTasks.canSendNow
  dsimp only
  rw [if_neg some, prepared]
  rfl

theorem canSendNow_chunk {cid maxFrameSize : UInt16} {sendStatus : UInt8}
    (some : s.link.activeCid ≠ 0) (noReply : s.link.prePppReply = none) :
    s.canSendNow cid maxFrameSize sendStatus =
      ({ s with requested := Function.update s.requested cid false }.becomes
        (sendChunk maxFrameSize sendStatus s.quiet)).withBt
          (.received s.link.activeCid) := by
  unfold TxTasks.canSendNow
  dsimp only
  rw [if_neg some, noReply]
  rfl

theorem pppOutputCb_parts (data : List UInt8) (link : LinkState)
    (active : link.sessionActive = true) :
    pppOutputCb data link =
      if (sendToStream data link).txNotifyPending then sendToStream data link
      else
        { sendToStream data link with txNotifyPending := true }.call
          .executeOnMainThread := by
  unfold pppOutputCb
  rw [if_neg (by rw [active]; decide)]
  rfl

/-- A channel opens, and PPP starts on it or does not. -/
theorem channelOpened_alone (cid handle : UInt16) (created listens : Bool) :
    (run TxTasks.step s
        [.opened cid handle, .bt created listens,
          .bt created listens]).world.quiet =
      (s.world.step (.opened cid 0 handle created listens)).quiet := by
  cases created with
  | true =>
      cases listens with
      | true => rfl
      | false => rfl
  | false => rfl

theorem notify_alone (created listens : Bool) :
    (run TxTasks.step s [.notify, .bt created listens]).world =
      s.world.step .txNotify := by
  rw [World.step_same (by exact txNotifyCb_same s.quiet) rfl]
  rfl

theorem status_alone (pcb : Nat) (up : Bool) :
    (s.step (.pppStatus pcb up)).world = s.world.step (.pppStatus pcb up) := by
  rw [World.step_same (by exact pppStatusCb_same pcb up s.quiet) rfl]
  rfl

theorem canSendNow_alone (cid maxFrameSize : UInt16) (sendStatus : UInt8)
    (created listens : Bool) (idle : s.bt = .idle) :
    (run TxTasks.step s
        [.canSendNow cid maxFrameSize sendStatus,
          .bt created listens]).world.quiet =
      (s.world.step (.canSendNow cid maxFrameSize sendStatus)).quiet := by
  rw [World.step_same
    (by exact rfcommCanSendNow_same maxFrameSize sendStatus s.quiet) rfl]
  simp only [run_cons, run_nil, TxTasks.step]
  show _ =
    World.quiet ⟨rfcommCanSendNow maxFrameSize sendStatus s.quiet, s.phase⟩
  by_cases none : s.link.activeCid = 0
  · rw [canSendNow_none none, rfcommCanSendNow, if_pos (by exact none),
      TxTasks.btStep]
    dsimp only [TxTasks.becomes]
    rw [idle]
    rfl
  · cases reply : s.link.prePppReply with
    | none =>
        rw [canSendNow_chunk none reply,
          rfcommCanSendNow_chunk s.quiet none reply]
        generalize sendChunk maxFrameSize sendStatus s.quiet = sent at *
        by_cases rest : sent.pppTxStream = []
        · simp [TxTasks.btStep, TxTasks.becomes, TxTasks.quiet, rest,
            World.quiet, TxTasks.world]
        · simp [TxTasks.btStep, TxTasks.becomes, TxTasks.quiet, rest,
            World.quiet, TxTasks.world, LinkState.call]
    | some reply =>
        rw [canSendNow_reply none reply,
          rfcommCanSendNow_reply s.quiet none reply, TxTasks.btStep]
        dsimp only [TxTasks.becomes]
        rw [idle]
        rfl

theorem output_alone (data : List UInt8) (idle : s.output = .idle) :
    (run TxTasks.step s
        [.pppOutput data, .tcpip, .tcpip, .tcpip]).world.quiet =
      (s.world.step (.pppOutput data)).quiet := by
  rw [World.step_same (by exact pppOutputCb_same data s.quiet) rfl]
  simp only [run_cons, run_nil, TxTasks.step]
  show _ = World.quiet ⟨pppOutputCb data s.quiet, s.phase⟩
  by_cases active : s.link.sessionActive = true
  · rw [pppOutputCb_parts data s.quiet active, TxTasks.pppOutput,
      if_pos active]
    by_cases pending : s.link.txNotifyPending = true
    · simp [TxTasks.tcpipStep, TxTasks.becomes, TxTasks.quiet, sendToStream,
        pending, World.quiet, TxTasks.world]
    · simp [TxTasks.tcpipStep, TxTasks.becomes, TxTasks.quiet, sendToStream,
        pending, World.quiet, TxTasks.world, LinkState.call]
  · rw [TxTasks.pppOutput, if_neg active, pppOutputCb,
      if_pos (by exact Bool.eq_false_iff.mpr active)]
    simp [TxTasks.tcpipStep, idle]
    rfl

end Alone

end VeteraBridge.Link

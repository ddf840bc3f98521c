import VeteraBridge.Lib.EventRun
import VeteraBridge.Proxy.Request

/-!
# The RFCOMM link and its session

The statics of `ppp_link.c` and the handlers that change them: the RFCOMM
events, the answers auto security waits for, the pre-PPP handshake, and PPP's
output and status callbacks.  A handler is one step; what it asks of BTstack,
lwIP and the gateway is listed in `calls`.
-/

namespace VeteraBridge.Link

open EventRun
open Proxy (ascii cstr strlcpy tolower)

def pppTxBufSize : Nat := 8192

def pppTxChunkMax : Nat := 1024

def btNameMax : Nat := 32

/-- `LEVEL_2` of `gap_security_level_t`. -/
def level2 : Nat := 2

/-- `btsec_mode_t`. -/
inductive BtsecMode where
  | btsecOff
  | btsecOn
  | btsecAuto
deriving DecidableEq, Repr

/-- `nvs_secure_load`: the stored byte, if the key is there. -/
def nvsSecureLoad : Option UInt8 → BtsecMode
  | none => .btsecAuto
  | some v =>
    if v = 0 then .btsecOff else if v = 1 then .btsecOn else .btsecAuto

/-- `bd_addr_t`. -/
abbrev BdAddr := Vector UInt8 6

inductive Call where
  | acceptConnection (cid : UInt16)
  | declineConnection (cid : UInt16)
  | disconnect (cid : UInt16)
  | requestCanSendNow (cid : UInt16)
  | rfcommSend (cid : UInt16) (data : List UInt8)
  | remoteNameRequest (addr : BdAddr)
  | requestSecurityLevel (handle : UInt16) (level : Nat)
  | executeOnMainThread
  | pppCreate (pcb : Nat)
  | pppListen (pcb : Nat)
  | pppClose (pcb : Nat)
  | pppInput (pcb : Nat) (data : List UInt8)
  | updateNat
  | gwOnPppUp
  | gwOnPppDown
  | gwOnRfcommOpened (handle : UInt16)
  | gwOnRfcommClosed
deriving DecidableEq, Repr

/-- The statics of `ppp_link.c`. -/
structure LinkState where
  linkMode : BtsecMode
  sessionActive : Bool
  /-- 0: none -/
  activeCid : UInt16
  pppUpFlag : Bool
  /-- the pcb, by its number -/
  ppp : Option Nat
  /-- the number of pcbs created -/
  pcbs : Nat
  pppFrameSeen : Bool
  prePppReply : Option (List UInt8)
  /-- the channel held, 0: none -/
  autoCid : UInt16
  autoHandle : UInt16
  autoAddr : BdAddr
  autoSecPending : Bool
  /-- `last_phone_name` and `last_phone_secured`, once `last_phone_valid` -/
  lastPhone : Option (List UInt8 × Bool)
  pppTxStream : List UInt8
  txNotifyPending : Bool
  txDropped : UInt32
  /-- the calls of the last step -/
  calls : List Call
deriving DecidableEq, Repr

namespace LinkState

def call (s : LinkState) (c : Call) : LinkState :=
  { s with calls := s.calls ++ [c] }

/-- No session, as the handlers' own partial resets leave it. -/
def noSession (s : LinkState) : LinkState :=
  { s with sessionActive := false, activeCid := 0 }

end LinkState

/-! ## Auto security -/

/-- `nosec_names`. -/
def nosecNames : List (List UInt8) :=
  ["N-Gage", "NGage", "3650", "3600", "3660", "3620", "7650", "9210", "9290",
    "9300", "9500"].map ascii

/-- `strncasecmp(hay, needle, strlen(needle)) == 0`. -/
def startsNocase : List UInt8 → List UInt8 → Bool
  | _, [] => true
  | [], _ :: _ => false
  | c :: hay, n :: needle => tolower c == tolower n && startsNocase hay needle

/-- `contains_nocase`. -/
def containsNocase : List UInt8 → List UInt8 → Bool
  | [], _ => false
  | c :: hay, needle =>
    startsNocase (c :: hay) needle || containsNocase hay needle

/-- `is_nosec_name`. -/
def isNosecName (name : List UInt8) : Bool :=
  nosecNames.any (containsNocase name)

/-- `auto_release`. -/
def autoRelease (s : LinkState) : LinkState :=
  { s with autoCid := 0, autoSecPending := false }

/-- `auto_fail`. -/
def autoFail (s : LinkState) : LinkState :=
  let cid := s.autoCid
  let s := (autoRelease s).call (.declineConnection cid)
  if s.activeCid = cid then s.noSession else s

/-- `secure` of `auto_decide`. -/
def securesName : Option (List UInt8) → Bool
  | none => true
  | some name => !isNosecName name

/-- `auto_decide`; `none` when the phone did not answer the name request. -/
def autoDecide (name : Option (List UInt8)) (s : LinkState) : LinkState :=
  let secure := securesName name
  let s :=
    { s with lastPhone := some (strlcpy (name.getD []) btNameMax, secure) }
  if secure then
    { s with autoSecPending := true }.call
      (.requestSecurityLevel s.autoHandle level2)
  else
    (autoRelease s).call (.acceptConnection s.autoCid)

/-- `auto_begin`; `requested` is whether `gap_remote_name_request` succeeds. -/
def autoBegin (cid handle : UInt16) (addr : BdAddr) (requested : Bool)
    (s : LinkState) : LinkState :=
  let s :=
    { s with
      autoCid := cid
      autoHandle := handle
      autoAddr := addr
      autoSecPending := false }.call (.remoteNameRequest addr)
  if requested then s else autoDecide none s

/-- The name as `auto_hci_handler` copies it out of the event. -/
def copiedName (remoteName : List UInt8) : List UInt8 :=
  (cstr remoteName).take (btNameMax - 1)

/-- `auto_hci_handler` on `HCI_EVENT_REMOTE_NAME_REQUEST_COMPLETE`. -/
def autoNameComplete (addr : BdAddr) (status : UInt8) (remoteName : List UInt8)
    (s : LinkState) : LinkState :=
  if s.autoCid = 0 then s
  else if s.autoSecPending then s
  else if addr ≠ s.autoAddr then s
  else if status ≠ 0 then autoDecide none s
  else autoDecide (some (copiedName remoteName)) s

/-- `auto_hci_handler` on `GAP_EVENT_SECURITY_LEVEL`. -/
def autoSecurityLevel (handle : UInt16) (status : UInt8) (level : Nat)
    (s : LinkState) : LinkState :=
  if s.autoCid = 0 then s
  else if s.autoSecPending = false then s
  else if handle ≠ s.autoHandle then s
  else if status ≠ 0 ∨ level < level2 then autoFail s
  else (autoRelease s).call (.acceptConnection s.autoCid)

/-! ## PPP -/

/-- `tx_notify_cb`. -/
def txNotifyCb (s : LinkState) : LinkState :=
  let s := { s with txNotifyPending := false }
  if s.activeCid ≠ 0 then s.call (.requestCanSendNow s.activeCid) else s

/-- `xStreamBufferSend`: what fits. -/
def streamSend (stream data : List UInt8) : List UInt8 :=
  stream ++ data.take (pppTxBufSize - stream.length)

/-- `ppp_output_cb`. -/
def pppOutputCb (data : List UInt8) (s : LinkState) : LinkState :=
  if s.sessionActive = false then s
  else
    let stream := streamSend s.pppTxStream data
    let sent := stream.length - s.pppTxStream.length
    let s :=
      { s with
        pppTxStream := stream
        txDropped := if sent < data.length then s.txDropped + 1 else s.txDropped }
    if s.txNotifyPending then s
    else { s with txNotifyPending := true }.call .executeOnMainThread

/-- `ppp_status_cb`, outside a close of `ppp_link.c`. -/
def pppStatusCb (pcb : Nat) (up : Bool) (s : LinkState) : LinkState :=
  if up then
    (({ s with pppUpFlag := true }.call .updateNat).call .gwOnPppUp)
  else
    let s := ({ s with pppUpFlag := false }.call .updateNat).call .gwOnPppDown
    if s.sessionActive then s.call (.pppListen pcb) else s

/-- `ppp_session_start`, and whether it succeeds. -/
def pppSessionStart (created listens : Bool) (s : LinkState) :
    Bool × LinkState :=
  if created then
    let pcb := s.pcbs
    let s :=
      (({ s with ppp := some pcb, pcbs := pcb + 1 }.call (.pppCreate pcb)).call
        (.pppListen pcb))
    if listens then (true, s)
    else (false, { s.call (.pppClose pcb) with ppp := none })
  else
    (false, { s with ppp := none })

/-- `ppp_session_stop`. -/
def pppSessionStop (s : LinkState) : LinkState :=
  let s := s.noSession
  let s :=
    match s.ppp with
    | some pcb => { s.call (.pppClose pcb) with ppp := none }
    | none => s
  { s with pppUpFlag := false }

/-! ## The RFCOMM handler -/

/-- `strstr`, as a test. -/
def strstr (hay needle : List UInt8) : Bool :=
  hay.tails.any needle.isPrefixOf

/-- The text `pre_ppp_handshake` searches: the first 40 bytes of a packet, with
dots for what does not print. -/
def handshakeText (packet : List UInt8) : List UInt8 :=
  (packet.take 40).map fun c => if c ≥ 0x20 ∧ c < 0x7F then c else 46

/-- The reply to a handshake text. -/
def handshakeReply (text : List UInt8) : Option (List UInt8) :=
  if strstr text (ascii "CLIENT") then some (ascii "CLIENTSERVER")
  else if strstr text (ascii "ATD") then some (ascii "\r\nCONNECT 115200\r\n")
  else if strstr text (ascii "AT") then some (ascii "\r\nOK\r\n")
  else none

/-- `pre_ppp_handshake`, and whether it consumes the packet. -/
def prePppHandshake (packet : List UInt8) (cid : UInt16) (s : LinkState) :
    Bool × LinkState :=
  if s.pppFrameSeen then (false, s)
  else if 0x7E ∈ packet then (false, { s with pppFrameSeen := true })
  else
    let reply := (handshakeReply (handshakeText packet)).or s.prePppReply
    let s := { s with prePppReply := reply }
    (true, if reply ≠ none then s.call (.requestCanSendNow cid) else s)

/-- `RFCOMM_DATA_PACKET`. -/
def rfcommData (channel : UInt16) (packet : List UInt8) (s : LinkState) :
    LinkState :=
  if s.sessionActive = true ∧ channel = s.activeCid then
    match s.ppp with
    | some pcb =>
      let handshake := prePppHandshake packet channel s
      if handshake.1 then handshake.2
      else handshake.2.call (.pppInput pcb packet)
    | none => s
  else
    s

/-- `RFCOMM_EVENT_INCOMING_CONNECTION`. -/
def rfcommIncoming (cid handle : UInt16) (addr : BdAddr) (requested : Bool)
    (s : LinkState) : LinkState :=
  if s.sessionActive then s.call (.declineConnection cid)
  else
    let s := { s with sessionActive := true, activeCid := cid }
    if s.linkMode = .btsecAuto then autoBegin cid handle addr requested s
    else s.call (.acceptConnection cid)

/-- `RFCOMM_EVENT_CHANNEL_OPENED` with an error. -/
def rfcommOpenFailed (cid : UInt16) (s : LinkState) : LinkState :=
  let s := if cid = s.autoCid then autoRelease s else s
  if s.activeCid = cid ∨ s.activeCid = 0 then s.noSession else s

/-- The transmit path and the handshake as a channel opens. -/
def freshChannel (s : LinkState) : LinkState :=
  { s with
    pppTxStream := []
    txNotifyPending := false
    txDropped := 0
    pppFrameSeen := false
    prePppReply := none }

/-- `RFCOMM_EVENT_CHANNEL_OPENED`. -/
def rfcommOpened (cid : UInt16) (status : UInt8) (handle : UInt16)
    (created listens : Bool) (s : LinkState) : LinkState :=
  if status ≠ 0 then rfcommOpenFailed cid s
  else
    let started := pppSessionStart created listens (freshChannel s)
    if started.1 then started.2.call (.gwOnRfcommOpened handle)
    else (started.2.call (.disconnect cid)).noSession

/-- The most that is sent at once. -/
def chunkSize (maxFrameSize : UInt16) : Nat :=
  if maxFrameSize = 0 ∨ maxFrameSize.toNat > pppTxChunkMax then pppTxChunkMax
  else maxFrameSize.toNat

/-- The reply of the handshake goes out, or will be tried again. -/
def sendReply (reply : List UInt8) (sendStatus : UInt8) (s : LinkState) :
    LinkState :=
  let s := s.call (.rfcommSend s.activeCid reply)
  if sendStatus = 0 then { s with prePppReply := none }
  else s.call (.requestCanSendNow s.activeCid)

/-- A chunk of the stream goes out. -/
def sendChunk (maxFrameSize : UInt16) (sendStatus : UInt8) (s : LinkState) :
    LinkState :=
  let chunk := s.pppTxStream.take (chunkSize maxFrameSize)
  let s := { s with pppTxStream := s.pppTxStream.drop (chunkSize maxFrameSize) }
  if chunk = [] then s
  else
    let s := s.call (.rfcommSend s.activeCid chunk)
    if sendStatus ≠ 0 then { s with txDropped := s.txDropped + 1 } else s

/-- `RFCOMM_EVENT_CAN_SEND_NOW`. -/
def rfcommCanSendNow (maxFrameSize : UInt16) (sendStatus : UInt8)
    (s : LinkState) : LinkState :=
  if s.activeCid = 0 then s
  else
    match s.prePppReply with
    | some reply => sendReply reply sendStatus s
    | none =>
      let s := sendChunk maxFrameSize sendStatus s
      if s.pppTxStream ≠ [] then s.call (.requestCanSendNow s.activeCid) else s

/-- `RFCOMM_EVENT_CHANNEL_CLOSED`. -/
def rfcommClosed (cid : UInt16) (s : LinkState) : LinkState :=
  if cid ≠ s.activeCid then s
  else if cid = s.autoCid then (autoRelease s).noSession
  else (pppSessionStop s).call .gwOnRfcommClosed

/-! ## Steps -/

/-- An event, with what the calls of its handler return. -/
inductive Event where
  | incoming (cid handle : UInt16) (addr : BdAddr) (requested : Bool)
  | opened (cid : UInt16) (status : UInt8) (handle : UInt16)
      (created listens : Bool)
  | canSendNow (cid maxFrameSize : UInt16) (sendStatus : UInt8)
  | closed (cid : UInt16)
  | data (channel : UInt16) (packet : List UInt8)
  | nameComplete (addr : BdAddr) (status : UInt8) (remoteName : List UInt8)
  | securityLevel (handle : UInt16) (status : UInt8) (level : Nat)
  | txNotify
  | pppOutput (data : List UInt8)
  | pppStatus (pcb : Nat) (up : Bool)
deriving DecidableEq, Repr

namespace LinkState

def handle (s : LinkState) : Event → LinkState
  | .incoming cid handle addr requested =>
    rfcommIncoming cid handle addr requested s
  | .opened cid status handle created listens =>
    rfcommOpened cid status handle created listens s
  | .canSendNow _ maxFrameSize sendStatus =>
    rfcommCanSendNow maxFrameSize sendStatus s
  | .closed cid => rfcommClosed cid s
  | .data channel packet => rfcommData channel packet s
  | .nameComplete addr status remoteName =>
    autoNameComplete addr status remoteName s
  | .securityLevel handle status level =>
    autoSecurityLevel handle status level s
  | .txNotify => txNotifyCb s
  | .pppOutput data => pppOutputCb data s
  | .pppStatus pcb up => pppStatusCb pcb up s

/-- A step lists its own calls. -/
def step (s : LinkState) (event : Event) : LinkState :=
  { s with calls := [] }.handle event

/-- The statics at boot. -/
def boot (linkMode : BtsecMode) : LinkState :=
  { linkMode := linkMode
    sessionActive := false
    activeCid := 0
    pppUpFlag := false
    ppp := none
    pcbs := 0
    pppFrameSeen := false
    prePppReply := none
    autoCid := 0
    autoHandle := 0
    autoAddr := Vector.replicate 6 0
    autoSecPending := false
    lastPhone := none
    pppTxStream := []
    txNotifyPending := false
    txDropped := 0
    calls := [] }

end LinkState

/-! ## What leaves the session alone -/

/-- A channel is accepted or declined. -/
def Call.decides : Call → Bool
  | .acceptConnection _ | .declineConnection _ => true
  | _ => false

/-- The decisions among the calls. -/
def LinkState.decisions (s : LinkState) : List Call :=
  s.calls.filter Call.decides

/-- The session and the hold stay as they are, and nothing is decided. -/
structure SameSession (s s' : LinkState) : Prop where
  linkMode : s'.linkMode = s.linkMode
  sessionActive : s'.sessionActive = s.sessionActive
  activeCid : s'.activeCid = s.activeCid
  ppp : s'.ppp = s.ppp
  pcbs : s'.pcbs = s.pcbs
  autoCid : s'.autoCid = s.autoCid
  autoHandle : s'.autoHandle = s.autoHandle
  autoAddr : s'.autoAddr = s.autoAddr
  autoSecPending : s'.autoSecPending = s.autoSecPending
  decisions : s'.decisions = s.decisions

section Same

variable {s middle s' : LinkState}

theorem SameSession.refl (s : LinkState) : SameSession s s :=
  ⟨rfl, rfl, rfl, rfl, rfl, rfl, rfl, rfl, rfl, rfl⟩

theorem SameSession.after (second : SameSession middle s')
    (first : SameSession s middle) : SameSession s s' :=
  ⟨second.linkMode.trans first.linkMode,
    second.sessionActive.trans first.sessionActive,
    second.activeCid.trans first.activeCid,
    second.ppp.trans first.ppp,
    second.pcbs.trans first.pcbs,
    second.autoCid.trans first.autoCid,
    second.autoHandle.trans first.autoHandle,
    second.autoAddr.trans first.autoAddr,
    second.autoSecPending.trans first.autoSecPending,
    second.decisions.trans first.decisions⟩

theorem decisions_call (s : LinkState) {c : Call} (plain : c.decides = false) :
    (s.call c).decisions = s.decisions := by
  simp [LinkState.decisions, LinkState.call, List.filter_append, plain]

theorem SameSession.call (s : LinkState) {c : Call} (plain : c.decides = false) :
    SameSession s (s.call c) :=
  ⟨rfl, rfl, rfl, rfl, rfl, rfl, rfl, rfl, rfl, decisions_call s plain⟩

theorem txNotifyCb_same (s : LinkState) : SameSession s (txNotifyCb s) := by
  unfold txNotifyCb
  dsimp only
  split
  · exact
      (SameSession.call _ rfl).after
        ⟨rfl, rfl, rfl, rfl, rfl, rfl, rfl, rfl, rfl, rfl⟩
  · exact ⟨rfl, rfl, rfl, rfl, rfl, rfl, rfl, rfl, rfl, rfl⟩

theorem pppOutputCb_same (data : List UInt8) (s : LinkState) :
    SameSession s (pppOutputCb data s) := by
  unfold pppOutputCb
  split
  · exact SameSession.refl s
  · dsimp only
    split
    · exact ⟨rfl, rfl, rfl, rfl, rfl, rfl, rfl, rfl, rfl, rfl⟩
    · exact
        (SameSession.call _ rfl).after
          ⟨rfl, rfl, rfl, rfl, rfl, rfl, rfl, rfl, rfl, rfl⟩

theorem pppStatusCb_same (pcb : Nat) (up : Bool) (s : LinkState) :
    SameSession s (pppStatusCb pcb up s) := by
  unfold pppStatusCb
  split
  · exact
      (SameSession.call _ rfl).after
        ((SameSession.call _ rfl).after
          ⟨rfl, rfl, rfl, rfl, rfl, rfl, rfl, rfl, rfl, rfl⟩)
  · have down :
        SameSession s
          (({ s with pppUpFlag := false }.call .updateNat).call .gwOnPppDown) :=
      (SameSession.call _ rfl).after
        ((SameSession.call _ rfl).after
          ⟨rfl, rfl, rfl, rfl, rfl, rfl, rfl, rfl, rfl, rfl⟩)
    dsimp only
    split
    · exact (SameSession.call _ rfl).after down
    · exact down

theorem prePppHandshake_same (packet : List UInt8) (cid : UInt16)
    (s : LinkState) : SameSession s (prePppHandshake packet cid s).2 := by
  unfold prePppHandshake
  split
  · exact SameSession.refl s
  · split
    · exact ⟨rfl, rfl, rfl, rfl, rfl, rfl, rfl, rfl, rfl, rfl⟩
    · dsimp only
      split
      · exact
          (SameSession.call _ rfl).after
            ⟨rfl, rfl, rfl, rfl, rfl, rfl, rfl, rfl, rfl, rfl⟩
      · exact ⟨rfl, rfl, rfl, rfl, rfl, rfl, rfl, rfl, rfl, rfl⟩

/-- A packet is passed over, or goes through the handshake and then, if that
does not take it, to PPP. -/
theorem rfcommData_cases (channel : UInt16) (packet : List UInt8)
    (s : LinkState) :
    rfcommData channel packet s = s ∨
      rfcommData channel packet s = (prePppHandshake packet channel s).2 ∨
      ∃ pcb, rfcommData channel packet s =
        (prePppHandshake packet channel s).2.call (.pppInput pcb packet) := by
  unfold rfcommData
  split
  · split
    · next pcb _ =>
      dsimp only
      split
      · exact Or.inr (Or.inl rfl)
      · exact Or.inr (Or.inr ⟨pcb, rfl⟩)
    · exact Or.inl rfl
  · exact Or.inl rfl

theorem rfcommData_same (channel : UInt16) (packet : List UInt8)
    (s : LinkState) : SameSession s (rfcommData channel packet s) := by
  have handshake := prePppHandshake_same packet channel s
  obtain same | taken | ⟨pcb, passedOn⟩ := rfcommData_cases channel packet s
  · rw [same]
    exact SameSession.refl s
  · rw [taken]
    exact handshake
  · rw [passedOn]
    exact (SameSession.call _ rfl).after handshake

theorem SameSession.reply (same : SameSession s s')
    (reply : Option (List UInt8)) :
    SameSession s { s' with prePppReply := reply } :=
  ⟨same.linkMode, same.sessionActive, same.activeCid, same.ppp, same.pcbs,
    same.autoCid, same.autoHandle, same.autoAddr, same.autoSecPending,
    same.decisions⟩

theorem SameSession.dropped (same : SameSession s s') (txDropped : UInt32) :
    SameSession s { s' with txDropped := txDropped } :=
  ⟨same.linkMode, same.sessionActive, same.activeCid, same.ppp, same.pcbs,
    same.autoCid, same.autoHandle, same.autoAddr, same.autoSecPending,
    same.decisions⟩

theorem sendReply_same (reply : List UInt8) (sendStatus : UInt8)
    (s : LinkState) : SameSession s (sendReply reply sendStatus s) := by
  have sent : SameSession s (s.call (.rfcommSend s.activeCid reply)) :=
    SameSession.call s rfl
  unfold sendReply
  dsimp only
  split
  · exact sent.reply none
  · exact (SameSession.call _ rfl).after sent

theorem sendChunk_same (maxFrameSize : UInt16) (sendStatus : UInt8)
    (s : LinkState) : SameSession s (sendChunk maxFrameSize sendStatus s) := by
  unfold sendChunk
  dsimp only
  split
  · exact ⟨rfl, rfl, rfl, rfl, rfl, rfl, rfl, rfl, rfl, rfl⟩
  · have sent (data : List UInt8) (stream : List UInt8) :
        SameSession s
          ({ s with pppTxStream := stream }.call
            (.rfcommSend s.activeCid data)) :=
      (SameSession.call _ rfl).after
        ⟨rfl, rfl, rfl, rfl, rfl, rfl, rfl, rfl, rfl, rfl⟩
    split
    · exact (sent _ _).dropped _
    · exact sent _ _

theorem rfcommCanSendNow_same (maxFrameSize : UInt16) (sendStatus : UInt8)
    (s : LinkState) :
    SameSession s (rfcommCanSendNow maxFrameSize sendStatus s) := by
  have chunk := sendChunk_same maxFrameSize sendStatus s
  unfold rfcommCanSendNow
  split
  · exact SameSession.refl s
  · split
    · exact sendReply_same _ sendStatus s
    · dsimp only
      split
      · exact (SameSession.call _ rfl).after chunk
      · exact chunk

end Same

/-! ## What leaves PPP alone -/

/-- PPP, its handshake and its transmit path stay as they are. -/
structure KeepsPpp (s s' : LinkState) : Prop where
  pppUpFlag : s'.pppUpFlag = s.pppUpFlag
  ppp : s'.ppp = s.ppp
  pcbs : s'.pcbs = s.pcbs
  pppFrameSeen : s'.pppFrameSeen = s.pppFrameSeen
  prePppReply : s'.prePppReply = s.prePppReply
  pppTxStream : s'.pppTxStream = s.pppTxStream
  txNotifyPending : s'.txNotifyPending = s.txNotifyPending
  txDropped : s'.txDropped = s.txDropped

section Keeps

theorem autoDecide_keepsPpp (name : Option (List UInt8)) (s : LinkState) :
    KeepsPpp s (autoDecide name s) := by
  unfold autoDecide
  dsimp only
  split
  · exact ⟨rfl, rfl, rfl, rfl, rfl, rfl, rfl, rfl⟩
  · exact ⟨rfl, rfl, rfl, rfl, rfl, rfl, rfl, rfl⟩

theorem autoBegin_keepsPpp (cid handle : UInt16) (addr : BdAddr)
    (requested : Bool) (s : LinkState) :
    KeepsPpp s (autoBegin cid handle addr requested s) := by
  unfold autoBegin
  dsimp only
  split
  · exact ⟨rfl, rfl, rfl, rfl, rfl, rfl, rfl, rfl⟩
  · obtain ⟨up, ppp, pcbs, seen, reply, stream, pending, dropped⟩ :=
      autoDecide_keepsPpp none
        ({ s with
          autoCid := cid
          autoHandle := handle
          autoAddr := addr
          autoSecPending := false }.call (.remoteNameRequest addr))
    exact ⟨up, ppp, pcbs, seen, reply, stream, pending, dropped⟩

theorem rfcommIncoming_keepsPpp (cid handle : UInt16) (addr : BdAddr)
    (requested : Bool) (s : LinkState) :
    KeepsPpp s (rfcommIncoming cid handle addr requested s) := by
  unfold rfcommIncoming
  split
  · exact ⟨rfl, rfl, rfl, rfl, rfl, rfl, rfl, rfl⟩
  · dsimp only
    split
    · obtain ⟨up, ppp, pcbs, seen, reply, stream, pending, dropped⟩ :=
        autoBegin_keepsPpp cid handle addr requested
          { s with sessionActive := true, activeCid := cid }
      exact ⟨up, ppp, pcbs, seen, reply, stream, pending, dropped⟩
    · exact ⟨rfl, rfl, rfl, rfl, rfl, rfl, rfl, rfl⟩

theorem rfcommOpenFailed_keepsPpp (cid : UInt16) (s : LinkState) :
    KeepsPpp s (rfcommOpenFailed cid s) := by
  unfold rfcommOpenFailed
  dsimp only
  split
  · split
    · exact ⟨rfl, rfl, rfl, rfl, rfl, rfl, rfl, rfl⟩
    · exact ⟨rfl, rfl, rfl, rfl, rfl, rfl, rfl, rfl⟩
  · split
    · exact ⟨rfl, rfl, rfl, rfl, rfl, rfl, rfl, rfl⟩
    · exact ⟨rfl, rfl, rfl, rfl, rfl, rfl, rfl, rfl⟩

theorem autoFail_keepsPpp (s : LinkState) : KeepsPpp s (autoFail s) := by
  unfold autoFail
  dsimp only
  split
  · exact ⟨rfl, rfl, rfl, rfl, rfl, rfl, rfl, rfl⟩
  · exact ⟨rfl, rfl, rfl, rfl, rfl, rfl, rfl, rfl⟩

theorem autoNameComplete_keepsPpp (addr : BdAddr) (status : UInt8)
    (remoteName : List UInt8) (s : LinkState) :
    KeepsPpp s (autoNameComplete addr status remoteName s) := by
  have same : KeepsPpp s s := ⟨rfl, rfl, rfl, rfl, rfl, rfl, rfl, rfl⟩
  unfold autoNameComplete
  split_ifs
  · exact same
  · exact same
  · exact same
  · exact autoDecide_keepsPpp none s
  · exact autoDecide_keepsPpp _ s

theorem autoSecurityLevel_keepsPpp (handle : UInt16) (status : UInt8)
    (level : Nat) (s : LinkState) :
    KeepsPpp s (autoSecurityLevel handle status level s) := by
  have same : KeepsPpp s s := ⟨rfl, rfl, rfl, rfl, rfl, rfl, rfl, rfl⟩
  unfold autoSecurityLevel
  split_ifs
  · exact same
  · exact same
  · exact same
  · exact autoFail_keepsPpp s
  · exact ⟨rfl, rfl, rfl, rfl, rfl, rfl, rfl, rfl⟩

end Keeps

end VeteraBridge.Link

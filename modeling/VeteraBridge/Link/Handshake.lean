import VeteraBridge.Link.Transmit

/-!
# The handshake and PPP on one channel

Before its first PPP frame a phone runs its dial-up script, which the bridge
answers; the first HDLC flag hands the channel off to PPP.  Both are remembered
in statics that only the opening of a channel resets: a reply that waits for
credits outlives the flag, and the flag outlives PPP.
-/

namespace VeteraBridge.Link

open EventRun

/-- What happens while the channel `cid` stays open. -/
def OnChannel (cid : UInt16) (w : World) (event : Event) : Prop :=
  Sends w event ∧ event ≠ .closed cid

/-- Whatever the step sends, it takes off the front of PPP's stream. -/
def SendsStream (s : LinkState) (event : Event) : Prop :=
  ∀ cid data, .rfcommSend cid data ∈ (s.step event).calls →
    s.pppTxStream = data ++ (s.step event).pppTxStream

/-- The handshake as a channel opens. -/
def freshHandshake (s : LinkState) : LinkState :=
  { s with
    pppFrameSeen := false
    prePppReply := none }

/-- The calls of each step. -/
def callsAlong (s : LinkState) : List Event → List (List Call)
  | [] => []
  | event :: rest => (s.step event).calls :: callsAlong (s.step event) rest

/-- A packet is not fed to PPP, and its reply is what the channel sends next. -/
structure Answers (s : LinkState) (cid : UInt16) (packet reply : List UInt8) :
    Prop where
  notFed : ∀ pcb data, .pppInput pcb data ∉ (s.step (.data cid packet)).calls
  asks : .requestCanSendNow cid ∈ (s.step (.data cid packet)).calls
  replies : ∀ other maxFrameSize sendStatus,
    .rfcommSend cid reply ∈
      ((s.step (.data cid packet)).step
        (.canSendNow other maxFrameSize sendStatus)).calls

/-- The bytes of the phone are treated as on a channel that has just opened: the
text of a dial-up script is answered up to the next flag. -/
structure DialsAfresh (w : World) : Prop where
  asFresh : ∀ events,
    callsAlong w.link events = callsAlong (freshHandshake w.link) events
  answered : ∀ events,
    Along World.step
      (fun w' event =>
        OnChannel w.link.activeCid w' event ∧
          ∀ packet, event = .data w.link.activeCid packet → 0x7E ∉ packet)
      w events →
    ∀ packet reply, 0x7E ∉ packet →
      handshakeReply (handshakeText packet) = some reply →
        Answers (run World.step w events).link w.link.activeCid packet reply

/-! ## The open channel -/

section Open

variable {w : World} {event : Event}

/-- PPP stays on its channel until that closes. -/
theorem ChannelInvariant.stays (invariant : ChannelInvariant w)
    (ppp : w.link.ppp ≠ none) (stays : OnChannel w.link.activeCid w event) :
    (w.step event).link.activeCid = w.link.activeCid ∧
      (w.step event).link.ppp = w.link.ppp := by
  have agree : Agree _ _ _ _ _ := invariant
  obtain ⟨real, isOpen⟩ := agree.ppp ppp
  obtain ⟨sends, notClosed⟩ := stays
  have busy := agree.active.mpr real
  have stepped := step_session w.link event
  show (w.link.step event).activeCid = _ ∧ (w.link.step event).ppp = _
  cases stepped with
  | keeps unnoted becomes => exact ⟨becomes.cid, becomes.ppp⟩
  | declines busy becomes => exact ⟨becomes.cid, becomes.ppp⟩
  | holds free becomes => cases free.symm.trans busy
  | accepts free becomes => cases free.symm.trans busy
  | grants unnoted held becomes => exact absurd (agree.noPppHeld held) ppp
  | refuses unnoted held becomes => exact absurd (agree.noPppHeld held) ppp
  | @openFails cid status handle created listens failed ours foreign idle =>
      obtain ⟨known, notOpened⟩ := Sends.notOpened failed sends
      have apart : cid ≠ w.link.activeCid := by
        rintro rfl
        exact notOpened isOpen
      have notHeld := agree.ne_held (agree.real known) apart
      exact ⟨(foreign apart notHeld real).cid, (foreign apart notHeld real).ppp⟩
  | opens pcb becomes =>
      obtain ⟨rfl, _⟩ := agree.opens sends
      exact absurd (isOpen.symm.trans sends) Phase.noConfusion
  | startFails becomes =>
      obtain ⟨rfl, _⟩ := agree.opens sends
      exact absurd (isOpen.symm.trans sends) Phase.noConfusion
  | @closes cid foreign held ours =>
      have apart : cid ≠ w.link.activeCid := by
        rintro rfl
        exact notClosed rfl
      exact ⟨(foreign apart).cid, (foreign apart).ppp⟩

/-- A channel does not open again while it is open. -/
theorem ChannelInvariant.noOpening (invariant : ChannelInvariant w)
    (ppp : w.link.ppp ≠ none) {cid handle : UInt16} {created listens : Bool} :
    ¬ Sends w (.opened cid 0 handle created listens) := by
  intro accepted
  have agree : Agree _ _ _ _ _ := invariant
  obtain ⟨rfl, _⟩ := agree.opens accepted
  exact absurd ((agree.ppp ppp).2.symm.trans accepted) Phase.noConfusion

/-- Everything a step on an open channel can do to the handshake. -/
inductive HandshakeStep (s s' : LinkState) : Event → Prop where
  | keeps {event : Event} (seen : s'.pppFrameSeen = s.pppFrameSeen)
      (reply : s'.prePppReply = s.prePppReply) : HandshakeStep s s' event
  | flag {packet : List UInt8} (flag : 0x7E ∈ packet)
      (seen : s'.pppFrameSeen = true)
      (reply : s'.prePppReply = s.prePppReply) :
      HandshakeStep s s' (.data s.activeCid packet)
  | text {packet : List UInt8} (unseen : s.pppFrameSeen = false)
      (seen : s'.pppFrameSeen = false) :
      HandshakeStep s s' (.data s.activeCid packet)
  | replies {cid maxFrameSize : UInt16} {sendStatus : UInt8}
      (seen : s'.pppFrameSeen = s.pppFrameSeen) (reply : s'.prePppReply = none) :
      HandshakeStep s s' (.canSendNow cid maxFrameSize sendStatus)

theorem KeepsPpp.handshake {s s' : LinkState}
    (keeps : KeepsPpp s s') : HandshakeStep s s' event :=
  HandshakeStep.keeps keeps.pppFrameSeen keeps.prePppReply

theorem HandshakeStep.of_quiet {s s' : LinkState}
    (stepped : HandshakeStep { s with calls := [] } s' event) :
    HandshakeStep s s' event := by
  cases stepped with
  | keeps seen reply => exact HandshakeStep.keeps seen reply
  | flag flag seen reply => exact HandshakeStep.flag flag seen reply
  | text unseen seen => exact HandshakeStep.text unseen seen
  | replies seen reply => exact HandshakeStep.replies seen reply

/-- After a flag, PPP is fed. -/
theorem rfcommData_seen {s : LinkState} {pcb : Nat} (packet : List UInt8)
    (active : s.sessionActive = true) (ppp : s.ppp = some pcb)
    (seen : s.pppFrameSeen = true) :
    rfcommData s.activeCid packet s = s.call (.pppInput pcb packet) := by
  unfold rfcommData prePppHandshake
  rw [if_pos ⟨active, rfl⟩, ppp]
  simp only [seen, if_true, Bool.false_eq_true, if_false]

/-- The first flag. -/
theorem rfcommData_flag {s : LinkState} {pcb : Nat} {packet : List UInt8}
    (active : s.sessionActive = true) (ppp : s.ppp = some pcb)
    (unseen : s.pppFrameSeen = false) (flag : 0x7E ∈ packet) :
    rfcommData s.activeCid packet s =
      { s with pppFrameSeen := true }.call (.pppInput pcb packet) := by
  unfold rfcommData prePppHandshake
  rw [if_pos ⟨active, rfl⟩, ppp]
  simp only [unseen, flag, if_true, Bool.false_eq_true, if_false]

/-- Before the first flag, text is prepared an answer. -/
theorem rfcommData_text {s : LinkState} {pcb : Nat} {packet : List UInt8}
    (active : s.sessionActive = true) (ppp : s.ppp = some pcb)
    (unseen : s.pppFrameSeen = false) (noFlag : 0x7E ∉ packet) :
    rfcommData s.activeCid packet s =
      if (handshakeReply (handshakeText packet)).or s.prePppReply ≠ none then
        { s with
          prePppReply :=
            (handshakeReply (handshakeText packet)).or s.prePppReply }.call
          (.requestCanSendNow s.activeCid)
      else
        { s with
          prePppReply :=
            (handshakeReply (handshakeText packet)).or s.prePppReply } := by
  unfold rfcommData prePppHandshake
  rw [if_pos ⟨active, rfl⟩, ppp]
  simp only [unseen, noFlag, if_true, Bool.false_eq_true, if_false]

theorem rfcommData_handshake (s : LinkState) (channel : UInt16)
    (packet : List UInt8) :
    HandshakeStep s (rfcommData channel packet s) (.data channel packet) := by
  by_cases ours : s.sessionActive = true ∧ channel = s.activeCid
  · obtain ⟨active, rfl⟩ := ours
    cases ppp : s.ppp with
    | none =>
        unfold rfcommData
        rw [if_pos ⟨active, rfl⟩, ppp]
        exact HandshakeStep.keeps rfl rfl
    | some pcb =>
        cases seen : s.pppFrameSeen with
        | true =>
            rw [rfcommData_seen packet active ppp seen]
            exact HandshakeStep.keeps rfl rfl
        | false =>
            by_cases flag : 0x7E ∈ packet
            · rw [rfcommData_flag active ppp seen flag]
              exact HandshakeStep.flag flag rfl rfl
            · rw [rfcommData_text active ppp seen flag]
              split
              · exact HandshakeStep.text seen seen
              · exact HandshakeStep.text seen seen
  · unfold rfcommData
    rw [if_neg ours]
    exact HandshakeStep.keeps rfl rfl

theorem sendChunk_handshake (maxFrameSize : UInt16) (sendStatus : UInt8)
    (s : LinkState) :
    (sendChunk maxFrameSize sendStatus s).pppFrameSeen = s.pppFrameSeen ∧
      (sendChunk maxFrameSize sendStatus s).prePppReply = s.prePppReply := by
  unfold sendChunk
  dsimp only
  split_ifs
  · exact ⟨rfl, rfl⟩
  · exact ⟨rfl, rfl⟩
  · exact ⟨rfl, rfl⟩

theorem txNotifyCb_handshake (s : LinkState) :
    (txNotifyCb s).pppFrameSeen = s.pppFrameSeen ∧
      (txNotifyCb s).prePppReply = s.prePppReply := by
  unfold txNotifyCb
  dsimp only
  split
  · exact ⟨rfl, rfl⟩
  · exact ⟨rfl, rfl⟩

theorem pppOutputCb_handshake (data : List UInt8) (s : LinkState) :
    (pppOutputCb data s).pppFrameSeen = s.pppFrameSeen ∧
      (pppOutputCb data s).prePppReply = s.prePppReply := by
  unfold pppOutputCb
  split
  · exact ⟨rfl, rfl⟩
  · dsimp only
    split
    · exact ⟨rfl, rfl⟩
    · exact ⟨rfl, rfl⟩

theorem pppStatusCb_handshake (pcb : Nat) (up : Bool) (s : LinkState) :
    (pppStatusCb pcb up s).pppFrameSeen = s.pppFrameSeen ∧
      (pppStatusCb pcb up s).prePppReply = s.prePppReply := by
  unfold pppStatusCb
  dsimp only
  split_ifs
  · exact ⟨rfl, rfl⟩
  · exact ⟨rfl, rfl⟩
  · exact ⟨rfl, rfl⟩

theorem rfcommCanSendNow_handshake (s : LinkState) (cid maxFrameSize : UInt16)
    (sendStatus : UInt8) :
    HandshakeStep s (rfcommCanSendNow maxFrameSize sendStatus s)
      (.canSendNow cid maxFrameSize sendStatus) := by
  have chunk := sendChunk_handshake maxFrameSize sendStatus s
  unfold rfcommCanSendNow
  split
  · exact HandshakeStep.keeps rfl rfl
  · split
    · unfold sendReply
      dsimp only
      split
      · exact HandshakeStep.replies rfl rfl
      · exact HandshakeStep.keeps rfl rfl
    · dsimp only
      split
      · exact HandshakeStep.keeps chunk.1 chunk.2
      · exact HandshakeStep.keeps chunk.1 chunk.2

theorem rfcommClosed_handshake (s : LinkState) (cid : UInt16) :
    HandshakeStep s (rfcommClosed cid s) (.closed cid) := by
  unfold rfcommClosed
  split_ifs
  · exact HandshakeStep.keeps rfl rfl
  · exact HandshakeStep.keeps rfl rfl
  · unfold pppSessionStop
    dsimp only
    split
    · exact HandshakeStep.keeps rfl rfl
    · exact HandshakeStep.keeps rfl rfl

theorem ChannelInvariant.handshake (invariant : ChannelInvariant w)
    (ppp : w.link.ppp ≠ none) (sends : Sends w event) :
    HandshakeStep w.link (w.step event).link event := by
  apply HandshakeStep.of_quiet
  show HandshakeStep _ ({ w.link with calls := [] }.handle event) event
  generalize quiet : { w.link with calls := [] } = s
  cases event with
  | incoming cid handle addr requested =>
      exact (rfcommIncoming_keepsPpp cid handle addr requested s).handshake
  | opened cid status handle created listens =>
      by_cases fine : status = 0
      · subst fine
        exact absurd sends (invariant.noOpening ppp)
      · have failed :
            s.handle (.opened cid status handle created listens) =
              rfcommOpenFailed cid s :=
          if_pos fine
        rw [failed]
        exact (rfcommOpenFailed_keepsPpp cid s).handshake
  | canSendNow cid maxFrameSize sendStatus =>
      exact rfcommCanSendNow_handshake s cid maxFrameSize sendStatus
  | closed cid => exact rfcommClosed_handshake s cid
  | data channel packet => exact rfcommData_handshake s channel packet
  | nameComplete addr status remoteName =>
      exact (autoNameComplete_keepsPpp addr status remoteName s).handshake
  | securityLevel handle status level =>
      exact (autoSecurityLevel_keepsPpp handle status level s).handshake
  | txNotify =>
      have kept := txNotifyCb_handshake s
      exact HandshakeStep.keeps kept.1 kept.2
  | pppOutput data =>
      have kept := pppOutputCb_handshake data s
      exact HandshakeStep.keeps kept.1 kept.2
  | pppStatus pcb up =>
      have kept := pppStatusCb_handshake pcb up s
      exact HandshakeStep.keeps kept.1 kept.2

end Open

/-! ## What is sent -/

section Sent

variable {s : LinkState}

/-- Only a channel that can send sends. -/
theorem silent_of_ne {event : Event}
    (other : ∀ cid maxFrameSize sendStatus,
      event ≠ .canSendNow cid maxFrameSize sendStatus)
    (cid : UInt16) (data : List UInt8) :
    .rfcommSend cid data ∉ (s.step event).calls := by
  cases event with
  | incoming incoming handle addr requested =>
      simp only [LinkState.step, LinkState.handle, rfcommIncoming, autoBegin,
        autoDecide]
      split_ifs <;> simp [LinkState.call, autoRelease]
  | opened opened status handle created listens =>
      simp only [LinkState.step, LinkState.handle, rfcommOpened,
        rfcommOpenFailed, pppSessionStart]
      split_ifs <;>
        simp [LinkState.call, autoRelease, LinkState.noSession, freshChannel]
  | canSendNow cid maxFrameSize sendStatus => exact absurd rfl (other _ _ _)
  | closed closed =>
      simp only [LinkState.step, LinkState.handle, rfcommClosed, pppSessionStop]
      split
      · exact List.not_mem_nil
      · split
        · exact List.not_mem_nil
        · split <;> simp [LinkState.call, LinkState.noSession]
  | data channel packet =>
      simp only [LinkState.step, LinkState.handle, rfcommData, prePppHandshake]
      split
      · split
        · split_ifs <;> simp [LinkState.call]
        · exact List.not_mem_nil
      · exact List.not_mem_nil
  | nameComplete addr status remoteName =>
      simp only [LinkState.step, LinkState.handle, autoNameComplete, autoDecide]
      split_ifs <;> simp [LinkState.call, autoRelease]
  | securityLevel handle status level =>
      simp only [LinkState.step, LinkState.handle, autoSecurityLevel, autoFail]
      split_ifs <;> simp [LinkState.call, autoRelease, LinkState.noSession]
  | txNotify =>
      simp only [LinkState.step, LinkState.handle, txNotifyCb]
      split_ifs <;> simp [LinkState.call]
  | pppOutput output =>
      simp only [LinkState.step, LinkState.handle, pppOutputCb]
      split_ifs <;> simp [LinkState.call]
  | pppStatus pcb up =>
      simp only [LinkState.step, LinkState.handle, pppStatusCb]
      split_ifs <;> simp [LinkState.call]

/-- A chunk is the front of the stream. -/
theorem sendChunk_takes (quiet : s.calls = []) {maxFrameSize : UInt16}
    {sendStatus : UInt8} {cid : UInt16} {data : List UInt8}
    (sent :
      .rfcommSend cid data ∈ (sendChunk maxFrameSize sendStatus s).calls) :
    s.pppTxStream =
      data ++ (sendChunk maxFrameSize sendStatus s).pppTxStream := by
  have whole :=
    List.take_append_drop (chunkSize maxFrameSize) s.pppTxStream
  unfold sendChunk at sent ⊢
  dsimp only at sent ⊢
  split at sent
  · rw [quiet] at sent
    cases sent
  · next some =>
    rw [if_neg some]
    have taken : data = s.pppTxStream.take (chunkSize maxFrameSize) := by
      split at sent
      · simp only [LinkState.call, quiet, List.nil_append, List.mem_singleton,
          Call.rfcommSend.injEq] at sent
        exact sent.2
      · simp only [LinkState.call, quiet, List.nil_append, List.mem_singleton,
          Call.rfcommSend.injEq] at sent
        exact sent.2
    rw [taken]
    split
    · exact whole.symm
    · exact whole.symm

theorem rfcommCanSendNow_takes (quiet : s.calls = [])
    (noReply : s.prePppReply = none) {maxFrameSize : UInt16}
    {sendStatus : UInt8} {cid : UInt16} {data : List UInt8}
    (sent :
      .rfcommSend cid data ∈
        (rfcommCanSendNow maxFrameSize sendStatus s).calls) :
    s.pppTxStream =
      data ++ (rfcommCanSendNow maxFrameSize sendStatus s).pppTxStream := by
  by_cases real : s.activeCid = 0
  · rw [rfcommCanSendNow, if_pos real, quiet] at sent
    cases sent
  · rw [rfcommCanSendNow_chunk s real noReply] at sent ⊢
    split at sent
    · next rest =>
      rw [if_pos rest]
      apply sendChunk_takes quiet
      rcases List.mem_append.mp sent with before | now
      · exact before
      · cases List.mem_singleton.mp now
    · next empty =>
      rw [if_neg empty]
      exact sendChunk_takes quiet sent

/-- Without a reply, a channel sends from the stream. -/
theorem sendsStream_of_none (noReply : s.prePppReply = none) (event : Event) :
    SendsStream s event := by
  intro cid data sent
  by_cases sends : ∃ other maxFrameSize sendStatus,
      event = .canSendNow other maxFrameSize sendStatus
  · obtain ⟨other, maxFrameSize, sendStatus, rfl⟩ := sends
    exact
      rfcommCanSendNow_takes (s := { s with calls := [] }) rfl noReply sent
  · push Not at sends
    exact absurd sent (silent_of_ne sends cid data)

/-- A reply is sent, and is not from the stream. -/
theorem reply_not_stream {reply : List UInt8}
    (prepared : s.prePppReply = some reply) (some : reply ≠ [])
    (real : s.activeCid ≠ 0) :
    ¬ SendsStream s (.canSendNow s.activeCid 0 0) := by
  intro takes
  have stepped :
      s.step (.canSendNow s.activeCid 0 0) =
        sendReply reply 0 { s with calls := [] } :=
    rfcommCanSendNow_reply { s with calls := [] } real prepared
  have stream :=
    takes s.activeCid reply (by rw [stepped]; exact List.mem_cons_self)
  rw [stepped] at stream
  have lengths := congrArg List.length stream
  rw [List.length_append] at lengths
  have positive := List.length_pos_iff.mpr some
  have same : (sendReply reply 0 { s with calls := [] }).pppTxStream =
      s.pppTxStream := rfl
  rw [same] at lengths
  omega

end Sent

/-! ## Runs -/

section Runs

variable {w : World}

/-- After the flag and without a reply, the channel belongs to PPP. -/
structure HandedOff (cid : UInt16) (w : World) : Prop where
  channels : ChannelInvariant w
  active : w.link.activeCid = cid
  ppp : w.link.ppp ≠ none
  seen : w.link.pppFrameSeen = true
  noReply : w.link.prePppReply = none

theorem HandedOff.step {cid : UInt16} (handedOff : HandedOff cid w)
    {event : Event} (stays : OnChannel cid w event) :
    HandedOff cid (w.step event) := by
  obtain ⟨channels, rfl, ppp, seen, noReply⟩ := handedOff
  obtain ⟨sameCid, samePpp⟩ := channels.stays ppp stays
  have handshake := channels.handshake ppp stays.1
  refine ⟨channels.step stays.1, sameCid, ?_, ?_, ?_⟩
  · rw [samePpp]
    exact ppp
  · cases handshake with
    | keeps seenAfter reply => exact seenAfter.trans seen
    | flag flag seenAfter reply => exact seenAfter
    | text unseen seenAfter => cases unseen.symm.trans seen
    | replies seenAfter reply => exact seenAfter.trans seen
  · cases handshake with
    | keeps seenAfter reply => exact reply.trans noReply
    | flag flag seenAfter reply => exact reply.trans noReply
    | text unseen seenAfter => cases unseen.symm.trans seen
    | replies seenAfter reply => exact reply

/-- The flag is fed to PPP, and leaves the reply as it is. -/
theorem rfcommData_handsOff {s : LinkState} {pcb : Nat} {packet : List UInt8}
    (active : s.sessionActive = true) (ppp : s.ppp = some pcb)
    (flag : 0x7E ∈ packet) :
    (rfcommData s.activeCid packet s).pppFrameSeen = true ∧
      (rfcommData s.activeCid packet s).prePppReply = s.prePppReply := by
  cases seen : s.pppFrameSeen with
  | true =>
      rw [rfcommData_seen packet active ppp seen]
      exact ⟨seen, rfl⟩
  | false =>
      rw [rfcommData_flag active ppp seen flag]
      exact ⟨rfl, rfl⟩

theorem handshakeReply_ne_nil {text reply : List UInt8}
    (isReply : handshakeReply text = some reply) : reply ≠ [] := by
  unfold handshakeReply at isReply
  split_ifs at isReply
  · rw [← Option.some.inj isReply]
    decide
  · rw [← Option.some.inj isReply]
    decide
  · rw [← Option.some.inj isReply]
    decide

/-- A reply that is prepared is a text. -/
def Prepared (s : LinkState) : Prop :=
  ∀ reply, s.prePppReply = some reply → reply ≠ []

theorem Prepared.of_eq {s s' : LinkState} (prepared : Prepared s)
    (same : s'.prePppReply = s.prePppReply) : Prepared s' := by
  intro reply isReply
  exact prepared reply (same.symm.trans isReply)

theorem prePppHandshake_prepared {s : LinkState} (prepared : Prepared s)
    (packet : List UInt8) (cid : UInt16) :
    Prepared (prePppHandshake packet cid s).2 := by
  have texts :
      ∀ reply,
        (handshakeReply (handshakeText packet)).or s.prePppReply = some reply →
          reply ≠ [] := by
    intro reply isReply
    rcases Option.or_eq_some_iff.mp isReply with now | ⟨_, before⟩
    · exact handshakeReply_ne_nil now
    · exact prepared reply before
  unfold prePppHandshake
  split
  · exact prepared
  · split
    · exact prepared
    · dsimp only
      split
      · exact texts
      · exact texts

theorem rfcommData_prepared {s : LinkState} (prepared : Prepared s)
    (channel : UInt16) (packet : List UInt8) :
    Prepared (rfcommData channel packet s) := by
  have handshake := prePppHandshake_prepared prepared packet channel
  obtain same | taken | ⟨pcb, passedOn⟩ := rfcommData_cases channel packet s
  · rw [same]
    exact prepared
  · rw [taken]
    exact handshake
  · rw [passedOn]
    exact handshake.of_eq rfl

theorem step_prepared {s : LinkState} (prepared : Prepared s) (event : Event) :
    Prepared (s.step event) := by
  suffices handled : ∀ s', Prepared s' → Prepared (s'.handle event) from
    handled { s with calls := [] } prepared
  clear prepared s
  intro s prepared
  cases event with
  | incoming cid handle addr requested =>
      exact prepared.of_eq
        (rfcommIncoming_keepsPpp cid handle addr requested s).prePppReply
  | opened cid status handle created listens =>
      simp only [LinkState.handle, rfcommOpened]
      split
      · exact prepared.of_eq (rfcommOpenFailed_keepsPpp cid s).prePppReply
      · intro reply isReply
        cases created with
        | true =>
            cases listens with
            | true => cases isReply
            | false => cases isReply
        | false => cases isReply
  | canSendNow cid maxFrameSize sendStatus =>
      cases rfcommCanSendNow_handshake s cid maxFrameSize sendStatus with
      | keeps seen reply => exact prepared.of_eq reply
      | replies seen reply =>
          intro text isReply
          cases reply.symm.trans isReply
  | closed cid =>
      cases rfcommClosed_handshake s cid with
      | keeps seen reply => exact prepared.of_eq reply
  | data channel packet => exact rfcommData_prepared prepared channel packet
  | nameComplete addr status remoteName =>
      exact prepared.of_eq
        (autoNameComplete_keepsPpp addr status remoteName s).prePppReply
  | securityLevel handle status level =>
      exact prepared.of_eq
        (autoSecurityLevel_keepsPpp handle status level s).prePppReply
  | txNotify => exact prepared.of_eq (txNotifyCb_handshake s).2
  | pppOutput data => exact prepared.of_eq (pppOutputCb_handshake data s).2
  | pppStatus pcb up => exact prepared.of_eq (pppStatusCb_handshake pcb up s).2

/-- What a run keeps. -/
structure Reached (w : World) : Prop where
  channels : ChannelInvariant w
  prepared : Prepared w.link

theorem reached_of_run (linkMode : BtsecMode) {events : List Event}
    (sends : Along World.step Sends (World.boot linkMode) events) :
    Reached (run World.step (World.boot linkMode) events) := by
  have boot : Reached (World.boot linkMode) := by
    refine ⟨ChannelInvariant.boot linkMode, ?_⟩
    intro reply isReply
    cases isReply
  apply run_invariant_along Reached _ boot sends
  intro w event reached allowed
  exact
    ⟨reached.channels.step allowed, step_prepared reached.prepared event⟩

/-- A session with PPP is active. -/
theorem ChannelInvariant.active (invariant : ChannelInvariant w)
    (ppp : w.link.ppp ≠ none) :
    w.link.activeCid ≠ 0 ∧ w.link.sessionActive = true := by
  have agree : Agree _ _ _ _ _ := invariant
  have real := (agree.ppp ppp).1
  exact ⟨real, agree.active.mpr real⟩

/-- From a packet with a flag on, a channel sends nothing but what it takes from
PPP's stream exactly when no reply waits as the packet comes. -/
theorem handedOff_iff (linkMode : BtsecMode) {before : List Event}
    (sends : Along World.step Sends (World.boot linkMode) before)
    (reached : run World.step (World.boot linkMode) before = w)
    (ppp : w.link.ppp ≠ none) {packet : List UInt8} (flag : 0x7E ∈ packet) :
    (∀ after,
        Along World.step (OnChannel w.link.activeCid)
            (w.step (.data w.link.activeCid packet)) after →
          ∀ event,
            OnChannel w.link.activeCid
                (run World.step (w.step (.data w.link.activeCid packet)) after)
                event →
              SendsStream
                (run World.step (w.step (.data w.link.activeCid packet))
                  after).link event) ↔
      w.link.prePppReply = none := by
  obtain ⟨channels, prepared⟩ : Reached w := by
    rw [← reached]
    exact reached_of_run linkMode sends
  obtain ⟨real, active⟩ := channels.active ppp
  obtain ⟨pcb, isPcb⟩ := Option.ne_none_iff_exists'.mp ppp
  have data : OnChannel w.link.activeCid w (.data w.link.activeCid packet) :=
    ⟨trivial, Event.noConfusion⟩
  obtain ⟨sameCid, samePpp⟩ := channels.stays ppp data
  obtain ⟨seen, sameReply⟩ :=
    rfcommData_handsOff (s := { w.link with calls := [] }) active isPcb flag
  constructor
  · intro stream
    by_contra waiting
    obtain ⟨reply, isReply⟩ := Option.ne_none_iff_exists'.mp waiting
    have now :=
      stream [] trivial
        (.canSendNow (w.step (.data w.link.activeCid packet)).link.activeCid 0 0)
        ⟨trivial, Event.noConfusion⟩
    refine reply_not_stream ?_ (prepared reply isReply) ?_ now
    · exact sameReply.trans isReply
    · rw [run_nil, sameCid]
      exact real
  · intro noReply after along event _
    have handedOff :
        HandedOff w.link.activeCid
          (w.step (.data w.link.activeCid packet)) := by
      refine ⟨channels.step trivial, sameCid, ?_, seen, sameReply.trans noReply⟩
      rw [samePpp]
      exact ppp
    have later :=
      run_invariant_along (HandedOff w.link.activeCid)
        (fun w' event holds stays => holds.step stays) handedOff along
    exact sendsStream_of_none later.noReply event

end Runs

/-- A phone dials, talks PPP and is answered. -/
def dialledIn : List Event :=
  [.incoming 1 7 (Vector.replicate 6 1) true, .opened 1 0 7 true true]

theorem dialledIn_sends :
    Along World.step Sends (World.boot .btsecOff) dialledIn :=
  ⟨⟨by decide, id⟩, rfl, trivial⟩

theorem handedOff_iff_dialledIn :
    SendsStream
      (run World.step
        ((run World.step (World.boot .btsecOff) dialledIn).step
          (.data 1 [0x7E]))
        [.pppOutput [0x7E, 0xFF]]).link
      (.canSendNow 1 0 0) := by
  have ppp :
      (run World.step (World.boot .btsecOff) dialledIn).link.ppp ≠ none :=
    Option.some_ne_none 0
  have flag : (0x7E : UInt8) ∈ [0x7E] := by decide
  have stream := (handedOff_iff .btsecOff dialledIn_sends rfl ppp flag).mpr rfl
  apply stream [.pppOutput [0x7E, 0xFF]]
  · exact ⟨⟨trivial, Event.noConfusion⟩, trivial⟩
  · exact ⟨trivial, Event.noConfusion⟩

/-- The phone sends `AT`, and its first frame before the `OK` could be sent. -/
def talksOverReply : List Event :=
  dialledIn ++ [.data 1 [0x41, 0x54], .data 1 [0x7E]]

/-- The `OK` goes into PPP's stream. -/
theorem talksOverReply_sent :
    Along World.step Sends (World.boot .btsecOff) talksOverReply ∧
      (run World.step (World.boot .btsecOff) talksOverReply).link.pppFrameSeen =
        true ∧
      ((run World.step (World.boot .btsecOff) talksOverReply).link.step
        (.canSendNow 1 0 0)).calls =
        [.rfcommSend 1 (Proxy.ascii "\r\nOK\r\n")] ∧
      ¬ SendsStream (run World.step (World.boot .btsecOff) talksOverReply).link
        (.canSendNow 1 0 0) := by
  have sent :
      ((run World.step (World.boot .btsecOff) talksOverReply).link.step
        (.canSendNow 1 0 0)).calls =
        [.rfcommSend 1 (Proxy.ascii "\r\nOK\r\n")] := by
    decide
  refine ⟨⟨⟨by decide, id⟩, rfl, trivial, trivial, trivial⟩, by decide, sent, ?_⟩
  intro takes
  have stream :=
    takes 1 (Proxy.ascii "\r\nOK\r\n") (by rw [sent]; exact List.mem_cons_self)
  revert stream
  decide

/-! ## Redials -/

section Redials

variable {w : World}

theorem answers_of_unseen {s : LinkState} {pcb : Nat}
    (active : s.sessionActive = true) (real : s.activeCid ≠ 0)
    (ppp : s.ppp = some pcb) (unseen : s.pppFrameSeen = false)
    {packet reply : List UInt8} (noFlag : 0x7E ∉ packet)
    (isReply : handshakeReply (handshakeText packet) = some reply) :
    Answers s s.activeCid packet reply := by
  have stepped :
      s.step (.data s.activeCid packet) =
        { s with prePppReply := some reply, calls := [] }.call
          (.requestCanSendNow s.activeCid) := by
    have text :=
      rfcommData_text (s := { s with calls := [] }) active ppp unseen noFlag
    rw [isReply, Option.some_or, if_pos (Option.some_ne_none reply)] at text
    exact text
  refine ⟨?_, ?_, ?_⟩
  · rw [stepped]
    intro pcb data fed
    cases List.mem_singleton.mp fed
  · rw [stepped]
    exact List.mem_cons_self
  · rw [stepped]
    intro other maxFrameSize sendStatus
    show .rfcommSend s.activeCid reply ∈
      (rfcommCanSendNow maxFrameSize sendStatus
        { s with prePppReply := some reply, calls := [] }).calls
    rw [rfcommCanSendNow_reply { s with prePppReply := some reply, calls := [] }
      real rfl]
    unfold sendReply
    dsimp only
    split
    · exact List.mem_cons_self
    · exact List.mem_cons_self

/-- A packet that holds no text asks to send if a reply waits. -/
theorem wordless_calls {s : LinkState} {pcb : Nat}
    (active : s.sessionActive = true) (ppp : s.ppp = some pcb)
    (unseen : s.pppFrameSeen = false) :
    (s.step (.data s.activeCid [0])).calls =
      if s.prePppReply ≠ none then [.requestCanSendNow s.activeCid] else [] := by
  have noText : handshakeReply (handshakeText [0]) = none := by decide
  have noFlag : (0x7E : UInt8) ∉ [0] := by decide
  have text :=
    rfcommData_text (s := { s with calls := [] }) active ppp unseen noFlag
  rw [noText, Option.none_or] at text
  show (rfcommData s.activeCid [0] { s with calls := [] }).calls = _
  rw [text]
  split
  · rfl
  · rfl

/-- PPP listens on the open channel, and no flag has come. -/
structure Dials (cid : UInt16) (w : World) : Prop where
  channels : ChannelInvariant w
  active : w.link.activeCid = cid
  ppp : w.link.ppp ≠ none
  unseen : w.link.pppFrameSeen = false

theorem Dials.step {cid : UInt16} (dials : Dials cid w) {event : Event}
    (stays : OnChannel cid w event)
    (noFlag : ∀ packet, event = .data cid packet → 0x7E ∉ packet) :
    Dials cid (w.step event) := by
  obtain ⟨channels, rfl, ppp, unseen⟩ := dials
  obtain ⟨sameCid, samePpp⟩ := channels.stays ppp stays
  refine ⟨channels.step stays.1, sameCid, ?_, ?_⟩
  · rw [samePpp]
    exact ppp
  · cases channels.handshake ppp stays.1 with
    | keeps seenAfter reply => exact seenAfter.trans unseen
    | flag flag seenAfter reply => exact absurd flag (noFlag _ rfl)
    | text unseen seenAfter => exact seenAfter
    | replies seenAfter reply => exact seenAfter.trans unseen

theorem Dials.answers {cid : UInt16} (dials : Dials cid w)
    {packet reply : List UInt8} (noFlag : 0x7E ∉ packet)
    (isReply : handshakeReply (handshakeText packet) = some reply) :
    Answers w.link cid packet reply := by
  obtain ⟨channels, rfl, ppp, unseen⟩ := dials
  obtain ⟨real, active⟩ := channels.active ppp
  obtain ⟨pcb, isPcb⟩ := Option.ne_none_iff_exists'.mp ppp
  exact answers_of_unseen active real isPcb unseen noFlag isReply

theorem freshHandshake_eq {s : LinkState} (unseen : s.pppFrameSeen = false)
    (noReply : s.prePppReply = none) : freshHandshake s = s := by
  unfold freshHandshake
  rw [← unseen, ← noReply]

/-- A dial is treated as on a fresh channel exactly when the handshake is what it
is on one. -/
theorem ChannelInvariant.dialsAfresh_iff (channels : ChannelInvariant w)
    (ppp : w.link.ppp ≠ none) :
    DialsAfresh w ↔
      w.link.pppFrameSeen = false ∧ w.link.prePppReply = none := by
  obtain ⟨real, active⟩ := channels.active ppp
  obtain ⟨pcb, isPcb⟩ := Option.ne_none_iff_exists'.mp ppp
  constructor
  · intro afresh
    have unseen : w.link.pppFrameSeen = false := by
      rw [Bool.eq_false_iff]
      intro seen
      have fed :=
        rfcommData_seen (s := { w.link with calls := [] }) [0x41, 0x54] active
          isPcb seen
      have notFed :=
        (afresh.answered [] trivial [0x41, 0x54] (Proxy.ascii "\r\nOK\r\n")
          (by decide) (by decide)).notFed pcb [0x41, 0x54]
      apply notFed
      show _ ∈
        (rfcommData w.link.activeCid [0x41, 0x54]
          { w.link with calls := [] }).calls
      rw [fed]
      exact List.mem_cons_self
    refine ⟨unseen, ?_⟩
    by_contra waiting
    have same := afresh.asFresh [.data w.link.activeCid [0]]
    have asked := wordless_calls active isPcb unseen
    have silent :=
      wordless_calls (s := freshHandshake w.link) active isPcb rfl
    rw [if_pos waiting] at asked
    rw [if_neg (not_not.mpr (by rfl))] at silent
    rw [callsAlong, callsAlong, asked] at same
    cases (List.cons.inj same).1.trans silent
  · rintro ⟨unseen, noReply⟩
    refine ⟨?_, ?_⟩
    · intro events
      rw [freshHandshake_eq unseen noReply]
    · intro events along packet reply noFlag isReply
      have dials : Dials w.link.activeCid w := ⟨channels, rfl, ppp, unseen⟩
      have later :=
        run_invariant_along (Dials w.link.activeCid)
          (fun w' event holds allowed => holds.step allowed.1 allowed.2) dials
          along
      exact later.answers noFlag isReply

/-- A redial after PPP has ended on its open channel is treated as the first dial
exactly when the phone has sent no flag yet and no reply waits. -/
theorem redials_iff (linkMode : BtsecMode) {before : List Event}
    (sends : Along World.step Sends (World.boot linkMode) before) {pcb : Nat}
    (ppp :
      (run World.step (World.boot linkMode) before).link.ppp = some pcb) :
    DialsAfresh
        (run World.step (World.boot linkMode)
          (before ++ [.pppStatus pcb false])) ↔
      (run World.step (World.boot linkMode) before).link.pppFrameSeen = false ∧
        (run World.step (World.boot linkMode) before).link.prePppReply =
          none := by
  rw [run_snoc]
  obtain ⟨channels, _⟩ := reached_of_run linkMode sends
  generalize run World.step (World.boot linkMode) before = w at *
  have same := pppStatusCb_same pcb false { w.link with calls := [] }
  have kept := pppStatusCb_handshake pcb false { w.link with calls := [] }
  have samePpp : (w.step (.pppStatus pcb false)).link.ppp = w.link.ppp :=
    same.ppp
  have sameSeen :
      (w.step (.pppStatus pcb false)).link.pppFrameSeen =
        w.link.pppFrameSeen := kept.1
  have sameReply :
      (w.step (.pppStatus pcb false)).link.prePppReply = w.link.prePppReply :=
    kept.2
  have next : ChannelInvariant (w.step (.pppStatus pcb false)) :=
    channels.step trivial
  rw [next.dialsAfresh_iff, sameSeen, sameReply]
  rw [samePpp, ppp]
  exact Option.some_ne_none pcb

end Redials

theorem redials_iff_dialledIn :
    DialsAfresh
      (run World.step (World.boot .btsecOff)
        (dialledIn ++ [.pppStatus 0 false])) :=
  (redials_iff .btsecOff dialledIn_sends rfl).mpr ⟨rfl, rfl⟩

/-- The phone dials, ends its PPP session and dials again on the same channel. -/
def redialled : List Event :=
  dialledIn ++
    [.data 1 [0x41, 0x54], .canSendNow 1 0 0, .data 1 [0x7E],
      .pppStatus 0 true, .pppStatus 0 false]

/-- The second `AT` is fed to PPP. -/
theorem redialled_unanswered :
    Along World.step Sends (World.boot .btsecOff) redialled ∧
      ((run World.step (World.boot .btsecOff) redialled).link.step
        (.data 1 [0x41, 0x54])).calls = [.pppInput 0 [0x41, 0x54]] ∧
      ¬ DialsAfresh (run World.step (World.boot .btsecOff) redialled) := by
  have fed :
      ((run World.step (World.boot .btsecOff) redialled).link.step
        (.data 1 [0x41, 0x54])).calls = [.pppInput 0 [0x41, 0x54]] := by
    decide
  refine
    ⟨⟨⟨by decide, id⟩, rfl, trivial, trivial, trivial, trivial, trivial,
      trivial⟩, fed, ?_⟩
  intro afresh
  have answers :=
    afresh.answered [] trivial [0x41, 0x54] (Proxy.ascii "\r\nOK\r\n")
      (by decide) (by decide)
  apply answers.notFed 0 [0x41, 0x54]
  show _ ∈
    ((run World.step (World.boot .btsecOff) redialled).link.step
      (.data 1 [0x41, 0x54])).calls
  rw [fed]
  exact List.mem_cons_self

end VeteraBridge.Link

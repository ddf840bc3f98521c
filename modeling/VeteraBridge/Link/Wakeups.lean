import VeteraBridge.Link.Transmit

/-!
# PPP's bytes are waited for

What is in the stream is sent because `tx_notify_cb` is on the run loop or because
a channel waits to be told that it can send.  One event answers all requests made
before it, and the handshake's reply uses it up.
-/

namespace VeteraBridge.Link

open EventRun

/-- Where neither task is at work and the channel is open, what is in the stream
is on its way. -/
def Flows (s : TxTasks) : Prop :=
  s.bt = .idle → s.output = .idle → s.phase s.link.activeCid = .opened →
    s.link.pppTxStream ≠ [] →
      s.queued = true ∨ s.requested s.link.activeCid = true

/-- What BTstack and the tasks do: a task starts on something when it is idle,
and an open channel is told that it can send if it waits for that. -/
def TxPossible (s : TxTasks) : TxEvent → Prop
  | .other event => s.bt = .idle ∧ event.Whole ∧ Sends s.world event
  | .opened cid handle =>
    s.bt = .idle ∧ Sends s.world (.opened cid 0 handle true true)
  | .canSendNow cid _ _ =>
    s.bt = .idle ∧ s.phase cid = .opened ∧ s.requested cid = true
  | .notify => s.bt = .idle ∧ s.queued = true
  | .pppStatus _ _ | .pppOutput _ => s.output = .idle
  | .bt _ _ | .tcpip => True

/-- When the handshake's reply goes out, the stream is empty or its bytes are
waited for apart from the event that the reply uses up. -/
def LeavesNone (s : TxTasks) : TxEvent → Prop
  | .canSendNow cid _ sendStatus =>
    s.link.prePppReply ≠ none → sendStatus = 0 →
      s.phase s.link.activeCid = .opened → s.link.pppTxStream ≠ [] →
        s.queued = true ∨ s.output ≠ .idle ∨
          (cid ≠ s.link.activeCid ∧ s.requested s.link.activeCid = true)
  | _ => True

/-! ## What leaves the transmit path alone -/

structure KeepsTx (s s' : LinkState) : Prop where
  pppTxStream : s'.pppTxStream = s.pppTxStream
  txNotifyPending : s'.txNotifyPending = s.txNotifyPending

section Keeps

variable {s s' : LinkState}

theorem KeepsPpp.keepsTx (keeps : KeepsPpp s s') : KeepsTx s s' :=
  ⟨keeps.pppTxStream, keeps.txNotifyPending⟩

theorem rfcommClosed_keepsTx (cid : UInt16) (s : LinkState) :
    KeepsTx s (rfcommClosed cid s) := by
  unfold rfcommClosed
  split
  · exact ⟨rfl, rfl⟩
  · split
    · exact ⟨rfl, rfl⟩
    · unfold pppSessionStop
      dsimp only
      split
      · exact ⟨rfl, rfl⟩
      · exact ⟨rfl, rfl⟩

theorem rfcommData_keepsTx (channel : UInt16) (packet : List UInt8)
    (s : LinkState) : KeepsTx s (rfcommData channel packet s) := by
  have handshake : KeepsTx s (prePppHandshake packet channel s).2 := by
    unfold prePppHandshake
    split_ifs
    · exact ⟨rfl, rfl⟩
    · exact ⟨rfl, rfl⟩
    · dsimp only
      split
      · exact ⟨rfl, rfl⟩
      · exact ⟨rfl, rfl⟩
  obtain same | taken | ⟨pcb, passedOn⟩ := rfcommData_cases channel packet s
  · rw [same]
    exact ⟨rfl, rfl⟩
  · rw [taken]
    exact handshake
  · rw [passedOn]
    exact ⟨handshake.pppTxStream, handshake.txNotifyPending⟩

theorem Event.Whole.keepsTx {event : Event} (whole : event.Whole) :
    KeepsTx s (s.step event) := by
  suffices stepped : KeepsTx { s with calls := [] } (s.step event) from
    ⟨stepped.pppTxStream, stepped.txNotifyPending⟩
  cases event with
  | incoming cid handle addr requested =>
      exact (rfcommIncoming_keepsPpp cid handle addr requested _).keepsTx
  | opened cid status handle created listens =>
      have failed :
          s.step (.opened cid status handle created listens) =
            rfcommOpenFailed cid { s with calls := [] } :=
        if_pos whole
      rw [failed]
      exact (rfcommOpenFailed_keepsPpp cid _).keepsTx
  | canSendNow cid maxFrameSize sendStatus => exact whole.elim
  | closed cid => exact rfcommClosed_keepsTx cid _
  | data channel packet => exact rfcommData_keepsTx channel packet _
  | nameComplete addr status remoteName =>
      exact (autoNameComplete_keepsPpp addr status remoteName _).keepsTx
  | securityLevel handle status level =>
      exact (autoSecurityLevel_keepsPpp handle status level _).keepsTx
  | txNotify => exact whole.elim
  | pppOutput data => exact whole.elim
  | pppStatus pcb up => exact whole.elim

end Keeps

/-! ## The open channel -/

/-- Nothing happens to the open channel. -/
structure SameChannel (w w' : World) (event : Event) : Prop where
  cid : w'.link.activeCid = w.link.activeCid
  opened : w.phase w.link.activeCid = .opened
  waits : ∀ requested,
    forgetRequest requested event w.link.activeCid =
      requested w.link.activeCid

theorem forgetRequest_of_unnoted {event : Event}
    (unnoted : ∀ phase, noteEvent phase event = phase)
    (requested : UInt16 → Bool) : forgetRequest requested event = requested := by
  cases event with
  | incoming cid handle addr asked =>
      have same := congrFun (unnoted fun _ => .free) cid
      rw [noteEvent, Function.update_self] at same
      cases same
  | closed cid =>
      have same := congrFun (unnoted fun _ => .opened) cid
      rw [noteEvent, Function.update_self] at same
      cases same
  | opened cid status handle created listens => rfl
  | canSendNow cid maxFrameSize sendStatus => rfl
  | data channel packet => rfl
  | nameComplete addr status remoteName => rfl
  | securityLevel handle status level => rfl
  | txNotify => rfl
  | pppOutput data => rfl
  | pppStatus pcb up => rfl

/-- A channel is open after a step only if it was before. -/
theorem Event.Whole.sameChannel {w : World} (invariant : ChannelInvariant w)
    {event : Event} (whole : event.Whole) (sends : Sends w event)
    (opened : (w.step event).phase (w.step event).link.activeCid = .opened) :
    SameChannel w (w.step event) event := by
  have next := invariant.step sends
  have agree : Agree _ _ _ _ _ := invariant
  have noZero : (w.step event).phase 0 = .free := Agree.noZero next
  have some : (w.step event).link.activeCid ≠ 0 := by
    intro none
    rw [none, noZero] at opened
    cases opened
  clear next noZero
  have stepped := step_session w.link event
  unfold World.step at opened some ⊢
  generalize w.link.step event = link at *
  dsimp only at opened some ⊢
  cases stepped with
  | keeps unnoted becomes =>
      rw [becomes.decisions, List.foldl_nil, unnoted, becomes.cid] at opened
      refine ⟨becomes.cid, opened, fun requested => ?_⟩
      rw [forgetRequest_of_unnoted unnoted]
  | @declines cid handle addr requested busy becomes =>
      have foreign : w.link.activeCid ≠ cid := by
        rintro rfl
        exact sends.2 (agree.inUse sends.1)
      rw [becomes.decisions, becomes.cid] at opened
      simp only [List.foldl_cons, List.foldl_nil, noteCall, noteEvent,
        Function.update_idem, Function.update_of_ne foreign] at opened
      exact
        ⟨becomes.cid, opened, fun requested => Function.update_of_ne foreign _ _⟩
  | holds free becomes =>
      rw [becomes.decisions, becomes.cid, List.foldl_nil, noteEvent,
        Function.update_self] at opened
      cases opened
  | accepts free becomes =>
      rw [becomes.decisions, becomes.cid] at opened
      simp only [List.foldl_cons, List.foldl_nil, noteCall,
        Function.update_self] at opened
      cases opened
  | grants unnoted held becomes =>
      rw [becomes.decisions, becomes.cid, ← (agree.held held).1] at opened
      simp only [List.foldl_cons, List.foldl_nil, noteCall,
        Function.update_self] at opened
      cases opened
  | refuses unnoted held becomes =>
      exact absurd (becomes (agree.held held).1.symm).cid some
  | @openFails cid status handle created listens failed ours foreign idle =>
      obtain ⟨known, notOpened⟩ := Sends.notOpened failed sends
      by_cases active : cid = w.link.activeCid
      · exact absurd (ours active).cid some
      · have notHeld := agree.ne_held (agree.real known) active
        by_cases none : w.link.activeCid = 0
        · exact absurd (idle none notHeld).cid some
        · have becomes := foreign active notHeld none
          have apart : w.link.activeCid ≠ cid := fun same => active same.symm
          rw [becomes.decisions, becomes.cid, List.foldl_nil, noteEvent,
            Function.update_of_ne apart] at opened
          exact ⟨becomes.cid, opened, fun _ => rfl⟩
  | @opens cid handle created listens pcb becomes => exact absurd rfl whole
  | @startFails cid handle created listens becomes => exact absurd rfl whole
  | @closes cid foreign held ours =>
      by_cases active : cid = w.link.activeCid
      · by_cases isHeld : cid = w.link.autoCid
        · exact absurd (held active isHeld).cid some
        · exact absurd (ours active isHeld).cid some
      · have becomes := foreign active
        have apart : w.link.activeCid ≠ cid := fun same => active same.symm
        rw [becomes.decisions, becomes.cid, List.foldl_nil, noteEvent,
          Function.update_of_ne apart] at opened
        exact
          ⟨becomes.cid, opened, fun requested => Function.update_of_ne apart _ _⟩

/-! ## The invariant -/

/-- Something will still be done about the stream. -/
def Underway (s : TxTasks) : Prop :=
  s.queued = true ∨ s.requested s.link.activeCid = true ∨ s.output ≠ .idle ∨
    s.bt = .notifies ∨ s.bt = .received s.link.activeCid

/-- The BTstack task is at work on the active channel, and PPP starts on one that
has opened. -/
def SendPc.Serves (cid : UInt16) (phase : UInt16 → Phase) : SendPc → Prop
  | .idle | .notifies => True
  | .received other => other = cid
  | .opening other _ | .starting other _ => other = cid ∧ phase cid = .opened

structure TxInvariant (s : TxTasks) : Prop where
  channels : ChannelInvariant s.world
  serves : s.bt.Serves s.link.activeCid s.phase
  pending : s.link.txNotifyPending = true →
    s.queued = true ∨ s.bt = .notifies ∨ s.output = .registers
  flows : s.phase s.link.activeCid = .opened → s.link.pppTxStream ≠ [] →
    Underway s

/-- A request stays until its channel is told. -/
theorem noteRequests_mono (calls : List Call) {requested : UInt16 → Bool}
    {cid : UInt16} (waits : requested cid = true) :
    calls.foldl noteRequest requested cid = true := by
  induction calls generalizing requested with
  | nil => exact waits
  | cons c rest inductionHypothesis =>
      apply inductionHypothesis
      cases c with
      | requestCanSendNow other =>
          by_cases same : cid = other
          · rw [noteRequest, same, Function.update_self]
          · rw [noteRequest, Function.update_of_ne same]
            exact waits
      | _ => exact waits

section Invariant

variable {s : TxTasks}

/-- Outside `tx_notify_cb` a flag that is set has its callback. -/
theorem TxInvariant.registered (invariant : TxInvariant s)
    (outside : s.bt ≠ .notifies) (isPending : s.link.txNotifyPending = true) :
    s.queued = true ∨ s.output = .registers := by
  rcases invariant.pending isPending with queued | notifies | registers
  · exact Or.inl queued
  · exact absurd notifies outside
  · exact Or.inr registers

/-- Outside the handlers that see to the stream, it is waited for. -/
theorem TxInvariant.waits (invariant : TxInvariant s)
    (outside : s.bt ≠ .notifies) (noChunk : ∀ cid, s.bt ≠ .received cid)
    (opened : s.phase s.link.activeCid = .opened)
    (some : s.link.pppTxStream ≠ []) :
    s.queued = true ∨ s.requested s.link.activeCid = true ∨
      s.output ≠ .idle := by
  rcases invariant.flows opened some with
    queued | requested | busy | notifies | received
  · exact Or.inl queued
  · exact Or.inr (Or.inl requested)
  · exact Or.inr (Or.inr busy)
  · exact absurd notifies outside
  · exact absurd received (noChunk _)

theorem TxInvariant.sound (invariant : TxInvariant s) : Flows s := by
  intro btIdle outputIdle opened some
  rcases invariant.waits (by rw [btIdle]; rintro ⟨⟩)
    (by rw [btIdle]; rintro _ ⟨⟩) opened some with queued | requested | busy
  · exact Or.inl queued
  · exact Or.inr requested
  · exact absurd outputIdle busy

theorem other_tx (invariant : TxInvariant s) (idle : s.bt = .idle)
    {event : Event} (whole : event.Whole) (sends : Sends s.world event) :
    TxInvariant (s.other event) := by
  have keeps : KeepsTx s.link (s.link.step event) := whole.keepsTx
  refine ⟨invariant.channels.step sends, ?_, ?_, ?_⟩
  · show s.bt.Serves _ _
    rw [idle]
    trivial
  · intro pending
    exact invariant.pending (keeps.txNotifyPending.symm.trans pending)
  · intro opened some
    have same := whole.sameChannel invariant.channels sends opened
    have before : s.link.pppTxStream ≠ [] := by
      rw [← keeps.pppTxStream]
      exact some
    rcases invariant.waits (by rw [idle]; rintro ⟨⟩) (by rw [idle]; rintro _ ⟨⟩)
      same.opened before with queued | requested | busy
    · exact Or.inl queued
    · refine Or.inr (Or.inl ?_)
      apply noteRequests_mono
      show forgetRequest s.requested event (s.world.step event).link.activeCid =
        true
      rw [same.cid, same.waits]
      exact requested
    · exact Or.inr (Or.inr (Or.inl busy))

theorem opened_tx (invariant : TxInvariant s) {cid handle : UInt16}
    (idle : s.bt = .idle)
    (sends : Sends s.world (.opened cid 0 handle true true)) :
    TxInvariant (s.opened cid handle) := by
  have agree : Agree s.link.sessionActive s.link.activeCid s.link.autoCid
      s.link.ppp s.phase := invariant.channels
  have accepted : s.phase cid = .accepted := sends
  obtain ⟨rfl, real, noHold⟩ := agree.opens accepted
  refine ⟨?_, ?_, ?_, ?_⟩
  · show Agree s.link.sessionActive s.link.activeCid s.link.autoCid s.link.ppp
      (Function.update s.phase s.link.activeCid .opened)
    rw [noHold]
    exact agree.advances real trivial fun _ => rfl
  · exact ⟨rfl, Function.update_self _ _ _⟩
  · intro isPending
    rcases invariant.registered (by rw [idle]; rintro ⟨⟩) isPending with
      queued | registers
    · exact Or.inl queued
    · exact Or.inr (Or.inr registers)
  · intro _ some
    exact absurd rfl some

theorem notify_tx (invariant : TxInvariant s) : TxInvariant s.notify := by
  refine ⟨invariant.channels, trivial, ?_, ?_⟩
  · exact fun _ => Or.inr (Or.inl rfl)
  · exact fun _ _ => Or.inr (Or.inr (Or.inr (Or.inl rfl)))

/-- A step that keeps the session, the flag and the stream, and lets nobody
forget. -/
theorem TxInvariant.same (invariant : TxInvariant s) {link : LinkState}
    (same : SameSession s.quiet link) (keeps : KeepsTx s.quiet link) :
    TxInvariant (s.becomes link) := by
  refine ⟨same.channels invariant.channels, ?_, ?_, ?_⟩
  · show s.bt.Serves link.activeCid s.phase
    rw [same.activeCid]
    exact invariant.serves
  · exact fun pending =>
      invariant.pending (keeps.txNotifyPending.symm.trans pending)
  · intro opened some
    have cid : link.activeCid = s.link.activeCid := same.activeCid
    have before : s.link.pppTxStream ≠ [] := by
      rw [← show link.pppTxStream = s.link.pppTxStream from keeps.pppTxStream]
      exact some
    have wasOpened : s.phase s.link.activeCid = .opened := by
      rw [← cid]
      exact opened
    rcases invariant.flows wasOpened before with
      queued | requested | busy | notifies | received
    · exact Or.inl queued
    · refine Or.inr (Or.inl (noteRequests_mono _ ?_))
      show s.requested link.activeCid = true
      rw [cid]
      exact requested
    · exact Or.inr (Or.inr (Or.inl busy))
    · exact Or.inr (Or.inr (Or.inr (Or.inl notifies)))
    · refine Or.inr (Or.inr (Or.inr (Or.inr ?_)))
      show s.bt = .received link.activeCid
      rw [cid]
      exact received

theorem pppStatus_tx (invariant : TxInvariant s) (pcb : Nat) (up : Bool) :
    TxInvariant (s.pppStatus pcb up) := by
  have keeps : KeepsTx s.quiet (pppStatusCb pcb up s.quiet) := by
    unfold pppStatusCb
    split
    · exact ⟨rfl, rfl⟩
    · dsimp only
      split
      · exact ⟨rfl, rfl⟩
      · exact ⟨rfl, rfl⟩
  exact invariant.same (pppStatusCb_same pcb up s.quiet) keeps

/-- An open channel has an id. -/
theorem TxInvariant.real (invariant : TxInvariant s)
    (opened : s.phase s.link.activeCid = .opened) : s.link.activeCid ≠ 0 := by
  intro none
  have noZero : s.phase 0 = .free := Agree.noZero invariant.channels
  rw [none, noZero] at opened
  cases opened

/-- The reply is sent, or its channel asks again. -/
theorem reply_tx (invariant : TxInvariant s) {cid maxFrameSize : UInt16}
    {sendStatus : UInt8} {reply : List UInt8}
    (some : s.link.activeCid ≠ 0) (prepared : s.link.prePppReply = .some reply)
    (leaves : LeavesNone s (.canSendNow cid maxFrameSize sendStatus)) :
    TxInvariant (s.canSendNow cid maxFrameSize sendStatus) := by
  rw [canSendNow_reply some prepared]
  unfold sendReply
  dsimp only
  split
  · next sent =>
    refine ⟨invariant.channels, invariant.serves, invariant.pending, ?_⟩
    intro opened waiting
    have isPrepared : s.link.prePppReply ≠ none := by
      rw [prepared]
      exact Option.some_ne_none reply
    rcases leaves isPrepared sent opened waiting with
      queued | busy | ⟨apart, requested⟩
    · exact Or.inl queued
    · exact Or.inr (Or.inr (Or.inl busy))
    · refine Or.inr (Or.inl ?_)
      show Function.update s.requested cid false s.link.activeCid = true
      rw [Function.update_of_ne apart.symm]
      exact requested
  · refine ⟨invariant.channels, invariant.serves, invariant.pending, ?_⟩
    intro _ _
    exact Or.inr (Or.inl (Function.update_self _ _ _))

theorem chunk_tx (invariant : TxInvariant s) {cid maxFrameSize : UInt16}
    {sendStatus : UInt8} (idle : s.bt = .idle) (some : s.link.activeCid ≠ 0)
    (noReply : s.link.prePppReply = none) :
    TxInvariant (s.canSendNow cid maxFrameSize sendStatus) := by
  have same := sendChunk_same maxFrameSize sendStatus s.quiet
  have pending :
      (sendChunk maxFrameSize sendStatus s.quiet).txNotifyPending =
        s.link.txNotifyPending := by
    unfold sendChunk
    dsimp only
    split
    · rfl
    · split
      · rfl
      · rfl
  rw [canSendNow_chunk some noReply]
  refine ⟨same.channels invariant.channels, ?_, ?_, ?_⟩
  · exact same.activeCid.symm
  · intro isPending
    rcases invariant.registered (by rw [idle]; rintro ⟨⟩)
      (pending.symm.trans isPending) with queued | registers
    · exact Or.inl queued
    · exact Or.inr (Or.inr registers)
  · intro _ _
    refine Or.inr (Or.inr (Or.inr (Or.inr ?_)))
    exact congrArg SendPc.received same.activeCid.symm

theorem canSendNow_tx (invariant : TxInvariant s) {cid maxFrameSize : UInt16}
    {sendStatus : UInt8} (idle : s.bt = .idle)
    (leaves : LeavesNone s (.canSendNow cid maxFrameSize sendStatus)) :
    TxInvariant (s.canSendNow cid maxFrameSize sendStatus) := by
  by_cases none : s.link.activeCid = 0
  · rw [canSendNow_none none]
    refine ⟨invariant.channels, invariant.serves, invariant.pending, ?_⟩
    exact fun opened => absurd none (invariant.real opened)
  · cases reply : s.link.prePppReply with
    | none => exact chunk_tx invariant idle none reply
    | some reply => exact reply_tx invariant none reply leaves

/-- PPP starts on the open channel, or the session ends. -/
theorem startSession_channels {link : LinkState} {phase : UInt16 → Phase}
    (invariant : ChannelInvariant ⟨link, phase⟩)
    (opened : phase link.activeCid = .opened) (cid handle : UInt16)
    (created listens : Bool) :
    ChannelInvariant ⟨startSession cid handle created listens link, phase⟩ := by
  have agree : Agree link.sessionActive link.activeCid link.autoCid link.ppp
      phase := invariant
  cases created with
  | true =>
      cases listens with
      | true => exact agree.starts opened (some link.pcbs)
      | false => exact agree.drops opened
  | false => exact agree.drops opened

theorem startSession_keepsTx (cid handle : UInt16) (created listens : Bool)
    (link : LinkState) :
    KeepsTx link (startSession cid handle created listens link) := by
  cases created with
  | true =>
      cases listens with
      | true => exact ⟨rfl, rfl⟩
      | false => exact ⟨rfl, rfl⟩
  | false => exact ⟨rfl, rfl⟩

theorem startSession_activeCid (cid handle : UInt16) (created listens : Bool)
    (link : LinkState) :
    (startSession cid handle created listens link).activeCid = link.activeCid ∨
      (startSession cid handle created listens link).activeCid = 0 := by
  cases created with
  | true =>
      cases listens with
      | true => exact Or.inl rfl
      | false => exact Or.inr rfl
  | false => exact Or.inr rfl

/-- `tx_notify_cb` asks for the active channel. -/
theorem notifies_tx (invariant : TxInvariant s) :
    TxInvariant ((s.becomes (txNotifyCb s.quiet)).withBt .idle) := by
  have same := txNotifyCb_same s.quiet
  have cleared : (txNotifyCb s.quiet).txNotifyPending = false := by
    unfold txNotifyCb
    dsimp only
    split
    · rfl
    · rfl
  refine ⟨same.channels invariant.channels, trivial, ?_, ?_⟩
  · intro pending
    cases cleared.symm.trans pending
  · intro opened _
    have real : s.link.activeCid ≠ 0 := by
      apply invariant.real
      rw [← show (txNotifyCb s.quiet).activeCid = s.link.activeCid from
        same.activeCid]
      exact opened
    have asks :
        txNotifyCb s.quiet =
          { s.quiet with txNotifyPending := false }.call
            (.requestCanSendNow s.link.activeCid) :=
      if_pos real
    rw [asks]
    exact Or.inr (Or.inl (Function.update_self _ _ _))

/-- What is left of the stream is asked for. -/
theorem received_tx (invariant : TxInvariant s)
    (bt : s.bt = .received s.link.activeCid) :
    TxInvariant
      ((s.becomes
        (if s.link.pppTxStream ≠ [] then
          s.quiet.call (.requestCanSendNow s.link.activeCid)
        else s.quiet)).withBt .idle) := by
  have pending :
      s.link.txNotifyPending = true →
        s.queued = true ∨ SendPc.idle = .notifies ∨ s.output = .registers := by
    intro isPending
    rcases invariant.registered (by rw [bt]; rintro ⟨⟩) isPending with
      queued | registers
    · exact Or.inl queued
    · exact Or.inr (Or.inr registers)
  split
  · refine ⟨invariant.channels, trivial, pending, fun _ _ => ?_⟩
    exact Or.inr (Or.inl (Function.update_self _ _ _))
  · next empty =>
    exact
      ⟨invariant.channels, trivial, pending, fun _ some => absurd some empty⟩

/-- PPP has started, or the session is over. -/
theorem starting_tx (invariant : TxInvariant s) {cid handle : UInt16}
    (created listens : Bool) (bt : s.bt = .starting cid handle) :
    TxInvariant
      ((s.becomes (startSession cid handle created listens s.quiet)).withBt
        .idle) := by
  have serves := invariant.serves
  rw [bt] at serves
  have keeps := startSession_keepsTx cid handle created listens s.quiet
  have quiet : ChannelInvariant ⟨s.quiet, s.phase⟩ := invariant.channels
  have channels :=
    startSession_channels quiet serves.2 cid handle created listens
  refine ⟨channels, trivial, ?_, ?_⟩
  · intro isPending
    rcases invariant.registered (by rw [bt]; rintro ⟨⟩)
      (keeps.txNotifyPending.symm.trans isPending) with queued | registers
    · exact Or.inl queued
    · exact Or.inr (Or.inr registers)
  · intro opened waiting
    have some : s.link.pppTxStream ≠ [] := by
      rw [← show _ = s.link.pppTxStream from keeps.pppTxStream]
      exact waiting
    rcases startSession_activeCid cid handle created listens s.quiet with
      same | none
    · rcases invariant.waits (by rw [bt]; rintro ⟨⟩)
        (by rw [bt]; rintro _ ⟨⟩) serves.2 some with queued | requested | busy
      · exact Or.inl queued
      · refine Or.inr (Or.inl (noteRequests_mono _ ?_))
        show s.requested (startSession cid handle created listens
          s.quiet).activeCid = true
        rw [same]
        exact requested
      · exact Or.inr (Or.inr (Or.inl busy))
    · have noZero : s.phase 0 = .free := Agree.noZero invariant.channels
      have wasOpened : s.phase (startSession cid handle created listens
          s.quiet).activeCid = .opened := opened
      rw [none, noZero] at wasOpened
      cases wasOpened

theorem btStep_tx (invariant : TxInvariant s) (created listens : Bool) :
    TxInvariant (s.btStep created listens) := by
  have serves := invariant.serves
  unfold TxTasks.btStep
  cases bt : s.bt with
  | idle => exact invariant
  | notifies => exact notifies_tx invariant
  | received cid =>
      rw [bt] at serves
      obtain rfl : cid = s.link.activeCid := serves
      exact received_tx invariant bt
  | opening cid handle =>
      rw [bt] at serves
      refine ⟨invariant.channels, serves, ?_, ?_⟩
      · rintro ⟨⟩
      · intro opened some
        rcases invariant.waits (by rw [bt]; rintro ⟨⟩) (by rw [bt]; rintro _ ⟨⟩)
          opened some with queued | requested | busy
        · exact Or.inl queued
        · exact Or.inr (Or.inl requested)
        · exact Or.inr (Or.inr (Or.inl busy))
  | starting cid handle => exact starting_tx invariant created listens bt

theorem pppOutput_tx (invariant : TxInvariant s) (data : List UInt8)
    (idle : s.output = .idle) : TxInvariant (s.pppOutput data) := by
  unfold TxTasks.pppOutput
  split
  · refine ⟨invariant.channels, invariant.serves, ?_, ?_⟩
    · intro isPending
      rcases invariant.pending isPending with queued | notifies | registers
      · exact Or.inl queued
      · exact Or.inr (Or.inl notifies)
      · cases idle.symm.trans registers
    · intro _ _
      exact Or.inr (Or.inr (Or.inl OutputPc.noConfusion))
  · exact invariant

theorem tcpipStep_tx (invariant : TxInvariant s) : TxInvariant s.tcpipStep := by
  unfold TxTasks.tcpipStep
  cases output : s.output with
  | idle => exact invariant
  | sends data =>
      refine ⟨invariant.channels, invariant.serves, ?_, ?_⟩
      · intro isPending
        rcases invariant.pending isPending with queued | notifies | registers
        · exact Or.inl queued
        · exact Or.inr (Or.inl notifies)
        · cases output.symm.trans registers
      · exact fun _ _ => Or.inr (Or.inr (Or.inl OutputPc.noConfusion))
  | sent =>
      dsimp only
      split
      · next isPending =>
        -- whoever set the flag has seen to it that it is cleared
        have cleared : s.queued = true ∨ s.bt = .notifies := by
          rcases invariant.pending isPending with queued | notifies | registers
          · exact Or.inl queued
          · exact Or.inr notifies
          · cases output.symm.trans registers
        refine ⟨invariant.channels, invariant.serves, fun _ => ?_, fun _ _ => ?_⟩
        · rcases cleared with queued | notifies
          · exact Or.inl queued
          · exact Or.inr (Or.inl notifies)
        · rcases cleared with queued | notifies
          · exact Or.inl queued
          · exact Or.inr (Or.inr (Or.inr (Or.inl notifies)))
      · refine ⟨invariant.channels, invariant.serves, fun _ => ?_, fun _ _ => ?_⟩
        · exact Or.inr (Or.inr rfl)
        · exact Or.inr (Or.inr (Or.inl OutputPc.noConfusion))
  | registers =>
      exact
        ⟨invariant.channels, invariant.serves, fun _ => Or.inl rfl,
          fun _ _ => Or.inl rfl⟩

theorem TxInvariant.step (invariant : TxInvariant s) {event : TxEvent}
    (possible : TxPossible s event) (leaves : LeavesNone s event) :
    TxInvariant (s.step event) := by
  cases event with
  | other event =>
      obtain ⟨idle, whole, sends⟩ := possible
      exact other_tx invariant idle whole sends
  | opened cid handle => exact opened_tx invariant possible.1 possible.2
  | canSendNow cid maxFrameSize sendStatus =>
      exact canSendNow_tx invariant possible.1 leaves
  | notify => exact notify_tx invariant
  | bt created listens => exact btStep_tx invariant created listens
  | pppStatus pcb up => exact pppStatus_tx invariant pcb up
  | pppOutput data => exact pppOutput_tx invariant data possible
  | tcpip => exact tcpipStep_tx invariant

/-- A reply that leaves bytes behind stalls them. -/
theorem leavesNone_of_flows (invariant : TxInvariant s) {event : TxEvent}
    (possible : TxPossible s event) (next : Flows (s.step event)) :
    LeavesNone s event := by
  cases event with
  | canSendNow cid maxFrameSize sendStatus =>
      intro prepared sent opened some
      obtain ⟨idle, _, _⟩ := possible
      obtain ⟨reply, isReply⟩ := Option.ne_none_iff_exists'.mp prepared
      rw [TxTasks.step, canSendNow_reply (invariant.real opened) isReply] at next
      unfold sendReply at next
      dsimp only at next
      rw [if_pos sent] at next
      by_cases outputIdle : s.output = .idle
      · rcases next idle outputIdle opened some with queued | requested
        · exact Or.inl queued
        · refine Or.inr (Or.inr ?_)
          replace requested :
              Function.update s.requested cid false s.link.activeCid = true :=
            requested
          by_cases ours : cid = s.link.activeCid
          · rw [ours, Function.update_self] at requested
            cases requested
          · rw [Function.update_of_ne fun same => ours same.symm] at requested
            exact ⟨ours, requested⟩
      · exact Or.inr (Or.inl outputIdle)
  | _ => trivial

end Invariant

/-! ## Runs -/

theorem boot_tx (linkMode : BtsecMode) : TxInvariant (TxTasks.boot linkMode) := by
  refine ⟨ChannelInvariant.boot linkMode, trivial, ?_, ?_⟩
  · rintro ⟨⟩
  · rintro ⟨⟩

/-- PPP's bytes are waited for all along a run exactly when no reply of the
handshake leaves any behind. -/
theorem flows_iff (linkMode : BtsecMode) {events : List TxEvent}
    (possible : Along TxTasks.step TxPossible (TxTasks.boot linkMode) events) :
    (∀ earlier, earlier <+: events →
        Flows (run TxTasks.step (TxTasks.boot linkMode) earlier)) ↔
      Along TxTasks.step LeavesNone (TxTasks.boot linkMode) events := by
  apply throughout_iff_along TxInvariant Flows
  · exact fun s invariant => invariant.sound
  · exact fun s event invariant possible leaves => invariant.step possible leaves
  · exact fun s event invariant possible next =>
      leavesNone_of_flows invariant possible next
  · exact boot_tx linkMode
  · exact possible

/-- A phone dials, gets its `OK` and then PPP's first byte. -/
def dialsThenTalks : List TxEvent :=
  [.other (.incoming 1 7 (Vector.replicate 6 1) true), .opened 1 7,
    .bt true true, .bt true true, .other (.data 1 [0x41, 0x54]),
    .canSendNow 1 0 0, .other (.data 1 [0x7E]), .pppOutput [0x7E], .tcpip,
    .tcpip, .tcpip, .notify, .bt true true]

theorem flows_iff_talks :
    Flows (run TxTasks.step (TxTasks.boot .btsecOff) dialsThenTalks) := by
  have possible :
      Along TxTasks.step TxPossible (TxTasks.boot .btsecOff)
        dialsThenTalks := by
    refine
      ⟨⟨rfl, trivial, by decide, id⟩, ⟨rfl, rfl⟩, trivial, trivial,
        ⟨rfl, trivial, trivial⟩, ⟨rfl, rfl, ?_⟩, ⟨rfl, trivial, trivial⟩, rfl,
        trivial, trivial, trivial, ⟨rfl, rfl⟩, trivial, trivial⟩
    decide
  have leaves :
      Along TxTasks.step LeavesNone (TxTasks.boot .btsecOff)
        dialsThenTalks := by
    refine
      ⟨trivial, trivial, trivial, trivial, trivial, ?_, trivial, trivial,
        trivial, trivial, trivial, trivial, trivial, trivial⟩
    exact fun _ _ _ some => absurd rfl some
  exact (flows_iff .btsecOff possible).mpr leaves dialsThenTalks
    (List.prefix_refl dialsThenTalks)

/-- The same, but the phone does not wait for the `OK`: one event answers the
request of the handshake and that of PPP's byte. -/
def talksAtOnce : List TxEvent :=
  [.other (.incoming 1 7 (Vector.replicate 6 1) true), .opened 1 7,
    .bt true true, .bt true true, .other (.data 1 [0x41, 0x54]),
    .other (.data 1 [0x7E]), .pppOutput [0x7E], .tcpip, .tcpip, .tcpip, .notify,
    .bt true true, .canSendNow 1 0 0]

/-- The `OK` goes out and the byte stays. -/
theorem talksAtOnce_stalls :
    Along TxTasks.step TxPossible (TxTasks.boot .btsecOff) talksAtOnce ∧
      (run TxTasks.step (TxTasks.boot .btsecOff) talksAtOnce).link.pppTxStream =
        [0x7E] ∧
      ¬ Flows (run TxTasks.step (TxTasks.boot .btsecOff) talksAtOnce) := by
  have possible :
      Along TxTasks.step TxPossible (TxTasks.boot .btsecOff) talksAtOnce := by
    refine
      ⟨⟨rfl, trivial, by decide, id⟩, ⟨rfl, rfl⟩, trivial, trivial,
        ⟨rfl, trivial, trivial⟩, ⟨rfl, trivial, trivial⟩, rfl, trivial, trivial,
        trivial, ⟨rfl, rfl⟩, trivial, ⟨rfl, rfl, ?_⟩, trivial⟩
    decide
  refine ⟨possible, by decide, fun flows => ?_⟩
  rcases flows rfl rfl rfl (by decide) with queued | requested
  · exact absurd queued (by decide)
  · exact absurd requested (by decide)

end VeteraBridge.Link

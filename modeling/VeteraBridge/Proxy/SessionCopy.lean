import VeteraBridge.Proxy.SessionStream

/-!
# Sessions pass their streams on

Every session function keeps a session's buffers in step with the record of its
sockets, or closes the session with a faithful record; so does every step of
the relay task.
-/

namespace VeteraBridge.Proxy

open CopyBuffer EventRun

section Functions

variable {c : SessCtx}

/-- Where a session function leaves a session whose host is known: the session
is over, or it goes on with the same request. -/
inductive Leaves (tls : Bool) (origIp : UInt32) (host : List UInt8)
    (c : SessCtx) : Prop
  | finished (ended : c.s.used = false)
      (recorded : Recorded tls origIp host c.tr)
  | goesOn (sameTls : c.s.tls = tls) (sameIp : c.s.origIp = origIp)
      (sameHost : c.s.host = host) (past : c.s.st ≠ .head)
      (coupled : Coupled c.s c.tr)

theorem Leaves.records {tls : Bool} {origIp : UInt32} {host : List UInt8}
    (leaves : Leaves tls origIp host c) : Records c := by
  cases leaves with
  | finished ended recorded =>
      exact Records.finished ended tls origIp host recorded
  | goesOn _ _ _ _ coupled =>
      exact Records.goesOn coupled

theorem Leaves.congr {s : Sess} (leaves : Leaves s.tls s.origIp s.host c)
    {tls : Bool} {origIp : UInt32} {host : List UInt8} (sameTls : s.tls = tls)
    (sameIp : s.origIp = origIp) (sameHost : s.host = host) :
    Leaves tls origIp host c := by
  rw [← sameTls, ← sameIp, ← sameHost]
  exact leaves

/-! ### Closing -/

theorem Recorded.closes {tls : Bool} {origIp : UInt32} {host : List UInt8}
    {tr : List IoEvent} (recorded : Recorded tls origIp host tr)
    (sameTr : c.tr = tr) (io : SessIo) {why : String}
    (notDone : why ≠ "done") :
    Leaves tls origIp host (sessClose io why c) := by
  subst sameTr
  refine Leaves.finished rfl ?_
  exact recorded.noBytes (plain_closed notDone) (noBytes_closed why)

/-! ### Connecting -/

theorem sent_prefix (res : SendRes) (b : List UInt8) : res.sent b <+: b := by
  cases res with
  | wrote n =>
      exact List.take_prefix n b
  | again =>
      exact List.nil_prefix
  | failed =>
      exact List.nil_prefix

/-- On an HTTP connection the rewritten head waits in the buffer. -/
theorem SpliceStage.of_connect {s : Sess} {tr : List IoEvent}
    (stage : ConnectStage s tr) (isHttp : s.tls = false) :
    SpliceStage { s with up := ⟨s.up.data, 0⟩ } tr := by
  obtain ⟨recorded, quiet, passesOn, up, down⟩ := stage
  have carriesUp :
      Carries (upstream s.tls s.origIp s.host) ⟨s.up.data, 0⟩ (phIn tr)
        (pxOut tr) := by
    refine ⟨passesOn, ?_⟩
    change pxOut tr ++ s.up.data = _
    rw [quiet.pxOut, ← up, preface, isHttp]
    rfl
  have carriesDown :
      Carries (downstream s.tls) s.down (pxIn tr) (phOut tr) := by
    rw [isHttp]
    refine ⟨fun more => rfl, ?_⟩
    rw [quiet.phOut, quiet.pxIn, pending_of_data_nil down]
    rfl
  exact ⟨recorded, carriesUp, carriesDown⟩

/-- After the reply to CONNECT both directions are copied as they are. -/
theorem SpliceStage.of_reply {s : Sess} {tr : List IoEvent}
    (stage : ReplyStage s tr) {e : Nat}
    (found : findCrlf2 s.down.data = some e) :
    SpliceStage
      { s with up := ⟨s.up.data, 0⟩, down := ⟨s.down.data.drop (e + 4), 0⟩ }
      tr := by
  have carriesUp :
      Carries (upstream s.tls s.origIp s.host) ⟨s.up.data, 0⟩ (phIn tr)
        (pxOut tr) := by
    rw [stage.isTls]
    refine ⟨fun more => (List.append_assoc _ _ _).symm, ?_⟩
    change pxOut tr ++ s.up.data = _
    rw [stage.pxOut, stage.up]
    rfl
  have carriesDown :
      Carries (downstream s.tls) ⟨s.down.data.drop (e + 4), 0⟩ (pxIn tr)
        (phOut tr) := by
    rw [stage.isTls]
    rw [stage.down] at found ⊢
    refine ⟨afterReply_passesOn found, ?_⟩
    change phOut tr ++ (pxIn tr).drop (e + 4) = afterReply (pxIn tr)
    simp only [stage.phOut, List.nil_append, afterReply, found]
  exact ⟨stage.recorded, carriesUp, carriesDown⟩

theorem onConnected_leaves (io : SessIo) (now : UInt32)
    (stage : ConnectStage c.s c.tr) (eofs : EofsNoted c.s c.tr) :
    Leaves c.s.tls c.s.origIp c.s.host (onConnected io now c) := by
  unfold onConnected
  split
  · next isTls =>
    obtain ⟨recorded, quiet, _, up, _⟩ := stage
    have upData : c.s.up.data = phIn c.tr := by
      simpa [preface, upstream, isTls] using up
    dsimp only
    split
    · exact recorded.closes (by rfl) io (by simp)
    · next fits =>
      generalize sending : io.sendConnect.sent (connectRequest c.s.host) = sent
      have isPrefix : sent <+: connectRequest c.s.host := by
        rw [← sending]
        exact sent_prefix _ _
      have logged :
          Recorded c.s.tls c.s.origIp c.s.host (c.tr ++ [.pxSend sent]) := by
        apply recorded.plain ⟨IoEvent.noConfusion, IoEvent.noConfusion⟩
        · rw [pxOut_append, quiet.pxOut, isTls]
          simpa [upstream] using
            isPrefix.trans (List.prefix_append _ (phIn c.tr))
        · rw [phOut_append, quiet.phOut]
          exact List.nil_prefix
      split
      · exact logged.closes (by rfl) io (by simp)
      · next whole =>
        have isWhole : sent = connectRequest c.s.host :=
          isPrefix.eq_of_length (not_not.mp whole)
        have noted := eofs.append [.pxSend sent]
        refine
          Leaves.goesOn rfl rfl rfl SessState.noConfusion
            ⟨⟨noted.phEof, noted.pxEof⟩, logged, isTls, ?_, ?_, ?_, ?_⟩
        · change pxOut (c.tr ++ [.pxSend sent]) = connectRequest c.s.host
          simp [quiet.pxOut, isWhole]
        · change phOut (c.tr ++ [.pxSend sent]) = []
          simp [quiet.phOut]
        · change c.s.up.data = phIn (c.tr ++ [.pxSend sent])
          simp [upData]
        · change [] = pxIn (c.tr ++ [.pxSend sent])
          simp [quiet.pxIn]
  · next notTls =>
    have direct := SpliceStage.of_connect stage (Bool.eq_false_iff.mpr notTls)
    exact
      Leaves.goesOn rfl rfl rfl SessState.noConfusion
        ⟨⟨eofs.phEof, eofs.pxEof⟩, direct.recorded, direct.up, direct.down⟩

theorem startConnect_leaves (io : SessIo) (now : UInt32)
    (stage : ConnectStage c.s c.tr) (eofs : EofsNoted c.s c.tr) :
    Leaves c.s.tls c.s.origIp c.s.host (startConnect io now c) := by
  unfold startConnect
  dsimp only
  split
  · exact stage.recorded.closes (by rfl) io (by simp)
  · split
    · exact stage.recorded.closes (by rfl) io (by simp)
    · split
      · refine Leaves.congr (onConnected_leaves io now ?_ ?_) rfl rfl rfl
        · exact
            ⟨stage.recorded, stage.quiet, stage.passesOn, stage.up,
              stage.down⟩
        · exact ⟨eofs.phEof, eofs.pxEof⟩
      · exact
          Leaves.goesOn rfl rfl rfl SessState.noConfusion
            ⟨⟨eofs.phEof, eofs.pxEof⟩, stage.recorded, stage.quiet,
              stage.passesOn, stage.up, stage.down⟩
      · exact stage.recorded.closes (by rfl) io (by simp)

/-! ### Reading the request and the reply -/

theorem HeadStage.phRecv {s : Sess} {tr : List IoEvent}
    (stage : HeadStage s tr) (b : List UInt8) :
    HeadStage { s with up := ⟨s.up.data ++ b, s.up.off⟩ }
      (tr ++ [.phRecv b]) := by
  obtain ⟨accepted, faithful, ⟨noPxOut, noPhOut, noPxIn⟩, up, down⟩ := stage
  refine
    ⟨head?_snoc accepted, ?_, ⟨?_, ?_, ?_⟩, ?_, down⟩
  · intro host
    apply (faithful host).snoc
    apply Faithful.snoc
    · simp [noPxOut]
    · simp [noPhOut]
    · exact IoEvent.noConfusion
    · exact IoEvent.noConfusion
  · simp [noPxOut]
  · simp [noPhOut]
  · simp [noPxIn]
  · simp [up]

theorem ReplyStage.pxRecv {s : Sess} {tr : List IoEvent}
    (stage : ReplyStage s tr) (b : List UInt8) :
    ReplyStage { s with down := ⟨s.down.data ++ b, s.down.off⟩ }
      (tr ++ [.pxRecv b]) := by
  obtain ⟨recorded, isTls, sent, noPhOut, up, down⟩ := stage
  refine ⟨recorded.plain ⟨IoEvent.noConfusion, IoEvent.noConfusion⟩ ?_ ?_,
    isTls, ?_, ?_, ?_, ?_⟩
  · simpa using recorded.faithful.now.up
  · simp [noPhOut]
  · simp [sent]
  · simp [noPhOut]
  · simp [up]
  · simp [down]

theorem headReady_records (io : SessIo) (now : UInt32)
    (isHead : c.s.st = .head) (stage : HeadStage c.s c.tr)
    (eofs : EofsNoted c.s c.tr) : Records (headReady io now c) := by
  have waits : Records c := by
    refine Records.goesOn ⟨eofs, ?_⟩
    rw [Stage, isHead]
    exact stage
  unfold headReady
  dsimp only
  split
  · next isTls =>
    split
    · exact waits
    · split
      · exact waits
      · apply (startConnect_leaves io now _ _).records
        · refine ⟨stage.recorded ?_, stage.quiet, ?_, ?_, stage.down⟩
          · intro _
            refine ⟨phIn c.tr, List.prefix_rfl, ?_⟩
            simp only [SessCtx.withSess, stage.up]
          · intro more
            simp [SessCtx.withSess, upstream, isTls]
          · simp [SessCtx.withSess, preface, upstream, isTls, stage.up]
        · exact ⟨eofs.phEof, eofs.pxEof⟩
  · next notTls =>
    have isHttp : c.s.tls = false := by simpa using notTls
    split
    · split
      · exact (stage.recorded_any.closes (by rfl) io (by simp)).records
      · exact waits
    · next e found =>
      split
      · exact (stage.recorded_any.closes (by rfl) io (by simp)).records
      · split
        · exact (stage.recorded_any.closes (by rfl) io (by simp)).records
        · next head host rewritten =>
          have fits : upCap - (c.s.up.data.drop (e + 4)).length ≤ upCap :=
            Nat.sub_le _ _
          rw [stage.up] at found rewritten fits
          apply (startConnect_leaves io now _ _).records
          · refine ⟨stage.recorded ?_, stage.quiet, ?_, ?_, stage.down⟩
            · intro isTls
              exact absurd isTls notTls
            · simp only [SessCtx.withSess, SessCtx.withOs, isHttp]
              exact httpUpstream_passesOn found fits rewritten
            · simp only [SessCtx.withSess, SessCtx.withOs, isHttp, upstream,
                preface, stage.up]
              exact (httpUpstream_eq found fits rewritten).symm
          · exact ⟨eofs.phEof, eofs.pxEof⟩

theorem replyReady_leaves (io : SessIo) (now : UInt32)
    (isReply : c.s.st = .reply) (stage : ReplyStage c.s c.tr)
    (eofs : EofsNoted c.s c.tr) :
    Leaves c.s.tls c.s.origIp c.s.host (replyReady io now c) := by
  unfold replyReady
  dsimp only
  split
  · split
    · exact stage.recorded.closes (by rfl) io (by simp)
    · have past : c.s.st ≠ .head := by
        rw [isReply]
        exact SessState.noConfusion
      refine Leaves.goesOn rfl rfl rfl past ⟨eofs, ?_⟩
      rw [Stage, isReply]
      exact stage
  · next e found =>
    split
    · have copies := SpliceStage.of_reply stage found
      exact
        Leaves.goesOn rfl rfl rfl SessState.noConfusion
          ⟨⟨eofs.phEof, eofs.pxEof⟩, copies.recorded, copies.up, copies.down⟩
    · exact stage.recorded.closes (by rfl) io (by simp)

/-! ### Copying -/

def PumpEvent.input : PumpEvent → List UInt8
  | .got b => b
  | _ => []

def PumpEvent.output : PumpEvent → List UInt8
  | .sent b => b
  | _ => []

/-- One direction of `splice` carries its stream on, and notes the end of the
stream when it meets it. -/
theorem pump_carries {owed : List UInt8 → List UInt8} {size : Nat}
    {writable readable : Bool} {send : SendRes} {recv : RecvRes}
    {buffer after : CopyBuffer UInt8} {eof eofAfter moved : Bool}
    {event : PumpEvent} {input output : List UInt8}
    (carries : Carries owed buffer input output)
    (pumped :
      pump size writable readable send recv buffer eof =
        .ok after eofAfter moved event) :
    Carries owed after (input ++ event.input) (output ++ event.output) ∧
      (eofAfter = true → eof = true ∨ event = .eof) := by
  have idles :
      Carries owed buffer (input ++ PumpEvent.idle.input)
        (output ++ PumpEvent.idle.output) := by
    simpa [PumpEvent.input, PumpEvent.output] using carries
  cases pump_pumped pumped with
  | idles =>
      exact ⟨idles, Or.inl⟩
  | sends n _ =>
      refine ⟨?_, Or.inl⟩
      simp only [PumpEvent.input, PumpEvent.output, List.append_nil]
      exact carries.drain n
  | ends =>
      refine ⟨?_, fun _ => Or.inr rfl⟩
      simpa [PumpEvent.input, PumpEvent.output] using carries
  | receives drained b _ _ =>
      refine ⟨?_, Or.inl⟩
      have filled := carries.fill drained b
      simpa [PumpEvent.input, PumpEvent.output] using filled

theorem upEvents_bytes (tr : List IoEvent) (event : PumpEvent) :
    phIn (tr ++ upEvents event) = phIn tr ++ event.input ∧
      pxOut (tr ++ upEvents event) = pxOut tr ++ event.output ∧
      pxIn (tr ++ upEvents event) = pxIn tr ∧
      phOut (tr ++ upEvents event) = phOut tr := by
  cases event <;>
    simp [upEvents, PumpEvent.input, PumpEvent.output]

theorem downEvents_bytes (tr : List IoEvent) (event : PumpEvent) :
    pxIn (tr ++ downEvents event) = pxIn tr ++ event.input ∧
      phOut (tr ++ downEvents event) = phOut tr ++ event.output ∧
      phIn (tr ++ downEvents event) = phIn tr ∧
      pxOut (tr ++ downEvents event) = pxOut tr := by
  cases event <;>
    simp [downEvents, PumpEvent.input, PumpEvent.output]

/-- The deadline is no part of what a session owes. -/
theorem Leaves.withDeadline {tls : Bool} {origIp : UInt32}
    {host : List UInt8} (leaves : Leaves tls origIp host c)
    (deadline : UInt32) :
    Leaves tls origIp host (c.withSess { c.s with deadline := deadline }) := by
  cases leaves with
  | finished ended recorded =>
      exact Leaves.finished ended recorded
  | goesOn sameTls sameIp sameHost past coupled =>
      have eofs := coupled.eofs
      have stage := coupled.stage
      refine
        Leaves.goesOn sameTls sameIp sameHost past
          ⟨⟨eofs.phEof, eofs.pxEof⟩, ?_⟩
      unfold Stage at stage ⊢
      dsimp only [SessCtx.withSess]
      split at stage
      · next state =>
        simp only [state]
        exact
          ⟨stage.accepted, stage.faithful, stage.quiet, stage.up, stage.down⟩
      · next state =>
        simp only [state]
        exact
          ⟨stage.recorded, stage.quiet, stage.passesOn, stage.up, stage.down⟩
      · next state =>
        simp only [state]
        exact
          ⟨stage.recorded, stage.isTls, stage.pxOut, stage.phOut, stage.up,
            stage.down⟩
      · next state =>
        simp only [state]
        exact ⟨stage.recorded, stage.up, stage.down⟩

theorem SpliceStage.goesOn (stage : SpliceStage c.s c.tr)
    (isSplice : c.s.st = .splice) (eofs : EofsNoted c.s c.tr) :
    Leaves c.s.tls c.s.origIp c.s.host c := by
  have past : c.s.st ≠ .head := by
    rw [isSplice]
    exact SessState.noConfusion
  refine Leaves.goesOn rfl rfl rfl past ⟨eofs, ?_⟩
  rw [Stage, isSplice]
  exact stage

/-- What one direction adds to the record: nothing, or one plain event. -/
def AtMostOne (events : List IoEvent) : Prop :=
  events = [] ∨ ∃ event, events = [event] ∧ Plain event

theorem upEvents_atMostOne (event : PumpEvent) :
    AtMostOne (upEvents event) := by
  cases event with
  | idle =>
      exact Or.inl rfl
  | sent b =>
      exact Or.inr ⟨_, rfl, IoEvent.noConfusion, IoEvent.noConfusion⟩
  | got b =>
      exact Or.inr ⟨_, rfl, IoEvent.noConfusion, IoEvent.noConfusion⟩
  | eof =>
      exact Or.inr ⟨_, rfl, IoEvent.noConfusion, IoEvent.noConfusion⟩

theorem downEvents_atMostOne (event : PumpEvent) :
    AtMostOne (downEvents event) := by
  cases event with
  | idle =>
      exact Or.inl rfl
  | sent b =>
      exact Or.inr ⟨_, rfl, IoEvent.noConfusion, IoEvent.noConfusion⟩
  | got b =>
      exact Or.inr ⟨_, rfl, IoEvent.noConfusion, IoEvent.noConfusion⟩
  | eof =>
      exact Or.inr ⟨_, rfl, IoEvent.noConfusion, IoEvent.noConfusion⟩

/-- A record whose streams are still carried stays faithful. -/
theorem Recorded.extend {tls : Bool} {origIp : UInt32} {host : List UInt8}
    {tr events : List IoEvent} (recorded : Recorded tls origIp host tr)
    (atMostOne : AtMostOne events) {up down : CopyBuffer UInt8}
    (carriesUp :
      Carries (upstream tls origIp host) up (phIn (tr ++ events))
        (pxOut (tr ++ events)))
    (carriesDown :
      Carries (downstream tls) down (pxIn (tr ++ events))
        (phOut (tr ++ events))) :
    Recorded tls origIp host (tr ++ events) := by
  rcases atMostOne with rfl | ⟨event, rfl, plain⟩
  · rw [List.append_nil]
    exact recorded
  · exact
      recorded.plain plain carriesUp.output_prefix carriesDown.output_prefix

theorem SpliceStage.pumpUp {s : Sess} {tr : List IoEvent}
    (stage : SpliceStage s tr) {writable readable : Bool} {send : SendRes}
    {recv : RecvRes} {up : CopyBuffer UInt8} {phEof moved : Bool}
    {event : PumpEvent}
    (pumped :
      pump upSz writable readable send recv s.up s.phEof =
        .ok up phEof moved event) :
    SpliceStage { s with up := up, phEof := phEof }
      (tr ++ upEvents event) := by
  obtain ⟨input, output, sameInput, sameOutput⟩ := upEvents_bytes tr event
  have carriesUp :
      Carries (upstream s.tls s.origIp s.host) up
        (phIn (tr ++ upEvents event)) (pxOut (tr ++ upEvents event)) := by
    rw [input, output]
    exact (pump_carries stage.up pumped).1
  have carriesDown :
      Carries (downstream s.tls) s.down (pxIn (tr ++ upEvents event))
        (phOut (tr ++ upEvents event)) := by
    rw [sameInput, sameOutput]
    exact stage.down
  exact
    ⟨stage.recorded.extend (upEvents_atMostOne event) carriesUp carriesDown,
      carriesUp, carriesDown⟩

theorem SpliceStage.pumpDown {s : Sess} {tr : List IoEvent}
    (stage : SpliceStage s tr) {writable readable : Bool} {send : SendRes}
    {recv : RecvRes} {down : CopyBuffer UInt8} {pxEof moved : Bool}
    {event : PumpEvent}
    (pumped :
      pump downSz writable readable send recv s.down s.pxEof =
        .ok down pxEof moved event) :
    SpliceStage { s with down := down, pxEof := pxEof }
      (tr ++ downEvents event) := by
  obtain ⟨input, output, sameInput, sameOutput⟩ := downEvents_bytes tr event
  have carriesUp :
      Carries (upstream s.tls s.origIp s.host) s.up
        (phIn (tr ++ downEvents event)) (pxOut (tr ++ downEvents event)) := by
    rw [sameInput, sameOutput]
    exact stage.up
  have carriesDown :
      Carries (downstream s.tls) down (pxIn (tr ++ downEvents event))
        (phOut (tr ++ downEvents event)) := by
    rw [input, output]
    exact (pump_carries stage.down pumped).1
  exact
    ⟨stage.recorded.extend (downEvents_atMostOne event) carriesUp carriesDown,
      carriesUp, carriesDown⟩

theorem EofsNoted.pumpUp {s : Sess} {tr : List IoEvent}
    (eofs : EofsNoted s tr) (up : CopyBuffer UInt8) {phEof : Bool}
    {event : PumpEvent}
    (noted : phEof = true → s.phEof = true ∨ event = .eof) :
    EofsNoted { s with up := up, phEof := phEof } (tr ++ upEvents event) := by
  refine ⟨?_, (eofs.append _).pxEof⟩
  intro isEof
  rcases noted isEof with before | rfl
  · exact (eofs.append _).phEof before
  · exact List.mem_append_right tr (List.mem_singleton_self _)

theorem EofsNoted.pumpDown {s : Sess} {tr : List IoEvent}
    (eofs : EofsNoted s tr) (down : CopyBuffer UInt8) {pxEof : Bool}
    {event : PumpEvent}
    (noted : pxEof = true → s.pxEof = true ∨ event = .eof) :
    EofsNoted { s with down := down, pxEof := pxEof }
      (tr ++ downEvents event) := by
  refine ⟨(eofs.append _).phEof, ?_⟩
  intro isEof
  rcases noted isEof with before | rfl
  · exact (eofs.append _).pxEof before
  · exact List.mem_append_right tr (List.mem_singleton_self _)

/-- `shutdown(px, SHUT_WR)` with a drained buffer. -/
theorem SpliceStage.shut {s : Sess} {tr : List IoEvent}
    (stage : SpliceStage s tr) (eofs : EofsNoted s tr)
    (phEof : s.phEof = true) (drained : s.up.pending = []) :
    SpliceStage { s with pxShut := true } (tr ++ [.pxShut]) := by
  obtain ⟨recorded, carriesUp, carriesDown⟩ := stage
  have sent := carriesUp.output_eq drained
  have shutUp :
      Carries (upstream s.tls s.origIp s.host) s.up (phIn (tr ++ [.pxShut]))
        (pxOut (tr ++ [.pxShut])) := by
    simpa using carriesUp
  have shutDown :
      Carries (downstream s.tls) s.down (pxIn (tr ++ [.pxShut]))
        (phOut (tr ++ [.pxShut])) := by
    simpa using carriesDown
  refine ⟨recorded.snoc ?_, shutUp, shutDown⟩
  exact
    Faithful.snoc shutUp.output_prefix shutDown.output_prefix
      (fun _ => ⟨eofs.phEof phEof, sent⟩) IoEvent.noConfusion

/-- Closing a session as done when the phone has got everything. -/
theorem SpliceStage.done (stage : SpliceStage c.s c.tr)
    (eofs : EofsNoted c.s c.tr) (pxEof : c.s.pxEof = true)
    (drained : c.s.down.pending = []) (io : SessIo) :
    Leaves c.s.tls c.s.origIp c.s.host (sessClose io "done" c) := by
  obtain ⟨recorded, carriesUp, carriesDown⟩ := stage
  have sent := carriesDown.output_eq drained
  refine Leaves.finished rfl ?_
  apply recorded.snoc
  apply Faithful.snoc
  · simpa using carriesUp.output_prefix
  · simpa using carriesDown.output_prefix
  · exact IoEvent.noConfusion
  · exact fun _ => ⟨eofs.pxEof pxEof, sent⟩

theorem spliceEnd_leaves (io : SessIo) (now : UInt32) (moved : Bool)
    (isSplice : c.s.st = .splice) (stage : SpliceStage c.s c.tr)
    (eofs : EofsNoted c.s c.tr) :
    Leaves c.s.tls c.s.origIp c.s.host (spliceEnd io now moved c) := by
  have after :
      (passEof c).s.st = .splice ∧ SpliceStage (passEof c).s (passEof c).tr ∧
        EofsNoted (passEof c).s (passEof c).tr := by
    unfold passEof
    split
    · next ends =>
      have drained : c.s.up.pending = [] :=
        pending_of_data_nil (List.length_eq_zero_iff.mp ends.2.1)
      have noted := eofs.append [.pxShut]
      exact
        ⟨isSplice, stage.shut eofs ends.1 drained, noted.phEof, noted.pxEof⟩
    · exact ⟨isSplice, stage, eofs⟩
  have same :
      (passEof c).s.tls = c.s.tls ∧ (passEof c).s.origIp = c.s.origIp ∧
        (passEof c).s.host = c.s.host := by
    unfold passEof
    split
    · exact ⟨rfl, rfl, rfl⟩
    · exact ⟨rfl, rfl, rfl⟩
  obtain ⟨isSplice, stage, eofs⟩ := after
  rw [← same.1, ← same.2.1, ← same.2.2, spliceEnd_eq]
  split
  · next ends =>
    have drained : (passEof c).s.down.pending = [] :=
      pending_of_data_nil (List.length_eq_zero_iff.mp ends.2)
    exact stage.done eofs ends.1 drained io
  · split
    · exact (stage.goesOn isSplice eofs).withDeadline (now + idleMs)
    · exact stage.goesOn isSplice eofs

theorem splice_leaves (io : SessIo) (rd wr : Int → Bool) (now : UInt32)
    (isSplice : c.s.st = .splice) (stage : SpliceStage c.s c.tr)
    (eofs : EofsNoted c.s c.tr) :
    Leaves c.s.tls c.s.origIp c.s.host (splice io rd wr now c) := by
  unfold splice
  split
  · exact stage.recorded.closes (by rfl) io (by simp)
  · exact stage.recorded.closes (by rfl) io (by simp)
  · next up phEof movedUp event upPumped =>
    have afterUp := stage.pumpUp upPumped
    have eofsUp := eofs.pumpUp up (pump_carries stage.up upPumped).2
    dsimp only
    split
    · exact afterUp.recorded.closes (by rfl) io (by simp)
    · exact afterUp.recorded.closes (by rfl) io (by simp)
    · next down pxEof movedDown event downPumped =>
      have afterDown := afterUp.pumpDown downPumped
      have eofsDown :=
        eofsUp.pumpDown down (pump_carries afterUp.down downPumped).2
      refine
        Leaves.congr (spliceEnd_leaves io now _ ?_ ?_ ?_) rfl rfl rfl
      · exact isSplice
      · exact afterDown
      · exact eofsDown

/-! ### One service call -/

/-- A service call of a session whose host is known. -/
theorem sessService_leaves (io : SessIo) (rd wr : Int → Bool) (now : UInt32)
    (coupled : Coupled c.s c.tr) (past : c.s.st ≠ .head) :
    Leaves c.s.tls c.s.origIp c.s.host (sessService io rd wr now c) := by
  have unchanged : Leaves c.s.tls c.s.origIp c.s.host c :=
    Leaves.goesOn rfl rfl rfl past coupled
  obtain ⟨eofs, stage⟩ := coupled
  unfold sessService
  cases state : c.s.st with
  | head =>
      exact absurd state past
  | connecting =>
      rw [Stage, state] at stage
      dsimp only at stage ⊢
      split
      · split
        · exact stage.recorded.closes (by rfl) io (by simp)
        · exact onConnected_leaves io now stage eofs
      · exact unchanged
  | reply =>
      rw [Stage, state] at stage
      dsimp only at stage ⊢
      split
      · split
        · exact stage.recorded.closes (by rfl) io (by simp)
        · exact unchanged
        · next b _ =>
          split
          · have ended :=
              stage.recorded.noBytes
                (⟨IoEvent.noConfusion, IoEvent.noConfusion⟩ : Plain .pxEof)
                ⟨rfl, rfl, rfl, rfl⟩
            exact ended.closes (by rfl) io (by simp)
          · have noted := eofs.append [.pxRecv b]
            refine Leaves.congr (replyReady_leaves io now ?_ ?_ ?_) rfl rfl rfl
            · exact state
            · exact stage.pxRecv b
            · exact ⟨noted.phEof, noted.pxEof⟩
      · exact unchanged
  | splice =>
      rw [Stage, state] at stage
      exact splice_leaves io rd wr now state stage eofs

theorem sessService_records (io : SessIo) (rd wr : Int → Bool) (now : UInt32)
    (coupled : Coupled c.s c.tr) :
    Records (sessService io rd wr now c) := by
  by_cases state : c.s.st = .head
  · have unchanged : Records c := Records.goesOn coupled
    obtain ⟨eofs, stage⟩ := coupled
    rw [Stage, state] at stage
    unfold sessService
    rw [state]
    dsimp only at stage ⊢
    split
    · split
      · exact (stage.recorded_any.closes (by rfl) io (by simp)).records
      · exact unchanged
      · next b _ =>
        split
        · have ended :=
            stage.recorded_any.noBytes
              (⟨IoEvent.noConfusion, IoEvent.noConfusion⟩ : Plain .phEof)
              ⟨rfl, rfl, rfl, rfl⟩
          exact (ended.closes (by rfl) io (by simp)).records
        · have noted := eofs.append [.phRecv b]
          exact
            headReady_records io now state (stage.phRecv b)
              ⟨noted.phEof, noted.pxEof⟩
    · exact unchanged
  · exact (sessService_leaves io rd wr now coupled state).records

end Functions

/-! ## The relay task -/

namespace Relay

/-- The record of a slot: nothing, or that of a session. -/
def HasRecord (tr : List IoEvent) : Prop :=
  tr = [] ∨ ∃ tls origIp host, Recorded tls origIp host tr

/-- Each session in use fits its record. -/
structure Streaming (w : Relay) : Prop where
  coupled :
    ∀ i, (w.sess i).used = true → Coupled (w.sess i) (w.record.tr i)
  recorded : ∀ i, HasRecord (w.record.tr i)

variable {w : Relay}

/-- The task after a session function has left a session and its record. -/
theorem Streaming.reassign (streaming : w.Streaming) (i : Fin sessMax)
    {c : SessCtx} {after : Relay} (records : Records c)
    (sess : after.sess = Function.update w.sess i c.s)
    (tr : after.record.tr = Function.update w.record.tr i c.tr) :
    after.Streaming := by
  constructor
  · intro k
    by_cases here : k = i
    · subst here
      rw [sess, tr, Function.update_self, Function.update_self]
      intro isUsed
      cases records with
      | finished ended _ _ _ _ =>
          rw [ended] at isUsed
          cases isUsed
      | goesOn coupled =>
          exact coupled
    · rw [sess, tr, Function.update_of_ne here, Function.update_of_ne here]
      exact streaming.coupled k
  · intro k
    by_cases here : k = i
    · subst here
      rw [tr, Function.update_self]
      cases records with
      | finished _ tls origIp host recorded =>
          exact Or.inr ⟨tls, origIp, host, recorded⟩
      | goesOn coupled =>
          obtain ⟨host, recorded⟩ := coupled.recorded
          exact Or.inr ⟨_, _, host, recorded⟩
    · rw [tr, Function.update_of_ne here]
      exact streaming.recorded k

theorem Streaming.congr {after : Relay} (streaming : w.Streaming)
    (sess : after.sess = w.sess) (tr : after.record.tr = w.record.tr) :
    after.Streaming := by
  constructor
  · rw [sess, tr]
    exact streaming.coupled
  · rw [tr]
    exact streaming.recorded

theorem newSess_records (tls : Bool) (conn : Int) (pport : UInt16)
    (origIp : UInt32) (mem : Nat) (now : UInt32) :
    Coupled (newSess tls conn pport origIp mem now) [.accepted tls origIp] := by
  refine ⟨⟨Bool.noConfusion, Bool.noConfusion⟩, ?_⟩
  refine ⟨rfl, ?_, ⟨rfl, rfl, rfl⟩, rfl, rfl⟩
  intro host
  apply atAllTimes_singleton
  · refine ⟨List.nil_prefix, List.nil_prefix, ?_, ?_⟩
    · intro front same
      exact absurd same (List.append_ne_nil_of_right_ne_nil _ (by simp)).symm
    · intro front same
      exact absurd same (List.append_ne_nil_of_right_ne_nil _ (by simp)).symm
  · rw [← List.nil_append [IoEvent.accepted tls origIp]]
    exact
      Faithful.snoc List.nil_prefix List.nil_prefix IoEvent.noConfusion
        IoEvent.noConfusion

theorem Streaming.doAccept (streaming : w.Streaming) (tls : Bool)
    (io : AcceptIo) (now : UInt32) : (w.doAccept tls io now).Streaming := by
  have outcome := doAccept_outcome w tls io now
  generalize w.doAccept tls io now = after at *
  cases outcome with
  | nothing _ =>
      exact streaming.congr rfl rfl
  | noSlot _ _ =>
      exact streaming.congr rfl rfl
  | noMemory _ _ _ _ =>
      exact streaming.congr rfl rfl
  | begins i mem origIp _ _ _ _ =>
      let c : SessCtx :=
        { s := newSess tls io.conn io.pport origIp mem now
          shared := w.shared
          tr := [.accepted tls origIp] }
      have records : Records c :=
        Records.goesOn (newSess_records tls _ _ _ _ _)
      exact streaming.reassign i records rfl rfl

theorem Streaming.step (streaming : w.Streaming) (event : RelayEvent) :
    (w.step event).Streaming := by
  cases event with
  | outside event =>
      exact streaming.congr rfl rfl
  | service i io rd wr now =>
      simp only [Relay.step, Relay.service]
      split
      · next isUsed =>
        have records :=
          sessService_records (c := w.ctx i) io rd wr now
            (streaming.coupled i isUsed)
        exact streaming.reassign i records rfl rfl
      · exact streaming
  | accept tls io now =>
      exact streaming.doAccept tls io now
  | timeout i io now =>
      simp only [Relay.step, Relay.timeout]
      split
      · next expired =>
        obtain ⟨host, recorded⟩ :=
          (streaming.coupled i expired.1).recorded
        have leaves :
            Leaves (w.sess i).tls (w.sess i).origIp host
              (sessTimeout io (w.ctx i)) := by
          unfold sessTimeout
          split <;> exact recorded.closes (by rfl) io (by simp)
        exact streaming.reassign i leaves.records rfl rfl
      · exact streaming

/-- At every moment of every run of the relay task, whatever the system calls
answer and however their outcomes are interleaved, the record of every session
is faithful at all times: what went to the proxy is a prefix of the rewritten
head and the rest of what the phone sent, or of the CONNECT request and
everything the phone sent; what went to the phone is a prefix of what the proxy
sent, after the reply to CONNECT; the end of the phone's stream was passed on
after all its bytes; and a session that is done has passed on all the proxy's
bytes. -/
theorem sessions_pass_streams (http tls : ListenIo) (rd : Redirector)
    (events : List RelayEvent) (i : Fin sessMax) :
    HasRecord
      ((run step (proxyTaskStart http tls rd) events).record.tr i) := by
  have start : (proxyTaskStart http tls rd).Streaming := by
    constructor
    · intro k isUsed
      cases isUsed
    · intro k
      exact Or.inl rfl
  have streaming :=
    run_invariant Streaming (fun _ event streaming => streaming.step event)
      start events
  exact streaming.recorded i

end Relay

end VeteraBridge.Proxy

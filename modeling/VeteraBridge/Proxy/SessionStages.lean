import VeteraBridge.Proxy.SessionCopy

/-!
# Stages and deadlines of a session

Each setup stage of a session has `SETUP_MS`, counted from when it was entered,
and copying has `IDLE_MS`, counted from when it began or last moved a byte.  A
call of `sess_service` sets the deadline exactly when it begins one of these
counts.
-/

namespace VeteraBridge.Proxy

/-- How long a session may stay in a stage. -/
def stageMs : SessState → UInt32
  | .splice => idleMs
  | .head => setupMs
  | .connecting => setupMs
  | .reply => setupMs

/-- How many bytes went over the sockets of a session. -/
def bytesMoved (tr : List IoEvent) : Nat :=
  (phIn tr).length + (phOut tr).length + (pxIn tr).length + (pxOut tr).length

/-- The session enters a stage, or moves a byte while it copies. -/
def startsStage (before after : SessCtx) : Bool :=
  after.s.used &&
    (!before.s.used || after.s.st != before.s.st ||
      (after.s.st == .splice && bytesMoved after.tr != bytesMoved before.tr))

/-- What a session function does to the stage of a session in use. -/
inductive StageStep (now : UInt32) (before : SessCtx) : SessCtx → Prop
  | ends (after : SessCtx) (gone : after.s.used = false) :
      StageStep now before after
  | stays (after : SessCtx) (sameSt : after.s.st = before.s.st)
      (sameDeadline : after.s.deadline = before.s.deadline)
      (quiet :
        before.s.st = .splice → bytesMoved after.tr = bytesMoved before.tr) :
      StageStep now before after
  | starts (after : SessCtx)
      (deadline : after.s.deadline = now + stageMs after.s.st)
      (isNew :
        after.s.st ≠ before.s.st ∨
          after.s.st = .splice ∧
            bytesMoved after.tr ≠ bytesMoved before.tr) :
      StageStep now before after

section Setup

variable {now : UInt32} {c middle after : SessCtx}

/-- In a setup stage the bytes that came in so far do not count. -/
theorem StageStep.of_setup (stage : StageStep now middle after)
    (setup : c.s.st ≠ .splice) (sameSt : middle.s.st = c.s.st)
    (sameDeadline : middle.s.deadline = c.s.deadline) :
    StageStep now c after := by
  cases stage with
  | ends gone =>
      exact StageStep.ends after gone
  | stays same deadline _ =>
      refine StageStep.stays after (same.trans sameSt)
        (deadline.trans sameDeadline) ?_
      exact fun isSplice => absurd isSplice setup
  | starts deadline isNew =>
      refine StageStep.starts after deadline (Or.inl ?_)
      rcases isNew with entered | ⟨isSplice, _⟩
      · rwa [sameSt] at entered
      · rw [isSplice]
        exact setup.symm

theorem StageStep.unchanged (sameSt : after.s.st = c.s.st)
    (sameDeadline : after.s.deadline = c.s.deadline)
    (setup : c.s.st ≠ .splice) : StageStep now c after :=
  StageStep.stays after sameSt sameDeadline fun isSplice =>
    absurd isSplice setup

theorem sessClose_stage (io : SessIo) (why : String) (last : SessCtx) :
    StageStep now c (sessClose io why last) :=
  StageStep.ends _ rfl

theorem sessFail_stage (io : SessIo) (why : String) (last : SessCtx) :
    StageStep now c (sessFail io why last) :=
  StageStep.ends _ rfl

theorem onConnected_stage (io : SessIo) (now : UInt32)
    (notReply : c.s.st ≠ .reply) (notSplice : c.s.st ≠ .splice) :
    StageStep now c (onConnected io now c) := by
  unfold onConnected
  split
  · dsimp only
    split
    · exact sessFail_stage io _ _
    · split
      · exact sessFail_stage io _ _
      · exact StageStep.starts _ rfl (Or.inl notReply.symm)
  · exact StageStep.starts _ rfl (Or.inl notSplice.symm)

theorem startConnect_stage (io : SessIo) (now : UInt32)
    (isHead : c.s.st = .head) : StageStep now c (startConnect io now c) := by
  have notReply : c.s.st ≠ .reply := by simp [isHead]
  have notSplice : c.s.st ≠ .splice := by simp [isHead]
  unfold startConnect
  dsimp only
  split
  · exact sessFail_stage io _ _
  · split
    · exact sessFail_stage io _ _
    · split
      · refine
          StageStep.of_setup (onConnected_stage io now ?_ ?_) notSplice (by rfl)
            (by rfl)
        · exact notReply
        · exact notSplice
      · refine StageStep.starts _ rfl (Or.inl ?_)
        simp [SessCtx.withSess, SessCtx.withOs, SessCtx.withResolver, isHead]
      · exact sessFail_stage io _ _

theorem headReady_stage (io : SessIo) (now : UInt32)
    (isHead : c.s.st = .head) : StageStep now c (headReady io now c) := by
  have setup : c.s.st ≠ .splice := by simp [isHead]
  unfold headReady
  dsimp only
  split
  · split
    · exact StageStep.unchanged rfl rfl setup
    · split
      · exact StageStep.unchanged rfl rfl setup
      · refine
          StageStep.of_setup (startConnect_stage io now ?_) setup (by rfl)
            (by rfl)
        exact isHead
  · split
    · split
      · exact sessFail_stage io _ _
      · exact StageStep.unchanged rfl rfl setup
    · split
      · exact sessFail_stage io _ _
      · split
        · exact sessFail_stage io _ _
        · refine
            StageStep.of_setup (startConnect_stage io now ?_) setup (by rfl)
              (by rfl)
          exact isHead

theorem replyReady_stage (io : SessIo) (now : UInt32)
    (isReply : c.s.st = .reply) : StageStep now c (replyReady io now c) := by
  have setup : c.s.st ≠ .splice := by simp [isReply]
  unfold replyReady
  dsimp only
  split
  · split
    · exact sessFail_stage io _ _
    · exact StageStep.unchanged rfl rfl setup
  · split
    · refine StageStep.starts _ rfl (Or.inl ?_)
      exact setup.symm
    · exact sessClose_stage io _ _

end Setup

/-! ## Copying -/

section Copying

/-- One direction says that it moved exactly if it carried a byte. -/
theorem pump_moved {size : Nat} {writable readable : Bool} {send : SendRes}
    {recv : RecvRes} {buffer after : CopyBuffer UInt8}
    {eof eofAfter moved : Bool} {event : PumpEvent}
    (pumped :
      pump size writable readable send recv buffer eof =
        .ok after eofAfter moved event) :
    moved = true ↔ 0 < event.input.length + event.output.length := by
  cases pump_pumped pumped with
  | idles =>
      simp [PumpEvent.input, PumpEvent.output]
  | sends n within =>
      simp [PumpEvent.input, PumpEvent.output, List.length_take_of_le within]
  | ends =>
      simp [PumpEvent.input, PumpEvent.output]
  | receives _ b nonempty _ =>
      simpa [PumpEvent.input, PumpEvent.output] using
        List.length_pos_iff.mpr nonempty

theorem bytesMoved_upEvents (tr : List IoEvent) (event : PumpEvent) :
    bytesMoved (tr ++ upEvents event) =
      bytesMoved tr + (event.input.length + event.output.length) := by
  obtain ⟨fromPhone, toProxy, fromProxy, toPhone⟩ := upEvents_bytes tr event
  unfold bytesMoved
  rw [fromPhone, toProxy, fromProxy, toPhone, List.length_append,
    List.length_append]
  omega

theorem bytesMoved_downEvents (tr : List IoEvent) (event : PumpEvent) :
    bytesMoved (tr ++ downEvents event) =
      bytesMoved tr + (event.input.length + event.output.length) := by
  obtain ⟨fromProxy, toPhone, fromPhone, toProxy⟩ := downEvents_bytes tr event
  unfold bytesMoved
  rw [fromPhone, toProxy, fromProxy, toPhone, List.length_append,
    List.length_append]
  omega

variable {now : UInt32} {before c : SessCtx}

theorem spliceEnd_stage (io : SessIo) (now : UInt32) {moved : Bool}
    (sameSt : c.s.st = before.s.st) (isSplice : before.s.st = .splice)
    (sameDeadline : c.s.deadline = before.s.deadline)
    (moves : moved = true ↔ bytesMoved c.tr ≠ bytesMoved before.tr) :
    StageStep now before (spliceEnd io now moved c) := by
  have same :
      (passEof c).s.st = c.s.st ∧ (passEof c).s.deadline = c.s.deadline ∧
        bytesMoved (passEof c).tr = bytesMoved c.tr := by
    unfold passEof
    split
    · exact ⟨rfl, rfl, by simp [bytesMoved, SessCtx.log, SessCtx.withSess]⟩
    · exact ⟨rfl, rfl, rfl⟩
  obtain ⟨stAfter, deadlineAfter, bytesAfter⟩ := same
  have spliceAfter : (passEof c).s.st = .splice :=
    (stAfter.trans sameSt).trans isSplice
  rw [spliceEnd_eq]
  split
  · exact sessClose_stage io _ _
  · split
    · next hasMoved =>
      apply StageStep.starts
      · simp only [SessCtx.withSess, spliceAfter, stageMs]
      · refine Or.inr ?_
        simp only [SessCtx.withSess, spliceAfter, bytesAfter, true_and]
        exact moves.mp hasMoved
    · next notMoved =>
      refine StageStep.stays _ (stAfter.trans sameSt)
        (deadlineAfter.trans sameDeadline) fun _ => ?_
      rw [bytesAfter]
      by_contra moved
      exact notMoved (moves.mpr moved)

theorem splice_stage (io : SessIo) (rd wr : Int → Bool) (now : UInt32)
    (isSplice : c.s.st = .splice) :
    StageStep now c (splice io rd wr now c) := by
  unfold splice
  split
  · exact sessClose_stage io _ _
  · exact sessClose_stage io _ _
  · next upMoved upEvent pumpedUp =>
    dsimp only
    split
    · exact sessClose_stage io _ _
    · exact sessClose_stage io _ _
    · next downMoved downEvent pumpedDown =>
      refine spliceEnd_stage io now rfl isSplice rfl ?_
      have up := pump_moved pumpedUp
      have down := pump_moved pumpedDown
      rw [Bool.or_eq_true, up, down]
      simp only [bytesMoved_downEvents, bytesMoved_upEvents]
      omega

/-- A call of `sess_service` sets the deadline exactly when the session enters a
stage, or moves a byte while it copies. -/
theorem sessService_stage (io : SessIo) (rd wr : Int → Bool) (now : UInt32)
    (c : SessCtx) : StageStep now c (sessService io rd wr now c) := by
  have unchanged : StageStep now c c := StageStep.stays c rfl rfl fun _ => rfl
  unfold sessService
  cases state : c.s.st with
  | head =>
      have setup : c.s.st ≠ .splice := by simp [state]
      dsimp only
      split
      · split
        · exact sessClose_stage io _ _
        · exact unchanged
        · split
          · exact sessClose_stage io _ _
          · refine
              StageStep.of_setup (headReady_stage io now ?_) setup (by rfl)
                (by rfl)
            exact state
      · exact unchanged
  | connecting =>
      dsimp only
      split
      · split
        · exact sessFail_stage io _ _
        · exact onConnected_stage io now (by simp [state]) (by simp [state])
      · exact unchanged
  | reply =>
      have setup : c.s.st ≠ .splice := by simp [state]
      dsimp only
      split
      · split
        · exact sessFail_stage io _ _
        · exact unchanged
        · split
          · exact sessFail_stage io _ _
          · refine
              StageStep.of_setup (replyReady_stage io now ?_) setup (by rfl)
                (by rfl)
            exact state
      · exact unchanged
  | splice =>
      exact splice_stage io rd wr now state

end Copying

end VeteraBridge.Proxy

import VeteraBridge.Proxy.Session

/-!
# How a session function ends

Seen from the flow table, a session function does one thing at most: it closes
the session as its last step.
-/

namespace VeteraBridge.Proxy

/-- A session function leaves the flow table alone, or closes the session as
its last step. -/
inductive Ends (io : SessIo) (c : SessCtx) : SessCtx → Prop
  | closes (last : SessCtx) (why : String)
      (sameRd : last.shared.rd = c.shared.rd)
      (samePort : last.s.phonePort = c.s.phonePort) :
      Ends io c (sessClose io why last)
  | stays (after : SessCtx) (sameRd : after.shared.rd = c.shared.rd)
      (samePort : after.s.phonePort = c.s.phonePort)
      (sameUsed : after.s.used = c.s.used) :
      Ends io c after

section Endings

variable {io : SessIo} {c middle after : SessCtx}

theorem Ends.of_same (ends : Ends io middle after)
    (sameRd : middle.shared.rd = c.shared.rd)
    (samePort : middle.s.phonePort = c.s.phonePort)
    (sameUsed : middle.s.used = c.s.used) :
    Ends io c after := by
  cases ends with
  | closes last why rd port =>
      exact Ends.closes last why (rd.trans sameRd) (port.trans samePort)
  | stays after rd port used =>
      exact
        Ends.stays after (rd.trans sameRd) (port.trans samePort)
          (used.trans sameUsed)

theorem Ends.withDeadline (sameRd : after.shared.rd = c.shared.rd)
    (samePort : after.s.phonePort = c.s.phonePort)
    (sameUsed : after.s.used = c.s.used) (deadline : UInt32) :
    Ends io c (after.withSess { after.s with deadline := deadline }) :=
  Ends.stays _ sameRd samePort sameUsed

theorem onConnected_ends (io : SessIo) (now : UInt32) (c : SessCtx) :
    Ends io c (onConnected io now c) := by
  unfold onConnected
  split
  · dsimp only
    split
    · exact Ends.closes _ _ rfl rfl
    · split
      · exact Ends.closes _ _ rfl rfl
      · exact Ends.stays _ rfl rfl rfl
  · exact Ends.stays _ rfl rfl rfl

theorem startConnect_ends (io : SessIo) (now : UInt32) (c : SessCtx) :
    Ends io c (startConnect io now c) := by
  unfold startConnect
  dsimp only
  split
  · exact Ends.closes _ _ rfl rfl
  · split
    · exact Ends.closes _ _ rfl rfl
    · split
      · exact (onConnected_ends io now _).of_same (by rfl) (by rfl) (by rfl)
      · exact Ends.stays _ rfl rfl rfl
      · exact Ends.closes _ _ rfl rfl

theorem headReady_ends (io : SessIo) (now : UInt32) (c : SessCtx) :
    Ends io c (headReady io now c) := by
  unfold headReady
  dsimp only
  split
  · split
    · exact Ends.stays _ rfl rfl rfl
    · split
      · exact Ends.stays _ rfl rfl rfl
      · exact (startConnect_ends io now _).of_same (by rfl) (by rfl) (by rfl)
  · split
    · split
      · exact Ends.closes _ _ rfl rfl
      · exact Ends.stays _ rfl rfl rfl
    · split
      · exact Ends.closes _ _ rfl rfl
      · split
        · exact Ends.closes _ _ rfl rfl
        · exact (startConnect_ends io now _).of_same (by rfl) (by rfl) (by rfl)

theorem replyReady_ends (io : SessIo) (now : UInt32) (c : SessCtx) :
    Ends io c (replyReady io now c) := by
  unfold replyReady
  dsimp only
  split
  · split
    · exact Ends.closes _ _ rfl rfl
    · exact Ends.stays _ rfl rfl rfl
  · split
    · exact Ends.stays _ rfl rfl rfl
    · exact Ends.closes _ _ rfl rfl

theorem spliceEnd_ends (io : SessIo) (now : UInt32) (moved : Bool)
    (c : SessCtx) : Ends io c (spliceEnd io now moved c) := by
  have same :
      (passEof c).shared.rd = c.shared.rd ∧
        (passEof c).s.phonePort = c.s.phonePort ∧
        (passEof c).s.used = c.s.used := by
    unfold passEof
    split
    · exact ⟨rfl, rfl, rfl⟩
    · exact ⟨rfl, rfl, rfl⟩
  obtain ⟨sameRd, samePort, sameUsed⟩ := same
  rw [spliceEnd_eq]
  split
  · exact Ends.closes _ _ sameRd samePort
  · split
    · exact Ends.withDeadline sameRd samePort sameUsed (now + idleMs)
    · exact Ends.stays _ sameRd samePort sameUsed

theorem splice_ends (io : SessIo) (rd wr : Int → Bool) (now : UInt32)
    (c : SessCtx) : Ends io c (splice io rd wr now c) := by
  unfold splice
  split
  · exact Ends.closes _ _ rfl rfl
  · exact Ends.closes _ _ rfl rfl
  · dsimp only
    split
    · exact Ends.closes _ _ rfl rfl
    · exact Ends.closes _ _ rfl rfl
    · exact (spliceEnd_ends io now _ _).of_same (by rfl) (by rfl) (by rfl)

theorem sessService_ends (io : SessIo) (rd wr : Int → Bool) (now : UInt32)
    (c : SessCtx) : Ends io c (sessService io rd wr now c) := by
  have unchanged : Ends io c c := Ends.stays c rfl rfl rfl
  unfold sessService
  cases c.s.st with
  | head =>
      dsimp only
      split
      · split
        · exact Ends.closes _ _ rfl rfl
        · exact unchanged
        · split
          · exact Ends.closes _ _ rfl rfl
          · exact (headReady_ends io now _).of_same (by rfl) (by rfl) (by rfl)
      · exact unchanged
  | connecting =>
      dsimp only
      split
      · split
        · exact Ends.closes _ _ rfl rfl
        · exact onConnected_ends io now c
      · exact unchanged
  | reply =>
      dsimp only
      split
      · split
        · exact Ends.closes _ _ rfl rfl
        · exact unchanged
        · split
          · exact Ends.closes _ _ rfl rfl
          · exact (replyReady_ends io now _).of_same (by rfl) (by rfl) (by rfl)
      · exact unchanged
  | splice =>
      exact splice_ends io rd wr now c

end Endings

end VeteraBridge.Proxy

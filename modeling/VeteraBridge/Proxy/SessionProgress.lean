import VeteraBridge.Proxy.SelectSets
import VeteraBridge.Proxy.Admission

/-!
# A session that is woken goes on

A session in use always waits for at least one of its sockets, and a pass that
finds one of them ready takes the session further, unless a call would block
after all: it is closed, or its setup has less to go, or a byte moves or a
stream ends.  So `select` is never asked for a descriptor that the task then
leaves alone, and a setup takes a bounded number of such passes.
-/

namespace VeteraBridge.Proxy

open EventRun

/-- `select` found a socket that the session waits for. -/
def Woken (s : Sess) (rd wr : Int → Bool) : Prop :=
  (∃ fd ∈ (sessFds s).1, rd fd = true) ∨ ∃ fd ∈ (sessFds s).2, wr fd = true

/-- No call of the session would block, and a send takes at least a byte. -/
structure Answers (io : SessIo) : Prop where
  recvPh : io.recvPh ≠ .again
  recvPx : io.recvPx ≠ .again
  sendPh : io.sendPh ≠ .again ∧ io.sendPh ≠ .wrote 0
  sendPx : io.sendPx ≠ .again ∧ io.sendPx ≠ .wrote 0

/-- The read of a session in its setup, where it has one to make, does not
block. -/
def Reads (s : Sess) (io : SessIo) : Prop :=
  (s.st = .head → io.recvPh ≠ .again) ∧ (s.st = .reply → io.recvPx ≠ .again)

instance (s : Sess) (rd wr : Int → Bool) : Decidable (Woken s rd wr) :=
  inferInstanceAs (Decidable (_ ∨ _))

instance (s : Sess) (io : SessIo) : Decidable (Reads s io) :=
  inferInstanceAs (Decidable (_ ∧ _))

/-- What a session may still read before it copies, and the steps to there. -/
def setupLeft (s : Sess) : Nat :=
  match s.st with
  | .head => upSz - s.up.data.length + downSz + 1
  | .connecting => downSz + 1
  | .reply => downSz - s.down.data.length
  | .splice => 0

/-- The session went on: it was closed, or is nearer to the end of its setup, or
copied bytes or came to the end of a stream. -/
inductive Advances (before after : SessCtx) : Prop
  | closed (gone : after.s.used = false)
  | setup (less : setupLeft after.s < setupLeft before.s)
  | bytes (copies : after.s.st = .splice)
      (moved : bytesMoved before.tr < bytesMoved after.tr)
  | phEof (copies : after.s.st = .splice) (noEof : before.s.phEof = false)
      (eof : after.s.phEof = true)
  | pxEof (copies : after.s.st = .splice) (noEof : before.s.pxEof = false)
      (eof : after.s.pxEof = true)

/-! ## Setup -/

variable {io : SessIo} {now : UInt32} {c before : SessCtx}

theorem Advances.onConnected (isConnecting : downSz < setupLeft before.s)
    (io : SessIo) (now : UInt32) (c : SessCtx) :
    Advances before (onConnected io now c) := by
  unfold Proxy.onConnected
  dsimp only
  split
  · split
    · exact .closed rfl
    · split
      · exact .closed rfl
      · exact .setup isConnecting
  · exact .setup (Nat.zero_lt_of_lt isConnecting)

theorem Advances.startConnect (isHead : downSz + 1 < setupLeft before.s)
    (io : SessIo) (now : UInt32) (c : SessCtx) :
    Advances before (startConnect io now c) := by
  unfold Proxy.startConnect
  dsimp only
  split
  · exact .closed rfl
  · split
    · exact .closed rfl
    · split
      · exact .onConnected (Nat.lt_of_succ_lt isHead) io now _
      · exact .setup isHead
      · exact .closed rfl

/-- More of the head, with or without all of it. -/
theorem Advances.headReady (isHead : downSz + 1 < setupLeft before.s)
    (io : SessIo) (now : UInt32)
    (more : setupLeft c.s < setupLeft before.s) :
    Advances before (headReady io now c) := by
  unfold Proxy.headReady
  dsimp only
  split
  · split
    · exact .setup more
    · split
      · exact .setup more
      · exact .startConnect isHead io now _
  · split
    · split
      · exact .closed rfl
      · exact .setup more
    · split
      · exact .closed rfl
      · split
        · exact .closed rfl
        · exact .startConnect isHead io now _

/-- More of the reply, with or without all of it. -/
theorem Advances.replyReady (isReply : 0 < setupLeft before.s)
    (io : SessIo) (now : UInt32)
    (more : setupLeft c.s < setupLeft before.s) :
    Advances before (replyReady io now c) := by
  unfold Proxy.replyReady
  dsimp only
  split
  · split
    · exact .closed rfl
    · exact .setup more
  · split
    · exact .setup isReply
    · exact .closed rfl

/-! ## Copying -/

theorem wrote_pos {res : SendRes} (answers : res ≠ .again ∧ res ≠ .wrote 0)
    {n : Nat} (wrote : res = .wrote n) : 0 < n := by
  rcases Nat.eq_zero_or_pos n with zero | positive
  · exact absurd (zero ▸ wrote) answers.2
  · exact positive

/-- What a direction does that waited for its sink or its source and was
woken. -/
inductive PumpAdvances (eof : Bool) : PumpResult → Prop
  | writeFailed : PumpAdvances eof .writeFailed
  | readFailed : PumpAdvances eof .readFailed
  | moved (buffer : CopyBuffer UInt8) (eofAfter : Bool) (event : PumpEvent) :
      PumpAdvances eof (.ok buffer eofAfter true event)
  | ended (buffer : CopyBuffer UInt8) (event : PumpEvent)
      (noEof : eof = false) :
      PumpAdvances eof (.ok buffer true false event)

theorem pump_advances {size : Nat} {writable readable : Bool} {send : SendRes}
    {recv : RecvRes} {buffer : CopyBuffer UInt8} {eof : Bool}
    (sends : send ≠ .again ∧ send ≠ .wrote 0) (receives : recv ≠ .again)
    (ready :
      buffer.off < buffer.data.length ∧ writable = true ∨
        ¬ buffer.off < buffer.data.length ∧ buffer.data.length = 0 ∧
          eof = false ∧ readable = true) :
    PumpAdvances eof (pump size writable readable send recv buffer eof) := by
  unfold pump
  rcases ready with ⟨pending, isWritable⟩ | ⟨drained, empty, noEof, isReadable⟩
  · rw [if_pos ⟨pending, isWritable⟩]
    cases wrote : send with
    | failed => exact .writeFailed
    | again => exact absurd wrote sends.1
    | wrote n =>
        have some : 0 < min n buffer.pending.length := by
          have positive := wrote_pos sends wrote
          rw [CopyBuffer.pending, List.length_drop]
          omega
        dsimp only
        rw [decide_eq_true some]
        exact .moved _ _ _
  · rw [if_neg (fun both => drained both.1),
      if_pos ⟨empty, noEof, isReadable⟩]
    cases recv with
    | failed => exact .readFailed
    | again => exact absurd rfl receives
    | bytes b =>
        dsimp only [RecvRes.upTo]
        split
        · exact .ended _ _ noEof
        · exact .moved _ _ _

theorem Advances.withDeadline (advances : Advances before c)
    (deadline : UInt32) :
    Advances before (c.withSess { c.s with deadline := deadline }) := by
  cases advances with
  | closed gone => exact .closed gone
  | setup less => exact .setup less
  | bytes copies more => exact .bytes copies more
  | phEof copies noEof eof => exact .phEof copies noEof eof
  | pxEof copies noEof eof => exact .pxEof copies noEof eof

/-- One direction of a copying session went on. -/
theorem Advances.spliceEnd (io : SessIo) (now : UInt32) (moved : Bool)
    (isSplice : c.s.st = .splice)
    (went :
      bytesMoved before.tr < bytesMoved c.tr ∨
        before.s.phEof = false ∧ c.s.phEof = true ∨
          before.s.pxEof = false ∧ c.s.pxEof = true) :
    Advances before (spliceEnd io now moved c) := by
  have same :
      (passEof c).s.st = .splice ∧ (passEof c).s.phEof = c.s.phEof ∧
        (passEof c).s.pxEof = c.s.pxEof ∧
          bytesMoved (passEof c).tr = bytesMoved c.tr := by
    unfold passEof
    split
    · exact ⟨isSplice, rfl, rfl,
        by simp [bytesMoved, SessCtx.log, SessCtx.withSess]⟩
    · exact ⟨isSplice, rfl, rfl, rfl⟩
  obtain ⟨st, phEof, pxEof, bytes⟩ := same
  have passed : Advances before (passEof c) := by
    rcases went with more | ⟨noEof, eof⟩ | ⟨noEof, eof⟩
    · exact .bytes st (bytes ▸ more)
    · exact .phEof st noEof (phEof.trans eof)
    · exact .pxEof st noEof (pxEof.trans eof)
  rw [spliceEnd_eq]
  split
  · exact .closed rfl
  · split
    · exact passed.withDeadline (now + idleMs)
    · exact passed

/-- What a direction that went on did to its stream. -/
theorem PumpAdvances.went {size : Nat} {writable readable : Bool}
    {send : SendRes} {recv : RecvRes} {buffer after : CopyBuffer UInt8}
    {eof eofAfter moved : Bool} {event : PumpEvent}
    (pumped :
      pump size writable readable send recv buffer eof =
        .ok after eofAfter moved event)
    (advances : PumpAdvances eof (.ok after eofAfter moved event)) :
    0 < event.input.length + event.output.length ∨
      eof = false ∧ eofAfter = true := by
  cases advances with
  | moved => exact .inl ((pump_moved pumped).mp rfl)
  | ended _ _ noEof => exact .inr ⟨noEof, rfl⟩

/-- With one of its directions woken, copying goes on. -/
theorem Advances.splice {rd wr : Int → Bool} (now : UInt32)
    (isSplice : c.s.st = .splice)
    (advances :
      PumpAdvances c.s.phEof
          (pump upSz (wr c.s.px) (rd c.s.ph) io.sendPx io.recvPh c.s.up
            c.s.phEof) ∨
        PumpAdvances c.s.pxEof
          (pump downSz (wr c.s.ph) (rd c.s.px) io.sendPh io.recvPx c.s.down
            c.s.pxEof)) :
    Advances c (splice io rd wr now c) := by
  unfold Proxy.splice
  cases up :
      pump upSz (wr c.s.px) (rd c.s.ph) io.sendPx io.recvPh c.s.up c.s.phEof with
  | writeFailed => exact .closed rfl
  | readFailed => exact .closed rfl
  | ok upAfter phEof upMoved upEvent =>
      dsimp only
      cases down :
          pump downSz (wr c.s.ph) (rd c.s.px) io.sendPh io.recvPx c.s.down
            c.s.pxEof with
      | writeFailed => exact .closed rfl
      | readFailed => exact .closed rfl
      | ok downAfter pxEof downMoved downEvent =>
          refine Advances.spliceEnd io now _ isSplice ?_
          dsimp only
          rw [bytesMoved_downEvents, bytesMoved_upEvents]
          rw [up, down] at advances
          rcases advances with upAdvances | downAdvances
          · rcases upAdvances.went up with moved | ended
            · left
              omega
            · exact .inr (.inl ended)
          · rcases downAdvances.went down with moved | ended
            · left
              omega
            · exact .inr (.inr ended)

/-! ## Every session waits -/

/-- A buffer with data has some that has not gone out. -/
def Tidy (buffer : CopyBuffer UInt8) : Prop :=
  buffer.data ≠ [] → buffer.off < buffer.data.length

/-- A session that has something to wait for. -/
structure Waiting (s : Sess) : Prop where
  tidy : s.st = .splice → Tidy s.up ∧ Tidy s.down
  setup : s.st ≠ .splice → s.pxEof = false
  unfinished : s.pxEof = true → s.down.data ≠ []

theorem Waiting.withDeadline {s : Sess} (waiting : Waiting s)
    (deadline : UInt32) : Waiting { s with deadline := deadline } :=
  ⟨waiting.tidy, waiting.setup, waiting.unfinished⟩

theorem tidy_of_off {buffer : CopyBuffer UInt8} (off : buffer.off = 0) :
    Tidy buffer := by
  intro some
  rw [off]
  exact List.length_pos_iff.mpr some

theorem Tidy.pumped {size : Nat} {buffer after : CopyBuffer UInt8}
    {eof eofAfter moved : Bool} {event : PumpEvent} (tidy : Tidy buffer)
    (pumped : Pumped size buffer eof after eofAfter moved event) :
    Tidy after := by
  cases pumped with
  | idles => exact tidy
  | sends n within =>
      intro some
      rw [CopyBuffer.pending, List.length_drop] at within
      unfold CopyBuffer.drain at some ⊢
      split
      · next drained => simp [drained] at some
      · next left =>
        rw [if_neg left] at some
        have before := tidy some
        dsimp only
        omega
  | ends => exact tidy
  | receives _ b nonempty _ => exact fun _ => List.length_pos_iff.mpr nonempty

/-- A session in use asks `select` for a socket. -/
theorem Waiting.asks {s : Sess} (waiting : Waiting s) :
    (sessFds s).1 ≠ [] ∨ (sessFds s).2 ≠ [] := by
  unfold sessFds
  cases st : s.st with
  | head => simp
  | connecting => simp
  | reply => simp
  | splice =>
      dsimp only
      by_cases up : s.up.off < s.up.data.length
      · simp [up]
      · cases phEof : s.phEof with
        | false => simp [up]
        | true =>
            by_cases down : s.down.off < s.down.data.length
            · simp [down]
            · cases pxEof : s.pxEof with
              | false => simp [down]
              | true =>
                  have some := waiting.unfinished pxEof
                  exact absurd ((waiting.tidy st).2 some) down

/-- Where a session function leaves its session: closed, or waiting. -/
def Waits (c : SessCtx) : Prop := c.s.used = true → Waiting c.s

theorem waits_of_closed (gone : c.s.used = false) : Waits c := by
  intro isUsed
  rw [gone] at isUsed
  cases isUsed

theorem waits_of_noEof (noEof : c.s.pxEof = false)
    (tidy : c.s.st = .splice → Tidy c.s.up ∧ Tidy c.s.down) : Waits c := by
  refine fun _ => ⟨tidy, fun _ => noEof, ?_⟩
  intro eof
  rw [noEof] at eof
  cases eof

theorem onConnected_waits (io : SessIo) (now : UInt32)
    (noEof : c.s.pxEof = false) (downOff : c.s.down.off = 0) :
    Waits (onConnected io now c) := by
  unfold onConnected
  dsimp only
  split
  · split
    · exact waits_of_closed rfl
    · split
      · exact waits_of_closed rfl
      · exact waits_of_noEof noEof (by simp [SessCtx.withSess])
  · exact waits_of_noEof noEof fun _ => ⟨tidy_of_off rfl, tidy_of_off downOff⟩

theorem startConnect_waits (io : SessIo) (now : UInt32)
    (noEof : c.s.pxEof = false) (downOff : c.s.down.off = 0) :
    Waits (startConnect io now c) := by
  unfold startConnect
  dsimp only
  split
  · exact waits_of_closed rfl
  · split
    · exact waits_of_closed rfl
    · split
      · exact onConnected_waits io now noEof downOff
      · exact waits_of_noEof noEof (by simp [SessCtx.withSess])
      · exact waits_of_closed rfl

theorem headReady_waits (io : SessIo) (now : UInt32)
    (isHead : c.s.st = .head) (noEof : c.s.pxEof = false)
    (downOff : c.s.down.off = 0) : Waits (headReady io now c) := by
  have stays : Waits c := waits_of_noEof noEof (by simp [isHead])
  unfold headReady
  dsimp only
  split
  · split
    · exact stays
    · split
      · exact stays
      · exact startConnect_waits io now noEof downOff
  · split
    · split
      · exact waits_of_closed rfl
      · exact stays
    · split
      · exact waits_of_closed rfl
      · split
        · exact waits_of_closed rfl
        · exact startConnect_waits io now noEof downOff

theorem replyReady_waits (io : SessIo) (now : UInt32)
    (isReply : c.s.st = .reply) (noEof : c.s.pxEof = false) :
    Waits (replyReady io now c) := by
  unfold replyReady
  dsimp only
  split
  · split
    · exact waits_of_closed rfl
    · exact waits_of_noEof noEof (by simp [isReply])
  · split
    · exact waits_of_noEof noEof fun _ => ⟨tidy_of_off rfl, tidy_of_off rfl⟩
    · exact waits_of_closed rfl

theorem spliceEnd_waits (io : SessIo) (now : UInt32) (moved : Bool)
    (isSplice : c.s.st = .splice) (up : Tidy c.s.up) (down : Tidy c.s.down) :
    Waits (spliceEnd io now moved c) := by
  have same :
      (passEof c).s.st = c.s.st ∧ (passEof c).s.up = c.s.up ∧
        (passEof c).s.down = c.s.down := by
    unfold passEof
    split
    · exact ⟨rfl, rfl, rfl⟩
    · exact ⟨rfl, rfl, rfl⟩
  obtain ⟨sameSt, sameUp, sameDown⟩ := same
  rw [spliceEnd_eq]
  split
  · exact waits_of_closed rfl
  · next going =>
    have waiting : Waiting (passEof c).s := by
      refine ⟨fun _ => ?_, ?_, ?_⟩
      · rw [sameUp, sameDown]
        exact ⟨up, down⟩
      · rw [sameSt]
        exact fun other => absurd isSplice other
      · intro eof empty
        exact going ⟨eof, List.length_eq_zero_iff.mpr empty⟩
    split
    · exact fun _ => waiting.withDeadline (now + idleMs)
    · exact fun _ => waiting

theorem splice_waits (io : SessIo) (rd wr : Int → Bool) (now : UInt32)
    (isSplice : c.s.st = .splice) (waiting : Waiting c.s) :
    Waits (splice io rd wr now c) := by
  obtain ⟨up, down⟩ := waiting.tidy isSplice
  unfold splice
  split
  · exact waits_of_closed rfl
  · exact waits_of_closed rfl
  · next upPumped =>
    dsimp only
    split
    · exact waits_of_closed rfl
    · exact waits_of_closed rfl
    · next downPumped =>
      exact spliceEnd_waits io now _ isSplice (up.pumped (pump_pumped upPumped))
        (down.pumped (pump_pumped downPumped))

theorem sessService_waits (io : SessIo) (rd wr : Int → Bool) (now : UInt32)
    (phase : PhaseOk c.s) (waiting : Waiting c.s) :
    Waits (sessService io rd wr now c) := by
  have stays : Waits c := fun _ => waiting
  unfold sessService
  cases st : c.s.st with
  | head =>
      simp only [PhaseOk, st] at phase
      obtain ⟨-, -, -, downOff⟩ := phase
      have noEof := waiting.setup (by simp [st])
      dsimp only
      split
      · split
        · exact waits_of_closed rfl
        · exact stays
        · split
          · exact waits_of_closed rfl
          · exact headReady_waits io now st noEof downOff
      · exact stays
  | connecting =>
      simp only [PhaseOk, st] at phase
      have noEof := waiting.setup (by simp [st])
      dsimp only
      split
      · split
        · exact waits_of_closed rfl
        · exact onConnected_waits io now noEof phase.2
      · exact stays
  | reply =>
      have noEof := waiting.setup (by simp [st])
      dsimp only
      split
      · split
        · exact waits_of_closed rfl
        · exact stays
        · split
          · exact waits_of_closed rfl
          · exact replyReady_waits io now st noEof
      · exact stays
  | splice => exact splice_waits io rd wr now st waiting

/-! ## Every woken session goes on -/

/-- A direction of a copying session that waits for a ready socket. -/
theorem Waiting.pump_advances {rd wr : Int → Bool} (answers : Answers io)
    (isSplice : c.s.st = .splice) (waiting : Waiting c.s)
    (woken : Woken c.s rd wr) :
    PumpAdvances c.s.phEof
        (pump upSz (wr c.s.px) (rd c.s.ph) io.sendPx io.recvPh c.s.up
          c.s.phEof) ∨
      PumpAdvances c.s.pxEof
        (pump downSz (wr c.s.ph) (rd c.s.px) io.sendPh io.recvPx c.s.down
          c.s.pxEof) := by
  obtain ⟨upTidy, downTidy⟩ := waiting.tidy isSplice
  have upEmpty (drained : ¬ c.s.up.off < c.s.up.data.length) :
      c.s.up.data.length = 0 := by
    by_contra some
    exact drained (upTidy (fun nothing => some (by rw [nothing]; rfl)))
  have downEmpty (drained : ¬ c.s.down.off < c.s.down.data.length) :
      c.s.down.data.length = 0 := by
    by_contra some
    exact drained (downTidy (fun nothing => some (by rw [nothing]; rfl)))
  -- One of the four sockets that `sess_fds` may add.
  suffices ready :
      (c.s.up.off < c.s.up.data.length ∧ wr c.s.px = true ∨
        ¬ c.s.up.off < c.s.up.data.length ∧ c.s.phEof = false ∧
          rd c.s.ph = true) ∨
      (c.s.down.off < c.s.down.data.length ∧ wr c.s.ph = true ∨
        ¬ c.s.down.off < c.s.down.data.length ∧ c.s.pxEof = false ∧
          rd c.s.px = true) by
    rcases ready with up | down
    · left
      apply Proxy.pump_advances answers.sendPx answers.recvPh
      rcases up with pending | ⟨drained, noEof, isReady⟩
      · exact .inl pending
      · exact .inr ⟨drained, upEmpty drained, noEof, isReady⟩
    · right
      apply Proxy.pump_advances answers.sendPh answers.recvPx
      rcases down with pending | ⟨drained, noEof, isReady⟩
      · exact .inl pending
      · exact .inr ⟨drained, downEmpty drained, noEof, isReady⟩
  unfold Woken sessFds at woken
  rw [isSplice] at woken
  dsimp only at woken
  by_cases up : c.s.up.off < c.s.up.data.length <;>
    by_cases down : c.s.down.off < c.s.down.data.length <;>
      cases phEof : c.s.phEof <;> cases pxEof : c.s.pxEof <;>
        simp_all <;> tauto

/-- In its setup a session needs its read only. -/
theorem sessService_setup_advances {rd wr : Int → Bool} (now : UInt32)
    (phase : PhaseOk c.s) (setup : c.s.st ≠ .splice) (woken : Woken c.s rd wr)
    (reads : Reads c.s io) : Advances c (sessService io rd wr now c) := by
  unfold sessService
  cases st : c.s.st with
  | head =>
      simp only [PhaseOk, st] at phase
      obtain ⟨-, -, upFits, -⟩ := phase
      have isReady : rd c.s.ph = true := by simpa [Woken, sessFds, st] using woken
      dsimp only
      rw [if_pos isReady]
      cases received : io.recvPh with
      | failed => exact .closed rfl
      | again => exact absurd received (reads.1 st)
      | bytes b =>
          dsimp only [RecvRes.upTo]
          split
          · exact .closed rfl
          · next some =>
            have positive := List.length_pos_iff.mpr some
            apply Advances.headReady
            · simp only [setupLeft, st]
              omega
            · simp only [setupLeft, st, SessCtx.log, SessCtx.withSess,
                List.length_append]
              omega
  | connecting =>
      have isReady : wr c.s.px = true := by simpa [Woken, sessFds, st] using woken
      dsimp only
      rw [if_pos isReady]
      split
      · exact .closed rfl
      · exact .onConnected (by simp [setupLeft, st]) io now c
  | reply =>
      simp only [PhaseOk, st] at phase
      obtain ⟨-, -, downFits⟩ := phase
      have isReady : rd c.s.px = true := by simpa [Woken, sessFds, st] using woken
      dsimp only
      rw [if_pos isReady]
      cases received : io.recvPx with
      | failed => exact .closed rfl
      | again => exact absurd received (reads.2 st)
      | bytes b =>
          dsimp only [RecvRes.upTo]
          split
          · exact .closed rfl
          · next some =>
            have positive := List.length_pos_iff.mpr some
            apply Advances.replyReady
            · simp only [setupLeft, st]
              omega
            · simp only [setupLeft, st, SessCtx.log, SessCtx.withSess,
                List.length_append]
              omega
  | splice => exact absurd st setup

/-- A session in its setup that is not woken, or whose read blocks, is left
alone. -/
theorem sessService_setup_same {rd wr : Int → Bool} (now : UInt32)
    (setup : c.s.st ≠ .splice) (idle : ¬(Woken c.s rd wr ∧ Reads c.s io)) :
    sessService io rd wr now c = c := by
  unfold sessService
  cases st : c.s.st with
  | head =>
      dsimp only
      split
      · next isReady =>
        have blocks : io.recvPh = .again := by
          by_contra answered
          exact idle
            ⟨by simpa [Woken, sessFds, st] using isReady, fun _ => answered,
              by simp [st]⟩
        rw [blocks]
        rfl
      · rfl
  | connecting =>
      dsimp only
      split
      · next isReady =>
        exact absurd
          ⟨by simpa [Woken, sessFds, st] using isReady, by simp [Reads, st]⟩
          idle
      · rfl
  | reply =>
      dsimp only
      split
      · next isReady =>
        have blocks : io.recvPx = .again := by
          by_contra answered
          exact idle
            ⟨by simpa [Woken, sessFds, st] using isReady, by simp [st],
              fun _ => answered⟩
        rw [blocks]
        rfl
      · rfl
  | splice => exact absurd st setup

theorem sessService_advances {rd wr : Int → Bool} (now : UInt32)
    (answers : Answers io) (phase : PhaseOk c.s) (waiting : Waiting c.s)
    (woken : Woken c.s rd wr) : Advances c (sessService io rd wr now c) := by
  by_cases st : c.s.st = .splice
  · unfold sessService
    rw [st]
    exact Advances.splice now st (waiting.pump_advances answers st woken)
  · exact sessService_setup_advances now phase st woken
      ⟨fun _ => answers.recvPh, fun _ => answers.recvPx⟩

/-! ## The table of sessions -/

theorem Advances.congr {after other : SessCtx} (advances : Advances before c)
    (sameS : after.s = before.s) (sameTr : after.tr = before.tr)
    (otherS : other.s = c.s) (otherTr : other.tr = c.tr) :
    Advances after other := by
  cases advances with
  | closed gone => exact .closed (otherS ▸ gone)
  | setup less => exact .setup (by rwa [otherS, sameS])
  | bytes copies moved =>
      exact .bytes (otherS ▸ copies) (by rwa [otherTr, sameTr])
  | phEof copies noEof eof =>
      exact .phEof (otherS ▸ copies) (sameS ▸ noEof) (otherS ▸ eof)
  | pxEof copies noEof eof =>
      exact .pxEof (otherS ▸ copies) (sameS ▸ noEof) (otherS ▸ eof)

namespace Relay

variable {w : Relay} {i : Fin sessMax}

/-- Every session in use has something to wait for. -/
def Live (w : Relay) : Prop := ∀ i, (w.sess i).used = true → Waiting (w.sess i)

theorem Live.put (live : w.Live) {c : SessCtx} (waits : Waits c) :
    (w.put i c).Live := by
  intro k isUsed
  by_cases here : k = i
  · subst here
    simp only [Relay.put, Function.update_self] at isUsed ⊢
    exact waits isUsed
  · simp only [Relay.put, Function.update_of_ne here] at isUsed ⊢
    exact live k isUsed

theorem Live.begin (live : w.Live) (tls : Bool) (conn : Int)
    (pport : UInt16) (origIp : UInt32) (mem : Nat) (now : UInt32) :
    (w.begin i tls (newSess tls conn pport origIp mem now)).Live := by
  intro k isUsed
  by_cases here : k = i
  · subst here
    simp only [Relay.begin, Function.update_self]
    exact ⟨by simp [newSess], fun _ => rfl, by simp [newSess, Sess.cleared]⟩
  · simp only [Relay.begin, Function.update_of_ne here] at isUsed ⊢
    exact live k isUsed

theorem Live.step (live : w.Live) (orderly : w.Orderly) (event : RelayEvent) :
    (w.step event).Live := by
  cases event with
  | outside event => exact live
  | service i io rd wr now =>
      rw [Relay.step, Relay.service]
      split
      · next isUsed =>
        have phase := (orderly.slotOk isUsed).phase
        exact live.put (sessService_waits io rd wr now phase (live i isUsed))
      · exact live
  | accept tls io now =>
      have outcome := doAccept_outcome w tls io now
      rw [Relay.step]
      generalize w.doAccept tls io now = after at *
      cases outcome with
      | nothing _ => exact live
      | noSlot _ _ => exact live
      | noMemory _ _ _ _ => exact live
      | begins i mem origIp _ _ _ _ =>
          exact Live.begin live tls io.conn io.pport origIp mem now
  | timeout i io now =>
      rw [Relay.step, Relay.timeout]
      split
      · obtain ⟨why, closes⟩ := sessTimeout_eq io (w.ctx i)
        rw [closes]
        exact live.put (waits_of_closed rfl)
      · exact live

theorem run_live (http tls : ListenIo) (rd : Redirector)
    (reached : Reachable Relay.step (proxyTaskStart http tls rd) w) :
    w.Live := by
  have both : w.Orderly ∧ w.Live := by
    refine reached.invariant (fun v => v.Orderly ∧ v.Live) ?_ ?_
    · exact fun v event both => ⟨both.1.step event, both.2.step both.1 event⟩
    · refine ⟨start_orderly http tls rd, ?_⟩
      intro k isUsed
      cases isUsed
  exact both.2

/-! ## A pass -/

/-- A slot that is not served keeps its session. -/
theorem foldl_turn_apart (io : PassIo) (rd wr : Int → Bool)
    {slots : List (Fin sessMax)} (notServed : i ∉ slots) (v : Relay) :
    (slots.foldl (turn io rd wr) v).sess i = v.sess i ∧
      (slots.foldl (turn io rd wr) v).record.tr i = v.record.tr i := by
  induction slots generalizing v with
  | nil => exact ⟨rfl, rfl⟩
  | cons k rest inductionHypothesis =>
      have different : i ≠ k := fun same => notServed (same ▸ List.mem_cons_self)
      have notLater : i ∉ rest :=
        fun member => notServed (List.mem_cons_of_mem k member)
      obtain ⟨sess, tr⟩ := inductionHypothesis notLater (v.turn io rd wr k)
      obtain ⟨sessTurn, trTurn⟩ := turn_of_ne v different io rd wr
      rw [List.foldl_cons]
      exact ⟨sess.trans sessTurn, tr.trans trTurn⟩

/-- A slot in use is served once, with the session it had. -/
theorem foldl_turn_slot (io : PassIo) (rd wr : Int → Bool)
    {slots : List (Fin sessMax)} (nodup : slots.Nodup) (isServed : i ∈ slots)
    {v : Relay} (isUsed : (v.sess i).used = true) :
    ∃ c, c.s = v.sess i ∧ c.tr = v.record.tr i ∧
      (slots.foldl (turn io rd wr) v).sess i =
        (sessService (io.sess i) rd wr io.now c).s ∧
      (slots.foldl (turn io rd wr) v).record.tr i =
        (sessService (io.sess i) rd wr io.now c).tr := by
  induction slots generalizing v with
  | nil => cases isServed
  | cons k rest inductionHypothesis =>
      obtain ⟨notInRest, restNodup⟩ := List.nodup_cons.mp nodup
      rw [List.foldl_cons]
      by_cases here : i = k
      · subst here
        obtain ⟨sess, tr⟩ :=
          foldl_turn_apart io rd wr notInRest (v.turn io rd wr i)
        have served :
            v.turn io rd wr i =
              (v.outside (io.before i)).put i
                (sessService (io.sess i) rd wr io.now
                  ((v.outside (io.before i)).ctx i)) :=
          if_pos isUsed
        refine ⟨(v.outside (io.before i)).ctx i, rfl, rfl, ?_, ?_⟩
        · rw [sess, served]
          exact Function.update_self ..
        · rw [tr, served]
          exact Function.update_self ..
      · have later : i ∈ rest := (List.mem_cons.mp isServed).resolve_left here
        obtain ⟨sess, tr⟩ := turn_of_ne v here io rd wr
        rw [← sess] at isUsed
        obtain ⟨c, sameS, sameTr, outcome⟩ :=
          inductionHypothesis restNodup later isUsed
        exact ⟨c, sameS.trans sess, sameTr.trans tr, outcome⟩

/-- A session that is woken goes on while it is served. -/
theorem Live.served_advances (live : w.Live) (orderly : w.Orderly)
    (isUsed : (w.sess i).used = true) {io : PassIo}
    (woken : Woken (w.sess i) (w.rdSet io) (w.wrSet io))
    (answers : Answers (io.sess i)) :
    Advances (w.ctx i) ((w.served io).ctx i) := by
  obtain ⟨c, sameS, sameTr, sess, tr⟩ :=
    foldl_turn_slot (v := w.outside io.waiting) io (w.rdSet io) (w.wrSet io)
      (List.nodup_finRange sessMax) (List.mem_finRange i) isUsed
  change c.s = w.sess i at sameS
  change c.tr = w.record.tr i at sameTr
  have advances : Advances c _ :=
    sessService_advances io.now answers
      (sameS ▸ (orderly.slotOk isUsed).phase) (sameS ▸ live i isUsed)
      (sameS ▸ woken)
  exact advances.congr sameS.symm sameTr.symm sess tr

/-- A session that is accepted takes a free slot. -/
theorem doAccept_sess (isUsed : (w.sess i).used = true) (tls : Bool)
    (io : AcceptIo) (now : UInt32) :
    (w.doAccept tls io now).sess i = w.sess i := by
  have outcome := doAccept_outcome w tls io now
  generalize w.doAccept tls io now = after at *
  cases outcome with
  | nothing _ => rfl
  | noSlot _ _ => rfl
  | noMemory _ _ _ _ => rfl
  | begins k _ _ _ found _ _ =>
      have different : i ≠ k := by
        rintro rfl
        rw [freeSlot_eq_some found] at isUsed
        cases isUsed
      exact Function.update_of_ne different _ _

theorem acceptFrom_sess (isUsed : (w.sess i).used = true) (io : PassIo)
    (room : Bool) (rd : Int → Bool) (tls : Bool) :
    (w.acceptFrom io room rd tls).sess i = w.sess i := by
  unfold acceptFrom
  split
  · exact doAccept_sess isUsed tls _ _
  · rfl

/-- What is in use when all are served stays, or is timed out. -/
theorem pass_sess_of_served {io : PassIo} (selected : 0 < io.selected)
    (isUsed : ((w.served io).sess i).used = true) :
    (w.pass io).sess i = (w.served io).sess i ∨
      ((w.pass io).sess i).used = false := by
  have http := acceptFrom_sess isUsed io (w.room io.freeHeap) (w.rdSet io) false
  have tls :=
    acceptFrom_sess (by rw [http]; exact isUsed) io (w.room io.freeHeap)
      (w.rdSet io) true
  have parts :
      w.pass io =
        (((w.served io).acceptFrom io (w.room io.freeHeap) (w.rdSet io)
          false).acceptFrom io (w.room io.freeHeap) (w.rdSet io)
            true).timeoutAll io := by
    unfold pass
    dsimp only
    rw [if_neg (by omega), if_pos selected]
    rfl
  rw [parts, timeoutAll_sess, tls.trans http]
  split
  · exact .inr rfl
  · exact .inl rfl

/-- A slot whose session is between its accept and its copying. -/
def SettingUp (w : Relay) (i : Fin sessMax) : Prop :=
  (w.sess i).used = true ∧ (w.sess i).st ≠ .splice

/-- A pass in which `select` reports a socket the session waits for, and its
read does not block. -/
def WakesUp (w : Relay) (i : Fin sessMax) (io : PassIo) : Prop :=
  0 < io.selected ∧ Woken (w.sess i) (w.rdSet io) (w.wrSet io) ∧
    Reads (w.sess i) (io.sess i)

instance (w : Relay) (i : Fin sessMax) : Decidable (w.SettingUp i) :=
  inferInstanceAs (Decidable (_ ∧ _))

instance (w : Relay) (i : Fin sessMax) (io : PassIo) :
    Decidable (w.WakesUp i io) :=
  inferInstanceAs (Decidable (_ ∧ _))

/-- In how many of these passes the session in a slot is woken, until it copies
or is closed. -/
def wakeUps (i : Fin sessMax) (w : Relay) : List PassIo → Nat
  | [] => 0
  | io :: passes =>
    if w.SettingUp i then
      (if w.WakesUp i io then 1 else 0) +
        -- after the sessions are served another one may take the slot
        if io.selected ≤ 0 ∨ (w.served io).SettingUp i then
          wakeUps i (w.pass io) passes
        else 0
    else 0

theorem wakeUps_of_not_settingUp (behind : ¬ w.SettingUp i)
    (passes : List PassIo) : wakeUps i w passes = 0 := by
  cases passes with
  | nil => rfl
  | cons io rest => exact if_neg behind

/-- Whatever a pass does, the session in a slot that is not served is closed or
left alone. -/
theorem pass_sess_of_not_selected {io : PassIo} (notSelected : io.selected ≤ 0) :
    (w.pass io).sess i = w.sess i ∨ ((w.pass io).sess i).used = false := by
  unfold pass
  dsimp only
  split
  · exact .inl rfl
  · rw [if_neg (by omega), timeoutAll_sess]
    split
    · exact .inr rfl
    · exact .inl rfl

section Served

variable {io : PassIo} (orderly : w.Orderly) (setup : w.SettingUp i)
  (after : (w.served io).SettingUp i)

include orderly setup after

/-- Each wake-up leaves less of the setup, and each other pass all of it. -/
theorem setupLeft_served (selected : 0 < io.selected) :
    (if w.WakesUp i io then 1 else 0) + setupLeft ((w.served io).sess i) ≤
      setupLeft (w.sess i) := by
  obtain ⟨c, sameS, -, sess, -⟩ :=
    foldl_turn_slot (v := w.outside io.waiting) io (w.rdSet io) (w.wrSet io)
      (List.nodup_finRange sessMax) (List.mem_finRange i) setup.1
  change c.s = w.sess i at sameS
  change (w.served io).sess i = _ at sess
  have phase : PhaseOk c.s := sameS ▸ (orderly.slotOk setup.1).phase
  have isSetup : c.s.st ≠ .splice := sameS ▸ setup.2
  obtain ⟨stillUsed, stillSetup⟩ := after
  rw [sess] at stillUsed stillSetup ⊢
  split
  · next wakes =>
    obtain ⟨-, woken, reads⟩ := wakes
    have advances := sessService_setup_advances io.now phase isSetup
      (sameS ▸ woken) (sameS ▸ reads)
    rw [← sameS]
    cases advances with
    | closed gone =>
        rw [stillUsed] at gone
        cases gone
    | setup less =>
        omega
    | bytes copies _ => exact absurd copies stillSetup
    | phEof copies _ _ => exact absurd copies stillSetup
    | pxEof copies _ _ => exact absurd copies stillSetup
  · next idle =>
    have same : sessService (io.sess i) (w.rdSet io) (w.wrSet io) io.now c = c :=
      sessService_setup_same io.now isSetup
        fun both => idle ⟨selected, sameS ▸ both.1, sameS ▸ both.2⟩
    rw [same, sameS, Nat.zero_add]

end Served

/-- A session in its setup has something left to do. -/
theorem setupLeft_pos (orderly : w.Orderly) (setup : w.SettingUp i) :
    0 < setupLeft (w.sess i) := by
  have phase := (orderly.slotOk setup.1).phase
  unfold setupLeft
  cases st : (w.sess i).st with
  | head => exact Nat.succ_pos _
  | connecting => exact Nat.succ_pos _
  | reply =>
      simp only [PhaseOk, st] at phase
      dsimp only
      omega
  | splice => exact absurd st setup.2

theorem reachable_pass_of_reachable {start : Relay}
    (reached : Reachable step start w) (io : PassIo) :
    Reachable step start (w.pass io) :=
  reached.trans (reachable_pass w io)

/-- What is left of the setup bounds what is counted later, where the pass ends
with the session as it is or without one. -/
theorem wakeUps_pass_le {io : PassIo} {rest : List PassIo} {s : Sess}
    (later : wakeUps i (w.pass io) rest ≤ setupLeft ((w.pass io).sess i))
    (ends : (w.pass io).sess i = s ∨ ((w.pass io).sess i).used = false) :
    wakeUps i (w.pass io) rest ≤ setupLeft s := by
  rcases ends with same | gone
  · rw [← same]
    exact later
  · have behind : ¬ (w.pass io).SettingUp i := by
      intro setup
      rw [setup.1] at gone
      cases gone
    rw [wakeUps_of_not_settingUp behind]
    exact Nat.zero_le _

/-- A pass uses up as much of the setup as it counts. -/
theorem wakeUps_cons_le {io : PassIo} {rest : List PassIo}
    (orderly : w.Orderly) (setup : w.SettingUp i)
    (later : wakeUps i (w.pass io) rest ≤ setupLeft ((w.pass io).sess i)) :
    wakeUps i w (io :: rest) ≤ setupLeft (w.sess i) := by
  have positive := setupLeft_pos orderly setup
  rw [wakeUps, if_pos setup]
  by_cases selected : 0 < io.selected
  · by_cases after : (w.served io).SettingUp i
    · have less := setupLeft_served orderly setup after selected
      have rest := wakeUps_pass_le later (pass_sess_of_served selected after.1)
      have goesOn : io.selected ≤ 0 ∨ (w.served io).SettingUp i := .inr after
      rw [if_pos goesOn]
      omega
    · have behind : ¬(io.selected ≤ 0 ∨ (w.served io).SettingUp i) :=
        not_or.mpr ⟨not_le.mpr selected, after⟩
      rw [if_neg behind]
      split <;> omega
  · have asleep : ¬ w.WakesUp i io := fun wakes => selected wakes.1
    have notSelected : io.selected ≤ 0 := not_lt.mp selected
    have rest :=
      wakeUps_pass_le later (pass_sess_of_not_selected (i := i) notSelected)
    rw [if_neg asleep, if_pos (.inl notSelected)]
    omega

theorem wakeUps_le_setupLeft (http tls : ListenIo) (rd : Redirector)
    (reached : Reachable Relay.step (proxyTaskStart http tls rd) w)
    (passes : List PassIo) : wakeUps i w passes ≤ setupLeft (w.sess i) := by
  induction passes generalizing w with
  | nil => exact Nat.zero_le _
  | cons io rest inductionHypothesis =>
      by_cases setup : w.SettingUp i
      · exact wakeUps_cons_le (run_orderly http tls rd reached) setup
          (inductionHypothesis (reachable_pass_of_reachable reached io))
      · rw [wakeUps_of_not_settingUp setup]
        exact Nat.zero_le _

theorem setupLeft_le (s : Sess) : setupLeft s ≤ upSz + downSz + 1 := by
  unfold setupLeft
  cases s.st with
  | head =>
      dsimp only
      omega
  | connecting =>
      dsimp only
      omega
  | reply =>
      dsimp only
      omega
  | splice => exact Nat.zero_le _

/-- In every state of the task, a session in use asks `select` for one of its
sockets, and a pass that finds one ready takes the session further, unless a
call would block. -/
theorem proxyTask_advances (http tls : ListenIo) (rd : Redirector)
    (passes : List PassIo) (i : Fin sessMax)
    (isUsed : ((proxyTask http tls rd passes).sess i).used = true) :
    let w := proxyTask http tls rd passes
    ((sessFds (w.sess i)).1 ≠ [] ∨ (sessFds (w.sess i)).2 ≠ []) ∧
      ∀ io : PassIo, Woken (w.sess i) (w.rdSet io) (w.wrSet io) →
        Answers (io.sess i) → Advances (w.ctx i) ((w.served io).ctx i) := by
  intro w
  have reached := reachable_proxyTask http tls rd passes
  have live : w.Live := run_live http tls rd reached
  refine ⟨(live i isUsed).asks, ?_⟩
  intro io woken answers
  exact
    live.served_advances (run_orderly http tls rd reached) isUsed woken answers

/-- The proxy is on and the phone has dialled a web port. -/
def webDialled : Redirector :=
  ((Redirector.boot ⟨some 1, some [112], some 3130⟩).step
    (.proxyInit true)).outsideRun (.wifi true :: dial 5001 80)

/-- A pass that accepts the phone's connection. -/
def webConnects : PassIo :=
  { quietPass with
    selected := 1
    readable := fun fd => fd == 3
    accept := fun _ => phoneConn 5001 5 }

/-- A pass in which the phone sends the beginning of its request. -/
def firstBytes : PassIo :=
  { quietPass with
    selected := 1
    readable := fun fd => fd == 5
    sess := fun _ =>
      { quietSess with
        recvPh := .bytes [71, 69, 84], recvPx := .failed
        sendPh := .failed, sendPx := .failed } }

theorem firstBytes_answers (i : Fin sessMax) : Answers (firstBytes.sess i) where
  recvPh := by simp [firstBytes]
  recvPx := by simp [firstBytes]
  sendPh := by simp [firstBytes]
  sendPx := by simp [firstBytes]

/-- The session was accepted, and the phone sends. -/
theorem proxyTask_advances_first :
    let w := proxyTask ⟨3, true⟩ ⟨4, true⟩ webDialled [webConnects]
    Advances (w.ctx 0) ((w.served firstBytes).ctx 0) :=
  (proxyTask_advances ⟨3, true⟩ ⟨4, true⟩ webDialled [webConnects] 0
    (by decide +kernel)).2 firstBytes
    (.inl ⟨5, by decide +kernel, by decide +kernel⟩) (firstBytes_answers 0)

/-- From any state of the task on, the session in a slot is woken at most 3585
times before it copies or is closed, however its bytes come and whatever the
other sessions do in between. -/
theorem proxyTask_setup_ends (http tls : ListenIo) (rd : Redirector)
    (passes more : List PassIo) (i : Fin sessMax) :
    wakeUps i (proxyTask http tls rd passes) more ≤ 3585 :=
  (wakeUps_le_setupLeft http tls rd (reachable_proxyTask http tls rd passes)
    more).trans (setupLeft_le _)

/-- Only the second and the last of these passes wake the session. -/
example :
    wakeUps 0 (proxyTask ⟨3, true⟩ ⟨4, true⟩ webDialled [webConnects])
        [quietPass, firstBytes, quietPass, firstBytes] = 2 := by
  decide +kernel

end Relay

end VeteraBridge.Proxy

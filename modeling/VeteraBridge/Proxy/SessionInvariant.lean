import VeteraBridge.Lib.Ownership
import VeteraBridge.Proxy.Session

/-!
# What a session keeps

A session is looked at from outside: `others` are the descriptors and `blocks`
the memory that belong to somebody else, and `base` is the number of other
sessions.  A session in use holds its own descriptors and its own block; every
function of a session either keeps that, or closes the session and gives all
of it back.  In both cases what belongs to others stays as it was.
-/

namespace VeteraBridge.Proxy

open CopyBuffer

/-! ## A session and the rest -/

section Rest

variable (others : Int → Prop) (blocks : Nat → Prop) (base : Int)

/-- What belongs to others is in use, and no descriptor or block was given
back that was not. -/
structure Kept (os : Os) : Prop where
  noFaults : os.faults = 0
  othersOpen : ∀ fd, others fd → os.isOpen fd = true
  othersLive : ∀ m, blocks m → os.isLive m = true

structure OwnFd (os : Os) (fd : Int) : Prop where
  nonneg : 0 ≤ fd
  isOpen : os.isOpen fd = true
  exclusive : ¬ others fd

structure OwnBlock (os : Os) (m : Nat) : Prop where
  isLive : os.isLive m = true
  exclusive : ¬ blocks m

/-- A session in use with its own descriptors and memory. -/
structure Holding (c : SessCtx) : Prop where
  kept : Kept others blocks c.shared.os
  used : c.s.used = true
  ph : OwnFd others c.shared.os c.s.ph
  px :
    c.s.px = -1 ∨
      (OwnFd others c.shared.os c.s.px ∧ c.s.px ≠ c.s.ph)
  mem : ∃ m, c.s.mem = some m ∧ OwnBlock blocks c.shared.os m
  count : c.shared.activeSessions = base + 1

structure Left (c : SessCtx) : Prop where
  kept : Kept others blocks c.shared.os
  cleared : c.s = Sess.cleared
  count : c.shared.activeSessions = base

end Rest

/-- The offsets lie in the buffers. -/
structure Bounded (s : Sess) : Prop where
  up : s.up.Within upCap
  down : s.down.Within downSz

/-- The proxy socket and the buffers in each state. -/
def PhaseOk (s : Sess) : Prop :=
  match s.st with
  | .head =>
      s.px = -1 ∧ s.up.off = 0 ∧ s.up.data.length < upSz ∧ s.down.off = 0
  | .connecting => s.px ≠ -1 ∧ s.down.off = 0
  | .reply =>
      s.px ≠ -1 ∧ s.down.off = 0 ∧ s.down.data.length < downSz - 1
  | .splice => s.px ≠ -1

/-- Where a session function leaves its session: closed, or in use and in
order. -/
inductive Lands (others : Int → Prop) (blocks : Nat → Prop) (base : Int)
    (c : SessCtx) : Prop
  | left (gone : Left others blocks base c)
  | stays (holding : Holding others blocks base c) (bounded : Bounded c.s)
      (phase : PhaseOk c.s)

section Functions

variable {others : Int → Prop} {blocks : Nat → Prop} {base : Int}
  {c : SessCtx} {os : Os}

/-! ### Steps on the descriptors and the memory -/

theorem Kept.close (kept : Kept others blocks os) {fd : Int}
    (own : OwnFd others os fd) : Kept others blocks (os.close fd) := by
  rw [Os.close_of_isOpen own.isOpen]
  refine ⟨kept.noFaults, ?_, kept.othersLive⟩
  intro other belongs
  have different : other ≠ fd := fun same => own.exclusive (same ▸ belongs)
  dsimp only
  rw [Function.update_of_ne different]
  exact kept.othersOpen other belongs

theorem OwnFd.after_close {fd other : Int} (own : OwnFd others os fd)
    (isOther : OwnFd others os other) (different : fd ≠ other) :
    OwnFd others (os.close other) fd := by
  refine ⟨own.nonneg, ?_, own.exclusive⟩
  rw [Os.close_of_isOpen isOther.isOpen]
  dsimp only
  rw [Function.update_of_ne different]
  exact own.isOpen

theorem Kept.free (kept : Kept others blocks os) {m : Nat}
    (own : OwnBlock blocks os m) : Kept others blocks (os.free (some m)) := by
  rw [Os.free_of_isLive own.isLive]
  refine ⟨kept.noFaults, kept.othersOpen, ?_⟩
  intro other belongs
  have different : other ≠ m := fun same => own.exclusive (same ▸ belongs)
  dsimp only
  rw [Function.update_of_ne different]
  exact kept.othersLive other belongs

theorem OwnBlock.of_isLive {after : Os} {m : Nat} (own : OwnBlock blocks os m)
    (same : after.isLive m = os.isLive m) : OwnBlock blocks after m :=
  ⟨same.trans own.isLive, own.exclusive⟩

theorem Os.close_isLive (os : Os) (fd : Int) (m : Nat) :
    (os.close fd).isLive m = os.isLive m := by
  unfold Os.close
  split <;> rfl

theorem closeFd_isLive (os : Os) (fd : Int) (m : Nat) :
    (closeFd fd os).isLive m = os.isLive m := by
  unfold closeFd
  split
  · exact Os.close_isLive os fd m
  · rfl

theorem closeFd_of_own {fd : Int} (own : OwnFd others os fd) :
    closeFd fd os = os.close fd := by
  rw [closeFd, if_pos own.nonneg]

theorem Kept.ownFd_open (kept : Kept others blocks os) {hint : Int}
    (nonneg : 0 ≤ hint) (fresh : os.isOpen hint = false) :
    OwnFd others
      { os with isOpen := Function.update os.isOpen hint true } hint := by
  refine ⟨nonneg, ?_, ?_⟩
  · dsimp only
    rw [Function.update_self]
  · intro belongs
    rw [kept.othersOpen hint belongs] at fresh
    cases fresh

theorem isOpen_update_true {isOpen : Int → Bool} {fd : Int} (hint : Int)
    (already : isOpen fd = true) :
    Function.update isOpen hint true fd = true := by
  by_cases here : fd = hint
  · rw [here, Function.update_self]
  · rw [Function.update_of_ne here]
    exact already

theorem Kept.open_update (kept : Kept others blocks os) (hint : Int) :
    Kept others blocks
      { os with isOpen := Function.update os.isOpen hint true } :=
  ⟨kept.noFaults,
    fun fd belongs => isOpen_update_true hint (kept.othersOpen fd belongs),
    kept.othersLive⟩

/-! ### The parts of a session that the descriptors depend on -/

/-- Being in possession depends on the descriptors, the block, the flag and the
count only. -/
theorem Holding.congr {after : SessCtx} (holding : Holding others blocks base c)
    (used : after.s.used = c.s.used) (ph : after.s.ph = c.s.ph)
    (px : after.s.px = c.s.px) (mem : after.s.mem = c.s.mem)
    (sameOs : after.shared.os = c.shared.os)
    (count : after.shared.activeSessions = c.shared.activeSessions) :
    Holding others blocks base after := by
  constructor
  · rw [sameOs]
    exact holding.kept
  · rw [used]
    exact holding.used
  · rw [sameOs, ph]
    exact holding.ph
  · rw [sameOs, ph, px]
    exact holding.px
  · rw [sameOs, mem]
    exact holding.mem
  · rw [count]
    exact holding.count

/-- A scratch block that is taken and given back leaves everything as it
was. -/
theorem Holding.scratch (holding : Holding others blocks base c) {m : Nat}
    (fresh : c.shared.os.isLive m = false) :
    Holding others blocks base
      ((c.withOs
        { c.shared.os with
          isLive := Function.update c.shared.os.isLive m true }).withOs
        (Os.free
          { c.shared.os with
            isLive := Function.update c.shared.os.isLive m true }
          (some m))) := by
  have restored :
      Os.free
          { c.shared.os with
            isLive := Function.update c.shared.os.isLive m true }
          (some m) = c.shared.os := by
    rw [Os.free_of_isLive (Function.update_self ..), Function.update_idem,
      ← fresh, Function.update_eq_self]
  rw [restored]
  exact holding.congr rfl rfl rfl rfl rfl rfl

/-- The deadline is no part of the order a session is in. -/
theorem Lands.withDeadline (lands : Lands others blocks base c)
    (inUse : c.s.used = true) (deadline : UInt32) :
    Lands others blocks base
      (c.withSess { c.s with deadline := deadline }) := by
  cases lands with
  | left gone =>
      rw [gone.cleared] at inUse
      cases inUse
  | stays holding bounded phase =>
      exact
        Lands.stays (holding.congr rfl rfl rfl rfl rfl rfl)
          ⟨bounded.up, bounded.down⟩ phase

/-! ### Closing -/

theorem Holding.sessClose (holding : Holding others blocks base c)
    (io : SessIo) (why : String) :
    Left others blocks base (sessClose io why c) := by
  obtain ⟨m, mem, own⟩ := holding.mem
  refine ⟨?_, rfl, ?_⟩
  · change
      Kept others blocks
        ((closeFd c.s.px (closeFd c.s.ph c.shared.os)).free c.s.mem)
    have ownAfter :
        OwnBlock blocks (closeFd c.s.px (closeFd c.s.ph c.shared.os)) m := by
      apply own.of_isLive
      rw [closeFd_isLive, closeFd_isLive]
    rw [mem]
    apply Kept.free _ ownAfter
    rw [closeFd_of_own holding.ph]
    have closed := holding.kept.close holding.ph
    rcases holding.px with noProxy | ⟨px, different⟩
    · rw [noProxy]
      exact closed
    · have pxAfter := px.after_close holding.ph different
      rw [closeFd_of_own pxAfter]
      exact closed.close pxAfter
  · change c.shared.activeSessions - 1 = base
    rw [holding.count]
    omega

theorem Holding.closes (holding : Holding others blocks base c) (io : SessIo)
    (why : String) : Lands others blocks base (Proxy.sessClose io why c) :=
  Lands.left (holding.sessClose io why)

theorem Holding.fails (holding : Holding others blocks base c) (io : SessIo)
    (why : String) : Lands others blocks base (sessFail io why c) :=
  holding.closes io why

/-! ### Connecting -/

theorem downSz_pos : 0 < downSz - 1 := by decide

theorem upSz_pos : 0 < upSz := by decide

theorem upSz_le_upCap : upSz ≤ upCap := Nat.le_add_right upSz 512

theorem onConnected_lands (io : SessIo) (now : UInt32)
    (holding : Holding others blocks base c) (bounded : Bounded c.s)
    (hasProxy : c.s.px ≠ -1) (downOff : c.s.down.off = 0) :
    Lands others blocks base (onConnected io now c) := by
  unfold onConnected
  split
  · dsimp only
    split
    · exact holding.fails io _
    · split
      · refine Holding.fails ?_ io _
        exact holding.congr rfl rfl rfl rfl rfl rfl
      · refine Lands.stays (holding.congr rfl rfl rfl rfl rfl rfl) ?_ ?_
        · exact ⟨bounded.up, downOff.le, Nat.zero_le _⟩
        · exact ⟨hasProxy, downOff, downSz_pos⟩
  · refine Lands.stays (holding.congr rfl rfl rfl rfl rfl rfl) ?_ ?_
    · exact ⟨⟨Nat.zero_le _, bounded.up.length_le⟩, bounded.down⟩
    · exact hasProxy

theorem startConnect_lands (io : SessIo) (now : UInt32)
    (holding : Holding others blocks base c) (bounded : Bounded c.s)
    (noProxy : c.s.px = -1) (downOff : c.s.down.off = 0) :
    Lands others blocks base (startConnect io now c) := by
  unfold startConnect
  dsimp only
  split
  · refine Holding.fails ?_ io _
    exact holding.congr rfl rfl rfl rfl rfl rfl
  · change
      Lands others blocks base
        (if (c.shared.os.open' io.socket).1 < 0 then _ else _)
    rcases Os.open'_cases c.shared.os io.socket with
      refused | ⟨nonneg, fresh, opened⟩
    · simp only [SessCtx.withResolver, refused]
      refine Holding.fails ?_ io _
      exact holding.congr rfl rfl noProxy.symm rfl rfl rfl
    · simp only [SessCtx.withResolver, opened, if_neg (not_lt.mpr nonneg)]
      have ownPx := holding.kept.ownFd_open nonneg fresh
      have different : io.socket ≠ c.s.ph := by
        intro same
        rw [same, holding.ph.isOpen] at fresh
        cases fresh
      have hasProxy : io.socket ≠ -1 := by omega
      have connected :
          Holding others blocks base
            { c with
              s := { c.s with px := io.socket }
              shared :=
                { c.shared with
                  os :=
                    { c.shared.os with
                      isOpen :=
                        Function.update c.shared.os.isOpen io.socket true } } } := by
        refine ⟨holding.kept.open_update io.socket, holding.used, ?_,
          Or.inr ⟨ownPx, different⟩, ?_, holding.count⟩
        · exact
            ⟨holding.ph.nonneg, isOpen_update_true _ holding.ph.isOpen,
              holding.ph.exclusive⟩
        · obtain ⟨m, mem, own⟩ := holding.mem
          exact ⟨m, mem, own.of_isLive rfl⟩
      split
      · exact
          onConnected_lands io now (connected.congr rfl rfl rfl rfl rfl rfl)
            ⟨bounded.up, bounded.down⟩ hasProxy downOff
      · exact
          Lands.stays (connected.congr rfl rfl rfl rfl rfl rfl)
            ⟨bounded.up, bounded.down⟩ ⟨hasProxy, downOff⟩
      · refine Holding.fails ?_ io _
        exact connected.congr rfl rfl rfl rfl rfl rfl

/-! ### Reading the request and the reply -/

/-- `head_ready` is called with a buffer that may just have become full. -/
theorem headReady_lands (io : SessIo) (now : UInt32)
    (holding : Holding others blocks base c) (bounded : Bounded c.s)
    (isHead : c.s.st = .head) (noProxy : c.s.px = -1)
    (upOff : c.s.up.off = 0) (upFits : c.s.up.data.length ≤ upSz)
    (downOff : c.s.down.off = 0) :
    Lands others blocks base (headReady io now c) := by
  have waits (notFull : c.s.up.data.length < upSz) :
      Lands others blocks base c := by
    refine Lands.stays holding bounded ?_
    rw [PhaseOk, isHead]
    exact ⟨noProxy, upOff, notFull, downOff⟩
  unfold headReady
  dsimp only
  split
  · split
    · next short =>
      exact waits (lt_trans short (by decide))
    · split
      · next incomplete =>
        exact waits incomplete.2.2
      · apply startConnect_lands
        · exact holding.congr rfl rfl rfl rfl rfl rfl
        · exact ⟨bounded.up, bounded.down⟩
        · exact noProxy
        · exact downOff
  · split
    · split
      · exact holding.fails io _
      · next notFull =>
        exact waits (not_le.mp notFull)
    · next e _ =>
      rcases Os.malloc_cases c.shared.os io.outMem with
        refused | ⟨m, _, fresh, allocated⟩
      · simp only [refused]
        exact holding.fails io _
      · simp only [allocated]
        have scratch := holding.scratch fresh
        split
        · refine Holding.fails ?_ io _
          exact scratch
        · next head host rewritten =>
          have headFits := httpRewrite_length rewritten
          have bodyFits : (c.s.up.data.drop (e + 4)).length ≤ upCap := by
            rw [List.length_drop]
            unfold upCap
            omega
          apply startConnect_lands
          · exact scratch.congr rfl rfl rfl rfl rfl rfl
          · refine ⟨⟨?_, ?_⟩, bounded.down⟩
            · exact upOff.le.trans (Nat.zero_le _)
            · change (head ++ c.s.up.data.drop (e + 4)).length ≤ upCap
              rw [List.length_append]
              omega
          · exact noProxy
          · exact downOff

theorem replyReady_lands (io : SessIo) (now : UInt32)
    (holding : Holding others blocks base c) (bounded : Bounded c.s)
    (isReply : c.s.st = .reply) (hasProxy : c.s.px ≠ -1)
    (downOff : c.s.down.off = 0) :
    Lands others blocks base (replyReady io now c) := by
  unfold replyReady
  dsimp only
  split
  · split
    · exact holding.fails io _
    · next notFull =>
      refine Lands.stays holding bounded ?_
      rw [PhaseOk, isReply]
      exact ⟨hasProxy, downOff, not_le.mp notFull⟩
  · split
    · refine Lands.stays (holding.congr rfl rfl rfl rfl rfl rfl) ?_ hasProxy
      refine ⟨⟨Nat.zero_le _, bounded.up.length_le⟩, Nat.zero_le _, ?_⟩
      change (c.s.down.data.drop _).length ≤ downSz
      rw [List.length_drop]
      exact (Nat.sub_le _ _).trans bounded.down.length_le
    · exact holding.closes io _

/-! ### Copying -/

theorem pump_within {size capacity : Nat} (fits : size ≤ capacity)
    {writable readable : Bool} {send : SendRes} {recv : RecvRes}
    {buffer : CopyBuffer UInt8} {eof : Bool}
    (within : buffer.Within capacity) {after : CopyBuffer UInt8}
    {eofAfter moved : Bool} {event : PumpEvent}
    (pumped :
      pump size writable readable send recv buffer eof =
        .ok after eofAfter moved event) :
    after.Within capacity := by
  cases pump_pumped pumped with
  | idles =>
      exact within
  | sends n bound =>
      exact within.drain bound
  | ends =>
      exact within
  | receives _ b _ short =>
      exact Within.fill (short.trans fits)

theorem spliceEnd_lands (io : SessIo) (now : UInt32) (moved : Bool)
    (holding : Holding others blocks base c) (bounded : Bounded c.s)
    (isSplice : c.s.st = .splice) (hasProxy : c.s.px ≠ -1) :
    Lands others blocks base (spliceEnd io now moved c) := by
  -- Passing on the end of stream touches neither buffers nor descriptors.
  have after :
      Holding others blocks base (passEof c) ∧ Bounded (passEof c).s ∧
        (passEof c).s.st = .splice ∧ (passEof c).s.px ≠ -1 := by
    unfold passEof
    split
    · exact
        ⟨holding.congr rfl rfl rfl rfl rfl rfl,
          ⟨bounded.up, bounded.down⟩, isSplice, hasProxy⟩
    · exact ⟨holding, bounded, isSplice, hasProxy⟩
  obtain ⟨holding, bounded, isSplice, hasProxy⟩ := after
  have phase : PhaseOk (passEof c).s := by
    rw [PhaseOk, isSplice]
    exact hasProxy
  rw [spliceEnd_eq]
  split
  · exact holding.closes io _
  · split
    · exact
        (Lands.stays holding bounded phase).withDeadline holding.used
          (now + idleMs)
    · exact Lands.stays holding bounded phase

theorem splice_lands (io : SessIo) (rd wr : Int → Bool) (now : UInt32)
    (holding : Holding others blocks base c) (bounded : Bounded c.s)
    (isSplice : c.s.st = .splice) (hasProxy : c.s.px ≠ -1) :
    Lands others blocks base (splice io rd wr now c) := by
  unfold splice
  split
  · exact holding.closes io _
  · exact holding.closes io _
  · next up phEof movedUp event upPumped =>
    have upWithin := pump_within upSz_le_upCap bounded.up upPumped
    have copied :
        Holding others blocks base
          { c with
            s := { c.s with up := up, phEof := phEof }
            tr := c.tr ++ upEvents event } :=
      holding.congr rfl rfl rfl rfl rfl rfl
    dsimp only
    split
    · refine Holding.closes ?_ io _
      exact copied
    · refine Holding.closes ?_ io _
      exact copied
    · next down pxEof movedDown event downPumped =>
      have downWithin := pump_within (le_refl downSz) bounded.down downPumped
      apply spliceEnd_lands
      · exact copied.congr rfl rfl rfl rfl rfl rfl
      · exact ⟨upWithin, downWithin⟩
      · exact isSplice
      · exact hasProxy

/-! ### One service call -/

theorem length_of_upTo {res : RecvRes} {size : Nat} {b : List UInt8}
    (received : res.upTo size = .bytes b) : b.length ≤ size := by
  cases res with
  | bytes all =>
      cases received
      exact List.length_take_le size all
  | again =>
      cases received
  | failed =>
      cases received

theorem sessService_lands (io : SessIo) (rd wr : Int → Bool) (now : UInt32)
    (holding : Holding others blocks base c) (bounded : Bounded c.s)
    (phase : PhaseOk c.s) :
    Lands others blocks base (sessService io rd wr now c) := by
  have unchanged : Lands others blocks base c :=
    Lands.stays holding bounded phase
  unfold sessService
  cases state : c.s.st with
  | head =>
      simp only [PhaseOk, state] at phase
      obtain ⟨noProxy, upOff, upFits, downOff⟩ := phase
      dsimp only
      split
      · split
        · exact holding.closes io _
        · exact unchanged
        · next b received =>
          have size := length_of_upTo received
          have filled : (c.s.up.data ++ b).length ≤ upSz := by
            rw [List.length_append]
            omega
          split
          · refine Holding.closes ?_ io _
            exact holding.congr rfl rfl rfl rfl rfl rfl
          · apply headReady_lands
            · exact holding.congr rfl rfl rfl rfl rfl rfl
            · refine ⟨⟨upOff.le.trans (Nat.zero_le _), ?_⟩, bounded.down⟩
              exact filled.trans upSz_le_upCap
            · exact state
            · exact noProxy
            · exact upOff
            · exact filled
            · exact downOff
      · exact unchanged
  | connecting =>
      simp only [PhaseOk, state] at phase
      dsimp only
      split
      · split
        · refine Holding.fails ?_ io _
          exact holding.congr rfl rfl rfl rfl rfl rfl
        · exact onConnected_lands io now holding bounded phase.1 phase.2
      · exact unchanged
  | reply =>
      simp only [PhaseOk, state] at phase
      obtain ⟨hasProxy, downOff, downFits⟩ := phase
      dsimp only
      split
      · split
        · exact holding.fails io _
        · exact unchanged
        · next b received =>
          have size := length_of_upTo received
          have filled : (c.s.down.data ++ b).length ≤ downSz := by
            rw [List.length_append]
            omega
          split
          · refine Holding.fails ?_ io _
            exact holding.congr rfl rfl rfl rfl rfl rfl
          · apply replyReady_lands
            · exact holding.congr rfl rfl rfl rfl rfl rfl
            · exact
                ⟨bounded.up, downOff.le.trans (Nat.zero_le _), filled⟩
            · exact state
            · exact hasProxy
            · exact downOff
      · exact unchanged
  | splice =>
      simp only [PhaseOk, state] at phase
      exact splice_lands io rd wr now holding bounded state phase

end Functions

end VeteraBridge.Proxy

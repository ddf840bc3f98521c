import Mathlib.Data.Fintype.Card
import VeteraBridge.Proxy.RelayTask
import VeteraBridge.Proxy.SessionInvariant

/-!
# The sessions of the relay task

Every step of the relay task keeps its table of sessions in order: descriptors
and blocks are owned by one session each, `active_sessions` counts the slots in
use, and each session is in order for its state.  One lemma takes the session
functions to the table (`Orderly.reassign`): whatever they do to one session,
the others are the rest they leave alone.
-/

namespace VeteraBridge.Proxy

open EventRun Ownership

theorem minusOne_neg : ¬ (0 : Int) ≤ -1 := by decide

/-- The number of slots in use. -/
def usedCount (sess : Fin sessMax → Sess) : Nat :=
  (Finset.univ.filter fun i => (sess i).used = true).card

/-- The number of slots in use other than `i`. -/
def otherCount (sess : Fin sessMax → Sess) (i : Fin sessMax) : Nat :=
  ((Finset.univ.erase i).filter fun k => (sess k).used = true).card

theorem usedCount_eq (sess : Fin sessMax → Sess) (i : Fin sessMax) :
    usedCount sess = otherCount sess i + (sess i).used.toNat := by
  unfold usedCount otherCount
  rw [← Finset.insert_erase (Finset.mem_univ i), Finset.filter_insert,
    Finset.erase_insert (Finset.notMem_erase i Finset.univ)]
  cases isUsed : (sess i).used with
  | false =>
      rfl
  | true =>
      rw [if_pos rfl, Finset.card_insert_of_notMem (by simp)]
      rfl

theorem otherCount_update (sess : Fin sessMax → Sess) (i : Fin sessMax)
    (s : Sess) :
    otherCount (Function.update sess i s) i = otherCount sess i := by
  unfold otherCount
  congr 1
  apply Finset.filter_congr
  intro k notHere
  rw [Function.update_of_ne (Finset.ne_of_mem_erase notHere)]

namespace Relay

/-- What the loop keeps, as it stands at the end of every pass. -/
structure InOrder (w : Relay) : Prop where
  count : w.shared.activeSessions = usedCount w.sess
  unused :
    ∀ i, (w.sess i).used = false →
      (w.sess i).ph = -1 ∧ (w.sess i).px = -1 ∧ (w.sess i).mem = none
  phOpen :
    ∀ i, (w.sess i).used = true →
      0 ≤ (w.sess i).ph ∧ w.shared.os.isOpen (w.sess i).ph = true
  pxHead :
    ∀ i, (w.sess i).used = true →
      ((w.sess i).px = -1 ↔ (w.sess i).st = .head)
  pxOpen :
    ∀ i, (w.sess i).used = true → (w.sess i).st ≠ .head →
      0 ≤ (w.sess i).px ∧ w.shared.os.isOpen (w.sess i).px = true
  upBounds :
    ∀ i, (w.sess i).up.off ≤ (w.sess i).up.data.length ∧
      (w.sess i).up.data.length ≤ upCap
  downBounds :
    ∀ i, (w.sess i).down.off ≤ (w.sess i).down.data.length ∧
      (w.sess i).down.data.length ≤ downSz
  headRoom :
    ∀ i, (w.sess i).used = true → (w.sess i).st = .head →
      (w.sess i).up.data.length < upSz
  replyRoom :
    ∀ i, (w.sess i).used = true → (w.sess i).st = .reply →
      (w.sess i).down.data.length < downSz - 1
  noFaults : w.shared.os.faults = 0

/-! ## Who holds what -/

/-- The descriptors of a slot, and those of the listeners. -/
def holdsFd (w : Relay) : Option (Fin sessMax) → Int → Prop
  | none, fd => w.Listening ∧ (fd = w.lh ∨ fd = w.lt)
  | some i, fd => 0 ≤ fd ∧ ((w.sess i).ph = fd ∨ (w.sess i).px = fd)

def holdsBlock (w : Relay) (i : Fin sessMax) (m : Nat) : Prop :=
  (w.sess i).mem = some m

/-- A session in use on its own: two different descriptors, a block, and
buffers in order for its state. -/
structure SlotOk (s : Sess) : Prop where
  used : s.used = true
  ph : 0 ≤ s.ph
  px : s.px = -1 ∨ (0 ≤ s.px ∧ s.px ≠ s.ph)
  mem : ∃ m, s.mem = some m
  bounded : Bounded s
  phase : PhaseOk s

/-- The invariant of the single steps. -/
structure Orderly (w : Relay) : Prop where
  noFaults : w.shared.os.faults = 0
  fds : Exclusive w.holdsFd fun fd => w.shared.os.isOpen fd = true
  blocks : Exclusive w.holdsBlock fun m => w.shared.os.isLive m = true
  count : w.shared.activeSessions = usedCount w.sess
  slots : ∀ i, w.sess i = Sess.cleared ∨ SlotOk (w.sess i)

variable {w : Relay} {i : Fin sessMax}

/-- What a session in slot `i` has to leave alone. -/
abbrev othersFds (w : Relay) (i : Fin sessMax) : Int → Prop :=
  HeldByOthers w.holdsFd (some i)

abbrev othersBlocks (w : Relay) (i : Fin sessMax) : Nat → Prop :=
  HeldByOthers w.holdsBlock i

/-! ## From the table to one session -/

theorem Orderly.kept (orderly : w.Orderly) (i : Fin sessMax) :
    Kept (w.othersFds i) (w.othersBlocks i) w.shared.os :=
  ⟨orderly.noFaults, fun _ held => orderly.fds.inUse_of_heldByOthers held,
    fun _ held => orderly.blocks.inUse_of_heldByOthers held⟩

theorem Orderly.slotOk (orderly : w.Orderly)
    (isUsed : (w.sess i).used = true) : SlotOk (w.sess i) := by
  rcases orderly.slots i with cleared | ok
  · rw [cleared] at isUsed
    cases isUsed
  · exact ok

theorem Orderly.cleared (orderly : w.Orderly)
    (notUsed : (w.sess i).used = false) : w.sess i = Sess.cleared := by
  rcases orderly.slots i with cleared | ok
  · exact cleared
  · rw [ok.used] at notUsed
    cases notUsed

/-- A session in use holds what is its own, as the session functions need
it. -/
theorem Orderly.holding (orderly : w.Orderly)
    (isUsed : (w.sess i).used = true) :
    Holding (w.othersFds i) (w.othersBlocks i) (otherCount w.sess i)
      (w.ctx i) := by
  have ok := orderly.slotOk isUsed
  have own (fd : Int) (held : w.holdsFd (some i) fd) :
      OwnFd (w.othersFds i) w.shared.os fd :=
    ⟨held.1, orderly.fds.inUse _ fd held,
      orderly.fds.not_heldByOthers held⟩
  refine ⟨orderly.kept i, isUsed, own _ ⟨ok.ph, Or.inl rfl⟩, ?_, ?_, ?_⟩
  · rcases ok.px with noProxy | ⟨nonneg, different⟩
    · exact Or.inl noProxy
    · exact Or.inr ⟨own _ ⟨nonneg, Or.inr rfl⟩, different⟩
  · obtain ⟨m, mem⟩ := ok.mem
    exact
      ⟨m, mem, orderly.blocks.inUse i m mem,
        orderly.blocks.not_heldByOthers mem⟩
  · change w.shared.activeSessions = _
    rw [orderly.count, usedCount_eq w.sess i, isUsed]
    rfl

/-! ## From one session to the table -/

section Lands

variable {others : Int → Prop} {blocks : Nat → Prop} {base : Int}
  {c : SessCtx}

theorem lands_kept (lands : Lands others blocks base c) :
    Kept others blocks c.shared.os := by
  cases lands with
  | left gone =>
      exact gone.kept
  | stays holding _ _ =>
      exact holding.kept

theorem lands_fd (lands : Lands others blocks base c) {fd : Int}
    (nonneg : 0 ≤ fd) (isOne : c.s.ph = fd ∨ c.s.px = fd) :
    c.shared.os.isOpen fd = true ∧ ¬ others fd := by
  cases lands with
  | left gone =>
      rw [gone.cleared] at isOne
      rcases isOne with rfl | rfl <;> exact absurd nonneg minusOne_neg
  | stays holding _ _ =>
      rcases isOne with rfl | rfl
      · exact ⟨holding.ph.isOpen, holding.ph.exclusive⟩
      · rcases holding.px with noProxy | ⟨own, _⟩
        · rw [noProxy] at nonneg
          exact absurd nonneg minusOne_neg
        · exact ⟨own.isOpen, own.exclusive⟩

theorem lands_block (lands : Lands others blocks base c) {m : Nat}
    (held : c.s.mem = some m) :
    c.shared.os.isLive m = true ∧ ¬ blocks m := by
  cases lands with
  | left gone =>
      rw [gone.cleared] at held
      cases held
  | stays holding _ _ =>
      obtain ⟨own, mem, isOwn⟩ := holding.mem
      rw [held] at mem
      cases mem
      exact ⟨isOwn.isLive, isOwn.exclusive⟩

theorem lands_count (lands : Lands others blocks base c) :
    c.shared.activeSessions = base + c.s.used.toNat := by
  cases lands with
  | left gone =>
      rw [gone.cleared, gone.count]
      exact (add_zero base).symm
  | stays holding _ _ =>
      rw [holding.used, holding.count]
      rfl

theorem lands_slot (lands : Lands others blocks base c) :
    c.s = Sess.cleared ∨ SlotOk c.s := by
  cases lands with
  | left gone =>
      exact Or.inl gone.cleared
  | stays holding bounded phase =>
      obtain ⟨m, mem, _⟩ := holding.mem
      refine
        Or.inr
          ⟨holding.used, holding.ph.nonneg, ?_, ⟨m, mem⟩, bounded, phase⟩
      rcases holding.px with noProxy | ⟨own, different⟩
      · exact Or.inl noProxy
      · exact Or.inr ⟨own.nonneg, different⟩

end Lands

/-- The table after one session was left as its functions leave it. -/
theorem Orderly.reassign (orderly : w.Orderly) (i : Fin sessMax)
    {c : SessCtx} {after : Relay}
    (lands :
      Lands (w.othersFds i) (w.othersBlocks i) (otherCount w.sess i) c)
    (sess : after.sess = Function.update w.sess i c.s)
    (shared : after.shared = c.shared) (lh : after.lh = w.lh)
    (lt : after.lt = w.lt) :
    after.Orderly := by
  have here : after.sess i = c.s := by rw [sess, Function.update_self]
  have elsewhere (k : Fin sessMax) (notHere : k ≠ i) :
      after.sess k = w.sess k := by
    rw [sess, Function.update_of_ne notHere]
  have kept := lands_kept lands
  rw [← shared] at kept
  have sameOthersFds :
      ∀ other, other ≠ some i →
        ∀ fd, after.holdsFd other fd ↔ w.holdsFd other fd := by
    intro other notHere fd
    cases other with
    | none =>
        simp only [holdsFd, Listening, lh, lt]
    | some k =>
        have notSlot : k ≠ i := fun same => notHere (congrArg some same)
        simp only [holdsFd, elsewhere k notSlot]
  have sameOthersBlocks :
      ∀ k, k ≠ i → ∀ m, after.holdsBlock k m ↔ w.holdsBlock k m := by
    intro k notHere m
    rw [holdsBlock, holdsBlock, elsewhere k notHere]
  constructor
  · exact kept.noFaults
  · apply orderly.fds.reassign sameOthersFds kept.othersOpen
    rintro fd ⟨nonneg, isOne⟩
    rw [here] at isOne
    rw [shared]
    exact lands_fd lands nonneg isOne
  · apply orderly.blocks.reassign sameOthersBlocks kept.othersLive
    intro m held
    rw [holdsBlock, here] at held
    rw [shared]
    exact lands_block lands held
  · rw [usedCount_eq after.sess i, here, shared, sess, otherCount_update,
      lands_count lands]
    push_cast
    rfl
  · intro k
    by_cases isHere : k = i
    · subst isHere
      rw [here]
      exact lands_slot lands
    · rw [elsewhere k isHere]
      exact orderly.slots k

/-- Being in order does not depend on what other tasks share, nor on the
record. -/
theorem Orderly.congr {after : Relay} (orderly : w.Orderly)
    (sess : after.sess = w.sess)
    (sameOs : after.shared.os = w.shared.os)
    (count : after.shared.activeSessions = w.shared.activeSessions)
    (lh : after.lh = w.lh) (lt : after.lt = w.lt) :
    after.Orderly := by
  have sameFds : after.holdsFd = w.holdsFd := by
    funext holder fd
    cases holder with
    | none =>
        simp only [holdsFd, Listening, lh, lt]
    | some i =>
        simp only [holdsFd, sess]
  have sameBlocks : after.holdsBlock = w.holdsBlock := by
    funext i m
    rw [holdsBlock, holdsBlock, sess]
  constructor
  · rw [sameOs]
    exact orderly.noFaults
  · rw [sameFds, sameOs]
    exact orderly.fds
  · rw [sameBlocks, sameOs]
    exact orderly.blocks
  · rw [count, sess]
    exact orderly.count
  · rw [sess]
    exact orderly.slots

/-! ## The steps -/

theorem Orderly.service (orderly : w.Orderly) (i : Fin sessMax) (io : SessIo)
    (rd wr : Int → Bool) (now : UInt32) :
    (w.service i io rd wr now).Orderly := by
  unfold Relay.service
  split
  · next isUsed =>
    have ok := orderly.slotOk isUsed
    have lands :=
      sessService_lands io rd wr now (orderly.holding isUsed) ok.bounded
        ok.phase
    exact orderly.reassign i lands rfl rfl rfl rfl
  · exact orderly

theorem sessTimeout_eq (io : SessIo) (c : SessCtx) :
    ∃ why, sessTimeout io c = sessClose io why c := by
  unfold sessTimeout
  split <;> exact ⟨_, rfl⟩

theorem Orderly.timeout (orderly : w.Orderly) (i : Fin sessMax) (io : SessIo)
    (now : UInt32) : (w.timeout i io now).Orderly := by
  unfold Relay.timeout
  split
  · next expired =>
    obtain ⟨why, closes⟩ := sessTimeout_eq io (w.ctx i)
    rw [closes]
    have lands := (orderly.holding expired.1).closes io why
    exact orderly.reassign i lands rfl rfl rfl rfl
  · exact orderly

/-- A new session in a free slot, with a descriptor and a block that were just
taken. -/
theorem Orderly.begins (orderly : w.Orderly)
    (isFree : (w.sess i).used = false) {conn : Int} {mem : Nat}
    (nonneg : 0 ≤ conn) (connFresh : w.shared.os.isOpen conn = false)
    (memFresh : w.shared.os.isLive mem = false) (tls : Bool)
    (pport : UInt16) (origIp : UInt32) (now : UInt32) {start : Relay}
    (isOpen :
      start.shared.os.isOpen = Function.update w.shared.os.isOpen conn true)
    (isLive :
      start.shared.os.isLive = Function.update w.shared.os.isLive mem true)
    (faults : start.shared.os.faults = w.shared.os.faults)
    (sess : start.sess = w.sess)
    (count : start.shared.activeSessions = w.shared.activeSessions)
    (lh : start.lh = w.lh) (lt : start.lt = w.lt) :
    (start.begin i tls (newSess tls conn pport origIp mem now)).Orderly := by
  have kept := orderly.kept i
  let c : SessCtx :=
    { s := newSess tls conn pport origIp mem now
      shared :=
        { start.shared with
          activeSessions := start.shared.activeSessions + 1 }
      tr := [] }
  have memUnused : ¬ w.othersBlocks i mem := by
    intro held
    rw [kept.othersLive mem held] at memFresh
    cases memFresh
  have connUnused : ¬ w.othersFds i conn := by
    intro held
    rw [kept.othersOpen conn held] at connFresh
    cases connFresh
  have holding :
      Holding (w.othersFds i) (w.othersBlocks i) (otherCount w.sess i) c := by
    refine ⟨?_, rfl, ?_, Or.inl rfl, ⟨mem, rfl, ?_, memUnused⟩, ?_⟩
    · change Kept _ _ start.shared.os
      refine ⟨faults.trans kept.noFaults, ?_, ?_⟩
      · intro fd held
        rw [isOpen]
        exact isOpen_update_true conn (kept.othersOpen fd held)
      · intro m held
        have different : m ≠ mem := fun same => memUnused (same ▸ held)
        rw [isLive, Function.update_of_ne different]
        exact kept.othersLive m held
    · refine ⟨nonneg, ?_, connUnused⟩
      change start.shared.os.isOpen conn = true
      rw [isOpen, Function.update_self]
    · change start.shared.os.isLive mem = true
      rw [isLive, Function.update_self]
    · change start.shared.activeSessions + 1 = _
      rw [count, orderly.count, usedCount_eq w.sess i, isFree]
      rfl
  have bounded : Bounded c.s :=
    ⟨CopyBuffer.Within.empty upCap, CopyBuffer.Within.empty downSz⟩
  have phase : PhaseOk c.s := ⟨rfl, rfl, upSz_pos, rfl⟩
  exact
    orderly.reassign i (Lands.stays holding bounded phase)
      (by rw [Relay.begin, sess]) rfl lh lt

theorem Orderly.doAccept (orderly : w.Orderly) (tls : Bool) (io : AcceptIo)
    (now : UInt32) : (w.doAccept tls io now).Orderly := by
  have outcome := doAccept_outcome w tls io now
  generalize w.doAccept tls io now = after at *
  cases outcome with
  | nothing _ =>
      exact orderly.congr rfl rfl rfl rfl rfl
  | noSlot redirected _ =>
      exact orderly.congr rfl (Os.close_open redirected.fresh) rfl rfl rfl
  | noMemory _ redirected _ _ =>
      exact orderly.congr rfl (Os.close_open redirected.fresh) rfl rfl rfl
  | begins i mem origIp redirected found _ memFresh =>
      exact
        orderly.begins (freeSlot_eq_some found) redirected.nonneg
          redirected.fresh memFresh tls io.pport origIp now rfl rfl rfl rfl
          rfl rfl rfl

theorem Orderly.step (orderly : w.Orderly) (event : RelayEvent) :
    (w.step event).Orderly := by
  cases event with
  | outside event =>
      exact orderly.congr rfl rfl rfl rfl rfl
  | service i io rd wr now =>
      exact orderly.service i io rd wr now
  | accept tls io now =>
      exact orderly.doAccept tls io now
  | timeout i io now =>
      exact orderly.timeout i io now

/-! ## The start -/

theorem makeListener_cases (io : ListenIo) (os : Os) :
    makeListener io os = (-1, os) ∨
      (0 ≤ io.socket ∧ os.isOpen io.socket = false ∧
        makeListener io os =
          (io.socket,
            { os with isOpen := Function.update os.isOpen io.socket true })) := by
  unfold makeListener
  rcases Os.open'_cases os io.socket with refused | ⟨nonneg, fresh, opened⟩
  · simp only [refused]
    exact Or.inl rfl
  · simp only [opened, if_neg (not_lt.mpr nonneg)]
    cases io.listens with
    | true =>
        exact Or.inr ⟨nonneg, fresh, rfl⟩
    | false =>
        refine Or.inl ?_
        simp only [Bool.false_eq_true, if_false, Os.close_open fresh]

theorem orderly_of_noSessions (noSessions : ∀ i, w.sess i = Sess.cleared)
    (noFaults : w.shared.os.faults = 0)
    (count : w.shared.activeSessions = 0)
    (listeners :
      w.Listening →
        w.shared.os.isOpen w.lh = true ∧ w.shared.os.isOpen w.lt = true) :
    w.Orderly := by
  have noFd (k : Fin sessMax) (fd : Int) : ¬ w.holdsFd (some k) fd := by
    rintro ⟨nonneg, isOne⟩
    rw [noSessions k] at isOne
    rcases isOne with rfl | rfl <;> exact absurd nonneg minusOne_neg
  have noBlock (k : Fin sessMax) (m : Nat) : ¬ w.holdsBlock k m := by
    intro held
    rw [holdsBlock, noSessions k] at held
    cases held
  refine ⟨noFaults, ⟨?_, ?_⟩, ⟨?_, ?_⟩, ?_, fun i => Or.inl (noSessions i)⟩
  · intro holder fd held
    cases holder with
    | none =>
        rcases held.2 with rfl | rfl
        · exact (listeners held.1).1
        · exact (listeners held.1).2
    | some k =>
        exact absurd held (noFd k fd)
  · intro first second fd firstHolds secondHolds
    cases first with
    | none =>
        cases second with
        | none =>
            rfl
        | some k =>
            exact absurd secondHolds (noFd k fd)
    | some k =>
        exact absurd firstHolds (noFd k fd)
  · intro k m held
    exact absurd held (noBlock k m)
  · intro first _ m held
    exact absurd held (noBlock first m)
  · rw [count, usedCount, Finset.filter_false_of_mem]
    · rfl
    · intro i _
      rw [noSessions i]
      exact Bool.false_ne_true

theorem closeFd_of_fresh {os : Os} {fd : Int} (nonneg : 0 ≤ fd)
    (fresh : os.isOpen fd = false) :
    closeFd fd { os with isOpen := Function.update os.isOpen fd true } =
      os := by
  rw [closeFd, if_pos nonneg]
  exact Os.close_open fresh

theorem start_orderly (http tls : ListenIo) (rd : Redirector) :
    (proxyTaskStart http tls rd).Orderly := by
  unfold proxyTaskStart
  rcases makeListener_cases http Os.start with
    httpFails | ⟨httpNonneg, httpFresh, httpOpens⟩
  · rcases makeListener_cases tls Os.start with
      tlsFails | ⟨tlsNonneg, tlsFresh, tlsOpens⟩
    · simp only [httpFails, tlsFails]
      apply orderly_of_noSessions (fun _ => rfl) rfl rfl
      intro listening
      exact absurd listening.1 minusOne_neg
    · simp only [httpFails, tlsOpens]
      apply orderly_of_noSessions (fun _ => rfl)
      · rw [if_pos (Or.inl (by decide)), closeFd, closeFd,
          if_neg minusOne_neg]
        exact congrArg Os.faults (closeFd_of_fresh tlsNonneg tlsFresh)
      · rfl
      · intro listening
        exact absurd listening.1 minusOne_neg
  · rcases
      makeListener_cases tls
        { Os.start with
          isOpen := Function.update Os.start.isOpen http.socket true } with
      tlsFails | ⟨tlsNonneg, _, tlsOpens⟩
    · simp only [httpOpens, tlsFails]
      apply orderly_of_noSessions (fun _ => rfl)
      · rw [if_pos (Or.inr (by decide)),
          closeFd_of_fresh httpNonneg httpFresh, closeFd,
          if_neg minusOne_neg]
        rfl
      · rfl
      · intro listening
        exact absurd listening.2 minusOne_neg
    · simp only [httpOpens, tlsOpens]
      rw [if_neg (by omega)]
      apply orderly_of_noSessions (fun _ => rfl) rfl rfl
      intro _
      exact
        ⟨isOpen_update_true _ (Function.update_self ..),
          Function.update_self ..⟩

/-! ## Every run -/

theorem run_orderly (http tls : ListenIo) (rd : Redirector)
    {w : Relay} (reached : Reachable Relay.step (proxyTaskStart http tls rd) w) :
    w.Orderly :=
  reached.invariant Orderly (fun _ event orderly => orderly.step event)
    (start_orderly http tls rd)

theorem SlotOk.px_iff {s : Sess} (ok : SlotOk s) : s.px = -1 ↔ s.st = .head := by
  have phase := ok.phase
  unfold PhaseOk at phase
  cases state : s.st with
  | head =>
      simp only [state] at phase
      simp [phase.1]
  | connecting =>
      simp only [state] at phase
      simp [phase.1]
  | reply =>
      simp only [state] at phase
      simp [phase.1]
  | splice =>
      simp only [state] at phase
      simp [phase]

/-- The invariant of the steps has everything the loop is to keep. -/
theorem Orderly.inOrder (orderly : w.Orderly) : w.InOrder := by
  refine
    ⟨orderly.count, ?_, ?_, ?_, ?_, ?_, ?_, ?_, ?_, orderly.noFaults⟩
  · intro i notUsed
    rw [orderly.cleared notUsed]
    exact ⟨rfl, rfl, rfl⟩
  · intro i isUsed
    have holding := orderly.holding isUsed
    exact ⟨holding.ph.nonneg, holding.ph.isOpen⟩
  · intro i isUsed
    exact (orderly.slotOk isUsed).px_iff
  · intro i isUsed notHead
    have hasProxy : (w.sess i).px ≠ -1 := fun noProxy =>
      notHead ((orderly.slotOk isUsed).px_iff.mp noProxy)
    rcases (orderly.holding isUsed).px with noProxy | ⟨own, _⟩
    · exact absurd noProxy hasProxy
    · exact ⟨own.nonneg, own.isOpen⟩
  · intro i
    rcases orderly.slots i with cleared | ok
    · rw [cleared]
      exact ⟨Nat.le_refl 0, Nat.zero_le _⟩
    · exact ⟨ok.bounded.up.off_le, ok.bounded.up.length_le⟩
  · intro i
    rcases orderly.slots i with cleared | ok
    · rw [cleared]
      exact ⟨Nat.le_refl 0, Nat.zero_le _⟩
    · exact ⟨ok.bounded.down.off_le, ok.bounded.down.length_le⟩
  · intro i isUsed isHead
    have phase := (orderly.slotOk isUsed).phase
    simp only [PhaseOk, isHead] at phase
    exact phase.2.2.1
  · intro i isUsed isReply
    have phase := (orderly.slotOk isUsed).phase
    simp only [PhaseOk, isReply] at phase
    exact phase.2.2

/-- At the end of every pass of every run of `proxy_task`, whatever the system
calls answer and whatever other tasks do, the task's sessions, counters,
buffers and descriptors are in order. -/
theorem proxyTask_inOrder (http tls : ListenIo) (rd : Redirector)
    (passes : List PassIo) : (proxyTask http tls rd passes).InOrder :=
  (run_orderly http tls rd (reachable_proxyTask http tls rd passes)).inOrder

end Relay

end VeteraBridge.Proxy

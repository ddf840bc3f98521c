import VeteraBridge.Link.Wakeups

/-!
# The callback registration

`tx_cb_reg` may be on the run loop's list once, and `tx_notify_pending` stands
for its being there.  The flag is set by PPP's output, cleared by the callback,
and cleared again as a channel opens, whether or not the callback has run.
-/

namespace VeteraBridge.Link

open EventRun

/-- `tx_cb_reg` is on the list of the run loop, or about to be put there. -/
def Registered (s : TxTasks) : Prop :=
  s.queued = true ∨ s.output = .registers

/-- A registration has its flag, and is not handed over while it is listed. -/
structure ListedOnce (s : TxTasks) : Prop where
  flagged : Registered s → s.link.txNotifyPending = true
  once : s.output = .registers → s.queued = false

/-- A channel that opens clears the flag only when the callback has run. -/
def ClearsAfter (s : TxTasks) : TxEvent → Prop
  | .bt _ _ => ∀ cid handle, s.bt = .opening cid handle → ¬ Registered s
  | _ => True

structure RegistrationInvariant (s : TxTasks) : Prop where
  listed : ListedOnce s
  /-- the callback runs before the flag is cleared -/
  notifies : s.bt = .notifies →
    s.link.txNotifyPending = true ∧ ¬ Registered s

section Invariant

variable {s s' : TxTasks}

/-- A step that leaves the flag, the list and the tcpip task alone. -/
theorem RegistrationInvariant.same (invariant : RegistrationInvariant s)
    (pending : s'.link.txNotifyPending = s.link.txNotifyPending)
    (queued : s'.queued = s.queued) (output : s'.output = s.output)
    (outside : s'.bt ≠ .notifies) : RegistrationInvariant s' := by
  have registered : Registered s' → Registered s := by
    rintro (listed | registers)
    · exact Or.inl (queued.symm.trans listed)
    · exact Or.inr (output.symm.trans registers)
  refine ⟨⟨?_, ?_⟩, fun notifies => absurd notifies outside⟩
  · intro isRegistered
    exact pending.trans (invariant.listed.flagged (registered isRegistered))
  · intro registers
    exact queued.trans (invariant.listed.once (output.symm.trans registers))

theorem canSendNow_registration (invariant : RegistrationInvariant s)
    {cid maxFrameSize : UInt16} {sendStatus : UInt8} (idle : s.bt = .idle) :
    RegistrationInvariant (s.canSendNow cid maxFrameSize sendStatus) := by
  by_cases none : s.link.activeCid = 0
  · rw [canSendNow_none none]
    exact invariant.same rfl rfl rfl (by show s.bt ≠ _; rw [idle]; rintro ⟨⟩)
  · cases reply : s.link.prePppReply with
    | none =>
        rw [canSendNow_chunk none reply]
        refine invariant.same ?_ rfl rfl (by rintro ⟨⟩)
        show (sendChunk maxFrameSize sendStatus s.quiet).txNotifyPending = _
        unfold sendChunk
        dsimp only
        split_ifs
        · rfl
        · rfl
        · rfl
    | some reply =>
        rw [canSendNow_reply none reply]
        refine invariant.same ?_ rfl rfl
          (by show s.bt ≠ _; rw [idle]; rintro ⟨⟩)
        show (sendReply _ sendStatus s.quiet).txNotifyPending = _
        unfold sendReply
        dsimp only
        split
        · rfl
        · rfl

/-- The run loop takes the registration off its list. -/
theorem notify_registration (invariant : RegistrationInvariant s)
    (queued : s.queued = true) : RegistrationInvariant s.notify := by
  have pending := invariant.listed.flagged (Or.inl queued)
  have notRegistering : s.output ≠ .registers := by
    intro registers
    cases (invariant.listed.once registers).symm.trans queued
  have unlisted : ¬ Registered s.notify := by
    rintro (listed | registers)
    · cases listed
    · exact notRegistering registers
  refine ⟨⟨fun _ => pending, fun _ => rfl⟩, fun _ => ⟨pending, unlisted⟩⟩

/-- Where the registration is on no list, the flag may be cleared. -/
theorem RegistrationInvariant.cleared
    (unlisted : ¬ Registered s) (queued : s'.queued = s.queued)
    (output : s'.output = s.output) (outside : s'.bt ≠ .notifies) :
    RegistrationInvariant s' := by
  have stillUnlisted : ¬ Registered s' := by
    rintro (listed | registers)
    · exact unlisted (Or.inl (queued.symm.trans listed))
    · exact unlisted (Or.inr (output.symm.trans registers))
  refine ⟨⟨?_, ?_⟩, fun notifies => absurd notifies outside⟩
  · exact fun isRegistered => absurd isRegistered stillUnlisted
  · exact fun registers => absurd (Or.inr registers) stillUnlisted

theorem btStep_registration (invariant : RegistrationInvariant s)
    {created listens : Bool} (clears : ClearsAfter s (.bt created listens)) :
    RegistrationInvariant (s.btStep created listens) := by
  unfold TxTasks.btStep
  cases bt : s.bt with
  | idle => exact invariant
  | notifies =>
      exact RegistrationInvariant.cleared (invariant.notifies bt).2 rfl rfl
        (by rintro ⟨⟩)
  | received cid =>
      refine invariant.same ?_ rfl rfl (by rintro ⟨⟩)
      dsimp only [TxTasks.becomes, TxTasks.withBt]
      split
      · rfl
      · rfl
  | opening cid handle =>
      exact RegistrationInvariant.cleared (clears cid handle bt) rfl rfl
        (by rintro ⟨⟩)
  | starting cid handle =>
      have keeps := startSession_keepsTx cid handle created listens s.quiet
      exact invariant.same keeps.txNotifyPending rfl rfl (by rintro ⟨⟩)

/-- The tcpip task hands the registration over once it has set the flag. -/
theorem tcpipStep_registration (invariant : RegistrationInvariant s) :
    RegistrationInvariant s.tcpipStep := by
  unfold TxTasks.tcpipStep
  cases output : s.output with
  | idle => exact invariant
  | sends data =>
      have notRegistering : s.output ≠ .registers := by
        rw [output]
        rintro ⟨⟩
      refine ⟨⟨?_, ?_⟩, ?_⟩
      · rintro (listed | registers)
        · exact invariant.listed.flagged (Or.inl listed)
        · cases registers
      · rintro ⟨⟩
      · intro notifies
        obtain ⟨pending, unlisted⟩ := invariant.notifies notifies
        refine ⟨pending, ?_⟩
        rintro (listed | registers)
        · exact unlisted (Or.inl listed)
        · cases registers
  | sent =>
      dsimp only
      split
      · next pending =>
        refine ⟨⟨fun _ => pending, by rintro ⟨⟩⟩, ?_⟩
        intro notifies
        refine ⟨pending, ?_⟩
        rintro (listed | registers)
        · exact (invariant.notifies notifies).2 (Or.inl listed)
        · cases registers
      · next clear =>
        refine ⟨⟨fun _ => rfl, fun _ => ?_⟩, ?_⟩
        · -- a listed registration would have its flag
          by_contra listed
          rw [Bool.not_eq_false] at listed
          exact clear (invariant.listed.flagged (Or.inl listed))
        · intro notifies
          exact absurd (invariant.notifies notifies).1 clear
  | registers =>
      have pending := invariant.listed.flagged (Or.inr output)
      refine ⟨⟨fun _ => pending, by rintro ⟨⟩⟩, ?_⟩
      intro notifies
      exact absurd (Or.inr output) (invariant.notifies notifies).2

theorem pppOutput_registration (invariant : RegistrationInvariant s)
    (data : List UInt8) :
    RegistrationInvariant (s.pppOutput data) := by
  unfold TxTasks.pppOutput
  split
  · refine ⟨⟨?_, by rintro ⟨⟩⟩, ?_⟩
    · rintro (listed | registers)
      · exact invariant.listed.flagged (Or.inl listed)
      · cases registers
    · intro notifies
      obtain ⟨pending, unlisted⟩ := invariant.notifies notifies
      refine ⟨pending, ?_⟩
      rintro (listed | registers)
      · exact unlisted (Or.inl listed)
      · cases registers
  · exact invariant

theorem pppStatus_registration (invariant : RegistrationInvariant s) (pcb : Nat)
    (up : Bool) : RegistrationInvariant (s.pppStatus pcb up) := by
  have kept :
      (pppStatusCb pcb up s.quiet).txNotifyPending = s.link.txNotifyPending := by
    unfold pppStatusCb
    dsimp only
    split_ifs
    · rfl
    · rfl
    · rfl
  refine ⟨⟨?_, invariant.listed.once⟩, ?_⟩
  · exact fun registered => kept.trans (invariant.listed.flagged registered)
  · intro notifies
    obtain ⟨pending, unlisted⟩ := invariant.notifies notifies
    exact ⟨kept.trans pending, unlisted⟩

theorem RegistrationInvariant.step (invariant : RegistrationInvariant s)
    {event : TxEvent} (possible : TxPossible s event)
    (clears : ClearsAfter s event) : RegistrationInvariant (s.step event) := by
  cases event with
  | other event =>
      obtain ⟨idle, whole, _⟩ := possible
      have keeps : KeepsTx s.link (s.link.step event) := whole.keepsTx
      exact invariant.same keeps.txNotifyPending rfl rfl
        (by show s.bt ≠ _; rw [idle]; rintro ⟨⟩)
  | opened cid handle => exact invariant.same rfl rfl rfl (by rintro ⟨⟩)
  | canSendNow cid maxFrameSize sendStatus =>
      exact canSendNow_registration invariant possible.1
  | notify => exact notify_registration invariant possible.2
  | bt created listens => exact btStep_registration invariant clears
  | pppStatus pcb up => exact pppStatus_registration invariant pcb up
  | pppOutput data => exact pppOutput_registration invariant data
  | tcpip => exact tcpipStep_registration invariant

/-- A flag that is cleared too early is missing afterwards. -/
theorem clearsAfter_of_listedOnce {event : TxEvent}
    (next : ListedOnce (s.step event)) : ClearsAfter s event := by
  cases event with
  | bt created listens =>
      intro cid handle bt registered
      have stepped :
          s.step (.bt created listens) =
            (s.becomes (clearedChannel s.quiet)).withBt
              (.starting cid handle) := by
        simp only [TxTasks.step, TxTasks.btStep, bt]
      rw [stepped] at next
      cases next.flagged registered
  | _ => trivial

end Invariant

/-! ## Runs -/

theorem boot_registration (linkMode : BtsecMode) :
    RegistrationInvariant (TxTasks.boot linkMode) := by
  refine ⟨⟨?_, ?_⟩, ?_⟩
  · rintro (listed | registers)
    · cases listed
    · cases registers
  · rintro ⟨⟩
  · rintro ⟨⟩

/-- The registration is listed once and has its flag all along a run exactly when
no channel that opens clears the flag before the callback has run. -/
theorem listedOnce_iff (linkMode : BtsecMode) {events : List TxEvent}
    (possible : Along TxTasks.step TxPossible (TxTasks.boot linkMode) events) :
    (∀ earlier, earlier <+: events →
        ListedOnce (run TxTasks.step (TxTasks.boot linkMode) earlier)) ↔
      Along TxTasks.step ClearsAfter (TxTasks.boot linkMode) events := by
  apply throughout_iff_along RegistrationInvariant ListedOnce
  · exact fun s invariant => invariant.listed
  · exact fun s event invariant possible clears =>
      invariant.step possible clears
  · exact fun s event _ _ next => clearsAfter_of_listedOnce next
  · exact boot_registration linkMode
  · exact possible

/-- A byte of PPP is announced, and its channel closes once it is sent. -/
def announced : List TxEvent :=
  [.other (.incoming 1 7 (Vector.replicate 6 1) true), .opened 1 7,
    .bt true true, .bt true true, .pppOutput [0x7E], .tcpip, .tcpip, .tcpip,
    .notify, .bt true true, .other (.closed 1)]

theorem listedOnce_iff_announced :
    ListedOnce (run TxTasks.step (TxTasks.boot .btsecOff) announced) := by
  have possible :
      Along TxTasks.step TxPossible (TxTasks.boot .btsecOff) announced := by
    refine
      ⟨⟨rfl, trivial, by decide, id⟩, ⟨rfl, rfl⟩, trivial, trivial, rfl,
        trivial, trivial, trivial, ⟨rfl, rfl⟩, trivial, ⟨rfl, trivial, ?_⟩,
        trivial⟩
    show Phase.opened ≠ .free
    decide
  have clears :
      Along TxTasks.step ClearsAfter (TxTasks.boot .btsecOff) announced := by
    refine
      ⟨trivial, trivial, ?_, ?_, trivial, trivial, trivial, trivial, trivial,
        ?_, trivial, trivial⟩
    · rintro cid handle _ (listed | registers)
      · cases listed
      · cases registers
    · rintro cid handle ⟨⟩
    · rintro cid handle ⟨⟩
  exact (listedOnce_iff .btsecOff possible).mpr clears announced
    (List.prefix_refl announced)

/-- A byte is announced, the channel closes, and the next one opens and has a
byte of its own before the callback runs. -/
def announcedTwice : List TxEvent :=
  [.other (.incoming 1 7 (Vector.replicate 6 1) true), .opened 1 7,
    .bt true true, .bt true true, .pppOutput [0x7E], .tcpip, .tcpip, .tcpip,
    .other (.closed 1), .other (.incoming 2 7 (Vector.replicate 6 1) true),
    .opened 2 7, .bt true true, .bt true true, .pppOutput [0x7E], .tcpip,
    .tcpip]

/-- The registration is handed over while it is on the list. -/
theorem announcedTwice_relisted :
    Along TxTasks.step TxPossible (TxTasks.boot .btsecOff) announcedTwice ∧
      (run TxTasks.step (TxTasks.boot .btsecOff) announcedTwice).queued = true ∧
      (run TxTasks.step (TxTasks.boot .btsecOff) announcedTwice).output =
        .registers ∧
      ¬ ListedOnce
        (run TxTasks.step (TxTasks.boot .btsecOff) announcedTwice) := by
  have possible :
      Along TxTasks.step TxPossible (TxTasks.boot .btsecOff)
        announcedTwice := by
    refine
      ⟨⟨rfl, trivial, by decide, id⟩, ⟨rfl, rfl⟩, trivial, trivial, rfl,
        trivial, trivial, trivial, ⟨rfl, trivial, ?_⟩,
        ⟨rfl, trivial, by decide, id⟩, ⟨rfl, rfl⟩, trivial, trivial, rfl,
        trivial, trivial, trivial⟩
    show Phase.opened ≠ .free
    decide
  refine ⟨possible, rfl, rfl, fun listed => ?_⟩
  cases listed.once rfl

end VeteraBridge.Link

import VeteraBridge.Bootstrap.Machine

/-!
# The bootstrap and the phone's own session

Every way out of the bootstrap but one drops the ACL of the phone, and only that
one looks at `bt_connected`.  So a phone that dials in while the bootstrap is past
its start delay may lose its session when the bootstrap ends.
-/

namespace VeteraBridge.Bootstrap

open EventRun
open Link (BdAddr)

/-- The step does not drop the ACL of the live session. -/
def Spares (w : World) (event : Event) : Prop :=
  ∀ handle, .gapDisconnect handle ∈ (w.step event).boot.calls →
    w.btConnected = true → w.btHandle ≠ handle

/-- Whatever happens next, the live session is not dropped. -/
def SafeHere (w : World) : Prop :=
  ∀ event, Possible w event → Spares w event

/-- The bootstrap has not begun to page the phone. -/
def BootState.Waits : BootState → Prop
  | .bootIdle | .bootWaitStart => True
  | .bootProbe | .bootTarget | .bootConnect | .bootHold => False

/-- The bootstrap is at work on no phone, or on another one than the session. -/
def Apart (w : World) (handle : UInt16) : Prop :=
  w.boot.bootState.Waits ∨ w.acl w.boot.bootAddr ≠ some handle

/-- The phone dials in while the bootstrap is apart from it. -/
def DialsApart (w : World) : Event → Prop
  | .phoneOpened handle => Apart w handle
  | _ => True

section Waiting

variable {w : World} {event : Event}

/-- A session keeps the bootstrap from beginning. -/
theorem timerHandler_waits {s : Boot} (acl : Acl) (err : UInt8)
    (waits : s.bootState.Waits) :
    (s.timerHandler acl true err).bootState.Waits ∧
      (s.timerHandler acl true err).calls = s.calls := by
  unfold Boot.timerHandler
  dsimp only
  cases state : s.bootState with
  | bootIdle => exact ⟨trivial, rfl⟩
  | bootWaitStart => exact ⟨trivial, rfl⟩
  | bootProbe =>
      rw [state] at waits
      exact waits.elim
  | bootTarget =>
      rw [state] at waits
      exact waits.elim
  | bootConnect =>
      rw [state] at waits
      exact waits.elim
  | bootHold =>
      rw [state] at waits
      exact waits.elim

/-- A bootstrap that waits has only pairings and its timer before it. -/
theorem waits_events (waits : w.boot.bootState.Waits)
    (possible : Possible w event) :
    (∃ addr, event = .pairingComplete addr) ∨ (∃ err, event = .timer err) ∨
      (w.step event).boot = w.quiet := by
  cases event with
  | pairingComplete addr => exact Or.inl ⟨addr, rfl⟩
  | timer err => exact Or.inr (Or.inl ⟨err, rfl⟩)
  | sdpService channel =>
      rcases possible with probe | target
      · rw [probe] at waits
        exact waits.elim
      · rw [target] at waits
        exact waits.elim
  | sdpComplete status err cid =>
      rcases possible with probe | target
      · rw [probe] at waits
        exact waits.elim
      · rw [target] at waits
        exact waits.elim
  | rfcommOpened status cid =>
      rw [show w.boot.bootState = .bootConnect from possible] at waits
      exact waits.elim
  | rfcommClosed =>
      rw [show w.boot.bootState = .bootHold from possible] at waits
      exact waits.elim
  | phoneOpened other => exact Or.inr (Or.inr rfl)
  | phoneClosed => exact Or.inr (Or.inr rfl)
  | aclConnected addr other => exact Or.inr (Or.inr rfl)
  | aclDisconnected addr => exact Or.inr (Or.inr rfl)

theorem pairing_drops (addr : BdAddr) {handle : UInt16} :
    .gapDisconnect handle ∉ (w.step (.pairingComplete addr)).boot.calls := by
  intro called
  by_cases starts : w.boot.startsAt addr
  · rw [step_starts starts] at called
    cases List.mem_singleton.mp called
  · rw [step_skips starts] at called
    cases called

/-- During a session it goes on waiting, and drops nothing. -/
theorem waits_step (connected : w.btConnected = true)
    (waits : w.boot.bootState.Waits) (possible : Possible w event) :
    (w.step event).boot.bootState.Waits ∧
      ∀ other, .gapDisconnect other ∉ (w.step event).boot.calls := by
  rcases waits_events waits possible with ⟨addr, rfl⟩ | ⟨err, rfl⟩ | quiet
  · refine ⟨?_, fun _ => pairing_drops addr⟩
    by_cases starts : w.boot.startsAt addr
    · rw [step_starts starts]
      exact trivial
    · rw [step_skips starts]
      exact waits
  · have idle : w.quiet.bootState.Waits := waits
    obtain ⟨still, calls⟩ := timerHandler_waits w.acl err idle
    simp only [World.step, connected, calls]
    exact ⟨still, fun _ => List.not_mem_nil⟩
  · rw [quiet]
    exact ⟨waits, fun _ => List.not_mem_nil⟩

end Waiting

/-! ## A session -/

section Session

variable {w : World} {event : Event}

/-- The session of a live phone, and the bootstrap apart from it. -/
def SessionApart (w : World) : Prop :=
  w.btConnected = true → Apart w w.btHandle

theorem SessionApart.spares (apart : SessionApart w)
    (possible : Possible w event) : Spares w event := by
  intro handle drops connected same
  rcases apart connected with waits | other
  · exact (waits_step connected waits possible).2 handle drops
  · by_cases pairing : ∃ addr, event = .pairingComplete addr
    · obtain ⟨addr, rfl⟩ := pairing
      exact pairing_drops addr drops
    · have own := w.step_drops (fun addr is => pairing ⟨addr, is⟩) drops
      exact other (own.trans (congrArg some same.symm))

/-- A pairing begins a bootstrap that waits, or changes nothing. -/
theorem SessionApart.pair (apart : SessionApart w) (addr : BdAddr) :
    SessionApart (w.step (.pairingComplete addr)) := by
  by_cases starts : w.boot.startsAt addr
  · rw [step_starts starts]
    exact fun _ => Or.inl trivial
  · rw [step_skips starts]
    exact apart

/-- A bootstrap at work on another phone stays with it. -/
theorem SessionApart.keep (apart : SessionApart w) (possible : Possible w event)
    (noPairing : ∀ addr, event ≠ .pairingComplete addr)
    (connected : (w.step event).btConnected = w.btConnected)
    (handle : (w.step event).btHandle = w.btHandle)
    (others : w.acl w.boot.bootAddr ≠ some w.btHandle →
      (w.step event).acl w.boot.bootAddr ≠ some w.btHandle) :
    SessionApart (w.step event) := by
  intro connectedThen
  have isConnected : w.btConnected = true := connected.symm.trans connectedThen
  rcases apart isConnected with waits | other
  · exact Or.inl (waits_step isConnected waits possible).1
  · right
    rw [(w.step_onward noPairing).bootAddr, handle]
    exact others other

theorem SessionApart.step (apart : SessionApart w) (possible : Possible w event)
    (dials : DialsApart w event) : SessionApart (w.step event) := by
  cases event with
  | pairingComplete addr => exact apart.pair addr
  | phoneOpened handle => exact fun _ => dials
  | phoneClosed =>
      intro connected
      cases connected
  | aclConnected addr handle =>
      have unused := possible.2.2
      intro connected
      refine apart.keep possible (by rintro _ ⟨⟩) rfl rfl ?_ connected
      intro other
      show Function.update w.acl addr (some handle) _ ≠ _
      by_cases same : w.boot.bootAddr = addr
      · rw [same, Function.update_self]
        intro isHandle
        exact unused connected (Option.some.inj isHandle).symm
      · rw [Function.update_of_ne same]
        exact other
  | aclDisconnected addr =>
      refine apart.keep possible (by rintro _ ⟨⟩) rfl rfl ?_
      intro other
      show Function.update w.acl addr none _ ≠ _
      by_cases same : w.boot.bootAddr = addr
      · rw [same, Function.update_self]
        rintro ⟨⟩
      · rw [Function.update_of_ne same]
        exact other
  | timer err => exact apart.keep possible (by rintro _ ⟨⟩) rfl rfl id
  | sdpService channel => exact apart.keep possible (by rintro _ ⟨⟩) rfl rfl id
  | sdpComplete status err cid =>
      exact apart.keep possible (by rintro _ ⟨⟩) rfl rfl id
  | rfcommOpened status cid =>
      exact apart.keep possible (by rintro _ ⟨⟩) rfl rfl id
  | rfcommClosed => exact apart.keep possible (by rintro _ ⟨⟩) rfl rfl id

end Session

/-! ## The end of the bootstrap -/

section Ends

variable {w : World} {handle : UInt16}

theorem reset_drops {acl : Acl} {s : Boot} (own : acl s.bootAddr = some handle) :
    .gapDisconnect handle ∈ (s.reset acl true).calls := by
  show _ ∈ (s.dropAcl acl).calls
  unfold Boot.dropAcl
  rw [own]
  exact List.mem_append_right s.calls List.mem_cons_self

/-- In each state past the delay the bootstrap can end with the next event. -/
theorem busy_drops (busy : ¬ w.boot.bootState.Waits)
    (own : w.acl w.boot.bootAddr = some handle) :
    ∃ event, Possible w event ∧
      .gapDisconnect handle ∈ (w.step event).boot.calls := by
  cases state : w.boot.bootState with
  | bootIdle =>
      rw [state] at busy
      exact absurd trivial busy
  | bootWaitStart =>
      rw [state] at busy
      exact absurd trivial busy
  | bootProbe =>
      -- the probe fails
      refine ⟨.sdpComplete 1 0 0, Or.inl state, ?_⟩
      have failed :
          w.quiet.sdpComplete w.acl 1 0 0 = w.quiet.reset w.acl true := by
        unfold Boot.sdpComplete
        rw [if_pos (show w.quiet.bootState = .bootProbe from state),
          if_pos (by decide)]
      show _ ∈ (w.quiet.sdpComplete w.acl 1 0 0).calls
      rw [failed]
      exact reset_drops own
  | bootTarget =>
      -- the next call reports an error
      refine ⟨.sdpComplete 0 1 0, Or.inr state, ?_⟩
      have notProbe : w.quiet.bootState ≠ .bootProbe := by
        rw [show w.quiet.bootState = .bootTarget from state]
        rintro ⟨⟩
      show _ ∈ (w.quiet.sdpComplete w.acl 0 1 0).calls
      unfold Boot.sdpComplete Boot.unlessError
      rw [if_neg notProbe]
      dsimp only
      split
      · split
        · rw [if_pos (by decide)]
          exact reset_drops own
        · exact reset_drops own
      · rw [if_pos (by decide)]
        exact reset_drops own
  | bootConnect =>
      -- the channel is refused
      refine ⟨.rfcommOpened 1 0, state, ?_⟩
      show _ ∈ (w.quiet.rfcommOpened w.acl 1 0).calls
      unfold Boot.rfcommOpened
      rw [if_pos (by decide)]
      exact reset_drops own
  | bootHold => exact ⟨.rfcommClosed, state, reset_drops own⟩

/-- A phone that dials in while it is bootstrapped may be dropped next. -/
theorem SafeHere.apart
    (safe : SafeHere (w.step (.phoneOpened handle))) : Apart w handle := by
  by_contra together
  obtain ⟨busy, own⟩ := not_or.mp together
  obtain ⟨event, ends, drops⟩ :=
    busy_drops (w := w.step (.phoneOpened handle)) busy (not_not.mp own)
  exact safe event ends handle drops rfl rfl

end Ends

/-- All along a run no event can drop the phone's live session exactly when the
phone opens its sessions before the bootstrap pages it, or not on its ACL. -/
theorem liveSession_spared_iff {events : List Event}
    (possible : Along World.step Possible World.start events) :
    (∀ earlier, earlier <+: events →
        SafeHere (run World.step World.start earlier)) ↔
      Along World.step DialsApart World.start events := by
  refine throughout_iff_along SessionApart SafeHere ?_ ?_ ?_ ?_ possible
  · exact fun state apart event now => apart.spares now
  · exact fun state event apart now dials => apart.step now dials
  · intro state event _ _ safe
    cases event with
    | phoneOpened handle => exact safe.apart
    | pairingComplete addr => trivial
    | timer err => trivial
    | sdpService channel => trivial
    | sdpComplete status err cid => trivial
    | rfcommOpened status cid => trivial
    | rfcommClosed => trivial
    | phoneClosed => trivial
    | aclConnected addr handle => trivial
    | aclDisconnected addr => trivial
  · rintro ⟨⟩

section Example

def pairedPhone : BdAddr := #v[0x00, 0x12, 0xD1, 0x3A, 0x5B, 0x7C]

/-- A phone that pairs and dials in before the start delay is over. -/
def diallingInDelay : List Event :=
  [.aclConnected pairedPhone 0x0B, .pairingComplete pairedPhone,
    .phoneOpened 0x0B, .timer 0]

theorem diallingInDelay_possible :
    Along World.step Possible World.start diallingInDelay := by
  refine ⟨⟨rfl, ?_, ?_⟩, trivial, ⟨rfl, pairedPhone, ?_⟩, rfl, trivial⟩
  · rintro _ ⟨⟩
  · rintro ⟨⟩
  · decide

theorem liveSession_spared_iff_inDelay :
    Along World.step Possible World.start diallingInDelay ∧
      ((∀ earlier, earlier <+: diallingInDelay →
          SafeHere (run World.step World.start earlier)) ↔
        Along World.step DialsApart World.start diallingInDelay) :=
  ⟨diallingInDelay_possible, liveSession_spared_iff diallingInDelay_possible⟩

/-- A phone that dials in while the bootstrap holds its channel. -/
def diallingInHold : List Event :=
  [.aclConnected pairedPhone 0x0B, .pairingComplete pairedPhone, .timer 0,
    .sdpComplete 0 0 0, .sdpService 1, .sdpComplete 0 0 0x41,
    .rfcommOpened 0 0x41, .phoneOpened 0x0B]

theorem diallingInHold_possible :
    Along World.step Possible World.start diallingInHold := by
  refine ⟨⟨rfl, ?_, ?_⟩, trivial, rfl, Or.inl rfl, Or.inr rfl, Or.inr rfl, rfl,
    ⟨rfl, pairedPhone, ?_⟩, trivial⟩
  · rintro _ ⟨⟩
  · rintro ⟨⟩
  · decide

theorem diallingInHold_dropped :
    Along World.step Possible World.start diallingInHold ∧
      Possible (run World.step World.start diallingInHold) .rfcommClosed ∧
      ¬ Spares (run World.step World.start diallingInHold) .rfcommClosed := by
  refine ⟨diallingInHold_possible, rfl, ?_⟩
  intro spares
  refine spares 0x0B ?_ rfl rfl
  exact reset_drops (by decide)

end Example

end VeteraBridge.Bootstrap

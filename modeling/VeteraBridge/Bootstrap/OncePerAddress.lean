import VeteraBridge.Bootstrap.Machine

/-!
# Once for each address

The bootstrap keeps the addresses it was started for.  An address that finds the
record full is bootstrapped but not recorded, and so starts the bootstrap again
with its next pairing.
-/

namespace VeteraBridge.Bootstrap

open EventRun
open Link (BdAddr)

/-- The bootstrap was started at most once for each address. -/
def OncePerAddress (w : World) : Prop :=
  w.started.Nodup

/-- A pairing that finds the bootstrap idle is of no address that was left out. -/
def NotLeftOut (w : World) : Event → Prop
  | .pairingComplete addr => w.boot.bootState = .bootIdle → addr ∉ w.leftOut
  | _ => True

/-- The record with those left out are the addresses of the starts, and none is
left out while there is room. -/
structure RecordInvariant (w : World) : Prop where
  started : w.started = w.boot.done.addrs ++ w.leftOut
  full : w.boot.done.addrs.length < bootstrapMaxDone → w.leftOut = []
  once : OncePerAddress w

section Invariant

variable {w : World} {event : Event} {addr : BdAddr}

theorem addrAlreadyDone_iff {s : Boot} :
    s.addrAlreadyDone addr = false ↔ addr ∉ s.done.addrs := by
  unfold Boot.addrAlreadyDone
  rw [← Bool.not_eq_true, List.contains_iff_mem]

/-- An address that was left out starts the bootstrap whenever it is idle. -/
theorem RecordInvariant.starts_leftOut (invariant : RecordInvariant w)
    (idle : w.boot.bootState = .bootIdle) (out : addr ∈ w.leftOut) :
    w.boot.startsAt addr := by
  have once : (w.boot.done.addrs ++ w.leftOut).Nodup := by
    rw [← invariant.started]
    exact invariant.once
  refine ⟨idle, addrAlreadyDone_iff.mpr ?_⟩
  intro recorded
  exact (List.nodup_append.mp once).2.2 addr recorded addr out rfl

/-- An address that starts the bootstrap and was not left out is a new one. -/
theorem RecordInvariant.fresh (invariant : RecordInvariant w)
    (starts : w.boot.startsAt addr) (notLeftOut : addr ∉ w.leftOut) :
    addr ∉ w.started := by
  rw [invariant.started, List.mem_append, not_or]
  exact ⟨addrAlreadyDone_iff.mp starts.2, notLeftOut⟩

/-- A start appends its address to the record, or to those left out. -/
theorem RecordInvariant.startRecorded (invariant : RecordInvariant w)
    (starts : w.boot.startsAt addr) (fresh : addr ∉ w.started) :
    RecordInvariant (w.step (.pairingComplete addr)) := by
  rw [step_starts starts]
  have once : (w.started ++ [addr]).Nodup :=
    List.nodup_append.mpr ⟨invariant.once, List.pairwise_singleton _ addr, by
      intro earlier member later isAddr
      rw [List.mem_singleton.mp isAddr]
      rintro rfl
      exact fresh member⟩
  by_cases room : w.boot.done.addrs.length < bootstrapMaxDone
  · have noneOut := invariant.full room
    refine ⟨?_, fun _ => ?_, once⟩
    · show w.started ++ [addr] = (w.boot.done.mark addr).addrs ++ ite _ _ _
      rw [if_pos room, DoneAddrs.mark_of_room addr room, invariant.started,
        noneOut, List.append_nil, List.append_nil]
    · show ite _ _ _ = _
      rw [if_pos room, noneOut]
  · refine ⟨?_, ?_, once⟩
    · show w.started ++ [addr] = (w.boot.done.mark addr).addrs ++ ite _ _ _
      rw [if_neg room, DoneAddrs.mark_of_full addr room, invariant.started,
        List.append_assoc]
    · intro roomThen
      refine absurd ?_ room
      rw [← DoneAddrs.mark_of_full addr room]
      exact roomThen

/-- Everything but a pairing leaves the record alone. -/
theorem RecordInvariant.keep (invariant : RecordInvariant w)
    (noPairing : ∀ addr, event ≠ .pairingComplete addr)
    (started : (w.step event).started = w.started)
    (leftOut : (w.step event).leftOut = w.leftOut) :
    RecordInvariant (w.step event) := by
  have done : (w.step event).boot.done = w.boot.done :=
    (w.step_onward noPairing).done
  refine ⟨?_, ?_, ?_⟩
  · rw [started, leftOut, done]
    exact invariant.started
  · rw [leftOut, done]
    exact invariant.full
  · unfold OncePerAddress
    rw [started]
    exact invariant.once

theorem RecordInvariant.step (invariant : RecordInvariant w)
    (notLeftOut : NotLeftOut w event) : RecordInvariant (w.step event) := by
  cases event with
  | pairingComplete addr =>
      by_cases starts : w.boot.startsAt addr
      · exact invariant.startRecorded starts
          (invariant.fresh starts (notLeftOut starts.1))
      · rw [step_skips starts]
        exact ⟨invariant.started, invariant.full, invariant.once⟩
  | timer err => exact invariant.keep (by rintro _ ⟨⟩) rfl rfl
  | sdpService channel => exact invariant.keep (by rintro _ ⟨⟩) rfl rfl
  | sdpComplete status err cid =>
      exact invariant.keep (by rintro _ ⟨⟩) rfl rfl
  | rfcommOpened status cid => exact invariant.keep (by rintro _ ⟨⟩) rfl rfl
  | rfcommClosed => exact invariant.keep (by rintro _ ⟨⟩) rfl rfl
  | phoneOpened handle => exact invariant.keep (by rintro _ ⟨⟩) rfl rfl
  | phoneClosed => exact invariant.keep (by rintro _ ⟨⟩) rfl rfl
  | aclConnected addr handle => exact invariant.keep (by rintro _ ⟨⟩) rfl rfl
  | aclDisconnected addr => exact invariant.keep (by rintro _ ⟨⟩) rfl rfl

/-- A second start shows in the list of starts. -/
theorem RecordInvariant.notLeftOut (invariant : RecordInvariant w)
    (once : OncePerAddress (w.step event)) : NotLeftOut w event := by
  cases event with
  | pairingComplete addr =>
      intro idle out
      have starts := invariant.starts_leftOut idle out
      rw [step_starts starts] at once
      have before : addr ∈ w.started := by
        rw [invariant.started]
        exact List.mem_append_right _ out
      exact (List.nodup_append.mp once).2.2 addr before addr
        (List.mem_singleton_self addr) rfl
  | timer err => trivial
  | sdpService channel => trivial
  | sdpComplete status err cid => trivial
  | rfcommOpened status cid => trivial
  | rfcommClosed => trivial
  | phoneOpened handle => trivial
  | phoneClosed => trivial
  | aclConnected addr handle => trivial
  | aclDisconnected addr => trivial

end Invariant

/-- The bootstrap is started at most once for each address exactly as long as no
address that found the record full is paired again while it is idle. -/
theorem oncePerAddress_iff (events : List Event) :
    (∀ earlier, earlier <+: events →
        OncePerAddress (run World.step World.start earlier)) ↔
      Along World.step NotLeftOut World.start events := by
  have anything : Along World.step (fun _ _ => True) World.start events :=
    along_of_forall (fun _ _ => trivial) World.start events
  refine throughout_iff_along RecordInvariant OncePerAddress ?_ ?_ ?_ ?_ anything
  · exact fun state invariant => invariant.once
  · exact fun state event invariant _ allowed => invariant.step allowed
  · exact fun state event invariant _ once => invariant.notLeftOut once
  · exact ⟨rfl, fun _ => rfl, List.nodup_nil⟩

section Example

/-- The phone of a number. -/
def phone (n : UInt8) : BdAddr := #v[0x00, 0x12, 0xD1, 0x3A, 0x5B, n]

/-- A pairing whose bootstrap ends as its probe fails. -/
def bootstrapped (n : UInt8) : List Event :=
  [.pairingComplete (phone n), .timer 0, .sdpComplete 1 0 0]

/-- Seventeen phones are paired, and the last of them once more. -/
def seventeenPhones : List Event :=
  ([0, 1, 2, 3, 4, 5, 6, 7, 8, 9, 10, 11, 12, 13, 14, 15, 16, 16].map
    bootstrapped).flatten

theorem seventeenth_startedTwice :
    Along World.step Possible World.start seventeenPhones ∧
      (run World.step World.start seventeenPhones).started.count (phone 16) = 2 ∧
      ¬ OncePerAddress (run World.step World.start seventeenPhones) := by
  refine ⟨?_, by decide +kernel, by unfold OncePerAddress; decide +kernel⟩
  unfold seventeenPhones bootstrapped
  dsimp only [List.map, List.flatten, List.append]
  repeat' first | exact trivial | exact rfl | exact Or.inl rfl | constructor

end Example

end VeteraBridge.Bootstrap

import VeteraBridge.Gateway.Tasks
import VeteraBridge.Wifi.OwedEvents

/-!
# NAT follows the links

`update_nat` only posts a callback, and the callback looks at both flags when it
runs.  Whoever writes a flag calls `update_nat` afterwards, so as long as a
callback has read an old value there is another one to come.
-/

namespace VeteraBridge.Gateway

open EventRun
open Wifi

/-! ## Settled -/

/-- `ppp_up_flag` is written and `update_nat` not called yet. -/
def TcpipPc.Changing : TcpipPc → Prop
  | .flagged _ => True
  | _ => False

/-- `update_nat_lwip_ctx` is running. -/
def TcpipPc.UpdatesNat : TcpipPc → Prop
  | .natStarts | .natPppUp | .natEnables _ => True
  | _ => False

/-- `wifi_connected` is written and `update_nat` not called yet. -/
def EventPc.Changing : EventPc → Prop
  | .gotIp | .lost _ => True
  | _ => False

/-- The session has cleared `ppp_up_flag`, and `gw_on_rfcomm_closed` has not
called `update_nat` yet. -/
def BtstackPc.Changing : BtstackPc → Prop
  | .stopped | .closed | .shown => True
  | _ => False

namespace Tasks

/-- NAT is to be on. -/
def wantsNat (s : Tasks) : Bool := s.bridge.pppUp && s.bridge.wifi.wifiConnected

/-- A task has written a flag and not called `update_nat` yet. -/
def Changing (s : Tasks) : Prop :=
  s.tcpip.Changing ∨ s.eventTask.Changing ∨ s.btstack.Changing

/-- All callbacks have run, and no flag was written since without its
`update_nat`. -/
structure NatSettled (s : Tasks) : Prop where
  noneQueued : s.queued = 0
  noneRuns : ¬ s.tcpip.UpdatesNat
  noChange : ¬ s.Changing

/-- NAT is as the links want it, and so was its last setting. -/
structure NatFollows (s : Tasks) : Prop where
  napt : s.naptOn = s.wantsNat
  last : ∀ value, s.lastNapt = some value → value = s.wantsNat

end Tasks

/-! ## The invariant -/

/-- A callback is still to look at the flags. -/
def Due (s : Tasks) : Prop := 0 < s.queued ∨ s.Changing

/-- What the tcpip task goes by is what the flags say, unless another callback
is due. -/
def Current (s : Tasks) : Prop :=
  match s.tcpip with
  | .natStarts => True
  | .natPppUp => Due s ∨ s.bridge.pppUp = true
  | .natEnables enable => Due s ∨ enable = s.wantsNat
  | _ => Due s ∨ s.naptOn = s.wantsNat

structure NatInvariant (s : Tasks) : Prop where
  current : Current s
  noted : ∀ value, s.lastNapt = some value → value = s.naptOn

section Steps

variable {s s' : Tasks}

theorem current_of_due (due : Due s) : Current s := by
  unfold Current
  split
  · trivial
  · exact Or.inl due
  · exact Or.inl due
  · exact Or.inl due

theorem current_iff (elsewhere : ¬ s.tcpip.UpdatesNat) :
    Current s ↔ Due s ∨ s.naptOn = s.wantsNat := by
  unfold Current
  cases pc : s.tcpip with
  | natStarts => simp [pc, TcpipPc.UpdatesNat] at elsewhere
  | natPppUp => simp [pc, TcpipPc.UpdatesNat] at elsewhere
  | natEnables enable => simp [pc, TcpipPc.UpdatesNat] at elsewhere
  | _ => exact Iff.rfl

theorem Due.keeps (due : Due s) (queued : s'.queued = s.queued)
    (tcpip : s.tcpip.Changing → s'.tcpip.Changing)
    (eventTask : s.eventTask.Changing → s'.eventTask.Changing)
    (btstack : s.btstack.Changing → s'.btstack.Changing) : Due s' := by
  rcases due with waiting | changingTcpip | changingEvent | changingBtstack
  · left
    rw [queued]
    exact waiting
  · exact Or.inr (Or.inl (tcpip changingTcpip))
  · exact Or.inr (Or.inr (Or.inl (eventTask changingEvent)))
  · exact Or.inr (Or.inr (Or.inr (btstack changingBtstack)))

/-- A step after which a callback is due, and that leaves NAT alone. -/
theorem NatInvariant.of_due (invariant : NatInvariant s) (due : Due s')
    (naptOn : s'.naptOn = s.naptOn) (lastNapt : s'.lastNapt = s.lastNapt) :
    NatInvariant s' := by
  refine ⟨current_of_due due, ?_⟩
  rw [lastNapt, naptOn]
  exact invariant.noted

/-! ## The other tasks -/

/-- A step of another task that writes no flag of the links. -/
structure Bystander (s s' : Tasks) : Prop where
  tcpip : s'.tcpip = s.tcpip
  eventTask : s.eventTask.Changing → s'.eventTask.Changing
  btstack : s.btstack.Changing → s'.btstack.Changing
  queued : s'.queued = s.queued
  naptOn : s'.naptOn = s.naptOn
  lastNapt : s'.lastNapt = s.lastNapt
  pppUp : s'.bridge.pppUp = s.bridge.pppUp
  wifiConnected : s'.bridge.wifi.wifiConnected = s.bridge.wifi.wifiConnected

theorem NatInvariant.beside (invariant : NatInvariant s)
    (bystander : Bystander s s') : NatInvariant s' := by
  have stillDue : Due s → Due s' := by
    intro due
    refine due.keeps bystander.queued ?_ bystander.eventTask bystander.btstack
    rw [bystander.tcpip]
    exact id
  have sameWish : s'.wantsNat = s.wantsNat := by
    rw [Tasks.wantsNat, bystander.pppUp, bystander.wifiConnected,
      Tasks.wantsNat]
  constructor
  · have current := invariant.current
    unfold Current at current ⊢
    rw [bystander.tcpip, bystander.naptOn, sameWish, bystander.pppUp]
    cases pc : s.tcpip with
    | natStarts => trivial
    | _ =>
        rw [pc] at current
        exact current.imp_left stillDue
  · rw [bystander.lastNapt, bystander.naptOn]
    exact invariant.noted

theorem eventStep_nat (invariant : NatInvariant s) (io : WifiIo) :
    NatInvariant (s.eventStep io) := by
  have other (calm : ¬ s.eventTask.Changing) (pc : EventPc) :
      s.eventTask.Changing → pc.Changing :=
    fun changing => absurd changing calm
  unfold Tasks.eventStep
  cases pc : s.eventTask with
  | idle => exact invariant
  | gotIp => exact invariant.of_due (Or.inl (Nat.succ_pos _)) rfl rfl
  | lost ignore => exact invariant.of_due (Or.inl (Nat.succ_pos _)) rfl rfl
  | lostIn st =>
      have frame := afterLoss_frame io s.bridge st
      apply invariant.beside
      exact
        ⟨rfl, other (by simp [pc, EventPc.Changing]) _, id, rfl, rfl, rfl,
          frame.pppUp, frame.wifiConnected⟩
  | lostShows st =>
      have calm : ¬ s.eventTask.Changing := by simp [pc, EventPc.Changing]
      apply invariant.beside
      cases st with
      | none => exact ⟨rfl, other calm _, id, rfl, rfl, rfl, rfl, rfl⟩
      | some st => exact ⟨rfl, other calm _, id, rfl, rfl, rfl, rfl, rfl⟩
  | _ =>
      apply invariant.beside
      exact
        ⟨rfl, other (by simp [pc, EventPc.Changing]) _, id, rfl, rfl, rfl, rfl,
          rfl⟩

theorem btstackStep_nat (invariant : NatInvariant s) :
    NatInvariant s.btstackStep := by
  unfold Tasks.btstackStep
  cases pc : s.btstack with
  | idle => exact invariant
  | shown => exact invariant.of_due (Or.inl (Nat.succ_pos _)) rfl rfl
  | _ =>
      refine invariant.of_due ?_ rfl rfl
      exact Or.inr (Or.inr (Or.inr trivial))

/-! ## The tcpip task -/

/-- A step of the tcpip task outside the callback, once `update_nat` is
called. -/
theorem NatInvariant.elsewhere (invariant : NatInvariant s)
    (calm : ¬ s.tcpip.Changing) (before : ¬ s.tcpip.UpdatesNat)
    (after : ¬ s'.tcpip.UpdatesNat) (eventTask : s'.eventTask = s.eventTask)
    (btstack : s'.btstack = s.btstack) (queued : s'.queued = s.queued)
    (naptOn : s'.naptOn = s.naptOn) (lastNapt : s'.lastNapt = s.lastNapt)
    (sameWish : s'.wantsNat = s.wantsNat) : NatInvariant s' := by
  have stillDue : Due s → Due s' := by
    intro due
    apply due.keeps queued
    · exact fun changing => absurd changing calm
    · rw [eventTask]
      exact id
    · rw [btstack]
      exact id
  constructor
  · have current := (current_iff before).mp invariant.current
    rw [current_iff after, naptOn, sameWish]
    exact current.imp_left stillDue
  · rw [lastNapt, naptOn]
    exact invariant.noted

/-- A step of the callback. -/
theorem Due.natStep (due : Due s) (runs : s.tcpip.UpdatesNat)
    (eventTask : s'.eventTask = s.eventTask) (btstack : s'.btstack = s.btstack)
    (queued : s'.queued = s.queued) : Due s' := by
  apply due.keeps queued
  · intro changing
    cases pc : s.tcpip with
    | flagged up => simp [pc, TcpipPc.UpdatesNat] at runs
    | _ => simp [pc, TcpipPc.Changing] at changing
  · rw [eventTask]
    exact id
  · rw [btstack]
    exact id

/-- The callback sets NAT to what it has found the links to want. -/
theorem applyNat_nat (invariant : NatInvariant s) {enable : Bool}
    (pc : s.tcpip = .natEnables enable) :
    NatInvariant ((s.applyNat enable).withTcpip .idle) := by
  have current := invariant.current
  rw [Current, pc] at current
  have runs : s.tcpip.UpdatesNat := by
    rw [pc]
    trivial
  unfold Tasks.applyNat
  by_cases already : enable = s.naptOn
  · rw [if_pos already]
    refine ⟨?_, invariant.noted⟩
    rw [current_iff (by exact id)]
    rw [already] at current
    exact current.imp_left fun due => due.natStep runs rfl rfl rfl
  · rw [if_neg already]
    refine ⟨?_, fun value set => (Option.some.inj set).symm⟩
    rw [current_iff (by exact id)]
    exact current.imp_left fun due => due.natStep runs rfl rfl rfl

theorem tcpipStep_nat (invariant : NatInvariant s) (io : WifiIo) :
    NatInvariant (s.tcpipStep io) := by
  unfold Tasks.tcpipStep
  cases pc : s.tcpip with
  | idle => exact invariant
  | flagged up => exact invariant.of_due (Or.inl (Nat.succ_pos _)) rfl rfl
  | posted up =>
      have calm : ¬ s.tcpip.Changing := by simp [pc, TcpipPc.Changing]
      have before : ¬ s.tcpip.UpdatesNat := by simp [pc, TcpipPc.UpdatesNat]
      cases up with
      | true =>
          refine
            invariant.elsewhere calm before ?_ rfl rfl rfl rfl rfl rfl
          dsimp only [Tasks.withTcpip]
          split
          · exact id
          · exact id
      | false =>
          refine
            invariant.elsewhere calm before ?_ rfl rfl rfl rfl rfl rfl
          dsimp only [Tasks.withTcpip]
          split
          · exact id
          · exact id
  | countsNetworks =>
      refine
        invariant.elsewhere (by simp [pc, TcpipPc.Changing])
          (by simp [pc, TcpipPc.UpdatesNat]) ?_ rfl rfl rfl rfl rfl rfl
      dsimp only [Tasks.withTcpip]
      split
      · exact id
      · exact id
  | kicks =>
      refine
        invariant.elsewhere (by simp [pc, TcpipPc.Changing])
          (by simp [pc, TcpipPc.UpdatesNat]) id rfl rfl rfl rfl rfl ?_
      have sameWifi := (gwWifiKickDeferred_beside io s.bridge).wifiConnected
      simp [Tasks.wantsNat, gwWifiKickDeferred_pppUp, sameWifi]
  | natStarts =>
      refine ⟨?_, invariant.noted⟩
      by_cases up : s.bridge.pppUp = true
      · rw [if_pos up]
        exact Or.inr up
      · rw [if_neg up]
        right
        simp [Tasks.wantsNat, up]
  | natPppUp =>
      have current := invariant.current
      rw [Current, pc] at current
      refine ⟨?_, invariant.noted⟩
      rcases current with due | up
      · left
        refine due.natStep ?_ rfl rfl rfl
        rw [pc]
        trivial
      · right
        simp [Tasks.wantsNat, up]
  | natEnables enable => exact applyNat_nat invariant pc
  | _ =>
      exact
        invariant.elsewhere (by simp [pc, TcpipPc.Changing])
          (by simp [pc, TcpipPc.UpdatesNat]) id rfl rfl rfl rfl rfl rfl

/-- A task starts on an event or goes a step on. -/
theorem NatInvariant.step (invariant : NatInvariant s) (event : Event) :
    NatInvariant (s.step event) := by
  unfold Tasks.step
  split
  · exact invariant
  · cases event with
    | tcpip io => exact tcpipStep_nat invariant io
    | eventTask io => exact eventStep_nat invariant io
    | btstack => exact btstackStep_nat invariant
    | pppStatus up =>
        simp only [Tasks.handle, Tasks.pppStatus]
        split
        · exact invariant.of_due (Or.inr (Or.inl trivial)) rfl rfl
        · exact invariant
    | runsCallback =>
        simp only [Tasks.handle, Tasks.runsCallback]
        split
        · exact ⟨trivial, invariant.noted⟩
        · exact invariant
    | gotIp io =>
        simp only [Tasks.handle, Tasks.gotIp]
        split
        · exact invariant.of_due (Or.inr (Or.inr (Or.inl trivial))) rfl rfl
        · exact invariant
    | disconnected =>
        simp only [Tasks.handle, Tasks.disconnected]
        split
        · exact invariant.of_due (Or.inr (Or.inr (Or.inl trivial))) rfl rfl
        · exact invariant
    | channelClosed =>
        simp only [Tasks.handle, Tasks.channelClosed]
        split
        · next idle =>
          apply invariant.beside
          refine ⟨rfl, id, fun changing => ?_, rfl, rfl, rfl, rfl, rfl⟩
          rw [idle] at changing
          exact changing.elim
        · exact invariant

end Steps

/-! ## Every run -/

theorem boot_nat (io : WifiIo) (nvs : Option WifiList) :
    NatInvariant (Tasks.boot (Bridge.boot io nvs)) := by
  refine ⟨Or.inr ?_, ?_⟩
  · simp [Tasks.wantsNat, Tasks.boot, boot_lost]
  · intro value set
    cases set

/-- However the tasks interleave, once the callbacks have run and no task is
between a flag and its `update_nat`, NAT is on exactly when both links are
up. -/
theorem nat_follows (io : WifiIo) (nvs : Option WifiList) (events : List Event)
    (settled :
      (run Tasks.step (Tasks.boot (Bridge.boot io nvs)) events).NatSettled) :
    (run Tasks.step (Tasks.boot (Bridge.boot io nvs)) events).NatFollows := by
  have invariant :=
    run_invariant NatInvariant (fun _ event kept => kept.step event)
      (boot_nat io nvs) events
  generalize run Tasks.step (Tasks.boot (Bridge.boot io nvs)) events = s at *
  have notDue : ¬ Due s := by
    rintro (waiting | changing)
    · rw [settled.noneQueued] at waiting
      exact absurd waiting (lt_irrefl 0)
    · exact settled.noChange changing
  have inSync : s.naptOn = s.wantsNat :=
    ((current_iff settled.noneRuns).mp invariant.current).resolve_left notDue
  refine ⟨inSync, fun value set => ?_⟩
  rw [← inSync]
  exact invariant.noted value set

/-- Both links come up, and both callbacks run. -/
def bothUp : Tasks :=
  run Tasks.step (Tasks.boot (Bridge.boot (goodIo [97]) none))
    [.gotIp (goodIo [97]), .eventTask (goodIo [97]), .pppStatus true,
      .tcpip (goodIo [97]), .tcpip (goodIo [97]), .tcpip (goodIo [97]),
      .tcpip (goodIo [97]), .runsCallback, .tcpip (goodIo [97]),
      .tcpip (goodIo [97]), .tcpip (goodIo [97]), .runsCallback,
      .tcpip (goodIo [97]), .tcpip (goodIo [97]), .tcpip (goodIo [97])]

theorem nat_follows_bothUp : bothUp.NatFollows ∧ bothUp.naptOn = true := by
  refine ⟨nat_follows (goodIo [97]) none _ ⟨by decide, ?_, ?_⟩, by decide⟩
  · exact id
  · rintro (tcpip | eventTask | btstack)
    · exact tcpip
    · exact eventTask
    · exact btstack

end VeteraBridge.Gateway

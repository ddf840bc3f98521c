import VeteraBridge.Gateway.Nat

/-!
# The app state and the two links

`APP_BRIDGE` stands for both links being up.  The PPP callback and the WiFi
handlers each write a flag of their own, look at the other's and then write the
app state, so a write can be late: it goes by a flag that has changed since.
Without a late write the state is right once both tasks are done.
-/

namespace VeteraBridge.Gateway

open EventRun
open Wifi

/-! ## What a task will still do -/

/-- `gw_on_ppp_up` is still to show the bridge, or to look at the WiFi link. -/
def TcpipPc.WillShowBridge : TcpipPc → Prop
  | .flagged true | .posted true | .showsBridge => True
  | _ => False

/-- The handler of a `GOT_IP` is still to show the bridge, or to look at the PPP
link. -/
def EventPc.WillShowBridge : EventPc → Prop
  | .gotIp | .gotIpPosted | .gotIpBridge => True
  | _ => False

/-- The handler of a `DISCONNECTED` is still to look at the app state, or to
leave the bridge. -/
def EventPc.WillLeaveBridge : EventPc → Prop
  | .lost ignore | .lostPosted ignore => ignore = false
  | .lostIn st => st = .bridge
  | .lostShows st => st ≠ none
  | _ => False

namespace Tasks

/-- The bridge is shown exactly while both links are up. -/
def ShowsLinks (s : Tasks) : Prop :=
  s.bridge.appState = .bridge ↔
    s.bridge.pppUp = true ∧ s.bridge.wifi.wifiConnected = true

/-- No PPP callback and no WiFi handler is running. -/
structure Finished (s : Tasks) : Prop where
  tcpip : s.tcpip = .idle ∨ s.tcpip.UpdatesNat
  eventTask : s.eventTask = .idle

end Tasks

/-- PPP comes up, and the WiFi link comes and goes. -/
def Event.OfLinks : Event → Prop
  | .pppStatus up => up = true
  | .channelClosed | .btstack => False
  | _ => True

/-- A step does not write an app state that the links have overtaken: unless the
other task is still to put it right, the bridge is shown with WiFi up,
`APP_NO_WIFI` with WiFi down, and `APP_WAIT_BT` with PPP down; and no
`DISCONNECTED` is ignored while the bridge is shown. -/
def InTime (s : Tasks) : Event → Prop
  | .tcpip _ =>
    match s.tcpip with
    | .showsBridge =>
      s.bridge.wifi.wifiConnected = true ∨ s.eventTask.WillLeaveBridge
    | .showsNoWifi =>
      s.bridge.wifi.wifiConnected = false ∨ s.eventTask.WillShowBridge
    | _ => True
  | .eventTask _ =>
    match s.eventTask with
    | .gotIpWaits => s.bridge.pppUp = false ∨ s.tcpip.WillShowBridge
    | _ => True
  | .disconnected =>
    s.eventTask = .idle → s.bridge.wifi.wifiIgnoreDisconnect = true →
      s.bridge.appState ≠ .bridge
  | _ => True

/-! ## The invariant -/

/-- What the place of the tcpip task says about PPP. -/
def TcpipPc.Agrees (pppUp : Bool) : TcpipPc → Prop
  | .flagged up | .posted up => up = true ∧ pppUp = true
  | .showsBridge | .countsNetworks | .showsNoWifi | .kicks => pppUp = true
  | .leavesBridge => False
  | _ => True

/-- What the place of the event task says about the links. -/
def EventPc.Agrees (pppUp wifiConnected : Bool) : EventPc → Prop
  | .idle => True
  | .gotIpBridge => pppUp = true ∧ wifiConnected = true
  | .gotIp | .gotIpPosted | .gotIpAlone | .gotIpWaits => wifiConnected = true
  | .lost _ | .lostPosted _ | .lostIn _ => wifiConnected = false
  | .lostShows st => wifiConnected = false ∧ st ≠ some .bridge

/-- The bridge will be shown once both links are up, and left once they are
not. -/
structure Consistent (appState : AppState) (pppUp wifiConnected : Bool)
    (tcpip : TcpipPc) (eventTask : EventPc) : Prop where
  tcpipAgrees : tcpip.Agrees pppUp
  eventAgrees : eventTask.Agrees pppUp wifiConnected
  arrives :
    pppUp = true → wifiConnected = true →
      appState = .bridge ∨ tcpip.WillShowBridge ∨ eventTask.WillShowBridge
  leaves :
    appState = .bridge →
      pppUp = true ∧ (wifiConnected = true ∨ eventTask.WillLeaveBridge)

def BridgeInvariant (s : Tasks) : Prop :=
  Consistent s.bridge.appState s.bridge.pppUp s.bridge.wifi.wifiConnected
    s.tcpip s.eventTask

theorem EventPc.Agrees.pppUp {pppUp wifiConnected : Bool} {pc : EventPc}
    (agrees : pc.Agrees pppUp wifiConnected) : pc.Agrees true wifiConnected := by
  cases pc with
  | gotIpBridge => exact ⟨rfl, agrees.2⟩
  | _ => exact agrees

theorem lossShows_ne_bridge (st : AppState) (s : Bridge) :
    lossShows st s ≠ some .bridge := by
  have cycle : lossShows .wifiConnecting s ≠ some .bridge := by
    simp only [lossShows]
    split_ifs <;> simp
  cases st with
  | waitBt => exact cycle
  | wifiConnecting => exact cycle
  | wifiFailed => exact cycle
  | bridgeNoWifi => exact cycle
  | noWifi => simp [lossShows]
  | wifiScanning => simp [lossShows]
  | bridge =>
      simp only [lossShows]
      split_ifs <;> simp

theorem lossShows_bridge (s : Bridge) : lossShows .bridge s ≠ none := by
  simp only [lossShows]
  split
  · exact Option.some_ne_none _
  · exact Option.some_ne_none _

section Steps

variable {appState : AppState} {pppUp wifiConnected : Bool}
  {tcpip tcpip' : TcpipPc} {eventTask eventTask' : EventPc}

/-- The tcpip task goes on without writing the app state. -/
theorem Consistent.tcpipMoves
    (consistent :
      Consistent appState pppUp wifiConnected tcpip eventTask)
    (agrees : tcpip'.Agrees pppUp)
    (stillShows :
      wifiConnected = true → tcpip.WillShowBridge → tcpip'.WillShowBridge) :
    Consistent appState pppUp wifiConnected tcpip' eventTask := by
  refine ⟨agrees, consistent.eventAgrees, ?_, consistent.leaves⟩
  intro up connected
  rcases consistent.arrives up connected with shown | tcpipShows | eventShows
  · exact Or.inl shown
  · exact Or.inr (Or.inl (stillShows connected tcpipShows))
  · exact Or.inr (Or.inr eventShows)

/-- The tcpip task goes on from a place that shows nothing. -/
theorem Consistent.tcpipGoesOn {before : TcpipPc}
    (consistent :
      Consistent appState pppUp wifiConnected tcpip eventTask)
    (isPc : tcpip = before) (silent : ¬ before.WillShowBridge)
    (agrees : tcpip'.Agrees pppUp) :
    Consistent appState pppUp wifiConnected tcpip' eventTask := by
  apply consistent.tcpipMoves agrees
  intro _ shows
  rw [isPc] at shows
  exact absurd shows silent

/-- The event task goes on without writing the app state. -/
theorem Consistent.eventMoves
    (consistent :
      Consistent appState pppUp wifiConnected tcpip eventTask)
    (agrees : eventTask'.Agrees pppUp wifiConnected)
    (stillShows :
      pppUp = true → wifiConnected = true → eventTask.WillShowBridge →
        eventTask'.WillShowBridge)
    (stillLeaves :
      appState = .bridge → wifiConnected = false →
        eventTask.WillLeaveBridge → eventTask'.WillLeaveBridge) :
    Consistent appState pppUp wifiConnected tcpip eventTask' := by
  refine ⟨consistent.tcpipAgrees, agrees, ?_, ?_⟩
  · intro up connected
    rcases consistent.arrives up connected with shown | tcpipShows | eventShows
    · exact Or.inl shown
    · exact Or.inr (Or.inl tcpipShows)
    · exact Or.inr (Or.inr (stillShows up connected eventShows))
  · intro shown
    obtain ⟨up, stays⟩ := consistent.leaves shown
    refine ⟨up, ?_⟩
    cases connected : wifiConnected with
    | true => exact Or.inl rfl
    | false =>
        rw [connected] at stays
        exact Or.inr
          (stillLeaves shown connected (stays.resolve_left Bool.false_ne_true))

/-- The event task goes on from a place that shows nothing. -/
theorem Consistent.eventGoesOn {before : EventPc}
    (consistent :
      Consistent appState pppUp wifiConnected tcpip eventTask)
    (isPc : eventTask = before) (silent : ¬ before.WillShowBridge)
    (agrees : eventTask'.Agrees pppUp wifiConnected)
    (stillLeaves :
      appState = .bridge → before.WillLeaveBridge →
        eventTask'.WillLeaveBridge) :
    Consistent appState pppUp wifiConnected tcpip eventTask' := by
  apply consistent.eventMoves agrees
  · intro _ _ shows
    rw [isPc] at shows
    exact absurd shows silent
  · intro shown _ leaves
    rw [isPc] at leaves
    exact stillLeaves shown leaves

/-- An app state other than the bridge is written, which is right or about to be
put right. -/
theorem Consistent.leavesBridge (tcpipAgrees : tcpip.Agrees pppUp)
    (eventAgrees : eventTask.Agrees pppUp wifiConnected)
    (notBridge : appState ≠ .bridge)
    (arrives :
      pppUp = true → wifiConnected = true →
        tcpip.WillShowBridge ∨ eventTask.WillShowBridge) :
    Consistent appState pppUp wifiConnected tcpip eventTask :=
  ⟨tcpipAgrees, eventAgrees, fun up connected => Or.inr (arrives up connected),
    fun shown => absurd shown notBridge⟩

variable {s : Tasks}

theorem tcpipStep_consistent (invariant : BridgeInvariant s) (io : WifiIo)
    (inTime : InTime s (.tcpip io)) : BridgeInvariant (s.tcpipStep io) := by
  have agrees := invariant.tcpipAgrees
  unfold Tasks.tcpipStep
  cases pc : s.tcpip with
  | idle => exact invariant
  | flagged up =>
      rw [pc] at agrees
      obtain ⟨rfl, isUp⟩ := agrees
      exact invariant.tcpipMoves ⟨rfl, isUp⟩ fun _ _ => trivial
  | posted up =>
      rw [pc] at agrees
      obtain ⟨rfl, isUp⟩ := agrees
      apply invariant.tcpipMoves
      · dsimp only [Tasks.withTcpip]
        split
        · exact isUp
        · exact isUp
      · intro connected _
        dsimp only [Tasks.withTcpip]
        rw [if_pos connected]
        trivial
  | showsBridge =>
      rw [pc] at agrees
      rw [InTime, pc] at inTime
      exact
        ⟨trivial, invariant.eventAgrees, fun _ _ => Or.inl rfl,
          fun _ => ⟨agrees, inTime⟩⟩
  | countsNetworks =>
      rw [pc] at agrees
      apply invariant.tcpipGoesOn pc id
      dsimp only [Tasks.withTcpip]
      split
      · exact agrees
      · exact agrees
  | showsNoWifi =>
      rw [InTime, pc] at inTime
      refine Consistent.leavesBridge trivial invariant.eventAgrees ?_ ?_
      · exact AppState.noConfusion
      · intro _ connected
        right
        apply inTime.resolve_left
        change s.bridge.wifi.wifiConnected = true at connected
        simp [connected]
  | kicks =>
      have beside := gwWifiKickDeferred_beside io s.bridge
      have samePpp := gwWifiKickDeferred_pppUp io s.bridge
      simp only [BridgeInvariant, Tasks.withTcpip, Tasks.withBridge,
        beside.appState, samePpp, beside.wifiConnected]
      exact invariant.tcpipGoesOn pc id trivial
  | leavesBridge =>
      rw [pc] at agrees
      exact agrees.elim
  | natStarts =>
      apply invariant.tcpipGoesOn pc id
      dsimp only [Tasks.withTcpip]
      split
      · trivial
      · trivial
  | natPppUp => exact invariant.tcpipGoesOn pc id trivial
  | natEnables enable =>
      have applied :
          (s.applyNat enable).bridge = s.bridge ∧
            (s.applyNat enable).eventTask = s.eventTask := by
        unfold Tasks.applyNat
        split
        · exact ⟨rfl, rfl⟩
        · exact ⟨rfl, rfl⟩
      simp only [BridgeInvariant, Tasks.withTcpip, applied]
      exact invariant.tcpipGoesOn pc id trivial

theorem eventStep_consistent (invariant : BridgeInvariant s) (io : WifiIo)
    (inTime : InTime s (.eventTask io)) : BridgeInvariant (s.eventStep io) := by
  have agrees := invariant.eventAgrees
  unfold Tasks.eventStep
  cases pc : s.eventTask with
  | idle => exact invariant
  | gotIp =>
      rw [pc] at agrees
      apply invariant.eventMoves
      · exact agrees
      · exact fun _ _ _ => trivial
      · rw [pc]
        exact fun _ _ leaves => leaves.elim
  | gotIpPosted =>
      rw [pc] at agrees
      apply invariant.eventMoves
      · dsimp only [Tasks.withEvent]
        split
        · next up => exact ⟨up, agrees⟩
        · exact agrees
      · intro up _ _
        dsimp only [Tasks.withEvent]
        rw [if_pos up]
        trivial
      · rw [pc]
        exact fun _ _ leaves => leaves.elim
  | gotIpBridge =>
      rw [pc] at agrees
      exact
        ⟨invariant.tcpipAgrees, trivial, fun _ _ => Or.inl rfl,
          fun _ => ⟨agrees.1, Or.inl agrees.2⟩⟩
  | gotIpAlone =>
      rw [pc] at agrees
      apply invariant.eventGoesOn pc id
      · dsimp only [Tasks.withEvent]
        split
        · exact agrees
        · trivial
      · exact fun _ leaves => leaves.elim
  | gotIpWaits =>
      rw [InTime, pc] at inTime
      refine Consistent.leavesBridge invariant.tcpipAgrees trivial ?_ ?_
      · exact AppState.noConfusion
      · intro up _
        left
        apply inTime.resolve_left
        change s.bridge.pppUp = true at up
        simp [up]
  | lost ignore =>
      rw [pc] at agrees
      exact invariant.eventGoesOn pc id agrees fun _ leaves => leaves
  | lostPosted ignore =>
      rw [pc] at agrees
      apply invariant.eventGoesOn pc id
      · dsimp only [Tasks.withEvent]
        split
        · trivial
        · exact agrees
      · rintro shown rfl
        exact shown
  | lostIn st =>
      rw [pc] at agrees
      have frame := afterLoss_frame io s.bridge st
      have samePpp :
          ((afterLoss io st s.bridge).setAppState s.bridge.appState).pppUp =
            s.bridge.pppUp := frame.pppUp
      have sameWifi :
          ((afterLoss io st s.bridge).setAppState
              s.bridge.appState).wifi.wifiConnected =
            s.bridge.wifi.wifiConnected := frame.wifiConnected
      simp only [BridgeInvariant, Tasks.withEvent, Tasks.withBridge, samePpp,
        sameWifi]
      apply invariant.eventGoesOn pc id
      · exact ⟨agrees, lossShows_ne_bridge st s.bridge⟩
      · rintro _ rfl
        exact lossShows_bridge s.bridge
  | lostShows st =>
      rw [pc] at agrees
      obtain ⟨lost, notBridge⟩ := agrees
      cases st with
      | none =>
          apply invariant.eventGoesOn pc id
          · trivial
          · exact fun _ leaves => absurd rfl leaves
      | some st =>
          refine Consistent.leavesBridge invariant.tcpipAgrees trivial ?_ ?_
          · exact fun same => notBridge (congrArg some same)
          · intro _ connected
            exact absurd (lost.symm.trans connected) Bool.false_ne_true

/-- A step that is in time keeps the app state right, or about to be put
right. -/
theorem step_consistent (invariant : BridgeInvariant s) {event : Event}
    (ofLinks : event.OfLinks) (inTime : InTime s event) :
    BridgeInvariant (s.step event) := by
  unfold Tasks.step
  split
  · exact invariant
  · cases event with
    | tcpip io => exact tcpipStep_consistent invariant io inTime
    | eventTask io => exact eventStep_consistent invariant io inTime
    | channelClosed => exact ofLinks.elim
    | btstack => exact ofLinks.elim
    | pppStatus up =>
        obtain rfl : up = true := ofLinks
        simp only [Tasks.handle, Tasks.pppStatus]
        split
        · exact
            ⟨⟨rfl, rfl⟩, invariant.eventAgrees.pppUp,
              fun _ _ => Or.inr (Or.inl trivial),
              fun shown => ⟨rfl, (invariant.leaves shown).2⟩⟩
        · exact invariant
    | runsCallback =>
        simp only [Tasks.handle, Tasks.runsCallback]
        split
        · next runs => exact invariant.tcpipGoesOn runs.1 id trivial
        · exact invariant
    | gotIp io =>
        simp only [Tasks.handle, Tasks.gotIp]
        split
        · refine
            ⟨invariant.tcpipAgrees, rfl,
              fun _ _ => Or.inr (Or.inr trivial), fun shown => ?_⟩
          exact ⟨(invariant.leaves shown).1, Or.inl rfl⟩
        · exact invariant
    | disconnected =>
        simp only [Tasks.handle, Tasks.disconnected]
        split
        · next idle =>
          refine
            ⟨invariant.tcpipAgrees, rfl,
              fun _ connected => Bool.noConfusion connected, fun shown => ?_⟩
          refine ⟨(invariant.leaves shown).1, Or.inr ?_⟩
          apply Bool.eq_false_iff.mpr
          exact fun ignore => inTime idle ignore shown
        · exact invariant

/-- A tcpip task that runs no PPP callback goes by no flag, and shows
nothing. -/
theorem TcpipPc.of_finished {pc : TcpipPc}
    (finished : pc = .idle ∨ pc.UpdatesNat) :
    (∀ pppUp, pc.Agrees pppUp) ∧ ¬ pc.WillShowBridge := by
  rcases finished with rfl | updates
  · exact ⟨fun _ => trivial, id⟩
  · cases pc with
    | natStarts => exact ⟨fun _ => trivial, id⟩
    | natPppUp => exact ⟨fun _ => trivial, id⟩
    | natEnables enable => exact ⟨fun _ => trivial, id⟩
    | _ => exact updates.elim

/-- Once both tasks are done, nothing is left to be put right. -/
theorem BridgeInvariant.showsLinks (invariant : BridgeInvariant s)
    (finished : s.Finished) : s.ShowsLinks := by
  have tcpipDone := (TcpipPc.of_finished finished.tcpip).2
  have eventDone := finished.eventTask
  constructor
  · intro shown
    obtain ⟨up, connected | leaves⟩ := invariant.leaves shown
    · exact ⟨up, connected⟩
    · rw [eventDone] at leaves
      exact leaves.elim
  · rintro ⟨up, connected⟩
    rcases invariant.arrives up connected with shown | tcpipShows | eventShows
    · exact shown
    · exact absurd tcpipShows tcpipDone
    · rw [eventDone] at eventShows
      exact eventShows.elim

/-- A state that shows the links, with both tasks done, has nothing to put
right. -/
theorem BridgeInvariant.of_showsLinks (finished : s.Finished)
    (shows : s.ShowsLinks) : BridgeInvariant s := by
  refine ⟨(TcpipPc.of_finished finished.tcpip).1 _, ?_, ?_, ?_⟩
  · rw [finished.eventTask]
    trivial
  · intro up connected
    exact Or.inl (shows.mpr ⟨up, connected⟩)
  · intro shown
    obtain ⟨up, connected⟩ := shows.mp shown
    exact ⟨up, Or.inl connected⟩

end Steps

/-! ## Every interleaving -/

/-- From a state that shows the links, with both tasks done, any interleaving of
PPP-up callbacks and WiFi handlers without a late write ends, once both tasks
are done again, in a state that shows the links. -/
theorem shows_links {start : Tasks} (finished : start.Finished)
    (shows : start.ShowsLinks) {events : List Event}
    (ofLinks : ∀ event ∈ events, event.OfLinks)
    (inTime : Along Tasks.step InTime start events)
    (finishes : (run Tasks.step start events).Finished) :
    (run Tasks.step start events).ShowsLinks := by
  have invariant :=
    run_invariant_along BridgeInvariant
      (fun _ _ kept allowed => step_consistent kept allowed.1 allowed.2)
      (BridgeInvariant.of_showsLinks finished shows) (inTime.with_each ofLinks)
  exact invariant.showsLinks finishes

/-! ### PPP comes up while WiFi does -/

/-- The saved network was found and is being tried, and a phone has dialled
in. -/
def bothComing : Tasks :=
  Tasks.boot
    (run Bridge.step (Bridge.boot (goodIo [97]) (some (oneSaved [97])))
      [.scanDone (goodIo [97]), .rfcommOpened])

/-- The address arrives, and then PPP is up. -/
def oneAfterTheOther : List Event :=
  .gotIp (goodIo [97]) :: List.replicate 4 (.eventTask (goodIo [97])) ++
    .pppStatus true :: List.replicate 3 (.tcpip (goodIo [97]))

theorem shows_links_coming :
    (run Tasks.step bothComing oneAfterTheOther).ShowsLinks := by
  apply shows_links
  · exact ⟨Or.inl rfl, rfl⟩
  · simp only [Tasks.ShowsLinks]
    decide
  · simp [oneAfterTheOther, Event.OfLinks]
  · exact
      ⟨trivial, trivial, trivial, trivial, Or.inl rfl, trivial, trivial,
        trivial, Or.inl rfl, trivial⟩
  · exact ⟨Or.inl rfl, rfl⟩

/-- PPP comes up between the handler's look at it and the handler's write. -/
def lateWait : Tasks :=
  run Tasks.step bothComing
    ([.gotIp (goodIo [97]), .eventTask (goodIo [97]), .eventTask (goodIo [97]),
      .pppStatus true, .tcpip (goodIo [97]), .tcpip (goodIo [97]),
      .tcpip (goodIo [97]), .eventTask (goodIo [97]),
      .eventTask (goodIo [97])])

/-- Both links are up, and the bridge waits for a phone. -/
theorem lateWait_shows :
    bothComing.Finished ∧ bothComing.ShowsLinks ∧ lateWait.Finished ∧
      lateWait.bridge.pppUp = true ∧
      lateWait.bridge.wifi.wifiConnected = true ∧
      lateWait.bridge.appState = .waitBt := by
  refine
    ⟨⟨Or.inl rfl, rfl⟩, ?_, ⟨Or.inl rfl, rfl⟩, by decide, by decide, by decide⟩
  simp only [Tasks.ShowsLinks]
  decide

end VeteraBridge.Gateway

import VeteraBridge.Wifi.System

/-!
# Three tasks

The PPP callbacks run on the tcpip task, the handlers of the WiFi driver on the
event task, and the end of a session on the BTstack task.  They share the flags
of both links and the app state, and none holds a lock from one access to the
next: a step here is one access.  Left alone, each is the handler of the bridge
that sees them as one event.
-/

namespace VeteraBridge.Gateway

open EventRun
open Wifi

/-- What the tcpip task does next, in `ppp_status_cb` with the hooks of
`gateway.c`, or in `update_nat_lwip_ctx`. -/
inductive TcpipPc where
  | idle
  /-- `ppp_up_flag` is written: call `update_nat` -/
  | flagged (up : Bool)
  /-- `gw_on_ppp_up` or `gw_on_ppp_down` -/
  | posted (up : Bool)
  | showsBridge
  | countsNetworks
  | showsNoWifi
  | kicks
  | leavesBridge
  | natStarts
  /-- `ppp_up_flag` was set: read `wifi_connected` -/
  | natPppUp
  | natEnables (enable : Bool)
deriving DecidableEq, Repr

/-- What the event task does next, in `wifi_event_handler`. -/
inductive EventPc where
  | idle
  /-- `wifi_connected` is set: call `update_nat` -/
  | gotIp
  | gotIpPosted
  | gotIpBridge
  /-- PPP was down: read the app state -/
  | gotIpAlone
  | gotIpWaits
  /-- `wifi_connected` is cleared: call `update_nat` -/
  | lost (ignore : Bool)
  | lostPosted (ignore : Bool)
  /-- the app state is read -/
  | lostIn (st : AppState)
  | lostShows (st : Option AppState)
deriving DecidableEq, Repr

/-- What the BTstack task does next, in `ppp_session_stop` and
`gw_on_rfcomm_closed`. -/
inductive BtstackPc where
  | idle
  /-- closing the pcb: clear `ppp_up_flag` -/
  | stopping
  | stopped
  | closed
  /-- the app state is set: call `update_nat` -/
  | shown
deriving DecidableEq, Repr

structure Tasks where
  bridge : Bridge
  tcpip : TcpipPc
  eventTask : EventPc
  btstack : BtstackPc
  /-- `update_nat_lwip_ctx` callbacks in the mailbox -/
  queued : Nat
  naptOn : Bool
  /-- the last `ip_napt_enable_netif` -/
  lastNapt : Option Bool

/-! ## Steps -/

/-- The app state that a loss shows, after it has read `st`; `none` where it
sets none. -/
def lossShows (st : AppState) (s : Bridge) : Option AppState :=
  match st with
  | .wifiConnecting | .bridgeNoWifi | .waitBt | .wifiFailed =>
    if 0 < s.wifi.candCount ∧
        (s.wifiBtNegotiating = true ∨
          s.wifi.candAttempts + 1 < candMaxAttempts) then
      none
    else if 0 < s.wifi.candCount ∧ s.wifi.candIndex + 1 < s.wifi.candCount then
      if s.appState ≠ .bridgeNoWifi then some .wifiConnecting else none
    else if s.appState = .bridgeNoWifi then none
    else if s.wifi.wifiRetries + 1 < wifiMaxRetries then none
    else some .wifiFailed
  | .bridge => if s.wifiListCount = 0 then some .noWifi else some .bridgeNoWifi
  | .noWifi | .wifiScanning => none

namespace Tasks

@[simp]
def withBridge (s : Tasks) (bridge : Bridge) : Tasks :=
  { s with bridge := bridge }

@[simp]
def withTcpip (s : Tasks) (pc : TcpipPc) : Tasks := { s with tcpip := pc }

@[simp]
def withEvent (s : Tasks) (pc : EventPc) : Tasks := { s with eventTask := pc }

@[simp]
def withBtstack (s : Tasks) (pc : BtstackPc) : Tasks := { s with btstack := pc }

/-- `set_app_state`. -/
@[simp]
def setAppState (s : Tasks) (st : AppState) : Tasks :=
  s.withBridge (s.bridge.setAppState st)

/-- `update_nat`. -/
@[simp]
def post (s : Tasks) : Tasks := { s with queued := s.queued + 1 }

/-- `update_nat_lwip_ctx`, once it knows what to set. -/
def applyNat (s : Tasks) (enable : Bool) : Tasks :=
  if enable = s.naptOn then s
  else { s with naptOn := enable, lastNapt := some enable }

/-- The next step of the tcpip task. -/
def tcpipStep (io : WifiIo) (s : Tasks) : Tasks :=
  match s.tcpip with
  | .idle => s
  | .flagged up => s.post.withTcpip (.posted up)
  | .posted true =>
    s.withTcpip
      (if s.bridge.wifi.wifiConnected then .showsBridge else .countsNetworks)
  | .showsBridge => (s.setAppState .bridge).withTcpip .idle
  | .countsNetworks =>
    s.withTcpip (if s.bridge.wifiListCount = 0 then .showsNoWifi else .kicks)
  | .showsNoWifi => (s.setAppState .noWifi).withTcpip .idle
  | .kicks => (s.withBridge (gwWifiKickDeferred io s.bridge)).withTcpip .idle
  | .posted false =>
    s.withTcpip
      (if s.bridge.appState = .bridge ∨ s.bridge.appState = .bridgeNoWifi then
        .leavesBridge
      else
        .idle)
  | .leavesBridge => (s.setAppState .waitBt).withTcpip .idle
  | .natStarts =>
    s.withTcpip (if s.bridge.pppUp then .natPppUp else .natEnables false)
  | .natPppUp => s.withTcpip (.natEnables s.bridge.wifi.wifiConnected)
  | .natEnables enable => (s.applyNat enable).withTcpip .idle

/-- The next step of the event task. -/
def eventStep (io : WifiIo) (s : Tasks) : Tasks :=
  match s.eventTask with
  | .idle => s
  | .gotIp => s.post.withEvent .gotIpPosted
  | .gotIpPosted =>
    s.withEvent (if s.bridge.pppUp then .gotIpBridge else .gotIpAlone)
  | .gotIpBridge => (s.setAppState .bridge).withEvent .idle
  | .gotIpAlone =>
    s.withEvent (if s.bridge.appState ≠ .waitBt then .gotIpWaits else .idle)
  | .gotIpWaits => (s.setAppState .waitBt).withEvent .idle
  | .lost ignore => s.post.withEvent (.lostPosted ignore)
  | .lostPosted ignore =>
    let s :=
      s.withBridge (s.bridge.withWifi { s.bridge.wifi with wifiIp := none })
    s.withEvent (if ignore then .idle else .lostIn s.bridge.appState)
  | .lostIn st =>
    -- everything but the app state, which is written next
    let after := afterLoss io st s.bridge
    (s.withBridge (after.setAppState s.bridge.appState)).withEvent
      (.lostShows (lossShows st s.bridge))
  | .lostShows none => s.withEvent .idle
  | .lostShows (some st) => (s.setAppState st).withEvent .idle

/-- The next step of the BTstack task. -/
def btstackStep (s : Tasks) : Tasks :=
  match s.btstack with
  | .idle => s
  | .stopping =>
    (s.withBridge { s.bridge with pppUp := false }).withBtstack .stopped
  | .stopped =>
    (s.withBridge { s.bridge with btConnected := false }).withBtstack .closed
  | .closed => (s.setAppState .waitBt).withBtstack .shown
  | .shown => s.post.withBtstack .idle

end Tasks

/-- A task starts on something, or goes one step on. -/
inductive Event where
  | pppStatus (up : Bool)
  | runsCallback
  | tcpip (io : WifiIo)
  | gotIp (io : WifiIo)
  | disconnected
  | eventTask (io : WifiIo)
  | channelClosed
  | btstack
deriving DecidableEq, Repr

namespace Tasks

/-- `ppp_status_cb` starts. -/
def pppStatus (up : Bool) (s : Tasks) : Tasks :=
  if s.tcpip = .idle then
    (s.withBridge { s.bridge with pppUp := up }).withTcpip (.flagged up)
  else
    s

/-- The oldest callback starts. -/
def runsCallback (s : Tasks) : Tasks :=
  if s.tcpip = .idle ∧ 0 < s.queued then
    { s with queued := s.queued - 1, tcpip := .natStarts }
  else
    s

def gotIp (io : WifiIo) (s : Tasks) : Tasks :=
  if s.eventTask = .idle then
    (s.withBridge (takeGotIp io s.bridge)).withEvent .gotIp
  else
    s

def disconnected (s : Tasks) : Tasks :=
  if s.eventTask = .idle then
    (s.withBridge (takeDisconnect s.bridge)).withEvent
      (.lost s.bridge.wifi.wifiIgnoreDisconnect)
  else
    s

def channelClosed (s : Tasks) : Tasks :=
  if s.btstack = .idle then s.withBtstack .stopping else s

def handle (s : Tasks) : Event → Tasks
  | .pppStatus up => s.pppStatus up
  | .runsCallback => s.runsCallback
  | .tcpip io => s.tcpipStep io
  | .gotIp io => s.gotIp io
  | .disconnected => s.disconnected
  | .eventTask io => s.eventStep io
  | .channelClosed => s.channelClosed
  | .btstack => s.btstackStep

/-- After `esp_restart` nothing happens. -/
def step (s : Tasks) (event : Event) : Tasks :=
  if s.bridge.restarted then s else s.handle event

/-- The tasks at boot. -/
def boot (bridge : Bridge) : Tasks :=
  { bridge := bridge
    tcpip := .idle
    eventTask := .idle
    btstack := .idle
    queued := 0
    naptOn := false
    lastNapt := none }

end Tasks

/-! ## A task left alone -/

section Loss

variable (io : WifiIo) (s : Bridge)

theorem wifiScheduleRetry_appState (delayMs : Nat) :
    (wifiScheduleRetry io delayMs s).appState = s.appState := by
  obtain ⟨running, arg, form⟩ := wifiScheduleRetry_form io s delayMs
  rw [form]

theorem wifiCycleFailed_appState :
    (wifiCycleFailed io s).appState =
      if s.appState = .bridgeNoWifi then s.appState
      else if s.wifi.wifiRetries + 1 < wifiMaxRetries then s.appState
      else .wifiFailed := by
  have charged :
      (chargeCycle s).wifi.wifiRetries = s.wifi.wifiRetries + 1 := rfl
  unfold wifiCycleFailed
  dsimp only
  rw [charged]
  split
  · exact wifiScheduleRetry_appState io (chargeCycle s) _
  · split
    · exact wifiScheduleRetry_appState io (chargeCycle s) _
    · rfl

theorem cycleExhausted_appState :
    (wifiCycleFailed io (cycleExhausted s)).appState =
      (wifiCycleFailed io s).appState := by
  rw [wifiCycleFailed_appState, wifiCycleFailed_appState]
  unfold cycleExhausted
  split
  · rfl
  · rfl

theorem wifiTryCandidate_appState (free : ¬ s.wifiBtNegotiating = true) :
    (wifiTryCandidate io s).appState =
      if s.appState ≠ .bridgeNoWifi then .wifiConnecting else s.appState := by
  unfold wifiTryCandidate
  rw [if_neg free]
  rfl

/-- In the middle of a cycle or of a wait, the states shown are those of the
cycle. -/
theorem nextAttempt_appState :
    ((nextAttempt io s).getD (wifiCycleFailed io (cycleExhausted s))).appState =
      (lossShows .wifiConnecting s).getD s.appState := by
  have failed :
      (wifiCycleFailed io (cycleExhausted s)).appState =
        (if s.appState = .bridgeNoWifi then none
          else if s.wifi.wifiRetries + 1 < wifiMaxRetries then none
          else some AppState.wifiFailed).getD s.appState := by
    rw [cycleExhausted_appState, wifiCycleFailed_appState]
    split
    · rfl
    · split
      · rfl
      · rfl
  unfold nextAttempt lossShows
  by_cases candidates : 0 < s.wifi.candCount
  · by_cases negotiating : s.wifiBtNegotiating = true
    · simp only [candidates, negotiating, if_true, true_or, and_self]
      exact wifiScheduleRetry_appState io _ _
    · by_cases again : s.wifi.candAttempts + 1 < candMaxAttempts
      · simp only [candidates, negotiating, again, if_true, if_false, or_true,
          and_self, Bool.false_eq_true]
        rfl
      · by_cases another : s.wifi.candIndex + 1 < s.wifi.candCount
        · simp only [candidates, negotiating, again, another, if_true, if_false,
            or_self, and_false, and_self, Bool.false_eq_true, Option.getD_some]
          rw [wifiTryCandidate_appState io _ (by exact negotiating)]
          by_cases visible : s.appState = .bridgeNoWifi
          · simp [Bridge.withWifi, visible]
          · simp [Bridge.withWifi, visible]
        · simp only [candidates, negotiating, again, another, if_true, if_false,
            or_self, and_false, Bool.false_eq_true, Option.getD_none]
          exact failed
  · simp only [candidates, if_false, false_and, Option.getD_none]
    exact failed

/-- What a loss shows is what its handler shows. -/
theorem lossShows_spec (st : AppState) :
    (afterLoss io st s).appState = (lossShows st s).getD s.appState := by
  cases st with
  | waitBt => exact nextAttempt_appState io s
  | wifiConnecting => exact nextAttempt_appState io s
  | wifiFailed => exact nextAttempt_appState io s
  | bridgeNoWifi => exact nextAttempt_appState io s
  | noWifi => rfl
  | wifiScanning => rfl
  | bridge =>
      simp only [afterLoss, lossShows]
      split
      · rfl
      · rw [wifiScheduleRetry_appState]
        rfl

end Loss

@[simp]
theorem setAppState_restarted (s : Bridge) (st : AppState) :
    (s.setAppState st).restarted = s.restarted :=
  rfl

@[simp]
theorem setAppState_setAppState (s : Bridge) (first second : AppState) :
    (s.setAppState first).setAppState second = s.setAppState second :=
  rfl

theorem setAppState_of_eq {s : Bridge} {st : AppState} (same : s.appState = st) :
    s.setAppState st = s := by
  rw [← same]
  rfl

section Alone

variable {s : Tasks} (io : WifiIo)

theorem pppUp_alone (idle : s.tcpip = .idle)
    (running : s.bridge.restarted = false) :
    (run Tasks.step s (.pppStatus true :: List.replicate 4 (.tcpip io))).bridge =
      s.bridge.handle (.pppUp io) := by
  simp only [List.replicate, run_cons, run_nil, Bridge.handle, gwOnPppUp]
  by_cases connected : s.bridge.wifi.wifiConnected = true
  · simp [Tasks.step, Tasks.handle, Tasks.pppStatus, Tasks.tcpipStep, idle,
      running, connected]
  · by_cases empty : s.bridge.wifi.wifiList.count = 0
    · simp [Tasks.step, Tasks.handle, Tasks.pppStatus, Tasks.tcpipStep, idle,
        running, connected, empty, Bridge.wifiListCount]
    · simp [Tasks.step, Tasks.handle, Tasks.pppStatus, Tasks.tcpipStep, idle,
        running, connected, empty, Bridge.wifiListCount]

theorem pppDown_alone (idle : s.tcpip = .idle)
    (running : s.bridge.restarted = false) :
    (run Tasks.step s (.pppStatus false :: List.replicate 3 (.tcpip io))).bridge =
      s.bridge.handle .pppDown := by
  simp only [List.replicate, run_cons, run_nil, Bridge.handle, gwOnPppDown]
  by_cases bridges :
      s.bridge.appState = .bridge ∨ s.bridge.appState = .bridgeNoWifi
  · simp [Tasks.step, Tasks.handle, Tasks.pppStatus, Tasks.tcpipStep, idle,
      running, bridges]
  · simp [Tasks.step, Tasks.handle, Tasks.pppStatus, Tasks.tcpipStep, idle,
      running, bridges]

theorem gotIp_alone (idle : s.eventTask = .idle)
    (running : s.bridge.restarted = false) :
    (run Tasks.step s (.gotIp io :: List.replicate 4 (.eventTask io))).bridge =
      handleGotIp io s.bridge := by
  have stillRunning : (takeGotIp io s.bridge).restarted = false := running
  simp only [List.replicate, run_cons, run_nil, handleGotIp]
  by_cases up : (takeGotIp io s.bridge).pppUp = true
  · simp [Tasks.step, Tasks.handle, Tasks.gotIp, Tasks.eventStep, idle, running,
      stillRunning, up, Bridge.setAppState]
  · by_cases waits : (takeGotIp io s.bridge).appState = .waitBt
    · simp [Tasks.step, Tasks.handle, Tasks.gotIp, Tasks.eventStep, idle,
        running, stillRunning, up, waits]
    · simp [Tasks.step, Tasks.handle, Tasks.gotIp, Tasks.eventStep, idle,
        running, stillRunning, up, waits, Bridge.setAppState]

theorem disconnected_alone (idle : s.eventTask = .idle)
    (running : s.bridge.restarted = false) :
    (run Tasks.step s (.disconnected :: List.replicate 4 (.eventTask io))).bridge =
      handleDisconnected io s.bridge := by
  simp only [List.replicate, run_cons, run_nil, handleDisconnected]
  by_cases ignore : s.bridge.wifi.wifiIgnoreDisconnect = true
  · simp [Tasks.step, Tasks.handle, Tasks.disconnected, Tasks.eventStep, idle,
      running, ignore, takeDisconnect, Bridge.withWifi]
  · generalize taken :
      (takeDisconnect s.bridge).withWifi
        { (takeDisconnect s.bridge).wifi with wifiIp := none } = before
    have beforeRuns : before.restarted = false := by
      rw [← taken]
      exact running
    have afterRuns :
        (afterLoss io before.appState before).restarted = false := by
      rw [(afterLoss_frame io before before.appState).restarted]
      exact beforeRuns
    have takenRuns : (takeDisconnect s.bridge).restarted = false := running
    have shown := lossShows_spec io before before.appState
    cases shows : lossShows before.appState before with
    | none =>
        rw [shows, Option.getD_none] at shown
        simp [Tasks.step, Tasks.handle, Tasks.disconnected, Tasks.eventStep,
          idle, running, ignore, taken, beforeRuns, takenRuns, afterRuns, shows,
          setAppState_of_eq shown]
    | some st =>
        rw [shows, Option.getD_some] at shown
        simp [Tasks.step, Tasks.handle, Tasks.disconnected, Tasks.eventStep,
          idle, running, ignore, taken, beforeRuns, takenRuns, afterRuns, shows,
          setAppState_of_eq shown]

/-- The end of a session, as the bridge sees it. -/
theorem channelClosed_alone (idle : s.btstack = .idle)
    (running : s.bridge.restarted = false) :
    (run Tasks.step s (.channelClosed :: List.replicate 4 .btstack)).bridge =
      (s.bridge.handle .sessionStopped).handle .rfcommClosed := by
  simp [Tasks.step, Tasks.handle, Tasks.channelClosed, Tasks.btstackStep, idle,
    running, Bridge.handle, gwOnRfcommClosed, Bridge.setAppState]

end Alone

end VeteraBridge.Gateway

import VeteraBridge.Wifi.Candidates

/-!
# The connect cycle

The statics of `wifi_multi.c` and the parts of `gateway.c` they meet, and the
functions that scan, try candidates, schedule retries and handle the driver's
events.  The driver is known by what it still owes: the `SCAN_DONE` of a scan,
and the `GOT_IP` or `DISCONNECTED` of a connect attempt.
-/

namespace VeteraBridge.Wifi

open Proxy (cstr strlcpy)

def wifiMaxRetries : Nat := 7

def wifiRetryBaseMs : Nat := 1000

def wifiRetryMaxMs : Nat := 30000

def candMaxAttempts : Nat := 2

def wifiNegotiateRecheckMs : Nat := 3000

/-- `app_state_t`. -/
inductive AppState where
  | waitBt
  | noWifi
  | wifiScanning
  | wifiConnecting
  | wifiFailed
  | bridge
  | bridgeNoWifi
deriving DecidableEq, Repr

inductive AuthMode where
  | wifiAuthOpen
  | wifiAuthWpa2Psk
deriving DecidableEq, Repr

/-- `wifi_config_t.sta`, where it is not zero or fixed. -/
structure StaConfig where
  ssid : List UInt8
  password : List UInt8
  authmode : AuthMode
deriving DecidableEq, Repr

/-- The WiFi driver, and the networks it was told to connect to. -/
structure Driver where
  config : Option StaConfig
  connects : List StaConfig
  scanOwed : Bool
  attemptOwed : Bool
deriving DecidableEq, Repr

/-- `wifi_recovery_task`: created, or between unregistering the handlers and
registering them again. -/
inductive RecoveryTask where
  | absent
  | created
  | tearing
deriving DecidableEq, Repr

/-- The statics of `wifi_multi.c`. -/
structure Statics where
  wifiList : WifiList
  wifiConnected : Bool
  wifiIgnoreDisconnect : Bool
  wifiRetries : Nat
  wifiRetryDelayMs : Nat
  wifiRssi : Int
  wifiCurSsid : List UInt8
  /-- `wifi_ip`, where `none` is "--" -/
  wifiIp : Option UInt32
  scanInProgress : Bool
  candidates : List Candidate
  candCount : Nat
  candIndex : Nat
  candAttempts : Nat
  wifiRetryRunning : Bool
  wifiRecoveryRunning : Bool
  /-- `wifi_evt_inst` and `ip_evt_inst` are not `NULL` -/
  handlers : Bool
  wifiStuckCount : Nat

/-- The bridge as `wifi_multi.c` sees it. -/
structure Bridge where
  appState : AppState
  btConnected : Bool
  pppUp : Bool
  wifiKickRunning : Bool
  wifi : Statics
  driver : Driver
  nvs : Option WifiList
  /-- the delay `wifi_retry_task` was last created with; it sleeps while
  `wifi_retry_running` is set -/
  retryArg : Nat
  recoveryTask : RecoveryTask
  /-- the list was cleared since the last `GOT_IP` -/
  clearedSinceUp : Bool
  /-- `esp_restart` was called -/
  restarted : Bool

namespace Bridge

def withWifi (s : Bridge) (wifi : Statics) : Bridge := { s with wifi := wifi }

def withDriver (s : Bridge) (driver : Driver) : Bridge :=
  { s with driver := driver }

/-- `set_app_state`. -/
def setAppState (s : Bridge) (st : AppState) : Bridge := { s with appState := st }

/-- The state of a cycle; `APP_BRIDGE_NO_WIFI` stays visible. -/
def showCycle (s : Bridge) (st : AppState) : Bridge :=
  { s with
    appState := if s.appState ≠ .bridgeNoWifi then st else s.appState }

/-- `wifi_list_count`. -/
def wifiListCount (s : Bridge) : Nat := s.wifi.wifiList.count

/-- `wifi_bt_negotiating`. -/
def wifiBtNegotiating (s : Bridge) : Bool := s.btConnected && !s.pppUp

end Bridge

/-- What the system answers during one event. -/
structure WifiIo where
  /-- `xTaskCreate` -/
  taskCreated : Bool
  /-- `esp_wifi_scan_start` -/
  scanStarted : Bool
  scan : ScanIo
  nvs : NvsListIo
  /-- the address of a `GOT_IP` -/
  ip : UInt32
  /-- `esp_wifi_sta_get_ap_info` -/
  apRssi : Option Int
deriving DecidableEq, Repr

/-! ## The cycle -/

/-- `wifi_schedule_retry`. -/
def wifiScheduleRetry (io : WifiIo) (delayMs : Nat) (s : Bridge) : Bridge :=
  if s.wifi.wifiRetryRunning then s
  else if io.taskCreated then
    { s with
      wifi := { s.wifi with wifiRetryRunning := true }
      retryArg := delayMs }
  else
    s

/-- One more failed cycle: it is counted, and the delay is doubled. -/
def chargeCycle (s : Bridge) : Bridge :=
  let delay := s.wifi.wifiRetryDelayMs
  s.withWifi
    { s.wifi with
      wifiRetries := s.wifi.wifiRetries + 1
      wifiRetryDelayMs :=
        if delay * 2 > wifiRetryMaxMs then wifiRetryMaxMs else delay * 2 }

/-- `wifi_cycle_failed`. -/
def wifiCycleFailed (io : WifiIo) (s : Bridge) : Bridge :=
  let delay := s.wifi.wifiRetryDelayMs
  let charged := chargeCycle s
  if s.appState = .bridgeNoWifi then wifiScheduleRetry io delay charged
  else if charged.wifi.wifiRetries < wifiMaxRetries then
    wifiScheduleRetry io delay charged
  else
    charged.setAppState .wifiFailed

/-- The station configuration for a network: `strncpy` leaves the last byte of
each field alone. -/
def staConfig (c : WifiCred) : StaConfig :=
  { ssid := (cstr c.ssid).take 31
    password := (cstr c.pass).take 63
    authmode := if cstr c.pass = [] then .wifiAuthOpen else .wifiAuthWpa2Psk }

/-- `esp_wifi_connect`. -/
def Driver.connect (d : Driver) : Driver :=
  { d with connects := d.connects ++ d.config.toList, attemptOwed := true }

/-- `wifi_try_candidate`. -/
def wifiTryCandidate (io : WifiIo) (s : Bridge) : Bridge :=
  if s.wifiBtNegotiating then
    wifiScheduleRetry io wifiNegotiateRecheckMs
      (s.withWifi { s.wifi with candCount := 0 })
  else
    let c := (s.wifi.candidates.getD s.wifi.candIndex ⟨WifiCred.zero, 0⟩).cred
    let s :=
      (s.withWifi { s.wifi with wifiCurSsid := strlcpy c.ssid 33 }).withDriver
        { s.driver with config := some (staConfig c) }
    let s := s.showCycle .wifiConnecting
    s.withDriver s.driver.connect

/-- `handle_scan_done`. -/
def handleScanDone (io : WifiIo) (s : Bridge) : Bridge :=
  if s.wifi.scanInProgress then
    let found := selectCandidates s.wifi.wifiList io.scan
    let s :=
      s.withWifi
        { s.wifi with
          scanInProgress := false
          candidates := found
          candCount := found.length }
    if found.length = 0 then wifiCycleFailed io s
    else
      wifiTryCandidate io
        (s.withWifi { s.wifi with candIndex := 0, candAttempts := 0 })
  else
    s

/-- The scan that starts a cycle. -/
def startScan (io : WifiIo) (s : Bridge) : Bridge :=
  if io.scanStarted then
    (s.withWifi { s.wifi with scanInProgress := true }).withDriver
      { s.driver with scanOwed := true }
  else
    wifiCycleFailed io (s.withWifi { s.wifi with scanInProgress := false })

/-- `wifi_connect_begin` has nothing to do: connected, or a cycle is under
way. -/
def Bridge.Busy (s : Bridge) : Prop :=
  s.wifi.wifiConnected = true ∨ s.wifi.scanInProgress = true ∨
    0 < s.wifi.candCount

instance (s : Bridge) : Decidable s.Busy :=
  inferInstanceAs (Decidable (_ ∨ _ ∨ _))

/-- `wifi_connect_begin`. -/
def wifiConnectBegin (io : WifiIo) (s : Bridge) : Bridge :=
  if s.wifiListCount = 0 then s.setAppState .noWifi
  else if s.Busy then s
  else if s.wifiBtNegotiating then
    wifiScheduleRetry io wifiNegotiateRecheckMs s
  else
    startScan io (s.showCycle .wifiScanning)

/-! ## The driver's events -/

/-- A `DISCONNECTED` up to the check of the mark, in one critical section. -/
def takeDisconnect (s : Bridge) : Bridge :=
  s.withWifi
    { s.wifi with wifiIgnoreDisconnect := false, wifiConnected := false }

/-- A `DISCONNECTED` in the middle of a cycle or of a wait; `none` once the
candidates are used up. -/
def nextAttempt (io : WifiIo) (s : Bridge) : Option Bridge :=
  if 0 < s.wifi.candCount then
    if s.wifiBtNegotiating then
      some
        (wifiScheduleRetry io wifiNegotiateRecheckMs
          (s.withWifi { s.wifi with candCount := 0 }))
    else if s.wifi.candAttempts + 1 < candMaxAttempts then
      some
        ((s.withWifi
          { s.wifi with candAttempts := s.wifi.candAttempts + 1 }).withDriver
            s.driver.connect)
    else if s.wifi.candIndex + 1 < s.wifi.candCount then
      some
        (wifiTryCandidate io
          (s.withWifi
            { s.wifi with
              candAttempts := 0
              candIndex := s.wifi.candIndex + 1 }))
    else
      none
  else
    none

/-- The statics when the last candidate has failed. -/
def cycleExhausted (s : Bridge) : Bridge :=
  if 0 < s.wifi.candCount then
    s.withWifi
      { s.wifi with
        candAttempts := 0
        candIndex := s.wifi.candIndex + 1
        candCount := 0 }
  else
    s

/-- What a `DISCONNECTED` that is not ignored does, in the app state it
reads. -/
def afterLoss (io : WifiIo) (st : AppState) (s : Bridge) : Bridge :=
  match st with
  | .wifiConnecting | .bridgeNoWifi | .waitBt | .wifiFailed =>
    (nextAttempt io s).getD (wifiCycleFailed io (cycleExhausted s))
  | .bridge =>
    if s.wifiListCount = 0 then s.setAppState .noWifi
    else
      wifiScheduleRetry io wifiRetryBaseMs
        ((s.setAppState .bridgeNoWifi).withWifi
          { s.wifi with
            wifiRetries := 0
            wifiRetryDelayMs := wifiRetryBaseMs
            candCount := 0 })
  | .noWifi | .wifiScanning => s

/-- `wifi_event_handler` on `WIFI_EVENT_STA_DISCONNECTED`. -/
def handleDisconnected (io : WifiIo) (s : Bridge) : Bridge :=
  let ignore := s.wifi.wifiIgnoreDisconnect
  let s := takeDisconnect s
  let s := s.withWifi { s.wifi with wifiIp := none }
  if ignore then s else afterLoss io s.appState s

/-- A `GOT_IP` up to the choice of the app state. -/
def takeGotIp (io : WifiIo) (s : Bridge) : Bridge :=
  s.withWifi
    { s.wifi with
      wifiIp := some io.ip
      wifiRssi := io.apRssi.getD s.wifi.wifiRssi
      wifiConnected := true
      wifiRetries := 0
      wifiRetryDelayMs := wifiRetryBaseMs
      candCount := 0 }

/-- `wifi_event_handler` on `IP_EVENT_STA_GOT_IP`. -/
def handleGotIp (io : WifiIo) (s : Bridge) : Bridge :=
  let s := takeGotIp io s
  if s.pppUp then s.setAppState .bridge
  else if s.appState ≠ .waitBt then s.setAppState .waitBt
  else s

/-! ## Tasks -/

/-- `gw_safe_task_create`: a task that cannot be created restarts the
bridge. -/
def gwSafeTaskCreate (io : WifiIo) (s : Bridge) : Bridge :=
  if io.taskCreated then s else { s with restarted := true }

/-- `wifi_retry_task`, when it wakes. -/
def wifiRetryTask (io : WifiIo) (s : Bridge) : Bridge :=
  let s := s.withWifi { s.wifi with wifiRetryRunning := false }
  if 0 < s.wifiListCount ∧ s.wifi.wifiConnected = false then
    wifiConnectBegin io s
  else
    s

/-- `gw_wifi_kick_deferred`. -/
def gwWifiKickDeferred (io : WifiIo) (s : Bridge) : Bridge :=
  if s.wifiKickRunning then s
  else gwSafeTaskCreate io { s with wifiKickRunning := true }

/-- `wifi_kick_task`, when it wakes. -/
def wifiKickTask (io : WifiIo) (s : Bridge) : Bridge :=
  let s : Bridge := { s with wifiKickRunning := false }
  if s.pppUp = true ∧ s.wifi.wifiConnected = false ∧ 0 < s.wifiListCount then
    wifiConnectBegin io s
  else
    s

/-- The recovery task is created, one at a time. -/
def startRecovery (io : WifiIo) (s : Bridge) : Bridge :=
  if s.wifi.wifiRecoveryRunning then s
  else
    gwSafeTaskCreate io
      { s with
        wifi := { s.wifi with wifiRecoveryRunning := true }
        recoveryTask := .created }

/-- `wifi_watchdog_check`. -/
def wifiWatchdogCheck (io : WifiIo) (s : Bridge) : Bridge :=
  if s.appState = .bridgeNoWifi then
    if s.wifi.wifiStuckCount + 1 ≥ 10 then
      let s := startRecovery io s
      s.withWifi { s.wifi with wifiStuckCount := 0 }
    else
      s.withWifi { s.wifi with wifiStuckCount := s.wifi.wifiStuckCount + 1 }
  else
    s.withWifi { s.wifi with wifiStuckCount := 0 }

/-- `wifi_soft_reset` unregisters the handlers and disconnects. -/
def softResetUnregister (s : Bridge) : Bridge :=
  { s with
    wifi := { s.wifi with handlers := false }
    recoveryTask := .tearing }

/-- The new driver starts with the handlers registered; the one that is gone
owes nothing. -/
def driverRestarted (s : Bridge) : Bridge :=
  { s with
    wifi :=
      { s.wifi with scanInProgress := false, candCount := 0, handlers := true }
    driver := { s.driver with scanOwed := false, attemptOwed := false } }

/-- `wifi_soft_reset` from the new driver on, and the end of its task. -/
def softResetFinish (io : WifiIo) (s : Bridge) : Bridge :=
  let s := driverRestarted s
  let s := if 0 < s.wifiListCount then wifiConnectBegin io s else s
  { s with
    wifi := { s.wifi with wifiRecoveryRunning := false }
    recoveryTask := .absent }

/-! ## What a loss leads to -/

/-- What a loss in the middle of a cycle leads to while there are candidates. -/
inductive NextAttempt (io : WifiIo) (s : Bridge) : Bridge → Prop where
  | abandons :
      NextAttempt io s
        (wifiScheduleRetry io wifiNegotiateRecheckMs
          (s.withWifi { s.wifi with candCount := 0 }))
  | again (present : 0 < s.wifi.candCount) :
      NextAttempt io s
        ((s.withWifi
          { s.wifi with candAttempts := s.wifi.candAttempts + 1 }).withDriver
            s.driver.connect)
  | tries (present : 0 < s.wifi.candCount) :
      NextAttempt io s
        (wifiTryCandidate io
          (s.withWifi
            { s.wifi with
              candAttempts := 0
              candIndex := s.wifi.candIndex + 1 }))

theorem nextAttempt_cases {io : WifiIo} {s s' : Bridge}
    (next : nextAttempt io s = some s') : NextAttempt io s s' := by
  unfold nextAttempt at next
  split at next
  · next present =>
    split at next
    · cases next
      exact NextAttempt.abandons
    · split at next
      · cases next
        exact NextAttempt.again present
      · split at next
        · cases next
          exact NextAttempt.tries present
        · cases next
  · cases next

/-- What a loss leads to in the app state that is read. -/
inductive AfterLoss (io : WifiIo) (s : Bridge) : AppState → Bridge → Prop where
  | attempts {st : AppState} {s' : Bridge} (next : NextAttempt io s s') :
      AfterLoss io s st s'
  | fails {st : AppState} :
      AfterLoss io s st (wifiCycleFailed io (cycleExhausted s))
  | empty (nothing : s.wifiListCount = 0) :
      AfterLoss io s .bridge (s.setAppState .noWifi)
  | reconnects (saved : s.wifiListCount ≠ 0) :
      AfterLoss io s .bridge
        (wifiScheduleRetry io wifiRetryBaseMs
          ((s.setAppState .bridgeNoWifi).withWifi
            { s.wifi with
              wifiRetries := 0
              wifiRetryDelayMs := wifiRetryBaseMs
              candCount := 0 }))
  | passes {st : AppState} (passedOver : st = .noWifi ∨ st = .wifiScanning) :
      AfterLoss io s st s

theorem afterLoss_cases (io : WifiIo) (st : AppState) (s : Bridge) :
    AfterLoss io s st (afterLoss io st s) := by
  have cycle :
      AfterLoss io s st
        ((nextAttempt io s).getD (wifiCycleFailed io (cycleExhausted s))) := by
    cases next : nextAttempt io s with
    | some after => exact AfterLoss.attempts (nextAttempt_cases next)
    | none => exact AfterLoss.fails
  cases st with
  | waitBt => exact cycle
  | wifiConnecting => exact cycle
  | wifiFailed => exact cycle
  | bridgeNoWifi => exact cycle
  | noWifi => exact AfterLoss.passes (Or.inl rfl)
  | wifiScanning => exact AfterLoss.passes (Or.inr rfl)
  | bridge =>
      rw [afterLoss]
      split
      · next nothing => exact AfterLoss.empty nothing
      · next saved => exact AfterLoss.reconnects saved

/-! ## What they change -/

section Changes

variable (io : WifiIo) (s : Bridge)

theorem wifiScheduleRetry_form (delayMs : Nat) :
    ∃ running arg,
      wifiScheduleRetry io delayMs s =
        { s with
          wifi := { s.wifi with wifiRetryRunning := running }
          retryArg := arg } := by
  unfold wifiScheduleRetry
  split
  · exact ⟨_, _, rfl⟩
  · split
    · exact ⟨_, _, rfl⟩
    · exact ⟨_, _, rfl⟩

theorem wifiCycleFailed_form :
    ∃ st retries delay running arg,
      wifiCycleFailed io s =
        { s with
          appState := st
          wifi :=
            { s.wifi with
              wifiRetries := retries
              wifiRetryDelayMs := delay
              wifiRetryRunning := running }
          retryArg := arg } := by
  obtain ⟨running, arg, form⟩ :=
    wifiScheduleRetry_form io (chargeCycle s) s.wifi.wifiRetryDelayMs
  unfold wifiCycleFailed
  dsimp only
  rw [form]
  split
  · exact ⟨_, _, _, _, _, rfl⟩
  · split
    · exact ⟨_, _, _, _, _, rfl⟩
    · exact ⟨_, _, _, _, _, rfl⟩

/-- What the cycle leaves alone: the list, the link, the handlers, and what
belongs to other modules. -/
structure CycleFrame (s s' : Bridge) : Prop where
  wifiList : s'.wifi.wifiList = s.wifi.wifiList
  wifiConnected : s'.wifi.wifiConnected = s.wifi.wifiConnected
  wifiIgnoreDisconnect :
    s'.wifi.wifiIgnoreDisconnect = s.wifi.wifiIgnoreDisconnect
  handlers : s'.wifi.handlers = s.wifi.handlers
  wifiRecoveryRunning :
    s'.wifi.wifiRecoveryRunning = s.wifi.wifiRecoveryRunning
  btConnected : s'.btConnected = s.btConnected
  pppUp : s'.pppUp = s.pppUp
  recoveryTask : s'.recoveryTask = s.recoveryTask
  clearedSinceUp : s'.clearedSinceUp = s.clearedSinceUp
  restarted : s'.restarted = s.restarted

theorem CycleFrame.refl (s : Bridge) : CycleFrame s s :=
  ⟨rfl, rfl, rfl, rfl, rfl, rfl, rfl, rfl, rfl, rfl⟩

theorem CycleFrame.after {s middle s' : Bridge}
    (second : CycleFrame middle s') (first : CycleFrame s middle) :
    CycleFrame s s' :=
  ⟨second.wifiList.trans first.wifiList,
    second.wifiConnected.trans first.wifiConnected,
    second.wifiIgnoreDisconnect.trans first.wifiIgnoreDisconnect,
    second.handlers.trans first.handlers,
    second.wifiRecoveryRunning.trans first.wifiRecoveryRunning,
    second.btConnected.trans first.btConnected,
    second.pppUp.trans first.pppUp,
    second.recoveryTask.trans first.recoveryTask,
    second.clearedSinceUp.trans first.clearedSinceUp,
    second.restarted.trans first.restarted⟩

theorem wifiScheduleRetry_frame (delayMs : Nat) :
    CycleFrame s (wifiScheduleRetry io delayMs s) := by
  obtain ⟨running, arg, form⟩ := wifiScheduleRetry_form io s delayMs
  rw [form]
  exact ⟨rfl, rfl, rfl, rfl, rfl, rfl, rfl, rfl, rfl, rfl⟩

theorem wifiCycleFailed_frame : CycleFrame s (wifiCycleFailed io s) := by
  obtain ⟨st, retries, delay, running, arg, form⟩ := wifiCycleFailed_form io s
  rw [form]
  exact ⟨rfl, rfl, rfl, rfl, rfl, rfl, rfl, rfl, rfl, rfl⟩

theorem wifiTryCandidate_frame : CycleFrame s (wifiTryCandidate io s) := by
  unfold wifiTryCandidate
  split
  · exact
      (wifiScheduleRetry_frame io _ _).after
        ⟨rfl, rfl, rfl, rfl, rfl, rfl, rfl, rfl, rfl, rfl⟩
  · exact ⟨rfl, rfl, rfl, rfl, rfl, rfl, rfl, rfl, rfl, rfl⟩

theorem handleScanDone_frame : CycleFrame s (handleScanDone io s) := by
  unfold handleScanDone
  split
  · dsimp only
    split
    · exact
        (wifiCycleFailed_frame io _).after
          ⟨rfl, rfl, rfl, rfl, rfl, rfl, rfl, rfl, rfl, rfl⟩
    · exact
        (wifiTryCandidate_frame io _).after
          ⟨rfl, rfl, rfl, rfl, rfl, rfl, rfl, rfl, rfl, rfl⟩
  · exact CycleFrame.refl s

theorem startScan_frame : CycleFrame s (startScan io s) := by
  unfold startScan
  split
  · exact ⟨rfl, rfl, rfl, rfl, rfl, rfl, rfl, rfl, rfl, rfl⟩
  · exact
      (wifiCycleFailed_frame io _).after
        ⟨rfl, rfl, rfl, rfl, rfl, rfl, rfl, rfl, rfl, rfl⟩

theorem wifiConnectBegin_frame : CycleFrame s (wifiConnectBegin io s) := by
  unfold wifiConnectBegin
  split
  · exact ⟨rfl, rfl, rfl, rfl, rfl, rfl, rfl, rfl, rfl, rfl⟩
  · split
    · exact CycleFrame.refl s
    · split
      · exact wifiScheduleRetry_frame io s _
      · exact
          (startScan_frame io _).after
            ⟨rfl, rfl, rfl, rfl, rfl, rfl, rfl, rfl, rfl, rfl⟩

theorem NextAttempt.frame {s' : Bridge} (next : NextAttempt io s s') :
    CycleFrame s s' := by
  cases next with
  | abandons =>
      exact
        (wifiScheduleRetry_frame io _ _).after
          ⟨rfl, rfl, rfl, rfl, rfl, rfl, rfl, rfl, rfl, rfl⟩
  | again present => exact ⟨rfl, rfl, rfl, rfl, rfl, rfl, rfl, rfl, rfl, rfl⟩
  | tries present =>
      exact
        (wifiTryCandidate_frame io _).after
          ⟨rfl, rfl, rfl, rfl, rfl, rfl, rfl, rfl, rfl, rfl⟩

theorem cycleExhausted_frame : CycleFrame s (cycleExhausted s) := by
  unfold cycleExhausted
  split
  · exact ⟨rfl, rfl, rfl, rfl, rfl, rfl, rfl, rfl, rfl, rfl⟩
  · exact CycleFrame.refl s

theorem AfterLoss.frame {st : AppState} {s' : Bridge}
    (after : AfterLoss io s st s') : CycleFrame s s' := by
  cases after with
  | attempts next => exact next.frame io s
  | fails =>
      exact (wifiCycleFailed_frame io _).after (cycleExhausted_frame s)
  | empty nothing => exact ⟨rfl, rfl, rfl, rfl, rfl, rfl, rfl, rfl, rfl, rfl⟩
  | reconnects saved =>
      exact
        (wifiScheduleRetry_frame io _ _).after
          ⟨rfl, rfl, rfl, rfl, rfl, rfl, rfl, rfl, rfl, rfl⟩
  | passes passedOver => exact CycleFrame.refl s

theorem afterLoss_frame (st : AppState) : CycleFrame s (afterLoss io st s) :=
  (afterLoss_cases io st s).frame io s

theorem wifiConnectBegin_of_busy (saved : 0 < s.wifiListCount)
    (busy : s.Busy) : wifiConnectBegin io s = s := by
  unfold wifiConnectBegin
  rw [if_neg (Nat.ne_of_gt saved), if_pos busy]

end Changes

end VeteraBridge.Wifi

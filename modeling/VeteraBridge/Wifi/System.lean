import VeteraBridge.Lib.EventRun
import VeteraBridge.Wifi.Cycle

/-!
# The WiFi module at work

One event is one run of a handler, a web request or a task body; the recovery
task is split where it sleeps with the handlers unregistered.  The driver may
post any of its events at any time; without handlers they are lost.
-/

namespace VeteraBridge.Wifi

open EventRun
open Proxy (cstr)

inductive Event where
  /-- httpd: `handler_wifi_add` with a decoded form -/
  | webAdd (io : WifiIo) (ssid pass : List UInt8)
  /-- httpd: `handler_wifi_del` -/
  | webDel (io : WifiIo) (index : Int)
  /-- httpd: `handler_reset` -/
  | webReset (io : WifiIo)
  | rfcommOpened
  | rfcommClosed
  /-- the end of `ppp_session_stop` -/
  | sessionStopped
  | pppUp (io : WifiIo)
  | pppDown
  | retryWakes (io : WifiIo)
  | kickWakes (io : WifiIo)
  | heartbeat (io : WifiIo)
  | recoveryUnregisters
  | recoveryFinishes (io : WifiIo)
  | scanDone (io : WifiIo)
  | disconnected (io : WifiIo)
  | gotIp (io : WifiIo)
deriving DecidableEq, Repr

/-! ## Web requests -/

/-- `handler_wifi_add`. -/
def handlerWifiAdd (io : WifiIo) (ssid pass : List UInt8) (s : Bridge) :
    Bridge :=
  match wifiListAdd s.wifi.wifiList (some ssid) (some pass) with
  | none => s
  | some list =>
    let s : Bridge :=
      { s with
        wifi := { s.wifi with wifiList := list }
        nvs := nvsListSave io.nvs list s.nvs }
    if s.wifi.wifiConnected = false ∧ 0 < s.wifiListCount ∧ s.pppUp = true then
      gwWifiKickDeferred io s
    else
      s

/-- `handler_wifi_del`; the disconnect it may ask for is the driver's. -/
def handlerWifiDel (io : WifiIo) (index : Int) (s : Bridge) : Bridge :=
  if 0 ≤ index ∧ index < s.wifiListCount then
    let list := wifiListRemove s.wifi.wifiList index.toNat
    { s with
      wifi := { s.wifi with wifiList := list }
      nvs := nvsListSave io.nvs list s.nvs }
  else
    s

/-- `wifi_list_clear`, which is all of `handler_reset`. -/
def wifiListClear (io : WifiIo) (s : Bridge) : Bridge :=
  let s : Bridge :=
    { s with
      wifi :=
        { s.wifi with
          wifiList := wifiListCleared
          wifiCurSsid := []
          wifiIgnoreDisconnect := true }
      nvs := nvsListSave io.nvs wifiListCleared s.nvs
      clearedSinceUp := true }
  s.setAppState .noWifi

/-! ## The phone -/

/-- `gw_on_ppp_up`. -/
def gwOnPppUp (io : WifiIo) (s : Bridge) : Bridge :=
  if s.wifi.wifiConnected then s.setAppState .bridge
  else if s.wifiListCount = 0 then s.setAppState .noWifi
  else gwWifiKickDeferred io s

/-- `gw_on_ppp_down`. -/
def gwOnPppDown (s : Bridge) : Bridge :=
  if s.appState = .bridge ∨ s.appState = .bridgeNoWifi then
    s.setAppState .waitBt
  else
    s

/-- `gw_on_rfcomm_closed`, without the timer that shows the bridge again. -/
def gwOnRfcommClosed (s : Bridge) : Bridge :=
  { s with btConnected := false }.setAppState .waitBt

/-! ## Steps -/

/-- A driver event comes up for handling: what was owed is settled. -/
def Driver.attemptSettled (d : Driver) : Driver := { d with attemptOwed := false }

def Driver.scanSettled (d : Driver) : Driver := { d with scanOwed := false }

namespace Bridge

def scanDone (s : Bridge) (io : WifiIo) : Bridge :=
  let s := s.withDriver s.driver.scanSettled
  if s.wifi.handlers then handleScanDone io s else s

def disconnected (s : Bridge) (io : WifiIo) : Bridge :=
  let s := s.withDriver s.driver.attemptSettled
  if s.wifi.handlers then handleDisconnected io s else s

def gotIp (s : Bridge) (io : WifiIo) : Bridge :=
  let s := s.withDriver s.driver.attemptSettled
  if s.wifi.handlers then { handleGotIp io s with clearedSinceUp := false }
  else s

/-- One event of a bridge that runs. -/
def handle (s : Bridge) : Event → Bridge
  | .webAdd io ssid pass => handlerWifiAdd io ssid pass s
  | .webDel io index => handlerWifiDel io index s
  | .webReset io => wifiListClear io s
  | .rfcommOpened => { s with btConnected := true }
  | .rfcommClosed => gwOnRfcommClosed s
  | .sessionStopped => { s with pppUp := false }
  | .pppUp io => gwOnPppUp io { s with pppUp := true }
  | .pppDown => gwOnPppDown { s with pppUp := false }
  | .retryWakes io =>
    if s.wifi.wifiRetryRunning then wifiRetryTask io s else s
  | .kickWakes io => if s.wifiKickRunning then wifiKickTask io s else s
  | .heartbeat io => wifiWatchdogCheck io s
  | .recoveryUnregisters =>
    if s.recoveryTask = .created then softResetUnregister s else s
  | .recoveryFinishes io =>
    if s.recoveryTask = .tearing then softResetFinish io s else s
  | .scanDone io => s.scanDone io
  | .disconnected io => s.disconnected io
  | .gotIp io => s.gotIp io

/-- After `esp_restart` nothing happens. -/
def step (s : Bridge) (event : Event) : Bridge :=
  if s.restarted then s else s.handle event

/-- The statics at boot. -/
def zero (nvs : Option WifiList) : Bridge :=
  { appState := .waitBt
    btConnected := false
    pppUp := false
    wifiKickRunning := false
    wifi :=
      { wifiList := WifiList.zero
        wifiConnected := false
        wifiIgnoreDisconnect := false
        wifiRetries := 0
        wifiRetryDelayMs := wifiRetryBaseMs
        wifiRssi := -100
        wifiCurSsid := []
        wifiIp := none
        scanInProgress := false
        candidates := []
        candCount := 0
        candIndex := 0
        candAttempts := 0
        wifiRetryRunning := false
        wifiRecoveryRunning := false
        handlers := false
        wifiStuckCount := 0 }
    driver := ⟨none, [], false, false⟩
    nvs := nvs
    retryArg := 0
    recoveryTask := .absent
    clearedSinceUp := false
    restarted := false }

/-- `wifi_multi_init`. -/
def boot (io : WifiIo) (nvs : Option WifiList) : Bridge :=
  let s := Bridge.zero nvs
  let s : Bridge :=
    s.withWifi
      { s.wifi with
        handlers := true
        wifiList :=
          (nvsListLoad io.nvs nvs).getD { WifiList.zero with ver := 1 } }
  if 0 < s.wifiListCount then wifiConnectBegin io s else s.setAppState .noWifi

end Bridge

theorem boot_lost (io : WifiIo) (nvs : Option WifiList) :
    (Bridge.boot io nvs).wifi.wifiConnected = false := by
  unfold Bridge.boot
  dsimp only
  split
  · rw [(wifiConnectBegin_frame io _).wifiConnected]
    rfl
  · rfl

/-! ## What goes on beside the cycle -/

/-- The cycle, the link and the app state stay as they are. -/
structure Beside (s s' : Bridge) : Prop where
  candCount : s'.wifi.candCount = s.wifi.candCount
  scanInProgress : s'.wifi.scanInProgress = s.wifi.scanInProgress
  driver : s'.driver = s.driver
  appState : s'.appState = s.appState
  wifiRetries : s'.wifi.wifiRetries = s.wifi.wifiRetries
  wifiConnected : s'.wifi.wifiConnected = s.wifi.wifiConnected
  wifiIgnoreDisconnect :
    s'.wifi.wifiIgnoreDisconnect = s.wifi.wifiIgnoreDisconnect
  handlers : s'.wifi.handlers = s.wifi.handlers
  clearedSinceUp : s'.clearedSinceUp = s.clearedSinceUp

section Besides

variable (io : WifiIo) (s : Bridge)

theorem gwSafeTaskCreate_beside : Beside s (gwSafeTaskCreate io s) := by
  unfold gwSafeTaskCreate
  split
  · exact ⟨rfl, rfl, rfl, rfl, rfl, rfl, rfl, rfl, rfl⟩
  · exact ⟨rfl, rfl, rfl, rfl, rfl, rfl, rfl, rfl, rfl⟩

/-- What is beside a change beside the cycle is beside the cycle. -/
theorem Beside.after {s middle s' : Bridge} (second : Beside middle s')
    (first : Beside s middle) : Beside s s' :=
  ⟨second.candCount.trans first.candCount,
    second.scanInProgress.trans first.scanInProgress,
    second.driver.trans first.driver,
    second.appState.trans first.appState,
    second.wifiRetries.trans first.wifiRetries,
    second.wifiConnected.trans first.wifiConnected,
    second.wifiIgnoreDisconnect.trans first.wifiIgnoreDisconnect,
    second.handlers.trans first.handlers,
    second.clearedSinceUp.trans first.clearedSinceUp⟩

theorem gwWifiKickDeferred_beside : Beside s (gwWifiKickDeferred io s) := by
  unfold gwWifiKickDeferred
  split
  · exact ⟨rfl, rfl, rfl, rfl, rfl, rfl, rfl, rfl, rfl⟩
  · exact
      (gwSafeTaskCreate_beside io _).after
        ⟨rfl, rfl, rfl, rfl, rfl, rfl, rfl, rfl, rfl⟩

theorem gwWifiKickDeferred_pppUp :
    (gwWifiKickDeferred io s).pppUp = s.pppUp := by
  unfold gwWifiKickDeferred gwSafeTaskCreate
  split
  · rfl
  · split
    · rfl
    · rfl

theorem startRecovery_beside : Beside s (startRecovery io s) := by
  unfold startRecovery
  split
  · exact ⟨rfl, rfl, rfl, rfl, rfl, rfl, rfl, rfl, rfl⟩
  · exact
      (gwSafeTaskCreate_beside io _).after
        ⟨rfl, rfl, rfl, rfl, rfl, rfl, rfl, rfl, rfl⟩

theorem wifiWatchdogCheck_beside : Beside s (wifiWatchdogCheck io s) := by
  unfold wifiWatchdogCheck
  split
  · split
    · have started := startRecovery_beside io s
      exact
        ⟨started.candCount, started.scanInProgress, started.driver,
          started.appState, started.wifiRetries, started.wifiConnected,
          started.wifiIgnoreDisconnect, started.handlers,
          started.clearedSinceUp⟩
    · exact ⟨rfl, rfl, rfl, rfl, rfl, rfl, rfl, rfl, rfl⟩
  · exact ⟨rfl, rfl, rfl, rfl, rfl, rfl, rfl, rfl, rfl⟩

theorem handlerWifiAdd_beside (ssid pass : List UInt8) :
    Beside s (handlerWifiAdd io ssid pass s) := by
  unfold handlerWifiAdd
  split
  · exact ⟨rfl, rfl, rfl, rfl, rfl, rfl, rfl, rfl, rfl⟩
  · dsimp only
    split
    · exact
        (gwWifiKickDeferred_beside io _).after
          ⟨rfl, rfl, rfl, rfl, rfl, rfl, rfl, rfl, rfl⟩
    · exact ⟨rfl, rfl, rfl, rfl, rfl, rfl, rfl, rfl, rfl⟩

theorem handlerWifiDel_beside (index : Int) :
    Beside s (handlerWifiDel io index s) := by
  unfold handlerWifiDel
  split
  · exact ⟨rfl, rfl, rfl, rfl, rfl, rfl, rfl, rfl, rfl⟩
  · exact ⟨rfl, rfl, rfl, rfl, rfl, rfl, rfl, rfl, rfl⟩

end Besides

end VeteraBridge.Wifi

import VeteraBridge.Wifi.OwedEvents

/-!
# In the middle of a cycle

Between the steps of a connect cycle the phone comes and goes, web requests are
served and tasks wake up.  None of this touches what the cycle has got to, and
the app state stays one in which a `DISCONNECTED` counts.
-/

namespace VeteraBridge.Wifi

open EventRun

/-- What a cycle has got to, and what it depends on. -/
structure CycleView where
  scanInProgress : Bool
  candidates : List Candidate
  candCount : Nat
  candIndex : Nat
  candAttempts : Nat
  wifiRetries : Nat
  wifiRetryDelayMs : Nat
  wifiList : WifiList
  wifiConnected : Bool
  wifiIgnoreDisconnect : Bool
  handlers : Bool
  restarted : Bool
  config : Option StaConfig
  connects : List StaConfig

def Bridge.cycleView (s : Bridge) : CycleView :=
  { scanInProgress := s.wifi.scanInProgress
    candidates := s.wifi.candidates
    candCount := s.wifi.candCount
    candIndex := s.wifi.candIndex
    candAttempts := s.wifi.candAttempts
    wifiRetries := s.wifi.wifiRetries
    wifiRetryDelayMs := s.wifi.wifiRetryDelayMs
    wifiList := s.wifi.wifiList
    wifiConnected := s.wifi.wifiConnected
    wifiIgnoreDisconnect := s.wifi.wifiIgnoreDisconnect
    handlers := s.wifi.handlers
    restarted := s.restarted
    config := s.driver.config
    connects := s.driver.connects }

/-- The app states a cycle leaves behind, in which a `DISCONNECTED` counts. -/
def CountsLosses (st : AppState) : Prop :=
  st = .wifiConnecting ∨ st = .bridgeNoWifi ∨ st = .waitBt

/-- A cycle is under way, and its events will be heeded. -/
structure UnderWay (v : CycleView) : Prop where
  running : v.restarted = false
  handlers : v.handlers = true
  unmarked : v.wifiIgnoreDisconnect = false
  lost : v.wifiConnected = false
  saved : 0 < v.wifiList.count
  busy : v.scanInProgress = true ∨ 0 < v.candCount

/-- No attempt and no scan ends, no mark is set, the driver is not torn down,
and tasks can be created. -/
def Undisturbed (s : Bridge) : Event → Prop
  | .webAdd io _ _ | .pppUp io | .retryWakes io | .kickWakes io
  | .heartbeat io => io.taskCreated = true
  | .webDel _ _ | .rfcommOpened | .rfcommClosed | .sessionStopped
  | .pppDown => True
  | .scanDone _ => s.wifi.scanInProgress = false
  | .recoveryUnregisters => s.recoveryTask ≠ .created
  | .recoveryFinishes _ => s.recoveryTask ≠ .tearing
  | .webReset _ | .disconnected _ | .gotIp _ => False

/-- What may happen between the steps of a cycle: the saved list stays as it
is. -/
def Meanwhile (s : Bridge) (event : Event) : Prop :=
  (s.handle event).wifi.wifiList = s.wifi.wifiList ∧ Undisturbed s event

/-- The cycle is left alone. -/
structure Aside (s s' : Bridge) : Prop where
  view : s'.cycleView = s.cycleView
  appState : s'.appState = s.appState ∨ s'.appState = .waitBt

/-! ## Functions beside the cycle -/

section Functions

variable {s : Bridge} {io : WifiIo}

theorem Aside.refl (s : Bridge) : Aside s s := ⟨rfl, Or.inl rfl⟩

theorem Aside.counts {s' : Bridge} (aside : Aside s s')
    (counts : CountsLosses s.appState) : CountsLosses s'.appState := by
  rcases aside.appState with same | waits
  · rw [same]
    exact counts
  · exact Or.inr (Or.inr waits)

theorem wifiScheduleRetry_view (io : WifiIo) (delayMs : Nat) (s : Bridge) :
    (wifiScheduleRetry io delayMs s).cycleView = s.cycleView := by
  obtain ⟨running, arg, form⟩ := wifiScheduleRetry_form io s delayMs
  rw [form]
  rfl

/-- With a task that can be created nothing restarts. -/
theorem gwWifiKickDeferred_aside (created : io.taskCreated = true) :
    Aside s (gwWifiKickDeferred io s) := by
  rw [gwWifiKickDeferred]
  split
  · exact Aside.refl s
  · rw [gwSafeTaskCreate, if_pos created]
    exact ⟨rfl, Or.inl rfl⟩

theorem wifiWatchdogCheck_aside (created : io.taskCreated = true) :
    Aside s (wifiWatchdogCheck io s) := by
  have started : Aside s (startRecovery io s) := by
    rw [startRecovery]
    split
    · exact Aside.refl s
    · rw [gwSafeTaskCreate, if_pos created]
      exact ⟨rfl, Or.inl rfl⟩
  rw [wifiWatchdogCheck]
  split
  · split
    · exact ⟨started.view, started.appState⟩
    · exact ⟨rfl, Or.inl rfl⟩
  · exact ⟨rfl, Or.inl rfl⟩

/-- A change of the list that leaves it as it is. -/
theorem aside_of_list {s' : Bridge}
    (view : s'.cycleView = { s.cycleView with wifiList := s'.wifi.wifiList })
    (appState : s'.appState = s.appState)
    (same : s'.wifi.wifiList = s.wifi.wifiList) : Aside s s' := by
  refine ⟨?_, Or.inl appState⟩
  rw [view, same]
  rfl

theorem handlerWifiAdd_aside (created : io.taskCreated = true)
    {ssid pass : List UInt8}
    (same : (handlerWifiAdd io ssid pass s).wifi.wifiList = s.wifi.wifiList) :
    Aside s (handlerWifiAdd io ssid pass s) := by
  rw [handlerWifiAdd] at same ⊢
  split at same
  · exact Aside.refl s
  · next list added =>
    dsimp only at same ⊢
    split at same
    · next kicks =>
      rw [gwWifiKickDeferred] at same
      rw [if_pos kicks, gwWifiKickDeferred]
      split at same
      · next running =>
        rw [if_pos running]
        exact aside_of_list rfl rfl same
      · next notRunning =>
        rw [gwSafeTaskCreate, if_pos created] at same
        rw [if_neg notRunning, gwSafeTaskCreate, if_pos created]
        exact aside_of_list rfl rfl same
    · next noKick =>
      rw [if_neg noKick]
      exact aside_of_list rfl rfl same

theorem handlerWifiDel_aside {index : Int}
    (same : (handlerWifiDel io index s).wifi.wifiList = s.wifi.wifiList) :
    Aside s (handlerWifiDel io index s) := by
  rw [handlerWifiDel] at same ⊢
  split at same
  · next inside =>
    rw [if_pos inside]
    exact aside_of_list rfl rfl same
  · next outside =>
    rw [if_neg outside]
    exact Aside.refl s

theorem wifiRetryTask_aside (underWay : UnderWay s.cycleView) :
    Aside s (wifiRetryTask io s) := by
  have lost : s.wifi.wifiConnected = false := underWay.lost
  have saved : 0 < s.wifiListCount := underWay.saved
  rw [wifiRetryTask]
  dsimp only
  rw [if_pos ⟨saved, lost⟩, wifiConnectBegin_of_busy]
  · exact ⟨rfl, Or.inl rfl⟩
  · exact saved
  · exact Or.inr underWay.busy

theorem wifiKickTask_aside (underWay : UnderWay s.cycleView) :
    Aside s (wifiKickTask io s) := by
  rw [wifiKickTask]
  dsimp only
  split
  · rw [wifiConnectBegin_of_busy]
    · exact ⟨rfl, Or.inl rfl⟩
    · exact underWay.saved
    · exact Or.inr underWay.busy
  · exact ⟨rfl, Or.inl rfl⟩

theorem gwOnPppUp_aside (created : io.taskCreated = true)
    (underWay : UnderWay s.cycleView) : Aside s (gwOnPppUp io s) := by
  have lost : s.wifi.wifiConnected = false := underWay.lost
  have saved : s.wifiListCount ≠ 0 := Nat.ne_of_gt underWay.saved
  rw [gwOnPppUp, lost, if_neg Bool.false_ne_true, if_neg saved]
  exact gwWifiKickDeferred_aside created

theorem gwOnPppDown_aside : Aside s (gwOnPppDown s) := by
  rw [gwOnPppDown]
  split
  · exact ⟨rfl, Or.inr rfl⟩
  · exact Aside.refl s

theorem handleScanDone_unsolicited
    (notScanning : s.wifi.scanInProgress = false) : handleScanDone io s = s := by
  rw [handleScanDone, notScanning]
  exact if_neg Bool.false_ne_true

end Functions

/-! ## Steps beside the cycle -/

section Steps

variable {s : Bridge} {event : Event}

theorem UnderWay.handle_aside (underWay : UnderWay s.cycleView)
    (meanwhile : Meanwhile s event) : Aside s (s.handle event) := by
  obtain ⟨same, undisturbed⟩ := meanwhile
  cases event with
  | webAdd io ssid pass => exact handlerWifiAdd_aside undisturbed same
  | webDel io index => exact handlerWifiDel_aside same
  | webReset io => exact undisturbed.elim
  | rfcommOpened => exact ⟨rfl, Or.inl rfl⟩
  | rfcommClosed => exact ⟨rfl, Or.inr rfl⟩
  | sessionStopped => exact ⟨rfl, Or.inl rfl⟩
  | pppUp io =>
      have aside :=
        gwOnPppUp_aside (s := { s with pppUp := true }) undisturbed underWay
      exact ⟨aside.view, aside.appState⟩
  | pppDown =>
      have aside := gwOnPppDown_aside (s := { s with pppUp := false })
      exact ⟨aside.view, aside.appState⟩
  | retryWakes io =>
      rw [Bridge.handle]
      split
      · exact wifiRetryTask_aside underWay
      · exact Aside.refl s
  | kickWakes io =>
      rw [Bridge.handle]
      split
      · exact wifiKickTask_aside underWay
      · exact Aside.refl s
  | heartbeat io => exact wifiWatchdogCheck_aside undisturbed
  | recoveryUnregisters =>
      rw [Bridge.handle, if_neg undisturbed]
      exact Aside.refl s
  | recoveryFinishes io =>
      rw [Bridge.handle, if_neg undisturbed]
      exact Aside.refl s
  | scanDone io =>
      have nothing :
          handleScanDone io (s.withDriver s.driver.scanSettled) =
            s.withDriver s.driver.scanSettled :=
        handleScanDone_unsolicited undisturbed
      rw [Bridge.handle, Bridge.scanDone]
      split
      · rw [nothing]
        exact ⟨rfl, Or.inl rfl⟩
      · exact ⟨rfl, Or.inl rfl⟩
  | disconnected io => exact undisturbed.elim
  | gotIp io => exact undisturbed.elim

theorem UnderWay.step_eq (underWay : UnderWay s.cycleView) (event : Event) :
    s.step event = s.handle event := by
  have running : ¬ s.restarted = true := by
    rw [show s.restarted = false from underWay.running]
    exact Bool.false_ne_true
  rw [Bridge.step, if_neg running]

/-- What happens meanwhile leaves a cycle alone. -/
theorem UnderWay.aside (underWay : UnderWay s.cycleView)
    (meanwhile : Meanwhile s event) : Aside s (s.step event) := by
  rw [underWay.step_eq]
  exact underWay.handle_aside meanwhile

/-- A cycle is where it was, whatever happened meanwhile. -/
theorem UnderWay.run_view (underWay : UnderWay s.cycleView)
    {events : List Event} (along : Along Bridge.step Meanwhile s events) :
    (run Bridge.step s events).cycleView = s.cycleView := by
  apply run_invariant_along (fun later => later.cycleView = s.cycleView) _ rfl
    along
  intro later event same meanwhile
  have stillUnderWay : UnderWay later.cycleView := by
    rw [same]
    exact underWay
  exact (stillUnderWay.aside meanwhile).view.trans same

end Steps

/-! ## The start of a cycle -/

/-- The scan of a cycle has just been started. -/
def Started (s : Bridge) : Prop :=
  s.wifi.scanInProgress = true ∧
    ((∃ io nvs, s = Bridge.boot io nvs) ∨
      ∃ (before : Bridge) (event : Event), before.wifi.scanInProgress = false ∧
        s = before.step event)

/-- What `wifi_connect_begin` has seen to. -/
structure Idle (s : Bridge) : Prop where
  running : s.restarted = false
  lost : s.wifi.wifiConnected = false
  saved : 0 < s.wifiListCount
  noCandidates : s.wifi.candCount = 0

section Start

variable {s : Bridge} {io : WifiIo}

theorem startScan_scanning
    (scanning : (startScan io s).wifi.scanInProgress = true) :
    startScan io s =
      (s.withWifi { s.wifi with scanInProgress := true }).withDriver
        { s.driver with scanOwed := true } := by
  rw [startScan] at scanning ⊢
  split at scanning
  · next started => rw [if_pos started]
  · rw [(wifiCycleFailed_same io _).scanInProgress] at scanning
    cases scanning

/-- `wifi_connect_begin` starts a scan only in an idle bridge. -/
theorem wifiConnectBegin_idle (running : s.restarted = false)
    (notScanning : s.wifi.scanInProgress = false)
    (scanning : (wifiConnectBegin io s).wifi.scanInProgress = true) :
    Idle (wifiConnectBegin io s) := by
  rw [wifiConnectBegin] at scanning ⊢
  split at scanning
  · cases notScanning.symm.trans scanning
  · next saved =>
    rw [if_neg saved]
    split at scanning
    · cases notScanning.symm.trans scanning
    · next idle =>
      rw [if_neg idle]
      split at scanning
      · rw [(wifiScheduleRetry_same io _ _).scanInProgress] at scanning
        cases notScanning.symm.trans scanning
      · next notNegotiating =>
        obtain ⟨notConnected, others⟩ := not_or.mp idle
        obtain ⟨_, noCandidates⟩ := not_or.mp others
        have isSaved : 0 < s.wifiListCount := Nat.pos_of_ne_zero saved
        have nothing : s.wifi.candCount = 0 :=
          Nat.eq_zero_of_not_pos noCandidates
        rw [if_neg notNegotiating, startScan_scanning scanning]
        exact ⟨running, Bool.eq_false_iff.mpr notConnected, isSaved, nothing⟩

/-! ### The tasks that call it -/

theorem wifiRetryTask_idle (running : s.restarted = false)
    (notScanning : s.wifi.scanInProgress = false)
    (scanning : (wifiRetryTask io s).wifi.scanInProgress = true) :
    Idle (wifiRetryTask io s) := by
  rw [wifiRetryTask] at scanning ⊢
  split at scanning
  · next tries =>
    rw [if_pos tries]
    exact wifiConnectBegin_idle running notScanning scanning
  · cases notScanning.symm.trans scanning

theorem wifiKickTask_idle (running : s.restarted = false)
    (notScanning : s.wifi.scanInProgress = false)
    (scanning : (wifiKickTask io s).wifi.scanInProgress = true) :
    Idle (wifiKickTask io s) := by
  rw [wifiKickTask] at scanning ⊢
  split at scanning
  · next tries =>
    rw [if_pos tries]
    exact wifiConnectBegin_idle running notScanning scanning
  · cases notScanning.symm.trans scanning

theorem softResetFinish_idle (running : s.restarted = false)
    (scanning : (softResetFinish io s).wifi.scanInProgress = true) :
    Idle (softResetFinish io s) := by
  rw [softResetFinish] at scanning ⊢
  dsimp only at scanning ⊢
  split at scanning
  · next saved =>
    have idle :=
      wifiConnectBegin_idle (s := driverRestarted s) running rfl scanning
    rw [if_pos saved]
    exact ⟨idle.running, idle.lost, idle.saved, idle.noCandidates⟩
  · cases scanning

/-! ### Nothing else starts a scan -/

theorem wifiTryCandidate_scan (s : Bridge) :
    (wifiTryCandidate io s).wifi.scanInProgress = s.wifi.scanInProgress := by
  rw [wifiTryCandidate]
  split
  · exact (wifiScheduleRetry_same io _ _).scanInProgress
  · rfl

theorem NextAttempt.scan {s' : Bridge} (next : NextAttempt io s s') :
    s'.wifi.scanInProgress = s.wifi.scanInProgress := by
  cases next with
  | abandons => exact (wifiScheduleRetry_same io _ _).scanInProgress
  | again present => rfl
  | tries present => exact wifiTryCandidate_scan _

theorem AfterLoss.scan {st : AppState} {s' : Bridge}
    (after : AfterLoss io s st s') :
    s'.wifi.scanInProgress = s.wifi.scanInProgress := by
  cases after with
  | attempts next => exact next.scan
  | fails =>
      exact (wifiCycleFailed_same io _).scanInProgress.trans
        (cycleExhausted_scan s).1
  | empty nothing => rfl
  | reconnects saved => exact (wifiScheduleRetry_same io _ _).scanInProgress
  | passes passedOver => rfl

theorem disconnected_scan :
    (s.disconnected io).wifi.scanInProgress = s.wifi.scanInProgress := by
  rw [disconnected_eq]
  split
  · split
    · rfl
    · exact (afterLoss_cases io _ (lossTaken s)).scan
  · rfl

theorem gotIp_scan :
    (s.gotIp io).wifi.scanInProgress = s.wifi.scanInProgress := by
  rw [Bridge.gotIp, handleGotIp]
  split
  · dsimp only
    split
    · rfl
    · split
      · rfl
      · rfl
  · rfl

theorem scanDone_scan (notScanning : s.wifi.scanInProgress = false) :
    (s.scanDone io).wifi.scanInProgress = false := by
  have nothing :
      handleScanDone io (s.withDriver s.driver.scanSettled) =
        s.withDriver s.driver.scanSettled :=
    handleScanDone_unsolicited notScanning
  rw [Bridge.scanDone]
  split
  · rw [nothing]
    exact notScanning
  · exact notScanning

/-- A step that starts a scan. -/
theorem handle_idle {event : Event} (running : s.restarted = false)
    (notScanning : s.wifi.scanInProgress = false)
    (scanning : (s.handle event).wifi.scanInProgress = true) :
    Idle (s.handle event) := by
  -- what keeps the flag does not start a scan
  have keeps (same : (s.handle event).wifi.scanInProgress =
      s.wifi.scanInProgress) : Idle (s.handle event) := by
    rw [same, notScanning] at scanning
    cases scanning
  cases event with
  | webAdd io ssid pass =>
      exact keeps (handlerWifiAdd_beside io s ssid pass).scanInProgress
  | webDel io index =>
      exact keeps (handlerWifiDel_beside io s index).scanInProgress
  | webReset io => exact keeps rfl
  | rfcommOpened => exact keeps rfl
  | rfcommClosed => exact keeps rfl
  | sessionStopped => exact keeps rfl
  | pppUp io =>
      exact keeps (gwOnPppUp_same io { s with pppUp := true }).scanInProgress
  | pppDown =>
      exact keeps (gwOnPppDown_same { s with pppUp := false }).scanInProgress
  | heartbeat io => exact keeps (wifiWatchdogCheck_beside io s).scanInProgress
  | disconnected io => exact keeps disconnected_scan
  | gotIp io => exact keeps gotIp_scan
  | scanDone io =>
      exact keeps ((scanDone_scan notScanning).trans notScanning.symm)
  | recoveryUnregisters =>
      apply keeps
      rw [Bridge.handle]
      split
      · rfl
      · rfl
  | retryWakes io =>
      rw [Bridge.handle] at scanning ⊢
      split at scanning
      · next sleeps =>
        rw [if_pos sleeps]
        exact wifiRetryTask_idle running notScanning scanning
      · cases notScanning.symm.trans scanning
  | kickWakes io =>
      rw [Bridge.handle] at scanning ⊢
      split at scanning
      · next sleeps =>
        rw [if_pos sleeps]
        exact wifiKickTask_idle running notScanning scanning
      · cases notScanning.symm.trans scanning
  | recoveryFinishes io =>
      rw [Bridge.handle] at scanning ⊢
      split at scanning
      · next tearing =>
        rw [if_pos tearing]
        exact softResetFinish_idle running scanning
      · cases notScanning.symm.trans scanning

/-- Where a scan has just been started the bridge was idle. -/
theorem Started.idle (started : Started s) : Idle s := by
  obtain ⟨scanning, ⟨io, nvs, rfl⟩ | ⟨before, event, notScanning, rfl⟩⟩ :=
    started
  · rw [Bridge.boot] at scanning ⊢
    dsimp only at scanning ⊢
    split at scanning
    · next saved =>
      rw [if_pos saved]
      exact wifiConnectBegin_idle rfl rfl scanning
    · cases scanning
  · rw [Bridge.step] at scanning ⊢
    split at scanning
    · cases notScanning.symm.trans scanning
    · next running =>
      rw [if_neg running]
      exact handle_idle (Bool.eq_false_iff.mpr running) notScanning scanning

end Start

end VeteraBridge.Wifi

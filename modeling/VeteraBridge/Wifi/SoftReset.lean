import VeteraBridge.Wifi.LinkLoss

/-!
# The recovery of a stuck bridge

`wifi_soft_reset` takes the driver down with the handlers unregistered, brings
up a new one and starts a connect cycle.  It leaves `wifi_connected` as it finds
it: a link that comes back before the handlers are gone is torn down unseen, and
the flag that remains keeps the cycle from starting.
-/

namespace VeteraBridge.Wifi

open EventRun

/-- A scan or an attempt is under way, or a retry is scheduled. -/
def CycleOn (s : Bridge) : Prop :=
  s.wifi.scanInProgress = true ∨ 0 < s.wifi.candCount ∨
    s.wifi.wifiRetryRunning = true

/-- What the soft reset is to leave: the bridge goes on to connect if it knows a
network, and does not take itself for connected. -/
structure Resumed (s : Bridge) : Prop where
  cycle : 0 < s.wifiListCount → CycleOn s
  notStale : s.wifi.wifiConnected = false

/-- The new cycle starts: a retry is scheduled already, or one can be, or the
scan starts. -/
def CanResume (io : WifiIo) (s : Bridge) : Prop :=
  s.wifi.wifiRetryRunning = true ∨
    if s.wifiBtNegotiating then io.taskCreated = true
    else
      io.scanStarted = true ∨
        io.taskCreated = true ∧
          (s.appState = .bridgeNoWifi ∨
            s.wifi.wifiRetries + 1 < wifiMaxRetries)

/-! ## The end of the soft reset -/

section Finish

variable {s : Bridge} {io : WifiIo}

/-- Neither a scan nor an attempt is under way. -/
structure Quiet (s : Bridge) : Prop where
  noScan : s.wifi.scanInProgress = false
  noAttempt : s.wifi.candCount = 0

theorem Quiet.cycleOn_iff (quiet : Quiet s) :
    CycleOn s ↔ s.wifi.wifiRetryRunning = true := by
  unfold CycleOn
  rw [quiet.noScan, quiet.noAttempt]
  simp

theorem wifiScheduleRetry_cycleOn_iff (quiet : Quiet s) (delayMs : Nat) :
    CycleOn (wifiScheduleRetry io delayMs s) ↔ RetryAvailable io s := by
  have stillQuiet : Quiet (wifiScheduleRetry io delayMs s) := by
    obtain ⟨running, arg, form⟩ := wifiScheduleRetry_form io s delayMs
    rw [form]
    exact ⟨quiet.noScan, quiet.noAttempt⟩
  rw [stillQuiet.cycleOn_iff]
  constructor
  · intro running
    unfold wifiScheduleRetry at running
    by_cases already : s.wifi.wifiRetryRunning = true
    · exact Or.inr already
    · rw [if_neg already] at running
      by_cases created : io.taskCreated = true
      · exact Or.inl created
      · rw [if_neg created] at running
        exact absurd running already
  · intro available
    exact wifiScheduleRetry_running available delayMs

theorem wifiCycleFailed_cycleOn_iff (quiet : Quiet s) :
    CycleOn (wifiCycleFailed io s) ↔
      s.wifi.wifiRetryRunning = true ∨
        io.taskCreated = true ∧
          (s.appState = .bridgeNoWifi ∨
            s.wifi.wifiRetries + 1 < wifiMaxRetries) := by
  have chargedQuiet : Quiet (chargeCycle s) := ⟨quiet.noScan, quiet.noAttempt⟩
  have charged :
      (chargeCycle s).wifi.wifiRetries = s.wifi.wifiRetries + 1 := rfl
  have schedules (delayMs : Nat) :
      CycleOn (wifiScheduleRetry io delayMs (chargeCycle s)) ↔
        s.wifi.wifiRetryRunning = true ∨ io.taskCreated = true := by
    rw [wifiScheduleRetry_cycleOn_iff chargedQuiet, RetryAvailable, or_comm]
    exact Iff.rfl
  unfold wifiCycleFailed
  dsimp only
  by_cases visible : s.appState = .bridgeNoWifi
  · rw [if_pos visible, schedules]
    simp [visible]
  · rw [if_neg visible, charged]
    by_cases more : s.wifi.wifiRetries + 1 < wifiMaxRetries
    · rw [if_pos more, schedules]
      simp [more]
    · rw [if_neg more]
      have gaveUp : Quiet ((chargeCycle s).setAppState .wifiFailed) :=
        ⟨quiet.noScan, quiet.noAttempt⟩
      rw [gaveUp.cycleOn_iff]
      simp only [visible, more, or_self, and_false, or_false]
      exact Iff.rfl

theorem showCycle_bridgeNoWifi (s : Bridge) :
    (s.showCycle .wifiScanning).appState = .bridgeNoWifi ↔
      s.appState = .bridgeNoWifi := by
  simp only [Bridge.showCycle]
  split
  · next hidden => exact iff_of_false AppState.noConfusion hidden
  · exact Iff.rfl

/-- The bridge as its scan could not be started. -/
def scanRefused (s : Bridge) : Bridge :=
  let s := s.showCycle .wifiScanning
  s.withWifi { s.wifi with scanInProgress := false }

/-- A cycle that nothing is in the way of starts when it can. -/
theorem wifiConnectBegin_cycleOn_iff (quiet : Quiet s)
    (lost : s.wifi.wifiConnected = false) (saved : 0 < s.wifiListCount) :
    CycleOn (wifiConnectBegin io s) ↔ CanResume io s := by
  have notBusy : ¬ s.Busy := by
    rintro (connected | scanning | candidates)
    · exact absurd (lost.symm.trans connected) Bool.false_ne_true
    · exact absurd (quiet.noScan.symm.trans scanning) Bool.false_ne_true
    · rw [quiet.noAttempt] at candidates
      exact absurd candidates (lt_irrefl 0)
  unfold wifiConnectBegin CanResume
  rw [if_neg (Nat.ne_of_gt saved), if_neg notBusy]
  by_cases negotiating : s.wifiBtNegotiating = true
  · rw [if_pos negotiating, if_pos negotiating,
      wifiScheduleRetry_cycleOn_iff quiet, RetryAvailable, or_comm]
  · rw [if_neg negotiating, if_neg negotiating]
    unfold startScan
    by_cases started : io.scanStarted = true
    · rw [if_pos started]
      exact iff_of_true (Or.inl rfl) (Or.inr (Or.inl started))
    · have failed : Quiet (scanRefused s) := ⟨rfl, quiet.noAttempt⟩
      have fails : CycleOn (wifiCycleFailed io (scanRefused s)) ↔ _ :=
        wifiCycleFailed_cycleOn_iff failed
      rw [if_neg started]
      simp only [started, Bool.false_eq_true, false_or]
      rw [← showCycle_bridgeNoWifi s]
      exact fails

theorem softResetFinish_cycleOn_iff (lost : s.wifi.wifiConnected = false)
    (saved : 0 < s.wifiListCount) :
    CycleOn (softResetFinish io s) ↔ CanResume io s := by
  have quiet : Quiet (driverRestarted s) := ⟨rfl, rfl⟩
  have begins :
      CycleOn (wifiConnectBegin io (driverRestarted s)) ↔
        CanResume io (driverRestarted s) :=
    wifiConnectBegin_cycleOn_iff quiet lost saved
  unfold softResetFinish
  dsimp only
  split
  · exact begins
  · next empty => exact absurd saved empty

theorem softResetFinish_wifiListCount :
    (softResetFinish io s).wifiListCount = s.wifiListCount := by
  unfold softResetFinish
  dsimp only
  split
  · have sameList := (wifiConnectBegin_frame io (driverRestarted s)).wifiList
    exact congrArg WifiList.count sameList
  · rfl

theorem softResetFinish_resumed_iff :
    Resumed (softResetFinish io s) ↔
      s.wifi.wifiConnected = false ∧ (0 < s.wifiListCount → CanResume io s) := by
  have sameFlag := (softResetFinish_sameMark io s).wifiConnected
  constructor
  · intro resumed
    have lost := sameFlag.symm.trans resumed.notStale
    refine ⟨lost, fun saved => ?_⟩
    apply (softResetFinish_cycleOn_iff lost saved).mp
    apply resumed.cycle
    rw [softResetFinish_wifiListCount]
    exact saved
  · rintro ⟨lost, able⟩
    refine ⟨fun some => ?_, sameFlag.trans lost⟩
    rw [softResetFinish_wifiListCount] at some
    exact (softResetFinish_cycleOn_iff lost some).mpr (able some)

end Finish

/-! ## One recovery at a time -/

section Recovery

variable {s s' : Bridge}

/-- The recovery task and the handlers stay as they are. -/
structure SameRecovery (s s' : Bridge) : Prop where
  recoveryTask : s'.recoveryTask = s.recoveryTask
  wifiRecoveryRunning :
    s'.wifi.wifiRecoveryRunning = s.wifi.wifiRecoveryRunning
  handlers : s'.wifi.handlers = s.wifi.handlers

theorem CycleFrame.sameRecovery (frame : CycleFrame s s') :
    SameRecovery s s' :=
  ⟨frame.recoveryTask, frame.wifiRecoveryRunning, frame.handlers⟩

theorem gwWifiKickDeferred_sameRecovery (io : WifiIo) (s : Bridge) :
    SameRecovery s (gwWifiKickDeferred io s) := by
  unfold gwWifiKickDeferred gwSafeTaskCreate
  split
  · exact ⟨rfl, rfl, rfl⟩
  · split
    · exact ⟨rfl, rfl, rfl⟩
    · exact ⟨rfl, rfl, rfl⟩

theorem handlerWifiAdd_sameRecovery (io : WifiIo) (ssid pass : List UInt8)
    (s : Bridge) : SameRecovery s (handlerWifiAdd io ssid pass s) := by
  unfold handlerWifiAdd
  split
  · exact ⟨rfl, rfl, rfl⟩
  · dsimp only
    split
    · obtain ⟨task, running, handlers⟩ := gwWifiKickDeferred_sameRecovery io _
      exact ⟨task, running, handlers⟩
    · exact ⟨rfl, rfl, rfl⟩

theorem handlerWifiDel_sameRecovery (io : WifiIo) (index : Int) (s : Bridge) :
    SameRecovery s (handlerWifiDel io index s) := by
  unfold handlerWifiDel
  split
  · exact ⟨rfl, rfl, rfl⟩
  · exact ⟨rfl, rfl, rfl⟩

theorem gwOnPppUp_sameRecovery (io : WifiIo) (s : Bridge) :
    SameRecovery s (gwOnPppUp io s) := by
  unfold gwOnPppUp
  split
  · exact ⟨rfl, rfl, rfl⟩
  · split
    · exact ⟨rfl, rfl, rfl⟩
    · exact gwWifiKickDeferred_sameRecovery io s

theorem gwOnPppDown_sameRecovery (s : Bridge) :
    SameRecovery s (gwOnPppDown s) := by
  unfold gwOnPppDown
  split
  · exact ⟨rfl, rfl, rfl⟩
  · exact ⟨rfl, rfl, rfl⟩

theorem wifiRetryTask_sameRecovery (io : WifiIo) (s : Bridge) :
    SameRecovery s (wifiRetryTask io s) := by
  unfold wifiRetryTask
  dsimp only
  split
  · obtain ⟨task, running, handlers⟩ :=
      (wifiConnectBegin_frame io _).sameRecovery
    exact ⟨task, running, handlers⟩
  · exact ⟨rfl, rfl, rfl⟩

theorem wifiKickTask_sameRecovery (io : WifiIo) (s : Bridge) :
    SameRecovery s (wifiKickTask io s) := by
  unfold wifiKickTask
  dsimp only
  split
  · obtain ⟨task, running, handlers⟩ :=
      (wifiConnectBegin_frame io _).sameRecovery
    exact ⟨task, running, handlers⟩
  · exact ⟨rfl, rfl, rfl⟩

theorem disconnected_sameRecovery (io : WifiIo) (s : Bridge) :
    SameRecovery s (s.disconnected io) := by
  rw [disconnected_eq]
  split
  · split
    · exact ⟨rfl, rfl, rfl⟩
    · obtain ⟨task, running, handlers⟩ :=
        (afterLoss_frame io (lossTaken s) (lossTaken s).appState).sameRecovery
      exact ⟨task, running, handlers⟩
  · exact ⟨rfl, rfl, rfl⟩

theorem gotIp_sameRecovery (io : WifiIo) (s : Bridge) :
    SameRecovery s (s.gotIp io) := by
  unfold Bridge.gotIp handleGotIp
  dsimp only
  split
  · split
    · exact ⟨rfl, rfl, rfl⟩
    · split
      · exact ⟨rfl, rfl, rfl⟩
      · exact ⟨rfl, rfl, rfl⟩
  · exact ⟨rfl, rfl, rfl⟩

theorem scanDone_sameRecovery (io : WifiIo) (s : Bridge) :
    SameRecovery s (s.scanDone io) := by
  unfold Bridge.scanDone
  dsimp only
  split
  · obtain ⟨task, running, handlers⟩ :=
      (handleScanDone_frame io (s.withDriver s.driver.scanSettled)).sameRecovery
    exact ⟨task, running, handlers⟩
  · exact ⟨rfl, rfl, rfl⟩

/-- The recovery task is one that the watchdog has noted. -/
def RecoveryNoted (s : Bridge) : Prop :=
  s.recoveryTask ≠ .absent → s.wifi.wifiRecoveryRunning = true

theorem RecoveryNoted.congr (noted : RecoveryNoted s)
    (same : SameRecovery s s') : RecoveryNoted s' := by
  intro present
  rw [same.recoveryTask] at present
  rw [same.wifiRecoveryRunning]
  exact noted present

theorem startRecovery_sameRecovery (io : WifiIo)
    (running : s.wifi.wifiRecoveryRunning = true) :
    SameRecovery s (startRecovery io s) := by
  unfold startRecovery
  rw [if_pos running]
  exact ⟨rfl, rfl, rfl⟩

theorem RecoveryNoted.startRecovery (noted : RecoveryNoted s) (io : WifiIo) :
    RecoveryNoted (startRecovery io s) := by
  unfold Wifi.startRecovery gwSafeTaskCreate
  split
  · exact noted
  · split
    · exact fun _ => rfl
    · exact fun _ => rfl

/-- A recovery that runs keeps the watchdog from starting another. -/
theorem wifiWatchdogCheck_sameRecovery (io : WifiIo)
    (running : s.wifi.wifiRecoveryRunning = true) :
    SameRecovery s (wifiWatchdogCheck io s) := by
  unfold wifiWatchdogCheck
  split
  · split
    · obtain ⟨task, same, handlers⟩ := startRecovery_sameRecovery io running
      exact ⟨task, same, handlers⟩
    · exact ⟨rfl, rfl, rfl⟩
  · exact ⟨rfl, rfl, rfl⟩

theorem RecoveryNoted.watchdog (noted : RecoveryNoted s) (io : WifiIo) :
    RecoveryNoted (wifiWatchdogCheck io s) := by
  unfold wifiWatchdogCheck
  split
  · split
    · exact noted.startRecovery io
    · exact noted
  · exact noted

/-- Everything but the watchdog and the recovery task itself leaves the recovery
alone. -/
theorem handle_sameRecovery (s : Bridge) (event : Event)
    (notHeartbeat : ∀ io, event ≠ .heartbeat io)
    (notUnregisters : event ≠ .recoveryUnregisters)
    (notFinishes : ∀ io, event ≠ .recoveryFinishes io) :
    SameRecovery s (s.handle event) := by
  cases event with
  | webAdd io ssid pass => exact handlerWifiAdd_sameRecovery io ssid pass s
  | webDel io index => exact handlerWifiDel_sameRecovery io index s
  | webReset io => exact ⟨rfl, rfl, rfl⟩
  | rfcommOpened => exact ⟨rfl, rfl, rfl⟩
  | rfcommClosed => exact ⟨rfl, rfl, rfl⟩
  | sessionStopped => exact ⟨rfl, rfl, rfl⟩
  | pppUp io =>
      obtain ⟨task, running, handlers⟩ :=
        gwOnPppUp_sameRecovery io { s with pppUp := true }
      exact ⟨task, running, handlers⟩
  | pppDown =>
      obtain ⟨task, running, handlers⟩ :=
        gwOnPppDown_sameRecovery { s with pppUp := false }
      exact ⟨task, running, handlers⟩
  | retryWakes io =>
      simp only [Bridge.handle]
      split
      · exact wifiRetryTask_sameRecovery io s
      · exact ⟨rfl, rfl, rfl⟩
  | kickWakes io =>
      simp only [Bridge.handle]
      split
      · exact wifiKickTask_sameRecovery io s
      · exact ⟨rfl, rfl, rfl⟩
  | heartbeat io => exact absurd rfl (notHeartbeat io)
  | recoveryUnregisters => exact absurd rfl notUnregisters
  | recoveryFinishes io => exact absurd rfl (notFinishes io)
  | scanDone io => exact scanDone_sameRecovery io s
  | disconnected io => exact disconnected_sameRecovery io s
  | gotIp io => exact gotIp_sameRecovery io s

theorem RecoveryNoted.step (noted : RecoveryNoted s) (event : Event) :
    RecoveryNoted (s.step event) := by
  unfold Bridge.step
  split
  · exact noted
  · by_cases heartbeat : ∃ io, event = .heartbeat io
    · obtain ⟨io, rfl⟩ := heartbeat
      exact noted.watchdog io
    · by_cases finishes : ∃ io, event = .recoveryFinishes io
      · obtain ⟨io, rfl⟩ := finishes
        simp only [Bridge.handle]
        split
        · exact fun present => absurd rfl present
        · exact noted
      · by_cases unregisters : event = .recoveryUnregisters
        · subst unregisters
          simp only [Bridge.handle]
          split
          · next created =>
            intro _
            apply noted
            rw [created]
            exact RecoveryTask.noConfusion
          · exact noted
        · apply noted.congr
          apply handle_sameRecovery
          · exact not_exists.mp heartbeat
          · exact unregisters
          · exact not_exists.mp finishes

theorem run_recoveryNoted (io : WifiIo) (nvs : Option WifiList)
    (events : List Event) :
    RecoveryNoted (run Bridge.step (Bridge.boot io nvs) events) := by
  apply run_invariant RecoveryNoted fun _ event noted => noted.step event
  unfold Bridge.boot
  dsimp only
  split
  · obtain ⟨task, _, _⟩ := (wifiConnectBegin_frame io _).sameRecovery
    intro present
    rw [task] at present
    exact absurd rfl present
  · exact fun present => absurd rfl present

/-! ## While the handlers are unregistered -/

/-- The soft reset sleeps, with the handlers unregistered. -/
structure TornDown (s : Bridge) : Prop where
  recoveryTask : s.recoveryTask = .tearing
  wifiRecoveryRunning : s.wifi.wifiRecoveryRunning = true
  handlers : s.wifi.handlers = false

theorem TornDown.congr (torn : TornDown s) (same : SameRecovery s s') :
    TornDown s' :=
  ⟨same.recoveryTask.trans torn.recoveryTask,
    same.wifiRecoveryRunning.trans torn.wifiRecoveryRunning,
    same.handlers.trans torn.handlers⟩

theorem TornDown.unregistered (torn : TornDown s) :
    ¬ s.wifi.handlers = true := by
  rw [torn.handlers]
  exact Bool.false_ne_true

/-- Nothing but the soft reset ends the teardown, and nobody sees the link
go. -/
theorem TornDown.handle (torn : TornDown s) {event : Event}
    (notFinishes : ∀ io, event ≠ .recoveryFinishes io) :
    TornDown (s.handle event) ∧
      (s.handle event).wifi.wifiConnected = s.wifi.wifiConnected := by
  have notCreated : ¬ s.recoveryTask = .created := by
    rw [torn.recoveryTask]
    exact RecoveryTask.noConfusion
  constructor
  · by_cases heartbeat : ∃ io, event = .heartbeat io
    · obtain ⟨io, rfl⟩ := heartbeat
      apply torn.congr
      exact wifiWatchdogCheck_sameRecovery io torn.wifiRecoveryRunning
    · by_cases unregisters : event = .recoveryUnregisters
      · subst unregisters
        simp only [Bridge.handle, if_neg notCreated]
        exact torn
      · apply torn.congr
        apply handle_sameRecovery
        · exact not_exists.mp heartbeat
        · exact unregisters
        · exact notFinishes
  · cases event with
    | webAdd io ssid pass =>
        exact (handlerWifiAdd_beside io s ssid pass).wifiConnected
    | webDel io index => exact (handlerWifiDel_beside io s index).wifiConnected
    | webReset io => rfl
    | rfcommOpened => rfl
    | rfcommClosed => rfl
    | sessionStopped => rfl
    | pppUp io => exact (gwOnPppUp_sameMark io { s with pppUp := true }).1
    | pppDown => exact (gwOnPppDown_sameMark { s with pppUp := false }).1
    | retryWakes io =>
        simp only [Bridge.handle]
        split
        · exact (wifiRetryTask_sameMark io s).wifiConnected
        · rfl
    | kickWakes io =>
        simp only [Bridge.handle]
        split
        · exact (wifiKickTask_sameMark io s).wifiConnected
        · rfl
    | heartbeat io => exact (wifiWatchdogCheck_beside io s).wifiConnected
    | recoveryUnregisters =>
        simp only [Bridge.handle, if_neg notCreated]
    | recoveryFinishes io => exact absurd rfl (notFinishes io)
    | scanDone io =>
        simp only [Bridge.handle, Bridge.scanDone]
        rw [if_neg (by exact torn.unregistered)]
        rfl
    | disconnected io =>
        simp only [Bridge.handle, disconnected_eq]
        rw [if_neg torn.unregistered]
        rfl
    | gotIp io =>
        simp only [Bridge.handle, Bridge.gotIp]
        rw [if_neg (by exact torn.unregistered)]
        rfl

theorem TornDown.run (torn : TornDown s) {events : List Event}
    (sleeps : ∀ io, .recoveryFinishes io ∉ events) :
    TornDown (run Bridge.step s events) ∧
      (run Bridge.step s events).wifi.wifiConnected = s.wifi.wifiConnected := by
  induction events generalizing s with
  | nil =>
      exact ⟨torn, rfl⟩
  | cons event rest inductionHypothesis =>
      have notFinishes : ∀ io, event ≠ .recoveryFinishes io := by
        rintro io rfl
        exact sleeps io List.mem_cons_self
      have later : ∀ io, .recoveryFinishes io ∉ rest := by
        intro io member
        exact sleeps io (List.mem_cons_of_mem event member)
      rw [run_cons, Bridge.step]
      split
      · exact inductionHypothesis torn later
      · obtain ⟨still, sameFlag⟩ := torn.handle notFinishes
        obtain ⟨atEnd, sameLater⟩ := inductionHypothesis still later
        exact ⟨atEnd, sameLater.trans sameFlag⟩

end Recovery

/-! ## Every recovery -/

/-- A bridge that was restarted stays so. -/
theorem run_restarted {s : Bridge} (restarted : s.restarted = true)
    (events : List Event) : run Bridge.step s events = s := by
  induction events with
  | nil =>
      rfl
  | cons event rest inductionHypothesis =>
      rw [run_cons, Bridge.step, if_pos restarted]
      exact inductionHypothesis

/-- A recovery that runs to its end leaves the bridge connecting again exactly
when the link was not up as the handlers went, and the new cycle can start. -/
theorem softReset_resumes_iff (bootIo : WifiIo) (nvs : Option WifiList)
    {before during : List Event}
    (created :
      (run Bridge.step (Bridge.boot bootIo nvs) before).recoveryTask =
        .created)
    (sleeps : ∀ io, .recoveryFinishes io ∉ during)
    (running :
      (run Bridge.step (Bridge.boot bootIo nvs)
        (before ++ .recoveryUnregisters :: during)).restarted = false)
    (io : WifiIo) :
    Resumed
        (run Bridge.step (Bridge.boot bootIo nvs)
          (before ++ .recoveryUnregisters :: during ++
            [.recoveryFinishes io])) ↔
      (run Bridge.step (Bridge.boot bootIo nvs)
          before).wifi.wifiConnected = false ∧
        (0 <
            (run Bridge.step (Bridge.boot bootIo nvs)
              (before ++ .recoveryUnregisters :: during)).wifiListCount →
          CanResume io
            (run Bridge.step (Bridge.boot bootIo nvs)
              (before ++ .recoveryUnregisters :: during))) := by
  have noted := run_recoveryNoted bootIo nvs before
  rw [run_snoc]
  simp only [run_append, run_cons] at running ⊢
  generalize run Bridge.step (Bridge.boot bootIo nvs) before = s at *
  have alive : ¬ s.restarted = true := by
    intro restarted
    have stays : s.step .recoveryUnregisters = s := by
      rw [Bridge.step, if_pos restarted]
    rw [stays, run_restarted restarted] at running
    exact absurd (running.symm.trans restarted) Bool.false_ne_true
  have unregisters : s.step .recoveryUnregisters = softResetUnregister s := by
    rw [Bridge.step, if_neg alive]
    simp only [Bridge.handle, if_pos created]
  rw [unregisters] at running ⊢
  have torn : TornDown (softResetUnregister s) := by
    refine ⟨rfl, noted ?_, rfl⟩
    rw [created]
    exact RecoveryTask.noConfusion
  obtain ⟨atEnd, sameFlag⟩ := torn.run sleeps
  generalize run Bridge.step (softResetUnregister s) during = t at *
  have finishes : t.step (.recoveryFinishes io) = softResetFinish io t := by
    rw [Bridge.step, if_neg (Bool.eq_false_iff.mp running)]
    simp only [Bridge.handle, if_pos atEnd.recoveryTask]
  rw [finishes, softResetFinish_resumed_iff, sameFlag]
  exact Iff.rfl

/-! ### The link comes back in between -/

/-- The watchdog finds the bridge without its link for the tenth time, while the
saved network is being tried again. -/
def stuckBridge : List Event :=
  [.scanDone (goodIo [97]), .gotIp (goodIo [97]), .rfcommOpened,
    .pppUp (goodIo [97]), .disconnected (goodIo [97]),
    .retryWakes (goodIo [97])] ++
    List.replicate 9 (.heartbeat (goodIo [97])) ++
    [.scanDone (goodIo [97]), .heartbeat (goodIo [97])]

/-- A recovery that the link does not come back to goes on to connect. -/
theorem softReset_resumes_iff_stuck :
    Resumed
      (run Bridge.step (Bridge.boot (goodIo [97]) (some (oneSaved [97])))
        (stuckBridge ++ .recoveryUnregisters :: [] ++
          [.recoveryFinishes (goodIo [97])])) := by
  apply
    (softReset_resumes_iff (goodIo [97]) (some (oneSaved [97])) (by decide)
      (by simp) (by decide) (goodIo [97])).mpr
  exact ⟨by decide, fun _ => Or.inr (Or.inl rfl)⟩

/-- The link comes back before the handlers are unregistered. -/
def backInBetween : Bridge :=
  run Bridge.step (Bridge.boot (goodIo [97]) (some (oneSaved [97])))
    (stuckBridge ++
      [.gotIp (goodIo [97]), .recoveryUnregisters,
        .recoveryFinishes (goodIo [97])])

/-- The bridge takes itself for connected, and nothing goes on to connect. -/
theorem backInBetween_stale :
    backInBetween.wifi.wifiConnected = true ∧
      0 < backInBetween.wifiListCount ∧ ¬ CycleOn backInBetween := by
  refine ⟨by decide, by decide, ?_⟩
  rintro (scans | tries | waits)
  · exact absurd scans (by decide)
  · exact absurd tries (by decide)
  · exact absurd waits (by decide)

end VeteraBridge.Wifi

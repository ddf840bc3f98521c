import VeteraBridge.Wifi.System

/-!
# What a connect cycle waits for

A cycle that has candidates waits for the end of an attempt, and one that scans
for the end of the scan.  `wifi_connect_begin` leaves a cycle that is under way
to itself, so these events had better come.  They do, exactly as long as no
`DISCONNECTED` that ends an attempt is passed over.
-/

namespace VeteraBridge.Wifi

open EventRun

/-- What the cycle waits for is still owed. -/
structure Owed (s : Bridge) : Prop where
  attempt : 0 < s.wifi.candCount → s.driver.attemptOwed = true
  scan : s.wifi.scanInProgress = true → s.driver.scanOwed = true

/-- The app states in which a `DISCONNECTED` moves a cycle on. -/
def MovesOn (s : Bridge) : Prop :=
  match s.appState with
  | .wifiConnecting | .bridgeNoWifi | .waitBt | .wifiFailed => True
  | .bridge => s.wifiListCount ≠ 0
  | .noWifi | .wifiScanning => False

/-- A driver event that a cycle waits for is not passed over: its handler is
registered, and a `DISCONNECTED` is not ignored and finds a state in which it
counts. -/
def Heeded (s : Bridge) : Event → Prop
  | .disconnected _ =>
    0 < s.wifi.candCount →
      s.wifi.handlers = true ∧ s.wifi.wifiIgnoreDisconnect = false ∧ MovesOn s
  | .gotIp _ => 0 < s.wifi.candCount → s.wifi.handlers = true
  | .scanDone _ => s.wifi.scanInProgress = true → s.wifi.handlers = true
  | _ => True

/-! ## The functions -/

section Functions

variable {s s' : Bridge} (io : WifiIo)

/-- Nothing that `Owed` speaks of changes. -/
structure SameCycle (s s' : Bridge) : Prop where
  candCount : s'.wifi.candCount = s.wifi.candCount
  scanInProgress : s'.wifi.scanInProgress = s.wifi.scanInProgress
  driver : s'.driver = s.driver

theorem Owed.congr (owed : Owed s) (same : SameCycle s s') : Owed s' := by
  obtain ⟨candCount, scanInProgress, driver⟩ := same
  constructor
  · rw [candCount, driver]
    exact owed.attempt
  · rw [scanInProgress, driver]
    exact owed.scan

theorem Beside.sameCycle (beside : Beside s s') : SameCycle s s' :=
  ⟨beside.candCount, beside.scanInProgress, beside.driver⟩

theorem wifiScheduleRetry_same (delayMs : Nat) (s : Bridge) :
    SameCycle s (wifiScheduleRetry io delayMs s) := by
  obtain ⟨running, arg, form⟩ := wifiScheduleRetry_form io s delayMs
  rw [form]
  exact ⟨rfl, rfl, rfl⟩

theorem wifiCycleFailed_same (s : Bridge) :
    SameCycle s (wifiCycleFailed io s) := by
  obtain ⟨st, retries, delay, running, arg, form⟩ := wifiCycleFailed_form io s
  rw [form]
  exact ⟨rfl, rfl, rfl⟩

/-- A candidate is tried, or there is none any more. -/
theorem wifiTryCandidate_owed
    (scan : s.wifi.scanInProgress = true → s.driver.scanOwed = true) :
    Owed (wifiTryCandidate io s) := by
  unfold wifiTryCandidate
  split
  · apply Owed.congr _ (wifiScheduleRetry_same io _ _)
    exact ⟨fun some => absurd some (lt_irrefl 0), scan⟩
  · exact ⟨fun _ => rfl, scan⟩

theorem startScan_owed (idle : s.wifi.candCount = 0) :
    Owed (startScan io s) := by
  have noCandidates : ¬ 0 < s.wifi.candCount := by omega
  unfold startScan
  split
  · exact ⟨fun some => absurd some noCandidates, fun _ => rfl⟩
  · apply Owed.congr _ (wifiCycleFailed_same io _)
    exact ⟨fun some => absurd some noCandidates, Bool.noConfusion⟩

theorem wifiConnectBegin_owed (owed : Owed s) :
    Owed (wifiConnectBegin io s) := by
  unfold wifiConnectBegin
  split
  · exact ⟨owed.attempt, owed.scan⟩
  · split
    · exact owed
    · next idle =>
      split
      · exact owed.congr (wifiScheduleRetry_same io _ _)
      · apply startScan_owed
        change s.wifi.candCount = 0
        have noCandidates : ¬ 0 < s.wifi.candCount := by
          intro some
          exact idle (Or.inr (Or.inr some))
        omega

theorem handleScanDone_owed
    (attempt : 0 < s.wifi.candCount → s.driver.attemptOwed = true) :
    Owed (handleScanDone io s) := by
  unfold handleScanDone
  split
  · dsimp only
    split
    · next nothing =>
      apply Owed.congr _ (wifiCycleFailed_same io _)
      refine ⟨fun some => absurd some ?_, Bool.noConfusion⟩
      exact not_lt_of_ge (Nat.le_of_eq nothing)
    · exact wifiTryCandidate_owed io Bool.noConfusion
  · next notScanning =>
    exact ⟨attempt, fun scanning => absurd scanning notScanning⟩

/-- Whatever else a `DISCONNECTED` does, a cycle it moves on waits for the next
attempt. -/
theorem NextAttempt.owed
    (scan : s.wifi.scanInProgress = true → s.driver.scanOwed = true)
    (next : NextAttempt io s s') : Owed s' := by
  cases next with
  | abandons =>
      apply Owed.congr _ (wifiScheduleRetry_same io _ _)
      exact ⟨fun some => absurd some (lt_irrefl 0), scan⟩
  | again present => exact ⟨fun _ => rfl, scan⟩
  | tries present => exact wifiTryCandidate_owed io scan

theorem cycleExhausted_candCount (s : Bridge) :
    (cycleExhausted s).wifi.candCount = 0 := by
  unfold cycleExhausted
  split
  · rfl
  · omega

theorem cycleExhausted_scan (s : Bridge) :
    (cycleExhausted s).wifi.scanInProgress = s.wifi.scanInProgress ∧
      (cycleExhausted s).driver = s.driver := by
  unfold cycleExhausted
  split
  · exact ⟨rfl, rfl⟩
  · exact ⟨rfl, rfl⟩

theorem AfterLoss.owed
    (scan : s.wifi.scanInProgress = true → s.driver.scanOwed = true)
    (counts : 0 < s.wifi.candCount → MovesOn s)
    (after : AfterLoss io s s.appState s') : Owed s' := by
  generalize state : s.appState = st at after
  rw [MovesOn, state] at counts
  cases after with
  | attempts next => exact next.owed io scan
  | fails =>
      apply Owed.congr _ (wifiCycleFailed_same io _)
      have exhausted := cycleExhausted_candCount s
      obtain ⟨sameScan, sameDriver⟩ := cycleExhausted_scan s
      refine ⟨fun some => by omega, ?_⟩
      rw [sameScan, sameDriver]
      exact scan
  | empty nothing => exact ⟨fun some => absurd nothing (counts some), scan⟩
  | reconnects saved =>
      apply Owed.congr _ (wifiScheduleRetry_same io _ _)
      exact ⟨fun some => absurd some (lt_irrefl 0), scan⟩
  | passes passedOver =>
      rcases passedOver with rfl | rfl
      · exact ⟨fun some => (counts some).elim, scan⟩
      · exact ⟨fun some => (counts some).elim, scan⟩

theorem afterLoss_owed
    (scan : s.wifi.scanInProgress = true → s.driver.scanOwed = true)
    (counts : 0 < s.wifi.candCount → MovesOn s) :
    Owed (afterLoss io s.appState s) :=
  (afterLoss_cases io s.appState s).owed io scan counts

/-- A `DISCONNECTED` in a state in which it does not count changes nothing. -/
theorem afterLoss_of_not_movesOn (passedOver : ¬ MovesOn s) :
    (afterLoss io s.appState s).wifi.candCount = s.wifi.candCount ∧
      (afterLoss io s.appState s).driver = s.driver := by
  unfold MovesOn at passedOver
  cases state : s.appState with
  | waitBt => simp [state] at passedOver
  | wifiConnecting => simp [state] at passedOver
  | wifiFailed => simp [state] at passedOver
  | bridgeNoWifi => simp [state] at passedOver
  | noWifi => exact ⟨rfl, rfl⟩
  | wifiScanning => exact ⟨rfl, rfl⟩
  | bridge =>
      rw [state] at passedOver
      simp only [afterLoss, if_pos (not_not.mp passedOver)]
      exact ⟨rfl, rfl⟩

end Functions

/-! ## One event -/

section Events

variable {s : Bridge}

/-- The statics a `DISCONNECTED` leaves for the rest of its handler. -/
def lossTaken (s : Bridge) : Bridge :=
  let s := takeDisconnect (s.withDriver s.driver.attemptSettled)
  s.withWifi { s.wifi with wifiIp := none }

theorem disconnected_eq (io : WifiIo) :
    s.disconnected io =
      if s.wifi.handlers then
        if s.wifi.wifiIgnoreDisconnect then lossTaken s
        else afterLoss io (lossTaken s).appState (lossTaken s)
      else
        s.withDriver s.driver.attemptSettled :=
  rfl

theorem disconnected_owed_iff (owed : Owed s) (io : WifiIo) :
    Owed (s.disconnected io) ↔ Heeded s (.disconnected io) := by
  simp only [Heeded, disconnected_eq]
  by_cases handlers : s.wifi.handlers = true
  · rw [if_pos handlers]
    by_cases ignore : s.wifi.wifiIgnoreDisconnect = true
    · rw [if_pos ignore]
      constructor
      · intro after some
        exact absurd (after.attempt some) Bool.false_ne_true
      · intro heeded
        refine ⟨fun some => ?_, owed.scan⟩
        exact absurd ((heeded some).2.1.symm.trans ignore) Bool.false_ne_true
    · rw [if_neg ignore]
      constructor
      · intro after some
        refine ⟨handlers, Bool.eq_false_iff.mpr ignore, ?_⟩
        by_contra passedOver
        obtain ⟨sameCount, sameDriver⟩ :=
          afterLoss_of_not_movesOn io (s := lossTaken s) passedOver
        have stillOwed := after.attempt (by rw [sameCount]; exact some)
        rw [sameDriver] at stillOwed
        exact Bool.false_ne_true stillOwed
      · intro heeded
        exact
          afterLoss_owed (s := lossTaken s) io owed.scan fun some =>
            (heeded some).2.2
  · rw [if_neg handlers]
    constructor
    · intro after some
      exact absurd (after.attempt some) Bool.false_ne_true
    · intro heeded
      exact ⟨fun some => absurd (heeded some).1 handlers, owed.scan⟩

theorem gotIp_owed_iff (owed : Owed s) (io : WifiIo) :
    Owed (s.gotIp io) ↔ Heeded s (.gotIp io) := by
  simp only [Heeded, Bridge.gotIp]
  by_cases handlers : s.wifi.handlers = true
  · have registered :
        (s.withDriver s.driver.attemptSettled).wifi.handlers = true := handlers
    rw [if_pos registered]
    constructor
    · exact fun _ _ => handlers
    · intro _
      unfold handleGotIp
      dsimp only
      split
      · exact ⟨fun some => absurd some (lt_irrefl 0), owed.scan⟩
      · split
        · exact ⟨fun some => absurd some (lt_irrefl 0), owed.scan⟩
        · exact ⟨fun some => absurd some (lt_irrefl 0), owed.scan⟩
  · have unregistered :
        ¬ (s.withDriver s.driver.attemptSettled).wifi.handlers = true := handlers
    rw [if_neg unregistered]
    constructor
    · intro after some
      exact absurd (after.attempt some) Bool.false_ne_true
    · intro heeded
      exact ⟨fun some => absurd (heeded some) handlers, owed.scan⟩

theorem scanDone_owed_iff (owed : Owed s) (io : WifiIo) :
    Owed (s.scanDone io) ↔ Heeded s (.scanDone io) := by
  simp only [Heeded, Bridge.scanDone]
  by_cases handlers : s.wifi.handlers = true
  · have registered :
        (s.withDriver s.driver.scanSettled).wifi.handlers = true := handlers
    rw [if_pos registered]
    constructor
    · exact fun _ _ => handlers
    · intro _
      exact
        handleScanDone_owed (s := s.withDriver s.driver.scanSettled) io
          owed.attempt
  · have unregistered :
        ¬ (s.withDriver s.driver.scanSettled).wifi.handlers = true := handlers
    rw [if_neg unregistered]
    constructor
    · intro after scanning
      exact absurd (after.scan scanning) Bool.false_ne_true
    · intro heeded
      exact ⟨owed.attempt, fun scanning => absurd (heeded scanning) handlers⟩

theorem wifiRetryTask_owed (io : WifiIo) (owed : Owed s) :
    Owed (wifiRetryTask io s) := by
  unfold wifiRetryTask
  dsimp only
  split
  · exact wifiConnectBegin_owed io ⟨owed.attempt, owed.scan⟩
  · exact ⟨owed.attempt, owed.scan⟩

theorem wifiKickTask_owed (io : WifiIo) (owed : Owed s) :
    Owed (wifiKickTask io s) := by
  unfold wifiKickTask
  dsimp only
  split
  · exact wifiConnectBegin_owed io ⟨owed.attempt, owed.scan⟩
  · exact ⟨owed.attempt, owed.scan⟩

theorem gwOnPppUp_same (io : WifiIo) (s : Bridge) :
    SameCycle s (gwOnPppUp io s) := by
  unfold gwOnPppUp
  split
  · exact ⟨rfl, rfl, rfl⟩
  · split
    · exact ⟨rfl, rfl, rfl⟩
    · exact (gwWifiKickDeferred_beside io s).sameCycle

theorem gwOnPppDown_same (s : Bridge) : SameCycle s (gwOnPppDown s) := by
  unfold gwOnPppDown
  split
  · exact ⟨rfl, rfl, rfl⟩
  · exact ⟨rfl, rfl, rfl⟩

theorem driverRestarted_owed (s : Bridge) : Owed (driverRestarted s) :=
  ⟨fun some => absurd some (lt_irrefl 0), Bool.noConfusion⟩

theorem softResetFinish_owed (io : WifiIo) (s : Bridge) :
    Owed (softResetFinish io s) := by
  unfold softResetFinish
  dsimp only
  split
  · have owed := wifiConnectBegin_owed io (driverRestarted_owed s)
    exact ⟨owed.attempt, owed.scan⟩
  · exact ⟨(driverRestarted_owed s).attempt, (driverRestarted_owed s).scan⟩

/-- What an event does to a cycle that waits for what is owed: it goes on
waiting, unless the event is passed over. -/
theorem handle_owed_iff (owed : Owed s) (event : Event) :
    Owed (s.handle event) ↔ Heeded s event := by
  cases event with
  | disconnected io => exact disconnected_owed_iff owed io
  | gotIp io => exact gotIp_owed_iff owed io
  | scanDone io => exact scanDone_owed_iff owed io
  | webAdd io ssid pass =>
      have beside := handlerWifiAdd_beside io s ssid pass
      exact iff_of_true (owed.congr beside.sameCycle) trivial
  | webDel io index =>
      have beside := handlerWifiDel_beside io s index
      exact iff_of_true (owed.congr beside.sameCycle) trivial
  | webReset io =>
      exact iff_of_true ⟨owed.attempt, owed.scan⟩ trivial
  | rfcommOpened =>
      exact iff_of_true ⟨owed.attempt, owed.scan⟩ trivial
  | rfcommClosed =>
      exact iff_of_true ⟨owed.attempt, owed.scan⟩ trivial
  | sessionStopped =>
      exact iff_of_true ⟨owed.attempt, owed.scan⟩ trivial
  | pppUp io =>
      have same := gwOnPppUp_same io { s with pppUp := true }
      exact
        iff_of_true
          (owed.congr ⟨same.candCount, same.scanInProgress, same.driver⟩)
          trivial
  | pppDown =>
      have same := gwOnPppDown_same { s with pppUp := false }
      exact
        iff_of_true
          (owed.congr ⟨same.candCount, same.scanInProgress, same.driver⟩)
          trivial
  | retryWakes io =>
      refine iff_of_true ?_ trivial
      simp only [Bridge.handle]
      split
      · exact wifiRetryTask_owed io owed
      · exact owed
  | kickWakes io =>
      refine iff_of_true ?_ trivial
      simp only [Bridge.handle]
      split
      · exact wifiKickTask_owed io owed
      · exact owed
  | heartbeat io =>
      have beside := wifiWatchdogCheck_beside io s
      exact iff_of_true (owed.congr beside.sameCycle) trivial
  | recoveryUnregisters =>
      refine iff_of_true ?_ trivial
      simp only [Bridge.handle]
      split
      · exact ⟨owed.attempt, owed.scan⟩
      · exact owed
  | recoveryFinishes io =>
      refine iff_of_true ?_ trivial
      simp only [Bridge.handle]
      split
      · exact softResetFinish_owed io s
      · exact owed

theorem step_owed_iff (event : Event) (owed : Owed s) :
    Owed (s.step event) ↔ s.restarted = true ∨ Heeded s event := by
  unfold Bridge.step
  split
  · next restarted => exact iff_of_true owed (Or.inl restarted)
  · next running =>
    rw [handle_owed_iff owed event]
    exact (or_iff_right running).symm

end Events

theorem boot_owed (io : WifiIo) (nvs : Option WifiList) :
    Owed (Bridge.boot io nvs) := by
  unfold Bridge.boot
  dsimp only
  split
  · apply wifiConnectBegin_owed
    exact ⟨fun some => absurd some (lt_irrefl 0), Bool.noConfusion⟩
  · exact ⟨fun some => absurd some (lt_irrefl 0), Bool.noConfusion⟩

/-! ## Every run -/

/-- A cycle waits only for what is owed, so what makes `wifi_connect_begin` do
nothing is a link, or an event that will come. -/
structure Awaits (s : Bridge) : Prop where
  attempt : 0 < s.wifi.candCount → s.driver.attemptOwed = true
  scan : s.wifi.scanInProgress = true → s.driver.scanOwed = true
  notStuck :
    s.Busy →
      s.wifi.wifiConnected = true ∨ s.driver.scanOwed = true ∨
        s.driver.attemptOwed = true

theorem awaits_iff_owed (s : Bridge) : Awaits s ↔ Owed s := by
  constructor
  · exact fun awaits => ⟨awaits.attempt, awaits.scan⟩
  · intro owed
    refine ⟨owed.attempt, owed.scan, ?_⟩
    rintro (connected | scanning | candidates)
    · exact Or.inl connected
    · exact Or.inr (Or.inl (owed.scan scanning))
    · exact Or.inr (Or.inr (owed.attempt candidates))

/-- In a run from boot, cycles wait only for what is owed in every state reached
exactly when no event that a cycle waits for is passed over. -/
theorem cycles_await_iff_heeded (io : WifiIo) (nvs : Option WifiList)
    (events : List Event) :
    (∀ earlier, earlier <+: events →
      Awaits (run Bridge.step (Bridge.boot io nvs) earlier)) ↔
      Along Bridge.step (fun s event => s.restarted = true ∨ Heeded s event)
        (Bridge.boot io nvs) events := by
  simp only [awaits_iff_owed]
  apply holds_throughout_iff Owed
  · intro s event owed
    exact step_owed_iff event owed
  · exact boot_owed io nvs

/-! ### The list is cleared in the middle of a cycle -/

/-- Nothing goes wrong, and a scan finds one network. -/
def goodIo (ssid : List UInt8) : WifiIo :=
  { taskCreated := true
    scanStarted := true
    scan := ⟨1, true, some [⟨ssid, -50⟩]⟩
    nvs := ⟨true, true⟩
    ip := 1
    apRssi := some (-50) }

/-- NVS with one network. -/
def oneSaved (ssid : List UInt8) : WifiList :=
  { ver := 1
    count := 1
    e := fun i => if i.val = 0 then ⟨ssid, [112]⟩ else WifiCred.zero }

/-- The saved network is found and tried; the list is cleared, the attempt ends,
and a new network is saved. -/
def clearedMidCycle : Bridge :=
  run Bridge.step (Bridge.boot (goodIo [97]) (some (oneSaved [97])))
    [.scanDone (goodIo [97]), .webReset (goodIo [97]),
      .disconnected (goodIo [97]), .webAdd (goodIo [97]) [98] [112]]

/-- Then nothing is owed, and yet `wifi_connect_begin` does nothing. -/
theorem clearedMidCycle_stuck :
    ¬ Awaits clearedMidCycle ∧ 0 < clearedMidCycle.wifiListCount ∧
      ∀ io, wifiConnectBegin io clearedMidCycle = clearedMidCycle := by
  refine ⟨?_, by decide, ?_⟩
  · intro awaits
    have owed := awaits.attempt (by decide)
    exact absurd owed (by decide)
  · intro io
    unfold wifiConnectBegin
    rw [if_neg (by decide), if_pos (by decide)]

end VeteraBridge.Wifi

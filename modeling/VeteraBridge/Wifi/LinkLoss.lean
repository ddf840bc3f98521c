import VeteraBridge.Wifi.OwedEvents

/-!
# The loss of an established link

When a link that got its address is lost, the handler of the `DISCONNECTED`
sees to it that the bridge connects again.  The mark that `wifi_list_clear`
leaves for the disconnect it asks for can spoil this: without a link there is
no disconnect, and the mark stays for the loss of a later one.
-/

namespace VeteraBridge.Wifi

open EventRun

/-- A link is up that got its address since the list was last cleared, and there
are saved networks. -/
structure LinkStands (s : Bridge) : Prop where
  running : s.restarted = false
  handlers : s.wifi.handlers = true
  connected : s.wifi.wifiConnected = true
  notCleared : s.clearedSinceUp = false
  saved : 0 < s.wifiListCount

/-- A retry task sleeps, or a cycle is under way that gets its event. -/
def FollowedUp (s : Bridge) : Prop :=
  s.wifi.wifiRetryRunning = true ∨
    (s.wifi.scanInProgress = true ∧ s.driver.scanOwed = true) ∨
    (0 < s.wifi.candCount ∧ s.driver.attemptOwed = true)

/-- What the handlers rely on while such a link is up. -/
structure Established (s : Bridge) : Prop where
  notIdle : s.appState ≠ .noWifi
  notScanning : s.appState ≠ .wifiScanning
  retries : s.wifi.wifiRetries ≤ 1
  /-- A scan that is still to end may fail once more. -/
  scanning : s.wifi.scanInProgress = true → s.wifi.wifiRetries = 0

/-- While a link is up, and the list not cleared since, it is established. -/
def LinkInvariant (s : Bridge) : Prop :=
  s.wifi.wifiConnected = true → s.clearedSinceUp = false → Established s

/-! ## Established links -/

section Functions

variable {s s' : Bridge} (io : WifiIo)

theorem wifiScheduleRetry_established (delayMs : Nat)
    (established : Established s) :
    Established (wifiScheduleRetry io delayMs s) := by
  obtain ⟨running, arg, form⟩ := wifiScheduleRetry_form io s delayMs
  rw [form]
  exact
    ⟨established.notIdle, established.notScanning, established.retries,
      established.scanning⟩

theorem wifiCycleFailed_established (established : Established s)
    (noScan : s.wifi.scanInProgress = false) (fresh : s.wifi.wifiRetries = 0) :
    Established (wifiCycleFailed io s) := by
  have charged : (chargeCycle s).wifi.wifiRetries = 1 := by
    change s.wifi.wifiRetries + 1 = 1
    omega
  have chargedEstablished : Established (chargeCycle s) := by
    refine
      ⟨established.notIdle, established.notScanning, charged.le, ?_⟩
    intro scanning
    exact absurd (noScan.symm.trans scanning) Bool.false_ne_true
  unfold wifiCycleFailed
  dsimp only
  split
  · exact wifiScheduleRetry_established io _ chargedEstablished
  · rw [charged, if_pos (by decide)]
    exact wifiScheduleRetry_established io _ chargedEstablished

theorem showCycle_connecting (established : Established s) :
    (s.showCycle .wifiConnecting).appState ≠ .noWifi ∧
      (s.showCycle .wifiConnecting).appState ≠ .wifiScanning := by
  simp only [Bridge.showCycle]
  split
  · exact ⟨AppState.noConfusion, AppState.noConfusion⟩
  · exact ⟨established.notIdle, established.notScanning⟩

theorem wifiTryCandidate_established (established : Established s) :
    Established (wifiTryCandidate io s) := by
  unfold wifiTryCandidate
  split
  · apply wifiScheduleRetry_established
    exact
      ⟨established.notIdle, established.notScanning, established.retries,
        established.scanning⟩
  · obtain ⟨notIdle, notScanning⟩ := showCycle_connecting established
    exact ⟨notIdle, notScanning, established.retries, established.scanning⟩

theorem handleScanDone_established (established : Established s) :
    Established (handleScanDone io s) := by
  unfold handleScanDone
  split
  · next scanning =>
    have fresh := established.scanning scanning
    dsimp only
    split
    · apply wifiCycleFailed_established
      · exact
          ⟨established.notIdle, established.notScanning, established.retries,
            Bool.noConfusion⟩
      · rfl
      · exact fresh
    · apply wifiTryCandidate_established
      exact
        ⟨established.notIdle, established.notScanning, established.retries,
          Bool.noConfusion⟩
  · exact established

theorem handleGotIp_established : Established (handleGotIp io s) := by
  unfold handleGotIp
  dsimp only
  split
  · exact
      ⟨AppState.noConfusion, AppState.noConfusion, Nat.zero_le 1, fun _ => rfl⟩
  · split
    · exact
        ⟨AppState.noConfusion, AppState.noConfusion, Nat.zero_le 1,
          fun _ => rfl⟩
    · next waits =>
      have isWait : (takeGotIp io s).appState = .waitBt := not_not.mp waits
      refine ⟨?_, ?_, Nat.zero_le 1, fun _ => rfl⟩
      · rw [isWait]
        exact AppState.noConfusion
      · rw [isWait]
        exact AppState.noConfusion

end Functions

/-! ## Following up a loss -/

section FollowUp

variable {s s' : Bridge} {io : WifiIo}

/-- There is a retry task, or one can be created. -/
def RetryAvailable (io : WifiIo) (s : Bridge) : Prop :=
  io.taskCreated = true ∨ s.wifi.wifiRetryRunning = true

theorem wifiScheduleRetry_running (available : RetryAvailable io s)
    (delayMs : Nat) :
    (wifiScheduleRetry io delayMs s).wifi.wifiRetryRunning = true := by
  unfold wifiScheduleRetry
  by_cases running : s.wifi.wifiRetryRunning = true
  · rw [if_pos running]
    exact running
  · rw [if_neg running, if_pos (available.resolve_right running)]

theorem wifiCycleFailed_running (available : RetryAvailable io s)
    (few : s.wifi.wifiRetries ≤ 1) :
    (wifiCycleFailed io s).wifi.wifiRetryRunning = true := by
  have charged : (chargeCycle s).wifi.wifiRetries < wifiMaxRetries := by
    change s.wifi.wifiRetries + 1 < 7
    omega
  unfold wifiCycleFailed
  dsimp only
  rw [if_pos charged, ite_self]
  apply wifiScheduleRetry_running
  exact available

theorem wifiTryCandidate_followedUp (available : RetryAvailable io s)
    (some : 0 < s.wifi.candCount) : FollowedUp (wifiTryCandidate io s) := by
  unfold wifiTryCandidate
  split
  · left
    apply wifiScheduleRetry_running
    exact available
  · exact Or.inr (Or.inr ⟨some, rfl⟩)

theorem NextAttempt.followedUp (available : RetryAvailable io s)
    (next : NextAttempt io s s') : FollowedUp s' := by
  cases next with
  | abandons =>
      left
      apply wifiScheduleRetry_running
      exact available
  | again present => exact Or.inr (Or.inr ⟨present, rfl⟩)
  | tries present =>
      apply wifiTryCandidate_followedUp
      · exact available
      · exact present

theorem cycleExhausted_retries (s : Bridge) :
    (cycleExhausted s).wifi.wifiRetries = s.wifi.wifiRetries ∧
      (cycleExhausted s).wifi.wifiRetryRunning = s.wifi.wifiRetryRunning := by
  unfold cycleExhausted
  split
  · exact ⟨rfl, rfl⟩
  · exact ⟨rfl, rfl⟩

/-- A loss that is not ignored is followed up. -/
theorem AfterLoss.followedUp (established : Established s)
    (available : RetryAvailable io s) (saved : 0 < s.wifiListCount)
    (after : AfterLoss io s s.appState s') : FollowedUp s' := by
  generalize state : s.appState = st at after
  cases after with
  | attempts next => exact next.followedUp available
  | fails =>
      obtain ⟨sameRetries, sameRunning⟩ := cycleExhausted_retries s
      left
      apply wifiCycleFailed_running
      · rw [RetryAvailable, sameRunning]
        exact available
      · rw [sameRetries]
        exact established.retries
  | empty nothing => omega
  | reconnects some =>
      left
      apply wifiScheduleRetry_running
      exact available
  | passes passedOver =>
      rcases passedOver with rfl | rfl
      · exact absurd state established.notIdle
      · exact absurd state established.notScanning

end FollowUp

/-! ## The invariant -/

section Invariant

variable {s s' : Bridge}

theorem LinkInvariant.congr (invariant : LinkInvariant s)
    (appState : s'.appState = s.appState)
    (wifiRetries : s'.wifi.wifiRetries = s.wifi.wifiRetries)
    (scanInProgress : s'.wifi.scanInProgress = s.wifi.scanInProgress)
    (wifiConnected : s'.wifi.wifiConnected = s.wifi.wifiConnected)
    (clearedSinceUp : s'.clearedSinceUp = s.clearedSinceUp) :
    LinkInvariant s' := by
  intro connected notCleared
  rw [wifiConnected] at connected
  rw [clearedSinceUp] at notCleared
  have established := invariant connected notCleared
  constructor
  · rw [appState]
    exact established.notIdle
  · rw [appState]
    exact established.notScanning
  · rw [wifiRetries]
    exact established.retries
  · rw [scanInProgress, wifiRetries]
    exact established.scanning

theorem LinkInvariant.beside (invariant : LinkInvariant s)
    (beside : Beside s s') : LinkInvariant s' :=
  invariant.congr beside.appState beside.wifiRetries beside.scanInProgress
    beside.wifiConnected beside.clearedSinceUp

/-- Another app state, as long as it is one of an established link. -/
theorem LinkInvariant.setAppState (invariant : LinkInvariant s)
    {st : AppState} (notIdle : st ≠ .noWifi) (notScanning : st ≠ .wifiScanning) :
    LinkInvariant (s.setAppState st) := by
  intro connected notCleared
  have established := invariant connected notCleared
  exact ⟨notIdle, notScanning, established.retries, established.scanning⟩

/-- Without a link there is nothing to keep. -/
theorem LinkInvariant.of_not_connected (lost : s.wifi.wifiConnected = false) :
    LinkInvariant s := by
  intro connected
  exact absurd (lost.symm.trans connected) Bool.false_ne_true

theorem LinkInvariant.wifiConnectBegin (io : WifiIo)
    (lost : s.wifi.wifiConnected = false) :
    LinkInvariant (wifiConnectBegin io s) := by
  apply LinkInvariant.of_not_connected
  rw [(wifiConnectBegin_frame io s).wifiConnected, lost]

/-- With a link up the soft reset starts nothing. -/
theorem LinkInvariant.softResetFinish (invariant : LinkInvariant s)
    (io : WifiIo) : LinkInvariant (softResetFinish io s) := by
  have restarted : LinkInvariant (driverRestarted s) := by
    intro connected notCleared
    have established := invariant connected notCleared
    exact
      ⟨established.notIdle, established.notScanning, established.retries,
        Bool.noConfusion⟩
  unfold Wifi.softResetFinish
  dsimp only
  split
  · next saved =>
    by_cases connected : s.wifi.wifiConnected = true
    · rw [wifiConnectBegin_of_busy io _ saved (Or.inl connected)]
      exact restarted.congr rfl rfl rfl rfl rfl
    · have begun :=
        LinkInvariant.wifiConnectBegin (s := driverRestarted s) io
          (Bool.eq_false_iff.mpr connected)
      exact begun.congr rfl rfl rfl rfl rfl
  · exact restarted.congr rfl rfl rfl rfl rfl

theorem LinkInvariant.handle (invariant : LinkInvariant s) (event : Event) :
    LinkInvariant (s.handle event) := by
  cases event with
  | webAdd io ssid pass =>
      exact invariant.beside (handlerWifiAdd_beside io s ssid pass)
  | webDel io index =>
      exact invariant.beside (handlerWifiDel_beside io s index)
  | webReset io =>
      intro _ notCleared
      exact Bool.noConfusion notCleared
  | rfcommOpened =>
      exact invariant.beside ⟨rfl, rfl, rfl, rfl, rfl, rfl, rfl, rfl, rfl⟩
  | rfcommClosed =>
      exact
        (invariant.setAppState AppState.noConfusion AppState.noConfusion).congr
          rfl rfl rfl rfl rfl
  | sessionStopped =>
      exact invariant.beside ⟨rfl, rfl, rfl, rfl, rfl, rfl, rfl, rfl, rfl⟩
  | pppUp io =>
      have up : LinkInvariant { s with pppUp := true } :=
        invariant.congr rfl rfl rfl rfl rfl
      simp only [Bridge.handle, gwOnPppUp]
      split
      · exact up.setAppState AppState.noConfusion AppState.noConfusion
      · next lost =>
        split
        · exact LinkInvariant.of_not_connected (Bool.eq_false_iff.mpr lost)
        · exact up.beside (gwWifiKickDeferred_beside io _)
  | pppDown =>
      have down : LinkInvariant { s with pppUp := false } :=
        invariant.congr rfl rfl rfl rfl rfl
      simp only [Bridge.handle, gwOnPppDown]
      split
      · exact down.setAppState AppState.noConfusion AppState.noConfusion
      · exact down
  | retryWakes io =>
      have woken :
          LinkInvariant
            (s.withWifi { s.wifi with wifiRetryRunning := false }) :=
        invariant.beside ⟨rfl, rfl, rfl, rfl, rfl, rfl, rfl, rfl, rfl⟩
      simp only [Bridge.handle, wifiRetryTask]
      split
      · split
        · next begins => exact LinkInvariant.wifiConnectBegin io begins.2
        · exact woken
      · exact invariant
  | kickWakes io =>
      simp only [Bridge.handle, wifiKickTask]
      split
      · split
        · next begins => exact LinkInvariant.wifiConnectBegin io begins.2.1
        · exact invariant.beside ⟨rfl, rfl, rfl, rfl, rfl, rfl, rfl, rfl, rfl⟩
      · exact invariant
  | heartbeat io =>
      exact invariant.beside (wifiWatchdogCheck_beside io s)
  | recoveryUnregisters =>
      simp only [Bridge.handle]
      split
      · exact invariant.congr rfl rfl rfl rfl rfl
      · exact invariant
  | recoveryFinishes io =>
      simp only [Bridge.handle]
      split
      · exact invariant.softResetFinish io
      · exact invariant
  | scanDone io =>
      simp only [Bridge.handle, Bridge.scanDone]
      split
      · intro connected notCleared
        have frame := handleScanDone_frame io (s.withDriver s.driver.scanSettled)
        rw [frame.wifiConnected] at connected
        rw [frame.clearedSinceUp] at notCleared
        have established := invariant connected notCleared
        apply handleScanDone_established
        exact
          ⟨established.notIdle, established.notScanning, established.retries,
            established.scanning⟩
      · exact invariant.congr rfl rfl rfl rfl rfl
  | disconnected io =>
      simp only [Bridge.handle, disconnected_eq]
      split
      · apply LinkInvariant.of_not_connected
        split
        · rfl
        · rw [(afterLoss_frame io (lossTaken s) _).wifiConnected]
          rfl
      · exact invariant.congr rfl rfl rfl rfl rfl
  | gotIp io =>
      simp only [Bridge.handle, Bridge.gotIp]
      split
      · intro _ _
        have established :=
          handleGotIp_established (s := s.withDriver s.driver.attemptSettled) io
        exact
          ⟨established.notIdle, established.notScanning, established.retries,
            established.scanning⟩
      · exact invariant.congr rfl rfl rfl rfl rfl

theorem LinkInvariant.step (invariant : LinkInvariant s) (event : Event) :
    LinkInvariant (s.step event) := by
  unfold Bridge.step
  split
  · exact invariant
  · exact invariant.handle event

end Invariant

theorem run_linkInvariant (io : WifiIo) (nvs : Option WifiList)
    (events : List Event) :
    LinkInvariant (run Bridge.step (Bridge.boot io nvs) events) :=
  run_invariant LinkInvariant (fun _ event invariant => invariant.step event)
    (LinkInvariant.of_not_connected (boot_lost io nvs)) events

/-! ## The mark -/

/-- The mark of a cleared list does not outlast the link it was cleared
under. -/
def Unmarked (s : Bridge) : Prop :=
  s.wifi.wifiConnected = true → s.clearedSinceUp = false →
    s.wifi.wifiIgnoreDisconnect = false

/-- What is asked of a step: a `GOT_IP` finds no mark, and for the loss of a
link there is a retry task or one can be created. -/
def Dependable (s : Bridge) : Event → Prop
  | .gotIp _ =>
    s.restarted = false → s.wifi.handlers = true →
      s.wifi.wifiIgnoreDisconnect = false
  | .disconnected io => LinkStands s → RetryAvailable io s
  | _ => True

section Mark

variable {s s' : Bridge}

/-- The three flags that say whether a loss will be ignored. -/
structure SameMark (s s' : Bridge) : Prop where
  wifiConnected : s'.wifi.wifiConnected = s.wifi.wifiConnected
  wifiIgnoreDisconnect :
    s'.wifi.wifiIgnoreDisconnect = s.wifi.wifiIgnoreDisconnect
  clearedSinceUp : s'.clearedSinceUp = s.clearedSinceUp

theorem Beside.sameMark (beside : Beside s s') : SameMark s s' :=
  ⟨beside.wifiConnected, beside.wifiIgnoreDisconnect, beside.clearedSinceUp⟩

theorem CycleFrame.sameMark (frame : CycleFrame s s') : SameMark s s' :=
  ⟨frame.wifiConnected, frame.wifiIgnoreDisconnect, frame.clearedSinceUp⟩

theorem Unmarked.congr (unmarked : Unmarked s) (same : SameMark s s') :
    Unmarked s' := by
  intro connected notCleared
  rw [same.wifiConnected] at connected
  rw [same.clearedSinceUp] at notCleared
  rw [same.wifiIgnoreDisconnect]
  exact unmarked connected notCleared

theorem gwOnPppUp_sameMark (io : WifiIo) (s : Bridge) :
    SameMark s (gwOnPppUp io s) := by
  unfold gwOnPppUp
  split
  · exact ⟨rfl, rfl, rfl⟩
  · split
    · exact ⟨rfl, rfl, rfl⟩
    · exact (gwWifiKickDeferred_beside io s).sameMark

theorem gwOnPppDown_sameMark (s : Bridge) : SameMark s (gwOnPppDown s) := by
  unfold gwOnPppDown
  split
  · exact ⟨rfl, rfl, rfl⟩
  · exact ⟨rfl, rfl, rfl⟩

theorem wifiConnectBegin_sameMark (io : WifiIo) (s : Bridge) :
    SameMark s (wifiConnectBegin io s) :=
  (wifiConnectBegin_frame io s).sameMark

theorem wifiRetryTask_sameMark (io : WifiIo) (s : Bridge) :
    SameMark s (wifiRetryTask io s) := by
  unfold wifiRetryTask
  dsimp only
  split
  · obtain ⟨connected, mark, cleared⟩ := wifiConnectBegin_sameMark io _
    exact ⟨connected, mark, cleared⟩
  · exact ⟨rfl, rfl, rfl⟩

theorem wifiKickTask_sameMark (io : WifiIo) (s : Bridge) :
    SameMark s (wifiKickTask io s) := by
  unfold wifiKickTask
  dsimp only
  split
  · obtain ⟨connected, mark, cleared⟩ := wifiConnectBegin_sameMark io _
    exact ⟨connected, mark, cleared⟩
  · exact ⟨rfl, rfl, rfl⟩

theorem softResetFinish_sameMark (io : WifiIo) (s : Bridge) :
    SameMark s (softResetFinish io s) := by
  unfold softResetFinish
  dsimp only
  split
  · obtain ⟨connected, mark, cleared⟩ :=
      wifiConnectBegin_sameMark io (driverRestarted s)
    exact ⟨connected, mark, cleared⟩
  · exact ⟨rfl, rfl, rfl⟩

/-- An address leaves the mark. -/
theorem handleGotIp_mark (io : WifiIo) (s : Bridge) :
    (handleGotIp io s).wifi.wifiIgnoreDisconnect =
      s.wifi.wifiIgnoreDisconnect := by
  unfold handleGotIp
  dsimp only
  split
  · rfl
  · split
    · rfl
    · rfl

theorem Unmarked.handle (unmarked : Unmarked s) (running : s.restarted = false)
    {event : Event} (dependable : Dependable s event) :
    Unmarked (s.handle event) := by
  cases event with
  | webAdd io ssid pass =>
      exact unmarked.congr (handlerWifiAdd_beside io s ssid pass).sameMark
  | webDel io index =>
      exact unmarked.congr (handlerWifiDel_beside io s index).sameMark
  | webReset io =>
      intro _ notCleared
      exact Bool.noConfusion notCleared
  | rfcommOpened =>
      exact unmarked
  | rfcommClosed =>
      exact unmarked
  | sessionStopped =>
      exact unmarked
  | pppUp io =>
      exact
        Unmarked.congr (s := { s with pppUp := true }) unmarked
          (gwOnPppUp_sameMark io _)
  | pppDown =>
      exact
        Unmarked.congr (s := { s with pppUp := false }) unmarked
          (gwOnPppDown_sameMark _)
  | retryWakes io =>
      simp only [Bridge.handle]
      split
      · exact unmarked.congr (wifiRetryTask_sameMark io s)
      · exact unmarked
  | kickWakes io =>
      simp only [Bridge.handle]
      split
      · exact unmarked.congr (wifiKickTask_sameMark io s)
      · exact unmarked
  | heartbeat io =>
      exact unmarked.congr (wifiWatchdogCheck_beside io s).sameMark
  | recoveryUnregisters =>
      simp only [Bridge.handle]
      split
      · exact unmarked
      · exact unmarked
  | recoveryFinishes io =>
      simp only [Bridge.handle]
      split
      · exact unmarked.congr (softResetFinish_sameMark io s)
      · exact unmarked
  | scanDone io =>
      simp only [Bridge.handle, Bridge.scanDone]
      split
      · exact
          Unmarked.congr (s := s.withDriver s.driver.scanSettled) unmarked
            (handleScanDone_frame io _).sameMark
      · exact unmarked
  | disconnected io =>
      simp only [Bridge.handle, disconnected_eq]
      split
      · split
        · exact fun _ _ => rfl
        · exact
            Unmarked.congr (s := lossTaken s) (fun _ _ => rfl)
              (afterLoss_frame io (lossTaken s) _).sameMark
      · exact unmarked
  | gotIp io =>
      simp only [Bridge.handle, Bridge.gotIp]
      split
      · next registered =>
        intro _ _
        exact
          (handleGotIp_mark io (s.withDriver s.driver.attemptSettled)).trans
            (dependable running registered)
      · exact unmarked

theorem Unmarked.step (unmarked : Unmarked s) {event : Event}
    (dependable : Dependable s event) : Unmarked (s.step event) := by
  unfold Bridge.step
  split
  · exact unmarked
  · next running =>
    exact unmarked.handle (Bool.eq_false_iff.mpr running) dependable

/-- An unmarked loss of a link that stands is followed up. -/
theorem LinkStands.followedUp (stands : LinkStands s)
    (invariant : LinkInvariant s)
    (unmarked : s.wifi.wifiIgnoreDisconnect = false) {io : WifiIo}
    (available : RetryAvailable io s) :
    FollowedUp (s.step (.disconnected io)) := by
  have established := invariant stands.connected stands.notCleared
  have running : ¬ s.restarted = true := by simp [stands.running]
  have heeded : ¬ s.wifi.wifiIgnoreDisconnect = true := by simp [unmarked]
  rw [Bridge.step, if_neg running]
  simp only [Bridge.handle, disconnected_eq]
  rw [if_pos stands.handlers, if_neg heeded]
  apply (afterLoss_cases io (lossTaken s).appState (lossTaken s)).followedUp
  · exact
      ⟨established.notIdle, established.notScanning, established.retries,
        established.scanning⟩
  · exact available
  · exact stands.saved

end Mark

/-- In a run whose `GOT_IP`s find no mark, and in which a retry task can be had
for every loss, the loss of a link that got its address is never ignored, and
the bridge goes on to connect again. -/
theorem losses_followed_up (io : WifiIo) (nvs : Option WifiList)
    {events : List Event}
    (dependable : Along Bridge.step Dependable (Bridge.boot io nvs) events)
    {earlier : List Event} {io' : WifiIo}
    (happens : earlier ++ [.disconnected io'] <+: events)
    (stands : LinkStands (run Bridge.step (Bridge.boot io nvs) earlier)) :
    (run Bridge.step (Bridge.boot io nvs)
        earlier).wifi.wifiIgnoreDisconnect = false ∧
      FollowedUp
        (run Bridge.step (Bridge.boot io nvs)
          (earlier ++ [.disconnected io'])) := by
  obtain ⟨later, rfl⟩ := happens
  rw [along_append, along_append] at dependable
  obtain ⟨⟨before, available, _⟩, _⟩ := dependable
  have initially : Unmarked (Bridge.boot io nvs) := by
    intro connected
    rw [boot_lost io nvs] at connected
    cases connected
  have unmarked :=
    run_invariant_along Unmarked
      (fun _ _ unmarked dependable => unmarked.step dependable) initially before
  have noMark := unmarked stands.connected stands.notCleared
  refine ⟨noMark, ?_⟩
  rw [run_snoc]
  exact
    stands.followedUp (run_linkInvariant io nvs earlier) noMark
      (available stands)

theorem losses_followed_up_saved :
    FollowedUp
      (run Bridge.step (Bridge.boot (goodIo [97]) (some (oneSaved [97])))
        ([.scanDone (goodIo [97]), .gotIp (goodIo [97])] ++
          [.disconnected (goodIo [97])])) := by
  refine
    (losses_followed_up (goodIo [97]) (some (oneSaved [97])) ?_
      (List.prefix_refl _) ⟨rfl, rfl, rfl, rfl, by decide⟩).2
  refine ⟨trivial, fun _ _ => rfl, ?_, trivial⟩
  exact fun _ => Or.inl rfl

/-! ### The list is cleared without a link -/

/-- `/reset` comes while there is no link; then a network is saved, the phone
dials in, and the network is found and joined. -/
def joinedAfterReset : Bridge :=
  run Bridge.step (Bridge.boot (goodIo [97]) none)
    [.webReset (goodIo [97]), .webAdd (goodIo [97]) [97] [112], .rfcommOpened,
      .pppUp (goodIo [97]), .kickWakes (goodIo [97]), .scanDone (goodIo [97]),
      .gotIp (goodIo [97])]

/-- The loss of that link is ignored, and nothing goes on to connect again. -/
theorem joinedAfterReset_lost :
    LinkStands joinedAfterReset ∧
      joinedAfterReset.wifi.wifiIgnoreDisconnect = true ∧
      ¬ FollowedUp (joinedAfterReset.step (.disconnected (goodIo [97]))) := by
  refine ⟨⟨rfl, rfl, rfl, rfl, by decide⟩, rfl, ?_⟩
  rintro (waits | ⟨scans, _⟩ | ⟨tries, _⟩)
  · exact absurd waits (by decide)
  · exact absurd scans (by decide)
  · exact absurd tries (by decide)

end VeteraBridge.Wifi

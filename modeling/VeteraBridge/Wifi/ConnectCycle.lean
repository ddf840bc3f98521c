import VeteraBridge.Lib.NestedLoop
import VeteraBridge.Wifi.LinkLoss
import VeteraBridge.Wifi.MidCycle
import VeteraBridge.Wifi.Selection

/-!
# The attempts of a cycle

A connect cycle is a loop over the candidates with a loop over their attempts in
it, turned inside out: the end of the scan makes the first attempt and each
`DISCONNECTED` the next one.  The statics that say where the loops stand are
determined by the number of attempts that were lost.
-/

namespace VeteraBridge.Wifi

open EventRun
open NestedLoop (tries)
open StableInsertion

/-- All attempts of a cycle in order, each candidate as often as it is tried. -/
def attemptsOf (found : List Candidate) : List StaConfig :=
  tries candMaxAttempts (found.map fun c => staConfig c.cred)

/-- So many attempts of a cycle were lost, and the next one is under way;
nothing was charged. -/
structure Trying (start : Bridge) (found : List Candidate) (lost : Nat)
    (s : Bridge) : Prop where
  candidates : s.wifi.candidates = found
  candCount : s.wifi.candCount = found.length
  candIndex : s.wifi.candIndex = lost / candMaxAttempts
  candAttempts : s.wifi.candAttempts = lost % candMaxAttempts
  connects :
    s.driver.connects =
      start.driver.connects ++ (attemptsOf found).take (lost + 1)
  wifiRetries : s.wifi.wifiRetries = start.wifi.wifiRetries
  wifiRetryDelayMs : s.wifi.wifiRetryDelayMs = start.wifi.wifiRetryDelayMs

/-- The cycle was given up after these attempts: nothing was charged, and a
retry waits. -/
structure Abandoned (start : Bridge) (made : List StaConfig) (s : Bridge) :
    Prop where
  candCount : s.wifi.candCount = 0
  connects : s.driver.connects = start.driver.connects ++ made
  wifiRetries : s.wifi.wifiRetries = start.wifi.wifiRetries
  wifiRetryDelayMs : s.wifi.wifiRetryDelayMs = start.wifi.wifiRetryDelayMs
  retryWaits : s.wifi.wifiRetryRunning = true

/-- The cycle has failed with these attempts, and one failure was charged. -/
structure Charged (start : Bridge) (made : List StaConfig) (s : Bridge) :
    Prop where
  candCount : s.wifi.candCount = 0
  connects : s.driver.connects = start.driver.connects ++ made
  wifiRetries : s.wifi.wifiRetries = start.wifi.wifiRetries + 1
  wifiRetryDelayMs :
    s.wifi.wifiRetryDelayMs =
      min (start.wifi.wifiRetryDelayMs * 2) wifiRetryMaxMs

def Event.isLoss : Event → Bool
  | .disconnected _ => true
  | _ => false

/-- How many attempts are lost. -/
def losses (events : List Event) : Nat := events.countP Event.isLoss

/-- A step in a cycle that goes on: when an attempt is lost the phone does not
negotiate. -/
def GoesOn (s : Bridge) (event : Event) : Prop :=
  Meanwhile s event ∨
    ∃ io : WifiIo, event = .disconnected io ∧ io.taskCreated = true ∧
      s.wifiBtNegotiating = false

theorem Meanwhile.not_loss {s : Bridge} {event : Event}
    (meanwhile : Meanwhile s event) : ¬ event.isLoss = true := by
  intro loss
  cases event with
  | disconnected io => exact meanwhile.2
  | _ => cases loss

/-! ## The functions of a cycle -/

section Functions

variable {s : Bridge} {io : WifiIo}

theorem wifiCycleFailed_view (io : WifiIo) (s : Bridge) :
    (wifiCycleFailed io s).cycleView =
      { s.cycleView with
        wifiRetries := s.wifi.wifiRetries + 1
        wifiRetryDelayMs :=
          min (s.wifi.wifiRetryDelayMs * 2) wifiRetryMaxMs } := by
  have charged :
      (chargeCycle s).cycleView =
        { s.cycleView with
          wifiRetries := s.wifi.wifiRetries + 1
          wifiRetryDelayMs :=
            min (s.wifi.wifiRetryDelayMs * 2) wifiRetryMaxMs } := by
    have delay :
        (if s.wifi.wifiRetryDelayMs * 2 > wifiRetryMaxMs then wifiRetryMaxMs
          else s.wifi.wifiRetryDelayMs * 2) =
          min (s.wifi.wifiRetryDelayMs * 2) wifiRetryMaxMs := by
      rw [min_def]
      split_ifs <;> omega
    rw [← delay]
    rfl
  rw [wifiCycleFailed]
  split
  · rw [wifiScheduleRetry_view, charged]
  · split
    · rw [wifiScheduleRetry_view, charged]
    · exact charged

/-- The next candidate is tried. -/
theorem wifiTryCandidate_view (io : WifiIo)
    (quiet : s.wifiBtNegotiating = false) {c : Candidate}
    (tried : s.wifi.candidates[s.wifi.candIndex]? = some c) :
    (wifiTryCandidate io s).cycleView =
      { s.cycleView with
        config := some (staConfig c.cred)
        connects := s.driver.connects ++ [staConfig c.cred] } := by
  have isTried :
      s.wifi.candidates.getD s.wifi.candIndex ⟨WifiCred.zero, 0⟩ = c := by
    rw [List.getD_eq_getElem?_getD, tried]
    rfl
  rw [wifiTryCandidate, quiet, if_neg Bool.false_ne_true, isTried]
  rfl

theorem wifiTryCandidate_counts (quiet : s.wifiBtNegotiating = false) :
    CountsLosses (wifiTryCandidate io s).appState := by
  have shown : CountsLosses (s.showCycle .wifiConnecting).appState := by
    rw [Bridge.showCycle]
    dsimp only
    split
    · exact Or.inl rfl
    · next visible => exact Or.inr (Or.inl (not_not.mp visible))
  rw [wifiTryCandidate, quiet, if_neg Bool.false_ne_true]
  exact shown

/-- While the phone negotiates no candidate is tried. -/
theorem wifiTryCandidate_abandons (created : io.taskCreated = true)
    (negotiating : s.wifiBtNegotiating = true) :
    Abandoned s [] (wifiTryCandidate io s) := by
  rw [wifiTryCandidate, if_pos negotiating]
  have view :=
    wifiScheduleRetry_view io wifiNegotiateRecheckMs
      (s.withWifi { s.wifi with candCount := 0 })
  refine ⟨congrArg CycleView.candCount view, ?_,
    congrArg CycleView.wifiRetries view,
    congrArg CycleView.wifiRetryDelayMs view, ?_⟩
  · rw [List.append_nil]
    exact congrArg CycleView.connects view
  · exact wifiScheduleRetry_running (Or.inl created) _

end Functions

/-! ## Where the loops stand -/

/-- What is determined by the number of attempts that were lost. -/
def CycleView.trying (start : CycleView) (found : List Candidate) (lost : Nat) :
    CycleView :=
  { start with
    scanInProgress := false
    candidates := found
    candCount := found.length
    candIndex := lost / candMaxAttempts
    candAttempts := lost % candMaxAttempts
    config := (attemptsOf found)[lost]?
    connects := start.connects ++ (attemptsOf found).take (lost + 1) }

/-- An attempt is under way. -/
structure CycleAt (start : Bridge) (found : List Candidate) (lost : Nat)
    (s : Bridge) : Prop where
  view : s.cycleView = start.cycleView.trying found lost
  counts : CountsLosses s.appState
  inside : lost < found.length * candMaxAttempts

section Loops

variable {start s : Bridge} {found : List Candidate} {lost : Nat}

theorem candMaxAttempts_pos : 0 < candMaxAttempts := Nat.succ_pos 1

theorem length_attemptsOf :
    (attemptsOf found).length = found.length * candMaxAttempts := by
  rw [attemptsOf, NestedLoop.length_tries, List.length_map]

/-- The candidate of an attempt. -/
theorem candidate_of_attempt (inside : lost < found.length * candMaxAttempts) :
    ∃ c, found[lost / candMaxAttempts]? = some c ∧
      (attemptsOf found)[lost]? = some (staConfig c.cred) ∧
      (attemptsOf found).take (lost + 1) =
        (attemptsOf found).take lost ++ [staConfig c.cred] := by
  have within : lost / candMaxAttempts < found.length :=
    (NestedLoop.counter_lt_iff candMaxAttempts_pos).mpr inside
  have isTried := List.getElem?_eq_getElem within
  have mapped :
      (found.map fun c => staConfig c.cred)[lost / candMaxAttempts]? =
        some (staConfig found[lost / candMaxAttempts].cred) := by
    rw [List.getElem?_map, isTried]
    rfl
  refine ⟨_, isTried, ?_, ?_⟩
  · rw [attemptsOf, NestedLoop.getElem?_tries candMaxAttempts_pos]
    exact mapped
  · exact NestedLoop.take_succ_tries candMaxAttempts_pos mapped

theorem CycleAt.trying (isAt : CycleAt start found lost s) :
    Trying start found lost s where
  candidates := congrArg CycleView.candidates isAt.view
  candCount := congrArg CycleView.candCount isAt.view
  candIndex := congrArg CycleView.candIndex isAt.view
  candAttempts := congrArg CycleView.candAttempts isAt.view
  connects := congrArg CycleView.connects isAt.view
  wifiRetries := congrArg CycleView.wifiRetries isAt.view
  wifiRetryDelayMs := congrArg CycleView.wifiRetryDelayMs isAt.view

/-- A cycle that has got somewhere is under way. -/
theorem CycleAt.underWay (isAt : CycleAt start found lost s)
    (underWay : UnderWay start.cycleView) : UnderWay s.cycleView := by
  have some : 0 < found.length := by
    have inside := isAt.inside
    exact Nat.pos_of_mul_pos_right (Nat.zero_lt_of_lt inside)
  rw [isAt.view]
  exact ⟨underWay.running, underWay.handlers, underWay.unmarked, underWay.lost,
    underWay.saved, Or.inr some⟩

theorem CycleAt.meanwhile (isAt : CycleAt start found lost s)
    (underWay : UnderWay start.cycleView) {event : Event}
    (meanwhile : Meanwhile s event) :
    CycleAt start found lost (s.step event) := by
  have aside := (isAt.underWay underWay).aside meanwhile
  exact ⟨aside.view.trans isAt.view, aside.counts isAt.counts, isAt.inside⟩

end Loops

/-! ## The end of the scan -/

section Scan

variable {start s : Bridge} {io : WifiIo} {found : List Candidate}

/-- The statics when the scan has ended, before anything is tried. -/
def scanTaken (found : List Candidate) (s : Bridge) : Bridge :=
  (s.withDriver s.driver.scanSettled).withWifi
    { s.wifi with
      scanInProgress := false
      candidates := found
      candCount := found.length }

/-- The statics when the first candidate is tried. -/
def firstTaken (found : List Candidate) (s : Bridge) : Bridge :=
  (scanTaken found s).withWifi
    { (scanTaken found s).wifi with candIndex := 0, candAttempts := 0 }

theorem UnderWay.scanDone (underWay : UnderWay s.cycleView)
    (scanning : s.wifi.scanInProgress = true)
    (isFound : selectCandidates s.wifi.wifiList io.scan = found) :
    s.step (.scanDone io) =
      if found.length = 0 then wifiCycleFailed io (scanTaken found s)
      else wifiTryCandidate io (firstTaken found s) := by
  have handlers : s.wifi.handlers = true := underWay.handlers
  rw [underWay.step_eq, ← isFound]
  exact (if_pos handlers).trans (if_pos scanning)

theorem scanTaken_view (found : List Candidate)
    (same : s.cycleView = start.cycleView) :
    (scanTaken found s).cycleView =
      { start.cycleView with
        scanInProgress := false
        candidates := found
        candCount := found.length } := by
  rw [← same]
  rfl

section Ends

variable (underWay : UnderWay start.cycleView)
  (same : s.cycleView = start.cycleView)
  (scanning : start.wifi.scanInProgress = true)
  (isFound : selectCandidates start.wifi.wifiList io.scan = found)

include underWay same scanning isFound

theorem scanDone_eq :
    s.step (.scanDone io) =
      if found.length = 0 then wifiCycleFailed io (scanTaken found s)
      else wifiTryCandidate io (firstTaken found s) := by
  have sameList : s.wifi.wifiList = start.wifi.wifiList :=
    congrArg CycleView.wifiList same
  have sameScan : s.wifi.scanInProgress = start.wifi.scanInProgress :=
    congrArg CycleView.scanInProgress same
  apply UnderWay.scanDone
  · rw [same]
    exact underWay
  · exact sameScan.trans scanning
  · rw [sameList]
    exact isFound

/-- Without candidates the cycle has failed. -/
theorem scanDone_charged (nothing : found = []) :
    Charged start [] (s.step (.scanDone io)) := by
  have taken := scanTaken_view found same
  have failed := wifiCycleFailed_view io (scanTaken found s)
  have retries :
      (scanTaken found s).wifi.wifiRetries = start.wifi.wifiRetries :=
    congrArg CycleView.wifiRetries taken
  have delay :
      (scanTaken found s).wifi.wifiRetryDelayMs = start.wifi.wifiRetryDelayMs :=
    congrArg CycleView.wifiRetryDelayMs taken
  rw [taken, retries, delay] at failed
  subst nothing
  rw [scanDone_eq underWay same scanning isFound, if_pos List.length_nil]
  refine ⟨congrArg CycleView.candCount failed, ?_,
    congrArg CycleView.wifiRetries failed,
    congrArg CycleView.wifiRetryDelayMs failed⟩
  rw [List.append_nil]
  exact congrArg CycleView.connects failed

theorem scanDone_abandoned (present : found ≠ [])
    (created : io.taskCreated = true)
    (negotiating : s.wifiBtNegotiating = true) :
    Abandoned start [] (s.step (.scanDone io)) := by
  have taken := scanTaken_view found same
  have nonempty : ¬ found.length = 0 := by
    rw [List.length_eq_zero_iff]
    exact present
  rw [scanDone_eq underWay same scanning isFound, if_neg nonempty]
  have given : Abandoned (firstTaken found s) [] _ :=
    wifiTryCandidate_abandons created negotiating
  refine ⟨given.candCount, ?_, ?_, ?_, given.retryWaits⟩
  · exact given.connects.trans
      (congrArg (· ++ []) (congrArg CycleView.connects taken))
  · exact given.wifiRetries.trans (congrArg CycleView.wifiRetries taken)
  · exact given.wifiRetryDelayMs.trans
      (congrArg CycleView.wifiRetryDelayMs taken)

/-- The first attempt. -/
theorem scanDone_trying (present : found ≠ [])
    (quiet : s.wifiBtNegotiating = false) :
    CycleAt start found 0 (s.step (.scanDone io)) := by
  have nonempty : ¬ found.length = 0 := by
    rw [List.length_eq_zero_iff]
    exact present
  have inside : 0 < found.length * candMaxAttempts :=
    Nat.mul_pos (Nat.pos_of_ne_zero nonempty) candMaxAttempts_pos
  obtain ⟨c, isFirst, attempt, made⟩ := candidate_of_attempt inside
  have tried :=
    wifiTryCandidate_view io (s := firstTaken found s) quiet isFirst
  rw [scanDone_eq underWay same scanning isFound, if_neg nonempty]
  refine ⟨?_, wifiTryCandidate_counts quiet, inside⟩
  rw [tried, CycleView.trying, attempt, made, ← same]
  rfl

end Ends

end Scan

/-! ## A lost attempt -/

section Losses

variable {start s : Bridge} {io : WifiIo} {found : List Candidate} {lost : Nat}

/-- The statics when the next candidate is tried. -/
def nextTaken (s : Bridge) : Bridge :=
  s.withWifi
    { s.wifi with candAttempts := 0, candIndex := s.wifi.candIndex + 1 }

/-- While the phone negotiates nothing more is tried. -/
theorem nextAttempt_negotiating (present : 0 < s.wifi.candCount)
    (negotiating : s.wifiBtNegotiating = true) :
    nextAttempt io s =
      some
        (wifiScheduleRetry io wifiNegotiateRecheckMs
          (s.withWifi { s.wifi with candCount := 0 })) := by
  rw [nextAttempt, if_pos present, if_pos negotiating]

section Quiet

variable (present : 0 < s.wifi.candCount) (quiet : s.wifiBtNegotiating = false)

include present quiet

/-- The same candidate once more. -/
theorem nextAttempt_again
    (more : s.wifi.candAttempts + 1 < candMaxAttempts) :
    nextAttempt io s =
      some
        ((s.withWifi
          { s.wifi with candAttempts := s.wifi.candAttempts + 1 }).withDriver
            s.driver.connect) := by
  rw [nextAttempt, if_pos present, quiet, if_neg Bool.false_ne_true,
    if_pos more]

theorem nextAttempt_next
    (enough : ¬ s.wifi.candAttempts + 1 < candMaxAttempts)
    (more : s.wifi.candIndex + 1 < s.wifi.candCount) :
    nextAttempt io s = some (wifiTryCandidate io (nextTaken s)) := by
  rw [nextAttempt, if_pos present, quiet, if_neg Bool.false_ne_true,
    if_neg enough, if_pos more]
  rfl

theorem nextAttempt_last
    (enough : ¬ s.wifi.candAttempts + 1 < candMaxAttempts)
    (last : ¬ s.wifi.candIndex + 1 < s.wifi.candCount) :
    nextAttempt io s = none := by
  rw [nextAttempt, if_pos present, quiet, if_neg Bool.false_ne_true,
    if_neg enough, if_neg last]

end Quiet

theorem lossTaken_view (lost : s.wifi.wifiConnected = false)
    (unmarked : s.wifi.wifiIgnoreDisconnect = false) :
    (lossTaken s).cycleView = s.cycleView := by
  simp [lossTaken, takeDisconnect, Bridge.cycleView, Bridge.withWifi,
    Bridge.withDriver, Driver.attemptSettled, lost, unmarked]

/-- Taking a loss does not move the loops. -/
theorem CycleAt.taken (isAt : CycleAt start found lost s)
    (underWay : UnderWay start.cycleView) :
    CycleAt start found lost (lossTaken s) := by
  have now := isAt.underWay underWay
  refine ⟨?_, isAt.counts, isAt.inside⟩
  rw [lossTaken_view now.lost now.unmarked]
  exact isAt.view

/-- A `DISCONNECTED` in a cycle is an attempt that was lost. -/
theorem CycleAt.disconnected (isAt : CycleAt start found lost s)
    (underWay : UnderWay start.cycleView) :
    s.step (.disconnected io) =
      (nextAttempt io (lossTaken s)).getD
        (wifiCycleFailed io (cycleExhausted (lossTaken s))) := by
  have now := isAt.underWay underWay
  have handlers : s.wifi.handlers = true := now.handlers
  have unmarked : s.wifi.wifiIgnoreDisconnect = false := now.unmarked
  have counted :
      afterLoss io (lossTaken s).appState (lossTaken s) =
        (nextAttempt io (lossTaken s)).getD
          (wifiCycleFailed io (cycleExhausted (lossTaken s))) := by
    have sameState : (lossTaken s).appState = s.appState := rfl
    rcases isAt.counts with state | state | state
    · rw [sameState, state, afterLoss]
    · rw [sameState, state, afterLoss]
    · rw [sameState, state, afterLoss]
  rw [now.step_eq, ← counted, Bridge.handle, disconnected_eq, if_pos handlers,
    unmarked, if_neg Bool.false_ne_true]

theorem CycleAt.present (isAt : CycleAt start found lost s)
    (underWay : UnderWay start.cycleView) :
    0 < (lossTaken s).wifi.candCount := by
  rw [(isAt.taken underWay).trying.candCount]
  exact Nat.pos_of_mul_pos_right (Nat.zero_lt_of_lt isAt.inside)

/-- The phone negotiates: the cycle is given up. -/
theorem CycleAt.abandoned (isAt : CycleAt start found lost s)
    (underWay : UnderWay start.cycleView) (created : io.taskCreated = true)
    (negotiating : s.wifiBtNegotiating = true) :
    Abandoned start ((attemptsOf found).take (lost + 1))
      (s.step (.disconnected io)) := by
  have taken := (isAt.taken underWay).trying
  have same :=
    wifiScheduleRetry_view io wifiNegotiateRecheckMs
      ((lossTaken s).withWifi { (lossTaken s).wifi with candCount := 0 })
  rw [isAt.disconnected underWay,
    nextAttempt_negotiating (isAt.present underWay) negotiating,
    Option.getD_some]
  refine ⟨congrArg CycleView.candCount same, ?_, ?_, ?_, ?_⟩
  · exact (congrArg CycleView.connects same).trans taken.connects
  · exact (congrArg CycleView.wifiRetries same).trans taken.wifiRetries
  · exact (congrArg CycleView.wifiRetryDelayMs same).trans
      taken.wifiRetryDelayMs
  · exact wifiScheduleRetry_running (Or.inl created) _

/-- The same candidate is tried once more. -/
theorem CycleAt.again (isAt : CycleAt start found lost s)
    (underWay : UnderWay start.cycleView)
    (quiet : s.wifiBtNegotiating = false)
    (more : lost + 1 < found.length * candMaxAttempts)
    (again : lost % candMaxAttempts + 1 < candMaxAttempts) :
    CycleAt start found (lost + 1) (s.step (.disconnected io)) := by
  have taken := isAt.taken underWay
  have tries : (lossTaken s).wifi.candAttempts + 1 < candMaxAttempts := by
    rw [taken.trying.candAttempts]
    exact again
  obtain ⟨sameItem, oneMore⟩ := NestedLoop.counters_again again
  obtain ⟨c, isTried, attempt, _⟩ := candidate_of_attempt isAt.inside
  obtain ⟨next, isNext, nextAttempt, made⟩ := candidate_of_attempt more
  have sameCandidate : next = c := by
    rw [sameItem, isTried] at isNext
    exact (Option.some.inj isNext).symm
  subst sameCandidate
  rw [isAt.disconnected underWay,
    nextAttempt_again (isAt.present underWay) quiet tries, Option.getD_some]
  refine ⟨?_, isAt.counts, more⟩
  calc
    _ = { (lossTaken s).cycleView with
          candAttempts := (lossTaken s).cycleView.candAttempts + 1
          connects :=
            (lossTaken s).cycleView.connects ++
              (lossTaken s).cycleView.config.toList } := rfl
    _ = start.cycleView.trying found (lost + 1) := by
        rw [taken.view]
        simp only [CycleView.trying, sameItem, oneMore, attempt, nextAttempt,
          made, Option.toList_some, List.append_assoc]

/-- The next candidate is tried. -/
theorem CycleAt.nextCandidate (isAt : CycleAt start found lost s)
    (underWay : UnderWay start.cycleView)
    (quiet : s.wifiBtNegotiating = false)
    (more : lost + 1 < found.length * candMaxAttempts)
    (enough : ¬ lost % candMaxAttempts + 1 < candMaxAttempts) :
    CycleAt start found (lost + 1) (s.step (.disconnected io)) := by
  have taken := isAt.taken underWay
  obtain ⟨nextItem, noMore⟩ :=
    NestedLoop.counters_next candMaxAttempts_pos enough
  obtain ⟨c, isNext, attempt, made⟩ := candidate_of_attempt more
  have within : lost / candMaxAttempts + 1 < found.length := by
    rw [← nextItem]
    exact (NestedLoop.counter_lt_iff candMaxAttempts_pos).mpr more
  have tries : ¬ (lossTaken s).wifi.candAttempts + 1 < candMaxAttempts := by
    rw [taken.trying.candAttempts]
    exact enough
  have inside :
      (lossTaken s).wifi.candIndex + 1 < (lossTaken s).wifi.candCount := by
    rw [taken.trying.candIndex, taken.trying.candCount]
    exact within
  have tried :
      (nextTaken (lossTaken s)).wifi.candidates[
          (nextTaken (lossTaken s)).wifi.candIndex]? = some c := by
    show (lossTaken s).wifi.candidates[(lossTaken s).wifi.candIndex + 1]? = _
    rw [taken.trying.candidates, taken.trying.candIndex, ← nextItem]
    exact isNext
  have view :=
    wifiTryCandidate_view io (s := nextTaken (lossTaken s)) quiet tried
  rw [isAt.disconnected underWay,
    nextAttempt_next (isAt.present underWay) quiet tries inside,
    Option.getD_some]
  refine ⟨?_, wifiTryCandidate_counts quiet, more⟩
  rw [view]
  calc
    _ = { (lossTaken s).cycleView with
          candAttempts := 0
          candIndex := (lossTaken s).cycleView.candIndex + 1
          config := some (staConfig c.cred)
          connects :=
            (lossTaken s).cycleView.connects ++ [staConfig c.cred] } := rfl
    _ = start.cycleView.trying found (lost + 1) := by
        rw [taken.view]
        simp only [CycleView.trying, nextItem, noMore, attempt, made,
          List.append_assoc]

/-- The next attempt is made. -/
theorem CycleAt.next (isAt : CycleAt start found lost s)
    (underWay : UnderWay start.cycleView)
    (quiet : s.wifiBtNegotiating = false)
    (more : lost + 1 < found.length * candMaxAttempts) :
    CycleAt start found (lost + 1) (s.step (.disconnected io)) := by
  by_cases again : lost % candMaxAttempts + 1 < candMaxAttempts
  · exact isAt.again underWay quiet more again
  · exact isAt.nextCandidate underWay quiet more again

/-- The last attempt was lost. -/
theorem CycleAt.charged (isAt : CycleAt start found lost s)
    (underWay : UnderWay start.cycleView)
    (quiet : s.wifiBtNegotiating = false)
    (last : lost + 1 = found.length * candMaxAttempts) :
    Charged start (attemptsOf found) (s.step (.disconnected io)) := by
  have taken := (isAt.taken underWay).trying
  have enough : ¬ lost % candMaxAttempts + 1 < candMaxAttempts := by
    intro again
    have oneMore := (NestedLoop.counters_again again).2
    rw [last, Nat.mul_mod_left] at oneMore
    exact Nat.succ_ne_zero _ oneMore.symm
  have lastItem : lost / candMaxAttempts + 1 = found.length := by
    have nextItem := (NestedLoop.counters_next candMaxAttempts_pos enough).1
    rw [← nextItem, last, Nat.mul_div_cancel _ candMaxAttempts_pos]
  have none : nextAttempt io (lossTaken s) = none := by
    apply nextAttempt_last (isAt.present underWay) quiet
    · rw [taken.candAttempts]
      exact enough
    · rw [taken.candIndex, taken.candCount, lastItem]
      exact lt_irrefl _
  have exhausted :
      cycleExhausted (lossTaken s) =
        (lossTaken s).withWifi
          { (lossTaken s).wifi with
            candAttempts := 0
            candIndex := (lossTaken s).wifi.candIndex + 1
            candCount := 0 } := if_pos (isAt.present underWay)
  have failed := wifiCycleFailed_view io (cycleExhausted (lossTaken s))
  have all : (attemptsOf found).take (lost + 1) = attemptsOf found := by
    rw [last, ← length_attemptsOf, List.take_length]
  rw [isAt.disconnected underWay, none, Option.getD_none]
  rw [exhausted] at failed ⊢
  refine ⟨congrArg CycleView.candCount failed, ?_, ?_, ?_⟩
  · rw [← all]
    exact (congrArg CycleView.connects failed).trans taken.connects
  · rw [← taken.wifiRetries]
    exact congrArg CycleView.wifiRetries failed
  · rw [← taken.wifiRetryDelayMs]
    exact congrArg CycleView.wifiRetryDelayMs failed

/-- As long as there are attempts left, a cycle is where the number of those
that were lost says. -/
theorem CycleAt.run (isAt : CycleAt start found lost s)
    (underWay : UnderWay start.cycleView) {events : List Event}
    (along : Along Bridge.step GoesOn s events)
    (left : lost + losses events < found.length * candMaxAttempts) :
    CycleAt start found (lost + losses events)
      (EventRun.run Bridge.step s events) := by
  induction events generalizing s lost with
  | nil =>
      exact isAt
  | cons event rest inductionHypothesis =>
      obtain ⟨now, later⟩ := along
      rw [run_cons]
      rcases now with meanwhile | ⟨io, rfl, _, quiet⟩
      · have none : losses (event :: rest) = losses rest :=
          List.countP_cons_of_neg meanwhile.not_loss
        rw [none] at left ⊢
        exact inductionHypothesis (isAt.meanwhile underWay meanwhile) later left
      · have one : losses (.disconnected io :: rest) = losses rest + 1 :=
          List.countP_cons_of_pos rfl
        rw [one] at left ⊢
        have next :
            CycleAt start found (lost + 1) (s.step (.disconnected io)) :=
          isAt.next underWay quiet (by omega)
        have total : lost + (losses rest + 1) = lost + 1 + losses rest := by
          omega
        rw [total] at left ⊢
        exact inductionHypothesis next later left

end Losses

/-! ## Cycles -/

/-- The candidates are sorted by their signal. -/
theorem selectCandidates_descending (list : WifiList) (io : ScanIo) :
    (selectCandidates list io).Pairwise fun first second =>
      second.rssi ≤ first.rssi := by
  rw [selectCandidates, insertCandidate_eq]
  exact foldl_insertRight_descending List.Pairwise.nil _

/-- A connect cycle up to the end of its scan. -/
structure ConnectCycle where
  start : Bridge
  started : Started start
  handlers : start.wifi.handlers = true
  unmarked : start.wifi.wifiIgnoreDisconnect = false
  /-- what happens before the scan ends -/
  scanning : List Event
  along : Along Bridge.step Meanwhile start scanning
  /-- what the system answers at its end -/
  io : WifiIo
  created : io.taskCreated = true

namespace ConnectCycle

variable (cycle : ConnectCycle)

def found : List Candidate :=
  selectCandidates cycle.start.wifi.wifiList cycle.io.scan

/-- When the scan has ended. -/
def heard : Bridge := run Bridge.step cycle.start cycle.scanning

/-- When its end was handled. -/
def opened : Bridge := cycle.heard.step (.scanDone cycle.io)

theorem underWay : UnderWay cycle.start.cycleView := by
  have idle := cycle.started.idle
  exact ⟨idle.running, cycle.handlers, cycle.unmarked, idle.lost, idle.saved,
    Or.inl cycle.started.1⟩

theorem heard_view : cycle.heard.cycleView = cycle.start.cycleView :=
  cycle.underWay.run_view cycle.along

/-- In a connect cycle each candidate is tried as often as it is to be, the
strongest first and one attempt after the other, and then one failure is
charged; it is given up without a charge when the phone negotiates at the end of
the scan, when an attempt is lost, or when a candidate is tried. -/
theorem attempts_in_order :
    (cycle.found.Pairwise fun first second => second.rssi ≤ first.rssi) ∧
      (cycle.found = [] → Charged cycle.start [] cycle.opened) ∧
      (cycle.found ≠ [] → cycle.heard.wifiBtNegotiating = true →
        Abandoned cycle.start [] cycle.opened) ∧
      (cycle.found ≠ [] → cycle.heard.wifiBtNegotiating = false →
        ∀ events, Along Bridge.step GoesOn cycle.opened events →
          losses events < cycle.found.length * candMaxAttempts →
            let s := run Bridge.step cycle.opened events
            Trying cycle.start cycle.found (losses events) s ∧
              ∀ io : WifiIo, io.taskCreated = true →
                (s.wifiBtNegotiating = true →
                  Abandoned cycle.start
                    ((attemptsOf cycle.found).take (losses events + 1))
                    (s.step (.disconnected io))) ∧
                (s.wifiBtNegotiating = false →
                  losses events + 1 = cycle.found.length * candMaxAttempts →
                    Charged cycle.start (attemptsOf cycle.found)
                      (s.step (.disconnected io)))) ∧
      ∀ (s : Bridge) (io : WifiIo), io.taskCreated = true →
        s.wifiBtNegotiating = true →
          Abandoned s [] (wifiTryCandidate io s) := by
  refine ⟨selectCandidates_descending _ _, ?_, ?_, ?_, ?_⟩
  · exact scanDone_charged cycle.underWay cycle.heard_view cycle.started.1 rfl
  · intro present negotiating
    exact scanDone_abandoned cycle.underWay cycle.heard_view cycle.started.1 rfl
      present cycle.created negotiating
  · intro present quiet events along left
    have first : CycleAt cycle.start cycle.found 0 cycle.opened :=
      scanDone_trying cycle.underWay cycle.heard_view cycle.started.1 rfl
        present quiet
    have isAt := first.run cycle.underWay along (by rwa [Nat.zero_add])
    rw [Nat.zero_add] at isAt
    refine ⟨isAt.trying, ?_⟩
    intro io created
    exact ⟨isAt.abandoned cycle.underWay created,
      isAt.charged cycle.underWay⟩
  · intro s io created negotiating
    exact wifiTryCandidate_abandons created negotiating

end ConnectCycle

/-- The bridge boots, the phone goes, and the saved network is found. -/
def bootCycle : ConnectCycle where
  start := Bridge.boot (goodIo [97]) (some (oneSaved [97]))
  started := ⟨rfl, Or.inl ⟨_, _, rfl⟩⟩
  handlers := rfl
  unmarked := rfl
  scanning := [.rfcommClosed]
  along := ⟨⟨rfl, trivial⟩, trivial⟩
  io := goodIo [97]
  created := rfl

theorem attempts_in_order_boot :
    Charged bootCycle.start (attemptsOf bootCycle.found)
      ((run Bridge.step bootCycle.opened
        [.disconnected (goodIo [97]), .pppDown]).step
          (.disconnected (goodIo [97]))) := by
  have present : bootCycle.found ≠ [] := by decide
  have goesOn :=
    bootCycle.attempts_in_order.2.2.2.1 present (by decide)
      [.disconnected (goodIo [97]), .pppDown]
      ⟨Or.inr ⟨_, rfl, rfl, by decide⟩, Or.inl ⟨rfl, trivial⟩, trivial⟩
      (by decide)
  exact (goesOn.2 _ rfl).2 (by decide) (by decide)

end VeteraBridge.Wifi

import VeteraBridge.Gateway.DeviceName

/-!
# Extended logging

The web task switches the flags of `debug_log.c`, and BTstack's task sets up
`hci_dump` by them: in `bt_setup`, and in a callback put on the run loop.  With
it stands what the device name and the flags come to in every interleaving.
-/

namespace VeteraBridge.Gateway

open EventRun
open DeferredApply (State)

def dbgHciPackets : UInt8 := 0x01

def dbgBtstackLog : UInt8 := 0x02

def dbgVerbose : UInt8 := 0x04

def dbgAll : UInt8 := dbgHciPackets ||| dbgBtstackLog ||| dbgVerbose

/-- What `hci_dump` prints: packets, and lines of each level. -/
structure HciDump where
  packetLog : Bool
  levelDebug : Bool
  levelInfo : Bool
  levelError : Bool
deriving DecidableEq, Repr

/-- The settings of `apply_to_hci_dump`. -/
def applyToHciDump (f : UInt8) : HciDump :=
  let stackLog := f &&& dbgBtstackLog != 0
  { packetLog := f &&& dbgHciPackets != 0
    levelDebug := stackLog
    levelInfo := stackLog
    levelError := stackLog }

/-- What `nvs_flags_load` leaves in `dbg_flags`. -/
def nvsFlagsLoad (opened : Bool) (nvs : Option UInt8) : UInt8 :=
  match nvs with
  | none => 0
  | some v => if opened then v &&& dbgAll else 0

/-- `nvs_flags_save`, where NVS can be opened and written. -/
def nvsFlagsSave (opened written : Bool) (nvs : Option UInt8) (flags : UInt8) :
    Option UInt8 :=
  if opened && written then if flags = 0 then none else some flags else nvs

/-- What the BTstack task does next. -/
inductive DebugBtPc where
  /-- `debug_log_bt_setup` -/
  | setup
  | idle
  /-- `apply_cb`: clear `apply_pending` -/
  | called
  /-- `apply_to_hci_dump`: read `dbg_flags` -/
  | reads
  | applies (f : UInt8)
deriving DecidableEq, Repr

/-- `debug_log.c`, with the two tasks; the setting is `dbg_flags`. -/
structure DebugLog extends Setting UInt8 where
  hciDump : HciDump
  bt : DebugBtPc

inductive DebugEvent where
  /-- the web task calls `debug_log_set` -/
  | set (flags : UInt8)
  /-- the web task goes on -/
  | web (opened written : Bool)
  /-- the run loop takes `apply_cb_reg` off its list -/
  | runLoop
  /-- the BTstack task goes on -/
  | bt
deriving DecidableEq, Repr

namespace DebugLog

/-- After `debug_log_init`, at the start of `bt_setup`. -/
def boot (opened : Bool) (nvs : Option UInt8) (hciDump : HciDump) : DebugLog :=
  { Setting.boot (nvsFlagsLoad opened nvs) nvs with
    hciDump := hciDump
    bt := .setup }

def debugLogSet (flags : UInt8) (s : DebugLog) : DebugLog :=
  { s with toSetting := s.toSetting.webSet (flags &&& dbgAll) }

/-- `debug_log_set`, from its critical section. -/
def webStep (opened written : Bool) (s : DebugLog) : DebugLog :=
  { s with toSetting := s.toSetting.webStep id (nvsFlagsSave opened written) }

/-- `debug_log_bt_setup`, `apply_cb` and `apply_to_hci_dump`. -/
def btStep (s : DebugLog) : DebugLog :=
  match s.bt with
  -- `hci_dump_init` turns everything on
  | .setup => { s with hciDump := ⟨true, true, true, true⟩, bt := .reads }
  | .idle => s
  | .called => { s with applyPending := false, bt := .reads }
  | .reads => { s with bt := .applies s.value }
  | .applies f => { s with hciDump := applyToHciDump f, bt := .idle }

def runLoop (s : DebugLog) : DebugLog :=
  match s.bt, s.queued with
  | .idle, queued + 1 => { s with queued := queued, bt := .called }
  | _, _ => s

def step (s : DebugLog) : DebugEvent → DebugLog
  | .set flags => s.debugLogSet flags
  | .web opened written => s.webStep opened written
  | .runLoop => s.runLoop
  | .bt => s.btStep

/-- `hci_dump` is set up by these flags: packets by the one, the lines of every
level by the other. -/
def Shows (flags : UInt8) (s : DebugLog) : Prop :=
  (s.hciDump.packetLog = true ↔ flags &&& dbgHciPackets ≠ 0) ∧
    (s.hciDump.levelDebug = true ↔ flags &&& dbgBtstackLog ≠ 0) ∧
    (s.hciDump.levelInfo = true ↔ flags &&& dbgBtstackLog ≠ 0) ∧
    (s.hciDump.levelError = true ↔ flags &&& dbgBtstackLog ≠ 0)

/-- Once the BTstack task has returned from its handler. -/
def handlerDone (s : DebugLog) : DebugLog :=
  run step s (List.replicate 3 .bt)

end DebugLog

/-- The BTstack task as the worker. -/
def DebugBtPc.worker : DebugBtPc → DeferredApply.Worker UInt8
  | .setup | .idle => .idle
  | .called => .taken
  | .reads => .reads
  | .applies f => .applies f

namespace DebugLog

theorem shows_of_applied {flags : UInt8} {s : DebugLog}
    (applied : s.hciDump = applyToHciDump flags) : s.Shows flags := by
  simp [Shows, applied, applyToHciDump]

/-- The flags are a deferred setting. -/
structure Refines (loaded : UInt8) (s : DebugLog) (a : State UInt8) :
    Prop where
  setting : s.toSetting.Matches id loaded a
  worker : a.worker = s.bt.worker
  fresh : s.bt ≠ .setup → a.Fresh
  shown : s.bt = .idle → ∀ flags, a.applied = some flags → s.Shows flags

section Refinement

variable {loaded : UInt8} {s : DebugLog} {a : State UInt8}

/-- What the abstract setting does while the bridge takes a step. -/
def Follows (loaded : UInt8) (a : State UInt8) (s' : DebugLog) : Prop :=
  ∃ after, a.Leads after ∧ s'.Refines loaded after

theorem Refines.follows (refines : s.Refines loaded a) : Follows loaded a s :=
  ⟨a, .refl a, refines⟩

theorem Refines.debugLogSet (refines : s.Refines loaded a) (flags : UInt8) :
    Follows loaded a (s.debugLogSet flags) :=
  Refines.follows { refines with setting := refines.setting.webSet rfl }

theorem Refines.webStep (refines : s.Refines loaded a)
    (registered : a.Registered) (opened written : Bool) :
    Follows loaded a (s.webStep opened written) := by
  obtain ⟨after, leads, setting, worker, applied⟩ :=
    refines.setting.webStep (nvsFlagsSave opened written)
  refine ⟨after, leads, ?_⟩
  exact {
    setting := setting
    worker := worker.trans refines.worker
    fresh := fun setUp => (refines.fresh setUp).leads registered leads
    shown := fun atRest flags isApplied =>
      refines.shown atRest flags (applied.symm.trans isApplied) }

theorem Refines.runLoop (refines : s.Refines loaded a)
    (registered : a.Registered) : Follows loaded a s.runLoop := by
  unfold DebugLog.runLoop
  split
  · rename_i queued bt listed
    have worker := refines.worker
    rw [bt] at worker
    have isListed := refines.setting.queued.trans listed
    have fresh := (refines.fresh (by rw [bt]; rintro ⟨⟩)).take registered
    refine ⟨a.step .take, .step a _, ?_⟩
    rw [State.take_of_idle worker isListed] at fresh
    rw [State.step, State.take_of_idle worker isListed]
    exact {
      setting := { refines.setting with queued := rfl }
      worker := rfl
      fresh := fun _ => fresh
      shown := fun atRest => by cases atRest }
  · exact refines.follows

theorem Refines.btStep (refines : s.Refines loaded a) :
    Follows loaded a s.btStep := by
  have worker := refines.worker
  have fresh := fun setUp => (refines.fresh setUp).work
  unfold DebugLog.btStep
  split
  · rename_i bt
    rw [bt] at worker
    refine ⟨a.step .start, .step a _, ?_⟩
    rw [State.step, State.beginRead_of_idle worker]
    exact {
      setting := { refines.setting with }
      worker := rfl
      fresh := fun _ => State.fresh_of_reads rfl
      shown := fun atRest => by cases atRest }
  · exact refines.follows
  · rename_i bt
    rw [bt] at worker fresh
    refine ⟨a.step .work, .step a _, ?_⟩
    rw [State.work_of_taken worker] at fresh
    rw [State.step, State.work_of_taken worker]
    exact {
      setting := { refines.setting with pending := rfl }
      worker := rfl
      fresh := fun _ => fresh (by rintro ⟨⟩)
      shown := fun atRest => by cases atRest }
  · rename_i bt
    rw [bt] at worker fresh
    refine ⟨a.step .work, .step a _, ?_⟩
    rw [State.work_of_reads worker] at fresh
    rw [State.step, State.work_of_reads worker]
    exact {
      setting := { refines.setting with }
      worker := congrArg _ refines.setting.value
      fresh := fun _ => fresh (by rintro ⟨⟩)
      shown := fun atRest => by cases atRest }
  · rename_i f bt
    rw [bt] at worker fresh
    refine ⟨a.step .work, .step a _, ?_⟩
    rw [State.work_of_applies worker] at fresh
    rw [State.step, State.work_of_applies worker]
    refine {
      setting := { refines.setting with }
      worker := rfl
      fresh := fun _ => fresh (by rintro ⟨⟩)
      shown := ?_ }
    rintro _ _ ⟨⟩
    exact shows_of_applied rfl

theorem Refines.step (refines : s.Refines loaded a) (registered : a.Registered)
    (event : DebugEvent) : Follows loaded a (s.step event) := by
  cases event with
  | set flags => exact refines.debugLogSet flags
  | web opened written => exact refines.webStep registered opened written
  | runLoop => exact refines.runLoop registered
  | bt => exact refines.btStep

theorem boot_refines (opened : Bool) (nvs : Option UInt8) (hciDump : HciDump) :
    (boot opened nvs hciDump).Refines (nvsFlagsLoad opened nvs)
      (State.start (nvsFlagsLoad opened nvs)) where
  setting := Setting.boot_matches id rfl nvs
  worker := rfl
  fresh := fun setUp => absurd rfl setUp
  shown := fun atRest => by cases atRest

end Refinement

/-- Each run of the two tasks is a run of a deferred setting. -/
theorem run_follows (opened : Bool) (nvs : Option UInt8) (hciDump : HciDump)
    (events : List DebugEvent) :
    ∃ a : State UInt8, a.Registered ∧
      (run step (boot opened nvs hciDump) events).Refines
        (nvsFlagsLoad opened nvs) a := by
  obtain ⟨a, _, refines⟩ := run_refines
    (fun s a => a.Registered ∧ Refines (nvsFlagsLoad opened nvs) s a)
    (fun s a event both => by
      obtain ⟨after, leads, refines⟩ := both.2.step both.1 event
      exact ⟨after, leads, both.1.leads leads, refines⟩)
    ⟨State.start_registered _, boot_refines opened nvs hciDump⟩ events
  exact ⟨a, refines⟩

theorem queued_le (opened : Bool) (nvs : Option UInt8) (hciDump : HciDump)
    (events : List DebugEvent) :
    (run step (boot opened nvs hciDump) events).queued ≤ 1 := by
  obtain ⟨a, registered, refines⟩ := run_follows opened nvs hciDump events
  rw [← refines.setting.queued]
  exact registered.queued_le

/-- At rest `hci_dump` is set up by the flags asked for last. -/
theorem shows_at_rest (opened : Bool) (nvs : Option UInt8) (hciDump : HciDump)
    (events : List DebugEvent) {s : DebugLog}
    (reached : run step (boot opened nvs hciDump) events = s)
    (empty : s.queued = 0) (web : s.web = .idle) (bt : s.bt = .idle) :
    s.Shows (s.wanted (nvsFlagsLoad opened nvs)) := by
  obtain ⟨a, registered, refines⟩ := run_follows opened nvs hciDump events
  rw [reached] at refines
  have setUp : s.bt ≠ .setup := by
    rw [bt]
    rintro ⟨⟩
  have atRest : a.worker = .idle := by
    rw [refines.worker, bt]
    rfl
  exact refines.shown bt _
    (refines.setting.settled (refines.fresh setUp) registered empty web atRest)

/-- Three steps take the BTstack task out of any handler. -/
theorem handlerDone_frame (s : DebugLog) :
    s.handlerDone.bt = .idle ∧ s.handlerDone.queued = s.queued ∧
      s.handlerDone.web = s.web ∧ s.handlerDone.lastSet = s.lastSet := by
  simp only [handlerDone, List.replicate, run_cons, run_nil, step]
  cases bt : s.bt <;> simp [btStep, bt]

end DebugLog

/-- In every interleaving a callback is never put on the run loop twice, and
once it has run nothing that was set is lost: the phone is told the last name,
and `hci_dump` is set up by the last flags. -/
theorem settings_applied :
    (∀ (opened : Bool) (nvs : Option (List UInt8)) (events : List NameEvent),
      let s := run DeviceName.step (DeviceName.boot opened nvs) events
      s.queued ≤ 1 ∧
        (s.cameUp = true → s.queued = 0 → s.web = .idle →
          (s.bt = .idle → s.Shows (s.wanted (nvsNameLoad opened nvs))) ∧
            s.handlerDone.Shows (s.wanted (nvsNameLoad opened nvs)))) ∧
      ∀ (opened : Bool) (nvs : Option UInt8) (hciDump : HciDump)
        (events : List DebugEvent),
        let s := run DebugLog.step (DebugLog.boot opened nvs hciDump) events
        s.queued ≤ 1 ∧
          (s.queued = 0 → s.web = .idle →
            (s.bt = .idle → s.Shows (s.wanted (nvsFlagsLoad opened nvs))) ∧
              s.handlerDone.Shows (s.wanted (nvsFlagsLoad opened nvs))) := by
  constructor
  · intro opened nvs events s
    refine ⟨DeviceName.queued_le opened nvs events, ?_⟩
    intro cameUp empty web
    refine ⟨DeviceName.shows_at_rest opened nvs events rfl cameUp empty web, ?_⟩
    obtain ⟨bt, queued, webSame, upSame, setSame⟩ := s.handlerDone_frame
    have reached :
        run DeviceName.step (DeviceName.boot opened nvs)
          (events ++ List.replicate 5 .bt) = s.handlerDone := run_append _ _ _
    have done := DeviceName.shows_at_rest opened nvs _ reached
      (upSame.trans cameUp) (queued.trans empty) (webSame.trans web) bt
    have wanted : s.handlerDone.wanted (nvsNameLoad opened nvs) =
        s.wanted (nvsNameLoad opened nvs) := congrArg (Option.getD · _) setSame
    exact wanted ▸ done
  · intro opened nvs hciDump events s
    refine ⟨DebugLog.queued_le opened nvs hciDump events, ?_⟩
    intro empty web
    refine ⟨DebugLog.shows_at_rest opened nvs hciDump events rfl empty web, ?_⟩
    obtain ⟨bt, queued, webSame, setSame⟩ := s.handlerDone_frame
    have reached :
        run DebugLog.step (DebugLog.boot opened nvs hciDump)
          (events ++ List.replicate 3 .bt) = s.handlerDone := run_append _ _ _
    have done := DebugLog.shows_at_rest opened nvs hciDump _ reached
      (queued.trans empty) (webSame.trans web) bt
    have wanted : s.handlerDone.wanted (nvsFlagsLoad opened nvs) =
        s.wanted (nvsFlagsLoad opened nvs) := congrArg (Option.getD · _) setSame
    exact wanted ▸ done

/-- A rename while the name is applied as the controller comes up. -/
def renamedMeanwhile : List NameEvent :=
  [.bt, .working, .bt, .set (some (Proxy.ascii " car ")), .web true true,
    .bt, .bt, .web true true, .bt, .web true true] ++
    .runLoop :: List.replicate 5 .bt

/-- The name loaded at boot is cleared once the controller is up. -/
def clearedAgain : List NameEvent :=
  [.bt, .address #v[0, 0x1b, 0xdc, 0x07, 0x34, 0x56], .working, .bt, .bt, .bt,
    .bt, .set none, .web true true, .web true true, .web true true] ++
    .runLoop :: List.replicate 5 .bt

/-- Flags that are switched twice, the second time while the callback of the
first call waits on the run loop. -/
def switchedMeanwhile : List DebugEvent :=
  [.bt, .bt, .bt, .set dbgAll, .web true true, .web true true, .web true true,
    .set dbgHciPackets, .web true true, .web true true, .web true true] ++
    .runLoop :: List.replicate 3 .bt

theorem settings_applied_renamed :
    (run DeviceName.step (DeviceName.boot true none) renamedMeanwhile).Shows
        (Proxy.ascii "car") ∧
      (run DeviceName.step (DeviceName.boot true (some (Proxy.ascii "car")))
        clearedAgain).Shows [] ∧
      (run DebugLog.step
        (DebugLog.boot true (some dbgBtstackLog) ⟨true, true, true, true⟩)
        switchedMeanwhile).Shows dbgHciPackets :=
  ⟨((settings_applied.1 true none renamedMeanwhile).2 (by decide) (by decide)
      (by decide)).1 (by decide),
    ((settings_applied.1 true (some (Proxy.ascii "car")) clearedAgain).2
      (by decide) (by decide) (by decide)).1 (by decide),
    ((settings_applied.2 true (some dbgBtstackLog) ⟨true, true, true, true⟩
      switchedMeanwhile).2 (by decide) (by decide)).1 (by decide)⟩

end VeteraBridge.Gateway

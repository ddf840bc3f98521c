import VeteraBridge.Link.Channels

/-!
# The pcb of a session

A pcb is created and closed by the BTstack task and freed by lwIP's status
callback, which runs on the tcpip task and frees it only while `ppp_teardown` is
set.  A step here is one access to what the two tasks share.  `pppapi_close` runs
on the tcpip task: it calls back before it returns, or leaves the callback for
later.
-/

namespace VeteraBridge.Link

open EventRun

/-- What lwIP is to do with a pcb. -/
inductive Life where
  /-- no link, or no pcb -/
  | dead
  /-- listening, negotiating or running -/
  | linked
  /-- closed, and its callback has not looked at `ppp_teardown` yet -/
  | closing
deriving DecidableEq, Repr

/-- The function that closes a pcb. -/
inductive Closer where
  /-- `ppp_session_start`, on the channel `cid` -/
  | start (cid : UInt16)
  /-- `ppp_session_stop` -/
  | stop
deriving DecidableEq, Repr

/-- What the BTstack task does next. -/
inductive BtPc where
  | idle
  /-- call `pppapi_listen` -/
  | created (pcb : Nat) (cid handle : UInt16)
  /-- set `ppp_teardown` -/
  | closes (pcb : Nat) (closer : Closer)
  /-- call `pppapi_close` -/
  | tearing (pcb : Nat) (closer : Closer)
  /-- in `pppapi_close`, which calls back -/
  | waiting (pcb : Nat) (closer : Closer)
  /-- clear `ppp_teardown` -/
  | closed (pcb : Nat) (closer : Closer)
  /-- clear `ppp` -/
  | cleared (pcb : Nat) (closer : Closer)
deriving DecidableEq, Repr

/-- What the tcpip task does next, in `ppp_status_cb`. -/
inductive TcpipPc where
  | idle
  /-- read `ppp_teardown` -/
  | down (pcb : Nat)
  /-- it was clear: read `session_active` -/
  | spared (pcb : Nat)
deriving DecidableEq, Repr

/-- The two tasks, with what lwIP has been told of each pcb. -/
structure PcbTasks where
  link : LinkState
  phase : UInt16 → Phase
  /-- `ppp_teardown` -/
  pppTeardown : Bool
  bt : BtPc
  tcpip : TcpipPc
  life : Nat → Life
  /-- how often a pcb was freed -/
  freed : Nat → Nat

inductive PcbEvent where
  /-- an event whose handler neither starts nor stops PPP -/
  | other (event : Event)
  | opened (cid handle : UInt16) (created : Bool)
  | closed (cid : UInt16)
  /-- the BTstack task goes on; `ok` is whether `pppapi_listen` succeeds, or
  `pppapi_close` calls back at once -/
  | bt (ok : Bool)
  | output (data : List UInt8)
  | up (pcb : Nat)
  | down (pcb : Nat)
  /-- the tcpip task goes on -/
  | tcpip
deriving DecidableEq, Repr

/-- An event whose handler neither starts nor stops PPP and is no callback. -/
def Event.Plain : Event → Prop
  | .opened _ status _ _ _ => status ≠ 0
  | .closed _ | .pppStatus _ _ => False
  | _ => True

namespace PcbTasks

def world (s : PcbTasks) : World := { link := s.link, phase := s.phase }

@[simp]
def withLink (s : PcbTasks) (link : LinkState) : PcbTasks :=
  { s with link := link }

@[simp]
def withBt (s : PcbTasks) (pc : BtPc) : PcbTasks := { s with bt := pc }

@[simp]
def withTcpip (s : PcbTasks) (pc : TcpipPc) : PcbTasks := { s with tcpip := pc }

@[simp]
def withLife (s : PcbTasks) (pcb : Nat) (life : Life) : PcbTasks :=
  { s with life := Function.update s.life pcb life }

/-! ## The BTstack task -/

def other (event : Event) (s : PcbTasks) : PcbTasks :=
  if s.bt = .idle then
    let world := s.world.step event
    { s with link := world.link, phase := world.phase }
  else
    s

/-- `RFCOMM_EVENT_CHANNEL_OPENED`, up to the creation of a pcb. -/
def opened (cid handle : UInt16) (created : Bool) (s : PcbTasks) : PcbTasks :=
  if s.bt = .idle ∧ s.tcpip = .idle then
    let s := { s with phase := Function.update s.phase cid .opened }
    let link := freshChannel { s.link with calls := [] }
    if created then
      let pcb := link.pcbs
      (s.withLink
        ({ link with ppp := some pcb, pcbs := pcb + 1 }.call
          (.pppCreate pcb))).withBt (.created pcb cid handle)
    else
      s.withLink ({ link with ppp := none }.call (.disconnect cid)).noSession
  else
    s

/-- `RFCOMM_EVENT_CHANNEL_CLOSED`, up to the close of a pcb. -/
def closed (cid : UInt16) (s : PcbTasks) : PcbTasks :=
  if s.bt = .idle then
    let s := { s with phase := Function.update s.phase cid .free }
    let link := { s.link with calls := [] }
    if cid ≠ link.activeCid then s.withLink link
    else if cid = link.autoCid then s.withLink (autoRelease link).noSession
    else
      match link.ppp with
      | some pcb => (s.withLink link.noSession).withBt (.closes pcb .stop)
      | none =>
        s.withLink
          ({ link.noSession with pppUpFlag := false }.call .gwOnRfcommClosed)
  else
    s

/-- A status callback that is no success, up to the teardown flag. -/
def callDown (pcb : Nat) (s : PcbTasks) : PcbTasks :=
  (s.withLink
    (({ s.link with pppUpFlag := false }.call .updateNat).call
      .gwOnPppDown)).withTcpip (.down pcb)

/-- What the closer does after the close. -/
def afterClose (closer : Closer) (link : LinkState) : LinkState :=
  match closer with
  | .start cid => (link.call (.disconnect cid)).noSession
  | .stop => { link with pppUpFlag := false }.call .gwOnRfcommClosed

/-- The next step of the BTstack task. -/
def btStep (ok : Bool) (s : PcbTasks) : PcbTasks :=
  match s.bt with
  | .idle => s
  | .created pcb cid handle =>
    if s.tcpip = .idle then
      let link := s.link.call (.pppListen pcb)
      if ok then
        ((s.withLink (link.call (.gwOnRfcommOpened handle))).withLife pcb
          .linked).withBt .idle
      else
        (s.withLink link).withBt (.closes pcb (.start cid))
    else
      s
  | .closes pcb closer => { s with pppTeardown := true, bt := .tearing pcb closer }
  | .tearing pcb closer =>
    if s.tcpip = .idle then
      let s := (s.withLink (s.link.call (.pppClose pcb))).withLife pcb .closing
      if ok then (s.callDown pcb).withBt (.waiting pcb closer)
      else s.withBt (.closed pcb closer)
    else
      s
  | .waiting _ _ => s
  | .closed pcb closer =>
    { s with pppTeardown := false, bt := .cleared pcb closer }
  | .cleared _ closer =>
    (s.withLink (afterClose closer { s.link with ppp := none })).withBt .idle

/-! ## The tcpip task -/

/-- `ppp_status_cb` with `PPPERR_NONE`. -/
def up (s : PcbTasks) : PcbTasks :=
  if s.tcpip = .idle then
    s.withLink
      (({ s.link with pppUpFlag := true }.call .updateNat).call .gwOnPppUp)
  else
    s

/-- A pcb has lost its link, or the callback of its close has come. -/
def down (pcb : Nat) (s : PcbTasks) : PcbTasks :=
  if s.tcpip = .idle then
    let s := if s.life pcb = .linked then s.withLife pcb .dead else s
    s.callDown pcb
  else
    s

/-- A callback returns, to `pppapi_close` if it was called there. -/
def callbackReturns (s : PcbTasks) : PcbTasks :=
  match s.bt with
  | .waiting pcb closer => (s.withTcpip .idle).withBt (.closed pcb closer)
  | _ => s.withTcpip .idle

theorem callbackReturns_world (s : PcbTasks) :
    s.callbackReturns.world = s.world := by
  unfold callbackReturns
  split
  · rfl
  · rfl

/-- The next step of the tcpip task. -/
def tcpipStep (s : PcbTasks) : PcbTasks :=
  match s.tcpip with
  | .idle => s
  | .down pcb =>
    let s := s.withLife pcb .dead
    if s.pppTeardown then
      { s with
        freed := Function.update s.freed pcb (s.freed pcb + 1) }.callbackReturns
    else
      s.withTcpip (.spared pcb)
  | .spared pcb =>
    if s.link.sessionActive then
      ((s.withLink (s.link.call (.pppListen pcb))).withLife pcb
        .linked).callbackReturns
    else
      s.callbackReturns

def step (s : PcbTasks) : PcbEvent → PcbTasks
  | .other event => s.other event
  | .opened cid handle created => s.opened cid handle created
  | .closed cid => s.closed cid
  | .bt ok => s.btStep ok
  | .output data => s.withLink (pppOutputCb data s.link)
  | .up _ => s.up
  | .down pcb => s.down pcb
  | .tcpip => s.tcpipStep

def boot (linkMode : BtsecMode) : PcbTasks :=
  { link := LinkState.boot linkMode
    phase := fun _ => .free
    pppTeardown := false
    bt := .idle
    tcpip := .idle
    life := fun _ => .dead
    freed := fun _ => 0 }

end PcbTasks

/-! ## A task left alone -/

section Alone

variable {s : PcbTasks} {cid handle : UInt16}

/-- PPP starts on a channel. -/
theorem opened_alone (btIdle : s.bt = .idle) (tcpipIdle : s.tcpip = .idle) :
    (run PcbTasks.step s [.opened cid handle true, .bt true]).world =
      s.world.step (.opened cid 0 handle true true) := by
  simp only [run_cons, run_nil, PcbTasks.step, PcbTasks.opened, btIdle,
    tcpipIdle, and_self, if_true]
  simp only [PcbTasks.btStep, PcbTasks.withBt, PcbTasks.withLink, if_true]
  rfl

/-- There is no memory for a pcb. -/
theorem notCreated_alone (listens : Bool) (btIdle : s.bt = .idle)
    (tcpipIdle : s.tcpip = .idle) :
    (s.step (.opened cid handle false)).world =
      s.world.step (.opened cid 0 handle false listens) := by
  simp only [PcbTasks.step, PcbTasks.opened, btIdle, tcpipIdle, and_self,
    if_true]
  rfl

/-- `pppapi_listen` fails, and the close of the pcb calls back. -/
theorem notListening_alone (btIdle : s.bt = .idle) (tcpipIdle : s.tcpip = .idle) :
    (run PcbTasks.step s
        [.opened cid handle true, .bt false, .bt true, .bt true, .tcpip,
          .bt true, .bt true]).world.quiet =
      (run World.step s.world
        [.opened cid 0 handle true false,
          .pppStatus s.link.pcbs false]).quiet := by
  simp only [run_cons, run_nil, PcbTasks.step, PcbTasks.opened, btIdle,
    tcpipIdle, and_self, if_true]
  simp only [PcbTasks.btStep, PcbTasks.withBt, PcbTasks.withLink, if_true]
  rfl

/-- A session ends, and the close of its pcb calls back. -/
theorem closed_alone {pcb : Nat} (btIdle : s.bt = .idle)
    (tcpipIdle : s.tcpip = .idle) (ours : cid = s.link.activeCid)
    (notHeld : cid ≠ s.link.autoCid) (ppp : s.link.ppp = some pcb) :
    (run PcbTasks.step s
        [.closed cid, .bt true, .bt true, .tcpip, .bt true,
          .bt true]).world.quiet =
      (run World.step s.world [.closed cid, .pppStatus pcb false]).quiet := by
  obtain ⟨link, phase, teardown, bt, tcpip, life, freed⟩ := s
  subst btIdle tcpipIdle ours
  replace ppp : link.ppp = some pcb := ppp
  replace notHeld : ¬link.activeCid = link.autoCid := notHeld
  simp only [run_cons, run_nil, PcbTasks.step, PcbTasks.closed, if_true, ne_eq,
    not_true_eq_false, if_false, notHeld, ppp]
  simp only [World.step, LinkState.step, LinkState.handle, rfcommClosed, ne_eq,
    not_true_eq_false, if_false, notHeld, PcbTasks.world, pppSessionStop,
    LinkState.noSession, ppp]
  rfl

theorem tcpipStep_clear {pcb : Nat} (down : s.tcpip = .down pcb)
    (clear : s.pppTeardown = false) :
    s.tcpipStep = (s.withLife pcb .dead).withTcpip (.spared pcb) := by
  unfold PcbTasks.tcpipStep
  rw [down]
  simp only [PcbTasks.withLife, clear, Bool.false_eq_true, if_false]

theorem tcpipStep_spared {pcb : Nat} (spared : s.tcpip = .spared pcb) :
    s.tcpipStep.world =
      { s.world with
        link :=
          if s.link.sessionActive then s.link.call (.pppListen pcb)
          else s.link } := by
  unfold PcbTasks.tcpipStep
  rw [spared]
  dsimp only
  split
  · rw [PcbTasks.callbackReturns_world]
    rfl
  · rw [PcbTasks.callbackReturns_world]
    rfl

/-- A channel closes that has no pcb. -/
theorem closedWithout_alone (btIdle : s.bt = .idle)
    (without :
      cid ≠ s.link.activeCid ∨ cid = s.link.autoCid ∨ s.link.ppp = none) :
    (s.step (.closed cid)).world = s.world.step (.closed cid) := by
  obtain ⟨link, phase, teardown, bt, tcpip, life, freed⟩ := s
  subst btIdle
  by_cases ours : cid = link.activeCid
  · subst ours
    by_cases held : link.activeCid = link.autoCid
    · simp only [PcbTasks.step, PcbTasks.closed, if_true, ne_eq,
        not_true_eq_false, if_false, World.step, LinkState.step,
        LinkState.handle, rfcommClosed, PcbTasks.world, held]
      rfl
    · have ppp : link.ppp = none := by
        rcases without with foreign | isHeld | none
        · exact absurd rfl foreign
        · exact absurd isHeld held
        · exact none
      simp only [PcbTasks.step, PcbTasks.closed, if_true, ne_eq,
        not_true_eq_false, if_false, World.step, LinkState.step,
        LinkState.handle, rfcommClosed, PcbTasks.world, held, pppSessionStop,
        LinkState.noSession, ppp]
      rfl
  · simp only [PcbTasks.step, PcbTasks.closed, if_true, ne_eq,
      not_false_eq_true, World.step, LinkState.step, LinkState.handle,
      rfcommClosed, PcbTasks.world, ours]
    rfl

/-- A callback starts, and changes nothing else about a pcb that is closed. -/
theorem down_form (pcb : Nat) (tcpipIdle : s.tcpip = .idle) :
    ∃ life, (∀ other, other ≠ pcb → life other = s.life other) ∧
      (life pcb = .closing ↔ s.life pcb = .closing) ∧
      s.down pcb = { s.callDown pcb with life := life } := by
  unfold PcbTasks.down
  rw [if_pos tcpipIdle]
  dsimp only
  split
  · next linked =>
    refine ⟨Function.update s.life pcb .dead, ?_, ?_, rfl⟩
    · exact fun other apart => Function.update_of_ne apart _ _
    · rw [Function.update_self, linked]
      exact ⟨Life.noConfusion, Life.noConfusion⟩
  · exact ⟨s.life, fun _ _ => rfl, Iff.rfl, rfl⟩

/-- A pcb loses its link, and listens again if its channel is open. -/
theorem died_alone {pcb : Nat} (tcpipIdle : s.tcpip = .idle)
    (clear : s.pppTeardown = false) :
    (run PcbTasks.step s [.down pcb, .tcpip, .tcpip]).world.quiet =
      (s.world.step (.pppStatus pcb false)).quiet := by
  obtain ⟨life, _, _, form⟩ := down_form pcb tcpipIdle
  simp only [run_cons, run_nil, PcbTasks.step]
  rw [form,
    tcpipStep_clear (s := { s.callDown pcb with life := life }) rfl clear,
    tcpipStep_spared rfl]
  rw [World.step_same (pppStatusCb_same pcb false _) rfl]
  cases active : s.link.sessionActive with
  | true =>
      simp [World.quiet, PcbTasks.callDown, LinkState.step, LinkState.handle,
        pppStatusCb, LinkState.call, active, PcbTasks.world]
  | false =>
      simp [World.quiet, PcbTasks.callDown, LinkState.step, LinkState.handle,
        pppStatusCb, LinkState.call, active, PcbTasks.world]

theorem up_alone {pcb : Nat} (tcpipIdle : s.tcpip = .idle) :
    (s.step (.up pcb)).world.quiet =
      (s.world.step (.pppStatus pcb true)).quiet := by
  simp only [PcbTasks.step, PcbTasks.up, tcpipIdle, if_true]
  rfl

end Alone

/-! ## What leaves the pcb alone -/

/-- The current pcb stays, and none is created. -/
structure KeepsPcb (s s' : LinkState) : Prop where
  ppp : s'.ppp = s.ppp
  pcbs : s'.pcbs = s.pcbs

section Keeps

variable {s s' : LinkState}

theorem KeepsPpp.keepsPcb (keeps : KeepsPpp s s') : KeepsPcb s s' :=
  ⟨keeps.ppp, keeps.pcbs⟩

theorem SameSession.keepsPcb (same : SameSession s s') :
    KeepsPcb s s' :=
  ⟨same.ppp, same.pcbs⟩

theorem Event.Plain.keepsPcb {event : Event} (plain : event.Plain) :
    KeepsPcb s (s.step event) := by
  have quiet : KeepsPcb s { s with calls := [] } := ⟨rfl, rfl⟩
  suffices stepped : KeepsPcb { s with calls := [] } (s.step event) from
    ⟨stepped.ppp.trans quiet.ppp, stepped.pcbs.trans quiet.pcbs⟩
  cases event with
  | incoming cid handle addr requested =>
      exact (rfcommIncoming_keepsPpp cid handle addr requested _).keepsPcb
  | opened cid status handle created listens =>
      have failed :
          s.step (.opened cid status handle created listens) =
            rfcommOpenFailed cid { s with calls := [] } :=
        if_pos plain
      rw [failed]
      exact (rfcommOpenFailed_keepsPpp cid _).keepsPcb
  | canSendNow cid maxFrameSize sendStatus =>
      exact (rfcommCanSendNow_same maxFrameSize sendStatus _).keepsPcb
  | closed cid => exact plain.elim
  | data channel packet => exact (rfcommData_same channel packet _).keepsPcb
  | nameComplete addr status remoteName =>
      exact (autoNameComplete_keepsPpp addr status remoteName _).keepsPcb
  | securityLevel handle status level =>
      exact (autoSecurityLevel_keepsPpp handle status level _).keepsPcb
  | txNotify => exact (txNotifyCb_same _).keepsPcb
  | pppOutput data => exact (pppOutputCb_same data _).keepsPcb
  | pppStatus pcb up => exact plain.elim

end Keeps

end VeteraBridge.Link

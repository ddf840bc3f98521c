import VeteraBridge.Link.Session

/-!
# The bootstrap

After a pairing the bridge connects once into the phone's own serial service.
The statics of `bt_bootstrap.c` with its SDP, RFCOMM and timer handlers, next to
what they look at: the session of the phone in `gateway.c` and the ACL
connections of BTstack.  A handler is one step of the BTstack task.
-/

namespace VeteraBridge.Bootstrap

open EventRun
open Link (BdAddr)

def bootstrapStartDelayMs : Nat := 1500

def bootstrapHoldMs : Nat := 3000

/-- `BOOTSTRAP_MAX_DONE`, which is `NVM_NUM_LINK_KEYS`. -/
def bootstrapMaxDone : Nat := 16

/-- `boot_state_t`. -/
inductive BootState where
  | bootIdle
  | bootWaitStart
  | bootProbe
  | bootTarget
  | bootConnect
  | bootHold
deriving DecidableEq, Repr

/-- `BLUETOOTH_ATTRIBUTE_PUBLIC_BROWSE_ROOT`. -/
def publicBrowseRoot : UInt16 := 0x1002

/-- The class UUIDs of `target_classes`: Serial Port, then Dial-Up Networking. -/
def targetClasses : List UInt16 := [0x1101, 0x1103]

inductive Call where
  | setTimer (ms : Nat)
  | queryUuid (addr : BdAddr) (uuid : UInt16)
  | queryClass (addr : BdAddr) (uuid : UInt16)
  | createChannel (addr : BdAddr) (channel : UInt8)
  | disconnect (cid : UInt16)
  | gapDisconnect (handle : UInt16)
deriving DecidableEq, Repr

/-- `done_addrs`, as far as `done_count`. -/
structure DoneAddrs where
  addrs : List BdAddr
  fits : addrs.length ≤ bootstrapMaxDone

namespace DoneAddrs

def none : DoneAddrs := ⟨[], Nat.zero_le _⟩

/-- The address is recorded if there is room. -/
def mark (done : DoneAddrs) (addr : BdAddr) : DoneAddrs :=
  if room : done.addrs.length < bootstrapMaxDone then
    ⟨done.addrs ++ [addr], by
      rw [List.length_append]
      exact room⟩
  else
    done

theorem mark_of_room {done : DoneAddrs} (addr : BdAddr)
    (room : done.addrs.length < bootstrapMaxDone) :
    (done.mark addr).addrs = done.addrs ++ [addr] := by
  unfold mark
  rw [dif_pos room]

theorem mark_of_full {done : DoneAddrs} (addr : BdAddr)
    (full : ¬ done.addrs.length < bootstrapMaxDone) : done.mark addr = done := by
  unfold mark
  rw [dif_neg full]

end DoneAddrs

def Call.dropsAcl : Call → Bool
  | .gapDisconnect _ => true
  | _ => false

/-- The statics of `bt_bootstrap.c`. -/
structure Boot where
  bootState : BootState
  bootAddr : BdAddr
  /-- 0: none -/
  targetChannel : UInt8
  targetClassIdx : Nat
  bootCid : UInt16
  /-- `boot_timer` is on the run loop -/
  bootTimer : Bool
  done : DoneAddrs
  /-- the calls of the last step -/
  calls : List Call

/-- `hci_connection_for_bd_addr_and_type`: the handle of an address's ACL. -/
abbrev Acl := BdAddr → Option UInt16

namespace Boot

def call (s : Boot) (c : Call) : Boot := { s with calls := s.calls ++ [c] }

/-- `gap_disconnect` of the ACL of `boot_addr`, if there is one. -/
def dropAcl (acl : Acl) (s : Boot) : Boot :=
  match acl s.bootAddr with
  | some handle => s.call (.gapDisconnect handle)
  | none => s

/-- `boot_reset`. -/
def reset (acl : Acl) (drop : Bool) (s : Boot) : Boot :=
  { if drop then s.dropAcl acl else s with
    bootTimer := false
    bootState := .bootIdle
    targetChannel := 0
    targetClassIdx := 0
    bootCid := 0 }

/-- `addr_already_done`. -/
def addrAlreadyDone (s : Boot) (addr : BdAddr) : Bool :=
  s.done.addrs.contains addr

/-! ## Handlers -/

/-- `RFCOMM_EVENT_CHANNEL_OPENED` of `boot_rfcomm_handler`. -/
def rfcommOpened (acl : Acl) (status : UInt8) (cid : UInt16) (s : Boot) : Boot :=
  if status ≠ 0 then s.reset acl true
  else
    { s with bootCid := cid, bootState := .bootHold, bootTimer := true }.call
      (.setTimer bootstrapHoldMs)

/-- `RFCOMM_EVENT_CHANNEL_CLOSED` of `boot_rfcomm_handler`. -/
def rfcommClosed (acl : Acl) (s : Boot) : Boot := s.reset acl true

/-- `SDP_EVENT_QUERY_RFCOMM_SERVICE`. -/
def sdpService (channel : UInt8) (s : Boot) : Boot :=
  if s.bootState = .bootTarget ∧ s.targetChannel = 0 ∧ channel ≠ 0 then
    { s with targetChannel := channel }
  else
    s

/-- A call that reports an error ends the bootstrap. -/
def unlessError (acl : Acl) (err : UInt8) (s : Boot) : Boot :=
  if err ≠ 0 then s.reset acl true else s

/-- `SDP_EVENT_QUERY_COMPLETE`; `err` and `cid` are what the call it leads to
returns. -/
def sdpComplete (acl : Acl) (status err : UInt8) (cid : UInt16) (s : Boot) :
    Boot :=
  if s.bootState = .bootProbe then
    if status ≠ 0 then s.reset acl true
    else
      ({ s with bootState := .bootTarget, targetClassIdx := 0 }.call
        (.queryClass s.bootAddr 0x1101)).unlessError acl err
  else if s.targetChannel = 0 then
    let s := { s with targetClassIdx := s.targetClassIdx + 1 }
    match targetClasses[s.targetClassIdx]? with
    | some uuid =>
      (s.call (.queryClass s.bootAddr uuid)).unlessError acl err
    | none => s.reset acl true
  else
    ({ s with
      bootState := .bootConnect
      bootCid := cid }.call
        (.createChannel s.bootAddr s.targetChannel)).unlessError acl err

/-- `boot_timer_handler`; `err` is what starting the probe returns. -/
def timerHandler (acl : Acl) (btConnected : Bool) (err : UInt8) (s : Boot) :
    Boot :=
  let s := { s with bootTimer := false }
  match s.bootState with
  | .bootWaitStart =>
    if btConnected then s.reset acl false
    else
      ({ s with bootState := .bootProbe }.call
        (.queryUuid s.bootAddr publicBrowseRoot)).unlessError acl err
  | .bootHold => s.call (.disconnect s.bootCid)
  | _ => s

/-- The bootstrap is started by a pairing. -/
def startsAt (s : Boot) (addr : BdAddr) : Prop :=
  s.bootState = .bootIdle ∧ s.addrAlreadyDone addr = false

instance (s : Boot) (addr : BdAddr) : Decidable (s.startsAt addr) :=
  inferInstanceAs (Decidable (_ ∧ _))

/-- `bt_bootstrap_on_pairing_complete`. -/
def onPairingComplete (addr : BdAddr) (s : Boot) : Boot :=
  if s.startsAt addr then
    { s with
      done := s.done.mark addr
      bootAddr := addr
      bootState := .bootWaitStart
      bootTimer := true }.call (.setTimer bootstrapStartDelayMs)
  else
    s

end Boot

/-! ## Steps -/

/-- The bootstrap with what happens around it. -/
structure World where
  boot : Boot
  /-- `bt_connected` of `gateway.c`: the phone's own session is up -/
  btConnected : Bool
  /-- `bt_handle` of `gateway.c` -/
  btHandle : UInt16
  acl : Acl
  /-- the addresses the bootstrap was started for -/
  started : List BdAddr
  /-- those that found the record full -/
  leftOut : List BdAddr

/-- An event, with what the calls of its handler return. -/
inductive Event where
  | pairingComplete (addr : BdAddr)
  | timer (err : UInt8)
  | sdpService (channel : UInt8)
  | sdpComplete (status err : UInt8) (cid : UInt16)
  | rfcommOpened (status : UInt8) (cid : UInt16)
  | rfcommClosed
  /-- `gw_on_rfcomm_opened` -/
  | phoneOpened (handle : UInt16)
  /-- `gw_on_rfcomm_closed` -/
  | phoneClosed
  | aclConnected (addr : BdAddr) (handle : UInt16)
  | aclDisconnected (addr : BdAddr)
deriving DecidableEq, Repr

namespace World

/-- The bootstrap, before it lists the calls of a step. -/
def quiet (w : World) : Boot := { w.boot with calls := [] }

/-- A pairing, noted if it starts the bootstrap. -/
def pair (addr : BdAddr) (w : World) : World :=
  if w.boot.startsAt addr then
    { w with
      boot := w.quiet.onPairingComplete addr
      started := w.started ++ [addr]
      leftOut :=
        if w.boot.done.addrs.length < bootstrapMaxDone then w.leftOut
        else w.leftOut ++ [addr] }
  else
    { w with boot := w.quiet.onPairingComplete addr }

def step (w : World) : Event → World
  | .pairingComplete addr => w.pair addr
  | .timer err =>
    { w with boot := w.quiet.timerHandler w.acl w.btConnected err }
  | .sdpService channel => { w with boot := w.quiet.sdpService channel }
  | .sdpComplete status err cid =>
    { w with boot := w.quiet.sdpComplete w.acl status err cid }
  | .rfcommOpened status cid =>
    { w with boot := w.quiet.rfcommOpened w.acl status cid }
  | .rfcommClosed => { w with boot := w.quiet.rfcommClosed w.acl }
  | .phoneOpened handle =>
    { w with boot := w.quiet, btConnected := true, btHandle := handle }
  | .phoneClosed =>
    { w with boot := w.quiet, btConnected := false, btHandle := 0xFFFF }
  | .aclConnected addr handle =>
    { w with
      boot := w.quiet
      acl := Function.update w.acl addr (some handle) }
  | .aclDisconnected addr =>
    { w with boot := w.quiet, acl := Function.update w.acl addr none }

def start : World :=
  { boot :=
      { bootState := .bootIdle
        bootAddr := Vector.replicate 6 0
        targetChannel := 0
        targetClassIdx := 0
        bootCid := 0
        bootTimer := false
        done := DoneAddrs.none
        calls := [] }
    btConnected := false
    btHandle := 0xFFFF
    acl := fun _ => none
    started := []
    leftOut := [] }

end World

/-- What BTstack does: the timer fires that is set, a query completes that was
started, the channel opens that is being created and closes that is open, the
phone's session opens on a connection, and a handle that is in use, if only by
a session that has yet to be closed, goes to no other connection. -/
def Possible (w : World) : Event → Prop
  | .pairingComplete _ => True
  | .timer _ => w.boot.bootTimer = true
  | .sdpService _ | .sdpComplete _ _ _ =>
    w.boot.bootState = .bootProbe ∨ w.boot.bootState = .bootTarget
  | .rfcommOpened _ _ => w.boot.bootState = .bootConnect
  | .rfcommClosed => w.boot.bootState = .bootHold
  | .phoneOpened handle =>
    w.btConnected = false ∧ ∃ addr, w.acl addr = some handle
  | .phoneClosed => w.btConnected = true
  | .aclConnected addr handle =>
    w.acl addr = none ∧ (∀ other, w.acl other ≠ some handle) ∧
      (w.btConnected = true → w.btHandle ≠ handle)
  | .aclDisconnected addr => w.acl addr ≠ none

/-! ## What a handler leaves alone -/

/-- The address and the record stay, and at most the ACL of the address goes. -/
structure Onward (acl : Acl) (s s' : Boot) : Prop where
  bootAddr : s'.bootAddr = s.bootAddr
  done : s'.done = s.done
  drops : ∀ handle, .gapDisconnect handle ∈ s'.calls →
    .gapDisconnect handle ∈ s.calls ∨ acl s.bootAddr = some handle

section Handlers

variable {acl : Acl} {s s' s'' : Boot}

theorem Onward.refl (acl : Acl) (s : Boot) : Onward acl s s :=
  ⟨rfl, rfl, fun _ => Or.inl⟩

theorem Onward.trans (first : Onward acl s s') (second : Onward acl s' s'') :
    Onward acl s s'' := by
  refine
    ⟨second.bootAddr.trans first.bootAddr, second.done.trans first.done, ?_⟩
  intro handle called
  rcases second.drops handle called with before | own
  · exact first.drops handle before
  · rw [first.bootAddr] at own
    exact Or.inr own

/-- A call that drops no ACL, whatever else changes. -/
theorem Onward.of_call {c : Call} (bootAddr : s'.bootAddr = s.bootAddr)
    (done : s'.done = s.done) (calls : s'.calls = s.calls ++ [c])
    (plain : c.dropsAcl = false) : Onward acl s s' := by
  refine ⟨bootAddr, done, ?_⟩
  intro handle called
  rw [calls] at called
  rcases List.mem_append.mp called with before | now
  · exact Or.inl before
  · rw [← List.mem_singleton.mp now] at plain
    cases plain

theorem dropAcl_onward (s : Boot) : Onward acl s (s.dropAcl acl) := by
  unfold Boot.dropAcl
  split
  · next handle isHandle =>
    refine ⟨rfl, rfl, ?_⟩
    intro other called
    rcases List.mem_append.mp called with before | now
    · exact Or.inl before
    · obtain rfl : other = handle :=
        Call.gapDisconnect.inj (List.mem_singleton.mp now)
      exact Or.inr isHandle
  · exact Onward.refl acl s

theorem reset_onward (drop : Bool) (s : Boot) :
    Onward acl s (s.reset acl drop) := by
  cases drop with
  | true =>
      obtain ⟨addr, done, drops⟩ := (dropAcl_onward s : Onward acl s _)
      exact ⟨addr, done, drops⟩
  | false => exact ⟨rfl, rfl, fun _ => Or.inl⟩

theorem Onward.unlessError (onward : Onward acl s s') (err : UInt8) :
    Onward acl s (s'.unlessError acl err) := by
  unfold Boot.unlessError
  split
  · exact onward.trans (reset_onward true s')
  · exact onward

theorem rfcommOpened_onward (status : UInt8) (cid : UInt16) (s : Boot) :
    Onward acl s (s.rfcommOpened acl status cid) := by
  unfold Boot.rfcommOpened
  split
  · exact reset_onward true s
  · exact Onward.of_call rfl rfl rfl rfl

theorem sdpService_onward (channel : UInt8) (s : Boot) :
    Onward acl s (s.sdpService channel) := by
  unfold Boot.sdpService
  split
  · exact ⟨rfl, rfl, fun _ => Or.inl⟩
  · exact Onward.refl acl s

theorem sdpComplete_onward (status err : UInt8) (cid : UInt16) (s : Boot) :
    Onward acl s (s.sdpComplete acl status err cid) := by
  unfold Boot.sdpComplete
  split
  · split
    · exact reset_onward true s
    · apply Onward.unlessError
      exact Onward.of_call rfl rfl rfl rfl
  · split
    · have next :
          Onward acl s { s with targetClassIdx := s.targetClassIdx + 1 } :=
        ⟨rfl, rfl, fun _ => Or.inl⟩
      dsimp only
      split
      · apply Onward.unlessError
        exact Onward.of_call rfl rfl rfl rfl
      · exact next.trans (reset_onward true _)
    · apply Onward.unlessError
      exact Onward.of_call rfl rfl rfl rfl

theorem timerHandler_onward (btConnected : Bool) (err : UInt8) (s : Boot) :
    Onward acl s (s.timerHandler acl btConnected err) := by
  have fired : Onward acl s { s with bootTimer := false } :=
    ⟨rfl, rfl, fun _ => Or.inl⟩
  unfold Boot.timerHandler
  dsimp only
  split
  · split
    · exact fired.trans (reset_onward false _)
    · apply Onward.unlessError
      exact Onward.of_call rfl rfl rfl rfl
  · exact Onward.of_call rfl rfl rfl rfl
  · exact fired

/-- Everything but a pairing goes on with the address the bootstrap has. -/
theorem World.step_onward (w : World) {event : Event}
    (noPairing : ∀ addr, event ≠ .pairingComplete addr) :
    Onward w.acl w.quiet (w.step event).boot := by
  cases event with
  | pairingComplete addr => exact absurd rfl (noPairing addr)
  | timer err => exact timerHandler_onward w.btConnected err w.quiet
  | sdpService channel => exact sdpService_onward channel w.quiet
  | sdpComplete status err cid =>
      exact sdpComplete_onward status err cid w.quiet
  | rfcommOpened status cid => exact rfcommOpened_onward status cid w.quiet
  | rfcommClosed => exact reset_onward true w.quiet
  | phoneOpened handle => exact Onward.refl w.acl w.quiet
  | phoneClosed => exact Onward.refl w.acl w.quiet
  | aclConnected addr handle => exact Onward.refl w.acl w.quiet
  | aclDisconnected addr => exact Onward.refl w.acl w.quiet

/-- Such an event drops at most the ACL of the address. -/
theorem World.step_drops (w : World) {event : Event}
    (noPairing : ∀ addr, event ≠ .pairingComplete addr) {handle : UInt16}
    (drops : .gapDisconnect handle ∈ (w.step event).boot.calls) :
    w.acl w.boot.bootAddr = some handle := by
  rcases (w.step_onward noPairing).drops handle drops with before | own
  · cases before
  · exact own

end Handlers

/-! ## Pairings -/

section Pairings

variable {w : World} {addr : BdAddr}

/-- A pairing that starts the bootstrap. -/
theorem step_starts (starts : w.boot.startsAt addr) :
    w.step (.pairingComplete addr) =
      { w with
        boot :=
          { w.quiet with
            done := w.boot.done.mark addr
            bootAddr := addr
            bootState := .bootWaitStart
            bootTimer := true }.call (.setTimer bootstrapStartDelayMs)
        started := w.started ++ [addr]
        leftOut :=
          if w.boot.done.addrs.length < bootstrapMaxDone then w.leftOut
          else w.leftOut ++ [addr] } := by
  have starts' : w.quiet.startsAt addr := starts
  simp only [World.step, World.pair, Boot.onPairingComplete, starts, starts',
    if_true]
  rfl

/-- A pairing that is skipped. -/
theorem step_skips (skips : ¬ w.boot.startsAt addr) :
    w.step (.pairingComplete addr) = { w with boot := w.quiet } := by
  have skips' : ¬ w.quiet.startsAt addr := skips
  simp only [World.step, World.pair, Boot.onPairingComplete, skips, skips',
    if_false]

end Pairings

end VeteraBridge.Bootstrap

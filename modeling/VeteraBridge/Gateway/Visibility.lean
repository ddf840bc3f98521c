import VeteraBridge.Link.Channels

/-!
# Visibility

The bridge hides while a phone's session is open, and shows itself again by a
timer that the end of a session arms.  `ppp_link.c` tells of both by two hooks,
and ends some sessions without either.  Here its RFCOMM handler runs with the
hooks of `gateway.c`.
-/

namespace VeteraBridge.Gateway

open EventRun
open Link (BtsecMode LinkState World ChannelInvariant Sends pppSessionStart)

/-- `HCI_CON_HANDLE_INVALID`. -/
def hciConHandleInvalid : UInt16 := 0xFFFF

/-- The session as `gateway.c` sees it, the switches of GAP and the reopen
timer. -/
structure Visibility where
  btConnected : Bool
  btHandle : UInt16
  discoverable : Bool
  connectable : Bool
  /-- `bt_reopen_timer` is on the list of the run loop -/
  reopenTimer : Bool
deriving DecidableEq, Repr

namespace Visibility

/-- As `bt_setup` leaves it. -/
def btSetup : Visibility where
  btConnected := false
  btHandle := hciConHandleInvalid
  discoverable := true
  connectable := true
  reopenTimer := false

def btSetVisible (v : Bool) (s : Visibility) : Visibility :=
  { s with discoverable := v, connectable := v }

def btReopenTimerHandler (s : Visibility) : Visibility :=
  if s.btConnected then s else s.btSetVisible true

def gwOnRfcommOpened (conHandle : UInt16) (s : Visibility) : Visibility :=
  { s with btConnected := true, btHandle := conHandle }.btSetVisible false

/-- `gw_on_rfcomm_closed`, but for the app state and `bt_rssi`: the timer is
taken off the list and put there anew. -/
def gwOnRfcommClosed (s : Visibility) : Visibility :=
  { s with
    btConnected := false
    btHandle := hciConHandleInvalid
    reopenTimer := true }

/-- The run loop takes the timer off its list and calls its handler. -/
def timerFires (s : Visibility) : Visibility :=
  if s.reopenTimer then { s with reopenTimer := false }.btReopenTimerHandler
  else s

/-- A call of `ppp_link.c`. -/
def hook (s : Visibility) : Link.Call → Visibility
  | .gwOnRfcommOpened handle => s.gwOnRfcommOpened handle
  | .gwOnRfcommClosed => s.gwOnRfcommClosed
  | _ => s

def Visible (s : Visibility) : Prop :=
  s.discoverable = true ∧ s.connectable = true

def Hidden (s : Visibility) : Prop :=
  s.discoverable = false ∧ s.connectable = false

/-- Hidden during a session, and otherwise visible or about to be. -/
structure Reopens (s : Visibility) : Prop where
  hidden : s.btConnected = true → s.Hidden
  reopens : s.btConnected = false → s.Visible ∨ s.reopenTimer = true

section Reopens

variable {s : Visibility}

theorem btSetup_reopens : btSetup.Reopens where
  hidden := fun connected => by cases connected
  reopens := fun _ => Or.inl ⟨rfl, rfl⟩

theorem gwOnRfcommOpened_reopens (conHandle : UInt16) (s : Visibility) :
    (s.gwOnRfcommOpened conHandle).Reopens where
  hidden := fun _ => ⟨rfl, rfl⟩
  reopens := fun free => by cases free

theorem gwOnRfcommClosed_reopens (s : Visibility) :
    s.gwOnRfcommClosed.Reopens where
  hidden := fun connected => by cases connected
  reopens := fun _ => Or.inr rfl

theorem Reopens.hook (reopens : s.Reopens) (c : Link.Call) :
    (s.hook c).Reopens := by
  cases c with
  | gwOnRfcommOpened handle =>
      exact gwOnRfcommOpened_reopens handle s
  | gwOnRfcommClosed =>
      exact gwOnRfcommClosed_reopens s
  | _ =>
      exact reopens

theorem Reopens.hooks (reopens : s.Reopens) (calls : List Link.Call) :
    (calls.foldl Visibility.hook s).Reopens := by
  induction calls generalizing s with
  | nil =>
      exact reopens
  | cons c rest inductionHypothesis =>
      exact inductionHypothesis (reopens.hook c)

theorem timerFires_connected (s : Visibility) :
    s.timerFires.btConnected = s.btConnected := by
  unfold timerFires btReopenTimerHandler
  split_ifs
  · rfl
  · rfl
  · rfl

/-- A timer that fires during a session shows nothing. -/
theorem Reopens.timerFires (reopens : s.Reopens) : s.timerFires.Reopens := by
  unfold Visibility.timerFires btReopenTimerHandler
  split_ifs with armed connected
  · refine ⟨reopens.hidden, fun free => ?_⟩
    cases connected.symm.trans free
  · refine ⟨fun isConnected => ?_, fun _ => Or.inl ⟨rfl, rfl⟩⟩
    exact absurd isConnected connected
  · exact reopens

/-- Without a session, the timer leaves the bridge visible. -/
theorem Reopens.visible_of_timer (reopens : s.Reopens)
    (free : s.btConnected = false) : s.timerFires.Visible := by
  unfold Visibility.timerFires btReopenTimerHandler
  split_ifs with armed connected
  · cases free.symm.trans connected
  · exact ⟨rfl, rfl⟩
  · exact (reopens.reopens free).resolve_right armed

end Reopens

end Visibility

/-! ## With the link -/

/-- The link, and the bridge as phones see it. -/
structure PhoneLink extends World where
  visibility : Visibility

inductive PhoneEvent where
  | link (event : Link.Event)
  | reopenTimer
deriving DecidableEq, Repr

namespace PhoneLink

/-- After `bt_setup`. -/
def boot (linkMode : BtsecMode) : PhoneLink :=
  { World.boot linkMode with visibility := Visibility.btSetup }

def step (s : PhoneLink) : PhoneEvent → PhoneLink
  | .link event =>
    let w := s.toWorld.step event
    { w with visibility := w.link.calls.foldl Visibility.hook s.visibility }
  | .reopenTimer => { s with visibility := s.visibility.timerFires }

/-- What BTstack sends. -/
def Possible (s : PhoneLink) : PhoneEvent → Prop
  | .link event => Sends s.toWorld event
  | .reopenTimer => True

theorem step_reopens {s : PhoneLink} (reopens : s.visibility.Reopens)
    (event : PhoneEvent) : (s.step event).visibility.Reopens := by
  cases event with
  | link event => exact reopens.hooks _
  | reopenTimer => exact reopens.timerFires

theorem run_reopens (linkMode : BtsecMode) (events : List PhoneEvent) :
    (run step (boot linkMode) events).visibility.Reopens :=
  run_invariant (fun s : PhoneLink => s.visibility.Reopens)
    (fun _ event reopens => step_reopens reopens event)
    Visibility.btSetup_reopens events

end PhoneLink

/-! ## The session the bridge hides for -/

section Hooks

variable {s : LinkState}

/-- `ppp_link.c` tells of a session. -/
def isHook : Link.Call → Bool
  | .gwOnRfcommOpened _ | .gwOnRfcommClosed => true
  | _ => false

/-- The calls that tell of a session. -/
def hookCalls (s : LinkState) : List Link.Call := s.calls.filter isHook

theorem foldl_hook (calls : List Link.Call) (v : Visibility) :
    calls.foldl Visibility.hook v =
      (calls.filter isHook).foldl Visibility.hook v := by
  induction calls generalizing v with
  | nil => rfl
  | cons c rest inductionHypothesis =>
      cases isHooked : isHook c with
      | true =>
          rw [List.filter_cons_of_pos isHooked, List.foldl_cons, List.foldl_cons,
            inductionHypothesis]
      | false =>
          have same : v.hook c = v := by
            cases c with
            | gwOnRfcommOpened handle => cases isHooked
            | gwOnRfcommClosed => cases isHooked
            | _ => rfl
          rw [List.filter_cons_of_neg (by simp [isHooked]), List.foldl_cons, same,
            inductionHypothesis]

theorem hookCalls_call (s : LinkState) {c : Link.Call}
    (plain : isHook c = false) : hookCalls (s.call c) = hookCalls s := by
  simp [hookCalls, LinkState.call, plain]

theorem autoDecide_hookCalls (name : Option (List UInt8)) (s : LinkState) :
    hookCalls (Link.autoDecide name s) = hookCalls s := by
  unfold Link.autoDecide
  dsimp only
  split
  · exact hookCalls_call _ rfl
  · exact hookCalls_call _ rfl

theorem rfcommIncoming_hookCalls (cid handle : UInt16) (addr : Link.BdAddr)
    (requested : Bool) (s : LinkState) :
    hookCalls (Link.rfcommIncoming cid handle addr requested s) =
      hookCalls s := by
  unfold Link.rfcommIncoming
  split
  · exact hookCalls_call _ rfl
  · dsimp only
    split
    · unfold Link.autoBegin
      dsimp only
      split
      · exact hookCalls_call _ rfl
      · exact (autoDecide_hookCalls _ _).trans (hookCalls_call _ rfl)
    · exact hookCalls_call _ rfl

theorem rfcommOpenFailed_hookCalls (cid : UInt16) (s : LinkState) :
    hookCalls (Link.rfcommOpenFailed cid s) = hookCalls s := by
  unfold Link.rfcommOpenFailed
  dsimp only
  split_ifs
  · rfl
  · rfl
  · rfl
  · rfl

theorem rfcommCanSendNow_hookCalls (maxFrameSize : UInt16) (sendStatus : UInt8)
    (s : LinkState) :
    hookCalls (Link.rfcommCanSendNow maxFrameSize sendStatus s) =
      hookCalls s := by
  have chunk :
      hookCalls (Link.sendChunk maxFrameSize sendStatus s) = hookCalls s := by
    unfold Link.sendChunk
    dsimp only
    split_ifs
    · rfl
    · exact hookCalls_call _ rfl
    · exact hookCalls_call _ rfl
  unfold Link.rfcommCanSendNow
  split
  · rfl
  · split
    · unfold Link.sendReply
      dsimp only
      split
      · exact hookCalls_call _ rfl
      · exact (hookCalls_call _ rfl).trans (hookCalls_call _ rfl)
    · dsimp only
      split
      · exact (hookCalls_call _ rfl).trans chunk
      · exact chunk

theorem prePppHandshake_hookCalls (packet : List UInt8) (cid : UInt16)
    (s : LinkState) :
    hookCalls (Link.prePppHandshake packet cid s).2 = hookCalls s := by
  unfold Link.prePppHandshake
  dsimp only
  split_ifs
  · rfl
  · rfl
  · exact hookCalls_call _ rfl
  · rfl

theorem rfcommData_hookCalls (channel : UInt16) (packet : List UInt8)
    (s : LinkState) :
    hookCalls (Link.rfcommData channel packet s) = hookCalls s := by
  have handshake := prePppHandshake_hookCalls packet channel s
  unfold Link.rfcommData
  split
  · split
    · dsimp only
      split
      · exact handshake
      · exact (hookCalls_call _ rfl).trans handshake
    · rfl
  · rfl

theorem pppOutputCb_hookCalls (data : List UInt8) (s : LinkState) :
    hookCalls (Link.pppOutputCb data s) = hookCalls s := by
  unfold Link.pppOutputCb
  split
  · rfl
  · dsimp only
    split
    · rfl
    · exact hookCalls_call _ rfl

theorem pppStatusCb_hookCalls (pcb : Nat) (up : Bool) (s : LinkState) :
    hookCalls (Link.pppStatusCb pcb up s) = hookCalls s := by
  unfold Link.pppStatusCb
  dsimp only
  split_ifs
  · exact (hookCalls_call _ rfl).trans (hookCalls_call _ rfl)
  · exact (hookCalls_call _ rfl).trans
      ((hookCalls_call _ rfl).trans (hookCalls_call _ rfl))
  · exact (hookCalls_call _ rfl).trans (hookCalls_call _ rfl)

theorem autoFail_hookCalls (s : LinkState) :
    hookCalls (Link.autoFail s) = hookCalls s := by
  unfold Link.autoFail
  dsimp only
  split
  · exact hookCalls_call _ rfl
  · exact hookCalls_call _ rfl

/-- Only a channel that has opened or closes is told of. -/
theorem hookCalls_step (s : LinkState) (event : Link.Event)
    (notOpened : ∀ cid handle created listens,
      event ≠ .opened cid 0 handle created listens)
    (notClosed : ∀ cid, event ≠ .closed cid) :
    hookCalls (s.step event) = [] := by
  have quiet : hookCalls { s with calls := [] } = [] := rfl
  cases event with
  | incoming cid handle addr requested =>
      exact rfcommIncoming_hookCalls cid handle addr requested _
  | opened cid status handle created listens =>
      have failed : status ≠ 0 := by
        rintro rfl
        exact notOpened cid handle created listens rfl
      rw [LinkState.step, LinkState.handle, Link.rfcommOpened, if_pos failed,
        rfcommOpenFailed_hookCalls, quiet]
  | canSendNow cid maxFrameSize sendStatus =>
      exact rfcommCanSendNow_hookCalls maxFrameSize sendStatus _
  | closed cid => exact absurd rfl (notClosed cid)
  | data channel packet => exact rfcommData_hookCalls channel packet _
  | nameComplete addr status remoteName =>
      rw [LinkState.step, LinkState.handle, Link.autoNameComplete]
      split_ifs
      · rfl
      · rfl
      · rfl
      · exact autoDecide_hookCalls _ _
      · exact autoDecide_hookCalls _ _
  | securityLevel handle status level =>
      rw [LinkState.step, LinkState.handle, Link.autoSecurityLevel]
      split_ifs
      · rfl
      · rfl
      · rfl
      · exact autoFail_hookCalls _
      · exact hookCalls_call _ rfl
  | txNotify =>
      rw [LinkState.step, LinkState.handle, Link.txNotifyCb]
      dsimp only
      split
      · exact hookCalls_call _ rfl
      · rfl
  | pppOutput data => exact pppOutputCb_hookCalls data _
  | pppStatus pcb up => exact pppStatusCb_hookCalls pcb up _

/-- The pcb stays while nothing is told. -/
theorem ppp_step (s : LinkState) (event : Link.Event)
    (notOpened : ∀ cid handle created listens,
      event ≠ .opened cid 0 handle created listens)
    (notClosed : ∀ cid, event ≠ .closed cid) :
    (s.step event).ppp = s.ppp := by
  cases event with
  | incoming cid handle addr requested =>
      exact (Link.rfcommIncoming_keepsPpp cid handle addr requested _).ppp
  | opened cid status handle created listens =>
      have failed : status ≠ 0 := by
        rintro rfl
        exact notOpened cid handle created listens rfl
      rw [LinkState.step, LinkState.handle, Link.rfcommOpened, if_pos failed]
      exact (Link.rfcommOpenFailed_keepsPpp cid _).ppp
  | canSendNow cid maxFrameSize sendStatus =>
      exact (Link.rfcommCanSendNow_same maxFrameSize sendStatus _).ppp
  | closed cid => exact absurd rfl (notClosed cid)
  | data channel packet => exact (Link.rfcommData_same channel packet _).ppp
  | nameComplete addr status remoteName =>
      exact (Link.autoNameComplete_keepsPpp addr status remoteName _).ppp
  | securityLevel handle status level =>
      exact (Link.autoSecurityLevel_keepsPpp handle status level _).ppp
  | txNotify => exact (Link.txNotifyCb_same _).ppp
  | pppOutput data => exact (Link.pppOutputCb_same data _).ppp
  | pppStatus pcb up => exact (Link.pppStatusCb_same pcb up _).ppp

/-- A channel that opens is told of if PPP starts on it. -/
theorem opened_hookCalls (s : LinkState) (cid handle : UInt16)
    (created listens : Bool) :
    (hookCalls (s.step (.opened cid 0 handle created listens)) =
        [.gwOnRfcommOpened handle] ∧
      (s.step (.opened cid 0 handle created listens)).ppp ≠ none) ∨
    (hookCalls (s.step (.opened cid 0 handle created listens)) = [] ∧
      (s.step (.opened cid 0 handle created listens)).ppp = none) := by
  rw [LinkState.step, LinkState.handle, Link.rfcommOpened, if_neg (by simp)]
  unfold pppSessionStart
  cases created with
  | true =>
      cases listens with
      | true => exact Or.inl ⟨rfl, by rintro ⟨⟩⟩
      | false => exact Or.inr ⟨rfl, rfl⟩
  | false => exact Or.inr ⟨rfl, rfl⟩

/-- A session that ends is told of, if it was not one that auto mode held. -/
theorem closed_hookCalls (s : LinkState) (cid : UInt16) :
    (hookCalls (s.step (.closed cid)) = [.gwOnRfcommClosed] ∧
      (s.step (.closed cid)).ppp = none ∧ cid = s.activeCid ∧
        cid ≠ s.autoCid) ∨
    (hookCalls (s.step (.closed cid)) = [] ∧
      (s.step (.closed cid)).ppp = s.ppp ∧
        (cid ≠ s.activeCid ∨ cid = s.autoCid)) := by
  rw [LinkState.step, LinkState.handle, Link.rfcommClosed]
  split_ifs with foreign held
  · exact Or.inr ⟨rfl, rfl, Or.inl foreign⟩
  · exact Or.inr ⟨rfl, rfl, Or.inr held⟩
  · refine Or.inl ⟨?_, ?_, not_not.mp foreign, held⟩
    · unfold Link.pppSessionStop
      dsimp only
      split
      · rfl
      · rfl
    · unfold Link.pppSessionStop
      dsimp only
      split
      · rfl
      · assumption

end Hooks

namespace PhoneLink

/-- A session is known exactly while PPP has a pcb. -/
structure Known (s : PhoneLink) : Prop where
  channels : ChannelInvariant s.toWorld
  connected : s.visibility.btConnected = true ↔ s.link.ppp ≠ none

theorem step_visibility (s : PhoneLink) (event : Link.Event) :
    (s.step (.link event)).visibility =
      (hookCalls (s.link.step event)).foldl Visibility.hook s.visibility :=
  foldl_hook _ _

theorem step_reopenTimer (s : PhoneLink) :
    (s.step .reopenTimer).visibility = s.visibility.timerFires := rfl

variable {s : PhoneLink}

/-- The session of an open channel. -/
theorem Known.opened (known : s.Known)
    (connected : s.visibility.btConnected = true) :
    s.phase s.link.activeCid = .opened :=
  (Link.Agree.ppp known.channels (known.connected.mp connected)).2

theorem Known.notHeld (known : s.Known)
    (connected : s.visibility.btConnected = true) :
    s.link.activeCid ≠ s.link.autoCid := by
  intro same
  have real := (Link.Agree.ppp known.channels (known.connected.mp connected)).1
  exact known.connected.mp connected
    (Link.Agree.noPppHeld known.channels (same ▸ real))

theorem Known.step (known : s.Known) {event : PhoneEvent}
    (possible : s.Possible event) : (s.step event).Known := by
  cases event with
  | reopenTimer =>
      refine ⟨known.channels, ?_⟩
      show s.visibility.timerFires.btConnected = true ↔ _
      rw [Visibility.timerFires_connected]
      exact known.connected
  | link event =>
      refine ⟨known.channels.step possible, ?_⟩
      rw [step_visibility]
      show _ ↔ (s.link.step event).ppp ≠ none
      by_cases isOpened :
          ∃ cid handle created listens,
            event = .opened cid 0 handle created listens
      · obtain ⟨cid, handle, created, listens, rfl⟩ := isOpened
        rcases opened_hookCalls s.link cid handle created listens with
          ⟨told, some⟩ | ⟨told, none⟩
        · rw [told]
          exact iff_of_true rfl some
        · -- a channel on its way finds no session
          have accepted : s.phase cid = .accepted := by
            simpa [Possible, Sends] using possible
          have notOpened : s.phase s.link.activeCid ≠ .opened := by
            rw [← Link.Agree.accepted known.channels cid accepted, accepted]
            rintro ⟨⟩
          rw [told, none]
          have free : ¬ s.visibility.btConnected = true :=
            fun connected => notOpened (known.opened connected)
          exact iff_of_false free (fun some => some rfl)
      · by_cases isClosed : ∃ cid, event = .closed cid
        · obtain ⟨cid, rfl⟩ := isClosed
          rcases closed_hookCalls s.link cid with
            ⟨told, none, _⟩ | ⟨told, same, _⟩
          · rw [told, none]
            exact iff_of_false (fun connected => by cases connected)
              (fun some => some rfl)
          · rw [told, same]
            exact known.connected
        · have notOpened : ∀ cid handle created listens,
              event ≠ .opened cid 0 handle created listens :=
            fun cid handle created listens same =>
              isOpened ⟨cid, handle, created, listens, same⟩
          have notClosed : ∀ cid, event ≠ .closed cid :=
            fun cid same => isClosed ⟨cid, same⟩
          rw [hookCalls_step s.link event notOpened notClosed,
            ppp_step s.link event notOpened notClosed]
          exact known.connected

theorem run_known (linkMode : BtsecMode) {events : List PhoneEvent}
    (possible : Along step Possible (boot linkMode) events) :
    (run step (boot linkMode) events).Known := by
  refine run_invariant_along Known (fun s event known => known.step) ?_ possible
  exact ⟨ChannelInvariant.boot linkMode, by simp [boot, Visibility.btSetup,
    World.boot, LinkState.boot]⟩

/-- The end of its channel and the timer show the bridge after a session. -/
theorem Known.visible_after (known : s.Known)
    (connected : s.visibility.btConnected = true) :
    (run PhoneLink.step s
      [.link (.closed s.link.activeCid), .reopenTimer]).visibility.Visible := by
  rcases closed_hookCalls s.link s.link.activeCid with
    ⟨told, _⟩ | ⟨_, _, foreign | held⟩
  · rw [run_cons, run_cons, run_nil]
    have after := step_visibility s (.closed s.link.activeCid)
    rw [told] at after
    rw [step_reopenTimer, after]
    exact (Visibility.gwOnRfcommClosed_reopens s.visibility).visible_of_timer
      rfl
  · exact absurd rfl foreign
  · exact absurd held (known.notHeld connected)

end PhoneLink

/-- Whatever happens on the link and whenever the timer fires, the bridge is
hidden during a session, and otherwise is visible or becomes so by the timer.
As BTstack sends events, the session hidden for is that of an open channel,
after whose end the timer shows the bridge. -/
theorem hidden_or_reopens (linkMode : BtsecMode) :
    (∀ events : List PhoneEvent,
      let s := run PhoneLink.step (PhoneLink.boot linkMode) events
      (s.visibility.btConnected = true → s.visibility.Hidden) ∧
        (s.visibility.btConnected = false →
          (s.visibility.Visible ∨ s.visibility.reopenTimer = true) ∧
            (s.step .reopenTimer).visibility.Visible)) ∧
      ∀ events : List PhoneEvent,
        Along PhoneLink.step PhoneLink.Possible (PhoneLink.boot linkMode)
            events →
          let s := run PhoneLink.step (PhoneLink.boot linkMode) events
          s.visibility.btConnected = true →
            s.phase s.link.activeCid = .opened ∧
              s.Possible (.link (.closed s.link.activeCid)) ∧
              (run PhoneLink.step s
                [.link (.closed s.link.activeCid),
                  .reopenTimer]).visibility.Visible := by
  constructor
  · intro events s
    have reopens := PhoneLink.run_reopens linkMode events
    exact ⟨reopens.hidden, fun free =>
      ⟨reopens.reopens free, reopens.visible_of_timer free⟩⟩
  · intro events possible s connected
    have known := PhoneLink.run_known linkMode possible
    have opened := known.opened connected
    refine ⟨opened, ?_, known.visible_after connected⟩
    show s.phase s.link.activeCid ≠ .free
    rw [opened]
    rintro ⟨⟩

/-- A phone dials in while the timer of an earlier session is armed. -/
def dialsAgain : List PhoneEvent :=
  let addr : Link.BdAddr := Vector.replicate 6 1
  [.link (.incoming 1 7 addr true), .link (.opened 1 0 7 true true),
    .link (.closed 1), .link (.incoming 2 8 addr true),
    .link (.opened 2 0 8 true true), .reopenTimer]

theorem hidden_or_reopens_again :
    (run PhoneLink.step (PhoneLink.boot .btsecOff)
      dialsAgain).visibility.Hidden ∧
    (run PhoneLink.step (PhoneLink.boot .btsecOff) dialsAgain).phase 2 =
      .opened := by
  have possible : Along PhoneLink.step PhoneLink.Possible
      (PhoneLink.boot .btsecOff) dialsAgain := by
    refine ⟨⟨by decide, id⟩, ?_, ?_, ⟨by decide, id⟩, ?_, trivial, trivial⟩
    · show Link.Phase.accepted = .accepted
      rfl
    · show Link.Phase.opened ≠ .free
      decide
    · show Link.Phase.accepted = .accepted
      rfl
  exact ⟨((hidden_or_reopens .btsecOff).1 dialsAgain).1 rfl,
    ((hidden_or_reopens .btsecOff).2 dialsAgain possible rfl).1⟩

end VeteraBridge.Gateway

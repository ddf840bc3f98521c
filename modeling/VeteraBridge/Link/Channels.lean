import VeteraBridge.Link.AutoSecurity

/-!
# Channels and the session

BTstack gives every channel an id and tells when it comes in, opens and closes.
The handlers keep one session: `session_active`, `active_cid`, `auto_cid` and
`ppp` agree after every event, and the events of other channels leave them
alone.
-/

namespace VeteraBridge.Link

open EventRun

/-! ## Channels -/

/-- What has become of a channel id. -/
inductive Phase where
  /-- not in use -/
  | free
  /-- come in, and not answered yet -/
  | offered
  | accepted
  | declined
  | opened
  /-- the opening failed -/
  | failed
deriving DecidableEq, Repr

/-- The id stands for a channel that may still open or is open. -/
def Phase.InUse : Phase → Prop
  | .offered | .accepted | .opened => True
  | .free | .declined | .failed => False

/-- The link with the channels of BTstack. -/
structure World where
  link : LinkState
  phase : UInt16 → Phase

/-- What an event says about its channel. -/
def noteEvent (phase : UInt16 → Phase) : Event → UInt16 → Phase
  | .incoming cid _ _ _ => Function.update phase cid .offered
  | .opened cid status _ _ _ =>
    Function.update phase cid (if status = 0 then .opened else .failed)
  | .closed cid => Function.update phase cid .free
  | _ => phase

/-- What an answer of the bridge makes of a channel. -/
def noteCall (phase : UInt16 → Phase) : Call → UInt16 → Phase
  | .acceptConnection cid => Function.update phase cid .accepted
  | .declineConnection cid => Function.update phase cid .declined
  | _ => phase

namespace World

def step (w : World) (event : Event) : World :=
  let link := w.link.step event
  { link := link
    phase := link.decisions.foldl noteCall (noteEvent w.phase event) }

def boot (linkMode : BtsecMode) : World :=
  { link := LinkState.boot linkMode
    phase := fun _ => .free }

/-- A world, but for the calls of its last step. -/
def quiet (w : World) : World :=
  { w with link := { w.link with calls := [] } }

end World

/-- What BTstack sends: an id that is not in use comes in; only an accepted
channel opens, and only one that has not opened fails to; a channel closes that
has come in. -/
def Sends (w : World) : Event → Prop
  | .incoming cid _ _ _ => cid ≠ 0 ∧ ¬ (w.phase cid).InUse
  | .opened cid status _ _ _ =>
    if status = 0 then w.phase cid = .accepted
    else
      w.phase cid = .offered ∨ w.phase cid = .accepted ∨
        w.phase cid = .declined
  | .closed cid => w.phase cid ≠ .free
  | _ => True

/-- A channel that fails to open has come in and has not opened. -/
theorem Sends.notOpened {w : World} {cid handle : UInt16} {status : UInt8}
    {created listens : Bool} (failed : status ≠ 0)
    (sends : Sends w (.opened cid status handle created listens)) :
    w.phase cid ≠ .free ∧ w.phase cid ≠ .opened := by
  simp only [Sends, failed, if_false] at sends
  rcases sends with offered | accepted | declined
  · simp [offered]
  · simp [accepted]
  · simp [declined]

/-! ## The session -/

/-- The statics of the session agree. -/
structure OneSession (s : LinkState) : Prop where
  active : s.sessionActive = true ↔ s.activeCid ≠ 0
  held : s.autoCid = 0 ∨ s.autoCid = s.activeCid
  ppp : s.ppp ≠ none → s.sessionActive = true

/-- The channel an RFCOMM event or packet is about. -/
def Event.channel : Event → Option UInt16
  | .incoming cid _ _ _ => some cid
  | .opened cid _ _ _ _ => some cid
  | .canSendNow cid _ _ => some cid
  | .closed cid => some cid
  | .data channel _ => some channel
  | _ => none

/-- An incoming channel that finds a session is declined, and what happens to
another channel does not feed PPP, stop the session or release the hold. -/
structure KeepsOut (s : LinkState) (event : Event) : Prop where
  declined : ∀ cid handle addr requested,
    event = .incoming cid handle addr requested → s.sessionActive = true →
      .declineConnection cid ∈ (s.step event).calls
  feedsNothing : ∀ cid, event.channel = some cid → cid ≠ s.activeCid →
    ∀ pcb data, .pppInput pcb data ∉ (s.step event).calls
  stopsNothing : ∀ cid, event.channel = some cid → cid ≠ s.activeCid →
    s.sessionActive = true →
      (s.step event).sessionActive = true ∧
        (s.step event).activeCid = s.activeCid ∧
        (s.step event).ppp = s.ppp ∧
        ∀ pcb, .pppClose pcb ∉ (s.step event).calls
  releasesNothing : ∀ cid, event.channel = some cid → cid ≠ s.activeCid →
    s.autoCid ≠ 0 →
      (s.step event).autoCid = s.autoCid ∧
        (s.step event).autoSecPending = s.autoSecPending

/-! ## What a step does to the session -/

/-- The statics of the session after a step, and the answer it gives. -/
structure Becomes (s' : LinkState) (active : Bool) (cid held : UInt16)
    (ppp : Option Nat) (decisions : List Call) : Prop where
  active : s'.sessionActive = active
  cid : s'.activeCid = cid
  held : s'.autoCid = held
  ppp : s'.ppp = ppp
  decisions : s'.decisions = decisions

/-- Everything a step can do to the session. -/
inductive SessionStep (s s' : LinkState) : Event → Prop where
  | keeps {event : Event} (unnoted : ∀ phase, noteEvent phase event = phase)
      (becomes : Becomes s' s.sessionActive s.activeCid s.autoCid s.ppp []) :
      SessionStep s s' event
  | declines {cid handle : UInt16} {addr : BdAddr} {requested : Bool}
      (busy : s.sessionActive = true)
      (becomes :
        Becomes s' true s.activeCid s.autoCid s.ppp [.declineConnection cid]) :
      SessionStep s s' (.incoming cid handle addr requested)
  | holds {cid handle : UInt16} {addr : BdAddr} {requested : Bool}
      (free : s.sessionActive = false)
      (becomes : Becomes s' true cid cid s.ppp []) :
      SessionStep s s' (.incoming cid handle addr requested)
  | accepts {cid handle : UInt16} {addr : BdAddr} {requested : Bool}
      (free : s.sessionActive = false)
      (becomes : Becomes s' true cid s.autoCid s.ppp [.acceptConnection cid]) :
      SessionStep s s' (.incoming cid handle addr requested)
  | grants {event : Event} (unnoted : ∀ phase, noteEvent phase event = phase)
      (held : s.autoCid ≠ 0)
      (becomes :
        Becomes s' s.sessionActive s.activeCid 0 s.ppp
          [.acceptConnection s.autoCid]) :
      SessionStep s s' event
  | refuses {event : Event} (unnoted : ∀ phase, noteEvent phase event = phase)
      (held : s.autoCid ≠ 0)
      (becomes :
        s.activeCid = s.autoCid →
          Becomes s' false 0 0 s.ppp [.declineConnection s.autoCid]) :
      SessionStep s s' event
  | openFails {cid : UInt16} {status : UInt8} {handle : UInt16}
      {created listens : Bool} (failed : status ≠ 0)
      (ours :
        cid = s.activeCid →
          Becomes s' false 0 (if cid = s.autoCid then 0 else s.autoCid) s.ppp [])
      (foreign :
        cid ≠ s.activeCid → cid ≠ s.autoCid → s.activeCid ≠ 0 →
          Becomes s' s.sessionActive s.activeCid s.autoCid s.ppp [])
      (idle :
        s.activeCid = 0 → cid ≠ s.autoCid →
          Becomes s' false 0 s.autoCid s.ppp []) :
      SessionStep s s' (.opened cid status handle created listens)
  | opens {cid handle : UInt16} {created listens : Bool} (pcb : Nat)
      (becomes :
        Becomes s' s.sessionActive s.activeCid s.autoCid (some pcb) []) :
      SessionStep s s' (.opened cid 0 handle created listens)
  | startFails {cid handle : UInt16} {created listens : Bool}
      (becomes : Becomes s' false 0 s.autoCid none []) :
      SessionStep s s' (.opened cid 0 handle created listens)
  | closes {cid : UInt16}
      (foreign :
        cid ≠ s.activeCid →
          Becomes s' s.sessionActive s.activeCid s.autoCid s.ppp [])
      (held :
        cid = s.activeCid → cid = s.autoCid → Becomes s' false 0 0 s.ppp [])
      (ours :
        cid = s.activeCid → cid ≠ s.autoCid →
          Becomes s' false 0 s.autoCid none []) :
      SessionStep s s' (.closed cid)

section Steps

variable {s s' : LinkState}

theorem SameSession.becomes (same : SameSession { s with calls := [] } s') :
    Becomes s' s.sessionActive s.activeCid s.autoCid s.ppp [] :=
  ⟨same.sessionActive, same.activeCid, same.autoCid, same.ppp, same.decisions⟩

/-- A step of a handler that leaves the session alone. -/
theorem World.step_same {w : World} {event : Event}
    (same : SameSession { w.link with calls := [] } (w.link.step event))
    (unnoted : noteEvent w.phase event = w.phase) :
    w.step event = { w with link := w.link.step event } := by
  have undecided : (w.link.step event).decisions = [] := same.decisions
  simp only [World.step, undecided, unnoted, List.foldl_nil]

theorem autoDecide_becomes (name : Option (List UInt8)) (s : LinkState)
    {event : Event} (unnoted : ∀ phase, noteEvent phase event = phase)
    (held : s.autoCid ≠ 0) :
    SessionStep s (autoDecide name { s with calls := [] }) event := by
  unfold autoDecide
  dsimp only
  split
  · exact SessionStep.keeps unnoted ⟨rfl, rfl, rfl, rfl, rfl⟩
  · exact SessionStep.grants unnoted held ⟨rfl, rfl, rfl, rfl, rfl⟩

theorem autoFail_becomes (s : LinkState) {event : Event}
    (unnoted : ∀ phase, noteEvent phase event = phase) (held : s.autoCid ≠ 0) :
    SessionStep s (autoFail { s with calls := [] }) event := by
  refine SessionStep.refuses unnoted held fun ours => ?_
  have oursNow :
      ((autoRelease { s with calls := [] }).call
        (.declineConnection s.autoCid)).activeCid = s.autoCid := ours
  unfold autoFail
  dsimp only
  rw [if_pos oursNow]
  exact ⟨rfl, rfl, rfl, rfl, rfl⟩

/-- A hold begins, whether or not the name request can be made. -/
theorem autoBegin_becomes (cid handle : UInt16) (addr : BdAddr)
    (requested : Bool) (quiet : s.calls = []) :
    Becomes (autoBegin cid handle addr requested s) s.sessionActive s.activeCid
      cid s.ppp [] := by
  have undecided :
      (autoBegin cid handle addr requested s).decisions = [] := by
    rw [LinkState.decisions, List.filter_eq_nil_iff]
    intro c called
    rw [autoBegin_undecided quiet called]
    exact Bool.false_ne_true
  cases requested with
  | true => exact ⟨rfl, rfl, rfl, rfl, undecided⟩
  | false => exact ⟨rfl, rfl, rfl, rfl, undecided⟩

theorem rfcommOpenFailed_becomes (cid handle : UInt16) {status : UInt8}
    {created listens : Bool} (failed : status ≠ 0) :
    SessionStep s (rfcommOpenFailed cid { s with calls := [] })
      (.opened cid status handle created listens) := by
  unfold rfcommOpenFailed
  refine SessionStep.openFails failed ?_ ?_ ?_
  · intro ours
    dsimp only
    by_cases held : cid = s.autoCid
    · rw [if_pos held, if_pos held, if_pos (Or.inl (by exact ours.symm))]
      exact ⟨rfl, rfl, rfl, rfl, rfl⟩
    · rw [if_neg held, if_neg held, if_pos (Or.inl (by exact ours.symm))]
      exact ⟨rfl, rfl, rfl, rfl, rfl⟩
  · intro foreign notHeld some
    simp only [notHeld, if_false]
    rw [if_neg (not_or.mpr ⟨fun ours => foreign ours.symm, some⟩)]
    exact ⟨rfl, rfl, rfl, rfl, rfl⟩
  · intro none notHeld
    simp only [notHeld, if_false]
    rw [if_pos (Or.inr (by exact none))]
    exact ⟨rfl, rfl, rfl, rfl, rfl⟩

/-- A channel opens, and PPP starts on it or does not. -/
theorem rfcommOpened_becomes (cid handle : UInt16) (created listens : Bool)
    (s : LinkState) :
    SessionStep s
      (rfcommOpened cid 0 handle created listens { s with calls := [] })
      (.opened cid 0 handle created listens) := by
  have undecided :=
    (rfcommOpened_sameHold cid handle created listens
      { s with calls := [] }).decisions
  unfold rfcommOpened pppSessionStart at undecided ⊢
  rw [if_neg (by simp)] at undecided ⊢
  cases created with
  | true =>
      cases listens with
      | true => exact SessionStep.opens s.pcbs ⟨rfl, rfl, rfl, rfl, undecided⟩
      | false => exact SessionStep.startFails ⟨rfl, rfl, rfl, rfl, undecided⟩
  | false => exact SessionStep.startFails ⟨rfl, rfl, rfl, rfl, undecided⟩

theorem pppSessionStop_becomes (s : LinkState) :
    Becomes (pppSessionStop s) false 0 s.autoCid none s.decisions := by
  have undecided := (pppSessionStop_sameHold s).decisions
  unfold pppSessionStop at undecided ⊢
  dsimp only at undecided ⊢
  cases ppp : s.noSession.ppp with
  | none =>
      rw [ppp] at undecided
      exact ⟨rfl, rfl, rfl, ppp, undecided⟩
  | some pcb =>
      rw [ppp] at undecided
      exact ⟨rfl, rfl, rfl, rfl, undecided⟩

theorem step_session (s : LinkState) (event : Event) :
    SessionStep s (s.step event) event := by
  cases event with
  | incoming cid handle addr requested =>
      simp only [LinkState.step, LinkState.handle, rfcommIncoming]
      split
      · next busy =>
        exact SessionStep.declines busy ⟨busy, rfl, rfl, rfl, rfl⟩
      · next idle =>
        have free := Bool.eq_false_iff.mpr idle
        split
        · exact SessionStep.holds free (autoBegin_becomes _ _ _ _ rfl)
        · exact SessionStep.accepts free ⟨rfl, rfl, rfl, rfl, rfl⟩
  | opened cid status handle created listens =>
      by_cases fine : status = 0
      · subst fine
        exact rfcommOpened_becomes cid handle created listens s
      · simp only [LinkState.step, LinkState.handle, rfcommOpened, ne_eq, fine,
          not_false_eq_true, if_true]
        exact rfcommOpenFailed_becomes cid handle fine
  | canSendNow cid maxFrameSize sendStatus =>
      exact
        SessionStep.keeps (fun _ => rfl)
          (rfcommCanSendNow_same maxFrameSize sendStatus _).becomes
  | closed cid =>
      have stopped := pppSessionStop_becomes { s with calls := [] }
      have closed :=
        decisions_call (pppSessionStop { s with calls := [] })
          (c := .gwOnRfcommClosed) rfl
      simp only [LinkState.step, LinkState.handle, rfcommClosed]
      refine SessionStep.closes ?_ ?_ ?_
      · intro foreign
        rw [if_pos foreign]
        exact ⟨rfl, rfl, rfl, rfl, rfl⟩
      · intro ours held
        rw [if_neg (not_not.mpr ours), if_pos held]
        exact ⟨rfl, rfl, rfl, rfl, rfl⟩
      · intro ours notHeld
        rw [if_neg (not_not.mpr ours), if_neg notHeld]
        exact
          ⟨stopped.active, stopped.cid, stopped.held, stopped.ppp,
            closed.trans stopped.decisions⟩
  | data channel packet =>
      exact
        SessionStep.keeps (fun _ => rfl)
          (rfcommData_same channel packet _).becomes
  | nameComplete addr status remoteName =>
      have same : Becomes { s with calls := [] } s.sessionActive s.activeCid
          s.autoCid s.ppp [] := ⟨rfl, rfl, rfl, rfl, rfl⟩
      simp only [LinkState.step, LinkState.handle, autoNameComplete]
      split_ifs with noHold pending foreign failed
      · exact SessionStep.keeps (fun _ => rfl) same
      · exact SessionStep.keeps (fun _ => rfl) same
      · exact SessionStep.keeps (fun _ => rfl) same
      · exact autoDecide_becomes none s (fun _ => rfl) noHold
      · exact autoDecide_becomes _ s (fun _ => rfl) noHold
  | securityLevel handle status level =>
      have same : Becomes { s with calls := [] } s.sessionActive s.activeCid
          s.autoCid s.ppp [] := ⟨rfl, rfl, rfl, rfl, rfl⟩
      simp only [LinkState.step, LinkState.handle, autoSecurityLevel]
      split_ifs with noHold idle foreign weak
      · exact SessionStep.keeps (fun _ => rfl) same
      · exact SessionStep.keeps (fun _ => rfl) same
      · exact SessionStep.keeps (fun _ => rfl) same
      · exact autoFail_becomes s (fun _ => rfl) noHold
      · exact
          SessionStep.grants (fun _ => rfl) noHold ⟨rfl, rfl, rfl, rfl, rfl⟩
  | txNotify =>
      exact SessionStep.keeps (fun _ => rfl) (txNotifyCb_same _).becomes
  | pppOutput data =>
      exact SessionStep.keeps (fun _ => rfl) (pppOutputCb_same data _).becomes
  | pppStatus pcb up =>
      exact SessionStep.keeps (fun _ => rfl) (pppStatusCb_same pcb up _).becomes

end Steps

/-! ## The invariant -/

/-- What the session says about the channels. -/
structure Agree (active : Bool) (cid held : UInt16) (ppp : Option Nat)
    (phase : UInt16 → Phase) : Prop where
  active : active = true ↔ cid ≠ 0
  held : held ≠ 0 → held = cid ∧ phase held = .offered
  ppp : ppp ≠ none → cid ≠ 0 ∧ phase cid = .opened
  inUse : cid ≠ 0 → (phase cid).InUse
  /-- an accepted channel that has not opened yet is the active one -/
  accepted : ∀ other, phase other = .accepted → other = cid
  noZero : phase 0 = .free

def ChannelInvariant (w : World) : Prop :=
  Agree w.link.sessionActive w.link.activeCid w.link.autoCid w.link.ppp w.phase

section Invariant

variable {active : Bool} {cid held : UInt16} {ppp : Option Nat}
  {phase : UInt16 → Phase}

theorem Agree.oneSession {s : LinkState}
    (agree : Agree s.sessionActive s.activeCid s.autoCid s.ppp phase) :
    OneSession s := by
  refine ⟨agree.active, ?_, ?_⟩
  · by_cases held : s.autoCid = 0
    · exact Or.inl held
    · exact Or.inr (agree.held held).1
  · intro some
    exact agree.active.mpr (agree.ppp some).1

/-- Without a session there is no hold, no pcb, and no channel on its way. -/
theorem Agree.of_free (agree : Agree false cid held ppp phase) :
    cid = 0 ∧ held = 0 ∧ ppp = none ∧ ∀ other, phase other ≠ .accepted := by
  have none : cid = 0 := by
    by_contra some
    exact absurd (agree.active.mpr some) Bool.false_ne_true
  refine ⟨none, ?_, ?_, ?_⟩
  · by_contra some
    exact some ((agree.held some).1.trans none)
  · by_contra some
    exact (agree.ppp some).1 none
  · intro other accepted
    obtain rfl : other = 0 := (agree.accepted other accepted).trans none
    rw [agree.noZero] at accepted
    cases accepted

/-- PPP runs on a channel that has opened. -/
theorem Agree.noPpp (agree : Agree active cid held ppp phase)
    (notOpened : phase cid ≠ .opened) : ppp = none := by
  by_contra some
  exact notOpened (agree.ppp some).2

/-- A channel that is not held, for the held one waits for its answer. -/
theorem Agree.noHold (agree : Agree active cid held ppp phase)
    (notOffered : phase cid ≠ .offered) : held = 0 := by
  by_contra some
  obtain ⟨same, offered⟩ := agree.held some
  rw [same] at offered
  exact notOffered offered

/-- The held channel has no pcb. -/
theorem Agree.noPppHeld (agree : Agree active cid held ppp phase)
    (real : held ≠ 0) : ppp = none := by
  obtain ⟨same, offered⟩ := agree.held real
  apply agree.noPpp
  rw [← same, offered]
  exact Phase.noConfusion

theorem Agree.noHold_of_ne (agree : Agree active cid held ppp phase)
    (notHeld : cid ≠ held) : held = 0 := by
  by_contra real
  exact notHeld (agree.held real).1.symm

/-- Another channel is not held. -/
theorem Agree.ne_held (agree : Agree active cid held ppp phase) {other : UInt16}
    (some : other ≠ 0) (foreign : other ≠ cid) : other ≠ held := by
  rintro rfl
  exact foreign (agree.held some).1

/-- A channel that is in some phase has an id. -/
theorem Agree.real (agree : Agree active cid held ppp phase) {other : UInt16}
    (known : phase other ≠ .free) : other ≠ 0 := by
  rintro rfl
  exact known agree.noZero

/-- A channel that is to open is the active one, and not held. -/
theorem Agree.opens (agree : Agree active cid held ppp phase) {other : UInt16}
    (accepted : phase other = .accepted) :
    other = cid ∧ cid ≠ 0 ∧ held = 0 := by
  have ours := agree.accepted other accepted
  subst ours
  refine ⟨rfl, ?_, ?_⟩
  · apply agree.real
    rw [accepted]
    exact Phase.noConfusion
  · apply agree.noHold
    rw [accepted]
    exact Phase.noConfusion

/-- The session ends, and something becomes of its channel. -/
theorem Agree.ends (agree : Agree active cid held ppp phase) {after : Phase}
    (notAccepted : after ≠ .accepted) (some : cid ≠ 0) :
    Agree false 0 0 none (Function.update phase cid after) := by
  refine
    ⟨by simp, fun real => absurd rfl real, fun real => absurd rfl real,
      fun real => absurd rfl real, ?_, ?_⟩
  · intro other accepted
    by_cases same : other = cid
    · subst same
      rw [Function.update_self] at accepted
      exact absurd accepted notAccepted
    · rw [Function.update_of_ne same] at accepted
      exact absurd (agree.accepted other accepted) same
  · rw [Function.update_of_ne some.symm]
    exact agree.noZero

/-- Something becomes of a channel that is not the active one. -/
theorem Agree.foreign (agree : Agree active cid held ppp phase)
    {other : UInt16} {after : Phase} (notAccepted : after ≠ .accepted)
    (foreign : other ≠ cid) (some : other ≠ 0) :
    Agree active cid held ppp (Function.update phase other after) := by
  refine
    ⟨agree.active, fun real => ?_, fun real => ?_, fun real => ?_,
      fun third accepted => ?_, ?_⟩
  · obtain ⟨same, offered⟩ := agree.held real
    rw [Function.update_of_ne (by rw [same]; exact foreign.symm)]
    exact ⟨same, offered⟩
  · rw [Function.update_of_ne foreign.symm]
    exact agree.ppp real
  · rw [Function.update_of_ne foreign.symm]
    exact agree.inUse real
  · by_cases same : third = other
    · subst same
      rw [Function.update_self] at accepted
      exact absurd accepted notAccepted
    · rw [Function.update_of_ne same] at accepted
      exact agree.accepted third accepted
  · rw [Function.update_of_ne some.symm]
    exact agree.noZero

/-- A session begins with a channel that comes in. -/
theorem Agree.begins (agree : Agree false cid held ppp phase)
    {incoming held' : UInt16} {after : Phase} (some : incoming ≠ 0)
    (inUse : after.InUse)
    (heldNow : held' ≠ 0 → held' = incoming ∧ after = .offered) :
    Agree true incoming held' ppp (Function.update phase incoming after) := by
  obtain ⟨_, _, noPpp, noneAccepted⟩ := agree.of_free
  refine
    ⟨by simp [some], fun real => ?_, fun real => absurd noPpp real, fun _ => ?_,
      fun other accepted => ?_, ?_⟩
  · obtain ⟨rfl, offered⟩ := heldNow real
    rw [Function.update_self]
    exact ⟨rfl, offered⟩
  · rw [Function.update_self]
    exact inUse
  · by_contra different
    rw [Function.update_of_ne different] at accepted
    exact noneAccepted other accepted
  · rw [Function.update_of_ne some.symm]
    exact agree.noZero

/-- The active channel is accepted, or opens. -/
theorem Agree.advances (agree : Agree active cid held ppp phase)
    {after : Phase} {ppp' : Option Nat} (some : cid ≠ 0) (inUse : after.InUse)
    (pppNow : ppp' ≠ none → after = .opened) :
    Agree active cid 0 ppp' (Function.update phase cid after) := by
  refine
    ⟨agree.active, fun real => absurd rfl real, fun real => ?_, fun _ => ?_,
      fun other accepted => ?_, ?_⟩
  · rw [Function.update_self]
    exact ⟨some, pppNow real⟩
  · rw [Function.update_self]
    exact inUse
  · by_contra different
    rw [Function.update_of_ne different] at accepted
    exact different (agree.accepted other accepted)
  · rw [Function.update_of_ne some.symm]
    exact agree.noZero

/-- PPP starts or stops on the open channel. -/
theorem Agree.starts (agree : Agree active cid held ppp phase)
    (opened : phase cid = .opened) (ppp' : Option Nat) :
    Agree active cid held ppp' phase := by
  have real := agree.real (by rw [opened]; exact Phase.noConfusion)
  have noHold := agree.noHold (by rw [opened]; exact Phase.noConfusion)
  have started :
      Agree active cid 0 ppp' (Function.update phase cid .opened) :=
    agree.advances real trivial fun _ => rfl
  rw [← opened, Function.update_eq_self] at started
  rw [noHold]
  exact started

/-- A session ends on a channel that stays open. -/
theorem Agree.drops (agree : Agree active cid held ppp phase)
    (opened : phase cid = .opened) : Agree false 0 held none phase := by
  have real := agree.real (by rw [opened]; exact Phase.noConfusion)
  have noHold := agree.noHold (by rw [opened]; exact Phase.noConfusion)
  have ended : Agree false 0 0 none (Function.update phase cid .opened) :=
    agree.ends Phase.noConfusion real
  rw [← opened, Function.update_eq_self] at ended
  rw [noHold]
  exact ended

theorem Becomes.invariant {link : LinkState} {decisions : List Call}
    {note : UInt16 → Phase}
    (becomes : Becomes link active cid held ppp decisions)
    (agree : Agree active cid held ppp (decisions.foldl noteCall note)) :
    ChannelInvariant ⟨link, link.decisions.foldl noteCall note⟩ := by
  unfold ChannelInvariant
  rw [becomes.active, becomes.cid, becomes.held, becomes.ppp,
    becomes.decisions]
  exact agree

/-- What does not touch the session leaves the invariant. -/
theorem SameSession.channels {link link' : LinkState} {phase : UInt16 → Phase}
    (same : SameSession link link')
    (invariant : ChannelInvariant ⟨link, phase⟩) :
    ChannelInvariant ⟨link', phase⟩ := by
  unfold ChannelInvariant at invariant ⊢
  rw [same.sessionActive, same.activeCid, same.autoCid, same.ppp]
  exact invariant

theorem ChannelInvariant.step {w : World} (invariant : ChannelInvariant w)
    {event : Event} (sends : Sends w event) :
    ChannelInvariant (w.step event) := by
  have stepped := step_session w.link event
  unfold World.step
  generalize w.link.step event = link at *
  have agree : Agree _ _ _ _ _ := invariant
  cases stepped with
  | keeps unnoted becomes =>
      apply becomes.invariant
      rw [List.foldl_nil, unnoted]
      exact agree
  | @declines cid handle addr requested busy becomes =>
      obtain ⟨some, notInUse⟩ := sends
      apply becomes.invariant
      have foreign : cid ≠ w.link.activeCid := by
        rintro rfl
        exact notInUse (agree.inUse some)
      rw [← busy]
      simp only [List.foldl_cons, List.foldl_nil, noteCall, noteEvent,
        Function.update_idem]
      exact agree.foreign Phase.noConfusion foreign some
  | holds free becomes =>
      apply becomes.invariant
      rw [free] at agree
      apply agree.begins sends.1
      · trivial
      · exact fun _ => ⟨rfl, rfl⟩
  | accepts free becomes =>
      apply becomes.invariant
      rw [free] at agree
      simp only [List.foldl_cons, List.foldl_nil, noteCall, noteEvent,
        Function.update_idem]
      apply agree.begins sends.1
      · trivial
      · exact fun real => absurd agree.of_free.2.1 real
  | grants unnoted held becomes =>
      apply becomes.invariant
      have noPpp := agree.noPppHeld held
      obtain ⟨same, offered⟩ := agree.held held
      simp only [List.foldl_cons, List.foldl_nil, noteCall, unnoted]
      rw [same] at offered held ⊢
      apply agree.advances held
      · trivial
      · exact fun some => absurd noPpp some
  | refuses unnoted held becomes =>
      obtain ⟨same, offered⟩ := agree.held held
      apply (becomes same.symm).invariant
      simp only [List.foldl_cons, List.foldl_nil, noteCall, unnoted]
      rw [agree.noPppHeld held, same]
      rw [same] at held
      exact agree.ends Phase.noConfusion held
  | @openFails cid status handle created listens failed ours foreign idle =>
      obtain ⟨known, notOpened⟩ := Sends.notOpened failed sends
      have some := agree.real known
      by_cases active : cid = w.link.activeCid
      · apply (ours active).invariant
        have noHold :
            (if cid = w.link.autoCid then 0 else w.link.autoCid) = 0 := by
          split
          · rfl
          · next notHeld =>
            rw [active] at notHeld
            exact agree.noHold_of_ne notHeld
        rw [noHold]
        simp only [List.foldl_nil, noteEvent, failed, if_false]
        subst active
        rw [agree.noPpp notOpened]
        exact agree.ends Phase.noConfusion some
      · have notHeld := agree.ne_held some active
        have after :
            Agree w.link.sessionActive w.link.activeCid w.link.autoCid
              w.link.ppp (Function.update w.phase cid .failed) :=
          agree.foreign Phase.noConfusion active some
        by_cases none : w.link.activeCid = 0
        · apply (idle none notHeld).invariant
          have inactive : w.link.sessionActive = false := by
            rw [Bool.eq_false_iff, ne_eq, agree.active, none]
            exact fun real => real rfl
          simp only [List.foldl_nil, noteEvent, failed, if_false]
          rw [inactive, none] at after
          exact after
        · apply (foreign active notHeld none).invariant
          simp only [List.foldl_nil, noteEvent, failed, if_false]
          exact after
  | @opens cid handle created listens pcb becomes =>
      apply becomes.invariant
      obtain ⟨rfl, some, noHold⟩ := agree.opens sends
      rw [noHold]
      exact agree.advances some trivial fun _ => rfl
  | @startFails cid handle created listens becomes =>
      apply becomes.invariant
      obtain ⟨rfl, some, noHold⟩ := agree.opens sends
      rw [noHold]
      exact agree.ends Phase.noConfusion some
  | @closes cid foreign held ours =>
      have some : cid ≠ 0 := agree.real sends
      by_cases active : cid = w.link.activeCid
      · by_cases isHeld : cid = w.link.autoCid
        · apply (held active isHeld).invariant
          rw [agree.noPppHeld (by rw [← isHeld]; exact some)]
          subst active
          exact agree.ends Phase.noConfusion some
        · apply (ours active isHeld).invariant
          subst active
          rw [agree.noHold_of_ne isHeld]
          exact agree.ends Phase.noConfusion some
      · apply (foreign active).invariant
        exact agree.foreign Phase.noConfusion active some

end Invariant

/-! ## Other channels -/

section Others

variable {s : LinkState}

/-- A call that feeds a pcb or closes it. -/
def Call.drivesPpp : Call → Bool
  | .pppInput _ _ | .pppClose _ => true
  | _ => false

/-- Nothing is done to a pcb. -/
def LeavesPpp (s : LinkState) : Prop := ∀ c ∈ s.calls, c.drivesPpp = false

/-- A call that is not PPP's, whatever else changes. -/
theorem LeavesPpp.call {s' : LinkState} (leaves : LeavesPpp s) {c : Call}
    (plain : c.drivesPpp = false) (calls : s'.calls = s.calls ++ [c]) :
    LeavesPpp s' := by
  intro other called
  rw [calls] at called
  rcases List.mem_append.mp called with before | now
  · exact leaves other before
  · rw [List.mem_singleton.mp now]
    exact plain

theorem LeavesPpp.of_nil (quiet : s.calls = []) : LeavesPpp s := by
  intro c called
  rw [quiet] at called
  cases called

theorem LeavesPpp.input (leaves : LeavesPpp s) (pcb : Nat) (data : List UInt8) :
    .pppInput pcb data ∉ s.calls := by
  intro called
  cases leaves _ called

theorem LeavesPpp.close (leaves : LeavesPpp s) (pcb : Nat) :
    .pppClose pcb ∉ s.calls := by
  intro called
  cases leaves _ called

theorem rfcommCanSendNow_leaves (leaves : LeavesPpp s) (maxFrameSize : UInt16)
    (sendStatus : UInt8) :
    LeavesPpp (rfcommCanSendNow maxFrameSize sendStatus s) := by
  have chunk : LeavesPpp (sendChunk maxFrameSize sendStatus s) := by
    unfold sendChunk
    dsimp only
    split
    · exact leaves
    · split
      · exact leaves.call (c := .rfcommSend _ _) rfl rfl
      · exact leaves.call (c := .rfcommSend _ _) rfl rfl
  unfold rfcommCanSendNow
  split
  · exact leaves
  · split
    · next reply _ =>
      have sent : LeavesPpp (s.call (.rfcommSend s.activeCid reply)) :=
        leaves.call (c := .rfcommSend _ _) rfl rfl
      unfold sendReply
      dsimp only
      split
      · exact sent
      · exact sent.call (c := .requestCanSendNow _) rfl rfl
    · dsimp only
      split
      · exact chunk.call (c := .requestCanSendNow _) rfl rfl
      · exact chunk

theorem autoDecide_leaves (leaves : LeavesPpp s) (name : Option (List UInt8)) :
    LeavesPpp (autoDecide name s) := by
  unfold autoDecide
  dsimp only
  split
  · exact leaves.call (c := .requestSecurityLevel _ _) rfl rfl
  · exact leaves.call (c := .acceptConnection _) rfl rfl

theorem rfcommIncoming_leaves (leaves : LeavesPpp s) (cid handle : UInt16)
    (addr : BdAddr) (requested : Bool) :
    LeavesPpp (rfcommIncoming cid handle addr requested s) := by
  unfold rfcommIncoming
  split
  · exact leaves.call (c := .declineConnection _) rfl rfl
  · dsimp only
    split
    · unfold autoBegin
      dsimp only
      split
      · exact leaves.call (c := .remoteNameRequest _) rfl rfl
      · apply autoDecide_leaves
        exact leaves.call (c := .remoteNameRequest _) rfl rfl
    · exact leaves.call (c := .acceptConnection _) rfl rfl

theorem rfcommData_foreign {channel : UInt16} (packet : List UInt8)
    (foreign : channel ≠ s.activeCid) : rfcommData channel packet s = s := by
  unfold rfcommData
  rw [if_neg fun ours => foreign ours.2]

theorem rfcommClosed_foreign {cid : UInt16} (foreign : cid ≠ s.activeCid) :
    rfcommClosed cid s = s := by
  unfold rfcommClosed
  rw [if_pos foreign]

/-- The opening of another channel fails during a session. -/
theorem rfcommOpenFailed_foreign {cid : UInt16} (notHeld : cid ≠ s.autoCid)
    (foreign : cid ≠ s.activeCid) (some : s.activeCid ≠ 0) :
    rfcommOpenFailed cid s = s := by
  unfold rfcommOpenFailed
  rw [if_neg notHeld]
  exact if_neg (not_or.mpr ⟨foreign.symm, some⟩)

/-- What an event of another channel leaves: nothing happens to a pcb, and a
session and a hold stay as they are. -/
structure Untouched (s s' : LinkState) : Prop where
  leaves : LeavesPpp s'
  session :
    s.sessionActive = true →
      s'.sessionActive = true ∧ s'.activeCid = s.activeCid ∧ s'.ppp = s.ppp
  hold :
    s.autoCid ≠ 0 →
      s'.autoCid = s.autoCid ∧ s'.autoSecPending = s.autoSecPending

theorem SameSession.untouched {s' : LinkState}
    (same : SameSession { s with calls := [] } s') (leaves : LeavesPpp s') :
    Untouched s s' :=
  ⟨leaves, fun active =>
    ⟨same.sessionActive.trans active, same.activeCid, same.ppp⟩,
    fun _ => ⟨same.autoCid, same.autoSecPending⟩⟩

theorem step_untouched {w : World} (invariant : ChannelInvariant w)
    {event : Event} (sends : Sends w event) {cid : UInt16}
    (channel : event.channel = some cid) (foreign : cid ≠ w.link.activeCid) :
    Untouched w.link (w.link.step event) := by
  have agree : Agree _ _ _ _ _ := invariant
  have quiet : LeavesPpp { w.link with calls := [] } := LeavesPpp.of_nil rfl
  have same : SameSession { w.link with calls := [] } { w.link with calls := [] } :=
    SameSession.refl _
  cases event with
  | incoming incoming handle addr requested =>
      have leaves :=
        rfcommIncoming_leaves quiet incoming handle addr requested
      by_cases busy : w.link.sessionActive = true
      · have declined :
            w.link.step (.incoming incoming handle addr requested) =
              { w.link with calls := [] }.call (.declineConnection incoming) :=
          if_pos busy
        refine ⟨leaves, fun _ => ?_, fun _ => ?_⟩
        · rw [declined]
          exact ⟨busy, rfl, rfl⟩
        · rw [declined]
          exact ⟨rfl, rfl⟩
      · rw [Bool.eq_false_iff.mpr busy] at agree
        refine ⟨leaves, fun active => absurd active busy, fun held => ?_⟩
        exact absurd agree.of_free.2.1 held
  | opened opened status handle created listens =>
      obtain rfl : opened = cid := Option.some.inj channel
      by_cases fine : status = 0
      · subst fine
        exact absurd (agree.accepted opened sends) foreign
      · have failed :
            w.link.step (.opened opened status handle created listens) =
              rfcommOpenFailed opened { w.link with calls := [] } :=
          if_pos fine
        rw [failed]
        by_cases none : w.link.activeCid = 0
        · -- there is no session to keep
          have inactive : ¬w.link.sessionActive = true := by
            rw [agree.active, none]
            exact fun real => real rfl
          rw [Bool.eq_false_iff.mpr inactive] at agree
          refine ⟨?_, fun active => absurd active inactive, fun held => ?_⟩
          · intro c called
            rw [rfcommOpenFailed_calls] at called
            exact quiet c called
          · exact absurd agree.of_free.2.1 held
        · have real := agree.real (Sends.notOpened fine sends).1
          have notHeld := agree.ne_held real foreign
          rw [rfcommOpenFailed_foreign (s := { w.link with calls := [] })
            notHeld foreign none]
          exact same.untouched quiet
  | canSendNow cid maxFrameSize sendStatus =>
      exact
        (rfcommCanSendNow_same maxFrameSize sendStatus _).untouched
          (rfcommCanSendNow_leaves quiet maxFrameSize sendStatus)
  | closed closed =>
      obtain rfl : closed = cid := Option.some.inj channel
      have kept :
          w.link.step (.closed closed) = { w.link with calls := [] } :=
        rfcommClosed_foreign (s := { w.link with calls := [] }) foreign
      rw [kept]
      exact same.untouched quiet
  | data other packet =>
      obtain rfl : other = cid := Option.some.inj channel
      have kept :
          w.link.step (.data other packet) = { w.link with calls := [] } :=
        rfcommData_foreign (s := { w.link with calls := [] }) packet foreign
      rw [kept]
      exact same.untouched quiet
  | nameComplete addr status remoteName => cases channel
  | securityLevel handle status level => cases channel
  | txNotify => cases channel
  | pppOutput data => cases channel
  | pppStatus pcb up => cases channel

/-- No channel gets at the session of another. -/
theorem ChannelInvariant.keepsOut {w : World} (invariant : ChannelInvariant w)
    {event : Event} (sends : Sends w event) : KeepsOut w.link event := by
  refine ⟨?_, ?_, ?_, ?_⟩
  · rintro cid handle addr requested rfl busy
    have declined :
        w.link.step (.incoming cid handle addr requested) =
          { w.link with calls := [] }.call (.declineConnection cid) :=
      if_pos busy
    rw [declined]
    exact List.mem_singleton_self _
  · intro cid channel foreign pcb data
    exact (step_untouched invariant sends channel foreign).leaves.input pcb data
  · intro cid channel foreign active
    have untouched := step_untouched invariant sends channel foreign
    obtain ⟨kept, sameCid, samePpp⟩ := untouched.session active
    exact ⟨kept, sameCid, samePpp, untouched.leaves.close⟩
  · intro cid channel foreign held
    exact (step_untouched invariant sends channel foreign).hold held

end Others

/-! ## Runs -/

theorem ChannelInvariant.boot (linkMode : BtsecMode) :
    ChannelInvariant (World.boot linkMode) := by
  refine
    ⟨by simp [World.boot, LinkState.boot], fun real => absurd rfl real,
      fun real => absurd rfl real, fun real => absurd rfl real,
      fun other accepted => ?_, rfl⟩
  cases accepted

/-- Whatever channels come, open, fail and close, there is one session, and it
is out of reach of every other channel. -/
theorem one_session (linkMode : BtsecMode) {events : List Event}
    (allowed : Along World.step Sends (World.boot linkMode) events) :
    OneSession (run World.step (World.boot linkMode) events).link ∧
      ∀ event, Sends (run World.step (World.boot linkMode) events) event →
        KeepsOut (run World.step (World.boot linkMode) events).link event := by
  have invariant :
      ChannelInvariant (run World.step (World.boot linkMode) events) := by
    apply run_invariant_along ChannelInvariant _ (ChannelInvariant.boot linkMode)
      allowed
    intro w event holds sends
    exact holds.step sends
  exact ⟨Agree.oneSession invariant, fun event => invariant.keepsOut⟩

/-- A channel is held, a second one declined, and the first accepted when its
phone is secured, opened and closed. -/
def securedPhone : List Event :=
  let addr : BdAddr := Vector.replicate 6 1
  [.incoming 1 7 addr true, .incoming 2 9 addr true, .closed 2,
    .nameComplete addr 4 [], .securityLevel 7 0 level2,
    .opened 1 0 7 true true, .closed 1]

theorem one_session_secured :
    OneSession (run World.step (World.boot .btsecAuto) securedPhone).link := by
  have allowed :
      Along World.step Sends (World.boot .btsecAuto) securedPhone := by
    refine ⟨⟨by decide, id⟩, ⟨by decide, id⟩, ?_, trivial, trivial, ?_, ?_,
      trivial⟩
    · show Phase.declined ≠ .free
      decide
    · show Phase.accepted = .accepted
      rfl
    · show Phase.opened ≠ .free
      decide
  exact (one_session .btsecAuto allowed).1

end VeteraBridge.Link

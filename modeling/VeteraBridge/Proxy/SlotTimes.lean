import VeteraBridge.Proxy.FlowOwnership
import VeteraBridge.Proxy.SlotChoice

/-!
# The slot for a new flow, over whole runs

The redirector with a clock that does not wrap.  Each event reads it in 32 bits
where the source calls `now_ms`, and `since` records when an entry was closed
or saw its last packet, which no function reads.  Whatever the tables and the
clock begin with, the active entries stay dated along a run, and a hook call
takes the right slot exactly if the ages show it.
-/

namespace VeteraBridge.Proxy

open EventRun FirstMaximum Redirector WrappingClock

/-! ## Events with a clock -/

/-- `clock` counts milliseconds, `readAt` is the reading of the hook call under
way. -/
structure TimedRedirector where
  rd : Redirector
  clock : Nat
  readAt : Nat
  since : Fin flowMax → Nat

/-- An event, and the time since the one before. -/
structure TimedEvent where
  delay : Nat
  event : Event
deriving DecidableEq

/-- The event with what `now_ms` gives when it happens. -/
def Event.reading (now : UInt32) : Event → Event
  | .outside (.arrive p inp _) => .outside (.arrive p inp now)
  | .outside (.output p _ cloned) => .outside (.output p now cloned)
  | .relayClose phonePort _ => .relayClose phonePort now
  | event => event

/-- The active entry whose time the critical section of the hook sets. -/
def hookEntry (flows : FlowTable) (r : HookRequest) : Option (Fin flowMax) :=
  match (hookFlows flows r).taken with
  | some i => some i
  | none =>
      (flowFind flows r.sport).filter fun i =>
        (hookFlows flows r).isMatch && (flows i).state == .active

/-- The active entry whose time the output wrapper sets. -/
def outputEntry (flows : FlowTable) (p : Pbuf) : Option (Fin flowMax) :=
  match tcpHeaders p with
  | none => none
  | some hl =>
    let sport := lwipNtohs (thSrc p.payload hl)
    if sport ≠ relayHttpPort ∧ sport ≠ relayTlsPort then none
    else
      (replyFlow flows sport (lwipNtohs (thDest p.payload hl))).filter
        fun i => (flows i).state == .active

namespace TimedRedirector

/-- The entry that is closed, or that has seen a packet. -/
def entryDated (s : TimedRedirector) : Event → Option (Fin flowMax)
  | .outside .commit =>
      s.rd.hook.bind fun call =>
        (hookRequest call.reads call.p call.inp).bind fun request =>
          hookEntry s.rd.flows request.2
  | .outside (.output p _ _) => outputEntry s.rd.flows p
  | .relayClose phonePort _ => flowFind s.rd.flows phonePort
  | _ => none

/-- Its time: a packet the hook passes on was seen when the hook read the
clock. -/
def timeOf (s : TimedRedirector) (clock : Nat) : Event → Nat
  | .outside .commit => s.readAt
  | _ => clock

def readTime (s : TimedRedirector) (clock : Nat) : Event → Nat
  | .outside (.arrive _ _ _) => if s.rd.hook.isSome then s.readAt else clock
  | _ => s.readAt

/-- The tcpip task sends nothing while its hook call is under way. -/
def Blocked (s : TimedRedirector) (event : Event) : Bool :=
  match event with
  | .outside (.output _ _ _) => s.rd.hook.isSome
  | _ => false

def step (s : TimedRedirector) (timed : TimedEvent) : TimedRedirector :=
  let clock := s.clock + timed.delay
  let event := timed.event.reading (UInt32.ofNat clock)
  if s.Blocked event then { s with clock := clock }
  else
    { rd := s.rd.step event
      clock := clock
      readAt := s.readTime clock event
      since :=
        match s.entryDated event with
        | some i => Function.update s.since i (s.timeOf clock event)
        | none => s.since }

/-- The latest reading of the tcpip task. -/
def latest (s : TimedRedirector) : Nat :=
  if s.rd.hook.isSome then s.readAt else s.clock

/-- The active entries have the times of their last packets, and the hook call
under way has the reading of its time. -/
structure Dated (s : TimedRedirector) : Prop where
  active : ActiveDated s.rd.flows s.since s.latest
  reading :
    ∀ call, s.rd.hook = some call →
      call.reads.now = UInt32.ofNat s.readAt ∧ s.readAt ≤ s.clock

end TimedRedirector

/-! ## Entries stay dated -/

section Entries

variable {flows : FlowTable} {since : Fin flowMax → Nat} {latest : Nat}

theorem ActiveDated.mono (dated : ActiveDated flows since latest) {later : Nat}
    (notEarlier : latest ≤ later) : ActiveDated flows since later :=
  fun i isActive =>
    ⟨(dated i isActive).1, (dated i isActive).2.trans notEarlier⟩

theorem ActiveDated.update (dated : ActiveDated flows since latest)
    (i : Fin flowMax) (time : Nat) {entry : Flow}
    (entryDated :
      entry.state = .active →
        entry.stampMs = UInt32.ofNat time ∧ time ≤ latest) :
    ActiveDated (Function.update flows i entry)
      (Function.update since i time) latest := by
  intro j isActive
  by_cases here : j = i
  · subst here
    rw [Function.update_self] at isActive ⊢
    rw [Function.update_self]
    exact entryDated isActive
  · rw [Function.update_of_ne here] at isActive ⊢
    rw [Function.update_of_ne here]
    exact dated j isActive

theorem ActiveDated.release (dated : ActiveDated flows since latest)
    (i : Fin flowMax) {entry : Flow} (notActive : entry.state ≠ .active) :
    ActiveDated (Function.update flows i entry) since latest := by
  have kept :=
    dated.update i (since i) fun isActive => absurd isActive notActive
  rwa [Function.update_eq_self] at kept

theorem ActiveDated.flowFree (dated : ActiveDated flows since latest)
    (phonePort : UInt16) :
    ActiveDated (flowFree flows phonePort) since latest := by
  unfold Proxy.flowFree
  cases flowFind flows phonePort with
  | none =>
      exact dated
  | some i =>
      exact dated.release i (by simp)

theorem ActiveDated.flowTouch (dated : ActiveDated flows since latest)
    (i : Fin flowMax) {time : Nat} (notLater : time ≤ latest) :
    ActiveDated (flowTouch flows i (UInt32.ofNat time))
      (Function.update since i time) latest :=
  dated.update i time fun _ => ⟨rfl, notLater⟩

/-- The critical section of the hook dates the active entry it stamps. -/
theorem ActiveDated.hookFlows (dated : ActiveDated flows since latest)
    {r : HookRequest} {time : Nat} (reading : r.now = UInt32.ofNat time)
    (notLater : time ≤ latest) :
    ActiveDated (hookFlows flows r).flows
      (match hookEntry flows r with
        | some i => Function.update since i time
        | none => since)
      latest := by
  have outcome := hookFlows_outcome flows r
  unfold hookEntry
  generalize Proxy.hookFlows flows r = decision at *
  cases outcome with
  | continues i belongs =>
      simp only [belongs.1, Option.filter, Bool.true_and]
      cases held : (flows i).state with
      | active =>
          rw [reading]
          exact dated.flowTouch i notLater
      | free =>
          exact dated.release i (by simp [held])
      | closed =>
          exact dated.release i (by simp [held])
  | passes _ _ =>
      cases flowFind flows r.sport with
      | none =>
          exact dated
      | some i =>
          exact dated
  | refuses _ _ _ =>
      cases flowFind flows r.sport with
      | none =>
          exact dated.flowFree r.sport
      | some i =>
          exact dated.flowFree r.sport
  | starts i _ _ _ _ =>
      exact
        (dated.flowFree r.sport).update i time fun _ => ⟨reading, notLater⟩

theorem output_flows_eq (now : UInt32) (cloned : Bool) (p : Pbuf)
    (flows : FlowTable) :
    (proxyNetifOutput now cloned p flows).2 =
      match outputEntry flows p with
      | some i => flowTouch flows i now
      | none => flows := by
  unfold proxyNetifOutput outputEntry
  cases tcpHeaders p with
  | none =>
      rfl
  | some hl =>
      dsimp only
      split
      · rfl
      · cases replyFlow flows (lwipNtohs (thSrc p.payload hl))
            (lwipNtohs (thDest p.payload hl)) with
        | none =>
            rfl
        | some i =>
            by_cases isActive : (flows i).state = .active
            · simp [Option.filter, isActive]
              split <;> rfl
            · simp [Option.filter, isActive]
              split <;> rfl

/-- A closed entry has a time of its own and is active no more. -/
theorem ActiveDated.flowMarkClosed (dated : ActiveDated flows since latest)
    (phonePort : UInt16) (now : UInt32) (time : Nat) :
    ActiveDated (flowMarkClosed flows phonePort now)
      (match flowFind flows phonePort with
        | some i => Function.update since i time
        | none => since)
      latest := by
  unfold Proxy.flowMarkClosed
  cases flowFind flows phonePort with
  | none =>
      exact dated
  | some i =>
      exact dated.update i time fun isActive => by cases isActive

theorem activeDated_zero : ActiveDated FlowTable.zero since latest :=
  fun _ isActive => by cases isActive

end Entries

namespace TimedRedirector

section Steps

variable {s : TimedRedirector}

theorem Dated.latest_le (dated : s.Dated) : s.latest ≤ s.clock := by
  unfold latest
  cases inFlight : s.rd.hook with
  | none =>
      exact Nat.le_refl _
  | some call =>
      exact (dated.reading call inFlight).2

/-- A step that leaves the table and the hook call alone. -/
theorem Dated.keeps (dated : s.Dated) (rd : Redirector) {clock : Nat}
    (sameFlows : rd.flows = s.rd.flows) (sameHook : rd.hook = s.rd.hook)
    (notEarlier : s.clock ≤ clock) :
    Dated ⟨rd, clock, s.readAt, s.since⟩ := by
  have later : s.latest ≤ latest ⟨rd, clock, s.readAt, s.since⟩ := by
    simp only [latest, sameHook]
    split
    · exact Nat.le_refl _
    · exact notEarlier
  constructor
  · rw [sameFlows]
    exact dated.active.mono later
  · intro call inFlight
    rw [sameHook] at inFlight
    obtain ⟨reading, past⟩ := dated.reading call inFlight
    exact ⟨reading, past.trans notEarlier⟩

theorem Dated.outsideStep (dated : s.Dated) (event : OutsideEvent)
    (delay : Nat) : (s.step ⟨delay, .outside event⟩).Dated := by
  have notEarlier : s.clock ≤ s.clock + delay := Nat.le_add_right _ _
  cases event with
  | arrive p inp now =>
      cases inFlight : s.rd.hook with
      | some call =>
          simp only [step, Event.reading, Blocked, readTime, entryDated,
            Redirector.step, Redirector.outsideStep, inFlight,
            Option.isSome_some, if_true, Bool.false_eq_true, if_false]
          exact dated.keeps _ rfl rfl notEarlier
      | none =>
          simp only [step, Event.reading, Blocked, readTime, entryDated,
            Redirector.step, Redirector.outsideStep, inFlight,
            Option.isSome_none, Bool.false_eq_true, if_false]
          constructor
          · exact dated.active.mono (dated.latest_le.trans notEarlier)
          · rintro call ⟨⟩
            exact ⟨rfl, Nat.le_refl _⟩
  | commit =>
      cases inFlight : s.rd.hook with
      | none =>
          simp only [step, Event.reading, Blocked, readTime, entryDated,
            Redirector.step, Redirector.outsideStep, inFlight,
            Option.bind_none, Bool.false_eq_true, if_false]
          exact dated.keeps _ rfl rfl notEarlier
      | some call =>
          obtain ⟨reading, past⟩ := dated.reading call inFlight
          have active : ActiveDated s.rd.flows s.since s.readAt := by
            have kept := dated.active
            simpa only [latest, inFlight, Option.isSome_some, if_true]
              using kept
          simp only [step, Event.reading, Blocked, readTime, entryDated,
            timeOf, Redirector.step, Redirector.outsideStep, inFlight,
            Option.bind_some, Bool.false_eq_true, if_false]
          refine ⟨?_, by simp⟩
          apply ActiveDated.mono _ (past.trans notEarlier)
          cases made : hookRequest call.reads call.p call.inp with
          | none =>
              simp only [hookResult, hook_of_no_request made, Option.bind_none]
              exact active
          | some request =>
              obtain ⟨hl, r⟩ := request
              have sameNow := (hookRequest_spec made).now
              simp only [hookResult, hook_flows made, Option.bind_some]
              exact active.hookFlows (sameNow.trans reading) (Nat.le_refl _)
  | output p now cloned =>
      cases inFlight : s.rd.hook with
      | some call =>
          simp only [step, Event.reading, Blocked, inFlight,
            Option.isSome_some, if_true]
          exact dated.keeps _ rfl rfl notEarlier
      | none =>
          simp only [step, Event.reading, Blocked, readTime, entryDated,
            timeOf, Redirector.step, Redirector.outsideStep, inFlight,
            Option.isSome_none, Bool.false_eq_true, if_false,
            output_flows_eq]
          have active :=
            dated.active.mono (dated.latest_le.trans notEarlier)
          refine ⟨?_, by simp⟩
          simp only [latest, Option.isSome_none, Bool.false_eq_true, if_false]
          cases outputEntry s.rd.flows p with
          | none =>
              exact active
          | some i =>
              exact active.flowTouch i (Nat.le_refl _)
  | attach output =>
      have frame := dated.keeps s.rd rfl rfl notEarlier
      simp only [step, Event.reading, Blocked, readTime, entryDated,
        Redirector.step, Redirector.outsideStep, attach_flows,
        Bool.false_eq_true, if_false]
      exact ⟨activeDated_zero, frame.reading⟩
  | wifi up =>
      exact dated.keeps _ rfl rfl notEarlier
  | proxySet io on host port =>
      exact dated.keeps _ rfl rfl notEarlier

theorem Dated.step (dated : s.Dated) (timed : TimedEvent) :
    (s.step timed).Dated := by
  obtain ⟨delay, event⟩ := timed
  have notEarlier : s.clock ≤ s.clock + delay := Nat.le_add_right _ _
  cases event with
  | outside event =>
      exact dated.outsideStep event delay
  | proxyInit opened =>
      apply dated.keeps _ _ _ notEarlier
      · simp only [Event.reading, Redirector.step]
        split <;> rfl
      · simp only [Event.reading, Redirector.step]
        split <;> rfl
  | listen http tls =>
      apply dated.keeps _ _ _ notEarlier
      · simp only [Event.reading, Redirector.step]
        split
        · split <;> rfl
        · rfl
      · simp only [Event.reading, Redirector.step]
        split
        · split <;> rfl
        · rfl
  | relayClose phonePort now =>
      have frame := dated.keeps s.rd rfl rfl notEarlier
      exact ⟨frame.active.flowMarkClosed phonePort _ _, frame.reading⟩

end Steps

/-- Active entries stay dated along every run. -/
theorem Dated.run {start : TimedRedirector} (dated : start.Dated)
    (events : List TimedEvent) :
    (EventRun.run TimedRedirector.step start events).Dated :=
  run_invariant Dated (fun _ event before => before.step event) dated events

end TimedRedirector

/-! ## The choice of a hook call -/

/-- The hook call under way will look for a slot: a SYN to be redirected that
continues no flow. -/
structure SeeksSlot (s : Redirector) (call : HookCall) (hl : Nat)
    (r : HookRequest) : Prop where
  inFlight : s.hook = some call
  made : hookRequest call.reads call.p call.inp = some (hl, r)
  intercepts : r.intercept = true
  foreign : ∀ i, ¬ Continues s.flows r i

/-- The table it looks in: the old flow of the phone port is gone. -/
def TimedRedirector.slotTable (s : TimedRedirector) (r : HookRequest) :
    FlowTable :=
  flowFree s.rd.flows r.sport

section Choice

variable {s : TimedRedirector} {call : HookCall} {hl : Nat} {r : HookRequest}

theorem SeeksSlot.taken (seeks : SeeksSlot s.rd call hl r) :
    hookTaken s.rd.flows call = flowSlot (s.slotTable r) r.now := by
  have outcome := hookFlows_outcome s.rd.flows r
  simp only [hookTaken, seeks.made, TimedRedirector.slotTable]
  generalize hookFlows s.rd.flows r = decision at *
  cases outcome with
  | continues i belongs =>
      exact absurd belongs (seeks.foreign i)
  | passes notSyn _ =>
      rw [r.interceptSyn seeks.intercepts] at notSyn
      cases notSyn
  | refuses _ _ noSlot =>
      rw [seeks.intercepts] at noSlot
      rcases noSlot with notIntercepted | none'
      · cases notIntercepted
      · exact none'.symm
  | starts _ _ _ _ slot =>
      exact slot.symm

theorem TimedRedirector.Dated.right_iff (dated : s.Dated)
    (seeks : SeeksSlot s.rd call hl r) :
    RightSlot (s.slotTable r) s.since s.readAt (hookTaken s.rd.flows call) ↔
      AgesShow (s.slotTable r) s.since s.readAt := by
  have reading : r.now = UInt32.ofNat s.readAt :=
    (hookRequest_spec seeks.made).now.trans
      (dated.reading call seeks.inFlight).1
  have active : ActiveDated s.rd.flows s.since s.readAt := by
    have kept := dated.active
    simpa only [TimedRedirector.latest, seeks.inFlight, Option.isSome_some,
      if_true] using kept
  rw [seeks.taken, reading]
  exact flowSlot_right_iff (active.flowFree r.sport)

end Choice

/-- Whatever the table and the clock begin with and however the tasks
interleave, a new flow gets the right slot exactly if the ages show it. -/
theorem slot_right_iff {start : TimedRedirector} (dated : start.Dated)
    (events : List TimedEvent) {call : HookCall} {hl : Nat} {r : HookRequest}
    (seeks :
      SeeksSlot (run TimedRedirector.step start events).rd call hl r) :
    let s := run TimedRedirector.step start events
    RightSlot (s.slotTable r) s.since s.readAt (hookTaken s.rd.flows call) ↔
      AgesShow (s.slotTable r) s.since s.readAt :=
  (dated.run events).right_iff seeks

/-! ### An entry closed just now -/

/-- Fifteen flows closed long ago and an active one in slot 15. -/
def fullTable : FlowTable := fun i =>
  { state := if i = 15 then .active else .closed
    phonePort := 1000 + UInt16.ofNat i
    relayPort := relayHttpPort
    origPort := 80
    origIp := 0x22d8b85d
    stampMs := if i = 15 then 199000 else 1000 + UInt32.ofNat i }

def fullStart : TimedRedirector where
  rd :=
    { Redirector.boot ⟨none, none, none⟩ with
      settings := ⟨true, [112], 3130, true⟩
      wifiConnected := true
      flows := fullTable
      task := .serving }
  clock := 200000
  readAt := 0
  since := fun i => if i = 15 then 199000 else 1000 + i

theorem fullStart_dated : fullStart.Dated := by
  refine ⟨?_, fun call inFlight => by cases inFlight⟩
  unfold ActiveDated
  decide +kernel

def newConnection : HookCall where
  reads := ⟨true, true, 200000⟩
  p := phoneSegment [93, 184, 216, 34] 5000 80 0x02
  inp := some .ppp

def newConnectionArrives : TimedEvent :=
  ⟨0, .outside (.arrive newConnection.p newConnection.inp 0)⟩

def newConnectionRequest : HookRequest where
  sport := 5000
  dport := 80
  dst := 0x22d8b85d
  syn := true
  intercept := true
  now := 200000
  web := Or.inl rfl
  interceptSyn := fun _ => rfl

theorem newConnection_seeks (events : List TimedEvent)
    (inFlight :
      (run TimedRedirector.step fullStart events).rd.hook = some newConnection)
    (absent :
      flowFind (run TimedRedirector.step fullStart events).rd.flows 5000 =
        none) :
    SeeksSlot (run TimedRedirector.step fullStart events).rd newConnection 20
      newConnectionRequest := by
  refine ⟨inFlight, by decide +kernel, rfl, ?_⟩
  rintro i ⟨present, _⟩
  rw [show newConnectionRequest.sport = 5000 from rfl, absent] at present
  cases present

/-- Where nothing is closed in between, the ages show the order. -/
theorem slot_right_undisturbed :
    let s := run TimedRedirector.step fullStart [newConnectionArrives]
    AgesShow (s.slotTable newConnectionRequest) s.since s.readAt := by
  have seeks :=
    newConnection_seeks [newConnectionArrives] (by decide +kernel)
      (by decide +kernel)
  refine (slot_right_iff fullStart_dated _ seeks).mp ?_
  rw [show hookTaken _ _ = some 0 from by decide +kernel]
  apply RightSlot.closed
  · decide +kernel
  · decide +kernel
  · decide +kernel

def closedJustNow : List TimedEvent :=
  [newConnectionArrives, ⟨1, .relayClose 1015 0⟩]

/-- The relay task closes the session of slot 15 a millisecond after the hook
has read the clock: its entry is taken, and fifteen closed long before stay. -/
theorem just_closed_entry_taken :
    ¬ ∀ (start : TimedRedirector) (events : List TimedEvent) (call : HookCall)
        (hl : Nat) (r : HookRequest), start.Dated →
      SeeksSlot (run TimedRedirector.step start events).rd call hl r →
        RightSlot
          ((run TimedRedirector.step start events).slotTable r)
          (run TimedRedirector.step start events).since
          (run TimedRedirector.step start events).readAt
          (hookTaken (run TimedRedirector.step start events).rd.flows call) := by
  intro right
  have chosen :=
    right fullStart closedJustNow _ _ _ fullStart_dated
      (newConnection_seeks closedJustNow (by decide +kernel)
        (by decide +kernel))
  rw [show hookTaken _ _ = some 15 from by decide +kernel] at chosen
  cases chosen with
  | free _ isFree =>
      revert isFree
      decide +kernel
  | closed _ _ _ first =>
      exact absurd (first 0 (by decide +kernel)) (by decide +kernel)
  | idle _ _ _ isActive _ _ =>
      revert isActive
      decide +kernel

end VeteraBridge.Proxy

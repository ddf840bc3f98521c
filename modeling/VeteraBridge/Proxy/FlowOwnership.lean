import VeteraBridge.Proxy.RelayTask
import VeteraBridge.Proxy.SessionEnds

/-!
# Sessions and the flows they were accepted on

A session knows its flow by the phone port only, and closing it marks whatever
entry the table has for that port.  If at each closing that entry, if there is
one, still is the flow the session was accepted on, an entry is marked closed
only when a session of its own flow has been closed.  Otherwise an old session
closes the flow of a later connection.
-/

namespace VeteraBridge.Proxy

open ByteWords EventRun Redirector

/-! ## Entries -/

section Entries

variable {flows : FlowTable} {j : Fin flowMax}

/-- The slot `flow_slot` chooses is free, closed, or active and idle for
long. -/
def Takeable (flows : FlowTable) (now : UInt32) (j : Fin flowMax) : Prop :=
  (flows j).state = .free ∨ (flows j).state = .closed ∨
    now - (flows j).stampMs > idleMs

theorem flowSlotScan_takeable {now : UInt32} (slots : List (Fin flowMax))
    {closed idle : Option (Fin flowMax)}
    (closedOk : ∀ i, closed = some i → Takeable flows now i)
    (idleOk : ∀ i, idle = some i → Takeable flows now i)
    (chosen : flowSlotScan flows now slots closed idle = some j) :
    Takeable flows now j := by
  induction slots generalizing closed idle with
  | nil =>
      unfold flowSlotScan at chosen
      split at chosen
      · exact closedOk j chosen
      · exact idleOk j chosen
  | cons i rest inductionHypothesis =>
      unfold flowSlotScan at chosen
      dsimp only at chosen
      split at chosen
      · next isFree =>
        cases chosen
        exact Or.inl isFree
      · split at chosen
        · next isClosed =>
          split at chosen
          · refine inductionHypothesis ?_ idleOk chosen
            rintro k same
            cases same
            exact Or.inr (Or.inl isClosed)
          · exact inductionHypothesis closedOk idleOk chosen
        · split at chosen
          · next isIdle =>
            split at chosen
            · refine inductionHypothesis closedOk ?_ chosen
              rintro k same
              cases same
              exact Or.inr (Or.inr isIdle)
            · exact inductionHypothesis closedOk idleOk chosen
          · exact inductionHypothesis closedOk idleOk chosen

theorem flowSlot_takeable {now : UInt32} (chosen : flowSlot flows now = some j) :
    Takeable flows now j :=
  flowSlotScan_takeable _ (fun _ none => by cases none)
    (fun _ none => by cases none) chosen

theorem flowTouch_state (flows : FlowTable) (i j : Fin flowMax)
    (now : UInt32) : (flowTouch flows i now j).state = (flows j).state := by
  unfold flowTouch
  by_cases here : j = i
  · rw [here, Function.update_self]
  · rw [Function.update_of_ne here]

theorem flowFree_entry (flows : FlowTable) (phonePort : UInt16)
    (j : Fin flowMax) :
    (flowFree flows phonePort j).live = false ∨
      flowFree flows phonePort j = flows j := by
  unfold flowFree
  cases flowFind flows phonePort with
  | none =>
      exact Or.inr rfl
  | some i =>
      by_cases here : j = i
      · refine Or.inl ?_
        simp only [here, Function.update_self]
        rfl
      · exact Or.inr (Function.update_of_ne here _ _)

/-- `flow_mark_closed` changes the entry for the phone port at most. -/
theorem flowMarkClosed_entry (flows : FlowTable) (phonePort : UInt16)
    (now : UInt32) (j : Fin flowMax) :
    flowFind flows phonePort = some j ∨
      flowMarkClosed flows phonePort now j = flows j := by
  unfold flowMarkClosed
  cases flowFind flows phonePort with
  | none =>
      exact Or.inr rfl
  | some i =>
      by_cases here : j = i
      · exact Or.inl (congrArg some here.symm)
      · refine Or.inr ?_
        simp only [flowSetState, Function.update_of_ne here]

/-- What a step of another task can do to an entry: free it, leave its state
alone, or put the next flow there. -/
inductive EntryChange (before after : Redirector) (j : Fin flowMax) : Prop
  | freed (notLive : (after.flows j).live = false)
      (sameBorn : after.born j = before.born j)
  | keeps (sameState : (after.flows j).state = (before.flows j).state)
      (sameBorn : after.born j = before.born j)
  | opens (isActive : (after.flows j).state = .active)
      (nextBorn : after.born j = before.born j + 1)

theorem commit_entryChange {s : Redirector} {call : HookCall}
    (inFlight : s.hook = some call) (j : Fin flowMax) :
    EntryChange s (s.outsideStep .commit) j := by
  simp only [outsideStep, inFlight]
  cases made : hookRequest call.reads call.p call.inp with
  | none =>
      apply EntryChange.keeps
      · simp only [hookResult, hook_of_no_request made]
      · simp only [hookTaken, made, countBorn]
  | some request =>
      obtain ⟨hl, r⟩ := request
      have outcome := hookFlows_outcome s.flows r
      simp only [hookResult, hook_flows made, hookTaken, made]
      generalize hookFlows s.flows r = decision at *
      cases outcome with
      | continues i _ =>
          exact EntryChange.keeps (flowTouch_state s.flows i j r.now) rfl
      | passes _ _ =>
          exact EntryChange.keeps rfl rfl
      | refuses _ _ _ =>
          rcases flowFree_entry s.flows r.sport j with notLive | same
          · exact EntryChange.freed notLive rfl
          · exact EntryChange.keeps (congrArg Flow.state same) rfl
      | starts i _ _ _ _ =>
          by_cases here : j = i
          · subst here
            apply EntryChange.opens
            · simp only [Function.update_self]
              rfl
            · simp only [countBorn, Function.update_self]
          · have sameBorn : countBorn s.born (some i) j = s.born j :=
              Function.update_of_ne here _ _
            rcases flowFree_entry s.flows r.sport j with notLive | same
            · refine EntryChange.freed ?_ sameBorn
              simp only [Function.update_of_ne here]
              exact notLive
            · refine EntryChange.keeps ?_ sameBorn
              simp only [Function.update_of_ne here, same]

theorem outsideStep_entryChange (s : Redirector) (event : OutsideEvent)
    (j : Fin flowMax) : EntryChange s (s.outsideStep event) j := by
  cases event with
  | arrive p inp now =>
      simp only [outsideStep]
      split
      · exact EntryChange.keeps rfl rfl
      · exact EntryChange.keeps rfl rfl
  | commit =>
      cases inFlight : s.hook with
      | none =>
          apply EntryChange.keeps
          · simp only [outsideStep, inFlight]
          · simp only [outsideStep, inFlight]
      | some call =>
          exact commit_entryChange inFlight j
  | output p now cloned =>
      refine EntryChange.keeps ?_ rfl
      rcases output_flows now cloned p s.flows with same | ⟨i, touched⟩
      · simp only [outsideStep, same]
      · simp only [outsideStep, touched]
        exact flowTouch_state s.flows i j now
  | attach output =>
      refine EntryChange.freed ?_ rfl
      simp only [outsideStep, attach_flows]
      rfl
  | wifi up =>
      exact EntryChange.keeps rfl rfl
  | proxySet io on host port =>
      exact EntryChange.keeps rfl rfl

end Entries

/-! ## Isolation -/

/-- An entry in use is active unless a session of its flow has been closed, and
flows whose sessions were closed are not flows to come. -/
structure Isolated (rd : Redirector) (ended : List FlowId) : Prop where
  ok : rd.flows.Ok
  active :
    ∀ j, (rd.flows j).live → (j, rd.born j) ∉ ended →
      (rd.flows j).state = .active
  past : ∀ id ∈ ended, id.2 ≤ rd.born id.1

section Isolation

variable {rd : Redirector} {ended : List FlowId}

theorem born_le_outsideStep (rd : Redirector) (event : OutsideEvent)
    (j : Fin flowMax) : rd.born j ≤ (rd.outsideStep event).born j := by
  cases outsideStep_entryChange rd event j with
  | freed _ sameBorn =>
      exact sameBorn.ge
  | keeps _ sameBorn =>
      exact sameBorn.ge
  | opens _ nextBorn =>
      rw [nextBorn]
      exact Nat.le_succ _

theorem born_le_outsideRun (rd : Redirector) (events : List OutsideEvent)
    (j : Fin flowMax) : rd.born j ≤ (rd.outsideRun events).born j :=
  run_invariant (fun after : Redirector => rd.born j ≤ after.born j)
    (fun after event before =>
      before.trans (born_le_outsideStep after event j))
    (Nat.le_refl _) events

theorem Isolated.outsideStep (isolated : Isolated rd ended)
    (event : OutsideEvent) : Isolated (rd.outsideStep event) ended := by
  refine ⟨step_ok rd (.outside event) isolated.ok, ?_, ?_⟩
  · intro j isLive notEnded
    cases outsideStep_entryChange rd event j with
    | freed notLive _ =>
        rw [notLive] at isLive
        cases isLive
    | keeps sameState sameBorn =>
        rw [sameState]
        rw [sameBorn] at notEnded
        apply isolated.active j _ notEnded
        rw [flow_live_iff, ← sameState, ← flow_live_iff]
        exact isLive
    | opens isActive _ =>
        exact isActive
  · intro id member
    exact (isolated.past id member).trans (born_le_outsideStep rd event id.1)

theorem Isolated.outsideRun (isolated : Isolated rd ended)
    (events : List OutsideEvent) : Isolated (rd.outsideRun events) ended :=
  run_invariant (fun after : Redirector => Isolated after ended)
    (fun _ event before => before.outsideStep event) isolated events

theorem Isolated.append (isolated : Isolated rd ended) {more : List FlowId}
    (past : ∀ id ∈ more, id.2 ≤ rd.born id.1) :
    Isolated rd (more ++ ended) := by
  refine ⟨isolated.ok, ?_, ?_⟩
  · intro j isLive notEnded
    exact
      isolated.active j isLive fun member =>
        notEnded (List.mem_append_right more member)
  · intro id member
    rcases List.mem_append.mp member with isMore | before
    · exact past id isMore
    · exact isolated.past id before

theorem Isolated.relayClose (isolated : Isolated rd ended)
    {phonePort : UInt16} (own : ∀ id, flowOf rd phonePort = some id → id ∈ ended)
    (now : UInt32) :
    Isolated (rd.step (.relayClose phonePort now)) ended := by
  refine ⟨isolated.ok.flowMarkClosed phonePort now, ?_, isolated.past⟩
  intro j isLive notEnded
  rcases flowMarkClosed_entry rd.flows phonePort now j with found | same
  · have isOwn := own (j, rd.born j) (by rw [flowOf, found]; rfl)
    exact absurd isOwn notEnded
  · simp only [step, same] at isLive ⊢
    exact isolated.active j isLive notEnded

theorem Isolated.congr {after : Redirector} (isolated : Isolated rd ended)
    (flows : after.flows = rd.flows) (born : after.born = rd.born) :
    Isolated after ended := by
  constructor
  · rw [flows]
    exact isolated.ok
  · rw [flows, born]
    exact isolated.active
  · rw [born]
    exact isolated.past

theorem Isolated.proxyInit (isolated : Isolated rd ended) (opened : Bool) :
    Isolated (rd.step (.proxyInit opened)) ended := by
  simp only [step]
  split
  · exact isolated.congr rfl rfl
  · exact isolated

theorem Isolated.listen (isolated : Isolated rd ended) (http tls : Bool) :
    Isolated (rd.step (.listen http tls)) ended := by
  simp only [step]
  split
  · split
    · exact isolated.congr rfl rfl
    · exact isolated.congr rfl rfl
  · exact isolated

end Isolation

/-! ## Closings of the relay task -/

namespace Relay

/-- The step runs `flow_mark_closed` for a connection that was accepted: with
the table found at that moment, the phone port, and the flow the connection was
accepted on. -/
inductive Closing (w : Relay) :
    RelayEvent → Redirector → UInt16 → Option FlowId → Prop
  | service {i : Fin sessMax} {io : SessIo} {rd wr : Int → Bool}
      {now : UInt32} (isUsed : (w.sess i).used = true)
      (ended : (sessService io rd wr now (w.ctx i)).s.used = false) :
      Closing w (.service i io rd wr now)
        (w.shared.rd.outsideRun io.meanwhile) (w.sess i).phonePort
        (w.record.acceptedOn i)
  | timeout {i : Fin sessMax} {io : SessIo} {now : UInt32}
      (isUsed : (w.sess i).used = true)
      (isPast : pastDeadline now (w.sess i).deadline = true) :
      Closing w (.timeout i io now) (w.shared.rd.outsideRun io.meanwhile)
        (w.sess i).phonePort (w.record.acceptedOn i)
  | drop {tls : Bool} {io : AcceptIo} {now : UInt32}
      (redirected : Redirected w tls io)
      (noRoom : freeSlot w.sess = none ∨ ¬ HasMemory w io) :
      Closing w (.accept tls io now)
        ((w.outside io.before).shared.rd.outsideRun io.meanwhile) io.pport
        (flowOf (w.outside io.before).shared.rd io.pport)

/-- At the closing, if there is one, the entry in use for the phone port, if
there is one, is the flow the connection was accepted on. -/
def ClosesOwn (w : Relay) (event : RelayEvent) : Prop :=
  ∀ rd phonePort flow, Closing w event rd phonePort flow →
    ∀ id, flowOf rd phonePort = some id → flow = some id

/-- The closing, if there is one, leaves the table as `flow_mark_closed` does,
and changes no entry but that of the flow the connection was accepted on. -/
def ChangesOnlyOwn (w : Relay) (event : RelayEvent) : Prop :=
  ∀ rd phonePort flow, Closing w event rd phonePort flow →
    ∃ now, (w.step event).shared.rd = rd.step (.relayClose phonePort now) ∧
      ∀ j, (w.step event).shared.rd.flows j ≠ rd.flows j →
        flow = some (j, rd.born j)

/-- A flow in the table whose own connections have not been closed is active:
it can be accepted, and `flow_slot` gives its entry away only when it has been
idle for long. -/
def OpenFlowsActive (w : Relay) : Prop :=
  ∀ j, (w.shared.rd.flows j).live →
    (j, w.shared.rd.born j) ∉ w.record.ended →
      (w.shared.rd.flows j).state = .active ∧
        flowLookup w.shared.rd.flows (w.shared.rd.flows j).phonePort
            (w.shared.rd.flows j).relayPort =
          some
            ((w.shared.rd.flows j).origIp, (w.shared.rd.flows j).origPort) ∧
        ∀ now, flowSlot w.shared.rd.flows now = some j →
          now - (w.shared.rd.flows j).stampMs > idleMs

/-- The invariant of runs whose closings are all of own flows. -/
structure FlowsKept (w : Relay) : Prop where
  isolated : Isolated w.shared.rd w.record.ended
  accepted :
    ∀ i id, w.record.acceptedOn i = some id →
      id.2 ≤ w.shared.rd.born id.1

variable {w : Relay}

theorem FlowsKept.openFlowsActive (kept : w.FlowsKept) :
    w.OpenFlowsActive := by
  intro j isLive notEnded
  have isActive := kept.isolated.active j isLive notEnded
  have found :
      flowFind w.shared.rd.flows (w.shared.rd.flows j).phonePort = some j :=
    kept.isolated.ok.flowFind_iff.mpr ⟨isLive, rfl⟩
  refine ⟨isActive, ?_, ?_⟩
  · simp [flowLookup, found, isActive]
  · intro now chosen
    rcases flowSlot_takeable chosen with isFree | isClosed | isIdle
    · rw [isActive] at isFree
      cases isFree
    · rw [isActive] at isClosed
      cases isClosed
    · exact isIdle

theorem flowOf_le {rd : Redirector} {phonePort : UInt16} {id : FlowId}
    (found : flowOf rd phonePort = some id) : id.2 ≤ rd.born id.1 := by
  obtain ⟨j, _, rfl⟩ := Option.map_eq_some_iff.mp found
  exact Nat.le_refl _

/-- Closing a connection of the flow `flow` at phone port `phonePort`. -/
theorem FlowsKept.closes (kept : w.FlowsKept) {after : Relay}
    {rd : Redirector} {phonePort : UInt16} {flow : Option FlowId}
    {now : UInt32} {events : List OutsideEvent}
    (past : ∀ id, flow = some id → id.2 ≤ rd.born id.1)
    (own :
      ∀ id, flowOf (rd.outsideRun events) phonePort = some id →
        flow = some id)
    (isolated : Isolated rd w.record.ended)
    (grows : ∀ j, w.shared.rd.born j ≤ rd.born j)
    (sameRd :
      after.shared.rd =
        (rd.outsideRun events).step (.relayClose phonePort now))
    (ended : after.record.ended = flow.toList ++ w.record.ended)
    (accepted :
      ∀ i id, after.record.acceptedOn i = some id →
        w.record.acceptedOn i = some id) :
    after.FlowsKept := by
  have later (j : Fin flowMax) :
      rd.born j ≤ (rd.outsideRun events).born j :=
    born_le_outsideRun rd events j
  constructor
  · rw [sameRd, ended]
    apply Isolated.relayClose
    · apply (isolated.outsideRun events).append
      intro id member
      exact (past id (Option.mem_toList.mp member)).trans (later id.1)
    · intro id found
      apply List.mem_append_left
      rw [own id found]
      exact List.mem_singleton_self id
  · intro i id acceptedOn
    rw [sameRd]
    exact
      ((kept.accepted i id (accepted i id acceptedOn)).trans
        (grows id.1)).trans (later id.1)

theorem update_none_eq_some {record : Fin sessMax → Option FlowId}
    {i k : Fin sessMax} {id : FlowId}
    (accepted : Function.update record i none k = some id) :
    record k = some id := by
  by_cases here : k = i
  · rw [here, Function.update_self] at accepted
    cases accepted
  · rw [Function.update_of_ne here] at accepted
    exact accepted

theorem FlowsKept.sessClose (kept : w.FlowsKept) {i : Fin sessMax}
    {io : SessIo} {last : SessCtx} (why : String)
    (sameRd : last.shared.rd = w.shared.rd)
    (samePort : last.s.phonePort = (w.sess i).phonePort)
    (own :
      ∀ id,
        flowOf (w.shared.rd.outsideRun io.meanwhile) (w.sess i).phonePort =
            some id →
          w.record.acceptedOn i = some id) :
    (w.put i (Proxy.sessClose io why last)).FlowsKept := by
  apply kept.closes (kept.accepted i) own kept.isolated (fun _ => Nat.le_refl _)
  · change
      (last.shared.rd.outsideRun io.meanwhile).step
          (.relayClose last.s.phonePort io.closeMs) =
        _
    rw [sameRd, samePort]
  · rfl
  · intro k id
    exact update_none_eq_some

theorem FlowsKept.outside (kept : w.FlowsKept) (events : List OutsideEvent) :
    (w.outside events).FlowsKept :=
  ⟨kept.isolated.outsideRun events, fun i id accepted =>
    (kept.accepted i id accepted).trans
      (born_le_outsideRun w.shared.rd events id.1)⟩

theorem FlowsKept.service (kept : w.FlowsKept) {i : Fin sessMax} {io : SessIo}
    {rd wr : Int → Bool} {now : UInt32}
    (closesOwn : w.ClosesOwn (.service i io rd wr now)) :
    (w.service i io rd wr now).FlowsKept := by
  unfold Relay.service
  split
  · next isUsed =>
    have ends := sessService_ends io rd wr now (w.ctx i)
    have own := fun ended => closesOwn _ _ _ (Closing.service isUsed ended)
    generalize sessService io rd wr now (w.ctx i) = after at *
    cases ends with
    | closes last why sameRd samePort =>
        exact kept.sessClose why sameRd samePort (own rfl)
    | stays after sameRd _ sameUsed =>
        have stillUsed : after.s.used = true := sameUsed.trans isUsed
        constructor
        · simp only [put, RelayRecord.after, stillUsed, if_true, sameRd]
          exact kept.isolated
        · simp only [put, RelayRecord.after, stillUsed, if_true, sameRd]
          exact kept.accepted
  · exact kept

theorem FlowsKept.timeout (kept : w.FlowsKept) {i : Fin sessMax} {io : SessIo}
    {now : UInt32} (closesOwn : w.ClosesOwn (.timeout i io now)) :
    (w.timeout i io now).FlowsKept := by
  unfold Relay.timeout
  split
  · next expired =>
    have own := closesOwn _ _ _ (Closing.timeout expired.1 expired.2)
    unfold sessTimeout
    split <;> exact kept.sessClose _ rfl rfl own
  · exact kept

theorem FlowsKept.drop (kept : w.FlowsKept) {io : AcceptIo} (slot : Bool)
    (own :
      ∀ id,
        flowOf ((w.outside io.before).shared.rd.outsideRun io.meanwhile)
            io.pport =
            some id →
          flowOf (w.outside io.before).shared.rd io.pport = some id) :
    ((w.accepted io).drop io.conn io slot).FlowsKept :=
  kept.closes (fun _ found => flowOf_le found) own
    (kept.isolated.outsideRun io.before)
    (born_le_outsideRun w.shared.rd io.before) rfl rfl fun _ _ => id

theorem FlowsKept.doAccept (kept : w.FlowsKept) {tls : Bool} {io : AcceptIo}
    {now : UInt32} (closesOwn : w.ClosesOwn (.accept tls io now)) :
    (w.doAccept tls io now).FlowsKept := by
  have outcome := doAccept_outcome w tls io now
  generalize w.doAccept tls io now = after at *
  cases outcome with
  | nothing _ =>
      exact kept.outside io.before
  | noSlot redirected full =>
      exact
        kept.drop false
          (closesOwn _ _ _ (Closing.drop redirected (Or.inl full)))
  | noMemory i redirected _ noMem =>
      exact
        kept.drop true
          (closesOwn _ _ _ (Closing.drop redirected (Or.inr noMem)))
  | begins i mem origIp _ _ _ _ =>
      have waited := kept.outside io.before
      refine ⟨waited.isolated, ?_⟩
      intro k id accepted
      by_cases here : k = i
      · subst here
        simp only [begin, Function.update_self] at accepted
        exact flowOf_le accepted
      · simp only [begin, Function.update_of_ne here] at accepted
        exact waited.accepted k id accepted

theorem FlowsKept.step (kept : w.FlowsKept) {event : RelayEvent}
    (closesOwn : w.ClosesOwn event) : (w.step event).FlowsKept := by
  cases event with
  | outside event =>
      exact kept.outside [event]
  | service i io rd wr now =>
      exact kept.service closesOwn
  | accept tls io now =>
      exact kept.doAccept closesOwn
  | timeout i io now =>
      exact kept.timeout closesOwn

/-- A closing runs `flow_mark_closed` on the table it finds. -/
theorem closing_step {event : RelayEvent} {rd : Redirector}
    {phonePort : UInt16} {flow : Option FlowId}
    (closing : Closing w event rd phonePort flow) :
    ∃ now, (w.step event).shared.rd = rd.step (.relayClose phonePort now) := by
  cases closing with
  | @service i io rd wr now isUsed ended =>
      simp only [Relay.step, Relay.service, if_pos isUsed]
      have ends := sessService_ends io rd wr now (w.ctx i)
      generalize sessService io rd wr now (w.ctx i) = after at *
      cases ends with
      | closes last why sameRd samePort =>
          refine ⟨io.closeMs, ?_⟩
          simp only [put, Proxy.sessClose, sameRd, samePort]
          rfl
      | stays after _ _ sameUsed =>
          have stillUsed : after.s.used = true := sameUsed.trans isUsed
          rw [ended] at stillUsed
          cases stillUsed
  | @timeout i io now isUsed isPast =>
      refine ⟨io.closeMs, ?_⟩
      simp only [Relay.step, Relay.timeout, if_pos (And.intro isUsed isPast)]
      unfold sessTimeout
      split <;> rfl
  | @drop tls io now redirected noRoom =>
      have outcome := doAccept_outcome w tls io now
      refine ⟨io.closeMs, ?_⟩
      simp only [Relay.step]
      generalize w.doAccept tls io now = after at *
      cases outcome with
      | nothing notRedirected =>
          exact absurd redirected notRedirected
      | noSlot _ _ =>
          rfl
      | noMemory _ _ _ _ =>
          rfl
      | begins i mem _ _ found hint memFresh =>
          rcases noRoom with full | noMem
          · rw [found] at full
            cases full
          · exact absurd ⟨mem, hint, memFresh⟩ noMem

theorem ClosesOwn.changesOnlyOwn {event : RelayEvent}
    (closesOwn : w.ClosesOwn event) : w.ChangesOnlyOwn event := by
  intro rd phonePort flow closing
  obtain ⟨now, marked⟩ := closing_step closing
  refine ⟨now, marked, ?_⟩
  intro j changed
  rw [marked] at changed
  rcases flowMarkClosed_entry rd.flows phonePort now j with found | same
  · apply closesOwn rd phonePort flow closing
    rw [flowOf, found]
    rfl
  · exact absurd same changed

/-- The relay task starts after boot: `proxy_init` has loaded the settings, and
other tasks have run before and after. -/
def bootedTask (nvs : Nvs) (before between : List OutsideEvent)
    (opened : Bool) (http tls : ListenIo) : Relay :=
  proxyTaskStart http tls
    ((((Redirector.boot nvs).outsideRun before).step
      (.proxyInit opened)).outsideRun between)

theorem bootedTask_flowsKept (nvs : Nvs) (before between : List OutsideEvent)
    (opened : Bool) (http tls : ListenIo) :
    (bootedTask nvs before between opened http tls).FlowsKept := by
  have booted : Isolated (Redirector.boot nvs) [] := by
    refine ⟨FlowTable.zero_ok, ?_, ?_⟩
    · intro _ isLive
      cases isLive
    · intro _ member
      cases member
  have started :=
    ((booted.outsideRun before).proxyInit opened).outsideRun between
  exact
    ⟨started.listen _ _, fun _ _ accepted => by cases accepted⟩

/-- In every run of the relay task and the tasks around it in which each
closing finds its own flow, or none, at its phone port: each closing changes
only the flow its connection was accepted on, and at the end, as in every state
on the way, the flows whose connections have not been closed are active, can be
accepted, and are not given away as closed ones. -/
theorem closings_change_own_flows (nvs : Nvs)
    (before between : List OutsideEvent) (opened : Bool)
    (http tls : ListenIo) (events : List RelayEvent)
    (closesOwn :
      Along step ClosesOwn (bootedTask nvs before between opened http tls)
        events) :
    Along step ChangesOnlyOwn (bootedTask nvs before between opened http tls)
        events ∧
      ∀ earlier, earlier <+: events →
        OpenFlowsActive
          (run step (bootedTask nvs before between opened http tls)
            earlier) := by
  refine ⟨closesOwn.mono fun _ _ own => own.changesOnlyOwn, ?_⟩
  rintro earlier ⟨later, rfl⟩
  have kept :=
    run_invariant_along FlowsKept (fun _ _ kept own => kept.step own)
      (bootedTask_flowsKept nvs before between opened http tls)
      ((along_append _ earlier later).mp closesOwn).1
  exact kept.openFlowsActive

/-- The proxy is on, and the phone has opened a connection from port 5001 to
port 80 and one from port 5002 to port 443. -/
def twoDialled : List OutsideEvent :=
  [.wifi true] ++ dial 5001 80 ++ dial 5002 443

def dialledTask : Relay :=
  bootedTask ⟨some 1, some [112], some 3130⟩ [] twoDialled true ⟨3, true⟩
    ⟨4, true⟩

/-- The first connection is accepted and runs into its deadline: its flow is
closed, the other one stays active. -/
theorem closings_change_own_flows_timeout :
    let accepted := .accept false (phoneConn 5001 5) 8
    let expired := .timeout 0 quietSess 20000
    (run step dialledTask [accepted, expired]).record.ended = [(0, 1)] ∧
      OpenFlowsActive (run step dialledTask [accepted, expired]) := by
  intro accepted expired
  have acceptsOwn :
      ClosesOwn dialledTask (.accept false (phoneConn 5001 5) 8) := by
    intro rd phonePort flow closing
    cases closing with
    | drop _ noRoom =>
        rcases noRoom with full | noMem
        · exact absurd full (by decide +kernel)
        · exact absurd ⟨5, rfl, by decide +kernel⟩ noMem
  have closesOwn :
      ClosesOwn (dialledTask.step accepted) (.timeout 0 quietSess 20000) := by
    intro rd phonePort flow closing
    cases closing with
    | timeout _ _ =>
        intro id found
        rw [← found]
        decide +kernel
  refine ⟨by decide +kernel, ?_⟩
  exact
    (closings_change_own_flows ⟨some 1, some [112], some 3130⟩ [] twoDialled
      true ⟨3, true⟩ ⟨4, true⟩ [accepted, expired]
      ⟨acceptsOwn, closesOwn, trivial⟩).2 _ List.prefix_rfl

/-- The phone uses port 5001 again, for port 443, while the relay still has the
session of the first connection. -/
def portReused : Relay :=
  proxyTask ⟨3, true⟩ ⟨4, true⟩
    (((Redirector.boot ⟨some 1, some [112], some 3130⟩).step
      (.proxyInit true)).outsideRun ([.wifi true] ++ dial 5001 80))
    [{ quietPass with
        selected := 1
        readable := fun fd => fd == 3
        accept := fun _ => phoneConn 5001 5 },
      { quietPass with waiting := dial 5001 443 }]

/-- When the old session runs into its deadline, the flow of the new connection
is marked closed, and the new connection cannot be accepted any more. -/
theorem old_session_closes_new_flow :
    let w := portReused
    let w' := w.pass { quietPass with now := 20000 }
    w.record.acceptedOn 0 = some (0, 1) ∧
      flowOf w.shared.rd 5001 = some (0, 2) ∧
      flowLookup w.shared.rd.flows 5001 relayTlsPort =
        some (swap32 (lwipMakeU32 93 184 216 34), 443) ∧
      w'.record.ended = [(0, 1)] ∧
      flowOf w'.shared.rd 5001 = some (0, 2) ∧
      (w'.shared.rd.flows 0).state = .closed ∧
      flowLookup w'.shared.rd.flows 5001 relayTlsPort = none := by
  decide +kernel

end Relay

end VeteraBridge.Proxy

import VeteraBridge.Proxy.StickyRedirect

/-!
# After the relay task has given up

`proxy_task` clears `px_ready` when it cannot open its listeners, and nothing
listens on the relay ports from then on.  Saving the settings recomputes
`px_ready` from the settings alone, so it stays clear exactly as long as no
save turns the proxy on with a host and a port.
-/

namespace VeteraBridge.Proxy

open EventRun Redirector

/-- The event saves settings that turn the proxy on. -/
def SwitchesOn : Event → Prop
  | .outside (.proxySet _ on host port) => Enables on host port
  | _ => False

/-- Nothing can be redirected: `px_ready` is clear, the table is empty, and no
hook call under way has read `px_ready` set. -/
structure Dormant (s : Redirector) : Prop where
  gone : s.task = .gaveUp
  notReady : s.settings.pxReady = false
  empty : ∀ phonePort, flowFind s.flows phonePort = none
  unread : ∀ call, s.hook = some call → call.reads.pxReady = false

section Steps

variable {s : Redirector} {event : Event}

theorem step_notReady (gone : s.task = .gaveUp)
    (notReady : s.settings.pxReady = false)
    (notOn : ¬ SwitchesOn event) :
    (s.step event).task = .gaveUp ∧
      (s.step event).settings.pxReady = false := by
  cases event with
  | outside event =>
      cases event with
      | arrive p inp now =>
          simp only [step, outsideStep]
          split
          · exact ⟨gone, notReady⟩
          · exact ⟨gone, notReady⟩
      | commit =>
          simp only [step, outsideStep]
          split
          · exact ⟨gone, notReady⟩
          · exact ⟨gone, notReady⟩
      | output p now cloned =>
          exact ⟨gone, notReady⟩
      | attach output =>
          exact ⟨gone, notReady⟩
      | wifi up =>
          exact ⟨gone, notReady⟩
      | proxySet io on host port =>
          refine ⟨gone, ?_⟩
          by_contra ready
          have stored : (storeSettings on host port).pxReady = true :=
            Bool.not_eq_false _ ▸ ready
          exact notOn ((storeSettings_ready_iff on host port).mp stored)
  | proxyInit opened =>
      simp [step, gone, notReady]
  | listen http tls =>
      simp [step, gone, notReady]
  | relayClose phonePort now =>
      exact ⟨gone, notReady⟩

theorem step_ready (on : SwitchesOn event) :
    (s.step event).settings.pxReady = true := by
  cases event with
  | outside event =>
      cases event with
      | proxySet io on' host port =>
          exact (storeSettings_ready_iff on' host port).mpr on
      | _ =>
          exact on.elim
  | _ =>
      exact on.elim

/-- In a dormant state the hook leaves every packet alone and starts no
flow. -/
theorem Dormant.unchanged (dormant : Dormant s) {call : HookCall}
    (inFlight : s.hook = some call) :
    (hookResult s.flows call).1 = call.p := by
  cases made : hookRequest call.reads call.p call.inp with
  | none =>
      simp only [hookResult, hook_of_no_request made]
  | some request =>
      obtain ⟨hl, r⟩ := request
      have spec := hookRequest_spec made
      apply hook_packet_of_unmatched made
      have noIntercept : r.intercept = false := by
        rw [spec.intercept, dormant.unread call inFlight]
        simp
      have outcome := hookFlows_outcome s.flows r
      generalize hookFlows s.flows r = decision at *
      cases outcome with
      | continues i belongs =>
          have absent := dormant.empty r.sport
          rw [belongs.1] at absent
          cases absent
      | passes _ _ =>
          rfl
      | refuses _ _ _ =>
          rfl
      | starts _ _ _ intercepts _ =>
          rw [noIntercept] at intercepts
          cases intercepts

/-- A dormant state stays dormant unless the step switches the proxy on. -/
theorem Dormant.next (dormant : Dormant s) (notOn : ¬ SwitchesOn event) :
    Dormant (s.step event) := by
  obtain ⟨gone, notReady⟩ := step_notReady dormant.gone dormant.notReady notOn
  refine ⟨gone, notReady, ?_, ?_⟩
  · intro phonePort
    apply step_absent (dormant.empty phonePort)
    rintro ⟨_, call, _, inFlight, _, _, _, rewritten⟩
    exact rewritten (dormant.unchanged inFlight)
  · intro call inFlight
    have hook := step_hook s event
    rw [inFlight] at hook
    generalize under : some call = after at hook
    cases hook with
    | keeps _ _ =>
        exact dormant.unread call under.symm
    | starts _ _ _ _ =>
        cases under
        exact dormant.notReady
    | commits =>
        cases under

end Steps

/-- From a state in which the relay task is gone and `px_ready` is clear,
`px_ready` is clear in every later state exactly if no later event switches
the proxy on. -/
theorem always_notReady_iff {s : Redirector} (gone : s.task = .gaveUp)
    (notReady : s.settings.pxReady = false) (later : List Event) :
    (∀ seen, seen <+: later → (run step s seen).settings.pxReady = false) ↔
      ∀ event ∈ later, ¬ SwitchesOn event := by
  induction later generalizing s with
  | nil =>
      simp [notReady]
  | cons event rest inductionHypothesis =>
      constructor
      · intro clear
        have first : ¬ SwitchesOn event := by
          intro on
          have ready := clear [event] (List.prefix_append [event] rest)
          rw [run_cons, run_nil, step_ready on] at ready
          cases ready
        obtain ⟨gone', notReady'⟩ := step_notReady gone notReady first
        have others :=
          (inductionHypothesis gone' notReady').mp fun seen isPrefix =>
            clear (event :: seen) (List.cons_prefix_cons.mpr ⟨rfl, isPrefix⟩)
        exact List.forall_mem_cons.mpr ⟨first, others⟩
      · intro neverOn seen isPrefix
        obtain ⟨first, others⟩ := List.forall_mem_cons.mp neverOn
        obtain ⟨gone', notReady'⟩ := step_notReady gone notReady first
        cases seen with
        | nil =>
            exact notReady
        | cons seenEvent seenRest =>
            obtain ⟨rfl, isPrefix'⟩ := List.cons_prefix_cons.mp isPrefix
            exact
              (inductionHypothesis gone' notReady').mpr others seenRest
                isPrefix'

theorem Dormant.after {s : Redirector} (dormant : Dormant s)
    {later : List Event} (neverOn : ∀ event ∈ later, ¬ SwitchesOn event) :
    Dormant (run step s later) := by
  induction later generalizing s with
  | nil =>
      exact dormant
  | cons event rest inductionHypothesis =>
      obtain ⟨first, others⟩ := List.forall_mem_cons.mp neverOn
      exact inductionHypothesis (dormant.next first) others

/-- Once the relay task has given up, `px_ready` is clear in every later state
exactly if no later save turns the proxy on with a host and a port; and if
none does and no flow and no hook call was left over at that moment, the hook
leaves every later packet as it is. -/
theorem ready_after_giving_up_iff (nvs : Nvs) (events : List Event)
    (http tls : Bool) (later : List Event)
    (starting : (run step (boot nvs) events).task = .starting)
    (failed : ¬ (http = true ∧ tls = true)) :
    let s := (run step (boot nvs) events).step (.listen http tls)
    s.task = .gaveUp ∧
    ((∀ seen, seen <+: later → (run step s seen).settings.pxReady = false) ↔
      ∀ event ∈ later, ¬ SwitchesOn event) ∧
    ((∀ event ∈ later, ¬ SwitchesOn event) →
      (∀ i, (s.flows i).state = .free) → s.hook = none →
      ∀ seen call, seen <+: later → (run step s seen).hook = some call →
        (hookResult (run step s seen).flows call).1 = call.p) := by
  intro s
  have notBoth : (http && tls) = false := by
    simpa using failed
  have gaveUp :
      s = { run step (boot nvs) events with
        settings := (run step (boot nvs) events).settings.giveUp
        task := .gaveUp } := by
    simp [s, step, starting, notBoth]
  have gone : s.task = .gaveUp := by rw [gaveUp]
  have notReady : s.settings.pxReady = false := by
    rw [gaveUp]
    rfl
  refine ⟨gone, always_notReady_iff gone notReady later, ?_⟩
  intro neverOn allFree noCall seen call isPrefix inFlight
  have dormant : Dormant s := by
    refine ⟨gone, notReady, ?_, ?_⟩
    · intro phonePort
      apply flowFind_eq_none_iff.mpr
      intro i live
      exact absurd (allFree i) ((flow_live_iff _).mp live)
    · intro call' inFlight'
      rw [noCall] at inFlight'
      cases inFlight'
  have neverOn' : ∀ event ∈ seen, ¬ SwitchesOn event :=
    fun event member => neverOn event (isPrefix.subset member)
  exact (dormant.after neverOn').unchanged inFlight

/-- The task fails at boot and the owner saves the same settings again: the
next SYN to port 80 goes to relay port 3080, where nobody listens. -/
def savedAfterFailure : List Event :=
  [.outside (.proxySet ⟨true, true, true, true⟩ true [112] 3130),
    .outside (.wifi true),
    .outside
      (.arrive (phoneSegment [93, 184, 216, 34] 5000 80 0x02) (some .ppp) 7)]

theorem ready_after_giving_up_saved :
    ¬ ∀ seen, seen <+: savedAfterFailure →
      (run step
          ((run step (boot ⟨some 1, some [112], some 3130⟩)
            [.proxyInit true]).step (.listen true false))
          seen).settings.pxReady = false := by
  intro clear
  have exact_condition :=
    ready_after_giving_up_iff ⟨some 1, some [112], some 3130⟩
      [.proxyInit true] true false savedAfterFailure (by decide) (by decide)
  exact
    exact_condition.2.1.mp clear _ List.mem_cons_self
      ⟨rfl, by decide, by decide⟩

theorem ready_again_after_giving_up :
    let s :=
      run step (boot ⟨some 1, some [112], some 3130⟩)
        [.proxyInit true, .listen true false]
    let s' := run step s savedAfterFailure
    s.task = .gaveUp ∧ s'.task = .gaveUp ∧ s'.settings.pxReady = true ∧
      (s'.hook.map fun call =>
          destPort (hookResult s'.flows call).1 20) =
        some relayHttpPort := by
  decide +kernel

end VeteraBridge.Proxy

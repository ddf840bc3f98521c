import VeteraBridge.Proxy.RelayTask
import VeteraBridge.Proxy.StickyRedirect

/-!
# New connections while the proxy is off

While the proxy is switched off or WiFi is down the hook starts no new flow.
A SYN is still redirected if the table has an active entry for its port and
destination: the hook takes it for one more SYN of that connection.  An entry
leaves the active state through a relay session only, so the entry of a
connection that was never accepted captures a later one.
-/

namespace VeteraBridge.Proxy

open ByteWords EventRun Redirector

def OffOrDown (s : Redirector) : Prop :=
  s.settings.pxReady = false ∨ s.wifiConnected = false

/-- The table has an active entry for a phone port and a destination. -/
def HeldActive (flows : FlowTable) (phonePort : UInt16) (ip : UInt32)
    (port : UInt16) : Prop :=
  ∃ i, flowFind flows phonePort = some i ∧ (flows i).state = .active ∧
    (flows i).origIp = ip ∧ (flows i).origPort = port

/-- From this state on, until a SYN of the port is redirected, no accept starts
a session for a connection from the port. -/
def NoSessionFor (phonePort : UInt16) (s : Redirector) : Prop :=
  ∀ later,
    Along step (fun s event => ¬ RedirectsSyn phonePort s event) s later →
      ∀ (w : Relay) (tls : Bool) (io : AcceptIo) (now : UInt32),
        (w.outside io.before).shared.rd = run step s later →
          io.pport = phonePort →
            (w.doAccept tls io now).sess = w.sess

/-! ## No session without an entry -/

theorem not_redirected_of_absent {w : Relay} {tls : Bool} {io : AcceptIo}
    (absent :
      flowFind (w.outside io.before).shared.rd.flows io.pport = none) :
    ¬ Redirected w tls io := by
  rintro ⟨_, _, lookup⟩
  unfold redirectedFrom at lookup
  split at lookup
  · cases lookup
  · rw [flowLookup_eq_none_of_absent (relayPort tls) absent] at lookup
    cases lookup

theorem doAccept_of_absent {w : Relay} {io : AcceptIo}
    (absent :
      flowFind (w.outside io.before).shared.rd.flows io.pport = none)
    (tls : Bool) (now : UInt32) :
    (w.doAccept tls io now).sess = w.sess := by
  have notRedirected : ¬ Redirected w tls io :=
    not_redirected_of_absent absent
  have outcome := doAccept_outcome w tls io now
  generalize w.doAccept tls io now = after at *
  cases outcome with
  | nothing _ =>
      rfl
  | noSlot redirected _ =>
      exact absurd redirected notRedirected
  | noMemory _ redirected _ _ =>
      exact absurd redirected notRedirected
  | begins _ _ _ redirected _ _ _ =>
      exact absurd redirected notRedirected

theorem noSessionFor_of_absent {s : Redirector} {phonePort : UInt16}
    (absent : flowFind s.flows phonePort = none) :
    NoSessionFor phonePort s := by
  intro later noRedirect w tls io now same here
  apply doAccept_of_absent
  rw [same, here]
  exact run_absent absent noRedirect

/-! ## The SYN -/

/-- A SYN that may not start a flow continues one exactly if the table holds
an active entry for its port and destination. -/
theorem continues_iff_heldActive {flows : FlowTable} {r : HookRequest}
    (isSyn : r.syn = true) :
    (∃ i, Continues flows r i) ↔ HeldActive flows r.sport r.dst r.dport := by
  constructor
  · rintro ⟨i, found, same, notClosed⟩
    simp only [sameDestination, Bool.and_eq_true, beq_iff_eq] at same
    refine ⟨i, found, ?_, same.1, same.2⟩
    have isLive := (flow_live_iff _).mp (flowFind_spec found).1
    cases state : (flows i).state with
    | free =>
        exact absurd state isLive
    | active =>
        rfl
    | closed =>
        exact absurd state (notClosed isSyn)
  · rintro ⟨i, found, isActive, sameIp, samePort⟩
    refine ⟨i, found, ?_, ?_⟩
    · simp [sameDestination, sameIp, samePort]
    · intro _ isClosed
      rw [isActive] at isClosed
      cases isClosed

theorem isMatch_iff_continues {flows : FlowTable} {r : HookRequest}
    (noIntercept : r.intercept = false) :
    (hookFlows flows r).isMatch = true ↔ ∃ i, Continues flows r i := by
  have outcome := hookFlows_outcome flows r
  generalize hookFlows flows r = decision at *
  cases outcome with
  | continues i belongs =>
      exact iff_of_true rfl ⟨i, belongs⟩
  | passes _ foreign =>
      exact
        iff_of_false Bool.false_ne_true fun ⟨i, belongs⟩ => foreign i belongs
  | refuses _ foreign _ =>
      exact
        iff_of_false Bool.false_ne_true fun ⟨i, belongs⟩ => foreign i belongs
  | starts _ _ _ intercepts _ =>
      rw [noIntercept] at intercepts
      cases intercepts

/-- A web SYN whose readings say that the proxy is off or WiFi is down passes
unmodified exactly if the table does not hold it. -/
theorem hookResult_eq_iff (flows : FlowTable) {call : HookCall} {hl : Nat}
    (segment : WebSegment call hl) (syn : isSyn call.p.payload hl = true)
    (off : (call.reads.pxReady && call.reads.wifiConnected) = false) :
    (hookResult flows call).1 = call.p ↔
      ¬ HeldActive flows (sourcePort call.p hl) (ipDest call.p.payload)
          (destPort call.p hl) := by
  obtain ⟨r, made, spec⟩ := segment.request
  have isSyn : r.syn = true := spec.syn.trans syn
  have noIntercept : r.intercept = false := by
    rw [spec.intercept, Bool.and_assoc, off, Bool.and_false]
  rw [hookResult, hook_packet_eq_iff made, ← Bool.not_eq_true, not_iff_not,
    isMatch_iff_continues noIntercept, continues_iff_heldActive isSyn,
    spec.sport, spec.dst, spec.dport]
  rfl

theorem hook_kept {s : Redirector} {call : HookCall}
    (inFlight : s.hook = some call) {between : List Event}
    (noCommit : .outside .commit ∉ between) :
    (run step s between).hook = some call := by
  induction between generalizing s with
  | nil =>
      exact inFlight
  | cons event rest inductionHypothesis =>
      rw [List.mem_cons, not_or] at noCommit
      rw [run_cons]
      apply inductionHypothesis _ noCommit.2
      have hook := step_hook s event
      generalize (s.step event).hook = after at *
      cases hook with
      | keeps _ _ =>
          exact inFlight
      | starts _ _ _ noCall =>
          rw [noCall] at inFlight
          cases inFlight
      | commits =>
          exact absurd rfl noCommit.1

/-- A web SYN that arrived while the proxy was off or WiFi was down, at the
moment it is handled. -/
theorem direct_and_noSession_iff {s : Redirector} {call : HookCall} {hl : Nat}
    (ok : s.flows.Ok) (inFlight : s.hook = some call)
    (segment : WebSegment call hl) (syn : isSyn call.p.payload hl = true)
    (off : (call.reads.pxReady && call.reads.wifiConnected) = false) :
    (hookResult s.flows call).1 = call.p ∧
        NoSessionFor (sourcePort call.p hl) (s.step (.outside .commit)) ↔
      ¬ HeldActive s.flows (sourcePort call.p hl) (ipDest call.p.payload)
          (destPort call.p hl) := by
  constructor
  · rintro ⟨direct, _⟩
    exact (hookResult_eq_iff s.flows segment syn off).mp direct
  · intro notHeld
    have direct := (hookResult_eq_iff s.flows segment syn off).mpr notHeld
    have absent := absent_of_direct_syn ok inFlight segment syn direct
    exact ⟨direct, noSessionFor_of_absent absent⟩

theorem arrive_hook {s : Redirector} (noCall : s.hook = none) (p : Pbuf)
    (inp : Option Netif) (now : UInt32) :
    (s.step (.outside (.arrive p inp now))).hook =
      some ⟨⟨s.settings.pxReady, s.wifiConnected, now⟩, p, inp⟩ := by
  simp [step, outsideStep, noCall]

theorem OffOrDown.reads {s : Redirector} (off : OffOrDown s) :
    (s.settings.pxReady && s.wifiConnected) = false := by
  rcases off with notReady | down
  · rw [notReady, Bool.false_and]
  · rw [down, Bool.and_false]

/-- In every reachable state in which the proxy is off or WiFi is down, for a
web SYN that arrives then and is handled after any steps of other tasks: it
passes unmodified and no session is started for its port until another SYN of
the port is redirected, exactly if the table the hook finds holds no active
entry for its port and destination. -/
theorem syn_direct_while_off_iff (nvs : Nvs) (events : List Event) (p : Pbuf)
    (hl : Nat) (now : UInt32) (between : List Event)
    (noCall : (run step (boot nvs) events).hook = none)
    (off : OffOrDown (run step (boot nvs) events))
    (headers : tcpHeaders p = some hl)
    (fromPhone : ipSrc p.payload = phoneAddrN)
    (notBridge : ipDest p.payload ≠ gwAddrN)
    (web : destPort p hl = 80 ∨ destPort p hl = 443)
    (syn : isSyn p.payload hl = true)
    (noCommit : .outside .commit ∉ between) :
    let s :=
      run step
        ((run step (boot nvs) events).step
          (.outside (.arrive p (some pppLinkNetif) now)))
        between
    ∃ call, s.hook = some call ∧ call.p = p ∧
      ((hookResult s.flows call).1 = p ∧
          NoSessionFor (sourcePort p hl) (s.step (.outside .commit)) ↔
        ¬ HeldActive s.flows (sourcePort p hl) (ipDest p.payload)
            (destPort p hl)) := by
  have ok :
      (run step
        ((run step (boot nvs) events).step
          (.outside (.arrive p (some pppLinkNetif) now)))
        between).flows.Ok :=
    run_invariant (fun s : Redirector => s.flows.Ok) step_ok
      (step_ok _ _ (run_ok nvs events)) between
  have inFlight :=
    hook_kept (arrive_hook noCall p (some pppLinkNetif) now) noCommit
  exact
    ⟨_, inFlight, rfl,
      direct_and_noSession_iff ok inFlight
        ⟨rfl, headers, fromPhone, notBridge, web⟩ syn off.reads⟩

/-- The first connection was accepted and is closed when the proxy is switched
off: a new one from the same port to the same destination is not redirected. -/
theorem syn_direct_after_closed :
    let syn := phoneSegment [93, 184, 216, 34] 5000 80 0x02
    let s :=
      run step (boot ⟨none, none, none⟩)
        (dialledOnce ++
          [.relayClose 5000 8,
            .outside (.proxySet ⟨true, true, true, true⟩ false [112] 3130)])
    ∃ call,
      (s.step (.outside (.arrive syn (some pppLinkNetif) 9))).hook =
          some call ∧
        call.p = syn ∧
        (hookResult
            (s.step (.outside (.arrive syn (some pppLinkNetif) 9))).flows
            call).1 = syn ∧
        NoSessionFor 5000
          ((s.step (.outside (.arrive syn (some pppLinkNetif) 9))).step
            (.outside .commit)) := by
  intro syn s
  obtain ⟨call, inFlight, isSyn, exact_condition⟩ :=
    syn_direct_while_off_iff ⟨none, none, none⟩
      (dialledOnce ++
        [.relayClose 5000 8,
          .outside (.proxySet ⟨true, true, true, true⟩ false [112] 3130)])
      syn 20 9 [] (by decide +kernel) (Or.inl (by decide +kernel))
      (by decide +kernel) (by decide +kernel) (by decide +kernel)
      (by decide +kernel) (by decide +kernel) List.not_mem_nil
  have port : sourcePort syn 20 = 5000 := by decide +kernel
  rw [port] at exact_condition
  refine ⟨call, inFlight, isSyn, exact_condition.mpr ?_⟩
  unfold HeldActive
  decide +kernel

/-! ## An old entry captures a new connection -/

/-- The phone's connection from port 5001 is redirected and reset before it is
accepted; then the proxy is switched off. -/
def resetAndOff : List OutsideEvent :=
  [.wifi true] ++ dial 5001 80 ++
    [.arrive (phoneSegment [93, 184, 216, 34] 5001 80 0x04) (some .ppp) 7,
      .commit, .proxySet ⟨true, true, true, true⟩ false [112] 3130]

def newSyn : Pbuf :=
  let syn := phoneSegment [93, 184, 216, 34] 5001 80 0x02
  { syn with payload := syn.payload.set 27 9 }

/-- The task when the new connection comes out of the listener of relay port
3080. -/
def captured : Redirector × Relay :=
  let rd :=
    (((Redirector.boot ⟨some 1, some [112], some 3130⟩).step
      (.proxyInit true)).outsideRun resetAndOff)
  (rd,
    proxyTask ⟨3, true⟩ ⟨4, true⟩
      (rd.outsideRun [.arrive newSyn (some .ppp) 9, .commit])
      [{ quietPass with
          selected := 1
          readable := fun fd => fd == 3
          accept := fun _ => phoneConn 5001 5 }])

/-- With the proxy switched off, a new connection from port 5001 is redirected
to the relay, which starts a session for it. -/
theorem new_connection_captured_while_off :
    let rd := captured.1
    let arrived := rd.outsideStep (.arrive newSyn (some .ppp) 9)
    OffOrDown rd ∧ rd.hook = none ∧ isSyn newSyn.payload 20 = true ∧
      newSyn ≠ phoneSegment [93, 184, 216, 34] 5001 80 0x02 ∧
      (arrived.hook.map fun call =>
          (ipDest (hookResult arrived.flows call).1.payload,
            destPort (hookResult arrived.flows call).1 20)) =
        some (gwAddrN, relayHttpPort) ∧
      captured.2.shared.rd.settings.pxReady = false ∧
      (captured.2.sess 0).used = true ∧
      (captured.2.sess 0).phonePort = 5001 := by
  refine ⟨Or.inl ?_, ?_⟩
  · decide +kernel
  · decide +kernel

end VeteraBridge.Proxy

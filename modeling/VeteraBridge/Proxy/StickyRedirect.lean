import VeteraBridge.Proxy.ReplySource

/-!
# A connection keeps its route

Whether a connection goes through the relay is decided by its SYN.  A web SYN
that is not rewritten leaves its phone port without an entry, and a port
without an entry gets one only from a rewritten SYN; a web SYN that is
rewritten leaves an entry that later segments to the same destination find,
whatever the settings and WiFi have become.
-/

namespace VeteraBridge.Proxy

open EventRun Redirector ByteWords

/-- The packet is one the hook considers: a whole TCP segment with its headers
in the first buffer, from the phone on the PPP interface to port 80 or 443 of
a host other than the bridge. -/
structure WebSegment (call : HookCall) (hl : Nat) : Prop where
  fromPpp : call.inp = some pppLinkNetif
  headers : tcpHeaders call.p = some hl
  fromPhone : ipSrc call.p.payload = phoneAddrN
  notBridge : ipDest call.p.payload ≠ gwAddrN
  web : destPort call.p hl = 80 ∨ destPort call.p hl = 443

/-- A fragment: its offset is not zero or more fragments follow. -/
def IsFragment (p : Pbuf) : Prop :=
  iphOffset p.payload &&& swap16 (ipOffmask ||| ipMf) ≠ 0

/-- The step rewrites a SYN the phone sent from this port. -/
def RedirectsSyn (phonePort : UInt16) (s : Redirector) (event : Event) :
    Prop :=
  event = .outside .commit ∧
    ∃ call hl, s.hook = some call ∧ tcpHeaders call.p = some hl ∧
      sourcePort call.p hl = phonePort ∧ isSyn call.p.payload hl = true ∧
      (hookResult s.flows call).1 ≠ call.p

section Calls

variable {flows : FlowTable} {call : HookCall} {hl : Nat}

theorem WebSegment.request (segment : WebSegment call hl) :
    ∃ r, hookRequest call.reads call.p call.inp = some (hl, r) ∧
      RequestOf call.reads call.p call.inp hl r := by
  obtain ⟨r, made⟩ :=
    hookRequest_of_segment segment.fromPpp segment.headers segment.fromPhone
      segment.notBridge segment.web
  exact ⟨r, made, hookRequest_spec made⟩

theorem webSegment_of_request {r : HookRequest}
    (made : hookRequest call.reads call.p call.inp = some (hl, r)) :
    WebSegment call hl := by
  have spec := hookRequest_spec made
  refine
    ⟨spec.fromPpp, spec.headers, spec.fromPhone, spec.notBridge, ?_⟩
  rw [destPort, ← spec.dport]
  exact r.web

/-- A packet the hook does not consider is left alone, and so is the table. -/
theorem hookResult_of_not_web (notWeb : ∀ hl, ¬ WebSegment call hl) :
    hookResult flows call = (call.p, flows) := by
  apply hook_of_no_request
  cases made : hookRequest call.reads call.p call.inp with
  | none =>
      rfl
  | some request =>
      exact absurd (webSegment_of_request made) (notWeb request.1)

/-- No fragment, no packet that is not TCP, not from the phone on the PPP
interface, to the bridge itself or to another port is ever touched. -/
theorem hookResult_of_excluded
    (excluded :
      IsFragment call.p ∨ iphProto call.p.payload ≠ ipProtoTcp ∨
        call.inp ≠ some pppLinkNetif ∨ ipSrc call.p.payload ≠ phoneAddrN ∨
        ipDest call.p.payload = gwAddrN ∨
        (∀ hl, tcpHeaders call.p = some hl →
          destPort call.p hl ≠ 80 ∧ destPort call.p hl ≠ 443)) :
    hookResult flows call = (call.p, flows) := by
  apply hookResult_of_not_web
  intro hl segment
  obtain ⟨_, _, _, isTcp, _, _, whole⟩ :=
    tcpHeaders_eq_some_iff.mp segment.headers
  rcases excluded with
    fragment | notTcp | notPpp | notPhone | toBridge | notWeb
  · exact fragment whole
  · exact notTcp isTcp
  · exact notPpp segment.fromPpp
  · exact notPhone segment.fromPhone
  · exact segment.notBridge toBridge
  · obtain ⟨notHttp, notTls⟩ := notWeb hl segment.headers
    exact segment.web.elim notHttp notTls

theorem hookResult_of_absent (headers : tcpHeaders call.p = some hl)
    (notSyn : isSyn call.p.payload hl = false)
    (absent : flowFind flows (sourcePort call.p hl) = none) :
    (hookResult flows call).1 = call.p := by
  cases made : hookRequest call.reads call.p call.inp with
  | none =>
      simp only [hookResult, hook_of_no_request made]
  | some request =>
      obtain ⟨hl', r⟩ := request
      have spec := hookRequest_spec made
      obtain rfl : hl' = hl := by
        rw [spec.headers] at headers
        exact Option.some.inj headers
      apply hook_packet_of_unmatched made
      apply isMatch_of_absent
      · rw [spec.sport]
        exact absent
      · rw [spec.syn]
        exact notSyn

end Calls

/-! ## A port without an entry -/

section Absent

variable {flows : FlowTable} {phonePort : UInt16}

theorem flowTouch_absent (absent : flowFind flows phonePort = none)
    (i : Fin flowMax) (now : UInt32) :
    flowFind (flowTouch flows i now) phonePort = none := by
  have notHere := flowFind_eq_none_iff.mp absent i
  unfold flowTouch
  unfold flowFind at absent ⊢
  exact KeyedSlots.find_update_eq_none absent notHere

theorem flowMarkClosed_absent (absent : flowFind flows phonePort = none)
    (other : UInt16) (now : UInt32) :
    flowFind (flowMarkClosed flows other now) phonePort = none := by
  unfold flowMarkClosed
  cases found : flowFind flows other with
  | none =>
      exact absent
  | some i =>
      have notHere :=
        flowFind_eq_none_iff.mp absent i (flowFind_spec found).1
      simp only [flowSetState]
      unfold flowFind at absent ⊢
      exact KeyedSlots.find_update_eq_none absent fun _ => notHere

theorem flowFind_zero (phonePort : UInt16) :
    flowFind FlowTable.zero phonePort = none :=
  flowFind_eq_none_iff.mpr fun _ live => Bool.noConfusion live

/-- A hook call brings in an entry for a port only by rewriting one of its
SYNs. -/
theorem hookResult_absent {call : HookCall}
    (absent : flowFind flows phonePort = none)
    (noSyn :
      ∀ hl, tcpHeaders call.p = some hl → sourcePort call.p hl = phonePort →
        isSyn call.p.payload hl = true → (hookResult flows call).1 = call.p) :
    flowFind (hookResult flows call).2 phonePort = none := by
  cases made : hookRequest call.reads call.p call.inp with
  | none =>
      simp only [hookResult, hook_of_no_request made]
      exact absent
  | some request =>
      obtain ⟨hl, r⟩ := request
      have spec := hookRequest_spec made
      simp only [hookResult, hook_flows made]
      apply flowFind_hookFlows_of_absent absent
      intro here syn
      apply (hook_packet_eq_iff made).mp
      apply noSyn hl spec.headers
      · rw [sourcePort, ← spec.sport, here]
      · rw [← spec.syn, syn]

end Absent

theorem Redirector.step_absent {s : Redirector} {event : Event}
    {phonePort : UInt16} (absent : flowFind s.flows phonePort = none)
    (noRedirect : ¬ RedirectsSyn phonePort s event) :
    flowFind (s.step event).flows phonePort = none := by
  have flows := step_flows s event
  generalize (s.step event).flows = after at *
  cases flows with
  | keeps =>
      exact absent
  | @hook call inFlight =>
      apply hookResult_absent absent
      intro hl headers here syn
      by_contra rewritten
      exact
        noRedirect ⟨rfl, call, hl, inFlight, headers, here, syn, rewritten⟩
  | touches _ i now =>
      exact flowTouch_absent absent i now
  | attaches _ =>
      exact flowFind_zero phonePort
  | closes other now =>
      exact flowMarkClosed_absent absent other now

/-- A port without an entry has none as long as none of its SYNs is
rewritten. -/
theorem Redirector.run_absent {s : Redirector} {phonePort : UInt16}
    (absent : flowFind s.flows phonePort = none) {later : List Event}
    (noRedirect :
      Along step (fun s event => ¬ RedirectsSyn phonePort s event) s later) :
    flowFind (run step s later).flows phonePort = none :=
  run_invariant_along
    (fun s : Redirector => flowFind s.flows phonePort = none)
    (fun _ _ => step_absent) absent noRedirect

/-! ## What a web SYN decides -/

section Decided

variable {s : Redirector} {call : HookCall} {hl : Nat}

/-- A web SYN that is not rewritten leaves its port without an entry. -/
theorem absent_of_direct_syn (ok : s.flows.Ok) (inFlight : s.hook = some call)
    (segment : WebSegment call hl) (syn : isSyn call.p.payload hl = true)
    (direct : (hookResult s.flows call).1 = call.p) :
    flowFind (s.step (.outside .commit)).flows (sourcePort call.p hl) =
      none := by
  obtain ⟨r, made, spec⟩ := segment.request
  rw [commit_flows inFlight, hookResult, hook_flows made, sourcePort,
    ← spec.sport]
  apply flowFind_of_unmatched_syn ok
  · rw [spec.syn, syn]
  · exact (hook_packet_eq_iff made).mp direct

/-- A segment to the destination of an entry in use is rewritten to its relay
port unless its own SYN frees that entry. -/
theorem hookResult_of_entry {flows : FlowTable} {i : Fin flowMax}
    (segment : WebSegment call hl)
    (found : flowFind flows (sourcePort call.p hl) = some i)
    (sameIp : (flows i).origIp = ipDest call.p.payload)
    (samePort : (flows i).origPort = destPort call.p hl)
    (notFreed :
      ∀ r, hookRequest call.reads call.p call.inp = some (hl, r) →
        ¬ HookFrees flows r i) :
    (hookResult flows call).1 =
      rewriteDst call.p hl gwAddrN
        (lwipHtons (relayFor (destPort call.p hl))) := by
  obtain ⟨r, made, spec⟩ := segment.request
  have present : flowFind flows r.sport = some i := by
    rw [spec.sport]
    exact found
  have same : sameDestination (flows i) r = true := by
    simp only [sameDestination, Bool.and_eq_true, beq_iff_eq]
    exact
      ⟨by rw [sameIp, spec.dst], by rw [samePort, destPort, spec.dport]⟩
  have belongs : Continues flows r i := by
    by_contra foreign
    cases syn : r.syn with
    | false =>
        exact foreign ⟨present, same, fun isSyn => by simp [syn] at isSyn⟩
    | true =>
        exact notFreed r made ⟨syn, present, foreign⟩
  have matched : (hookFlows flows r).isMatch = true := by
    have outcome := hookFlows_outcome flows r
    generalize hookFlows flows r = decision at *
    cases outcome with
    | continues _ _ =>
        rfl
    | passes _ foreign =>
        exact absurd belongs (foreign i)
    | refuses _ foreign _ =>
        exact absurd belongs (foreign i)
    | starts _ _ _ _ _ =>
        rfl
  rw [hookResult, hook_packet_of_isMatch made matched, destPort, spec.dport]

theorem hookResult_of_rewritten {flows : FlowTable}
    (segment : WebSegment call hl)
    (rewritten : (hookResult flows call).1 ≠ call.p) :
    (hookResult flows call).1 =
      rewriteDst call.p hl gwAddrN
        (lwipHtons (relayFor (destPort call.p hl))) := by
  obtain ⟨hl', r, made, matched⟩ := hook_packet_ne rewritten
  have spec := hookRequest_spec made
  obtain rfl : hl' = hl :=
    Option.some.inj (spec.headers.symm.trans segment.headers)
  rw [hookResult, hook_packet_of_isMatch made matched, destPort, spec.dport]

end Decided

/-- In every reachable state with a hook call under way: if the packet is a
web SYN and passes unmodified, no later segment of its port that is no SYN is
rewritten until another SYN of the port is; if it is rewritten, every later
segment of its port to the same destination goes to the same relay port until
a step releases the entry; and what the hook does not consider is never
modified. -/
theorem redirect_sticks (nvs : Nvs) (events : List Event) :
    let s := run step (boot nvs) events
    (∀ call hl, s.hook = some call → WebSegment call hl →
      isSyn call.p.payload hl = true →
      ((hookResult s.flows call).1 = call.p →
        ∀ later,
          Along step
              (fun s event => ¬ RedirectsSyn (sourcePort call.p hl) s event)
              (s.step (.outside .commit)) later →
          ∀ call' hl',
            (run step (s.step (.outside .commit)) later).hook = some call' →
            tcpHeaders call'.p = some hl' →
            sourcePort call'.p hl' = sourcePort call.p hl →
            isSyn call'.p.payload hl' = false →
            (hookResult
                (run step (s.step (.outside .commit)) later).flows
                call').1 = call'.p) ∧
      ((hookResult s.flows call).1 ≠ call.p →
        (hookResult s.flows call).1 =
            rewriteDst call.p hl gwAddrN
              (lwipHtons (relayFor (destPort call.p hl))) ∧
        ∃ i,
          flowFind (s.step (.outside .commit)).flows (sourcePort call.p hl) =
            some i ∧
          ∀ later,
            Along step (fun s event => ¬ Releases i s event)
                (s.step (.outside .commit)) later →
            ∀ call' hl',
              (run step (s.step (.outside .commit)) later).hook =
                some call' →
              WebSegment call' hl' →
              sourcePort call'.p hl' = sourcePort call.p hl →
              ipDest call'.p.payload = ipDest call.p.payload →
              destPort call'.p hl' = destPort call.p hl →
              ¬ Releases i (run step (s.step (.outside .commit)) later)
                (.outside .commit) →
              (hookResult
                  (run step (s.step (.outside .commit)) later).flows
                  call').1 =
                rewriteDst call'.p hl' gwAddrN
                  (lwipHtons (relayFor (destPort call.p hl))))) ∧
    (∀ flows call,
      IsFragment call.p ∨ iphProto call.p.payload ≠ ipProtoTcp ∨
        call.inp ≠ some pppLinkNetif ∨ ipSrc call.p.payload ≠ phoneAddrN ∨
        ipDest call.p.payload = gwAddrN ∨
        (∀ hl, tcpHeaders call.p = some hl →
          destPort call.p hl ≠ 80 ∧ destPort call.p hl ≠ 443) →
      (hookResult flows call).1 = call.p) := by
  intro s
  have ok : s.flows.Ok := run_ok nvs events
  refine ⟨?_, ?_⟩
  · intro call hl inFlight segment syn
    refine ⟨?_, ?_⟩
    · intro direct later noRedirect call' hl' _ headers here notSyn
      have absent :=
        run_absent (absent_of_direct_syn ok inFlight segment syn direct)
          noRedirect
      rw [← here] at absent
      exact hookResult_of_absent headers notSyn absent
    · intro rewritten
      obtain ⟨i, found, kept⟩ :=
        redirected_entry ok inFlight segment.headers rewritten
      refine ⟨hookResult_of_rewritten segment rewritten, i, found, ?_⟩
      intro later unreleased call' hl' inFlight' segment' here sameIp samePort
        notReleased
      obtain ⟨_, foundLater, origIp, origPort, _⟩ := kept later unreleased
      rw [← samePort]
      apply hookResult_of_entry segment'
      · rw [here]
        exact foundLater
      · rw [origIp, sameIp]
      · rw [origPort, samePort]
      · intro r made freed
        exact notReleased ⟨call', hl', r, inFlight', made, Or.inl freed⟩
  · intro flows call excluded
    rw [hookResult_of_excluded excluded]

/-- A segment that is no SYN releases nothing. -/
theorem not_releases_of_not_syn {s : Redirector} {call : HookCall} {hl : Nat}
    (i : Fin flowMax) (inFlight : s.hook = some call)
    (headers : tcpHeaders call.p = some hl)
    (notSyn : isSyn call.p.payload hl = false) :
    ¬ Releases i s (.outside .commit) := by
  rintro ⟨other, hl', r, isOther, made, releases⟩
  obtain rfl := Option.some.inj (inFlight.symm.trans isOther)
  have request := hookRequest_spec made
  obtain rfl := Option.some.inj (headers.symm.trans request.headers)
  have isAck : r.syn = false := request.syn.trans notSyn
  rcases releases with ⟨isSyn, _⟩ | taken
  · cases isAck.symm.trans isSyn
  · have outcome := hookFlows_outcome s.flows r
    generalize hookFlows s.flows r = decision at outcome taken
    cases outcome with
    | continues => cases taken
    | passes => cases taken
    | refuses => cases taken
    | starts _ isSyn => cases isAck.symm.trans isSyn

/-- Once the SYN was rewritten, so is a segment that comes when the proxy and
WiFi are off. -/
theorem redirect_sticks_dialled :
    let ack := phoneSegment [93, 184, 216, 34] 5000 80 0x10
    let s :=
      run step (boot ⟨none, none, none⟩)
        (dialledOnce ++
          (switchedOff ++ [.outside (.arrive ack (some .ppp) 9)]))
    (hookResult s.flows ⟨⟨false, false, 9⟩, ack, some .ppp⟩).1 =
      rewriteDst ack 20 gwAddrN (lwipHtons 3080) := by
  intro ack s
  have segment : WebSegment dialCall 20 :=
    ⟨rfl, by decide, by decide, by decide, by decide⟩
  have sent : WebSegment ⟨⟨false, false, 9⟩, ack, some .ppp⟩ 20 :=
    ⟨rfl, by decide, by decide, by decide, by decide⟩
  obtain ⟨_, i, _, kept⟩ := ((redirect_sticks ⟨none, none, none⟩ dialling).1
    dialCall 20 rfl segment (by decide)).2 (by decide +kernel)
  have notReleased :
      Along step (fun s event => ¬ Releases i s event)
        ((run step (boot ⟨none, none, none⟩) dialling).step (.outside .commit))
        (switchedOff ++ [.outside (.arrive ack (some .ppp) 9)]) :=
    show Along _ _ _ [_, _, _] from ⟨id, id, id, trivial⟩
  exact kept _ notReleased _ 20 rfl sent (by decide) (by decide) (by decide)
    (not_releases_of_not_syn i rfl sent.headers (by decide))

/-- A SYN to port 8080 passes unmodified and says nothing about the connection
the same phone port has to 93.184.216.34:80: its next segment is rewritten. -/
theorem syn_to_other_port_keeps_redirect :
    let syn := phoneSegment [198, 51, 100, 7] 5000 8080 0x02
    let ack := phoneSegment [93, 184, 216, 34] 5000 80 0x10
    let s :=
      run step (boot ⟨none, none, none⟩)
        (dialledOnce ++ [.outside (.arrive syn (some .ppp) 8)])
    let later := [Event.outside (.arrive ack (some .ppp) 9)]
    (s.hook.map fun call => (call.p, (hookResult s.flows call).1)) =
        some (syn, syn) ∧
      isSyn syn.payload 20 = true ∧ sourcePort syn 20 = 5000 ∧
      isSyn ack.payload 20 = false ∧ sourcePort ack 20 = 5000 ∧
      ((run step (s.step (.outside .commit)) later).hook.map fun call =>
          decide
            ((hookResult
                (run step (s.step (.outside .commit)) later).flows
                call).1 = ack)) =
        some false := by
  decide +kernel

end VeteraBridge.Proxy

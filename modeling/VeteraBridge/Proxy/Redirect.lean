import VeteraBridge.Proxy.FlowTable

/-!
# The two packet paths

`proxy_ip4_input_hook` rewrites the destination of the phone's web segments,
`proxy_netif_output` gives the replies their source back.  Everything the hook
does before it takes `flow_mux` depends on the packet and on three readings
(`px_ready`, the WiFi state and the clock); that part is `hookRequest`, and
the critical section is `hookFlows`.
-/

namespace VeteraBridge.Proxy

open ByteWords

/-- The interface a packet came in on. -/
inductive Netif where
  | ppp
  | other
deriving DecidableEq, Repr

def pppLinkNetif : Netif := .ppp

/-! ## The input hook -/

/-- What the hook reads outside the packet before it takes `flow_mux`. -/
structure HookReads where
  pxReady : Bool
  wifiConnected : Bool
  now : UInt32
deriving DecidableEq, Repr

/-- What the hook brings into its critical section: a segment of the phone to
a web port, and whether it may start a new flow. -/
structure HookRequest where
  sport : UInt16
  dport : UInt16
  dst : UInt32
  syn : Bool
  intercept : Bool
  now : UInt32
  web : dport = 80 ∨ dport = 443
  interceptSyn : intercept = true → syn = true
deriving DecidableEq, Repr

/-- A SYN without ACK, which opens a connection. -/
def isSyn (h : List UInt8) (hl : Nat) : Bool :=
  tcphFlags h hl &&& (tcpSyn ||| tcpAck) == tcpSyn

/-- The hook up to its critical section: `none` if it returns at once, and
otherwise the offset of the TCP header and the request. -/
def hookRequest (reads : HookReads) (p : Pbuf) (inp : Option Netif) :
    Option (Nat × HookRequest) :=
  if inp ≠ some pppLinkNetif then none
  else
    match tcpHeaders p with
    | none => none
    | some hl =>
      if ipSrc p.payload ≠ phoneAddrN ∨ ipDest p.payload = gwAddrN then none
      else
        let dport := lwipNtohs (thDest p.payload hl)
        if web : dport = 80 ∨ dport = 443 then
          let syn := isSyn p.payload hl
          let intercept := syn && reads.pxReady && reads.wifiConnected
          some
            (hl,
              { sport := lwipNtohs (thSrc p.payload hl)
                dport := dport
                dst := ipDest p.payload
                syn := syn
                intercept := intercept
                now := reads.now
                web := web
                interceptSyn := fun intercepts => by
                  simp only [intercept, Bool.and_eq_true] at intercepts
                  exact intercepts.1.1 })
        else
          none

/-- The outcome of the critical section: the table, whether the segment
belongs to a redirected flow, and the slot taken for a new flow, if one
was. -/
structure HookDecision where
  flows : FlowTable
  isMatch : Bool
  taken : Option (Fin flowMax)

def newFlow (r : HookRequest) : Flow :=
  { state := .active
    phonePort := r.sport
    relayPort := relayFor r.dport
    origPort := r.dport
    origIp := r.dst
    stampMs := r.now }

/-- The entry is for the destination of the request. -/
def sameDestination (f : Flow) (r : HookRequest) : Bool :=
  f.origIp == r.dst && f.origPort == r.dport

/-- The critical section of the hook. -/
def hookFlows (flows : FlowTable) (r : HookRequest) : HookDecision :=
  let f := flowFind flows r.sport
  let same := f.any fun i => sameDestination (flows i) r
  -- The phone reused the port: a new connection, the old flow is gone.
  let reused :=
    r.syn && f.any fun i => !same || (flows i).state == .closed
  let flows := if reused then flowFree flows r.sport else flows
  let f := if reused then none else f
  match f.filter fun _ => same with
  | some i => ⟨flowTouch flows i r.now, true, none⟩
  | none =>
    if r.intercept then
      match flowSlot flows r.now with
      | some i => ⟨Function.update flows i (newFlow r), true, some i⟩
      | none => ⟨flows, false, none⟩
    else
      ⟨flows, false, none⟩

/-- `proxy_ip4_input_hook`: the packet as it is left, and the flow table. -/
def proxyIp4InputHook (reads : HookReads) (p : Pbuf) (inp : Option Netif)
    (flows : FlowTable) : Pbuf × FlowTable :=
  match hookRequest reads p inp with
  | none => (p, flows)
  | some (hl, r) =>
    let decision := hookFlows flows r
    (if decision.isMatch then
        rewriteDst p hl gwAddrN (lwipHtons (relayFor r.dport))
      else
        p,
      decision.flows)

/-! ## The output wrapper -/

/-- The entry whose replies leave from relay port `sport` to phone port
`dport`. -/
def replyFlow (flows : FlowTable) (sport dport : UInt16) :
    Option (Fin flowMax) :=
  (flowFind flows dport).filter fun i => (flows i).relayPort == sport

/-- `proxy_netif_output`: what is handed to the interface's own output
function, or `none` for `ERR_MEM` when no copy can be made, and the flow
table. -/
def proxyNetifOutput (now : UInt32) (cloned : Bool) (p : Pbuf)
    (flows : FlowTable) : Option Pbuf × FlowTable :=
  match tcpHeaders p with
  | none => (some p, flows)
  | some hl =>
    let sport := lwipNtohs (thSrc p.payload hl)
    if sport ≠ relayHttpPort ∧ sport ≠ relayTlsPort then (some p, flows)
    else
      match replyFlow flows sport (lwipNtohs (thDest p.payload hl)) with
      | none => (some p, flows)
      | some i =>
        let touched :=
          if (flows i).state = .active then flowTouch flows i now else flows
        if cloned then
          let q := pbufClone p
          -- The copy passes the check again: `tcpHeaders_pbufClone`.
          let hl := (tcpHeaders q).getD hl
          (some
            (rewriteSrc q hl (flows i).origIp (lwipHtons (flows i).origPort)),
            touched)
        else
          (none, touched)

/-- The output function installed on an interface. -/
inductive NetifOutput where
  | lwip
  | proxy
deriving DecidableEq, Repr

/-- `proxy_attach_netif`: an empty table, and the output function in place and
the one it wraps. -/
def proxyAttachNetif (output : NetifOutput) (origOutput : Option NetifOutput) :
    FlowTable × NetifOutput × Option NetifOutput :=
  if output = .proxy then (FlowTable.zero, output, origOutput)
  else (FlowTable.zero, .proxy, some output)

/-! ## What the hook looks at -/

section Requests

variable {reads : HookReads} {p : Pbuf} {inp : Option Netif} {hl : Nat}
  {r : HookRequest}

/-- A request is made exactly for a whole TCP segment that comes from the
phone on the PPP interface and goes to a web port of a host other than the
bridge. -/
structure RequestOf (reads : HookReads) (p : Pbuf) (inp : Option Netif)
    (hl : Nat) (r : HookRequest) : Prop where
  fromPpp : inp = some pppLinkNetif
  headers : tcpHeaders p = some hl
  fromPhone : ipSrc p.payload = phoneAddrN
  notBridge : ipDest p.payload ≠ gwAddrN
  sport : r.sport = lwipNtohs (thSrc p.payload hl)
  dport : r.dport = lwipNtohs (thDest p.payload hl)
  dst : r.dst = ipDest p.payload
  syn : r.syn = isSyn p.payload hl
  intercept : r.intercept = (r.syn && reads.pxReady && reads.wifiConnected)
  now : r.now = reads.now

theorem hookRequest_spec (made : hookRequest reads p inp = some (hl, r)) :
    RequestOf reads p inp hl r := by
  unfold hookRequest at made
  split at made
  · cases made
  · next fromPpp =>
    split at made
    · cases made
    · next found headers =>
      split at made
      · cases made
      · next fromPhone =>
        dsimp only at made
        split at made
        · next web =>
          cases made
          simp only [not_or, ne_eq, not_not] at fromPpp fromPhone
          exact
            ⟨fromPpp, headers, fromPhone.1, fromPhone.2, rfl, rfl, rfl, rfl,
              rfl, rfl⟩
        · cases made

theorem hookRequest_of_segment (fromPpp : inp = some pppLinkNetif)
    (headers : tcpHeaders p = some hl)
    (fromPhone : ipSrc p.payload = phoneAddrN)
    (notBridge : ipDest p.payload ≠ gwAddrN)
    (web :
      lwipNtohs (thDest p.payload hl) = 80 ∨
        lwipNtohs (thDest p.payload hl) = 443) :
    ∃ r, hookRequest reads p inp = some (hl, r) := by
  unfold hookRequest
  rw [if_neg (not_not.mpr fromPpp)]
  simp only [headers]
  rw [if_neg (by simp [fromPhone, notBridge]), dif_pos web]
  exact ⟨_, rfl⟩

end Requests

/-! ## What the critical section can do -/

section Decisions

variable (flows : FlowTable) (r : HookRequest)

/-- The segment belongs to a flow in the table: the entry for its phone port
has its destination and, for a SYN, has not been closed. -/
def Continues (i : Fin flowMax) : Prop :=
  flowFind flows r.sport = some i ∧ sameDestination (flows i) r = true ∧
    (r.syn = true → (flows i).state ≠ .closed)

/-- The four things the critical section can do. -/
inductive HookOutcome : HookDecision → Prop
  | continues (i : Fin flowMax) (belongs : Continues flows r i) :
      HookOutcome ⟨flowTouch flows i r.now, true, none⟩
  | passes (notSyn : r.syn = false) (foreign : ∀ i, ¬ Continues flows r i) :
      HookOutcome ⟨flows, false, none⟩
  | refuses (isSyn : r.syn = true) (foreign : ∀ i, ¬ Continues flows r i)
      (noSlot :
        r.intercept = false ∨
          flowSlot (flowFree flows r.sport) r.now = none) :
      HookOutcome ⟨flowFree flows r.sport, false, none⟩
  | starts (i : Fin flowMax) (isSyn : r.syn = true)
      (foreign : ∀ i, ¬ Continues flows r i)
      (intercepts : r.intercept = true)
      (slot : flowSlot (flowFree flows r.sport) r.now = some i) :
      HookOutcome
        ⟨Function.update (flowFree flows r.sport) i (newFlow r), true, some i⟩

/-- With the table a segment that continues no flow goes on with, the last
part of the critical section is one of the three remaining outcomes. -/
private theorem hookFlows_outcome_of_foreign
    (foreign : ∀ i, ¬ Continues flows r i) :
    let cleared := if r.syn then flowFree flows r.sport else flows
    HookOutcome flows r
      (if r.intercept then
        match flowSlot cleared r.now with
        | some i => ⟨Function.update cleared i (newFlow r), true, some i⟩
        | none => ⟨cleared, false, none⟩
      else
        ⟨cleared, false, none⟩) := by
  intro cleared
  cases isSyn : r.syn with
  | false =>
      have noIntercept : r.intercept = false := by
        by_contra intercepts
        simp [r.interceptSyn (by simpa using intercepts)] at isSyn
      have unchanged : cleared = flows := by simp [cleared, isSyn]
      rw [noIntercept, unchanged]
      exact HookOutcome.passes isSyn foreign
  | true =>
      have freed : cleared = flowFree flows r.sport := by simp [cleared, isSyn]
      rw [freed]
      cases intercepts : r.intercept with
      | false =>
          exact HookOutcome.refuses isSyn foreign (Or.inl intercepts)
      | true =>
          cases slot : flowSlot (flowFree flows r.sport) r.now with
          | none =>
              exact HookOutcome.refuses isSyn foreign (Or.inr slot)
          | some i =>
              exact HookOutcome.starts i isSyn foreign intercepts slot

theorem hookFlows_outcome : HookOutcome flows r (hookFlows flows r) := by
  cases found : flowFind flows r.sport with
  | none =>
      have foreign : ∀ i, ¬ Continues flows r i := by
        rintro i ⟨present, _⟩
        rw [found] at present
        cases present
      have rest := hookFlows_outcome_of_foreign flows r foreign
      simp only [flowFree_of_absent found, ite_self] at rest
      simpa [hookFlows, found] using rest
  | some i =>
      by_cases same : sameDestination (flows i) r = true
      · by_cases reopens : r.syn = true ∧ (flows i).state = .closed
        · have foreign : ∀ j, ¬ Continues flows r j := by
            rintro j ⟨present, _, notClosed⟩
            rw [found] at present
            cases present
            exact notClosed reopens.1 reopens.2
          have rest := hookFlows_outcome_of_foreign flows r foreign
          simp only [reopens.1, if_true] at rest
          simpa [hookFlows, found, same, reopens.1, reopens.2] using rest
        · have belongs : Continues flows r i :=
            ⟨found, same, fun isSyn isClosed => reopens ⟨isSyn, isClosed⟩⟩
          have kept : (r.syn && (flows i).state == .closed) = false := by
            simpa using reopens
          have continued :
              HookOutcome flows r ⟨flowTouch flows i r.now, true, none⟩ :=
            HookOutcome.continues i belongs
          simpa [hookFlows, found, same, kept, Option.filter] using continued
      · have foreign : ∀ j, ¬ Continues flows r j := by
          rintro j ⟨present, sameHere, _⟩
          rw [found] at present
          cases present
          exact same sameHere
        have rest := hookFlows_outcome_of_foreign flows r foreign
        cases isSyn : r.syn with
        | false =>
            simp only [isSyn] at rest
            simpa [hookFlows, found, same, isSyn] using rest
        | true =>
            simp only [isSyn, if_true] at rest
            simpa [hookFlows, found, same, isSyn] using rest

variable {flows r}

/-- The segment frees the entry in slot `i`: it is a SYN that continues no
flow, and the entry is the one for its phone port. -/
def HookFrees (flows : FlowTable) (r : HookRequest) (i : Fin flowMax) : Prop :=
  r.syn = true ∧ flowFind flows r.sport = some i ∧ ¬ Continues flows r i

theorem newFlow_live (r : HookRequest) : (newFlow r).live := rfl

theorem HookDecision.ok (ok : flows.Ok) : (hookFlows flows r).flows.Ok := by
  have outcome := hookFlows_outcome flows r
  generalize hookFlows flows r = decision at *
  cases outcome with
  | continues i _ =>
      exact ok.flowTouch i r.now
  | passes _ _ =>
      exact ok
  | refuses _ _ _ =>
      exact ok.flowFree r.sport
  | starts i _ _ _ _ =>
      exact (ok.flowFree r.sport).assign i ok.flowFind_flowFree r.web rfl

/-- After a match the entry for the phone port has the dialled destination and
the relay port that serves it. -/
theorem hookFlows_isMatch (ok : flows.Ok)
    (matched : (hookFlows flows r).isMatch = true) :
    ∃ i, flowFind (hookFlows flows r).flows r.sport = some i ∧
      ((hookFlows flows r).flows i).origIp = r.dst ∧
      ((hookFlows flows r).flows i).origPort = r.dport ∧
      ((hookFlows flows r).flows i).relayPort = relayFor r.dport := by
  have okAfter : (hookFlows flows r).flows.Ok := HookDecision.ok ok
  have outcome := hookFlows_outcome flows r
  generalize hookFlows flows r = decision at *
  cases outcome with
  | continues i belongs =>
      obtain ⟨present, same, _⟩ := belongs
      obtain ⟨isLive, hasPort⟩ := flowFind_spec present
      simp only [sameDestination, Bool.and_eq_true, beq_iff_eq] at same
      refine ⟨i, okAfter.flowFind_iff.mpr ?_, ?_⟩
      · simp only [flowTouch, Function.update_self]
        exact ⟨isLive, hasPort⟩
      · simp only [flowTouch, Function.update_self]
        refine ⟨same.1, same.2, ?_⟩
        rw [(ok.paired i isLive).2, same.2]
  | passes _ _ =>
      cases matched
  | refuses _ _ _ =>
      cases matched
  | starts i _ _ _ _ =>
      refine ⟨i, okAfter.flowFind_iff.mpr ?_, ?_⟩
      · simp only [Function.update_self]
        exact ⟨newFlow_live r, rfl⟩
      · simp only [Function.update_self]
        exact ⟨rfl, rfl, rfl⟩

/-- A SYN that is not matched leaves no entry for its phone port. -/
theorem flowFind_of_unmatched_syn (ok : flows.Ok) (isSyn : r.syn = true)
    (unmatched : (hookFlows flows r).isMatch = false) :
    flowFind (hookFlows flows r).flows r.sport = none := by
  have outcome := hookFlows_outcome flows r
  generalize hookFlows flows r = decision at *
  cases outcome with
  | continues _ _ =>
      cases unmatched
  | passes notSyn _ =>
      rw [isSyn] at notSyn
      cases notSyn
  | refuses _ _ _ =>
      exact ok.flowFind_flowFree
  | starts _ _ _ _ _ =>
      cases unmatched

/-- A segment of a phone port without an entry is matched only if it is a SYN,
and while it is not matched the port stays without one. -/
theorem isMatch_of_absent (absent : flowFind flows r.sport = none)
    (notSyn : r.syn = false) : (hookFlows flows r).isMatch = false := by
  have outcome := hookFlows_outcome flows r
  generalize hookFlows flows r = decision at *
  cases outcome with
  | continues i belongs =>
      rw [belongs.1] at absent
      cases absent
  | passes _ _ =>
      rfl
  | refuses _ _ _ =>
      rfl
  | starts _ isSyn _ _ _ =>
      rw [notSyn] at isSyn
      cases isSyn

theorem flowFind_flowFree_of_absent {phonePort other : UInt16}
    (absent : flowFind flows other = none) :
    flowFind (flowFree flows phonePort) other = none := by
  unfold flowFree
  cases flowFind flows phonePort with
  | none =>
      exact absent
  | some i =>
      unfold flowFind at absent ⊢
      exact KeyedSlots.find_update_eq_none absent fun isLive => by cases isLive

/-- A port without an entry gets one only from a redirected SYN of its own. -/
theorem flowFind_hookFlows_of_absent {phonePort : UInt16}
    (absent : flowFind flows phonePort = none)
    (noStart :
      r.sport = phonePort → r.syn = true →
        (hookFlows flows r).isMatch = false) :
    flowFind (hookFlows flows r).flows phonePort = none := by
  have outcome := hookFlows_outcome flows r
  generalize hookFlows flows r = decision at *
  cases outcome with
  | continues i belongs =>
      obtain ⟨isLive, _⟩ := flowFind_spec belongs.1
      have otherPort := flowFind_eq_none_iff.mp absent i isLive
      unfold flowTouch
      unfold flowFind at absent ⊢
      exact KeyedSlots.find_update_eq_none absent fun _ => otherPort
  | passes _ _ =>
      exact absent
  | refuses _ _ _ =>
      exact flowFind_flowFree_of_absent absent
  | starts i isSyn _ _ _ =>
      have otherPort : r.sport ≠ phonePort := by
        intro here
        have unmatched := noStart here isSyn
        cases unmatched
      have stillAbsent :
          flowFind (flowFree flows r.sport) phonePort = none :=
        flowFind_flowFree_of_absent absent
      unfold flowFind at stillAbsent ⊢
      exact KeyedSlots.find_update_eq_none stillAbsent fun _ => otherPort

end Decisions

/-! ## The packet the hook leaves -/

section HookPacket

variable {flows : FlowTable} {reads : HookReads} {p : Pbuf}
  {inp : Option Netif} {hl : Nat} {r : HookRequest}

theorem hook_of_no_request (silent : hookRequest reads p inp = none) :
    proxyIp4InputHook reads p inp flows = (p, flows) := by
  simp [proxyIp4InputHook, silent]

theorem hook_flows (made : hookRequest reads p inp = some (hl, r)) :
    (proxyIp4InputHook reads p inp flows).2 = (hookFlows flows r).flows := by
  simp [proxyIp4InputHook, made]

theorem hook_packet_of_isMatch (made : hookRequest reads p inp = some (hl, r))
    (matched : (hookFlows flows r).isMatch = true) :
    (proxyIp4InputHook reads p inp flows).1 =
      rewriteDst p hl gwAddrN (lwipHtons (relayFor r.dport)) := by
  simp [proxyIp4InputHook, made, matched]

theorem hook_packet_of_unmatched
    (made : hookRequest reads p inp = some (hl, r))
    (unmatched : (hookFlows flows r).isMatch = false) :
    (proxyIp4InputHook reads p inp flows).1 = p := by
  simp [proxyIp4InputHook, made, unmatched]

/-- A request is unmatched exactly if the packet is left as it was: a rewrite
always shows, since the destination was not the bridge before. -/
theorem hook_packet_eq_iff (made : hookRequest reads p inp = some (hl, r)) :
    (proxyIp4InputHook reads p inp flows).1 = p ↔
      (hookFlows flows r).isMatch = false := by
  have spec := hookRequest_spec made
  constructor
  · intro unchanged
    by_contra matched
    rw [hook_packet_of_isMatch made (by simpa using matched)] at unchanged
    apply spec.notBridge
    rw [← ipDest_rewriteDst (tcpHeaders_room spec.headers) gwAddrN
        (lwipHtons (relayFor r.dport)), unchanged]
  · exact hook_packet_of_unmatched made

theorem hook_packet_ne
    (changed : (proxyIp4InputHook reads p inp flows).1 ≠ p) :
    ∃ hl r, hookRequest reads p inp = some (hl, r) ∧
      (hookFlows flows r).isMatch = true := by
  cases made : hookRequest reads p inp with
  | none =>
      rw [hook_of_no_request made] at changed
      exact absurd rfl changed
  | some request =>
      obtain ⟨hl, r⟩ := request
      refine ⟨hl, r, rfl, ?_⟩
      by_contra unmatched
      exact changed (hook_packet_of_unmatched made (by simpa using unmatched))

theorem hook_ok (ok : flows.Ok) :
    (proxyIp4InputHook reads p inp flows).2.Ok := by
  cases made : hookRequest reads p inp with
  | none =>
      rw [hook_of_no_request made]
      exact ok
  | some request =>
      rw [hook_flows made]
      exact HookDecision.ok ok

end HookPacket

end VeteraBridge.Proxy

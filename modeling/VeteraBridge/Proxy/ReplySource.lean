import VeteraBridge.Proxy.Redirector

/-!
# Replies come from the address the phone dialled

The output wrapper undoes what the input hook did.  The entry the hook wrote
or found is the only one for its phone port, and it says which destination the
relay port stands for; as long as no step releases it, every reply from that
relay port leaves with that destination as its source.

The wrapper recognises a reply by its source port alone.  A segment forwarded
from the Internet that happens to come from port 3080 or 3443 to a phone port
with an entry is taken for a reply and gets a foreign source.
-/

namespace VeteraBridge.Proxy

open EventRun Redirector ByteWords

def sourcePort (p : Pbuf) (hl : Nat) : UInt16 :=
  lwipNtohs (thSrc p.payload hl)

def destPort (p : Pbuf) (hl : Nat) : UInt16 :=
  lwipNtohs (thDest p.payload hl)

/-! ## What the wrapper does -/

section Output

variable {flows : FlowTable} {now : UInt32} {cloned : Bool} {p out : Pbuf}
  {hl : Nat} {i : Fin flowMax}

theorem replyFlow_eq_some_iff {sport dport : UInt16} :
    replyFlow flows sport dport = some i ↔
      flowFind flows dport = some i ∧ (flows i).relayPort = sport := by
  simp [replyFlow, Option.filter_eq_some_iff]

theorem relayFor_isRelay (dport : UInt16) :
    relayFor dport = relayHttpPort ∨ relayFor dport = relayTlsPort := by
  unfold relayFor
  split
  · exact Or.inl rfl
  · exact Or.inr rfl

/-- The wrapper on a packet it takes for a reply of the flow in slot `i`. -/
theorem output_of_reply (headers : tcpHeaders p = some hl)
    (relay :
      sourcePort p hl = relayHttpPort ∨ sourcePort p hl = relayTlsPort)
    (reply : replyFlow flows (sourcePort p hl) (destPort p hl) = some i) :
    (proxyNetifOutput now cloned p flows).1 =
      if cloned then
        some
          (rewriteSrc (pbufClone p) hl (flows i).origIp
            (lwipHtons (flows i).origPort))
      else none := by
  unfold sourcePort destPort at *
  have notOther :
      ¬ (lwipNtohs (thSrc p.payload hl) ≠ relayHttpPort ∧
        lwipNtohs (thSrc p.payload hl) ≠ relayTlsPort) := by
    rintro ⟨notHttp, notTls⟩
    exact relay.elim notHttp notTls
  have copied := tcpHeaders_pbufClone headers
  simp only [proxyNetifOutput, headers, if_neg notOther, reply, copied,
    Option.getD_some]
  cases cloned <;> rfl

theorem output_of_no_reply
    (noReply :
      ∀ hl, tcpHeaders p = some hl →
        sourcePort p hl = relayHttpPort ∨ sourcePort p hl = relayTlsPort →
          replyFlow flows (sourcePort p hl) (destPort p hl) = none) :
    (proxyNetifOutput now cloned p flows).1 = some p := by
  unfold sourcePort destPort at noReply
  unfold proxyNetifOutput
  cases headers : tcpHeaders p with
  | none =>
      rfl
  | some hl =>
      dsimp only
      split
      · rfl
      · next relay =>
        have isRelay :
            lwipNtohs (thSrc p.payload hl) = relayHttpPort ∨
              lwipNtohs (thSrc p.payload hl) = relayTlsPort := by
          by_contra neither
          exact relay (not_or.mp neither)
        rw [noReply hl headers isRelay]

end Output

/-! ## Replies of a redirected flow -/

section Replies

variable {flows : FlowTable}

/-- With an entry for a flow in the table, each packet from its relay port to
its phone port that is passed on comes from the destination of the flow. -/
theorem reply_source (ok : flows.Ok) {i : Fin flowMax} (live : (flows i).live)
    {now : UInt32} {cloned : Bool} {p out : Pbuf} {hl : Nat}
    (headers : tcpHeaders p = some hl)
    (fromRelay : sourcePort p hl = (flows i).relayPort)
    (toPhone : destPort p hl = (flows i).phonePort)
    (passed : (proxyNetifOutput now cloned p flows).1 = some out) :
    ipSrc out.payload = (flows i).origIp ∧
      sourcePort out hl = (flows i).origPort := by
  have isRelay :
      sourcePort p hl = relayHttpPort ∨ sourcePort p hl = relayTlsPort := by
    rw [fromRelay, (ok.paired i live).2]
    exact relayFor_isRelay _
  have reply :
      replyFlow flows (sourcePort p hl) (destPort p hl) = some i := by
    rw [replyFlow_eq_some_iff, ok.flowFind_iff]
    exact ⟨⟨live, toPhone.symm⟩, fromRelay.symm⟩
  rw [output_of_reply headers isRelay reply] at passed
  have copied := tcpHeaders_pbufClone headers
  cases cloned with
  | false =>
      cases passed
  | true =>
      simp only [if_true, Option.some.injEq] at passed
      subst passed
      have room := tcpHeaders_room copied
      refine ⟨ipSrc_rewriteSrc room _ _, ?_⟩
      rw [sourcePort, thSrc_rewriteSrc room]
      exact swap16_swap16 _

/-- The entry after the hook rewrote a packet. -/
theorem hook_rewrote_entry {call : HookCall} (ok : flows.Ok)
    (rewritten : (hookResult flows call).1 ≠ call.p) :
    ∃ hl i, tcpHeaders call.p = some hl ∧
      flowFind (hookResult flows call).2 (sourcePort call.p hl) = some i ∧
      ((hookResult flows call).2 i).origIp = ipDest call.p.payload ∧
      ((hookResult flows call).2 i).origPort = destPort call.p hl ∧
      ((hookResult flows call).2 i).relayPort =
        relayFor (destPort call.p hl) := by
  obtain ⟨hl, r, made, matched⟩ := hook_packet_ne rewritten
  have spec := hookRequest_spec made
  obtain ⟨i, found, origIp, origPort, relayPort⟩ :=
    hookFlows_isMatch ok matched
  refine ⟨hl, i, spec.headers, ?_⟩
  simp only [hookResult, hook_flows made, sourcePort, destPort, ← spec.sport,
    ← spec.dport, ← spec.dst]
  exact ⟨found, origIp, origPort, relayPort⟩

theorem commit_flows {s : Redirector} {call : HookCall}
    (inFlight : s.hook = some call) :
    (s.step (.outside .commit)).flows = (hookResult s.flows call).2 := by
  simp only [step, outsideStep, inFlight]

/-- A rewritten packet has an entry, and later runs that do not release it
find it under the phone port with the same contents. -/
theorem redirected_entry {s : Redirector} {call : HookCall} {hl : Nat}
    (ok : s.flows.Ok) (inFlight : s.hook = some call)
    (headers : tcpHeaders call.p = some hl)
    (rewritten : (hookResult s.flows call).1 ≠ call.p) :
    ∃ i,
      flowFind (s.step (.outside .commit)).flows (sourcePort call.p hl) =
        some i ∧
      ∀ later,
        Along step (fun s event => ¬ Releases i s event)
            (s.step (.outside .commit)) later →
        let t := run step (s.step (.outside .commit)) later
        t.flows.Ok ∧ flowFind t.flows (sourcePort call.p hl) = some i ∧
          (t.flows i).origIp = ipDest call.p.payload ∧
          (t.flows i).origPort = destPort call.p hl ∧
          (t.flows i).relayPort = relayFor (destPort call.p hl) := by
  obtain ⟨hl', i, headers', found, origIp, origPort, relayPort⟩ :=
    hook_rewrote_entry ok rewritten
  obtain rfl : hl' = hl := by
    rw [headers] at headers'
    exact (Option.some.inj headers').symm
  rw [← commit_flows inFlight] at found origIp origPort relayPort
  obtain ⟨live, phonePort⟩ := flowFind_spec found
  refine ⟨i, found, ?_⟩
  intro later kept t
  have same := run_sameFlow live kept
  have okLater : t.flows.Ok :=
    run_invariant (fun t : Redirector => t.flows.Ok) step_ok
      (step_ok s _ ok) later
  refine ⟨okLater, ?_, ?_, ?_, ?_⟩
  · rw [okLater.flowFind_iff]
    exact ⟨same.live, by rw [same.phonePort, phonePort]⟩
  · rw [same.origIp, origIp]
  · rw [same.origPort, origPort]
  · rw [same.relayPort, relayPort]

end Replies

/-- In every reachable state: no two entries in use have the same phone port;
each is for relay port 3080 and port 80 or for relay port 3443 and port 443;
and once the hook has rewritten a packet from `P` to `x:d`, then as long as no
step releases the entry of `P`, each segment from relay port `relayFor d` to
`P` that the wrapper passes on leaves with source `x:d`. -/
theorem flow_table_reply_source (nvs : Nvs) (events : List Event) :
    let s := run step (boot nvs) events
    (∀ i j, (s.flows i).state ≠ .free → (s.flows j).state ≠ .free →
      (s.flows i).phonePort = (s.flows j).phonePort → i = j) ∧
    (∀ i, (s.flows i).state ≠ .free →
      (s.flows i).relayPort = 3080 ∧ (s.flows i).origPort = 80 ∨
        (s.flows i).relayPort = 3443 ∧ (s.flows i).origPort = 443) ∧
    (∀ call hl, s.hook = some call → tcpHeaders call.p = some hl →
      (hookResult s.flows call).1 ≠ call.p →
      ∃ i,
        flowFind (s.step (.outside .commit)).flows (sourcePort call.p hl) =
          some i ∧
        ∀ later,
          Along step (fun s event => ¬ Releases i s event)
              (s.step (.outside .commit)) later →
          ∀ now cloned p hl' out, tcpHeaders p = some hl' →
            sourcePort p hl' = relayFor (destPort call.p hl) →
            destPort p hl' = sourcePort call.p hl →
            (proxyNetifOutput now cloned p
                (run step (s.step (.outside .commit)) later).flows).1 =
              some out →
            ipSrc out.payload = ipDest call.p.payload ∧
              sourcePort out hl' = destPort call.p hl) := by
  intro s
  have ok : s.flows.Ok := run_ok nvs events
  refine ⟨?_, ?_, ?_⟩
  · intro i j iLive jLive samePort
    exact
      ok.unique i j ((flow_live_iff _).mpr iLive) ((flow_live_iff _).mpr jLive)
        samePort
  · intro i live
    obtain ⟨web, relay⟩ := ok.paired i ((flow_live_iff _).mpr live)
    rcases web with http | tls
    · exact Or.inl ⟨by rw [relay, http]; rfl, http⟩
    · exact Or.inr ⟨by rw [relay, tls]; rfl, tls⟩
  · intro call hl inFlight headers rewritten
    obtain ⟨i, found, kept⟩ :=
      redirected_entry ok inFlight headers rewritten
    refine ⟨i, found, ?_⟩
    intro later unreleased now cloned p hl' out headers' fromRelay toPhone
      passed
    obtain ⟨okLater, foundLater, origIp, origPort, relayPort⟩ :=
      kept later unreleased
    obtain ⟨live, phonePort⟩ := flowFind_spec foundLater
    have source :=
      reply_source okLater live headers'
        (by rw [fromRelay, relayPort])
        (by rw [toPhone, phonePort]) passed
    rw [origIp, origPort] at source
    exact source

/-! ## Forwarded segments -/

/-- A segment the wrapper takes for a reply of the relay: it comes from a
relay port, and its destination port has an entry of that relay port. -/
def LooksLikeReply (flows : FlowTable) (p : Pbuf) : Prop :=
  ∃ hl i, tcpHeaders p = some hl ∧
    (sourcePort p hl = relayHttpPort ∨ sourcePort p hl = relayTlsPort) ∧
    flowFind flows (destPort p hl) = some i ∧
    (flows i).relayPort = sourcePort p hl

/-- The wrapper leaves alone exactly the packets that do not look like a
reply: one that does gets port 80 or 443 as its source, or is dropped. -/
theorem output_unchanged_iff {flows : FlowTable} (ok : flows.Ok)
    (now : UInt32) (cloned : Bool) (p : Pbuf) :
    (proxyNetifOutput now cloned p flows).1 = some p ↔
      ¬ LooksLikeReply flows p := by
  constructor
  · rintro unchanged ⟨hl, i, headers, isRelay, found, relayPort⟩
    rw [output_of_reply headers isRelay
        (replyFlow_eq_some_iff.mpr ⟨found, relayPort⟩)] at unchanged
    cases cloned with
    | false =>
        cases unchanged
    | true =>
        simp only [if_true, Option.some.injEq] at unchanged
        have copied := tcpHeaders_pbufClone headers
        have source :
            lwipHtons (flows i).origPort = thSrc p.payload hl := by
          rw [← thSrc_rewriteSrc (tcpHeaders_room copied) (flows i).origIp
              (lwipHtons (flows i).origPort), unchanged]
        have web := (ok.paired i (flowFind_spec found).1).1
        have samePort : (flows i).origPort = sourcePort p hl := by
          rw [sourcePort, ← source]
          exact (swap16_swap16 _).symm
        rcases web with port | port <;> rw [port] at samePort <;>
          rcases isRelay with relay | relay <;> rw [relay] at samePort <;>
            exact absurd samePort (by decide)
  · intro notReply
    apply output_of_no_reply
    intro hl headers isRelay
    cases reply : replyFlow flows (sourcePort p hl) (destPort p hl) with
    | none =>
        rfl
    | some i =>
        obtain ⟨found, relayPort⟩ := replyFlow_eq_some_iff.mp reply
        exact absurd ⟨hl, i, headers, isRelay, found, relayPort⟩ notReply

/-- In every reachable state and for every packet: that a packet whose source
is not the bridge is passed on unchanged holds exactly if the packet is not a
foreign segment that looks like a reply of the relay. -/
theorem forwarded_unchanged_iff (nvs : Nvs) (events : List Event)
    (now : UInt32) (cloned : Bool) (p : Pbuf) :
    (ipSrc p.payload ≠ gwAddrN →
        (proxyNetifOutput now cloned p
          (run step (boot nvs) events).flows).1 = some p) ↔
      ¬ (ipSrc p.payload ≠ gwAddrN ∧
        LooksLikeReply (run step (boot nvs) events).flows p) := by
  rw [output_unchanged_iff (run_ok nvs events) now cloned p, not_and]

/-- The phone dials 93.184.216.34:80 from port 5000 with the proxy on: its SYN
is at the hook. -/
def dialling : List Event :=
  [.outside (.proxySet ⟨false, false, false, false⟩ true [112] 3130),
    .outside (.wifi true),
    .outside
      (.arrive (phoneSegment [93, 184, 216, 34] 5000 80 0x02) (some .ppp) 7)]

def dialCall : HookCall where
  reads := ⟨true, true, 7⟩
  p := phoneSegment [93, 184, 216, 34] 5000 80 0x02
  inp := some .ppp

def dialledOnce : List Event :=
  dialling ++ [.outside .commit]

/-- The proxy and WiFi are off by the time the relay answers. -/
def switchedOff : List Event :=
  [.outside (.proxySet ⟨false, false, false, false⟩ false [112] 3130),
    .outside (.wifi false)]

theorem flow_table_reply_source_dialled :
    let reply := plainSegment [192, 168, 7, 1] [192, 168, 7, 2] 3080 5000 0x12
    ∃ out,
      (proxyNetifOutput 9 true reply
          (run step (boot ⟨none, none, none⟩)
            (dialledOnce ++ switchedOff)).flows).1 = some out ∧
        ipSrc out.payload = swap32 (lwipMakeU32 93 184 216 34) ∧
        sourcePort out 20 = 80 := by
  intro reply
  obtain ⟨out, passed⟩ :
      ∃ out, (proxyNetifOutput 9 true reply
        (run step (boot ⟨none, none, none⟩)
          (dialledOnce ++ switchedOff)).flows).1 = some out :=
    Option.isSome_iff_exists.mp (by decide +kernel)
  have redirected := (flow_table_reply_source ⟨none, none, none⟩ dialling).2.2
    dialCall 20 rfl (by decide) (by decide +kernel)
  obtain ⟨_, _, kept⟩ := redirected
  obtain ⟨address, port⟩ := kept switchedOff ⟨id, id, trivial⟩ 9 true reply 20
    out (by decide) (by decide) (by decide) passed
  exact ⟨out, passed, address, port⟩

/-- A segment that 198.51.100.7 sends from its port 3080 to the phone's port
5000 leaves the bridge with another source. -/
theorem forwarded_from_3080_changed :
    let p := plainSegment [198, 51, 100, 7] [192, 168, 7, 2] 3080 5000 0x10
    let out :=
      (proxyNetifOutput 9 true p
        (run step (boot ⟨none, none, none⟩) dialledOnce).flows).1
    ipSrc p.payload ≠ gwAddrN ∧ out ≠ some p ∧
      (out.map fun q => (ipSrc q.payload, sourcePort q 20)) =
        some (swap32 (lwipMakeU32 93 184 216 34), 80) := by
  decide +kernel

end VeteraBridge.Proxy

import VeteraBridge.Dns.Forward

/-!
# Every query is handled once

What the task does with each query it reads: it gives an answer of the cache or
of the upstream, or makes one up, and sends it to the phone.  A query that is
forwarded holds the others up until the upstream answers, or the wait is given
up; replies to earlier queries are passed over.
-/

namespace VeteraBridge.Dns

open EventRun

/-- Where a reply comes from: `src`. -/
inductive Src where
  | cache
  | upstream
  | upstreamFailed
  | captive
deriving DecidableEq, Repr

/-- A query the task is done with, and the reply to it, if it has any bytes.
`sent` is what the `sendto` to the phone returned, if it was called. -/
structure Handled where
  query : List UInt8
  src : Src
  reply : List UInt8
  sent : Option Bool
deriving DecidableEq, Repr

/-- The end of the loop; `took` is what `sendto` returns if it is called. -/
def sendReply (query : List UInt8) (src : Src) (reply : List UInt8)
    (took : Bool) : Handled :=
  ⟨query, src, reply, if reply = [] then none else some took⟩

@[simp]
theorem sendReply_query (query : List UInt8) (src : Src) (reply : List UInt8)
    (took : Bool) : (sendReply query src reply took).query = query :=
  rfl

namespace Upstreams

/-- An event, and what a `sendto` to the phone would return in it. -/
abbrev Turn := ForwardEvent × Bool

def turn (w : Upstreams) (t : Turn) : Upstreams := w.step t.1

/-- What a query finds in the cache. -/
def hit (w : Upstreams) (query : List UInt8) (time : Nat) :
    Option (List UInt8) :=
  (dnsCacheLookup w.cache query (UInt32.ofNat time)).1

/-- The query that the task reads in an event, if it has a header. -/
def reads (w : Upstreams) : Turn → Option (List UInt8)
  | (.query bytes _ _ _, _) =>
    match w.pc with
    | .idle => if bytes.length < 12 then none else some bytes
    | _ => none
  | _ => none

/-- The query that the task is done with in an event. -/
def handled (w : Upstreams) : Turn → Option Handled
  | (.query bytes _ wifiUp time, took) =>
    match w.pc with
    | .idle =>
      if bytes.length < 12 then none
      else
        match w.hit bytes time with
        | some reply => some (sendReply bytes .cache reply took)
        | none =>
          if wifiUp then none
          else
            some (sendReply bytes .captive
              (dnsMakeCaptiveReply bytes dnsMaxPacket) took)
    | _ => none
  | (.send none, took) =>
    match w.pc with
    | .sending query _ =>
      some (sendReply query .upstreamFailed
        (dnsMakeServfailReply query dnsMaxPacket) took)
    | _ => none
  | (.recv _, took) =>
    match w.pc, w.socket with
    | .waiting query extDns, datagram :: _ =>
      if acceptable query extDns datagram then
        some (sendReply query .upstream (datagram.bytes.take dnsMaxPacket) took)
      else none
    | _, _ => none
  | (.giveUp, took) =>
    match w.pc with
    | .waiting query _ =>
      some (sendReply query .upstreamFailed
        (dnsMakeServfailReply query dnsMaxPacket) took)
    | _ => none
  | _ => none

end Upstreams

/-! ## What is made up -/

section MadeUp

variable {query reply : List UInt8}

/-- Between a header and a datagram, with the ID of the query. -/
structure Sized (query reply : List UInt8) : Prop where
  header : 12 ≤ reply.length
  fits : reply.length ≤ dnsMaxPacket
  id : reply.take 2 = query.take 2

end MadeUp

/-! ## What a step does -/

/-- The query that is forwarded has a header, and the replies in the cache have
their sizes. -/
structure Serving (w : Upstreams) : Prop where
  query : ∀ query, w.pc.query? = some query → 12 ≤ query.length
  cached : ∀ e ∈ w.cache.slots, e.valid = true →
    12 ≤ e.reply.length ∧ e.reply.length ≤ dnsMaxPacket

section Step

variable {w : Upstreams}

theorem Serving.hit (serving : Serving w) {query reply : List UInt8}
    {time : Nat} (headed : 12 ≤ query.length)
    (found : w.hit query time = some reply) : Sized query reply := by
  rw [Upstreams.hit, dnsCacheLookup, if_neg (Nat.not_lt.mpr headed)] at found
  obtain ⟨e, isHit, rfl⟩ := Option.map_eq_some_iff.mp found
  obtain ⟨member, candidate, _⟩ := scan_hit isHit
  obtain ⟨header, fits⟩ :=
    serving.cached e member (Entry.valid_of_candidate candidate)
  obtain ⟨a, b, tail, isReply⟩ := exists_cons_cons header
  obtain ⟨c, d, rest, rfl⟩ := exists_cons_cons headed
  refine ⟨?_, ?_, ?_⟩
  · rwa [List.length_set, List.length_set]
  · rwa [List.length_set, List.length_set]
  · rw [isReply]
    rfl

/-- What passes the test has the ID of the query. -/
theorem sized_of_acceptable {query : List UInt8} {extDns : Addr}
    {datagram : Datagram} (headed : 12 ≤ query.length)
    (passes : acceptable query extDns datagram = true) :
    Sized query (datagram.bytes.take dnsMaxPacket) := by
  rw [acceptable] at passes
  simp only [Bool.and_eq_true, decide_eq_true_eq, beq_iff_eq] at passes
  obtain ⟨⟨⟨⟨header, first⟩, second⟩, _⟩, _⟩ := passes
  refine ⟨header, List.length_take_le _ _, ?_⟩
  obtain ⟨a, b, tail, isReply⟩ := exists_cons_cons header
  obtain ⟨c, d, rest, rfl⟩ := exists_cons_cons headed
  rw [isReply] at first second ⊢
  rw [show a = c from first, show b = d from second]
  rfl

/-- A step that stores nothing and takes up no query. -/
theorem Serving.quiet {w' : Upstreams} (serving : Serving w)
    (query : ∀ query, w'.pc.query? = some query → w.pc.query? = some query)
    (cache : w'.cache = w.cache) : Serving w' where
  query q isQuery := serving.query q (query q isQuery)
  cached := by
    rw [cache]
    exact serving.cached

theorem Serving.handle (serving : Serving w) (idle : w.pc = .idle)
    (bytes : List UInt8) (extDns : Addr) (wifiUp : Bool) (time : Nat) :
    Serving (w.handle bytes extDns wifiUp time) := by
  have nothing : ∀ query, w.pc.query? = some query → 12 ≤ query.length := by
    rw [idle]
    rintro query ⟨⟩
  have cached :
      ∀ e ∈ (dnsCacheLookup w.cache bytes (UInt32.ofNat time)).2.slots,
        e.valid = true → 12 ≤ e.reply.length ∧ e.reply.length ≤ dnsMaxPacket :=
    fun e member valid =>
      serving.cached e (mem_of_lookup_valid member valid) valid
  rw [Upstreams.handle]
  split
  · exact serving
  · next headed =>
    dsimp only
    split
    · exact ⟨nothing, cached⟩
    · refine ⟨?_, cached⟩
      intro query isQuery
      dsimp only at isQuery
      split at isQuery
      · cases isQuery
        exact Nat.le_of_not_lt headed
      · cases isQuery

theorem Serving.receive (serving : Serving w) {query : List UInt8}
    {extDns : Addr} (waiting : w.pc = .waiting query extDns) (time : Nat) :
    Serving (w.receive query extDns time) := by
  have headed := serving.query query (by rw [waiting]; rfl)
  rw [Upstreams.receive]
  split
  · exact serving
  · next datagram rest socket =>
    dsimp only
    split
    · next passes =>
      have sized := sized_of_acceptable headed passes
      refine ⟨by rintro query ⟨⟩, ?_⟩
      intro e member valid
      rcases mem_of_store member with old | rfl
      · exact serving.cached e old valid
      · rw [storedEntry, List.length_set, List.length_set]
        exact ⟨sized.header, sized.fits⟩
    · exact serving.quiet (fun _ => id) rfl

theorem Serving.step (serving : Serving w) (event : ForwardEvent) :
    Serving (w.step event) := by
  cases event with
  | query bytes extDns wifiUp time =>
      rw [Upstreams.step]
      split
      · next idle => exact serving.handle idle bytes extDns wifiUp time
      · exact serving
  | drain =>
      rw [Upstreams.step]
      split
      · next pc =>
        split
        · refine serving.quiet ?_ rfl
          rw [pc]
          exact fun _ => id
        · exact serving.quiet (fun _ => id) rfl
      · exact serving
  | send replies =>
      unfold Upstreams.step
      dsimp only
      split
      · next pc =>
        refine serving.quiet ?_ rfl
        rw [pc]
        exact fun _ => id
      · exact serving.quiet (by rintro query ⟨⟩) rfl
      · exact serving
  | recv time =>
      rw [Upstreams.step]
      split
      · next waiting => exact serving.receive waiting time
      · exact serving
  | giveUp =>
      rw [Upstreams.step]
      split
      · exact serving.quiet (by rintro query ⟨⟩) rfl
      · exact serving
  | arrive index =>
      rw [Upstreams.step]
      split
      · exact serving
      · exact serving.quiet (fun _ => id) rfl
  | lost index => exact serving.quiet (fun _ => id) rfl
  | stray datagram => exact serving.quiet (fun _ => id) rfl

end Step

/-! ## Runs -/

section Runs

variable {w : Upstreams}

theorem Serving.turn (serving : Serving w) (t : Upstreams.Turn) :
    Serving (w.turn t) :=
  serving.step t.1

/-- `recvfrom` on the upstream socket, at these times. -/
def received (r : Nat × Bool) : Upstreams.Turn := (.recv r.1, r.2)

end Runs

/-- The address of `b.` under an ID of its own, and NXDOMAIN for it. -/
def askedNext : List UInt8 :=
  [0x1A, 0x2C, 1, 0, 0, 1, 0, 0, 0, 0, 0, 0, 1, 0x62, 0, 0, 1, 0, 1]

def answeredNext : List UInt8 :=
  [0x1A, 0x2C, 0x81, 0x83, 0, 1, 0, 0, 0, 0, 0, 0, 1, 0x62, 0, 0, 1, 0, 1]

/-- The reply to the first query, whose failure does not reach the phone, is
queued before the reply to the second. -/
def behind : List Upstreams.Turn :=
  [(.query askedA upstream true 1000, true), (.drain, true),
    (.send (some [answeredA]), true), (.giveUp, false),
    (.query askedNext upstream true 4000, true), (.drain, true),
    (.send (some [answeredNext]), true), (.arrive 0, true), (.arrive 0, true)]

end VeteraBridge.Dns

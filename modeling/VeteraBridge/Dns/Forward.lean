import VeteraBridge.Dns.Cache

/-!
# Late replies

One socket serves every query.  `dns_forward` drops what is queued before it
sends, then takes the first datagram of the upstream with the ID of the query.
A reply that is still on its way at that moment is taken for the reply to the new
query if the phone uses its ID again.
-/

namespace VeteraBridge.Dns

open EventRun
open DnsMessage

/-- `sin_addr` and `sin_port`. -/
abbrev Addr := UInt32 × UInt16

/-- A datagram on its way to the upstream socket, with the query it answers. -/
structure Datagram where
  source : Addr
  bytes : List UInt8
  asked : List UInt8
deriving DecidableEq

/-- Where the task is. -/
inductive Pc where
  /-- at `recvfrom` of the phone's socket -/
  | idle
  /-- in the first loop of `dns_forward` -/
  | draining (query : List UInt8) (extDns : Addr)
  /-- before `sendto` -/
  | sending (query : List UInt8) (extDns : Addr)
  /-- in the second loop -/
  | waiting (query : List UInt8) (extDns : Addr)
deriving DecidableEq

/-- A reply that `dns_forward` accepted for a query, with the query it answers. -/
structure Accepted where
  query : List UInt8
  reply : List UInt8
  asked : List UInt8
deriving DecidableEq

/-- The task, its socket, and the replies that are still to come. -/
structure Upstreams where
  cache : Cache
  pc : Pc
  socket : List Datagram
  coming : List Datagram
  accepted : List Accepted

inductive ForwardEvent where
  /-- a datagram of the phone, with the upstream of the moment -/
  | query (bytes : List UInt8) (extDns : Addr) (wifiUp : Bool) (time : Nat)
  /-- a pass of the first loop -/
  | drain
  /-- `sendto`, with the replies that will come of it, or its failure -/
  | send (replies : Option (List (List UInt8)))
  /-- `recvfrom` takes the next datagram before the deadline -/
  | recv (time : Nat)
  /-- the deadline is over, or the socket fails -/
  | giveUp
  /-- a reply reaches the socket -/
  | arrive (index : Nat)
  | lost (index : Nat)
  /-- a datagram that answers nothing the upstream was asked -/
  | stray (datagram : Datagram)
deriving DecidableEq

/-- The test of the second loop. -/
def acceptable (query : List UInt8) (extDns : Addr) (datagram : Datagram) :
    Bool :=
  let reply := datagram.bytes.take dnsMaxPacket
  12 ≤ reply.length && reply.getD 0 0 == query.getD 0 0 &&
    reply.getD 1 0 == query.getD 1 0 && datagram.source.1 == extDns.1 &&
      datagram.source.2 == extDns.2

namespace Upstreams

/-- The next datagram is read in the second loop. -/
def receive (w : Upstreams) (query : List UInt8) (extDns : Addr) (time : Nat) :
    Upstreams :=
  match w.socket with
  | [] => w
  | datagram :: rest =>
    let reply := datagram.bytes.take dnsMaxPacket
    if acceptable query extDns datagram then
      { w with
        cache := dnsCacheStore w.cache query reply (UInt32.ofNat time)
        pc := .idle
        socket := rest
        accepted := w.accepted ++ [⟨query, reply, datagram.asked⟩] }
    else
      { w with socket := rest }

/-- A datagram of the phone is looked up, and forwarded after a miss. -/
def handle (w : Upstreams) (query : List UInt8) (extDns : Addr) (wifiUp : Bool)
    (time : Nat) : Upstreams :=
  if query.length < 12 then w
  else
    let found := dnsCacheLookup w.cache query (UInt32.ofNat time)
    match found.1 with
    | some _ => { w with cache := found.2 }
    | none =>
      { w with
        cache := found.2
        pc := if wifiUp then .draining query extDns else .idle }

def step (w : Upstreams) : ForwardEvent → Upstreams
  | .query bytes extDns wifiUp time =>
    match w.pc with
    | .idle => w.handle bytes extDns wifiUp time
    | _ => w
  | .drain =>
    match w.pc with
    | .draining query extDns =>
      match w.socket with
      | [] => { w with pc := .sending query extDns }
      | _ :: rest => { w with socket := rest }
    | _ => w
  | .send replies =>
    match w.pc, replies with
    | .sending query extDns, some replies =>
      { w with
        pc := .waiting query extDns
        coming := w.coming ++ replies.map fun bytes => ⟨extDns, bytes, query⟩ }
    | .sending _ _, none => { w with pc := .idle }
    | _, _ => w
  | .recv time =>
    match w.pc with
    | .waiting query extDns => w.receive query extDns time
    | _ => w
  | .giveUp =>
    match w.pc with
    | .waiting _ _ => { w with pc := .idle }
    | _ => w
  | .arrive index =>
    match w.coming[index]? with
    | none => w
    | some datagram =>
      { w with
        socket := w.socket ++ [datagram]
        coming := w.coming.eraseIdx index }
  | .lost index => { w with coming := w.coming.eraseIdx index }
  | .stray datagram => { w with socket := w.socket ++ [datagram] }

def start : Upstreams where
  cache := Cache.empty
  pc := .idle
  socket := []
  coming := []
  accepted := []

end Upstreams

/-- The datagrams of the phone fit their buffer, and what comes from the address
of the upstream that is waited for is the upstream's. -/
def ForwardPossible (w : Upstreams) : ForwardEvent → Prop
  | .query bytes _ _ _ => bytes.length ≤ dnsMaxPacket
  | .stray datagram =>
    ∀ query extDns, w.pc = .waiting query extDns → datagram.source ≠ extDns
  | _ => True

/-- What a datagram asks, or its bytes from 12 on where it has no question. -/
def subjectOf (bytes : List UInt8) :
    (List (List UInt8) × Option Nat × UInt16 × UInt16) ⊕ List UInt8 :=
  match Question.codec.read (bytes.drop 12) with
  | some (question, _) => .inl question.subject
  | none => .inr (bytes.drop 12)

/-- A reply that is queued or still to come and passes the test for the query
answers its question. -/
def Clear (query : List UInt8) (extDns : Addr) (w : Upstreams) : Prop :=
  ∀ datagram ∈ w.socket ++ w.coming, acceptable query extDns datagram = true →
    subjectOf datagram.asked = subjectOf query

/-- As a query is sent, no reply of that upstream to another question is queued
or still to come with its ID. -/
def SendsClear (w : Upstreams) : ForwardEvent → Prop
  | .send (some _) => ∀ query extDns, w.pc = .sending query extDns →
    Clear query extDns w
  | _ => True

/-- What was accepted for a query answers its question, and so does what the
cache gives for one. -/
structure Truthful (w : Upstreams) : Prop where
  accepted : ∀ a ∈ w.accepted, subjectOf a.asked = subjectOf a.query
  cached : ∀ query time reply, query.length ≤ dnsMaxPacket →
    (dnsCacheLookup w.cache query time).1 = some reply →
      ∃ a ∈ w.accepted, reply.drop 2 = a.reply.drop 2 ∧
        subjectOf a.asked = subjectOf query

/-! ## The invariant -/

/-- The query of the forward that is going on. -/
def Pc.query? : Pc → Option (List UInt8)
  | .idle => none
  | .draining query _ | .sending query _ | .waiting query _ => some query

/-- A reply that was accepted answers the question, and could be stored. -/
structure Accepted.Right (a : Accepted) : Prop where
  subject : subjectOf a.asked = subjectOf a.query
  query : 12 ≤ a.query.length ∧ a.query.length ≤ dnsMaxPacket
  reply : 12 ≤ a.reply.length

structure ForwardInvariant (w : Upstreams) : Prop where
  query : ∀ query, w.pc.query? = some query →
    12 ≤ query.length ∧ query.length ≤ dnsMaxPacket
  waits : ∀ query extDns, w.pc = .waiting query extDns → Clear query extDns w
  accepted : ∀ a ∈ w.accepted, a.Right
  stored : ∀ e ∈ w.cache.slots, e.valid = true →
    ∃ a ∈ w.accepted, ∃ now, e = storedEntry a.query a.reply now

section Invariant

variable {w w' : Upstreams} {event : ForwardEvent}

/-- A hit is the reply that was accepted for the bytes of the query. -/
theorem ForwardInvariant.cached (invariant : ForwardInvariant w)
    {query reply : List UInt8} {time : UInt32}
    (size : query.length ≤ dnsMaxPacket)
    (hit : (dnsCacheLookup w.cache query time).1 = some reply) :
    ∃ a ∈ w.accepted, reply.drop 2 = a.reply.drop 2 ∧
      subjectOf a.asked = subjectOf query := by
  unfold dnsCacheLookup at hit
  split at hit
  · cases hit
  · obtain ⟨e, found, rfl⟩ := Option.map_eq_some_iff.mp hit
    obtain ⟨member, candidate, sameBytes⟩ := scan_hit found
    have valid := Entry.valid_of_candidate candidate
    obtain ⟨a, isAccepted, now, rfl⟩ := invariant.stored e member valid
    have right := invariant.accepted a isAccepted
    obtain ⟨-, bytes⟩ :=
      sameKey_of_candidate right.query.2 size candidate sameBytes
    refine ⟨a, isAccepted, ?_, ?_⟩
    · exact (drop_withId _ _ _).trans (drop_withId _ _ _)
    · rw [right.subject]
      unfold subjectOf
      rw [bytes]

/-- A step that accepts and stores nothing. -/
theorem ForwardInvariant.quiet (invariant : ForwardInvariant w)
    (query : ∀ query, w'.pc.query? = some query → w.pc.query? = some query)
    (waits : ∀ query extDns, w'.pc = .waiting query extDns →
      Clear query extDns w')
    (cache : w'.cache = w.cache) (accepted : w'.accepted = w.accepted) :
    ForwardInvariant w' := by
  refine ⟨?_, waits, ?_, ?_⟩
  · exact fun q isQuery => invariant.query q (query q isQuery)
  · rw [accepted]
    exact invariant.accepted
  · rw [cache, accepted]
    exact invariant.stored

/-- What is queued and to come stays clear as it gets less. -/
theorem Clear.mono {query : List UInt8} {extDns : Addr}
    (clear : Clear query extDns w)
    (fewer : ∀ datagram ∈ w'.socket ++ w'.coming,
      datagram ∈ w.socket ++ w.coming) : Clear query extDns w' :=
  fun datagram member passes => clear datagram (fewer datagram member) passes

theorem ForwardInvariant.handle (invariant : ForwardInvariant w)
    {query : List UInt8} (extDns : Addr) (wifiUp : Bool) (time : Nat)
    (size : query.length ≤ dnsMaxPacket) :
    ForwardInvariant (w.handle query extDns wifiUp time) := by
  have stored : ∀ e ∈ (dnsCacheLookup w.cache query (UInt32.ofNat time)).2.slots,
      e.valid = true →
        ∃ a ∈ w.accepted, ∃ now, e = storedEntry a.query a.reply now :=
    fun e member valid =>
      invariant.stored e (mem_of_lookup_valid member valid) valid
  unfold Upstreams.handle
  split
  · exact invariant
  · next headed =>
    dsimp only
    split
    · exact ⟨invariant.query, invariant.waits, invariant.accepted, stored⟩
    · refine ⟨?_, ?_, invariant.accepted, stored⟩
      · intro q isQuery
        dsimp only at isQuery
        split at isQuery
        · obtain rfl : query = q := Option.some.inj isQuery
          exact ⟨Nat.le_of_not_lt headed, size⟩
        · cases isQuery
      · intro q other waiting
        dsimp only at waiting
        split at waiting
        · cases waiting
        · cases waiting

theorem source_of_acceptable {query : List UInt8} {extDns : Addr}
    {datagram : Datagram} (passes : acceptable query extDns datagram = true) :
    datagram.source = extDns := by
  unfold acceptable at passes
  simp only [Bool.and_eq_true, beq_iff_eq] at passes
  exact Prod.ext passes.1.2 passes.2

/-- What passes the test is clear, and so it is right. -/
theorem ForwardInvariant.receive (invariant : ForwardInvariant w)
    {query : List UInt8} {extDns : Addr} (time : Nat)
    (waiting : w.pc = .waiting query extDns) :
    ForwardInvariant (w.receive query extDns time) := by
  have clear := invariant.waits query extDns waiting
  have size := invariant.query query (by rw [waiting]; rfl)
  unfold Upstreams.receive
  split
  · exact invariant
  · next datagram rest isSocket =>
    have mine : datagram ∈ w.socket ++ w.coming := by
      rw [isSocket]
      exact List.mem_append_left _ List.mem_cons_self
    dsimp only
    split
    · next passes =>
      have right : Accepted.Right
          ⟨query, datagram.bytes.take dnsMaxPacket, datagram.asked⟩ := by
        refine ⟨clear datagram mine passes, size, ?_⟩
        unfold acceptable at passes
        simp only [Bool.and_eq_true] at passes
        exact of_decide_eq_true passes.1.1.1.1
      refine ⟨by rintro q ⟨⟩, by rintro q other ⟨⟩, ?_, ?_⟩
      · intro a member
        rcases List.mem_append.mp member with old | new
        · exact invariant.accepted a old
        · rw [List.mem_singleton.mp new]
          exact right
      · intro e member valid
        rcases mem_of_store member with old | rfl
        · obtain ⟨a, isAccepted, isEntry⟩ := invariant.stored e old valid
          exact ⟨a, List.mem_append_left _ isAccepted, isEntry⟩
        · exact ⟨_, List.mem_append_right _ (List.mem_singleton_self _), _, rfl⟩
    · refine invariant.quiet (fun _ => id) ?_ rfl rfl
      intro q other isWaiting
      apply (invariant.waits q other isWaiting).mono
      intro later member
      rw [isSocket]
      exact List.mem_cons_of_mem datagram member

theorem ForwardInvariant.drain (invariant : ForwardInvariant w) :
    ForwardInvariant (w.step .drain) := by
  unfold Upstreams.step
  dsimp only
  cases pc : w.pc with
  | idle => exact invariant
  | sending query extDns => exact invariant
  | waiting query extDns => exact invariant
  | draining query extDns =>
      dsimp only
      split
      · refine invariant.quiet ?_ (by rintro q other ⟨⟩) rfl rfl
        rw [pc]
        exact fun _ => id
      · refine invariant.quiet ?_ (by rintro q other ⟨⟩) rfl rfl
        rw [pc]
        exact fun _ => id

/-- The replies to come of a query answer it. -/
theorem ForwardInvariant.send (invariant : ForwardInvariant w)
    {replies : Option (List (List UInt8))}
    (clear : SendsClear w (.send replies)) :
    ForwardInvariant (w.step (.send replies)) := by
  unfold Upstreams.step
  dsimp only
  cases pc : w.pc with
  | idle => exact invariant
  | draining query extDns => exact invariant
  | waiting query extDns => exact invariant
  | sending query extDns =>
      cases replies with
      | none =>
          refine invariant.quiet ?_ (by rintro q other ⟨⟩) rfl rfl
          rintro q ⟨⟩
      | some replies =>
          refine invariant.quiet ?_ ?_ rfl rfl
          · rw [pc]
            exact fun _ => id
          · rintro q other ⟨⟩ datagram member passes
            rcases List.mem_append.mp member with queued | coming
            · exact clear query extDns pc datagram
                (List.mem_append_left _ queued) passes
            · rcases List.mem_append.mp coming with earlier | new
              · exact clear query extDns pc datagram
                  (List.mem_append_right _ earlier) passes
              · obtain ⟨bytes, -, rfl⟩ := List.mem_map.mp new
                rfl

theorem ForwardInvariant.arrive (invariant : ForwardInvariant w)
    (index : Nat) : ForwardInvariant (w.step (.arrive index)) := by
  unfold Upstreams.step
  dsimp only
  split
  · exact invariant
  · next datagram isComing =>
    refine invariant.quiet (fun _ => id) ?_ rfl rfl
    intro q other isWaiting
    apply (invariant.waits q other isWaiting).mono
    intro later member
    rcases List.mem_append.mp member with queued | coming
    · rcases List.mem_append.mp queued with earlier | new
      · exact List.mem_append_left _ earlier
      · rw [List.mem_singleton.mp new]
        exact List.mem_append_right _ (List.mem_of_getElem? isComing)
    · exact List.mem_append_right _ (List.mem_of_mem_eraseIdx coming)

theorem ForwardInvariant.step (invariant : ForwardInvariant w)
    (possible : ForwardPossible w event) (clear : SendsClear w event) :
    ForwardInvariant (w.step event) := by
  cases event with
  | query bytes extDns wifiUp time =>
      unfold Upstreams.step
      cases pc : w.pc with
      | idle => exact invariant.handle extDns wifiUp time possible
      | draining query extDns => exact invariant
      | sending query extDns => exact invariant
      | waiting query extDns => exact invariant
  | drain => exact invariant.drain
  | send replies => exact invariant.send clear
  | recv time =>
      unfold Upstreams.step
      cases pc : w.pc with
      | idle => exact invariant
      | draining query extDns => exact invariant
      | sending query extDns => exact invariant
      | waiting query extDns => exact invariant.receive time pc
  | giveUp =>
      unfold Upstreams.step
      cases pc : w.pc with
      | idle => exact invariant
      | draining query extDns => exact invariant
      | sending query extDns => exact invariant
      | waiting query extDns =>
          exact invariant.quiet (by rintro q ⟨⟩) (by rintro q other ⟨⟩) rfl rfl
  | arrive index => exact invariant.arrive index
  | lost index =>
      refine invariant.quiet (fun _ => id) ?_ rfl rfl
      intro q other isWaiting
      apply (invariant.waits q other isWaiting).mono
      intro later member
      rcases List.mem_append.mp member with queued | coming
      · exact List.mem_append_left _ queued
      · exact List.mem_append_right _ (List.mem_of_mem_eraseIdx coming)
  | stray datagram =>
      refine invariant.quiet (fun _ => id) ?_ rfl rfl
      intro q other isWaiting later member passes
      rcases List.mem_append.mp member with queued | coming
      · rcases List.mem_append.mp queued with earlier | new
        · exact invariant.waits q other isWaiting later
            (List.mem_append_left _ earlier) passes
        · rw [List.mem_singleton.mp new] at passes
          exact absurd (source_of_acceptable passes) (possible q other isWaiting)
      · exact invariant.waits q other isWaiting later
          (List.mem_append_right _ coming) passes

theorem start_forward : ForwardInvariant Upstreams.start where
  query _ none := by cases none
  waits _ _ waiting := by cases waiting
  accepted _ member := by cases member
  stored e member valid := by
    rw [List.eq_of_mem_replicate member] at valid
    cases valid

end Invariant

/-- Every reply that is accepted, and every reply the cache gives, answers the
question of its query, in every run in which each query is sent only when no
reply with its ID to another question is outstanding. -/
theorem replies_truthful {events : List ForwardEvent}
    (possible : Along Upstreams.step ForwardPossible Upstreams.start events)
    (clear : Along Upstreams.step SendsClear Upstreams.start events) :
    ∀ earlier, earlier <+: events →
      Truthful (run Upstreams.step Upstreams.start earlier) := by
  rintro earlier ⟨later, rfl⟩
  have invariant :
      ForwardInvariant (run Upstreams.step Upstreams.start earlier) :=
    run_invariant_along ForwardInvariant
      (fun _ _ invariant allowed => invariant.step allowed.1 allowed.2)
      start_forward
      (((along_append _ _ _).mp possible).1.and
        ((along_append _ _ _).mp clear).1)
  exact ⟨fun a member => (invariant.accepted a member).subject,
    fun _ _ _ size hit => invariant.cached size hit⟩

section Example

/-- The addresses of `a.` and of `b.` are asked for under one ID. -/
def askedA : List UInt8 :=
  [0x1A, 0x2B, 1, 0, 0, 1, 0, 0, 0, 0, 0, 0, 1, 0x61, 0, 0, 1, 0, 1]

def askedB : List UInt8 :=
  [0x1A, 0x2B, 1, 0, 0, 1, 0, 0, 0, 0, 0, 0, 1, 0x62, 0, 0, 1, 0, 1]

/-- NXDOMAIN for `a.`. -/
def answeredA : List UInt8 :=
  [0x1A, 0x2B, 0x81, 0x83, 0, 1, 0, 0, 0, 0, 0, 0, 1, 0x61, 0, 0, 1, 0, 1]

def upstream : Addr := (0x08080808, 53)

/-- A query that is answered in time. -/
def inTime : List ForwardEvent :=
  [.query askedA upstream true 1000, .drain, .send (some [answeredA]),
    .arrive 0, .recv 1200]

theorem replies_truthful_inTime :
    Truthful (run Upstreams.step Upstreams.start inTime) := by
  have possible :
      Along Upstreams.step ForwardPossible Upstreams.start inTime :=
    ⟨by show 19 ≤ 512; decide, trivial, trivial, trivial, trivial, trivial⟩
  have clear : Along Upstreams.step SendsClear Upstreams.start inTime := by
    refine ⟨trivial, trivial, ?_, trivial, trivial, trivial⟩
    rintro query extDns - datagram member
    cases member
  exact replies_truthful possible clear inTime List.prefix_rfl

/-- The reply to the first query comes as the second is waited for. -/
def late : List ForwardEvent :=
  [.query askedA upstream true 1000, .drain, .send (some [answeredA]), .giveUp,
    .query askedB upstream true 4000, .drain, .send (some []), .arrive 0,
    .recv 4100]

theorem late_untruthful :
    Along Upstreams.step ForwardPossible Upstreams.start late ∧
      (run Upstreams.step Upstreams.start late).accepted =
        [⟨askedB, answeredA, askedA⟩] ∧
      ¬ Truthful (run Upstreams.step Upstreams.start late) := by
  have accepted : (run Upstreams.step Upstreams.start late).accepted =
      [⟨askedB, answeredA, askedA⟩] := by decide
  refine ⟨⟨by show 19 ≤ 512; decide, trivial, trivial, trivial,
    by show 19 ≤ 512; decide, trivial, trivial, trivial, trivial, trivial⟩,
    accepted, ?_⟩
  intro truthful
  have same := truthful.accepted ⟨askedB, answeredA, askedA⟩
    (by rw [accepted]; exact List.mem_singleton_self _)
  exact absurd same (by decide)

end Example

end VeteraBridge.Dns

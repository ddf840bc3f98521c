import VeteraBridge.Dns.Cache

/-!
# What the phone is answered

A pass of `dns_server_task` over one query.  The cache is asked before the state
of WiFi, so the reply of an upstream is still given while WiFi is down; what is
made up while it is up holds no address.
-/

namespace VeteraBridge.Dns

open EventRun
open DnsMessage

/-- A datagram of the phone, with the time it is looked up, the state of WiFi,
and what `dns_forward` accepts, with the time it is stored. -/
structure Request where
  query : List UInt8
  lookedUp : Nat
  wifiUp : Bool
  upstream : Option (List UInt8 × Nat)
deriving DecidableEq

/-- What is accepted for the request: only asked for while WiFi is up. -/
def Request.accepted (r : Request) : Option (List UInt8 × Nat) :=
  if r.wifiUp then r.upstream else none

namespace Loop

/-- The body of the loop: what is sent to the phone, if any bytes, and the
state. -/
def serve (s : Loop) (r : Request) : List UInt8 × Loop :=
  if r.query.length < 12 then ([], { s with clock := r.lookedUp })
  else
    let found := s.lookup r.query r.lookedUp
    match found.1, r.accepted with
    | some reply, _ => (reply, found.2)
    | none, some (reply, time) => (reply, found.2.store r.query reply time)
    | none, none =>
      (if r.wifiUp then dnsMakeServfailReply r.query dnsMaxPacket
        else dnsMakeCaptiveReply r.query dnsMaxPacket,
        found.2)

def afterServing (s : Loop) (r : Request) : Loop := (s.serve r).2

/-- The loop goes on as the cache sees it. -/
theorem afterServing_eq (s : Loop) (r : Request) :
    s.afterServing r = s.step ⟨r.query, r.lookedUp, r.accepted⟩ := by
  unfold afterServing serve step
  dsimp only
  split
  · rfl
  · cases (s.lookup r.query r.lookedUp).1 with
    | some reply => rfl
    | none =>
        cases r.accepted with
        | none => rfl
        | some accepted => rfl

end Loop

/-! ## Answers -/

/-- A response with the ID of the query and the code. -/
structure HasRcode (query : Query) (rcode : UInt8) (reply : List UInt8) :
    Prop where
  header : 12 ≤ reply.length
  id : reply.take 2 = query.bytes.take 2
  response : reply.getD 2 0 &&& 0x80 = 0x80
  rcode : reply.getD 3 0 &&& 0x0F = rcode

/-- While WiFi is down an address is answered with the gateway's. -/
structure AnswersDown (query : Query) (reply : List UInt8) : Prop where
  address : query.question.qtype = 1 → CaptiveAnswer query reply
  other : query.question.qtype ≠ 1 → HasRcode query 3 reply

/-- The reply is one of those, but for the ID, or it holds no answer. -/
def NotMadeUp (given : List (List UInt8)) (query : Query)
    (reply : List UInt8) : Prop :=
  (∃ upstream ∈ given, reply.drop 2 = upstream.drop 2) ∨
    (HasRcode query 2 reply ∧ qtypeAt reply 6 = 0)

/-- The replies of upstreams: what the cache held at first, and what was
accepted since. -/
def Loop.given (s : Loop) (requests : List Request) : List (List UInt8) :=
  (s.cache.slots.filter Entry.valid).map Entry.reply ++
    requests.filterMap fun r => r.accepted.map Prod.fst

section Serve

variable {s : Loop} {query : Query} {r : Request}

theorem serve_hit (headed : ¬ r.query.length < 12) {reply : List UInt8}
    (hit : (s.lookup r.query r.lookedUp).1 = some reply) :
    (s.serve r).1 = reply := by
  unfold Loop.serve
  rw [if_neg headed]
  dsimp only
  rw [hit]

theorem serve_accepted (headed : ¬ r.query.length < 12)
    (miss : (s.lookup r.query r.lookedUp).1 = none) {reply : List UInt8}
    {time : Nat} (accepted : r.accepted = some (reply, time)) :
    (s.serve r).1 = reply := by
  unfold Loop.serve
  rw [if_neg headed]
  dsimp only
  rw [miss, accepted]

theorem serve_madeUp (headed : ¬ r.query.length < 12)
    (miss : (s.lookup r.query r.lookedUp).1 = none)
    (accepted : r.accepted = none) :
    (s.serve r).1 =
      if r.wifiUp then dnsMakeServfailReply r.query dnsMaxPacket
      else dnsMakeCaptiveReply r.query dnsMaxPacket := by
  unfold Loop.serve
  rw [if_neg headed]
  dsimp only
  rw [miss, accepted]

theorem Query.headed (query : Query) : ¬ query.bytes.length < 12 := by
  rw [query.bytes_length]
  unfold Query.questionEnd
  omega

theorem hasRcode_replyHeader (query : Query) {flags ancount rcode : UInt8}
    (rest : List UInt8) (code : flags &&& 0x0F = rcode) :
    HasRcode query rcode (replyHeader query.bytes flags ancount ++ rest) := by
  refine ⟨?_, rfl, ?_, code⟩
  · rw [List.length_append]
    exact Nat.le_add_right 12 _
  · show (0x81 : UInt8) &&& 0x80 = 0x80
    decide

/-- What is made up while WiFi is down answers a query whose question is copied
alone, or that is not for an address. -/
theorem answersDown_captive :
    AnswersDown query (dnsMakeCaptiveReply query.bytes dnsMaxPacket) ↔
      (query.question.qtype = 1 → query.CopiedAlone) := by
  rw [captive_bytes]
  by_cases address : query.question.qtype = 1
  · rw [if_neg (not_not.mpr address)]
    constructor
    · intro answers _
      exact query.copied_eq_iff.mp
        (captiveAnswer_iff.mp (answers.address address))
    · intro alone
      refine ⟨fun _ => ?_, fun other => absurd address other⟩
      exact captiveAnswer_iff.mpr (query.copied_eq_iff.mpr (alone address))
  · rw [if_pos address]
    constructor
    · exact fun _ isAddress => absurd isAddress address
    · exact fun _ => ⟨fun isAddress => absurd isAddress address,
        fun _ => hasRcode_replyHeader query _ (by decide)⟩

theorem servfail_notMadeUp (given : List (List UInt8)) (query : Query) :
    NotMadeUp given query (dnsMakeServfailReply query.bytes dnsMaxPacket) := by
  rw [servfail_bytes]
  exact Or.inr ⟨hasRcode_replyHeader query _ (by decide), rfl⟩

end Serve

/-! ## What the cache holds -/

/-- Every valid entry holds one of the replies, but for the ID. -/
def Held (given : List (List UInt8)) (s : Loop) : Prop :=
  ∀ e ∈ s.cache.slots, e.valid = true →
    ∃ upstream ∈ given, e.reply.drop 2 = upstream.drop 2

section Held

variable {s : Loop} {given : List (List UInt8)} {r : Request}

theorem Held.lookup (held : Held given s) (query : List UInt8) (time : Nat) :
    Held given (s.lookup query time).2 :=
  fun e member valid => held e (mem_of_lookup_valid member valid) valid

/-- A lookup that hits gives one of the replies. -/
theorem Held.hit (held : Held given s) {query reply : List UInt8} {time : Nat}
    (headed : ¬ query.length < 12)
    (hit : (s.lookup query time).1 = some reply) :
    ∃ upstream ∈ given, reply.drop 2 = upstream.drop 2 := by
  rw [lookup_reply headed] at hit
  obtain ⟨e, found, rfl⟩ := Option.map_eq_some_iff.mp hit
  obtain ⟨member, candidate, -⟩ := scan_hit found
  rw [drop_withId]
  exact held e member (Entry.valid_of_candidate candidate)

theorem Held.store (held : Held given s) {query reply : List UInt8} {time : Nat}
    (isGiven : reply ∈ given) : Held given (s.store query reply time) := by
  intro e member valid
  rcases mem_of_store member with old | rfl
  · exact held e old valid
  · exact ⟨reply, isGiven, drop_withId reply 0 0⟩

theorem Held.serve (held : Held given s)
    (accepted : ∀ reply time, r.accepted = some (reply, time) →
      reply ∈ given) : Held given (s.afterServing r) := by
  rw [Loop.afterServing_eq]
  unfold Loop.step
  split
  · exact held
  · dsimp only
    split
    · next reply time miss isAccepted =>
      exact (held.lookup r.query r.lookedUp).store
        (accepted reply time isAccepted)
    · exact held.lookup r.query r.lookedUp

theorem Held.run (held : Held given s) (requests : List Request)
    (accepted : ∀ r ∈ requests, ∀ reply time,
      r.accepted = some (reply, time) → reply ∈ given) :
    Held given (run Loop.afterServing s requests) := by
  induction requests generalizing s with
  | nil => exact held
  | cons r rest inductionHypothesis =>
      rw [run_cons]
      apply inductionHypothesis
      · exact held.serve (accepted r List.mem_cons_self)
      · exact fun later member => accepted later (List.mem_cons_of_mem r member)

/-- What the cache held at first is among what was given. -/
theorem held_first (s : Loop) (requests : List Request) :
    Held (s.given requests) s := by
  intro e member valid
  refine ⟨e.reply, List.mem_append_left _ ?_, rfl⟩
  exact List.mem_map_of_mem (List.mem_filter.mpr ⟨member, valid⟩)

theorem accepted_given (s : Loop) {requests : List Request}
    (member : r ∈ requests) {reply : List UInt8} {time : Nat}
    (accepted : r.accepted = some (reply, time)) :
    reply ∈ s.given requests := by
  apply List.mem_append_right
  refine List.mem_filterMap.mpr ⟨r, member, ?_⟩
  rw [accepted]
  rfl

end Held

/-- The answer is the gateway's or NXDOMAIN while WiFi is down, and is not made
up while it is up. -/
structure Answers (given : List (List UInt8)) (query : Query) (wifiUp : Bool)
    (reply : List UInt8) : Prop where
  down : wifiUp = false → AnswersDown query reply
  up : wifiUp = true → NotMadeUp given query reply

/-- The entry that `dns_cache_lookup` stops at. -/
def Loop.entryFor (s : Loop) (query : Query) (lookedUp : Nat) : Option Entry :=
  (scan query.bytes (UInt32.ofNat lookedUp) s.cache.slots).1

/-- While WiFi is down there is no entry for the query, or its stored reply is
such an answer under the ID of the query, and the question of a query for an
address is copied alone. -/
structure AnswersWhen (s : Loop) (query : Query) (lookedUp : Nat)
    (wifiUp : Bool) : Prop where
  hit : wifiUp = false → ∀ e, s.entryFor query lookedUp = some e →
    AnswersDown query
      ((e.reply.set 0 (query.bytes.getD 0 0)).set 1 (query.bytes.getD 1 0))
  miss : wifiUp = false → s.entryFor query lookedUp = none →
    query.question.qtype = 1 → query.CopiedAlone

section Answers

variable {s : Loop} {query : Query} {lookedUp : Nat}

/-- While WiFi is down the cache answers, or the captive reply does. -/
theorem answersDown_iff (upstream : Option (List UInt8 × Nat)) :
    AnswersDown query
        (s.serve ⟨query.bytes, lookedUp, false, upstream⟩).1 ↔
      AnswersWhen s query lookedUp false := by
  have headed := query.headed
  have looked : (s.lookup query.bytes lookedUp).1 = _ := lookup_reply headed
  cases stopped : s.entryFor query lookedUp with
  | some e =>
      have found := looked.trans (congrArg (Option.map _) stopped)
      rw [Option.map_some] at found
      rw [serve_hit headed found]
      constructor
      · intro answers
        refine ⟨?_, ?_⟩
        · intro _ other isOther
          obtain rfl := Option.some.inj (stopped.symm.trans isOther)
          exact answers
        · intro _ miss
          cases stopped.symm.trans miss
      · exact fun answersWhen => answersWhen.hit rfl e stopped
  | none =>
      have found := looked.trans (congrArg (Option.map _) stopped)
      have madeUp := serve_madeUp (s := s)
        (r := ⟨query.bytes, lookedUp, false, upstream⟩) headed found rfl
      rw [madeUp, if_neg Bool.false_ne_true, answersDown_captive]
      constructor
      · intro alone
        refine ⟨?_, fun _ _ => alone⟩
        intro _ e hit
        cases stopped.symm.trans hit
      · exact fun answersWhen => answersWhen.miss rfl stopped

/-- While WiFi is up the cache, the upstream or SERVFAIL answers. -/
theorem Held.notMadeUp {given : List (List UInt8)}
    {upstream : Option (List UInt8 × Nat)} (held : Held given s)
    (accepted : ∀ reply time, upstream = some (reply, time) →
      reply ∈ given) :
    NotMadeUp given query
      (s.serve ⟨query.bytes, lookedUp, true, upstream⟩).1 := by
  have headed := query.headed
  cases found : (s.lookup query.bytes lookedUp).1 with
  | some reply =>
      rw [serve_hit headed found]
      exact Or.inl (held.hit headed found)
  | none =>
      cases isGiven : upstream with
      | some pair =>
          obtain ⟨reply, time⟩ := pair
          have isAccepted :
              Request.accepted ⟨query.bytes, lookedUp, true, upstream⟩ =
                some (reply, time) := isGiven
          rw [← isGiven, serve_accepted headed found isAccepted]
          exact Or.inl ⟨reply, accepted reply time isGiven, rfl⟩
      | none =>
          rw [serve_madeUp headed found rfl]
          exact servfail_notMadeUp given query

end Answers

/-- After any requests, from any cache, a query is answered as it should be
exactly in these cases. -/
theorem answers_iff (s : Loop) (earlier : List Request) (query : Query)
    (lookedUp : Nat) (wifiUp : Bool) (upstream : Option (List UInt8 × Nat)) :
    Answers
        (s.given (earlier ++ [⟨query.bytes, lookedUp, wifiUp, upstream⟩])) query
        wifiUp
        ((run Loop.afterServing s earlier).serve
          ⟨query.bytes, lookedUp, wifiUp, upstream⟩).1 ↔
      AnswersWhen (run Loop.afterServing s earlier) query lookedUp wifiUp := by
  cases wifiUp with
  | false =>
      rw [← answersDown_iff upstream]
      constructor
      · exact fun answers => answers.down rfl
      · refine fun down => ⟨fun _ => down, ?_⟩
        rintro ⟨⟩
  | true =>
      constructor
      · intro _
        refine ⟨?_, ?_⟩
        · rintro ⟨⟩
        · rintro ⟨⟩
      · intro _
        refine ⟨by rintro ⟨⟩, fun _ => ?_⟩
        apply Held.notMadeUp
        · apply (held_first s _).run
          intro r member reply time accepted
          exact accepted_given s (List.mem_append_left _ member) accepted
        · intro reply time accepted
          have isLast : (⟨query.bytes, lookedUp, true, upstream⟩ : Request) ∈
              earlier ++ [⟨query.bytes, lookedUp, true, upstream⟩] :=
            List.mem_append_right _ (List.mem_singleton_self _)
          exact accepted_given s isLast accepted

section Example

/-- The address of `wap.ex` is asked for. -/
def wapQuery : Query where
  id := 0x1A2B
  flags := 0x0100
  ancount := 0
  nscount := 0
  arcount := 0
  question := ednsQuery.question
  complete := rfl
  legal := by decide
  additional := []
  fits := by decide

/-- The upstream's answer, 93.184.216.34. -/
def wapAnswered : List UInt8 :=
  replyHeader wapQuery.bytes 0x80 1 ++
    (wapQuery.asked ++
      [0xC0, 0x0C, 0, 1, 0, 1, 0, 0, 0, 0x3C, 0, 4, 93, 184, 216, 34])

/-- A record ends with its data. -/
theorem record_ends {record : Record} (rdata : record.rdata.1 = gwIp) :
    ∃ before, Record.codec.write record = before ++ gwIp := by
  refine ⟨record.name.write ++ (Codec.word16.write record.rtype ++
    (Codec.word16.write record.rclass ++ (Codec.word32.write record.ttl ++
      Codec.word16.write record.rdata.count))), ?_⟩
  show record.name.write ++ (Codec.word16.write record.rtype ++
    (Codec.word16.write record.rclass ++ (Codec.word32.write record.ttl ++
      (Codec.word16.write record.rdata.count ++
        Codec.byte.writeAll record.rdata.1)))) = _
  rw [rdata]
  simp only [List.append_assoc]
  rfl

/-- The upstream's answer is cached, and is given while WiFi is down. -/
theorem wapQuery_cached :
    ((run Loop.afterServing Loop.start
      [⟨wapQuery.bytes, 1000, true, some (wapAnswered, 1200)⟩]).serve
        ⟨wapQuery.bytes, 2000, false, none⟩).1 = wapAnswered ∧
      wapQuery.question.qtype = 1 ∧ ¬ CaptiveAnswer wapQuery wapAnswered := by
  refine ⟨by decide, rfl, ?_⟩
  rintro ⟨message, replies, record, one, gives⟩
  have same := (replies.parts rfl).1
  obtain ⟨before, written⟩ := record_ends gives.rdata
  rw [one, Codec.writeAll_cons, Codec.writeAll_nil, List.append_nil,
    written] at same
  have tail := List.append_cancel_left same
  have split : ([0xC0, 0x0C, 0, 1, 0, 1, 0, 0, 0, 0x3C, 0, 4, 93, 184, 216,
      34] : List UInt8) =
      [0xC0, 0x0C, 0, 1, 0, 1, 0, 0, 0, 0x3C, 0, 4] ++ [93, 184, 216, 34] := rfl
  rw [split] at tail
  have address := (List.append_inj' tail rfl).2
  exact absurd address (by decide)

end Example

end VeteraBridge.Dns

import VeteraBridge.Dns.Reply
import VeteraBridge.Lib.EventRun
import VeteraBridge.Lib.SlotRing
import VeteraBridge.Lib.WrappingClock
import Mathlib.Tactic.Common

/-!
# The cache of `dns_fwd.c`

A ring of sixteen entries, found by a hash, the length and the bytes of the query
from byte 12 on.  A lookup drops the entries it finds expired on its way.  As a
store only follows a lookup that missed, the ring is a map from queries to the
latest reply.
-/

namespace VeteraBridge.Dns

open EventRun

/-! ## The functions -/

def dnsCacheSize : Nat := 16

/-- `dns_cache_entry_t`; `reply` is as long as `rlen` says. -/
structure Entry where
  valid : Bool
  hash : UInt16
  qlen : UInt16
  savedMs : UInt32
  query : List UInt8
  reply : List UInt8
deriving DecidableEq

/-- `dns_cache` with `dns_cache_next`. -/
abbrev Cache := SlotRing Entry dnsCacheSize

def Entry.empty : Entry := ⟨false, 0, 0, 0, [], []⟩

def Cache.empty : Cache where
  slots := List.replicate dnsCacheSize Entry.empty
  slots_length := List.length_replicate
  next := 0
  next_lt := by decide

/-- `dns_query_hash`. -/
def dnsQueryHash (query : List UInt8) : UInt16 :=
  let h := ((query.take 40).drop 12).foldl (fun h b => h * 31 + b.toUInt32) 0
  (h ^^^ (h >>> 16)).toUInt16

namespace Entry

/-- Valid, and of the hash and the length of the query. -/
def candidate (query : List UInt8) (e : Entry) : Bool :=
  e.valid && e.hash == dnsQueryHash query && e.qlen == UInt16.ofNat query.length

def expired (now : UInt32) (e : Entry) : Bool :=
  60000 < now - e.savedMs

/-- The bytes from 12 on are those of the query. -/
def sameBytes (query : List UInt8) (e : Entry) : Bool :=
  (e.query.drop 12).take (query.length - 12) == query.drop 12

theorem valid_of_candidate {query : List UInt8} {e : Entry}
    (isCandidate : e.candidate query = true) : e.valid = true := by
  unfold candidate at isCandidate
  exact (Bool.and_eq_true_iff.mp (Bool.and_eq_true_iff.mp isCandidate).1).1

end Entry

/-- The loop of `dns_cache_lookup`: the entry it hits, and what it leaves. -/
def scan (query : List UInt8) (now : UInt32) :
    List Entry → Option Entry × List Entry
  | [] => (none, [])
  | e :: rest =>
    if e.candidate query = false then
      let found := scan query now rest
      (found.1, e :: found.2)
    else if e.expired now then
      let found := scan query now rest
      (found.1, { e with valid := false } :: found.2)
    else if e.sameBytes query = false then
      let found := scan query now rest
      (found.1, e :: found.2)
    else
      (some e, e :: rest)

section Scan

variable {query : List UInt8} {now : UInt32} {slots : List Entry} {e : Entry}

/-- The ways a scan goes on or ends at an entry. -/
theorem scan_cons (query : List UInt8) (now : UInt32) (e : Entry)
    (rest : List Entry) :
    (e.candidate query = true ∧ e.expired now = false ∧
        e.sameBytes query = true ∧ scan query now (e :: rest) =
          (some e, e :: rest)) ∨
      ((e.candidate query && e.sameBytes query) = false ∧
        scan query now (e :: rest) =
          ((scan query now rest).1, e :: (scan query now rest).2)) ∨
      (e.candidate query = true ∧ e.expired now = true ∧
        scan query now (e :: rest) =
          ((scan query now rest).1,
            { e with valid := false } :: (scan query now rest).2)) := by
  cases candidate : e.candidate query with
  | false => exact Or.inr (Or.inl ⟨rfl, by simp [scan, candidate]⟩)
  | true =>
      cases expired : e.expired now with
      | true =>
          exact Or.inr (Or.inr ⟨rfl, rfl, by simp [scan, candidate, expired]⟩)
      | false =>
          cases same : e.sameBytes query with
          | false =>
              exact Or.inr (Or.inl
                ⟨rfl, by simp [scan, candidate, expired, same]⟩)
          | true =>
              exact Or.inl
                ⟨rfl, rfl, rfl, by simp [scan, candidate, expired, same]⟩

@[simp]
theorem scan_length : (scan query now slots).2.length = slots.length := by
  induction slots with
  | nil => rfl
  | cons e rest inductionHypothesis =>
      rcases scan_cons query now e rest with
        ⟨-, -, -, hits⟩ | ⟨-, passes⟩ | ⟨-, -, drops⟩
      · rw [hits]
      · rw [passes, List.length_cons, List.length_cons, inductionHypothesis]
      · rw [drops, List.length_cons, List.length_cons, inductionHypothesis]

/-- A scan leaves an entry alone, or drops it as it has expired. -/
theorem scan_slot (query : List UInt8) (now : UInt32) {index : Nat}
    (isEntry : slots[index]? = some e) :
    (scan query now slots).2[index]? = some e ∨
      (e.expired now = true ∧
        (scan query now slots).2[index]? = some { e with valid := false }) := by
  induction slots generalizing index with
  | nil => cases isEntry
  | cons first rest inductionHypothesis =>
      rcases scan_cons query now first rest with
        ⟨-, -, -, hits⟩ | ⟨-, passes⟩ | ⟨-, expired, drops⟩
      · rw [hits]
        exact Or.inl isEntry
      · rw [passes]
        cases index with
        | zero => exact Or.inl isEntry
        | succ index => exact inductionHypothesis isEntry
      · rw [drops]
        cases index with
        | zero =>
            obtain rfl : first = e := Option.some.inj isEntry
            exact Or.inr ⟨expired, rfl⟩
        | succ index => exact inductionHypothesis isEntry

/-- What is valid after a scan was there before. -/
theorem scan_slot_valid {index : Nat}
    (isEntry : (scan query now slots).2[index]? = some e)
    (valid : e.valid = true) : slots[index]? = some e := by
  obtain ⟨inside, -⟩ := List.getElem?_eq_some_iff.mp isEntry
  rw [scan_length] at inside
  have before := List.getElem?_eq_getElem inside
  rcases scan_slot query now before with same | ⟨-, dropped⟩
  · rw [same] at isEntry
    exact before.trans isEntry
  · rw [dropped] at isEntry
    rw [← Option.some.inj isEntry] at valid
    cases valid

theorem scan_hit (hit : (scan query now slots).1 = some e) :
    e ∈ slots ∧ e.candidate query = true ∧ e.sameBytes query = true := by
  induction slots with
  | nil => cases hit
  | cons first rest inductionHypothesis =>
      rcases scan_cons query now first rest with
        ⟨candidate, -, same, hits⟩ | ⟨-, passes⟩ | ⟨-, -, drops⟩
      · rw [hits] at hit
        obtain rfl : first = e := Option.some.inj hit
        exact ⟨List.mem_cons_self, candidate, same⟩
      · rw [passes] at hit
        obtain ⟨member, holds⟩ := inductionHypothesis hit
        exact ⟨List.mem_cons_of_mem first member, holds⟩
      · rw [drops] at hit
        obtain ⟨member, holds⟩ := inductionHypothesis hit
        exact ⟨List.mem_cons_of_mem first member, holds⟩

/-- A scan that misses leaves no entry of the query. -/
theorem scan_miss (miss : (scan query now slots).1 = none)
    (member : e ∈ (scan query now slots).2) :
    (e.candidate query && e.sameBytes query) = false := by
  induction slots with
  | nil => cases member
  | cons first rest inductionHypothesis =>
      rcases scan_cons query now first rest with
        ⟨-, -, -, hits⟩ | ⟨other, passes⟩ | ⟨-, -, drops⟩
      · rw [hits] at miss
        cases miss
      · rw [passes] at miss member
        rcases List.mem_cons.mp member with rfl | later
        · exact other
        · exact inductionHypothesis miss later
      · rw [drops] at miss member
        rcases List.mem_cons.mp member with rfl | later
        · rfl
        · exact inductionHypothesis miss later

/-- An entry of the query that has not expired is not passed by. -/
theorem scan_finds (member : e ∈ slots) (candidate : e.candidate query = true)
    (fresh : e.expired now = false) (same : e.sameBytes query = true) :
    (scan query now slots).1 ≠ none := by
  induction slots with
  | nil => cases member
  | cons first rest inductionHypothesis =>
      rcases scan_cons query now first rest with
        ⟨-, -, -, hits⟩ | ⟨other, passes⟩ | ⟨-, expired, drops⟩
      · rw [hits]
        rintro ⟨⟩
      · rw [passes]
        rcases List.mem_cons.mp member with rfl | later
        · rw [candidate, same] at other
          cases other
        · exact inductionHypothesis later
      · rw [drops]
        rcases List.mem_cons.mp member with rfl | later
        · cases fresh.symm.trans expired
        · exact inductionHypothesis later

end Scan

/-- `dns_cache_lookup`: the reply with the ID of the query, and the cache. -/
def dnsCacheLookup (cache : Cache) (query : List UInt8) (now : UInt32) :
    Option (List UInt8) × Cache :=
  if query.length < 12 then (none, cache)
  else
    let found := scan query now cache.slots
    (found.1.map fun e =>
        (e.reply.set 0 (query.getD 0 0)).set 1 (query.getD 1 0),
      cache.withSlots found.2 scan_length)

/-- A lookup makes no entry valid. -/
theorem mem_of_lookup_valid {cache : Cache} {query : List UInt8} {now : UInt32}
    {e : Entry} (member : e ∈ (dnsCacheLookup cache query now).2.slots)
    (valid : e.valid = true) : e ∈ cache.slots := by
  unfold dnsCacheLookup at member
  split at member
  · exact member
  · obtain ⟨index, isEntry⟩ := List.getElem?_of_mem member
    exact List.mem_of_getElem? (scan_slot_valid isEntry valid)

/-- Bytes from 2 on do not depend on the ID. -/
theorem drop_withId (reply : List UInt8) (a b : UInt8) :
    ((reply.set 0 a).set 1 b).drop 2 = reply.drop 2 := by
  rw [List.drop_set_of_lt (by decide), List.drop_set_of_lt (by decide)]

/-- The entry `dns_cache_store` writes. -/
def storedEntry (query reply : List UInt8) (now : UInt32) : Entry where
  valid := true
  hash := dnsQueryHash query
  qlen := UInt16.ofNat query.length
  savedMs := now
  query := (query.set 0 0).set 1 0
  reply := (reply.set 0 0).set 1 0

/-- `dns_cache_store`. -/
def dnsCacheStore (cache : Cache) (query reply : List UInt8) (now : UInt32) :
    Cache :=
  if query.length < 12 ∨ dnsMaxPacket < query.length ∨ reply.length < 12 ∨
      dnsMaxPacket < reply.length then
    cache
  else
    cache.push (storedEntry query reply now)

/-- A store leaves the other entries alone. -/
theorem mem_of_store {cache : Cache} {query reply : List UInt8} {now : UInt32}
    {e : Entry} (member : e ∈ (dnsCacheStore cache query reply now).slots) :
    e ∈ cache.slots ∨ e = storedEntry query reply now := by
  unfold dnsCacheStore at member
  split at member
  · exact Or.inl member
  · exact List.mem_or_eq_of_mem_set member

/-! ## Runs of the loop -/

/-- A reply that was stored for a query. -/
structure Store where
  query : List UInt8
  reply : List UInt8
  /-- milliseconds since boot -/
  time : Nat
deriving DecidableEq

/-- The cache of the loop, the time of the last event, and what was stored,
latest first. -/
structure Loop where
  cache : Cache
  clock : Nat
  stores : List Store

/-- A pass of the loop that looks a query up, with the reply the upstream gives
after a miss, and when it is stored. -/
structure Pass where
  query : List UInt8
  lookedUp : Nat
  upstream : Option (List UInt8 × Nat)
deriving DecidableEq

namespace Loop

/-- The query is looked up. -/
def lookup (s : Loop) (query : List UInt8) (time : Nat) :
    Option (List UInt8) × Loop :=
  let found := dnsCacheLookup s.cache query (UInt32.ofNat time)
  (found.1, { s with cache := found.2, clock := time })

/-- A reply is stored. -/
def store (s : Loop) (query reply : List UInt8) (time : Nat) : Loop where
  cache := dnsCacheStore s.cache query reply (UInt32.ofNat time)
  clock := time
  stores := ⟨query, reply, time⟩ :: s.stores

def step (s : Loop) (pass : Pass) : Loop :=
  if pass.query.length < 12 then { s with clock := pass.lookedUp }
  else
    let found := s.lookup pass.query pass.lookedUp
    match found.1, pass.upstream with
    | none, some (reply, time) => found.2.store pass.query reply time
    | _, _ => found.2

def start : Loop where
  cache := Cache.empty
  clock := 0
  stores := []

end Loop

/-- A datagram fits its buffer, an accepted reply has a header and fits its own,
and time goes on. -/
def PassPossible (s : Loop) (pass : Pass) : Prop :=
  pass.query.length ≤ dnsMaxPacket ∧ s.clock ≤ pass.lookedUp ∧
    ∀ reply time, pass.upstream = some (reply, time) →
      pass.lookedUp ≤ time ∧ 12 ≤ reply.length ∧ reply.length ≤ dnsMaxPacket

/-- The length and the bytes from 12 on are those of the other query. -/
def SameKey (e f : Entry) : Prop :=
  e.qlen = f.qlen ∧ e.query.drop 12 = f.query.drop 12

/-- No two valid entries are of one query. -/
def OneEach (slots : List Entry) : Prop :=
  ∀ (i j : Nat) (e f : Entry), slots[i]? = some e → slots[j]? = some f → e.valid = true →
    f.valid = true → SameKey e f → i = j

/-- The entry of a store, as it was written. -/
def Store.entry (s : Store) : Entry :=
  storedEntry s.query s.reply (UInt32.ofNat s.time)

structure Store.Fits (s : Store) (clock : Nat) : Prop where
  query : 12 ≤ s.query.length ∧ s.query.length ≤ dnsMaxPacket
  reply : 12 ≤ s.reply.length
  time : s.time ≤ clock

/-- The entry is the store's, or it was that and is over. -/
def Holds (clock : Nat) (e : Entry) (s : Store) : Prop :=
  e = s.entry ∨ (e.valid = false ∧ s.time + 60000 < clock)

/-- The ring holds the latest stores, and its valid entries are stores, one for
a query. -/
structure LoopInvariant (s : Loop) : Prop where
  records : SlotRing.Records (Holds s.clock) s.cache s.stores
  stored : ∀ e ∈ s.cache.slots, e.valid = true →
    ∃ store ∈ s.stores, e = store.entry
  oneEach : OneEach s.cache.slots
  fits : ∀ store ∈ s.stores, store.Fits s.clock

section Keys

variable {query : List UInt8} {s : Store} {clock : Nat}

theorem storedEntry_query (query reply : List UInt8) (now : UInt32) :
    (storedEntry query reply now).query.drop 12 = query.drop 12 := by
  show ((query.set 0 0).set 1 0).drop 12 = _
  rw [List.drop_set_of_lt (by decide), List.drop_set_of_lt (by decide)]

/-- The hash looks at bytes from 12 on only. -/
theorem dnsQueryHash_congr {other : List UInt8}
    (same : query.drop 12 = other.drop 12) :
    dnsQueryHash query = dnsQueryHash other := by
  unfold dnsQueryHash
  rw [List.drop_take, List.drop_take, same]

/-- A stored entry is found by the queries with its length and its bytes. -/
theorem candidate_storedEntry (reply : List UInt8) (now : UInt32)
    {stored : List UInt8} (length : stored.length = query.length)
    (same : stored.drop 12 = query.drop 12) :
    (storedEntry stored reply now).candidate query = true ∧
      (storedEntry stored reply now).sameBytes query = true := by
  constructor
  · unfold Entry.candidate storedEntry
    dsimp only
    rw [length, dnsQueryHash_congr same]
    simp
  · unfold Entry.sameBytes
    rw [storedEntry_query, same, ← List.length_drop, List.take_length]
    exact beq_self_eq_true _

/-- The lengths of datagrams are kept in a word. -/
theorem ofNat16_inj {a b : Nat} (small : a ≤ dnsMaxPacket)
    (small' : b ≤ dnsMaxPacket) (same : UInt16.ofNat a = UInt16.ofNat b) :
    a = b := by
  have numbers := congrArg UInt16.toNat same
  unfold dnsMaxPacket at small small'
  rw [UInt16.toNat_ofNat', UInt16.toNat_ofNat', Nat.mod_eq_of_lt (by omega),
    Nat.mod_eq_of_lt (by omega)] at numbers
  exact numbers

/-- A stored entry that a query finds has its length and its bytes. -/
theorem sameKey_of_candidate {stored reply : List UInt8} {now : UInt32}
    (fits : stored.length ≤ dnsMaxPacket) (size : query.length ≤ dnsMaxPacket)
    (candidate : (storedEntry stored reply now).candidate query = true)
    (same : (storedEntry stored reply now).sameBytes query = true) :
    stored.length = query.length ∧ stored.drop 12 = query.drop 12 := by
  unfold Entry.candidate at candidate
  have qlen := LawfulBEq.eq_of_beq (Bool.and_eq_true_iff.mp candidate).2
  have length := ofNat16_inj fits size qlen
  refine ⟨length, ?_⟩
  have bytes := LawfulBEq.eq_of_beq same
  rw [storedEntry_query, ← length, ← List.length_drop, List.take_length] at bytes
  exact bytes

/-- An entry is taken for expired by its age modulo 2^32. -/
theorem Store.expired_iff {now : Nat} (past : s.time ≤ now) :
    s.entry.expired (UInt32.ofNat now) = true ↔
      60000 < (now - s.time) % 4294967296 := by
  have elapsed : (UInt32.ofNat now - s.entry.savedMs).toNat = _ :=
    WrappingClock.elapsed_toNat past
  unfold Entry.expired
  rw [decide_eq_true_eq, UInt32.lt_iff_toNat_lt, elapsed]
  exact Iff.rfl

/-- An entry that is taken for expired is older than a minute. -/
theorem Store.old_of_expired {now : Nat} (past : s.time ≤ now)
    (expired : s.entry.expired (UInt32.ofNat now) = true) :
    s.time + 60000 < now := by
  have above := (Store.expired_iff past).mp expired
  omega

theorem Store.fresh_entry {now : Nat} (past : s.time ≤ now)
    (recent : now ≤ s.time + 60000) :
    s.entry.expired (UInt32.ofNat now) = false := by
  rw [Bool.eq_false_iff]
  intro expired
  have old := Store.old_of_expired past expired
  omega

theorem Store.Fits.mono (fits : s.Fits clock) {later : Nat}
    (passes : clock ≤ later) : s.Fits later :=
  ⟨fits.query, fits.reply, fits.time.trans passes⟩

theorem Holds.mono {e : Entry} (holds : Holds clock e s) {later : Nat}
    (passes : clock ≤ later) : Holds later e s := by
  rcases holds with same | ⟨dropped, old⟩
  · exact Or.inl same
  · exact Or.inr ⟨dropped, Nat.lt_of_lt_of_le old passes⟩

end Keys

/-! ## The invariant -/

section Invariant

variable {s : Loop} {query reply : List UInt8} {time : Nat}

theorem start_invariant : LoopInvariant Loop.start where
  records := SlotRing.records_nil rfl
  stored e member valid := by
    rw [List.eq_of_mem_replicate member] at valid
    cases valid
  oneEach i j e f isE _ valid := by
    rw [List.eq_of_mem_replicate (List.mem_of_getElem? isE)] at valid
    cases valid
  fits _ member := by cases member

/-- A lookup drops what has expired, and keeps the rest. -/
theorem LoopInvariant.lookup (invariant : LoopInvariant s)
    (headed : ¬ query.length < 12) (passes : s.clock ≤ time) :
    LoopInvariant (s.lookup query time).2 := by
  have slots : (s.lookup query time).2.cache =
      s.cache.withSlots (scan query (UInt32.ofNat time) s.cache.slots).2
        scan_length := by
    show (dnsCacheLookup s.cache query (UInt32.ofNat time)).2 = _
    unfold dnsCacheLookup
    rw [if_neg headed]
  refine ⟨?_, ?_, ?_, ?_⟩
  · rw [slots]
    apply invariant.records.withSlots
    intro index e isEntry
    have outcome := scan_slot query (UInt32.ofNat time) isEntry
    rcases outcome with same | ⟨expired, dropped⟩
    · exact ⟨e, same, fun store _ holds => holds.mono passes⟩
    · refine ⟨_, dropped, ?_⟩
      intro store member holds
      have past := (invariant.fits store member).time.trans passes
      rcases holds with same | ⟨-, old⟩
      · rw [same] at expired
        exact Or.inr ⟨rfl, Store.old_of_expired past expired⟩
      · exact Or.inr ⟨rfl, Nat.lt_of_lt_of_le old passes⟩
  · intro e member valid
    exact invariant.stored e (mem_of_lookup_valid member valid) valid
  · rw [slots]
    intro i j e f isE isF validE validF
    exact invariant.oneEach i j e f (scan_slot_valid isE validE)
      (scan_slot_valid isF validF) validE validF
  · exact fun store member => (invariant.fits store member).mono passes

/-- A lookup scans the slots. -/
theorem lookup_slots (headed : ¬ query.length < 12) :
    (s.lookup query time).2.cache.slots =
      (scan query (UInt32.ofNat time) s.cache.slots).2 := by
  show (dnsCacheLookup s.cache query (UInt32.ofNat time)).2.slots = _
  unfold dnsCacheLookup
  rw [if_neg headed]
  rfl

theorem lookup_reply (headed : ¬ query.length < 12) :
    (s.lookup query time).1 =
      (scan query (UInt32.ofNat time) s.cache.slots).1.map fun e =>
        (e.reply.set 0 (query.getD 0 0)).set 1 (query.getD 1 0) := by
  show (dnsCacheLookup s.cache query (UInt32.ofNat time)).1 = _
  unfold dnsCacheLookup
  rw [if_neg headed]

/-- A lookup that misses leaves no valid entry of its query. -/
theorem LoopInvariant.missed (invariant : LoopInvariant s)
    (headed : ¬ query.length < 12) (size : query.length ≤ dnsMaxPacket)
    (miss : (s.lookup query time).1 = none) {now : UInt32} {e : Entry}
    (member : e ∈ (s.lookup query time).2.cache.slots)
    (valid : e.valid = true) : ¬ SameKey e (storedEntry query reply now) := by
  rintro ⟨qlen, bytes⟩
  rw [lookup_slots headed] at member
  rw [lookup_reply headed, Option.map_eq_none_iff] at miss
  obtain ⟨index, isEntry⟩ := List.getElem?_of_mem member
  have before := scan_slot_valid isEntry valid
  obtain ⟨store, stored, rfl⟩ :=
    invariant.stored e (List.mem_of_getElem? before) valid
  have fits := (invariant.fits store stored).query
  have length := ofNat16_inj fits.2 size qlen
  rw [storedEntry_query] at bytes
  have dropped : store.entry.query.drop 12 = store.query.drop 12 :=
    storedEntry_query _ _ _
  obtain ⟨candidate, same⟩ := candidate_storedEntry store.reply
    (UInt32.ofNat store.time) length (dropped.symm.trans bytes)
  have none := scan_miss miss member
  rw [show store.entry.candidate query = true from candidate,
    show store.entry.sameBytes query = true from same] at none
  cases none

/-- An entry of a query that no valid entry is of is put somewhere. -/
theorem OneEach.set {slots : List Entry} (oneEach : OneEach slots) {index : Nat}
    (inside : index < slots.length) {entry : Entry}
    (fresh : ∀ e ∈ slots, e.valid = true → ¬ SameKey e entry) :
    OneEach (slots.set index entry) := by
  intro i j e f isE isF validE validF same
  by_cases here : index = i
  · by_cases there : index = j
    · exact here.symm.trans there
    · rw [List.getElem?_set_ne there] at isF
      rw [← here, List.getElem?_set_self inside] at isE
      obtain rfl := Option.some.inj isE
      exact absurd ⟨same.1.symm, same.2.symm⟩
        (fresh f (List.mem_of_getElem? isF) validF)
  · rw [List.getElem?_set_ne here] at isE
    by_cases there : index = j
    · rw [← there, List.getElem?_set_self inside] at isF
      obtain rfl := Option.some.inj isF
      exact absurd same (fresh e (List.mem_of_getElem? isE) validE)
    · rw [List.getElem?_set_ne there] at isF
      exact oneEach i j e f isE isF validE validF same

/-- A store of a query that no valid entry is of. -/
theorem LoopInvariant.store (invariant : LoopInvariant s)
    (headed : 12 ≤ query.length) (size : query.length ≤ dnsMaxPacket)
    (header : 12 ≤ reply.length) (replySize : reply.length ≤ dnsMaxPacket)
    (passes : s.clock ≤ time)
    (fresh : ∀ e ∈ s.cache.slots, e.valid = true →
      ¬ SameKey e (storedEntry query reply (UInt32.ofNat time))) :
    LoopInvariant (s.store query reply time) := by
  have pushed : (s.store query reply time).cache =
      s.cache.push (storedEntry query reply (UInt32.ofNat time)) := by
    show dnsCacheStore s.cache query reply (UInt32.ofNat time) = _
    unfold dnsCacheStore
    rw [if_neg (by omega)]
  have slots : (s.store query reply time).cache.slots =
      s.cache.slots.set s.cache.next
        (storedEntry query reply (UInt32.ofNat time)) := by
    rw [pushed]
    rfl
  refine ⟨?_, ?_, ?_, ?_⟩
  · rw [pushed]
    apply SlotRing.Records.push
    · exact invariant.records.mono fun _ _ _ holds => holds.mono passes
    · exact Or.inl rfl
  · intro e member valid
    rcases mem_of_store member with old | rfl
    · obtain ⟨store, stored, same⟩ := invariant.stored e old valid
      exact ⟨store, List.mem_cons_of_mem _ stored, same⟩
    · exact ⟨⟨query, reply, time⟩, List.mem_cons_self, rfl⟩
  · rw [slots]
    exact invariant.oneEach.set
      (lt_of_lt_of_eq s.cache.next_lt s.cache.slots_length.symm) fresh
  · intro store member
    rcases List.mem_cons.mp member with rfl | old
    · exact ⟨⟨headed, size⟩, header, Nat.le_refl time⟩
    · exact (invariant.fits store old).mono passes

theorem LoopInvariant.step {pass : Pass} (invariant : LoopInvariant s)
    (possible : PassPossible s pass) : LoopInvariant (s.step pass) := by
  obtain ⟨size, passes, upstream⟩ := possible
  unfold Loop.step
  split
  · exact ⟨invariant.records.mono fun _ _ _ holds => holds.mono passes,
      invariant.stored, invariant.oneEach,
      fun store member => (invariant.fits store member).mono passes⟩
  · next headed =>
    have looked := invariant.lookup headed passes
    dsimp only
    split
    · next reply time miss accepted =>
      obtain ⟨later, header, replySize⟩ := upstream reply time accepted
      exact looked.store (Nat.le_of_not_lt headed) size header replySize later
        fun e member valid => invariant.missed headed size miss member valid
    · exact looked

/-- A datagram with a header has an ID. -/
theorem exists_cons_cons {bytes : List UInt8} (headed : 12 ≤ bytes.length) :
    ∃ first second rest, bytes = first :: second :: rest := by
  obtain ⟨first, tail, rfl⟩ :=
    List.exists_cons_of_length_pos (Nat.lt_of_lt_of_le (by decide) headed)
  rw [List.length_cons] at headed
  obtain ⟨second, rest, rfl⟩ :=
    List.exists_cons_of_length_pos
      (Nat.lt_of_lt_of_le (by decide) (Nat.le_of_succ_le_succ headed))
  exact ⟨first, second, rest, rfl⟩

/-- The ID of the query is put over the first two bytes of the reply. -/
theorem reply_withId {stored : List UInt8} (headed : 12 ≤ query.length)
    (header : 12 ≤ stored.length) :
    (((stored.set 0 0).set 1 0).set 0 (query.getD 0 0)).set 1
        (query.getD 1 0) =
      query.take 2 ++ stored.drop 2 := by
  obtain ⟨a, b, query, rfl⟩ := exists_cons_cons headed
  obtain ⟨c, d, stored, rfl⟩ := exists_cons_cons header
  rfl

/-- A query that was stored not long ago is found, and gets its reply. -/
theorem LoopInvariant.finds (invariant : LoopInvariant s) {store : Store}
    {after : Nat} (stored : s.stores[after]? = some store)
    (kept : after < dnsCacheSize) (passes : s.clock ≤ time)
    (recent : time ≤ store.time + 60000)
    (length : store.query.length = query.length)
    (same : store.query.drop 12 = query.drop 12) :
    (s.lookup query time).1 =
      some (query.take 2 ++ store.reply.drop 2) := by
  have fits := invariant.fits store (List.mem_of_getElem? stored)
  have size := fits.query
  rw [length] at size
  obtain ⟨e, isEntry, holds⟩ := invariant.records.held after store stored kept
  obtain rfl : e = store.entry := by
    rcases holds with same | ⟨-, old⟩
    · exact same
    · omega
  obtain ⟨candidate, sameBytes⟩ := candidate_storedEntry store.reply
    (UInt32.ofNat store.time) length same
  have fresh := Store.fresh_entry (fits.time.trans passes) recent
  have found := scan_finds (List.mem_of_getElem? isEntry) candidate fresh
    sameBytes
  obtain ⟨f, hit⟩ := Option.ne_none_iff_exists'.mp found
  -- only one valid entry is of the query
  obtain ⟨member, candidate', sameBytes'⟩ := scan_hit hit
  obtain ⟨index, isFound⟩ := List.getElem?_of_mem member
  have valid := Entry.valid_of_candidate candidate'
  obtain ⟨other, isStored, rfl⟩ := invariant.stored f member valid
  obtain ⟨otherLength, otherSame⟩ := sameKey_of_candidate
    (invariant.fits other isStored).query.2 size.2 candidate' sameBytes'
  have key : SameKey other.entry store.entry := by
    constructor
    · exact congrArg UInt16.ofNat (otherLength.trans length.symm)
    · have dropped : other.entry.query.drop 12 = other.query.drop 12 :=
        storedEntry_query _ _ _
      have dropped' : store.entry.query.drop 12 = store.query.drop 12 :=
        storedEntry_query _ _ _
      rw [dropped, dropped', otherSame, same]
  have index := invariant.oneEach _ _ _ _ isFound isEntry rfl rfl key
  rw [index, isEntry] at isFound
  rw [lookup_reply (Nat.not_lt_of_le size.1), hit, ← Option.some.inj isFound]
  exact congrArg some (reply_withId size.1 fits.reply)

end Invariant

/-- No two valid entries that have not expired are of one query. -/
def OneUnexpired (slots : List Entry) (now : UInt32) : Prop :=
  ∀ (i j : Nat) (e f : Entry), slots[i]? = some e → slots[j]? = some f →
    e.valid = true → e.expired now = false → f.valid = true →
      f.expired now = false → SameKey e f → i = j

/-- The cache is a map from queries to the latest reply: no two entries are of
one query, and what was stored at most a minute and fewer than sixteen stores
ago is found with the ID of the query. -/
theorem dnsCache_map {passes : List Pass}
    (possible : Along Loop.step PassPossible Loop.start passes) :
    (∀ now, OneUnexpired (run Loop.step Loop.start passes).cache.slots now) ∧
      ∀ query now after store,
        (run Loop.step Loop.start passes).stores[after]? = some store →
          after < 16 → (run Loop.step Loop.start passes).clock ≤ now →
            now ≤ store.time + 60000 → 12 ≤ query.length →
              query.drop 2 = store.query.drop 2 →
                (dnsCacheLookup (run Loop.step Loop.start passes).cache query
                  (UInt32.ofNat now)).1 =
                    some (query.take 2 ++ store.reply.drop 2) := by
  have invariant : LoopInvariant (run Loop.step Loop.start passes) :=
    run_invariant_along LoopInvariant
      (fun _ _ invariant allowed => invariant.step allowed) start_invariant
      possible
  constructor
  · intro now i j e f isE isF validE _ validF _ same
    exact invariant.oneEach i j e f isE isF validE validF same
  · intro query now after store stored kept later recent headed same
    have fits := invariant.fits store (List.mem_of_getElem? stored)
    have lengths := congrArg List.length same
    rw [List.length_drop, List.length_drop] at lengths
    have length : store.query.length = query.length := by
      have stored := fits.query
      omega
    have bytes : store.query.drop 12 = query.drop 12 := by
      have dropped := congrArg (List.drop 10) same
      rw [List.drop_drop, List.drop_drop] at dropped
      exact dropped.symm
    exact invariant.finds stored kept later recent length bytes

section Example

/-- A query of the root's address that is answered with the header alone. -/
def rootAsked : List UInt8 :=
  [0x1A, 0x2B, 1, 0, 0, 1, 0, 0, 0, 0, 0, 0, 0, 0, 1, 0, 1]

def rootAnswered : List UInt8 :=
  [0x1A, 0x2B, 0x81, 0x80, 0, 0, 0, 0, 0, 0, 0, 0]

theorem dnsCache_map_root :
    (dnsCacheLookup
      (run Loop.step Loop.start
        [⟨rootAsked, 1000, some (rootAnswered, 1200)⟩]).cache
      (0x77 :: 0x78 :: rootAsked.drop 2) (UInt32.ofNat 61200)).1 =
        some (0x77 :: 0x78 :: rootAnswered.drop 2) := by
  have possible : Along Loop.step PassPossible Loop.start
      [⟨rootAsked, 1000, some (rootAnswered, 1200)⟩] := by
    refine ⟨⟨by decide, by decide, ?_⟩, trivial⟩
    rintro reply time ⟨⟩
    exact ⟨by decide, by decide, by decide⟩
  exact (dnsCache_map possible).2 (0x77 :: 0x78 :: rootAsked.drop 2) 61200 0
    ⟨rootAsked, rootAnswered, 1200⟩ rfl (by decide) (by decide) (by decide)
    (by decide) rfl

end Example

end VeteraBridge.Dns

import VeteraBridge.Dns.Cache

/-!
# What a hit of the cache says

A lookup hits exactly if some valid entry that has not expired has the length of
the query and its bytes from 12 on.  Neither the rest of the header nor the real
age of the entry is looked at: bytes 2 to 11 may differ, and the age is the
difference of two 32-bit readings.
-/

namespace VeteraBridge.Dns

open EventRun

/-- The entry has the length of the query and its bytes from 12 on. -/
def OfQuery (query : List UInt8) (e : Entry) : Prop :=
  e.query.length = query.length ∧ e.query.drop 12 = query.drop 12

/-- The same bytes but for the transaction ID. -/
def SameButId (first second : List UInt8) : Prop :=
  first.length = second.length ∧ first.drop 2 = second.drop 2

instance (query : List UInt8) (e : Entry) : Decidable (OfQuery query e) :=
  inferInstanceAs (Decidable (_ ∧ _))

instance (first second : List UInt8) : Decidable (SameButId first second) :=
  inferInstanceAs (Decidable (_ ∧ _))

/-! ## When a lookup hits -/

theorem scan_hit_fresh {query : List UInt8} {now : UInt32}
    {slots : List Entry} {e : Entry}
    (hit : (scan query now slots).1 = some e) : e.expired now = false := by
  induction slots with
  | nil => cases hit
  | cons first rest inductionHypothesis =>
      rcases scan_cons query now first rest with
        ⟨-, fresh, -, hits⟩ | ⟨-, passes⟩ | ⟨-, -, drops⟩
      · rw [hits] at hit
        obtain rfl : first = e := Option.some.inj hit
        exact fresh
      · rw [passes] at hit
        exact inductionHypothesis hit
      · rw [drops] at hit
        exact inductionHypothesis hit

section Hits

variable {s : Loop} {query : List UInt8} {now : UInt32} {e : Entry}

theorem Store.entry_length (store : Store) :
    store.entry.query.length = store.query.length := by
  show ((store.query.set 0 0).set 1 0).length = _
  rw [List.length_set, List.length_set]

theorem Store.entry_drop (store : Store) :
    store.entry.query.drop 12 = store.query.drop 12 :=
  storedEntry_query _ _ _

theorem LoopInvariant.entry_size (invariant : LoopInvariant s)
    (member : e ∈ s.cache.slots) (valid : e.valid = true) :
    12 ≤ e.query.length ∧ e.query.length ≤ dnsMaxPacket := by
  obtain ⟨store, stored, rfl⟩ := invariant.stored e member valid
  rw [store.entry_length]
  exact (invariant.fits store stored).query

/-- The hash, the length and the bytes that are compared leave what `OfQuery`
says. -/
theorem LoopInvariant.candidate_iff (invariant : LoopInvariant s)
    (member : e ∈ s.cache.slots) (valid : e.valid = true) :
    (e.candidate query = true ∧ e.sameBytes query = true) ↔
      OfQuery query e := by
  have size := invariant.entry_size member valid
  obtain ⟨store, stored, rfl⟩ := invariant.stored e member valid
  have fits := (invariant.fits store stored).query
  unfold OfQuery
  constructor
  · rintro ⟨candidate, same⟩
    have bytes := congrArg List.length (LawfulBEq.eq_of_beq same)
    rw [List.length_take, List.length_drop, List.length_drop] at bytes
    have short : query.length ≤ dnsMaxPacket := by omega
    obtain ⟨length, rest⟩ :=
      sameKey_of_candidate fits.2 short candidate same
    exact ⟨store.entry_length.trans length, store.entry_drop.trans rest⟩
  · rintro ⟨length, rest⟩
    rw [store.entry_length] at length
    rw [store.entry_drop] at rest
    exact candidate_storedEntry _ _ length rest

theorem LoopInvariant.scan_found (invariant : LoopInvariant s)
    (hit : (scan query now s.cache.slots).1 = some e) :
    e ∈ s.cache.slots ∧ e.valid = true ∧ e.expired now = false ∧
      OfQuery query e := by
  obtain ⟨member, candidate, same⟩ := scan_hit hit
  have valid := Entry.valid_of_candidate candidate
  exact
    ⟨member, valid, scan_hit_fresh hit,
      (invariant.candidate_iff member valid).mp ⟨candidate, same⟩⟩

/-- A reply from the cache is the one of an entry of the query that is valid and
has not expired, with the ID of the query. -/
theorem LoopInvariant.lookup_found (invariant : LoopInvariant s)
    {reply : List UInt8}
    (hit : (dnsCacheLookup s.cache query now).1 = some reply) :
    ∃ e ∈ s.cache.slots, e.valid = true ∧ e.expired now = false ∧
      OfQuery query e ∧
        reply = (e.reply.set 0 (query.getD 0 0)).set 1 (query.getD 1 0) := by
  unfold dnsCacheLookup at hit
  split at hit
  · cases hit
  · obtain ⟨e, found, rfl⟩ := Option.map_eq_some_iff.mp hit
    obtain ⟨member, valid, fresh, ofQuery⟩ := invariant.scan_found found
    exact ⟨e, member, valid, fresh, ofQuery, rfl⟩

/-- Where there is such an entry, the lookup hits. -/
theorem LoopInvariant.lookup_hits (invariant : LoopInvariant s)
    (now : UInt32) (member : e ∈ s.cache.slots) (valid : e.valid = true)
    (fresh : e.expired now = false) (ofQuery : OfQuery query e) :
    ∃ reply, (dnsCacheLookup s.cache query now).1 = some reply := by
  obtain ⟨candidate, same⟩ :=
    (invariant.candidate_iff member valid).mpr ofQuery
  have found := scan_finds member candidate fresh same
  obtain ⟨f, hit⟩ := Option.ne_none_iff_exists'.mp found
  have size := (invariant.entry_size member valid).1
  have headed : ¬ query.length < 12 := by
    rw [← ofQuery.1]
    exact Nat.not_lt_of_le size
  unfold dnsCacheLookup
  rw [if_neg headed]
  dsimp only
  rw [hit]
  exact ⟨_, rfl⟩

/-- Two valid entries of one query are one. -/
theorem LoopInvariant.entry_unique (invariant : LoopInvariant s) {f : Entry}
    (member : e ∈ s.cache.slots) (valid : e.valid = true)
    (member' : f ∈ s.cache.slots) (valid' : f.valid = true)
    (ofQuery : OfQuery query e) (ofQuery' : OfQuery query f) : e = f := by
  obtain ⟨i, isE⟩ := List.getElem?_of_mem member
  obtain ⟨j, isF⟩ := List.getElem?_of_mem member'
  have key : SameKey e f := by
    refine ⟨?_, ofQuery.2.trans ofQuery'.2.symm⟩
    obtain ⟨store, -, rfl⟩ := invariant.stored e member valid
    obtain ⟨store', -, rfl⟩ := invariant.stored f member' valid'
    have length := ofQuery.1.trans ofQuery'.1.symm
    rw [store.entry_length, store'.entry_length] at length
    exact congrArg UInt16.ofNat length
  have same := invariant.oneEach i j e f isE isF valid valid' key
  rw [same, isF] at isE
  exact (Option.some.inj isE).symm

end Hits

theorem run_invariant_loop {passes : List Pass}
    (possible : Along Loop.step PassPossible Loop.start passes) :
    LoopInvariant (run Loop.step Loop.start passes) :=
  run_invariant_along LoopInvariant
    (fun _ _ invariant allowed => invariant.step allowed) start_invariant
    possible

/-! ## The header -/

theorem SameButId.ofQuery {query : List UInt8} {e : Entry}
    (same : SameButId e.query query) : OfQuery query e := by
  refine ⟨same.1, ?_⟩
  have rest := congrArg (List.drop 10) same.2
  rwa [List.drop_drop, List.drop_drop] at rest

/-- In every reachable cache, a hit means that the query equals a stored one but
for the ID exactly if no valid entry that has not expired has its length and its
bytes from 12 on with another header. -/
theorem hit_header_iff {passes : List Pass}
    (possible : Along Loop.step PassPossible Loop.start passes)
    (query : List UInt8) (now : UInt32) :
    let cache := (run Loop.step Loop.start passes).cache
    ((dnsCacheLookup cache query now).1.isSome = true →
        ∃ e ∈ cache.slots, e.valid = true ∧ SameButId e.query query) ↔
      ∀ e ∈ cache.slots, e.valid = true → e.expired now = false →
        OfQuery query e → SameButId e.query query := by
  intro cache
  have invariant := run_invariant_loop possible
  constructor
  · intro sound e member valid fresh ofQuery
    obtain ⟨reply, hit⟩ := invariant.lookup_hits now member valid fresh ofQuery
    have isHit : (dnsCacheLookup cache query now).1.isSome = true := by
      rw [hit]
      rfl
    obtain ⟨f, member', valid', same⟩ := sound isHit
    rw [invariant.entry_unique member valid member' valid' ofQuery same.ofQuery]
    exact same
  · intro headers isHit
    obtain ⟨reply, hit⟩ := Option.isSome_iff_exists.mp isHit
    obtain ⟨e, member, valid, fresh, ofQuery, -⟩ := invariant.lookup_found hit
    exact ⟨e, member, valid, headers e member valid fresh ofQuery⟩

/-- One minute's cache of the root's address. -/
def rootCached : List Pass :=
  [⟨rootAsked, 1000, some (rootAnswered, 1200)⟩]

theorem rootCached_possible :
    Along Loop.step PassPossible Loop.start rootCached := by
  refine ⟨⟨by decide, by decide, ?_⟩, trivial⟩
  rintro reply time ⟨⟩
  exact ⟨by decide, by decide, by decide⟩

/-- The same question with the same flags is a stored query. -/
theorem hit_header_root :
    let cache := (run Loop.step Loop.start rootCached).cache
    let query := 0x77 :: 0x78 :: rootAsked.drop 2
    (dnsCacheLookup cache query 2000).1.isSome = true ∧
      ∃ e ∈ cache.slots, e.valid = true ∧ SameButId e.query query := by
  refine ⟨by decide, ?_⟩
  exact (hit_header_iff rootCached_possible _ 2000).mpr (by decide) (by decide)

/-- The same question without the wish for recursion is answered from the
cache. -/
theorem other_flags_answered :
    ¬ ∀ (passes : List Pass) (query : List UInt8) (now : UInt32),
      Along Loop.step PassPossible Loop.start passes →
        (dnsCacheLookup (run Loop.step Loop.start passes).cache query
            now).1.isSome = true →
          ∃ e ∈ (run Loop.step Loop.start passes).cache.slots,
            e.valid = true ∧ SameButId e.query query := by
  intro sound
  have same :=
    sound rootCached (0x77 :: 0x78 :: 0 :: rootAsked.drop 3) 2000
      rootCached_possible (by decide)
  revert same
  decide

end VeteraBridge.Dns

import VeteraBridge.Dns.CacheHits

/-!
# How old a reply of the cache is

An entry keeps the time of its store in 32 bits and is dropped only when a query
of its own looks at it.  An entry nobody asks for stays valid, and for a minute
in each round of the clock, some 49.7 days, it looks as if it had just been
stored.  Replies are never older than a minute exactly as long as no entry is
asked for in one of those minutes.
-/

namespace VeteraBridge.Dns

open EventRun

/-- The latest store of a query with this length and these bytes from 12 on. -/
def latestStore (stores : List Store) (query : List UInt8) : Option Store :=
  stores.find? fun store =>
    store.query.length = query.length ∧ store.query.drop 12 = query.drop 12

/-- A valid entry is the latest store of its query. -/
structure AgeInvariant (s : Loop) : Prop where
  loop : LoopInvariant s
  latest :
    ∀ e ∈ s.cache.slots, e.valid = true →
      ∃ store, latestStore s.stores e.query = some store ∧ e = store.entry

section Latest

variable {s : Loop} {query reply : List UInt8} {time : Nat} {e : Entry}

theorem latestStore_congr {stores : List Store} {first second : List UInt8}
    (length : first.length = second.length)
    (rest : first.drop 12 = second.drop 12) :
    latestStore stores first = latestStore stores second := by
  unfold latestStore
  rw [length, rest]

/-- What is stored is the latest store of its query. -/
theorem latestStore_stored (stores : List Store) (store : Store) :
    latestStore (store :: stores) store.entry.query = some store := by
  rw [latestStore_congr store.entry_length store.entry_drop]
  exact List.find?_cons_of_pos (by simp)

/-- A store leaves the latest stores of other queries. -/
theorem latestStore_other {stores : List Store} {store : Store}
    (other : ¬ OfQuery store.query e) :
    latestStore (store :: stores) e.query = latestStore stores e.query := by
  apply List.find?_cons_of_neg
  intro matched
  obtain ⟨length, rest⟩ := of_decide_eq_true matched
  exact other ⟨length.symm, rest.symm⟩

theorem AgeInvariant.start : AgeInvariant Loop.start := by
  refine ⟨start_invariant, ?_⟩
  intro e member valid
  rw [List.eq_of_mem_replicate member] at valid
  cases valid

theorem AgeInvariant.lookup (invariant : AgeInvariant s)
    (headed : ¬ query.length < 12) (passes : s.clock ≤ time) :
    AgeInvariant (s.lookup query time).2 :=
  ⟨invariant.loop.lookup headed passes, fun e member valid =>
    invariant.latest e (mem_of_lookup_valid member valid) valid⟩

/-- After a lookup that missed no valid entry is of its query. -/
theorem LoopInvariant.missed_ofQuery (invariant : LoopInvariant s)
    (headed : ¬ query.length < 12) (miss : (s.lookup query time).1 = none)
    (member : e ∈ (s.lookup query time).2.cache.slots)
    (valid : e.valid = true) : ¬ OfQuery query e := by
  intro ofQuery
  have before := mem_of_lookup_valid member valid
  obtain ⟨candidate, same⟩ :=
    (invariant.candidate_iff before valid).mpr ofQuery
  rw [lookup_slots headed] at member
  rw [lookup_reply headed, Option.map_eq_none_iff] at miss
  have other := scan_miss miss member
  rw [candidate, same] at other
  cases other

theorem AgeInvariant.step {pass : Pass} (invariant : AgeInvariant s)
    (possible : PassPossible s pass) : AgeInvariant (s.step pass) := by
  have loop := invariant.loop.step possible
  obtain ⟨-, passes, -⟩ := possible
  refine ⟨loop, ?_⟩
  unfold Loop.step
  split
  · exact invariant.latest
  · next headed =>
    have looked := invariant.lookup headed passes
    dsimp only
    split
    · next reply time miss accepted =>
      intro e member valid
      rcases mem_of_store member with old | rfl
      · obtain ⟨store, latest, same⟩ := looked.latest e old valid
        refine ⟨store, ?_, same⟩
        rw [← latest]
        apply latestStore_other
        exact invariant.loop.missed_ofQuery headed miss old valid
      · exact ⟨⟨pass.query, reply, time⟩, latestStore_stored _ _, rfl⟩
    · exact looked.latest

end Latest

theorem run_ageInvariant {passes : List Pass}
    (possible : Along Loop.step PassPossible Loop.start passes) :
    AgeInvariant (run Loop.step Loop.start passes) :=
  run_invariant_along AgeInvariant
    (fun _ _ invariant allowed => invariant.step allowed) AgeInvariant.start
    possible

/-! ## Replies of the last minute -/

/-- The replies to the query are those of its latest store, at most a minute
ago. -/
def RepliesRecent (s : Loop) (query : List UInt8) (now : Nat) : Prop :=
  ∀ reply, (s.lookup query now).1 = some reply →
    ∃ store, latestStore s.stores query = some store ∧
      reply = query.take 2 ++ store.reply.drop 2 ∧ now ≤ store.time + 60000

/-- No valid entry of the query was stored more than a minute ago and looks, in
a later round of the clock, as if it had not been. -/
def NoneLooksFresh (s : Loop) (query : List UInt8) (now : Nat) : Prop :=
  ∀ e ∈ s.cache.slots, e.valid = true → OfQuery query e →
    ∀ store, latestStore s.stores query = some store →
      store.time + 60000 < now → 60000 < (now - store.time) % 4294967296

section Ages

variable {s : Loop} {query : List UInt8} {now : Nat}

/-- A valid entry of the query is its latest store, which is over. -/
theorem AgeInvariant.entry_store (invariant : AgeInvariant s) {e : Entry}
    (member : e ∈ s.cache.slots) (valid : e.valid = true)
    (ofQuery : OfQuery query e) :
    ∃ store, latestStore s.stores query = some store ∧ e = store.entry ∧
      store.Fits s.clock := by
  obtain ⟨store, latest, same⟩ := invariant.latest e member valid
  rw [latestStore_congr ofQuery.1 ofQuery.2] at latest
  refine ⟨store, latest, same, ?_⟩
  exact invariant.loop.fits store (List.mem_of_find?_eq_some latest)

theorem AgeInvariant.recent_iff (invariant : AgeInvariant s)
    (passes : s.clock ≤ now) :
    RepliesRecent s query now ↔ NoneLooksFresh s query now := by
  constructor
  · intro recent e member valid ofQuery store latest old
    obtain ⟨store', latest', rfl, fits⟩ :=
      invariant.entry_store member valid ofQuery
    obtain rfl : store = store' := Option.some.inj (latest.symm.trans latest')
    have past := fits.time.trans passes
    rw [← Store.expired_iff past]
    by_contra notExpired
    obtain ⟨reply, hit⟩ :=
      invariant.loop.lookup_hits (UInt32.ofNat now) member valid
        (by simpa using notExpired) ofQuery
    obtain ⟨found, latestFound, -, notOld⟩ := recent reply hit
    obtain rfl : store = found :=
      Option.some.inj (latest.symm.trans latestFound)
    omega
  · intro noneFresh reply hit
    obtain ⟨e, member, valid, fresh, ofQuery, rfl⟩ :=
      invariant.loop.lookup_found hit
    obtain ⟨store, latest, rfl, fits⟩ :=
      invariant.entry_store member valid ofQuery
    have past := fits.time.trans passes
    have headed : 12 ≤ query.length := by
      rw [← ofQuery.1]
      exact (invariant.loop.entry_size member valid).1
    refine ⟨store, latest, reply_withId headed fits.reply, ?_⟩
    by_contra! old
    have expired :=
      (Store.expired_iff past).mpr
        (noneFresh _ member valid ofQuery store latest old)
    rw [fresh] at expired
    cases expired

/-- In the first round after a store its entry does not look fresh again. -/
theorem noneLooksFresh_of_round
    (round :
      ∀ store, latestStore s.stores query = some store →
        now < store.time + 4294967296) :
    NoneLooksFresh s query now := by
  intro e _ _ _ store latest old
  have within := round store latest
  rw [Nat.mod_eq_of_lt (by omega)]
  omega

end Ages

/-- In every run of any length, a lookup answers with a reply stored in the last
minute exactly if no entry of its query looks fresh in a later round of the
clock. -/
theorem replies_recent_iff {passes : List Pass}
    (possible : Along Loop.step PassPossible Loop.start passes)
    (query : List UInt8) {now : Nat}
    (later : (run Loop.step Loop.start passes).clock ≤ now) :
    RepliesRecent (run Loop.step Loop.start passes) query now ↔
      NoneLooksFresh (run Loop.step Loop.start passes) query now :=
  (run_ageInvariant possible).recent_iff later

/-- A minute after it was stored the reply is still given. -/
theorem replies_recent_root :
    RepliesRecent (run Loop.step Loop.start rootCached) rootAsked 61200 := by
  refine (replies_recent_iff rootCached_possible _ (by decide)).mpr ?_
  apply noneLooksFresh_of_round
  intro store latest
  have stored : some ⟨rootAsked, rootAnswered, 1200⟩ = some store := latest
  cases stored
  decide

/-- Asked again 2^32 + 10 ms after it was stored, some 49.7 days, the question is
answered with the old reply. -/
theorem old_reply_given :
    ¬ ∀ (passes : List Pass) (query : List UInt8) (now : Nat),
      Along Loop.step PassPossible Loop.start passes →
        (run Loop.step Loop.start passes).clock ≤ now →
          RepliesRecent (run Loop.step Loop.start passes) query now := by
  intro recent
  have hit :
      ((run Loop.step Loop.start rootCached).lookup rootAsked 4294968506).1 =
        some rootAnswered := by
    decide
  obtain ⟨store, latest, -, notOld⟩ :=
    recent rootCached rootAsked 4294968506 rootCached_possible (by decide)
      rootAnswered hit
  have stored : some ⟨rootAsked, rootAnswered, 1200⟩ = some store := latest
  cases stored
  revert notOld
  decide

end VeteraBridge.Dns

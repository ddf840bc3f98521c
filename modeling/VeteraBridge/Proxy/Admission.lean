import VeteraBridge.Proxy.RelayTask

/-!
# Admission of connections

The loop accepts only when it has room, so that redirected connections wait in
the backlog and are not closed for want of a slot.  Room is computed once in a
pass, and two accepts follow: with one slot left, both listeners ready and two
redirected connections, the second one is closed.  That is the only way.
-/

namespace VeteraBridge.Proxy

open EventRun ByteWords

namespace Relay

variable {w : Relay}

/-! ## What the other parts of a pass leave alone -/

theorem service_turnedAway (w : Relay) (i : Fin sessMax) (io : SessIo)
    (rd wr : Int → Bool) (now : UInt32) :
    (w.service i io rd wr now).record.turnedAway = w.record.turnedAway := by
  unfold service
  split <;> rfl

theorem timeout_turnedAway (w : Relay) (i : Fin sessMax) (io : SessIo)
    (now : UInt32) :
    (w.timeout i io now).record.turnedAway = w.record.turnedAway := by
  unfold timeout
  split <;> rfl

theorem timeoutAll_turnedAway (w : Relay) (io : PassIo) :
    (w.timeoutAll io).record.turnedAway = w.record.turnedAway :=
  run_invariant
    (fun after : Relay => after.record.turnedAway = w.record.turnedAway)
    (fun after i same =>
      (timeout_turnedAway after i (io.timeout i) io.now).trans same)
    rfl (List.finRange sessMax)

theorem service_free {i : Fin sessMax} (isFree : (w.sess i).used = false)
    (k : Fin sessMax) (io : SessIo) (rd wr : Int → Bool) (now : UInt32) :
    ((w.service k io rd wr now).sess i).used = false := by
  unfold service
  split
  · next isUsed =>
    have different : i ≠ k := by
      intro same
      rw [← same, isFree] at isUsed
      cases isUsed
    simp only [put, Function.update_of_ne different]
    exact isFree
  · exact isFree

/-- What serving the sessions leaves as it was: the listeners, the connections
turned away and the free slots. -/
structure Served (w after : Relay) : Prop where
  lh : after.lh = w.lh
  lt : after.lt = w.lt
  turnedAway : after.record.turnedAway = w.record.turnedAway
  free : ∀ i, (w.sess i).used = false → (after.sess i).used = false

theorem service_served (w : Relay) (i : Fin sessMax) (io : SessIo)
    (rd wr : Int → Bool) (now : UInt32) :
    Served w (w.service i io rd wr now) := by
  refine
    ⟨?_, ?_, service_turnedAway w i io rd wr now,
      fun k isFree => service_free isFree i io rd wr now⟩
  · unfold service
    split <;> rfl
  · unfold service
    split <;> rfl

theorem Served.trans {middle after : Relay} (first : Served w middle)
    (second : Served middle after) : Served w after :=
  ⟨second.lh.trans first.lh, second.lt.trans first.lt,
    second.turnedAway.trans first.turnedAway,
    fun i isFree => second.free i (first.free i isFree)⟩

theorem outside_served (w : Relay) (events : List OutsideEvent) :
    Served w (w.outside events) :=
  ⟨rfl, rfl, rfl, fun _ isFree => isFree⟩

theorem serveAll_served (w : Relay) (io : PassIo) (rd wr : Int → Bool) :
    Served w (w.serveAll io rd wr) :=
  run_invariant (Served w)
    (fun after i served =>
      (served.trans (outside_served after (io.before i))).trans
        (service_served _ i (io.sess i) rd wr io.now))
    ⟨rfl, rfl, rfl, fun _ isFree => isFree⟩ (List.finRange sessMax)

/-! ## One accept -/

/-- An accept turns a connection away exactly if it is redirected and every
slot is in use. -/
theorem doAccept_turnedAway_iff (w : Relay) (tls : Bool) (io : AcceptIo)
    (now : UInt32) :
    (w.doAccept tls io now).record.turnedAway = w.record.turnedAway ↔
      ¬ (Redirected w tls io ∧ freeSlot w.sess = none) := by
  have outcome := doAccept_outcome w tls io now
  generalize w.doAccept tls io now = after at *
  cases outcome with
  | nothing notRedirected =>
      exact
        iff_of_true rfl fun ⟨redirected, _⟩ => notRedirected redirected
  | noSlot redirected full =>
      refine iff_of_false ?_ (not_not.mpr ⟨redirected, full⟩)
      exact List.cons_ne_self io.pport w.record.turnedAway
  | noMemory i _ found _ =>
      refine iff_of_true rfl ?_
      rintro ⟨_, full⟩
      rw [found] at full
      cases full
  | begins i _ _ _ found _ _ =>
      refine iff_of_true rfl ?_
      rintro ⟨_, full⟩
      rw [found] at full
      cases full

theorem doAccept_of_free {i : Fin sessMax} (found : freeSlot w.sess = some i)
    (tls : Bool) (io : AcceptIo) (now : UInt32) :
    (w.doAccept tls io now).record.turnedAway = w.record.turnedAway := by
  rw [doAccept_turnedAway_iff]
  rintro ⟨_, full⟩
  rw [found] at full
  cases full

/-- An accept takes the last slot exactly if its connection is redirected,
there is memory for it, and no other slot is free. -/
theorem doAccept_full_iff {i : Fin sessMax} (found : freeSlot w.sess = some i)
    (tls : Bool) (io : AcceptIo) (now : UInt32) :
    freeSlot (w.doAccept tls io now).sess = none ↔
      Redirected w tls io ∧ HasMemory w io ∧
        ∀ k, k ≠ i → (w.sess k).used = true := by
  have outcome := doAccept_outcome w tls io now
  generalize w.doAccept tls io now = after at *
  cases outcome with
  | nothing notRedirected =>
      refine iff_of_false ?_ fun all => notRedirected all.1
      change freeSlot w.sess ≠ none
      rw [found]
      exact Option.some_ne_none i
  | noSlot _ full =>
      rw [found] at full
      cases full
  | noMemory k _ _ noMem =>
      refine iff_of_false ?_ fun all => noMem all.2.1
      change freeSlot w.sess ≠ none
      rw [found]
      exact Option.some_ne_none i
  | begins k mem origIp redirected foundToo hint memFresh =>
      obtain rfl : i = k := by
        rw [found] at foundToo
        exact Option.some.inj foundToo
      rw [freeSlot_eq_none_iff]
      constructor
      · intro allUsed
        refine ⟨redirected, ⟨mem, hint, memFresh⟩, ?_⟩
        intro k elsewhere
        have isUsed := allUsed k
        simp only [begin, Function.update_of_ne elsewhere] at isUsed
        exact isUsed
      · rintro ⟨_, _, othersUsed⟩ k
        by_cases here : k = i
        · subst here
          simp only [begin, Function.update_self]
          rfl
        · simp only [begin, Function.update_of_ne here]
          exact othersUsed k here

theorem doAccept_lt (w : Relay) (tls : Bool) (io : AcceptIo) (now : UInt32) :
    (w.doAccept tls io now).lt = w.lt := by
  have outcome := doAccept_outcome w tls io now
  generalize w.doAccept tls io now = after at *
  cases outcome <;> rfl

/-! ## A pass -/

theorem rdSet_listener {io : PassIo} (hasRoom : w.room io.freeHeap = true)
    (tls : Bool) :
    w.rdSet io (w.listener tls) = io.readable (w.listener tls) := by
  have asked : (w.fdSets true).1.contains (w.listener tls) = true := by
    cases tls <;> simp [fdSets, listener]
  rw [rdSet, hasRoom, asked, Bool.true_and]

theorem acceptFrom_ready {io : PassIo} {rd : Int → Bool} {tls : Bool}
    (ready : rd (w.listener tls) = true) :
    w.acceptFrom io true rd tls = w.doAccept tls (io.accept tls) io.now :=
  if_pos ⟨rfl, ready⟩

theorem acceptFrom_notReady {io : PassIo} {rd : Int → Bool} {tls : Bool}
    (notReady : rd (w.listener tls) = false) :
    w.acceptFrom io true rd tls = w :=
  if_neg fun ⟨_, ready⟩ => Bool.false_ne_true (notReady.symm.trans ready)

/-- The task's data when a pass comes to its accepts. -/
def served (w : Relay) (io : PassIo) : Relay :=
  (w.outside io.waiting).serveAll io (w.rdSet io) (w.wrSet io)

/-- The pass accepts two redirected connections for one free slot: the loop has
room and both listeners are ready; with the sessions served one slot is free,
the HTTP connection takes it, and the TLS connection is redirected too. -/
structure TwoForOneSlot (w : Relay) (io : PassIo) : Prop where
  selected : 0 < io.selected
  hasRoom : w.room io.freeHeap = true
  httpReady : io.readable w.lh = true
  tlsReady : io.readable w.lt = true
  oneFree :
    ∃ i, freeSlot (w.served io).sess = some i ∧
      ∀ k, k ≠ i → ((w.served io).sess k).used = true
  http : Redirected (w.served io) false (io.accept false)
  memory : HasMemory (w.served io) (io.accept false)
  tls :
    Redirected ((w.served io).doAccept false (io.accept false) io.now) true
      (io.accept true)

theorem served_served (w : Relay) (io : PassIo) : Served w (w.served io) :=
  (outside_served w io.waiting).trans (serveAll_served _ io _ _)

theorem freeSlot_served {io : PassIo} (hasRoom : w.room io.freeHeap = true) :
    ∃ i, freeSlot (w.served io).sess = some i := by
  rw [← Option.ne_none_iff_exists']
  intro full
  simp only [room, Bool.and_eq_true] at hasRoom
  obtain ⟨i, found⟩ := Option.isSome_iff_exists.mp hasRoom.1
  have isFree := (served_served w io).free i (freeSlot_eq_some found)
  rw [freeSlot_eq_none_iff.mp full i] at isFree
  cases isFree

/-- The accepts of a pass turn a connection away exactly if they take two for
one slot. -/
theorem accepts_turnedAway_iff {io : PassIo} (selected : 0 < io.selected)
    (hasRoom : w.room io.freeHeap = true) :
    (((w.served io).acceptFrom io true (w.rdSet io) false).acceptFrom io true
        (w.rdSet io) true).record.turnedAway =
        w.record.turnedAway ↔
      ¬ TwoForOneSlot w io := by
  obtain ⟨i, found⟩ := freeSlot_served hasRoom
  have served := served_served w io
  have httpAsked :
      w.rdSet io ((w.served io).listener false) = io.readable w.lh := by
    have same : (w.served io).listener false = w.listener false := served.lh
    rw [same, rdSet_listener hasRoom]
    rfl
  have tlsAsked (s : Relay) (lt : s.lt = w.lt) :
      w.rdSet io (s.listener true) = io.readable w.lt := by
    have same : s.listener true = w.listener true := lt
    rw [same, rdSet_listener hasRoom]
    rfl
  cases httpReady : io.readable w.lh with
  | false =>
      rw [acceptFrom_notReady (httpAsked.trans httpReady)]
      have nobody :
          ((w.served io).acceptFrom io true (w.rdSet io)
              true).record.turnedAway =
            w.record.turnedAway := by
        cases tlsReady : io.readable w.lt with
        | false =>
            rw [acceptFrom_notReady ((tlsAsked _ served.lt).trans tlsReady)]
            exact served.turnedAway
        | true =>
            rw [acceptFrom_ready ((tlsAsked _ served.lt).trans tlsReady)]
            exact (doAccept_of_free found _ _ _).trans served.turnedAway
      refine iff_of_true nobody fun two => ?_
      exact Bool.false_ne_true (httpReady.symm.trans two.httpReady)
  | true =>
      rw [acceptFrom_ready (httpAsked.trans httpReady)]
      have first :=
        (doAccept_of_free found false (io.accept false) io.now).trans
          served.turnedAway
      have lt :
          ((w.served io).doAccept false (io.accept false) io.now).lt = w.lt :=
        (doAccept_lt _ _ _ _).trans served.lt
      cases tlsReady : io.readable w.lt with
      | false =>
          rw [acceptFrom_notReady ((tlsAsked _ lt).trans tlsReady)]
          refine iff_of_true first fun two => ?_
          exact Bool.false_ne_true (tlsReady.symm.trans two.tlsReady)
      | true =>
          rw [acceptFrom_ready ((tlsAsked _ lt).trans tlsReady), ← first,
            doAccept_turnedAway_iff, not_iff_not, doAccept_full_iff found]
          constructor
          · rintro ⟨tls, http, memory, othersUsed⟩
            exact
              ⟨selected, hasRoom, httpReady, tlsReady, ⟨i, found, othersUsed⟩,
                http, memory, tls⟩
          · intro two
            obtain ⟨k, foundToo, othersUsed⟩ := two.oneFree
            obtain rfl : i = k := by
              rw [found] at foundToo
              exact Option.some.inj foundToo
            exact ⟨two.tls, two.http, two.memory, othersUsed⟩

/-- For every table of sessions and every pass: no redirected connection is
closed for want of a slot exactly if the pass does not accept two redirected
connections for the last free slot. -/
theorem pass_turns_away_iff (w : Relay) (io : PassIo) :
    (w.pass io).record.turnedAway = w.record.turnedAway ↔
      ¬ TwoForOneSlot w io := by
  unfold pass
  dsimp only
  split
  · next negative =>
    exact
      iff_of_true rfl fun two =>
        absurd two.selected (not_lt.mpr (le_of_lt negative))
  · rw [timeoutAll_turnedAway]
    split
    · next selected =>
      cases hasRoom : w.room io.freeHeap with
      | true =>
          exact accepts_turnedAway_iff selected hasRoom
      | false =>
          refine iff_of_true ?_ fun two => ?_
          · exact (served_served w io).turnedAway
          · have roomToo := two.hasRoom
            rw [hasRoom] at roomToo
            cases roomToo
    · next notSelected =>
      exact iff_of_true rfl fun two => notSelected two.selected

/-! ## Five connections for four slots -/

/-- The settings are loaded with the proxy on, and the phone opens five
connections. -/
def fiveDialled : Redirector :=
  ((Redirector.boot ⟨some 1, some [112], some 3130⟩).step
    (.proxyInit true)).outsideRun
      ([.wifi true] ++ dial 5001 80 ++ dial 5002 443 ++ dial 5003 80 ++
        dial 5004 80 ++ dial 5005 443)

/-- A pass in which the phone's connections from two of its ports are there to
be accepted, if their listeners are ready. -/
def acceptPass (httpPort tlsPort : UInt16) (tlsReady : Bool) (fd : Nat) :
    PassIo :=
  { quietPass with
    selected := 1
    readable := fun fd => fd == 3 || (fd == 4 && tlsReady)
    accept := fun tls =>
      if tls then phoneConn tlsPort (fd + 1) else phoneConn httpPort fd }

def threeSessions : Relay :=
  proxyTask ⟨3, true⟩ ⟨4, true⟩ fiveDialled
    [acceptPass 5001 5002 true 5, acceptPass 5003 0 false 7]

/-- With three sessions and one free slot, the next two connections come in one
pass: the second one, which the hook had redirected, is closed. -/
theorem second_of_two_turned_away :
    threeSessions.Listening ∧
      ((List.finRange sessMax).map fun i => (threeSessions.sess i).used) =
        [true, true, true, false] ∧
      threeSessions.record.turnedAway = [] ∧
      flowLookup threeSessions.shared.rd.flows 5005 relayTlsPort =
        some (swap32 (lwipMakeU32 93 184 216 34), 443) ∧
      (threeSessions.pass (acceptPass 5004 5005 true 9)).record.turnedAway =
        [5005] := by
  decide +kernel

end Relay

end VeteraBridge.Proxy

import VeteraBridge.Proxy.Deadlines

/-!
# Each session waits for its own descriptors

A pass puts the descriptors of all sessions in two sets, and `sess_service` asks
the sets about a descriptor of one session.  A descriptor belongs to one session
and a session looks only at what it asked for, so the answers are those of two
sets of its own.  A session that is closed and one that opens a socket in the
same pass do not meet in the sets.
-/

namespace VeteraBridge.Proxy

open EventRun Ownership

/-- The descriptors the session waits to read from that are ready. -/
def Sess.readyRd (s : Sess) (io : PassIo) (fd : Int) : Bool :=
  (sessFds s).1.contains fd && io.readable fd

/-- The descriptors the session waits to write to that are ready. -/
def Sess.readyWr (s : Sess) (io : PassIo) (fd : Int) : Bool :=
  (sessFds s).2.contains fd && io.writable fd

/-- A session asks for its two sockets only, and for one before it has the
other. -/
theorem sessFds_own {s : Sess} {fd : Int}
    (asked : fd ∈ (sessFds s).1 ∨ fd ∈ (sessFds s).2) :
    fd = s.ph ∨ (s.st ≠ .head ∧ fd = s.px) := by
  unfold sessFds at asked
  cases st : s.st with
  | head => simp_all
  | connecting => simp_all
  | reply => simp_all
  | splice =>
      rw [st] at asked
      dsimp only at asked
      refine Or.imp id (fun isPx => ⟨by simp, isPx⟩) ?_
      by_cases up : s.up.off < s.up.data.length <;>
        by_cases down : s.down.off < s.down.data.length <;>
          cases phEof : s.phEof <;> cases pxEof : s.pxEof <;>
            simp_all <;> tauto

/-- A call of `sess_service` asks about the sockets of its session. -/
theorem sessService_congr (io : SessIo) {rd rd' wr wr' : Int → Bool}
    (now : UInt32) (c : SessCtx) (rdPh : rd c.s.ph = rd' c.s.ph)
    (wrPh : wr c.s.ph = wr' c.s.ph)
    (rdPx : c.s.st ≠ .head → rd c.s.px = rd' c.s.px)
    (wrPx : c.s.st ≠ .head → wr c.s.px = wr' c.s.px) :
    sessService io rd wr now c = sessService io rd' wr' now c := by
  unfold sessService
  cases st : c.s.st with
  | head => rw [rdPh]
  | connecting => rw [wrPx (by simp [st])]
  | reply => rw [rdPx (by simp [st])]
  | splice =>
      have notHead : c.s.st ≠ .head := by simp [st]
      simp only [splice, rdPh, wrPh, rdPx notHead, wrPx notHead]

namespace Relay

variable {w : Relay} {i : Fin sessMax}

/-- What a session in use asks for is held by its slot. -/
theorem Orderly.holds_asked (orderly : w.Orderly)
    (isUsed : (w.sess i).used = true) {fd : Int}
    (asked : fd ∈ (sessFds (w.sess i)).1 ∨ fd ∈ (sessFds (w.sess i)).2) :
    w.holdsFd (some i) fd := by
  have ok := orderly.slotOk isUsed
  rcases sessFds_own asked with isPh | ⟨notHead, isPx⟩
  · exact ⟨isPh ▸ ok.ph, .inl isPh.symm⟩
  · rcases ok.px with noProxy | ⟨nonneg, -⟩
    · exact absurd (ok.px_iff.mp noProxy) notHead
    · exact ⟨isPx ▸ nonneg, .inr isPx.symm⟩

/-- A descriptor of a session is in the set of all of them exactly when the
session asked for it. -/
theorem Orderly.mem_fdSets_rd (orderly : w.Orderly) (listening : w.Listening)
    (isUsed : (w.sess i).used = true) {fd : Int} (held : w.holdsFd (some i) fd)
    (room : Bool) :
    fd ∈ (w.fdSets room).1 ↔ fd ∈ (sessFds (w.sess i)).1 := by
  simp only [fdSets, List.mem_append, List.mem_flatMap, List.mem_filter,
    List.mem_finRange, true_and]
  constructor
  · rintro (⟨k, kUsed, asked⟩ | listens)
    · have same :=
        orderly.fds.alone _ _ fd (orderly.holds_asked kUsed (.inl asked)) held
      rw [← Option.some.inj same]
      exact asked
    · have byTask : w.holdsFd none fd := by
        refine ⟨listening, ?_⟩
        cases room with
        | true => simpa using listens
        | false => simp at listens
      exact absurd (orderly.fds.alone _ _ fd byTask held) (by simp)
  · intro asked
    exact .inl ⟨i, isUsed, asked⟩

theorem Orderly.mem_fdSets_wr (orderly : w.Orderly)
    (isUsed : (w.sess i).used = true) {fd : Int} (held : w.holdsFd (some i) fd)
    (room : Bool) :
    fd ∈ (w.fdSets room).2 ↔ fd ∈ (sessFds (w.sess i)).2 := by
  simp only [fdSets, List.mem_flatMap, List.mem_filter, List.mem_finRange,
    true_and]
  constructor
  · rintro ⟨k, kUsed, asked⟩
    have same :=
      orderly.fds.alone _ _ fd (orderly.holds_asked kUsed (.inr asked)) held
    rw [← Option.some.inj same]
    exact asked
  · intro asked
    exact ⟨i, isUsed, asked⟩

theorem Orderly.rdSet_eq (orderly : w.Orderly) (listening : w.Listening)
    (isUsed : (w.sess i).used = true) {fd : Int} (held : w.holdsFd (some i) fd)
    (io : PassIo) : w.rdSet io fd = (w.sess i).readyRd io fd := by
  rw [rdSet, Sess.readyRd, Bool.eq_iff_iff, Bool.and_eq_true, Bool.and_eq_true,
    List.contains_iff_mem, List.contains_iff_mem,
    orderly.mem_fdSets_rd listening isUsed held]

theorem Orderly.wrSet_eq (orderly : w.Orderly)
    (isUsed : (w.sess i).used = true) {fd : Int} (held : w.holdsFd (some i) fd)
    (io : PassIo) : w.wrSet io fd = (w.sess i).readyWr io fd := by
  rw [wrSet, Sess.readyWr, Bool.eq_iff_iff, Bool.and_eq_true, Bool.and_eq_true,
    List.contains_iff_mem, List.contains_iff_mem,
    orderly.mem_fdSets_wr isUsed held]

/-- A session is served with the sets of all sessions as with its own. -/
theorem Orderly.sessService_eq (orderly : w.Orderly) (listening : w.Listening)
    (isUsed : (w.sess i).used = true) (io : PassIo) {c : SessCtx}
    (same : c.s = w.sess i) :
    sessService (io.sess i) (w.rdSet io) (w.wrSet io) io.now c =
      sessService (io.sess i) ((w.sess i).readyRd io) ((w.sess i).readyWr io)
        io.now c := by
  have ok := orderly.slotOk isUsed
  have phHeld : w.holdsFd (some i) (w.sess i).ph := ⟨ok.ph, .inl rfl⟩
  have pxHeld (notHead : (w.sess i).st ≠ .head) :
      w.holdsFd (some i) (w.sess i).px := by
    rcases ok.px with noProxy | ⟨nonneg, -⟩
    · exact absurd (ok.px_iff.mp noProxy) notHead
    · exact ⟨nonneg, .inr rfl⟩
  apply sessService_congr
  · rw [same, orderly.rdSet_eq listening isUsed phHeld]
  · rw [same, orderly.wrSet_eq isUsed phHeld]
  · rw [same]
    exact fun notHead => orderly.rdSet_eq listening isUsed (pxHeld notHead) io
  · rw [same]
    exact fun notHead => orderly.wrSet_eq isUsed (pxHeld notHead) io

/-! ## A pass with a set for each session -/

/-- A slot is served, after what other tasks do before it. -/
def turn (io : PassIo) (rd wr : Int → Bool) (v : Relay) (i : Fin sessMax) :
    Relay :=
  (v.outside (io.before i)).service i (io.sess i) rd wr io.now

/-- A slot is served with its own sets, as they were when `select` was called in
`w`. -/
def serveOwn (w : Relay) (io : PassIo) (v : Relay) (i : Fin sessMax) : Relay :=
  v.turn io ((w.sess i).readyRd io) ((w.sess i).readyWr io) i

/-- A pass in which each session, and each listener, is asked about on its
own. -/
def passOwn (w : Relay) (io : PassIo) : Relay :=
  let room := w.room io.freeHeap
  let v := w.outside io.waiting
  if io.selected < 0 then v
  else
    let v :=
      if io.selected > 0 then
        (((List.finRange sessMax).foldl (w.serveOwn io) v).acceptFrom io room
          io.readable false).acceptFrom io room io.readable true
      else v
    v.timeoutAll io

theorem serveAll_eq_turns (v : Relay) (io : PassIo) (rd wr : Int → Bool) :
    v.serveAll io rd wr = (List.finRange sessMax).foldl (turn io rd wr) v := rfl

/-- A turn changes no other slot. -/
theorem turn_of_ne (v : Relay) {i k : Fin sessMax} (different : k ≠ i)
    (io : PassIo) (rd wr : Int → Bool) :
    (v.turn io rd wr i).sess k = v.sess k ∧
      (v.turn io rd wr i).record.tr k = v.record.tr k := by
  unfold turn service
  split
  · exact ⟨Function.update_of_ne different _ _,
      Function.update_of_ne different _ _⟩
  · exact ⟨rfl, rfl⟩

/-- The slots are served in turn, each with the session it had at `select`. -/
theorem Orderly.foldl_turn_eq (orderly : w.Orderly)
    (listening : w.Listening) (io : PassIo) {slots : List (Fin sessMax)}
    (nodup : slots.Nodup) {v : Relay}
    (same : ∀ i ∈ slots, v.sess i = w.sess i) :
    slots.foldl (turn io (w.rdSet io) (w.wrSet io)) v =
      slots.foldl (w.serveOwn io) v := by
  induction slots generalizing v with
  | nil => rfl
  | cons i rest inductionHypothesis =>
      obtain ⟨notInRest, restNodup⟩ := List.nodup_cons.mp nodup
      have here : v.sess i = w.sess i := same i List.mem_cons_self
      have first :
          v.turn io (w.rdSet io) (w.wrSet io) i = w.serveOwn io v i := by
        unfold serveOwn turn Relay.service
        split
        · next isUsed =>
          change (v.sess i).used = true at isUsed
          rw [here] at isUsed
          rw [orderly.sessService_eq listening isUsed io here]
        · rfl
      rw [List.foldl_cons, List.foldl_cons, first]
      apply inductionHypothesis restNodup
      intro k member
      have different : k ≠ i := fun isHere => notInRest (isHere ▸ member)
      rw [serveOwn, (turn_of_ne v different io _ _).1]
      exact same k (List.mem_cons_of_mem i member)

/-- With room, both listeners are in the set. -/
theorem rdSet_listens (w : Relay) (io : PassIo)
    (room : w.room io.freeHeap = true) (tls : Bool) :
    w.rdSet io (w.listener tls) = io.readable (w.listener tls) := by
  have member :
      (w.fdSets (w.room io.freeHeap)).1.contains (w.listener tls) = true := by
    rw [List.contains_iff_mem, room]
    cases tls <;> simp [fdSets, listener]
  rw [rdSet, member, Bool.true_and]

theorem acceptFrom_eq_own {v : Relay} (w : Relay) (io : PassIo) (tls : Bool)
    (same : v.listener tls = w.listener tls) :
    v.acceptFrom io (w.room io.freeHeap) (w.rdSet io) tls =
      v.acceptFrom io (w.room io.freeHeap) io.readable tls := by
  unfold acceptFrom
  cases room : w.room io.freeHeap with
  | false => simp
  | true => rw [same, rdSet_listens w io room tls]

theorem reachable_listener {v : Relay} (reached : Reachable step w v)
    (tls : Bool) : v.listener tls = w.listener tls := by
  obtain ⟨events, rfl⟩ := reached
  exact listener_run w events tls

/-- A pass over the sets of all sessions is one over a set for each. -/
theorem Orderly.pass_eq_own (orderly : w.Orderly) (listening : w.Listening)
    (io : PassIo) : w.pass io = w.passOwn io := by
  have waited := reachable_outside w io.waiting
  have served :=
    waited.trans (reachable_serveAll _ io (w.rdSet io) (w.wrSet io))
  have accepted :=
    served.trans
      (reachable_acceptFrom _ io (w.room io.freeHeap) io.readable false)
  have serves :
      (w.outside io.waiting).serveAll io (w.rdSet io) (w.wrSet io) =
        (List.finRange sessMax).foldl (w.serveOwn io)
          (w.outside io.waiting) :=
    orderly.foldl_turn_eq listening io (List.nodup_finRange sessMax)
      fun _ _ => rfl
  unfold pass passOwn
  dsimp only
  rw [acceptFrom_eq_own w io false (reachable_listener served false),
    acceptFrom_eq_own w io true (reachable_listener accepted true), serves]

theorem reachable_listening {v : Relay} (reached : Reachable step w v) :
    v.Listening ↔ w.Listening := by
  have http : v.lh = w.lh := reachable_listener reached false
  have tls : v.lt = w.lt := reachable_listener reached true
  rw [Listening, Listening, http, tls]

/-- Whatever the system answers and other tasks do, the task does in every run
what it would do with a set of descriptors for each session. -/
theorem proxyTask_eq_own (http tls : ListenIo) (rd : Redirector)
    (passes : List PassIo) :
    proxyTask http tls rd passes =
      if (proxyTaskStart http tls rd).Listening then
        run passOwn (proxyTaskStart http tls rd) passes
      else proxyTaskStart http tls rd := by
  unfold proxyTask
  dsimp only
  split
  · next listening =>
    suffices each :
        ∀ v, Reachable step (proxyTaskStart http tls rd) v →
          run pass v passes = run passOwn v passes from
      each _ (Reachable.refl _)
    induction passes with
    | nil => exact fun _ _ => rfl
    | cons io rest inductionHypothesis =>
        intro v reached
        have orderly := run_orderly http tls rd reached
        have listens := (reachable_listening reached).mpr listening
        rw [run_cons, run_cons, ← orderly.pass_eq_own listens io]
        exact inductionHypothesis _ (reached.trans (reachable_pass v io))
  · rfl

end Relay

end VeteraBridge.Proxy

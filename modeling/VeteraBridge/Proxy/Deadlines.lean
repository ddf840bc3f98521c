import VeteraBridge.Lib.WrappingClock
import VeteraBridge.Proxy.FlowOwnership
import VeteraBridge.Proxy.RelayInvariant
import VeteraBridge.Proxy.SessionStages

/-!
# Timeouts of the relay task

The relay task with a clock that does not wrap.  A pass reads it once, in 32
bits, and everything the task does in the pass has that time.  `since` records
when each session entered its stage or, while it copies, last moved a byte;
no function reads it.  As long as less than 2^30 ms go by between the passes in
which `select` succeeds, a session is closed for timeout exactly when it has
been in its stage for longer than the stage may take.
-/

namespace VeteraBridge.Proxy

open EventRun Redirector WrappingClock

/-! ## Passes with a clock -/

/-- The task, and the time each session has been in its stage since. -/
structure Watched where
  relay : Relay
  since : Fin sessMax → Nat

/-- The task goes on to this state at this time. -/
def Watched.goesTo (w : Watched) (time : Nat) (relay : Relay) : Watched where
  relay := relay
  since := fun i =>
    if startsStage (w.relay.ctx i) (relay.ctx i) then time else w.since i

/-- One step of the task at this time. -/
def Watched.step (time : Nat) (w : Watched) (event : RelayEvent) : Watched :=
  w.goesTo time (w.relay.step event)

namespace Relay

/-- One of the two accepts of a pass, if it is made. -/
def acceptEvents (w : Relay) (io : PassIo) (tls : Bool) : List RelayEvent :=
  if w.room io.freeHeap = true ∧ w.rdSet io (w.listener tls) = true then
    [.accept tls (io.accept tls) io.now]
  else
    []

/-- The steps of a pass before it looks at the deadlines. -/
def serviceEvents (w : Relay) (io : PassIo) : List RelayEvent :=
  io.waiting.map .outside ++
    if io.selected > 0 then
      ((List.finRange sessMax).flatMap fun i =>
        (io.before i).map .outside ++
          [.service i (io.sess i) (w.rdSet io) (w.wrSet io) io.now]) ++
        (w.acceptEvents io false ++ w.acceptEvents io true)
    else
      []

end Relay

/-- The sessions served and accepted in a pass, before it looks at the
deadlines. -/
def Watched.served (time : Nat) (w : Watched) (io : PassIo) : Watched :=
  run (Watched.step time) w (w.relay.serviceEvents io)

/-- `clock` counts milliseconds, and `lastPass` is the time of the last pass in
which `select` succeeded. -/
structure TimedRelay where
  watched : Watched
  clock : Nat
  lastPass : Option Nat

/-- A pass, and the time since the one before. -/
structure TimedPass where
  delay : Nat
  io : PassIo

/-- The answers of the system in the pass, with what `now_ms` gives then. -/
def TimedPass.at (p : TimedPass) (clock : Nat) : PassIo :=
  { p.io with now := UInt32.ofNat clock }

namespace TimedRelay

def served (t : TimedRelay) (p : TimedPass) : Watched :=
  t.watched.served (t.clock + p.delay) (p.at (t.clock + p.delay))

def pass (t : TimedRelay) (p : TimedPass) : TimedRelay where
  watched :=
    { relay := t.watched.relay.pass (p.at (t.clock + p.delay))
      since := (t.served p).since }
  clock := t.clock + p.delay
  lastPass :=
    if p.io.selected < 0 then t.lastPass else some (t.clock + p.delay)

/-- The task enters its loop, at any time. -/
def start (w : Relay) (clock : Nat) : TimedRelay :=
  ⟨⟨w, fun _ => clock⟩, clock, none⟩

/-- Less than 2^30 ms have gone by since the last pass in which `select`
succeeded. -/
def SoonEnough (t : TimedRelay) (p : TimedPass) : Prop :=
  0 ≤ p.io.selected →
    ∀ last, t.lastPass = some last → t.clock + p.delay < last + 1073741824

/-- The pass closes the session in slot `i` for timeout. -/
def TimesOut (t : TimedRelay) (p : TimedPass) (i : Fin sessMax) : Prop :=
  ((t.served p).relay.sess i).used = true ∧
    ((t.pass p).watched.relay.sess i).used = false

end TimedRelay

/-! ## A pass in two parts -/

namespace Relay

variable {w : Relay}

theorem outside_eq_run (w : Relay) (events : List OutsideEvent) :
    w.outside events = run step w (events.map .outside) := by
  induction events generalizing w with
  | nil =>
      rfl
  | cons event rest inductionHypothesis =>
      rw [List.map_cons, run_cons, ← inductionHypothesis]
      rfl

theorem serveAll_eq_run (w : Relay) (io : PassIo) (rd wr : Int → Bool) :
    w.serveAll io rd wr =
      run step w
        ((List.finRange sessMax).flatMap fun i =>
          (io.before i).map .outside ++
            [.service i (io.sess i) rd wr io.now]) := by
  unfold serveAll
  induction List.finRange sessMax generalizing w with
  | nil =>
      rfl
  | cons i rest inductionHypothesis =>
      rw [List.foldl_cons, inductionHypothesis, List.flatMap_cons, run_append,
        run_append, ← outside_eq_run]
      rfl

theorem listener_step (w : Relay) (event : RelayEvent) (tls : Bool) :
    (w.step event).listener tls = w.listener tls := by
  cases event with
  | outside event =>
      rfl
  | service i io rd wr now =>
      simp only [step, service]
      split <;> rfl
  | accept tls' io now =>
      have outcome := doAccept_outcome w tls' io now
      simp only [step]
      generalize w.doAccept tls' io now = after at *
      cases outcome <;> rfl
  | timeout i io now =>
      simp only [step, timeout]
      split <;> rfl

theorem listener_run (w : Relay) (events : List RelayEvent) (tls : Bool) :
    (run step w events).listener tls = w.listener tls :=
  run_invariant (fun after : Relay => after.listener tls = w.listener tls)
    (fun after event same => (listener_step after event tls).trans same) rfl
    events

/-- One accept of a pass after any other steps of it. -/
theorem acceptFrom_eq_run (w : Relay) (io : PassIo) (tls : Bool)
    (events : List RelayEvent) :
    (run step w events).acceptFrom io (w.room io.freeHeap) (w.rdSet io) tls =
      run step w (events ++ w.acceptEvents io tls) := by
  unfold acceptFrom acceptEvents
  rw [run_append, listener_run]
  split
  · rfl
  · rfl

/-- A pass serves and accepts, and then looks at the deadlines. -/
theorem pass_eq_timeoutAll (w : Relay) {io : PassIo}
    (selected : 0 ≤ io.selected) :
    w.pass io = (run step w (w.serviceEvents io)).timeoutAll io := by
  unfold pass serviceEvents
  dsimp only
  rw [if_neg (not_lt.mpr selected), run_append, ← outside_eq_run]
  congr 1
  split
  · rw [serveAll_eq_run, outside_eq_run, ← run_append, acceptFrom_eq_run,
      acceptFrom_eq_run, run_append, run_append, run_append, run_append,
      run_append]
  · rfl

theorem serviceEvents_of_failed (w : Relay) {io : PassIo}
    (failed : io.selected < 0) :
    w.serviceEvents io = io.waiting.map .outside := by
  unfold serviceEvents
  rw [if_neg (by omega), List.append_nil]

theorem pass_of_failed (w : Relay) {io : PassIo} (failed : io.selected < 0) :
    w.pass io = run step w (w.serviceEvents io) := by
  rw [serviceEvents_of_failed w failed, ← outside_eq_run]
  unfold pass
  dsimp only
  rw [if_pos failed]

end Relay

/-! ## Sessions on time -/

/-- The deadline is the end of the stage, and the session has not been in it for
more than `slack` longer. -/
structure OnTime (slack now : Nat) (s : Sess) (since : Nat) : Prop where
  deadline : s.deadline = UInt32.ofNat (since + (stageMs s.st).toNat)
  past : since ≤ now
  notLong : now ≤ since + (stageMs s.st).toNat + slack

/-- The session has been in its stage for longer than the stage may take. -/
def Overdue (now : Nat) (s : Sess) (since : Nat) : Prop :=
  since + (stageMs s.st).toNat < now

/-- All sessions are on time. -/
def Watched.Timely (slack now : Nat) (w : Watched) : Prop :=
  ∀ i, (w.relay.sess i).used = true →
    OnTime slack now (w.relay.sess i) (w.since i)

/-- The step reads the clock at this time. -/
def ReadsAt (now : UInt32) : RelayEvent → Prop
  | .outside _ => True
  | .service _ _ _ _ reading => reading = now
  | .accept _ _ reading => reading = now
  | .timeout _ _ reading => reading = now

section Steps

variable {slack time : Nat} {before after : SessCtx} {since : Nat}

theorem stageMs_le (st : SessState) : (stageMs st).toNat ≤ 120000 := by
  cases st <;> decide

theorem OnTime.starts {s : Sess}
    (deadline : s.deadline = UInt32.ofNat time + stageMs s.st) :
    OnTime slack time s time := by
  refine ⟨?_, Nat.le_refl _, by omega⟩
  rw [deadline, ofNat_add]

/-- A session stays on time when the deadline is set as its stages start. -/
theorem OnTime.stageStep (before after : SessCtx)
    (onTime : OnTime slack time before.s since)
    (inUse : before.s.used = true) (stillInUse : after.s.used = true)
    (stage : StageStep (UInt32.ofNat time) before after) :
    OnTime slack time after.s
      (if startsStage before after then time else since) := by
  cases stage with
  | ends gone =>
      rw [gone] at stillInUse
      cases stillInUse
  | stays sameSt sameDeadline quiet =>
      have notStarted : startsStage before after = false := by
        simp only [startsStage, stillInUse, inUse, sameSt]
        by_cases isSplice : before.s.st = .splice
        · simp [quiet isSplice]
        · simp [isSplice]
      rw [notStarted]
      refine ⟨?_, onTime.past, ?_⟩
      · rw [sameDeadline, sameSt]
        exact onTime.deadline
      · rw [sameSt]
        exact onTime.notLong
  | starts deadline isNew =>
      have started : startsStage before after = true := by
        simpa [startsStage, stillInUse, inUse] using isNew
      rw [started]
      exact OnTime.starts deadline

variable {w : Watched} {relay : Relay} {i : Fin sessMax}

/-- A step keeps a session that it leaves alone on time. -/
theorem Watched.Timely.frame (timely : w.Timely slack time)
    (sameSess : relay.sess i = w.relay.sess i)
    (sameTr : relay.record.tr i = w.relay.record.tr i)
    (inUse : (relay.sess i).used = true) :
    OnTime slack time (relay.sess i) ((w.goesTo time relay).since i) := by
  have wasInUse : (w.relay.sess i).used = true := by
    rw [← sameSess]
    exact inUse
  apply
    OnTime.stageStep (w.relay.ctx i) (relay.ctx i) (timely i wasInUse) wasInUse
      inUse
  refine StageStep.stays _ ?_ ?_ fun _ => ?_
  · exact congrArg Sess.st sameSess
  · exact congrArg Sess.deadline sameSess
  · exact congrArg bytesMoved sameTr

/-- Putting the result of a session function back keeps the sessions on
time. -/
theorem Watched.Timely.put (timely : w.Timely slack time) {c : SessCtx}
    (inUse : (w.relay.sess i).used = true)
    (stage : StageStep (UInt32.ofNat time) (w.relay.ctx i) c) :
    (w.goesTo time (w.relay.put i c)).Timely slack time := by
  intro j inUseAfter
  by_cases here : j = i
  · subst here
    have sameCtx : (w.relay.put j c).ctx j = c := by
      simp [Relay.ctx, Relay.put, RelayRecord.after]
    rw [← sameCtx] at stage
    exact
      OnTime.stageStep (w.relay.ctx j) ((w.relay.put j c).ctx j)
        (timely j inUse) inUse inUseAfter stage
  · exact
      timely.frame (Function.update_of_ne here _ _)
        (Function.update_of_ne here _ _) inUseAfter

theorem Watched.Timely.congr (timely : w.Timely slack time)
    (sameSess : relay.sess = w.relay.sess)
    (sameTr : relay.record.tr = w.relay.record.tr) :
    (w.goesTo time relay).Timely slack time :=
  fun j inUse =>
    timely.frame (congrFun sameSess j) (congrFun sameTr j) inUse

/-- A new session has the whole of its first stage before it. -/
theorem Watched.Timely.begin (timely : w.Timely slack time)
    (sameSess : relay.sess = w.relay.sess)
    (sameTr : relay.record.tr = w.relay.record.tr)
    (isFree : (w.relay.sess i).used = false) (tls : Bool) {s : Sess}
    (deadline : s.deadline = UInt32.ofNat time + stageMs s.st) :
    (w.goesTo time (relay.begin i tls s)).Timely slack time := by
  intro j inUse
  by_cases here : j = i
  · subst here
    have begun : (relay.begin j tls s).sess j = s :=
      Function.update_self ..
    have started :
        startsStage (w.relay.ctx j) ((relay.begin j tls s).ctx j) = true := by
      have inUseAfter : ((relay.begin j tls s).ctx j).s.used = true := inUse
      have wasFree : (w.relay.ctx j).s.used = false := isFree
      simp [startsStage, inUseAfter, wasFree]
    have since : (w.goesTo time (relay.begin j tls s)).since j = time :=
      if_pos started
    rw [since]
    show OnTime slack time ((relay.begin j tls s).sess j) time
    rw [begun]
    exact OnTime.starts deadline
  · refine timely.frame ?_ ?_ inUse
    · rw [← sameSess]
      exact Function.update_of_ne here _ _
    · rw [← sameTr]
      exact Function.update_of_ne here _ _

theorem Watched.Timely.step (timely : w.Timely slack time)
    {event : RelayEvent} (reads : ReadsAt (UInt32.ofNat time) event) :
    (w.step time event).Timely slack time := by
  unfold Watched.step
  cases event with
  | outside event =>
      exact timely.congr rfl rfl
  | service i io rd wr now =>
      rw [show now = UInt32.ofNat time from reads]
      simp only [Relay.step, Relay.service]
      split
      · next inUse =>
        exact timely.put inUse (sessService_stage io rd wr _ _)
      · exact timely.congr rfl rfl
  | accept tls io now =>
      rw [show now = UInt32.ofNat time from reads]
      have outcome := doAccept_outcome w.relay tls io (UInt32.ofNat time)
      simp only [Relay.step]
      generalize w.relay.doAccept tls io (UInt32.ofNat time) = accepted at *
      cases outcome with
      | nothing _ =>
          exact timely.congr rfl rfl
      | noSlot _ _ =>
          exact timely.congr rfl rfl
      | noMemory _ _ _ _ =>
          exact timely.congr rfl rfl
      | begins i mem origIp _ found _ _ =>
          exact
            timely.begin rfl rfl (freeSlot_eq_some found) tls rfl
  | timeout i io now =>
      simp only [Relay.step, Relay.timeout]
      split
      · next expired =>
        obtain ⟨why, closes⟩ := Relay.sessTimeout_eq io (w.relay.ctx i)
        rw [closes]
        exact timely.put expired.1 (sessClose_stage io why _)
      · exact timely.congr rfl rfl

end Steps

/-! ## The deadlines of a pass -/

theorem serviceEvents_readsAt (w : Relay) (io : PassIo) :
    ∀ event ∈ w.serviceEvents io, ReadsAt io.now event := by
  have outsideReads :
      ∀ (events : List OutsideEvent), ∀ event ∈ events.map RelayEvent.outside,
        ReadsAt io.now event := by
    intro events event member
    obtain ⟨_, _, rfl⟩ := List.mem_map.mp member
    trivial
  have acceptReads :
      ∀ tls, ∀ event ∈ w.acceptEvents io tls, ReadsAt io.now event := by
    intro tls event member
    unfold Relay.acceptEvents at member
    split at member
    · rw [List.mem_singleton.mp member]
      rfl
    · cases member
  intro event member
  unfold Relay.serviceEvents at member
  rcases List.mem_append.mp member with waiting | served
  · exact outsideReads _ event waiting
  · split at served
    · rcases List.mem_append.mp served with services | accepts
      · obtain ⟨i, _, inSlot⟩ := List.mem_flatMap.mp services
        rcases List.mem_append.mp inSlot with before | service
        · exact outsideReads _ event before
        · rw [List.mem_singleton.mp service]
          rfl
      · rcases List.mem_append.mp accepts with http | https
        · exact acceptReads false event http
        · exact acceptReads true event https
    · cases served

theorem Watched.run_relay (time : Nat) (w : Watched)
    (events : List RelayEvent) :
    (run (Watched.step time) w events).relay =
      run Relay.step w.relay events := by
  induction events generalizing w with
  | nil =>
      rfl
  | cons event rest inductionHypothesis =>
      rw [run_cons, run_cons, inductionHypothesis]
      rfl

theorem Watched.Timely.served {slack time : Nat} {w : Watched}
    (timely : w.Timely slack time) {io : PassIo}
    (reading : io.now = UInt32.ofNat time) :
    (w.served time io).Timely slack time := by
  have reads := serviceEvents_readsAt w.relay io
  rw [reading] at reads
  exact
    run_invariant_along (Watched.Timely slack time)
      (fun _ event before allowed => before.step allowed.1) timely
      ((along_of_forall (fun _ _ => trivial) w _).with_each reads)

/-- The loop closes the session in a slot: it is past its deadline. -/
def Expired (w : Relay) (now : UInt32) (i : Fin sessMax) : Prop :=
  (w.sess i).used = true ∧ pastDeadline now (w.sess i).deadline = true

instance (w : Relay) (now : UInt32) (i : Fin sessMax) :
    Decidable (Expired w now i) :=
  inferInstanceAs (Decidable (_ ∧ _))

theorem timeout_sess_of_ne (w : Relay) {i j : Fin sessMax} (different : i ≠ j)
    (io : SessIo) (now : UInt32) :
    (w.timeout j io now).sess i = w.sess i := by
  unfold Relay.timeout
  split
  · exact Function.update_of_ne different _ _
  · rfl

theorem timeout_sess (w : Relay) (i : Fin sessMax) (io : SessIo)
    (now : UInt32) :
    (w.timeout i io now).sess i =
      if Expired w now i then Sess.cleared else w.sess i := by
  by_cases expired : Expired w now i
  · obtain ⟨why, closes⟩ := Relay.sessTimeout_eq io (w.ctx i)
    have fires : w.timeout i io now = w.put i (sessTimeout io (w.ctx i)) :=
      if_pos expired
    rw [if_pos expired, fires, closes]
    exact Function.update_self ..
  · have passes : w.timeout i io now = w := if_neg expired
    rw [if_neg expired, passes]

/-- The last part of a pass closes the sessions that are past their deadlines
and leaves the others. -/
theorem timeouts_sess (io : PassIo) (i : Fin sessMax)
    (slots : List (Fin sessMax)) (nodup : slots.Nodup) (w : Relay) :
    (slots.foldl (fun w j => w.timeout j (io.timeout j) io.now) w).sess i =
      if i ∈ slots ∧ Expired w io.now i then Sess.cleared else w.sess i := by
  induction slots generalizing w with
  | nil =>
      simp
  | cons j rest inductionHypothesis =>
      obtain ⟨notLater, nodupRest⟩ := List.nodup_cons.mp nodup
      rw [List.foldl_cons, inductionHypothesis nodupRest]
      by_cases here : i = j
      · subst here
        rw [if_neg fun later => notLater later.1, timeout_sess]
        simp
      · have same := timeout_sess_of_ne w here (io.timeout j) io.now
        have sameExpired :
            Expired (w.timeout j (io.timeout j) io.now) io.now i ↔
              Expired w io.now i := by
          unfold Expired
          rw [same]
        simp [same, sameExpired, here]

theorem timeoutAll_sess (w : Relay) (io : PassIo) (i : Fin sessMax) :
    (w.timeoutAll io).sess i =
      if Expired w io.now i then Sess.cleared else w.sess i := by
  unfold Relay.timeoutAll
  rw [timeouts_sess io i _ (List.nodup_finRange sessMax)]
  simp only [List.mem_finRange, true_and]

/-- While a session is on time, it is past its deadline exactly if it is
overdue. -/
theorem OnTime.pastDeadline_iff {now : Nat} {s : Sess} {since : Nat}
    (onTime : OnTime 1073741824 now s since) :
    pastDeadline (UInt32.ofNat now) s.deadline = true ↔
      Overdue now s since := by
  have limit := stageMs_le s.st
  have past := onTime.past
  have notLong := onTime.notLong
  unfold pastDeadline Overdue
  rw [decide_eq_true_eq, onTime.deadline,
    signed_pos_iff (by omega) (by omega)]

/-! ## Runs -/

namespace TimedRelay

/-- At the last pass in which `select` succeeded the sessions in use were on
time; before the first one there is none. -/
structure OnSchedule (t : TimedRelay) : Prop where
  timely :
    ∀ i, (t.watched.relay.sess i).used = true →
      ∃ last, t.lastPass = some last ∧
        OnTime 0 last (t.watched.relay.sess i) (t.watched.since i)
  notAhead : ∀ last, t.lastPass = some last → last ≤ t.clock

section Passes

variable {t : TimedRelay} {p : TimedPass}

/-- While sessions are served in a pass in which `select` succeeded, none is
overdue by 2^30 ms. -/
theorem OnSchedule.served (schedule : t.OnSchedule) (soon : t.SoonEnough p)
    (selected : 0 ≤ p.io.selected) :
    (t.served p).Timely 1073741824 (t.clock + p.delay) := by
  apply Watched.Timely.served _ rfl
  intro i inUse
  obtain ⟨last, lastPass, onTime⟩ := schedule.timely i inUse
  have near := soon selected last lastPass
  have notAhead := schedule.notAhead last lastPass
  have past := onTime.past
  have notLong := onTime.notLong
  exact ⟨onTime.deadline, by omega, by omega⟩

theorem pass_sess (t : TimedRelay) {p : TimedPass}
    (selected : 0 ≤ p.io.selected) (i : Fin sessMax) :
    (t.pass p).watched.relay.sess i =
      if
        Expired (t.served p).relay (UInt32.ofNat (t.clock + p.delay)) i
      then Sess.cleared else (t.served p).relay.sess i := by
  have parts :
      (t.pass p).watched.relay =
        (t.served p).relay.timeoutAll (p.at (t.clock + p.delay)) := by
    unfold TimedRelay.served Watched.served
    rw [Watched.run_relay]
    exact Relay.pass_eq_timeoutAll _ selected
  rw [parts, timeoutAll_sess]
  rfl

/-- A session is closed for timeout exactly if it is overdue. -/
theorem OnSchedule.timesOut_iff (schedule : t.OnSchedule)
    (soon : t.SoonEnough p) (selected : 0 ≤ p.io.selected) (i : Fin sessMax) :
    t.TimesOut p i ↔
      ((t.served p).relay.sess i).used = true ∧
        Overdue (t.clock + p.delay) ((t.served p).relay.sess i)
          ((t.served p).since i) := by
  apply and_congr_right
  intro inUse
  have onTime := schedule.served soon selected i inUse
  rw [pass_sess t selected, ← onTime.pastDeadline_iff]
  split
  · next expired =>
    exact iff_of_true rfl expired.2
  · next notExpired =>
    rw [inUse]
    exact iff_of_false (by simp) fun past => notExpired ⟨inUse, past⟩

/-- Other tasks change no session. -/
theorem outside_keeps (time : Nat) (w : Watched) (events : List OutsideEvent) :
    (run (Watched.step time) w (events.map .outside)).relay.sess =
        w.relay.sess ∧
      (run (Watched.step time) w (events.map .outside)).since = w.since := by
  induction events generalizing w with
  | nil =>
      exact ⟨rfl, rfl⟩
  | cons event rest inductionHypothesis =>
      obtain ⟨sameSess, sameSince⟩ :=
        inductionHypothesis (w.step time (.outside event))
      refine ⟨sameSess, sameSince.trans ?_⟩
      funext i
      have notStarted :
          startsStage (w.relay.ctx i)
            ((w.relay.step (.outside event)).ctx i) = false := by
        simp [startsStage, Relay.ctx, Relay.step, Relay.withRd]
      simp [Watched.step, Watched.goesTo, notStarted]

/-- A pass in which `select` failed changes no session. -/
theorem served_of_failed (t : TimedRelay) {p : TimedPass}
    (failed : p.io.selected < 0) :
    (t.pass p).watched.relay = (t.served p).relay ∧
      (t.served p).relay.sess = t.watched.relay.sess ∧
      (t.served p).since = t.watched.since := by
  have events :
      t.watched.relay.serviceEvents (p.at (t.clock + p.delay)) =
        p.io.waiting.map .outside :=
    Relay.serviceEvents_of_failed _ failed
  unfold TimedRelay.served Watched.served
  rw [events]
  refine ⟨?_, outside_keeps _ _ _⟩
  rw [Watched.run_relay, ← events]
  exact Relay.pass_of_failed _ failed

theorem OnSchedule.pass_of_failed (schedule : t.OnSchedule)
    (failed : p.io.selected < 0) : (t.pass p).OnSchedule := by
  obtain ⟨sameRelay, sameSess, sameSince⟩ := served_of_failed t failed
  have lastPass : (t.pass p).lastPass = t.lastPass := if_pos failed
  constructor
  · intro i inUse
    rw [sameRelay, sameSess] at inUse ⊢
    rw [lastPass, show (t.pass p).watched.since = _ from sameSince]
    exact schedule.timely i inUse
  · intro last isLast
    rw [lastPass] at isLast
    exact (schedule.notAhead last isLast).trans (Nat.le_add_right _ _)

theorem OnSchedule.pass (schedule : t.OnSchedule) (soon : t.SoonEnough p) :
    (t.pass p).OnSchedule := by
  by_cases failed : p.io.selected < 0
  · exact schedule.pass_of_failed failed
  · have selected := not_lt.mp failed
    have lastPass : (t.pass p).lastPass = some (t.clock + p.delay) :=
      if_neg failed
    constructor
    · intro i inUse
      refine ⟨_, lastPass, ?_⟩
      have sess := pass_sess t selected i
      by_cases expired :
          Expired (t.served p).relay (UInt32.ofNat (t.clock + p.delay)) i
      · rw [sess, if_pos expired] at inUse
        cases inUse
      · rw [if_neg expired] at sess
        rw [sess] at inUse ⊢
        have onTime := schedule.served soon selected i inUse
        refine ⟨onTime.deadline, onTime.past, ?_⟩
        by_contra! overdue
        exact expired ⟨inUse, onTime.pastDeadline_iff.mpr overdue⟩
    · intro last isLast
      rw [lastPass] at isLast
      cases isLast
      exact Nat.le_refl _

end Passes

/-- Sessions keep to their schedule along every run whose passes come soon
enough. -/
theorem OnSchedule.run {t : TimedRelay} (schedule : t.OnSchedule)
    {passes : List TimedPass}
    (soon : Along TimedRelay.pass SoonEnough t passes) :
    (EventRun.run TimedRelay.pass t passes).OnSchedule :=
  run_invariant_along OnSchedule (fun _ _ before allowed => before.pass allowed)
    schedule soon

end TimedRelay

/-- The task on entering its loop, with the clock at any time. -/
def timedTask (http tls : ListenIo) (rd : Redirector) (clock : Nat) :
    TimedRelay :=
  TimedRelay.start (proxyTaskStart http tls rd) clock

theorem timedTask_onSchedule (http tls : ListenIo) (rd : Redirector)
    (clock : Nat) : (timedTask http tls rd clock).OnSchedule := by
  constructor
  · intro i inUse
    cases inUse
  · intro last isLast
    cases isLast

/-- In every run in which less than 2^30 ms go by between the passes in which
`select` succeeds, wherever the clock starts: a pass closes a session for
timeout exactly if the session has been in its setup stage for more than
`SETUP_MS`, or has copied nothing for more than `IDLE_MS`.  A session that
stays in its setup stage keeps its deadline, whatever it receives. -/
theorem session_timeout_iff (http tls : ListenIo) (rd : Redirector)
    (clock : Nat) (passes : List TimedPass) (p : TimedPass)
    (soon :
      Along TimedRelay.pass TimedRelay.SoonEnough
        (timedTask http tls rd clock) (passes ++ [p]))
    (selected : 0 ≤ p.io.selected) :
    let t := run TimedRelay.pass (timedTask http tls rd clock) passes
    (∀ i, t.TimesOut p i ↔
      ((t.served p).relay.sess i).used = true ∧
        Overdue (t.clock + p.delay) ((t.served p).relay.sess i)
          ((t.served p).since i)) ∧
      ∀ (io : SessIo) (rd wr : Int → Bool) (now : UInt32) (c : SessCtx),
        (sessService io rd wr now c).s.used = true →
        (sessService io rd wr now c).s.st = c.s.st → c.s.st ≠ .splice →
          (sessService io rd wr now c).s.deadline = c.s.deadline := by
  intro t
  obtain ⟨soonBefore, soonNow, _⟩ := (along_append _ passes [p]).mp soon
  have schedule : t.OnSchedule :=
    (timedTask_onSchedule http tls rd clock).run soonBefore
  refine ⟨schedule.timesOut_iff soonNow selected, ?_⟩
  intro io rd wr now c inUse sameSt setup
  have stage := sessService_stage io rd wr now c
  generalize sessService io rd wr now c = after at *
  cases stage with
  | ends gone =>
      rw [gone] at inUse
      cases inUse
  | stays _ sameDeadline _ =>
      exact sameDeadline
  | starts _ isNew =>
      rcases isNew with entered | ⟨isSplice, _⟩
      · exact absurd sameSt entered
      · rw [sameSt] at isSplice
        exact absurd isSplice setup

/-- A connection is accepted four seconds before the clock turns over. -/
def acceptBeforeTurn : TimedPass where
  delay := 0
  io :=
    { quietPass with
      selected := 1
      readable := fun fd => fd == 3
      accept := fun _ => phoneConn 5001 5 }

/-- The proxy is on, and the phone has dialled. -/
def dialledRedirector : Redirector :=
  ((Redirector.boot ⟨some 1, some [112], some 3130⟩).step
    (.proxyInit true)).outsideRun Relay.twoDialled

/-- The phone sends nothing, and 10001 ms later the session is closed. -/
theorem session_timeout_after_turn :
    (run TimedRelay.pass
      (timedTask ⟨3, true⟩ ⟨4, true⟩ dialledRedirector 4294963296)
      [acceptBeforeTurn]).TimesOut ⟨10001, quietPass⟩ 0 := by
  have soon :
      Along TimedRelay.pass TimedRelay.SoonEnough
        (timedTask ⟨3, true⟩ ⟨4, true⟩ dialledRedirector 4294963296)
        ([acceptBeforeTurn] ++ [⟨10001, quietPass⟩]) := by
    refine ⟨?_, ?_, trivial⟩
    · rintro _ last ⟨⟩
    · rintro _ last ⟨⟩
      decide
  refine
    ((session_timeout_iff ⟨3, true⟩ ⟨4, true⟩ dialledRedirector 4294963296
      [acceptBeforeTurn] ⟨10001, quietPass⟩ soon (by decide)).1 0).mpr
      ⟨by decide +kernel, ?_⟩
  unfold Overdue
  decide +kernel

end VeteraBridge.Proxy

import VeteraBridge.Lib.EventRun
import Mathlib.Logic.Function.Basic

/-!
# The restart of the DNS task

`dns_fwd_watchdog_check` signals a hung `dns_server_task` through a flag, waits,
and starts another task, which clears the flag.  Both work on the global sockets.
A task that is still stuck as the next one begins misses the flag, and goes on
with sockets that are not its own.

A statement of the tasks is one step, at its access to a global: a descriptor
that is open before it is assigned, or after it is read to be closed, is seen by
no other task, and `bind` may fail at any time.
-/

namespace VeteraBridge.Dns.Restart

open EventRun

def dnsWatchdogMs : UInt32 := 15000

def dnsWatchdogTicks : Nat := 2

/-- Who opened a descriptor. -/
inductive Owner where
  | dns (task : Nat)
  | other
deriving DecidableEq, Repr

/-- Where a `dns_server_task` is: before the statement named. -/
inductive TaskPc where
  | absent
  /-- `dns_restart_flag = false` -/
  | created
  | opensSrv
  | opensExt
  /-- `close(dns_srv_sock)`, as the second socket failed -/
  | dropsSrv
  /-- `dns_srv_sock = -1` there -/
  | forgetsSrv
  | binds
  /-- the test of `dns_restart_flag` -/
  | loopTop
  /-- anywhere in the body of the loop -/
  | serving
  /-- `close(dns_srv_sock)` after the loop, or after `bind` failed -/
  | closesSrv
  | closesExt
  /-- `dns_ext_sock = -1` -/
  | clearsExt
  /-- `dns_srv_sock = -1` -/
  | clearsSrv
  /-- `dns_task_handle = NULL` -/
  | leaves
  | gone
deriving DecidableEq, Repr

/-- Where the watchdog is. -/
inductive WatchdogPc where
  | idle
  /-- the flag is set -/
  | signalled
  /-- in `vTaskDelay` -/
  | delays
  /-- in `dns_fwd_start`, with the task it created -/
  | started (task : Nat)
deriving DecidableEq, Repr

/-- The globals, the tasks that were created, and the descriptors. -/
structure World where
  restartFlag : Bool
  srvSock : Option Nat
  extSock : Option Nat
  taskHandle : Option Nat
  lastAliveMs : UInt32
  stuckCount : Nat
  watchdog : WatchdogPc
  tasks : Nat → TaskPc
  spawned : Nat
  fds : Nat → Option Owner
  /-- the descriptor that is bound to port 53 -/
  bound : Option Nat

inductive Event where
  /-- a task takes its next step; with the descriptor `socket` returns, whether
  `bind` succeeds, and the time -/
  | task (id : Nat) (fd : Option Nat) (bindOk : Bool) (now : UInt32)
  /-- the watchdog takes its next step -/
  | watchdog (now : UInt32)
  /-- descriptors of the rest of the firmware -/
  | opened (fd : Nat)
  | closed (fd : Nat)
deriving DecidableEq

namespace World

/-- A task goes on to a statement. -/
def at' (w : World) (id : Nat) (pc : TaskPc) : World :=
  { w with tasks := Function.update w.tasks id pc }

/-- `close`. -/
def close (w : World) : Option Nat → World
  | none => w
  | some fd =>
    { w with
      fds := Function.update w.fds fd none
      bound := if w.bound = some fd then none else w.bound }

/-- `socket`: a task has opened a descriptor, if there was one. -/
def own (w : World) (id : Nat) : Option Nat → World
  | none => w
  | some fd => { w with fds := Function.update w.fds fd (some (.dns id)) }

/-- The next statement of `dns_server_task`. -/
def taskStep (w : World) (id : Nat) (fd : Option Nat) (bindOk : Bool)
    (now : UInt32) : World :=
  match w.tasks id with
  | .absent | .gone => w
  | .created => { w with restartFlag := false }.at' id .opensSrv
  | .opensSrv =>
    { w.own id fd with srvSock := fd }.at' id
      (if fd = none then .leaves else .opensExt)
  | .opensExt =>
    { w.own id fd with extSock := fd }.at' id
      (if fd = none then .dropsSrv else .binds)
  | .dropsSrv => (w.close w.srvSock).at' id .forgetsSrv
  | .forgetsSrv => { w with srvSock := none }.at' id .leaves
  | .binds =>
    if bindOk then { w with bound := w.srvSock }.at' id .loopTop
    else w.at' id .closesSrv
  | .loopTop =>
    if w.restartFlag then w.at' id .closesSrv
    else { w with lastAliveMs := now }.at' id .serving
  | .serving => w.at' id .loopTop
  | .closesSrv => (w.close w.srvSock).at' id .closesExt
  | .closesExt => (w.close w.extSock).at' id .clearsExt
  | .clearsExt => { w with extSock := none }.at' id .clearsSrv
  | .clearsSrv => { w with srvSock := none }.at' id .leaves
  | .leaves => { w with taskHandle := none }.at' id .gone

/-- A check of `dns_fwd_watchdog_check`, or what follows a hang. -/
def watchdogStep (w : World) (now : UInt32) : World :=
  match w.watchdog with
  | .idle =>
    if w.taskHandle ≠ none ∧ now - w.lastAliveMs > dnsWatchdogMs then
      if w.stuckCount + 1 ≥ dnsWatchdogTicks then
        { w with
          stuckCount := w.stuckCount + 1
          restartFlag := true
          watchdog := .signalled }
      else
        { w with stuckCount := w.stuckCount + 1 }
    else
      { w with stuckCount := 0 }
  | .signalled => { w with taskHandle := none, watchdog := .delays }
  | .delays =>
    { w with
      lastAliveMs := now
      watchdog := .started w.spawned
      spawned := w.spawned + 1 }.at' w.spawned .created
  | .started id =>
    { w with taskHandle := some id, stuckCount := 0, watchdog := .idle }

def step (w : World) : Event → World
  | .task id fd bindOk now => w.taskStep id fd bindOk now
  | .watchdog now => w.watchdogStep now
  | .opened fd => { w with fds := Function.update w.fds fd (some .other) }
  | .closed fd => { w with fds := Function.update w.fds fd none }

/-- `dns_fwd_start` at boot has created the first task. -/
def start : World where
  restartFlag := false
  srvSock := none
  extSock := none
  taskHandle := none
  lastAliveMs := 0
  stuckCount := 0
  watchdog := .started 0
  tasks := Function.update (fun _ => .absent) 0 .created
  spawned := 1
  fds := fun _ => none
  bound := none

end World

/-- `socket` gives a free descriptor, `bind` succeeds on an open one only while
none is bound, and the rest of the firmware closes its own. -/
def Possible (w : World) : Event → Prop
  | .task id fd bindOk _ =>
    (∀ free, fd = some free → w.fds free = none) ∧
      (w.tasks id = .binds → bindOk = true →
        w.bound = none ∧ ∃ srv, w.srvSock = some srv ∧ w.fds srv ≠ none)
  | .watchdog _ => True
  | .opened fd => w.fds fd = none
  | .closed fd => w.fds fd = some .other

/-! ## The property -/

def TaskPc.inLoop : TaskPc → Bool
  | .loopTop | .serving => true
  | _ => false

/-- The globals are two open sockets that the task opened. -/
def OwnsBoth (w : World) (id : Nat) : Prop :=
  ∃ srv ext, w.srvSock = some srv ∧ w.extSock = some ext ∧ srv ≠ ext ∧
    w.fds srv = some (.dns id) ∧ w.fds ext = some (.dns id)

/-- At most one task is in its loop, and it uses sockets of its own. -/
structure LoopsOwn (w : World) : Prop where
  one : ∀ first second, (w.tasks first).inLoop = true →
    (w.tasks second).inLoop = true → first = second
  own : ∀ id, (w.tasks id).inLoop = true → OwnsBoth w id

/-- From its first socket to the last assignment a task uses the globals. -/
def TaskPc.uses : TaskPc → Bool
  | .opensExt | .dropsSrv | .forgetsSrv | .binds | .loopTop | .serving
  | .closesSrv | .closesExt | .clearsExt | .clearsSrv => true
  | .absent | .created | .opensSrv | .leaves | .gone => false

/-- A task assigns its first socket when no other uses the globals, unless that
one has left its loop and has yet to close the socket that is bound. -/
def OpensApart (w : World) : Event → Prop
  | .task id _ _ _ => w.tasks id = .opensSrv →
    ∀ other, (w.tasks other).uses = true →
      w.tasks other = .closesSrv ∧ w.bound ≠ none
  | _ => True

/-! ## The invariant -/

/-- A task that may have bound its socket, and has not closed it. -/
def TaskPc.mayBind : TaskPc → Bool
  | .loopTop | .serving | .closesSrv => true
  | _ => false

/-- What a task has opened and not closed is in the globals. -/
def Owns (w : World) (id : Nat) : TaskPc → Prop
  | .opensExt | .dropsSrv =>
    ∃ srv, w.srvSock = some srv ∧ w.fds srv = some (.dns id)
  | .binds | .loopTop | .serving | .closesSrv => OwnsBoth w id
  | .closesExt => ∃ ext, w.extSock = some ext ∧ w.fds ext = some (.dns id)
  | _ => True

/-- One task at most uses the globals, and only its socket is bound. -/
structure Normal (w : World) : Prop where
  fresh : ∀ id, w.spawned ≤ id → w.tasks id = .absent
  one : ∀ first second, (w.tasks first).uses = true →
    (w.tasks second).uses = true → first = second
  owns : ∀ id, Owns w id (w.tasks id)
  bound : ∀ fd, w.bound = some fd →
    w.srvSock = some fd ∧ ∃ id, (w.tasks id).mayBind = true

/-- The socket that is lost, and whose it was. -/
def Leaked (w : World) (fd owner : Nat) : Prop :=
  w.bound = some fd ∧ w.fds fd = some (.dns owner) ∧ w.srvSock ≠ some fd ∧
    w.extSock ≠ some fd

/-- A socket that no global gives is bound for good, and no task is in its
loop. -/
structure Jammed (w : World) : Prop where
  fresh : ∀ id, w.spawned ≤ id → w.tasks id = .absent
  leaked : ∃ fd owner, Leaked w fd owner
  outside : ∀ id, (w.tasks id).inLoop = false

section Invariant

variable {w w' : World} {id : Nat} {pc before : TaskPc}

theorem owns_of_unused (unused : pc.uses = false) : Owns w id pc := by
  cases pc <;> trivial

/-- It is about the two globals and the task's own descriptors. -/
theorem Owns.mono (owns : Owns w id pc) (srv : w'.srvSock = w.srvSock)
    (ext : w'.extSock = w.extSock)
    (fds : ∀ fd, w.fds fd = some (.dns id) → w'.fds fd = some (.dns id)) :
    Owns w' id pc := by
  have first : (∃ fd, w.srvSock = some fd ∧ w.fds fd = some (.dns id)) →
      ∃ fd, w'.srvSock = some fd ∧ w'.fds fd = some (.dns id) := by
    rintro ⟨fd, isSrv, isOpen⟩
    exact ⟨fd, srv.trans isSrv, fds fd isOpen⟩
  have both : OwnsBoth w id → OwnsBoth w' id := by
    rintro ⟨a, b, isSrv, isExt, apart, aOpen, bOpen⟩
    exact ⟨a, b, srv.trans isSrv, ext.trans isExt, apart, fds a aOpen,
      fds b bOpen⟩
  have second : (∃ fd, w.extSock = some fd ∧ w.fds fd = some (.dns id)) →
      ∃ fd, w'.extSock = some fd ∧ w'.fds fd = some (.dns id) := by
    rintro ⟨fd, isExt, isOpen⟩
    exact ⟨fd, ext.trans isExt, fds fd isOpen⟩
  cases pc <;> first | trivial | exact first owns | exact both owns |
    exact second owns

theorem TaskPc.uses_of_inLoop (inLoop : pc.inLoop = true) :
    pc.uses = true := by
  cases pc <;> first | rfl | cases inLoop

theorem TaskPc.uses_of_mayBind (mayBind : pc.mayBind = true) :
    pc.uses = true := by
  cases pc <;> first | rfl | cases mayBind

theorem Normal.loopsOwn (normal : Normal w) : LoopsOwn w := by
  constructor
  · intro first second isFirst isSecond
    exact normal.one first second (TaskPc.uses_of_inLoop isFirst)
      (TaskPc.uses_of_inLoop isSecond)
  · intro id inLoop
    have owns := normal.owns id
    cases pc : w.tasks id <;> rw [pc] at inLoop owns <;>
      first | exact owns | cases inLoop

theorem Jammed.loopsOwn (jammed : Jammed w) : LoopsOwn w := by
  constructor
  · intro first second isFirst
    cases (jammed.outside first).symm.trans isFirst
  · intro id inLoop
    cases (jammed.outside id).symm.trans inLoop

/-! What `socket` and `close` leave alone. -/

theorem own_tasks (fd : Option Nat) : (w.own id fd).tasks = w.tasks := by
  cases fd with
  | none => rfl
  | some f => rfl

theorem own_spawned (fd : Option Nat) : (w.own id fd).spawned = w.spawned := by
  cases fd with
  | none => rfl
  | some f => rfl

theorem own_srvSock (fd : Option Nat) : (w.own id fd).srvSock = w.srvSock := by
  cases fd with
  | none => rfl
  | some f => rfl

theorem own_extSock (fd : Option Nat) : (w.own id fd).extSock = w.extSock := by
  cases fd with
  | none => rfl
  | some f => rfl

theorem own_bound (fd : Option Nat) : (w.own id fd).bound = w.bound := by
  cases fd with
  | none => rfl
  | some f => rfl

/-- A descriptor in use is not one that `socket` gives. -/
theorem own_fds (id : Nat) {new : Option Nat}
    (free : ∀ f, new = some f → w.fds f = none)
    {fd : Nat} {owner : Owner} (isOpen : w.fds fd = some owner) :
    (w.own id new).fds fd = some owner ∧ new ≠ some fd := by
  have other : new ≠ some fd := by
    intro isNew
    cases isOpen.symm.trans (free fd isNew)
  refine ⟨?_, other⟩
  cases new with
  | none => exact isOpen
  | some f =>
      refine (Function.update_of_ne ?_ _ _).trans isOpen
      rintro rfl
      exact other rfl

theorem close_tasks (sock : Option Nat) : (w.close sock).tasks = w.tasks := by
  cases sock with
  | none => rfl
  | some fd => rfl

theorem close_spawned (sock : Option Nat) :
    (w.close sock).spawned = w.spawned := by
  cases sock with
  | none => rfl
  | some fd => rfl

theorem close_bound {sock : Option Nat} (none : w.bound = none) :
    (w.close sock).bound = Option.none := by
  cases sock with
  | none => exact none
  | some fd =>
      show (if w.bound = some fd then Option.none else w.bound) = _
      rw [none, ite_self]

/-- A task that was created. -/
theorem spawned_of_pc (fresh : ∀ id, w.spawned ≤ id → w.tasks id = .absent)
    (present : w.tasks id ≠ .absent) : id < w.spawned := by
  by_contra late
  exact present (fresh id (Nat.le_of_not_lt late))

theorem fresh_update (fresh : ∀ id, w.spawned ≤ id → w.tasks id = .absent)
    (present : w.tasks id ≠ .absent) (other : Nat) (late : w.spawned ≤ other) :
    Function.update w.tasks id pc other = .absent := by
  have early := spawned_of_pc fresh present
  rw [Function.update_of_ne (Nat.ne_of_gt (Nat.lt_of_lt_of_le early late))]
  exact fresh other late

theorem present_of_uses (uses : (w.tasks id).uses = true) :
    w.tasks id ≠ .absent := by
  intro absent
  rw [absent] at uses
  cases uses

/-- A step of a task that does not use the globals. -/
theorem Normal.aside (normal : Normal w) (isPc : w.tasks id = before)
    (present : before ≠ .absent) (unused : before.uses = false)
    (pcUnused : pc.uses = false)
    (tasks : w'.tasks = Function.update w.tasks id pc)
    (spawned : w'.spawned = w.spawned) (srv : w'.srvSock = w.srvSock)
    (ext : w'.extSock = w.extSock)
    (fds : ∀ fd owner, w.fds fd = some (.dns owner) →
      w'.fds fd = some (.dns owner))
    (bound : w'.bound = w.bound) : Normal w' := by
  have uses : ∀ other, (w'.tasks other).uses = true →
      other ≠ id ∧ w'.tasks other = w.tasks other := by
    intro other uses
    rw [tasks] at uses ⊢
    by_cases same : other = id
    · rw [same, Function.update_self, pcUnused] at uses
      cases uses
    · exact ⟨same, Function.update_of_ne same _ _⟩
  refine ⟨?_, ?_, ?_, ?_⟩
  · rw [tasks, spawned]
    exact fresh_update normal.fresh (isPc ▸ present)
  · intro first second isFirst isSecond
    rw [(uses first isFirst).2] at isFirst
    rw [(uses second isSecond).2] at isSecond
    exact normal.one first second isFirst isSecond
  · intro other
    by_cases isUsed : (w'.tasks other).uses = true
    · rw [(uses other isUsed).2]
      exact (normal.owns other).mono srv ext fun fd => fds fd other
    · exact owns_of_unused (Bool.eq_false_iff.mpr isUsed)
  · rw [bound, srv]
    intro fd isBound
    obtain ⟨isSrv, binder, mayBind⟩ := normal.bound fd isBound
    refine ⟨isSrv, binder, ?_⟩
    have apart : binder ≠ id := by
      rintro rfl
      rw [isPc] at mayBind
      cases unused.symm.trans (TaskPc.uses_of_mayBind mayBind)
    rw [tasks, Function.update_of_ne apart]
    exact mayBind

/-- A step of the only task that uses the globals. -/
theorem Normal.alone (normal : Normal w) (present : w.tasks id ≠ .absent)
    (others : ∀ other, other ≠ id → (w.tasks other).uses = false)
    (tasks : w'.tasks = Function.update w.tasks id pc)
    (spawned : w'.spawned = w.spawned) (owns : Owns w' id pc)
    (bound : ∀ fd, w'.bound = some fd →
      w'.srvSock = some fd ∧ pc.mayBind = true) : Normal w' := by
  have unused : ∀ other, other ≠ id → (w'.tasks other).uses = false := by
    intro other apart
    rw [tasks, Function.update_of_ne apart]
    exact others other apart
  have own : w'.tasks id = pc := by
    rw [tasks, Function.update_self]
  refine ⟨?_, ?_, ?_, ?_⟩
  · rw [tasks, spawned]
    exact fresh_update normal.fresh present
  · intro first second isFirst isSecond
    by_cases firstHere : first = id
    · by_cases secondHere : second = id
      · rw [firstHere, secondHere]
      · cases isSecond.symm.trans (unused second secondHere)
    · cases isFirst.symm.trans (unused first firstHere)
  · intro other
    by_cases here : other = id
    · rw [here, own]
      exact owns
    · exact owns_of_unused (unused other here)
  · intro fd isBound
    obtain ⟨isSrv, mayBind⟩ := bound fd isBound
    refine ⟨isSrv, id, ?_⟩
    rw [own]
    exact mayBind

theorem Normal.others (normal : Normal w) (active : (w.tasks id).uses = true)
    (other : Nat) (apart : other ≠ id) : (w.tasks other).uses = false := by
  apply Bool.eq_false_iff.mpr
  intro uses
  exact apart (normal.one other id uses active)

/-- What is bound is the socket of the task at work. -/
theorem Normal.bound_active (normal : Normal w)
    (active : (w.tasks id).uses = true) {fd : Nat}
    (isBound : w.bound = some fd) :
    w.srvSock = some fd ∧ (w.tasks id).mayBind = true := by
  obtain ⟨isSrv, binder, mayBind⟩ := normal.bound fd isBound
  rw [normal.one id binder active (TaskPc.uses_of_mayBind mayBind)]
  exact ⟨isSrv, mayBind⟩

theorem Normal.bound_none (normal : Normal w)
    (active : (w.tasks id).uses = true)
    (unbound : (w.tasks id).mayBind = false) : w.bound = none := by
  cases isBound : w.bound with
  | none => rfl
  | some fd =>
      cases unbound.symm.trans (normal.bound_active active isBound).2

/-- The first socket of a task, while no other uses the globals. -/
theorem Normal.opensSrv (normal : Normal w) {fd : Option Nat}
    (isPc : w.tasks id = .opensSrv)
    (others : ∀ other, (w.tasks other).uses = false) :
    Normal ({ w.own id fd with srvSock := fd }.at' id
      (if fd = none then .leaves else .opensExt)) := by
  have present : w.tasks id ≠ .absent := by
    rw [isPc]
    rintro ⟨⟩
  have unbound : w.bound = none := by
    cases isBound : w.bound with
    | none => rfl
    | some fd =>
        obtain ⟨-, binder, mayBind⟩ := normal.bound fd isBound
        cases (TaskPc.uses_of_mayBind mayBind).symm.trans (others binder)
  cases fd with
  | none =>
      refine normal.alone present (fun other _ => others other) rfl rfl trivial
        ?_
      intro fd isBound
      cases unbound.symm.trans isBound
  | some fd =>
      refine normal.alone present (fun other _ => others other) rfl rfl
        ⟨fd, rfl, Function.update_self fd _ _⟩ ?_
      intro fd isBound
      cases unbound.symm.trans isBound

/-- The first socket of a task, while another has left its bound socket in the
globals. -/
theorem Normal.jams (normal : Normal w) {fd : Option Nat}
    (isPc : w.tasks id = .opensSrv)
    (free : ∀ f, fd = some f → w.fds f = none) {other : Nat}
    (closes : w.tasks other = .closesSrv) (bound : w.bound ≠ none) :
    Jammed ({ w.own id fd with srvSock := fd }.at' id
      (if fd = none then .leaves else .opensExt)) := by
  have present : w.tasks id ≠ .absent := by
    rw [isPc]
    rintro ⟨⟩
  have active : (w.tasks other).uses = true := by
    rw [closes]
    rfl
  have owns := normal.owns other
  rw [closes] at owns
  obtain ⟨srv, ext, isSrv, isExt, apart, srvOpen, -⟩ := owns
  obtain ⟨leaked, isBound⟩ := Option.ne_none_iff_exists'.mp bound
  obtain rfl : srv = leaked := Option.some.inj
    (isSrv.symm.trans (normal.bound_active active isBound).1)
  obtain ⟨kept, isNew⟩ := own_fds id free srvOpen
  have tasks : ({ w.own id fd with srvSock := fd }.at' id
      (if fd = none then .leaves else .opensExt)).tasks =
      Function.update w.tasks id (if fd = none then .leaves else .opensExt) :=
    congrArg (Function.update · id _) (own_tasks fd)
  refine ⟨?_, ⟨srv, other, ?_, kept, isNew, ?_⟩, ?_⟩
  · intro third late
    rw [tasks]
    exact fresh_update normal.fresh present third
      ((own_spawned fd).symm.trans_le late)
  · exact (own_bound fd).trans isBound
  · intro isLeaked
    have isBoth := (isExt.symm.trans (own_extSock fd).symm).trans isLeaked
    exact apart (Option.some.inj isBoth).symm
  · intro third
    rw [tasks]
    by_cases here : third = id
    · rw [here, Function.update_self]
      split
      · rfl
      · rfl
    · rw [Function.update_of_ne here]
      cases loops : (w.tasks third).inLoop with
      | false => rfl
      | true =>
          have same := normal.one third other (TaskPc.uses_of_inLoop loops) active
          rw [same, closes] at loops
          cases loops

/-- The second socket is another than the first. -/
theorem Normal.opensExt (normal : Normal w) {fd : Option Nat}
    (isPc : w.tasks id = .opensExt)
    (free : ∀ f, fd = some f → w.fds f = none) :
    Normal ({ w.own id fd with extSock := fd }.at' id
      (if fd = none then .dropsSrv else .binds)) := by
  have active : (w.tasks id).uses = true := by
    rw [isPc]
    rfl
  have present := present_of_uses active
  have unbound := normal.bound_none active (by rw [isPc]; rfl)
  have owns := normal.owns id
  rw [isPc] at owns
  obtain ⟨srv, isSrv, srvOpen⟩ := owns
  cases fd with
  | none =>
      refine normal.alone present (normal.others active) rfl rfl
        ⟨srv, isSrv, srvOpen⟩ ?_
      intro fd isBound
      cases unbound.symm.trans isBound
  | some f =>
      have apart : srv ≠ f := by
        rintro rfl
        cases srvOpen.symm.trans (free srv rfl)
      have both : OwnsBoth ({ w.own id (some f) with extSock := some f }.at' id
          .binds) id := by
        refine ⟨srv, f, isSrv, rfl, apart, ?_, Function.update_self f _ _⟩
        exact (Function.update_of_ne apart _ _).trans srvOpen
      refine normal.alone present (normal.others active) rfl rfl both ?_
      intro fd isBound
      cases unbound.symm.trans isBound

/-- After the loop the first socket is closed, and the second stays. -/
theorem Normal.closesSrv (normal : Normal w) (isPc : w.tasks id = .closesSrv) :
    Normal ((w.close w.srvSock).at' id .closesExt) := by
  have active : (w.tasks id).uses = true := by
    rw [isPc]
    rfl
  have present := present_of_uses active
  have owns := normal.owns id
  rw [isPc] at owns
  obtain ⟨srv, ext, isSrv, isExt, apart, -, extOpen⟩ := owns
  rw [isSrv]
  refine normal.alone present (normal.others active) rfl rfl
    ⟨ext, isExt, (Function.update_of_ne apart.symm _ _).trans extOpen⟩ ?_
  intro fd isBound
  have dropped : (if w.bound = some srv then none else w.bound) = some fd :=
    isBound
  split at dropped
  · cases dropped
  · next other =>
    have same := (normal.bound_active active dropped).1
    rw [isSrv] at same
    exact absurd (dropped.trans same.symm) other

/-- A step of the only task at work that leaves its sockets in the globals. -/
theorem Normal.goesOn (normal : Normal w) (isPc : w.tasks id = before)
    (active : before.uses = true)
    (tasks : w'.tasks = Function.update w.tasks id pc)
    (spawned : w'.spawned = w.spawned) (owns : Owns w' id pc)
    (srv : w'.srvSock = w.srvSock) (bound : w'.bound = w.bound)
    (mayBind : pc.mayBind = true) : Normal w' := by
  rw [← isPc] at active
  refine normal.alone (present_of_uses active) (normal.others active) tasks
    spawned owns ?_
  intro fd isBound
  rw [bound] at isBound
  exact ⟨srv.trans (normal.bound_active active isBound).1, mayBind⟩

/-- A step of the only task at work while nothing is bound. -/
theorem Normal.unbound (normal : Normal w) (isPc : w.tasks id = before)
    (active : before.uses = true) (unbound : before.mayBind = false)
    (tasks : w'.tasks = Function.update w.tasks id pc)
    (spawned : w'.spawned = w.spawned) (owns : Owns w' id pc)
    (kept : w.bound = none → w'.bound = none) : Normal w' := by
  rw [← isPc] at active unbound
  refine normal.alone (present_of_uses active) (normal.others active) tasks
    spawned owns ?_
  intro fd isBound
  cases (kept (normal.bound_none active unbound)).symm.trans isBound

/-- A step of a task, once it does not open its first socket. -/
theorem Normal.taskStep (normal : Normal w) {fd : Option Nat} {bindOk : Bool}
    {now : UInt32} (possible : Possible w (.task id fd bindOk now))
    (opened : w.tasks id ≠ .opensSrv) :
    Normal (w.taskStep id fd bindOk now) := by
  obtain ⟨free, binds⟩ := possible
  have owns := normal.owns id
  unfold World.taskStep
  cases isPc : w.tasks id with
  | absent => exact normal
  | gone => exact normal
  | created =>
      exact normal.aside isPc (by rintro ⟨⟩) rfl rfl rfl rfl rfl rfl
        (fun _ _ own => own) rfl
  | opensSrv => exact absurd isPc opened
  | opensExt => exact normal.opensExt isPc free
  | dropsSrv =>
      exact normal.unbound isPc rfl rfl
        (congrArg (Function.update · id _) (close_tasks _)) (close_spawned _)
        trivial close_bound
  | forgetsSrv =>
      exact normal.unbound isPc rfl rfl rfl rfl trivial fun none => none
  | binds =>
      rw [isPc] at owns
      dsimp only
      split
      · have active : (w.tasks id).uses = true := by
          rw [isPc]
          rfl
        refine normal.alone (present_of_uses active) (normal.others active) rfl
          rfl owns ?_
        exact fun fd isBound => ⟨isBound, rfl⟩
      · exact normal.unbound isPc rfl rfl rfl rfl owns fun none => none
  | loopTop =>
      rw [isPc] at owns
      dsimp only
      split
      · exact normal.goesOn isPc rfl rfl rfl owns rfl rfl rfl
      · exact normal.goesOn isPc rfl rfl rfl owns rfl rfl rfl
  | serving =>
      rw [isPc] at owns
      exact normal.goesOn isPc rfl rfl rfl owns rfl rfl rfl
  | closesSrv => exact normal.closesSrv isPc
  | closesExt =>
      exact normal.unbound isPc rfl rfl
        (congrArg (Function.update · id _) (close_tasks _)) (close_spawned _)
        trivial close_bound
  | clearsExt =>
      exact normal.unbound isPc rfl rfl rfl rfl trivial fun none => none
  | clearsSrv =>
      exact normal.unbound isPc rfl rfl rfl rfl trivial fun none => none
  | leaves =>
      exact normal.aside isPc (by rintro ⟨⟩) rfl rfl rfl rfl rfl rfl
        (fun _ _ own => own) rfl

/-- A step of no task. -/
theorem Normal.frame (normal : Normal w) (tasks : w'.tasks = w.tasks)
    (spawned : w'.spawned = w.spawned) (srv : w'.srvSock = w.srvSock)
    (ext : w'.extSock = w.extSock)
    (fds : ∀ fd owner, w.fds fd = some (.dns owner) →
      w'.fds fd = some (.dns owner))
    (bound : w'.bound = w.bound) : Normal w' := by
  refine ⟨?_, ?_, ?_, ?_⟩
  · rw [tasks, spawned]
    exact normal.fresh
  · rw [tasks]
    exact normal.one
  · intro id
    rw [tasks]
    exact (normal.owns id).mono srv ext fun fd => fds fd id
  · rw [tasks, srv, bound]
    exact normal.bound

/-- The watchdog creates a task. -/
theorem Normal.spawn (normal : Normal w)
    (tasks : w'.tasks = Function.update w.tasks w.spawned .created)
    (spawned : w'.spawned = w.spawned + 1) (srv : w'.srvSock = w.srvSock)
    (ext : w'.extSock = w.extSock) (fds : w'.fds = w.fds)
    (bound : w'.bound = w.bound) : Normal w' := by
  have before := normal.fresh w.spawned (Nat.le_refl _)
  have uses : ∀ other, (w'.tasks other).uses = true →
      w'.tasks other = w.tasks other := by
    intro other uses
    rw [tasks] at uses ⊢
    by_cases same : other = w.spawned
    · rw [same, Function.update_self] at uses
      cases uses
    · exact Function.update_of_ne same _ _
  refine ⟨?_, ?_, ?_, ?_⟩
  · intro other late
    rw [spawned] at late
    rw [tasks, Function.update_of_ne (Nat.ne_of_gt late)]
    exact normal.fresh other (Nat.le_of_succ_le late)
  · intro first second isFirst isSecond
    rw [uses first isFirst] at isFirst
    rw [uses second isSecond] at isSecond
    exact normal.one first second isFirst isSecond
  · intro other
    by_cases isUsed : (w'.tasks other).uses = true
    · rw [uses other isUsed]
      exact (normal.owns other).mono srv ext fun fd => by rw [fds]; exact id
    · exact owns_of_unused (Bool.eq_false_iff.mpr isUsed)
  · rw [bound, srv]
    intro fd isBound
    obtain ⟨isSrv, binder, mayBind⟩ := normal.bound fd isBound
    refine ⟨isSrv, binder, ?_⟩
    have apart : binder ≠ w.spawned := by
      rintro rfl
      rw [before] at mayBind
      cases mayBind
    rw [tasks, Function.update_of_ne apart]
    exact mayBind

theorem Normal.watchdogStep (normal : Normal w) (now : UInt32) :
    Normal (w.watchdogStep now) := by
  unfold World.watchdogStep
  cases w.watchdog with
  | idle =>
      dsimp only
      split
      · split
        · exact normal.frame rfl rfl rfl rfl (fun _ _ own => own) rfl
        · exact normal.frame rfl rfl rfl rfl (fun _ _ own => own) rfl
      · exact normal.frame rfl rfl rfl rfl (fun _ _ own => own) rfl
  | signalled => exact normal.frame rfl rfl rfl rfl (fun _ _ own => own) rfl
  | delays => exact normal.spawn rfl rfl rfl rfl rfl rfl
  | started id => exact normal.frame rfl rfl rfl rfl (fun _ _ own => own) rfl

/-- From a normal state a step leads to one, or jams the port. -/
theorem Normal.step (normal : Normal w) {event : Event}
    (possible : Possible w event) (apart : OpensApart w event) :
    Normal (w.step event) ∨ Jammed (w.step event) := by
  cases event with
  | task id fd bindOk now =>
      by_cases opens : w.tasks id = .opensSrv
      · have stepped : w.step (.task id fd bindOk now) =
            { w.own id fd with srvSock := fd }.at' id
              (if fd = none then .leaves else .opensExt) := by
          show w.taskStep id fd bindOk now = _
          unfold World.taskStep
          rw [opens]
        rw [stepped]
        by_cases used : ∃ other, (w.tasks other).uses = true
        · obtain ⟨other, uses⟩ := used
          obtain ⟨closes, bound⟩ := apart opens other uses
          exact Or.inr (normal.jams opens possible.1 closes bound)
        · refine Or.inl (normal.opensSrv opens fun other => ?_)
          exact Bool.eq_false_iff.mpr fun uses => used ⟨other, uses⟩
      · exact Or.inl (normal.taskStep possible opens)
  | watchdog now => exact Or.inl (normal.watchdogStep now)
  | opened fd =>
      have free : w.fds fd = none := possible
      refine Or.inl (normal.frame rfl rfl rfl rfl ?_ rfl)
      intro own owner isOwn
      refine (Function.update_of_ne ?_ _ _).trans isOwn
      rintro rfl
      cases isOwn.symm.trans free
  | closed fd =>
      have others : w.fds fd = some .other := possible
      refine Or.inl (normal.frame rfl rfl rfl rfl ?_ rfl)
      intro own owner isOwn
      refine (Function.update_of_ne ?_ _ _).trans isOwn
      rintro rfl
      cases isOwn.symm.trans others

/-! ## A port that is bound for good -/

/-- No task closes a socket that the globals do not give. -/
theorem Leaked.close {fd owner : Nat} (leaked : Leaked w fd owner)
    {sock : Option Nat} (other : sock ≠ some fd) :
    Leaked (w.close sock) fd owner := by
  obtain ⟨bound, isOpen, notSrv, notExt⟩ := leaked
  cases sock with
  | none => exact ⟨bound, isOpen, notSrv, notExt⟩
  | some closed =>
      have apart : fd ≠ closed := by
        rintro rfl
        exact other rfl
      refine ⟨?_, (Function.update_of_ne apart _ _).trans isOpen, notSrv,
        notExt⟩
      show (if w.bound = some closed then none else w.bound) = some fd
      rw [bound, if_neg (by rintro ⟨⟩; exact apart rfl)]

theorem Leaked.own {fd owner : Nat} (leaked : Leaked w fd owner) (id : Nat)
    {new : Option Nat} (free : ∀ f, new = some f → w.fds f = none) :
    Leaked (w.own id new) fd owner ∧ new ≠ some fd := by
  obtain ⟨bound, isOpen, notSrv, notExt⟩ := leaked
  obtain ⟨kept, other⟩ := own_fds id free isOpen
  refine ⟨⟨(own_bound new).trans bound, kept, ?_, ?_⟩, other⟩
  · rw [own_srvSock]
    exact notSrv
  · rw [own_extSock]
    exact notExt

/-- A task that does not enter its loop leaves the port jammed. -/
theorem Jammed.advance (jammed : Jammed w) (isPc : w.tasks id = before)
    (present : before ≠ .absent)
    (tasks : w'.tasks = Function.update w.tasks id pc)
    (spawned : w'.spawned = w.spawned) (outside : pc.inLoop = false)
    (leaked : ∀ fd owner, Leaked w fd owner → Leaked w' fd owner) :
    Jammed w' := by
  refine ⟨?_, ?_, ?_⟩
  · rw [tasks, spawned]
    exact fresh_update jammed.fresh (isPc ▸ present)
  · obtain ⟨fd, owner, isLeaked⟩ := jammed.leaked
    exact ⟨fd, owner, leaked fd owner isLeaked⟩
  · intro other
    rw [tasks]
    by_cases here : other = id
    · rw [here, Function.update_self]
      exact outside
    · rw [Function.update_of_ne here]
      exact jammed.outside other

theorem Jammed.taskStep (jammed : Jammed w) {fd : Option Nat} {bindOk : Bool}
    {now : UInt32} (possible : Possible w (.task id fd bindOk now)) :
    Jammed (w.taskStep id fd bindOk now) := by
  obtain ⟨free, binds⟩ := possible
  have outside := jammed.outside id
  unfold World.taskStep
  cases isPc : w.tasks id with
  | absent => exact jammed
  | gone => exact jammed
  | created =>
      exact jammed.advance isPc (by rintro ⟨⟩) rfl rfl rfl
        fun _ _ leaked => leaked
  | opensSrv =>
      refine jammed.advance isPc (by rintro ⟨⟩)
        (congrArg (Function.update · id _) (own_tasks fd)) (own_spawned fd) ?_ ?_
      · split
        · rfl
        · rfl
      · intro lost owner leaked
        obtain ⟨⟨bound, isOpen, -, notExt⟩, other⟩ := leaked.own id free
        exact ⟨bound, isOpen, other, notExt⟩
  | opensExt =>
      refine jammed.advance isPc (by rintro ⟨⟩)
        (congrArg (Function.update · id _) (own_tasks fd)) (own_spawned fd) ?_ ?_
      · split
        · rfl
        · rfl
      · intro lost owner leaked
        obtain ⟨⟨bound, isOpen, notSrv, -⟩, other⟩ := leaked.own id free
        exact ⟨bound, isOpen, notSrv, other⟩
  | binds =>
      have refused : ¬ bindOk = true := by
        intro ok
        obtain ⟨lost, owner, leaked⟩ := jammed.leaked
        cases leaked.1.symm.trans (binds isPc ok).1
      dsimp only
      rw [if_neg refused]
      exact jammed.advance isPc (by rintro ⟨⟩) rfl rfl rfl
        fun _ _ leaked => leaked
  | loopTop =>
      rw [isPc] at outside
      cases outside
  | serving =>
      rw [isPc] at outside
      cases outside
  | dropsSrv =>
      exact jammed.advance isPc (by rintro ⟨⟩)
        (congrArg (Function.update · id _) (close_tasks _)) (close_spawned _) rfl
        fun _ _ leaked => leaked.close leaked.2.2.1
  | closesSrv =>
      exact jammed.advance isPc (by rintro ⟨⟩)
        (congrArg (Function.update · id _) (close_tasks _)) (close_spawned _) rfl
        fun _ _ leaked => leaked.close leaked.2.2.1
  | closesExt =>
      exact jammed.advance isPc (by rintro ⟨⟩)
        (congrArg (Function.update · id _) (close_tasks _)) (close_spawned _) rfl
        fun _ _ leaked => leaked.close leaked.2.2.2
  | forgetsSrv =>
      exact jammed.advance isPc (by rintro ⟨⟩) rfl rfl rfl
        fun _ _ leaked => ⟨leaked.1, leaked.2.1, by rintro ⟨⟩, leaked.2.2.2⟩
  | clearsExt =>
      exact jammed.advance isPc (by rintro ⟨⟩) rfl rfl rfl
        fun _ _ leaked => ⟨leaked.1, leaked.2.1, leaked.2.2.1, by rintro ⟨⟩⟩
  | clearsSrv =>
      exact jammed.advance isPc (by rintro ⟨⟩) rfl rfl rfl
        fun _ _ leaked => ⟨leaked.1, leaked.2.1, by rintro ⟨⟩, leaked.2.2.2⟩
  | leaves =>
      exact jammed.advance isPc (by rintro ⟨⟩) rfl rfl rfl
        fun _ _ leaked => leaked

/-- A step of no task. -/
theorem Jammed.frame (jammed : Jammed w) (tasks : w'.tasks = w.tasks)
    (spawned : w'.spawned = w.spawned)
    (leaked : ∀ fd owner, Leaked w fd owner → Leaked w' fd owner) :
    Jammed w' := by
  obtain ⟨fd, owner, isLeaked⟩ := jammed.leaked
  refine ⟨?_, ⟨fd, owner, leaked fd owner isLeaked⟩, ?_⟩
  · rw [tasks, spawned]
    exact jammed.fresh
  · rw [tasks]
    exact jammed.outside

theorem Jammed.watchdogStep (jammed : Jammed w) (now : UInt32) :
    Jammed (w.watchdogStep now) := by
  unfold World.watchdogStep
  cases w.watchdog with
  | idle =>
      dsimp only
      split
      · split
        · exact jammed.frame rfl rfl fun _ _ leaked => leaked
        · exact jammed.frame rfl rfl fun _ _ leaked => leaked
      · exact jammed.frame rfl rfl fun _ _ leaked => leaked
  | signalled => exact jammed.frame rfl rfl fun _ _ leaked => leaked
  | delays =>
      refine ⟨?_, jammed.leaked, ?_⟩
      · intro other late
        refine (Function.update_of_ne (Nat.ne_of_gt late) _ _).trans ?_
        exact jammed.fresh other (Nat.le_of_succ_le late)
      · intro other
        show (Function.update w.tasks w.spawned .created other).inLoop = false
        by_cases here : other = w.spawned
        · rw [here, Function.update_self]
          rfl
        · rw [Function.update_of_ne here]
          exact jammed.outside other
  | started id => exact jammed.frame rfl rfl fun _ _ leaked => leaked

/-- A jammed port stays jammed. -/
theorem Jammed.step (jammed : Jammed w) {event : Event}
    (possible : Possible w event) : Jammed (w.step event) := by
  cases event with
  | task id fd bindOk now => exact jammed.taskStep possible
  | watchdog now => exact jammed.watchdogStep now
  | opened fd =>
      have free : w.fds fd = none := possible
      refine jammed.frame rfl rfl ?_
      rintro lost owner ⟨bound, isOpen, notSrv, notExt⟩
      refine ⟨bound, (Function.update_of_ne ?_ _ _).trans isOpen, notSrv,
        notExt⟩
      rintro rfl
      cases isOpen.symm.trans free
  | closed fd =>
      have others : w.fds fd = some .other := possible
      refine jammed.frame rfl rfl ?_
      rintro lost owner ⟨bound, isOpen, notSrv, notExt⟩
      refine ⟨bound, (Function.update_of_ne ?_ _ _).trans isOpen, notSrv,
        notExt⟩
      rintro rfl
      cases isOpen.symm.trans others

theorem start_unused (id : Nat) : (World.start.tasks id).uses = false := by
  cases id with
  | zero => rfl
  | succ id => rfl

theorem start_normal : Normal World.start where
  fresh id late := by
    cases id with
    | zero => exact absurd late (by decide)
    | succ id => rfl
  one first second isFirst := by
    rw [start_unused first] at isFirst
    cases isFirst
  owns id := owns_of_unused (start_unused id)
  bound fd isBound := by cases isBound

end Invariant

/-- At most one task is in its loop, and uses two open sockets that it opened, in
every run in which each task opens its first socket apart from the others. -/
theorem tasks_loopOwn {events : List Event}
    (possible : Along World.step Possible World.start events)
    (apart : Along World.step OpensApart World.start events) :
    ∀ earlier, earlier <+: events →
      LoopsOwn (run World.step World.start earlier) := by
  rintro earlier ⟨later, rfl⟩
  have invariant : Normal (run World.step World.start earlier) ∨
      Jammed (run World.step World.start earlier) :=
    run_invariant_along (fun w => Normal w ∨ Jammed w)
      (fun _ _ invariant allowed => invariant.elim
        (fun normal => normal.step allowed.1 allowed.2)
        (fun jammed => Or.inr (jammed.step allowed.1)))
      (Or.inl start_normal)
      (((along_append _ _ _).mp possible).1.and
        ((along_append _ _ _).mp apart).1)
  exact invariant.elim Normal.loopsOwn Jammed.loopsOwn

section Example

/-- The first task reaches its loop. -/
def booted : List Event :=
  [.watchdog 0, .task 0 none true 0, .task 0 (some 3) true 0,
    .task 0 (some 4) true 0, .task 0 none true 0, .task 0 none true 100]

theorem possible_quiet {w : World} {id : Nat} {bindOk : Bool} {now : UInt32}
    (notBinds : w.tasks id ≠ .binds) : Possible w (.task id none bindOk now) :=
  ⟨by rintro free ⟨⟩, fun isBinds => absurd isBinds notBinds⟩

theorem possible_socket {w : World} {id fd : Nat} {bindOk : Bool} {now : UInt32}
    (notBinds : w.tasks id ≠ .binds) (free : w.fds fd = none) :
    Possible w (.task id (some fd) bindOk now) := by
  refine ⟨?_, fun isBinds => absurd isBinds notBinds⟩
  rintro _ ⟨⟩
  exact free

theorem booted_possible :
    Along World.step Possible World.start booted := by
  refine ⟨trivial, possible_quiet (by decide), possible_socket (by decide) rfl,
    possible_socket (by decide) rfl, ⟨?_, ?_⟩, possible_quiet (by decide),
    trivial⟩
  · rintro free ⟨⟩
  · exact fun _ _ => ⟨rfl, 3, rfl, by decide⟩

theorem tasks_loopOwn_booted :
    OwnsBoth (run World.step World.start booted) 0 := by
  have apart : Along World.step OpensApart World.start booted := by
    refine ⟨trivial, ?_, ?_, ?_, ?_, ?_, trivial⟩
    · rintro ⟨⟩
    · intro _ other uses
      cases other with
      | zero => cases uses
      | succ other => cases uses
    · rintro ⟨⟩
    · rintro ⟨⟩
    · rintro ⟨⟩
  exact (tasks_loopOwn booted_possible apart booted List.prefix_rfl).own 0 rfl

/-- The task hangs and misses the flag. Its replacement cannot bind, and the
task goes on once that is gone. -/
def resumed : List Event :=
  [.watchdog 16000, .watchdog 21000, .watchdog 21000, .watchdog 22500,
    .watchdog 22500, .task 1 none true 22500, .task 1 (some 5) true 22500,
    .task 1 (some 6) true 22500, .task 1 none false 22500,
    .task 1 none true 22500, .task 1 none true 22500, .task 1 none true 22500,
    .task 1 none true 22500, .task 0 none true 30000, .task 0 none true 30000]

theorem resumed_possible :
    Along World.step Possible (run World.step World.start booted) resumed := by
  refine ⟨trivial, trivial, trivial, trivial, trivial,
    possible_quiet (by decide), possible_socket (by decide) rfl,
    possible_socket (by decide) rfl, ⟨?_, ?_⟩, possible_quiet (by decide),
    possible_quiet (by decide), possible_quiet (by decide),
    possible_quiet (by decide), possible_quiet (by decide),
    possible_quiet (by decide), trivial⟩
  · rintro free ⟨⟩
  · rintro _ ⟨⟩

theorem resumed_loopsClosed :
    Along World.step Possible World.start (booted ++ resumed) ∧
      (run World.step World.start (booted ++ resumed)).tasks 0 = .serving ∧
      (run World.step World.start (booted ++ resumed)).srvSock = none ∧
      ¬ LoopsOwn (run World.step World.start (booted ++ resumed)) := by
  have closed :
      (run World.step World.start (booted ++ resumed)).srvSock = none := by
    decide
  refine ⟨(along_append _ _ _).mpr ⟨booted_possible, resumed_possible⟩,
    by decide, closed, ?_⟩
  intro loopsOwn
  obtain ⟨srv, -, isSrv, -⟩ := loopsOwn.own 0 (by decide)
  cases closed.symm.trans isSrv

end Example

end VeteraBridge.Dns.Restart

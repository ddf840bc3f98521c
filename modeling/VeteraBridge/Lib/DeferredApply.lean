import VeteraBridge.Lib.EventRun

/-!
# A setting that another task applies

A setting is stored on one task and applied on another.  The setter stores the
value and raises a flag under a lock, and later, unless it found the flag
raised, puts a registration on the worker's list.  The worker takes the
registration off, lowers the flag, reads the value and applies it; it may also
read and apply it on its own account.

The registration is on the list at most once.  From the worker's first read on,
a worker at rest with an empty list has applied the value stored last, unless a
setter has still to put the registration there.
-/

namespace DeferredApply

open EventRun

universe u

inductive Setter where
  | idle
  /-- the value is stored; what the flag was found to be -/
  | stored (already : Bool)
deriving DecidableEq, Repr

inductive Worker (Value : Type u) where
  | idle
  /-- the registration is off the list -/
  | taken
  /-- the flag is lowered: read the value -/
  | reads
  | applies (value : Value)

structure State (Value : Type u) where
  value : Value
  pending : Bool
  /-- how often the registration is on the list -/
  queued : Nat
  setter : Setter
  worker : Worker Value
  /-- what was applied last -/
  applied : Option Value

inductive Event (Value : Type u) where
  | set (value : Value)
  /-- the setter ends -/
  | handOver
  /-- the worker takes the registration off the list -/
  | take
  /-- the worker applies on its own account -/
  | start
  /-- the worker goes on -/
  | work

variable {Value : Type u}

/-- The setter will put the registration on the list. -/
def Setter.owed : Setter → Nat
  | .stored false => 1
  | _ => 0

/-- The worker has yet to lower the flag. -/
def Worker.held : Worker Value → Nat
  | .taken => 1
  | _ => 0

/-- What the worker leaves applied, when nothing is set, is `value`. -/
def Worker.Sees (applied : Option Value) (value : Value) : Worker Value → Prop
  | .idle => applied = some value
  | .taken => True
  | .reads => True
  | .applies read => read = value

namespace State

def start (value : Value) : State Value where
  value := value
  pending := false
  queued := 0
  setter := .idle
  worker := .idle
  applied := none

/-- The setter stores a value and raises the flag. -/
def set (s : State Value) (value : Value) : State Value :=
  match s.setter with
  | .idle =>
    { s with value := value, pending := true, setter := .stored s.pending }
  | .stored _ => s

def handOver (s : State Value) : State Value :=
  match s.setter with
  | .idle => s
  | .stored true => { s with setter := .idle }
  | .stored false => { s with setter := .idle, queued := s.queued + 1 }

def take (s : State Value) : State Value :=
  match s.worker, s.queued with
  | .idle, queued + 1 => { s with queued := queued, worker := .taken }
  | _, _ => s

def beginRead (s : State Value) : State Value :=
  match s.worker with
  | .idle => { s with worker := .reads }
  | _ => s

def work (s : State Value) : State Value :=
  match s.worker with
  | .idle => s
  | .taken => { s with pending := false, worker := .reads }
  | .reads => { s with worker := .applies s.value }
  | .applies read => { s with applied := some read, worker := .idle }

def step (s : State Value) : Event Value → State Value
  | .set value => s.set value
  | .handOver => s.handOver
  | .take => s.take
  | .start => s.beginRead
  | .work => s.work

/-- The registration is owed, listed or held once if the flag is raised, and
otherwise nowhere. -/
def Registered (s : State Value) : Prop :=
  s.setter.owed + s.queued + s.worker.held = s.pending.toNat

/-- The value stored is applied, or is going to be. -/
def Fresh (s : State Value) : Prop :=
  s.pending = true ∨ s.worker.Sees s.applied s.value

theorem start_registered (value : Value) : (start value).Registered := rfl

section Step

variable {s : State Value}

theorem Registered.queued_le (registered : s.Registered) : s.queued ≤ 1 := by
  have once := Bool.toNat_le s.pending
  unfold Registered at registered
  omega

theorem Registered.pending_of_queued (registered : s.Registered)
    (queued : 0 < s.queued) : s.pending = true := by
  rw [Registered] at registered
  cases pending : s.pending with
  | true => rfl
  | false =>
      rw [pending, Bool.toNat_false] at registered
      omega

theorem Registered.set (registered : s.Registered) (value : Value) :
    (s.set value).Registered := by
  unfold State.set
  split
  · rename_i setter
    rw [Registered, setter] at registered
    cases pending : s.pending with
    | true =>
        rw [pending] at registered
        exact registered
    | false =>
        rw [pending] at registered
        simp only [Setter.owed, Bool.toNat_false] at registered
        simp only [Registered, Setter.owed, Bool.toNat_true]
        omega
  · exact registered

theorem Registered.handOver (registered : s.Registered) :
    s.handOver.Registered := by
  unfold State.handOver
  split
  · exact registered
  · rename_i setter
    rw [Registered, setter] at registered
    exact registered
  · rename_i setter
    rw [Registered, setter] at registered
    simp only [Setter.owed] at registered
    simp only [Registered, Setter.owed]
    omega

theorem Registered.take (registered : s.Registered) : s.take.Registered := by
  unfold State.take
  split
  · rename_i queued worker listed
    rw [Registered, worker, listed] at registered
    simp only [Worker.held] at registered
    simp only [Registered, Worker.held]
    omega
  · exact registered

theorem Registered.beginRead (registered : s.Registered) :
    s.beginRead.Registered := by
  unfold State.beginRead
  split
  · rename_i worker
    rw [Registered, worker] at registered
    exact registered
  · exact registered

/-- The worker lowers the flag once the registration is off the list. -/
theorem Registered.work (registered : s.Registered) : s.work.Registered := by
  unfold State.work
  split
  · exact registered
  · rename_i worker
    have once := Bool.toNat_le s.pending
    rw [Registered, worker] at registered
    simp only [Worker.held] at registered
    simp only [Registered, Worker.held, Bool.toNat_false]
    omega
  · rename_i worker
    rw [Registered, worker] at registered
    exact registered
  · rename_i worker
    rw [Registered, worker] at registered
    exact registered

theorem Registered.step (registered : s.Registered) (event : Event Value) :
    (s.step event).Registered := by
  cases event with
  | set value => exact registered.set value
  | handOver => exact registered.handOver
  | take => exact registered.take
  | start => exact registered.beginRead
  | work => exact registered.work

theorem Fresh.set (fresh : s.Fresh) (value : Value) : (s.set value).Fresh := by
  unfold State.set
  split
  · exact Or.inl rfl
  · exact fresh

theorem Fresh.handOver (fresh : s.Fresh) : s.handOver.Fresh := by
  unfold State.handOver
  split
  · exact fresh
  · exact fresh
  · exact fresh

/-- What is taken off the list has its flag raised. -/
theorem Fresh.take (fresh : s.Fresh) (registered : s.Registered) :
    s.take.Fresh := by
  unfold State.take
  split
  · rename_i queued _ listed
    exact Or.inl (registered.pending_of_queued (by omega))
  · exact fresh

theorem Fresh.beginRead (fresh : s.Fresh) : s.beginRead.Fresh := by
  unfold State.beginRead
  split
  · exact Or.inr trivial
  · exact fresh

/-- The value is read after the flag is lowered: what is stored later raises it
again. -/
theorem Fresh.work (fresh : s.Fresh) : s.work.Fresh := by
  unfold State.work
  split
  · exact fresh
  · exact Or.inr trivial
  · exact Or.inr rfl
  · rename_i read worker
    rcases fresh with pending | sees
    · exact Or.inl pending
    · rw [worker] at sees
      exact Or.inr (congrArg some sees)

theorem Fresh.step (fresh : s.Fresh) (registered : s.Registered)
    (event : Event Value) : (s.step event).Fresh := by
  cases event with
  | set value => exact fresh.set value
  | handOver => exact fresh.handOver
  | take => exact fresh.take registered
  | start => exact fresh.beginRead
  | work => exact fresh.work

/-- A worker that has read the value, or is about to, leaves it applied. -/
theorem fresh_of_reads (reads : s.worker = .reads) : s.Fresh := by
  rw [Fresh, reads]
  exact Or.inr trivial

/-- At rest, with nothing listed or owed, the value stored is applied. -/
theorem Fresh.settled (fresh : s.Fresh) (registered : s.Registered)
    (setter : s.setter = .idle) (queued : s.queued = 0)
    (worker : s.worker = .idle) : s.applied = some s.value := by
  rcases fresh with pending | sees
  · rw [Registered, setter, queued, worker, pending] at registered
    cases registered
  · rwa [worker] at sees

theorem set_of_idle (setter : s.setter = .idle) (value : Value) :
    s.set value =
      { s with
        value := value, pending := true, setter := .stored s.pending } := by
  simp only [State.set, setter]

theorem handOver_of_already (setter : s.setter = .stored true) :
    s.handOver = { s with setter := .idle } := by
  simp only [State.handOver, setter]

theorem handOver_of_stored (setter : s.setter = .stored false) :
    s.handOver = { s with setter := .idle, queued := s.queued + 1 } := by
  simp only [State.handOver, setter]

theorem take_of_idle {queued : Nat} (worker : s.worker = .idle)
    (listed : s.queued = queued + 1) :
    s.take = { s with queued := queued, worker := .taken } := by
  simp only [State.take, worker, listed]

theorem beginRead_of_idle (worker : s.worker = .idle) :
    s.beginRead = { s with worker := .reads } := by
  simp only [State.beginRead, worker]

theorem work_of_taken (worker : s.worker = .taken) :
    s.work = { s with pending := false, worker := .reads } := by
  simp only [State.work, worker]

theorem work_of_reads (worker : s.worker = .reads) :
    s.work = { s with worker := .applies s.value } := by
  simp only [State.work, worker]

theorem work_of_applies {read : Value} (worker : s.worker = .applies read) :
    s.work = { s with applied := some read, worker := .idle } := by
  simp only [State.work, worker]

end Step

/-- One or more steps of the abstract setting, or none. -/
abbrev Leads (s after : State Value) : Prop :=
  Reachable State.step s after

theorem Leads.step (s : State Value) (event : Event Value) :
    s.Leads (s.step event) :=
  (Reachable.refl s).next event

theorem Registered.leads {s after : State Value} (registered : s.Registered)
    (leads : s.Leads after) : after.Registered :=
  leads.invariant Registered (fun _ event holds => holds.step event) registered

theorem Fresh.leads {s after : State Value} (fresh : s.Fresh)
    (registered : s.Registered) (leads : s.Leads after) : after.Fresh :=
  (leads.invariant (fun s => s.Fresh ∧ s.Registered)
    (fun _ event holds => ⟨holds.1.step holds.2 event, holds.2.step event⟩)
    ⟨fresh, registered⟩).1

end State

end DeferredApply

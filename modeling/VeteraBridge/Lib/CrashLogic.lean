import Mathlib.Data.List.Basic

/-!
# Programs over a store that may fail or lose power

A program reads a store and writes to it, one write a step.  What becomes of
each write is up to the environment: it succeeds, it fails and leaves the store
as it was, or the power is cut before it.

`Prog.Meets` says what holds of a program when it ends and wherever the power
may be cut.  Its first argument tells whether the store may fault at all, so
one specification of a program serves a healthy store and a failing one.
-/

namespace CrashLogic

universe u v w

/-- A program that ends, reads the store, or writes to it and learns whether
the write succeeded. -/
inductive Prog (Store : Type u) (Result : Type v) where
  | done (result : Result)
  | read (next : Store → Prog Store Result)
  | write (effect : Store → Store) (next : Bool → Prog Store Result)

/-- What becomes of a write. -/
inductive Outcome where
  | succeeds
  | fails
  | cut
deriving DecidableEq, Repr

namespace Prog

variable {Store : Type u} {Result : Type v} {Next : Type v}

def bind (prog : Prog Store Result) (next : Result → Prog Store Next) :
    Prog Store Next :=
  match prog with
  | done result => next result
  | read rest => read fun store => (rest store).bind next
  | write effect rest => write effect fun succeeded => (rest succeeded).bind next

instance : Monad (Prog Store) where
  pure := done
  bind := bind

@[simp]
theorem pure_eq (result : Result) :
    (pure result : Prog Store Result) = done result := rfl

@[simp]
theorem done_bind (result : Result) (next : Result → Prog Store Next) :
    (done result >>= next) = next result := rfl

@[simp]
theorem read_bind (rest : Store → Prog Store Result)
    (next : Result → Prog Store Next) :
    (read rest >>= next) = read fun store => rest store >>= next := rfl

@[simp]
theorem write_bind (effect : Store → Store) (rest : Bool → Prog Store Result)
    (next : Result → Prog Store Next) :
    (write effect rest >>= next) =
      write effect fun succeeded => rest succeeded >>= next := rfl

/-- What a program read from the store. -/
def reads (view : Store → Result) : Prog Store Result :=
  read fun store => done (view store)

/-- A single write, with its success as the result. -/
def writes {Store : Type u} (effect : Store → Store) : Prog Store Bool :=
  write effect done

/-- Runs a program under a plan of what becomes of its writes.  The writes
behind the plan succeed; there is no result when the power is cut. -/
def run : Prog Store Result → List Outcome → Store → Option Result × Store
  | done result, plan, store =>
      (if plan.head? = some .cut then none else some result, store)
  | read next, plan, store => (next store).run plan store
  | write effect next, [], store => (next true).run [] (effect store)
  | write effect next, .succeeds :: later, store =>
      (next true).run later (effect store)
  | write _ next, .fails :: later, store => (next false).run later store
  | write _ _, .cut :: _, store => (none, store)

/-- The program ends with `ends`, whatever becomes of its writes, and `crash`
holds wherever the power is cut.  Without `faults` every write succeeds. -/
def Meets (faults : Prop) (crash : Store → Prop)
    (ends : Result → Store → Prop) : Prog Store Result → Store → Prop
  | done result, store => ends result store
  | read next, store => (next store).Meets faults crash ends store
  | write effect next, store =>
      (next true).Meets faults crash ends (effect store) ∧
        (faults → crash store ∧ (next false).Meets faults crash ends store)

section Rules

variable {faults : Prop} {crash : Store → Prop} {ends : Result → Store → Prop}

@[simp]
theorem meets_done (result : Result) (store : Store) :
    (done result).Meets faults crash ends store ↔ ends result store := Iff.rfl

@[simp]
theorem meets_read (next : Store → Prog Store Result) (store : Store) :
    (read next).Meets faults crash ends store ↔
      (next store).Meets faults crash ends store := Iff.rfl

@[simp]
theorem meets_write (effect : Store → Store) (next : Bool → Prog Store Result)
    (store : Store) :
    (write effect next).Meets faults crash ends store ↔
      (next true).Meets faults crash ends (effect store) ∧
        (faults → crash store ∧ (next false).Meets faults crash ends store) :=
  Iff.rfl

/-- What a program meets may be weakened. -/
theorem Meets.mono {weakerCrash : Store → Prop}
    {weakerEnds : Result → Store → Prop} {prog : Prog Store Result}
    {store : Store} (meets : prog.Meets faults crash ends store)
    (weakenCrash : ∀ store, crash store → weakerCrash store)
    (weakenEnds : ∀ result store, ends result store → weakerEnds result store) :
    prog.Meets faults weakerCrash weakerEnds store := by
  induction prog generalizing store with
  | done result =>
      exact weakenEnds result store meets
  | read next inductionHypothesis =>
      exact inductionHypothesis store meets
  | write effect next inductionHypothesis =>
      obtain ⟨succeeded, failed⟩ := meets
      refine ⟨inductionHypothesis true succeeded, ?_⟩
      intro faulty
      exact ⟨weakenCrash store (failed faulty).1,
        inductionHypothesis false (failed faulty).2⟩

/-- Programs in sequence. -/
theorem Meets.bind (between : Result → Store → Prop)
    {after : Next → Store → Prop} {prog : Prog Store Result}
    {next : Result → Prog Store Next} {store : Store}
    (first : prog.Meets faults crash between store)
    (second :
      ∀ result store, between result store →
        (next result).Meets faults crash after store) :
    (prog >>= next).Meets faults crash after store := by
  induction prog generalizing store with
  | done result =>
      exact second result store first
  | read rest inductionHypothesis =>
      exact inductionHypothesis store first
  | write effect rest inductionHypothesis =>
      obtain ⟨succeeded, failed⟩ := first
      refine ⟨inductionHypothesis true succeeded, ?_⟩
      intro faulty
      exact ⟨(failed faulty).1, inductionHypothesis false (failed faulty).2⟩

/-- What a program meets holds of each of its runs. -/
theorem Meets.of_run {prog : Prog Store Result} {store : Store}
    (meets : prog.Meets True crash ends store)
    (crashes : ∀ result store, ends result store → crash store)
    (plan : List Outcome) :
    (∀ result, (prog.run plan store).1 = some result →
      ends result (prog.run plan store).2) ∧
    ((prog.run plan store).1 = none → crash (prog.run plan store).2) := by
  induction prog generalizing store plan with
  | done result =>
      by_cases cutOff : plan.head? = some Outcome.cut
      · simpa [run, cutOff] using crashes result store meets
      · simpa [run, cutOff] using meets
  | read next inductionHypothesis =>
      exact inductionHypothesis store meets plan
  | write effect next inductionHypothesis =>
      obtain ⟨succeeded, failed⟩ := meets
      rcases plan with _ | ⟨outcome, later⟩
      · exact inductionHypothesis true succeeded []
      · cases outcome with
        | succeeds =>
            exact inductionHypothesis true succeeded later
        | fails =>
            exact inductionHypothesis false (failed trivial).2 later
        | cut =>
            simpa [run] using (failed trivial).1

/-- A program whose power is not cut ends. -/
theorem Meets.of_uncut_run {prog : Prog Store Result} {store : Store}
    (meets : prog.Meets True crash ends store) {plan : List Outcome}
    (uncut : Outcome.cut ∉ plan) :
    ∃ result reached,
      prog.run plan store = (some result, reached) ∧ ends result reached := by
  induction prog generalizing plan store with
  | done result =>
      have head : plan.head? ≠ some Outcome.cut :=
        fun isCut => uncut (List.mem_of_head? isCut)
      exact ⟨result, store, by simp [run, head], meets⟩
  | read next inductionHypothesis =>
      exact inductionHypothesis store meets uncut
  | write effect next inductionHypothesis =>
      obtain ⟨succeeded, failed⟩ := meets
      rcases plan with _ | ⟨outcome, later⟩
      · exact inductionHypothesis true succeeded uncut
      · have rest : Outcome.cut ∉ later :=
          fun member => uncut (List.mem_cons_of_mem outcome member)
        cases outcome with
        | succeeds =>
            exact inductionHypothesis true succeeded rest
        | fails =>
            exact inductionHypothesis false (failed trivial).2 rest
        | cut =>
            exact absurd List.mem_cons_self uncut

/-- On a healthy store a program ends. -/
theorem Meets.of_healthy_run {prog : Prog Store Result} {store : Store}
    (meets : prog.Meets False crash ends store) :
    ∃ result reached,
      prog.run [] store = (some result, reached) ∧ ends result reached := by
  induction prog generalizing store with
  | done result =>
      exact ⟨result, store, rfl, meets⟩
  | read next inductionHypothesis =>
      exact inductionHypothesis store meets
  | write effect next inductionHypothesis =>
      exact inductionHypothesis true meets.1

end Rules

/-- Writes that are planned to succeed are the same as writes that are not
planned. -/
theorem run_of_healthy (prog : Prog Store Result) {plan : List Outcome}
    (healthy : ∀ outcome ∈ plan, outcome = .succeeds) (store : Store) :
    prog.run plan store = prog.run [] store := by
  induction prog generalizing plan store with
  | done result =>
      have head : plan.head? ≠ some Outcome.cut := by
        intro isCut
        cases healthy Outcome.cut (List.mem_of_head? isCut)
      simp [run, head]
  | read next inductionHypothesis =>
      exact inductionHypothesis store healthy store
  | write effect next inductionHypothesis =>
      rcases plan with _ | ⟨outcome, later⟩
      · rfl
      · obtain rfl := healthy outcome List.mem_cons_self
        exact inductionHypothesis true
          (fun outcome member =>
            healthy outcome (List.mem_cons_of_mem Outcome.succeeds member))
          (effect store)

end Prog

end CrashLogic

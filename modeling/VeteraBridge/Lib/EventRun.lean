import Mathlib.Data.List.Infix

/-!
# Runs of an event-driven system

A system is a state type, an event type and a total step function.  Every
choice the environment makes is carried by the event, so a run is a fold and
a schedule is a list.

Two induction rules are packaged here.  `run_invariant` is for a predicate
every step preserves.  `run_invariant_along` is for a predicate that a step
preserves only when the event meets a side condition in the state it is taken
from; `Along` states that side condition for a whole schedule.
-/

namespace EventRun

universe u v

variable {State : Type u} {Event : Type v}

/-- The state a schedule leads to. -/
def run (step : State → Event → State) (start : State) (events : List Event) :
    State :=
  events.foldl step start

variable {step : State → Event → State}

@[simp]
theorem run_nil (start : State) : run step start [] = start := rfl

@[simp]
theorem run_cons (start : State) (event : Event) (rest : List Event) :
    run step start (event :: rest) = run step (step start event) rest := rfl

theorem run_append (start : State) (first second : List Event) :
    run step start (first ++ second) =
      run step (run step start first) second := by
  exact List.foldl_append

theorem run_snoc (start : State) (events : List Event) (event : Event) :
    run step start (events ++ [event]) = step (run step start events) event := by
  rw [run_append, run_cons, run_nil]

/-- A predicate every step preserves holds along the whole run. -/
theorem run_invariant (Holds : State → Prop)
    (preserved : ∀ state event, Holds state → Holds (step state event))
    {start : State} (initially : Holds start) (events : List Event) :
    Holds (run step start events) := by
  induction events generalizing start with
  | nil =>
      exact initially
  | cons event rest inductionHypothesis =>
      rw [run_cons]
      exact inductionHypothesis (preserved start event initially)

/-- Every event of the schedule meets `Allowed` in the state it is taken
from. -/
def Along (step : State → Event → State) (Allowed : State → Event → Prop) :
    State → List Event → Prop
  | _, [] => True
  | start, event :: rest =>
      Allowed start event ∧ Along step Allowed (step start event) rest

variable {Allowed : State → Event → Prop}

@[simp]
theorem along_nil (start : State) : Along step Allowed start [] := trivial

@[simp]
theorem along_cons (start : State) (event : Event) (rest : List Event) :
    Along step Allowed start (event :: rest) ↔
      Allowed start event ∧ Along step Allowed (step start event) rest :=
  Iff.rfl

theorem along_append (start : State) (first second : List Event) :
    Along step Allowed start (first ++ second) ↔
      Along step Allowed start first ∧
        Along step Allowed (run step start first) second := by
  induction first generalizing start with
  | nil =>
      simp
  | cons event rest inductionHypothesis =>
      rw [List.cons_append, along_cons, along_cons, run_cons,
        inductionHypothesis, and_assoc]

theorem Along.mono {Weaker : State → Event → Prop}
    (weaken : ∀ state event, Allowed state event → Weaker state event)
    {start : State} {events : List Event}
    (allowed : Along step Allowed start events) :
    Along step Weaker start events := by
  induction events generalizing start with
  | nil =>
      exact along_nil start
  | cons event rest inductionHypothesis =>
      exact ⟨weaken start event allowed.1, inductionHypothesis allowed.2⟩

/-- Two side conditions of one schedule. -/
theorem Along.and {Also : State → Event → Prop} {start : State}
    {events : List Event} (along : Along step Allowed start events)
    (also : Along step Also start events) :
    Along step (fun state event => Allowed state event ∧ Also state event) start
      events := by
  induction events generalizing start with
  | nil =>
      exact along_nil start
  | cons event rest inductionHypothesis =>
      exact
        ⟨⟨along.1, also.1⟩, inductionHypothesis along.2 also.2⟩

/-- What is true of each event of a schedule is true of each step. -/
theorem Along.with_each {Each : Event → Prop} {start : State}
    {events : List Event} (along : Along step Allowed start events)
    (each : ∀ event ∈ events, Each event) :
    Along step (fun state event => Each event ∧ Allowed state event) start
      events := by
  induction events generalizing start with
  | nil =>
      exact along_nil start
  | cons event rest inductionHypothesis =>
      refine ⟨⟨each event List.mem_cons_self, along.1⟩, ?_⟩
      apply inductionHypothesis along.2
      exact fun later member => each later (List.mem_cons_of_mem event member)

/-- A predicate that every allowed step preserves holds at the end of a run
whose steps are all allowed. -/
theorem run_invariant_along (Holds : State → Prop)
    (preserved :
      ∀ state event, Holds state → Allowed state event →
        Holds (step state event))
    {start : State} (initially : Holds start) {events : List Event}
    (allowed : Along step Allowed start events) :
    Holds (run step start events) := by
  induction events generalizing start with
  | nil =>
      exact initially
  | cons event rest inductionHypothesis =>
      rw [run_cons]
      exact
        inductionHypothesis
          (preserved start event initially allowed.1) allowed.2

/-- A schedule may always do what is not restricted. -/
theorem along_of_forall (allowed : ∀ state event, Allowed state event)
    (start : State) (events : List Event) : Along step Allowed start events := by
  induction events generalizing start with
  | nil =>
      exact along_nil start
  | cons event rest inductionHypothesis =>
      exact ⟨allowed start event, inductionHypothesis (step start event)⟩

/-- A property holds all along a possible run exactly when all its steps are
allowed: an invariant that implies it is preserved by allowed steps, and a step
that keeps the property is allowed. -/
theorem throughout_iff_along {Possible : State → Event → Prop}
    (Invariant Property : State → Prop)
    (sound : ∀ state, Invariant state → Property state)
    (preserved :
      ∀ state event, Invariant state → Possible state event →
        Allowed state event → Invariant (step state event))
    (needed :
      ∀ state event, Invariant state → Possible state event →
        Property (step state event) → Allowed state event)
    {start : State} (initially : Invariant start) {events : List Event}
    (possible : Along step Possible start events) :
    (∀ earlier, earlier <+: events → Property (run step start earlier)) ↔
      Along step Allowed start events := by
  induction events generalizing start with
  | nil =>
      constructor
      · exact fun _ => along_nil start
      · intro _ earlier before
        rw [List.prefix_nil.mp before]
        exact sound start initially
  | cons event rest inductionHypothesis =>
      obtain ⟨now, later⟩ := possible
      constructor
      · intro throughout
        have next : Property (step start event) :=
          throughout [event] ((List.prefix_cons_inj event).mpr List.nil_prefix)
        have allowed := needed start event initially now next
        refine ⟨allowed, ?_⟩
        apply
          (inductionHypothesis (preserved start event initially now allowed)
            later).mp
        intro earlier before
        exact throughout (event :: earlier)
          ((List.prefix_cons_inj event).mpr before)
      · rintro ⟨allowed, along⟩ earlier before
        have next := preserved start event initially now allowed
        rcases List.prefix_cons_iff.mp before with rfl | ⟨tail, rfl, inner⟩
        · exact sound start initially
        · exact (inductionHypothesis next later).mpr along tail inner

/-- A predicate that a step preserves exactly when it is allowed holds all along
a run exactly when all its steps are allowed. -/
theorem holds_throughout_iff (Holds : State → Prop)
    (exact' :
      ∀ state event, Holds state →
        (Holds (step state event) ↔ Allowed state event))
    {start : State} (initially : Holds start) (events : List Event) :
    (∀ earlier, earlier <+: events → Holds (run step start earlier)) ↔
      Along step Allowed start events := by
  have along : Along step (fun _ _ => True) start events :=
    along_of_forall (fun _ _ => trivial) start events
  refine throughout_iff_along Holds Holds ?_ ?_ ?_ initially along
  · exact fun state holds => holds
  · exact fun state event holds _ allowed =>
      (exact' state event holds).mpr allowed
  · exact fun state event holds _ next => (exact' state event holds).mp next

/-- Two side conditions that agree in the states an invariant allows agree
along a run, when the invariant is kept by steps that meet the second. -/
theorem along_iff_along {Also : State → Event → Prop}
    (Invariant : State → Prop)
    (agree :
      ∀ state event, Invariant state → (Allowed state event ↔ Also state event))
    (preserved :
      ∀ state event, Invariant state → Also state event →
        Invariant (step state event))
    {start : State} (initially : Invariant start) (events : List Event) :
    Along step Allowed start events ↔ Along step Also start events := by
  induction events generalizing start with
  | nil =>
      exact Iff.rfl
  | cons event rest inductionHypothesis =>
      rw [along_cons, along_cons, agree start event initially]
      apply and_congr_right
      intro also
      exact inductionHypothesis (preserved start event initially also)

/-! ## What a run puts out -/

section Outputs

universe w

variable {Output : Type w} (out : State → Event → Option Output)

/-- What the steps of a run put out, in order. -/
def outputs (step : State → Event → State) :
    State → List Event → List Output
  | _, [] => []
  | start, event :: rest =>
      (out start event).toList ++ outputs step (step start event) rest

variable {out}

/-- Steps that put out what their events say. -/
theorem outputs_eq_filterMap (Holds : State → Prop)
    (said : Event → Option Output)
    (preserved :
      ∀ state event, Holds state → Allowed state event →
        Holds (step state event))
    (puts :
      ∀ state event, Holds state → Allowed state event →
        out state event = said event)
    {start : State} (initially : Holds start) {events : List Event}
    (allowed : Along step Allowed start events) :
    outputs out step start events = events.filterMap said := by
  induction events generalizing start with
  | nil =>
      rfl
  | cons event rest inductionHypothesis =>
      have next := preserved start event initially allowed.1
      rw [outputs, puts start event initially allowed.1,
        inductionHypothesis next allowed.2, List.filterMap_cons]
      cases said event with
      | none => rfl
      | some output => rfl

end Outputs

/-- The states a system can reach from `start`. -/
def Reachable (step : State → Event → State) (start target : State) : Prop :=
  ∃ events, run step start events = target

theorem Reachable.refl (start : State) : Reachable step start start :=
  ⟨[], rfl⟩

theorem Reachable.next {start middle : State}
    (reached : Reachable step start middle) (event : Event) :
    Reachable step start (step middle event) := by
  obtain ⟨events, rfl⟩ := reached
  exact ⟨events ++ [event], run_snoc start events event⟩

theorem Reachable.run {start middle : State}
    (reached : Reachable step start middle) (events : List Event) :
    Reachable step start (run step middle events) := by
  obtain ⟨earlier, rfl⟩ := reached
  exact ⟨earlier ++ events, run_append start earlier events⟩

theorem Reachable.trans {start middle target : State}
    (first : Reachable step start middle)
    (second : Reachable step middle target) :
    Reachable step start target := by
  obtain ⟨events, rfl⟩ := second
  exact first.run events

theorem Reachable.foldl {Item : Type*} {f : State → Item → State}
    (each : ∀ state item, Reachable step state (f state item))
    (items : List Item) (start : State) :
    Reachable step start (items.foldl f start) := by
  induction items generalizing start with
  | nil =>
      exact Reachable.refl start
  | cons item rest inductionHypothesis =>
      rw [List.foldl_cons]
      exact (each start item).trans (inductionHypothesis (f start item))

theorem Reachable.invariant (Holds : State → Prop)
    (preserved : ∀ state event, Holds state → Holds (step state event))
    {start target : State} (reached : Reachable step start target)
    (initially : Holds start) :
    Holds target := by
  obtain ⟨events, rfl⟩ := reached
  exact run_invariant Holds preserved initially events

/-- A step system refines an abstract one when each of its steps is matched by a
run of the abstract one; then so is each of its runs. -/
theorem run_refines {Abstract AbstractEvent : Type*}
    {abstractStep : Abstract → AbstractEvent → Abstract}
    (Refines : State → Abstract → Prop)
    (each :
      ∀ state abstract event, Refines state abstract →
        ∃ after, Reachable abstractStep abstract after ∧
          Refines (step state event) after)
    {start : State} {abstractStart : Abstract}
    (initially : Refines start abstractStart) (events : List Event) :
    ∃ after, Reachable abstractStep abstractStart after ∧
      Refines (EventRun.run step start events) after := by
  induction events generalizing start abstractStart with
  | nil =>
      exact ⟨abstractStart, Reachable.refl abstractStart, initially⟩
  | cons event rest inductionHypothesis =>
      obtain ⟨middle, first, refines⟩ := each start abstractStart event initially
      obtain ⟨after, second, refinesAfter⟩ := inductionHypothesis refines
      exact ⟨after, first.trans second, refinesAfter⟩

end EventRun

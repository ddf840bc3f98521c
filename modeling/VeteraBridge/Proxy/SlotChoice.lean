import Mathlib.Data.List.FinRange
import VeteraBridge.Lib.FirstMaximum
import VeteraBridge.Lib.WrappingClock
import VeteraBridge.Proxy.StickyRedirect

/-!
# The slot for a new flow

`flow_slot` takes a free entry, or the closed one that has been closed longest,
or the active one that has been idle longest.  It goes by what the clock shows,
the difference of `now` and the stamp in 32 bits.  The hook read `now` before it
took `flow_mux`, so an entry the relay task has closed since is ahead of it and
shows the greatest age of all.  The choice is right exactly if an entry that is
first by the clock that does not wrap is first by the ages shown.
-/

namespace VeteraBridge.Proxy

open EventRun FirstMaximum Redirector WrappingClock

/-! ## What the scan keeps -/

/-- The age of an entry, as `flow_slot` computes it. -/
def shownAge (flows : FlowTable) (now : UInt32) (i : Fin flowMax) : Nat :=
  (now - (flows i).stampMs).toNat

def closedSlots (flows : FlowTable) : List (Fin flowMax) :=
  (List.finRange flowMax).filter fun i => (flows i).state = .closed

/-- The active entries that show an age past `IDLE_MS`. -/
def idleSlots (flows : FlowTable) (now : UInt32) : List (Fin flowMax) :=
  (List.finRange flowMax).filter fun i =>
    (flows i).state = .active ∧ idleMs.toNat < shownAge flows now i

section Scan

variable (flows : FlowTable) (now : UInt32)

/-- The oldest of the entries, beginning with the one kept so far. -/
def keepOldest (kept : Option (Fin flowMax)) (slots : List (Fin flowMax)) :
    Option (Fin flowMax) :=
  slots.foldl
    (List.argAux fun i c => shownAge flows now c < shownAge flows now i) kept

theorem keepOldest_cons (kept : Option (Fin flowMax)) (i : Fin flowMax)
    (rest : List (Fin flowMax)) :
    keepOldest flows now kept (i :: rest) =
      keepOldest flows now
        (if
          kept.all fun c =>
            now - (flows i).stampMs > now - (flows c).stampMs
        then some i else kept)
        rest := by
  unfold keepOldest
  rw [List.foldl_cons]
  cases kept with
  | none =>
      rfl
  | some c =>
      have asNat :
          now - (flows i).stampMs > now - (flows c).stampMs ↔
            shownAge flows now c < shownAge flows now i :=
        UInt32.lt_iff_toNat_lt
      congr 1
      by_cases older : shownAge flows now c < shownAge flows now i
      · simp [List.argAux, asNat, older]
      · simp [List.argAux, asNat, older]

/-- The scan in one piece: the first free entry, else the oldest closed one,
else the idlest. -/
theorem flowSlotScan_eq (slots : List (Fin flowMax))
    (closed idle : Option (Fin flowMax)) :
    flowSlotScan flows now slots closed idle =
      (slots.find? fun i => (flows i).state = .free).or
        ((keepOldest flows now closed
            (slots.filter fun i => (flows i).state = .closed)).or
          (keepOldest flows now idle
            (slots.filter fun i =>
              (flows i).state = .active ∧
                idleMs.toNat < shownAge flows now i))) := by
  induction slots generalizing closed idle with
  | nil =>
      cases closed with
      | none =>
          rfl
      | some c =>
          rfl
  | cons i rest inductionHypothesis =>
      unfold flowSlotScan
      cases held : (flows i).state with
      | free =>
          simp [held]
      | closed =>
          simp only [held, reduceCtorEq, if_false, if_true, decide_true,
            decide_false, List.find?_cons_of_neg, List.filter_cons,
            false_and, Bool.false_eq_true, not_false_eq_true,
            keepOldest_cons, inductionHypothesis]
          split
          · rfl
          · rfl
      | active =>
          have asNat :
              now - (flows i).stampMs > idleMs ↔
                idleMs.toNat < shownAge flows now i :=
            UInt32.lt_iff_toNat_lt
          by_cases isIdle : idleMs.toNat < shownAge flows now i
          · simp only [held, asNat, isIdle, reduceCtorEq, if_false, if_true,
              decide_true, decide_false, List.find?_cons_of_neg,
              List.filter_cons, true_and, Bool.false_eq_true,
              not_false_eq_true, keepOldest_cons, inductionHypothesis]
            split
            · rfl
            · rfl
          · simp only [held, asNat, isIdle, reduceCtorEq, if_false,
              decide_false, List.find?_cons_of_neg, List.filter_cons,
              and_false, Bool.false_eq_true, not_false_eq_true,
              inductionHypothesis]

/-- What `flow_slot` can find. -/
inductive SlotFound : Option (Fin flowMax) → Prop
  | free (i : Fin flowMax) (isFree : (flows i).state = .free) :
      SlotFound (some i)
  | closed (i : Fin flowMax) (noFree : ∀ j, (flows j).state ≠ .free)
      (oldest : (closedSlots flows).argmax (shownAge flows now) = some i) :
      SlotFound (some i)
  | idle (i : Fin flowMax) (noFree : ∀ j, (flows j).state ≠ .free)
      (noClosed : ∀ j, (flows j).state ≠ .closed)
      (idlest : (idleSlots flows now).argmax (shownAge flows now) = some i) :
      SlotFound (some i)
  | nothing (noFree : ∀ j, (flows j).state ≠ .free)
      (noClosed : ∀ j, (flows j).state ≠ .closed)
      (noIdle : idleSlots flows now = []) : SlotFound none

theorem flowSlot_found : SlotFound flows now (flowSlot flows now) := by
  have found :
      flowSlot flows now =
        ((List.finRange flowMax).find? fun i => (flows i).state = .free).or
          (((closedSlots flows).argmax (shownAge flows now)).or
            ((idleSlots flows now).argmax (shownAge flows now))) :=
    flowSlotScan_eq flows now _ _ _
  rw [found]
  cases first : (List.finRange flowMax).find? fun i =>
      (flows i).state = .free with
  | some i =>
      have isFree : decide ((flows i).state = .free) = true :=
        List.find?_some (p := fun j => (flows j).state = .free) first
      exact SlotFound.free i (of_decide_eq_true isFree)
  | none =>
      have noFree : ∀ j, (flows j).state ≠ .free := by
        intro j isFree
        have notFree :=
          List.find?_eq_none.mp first j (List.mem_finRange j)
        exact notFree (decide_eq_true isFree)
      cases oldest : (closedSlots flows).argmax (shownAge flows now) with
      | some i =>
          exact SlotFound.closed i noFree oldest
      | none =>
          have noClosed : ∀ j, (flows j).state ≠ .closed := by
            intro j isClosed
            have empty := List.argmax_eq_none.mp oldest
            have member : j ∈ closedSlots flows :=
              List.mem_filter.mpr
                ⟨List.mem_finRange j, decide_eq_true isClosed⟩
            rw [empty] at member
            cases member
          cases idlest : (idleSlots flows now).argmax (shownAge flows now) with
          | some i =>
              exact SlotFound.idle i noFree noClosed idlest
          | none =>
              exact SlotFound.nothing noFree noClosed
                (List.argmax_eq_none.mp idlest)

end Scan

/-! ## The right slot -/

/-- The slot to take by the clock that does not wrap.  `since` is the time an
entry was closed or, while it is active, the time of its last packet. -/
inductive RightSlot (flows : FlowTable) (since : Fin flowMax → Nat)
    (now : Nat) : Option (Fin flowMax) → Prop
  | free (i : Fin flowMax) (isFree : (flows i).state = .free) :
      RightSlot flows since now (some i)
  | closed (i : Fin flowMax) (noFree : ∀ j, (flows j).state ≠ .free)
      (isClosed : (flows i).state = .closed)
      (first : ∀ j, (flows j).state = .closed → since i ≤ since j) :
      RightSlot flows since now (some i)
  | idle (i : Fin flowMax) (noFree : ∀ j, (flows j).state ≠ .free)
      (noClosed : ∀ j, (flows j).state ≠ .closed)
      (isActive : (flows i).state = .active)
      (isIdle : since i + idleMs.toNat < now)
      (first : ∀ j, (flows j).state = .active → since i ≤ since j) :
      RightSlot flows since now (some i)
  | nothing (noFree : ∀ j, (flows j).state ≠ .free)
      (noClosed : ∀ j, (flows j).state ≠ .closed)
      (noIdle :
        ∀ j, (flows j).state = .active → now ≤ since j + idleMs.toNat) :
      RightSlot flows since now none

/-- The ages shown put an entry closed first before those closed later, and an
active entry idle longest before those that are not. -/
structure AgesShow (flows : FlowTable) (since : Fin flowMax → Nat)
    (now : Nat) : Prop where
  closed :
    (∀ j, (flows j).state ≠ .free) → (∃ j, (flows j).state = .closed) →
      EarliestFirst (shownAge flows (UInt32.ofNat now)) since
        (fun j => (flows j).state = .closed) (closedSlots flows)
  idle :
    (∀ j, (flows j).state = .active) →
      (∃ j, since j + idleMs.toNat < now) →
        EarliestFirst (shownAge flows (UInt32.ofNat now)) since
          (fun j => (flows j).state = .active)
          (idleSlots flows (UInt32.ofNat now))

/-- The stamp of an active entry is the reading of the time of its last packet,
which is over. -/
def ActiveDated (flows : FlowTable) (since : Fin flowMax → Nat) (latest : Nat) :
    Prop :=
  ∀ i, (flows i).state = .active →
    (flows i).stampMs = UInt32.ofNat (since i) ∧ since i ≤ latest

section Right

variable {flows : FlowTable} {since : Fin flowMax → Nat} {now : Nat}
  {i : Fin flowMax}

theorem mem_closedSlots :
    i ∈ closedSlots flows ↔ (flows i).state = .closed := by
  simp [closedSlots]

theorem mem_idleSlots {reading : UInt32} :
    i ∈ idleSlots flows reading ↔
      (flows i).state = .active ∧
        idleMs.toNat < shownAge flows reading i := by
  simp [idleSlots]

theorem sorted_closedSlots : (closedSlots flows).Pairwise (· < ·) :=
  (List.pairwise_lt_finRange flowMax).filter _

theorem sorted_idleSlots {reading : UInt32} :
    (idleSlots flows reading).Pairwise (· < ·) :=
  (List.pairwise_lt_finRange flowMax).filter _

/-- An active entry that shows no age past `IDLE_MS` shows less than one that
does. -/
theorem shownAge_lt_of_not_idle {reading : UInt32} {j : Fin flowMax}
    (isActive : (flows i).state = .active)
    (notIdle : i ∉ idleSlots flows reading)
    (member : j ∈ idleSlots flows reading) :
    shownAge flows reading i < shownAge flows reading j := by
  have recent : ¬ idleMs.toNat < shownAge flows reading i := by
    intro shown
    exact notIdle (mem_idleSlots.mpr ⟨isActive, shown⟩)
  exact (not_lt.mp recent).trans_lt (mem_idleSlots.mp member).2

theorem allActive (noFree : ∀ j, (flows j).state ≠ .free)
    (noClosed : ∀ j, (flows j).state ≠ .closed) (j : Fin flowMax) :
    (flows j).state = .active := by
  cases held : (flows j).state with
  | free =>
      exact absurd held (noFree j)
  | active =>
      rfl
  | closed =>
      exact absurd held (noClosed j)

/-- The ages shown are never more than the time that went by. -/
theorem ActiveDated.shownAge_le (dated : ActiveDated flows since now)
    (isActive : (flows i).state = .active) :
    shownAge flows (UInt32.ofNat now) i ≤ now - since i := by
  obtain ⟨stamp, past⟩ := dated i isActive
  unfold shownAge
  rw [stamp]
  exact elapsed_toNat_le past

theorem ActiveDated.idle (dated : ActiveDated flows since now)
    (member : i ∈ idleSlots flows (UInt32.ofNat now)) :
    since i + idleMs.toNat < now := by
  obtain ⟨isActive, shown⟩ := mem_idleSlots.mp member
  have bound := dated.shownAge_le isActive
  omega

theorem rightSlot_closed_iff (noFree : ∀ j, (flows j).state ≠ .free)
    (isClosed : (flows i).state = .closed) :
    RightSlot flows since now (some i) ↔
      ∀ j, (flows j).state = .closed → since i ≤ since j := by
  constructor
  · intro right
    cases right with
    | free _ isFree =>
        exact absurd isFree (noFree i)
    | closed _ _ _ first =>
        exact first
    | idle _ _ noClosed _ _ _ =>
        exact absurd isClosed (noClosed i)
  · exact RightSlot.closed i noFree isClosed

theorem rightSlot_idle_iff (noFree : ∀ j, (flows j).state ≠ .free)
    (noClosed : ∀ j, (flows j).state ≠ .closed)
    (isActive : (flows i).state = .active)
    (isIdle : since i + idleMs.toNat < now) :
    RightSlot flows since now (some i) ↔
      ∀ j, (flows j).state = .active → since i ≤ since j := by
  constructor
  · intro right
    cases right with
    | free _ isFree =>
        exact absurd isFree (noFree i)
    | closed _ _ isClosed _ =>
        exact absurd isClosed (noClosed i)
    | idle _ _ _ _ _ first =>
        exact first
  · exact RightSlot.idle i noFree noClosed isActive isIdle

/-- `flow_slot` makes the right choice exactly if the ages show it. -/
theorem flowSlot_right_iff (dated : ActiveDated flows since now) :
    RightSlot flows since now (flowSlot flows (UInt32.ofNat now)) ↔
      AgesShow flows since now := by
  have found := flowSlot_found flows (UInt32.ofNat now)
  generalize flowSlot flows (UInt32.ofNat now) = chosen at *
  cases found with
  | free i isFree =>
      apply iff_of_true (RightSlot.free i isFree)
      constructor
      · exact fun noFree _ => absurd isFree (noFree i)
      · intro allActive _
        rw [allActive i] at isFree
        cases isFree
  | closed i noFree oldest =>
      have isClosed : (flows i).state = .closed :=
        mem_closedSlots.mp (List.argmax_mem oldest)
      have agree :=
        argmax_earliest_iff since sorted_closedSlots
          (fun _ => mem_closedSlots.mp)
          (fun j ofClass notLooked =>
            absurd (mem_closedSlots.mpr ofClass) notLooked)
          oldest
      rw [rightSlot_closed_iff noFree isClosed, agree]
      constructor
      · intro shows
        refine ⟨fun _ _ => shows, ?_⟩
        intro allActive _
        rw [allActive i] at isClosed
        cases isClosed
      · exact fun shows => shows.closed noFree ⟨i, isClosed⟩
  | idle i noFree noClosed idlest =>
      have member : i ∈ idleSlots flows (UInt32.ofNat now) :=
        List.argmax_mem idlest
      have isActive := (mem_idleSlots.mp member).1
      have isIdle := dated.idle member
      have agree :=
        argmax_earliest_iff since sorted_idleSlots
          (fun _ looked => (mem_idleSlots.mp looked).1)
          (fun j ofClass notLooked k looked =>
            shownAge_lt_of_not_idle ofClass notLooked looked)
          idlest
      rw [rightSlot_idle_iff noFree noClosed isActive isIdle, agree]
      constructor
      · intro shows
        refine ⟨?_, fun _ _ => shows⟩
        rintro _ ⟨j, isClosed⟩
        exact absurd isClosed (noClosed j)
      · intro shows
        exact shows.idle (allActive noFree noClosed) ⟨i, isIdle⟩
  | nothing noFree noClosed noIdle =>
      have active := allActive noFree noClosed
      constructor
      · intro right
        cases right with
        | nothing _ _ recent =>
            constructor
            · rintro _ ⟨j, isClosed⟩
              exact absurd isClosed (noClosed j)
            · rintro _ ⟨j, isIdle⟩
              exact absurd isIdle (recent j (active j)).not_gt
      · intro shows
        refine RightSlot.nothing noFree noClosed ?_
        intro j _
        by_contra! isIdle
        obtain ⟨k, member, _⟩ := shows.idle active ⟨j, isIdle⟩
        rw [noIdle] at member
        cases member

/-! ### Ages within one round of the clock -/

/-- The stamp of an entry is the reading of its time, and both lie within one
round of the clock. -/
structure InRound (flows : FlowTable) (since : Fin flowMax → Nat) (now : Nat)
    (i : Fin flowMax) : Prop where
  stamp : (flows i).stampMs = UInt32.ofNat (since i)
  notLong : now < since i + 4294967296
  notFar : since i < now + 4294967296

theorem InRound.shownAge_of_past (round : InRound flows since now i)
    (past : since i ≤ now) :
    shownAge flows (UInt32.ofNat now) i = now - since i := by
  unfold shownAge
  rw [round.stamp]
  exact elapsed_toNat_of_recent past round.notLong

theorem InRound.shownAge_of_ahead (round : InRound flows since now i)
    (ahead : now < since i) :
    shownAge flows (UInt32.ofNat now) i = 4294967296 - (since i - now) := by
  unfold shownAge
  rw [round.stamp]
  exact elapsed_toNat_of_ahead ahead round.notFar

/-- Closed entries of one round of the clock are chosen from rightly unless one
was closed after the reading and one was not. -/
theorem agesShow_closed_iff (noFree : ∀ j, (flows j).state ≠ .free)
    (someClosed : ∃ j, (flows j).state = .closed)
    (round : ∀ j, (flows j).state = .closed → InRound flows since now j)
    (near :
      ∀ i j, (flows i).state = .closed → (flows j).state = .closed →
        since j < since i + 4294967296) :
    AgesShow flows since now ↔
      ¬ ∃ i j, (flows i).state = .closed ∧ (flows j).state = .closed ∧
        since i ≤ now ∧ now < since j := by
  constructor
  · rintro shows ⟨i, j, isClosed, isClosed', past, ahead⟩
    obtain ⟨k, looked, earliest, first⟩ := shows.closed noFree someClosed
    have kClosed := mem_closedSlots.mp looked
    have pastToo : since k ≤ now := (earliest i isClosed).trans past
    have before := first j isClosed' (pastToo.trans_lt ahead)
    have ageK := (round k kClosed).shownAge_of_past pastToo
    have ageJ := (round j isClosed').shownAge_of_ahead ahead
    have within := near k j kClosed isClosed'
    rcases before with less | ⟨same, _⟩
    · omega
    · omega
  · intro notBoth
    have ordered :
        ∀ i j, (flows i).state = .closed → (flows j).state = .closed →
          since i < since j →
            shownAge flows (UInt32.ofNat now) j <
              shownAge flows (UInt32.ofNat now) i := by
      intro i j isClosed isClosed' later
      have roundI := round i isClosed
      have roundJ := round j isClosed'
      by_cases past : since j ≤ now
      · rw [roundJ.shownAge_of_past past,
          roundI.shownAge_of_past (later.le.trans past)]
        omega
      · have ahead : now < since i := by
          by_contra! pastI
          exact notBoth ⟨i, j, isClosed, isClosed', pastI, not_le.mp past⟩
        rw [roundJ.shownAge_of_ahead (not_le.mp past),
          roundI.shownAge_of_ahead ahead]
        have far := roundJ.notFar
        omega
    constructor
    · intro _ _
      exact EarliestFirst.of_shown someClosed
        (fun i isClosed _ => mem_closedSlots.mpr isClosed) ordered
    · intro allActive _
      obtain ⟨j, isClosed⟩ := someClosed
      rw [allActive j] at isClosed
      cases isClosed

/-- Active entries idle for less than a round of the clock are chosen from
rightly. -/
theorem agesShow_active (dated : ActiveDated flows since now)
    (active : ∀ j, (flows j).state = .active)
    (recent : ∀ j, now < since j + 4294967296) : AgesShow flows since now := by
  have age : ∀ i, shownAge flows (UInt32.ofNat now) i = now - since i := by
    intro i
    obtain ⟨stamp, past⟩ := dated i (active i)
    unfold shownAge
    rw [stamp]
    exact elapsed_toNat_of_recent past (recent i)
  constructor
  · rintro _ ⟨j, isClosed⟩
    rw [active j] at isClosed
    cases isClosed
  · rintro _ ⟨j, isIdle⟩
    apply EarliestFirst.of_shown ⟨j, active j⟩
    · intro i _ earliest
      have notLater := earliest j (active j)
      refine mem_idleSlots.mpr ⟨active i, ?_⟩
      rw [age i]
      omega
    · intro i k _ _ later
      have past := (dated k (active k)).2
      rw [age i, age k]
      omega

end Right

end VeteraBridge.Proxy

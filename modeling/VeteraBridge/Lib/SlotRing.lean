import Mathlib.Data.List.Basic

/-!
# Rings that hold the latest items

A ring is a list of slots of a fixed size that is written round and round.
`Records` relates a ring to the history of what was written, latest first: each
of the latest items has its own slot, however the slots have changed since, as
long as they still hold it.
-/

universe u v

structure SlotRing (Slot : Type u) (size : Nat) where
  slots : List Slot
  slots_length : slots.length = size
  next : Nat
  next_lt : next < size

namespace SlotRing

variable {Slot : Type u} {Item : Type v} {size : Nat}

/-- The slot at `next` is written, and `next` goes round. -/
def push (ring : SlotRing Slot size) (slot : Slot) : SlotRing Slot size where
  slots := ring.slots.set ring.next slot
  slots_length := (List.length_set ..).trans ring.slots_length
  next := (ring.next + 1) % size
  next_lt := Nat.mod_lt _ (Nat.zero_lt_of_lt ring.next_lt)

/-- The slots are changed where they stand. -/
def withSlots (ring : SlotRing Slot size) (slots : List Slot)
    (same : slots.length = ring.slots.length) : SlotRing Slot size :=
  { ring with
    slots := slots
    slots_length := same.trans ring.slots_length }

/-- Where the item is that so many items came after, of so many in all. -/
def slotOf (size count after : Nat) : Nat := (count - 1 - after) % size

theorem slotOf_succ (size count after : Nat) :
    slotOf size (count + 1) (after + 1) = slotOf size count after := by
  unfold slotOf
  congr 1
  omega

/-- The slots of the latest items but one are not written over. -/
theorem slotOf_ne {size count after : Nat} (past : after < count)
    (recent : after + 1 < size) : slotOf size count after ≠ count % size := by
  unfold slotOf
  intro same
  have zero := Nat.sub_mod_eq_zero_of_mod_eq same.symm
  have distance : count - (count - 1 - after) = after + 1 := by omega
  rw [distance, Nat.mod_eq_of_lt recent] at zero
  cases zero

/-- The latest items are held, each in its slot. -/
structure Records (Holds : Slot → Item → Prop) (ring : SlotRing Slot size)
    (history : List Item) : Prop where
  next : ring.next = history.length % size
  held : ∀ after item, history[after]? = some item → after < size →
    ∃ slot, ring.slots[slotOf size history.length after]? = some slot ∧
      Holds slot item

variable {Holds Holds' : Slot → Item → Prop} {ring : SlotRing Slot size}
  {history : List Item}

theorem records_nil (start : ring.next = 0) : Records Holds ring [] :=
  ⟨start.trans (Nat.zero_mod size).symm, fun _ _ isItem _ => by cases isItem⟩

/-- Whatever is held is held on. -/
theorem Records.mono (records : Records Holds ring history)
    (weaken : ∀ slot, ∀ item ∈ history, Holds slot item → Holds' slot item) :
    Records Holds' ring history := by
  refine ⟨records.next, ?_⟩
  intro after item isItem recent
  obtain ⟨slot, isSlot, holds⟩ := records.held after item isItem recent
  exact ⟨slot, isSlot, weaken slot item (List.mem_of_getElem? isItem) holds⟩

theorem Records.withSlots (records : Records Holds ring history)
    {slots : List Slot} (same : slots.length = ring.slots.length)
    (kept : ∀ (index : Nat) slot, ring.slots[index]? = some slot →
      ∃ slot', slots[index]? = some slot' ∧
        ∀ item ∈ history, Holds slot item → Holds' slot' item) :
    Records Holds' (ring.withSlots slots same) history := by
  refine ⟨records.next, ?_⟩
  intro after item isItem recent
  obtain ⟨slot, isSlot, holds⟩ := records.held after item isItem recent
  obtain ⟨slot', isSlot', goesOn⟩ := kept _ slot isSlot
  exact ⟨slot', isSlot', goesOn item (List.mem_of_getElem? isItem) holds⟩

theorem Records.push (records : Records Holds ring history) {slot : Slot}
    {item : Item} (holds : Holds slot item) :
    Records Holds (ring.push slot) (item :: history) := by
  constructor
  · show (ring.next + 1) % size = (history.length + 1) % size
    rw [records.next, Nat.mod_add_mod]
  · intro after other isOther recent
    cases after with
    | zero =>
        obtain rfl : item = other := Option.some.inj isOther
        refine ⟨slot, ?_, holds⟩
        have place : slotOf size (history.length + 1) 0 = ring.next := by
          rw [records.next]
          rfl
        have inside : ring.next < ring.slots.length :=
          lt_of_lt_of_eq ring.next_lt ring.slots_length.symm
        show (ring.slots.set ring.next slot)[
          slotOf size (history.length + 1) 0]? = _
        rw [place, List.getElem?_set_self inside]
    | succ after =>
        have isOther' : history[after]? = some other := isOther
        obtain ⟨past, -⟩ := List.getElem?_eq_some_iff.mp isOther'
        obtain ⟨held, isHeld, holdsOther⟩ :=
          records.held after other isOther' (Nat.lt_of_succ_lt recent)
        refine ⟨held, ?_, holdsOther⟩
        have apart := slotOf_ne past recent
        rw [← records.next] at apart
        show (ring.slots.set ring.next slot)[
          slotOf size (history.length + 1) (after + 1)]? = _
        rw [slotOf_succ, List.getElem?_set_ne apart.symm]
        exact isHeld

end SlotRing

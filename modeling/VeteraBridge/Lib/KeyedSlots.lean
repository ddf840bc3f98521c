import Mathlib.Data.Fin.Tuple.Basic
import Mathlib.Logic.Function.Basic

/-!
# Fixed tables of keyed slots

A table is a function from slot numbers; some of its slots are live and carry
a key.  `find` is the usual linear scan for the first live slot with a key.
As long as live slots have distinct keys, the scan finds *the* slot of a key,
and it is enough to look at one slot when an entry is changed, freed or taken.
-/

namespace KeyedSlots

universe u v

variable {slotCount : Nat} {Entry : Type u} {Key : Type v} [DecidableEq Key]
  (live : Entry → Bool) (key : Entry → Key)

/-- The first live slot with the key.  It is irreducible so that a `match` on a
lookup is not evaluated slot by slot. -/
@[irreducible]
def find (slots : Fin slotCount → Entry) (wanted : Key) :
    Option (Fin slotCount) :=
  Fin.find? fun slot => live (slots slot) && decide (key (slots slot) = wanted)

/-- No two live slots have the same key. -/
def UniqueKeys (slots : Fin slotCount → Entry) : Prop :=
  ∀ first second, live (slots first) → live (slots second) →
    key (slots first) = key (slots second) → first = second

variable {live key} {slots : Fin slotCount → Entry} {wanted : Key}
  {slot : Fin slotCount}

theorem find_spec (found : find live key slots wanted = some slot) :
    live (slots slot) ∧ key (slots slot) = wanted := by
  unfold find at found
  have matched := (Fin.find?_eq_some_iff.mp found).1
  simpa using matched

theorem find_eq_none_iff :
    find live key slots wanted = none ↔
      ∀ slot, live (slots slot) → key (slots slot) ≠ wanted := by
  unfold find
  rw [Fin.find?_eq_none_iff]
  simp

theorem find_eq_some_iff (unique : UniqueKeys live key slots) :
    find live key slots wanted = some slot ↔
      live (slots slot) ∧ key (slots slot) = wanted := by
  constructor
  · exact find_spec
  · rintro ⟨isLive, hasKey⟩
    cases found : find live key slots wanted with
    | none =>
        exact absurd hasKey (find_eq_none_iff.mp found slot isLive)
    | some other =>
        obtain ⟨otherLive, otherKey⟩ := find_spec found
        rw [unique other slot otherLive isLive (otherKey.trans hasKey.symm)]

omit [DecidableEq Key] in
/-- Writing a slot keeps keys distinct if no other live slot has the key
written. -/
theorem UniqueKeys.update (unique : UniqueKeys live key slots)
    (slot : Fin slotCount) (entry : Entry)
    (fresh :
      live entry →
        ∀ other, other ≠ slot → live (slots other) →
          key (slots other) ≠ key entry) :
    UniqueKeys live key (Function.update slots slot entry) := by
  intro first second firstLive secondLive sameKey
  by_cases firstHere : first = slot
  · by_cases secondHere : second = slot
    · rw [firstHere, secondHere]
    · subst firstHere
      rw [Function.update_self] at firstLive sameKey
      rw [Function.update_of_ne secondHere] at secondLive sameKey
      exact absurd sameKey.symm (fresh firstLive second secondHere secondLive)
  · rw [Function.update_of_ne firstHere] at firstLive sameKey
    by_cases secondHere : second = slot
    · subst secondHere
      rw [Function.update_self] at secondLive sameKey
      exact absurd sameKey (fresh secondLive first firstHere firstLive)
    · rw [Function.update_of_ne secondHere] at secondLive sameKey
      exact unique first second firstLive secondLive sameKey

omit [DecidableEq Key] in
theorem UniqueKeys.update_sameKey (unique : UniqueKeys live key slots)
    {slot : Fin slotCount} {entry : Entry} (wasLive : live (slots slot))
    (sameKey : key entry = key (slots slot)) :
    UniqueKeys live key (Function.update slots slot entry) := by
  apply unique.update
  intro _ other different otherLive otherKey
  exact
    different (unique other slot otherLive wasLive (otherKey.trans sameKey))

omit [DecidableEq Key] in
theorem UniqueKeys.update_dead (unique : UniqueKeys live key slots)
    (slot : Fin slotCount) {entry : Entry} (dead : live entry = false) :
    UniqueKeys live key (Function.update slots slot entry) := by
  apply unique.update
  intro isLive
  rw [dead] at isLive
  cases isLive

theorem find_update_dead (unique : UniqueKeys live key slots) {entry : Entry}
    (found : find live key slots wanted = some slot)
    (dead : live entry = false) :
    find live key (Function.update slots slot entry) wanted = none := by
  rw [find_eq_none_iff]
  intro other otherLive otherKey
  by_cases here : other = slot
  · subst here
    rw [Function.update_self, dead] at otherLive
    cases otherLive
  · rw [Function.update_of_ne here] at otherLive otherKey
    obtain ⟨isLive, hasKey⟩ := find_spec found
    exact
      here (unique other slot otherLive isLive (otherKey.trans hasKey.symm))

theorem find_update_eq_none {entry : Entry}
    (absent : find live key slots wanted = none)
    (otherKey : live entry → key entry ≠ wanted) :
    find live key (Function.update slots slot entry) wanted = none := by
  rw [find_eq_none_iff] at absent ⊢
  intro other otherLive
  by_cases here : other = slot
  · subst here
    rw [Function.update_self] at otherLive ⊢
    exact otherKey otherLive
  · rw [Function.update_of_ne here] at otherLive ⊢
    exact absent other otherLive

end KeyedSlots

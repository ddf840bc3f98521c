import Mathlib.Logic.Basic

/-!
# Exclusive ownership of resources

Resources (descriptors, blocks of memory) are in use or not, and holders hold
some of them.  Ownership is exclusive when every resource held is in use and
no two holders hold the same one.  It is kept by any step of one holder that
leaves the others' resources in use and ends with resources nobody else
holds; `Exclusive.reassign` is that rule.
-/

namespace Ownership

universe u v

variable {Holder : Type u} {Resource : Type v}

/-- Every resource held is in use, and by one holder only. -/
structure Exclusive (holds : Holder → Resource → Prop)
    (inUse : Resource → Prop) : Prop where
  inUse : ∀ holder resource, holds holder resource → inUse resource
  alone :
    ∀ first second resource,
      holds first resource → holds second resource → first = second

def HeldByOthers (holds : Holder → Resource → Prop) (holder : Holder)
    (resource : Resource) : Prop :=
  ∃ other, other ≠ holder ∧ holds other resource

variable {holds after : Holder → Resource → Prop}
  {inUse inUseAfter : Resource → Prop} {holder : Holder}

theorem Exclusive.not_heldByOthers (exclusive : Exclusive holds inUse)
    {resource : Resource} (held : holds holder resource) :
    ¬ HeldByOthers holds holder resource := by
  rintro ⟨other, different, heldToo⟩
  exact different (exclusive.alone other holder resource heldToo held)

theorem Exclusive.inUse_of_heldByOthers (exclusive : Exclusive holds inUse)
    {resource : Resource} (held : HeldByOthers holds holder resource) :
    inUse resource := by
  obtain ⟨other, _, otherHolds⟩ := held
  exact exclusive.inUse other resource otherHolds

/-- One holder exchanges its resources. -/
theorem Exclusive.reassign (exclusive : Exclusive holds inUse)
    (sameOthers :
      ∀ other, other ≠ holder →
        ∀ resource, after other resource ↔ holds other resource)
    (kept :
      ∀ resource, HeldByOthers holds holder resource → inUseAfter resource)
    (own :
      ∀ resource, after holder resource →
        inUseAfter resource ∧ ¬ HeldByOthers holds holder resource) :
    Exclusive after inUseAfter := by
  constructor
  · intro other resource held
    by_cases here : other = holder
    · subst here
      exact (own resource held).1
    · exact kept resource ⟨other, here, (sameOthers other here resource).mp held⟩
  · intro first second resource firstHolds secondHolds
    by_cases firstHere : first = holder
    · by_cases secondHere : second = holder
      · rw [firstHere, secondHere]
      · subst firstHere
        exact
          absurd
            ⟨second, secondHere, (sameOthers second secondHere _).mp secondHolds⟩
            (own resource firstHolds).2
    · by_cases secondHere : second = holder
      · subst secondHere
        exact
          absurd
            ⟨first, firstHere, (sameOthers first firstHere _).mp firstHolds⟩
            (own resource secondHolds).2
      · exact
          exclusive.alone first second resource
            ((sameOthers first firstHere _).mp firstHolds)
            ((sameOthers second secondHere _).mp secondHolds)

end Ownership

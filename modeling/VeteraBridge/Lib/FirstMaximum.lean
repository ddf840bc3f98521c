import Mathlib.Data.List.MinMax
import Mathlib.Data.Set.Finite.Lemmas

/-!
# The item that looks oldest

A scan over items in index order that keeps the best so far and replaces it
only by a strictly better one ends with the first maximum, `List.argmax`.
Where the scan maximises what an item shows but what is wanted is the item that
is first by another measure, the choice is right exactly if an item that is
first by that measure shows more than those that come later.
-/

namespace FirstMaximum

universe u v w

variable {Item : Type u} {Shown : Type v} [LinearOrder Item]
  [LinearOrder Shown] {shown : Item → Shown} {items : List Item}
  {chosen item : Item}

/-- The first item shows more, or as much at a lower index. -/
def Before (shown : Item → Shown) (first second : Item) : Prop :=
  shown second < shown first ∨ shown second = shown first ∧ first < second

theorem Before.asymm {first second : Item}
    (before : Before shown first second) : ¬ Before shown second first := by
  rcases before with more | ⟨asMuch, lower⟩
  · rintro (more' | ⟨asMuch, _⟩)
    · exact lt_asymm more more'
    · exact more.ne' asMuch
  · rintro (more | ⟨_, lower'⟩)
    · exact more.ne' asMuch
    · exact lt_asymm lower lower'

/-- In a list in index order a position is an order of the items. -/
theorem le_of_idxOf_le (sorted : items.Pairwise (· < ·))
    (member : item ∈ items) (notAfter : items.idxOf chosen ≤ items.idxOf item) :
    chosen ≤ item := by
  induction items with
  | nil =>
      cases member
  | cons head rest inductionHypothesis =>
      obtain ⟨below, sortedRest⟩ := List.pairwise_cons.mp sorted
      by_cases here : head = chosen
      · rcases List.mem_cons.mp member with same | inRest
        · exact (same.trans here).ge
        · rw [← here]
          exact (below item inRest).le
      · have notHead : head ≠ item := by
          intro same
          rw [List.idxOf_cons_ne _ here, same, List.idxOf_cons_self] at notAfter
          exact Nat.not_succ_le_zero _ notAfter
        rw [List.idxOf_cons_ne _ here, List.idxOf_cons_ne _ notHead] at notAfter
        have inRest : item ∈ rest :=
          (List.mem_cons.mp member).resolve_left notHead.symm
        exact inductionHypothesis sortedRest inRest
          (Nat.le_of_succ_le_succ notAfter)

/-- The first maximum comes before every other item. -/
theorem before_of_argmax (sorted : items.Pairwise (· < ·))
    (best : items.argmax shown = some chosen) (member : item ∈ items)
    (other : item ≠ chosen) : Before shown chosen item := by
  obtain ⟨_, most, first⟩ := List.argmax_eq_some_iff.mp best
  rcases (most item member).lt_or_eq with less | asMuch
  · exact Or.inl less
  · refine Or.inr ⟨asMuch, ?_⟩
    have notAfter := first item member asMuch.ge
    exact lt_of_le_of_ne (le_of_idxOf_le sorted member notAfter) other.symm

variable {Time : Type w} [LinearOrder Time]

/-- Some item shown is the earliest of the class, and comes before all of the
class that are later. -/
def EarliestFirst (shown : Item → Shown) (since : Item → Time)
    (InClass : Item → Prop) (items : List Item) : Prop :=
  ∃ item ∈ items, (∀ other, InClass other → since item ≤ since other) ∧
    ∀ other, InClass other → since item < since other →
      Before shown item other

/-- The choice among the items is the earliest of the class exactly if an
earliest one comes before the later ones.  The items of the class that are not
looked at show less than those that are. -/
theorem argmax_earliest_iff (since : Item → Time) {InClass : Item → Prop}
    (sorted : items.Pairwise (· < ·)) (inClass : ∀ item ∈ items, InClass item)
    (rest :
      ∀ other, InClass other → other ∉ items →
        ∀ item ∈ items, shown other < shown item)
    (best : items.argmax shown = some chosen) :
    (∀ other, InClass other → since chosen ≤ since other) ↔
      EarliestFirst shown since InClass items := by
  have looked : chosen ∈ items := List.argmax_mem best
  constructor
  · intro earliest
    refine ⟨chosen, looked, earliest, ?_⟩
    intro other ofClass later
    by_cases member : other ∈ items
    · apply before_of_argmax sorted best member
      intro same
      rw [same] at later
      exact lt_irrefl _ later
    · exact Or.inl (rest other ofClass member chosen looked)
  · rintro ⟨item, member, earliest, first⟩ other ofClass
    refine le_trans ?_ (earliest other ofClass)
    by_contra! later
    have before := first chosen (inClass chosen looked) later
    have other : item ≠ chosen := by
      rintro rfl
      exact lt_irrefl _ later
    exact before.asymm (before_of_argmax sorted best member other)

/-- Where later items show less, an earliest one comes first. -/
theorem EarliestFirst.of_shown [Finite Item] {since : Item → Time}
    {InClass : Item → Prop} (nonempty : ∃ item, InClass item)
    (looked :
      ∀ item, InClass item →
        (∀ other, InClass other → since item ≤ since other) → item ∈ items)
    (less :
      ∀ item other, InClass item → InClass other → since item < since other →
        shown other < shown item) :
    EarliestFirst shown since InClass items := by
  obtain ⟨item, inClass, earliest⟩ :=
    Set.exists_min_image { item | InClass item } since (Set.toFinite _)
      nonempty
  refine ⟨item, looked item inClass earliest, earliest, ?_⟩
  exact fun other ofClass later => Or.inl (less item other inClass ofClass later)

end FirstMaximum

import Mathlib.Data.List.DropRight
import Mathlib.Data.List.Perm.Basic
import Mathlib.Order.Lattice

/-!
# Insertion from the right

An item is put into a sorted list by moving past those at the end that are
weaker.  Items of one strength keep the order they came in, so the sort that
inserts one item after the other is stable.
-/

namespace StableInsertion

universe u v

variable {Item : Type u} {Strength : Type v} [LinearOrder Strength]

def weaker (strength : Item → Strength) (item other : Item) : Bool :=
  decide (strength other < strength item)

/-- The item goes in front of the weaker ones at the end. -/
def insertRight (strength : Item → Strength) (sorted : List Item)
    (item : Item) : List Item :=
  sorted.rdropWhile (weaker strength item) ++
    item :: sorted.rtakeWhile (weaker strength item)

/-- Stronger, or as strong and of a lower rank. -/
def Before (strength : Item → Strength) (rank : Item → Nat)
    (first second : Item) : Prop :=
  strength second < strength first ∨
    strength first = strength second ∧ rank first < rank second

variable {strength : Item → Strength} {rank : Item → Nat}
  {sorted items : List Item} {item last : Item}

theorem insertRight_past (isWeaker : strength last < strength item) :
    insertRight strength (sorted ++ [last]) item =
      insertRight strength sorted item ++ [last] := by
  have passes : weaker strength item last = true := decide_eq_true isWeaker
  unfold insertRight
  rw [List.rdropWhile_concat_pos _ _ _ passes,
    List.rtakeWhile_concat_pos _ _ _ passes]
  simp

theorem insertRight_last (notWeaker : ¬ strength last < strength item) :
    insertRight strength (sorted ++ [last]) item =
      sorted ++ [last] ++ [item] := by
  have stops : ¬ weaker strength item last = true := by
    simpa [weaker] using notWeaker
  unfold insertRight
  rw [List.rdropWhile_concat_neg _ _ _ stops,
    List.rtakeWhile_concat_neg _ _ _ stops]

theorem insertRight_perm (strength : Item → Strength) (sorted : List Item)
    (item : Item) :
    (insertRight strength sorted item).Perm (sorted ++ [item]) := by
  have parts :
      sorted.rdropWhile (weaker strength item) ++
        sorted.rtakeWhile (weaker strength item) = sorted :=
    List.rdropWhile_append_rtakeWhile
  have moved :
      (item :: sorted.rtakeWhile (weaker strength item)).Perm
        (sorted.rtakeWhile (weaker strength item) ++ [item]) :=
    (List.perm_append_singleton item _).symm
  have all := moved.append_left (sorted.rdropWhile (weaker strength item))
  rwa [← List.append_assoc, parts] at all

/-- An item of a rank above all others is put in its place. -/
theorem insertRight_sorted (isSorted : sorted.Pairwise (Before strength rank))
    (above : ∀ other ∈ sorted, rank other < rank item) :
    (insertRight strength sorted item).Pairwise (Before strength rank) := by
  induction sorted using List.reverseRecOn with
  | nil =>
      exact List.pairwise_singleton _ _
  | append_singleton front last inductionHypothesis =>
      obtain ⟨frontSorted, -, beforeLast⟩ := List.pairwise_append.mp isSorted
      have aboveFront : ∀ other ∈ front, rank other < rank item :=
        fun other member => above other (List.mem_append_left _ member)
      by_cases isWeaker : strength last < strength item
      · rw [insertRight_past isWeaker]
        refine List.pairwise_append.mpr
          ⟨inductionHypothesis frontSorted aboveFront,
            List.pairwise_singleton _ _, ?_⟩
        intro other member final isLast
        rw [List.mem_singleton.mp isLast]
        have inFront := (insertRight_perm strength front item).subset member
        rcases List.mem_append.mp inFront with old | new
        · exact beforeLast other old last (List.mem_singleton_self last)
        · rw [List.mem_singleton.mp new]
          exact Or.inl isWeaker
      · rw [insertRight_last isWeaker]
        refine List.pairwise_append.mpr
          ⟨isSorted, List.pairwise_singleton _ _, ?_⟩
        intro other member final isItem
        rw [List.mem_singleton.mp isItem]
        have notWeaker : strength item ≤ strength other := by
          rcases List.mem_append.mp member with old | isLast
          · have before :=
              beforeLast other old last (List.mem_singleton_self last)
            rcases before with stronger | ⟨same, _⟩
            · exact (not_lt.mp isWeaker).trans stronger.le
            · rw [same]
              exact not_lt.mp isWeaker
          · rw [List.mem_singleton.mp isLast]
            exact not_lt.mp isWeaker
        rcases notWeaker.lt_or_eq with stronger | same
        · exact Or.inl stronger
        · exact Or.inr ⟨same.symm, above other member⟩

/-- An item put among items without ranks leaves them sorted by strength. -/
theorem insertRight_descending
    (isSorted : sorted.Pairwise fun first second =>
      strength second ≤ strength first) :
    (insertRight strength sorted item).Pairwise fun first second =>
      strength second ≤ strength first := by
  induction sorted using List.reverseRecOn with
  | nil =>
      exact List.pairwise_singleton _ _
  | append_singleton front last inductionHypothesis =>
      obtain ⟨frontSorted, -, beforeLast⟩ := List.pairwise_append.mp isSorted
      by_cases isWeaker : strength last < strength item
      · rw [insertRight_past isWeaker]
        refine List.pairwise_append.mpr
          ⟨inductionHypothesis frontSorted, List.pairwise_singleton _ _, ?_⟩
        intro other member final isLast
        rw [List.mem_singleton.mp isLast]
        have inFront := (insertRight_perm strength front item).subset member
        rcases List.mem_append.mp inFront with old | new
        · exact beforeLast other old last (List.mem_singleton_self last)
        · rw [List.mem_singleton.mp new]
          exact isWeaker.le
      · rw [insertRight_last isWeaker]
        refine List.pairwise_append.mpr
          ⟨isSorted, List.pairwise_singleton _ _, ?_⟩
        intro other member final isItem
        rw [List.mem_singleton.mp isItem]
        rcases List.mem_append.mp member with old | isLast
        · have before :=
            beforeLast other old last (List.mem_singleton_self last)
          exact (not_lt.mp isWeaker).trans before
        · rw [List.mem_singleton.mp isLast]
          exact not_lt.mp isWeaker

/-- Inserting the items one after the other sorts them by strength. -/
theorem foldl_insertRight_descending
    (isSorted : sorted.Pairwise fun first second =>
      strength second ≤ strength first) (items : List Item) :
    (items.foldl (insertRight strength) sorted).Pairwise fun first second =>
      strength second ≤ strength first := by
  induction items generalizing sorted with
  | nil =>
      exact isSorted
  | cons item rest inductionHypothesis =>
      rw [List.foldl_cons]
      exact inductionHypothesis (insertRight_descending isSorted)

/-- Inserting the items one after the other keeps them all. -/
theorem foldl_insertRight_perm (strength : Item → Strength)
    (sorted items : List Item) :
    (items.foldl (insertRight strength) sorted).Perm (sorted ++ items) := by
  induction items generalizing sorted with
  | nil =>
      simp
  | cons item rest inductionHypothesis =>
      rw [List.foldl_cons]
      have first := insertRight_perm strength sorted item
      have later := inductionHypothesis (insertRight strength sorted item)
      have all := later.trans (first.append_right rest)
      simpa using all

/-- Items that come in the order of their ranks are sorted by strength, and by
rank where they are as strong. -/
theorem foldl_insertRight_sorted
    (isSorted : sorted.Pairwise (Before strength rank))
    (above : ∀ other ∈ sorted, ∀ item ∈ items, rank other < rank item)
    (ranked : items.Pairwise fun first second => rank first < rank second) :
    (items.foldl (insertRight strength) sorted).Pairwise
      (Before strength rank) := by
  induction items generalizing sorted with
  | nil =>
      exact isSorted
  | cons item rest inductionHypothesis =>
      obtain ⟨belowRest, rankedRest⟩ := List.pairwise_cons.mp ranked
      rw [List.foldl_cons]
      apply inductionHypothesis _ _ rankedRest
      · apply insertRight_sorted isSorted
        exact fun other member => above other member item List.mem_cons_self
      · intro other member later inRest
        have known := (insertRight_perm strength sorted item).subset member
        rcases List.mem_append.mp known with old | new
        · exact above other old later (List.mem_cons_of_mem item inRest)
        · rw [List.mem_singleton.mp new]
          exact belowRest later inRest

end StableInsertion

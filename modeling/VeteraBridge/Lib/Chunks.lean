import Mathlib.Data.List.Basic

/-!
# A stream that comes in chunks

A stream is handed out in chunks, some of them empty.  Taking a number of items
from it chunk by chunk takes the items it begins with, and it never comes to the
end exactly when nothing but empty chunks follow while items are missing.
-/

namespace Chunks

universe u

variable {Item : Type u} (chunk : Nat → List Item)

/-- What the first chunks hold. -/
def fed : Nat → List Item
  | 0 => []
  | k + 1 => fed k ++ chunk k

variable {chunk} {want : Nat}

theorem fed_succ_length (k : Nat) :
    (fed chunk (k + 1)).length = (fed chunk k).length + (chunk k).length := by
  rw [fed, List.length_append]

theorem fed_prefix_fed {j k : Nat} (order : j ≤ k) :
    fed chunk j <+: fed chunk k := by
  induction order with
  | refl => exact List.prefix_refl _
  | step _ inductionHypothesis =>
      exact inductionHypothesis.trans (List.prefix_append _ _)

/-- One more chunk, cut to what is missing. -/
theorem take_fed_succ (k : Nat) :
    (fed chunk (k + 1)).take want =
      (fed chunk k).take want ++
        (chunk k).take (want - (fed chunk k).length) := by
  rw [fed, List.take_append]

/-- Once enough was handed out, what is taken stays. -/
theorem take_fed_of_le {j k : Nat} (order : j ≤ k)
    (enough : want ≤ (fed chunk j).length) :
    (fed chunk k).take want = (fed chunk j).take want := by
  obtain ⟨more, whole⟩ : fed chunk j <+: fed chunk k := fed_prefix_fed order
  rw [← whole, List.take_append_of_le_length enough]

/-- From some chunk on all are empty, with less handed out than wanted. -/
def Starves (chunk : Nat → List Item) (want : Nat) : Prop :=
  ∃ first, (fed chunk first).length < want ∧ ∀ k, first ≤ k → chunk k = []

theorem fed_of_empty {first : Nat} (empty : ∀ k, first ≤ k → chunk k = [])
    {k : Nat} (later : first ≤ k) : fed chunk k = fed chunk first := by
  induction later with
  | refl => rfl
  | step before inductionHypothesis =>
      rw [fed, empty _ before, List.append_nil, inductionHypothesis]

/-- Unless the stream starves, each chunk is followed by one with items. -/
theorem exists_nonempty (fills : ¬ Starves chunk want) {first : Nat}
    (missing : (fed chunk first).length < want) :
    ∃ k, first ≤ k ∧ chunk k ≠ [] := by
  by_contra none
  apply fills
  refine ⟨first, missing, ?_⟩
  intro k later
  by_contra nonempty
  exact none ⟨k, later, nonempty⟩

/-- A stream hands out what is wanted unless it starves. -/
theorem fills_iff :
    (∃ k, want ≤ (fed chunk k).length) ↔ ¬ Starves chunk want := by
  constructor
  · rintro ⟨k, enough⟩ ⟨first, missing, empty⟩
    rcases Nat.le_total first k with later | earlier
    · rw [fed_of_empty empty later] at enough
      omega
    · have grows : (fed chunk k).length ≤ (fed chunk first).length :=
        (fed_prefix_fed earlier).length_le
      omega
  · intro fills
    -- what is missing decreases with each chunk that is not empty
    have comes : ∀ missing first, want ≤ (fed chunk first).length + missing →
        ∃ k, want ≤ (fed chunk k).length := by
      intro missing
      induction missing with
      | zero =>
          intro first enough
          exact ⟨first, enough⟩
      | succ missing inductionHypothesis =>
          intro first enough
          by_cases done : want ≤ (fed chunk first).length
          · exact ⟨first, done⟩
          · obtain ⟨k, later, nonempty⟩ :=
              exists_nonempty fills (Nat.lt_of_not_le done)
            apply inductionHypothesis (k + 1)
            have grows : (fed chunk first).length ≤ (fed chunk k).length :=
              (fed_prefix_fed later).length_le
            have some := List.length_pos_iff.mpr nonempty
            rw [fed_succ_length]
            omega
    exact comes want 0 (Nat.le_add_left want _)

end Chunks

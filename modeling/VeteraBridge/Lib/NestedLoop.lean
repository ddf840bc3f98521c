import Mathlib.Data.List.Flatten

/-!
# A loop in a loop, one pass at a time

Each item is tried a number of times before the next one.  When the two loops
are turned inside out, two counters say where they stand: the item and how often
it was tried.  They are quotient and remainder of the number of tries that have
been made.
-/

namespace NestedLoop

universe u

variable {Item : Type u} {items : List Item} {times n : Nat}

/-- All tries, in order. -/
def tries (times : Nat) (items : List Item) : List Item :=
  items.flatMap (List.replicate times)

theorem length_tries :
    (tries times items).length = items.length * times := by
  induction items with
  | nil =>
      simp [tries]
  | cons item rest inductionHypothesis =>
      rw [tries, List.flatMap_cons, List.length_append, List.length_replicate,
        List.length_cons, Nat.succ_mul, Nat.add_comm]
      exact congrArg (· + times) inductionHypothesis

/-- A try is one of the item that the first counter points to. -/
theorem getElem?_tries (positive : 0 < times) :
    (tries times items)[n]? = items[n / times]? := by
  induction items generalizing n with
  | nil =>
      rfl
  | cons item rest inductionHypothesis =>
      rw [tries, List.flatMap_cons]
      by_cases first : n < times
      · rw [List.getElem?_append_left (by simpa using first),
          List.getElem?_replicate_of_lt first, Nat.div_eq_of_lt first]
        rfl
      · have later : times ≤ n := Nat.le_of_not_lt first
        have counted : n / times = (n - times) / times + 1 :=
          Nat.div_eq_sub_div positive later
        rw [List.getElem?_append_right (by simpa using later),
          List.length_replicate, counted, List.getElem?_cons_succ]
        exact inductionHypothesis

/-- One more try. -/
theorem take_succ_tries (positive : 0 < times) {item : Item}
    (tried : items[n / times]? = some item) :
    (tries times items).take (n + 1) =
      (tries times items).take n ++ [item] := by
  rw [List.take_add_one, getElem?_tries positive, tried]
  rfl

/-- The counters while the item can be tried again. -/
theorem counters_again (again : n % times + 1 < times) :
    (n + 1) / times = n / times ∧ (n + 1) % times = n % times + 1 := by
  have positive : 0 < times := Nat.zero_lt_of_lt again
  have split : n + 1 = n % times + 1 + times * (n / times) := by
    have whole := Nat.mod_add_div n times
    omega
  constructor
  · rw [split, Nat.add_mul_div_left _ _ positive, Nat.div_eq_of_lt again,
      Nat.zero_add]
  · rw [split, Nat.add_mul_mod_self_left, Nat.mod_eq_of_lt again]

/-- The counters when the item was tried as often as it is. -/
theorem counters_next (positive : 0 < times)
    (last : ¬ n % times + 1 < times) :
    (n + 1) / times = n / times + 1 ∧ (n + 1) % times = 0 := by
  have below := Nat.mod_lt n positive
  have split : n + 1 = times * (n / times + 1) := by
    have whole := Nat.mod_add_div n times
    rw [Nat.mul_succ]
    omega
  constructor
  · rw [split, Nat.mul_div_cancel_left _ positive]
  · rw [split, Nat.mul_mod_right]

/-- The first counter points to an item as long as there are tries left. -/
theorem counter_lt_iff (positive : 0 < times) :
    n / times < items.length ↔ n < items.length * times :=
  Nat.div_lt_iff_lt_mul positive

end NestedLoop

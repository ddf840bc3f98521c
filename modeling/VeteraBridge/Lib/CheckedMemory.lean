import Mathlib.Data.List.Basic

/-!
# Checked access to an array

Reads and stores that fail when they leave their array, for programs whose
indices are computed.  A program that keeps a text at the beginning of an array
is described by `Holds`: the text grows with each store behind it.  Where all of
the array matters, what stores leave is a `splice`.
-/

namespace CheckedMemory

universe u

variable {α : Type u}

/-- A store, unless it leaves the array. -/
def store (array : List α) (start : Nat) (items : List α) : Option (List α) :=
  if start + items.length ≤ array.length then
    some (array.take start ++ items ++ array.drop (start + items.length))
  else none

/-- The items of a range that lies in the array. -/
def load (array : List α) (start count : Nat) : Option (List α) :=
  if start + count ≤ array.length then some ((array.drop start).take count)
  else none

variable {size start : Nat} {text array result : List α}

theorem load_of_le {start count : Nat} (inside : start + count ≤ array.length) :
    load array start count = some ((array.drop start).take count) :=
  if_pos inside

theorem store_length {start : Nat} {items : List α}
    (stored : store array start items = some result) :
    result.length = array.length := by
  unfold store at stored
  split at stored
  · next inside =>
    cases stored
    simp only [List.length_append, List.length_take, List.length_drop]
    omega
  · cases stored

/-! ## What a store leaves -/

/-- The array with other items from `start` on. -/
def splice (array : List α) (start : Nat) (items : List α) : List α :=
  array.take start ++ items ++ array.drop (start + items.length)

theorem store_of_le {items : List α}
    (inside : start + items.length ≤ array.length) :
    store array start items = some (splice array start items) :=
  if_pos inside

theorem splice_length {items : List α}
    (inside : start + items.length ≤ array.length) :
    (splice array start items).length = array.length :=
  store_length (store_of_le inside)

theorem splice_nil (array : List α) (start : Nat) :
    splice array start [] = array := by
  rw [splice, List.append_nil, List.length_nil, Nat.add_zero,
    List.take_append_drop]

/-- Items that cover the old ones behind a front. -/
theorem splice_splice (inside : start ≤ array.length) (front : List α)
    {old items : List α} (covered : old.length ≤ items.length) :
    splice (splice array start (front ++ old)) (start + front.length) items =
      splice array start (front ++ items) := by
  have start_length : (array.take start).length = start :=
    List.length_take_of_le inside
  have shape : splice array start (front ++ old) =
      (array.take start ++ front) ++
        (old ++ array.drop (start + (front ++ old).length)) := by
    rw [splice, List.append_assoc, List.append_assoc, List.append_assoc]
  have front_length :
      (array.take start ++ front).length = start + front.length := by
    rw [List.length_append, start_length]
  have behind : start + (front ++ old).length + (items.length - old.length) =
      start + (front ++ items).length := by
    rw [List.length_append, List.length_append]
    omega
  rw [shape, splice, ← front_length, List.take_left, ← List.drop_drop,
    List.drop_left, List.drop_append, List.drop_of_length_le covered,
    List.nil_append, List.drop_drop, behind, splice, List.append_assoc
      (array.take start) front items]

theorem splice_drop (inside : start ≤ array.length) (items : List α) :
    (splice array start items).drop start =
      items ++ array.drop (start + items.length) := by
  rw [splice, List.append_assoc,
    List.drop_left' (List.length_take_of_le inside)]

theorem splice_before (inside : start ≤ array.length) (items : List α)
    {i : Nat} (before : i < start) :
    (splice array start items)[i]? = array[i]? := by
  have within : i < (array.take start).length := by
    rwa [List.length_take_of_le inside]
  rw [splice, List.append_assoc, List.getElem?_append_left within,
    List.getElem?_take_of_lt before]

theorem splice_inside (inside : start ≤ array.length) {items : List α}
    {i : Nat} (within : i < items.length) :
    (splice array start items)[start + i]? = items[i]? := by
  have start_length : (array.take start).length = start :=
    List.length_take_of_le inside
  rw [splice, List.append_assoc, List.getElem?_append_right (by omega),
    start_length, Nat.add_sub_cancel_left, List.getElem?_append_left within]

theorem splice_behind (inside : start ≤ array.length) (items : List α)
    {i : Nat} (behind : start + items.length ≤ i) :
    (splice array start items)[i]? = array[i]? := by
  have front_length :
      (array.take start ++ items).length = start + items.length := by
    rw [List.length_append, List.length_take_of_le inside]
  rw [splice, List.getElem?_append_right (by omega), front_length,
    List.getElem?_drop, Nat.add_sub_cancel' behind]

/-! ## A text in front -/

/-- The array has a size and begins with a text. -/
structure Holds (size : Nat) (text array : List α) : Prop where
  length : array.length = size
  begins : text <+: array

theorem Holds.length_le (holds : Holds size text array) :
    text.length ≤ size :=
  holds.length ▸ holds.begins.length_le

theorem Holds.shorter {front : List α} (holds : Holds size text array)
    (begins : front <+: text) : Holds size front array :=
  ⟨holds.length, begins.trans holds.begins⟩

/-- A store behind the text. -/
theorem Holds.store (holds : Holds size text array) (items : List α)
    (room : text.length + items.length ≤ size) :
    ∃ result, store array text.length items = some result ∧
      Holds size (text ++ items) result := by
  have inside : text.length + items.length ≤ array.length := by
    rwa [holds.length]
  refine ⟨splice array text.length items, store_of_le inside,
    (splice_length inside).trans holds.length, ?_⟩
  have start : array.take text.length = text :=
    (List.prefix_iff_eq_take.mp holds.begins).symm
  rw [splice, start]
  exact List.prefix_append _ _

/-- A store at the beginning. -/
theorem Holds.restart (holds : Holds size text array) (items : List α)
    (room : items.length ≤ size) :
    ∃ result, CheckedMemory.store array 0 items = some result ∧
      Holds size items result := by
  have empty : Holds size [] array := ⟨holds.length, List.nil_prefix⟩
  exact empty.store items (by rwa [List.length_nil, Nat.zero_add])

end CheckedMemory

import Mathlib.Data.List.Nodup
import Mathlib.Data.List.OfFn
import Mathlib.Logic.Function.Basic

/-!
# A counted table

A table of fixed size whose first entries are in use and whose other slots are
blank.  As a list of the entries in use, overwriting a slot is `set`, taking the
next one is an append, and giving one up by moving the later ones is
`eraseIdx`; a table is known by its list.
-/

namespace CountedSlots

universe u

variable {size count : Nat} {Entry : Type u} {slots : Fin size → Entry}
  {blank : Entry}

/-- The entries in use. -/
def used (count : Nat) (slots : Fin size → Entry) : List Entry :=
  (List.ofFn slots).take count

theorem used_getElem? (slot : Fin size) (counted : slot.val < count) :
    (used count slots)[slot.val]? = some (slots slot) := by
  rw [used, List.getElem?_take_of_lt counted, List.getElem?_ofFn,
    dif_pos slot.isLt]

theorem used_length (fits : count ≤ size) :
    (used count slots).length = count := by
  rw [used, List.length_take, List.length_ofFn, Nat.min_eq_left fits]

/-- A list is that of the entries in use when it has their number and agrees
with them slot by slot. -/
theorem used_eq_of_getElem? {entries : List Entry} (fits : count ≤ size)
    (length : entries.length = count)
    (each : ∀ slot : Fin size, slot.val < count →
      entries[slot.val]? = some (slots slot)) :
    used count slots = entries := by
  apply List.ext_getElem?
  intro i
  rcases Nat.lt_or_ge i count with counted | behind
  · rw [used_getElem? ⟨i, counted.trans_le fits⟩ counted,
      each ⟨i, counted.trans_le fits⟩ counted]
  · rw [List.getElem?_eq_none (by rwa [used_length fits]),
      List.getElem?_eq_none (by rwa [length])]

theorem mem_used_iff (fits : count ≤ size) {entry : Entry} :
    entry ∈ used count slots ↔
      ∃ slot : Fin size, slot.val < count ∧ slots slot = entry := by
  constructor
  · intro member
    obtain ⟨i, there⟩ := List.mem_iff_getElem?.mp member
    have counted : i < count := by
      have inside := (List.getElem?_eq_some_iff.mp there).1
      rwa [used_length fits] at inside
    rw [used_getElem? ⟨i, counted.trans_le fits⟩ counted] at there
    exact ⟨_, counted, Option.some.inj there⟩
  · rintro ⟨slot, counted, rfl⟩
    exact List.mem_of_getElem? (used_getElem? slot counted)

/-- Overwriting a slot in use. -/
theorem used_update (fits : count ≤ size) (slot : Fin size)
    (counted : slot.val < count) (entry : Entry) :
    used count (Function.update slots slot entry) =
      (used count slots).set slot.val entry := by
  apply used_eq_of_getElem? fits
  · rw [List.length_set, used_length fits]
  · intro other inUse
    by_cases here : other = slot
    · subst here
      rw [List.getElem?_set_self (by rwa [used_length fits]),
        Function.update_self]
    · rw [List.getElem?_set_ne (fun same => here (Fin.ext same.symm)),
        used_getElem? other inUse, Function.update_of_ne here]

/-- Taking the next slot. -/
theorem used_push (room : count < size) (entry : Entry) :
    used (count + 1) (Function.update slots ⟨count, room⟩ entry) =
      used count slots ++ [entry] := by
  have fits : (used count slots).length = count := used_length room.le
  apply used_eq_of_getElem? room
  · rw [List.length_append, fits]
    rfl
  · intro other inUse
    by_cases here : other = ⟨count, room⟩
    · subst here
      rw [Function.update_self, List.getElem?_append_right fits.le, fits,
        Nat.sub_self]
      rfl
    · have counted : other.val < count := by
        have differs : other.val ≠ count := fun same => here (Fin.ext same)
        omega
      rw [Function.update_of_ne here,
        List.getElem?_append_left (by rwa [fits]), used_getElem? other counted]

/-- Giving up a slot: the later entries move up, and the last slot is
blanked. -/
def giveUp (blank : Entry) (count index : Nat) (slots : Fin size → Entry) :
    Fin size → Entry :=
  fun i =>
    if i.val = count - 1 then blank
    else if h : index ≤ i.val ∧ i.val + 1 < count ∧ i.val + 1 < size then
      slots ⟨i.val + 1, h.2.2⟩
    else slots i

theorem used_giveUp (fits : count ≤ size) {index : Nat}
    (inUse : index < count) :
    used (count - 1) (giveUp blank count index slots) =
      (used count slots).eraseIdx index := by
  apply used_eq_of_getElem? (by omega)
  · rw [List.length_eraseIdx_of_lt (by rwa [used_length fits]),
      used_length fits]
  · intro slot counted
    have inside := slot.isLt
    have kept : slot.val ≠ count - 1 := by omega
    by_cases before : slot.val < index
    · rw [List.getElem?_eraseIdx_of_lt before, giveUp, if_neg kept,
        dif_neg (by omega), used_getElem? slot (by omega)]
    · rw [List.getElem?_eraseIdx_of_ge (by omega), giveUp, if_neg kept,
        dif_pos (by omega)]
      exact used_getElem? ⟨slot.val + 1, by omega⟩ (by simp only; omega)

/-! ## Blank slots -/

/-- The slots that are not in use are blank. -/
structure Counted (blank : Entry) (count : Nat) (slots : Fin size → Entry) :
    Prop where
  fits : count ≤ size
  unused : ∀ slot : Fin size, count ≤ slot.val → slots slot = blank

namespace Counted

theorem update (table : Counted blank count slots) (slot : Fin size)
    (inUse : slot.val < count) (entry : Entry) :
    Counted blank count (Function.update slots slot entry) := by
  refine ⟨table.fits, ?_⟩
  intro other behind
  have elsewhere : other ≠ slot := by
    intro here
    subst here
    omega
  rw [Function.update_of_ne elsewhere]
  exact table.unused other behind

theorem push (table : Counted blank count slots) (room : count < size)
    (entry : Entry) :
    Counted blank (count + 1)
      (Function.update slots ⟨count, room⟩ entry) := by
  refine ⟨room, ?_⟩
  intro other behind
  have elsewhere : other ≠ ⟨count, room⟩ := by
    intro here
    subst here
    simp only at behind
    omega
  rw [Function.update_of_ne elsewhere]
  exact table.unused other (by omega)

theorem giveUp (table : Counted blank count slots) (index : Nat) :
    Counted blank (count - 1)
      (CountedSlots.giveUp blank count index slots) := by
  have fits := table.fits
  refine ⟨by omega, ?_⟩
  intro slot behind
  rw [CountedSlots.giveUp]
  by_cases last : slot.val = count - 1
  · rw [if_pos last]
  · rw [if_neg last, dif_neg (by omega)]
    exact table.unused slot (by omega)

theorem empty : Counted blank 0 (fun _ : Fin size => blank) :=
  ⟨Nat.zero_le size, fun _ _ => rfl⟩

end Counted

/-! ## Entries with distinct keys -/

/-- Changing the one entry with its key is changing every entry with that
key. -/
theorem set_eq_map {Key : Type u} [DecidableEq Key] {key : Entry → Key}
    {entries : List Entry} (distinct : (entries.map key).Nodup) {i : Nat}
    {entry : Entry} (there : entries[i]? = some entry)
    (change : Entry → Entry) :
    entries.set i (change entry) =
      entries.map fun other =>
        if key other = key entry then change other else other := by
  obtain ⟨inside, same⟩ := List.getElem?_eq_some_iff.mp there
  apply List.ext_getElem
  · rw [List.length_set, List.length_map]
  · intro j setInside _
    have within : j < entries.length := by rwa [List.length_set] at setInside
    rw [List.getElem_map]
    by_cases here : i = j
    · subst here
      rw [List.getElem_set_self, same, if_pos rfl]
    · rw [List.getElem_set_ne here]
      have differs : key entries[j] ≠ key entry := by
        intro sameKey
        have mapped : i < (entries.map key).length ∧
            j < (entries.map key).length := by
          rw [List.length_map]
          exact ⟨inside, within⟩
        have keys : (entries.map key).get ⟨i, mapped.1⟩ =
            (entries.map key).get ⟨j, mapped.2⟩ := by
          rw [List.get_eq_getElem, List.get_eq_getElem, List.getElem_map,
            List.getElem_map, same, sameKey]
        exact here (distinct.getElem_inj_iff.mp keys)
      rw [if_neg differs]

end CountedSlots

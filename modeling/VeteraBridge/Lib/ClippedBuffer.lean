import VeteraBridge.Lib.CheckedMemory

/-!
# Pieces clipped to a buffer

A range of an array is filled with pieces, one behind the other.  What goes
beyond the range is clipped, and a terminator stands behind what is there.  A
part of the pieces may be put in the rest of the range as if it were a buffer of
its own.
-/

namespace ClippedBuffer

open CheckedMemory

universe u

variable {α : Type u} {n start : Nat} {array : List α}

/-- As much of the pieces as a buffer of `n` items takes. -/
def clip (n : Nat) (pieces : List (List α)) : List α :=
  pieces.flatten.take (n - 1)

/-- What is stored of the pieces: nothing before there is a first one. -/
def stored (stop : α) (n : Nat) (pieces : List (List α)) : List α :=
  if pieces = [] then [] else clip n pieces ++ [stop]

theorem clip_nil : clip n ([] : List (List α)) = [] := by
  rw [clip, List.flatten_nil, List.take_nil]

theorem clip_length (n : Nat) (pieces : List (List α)) :
    (clip n pieces).length = min (n - 1) pieces.flatten.length :=
  List.length_take

theorem clip_length_lt (positive : 1 ≤ n) (pieces : List (List α)) :
    (clip n pieces).length < n := by
  rw [clip_length]
  omega

/-- More pieces are clipped to what the first ones leave. -/
theorem clip_append (n : Nat) (first second : List (List α)) :
    clip n (first ++ second) =
      clip n first ++ clip (n - (clip n first).length) second := by
  have rest : n - 1 - first.flatten.length =
      n - (clip n first).length - 1 := by
    rw [clip_length]
    omega
  rw [clip, List.flatten_append, List.take_append, rest]
  rfl

theorem stored_nil {stop : α} : stored stop n ([] : List (List α)) = [] :=
  if_pos rfl

theorem stored_of_ne_nil {stop : α} {pieces : List (List α)}
    (nonempty : pieces ≠ []) :
    stored stop n pieces = clip n pieces ++ [stop] :=
  if_neg nonempty

theorem stored_length_le (stop : α) (positive : 1 ≤ n)
    (pieces : List (List α)) :
    (stored stop n pieces).length ≤ n := by
  have short := clip_length_lt positive pieces
  unfold stored
  split
  · exact Nat.zero_le n
  · rw [List.length_append]
    exact short

/-- Pieces in the rest of the buffer are pieces of the buffer. -/
theorem splice_stored (stop : α) (inside : start ≤ array.length)
    (first second : List (List α)) :
    splice (splice array start (stored stop n first))
        (start + (clip n first).length)
        (stored stop (n - (clip n first).length) second) =
      splice array start (stored stop n (first ++ second)) := by
  by_cases none : second = []
  · rw [none, stored_nil, splice_nil, List.append_nil]
  have shape : stored stop n first =
      clip n first ++ if first = [] then [] else [stop] := by
    by_cases empty : first = []
    · rw [if_pos empty, empty, stored_nil, clip_nil, List.append_nil]
    · rw [if_neg empty, stored_of_ne_nil empty]
  have covered : (if first = [] then [] else [stop]).length ≤
      (stored stop (n - (clip n first).length) second).length := by
    rw [stored_of_ne_nil none, List.length_append]
    split
    · exact Nat.zero_le _
    · exact Nat.le_add_left 1 _
  rw [shape, splice_splice inside (clip n first) covered,
    stored_of_ne_nil none,
    stored_of_ne_nil (List.append_ne_nil_of_right_ne_nil first none),
    clip_append, List.append_assoc]

section Contents

variable (stop : α) (positive : 1 ≤ n) (inside : start + n ≤ array.length)
  (pieces : List (List α))

include positive inside

theorem splice_stored_length :
    (splice array start (stored stop n pieces)).length = array.length := by
  have short := stored_length_le stop positive pieces
  exact splice_length (by omega)

/-- Nothing changes outside of the buffer. -/
theorem splice_stored_outside {i : Nat} (outside : i < start ∨ start + n ≤ i) :
    (splice array start (stored stop n pieces))[i]? = array[i]? := by
  have short := stored_length_le stop positive pieces
  rcases outside with before | behind
  · exact splice_before (by omega) _ before
  · exact splice_behind (by omega) _ (by omega)

/-- The buffer begins with what the pieces are clipped to. -/
theorem splice_stored_text :
    clip n pieces <+:
      (splice array start (stored stop n pieces)).drop start := by
  rw [splice_drop (by omega)]
  by_cases none : pieces = []
  · rw [none, clip_nil]
    exact List.nil_prefix
  · rw [stored_of_ne_nil none, List.append_assoc]
    exact List.prefix_append _ _

/-- The terminator stands behind them. -/
theorem splice_stored_stop (nonempty : pieces ≠ []) :
    (splice array start (stored stop n pieces))[
        start + (clip n pieces).length]? = some stop := by
  have within : (clip n pieces).length < (stored stop n pieces).length := by
    rw [stored_of_ne_nil nonempty, List.length_append]
    exact Nat.lt_succ_self _
  rw [splice_inside (by omega) within, stored_of_ne_nil nonempty,
    List.getElem?_concat_length]

end Contents

end ClippedBuffer

import Mathlib.Data.List.Basic

/-!
# A copy buffer with an offset

The buffer of a copying loop: it is filled from its source only when it is
empty, and drained to its sink a part at a time, with an offset that counts
what has gone out.  `pending` is what the sink still has to get; filling and
draining act on it as on a queue.
-/

universe u

structure CopyBuffer (α : Type u) where
  data : List α
  off : Nat
deriving DecidableEq, Repr

namespace CopyBuffer

variable {α : Type u}

def empty : CopyBuffer α := ⟨[], 0⟩

/-- What has not gone out yet. -/
def pending (buffer : CopyBuffer α) : List α :=
  buffer.data.drop buffer.off

/-- The buffer after `count` more elements have gone out; a drained buffer is
reset. -/
def drain (buffer : CopyBuffer α) (count : Nat) : CopyBuffer α :=
  if buffer.off + count = buffer.data.length then empty
  else ⟨buffer.data, buffer.off + count⟩

def fill (data : List α) : CopyBuffer α := ⟨data, 0⟩

/-- The offset lies in the data, and the data in the capacity. -/
structure Within (capacity : Nat) (buffer : CopyBuffer α) : Prop where
  off_le : buffer.off ≤ buffer.data.length
  length_le : buffer.data.length ≤ capacity

@[simp]
theorem pending_fill (data : List α) : (fill data).pending = data := rfl

@[simp]
theorem data_empty : (empty : CopyBuffer α).data = [] := rfl

theorem pending_of_data_nil {buffer : CopyBuffer α}
    (nothing : buffer.data = []) : buffer.pending = [] := by
  rw [pending, nothing, List.drop_nil]

theorem pending_drain (buffer : CopyBuffer α) (count : Nat) :
    (buffer.drain count).pending = buffer.pending.drop count := by
  unfold drain pending
  split
  · next drained =>
    rw [List.drop_drop, drained, List.drop_length, data_empty, List.drop_nil]
  · rw [List.drop_drop]

/-- What goes out in front of what stays is what was pending. -/
theorem take_append_pending_drain (buffer : CopyBuffer α) (count : Nat) :
    buffer.pending.take count ++ (buffer.drain count).pending =
      buffer.pending := by
  rw [pending_drain, List.take_append_drop]

theorem Within.empty (capacity : Nat) :
    Within capacity (CopyBuffer.empty : CopyBuffer α) :=
  ⟨Nat.le_refl 0, Nat.zero_le capacity⟩

theorem Within.fill {capacity : Nat} {data : List α}
    (fits : data.length ≤ capacity) : Within capacity (fill data) :=
  ⟨Nat.zero_le _, fits⟩

theorem Within.drain {capacity : Nat} {buffer : CopyBuffer α}
    (within : Within capacity buffer) {count : Nat}
    (bound : count ≤ buffer.pending.length) :
    Within capacity (buffer.drain count) := by
  obtain ⟨off_le, length_le⟩ := within
  rw [pending, List.length_drop] at bound
  unfold CopyBuffer.drain
  split
  · exact Within.empty capacity
  · refine ⟨?_, length_le⟩
    change buffer.off + count ≤ buffer.data.length
    omega

end CopyBuffer

import VeteraBridge.Lib.CopyBuffer

/-!
# Streams that are copied through a buffer

A property of a history holds at all times if it holds of every prefix of the
history.  A copying loop carries a stream if what it has put out, with what is
still pending in its buffer, is what it owes for what it has taken in; filling
and draining the buffer keep that, and it says that the output is a prefix of
what is owed.
-/

universe u

variable {α : Type u}

/-! ## Histories -/

/-- The property holds of every prefix of the history. -/
def AtAllTimes (Holds : List α → Prop) (history : List α) : Prop :=
  ∀ earlier, earlier <+: history → Holds earlier

section Histories

variable {Holds : List α → Prop} {history : List α}

theorem AtAllTimes.now (always : AtAllTimes Holds history) : Holds history :=
  always history (List.prefix_refl history)

theorem AtAllTimes.snoc (always : AtAllTimes Holds history) {event : α}
    (next : Holds (history ++ [event])) :
    AtAllTimes Holds (history ++ [event]) := by
  intro earlier before
  rcases List.prefix_concat_iff.mp before with all | some
  · rw [all]
    exact next
  · exact always earlier some

theorem atAllTimes_singleton {event : α} (initially : Holds [])
    (next : Holds [event]) : AtAllTimes Holds [event] := by
  have empty : AtAllTimes Holds [] := by
    intro earlier before
    rw [List.prefix_nil.mp before]
    exact initially
  exact empty.snoc next

end Histories

/-! ## Streams -/

/-- What is owed grows from here on by exactly what is taken in. -/
def PassesOn (owed : List α → List α) (input : List α) : Prop :=
  ∀ more, owed (input ++ more) = owed input ++ more

theorem PassesOn.append {owed : List α → List α} {input : List α}
    (passesOn : PassesOn owed input) (more : List α) :
    PassesOn owed (input ++ more) := by
  intro evenMore
  rw [List.append_assoc, passesOn, passesOn, List.append_assoc]

/-- The buffer holds exactly what is owed and has not gone out. -/
structure Carries (owed : List α → List α) (buffer : CopyBuffer α)
    (input output : List α) : Prop where
  passesOn : PassesOn owed input
  balance : output ++ buffer.pending = owed input

section Streams

variable {owed : List α → List α} {buffer : CopyBuffer α}
  {input output : List α}

theorem Carries.output_prefix (carries : Carries owed buffer input output) :
    output <+: owed input :=
  ⟨buffer.pending, carries.balance⟩

theorem Carries.output_eq (carries : Carries owed buffer input output)
    (drained : buffer.pending = []) : output = owed input := by
  rw [← carries.balance, drained, List.append_nil]

theorem Carries.drain (carries : Carries owed buffer input output)
    (count : Nat) :
    Carries owed (buffer.drain count) input
      (output ++ buffer.pending.take count) := by
  refine ⟨carries.passesOn, ?_⟩
  rw [List.append_assoc, CopyBuffer.take_append_pending_drain,
    carries.balance]

theorem Carries.fill (carries : Carries owed buffer input output)
    (drained : buffer.pending = []) (data : List α) :
    Carries owed (CopyBuffer.fill data) (input ++ data) output := by
  refine ⟨carries.passesOn.append data, ?_⟩
  rw [CopyBuffer.pending_fill, carries.output_eq drained,
    carries.passesOn data]

end Streams

import VeteraBridge.Link.AutoSecurity

/-!
# The name of a phone

In auto mode a phone whose name contains one of the listed models is let in
without security, in any letter case.  The name is copied into a buffer of 32
bytes first, and looked for in the copy: a model the copy cuts off is missed.
-/

namespace VeteraBridge.Link

open Proxy (ascii cstr tolower)

/-! ## Looking for a model -/

theorem startsNocase_iff (hay needle : List UInt8) :
    startsNocase hay needle = true ↔
      needle.map tolower <+: hay.map tolower := by
  induction needle generalizing hay with
  | nil =>
      simp [startsNocase]
  | cons n needle inductionHypothesis =>
      cases hay with
      | nil => simp [startsNocase]
      | cons c hay =>
          rw [startsNocase, Bool.and_eq_true, inductionHypothesis,
            List.map_cons, List.map_cons, List.cons_prefix_cons, beq_iff_eq,
            eq_comm]

/-- `contains_nocase` is containment of the folded strings. -/
theorem containsNocase_iff {needle : List UInt8} (present : needle ≠ [])
    (hay : List UInt8) :
    containsNocase hay needle = true ↔
      needle.map tolower <:+: hay.map tolower := by
  induction hay with
  | nil =>
      simp [containsNocase, present]
  | cons c hay inductionHypothesis =>
      rw [containsNocase, Bool.or_eq_true, startsNocase_iff,
        inductionHypothesis, List.map_cons, List.infix_cons_iff]

/-- A listed model stands in the name, in any letter case, and ends within its
first `n` bytes. -/
def ModelWithin (n : Nat) (name : List UInt8) : Prop :=
  ∃ model ∈ nosecNames, ∃ before after,
    name.map tolower = before ++ model.map tolower ++ after ∧
      before.length + model.length ≤ n

/-- A listed model stands in the name, in any letter case. -/
def NamesModel (name : List UInt8) : Prop :=
  ∃ model ∈ nosecNames, model.map tolower <:+: name.map tolower

theorem model_present {model : List UInt8} (listed : model ∈ nosecNames) :
    model ≠ [] := by
  rintro rfl
  revert listed
  decide

theorem isNosecName_iff (name : List UInt8) :
    isNosecName name = true ↔ NamesModel name := by
  rw [isNosecName, List.any_eq_true]
  constructor
  · rintro ⟨model, listed, contains⟩
    exact ⟨model, listed,
      (containsNocase_iff (model_present listed) name).mp contains⟩
  · rintro ⟨model, listed, contains⟩
    exact ⟨model, listed,
      (containsNocase_iff (model_present listed) name).mpr contains⟩

/-- What stands in the beginning of a list stands in the list and ends in that
beginning. -/
theorem infix_take_iff {α : Type} (part whole : List α) (n : Nat) :
    part <:+: whole.take n ↔
      ∃ before after, whole = before ++ part ++ after ∧
        (before.length + part.length ≤ n ∨ part = []) := by
  constructor
  · rintro ⟨before, after, same⟩
    refine ⟨before, after ++ whole.drop n, ?_, Or.inl ?_⟩
    · rw [← List.append_assoc, same, List.take_append_drop]
    · have short := congrArg List.length same
      rw [List.length_append, List.length_append, List.length_take] at short
      omega
  · rintro ⟨before, after, rfl, inside | rfl⟩
    · have fits : (before ++ part).length ≤ n := by
        rwa [List.length_append]
      rw [List.take_append, List.take_of_length_le fits]
      exact (List.infix_append before part []).trans
        ⟨[], after.take (n - (before ++ part).length), by simp⟩
    · exact List.nil_infix

/-- A name is treated as that of a no-security model when a model stands within
the bytes that are copied. -/
theorem isNosecName_copied_iff (name : List UInt8) :
    isNosecName (copiedName name) = true ↔
      ModelWithin (btNameMax - 1) (cstr name) := by
  rw [isNosecName_iff, NamesModel, copiedName, ModelWithin]
  constructor
  · rintro ⟨model, listed, contains⟩
    rw [List.map_take, infix_take_iff] at contains
    obtain ⟨before, after, same, inside | empty⟩ := contains
    · rw [List.length_map] at inside
      exact ⟨model, listed, before, after, same, inside⟩
    · exact absurd (List.map_eq_nil_iff.mp empty) (model_present listed)
  · rintro ⟨model, listed, before, after, same, inside⟩
    refine ⟨model, listed, ?_⟩
    rw [List.map_take, infix_take_iff]
    refine ⟨before, after, same, Or.inl ?_⟩
    rwa [List.length_map]

/-! ## The decision -/

/-- The phone that is held is let in without security once it tells its
name. -/
def LetsIn (s : LinkState) (name : List UInt8) : Prop :=
  .acceptConnection s.autoCid ∈ (s.step (.nameComplete s.autoAddr 0 name)).calls

/-- A phone is waiting for its name to be told. -/
structure AwaitsName (s : LinkState) : Prop where
  held : s.autoCid ≠ 0
  idle : s.autoSecPending = false

theorem letsIn_iff {s : LinkState} (awaits : AwaitsName s)
    (name : List UInt8) :
    LetsIn s name ↔ isNosecName (copiedName name) = true := by
  have step :
      s.step (.nameComplete s.autoAddr 0 name) =
        autoDecide (some (copiedName name)) { s with calls := [] } := by
    simp [LinkState.step, LinkState.handle, autoNameComplete, awaits.held,
      awaits.idle]
  rw [LetsIn, step, autoDecide]
  cases listed : isNosecName (copiedName name) with
  | true =>
      simp [securesName, listed, LinkState.call, autoRelease]
  | false =>
      simp [securesName, listed, LinkState.call]

/-- A phone is let in without security exactly when its name contains a listed
model, provided that one of the models in the name ends within the first 31
bytes. -/
theorem letsIn_as_named_iff {s : LinkState} (awaits : AwaitsName s)
    (name : List UInt8) :
    (LetsIn s name ↔ NamesModel (cstr name)) ↔
      (NamesModel (cstr name) → ModelWithin 31 (cstr name)) := by
  rw [letsIn_iff awaits, isNosecName_copied_iff]
  have whole : ModelWithin 31 (cstr name) → NamesModel (cstr name) := by
    rintro ⟨model, listed, before, after, same, _⟩
    exact ⟨model, listed, before, after, same.symm⟩
  constructor
  · intro same
    exact same.mpr
  · intro within
    exact ⟨whole, within⟩

/-- A phone has opened a channel in auto mode. -/
def phoneWaiting : LinkState :=
  (LinkState.boot .btsecAuto).step (.incoming 1 2 (Vector.replicate 6 7) true)

theorem phoneWaiting_awaits : AwaitsName phoneWaiting :=
  ⟨by decide, by decide⟩

theorem letsIn_as_named_short :
    LetsIn phoneWaiting (ascii "my nokia n-gage") ↔
      NamesModel (cstr (ascii "my nokia n-gage")) := by
  refine (letsIn_as_named_iff phoneWaiting_awaits _).mpr ?_
  intro _
  exact ⟨ascii "N-Gage", by decide, ascii "my nokia ", [], by decide, by decide⟩

/-- A model at the end of a long name is missed. -/
theorem long_name_missed :
    ¬ ∀ s, AwaitsName s → ∀ name : List UInt8, name.length ≤ 248 →
      (LetsIn s name ↔ NamesModel (cstr name)) := by
  intro always
  have letIn :=
    (always phoneWaiting phoneWaiting_awaits
      (ascii "the old telephone of the family 3650") (by decide)).mpr
        ⟨ascii "3650", by decide, ascii "the old telephone of the family ", [],
          by decide⟩
  revert letIn
  unfold LetsIn
  decide

end VeteraBridge.Link

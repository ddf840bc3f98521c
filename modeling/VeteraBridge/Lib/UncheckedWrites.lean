import VeteraBridge.Lib.CrashLogic

/-!
# Writes nobody checks

A program that makes one write after the other and looks at no result.  When
writes fail or the power is cut, some of them are left out, and any of them may
be.
-/

namespace CrashLogic

universe u

open Prog

variable {Store : Type u}

/-- One write after the other. -/
def unchecked : List (Store → Store) → Prog Store Unit
  | [] => .done ()
  | effect :: rest => .write effect fun _ => unchecked rest

/-- The store after these writes. -/
def written (made : List (Store → Store)) (store : Store) : Store :=
  made.foldl (fun store effect => effect store) store

/-- Whatever becomes of the writes, some of them are made. -/
theorem run_unchecked (effects : List (Store → Store)) (plan : List Outcome)
    (store : Store) :
    ∃ made, made.Sublist effects ∧
      ((unchecked effects).run plan store).2 = written made store := by
  induction effects generalizing plan store with
  | nil => exact ⟨[], List.Sublist.refl _, rfl⟩
  | cons effect rest inductionHypothesis =>
      rcases plan with _ | ⟨outcome, later⟩
      · obtain ⟨made, sublist, same⟩ := inductionHypothesis [] (effect store)
        exact ⟨effect :: made, sublist.cons_cons effect, same⟩
      · cases outcome with
        | succeeds =>
            obtain ⟨made, sublist, same⟩ :=
              inductionHypothesis later (effect store)
            exact ⟨effect :: made, sublist.cons_cons effect, same⟩
        | fails =>
            obtain ⟨made, sublist, same⟩ := inductionHypothesis later store
            exact ⟨made, sublist.cons effect, same⟩
        | cut => exact ⟨[], List.nil_sublist _, rfl⟩

/-- Any of the writes may be all that are made. -/
theorem exists_plan {made effects : List (Store → Store)}
    (sublist : made.Sublist effects) (store : Store) :
    ∃ plan, (unchecked effects).run plan store =
      (some (), written made store) := by
  induction sublist generalizing store with
  | slnil => exact ⟨[], rfl⟩
  | cons effect _ inductionHypothesis =>
      obtain ⟨plan, ran⟩ := inductionHypothesis store
      exact ⟨.fails :: plan, ran⟩
  | cons_cons effect _ inductionHypothesis =>
      obtain ⟨plan, ran⟩ := inductionHypothesis (effect store)
      exact ⟨.succeeds :: plan, ran⟩

/-- What every write keeps holds after some of them. -/
theorem written_keeps (keeps : Store → Prop) {effects : List (Store → Store)}
    (each : ∀ effect ∈ effects, ∀ store, keeps store → keeps (effect store))
    {made : List (Store → Store)} (sublist : made.Sublist effects)
    {store : Store} (here : keeps store) : keeps (written made store) := by
  induction made generalizing store with
  | nil => exact here
  | cons effect rest inductionHypothesis =>
      have isWrite := sublist.subset List.mem_cons_self
      exact inductionHypothesis ((List.sublist_cons_self _ _).trans sublist)
        (each effect isWrite store here)

end CrashLogic

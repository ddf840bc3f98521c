import Mathlib.Data.List.DropRight

/-!
# Cleaned texts

A text is cleaned by passing over the characters it begins with that may not
stand there, dropping those that may stand nowhere, cutting what is left to a
limit, and dropping the blanks it ends with.  Since the beginning is looked at
before anything is dropped, a blank behind a dropped character ends up in front;
only then is the cleaned text cleaned further.
-/

namespace Cleaning

universe u

variable {Letter : Type u} [DecidableEq Letter]
  (lead keep : Letter → Bool) (blank : Letter) (limit : Nat)

/-- The characters that are kept. -/
def kept (text : List Letter) : List Letter := (text.dropWhile lead).filter keep

def clean (text : List Letter) : List Letter :=
  ((kept lead keep text).take limit).rdropWhile (· == blank)

/-- What a text looks like in which nothing is left to be cleaned. -/
structure Clean (text : List Letter) : Prop where
  plain : ∀ c ∈ text, keep c = true
  head : text.head? ≠ some blank
  last : text.getLast? ≠ some blank
  fits : text.length ≤ limit

/-- Behind its beginning the text goes on with dropped characters and a blank,
and one of the characters that are kept behind that is not blank. -/
def Exposes (text : List Letter) : Prop :=
  ∃ dropped rest, text.dropWhile lead = dropped ++ blank :: rest ∧
    (∀ c ∈ dropped, keep c = false) ∧
    ∃ c ∈ (rest.filter keep).take (limit - 1), c ≠ blank

/-- What is passed over at the beginning is dropped elsewhere too, the blank
apart. -/
structure Trims : Prop where
  leadBlank : lead blank = true
  keepBlank : keep blank = true
  onlyBlank : ∀ c, lead c = true → keep c = true → c = blank

variable {lead keep blank limit} {text : List Letter}

/-! ## What cleaning gives -/

theorem clean_plain :
    ∀ c ∈ clean lead keep blank limit text, keep c = true := by
  intro c member
  have inTake := (List.rdropWhile_prefix _ _).subset member
  exact (List.mem_filter.mp (List.mem_of_mem_take inTake)).2

theorem clean_length_le :
    (clean lead keep blank limit text).length ≤ limit :=
  (List.rdropWhile_prefix _ _).length_le.trans (List.length_take_le _ _)

theorem rdropWhile_blank_iff :
    text.rdropWhile (· == blank) = text ↔ text.getLast? ≠ some blank := by
  rw [List.rdropWhile_eq_self_iff]
  by_cases empty : text = []
  · subst empty
    simp
  · rw [List.getLast?_eq_some_getLast empty]
    simp [empty]

theorem clean_last :
    (clean lead keep blank limit text).getLast? ≠ some blank :=
  rdropWhile_blank_iff.mp (List.rdropWhile_idempotent _ _)

/-- A text in which nothing is left to be cleaned is left alone. -/
theorem Clean.clean_eq (trims : Trims lead keep blank)
    (isClean : Clean keep blank limit text) :
    clean lead keep blank limit text = text := by
  have begins : text.dropWhile lead = text := by
    cases text with
    | nil => rfl
    | cons c rest =>
        apply List.dropWhile_cons_of_neg
        intro isLead
        have isBlank := trims.onlyBlank c isLead
          (isClean.plain c List.mem_cons_self)
        exact isClean.head (congrArg some isBlank)
  rw [clean, kept, begins, List.filter_eq_self.mpr isClean.plain,
    List.take_of_length_le isClean.fits]
  exact rdropWhile_blank_iff.mpr isClean.last

/-- A cleaned text is left alone by another cleaning exactly when it does not
begin with a blank. -/
theorem clean_clean_iff (trims : Trims lead keep blank) :
    clean lead keep blank limit (clean lead keep blank limit text) =
        clean lead keep blank limit text ↔
      (clean lead keep blank limit text).head? ≠ some blank := by
  constructor
  · intro same begins
    obtain ⟨rest, whole⟩ := List.head?_eq_some_iff.mp begins
    rw [whole] at same
    have shorter : (clean lead keep blank limit (blank :: rest)).length ≤
        rest.length := by
      rw [clean, kept, List.dropWhile_cons_of_pos trims.leadBlank]
      calc
        _ ≤ ((kept lead keep rest).take limit).length :=
            (List.rdropWhile_prefix _ _).length_le
        _ ≤ (kept lead keep rest).length := List.length_take_le' _ _
        _ ≤ (rest.dropWhile lead).length := List.length_filter_le _ _
        _ ≤ rest.length := (List.dropWhile_suffix _).length_le
    rw [same, List.length_cons] at shorter
    omega
  · intro begins
    apply Clean.clean_eq trims
    exact ⟨clean_plain, begins, clean_last, clean_length_le⟩

/-! ## When a blank ends up in front -/

theorem head?_rdropWhile_iff :
    (text.rdropWhile (· == blank)).head? = some blank ↔
      text.head? = some blank ∧ ∃ c ∈ text, c ≠ blank := by
  constructor
  · intro begins
    obtain ⟨rest, whole⟩ := List.head?_eq_some_iff.mp begins
    obtain ⟨more, same⟩ := List.rdropWhile_prefix (· == blank) text
    constructor
    · rw [← same, whole]
      rfl
    · by_contra allBlank
      have nothing : text.rdropWhile (· == blank) = [] := by
        rw [List.rdropWhile_eq_nil_iff]
        intro c member
        rw [beq_iff_eq]
        by_contra differs
        exact allBlank ⟨c, member, differs⟩
      rw [nothing] at whole
      cases whole
  · rintro ⟨begins, c, member, differs⟩
    have something : text.rdropWhile (· == blank) ≠ [] := by
      intro nothing
      rw [List.rdropWhile_eq_nil_iff] at nothing
      exact differs (beq_iff_eq.mp (nothing c member))
    obtain ⟨first, rest, whole⟩ := List.exists_cons_of_ne_nil something
    obtain ⟨more, same⟩ := List.rdropWhile_prefix (· == blank) text
    rw [whole] at same ⊢
    rw [← same] at begins
    exact begins

omit [DecidableEq Letter] in
/-- What is kept when only dropped characters stand before a blank. -/
theorem kept_of_split (trims : Trims lead keep blank)
    {dropped rest : List Letter}
    (split : text.dropWhile lead = dropped ++ blank :: rest)
    (noneKept : ∀ c ∈ dropped, keep c = false) :
    kept lead keep text = blank :: rest.filter keep := by
  have nothing : dropped.filter keep = [] := by
    rw [List.filter_eq_nil_iff]
    intro c inDropped
    rw [noneKept c inDropped]
    exact Bool.false_ne_true
  rw [kept, split, List.filter_append, nothing, List.nil_append,
    List.filter_cons_of_pos trims.keepBlank]

theorem clean_head_iff (trims : Trims lead keep blank) :
    (clean lead keep blank limit text).head? = some blank ↔
      Exposes lead keep blank limit text := by
  rw [clean, head?_rdropWhile_iff]
  cases limit with
  | zero =>
      constructor
      · rintro ⟨_, c, member, _⟩
        cases member
      · rintro ⟨_, _, _, _, c, member, _⟩
        cases member
  | succ limit =>
      constructor
      · rintro ⟨begins, c, member, differs⟩
        rw [List.head?_take, if_neg (Nat.succ_ne_zero limit), kept,
          List.head?_filter, List.find?_eq_some_iff_append] at begins
        obtain ⟨_, dropped, rest, split, notKept⟩ := begins
        have noneKept : ∀ c ∈ dropped, keep c = false := by
          intro c inDropped
          simpa using notKept c inDropped
        refine ⟨dropped, rest, split, noneKept, c, ?_, differs⟩
        rw [kept_of_split trims split noneKept, List.take_succ_cons] at member
        exact (List.mem_cons.mp member).resolve_left differs
      · rintro ⟨dropped, rest, split, noneKept, c, member, differs⟩
        rw [kept_of_split trims split noneKept, List.take_succ_cons]
        exact ⟨rfl, c, List.mem_cons_of_mem _ member, differs⟩

/-- Cleaning once more changes nothing unless a blank ended up in front. -/
theorem clean_again_iff (trims : Trims lead keep blank) :
    clean lead keep blank limit (clean lead keep blank limit text) =
        clean lead keep blank limit text ↔
      ¬ Exposes lead keep blank limit text := by
  rw [clean_clean_iff trims, ← clean_head_iff trims]

/-- A cleaned text is clean unless a blank ended up in front. -/
theorem clean_iff (trims : Trims lead keep blank) :
    Clean keep blank limit (clean lead keep blank limit text) ↔
      ¬ Exposes lead keep blank limit text := by
  rw [← clean_head_iff trims]
  constructor
  · exact Clean.head
  · exact fun begins => ⟨clean_plain, begins, clean_last, clean_length_le⟩

/-! ## What the limit cuts -/

section Limit

variable {Item : Type u} {p : Item → Bool} {items more : List Item}

theorem rdropWhile_append_of_all (all : ∀ c ∈ more, p c = true) :
    (items ++ more).rdropWhile p = items.rdropWhile p := by
  rw [List.rdropWhile, List.rdropWhile, List.reverse_append,
    List.dropWhile_append_of_pos]
  intro c member
  exact all c (List.mem_reverse.mp member)

theorem rdropWhile_append_of_ne_nil (some : more.rdropWhile p ≠ []) :
    (items ++ more).rdropWhile p = items ++ more.rdropWhile p := by
  have kept : more.reverse.dropWhile p ≠ [] := by
    intro nothing
    apply some
    rw [List.rdropWhile, nothing, List.reverse_nil]
  rw [List.rdropWhile, List.rdropWhile, List.reverse_append,
    List.dropWhile_append]
  simp [kept]

theorem rdropWhile_cons_of_not {first : Item} (stays : p first = false) :
    (first :: items).rdropWhile p = first :: items.rdropWhile p := by
  rw [← List.singleton_append]
  by_cases nothing : items.rdropWhile p = []
  · have all := List.rdropWhile_eq_nil_iff.mp nothing
    rw [rdropWhile_append_of_all all, nothing, List.rdropWhile_singleton, stays]
    rfl
  · rw [rdropWhile_append_of_ne_nil nothing, List.singleton_append]

/-- Behind a place at which something stays, everything before it stays. -/
theorem lt_length_rdropWhile {n : Nat}
    (stays : ∃ c ∈ items.drop n, p c = false) :
    n < (items.rdropWhile p).length := by
  obtain ⟨c, member, stay⟩ := stays
  have some : (items.drop n).rdropWhile p ≠ [] := by
    intro nothing
    rw [List.rdropWhile_eq_nil_iff] at nothing
    rw [nothing c member] at stay
    cases stay
  have inside : n < items.length := by
    have positive := List.length_pos_iff.mpr (List.ne_nil_of_mem member)
    rw [List.length_drop] at positive
    omega
  have whole := List.take_append_drop n items
  rw [← whole, rdropWhile_append_of_ne_nil some, List.length_append,
    List.length_take, Nat.min_eq_left inside.le]
  have positive := List.length_pos_iff.mpr some
  omega

theorem rdropWhile_take_of_all {n : Nat}
    (all : ∀ c ∈ items.drop n, p c = true) :
    (items.take n).rdropWhile p = items.rdropWhile p := by
  have whole := List.take_append_drop n items
  conv_rhs => rw [← whole, rdropWhile_append_of_all all]

/-! ## What cleaning leaves in a text -/

variable {part : List Item}

/-- A part without blanks does not begin in the blanks before a text. -/
theorem infix_append_of_all (present : part ≠ [])
    (noBlank : ∀ c ∈ part, p c = false) (all : ∀ c ∈ items, p c = true) :
    part <:+: items ++ more ↔ part <:+: more := by
  induction items with
  | nil => rfl
  | cons c items inductionHypothesis =>
      rw [List.cons_append, List.infix_cons_iff,
        inductionHypothesis
          fun c member => all c (List.mem_cons_of_mem _ member)]
      constructor
      · rintro (begins | inside)
        · obtain ⟨first, rest, rfl⟩ := List.exists_cons_of_ne_nil present
          have same := (List.cons_prefix_cons.mp begins).1
          have isBlank := all c List.mem_cons_self
          rw [← same, noBlank first List.mem_cons_self] at isBlank
          cases isBlank
        · exact inside
      · exact Or.inr

/-- A part without blanks stays when the blanks at the end are dropped. -/
theorem infix_rdropWhile_iff (present : part ≠ [])
    (noBlank : ∀ c ∈ part, p c = false) :
    part <:+: items.rdropWhile p ↔ part <:+: items := by
  have front := List.takeWhile_append_dropWhile (p := p) (l := items.reverse)
  have dropped :
      part.reverse <:+:
          items.reverse.takeWhile p ++ items.reverse.dropWhile p ↔
        part.reverse <:+: items.reverse.dropWhile p := by
    apply infix_append_of_all
    · exact fun nothing => present (List.reverse_eq_nil_iff.mp nothing)
    · exact fun c member => noBlank c (List.mem_reverse.mp member)
    · exact fun c member => List.mem_takeWhile_imp member
  rw [front, List.reverse_infix] at dropped
  rw [dropped, List.rdropWhile, ← List.reverse_infix, List.reverse_reverse]

end Limit

end Cleaning

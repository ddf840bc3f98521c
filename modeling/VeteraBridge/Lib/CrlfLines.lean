import Mathlib.Data.List.Forall2

/-!
# Lines that end in CR LF

A text is split into lines at each CR followed by LF.  Another reader splits it
into pieces at each CR, whatever the byte after it, which it takes along.  Here
is which pieces begin a line, and that nothing else does.
-/

namespace CrlfLines

universe u

section Text

variable {α : Type u}

/-- A text in front of the first line. -/
def attach (front : List α) : List (List α) → List (List α)
  | [] => [front]
  | line :: rest => (front ++ line) :: rest

theorem attach_tail (front : List α) (rest : List (List α)) :
    (attach front rest).tail = rest.tail := by
  cases rest with
  | nil => rfl
  | cons line rest => rfl

theorem attach_attach (first second : List α) (rest : List (List α)) :
    attach first (attach second rest) = attach (first ++ second) rest := by
  cases rest with
  | nil => rfl
  | cons line rest => simp [attach]

/-- Each CR ends a line. -/
def Clean (cr lf : α) (text : List α) : Prop :=
  ∀ i, text[i]? = some cr → text[i + 1]? = some lf

theorem Clean.tail {cr lf c : α} {text : List α}
    (clean : Clean cr lf (c :: text)) : Clean cr lf text := by
  intro i isCr
  simpa using clean (i + 1) (by simpa using isCr)

/-- Lines that begin with a blank go on with the line before: what goes on with
a line before the first, and the lines put together. -/
def unfoldLines (blank : α → Bool) : List (List α) → List α × List (List α)
  | [] => ([], [])
  | line :: rest =>
      let others := unfoldLines blank rest
      if line.head?.any blank then (line ++ others.1, others.2)
      else ([], (line ++ others.1) :: others.2)

section Folding

variable {blank : α → Bool}

theorem unfoldLines_cons {line : List α} (begins : line.head?.any blank = false)
    (rest : List (List α)) :
    unfoldLines blank (line :: rest) =
      ([], (line ++ (unfoldLines blank rest).1) ::
        (unfoldLines blank rest).2) := by
  rw [unfoldLines, begins]
  rfl

theorem unfoldLines_folds {folds : List (List α)}
    (goOn : ∀ line ∈ folds, line.head?.any blank = true)
    (rest : List (List α)) :
    unfoldLines blank (folds ++ rest) =
      (folds.flatten ++ (unfoldLines blank rest).1,
        (unfoldLines blank rest).2) := by
  induction folds with
  | nil => rfl
  | cons line folds inductionHypothesis =>
      have others := inductionHypothesis
        fun line member => goOn line (List.mem_cons_of_mem _ member)
      rw [List.cons_append, unfoldLines, others,
        if_pos (goOn line List.mem_cons_self), List.flatten_cons,
        List.append_assoc]

/-- A line with the lines that go on with it. -/
theorem unfoldLines_line {line : List α} {folds : List (List α)}
    (begins : line.head?.any blank = false)
    (goOn : ∀ line ∈ folds, line.head?.any blank = true)
    (rest : List (List α)) :
    unfoldLines blank (line :: folds ++ rest) =
      ([], (line ++ folds.flatten ++ (unfoldLines blank rest).1) ::
        (unfoldLines blank rest).2) := by
  rw [List.cons_append, unfoldLines_cons begins, unfoldLines_folds goOn,
    List.append_assoc]

end Folding

end Text

variable {α : Type u} [DecidableEq α] (cr lf : α)

/-- The lines of a text; after a final CR LF there is an empty one. -/
def lines : List α → List (List α)
  | [] => [[]]
  | [c] => [[c]]
  | c :: d :: rest =>
      if c = cr ∧ d = lf then [] :: lines rest
      else attach [c] (lines (d :: rest))

/-- A text without CR, and the byte after the CR that ends it. -/
abbrev Piece (α : Type u) := List α × α

/-- The text of pieces. -/
def join (pieces : List (Piece α)) : List α :=
  pieces.flatMap fun piece => piece.1 ++ [cr, piece.2]

/-- The line that a piece begins behind one that ends in CR and `last`: behind
CR LF all of it, and behind CR CR what follows its LF. -/
def begins (last : α) (text : List α) : Option (List α) :=
  if last = lf then some text
  else if last = cr ∧ text.head? = some lf then some text.tail
  else none

/-- The pieces that begin a line behind another piece. -/
def begun : List (Piece α) → List (Piece α)
  | first :: second :: rest =>
      ((begins cr lf first.2 second.1).map (·, second.2)).toList ++
        begun (second :: rest)
  | _ => []

/-- The line a piece begins: the piece, or more if CR is not followed by LF. -/
def Continues (line : List α) (piece : Piece α) : Prop :=
  if piece.2 = lf then line = piece.1 else (piece.1 ++ [cr]) <+: line

variable {cr lf}

theorem lines_ne_nil (text : List α) : lines cr lf text ≠ [] := by
  fun_induction lines cr lf text with
  | case1 => simp
  | case2 c => simp
  | case3 c d rest ends inductionHypothesis => simp
  | case4 c d rest goesOn inductionHypothesis =>
      cases others : lines cr lf (d :: rest) with
      | nil => exact absurd others inductionHypothesis
      | cons line others => simp [attach]

theorem lines_crlf (text : List α) :
    lines cr lf (cr :: lf :: text) = [] :: lines cr lf text := by
  rw [lines, if_pos ⟨rfl, rfl⟩]

theorem lines_cons {c : α} {text : List α}
    (goesOn : ¬ (c = cr ∧ text.head? = some lf)) :
    lines cr lf (c :: text) = attach [c] (lines cr lf text) := by
  cases text with
  | nil => rfl
  | cons d rest =>
      have apart : ¬ (c = cr ∧ d = lf) := by simpa using goesOn
      rw [lines, if_neg apart]

/-- A text without CR is the beginning of a line. -/
theorem lines_append {front : List α} (plain : cr ∉ front) (text : List α) :
    lines cr lf (front ++ text) = attach front (lines cr lf text) := by
  induction front with
  | nil =>
      cases others : lines cr lf text with
      | nil => exact absurd others (lines_ne_nil text)
      | cons line others => simp [attach, others]
  | cons c front inductionHypothesis =>
      rw [List.mem_cons, not_or] at plain
      rw [List.cons_append, lines_cons (fun ends => plain.1 ends.1.symm),
        inductionHypothesis plain.2, attach_attach, List.singleton_append]

theorem lines_plain {text : List α} (plain : cr ∉ text) :
    lines cr lf text = [text] := by
  have whole : lines cr lf (text ++ []) = attach text (lines cr lf []) :=
    lines_append plain []
  rw [List.append_nil] at whole
  rw [whole, lines, attach, List.append_nil]

section Piece

variable {piece : Piece α} (plain : cr ∉ piece.1) (text : List α)

include plain

theorem lines_piece_lf (ends : piece.2 = lf) :
    lines cr lf (piece.1 ++ cr :: piece.2 :: text) =
      piece.1 :: lines cr lf text := by
  rw [lines_append plain, ends, lines_crlf, attach, List.append_nil]

theorem lines_piece (goesOn : piece.2 ≠ lf) :
    lines cr lf (piece.1 ++ cr :: piece.2 :: text) =
      attach (piece.1 ++ [cr]) (lines cr lf (piece.2 :: text)) := by
  rw [lines_append plain, lines_cons (by simpa using goesOn), attach_attach]

end Piece

/-- Texts with CR LF between them are the lines. -/
theorem lines_join (texts : List (List α)) {last : List α}
    (plain : ∀ text ∈ texts, cr ∉ text) (plainLast : cr ∉ last) :
    lines cr lf (join cr (texts.map (·, lf)) ++ last) = texts ++ [last] := by
  induction texts with
  | nil => exact lines_plain plainLast
  | cons text rest inductionHypothesis =>
      have others := inductionHypothesis
        fun text member => plain text (List.mem_cons_of_mem _ member)
      have unfolded :
          join cr ((text :: rest).map (·, lf)) ++ last =
            text ++ cr :: lf :: (join cr (rest.map (·, lf)) ++ last) := by
        simp [join]
      rw [unfolded, List.cons_append, ← others]
      have ends : ((text, lf) : Piece α).2 = lf := rfl
      exact lines_piece_lf (plain text List.mem_cons_self) _ ends

section Piece

variable {piece : Piece α} (plain : cr ∉ piece.1) (text : List α)

include plain

/-- The line that begins with a piece. -/
theorem continues_head :
    ∃ line rest,
      lines cr lf (piece.1 ++ cr :: piece.2 :: text) = line :: rest ∧
        Continues cr lf line piece := by
  by_cases ends : piece.2 = lf
  · refine ⟨piece.1, _, lines_piece_lf plain text ends, ?_⟩
    rw [Continues, if_pos ends]
  · rw [lines_piece plain text ends]
    cases others : lines cr lf (piece.2 :: text) with
    | nil => exact absurd others (lines_ne_nil _)
    | cons line rest =>
        refine ⟨_, rest, rfl, ?_⟩
        rw [Continues, if_neg ends]
        exact List.prefix_append _ _

end Piece

/-! ## The lines that pieces begin -/

/-- A piece in front of a text whose first line another piece begins. -/
theorem begun_step {first : Piece α} (second : Piece α)
    (plain : cr ∉ first.1) {text line : List α} {others : List (List α)}
    {more : List (Piece α)}
    (split : lines cr lf text = line :: others)
    (continues : Continues cr lf line second)
    (rest : List.Forall₂ (Continues cr lf) others more)
    (sameHead : text.head? = some lf ↔ second.1.head? = some lf) :
    List.Forall₂ (Continues cr lf)
      (lines cr lf (first.1 ++ cr :: first.2 :: text)).tail
      (((begins cr lf first.2 second.1).map (·, second.2)).toList ++ more) := by
  by_cases ends : first.2 = lf
  · rw [lines_piece_lf plain text ends, begins, if_pos ends, List.tail_cons,
      split]
    exact .cons continues rest
  · rw [lines_piece plain text ends, begins, if_neg ends, attach_tail]
    by_cases crlf : first.2 = cr ∧ text.head? = some lf
    · obtain ⟨isCr, isLf⟩ := crlf
      have secondLf := sameHead.mp isLf
      obtain ⟨text, rfl⟩ := List.head?_eq_some_iff.mp isLf
      obtain ⟨left, isSecond⟩ := List.head?_eq_some_iff.mp secondLf
      rw [if_pos ⟨isCr, secondLf⟩, isCr, lines_crlf, List.tail_cons]
      have noCr : ¬ (lf = cr ∧ text.head? = some lf) :=
        fun same => ends (isCr.trans same.1.symm)
      rw [lines_cons noCr] at split
      cases lineOf : lines cr lf text with
      | nil => exact absurd lineOf (lines_ne_nil text)
      | cons line' others' =>
          rw [lineOf, attach, List.cons.injEq] at split
          obtain ⟨rfl, rfl⟩ := split
          refine .cons ?_ rest
          unfold Continues at continues ⊢
          rw [isSecond] at continues ⊢
          split at continues
          · next whole =>
            rw [if_pos whole]
            exact List.cons.inj continues |>.2
          · next more =>
            rw [if_neg more]
            exact (List.cons_prefix_cons.mp continues).2
    · rw [lines_cons crlf, attach_tail, split, if_neg]
      · exact rest
      · rwa [← sameHead]

/-- The lines behind the first are those that pieces begin. -/
theorem lines_begun (apart : cr ≠ lf) (first : Piece α)
    (rest : List (Piece α)) (plain : ∀ piece ∈ first :: rest, cr ∉ piece.1)
    {last : List α} (plainLast : cr ∉ last) :
    List.Forall₂ (Continues cr lf)
      (lines cr lf (join cr (first :: rest) ++ last)).tail
      (begun cr lf (first :: rest ++ [(last, lf)])) := by
  induction rest generalizing first with
  | nil =>
      have whole : Continues cr lf last (last, lf) := by
        rw [Continues, if_pos rfl]
      have step := begun_step (last, lf) (plain first List.mem_cons_self)
        (lines_plain plainLast) whole .nil Iff.rfl
      simpa [join, begun] using step
  | cons second rest inductionHypothesis =>
      have plainRest : ∀ piece ∈ second :: rest, cr ∉ piece.1 :=
        fun piece member => plain piece (List.mem_cons_of_mem _ member)
      have others := inductionHypothesis second plainRest
      have unfolded :
          join cr (second :: rest) ++ last =
            second.1 ++ cr :: second.2 :: (join cr rest ++ last) := by
        simp [join]
      obtain ⟨line, more, split, continues⟩ :
          ∃ line more,
            lines cr lf
                (second.1 ++ cr :: second.2 :: (join cr rest ++ last)) =
              line :: more ∧ Continues cr lf line second :=
        continues_head (plainRest second List.mem_cons_self) _
      rw [unfolded, split, List.tail_cons] at others
      have sameHead :
          (second.1 ++ cr :: second.2 :: (join cr rest ++ last)).head? =
            some lf ↔ second.1.head? = some lf := by
        cases second.1 with
        | nil => simp [apart]
        | cons c text => simp
      have step := begun_step second (plain first List.mem_cons_self) split
        continues others sameHead
      rw [← unfolded] at step
      simpa [join, begun] using step

/-- Of the first piece only its end matters. -/
theorem begun_cons {first other : Piece α} (same : first.2 = other.2)
    (rest : List (Piece α)) :
    begun cr lf (first :: rest) = begun cr lf (other :: rest) := by
  cases rest with
  | nil => rfl
  | cons second rest => rw [begun, begun, same]

theorem begun_snoc (pieces : List (Piece α)) (before last : Piece α) :
    begun cr lf (pieces ++ [before, last]) =
      begun cr lf (pieces ++ [before]) ++
        ((begins cr lf before.2 last.1).map (·, last.2)).toList := by
  induction pieces with
  | nil => simp [begun]
  | cons first rest inductionHypothesis =>
      cases rest with
      | nil => simp [begun]
      | cons second rest =>
          simp only [List.cons_append, begun] at inductionHypothesis ⊢
          rw [inductionHypothesis, List.append_assoc]

section Begun

variable {found : List (List α)} {pieces : List (Piece α)}

/-- An empty line is begun by an empty piece that ends in CR LF. -/
theorem empty_mem_iff (same : List.Forall₂ (Continues cr lf) found pieces) :
    [] ∈ found ↔ ([], lf) ∈ pieces := by
  induction same with
  | nil => simp
  | @cons line piece found pieces continues _ inductionHypothesis =>
      have here : [] = line ↔ ([], lf) = piece := by
        unfold Continues at continues
        split at continues
        · next ends => rw [continues, Prod.ext_iff, ends]; simp
        · next goesOn =>
          refine iff_of_false ?_ ?_
          · rintro rfl
            simp at continues
          · rintro rfl
            exact goesOn rfl
      rw [List.mem_cons, List.mem_cons, inductionHypothesis, here]

/-- A test that looks no further than the first CR selects the lines by the
pieces that begin them. -/
theorem filter_begun (same : List.Forall₂ (Continues cr lf) found pieces)
    {test : List α → Bool}
    (stops : ∀ text rest, test (text ++ cr :: rest) = test text) :
    List.Forall₂ (Continues cr lf) (found.filter test)
      (pieces.filter (test ·.1)) := by
  refine List.rel_filter ?_ same
  intro line piece continues
  unfold Continues at continues
  split at continues
  · rw [continues]
  · obtain ⟨rest, rfl⟩ := continues
    show test _ = true ↔ test piece.1 = true
    rw [List.append_assoc, List.singleton_append, stops]

/-- One line is found, and it is `goal`, exactly if one piece is, and it is
`goal` with CR LF behind it. -/
theorem eq_singleton_iff (same : List.Forall₂ (Continues cr lf) found pieces)
    {goal : List α} (plain : cr ∉ goal) :
    found = [goal] ↔ pieces = [(goal, lf)] := by
  constructor
  · rintro rfl
    cases same with
    | @cons _ piece _ _ continues rest =>
        cases rest
        unfold Continues at continues
        split at continues
        · next ends => rw [← ends, continues]
        · obtain ⟨rest, rfl⟩ := continues
          simp at plain
  · rintro rfl
    cases same with
    | cons continues rest =>
        cases rest
        rw [Continues, if_pos rfl] at continues
        rw [continues]

end Begun

end CrlfLines

import Mathlib.Data.List.Infix

/-!
# Texts written symbol by symbol

A code writes each symbol as a word.  A writer with a bounded buffer stops
before a symbol that may not fit, so that what it leaves is the code of the
beginning of the text.  A reader that recognises each word whatever follows it
reads every coded text back.
-/

namespace SymbolCode

universe u v

variable {Symbol : Type u} {Letter : Type v} {code : Symbol → List Letter}
  {room : Nat → Bool} {limit : Nat} {dst : List Letter} {text : List Symbol}

/-! ## Writing -/

/-- Symbols are added while there is room behind what is written. -/
def write (code : Symbol → List Letter) (room : Nat → Bool) :
    List Letter → List Symbol → List Letter
  | dst, [] => dst
  | dst, symbol :: rest =>
    if room dst.length then write code room (dst ++ code symbol) rest else dst

/-- What is written is the code of the beginning of the text. -/
theorem write_front (dst : List Letter) (text : List Symbol) :
    ∃ front, front <+: text ∧
      write code room dst text = dst ++ front.flatMap code := by
  induction text generalizing dst with
  | nil =>
      refine ⟨[], List.nil_prefix, ?_⟩
      rw [write, List.flatMap_nil, List.append_nil]
  | cons symbol rest inductionHypothesis =>
      rw [write]
      split_ifs
      · obtain ⟨front, begins, written⟩ :=
          inductionHypothesis (dst ++ code symbol)
        refine ⟨symbol :: front, ?_, ?_⟩
        · exact List.cons_prefix_cons.mpr ⟨rfl, begins⟩
        · rw [written, List.flatMap_cons, List.append_assoc]
      · exact ⟨[], List.nil_prefix, by rw [List.flatMap_nil, List.append_nil]⟩

/-- What is written stays within a limit that every word for which there is
room keeps to. -/
theorem write_length_le
    (keeps : ∀ written symbol, room written = true →
      written + (code symbol).length ≤ limit)
    (short : dst.length ≤ limit) :
    (write code room dst text).length ≤ limit := by
  induction text generalizing dst with
  | nil =>
      exact short
  | cons symbol rest inductionHypothesis =>
      rw [write]
      split_ifs with fits
      · apply inductionHypothesis
        rw [List.length_append]
        exact keeps _ symbol fits
      · exact short

/-! ## Places in a coded text -/

/-- A letter of a coded text stands in the word of one of its symbols. -/
theorem flatMap_split {before after : List Letter} {letter : Letter}
    (same : text.flatMap code = before ++ letter :: after) :
    ∃ front symbol back inWord rest,
      text = front ++ symbol :: back ∧
        before = front.flatMap code ++ inWord ∧
        code symbol = inWord ++ letter :: rest ∧
        after = rest ++ back.flatMap code := by
  induction text generalizing before with
  | nil =>
      cases before <;> cases same
  | cons symbol others inductionHypothesis =>
      rw [List.flatMap_cons] at same
      rcases List.append_eq_append_iff.mp same with
        ⟨more, rfl, later⟩ | ⟨rest, whole, behind⟩
      · obtain ⟨front, other, back, inWord, rest, rfl, rfl, word, rfl⟩ :=
          inductionHypothesis later
        refine ⟨symbol :: front, other, back, inWord, rest, rfl, ?_, word, rfl⟩
        rw [List.flatMap_cons, List.append_assoc]
      · cases rest with
        | nil =>
            rw [List.nil_append] at behind
            have starts : others.flatMap code = [] ++ letter :: after :=
              behind.symm
            obtain ⟨front, other, back, inWord, rest, rfl, nothing, word,
              rfl⟩ := inductionHypothesis starts
            refine
              ⟨symbol :: front, other, back, inWord, rest, rfl, ?_, word, rfl⟩
            rw [List.flatMap_cons, List.append_assoc, ← nothing, whole,
              List.append_nil, List.append_nil]
        | cons first rest =>
            obtain ⟨rfl, rfl⟩ := List.cons_eq_cons.mp behind
            exact ⟨[], symbol, others, before, rest, rfl, rfl, whole, rfl⟩

/-! ## Reading -/

/-- Reading from the front: `next` gives a symbol and the length of its word,
and a letter that starts no word is passed over. -/
def read (next : List Letter → Option (Symbol × Nat)) :
    Nat → List Letter → List Symbol
  | _, [] => []
  | skipped + 1, _ :: rest => read next skipped rest
  | 0, letter :: rest =>
    match next (letter :: rest) with
    | some (symbol, length) => symbol :: read next (length - 1) rest
    | none => read next 0 rest

/-- `next` recognises the word of every symbol. -/
structure Recognises (next : List Letter → Option (Symbol × Nat))
    (code : Symbol → List Letter) : Prop where
  present : ∀ symbol, code symbol ≠ []
  next_word : ∀ symbol rest,
    next (code symbol ++ rest) = some (symbol, (code symbol).length)

variable {next : List Letter → Option (Symbol × Nat)}

theorem read_skipped (word rest : List Letter) :
    read next word.length (word ++ rest) = read next 0 rest := by
  induction word with
  | nil => rfl
  | cons letter word inductionHypothesis =>
      exact inductionHypothesis

/-- A coded text is read back. -/
theorem Recognises.read_flatMap (recognises : Recognises next code)
    (text : List Symbol) : read next 0 (text.flatMap code) = text := by
  induction text with
  | nil => rfl
  | cons symbol rest inductionHypothesis =>
      have found := recognises.next_word symbol (rest.flatMap code)
      rw [List.flatMap_cons]
      cases word : code symbol with
      | nil =>
          exact absurd word (recognises.present symbol)
      | cons letter word' =>
          rw [word, List.cons_append] at found
          rw [List.cons_append, read, found]
          simp only [List.length_cons, Nat.add_sub_cancel]
          rw [read_skipped, inductionHypothesis]

end SymbolCode

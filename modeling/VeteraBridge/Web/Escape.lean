import VeteraBridge.Lib.SymbolCode
import VeteraBridge.Web.PageSize

/-!
# Escaped text

`html_escape` as a code of bytes by words: a page that holds an escaped text
shows the text and nothing else, and a text that does not fit is cut between
two words.
-/

namespace VeteraBridge.Web

open Proxy (ascii cstr cstr_eq_self_iff not_mem_cstr)
open SymbolCode (Recognises)

/-- The bytes `html_escape` replaces, with their entities. -/
def entities : List (UInt8 × List UInt8) :=
  [(38, ascii "&amp;"), (60, ascii "&lt;"), (62, ascii "&gt;"),
    (34, ascii "&quot;")]

/-- What a browser reads at the beginning of a text: an entity, or a byte that
stands for itself. -/
def readHtml : List UInt8 → Option (UInt8 × Nat)
  | [] => none
  | c :: rest =>
    if c = 38 then
      some
        (((entities.find? fun e => e.2.isPrefixOf (c :: rest)).map
          fun e => (e.1, e.2.length)).getD (c, 1))
    else
      some (c, 1)

/-- The text that an escaped text shows. -/
def htmlUnescape (text : List UInt8) : List UInt8 :=
  SymbolCode.read readHtml 0 text

/-- A text that stays text on a page, also within quotes: each ampersand begins
one of the four entities. -/
structure Inert (text : List UInt8) : Prop where
  noMarkup : ∀ c ∈ text, c ≠ 60 ∧ c ≠ 62 ∧ c ≠ 34
  entity : ∀ before after, text = before ++ 38 :: after →
    ∃ e ∈ entities, e.2 <+: 38 :: after

/-! ## One byte -/

theorem escapeChar_plain {c : UInt8}
    (plain : c ≠ 38 ∧ c ≠ 60 ∧ c ≠ 62 ∧ c ≠ 34) : escapeChar c = [c] := by
  rw [escapeChar, if_neg plain.1, if_neg plain.2.1, if_neg plain.2.2.1,
    if_neg plain.2.2.2]

/-- A byte is replaced by its entity, or written as it is. -/
theorem escapeChar_cases (c : UInt8) :
    (c, escapeChar c) ∈ entities ∨
      (escapeChar c = [c] ∧ c ≠ 38 ∧ c ≠ 60 ∧ c ≠ 62 ∧ c ≠ 34) := by
  by_cases plain : c ≠ 38 ∧ c ≠ 60 ∧ c ≠ 62 ∧ c ≠ 34
  · exact Or.inr ⟨escapeChar_plain plain, plain⟩
  · left
    have special : c = 38 ∨ c = 60 ∨ c = 62 ∨ c = 34 := by
      tauto
    rcases special with rfl | rfl | rfl | rfl
    · decide
    · decide
    · decide
    · decide

theorem readHtml_entity {e : UInt8 × List UInt8} (member : e ∈ entities)
    (rest : List UInt8) :
    readHtml (e.2 ++ rest) = some (e.1, e.2.length) := by
  simp only [entities, List.mem_cons, List.not_mem_nil, or_false] at member
  rcases member with rfl | rfl | rfl | rfl
  · rfl
  · rfl
  · rfl
  · rfl

theorem entities_words :
    ∀ e ∈ entities, e.2.head? = some 38 ∧ 38 ∉ e.2.tail ∧
      60 ∉ e.2 ∧ 62 ∉ e.2 ∧ 34 ∉ e.2 := by
  decide

/-- A browser reads back what `html_escape` writes for a byte. -/
theorem readHtml_recognises : Recognises readHtml escapeChar where
  present := by
    intro c nothing
    rcases escapeChar_cases c with member | ⟨word, _⟩
    · have begins := (entities_words _ member).1
      rw [nothing] at begins
      cases begins
    · rw [word] at nothing
      cases nothing
  next_word := by
    intro c rest
    rcases escapeChar_cases c with member | ⟨word, plain, _⟩
    · exact readHtml_entity member rest
    · rw [word]
      exact if_neg plain

theorem escapeChar_noMarkup (c : UInt8) :
    ∀ b ∈ escapeChar c, b ≠ 60 ∧ b ≠ 62 ∧ b ≠ 34 := by
  intro b inWord
  rcases escapeChar_cases c with member | ⟨word, _, noMarkup⟩
  · obtain ⟨_, _, noLt, noGt, noQuot⟩ := entities_words _ member
    refine ⟨?_, ?_, ?_⟩
    · rintro rfl
      exact noLt inWord
    · rintro rfl
      exact noGt inWord
    · rintro rfl
      exact noQuot inWord
  · rw [word, List.mem_singleton] at inWord
    rwa [inWord]

/-- An ampersand in what is written for a byte begins an entity. -/
theorem escapeChar_ampersand {c : UInt8} {inWord rest : List UInt8}
    (word : escapeChar c = inWord ++ 38 :: rest) :
    inWord = [] ∧ (c, 38 :: rest) ∈ entities := by
  rcases escapeChar_cases c with member | ⟨alone, noAmpersand, _⟩
  · have tail := (entities_words _ member).2.1
    cases inWord with
    | nil =>
        rw [word] at member
        exact ⟨rfl, member⟩
    | cons first others =>
        rw [word] at tail
        exact absurd (by simp) tail
  · rw [alone] at word
    cases inWord with
    | nil =>
        exact absurd (List.cons_eq_cons.mp word).1 noAmpersand
    | cons first others =>
        have short := congrArg List.length word
        simp at short

/-! ## Texts -/

theorem flatMap_escapeChar_inert (text : List UInt8) :
    Inert (text.flatMap escapeChar) where
  noMarkup := by
    intro b member
    obtain ⟨c, _, inWord⟩ := List.mem_flatMap.mp member
    exact escapeChar_noMarkup c b inWord
  entity := by
    intro before after same
    obtain ⟨front, c, back, inWord, rest, _, _, word, rfl⟩ :=
      SymbolCode.flatMap_split same
    obtain ⟨_, member⟩ := escapeChar_ampersand word
    exact ⟨_, member, List.prefix_append (38 :: rest) _⟩

theorem htmlEscapeFrom_eq_write (n : Nat) (dst src : List UInt8) :
    htmlEscapeFrom n dst src =
      SymbolCode.write escapeChar (fun written => decide (written + 7 < n))
        dst src := by
  induction src generalizing dst with
  | nil => rfl
  | cons c rest inductionHypothesis =>
      rw [htmlEscapeFrom, SymbolCode.write, inductionHypothesis]
      simp only [decide_eq_true_eq]

/-- What `html_escape` leaves in any buffer is the escaped beginning of its
text, and leaves room for the NUL. -/
theorem htmlEscape_front (src : List UInt8) {n : Nat} (positive : 1 ≤ n) :
    (htmlEscape src n).length + 1 ≤ n ∧
      ∃ front, front <+: cstr src ∧
        htmlEscape src n = front.flatMap escapeChar := by
  rw [htmlEscape, htmlEscapeFrom_eq_write]
  constructor
  · have keeps : ∀ (written : Nat) (c : UInt8),
        decide (written + 7 < n) = true →
          written + (escapeChar c).length ≤ n - 1 := by
      intro written c fits
      have word := escapeChar_length_le c
      have below := of_decide_eq_true fits
      omega
    have empty : ([] : List UInt8).length ≤ n - 1 := Nat.zero_le _
    have short :
        (SymbolCode.write escapeChar
          (fun written => decide (written + 7 < n)) [] (cstr src)).length ≤
            n - 1 := SymbolCode.write_length_le keeps empty
    omega
  · exact SymbolCode.write_front [] (cstr src)

/-- `html_escape` into a buffer of six bytes for each byte of the text and its
NUL writes what `html_escape_len` counts; it cannot be taken for markup and
shows the text.  Any smaller buffer takes the escaped beginning of the text. -/
theorem htmlEscape_whole_or_cut (src : List UInt8) (n : Nat) :
    (6 * ((cstr src).length + 1) ≤ n →
      (htmlEscape src n).length = htmlEscapeLen src ∧
        Inert (htmlEscape src n) ∧
        htmlUnescape (htmlEscape src n) = cstr src) ∧
      (1 ≤ n →
        (htmlEscape src n).length + 1 ≤ n ∧
          ∃ front, front <+: cstr src ∧
            htmlEscape src n = htmlEscape front (6 * (front.length + 1)) ∧
            Inert (htmlEscape src n) ∧
            htmlUnescape (htmlEscape src n) = front) := by
  constructor
  · intro room
    have whole : htmlEscape src n = (cstr src).flatMap escapeChar :=
      htmlEscape_eq (by omega)
    refine ⟨?_, ?_, ?_⟩
    · rw [htmlEscapeLen_eq, whole]
      rfl
    · rw [whole]
      exact flatMap_escapeChar_inert _
    · rw [whole]
      exact readHtml_recognises.read_flatMap _
  · intro positive
    obtain ⟨fits, front, begins, cut⟩ := htmlEscape_front src positive
    have clean : cstr front = front := by
      rw [cstr_eq_self_iff]
      exact fun member => not_mem_cstr src (begins.subset member)
    refine ⟨fits, front, begins, ?_, ?_, ?_⟩
    · rw [cut, htmlEscape_eq (by rw [clean]; omega), escaped, clean]
    · rw [cut]
      exact flatMap_escapeChar_inert _
    · rw [cut]
      exact readHtml_recognises.read_flatMap _

end VeteraBridge.Web

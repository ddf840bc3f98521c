import Mathlib.Data.List.Basic

/-!
# Form encoding

`application/x-www-form-urlencoded` text as a relation between a byte string
and its encodings: a byte may be sent as an escape, a space as a plus sign, and
an unreserved byte as itself.  Decoding reads every encoding back; what it makes
of an encoding that is cut depends only on where the cut falls.
-/

namespace FormEncoding

/-- The value of a hexadecimal digit. -/
def hexValue (c : UInt8) : Option Nat :=
  if 48 ≤ c ∧ c ≤ 57 then some (c.toNat - 48)
  else if 65 ≤ c ∧ c ≤ 70 then some (c.toNat - 55)
  else if 97 ≤ c ∧ c ≤ 102 then some (c.toNat - 87)
  else none

/-- Two digits that stand for a byte. -/
def IsEscape (c hi lo : UInt8) : Prop :=
  hexValue hi = some (c.toNat / 16) ∧ hexValue lo = some (c.toNat % 16)

/-- Letters, digits and the four marks that need no escape. -/
def unreserved (c : UInt8) : Bool :=
  (48 ≤ c && c ≤ 57) || (65 ≤ c && c ≤ 90) || (97 ≤ c && c ≤ 122) ||
    c == 42 || c == 45 || c == 46 || c == 95

/-- `Encodes text sent` holds for each encoding `sent` of `text`. -/
inductive Encodes : List UInt8 → List UInt8 → Prop
  | nil : Encodes [] []
  | literal {c : UInt8} {text sent : List UInt8} :
      unreserved c = true → Encodes text sent → Encodes (c :: text) (c :: sent)
  | space {text sent : List UInt8} :
      Encodes text sent → Encodes (32 :: text) (43 :: sent)
  | escape {c hi lo : UInt8} {text sent : List UInt8} :
      IsEscape c hi lo → Encodes text sent →
      Encodes (c :: text) (37 :: hi :: lo :: sent)

/-- A byte outside an escape. -/
def plain (c : UInt8) : UInt8 := if c = 43 then 32 else c

/-- Decoding, with `pair` for the digits of an escape. -/
def decodeWith (pair : UInt8 → UInt8 → UInt8) : List UInt8 → List UInt8
  | [] => []
  | [c] => [plain c]
  | [c, d] => [plain c, plain d]
  | c :: hi :: lo :: rest =>
    if c = 37 then pair hi lo :: decodeWith pair rest
    else plain c :: decodeWith pair (hi :: lo :: rest)

/-- `pair` reads the digits of every escape. -/
def Reads (pair : UInt8 → UInt8 → UInt8) : Prop :=
  ∀ c hi lo, IsEscape c hi lo → pair hi lo = c

section Decoding

variable {pair : UInt8 → UInt8 → UInt8}

theorem decodeWith_plain {c : UInt8} (ordinary : c ≠ 37) (rest : List UInt8) :
    decodeWith pair (c :: rest) = plain c :: decodeWith pair rest := by
  rcases rest with _ | ⟨first, _ | ⟨second, rest⟩⟩
  · rfl
  · rfl
  · rw [decodeWith, if_neg ordinary]

theorem decodeWith_escape (hi lo : UInt8) (rest : List UInt8) :
    decodeWith pair (37 :: hi :: lo :: rest) =
      pair hi lo :: decodeWith pair rest := by
  rw [decodeWith, if_pos rfl]

theorem unreserved_ordinary {c : UInt8} (literal : unreserved c = true) :
    c ≠ 37 ∧ c ≠ 43 ∧ c ≠ 0 ∧ c ≠ 38 := by
  refine ⟨?_, ?_, ?_, ?_⟩ <;> rintro rfl <;> exact absurd literal (by decide)

/-- Decoding reads an encoding and goes on behind it. -/
theorem Encodes.decode_append (reads : Reads pair) {text sent : List UInt8}
    (encodes : Encodes text sent) (rest : List UInt8) :
    decodeWith pair (sent ++ rest) = text ++ decodeWith pair rest := by
  induction encodes with
  | nil =>
      rfl
  | literal isLiteral encodes inductionHypothesis =>
      obtain ⟨noEscape, noPlus, _, _⟩ := unreserved_ordinary isLiteral
      rw [List.cons_append, decodeWith_plain noEscape, inductionHypothesis,
        plain, if_neg noPlus, List.cons_append]
  | space encodes inductionHypothesis =>
      rw [List.cons_append, decodeWith_plain (by decide), inductionHypothesis,
        plain, if_pos rfl, List.cons_append]
  | escape isEscape encodes inductionHypothesis =>
      rw [List.cons_append, List.cons_append, List.cons_append,
        decodeWith_escape, inductionHypothesis, reads _ _ _ isEscape,
        List.cons_append]

theorem Encodes.decode (reads : Reads pair) {text sent : List UInt8}
    (encodes : Encodes text sent) : decodeWith pair sent = text := by
  have whole := encodes.decode_append reads []
  simpa [decodeWith] using whole

theorem decodeWith_length_le (sent : List UInt8) :
    (decodeWith pair sent).length ≤ sent.length := by
  fun_induction decodeWith pair sent with
  | case1 => simp
  | case2 c => simp
  | case3 c d => simp
  | case4 hi lo rest inductionHypothesis =>
      simp only [List.length_cons]
      omega
  | case5 c hi lo rest notEscape inductionHypothesis =>
      simp only [List.length_cons] at inductionHypothesis ⊢
      omega

end Decoding

/-- The digits and their values. -/
theorem hexValue_range {c : UInt8} {value : Nat}
    (digit : hexValue c = some value) :
    (48 ≤ c.toNat ∧ c.toNat ≤ 57 ∧ value = c.toNat - 48) ∨
      (65 ≤ c.toNat ∧ c.toNat ≤ 70 ∧ value = c.toNat - 55) ∨
      (97 ≤ c.toNat ∧ c.toNat ≤ 102 ∧ value = c.toNat - 87) := by
  simp only [hexValue, UInt8.le_iff_toNat_le] at digit
  split_ifs at digit with decimal upper lower
  · exact Or.inl ⟨decimal.1, decimal.2, (Option.some.inj digit).symm⟩
  · exact Or.inr (Or.inl ⟨upper.1, upper.2, (Option.some.inj digit).symm⟩)
  · exact Or.inr (Or.inr ⟨lower.1, lower.2, (Option.some.inj digit).symm⟩)

theorem hexValue_zero : hexValue 0 = none := by decide

theorem hexValue_amp : hexValue 38 = none := by decide

theorem hexValue_plain {c : UInt8} {value : Nat}
    (digit : hexValue c = some value) : plain c = c := by
  rw [plain, if_neg]
  rintro rfl
  have none : hexValue 43 = none := by decide
  cases none.symm.trans digit

/-- No encoding holds a NUL or a separator. -/
theorem Encodes.not_mem {text sent : List UInt8} (encodes : Encodes text sent) :
    0 ∉ sent ∧ 38 ∉ sent := by
  induction encodes with
  | nil =>
      simp
  | literal isLiteral encodes inductionHypothesis =>
      obtain ⟨_, _, noNul, noAmp⟩ := unreserved_ordinary isLiteral
      simp [noNul.symm, noAmp.symm, inductionHypothesis]
  | space encodes inductionHypothesis =>
      simp [inductionHypothesis]
  | @escape c hi lo text sent isEscape encodes inductionHypothesis =>
      have digit : ∀ c, hexValue c = none → c ≠ hi ∧ c ≠ lo := by
        intro c none
        constructor
        · rintro rfl
          rw [isEscape.1] at none
          cases none
        · rintro rfl
          rw [isEscape.2] at none
          cases none
      simp [digit 0 hexValue_zero, digit 38 hexValue_amp, inductionHypothesis]

theorem Encodes.length_le {text sent : List UInt8}
    (encodes : Encodes text sent) :
    text.length ≤ sent.length ∧ sent.length ≤ 3 * text.length := by
  induction encodes with
  | nil => simp
  | literal _ _ inductionHypothesis =>
      simp only [List.length_cons]
      omega
  | space _ inductionHypothesis =>
      simp only [List.length_cons]
      omega
  | escape _ _ inductionHypothesis =>
      simp only [List.length_cons]
      omega

/-- Where a cut of an encoding falls: between two bytes, or in an escape. -/
inductive Cut (text sent : List UInt8) (k : Nat) : Prop
  | between (front back sentFront sentBack : List UInt8) :
      text = front ++ back → sent = sentFront ++ sentBack →
      Encodes front sentFront → Encodes back sentBack →
      sentFront.length = k → Cut text sent k
  | inEscape (front back sentFront sentBack : List UInt8) (c hi lo : UInt8)
      (kept : Nat) :
      text = front ++ c :: back →
      sent = sentFront ++ 37 :: hi :: lo :: sentBack →
      Encodes front sentFront → IsEscape c hi lo → Encodes back sentBack →
      kept = 1 ∨ kept = 2 → sentFront.length + kept = k → Cut text sent k

theorem Encodes.append {first second sentFirst sentSecond : List UInt8}
    (left : Encodes first sentFirst) (right : Encodes second sentSecond) :
    Encodes (first ++ second) (sentFirst ++ sentSecond) := by
  induction left with
  | nil => exact right
  | literal isLiteral _ inductionHypothesis =>
      exact .literal isLiteral inductionHypothesis
  | space _ inductionHypothesis =>
      exact .space inductionHypothesis
  | escape isEscape _ inductionHypothesis =>
      exact .escape isEscape inductionHypothesis

/-- A cut behind more encoded text. -/
theorem Cut.behind {first sentFirst text sent : List UInt8} {k : Nat}
    (encodes : Encodes first sentFirst) (cut : Cut text sent k) :
    Cut (first ++ text) (sentFirst ++ sent) (sentFirst.length + k) := by
  rcases cut with
    ⟨front, back, sentFront, sentBack, rfl, rfl, left, right, here⟩ |
    ⟨front, back, sentFront, sentBack, c, hi, lo, kept, rfl, rfl, left,
      isEscape, right, short, here⟩
  · refine Cut.between (first ++ front) back (sentFirst ++ sentFront) sentBack
      ?_ ?_ (encodes.append left) right ?_
    · rw [List.append_assoc]
    · rw [List.append_assoc]
    · rw [List.length_append, here]
  · refine Cut.inEscape (first ++ front) back (sentFirst ++ sentFront) sentBack
      c hi lo kept ?_ ?_ (encodes.append left) isEscape right short ?_
    · rw [List.append_assoc]
    · rw [List.append_assoc]
    · rw [List.length_append, ← here, Nat.add_assoc]

theorem Encodes.cut {text sent : List UInt8} (encodes : Encodes text sent)
    {k : Nat} (within : k ≤ sent.length) : Cut text sent k := by
  induction encodes generalizing k with
  | nil =>
      exact Cut.between [] [] [] [] rfl rfl .nil .nil (Nat.le_zero.mp within).symm
  | @literal c text sent isLiteral encodes inductionHypothesis =>
      rcases k with _ | k
      · exact Cut.between [] _ [] _ rfl rfl .nil (.literal isLiteral encodes) rfl
      · have later := inductionHypothesis (k := k) (by simpa using within)
        have behind := later.behind (.literal isLiteral .nil)
        rwa [Nat.add_comm] at behind
  | @space text sent encodes inductionHypothesis =>
      rcases k with _ | k
      · exact Cut.between [] _ [] _ rfl rfl .nil (.space encodes) rfl
      · have later := inductionHypothesis (k := k) (by simpa using within)
        have behind := later.behind (.space .nil)
        rwa [Nat.add_comm] at behind
  | @escape c hi lo text sent isEscape encodes inductionHypothesis =>
      rcases k with _ | _ | _ | k
      · exact Cut.between [] _ [] _ rfl rfl .nil (.escape isEscape encodes) rfl
      · exact Cut.inEscape [] text [] sent c hi lo 1 rfl rfl .nil isEscape encodes
          (Or.inl rfl) rfl
      · exact Cut.inEscape [] text [] sent c hi lo 2 rfl rfl .nil isEscape encodes
          (Or.inr rfl) rfl
      · have later := inductionHypothesis (k := k) (by simpa using within)
        have behind := later.behind (.escape isEscape .nil)
        rwa [Nat.add_comm] at behind

/-! ## Decoding what is left of a cut encoding -/

/-- What an encoding reads as when it is cut in an escape. -/
theorem decode_inEscape {pair : UInt8 → UInt8 → UInt8} (reads : Reads pair)
    {front sentFront : List UInt8} (encodes : Encodes front sentFront) {c hi lo : UInt8}
    (isEscape : IsEscape c hi lo) (sentBack : List UInt8) {kept : Nat}
    (short : kept = 1 ∨ kept = 2) :
    decodeWith pair
        ((sentFront ++ 37 :: hi :: lo :: sentBack).take
          (sentFront.length + kept)) =
      front ++ [37, hi].take kept := by
  rw [List.take_length_add_append]
  rcases short with rfl | rfl
  · rw [encodes.decode_append reads]
    rfl
  · rw [encodes.decode_append reads]
    simp only [List.take_succ_cons, List.take_zero, decodeWith,
      hexValue_plain isEscape.1]
    rfl

/-- A cut behind three times as many bytes leaves the text's first bytes. -/
theorem Encodes.take_decode_take {pair : UInt8 → UInt8 → UInt8}
    (reads : Reads pair) {text sent : List UInt8}
    (encodes : Encodes text sent) {k m : Nat} (room : 3 * m + 2 ≤ k) :
    (decodeWith pair (sent.take k)).take m = text.take m := by
  rcases Nat.le_total sent.length k with whole | within
  · rw [List.take_of_length_le whole, encodes.decode reads]
  · rcases encodes.cut within with
      ⟨front, back, sentFront, sentBack, rfl, rfl, left, right, here⟩ |
      ⟨front, back, sentFront, sentBack, c, hi, lo, kept, rfl, rfl, left,
        isEscape, right, short, here⟩
    · subst here
      have lengths := left.length_le
      rw [List.take_left, left.decode reads,
        List.take_append_of_le_length (by omega)]
    · subst here
      have lengths := left.length_le
      rw [decode_inEscape reads left isEscape sentBack short,
        List.take_append_of_le_length (by omega),
        List.take_append_of_le_length (by omega)]

/-- A cut that decoding does not show: the text ends in a percent sign whose
escape is cut behind its own percent sign or its first digit, and what is lost
is what the cut escape reads as. -/
def HarmlessCut (text sent : List UInt8) (k : Nat) : Prop :=
  ∃ front sentFront, Encodes front sentFront ∧
    ((k = sentFront.length + 1 ∧ text = front ++ [37] ∧
        sent = sentFront ++ [37, 50, 53]) ∨
      (k = sentFront.length + 2 ∧ text = front ++ [37, 50] ∧
        ∃ sentBack, Encodes [50] sentBack ∧
          sent = sentFront ++ 37 :: 50 :: 53 :: sentBack))

/-- The escape of a percent sign. -/
theorem IsEscape.of_percent {hi lo : UInt8} (isEscape : IsEscape 37 hi lo) :
    hi = 50 ∧ lo = 53 := by
  obtain ⟨high, low⟩ := isEscape
  have value : (37 : UInt8).toNat = 37 := rfl
  have highRange := hexValue_range high
  have lowRange := hexValue_range low
  constructor
  · apply UInt8.toNat_inj.mp
    show hi.toNat = 50
    omega
  · apply UInt8.toNat_inj.mp
    show lo.toNat = 53
    omega

theorem Encodes.sent_eq_nil {sent : List UInt8} (encodes : Encodes [] sent) :
    sent = [] := by
  cases encodes
  rfl

section Cuts

variable {pair : UInt8 → UInt8 → UInt8}

/-- A cut encoding decodes to its text exactly when the cut is harmless. -/
theorem Encodes.decode_take_iff (reads : Reads pair)
    {text sent : List UInt8} (encodes : Encodes text sent) {k : Nat}
    (cut : k < sent.length) :
    decodeWith pair (sent.take k) = text ↔ HarmlessCut text sent k := by
  constructor
  · intro same
    rcases encodes.cut (Nat.le_of_lt cut) with
      ⟨front, back, sentFront, sentBack, rfl, rfl, left, right, here⟩ |
      ⟨front, back, sentFront, sentBack, c, hi, lo, kept, rfl, rfl, left,
        isEscape, right, short, here⟩
    · subst here
      rw [List.take_left, left.decode reads] at same
      have nothing : back = [] := by simpa using same
      subst nothing
      have lengths := right.length_le
      simp only [List.length_nil, List.length_append] at lengths cut
      omega
    · subst here
      rw [decode_inEscape reads left isEscape sentBack short] at same
      have rest := List.append_cancel_left same
      rcases short with rfl | rfl
      · obtain ⟨rfl, rfl⟩ := List.cons_eq_cons.mp rest
        obtain ⟨rfl, rfl⟩ := isEscape.of_percent
        refine ⟨front, sentFront, left, Or.inl ⟨rfl, rfl, ?_⟩⟩
        rw [Encodes.sent_eq_nil right]
      · obtain ⟨rfl, backEq⟩ := List.cons_eq_cons.mp rest
        obtain ⟨rfl, rfl⟩ := isEscape.of_percent
        subst backEq
        exact ⟨front, sentFront, left, Or.inr ⟨rfl, rfl, sentBack, right, rfl⟩⟩
  · rintro ⟨front, sentFront, left,
      ⟨rfl, rfl, rfl⟩ | ⟨rfl, rfl, sentBack, right, rfl⟩⟩
    · exact decode_inEscape reads left (c := 37) ⟨by decide, by decide⟩ []
        (Or.inl rfl)
    · exact decode_inEscape reads left (c := 37) ⟨by decide, by decide⟩ sentBack
        (Or.inr rfl)

/-- A cut in the escape of the last byte, behind the first digit: one byte more
than the text is left. -/
def LongCut (text sent : List UInt8) (k : Nat) : Prop :=
  ∃ front sentFront c hi lo, Encodes front sentFront ∧ IsEscape c hi lo ∧
    text = front ++ [c] ∧ sent = sentFront ++ [37, hi, lo] ∧
    k = sentFront.length + 2

/-- A cut encoding decodes to a longer text only there, and to one byte
more. -/
theorem Encodes.decode_take_length (reads : Reads pair)
    {text sent : List UInt8} (encodes : Encodes text sent) {k : Nat}
    (cut : k < sent.length) :
    (LongCut text sent k →
      (decodeWith pair (sent.take k)).length = text.length + 1) ∧
    (¬ LongCut text sent k →
      (decodeWith pair (sent.take k)).length ≤ text.length) := by
  constructor
  · rintro ⟨front, sentFront, c, hi, lo, left, isEscape, rfl, rfl, rfl⟩
    rw [decode_inEscape reads left isEscape [] (Or.inr rfl)]
    simp
  · intro notLong
    rcases encodes.cut (Nat.le_of_lt cut) with
      ⟨front, back, sentFront, sentBack, rfl, rfl, left, right, here⟩ |
      ⟨front, back, sentFront, sentBack, c, hi, lo, kept, rfl, rfl, left,
        isEscape, right, short, here⟩
    · subst here
      rw [List.take_left, left.decode reads, List.length_append]
      omega
    · subst here
      rw [decode_inEscape reads left isEscape sentBack short]
      rcases short with rfl | rfl
      · simp
      · rcases back with _ | ⟨next, back⟩
        · obtain rfl := right.sent_eq_nil
          exact absurd
            ⟨front, sentFront, c, hi, lo, left, isEscape, rfl, rfl, rfl⟩ notLong
        · simp

/-- A cut encoding decodes to a NUL only if its text has one. -/
theorem Encodes.decode_take_nul (reads : Reads pair)
    {text sent : List UInt8} (encodes : Encodes text sent)
    (noNul : 0 ∉ text) (k : Nat) : 0 ∉ decodeWith pair (sent.take k) := by
  rcases Nat.le_total sent.length k with whole | within
  · rw [List.take_of_length_le whole, encodes.decode reads]
    exact noNul
  · rcases encodes.cut within with
      ⟨front, back, sentFront, sentBack, rfl, rfl, left, right, here⟩ |
      ⟨front, back, sentFront, sentBack, c, hi, lo, kept, rfl, rfl, left,
        isEscape, right, short, here⟩
    · subst here
      rw [List.take_left, left.decode reads]
      exact fun member => noNul (List.mem_append_left back member)
    · subst here
      rw [decode_inEscape reads left isEscape sentBack short]
      intro member
      rcases List.mem_append.mp member with inFront | inEscape
      · exact noNul (List.mem_append_left _ inFront)
      · rcases List.mem_cons.mp (List.mem_of_mem_take inEscape) with isPercent |
          isDigit
        · exact absurd isPercent (by decide)
        · have digit := isEscape.1
          rw [← List.mem_singleton.mp isDigit, hexValue_zero] at digit
          cases digit

end Cuts

/-! ## Browsers -/

/-- `Sends text sent` holds for each encoding that escapes nothing it need not
escape. -/
inductive Sends : List UInt8 → List UInt8 → Prop
  | nil : Sends [] []
  | literal {c : UInt8} {text sent : List UInt8} :
      unreserved c = true → Sends text sent → Sends (c :: text) (c :: sent)
  | space {text sent : List UInt8} :
      Sends text sent → Sends (32 :: text) (43 :: sent)
  | escape {c hi lo : UInt8} {text sent : List UInt8} :
      unreserved c = false → IsEscape c hi lo → Sends text sent →
      Sends (c :: text) (37 :: hi :: lo :: sent)

theorem Sends.encodes {text sent : List UInt8} (sends : Sends text sent) :
    Encodes text sent := by
  induction sends with
  | nil => exact .nil
  | literal isLiteral _ inductionHypothesis =>
      exact .literal isLiteral inductionHypothesis
  | space _ inductionHypothesis => exact .space inductionHypothesis
  | escape _ isEscape _ inductionHypothesis =>
      exact .escape isEscape inductionHypothesis

/-- Letters, digits and the four marks only. -/
def Unreserved (text : List UInt8) : Prop := ∀ c ∈ text, unreserved c = true

instance (text : List UInt8) : Decidable (Unreserved text) :=
  decidable_of_iff (text.all unreserved = true) List.all_eq_true

theorem sends_of_unreserved {text : List UInt8} (plain : Unreserved text) :
    Sends text text := by
  induction text with
  | nil => exact .nil
  | cons c rest inductionHypothesis =>
      exact .literal (plain c List.mem_cons_self)
        (inductionHypothesis fun c member =>
          plain c (List.mem_cons_of_mem _ member))

/-- Such a text arrives as it is. -/
theorem Sends.eq_of_unreserved {text sent : List UInt8}
    (sends : Sends text sent) (plain : Unreserved text) : sent = text := by
  induction sends with
  | nil => rfl
  | literal _ _ inductionHypothesis =>
      rw [inductionHypothesis fun c member =>
        plain c (List.mem_cons_of_mem _ member)]
  | space _ _ =>
      have isSpace := plain 32 List.mem_cons_self
      exact absurd isSpace (by decide)
  | escape isReserved _ _ _ =>
      have isPlain := plain _ List.mem_cons_self
      rw [isReserved] at isPlain
      exact absurd isPlain (by decide)

end FormEncoding

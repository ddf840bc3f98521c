import Mathlib.Tactic.Ring
import Mathlib.Data.List.Basic

/-!
# One's-complement sums of 16-bit words

The Internet checksum of a message is stored so that the one's-complement sum
of all its 16-bit words is `0xFFFF`.  One's-complement addition has two
representations of zero, which is where incremental updates go wrong; the
sums are therefore related once and for all to arithmetic modulo 65535, with
the two zeros told apart by whether every word is zero.
-/

namespace OnesComplement

/-- Addition with the carry out of bit 15 added back in. -/
def add (left right : Nat) : Nat :=
  if left + right < 65536 then left + right else left + right - 65535

/-- The one's-complement sum of a list of 16-bit words. -/
def sum (words : List Nat) : Nat :=
  words.foldr add 0

/-- The words of a byte string in network order; an odd last byte is padded
with zero. -/
def beWords : List UInt8 → List Nat
  | [] => []
  | [high] => [256 * high.toNat]
  | high :: low :: rest => (256 * high.toNat + low.toNat) :: beWords rest

/-- The bytes carry a valid Internet checksum. -/
def Verifies (bytes : List UInt8) : Prop :=
  sum (beWords bytes) = 0xFFFF

instance (bytes : List UInt8) : Decidable (Verifies bytes) :=
  inferInstanceAs (Decidable (_ = _))

theorem add_lt {left right : Nat}
    (leftWord : left < 65536) (rightWord : right < 65536) :
    add left right < 65536 := by
  unfold add
  split <;> omega

theorem add_mod (left right : Nat) :
    add left right % 65535 = (left + right) % 65535 := by
  unfold add
  split <;> omega

theorem add_eq_zero_iff (left right : Nat) :
    add left right = 0 ↔ left + right = 0 := by
  unfold add
  split <;> omega

section Words

variable {words : List Nat}

theorem sum_lt (areWords : ∀ word ∈ words, word < 65536) :
    sum words < 65536 := by
  induction words with
  | nil =>
      simp [sum]
  | cons word rest inductionHypothesis =>
      simp only [List.forall_mem_cons] at areWords
      exact add_lt areWords.1 (inductionHypothesis areWords.2)

theorem sum_mod (words : List Nat) :
    sum words % 65535 = words.sum % 65535 := by
  induction words with
  | nil =>
      rfl
  | cons word rest inductionHypothesis =>
      calc
        sum (word :: rest) % 65535 = (word + sum rest) % 65535 :=
          add_mod word (sum rest)
        _ = (word + rest.sum) % 65535 := by
          rw [Nat.add_mod, inductionHypothesis, ← Nat.add_mod]
        _ = (word :: rest).sum % 65535 := by
          rw [List.sum_cons]

theorem sum_eq_zero_iff (words : List Nat) :
    sum words = 0 ↔ words.sum = 0 := by
  induction words with
  | nil =>
      simp [sum]
  | cons word rest inductionHypothesis =>
      change add word (sum rest) = 0 ↔ (word :: rest).sum = 0
      rw [add_eq_zero_iff, List.sum_cons]
      omega

/-- The sum is all ones exactly when the words add up to a positive multiple
of 65535. -/
theorem sum_eq_allOnes_iff (areWords : ∀ word ∈ words, word < 65536) :
    sum words = 0xFFFF ↔ words.sum % 65535 = 0 ∧ 0 < words.sum := by
  have bound := sum_lt areWords
  have residue := sum_mod words
  have zero := sum_eq_zero_iff words
  omega

end Words

theorem beWords_areWords (bytes : List UInt8) :
    ∀ word ∈ beWords bytes, word < 65536 := by
  induction bytes using beWords.induct with
  | case1 =>
      simp [beWords]
  | case2 high =>
      have highByte := high.toNat_lt
      simp only [beWords, List.mem_singleton, forall_eq]
      omega
  | case3 high low rest inductionHypothesis =>
      have highByte := high.toNat_lt
      have lowByte := low.toNat_lt
      simp only [beWords, List.forall_mem_cons]
      exact ⟨by omega, inductionHypothesis⟩

theorem beWords_append_of_even {front : List UInt8} (back : List UInt8)
    (even : front.length % 2 = 0) :
    beWords (front ++ back) = beWords front ++ beWords back := by
  induction front using beWords.induct with
  | case1 =>
      rfl
  | case2 high =>
      simp at even
  | case3 high low rest inductionHypothesis =>
      simp only [List.length_cons] at even
      simp only [List.cons_append, beWords]
      rw [inductionHypothesis (by omega)]

theorem verifies_iff (bytes : List UInt8) :
    Verifies bytes ↔
      (beWords bytes).sum % 65535 = 0 ∧ 0 < (beWords bytes).sum :=
  sum_eq_allOnes_iff (beWords_areWords bytes)

/-- Two byte strings whose words agree modulo 65535, neither of them all
zero, verify together. -/
theorem verifies_congr {first second : List UInt8}
    (residues :
      (beWords first).sum % 65535 = (beWords second).sum % 65535)
    (firstPositive : 0 < (beWords first).sum)
    (secondPositive : 0 < (beWords second).sum) :
    Verifies first ↔ Verifies second := by
  rw [verifies_iff, verifies_iff, residues]
  simp only [firstPositive, secondPositive]

end OnesComplement

import VeteraBridge.Lib.OnesComplement
import Mathlib.Tactic.Ring
import Mathlib.Data.List.Basic

/-!
# Words stored in a byte string

Reading and writing 16- and 32-bit words in a byte list the way a
little-endian machine does through a pointer, with the frame rules for
non-overlapping accesses and the effect of a store on a one's-complement sum.
Reading beyond the end gives zero bytes and writing there changes nothing, so
the rules carry the bounds they need.
-/

namespace ByteWords

open OnesComplement

/-- The two bytes of a word exchanged: conversion between the machine's order
and network order. -/
def swap16 (word : UInt16) : UInt16 :=
  UInt16.ofNat (256 * (word.toNat % 256) + word.toNat / 256)

/-- The 16-bit word at byte `offset`, low byte first. -/
def get16 (bytes : List UInt8) (offset : Nat) : UInt16 :=
  UInt16.ofNat
    ((bytes.getD offset 0).toNat + 256 * (bytes.getD (offset + 1) 0).toNat)

/-- Store a 16-bit word at byte `offset`, low byte first. -/
def put16 (bytes : List UInt8) (offset : Nat) (word : UInt16) : List UInt8 :=
  (bytes.set offset (UInt8.ofNat word.toNat)).set (offset + 1)
    (UInt8.ofNat (word.toNat / 256))

def low16 (word : UInt32) : UInt16 := UInt16.ofNat word.toNat

def high16 (word : UInt32) : UInt16 := UInt16.ofNat (word.toNat / 65536)

/-- The 32-bit word at byte `offset`, low half first. -/
def get32 (bytes : List UInt8) (offset : Nat) : UInt32 :=
  UInt32.ofNat
    ((get16 bytes offset).toNat + 65536 * (get16 bytes (offset + 2)).toNat)

/-- Store a 32-bit word at byte `offset`, low half first. -/
def put32 (bytes : List UInt8) (offset : Nat) (word : UInt32) : List UInt8 :=
  put16 (put16 bytes offset (low16 word)) (offset + 2) (high16 word)

/-- The four bytes of a word reversed. -/
def swap32 (word : UInt32) : UInt32 :=
  UInt32.ofNat
    ((swap16 (high16 word)).toNat + 65536 * (swap16 (low16 word)).toNat)

/-- The bytes from `start` on, `count` of them where there are that many. -/
def slice (bytes : List UInt8) (start count : Nat) : List UInt8 :=
  (bytes.drop start).take count

theorem swap16_toNat (word : UInt16) :
    (swap16 word).toNat = 256 * (word.toNat % 256) + word.toNat / 256 := by
  have bound := word.toNat_lt
  unfold swap16
  rw [UInt16.toNat_ofNat']
  omega

@[simp]
theorem swap16_swap16 (word : UInt16) : swap16 (swap16 word) = word := by
  apply UInt16.toNat_inj.mp
  have bound := word.toNat_lt
  rw [swap16_toNat, swap16_toNat]
  omega

section Halves

variable (word : UInt32)

@[simp]
theorem low16_toNat : (low16 word).toNat = word.toNat % 65536 := by
  rw [low16, UInt16.toNat_ofNat']

@[simp]
theorem high16_toNat : (high16 word).toNat = word.toNat / 65536 := by
  have bound := word.toNat_lt
  rw [high16, UInt16.toNat_ofNat']
  omega

end Halves

section Reads

variable (bytes : List UInt8) (offset : Nat)

theorem get16_toNat :
    (get16 bytes offset).toNat =
      (bytes.getD offset 0).toNat +
        256 * (bytes.getD (offset + 1) 0).toNat := by
  have low := (bytes.getD offset 0).toNat_lt
  have high := (bytes.getD (offset + 1) 0).toNat_lt
  rw [get16, UInt16.toNat_ofNat']
  omega

theorem get32_toNat :
    (get32 bytes offset).toNat =
      (get16 bytes offset).toNat +
        65536 * (get16 bytes (offset + 2)).toNat := by
  have low := (get16 bytes offset).toNat_lt
  have high := (get16 bytes (offset + 2)).toNat_lt
  rw [get32, UInt32.toNat_ofNat']
  omega

@[simp]
theorem low16_get32 : low16 (get32 bytes offset) = get16 bytes offset := by
  apply UInt16.toNat_inj.mp
  have low := (get16 bytes offset).toNat_lt
  rw [low16_toNat, get32_toNat]
  omega

@[simp]
theorem high16_get32 :
    high16 (get32 bytes offset) = get16 bytes (offset + 2) := by
  apply UInt16.toNat_inj.mp
  have low := (get16 bytes offset).toNat_lt
  rw [high16_toNat, get32_toNat]
  omega

end Reads

@[simp]
theorem put16_length (bytes : List UInt8) (offset : Nat) (word : UInt16) :
    (put16 bytes offset word).length = bytes.length := by
  simp [put16]

@[simp]
theorem put32_length (bytes : List UInt8) (offset : Nat) (word : UInt32) :
    (put32 bytes offset word).length = bytes.length := by
  simp [put32]

/-! ## Reading back what was stored -/

theorem getD_put16_low {bytes : List UInt8} {offset : Nat} (word : UInt16)
    (inside : offset < bytes.length) :
    (put16 bytes offset word).getD offset 0 = UInt8.ofNat word.toNat := by
  simp [put16, List.getD_eq_getElem?_getD, inside]

theorem getD_put16_high {bytes : List UInt8} {offset : Nat} (word : UInt16)
    (inside : offset + 1 < bytes.length) :
    (put16 bytes offset word).getD (offset + 1) 0 =
      UInt8.ofNat (word.toNat / 256) := by
  simp [put16, List.getD_eq_getElem?_getD, inside]

theorem getD_put16_of_ne {bytes : List UInt8} {offset other : Nat}
    (word : UInt16) (notLow : other ≠ offset) (notHigh : other ≠ offset + 1) :
    (put16 bytes offset word).getD other 0 = bytes.getD other 0 := by
  simp [put16, List.getD_eq_getElem?_getD, Ne.symm notLow, Ne.symm notHigh]

theorem getD_put32_of_outside {bytes : List UInt8} {offset other : Nat}
    (word : UInt32) (outside : other < offset ∨ offset + 4 ≤ other) :
    (put32 bytes offset word).getD other 0 = bytes.getD other 0 := by
  unfold put32
  rw [getD_put16_of_ne _ (by omega) (by omega),
    getD_put16_of_ne _ (by omega) (by omega)]

theorem get16_put16_self {bytes : List UInt8} {offset : Nat} (word : UInt16)
    (inside : offset + 1 < bytes.length) :
    get16 (put16 bytes offset word) offset = word := by
  apply UInt16.toNat_inj.mp
  have bound := word.toNat_lt
  rw [get16_toNat, getD_put16_low word (by omega), getD_put16_high word inside,
    UInt8.toNat_ofNat', UInt8.toNat_ofNat']
  omega

theorem get16_put16_of_disjoint {bytes : List UInt8} {offset other : Nat}
    (word : UInt16) (disjoint : other + 2 ≤ offset ∨ offset + 2 ≤ other) :
    get16 (put16 bytes offset word) other = get16 bytes other := by
  unfold get16
  rw [getD_put16_of_ne word (by omega) (by omega),
    getD_put16_of_ne word (by omega) (by omega)]

theorem get16_put32_of_disjoint {bytes : List UInt8} {offset other : Nat}
    (word : UInt32) (disjoint : other + 2 ≤ offset ∨ offset + 4 ≤ other) :
    get16 (put32 bytes offset word) other = get16 bytes other := by
  unfold put32
  rw [get16_put16_of_disjoint _ (by omega),
    get16_put16_of_disjoint _ (by omega)]

theorem get32_put16_of_disjoint {bytes : List UInt8} {offset other : Nat}
    (word : UInt16) (disjoint : other + 4 ≤ offset ∨ offset + 2 ≤ other) :
    get32 (put16 bytes offset word) other = get32 bytes other := by
  unfold get32
  rw [get16_put16_of_disjoint _ (by omega),
    get16_put16_of_disjoint _ (by omega)]

theorem get32_put32_self {bytes : List UInt8} {offset : Nat} (word : UInt32)
    (inside : offset + 3 < bytes.length) :
    get32 (put32 bytes offset word) offset = word := by
  have lowHalf : get16 (put32 bytes offset word) offset = low16 word := by
    unfold put32
    rw [get16_put16_of_disjoint _ (by omega),
      get16_put16_self _ (by omega)]
  have highHalf :
      get16 (put32 bytes offset word) (offset + 2) = high16 word := by
    unfold put32
    exact get16_put16_self _ (by simpa using inside)
  apply UInt32.toNat_inj.mp
  rw [get32_toNat, lowHalf, highHalf, low16_toNat, high16_toNat]
  omega

/-! ## Stores seen through a slice -/

section Slices

variable {bytes : List UInt8} {start count offset : Nat}

theorem slice_length (inside : start + count ≤ bytes.length) :
    (slice bytes start count).length = count := by
  simp only [slice, List.length_take, List.length_drop]
  omega

theorem getElem?_slice (position : Nat) :
    (slice bytes start count)[position]? =
      if position < count then bytes[start + position]? else none := by
  simp [slice, List.getElem?_take, List.getElem?_drop]

theorem getElem?_put16 (word : UInt16) (position : Nat) :
    (put16 bytes offset word)[position]? =
      if position < bytes.length then
        if position = offset + 1 then some (UInt8.ofNat (word.toNat / 256))
        else if position = offset then some (UInt8.ofNat word.toNat)
        else bytes[position]?
      else none := by
  unfold put16
  rw [List.getElem?_set, List.getElem?_set, List.length_set]
  grind

theorem slice_put16_of_outside (word : UInt16)
    (outside : offset + 2 ≤ start ∨ start + count ≤ offset) :
    slice (put16 bytes offset word) start count = slice bytes start count := by
  apply List.ext_getElem?
  intro position
  rw [getElem?_slice, getElem?_slice, getElem?_put16]
  grind

theorem slice_put16_of_inside (word : UInt16)
    (afterStart : start ≤ offset) (beforeEnd : offset + 2 ≤ start + count) :
    slice (put16 bytes offset word) start count =
      put16 (slice bytes start count) (offset - start) word := by
  apply List.ext_getElem?
  intro position
  have len :
      (slice bytes start count).length = min count (bytes.length - start) := by
    simp [slice]
  rw [getElem?_slice, getElem?_put16, getElem?_put16, getElem?_slice, len]
  grind

theorem slice_put32_of_outside (word : UInt32)
    (outside : offset + 4 ≤ start ∨ start + count ≤ offset) :
    slice (put32 bytes offset word) start count = slice bytes start count := by
  unfold put32
  rw [slice_put16_of_outside _ (by omega), slice_put16_of_outside _ (by omega)]

theorem slice_put32_of_inside (word : UInt32)
    (afterStart : start ≤ offset) (beforeEnd : offset + 4 ≤ start + count) :
    slice (put32 bytes offset word) start count =
      put32 (slice bytes start count) (offset - start) word := by
  have shift : offset + 2 - start = offset - start + 2 := by omega
  unfold put32
  rw [slice_put16_of_inside _ (by omega) (by omega),
    slice_put16_of_inside _ (by omega) (by omega), shift]

theorem getD_slice {position : Nat} (inside : position < count) :
    (slice bytes start count).getD position 0 =
      bytes.getD (start + position) 0 := by
  rw [List.getD_eq_getElem?_getD, List.getD_eq_getElem?_getD, getElem?_slice,
    if_pos inside]

theorem get16_slice {position : Nat} (inside : position + 2 ≤ count) :
    get16 (slice bytes start count) position =
      get16 bytes (start + position) := by
  unfold get16
  rw [getD_slice (by omega), getD_slice (by omega), Nat.add_assoc]

theorem get32_slice {position : Nat} (inside : position + 4 ≤ count) :
    get32 (slice bytes start count) position =
      get32 bytes (start + position) := by
  unfold get32
  rw [get16_slice (by omega), get16_slice (by omega), Nat.add_assoc]

theorem put16_append {front : List UInt8} (back : List UInt8) (word : UInt16)
    (inside : offset + 1 < front.length) :
    put16 (front ++ back) offset word = put16 front offset word ++ back := by
  unfold put16
  rw [List.set_append_left _ _ (by omega),
    List.set_append_left _ _ (by simpa using inside)]

theorem put32_append {front : List UInt8} (back : List UInt8) (word : UInt32)
    (inside : offset + 3 < front.length) :
    put32 (front ++ back) offset word = put32 front offset word ++ back := by
  unfold put32
  rw [put16_append _ _ (by omega),
    put16_append _ _ (by rw [put16_length]; omega)]

theorem getD_append_left {front : List UInt8} (back : List UInt8)
    {position : Nat} (inside : position < front.length) :
    (front ++ back).getD position 0 = front.getD position 0 := by
  rw [List.getD_eq_getElem?_getD, List.getD_eq_getElem?_getD,
    List.getElem?_append_left inside]

theorem get16_append {front : List UInt8} (back : List UInt8)
    (inside : offset + 1 < front.length) :
    get16 (front ++ back) offset = get16 front offset := by
  unfold get16
  rw [getD_append_left _ (by omega), getD_append_left _ inside]

theorem get32_append {front : List UInt8} (back : List UInt8)
    (inside : offset + 3 < front.length) :
    get32 (front ++ back) offset = get32 front offset := by
  unfold get32
  rw [get16_append _ (by omega), get16_append _ (by omega)]

end Slices

/-! ## Stores and one's-complement sums -/

/-- The value of a stored word in network order. -/
theorem beWords_pair (low high : UInt8) (rest : List UInt8) :
    (beWords (low :: high :: rest)).sum =
      (256 * low.toNat + high.toNat) + (beWords rest).sum := by
  rw [beWords, List.sum_cons]

/-- Storing a word at an even offset exchanges its value for the old one in
the sum of the network-order words. -/
theorem beWords_sum_put16 (bytes : List UInt8) (offset : Nat) (word : UInt16)
    (even : offset % 2 = 0) (inside : offset + 1 < bytes.length) :
    (beWords (put16 bytes offset word)).sum +
        (swap16 (get16 bytes offset)).toNat =
      (beWords bytes).sum + (swap16 word).toNat := by
  induction bytes using beWords.induct generalizing offset with
  | case1 =>
      simp at inside
  | case2 high =>
      simp at inside
  | case3 first second rest inductionHypothesis =>
      obtain rfl | ⟨shorter, rfl⟩ :
          offset = 0 ∨ ∃ shorter, offset = shorter + 2 := by
        rcases offset with _ | _ | shorter
        · exact Or.inl rfl
        · omega
        · exact Or.inr ⟨shorter, rfl⟩
      · have bound := word.toNat_lt
        have firstByte := first.toNat_lt
        have secondByte := second.toNat_lt
        simp only [put16, List.set_cons_zero, List.set_cons_succ, Nat.zero_add,
          beWords_pair, swap16_toNat, get16_toNat, List.getD_cons_zero,
          List.getD_cons_succ, UInt8.toNat_ofNat']
        omega
      · have tail :=
          inductionHypothesis shorter (by omega)
            (by simp only [List.length_cons] at inside; omega)
        have stored :
            put16 (first :: second :: rest) (shorter + 2) word =
              first :: second :: put16 rest shorter word := rfl
        have read :
            get16 (first :: second :: rest) (shorter + 2) =
              get16 rest shorter := rfl
        rw [stored, read, beWords_pair, beWords_pair]
        omega

/-- Storing a 32-bit word at an even offset exchanges both of its halves. -/
theorem beWords_sum_put32 (bytes : List UInt8) (offset : Nat) (word : UInt32)
    (even : offset % 2 = 0) (inside : offset + 3 < bytes.length) :
    (beWords (put32 bytes offset word)).sum +
        ((swap16 (low16 (get32 bytes offset))).toNat +
          (swap16 (high16 (get32 bytes offset))).toNat) =
      (beWords bytes).sum +
        ((swap16 (low16 word)).toNat + (swap16 (high16 word)).toNat) := by
  have lowStore :=
    beWords_sum_put16 bytes offset (low16 word) even (by omega)
  have highStore :=
    beWords_sum_put16 (put16 bytes offset (low16 word)) (offset + 2)
      (high16 word) (by omega) (by simpa using inside)
  rw [get16_put16_of_disjoint _ (by omega)] at highStore
  unfold put32
  rw [low16_get32, high16_get32]
  omega

theorem beWords_sum_pos {bytes : List UInt8} (offset : Nat)
    (nonzero : bytes.getD offset 0 ≠ 0) :
    0 < (beWords bytes).sum := by
  induction bytes using beWords.induct generalizing offset with
  | case1 =>
      simp at nonzero
  | case2 high =>
      have positive : 0 < high.toNat := by
        rcases offset with _ | offset
        · exact Nat.pos_of_ne_zero fun zero =>
            nonzero (UInt8.toNat_inj.mp zero)
        · simp at nonzero
      simp only [beWords, List.sum_cons, List.sum_nil]
      omega
  | case3 first second rest inductionHypothesis =>
      rw [beWords_pair]
      rcases offset with _ | _ | offset
      · have positive : 0 < first.toNat :=
          Nat.pos_of_ne_zero fun zero => nonzero (UInt8.toNat_inj.mp zero)
        omega
      · have positive : 0 < second.toNat :=
          Nat.pos_of_ne_zero fun zero => nonzero (UInt8.toNat_inj.mp zero)
        omega
      · have positive :=
          inductionHypothesis offset (by simpa using nonzero)
        omega

end ByteWords

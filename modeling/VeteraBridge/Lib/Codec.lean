import Mathlib.Logic.Equiv.Basic

/-!
# Codecs of byte strings

A codec writes an item as bytes and reads it back from the front of a byte
string, and carries both laws: what was written is read back with the rest left
alone, and what is read is there exactly as it would be written.  Codecs are put
together from a byte by pairing, by repetition and along equivalences.
-/

universe u v

structure Codec (Item : Type u) where
  write : Item → List UInt8
  read : List UInt8 → Option (Item × List UInt8)
  read_write : ∀ item rest, read (write item ++ rest) = some (item, rest)
  write_read : ∀ bytes item rest, read bytes = some (item, rest) →
    bytes = write item ++ rest

namespace Codec

variable {Item : Type u} {Other : Type v}

/-- No two items are written so that one starts the other. -/
theorem write_append_inj (codec : Codec Item) {first second : Item}
    {rest rest' : List UInt8}
    (same : codec.write first ++ rest = codec.write second ++ rest') :
    first = second ∧ rest = rest' := by
  have read := codec.read_write first rest
  rw [same, codec.read_write second rest'] at read
  obtain ⟨rfl, rfl⟩ := Prod.mk.inj (Option.some.inj read)
  exact ⟨rfl, rfl⟩

/-! ## Bytes and words -/

def byte : Codec UInt8 where
  write b := [b]
  read
    | [] => none
    | b :: rest => some (b, rest)
  read_write _ _ := rfl
  write_read bytes b rest read := by
    cases bytes with
    | nil => cases read
    | cons first others =>
        obtain ⟨rfl, rfl⟩ := Prod.mk.inj (Option.some.inj read)
        rfl

/-- One item after the other. -/
def pair (first : Codec Item) (second : Codec Other) : Codec (Item × Other) where
  write items := first.write items.1 ++ second.write items.2
  read bytes :=
    match first.read bytes with
    | none => none
    | some (item, rest) =>
      match second.read rest with
      | none => none
      | some (other, rest) => some ((item, other), rest)
  read_write items rest := by
    rw [List.append_assoc, first.read_write]
    dsimp only
    rw [second.read_write]
  write_read bytes items rest read := by
    split at read
    · cases read
    · next item middle isFirst =>
      split at read
      · cases read
      · next other last isSecond =>
        obtain ⟨rfl, rfl⟩ := Prod.mk.inj (Option.some.inj read)
        rw [first.write_read _ _ _ isFirst, second.write_read _ _ _ isSecond,
          List.append_assoc]

/-- Items that stand for others. -/
def map (codec : Codec Item) (e : Item ≃ Other) : Codec Other where
  write other := codec.write (e.symm other)
  read bytes := (codec.read bytes).map fun found => (e found.1, found.2)
  read_write other rest := by
    rw [codec.read_write, Option.map_some, e.apply_symm_apply]
  write_read bytes other rest read := by
    obtain ⟨⟨item, last⟩, isRead, same⟩ := Option.map_eq_some_iff.mp read
    obtain ⟨rfl, rfl⟩ := Prod.mk.inj same
    rw [e.symm_apply_apply]
    exact codec.write_read _ _ _ isRead

/-- A word as its high and its low byte. -/
def wordBytes : UInt8 × UInt8 ≃ UInt16 where
  toFun halves := UInt16.ofNat (256 * halves.1.toNat + halves.2.toNat)
  invFun word := (UInt8.ofNat (word.toNat / 256), UInt8.ofNat word.toNat)
  left_inv := by
    rintro ⟨high, low⟩
    have highBound := high.toNat_lt
    have lowBound := low.toNat_lt
    apply Prod.ext
    · apply UInt8.toNat_inj.mp
      dsimp only
      rw [UInt8.toNat_ofNat', UInt16.toNat_ofNat']
      omega
    · apply UInt8.toNat_inj.mp
      dsimp only
      rw [UInt8.toNat_ofNat', UInt16.toNat_ofNat']
      omega
  right_inv word := by
    have bound := word.toNat_lt
    apply UInt16.toNat_inj.mp
    dsimp only
    rw [UInt16.toNat_ofNat', UInt8.toNat_ofNat', UInt8.toNat_ofNat']
    omega

/-- A 16-bit word, high byte first. -/
def word16 : Codec UInt16 := (byte.pair byte).map wordBytes

@[simp]
theorem word16_write_length (word : UInt16) :
    (word16.write word).length = 2 := rfl

theorem word16_write_wordBytes (high low : UInt8) :
    word16.write (wordBytes (high, low)) = [high, low] := by
  show (byte.pair byte).write (wordBytes.symm (wordBytes (high, low))) = _
  rw [Equiv.symm_apply_apply]
  rfl

/-- A double word as its high and its low word. -/
def dwordWords : UInt16 × UInt16 ≃ UInt32 where
  toFun halves := UInt32.ofNat (65536 * halves.1.toNat + halves.2.toNat)
  invFun word := (UInt16.ofNat (word.toNat / 65536), UInt16.ofNat word.toNat)
  left_inv := by
    rintro ⟨high, low⟩
    have highBound := high.toNat_lt
    have lowBound := low.toNat_lt
    apply Prod.ext
    · apply UInt16.toNat_inj.mp
      dsimp only
      rw [UInt16.toNat_ofNat', UInt32.toNat_ofNat']
      omega
    · apply UInt16.toNat_inj.mp
      dsimp only
      rw [UInt16.toNat_ofNat', UInt32.toNat_ofNat']
      omega
  right_inv word := by
    have bound := word.toNat_lt
    apply UInt32.toNat_inj.mp
    dsimp only
    rw [UInt32.toNat_ofNat', UInt16.toNat_ofNat', UInt16.toNat_ofNat']
    omega

/-- A 32-bit word, high byte first. -/
def word32 : Codec UInt32 := (word16.pair word16).map dwordWords

/-! ## Repetition -/

section Repetition

variable (codec : Codec Item)

/-- Items back to back. -/
def writeAll (items : List Item) : List UInt8 :=
  items.flatMap codec.write

/-- As many items as the count says. -/
def readAll : Nat → List UInt8 → Option (List Item × List UInt8)
  | 0, bytes => some ([], bytes)
  | count + 1, bytes =>
    match codec.read bytes with
    | none => none
    | some (item, rest) =>
      match readAll count rest with
      | none => none
      | some (items, rest) => some (item :: items, rest)

@[simp]
theorem writeAll_nil : codec.writeAll [] = [] := rfl

@[simp]
theorem writeAll_cons (item : Item) (items : List Item) :
    codec.writeAll (item :: items) = codec.write item ++ codec.writeAll items :=
  rfl

theorem readAll_writeAll (items : List Item) (rest : List UInt8) :
    codec.readAll items.length (codec.writeAll items ++ rest) =
      some (items, rest) := by
  induction items with
  | nil => rfl
  | cons item items inductionHypothesis =>
      rw [writeAll_cons, List.append_assoc, List.length_cons, readAll,
        codec.read_write]
      dsimp only
      rw [inductionHypothesis]

theorem writeAll_readAll {count : Nat} {bytes rest : List UInt8}
    {items : List Item} (read : codec.readAll count bytes = some (items, rest)) :
    bytes = codec.writeAll items ++ rest ∧ items.length = count := by
  induction count generalizing bytes items with
  | zero =>
      obtain ⟨rfl, rfl⟩ := Prod.mk.inj (Option.some.inj read)
      exact ⟨rfl, rfl⟩
  | succ count inductionHypothesis =>
      rw [readAll] at read
      split at read
      · cases read
      · next item middle isItem =>
        split at read
        · cases read
        · next others last areOthers =>
          obtain ⟨rfl, rfl⟩ := Prod.mk.inj (Option.some.inj read)
          obtain ⟨rfl, sameCount⟩ := inductionHypothesis areOthers
          refine ⟨?_, congrArg (· + 1) sameCount⟩
          rw [codec.write_read _ _ _ isItem, writeAll_cons, List.append_assoc]

end Repetition

/-- A list whose length fits in a word. -/
abbrev Counted (Item : Type u) : Type u :=
  { items : List Item // items.length < 65536 }

/-- The length of a counted list. -/
def Counted.count (items : Counted Item) : UInt16 :=
  UInt16.ofNat items.1.length

theorem Counted.count_toNat (items : Counted Item) :
    items.count.toNat = items.1.length :=
  (UInt16.toNat_ofNat').trans (Nat.mod_eq_of_lt items.2)

theorem Counted.eq_nil_of_count {items : Counted Item} (none : items.count = 0) :
    items.1 = [] := by
  have length := items.count_toNat
  rw [none] at length
  exact List.eq_nil_of_length_eq_zero length.symm

/-- As many items as a word says. -/
def readCounted (codec : Codec Item) (count : UInt16) (bytes : List UInt8) :
    Option (Counted Item × List UInt8) :=
  match read : codec.readAll count.toNat bytes with
  | none => none
  | some (items, rest) =>
    some (⟨items, by
      rw [(codec.writeAll_readAll read).2]
      exact count.toNat_lt⟩, rest)

theorem readCounted_writeAll (codec : Codec Item) (items : Counted Item)
    (rest : List UInt8) :
    codec.readCounted items.count (codec.writeAll items.1 ++ rest) =
      some (items, rest) := by
  have read := codec.readAll_writeAll items.1 rest
  rw [← items.count_toNat] at read
  unfold readCounted
  split
  · next none => cases read.symm.trans none
  · next others last found =>
    obtain ⟨rfl, rfl⟩ := Prod.mk.inj (Option.some.inj (read.symm.trans found))
    rfl

theorem writeAll_readCounted {codec : Codec Item} {count : UInt16}
    {bytes rest : List UInt8} {items : Counted Item}
    (read : codec.readCounted count bytes = some (items, rest)) :
    bytes = codec.writeAll items.1 ++ rest ∧ items.count = count := by
  unfold readCounted at read
  split at read
  · cases read
  · next others last found =>
    obtain ⟨rfl, rfl⟩ := Prod.mk.inj (Option.some.inj read)
    obtain ⟨same, length⟩ := codec.writeAll_readAll found
    refine ⟨same, UInt16.toNat_inj.mp ?_⟩
    rw [Counted.count_toNat]
    exact length

/-- A list with its length before it. -/
def counted (codec : Codec Item) : Codec (Counted Item) where
  write items := word16.write items.count ++ codec.writeAll items.1
  read bytes :=
    match word16.read bytes with
    | none => none
    | some (count, rest) => codec.readCounted count rest
  read_write items rest := by
    rw [List.append_assoc, word16.read_write]
    dsimp only
    rw [codec.readCounted_writeAll]
  write_read bytes items rest read := by
    split at read
    · cases read
    · next count middle isCount =>
      obtain ⟨same, rfl⟩ := writeAll_readCounted read
      rw [word16.write_read _ _ _ isCount, same, List.append_assoc]

end Codec

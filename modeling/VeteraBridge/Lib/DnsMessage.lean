import VeteraBridge.Lib.Codec

/-!
# DNS messages

The wire format of a DNS message: names as labels that end in the root or in a
pointer, questions, resource records, and the message whose header counts its
four sections.  Reading is exact, so a message that is read is written back byte
for byte.  What a name stands for is found by following its pointers.
-/

namespace DnsMessage

/-! ## Names -/

structure Label where
  bytes : List UInt8
  nonempty : 0 < bytes.length
  fits : bytes.length < 64
deriving DecidableEq

/-- Two bytes that give the place of the rest of a name. -/
structure Pointer where
  high : UInt8
  low : UInt8
  isPointer : 0xC0 ≤ high
deriving DecidableEq

def Pointer.target (pointer : Pointer) : Nat :=
  256 * (pointer.high.toNat - 0xC0) + pointer.low.toNat

/-- A name as it stands on the wire. -/
inductive Name where
  | root
  | pointer (place : Pointer)
  | label (first : Label) (more : Name)
deriving DecidableEq

namespace Label

def write (label : Label) : List UInt8 :=
  UInt8.ofNat label.bytes.length :: label.bytes

/-- A label of the given size. -/
def read (size : Nat) (bytes : List UInt8) : Option (Label × List UInt8) :=
  if fits : 0 < size ∧ size < 64 ∧ size ≤ bytes.length then
    some
      (⟨bytes.take size,
        by rw [List.length_take]; omega,
        by rw [List.length_take]; omega⟩,
        bytes.drop size)
  else
    none

theorem size_toNat (label : Label) :
    (UInt8.ofNat label.bytes.length).toNat = label.bytes.length := by
  have fits := label.fits
  rw [UInt8.toNat_ofNat']
  omega

theorem size_ne_zero (label : Label) :
    UInt8.ofNat label.bytes.length ≠ 0 := by
  intro isRoot
  have size := label.size_toNat
  have nonempty := label.nonempty
  rw [isRoot] at size
  have zero : (0 : UInt8).toNat = 0 := rfl
  omega

theorem size_lt (label : Label) :
    (UInt8.ofNat label.bytes.length).toNat < 64 := by
  rw [label.size_toNat]
  exact label.fits

theorem write_length (label : Label) :
    label.write.length = label.bytes.length + 1 := rfl

theorem read_write (label : Label) (rest : List UInt8) :
    read label.bytes.length (label.bytes ++ rest) = some (label, rest) := by
  have nonempty := label.nonempty
  have fits := label.fits
  unfold read
  rw [dif_pos ⟨nonempty, fits, by rw [List.length_append]; omega⟩]
  simp only [List.take_left, List.drop_left]

theorem write_read {size : Nat} {bytes rest : List UInt8} {label : Label}
    (isRead : read size bytes = some (label, rest)) :
    bytes = label.bytes ++ rest ∧ label.bytes.length = size := by
  unfold read at isRead
  split at isRead
  · next fits =>
    obtain ⟨rfl, rfl⟩ := Prod.mk.inj (Option.some.inj isRead)
    refine ⟨(List.take_append_drop size bytes).symm, ?_⟩
    exact (List.length_take_of_le fits.2.2)
  · cases isRead

end Label

namespace Name

def write : Name → List UInt8
  | root => [0]
  | pointer place => [place.high, place.low]
  | label first more => first.write ++ more.write

/-- A name, read label by label; each takes a byte at least. -/
def readWithin : Nat → List UInt8 → Option (Name × List UInt8)
  | 0, _ => none
  | _ + 1, [] => none
  | fuel + 1, first :: rest =>
    if first = 0 then
      some (root, rest)
    else if isPointer : 0xC0 ≤ first then
      match rest with
      | [] => none
      | low :: rest => some (pointer ⟨first, low, isPointer⟩, rest)
    else
      match Label.read first.toNat rest with
      | none => none
      | some (found, rest) =>
        match readWithin fuel rest with
        | none => none
        | some (more, rest) => some (label found more, rest)

theorem write_length_pos (name : Name) : 0 < name.write.length := by
  cases name with
  | root => exact Nat.one_pos
  | pointer place => exact Nat.two_pos
  | label first more =>
      rw [write, List.length_append, Label.write_length]
      omega

theorem readWithin_write (name : Name) {fuel : Nat} (rest : List UInt8)
    (enough : name.write.length ≤ fuel) :
    readWithin fuel (name.write ++ rest) = some (name, rest) := by
  induction name generalizing fuel with
  | root =>
      obtain ⟨fuel, rfl⟩ := Nat.exists_eq_succ_of_ne_zero
        (Nat.pos_iff_ne_zero.mp enough)
      rfl
  | pointer place =>
      obtain ⟨fuel, rfl⟩ := Nat.exists_eq_succ_of_ne_zero
        (Nat.pos_iff_ne_zero.mp (Nat.lt_of_lt_of_le Nat.two_pos enough))
      have notRoot : place.high ≠ 0 := by
        intro isRoot
        have isPointer := place.isPointer
        rw [isRoot] at isPointer
        exact absurd isPointer (by decide)
      show readWithin (fuel + 1) (place.high :: place.low :: rest) = _
      rw [readWithin, if_neg notRoot, dif_pos place.isPointer]
  | label first more inductionHypothesis =>
      rw [write, List.length_append, Label.write_length] at enough
      obtain ⟨fuel, rfl⟩ : ∃ fuel', fuel = fuel' + 1 :=
        ⟨fuel - 1, by omega⟩
      have notPointer : ¬ 0xC0 ≤ UInt8.ofNat first.bytes.length := by
        intro isPointer
        have above := UInt8.le_iff_toNat_le.mp isPointer
        have below := first.size_lt
        have bound : (0xC0 : UInt8).toNat = 192 := rfl
        omega
      show readWithin (fuel + 1)
        (UInt8.ofNat first.bytes.length :: first.bytes ++ more.write ++ rest) = _
      rw [List.append_assoc, List.cons_append, readWithin,
        if_neg first.size_ne_zero, dif_neg notPointer, first.size_toNat,
        Label.read_write]
      dsimp only
      rw [inductionHypothesis (by omega)]

theorem write_readWithin {fuel : Nat} {bytes rest : List UInt8} {name : Name}
    (isRead : readWithin fuel bytes = some (name, rest)) :
    bytes = name.write ++ rest := by
  induction fuel generalizing bytes name with
  | zero => cases isRead
  | succ fuel inductionHypothesis =>
      cases bytes with
      | nil => cases isRead
      | cons first others =>
          rw [readWithin] at isRead
          split at isRead
          · next isRoot =>
            obtain ⟨rfl, rfl⟩ := Prod.mk.inj (Option.some.inj isRead)
            rw [isRoot]
            rfl
          · split at isRead
            · cases others with
              | nil => cases isRead
              | cons low others =>
                  obtain ⟨rfl, rfl⟩ := Prod.mk.inj (Option.some.inj isRead)
                  rfl
            · split at isRead
              · cases isRead
              · next found middle isLabel =>
                split at isRead
                · cases isRead
                · next more last isMore =>
                  obtain ⟨rfl, rfl⟩ := Prod.mk.inj (Option.some.inj isRead)
                  obtain ⟨rfl, size⟩ := Label.write_read isLabel
                  rw [inductionHypothesis isMore, write, Label.write, size,
                    UInt8.ofNat_toNat, List.append_assoc, List.cons_append]

def codec : Codec Name where
  write := write
  read bytes := readWithin bytes.length bytes
  read_write name rest := by
    apply readWithin_write
    rw [List.length_append]
    exact Nat.le_add_right _ _
  write_read _ _ _ := write_readWithin

/-! ## What a name stands for -/

def labels : Name → List Label
  | root | pointer _ => []
  | label first more => first :: more.labels

def target : Name → Option Nat
  | root => none
  | pointer place => some place.target
  | label _ more => more.target

/-- The labels of a name in a message, at most so many pointers away. -/
def expandWithin (message : List UInt8) : Nat → Name → Option (List Label)
  | fuel, name =>
    match name.target with
    | none => some name.labels
    | some target =>
      match fuel with
      | 0 => none
      | fuel + 1 =>
        match codec.read (message.drop target) with
        | none => none
        | some (more, _) =>
          (expandWithin message fuel more).map (name.labels ++ ·)

/-- The labels of a name in a message; pointers that go round end nowhere. -/
def expand (message : List UInt8) (name : Name) : Option (List Label) :=
  expandWithin message message.length name

/-- The size of a name without compression. -/
def size : List Label → Nat
  | [] => 1
  | first :: others => first.bytes.length + 1 + size others

/-- The labels of a name are found, and no more than a name may have. -/
def Legal (message : List UInt8) (name : Name) : Prop :=
  ∃ labels, name.expand message = some labels ∧ size labels ≤ 255

theorem expand_of_complete {message : List UInt8} {name : Name}
    (complete : name.target = none) :
    name.expand message = some name.labels := by
  unfold expand expandWithin
  rw [complete]

/-- A pointer to a complete name adds its labels. -/
theorem expand_of_target {message rest : List UInt8} {name more : Name}
    {target : Nat} (hasTarget : name.target = some target)
    (read : codec.read (message.drop target) = some (more, rest))
    (complete : more.target = none) :
    name.expand message = some (name.labels ++ more.labels) := by
  obtain ⟨byte, others, isMessage⟩ :
      ∃ byte others, message = byte :: others := by
    cases message with
    | nil =>
        have written := codec.write_read _ _ _ read
        have empty : more.write ++ rest = [] := by
          rw [← List.drop_nil (i := target)]
          exact written.symm
        have positive := more.write_length_pos
        rw [(List.append_eq_nil_iff.mp empty).1] at positive
        cases positive
    | cons byte others => exact ⟨byte, others, rfl⟩
  have within : expandWithin message others.length more = some more.labels := by
    unfold expandWithin
    rw [complete]
  have length : message.length = others.length + 1 := by
    rw [isMessage, List.length_cons]
  unfold expand
  rw [length, expandWithin, hasTarget]
  dsimp only
  rw [read]
  dsimp only
  rw [within, Option.map_some]

/-- A name is its labels, then the root or a pointer. -/
theorem write_cases (name : Name) :
    (name.target = none ∧
        name.write = name.labels.flatMap Label.write ++ [0]) ∨
      ∃ place : Pointer, name.target = some place.target ∧
        name.write =
          name.labels.flatMap Label.write ++ [place.high, place.low] := by
  induction name with
  | root => exact Or.inl ⟨rfl, rfl⟩
  | pointer place => exact Or.inr ⟨place, rfl, rfl⟩
  | label first more inductionHypothesis =>
      rcases inductionHypothesis with ⟨complete, ending⟩ |
        ⟨place, target, ending⟩
      · refine Or.inl ⟨complete, ?_⟩
        rw [write, ending, labels, List.flatMap_cons, List.append_assoc]
      · refine Or.inr ⟨place, target, ?_⟩
        rw [write, ending, labels, List.flatMap_cons, List.append_assoc]

/-- The labels take what the size of the name says, less its end. -/
theorem flatMap_write_length (labels : List Label) :
    (labels.flatMap Label.write).length + 1 = size labels := by
  induction labels with
  | nil => rfl
  | cons first others inductionHypothesis =>
      rw [List.flatMap_cons, List.length_append, Label.write_length, size,
        ← inductionHypothesis, Nat.add_assoc]

theorem write_length_of_complete {name : Name} (complete : name.target = none) :
    name.write.length = size name.labels := by
  rcases name.write_cases with ⟨-, ending⟩ | ⟨place, target, -⟩
  · rw [ending, List.length_append, ← flatMap_write_length]
    rfl
  · cases complete.symm.trans target

/-- A name of one byte is the root. -/
theorem eq_root_of_length {name : Name} (short : name.write.length ≤ 1) :
    name = root := by
  cases name with
  | root => rfl
  | pointer place => exact absurd short (Nat.not_le_of_lt Nat.one_lt_two)
  | label first more =>
      have nonempty := more.write_length_pos
      rw [write, List.length_append, Label.write_length] at short
      omega

/-- A name that ends in these two bytes ends in the pointer they make. -/
theorem labels_of_pointer {name : Name} {place : Pointer} {before : List UInt8}
    (notRoot : place.low ≠ 0)
    (written : name.write = before ++ [place.high, place.low]) :
    name.target = some place.target ∧
      name.labels.flatMap Label.write = before := by
  rcases name.write_cases with ⟨-, ending⟩ | ⟨other, target, ending⟩
  · have last : [place.high, place.low] = [place.high] ++ [place.low] := rfl
    rw [ending, last, ← List.append_assoc] at written
    have same := (List.append_inj' written rfl).2
    exact absurd (List.cons.inj same).1.symm notRoot
  · obtain ⟨same, ends⟩ := List.append_inj' (ending.symm.trans written) rfl
    obtain ⟨high, lows⟩ := List.cons.inj ends
    have low := (List.cons.inj lows).1
    refine ⟨?_, same⟩
    rw [target, Pointer.target, Pointer.target, high, low]

end Name

/-! ## Bytes that are no name -/

/-- The bytes begin with neither the root nor a whole label. -/
def Broken (bytes : List UInt8) : Prop :=
  ∃ (size : UInt8) (rest : List UInt8), bytes = size :: rest ∧ size ≠ 0 ∧
    Label.read size.toNat rest = none

theorem Label.read_eq_none_iff {size : Nat} {bytes : List UInt8} :
    Label.read size bytes = none ↔
      size = 0 ∨ 64 ≤ size ∨ bytes.length < size := by
  unfold Label.read
  split
  · next fits =>
    constructor
    · intro isNone
      cases isNone
    · omega
  · next outside =>
    constructor
    · intro _
      omega
    · intro _
      rfl

/-- The labels that any bytes begin with, and what stands behind them. -/
theorem exists_labels (bytes : List UInt8) :
    ∃ (labels : List Label) (rest : List UInt8),
      bytes = labels.flatMap Label.write ++ rest ∧
        (rest = [] ∨ (∃ more, rest = 0 :: more) ∨ Broken rest) := by
  induction length : bytes.length using Nat.strongRecOn
    generalizing bytes with
  | _ left inductionHypothesis =>
    cases bytes with
    | nil => exact ⟨[], [], rfl, Or.inl rfl⟩
    | cons size others =>
        by_cases root : size = 0
        · exact ⟨[], size :: others, rfl,
            Or.inr (Or.inl ⟨others, by rw [root]⟩)⟩
        cases isRead : Label.read size.toNat others with
        | none =>
            exact ⟨[], size :: others, rfl,
              Or.inr (Or.inr ⟨size, others, rfl, root, isRead⟩)⟩
        | some found =>
            obtain ⟨first, behind⟩ := found
            obtain ⟨rfl, size_eq⟩ := Label.write_read isRead
            have shorter : behind.length < left := by
              rw [List.length_cons, List.length_append] at length
              omega
            obtain ⟨labels, rest, rfl, ending⟩ :=
              inductionHypothesis _ shorter behind rfl
            refine ⟨first :: labels, rest, ?_, ending⟩
            rw [List.flatMap_cons, Label.write, size_eq, UInt8.ofNat_toNat,
              List.append_assoc, List.cons_append]

/-! ## Questions and records -/

structure Question where
  name : Name
  qtype : UInt16
  qclass : UInt16
deriving DecidableEq

def Question.ofParts : Name × UInt16 × UInt16 ≃ Question where
  toFun parts := ⟨parts.1, parts.2.1, parts.2.2⟩
  invFun question := (question.name, question.qtype, question.qclass)
  left_inv _ := rfl
  right_inv _ := rfl

def Question.codec : Codec Question :=
  (Name.codec.pair (Codec.word16.pair Codec.word16)).map Question.ofParts

/-- A letter in lower case. -/
def foldCase (byte : UInt8) : UInt8 :=
  if 0x41 ≤ byte ∧ byte ≤ 0x5A then byte + 0x20 else byte

/-- What is asked: the name, with letters of either case the same, the type and
the class. -/
def Question.subject (question : Question) :
    List (List UInt8) × Option Nat × UInt16 × UInt16 :=
  (question.name.labels.map fun label => label.bytes.map foldCase,
    question.name.target, question.qtype, question.qclass)

structure Record where
  name : Name
  rtype : UInt16
  rclass : UInt16
  ttl : UInt32
  rdata : Codec.Counted UInt8

def Record.ofParts :
    Name × UInt16 × UInt16 × UInt32 × Codec.Counted UInt8 ≃ Record where
  toFun parts :=
    ⟨parts.1, parts.2.1, parts.2.2.1, parts.2.2.2.1, parts.2.2.2.2⟩
  invFun record :=
    (record.name, record.rtype, record.rclass, record.ttl, record.rdata)
  left_inv _ := rfl
  right_inv _ := rfl

def Record.codec : Codec Record :=
  (Name.codec.pair (Codec.word16.pair (Codec.word16.pair
    (Codec.word32.pair (Codec.counted Codec.byte))))).map Record.ofParts

/-! ## Messages -/

structure Message where
  id : UInt16
  flags : UInt16
  questions : Codec.Counted Question
  answers : Codec.Counted Record
  authority : Codec.Counted Record
  additional : Codec.Counted Record

/-- The six words of a header. -/
def header :
    Codec (UInt16 × UInt16 × UInt16 × UInt16 × UInt16 × UInt16) :=
  Codec.word16.pair (Codec.word16.pair (Codec.word16.pair
    (Codec.word16.pair (Codec.word16.pair Codec.word16))))

namespace Message

/-- The header, with the counts of the sections. -/
def words (message : Message) :
    UInt16 × UInt16 × UInt16 × UInt16 × UInt16 × UInt16 :=
  (message.id, message.flags, message.questions.count, message.answers.count,
    message.authority.count, message.additional.count)

def sections (message : Message) : List UInt8 :=
  Question.codec.writeAll message.questions.1 ++
    (Record.codec.writeAll message.answers.1 ++
      (Record.codec.writeAll message.authority.1 ++
        Record.codec.writeAll message.additional.1))

def write (message : Message) : List UInt8 :=
  header.write message.words ++ message.sections

/-- The sections as the counts say. -/
def readSections (id flags qdcount ancount nscount arcount : UInt16)
    (bytes : List UInt8) : Option (Message × List UInt8) :=
  match Question.codec.readCounted qdcount bytes with
  | none => none
  | some (questions, rest) =>
    match Record.codec.readCounted ancount rest with
    | none => none
    | some (answers, rest) =>
      match Record.codec.readCounted nscount rest with
      | none => none
      | some (authority, rest) =>
        match Record.codec.readCounted arcount rest with
        | none => none
        | some (additional, rest) =>
          some (⟨id, flags, questions, answers, authority, additional⟩, rest)

def codec : Codec Message where
  write := write
  read bytes :=
    match header.read bytes with
    | none => none
    | some ((id, flags, qdcount, ancount, nscount, arcount), rest) =>
      readSections id flags qdcount ancount nscount arcount rest
  read_write message rest := by
    rw [write, List.append_assoc, header.read_write]
    simp only [words, sections, readSections, List.append_assoc,
      Codec.readCounted_writeAll]
  write_read bytes message rest read := by
    split at read
    · cases read
    · next id flags qdcount ancount nscount arcount middle isHeader =>
      unfold readSections at read
      split at read
      · cases read
      · next questions afterQuestions areQuestions =>
        split at read
        · cases read
        · next answers afterAnswers areAnswers =>
          split at read
          · cases read
          · next authority afterAuthority isAuthority =>
            split at read
            · cases read
            · next additional last isAdditional =>
              obtain ⟨rfl, rfl⟩ := Prod.mk.inj (Option.some.inj read)
              obtain ⟨rfl, rfl⟩ := Codec.writeAll_readCounted areQuestions
              obtain ⟨rfl, rfl⟩ := Codec.writeAll_readCounted areAnswers
              obtain ⟨rfl, rfl⟩ := Codec.writeAll_readCounted isAuthority
              obtain ⟨rfl, rfl⟩ := Codec.writeAll_readCounted isAdditional
              rw [header.write_read _ _ _ isHeader, write, words, sections]
              simp only [List.append_assoc]

/-- A whole message, with nothing after it. -/
def readWhole (bytes : List UInt8) : Option Message :=
  match codec.read bytes with
  | some (message, []) => some message
  | _ => none

theorem readWhole_eq_some_iff {bytes : List UInt8} {message : Message} :
    readWhole bytes = some message ↔ bytes = message.write := by
  constructor
  · intro read
    unfold readWhole at read
    split at read
    · next found isRead =>
      cases read
      rw [codec.write_read _ _ _ isRead, List.append_nil]
      rfl
    · cases read
  · rintro rfl
    have read := codec.read_write message []
    rw [List.append_nil] at read
    unfold readWhole
    show (match codec.read (codec.write message) with
      | some (message, []) => some message
      | _ => none) = _
    rw [read]

/-- A header and what follows it are read apart. -/
theorem readWhole_header_iff
    {words : UInt16 × UInt16 × UInt16 × UInt16 × UInt16 × UInt16}
    {body : List UInt8} {message : Message} :
    readWhole (header.write words ++ body) = some message ↔
      words = message.words ∧ body = message.sections := by
  rw [readWhole_eq_some_iff]
  constructor
  · exact header.write_append_inj
  · rintro ⟨rfl, rfl⟩
    rfl

/-- The names of a message that stand outside of record data. -/
def names (message : Message) : List Name :=
  message.questions.1.map Question.name ++
    (message.answers.1 ++ message.authority.1 ++ message.additional.1).map
      Record.name

end Message

end DnsMessage

import VeteraBridge.Lib.DnsMessage
import Mathlib.Data.List.GetD

/-!
# Replies of the bridge's own

What `dns_fwd.c` answers without an upstream: the gateway's address or NXDOMAIN
while WiFi is down, SERVFAIL when the upstream fails.  The question is copied as
the first 200 bytes of the query after its header, which may be more than the
question, or less.
-/

namespace VeteraBridge.Dns

open DnsMessage

/-! ## The functions -/

def dnsMaxPacket : Nat := 512

/-- `GW_IP0` to `GW_IP3`. -/
def gwIp : List UInt8 := [192, 168, 7, 1]

/-- The walk over the labels of the QNAME from `off`; each takes a byte at
least. -/
def skipName (query : List UInt8) : Nat → Nat → Nat
  | 0, off => off
  | fuel + 1, off =>
    if off + 4 < query.length then
      let len := query.getD off 0
      if len = 0 then off + 1
      else if len &&& 0xC0 = 0xC0 then off + 2
      else skipName query fuel (off + 1 + len.toNat)
    else
      off

/-- The 16 bytes of the answer: the name is a pointer to the question's. -/
def gatewayRecord : List UInt8 :=
  [0xC0, 0x0C, 0x00, 0x01, 0x00, 0x01, 0x00, 0x00, 0x00, 0x3C, 0x00, 0x04] ++
    gwIp

/-- The ID of the query, the flags, and the counts. -/
def replyHeader (query : List UInt8) (flags ancount : UInt8) : List UInt8 :=
  [query.getD 0 0, query.getD 1 0, 0x81, flags, 0x00, 0x01, 0x00, ancount,
    0x00, 0x00, 0x00, 0x00]

/-- A reply with the question and no answer. -/
def replyWithoutAnswer (query : List UInt8) (flags : UInt8) (rmax : Nat) :
    List UInt8 :=
  let query := query.take 200
  if 12 < query.length ∧ query.length ≤ rmax then
    replyHeader query flags 0 ++ query.drop 12
  else
    replyHeader query flags 0

/-- The word at `off`, high byte first. -/
def qtypeAt (query : List UInt8) (off : Nat) : UInt16 :=
  Codec.wordBytes (query.getD off 0, query.getD (off + 1) 0)

/-- `dns_make_captive_reply`; no bytes where it returns 0. -/
def dnsMakeCaptiveReply (query : List UInt8) (rmax : Nat) : List UInt8 :=
  if query.length < 12 ∨ rmax < 28 then []
  else
    let off := skipName query query.length 12
    if query.length < off + 4 then []
    else if qtypeAt query off ≠ 0x0001 then
      -- `rmax` is asked for again in the source, and is not below 12 here
      replyWithoutAnswer query 0x83 rmax
    else
      let query := query.take 200
      if query.length ≤ 12 ∨ rmax < query.length + 16 then []
      else
        replyHeader query 0x80 1 ++ (query.drop 12 ++ gatewayRecord)

/-- `dns_make_servfail_reply`. -/
def dnsMakeServfailReply (query : List UInt8) (rmax : Nat) : List UInt8 :=
  if query.length < 12 ∨ rmax < 12 then []
  else replyWithoutAnswer query 0x82 rmax

/-! ## Queries -/

/-- A query with one question whose name is written out, and any bytes after it,
where additional records stand. -/
structure Query where
  id : UInt16
  flags : UInt16
  ancount : UInt16
  nscount : UInt16
  arcount : UInt16
  question : Question
  complete : question.name.target = none
  legal : Name.size question.name.labels ≤ 255
  additional : List UInt8
  fits : 12 + (Question.codec.write question).length + additional.length ≤
    dnsMaxPacket

namespace Query

def header (query : Query) : List UInt8 :=
  DnsMessage.header.write
    (query.id, query.flags, 1, query.ancount, query.nscount, query.arcount)

def bytes (query : Query) : List UInt8 :=
  query.header ++ (Question.codec.write query.question ++ query.additional)

/-- The bytes of the question. -/
def asked (query : Query) : List UInt8 :=
  Question.codec.write query.question

/-- Where the question ends. -/
def questionEnd (query : Query) : Nat := 12 + query.asked.length

/-- What is copied is the question: nothing comes after it, or it ends just
where the copy does. -/
def CopiedAlone (query : Query) : Prop :=
  (query.additional = [] ∧ query.questionEnd ≤ 200) ∨ query.questionEnd = 200

theorem header_length (query : Query) : query.header.length = 12 := rfl

theorem bytes_length (query : Query) :
    query.bytes.length = query.questionEnd + query.additional.length := by
  rw [bytes, List.length_append, header_length, List.length_append,
    questionEnd, asked, Nat.add_assoc]

theorem asked_eq (query : Query) :
    query.asked =
      query.question.name.write ++
        (Codec.word16.write query.question.qtype ++
          Codec.word16.write query.question.qclass) := rfl

theorem asked_length (query : Query) :
    query.asked.length = query.question.name.write.length + 4 := by
  rw [asked_eq, List.length_append, List.length_append,
    Codec.word16_write_length, Codec.word16_write_length]

/-- The type and what is after it. -/
def afterName (query : Query) : List UInt8 :=
  Codec.word16.write query.question.qtype ++
    (Codec.word16.write query.question.qclass ++ query.additional)

theorem bytes_eq (query : Query) :
    query.bytes =
      query.header ++ (query.question.name.write ++ query.afterName) := by
  rw [bytes, ← asked, asked_eq, afterName, List.append_assoc, List.append_assoc]

/-- The question and what is after it, up to byte 200. -/
def copied (query : Query) : List UInt8 :=
  (query.asked ++ query.additional).take 188

theorem drop_take_bytes (query : Query) :
    (query.bytes.take 200).drop 12 = query.copied := by
  rw [List.drop_take]
  rfl

theorem take_bytes_length (query : Query) :
    (query.bytes.take 200).length = 12 + query.copied.length := by
  rw [List.length_take, bytes_length, copied, List.length_take,
    List.length_append, questionEnd]
  omega

theorem copied_length (query : Query) :
    query.copied.length =
      min 188 (query.asked.length + query.additional.length) := by
  rw [copied, List.length_take, List.length_append]

theorem copied_eq_iff (query : Query) :
    query.copied = query.asked ↔ query.CopiedAlone := by
  have length := query.copied_length
  unfold CopiedAlone questionEnd
  constructor
  · intro same
    rw [same] at length
    by_cases alone : query.additional = []
    · rw [alone, List.length_nil] at length
      exact Or.inl ⟨alone, by omega⟩
    · have more := List.length_pos_iff.mpr alone
      exact Or.inr (by omega)
  · rintro (⟨alone, short⟩ | ends)
    · rw [copied, alone, List.append_nil]
      exact List.take_of_length_le (by omega)
    · exact List.take_left' (by omega)

end Query

/-! ## What the functions make of a query -/

section Synthesis

variable (query : Query)

theorem low_label {len : UInt8} (low : len.toNat < 64) :
    len &&& 0xC0 ≠ 0xC0 := by
  intro high
  have conj := congrArg UInt8.toNat high
  rw [UInt8.toNat_and] at conj
  have below : len.toNat &&& (0xC0 : UInt8).toNat ≤ len.toNat := Nat.and_le_left
  rw [conj] at below
  have bound : (0xC0 : UInt8).toNat = 192 := rfl
  omega

/-- The walk over a name that is written out ends after it. -/
theorem skipName_name {name : Name} (complete : name.target = none)
    (before after : List UInt8) {fuel : Nat} (enough : name.write.length ≤ fuel)
    (room : 4 ≤ after.length) :
    skipName (before ++ (name.write ++ after)) fuel before.length =
      before.length + name.write.length := by
  induction name generalizing before fuel with
  | root =>
      obtain ⟨fuel, rfl⟩ : ∃ fuel', fuel = fuel' + 1 :=
        ⟨fuel - 1, (Nat.sub_add_cancel enough).symm⟩
      have inside : before.length + 4 <
          (before ++ (Name.root.write ++ after)).length := by
        rw [List.length_append, List.length_append]
        have one : Name.root.write.length = 1 := rfl
        omega
      have zero :
          (before ++ (Name.root.write ++ after)).getD before.length 0 = 0 := by
        rw [List.getD_append_right _ _ _ _ (Nat.le_refl _), Nat.sub_self]
        rfl
      rw [skipName, if_pos inside]
      dsimp only
      rw [if_pos zero]
      rfl
  | pointer place => cases complete
  | label first more inductionHypothesis =>
      have split : (Name.label first more).write =
          first.write ++ more.write := rfl
      rw [split, List.length_append, Label.write_length] at enough
      obtain ⟨fuel, rfl⟩ : ∃ fuel', fuel = fuel' + 1 :=
        ⟨fuel - 1, by omega⟩
      have shape : before ++ ((Name.label first more).write ++ after) =
          (before ++ first.write) ++ (more.write ++ after) := by
        rw [split, List.append_assoc, List.append_assoc]
      have inside : before.length + 4 <
          ((before ++ first.write) ++ (more.write ++ after)).length := by
        rw [List.length_append, List.length_append, List.length_append,
          Label.write_length]
        omega
      have len : ((before ++ first.write) ++ (more.write ++ after)).getD
          before.length 0 = UInt8.ofNat first.bytes.length := by
        rw [List.append_assoc,
          List.getD_append_right _ _ _ _ (Nat.le_refl _), Nat.sub_self]
        rfl
      have next : before.length + 1 + first.bytes.length =
          (before ++ first.write).length := by
        rw [List.length_append, Label.write_length]
        omega
      rw [shape, skipName, if_pos inside]
      dsimp only
      rw [len, if_neg first.size_ne_zero, if_neg (low_label first.size_lt),
        first.size_toNat, next, inductionHypothesis complete _ (by omega), split,
        List.length_append, List.length_append, Nat.add_assoc]

theorem skipName_bytes :
    skipName query.bytes query.bytes.length 12 =
      12 + query.question.name.write.length := by
  have length := query.bytes_length
  have asked := query.asked_length
  have ended : query.questionEnd = 12 + query.asked.length := rfl
  have enough : query.question.name.write.length ≤ query.bytes.length := by
    omega
  have room : 4 ≤ query.afterName.length := by
    rw [Query.afterName, List.length_append, List.length_append,
      Codec.word16_write_length, Codec.word16_write_length]
    omega
  have walk :=
    skipName_name query.complete query.header query.afterName enough room
  rw [← query.bytes_eq, query.header_length] at walk
  exact walk

theorem qtypeAt_bytes :
    qtypeAt query.bytes (12 + query.question.name.write.length) =
      query.question.qtype := by
  have start : (query.header ++ query.question.name.write).length =
      12 + query.question.name.write.length := by
    rw [List.length_append, query.header_length]
  have shape : query.bytes =
      (query.header ++ query.question.name.write) ++ query.afterName := by
    rw [query.bytes_eq, List.append_assoc]
  have read := Codec.wordBytes.right_inv query.question.qtype
  unfold qtypeAt
  rw [shape, ← start, List.getD_append_right _ _ _ _ (Nat.le_refl _),
    List.getD_append_right _ _ _ _ (Nat.le_add_right _ 1), Nat.sub_self,
    Nat.add_sub_cancel_left]
  exact read

theorem replyHeader_bytes (flags ancount : UInt8) :
    replyHeader query.bytes flags ancount =
      header.write
        (query.id, Codec.wordBytes (0x81, flags), 1,
          Codec.wordBytes (0, ancount), 0, 0) := by
  show _ = Codec.word16.write query.id ++ (Codec.word16.write _ ++
    (Codec.word16.write 1 ++ (Codec.word16.write _ ++ (Codec.word16.write 0 ++
      Codec.word16.write 0))))
  rw [Codec.word16_write_wordBytes, Codec.word16_write_wordBytes]
  rfl

/-- A reply without an answer is the header and what is copied. -/
theorem replyWithoutAnswer_bytes (flags : UInt8) :
    replyWithoutAnswer query.bytes flags dnsMaxPacket =
      replyHeader query.bytes flags 0 ++ query.copied := by
  have length := query.take_bytes_length
  have copied := query.copied_length
  have asked := query.asked_length
  have room : 12 < (query.bytes.take 200).length ∧
      (query.bytes.take 200).length ≤ dnsMaxPacket := by
    rw [length]
    unfold dnsMaxPacket
    omega
  unfold replyWithoutAnswer
  dsimp only
  rw [if_pos room, query.drop_take_bytes]
  rfl

/-- The walk finds the type of the question. -/
theorem captive_bytes :
    dnsMakeCaptiveReply query.bytes dnsMaxPacket =
      if query.question.qtype ≠ 1 then
        replyHeader query.bytes 0x83 0 ++ query.copied
      else
        replyHeader query.bytes 0x80 1 ++ (query.copied ++ gatewayRecord) := by
  have length := query.bytes_length
  have asked := query.asked_length
  have ended : query.questionEnd = 12 + query.asked.length := rfl
  have taken := query.take_bytes_length
  have copied := query.copied_length
  have headed : ¬ (query.bytes.length < 12 ∨ dnsMaxPacket < 28) := by
    unfold dnsMaxPacket
    omega
  have typed : ¬ query.bytes.length <
      12 + query.question.name.write.length + 4 := by
    omega
  have room : ¬ ((query.bytes.take 200).length ≤ 12 ∨
      dnsMaxPacket < (query.bytes.take 200).length + 16) := by
    rw [taken]
    unfold dnsMaxPacket
    omega
  unfold dnsMakeCaptiveReply
  rw [if_neg headed]
  dsimp only
  rw [skipName_bytes, qtypeAt_bytes, if_neg typed, if_neg room,
    replyWithoutAnswer_bytes, query.drop_take_bytes]
  rfl

theorem servfail_bytes :
    dnsMakeServfailReply query.bytes dnsMaxPacket =
      replyHeader query.bytes 0x82 0 ++ query.copied := by
  have length := query.bytes_length
  have ended : query.questionEnd = 12 + query.asked.length := rfl
  have headed : ¬ (query.bytes.length < 12 ∨ dnsMaxPacket < 12) := by
    unfold dnsMaxPacket
    omega
  unfold dnsMakeServfailReply
  rw [if_neg headed, replyWithoutAnswer_bytes]

end Synthesis

/-! ## Well-formed replies -/

/-- The reply is a whole message with legal names, the ID and the question of
the query. -/
structure RepliesTo (query : Query) (reply : List UInt8) (message : Message) :
    Prop where
  reads : Message.readWhole reply = some message
  names : ∀ name ∈ message.names, name.Legal reply
  id : message.id = query.id
  questions : message.questions.1 = [query.question]

/-- The record gives the gateway's address for the name that was asked for. -/
structure GivesGateway (query : Query) (reply : List UInt8) (record : Record) :
    Prop where
  name : record.name.expand reply = some query.question.name.labels
  rtype : record.rtype = 1
  rclass : record.rclass = 1
  rdata : record.rdata.1 = gwIp

def WellFormedReply (query : Query) (reply : List UInt8) : Prop :=
  ∃ message, RepliesTo query reply message

/-- A well-formed reply whose one answer is the gateway's address. -/
def CaptiveAnswer (query : Query) (reply : List UInt8) : Prop :=
  ∃ message, RepliesTo query reply message ∧
    ∃ record, message.answers.1 = [record] ∧ GivesGateway query reply record

section WellFormed

variable {query : Query} {flags : UInt8} {body : List UInt8}

theorem Query.name_legal (query : Query) (reply : List UInt8) :
    query.question.name.Legal reply :=
  ⟨query.question.name.labels, Name.expand_of_complete query.complete,
    query.legal⟩

/-- The header counts one question, and answers as it says. -/
theorem RepliesTo.parts {reply : List UInt8} {ancount : UInt8}
    {message : Message} (replies : RepliesTo query reply message)
    (isReply : reply = replyHeader query.bytes flags ancount ++ body) :
    body = query.asked ++ Record.codec.writeAll message.answers.1 ∧
      message.answers.count = Codec.wordBytes (0, ancount) := by
  have reads := replies.reads
  rw [isReply, replyHeader_bytes] at reads
  obtain ⟨words, sections⟩ := Message.readWhole_header_iff.mp reads
  simp only [Message.words, Prod.mk.injEq] at words
  obtain ⟨-, -, -, answers, authority, additional⟩ := words
  have noAuthority := Codec.Counted.eq_nil_of_count authority.symm
  have noAdditional := Codec.Counted.eq_nil_of_count additional.symm
  refine ⟨?_, answers.symm⟩
  rw [sections, Message.sections, replies.questions, noAuthority, noAdditional,
    Codec.writeAll_nil, List.append_nil, List.append_nil, Codec.writeAll_cons,
    Codec.writeAll_nil, List.append_nil]
  rfl

/-- The message of a reply: the question, and the answers given. -/
def replyMessage (query : Query) (flags : UInt8)
    (answers : Codec.Counted Record) : Message where
  id := query.id
  flags := Codec.wordBytes (0x81, flags)
  questions := ⟨[query.question], by show 1 < 65536; decide⟩
  answers := answers
  authority := ⟨[], by decide⟩
  additional := ⟨[], by decide⟩

theorem replyMessage_reads (query : Query) (flags : UInt8) {ancount : UInt8}
    {answers : Codec.Counted Record}
    (counted : answers.count = Codec.wordBytes (0, ancount)) :
    Message.readWhole
        (replyHeader query.bytes flags ancount ++
          (query.asked ++ Record.codec.writeAll answers.1)) =
      some (replyMessage query flags answers) := by
  rw [replyHeader_bytes, Message.readWhole_header_iff]
  refine ⟨?_, ?_⟩
  · rw [← counted]
    rfl
  · show query.asked ++ _ = (_ ++ []) ++ (_ ++ ([] ++ []))
    rw [List.append_nil, List.append_nil, List.append_nil]
    rfl

/-- Without an answer the body is the question. -/
theorem wellFormed_withoutAnswer :
    WellFormedReply query (replyHeader query.bytes flags 0 ++ body) ↔
      body = query.asked := by
  constructor
  · rintro ⟨message, replies⟩
    obtain ⟨same, count⟩ := replies.parts rfl
    have none : message.answers.1 = [] :=
      Codec.Counted.eq_nil_of_count (count.trans (by decide))
    rw [none, Codec.writeAll_nil, List.append_nil] at same
    exact same
  · rintro rfl
    have counted : Codec.Counted.count (⟨[], by decide⟩ : Codec.Counted Record) =
        Codec.wordBytes (0, 0) := by decide
    have reads := replyMessage_reads query flags counted
    rw [Codec.writeAll_nil, List.append_nil] at reads
    refine ⟨_, reads, ?_, rfl, rfl⟩
    intro name member
    rw [List.mem_singleton.mp member]
    exact query.name_legal _

/-- The pointer to byte 12. -/
def gatewayPointer : Pointer := ⟨0xC0, 0x0C, by decide⟩

/-- The answer of the captive reply, read. -/
def gatewayAnswer : Record where
  name := .pointer gatewayPointer
  rtype := 1
  rclass := 1
  ttl := 60
  rdata := ⟨gwIp, by decide⟩

theorem gatewayAnswer_write :
    Record.codec.write gatewayAnswer = gatewayRecord := by decide

/-- The record of an address takes 14 bytes after its name. -/
theorem record_write {record : Record} (rdata : record.rdata.1 = gwIp) :
    ∃ rest, Record.codec.write record = record.name.write ++ rest ∧
      rest.length = 14 := by
  refine ⟨_, rfl, ?_⟩
  show (Codec.word16.write record.rtype ++ (Codec.word16.write record.rclass ++
    (Codec.word32.write record.ttl ++
      (Codec.word16.write record.rdata.count ++
        Codec.byte.writeAll record.rdata.1)))).length = 14
  rw [rdata]
  rfl

/-- A name that points to byte 12 goes on with the name of the question. -/
theorem Query.expand_pointed (query : Query) (name : Name)
    {front : List UInt8} (tail : List UInt8) (twelve : front.length = 12)
    (target : name.target = some 12) :
    name.expand (front ++ (query.asked ++ tail)) =
      some (name.labels ++ query.question.name.labels) := by
  have dropped : (front ++ (query.asked ++ tail)).drop 12 =
      query.question.name.write ++
        (Codec.word16.write query.question.qtype ++
          Codec.word16.write query.question.qclass ++ tail) := by
    rw [← twelve, List.drop_left, query.asked_eq, List.append_assoc]
  have read := Name.codec.read_write query.question.name
    (Codec.word16.write query.question.qtype ++
      Codec.word16.write query.question.qclass ++ tail)
  exact Name.expand_of_target target
    ((congrArg Name.codec.read dropped).trans read) query.complete

/-- A record that ends with the pointer to the question's name has no labels
of its own. -/
theorem GivesGateway.labels_nil {front tail before : List UInt8}
    {record : Record} (twelve : front.length = 12)
    (gives : GivesGateway query (front ++ (query.asked ++ tail)) record)
    (written : record.name.write = before ++ [0xC0, 0x0C]) : before = [] := by
  have place : record.name.write =
      before ++ [gatewayPointer.high, gatewayPointer.low] := written
  obtain ⟨target, labels⟩ := Name.labels_of_pointer (by decide) place
  have expanded := query.expand_pointed record.name tail twelve target
  have same := Option.some.inj (expanded.symm.trans gives.name)
  rw [← labels, List.append_left_eq_self.mp same]
  rfl

/-- With the gateway's record at its end the body holds the question alone. -/
theorem GivesGateway.copied_eq {front : List UInt8} {record : Record}
    (twelve : front.length = 12)
    (gives : GivesGateway query
      (front ++ (query.asked ++ Record.codec.write record)) record)
    (same : query.copied ++ gatewayRecord =
      query.asked ++ Record.codec.write record) :
    query.copied = query.asked := by
  obtain ⟨rest, written, size⟩ := record_write gives.rdata
  have copied := query.copied_length
  have asked := query.asked_length
  have lengths := congrArg List.length same
  rw [written, List.length_append, List.length_append, List.length_append,
    size] at lengths
  have sixteen : gatewayRecord.length = 16 := rfl
  rcases Nat.lt_trichotomy query.copied.length query.asked.length with
    short | equal | long
  · -- the cut question leaves no room for the record of a name
    have root : record.name = .root := Name.eq_root_of_length (by omega)
    have none := gives.name
    rw [root, Name.expand_of_complete rfl] at none
    have whole := Name.write_length_of_complete query.complete
    rw [← Option.some.inj none] at whole
    have one : Name.size Name.root.labels = 1 := rfl
    omega
  · exact (List.append_inj same equal).1
  · -- what is copied after the question belongs to the name of the record
    have more : query.copied =
        query.asked ++ query.additional.take (188 - query.asked.length) := by
      rw [Query.copied, List.take_append, List.take_of_length_le (by omega)]
    rw [more, List.append_assoc] at same
    have cancelled := List.append_cancel_left same
    have pointer : gatewayRecord = [0xC0, 0x0C] ++ gatewayRecord.drop 2 := rfl
    rw [written, pointer, ← List.append_assoc] at cancelled
    have name := (List.append_inj' cancelled size.symm).1
    rw [more, gives.labels_nil twelve name.symm, List.append_nil]

/-- With the gateway's record the body holds the question alone too. -/
theorem captiveAnswer_iff :
    CaptiveAnswer query
        (replyHeader query.bytes flags 1 ++ (query.copied ++ gatewayRecord)) ↔
      query.copied = query.asked := by
  constructor
  · rintro ⟨message, replies, record, one, gives⟩
    have same := (replies.parts rfl).1
    rw [one, Codec.writeAll_cons, Codec.writeAll_nil, List.append_nil] at same
    rw [same] at gives
    exact gives.copied_eq rfl same
  · intro same
    have counted :
        Codec.Counted.count
            (⟨[gatewayAnswer], by show 1 < 65536; decide⟩ :
              Codec.Counted Record) = Codec.wordBytes (0, 1) := by decide
    have reads := replyMessage_reads query flags counted
    rw [Codec.writeAll_cons, Codec.writeAll_nil, List.append_nil,
      gatewayAnswer_write] at reads
    have twelve : (replyHeader query.bytes flags 1).length = 12 := rfl
    have name :=
      query.expand_pointed gatewayAnswer.name gatewayRecord twelve rfl
    rw [same]
    refine ⟨_, ⟨reads, ?_, rfl, rfl⟩, gatewayAnswer, rfl, name, rfl, rfl, rfl⟩
    intro other member
    rcases List.mem_cons.mp member with rfl | answer
    · exact query.name_legal _
    · rw [List.mem_singleton.mp answer]
      exact ⟨_, name, query.legal⟩

end WellFormed

/-- What the bridge synthesizes for a query is well-formed: the captive reply,
with the gateway's address where an address is asked for, and SERVFAIL. -/
structure Synthesizes (query : Query) : Prop where
  address : query.question.qtype = 1 →
    CaptiveAnswer query (dnsMakeCaptiveReply query.bytes dnsMaxPacket)
  other : query.question.qtype ≠ 1 →
    WellFormedReply query (dnsMakeCaptiveReply query.bytes dnsMaxPacket)
  servfail :
    WellFormedReply query (dnsMakeServfailReply query.bytes dnsMaxPacket)

/-- What is synthesized for a query is well-formed exactly when the copy of its
question holds the question alone. -/
theorem synthesizes_iff (query : Query) :
    Synthesizes query ↔ query.CopiedAlone := by
  rw [← query.copied_eq_iff]
  constructor
  · intro synthesizes
    have servfail := synthesizes.servfail
    rw [servfail_bytes] at servfail
    exact wellFormed_withoutAnswer.mp servfail
  · intro alone
    refine ⟨?_, ?_, ?_⟩
    · intro address
      rw [captive_bytes, if_neg (not_not.mpr address)]
      exact captiveAnswer_iff.mpr alone
    · intro other
      rw [captive_bytes, if_pos other]
      exact wellFormed_withoutAnswer.mpr alone
    · rw [servfail_bytes]
      exact wellFormed_withoutAnswer.mpr alone

section Example

/-- The address of `wap.ex` is asked for, with an EDNS OPT record. -/
def ednsQuery : Query where
  id := 0x1A2B
  flags := 0x0100
  ancount := 0
  nscount := 0
  arcount := 1
  question :=
    { name :=
        .label ⟨[0x77, 0x61, 0x70], by decide, by decide⟩
          (.label ⟨[0x65, 0x78], by decide, by decide⟩ .root)
      qtype := 1
      qclass := 1 }
  complete := rfl
  legal := by decide
  additional :=
    [0x00, 0x00, 0x29, 0x10, 0x00, 0x00, 0x00, 0x00, 0x00, 0x00, 0x00]
  fits := by decide

theorem ednsQuery_malformed :
    dnsMakeCaptiveReply ednsQuery.bytes dnsMaxPacket =
        [0x1A, 0x2B, 0x81, 0x80, 0, 1, 0, 1, 0, 0, 0, 0] ++
          ednsQuery.asked ++ ednsQuery.additional ++ gatewayRecord ∧
      ¬ CaptiveAnswer ednsQuery
        (dnsMakeCaptiveReply ednsQuery.bytes dnsMaxPacket) ∧
      ¬ Synthesizes ednsQuery := by
  have malformed : ¬ CaptiveAnswer ednsQuery
      (dnsMakeCaptiveReply ednsQuery.bytes dnsMaxPacket) := by
    rw [captive_bytes, if_neg (by decide), captiveAnswer_iff]
    decide
  exact ⟨by decide, malformed, fun all => malformed (all.address rfl)⟩

end Example

end VeteraBridge.Dns

import VeteraBridge.Link.Handshake

/-!
# Dial-up scripts in packets

`pre_ppp_handshake` looks at each packet by itself: a command is answered
wherever it stands in its packet, and one that is cut in two is not answered.
Which replies are prepared depends on the commands of the packets only, not on
the bytes around them nor on what happens between two packets.
-/

namespace VeteraBridge.Link

open EventRun
open Proxy (ascii)

/-- The commands of a dial-up script. -/
inductive Command where
  | client
  | dial
  | attention
deriving DecidableEq, Repr

namespace Command

def text : Command → List UInt8
  | client => ascii "CLIENT"
  | dial => ascii "ATD"
  | attention => ascii "AT"

def reply : Command → List UInt8
  | client => ascii "CLIENTSERVER"
  | dial => ascii "\r\nCONNECT 115200\r\n"
  | attention => ascii "\r\nOK\r\n"

theorem reply_injective : Function.Injective reply := by
  intro one other
  cases one <;> cases other <;> decide

end Command

/-- The command of a packet, wherever in it. -/
def commandOf (packet : List UInt8) : Option Command :=
  if Command.client.text <:+: packet then some .client
  else if Command.dial.text <:+: packet then some .dial
  else if Command.attention.text <:+: packet then some .attention
  else none

/-- No command is in the packet only behind its first 40 bytes. -/
def InReach (packet : List UInt8) : Prop :=
  ∀ command : Command,
    command.text <:+: packet → command.text <:+: packet.take 40

/-- The packet of an event on the channel. -/
def packetOn (cid : UInt16) : Event → Option (List UInt8)
  | .data channel packet => if channel = cid then some packet else none
  | _ => none

def packetsOn (cid : UInt16) (events : List Event) : List (List UInt8) :=
  events.filterMap (packetOn cid)

/-- The reply that a step prepares: the one that waits after it where none has
waited. -/
def prepares (w : World) (event : Event) : Option (List UInt8) :=
  ({ w.link with prePppReply := none }.step event).prePppReply

/-- The replies that are prepared in a run. -/
def preparedReplies (w : World) (events : List Event) : List (List UInt8) :=
  outputs prepares World.step w events

/-- What happens on a channel before its first flag. -/
def BeforeFlag (cid : UInt16) (w : World) (event : Event) : Prop :=
  OnChannel cid w event ∧ ∀ packet, event = .data cid packet → 0x7E ∉ packet

/-! ## The text that is searched -/

theorem strstr_iff {hay needle : List UInt8} :
    strstr hay needle = true ↔ needle <:+: hay := by
  rw [strstr, List.any_eq_true, List.infix_iff_prefix_suffix]
  constructor
  · rintro ⟨tail, member, begins⟩
    exact ⟨tail, List.isPrefixOf_iff_prefix.mp begins,
      (List.mem_tails _ _).mp member⟩
  · rintro ⟨tail, begins, ends⟩
    exact ⟨tail, (List.mem_tails _ _).mpr ends,
      List.isPrefixOf_iff_prefix.mpr begins⟩

/-- A part that a map leaves alone is found in what is mapped. -/
theorem infix_map_of_fixed {f : UInt8 → UInt8} {part items : List UInt8}
    (fixed : ∀ c ∈ part, ∀ d, f d = c ↔ d = c) :
    part <:+: items.map f ↔ part <:+: items := by
  rw [List.infix_map_iff]
  constructor
  · rintro ⟨found, inside, rfl⟩
    have same : found.map f = found := by
      conv_rhs => rw [← List.map_id found]
      apply List.map_congr_left
      intro d member
      exact ((fixed (f d) (List.mem_map_of_mem member) d).mp rfl).symm
    rw [same]
    exact inside
  · intro inside
    refine ⟨part, inside, ?_⟩
    conv_lhs => rw [← List.map_id part]
    apply List.map_congr_left
    intro c member
    exact ((fixed c member c).mpr rfl).symm

theorem Command.text_prints (command : Command) :
    ∀ c ∈ command.text, c ≥ 0x20 ∧ c < 0x7F ∧ c ≠ 46 := by
  cases command <;> exact Proxy.forall_mem_of_all (by decide)

/-- A command is found in the text of a packet when it is in its first 40
bytes. -/
theorem strstr_handshakeText (command : Command) (packet : List UInt8) :
    strstr (handshakeText packet) command.text = true ↔
      command.text <:+: packet.take 40 := by
  rw [strstr_iff, handshakeText]
  apply infix_map_of_fixed
  intro c member d
  obtain ⟨low, high, notDot⟩ := command.text_prints c member
  split_ifs with prints
  · exact Iff.rfl
  · constructor
    · intro dot
      exact absurd dot.symm notDot
    · rintro rfl
      exact absurd ⟨low, high⟩ prints

theorem inReach_of_length_le {packet : List UInt8}
    (short : packet.length ≤ 40) : InReach packet := by
  intro command inside
  rw [List.take_of_length_le short]
  exact inside

theorem handshakeReply_of_inReach {packet : List UInt8}
    (inReach : InReach packet) :
    handshakeReply (handshakeText packet) =
      (commandOf packet).map Command.reply := by
  have found (command : Command) :
      strstr (handshakeText packet) command.text = true ↔
        command.text <:+: packet := by
    rw [strstr_handshakeText]
    exact ⟨fun inside => inside.trans (List.take_prefix _ _).isInfix,
      inReach command⟩
  have tried :
      handshakeReply (handshakeText packet) =
        if strstr (handshakeText packet) Command.client.text then
          some Command.client.reply
        else if strstr (handshakeText packet) Command.dial.text then
          some Command.dial.reply
        else if strstr (handshakeText packet) Command.attention.text then
          some Command.attention.reply
        else none := rfl
  rw [tried, commandOf]
  simp only [found]
  split_ifs
  · rfl
  · rfl
  · rfl
  · rfl

/-! ## Steps -/

section Steps

variable {cid : UInt16} {w : World} {event : Event}

theorem packetOn_data (packet : List UInt8) :
    packetOn cid (.data cid packet) = some packet := if_pos rfl

theorem packetOn_eq_none (other : ∀ packet, event ≠ .data cid packet) :
    packetOn cid event = none := by
  cases event with
  | data channel packet =>
      rw [packetOn, if_neg]
      rintro rfl
      exact other packet rfl
  | _ => rfl

/-- A packet prepares its own reply. -/
theorem Dials.prepares_data (dials : Dials cid w) {packet : List UInt8}
    (noFlag : 0x7E ∉ packet) :
    prepares w (.data cid packet) = handshakeReply (handshakeText packet) := by
  obtain ⟨channels, rfl, ppp, unseen⟩ := dials
  obtain ⟨real, active⟩ := channels.active ppp
  obtain ⟨pcb, isPcb⟩ := Option.ne_none_iff_exists'.mp ppp
  have text :=
    rfcommData_text
      (s := { w.link with prePppReply := none, calls := [] }) active isPcb
      unseen noFlag
  show (rfcommData w.link.activeCid packet
    { w.link with prePppReply := none, calls := [] }).prePppReply = _
  rw [text, Option.or_none]
  split
  · rfl
  · rfl

/-- Nothing but a packet on the channel prepares a reply. -/
theorem Dials.prepares_other (dials : Dials cid w)
    (stays : OnChannel cid w event)
    (other : ∀ packet, event ≠ .data cid packet) : prepares w event = none := by
  obtain ⟨channels, rfl, ppp, unseen⟩ := dials
  have cleared :
      ChannelInvariant
        { w with link := { w.link with prePppReply := none } } := channels
  have sends :
      Sends { w with link := { w.link with prePppReply := none } } event := by
    cases event <;> exact stays.1
  have stepped := cleared.handshake ppp sends
  cases stepped with
  | keeps seen reply => exact reply
  | flag flag seen reply => exact reply
  | text unseen seen => exact absurd rfl (other _)
  | replies seen reply => exact reply

/-- A step prepares the reply to the command of its packet. -/
theorem Dials.prepares_eq (dials : Dials cid w)
    (before : BeforeFlag cid w event)
    (inReach : ∀ packet, packetOn cid event = some packet → InReach packet) :
    prepares w event =
      ((packetOn cid event).bind commandOf).map Command.reply := by
  by_cases data : ∃ packet, event = .data cid packet
  · obtain ⟨packet, rfl⟩ := data
    rw [dials.prepares_data (before.2 packet rfl), packetOn_data,
      Option.bind_some]
    exact handshakeReply_of_inReach (inReach packet (packetOn_data packet))
  · have other : ∀ packet, event ≠ .data cid packet := by
      intro packet same
      exact data ⟨packet, same⟩
    rw [dials.prepares_other before.1 other, packetOn_eq_none other]
    rfl

/-- The replies of a run are those to the commands of its packets. -/
theorem Dials.preparedReplies_eq (dials : Dials cid w) {events : List Event}
    (along : Along World.step (BeforeFlag cid) w events)
    (inReach : ∀ packet ∈ packetsOn cid events, InReach packet) :
    preparedReplies w events =
      ((packetsOn cid events).filterMap commandOf).map Command.reply := by
  have each :
      ∀ event ∈ events, ∀ packet,
        packetOn cid event = some packet → InReach packet := by
    intro event member packet isPacket
    exact inReach packet (List.mem_filterMap.mpr ⟨event, member, isPacket⟩)
  rw [packetsOn, List.filterMap_filterMap, List.map_filterMap]
  apply outputs_eq_filterMap (Dials cid) _ _ _ dials (along.with_each each)
  · exact fun w event holds allowed => holds.step allowed.2.1 allowed.2.2
  · exact fun w event holds allowed => holds.prepares_eq allowed.2 allowed.1

end Steps

/-! ## Splits of one stream -/

/-- Packets without a flag may come before the first flag. -/
theorem along_packets (cid : UInt16) (w : World) {packets : List (List UInt8)}
    (noFlag : ∀ packet ∈ packets, 0x7E ∉ packet) :
    Along World.step (BeforeFlag cid) w (packets.map (.data cid)) := by
  induction packets generalizing w with
  | nil =>
      exact along_nil w
  | cons packet rest inductionHypothesis =>
      rw [List.map_cons, along_cons]
      refine ⟨⟨⟨trivial, Event.noConfusion⟩, ?_⟩, ?_⟩
      · intro other same
        rw [← (Event.data.inj same).2]
        exact noFlag packet List.mem_cons_self
      · apply inductionHypothesis
        exact fun later member => noFlag later (List.mem_cons_of_mem _ member)

/-- Before the first flag the bridge prepares, packet by packet, the reply to
the packet's command, whatever else is in the packet and happens in between; so
the packets of two runs are prepared the same replies exactly when they have the
same commands in the same order. -/
theorem preparedReplies_by_packet (linkMode : BtsecMode) {before : List Event}
    (sends : Along World.step Sends (World.boot linkMode) before) {w : World}
    (reached : run World.step (World.boot linkMode) before = w)
    (ppp : w.link.ppp ≠ none) (unseen : w.link.pppFrameSeen = false)
    {cid : UInt16} (isCid : w.link.activeCid = cid) {one other : List Event}
    (oneAlong : Along World.step (BeforeFlag cid) w one)
    (otherAlong : Along World.step (BeforeFlag cid) w other)
    (oneReach : ∀ packet ∈ packetsOn cid one, InReach packet)
    (otherReach : ∀ packet ∈ packetsOn cid other, InReach packet) :
    preparedReplies w one =
        ((packetsOn cid one).filterMap commandOf).map Command.reply ∧
      (preparedReplies w one = preparedReplies w other ↔
        (packetsOn cid one).filterMap commandOf =
          (packetsOn cid other).filterMap commandOf) := by
  have channels : ChannelInvariant w := by
    rw [← reached]
    exact (reached_of_run linkMode sends).channels
  have dials : Dials cid w := ⟨channels, isCid, ppp, unseen⟩
  have ofOne := dials.preparedReplies_eq oneAlong oneReach
  refine ⟨ofOne, ?_⟩
  rw [ofOne, dials.preparedReplies_eq otherAlong otherReach]
  exact (List.map_injective_iff.mpr Command.reply_injective).eq_iff

/-- Two commands, cut from what is beside them. -/
theorem preparedReplies_by_packet_dialledIn :
    let w := run World.step (World.boot .btsecOff) dialledIn
    preparedReplies w
        ([ascii "..CLIENT", ascii "ATD*99"].map (.data 1)) =
      preparedReplies w
        ([ascii "..", ascii "CLIENT", ascii "ATD*", ascii "99"].map
          (.data 1)) := by
  refine (preparedReplies_by_packet .btsecOff dialledIn_sends rfl
    (Option.some_ne_none 0) rfl rfl (along_packets 1 _ (by decide))
    (along_packets 1 _ (by decide)) ?_ ?_).2.mpr (by decide)
  · intro packet member
    apply inReach_of_length_le
    revert packet
    decide
  · intro packet member
    apply inReach_of_length_le
    revert packet
    decide

/-- `AT` in one packet is answered; the same bytes one by one are not. -/
theorem split_command_missed :
    let w := run World.step (World.boot .btsecOff) dialledIn
    let whole : List Event := [.data 1 (ascii "AT")]
    let split : List Event := [.data 1 (ascii "A"), .data 1 (ascii "T")]
    (packetsOn 1 whole).flatten = (packetsOn 1 split).flatten ∧
      preparedReplies w whole = [ascii "\r\nOK\r\n"] ∧
      preparedReplies w split = [] := by
  decide

end VeteraBridge.Link

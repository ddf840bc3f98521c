import VeteraBridge.Lib.ByteWords

/-!
# Packets in a byte queue

A packet is put in a queue of bytes behind a tag of two bytes with its length,
low byte first.  A reader that takes the tag and then that many bytes has the
packet, and the queue is left with the frames of the packets behind it.
-/

namespace Framing

open ByteWords

/-- A length as it stands in front of its packet. -/
def tag (length : Nat) : List UInt8 := put16 [0, 0] 0 (.ofNat length)

def frame (packet : List UInt8) : List UInt8 := tag packet.length ++ packet

def frames (packets : List (List UInt8)) : List UInt8 := packets.flatMap frame

@[simp]
theorem tag_length (length : Nat) : (tag length).length = 2 := by
  rw [tag, put16_length, List.length_cons, List.length_singleton]

@[simp]
theorem frames_nil : frames [] = [] := rfl

@[simp]
theorem frames_cons (packet : List UInt8) (rest : List (List UInt8)) :
    frames (packet :: rest) = tag packet.length ++ (packet ++ frames rest) := by
  rw [frames, List.flatMap_cons, frame, List.append_assoc]
  rfl

theorem frames_append (front back : List (List UInt8)) :
    frames (front ++ back) = frames front ++ frames back :=
  List.flatMap_append

/-- A packet is put behind what is in the queue. -/
theorem frames_snoc (packets : List (List UInt8)) (packet : List UInt8) :
    frames (packets ++ [packet]) =
      frames packets ++ tag packet.length ++ packet := by
  rw [frames_append, frames_cons, frames_nil, List.append_nil,
    List.append_assoc]

theorem get16_tag {length : Nat} (fits : length < 65536) :
    (get16 (tag length) 0).toNat = length := by
  rw [tag, get16_put16_self (UInt16.ofNat length) (by decide),
    UInt16.toNat_ofNat', Nat.mod_eq_of_lt fits]

/-- What a reader finds at the front of the queue. -/
theorem take_frames_cons (packet : List UInt8) (rest : List (List UInt8)) :
    (frames (packet :: rest)).take 2 = tag packet.length := by
  rw [frames_cons, List.take_left' (tag_length packet.length)]

/-- What is behind the tag. -/
theorem drop_frames_cons (packet : List UInt8) (rest : List (List UInt8)) :
    (frames (packet :: rest)).drop 2 = packet ++ frames rest := by
  rw [frames_cons, List.drop_left' (tag_length packet.length)]

/-- An empty queue holds no packet. -/
theorem frames_eq_nil_iff {packets : List (List UInt8)} :
    frames packets = [] ↔ packets = [] := by
  cases packets with
  | nil => exact iff_of_true rfl rfl
  | cons packet rest =>
      refine iff_of_false ?_ (List.cons_ne_nil packet rest)
      intro empty
      have length := congrArg List.length empty
      rw [frames_cons, List.length_append, tag_length, List.length_nil] at length
      omega

end Framing

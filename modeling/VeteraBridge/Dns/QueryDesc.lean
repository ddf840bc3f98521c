import VeteraBridge.Dns.Reply
import VeteraBridge.Lib.CheckedMemory

/-!
# The name in the verbose log

`dns_query_desc` writes the name of the first question into a buffer of the
caller's stack, label by label.  Each byte of the buffer carries whether the
call has written it, and every access is checked.
-/

namespace VeteraBridge.Dns

open CheckedMemory (store splice)
open DnsMessage

/-! ## The function -/

/-- A byte of the buffer, and whether the call has written it. -/
structure Cell where
  byte : UInt8
  written : Bool
deriving DecidableEq, Repr

/-- A byte that was in the buffer. -/
def Cell.old (byte : UInt8) : Cell := ⟨byte, false⟩

/-- A byte that the call has written. -/
def Cell.new (byte : UInt8) : Cell := ⟨byte, true⟩

/-- `name[w] = c`. -/
def putChar (name : List Cell) (w : Nat) (c : UInt8) : Option (List Cell) :=
  store name w [Cell.new c]

/-- What stands for a byte of a label: `?` where it is no visible character. -/
def descChar (c : UInt8) : UInt8 := if 32 < c ∧ c < 127 then c else 63

/-- The dot before a label, and the offset behind it. -/
def putDot (nmax : Nat) (name : List Cell) (w : Nat) :
    Option (List Cell × Nat) :=
  if w ≠ 0 ∧ w + 1 < nmax then
    (putChar name w 46).map (·, w + 1)
  else
    some (name, w)

/-- The inner loop over the bytes of a label that are left. -/
def putLabel (q : List UInt8) (nmax : Nat) :
    Nat → Nat → List Cell → Nat → Option (List Cell × Nat)
  | 0, _, name, w => some (name, w)
  | left + 1, pos, name, w =>
    if w + 1 < nmax then do
      let c ← q[pos]?
      let name ← putChar name w (descChar c)
      putLabel q nmax left (pos + 1) name (w + 1)
    else
      some (name, w)

/-- What comes after the loop: the NUL, and the type if it is there. -/
def endName (q : List UInt8) (off : Nat) (name : List Cell) (w : Nat) :
    Option (List Cell × UInt16) := do
  let name ← putChar name w 0
  if off + 2 ≤ q.length then
    let high ← q[off]?
    let low ← q[off + 1]?
    some (name, Codec.wordBytes (high, low))
  else
    some (name, 0)

/-- The loop over the labels from `off`, and what comes after it. -/
def walkLabels (q : List UInt8) (nmax off : Nat) (name : List Cell) (w : Nat) :
    Option (List Cell × UInt16) :=
  if _more : off < q.length then do
    let len ← q[off]?
    if len = 0 then
      endName q (off + 1) name w
    else if len &&& 0xC0 ≠ 0 ∨ q.length < off + 1 + len.toNat then
      -- the source returns here, and leaves `name` as it is
      some (name, 0)
    else
      let (name, w) ← putDot nmax name w
      let (name, w) ← putLabel q nmax len.toNat (off + 1) name w
      walkLabels q nmax (off + 1 + len.toNat) name w
  else
    endName q off name w
termination_by q.length - off

/-- `dns_query_desc`: the buffer and the type it leaves, unless it reads outside
of the packet or writes outside of the buffer. -/
def dnsQueryDesc (q : List UInt8) (name : List Cell) (nmax : Nat) :
    Option (List Cell × UInt16) := do
  let name ← putChar name 0 0
  walkLabels q nmax 12 name 0

/-! ## What is in the buffer on the way -/

/-- The text with one more label. -/
def addLabel (text : List UInt8) (label : Label) : List UInt8 :=
  text ++ (if text = [] then [] else [46]) ++ label.bytes.map descChar

/-- The labels with dots between them. -/
def dotted (labels : List Label) : List UInt8 := labels.foldl addLabel []

/-- As much of a text as a buffer of `n` bytes takes. -/
def kept (n : Nat) (text : List UInt8) : List UInt8 := text.take (n - 1)

/-- The buffer with a text and no NUL behind it; the NUL that is written first
stays as long as there is no text. -/
def shown (previous text : List UInt8) : List Cell :=
  splice (previous.map Cell.old) 0
    ((kept previous.length text).map Cell.new ++
      if kept previous.length text = [] then [Cell.new 0] else [])

/-- The buffer with a text and the NUL behind it. -/
def closed (previous text : List UInt8) : List Cell :=
  splice (previous.map Cell.old) 0
    ((kept previous.length text ++ [0]).map Cell.new)

section Buffer

variable {previous : List UInt8}

theorem kept_of_lt {n : Nat} {text : List UInt8} (room : text.length < n) :
    kept n text = text :=
  List.take_of_length_le (by omega)

theorem kept_append_of_le {n : Nat} {text : List UInt8}
    (full : n ≤ text.length + 1) (more : List UInt8) :
    kept n (text ++ more) = kept n text :=
  List.take_append_of_le_length (by omega)

theorem kept_length_lt_iff {n : Nat} {text : List UInt8} :
    (kept n text).length + 1 < n ↔ text.length + 1 < n := by
  rw [kept, List.length_take]
  omega

theorem kept_length_lt (positive : 1 ≤ previous.length) (text : List UInt8) :
    (kept previous.length text).length + 1 ≤ previous.length := by
  rw [kept, List.length_take]
  omega

theorem shown_append_of_le {text : List UInt8}
    (full : previous.length ≤ text.length + 1) (more : List UInt8) :
    shown previous (text ++ more) = shown previous text := by
  rw [shown, kept_append_of_le full, shown]

theorem shown_length (positive : 1 ≤ previous.length) (text : List UInt8) :
    (shown previous text).length = previous.length := by
  have short := kept_length_lt positive text
  rw [shown, CheckedMemory.splice_length, List.length_map]
  rw [List.length_append, List.length_map, List.length_map]
  split
  · rw [List.length_singleton]
    omega
  · rw [List.length_nil]
    omega

/-- A character at the offset covers the NUL that was written first. -/
theorem putChar_kept (text : List UInt8) (c : UInt8)
    (room : (kept previous.length text).length + 1 ≤ previous.length) :
    putChar (shown previous text) (kept previous.length text).length c =
      some (splice (previous.map Cell.old) 0
        ((kept previous.length text).map Cell.new ++ [Cell.new c])) := by
  have covered :
      (if kept previous.length text = [] then [Cell.new 0] else []).length ≤
        [Cell.new c].length := by
    split
    · exact Nat.le_refl 1
    · exact Nat.zero_le 1
  have inside :
      (kept previous.length text).length + [Cell.new c].length ≤
        (shown previous text).length := by
    rwa [shown_length (by omega)]
  have stored := CheckedMemory.splice_splice
    (Nat.zero_le (previous.map Cell.old).length)
    ((kept previous.length text).map Cell.new) covered
  rw [List.length_map, Nat.zero_add] at stored
  rw [putChar, CheckedMemory.store_of_le inside, shown, stored]

theorem putChar_shown {text : List UInt8}
    (room : text.length + 1 < previous.length) (c : UInt8) :
    putChar (shown previous text) text.length c =
      some (shown previous (text ++ [c])) := by
  have short : kept previous.length text = text := kept_of_lt (by omega)
  have longer : kept previous.length (text ++ [c]) = text ++ [c] := by
    apply kept_of_lt
    rwa [List.length_append]
  have nonempty : text ++ [c] ≠ [] :=
    List.append_ne_nil_of_right_ne_nil text (List.cons_ne_nil c [])
  have stored := putChar_kept text c (by rw [short]; exact Nat.le_of_lt room)
  rw [short] at stored
  rw [stored, shown, longer, if_neg nonempty, List.append_nil, List.map_append,
    List.map_singleton]

/-- The NUL is put behind the text. -/
theorem putChar_nul (positive : 1 ≤ previous.length) (text : List UInt8) :
    putChar (shown previous text) (kept previous.length text).length 0 =
      some (closed previous text) := by
  rw [putChar_kept text 0 (kept_length_lt positive text), closed,
    List.map_append, List.map_singleton]

theorem putChar_first (positive : 1 ≤ previous.length) :
    putChar (previous.map Cell.old) 0 0 = some (shown previous []) := by
  rw [putChar, CheckedMemory.store_of_le, shown, kept, List.take_nil,
    if_pos rfl, List.map_nil, List.nil_append]
  rw [List.length_map]
  exact positive

end Buffer

/-! ## The loops -/

theorem size_and_eq_zero_iff (size : UInt8) :
    size &&& 0xC0 = 0 ↔ size.toNat < 64 := by
  have table : ∀ n : Fin 256, n.val &&& 192 = 0 ↔ n.val < 64 := by
    decide +kernel
  rw [← UInt8.toNat_inj, UInt8.toNat_and]
  exact table ⟨size.toNat, size.toNat_lt⟩

section Walk

variable {q previous : List UInt8}

/-- What is read at an offset is what stands first behind it. -/
theorem read_at {off : Nat} {c : UInt8} {rest : List UInt8}
    (here : q.drop off = c :: rest) : q[off]? = some c := by
  rw [← Nat.add_zero off, ← List.getElem?_drop, here]
  rfl

theorem putLabel_shown (bytes : List UInt8) {rest : List UInt8} {pos : Nat}
    (text : List UInt8) (here : q.drop pos = bytes ++ rest) :
    putLabel q previous.length bytes.length pos (shown previous text)
        (kept previous.length text).length =
      some (shown previous (text ++ bytes.map descChar),
        (kept previous.length (text ++ bytes.map descChar)).length) := by
  induction bytes generalizing pos text with
  | nil =>
      rw [List.map_nil, List.append_nil]
      rfl
  | cons c bytes inductionHypothesis =>
      rw [List.length_cons, putLabel]
      by_cases room : text.length + 1 < previous.length
      · have short : kept previous.length text = text := kept_of_lt (by omega)
        have longer : kept previous.length (text ++ [descChar c]) =
            text ++ [descChar c] := by
          apply kept_of_lt
          rwa [List.length_append]
        have behind : q.drop (pos + 1) = bytes ++ rest := by
          rw [← List.drop_drop, here]
          rfl
        have goesOn := inductionHypothesis (text ++ [descChar c]) behind
        rw [longer, List.length_append, List.length_singleton,
          List.append_assoc, List.singleton_append] at goesOn
        rw [short, if_pos room, read_at here, Option.bind_eq_bind,
          Option.bind_some, putChar_shown room, Option.bind_eq_bind,
          Option.bind_some, goesOn, List.map_cons]
      · have full : previous.length ≤ text.length + 1 := Nat.le_of_not_lt room
        rw [if_neg (mt kept_length_lt_iff.mp room), shown_append_of_le full,
          kept_append_of_le full]

theorem putDot_shown (text : List UInt8) :
    putDot previous.length (shown previous text)
        (kept previous.length text).length =
      some (shown previous (text ++ if text = [] then [] else [46]),
        (kept previous.length
          (text ++ if text = [] then [] else [46])).length) := by
  rw [putDot]
  by_cases room : text.length + 1 < previous.length
  · have short : kept previous.length text = text := kept_of_lt (by omega)
    rw [short]
    by_cases empty : text = []
    · rw [if_pos empty, List.append_nil, short, empty]
      rfl
    · have longer : kept previous.length (text ++ [46]) = text ++ [46] := by
        apply kept_of_lt
        rwa [List.length_append]
      have started : text.length ≠ 0 := mt List.length_eq_zero_iff.mp empty
      rw [if_neg empty, if_pos ⟨started, room⟩, putChar_shown room, longer,
        List.length_append]
      rfl
  · have full : previous.length ≤ text.length + 1 := Nat.le_of_not_lt room
    rw [if_neg (fun both => room (kept_length_lt_iff.mp both.2)),
      shown_append_of_le full, kept_append_of_le full]

/-- One round of the outer loop. -/
theorem walkLabels_label {off : Nat} {label : Label} {rest : List UInt8}
    (text : List UInt8) (here : q.drop off = label.write ++ rest) :
    walkLabels q previous.length off (shown previous text)
        (kept previous.length text).length =
      walkLabels q previous.length (off + label.write.length)
        (shown previous (addLabel text label))
        (kept previous.length (addLabel text label)).length := by
  have length : (q.drop off).length =
      label.bytes.length + 1 + rest.length := by
    rw [here, List.length_append, Label.write_length]
  rw [List.length_drop] at length
  have more : off < q.length := by omega
  have isLabel : ¬ (UInt8.ofNat label.bytes.length &&& 0xC0 ≠ 0 ∨
      q.length < off + 1 + label.bytes.length) := by
    rintro (high | outside)
    · exact high ((size_and_eq_zero_iff _).mpr label.size_lt)
    · omega
  have behind : q.drop (off + 1) = label.bytes ++ rest := by
    rw [← List.drop_drop, here]
    rfl
  have next : off + 1 + label.bytes.length = off + label.write.length := by
    rw [Label.write_length]
    omega
  rw [walkLabels, dif_pos more, read_at here, Option.bind_eq_bind,
    Option.bind_some, if_neg label.size_ne_zero, label.size_toNat,
    if_neg isLabel, putDot_shown, Option.bind_eq_bind, Option.bind_some]
  dsimp only
  rw [putLabel_shown label.bytes _ behind, Option.bind_some, next, addLabel]

theorem walkLabels_labels {labels : List Label} {rest : List UInt8} {off : Nat}
    (text : List UInt8)
    (here : q.drop off = labels.flatMap Label.write ++ rest) :
    walkLabels q previous.length off (shown previous text)
        (kept previous.length text).length =
      walkLabels q previous.length
        (off + (labels.flatMap Label.write).length)
        (shown previous (labels.foldl addLabel text))
        (kept previous.length (labels.foldl addLabel text)).length := by
  induction labels generalizing off text with
  | nil => rfl
  | cons label labels inductionHypothesis =>
      rw [List.flatMap_cons, List.append_assoc] at here
      have behind : q.drop (off + label.write.length) =
          labels.flatMap Label.write ++ rest := by
        rw [← List.drop_drop, here, List.drop_left]
      rw [walkLabels_label text here, inductionHypothesis _ behind,
        List.flatMap_cons, List.length_append, Nat.add_assoc, List.foldl_cons]

/-! ## The ends of the walk -/

theorem endName_shown (positive : 1 ≤ previous.length) (off : Nat)
    (text : List UInt8) :
    endName q off (shown previous text) (kept previous.length text).length =
      some (closed previous text,
        if off + 2 ≤ q.length then qtypeAt q off else 0) := by
  rw [endName, putChar_nul positive, Option.bind_eq_bind, Option.bind_some]
  by_cases typed : off + 2 ≤ q.length
  · have high : q[off]? = some (q.getD off 0) := by
      rw [List.getD_eq_getElem _ _ (by omega)]
      exact List.getElem?_eq_getElem _
    have low : q[off + 1]? = some (q.getD (off + 1) 0) := by
      rw [List.getD_eq_getElem _ _ (by omega)]
      exact List.getElem?_eq_getElem _
    rw [if_pos typed, if_pos typed, high, low]
    rfl
  · rw [if_neg typed, if_neg typed]

theorem walkLabels_ended (positive : 1 ≤ previous.length) {off : Nat}
    (text : List UInt8) (ended : q.drop off = []) :
    walkLabels q previous.length off (shown previous text)
        (kept previous.length text).length =
      some (closed previous text, 0) := by
  have outside : q.length ≤ off := List.drop_eq_nil_iff.mp ended
  rw [walkLabels, dif_neg (Nat.not_lt.mpr outside), endName_shown positive,
    if_neg (by omega)]

theorem walkLabels_root (positive : 1 ≤ previous.length) {off : Nat}
    (text : List UInt8) {more : List UInt8} (root : q.drop off = 0 :: more) :
    walkLabels q previous.length off (shown previous text)
        (kept previous.length text).length =
      some (closed previous text,
        if off + 1 + 2 ≤ q.length then qtypeAt q (off + 1) else 0) := by
  have inside : off < q.length := by
    rw [← Nat.not_le, ← List.drop_eq_nil_iff, root]
    exact List.cons_ne_nil 0 more
  rw [walkLabels, dif_pos inside, read_at root, Option.bind_eq_bind,
    Option.bind_some, if_pos rfl, endName_shown positive]

/-- The walk that comes to bytes which are no label returns at once. -/
theorem walkLabels_broken {off : Nat} (text : List UInt8)
    (broken : Broken (q.drop off)) :
    walkLabels q previous.length off (shown previous text)
        (kept previous.length text).length =
      some (shown previous text, 0) := by
  obtain ⟨size, rest, here, notRoot, noLabel⟩ := broken
  have length : (q.drop off).length = rest.length + 1 := by
    rw [here, List.length_cons]
  rw [List.length_drop] at length
  have inside : off < q.length := by omega
  have returns : size &&& 0xC0 ≠ 0 ∨ q.length < off + 1 + size.toNat := by
    rcases Label.read_eq_none_iff.mp noLabel with root | high | outside
    · exact absurd (UInt8.toNat_inj.mp root) notRoot
    · exact Or.inl (fun low =>
        Nat.not_lt.mpr high ((size_and_eq_zero_iff size).mp low))
    · exact Or.inr (by omega)
  rw [walkLabels, dif_pos inside, read_at here, Option.bind_eq_bind,
    Option.bind_some, if_neg notRoot, if_pos returns]

/-- The walk over the labels of a packet, up to what stands behind them. -/
theorem dnsQueryDesc_labels (positive : 1 ≤ previous.length)
    {labels : List Label} {rest : List UInt8}
    (here : q.drop 12 = labels.flatMap Label.write ++ rest) :
    dnsQueryDesc q (previous.map Cell.old) previous.length =
      walkLabels q previous.length (12 + (labels.flatMap Label.write).length)
        (shown previous (dotted labels))
        (kept previous.length (dotted labels)).length := by
  have nothing : (kept previous.length []).length = 0 := by
    rw [kept, List.take_nil, List.length_nil]
  rw [dnsQueryDesc, putChar_first positive, Option.bind_eq_bind,
    Option.bind_some, dotted, ← walkLabels_labels [] here, nothing]

theorem drop_behind_labels {labels : List Label} {rest : List UInt8}
    (here : q.drop 12 = labels.flatMap Label.write ++ rest) :
    q.drop (12 + (labels.flatMap Label.write).length) = rest := by
  rw [← List.drop_drop, here, List.drop_left]

theorem dnsQueryDesc_ended (positive : 1 ≤ previous.length)
    {labels : List Label} (here : q.drop 12 = labels.flatMap Label.write) :
    dnsQueryDesc q (previous.map Cell.old) previous.length =
      some (closed previous (dotted labels), 0) := by
  rw [← List.append_nil (labels.flatMap Label.write)] at here
  rw [dnsQueryDesc_labels positive here]
  exact walkLabels_ended positive _ (drop_behind_labels here)

theorem dnsQueryDesc_root (positive : 1 ≤ previous.length)
    {labels : List Label} {more : List UInt8}
    (here : q.drop 12 = labels.flatMap Label.write ++ 0 :: more) :
    dnsQueryDesc q (previous.map Cell.old) previous.length =
      some (closed previous (dotted labels),
        if 12 + (labels.flatMap Label.write).length + 1 + 2 ≤ q.length then
          qtypeAt q (12 + (labels.flatMap Label.write).length + 1)
        else 0) := by
  rw [dnsQueryDesc_labels positive here]
  exact walkLabels_root positive _ (drop_behind_labels here)

theorem dnsQueryDesc_broken (positive : 1 ≤ previous.length)
    {labels : List Label} {rest : List UInt8}
    (here : q.drop 12 = labels.flatMap Label.write ++ rest)
    (broken : Broken rest) :
    dnsQueryDesc q (previous.map Cell.old) previous.length =
      some (shown previous (dotted labels), 0) := by
  rw [dnsQueryDesc_labels positive here]
  apply walkLabels_broken
  rwa [drop_behind_labels here]

end Walk

/-! ## Whether a string is left -/

/-- There is a NUL, and the call has written it and every byte before it. -/
def IsString (name : List Cell) : Prop :=
  ∃ i : Nat, name[i]? = some (Cell.new 0) ∧
    ∀ j < i, ∃ c, name[j]? = some (Cell.new c)

/-- The call ends, reads within the packet and writes within the buffer, and
leaves a string in it. -/
def LeavesString (q previous : List UInt8) : Prop :=
  ∃ name qtype,
    dnsQueryDesc q (previous.map Cell.old) previous.length =
      some (name, qtype) ∧
    name.length = previous.length ∧ IsString name

/-- The first name of the packet begins with a label, and behind its labels
there is neither the root nor the end of the packet. -/
def BrokenBehindLabel (q : List UInt8) : Prop :=
  ∃ (labels : List Label) (rest : List UInt8), labels ≠ [] ∧
    q.drop 12 = labels.flatMap Label.write ++ rest ∧ Broken rest

theorem descChar_ne_zero (c : UInt8) : descChar c ≠ 0 := by
  unfold descChar
  split
  · next visible =>
    intro isNul
    rw [isNul] at visible
    exact absurd visible.1 (by decide)
  · decide

theorem not_mem_addLabel {text : List UInt8} (noNul : 0 ∉ text)
    (label : Label) : 0 ∉ addLabel text label := by
  rw [addLabel, List.mem_append, List.mem_append]
  rintro ((old | dot) | shown)
  · exact noNul old
  · split at dot
    · cases dot
    · exact absurd dot (by decide)
  · obtain ⟨c, -, isNul⟩ := List.mem_map.mp shown
    exact descChar_ne_zero c isNul

theorem addLabel_ne_nil (text : List UInt8) (label : Label) :
    addLabel text label ≠ [] := by
  apply List.append_ne_nil_of_right_ne_nil
  rw [← List.length_pos_iff, List.length_map]
  exact label.nonempty

theorem not_mem_foldl_addLabel (labels : List Label) {text : List UInt8}
    (noNul : 0 ∉ text) : 0 ∉ labels.foldl addLabel text := by
  induction labels generalizing text with
  | nil => exact noNul
  | cons label labels inductionHypothesis =>
      exact inductionHypothesis (not_mem_addLabel noNul label)

theorem foldl_addLabel_ne_nil (labels : List Label) {text : List UInt8}
    (nonempty : text ≠ []) : labels.foldl addLabel text ≠ [] := by
  induction labels generalizing text with
  | nil => exact nonempty
  | cons label labels inductionHypothesis =>
      exact inductionHypothesis (addLabel_ne_nil text label)

theorem not_mem_dotted (labels : List Label) : 0 ∉ dotted labels :=
  not_mem_foldl_addLabel labels List.not_mem_nil

theorem dotted_eq_nil_iff {labels : List Label} :
    dotted labels = [] ↔ labels = [] := by
  cases labels with
  | nil => exact iff_of_true rfl rfl
  | cons label labels =>
      exact iff_of_false
        (foldl_addLabel_ne_nil labels (addLabel_ne_nil [] label))
        (List.cons_ne_nil label labels)

theorem kept_eq_nil_iff {n : Nat} {text : List UInt8} :
    kept n text = [] ↔ n ≤ 1 ∨ text = [] := by
  rw [kept, List.take_eq_nil_iff, Nat.sub_eq_zero_iff_le]

section Strings

variable {q previous : List UInt8}

theorem closed_length (positive : 1 ≤ previous.length) (text : List UInt8) :
    (closed previous text).length = previous.length := by
  rw [closed, CheckedMemory.splice_length, List.length_map]
  rw [List.length_map, List.length_map, List.length_append, Nat.zero_add]
  exact kept_length_lt positive text

theorem closed_isString (previous text : List UInt8) :
    IsString (closed previous text) := by
  have written : ∀ i < (kept previous.length text ++ [0]).length,
      (closed previous text)[i]? =
        ((kept previous.length text ++ [0])[i]?).map Cell.new := by
    intro i within
    have among : i <
        ((kept previous.length text ++ [0]).map Cell.new).length := by
      rwa [List.length_map]
    have inside := CheckedMemory.splice_inside
      (Nat.zero_le (previous.map Cell.old).length) among
    rwa [Nat.zero_add, List.getElem?_map] at inside
  have length : (kept previous.length text ++ [0]).length =
      (kept previous.length text).length + 1 := List.length_append
  refine ⟨(kept previous.length text).length, ?_, ?_⟩
  · rw [written _ (by omega), List.getElem?_concat_length]
    rfl
  · intro j before
    have within : j < (kept previous.length text ++ [0]).length := by omega
    rw [written j within, List.getElem?_eq_getElem within]
    exact ⟨_, rfl⟩

/-- A text without the NUL behind it is a string only where there is no text,
and the NUL that was written first is still there. -/
theorem shown_isString_iff {text : List UInt8} (noNul : 0 ∉ text) :
    IsString (shown previous text) ↔ kept previous.length text = [] := by
  by_cases empty : kept previous.length text = []
  · rw [shown, empty, if_pos rfl]
    refine iff_of_true ⟨0, rfl, ?_⟩ rfl
    intro j before
    exact absurd before (Nat.not_lt_zero j)
  · refine iff_of_false ?_ empty
    rintro ⟨i, nul, -⟩
    rw [shown, if_neg empty, List.append_nil] at nul
    have start := Nat.zero_le (previous.map Cell.old).length
    by_cases within : i < ((kept previous.length text).map Cell.new).length
    · have inside := CheckedMemory.splice_inside start within
      rw [Nat.zero_add] at inside
      obtain ⟨c, member, isNul⟩ :=
        List.mem_map.mp (List.mem_of_getElem? (inside.symm.trans nul))
      have same : c = 0 := congrArg Cell.byte isNul
      rw [same] at member
      exact noNul (List.mem_of_mem_take member)
    · have behind := CheckedMemory.splice_behind start
        ((kept previous.length text).map Cell.new) (i := i) (by omega)
      obtain ⟨c, -, isNul⟩ :=
        List.mem_map.mp (List.mem_of_getElem? (behind.symm.trans nul))
      exact Bool.false_ne_true (congrArg Cell.written isNul)

/-- Whatever the packet is, the call ends and every access is in bounds. -/
theorem dnsQueryDesc_returns (q : List UInt8)
    (positive : 1 ≤ previous.length) :
    ∃ name qtype,
      dnsQueryDesc q (previous.map Cell.old) previous.length =
        some (name, qtype) ∧
      name.length = previous.length := by
  obtain ⟨labels, rest, here, rfl | ⟨more, rfl⟩ | broken⟩ :=
    exists_labels (q.drop 12)
  · rw [List.append_nil] at here
    exact ⟨_, _, dnsQueryDesc_ended positive here, closed_length positive _⟩
  · exact ⟨_, _, dnsQueryDesc_root positive here, closed_length positive _⟩
  · exact ⟨_, _, dnsQueryDesc_broken positive here broken,
      shown_length positive _⟩

/-- A string is left unless something was put in the buffer before the walk came
to bytes that are no label. -/
theorem dnsQueryDesc_leavesString_iff (q previous : List UInt8)
    (positive : 1 ≤ previous.length) :
    LeavesString q previous ↔
      ¬ (2 ≤ previous.length ∧ BrokenBehindLabel q) := by
  constructor
  · rintro ⟨name, qtype, described, -, isString⟩
      ⟨room, labels, rest, nonempty, here, broken⟩
    rw [dnsQueryDesc_broken positive here broken] at described
    obtain ⟨rfl, -⟩ := Prod.mk.inj (Option.some.inj described)
    rcases kept_eq_nil_iff.mp
      ((shown_isString_iff (not_mem_dotted labels)).mp isString) with
      tooSmall | empty
    · omega
    · exact nonempty (dotted_eq_nil_iff.mp empty)
  · intro notBroken
    obtain ⟨labels, rest, here, rfl | ⟨more, rfl⟩ | broken⟩ :=
      exists_labels (q.drop 12)
    · rw [List.append_nil] at here
      exact ⟨_, _, dnsQueryDesc_ended positive here,
        closed_length positive _, closed_isString previous _⟩
    · exact ⟨_, _, dnsQueryDesc_root positive here,
        closed_length positive _, closed_isString previous _⟩
    · refine ⟨_, _, dnsQueryDesc_broken positive here broken,
        shown_length positive _, ?_⟩
      apply (shown_isString_iff (not_mem_dotted labels)).mpr
      rw [kept_eq_nil_iff, dotted_eq_nil_iff]
      by_contra started
      obtain ⟨large, nonempty⟩ := not_or.mp started
      exact notBroken ⟨Nat.lt_of_not_le large, labels, rest, nonempty, here,
        broken⟩

end Strings

/-- A query for the root leaves a string in the buffer of the log. -/
theorem dnsQueryDesc_leavesString_root :
    LeavesString (List.replicate 12 0 ++ [0, 0, 1, 0, 1])
      (List.replicate 64 0x41) := by
  apply (dnsQueryDesc_leavesString_iff _ _ (by decide)).mpr
  rintro ⟨-, labels, rest, nonempty, here, -⟩
  cases labels with
  | nil => exact nonempty rfl
  | cons label labels =>
      exact label.size_ne_zero (List.cons.inj here).1.symm

/-- The label `a` and a pointer to it: the byte behind the `a` in the buffer is
the one that was there. -/
theorem pointer_leaves_no_string :
    ¬ LeavesString
      (List.replicate 12 0 ++ [1, 97, 0xC0, 0x0C, 0, 1, 0, 1])
      (List.replicate 64 0x41) := by
  rintro ⟨name, qtype, described, -, isString⟩
  let label : Label := ⟨[97], by decide, by decide⟩
  have here :
      (List.replicate 12 0 ++ [1, 97, 0xC0, 0x0C, 0, 1, 0, 1] :
          List UInt8).drop 12 =
        [label].flatMap Label.write ++ [0xC0, 0x0C, 0, 1, 0, 1] := rfl
  have broken : Broken [0xC0, 0x0C, 0, 1, 0, 1] :=
    ⟨0xC0, [0x0C, 0, 1, 0, 1], rfl, by decide, by decide⟩
  rw [dnsQueryDesc_broken (by decide) here broken] at described
  obtain ⟨rfl, -⟩ := Prod.mk.inj (Option.some.inj described)
  have empty := (shown_isString_iff (not_mem_dotted _)).mp isString
  exact absurd empty (by decide)

/-! ## Well-formed queries -/

/-- The log of a query has its name, clipped to the buffer, and its type. -/
theorem dnsQueryDesc_query (query : Query) {previous : List UInt8}
    (positive : 1 ≤ previous.length) :
    dnsQueryDesc query.bytes (previous.map Cell.old) previous.length =
      some (closed previous (dotted query.question.name.labels),
        query.question.qtype) := by
  obtain ⟨-, written⟩ | ⟨place, target, -⟩ := query.question.name.write_cases
  · have here : query.bytes.drop 12 =
        query.question.name.labels.flatMap Label.write ++
          0 :: query.afterName := by
      rw [query.bytes_eq, ← query.header_length, List.drop_left, written,
        List.append_assoc, List.singleton_append]
    have length : query.question.name.write.length =
        (query.question.name.labels.flatMap Label.write).length + 1 := by
      rw [written, List.length_append]
      rfl
    have bytes := query.bytes_length
    have ended : query.questionEnd = 12 + query.asked.length := rfl
    have asked := query.asked_length
    rw [dnsQueryDesc_root positive here, if_pos (by omega), Nat.add_assoc,
      ← length, qtypeAt_bytes]
  · cases query.complete.symm.trans target

end VeteraBridge.Dns

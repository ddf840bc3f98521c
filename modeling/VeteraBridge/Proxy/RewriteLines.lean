import Mathlib.Tactic.IntervalCases
import VeteraBridge.Lib.CrlfLines
import VeteraBridge.Proxy.RequestBounds

/-!
# The lines of a rewritten head

`http_rewrite` takes a head apart at each CR and steps over the byte after it,
whatever that is.  Here is the text it writes, line by line, for any head that
ends in CR LF.
-/

namespace VeteraBridge.Proxy

open ByteWords
open CrlfLines (Piece join)

/-- A line's text and the byte after its CR. -/
def linePiece (head : List UInt8) (line : Nat × Nat) : Piece UInt8 :=
  (slice head line.1 (line.2 - line.1), head.getD (line.2 + 1) 0)

/-- The header lines, as both passes step over them. -/
def headPieces (head : List UInt8) (le : Nat) : List (Piece UInt8) :=
  (headerLines head (head.length - 2) head.length (le + 2)).map (linePiece head)

/-- A header of connection management, which the second pass leaves out. -/
def isManaged (line : List UInt8) : Bool :=
  match memchr line 58 with
  | some c =>
      nameIs (line.take c) (ascii "connection") ||
        nameIs (line.take c) (ascii "proxy-connection") ||
        nameIs (line.take c) (ascii "keep-alive")
  | none => false

def closeLine : List UInt8 := ascii "Connection: close"

def proxyCloseLine : List UInt8 := ascii "Proxy-Connection: close"

/-- What goes in front of the target. -/
def authority (originForm : Bool) (host : List UInt8) : List UInt8 :=
  if originForm then ascii "http://" ++ host else []

/-! ## Searches -/

section Search

variable {s : List UInt8} {c : UInt8}

theorem memchr_eq_some_iff {k : Nat} :
    memchr s c = some k ↔ c ∉ s.take k ∧ s[k]? = some c := by
  rw [memchr, List.findIdx?_eq_some_iff_getElem]
  constructor
  · rintro ⟨inside, here, before⟩
    refine ⟨fun member => ?_, ?_⟩
    · obtain ⟨j, short, isC⟩ := List.getElem_of_mem member
      rw [List.length_take] at short
      rw [List.getElem_take] at isC
      exact before j (by omega) (by simpa using isC)
    · rw [List.getElem?_eq_getElem inside]
      simpa using here
  · rintro ⟨absent, here⟩
    obtain ⟨inside, isC⟩ := List.getElem?_eq_some_iff.mp here
    refine ⟨inside, by simpa using isC, fun j before isFound => absent ?_⟩
    have isC : s[j] = c := by simpa using isFound
    exact List.mem_take_iff_getElem.mpr ⟨j, by omega, isC⟩

theorem memchr_eq_none_iff : memchr s c = none ↔ c ∉ s := by
  rw [memchr, List.findIdx?_eq_none_iff]
  constructor
  · exact fun absent member => by simpa using absent c member
  · intro absent x member
    rw [beq_eq_false_iff_ne]
    rintro rfl
    exact absent member

theorem memchr_append {front : List UInt8} (absent : c ∉ front)
    (rest : List UInt8) : memchr (front ++ c :: rest) c = some front.length := by
  rw [memchr_eq_some_iff, List.take_left']
  · exact ⟨absent, by simp⟩
  · rfl

end Search

/-! ## What is written -/

section Written

variable {cap : Nat} {head out result : List UInt8}

/-- A line with the two bytes behind its text. -/
def copied (head : List UInt8) (line : Nat × Nat) : List UInt8 :=
  slice head line.1 (line.2 + 2 - line.1)

theorem addAuthority_eq_some_iff {target : Nat} {host : List UInt8}
    (fits : out.length ≤ cap) :
    addAuthority head cap target host out = some result ↔
      out ++ authority (head.getD target 0 == 47) host = result ∧
        result.length ≤ cap := by
  unfold addAuthority authority
  split
  · rw [Option.bind_eq_some_iff]
    constructor
    · rintro ⟨schemed, first, second⟩
      obtain ⟨rfl, _⟩ := outAdd_eq_some_iff.mp first
      obtain ⟨rfl, hostFits⟩ := outAdd_eq_some_iff.mp second
      exact ⟨(List.append_assoc _ _ _).symm, hostFits⟩
    · rintro ⟨rfl, hostFits⟩
      refine ⟨out ++ ascii "http://", outAdd_eq_some_iff.mpr ⟨rfl, ?_⟩,
        outAdd_eq_some_iff.mpr ⟨List.append_assoc _ _ _, hostFits⟩⟩
      rw [← List.append_assoc, List.length_append] at hostFits
      omega
  · rw [List.append_nil, Option.some.injEq]
    constructor
    · rintro rfl
      exact ⟨rfl, fits⟩
    · exact fun same => same.1

theorem copyLines_eq_some_iff (lines : List (Nat × Nat))
    (fits : out.length ≤ cap) :
    lines.foldlM (copyLine head cap) out = some result ↔
      out ++ (lines.filter fun line => !isDropped head line).flatMap
          (copied head) = result ∧ result.length ≤ cap := by
  induction lines generalizing out with
  | nil =>
      rw [List.foldlM_nil]
      constructor
      · rintro ⟨⟩
        exact ⟨List.append_nil _, fits⟩
      · rintro ⟨rfl, _⟩
        exact congrArg some (List.append_nil out).symm
  | cons line rest inductionHypothesis =>
      rw [List.foldlM_cons]
      cases dropped : isDropped head line with
      | true =>
          have skips : copyLine head cap out line = some out := by
            rw [copyLine, if_pos dropped]
          rw [List.filter_cons_of_neg (by simp [dropped]), skips]
          exact inductionHypothesis fits
      | false =>
          have copies :
              copyLine head cap out line = outAdd cap out (copied head line) := by
            rw [copyLine, if_neg (by simp [dropped])]
            rfl
          rw [List.filter_cons_of_pos (by simp [dropped]), copies,
            Option.bind_eq_bind, Option.bind_eq_some_iff, List.flatMap_cons,
            ← List.append_assoc]
          constructor
          · rintro ⟨middle, first, others⟩
            obtain ⟨rfl, middleFits⟩ := outAdd_eq_some_iff.mp first
            exact (inductionHypothesis middleFits).mp others
          · rintro ⟨rfl, allFits⟩
            have middleFits : (out ++ copied head line).length ≤ cap := by
              rw [List.length_append] at allFits
              omega
            exact ⟨_, outAdd_eq_some_iff.mpr ⟨rfl, middleFits⟩,
              (inductionHypothesis middleFits).mpr ⟨rfl, allFits⟩⟩

/-- The rewritten head, by what the request line and the lines are. -/
def rewritten (head : List UInt8) (le target : Nat) (host : List UInt8) :
    List UInt8 :=
  head.take target ++ authority (head.getD target 0 == 47) host ++
      slice head target (le + 2 - target) ++
    ((headerLines head (head.length - 2) head.length (le + 2)).filter
      fun line => !isDropped head line).flatMap (copied head) ++ tail

theorem httpRewrite_eq_some_iff {origIp : UInt32} {hostN : Nat}
    {host : List UInt8} :
    httpRewrite head origIp cap hostN = some (out, host) ↔
      ∃ le target, requestLine head = some (le, target) ∧
        requestHost head le origIp hostN = host ∧
        rewritten head le target host = out ∧ out.length ≤ cap := by
  unfold httpRewrite rewritten
  simp only [Option.bind_eq_bind, Option.bind_eq_some_iff]
  constructor
  · rintro
      ⟨⟨le, target⟩, isLine, start, started, middle, named, requestOut,
        requested, headersOut, copies, last, ended, same⟩
    cases same
    obtain ⟨rfl, startFits⟩ := outAdd_eq_some_iff.mp started
    obtain ⟨rfl, namedFits⟩ := (addAuthority_eq_some_iff startFits).mp named
    obtain ⟨rfl, requestFits⟩ := outAdd_eq_some_iff.mp requested
    obtain ⟨rfl, _⟩ := (copyLines_eq_some_iff _ requestFits).mp copies
    obtain ⟨rfl, fits⟩ := outAdd_eq_some_iff.mp ended
    exact ⟨le, target, isLine, rfl, rfl, fits⟩
  · rintro ⟨le, target, isLine, rfl, rfl, fits⟩
    have lengths := fits
    simp only [List.length_append] at lengths
    have startFits : ([] ++ head.take target).length ≤ cap := by
      rw [List.nil_append]
      omega
    refine ⟨(le, target), isLine, _, outAdd_eq_some_iff.mpr ⟨rfl, startFits⟩, _,
      (addAuthority_eq_some_iff startFits).mpr ⟨rfl, ?_⟩, _,
      outAdd_eq_some_iff.mpr ⟨rfl, ?_⟩, _,
      (copyLines_eq_some_iff _ ?_).mpr ⟨rfl, ?_⟩, _,
      outAdd_eq_some_iff.mpr ⟨rfl, ?_⟩, rfl⟩
    · simp only [List.nil_append, List.length_append]
      omega
    · simp only [List.nil_append, List.length_append]
      omega
    · simp only [List.nil_append, List.length_append]
      omega
    · simp only [List.nil_append, List.length_append]
      omega
    · exact fits

end Written

/-! ## The lines -/

section Pieces

variable {head : List UInt8} {s fin : Nat}

theorem lineEnd_spec (inside : s < fin) (isCr : head[fin]? = some cr) :
    s ≤ lineEnd head s fin ∧ lineEnd head s fin ≤ fin ∧
      head[lineEnd head s fin]? = some cr ∧
        cr ∉ slice head s (lineEnd head s fin - s) := by
  have bounds := lineEnd_bounds head inside
  refine ⟨bounds.1, bounds.2, ?_⟩
  unfold lineEnd
  split
  · next k found =>
    obtain ⟨absent, here⟩ := memchr_eq_some_iff.mp found
    have before := memchr_lt found
    have short := slice_length_le head s (fin - s)
    rw [getElem?_slice, if_pos (by omega)] at here
    refine ⟨here, ?_⟩
    rwa [slice, List.take_take, min_eq_left (by omega), ← Nat.add_sub_cancel_left
      (n := s) (m := k)] at absent
  · next nowhere =>
    exact ⟨isCr, memchr_eq_none_iff.mp nowhere⟩

theorem slice_line {e : Nat} (within : s ≤ e) (room : e + 2 ≤ head.length)
    (isCr : head[e]? = some cr) :
    slice head s (e + 2 - s) =
      slice head s (e - s) ++ [cr, head.getD (e + 1) 0] := by
  have count : e + 2 - s = e - s + 1 + 1 := by omega
  have first : (head.drop s)[e - s]? = some cr := by
    rw [List.getElem?_drop, ← isCr]
    congr 1
    omega
  have second : (head.drop s)[e - s + 1]? = some (head.getD (e + 1) 0) := by
    rw [List.getElem?_drop, List.getD_eq_getElem?_getD,
      List.getElem?_eq_getElem (by omega : s + (e - s + 1) < head.length),
      List.getElem?_eq_getElem (by omega : e + 1 < head.length),
      Option.getD_some]
    congr 2
    omega
  rw [slice, count, List.take_add_one, List.take_add_one, first, second, slice]
  simp

/-- A line of a head that ends in CR LF is a piece of it. -/
theorem mem_headerLines (two : 2 ≤ head.length)
    (isCr : head[head.length - 2]? = some cr) (fuel : Nat) {line : Nat × Nat}
    (member : line ∈ headerLines head (head.length - 2) fuel s) :
    cr ∉ (linePiece head line).1 ∧
      copied head line =
        (linePiece head line).1 ++ [cr, (linePiece head line).2] := by
  induction fuel generalizing s with
  | zero => cases member
  | succ fuel inductionHypothesis =>
      unfold headerLines at member
      split at member
      · next inside =>
        obtain ⟨lower, upper, here, plain⟩ := lineEnd_spec inside isCr
        rcases List.mem_cons.mp member with rfl | later
        · exact ⟨plain, slice_line lower (by dsimp only; omega) here⟩
        · exact inductionHypothesis later
      · cases member

/-- The header lines that are copied. -/
def keptPieces (head : List UInt8) (le : Nat) : List (Piece UInt8) :=
  (headPieces head le).filter fun piece => !isManaged piece.1

theorem keptPieces_plain (two : 2 ≤ head.length)
    (isCr : head[head.length - 2]? = some cr) {le : Nat} {piece : Piece UInt8}
    (member : piece ∈ keptPieces head le) : cr ∉ piece.1 := by
  obtain ⟨line, inHead, rfl⟩ := List.mem_map.mp (List.mem_filter.mp member).1
  exact (mem_headerLines two isCr _ inHead).1

theorem copied_eq_join (lines : List (Nat × Nat))
    (each : ∀ line ∈ lines,
      copied head line =
        (linePiece head line).1 ++ [cr, (linePiece head line).2]) :
    (lines.filter fun line => !isDropped head line).flatMap (copied head) =
      join cr
        ((lines.map (linePiece head)).filter fun piece =>
          !isManaged piece.1) := by
  induction lines with
  | nil => rfl
  | cons line rest inductionHypothesis =>
      have others := inductionHypothesis
        fun line member => each line (List.mem_cons_of_mem _ member)
      have here := each line List.mem_cons_self
      have same : isDropped head line = isManaged (linePiece head line).1 := rfl
      rw [List.map_cons, List.filter_cons, List.filter_cons, same]
      split
      · rw [List.flatMap_cons, here, others]
        rfl
      · exact others

end Pieces

/-! ## The host -/

theorem hostChar_octet {octet : Nat} {c : UInt8}
    (member : c ∈ ascii (toString octet)) : hostChar c = true := by
  obtain ⟨digit, isDigit, rfl⟩ := List.mem_map.mp member
  have range := Nat.isDigit_of_mem_toDigits (by decide) (by decide)
    (show digit ∈ Nat.toDigits 10 octet by simpa using isDigit)
  simp only [Char.isDigit, ge_iff_le, Bool.and_eq_true, decide_eq_true_eq]
    at range
  have lower : 48 ≤ digit.toNat := by exact_mod_cast range.1
  have upper : digit.toNat ≤ 57 := by exact_mod_cast range.2
  interval_cases digit.toNat <;> rfl

theorem hostChar_dotted {addr : UInt32} {c : UInt8}
    (member : c ∈ ip4addrNtoa addr) : hostChar c = true := by
  simp only [ip4addrNtoa, List.mem_append, List.mem_singleton] at member
  rcases member with (((((here | rfl) | here) | rfl) | here) | rfl) | here
  · exact hostChar_octet here
  · rfl
  · exact hostChar_octet here
  · rfl
  · exact hostChar_octet here
  · rfl
  · exact hostChar_octet here

/-- The host is written in host characters, whatever the head is. -/
theorem hostChar_requestHost {head : List UInt8} {le hostN : Nat}
    {origIp : UInt32} {c : UInt8}
    (member : c ∈ requestHost head le origIp hostN) : hostChar c = true := by
  unfold requestHost at member
  dsimp only at member
  split at member
  · next ok =>
    unfold hostOk at ok
    rw [Bool.and_eq_true, List.all_eq_true] at ok
    exact ok.2 c member
  · exact hostChar_dotted member

theorem cr_not_mem_requestHost (head : List UInt8) (le hostN : Nat)
    (origIp : UInt32) : cr ∉ requestHost head le origIp hostN := by
  intro member
  exact absurd (hostChar_requestHost member) (by decide)

/-! ## The request line -/

theorem requestLine_spec {head : List UInt8} {le target : Nat}
    (isLine : requestLine head = some (le, target)) :
    cr ∉ head.take le ∧ head[le]? = some cr ∧ target ≤ le := by
  have bounds := requestLine_bounds isLine
  unfold requestLine at isLine
  simp only [Option.bind_eq_bind, Option.bind_eq_some_iff] at isLine
  obtain ⟨le', foundLe, sp1, _, sp2, _, same⟩ := isLine
  split at same
  · cases same
  · cases same
    obtain ⟨plain, here⟩ := memchr_eq_some_iff.mp foundLe
    exact ⟨plain, here, bounds.1⟩

/-- The request line as it is written, and the byte after its CR. -/
def requestPiece (head : List UInt8) (le target : Nat) (host : List UInt8) :
    Piece UInt8 :=
  (head.take target ++ authority (head.getD target 0 == 47) host ++
    slice head target (le - target), head.getD (le + 1) 0)

theorem cr_not_mem_authority (originForm : Bool) {host : List UInt8}
    (plain : cr ∉ host) : cr ∉ authority originForm host := by
  unfold authority
  split
  · rw [List.mem_append, not_or]
    exact ⟨by decide, plain⟩
  · simp

theorem requestPiece_plain {head host : List UInt8} {le target : Nat}
    (isLine : requestLine head = some (le, target)) (plain : cr ∉ host) :
    cr ∉ (requestPiece head le target host).1 := by
  obtain ⟨line, _, within⟩ := requestLine_spec isLine
  have start : cr ∉ head.take target :=
    fun member => line (List.take_subset_take_left head within member)
  have rest : cr ∉ slice head target (le - target) := by
    intro member
    have inLine : slice head target (le - target) <:+ head.take le := by
      rw [slice, ← List.drop_take]
      exact List.drop_suffix _ _
    exact line (inLine.subset member)
  have inserted := cr_not_mem_authority (head.getD target 0 == 47) plain
  simp only [requestPiece, List.mem_append, not_or]
  exact ⟨⟨start, inserted⟩, rest⟩

/-- What is written, in pieces. -/
theorem rewritten_eq_join {head host : List UInt8} {le target : Nat}
    (two : le + 2 ≤ head.length) (isCr : head[head.length - 2]? = some cr)
    (isLine : requestLine head = some (le, target)) :
    rewritten head le target host =
      join cr (requestPiece head le target host :: keptPieces head le) ++
        tail := by
  obtain ⟨_, here, within⟩ := requestLine_spec isLine
  have each := fun line =>
    @mem_headerLines head (le + 2) (by omega) isCr head.length line
  rw [rewritten, copied_eq_join _ fun line member => (each line member).2,
    slice_line within two here]
  simp [join, requestPiece, keptPieces, headPieces]

end VeteraBridge.Proxy

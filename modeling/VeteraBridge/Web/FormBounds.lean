import VeteraBridge.Lib.CheckedMemory
import VeteraBridge.Web.Form

/-!
# What `form_decode` reads and writes

`form_decode` once more, with every read checked against a string that ends
with its NUL and every store against the buffer.
-/

namespace VeteraBridge.Web

open CheckedMemory (store Holds)
open FormEncoding
open Proxy (cstr cstr_eq_self_iff cstr_of_nul not_mem_cstr)

/-! ## The function, with its reads -/

/-- What one round of the loop writes for the byte `c` at `p`, and how far it
moves `p` itself.  The second digit is read only if there is a first. -/
def formByteAt (src : List UInt8) (p : Nat) (c : UInt8) :
    Option (UInt8 × Nat) :=
  if c = 43 then some (32, 0)
  else if c = 37 then do
    let hi ← src[p + 1]?
    let lo ← if hi = 0 then some 0 else src[p + 2]?
    if hi ≠ 0 ∧ lo ≠ 0 then some (hexByte hi lo, 2) else some (c, 0)
  else some (c, 0)

/-- `form_decode` from `p` on, with `w` bytes written: the buffer it leaves. -/
def formDecodeAt (src : List UInt8) (n : Nat) (dst : List UInt8) (p w : Nat) :
    Option (List UInt8) :=
  if _within : p < src.length then do
    let c ← src[p]?
    if c ≠ 0 ∧ w + 1 < n then
      let (byte, skipped) ← formByteAt src p c
      let dst ← store dst w [byte]
      formDecodeAt src n dst (p + skipped + 1) (w + 1)
    else
      store dst w [0]
  else
    none
termination_by src.length - p

/-! ## One round -/

/-- What one round writes for a byte, with what follows it. -/
def formByte (c : UInt8) (rest : List UInt8) : UInt8 × Nat :=
  if c = 43 then (32, 0)
  else if c = 37 ∧ 2 ≤ rest.length then
    (hexByte (rest.getD 0 0) (rest.getD 1 0), 2)
  else (c, 0)

theorem formDecodeFrom_full {n : Nat} {dst : List UInt8}
    (full : ¬ dst.length + 1 < n) (src : List UInt8) :
    formDecodeFrom n src dst = dst := by
  cases src with
  | nil => rfl
  | cons c rest =>
      rw [formDecodeFrom.eq_def]
      exact if_neg full

theorem formDecodeFrom_cons {n : Nat} {dst : List UInt8}
    (room : dst.length + 1 < n) (c : UInt8) (rest : List UInt8) :
    formDecodeFrom n (c :: rest) dst =
      formDecodeFrom n (rest.drop (formByte c rest).2)
        (dst ++ [(formByte c rest).1]) := by
  rw [formDecodeFrom.eq_def]
  dsimp only
  rw [if_pos room, formByte]
  by_cases plus : c = 43
  · rw [if_pos plus, if_pos plus, List.drop_zero]
  by_cases percent : c = 37
  · rw [if_neg plus, if_neg plus, if_pos percent]
    rcases rest with _ | ⟨hi, _ | ⟨lo, rest⟩⟩
    · rw [if_neg (by simp)]
      rfl
    · rw [if_neg (by simp)]
      rfl
    · rw [if_pos ⟨percent, Nat.le_add_left 2 rest.length⟩]
      rfl
  · have noEscape : ¬ (c = 37 ∧ 2 ≤ rest.length) := fun both => percent both.1
    rw [if_neg plus, if_neg plus, if_neg percent, if_neg noEscape,
      List.drop_zero]

/-- The reads of one round stay in the string, and find what the list has. -/
theorem formByteAt_eq {src rest : List UInt8} {p : Nat} {c : UInt8}
    (here : src.drop p = c :: rest ++ [0]) (noNul : 0 ∉ rest) :
    formByteAt src p c = some (formByte c rest) := by
  have reads : ∀ i, src[p + i]? = (c :: rest ++ [0])[i]? := by
    intro i
    rw [← here, List.getElem?_drop]
  rw [formByteAt, formByte]
  by_cases plus : c = 43
  · rw [if_pos plus, if_pos plus]
  by_cases percent : c = 37
  · rw [if_neg plus, if_neg plus, if_pos percent, reads, reads]
    rcases rest with _ | ⟨hi, _ | ⟨lo, rest⟩⟩
    · rw [if_neg (by simp)]
      rfl
    · simp
    · have nonzero : hi ≠ 0 ∧ lo ≠ 0 := by
        constructor
        · rintro rfl
          exact noNul List.mem_cons_self
        · rintro rfl
          exact noNul (List.mem_cons_of_mem _ List.mem_cons_self)
      simp [nonzero, percent]
  · have noEscape : ¬ (c = 37 ∧ 2 ≤ rest.length) := fun both => percent both.1
    rw [if_neg plus, if_neg plus, if_neg percent, if_neg noEscape]

theorem formByte_skipped (c : UInt8) (rest : List UInt8) :
    (formByte c rest).2 ≤ rest.length := by
  rw [formByte]
  split_ifs with _ escape
  · exact Nat.zero_le _
  · exact escape.2
  · exact Nat.zero_le _

/-! ## Every access is in bounds -/

/-- `form_decode` ends, stays within its string and its buffer, and leaves the
decoded text with a NUL behind it. -/
theorem formDecodeAt_holds {src : List UInt8} {n : Nat} (rest : List UInt8)
    {p : Nat} {dst text : List UInt8} (here : src.drop p = rest ++ [0])
    (noNul : 0 ∉ rest) (holds : Holds n text dst)
    (room : text.length + 1 ≤ n) :
    ∃ out, formDecodeAt src n dst p text.length = some out ∧
      Holds n (formDecodeFrom n rest text ++ [0]) out := by
  induction length : rest.length using Nat.strong_induction_on
    generalizing rest p dst text with
  | _ left inductionHypothesis =>
    have within : p < src.length := by
      have some := congrArg List.length here
      rw [List.length_drop, List.length_append, List.length_singleton] at some
      omega
    have ends : ∃ out, store dst text.length [0] = some out ∧
        Holds n (text ++ [0]) out := holds.store [0] room
    rw [formDecodeAt, dif_pos within]
    cases rest with
    | nil =>
        have nul : src[p]? = some 0 := by
          rw [← Nat.add_zero p, ← List.getElem?_drop, here]
          rfl
        rw [nul]
        simpa [formDecodeFrom] using ends
    | cons c rest =>
        have read : src[p]? = some c := by
          rw [← Nat.add_zero p, ← List.getElem?_drop, here]
          rfl
        obtain ⟨nonzero, restNoNul⟩ := not_or.mp (List.mem_cons.not.mp noNul)
        rw [read, Option.bind_eq_bind, Option.bind_some]
        by_cases more : text.length + 1 < n
        · rw [if_pos ⟨Ne.symm nonzero, more⟩, formByteAt_eq here restNoNul,
            formDecodeFrom_cons more]
          obtain ⟨next, stored, kept⟩ :=
            holds.store [(formByte c rest).1] more.le
          have skips := formByte_skipped c rest
          have behind :
              src.drop (p + (formByte c rest).2 + 1) =
                rest.drop (formByte c rest).2 ++ [0] := by
            rw [Nat.add_assoc, ← List.drop_drop, here, List.cons_append,
              List.drop_succ_cons, List.drop_append_of_le_length skips]
          have shorter : (rest.drop (formByte c rest).2).length < left := by
            rw [List.length_cons] at length
            rw [List.length_drop]
            omega
          have fits : (text ++ [(formByte c rest).1]).length + 1 ≤ n := by
            rw [List.length_append]
            exact more
          obtain ⟨out, decoded, holdsOut⟩ :=
            inductionHypothesis _ shorter (rest.drop (formByte c rest).2) behind
              (fun member => restNoNul (List.mem_of_mem_drop member)) kept fits
              rfl
          refine ⟨out, ?_, holdsOut⟩
          rw [Option.bind_eq_bind, Option.bind_some]
          simp only [stored, Option.bind_eq_bind, Option.bind_some]
          rw [List.length_append] at decoded
          exact decoded
        · rw [if_neg (fun both => more both.2)]
          rw [formDecodeFrom_full more]
          exact ends

theorem cstr_of_holds {n : Nat} {text out : List UInt8}
    (holds : Holds n (text ++ [0]) out) (noNul : 0 ∉ text) :
    cstr out = text := by
  obtain ⟨behind, rfl⟩ := holds.begins
  rw [List.append_assoc, List.singleton_append, cstr_of_nul]
  exact (cstr_eq_self_iff text).mpr noNul

/-- Every encoding of a text is decoded to the text, in a buffer that holds it;
and whatever is decoded, no byte is read behind the NUL of the string and none
written outside the buffer, where the text ends with its own NUL. -/
theorem formDecode_reads_back_in_bounds :
    (∀ (text sent dst : List UInt8), 0 ∉ text → Encodes text sent →
      text.length < dst.length →
        formDecode sent dst.length = text ∧
          ∃ out, formDecodeAt (sent ++ [0]) dst.length dst 0 0 = some out ∧
            cstr out = text) ∧
      ∀ src dst : List UInt8, 1 ≤ dst.length →
        (formDecode src dst.length).length + 1 ≤ dst.length ∧
          ∃ out,
            formDecodeAt (cstr src ++ [0]) dst.length dst 0 0 = some out ∧
              Holds dst.length (formDecode src dst.length ++ [0]) out := by
  have bounded : ∀ src dst : List UInt8, 1 ≤ dst.length →
      ∃ out, formDecodeAt (cstr src ++ [0]) dst.length dst 0 0 = some out ∧
        Holds dst.length (formDecode src dst.length ++ [0]) out := by
    intro src dst positive
    exact formDecodeAt_holds (cstr src) rfl (not_mem_cstr src)
      ⟨rfl, List.nil_prefix⟩ positive
  constructor
  · intro text sent dst noNul encodes room
    have clean : cstr sent = sent :=
      (cstr_eq_self_iff sent).mpr encodes.not_mem.1
    have whole : formDecode sent dst.length = text := by
      rw [formDecode_eq (by omega) encodes.not_mem.1,
        encodes.decode hexByte_reads, List.take_of_length_le (by omega)]
    obtain ⟨out, decoded, holds⟩ := bounded sent dst (by omega)
    rw [clean] at decoded
    rw [whole] at holds
    exact ⟨whole, out, decoded, cstr_of_holds holds noNul⟩
  · intro src dst positive
    obtain ⟨out, decoded, holds⟩ := bounded src dst positive
    have fits := holds.length_le
    rw [List.length_append] at fits
    exact ⟨fits, out, decoded, holds⟩

end VeteraBridge.Web

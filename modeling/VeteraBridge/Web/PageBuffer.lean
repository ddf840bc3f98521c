import VeteraBridge.Web.PageSize

/-!
# The buffer behind a page

`page_add` once more, on the memory it writes to and in the integers of C: an
offset is an `int` and a size is a `size_t`, both of 32 bits.  Stores outside of
the memory and sums that no `int` holds fail.
-/

namespace VeteraBridge.Web

open Bookmarks
open CheckedMemory (store splice)
open ClippedBuffer (clip stored)

/-! ## Integers -/

/-- `(size_t)w`. -/
def toSize (w : Int) : Nat := (w % 4294967296).toNat

/-- `(int)n`. -/
def toInt (n : Nat) : Int := Int.bmod n 4294967296

/-- `a - b` of two sizes. -/
def subSize (a b : Nat) : Nat := (a + 4294967296 - b) % 4294967296

/-- `a + b` of two `int`s, undefined where it overflows. -/
def addInt (a b : Int) : Option Int :=
  if -2147483648 ≤ a + b ∧ a + b < 2147483648 then some (a + b) else none

theorem toSize_natCast {w : Nat} (small : w < 4294967296) :
    toSize w = w := by
  unfold toSize
  omega

theorem toInt_natCast {n : Nat} (small : n < 2147483648) : toInt n = n := by
  unfold toInt
  exact Int.bmod_eq_of_le (by omega) (by omega)

theorem subSize_of_le {a b : Nat} (small : a < 4294967296) (le : b ≤ a) :
    subSize a b = a - b := by
  unfold subSize
  omega

theorem addInt_natCast {a b : Nat} (small : a + b < 2147483648) :
    addInt a b = some ((a + b : Nat) : Int) := by
  rw [addInt, if_pos (by omega), Nat.cast_add]

/-! ## The functions -/

/-- `vsnprintf` of a formatted text: the memory, and the length it wanted to
write, negative where that is no `int`. -/
def vsnprintf (mem : List UInt8) (dst size : Nat) (text : List UInt8) :
    Option (List UInt8 × Int) := do
  let mem ←
    if size = 0 then some mem
    else store mem dst (text.take (size - 1) ++ [0])
  some (mem, if text.length < 2147483648 then text.length else -1)

/-- `page_add` to the `n` bytes at `dst`. -/
def pageAddAt (mem : List UInt8) (dst n : Nat) (w : Int) (text : List UInt8) :
    Option (List UInt8 × Int) :=
  if w < 0 ∨ n ≤ toSize w then do
    let last ← addInt (toInt n) (-1)
    some (mem, last)
  else do
    let (mem, r) ← vsnprintf mem (dst + w.toNat) (subSize n (toSize w)) text
    if r < 0 then some (mem, w)
    else
      let w ← addInt w r
      if n ≤ toSize w then
        let last ← addInt (toInt n) (-1)
        some (mem, last)
      else
        some (mem, w)

/-- The loop of `bm_render_links`. -/
def addLinksAt (mem : List UInt8) (dst n : Nat) (w : Int) :
    List (Option Bookmark) → Option (List UInt8 × Int)
  | [] => some (mem, w)
  | none :: seen => addLinksAt mem dst n w seen
  | some b :: seen => do
    let (mem, w) ←
      pageAddAt mem dst n w (linkText (bmEscape b).1 (bmEscape b).2)
    addLinksAt mem dst n w seen

/-- `bm_render_links` into the `n` bytes at `dst`. -/
def bmRenderLinksAt (mem : List UInt8) (dst n : Nat)
    (seen : List (Option Bookmark)) : Option (List UInt8 × Int) :=
  if seen.length = 0 then some (mem, 0)
  else do
    let (mem, w) ← pageAddAt mem dst n 0 linksOpen
    let (mem, w) ← addLinksAt mem dst n w seen
    pageAddAt mem dst n w linksClose

/-- Calls of `page_add` chained from an offset. -/
def chainAt (mem : List UInt8) (dst n : Nat) (w : Int) :
    List (List UInt8) → Option (List UInt8 × Int)
  | [] => some (mem, w)
  | text :: texts => do
    let (mem, w) ← pageAddAt mem dst n w text
    chainAt mem dst n w texts

/-- `w += f(dst + w, n - w)`. -/
def inRest (f : List UInt8 → Nat → Nat → Option (List UInt8 × Int))
    (mem : List UInt8) (dst n : Nat) (w : Int) : Option (List UInt8 × Int) :=
  if w < 0 then none
  else do
    let (mem, r) ← f mem (dst + w.toNat) (subSize n (toSize w))
    let w ← addInt w r
    some (mem, w)

/-- One addition to a page. -/
inductive PageCall where
  | add (text : List UInt8)
  | chain (texts : List (List UInt8))
  | links (seen : List (Option Bookmark))

namespace PageCall

def perform (dst n : Nat) (state : List UInt8 × Int) :
    PageCall → Option (List UInt8 × Int)
  | add text => pageAddAt state.1 dst n state.2 text
  | chain texts =>
    inRest (fun mem dst n => chainAt mem dst n 0 texts) state.1 dst n state.2
  | links seen =>
    inRest (fun mem dst n => bmRenderLinksAt mem dst n seen) state.1 dst n
      state.2

/-- Additions one after the other, from offset 0. -/
def run (mem : List UInt8) (dst n : Nat) (calls : List PageCall) :
    Option (List UInt8 × Int) :=
  calls.foldlM (perform dst n) (mem, 0)

end PageCall

/-- The page that `handler_root` builds in what `malloc` returned. -/
def rootPageAt (mem : List UInt8) (s : Status) (seen : List (Option Bookmark)) :
    Option (List UInt8 × Int) :=
  PageCall.run mem 0 (rootSize seen)
    [.add s.head, .links seen, .add (s.tail seen.length)]

/-! ## What one call leaves -/

/-- A buffer of `n` bytes in the memory. -/
structure Buffer (mem : List UInt8) (dst n : Nat) : Prop where
  positive : 1 ≤ n
  size : n < 4294967296
  inside : dst + n ≤ mem.length

/-- The memory with the pieces in the buffer, and the offset behind them. -/
def filled (mem : List UInt8) (dst n : Nat) (pieces : List (List UInt8)) :
    List UInt8 × Int :=
  (splice mem dst (stored 0 n pieces), ((clip n pieces).length : Nat))

section Filled

variable {mem : List UInt8} {dst n : Nat} {pieces : List (List UInt8)}

theorem filled_nil : filled mem dst n [] = (mem, 0) := by
  rw [filled, ClippedBuffer.stored_nil, CheckedMemory.splice_nil,
    ClippedBuffer.clip_nil]
  rfl

/-- What the pieces leave of a buffer is a buffer. -/
theorem Buffer.rest (buffer : Buffer mem dst n)
    (pieces : List (List UInt8)) :
    Buffer (filled mem dst n pieces).1 (dst + (clip n pieces).length)
      (n - (clip n pieces).length) := by
  have short := ClippedBuffer.clip_length_lt buffer.positive pieces
  have size := buffer.size
  have inside := buffer.inside
  have length :=
    ClippedBuffer.splice_stored_length 0 buffer.positive inside pieces
  refine ⟨by omega, by omega, ?_⟩
  rw [filled, length]
  omega

/-- Pieces that fill the rest of a buffer fill the buffer. -/
theorem filled_rest (buffer : Buffer mem dst n)
    (first second : List (List UInt8)) :
    (filled (filled mem dst n first).1 (dst + (clip n first).length)
        (n - (clip n first).length) second).1 =
      (filled mem dst n (first ++ second)).1 :=
  ClippedBuffer.splice_stored 0 (Nat.le_of_add_right_le buffer.inside) first
    second

theorem vsnprintf_eq (buffer : Buffer mem dst n) (text : List UInt8)
    (small : text.length < 2147483648) :
    vsnprintf mem dst n text =
      some ((filled mem dst n [text]).1, (text.length : Int)) := by
  have positive := buffer.positive
  have items : text.take (n - 1) ++ [0] = stored 0 n [text] := by
    rw [ClippedBuffer.stored_of_ne_nil (List.cons_ne_nil text []), clip,
      List.flatten_singleton]
  have short := ClippedBuffer.stored_length_le (0 : UInt8) positive [text]
  have inside := buffer.inside
  rw [vsnprintf, if_neg (by omega), items,
    CheckedMemory.store_of_le (by omega), Option.bind_eq_bind, Option.bind_some,
    if_pos small]
  rfl

/-- `page_add` adds a piece. -/
theorem pageAddAt_filled (buffer : Buffer mem dst n) {text : List UInt8}
    (small : (pieces ++ [text]).flatten.length < 2147483648) :
    pageAddAt (filled mem dst n pieces).1 dst n (filled mem dst n pieces).2
        text = some (filled mem dst n (pieces ++ [text])) := by
  have size := buffer.size
  have positive := buffer.positive
  have used := ClippedBuffer.clip_length n pieces
  have longer := ClippedBuffer.clip_length n (pieces ++ [text])
  rw [List.flatten_append, List.flatten_singleton, List.length_append]
    at small longer
  have short : (clip n pieces).length < n := by omega
  have offset : toSize (clip n pieces).length = (clip n pieces).length :=
    toSize_natCast (by omega)
  have printed := vsnprintf_eq (buffer.rest pieces) text (by omega)
  rw [filled_rest buffer] at printed
  have within : ¬ (((clip n pieces).length : Int) < 0 ∨
      n ≤ (clip n pieces).length) := by
    omega
  dsimp only [filled] at printed ⊢
  rw [pageAddAt, offset, if_neg within, Int.toNat_natCast,
    subSize_of_le size short.le, printed, Option.bind_eq_bind,
    Option.bind_some]
  dsimp only
  have wanted : ¬ (text.length : Int) < 0 := by omega
  rw [if_neg wanted, addInt_natCast (by omega), Option.bind_eq_bind,
    Option.bind_some, toSize_natCast (by omega)]
  by_cases full : n ≤ (clip n pieces).length + text.length
  · have last : addInt (toInt n) (-1) = some ((n - 1 : Nat) : Int) := by
      rw [toInt_natCast (by omega), addInt, if_pos (by omega),
        Nat.cast_sub positive]
      rfl
    have clipped : (clip n (pieces ++ [text])).length = n - 1 := by omega
    rw [if_pos full, last, Option.bind_some, clipped]
  · have whole : (clip n (pieces ++ [text])).length =
        (clip n pieces).length + text.length := by omega
    rw [if_neg full, whole]

/-! ## Chains of calls -/

/-- The first of some pieces is no longer than all of them. -/
theorem flatten_length_le (first second : List (List UInt8)) :
    first.flatten.length ≤ (first ++ second).flatten.length := by
  rw [List.flatten_append, List.length_append]
  exact Nat.le_add_right _ _

theorem chainAt_filled (buffer : Buffer mem dst n) (texts : List (List UInt8))
    (small : (pieces ++ texts).flatten.length < 2147483648) :
    chainAt (filled mem dst n pieces).1 dst n (filled mem dst n pieces).2
        texts = some (filled mem dst n (pieces ++ texts)) := by
  induction texts generalizing pieces with
  | nil =>
      rw [List.append_nil]
      rfl
  | cons text texts inductionHypothesis =>
      have step : pieces ++ text :: texts = (pieces ++ [text]) ++ texts := by
        rw [List.append_assoc, List.singleton_append]
      rw [step] at small ⊢
      have first := (flatten_length_le (pieces ++ [text]) texts).trans_lt small
      rw [chainAt, pageAddAt_filled buffer first, Option.bind_eq_bind,
        Option.bind_some]
      exact inductionHypothesis small

theorem chainAt_append (w : Int) (first second : List (List UInt8)) :
    chainAt mem dst n w (first ++ second) =
      (chainAt mem dst n w first).bind fun state =>
        chainAt state.1 dst n state.2 second := by
  induction first generalizing mem w with
  | nil => rfl
  | cons text texts inductionHypothesis =>
      rw [List.cons_append, chainAt, chainAt]
      cases pageAddAt mem dst n w text with
      | none => rfl
      | some state => exact inductionHypothesis state.2

theorem addLinksAt_eq (w : Int) (seen : List (Option Bookmark)) :
    addLinksAt mem dst n w seen = chainAt mem dst n w (linkTexts seen) := by
  induction seen generalizing mem w with
  | nil => rfl
  | cons entry seen inductionHypothesis =>
      cases entry with
      | none =>
          rw [addLinksAt, inductionHypothesis, linkTexts, linkTexts,
            List.reduceOption_cons_of_none]
      | some b =>
          rw [addLinksAt, linkTexts, List.reduceOption_cons_of_some,
            List.map_cons, chainAt]
          congr 1
          funext state
          exact inductionHypothesis state.2

/-- `bm_render_links` is a chain of calls of its own. -/
theorem bmRenderLinksAt_eq (mem : List UInt8) (dst n : Nat)
    (seen : List (Option Bookmark)) :
    bmRenderLinksAt mem dst n seen = chainAt mem dst n 0 (linkPieces seen) := by
  rw [bmRenderLinksAt, linkPieces]
  by_cases empty : seen.length = 0
  · rw [if_pos empty, if_pos empty]
    rfl
  · rw [if_neg empty, if_neg empty, List.cons_append, chainAt]
    cases pageAddAt mem dst n 0 linksOpen with
    | none => rfl
    | some opened =>
        show ((addLinksAt opened.1 dst n opened.2 seen).bind fun state =>
            pageAddAt state.1 dst n state.2 linksClose) =
          chainAt opened.1 dst n opened.2 (linkTexts seen ++ [linksClose])
        rw [addLinksAt_eq, chainAt_append]
        congr 1
        funext state
        exact (Option.bind_fun_some _).symm

/-- What fills every buffer with the texts fills the rest with them. -/
theorem inRest_filled (buffer : Buffer mem dst n)
    {f : List UInt8 → Nat → Nat → Option (List UInt8 × Int)}
    {texts : List (List UInt8)}
    (fills : ∀ mem dst n, Buffer mem dst n →
      f mem dst n = some (filled mem dst n texts))
    (small : (pieces ++ texts).flatten.length < 2147483648) :
    inRest f (filled mem dst n pieces).1 dst n (filled mem dst n pieces).2 =
      some (filled mem dst n (pieces ++ texts)) := by
  have size := buffer.size
  have short := ClippedBuffer.clip_length_lt buffer.positive pieces
  have both := congrArg List.length (ClippedBuffer.clip_append n pieces texts)
  have longer := ClippedBuffer.clip_length n (pieces ++ texts)
  rw [List.length_append] at both
  have rest := fills _ _ _ (buffer.rest pieces)
  have whole := filled_rest buffer pieces texts
  have started : ¬ ((clip n pieces).length : Int) < 0 := by omega
  dsimp only [filled] at rest whole ⊢
  rw [inRest, if_neg started, Int.toNat_natCast, toSize_natCast (by omega),
    subSize_of_le size short.le, rest, Option.bind_eq_bind, Option.bind_some]
  dsimp only
  rw [addInt_natCast (by omega), Option.bind_eq_bind, Option.bind_some, ← both,
    whole]

end Filled

namespace PageCall

/-- The texts that a call adds. -/
def pieces : PageCall → List (List UInt8)
  | add text => [text]
  | chain texts => texts
  | links seen => linkPieces seen

section Run

variable {mem : List UInt8} {dst n : Nat}

theorem perform_filled (buffer : Buffer mem dst n) {before : List (List UInt8)}
    (call : PageCall)
    (small : (before ++ call.pieces).flatten.length < 2147483648) :
    call.perform dst n (filled mem dst n before) =
      some (filled mem dst n (before ++ call.pieces)) := by
  have chained : ∀ texts : List (List UInt8),
      (before ++ texts).flatten.length < 2147483648 →
      ∀ mem dst n, Buffer mem dst n →
        chainAt mem dst n 0 texts = some (filled mem dst n texts) := by
    intro texts small mem dst n buffer
    rw [List.flatten_append, List.length_append] at small
    have alone : ([] ++ texts).flatten.length < 2147483648 := by
      rw [List.nil_append]
      omega
    have filling := chainAt_filled buffer texts alone
    rwa [filled_nil] at filling
  cases call with
  | add text => exact pageAddAt_filled buffer small
  | chain texts => exact inRest_filled buffer (chained texts small) small
  | links seen =>
      have rendered : ∀ mem dst n, Buffer mem dst n →
          bmRenderLinksAt mem dst n seen =
            some (filled mem dst n (linkPieces seen)) := by
        intro mem dst n rest
        rw [bmRenderLinksAt_eq]
        exact chained (linkPieces seen) small mem dst n rest
      exact inRest_filled buffer rendered small

theorem foldlM_filled (buffer : Buffer mem dst n) (calls : List PageCall)
    {before : List (List UInt8)}
    (small : (before ++ calls.flatMap pieces).flatten.length < 2147483648) :
    calls.foldlM (perform dst n) (filled mem dst n before) =
      some (filled mem dst n (before ++ calls.flatMap pieces)) := by
  induction calls generalizing before with
  | nil =>
      rw [List.flatMap_nil, List.append_nil]
      rfl
  | cons call calls inductionHypothesis =>
      rw [List.flatMap_cons, ← List.append_assoc] at small ⊢
      have first := (flatten_length_le (before ++ call.pieces) _).trans_lt small
      rw [List.foldlM_cons, perform_filled buffer call first,
        Option.bind_eq_bind, Option.bind_some]
      exact inductionHypothesis small

theorem run_filled (buffer : Buffer mem dst n) {calls : List PageCall}
    (small : (calls.flatMap pieces).flatten.length < 2147483648) :
    run mem dst n calls = some (filled mem dst n (calls.flatMap pieces)) := by
  have total : ([] ++ calls.flatMap pieces).flatten.length < 2147483648 := by
    rwa [List.nil_append]
  have filling := foldlM_filled buffer calls total
  rwa [filled_nil, List.nil_append] at filling

theorem chainAt_eq_run (mem : List UInt8) (dst n : Nat)
    (texts : List (List UInt8)) :
    chainAt mem dst n 0 texts = run mem dst n (texts.map add) := by
  have folds : ∀ w : Int, chainAt mem dst n w texts =
      (texts.map add).foldlM (perform dst n) (mem, w) := by
    induction texts generalizing mem with
    | nil =>
        intro w
        rfl
    | cons text texts inductionHypothesis =>
        intro w
        rw [chainAt, List.map_cons, List.foldlM_cons]
        congr 1
        funext state
        exact inductionHypothesis state.1 state.2
  exact folds 0

end Run

end PageCall

/-! ## The contract -/

/-- The buffer holds a text as far as it takes it, the offset is the one behind
it, and nothing outside of the buffer has changed. -/
structure Clips (mem : List UInt8) (dst n : Nat) (text : List UInt8)
    (state : List UInt8 × Int) : Prop where
  first : 0 ≤ state.2
  last : state.2 ≤ (n : Int) - 1
  offset : state.2 = (min (n - 1) text.length : Nat)
  contents : (state.1.drop dst).take state.2.toNat = text.take (n - 1)
  length : state.1.length = mem.length
  outside : ∀ i, i < dst ∨ dst + n ≤ i → state.1[i]? = mem[i]?

section Contract

variable {mem : List UInt8} {dst n : Nat}

theorem filled_clips (buffer : Buffer mem dst n)
    (pieces : List (List UInt8)) :
    Clips mem dst n pieces.flatten (filled mem dst n pieces) := by
  have positive := buffer.positive
  have inside := buffer.inside
  have used := ClippedBuffer.clip_length n pieces
  refine ⟨Int.natCast_nonneg _, ?_, ?_, ?_, ?_, ?_⟩
  · dsimp only [filled]
    omega
  · dsimp only [filled]
    omega
  · rw [filled, Int.toNat_natCast]
    exact (List.prefix_iff_eq_take.mp
      (ClippedBuffer.splice_stored_text 0 positive inside pieces)).symm
  · exact ClippedBuffer.splice_stored_length 0 positive inside pieces
  · intro i outside
    exact ClippedBuffer.splice_stored_outside 0 positive inside pieces outside

theorem filled_nul (buffer : Buffer mem dst n) {pieces : List (List UInt8)}
    (ends : pieces ≠ [] ∨ mem[dst]? = some 0) :
    (filled mem dst n pieces).1[
        dst + (filled mem dst n pieces).2.toNat]? = some 0 := by
  by_cases none : pieces = []
  · rw [none, filled_nil]
    exact ends.resolve_left (not_not.mpr none)
  · rw [filled, Int.toNat_natCast]
    exact ClippedBuffer.splice_stored_stop 0 buffer.positive buffer.inside
      pieces none

/-- After every call of a chain the buffer holds what its size takes of all
pieces so far, with a NUL behind it.  What is given the rest of a buffer, as
`bm_render_links` is, is such a chain in a buffer of its own. -/
theorem run_clips (mem : List UInt8) (dst n : Nat) (positive : 1 ≤ n)
    (size : n < 4294967296) (inside : dst + n ≤ mem.length)
    (calls : List PageCall)
    (small : (calls.flatMap PageCall.pieces).flatten.length < 2147483648) :
    (∀ k, ∃ state, PageCall.run mem dst n (calls.take k) = some state ∧
      Clips mem dst n ((calls.take k).flatMap PageCall.pieces).flatten state ∧
      ((calls.take k).flatMap PageCall.pieces ≠ [] ∨ mem[dst]? = some 0 →
        state.1[dst + state.2.toNat]? = some 0)) ∧
      (∀ texts, chainAt mem dst n 0 texts =
        PageCall.run mem dst n (texts.map PageCall.add)) ∧
      ∀ seen, bmRenderLinksAt mem dst n seen =
        PageCall.run mem dst n ((linkPieces seen).map PageCall.add) := by
  have buffer : Buffer mem dst n := ⟨positive, size, inside⟩
  refine ⟨?_, PageCall.chainAt_eq_run mem dst n, ?_⟩
  · intro k
    have split : calls.flatMap PageCall.pieces =
        (calls.take k).flatMap PageCall.pieces ++
          (calls.drop k).flatMap PageCall.pieces := by
      rw [← List.flatMap_append, List.take_append_drop]
    rw [split] at small
    have first := (flatten_length_le _ _).trans_lt small
    exact ⟨_, PageCall.run_filled buffer first, filled_clips buffer _,
      filled_nul buffer⟩
  · intro seen
    rw [bmRenderLinksAt_eq, PageCall.chainAt_eq_run]

end Contract

/-- Eight bytes that are filled and then clipped by a chain in their rest. -/
theorem run_clips_eight :
    ∃ state, PageCall.run (List.replicate 8 0xFF) 0 8
        [.add [97, 98, 99], .chain [[100, 101], [102, 103, 104]]] =
          some state ∧
      Clips (List.replicate 8 0xFF) 0 8 [97, 98, 99, 100, 101, 102, 103, 104]
        state := by
  obtain ⟨after, -⟩ := run_clips (List.replicate 8 0xFF) 0 8 (by decide)
    (by decide) (by decide)
    [.add [97, 98, 99], .chain [[100, 101], [102, 103, 104]]] (by decide)
  obtain ⟨state, ran, clips, -⟩ := after 2
  exact ⟨state, ran, clips⟩

/-! ## The status page -/

/-- What `handler_root` leaves in its memory is the page and a NUL. -/
theorem rootPageAt_eq {mem : List UInt8} (s : Status)
    {seen : List (Option Bookmark)} (allocated : mem.length = rootSize seen)
    (size : rootSize seen < 4294967296)
    (small : (rootPieces s seen).flatten.length < 2147483648) :
    rootPageAt mem s seen =
      some (splice mem 0 (rootPage s seen ++ [0]),
        ((rootPage s seen).length : Int)) := by
  have buffer : Buffer mem 0 (rootSize seen) := by
    refine ⟨?_, size, by omega⟩
    unfold rootSize
    omega
  have pieces : List.flatMap PageCall.pieces
      [.add s.head, .links seen, .add (s.tail seen.length)] =
        rootPieces s seen := by
    rw [rootPieces, List.append_assoc]
    rfl
  rw [rootPageAt, PageCall.run_filled buffer (by rwa [pieces]), pieces, filled,
    rootPage_clip, ClippedBuffer.stored_of_ne_nil (by simp [rootPieces])]

end VeteraBridge.Web

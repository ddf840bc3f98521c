import VeteraBridge.Lib.Chunks
import VeteraBridge.Lib.CheckedMemory
import VeteraBridge.Web.Form

/-!
# Receiving a body

`recv_body` call by call, against whatever the server answers: bytes, timeouts,
errors.  It goes on after a timeout, so it comes to an end exactly when the peer
sends what it declared or the server reports something other than a timeout.
-/

namespace VeteraBridge.Web

open CheckedMemory (store Holds)
open Chunks (fed)

/-! ## The function -/

/-- What `httpd_req_recv` returns: at least one byte, `HTTPD_SOCK_ERR_TIMEOUT`,
0 when the peer has closed, or another error. -/
inductive RecvResult where
  | bytes (first : UInt8) (rest : List UInt8)
  | timeout
  | closed
  | error
deriving DecidableEq, Repr

/-- The bytes of a result. -/
def RecvResult.chunk : RecvResult → List UInt8
  | bytes first rest => first :: rest
  | timeout | closed | error => []

/-- `recv_body` at the head of its loop, or behind its `return`; `fault` is a
store outside the buffer. -/
inductive RecvState where
  | receiving (buf : List UInt8) (total : Nat)
  | returned (result : Int) (buf : List UInt8)
  | fault
deriving DecidableEq, Repr

/-- `want`. -/
def recvWant (contentLen size : Nat) : Nat :=
  if contentLen > size - 1 then size - 1 else contentLen

/-- What the loop does with a result. -/
def recvTake (want : Nat) (buf : List UInt8) (total : Nat) :
    RecvResult → RecvState
  | .timeout => .receiving buf total
  | .closed | .error => .returned (-1) buf
  | .bytes first rest =>
    let data := (first :: rest).take (want - total)
    (store buf total data).elim .fault
      fun buf => .receiving buf (total + data.length)

/-- One round of the loop, with what `httpd_req_recv` would return. -/
def recvRound (want : Nat) (r : RecvResult) : RecvState → RecvState
  | .receiving buf total =>
    if total < want then recvTake want buf total r
    else (store buf total [0]).elim .fault fun buf => .returned total buf
  | .returned result buf => .returned result buf
  | .fault => .fault

/-- `recv_body` after some rounds. -/
def recvAfter (results : Nat → RecvResult) (contentLen : Nat)
    (buf : List UInt8) : Nat → RecvState
  | 0 => .receiving buf 0
  | k + 1 =>
    recvRound (recvWant contentLen buf.length) (results k)
      (recvAfter results contentLen buf k)

/-- It returns. -/
def RecvReturns (results : Nat → RecvResult) (contentLen : Nat)
    (buf : List UInt8) : Prop :=
  ∃ k result out, recvAfter results contentLen buf k = .returned result out

/-! ## Where the loop ends -/

/-- The result ends the loop if it is asked for. -/
def RecvResult.Fails (r : RecvResult) : Prop := r = .closed ∨ r = .error

section Rounds

variable (results : Nat → RecvResult)

/-- The bytes that were sent, result by result. -/
def chunks (k : Nat) : List UInt8 := (results k).chunk

/-- What the first results leave of a body of which `want` bytes are wanted. -/
def received (want k : Nat) : List UInt8 :=
  (fed (chunks results) k).take want

/-- The loop comes to its end in round `k`, if it has not before. -/
def EndsIn (want k : Nat) : Prop :=
  want ≤ (fed (chunks results) k).length ∨ (results k).Fails

/-- While the loop goes on, the buffer begins with what was received. -/
def Receives (size want k : Nat) (state : RecvState) : Prop :=
  ∃ out, state = .receiving out (received results want k).length ∧
    Holds size (received results want k) out

/-- What the loop leaves when it ends in round `k`: a body with its NUL, or
what had been received when the server reported a failure. -/
def Returns (size want k : Nat) (state : RecvState) : Prop :=
  ∃ result out, state = .returned result out ∧
    ((result = want ∧ want ≤ (fed (chunks results) k).length ∧
        Holds size (received results want k ++ [0]) out) ∨
      (result = -1 ∧ (fed (chunks results) k).length < want ∧
        (results k).Fails ∧ Holds size (received results want k) out))

variable {results} {size want k : Nat} {state : RecvState}

theorem received_length_le : (received results want k).length ≤ want := by
  rw [received, List.length_take]
  exact Nat.min_le_left _ _

theorem received_of_missing
    (missing : (fed (chunks results) k).length < want) :
    received results want k = fed (chunks results) k :=
  List.take_of_length_le missing.le

theorem received_succ
    (missing : (fed (chunks results) k).length < want) :
    received results want (k + 1) =
      received results want k ++
        (results k).chunk.take
          (want - (received results want k).length) := by
  rw [received_of_missing missing]
  rw [received, Chunks.take_fed_succ, List.take_of_length_le missing.le]
  rfl

/-- A round in which the loop does not end. -/
theorem Receives.next (receives : Receives results size want k state)
    (fits : want + 1 ≤ size) (goesOn : ¬ EndsIn results want k) :
    Receives results size want (k + 1) (recvRound want (results k) state) := by
  obtain ⟨out, rfl, holds⟩ := receives
  obtain ⟨missing, noFailure⟩ := not_or.mp goesOn
  have missing := Nat.lt_of_not_le missing
  have next := received_succ missing
  have bound : (received results want (k + 1)).length ≤ want :=
    received_length_le
  have below : (received results want k).length < want := by
    rwa [received_of_missing missing]
  rw [recvRound, if_pos below]
  cases result : results k with
  | timeout =>
      have same : received results want (k + 1) = received results want k := by
        rw [next, result, RecvResult.chunk, List.take_nil, List.append_nil]
      rw [Receives, same]
      exact ⟨out, rfl, holds⟩
  | closed => exact absurd (Or.inl result) noFailure
  | error => exact absurd (Or.inr result) noFailure
  | bytes first rest =>
      rw [result, RecvResult.chunk] at next
      rw [next, List.length_append] at bound
      obtain ⟨out', stored, holds'⟩ := holds.store _ (bound.trans (by omega))
      refine ⟨out', ?_, ?_⟩
      · rw [recvTake, stored, Option.elim_some, next, List.length_append]
      · rw [next]
        exact holds'

/-- The round in which the loop ends. -/
theorem Receives.ends (receives : Receives results size want k state)
    (fits : want + 1 ≤ size) (ends : EndsIn results want k) :
    Returns results size want k (recvRound want (results k) state) := by
  obtain ⟨out, rfl, holds⟩ := receives
  by_cases missing : (fed (chunks results) k).length < want
  · have failed : (results k).Fails :=
      ends.resolve_left (Nat.not_le.mpr missing)
    have below : (received results want k).length < want := by
      rwa [received_of_missing missing]
    rw [recvRound, if_pos below]
    refine ⟨-1, out, ?_, Or.inr ⟨rfl, missing, failed, holds⟩⟩
    rcases failed with closed | error
    · rw [closed]
      rfl
    · rw [error]
      rfl
  · have enough := Nat.le_of_not_lt missing
    have whole : (received results want k).length = want := by
      rw [received, List.length_take, Nat.min_eq_left enough]
    obtain ⟨out', stored, holds'⟩ := holds.store [0] (by rw [whole]; exact fits)
    refine ⟨want, out', ?_, Or.inl ⟨rfl, enough, holds'⟩⟩
    rw [recvRound, if_neg (by omega), stored, whole]
    rfl

end Rounds

/-! ## The whole loop -/

section Loop

variable {results : Nat → RecvResult} {contentLen : Nat} {buf : List UInt8}

theorem recvWant_fits (contentLen : Nat) {size : Nat} (positive : 0 < size) :
    recvWant contentLen size + 1 ≤ size := by
  rw [recvWant]
  split_ifs <;> omega

/-- Until it ends, the loop receives. -/
theorem recvAfter_receives (present : buf ≠ []) {k : Nat}
    (goesOn : ∀ j < k,
      ¬ EndsIn results (recvWant contentLen buf.length) j) :
    Receives results buf.length (recvWant contentLen buf.length) k
      (recvAfter results contentLen buf k) := by
  have fits := recvWant_fits contentLen (List.length_pos_iff.mpr present)
  induction k with
  | zero =>
      have nothing :
          received results (recvWant contentLen buf.length) 0 = [] :=
        List.take_nil
      rw [Receives, nothing]
      exact ⟨buf, rfl, rfl, List.nil_prefix⟩
  | succ k inductionHypothesis =>
      have before := inductionHypothesis
        fun j earlier => goesOn j (Nat.lt_succ_of_lt earlier)
      exact before.next fits (goesOn k (Nat.lt_succ_self k))

theorem recvAfter_stays {k j : Nat} {result : Int} {out : List UInt8}
    (returned : recvAfter results contentLen buf k = .returned result out)
    (later : k ≤ j) :
    recvAfter results contentLen buf j = .returned result out := by
  induction later with
  | refl => exact returned
  | step _ inductionHypothesis =>
      rw [recvAfter, inductionHypothesis]
      rfl

/-- The first round in which the loop ends decides what it returns. -/
theorem recvAfter_returns (present : buf ≠ []) {k : Nat}
    (goesOn : ∀ j < k, ¬ EndsIn results (recvWant contentLen buf.length) j)
    (ends : EndsIn results (recvWant contentLen buf.length) k) :
    Returns results buf.length (recvWant contentLen buf.length) k
      (recvAfter results contentLen buf (k + 1)) :=
  (recvAfter_receives present goesOn).ends
    (recvWant_fits contentLen (List.length_pos_iff.mpr present)) ends

/-- The loop receives, or has returned in the first round in which it ends. -/
theorem recvAfter_cases (present : buf ≠ []) (k : Nat) :
    Receives results buf.length (recvWant contentLen buf.length) k
        (recvAfter results contentLen buf k) ∨
      ∃ j, EndsIn results (recvWant contentLen buf.length) j ∧
        Returns results buf.length (recvWant contentLen buf.length) j
          (recvAfter results contentLen buf k) := by
  by_cases ends : ∃ j, EndsIn results (recvWant contentLen buf.length) j ∧ j < k
  · right
    classical
    obtain ⟨endsHere, within⟩ := Nat.find_spec ends
    have goesOn : ∀ j < Nat.find ends,
        ¬ EndsIn results (recvWant contentLen buf.length) j :=
      fun j earlier endsIn =>
        Nat.find_min ends earlier ⟨endsIn, earlier.trans within⟩
    obtain ⟨result, out, returned, facts⟩ :=
      recvAfter_returns present goesOn endsHere
    exact
      ⟨Nat.find ends, endsHere, result, out, recvAfter_stays returned within,
        facts⟩
  · left
    exact recvAfter_receives present
      fun j earlier endsIn => ends ⟨j, endsIn, earlier⟩

theorem returns_iff_ends (present : buf ≠ []) :
    RecvReturns results contentLen buf ↔
      ∃ k, EndsIn results (recvWant contentLen buf.length) k := by
  constructor
  · rintro ⟨k, result, out, returned⟩
    rcases recvAfter_cases present k with ⟨_, receiving, _⟩ | ⟨j, ends, _⟩
    · rw [returned] at receiving
      cases receiving
    · exact ⟨j, ends⟩
  · intro ends
    classical
    have goesOn : ∀ j < Nat.find ends,
        ¬ EndsIn results (recvWant contentLen buf.length) j :=
      fun j earlier => Nat.find_min ends earlier
    obtain ⟨result, out, returned, _⟩ :=
      recvAfter_returns present goesOn (Nat.find_spec ends)
    exact ⟨Nat.find ends + 1, result, out, returned⟩

end Loop

/-! ## When it returns -/

/-- From some call on the server reports nothing but timeouts, with bytes of the
body missing, and it has reported no failure before. -/
structure Silent (results : Nat → RecvResult) (want first : Nat) : Prop where
  missing : (fed (chunks results) first).length < want
  timeouts : ∀ k, first ≤ k → results k = .timeout
  noFailure : ∀ k < first, ¬ (results k).Fails

theorem ends_iff_not_silent (results : Nat → RecvResult) (want : Nat) :
    (∃ k, EndsIn results want k) ↔ ¬ ∃ first, Silent results want first := by
  constructor
  · rintro ⟨k, ends⟩ ⟨first, silent⟩
    have starves : Chunks.Starves (chunks results) want := by
      refine ⟨first, silent.missing, ?_⟩
      intro j later
      rw [chunks, silent.timeouts j later]
      rfl
    rcases ends with enough | failed
    · exact Chunks.fills_iff.mp ⟨k, enough⟩ starves
    · rcases Nat.lt_or_ge k first with before | later
      · exact silent.noFailure k before failed
      · rw [silent.timeouts k later] at failed
        rcases failed with closed | error
        · cases closed
        · cases error
  · intro talks
    by_contra never
    have goesOn : ∀ k, ¬ EndsIn results want k := fun k ends => never ⟨k, ends⟩
    have noFailure : ∀ k, ¬ (results k).Fails :=
      fun k failed => goesOn k (Or.inr failed)
    have starves : Chunks.Starves (chunks results) want := by
      by_contra fills
      obtain ⟨k, enough⟩ := Chunks.fills_iff.mpr fills
      exact goesOn k (Or.inl enough)
    obtain ⟨first, missing, empty⟩ := starves
    apply talks
    refine ⟨first, missing, ?_, fun k _ => noFailure k⟩
    intro k later
    have nothing := empty k later
    cases result : results k with
    | timeout => rfl
    | closed => exact absurd (Or.inl result) (noFailure k)
    | error => exact absurd (Or.inr result) (noFailure k)
    | bytes first rest =>
        rw [chunks, result] at nothing
        cases nothing

/-- `recv_body` returns unless the peer falls silent with bytes missing.  It
never stores outside its buffer; what it returns is the length of a body that
is in the buffer with a NUL behind it, or -1 after a failure. -/
theorem recvBody_returns_iff (results : Nat → RecvResult) (contentLen : Nat)
    {buf : List UInt8} (present : buf ≠ []) :
    (RecvReturns results contentLen buf ↔
        ¬ ∃ first, Silent results (recvWant contentLen buf.length) first) ∧
      (∀ k, recvAfter results contentLen buf k ≠ .fault) ∧
      ∀ k result out,
        recvAfter results contentLen buf k = .returned result out →
          ∃ j text, text = received results (recvWant contentLen buf.length) j ∧
            text.length ≤ buf.length - 1 ∧
            ((result = text.length ∧ Holds buf.length (text ++ [0]) out) ∨
              (result = -1 ∧ (results j).Fails ∧
                Holds buf.length text out)) := by
  refine ⟨?_, ?_, ?_⟩
  · rw [returns_iff_ends present, ends_iff_not_silent]
  · intro k fault
    rcases recvAfter_cases present k with
      ⟨_, receiving, _⟩ | ⟨_, _, _, _, returned, _⟩
    · rw [receiving] at fault
      cases fault
    · rw [returned] at fault
      cases fault
  · intro k result out returned
    rcases recvAfter_cases present k with
      ⟨_, receiving, _⟩ | ⟨j, _, result', out', same, facts⟩
    · rw [returned] at receiving
      cases receiving
    · rw [returned] at same
      cases same
      refine ⟨j, _, rfl, ?_, ?_⟩
      · have fits := recvWant_fits contentLen (List.length_pos_iff.mpr present)
        exact received_length_le.trans (Nat.le_sub_of_add_le fits)
      · rcases facts with ⟨isWant, enough, holds⟩ | ⟨failure, _, failed⟩
        · left
          refine ⟨?_, holds⟩
          rw [isWant, received, List.length_take, Nat.min_eq_left enough]
        · exact Or.inr ⟨failure, failed⟩

/-- However a body comes in, what is received of it is what `recvBody` says. -/
theorem recvAfter_recvBody {results : Nat → RecvResult} {buf : List UInt8}
    (present : buf ≠ []) {sent : Nat}
    (noFailure : ∀ k < sent, ¬ (results k).Fails) :
    ∃ k text out,
      recvBody true (fed (chunks results) sent) buf.length = some text ∧
        recvAfter results (fed (chunks results) sent).length buf k =
          .returned text.length out ∧
        Holds buf.length (text ++ [0]) out := by
  have small : recvWant (fed (chunks results) sent).length buf.length ≤
      (fed (chunks results) sent).length := by
    rw [recvWant]
    split_ifs <;> omega
  have ends : ∃ k, EndsIn results
      (recvWant (fed (chunks results) sent).length buf.length) k :=
    ⟨sent, Or.inl small⟩
  classical
  have within : Nat.find ends ≤ sent := Nat.find_min' ends (Or.inl small)
  have goesOn : ∀ j < Nat.find ends, ¬ EndsIn results
      (recvWant (fed (chunks results) sent).length buf.length) j :=
    fun j earlier => Nat.find_min ends earlier
  have enough : recvWant (fed (chunks results) sent).length buf.length ≤
      (fed (chunks results) (Nat.find ends)).length := by
    rcases Nat.find_spec ends with enough | failed
    · exact enough
    · rcases Nat.lt_or_eq_of_le within with before | last
      · exact absurd failed (noFailure _ before)
      · rwa [last]
  obtain ⟨result, out, returned, ⟨isWant, _, holds⟩ | ⟨_, missing, _⟩⟩ :=
    recvAfter_returns present goesOn (Nat.find_spec ends)
  · refine ⟨Nat.find ends + 1, _, out, ?_, ?_, holds⟩
    · rw [received, ← Chunks.take_fed_of_le within enough, recvBody, if_pos rfl,
        recvWant]
      split_ifs with long
      · rfl
      · rw [List.take_of_length_le le_rfl, List.take_of_length_le (by omega)]
    · rw [returned, isWant, received, List.length_take,
        Nat.min_eq_left enough]
  · exact absurd enough (Nat.not_le.mpr missing)

/-- The peer sends its two bytes with a timeout between them. -/
def slowPeer : Nat → RecvResult
  | 0 => .bytes 97 []
  | 1 => .timeout
  | _ => .bytes 98 []

theorem recvBody_returns_slow : RecvReturns slowPeer 2 [0, 0, 0, 0] := by
  refine (recvBody_returns_iff slowPeer 2 (by decide)).1.mpr ?_
  rintro ⟨first, silent⟩
  have timeout := silent.timeouts (first + 2) (Nat.le_add_right first 2)
  cases timeout

/-- A peer that declares a body and then says nothing is waited for. -/
theorem silent_peer_waited_for :
    ¬ ∀ (results : Nat → RecvResult) (contentLen : Nat) (buf : List UInt8),
      buf ≠ [] → RecvReturns results contentLen buf := by
  intro always
  obtain ⟨k, result, out, returned⟩ :=
    always (fun _ => .timeout) 5 [0, 0] (by decide)
  have waits : ∀ k,
      recvAfter (fun _ => .timeout) 5 [0, 0] k = .receiving [0, 0] 0 := by
    intro k
    induction k with
    | zero => rfl
    | succ k inductionHypothesis =>
        rw [recvAfter, inductionHypothesis]
        rfl
  rw [waits k] at returned
  cases returned

end VeteraBridge.Web

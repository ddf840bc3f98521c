import VeteraBridge.Proxy.RewriteLines
import VeteraBridge.Proxy.Session

/-!
# One head, one Connection header

What the proxy reads in a rewritten head: it ends at the first empty line, and
the proxy closes the connection after it if its one Connection header says so.
A rewritten head is split here at each CR LF; `http_rewrite` has split what it
is made of at each CR.
-/

namespace VeteraBridge.Proxy

open CrlfLines

/-- A Connection header, blanks before the colon aside. -/
def isConnection (line : List UInt8) : Bool :=
  match memchr line 58 with
  | some c => nameIs ((line.take c).rdropWhile isBlank) (ascii "connection")
  | none => false

/-- The head ends in its first empty line, and in the header section before it
there is one Connection header, which closes the connection. -/
structure OneHead (out : List UInt8) : Prop where
  ends : findCrlf2 out = some (out.length - 4)
  closes :
    (lines cr lf (out.take (out.length - 4))).tail.filter isConnection =
      [closeLine]

/-- The pieces of the head that begin a line of what is written, its Connection
header among them. -/
def beginning (head : List UInt8) (le : Nat) : List (Piece UInt8) :=
  begun cr lf
    (([], head.getD (le + 1) 0) :: keptPieces head le ++ [(closeLine, lf)])

/-- Where the pieces that are copied begin a line, they are neither an empty
line nor a Connection header, but for the one that is added. -/
def StaysOneHead (head : List UInt8) : Prop :=
  ∃ le, memchr head cr = some le ∧ ([], lf) ∉ beginning head le ∧
    (beginning head le).filter (isConnection ·.1) = [(closeLine, lf)]

/-! ## The empty line -/

/-- An empty first line. -/
theorem nil_mem_lines_iff (text : List UInt8) :
    [] ∈ lines cr lf text ↔
      (text = [] ∨ text.take 2 = [cr, lf]) ∨ [] ∈ (lines cr lf text).tail := by
  have first :
      (lines cr lf text).head? = some [] ↔
        text = [] ∨ text.take 2 = [cr, lf] := by
    rcases text with _ | ⟨c, _ | ⟨d, rest⟩⟩
    · simp [lines]
    · simp [lines]
    · rw [lines]
      split
      · next ends => simp [ends.1, ends.2]
      · next goesOn =>
        refine iff_of_false ?_ (by simpa using goesOn)
        cases lines cr lf (d :: rest) with
        | nil => simp [attach]
        | cons line others => simp [attach]
  cases others : lines cr lf text with
  | nil => exact absurd others (lines_ne_nil text)
  | cons line others' =>
      rw [others, List.head?_cons, Option.some.injEq] at first
      rw [List.mem_cons, List.tail_cons, ← first, eq_comm]

theorem findCrlf2_cons {b : UInt8} {rest : List UInt8}
    (elsewhere : (b :: rest).take 4 ≠ crlf2) (k : Nat) :
    findCrlf2 (b :: rest) = some (k + 1) ↔ findCrlf2 rest = some k := by
  rw [findCrlf2, if_neg elsewhere, Option.map_eq_some_iff]
  constructor
  · rintro ⟨found, isFound, same⟩
    rw [isFound, Nat.add_right_cancel same]
  · exact fun isFound => ⟨k, isFound, rfl⟩

/-- The first empty line is the last iff the section before it has none. -/
theorem findCrlf2_append_iff (text : List UInt8) :
    findCrlf2 (text ++ crlf2) = some text.length ↔
      [] ∉ (lines cr lf text).tail := by
  induction text using lines.induct cr lf with
  | case1 => decide
  | case2 c =>
      have elsewhere : ([c] ++ crlf2).take 4 ≠ crlf2 := by
        simp [crlf2, cr, lf]
      refine iff_of_true ((findCrlf2_cons elsewhere 0).mpr (by decide)) ?_
      simp [lines]
  | case3 c d rest ends inductionHypothesis =>
      obtain ⟨rfl, rfl⟩ := ends
      rw [lines_crlf, List.tail_cons, nil_mem_lines_iff, not_or,
        ← inductionHypothesis]
      by_cases empty : rest = [] ∨ rest.take 2 = [cr, lf]
      · refine iff_of_false ?_ (fun both => both.1 empty)
        have here : (cr :: lf :: (rest ++ crlf2)).take 4 = crlf2 := by
          rcases empty with rfl | starts
          · decide
          · have long := congrArg List.length starts
            rw [List.length_take] at long
            change min 2 rest.length = 2 at long
            rw [List.take_succ_cons, List.take_succ_cons,
              List.take_append_of_le_length (by omega), starts]
            rfl
        rw [List.cons_append, List.cons_append, findCrlf2, if_pos here]
        simp
      · have elsewhere : (cr :: lf :: (rest ++ crlf2)).take 4 ≠ crlf2 := by
          rcases rest with _ | ⟨a, _ | ⟨b, rest⟩⟩
          · exact absurd (Or.inl rfl) empty
          · simp [crlf2, cr, lf]
          · intro same
            apply empty
            simp only [List.cons_append, List.take_succ_cons, List.take_zero,
              crlf2, List.cons.injEq, and_true, true_and] at same
            exact Or.inr (by simp [same.1, same.2])
        have notLf : (lf :: (rest ++ crlf2)).take 4 ≠ crlf2 := by
          simp [crlf2, cr, lf]
        rw [List.cons_append, List.cons_append, List.length_cons,
          List.length_cons, findCrlf2_cons elsewhere, findCrlf2_cons notLf]
        exact (and_iff_right empty).symm
  | case4 c d rest goesOn inductionHypothesis =>
      have elsewhere : (c :: (d :: rest ++ crlf2)).take 4 ≠ crlf2 := by
        intro same
        apply goesOn
        simp only [List.cons_append, List.take_succ_cons, crlf2,
          List.cons.injEq] at same
        exact ⟨same.1, same.2.1⟩
      rw [lines, if_neg goesOn, attach_tail, ← inductionHypothesis,
        List.cons_append, List.length_cons, findCrlf2_cons elsewhere]

theorem findCrlf2_here {s : List UInt8} {e : Nat}
    (found : findCrlf2 s = some e) : (s.drop e).take 4 = crlf2 := by
  induction s generalizing e with
  | nil => cases found
  | cons b rest inductionHypothesis =>
      rw [findCrlf2] at found
      split at found
      · next here =>
        cases found
        exact here
      · obtain ⟨e, foundLater, rfl⟩ := Option.map_eq_some_iff.mp found
        exact inductionHypothesis foundLater

/-- What `head_ready` hands over ends in its first empty line. -/
theorem findCrlf2_take {s : List UInt8} {e : Nat}
    (found : findCrlf2 s = some e) : findCrlf2 (s.take (e + 4)) = some e := by
  induction s generalizing e with
  | nil => cases found
  | cons b rest inductionHypothesis =>
      by_cases here : (b :: rest).take 4 = crlf2
      · rw [findCrlf2, if_pos here] at found
        cases found
        rw [Nat.zero_add, here]
        decide
      · obtain ⟨e, rfl⟩ : ∃ before, e = before + 1 := by
          rw [findCrlf2, if_neg here] at found
          obtain ⟨before, _, rfl⟩ := Option.map_eq_some_iff.mp found
          exact ⟨before, rfl⟩
        have later := (findCrlf2_cons here e).mp found
        have elsewhere : (b :: rest.take (e + 4)).take 4 ≠ crlf2 := by
          rwa [List.take_succ_cons, List.take_take, min_eq_left (by omega),
            ← List.take_succ_cons]
        rw [show e + 1 + 4 = e + 4 + 1 by omega, List.take_succ_cons,
          findCrlf2_cons elsewhere]
        exact inductionHypothesis later

/-- A head that ends in its first empty line. -/
theorem head_ends {head : List UInt8}
    (ends : findCrlf2 head = some (head.length - 4)) :
    4 ≤ head.length ∧ head[head.length - 4]? = some cr ∧
      head[head.length - 2]? = some cr := by
  have four := findCrlf2_le ends
  have here := findCrlf2_here ends
  have byteAt (i : Nat) (inside : i < 4) :
      head[head.length - 4 + i]? = crlf2[i]? := by
    rw [← here, List.getElem?_take, if_pos inside, List.getElem?_drop]
  refine ⟨by omega, byteAt 0 (by decide), ?_⟩
  have last := byteAt 2 (by decide)
  rwa [show head.length - 4 + 2 = head.length - 2 by omega] at last

/-! ## The Connection headers -/

theorem nameIs_plain {s name : List UInt8} (same : nameIs s name = true)
    (plain : tolower cr ∉ name.map tolower) : cr ∉ s := by
  unfold nameIs at same
  rw [Bool.and_eq_true, beq_iff_eq, beq_iff_eq] at same
  intro member
  exact plain (same.2 ▸ List.mem_map_of_mem member)

/-- The name of a header lies before the first CR of its line. -/
theorem isConnection_append (text rest : List UInt8) :
    isConnection (text ++ cr :: rest) = isConnection text := by
  unfold isConnection
  cases found : memchr text 58 with
  | some c =>
      have inText := memchr_lt found
      have foundAgain : memchr (text ++ cr :: rest) 58 = some c := by
        rw [memchr_eq_some_iff] at found ⊢
        rwa [List.take_append_of_le_length inText.le,
          List.getElem?_append_left inText]
      rw [foundAgain]
      dsimp only
      rw [List.take_append_of_le_length inText.le]
  | none =>
      cases foundLater : memchr (text ++ cr :: rest) 58 with
      | none => rfl
      | some c =>
          obtain ⟨_, here⟩ := memchr_eq_some_iff.mp foundLater
          have behind : text.length < c := by
            by_contra before
            rcases Nat.lt_or_eq_of_le (not_lt.mp before) with inText | same
            · rw [List.getElem?_append_left inText] at here
              exact memchr_eq_none_iff.mp found (List.mem_of_getElem? here)
            · rw [same] at here
              simp [cr] at here
          -- a name with a CR in it, which is not a blank, is no other name
          rw [Bool.eq_false_iff]
          intro isName
          refine nameIs_plain isName (by decide) ?_
          have inName : cr ∈ (text ++ cr :: rest).take c := by
            rw [List.take_append, List.mem_append]
            obtain ⟨more, rfl⟩ := Nat.exists_eq_add_of_lt behind
            right
            rw [show text.length + more + 1 - text.length = more + 1 by omega]
            exact List.mem_cons_self
          have split :
              ((text ++ cr :: rest).take c).rdropWhile isBlank ++
                  ((text ++ cr :: rest).take c).rtakeWhile isBlank =
                (text ++ cr :: rest).take c := List.rdropWhile_append_rtakeWhile
          rw [← split, List.mem_append] at inName
          rcases inName with kept | blank
          · exact kept
          · exact absurd (List.mem_rtakeWhile_imp blank) (by decide)

/-! ## What the proxy reads -/

theorem tail_eq :
    tail = join cr [(closeLine, lf)] ++ proxyCloseLine ++ crlf2 := by
  decide

variable {head out host : List UInt8} {origIp : UInt32} {cap hostN : Nat}

/-- The header section of what is written, in pieces. -/
theorem httpRewrite_section (ends : findCrlf2 head = some (head.length - 4))
    (written : httpRewrite head origIp cap hostN = some (out, host)) :
    ∃ le request, memchr head cr = some le ∧
      request.2 = head.getD (le + 1) 0 ∧
      (∀ piece ∈ request :: keptPieces head le ++ [(closeLine, lf)],
        cr ∉ piece.1) ∧
      out =
        join cr (request :: keptPieces head le ++ [(closeLine, lf)]) ++
          proxyCloseLine ++ crlf2 := by
  obtain ⟨le, target, isLine, rfl, rfl, _⟩ :=
    httpRewrite_eq_some_iff.mp written
  obtain ⟨four, firstCr, lastCr⟩ := head_ends ends
  obtain ⟨plainLine, here, _⟩ := requestLine_spec isLine
  have early : le ≤ head.length - 4 := by
    by_contra late
    have member : cr ∈ head.take le := by
      obtain ⟨inside, isCr⟩ := List.getElem?_eq_some_iff.mp firstCr
      exact List.mem_take_iff_getElem.mpr ⟨head.length - 4, by omega, isCr⟩
    exact plainLine member
  refine ⟨le, requestPiece head le target (requestHost head le origIp hostN),
    memchr_eq_some_iff.mpr ⟨plainLine, here⟩, rfl, ?_, ?_⟩
  · intro piece member
    rw [List.cons_append, List.mem_cons, List.mem_append,
      List.mem_singleton] at member
    rcases member with rfl | kept | rfl
    · exact requestPiece_plain isLine (cr_not_mem_requestHost _ _ _ _)
    · exact keptPieces_plain (by omega) lastCr kept
    · decide
  · rw [rewritten_eq_join (by omega) lastCr isLine, tail_eq]
    simp [join]

/-- The rewritten head is one head that closes the connection exactly when no
stray end of a line and no blank before a colon makes the proxy's lines other
than those of `http_rewrite`. -/
theorem one_head_iff (ends : findCrlf2 head = some (head.length - 4))
    (written : httpRewrite head origIp cap hostN = some (out, host)) :
    OneHead out ↔ StaysOneHead head := by
  obtain ⟨le, request, isLine, last, plain, rfl⟩ :=
    httpRewrite_section ends written
  have same :
      List.Forall₂ (CrlfLines.Continues cr lf)
        (lines cr lf
          (join cr (request :: keptPieces head le ++ [(closeLine, lf)]) ++
            proxyCloseLine)).tail
        (beginning head le ++ [(proxyCloseLine, lf)]) := by
    have start :
        begun cr lf (request :: keptPieces head le ++ [(closeLine, lf)]) =
          beginning head le := begun_cons last _
    have snoc :
        begun cr lf
            (request :: (keptPieces head le ++ [(closeLine, lf)]) ++
              [(proxyCloseLine, lf)]) =
          beginning head le ++ [(proxyCloseLine, lf)] := by
      rw [List.cons_append, List.append_assoc, List.singleton_append]
      refine (begun_snoc (request :: keptPieces head le) _ _).trans ?_
      rw [start]
      rfl
    rw [← snoc]
    exact lines_begun (by decide) request
      (keptPieces head le ++ [(closeLine, lf)]) plain (by decide)
  generalize joined :
    join cr (request :: keptPieces head le ++ [(closeLine, lf)]) ++
      proxyCloseLine = written at same
  have length : (written ++ crlf2).length - 4 = written.length := by
    rw [List.length_append]
    exact Nat.add_sub_cancel _ 4
  have empty := empty_mem_iff same
  have closes := eq_singleton_iff (filter_begun same isConnection_append)
    (by decide : cr ∉ closeLine)
  have notEmpty : (([], lf) : Piece UInt8) ∉ [(proxyCloseLine, lf)] := by decide
  have notConnection : isConnection proxyCloseLine = false := by decide
  rw [List.mem_append, or_iff_left notEmpty] at empty
  rw [List.filter_append, List.filter_singleton, notConnection] at closes
  simp only [Bool.cond_false, List.append_nil] at closes
  have section_ : (written ++ crlf2).take written.length = written :=
    List.take_left
  constructor
  · intro one
    have isEnd := one.ends
    have isClose := one.closes
    rw [length] at isEnd isClose
    rw [section_] at isClose
    exact ⟨le, isLine, fun begins =>
      (findCrlf2_append_iff written).mp isEnd (empty.mpr begins),
      closes.mp isClose⟩
  · rintro ⟨le', isLine', noEmpty, isClose⟩
    cases isLine.symm.trans isLine'
    refine ⟨?_, ?_⟩
    · rw [length, findCrlf2_append_iff]
      exact fun found => noEmpty (empty.mp found)
    · rw [length, section_]
      exact closes.mpr isClose

/-- The same for what `head_ready` hands over, the phone's bytes up to their
first empty line. -/
theorem phone_head_one_iff {up : List UInt8} {e : Nat}
    (found : findCrlf2 up = some e)
    (written :
      httpRewrite (up.take (e + 4)) origIp cap hostSz = some (out, host)) :
    OneHead out ↔ StaysOneHead (up.take (e + 4)) := by
  refine one_head_iff ?_ written
  have inside := findCrlf2_le found
  rw [findCrlf2_take found, List.length_take, min_eq_left inside,
    Nat.add_sub_cancel]

def plainUp : List UInt8 :=
  ascii "POST / HTTP/1.1\r\nHost: a\r\nConnection: x\r\n\r\nbody"

theorem phone_head_one_post :
    findCrlf2 plainUp = some 39 ∧
      ∃ out host,
        httpRewrite (plainUp.take 43) 0 upCap hostSz = some (out, host) ∧
          StaysOneHead (plainUp.take 43) ∧ OneHead out := by
  have found : findCrlf2 plainUp = some 39 := by decide +kernel
  obtain ⟨⟨out, host⟩, written⟩ :
      ∃ result, httpRewrite (plainUp.take 43) 0 upCap hostSz = some result :=
    Option.isSome_iff_exists.mp (by decide +kernel)
  have stays : StaysOneHead (plainUp.take 43) :=
    ⟨15, by decide +kernel, by decide +kernel, by decide +kernel⟩
  exact ⟨found, out, host, written, stays,
    (phone_head_one_iff found written).mpr stays⟩

def keepAliveHead : List UInt8 :=
  ascii "GET / HTTP/1.1\r\nHost: a\r\nConnection : keep-alive\r\n\r\n"

/-- A head with a blank before the colon keeps its Connection header. -/
theorem blank_before_colon :
    findCrlf2 keepAliveHead = some (keepAliveHead.length - 4) ∧
      ∃ out host,
        httpRewrite keepAliveHead 0 upCap hostSz = some (out, host) ∧
          (lines cr lf (out.take (out.length - 4))).tail.filter isConnection =
            [ascii "Connection : keep-alive", closeLine] ∧
          ¬ OneHead out := by
  have ends : findCrlf2 keepAliveHead = some (keepAliveHead.length - 4) := by
    decide +kernel
  obtain ⟨⟨out, host⟩, written⟩ :
      ∃ result, httpRewrite keepAliveHead 0 upCap hostSz = some result :=
    Option.isSome_iff_exists.mp (by decide +kernel)
  have headers :
      (httpRewrite keepAliveHead 0 upCap hostSz).map
          (fun result =>
            (lines cr lf (result.1.take (result.1.length - 4))).tail.filter
              isConnection) =
        some [ascii "Connection : keep-alive", closeLine] := by
    decide +kernel
  rw [written, Option.map_some, Option.some.injEq] at headers
  refine ⟨ends, out, host, written, headers, fun one => ?_⟩
  rw [one.closes] at headers
  revert headers
  decide

end VeteraBridge.Proxy

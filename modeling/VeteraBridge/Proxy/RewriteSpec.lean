import VeteraBridge.Proxy.SingleHead

/-!
# The rewritten head, header by header

A request head whose lines end in CR LF is what `RequestHead` says it is, and
`http_rewrite` makes of it the head of a proxy request: the target in absolute
form, the headers of connection management left out, and the connection closed.
-/

namespace VeteraBridge.Proxy

open ByteWords
open CrlfLines (Clean Piece join lines)

def crlf : List UInt8 := [cr, lf]

/-- A request head: `METHOD SP TARGET SP REST` and the header lines, none of
them empty. -/
structure RequestHead where
  method : List UInt8
  target : List UInt8
  rest : List UInt8
  headers : List (List UInt8)
  methodPlain : cr ∉ method ∧ space ∉ method
  targetPlain : cr ∉ target ∧ space ∉ target
  targetPresent : target ≠ []
  restPlain : cr ∉ rest
  headersPlain : ∀ line ∈ headers, cr ∉ line ∧ line ≠ []

/-- The value of a Host header, without the blanks around it. -/
def hostValue (line : List UInt8) : Option (List UInt8) :=
  (memchr line 58).bind fun c =>
    if nameIs (line.take c) (ascii "host") then
      some (trimBlanks (line.drop (c + 1)))
    else none

namespace RequestHead

def requestLine (h : RequestHead) : List UInt8 :=
  h.method ++ space :: h.target ++ space :: h.rest

/-- The head as the phone sends it. -/
def bytes (h : RequestHead) : List UInt8 :=
  h.requestLine ++ crlf ++ h.headers.flatMap (· ++ crlf) ++ crlf

/-- The last Host header whose value is shorter than the buffer. -/
def lastHost (h : RequestHead) (hostN : Nat) : Option (List UInt8) :=
  ((h.headers.filterMap hostValue).filter (·.length < hostN)).getLast?

/-- That value up to its first NUL, if it is a host, and otherwise the
address. -/
def host (h : RequestHead) (origIp : UInt32) (hostN : Nat) : List UInt8 :=
  (((h.lastHost hostN).map cstr).filter hostOk).getD (ip4addrNtoa origIp)

/-- The head of the proxy request. -/
def proxied (h : RequestHead) (host : List UInt8) : List UInt8 :=
  h.method ++ space ::
      authority (h.target.head? == some 47) host ++
      h.target ++ space :: h.rest ++ crlf ++
    (h.headers.filter fun line => !isManaged line).flatMap (· ++ crlf) ++
    (closeLine ++ crlf ++ proxyCloseLine ++ crlf ++ crlf)

end RequestHead

theorem join_lf (texts : List (List UInt8)) :
    join cr (texts.map (·, lf)) = texts.flatMap (· ++ crlf) := by
  rw [join, List.flatMap_map]
  rfl

/-! ## The host -/

/-- A line of the first pass, by its text. -/
theorem hostLine_eq (head : List UInt8) (hostN : Nat) (host : List UInt8)
    (line : Nat × Nat) :
    hostLine head hostN host line =
      (((hostValue (linePiece head line).1).filter (·.length < hostN)).map
        cstr).getD host := by
  unfold hostLine hostValue linePiece
  dsimp only
  split
  · next c found =>
    rw [found, Option.bind_some]
    split
    · rw [Option.filter_some]
      split
      · next fits => simp [fits]
      · next long => simp [long]
    · rfl
  · next none =>
    rw [none]
    rfl

/-- Of the values that fit, the first pass leaves the last. -/
theorem foldl_host (texts : List (List UInt8)) (hostN : Nat)
    (host : List UInt8) :
    texts.foldl (fun host text =>
        (((hostValue text).filter (·.length < hostN)).map cstr).getD host)
        host =
      ((((texts.filterMap hostValue).filter (·.length < hostN)).getLast?).map
        cstr).getD host := by
  induction texts generalizing host with
  | nil => rfl
  | cons text rest inductionHypothesis =>
      rw [List.foldl_cons, inductionHypothesis]
      cases value : hostValue text with
      | none =>
          rw [List.filterMap_cons_none value]
          rfl
      | some v =>
          rw [List.filterMap_cons_some value, Option.filter_some]
          by_cases fits : v.length < hostN
          · rw [if_pos (by simpa using fits),
              List.filter_cons_of_pos (by simpa using fits), List.getLast?_cons]
            cases ((rest.filterMap hostValue).filter
              (·.length < hostN)).getLast? with
            | none => rfl
            | some last => rfl
          · rw [if_neg (by simpa using fits),
              List.filter_cons_of_neg (by simpa using fits)]
            rfl

/-- The host, by the texts of the header lines. -/
theorem requestHost_eq (head : List UInt8) (le : Nat) (origIp : UInt32)
    (hostN : Nat) {texts : List (List UInt8)}
    (pieces : (headPieces head le).map Prod.fst = texts) :
    requestHost head le origIp hostN =
      (((((texts.filterMap hostValue).filter (·.length < hostN)).getLast?).map
        cstr).filter hostOk).getD (ip4addrNtoa origIp) := by
  have passes :
      (headerLines head (head.length - 2) head.length (le + 2)).foldl
          (hostLine head hostN) [] =
        ((((texts.filterMap hostValue).filter (·.length < hostN)).getLast?).map
          cstr).getD [] := by
    rw [← foldl_host, ← pieces, headPieces, List.map_map, List.foldl_map]
    congr 1
    funext host line
    exact hostLine_eq head hostN host line
  unfold requestHost
  dsimp only
  rw [passes]
  cases ((texts.filterMap hostValue).filter (·.length < hostN)).getLast? with
  | none => rfl
  | some value =>
      rw [Option.map_some, Option.getD_some, Option.filter_some]
      split
      · rfl
      · rfl

/-! ## The request line -/

section RequestLine

variable {head : List UInt8} {le target : Nat}

theorem requestLine_memchr (isLine : requestLine head = some (le, target)) :
    memchr head cr = some le := by
  obtain ⟨plain, here, _⟩ := requestLine_spec isLine
  exact memchr_eq_some_iff.mpr ⟨plain, here⟩

end RequestLine

namespace RequestHead

/-! ## The lines of a head -/

theorem requestLine_plain (h : RequestHead) : cr ∉ h.requestLine := by
  have notSpace : cr ≠ space := by decide
  simp [requestLine, h.methodPlain.1, h.targetPlain.1, h.restPlain, notSpace]

theorem lines_plain (h : RequestHead) :
    ∀ line ∈ h.requestLine :: h.headers, cr ∉ line := by
  intro line member
  rcases List.mem_cons.mp member with rfl | header
  · exact h.requestLine_plain
  · exact (h.headersPlain line header).1

/-- What lies behind the method. -/
theorem bytes_eq (h : RequestHead) :
    h.bytes =
      (h.method ++ [space]) ++
        ((h.target ++ space :: h.rest) ++
          cr :: lf :: (h.headers.flatMap (· ++ crlf) ++ crlf)) := by
  simp [bytes, requestLine, crlf]

theorem requestLine_length (h : RequestHead) :
    h.requestLine.length =
      (h.method ++ [space]).length + (h.target ++ space :: h.rest).length := by
  simp [requestLine]
  omega

theorem slice_bytes (h : RequestHead) :
    slice h.bytes (h.method.length + 1)
        (h.requestLine.length - (h.method.length + 1)) =
      h.target ++ space :: h.rest := by
  have start : h.method.length + 1 = (h.method ++ [space]).length := by simp
  rw [start, requestLine_length, Nat.add_sub_cancel_left, bytes_eq, slice,
    List.drop_left, List.take_left]

/-- The request line is found. -/
theorem requestLine_bytes (h : RequestHead) :
    Proxy.requestLine h.bytes =
      some (h.requestLine.length, h.method.length + 1) := by
  have whole :
      h.bytes =
        h.requestLine ++
          cr :: lf :: (h.headers.flatMap (· ++ crlf) ++ crlf) := by
    simp [bytes, crlf]
  have le : memchr h.bytes cr = some h.requestLine.length := by
    rw [whole, memchr_append h.requestLine_plain]
  have line : h.bytes.take h.requestLine.length = h.requestLine := by
    rw [whole, List.take_left]
  have sp1 : memchr h.requestLine space = some h.method.length := by
    rw [requestLine, List.append_assoc, List.cons_append,
      memchr_append h.methodPlain.2]
  have sp2 :
      memchr (h.target ++ space :: h.rest) space = some h.target.length :=
    memchr_append h.targetPlain.2 _
  have present : h.target.length ≠ 0 := by simp [h.targetPresent]
  unfold Proxy.requestLine
  simp only [le, line, sp1, slice_bytes, sp2, Option.bind_eq_bind,
    Option.bind_some, present, if_false]

/-- It is written with the authority in front of the target. -/
theorem requestPiece_bytes (h : RequestHead) (host : List UInt8) :
    requestPiece h.bytes h.requestLine.length (h.method.length + 1) host =
      (h.method ++ space :: authority (h.target.head? == some 47) host ++
        h.target ++ space :: h.rest, lf) := by
  have start : h.method.length + 1 = (h.method ++ [space]).length := by simp
  have front : h.bytes.take (h.method.length + 1) = h.method ++ [space] := by
    rw [bytes_eq, start, List.take_left]
  have originForm :
      (h.bytes.getD (h.method.length + 1) 0 == 47) =
        (h.target.head? == some 47) := by
    rw [bytes_eq, start, List.getD_eq_getElem?_getD,
      List.getElem?_append_right (Nat.le_refl _), Nat.sub_self]
    cases target : h.target with
    | nil => exact absurd target h.targetPresent
    | cons first rest => simp
  have last : h.bytes.getD (h.requestLine.length + 1) 0 = lf := by
    rw [bytes_eq, requestLine_length, ← List.append_assoc,
      ← List.length_append, List.getD_eq_getElem?_getD,
      List.getElem?_append_right (Nat.le_add_right _ _),
      Nat.add_sub_cancel_left]
    rfl
  rw [requestPiece, front, originForm, slice_bytes, last]
  simp

/-- The first line of what is left is found as it was sent. -/
theorem lineEnd_front {line : List UInt8} (plain : cr ∉ line)
    (front more : List UInt8) (room : 2 ≤ more.length) :
    lineEnd (front ++ (line ++ cr :: lf :: more)) front.length
        ((front ++ (line ++ cr :: lf :: more)).length - 2) =
      front.length + line.length := by
  have found :
      memchr
        (slice (front ++ (line ++ cr :: lf :: more)) front.length
          ((front ++ (line ++ cr :: lf :: more)).length - 2 - front.length))
        cr = some line.length := by
    have count :
        (front ++ (line ++ cr :: lf :: more)).length - 2 - front.length =
          line.length + (more.length - 2 + 2) := by
      simp only [List.length_append, List.length_cons]
      omega
    rw [count, slice, List.drop_left, List.take_length_add_append,
      List.take_succ_cons, memchr_append plain]
  rw [lineEnd, found]

theorem linePiece_front (line front more : List UInt8) :
    linePiece (front ++ (line ++ cr :: lf :: more))
        (front.length, front.length + line.length) = (line, lf) := by
  have text :
      slice (front ++ (line ++ cr :: lf :: more)) front.length
        (front.length + line.length - front.length) = line := by
    rw [Nat.add_sub_cancel_left, slice, List.drop_left, List.take_left]
  have second :
      (front ++ (line ++ cr :: lf :: more)).getD
        (front.length + line.length + 1) 0 = lf := by
    rw [List.getD_eq_getElem?_getD, Nat.add_assoc,
      List.getElem?_append_right (Nat.le_add_right _ _),
      Nat.add_sub_cancel_left,
      List.getElem?_append_right (Nat.le_add_right _ _),
      Nat.add_sub_cancel_left]
    rfl
  rw [linePiece, text, second]

/-- The header lines are found as they were sent. -/
theorem headerLines_pieces (headers : List (List UInt8))
    (plain : ∀ line ∈ headers, cr ∉ line) {front head : List UInt8}
    (whole : head = front ++ (headers.flatMap (· ++ crlf) ++ crlf))
    {fuel : Nat} (enough : headers.length ≤ fuel) :
    (headerLines head (head.length - 2) fuel front.length).map
        (linePiece head) = headers.map (·, lf) := by
  induction headers generalizing front fuel with
  | nil =>
      have atEnd : ¬ front.length < head.length - 2 := by
        simp [whole, crlf]
      cases fuel with
      | zero => rfl
      | succ fuel =>
          rw [headerLines, if_neg atEnd]
          rfl
  | cons line rest inductionHypothesis =>
      obtain ⟨fuel, rfl⟩ : ∃ fewer, fuel = fewer + 1 :=
        ⟨fuel - 1, by rw [List.length_cons] at enough; omega⟩
      have unfolded :
          head =
            front ++
              (line ++ cr :: lf :: (rest.flatMap (· ++ crlf) ++ crlf)) := by
        simp [whole, crlf]
      have next :
          head =
            (front ++ (line ++ crlf)) ++
              (rest.flatMap (· ++ crlf) ++ crlf) := by
        simp [whole, crlf]
      have inside : front.length < head.length - 2 := by
        rw [unfolded]
        simp only [List.length_append, List.length_cons, crlf, List.length_nil]
        omega
      have here : lineEnd head front.length (head.length - 2) =
          front.length + line.length := by
        rw [unfolded]
        exact lineEnd_front (plain line List.mem_cons_self) front _
          (by simp [crlf])
      have piece :
          linePiece head (front.length, front.length + line.length) =
            (line, lf) := by
        rw [unfolded]
        exact linePiece_front line front _
      have onward : front.length + line.length + 2 =
          (front ++ (line ++ crlf)).length := by
        simp [crlf]
        omega
      rw [headerLines, if_pos inside, here]
      dsimp only
      rw [List.map_cons, piece, onward, List.map_cons,
        inductionHypothesis
          (fun line member => plain line (List.mem_cons_of_mem _ member)) next
          (by rw [List.length_cons] at enough; omega)]

variable (h : RequestHead)

theorem headPieces_bytes :
    headPieces h.bytes h.requestLine.length = h.headers.map (·, lf) := by
  have whole :
      h.bytes =
        (h.requestLine ++ crlf) ++ (h.headers.flatMap (· ++ crlf) ++ crlf) := by
    simp [bytes]
  have start : h.requestLine.length + 2 = (h.requestLine ++ crlf).length := by
    simp [crlf]
  have enough : h.headers.length ≤ h.bytes.length := by
    have lines :
        h.headers.length ≤ (h.headers.flatMap (· ++ crlf)).length := by
      generalize h.headers = headers
      induction headers with
      | nil => simp
      | cons line rest inductionHypothesis =>
          simp only [List.flatMap_cons, List.length_append, List.length_cons,
            crlf] at inductionHypothesis ⊢
          omega
    rw [whole]
    simp only [List.length_append]
    omega
  rw [headPieces, start]
  exact headerLines_pieces h.headers
    (fun line member => (h.headersPlain line member).1) whole enough

/-- The host of a head. -/
theorem requestHost_bytes (origIp : UInt32) (hostN : Nat) :
    requestHost h.bytes h.requestLine.length origIp hostN =
      h.host origIp hostN := by
  rw [host, lastHost]
  apply requestHost_eq
  rw [headPieces_bytes, List.map_map]
  exact List.map_id _

theorem keptPieces_bytes :
    keptPieces h.bytes h.requestLine.length =
      (h.headers.filter fun line => !isManaged line).map (·, lf) := by
  rw [keptPieces, headPieces_bytes, List.filter_map]
  rfl

/-- What is written of a head. -/
theorem rewritten_bytes (host : List UInt8) :
    rewritten h.bytes h.requestLine.length (h.method.length + 1) host =
      h.proxied host := by
  have two : h.requestLine.length + 2 ≤ h.bytes.length := by
    simp only [bytes, crlf, List.length_append, List.length_cons,
      List.length_nil]
    omega
  have isCr : h.bytes[h.bytes.length - 2]? = some cr := by
    have last : h.bytes.length - 2 =
        (h.requestLine ++ crlf ++ h.headers.flatMap (· ++ crlf)).length := by
      rw [bytes, List.length_append]
      exact Nat.add_sub_cancel _ 2
    rw [last, bytes, List.getElem?_append_right (Nat.le_refl _), Nat.sub_self]
    rfl
  rw [rewritten_eq_join two isCr h.requestLine_bytes, requestPiece_bytes,
    keptPieces_bytes, proxied, ← join_lf]
  have ending :
      tail = closeLine ++ crlf ++ proxyCloseLine ++ crlf ++ crlf := by
    decide
  rw [ending]
  simp [join, crlf]

/-- The lines of a head are found again. -/
theorem lines_head {line : List UInt8} {headers : List (List UInt8)}
    (plain : ∀ text ∈ line :: headers, cr ∉ text) :
    ∃ text, line ++ crlf ++ headers.flatMap (· ++ crlf) ++ crlf =
      text ++ crlf2 ∧ lines cr lf text = line :: headers := by
  have notNil : line :: headers ≠ [] := by simp
  obtain ⟨front, last, parted⟩ :
      ∃ front last, line :: headers = front ++ [last] :=
    ⟨_, _, (List.dropLast_append_getLast notNil).symm⟩
  rw [parted] at plain
  refine ⟨join cr (front.map (·, lf)) ++ last, ?_, ?_⟩
  · have together : (line :: headers).flatMap (· ++ crlf) =
        (front ++ [last]).flatMap (· ++ crlf) := by rw [parted]
    have ending : crlf2 = crlf ++ crlf := by decide
    rw [List.flatMap_cons] at together
    rw [together, join_lf, ending]
    simp
  · rw [parted]
    exact CrlfLines.lines_join front
      (fun text member => plain text (List.mem_append_left _ member))
      (plain last (by simp))

theorem length_crlf2 (text : List UInt8) :
    (text ++ crlf2).length - 4 = text.length := by
  rw [List.length_append]
  exact Nat.add_sub_cancel _ 4

/-- `http_rewrite` writes the head of the proxy request, if there is room. -/
theorem httpRewrite_bytes (origIp : UInt32) (cap : Nat) :
    httpRewrite h.bytes origIp cap hostSz =
      if (h.proxied (h.host origIp hostSz)).length ≤ cap then
        some (h.proxied (h.host origIp hostSz), h.host origIp hostSz)
      else none := by
  have parts (out host : List UInt8) :
      httpRewrite h.bytes origIp cap hostSz = some (out, host) ↔
        h.host origIp hostSz = host ∧ h.proxied host = out ∧
          out.length ≤ cap := by
    rw [httpRewrite_eq_some_iff, h.requestLine_bytes]
    constructor
    · rintro ⟨_, _, ⟨⟩, rfl, rfl, fits⟩
      rw [h.requestHost_bytes, h.rewritten_bytes] at *
      exact ⟨rfl, rfl, fits⟩
    · rintro ⟨rfl, rfl, fits⟩
      exact ⟨_, _, rfl, h.requestHost_bytes origIp hostSz,
        h.rewritten_bytes _, fits⟩
  split
  · next fits => exact (parts _ _).mpr ⟨rfl, rfl, fits⟩
  · next tight =>
    rw [Option.eq_none_iff_forall_ne_some]
    rintro ⟨out, host⟩ written
    obtain ⟨rfl, rfl, fits⟩ := (parts _ _).mp written
    exact tight fits

/-- The last Host value that fits is the host, if it is one. -/
def wholeHost (origIp : UInt32) (hostN : Nat) : List UInt8 :=
  ((h.lastHost hostN).filter hostOk).getD (ip4addrNtoa origIp)

/-- `http_rewrite` writes the head of the proxy request with the whole host, if
no NUL is in it. -/
theorem httpRewrite_wholeHost {origIp : UInt32} {cap : Nat}
    (noNul : ∀ value, h.lastHost hostSz = some value → 0 ∉ value)
    (room : (h.proxied (h.wholeHost origIp hostSz)).length ≤ cap) :
    httpRewrite h.bytes origIp cap hostSz =
      some (h.proxied (h.wholeHost origIp hostSz),
        h.wholeHost origIp hostSz) := by
  have same : h.host origIp hostSz = h.wholeHost origIp hostSz := by
    rw [host, wholeHost]
    cases last : h.lastHost hostSz with
    | none => rfl
    | some value =>
        rw [Option.map_some, (cstr_eq_self_iff value).mpr (noNul value last)]
  rw [httpRewrite_bytes, same, if_pos room]

def plainHost : RequestHead where
  method := ascii "GET"
  target := ascii "/"
  rest := ascii "HTTP/1.1"
  headers := [ascii "Host: a", ascii "Connection: keep-alive"]
  methodPlain := by decide
  targetPlain := by decide
  targetPresent := by decide
  restPlain := by decide
  headersPlain := by simp; decide

theorem httpRewrite_plainHost :
    plainHost.lastHost hostSz = some (ascii "a") ∧
      httpRewrite plainHost.bytes 0 upCap hostSz =
        some (plainHost.proxied (plainHost.wholeHost 0 hostSz),
          plainHost.wholeHost 0 hostSz) := by
  have last : plainHost.lastHost hostSz = some (ascii "a") := by
    decide +kernel
  refine ⟨last, plainHost.httpRewrite_wholeHost ?_ (by decide +kernel)⟩
  intro value isLast
  rw [last] at isLast
  cases isLast
  decide

/-- A head with one Host header. -/
def withHost (value : List UInt8) (plain : cr ∉ value) : RequestHead :=
  { plainHost with
    headers := [ascii "Host: " ++ value]
    headersPlain := by
      rintro line member
      rw [List.mem_singleton.mp member, List.mem_append, not_or]
      exact ⟨⟨by decide, plain⟩, by simp [ascii]⟩ }

def emptyHost : RequestHead := withHost [] (by decide)

def nulHost : RequestHead := withHost (97 :: 0 :: ascii "/") (by decide)

/-- An empty Host value is no host, and of one with a NUL in it only what is
before the NUL is looked at. -/
theorem unusual_hosts_rewritten :
    (emptyHost.lastHost hostSz = some [] ∧
      (httpRewrite emptyHost.bytes 0 upCap hostSz).map Prod.fst =
        some (emptyHost.proxied (ip4addrNtoa 0)) ∧
      emptyHost.proxied (ip4addrNtoa 0) ≠ emptyHost.proxied []) ∧
    (nulHost.lastHost hostSz = some (97 :: 0 :: ascii "/") ∧
      (97 :: 0 :: ascii "/").all hostChar = false ∧
      (httpRewrite nulHost.bytes 0 upCap hostSz).map Prod.fst =
        some (nulHost.proxied (ascii "a")) ∧
      nulHost.proxied (ascii "a") ≠ nulHost.proxied (ip4addrNtoa 0)) := by
  refine ⟨⟨?_, ?_, ?_⟩, ?_, ?_, ?_, ?_⟩ <;> decide +kernel

end RequestHead

end VeteraBridge.Proxy

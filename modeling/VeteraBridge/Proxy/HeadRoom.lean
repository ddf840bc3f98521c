import VeteraBridge.Lib.CheckedMemory
import VeteraBridge.Proxy.HeadSplit
import VeteraBridge.Proxy.RewriteLines

/-!
# The buffers of a head

`head_ready` once more, with the arrays it writes: the 80 bytes of the host, the
block `http_rewrite` writes into, and the session's buffer, which the result is
copied back to.  Each store is checked against its array.
-/

namespace VeteraBridge.Proxy

open ByteWords
open CheckedMemory

/-! ## The functions, with their arrays -/

/-- The block `http_rewrite` writes into, and how much is written. -/
abbrev OutBlock := List UInt8 × Nat

/-- `ok = ok && out_add(out, cap, &w, s, n)`; `none` for `ok` when it is
false. -/
def outAddAt (cap : Nat) (ok : Option OutBlock) (s : List UInt8) :
    Option (Option OutBlock) :=
  match ok with
  | none => some none
  | some (out, w) =>
    if w + s.length > cap then some none
    else (store out w s).map fun out => some (out, w + s.length)

/-- `memcpy(host, v, vn)` and `host[vn] = '\0'`. -/
def setHost (host v : List UInt8) : Option (List UInt8) :=
  (store host 0 v).bind fun host => store host v.length [0]

def hostLineAt (head : List UInt8) (hostN : Nat) (host : List UInt8)
    (line : Nat × Nat) : Option (List UInt8) :=
  let text := slice head line.1 (line.2 - line.1)
  match memchr text 58 with
  | some c =>
      if nameIs (text.take c) (ascii "host") then
        let v := trimBlanks (text.drop (c + 1))
        if v.length < hostN then setHost host v else some host
      else
        some host
  | none => some host

/-- `ip4addr_ntoa_r`, which writes nothing behind the buffer. -/
def ip4addrNtoaR (addr : UInt32) (buffer : List UInt8) (length : Nat) :
    Option (List UInt8) :=
  if (ip4addrNtoa addr).length < length then
    store buffer 0 (ip4addrNtoa addr ++ [0])
  else some buffer

def requestHostAt (head : List UInt8) (le : Nat) (origIp : UInt32)
    (host : List UInt8) (hostN : Nat) : Option (List UInt8) := do
  let host ← store host 0 [0]
  let lines := headerLines head (head.length - 2) head.length (le + 2)
  let host ← lines.foldlM (hostLineAt head hostN) host
  if hostOk (cstr host) then some host else ip4addrNtoaR origIp host hostN

def addAuthorityAt (head : List UInt8) (cap target : Nat) (host : List UInt8)
    (ok : Option OutBlock) : Option (Option OutBlock) :=
  if head.getD target 0 == 47 then
    (outAddAt cap ok (ascii "http://")).bind fun ok =>
      outAddAt cap ok (cstr host)
  else
    some ok

def copyLineAt (head : List UInt8) (cap : Nat) (ok : Option OutBlock)
    (line : Nat × Nat) : Option (Option OutBlock) :=
  if isDropped head line then some ok
  else outAddAt cap ok (slice head line.1 (line.2 + 2 - line.1))

/-- `http_rewrite`: the block it leaves, `none` for -1, and the host. -/
def httpRewriteAt (head : List UInt8) (origIp : UInt32) (out : List UInt8)
    (cap : Nat) (host : List UInt8) (hostN : Nat) :
    Option (Option OutBlock × List UInt8) :=
  match requestLine head with
  | none => some (none, host)
  | some (le, target) => do
    let host ← requestHostAt head le origIp host hostN
    let ok ← outAddAt cap (some (out, 0)) (head.take target)
    let ok ← addAuthorityAt head cap target host ok
    let ok ← outAddAt cap ok (slice head target (le + 2 - target))
    let lines := headerLines head (head.length - 2) head.length (le + 2)
    let ok ← lines.foldlM (copyLineAt head cap) ok
    let ok ← outAddAt cap ok tail
    some (ok, host)

/-- The arrays of a session that `head_ready` writes. -/
structure HeadBuffers where
  up : List UInt8
  upLen : Nat
  host : List UInt8
deriving DecidableEq, Repr

def HeadBuffers.data (b : HeadBuffers) : List UInt8 := b.up.take b.upLen

/-- `head_ready` of an HTTP session with its block `out` from `malloc`, up to
`start_connect`: the decision, and the session's arrays. -/
def headReadyAt (b : HeadBuffers) (origIp : UInt32) (out : List UInt8) :
    Option (HeadDecision × HeadBuffers) :=
  match findCrlf2 b.data with
  | none =>
    if b.upLen ≥ upSz then some (.fails "request head too large", b)
    else some (.waits, b)
  | some e => do
    let head := e + 4
    let body := b.upLen - head
    let (ok, host) ←
      httpRewriteAt (b.data.take head) origIp out (upCap - body) b.host hostSz
    match ok with
    | none => some (.fails "can't parse the request", { b with host := host })
    | some (out, n) =>
      let start ← load b.up head body
      let out ← store out n start
      let rewritten ← load out 0 (n + body)
      let up ← store b.up 0 rewritten
      some (.proceeds (cstr host) (up.take (n + body)),
        { up := up, upLen := n + body, host := host })

/-! ## What the block holds -/

/-- The block holds what is written, if all of it fits. -/
def Written (size : Nat) : Option OutBlock → Option (List UInt8) → Prop
  | some (out, w), some text => Holds size text out ∧ w = text.length
  | none, none => True
  | _, _ => False

section Block

variable {size cap : Nat} {ok : Option OutBlock} {text : Option (List UInt8)}

theorem outAddAt_written (within : cap ≤ size) (written : Written size ok text)
    (s : List UInt8) :
    ∃ ok', outAddAt cap ok s = some ok' ∧
      Written size ok' (text.bind fun out => outAdd cap out s) := by
  rcases ok with _ | ⟨out, w⟩ <;> rcases text with _ | text
  · exact ⟨none, rfl, trivial⟩
  · cases written
  · cases written
  · obtain ⟨holds, rfl⟩ := written
    rw [outAddAt, Option.bind_some, outAdd]
    split
    · exact ⟨none, rfl, trivial⟩
    · next fits =>
      obtain ⟨out', stored, holds'⟩ := holds.store s
        (by omega : text.length + s.length ≤ size)
      rw [stored]
      exact ⟨_, rfl, holds', by rw [List.length_append]⟩

theorem addAuthorityAt_written (within : cap ≤ size)
    (written : Written size ok text) (head host : List UInt8) (target : Nat) :
    ∃ ok', addAuthorityAt head cap target host ok = some ok' ∧
      Written size ok'
        (text.bind fun out =>
          addAuthority head cap target (cstr host) out) := by
  unfold addAuthorityAt addAuthority
  by_cases originForm : (head.getD target 0 == 47) = true
  · simp only [if_pos originForm]
    obtain ⟨schemed, added, written'⟩ :=
      outAddAt_written within written (ascii "http://")
    rw [added, Option.bind_some, ← Option.bind_assoc]
    exact outAddAt_written within written' _
  · simp only [if_neg originForm, Option.bind_fun_some]
    exact ⟨ok, rfl, written⟩

theorem copyLinesAt_written (within : cap ≤ size) (head : List UInt8)
    (lines : List (Nat × Nat)) (written : Written size ok text) :
    ∃ ok', lines.foldlM (copyLineAt head cap) ok = some ok' ∧
      Written size ok'
        (text.bind fun out => lines.foldlM (copyLine head cap) out) := by
  induction lines generalizing ok text with
  | nil =>
      simp only [List.foldlM_nil, Option.pure_def, Option.bind_fun_some]
      exact ⟨ok, rfl, written⟩
  | cons line rest inductionHypothesis =>
      simp only [List.foldlM_cons, Option.bind_eq_bind]
      rw [← Option.bind_assoc]
      have first : ∃ ok', copyLineAt head cap ok line = some ok' ∧
          Written size ok'
            (text.bind fun out => copyLine head cap out line) := by
        unfold copyLineAt copyLine
        by_cases dropped : isDropped head line = true
        · simp only [if_pos dropped, Option.bind_fun_some]
          exact ⟨ok, rfl, written⟩
        · simp only [if_neg dropped]
          exact outAddAt_written within written _
      obtain ⟨ok', copied, written'⟩ := first
      rw [copied, Option.bind_some]
      exact inductionHypothesis written'

end Block

/-! ## What the host's array holds -/

/-- The array holds a string, with its NUL. -/
def IsHost (size : Nat) (host name : List UInt8) : Prop :=
  ∃ v, Holds size (v ++ [0]) host ∧ cstr v = name

section Host

variable {size hostN : Nat} {host name : List UInt8}

theorem IsHost.cstr_eq (isHost : IsHost size host name) : cstr host = name := by
  obtain ⟨v, holds, rfl⟩ := isHost
  obtain ⟨rest, rfl⟩ := holds.begins
  rw [List.append_assoc, List.singleton_append, cstr_of_nul]

theorem IsHost.nul_mem (isHost : IsHost size host name) : 0 ∈ host := by
  obtain ⟨v, holds, _⟩ := isHost
  exact holds.begins.subset (List.mem_append_right v List.mem_cons_self)

theorem setHost_isHost (sized : host.length = size) {v : List UInt8}
    (fits : v.length < size) :
    ∃ host', setHost host v = some host' ∧ IsHost size host' (cstr v) := by
  have begins : Holds size [] host := ⟨sized, List.nil_prefix⟩
  obtain ⟨first, stored, holds⟩ := begins.restart _ fits.le
  obtain ⟨second, ended, holds'⟩ := holds.store [0] fits
  refine ⟨second, ?_, v, holds', rfl⟩
  rw [setHost, stored, Option.bind_some, ended]

theorem IsHost.length (isHost : IsHost size host name) :
    host.length = size := by
  obtain ⟨v, holds, _⟩ := isHost
  exact holds.length

theorem hostLineAt_isHost (within : hostN ≤ size)
    (isHost : IsHost size host name) (head : List UInt8) (line : Nat × Nat) :
    ∃ host', hostLineAt head hostN host line = some host' ∧
      IsHost size host' (hostLine head hostN name line) := by
  unfold hostLineAt hostLine
  dsimp only
  generalize slice head line.1 (line.2 - line.1) = text
  cases memchr text 58 with
  | none => exact ⟨host, rfl, isHost⟩
  | some c =>
      dsimp only
      by_cases named : nameIs (text.take c) (ascii "host") = true
      · rw [if_pos named, if_pos named]
        by_cases short : (trimBlanks (text.drop (c + 1))).length < hostN
        · rw [if_pos short, if_pos short]
          exact setHost_isHost isHost.length (short.trans_le within)
        · rw [if_neg short, if_neg short]
          exact ⟨host, rfl, isHost⟩
      · rw [if_neg named, if_neg named]
        exact ⟨host, rfl, isHost⟩

theorem hostLinesAt_isHost (within : hostN ≤ size) (head : List UInt8)
    (lines : List (Nat × Nat)) (isHost : IsHost size host name) :
    ∃ host', lines.foldlM (hostLineAt head hostN) host = some host' ∧
      IsHost size host' (lines.foldl (hostLine head hostN) name) := by
  induction lines generalizing host name with
  | nil => exact ⟨host, rfl, isHost⟩
  | cons line rest inductionHypothesis =>
      obtain ⟨host', first, isHost'⟩ :=
        hostLineAt_isHost within isHost head line
      rw [List.foldlM_cons, first]
      exact inductionHypothesis isHost'

theorem nul_not_mem_dotted (addr : UInt32) : 0 ∉ ip4addrNtoa addr :=
  fun member => absurd (hostChar_dotted member) (by decide)

theorem requestHostAt_isHost (within : hostN ≤ size) (room : 15 < hostN)
    (sized : host.length = size) (head : List UInt8) (le : Nat)
    (origIp : UInt32) :
    ∃ host', requestHostAt head le origIp host hostN = some host' ∧
      IsHost size host' (requestHost head le origIp hostN) := by
  have begins : Holds size [] host := ⟨sized, List.nil_prefix⟩
  obtain ⟨first, stored, holds⟩ :=
    begins.restart [0] (by simp only [List.length_singleton]; omega)
  obtain ⟨second, lines, isHost⟩ := hostLinesAt_isHost within head
    (headerLines head (head.length - 2) head.length (le + 2))
    (⟨[], holds, rfl⟩ : IsHost size first [])
  unfold requestHostAt requestHost
  simp only [stored, Option.bind_eq_bind, Option.bind_some, lines,
    isHost.cstr_eq]
  split
  · exact ⟨second, rfl, isHost⟩
  · have short := ip4addrNtoa_length origIp
    rw [ip4addrNtoaR, if_pos (by omega)]
    have restarts : Holds size [] second := ⟨isHost.length, List.nil_prefix⟩
    obtain ⟨third, stored', holds'⟩ :=
      restarts.restart (ip4addrNtoa origIp ++ [0])
        (by rw [List.length_append, List.length_singleton]; omega)
    exact ⟨third, stored', _, holds',
      (cstr_eq_self_iff _).mpr (nul_not_mem_dotted origIp)⟩

end Host

/-! ## The head -/

/-- What the arrays hold after a rewrite. -/
theorem httpRewriteAt_spec {head out host : List UInt8} {cap hostN : Nat}
    (within : cap ≤ out.length) (hostWithin : hostN ≤ host.length)
    (room : 15 < hostN) (origIp : UInt32) {le target : Nat}
    (isLine : requestLine head = some (le, target)) :
    ∃ ok host', httpRewriteAt head origIp out cap host hostN =
        some (ok, host') ∧
      Written out.length ok
        ((httpRewrite head origIp cap hostN).map Prod.fst) ∧
      IsHost host.length host' (requestHost head le origIp hostN) := by
  obtain ⟨host', named, isHost⟩ :=
    requestHostAt_isHost hostWithin room rfl head le origIp
  have empty : Written out.length (some (out, 0)) (some []) :=
    ⟨⟨rfl, List.nil_prefix⟩, rfl⟩
  obtain ⟨ok₁, started, written⟩ :=
    outAddAt_written within empty (head.take target)
  obtain ⟨ok₂, authorized, written⟩ :=
    addAuthorityAt_written within written head host' target
  obtain ⟨ok₃, requested, written⟩ :=
    outAddAt_written within written (slice head target (le + 2 - target))
  obtain ⟨ok₄, copied, written⟩ := copyLinesAt_written within head
    (headerLines head (head.length - 2) head.length (le + 2)) written
  obtain ⟨ok₅, ended, written⟩ := outAddAt_written within written tail
  refine ⟨ok₅, host', ?_, ?_, isHost⟩
  · rw [httpRewriteAt, isLine]
    simp only [named, started, authorized, requested, copied, ended,
      Option.bind_eq_bind, Option.bind_some]
  · rw [isHost.cstr_eq] at written
    have same : (httpRewrite head origIp cap hostN).map Prod.fst =
        ((((((some []).bind fun out => outAdd cap out (head.take target)).bind
          fun out => addAuthority head cap target
            (requestHost head le origIp hostN) out).bind
          fun out => outAdd cap out (slice head target (le + 2 - target))).bind
          fun out => (headerLines head (head.length - 2) head.length
            (le + 2)).foldlM (copyLine head cap) out).bind
          fun out => outAdd cap out tail) := by
      unfold httpRewrite
      simp only [isLine, Option.bind_eq_bind, Option.bind_some,
        Option.map_eq_bind, Option.bind_assoc, Function.comp_apply,
        Option.bind_fun_some]
    rw [same]
    exact written

/-- A head with a request line is rewritten if there is room for what a rewrite
can add. -/
theorem httpRewrite_of_room {head : List UInt8} {cap hostN : Nat}
    (room : 15 < hostN) (fits : head.length + hostN + 53 ≤ cap)
    (origIp : UInt32) {le target : Nat}
    (isLine : requestLine head = some (le, target)) :
    ∃ out, httpRewrite head origIp cap hostN =
      some (out, requestHost head le origIp hostN) := by
  have written :
      httpRewrite head origIp
          (rewritten head le target
            (requestHost head le origIp hostN)).length hostN =
        some (rewritten head le target (requestHost head le origIp hostN),
          requestHost head le origIp hostN) :=
    httpRewrite_eq_some_iff.mpr
      ⟨le, target, isLine, rfl, rfl, Nat.le_refl _⟩
  have length := httpRewrite_length_le room written
  exact ⟨_, httpRewrite_fits written (length.trans fits)⟩

/-- Any string in the host's array makes a CONNECT request that fits its
own. -/
theorem connectRequest_fits {host : List UInt8} (sized : host.length = hostSz)
    (ended : 0 ∈ host) : (connectRequest (cstr host)).length < reqSz := by
  have short : (cstr host).length < hostSz := by
    have shorter : cstr host ≠ host := fun same =>
      (cstr_eq_self_iff host).mp same ended
    have starts : cstr host <+: host := List.takeWhile_prefix _
    rw [← sized]
    exact lt_of_le_of_ne starts.length_le fun same =>
      shorter (starts.eq_of_length same)
  have first : (ascii "CONNECT ").length = 8 := by decide
  have second : (ascii ":443 HTTP/1.1\r\nHost: ").length = 21 := by decide
  have third : (ascii ":443\r\n\r\n").length = 8 := by decide
  simp only [connectRequest, List.length_append, first, second, third, reqSz,
    hostSz] at short ⊢
  omega

/-- What `do_accept` sets up and `recv` fills. -/
structure HeadBuffers.Ok (b : HeadBuffers) : Prop where
  up : b.up.length = upCap
  upLen : b.upLen ≤ upSz
  host : b.host.length = hostSz
  ended : 0 ∈ b.host

theorem HeadBuffers.Ok.data_length {b : HeadBuffers} (ok : b.Ok) :
    b.data.length = b.upLen := by
  have upLen : b.upLen ≤ b.up.length := by
    rw [ok.up]
    exact ok.upLen.trans (by decide)
  rw [HeadBuffers.data, List.length_take, min_eq_left upLen]

/-- The rest of the buffer goes behind the rewritten head, and both go back to
the session. -/
theorem HeadBuffers.Ok.copiesBack {b : HeadBuffers} (ok : b.Ok) {head : Nat}
    (inside : head ≤ b.upLen) {text out : List UInt8}
    (holds : Holds upCap text out)
    (room : text.length + (b.upLen - head) ≤ upCap) :
    ∃ out' up',
      load b.up head (b.upLen - head) = some (b.data.drop head) ∧
      store out text.length (b.data.drop head) = some out' ∧
      load out' 0 (text.length + (b.upLen - head)) =
        some (text ++ b.data.drop head) ∧
      store b.up 0 (text ++ b.data.drop head) = some up' ∧
      up'.length = upCap ∧
      up'.take (text.length + (b.upLen - head)) = text ++ b.data.drop head := by
  have bodyLength : (b.data.drop head).length = b.upLen - head := by
    rw [List.length_drop, ok.data_length]
  have whole : (text ++ b.data.drop head).length =
      text.length + (b.upLen - head) := by
    rw [List.length_append, bodyLength]
  have upLen : head + (b.upLen - head) ≤ b.up.length := by
    rw [ok.up, Nat.add_sub_cancel' inside]
    exact ok.upLen.trans (by decide)
  have loaded := load_of_le upLen
  rw [← List.drop_take, ← HeadBuffers.data] at loaded
  obtain ⟨out', appended, holds'⟩ := holds.store (b.data.drop head)
    (by rwa [bodyLength])
  have began : Holds upCap [] b.up := ⟨ok.up, List.nil_prefix⟩
  obtain ⟨up', stored, holdsUp⟩ := began.restart (text ++ b.data.drop head)
    (by rwa [whole])
  refine ⟨out', up', loaded, appended, ?_, stored, holdsUp.length, ?_⟩
  · rw [load_of_le (by rw [holds'.length]; omega), List.drop_zero, ← whole,
      ← List.prefix_iff_eq_take.mp holds'.begins]
  · rw [← whole, ← List.prefix_iff_eq_take.mp holdsUp.begins]

/-- `head_ready` stays within its buffers, and gives up on a whole head only if
it has no request line. -/
theorem headReadyAt_room {b : HeadBuffers} (ok : b.Ok) (origIp : UInt32)
    {out : List UInt8} (block : out.length = upCap) {e : Nat}
    (found : findCrlf2 b.data = some e) :
    ∃ decision b', headReadyAt b origIp out = some (decision, b') ∧
      decision = headDecision false origIp b.data ∧
      (∀ why, decision = .fails why →
        requestLine (b.data.take (e + 4)) = none) ∧
      b'.up.length = upCap ∧ b'.upLen ≤ upCap ∧
      b'.host.length = hostSz ∧ 0 ∈ b'.host ∧
      ∀ host, host.length = hostSz → 0 ∈ host →
        (connectRequest (cstr host)).length < reqSz := by
  have cap : upCap = 2560 := rfl
  have size : upSz = 2048 := rfl
  have hostSize : hostSz = 80 := rfl
  have upLen := ok.upLen
  have dataLength := ok.data_length
  have inside := findCrlf2_le found
  rw [dataLength] at inside
  have headLength : (b.data.take (e + 4)).length = e + 4 := by
    rw [List.length_take, dataLength, min_eq_left inside]
  have upTo : upCap - (b.upLen - (e + 4)) ≤ upCap := Nat.sub_le _ _
  cases isLine : requestLine (b.data.take (e + 4)) with
  | none =>
      have given : httpRewriteAt (b.data.take (e + 4)) origIp out
          (upCap - (b.upLen - (e + 4))) b.host hostSz =
            some (none, b.host) := by
        rw [httpRewriteAt, isLine]
      have fails : httpRewrite (b.data.take (e + 4)) origIp upCap hostSz =
          none := by
        rw [httpRewrite, isLine]
        rfl
      refine ⟨.fails "can't parse the request", b, ?_, ?_, fun _ _ => rfl,
        ok.up, by omega, ok.host, ok.ended,
        fun host sized ended => connectRequest_fits sized ended⟩
      · rw [headReadyAt, found]
        simp only [given, Option.bind_eq_bind, Option.bind_some]
      · rw [headDecision, if_neg Bool.false_ne_true, found]
        simp only [fails]
  | some parts =>
      obtain ⟨le, target⟩ := parts
      obtain ⟨text, rewritten⟩ := httpRewrite_of_room (by decide : 15 < hostSz)
        (by omega : (b.data.take (e + 4)).length + hostSz + 53 ≤
          upCap - (b.upLen - (e + 4))) origIp isLine
      have textLength : text.length ≤ upCap - (b.upLen - (e + 4)) :=
        httpRewrite_length rewritten
      obtain ⟨done, host', given, written, isHost⟩ := httpRewriteAt_spec
        (upTo.trans block.ge) ok.host.ge (by decide) origIp isLine
      rw [rewritten, Option.map_some, block] at written
      dsimp only at written
      rcases done with _ | ⟨out', n⟩
      · cases written
      obtain ⟨holds, rfl⟩ := written
      obtain ⟨out'', up', loaded, appended, copied, stored, upLength, taken⟩ :=
        ok.copiesBack inside holds (by omega)
      refine ⟨.proceeds (cstr host') (text ++ b.data.drop (e + 4)),
        ⟨up', text.length + (b.upLen - (e + 4)), host'⟩, ?_, ?_, ?_,
        upLength, by dsimp only; omega,
        isHost.length.trans ok.host, isHost.nul_mem,
        fun host sized ended => connectRequest_fits sized ended⟩
      · rw [headReadyAt, found]
        simp only [given, loaded, appended, copied, stored, taken,
          Option.bind_eq_bind, Option.bind_some]
      · rw [headDecision, if_neg Bool.false_ne_true, found]
        simp only [httpRewrite_mono upTo rewritten, isHost.cstr_eq]
      · rintro why ⟨⟩

def getBytes : List UInt8 := ascii "GET / HTTP/1.1\r\nHost: a\r\n\r\nbody"

/-- A session's arrays with a request in them. -/
def getBuffers : HeadBuffers where
  up := getBytes ++ List.replicate (upCap - getBytes.length) 0
  upLen := getBytes.length
  host := List.replicate hostSz 0

theorem headReadyAt_room_get :
    ∃ decision b',
      headReadyAt getBuffers 0 (List.replicate upCap 0) = some (decision, b') ∧
        b'.up.length = upCap ∧ b'.upLen ≤ upCap ∧ b'.host.length = hostSz ∧
          0 ∈ b'.host := by
  have data : getBuffers.data = getBytes := List.take_left
  have length : getBytes.length = 31 := by decide
  have ok : getBuffers.Ok := by
    refine ⟨?_, ?_, List.length_replicate, ?_⟩
    · show (getBytes ++ List.replicate (upCap - getBytes.length) 0).length = _
      rw [List.length_append, List.length_replicate, length]
      exact Nat.add_sub_cancel' (by decide)
    · show getBytes.length ≤ upSz
      rw [length]
      decide
    · exact List.mem_replicate.mpr ⟨by decide, rfl⟩
  have found : findCrlf2 getBuffers.data = some 23 := by
    rw [data]
    decide +kernel
  obtain ⟨decision, b', ready, -, -, up, upLen, host, ended, -⟩ :=
    headReadyAt_room ok 0 (List.length_replicate : _ = upCap) found
  exact ⟨decision, b', ready, up, upLen, host, ended⟩

end VeteraBridge.Proxy

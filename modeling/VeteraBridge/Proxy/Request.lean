import VeteraBridge.Lib.ByteWords
import VeteraBridge.Proxy.Settings
import Mathlib.Data.List.DropRight

/-!
# Request parsing

What the relay task makes of the phone's first bytes: the end of a request
head, the rewritten head, the server name of a ClientHello, and the CONNECT
request.  Pointers into the source's buffers are offsets into byte lists.
-/

namespace VeteraBridge.Proxy

open ByteWords

def ascii (text : String) : List UInt8 :=
  text.toList.map fun c => UInt8.ofNat c.toNat

/-- The length of a literal, from its characters. -/
theorem ascii_literal_length {text : String} {chars : List Char}
    (spelled : text = String.ofList chars) :
    (ascii text).length = chars.length := by
  rw [ascii, spelled, String.toList_ofList, List.length_map]

/-- A text is checked character by character. -/
theorem forall_mem_of_all {p : UInt8 → Prop} [DecidablePred p]
    {text : List UInt8} (all : text.all (fun c => decide (p c)) = true) :
    ∀ c ∈ text, p c := by
  intro c member
  exact of_decide_eq_true (List.all_eq_true.mp all c member)

def cr : UInt8 := 13

def lf : UInt8 := 10

def space : UInt8 := 32

def tab : UInt8 := 9

def crlf2 : List UInt8 := [cr, lf, cr, lf]

def memchr (s : List UInt8) (c : UInt8) : Option Nat :=
  s.findIdx? (· == c)

/-- `find_crlf2`: the offset of the first empty line's line ends. -/
def findCrlf2 : List UInt8 → Option Nat
  | [] => none
  | b :: rest =>
      if (b :: rest).take 4 = crlf2 then some 0
      else (findCrlf2 rest).map (· + 1)

def hostChar (c : UInt8) : Bool :=
  (c ≥ 97 && c ≤ 122) || (c ≥ 65 && c ≤ 90) || (c ≥ 48 && c ≤ 57) ||
    c == 46 || c == 45 || c == 95 || c == 58 || c == 91 || c == 93

def hostOk (h : List UInt8) : Bool :=
  !h.isEmpty && h.all hostChar

/-- `out_add`: the output so far with `s` behind it, if that fits `cap`. -/
def outAdd (cap : Nat) (out s : List UInt8) : Option (List UInt8) :=
  if out.length + s.length > cap then none else some (out ++ s)

def tolower (c : UInt8) : UInt8 :=
  if c ≥ 65 && c ≤ 90 then c + 32 else c

/-- `name_is`: equal up to letter case. -/
def nameIs (s name : List UInt8) : Bool :=
  name.length == s.length && s.map tolower == name.map tolower

/-- `ip4addr_ntoa_r`: the dotted form of an address in network order. -/
def ip4addrNtoa (addr : UInt32) : List UInt8 :=
  let octet (shift : Nat) : List UInt8 :=
    ascii (toString (addr.toNat / 2 ^ shift % 256))
  octet 0 ++ [46] ++ octet 8 ++ [46] ++ octet 16 ++ [46] ++ octet 24

/-! ## The request head -/

/-- The end of the line that starts at `s`: its first CR before `fin`, or
`fin`. -/
def lineEnd (head : List UInt8) (s fin : Nat) : Nat :=
  match memchr (slice head s (fin - s)) cr with
  | some k => s + k
  | none => fin

/-- Start and end of every header line from `s` on, as both passes of
`http_rewrite` step over them; each step moves on by at least two bytes. -/
def headerLines (head : List UInt8) (fin : Nat) : Nat → Nat → List (Nat × Nat)
  | 0, _ => []
  | fuel + 1, s =>
      if s < fin then
        let e := lineEnd head s fin
        (s, e) :: headerLines head fin fuel (e + 2)
      else
        []

def isBlank (c : UInt8) : Bool := c == space || c == tab

/-- Without leading and trailing blanks. -/
def trimBlanks (v : List UInt8) : List UInt8 :=
  (v.dropWhile isBlank).rdropWhile isBlank

/-- First pass, one line: a Host header that fits the buffer replaces the
host. -/
def hostLine (head : List UInt8) (hostN : Nat) (host : List UInt8)
    (line : Nat × Nat) : List UInt8 :=
  let text := slice head line.1 (line.2 - line.1)
  match memchr text 58 with
  | some c =>
      if nameIs (text.take c) (ascii "host") then
        let v := trimBlanks (text.drop (c + 1))
        if v.length < hostN then cstr v else host
      else
        host
  | none => host

/-- The headers the second pass leaves out. -/
def isDropped (head : List UInt8) (line : Nat × Nat) : Bool :=
  let text := slice head line.1 (line.2 - line.1)
  match memchr text 58 with
  | some c =>
      nameIs (text.take c) (ascii "connection") ||
        nameIs (text.take c) (ascii "proxy-connection") ||
        nameIs (text.take c) (ascii "keep-alive")
  | none => false

/-- Second pass, one line: it is copied with the two bytes after it. -/
def copyLine (head : List UInt8) (cap : Nat) (out : List UInt8)
    (line : Nat × Nat) : Option (List UInt8) :=
  if isDropped head line then some out
  else outAdd cap out (slice head line.1 (line.2 + 2 - line.1))

def tail : List UInt8 :=
  ascii "Connection: close\r\nProxy-Connection: close\r\n\r\n"

/-- Where the request line ends and its target starts; `none` if it has no
such shape. -/
def requestLine (head : List UInt8) : Option (Nat × Nat) := do
  let le ← memchr head cr
  let sp1 ← memchr (head.take le) space
  let target := sp1 + 1
  let sp2 ← memchr (slice head target (le - target)) space
  if sp2 = 0 then none else some (le, target)

/-- The host named in the log and in the absolute URI. -/
def requestHost (head : List UInt8) (le : Nat) (origIp : UInt32)
    (hostN : Nat) : List UInt8 :=
  let lines := headerLines head (head.length - 2) head.length (le + 2)
  let host := lines.foldl (hostLine head hostN) []
  if hostOk host then host else ip4addrNtoa origIp

/-- A target in origin form gets `http://` and the host in front. -/
def addAuthority (head : List UInt8) (cap target : Nat)
    (host out : List UInt8) : Option (List UInt8) :=
  if head.getD target 0 == 47 then
    (outAdd cap out (ascii "http://")).bind fun out => outAdd cap out host
  else
    some out

/-- `http_rewrite` on a head with its final empty line: the proxy request and
the host, or `none` for -1. -/
def httpRewrite (head : List UInt8) (origIp : UInt32) (cap hostN : Nat) :
    Option (List UInt8 × List UInt8) := do
  let (le, target) ← requestLine head
  let host := requestHost head le origIp hostN
  let out ← outAdd cap [] (head.take target)
  let out ← addAuthority head cap target host out
  let out ← outAdd cap out (slice head target (le + 2 - target))
  let lines := headerLines head (head.length - 2) head.length (le + 2)
  let out ← lines.foldlM (copyLine head cap) out
  let out ← outAdd cap out tail
  some (out, host)

/-! ## The ClientHello -/

def byteAt (b : List UInt8) (i : Nat) : Nat := (b.getD i 0).toNat

def lengthAt (b : List UInt8) (i : Nat) : Nat :=
  256 * byteAt b i + byteAt b (i + 1)

/-- The names of a server_name extension that ends at `qe`. -/
def sniNames (b : List UInt8) (qe on : Nat) : Nat → Nat → Option (List UInt8)
  | 0, _ => none
  | fuel + 1, q =>
      if q + 3 ≤ qe then
        let nt := byteAt b q
        let nl := lengthAt b (q + 1)
        let q := q + 3
        if q + nl > qe then none
        else if nt = 0 ∧ nl > 0 ∧ nl < on then
          let out := cstr (slice b q nl)
          if hostOk out then some out else none
        else
          sniNames b qe on fuel (q + nl)
      else
        none

def sniExtensions (b : List UInt8) (extEnd on : Nat) :
    Nat → Nat → Option (List UInt8)
  | 0, _ => none
  | fuel + 1, p =>
      if p + 4 ≤ extEnd then
        let type := lengthAt b p
        let len := lengthAt b (p + 2)
        let p := p + 4
        if p + len > extEnd then none
        else if type = 0 then sniNames b (p + len) on b.length (p + 2)
        else sniExtensions b extEnd on fuel (p + len)
      else
        none

/-- `tls_sni`: the name in the C string `out`, or `none` for false. -/
def tlsSni (b : List UInt8) (on : Nat) : Option (List UInt8) :=
  let n := b.length
  if n < 5 ∨ byteAt b 0 ≠ 0x16 then none
  else
    let fin := min (5 + lengthAt b 3) n
    let p := 5
    if p + 4 > fin ∨ byteAt b p ≠ 0x01 then none
    else
      let p := p + (4 + 2 + 32)
      if p + 1 > fin then none
      else
        let p := p + (1 + byteAt b p)
        if p + 2 > fin then none
        else
          let p := p + (2 + lengthAt b p)
          if p + 1 > fin then none
          else
            let p := p + (1 + byteAt b p)
            if p + 2 > fin then none
            else
              let extEnd := min (p + 2 + lengthAt b p) fin
              sniExtensions b extEnd on b.length (p + 2)

def connectRequest (host : List UInt8) : List UInt8 :=
  ascii "CONNECT " ++ host ++ ascii ":443 HTTP/1.1\r\nHost: " ++ host ++
    ascii ":443\r\n\r\n"

/-! ## Facts about the head detector -/

theorem findCrlf2_le {s : List UInt8} {e : Nat}
    (found : findCrlf2 s = some e) : e + 4 ≤ s.length := by
  induction s generalizing e with
  | nil =>
      cases found
  | cons b rest inductionHypothesis =>
      simp only [findCrlf2] at found
      split at found
      · next here =>
        cases found
        have length := congrArg List.length here
        simp only [List.length_take] at length
        change min 4 (b :: rest).length = 4 at length
        omega
      · obtain ⟨e', found', rfl⟩ := Option.map_eq_some_iff.mp found
        have inside := inductionHypothesis found'
        simp only [List.length_cons]
        omega

theorem findCrlf2_append {front : List UInt8} {e : Nat} (back : List UInt8)
    (found : findCrlf2 front = some e) :
    findCrlf2 (front ++ back) = some e := by
  induction front generalizing e with
  | nil =>
      cases found
  | cons b rest inductionHypothesis =>
      -- Four bytes are there, so the first four do not depend on `back`.
      have long : 4 ≤ (b :: rest).length := by
        have inside := findCrlf2_le found
        omega
      have sameStart : (b :: (rest ++ back)).take 4 = (b :: rest).take 4 := by
        rw [← List.cons_append, List.take_append_of_le_length long]
      simp only [findCrlf2, List.cons_append] at found ⊢
      rw [sameStart]
      split at found
      · next here =>
        rw [if_pos here, found]
      · next notHere =>
        obtain ⟨e', found', rfl⟩ := Option.map_eq_some_iff.mp found
        rw [if_neg notHere, inductionHypothesis found', Option.map_some]

/-! ## Facts about the rewritten head -/

section Capacity

variable {cap cap' : Nat}

theorem outAdd_eq_some_iff {out s result : List UInt8} :
    outAdd cap out s = some result ↔
      out ++ s = result ∧ result.length ≤ cap := by
  unfold outAdd
  constructor
  · intro added
    split at added
    · cases added
    · cases added
      refine ⟨rfl, ?_⟩
      rw [List.length_append]
      omega
  · rintro ⟨rfl, fits⟩
    rw [List.length_append] at fits
    rw [if_neg (by omega)]

theorem outAdd_mono (larger : cap ≤ cap') {out s result : List UInt8}
    (added : outAdd cap out s = some result) :
    outAdd cap' out s = some result := by
  rw [outAdd_eq_some_iff] at added ⊢
  exact ⟨added.1, added.2.trans larger⟩

theorem addAuthority_mono (larger : cap ≤ cap') {head host out : List UInt8}
    {target : Nat} {result : List UInt8}
    (named : addAuthority head cap target host out = some result) :
    addAuthority head cap' target host out = some result := by
  unfold addAuthority at named ⊢
  split at named
  · next originForm =>
    rw [if_pos originForm]
    obtain ⟨scheme, schemed, hosted⟩ := Option.bind_eq_some_iff.mp named
    exact
      Option.bind_eq_some_iff.mpr
        ⟨scheme, outAdd_mono larger schemed, outAdd_mono larger hosted⟩
  · next absoluteForm =>
    rw [if_neg absoluteForm]
    exact named

theorem copyLine_mono (larger : cap ≤ cap') {head out result : List UInt8}
    {line : Nat × Nat} (copied : copyLine head cap out line = some result) :
    copyLine head cap' out line = some result := by
  unfold copyLine at copied ⊢
  split at copied
  · next dropped =>
    rw [if_pos dropped]
    exact copied
  · next kept =>
    rw [if_neg kept]
    exact outAdd_mono larger copied

theorem copyLines_mono (larger : cap ≤ cap') {head : List UInt8}
    (lines : List (Nat × Nat)) {out result : List UInt8}
    (copied : lines.foldlM (copyLine head cap) out = some result) :
    lines.foldlM (copyLine head cap') out = some result := by
  induction lines generalizing out with
  | nil =>
      exact copied
  | cons line rest inductionHypothesis =>
      rw [List.foldlM_cons] at copied ⊢
      obtain ⟨middle, first, others⟩ := Option.bind_eq_some_iff.mp copied
      exact
        Option.bind_eq_some_iff.mpr
          ⟨middle, copyLine_mono larger first, inductionHypothesis others⟩

/-- A rewrite that fits one capacity comes out the same with a larger one. -/
theorem httpRewrite_mono (larger : cap ≤ cap') {head : List UInt8}
    {origIp : UInt32} {hostN : Nat} {result : List UInt8 × List UInt8}
    (rewritten : httpRewrite head origIp cap hostN = some result) :
    httpRewrite head origIp cap' hostN = some result := by
  unfold httpRewrite at rewritten ⊢
  simp only [Option.bind_eq_bind, Option.bind_eq_some_iff] at rewritten ⊢
  obtain
    ⟨line, isLine, start, started, middle, named, requestOut, requested,
      headersOut, copied, out, ended, same⟩ := rewritten
  exact
    ⟨line, isLine, start, outAdd_mono larger started, middle,
      addAuthority_mono larger named, requestOut,
      outAdd_mono larger requested, headersOut,
      copyLines_mono larger _ copied, out, outAdd_mono larger ended, same⟩

theorem httpRewrite_length {head : List UInt8} {origIp : UInt32} {hostN : Nat}
    {out host : List UInt8}
    (rewritten : httpRewrite head origIp cap hostN = some (out, host)) :
    out.length ≤ cap := by
  unfold httpRewrite at rewritten
  simp only [Option.bind_eq_bind, Option.bind_eq_some_iff] at rewritten
  obtain
    ⟨_, _, _, _, _, _, _, _, _, _, last, ended, same⟩ := rewritten
  cases same
  exact (outAdd_eq_some_iff.mp ended).2

end Capacity

end VeteraBridge.Proxy

import VeteraBridge.Lib.FormEncoding
import VeteraBridge.Proxy.Request
import VeteraBridge.Wifi.Networks

/-!
# Forms

`handler_wifi_add` and `handler_proxy_post`: a body is received into one buffer,
its fields are copied into others and decoded into more.  The server's
`httpd_query_key_value` is a parameter; `QueryLaws` says what is known of it.
-/

namespace VeteraBridge.Web

open Proxy (ascii cstr strlcpy nameIs Settings proxySet proxyGet proxyHostMax
  storeSettings)
open Wifi (WifiList WifiCred wifiListAdd addIndex wifiListMax)
open FormEncoding

/-! ## Numbers -/

def isspace (c : UInt8) : Bool := c == 32 || (9 ≤ c && c ≤ 13)

/-- The value of the digits a text begins with. -/
def digitsValue (base : Nat) : Nat → List UInt8 → Nat
  | value, [] => value
  | value, c :: rest =>
    match hexValue c with
    | some d =>
      if d < base then digitsValue base (value * base + d) rest else value
    | none => value

/-- `strtol`, for texts too short to overflow and without room for a prefix. -/
def strtol (base : Nat) (text : List UInt8) : Int :=
  match text.dropWhile isspace with
  | [] => 0
  | c :: rest =>
    if c = 45 then -(digitsValue base 0 rest : Int)
    else if c = 43 then digitsValue base 0 rest
    else digitsValue base 0 (c :: rest)

/-! ## Helpers -/

/-- The byte of two digits, as `(char)strtol(hex, NULL, 16)`. -/
def hexByte (hi lo : UInt8) : UInt8 :=
  UInt8.ofNat (strtol 16 [hi, lo] % 256).toNat

/-- The loop of `form_decode` with the output so far. -/
def formDecodeFrom (n : Nat) : List UInt8 → List UInt8 → List UInt8
  | [], dst => dst
  | c :: rest, dst =>
    if dst.length + 1 < n then
      if c = 43 then formDecodeFrom n rest (dst ++ [32])
      else if c = 37 then
        match rest with
        | hi :: lo :: rest => formDecodeFrom n rest (dst ++ [hexByte hi lo])
        | rest => formDecodeFrom n rest (dst ++ [c])
      else formDecodeFrom n rest (dst ++ [c])
    else dst

/-- `form_decode` into a buffer of `n` bytes. -/
def formDecode (src : List UInt8) (n : Nat) : List UInt8 :=
  formDecodeFrom n (cstr src) []

/-- `recv_body` into a buffer of `size` bytes; `none` when a read fails.  Short
reads only split what is read. -/
def recvBody (received : Bool) (content : List UInt8) (size : Nat) :
    Option (List UInt8) :=
  if received then some (content.take (size - 1)) else none

inductive QueryStatus where
  | ok
  | trunc
  | notFound
deriving DecidableEq, Repr

/-- `httpd_query_key_value`: from a body, a key and a size, the status and the
text left in a cleared buffer. -/
abbrev QueryFn := List UInt8 → List UInt8 → Nat → QueryStatus × List UInt8

/-! ## Handlers -/

/-- `handler_wifi_add`: the list `wifi_list_add` leaves, `none` when nothing is
stored.  The kick after it is in `Wifi.handlerWifiAdd`. -/
def handlerWifiAdd (query : QueryFn) (list : WifiList) (received : Bool)
    (content : List UInt8) : Option WifiList :=
  match recvBody received content 256 with
  | none => none
  | some buf =>
    let (status, ns) := query buf (ascii "ssid") 64
    if status = .ok then
      let np := (query buf (ascii "pass") 80).2
      wifiListAdd list (some (formDecode ns 64)) (some (formDecode np 80))
    else
      none

/-- `presets`: hosts and ports. -/
def presets : List (List UInt8 × UInt16) :=
  [3130, 3129, 3131, 3132, 3128, 3127].map fun port =>
    (ascii "176.103.221.33", port)

/-- `proxy_preset_get`. -/
def proxyPresetGet (i : Int) : Option (List UInt8 × UInt16) :=
  if 0 ≤ i ∧ i < presets.length then presets[i.toNat]? else none

/-- Without outer spaces. -/
def trimSpaces (s : List UInt8) : List UInt8 :=
  (s.dropWhile (· == 32)).rdropWhile (· == 32)

/-- `handler_proxy_post`: the call of `proxy_set`, if there is one. -/
def handlerProxyPost (query : QueryFn) (settings : Settings) (received : Bool)
    (content : List UInt8) : Option (Bool × List UInt8 × UInt16) :=
  match recvBody received content 256 with
  | none => none
  | some buf =>
    let (status, v) := query buf (ascii "px") 8
    if status ≠ .ok then none
    else if v = ascii "off" then
      let (_, host, port) := proxyGet settings proxyHostMax
      some (false, host, port)
    else if v = ascii "custom" then
      let raw := (query buf (ascii "host") (proxyHostMax * 3)).2
      let rp := (query buf (ascii "port") 8).2
      let nh := formDecode raw proxyHostMax
      let s := trimSpaces (cstr nh)
      let np := strtol 10 rp
      if s ≠ [] ∧ 32 ∉ s ∧ 0 < np ∧ np ≤ 65535 then
        some (true, s, UInt16.ofNat np.toNat)
      else
        none
    else
      (proxyPresetGet (strtol 10 v)).map fun p => (true, p.1, p.2)

/-! ## What is known of the server -/

/-- The body of a form. -/
def formBody (pairs : List (List UInt8 × List UInt8)) : List UInt8 :=
  List.intercalate [38] (pairs.map fun p => p.1 ++ 61 :: p.2)

/-- A value in a buffer of `size` bytes, with the status that tells whether it
is whole. -/
def answer (size : Nat) : Option (List UInt8) → QueryStatus × List UInt8
  | none => (.notFound, [])
  | some value =>
    if value.length < size then (.ok, value)
    else (.trunc, value.take (size - 1))

/-- A pair whose key and value hold no separator. -/
def PlainPair (p : List UInt8 × List UInt8) : Prop :=
  0 ∉ p.1 ∧ 38 ∉ p.1 ∧ 61 ∉ p.1 ∧ 0 ∉ p.2 ∧ 38 ∉ p.2

/-- What may follow the last pair: nothing, or a piece that is no pair. -/
def PlainTail (tail : List UInt8) : Prop :=
  tail = [] ∨ ∃ rest, tail = 38 :: rest ∧ 0 ∉ rest ∧ 38 ∉ rest ∧ 61 ∉ rest

/-- `httpd_query_key_value` finds the first pair with the key and copies at most
the buffer. -/
structure QueryLaws (query : QueryFn) : Prop where
  finds :
    ∀ (pairs : List (List UInt8 × List UInt8)) (tail key : List UInt8)
      (size : Nat),
      pairs ≠ [] → (∀ p ∈ pairs, PlainPair p) → PlainTail tail → 0 < size →
      query (formBody pairs ++ tail) key size =
        answer size
          ((pairs.find? fun p => nameIs p.1 key).map fun p => p.2)

/-- A function that does this: it reads the pieces between the ampersands. -/
def piecesQuery : QueryFn := fun body key size =>
  answer size
    ((((body.splitOn 38).filterMap fun piece =>
        (piece.findIdx? (· == 61)).map fun i =>
          (piece.take i, piece.drop (i + 1))).find?
            fun p => nameIs p.1 key).map fun p => p.2)

/-- The pair a piece reads as. -/
theorem findIdx_pair {p : List UInt8 × List UInt8} (plain : PlainPair p) :
    (p.1 ++ 61 :: p.2).findIdx? (· == 61) = some p.1.length := by
  have absent : p.1.findIdx? (· == 61) = none := by
    apply List.findIdx?_eq_none_iff.mpr
    intro c member
    simpa using fun same : c = 61 => plain.2.2.1 (same ▸ member)
  simp [List.findIdx?_append, absent, List.findIdx?_cons]

theorem piecesQuery_laws : QueryLaws piecesQuery := by
  constructor
  intro pairs tail key size some plain plainTail _
  have pieces :
      (pairs.map fun p => p.1 ++ 61 :: p.2).filterMap
          (fun piece =>
            (piece.findIdx? (· == 61)).map fun i =>
              (piece.take i, piece.drop (i + 1))) = pairs := by
    rw [List.filterMap_map]
    have each :
        ∀ p ∈ pairs,
          ((fun piece : List UInt8 =>
              (piece.findIdx? (· == 61)).map fun i =>
                (piece.take i, piece.drop (i + 1))) ∘
            fun p : List UInt8 × List UInt8 => p.1 ++ 61 :: p.2) p =
          Option.some p := by
      intro p member
      simp [findIdx_pair (plain p member)]
    rw [List.filterMap_congr each, List.filterMap_some]
  have split :
      (formBody pairs).splitOn 38 = pairs.map fun p => p.1 ++ 61 :: p.2 := by
    apply List.splitOn_intercalate
    · intro piece member
      obtain ⟨p, inside, rfl⟩ := List.mem_map.mp member
      have here := plain p inside
      simp [here.2.1, here.2.2.2.2]
    · simpa using some
  rw [piecesQuery]
  rcases plainTail with rfl | ⟨rest, rfl, _, noAmp, noEquals⟩
  · rw [List.append_nil, split, pieces]
  · have noPair : rest.findIdx? (· == 61) = none := by
      apply List.findIdx?_eq_none_iff.mpr
      intro c member
      simpa using fun same : c = 61 => noEquals (same ▸ member)
    rw [List.splitOn_append_cons_self, split, List.splitOn_eq_singleton noAmp,
      List.filterMap_append, pieces]
    simp [noPair]

/-! ## Decoding -/

theorem isspace_digit {c : UInt8} {value : Nat}
    (digit : hexValue c = some value) : isspace c = false := by
  have range := hexValue_range digit
  have notSpace : c ≠ 32 := by
    rintro rfl
    have value : (32 : UInt8).toNat = 32 := rfl
    omega
  have notControl : ¬ c ≤ 13 := by
    rw [UInt8.le_iff_toNat_le]
    have value : (13 : UInt8).toNat = 13 := rfl
    omega
  simp [isspace, notSpace, notControl]

/-- A number that begins with a digit has no sign. -/
theorem strtol_digit {base : Nat} {c : UInt8} {value : Nat}
    (digit : hexValue c = some value) (rest : List UInt8) :
    strtol base (c :: rest) = digitsValue base 0 (c :: rest) := by
  have notMinus : c ≠ 45 := by
    rintro rfl
    have none : hexValue 45 = none := by decide
    cases none.symm.trans digit
  have notPlus : c ≠ 43 := by
    rintro rfl
    have none : hexValue 43 = none := by decide
    cases none.symm.trans digit
  rw [strtol, List.dropWhile_cons_of_neg (by simp [isspace_digit digit])]
  simp only [if_neg notMinus, if_neg notPlus]

/-- `form_decode` reads every escape. -/
theorem hexByte_reads : Reads hexByte := by
  intro c hi lo isEscape
  obtain ⟨high, low⟩ := isEscape
  have small := c.toNat_lt
  have highSmall : c.toNat / 16 < 16 := by omega
  have lowSmall : c.toNat % 16 < 16 := by omega
  have value : strtol 16 [hi, lo] = (c.toNat : Int) := by
    rw [strtol_digit high]
    simp only [digitsValue, high, low, highSmall, lowSmall, if_true]
    omega
  rw [hexByte, value]
  apply UInt8.toNat_inj.mp
  rw [UInt8.toNat_ofNat']
  omega

/-- One more byte in the buffer. -/
theorem append_take_step {n : Nat} {dst : List UInt8} (room : dst.length + 1 < n)
    (c : UInt8) (rest : List UInt8) :
    dst ++ (c :: rest).take (n - 1 - dst.length) =
      (dst ++ [c]) ++ rest.take (n - 1 - (dst ++ [c]).length) := by
  have more : n - 1 - dst.length = n - 1 - (dst.length + 1) + 1 := by omega
  rw [more, List.take_succ_cons, List.length_append, List.length_singleton,
    List.append_assoc, List.singleton_append]

/-- `form_decode` decodes, and stops when its buffer is full. -/
theorem formDecodeFrom_eq {n : Nat} (src dst : List UInt8)
    (room : dst.length + 1 ≤ n) :
    formDecodeFrom n src dst =
      dst ++ (decodeWith hexByte src).take (n - 1 - dst.length) := by
  fun_induction formDecodeFrom n src dst with
  | case1 dst =>
      simp [decodeWith]
  | case2 rest dst more inductionHypothesis =>
      rw [inductionHypothesis (by simpa [Nat.succ_le_iff] using more),
        decodeWith_plain (by decide), append_take_step more]
      rfl
  | case3 dst more hi lo rest _ inductionHypothesis =>
      rw [inductionHypothesis (by simpa [Nat.succ_le_iff] using more),
        decodeWith_escape, append_take_step more]
  | case4 dst more rest short _ inductionHypothesis =>
      have cut :
          decodeWith hexByte (37 :: rest) = 37 :: decodeWith hexByte rest := by
        rcases rest with _ | ⟨first, _ | ⟨second, rest⟩⟩
        · rfl
        · rfl
        · exact absurd rfl (short first second rest)
      rw [inductionHypothesis (by simpa [Nat.succ_le_iff] using more), cut,
        append_take_step more]
  | case5 c rest dst more notPlus notPercent inductionHypothesis =>
      rw [inductionHypothesis (by simpa [Nat.succ_le_iff] using more),
        decodeWith_plain notPercent, append_take_step more, plain,
        if_neg notPlus]
  | case6 c rest dst full =>
      have nothing : n - 1 - dst.length = 0 := by omega
      rw [nothing, List.take_zero, List.append_nil]

theorem formDecode_eq {src : List UInt8} {n : Nat} (positive : 0 < n)
    (noNul : 0 ∉ src) :
    formDecode src n = (decodeWith hexByte src).take (n - 1) := by
  have whole : cstr src = src := by
    apply List.takeWhile_eq_self_iff.mpr
    intro c member
    simpa using fun same : c = 0 => noNul (same ▸ member)
  rw [formDecode, whole, formDecodeFrom_eq src [] positive]
  simp

end VeteraBridge.Web

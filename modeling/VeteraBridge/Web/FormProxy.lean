import VeteraBridge.Web.FormStored

/-!
# What the proxy form stores

The host of a custom proxy passes three buffers, its port is read undecoded from
a buffer of eight bytes, and both share the body's buffer.
-/

namespace VeteraBridge.Web

open Proxy (ascii cstr cstr_eq_self_iff not_mem_cstr strlcpy nameIs Settings
  proxyHostMax storeSettings)
open FormEncoding

/-- The body of the form on the proxy page, with a custom proxy. -/
def proxyBody (eh et : List UInt8) : List UInt8 :=
  formBody [(ascii "px", ascii "custom"), (ascii "host", eh), (ascii "port", et)]

/-- Decimal digits. -/
def IsNumber (digits : List UInt8) : Prop :=
  digits ≠ [] ∧ ∀ c ∈ digits, ∃ value < 10, hexValue c = some value

/-! ## Numbers -/

section Numbers

variable {digits : List UInt8}

theorem digitsValue_append (front : List UInt8)
    (number : ∀ c ∈ front, ∃ value < 10, hexValue c = some value)
    (rest : List UInt8) (start : Nat) :
    digitsValue 10 start (front ++ rest) =
      digitsValue 10 (digitsValue 10 start front) rest := by
  induction front generalizing start with
  | nil =>
      rfl
  | cons c front inductionHypothesis =>
      obtain ⟨value, small, digit⟩ := number c List.mem_cons_self
      have others := inductionHypothesis
        (fun c member => number c (List.mem_cons_of_mem _ member))
      simp only [List.cons_append, digitsValue, digit, small, if_true, others]

/-- More digits make a positive number larger. -/
theorem digitsValue_lt (more : List UInt8)
    (number : ∀ c ∈ more, ∃ value < 10, hexValue c = some value)
    (some : more ≠ []) {start : Nat} (positive : 0 < start) :
    start < digitsValue 10 start more := by
  induction more generalizing start with
  | nil =>
      exact absurd rfl some
  | cons c more inductionHypothesis =>
      obtain ⟨value, small, digit⟩ := number c List.mem_cons_self
      simp only [digitsValue, digit, small, if_true]
      rcases more with _ | ⟨next, more⟩
      · simp only [digitsValue]
        omega
      · have larger :
            start * 10 + value <
              digitsValue 10 (start * 10 + value) (next :: more) :=
          inductionHypothesis
            (fun c member => number c (List.mem_cons_of_mem _ member)) (by simp)
            (by omega)
        omega

/-- What the number of cut encoded digits is: that of the digits sent as
themselves before the cut. -/
theorem digitsValue_take {sent : List UInt8} (encodes : Encodes digits sent)
    (number : ∀ c ∈ digits, ∃ value < 10, hexValue c = some value) (k : Nat) :
    ∃ j ≤ digits.length,
      (∀ start, digitsValue 10 start (sent.take k) =
        digitsValue 10 start (digits.take j)) ∧
      (j = digits.length ↔ sent = digits ∧ digits.length ≤ k) := by
  induction encodes generalizing k with
  | nil =>
      exact ⟨0, le_rfl, fun _ => by simp, by simp⟩
  | @literal c text sent isLiteral encodes inductionHypothesis =>
      rcases k with _ | k
      · exact ⟨0, Nat.zero_le _, fun _ => by simp, by simp⟩
      · obtain ⟨j, within, same, whole⟩ := inductionHypothesis
          (fun c member => number c (List.mem_cons_of_mem _ member)) k
        refine ⟨j + 1, Nat.succ_le_succ within, ?_, ?_⟩
        · intro start
          simp only [List.take_succ_cons, digitsValue, same]
        · simpa using whole
  | space encodes inductionHypothesis =>
      obtain ⟨value, _, digit⟩ := number 32 List.mem_cons_self
      have none : hexValue 32 = none := by decide
      cases none.symm.trans digit
  | @escape c hi lo text sent isEscape encodes inductionHypothesis =>
      obtain ⟨value, _, digit⟩ := number c List.mem_cons_self
      refine ⟨0, Nat.zero_le _, ?_, ?_⟩
      · intro start
        have noDigit : hexValue 37 = none := by decide
        rcases k with _ | k
        · simp
        · simp [digitsValue, noDigit]
      · refine iff_of_false (by simp) ?_
        rintro ⟨same, _⟩
        have first := (List.cons_eq_cons.mp same).1
        have none : hexValue 37 = none := by decide
        rw [first] at none
        cases none.symm.trans digit

/-- When the number of cut encoded digits is that of the digits. -/
theorem digitsValue_take_iff {sent : List UInt8}
    (encodes : Encodes digits sent)
    (number : ∀ c ∈ digits, ∃ value < 10, hexValue c = some value) (k : Nat)
    (positive : 0 < digitsValue 10 0 (sent.take k)) :
    digitsValue 10 0 (sent.take k) = digitsValue 10 0 digits ↔
      sent = digits ∧ digits.length ≤ k := by
  obtain ⟨j, within, same, whole⟩ := digitsValue_take encodes number k
  rw [same] at positive ⊢
  rw [← whole]
  constructor
  · intro equal
    by_contra short
    have split := digitsValue_append (digits.take j)
      (fun c member => number c (List.mem_of_mem_take member))
      (digits.drop j) 0
    rw [List.take_append_drop] at split
    have some : digits.drop j ≠ [] := by
      intro nothing
      have length := List.drop_eq_nil_iff.mp nothing
      omega
    have larger := digitsValue_lt (digits.drop j)
      (fun c member => number c (List.mem_of_mem_drop member)) some positive
    omega
  · rintro rfl
    rw [List.take_length]

/-- `strtol` finds neither blanks nor a sign in an encoded number. -/
theorem strtol_take {sent : List UInt8} (encodes : Encodes digits sent)
    (number : ∀ c ∈ digits, ∃ value < 10, hexValue c = some value) (k : Nat) :
    strtol 10 (sent.take k) = digitsValue 10 0 (sent.take k) := by
  rcases k with _ | k
  · rfl
  · cases encodes with
    | nil =>
        rfl
    | literal _ _ =>
        obtain ⟨value, _, digit⟩ := number _ List.mem_cons_self
        exact strtol_digit digit _
    | space _ =>
        obtain ⟨value, _, digit⟩ := number 32 List.mem_cons_self
        have none : hexValue 32 = none := by decide
        cases none.symm.trans digit
    | escape _ _ =>
        rfl

end Numbers

/-! ## Hosts -/

section Hosts

theorem trimSpaces_lead (h : List UInt8) {lead : List UInt8}
    (blank : ∀ c ∈ lead, c = 32) :
    trimSpaces (lead ++ h) = trimSpaces h := by
  rw [trimSpaces, List.dropWhile_append_of_pos (by simpa using blank),
    ← trimSpaces]

theorem rdropWhile_append_of_blank (h : List UInt8) {trail : List UInt8}
    (blank : ∀ c ∈ trail, c = 32) :
    (h ++ trail).rdropWhile (· == 32) = h.rdropWhile (· == 32) := by
  rw [List.rdropWhile, List.reverse_append,
    List.dropWhile_append_of_pos (by simpa using blank), ← List.rdropWhile]

theorem trimSpaces_trail (h : List UInt8) {trail : List UInt8}
    (blank : ∀ c ∈ trail, c = 32) :
    trimSpaces (h ++ trail) = trimSpaces h := by
  rw [trimSpaces, List.dropWhile_append]
  split_ifs with empty
  · have allBlank : trail.dropWhile (· == 32) = [] := by
      simpa using blank
    rw [allBlank, trimSpaces, List.isEmpty_iff.mp empty]
  · rw [rdropWhile_append_of_blank _ blank, ← trimSpaces]

theorem trimSpaces_sublist (h : List UInt8) : (trimSpaces h).Sublist h :=
  (List.rdropWhile_prefix _ _).sublist.trans (List.dropWhile_sublist _)

/-- A text between its outer spaces. -/
theorem trimSpaces_between (h : List UInt8) :
    ∃ lead trail, h = lead ++ trimSpaces h ++ trail ∧
      (∀ c ∈ lead, c = 32) ∧ (∀ c ∈ trail, c = 32) := by
  refine ⟨h.takeWhile (· == 32), (h.dropWhile (· == 32)).rtakeWhile (· == 32),
    ?_, ?_, ?_⟩
  · rw [List.append_assoc, trimSpaces, List.rdropWhile_append_rtakeWhile,
      List.takeWhile_append_dropWhile]
  · intro c member
    simpa using List.mem_takeWhile_imp member
  · intro c member
    simpa using List.mem_rtakeWhile_imp member

/-- Behind its last byte that is no space a text ends without spaces. -/
theorem rdropWhile_lead {core lead : List UInt8} (present : core ≠ [])
    (trimmed : core.rdropWhile (· == 32) = core) :
    (lead ++ core).rdropWhile (· == 32) = lead ++ core := by
  have last := List.rdropWhile_eq_self_iff.mp trimmed present
  rw [List.rdropWhile_eq_self_iff]
  intro notEmpty
  rwa [List.getLast_append_of_ne_nil notEmpty present]

theorem trimSpaces_trimmed (h : List UInt8) :
    (trimSpaces h).rdropWhile (· == 32) = trimSpaces h := by
  rw [trimSpaces, List.rdropWhile_idempotent]

theorem trimSpaces_again (h : List UInt8) :
    trimSpaces (trimSpaces h) = trimSpaces h := by
  obtain ⟨lead, trail, whole, leadBlank, trailBlank⟩ := trimSpaces_between h
  have same := congrArg trimSpaces whole
  rw [trimSpaces_trail _ trailBlank, trimSpaces_lead _ leadBlank] at same
  exact same.symm

/-- What arrives of a host. -/
def sentHost (h : List UInt8) : List UInt8 := trimSpaces (cstr (h.take 63))

/-- When a host arrives whole. -/
theorem sentHost_eq_iff {h : List UInt8} (present : sentHost h ≠ []) :
    sentHost h = trimSpaces h ↔
      (h.rdropWhile (· == 32)).length ≤ 63 ∧ 0 ∉ h := by
  obtain ⟨lead, trail, whole, leadBlank, trailBlank⟩ := trimSpaces_between h
  have trimmed := trimSpaces_trimmed h
  have again := trimSpaces_again h
  generalize trimSpaces h = core at whole trimmed again ⊢
  have noNulTake (noNul : 0 ∉ h) : cstr (h.take 63) = h.take 63 :=
    (cstr_eq_self_iff _).mpr fun member => noNul (List.mem_of_mem_take member)
  have blankNul (blanks : List UInt8) (blank : ∀ c ∈ blanks, c = 32) :
      0 ∉ blanks := by
    intro member
    exact absurd (blank 0 member) (by decide)
  subst whole
  by_cases coreEmpty : core = []
  · have allBlank : ∀ c ∈ (lead ++ core ++ trail).take 63, c = 32 := by
      intro c member
      have inside := List.mem_of_mem_take member
      simp only [coreEmpty, List.append_nil, List.mem_append] at inside
      exact inside.elim (leadBlank c) (trailBlank c)
    have nothing : sentHost (lead ++ core ++ trail) = [] := by
      have noNul := blankNul _ allBlank
      have blank := trimSpaces_lead [] allBlank
      rw [List.append_nil] at blank
      rw [sentHost, (cstr_eq_self_iff _).mpr noNul, blank]
      rfl
    exact absurd nothing present
  · have stripped :
        (lead ++ core ++ trail).rdropWhile (· == 32) = lead ++ core := by
      rw [rdropWhile_append_of_blank _ trailBlank,
        rdropWhile_lead coreEmpty trimmed]
    rw [stripped]
    constructor
    · intro same
      have noNul : 0 ∉ core := by
        rw [← same]
        exact fun member =>
          not_mem_cstr _ ((trimSpaces_sublist _).subset member)
      have noNulWhole : 0 ∉ lead ++ core ++ trail := by
        simp [blankNul lead leadBlank, noNul, blankNul trail trailBlank]
      refine ⟨?_, noNulWhole⟩
      by_contra long
      have cut :
          (lead ++ core ++ trail).take 63 =
            lead.take 63 ++ core.take (63 - lead.length) := by
        rw [List.take_append_of_le_length (by omega), List.take_append]
      have leadTaken : ∀ c ∈ lead.take 63, c = 32 :=
        fun c member => leadBlank c (List.mem_of_mem_take member)
      have short : core.length ≤ 63 - lead.length := by
        have sent := congrArg List.length same
        rw [sentHost, noNulTake noNulWhole, cut, trimSpaces_lead _ leadTaken]
          at sent
        have bound := (trimSpaces_sublist (core.take (63 - lead.length))).length_le
        have taken := List.length_take_le (63 - lead.length) core
        omega
      have positive : 0 < core.length := List.length_pos_of_ne_nil coreEmpty
      rw [List.length_append] at long
      omega
    · rintro ⟨short, noNul⟩
      have trailTaken :
          ∀ c ∈ trail.take (63 - (lead ++ core).length), c = 32 :=
        fun c member => trailBlank c (List.mem_of_mem_take member)
      rw [sentHost, noNulTake noNul, List.take_append,
        List.take_of_length_le short, trimSpaces_trail _ trailTaken,
        trimSpaces_lead _ leadBlank, again]

end Hosts

/-! ## The handler -/

section Handler

variable {query : QueryFn} {settings : Settings} {h digits eh et : List UInt8}

/-- What arrives of a port. -/
def sentPort (eh et : List UInt8) : Nat :=
  digitsValue 10 0 (et.take (min 7 (234 - eh.length)))

/-- The proxy is turned away: the port does not reach the body's buffer, the
host that arrives is blank or holds a space, or the port that arrives is out of
range. -/
def ProxyTurnedAway (h eh et : List UInt8) : Prop :=
  234 < eh.length ∨ sentHost h = [] ∨ 32 ∈ sentHost h ∨ sentPort eh et = 0 ∨
    65535 < sentPort eh et

/-- Host and port pass the buffers whole: the host is at most 63 bytes long
without the spaces behind it and holds no NUL, and the port is at most seven
digits, sent as they are, within the body's buffer. -/
def ProxyKept (h digits eh et : List UInt8) : Prop :=
  ((h.rdropWhile (· == 32)).length ≤ 63 ∧ 0 ∉ h) ∧
    et = digits ∧ digits.length ≤ min 7 (234 - eh.length)

/-- A custom proxy, by what the three fields read as. -/
theorem handlerProxyPost_custom {content : List UInt8} (raw rp : List UInt8)
    (kind : query (content.take 255) (ascii "px") 8 = (.ok, ascii "custom"))
    (host : (query (content.take 255) (ascii "host") (proxyHostMax * 3)).2 = raw)
    (port : (query (content.take 255) (ascii "port") 8).2 = rp) :
    handlerProxyPost query settings true content =
      if trimSpaces (cstr (formDecode raw proxyHostMax)) ≠ [] ∧
          32 ∉ trimSpaces (cstr (formDecode raw proxyHostMax)) ∧
          0 < strtol 10 rp ∧ strtol 10 rp ≤ 65535 then
        some (true, trimSpaces (cstr (formDecode raw proxyHostMax)),
          UInt16.ofNat (strtol 10 rp).toNat)
      else none := by
  have notOff : ascii "custom" ≠ ascii "off" := by decide
  simp only [handlerProxyPost, recvBody, if_true, Nat.reduceSub, kind, host,
    port, ne_eq, not_true_eq_false, if_false, notOff]

/-- The host that `form_decode` leaves. -/
theorem formDecode_host (host : Encodes h eh) {k : Nat} (room : 191 ≤ k) :
    formDecode (eh.take k) proxyHostMax = h.take 63 := by
  rw [formDecode_eq (by decide)
    fun member => host.not_mem.1 (List.mem_of_mem_take member)]
  exact host.take_decode_take hexByte_reads room

theorem proxyHead_length (eh : List UInt8) :
    (formBody ([(ascii "px", ascii "custom"), (ascii "host", eh)] ++
        [(ascii "port", [])])).length = 21 + eh.length ∧
      (formBody [(ascii "px", ascii "custom"), (ascii "host", eh)]).length =
        15 + eh.length := by
  have px : (ascii "px").length = 2 := by decide
  have custom : (ascii "custom").length = 6 := by decide
  have host : (ascii "host").length = 4 := by decide
  have port : (ascii "port").length = 4 := by decide
  constructor
  · simp [formBody, List.intercalate_cons_cons, px, custom, host, port]
    omega
  · simp [formBody, List.intercalate_cons_cons, px, custom, host]
    omega

/-- A cut in the third field's name. -/
theorem plainTail_take {n : Nat} (short : n ≤ 5) (et : List UInt8) :
    PlainTail ((38 :: (ascii "port" ++ 61 :: et)).take n) := by
  rcases n with _ | n
  · exact Or.inl rfl
  · have port : (ascii "port").length = 4 := by decide
    have plain : 0 ∉ ascii "port" ∧ 38 ∉ ascii "port" ∧ 61 ∉ ascii "port" := by
      decide
    refine Or.inr ⟨(ascii "port").take n, ?_, ?_, ?_, ?_⟩
    · rw [List.take_succ_cons, List.take_append_of_le_length (by omega)]
    · exact fun member => plain.1 (List.mem_of_mem_take member)
    · exact fun member => plain.2.1 (List.mem_of_mem_take member)
    · exact fun member => plain.2.2 (List.mem_of_mem_take member)

/-- What the body's buffer holds of the form: the three fields with the port
cut, or the first two with the host cut and at most a piece of the third. -/
theorem proxyBody_take (eh et : List UInt8) :
    (eh.length ≤ 234 ∧
      (proxyBody eh et).take 255 =
        formBody [(ascii "px", ascii "custom"), (ascii "host", eh),
          (ascii "port", et.take (234 - eh.length))]) ∨
      (234 < eh.length ∧ ∃ tail, PlainTail tail ∧
        (proxyBody eh et).take 255 =
          formBody [(ascii "px", ascii "custom"), (ascii "host", eh.take 240)] ++
            tail) := by
  obtain ⟨whole, two⟩ := proxyHead_length eh
  by_cases fits : eh.length ≤ 234
  · refine Or.inl ⟨fits, ?_⟩
    have cut := formBody_take
      [(ascii "px", ascii "custom"), (ascii "host", eh)] (ascii "port") et
      (n := 255) (by omega)
    have room : 255 - (21 + eh.length) = 234 - eh.length := by omega
    rw [whole, room] at cut
    exact cut
  · refine Or.inr ⟨by omega,
      (38 :: (ascii "port" ++ 61 :: et)).take (240 - eh.length),
      plainTail_take (by omega) et, ?_⟩
    have first :
        (formBody [(ascii "px", ascii "custom"), (ascii "host", eh)]).take 255 =
          formBody
            [(ascii "px", ascii "custom"), (ascii "host", eh.take 240)] := by
      have head :
          (formBody ([(ascii "px", ascii "custom")] ++
            [(ascii "host", [])])).length = 15 := (proxyHead_length []).2
      have cut := formBody_take [(ascii "px", ascii "custom")] (ascii "host") eh
        (n := 255) (by omega)
      rw [head] at cut
      exact cut
    have snoc := formBody_snoc
      [(ascii "px", ascii "custom"), (ascii "host", eh)] (by simp)
      (ascii "port", et)
    have room : 255 - (15 + eh.length) = 240 - eh.length := by omega
    rw [proxyBody]
    simp only [List.cons_append, List.nil_append] at snoc
    rw [snoc, List.take_append, first, two, room]

theorem handlerProxyPost_eq (laws : QueryLaws query) (host : Encodes h eh)
    (port : Encodes digits et) (number : IsNumber digits) :
    handlerProxyPost query settings true (proxyBody eh et) =
      if eh.length ≤ 234 ∧ sentHost h ≠ [] ∧ 32 ∉ sentHost h ∧
          0 < sentPort eh et ∧ sentPort eh et ≤ 65535 then
        some (true, sentHost h, UInt16.ofNat (sentPort eh et))
      else none := by
  have kindPlain : PlainPair (ascii "px", ascii "custom") := by
    refine ⟨?_, ?_, ?_, ?_, ?_⟩ <;> decide
  have hostPlain (k : Nat) : PlainPair (ascii "host", eh.take k) :=
    PlainPair.of_encodes (ascii "host") host k (by decide)
  have portPlain (k : Nat) : PlainPair (ascii "port", et.take k) :=
    PlainPair.of_encodes (ascii "port") port k (by decide)
  have custom : (answer 8 (some (ascii "custom"))) = (.ok, ascii "custom") := by
    decide
  have pxPx : nameIs (ascii "px") (ascii "px") = true := by decide
  have pxHost : nameIs (ascii "px") (ascii "host") = false := by decide
  have pxPort : nameIs (ascii "px") (ascii "port") = false := by decide
  have hostHost : nameIs (ascii "host") (ascii "host") = true := by decide
  have hostPort : nameIs (ascii "host") (ascii "port") = false := by decide
  have portPort : nameIs (ascii "port") (ascii "port") = true := by decide
  rcases proxyBody_take eh et with ⟨fits, body⟩ | ⟨long, tail, plainTail, body⟩
  · have plain :
        ∀ p ∈ [(ascii "px", ascii "custom"), (ascii "host", eh),
          (ascii "port", et.take (234 - eh.length))], PlainPair p := by
      have whole := hostPlain eh.length
      rw [List.take_length] at whole
      simp [kindPlain, whole, portPlain]
    have answers (key : List UInt8) (size : Nat) (positive : 0 < size) :=
      laws.finds _ [] key size (by simp) plain (Or.inl rfl) positive
    simp only [List.append_nil, ← body] at answers
    rw [handlerProxyPost_custom (eh.take 191)
      (et.take (min 7 (234 - eh.length)))]
    · have hostText :
          trimSpaces (cstr (formDecode (eh.take 191) proxyHostMax)) =
            sentHost h := by
        rw [formDecode_host host le_rfl, sentHost]
      have portText :
          strtol 10 (et.take (min 7 (234 - eh.length))) =
            (sentPort eh et : Int) := by
        rw [strtol_take port number.2, sentPort]
      have inRange :
          ((sentPort eh et : Int) ≤ 65535) ↔ sentPort eh et ≤ 65535 := by omega
      simp only [hostText, portText, inRange, fits, true_and, Int.natCast_pos,
        Int.toNat_natCast]
    · rw [answers _ _ (by decide)]
      simp only [List.find?_cons, pxPx, Option.map_some, custom]
    · rw [answers _ _ (by decide)]
      simp only [List.find?_cons, pxHost, hostHost, Option.map_some, answer_text]
      rfl
    · rw [answers _ _ (by decide)]
      simp only [List.find?_cons, pxPort, hostPort, portPort, Option.map_some,
        answer_text, List.take_take, Nat.reduceSub]
  · have plain :
        ∀ p ∈ [(ascii "px", ascii "custom"), (ascii "host", eh.take 240)],
          PlainPair p := by
      simp [kindPlain, hostPlain]
    have answers (key : List UInt8) (size : Nat) (positive : 0 < size) :=
      laws.finds _ tail key size (by simp) plain plainTail positive
    simp only [← body] at answers
    rw [handlerProxyPost_custom (eh.take 191) []]
    · have noPort : strtol 10 [] = 0 := rfl
      have notFits : ¬ eh.length ≤ 234 := by omega
      simp only [noPort, notFits, false_and, lt_self_iff_false, and_false,
        if_false]
    · rw [answers _ _ (by decide)]
      simp only [List.find?_cons, pxPx, Option.map_some, custom]
    · rw [answers _ _ (by decide)]
      simp only [List.find?_cons, pxHost, hostHost, Option.map_some, answer_text,
        List.take_take]
      rfl
    · rw [answers _ _ (by decide)]
      simp only [List.find?_cons, pxPort, hostPort, List.find?_nil,
        Option.map_none, answer]

/-- The proxy is set to the submitted host and port. -/
def StoresProxy (h digits : List UInt8) (call : Bool × List UInt8 × UInt16) :
    Prop :=
  let settings := storeSettings call.1 call.2.1 call.2.2
  settings.pxOn = true ∧ settings.pxHost = trimSpaces h ∧
    settings.pxPort.toNat = digitsValue 10 0 digits

theorem sentHost_stored (h : List UInt8) :
    strlcpy (sentHost h) proxyHostMax = sentHost h := by
  have noNul : 0 ∉ sentHost h :=
    fun member => not_mem_cstr _ ((trimSpaces_sublist _).subset member)
  have short : (sentHost h).length ≤ 63 := by
    have trimmed := (trimSpaces_sublist (cstr (h.take 63))).length_le
    have before := (List.takeWhile_prefix (· ≠ 0) (l := h.take 63)).length_le
    have taken := List.length_take_le 63 h
    rw [sentHost]
    rw [← cstr] at before
    omega
  rw [strlcpy, (cstr_eq_self_iff _).mpr noNul]
  exact List.take_of_length_le short

/-- A submitted proxy is set as it was submitted, or not at all, exactly when
it is turned away or passes the buffers whole. -/
theorem proxy_stores_exactly_iff (laws : QueryLaws query)
    (host : Encodes h eh) (port : Encodes digits et)
    (number : IsNumber digits) :
    (∀ call,
      handlerProxyPost query settings true (proxyBody eh et) = some call →
        StoresProxy h digits call) ↔
      ProxyTurnedAway h eh et ∨ ProxyKept h digits eh et := by
  rw [handlerProxyPost_eq laws host port number]
  by_cases stored : eh.length ≤ 234 ∧ sentHost h ≠ [] ∧ 32 ∉ sentHost h ∧
      0 < sentPort eh et ∧ sentPort eh et ≤ 65535
  · rw [if_pos stored]
    obtain ⟨fits, present, noSpace, positive, inRange⟩ := stored
    have notAway : ¬ ProxyTurnedAway h eh et := by
      rintro (long | empty | space | zero | large)
      · omega
      · exact present empty
      · exact noSpace space
      · omega
      · omega
    have portValue : (UInt16.ofNat (sentPort eh et)).toNat = sentPort eh et := by
      rw [UInt16.toNat_ofNat']
      omega
    simp only [Option.some.injEq, forall_eq', StoresProxy, storeSettings,
      sentHost_stored, portValue, true_and, notAway, false_or]
    rw [ProxyKept, sentHost_eq_iff present]
    exact and_congr_right fun _ => digitsValue_take_iff port number.2 _ positive
  · rw [if_neg stored]
    refine iff_of_true (by simp) (Or.inl ?_)
    unfold ProxyTurnedAway
    by_contra kept
    simp only [not_or] at kept
    obtain ⟨fits, present, noSpace, positive, inRange⟩ := kept
    exact stored ⟨by omega, present, noSpace, by omega, by omega⟩

end Handler

/-- Both forms store what was submitted or nothing: a network exactly when it
is turned away or its name and password pass the buffers whole, a custom proxy
exactly when it is turned away or its host and port do. -/
theorem forms_store_exactly_iff {query : QueryFn} (laws : QueryLaws query) :
    (∀ (list : Wifi.WifiList) (ssid pass es ep : List UInt8),
      Encodes ssid es → Encodes pass ep → ssid ≠ [] → ssid.length ≤ 32 →
      pass.length ≤ 64 →
      ((∀ new, handlerWifiAdd query list true (wifiBody es ep) = some new →
        StoresNetwork list ssid pass new) ↔
        WifiTurnedAway list ssid pass es ep ∨ WifiKept ssid pass ep)) ∧
    (∀ (settings : Settings) (h digits eh et : List UInt8),
      Encodes h eh → Encodes digits et → IsNumber digits →
      ((∀ call,
        handlerProxyPost query settings true (proxyBody eh et) = some call →
          StoresProxy h digits call) ↔
        ProxyTurnedAway h eh et ∨ ProxyKept h digits eh et)) := by
  constructor
  · intro list ssid pass es ep name secret present short shortSecret
    exact wifi_stores_exactly_iff laws name secret present short shortSecret
  · intro settings h digits eh et host port number
    exact proxy_stores_exactly_iff laws host port number

/-- A network "me" with the password "a b" and the proxy "px:80". -/
theorem forms_store_short :
    (∀ new,
      handlerWifiAdd piecesQuery Wifi.WifiList.zero true
          (wifiBody [109, 101] [97, 43, 98]) = some new →
        StoresNetwork Wifi.WifiList.zero [109, 101] [97, 32, 98] new) ∧
    (∀ call,
      handlerProxyPost piecesQuery Settings.zero true
          (proxyBody [112, 120] [56, 48]) = some call →
        StoresProxy [112, 120] [56, 48] call) := by
  have laws := forms_store_exactly_iff piecesQuery_laws
  have digits : ∀ c ∈ ([56, 48] : List UInt8),
      ∃ value < 10, hexValue c = some value := by
    intro c member
    simp only [List.mem_cons, List.not_mem_nil, or_false] at member
    rcases member with rfl | rfl
    · exact ⟨8, by decide, by decide⟩
    · exact ⟨0, by decide, by decide⟩
  constructor
  · exact
      (laws.1 _ _ _ _ _ (.literal (by decide) (.literal (by decide) .nil))
        (.literal (by decide) (.space (.literal (by decide) .nil)))
        (by decide) (by decide) (by decide)).mpr
        (Or.inr ⟨by decide, by decide, Or.inl (by decide)⟩)
  · exact
      (laws.2 _ _ _ _ _ (.literal (by decide) (.literal (by decide) .nil))
        (.literal (by decide) (.literal (by decide) .nil))
        ⟨by decide, digits⟩).mpr
        (Or.inr ⟨⟨by decide, by decide⟩, rfl, by decide⟩)

/-- A password of thirty letters that are all sent as escapes is stored
cut. -/
theorem escaped_password_is_cut :
    ¬ ∀ query : QueryFn, QueryLaws query →
      (∀ (list : Wifi.WifiList) (ssid pass es ep : List UInt8),
        Encodes ssid es → Encodes pass ep → ssid ≠ [] → ssid.length ≤ 32 →
        pass.length ≤ 64 →
        ∀ new, handlerWifiAdd query list true (wifiBody es ep) = some new →
          StoresNetwork list ssid pass new) ∧
      (∀ (settings : Settings) (h digits eh et : List UInt8),
        Encodes h eh → Encodes digits et → IsNumber digits →
        ∀ call,
          handlerProxyPost query settings true (proxyBody eh et) = some call →
            StoresProxy h digits call) := by
  intro always
  have escaped (n : Nat) :
      Encodes (List.replicate n 97) (List.replicate n [37, 54, 49]).flatten := by
    induction n with
    | zero => exact .nil
    | succ n inductionHypothesis =>
        exact .escape (c := 97) ⟨by decide, by decide⟩ inductionHypothesis
  have name : Encodes [97] [97] := .literal (by decide) .nil
  have stores := (always piecesQuery piecesQuery_laws).1 Wifi.WifiList.zero _ _
    _ _ name (escaped 30) (by decide) (by decide) (by decide)
  rcases (wifi_stores_exactly_iff piecesQuery_laws name (escaped 30) (by decide)
    (by decide) (by decide)).mp stores with away | ⟨_, _, short | harmless⟩
  · rcases away with long | nul | full | ⟨length, _⟩
    · exact absurd long (by decide)
    · exact absurd nul (by decide)
    · exact absurd full (by decide)
    · exact absurd length (by decide)
  · exact absurd short (by decide)
  · have letters : ∀ c ∈ List.replicate 30 (97 : UInt8), c ≠ 37 := by
      intro c member
      rw [List.eq_of_mem_replicate member]
      decide
    obtain ⟨front, _, _, ⟨_, text, _⟩ | ⟨_, text, _⟩⟩ := harmless
    · rw [text] at letters
      exact letters 37 (by simp) rfl
    · rw [text] at letters
      exact letters 37 (by simp) rfl

end VeteraBridge.Web

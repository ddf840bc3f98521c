import VeteraBridge.Proxy.RewriteSpec

/-!
# Folded headers

A header line that begins with a blank goes on with the header before it.
`http_rewrite` leaves out a header of connection management line by line, so
what such a header goes on with stays behind, and then belongs to the header
before.  Here is what the proxy reads of a rewritten head, header by header.
-/

namespace VeteraBridge.Proxy

open CrlfLines (lines unfoldLines unfoldLines_line unfoldLines_cons)

/-! ## Headers -/

/-- A name and its value, unfolded. -/
abbrev Header := List UInt8 × List UInt8

def splitHeader (line : List UInt8) : Header :=
  match memchr line 58 with
  | some c => (line.take c, trimBlanks (line.drop (c + 1)))
  | none => (line, [])

/-- The headers of a head, if the request line is not folded. -/
def logicalHeaders (head : List UInt8) : Option (List Header) :=
  let unfolded :=
    unfoldLines isBlank (lines cr lf (head.take (head.length - 4))).tail
  if unfolded.1 = [] then some (unfolded.2.map splitHeader) else none

def managedName (name : List UInt8) : Bool :=
  nameIs name (ascii "connection") || nameIs name (ascii "proxy-connection") ||
    nameIs name (ascii "keep-alive")

/-- Without the headers of connection management, and with two that close the
connection. -/
def closing (headers : List Header) : List Header :=
  headers.filter (fun header => !managedName header.1) ++
    [(ascii "Connection", ascii "close"),
      (ascii "Proxy-Connection", ascii "close")]

/-- A character of a header's name. -/
def isTchar (c : UInt8) : Bool :=
  (48 ≤ c && c ≤ 57) || (65 ≤ c && c ≤ 90) || (97 ≤ c && c ≤ 122) ||
    (ascii "!#$%&'*+-.^_|~").contains c || c == 96

/-- A character of a header's value. -/
def isFieldChar (c : UInt8) : Bool := c == tab || (32 ≤ c && c != 127)

/-- A header as it is sent: its name, what is behind the colon, and the lines
that go on with it. -/
structure HeaderField where
  name : List UInt8
  value : List UInt8
  folds : List (List UInt8)
  namePresent : name ≠ []
  nameToken : ∀ c ∈ name, isTchar c = true
  valueText : ∀ c ∈ value, isFieldChar c = true
  foldsBlank : ∀ line ∈ folds, line.head?.any isBlank = true
  foldsText : ∀ line ∈ folds, ∀ c ∈ line, isFieldChar c = true

namespace HeaderField

/-- The line of the name. -/
def line (f : HeaderField) : List UInt8 := f.name ++ 58 :: f.value

def lines (f : HeaderField) : List (List UInt8) := f.line :: f.folds

/-- The header unfolded. -/
def header (f : HeaderField) : Header :=
  (f.name, trimBlanks (f.value ++ f.folds.flatten))

def managed (f : HeaderField) : Bool := managedName f.name

/-- The lines of it that are copied. -/
def kept (f : HeaderField) : List (List UInt8) :=
  if f.managed then f.folds else f.lines

end HeaderField

/-- Lines of a header that is left out hold blanks only, and stand behind a
header that is kept. -/
structure FoldsStay (fields : List HeaderField) : Prop where
  blank :
    ∀ f ∈ fields, f.managed = true →
      ∀ line ∈ f.folds, ∀ c ∈ line, isBlank c = true
  behind : ∀ f ∈ fields.takeWhile HeaderField.managed, f.folds = []

/-! ## Blanks around a value -/

theorem rdropWhile_append_of_all (v : List UInt8) {more : List UInt8}
    (blank : ∀ c ∈ more, isBlank c = true) :
    (v ++ more).rdropWhile isBlank = v.rdropWhile isBlank := by
  induction more using List.reverseRecOn with
  | nil => rw [List.append_nil]
  | append_singleton more c inductionHypothesis =>
      have last := blank c (by simp)
      rw [← List.append_assoc, List.rdropWhile_concat_pos _ _ _ last]
      exact inductionHypothesis fun c member =>
        blank c (List.mem_append_left _ member)

theorem trimBlanks_append_of_all (v : List UInt8) {more : List UInt8}
    (blank : ∀ c ∈ more, isBlank c = true) :
    trimBlanks (v ++ more) = trimBlanks v := by
  rw [trimBlanks, trimBlanks, List.dropWhile_append]
  split
  · next empty =>
    rw [List.isEmpty_iff] at empty
    rw [empty, List.dropWhile_eq_nil_iff.mpr blank]
  · exact rdropWhile_append_of_all _ blank

theorem countP_dropWhile (v : List UInt8) :
    (v.dropWhile isBlank).countP (fun c => !isBlank c) =
      v.countP fun c => !isBlank c := by
  induction v with
  | nil => rfl
  | cons c rest inductionHypothesis =>
      cases isB : isBlank c with
      | true =>
          rw [List.dropWhile_cons_of_pos isB, inductionHypothesis,
            List.countP_cons_of_neg (by simp [isB])]
      | false => rw [List.dropWhile_cons_of_neg (by simp [isB])]

/-- Trimming takes no other characters. -/
theorem countP_trimBlanks (v : List UInt8) :
    (trimBlanks v).countP (fun c => !isBlank c) =
      v.countP fun c => !isBlank c := by
  rw [trimBlanks, List.rdropWhile, List.countP_reverse, countP_dropWhile,
    List.countP_reverse, countP_dropWhile]

/-- A value stays what it is if blanks are put behind it, and only then. -/
theorem trimBlanks_append_eq_iff (v more : List UInt8) :
    trimBlanks (v ++ more) = trimBlanks v ↔ ∀ c ∈ more, isBlank c = true := by
  constructor
  · intro same
    have counts := congrArg (List.countP fun c => !isBlank c) same
    rw [countP_trimBlanks, countP_trimBlanks, List.countP_append,
      Nat.add_eq_left, List.countP_eq_zero] at counts
    intro c member
    simpa using counts c member
  · exact trimBlanks_append_of_all v

/-! ## What a field is -/

section Characters

variable {c : UInt8}

theorem fieldChar_ne_cr (text : isFieldChar c = true) : c ≠ cr := by
  rintro rfl
  cases text

theorem tchar_ne_colon (token : isTchar c = true) : c ≠ 58 := by
  rintro rfl
  revert token
  decide

theorem tchar_ne_cr (token : isTchar c = true) : c ≠ cr := by
  rintro rfl
  revert token
  decide

theorem tchar_not_blank (token : isTchar c = true) : isBlank c = false := by
  rw [Bool.eq_false_iff]
  intro blank
  unfold isBlank at blank
  rcases Bool.or_eq_true_iff.mp blank with isSpace | isTab
  · rw [beq_iff_eq.mp isSpace] at token
    revert token
    decide
  · rw [beq_iff_eq.mp isTab] at token
    revert token
    decide

end Characters

/-- No managed name begins with a blank. -/
theorem managedName_blank {name : List UInt8}
    (begins : name.head?.any isBlank = true) : managedName name = false := by
  cases name with
  | nil => cases begins
  | cons c rest =>
      have blank : isBlank c = true := begins
      have lower : tolower c = c := by
        unfold isBlank at blank
        rcases Bool.or_eq_true_iff.mp blank with isSpace | isTab
        · rw [beq_iff_eq.mp isSpace]
          decide
        · rw [beq_iff_eq.mp isTab]
          decide
      have other (known : List UInt8) (letter : UInt8) (more : List UInt8)
          (letters : known.map tolower = letter :: more)
          (plain : isBlank letter = false) : nameIs (c :: rest) known = false := by
        rw [Bool.eq_false_iff]
        intro same
        unfold nameIs at same
        rw [Bool.and_eq_true, beq_iff_eq, beq_iff_eq, letters, List.map_cons,
          List.cons.injEq, lower] at same
        rw [same.2.1, plain] at blank
        cases blank
      rw [managedName, other _ 99 _ rfl (by decide),
        other _ 112 _ rfl (by decide), other _ 107 _ rfl (by decide)]
      rfl

namespace HeaderField

variable (f : HeaderField)

theorem colon_not_mem_name : 58 ∉ f.name :=
  fun member => tchar_ne_colon (f.nameToken 58 member) rfl

theorem line_begins : f.line.head?.any isBlank = false := by
  rw [line]
  cases name : f.name with
  | nil => exact absurd name f.namePresent
  | cons c rest =>
      have inName : c ∈ f.name := by
        rw [name]
        exact List.mem_cons_self
      exact tchar_not_blank (f.nameToken c inName)

theorem splitHeader_line (more : List UInt8) :
    splitHeader (f.line ++ more) = (f.name, trimBlanks (f.value ++ more)) := by
  have found : memchr (f.line ++ more) 58 = some f.name.length := by
    rw [line, List.append_assoc, List.cons_append,
      memchr_append f.colon_not_mem_name]
  rw [splitHeader, found]
  dsimp only
  rw [line, List.append_assoc, List.take_left, List.cons_append,
    List.append_cons, List.drop_left' (by simp)]

theorem isManaged_line : isManaged f.line = f.managed := by
  have found : memchr f.line 58 = some f.name.length := by
    rw [line, memchr_append f.colon_not_mem_name]
  rw [isManaged, found]
  dsimp only
  rw [line, List.take_left]
  rfl

theorem isManaged_fold {line : List UInt8} (member : line ∈ f.folds) :
    isManaged line = false := by
  have begins := f.foldsBlank line member
  unfold isManaged
  split
  · next c found =>
    apply managedName_blank
    obtain ⟨_, here⟩ := memchr_eq_some_iff.mp found
    cases line with
    | nil => cases begins
    | cons b rest =>
        cases c with
        | zero =>
            have isColon : b = 58 := Option.some.inj here
            rw [isColon] at begins
            cases begins
        | succ c => exact begins
  · rfl

/-- The lines that are copied. -/
theorem filter_lines :
    (f.lines.filter fun line => !isManaged line) = f.kept := by
  have folds : (f.folds.filter fun line => !isManaged line) = f.folds := by
    rw [List.filter_eq_self]
    intro line member
    rw [f.isManaged_fold member]
    rfl
  rw [lines, List.filter_cons, folds, f.isManaged_line, kept]
  cases f.managed with
  | true => rfl
  | false => rfl

theorem lines_present : ∀ line ∈ f.lines, line ≠ [] := by
  intro line member
  rcases List.mem_cons.mp member with rfl | fold
  · simp [HeaderField.line]
  · rintro rfl
    cases f.foldsBlank [] fold

theorem lines_plain : ∀ line ∈ f.lines, cr ∉ line := by
  intro line member isCr
  rcases List.mem_cons.mp member with rfl | fold
  · rcases List.mem_append.mp isCr with inName | behind
    · exact tchar_ne_cr (f.nameToken cr inName) rfl
    · rcases List.mem_cons.mp behind with same | inValue
      · cases same
      · exact fieldChar_ne_cr (f.valueText cr inValue) rfl
  · exact fieldChar_ne_cr (f.foldsText line fold cr isCr) rfl

end HeaderField

/-! ## What is left behind -/

/-- The text that is left of the headers left out at the beginning. -/
def leftBehind (fields : List HeaderField) : List UInt8 :=
  ((fields.takeWhile HeaderField.managed).flatMap HeaderField.folds).flatten

/-- The headers that are kept, each with what it then goes on with. -/
def keptHeaders : List HeaderField → List Header
  | [] => []
  | f :: rest =>
      if f.managed then keptHeaders rest
      else
        (f.name, trimBlanks (f.value ++ (f.folds.flatten ++ leftBehind rest))) ::
          keptHeaders rest

theorem leftBehind_managed {f : HeaderField} (managed : f.managed = true)
    (rest : List HeaderField) :
    leftBehind (f :: rest) = f.folds.flatten ++ leftBehind rest := by
  rw [leftBehind, List.takeWhile_cons_of_pos managed, List.flatMap_cons,
    List.flatten_append]
  rfl

theorem leftBehind_kept {f : HeaderField} (kept : f.managed = false)
    (rest : List HeaderField) : leftBehind (f :: rest) = [] := by
  rw [leftBehind, List.takeWhile_cons_of_neg (by simp [kept])]
  rfl

/-- The headers of the lines of fields. -/
theorem unfoldLines_fields (fields : List HeaderField) :
    (unfoldLines isBlank (fields.flatMap HeaderField.lines)).1 = [] ∧
      (unfoldLines isBlank (fields.flatMap HeaderField.lines)).2.map
          splitHeader = fields.map HeaderField.header := by
  induction fields with
  | nil => exact ⟨rfl, rfl⟩
  | cons f rest inductionHypothesis =>
      obtain ⟨none, others⟩ := inductionHypothesis
      rw [List.flatMap_cons, HeaderField.lines,
        unfoldLines_line f.line_begins f.foldsBlank, none, List.append_nil]
      refine ⟨rfl, ?_⟩
      rw [List.map_cons, others, f.splitHeader_line]
      rfl

/-- The headers of the lines that are copied, with lines put behind them. -/
theorem unfoldLines_kept (fields : List HeaderField)
    {ends : List (List UInt8)} (begins : (unfoldLines isBlank ends).1 = []) :
    (unfoldLines isBlank (fields.flatMap HeaderField.kept ++ ends)).1 =
        leftBehind fields ∧
      (unfoldLines isBlank (fields.flatMap HeaderField.kept ++ ends)).2.map
          splitHeader =
        keptHeaders fields ++
          (unfoldLines isBlank ends).2.map splitHeader := by
  induction fields with
  | nil => exact ⟨begins, rfl⟩
  | cons f rest inductionHypothesis =>
      obtain ⟨left, others⟩ := inductionHypothesis
      rw [List.flatMap_cons, List.append_assoc, HeaderField.kept, keptHeaders]
      cases managed : f.managed with
      | true =>
          rw [if_pos rfl, if_pos rfl, CrlfLines.unfoldLines_folds f.foldsBlank,
            leftBehind_managed managed, left]
          exact ⟨rfl, others⟩
      | false =>
          rw [if_neg Bool.false_ne_true, if_neg Bool.false_ne_true,
            HeaderField.lines, unfoldLines_line f.line_begins f.foldsBlank,
            leftBehind_kept managed, left, List.map_cons, others,
            List.append_assoc, f.splitHeader_line]
          exact ⟨rfl, rfl⟩

/-- Nothing is left at the beginning. -/
theorem leftBehind_eq_nil_iff (fields : List HeaderField) :
    leftBehind fields = [] ↔
      ∀ f ∈ fields.takeWhile HeaderField.managed, f.folds = [] := by
  have blank (f : HeaderField) : [] ∉ f.folds := fun member => by
    cases f.foldsBlank [] member
  rw [leftBehind, List.flatten_eq_nil_iff]
  constructor
  · intro none f member
    rw [List.eq_nil_iff_forall_not_mem]
    intro line fold
    have empty := none line (List.mem_flatMap.mpr ⟨f, member, fold⟩)
    exact blank f (empty ▸ fold)
  · intro none line member
    obtain ⟨f, inFront, fold⟩ := List.mem_flatMap.mp member
    rw [none f inFront] at fold
    cases fold

/-- The headers that are kept are as they were exactly if what is left behind
is blank. -/
theorem keptHeaders_eq_iff (fields : List HeaderField) :
    ((∀ c ∈ leftBehind fields, isBlank c = true) ∧
        keptHeaders fields =
          (fields.map HeaderField.header).filter
            fun header => !managedName header.1) ↔
      ∀ f ∈ fields, f.managed = true →
        ∀ line ∈ f.folds, ∀ c ∈ line, isBlank c = true := by
  induction fields with
  | nil => simp [leftBehind, keptHeaders]
  | cons f rest inductionHypothesis =>
      rw [List.forall_mem_cons, ← inductionHypothesis, List.map_cons,
        keptHeaders]
      have same : managedName f.header.1 = f.managed := rfl
      cases managed : f.managed with
      | true =>
          rw [if_pos rfl, leftBehind_managed managed,
            List.filter_cons_of_neg (by simp [same, managed]),
            List.forall_mem_append, List.forall_mem_flatten]
          tauto
      | false =>
          rw [if_neg Bool.false_ne_true, leftBehind_kept managed,
            List.filter_cons_of_pos (by simp [same, managed]), List.cons.injEq,
            HeaderField.header, Prod.mk.injEq, ← List.append_assoc,
            trimBlanks_append_eq_iff]
          simp only [List.not_mem_nil, false_imp_iff, implies_true, true_and,
            Bool.false_eq_true]

/-! ## What the proxy reads -/

theorem logicalHeaders_head {line : List UInt8} {headers : List (List UInt8)}
    (plain : ∀ text ∈ line :: headers, cr ∉ text) :
    logicalHeaders
        (line ++ crlf ++ headers.flatMap (· ++ crlf) ++ crlf) =
      if (unfoldLines isBlank headers).1 = [] then
        some ((unfoldLines isBlank headers).2.map splitHeader)
      else none := by
  obtain ⟨text, whole, isLines⟩ := RequestHead.lines_head plain
  rw [whole, logicalHeaders, RequestHead.length_crlf2, List.take_left, isLines,
    List.tail_cons]

section Rewritten

variable {h : RequestHead} {fields : List HeaderField}

theorem logicalHeaders_bytes
    (made : h.headers = fields.flatMap HeaderField.lines) :
    logicalHeaders h.bytes = some (fields.map HeaderField.header) := by
  obtain ⟨none, headers⟩ := unfoldLines_fields fields
  rw [RequestHead.bytes, logicalHeaders_head h.lines_plain, made, if_pos none,
    headers]

theorem logicalHeaders_proxied
    (made : h.headers = fields.flatMap HeaderField.lines) {host : List UInt8}
    (plain : cr ∉ host) :
    logicalHeaders (h.proxied host) =
      if leftBehind fields = [] then
        some (keptHeaders fields ++
          [(ascii "Connection", ascii "close"),
            (ascii "Proxy-Connection", ascii "close")])
      else none := by
  have kept :
      (h.headers.filter fun line => !isManaged line) =
        fields.flatMap HeaderField.kept := by
    rw [made, List.filter_flatMap]
    exact List.flatMap_congr fun f _ => f.filter_lines
  have whole :
      h.proxied host =
        (h.method ++ space :: authority (h.target.head? == some 47) host ++
            h.target ++ space :: h.rest) ++ crlf ++
          ((h.headers.filter fun line => !isManaged line) ++
            [closeLine, proxyCloseLine]).flatMap (· ++ crlf) ++ crlf := by
    rw [RequestHead.proxied]
    simp
  have request :
      cr ∉ h.method ++ space :: authority (h.target.head? == some 47) host ++
        h.target ++ space :: h.rest := by
    have notSpace : cr ≠ space := by decide
    simp [h.methodPlain.1, h.targetPlain.1, h.restPlain, notSpace,
      cr_not_mem_authority _ plain]
  have plainLines :
      ∀ text ∈ (h.method ++
          space :: authority (h.target.head? == some 47) host ++
            h.target ++ space :: h.rest) ::
          ((h.headers.filter fun line => !isManaged line) ++
            [closeLine, proxyCloseLine]), cr ∉ text := by
    intro text member
    rcases List.mem_cons.mp member with rfl | behind
    · exact request
    · rcases List.mem_append.mp behind with header | isClose
      · exact (h.headersPlain text (List.mem_filter.mp header).1).1
      · rcases List.mem_pair.mp isClose with rfl | rfl
        · decide
        · decide
  have ends : (unfoldLines isBlank [closeLine, proxyCloseLine]).1 = [] := by
    decide
  have closed :
      (unfoldLines isBlank [closeLine, proxyCloseLine]).2.map splitHeader =
        [(ascii "Connection", ascii "close"),
          (ascii "Proxy-Connection", ascii "close")] := by
    decide
  obtain ⟨left, headers⟩ := unfoldLines_kept fields ends
  rw [whole, logicalHeaders_head plainLines, kept, left, headers, closed]

/-- The proxy reads the headers of the head, without those of connection
management and with two that close the connection, exactly if the headers that
are left out leave nothing behind. -/
theorem logicalHeaders_closing_iff {origIp : UInt32} {cap : Nat}
    {out host : List UInt8}
    (made : h.headers = fields.flatMap HeaderField.lines)
    (written : httpRewrite h.bytes origIp cap hostSz = some (out, host)) :
    logicalHeaders out = (logicalHeaders h.bytes).map closing ↔
      FoldsStay fields := by
  have isOut : out = h.proxied host ∧ cr ∉ host := by
    obtain ⟨le, target, isLine, rfl, rfl, _⟩ :=
      httpRewrite_eq_some_iff.mp written
    cases h.requestLine_bytes.symm.trans isLine
    exact ⟨h.rewritten_bytes _, cr_not_mem_requestHost _ _ _ _⟩
  have stays : FoldsStay fields ↔
      leftBehind fields = [] ∧
        keptHeaders fields =
          (fields.map HeaderField.header).filter
            fun header => !managedName header.1 := by
    constructor
    · intro folds
      exact ⟨(leftBehind_eq_nil_iff fields).mpr folds.behind,
        ((keptHeaders_eq_iff fields).mpr folds.blank).2⟩
    · rintro ⟨none, same⟩
      refine ⟨(keptHeaders_eq_iff fields).mp ⟨?_, same⟩,
        (leftBehind_eq_nil_iff fields).mp none⟩
      simp [none]
  rw [isOut.1, logicalHeaders_bytes made, logicalHeaders_proxied made isOut.2,
    stays, Option.map_some, closing]
  by_cases empty : leftBehind fields = []
  · rw [if_pos empty, Option.some.injEq, List.append_left_inj,
      and_iff_right empty]
  · rw [if_neg empty]
    simp [empty]

/-- A head of a GET request with these headers. -/
def getHead (fields : List HeaderField) : RequestHead :=
  { RequestHead.plainHost with
    headers := fields.flatMap HeaderField.lines
    headersPlain := by
      intro line member
      obtain ⟨f, _, inField⟩ := List.mem_flatMap.mp member
      exact ⟨f.lines_plain line inField, f.lines_present line inField⟩ }

def acceptField : HeaderField where
  name := ascii "Accept"
  value := ascii " a"
  folds := []
  namePresent := by decide
  nameToken := List.all_eq_true.mp (by decide)
  valueText := List.all_eq_true.mp (by decide)
  foldsBlank := List.forall_mem_nil _
  foldsText := List.forall_mem_nil _

def keepAliveField : HeaderField where
  name := ascii "Keep-Alive"
  value := ascii " timeout=5,"
  folds := [ascii " max=9"]
  namePresent := by decide
  nameToken := List.all_eq_true.mp (by decide)
  valueText := List.all_eq_true.mp (by decide)
  foldsBlank := List.forall_mem_singleton.mpr (by decide)
  foldsText :=
    List.forall_mem_singleton.mpr (List.all_eq_true.mp (by decide))

/-- A managed header, a folded one that is kept, and behind it a managed one
whose second line is blank. -/
def mixedFields : List HeaderField :=
  [{ name := ascii "Connection"
     value := ascii " keep-alive"
     folds := []
     namePresent := by decide
     nameToken := List.all_eq_true.mp (by decide)
     valueText := List.all_eq_true.mp (by decide)
     foldsBlank := List.forall_mem_nil _
     foldsText := List.forall_mem_nil _ },
   { acceptField with
     folds := [ascii "  b"]
     foldsBlank := List.forall_mem_singleton.mpr (by decide)
     foldsText :=
       List.forall_mem_singleton.mpr (List.all_eq_true.mp (by decide)) },
   { keepAliveField with
     folds := [ascii " "]
     foldsBlank := List.forall_mem_singleton.mpr (by decide)
     foldsText :=
       List.forall_mem_singleton.mpr (List.all_eq_true.mp (by decide)) }]

theorem logicalHeaders_closing_accept :
    ∃ out host,
      httpRewrite (getHead mixedFields).bytes 0 upCap hostSz =
          some (out, host) ∧
        logicalHeaders out =
          (logicalHeaders (getHead mixedFields).bytes).map closing := by
  obtain ⟨⟨out, host⟩, written⟩ :
      ∃ result, httpRewrite (getHead mixedFields).bytes 0 upCap hostSz =
        some result := Option.isSome_iff_exists.mp (by decide +kernel)
  have stays : FoldsStay mixedFields := ⟨by decide +kernel, by decide⟩
  exact ⟨out, host, written,
    (logicalHeaders_closing_iff rfl written).mpr stays⟩

/-- A folded Keep-Alive header leaves its second line to the header before. -/
theorem keepAlive_leaves_line :
    ∃ out host,
      httpRewrite (getHead [acceptField, keepAliveField]).bytes 0 upCap
          hostSz = some (out, host) ∧
        (logicalHeaders out).map (·.head?) =
          some (some (ascii "Accept", ascii "a max=9")) ∧
        logicalHeaders out ≠
          (logicalHeaders
            (getHead [acceptField, keepAliveField]).bytes).map closing := by
  obtain ⟨⟨out, host⟩, written⟩ :
      ∃ result,
        httpRewrite (getHead [acceptField, keepAliveField]).bytes 0 upCap
          hostSz = some result := Option.isSome_iff_exists.mp (by decide +kernel)
  have isFirst :
      (httpRewrite (getHead [acceptField, keepAliveField]).bytes 0 upCap
          hostSz).map (fun result => (logicalHeaders result.1).map (·.head?)) =
        some (some (some (ascii "Accept", ascii "a max=9"))) := by
    decide +kernel
  have before :
      ((logicalHeaders (getHead [acceptField, keepAliveField]).bytes).map
        closing).map (·.head?) = some (some (ascii "Accept", ascii "a")) := by
    decide +kernel
  rw [written, Option.map_some, Option.some.injEq] at isFirst
  refine ⟨out, host, written, isFirst, fun same => ?_⟩
  rw [same, before] at isFirst
  revert isFirst
  decide

end Rewritten

end VeteraBridge.Proxy

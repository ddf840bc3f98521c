import VeteraBridge.Proxy.Request
import Mathlib.Data.Nat.Digits.Defs

/-!
# What the request parsers depend on

`http_rewrite` writes into whatever the body leaves of the output buffer, and
`tls_sni` looks at a buffer that may hold more than the ClientHello.  The first
adds at most a bounded number of bytes to the head, so that it never runs out
of room; the second never looks behind the record.
-/

namespace VeteraBridge.Proxy

open ByteWords

/-! ## The length of a rewritten head -/

section Room

variable {cap cap' : Nat}

theorem outAdd_fits {out s result : List UInt8}
    (added : outAdd cap out s = some result) (fits : result.length ≤ cap') :
    outAdd cap' out s = some result := by
  rw [outAdd_eq_some_iff] at added ⊢
  exact ⟨added.1, fits⟩

theorem outAdd_length {out s result : List UInt8}
    (added : outAdd cap out s = some result) :
    result.length = out.length + s.length := by
  rw [← (outAdd_eq_some_iff.mp added).1, List.length_append]

theorem addAuthority_length {head host out result : List UInt8} {target : Nat}
    (named : addAuthority head cap target host out = some result) :
    out.length ≤ result.length ∧
      result.length ≤ out.length + 7 + host.length := by
  unfold addAuthority at named
  split at named
  · obtain ⟨scheme, schemed, hosted⟩ := Option.bind_eq_some_iff.mp named
    have schemeLength := outAdd_length schemed
    have hostLength := outAdd_length hosted
    have seven : (ascii "http://").length = 7 := by decide
    omega
  · cases named
    omega

theorem addAuthority_fits {head host out result : List UInt8} {target : Nat}
    (named : addAuthority head cap target host out = some result)
    (fits : result.length ≤ cap') :
    addAuthority head cap' target host out = some result := by
  unfold addAuthority at named ⊢
  split at named
  · next originForm =>
    rw [if_pos originForm]
    obtain ⟨scheme, schemed, hosted⟩ := Option.bind_eq_some_iff.mp named
    have hostLength := outAdd_length hosted
    exact
      Option.bind_eq_some_iff.mpr
        ⟨scheme, outAdd_fits schemed (by omega), outAdd_fits hosted fits⟩
  · next absoluteForm =>
    rw [if_neg absoluteForm]
    exact named

theorem slice_length_le (bytes : List UInt8) (start count : Nat) :
    (slice bytes start count).length ≤ count :=
  List.length_take_le _ _

theorem copyLine_length {head out result : List UInt8} {line : Nat × Nat}
    (copied : copyLine head cap out line = some result) :
    out.length ≤ result.length ∧
      result.length ≤ out.length + (line.2 + 2 - line.1) := by
  unfold copyLine at copied
  split at copied
  · cases copied
    omega
  · have added := outAdd_length copied
    have short := slice_length_le head line.1 (line.2 + 2 - line.1)
    omega

theorem copyLine_fits {head out result : List UInt8} {line : Nat × Nat}
    (copied : copyLine head cap out line = some result)
    (fits : result.length ≤ cap') :
    copyLine head cap' out line = some result := by
  unfold copyLine at copied ⊢
  split at copied
  · next dropped =>
    rw [if_pos dropped]
    exact copied
  · next kept =>
    rw [if_neg kept]
    exact outAdd_fits copied fits

theorem copyLines_length_le {head : List UInt8} (lines : List (Nat × Nat))
    {out result : List UInt8}
    (copied : lines.foldlM (copyLine head cap) out = some result) :
    out.length ≤ result.length := by
  induction lines generalizing out with
  | nil =>
      cases copied
      exact le_rfl
  | cons line rest inductionHypothesis =>
      rw [List.foldlM_cons] at copied
      obtain ⟨middle, first, others⟩ := Option.bind_eq_some_iff.mp copied
      exact (copyLine_length first).1.trans (inductionHypothesis others)

theorem copyLines_fits {head : List UInt8} (lines : List (Nat × Nat))
    {out result : List UInt8}
    (copied : lines.foldlM (copyLine head cap) out = some result)
    (fits : result.length ≤ cap') :
    lines.foldlM (copyLine head cap') out = some result := by
  induction lines generalizing out with
  | nil =>
      exact copied
  | cons line rest inductionHypothesis =>
      rw [List.foldlM_cons] at copied ⊢
      obtain ⟨middle, first, others⟩ := Option.bind_eq_some_iff.mp copied
      have grows := copyLines_length_le rest others
      exact
        Option.bind_eq_some_iff.mpr
          ⟨middle, copyLine_fits first (by omega), inductionHypothesis others⟩

theorem lineEnd_bounds (head : List UInt8) {s fin : Nat} (inside : s < fin) :
    s ≤ lineEnd head s fin ∧ lineEnd head s fin ≤ fin := by
  unfold lineEnd
  split
  · next k found =>
    have before : k < (slice head s (fin - s)).length :=
      (List.findIdx?_eq_some_iff_getElem.mp found).1
    have short := slice_length_le head s (fin - s)
    omega
  · omega

/-- The lines do not overlap, so together they are no longer than what they
are taken from. -/
theorem copyHeaderLines_length {head : List UInt8} {fin : Nat}
    (fuel s : Nat) {out result : List UInt8}
    (copied :
      (headerLines head fin fuel s).foldlM (copyLine head cap) out =
        some result) :
    result.length ≤ out.length + (fin + 2 - s) := by
  induction fuel generalizing s out with
  | zero =>
      cases copied
      omega
  | succ fuel inductionHypothesis =>
      unfold headerLines at copied
      split at copied
      · next inside =>
        rw [List.foldlM_cons] at copied
        obtain ⟨middle, first, others⟩ := Option.bind_eq_some_iff.mp copied
        have added := copyLine_length first
        have bounds := lineEnd_bounds head inside
        have remaining := inductionHypothesis _ others
        dsimp only at added
        omega
      · cases copied
        omega

/-- A rewritten head fits every capacity that is as long as it. -/
theorem httpRewrite_fits {head : List UInt8} {origIp : UInt32} {hostN : Nat}
    {out host : List UInt8}
    (rewritten : httpRewrite head origIp cap hostN = some (out, host))
    (fits : out.length ≤ cap') :
    httpRewrite head origIp cap' hostN = some (out, host) := by
  unfold httpRewrite at rewritten ⊢
  simp only [Option.bind_eq_bind, Option.bind_eq_some_iff] at rewritten ⊢
  obtain
    ⟨line, isLine, start, started, middle, named, requestOut, requested,
      headersOut, copied, last, ended, same⟩ := rewritten
  cases same
  have namedLength := addAuthority_length named
  have requestLength := outAdd_length requested
  have copiedLength := copyLines_length_le _ copied
  have endedLength := outAdd_length ended
  exact
    ⟨line, isLine, start, outAdd_fits started (by omega), middle,
      addAuthority_fits named (by omega), requestOut,
      outAdd_fits requested (by omega), headersOut,
      copyLines_fits _ copied (by omega), out, outAdd_fits ended fits, rfl⟩

end Room

/-! ### The host -/

theorem ascii_length (text : String) : (ascii text).length = text.length := by
  rw [ascii, List.length_map, String.length_toList]

theorem octet_length {octet : Nat} (isOctet : octet < 256) :
    (ascii (toString octet)).length ≤ 3 := by
  rw [ascii_length]
  change (String.ofList (Nat.toDigits 10 octet)).length ≤ 3
  rw [String.length_ofList]
  exact Nat.toDigits_length 10 octet 3 (by omega) (by omega)

theorem ip4addrNtoa_length (addr : UInt32) :
    (ip4addrNtoa addr).length ≤ 15 := by
  have isOctet (shift : Nat) :
      (ascii (toString (addr.toNat / 2 ^ shift % 256))).length ≤ 3 :=
    octet_length (Nat.mod_lt _ (by decide))
  have first := isOctet 0
  have second := isOctet 8
  have third := isOctet 16
  have fourth := isOctet 24
  simp only [ip4addrNtoa, List.length_append, List.length_singleton]
  omega

theorem hostLine_length {head host : List UInt8} {hostN : Nat}
    (line : Nat × Nat) (short : host.length < hostN) :
    (hostLine head hostN host line).length < hostN := by
  unfold hostLine
  dsimp only
  split
  · split
    · split
      · next fits => exact (cstr_length_le _).trans_lt fits
      · exact short
    · exact short
  · exact short

theorem requestHost_length (head : List UInt8) (le : Nat) (origIp : UInt32)
    {hostN : Nat} (room : 15 < hostN) :
    (requestHost head le origIp hostN).length < hostN := by
  have named (lines : List (Nat × Nat)) (host : List UInt8)
      (short : host.length < hostN) :
      (lines.foldl (hostLine head hostN) host).length < hostN := by
    induction lines generalizing host with
    | nil =>
        exact short
    | cons line rest inductionHypothesis =>
        exact inductionHypothesis _ (hostLine_length line short)
  unfold requestHost
  dsimp only
  split
  · exact named _ [] (by simp only [List.length_nil]; omega)
  · exact (ip4addrNtoa_length origIp).trans_lt room

theorem memchr_lt {s : List UInt8} {c : UInt8} {k : Nat}
    (found : memchr s c = some k) : k < s.length :=
  (List.findIdx?_eq_some_iff_getElem.mp found).1

theorem requestLine_bounds {head : List UInt8} {le target : Nat}
    (isLine : requestLine head = some (le, target)) :
    target ≤ le ∧ le < head.length := by
  unfold requestLine at isLine
  simp only [Option.bind_eq_bind, Option.bind_eq_some_iff] at isLine
  obtain ⟨le', foundLe, sp1, foundSp, sp2, _, same⟩ := isLine
  split at same
  · cases same
  · cases same
    have beforeLe := memchr_lt foundSp
    rw [List.length_take] at beforeLe
    exact ⟨by omega, memchr_lt foundLe⟩

/-- What a rewrite adds to a head is bounded, whatever the head is. -/
theorem httpRewrite_length_le {head : List UInt8} {origIp : UInt32}
    {cap hostN : Nat} {out host : List UInt8} (room : 15 < hostN)
    (rewritten : httpRewrite head origIp cap hostN = some (out, host)) :
    out.length ≤ head.length + hostN + 53 := by
  unfold httpRewrite at rewritten
  simp only [Option.bind_eq_bind, Option.bind_eq_some_iff] at rewritten
  obtain
    ⟨⟨le, target⟩, isLine, start, started, middle, named, requestOut,
      requested, headersOut, copied, last, ended, same⟩ := rewritten
  cases same
  have bounds := requestLine_bounds isLine
  have startLength := outAdd_length started
  have taken := List.length_take_le target head
  have namedLength := addAuthority_length named
  have hostLength := requestHost_length head le origIp room
  have requestLength := outAdd_length requested
  have requestSlice := slice_length_le head target (le + 2 - target)
  have copiedLength := copyHeaderLines_length _ _ copied
  have endedLength := outAdd_length ended
  have tailLength : tail.length = 46 := by decide
  simp only [List.length_nil] at startLength
  dsimp only at namedLength requestLength requestSlice copiedLength
  omega

/-! ## What lies behind a ClientHello -/

section Behind

variable {b : List UInt8} (more : List UInt8)

theorem byteAt_append {i : Nat} (inside : i < b.length) :
    byteAt (b ++ more) i = byteAt b i := by
  rw [byteAt, byteAt, List.getD_eq_getElem?_getD, List.getD_eq_getElem?_getD,
    List.getElem?_append_left inside]

theorem lengthAt_append {i : Nat} (inside : i + 1 < b.length) :
    lengthAt (b ++ more) i = lengthAt b i := by
  rw [lengthAt, lengthAt, byteAt_append more (by omega),
    byteAt_append more inside]

theorem slice_append {start count : Nat}
    (inside : start + count ≤ b.length) :
    slice (b ++ more) start count = slice b start count := by
  simp only [slice]
  rw [List.drop_append_of_le_length (by omega), List.take_append_of_le_length]
  rw [List.length_drop]
  omega

/-- A list of names that lies within the buffer is read the same with more
behind it.  Each name takes three bytes or more, so the fuel suffices. -/
theorem sniNames_append {qe on : Nat} (inside : qe ≤ b.length)
    (fuel fuel' q : Nat) (enough : qe ≤ q + fuel) (enough' : qe ≤ q + fuel') :
    sniNames (b ++ more) qe on fuel' q = sniNames b qe on fuel q := by
  induction fuel generalizing fuel' q with
  | zero =>
      cases fuel' with
      | zero =>
          rfl
      | succ fuel' =>
          rw [sniNames, sniNames, if_neg (by omega)]
  | succ fuel inductionHypothesis =>
      cases fuel' with
      | zero =>
          rw [sniNames, sniNames, if_neg (by omega)]
      | succ fuel' =>
          rw [sniNames, sniNames]
          by_cases another : q + 3 ≤ qe
          · rw [if_pos another, if_pos another]
            have sameType : byteAt (b ++ more) q = byteAt b q :=
              byteAt_append more (by omega)
            have sameLength : lengthAt (b ++ more) (q + 1) = lengthAt b (q + 1) :=
              lengthAt_append more (by omega)
            simp only [sameType, sameLength]
            by_cases tooLong : q + 3 + lengthAt b (q + 1) > qe
            · rw [if_pos tooLong, if_pos tooLong]
            · rw [if_neg tooLong, if_neg tooLong,
                slice_append more (by omega),
                inductionHypothesis fuel' (q + 3 + lengthAt b (q + 1))
                  (by omega) (by omega)]
          · rw [if_neg another, if_neg another]

theorem sniExtensions_append {extEnd on : Nat} (inside : extEnd ≤ b.length)
    (fuel fuel' p : Nat) (enough : extEnd ≤ p + fuel)
    (enough' : extEnd ≤ p + fuel') :
    sniExtensions (b ++ more) extEnd on fuel' p =
      sniExtensions b extEnd on fuel p := by
  induction fuel generalizing fuel' p with
  | zero =>
      cases fuel' with
      | zero =>
          rfl
      | succ fuel' =>
          rw [sniExtensions, sniExtensions, if_neg (by omega)]
  | succ fuel inductionHypothesis =>
      cases fuel' with
      | zero =>
          rw [sniExtensions, sniExtensions, if_neg (by omega)]
      | succ fuel' =>
          rw [sniExtensions, sniExtensions]
          by_cases another : p + 4 ≤ extEnd
          · rw [if_pos another, if_pos another]
            have sameType : lengthAt (b ++ more) p = lengthAt b p :=
              lengthAt_append more (by omega)
            have sameLength : lengthAt (b ++ more) (p + 2) = lengthAt b (p + 2) :=
              lengthAt_append more (by omega)
            simp only [sameType, sameLength]
            by_cases tooLong : p + 4 + lengthAt b (p + 2) > extEnd
            · rw [if_pos tooLong, if_pos tooLong]
            · rw [if_neg tooLong, if_neg tooLong]
              have longer : b.length ≤ (b ++ more).length := by
                rw [List.length_append]
                omega
              rw [sniNames_append more (by omega) b.length
                  (b ++ more).length (p + 4 + 2) (by omega) (by omega),
                inductionHypothesis fuel' (p + 4 + lengthAt b (p + 2))
                  (by omega) (by omega)]
          · rw [if_neg another, if_neg another]

/-- A complete record gives the same name with more behind it. -/
theorem tlsSni_append (on : Nat) (whole : 5 + lengthAt b 3 ≤ b.length) :
    tlsSni (b ++ more) on = tlsSni b on := by
  have longer : b.length ≤ (b ++ more).length := by
    rw [List.length_append]
    omega
  have sameFirst : byteAt (b ++ more) 0 = byteAt b 0 :=
    byteAt_append more (by omega)
  have sameLength : lengthAt (b ++ more) 3 = lengthAt b 3 :=
    lengthAt_append more (by omega)
  have sameFin :
      min (5 + lengthAt b 3) (b ++ more).length = 5 + lengthAt b 3 :=
    min_eq_left (whole.trans longer)
  unfold tlsSni
  simp only [sameFirst, sameLength, sameFin, min_eq_left whole]
  have five : 5 ≤ b.length := by omega
  generalize 5 + lengthAt b 3 = fin at whole
  -- Each field's length is read only once the field is known to be there.
  have long : ¬ b.length < 5 := by omega
  have long' : ¬ (b ++ more).length < 5 := by omega
  simp only [long, long', false_or]
  refine ite_congr rfl (fun _ => rfl) fun _ => ?_
  by_cases noHeader : 5 + 4 > fin
  · rw [if_pos (Or.inl noHeader), if_pos (Or.inl noHeader)]
  rw [byteAt_append more (by omega : 5 < b.length)]
  refine ite_congr rfl (fun _ => rfl) fun _ => ?_
  generalize 5 + (4 + 2 + 32) = sessionAt
  by_cases noSession : sessionAt + 1 > fin
  · rw [if_pos noSession, if_pos noSession]
  rw [if_neg noSession, if_neg noSession,
    byteAt_append more (by omega : sessionAt < b.length)]
  generalize sessionAt + (1 + byteAt b sessionAt) = suitesAt
  by_cases noSuites : suitesAt + 2 > fin
  · rw [if_pos noSuites, if_pos noSuites]
  rw [if_neg noSuites, if_neg noSuites,
    lengthAt_append more (by omega : suitesAt + 1 < b.length)]
  generalize suitesAt + (2 + lengthAt b suitesAt) = methodsAt
  by_cases noMethods : methodsAt + 1 > fin
  · rw [if_pos noMethods, if_pos noMethods]
  rw [if_neg noMethods, if_neg noMethods,
    byteAt_append more (by omega : methodsAt < b.length)]
  generalize methodsAt + (1 + byteAt b methodsAt) = extensionsAt
  by_cases noExtensions : extensionsAt + 2 > fin
  · rw [if_pos noExtensions, if_pos noExtensions]
  rw [if_neg noExtensions, if_neg noExtensions,
    lengthAt_append more (by omega : extensionsAt + 1 < b.length)]
  exact
    sniExtensions_append more ((min_le_right _ _).trans whole) _ _ _
      (by omega) (by omega)

end Behind

end VeteraBridge.Proxy

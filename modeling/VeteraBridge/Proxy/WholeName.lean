import VeteraBridge.Proxy.ClientHello
import VeteraBridge.Proxy.RewriteSpec

/-!
# The name sent upstream

Both parsers copy a name by its length and then look at it as a C string.  Here
is when the host a session names is the whole name the phone sent.
-/

namespace VeteraBridge.Proxy

open ByteWords

/-! ## What is copied -/

/-- The entry `tls_sni` copies from a server_name extension that ends at
`qe`. -/
def sniNameEntry (b : List UInt8) (qe on : Nat) :
    Nat → Nat → Option (List UInt8)
  | 0, _ => none
  | fuel + 1, q =>
      if q + 3 ≤ qe then
        let nl := lengthAt b (q + 1)
        if q + 3 + nl > qe then none
        else if byteAt b q = 0 ∧ nl > 0 ∧ nl < on then
          some (slice b (q + 3) nl)
        else
          sniNameEntry b qe on fuel (q + 3 + nl)
      else
        none

def sniExtensionEntry (b : List UInt8) (extEnd on : Nat) :
    Nat → Nat → Option (List UInt8)
  | 0, _ => none
  | fuel + 1, p =>
      if p + 4 ≤ extEnd then
        let len := lengthAt b (p + 2)
        if p + 4 + len > extEnd then none
        else if lengthAt b p = 0 then
          sniNameEntry b (p + 4 + len) on b.length (p + 4 + 2)
        else sniExtensionEntry b extEnd on fuel (p + 4 + len)
      else
        none

/-- The server_name entry `tls_sni` copies. -/
def sniEntry (b : List UInt8) (on : Nat) : Option (List UInt8) :=
  let fin := min (5 + lengthAt b 3) b.length
  let sessionAt := 5 + (4 + 2 + 32)
  let suitesAt := sessionAt + (1 + byteAt b sessionAt)
  let methodsAt := suitesAt + (2 + lengthAt b suitesAt)
  let extensionsAt := methodsAt + (1 + byteAt b methodsAt)
  if b.length < 5 ∨ byteAt b 0 ≠ 0x16 ∨ 5 + 4 > fin ∨ byteAt b 5 ≠ 0x01 ∨
      sessionAt + 1 > fin ∨ suitesAt + 2 > fin ∨ methodsAt + 1 > fin ∨
      extensionsAt + 2 > fin then
    none
  else
    sniExtensionEntry b (min (extensionsAt + 2 + lengthAt b extensionsAt) fin)
      on b.length (extensionsAt + 2)

/-- A copied name as `host_ok` looks at it. -/
def accepted (name : List UInt8) : Option (List UInt8) :=
  if hostOk (cstr name) then some (cstr name) else none

/-- The value of the Host header that `http_rewrite` copies last. -/
def hostHeader (head : List UInt8) (hostN : Nat) : Option (List UInt8) :=
  (memchr head cr).bind fun le =>
    ((((headPieces head le).map Prod.fst).filterMap hostValue).filter
      (·.length < hostN)).getLast?

section Entry

variable {b : List UInt8} {on : Nat}

theorem sniNames_eq_entry (qe fuel q : Nat) :
    sniNames b qe on fuel q = (sniNameEntry b qe on fuel q).bind accepted := by
  induction fuel generalizing q with
  | zero => rfl
  | succ fuel inductionHypothesis =>
      rw [sniNames, sniNameEntry]
      dsimp only
      split
      · split
        · rfl
        · split
          · rfl
          · exact inductionHypothesis _
      · rfl

theorem sniExtensions_eq_entry (extEnd fuel p : Nat) :
    sniExtensions b extEnd on fuel p =
      (sniExtensionEntry b extEnd on fuel p).bind accepted := by
  induction fuel generalizing p with
  | zero => rfl
  | succ fuel inductionHypothesis =>
      rw [sniExtensions, sniExtensionEntry]
      dsimp only
      split
      · split
        · rfl
        · split
          · exact sniNames_eq_entry _ _ _
          · exact inductionHypothesis _
      · rfl

theorem tlsSni_eq_entry (b : List UInt8) (on : Nat) :
    tlsSni b on = (sniEntry b on).bind accepted := by
  unfold tlsSni sniEntry
  dsimp only
  split_ifs <;> first | rfl | exact sniExtensions_eq_entry _ _ _ | omega

end Entry

/-! ## The whole name -/

theorem accepted_eq_some_iff {entry name : List UInt8} :
    accepted entry = some name ↔
      hostOk (cstr entry) = true ∧ cstr entry = name := by
  unfold accepted
  split
  · next ok => simp [ok]
  · next refused => simp [refused]

/-- An accepted entry is the name exactly if there is no NUL in it. -/
theorem tlsSni_whole_iff (b : List UInt8) (on : Nat) :
    (∀ name, tlsSni b on = some name → sniEntry b on = some name) ↔
      ∀ entry, sniEntry b on = some entry → hostOk (cstr entry) = true →
        0 ∉ entry := by
  rw [tlsSni_eq_entry]
  cases sniEntry b on with
  | none => simp
  | some entry =>
      simp only [Option.bind_some, accepted_eq_some_iff, Option.some.injEq,
        forall_eq', ← cstr_eq_self_iff]
      constructor
      · intro whole ok
        exact (whole (cstr entry) ⟨ok, rfl⟩).symm
      · rintro same name ⟨ok, rfl⟩
        exact (same ok).symm

/-- The host that is written, by the header that is copied last. -/
theorem httpRewrite_host {head : List UInt8} {origIp : UInt32}
    {cap hostN : Nat} {out host : List UInt8}
    (written : httpRewrite head origIp cap hostN = some (out, host)) :
    host =
      (((hostHeader head hostN).map cstr).filter hostOk).getD
        (ip4addrNtoa origIp) := by
  obtain ⟨le, target, isLine, rfl, _, _⟩ := httpRewrite_eq_some_iff.mp written
  rw [requestHost_eq head le origIp hostN rfl, hostHeader,
    requestLine_memchr isLine]
  rfl

/-- The host of a session is the whole name the phone sent, in both parsers,
exactly if a NUL is in no name that is accepted. -/
theorem whole_name_iff (b : List UInt8) (on : Nat) {head : List UInt8}
    {origIp : UInt32} {cap hostN : Nat} {out host : List UInt8}
    (written : httpRewrite head origIp cap hostN = some (out, host)) :
    ((∀ name, tlsSni b on = some name → sniEntry b on = some name) ↔
      ∀ entry, sniEntry b on = some entry → hostOk (cstr entry) = true →
        0 ∉ entry) ∧
    ((∀ value, hostHeader head hostN = some value →
        hostOk (cstr value) = true → host = value) ↔
      ∀ value, hostHeader head hostN = some value →
        hostOk (cstr value) = true → 0 ∉ value) := by
  refine ⟨tlsSni_whole_iff b on, ?_⟩
  have named := httpRewrite_host written
  constructor
  · intro whole value isValue ok
    rw [← cstr_eq_self_iff]
    have same := whole value isValue ok
    rwa [named, isValue, Option.map_some, Option.filter_some, if_pos ok,
      Option.getD_some] at same
  · intro noNul value isValue ok
    rw [named, isValue, Option.map_some, Option.filter_some, if_pos ok,
      Option.getD_some, cstr_eq_self_iff]
    exact noNul value isValue ok

theorem whole_name_plain :
    ∃ out host,
      httpRewrite RequestHead.plainHost.bytes 0 upCap hostSz =
          some (out, host) ∧
        (∀ name, tlsSni ClientHello.forHost.record hostSz = some name →
          sniEntry ClientHello.forHost.record hostSz = some name) := by
  have entry : sniEntry ClientHello.forHost.record hostSz =
      some (ascii "a") := by
    decide +kernel
  obtain ⟨⟨out, host⟩, written⟩ :
      ∃ result, httpRewrite RequestHead.plainHost.bytes 0 upCap hostSz =
        some result := Option.isSome_iff_exists.mp (by decide +kernel)
  refine ⟨out, host, written,
    (whole_name_iff ClientHello.forHost.record hostSz written).1.mpr ?_⟩
  intro entry' isEntry _
  rw [entry] at isEntry
  cases isEntry
  decide

/-- A ClientHello with a NUL in its host name. -/
def ClientHello.withNul : ClientHello :=
  { ClientHello.forHost with
    names := {
      before := []
      host := 97 :: 0 :: ascii "b"
      after := []
      beforeOther := List.forall_mem_nil _
      hostFits := by decide }
    namesFit := by decide
    fits := by decide }

/-- A name with a NUL in it is sent upstream up to the NUL. -/
theorem nul_cuts_name :
    (tlsSni ClientHello.withNul.record hostSz = some (ascii "a") ∧
      sniEntry ClientHello.withNul.record hostSz =
        some (97 :: 0 :: ascii "b")) ∧
    ((httpRewrite RequestHead.nulHost.bytes 0 upCap hostSz).map Prod.snd =
        some (ascii "a") ∧
      hostHeader RequestHead.nulHost.bytes hostSz =
        some (97 :: 0 :: ascii "/") ∧
      ip4addrNtoa 0 ≠ ascii "a") := by
  refine ⟨⟨?_, ?_⟩, ?_, ?_, ?_⟩ <;> decide +kernel

end VeteraBridge.Proxy

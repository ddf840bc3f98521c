import VeteraBridge.Proxy.HeadRoom

/-!
# What `tls_sni` reads and writes

`tls_sni` once more, with every read checked against the bytes received and
every store against the buffer for the name.  The loops have no fuel: each step
goes forward.
-/

namespace VeteraBridge.Proxy

open ByteWords
open CheckedMemory

/-! ## The function, with its reads -/

/-- `b[i]`. -/
def readByte (b : List UInt8) (i : Nat) : Option Nat := b[i]?.map UInt8.toNat

/-- `(b[i] << 8) | b[i + 1]`. -/
def readLength (b : List UInt8) (i : Nat) : Option Nat := do
  let high ← readByte b i
  let low ← readByte b (i + 1)
  some (256 * high + low)

/-- The string in a buffer, which has to end there. -/
def readString (buffer : List UInt8) : Option (List UInt8) :=
  if 0 ∈ buffer then some (cstr buffer) else none

/-- The names of a server_name extension that ends at `qe`: the result, and the
buffer. -/
def sniNamesAt (b : List UInt8) (qe on : Nat) (out : List UInt8) (q : Nat) :
    Option (Bool × List UInt8) :=
  if _within : q + 3 ≤ qe then do
    let nt ← readByte b q
    let nl ← readLength b (q + 1)
    if q + 3 + nl > qe then some (false, out)
    else if nt = 0 ∧ nl > 0 ∧ nl < on then
      let name ← load b (q + 3) nl
      let out ← setHost out name
      let host ← readString out
      some (hostOk host, out)
    else
      sniNamesAt b qe on out (q + 3 + nl)
  else
    some (false, out)
termination_by qe - q

def sniExtensionsAt (b : List UInt8) (extEnd on : Nat) (out : List UInt8)
    (p : Nat) : Option (Bool × List UInt8) :=
  if _within : p + 4 ≤ extEnd then do
    let type ← readLength b p
    let len ← readLength b (p + 2)
    if p + 4 + len > extEnd then some (false, out)
    else if type = 0 then
      sniNamesAt b (p + 4 + len) on out (p + 4 + 2)
    else
      sniExtensionsAt b extEnd on out (p + 4 + len)
  else
    some (false, out)
termination_by extEnd - p

/-- `tls_sni`. -/
def tlsSniAt (b : List UInt8) (on : Nat) (out : List UInt8) :
    Option (Bool × List UInt8) :=
  let n := b.length
  if n < 5 then some (false, out)
  else do
    let type ← readByte b 0
    if type ≠ 0x16 then some (false, out)
    else
      let recordLength ← readLength b 3
      let fin := min (5 + recordLength) n
      let p := 5
      if p + 4 > fin then some (false, out)
      else
        let message ← readByte b p
        if message ≠ 0x01 then some (false, out)
        else
          let p := p + (4 + 2 + 32)
          if p + 1 > fin then some (false, out)
          else
            let session ← readByte b p
            let p := p + (1 + session)
            if p + 2 > fin then some (false, out)
            else
              let suites ← readLength b p
              let p := p + (2 + suites)
              if p + 1 > fin then some (false, out)
              else
                let methods ← readByte b p
                let p := p + (1 + methods)
                if p + 2 > fin then some (false, out)
                else
                  let extensions ← readLength b p
                  let extEnd := min (p + 2 + extensions) fin
                  sniExtensionsAt b extEnd on out (p + 2)

/-! ## Every access is in bounds -/

section Bounds

variable {b out : List UInt8} {on : Nat}

theorem readByte_of_lt {i : Nat} (inside : i < b.length) :
    readByte b i = some (byteAt b i) := by
  rw [readByte, byteAt, List.getD_eq_getElem?_getD,
    List.getElem?_eq_getElem inside]
  rfl

theorem readLength_of_lt {i : Nat} (inside : i + 1 < b.length) :
    readLength b i = some (lengthAt b i) := by
  rw [readLength, readByte_of_lt (by omega), readByte_of_lt inside]
  rfl

/-- A call that ends in bounds with what the other model of it gives. -/
def Shows (on : Nat) (result : Option (Bool × List UInt8))
    (name : Option (List UInt8)) : Prop :=
  ∃ found out, result = some (found, out) ∧ out.length = on ∧
    (if found then some (cstr out) else none) = name

theorem shows_false (sized : out.length = on) :
    Shows on (some (false, out)) none :=
  ⟨false, out, rfl, sized, rfl⟩

theorem sniNamesAt_shows {qe : Nat} (inside : qe ≤ b.length)
    (sized : out.length = on) (fuel q : Nat) (enough : qe ≤ q + fuel) :
    Shows on (sniNamesAt b qe on out q) (sniNames b qe on fuel q) := by
  induction fuel generalizing q with
  | zero =>
      rw [sniNamesAt, dif_neg (by omega)]
      exact shows_false sized
  | succ fuel inductionHypothesis =>
      rw [sniNamesAt, sniNames]
      by_cases another : q + 3 ≤ qe
      · rw [dif_pos another, if_pos another, readByte_of_lt (by omega),
          readLength_of_lt (by omega)]
        simp only [Option.bind_eq_bind, Option.bind_some]
        generalize lengthAt b (q + 1) = nl
        by_cases long : q + 3 + nl > qe
        · rw [if_pos long, if_pos long]
          exact shows_false sized
        · rw [if_neg long, if_neg long]
          by_cases named : byteAt b q = 0 ∧ nl > 0 ∧ nl < on
          · rw [if_pos named, if_pos named, load_of_le (by omega),
              Option.bind_some]
            have length : (slice b (q + 3) nl).length = nl := by
              rw [slice, List.length_take, List.length_drop, min_eq_left]
              omega
            obtain ⟨out', stored, isHost⟩ := setHost_isHost sized
              (length.trans_lt named.2.2 : (slice b (q + 3) nl).length < on)
            have ended : readString out' = some (cstr (slice b (q + 3) nl)) := by
              rw [readString, if_pos isHost.nul_mem, isHost.cstr_eq]
            refine ⟨hostOk (cstr (slice b (q + 3) nl)), out', ?_,
              isHost.length, ?_⟩
            · exact (congrArg (Option.bind · _) stored).trans
                (congrArg (Option.bind · _) ended)
            · rw [isHost.cstr_eq]
          · rw [if_neg named, if_neg named]
            exact inductionHypothesis (q + 3 + nl) (by omega)
      · rw [dif_neg another, if_neg another]
        exact shows_false sized

theorem sniExtensionsAt_shows {extEnd : Nat} (inside : extEnd ≤ b.length)
    (sized : out.length = on) (fuel p : Nat) (enough : extEnd ≤ p + fuel) :
    Shows on (sniExtensionsAt b extEnd on out p)
      (sniExtensions b extEnd on fuel p) := by
  induction fuel generalizing p with
  | zero =>
      rw [sniExtensionsAt, dif_neg (by omega)]
      exact shows_false sized
  | succ fuel inductionHypothesis =>
      rw [sniExtensionsAt, sniExtensions]
      by_cases another : p + 4 ≤ extEnd
      · rw [dif_pos another, if_pos another, readLength_of_lt (by omega),
          readLength_of_lt (by omega)]
        simp only [Option.bind_eq_bind, Option.bind_some]
        generalize lengthAt b (p + 2) = len
        by_cases long : p + 4 + len > extEnd
        · rw [if_pos long, if_pos long]
          exact shows_false sized
        · rw [if_neg long, if_neg long]
          by_cases isName : lengthAt b p = 0
          · rw [if_pos isName, if_pos isName]
            exact sniNamesAt_shows (by omega) sized b.length _ (by omega)
          · rw [if_neg isName, if_neg isName]
            exact inductionHypothesis (p + 4 + len) (by omega)
      · rw [dif_neg another, if_neg another]
        exact shows_false sized

theorem tlsSniAt_shows (sized : out.length = on) :
    Shows on (tlsSniAt b on out) (tlsSni b on) := by
  have none' : Shows on (some (false, out)) none := shows_false sized
  unfold tlsSniAt tlsSni
  dsimp only
  by_cases short : b.length < 5
  · rw [if_pos short, if_pos (Or.inl short)]
    exact none'
  rw [if_neg short, readByte_of_lt (by omega), Option.bind_eq_bind,
    Option.bind_some]
  by_cases type : byteAt b 0 ≠ 0x16
  · rw [if_pos type, if_pos (Or.inr type)]
    exact none'
  rw [if_neg type, if_neg (not_or.mpr ⟨short, type⟩),
    readLength_of_lt (by omega), Option.bind_some]
  have inside : min (5 + lengthAt b 3) b.length ≤ b.length := min_le_right _ _
  generalize min (5 + lengthAt b 3) b.length = fin at inside
  by_cases noHeader : 5 + 4 > fin
  · rw [if_pos noHeader, if_pos (Or.inl noHeader)]
    exact none'
  rw [if_neg noHeader, readByte_of_lt (by omega), Option.bind_some]
  by_cases message : byteAt b 5 ≠ 0x01
  · rw [if_pos message, if_pos (Or.inr message)]
    exact none'
  rw [if_neg message, if_neg (not_or.mpr ⟨noHeader, message⟩)]
  generalize 5 + (4 + 2 + 32) = sessionAt
  by_cases noSession : sessionAt + 1 > fin
  · rw [if_pos noSession, if_pos noSession]
    exact none'
  rw [if_neg noSession, if_neg noSession, readByte_of_lt (by omega),
    Option.bind_some]
  generalize sessionAt + (1 + byteAt b sessionAt) = suitesAt
  by_cases noSuites : suitesAt + 2 > fin
  · rw [if_pos noSuites, if_pos noSuites]
    exact none'
  rw [if_neg noSuites, if_neg noSuites, readLength_of_lt (by omega),
    Option.bind_some]
  generalize suitesAt + (2 + lengthAt b suitesAt) = methodsAt
  by_cases noMethods : methodsAt + 1 > fin
  · rw [if_pos noMethods, if_pos noMethods]
    exact none'
  rw [if_neg noMethods, if_neg noMethods, readByte_of_lt (by omega),
    Option.bind_some]
  generalize methodsAt + (1 + byteAt b methodsAt) = extensionsAt
  by_cases noExtensions : extensionsAt + 2 > fin
  · rw [if_pos noExtensions, if_pos noExtensions]
    exact none'
  rw [if_neg noExtensions, if_neg noExtensions, readLength_of_lt (by omega),
    Option.bind_some]
  exact sniExtensionsAt_shows ((min_le_right _ _).trans inside) sized b.length
    (extensionsAt + 2) ((min_le_right _ _).trans (by omega))

end Bounds

/-- `tls_sni` ends, and reads and writes within its arrays, whatever the bytes
are. -/
theorem tlsSniAt_ends (b out : List UInt8) :
    ∃ found out', tlsSniAt b out.length out = some (found, out') ∧
      out'.length = out.length ∧
      (if found then some (cstr out') else none) = tlsSni b out.length :=
  tlsSniAt_shows rfl

end VeteraBridge.Proxy

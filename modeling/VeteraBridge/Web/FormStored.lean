import VeteraBridge.Web.Form

/-!
# What a form stores

What a submitted network or proxy turns into on its way through the buffers of
the two handlers, and when it is stored as it was submitted.
-/

namespace VeteraBridge.Web

open Proxy (ascii cstr cstr_eq_self_iff not_mem_cstr strlcpy nameIs Settings
  proxyHostMax storeSettings)
open Wifi (WifiList WifiCred wifiListAdd addIndex wifiListMax)
open FormEncoding

/-! ## Bodies -/

theorem formBody_value (pairs : List (List UInt8 × List UInt8))
    (key value : List UInt8) :
    formBody (pairs ++ [(key, value)]) =
      formBody (pairs ++ [(key, [])]) ++ value := by
  induction pairs with
  | nil =>
      simp [formBody]
  | cons first rest inductionHypothesis =>
      simp only [formBody, List.cons_append, List.map_cons] at inductionHypothesis ⊢
      rw [List.intercalate_cons_of_ne_nil (by simp),
        List.intercalate_cons_of_ne_nil (by simp), inductionHypothesis]
      simp only [List.append_assoc]

theorem formBody_snoc (pairs : List (List UInt8 × List UInt8))
    (some : pairs ≠ []) (p : List UInt8 × List UInt8) :
    formBody (pairs ++ [p]) = formBody pairs ++ 38 :: (p.1 ++ 61 :: p.2) := by
  induction pairs with
  | nil =>
      exact absurd rfl some
  | cons first rest inductionHypothesis =>
      rcases rest with _ | ⟨second, rest⟩
      · simp [formBody, List.intercalate_cons_cons]
      · have later := inductionHypothesis (by simp)
        simp only [formBody, List.cons_append, List.map_cons] at later ⊢
        rw [List.intercalate_cons_cons, later, List.intercalate_cons_cons]
        simp only [List.append_assoc]

/-- A body that is cut in its last value. -/
theorem formBody_take (pairs : List (List UInt8 × List UInt8))
    (key value : List UInt8) {n : Nat}
    (room : (formBody (pairs ++ [(key, [])])).length ≤ n) :
    (formBody (pairs ++ [(key, value)])).take n =
      formBody (pairs ++
        [(key, value.take (n - (formBody (pairs ++ [(key, [])])).length))]) := by
  rw [formBody_value, List.take_append, List.take_of_length_le room,
    ← formBody_value]

theorem PlainPair.of_encodes (key : List UInt8) {text sent : List UInt8}
    (encodes : Encodes text sent) (k : Nat)
    (plain : 0 ∉ key ∧ 38 ∉ key ∧ 61 ∉ key) :
    PlainPair (key, sent.take k) := by
  obtain ⟨noNul, noAmp⟩ := encodes.not_mem
  exact ⟨plain.1, plain.2.1, plain.2.2,
    fun member => noNul (List.mem_of_mem_take member),
    fun member => noAmp (List.mem_of_mem_take member)⟩

/-- The text of an answer is the value cut to the buffer. -/
theorem answer_text (value : List UInt8) (size : Nat) :
    (answer size (some value)).2 = value.take (size - 1) := by
  simp only [answer]
  split_ifs with fits
  · rw [List.take_of_length_le (by omega)]
  · rfl

theorem answer_ok (value : List UInt8) (size : Nat) :
    (answer size (some value)).1 = .ok ↔ value.length < size := by
  simp only [answer]
  split_ifs with fits
  · simp [fits]
  · simp [fits]

/-! ## Networks -/

section Wifi

/-- The body of the form on the WiFi page. -/
def wifiBody (es ep : List UInt8) : List UInt8 :=
  formBody [(ascii "ssid", es), (ascii "pass", ep)]

/-- The network is stored as it is named. -/
def StoresNetwork (list : WifiList) (ssid pass : List UInt8) (new : WifiList) :
    Prop :=
  ∃ i count, addIndex list ssid = some (i, count) ∧
    new = { list with count := count, e := Function.update list.e i ⟨ssid, pass⟩ }

/-- The network is turned away: its name is too long when encoded or begins
with a NUL, the list is full, or the password is cut in its last escape and so
reads as one byte too many. -/
def WifiTurnedAway (list : WifiList) (ssid pass es ep : List UInt8) : Prop :=
  64 ≤ es.length ∨ ssid.head? = some 0 ∨ addIndex list ssid = none ∨
    (pass.length = 64 ∧ LongCut pass ep 79 ∧ 0 ∉ pass.dropLast)

/-- Name and password pass the buffers whole: they hold no NUL, and the encoded
password fits 79 bytes or is cut where decoding does not show it. -/
def WifiKept (ssid pass ep : List UInt8) : Prop :=
  0 ∉ ssid ∧ 0 ∉ pass ∧ (ep.length ≤ 79 ∨ HarmlessCut pass ep 79)

variable {query : QueryFn} {list : WifiList} {ssid pass es ep : List UInt8}

/-- What `handler_wifi_add` hands to `wifi_list_add`. -/
theorem handlerWifiAdd_eq (laws : QueryLaws query) (name : Encodes ssid es)
    (secret : Encodes pass ep) (short : ssid.length ≤ 32) :
    handlerWifiAdd query list true (wifiBody es ep) =
      if es.length < 64 then
        wifiListAdd list (some ssid)
          (some (decodeWith hexByte (ep.take 79)))
      else none := by
  have bounds := name.length_le
  have head : (formBody ([(ascii "ssid", es)] ++ [(ascii "pass", [])])).length =
      11 + es.length := by
    have key : (ascii "ssid").length = 4 := by decide
    have key' : (ascii "pass").length = 4 := by decide
    simp [formBody, List.intercalate_cons_cons, key, key']
    omega
  have body :
      recvBody true (wifiBody es ep) 256 =
        some (formBody [(ascii "ssid", es),
          (ascii "pass", ep.take (244 - es.length))]) := by
    have cut := formBody_take [(ascii "ssid", es)] (ascii "pass") ep
      (n := 255) (by omega)
    rw [head] at cut
    have room : 255 - (11 + es.length) = 244 - es.length := by omega
    rw [room] at cut
    simpa [recvBody, wifiBody] using cut
  have plain :
      ∀ p ∈ [(ascii "ssid", es), (ascii "pass", ep.take (244 - es.length))],
        PlainPair p := by
    have first : PlainPair (ascii "ssid", es) := by
      simpa using PlainPair.of_encodes (ascii "ssid") name es.length
        (by decide)
    have second := PlainPair.of_encodes (ascii "pass") secret
      (244 - es.length) (by decide)
    simp [first, second]
  have answers (key : List UInt8) (size : Nat) (positive : 0 < size) :=
    laws.finds [(ascii "ssid", es), (ascii "pass", ep.take (244 - es.length))] []
      key size (by simp) plain (Or.inl rfl) positive
  simp only [List.append_nil] at answers
  have isName : nameIs (ascii "ssid") (ascii "ssid") = true := by decide
  have notName : nameIs (ascii "ssid") (ascii "pass") = false := by decide
  have isSecret : nameIs (ascii "pass") (ascii "pass") = true := by decide
  have found := answers (ascii "ssid") 64 (by decide)
  have foundSecret := answers (ascii "pass") 80 (by decide)
  simp only [List.find?_cons, isName, notName, isSecret, Option.map_some]
    at found foundSecret
  have secretText :
      (answer 80 (some (ep.take (244 - es.length)))).2 = ep.take 79 := by
    rw [answer_text, List.take_take]
    congr 1
    omega
  simp only [handlerWifiAdd, body, found, foundSecret, answer_ok, secretText,
    answer_text, Nat.reduceSub]
  by_cases fits : es.length < 64
  · have nameText : formDecode (es.take 63) 64 = ssid := by
      rw [List.take_of_length_le (by omega), formDecode_eq (by decide)
        name.not_mem.1, name.decode hexByte_reads, List.take_of_length_le]
      omega
    have secretDecoded :
        formDecode (ep.take 79) 80 = decodeWith hexByte (ep.take 79) := by
      rw [formDecode_eq (by decide)
        fun member => secret.not_mem.1 (List.mem_of_mem_take member),
        List.take_of_length_le]
      have decoded : (decodeWith hexByte (ep.take 79)).length ≤ _ :=
        decodeWith_length_le (ep.take 79)
      have taken := List.length_take_le 79 ep
      omega
    rw [if_pos fits, if_pos fits, nameText, secretDecoded]
  · rw [if_neg fits, if_neg fits]

/-- `wifi_list_add` on what the buffers leave. -/
theorem wifiListAdd_eq (list : WifiList) (present : ssid ≠ [])
    (short : ssid.length ≤ 32) (text : List UInt8) :
    wifiListAdd list (some ssid) (some text) =
      if ssid.head? = some 0 ∨ 64 < (cstr text).length then none
      else
        (addIndex list ssid).map fun slot =>
          { list with
            count := slot.2
            e := Function.update list.e slot.1 ⟨cstr ssid, cstr text⟩ } := by
  have named : (cstr ssid).length = 0 ↔ ssid.head? = some 0 := by
    rcases ssid with _ | ⟨c, rest⟩
    · exact absurd rfl present
    · by_cases isNul : c = 0
      · simp [cstr, isNul]
      · simp [cstr, isNul]
  have within : (cstr ssid).length ≤ ssid.length :=
    (List.takeWhile_prefix _).length_le
  have notLong : ¬ 32 < (cstr ssid).length := by omega
  simp only [wifiListAdd, named, notLong, or_false, Option.getD_some]
  by_cases nul : ssid.head? = some 0
  · simp [nul]
  by_cases long : 64 < (cstr text).length
  · simp [nul, long]
  · have name : strlcpy ssid 33 = cstr ssid := by
      rw [strlcpy, List.take_of_length_le (by omega)]
    have secret : strlcpy text 65 = cstr text := by
      rw [strlcpy, List.take_of_length_le (by omega)]
    simp [nul, long, name, secret]

/-- When the password that arrives is too long. -/
theorem long_password_iff (secret : Encodes pass ep) (short : pass.length ≤ 64) :
    64 < (cstr (decodeWith hexByte (ep.take 79))).length ↔
      pass.length = 64 ∧ LongCut pass ep 79 ∧ 0 ∉ pass.dropLast := by
  have within :
      (cstr (decodeWith hexByte (ep.take 79))).length ≤
        (decodeWith hexByte (ep.take 79)).length :=
    (List.takeWhile_prefix _).length_le
  by_cases cut : 79 < ep.length
  · have lengths := secret.decode_take_length hexByte_reads cut
    by_cases long : LongCut pass ep 79
    · have decoded := lengths.1 long
      obtain ⟨front, sentFront, c, hi, lo, left, isEscape, rfl, rfl, at79⟩ := long
      have text :
          decodeWith hexByte ((sentFront ++ [37, hi, lo]).take 79) =
            front ++ [37, hi] := by
        rw [at79]
        exact decode_inEscape hexByte_reads left isEscape [] (Or.inr rfl)
      have digit : hi ≠ 0 := by
        rintro rfl
        have none := hexValue_zero
        rw [isEscape.1] at none
        cases none
      have noNul : 0 ∉ front ++ [37, hi] ↔ 0 ∉ front := by
        simp [digit.symm]
      rw [text] at decoded within ⊢
      rw [List.dropLast_concat, ← noNul, ← cstr_eq_self_iff]
      constructor
      · intro many
        have whole : (front ++ [c]).length = 64 := by omega
        refine ⟨whole, ⟨front, sentFront, c, hi, lo, left, isEscape, rfl, rfl,
          at79⟩, ?_⟩
        exact (List.takeWhile_prefix _).eq_of_length (by rw [← cstr]; omega)
      · rintro ⟨whole, _, same⟩
        rw [same]
        omega
    · have few := lengths.2 long
      exact iff_of_false (by omega) fun all => long all.2.1
  · have whole : ep.take 79 = ep := List.take_of_length_le (by omega)
    rw [whole, secret.decode hexByte_reads] at within ⊢
    refine iff_of_false (by omega) ?_
    rintro ⟨_, ⟨front, sentFront, c, hi, lo, _, _, _, rfl, at79⟩, _⟩
    simp only [List.length_append, List.length_cons, List.length_nil] at cut
    omega

/-- When the password that arrives is the one submitted. -/
theorem password_kept_iff (secret : Encodes pass ep) :
    cstr (decodeWith hexByte (ep.take 79)) = pass ↔
      0 ∉ pass ∧ (ep.length ≤ 79 ∨ HarmlessCut pass ep 79) := by
  have whenPlain (noNul : 0 ∉ pass) :
      cstr (decodeWith hexByte (ep.take 79)) =
        decodeWith hexByte (ep.take 79) :=
    (cstr_eq_self_iff _).mpr (secret.decode_take_nul hexByte_reads noNul 79)
  by_cases whole : ep.length ≤ 79
  · rw [List.take_of_length_le whole, secret.decode hexByte_reads,
      cstr_eq_self_iff]
    simp [whole]
  · constructor
    · intro same
      have noNul : 0 ∉ pass := same ▸ not_mem_cstr _
      rw [whenPlain noNul] at same
      exact ⟨noNul, Or.inr
        ((secret.decode_take_iff hexByte_reads (by omega)).mp same)⟩
    · rintro ⟨noNul, fits | harmless⟩
      · exact absurd fits whole
      · rw [whenPlain noNul]
        exact (secret.decode_take_iff hexByte_reads (by omega)).mpr harmless

/-- A submitted network is stored as it was submitted, or not at all, exactly
when it is turned away or passes the buffers whole. -/
theorem wifi_stores_exactly_iff (laws : QueryLaws query)
    (name : Encodes ssid es) (secret : Encodes pass ep) (present : ssid ≠ [])
    (short : ssid.length ≤ 32) (shortSecret : pass.length ≤ 64) :
    (∀ new, handlerWifiAdd query list true (wifiBody es ep) = some new →
      StoresNetwork list ssid pass new) ↔
      WifiTurnedAway list ssid pass es ep ∨ WifiKept ssid pass ep := by
  rw [handlerWifiAdd_eq laws name secret short]
  by_cases fits : es.length < 64
  · rw [if_pos fits, wifiListAdd_eq list present short]
    have notLong : ¬ 64 ≤ es.length := by omega
    unfold WifiTurnedAway
    simp only [notLong, false_or]
    by_cases away : ssid.head? = some 0 ∨
        64 < (cstr (decodeWith hexByte (ep.take 79))).length
    · rw [if_pos away]
      rw [long_password_iff secret shortSecret] at away
      refine iff_of_true (by simp) (Or.inl ?_)
      rcases away with nul | long
      · exact Or.inl nul
      · exact Or.inr (Or.inr long)
    · rw [if_neg away]
      rw [long_password_iff secret shortSecret] at away
      obtain ⟨notNul, notCut⟩ := not_or.mp away
      simp only [notNul, notCut, false_or, or_false]
      rcases slot : addIndex list ssid with _ | ⟨i, count⟩
      · simp
      · simp only [Option.map_some, Option.some.injEq, forall_eq',
          reduceCtorEq, false_or, StoresNetwork, slot, Prod.mk.injEq]
        rw [WifiKept, ← password_kept_iff secret, ← cstr_eq_self_iff ssid]
        constructor
        · rintro ⟨i', count', ⟨rfl, rfl⟩, same⟩
          have entries := congrArg (fun list : WifiList => list.e i) same
          simpa using entries
        · rintro ⟨sameName, sameSecret⟩
          exact ⟨i, count, ⟨rfl, rfl⟩, by rw [sameName, sameSecret]⟩
  · rw [if_neg fits]
    exact iff_of_true (by simp) (Or.inl (Or.inl (by omega)))

end Wifi

end VeteraBridge.Web

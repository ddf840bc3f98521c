import Mathlib.Algebra.Order.BigOperators.Group.List
import VeteraBridge.Proxy.Redirector
import VeteraBridge.Web.FormProxy
import VeteraBridge.Web.SettingsPages

/-!
# The proxy page

The page shows the proxy as one of seven buttons and in two text fields.  What
it sends names a preset by its index or spells host and port out, and may come
back long after it was shown.
-/

namespace VeteraBridge.Web

open EventRun
open FormEncoding
open Proxy (ascii cstr cstr_eq_self_iff not_mem_cstr strlcpy Event NvsIo
  OutsideEvent Redirector Settings proxyGet proxyHostMax settingsLoad
  storeSettings)

/-! ## The page -/

/-- `proxy_preset_t`. -/
structure ProxyPreset where
  name : List UInt8
  host : List UInt8
  port : UInt16
  note : List UInt8
deriving DecidableEq

/-- `presets`, with the texts of the page. -/
def presetTable : List ProxyPreset :=
  let host := ascii "176.103.221.33"
  [⟨ascii "HTTP Pass", host, 3130, ascii "suggested for most vintage phones"⟩,
    ⟨ascii "HTTP Lite", host, 3129, ascii "low-memory phones, text output"⟩,
    ⟨ascii "HTTP Extra Lite", host, 3131,
      ascii "very memory-limited phones, text output"⟩,
    ⟨ascii "HTTP WML", host, 3132, ascii "phones without HTML support"⟩,
    ⟨ascii "HTTPS", host, 3128,
      ascii "needs its root CA installed on the phone"⟩,
    ⟨ascii "HTTPS Legacy", host, 3127,
      ascii "fallback for 3128, its own root CA"⟩]

/-- `proxy_preset_match`, `none` for -1. -/
def proxyPresetMatch (host : List UInt8) (port : UInt16) : Option Nat :=
  presetTable.findIdx? fun p => p.port == port && p.host == host

def proxyHead : List UInt8 :=
  settingsHead (ascii "HTTP Proxy") ++ grayBox ++ ascii "<b>Now:</b> "

def proxyOff : List UInt8 :=
  ascii "</div>" ++
    ascii "<form action='/proxy' method='post' style='text-align:left;'>" ++
    ascii "<p><input type='radio' name='px' value='off'"

def proxyOffText : List UInt8 :=
  ascii " <b>Off</b><br>" ++
    ascii "<small>The phone reaches web sites directly.</small></p>"

/-- The row of a preset up to its tick. -/
def presetButton (i : Nat) : List UInt8 :=
  ascii "<p><input type='radio' name='px' value='" ++ decimal i ++ ascii "'"

/-- What stands behind its button. -/
def presetText (p : ProxyPreset) : List UInt8 :=
  ascii " <b>" ++ p.name ++ ascii "</b> (" ++ p.host ++ ascii ":" ++
    decimal p.port.toNat ++ ascii ")<br><small>" ++ p.note ++
    ascii "</small></p>"

def presetRow (on : Bool) (i : Nat) (p : ProxyPreset) : List UInt8 :=
  presetButton i ++ (ticked on ++ ascii ">") ++ presetText p

def proxyCustom : List UInt8 :=
  ascii "<p><input type='radio' name='px' value='custom'"

def proxyHostField : List UInt8 :=
  ascii " <b>Custom</b><br>" ++
    ascii "Host: <input type='text' name='host' size='18' maxlength='" ++
    decimal (proxyHostMax - 1 : Nat) ++ ascii "' value=\""

def proxyPortField : List UInt8 :=
  ascii "<br>" ++
    ascii "Port: <input type='text' name='port' size='6' maxlength='5' " ++
    ascii "value='"

def proxyTail : List UInt8 :=
  ascii "</p>" ++ saveButton ++
    ascii "<p style='text-align:left;'><small>With a proxy on, every " ++
    ascii "connection the phone opens to port 80 or 443 goes through it, " ++
    ascii "with nothing to set up in the browser. This page (192.168.7.1) " ++
    ascii "is never proxied. HTTPS goes through as a CONNECT tunnel, so the " ++
    ascii "HTTPS presets need their root CA installed on the phone (from " ++
    ascii "15pmm01.com). Presets are from " ++
    ascii "15pmm01.com/wap/en.</small></p><hr>" ++
    ascii "<a href='/'>Status</a>" ++ ascii "<br>" ++ pageFooter

/-- The first text of the page. -/
def proxyOpening (on : Bool) (now : List UInt8) : List UInt8 :=
  proxyHead ++ now ++ proxyOff ++ (ticked (!on) ++ ascii ">") ++ proxyOffText

/-- The last text of the page. -/
def proxyClosing (custom : Bool) (hostEsc portStr : List UInt8) : List UInt8 :=
  proxyCustom ++ (ticked custom ++ ascii ">") ++ proxyHostField ++ hostEsc ++
    ascii "\">" ++ proxyPortField ++ portStr ++ ascii "'>" ++ proxyTail

/-- The line that shows the proxy. -/
def proxyNow (on : Bool) (hostEsc : List UInt8) (port : UInt16)
    (sessions : Nat) : List UInt8 :=
  if on then
    (ascii "on, " ++ hostEsc ++ ascii ":" ++ decimal port.toNat ++
      ascii ", " ++ decimal sessions ++ ascii " active").take
        (proxyHostMax * 6 + 64 - 1)
  else
    ascii "off"

/-- The size `handler_proxy_get` allocates. -/
def proxyPageSize : Nat := 4608

/-- `handler_proxy_get`, with as many sessions. -/
def handlerProxyGet (s : Settings) (sessions : Nat) : List UInt8 :=
  let (on, host, port) := proxyGet s proxyHostMax
  let matched := if host = [] then none else proxyPresetMatch host port
  let hostEsc := htmlEscape host (proxyHostMax * 6)
  let portStr := if port = 0 then [] else (decimal port.toNat).take (8 - 1)
  let page :=
    pageAdd proxyPageSize []
      (proxyOpening on (proxyNow on hostEsc port sessions))
  let page := presetTable.zipIdx.foldl
    (fun page entry =>
      pageAdd proxyPageSize page
        (presetRow (on && matched == some entry.2) entry.2 entry.1)) page
  pageAdd proxyPageSize page
    (proxyClosing (on && matched.isNone)
      (if matched.isNone then hostEsc else [])
      (if matched.isNone then portStr else []))

theorem presets_eq :
    presets = presetTable.map fun p => (p.host, p.port) := by
  rfl

/-! ## Numbers on a page -/

section Numbers

theorem decimal_eq (n : Nat) :
    decimal n =
      (Nat.toDigits 10 n).map fun c => UInt8.ofNat c.toNat := by
  have digits : (toString (n : Int)).toList = Nat.toDigits 10 n :=
    Nat.toList_repr
  rw [decimal, ascii, digits]

/-- The byte of a digit. -/
theorem digit_byte {c : Char} (isDigit : c.isDigit = true) :
    hexValue (UInt8.ofNat c.toNat) = some (c.toNat - 48) ∧
      c.toNat - 48 < 10 ∧ unreserved (UInt8.ofNat c.toNat) = true := by
  simp only [Char.isDigit, ge_iff_le, Bool.and_eq_true, decide_eq_true_eq]
    at isDigit
  have lower : 48 ≤ c.toNat := by exact_mod_cast isDigit.1
  have upper : c.toNat ≤ 57 := by exact_mod_cast isDigit.2
  have each : ∀ n < 58, 48 ≤ n →
      hexValue (UInt8.ofNat n) = some (n - 48) ∧ n - 48 < 10 ∧
        unreserved (UInt8.ofNat n) = true := by
    decide
  exact each c.toNat (by omega) lower

theorem digitsValue_digits {digits : List Char}
    (all : ∀ c ∈ digits, c.isDigit = true) (value : Nat) :
    digitsValue 10 value (digits.map fun c => UInt8.ofNat c.toNat) =
      Nat.ofDigitChars 10 digits value := by
  induction digits generalizing value with
  | nil =>
      rw [List.map_nil, digitsValue, Nat.ofDigitChars_nil]
  | cons c digits inductionHypothesis =>
      obtain ⟨read, small, _⟩ := digit_byte (all c List.mem_cons_self)
      have rest := inductionHypothesis
        (fun d member => all d (List.mem_cons_of_mem _ member))
        (value * 10 + (c.toNat - 48))
      rw [List.map_cons, digitsValue, read, Nat.ofDigitChars_cons]
      simp only [small, if_true]
      rw [rest, Nat.mul_comm value 10]
      rfl

theorem isDigit_of_mem {n : Nat} {c : Char} (member : c ∈ Nat.toDigits 10 n) :
    c.isDigit = true :=
  Nat.isDigit_of_mem_toDigits (by decide) (by decide) member

/-- What is printed of a number is read as the number. -/
theorem strtol_decimal (n : Nat) : strtol 10 (decimal n) = n := by
  have all : ∀ c ∈ Nat.toDigits 10 n, c.isDigit = true :=
    fun _ member => isDigit_of_mem member
  have value := digitsValue_digits all 0
  rw [decimal_eq]
  cases digits : Nat.toDigits 10 n with
  | nil => exact absurd digits Nat.toDigits_ne_nil
  | cons c rest =>
      have isFirst := all c (by rw [digits]; exact List.mem_cons_self)
      rw [digits] at value
      rw [List.map_cons] at value ⊢
      rw [strtol_digit (digit_byte isFirst).1, value, ← digits,
        Nat.ofDigitChars_ten_toDigits]

theorem unreserved_decimal (n : Nat) : Unreserved (decimal n) := by
  intro c member
  rw [decimal_eq] at member
  obtain ⟨digit, isIn, rfl⟩ := List.mem_map.mp member
  exact (digit_byte (isDigit_of_mem isIn)).2.2

theorem decimal_length_lt {n limit : Nat} (positive : 0 < limit)
    (small : n < 10 ^ limit) : (decimal n).length ≤ limit := by
  rw [decimal_eq, List.length_map]
  exact (Nat.length_toDigits_le_iff (by decide) positive).mpr small

end Numbers

/-! ## What a browser reads -/

section Read

/-- The fixed pieces of the page. -/
theorem proxy_pieces :
    Piece .text proxyHead .text 400 ∧
      Piece .text proxyOff (.word (openChoice "radio" "px" "off") []) 150 ∧
      Piece .text proxyOffText .text 100 ∧
      Piece .text proxyCustom (.word (openChoice "radio" "px" "custom") [])
        80 ∧
      Piece .text proxyHostField
        (.quoted (openText "host" "18" "63") (ascii "value") 34 []) 120 ∧
      Piece .text proxyPortField
        (.quoted (openText "port" "6" "5") (ascii "value") 39 []) 120 ∧
      Piece .text proxyTail .text 800 := by
  simp only [proxyHead, proxyOff, proxyOffText, proxyCustom, proxyHostField,
    proxyPortField, proxyTail, settingsHead, saveButton, metaCharset,
    metaViewport, metaFormat, bodyOpen, grayBox, pageFooter, ascii_literal rfl]
  decide +kernel

/-- What a row contributes. -/
def rowFields (on : Bool) (i : Nat) : Fields :=
  if on then [(ascii "px", decimal i)] else []

theorem presetRow_reads :
    ∀ entry ∈ presetTable.zipIdx, ∀ on : Bool,
      ReadsForm .text (presetRow on entry.2 entry.1) (rowFields on entry.2)
          .text ∧
        (presetRow on entry.2 entry.1).length ≤ 180 := by
  simp only [presetTable, presetRow, presetButton, presetText, rowFields,
    ticked, ascii_literal rfl]
  decide +kernel

/-- The preset the page shows. -/
def presetShown (s : Settings) : Option Nat :=
  if s.pxHost = [] then none else proxyPresetMatch s.pxHost s.pxPort

/-- The rows of the page. -/
def presetRows (on : Bool) (matched : Option Nat) : List UInt8 :=
  presetTable.zipIdx.flatMap fun entry =>
    presetRow (on && matched == some entry.2) entry.2 entry.1

theorem presetRows_length_le (on : Bool) (matched : Option Nat) :
    (presetRows on matched).length ≤ 1080 :=
  Markup.length_flatMap_le presetTable.zipIdx _ fun entry inTable =>
    (presetRow_reads entry inTable _).2

theorem presetRows_reads (on : Bool) (matched : Option Nat) :
    ReadsForm .text (presetRows on matched)
      (presetTable.zipIdx.flatMap fun entry =>
        rowFields (on && matched == some entry.2) entry.2) .text :=
  Markup.reads_flatMap _ _ _ fun entry inTable =>
    (presetRow_reads entry inTable _).1

/-- A preset that matches has the host and the port. -/
theorem proxyPresetMatch_some {host : List UInt8} {port : UInt16} {i : Nat}
    (isPreset : proxyPresetMatch host port = some i) :
    i < 6 ∧ proxyPresetGet (i : Nat) = some (host, port) ∧ port ≠ 0 := by
  obtain ⟨inside, same, _⟩ := List.findIdx?_eq_some_iff_getElem.mp isPreset
  rw [Bool.and_eq_true, beq_iff_eq, beq_iff_eq] at same
  have six : presetTable.length = 6 := rfl
  have small : 0 ≤ (i : Int) ∧ (i : Int) < presets.length := by
    rw [presets_eq, List.length_map]
    omega
  have ports : ∀ p ∈ presetTable, p.port ≠ 0 := by decide
  refine ⟨six ▸ inside, ?_, same.1 ▸ ports _ (List.getElem_mem inside)⟩
  rw [proxyPresetGet, if_pos small, Int.toNat_natCast, presets_eq,
    List.getElem?_map, List.getElem?_eq_getElem inside, Option.map_some,
    same.1, same.2]

/-- At most the row of the preset that is shown contributes. -/
theorem rowFields_shown (on : Bool) (matched : Option Nat)
    (inside : ∀ i, matched = some i → i < 6) :
    (presetTable.zipIdx.flatMap fun entry =>
        rowFields (on && matched == some entry.2) entry.2) =
      if on then
        (matched.map fun i : Nat => (ascii "px", decimal i)).toList
      else [] := by
  cases on with
  | false => rfl
  | true =>
      cases matched with
      | none => rfl
      | some i =>
          have each : ∀ i < 6,
              (presetTable.zipIdx.flatMap fun entry =>
                rowFields (true && some i == some entry.2) entry.2) =
                [(ascii "px", decimal (i : Nat))] := by
            decide
          exact each i (inside i rfl)

/-- Letters, digits and marks are no markup. -/
theorem htmlUnescape_plain {text : List UInt8} (plain : Unreserved text) :
    htmlUnescape text = text := by
  have noNul : 0 ∉ text := fun member => absurd (plain 0 member) (by decide)
  have same : escaped text = text := by
    rw [escaped, (cstr_eq_self_iff text).mpr noNul]
    clear noNul
    induction text with
    | nil => rfl
    | cons c rest inductionHypothesis =>
        have here := plain c List.mem_cons_self
        have alone : escapeChar c = [c] := by
          apply escapeChar_plain
          refine ⟨?_, ?_, ?_, ?_⟩ <;> rintro rfl <;>
            exact absurd here (by decide)
        rw [List.flatMap_cons, alone, inductionHypothesis fun d member =>
          plain d (List.mem_cons_of_mem _ member), List.singleton_append]
  have back := htmlUnescape_escaped text
  rwa [same, (cstr_eq_self_iff text).mpr noNul] at back

/-- All that `handler_proxy_get` asks `page_add` to write. -/
def proxyText (on : Bool) (now : List UInt8) (matched : Option Nat)
    (hostEsc portStr : List UInt8) : List UInt8 :=
  proxyOpening on now ++ presetRows on matched ++
    proxyClosing (on && matched.isNone) hostEsc portStr

/-- The button that is ticked. -/
def proxyWord (on : Bool) (matched : Option Nat) : List UInt8 :=
  if on then
    match matched with
    | some i => decimal i
    | none => ascii "custom"
  else ascii "off"

theorem shownForm_proxyText (on : Bool) {now : List UInt8} (noTag : 60 ∉ now)
    (matched : Option Nat) (inside : ∀ i, matched = some i → i < 6)
    (host : List UInt8) {portStr : List UInt8}
    (plain : Unreserved portStr) :
    shownForm (proxyText on now matched (escaped host) portStr) =
      [(ascii "px", proxyWord on matched), (ascii "host", cstr host),
        (ascii "port", portStr)] := by
  obtain ⟨head, off, offText, custom, hostField, portField, tail⟩ :=
    proxy_pieces
  have noQuote : (39 : UInt8) ∉ portStr := fun member =>
    absurd (plain 39 member) (by decide)
  have rows := presetRows_reads on matched
  rw [rowFields_shown on matched inside] at rows
  have opening :=
    (((head.reads.append (Markup.reads_text noTag)).append off.reads).append
      (reads_ticked _ (!on))).append offText.reads
  have closing :=
    (((((((custom.reads.append (reads_ticked _ (on && matched.isNone))).append
      hostField.reads).append (reads_escaped _ _ host)).append
      (Markup.reads_close _ _ 34 _)).append portField.reads).append
      (Markup.reads_quoted _ _ [] noQuote)).append
      (Markup.reads_close _ _ 39 _)).append tail.reads
  refine ((opening.append rows).append closing).shownForm.trans ?_
  rw [← htmlUnescape_escaped host]
  conv_rhs => rw [← htmlUnescape_plain plain]
  cases on <;> cases matched <;> rfl

end Read

/-! ## The handlers -/

/-- Settings as they are stored, with a host without spaces. -/
structure Proper (s : Settings) : Prop where
  stored : storeSettings s.pxOn s.pxHost s.pxPort = s
  noSpace : 32 ∉ s.pxHost

/-- The host and the port in the text fields. -/
def fieldHost (s : Settings) : List UInt8 :=
  if (presetShown s).isNone then s.pxHost else []

def fieldPort (s : Settings) : List UInt8 :=
  if (presetShown s).isNone then
    if s.pxPort = 0 then [] else decimal s.pxPort.toNat
  else []

/-- The fields of the form. -/
def proxyFields (s : Settings) : Fields :=
  [(ascii "px", proxyWord s.pxOn (presetShown s)), (ascii "host", fieldHost s),
    (ascii "port", fieldPort s)]

section Handlers

variable {query : QueryFn} {s t : Settings} {body : List UInt8}

theorem Proper.copied (proper : Proper s) :
    strlcpy s.pxHost proxyHostMax = s.pxHost :=
  congrArg Settings.pxHost proper.stored

theorem Proper.noNul (proper : Proper s) : 0 ∉ s.pxHost := by
  rw [← proper.copied]
  exact fun member => not_mem_cstr s.pxHost (List.mem_of_mem_take member)

theorem Proper.short (proper : Proper s) : s.pxHost.length ≤ 63 := by
  rw [← proper.copied]
  exact List.length_take_le _ _

theorem Proper.ready (proper : Proper s) :
    s.pxReady = (s.pxOn && !s.pxHost.isEmpty && s.pxPort != 0) := by
  have stored := congrArg Settings.pxReady proper.stored
  rw [storeSettings] at stored
  dsimp only at stored
  rw [proper.copied] at stored
  exact stored.symm

/-- What is stored stays what it is when it is stored again. -/
theorem storeSettings_again (on : Bool) (host : List UInt8) (port : UInt16) :
    storeSettings on (storeSettings on host port).pxHost port =
      storeSettings on host port := by
  have noNul : 0 ∉ strlcpy host proxyHostMax :=
    fun member => not_mem_cstr host (List.mem_of_mem_take member)
  have again : strlcpy (strlcpy host proxyHostMax) proxyHostMax =
      strlcpy host proxyHostMax := by
    rw [strlcpy, (cstr_eq_self_iff _).mpr noNul]
    exact List.take_of_length_le (List.length_take_le _ _)
  simp only [storeSettings, again]

theorem proper_storeSettings (on : Bool) {host : List UInt8} (port : UInt16)
    (noSpace : 32 ∉ host) : Proper (storeSettings on host port) where
  stored := storeSettings_again on host port
  noSpace := fun member => noSpace
    ((List.takeWhile_prefix _).subset (List.mem_of_mem_take member))

theorem presetShown_some {i : Nat} (shown : presetShown s = some i) :
    i < 6 ∧ proxyPresetGet (i : Nat) = some (s.pxHost, s.pxPort) ∧
      s.pxHost ≠ [] ∧ s.pxPort ≠ 0 := by
  rw [presetShown] at shown
  split at shown
  · cases shown
  · next present =>
    obtain ⟨inside, read, port⟩ := proxyPresetMatch_some shown
    exact ⟨inside, read, present, port⟩

theorem portStr_eq (port : UInt16) :
    (if port = 0 then [] else (decimal port.toNat).take (8 - 1)) =
      if port = 0 then [] else decimal port.toNat := by
  have small := port.toNat_lt
  have short : (decimal port.toNat).length ≤ 5 :=
    decimal_length_lt (by decide) (by omega)
  rw [List.take_of_length_le (by omega)]

theorem noTag_proxyNow (on : Bool) (host : List UInt8) (port : UInt16)
    (sessions : Nat) :
    60 ∉ proxyNow on (escaped host) port sessions ∧
      (proxyNow on (escaped host) port sessions).length ≤ 447 := by
  have number (n : Nat) : (60 : UInt8) ∉ decimal n := fun member =>
    absurd (unreserved_decimal n 60 member) (by decide)
  have words : (60 : UInt8) ∉ ascii "on, " ∧ 60 ∉ ascii ":" ∧
      60 ∉ ascii ", " ∧ 60 ∉ ascii " active" ∧ 60 ∉ ascii "off" ∧
      (ascii "off").length ≤ 447 := by
    decide
  rw [proxyNow]
  split
  · refine ⟨fun member => ?_, List.length_take_le _ _⟩
    have inside := List.mem_of_mem_take member
    simp only [List.mem_append, words.1, words.2.1, words.2.2.1,
      words.2.2.2.1, number, noTag_escaped, or_self] at inside
  · exact ⟨words.2.2.2.2.1, words.2.2.2.2.2⟩

theorem proxyText_length_lt (on : Bool) {now : List UInt8}
    (nowShort : now.length ≤ 447) (matched : Option Nat)
    {hostEsc portStr : List UInt8} (hostShort : hostEsc.length ≤ 378)
    (portShort : portStr.length ≤ 5) :
    (proxyText on now matched hostEsc portStr).length < proxyPageSize := by
  obtain ⟨⟨_, head⟩, ⟨_, off⟩, ⟨_, offText⟩, ⟨_, custom⟩, ⟨_, hostField⟩,
    ⟨_, portField⟩, _, tail⟩ := proxy_pieces
  have closes : (ascii ">").length = 1 ∧ (ascii "\">").length = 2 ∧
      (ascii "'>").length = 2 := by decide
  have rows := presetRows_length_le on matched
  have first := ticked_length_le (!on)
  have last := ticked_length_le (on && matched.isNone)
  simp only [proxyText, proxyOpening, proxyClosing, List.length_append,
    closes.1, closes.2.1, closes.2.2]
  unfold proxyPageSize
  omega

theorem fieldPort_plain (s : Settings) :
    Unreserved (fieldPort s) ∧ (fieldPort s).length ≤ 5 := by
  have small := s.pxPort.toNat_lt
  have short : (decimal s.pxPort.toNat).length ≤ 5 :=
    decimal_length_lt (by decide) (by omega)
  have nothing : Unreserved [] := by decide
  unfold fieldPort
  split
  · split
    · exact ⟨nothing, Nat.zero_le _⟩
    · exact ⟨unreserved_decimal _, short⟩
  · exact ⟨nothing, Nat.zero_le _⟩

/-- The page is sent whole. -/
theorem handlerProxyGet_eq (proper : Proper s) (sessions : Nat) :
    handlerProxyGet s sessions =
      proxyText s.pxOn (proxyNow s.pxOn (escaped s.pxHost) s.pxPort sessions)
        (presetShown s) (escaped (fieldHost s)) (fieldPort s) := by
  have text : cstr s.pxHost = s.pxHost := (cstr_eq_self_iff _).mpr proper.noNul
  have short := proper.short
  have size : proxyHostMax = 64 := rfl
  have escapes : htmlEscape s.pxHost (proxyHostMax * 6) = escaped s.pxHost := by
    apply htmlEscape_eq
    rw [text]
    omega
  have hostField :
      (if (presetShown s).isNone then escaped s.pxHost else []) =
        escaped (fieldHost s) := by
    rw [fieldHost]
    split <;> rfl
  have hostShort : (escaped (fieldHost s)).length ≤ 378 := by
    have length := escaped_length_le s.pxHost
    rw [text] at length
    rw [← hostField]
    split
    · omega
    · exact Nat.zero_le _
  have positive : 0 < proxyPageSize := by decide
  have fits := proxyText_length_lt s.pxOn
    (noTag_proxyNow s.pxOn s.pxHost s.pxPort sessions).2 (presetShown s)
    hostShort (fieldPort_plain s).2
  have shown :
      (if s.pxHost = [] then none else proxyPresetMatch s.pxHost s.pxPort) =
        presetShown s := rfl
  have portField :
      (if (presetShown s).isNone then
        if s.pxPort = 0 then [] else decimal s.pxPort.toNat
      else []) = fieldPort s := rfl
  simp only [handlerProxyGet, proxyGet, proper.copied, escapes, portStr_eq,
    shown, hostField, portField]
  rw [pageAdd_nil positive, foldl_pageAdd positive _ presetTable.zipIdx,
    pageAdd_take positive]
  exact List.take_of_length_le (Nat.le_pred_of_lt fits)

/-- The page shows the proxy. -/
theorem shownForm_handlerProxyGet (proper : Proper s) (sessions : Nat) :
    shownForm (handlerProxyGet s sessions) = proxyFields s := by
  have host : cstr (fieldHost s) = fieldHost s := by
    unfold fieldHost
    split
    · exact (cstr_eq_self_iff _).mpr proper.noNul
    · rfl
  rw [handlerProxyGet_eq proper,
    shownForm_proxyText s.pxOn
      (noTag_proxyNow s.pxOn s.pxHost s.pxPort sessions).1 (presetShown s)
      (fun _ shown => (presetShown_some shown).1) _ (fieldPort_plain s).1, host]
  rfl

theorem proxyWord_plain (s : Settings) :
    Unreserved (proxyWord s.pxOn (presetShown s)) ∧
      (proxyWord s.pxOn (presetShown s)).length ≤ 6 := by
  have words : Unreserved (ascii "off") ∧
      (ascii "off").length ≤ 6 ∧ Unreserved (ascii "custom") ∧
      (ascii "custom").length ≤ 6 := by
    decide
  cases s.pxOn with
  | false => exact ⟨words.1, words.2.1⟩
  | true =>
      cases shown : presetShown s with
      | none => exact words.2.2
      | some i =>
          have inside := (presetShown_some shown).1
          have short : (decimal i).length ≤ 1 :=
            decimal_length_lt (by decide) (by omega)
          exact ⟨unreserved_decimal i, short.trans (by decide)⟩

/-- The form is received whole, and its fields are found. -/
theorem proxyFields_found (laws : FormLaws query) (proper : Proper s)
    (submits : Submits (proxyFields s) body) :
    body.take 255 = body ∧
      query body (ascii "px") 8 = (.ok, proxyWord s.pxOn (presetShown s)) ∧
      (∃ sent, Sends (fieldHost s) sent ∧
        query body (ascii "host") (proxyHostMax * 3) = (.ok, sent)) ∧
      query body (ascii "port") 8 = (.ok, fieldPort s) := by
  have names : PlainNames ((proxyFields s).map Prod.fst) := by
    show PlainNames [ascii "px", ascii "host", ascii "port"]
    decide
  obtain ⟨portPlain, portShort⟩ := fieldPort_plain s
  obtain ⟨wordPlain, wordShort⟩ := proxyWord_plain s
  have hostShort : (fieldHost s).length ≤ 63 := by
    have short := proper.short
    unfold fieldHost
    split
    · exact short
    · exact Nat.zero_le _
  have whole : body.length ≤ 255 := by
    have length := submits.length_le names
    have keys : (ascii "px").length = 2 ∧ (ascii "host").length = 4 ∧
        (ascii "port").length = 4 := by decide
    simp only [proxyFields, List.map_cons, List.map_nil, List.sum_cons,
      List.sum_nil, keys.1, keys.2.1, keys.2.2] at length
    omega
  have size : proxyHostMax = 64 := rfl
  refine ⟨List.take_of_length_le whole, ?_, ?_, ?_⟩
  · exact submits.finds_plain laws names _ _ rfl wordPlain (by omega)
  · exact submits.finds_some laws names (ascii "host") _ rfl (by omega)
  · exact submits.finds_plain laws names (ascii "port") _ rfl portPlain
      (by omega)

/-- The button of a preset stands for its host and port. -/
theorem handlerProxyPost_preset {i : Nat} (t : Settings)
    (shown : presetShown s = some i)
    (whole : body.take 255 = body)
    (kind : query body (ascii "px") 8 = (.ok, decimal i)) :
    handlerProxyPost query t true body = some (true, s.pxHost, s.pxPort) := by
  obtain ⟨inside, preset, _⟩ := presetShown_some shown
  have words : ∀ i < 6, decimal (i : Nat) ≠ ascii "off" ∧
      decimal (i : Nat) ≠ ascii "custom" := by
    decide
  obtain ⟨notOff, notCustom⟩ := words i inside
  simp only [handlerProxyPost, recvBody, if_true, Nat.reduceSub, whole, kind,
    ne_eq, not_true_eq_false, if_false, notOff, notCustom, strtol_decimal,
    preset, Option.map_some]

theorem trimSpaces_of_noSpace {text : List UInt8} (noSpace : 32 ∉ text) :
    trimSpaces text = text := by
  have front : text.dropWhile (· == 32) = text := by
    rw [List.dropWhile_eq_self_iff]
    intro present isSpace
    exact noSpace (beq_iff_eq.mp isSpace ▸ List.getElem_mem present)
  rw [trimSpaces, front, List.rdropWhile_eq_self_iff]
  intro present isSpace
  exact noSpace (beq_iff_eq.mp isSpace ▸ List.getLast_mem present)

/-- The text fields stand for the host and the port, unless one is missing. -/
theorem handlerProxyPost_fields (t : Settings) (proper : Proper s)
    (shown : presetShown s = none) {sent : List UInt8}
    (sends : Sends s.pxHost sent) (whole : body.take 255 = body)
    (kind : query body (ascii "px") 8 = (.ok, ascii "custom"))
    (host : query body (ascii "host") (proxyHostMax * 3) = (.ok, sent))
    (port : query body (ascii "port") 8 = (.ok, fieldPort s)) :
    handlerProxyPost query t true body =
      if s.pxHost ≠ [] ∧ s.pxPort ≠ 0 then some (true, s.pxHost, s.pxPort)
      else none := by
  have short := proper.short
  have size : proxyHostMax = 64 := rfl
  have decoded : formDecode sent proxyHostMax = s.pxHost :=
    formDecode_sends sends (by omega)
  have text : trimSpaces (cstr s.pxHost) = s.pxHost := by
    rw [(cstr_eq_self_iff _).mpr proper.noNul,
      trimSpaces_of_noSpace proper.noSpace]
  have small := s.pxPort.toNat_lt
  have number : strtol 10 (fieldPort s) = s.pxPort.toNat := by
    rw [fieldPort, shown]
    by_cases zero : s.pxPort = 0
    · rw [zero]
      rfl
    · exact (congrArg (strtol 10) (if_neg zero)).trans (strtol_decimal _)
  have positive : (0 : Int) < s.pxPort.toNat ↔ s.pxPort ≠ 0 := by
    rw [Int.natCast_pos, Nat.pos_iff_ne_zero, ne_eq, ne_eq, not_iff_not,
      ← UInt16.toNat_inj]
    rfl
  have most : (s.pxPort.toNat : Int) ≤ 65535 := by omega
  rw [handlerProxyPost_custom sent (fieldPort s) (by rw [whole, kind])
    (by rw [whole, host]) (by rw [whole, port]), decoded, text]
  simp only [number, positive, most, proper.noSpace, not_false_eq_true,
    true_and, and_true, Int.toNat_natCast, UInt16.ofNat_toNat]

/-- What the page sends back: the proxy that was shown, or off for the proxy
there is by then. -/
theorem handlerProxyPost_of_submits (laws : FormLaws query) (proper : Proper s)
    (later : Proper t) (submits : Submits (proxyFields s) body) :
    handlerProxyPost query t true body =
      if s.pxOn then
        if s.pxReady then some (true, s.pxHost, s.pxPort) else none
      else some (false, t.pxHost, t.pxPort) := by
  obtain ⟨whole, kind, ⟨sent, sends, host⟩, port⟩ :=
    proxyFields_found laws proper submits
  have ready := proper.ready
  cases on : s.pxOn with
  | false =>
      rw [on] at kind
      have off : query body (ascii "px") 8 = (.ok, ascii "off") := kind
      simp only [handlerProxyPost, recvBody, if_true, Nat.reduceSub, whole, off,
        ne_eq, not_true_eq_false, if_false, proxyGet, later.copied,
        Bool.false_eq_true]
  | true =>
      rw [on] at kind ready
      cases shown : presetShown s with
      | none =>
          rw [shown] at kind
          have fieldIs : fieldHost s = s.pxHost := by
            rw [fieldHost, shown]
            rfl
          rw [fieldIs] at sends
          rw [handlerProxyPost_fields t proper shown sends whole kind host
            port, ready]
          simp
      | some i =>
          rw [shown] at kind
          obtain ⟨_, _, present, positive⟩ := presetShown_some shown
          rw [handlerProxyPost_preset t shown whole kind, ready]
          simp [present, positive]

/-- The host that is saved has no spaces. -/
theorem handlerProxyPost_noSpace (proper : Proper t) {received : Bool}
    {content host : List UInt8} {on : Bool} {port : UInt16}
    (saves : handlerProxyPost query t received content =
      some (on, host, port)) : 32 ∉ host := by
  have presets : ∀ p ∈ presets, 32 ∉ p.1 := by decide
  unfold handlerProxyPost at saves
  split at saves
  · cases saves
  · dsimp only at saves
    split_ifs at saves with _ _ _ valid
    · rw [proxyGet, proper.copied] at saves
      cases saves
      exact proper.noSpace
    · cases saves
      exact valid.2.1
    · obtain ⟨p, isPreset, same⟩ := Option.map_eq_some_iff.mp saves
      cases same
      rw [proxyPresetGet] at isPreset
      split at isPreset
      · exact presets p (List.mem_of_getElem? isPreset)
      · cases isPreset

end Handlers

/-! ## The page and the other tasks -/

/-- What happens around the page. -/
inductive PageEvent where
  /-- web task: the form comes in -/
  | post (received : Bool) (content : List UInt8) (io : NvsIo)
  /-- the bridge restarts -/
  | restart
  /-- any task goes on -/
  | task (event : Event)

/-- Only the page saves the settings. -/
def pageStep (query : QueryFn) (s : Redirector) : PageEvent → Redirector
  | .post received content io =>
    match handlerProxyPost query s.settings received content with
    | none => s
    | some (on, host, port) => s.step (.outside (.proxySet io on host port))
  | .restart => Redirector.boot s.nvs
  | .task (.outside (.proxySet _ _ _ _)) => s
  | .task event => s.step event

/-- No host has spaces, in memory or in NVS. -/
structure KeepsProxy (s : Redirector) : Prop where
  settings : Proper s.settings
  stored : ∀ host, s.nvs.pxHost = some host → 32 ∉ host

section Runs

variable {query : QueryFn} {s : Redirector}

theorem Proper.giveUp {settings : Settings} (proper : Proper settings) :
    Proper settings.giveUp where
  stored := by
    simp only [Settings.giveUp, storeSettings, proper.copied, Bool.false_and]
  noSpace := proper.noSpace

theorem KeepsProxy.boot {nvs : Proxy.Nvs}
    (stored : ∀ host, nvs.pxHost = some host → 32 ∉ host) :
    KeepsProxy (Redirector.boot nvs) where
  settings := ⟨rfl, List.not_mem_nil⟩
  stored := stored

/-- The host is written or left as it was. -/
theorem proxySet_host (io : NvsIo) (on : Bool) (host : List UInt8)
    (port : UInt16) (nvs : Proxy.Nvs) :
    (Proxy.proxySet io on host port nvs).2.pxHost = some (cstr host) ∨
      (Proxy.proxySet io on host port nvs).2.pxHost = nvs.pxHost := by
  rw [Proxy.proxySet]
  dsimp only
  split
  · by_cases written : io.setHost = true
    · exact Or.inl (if_pos written)
    · exact Or.inr (if_neg written)
  · exact Or.inr rfl

theorem KeepsProxy.proxySet (keeps : KeepsProxy s) (io : NvsIo) (on : Bool)
    {host : List UInt8} (port : UInt16) (noSpace : 32 ∉ host) :
    KeepsProxy (s.step (.outside (.proxySet io on host port))) where
  settings := proper_storeSettings on port noSpace
  stored := by
    intro kept isKept
    have isHost : (Proxy.proxySet io on host port s.nvs).2.pxHost =
        some kept := isKept
    rcases proxySet_host io on host port s.nvs with written | same
    · rw [written] at isHost
      cases isHost
      exact fun member => noSpace ((List.takeWhile_prefix _).subset member)
    · exact keeps.stored kept (same ▸ isHost)

theorem KeepsProxy.proxyInit (keeps : KeepsProxy s) (opened : Bool) :
    KeepsProxy (s.step (.proxyInit opened)) := by
  rw [Redirector.step]
  split
  · refine ⟨?_, keeps.stored⟩
    refine proper_storeSettings _ _ ?_
    split
    · split
      · next host isStored =>
        split
        · exact keeps.stored host isStored
        · exact List.not_mem_nil
      · exact List.not_mem_nil
    · exact List.not_mem_nil
  · exact keeps

theorem KeepsProxy.listen (keeps : KeepsProxy s) (http tls : Bool) :
    KeepsProxy (s.step (.listen http tls)) := by
  rw [Redirector.step]
  split
  · split
    · exact ⟨keeps.settings, keeps.stored⟩
    · exact ⟨keeps.settings.giveUp, keeps.stored⟩
  · exact keeps

theorem KeepsProxy.step (keeps : KeepsProxy s) (event : PageEvent) :
    KeepsProxy (pageStep query s event) := by
  cases event with
  | post received content io =>
      rw [pageStep]
      split
      · exact keeps
      · next on host port saves =>
        exact keeps.proxySet io on port
          (handlerProxyPost_noSpace keeps.settings saves)
  | restart => exact .boot keeps.stored
  | task event =>
      cases event with
      | proxyInit opened => exact keeps.proxyInit opened
      | listen http tls => exact keeps.listen http tls
      | relayClose phonePort now => exact ⟨keeps.settings, keeps.stored⟩
      | outside event =>
          cases event with
          | proxySet io on host port => exact keeps
          | commit =>
              show KeepsProxy (s.outsideStep .commit)
              rw [Redirector.outsideStep]
              split
              · exact keeps
              · exact ⟨keeps.settings, keeps.stored⟩
          | arrive p inp now =>
              show KeepsProxy (s.outsideStep (.arrive p inp now))
              rw [Redirector.outsideStep]
              split
              · exact keeps
              · exact ⟨keeps.settings, keeps.stored⟩
          | output _ _ _ | attach _ | wifi _ =>
              exact ⟨keeps.settings, keeps.stored⟩

/-- The bridge as it is delivered. -/
def factory : Redirector := Redirector.boot ⟨none, none, none⟩

theorem keepsProxy_run (events : List PageEvent) :
    KeepsProxy (run (pageStep query) factory events) :=
  run_invariant KeepsProxy (fun _ event keeps => keeps.step event)
    (.boot fun _ isStored => by cases isStored) events

/-- In every run the page is sent whole and shows the proxy in its form.
Whenever the form comes back as it was shown, the proxy that was shown is set
again if it was in use; if it was on without a host or a port, nothing is set;
and if it was off, the proxy there is by then is switched off. -/
theorem proxy_sent_back (laws : FormLaws query) (events later : List PageEvent)
    (sessions : Nat) (io : NvsIo) (body : List UInt8) :
    let shown := (run (pageStep query) factory events).settings
    let there := run (pageStep query) factory (events ++ later)
    handlerProxyGet shown sessions =
        proxyText shown.pxOn
          (proxyNow shown.pxOn (escaped shown.pxHost) shown.pxPort sessions)
          (presetShown shown) (escaped (fieldHost shown)) (fieldPort shown) ∧
      shownForm (handlerProxyGet shown sessions) = proxyFields shown ∧
      (Submits (shownForm (handlerProxyGet shown sessions)) body →
        (pageStep query there (.post true body io)).settings =
          if shown.pxOn then
            if shown.pxReady then shown else there.settings
          else { there.settings with pxOn := false, pxReady := false }) := by
  dsimp only
  have proper := (@keepsProxy_run query events).settings
  have later := (@keepsProxy_run query (events ++ later)).settings
  have page := shownForm_handlerProxyGet proper sessions
  refine ⟨handlerProxyGet_eq proper sessions, page, ?_⟩
  rw [page]
  intro submits
  rw [pageStep, handlerProxyPost_of_submits laws proper later submits]
  have stored := proper.stored
  generalize (run (pageStep query) factory events).settings = shown
    at stored
  cases on : shown.pxOn with
  | false => exact later.giveUp.stored
  | true =>
      rw [on] at stored
      cases ready : shown.pxReady with
      | false => rfl
      | true => exact stored

/-- Every write works. -/
def allWritten : NvsIo := ⟨true, true, true, true⟩

/-- A preset is chosen and switched off again; the page from in between comes
back. -/
theorem proxy_sent_back_preset :
    (pageStep piecesQuery
        (run (pageStep piecesQuery) factory
          ([.post true (ascii "px=0") allWritten] ++
            [.post true (ascii "px=off") allWritten]))
        (.post true (ascii "px=0&host=&port=") allWritten)).settings =
      storeSettings true (ascii "176.103.221.33") 3130 := by
  have chosen :
      (run (pageStep piecesQuery) factory
        [.post true (ascii "px=0") allWritten]).settings =
        storeSettings true (ascii "176.103.221.33") 3130 := by
    decide +kernel
  have fields :
      proxyFields (storeSettings true (ascii "176.103.221.33") 3130) =
        [(ascii "px", ascii "0"), (ascii "host", []), (ascii "port", [])] := by
    decide +kernel
  have back := proxy_sent_back piecesQuery_formLaws
    [.post true (ascii "px=0") allWritten]
    [.post true (ascii "px=off") allWritten] 0 allWritten
    (ascii "px=0&host=&port=")
  dsimp only at back
  rw [chosen] at back
  obtain ⟨-, page, sent⟩ := back
  rw [page, fields] at sent
  refine sent ⟨_, ?_, (by decide :
    ascii "px=0&host=&port=" =
      formBody [(ascii "px", ascii "0"), (ascii "host", []),
        (ascii "port", [])])⟩
  exact .cons
    ⟨sends_of_unreserved (by decide), sends_of_unreserved (by decide)⟩
    (.cons ⟨sends_of_unreserved (by decide), .nil⟩
      (.cons ⟨sends_of_unreserved (by decide), .nil⟩ .nil))

end Runs

end VeteraBridge.Web

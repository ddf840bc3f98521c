import VeteraBridge.Gateway.DebugLog
import VeteraBridge.Link.SecurityMode
import VeteraBridge.Web.EditForm

/-!
# The pages of the name, the log and the security mode

Each page shows a setting in a form and handles what the form sends.  A form
that is sent back as it is shown asks for the setting it shows.
-/

namespace VeteraBridge.Web

open FormEncoding
open Gateway (DeviceName btNameMax btNameCustomMax dbgAll dbgHciPackets
  dbgBtstackLog dbgVerbose)
open Link (BtsecMode askedMode handlerSecurityPost)
open Proxy (ascii ascii_literal_length cstr cstr_eq_self_iff not_mem_cstr
  strlcpy)

/-- The beginning of a settings page. -/
def settingsHead (title : List UInt8) : List UInt8 :=
  ascii "<html><head><title>" ++ title ++ ascii "</title>" ++ metaCharset ++
    metaViewport ++ metaFormat ++ ascii "</head>" ++ bodyOpen ++
    ascii "<h2>" ++ title ++ ascii "</h2><hr>"

/-- The button of a settings page, and the end of its form. -/
def saveButton : List UInt8 :=
  ascii "<p style='text-align:center;'><input type='submit' value='Save' " ++
    ascii "style='font-size:110%;'></p>" ++ ascii "</form>"

/-! ## The device name -/

def nameHead : List UInt8 :=
  settingsHead (ascii "Device Name") ++ grayBox ++
    ascii "<b>Shown to phones:</b> "

def nameDefault : List UInt8 :=
  ascii "<br>" ++ ascii "<b>Default for this unit:</b> "

def nameForm : List UInt8 :=
  ascii "</div>" ++ ascii "<form action='/name' method='post'>" ++
    ascii "<p>Custom name: (empty = use the default)<br>" ++
    ascii "<input type='text' name='name' size='20' maxlength='" ++
    decimal (btNameCustomMax : Nat) ++ ascii "' value=\""

def nameTail : List UInt8 :=
  ascii "</p>" ++
    ascii "<p><input type='submit' value='Save name' " ++
    ascii "style='font-size:110%;'></p>" ++ ascii "</form>" ++
    ascii "<p style='text-align:left;'><small>The default number comes from " ++
    ascii "this unit's Bluetooth address, so every bridge differs. A phone " ++
    ascii "caches the name in its paired-devices list - it may keep showing " ++
    ascii "the old one until it searches for devices again.</small></p><hr>" ++
    ascii "<a href='/'>Status</a><br>" ++
    ascii "<a href='/wifi'>WiFi networks</a>" ++ ascii "<br>" ++ pageFooter

/-- The text of the page, with the escaped names. -/
def nameText (cur derived custom : List UInt8) : List UInt8 :=
  nameHead ++ cur ++ nameDefault ++ derived ++ nameForm ++ custom ++
    ascii "\">" ++ nameTail

/-- `handler_name_get`. -/
def handlerNameGet (s : DeviceName) : List UInt8 :=
  let cur := strlcpy s.nameActive btNameMax
  let custom := strlcpy s.value btNameMax
  let derived := strlcpy s.nameDerived btNameMax
  (nameText (htmlEscape cur (btNameMax * 6))
    (if derived = [] then ascii "(waiting for Bluetooth)"
     else htmlEscape derived (btNameMax * 6))
    (htmlEscape custom (btNameMax * 6))).take (2560 - 1)

/-- `handler_name_post`: the call of `bt_name_set`, if there is one. -/
def handlerNamePost (query : QueryFn) (received : Bool)
    (content : List UInt8) : Option (List UInt8) :=
  match recvBody received content 192 with
  | none => none
  | some buf =>
    let (status, raw) := query buf (ascii "name") 128
    if status = .ok then some (formDecode raw 128) else none

/-! ## Extended logging -/

def debugHci : List UInt8 :=
  settingsHead (ascii "Debug Logging") ++
    ascii "<form action='/debug' method='post' style='text-align:left;'>" ++
    ascii "<p><input type='checkbox' name='hci' value='1'"

def debugStk : List UInt8 :=
  ascii " <b>HCI packet trace</b><br>" ++
    ascii "<small>Every Bluetooth HCI packet as hex: SDP queries, RFCOMM " ++
    ascii "setup, pairing.</small></p>" ++
    ascii "<p><input type='checkbox' name='stk' value='1'"

def debugVrb : List UInt8 :=
  ascii " <b>BTstack internal log</b><br>" ++
    ascii "<small>The Bluetooth stack's own L2CAP/RFCOMM/SDP state " ++
    ascii "messages.</small></p>" ++
    ascii "<p><input type='checkbox' name='vrb' value='1'"

def debugTail : List UInt8 :=
  ascii " <b>Verbose bridge events</b><br>" ++
    ascii "<small>Unhandled HCI event codes, link security when a phone " ++
    ascii "opens the serial channel, every DNS query and its " ++
    ascii "answer.</small></p>" ++ saveButton ++
    ascii "<p style='text-align:left;'><small>Output goes to the USB serial " ++
    ascii "console (115200 baud) only. Changes apply at once and are kept " ++
    ascii "across reboots, so a trace can cover pairing from power-on. The " ++
    ascii "packet trace slows the phone's connection a lot: turn it off for " ++
    ascii "normal use.</small></p><hr>" ++ ascii "<a href='/'>Status</a>" ++
    ascii "<br>" ++ pageFooter

/-- The text of the page, by which boxes are ticked. -/
def debugText (hci stk vrb : Bool) : List UInt8 :=
  debugHci ++ (ticked hci ++ ascii ">") ++ debugStk ++
    (ticked stk ++ ascii ">") ++ debugVrb ++ (ticked vrb ++ ascii ">") ++
    debugTail

/-- `handler_debug_get`, for the flags `debug_log_get` gives. -/
def handlerDebugGet (f : UInt8) : List UInt8 :=
  (debugText (f &&& dbgHciPackets != 0) (f &&& dbgBtstackLog != 0)
    (f &&& dbgVerbose != 0)).take (2560 - 1)

/-- `handler_debug_post`: the call of `debug_log_set`, if there is one. -/
def handlerDebugPost (query : QueryFn) (received : Bool)
    (content : List UInt8) : Option UInt8 :=
  match recvBody received content 128 with
  | none => none
  | some buf =>
    let flag (key : List UInt8) (bit : UInt8) : UInt8 :=
      if (query buf key 4).1 = .ok then bit else 0
    some (flag (ascii "hci") dbgHciPackets |||
      flag (ascii "stk") dbgBtstackLog ||| flag (ascii "vrb") dbgVerbose)

/-! ## Bluetooth security -/

def securityHead : List UInt8 :=
  settingsHead (ascii "Bluetooth Security") ++ grayBox ++ ascii "<b>Now:</b> "

/-- The mode in effect, in words. -/
def securityNow : BtsecMode → List UInt8
  | .btsecOn => ascii "required"
  | .btsecOff => ascii "off"
  | .btsecAuto => ascii "auto (by phone name)"

/-- What the last phone was taken for, in auto. -/
def securityLast (mode : BtsecMode) (lastPhone : Option (List UInt8 × Bool)) :
    List UInt8 :=
  match mode, lastPhone with
  | .btsecAuto, some (lastName, secured) =>
    let name := strlcpy lastName btNameMax
    let esc :=
      htmlEscape (if name = [] then ascii "(no name)" else name) (btNameMax * 6)
    (ascii "<br><b>Last phone:</b> " ++ esc ++ ascii ", " ++
      (if secured then ascii "secured"
       else ascii "known model, not secured")).take (btNameMax * 6 + 64 - 1)
  | _, _ => []

def securityAuto : List UInt8 :=
  ascii "</div>" ++
    ascii "<form action='/security' method='post' style='text-align:left;'>" ++
    ascii "<p><input type='radio' name='sec' value='auto'"

def securityOn : List UInt8 :=
  ascii " <b>Auto</b><br>" ++
    ascii "<small>Off for S60 1st Edition phones and Nokia Communicators, " ++
    ascii "recognised by their Bluetooth name (N-Gage, 3650, 3660, 7650, " ++
    ascii "9210, 9290, 9300, 9500), on for every other " ++
    ascii "phone. A phone renamed away from its model counts as " ++
    ascii "\"other\".</small></p>" ++
    ascii "<p><input type='radio' name='sec' value='on'"

def securityOff : List UInt8 :=
  ascii " " ++ ascii "<b>Require authentication and encryption</b><br>" ++
    ascii "<small>The bridge authenticates and encrypts the link before a " ++
    ascii "phone can open the serial channel. S60 2nd Edition phones (e.g. " ++
    ascii "Nokia 7610) with gnubox need this.</small></p>" ++
    ascii "<p><input type='radio' name='sec' value='off'"

def securityTail : List UInt8 :=
  ascii " <b>Off</b><br>" ++
    ascii "<small>How S60 1st Edition phones (N-Gage, 3650, ...) " ++
    ascii "connect.</small></p>" ++ saveButton ++
    ascii "<p style='text-align:left;'><small>Saving a change reboots the " ++
    ascii "bridge, which drops a connected phone. With security on for a " ++
    ascii "phone, one that has not paired with the bridge is asked for the " ++
    ascii "PIN (0000) when it connects. Holding the board's BOOT button for " ++
    ascii "3 s also switches it: off, on, auto in turn.</small></p><hr>" ++
    ascii "<a href='/'>Status</a>" ++ ascii "<br>" ++ pageFooter

def securityText (mode : BtsecMode) (last : List UInt8) : List UInt8 :=
  securityHead ++ securityNow mode ++ last ++ securityAuto ++
    (ticked (mode == .btsecAuto) ++ ascii ">") ++ securityOn ++
    (ticked (mode == .btsecOn) ++ ascii ">") ++ securityOff ++
    (ticked (mode == .btsecOff) ++ ascii ">") ++ securityTail

/-- `handler_security_get`. -/
def handlerSecurityGet (mode : BtsecMode)
    (lastPhone : Option (List UInt8 × Bool)) : List UInt8 :=
  (securityText mode (securityLast mode lastPhone)).take (3072 - 1)

/-! ## What a browser reads -/

/-- A box or a button before its tick. -/
abbrev openChoice (kind name value : String) : Markup.Tag :=
  openInput kind name ++ [(ascii "value", some (ascii value))]

theorem noTag_escaped (text : List UInt8) : (60 : UInt8) ∉ escaped text :=
  fun member =>
    ((flatMap_escapeChar_inert (cstr text)).noMarkup 60 member).1 rfl

/-- An escaped text between tags. -/
theorem reads_escaped_text {Item : Type} {wanted : Markup.Tag → Option Item}
    (text : List UInt8) :
    Markup.Reads wanted .text (escaped text) [] .text :=
  Markup.reads_text (noTag_escaped text)

section Name

/-- The fixed pieces of the page. -/
theorem name_pieces :
    Piece .text nameHead .text 400 ∧ Piece .text nameDefault .text 100 ∧
      Piece .text nameForm
        (.quoted (openText "name" "20" "24") (ascii "value") 34 []) 200 ∧
      Piece .text nameTail .text 700 := by
  simp only [nameHead, nameDefault, nameForm, nameTail, settingsHead,
    metaCharset, metaViewport, metaFormat, bodyOpen, grayBox, pageFooter,
    ascii_literal rfl]
  decide +kernel

/-- A browser reads the custom name off the page, whatever the names are. -/
theorem shownForm_nameText (cur custom : List UInt8) {derived : List UInt8}
    (noTag : 60 ∉ derived) :
    shownForm (nameText (escaped cur) derived (escaped custom)) =
      [(ascii "name", cstr custom)] := by
  obtain ⟨head, middle, form, tail⟩ := name_pieces
  have reads :=
    ((((((head.reads.append (reads_escaped_text cur)).append
      middle.reads).append (Markup.reads_text noTag)).append
      form.reads).append (reads_escaped _ _ custom)).append
      (Markup.reads_close _ _ 34 _)).append tail.reads
  rw [← htmlUnescape_escaped custom]
  exact reads.shownForm

theorem nameText_length_lt {cur derived custom : List UInt8}
    (curShort : cur.length ≤ 186) (derivedShort : derived.length ≤ 186)
    (customShort : custom.length ≤ 186) :
    (nameText cur derived custom).length < 2560 := by
  obtain ⟨⟨_, head⟩, ⟨_, middle⟩, ⟨_, form⟩, _, tail⟩ := name_pieces
  have closes : (ascii "\">").length = 2 := by decide
  simp only [nameText, List.length_append, closes]
  omega

/-- A name that was copied into a buffer, escaped into another. -/
theorem escaped_strlcpy (name : List UInt8) :
    htmlEscape (strlcpy name btNameMax) (btNameMax * 6) =
        escaped (strlcpy name btNameMax) ∧
      (escaped (strlcpy name btNameMax)).length ≤ 186 ∧
      cstr (strlcpy name btNameMax) = strlcpy name btNameMax := by
  have noNul : 0 ∉ strlcpy name btNameMax := fun member =>
    not_mem_cstr name (List.mem_of_mem_take member)
  have text : cstr (strlcpy name btNameMax) = strlcpy name btNameMax :=
    (cstr_eq_self_iff _).mpr noNul
  have short : (strlcpy name btNameMax).length ≤ 31 := List.length_take_le _ _
  have escapedShort := escaped_length_le (strlcpy name btNameMax)
  rw [text] at escapedShort
  have size : btNameMax = 32 := rfl
  refine ⟨htmlEscape_eq ?_, by omega, text⟩
  rw [text]
  omega

/-- The page with the name shows the custom name. -/
theorem shownForm_handlerNameGet (s : DeviceName) :
    shownForm (handlerNameGet s) =
      [(ascii "name", strlcpy s.value btNameMax)] := by
  obtain ⟨cur, curShort, _⟩ := escaped_strlcpy s.nameActive
  obtain ⟨custom, customShort, customText⟩ := escaped_strlcpy s.value
  obtain ⟨derived, derivedShort, _⟩ := escaped_strlcpy s.nameDerived
  have shown :
      ∃ text : List UInt8, 60 ∉ text ∧ text.length ≤ 186 ∧
        (if strlcpy s.nameDerived btNameMax = [] then
          ascii "(waiting for Bluetooth)"
         else htmlEscape (strlcpy s.nameDerived btNameMax) (btNameMax * 6)) =
          text := by
    split
    · exact ⟨_, by decide, by decide, rfl⟩
    · exact ⟨_, noTag_escaped _, derivedShort, derived⟩
  obtain ⟨text, noTag, textShort, isText⟩ := shown
  have fits := nameText_length_lt curShort textShort customShort
  simp only [handlerNameGet, isText, cur, custom]
  rw [List.take_of_length_le (by omega), shownForm_nameText _ _ noTag,
    customText]

/-- The custom name that is sent comes to `bt_name_set` as it was typed. -/
theorem handlerNamePost_of_submits {query : QueryFn} (laws : FormLaws query)
    {name body : List UInt8} (fits : 3 * name.length < 128)
    (submits : Submits [(ascii "name", name)] body) :
    handlerNamePost query true body = some name := by
  have names : PlainNames [ascii "name"] := by decide
  have received : recvBody true body 192 = some body := by
    apply recvBody_whole
    have key : (ascii "name").length = 4 := by decide
    have length := submits.length_le names
    simp only [List.map_cons, List.map_nil, List.sum_cons, List.sum_nil, key]
      at length
    omega
  obtain ⟨sent, sends, found⟩ :=
    submits.finds_some laws names (ascii "name") 128 rfl fits
  have text : formDecode sent 128 = name :=
    formDecode_sends sends (show name.length < 128 by omega)
  simp only [handlerNamePost, received, found, if_true, text]

end Name

section Debug

/-- The fixed pieces of the page. -/
theorem debug_pieces :
    Piece .text debugHci (.word (openChoice "checkbox" "hci" "1") []) 500 ∧
      Piece .text debugStk (.word (openChoice "checkbox" "stk" "1") []) 200 ∧
      Piece .text debugVrb (.word (openChoice "checkbox" "vrb" "1") []) 200 ∧
      Piece .text debugTail .text 900 := by
  simp only [debugHci, debugStk, debugVrb, debugTail, settingsHead, saveButton,
    metaCharset, metaViewport, metaFormat, bodyOpen, pageFooter,
    ascii_literal rfl]
  decide +kernel

/-- The fields of the form: the ticked boxes. -/
def debugFields (hci stk vrb : Bool) : Fields :=
  (if hci then [(ascii "hci", ascii "1")] else []) ++
    (if stk then [(ascii "stk", ascii "1")] else []) ++
    (if vrb then [(ascii "vrb", ascii "1")] else [])

theorem shownForm_debugText (hci stk vrb : Bool) :
    shownForm (debugText hci stk vrb) = debugFields hci stk vrb := by
  obtain ⟨one, two, three, tail⟩ := debug_pieces
  have reads :=
    (((((one.reads.append (reads_ticked _ hci)).append
      two.reads).append (reads_ticked _ stk)).append
      three.reads).append (reads_ticked _ vrb)).append tail.reads
  refine reads.shownForm.trans ?_
  cases hci <;> cases stk <;> cases vrb <;> rfl

theorem ticked_length_le (on : Bool) : (ticked on).length ≤ 8 := by
  cases on <;> decide

theorem debugText_length_lt (hci stk vrb : Bool) :
    (debugText hci stk vrb).length < 2560 := by
  obtain ⟨⟨_, one⟩, ⟨_, two⟩, ⟨_, three⟩, _, tail⟩ := debug_pieces
  have closes : (ascii ">").length = 1 := by decide
  have ticks := ticked_length_le
  have first := ticks hci
  have second := ticks stk
  have third := ticks vrb
  simp only [debugText, List.length_append, closes]
  omega

theorem shownForm_handlerDebugGet (f : UInt8) :
    shownForm (handlerDebugGet f) =
      debugFields (f &&& dbgHciPackets != 0) (f &&& dbgBtstackLog != 0)
        (f &&& dbgVerbose != 0) := by
  have fits := debugText_length_lt (f &&& dbgHciPackets != 0)
    (f &&& dbgBtstackLog != 0) (f &&& dbgVerbose != 0)
  rw [handlerDebugGet, List.take_of_length_le (by omega), shownForm_debugText]

/-- The ticked boxes are the flags. -/
theorem handlerDebugPost_of_submits {query : QueryFn} (laws : FormLaws query)
    (hci stk vrb : Bool) {body : List UInt8}
    (submits : Submits (debugFields hci stk vrb) body) :
    handlerDebugPost query true body =
      some ((if hci then dbgHciPackets else 0) |||
        (if stk then dbgBtstackLog else 0) |||
        (if vrb then dbgVerbose else 0)) := by
  have names : PlainNames ((debugFields hci stk vrb).map Prod.fst) := by
    cases hci <;> cases stk <;> cases vrb <;> decide
  have received : recvBody true body 128 = some body := by
    apply recvBody_whole
    have length := submits.length_le names
    have short :
        ((debugFields hci stk vrb).map fun field =>
          field.1.length + 3 * field.2.length + 2).sum ≤ 24 := by
      cases hci <;> cases stk <;> cases vrb <;> decide
    omega
  -- whether a box is found says whether it is ticked
  have flag (key : List UInt8) (on : Bool) (bit : UInt8)
      (value : fieldValue (debugFields hci stk vrb) key =
        if on then some (ascii "1") else none) :
      (if (query body key 4).1 = .ok then bit else 0) =
        if on then bit else 0 := by
    cases on with
    | false =>
        rw [submits.finds_none laws names key 4 value (by decide)]
        rfl
    | true =>
        obtain ⟨sent, _, found⟩ :=
          submits.finds_some laws names key 4 value (by decide)
        rw [found]
        rfl
  have first := flag (ascii "hci") hci dbgHciPackets
    (by cases hci <;> cases stk <;> cases vrb <;> decide)
  have second := flag (ascii "stk") stk dbgBtstackLog
    (by cases hci <;> cases stk <;> cases vrb <;> decide)
  have third := flag (ascii "vrb") vrb dbgVerbose
    (by cases hci <;> cases stk <;> cases vrb <;> decide)
  simp only [handlerDebugPost, received, first, second, third]

/-- Three bits, read off one by one. -/
theorem flags_together (f : UInt8) :
    ((if (f &&& dbgHciPackets != 0) = true then dbgHciPackets else 0) |||
        (if (f &&& dbgBtstackLog != 0) = true then dbgBtstackLog else 0) |||
        (if (f &&& dbgVerbose != 0) = true then dbgVerbose else 0)) =
      f &&& dbgAll := by
  have each : ∀ n < 256,
      ((if (UInt8.ofNat n &&& dbgHciPackets != 0) = true then dbgHciPackets
        else 0) |||
        (if (UInt8.ofNat n &&& dbgBtstackLog != 0) = true then dbgBtstackLog
          else 0) |||
        (if (UInt8.ofNat n &&& dbgVerbose != 0) = true then dbgVerbose
          else 0)) = UInt8.ofNat n &&& dbgAll := by
    decide +kernel
  have here := each f.toNat f.toNat_lt
  rwa [UInt8.ofNat_toNat] at here

end Debug

section Security

/-- The fixed pieces of the page. -/
theorem security_pieces (mode : BtsecMode) :
    Piece .text securityHead .text 400 ∧
      Piece .text (securityNow mode) .text 20 ∧
      Piece .text securityAuto (.word (openChoice "radio" "sec" "auto") [])
        200 ∧
      Piece .text securityOn (.word (openChoice "radio" "sec" "on") []) 400 ∧
      Piece .text securityOff (.word (openChoice "radio" "sec" "off") []) 400 ∧
      Piece .text securityTail .text 900 := by
  have now : Piece .text (securityNow mode) .text 20 := by
    cases mode <;> decide
  refine ⟨?_, now, ?_⟩
  · simp only [securityHead, settingsHead, metaCharset, metaViewport,
      metaFormat, bodyOpen, grayBox, ascii_literal rfl]
    decide +kernel
  · simp only [securityAuto, securityOn, securityOff, securityTail, saveButton,
      pageFooter, ascii_literal rfl]
    decide +kernel

/-- What a name is shown as: at most 186 bytes without a tag. -/
theorem shown_phone (name : List UInt8) :
    ∃ text : List UInt8, 60 ∉ text ∧ text.length ≤ 186 ∧
      htmlEscape
        (if strlcpy name btNameMax = [] then ascii "(no name)"
         else strlcpy name btNameMax) (btNameMax * 6) = text := by
  split
  · exact ⟨ascii "(no name)", by decide +kernel, by decide +kernel,
      by decide +kernel⟩
  · obtain ⟨whole, short, _⟩ := escaped_strlcpy name
    exact ⟨_, noTag_escaped _, short, whole⟩

/-- Whatever the last phone is called, it is shown as text. -/
theorem securityLast_reads (mode : BtsecMode)
    (lastPhone : Option (List UInt8 × Bool)) :
    ReadsForm .text (securityLast mode lastPhone) [] .text ∧
      (securityLast mode lastPhone).length ≤ 255 := by
  have nothing :
      ReadsForm .text [] [] .text ∧ ([] : List UInt8).length ≤ 255 := by
    decide
  unfold securityLast
  split
  · next lastName secured =>
    obtain ⟨text, noTag, short, isText⟩ := shown_phone lastName
    have label : (ascii "<br><b>Last phone:</b> ").length = 23 := by decide
    have comma : (ascii ", ").length = 2 := by decide
    have outcome :
        (60 : UInt8) ∉ (if secured then ascii "secured"
          else ascii "known model, not secured") ∧
        (if secured then ascii "secured"
          else ascii "known model, not secured").length ≤ 24 := by
      cases secured <;> decide +kernel
    have size : btNameMax = 32 := rfl
    dsimp only
    rw [isText, List.take_of_length_le]
    · have front :
          ReadsForm .text (ascii "<br><b>Last phone:</b> ") [] .text := by
        decide +kernel
      have between : ReadsForm .text (ascii ", ") [] .text := by decide
      refine ⟨((front.append (Markup.reads_text noTag)).append between).append
        (Markup.reads_text outcome.1), ?_⟩
      simp only [List.length_append, label, comma]
      omega
    · simp only [List.length_append, label, comma]
      omega
  · exact nothing

/-- The value of the button of a mode. -/
def modeWord : BtsecMode → List UInt8
  | .btsecOff => ascii "off"
  | .btsecOn => ascii "on"
  | .btsecAuto => ascii "auto"

theorem shownForm_securityText (mode : BtsecMode) {last : List UInt8}
    (reads : ReadsForm .text last [] .text) :
    shownForm (securityText mode last) = [(ascii "sec", modeWord mode)] := by
  obtain ⟨head, now, auto, on, off, tail⟩ := security_pieces mode
  have whole :=
    ((((((((head.reads.append now.reads).append reads).append
      auto.reads).append (reads_ticked _ (mode == .btsecAuto))).append
      on.reads).append (reads_ticked _ (mode == .btsecOn))).append
      off.reads).append (reads_ticked _ (mode == .btsecOff))).append tail.reads
  refine whole.shownForm.trans ?_
  cases mode <;> rfl

theorem securityText_length_lt (mode : BtsecMode) {last : List UInt8}
    (short : last.length ≤ 255) : (securityText mode last).length < 3072 := by
  obtain ⟨⟨_, head⟩, ⟨_, now⟩, ⟨_, auto⟩, ⟨_, on⟩, ⟨_, off⟩, _, tail⟩ :=
    security_pieces mode
  have closes : (ascii ">").length = 1 := by decide
  have first := ticked_length_le (mode == .btsecAuto)
  have second := ticked_length_le (mode == .btsecOn)
  have third := ticked_length_le (mode == .btsecOff)
  simp only [securityText, List.length_append, closes]
  omega

theorem shownForm_handlerSecurityGet (mode : BtsecMode)
    (lastPhone : Option (List UInt8 × Bool)) :
    shownForm (handlerSecurityGet mode lastPhone) =
      [(ascii "sec", modeWord mode)] := by
  obtain ⟨reads, short⟩ := securityLast_reads mode lastPhone
  have fits := securityText_length_lt mode short
  rw [handlerSecurityGet, List.take_of_length_le (by omega),
    shownForm_securityText mode reads]

/-- The button that is sent asks for its mode. -/
theorem askedMode_of_submits {query : QueryFn} (laws : FormLaws query)
    (mode : BtsecMode) {body : List UInt8}
    (submits : Submits [(ascii "sec", modeWord mode)] body) :
    recvBody true body 64 = some body ∧
      askedMode query true body = some mode := by
  have names : PlainNames [ascii "sec"] := by decide
  have plain : Unreserved (modeWord mode) := by
    cases mode <;> decide
  have short : (modeWord mode).length ≤ 4 := by
    cases mode <;> decide
  have received : recvBody true body 64 = some body := by
    apply recvBody_whole
    have key : (ascii "sec").length = 3 := by decide
    have length := submits.length_le names
    simp only [List.map_cons, List.map_nil, List.sum_cons, List.sum_nil, key]
      at length
    omega
  have found : query body (ascii "sec") 8 = (.ok, modeWord mode) :=
    submits.finds_plain laws names (ascii "sec") 8 rfl plain (by omega)
  refine ⟨received, ?_⟩
  rw [askedMode, received]
  simp only [found]
  cases mode <;> decide

end Security

/-! ## Sent back as they are shown -/

section SentBack

open EventRun
open Gateway (DebugLog HciDump NameEvent DebugEvent)

/-- The flags that are set, or about to be, are known ones. -/
structure KnownFlags (s : DebugLog) : Prop where
  value : s.value &&& dbgAll = s.value
  pending : ∀ clean, s.web = .cleaned clean → clean &&& dbgAll = clean

theorem dbgAll_again (flags : UInt8) : flags &&& dbgAll &&& dbgAll =
    flags &&& dbgAll := by
  rw [UInt8.and_assoc, UInt8.and_self]

theorem KnownFlags.set {s : DebugLog} (known : KnownFlags s) (flags : UInt8) :
    KnownFlags (s.debugLogSet flags) := by
  cases web : s.web with
  | idle =>
      simp only [DebugLog.debugLogSet, Gateway.Setting.webSet, web]
      refine ⟨known.value, fun clean isClean => ?_⟩
      cases isClean
      exact dbgAll_again flags
  | cleaned _ | saves _ _ | saved _ =>
      simp only [DebugLog.debugLogSet, Gateway.Setting.webSet, web]
      exact known

theorem KnownFlags.webStep {s : DebugLog} (known : KnownFlags s)
    (opened written : Bool) : KnownFlags (s.webStep opened written) := by
  cases web : s.web with
  | idle =>
      simp only [DebugLog.webStep, Gateway.Setting.webStep, web]
      exact known
  | cleaned clean =>
      simp only [DebugLog.webStep, Gateway.Setting.webStep, web]
      exact ⟨known.pending clean web, fun _ isClean => by cases isClean⟩
  | saves _ _ =>
      simp only [DebugLog.webStep, Gateway.Setting.webStep, web]
      exact ⟨known.value, fun _ isClean => by cases isClean⟩
  | saved already =>
      cases already with
      | false | true =>
          simp only [DebugLog.webStep, Gateway.Setting.webStep, web]
          exact ⟨known.value, fun _ isClean => by cases isClean⟩

/-- The BTstack task leaves the flags alone. -/
theorem KnownFlags.btStep {s : DebugLog} (known : KnownFlags s) :
    KnownFlags s.btStep := by
  cases bt : s.bt with
  | setup | idle | called | reads | applies _ =>
      simp only [DebugLog.btStep, bt]
      exact ⟨known.value, known.pending⟩

theorem KnownFlags.runLoop {s : DebugLog} (known : KnownFlags s) :
    KnownFlags s.runLoop := by
  rw [DebugLog.runLoop]
  split
  · exact ⟨known.value, known.pending⟩
  · exact known

theorem KnownFlags.step {s : DebugLog} (known : KnownFlags s) :
    ∀ event : DebugEvent, KnownFlags (s.step event)
  | .set flags => known.set flags
  | .web opened written => known.webStep opened written
  | .runLoop => known.runLoop
  | .bt => known.btStep

theorem boot_knownFlags (opened : Bool) (nvs : Option UInt8)
    (hciDump : HciDump) : KnownFlags (DebugLog.boot opened nvs hciDump) where
  value := by
    show Gateway.nvsFlagsLoad opened nvs &&& dbgAll =
      Gateway.nvsFlagsLoad opened nvs
    unfold Gateway.nvsFlagsLoad
    split
    · rfl
    · split
      · exact dbgAll_again _
      · rfl
  pending := by
    intro clean isClean
    cases isClean

/-- In every run, whatever the names and the phones: the page of the name shows
the custom name, that of the log the flags, and that of the security mode the
mode, each in a form with nothing else in it.  A form that is sent back as it is
shown sets the same name and the same flags, and leaves the mode alone. -/
theorem settings_sent_back {query : QueryFn} (laws : FormLaws query) :
    (∀ (opened : Bool) (nvs : Option (List UInt8)) (events : List NameEvent),
      let s := run DeviceName.step (DeviceName.boot opened nvs) events
      shownForm (handlerNameGet s) = [(ascii "name", s.value)] ∧
        ∀ body, Submits (shownForm (handlerNameGet s)) body →
          handlerNamePost query true body = some s.value) ∧
    (∀ (opened : Bool) (nvs : Option UInt8) (hciDump : HciDump)
        (events : List DebugEvent),
      let s := run DebugLog.step (DebugLog.boot opened nvs hciDump) events
      shownForm (handlerDebugGet s.value) =
          debugFields (s.value &&& dbgHciPackets != 0)
            (s.value &&& dbgBtstackLog != 0) (s.value &&& dbgVerbose != 0) ∧
        ∀ body, Submits (shownForm (handlerDebugGet s.value)) body →
          handlerDebugPost query true body = some s.value) ∧
    (∀ (mode : BtsecMode) (lastPhone : Option (List UInt8 × Bool)),
      shownForm (handlerSecurityGet mode lastPhone) =
          [(ascii "sec", modeWord mode)] ∧
        ∀ body, Submits (shownForm (handlerSecurityGet mode lastPhone)) body →
          handlerSecurityPost query mode true body = .redirects) := by
  refine ⟨?_, ?_, ?_⟩
  · intro opened nvs events
    obtain ⟨a, _, refines⟩ := DeviceName.run_follows opened nvs events
    have fits := refines.setting.valueFits
    dsimp only at fits ⊢
    have shown := shownForm_handlerNameGet
      (run DeviceName.step (DeviceName.boot opened nvs) events)
    rw [fits] at shown
    refine ⟨shown, ?_⟩
    intro body submits
    rw [shown] at submits
    refine handlerNamePost_of_submits laws ?_ submits
    rw [← fits]
    have short : ∀ name : List UInt8,
        (strlcpy name btNameMax).length ≤ 31 := fun name =>
      List.length_take_le _ _
    have here := short
      (run DeviceName.step (DeviceName.boot opened nvs) events).value
    omega
  · intro opened nvs hciDump events
    have known : KnownFlags
        (run DebugLog.step (DebugLog.boot opened nvs hciDump) events) :=
      run_invariant KnownFlags (fun _ event known => known.step event)
        (boot_knownFlags opened nvs hciDump) events
    dsimp only
    refine ⟨shownForm_handlerDebugGet _, ?_⟩
    intro body submits
    rw [shownForm_handlerDebugGet] at submits
    rw [handlerDebugPost_of_submits laws _ _ _ submits, flags_together,
      known.value]
  · intro mode lastPhone
    refine ⟨shownForm_handlerSecurityGet mode lastPhone, ?_⟩
    intro body submits
    rw [shownForm_handlerSecurityGet] at submits
    obtain ⟨received, asked⟩ := askedMode_of_submits laws mode submits
    rw [handlerSecurityPost, received, asked]
    exact if_pos rfl

/-- The page of the security mode in auto, sent back. -/
theorem settings_sent_back_auto :
    handlerSecurityPost piecesQuery .btsecAuto true (ascii "sec=auto") =
      .redirects := by
  have auto := (settings_sent_back piecesQuery_formLaws).2.2 .btsecAuto none
  refine auto.2 _ ?_
  rw [auto.1]
  refine ⟨[(ascii "sec", ascii "auto")], ?_, by decide⟩
  exact .cons
    ⟨sends_of_unreserved (by decide), sends_of_unreserved (by decide)⟩ .nil

end SentBack

end VeteraBridge.Web

import VeteraBridge.Web.PageLinks
import VeteraBridge.Wifi.SavedList

/-!
# The page of the WiFi networks

The page numbers the saved networks and has a link for each to its removal.  It
is made from the list of the moment, and the list goes on changing.
-/

namespace VeteraBridge.Web

open EventRun
open Proxy (ascii cstr strlcpy)
open Wifi (Bridge Event ListCall Saved WifiCred WifiIo WifiList wifiListGetSsid
  wifiListMax)

/-! ## The page -/

def wifiHead : List UInt8 :=
  ascii "<html><head><title>WiFi Networks</title>" ++ metaCharset ++
    metaViewport ++ metaFormat ++ ascii "</head>" ++ bodyOpen ++
    ascii "<h2>WiFi Networks</h2><hr>"

def wifiFailedText : List UInt8 :=
  ascii "<p style='color:#e74c3c;'>Could not connect to any saved " ++
    ascii "network.<br>Check the list below.</p>"

def wifiNone : List UInt8 :=
  ascii "<p>No networks saved yet.<br>" ++
    ascii "The gateway connects to the strongest saved network " ++
    ascii "it can find.</p>"

def wifiRowText (i : Nat) (esc : List UInt8) : List UInt8 :=
  decimal (i + 1) ++ ascii ". <b>" ++ esc ++
    ascii "</b> [<a href='/wifi/del?i=" ++ decimal i ++
    ascii "'>delete</a>]<br>"

/-- The form that adds a network, and the links at the end. -/
def wifiMenu : List UInt8 :=
  ascii "<form action='/wifi/add' method='post'>" ++ ascii "<p>SSID:<br>" ++
    ascii "<input type='text' name='ssid' size='20' maxlength='32'></p>" ++
    ascii "<p>Password: (empty for open networks)<br>" ++
    ascii "<input type='password' name='pass' size='20' maxlength='63'></p>" ++
    ascii "<p><input type='submit' value='Add network' " ++
    ascii "style='font-size:110%;'></p>" ++ ascii "</form><hr>" ++
    ascii "<a href='/'>Status</a><br>" ++
    ascii "<a href='/reset'>Forget all networks</a><br>" ++
    ascii "<a href='/reboot' style='color:#e74c3c;'>Reboot</a>" ++
    ascii "<br>" ++ pageFooter

def wifiTail (count : Nat) : List UInt8 :=
  ascii "<p>(" ++ decimal count ++ ascii "/" ++ decimal wifiListMax ++
    ascii " used)</p>" ++ wifiMenu

/-- The page `handler_wifi_get` sends, behind the captive check. -/
def handlerWifiGet (s : Bridge) : List UInt8 :=
  let page := pageAdd 4096 [] wifiHead
  let page :=
    if s.appState = .wifiFailed then pageAdd 4096 page wifiFailedText else page
  let page :=
    if s.wifiListCount = 0 then pageAdd 4096 page wifiNone
    else
      let page := (List.range s.wifiListCount).foldl
        (fun page (i : Nat) =>
          match wifiListGetSsid s.wifi.wifiList i 33 with
          | none => page
          | some ssid =>
            pageAdd 4096 page (wifiRowText i (htmlEscape ssid 80)))
        (pageAdd 4096 page grayBox)
      pageAdd 4096 page (ascii "</div>")
  pageAdd 4096 page (wifiTail s.wifiListCount)

/-! ## Its text -/

/-- The name in a row, as it is shown. -/
def wifiRowName (list : WifiList) (i : Nat) : List UInt8 :=
  htmlEscape ((wifiListGetSsid list i 33).getD []) 80

def wifiRow (list : WifiList) (i : Nat) : List UInt8 :=
  wifiRowText i (wifiRowName list i)

def wifiRows (list : WifiList) : List UInt8 :=
  if list.count = 0 then wifiNone
  else
    grayBox ++ (List.range list.count).flatMap (wifiRow list) ++
      ascii "</div>"

/-- All `handler_wifi_get` asks `page_add` to write. -/
def wifiText (s : Bridge) : List UInt8 :=
  wifiHead ++ (if s.appState = .wifiFailed then wifiFailedText else []) ++
    wifiRows s.wifi.wifiList ++ wifiTail s.wifiListCount

def wifiDelHref (i : Nat) : List UInt8 := ascii "/wifi/del?i=" ++ decimal i

def wifiLinks (count : Nat) : List (List UInt8) :=
  (List.range count).map wifiDelHref ++
    [ascii "/", ascii "/reset", ascii "/reboot"]

section Text

variable {s : Bridge} {list : WifiList}

theorem wifiListGetSsid_isSome (ok : list.Ok) {i : Nat}
    (inside : i < list.count) :
    (wifiListGetSsid list i 33).isSome = true := by
  have fits := ok.slots.fits
  have within : (0 : Int) ≤ i ∧ (i : Int) < list.count ∧
      (i : Int).toNat < wifiListMax := by omega
  rw [wifiListGetSsid, dif_pos within]
  rfl

/-- The page is its text clipped at the size of the buffer. -/
theorem handlerWifiGet_take (ok : s.wifi.wifiList.Ok) :
    handlerWifiGet s = (wifiText s).take 4095 := by
  have positive : 0 < 4096 := by decide
  have front :
      (if s.appState = .wifiFailed then
        pageAdd 4096 (wifiHead.take 4095) wifiFailedText
       else wifiHead.take 4095) =
        (wifiHead ++ if s.appState = .wifiFailed then wifiFailedText
          else []).take 4095 := by
    split
    · exact pageAdd_take positive _ _
    · rw [List.append_nil]
  have count : s.wifi.wifiList.count = s.wifiListCount := rfl
  simp only [handlerWifiGet]
  rw [pageAdd_nil positive, front, wifiText, wifiRows, count]
  by_cases empty : s.wifiListCount = 0
  · rw [if_pos empty, if_pos empty, pageAdd_take positive,
      pageAdd_take positive]
  · have listed (page : List UInt8) :
        (List.range s.wifiListCount).foldl
            (fun page (i : Nat) =>
              match wifiListGetSsid s.wifi.wifiList i 33 with
              | none => page
              | some ssid =>
                pageAdd 4096 page (wifiRowText i (htmlEscape ssid 80)))
            (page.take 4095) =
          (page ++ (List.range s.wifiListCount).flatMap
            (wifiRow s.wifi.wifiList)).take 4095 := by
      rw [← foldl_pageAdd positive]
      apply List.foldl_ext
      intro page i member
      have inside := List.mem_range.mp member
      obtain ⟨ssid, found⟩ :=
        Option.isSome_iff_exists.mp (wifiListGetSsid_isSome ok inside)
      rw [wifiRow, wifiRowName, found]
      rfl
    rw [if_neg empty, if_neg empty, pageAdd_take positive, listed,
      pageAdd_take positive, pageAdd_take positive]
    simp only [List.append_assoc]

/-- The fixed pieces of the page. -/
theorem wifi_pieces :
    (NoLink wifiHead ∧ wifiHead.length ≤ 300) ∧
      (NoLink wifiFailedText ∧ wifiFailedText.length ≤ 100) ∧
      (NoLink wifiNone ∧ wifiNone.length ≤ 200) ∧
      (NoLink (ascii ". <b>") ∧ (ascii ". <b>").length = 5) ∧
      (ReadsLinks .text (ascii "</b> [<a href='/wifi/del?i=") []
          (.quoted openAnchor (ascii "href") 39 (ascii "/wifi/del?i=")) ∧
        (ascii "</b> [<a href='/wifi/del?i=").length = 27) ∧
      (ascii "'>delete</a>]<br>").length = 17 ∧
      (ReadsLinks .text wifiMenu [ascii "/", ascii "/reset", ascii "/reboot"]
          .text ∧ wifiMenu.length ≤ 700) := by
  simp only [wifiHead, wifiFailedText, wifiNone, wifiMenu, metaCharset,
    metaViewport, metaFormat, bodyOpen, pageFooter, ascii_literal rfl]
  decide +kernel

theorem reads_delete (address : List UInt8) :
    ReadsLinks (.quoted openAnchor (ascii "href") 39 address)
      (ascii "'>delete</a>]<br>") [htmlUnescape address] .text := by
  simp only [ascii_literal rfl]
  exact ⟨rfl, rfl⟩

theorem wifiDelHref_plain {i : Nat} (small : i < wifiListMax) :
    htmlUnescape (wifiDelHref i) = wifiDelHref i ∧ 39 ∉ decimal i ∧
      (decimal i).length = 1 ∧ (decimal ((i : Int) + 1)).length = 1 := by
  have each : ∀ i < wifiListMax,
      htmlUnescape (wifiDelHref i) = wifiDelHref i ∧ 39 ∉ decimal i ∧
        (decimal i).length = 1 ∧ (decimal ((i : Int) + 1)).length = 1 := by
    decide
  exact each i small

/-- A row has one link, whatever the network is called. -/
theorem reads_wifiRow (list : WifiList) {i : Nat} (small : i < wifiListMax) :
    ReadsLinks .text (wifiRow list i) [wifiDelHref i] .text := by
  obtain ⟨_, _, _, opens, address, _⟩ := wifi_pieces
  obtain ⟨plain, noQuote, _⟩ := wifiDelHref_plain small
  have name : NoLink (wifiRowName list i) :=
    Markup.reads_text (noTag_htmlEscape _ (by decide))
  have number :
      ReadsLinks (.quoted openAnchor (ascii "href") 39 (ascii "/wifi/del?i="))
        (decimal i) []
        (.quoted openAnchor (ascii "href") 39 (wifiDelHref i)) :=
    Markup.reads_quoted _ _ _ noQuote
  have reads :=
    (((((Markup.reads_text (noTag_decimal (i + 1))).append opens.1).append
      name).append address.1).append number).append (reads_delete _)
  rwa [plain] at reads

theorem wifiRow_length_le (list : WifiList) {i : Nat}
    (small : i < wifiListMax) : (wifiRow list i).length ≤ 130 := by
  obtain ⟨_, _, _, ⟨_, opens⟩, ⟨_, address⟩, closes, _⟩ := wifi_pieces
  obtain ⟨_, _, number, place⟩ := wifiDelHref_plain small
  have name : (wifiRowName list i).length + 1 ≤ 80 :=
    (htmlEscape_front _ (by decide)).1
  simp only [wifiRow, wifiRowText, List.length_append, opens, address, closes,
    number, place]
  omega

/-- The links of the page, whatever the networks are called. -/
theorem reads_wifiText (ok : s.wifi.wifiList.Ok) :
    ReadsLinks .text (wifiText s) (wifiLinks s.wifiListCount) .text := by
  obtain ⟨head, failed, none, _, _, _, menu⟩ := wifi_pieces
  obtain ⟨_, _, _, box, ends, open', used, _⟩ := bmPage_pieces
  have fits : s.wifiListCount ≤ wifiListMax := ok.slots.fits
  have slash : (60 : UInt8) ∉ ascii "/" := by decide
  have lost : NoLink (if s.appState = .wifiFailed then wifiFailedText
      else []) := by
    split
    · exact failed.1
    · exact ⟨rfl, rfl⟩
  have rows : ReadsLinks .text (wifiRows s.wifi.wifiList)
      ((List.range s.wifiListCount).map wifiDelHref) .text := by
    have count : s.wifi.wifiList.count = s.wifiListCount := rfl
    rw [wifiRows, count]
    by_cases empty : s.wifiListCount = 0
    · rw [if_pos empty, empty]
      exact none.1
    · rw [if_neg empty, List.map_eq_flatMap]
      have each := Markup.reads_flatMap (List.range s.wifiListCount)
        (wifiRow s.wifi.wifiList) (fun i => [wifiDelHref i])
        fun i member => reads_wifiRow _
          ((List.mem_range.mp member).trans_le fits)
      have reads := (box.append each).append ends
      rwa [List.nil_append, List.append_nil] at reads
  have counts :=
    (((open'.append (Markup.reads_text (noTag_decimal s.wifiListCount))).append
      (Markup.reads_text slash)).append
      (Markup.reads_text (noTag_decimal wifiListMax))).append used
  have whole :=
    ((head.1.append lost).append rows).append (counts.append menu.1)
  simpa [wifiText, wifiTail, wifiLinks] using whole

/-- Nothing is clipped, whatever the networks are called. -/
theorem wifiText_length_lt (ok : s.wifi.wifiList.Ok) :
    (wifiText s).length < 4096 := by
  obtain ⟨⟨_, head⟩, ⟨_, failed⟩, ⟨_, none⟩, _, _, _, _, menu⟩ := wifi_pieces
  have fits : s.wifiListCount ≤ 8 := ok.slots.fits
  have used : (decimal s.wifiListCount).length ≤ 2 :=
    decimal_length_le (fits.trans (by decide))
  have all : (decimal wifiListMax).length = 1 := by decide
  have short : (ascii "<p>(").length = 4 ∧ (ascii "/").length = 1 ∧
      (ascii " used)</p>").length = 10 ∧ (ascii "</div>").length = 6 ∧
      grayBox.length = 62 := by
    simp only [grayBox, ascii_literal rfl]
    decide
  have lost : (if s.appState = .wifiFailed then wifiFailedText
      else []).length ≤ 100 := by
    split
    · exact failed
    · exact Nat.zero_le _
  have listed : ((List.range s.wifiListCount).flatMap
      (wifiRow s.wifi.wifiList)).length ≤ 8 * 130 := by
    have each := Markup.length_flatMap_le (List.range s.wifiListCount)
      (wifiRow s.wifi.wifiList) fun i isRow =>
        wifiRow_length_le _ ((List.mem_range.mp isRow).trans_le fits)
    rw [List.length_range] at each
    exact each.trans (Nat.mul_le_mul_right 130 fits)
  have rows : (wifiRows s.wifi.wifiList).length ≤ 1108 := by
    rw [wifiRows]
    split
    · exact none.trans (by decide)
    · simp only [List.length_append, short.2.2.2.1, short.2.2.2.2]
      have count : s.wifi.wifiList.count = s.wifiListCount := rfl
      rw [count]
      omega
  simp only [wifiText, wifiTail, List.length_append, all, short.1, short.2.1,
    short.2.2.1]
  omega

theorem handlerWifiGet_eq (ok : s.wifi.wifiList.Ok) :
    handlerWifiGet s = wifiText s := by
  have short := wifiText_length_lt ok
  rw [handlerWifiGet_take ok, List.take_of_length_le (by omega)]

end Text

/-! ## The list while the bridge runs -/

/-- The bridge goes on, or the power comes back. -/
inductive Life where
  | event (event : Event)
  | reboot (io : WifiIo)

def lifeStep (s : Bridge) : Life → Bridge
  | .event event => s.step event
  | .reboot io => Bridge.boot io s.nvs

/-- The list, and the one that NVS holds, are lists the bridge keeps. -/
structure KeepsLists (s : Bridge) : Prop where
  list : s.wifi.wifiList.Ok
  stored : ∀ list, s.nvs = some list → list.Ok

/-- A removal behind a row, or no removal. -/
def LeavesNumber (i : Nat) : Event → Prop
  | .webDel _ index => index < 0 ∨ i < index
  | .webReset _ => False
  | _ => True

/-- The name of a network of the list. -/
def nameAt (s : Bridge) (i : Nat) : Option (List UInt8) :=
  s.wifi.wifiList.networks[i]?.map WifiCred.ssid

/-- A row keeps its number: no network at or before it is removed, and where the
power comes back NVS is read and names the same network there. -/
def KeepsRow (i : Nat) (s : Bridge) : Life → Prop
  | .event event => LeavesNumber i event
  | .reboot io =>
    ∃ list, Wifi.nvsListLoad io.nvs s.nvs = some list ∧
      list.networks[i]?.map WifiCred.ssid = nameAt s i

/-- `handler_wifi_del`: where it redirects to, and the bridge. -/
def handlerWifiDel (query : QueryFn) (io : WifiIo)
    (urlQuery : Option (List UInt8)) (s : Bridge) : List UInt8 × Bridge :=
  match urlQuery with
  | none => (ascii "/wifi", s)
  | some text =>
    let (status, val) := query text (ascii "i") 8
    if status = .ok then
      (ascii "/wifi", Wifi.handlerWifiDel io (strtol 10 val) s)
    else (ascii "/wifi", s)

section Lives

variable {s : Bridge}

theorem KeepsLists.call (keeps : KeepsLists s) (call : ListCall) :
    (call.step s.saved).list.Ok ∧
      ∀ list, (call.step s.saved).nvs = some list → list.Ok := by
  have after := (call.step_networks (s := s.saved) keeps.list).1
  refine ⟨after, ?_⟩
  rw [ListCall.step] at after ⊢
  split
  · next list changed =>
    rw [changed] at after
    intro stored isStored
    simp only [Wifi.nvsListSave] at isStored
    split_ifs at isStored
    · cases isStored
      exact after
    · exact keeps.stored stored isStored
  · exact keeps.stored

theorem KeepsLists.step (keeps : KeepsLists s) (event : Event) :
    KeepsLists (s.step event) := by
  rw [Bridge.step]
  split_ifs
  · exact keeps
  · have saved := Wifi.handle_saved s event
    have list := congrArg Saved.list saved
    have nvs := congrArg Saved.nvs saved
    cases called : event.listCall with
    | none =>
        rw [called] at list nvs
        refine ⟨?_, ?_⟩
        · rw [show (s.handle event).wifi.wifiList = s.wifi.wifiList from list]
          exact keeps.list
        · rw [show (s.handle event).nvs = s.nvs from nvs]
          exact keeps.stored
    | some call =>
        rw [called] at list nvs
        obtain ⟨kept, stored⟩ := keeps.call call
        refine ⟨?_, ?_⟩
        · rw [show (s.handle event).wifi.wifiList = (call.step s.saved).list
            from list]
          exact kept
        · rw [show (s.handle event).nvs = (call.step s.saved).nvs from nvs]
          exact stored

theorem boot_nvs (io : WifiIo) (nvs : Option WifiList) :
    (Bridge.boot io nvs).nvs = nvs := by
  simp only [Bridge.boot]
  split_ifs
  · exact Wifi.wifiConnectBegin_nvs io _
  · rfl

theorem KeepsLists.boot {nvs : Option WifiList} (io : WifiIo)
    (stored : ∀ list, nvs = some list → list.Ok) :
    KeepsLists (Bridge.boot io nvs) := by
  refine ⟨Wifi.boot_saved_ok io nvs ?_, ?_⟩
  · intro list loaded
    rw [Wifi.nvsListLoad] at loaded
    split_ifs at loaded
    exact stored list (Option.eq_some_of_filter_eq_some loaded)
  · rw [boot_nvs]
    exact stored

theorem KeepsLists.life (keeps : KeepsLists s) (life : Life) :
    KeepsLists (lifeStep s life) := by
  cases life with
  | event event => exact keeps.step event
  | reboot io => exact .boot io keeps.stored

/-- The lists are kept in every life of the bridge. -/
theorem keepsLists_run (io : WifiIo) (lives : List Life) :
    KeepsLists (run lifeStep (Bridge.boot io none) lives) := by
  have nothing : ∀ list : WifiList, none = some list → list.Ok := by
    intro list stored
    cases stored
  exact run_invariant KeepsLists (fun _ life keeps => keeps.life life)
    (KeepsLists.boot io nothing) lives

end Lives

/-! ## Following a link -/

section Follow

variable {s : Bridge} {i : Nat} {name : List UInt8}

/-- What an accepted call leaves of the network with a number. -/
theorem apply_nameAt {networks new : List WifiCred} {call : ListCall}
    (accepted : call.apply networks = some new)
    (named : networks[i]?.map WifiCred.ssid = some name)
    (leaves : ∀ index io, call = .remove index io → index < 0 ∨ i < index)
    (notCleared : ∀ io, call ≠ .clear io) :
    new[i]?.map WifiCred.ssid = some name := by
  obtain ⟨network, stored, isNamed⟩ := Option.map_eq_some_iff.mp named
  have inside := (List.getElem?_eq_some_iff.mp stored).1
  cases call with
  | clear io => exact absurd rfl (notCleared io)
  | remove index io =>
      have behind := leaves index io rfl
      simp only [ListCall.apply, Option.ite_none_right_eq_some] at accepted
      obtain ⟨within, accepted⟩ := accepted
      have before : i < index.toNat := by omega
      cases accepted
      rw [List.getElem?_eraseIdx_of_lt before]
      exact named
  | add ssid pass io =>
      cases ssid with
      | none => cases accepted
      | some ssid =>
          simp only [ListCall.apply, Option.ite_none_left_eq_some] at accepted
          obtain ⟨_, accepted⟩ := accepted
          split_ifs at accepted
          · cases accepted
            rw [List.getElem?_map, stored, Option.map_some, Option.map_some]
            rw [← isNamed]
            split_ifs
            · rfl
            · rfl
          · cases accepted
            rw [List.getElem?_append_left inside]
            exact named

theorem step_nameAt (keeps : KeepsLists s) {event : Event}
    (leaves : LeavesNumber i event) (named : nameAt s i = some name) :
    nameAt (s.step event) i = some name := by
  rw [Bridge.step]
  split_ifs
  · exact named
  · have list := congrArg Saved.list (Wifi.handle_saved s event)
    have isList : (s.handle event).wifi.wifiList =
        ((event.listCall.map fun call => call.step s.saved).getD
          s.saved).list := list
    rw [nameAt, isList]
    cases called : event.listCall with
    | none => exact named
    | some call =>
        have kept := (call.step_networks (s := s.saved) keeps.list).2.1
        show (call.step s.saved).list.networks[i]?.map WifiCred.ssid = some name
        rw [kept]
        cases applied : call.apply s.saved.list.networks with
        | none => exact named
        | some new =>
            refine apply_nameAt applied named ?_ ?_
            · rintro index io rfl
              cases event <;> cases called
              exact leaves
            · rintro io rfl
              cases event <;> cases called
              exact leaves

theorem boot_nameAt (io : WifiIo) {nvs : Option WifiList} {list : WifiList}
    (loads : Wifi.nvsListLoad io.nvs nvs = some list) (i : Nat) :
    nameAt (Bridge.boot io nvs) i = list.networks[i]?.map WifiCred.ssid := by
  have isList : (Bridge.boot io nvs).wifi.wifiList = list := by
    simp only [Bridge.boot, loads, Option.getD_some]
    split_ifs
    · exact (Wifi.wifiConnectBegin_frame io _).wifiList
    · rfl
  rw [nameAt, isList]

/-- A network keeps its number as long as none at or before it is removed. -/
theorem run_nameAt (keeps : KeepsLists s) {lives : List Life}
    (leaves : Along lifeStep (KeepsRow i) s lives)
    (named : nameAt s i = some name) :
    KeepsLists (run lifeStep s lives) ∧
      nameAt (run lifeStep s lives) i = some name := by
  refine run_invariant_along
    (fun s => KeepsLists s ∧ nameAt s i = some name) ?_ ⟨keeps, named⟩ leaves
  rintro s life ⟨keeps, named⟩ leaves
  refine ⟨keeps.life life, ?_⟩
  cases life with
  | event event => exact step_nameAt keeps leaves named
  | reboot io =>
      obtain ⟨list, loads, same⟩ := leaves
      exact (boot_nameAt io loads i).trans (same.trans named)

theorem addressQuery_wifiDel (i : Fin Bookmarks.bmMax) :
    addressQuery (wifiDelHref i) 32 = editLink (some i) := by
  have each : ∀ i : Fin Bookmarks.bmMax,
      addressQuery (wifiDelHref i) 32 = editLink (some i) := by decide
  exact each i

/-- The link removes the network with its number. -/
theorem handlerWifiDel_link {query : QueryFn} (laws : FormLaws query)
    (keeps : KeepsLists s) (io : WifiIo) (named : nameAt s i = some name) :
    let after := handlerWifiDel query io (addressQuery (wifiDelHref i) 32) s
    after.1 = ascii "/wifi" ∧
      after.2.wifi.wifiList.networks = s.wifi.wifiList.networks.eraseIdx i ∧
      name ∉ after.2.wifi.wifiList.networks.map WifiCred.ssid := by
  obtain ⟨network, stored, isNamed⟩ := Option.map_eq_some_iff.mp named
  have inside := (List.getElem?_eq_some_iff.mp stored).1
  rw [keeps.list.networks_length] at inside
  have fits : s.wifiListCount ≤ 8 := keeps.list.slots.fits
  have counted : i < s.wifiListCount := inside
  have small : i < Bookmarks.bmMax := by
    show i < 24
    omega
  have asked := bmEditAsked_link laws ⟨i, small⟩
  simp only [bmEditAsked, editLink, Option.map_some,
    query_editLink laws ⟨i, small⟩, if_true] at asked
  have removes : handlerWifiDel query io (addressQuery (wifiDelHref i) 32) s =
      (ascii "/wifi", Wifi.handlerWifiDel io i s) := by
    rw [addressQuery_wifiDel ⟨i, small⟩]
    simp only [handlerWifiDel, editLink, Option.map_some,
      query_editLink laws ⟨i, small⟩, if_true, asked]
  have within : (0 : Int) ≤ i ∧ (i : Int) < s.wifiListCount := by omega
  have list : (Wifi.handlerWifiDel io i s).wifi.wifiList.networks =
      s.wifi.wifiList.networks.eraseIdx i := by
    rw [Wifi.handlerWifiDel, if_pos within]
    exact (keeps.list.remove counted).1
  dsimp only
  rw [removes]
  refine ⟨rfl, list, ?_⟩
  rw [list, ← List.eraseIdx_map]
  intro again
  obtain ⟨other, apart, same⟩ := List.mem_eraseIdx_iff_getElem?.mp again
  have here : (s.wifi.wifiList.networks.map WifiCred.ssid)[i]? = some name := by
    rw [List.getElem?_map]
    exact named
  have within := (List.getElem?_eq_some_iff.mp same).1
  exact apart ((List.getElem?_inj within keeps.list.distinct).mp
    (same.trans here.symm))

end Follow

/-- In every life of the bridge the page of the networks is whole and has, for
the networks in their order, a link each, whatever they are called.  However
the bridge goes on, as long as the row keeps its number its link removes the
network it stood by and no other. -/
theorem wifi_links {query : QueryFn} (laws : FormLaws query) (io : WifiIo)
    (lives : List Life) :
    let s := run lifeStep (Bridge.boot io none) lives
    (handlerWifiGet s = wifiText s ∧ (wifiText s).length < 4096) ∧
      shownLinks (handlerWifiGet s) = wifiLinks s.wifiListCount ∧
      ∀ i < s.wifiListCount, ∀ later,
        Along lifeStep (KeepsRow i) s later →
        let now := run lifeStep s later
        ∃ name, nameAt s i = some name ∧ nameAt now i = some name ∧
          ∀ io,
            let after :=
              handlerWifiDel query io (addressQuery (wifiDelHref i) 32) now
            after.1 = ascii "/wifi" ∧
              after.2.wifi.wifiList.networks =
                now.wifi.wifiList.networks.eraseIdx i ∧
              name ∉ after.2.wifi.wifiList.networks.map WifiCred.ssid := by
  intro s
  have keeps : KeepsLists s := keepsLists_run io lives
  have page := handlerWifiGet_eq keeps.list
  refine ⟨⟨page, wifiText_length_lt keeps.list⟩, ?_, ?_⟩
  · rw [page]
    exact (reads_wifiText keeps.list).shownLinks
  · intro i inside later leaves now
    have counted : i < s.wifi.wifiList.networks.length := by
      rw [keeps.list.networks_length]
      exact inside
    have named : nameAt s i = some s.wifi.wifiList.networks[i].ssid := by
      rw [nameAt, List.getElem?_eq_getElem counted]
      rfl
    obtain ⟨keepsNow, still⟩ := run_nameAt keeps leaves named
    exact ⟨_, named, still, fun io => handlerWifiDel_link laws keepsNow io still⟩

/-- The first of two networks is removed through the link of a page that showed
it alone, after the other one was added and the bridge restarted. -/
theorem wifi_links_first :
    let io : WifiIo :=
      ⟨true, true, ⟨0, true, none⟩, ⟨true, true⟩, 0, none⟩
    let home := run lifeStep (Bridge.boot io none)
      [.event (.webAdd io (ascii "home") [])]
    let both := run lifeStep home
      [.event (.webAdd io (ascii "work") []), .reboot io]
    (handlerWifiDel piecesQuery io (addressQuery (wifiDelHref 0) 32)
        both).2.wifi.wifiList.networks =
      both.wifi.wifiList.networks.eraseIdx 0 := by
  intro io home both
  have links := wifi_links piecesQuery_formLaws io
    [.event (.webAdd io (ascii "home") [])]
  have leaves : Along lifeStep (KeepsRow 0) home
      [.event (.webAdd io (ascii "work") []), .reboot io] :=
    ⟨trivial, ⟨_, rfl, rfl⟩, trivial⟩
  obtain ⟨name, _, _, removes⟩ := links.2.2 0 (by decide) _ leaves
  exact (removes io).2.1

end VeteraBridge.Web

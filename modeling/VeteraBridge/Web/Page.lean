import VeteraBridge.Bookmarks.Crash
import VeteraBridge.Wifi.Cycle

/-!
# The bookmark pages

`handler_root` and `handler_bm_get` allocate a buffer from an estimate and fill
it with `page_add`, which clips.  The estimate counts the escaped address of a
bookmark once for the status page and twice for the page that manages the
bookmarks; a bookmark without a title shows its address once more.
-/

namespace VeteraBridge.Web

open Bookmarks
open Proxy (ascii cstr strlcpy)

/-! ## Text -/

/-- What `html_escape` writes for a character. -/
def escapeChar (c : UInt8) : List UInt8 :=
  if c = 38 then ascii "&amp;"
  else if c = 60 then ascii "&lt;"
  else if c = 62 then ascii "&gt;"
  else if c = 34 then ascii "&quot;"
  else [c]

/-- The loop of `html_escape` with the output so far. -/
def htmlEscapeFrom (n : Nat) : List UInt8 → List UInt8 → List UInt8
  | dst, [] => dst
  | dst, c :: rest =>
    if dst.length + 7 < n then htmlEscapeFrom n (dst ++ escapeChar c) rest
    else dst

/-- `html_escape` into a buffer of `n` bytes. -/
def htmlEscape (src : List UInt8) (n : Nat) : List UInt8 :=
  htmlEscapeFrom n [] (cstr src)

/-- `html_escape_len`. -/
def htmlEscapeLen (src : List UInt8) : Nat :=
  (cstr src).foldl
    (fun n c =>
      if c = 38 then n + 5
      else if c = 60 ∨ c = 62 then n + 4
      else if c = 34 then n + 6
      else n + 1) 0

/-- `%d`. -/
def decimal (n : Int) : List UInt8 := ascii (toString n)

/-- `%02u`. -/
def twoDigits (n : Nat) : List UInt8 :=
  if n < 10 then 48 :: decimal n else decimal n

/-- `page_add` to the text of a buffer of `n` bytes. -/
def pageAdd (n : Nat) (page text : List UInt8) : List UInt8 :=
  if n ≤ page.length then page else (page ++ text).take (n - 1)

/-! ## Bookmarks on a page -/

/-- One round of the loop of `bm_escaped_total`. -/
def addEscapedLen (n : Nat) : Option Bookmark → Nat
  | none => n
  | some b => n + (htmlEscapeLen b.title + htmlEscapeLen b.url)

/-- `bm_escaped_total`, over what `bookmarks_get` returns. -/
def bmEscapedTotal (seen : List (Option Bookmark)) : Nat :=
  seen.foldl addEscapedLen 0

/-- `bm_escape` with its buffers: the escaped address and the label. -/
def bmEscape (b : Bookmark) : List UInt8 × List UInt8 :=
  let urlEsc := htmlEscape b.url (bmUrlMax * 6)
  (urlEsc, if b.title = [] then urlEsc else htmlEscape b.title (bmTitleMax * 6))

def linkText (url label : List UInt8) : List UInt8 :=
  ascii "<a href=\"" ++ url ++ ascii "\" style='font-size:120%;'>" ++ label ++
    ascii "</a><br>"

def linksOpen : List UInt8 :=
  ascii "<div style='text-align:left;padding:8px 0;'>"

def linksClose : List UInt8 := ascii "</div><hr>"

/-- `bm_render_links` into `n` bytes. -/
def bmRenderLinks (n : Nat) (seen : List (Option Bookmark)) : List UInt8 :=
  if seen.length = 0 then []
  else
    let w := seen.foldl
      (fun w entry =>
        match entry with
        | none => w
        | some b => pageAdd n w (linkText (bmEscape b).1 (bmEscape b).2))
      (pageAdd n [] linksOpen)
    pageAdd n w linksClose

/-! ## The status page -/

def metaCharset : List UInt8 := ascii "<meta charset='utf-8'>"

def metaViewport : List UInt8 :=
  ascii "<meta name='viewport' content='width=device-width,initial-scale=1'>"

def metaFormat : List UInt8 :=
  ascii "<meta name='format-detection' content='telephone=no'>"

def bodyOpen : List UInt8 :=
  ascii "<body style='font-family:sans-serif;padding:20px;text-align:center;'>"

def grayBox : List UInt8 :=
  ascii "<div style='text-align:left;background:#ecf0f1;padding:15px;'>"

/-- `PAGE_FOOTER` and what follows it on every page. -/
def pageFooter : List UInt8 :=
  ascii "<hr><small>Vetera Bridge - internet for pre-PAN " ++
    ascii "Bluetooth phones</small>" ++ ascii "</body></html>"

/-- `state_to_str`. -/
def stateToStr : Wifi.AppState → List UInt8
  | .waitBt => ascii "WAIT_BT"
  | .noWifi => ascii "NO_WIFI"
  | .wifiScanning => ascii "WIFI_SCAN"
  | .wifiConnecting => ascii "WIFI_CONN"
  | .wifiFailed => ascii "WIFI_FAIL"
  | .bridge => ascii "BRIDGE_ACTIVE"
  | .bridgeNoWifi => ascii "BRIDGE_LOST_WIFI"

/-- What `handler_root` reads of the rest of the bridge. -/
structure Status where
  st : Wifi.AppState
  name : List UInt8
  pppLinkUp : Bool
  btConnected : Bool
  wifiConnected : Bool
  ssid : List UInt8
  ip : List UInt8
  wifiRssi : Int
  btRssi : Int
  wifiListCount : Nat
  pxOn : Bool
  pxHost : List UInt8
  pxPort : UInt16
  up : UInt32
  freeHeap : Nat

namespace Status

def nameEsc (s : Status) : List UInt8 := htmlEscape (strlcpy s.name 32) (32 * 6)

def busy (s : Status) : Bool :=
  s.st == .wifiScanning || s.st == .wifiConnecting || s.st == .bridgeNoWifi

def pxLine (s : Status) : List UInt8 :=
  if s.pxOn then
    (htmlEscape (strlcpy s.pxHost Proxy.proxyHostMax) (Proxy.proxyHostMax * 6) ++
      ascii ":" ++ decimal s.pxPort.toNat).take (Proxy.proxyHostMax * 6 + 7)
  else
    ascii "off"

/-- The first text of the status page. -/
def head (s : Status) : List UInt8 :=
  ascii "<html><head><title>" ++ s.nameEsc ++ ascii "</title>" ++
    metaCharset ++
    (if s.busy then ascii "<meta http-equiv='refresh' content='5'>" else []) ++
    metaViewport ++ metaFormat ++ ascii "</head>" ++ bodyOpen ++
    ascii "<h2>" ++ s.nameEsc ++ ascii "</h2><hr>"

/-- The rows of the status block. -/
def rows (s : Status) (bmc : Nat) : List UInt8 :=
  let up := s.up.toNat
  ascii "<b>Status:</b> " ++ stateToStr s.st ++ ascii "<br>" ++
  ascii "<b>Phone link (PPP):</b> " ++
    (if s.pppLinkUp then ascii "up"
     else if s.btConnected then ascii "negotiating" else ascii "down") ++
    ascii "<br>" ++
  ascii "<b>WiFi:</b> " ++
    (if s.wifiConnected then ascii "connected to" else ascii "not connected") ++
    ascii " " ++
    (if s.wifiConnected then htmlEscape (strlcpy s.ssid 33) 80 else []) ++
    ascii "<br>" ++
  ascii "<b>WiFi IP:</b> " ++ strlcpy s.ip 16 ++ ascii "<br>" ++
  ascii "<b>WiFi RSSI:</b> " ++ decimal s.wifiRssi ++ ascii " dBm<br>" ++
  ascii "<b>BT RSSI:</b> " ++ (decimal s.btRssi).take 7 ++ ascii "<br>" ++
  ascii "<b>Saved networks:</b> " ++ decimal s.wifiListCount ++ ascii "/" ++
    decimal Wifi.wifiListMax ++ ascii "<br>" ++
  ascii "<b>Bookmarks:</b> " ++ decimal bmc ++ ascii "/" ++ decimal bmMax ++
    ascii "<br>" ++
  ascii "<b>HTTP proxy:</b> " ++ s.pxLine ++ ascii "<br>" ++
  ascii "<b>Uptime:</b> " ++ decimal (up / 86400) ++ ascii "d " ++
    twoDigits (up % 86400 / 3600) ++ ascii ":" ++
    twoDigits (up % 3600 / 60) ++ ascii ":" ++ twoDigits (up % 60) ++
    ascii "<br>" ++
  ascii "<b>Free heap:</b> " ++ decimal (s.freeHeap / 1024) ++ ascii " KB"

end Status

/-- The links at the end of the status page. -/
def rootMenu : List UInt8 :=
  ascii "</div><hr>" ++
  ascii "<a href='/'>Reload</a><br>" ++
  ascii "<a href='/bm'>Bookmarks</a><br>" ++
  ascii "<a href='/wifi'>WiFi networks</a><br>" ++
  ascii "<a href='/name'>Device name</a><br>" ++
  ascii "<a href='/security'>Bluetooth security</a><br>" ++
  ascii "<a href='/proxy'>HTTP proxy</a><br>" ++
  ascii "<a href='/debug'>Debug logging</a><br>" ++
  ascii "<a href='/reboot' style='color:#e74c3c;'>Reboot</a>" ++
  ascii "<br>" ++ pageFooter

/-- The last text of the status page. -/
def Status.tail (s : Status) (bmc : Nat) : List UInt8 :=
  grayBox ++ s.rows bmc ++ rootMenu

/-- The size `handler_root` allocates. -/
def rootSize (seen : List (Option Bookmark)) : Nat :=
  3072 + bmEscapedTotal seen + seen.length * 64

/-- The page `handler_root` sends. -/
def rootPage (s : Status) (seen : List (Option Bookmark)) : List UInt8 :=
  let sz := rootSize seen
  let page := pageAdd sz [] s.head
  let page := page ++ bmRenderLinks (sz - page.length) seen
  pageAdd sz page (s.tail seen.length)

/-- What `handler_root` answers, behind the captive check. -/
inductive RootReply where
  | redirect (location : List UInt8)
  | page (text : List UInt8)
deriving DecidableEq, Repr

def handlerRoot (s : Status) (seen : List (Option Bookmark)) : RootReply :=
  if s.wifiListCount = 0 ∧ (s.st = .waitBt ∨ s.st = .noWifi) then
    .redirect (ascii "/wifi")
  else
    .page (rootPage s seen)

/-! ## The page that manages the bookmarks -/

def bmRowText (i : Nat) (url label : List UInt8) : List UInt8 :=
  decimal (i + 1) ++ ascii ". <a href=\"" ++ url ++ ascii "\"><b>" ++ label ++
    ascii "</b></a><br>" ++ ascii "<small>" ++ url ++ ascii "</small><br>" ++
    ascii "[<a href='/bm/edit?i=" ++ decimal i ++ ascii "'>edit</a>] " ++
    ascii "[<a href='/bm/del?i=" ++ decimal i ++ ascii "'>delete</a>]<br><br>"

def bmHead : List UInt8 :=
  ascii "<html><head><title>Bookmarks</title>" ++ metaCharset ++ metaViewport ++
    metaFormat ++ ascii "</head>" ++ bodyOpen ++ ascii "<h2>Bookmarks</h2><hr>"

def bmError : List UInt8 :=
  ascii "<p style='color:#e74c3c;'>Not saved.<br>" ++
    ascii "The address must be http:// or https:// and at most " ++
    decimal (bmUrlMax - 1 : Nat) ++ ascii " characters.</p>"

def bmNone : List UInt8 :=
  ascii "<p>No bookmarks yet.<br>" ++
    ascii "Add them from a PC on the same WiFi at this bridge's WiFi IP " ++
    ascii "(shown on the status page) - then they are one tap away on the " ++
    ascii "phone.</p>"

def bmTail (count : Nat) : List UInt8 :=
  ascii "<p>(" ++ decimal count ++ ascii "/" ++ decimal bmMax ++
    ascii " used)</p>" ++
    (if count < bmMax then
      ascii "<a href='/bm/edit' style='font-size:120%'>Add a bookmark</a>"
     else ascii "<p>List is full - delete one first.</p>") ++
    ascii "<hr>" ++ ascii "<a href='/'>Status</a><br>" ++
    ascii "<a href='/wifi'>WiFi networks</a>" ++ ascii "<br>" ++ pageFooter

/-- The size `handler_bm_get` allocates. -/
def bmSize (seen : List (Option Bookmark)) : Nat :=
  3072 + bmEscapedTotal seen * 2 + seen.length * 160

/-- The page `handler_bm_get` sends. -/
def bmPage (err : Bool) (seen : List (Option Bookmark)) : List UInt8 :=
  let sz := bmSize seen
  let page := pageAdd sz [] bmHead
  let page := if err then pageAdd sz page bmError else page
  let page :=
    if seen.length = 0 then pageAdd sz page bmNone
    else
      let page := seen.zipIdx.foldl
        (fun page entry =>
          match entry.1 with
          | none => page
          | some b =>
            pageAdd sz page
              (bmRowText entry.2 (bmEscape b).1 (bmEscape b).2))
        (pageAdd sz page grayBox)
      pageAdd sz page (ascii "</div>")
  pageAdd sz page (bmTail seen.length)

end VeteraBridge.Web

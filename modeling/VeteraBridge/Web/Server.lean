import VeteraBridge.Web.WifiPage
import VeteraBridge.Web.SavedAgain
import VeteraBridge.Link.SecurityMode

/-!
# The web server

Every page and every form of the setup UI behind the table of `web_ui_start`.  A
page is only sent to a browser that asks for it under an address of the bridge:
while WiFi is down all names lead here, and a browser that asks under a name is
sent to the gateway.
-/

namespace VeteraBridge.Web

open Bookmarks (Device)
open CrashLogic (Outcome)
open Gateway (DebugLog DeviceName)
open Link (Security)
open Proxy (ascii Redirector proxyGet proxyHostMax)
open Wifi (Bridge WifiIo)

/-- The methods that are registered, and the others. -/
inductive Method where
  | get
  | post
  | other
deriving DecidableEq, Repr

/-- The handlers. -/
inductive Route where
  | root
  | wifiGet
  | wifiAdd
  | wifiDel
  | bmGet
  | bmEdit
  | bmSave
  | bmDel
  | nameGet
  | namePost
  | debugGet
  | debugPost
  | securityGet
  | securityPost
  | proxyGet
  | proxyPost
  | reset
  | reboot
  | favicon
deriving DecidableEq, Repr

/-- `uris`; there is a slot for each. -/
def uris : List (List UInt8 × Method × Route) :=
  [(ascii "/", .get, .root),
    (ascii "/wifi", .get, .wifiGet),
    (ascii "/wifi/add", .post, .wifiAdd),
    (ascii "/wifi/del", .get, .wifiDel),
    (ascii "/bm", .get, .bmGet),
    (ascii "/bm/edit", .get, .bmEdit),
    (ascii "/bm/save", .post, .bmSave),
    (ascii "/bm/del", .get, .bmDel),
    (ascii "/name", .get, .nameGet),
    (ascii "/name", .post, .namePost),
    (ascii "/debug", .get, .debugGet),
    (ascii "/debug", .post, .debugPost),
    (ascii "/security", .get, .securityGet),
    (ascii "/security", .post, .securityPost),
    (ascii "/proxy", .get, .proxyGet),
    (ascii "/proxy", .post, .proxyPost),
    (ascii "/reset", .get, .reset),
    (ascii "/reboot", .get, .reboot),
    (ascii "/favicon.ico", .get, .favicon)]

/-- What the server finds for a request. -/
inductive Found where
  | handler (route : Route)
  /-- the path is registered for other methods only -/
  | methodNotAllowed
  | notFound
deriving DecidableEq, Repr

def findUri (method : Method) (path : List UInt8) : Found :=
  match uris.find? fun uri => uri.1 == path && uri.2.1 == method with
  | some uri => .handler uri.2.2
  | none =>
    if uris.any fun uri => uri.1 == path then .methodNotAllowed else .notFound

structure Request where
  method : Method
  /-- the path, and the query if there is one -/
  address : List UInt8
  /-- the value of the Host header -/
  host : Option (List UInt8)
  /-- the body is received -/
  received : Bool
  content : List UInt8
deriving DecidableEq, Repr

/-- What the server looks up. -/
def Request.path (r : Request) : List UInt8 :=
  r.address.takeWhile fun c => c != 63

inductive Reply where
  /-- 302 -/
  | redirect (location : List UInt8)
  | page (text : List UInt8)
  /-- 204 -/
  | noContent
  /-- 405 -/
  | notAllowed
  /-- the connection is closed -/
  | closed
deriving DecidableEq, Repr

def RootReply.reply : RootReply → Reply
  | .redirect location => .redirect location
  | .page text => .page text

def PageReply.reply : PageReply → Reply
  | .redirect location => .redirect location
  | .page text => .page text

/-- `GW_IP_STR`. -/
def gwIpStr : List UInt8 := ascii "192.168.7.1"

/-- Where strangers are sent. -/
def gateway : List UInt8 := ascii "http://" ++ gwIpStr ++ ascii "/"

/-- `captive_check`: the request goes on.  `inetPton` accepts what is left of
the host without its port; a host that does not fit its buffer is not read. -/
def captiveCheck (inetPton : List UInt8 → Bool) (host : Option (List UInt8)) :
    Bool :=
  match host with
  | none => true
  | some host =>
    if 64 ≤ host.length then true
    else if gwIpStr <:+: host then true
    else inetPton (host.takeWhile fun c => c != 58)

/-! ## What the handlers read and write -/

structure Site where
  bookmarks : Device
  bridge : Bridge
  name : DeviceName
  debugLog : DebugLog
  security : Security
  proxy : Redirector

/-- What the status page and two others show besides. -/
structure Readings where
  btConnected : Bool
  btRssi : Int
  up : UInt32
  freeHeap : Nat
  lastPhone : Option (List UInt8 × Bool)
  sessions : Nat

/-- How the writes of a handler end. -/
structure ServerIo where
  bookmarks : List Outcome
  wifi : WifiIo
  name : Bool × Bool
  debugLog : Bool × Bool
  security : Bool
  proxy : Proxy.NvsIo

/-- What a request meets. -/
structure Moment where
  site : Site
  readings : Readings
  io : ServerIo

/-- The bytes of `wifi_ip`. -/
def ipBytes (address : UInt32) : UInt8 × UInt8 × UInt8 × UInt8 :=
  (address.toUInt8, (address >>> 8).toUInt8, (address >>> 16).toUInt8,
    (address >>> 24).toUInt8)

/-- What `handler_root` reads. -/
def Moment.status (m : Moment) : Status :=
  let wifi := m.site.bridge.wifi
  let px := proxyGet m.site.proxy.settings proxyHostMax
  { st := m.site.bridge.appState
    name := m.site.name.nameActive
    pppLinkUp := m.site.bridge.pppUp
    btConnected := m.readings.btConnected
    wifiConnected := wifi.wifiConnected
    ssid := wifi.wifiCurSsid
    ip := wifiIpText (wifi.wifiIp.map ipBytes)
    wifiRssi := wifi.wifiRssi
    btRssi := m.readings.btRssi
    wifiListCount := m.site.bridge.wifiListCount
    pxOn := px.1
    pxHost := px.2.1
    pxPort := px.2.2
    up := m.readings.up
    freeHeap := m.readings.freeHeap }

/-- `debug_log_set`, all of it. -/
def flagsSaved (s : DebugLog) (opened written : Bool) (flags : UInt8) :
    DebugLog :=
  EventRun.run DebugLog.step s
    [.set flags, .web opened written, .web opened written, .web opened written]

/-! ## The handlers -/

section Handlers

variable (query : QueryFn) (inetPton : List UInt8 → Bool) (m : Moment)
  (r : Request)

/-- `handler_bm_get`. -/
def handlerBmGet : List UInt8 :=
  let err :=
    match addressQuery r.address 32 with
    | none => false
    | some text => (query text (ascii "err") 8).1 = .ok
  bmPage err m.site.bookmarks.seen

/-- The network `handler_wifi_add` is given. -/
def wifiAdded (buf : List UInt8) : Option (List UInt8 × List UInt8) :=
  let (status, ns) := query buf (ascii "ssid") 64
  if status = .ok then
    some (formDecode ns 64, formDecode (query buf (ascii "pass") 80).2 80)
  else none

/-- A page behind the captive check. -/
def guarded (reply : Reply) : Reply × Site :=
  if captiveCheck inetPton r.host then (reply, m.site)
  else (.redirect gateway, m.site)

/-- A handler whose buffer takes `size` bytes of the body. -/
def withBody (size : Nat) (answer : List UInt8 → Reply × Site) : Reply × Site :=
  match recvBody r.received r.content size with
  | none => (.closed, m.site)
  | some buf => answer buf

/-- A redirect, or none where the body is not received. -/
def redirectOr : Option (List UInt8) → Reply
  | some location => .redirect location
  | none => .closed

def handle : Route → Reply × Site
  | .root =>
    guarded inetPton m r (handlerRoot m.status m.site.bookmarks.seen).reply
  | .wifiGet => guarded inetPton m r (.page (handlerWifiGet m.site.bridge))
  | .wifiAdd =>
    withBody m r 256 fun buf =>
      (.redirect (ascii "/wifi"),
        match wifiAdded query buf with
        | none => m.site
        | some (ssid, pass) =>
          { m.site with
            bridge := Wifi.handlerWifiAdd m.io.wifi ssid pass m.site.bridge })
  | .wifiDel =>
    let after :=
      handlerWifiDel query m.io.wifi (addressQuery r.address 32) m.site.bridge
    (.redirect after.1, { m.site with bridge := after.2 })
  | .bmGet => guarded inetPton m r (.page (handlerBmGet query m r))
  | .bmEdit =>
    guarded inetPton m r
      (handlerBmEdit query m.site.bookmarks (addressQuery r.address 32)).reply
  | .bmSave =>
    let after :=
      handlerBmSave query m.site.bookmarks m.io.bookmarks r.received r.content
    (redirectOr after.1, { m.site with bookmarks := after.2 })
  | .bmDel =>
    let after :=
      handlerBmDel query m.site.bookmarks m.io.bookmarks
        (addressQuery r.address 32)
    (redirectOr after.1, { m.site with bookmarks := after.2 })
  | .nameGet => guarded inetPton m r (.page (handlerNameGet m.site.name))
  | .namePost =>
    withBody m r 192 fun _ =>
      (.redirect (ascii "/name"),
        match handlerNamePost query r.received r.content with
        | none => m.site
        | some name =>
          { m.site with
            name := nameSaved m.site.name m.io.name.1 m.io.name.2 name })
  | .debugGet =>
    guarded inetPton m r (.page (handlerDebugGet m.site.debugLog.value))
  | .debugPost =>
    withBody m r 128 fun _ =>
      (.redirect (ascii "/debug"),
        match handlerDebugPost query r.received r.content with
        | none => m.site
        | some flags =>
          { m.site with
            debugLog :=
              flagsSaved m.site.debugLog m.io.debugLog.1 m.io.debugLog.2
                flags })
  | .securityGet =>
    guarded inetPton m r
      (.page (handlerSecurityGet m.site.security.linkMode m.readings.lastPhone))
  | .securityPost =>
    (match Link.handlerSecurityPost query m.site.security.linkMode r.received
        r.content with
      | .failed => .closed
      | .redirects => .redirect (ascii "/security")
      | .saves _ =>
        .page (ascii "<html><body><p>Saved. Rebooting...</p></body></html>"),
      { m.site with
        security :=
          m.site.security.post query r.received r.content m.io.security })
  | .proxyGet =>
    guarded inetPton m r
      (.page (handlerProxyGet m.site.proxy.settings m.readings.sessions))
  | .proxyPost =>
    withBody m r 256 fun _ =>
      (.redirect (ascii "/proxy"),
        { m.site with
          proxy :=
            pageStep query m.site.proxy (.post r.received r.content m.io.proxy) })
  | .reset =>
    (.redirect (ascii "/wifi"),
      { m.site with bridge := Wifi.wifiListClear m.io.wifi m.site.bridge })
  | .reboot =>
    (.page (ascii "<html><body><p>Rebooting...</p></body></html>"),
      { m.site with security := { m.site.security with rebooting := true } })
  | .favicon => (.noContent, m.site)

/-- A request, with `handler_404` for a path that is not registered. -/
def serve : Reply × Site :=
  match findUri r.method r.path with
  | .handler route => handle query inetPton m r route
  | .methodNotAllowed => (.notAllowed, m.site)
  | .notFound => (.redirect gateway, m.site)

end Handlers

end VeteraBridge.Web

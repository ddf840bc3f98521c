import VeteraBridge.Web.Server

/-!
# The captive portal

Where a browser ends up that follows the redirects.  The bridge may change in
any way between two requests.
-/

namespace VeteraBridge.Web

open Proxy (ascii)
open Wifi (WifiIo)

/-! ## Following redirects -/

/-- The request a browser makes of a redirect: under the host that it names, or
under the same. -/
def resolve (r : Request) (location : List UInt8) : Request :=
  let scheme := ascii "http://"
  let rest := location.drop scheme.length
  if scheme <+: location then
    { method := .get
      address := rest.dropWhile fun c => c != 47
      host := some (rest.takeWhile fun c => c != 47)
      received := true
      content := [] }
  else
    { method := .get
      address := location
      host := r.host
      received := true
      content := [] }

def follow (r : Request) : Reply → Option Request
  | .redirect location => some (resolve r location)
  | _ => none

/-- The requests of a browser that follows the redirects, each at its moment. -/
def asked (query : QueryFn) (inetPton : List UInt8 → Bool)
    (moments : Nat → Moment) (first : Request) : Nat → Option Request
  | 0 => some first
  | k + 1 =>
    (asked query inetPton moments first k).bind fun r =>
      follow r (serve query inetPton (moments k) r).1

/-! ## The handlers -/

namespace Route

/-- It changes what is stored, or restarts the bridge. -/
def writes : Route → Bool
  | .wifiAdd | .wifiDel | .bmSave | .bmDel | .namePost | .debugPost
  | .securityPost | .proxyPost | .reset | .reboot => true
  | _ => false

end Route

section Handlers

variable {query : QueryFn} {inetPton : List UInt8 → Bool} {m : Moment}
  {r : Request} {route : Route} {location : List UInt8}

end Handlers

/-! ## The requests that follow -/

section Following

variable {query : QueryFn} {inetPton : List UInt8 → Bool} {m : Moment}
  {r next : Request} {route : Route} {location : List UInt8}

end Following

end VeteraBridge.Web

import Mathlib.Data.Fintype.Basic
import VeteraBridge.Proxy.Settings

/-!
# Saved networks

The list of networks in RAM and its copy in NVS, and what the web page does to
them.
-/

namespace VeteraBridge.Wifi

open Proxy (cstr strlcpy)

def wifiListMax : Nat := 8

/-- `wifi_cred_t`: the two strings. -/
structure WifiCred where
  ssid : List UInt8
  pass : List UInt8
deriving DecidableEq, Repr

def WifiCred.zero : WifiCred := ⟨[], []⟩

/-- `wifi_list_t`. -/
structure WifiList where
  ver : UInt8
  count : Nat
  e : Fin wifiListMax → WifiCred
deriving DecidableEq

namespace WifiList

def zero : WifiList := ⟨0, 0, fun _ => WifiCred.zero⟩

/-- The entries in use. -/
def entries (list : WifiList) : List WifiCred :=
  (List.ofFn list.e).take list.count

end WifiList

/-- `strcmp(c.ssid, ssid) == 0`. -/
def WifiCred.isNamed (c : WifiCred) (ssid : List UInt8) : Bool :=
  cstr c.ssid == cstr ssid

/-! ## NVS -/

/-- What NVS answers. -/
structure NvsListIo where
  opened : Bool
  blob : Bool
deriving DecidableEq, Repr

/-- `nvs_list_load`: the list that replaces the one in RAM. -/
def nvsListLoad (io : NvsListIo) (stored : Option WifiList) :
    Option WifiList :=
  if io.opened = true ∧ io.blob = true then
    stored.filter fun tmp => tmp.ver == 1 && decide (tmp.count ≤ wifiListMax)
  else
    none

/-- `nvs_list_save`: the blob NVS holds afterwards. -/
def nvsListSave (io : NvsListIo) (list : WifiList) (stored : Option WifiList) :
    Option WifiList :=
  if io.opened = true ∧ io.blob = true then some list else stored

/-! ## The list API -/

/-- `wifi_list_get_ssid`. -/
def wifiListGetSsid (list : WifiList) (index : Int) (outLen : Nat) :
    Option (List UInt8) :=
  if h : 0 ≤ index ∧ index < list.count ∧ index.toNat < wifiListMax then
    some (strlcpy (list.e ⟨index.toNat, h.2.2⟩).ssid outLen)
  else
    none

/-- Where `wifi_list_add` puts a network: over the entry of that name, or
behind the last. -/
def addIndex (list : WifiList) (ssid : List UInt8) :
    Option (Fin wifiListMax × Nat) :=
  match
    (List.finRange wifiListMax).find? fun i =>
      decide (i.val < list.count) && (list.e i).isNamed ssid with
  | some i => some (i, list.count)
  | none =>
    if room : list.count < wifiListMax then
      some (⟨list.count, room⟩, list.count + 1)
    else
      none

/-- `wifi_list_add`: the new list, or `none` for false.  The arguments are
`none` for `NULL`. -/
def wifiListAdd (list : WifiList) (ssid pass : Option (List UInt8)) :
    Option WifiList :=
  match ssid with
  | none => none
  | some ssid =>
    if (cstr ssid).length = 0 ∨ 32 < (cstr ssid).length then none
    else if 64 < (cstr (pass.getD [])).length then none
    else
      (addIndex list ssid).map fun (i, count) =>
        { list with
          count := count
          e := Function.update list.e i
            ⟨strlcpy ssid 33, strlcpy (pass.getD []) 65⟩ }

/-- `wifi_list_remove` on the list: the entries behind `index` move up, and the
slot that is given up is zeroed. -/
def wifiListRemove (list : WifiList) (index : Nat) : WifiList :=
  { list with
    count := list.count - 1
    e := fun i =>
      if i.val = list.count - 1 then WifiCred.zero
      else if h : index ≤ i.val ∧ i.val + 1 < list.count ∧
          i.val + 1 < wifiListMax then
        list.e ⟨i.val + 1, h.2.2⟩
      else
        list.e i }

/-- `wifi_list_clear` on the list. -/
def wifiListCleared : WifiList := { WifiList.zero with ver := 1 }

end VeteraBridge.Wifi

import Mathlib.Data.List.DropRight
import VeteraBridge.Wifi.Networks

/-!
# Candidates

`handle_scan_done`, up to the first attempt: the saved networks among the scan
records, each once with its best signal, the best first.
-/

namespace VeteraBridge.Wifi

open Proxy (cstr)

def scanMaxRecords : Nat := 24

/-- `wifi_ap_record_t`. -/
structure ApRecord where
  ssid : List UInt8
  rssi : Int
deriving DecidableEq, Repr

/-- `candidates` and `cand_rssi`. -/
structure Candidate where
  cred : WifiCred
  rssi : Int
deriving DecidableEq, Repr

/-- What the driver answers after a scan. -/
structure ScanIo where
  apNum : Nat
  calloc : Bool
  records : Option (List ApRecord)
deriving DecidableEq, Repr

/-- The records `handle_scan_done` looks at. -/
def examined (io : ScanIo) : List ApRecord :=
  let n := min io.apNum scanMaxRecords
  if 0 < n ∧ io.calloc = true then (io.records.getD []).take n else []

/-- The candidates after one more record. -/
def addRecord (saved : List WifiCred) (found : List Candidate)
    (r : ApRecord) : List Candidate :=
  match saved.find? fun cred => cred.isNamed r.ssid with
  | none => found
  | some cred =>
    match found.findIdx? fun c => c.cred.isNamed r.ssid with
    | some k =>
      found.modify k fun c => if r.rssi > c.rssi then { c with rssi := r.rssi } else c
    | none =>
      if found.length < wifiListMax then found ++ [⟨cred, r.rssi⟩] else found

/-- One pass of the insertion sort: the weaker candidates at the end of those
already sorted move one place back. -/
def insertCandidate (sorted : List Candidate) (c : Candidate) :
    List Candidate :=
  sorted.rdropWhile (fun other => decide (other.rssi < c.rssi)) ++
    c :: sorted.rtakeWhile fun other => decide (other.rssi < c.rssi)

/-- The candidate array after a scan. -/
def selectCandidates (saved : WifiList) (io : ScanIo) : List Candidate :=
  ((examined io).foldl (addRecord saved.entries) []).foldl insertCandidate []

end VeteraBridge.Wifi

import VeteraBridge.Wifi.System

/-!
# The configuration of an attempt

A network is saved by `wifi_list_add`, found among the scan records, copied into
the candidate array and handed to the driver by `wifi_try_candidate`.  The list
keeps names of 32 bytes and passwords of 64; the copy into the driver's fields
leaves out the last byte of each.
-/

namespace VeteraBridge.Wifi

open Proxy (cstr cstr_cstr strlcpy)

theorem isNamed_iff (c : WifiCred) (ssid : List UInt8) :
    c.isNamed ssid = true ↔ cstr c.ssid = cstr ssid := by
  rw [WifiCred.isNamed, beq_iff_eq]

/-! ## The saved entry -/

/-- The first entry of a list with a name. -/
def WifiList.named (list : WifiList) (ssid : List UInt8) : Option WifiCred :=
  list.entries.find? fun c => c.isNamed ssid

/-- Names that are the same C string name the same entry. -/
theorem WifiList.named_congr (list : WifiList) {ssid other : List UInt8}
    (same : cstr ssid = cstr other) : list.named ssid = list.named other := by
  have tests :
      (fun c : WifiCred => c.isNamed ssid) = fun c => c.isNamed other := by
    funext c
    rw [WifiCred.isNamed, WifiCred.isNamed, same]
  rw [named, named, tests]

theorem WifiList.entries_getElem? (list : WifiList) (i : Fin wifiListMax)
    (counted : i.val < list.count) :
    list.entries[i.val]? = some (list.e i) := by
  rw [entries, List.getElem?_take_of_lt counted, List.getElem?_ofFn,
    dif_pos i.isLt]

/-- An entry behind which no earlier one has its name is the named one. -/
theorem WifiList.named_of_first (list : WifiList) (ssid : List UInt8)
    (i : Fin wifiListMax) (counted : i.val < list.count)
    (isNamed : (list.e i).isNamed ssid = true)
    (first : ∀ j < i, j.val < list.count → (list.e j).isNamed ssid = false) :
    list.named ssid = some (list.e i) := by
  have here := list.entries_getElem? i counted
  obtain ⟨inside, same⟩ := List.getElem?_eq_some_iff.mp here
  rw [named, List.find?_eq_some_iff_getElem]
  refine ⟨isNamed, i.val, inside, same, ?_⟩
  intro j before
  have below : j < wifiListMax := before.trans i.isLt
  have there := list.entries_getElem? ⟨j, below⟩ (before.trans counted)
  rw [(List.getElem?_eq_some_iff.mp there).2,
    first ⟨j, below⟩ before (before.trans counted)]
  rfl

/-- Before the place `wifi_list_add` puts a network at, no entry has its
name. -/
theorem addIndex_first {list : WifiList} {ssid : List UInt8}
    {i : Fin wifiListMax} {count : Nat}
    (placed : addIndex list ssid = some (i, count)) :
    i.val < count ∧
      ∀ j < i, j.val < list.count ∧ (list.e j).isNamed ssid = false := by
  unfold addIndex at placed
  split at placed
  · rename_i found named
    cases placed
    obtain ⟨test, k, inside, same, earlier⟩ :=
      List.find?_eq_some_iff_getElem.mp named
    rw [List.getElem_finRange] at same
    rw [Bool.and_eq_true, decide_eq_true_eq] at test
    refine ⟨test.1, ?_⟩
    intro j before
    have position : i.val = k := by
      rw [← same]
      rfl
    have within : j.val < k := by
      rw [← position]
      exact before
    have notNamed := earlier j.val within
    rw [List.getElem_finRange] at notNamed
    have counted : j.val < list.count := by
      have below := test.1
      omega
    simpa [counted] using notNamed
  · rename_i absent
    split at placed
    · cases placed
      refine ⟨Nat.lt_succ_self _, ?_⟩
      intro j before
      have counted : j.val < list.count := before
      have notNamed := List.find?_eq_none.mp absent j (List.mem_finRange j)
      simpa [counted] using notNamed
    · cases placed

/-- What `wifi_list_add` stores is what its name finds. -/
theorem wifiListAdd_named {list new : WifiList} {ssid : List UInt8}
    {pass : Option (List UInt8)}
    (added : wifiListAdd list (some ssid) pass = some new) :
    (cstr ssid).length ≤ 32 ∧ (cstr (pass.getD [])).length ≤ 64 ∧
      new.named ssid = some ⟨cstr ssid, cstr (pass.getD [])⟩ := by
  simp only [wifiListAdd, Option.ite_none_left_eq_some, Option.map_eq_some_iff]
    at added
  obtain ⟨shortName, shortSecret, ⟨i, count⟩, placed, rfl⟩ := added
  obtain ⟨counted, first⟩ := addIndex_first placed
  have name : strlcpy ssid 33 = cstr ssid := by
    rw [strlcpy, List.take_of_length_le (by omega)]
  have secret : strlcpy (pass.getD []) 65 = cstr (pass.getD []) := by
    rw [strlcpy, List.take_of_length_le (by omega)]
  rw [name, secret]
  refine ⟨by omega, by omega, ?_⟩
  have here := WifiList.named_of_first
    { list with
      count := count
      e := Function.update list.e i ⟨cstr ssid, cstr (pass.getD [])⟩ }
    ssid i counted
  simp only [Function.update_self] at here
  apply here
  · rw [isNamed_iff, cstr_cstr]
  · intro j before _
    rw [Function.update_of_ne before.ne]
    exact (first j before).2

/-! ## The candidates -/

/-- Every candidate is the entry its name finds. -/
def Found (list : WifiList) (candidates : List Candidate) : Prop :=
  ∀ c ∈ candidates, list.named c.cred.ssid = some c.cred

theorem addRecord_found {list : WifiList} {found : List Candidate}
    (each : Found list found) (r : ApRecord) :
    Found list (addRecord list.entries found r) := by
  unfold addRecord
  split
  · exact each
  · rename_i cred named
    have isNamed := List.find?_some named
    rw [isNamed_iff] at isNamed
    have own : list.named cred.ssid = some cred := by
      rw [list.named_congr isNamed]
      exact named
    split
    · rename_i k _
      intro c member
      obtain ⟨old, inside, sameCred⟩ : ∃ old ∈ found, c.cred = old.cred := by
        obtain ⟨i, inside, rfl⟩ := List.mem_iff_getElem.mp member
        have within : i < found.length := by simpa using inside
        rw [List.getElem_modify]
        refine ⟨found[i], List.getElem_mem within, ?_⟩
        split_ifs <;> rfl
      rw [sameCred]
      exact each old inside
    · split_ifs
      · intro c member
        rcases List.mem_append.mp member with old | isNew
        · exact each c old
        · rw [List.mem_singleton.mp isNew]
          exact own
      · exact each

theorem insertCandidate_found {list : WifiList} {sorted : List Candidate}
    (each : Found list sorted) {c : Candidate}
    (own : list.named c.cred.ssid = some c.cred) :
    Found list (insertCandidate sorted c) := by
  intro other member
  rcases List.mem_append.mp member with front | back
  · exact each other ((List.rdropWhile_prefix _ _).subset front)
  · rcases List.mem_cons.mp back with rfl | back
    · exact own
    · exact each other ((List.rtakeWhile_suffix _ _).subset back)

theorem selectCandidates_found (list : WifiList) (io : ScanIo) :
    Found list (selectCandidates list io) := by
  have selected :
      ∀ (records : List ApRecord) (found : List Candidate), Found list found →
        Found list (records.foldl (addRecord list.entries) found) := by
    intro records
    induction records with
    | nil => exact fun _ each => each
    | cons r rest inductionHypothesis =>
        exact fun found each => inductionHypothesis _ (addRecord_found each r)
  have sorts :
      ∀ (found sorted : List Candidate), Found list found → Found list sorted →
        Found list (found.foldl insertCandidate sorted) := by
    intro found
    induction found with
    | nil => exact fun _ _ each => each
    | cons c rest inductionHypothesis =>
        intro sorted new each
        apply inductionHypothesis
        · exact fun other member => new other (List.mem_cons_of_mem c member)
        · exact insertCandidate_found each (new c List.mem_cons_self)
  have none : Found list [] := fun c member => by cases member
  exact sorts _ [] (selected _ [] none) none

/-! ## The attempt -/

/-- The configuration carries a name and a password. -/
def StaConfig.Carries (cfg : StaConfig) (ssid pass : List UInt8) : Prop :=
  cfg.ssid = ssid ∧ cfg.password = pass

theorem staConfig_carries_iff (c : WifiCred) :
    (staConfig c).Carries (cstr c.ssid) (cstr c.pass) ↔
      (cstr c.ssid).length ≤ 31 ∧ (cstr c.pass).length ≤ 63 := by
  rw [StaConfig.Carries, staConfig, List.take_eq_self_iff,
    List.take_eq_self_iff]

/-- What an attempt hands to the driver. -/
theorem wifiTryCandidate_connects (io : WifiIo) {s : Bridge} {c : Candidate}
    (ready : s.wifiBtNegotiating = false)
    (current : s.wifi.candidates[s.wifi.candIndex]? = some c) :
    (wifiTryCandidate io s).driver.connects =
      s.driver.connects ++ [staConfig c.cred] := by
  simp [wifiTryCandidate, ready, current, Bridge.withWifi, Bridge.withDriver,
    Bridge.showCycle, Driver.connect]

/-- An attempt at a network that `wifi_list_add` accepted, found by a scan of
the list it was added to, carries its name and its password exactly when they
leave the last byte of their fields free. -/
theorem attempt_carries_iff {list new : WifiList} {ssid : List UInt8}
    {pass : Option (List UInt8)}
    (added : wifiListAdd list (some ssid) pass = some new) (scan : ScanIo)
    (io : WifiIo) (s : Bridge) (c : Candidate)
    (scanned : s.wifi.candidates = selectCandidates new scan)
    (current : s.wifi.candidates[s.wifi.candIndex]? = some c)
    (isNamed : c.cred.isNamed ssid = true)
    (ready : s.wifiBtNegotiating = false) :
    (∃ cfg,
      (wifiTryCandidate io s).driver.connects = s.driver.connects ++ [cfg] ∧
        cfg.Carries (cstr ssid) (cstr (pass.getD []))) ↔
      (cstr ssid).length ≤ 31 ∧ (cstr (pass.getD [])).length ≤ 63 := by
  obtain ⟨_, _, named⟩ := wifiListAdd_named added
  have member : c ∈ selectCandidates new scan := by
    rw [← scanned]
    exact List.mem_of_getElem? current
  have found := selectCandidates_found new scan c member
  rw [new.named_congr ((isNamed_iff _ _).mp isNamed), named] at found
  have cred : c.cred = ⟨cstr ssid, cstr (pass.getD [])⟩ :=
    (Option.some.inj found).symm
  have carries := staConfig_carries_iff c.cred
  rw [cred] at carries
  simp only [cstr_cstr] at carries
  rw [wifiTryCandidate_connects io ready current, ← carries, cred]
  constructor
  · rintro ⟨cfg, same, whole⟩
    have isCfg := List.append_cancel_left same
    cases isCfg
    exact whole
  · exact fun whole => ⟨_, rfl, whole⟩

/-- The saved list of one network. -/
def oneNetwork (ssid pass : List UInt8) : WifiList :=
  { WifiList.zero with
    count := 1
    e := Function.update WifiList.zero.e ⟨0, by decide⟩ ⟨ssid, pass⟩ }

/-- A scan that sees one network. -/
def scanOf (ssid : List UInt8) : ScanIo := ⟨1, true, some [⟨ssid, -50⟩]⟩

/-- A bridge about to try the first network a scan found. -/
def aboutToTry (list : WifiList) (scan : ScanIo) : Bridge :=
  (Bridge.zero none).withWifi
    { (Bridge.zero none).wifi with candidates := selectCandidates list scan }

theorem attempt_carries_short :
    ∃ cfg,
      (wifiTryCandidate ⟨true, true, scanOf [109, 101], ⟨true, true⟩, 0, none⟩
        (aboutToTry (oneNetwork [109, 101] [97]) (scanOf [109, 101]))).driver.connects =
          (aboutToTry (oneNetwork [109, 101] [97])
            (scanOf [109, 101])).driver.connects ++ [cfg] ∧
        cfg.Carries (cstr [109, 101]) (cstr ((some [97]).getD [])) :=
  (@attempt_carries_iff WifiList.zero (oneNetwork [109, 101] [97]) [109, 101]
    (some [97]) rfl (scanOf [109, 101]) _
    (aboutToTry (oneNetwork [109, 101] [97]) (scanOf [109, 101]))
    ⟨⟨[109, 101], [97]⟩, -50⟩ rfl rfl rfl rfl).mpr ⟨by decide, by decide⟩

/-- A name of 32 bytes is handed to the driver without its last byte. -/
theorem long_name_is_cut :
    ¬ ∀ (list new : WifiList) (ssid : List UInt8) (pass : Option (List UInt8)),
      wifiListAdd list (some ssid) pass = some new →
      ∀ (scan : ScanIo) (io : WifiIo) (s : Bridge) (c : Candidate),
        s.wifi.candidates = selectCandidates new scan →
        s.wifi.candidates[s.wifi.candIndex]? = some c →
        c.cred.isNamed ssid = true → s.wifiBtNegotiating = false →
        ∃ cfg,
          (wifiTryCandidate io s).driver.connects =
              s.driver.connects ++ [cfg] ∧
            cfg.Carries (cstr ssid) (cstr (pass.getD [])) := by
  intro always
  have name : cstr (List.replicate 32 97) = List.replicate 32 97 := by decide
  obtain ⟨cfg, connects, whole, _⟩ :=
    always WifiList.zero (oneNetwork (List.replicate 32 97) [])
      (List.replicate 32 97) none rfl (scanOf (List.replicate 32 97))
      ⟨true, true, scanOf [], ⟨true, true⟩, 0, none⟩
      (aboutToTry (oneNetwork (List.replicate 32 97) [])
        (scanOf (List.replicate 32 97)))
      ⟨⟨List.replicate 32 97, []⟩, -50⟩ rfl rfl rfl rfl
  rw [wifiTryCandidate_connects (c := ⟨⟨List.replicate 32 97, []⟩, -50⟩) _ rfl
    rfl] at connects
  cases List.append_cancel_left connects
  exact absurd whole (by decide)

end VeteraBridge.Wifi

import VeteraBridge.Lib.StableInsertion
import VeteraBridge.Wifi.StaConfig

/-!
# What a scan selects

The candidates after a scan are the saved networks among the records, each once
with its best signal.  The loop over the records keeps them in the order in
which they were first heard, and the insertion sort is stable, so among equal
signals the network heard first is tried first.
-/

namespace VeteraBridge.Wifi

open Proxy (cstr)
open StableInsertion

/-- No two saved networks have one name. -/
def DistinctNames (saved : List WifiCred) : Prop :=
  (saved.map fun cred => cstr cred.ssid).Nodup

/-- A record is of the network. -/
def Heard (records : List ApRecord) (cred : WifiCred) : Prop :=
  ∃ r ∈ records, cred.isNamed r.ssid = true

/-- Where the network is first heard. -/
def firstHeard (records : List ApRecord) (cred : WifiCred) : Nat :=
  records.findIdx fun r => cred.isNamed r.ssid

/-- The signal of the candidate is the strongest of its records. -/
structure Strongest (records : List ApRecord) (c : Candidate) : Prop where
  heard : ∃ r ∈ records, c.cred.isNamed r.ssid = true ∧ r.rssi = c.rssi
  most : ∀ r ∈ records, c.cred.isNamed r.ssid = true → r.rssi ≤ c.rssi

/-- The candidates are the saved networks among the records, each with its best
signal, in the order in which they were first heard. -/
structure Selects (saved : List WifiCred) (records : List ApRecord)
    (found : List Candidate) : Prop where
  exactly :
    ∀ cred, cred ∈ found.map Candidate.cred ↔
      cred ∈ saved ∧ Heard records cred
  strongest : ∀ c ∈ found, Strongest records c
  inOrder :
    (found.map Candidate.cred).Pairwise fun first second =>
      firstHeard records first < firstHeard records second

/-! ## One more record -/

section Records

variable {saved : List WifiCred} {records : List ApRecord} {r : ApRecord}
  {cred : WifiCred} {c : Candidate}

theorem heard_append :
    Heard (records ++ [r]) cred ↔
      Heard records cred ∨ cred.isNamed r.ssid = true := by
  simp [Heard, or_and_right, exists_or]

theorem firstHeard_lt_iff :
    firstHeard records cred < records.length ↔ Heard records cred :=
  List.findIdx_lt_length

theorem firstHeard_append_of_heard (heard : Heard records cred) :
    firstHeard (records ++ [r]) cred = firstHeard records cred := by
  have inside := firstHeard_lt_iff.mpr heard
  unfold firstHeard at inside ⊢
  rw [List.findIdx_append, if_pos inside]

theorem firstHeard_append_of_new (notHeard : ¬ Heard records cred)
    (named : cred.isNamed r.ssid = true) :
    firstHeard (records ++ [r]) cred = records.length := by
  have outside := mt firstHeard_lt_iff.mp notHeard
  unfold firstHeard at outside ⊢
  rw [List.findIdx_append, if_neg outside]
  simp [List.findIdx_cons, named]

theorem Strongest.other (strongest : Strongest records c)
    (notNamed : c.cred.isNamed r.ssid = false) :
    Strongest (records ++ [r]) c := by
  obtain ⟨⟨best, member, isBest⟩, most⟩ := strongest
  refine ⟨⟨best, List.mem_append_left _ member, isBest⟩, ?_⟩
  intro other inAll named
  rcases List.mem_append.mp inAll with old | new
  · exact most other old named
  · rw [List.mem_singleton.mp new, notNamed] at named
    cases named

/-- Another record of the network, which may be stronger. -/
theorem Strongest.again (strongest : Strongest records c)
    (named : c.cred.isNamed r.ssid = true) :
    Strongest (records ++ [r])
      (if r.rssi > c.rssi then { c with rssi := r.rssi } else c) := by
  obtain ⟨⟨best, member, isBest⟩, most⟩ := strongest
  have isLast : r ∈ records ++ [r] := by simp
  split
  · next louder =>
    refine ⟨⟨r, isLast, named, rfl⟩, ?_⟩
    intro other inAll otherNamed
    rcases List.mem_append.mp inAll with old | new
    · exact (most other old otherNamed).trans louder.le
    · rw [List.mem_singleton.mp new]
  · next notLouder =>
    refine ⟨⟨best, List.mem_append_left _ member, isBest⟩, ?_⟩
    intro other inAll otherNamed
    rcases List.mem_append.mp inAll with old | new
    · exact most other old otherNamed
    · rw [List.mem_singleton.mp new]
      exact not_lt.mp notLouder

/-- The first record of the network. -/
theorem Strongest.first (notHeard : ¬ Heard records cred)
    (named : cred.isNamed r.ssid = true) :
    Strongest (records ++ [r]) ⟨cred, r.rssi⟩ := by
  refine ⟨⟨r, by simp, named, rfl⟩, ?_⟩
  intro other inAll otherNamed
  rcases List.mem_append.mp inAll with old | new
  · exact absurd ⟨other, old, otherNamed⟩ notHeard
  · rw [List.mem_singleton.mp new]

/-- A record is of one saved network at most. -/
theorem DistinctNames.eq (distinct : DistinctNames saved) {first : WifiCred}
    (isSaved : first ∈ saved) (isSaved' : cred ∈ saved)
    (named : first.isNamed r.ssid = true)
    (named' : cred.isNamed r.ssid = true) : first = cred := by
  apply List.inj_on_of_nodup_map distinct isSaved isSaved'
  rw [(isNamed_iff _ _).mp named, (isNamed_iff _ _).mp named']

/-! ## The candidates after a record -/

section Step

variable {found : List Candidate}

theorem Selects.known (selects : Selects saved records found)
    (member : c ∈ found) : c.cred ∈ saved ∧ Heard records c.cred :=
  (selects.exactly c.cred).mp (List.mem_map_of_mem member)

theorem Selects.nodup (selects : Selects saved records found) :
    (found.map Candidate.cred).Nodup := by
  apply selects.inOrder.imp
  intro first second before same
  rw [same] at before
  exact lt_irrefl _ before

theorem Selects.inOrder_append (selects : Selects saved records found)
    (r : ApRecord) :
    (found.map Candidate.cred).Pairwise fun first second =>
      firstHeard (records ++ [r]) first <
        firstHeard (records ++ [r]) second := by
  apply selects.inOrder.imp_of_mem
  intro first second firstMember secondMember before
  rwa [firstHeard_append_of_heard ((selects.exactly first).mp firstMember).2,
    firstHeard_append_of_heard ((selects.exactly second).mp secondMember).2]

/-- A record of no saved network changes nothing. -/
theorem Selects.unknown (selects : Selects saved records found)
    (notSaved : ∀ cred ∈ saved, cred.isNamed r.ssid = false) :
    Selects saved (records ++ [r]) found := by
  refine ⟨?_, ?_, selects.inOrder_append r⟩
  · intro cred
    rw [selects.exactly, heard_append]
    constructor
    · rintro ⟨isSaved, heard⟩
      exact ⟨isSaved, Or.inl heard⟩
    · rintro ⟨isSaved, heard | named⟩
      · exact ⟨isSaved, heard⟩
      · rw [notSaved cred isSaved] at named
        cases named
  · intro c member
    have strongest := selects.strongest c member
    exact strongest.other (notSaved c.cred (selects.known member).1)

/-- `cand_rssi` after another record of a candidate. -/
def louder (signal : Int) (c : Candidate) : Candidate :=
  if signal > c.rssi then { c with rssi := signal } else c

theorem louder_cred (signal : Int) (c : Candidate) :
    (louder signal c).cred = c.cred := by
  unfold louder
  split_ifs <;> rfl

theorem map_modify_louder (found : List Candidate) (k : Nat) (signal : Int) :
    (found.modify k (louder signal)).map Candidate.cred =
      found.map Candidate.cred := by
  apply List.ext_getElem
  · simp
  · intro i inside inside'
    rw [List.getElem_map, List.getElem_map, List.getElem_modify]
    split_ifs
    · exact louder_cred signal _
    · rfl

/-- A record of a candidate may raise its signal. -/
theorem Selects.known_again (selects : Selects saved records found)
    (distinct : DistinctNames saved) {k : Nat} (inside : k < found.length)
    (named : found[k].cred.isNamed r.ssid = true) :
    Selects saved (records ++ [r]) (found.modify k (louder r.rssi)) := by
  have known := selects.known (List.getElem_mem inside)
  refine ⟨?_, ?_, ?_⟩
  · intro cred
    rw [map_modify_louder, selects.exactly, heard_append]
    constructor
    · rintro ⟨isSaved, heard⟩
      exact ⟨isSaved, Or.inl heard⟩
    · rintro ⟨isSaved, heard | named'⟩
      · exact ⟨isSaved, heard⟩
      · rw [distinct.eq isSaved known.1 named' named]
        exact known
  · intro c member
    obtain ⟨i, within, rfl⟩ := List.mem_iff_getElem.mp member
    have inside' : i < found.length := by simpa using within
    rw [List.getElem_modify]
    have strongest := selects.strongest found[i] (List.getElem_mem inside')
    split_ifs with here
    · cases here
      exact strongest.again named
    · apply strongest.other
      by_contra named'
      rw [Bool.not_eq_false] at named'
      have known' := selects.known (List.getElem_mem inside')
      have sameCred := distinct.eq known.1 known'.1 named named'
      have same := List.inj_on_of_nodup_map selects.nodup
        (List.getElem_mem inside) (List.getElem_mem inside') sameCred
      exact here (selects.nodup.of_map.getElem_inj_iff.mp same)
  · rw [map_modify_louder]
    exact selects.inOrder_append r

/-- The first record of a saved network makes it a candidate. -/
theorem Selects.known_first (selects : Selects saved records found)
    (distinct : DistinctNames saved) (isSaved : cred ∈ saved)
    (named : cred.isNamed r.ssid = true)
    (absent : ∀ c ∈ found, c.cred.isNamed r.ssid = false) :
    Selects saved (records ++ [r]) (found ++ [⟨cred, r.rssi⟩]) := by
  have notFound : cred ∉ found.map Candidate.cred := by
    intro member
    obtain ⟨c, isFound, rfl⟩ := List.mem_map.mp member
    rw [absent c isFound] at named
    cases named
  have notHeard : ¬ Heard records cred := by
    intro heard
    exact notFound ((selects.exactly cred).mpr ⟨isSaved, heard⟩)
  refine ⟨?_, ?_, ?_⟩
  · intro other
    rw [List.map_append, List.mem_append, selects.exactly, heard_append,
      List.map_singleton, List.mem_singleton]
    constructor
    · rintro (⟨isSaved', heard⟩ | rfl)
      · exact ⟨isSaved', Or.inl heard⟩
      · exact ⟨isSaved, Or.inr named⟩
    · rintro ⟨isSaved', heard | named'⟩
      · exact Or.inl ⟨isSaved', heard⟩
      · exact Or.inr (distinct.eq isSaved' isSaved named' named)
  · intro c member
    rcases List.mem_append.mp member with old | new
    · exact (selects.strongest c old).other (absent c old)
    · rw [List.mem_singleton.mp new]
      exact Strongest.first notHeard named
  · rw [List.map_append]
    refine List.pairwise_append.mpr
      ⟨selects.inOrder_append r, List.pairwise_singleton _ _, ?_⟩
    intro first member second isCred
    rw [List.map_singleton] at isCred
    have heard := ((selects.exactly first).mp member).2
    rw [List.mem_singleton.mp isCred, firstHeard_append_of_heard heard,
      firstHeard_append_of_new notHeard named]
    exact firstHeard_lt_iff.mpr heard

/-- A saved network that is no candidate yet finds room. -/
theorem Selects.room (selects : Selects saved records found)
    (isSaved : cred ∈ saved) (absent : cred ∉ found.map Candidate.cred) :
    found.length < saved.length := by
  have nodup := List.nodup_cons.mpr ⟨absent, selects.nodup⟩
  have isSubset : cred :: found.map Candidate.cred ⊆ saved := by
    intro other member
    rcases List.mem_cons.mp member with rfl | old
    · exact isSaved
    · exact ((selects.exactly other).mp old).1
  have bound := (List.subperm_of_subset nodup isSubset).length_le
  rw [List.length_cons, List.length_map] at bound
  exact bound

/-- The step of the loop over the records. -/
theorem addRecord_selects (selects : Selects saved records found)
    (distinct : DistinctNames saved) (short : saved.length ≤ wifiListMax)
    (r : ApRecord) :
    Selects saved (records ++ [r]) (addRecord saved found r) := by
  unfold addRecord
  split
  · next unknown =>
    apply selects.unknown
    simpa using List.find?_eq_none.mp unknown
  · next cred isFound =>
    have isSaved := List.mem_of_find?_eq_some isFound
    have named := List.find?_some isFound
    split
    · next k isCandidate =>
      obtain ⟨inside, named', _⟩ :=
        List.findIdx?_eq_some_iff_getElem.mp isCandidate
      exact selects.known_again distinct inside named'
    · next noCandidate =>
      have absent := List.findIdx?_eq_none_iff.mp noCandidate
      have room : found.length < wifiListMax := by
        apply lt_of_lt_of_le (selects.room isSaved _) short
        intro member
        obtain ⟨c, known, rfl⟩ := List.mem_map.mp member
        rw [absent c known] at named
        cases named
      rw [if_pos room]
      exact selects.known_first distinct isSaved named absent

end Step

end Records

/-! ## The scan -/

/-- What a scan leaves in the candidate array: the saved networks among the
records, each once with its best signal, the strongest first and, among equal
signals, the one heard first. -/
structure Selected (saved : List WifiCred) (records : List ApRecord)
    (candidates : List Candidate) : Prop where
  exactly :
    ∀ cred, cred ∈ candidates.map Candidate.cred ↔
      cred ∈ saved ∧ Heard records cred
  once : (candidates.map fun c => cstr c.cred.ssid).Nodup
  strongest : ∀ c ∈ candidates, Strongest records c
  sorted :
    candidates.Pairwise
      (Before Candidate.rssi fun c => firstHeard records c.cred)
  short : candidates.length ≤ wifiListMax

theorem selects_nil (saved : List WifiCred) : Selects saved [] [] := by
  constructor
  · intro cred
    simp [Heard]
  · intro c member
    cases member
  · exact List.Pairwise.nil

theorem foldl_addRecord_selects {saved : List WifiCred}
    (distinct : DistinctNames saved) (short : saved.length ≤ wifiListMax)
    (records : List ApRecord) :
    Selects saved records (records.foldl (addRecord saved) []) := by
  induction records using List.reverseRecOn with
  | nil =>
      exact selects_nil saved
  | append_singleton front r inductionHypothesis =>
      rw [List.foldl_append]
      exact addRecord_selects inductionHypothesis distinct short r

theorem WifiList.entries_length_le (list : WifiList) :
    list.entries.length ≤ wifiListMax := by
  simp [entries]

theorem insertCandidate_eq :
    insertCandidate = insertRight Candidate.rssi := by
  rfl

/-- The sort keeps what the loop over the records found. -/
theorem Selects.selected {saved : List WifiCred} {records : List ApRecord}
    {found : List Candidate} (selects : Selects saved records found)
    (distinct : DistinctNames saved) (short : saved.length ≤ wifiListMax) :
    Selected saved records (found.foldl insertCandidate []) := by
  rw [insertCandidate_eq]
  have perm := foldl_insertRight_perm Candidate.rssi [] found
  rw [List.nil_append] at perm
  have sameCreds := perm.map Candidate.cred
  constructor
  · intro cred
    rw [sameCreds.mem_iff, selects.exactly]
  · have names := (perm.map fun c => cstr c.cred.ssid).nodup_iff
    rw [names]
    have creds := selects.nodup
    have named :
        ((found.map Candidate.cred).map fun cred => cstr cred.ssid).Nodup := by
      apply creds.map_on
      intro first isFirst second isSecond same
      have isSaved := ((selects.exactly first).mp isFirst).1
      have isSaved' := ((selects.exactly second).mp isSecond).1
      exact List.inj_on_of_nodup_map distinct isSaved isSaved' same
    rwa [List.map_map] at named
  · intro c member
    exact selects.strongest c (perm.mem_iff.mp member)
  · apply foldl_insertRight_sorted List.Pairwise.nil
    · intro other member
      cases member
    · have inOrder := selects.inOrder
      rw [List.pairwise_map] at inOrder
      exact inOrder
  · have nodup := selects.nodup
    have isSubset : found.map Candidate.cred ⊆ saved := by
      intro cred member
      exact ((selects.exactly cred).mp member).1
    have bound := (List.subperm_of_subset nodup isSubset).length_le
    rw [List.length_map, ← perm.length_eq] at bound
    exact bound.trans short

theorem selectCandidates_selected (list : WifiList)
    (distinct : DistinctNames list.entries) (io : ScanIo) :
    Selected list.entries (examined io) (selectCandidates list io) := by
  have short := list.entries_length_le
  have selects := foldl_addRecord_selects distinct short (examined io)
  exact selects.selected distinct short

theorem wifiTryCandidate_candidates (io : WifiIo) (s : Bridge) :
    (wifiTryCandidate io s).wifi.candidates = s.wifi.candidates := by
  unfold wifiTryCandidate
  split
  · obtain ⟨running, arg, form⟩ :=
      wifiScheduleRetry_form io
        (s.withWifi { s.wifi with candCount := 0 }) wifiNegotiateRecheckMs
    rw [form]
    rfl
  · rfl

/-- The end of a scan leaves the array as the selection filled it. -/
theorem handleScanDone_candidates (io : WifiIo) {s : Bridge}
    (scanning : s.wifi.scanInProgress = true) :
    (handleScanDone io s).wifi.candidates =
      selectCandidates s.wifi.wifiList io.scan := by
  unfold handleScanDone
  rw [if_pos scanning]
  dsimp only
  split
  · obtain ⟨st, retries, delay, running, arg, form⟩ :=
      wifiCycleFailed_form io
        (s.withWifi
          { s.wifi with
            scanInProgress := false
            candidates := selectCandidates s.wifi.wifiList io.scan
            candCount := (selectCandidates s.wifi.wifiList io.scan).length })
    rw [form]
    rfl
  · rw [wifiTryCandidate_candidates]
    rfl

/-- Whatever the scan reports, the candidates are exactly the saved networks
among the records that are looked at. -/
theorem handleScanDone_selected (io : WifiIo) {s : Bridge}
    (scanning : s.wifi.scanInProgress = true)
    (distinct : DistinctNames s.wifi.wifiList.entries) :
    Selected s.wifi.wifiList.entries (examined io.scan)
      (handleScanDone io s).wifi.candidates := by
  rw [handleScanDone_candidates io scanning]
  exact selectCandidates_selected s.wifi.wifiList distinct io.scan

/-- Two saved networks. -/
def twoNetworks : WifiList :=
  { oneNetwork [109, 101] [97] with
    count := 2
    e :=
      Function.update (oneNetwork [109, 101] [97]).e ⟨1, by decide⟩
        ⟨[121, 111, 117], [98]⟩ }

/-- A scan that hears both networks, and the first one again. -/
def threeRecords : ScanIo :=
  ⟨3, true,
    some [⟨[109, 101], -70⟩, ⟨[121, 111, 117], -50⟩, ⟨[109, 101], -50⟩]⟩

/-- A bridge whose scan is under way. -/
def inScan (list : WifiList) : Bridge :=
  (Bridge.zero none).withWifi
    { (Bridge.zero none).wifi with wifiList := list, scanInProgress := true }

theorem handleScanDone_selected_two :
    Selected twoNetworks.entries (examined threeRecords)
      (handleScanDone ⟨true, true, threeRecords, ⟨true, true⟩, 0, none⟩
        (inScan twoNetworks)).wifi.candidates :=
  @handleScanDone_selected
    ⟨true, true, threeRecords, ⟨true, true⟩, 0, none⟩ (inScan twoNetworks) rfl
    (by unfold DistinctNames; decide)

/-- Heard first, the first network is tried first. -/
example :
    (handleScanDone ⟨true, true, threeRecords, ⟨true, true⟩, 0, none⟩
      (inScan twoNetworks)).wifi.candidates =
        [⟨⟨[109, 101], [97]⟩, -50⟩, ⟨⟨[121, 111, 117], [98]⟩, -50⟩] := by
  decide

end VeteraBridge.Wifi

import VeteraBridge.Lib.CountedSlots
import VeteraBridge.Lib.EventRun
import VeteraBridge.Wifi.StaConfig

/-!
# The saved list

What `wifi_list_add`, `wifi_list_remove` and `wifi_list_clear` do to the list
and to its blob in NVS, as calls on the networks the list names: at most one of
each name, in the order they were added.
-/

namespace VeteraBridge.Wifi

open Proxy (cstr cstr_cstr strlcpy)
open CountedSlots (Counted used)

/-! ## The networks of a list -/

/-- An entry as its strings are read. -/
def WifiCred.read (c : WifiCred) : WifiCred := ⟨cstr c.ssid, cstr c.pass⟩

theorem WifiCred.read_of_cstr (name secret : List UInt8) :
    WifiCred.read ⟨cstr name, cstr secret⟩ = ⟨cstr name, cstr secret⟩ := by
  rw [read, cstr_cstr, cstr_cstr]

namespace WifiList

/-- The networks of a list, in its order. -/
def networks (list : WifiList) : List WifiCred :=
  list.entries.map WifiCred.read

/-- What holds of every list the bridge keeps. -/
structure Ok (list : WifiList) : Prop where
  version : list.ver = 1
  slots : Counted WifiCred.zero list.count list.e
  named : ∀ c ∈ list.networks, c.ssid ≠ [] ∧ c.ssid.length ≤ 32
  distinct : (list.networks.map WifiCred.ssid).Nodup

variable {list : WifiList}

theorem Ok.networks_length (ok : list.Ok) :
    list.networks.length = list.count := by
  rw [networks, List.length_map]
  exact CountedSlots.used_length ok.slots.fits

theorem Ok.mem_networks_iff (ok : list.Ok) {network : WifiCred} :
    network ∈ list.networks ↔
      ∃ slot : Fin wifiListMax,
        slot.val < list.count ∧ (list.e slot).read = network := by
  rw [networks, List.mem_map]
  constructor
  · rintro ⟨entry, member, rfl⟩
    obtain ⟨slot, counted, rfl⟩ :=
      (CountedSlots.mem_used_iff ok.slots.fits).mp member
    exact ⟨slot, counted, rfl⟩
  · rintro ⟨slot, counted, rfl⟩
    refine ⟨list.e slot, ?_, rfl⟩
    exact (CountedSlots.mem_used_iff ok.slots.fits).mpr ⟨slot, counted, rfl⟩

theorem cleared_ok : wifiListCleared.Ok where
  version := rfl
  slots := Counted.empty
  named := fun c member => by cases member
  distinct := List.nodup_nil

/-- A list the bridge keeps passes the check of `nvs_list_load`. -/
theorem Ok.reloads (ok : list.Ok) :
    nvsListLoad ⟨true, true⟩ (some list) = some list := by
  have passes :
      (list.ver == 1 && decide (list.count ≤ wifiListMax)) = true := by
    rw [ok.version, decide_eq_true ok.slots.fits]
    rfl
  rw [nvsListLoad, if_pos ⟨rfl, rfl⟩, Option.filter_some, if_pos passes]

end WifiList

/-! ## Where a network goes -/

theorem addIndex_of_named {list : WifiList} (ok : list.Ok) {ssid : List UInt8}
    (known : cstr ssid ∈ list.networks.map WifiCred.ssid) :
    ∃ slot : Fin wifiListMax,
      slot.val < list.count ∧ cstr (list.e slot).ssid = cstr ssid ∧
        addIndex list ssid = some (slot, list.count) := by
  cases found :
      (List.finRange wifiListMax).find? fun i =>
        decide (i.val < list.count) && (list.e i).isNamed ssid with
  | none =>
      obtain ⟨network, member, name⟩ := List.mem_map.mp known
      obtain ⟨slot, counted, rfl⟩ := ok.mem_networks_iff.mp member
      have isNamed : (list.e slot).isNamed ssid = true :=
        (isNamed_iff _ _).mpr name
      have passed := List.find?_eq_none.mp found slot (List.mem_finRange slot)
      rw [isNamed, decide_eq_true counted] at passed
      exact absurd rfl passed
  | some slot =>
      have test := List.find?_some found
      rw [Bool.and_eq_true, decide_eq_true_eq, isNamed_iff] at test
      refine ⟨slot, test.1, test.2, ?_⟩
      simp only [addIndex, found]

theorem addIndex_of_new {list : WifiList} (ok : list.Ok) {ssid : List UInt8}
    (unknown : cstr ssid ∉ list.networks.map WifiCred.ssid) :
    addIndex list ssid =
      if room : list.count < wifiListMax then
        some (⟨list.count, room⟩, list.count + 1)
      else none := by
  have nowhere :
      ((List.finRange wifiListMax).find? fun i =>
        decide (i.val < list.count) && (list.e i).isNamed ssid) = none := by
    rw [List.find?_eq_none]
    intro slot _ test
    rw [Bool.and_eq_true, decide_eq_true_eq, isNamed_iff] at test
    apply unknown
    rw [List.mem_map]
    exact ⟨(list.e slot).read, ok.mem_networks_iff.mpr ⟨slot, test.1, rfl⟩,
      test.2⟩
  simp only [addIndex, nowhere]

/-! ## The calls -/

/-- The list in RAM and the blob in NVS. -/
structure Saved where
  list : WifiList
  nvs : Option WifiList

/-- A call of the list API that may change the list, with what NVS answers
when it is saved.  Arguments are `none` for `NULL`. -/
inductive ListCall where
  | add (ssid pass : Option (List UInt8)) (io : NvsListIo)
  | remove (index : Int) (io : NvsListIo)
  | clear (io : NvsListIo)
deriving DecidableEq, Repr

namespace ListCall

def io : ListCall → NvsListIo
  | add _ _ io | remove _ io | clear io => io

/-- The list a call leaves in RAM; `none` if it is rejected. -/
def changed (list : WifiList) : ListCall → Option WifiList
  | add ssid pass _ => wifiListAdd list ssid pass
  | remove index _ =>
    if 0 ≤ index ∧ index < list.count then
      some (wifiListRemove list index.toNat)
    else
      none
  | clear _ => some wifiListCleared

/-- A call that changes the list saves it. -/
def step (s : Saved) (call : ListCall) : Saved :=
  match call.changed s.list with
  | some list => ⟨list, nvsListSave call.io list s.nvs⟩
  | none => s

/-- What a call does to the networks of the list; `none` if it is rejected. -/
def apply (networks : List WifiCred) : ListCall → Option (List WifiCred)
  | add none _ _ => none
  | add (some ssid) pass _ =>
    let name := cstr ssid
    let secret := cstr (pass.getD [])
    if name = [] ∨ 32 < name.length ∨ 64 < secret.length then none
    else if name ∈ networks.map WifiCred.ssid then
      some
        (networks.map fun c =>
          if c.ssid = name then { c with pass := secret } else c)
    else if networks.length < wifiListMax then
      some (networks ++ [⟨name, secret⟩])
    else
      none
  | remove index _ =>
    if 0 ≤ index ∧ index < networks.length then
      some (networks.eraseIdx index.toNat)
    else
      none
  | clear _ => some []

variable {networks new : List WifiCred} {call : ListCall}

/-- What holds of the networks of a list the bridge keeps. -/
structure Kept (networks : List WifiCred) : Prop where
  few : networks.length ≤ wifiListMax
  named : ∀ c ∈ networks, c.ssid ≠ [] ∧ c.ssid.length ≤ 32
  distinct : (networks.map WifiCred.ssid).Nodup

theorem Kept.add {ssid : List UInt8} {pass : Option (List UInt8)}
    {io : NvsListIo} (kept : Kept networks)
    (added : (add (some ssid) pass io).apply networks = some new) :
    Kept new := by
  simp only [apply, Option.ite_none_left_eq_some] at added
  obtain ⟨fits, added⟩ := added
  by_cases known : cstr ssid ∈ networks.map WifiCred.ssid
  · rw [if_pos known] at added
    cases added
    have names :
        (networks.map fun c =>
          if c.ssid = cstr ssid then { c with pass := cstr (pass.getD []) }
          else c).map WifiCred.ssid = networks.map WifiCred.ssid := by
      rw [List.map_map]
      apply List.map_congr_left
      intro c _
      rw [Function.comp_apply]
      split_ifs
      · rfl
      · rfl
    refine ⟨?_, ?_, ?_⟩
    · rw [List.length_map]
      exact kept.few
    · intro c member
      obtain ⟨old, inside, rfl⟩ := List.mem_map.mp member
      split_ifs
      · exact kept.named old inside
      · exact kept.named old inside
    · rw [names]
      exact kept.distinct
  · rw [if_neg known] at added
    split_ifs at added with room
    cases added
    refine ⟨?_, ?_, ?_⟩
    · rw [List.length_append]
      exact room
    · intro c member
      rcases List.mem_append.mp member with old | isNew
      · exact kept.named c old
      · rw [List.mem_singleton.mp isNew]
        refine ⟨fun empty => fits (Or.inl empty), ?_⟩
        exact Nat.not_lt.mp fun long => fits (Or.inr (Or.inl long))
    · rw [List.map_append, List.nodup_append]
      refine ⟨kept.distinct, List.nodup_singleton _, ?_⟩
      intro name old other isNew same
      rw [same, List.mem_singleton.mp isNew] at old
      exact known old

theorem Kept.remove {index : Int} {io : NvsListIo} (kept : Kept networks)
    (removed : (remove index io).apply networks = some new) : Kept new := by
  simp only [apply, Option.ite_none_right_eq_some] at removed
  cases removed.2
  have part := List.eraseIdx_sublist networks index.toNat
  exact
    ⟨part.length_le.trans kept.few,
      fun c member => kept.named c (part.subset member),
      (part.map WifiCred.ssid).nodup kept.distinct⟩

/-- Every accepted call keeps at most eight networks of distinct names. -/
theorem Kept.apply (kept : Kept networks)
    (accepted : call.apply networks = some new) : Kept new := by
  cases call with
  | add ssid pass io =>
      cases ssid with
      | none => cases accepted
      | some ssid => exact kept.add accepted
  | remove index io =>
      exact kept.remove accepted
  | clear io =>
      cases accepted
      refine ⟨Nat.zero_le _, ?_, List.nodup_nil⟩
      intro c member
      cases member

end ListCall

/-! ## The calls on the list -/

namespace WifiList

variable {list : WifiList}

theorem Ok.kept (ok : list.Ok) : ListCall.Kept list.networks :=
  ⟨ok.networks_length ▸ ok.slots.fits, ok.named, ok.distinct⟩

/-- A network written to a slot. -/
def put (list : WifiList) (slot : Fin wifiListMax) (count : Nat)
    (c : WifiCred) : WifiList :=
  { list with count := count, e := Function.update list.e slot c }

theorem networks_getElem? (slot : Fin wifiListMax)
    (counted : slot.val < list.count) :
    list.networks[slot.val]? = some (list.e slot).read := by
  rw [networks, List.getElem?_map, entries_getElem? list slot counted]
  rfl

/-- A known network only has its password replaced. -/
theorem Ok.put_known (ok : list.Ok) {slot : Fin wifiListMax}
    (counted : slot.val < list.count) {name secret : List UInt8}
    (known : cstr (list.e slot).ssid = cstr name) :
    (list.put slot list.count ⟨cstr name, cstr secret⟩).networks =
      list.networks.map fun c =>
        if c.ssid = cstr name then { c with pass := cstr secret } else c := by
  have there := networks_getElem? slot counted
  have changed := CountedSlots.set_eq_map ok.distinct there
    fun c => { c with pass := cstr secret }
  simp only [WifiCred.read, known] at changed
  calc
    (list.put slot list.count ⟨cstr name, cstr secret⟩).networks
        = (list.entries.set slot.val
            ⟨cstr name, cstr secret⟩).map WifiCred.read :=
          congrArg (List.map WifiCred.read)
            (CountedSlots.used_update ok.slots.fits slot counted _)
    _ = list.networks.set slot.val ⟨cstr name, cstr secret⟩ := by
          rw [List.map_set, WifiCred.read_of_cstr, networks]
    _ = _ := changed

theorem put_new (room : list.count < wifiListMax)
    (name secret : List UInt8) :
    (list.put ⟨list.count, room⟩ (list.count + 1)
      ⟨cstr name, cstr secret⟩).networks =
        list.networks ++ [⟨cstr name, cstr secret⟩] := by
  calc
    (list.put ⟨list.count, room⟩ (list.count + 1)
        ⟨cstr name, cstr secret⟩).networks
        = (list.entries ++ [WifiCred.mk (cstr name) (cstr secret)]).map
            WifiCred.read :=
          congrArg (List.map WifiCred.read) (CountedSlots.used_push room _)
    _ = list.networks ++ [⟨cstr name, cstr secret⟩] := by
          rw [List.map_append, List.map_singleton, WifiCred.read_of_cstr,
            networks]

end WifiList

theorem wifiListAdd_of_fits {ssid : List UInt8} {pass : Option (List UInt8)}
    (list : WifiList)
    (fits : ¬ (cstr ssid = [] ∨ 32 < (cstr ssid).length ∨
      64 < (cstr (pass.getD [])).length)) :
    wifiListAdd list (some ssid) pass =
      (addIndex list ssid).map fun place =>
        list.put place.1 place.2 ⟨cstr ssid, cstr (pass.getD [])⟩ := by
  rw [not_or, not_or, ← List.length_eq_zero_iff] at fits
  obtain ⟨present, shortName, shortSecret⟩ := fits
  have name : strlcpy ssid 33 = cstr ssid := by
    rw [strlcpy, List.take_of_length_le (by omega)]
  have secret : strlcpy (pass.getD []) 65 = cstr (pass.getD []) := by
    rw [strlcpy, List.take_of_length_le (by omega)]
  have accepted :
      ¬ ((cstr ssid).length = 0 ∨ 32 < (cstr ssid).length) := by omega
  simp only [wifiListAdd, if_neg accepted, if_neg shortSecret, name, secret]
  rfl

theorem wifiListAdd_of_not_fits {ssid : List UInt8}
    {pass : Option (List UInt8)} (list : WifiList)
    (fits : cstr ssid = [] ∨ 32 < (cstr ssid).length ∨
      64 < (cstr (pass.getD [])).length) :
    wifiListAdd list (some ssid) pass = none := by
  rw [← List.length_eq_zero_iff] at fits
  simp only [wifiListAdd]
  split_ifs
  · rfl
  · rfl
  · omega

namespace WifiList.Ok

variable {list new : WifiList}

theorem add (ok : list.Ok) (ssid : List UInt8) (pass : Option (List UInt8))
    (io : NvsListIo) :
    (wifiListAdd list (some ssid) pass).map networks =
        (ListCall.add (some ssid) pass io).apply list.networks ∧
      ∀ new, wifiListAdd list (some ssid) pass = some new →
        new.ver = 1 ∧ Counted WifiCred.zero new.count new.e := by
  simp only [ListCall.apply]
  by_cases fits :
      cstr ssid = [] ∨ 32 < (cstr ssid).length ∨
        64 < (cstr (pass.getD [])).length
  · rw [wifiListAdd_of_not_fits list fits, if_pos fits]
    exact ⟨rfl, fun new added => by cases added⟩
  · rw [wifiListAdd_of_fits list fits, if_neg fits]
    by_cases known : cstr ssid ∈ list.networks.map WifiCred.ssid
    · obtain ⟨slot, counted, name, place⟩ := addIndex_of_named ok known
      rw [place, if_pos known]
      refine ⟨congrArg some (ok.put_known counted name), ?_⟩
      intro new added
      cases added
      exact ⟨ok.version, ok.slots.update slot counted _⟩
    · rw [addIndex_of_new ok known, if_neg known, ok.networks_length]
      by_cases room : list.count < wifiListMax
      · rw [dif_pos room, if_pos room]
        refine ⟨congrArg some (put_new room ssid (pass.getD [])), ?_⟩
        intro new added
        cases added
        exact ⟨ok.version, ok.slots.push room _⟩
      · rw [dif_neg room, if_neg room]
        exact ⟨rfl, fun new added => by cases added⟩

theorem remove (ok : list.Ok) {index : Nat} (inside : index < list.count) :
    (wifiListRemove list index).networks = list.networks.eraseIdx index ∧
      Counted WifiCred.zero (list.count - 1) (wifiListRemove list index).e := by
  constructor
  · calc
      (wifiListRemove list index).networks
          = (list.entries.eraseIdx index).map WifiCred.read :=
            congrArg (List.map WifiCred.read)
              (CountedSlots.used_giveUp ok.slots.fits inside)
      _ = list.networks.eraseIdx index := by
            rw [← List.eraseIdx_map, networks]
  · exact ok.slots.giveUp index

/-- A call does to the list what it does to its networks. -/
theorem changed (ok : list.Ok) (call : ListCall) :
    (call.changed list).map networks = call.apply list.networks ∧
      ∀ new, call.changed list = some new → new.Ok := by
  have refines :
      (call.changed list).map networks = call.apply list.networks ∧
        ∀ new, call.changed list = some new →
          new.ver = 1 ∧ Counted WifiCred.zero new.count new.e := by
    cases call with
    | add ssid pass io =>
        cases ssid with
        | none => exact ⟨rfl, fun new added => by cases added⟩
        | some ssid => exact ok.add ssid pass io
    | remove index io =>
        simp only [ListCall.changed, ListCall.apply, ok.networks_length]
        by_cases inside : 0 ≤ index ∧ index < list.count
        · have counted : index.toNat < list.count := by omega
          have removed := ok.remove counted
          rw [if_pos inside, if_pos inside]
          refine ⟨congrArg some removed.1, ?_⟩
          intro new same
          cases same
          exact ⟨ok.version, removed.2⟩
        · rw [if_neg inside, if_neg inside]
          exact ⟨rfl, fun new removed => by cases removed⟩
    | clear io =>
        refine ⟨rfl, ?_⟩
        intro new cleared
        cases cleared
        exact ⟨rfl, Counted.empty⟩
  refine ⟨refines.1, ?_⟩
  intro new same
  obtain ⟨version, slots⟩ := refines.2 new same
  rw [same] at refines
  have kept := ok.kept.apply refines.1.symm
  exact ⟨version, slots, kept.named, kept.distinct⟩

end WifiList.Ok

/-! ## Runs of calls -/

namespace Saved

/-- The list and its blob after some calls. -/
def run (start : Saved) (calls : List ListCall) : Saved :=
  EventRun.run ListCall.step start calls

/-- Some call of the run is accepted. -/
def accepts : Saved → List ListCall → Bool
  | _, [] => false
  | s, call :: rest =>
    (call.changed s.list).isSome || accepts (call.step s) rest

/-- An empty list, and nothing stored. -/
def fresh : Saved := ⟨wifiListCleared, none⟩

theorem run_cons (start : Saved) (call : ListCall) (rest : List ListCall) :
    start.run (call :: rest) = (call.step start).run rest := rfl

end Saved

/-- A call does to the list what it does to its networks, and a call that is
rejected does nothing. -/
theorem ListCall.step_networks {s : Saved} (ok : s.list.Ok)
    (call : ListCall) :
    (call.step s).list.Ok ∧
      (call.step s).list.networks =
        (call.apply s.list.networks).getD s.list.networks ∧
      (call.apply s.list.networks = none → call.step s = s) := by
  obtain ⟨refines, keeps⟩ := ok.changed call
  rw [← refines]
  cases change : call.changed s.list with
  | none =>
      have same : call.step s = s := by
        simp only [step, change]
      rw [same]
      exact ⟨ok, rfl, fun _ => rfl⟩
  | some new =>
      have list : (call.step s).list = new := by
        simp only [step, change]
      rw [list]
      exact ⟨keeps new change, rfl, fun absent => by cases absent⟩

theorem ListCall.step_agrees {s : Saved} {call : ListCall}
    (writes : call.io = ⟨true, true⟩)
    (either : s.nvs = some s.list ∨ (call.changed s.list).isSome = true) :
    (call.step s).nvs = some (call.step s).list := by
  cases change : call.changed s.list with
  | none =>
      rw [change] at either
      have agreed : s.nvs = some s.list :=
        either.resolve_right Bool.false_ne_true
      simpa only [step, change] using agreed
  | some new =>
      simp only [step, change, writes, nvsListSave]
      rfl

namespace Saved

variable {start : Saved} {calls : List ListCall}

theorem run_ok (ok : start.list.Ok) (calls : List ListCall) :
    (start.run calls).list.Ok :=
  EventRun.run_invariant (fun s : Saved => s.list.Ok)
    (fun _ call ok => (call.step_networks ok).1) ok calls

theorem run_agrees (writes : ∀ call ∈ calls, call.io = ⟨true, true⟩)
    (either : start.nvs = some start.list ∨ start.accepts calls = true) :
    (start.run calls).nvs = some (start.run calls).list := by
  induction calls generalizing start with
  | nil =>
      exact either.resolve_right Bool.false_ne_true
  | cons call rest inductionHypothesis =>
      rw [run_cons]
      apply inductionHypothesis
      · exact fun other member => writes other (List.mem_cons_of_mem _ member)
      · have first := writes call List.mem_cons_self
        rcases either with agreed | accepted
        · exact Or.inl (ListCall.step_agrees first (Or.inl agreed))
        · rw [accepts, Bool.or_eq_true] at accepted
          rcases accepted with here | later
          · exact Or.inl (ListCall.step_agrees first (Or.inr here))
          · exact Or.inr later

theorem run_of_rejected (rejected : start.accepts calls = false) :
    start.run calls = start := by
  induction calls with
  | nil => rfl
  | cons call rest inductionHypothesis =>
      rw [accepts, Bool.or_eq_false_iff] at rejected
      have unchanged : call.step start = start := by
        have unaccepted := Option.isSome_eq_false_iff.mp rejected.1
        simp only [ListCall.step, Option.isNone_iff_eq_none.mp unaccepted]
      rw [run_cons, unchanged]
      rw [unchanged] at rejected
      exact inductionHypothesis rejected.2

end Saved

/-- Whatever calls are made of a list the bridge keeps: it stays one, each call
does to its networks what `ListCall.apply` says and nothing if it is rejected,
and once a call was accepted NVS holds the list, if every write succeeds. -/
theorem saved_list_kept {start : Saved} (ok : start.list.Ok)
    (calls : List ListCall) :
    (start.run calls).list.Ok ∧
      (∀ call : ListCall,
        (call.step (start.run calls)).list.networks =
            (call.apply (start.run calls).list.networks).getD
              (start.run calls).list.networks ∧
          (call.apply (start.run calls).list.networks = none →
            call.step (start.run calls) = start.run calls)) ∧
      ((∀ call ∈ calls, call.io = ⟨true, true⟩) →
        start.nvs = some start.list ∨ start.accepts calls = true →
          (start.run calls).nvs = some (start.run calls).list) ∧
      (start.accepts calls = false → start.run calls = start) ∧
      nvsListLoad ⟨true, true⟩ (some (start.run calls).list) =
        some (start.run calls).list := by
  have kept := Saved.run_ok ok calls
  exact
    ⟨kept, fun call => (call.step_networks kept).2, Saved.run_agrees,
      Saved.run_of_rejected, kept.reloads⟩

/-- A network is added, and a fourth one asked to be removed. -/
def addedOnce : List ListCall :=
  [.add (some [97]) none ⟨true, true⟩, .remove 3 ⟨true, true⟩]

theorem saved_list_kept_fresh :
    (Saved.fresh.run addedOnce).list.Ok ∧
      (Saved.fresh.run addedOnce).nvs =
        some (Saved.fresh.run addedOnce).list := by
  have empty : Saved.fresh.list.Ok := WifiList.cleared_ok
  have kept := saved_list_kept empty addedOnce
  exact ⟨kept.1, kept.2.2.1 (by decide) (Or.inr rfl)⟩

/-- A call that is rejected stores nothing where nothing was stored. -/
theorem nothing_stored_by_rejected :
    ¬ ∀ start : Saved,
      start = Saved.fresh ∨
          (start.list.Ok ∧
            nvsListLoad ⟨true, true⟩ start.nvs = some start.list) →
        ∀ (calls : List ListCall) (call : ListCall),
          (∀ each ∈ calls ++ [call], each.io = ⟨true, true⟩) →
            (start.run (calls ++ [call])).nvs =
              some (start.run (calls ++ [call])).list := by
  intro always
  have stored := always Saved.fresh (Or.inl rfl) []
    (.add none none ⟨true, true⟩) (by decide)
  cases stored

/-! ## The bridge -/

/-- What the bridge keeps of its list. -/
def Bridge.saved (s : Bridge) : Saved := ⟨s.wifi.wifiList, s.nvs⟩

/-- The call of the list API in an event. -/
def Event.listCall : Event → Option ListCall
  | webAdd io ssid pass => some (.add (some ssid) (some pass) io.nvs)
  | webDel io index => some (.remove index io.nvs)
  | webReset io => some (.clear io.nvs)
  | _ => none

section Nvs

variable (io : WifiIo) (s : Bridge)

@[simp]
theorem withWifi_nvs (wifi : Statics) : (s.withWifi wifi).nvs = s.nvs := rfl

@[simp]
theorem withDriver_nvs (driver : Driver) :
    (s.withDriver driver).nvs = s.nvs := rfl

@[simp]
theorem setAppState_nvs (st : AppState) : (s.setAppState st).nvs = s.nvs := rfl

@[simp]
theorem showCycle_nvs (st : AppState) : (s.showCycle st).nvs = s.nvs := rfl

@[simp]
theorem wifiScheduleRetry_nvs (delayMs : Nat) :
    (wifiScheduleRetry io delayMs s).nvs = s.nvs := by
  obtain ⟨running, arg, form⟩ := wifiScheduleRetry_form io s delayMs
  rw [form]

@[simp]
theorem wifiCycleFailed_nvs : (wifiCycleFailed io s).nvs = s.nvs := by
  obtain ⟨st, retries, delay, running, arg, form⟩ := wifiCycleFailed_form io s
  rw [form]

@[simp]
theorem wifiTryCandidate_nvs : (wifiTryCandidate io s).nvs = s.nvs := by
  simp only [wifiTryCandidate]
  split_ifs
  · simp
  · simp

@[simp]
theorem wifiConnectBegin_nvs : (wifiConnectBegin io s).nvs = s.nvs := by
  simp only [wifiConnectBegin, startScan]
  split_ifs
  · simp
  · rfl
  · simp
  · simp
  · simp

theorem handleScanDone_nvs : (handleScanDone io s).nvs = s.nvs := by
  simp only [handleScanDone]
  split_ifs
  · simp
  · simp
  · rfl

theorem NextAttempt.nvs {s' : Bridge} (next : NextAttempt io s s') :
    s'.nvs = s.nvs := by
  cases next with
  | abandons => simp
  | again present => simp
  | tries present => simp

theorem AfterLoss.nvs {st : AppState} {s' : Bridge}
    (after : AfterLoss io s st s') : s'.nvs = s.nvs := by
  cases after with
  | attempts next => exact next.nvs io s
  | fails =>
      rw [wifiCycleFailed_nvs, cycleExhausted]
      split
      · simp
      · rfl
  | empty nothing => simp
  | reconnects saved => simp
  | passes passedOver => rfl

theorem afterLoss_nvs (st : AppState) : (afterLoss io st s).nvs = s.nvs :=
  (afterLoss_cases io st s).nvs io s

/-- The cycle leaves the list and the blob alone. -/
theorem CycleFrame.saved {s s' : Bridge} (frame : CycleFrame s s')
    (nvs : s'.nvs = s.nvs) : s'.saved = s.saved := by
  rw [Bridge.saved, Bridge.saved, frame.wifiList, nvs]

theorem wifiConnectBegin_saved : (wifiConnectBegin io s).saved = s.saved :=
  (wifiConnectBegin_frame io s).saved (wifiConnectBegin_nvs io s)

theorem gwSafeTaskCreate_saved : (gwSafeTaskCreate io s).saved = s.saved := by
  rw [gwSafeTaskCreate]
  split_ifs
  · rfl
  · rfl

theorem gwWifiKickDeferred_saved :
    (gwWifiKickDeferred io s).saved = s.saved := by
  rw [gwWifiKickDeferred]
  split_ifs
  · rfl
  · exact gwSafeTaskCreate_saved io _

theorem startRecovery_saved : (startRecovery io s).saved = s.saved := by
  rw [startRecovery]
  split_ifs
  · rfl
  · exact gwSafeTaskCreate_saved io _

theorem wifiWatchdogCheck_saved :
    (wifiWatchdogCheck io s).saved = s.saved := by
  rw [wifiWatchdogCheck]
  split_ifs
  · exact startRecovery_saved io s
  · rfl
  · rfl

theorem handleDisconnected_saved :
    (handleDisconnected io s).saved = s.saved := by
  simp only [handleDisconnected]
  split_ifs
  · rfl
  · exact (afterLoss_frame io _ _).saved (afterLoss_nvs io _ _)

theorem handleGotIp_saved : (handleGotIp io s).saved = s.saved := by
  simp only [handleGotIp]
  split_ifs
  · rfl
  · rfl
  · rfl

/-! ### Web requests -/

theorem handlerWifiAdd_saved (ssid pass : List UInt8) :
    (handlerWifiAdd io ssid pass s).saved =
      (ListCall.add (some ssid) (some pass) io.nvs).step s.saved := by
  cases added : wifiListAdd s.wifi.wifiList (some ssid) (some pass) with
  | none =>
      simp only [handlerWifiAdd, added, ListCall.step, ListCall.changed,
        Bridge.saved]
  | some list =>
      simp only [handlerWifiAdd, ListCall.step, ListCall.changed, Bridge.saved,
        added]
      split_ifs
      · exact gwWifiKickDeferred_saved io _
      · rfl

theorem handlerWifiDel_saved (index : Int) :
    (handlerWifiDel io index s).saved =
      (ListCall.remove index io.nvs).step s.saved := by
  by_cases inside : 0 ≤ index ∧ index < s.wifiListCount
  · have removed :
        (ListCall.remove index io.nvs).changed s.saved.list =
          some (wifiListRemove s.wifi.wifiList index.toNat) := if_pos inside
    simp only [handlerWifiDel, if_pos inside, ListCall.step, removed]
    rfl
  · have rejected :
        (ListCall.remove index io.nvs).changed s.saved.list = none :=
      if_neg inside
    simp only [handlerWifiDel, if_neg inside, ListCall.step, rejected]

theorem wifiListClear_saved :
    (wifiListClear io s).saved = (ListCall.clear io.nvs).step s.saved := rfl

end Nvs

/-- An event of the bridge is a call of the list API, or leaves the list and
its blob alone. -/
theorem handle_saved (s : Bridge) (event : Event) :
    (s.handle event).saved =
      (event.listCall.map fun call => call.step s.saved).getD s.saved := by
  cases event with
  | webAdd io ssid pass => exact handlerWifiAdd_saved io s ssid pass
  | webDel io index => exact handlerWifiDel_saved io s index
  | webReset io => exact wifiListClear_saved io s
  | rfcommOpened => rfl
  | rfcommClosed => rfl
  | sessionStopped => rfl
  | pppUp io =>
      simp only [Bridge.handle, gwOnPppUp]
      split_ifs
      · rfl
      · rfl
      · exact gwWifiKickDeferred_saved io _
  | pppDown =>
      simp only [Bridge.handle, gwOnPppDown]
      split_ifs
      · rfl
      · rfl
  | retryWakes io =>
      simp only [Bridge.handle, wifiRetryTask]
      split_ifs
      · exact wifiConnectBegin_saved io _
      · rfl
      · rfl
  | kickWakes io =>
      simp only [Bridge.handle, wifiKickTask]
      split_ifs
      · exact wifiConnectBegin_saved io _
      · rfl
      · rfl
  | heartbeat io => exact wifiWatchdogCheck_saved io s
  | recoveryUnregisters =>
      simp only [Bridge.handle]
      split_ifs
      · rfl
      · rfl
  | recoveryFinishes io =>
      simp only [Bridge.handle, softResetFinish]
      split_ifs
      · exact wifiConnectBegin_saved io _
      · rfl
      · rfl
  | scanDone io =>
      simp only [Bridge.handle, Bridge.scanDone]
      split_ifs
      · exact (handleScanDone_frame io _).saved (handleScanDone_nvs io _)
      · rfl
  | disconnected io =>
      simp only [Bridge.handle, Bridge.disconnected]
      split_ifs
      · exact handleDisconnected_saved io _
      · rfl
  | gotIp io =>
      simp only [Bridge.handle, Bridge.gotIp]
      split_ifs
      · exact handleGotIp_saved io _
      · rfl

/-- Whatever happens to the bridge, its list stays one it keeps. -/
theorem run_saved_ok {start : Bridge} (ok : start.wifi.wifiList.Ok)
    (events : List Event) :
    (EventRun.run Bridge.step start events).wifi.wifiList.Ok := by
  apply EventRun.run_invariant
    (fun s : Bridge => s.wifi.wifiList.Ok) _ ok events
  intro s event ok
  rw [Bridge.step]
  split_ifs
  · exact ok
  · have saved := congrArg Saved.list (handle_saved s event)
    change (s.handle event).saved.list.Ok
    rw [saved]
    cases event.listCall with
    | none => exact ok
    | some call => exact (call.step_networks (s := s.saved) ok).1

/-- At boot the list is the one NVS holds, or an empty one. -/
theorem boot_saved_ok (io : WifiIo) (nvs : Option WifiList)
    (stored : ∀ list, nvsListLoad io.nvs nvs = some list → list.Ok) :
    (Bridge.boot io nvs).wifi.wifiList.Ok := by
  have loaded :
      ((nvsListLoad io.nvs nvs).getD { WifiList.zero with ver := 1 }).Ok := by
    cases load : nvsListLoad io.nvs nvs with
    | none => exact WifiList.cleared_ok
    | some list => exact stored list load
  simp only [Bridge.boot]
  split_ifs
  · rw [(wifiConnectBegin_frame io _).wifiList]
    exact loaded
  · exact loaded

/-- The bridge keeps its list from boot on, whatever happens. -/
theorem bridge_list_kept (io : WifiIo) (nvs : Option WifiList)
    (stored : ∀ list, nvsListLoad io.nvs nvs = some list → list.Ok)
    (events : List Event) :
    (EventRun.run Bridge.step (Bridge.boot io nvs) events).wifi.wifiList.Ok :=
  run_saved_ok (boot_saved_ok io nvs stored) events

end VeteraBridge.Wifi

import VeteraBridge.Bookmarks.Store
import VeteraBridge.Lib.EventRun

/-!
# The store is a list of bookmarks

Each call is specified once, for a store that may fault and for one that does
not: what it leaves at its end, and what NVS holds wherever it is cut.  A run
of calls on a healthy store then refines the same calls on a `BookmarkList`.
-/

namespace VeteraBridge.Bookmarks

open CrashLogic (Prog Outcome)

/-! ## A device that is up -/

/-- RAM and NVS agree on a list. -/
structure Shows (st : Statics) (nvs : Nvs) (list : BookmarkList) : Prop where
  statics : st = ⟨true, list.entries.length⟩
  represents : Represents nvs list

@[simp]
theorem Nvs.storedCount_setStr (nvs : Nvs) (key value : List UInt8) :
    (nvs.setStr key value).storedCount = nvs.storedCount := rfl

@[simp]
theorem Nvs.storedCount_eraseKey (nvs : Nvs) (key : List UInt8) :
    (nvs.eraseKey key).storedCount = nvs.storedCount := rfl

theorem Nvs.storedCount_setCount (nvs : Nvs) {count : Nat}
    (small : count ≤ bmMax) :
    (nvs.setCount (UInt8.ofNat count)).storedCount = count := by
  unfold bmMax at small
  simp only [setCount, storedCount, Option.getD_some, UInt8.toNat_ofNat']
  omega

/-- A boot finds the list NVS holds. -/
theorem Represents.init {nvs : Nvs} {list : BookmarkList}
    (represents : Represents nvs list) :
    Shows (bookmarksInit true nvs) nvs list := by
  have small : ¬ bmMax < list.entries.length := by
    have bounded := list.bounded
    omega
  refine ⟨?_, represents⟩
  simp [bookmarksInit, represents.count, small]

/-- `bookmarks_get` returns what was stored. -/
theorem Shows.get {st : Statics} {nvs : Nvs} {list : BookmarkList}
    (shows : Shows st nvs list) (index : Int) :
    bookmarksGet st nvs index = list.get index := by
  obtain ⟨rfl, represents⟩ := shows
  by_cases negative : index < 0
  · simp [bookmarksGet, BookmarkList.get, negative]
  by_cases outside : (list.entries.length : Int) ≤ index
  · have beyond : list.entries.length ≤ index.toNat := by omega
    simp [bookmarksGet, BookmarkList.get, negative, outside,
      List.getElem?_eq_none beyond]
  · obtain ⟨saved, stored⟩ :
        ∃ saved, list.entries[index.toNat]? = some saved :=
      ⟨_, List.getElem?_eq_getElem (by omega)⟩
    have found := represents.records.read stored
    simp [bookmarksGet, BookmarkList.get, negative, outside, found, stored,
      saved.split_record, saved.urlPresent]

/-! ## Slots while a bookmark is removed -/

/-- The slots when everything before slot `j` has moved up. -/
def shifted (entries : List SavedBookmark) (index j : Nat) :
    List SavedBookmark :=
  (entries.eraseIdx index).take j ++ entries.drop j

section Shifted

variable {entries : List SavedBookmark} {index j : Nat}

theorem shifted_getElem? (inside : index < entries.length)
    (within : j + 1 ≤ entries.length) (k : Nat) :
    (shifted entries index j)[k]? =
      if k < j then (entries.eraseIdx index)[k]? else entries[k]? := by
  have moved : ((entries.eraseIdx index).take j).length = j := by
    rw [List.length_take, List.length_eraseIdx_of_lt inside]
    omega
  by_cases before : k < j
  · rw [shifted, List.getElem?_append_left (by omega), if_pos before,
      List.getElem?_take_of_lt before]
  · rw [shifted, List.getElem?_append_right (by omega), if_neg before, moved,
      List.getElem?_drop]
    congr 1
    omega

theorem shifted_length (inside : index < entries.length)
    (within : j + 1 ≤ entries.length) :
    (shifted entries index j).length = entries.length := by
  rw [shifted, List.length_append, List.length_take, List.length_drop,
    List.length_eraseIdx_of_lt inside]
  omega

theorem shifted_start (inside : index < entries.length) :
    shifted entries index index = entries := by
  have front : (entries.take index).length = index :=
    List.length_take_of_le (by omega)
  rw [shifted, List.eraseIdx_eq_take_drop_succ,
    List.take_append_of_le_length (by omega), List.take_of_length_le (by omega),
    List.take_append_drop]

/-- One slot moves up. -/
theorem shifted_next (started : index ≤ j) (within : j + 1 < entries.length)
    {saved : SavedBookmark} (next : entries[j + 1]? = some saved) :
    (shifted entries index j).set j saved = shifted entries index (j + 1) := by
  have inside : index < entries.length := by omega
  apply List.ext_getElem?
  intro k
  rw [shifted_getElem? inside (by omega), List.getElem?_set,
    shifted_length inside (by omega), shifted_getElem? inside (by omega)]
  rcases Nat.lt_trichotomy k j with before | rfl | behind
  · have notHere : j ≠ k := by omega
    have soon : k < j + 1 := by omega
    simp only [notHere, before, soon, if_true, if_false]
  · have here : k < entries.length := by omega
    have moved : (entries.eraseIdx index)[k]? = entries[k + 1]? := by
      rw [List.getElem?_eraseIdx, if_neg (by omega)]
    simp [here, moved, next]
  · have notHere : j ≠ k := by omega
    have notYet : ¬ k < j := by omega
    have notNow : ¬ k < j + 1 := by omega
    simp only [notHere, notYet, notNow, if_false]

/-- The counted slots at the end of the shift. -/
theorem shifted_end (inside : index < entries.length) :
    entries.eraseIdx index <+: shifted entries index (entries.length - 1) := by
  have whole :
      (entries.eraseIdx index).take (entries.length - 1) =
        entries.eraseIdx index := by
    rw [List.take_of_length_le]
    rw [List.length_eraseIdx_of_lt inside]
  rw [shifted, whole]
  exact List.prefix_append _ _

theorem mem_shifted {saved : SavedBookmark}
    (member : saved ∈ shifted entries index j) : saved ∈ entries := by
  rcases List.mem_append.mp member with moved | still
  · exact (List.eraseIdx_sublist entries index).subset
      (List.mem_of_mem_take moved)
  · exact List.mem_of_mem_drop still

/-- Every entry but the removed one and the last is in a counted slot. -/
theorem mem_counted (inside : index < entries.length)
    (within : j + 1 ≤ entries.length) {k : Nat} {saved : SavedBookmark}
    (stored : entries[k]? = some saved) (kept : k ≠ index)
    (notLast : k + 1 ≠ entries.length) :
    saved ∈ (shifted entries index j).take (entries.length - 1) := by
  have small := (List.getElem?_eq_some_iff.mp stored).1
  -- where the entry is now: moved up one slot, or where it was
  obtain ⟨slot, counted, there⟩ :
      ∃ slot < entries.length - 1,
        (shifted entries index j)[slot]? = some saved := by
    by_cases moved : index < k ∧ k ≤ j
    · refine ⟨k - 1, by omega, ?_⟩
      rw [shifted_getElem? inside within, if_pos (by omega),
        List.getElem?_eraseIdx, if_neg (by omega),
        Nat.sub_add_cancel (by omega), stored]
    · refine ⟨k, by omega, ?_⟩
      rw [shifted_getElem? inside within]
      split
      · rw [List.getElem?_eraseIdx, if_pos (by omega), stored]
      · exact stored
  exact List.mem_of_getElem? (i := slot)
    ((List.getElem?_take_of_lt counted).trans there)

end Shifted

/-! ## What a call may leave -/

/-- The list a call may leave when it is cut or when a write fails. -/
def Call.MayLeave (old new : BookmarkList) (call : Call) : Prop :=
  match call with
  | .set _ _ _ => new = old ∨ new = (call.apply old).2
  | .remove index =>
    (∀ saved ∈ new.entries, saved ∈ old.entries) ∧
      ∀ (k : Nat) saved, old.entries[k]? = some saved →
        (k : Int) ≠ index → k + 1 ≠ old.entries.length →
        saved ∈ new.entries

theorem Call.mayLeave_refl (call : Call) (list : BookmarkList) :
    call.MayLeave list list := by
  cases call with
  | set index title url =>
      rw [MayLeave]
      exact Or.inl rfl
  | remove index =>
      rw [MayLeave]
      exact ⟨fun _ member => member,
        fun _ _ stored _ _ => List.mem_of_getElem? stored⟩

/-- The list with a part of the shift done. -/
def BookmarkList.partly (list : BookmarkList) (index j : Nat) : BookmarkList :=
  ⟨(shifted list.entries index j).take (list.entries.length - 1), by
    have bounded := list.bounded
    have counted :=
      List.length_take_le (list.entries.length - 1)
        (shifted list.entries index j)
    omega⟩

theorem BookmarkList.mayLeave_partly (list : BookmarkList) {index j : Nat}
    (inside : index < list.entries.length)
    (within : j + 1 ≤ list.entries.length) :
    (Call.remove index).MayLeave list (list.partly index j) := by
  rw [Call.MayLeave]
  constructor
  · intro saved member
    exact mem_shifted (List.mem_of_mem_take member)
  · intro k saved stored kept notLast
    exact mem_counted inside within stored (by omega) notLast

theorem BookmarkList.partly_end (list : BookmarkList) {index : Nat}
    (inside : index < list.entries.length) :
    list.partly index (list.entries.length - 1) = list.remove index := by
  have counted : (list.entries.eraseIdx index).length =
      list.entries.length - 1 := List.length_eraseIdx_of_lt inside
  have whole := List.prefix_iff_eq_take.mp (shifted_end inside)
  rw [counted] at whole
  rw [partly, remove, BookmarkList.mk.injEq, ← whole]

theorem BookmarkList.mayLeave_remove (list : BookmarkList) {index : Nat}
    (inside : index < list.entries.length) :
    (Call.remove index).MayLeave list (list.remove index) := by
  rw [← list.partly_end inside]
  exact list.mayLeave_partly inside (by omega)

/-! ## The loop of `bookmarks_remove` -/

/-- NVS in the middle of the shift: the new count, and some slots moved. -/
def Shifting (list : BookmarkList) (index : Nat) (nvs : Nvs) : Prop :=
  nvs.storedCount = list.entries.length - 1 ∧
    ∃ j, index ≤ j ∧ j + 1 ≤ list.entries.length ∧
      Records nvs (shifted list.entries index j)

theorem Shifting.represents {list : BookmarkList} {index : Nat} {nvs : Nvs}
    (shifting : Shifting list index nvs)
    (inside : index < list.entries.length) :
    ∃ left, (Call.remove index).MayLeave list left ∧ Represents nvs left := by
  obtain ⟨count, j, _, within, records⟩ := shifting
  refine ⟨list.partly index j,
    list.mayLeave_partly inside within, ?_, ?_⟩
  · rw [count, BookmarkList.partly, List.length_take,
      shifted_length inside within]
    omega
  · exact records.of_prefix (List.take_prefix _ _)

section Loop

variable {faults : Prop} {list : BookmarkList} {index : Nat}

/-- What the loop ends with. -/
def Shifted (faults : Prop) (list : BookmarkList) (index : Nat) (whole : Bool)
    (nvs : Nvs) : Prop :=
  (whole = true ∧ nvs.storedCount = list.entries.length - 1 ∧
      Records nvs (shifted list.entries index (list.entries.length - 1))) ∨
    (faults ∧ whole = false ∧ Shifting list index nvs)

/-- The loop from slot `j`. -/
theorem shift_meets (faults : Prop) (steps : Nat) {j : Nat} {nvs : Nvs}
    (started : index ≤ j)
    (left : j + steps + 1 = list.entries.length)
    (count : nvs.storedCount = list.entries.length - 1)
    (records : Records nvs (shifted list.entries index j)) :
    (shift j steps).Meets faults (Shifting list index)
      (Shifted faults list index) nvs := by
  have bounded := list.bounded
  unfold bmMax at bounded
  induction steps generalizing j nvs with
  | zero =>
      have final : j = list.entries.length - 1 := by omega
      subst final
      exact Or.inl ⟨rfl, count, records⟩
  | succ steps inductionHypothesis =>
      have inside : index < list.entries.length := by omega
      obtain ⟨saved, next⟩ : ∃ saved, list.entries[j + 1]? = some saved :=
        ⟨_, List.getElem?_eq_getElem (by omega)⟩
      have notMoved :
          (shifted list.entries index j)[j + 1]? = some saved := by
        rw [shifted_getElem? inside (by omega), if_neg (by omega), next]
      have here : Shifting list index nvs :=
        ⟨count, j, started, by omega, records⟩
      have written := records.write j (by omega)
        (by rw [shifted_length inside (by omega)]; omega) saved
      rw [shifted_next started (by omega) next] at written
      have onward :=
        @inductionHypothesis (j + 1)
          (nvs.setStr (entryKey j) (record saved.toBookmark))
          (by omega) (by omega) count written
      simp only [shift, Prog.reads, Prog.read_bind, Prog.done_bind,
        Prog.meets_read, records.read notMoved, rawWrite, Prog.writes,
        Prog.write_bind, Prog.meets_write, if_true]
      refine ⟨onward, ?_⟩
      intro faulty
      refine ⟨here, ?_, ?_⟩
      · exact Or.inr ⟨faulty, rfl, here⟩
      · exact fun _ => ⟨here, Or.inr ⟨faulty, rfl, here⟩⟩

end Loop

/-! ## The calls -/

/-- NVS holds a list the call may leave. -/
def Call.Leaves (list : BookmarkList) (call : Call) (nvs : Nvs) : Prop :=
  ∃ left, call.MayLeave list left ∧ Represents nvs left

/-- The call did what it does to the list, or a write failed. -/
def Call.Ends (faults : Prop) (list : BookmarkList) (call : Call)
    (result : Bool × Statics) (nvs : Nvs) : Prop :=
  (result.1 = (call.apply list).1 ∧ Shows result.2 nvs (call.apply list).2) ∨
    (faults ∧ result.1 = false ∧ call.Leaves list nvs)

section Calls

variable {faults : Prop} {st : Statics} {nvs : Nvs} {list : BookmarkList}

/-- What `saveEntry` leaves, in terms of the call. -/
theorem Call.leaves_set {index : Int} {title url : Option (List UInt8)}
    {new : BookmarkList}
    (after : (Call.apply list (.set index title url)).2 = new)
    (either : Represents nvs list ∨ Represents nvs new) :
    (Call.set index title url).Leaves list nvs := by
  rcases either with before | changed
  · exact ⟨list, Call.mayLeave_refl _ list, before⟩
  · refine ⟨new, ?_, changed⟩
    rw [Call.MayLeave]
    exact Or.inr after.symm

theorem Call.ends_set {index : Int} {title url : Option (List UInt8)}
    {new : BookmarkList} {result : Bool × Statics}
    (accepted : (Call.apply list (.set index title url)).1 = true)
    (after : (Call.apply list (.set index title url)).2 = new)
    (ends :
      (result.1 = true ∧ Shows result.2 nvs new) ∨
        (faults ∧ result.1 = false ∧
          (Represents nvs list ∨ Represents nvs new))) :
    (Call.set index title url).Ends faults list result nvs := by
  rcases ends with ⟨succeeded, shows⟩ | ⟨faulty, failed, either⟩
  · exact Or.inl ⟨succeeded.trans accepted.symm, after.symm ▸ shows⟩
  · exact Or.inr ⟨faulty, failed, Call.leaves_set after either⟩

/-- A call that is turned away does nothing. -/
theorem Call.prog_of_rejected (call : Call)
    (statics : st = ⟨true, list.entries.length⟩)
    (rejected : (call.apply list).1 = false) :
    call.prog st = .done (false, st) ∧ (call.apply list).2 = list := by
  subst statics
  have bounded := list.bounded
  cases call with
  | set index title url =>
      cases address : url.bind fun url => normalizeUrl url bmUrlMax with
      | none =>
          have refused : url.bind (SavedBookmark.ofInput title) = none := by
            cases url with
            | none => rfl
            | some url => exact SavedBookmark.ofInput_eq_none address
          simp [Call.prog, bookmarksSet, Call.apply, address, refused]
      | some cleanUrl =>
          obtain ⟨url, rfl, accepted⟩ := Option.bind_eq_some_iff.mp address
          obtain ⟨saved, made, _⟩ :=
            SavedBookmark.ofInput_eq_some title accepted
          simp only [Call.apply, Option.bind_some, made] at rejected ⊢
          by_cases append : index < 0
          · have full : bmMax ≤ list.entries.length := by
              by_contra room
              simp [append, not_le.mp room] at rejected
            simp [Call.prog, bookmarksSet, accepted, append, full,
              not_lt.mpr full]
          · have outside : (list.entries.length : Int) ≤ index := by
              by_contra inside
              simp [append, not_le.mp inside] at rejected
            simp [Call.prog, bookmarksSet, accepted, append, outside,
              not_lt.mpr outside]
  | remove index =>
      have outside : index < 0 ∨ (list.entries.length : Int) ≤ index := by
        by_contra inside
        simp only [not_or, not_lt, not_le] at inside
        simp [Call.apply, inside] at rejected
      have refused : ¬ (0 ≤ index ∧ index < list.entries.length) := by omega
      simp [Call.prog, bookmarksRemove, Call.apply, outside, refused]

/-- What `bookmarks_set` does when it is not turned away. -/
theorem Call.set_accepted {index : Int} {title url : Option (List UInt8)}
    (statics : st = ⟨true, list.entries.length⟩)
    (accepted : (Call.apply list (.set index title url)).1 = true) :
    ∃ saved : SavedBookmark, url.bind (SavedBookmark.ofInput title) = some saved ∧
      ((index < 0 ∧ ∃ room : list.entries.length < bmMax,
        bookmarksSet st index title url =
          saveEntry st true st.bmCount (record saved.toBookmark) ∧
        (Call.apply list (.set index title url)).2 = list.append saved room) ∨
      (¬ index < 0 ∧ index.toNat < list.entries.length ∧
        bookmarksSet st index title url =
          saveEntry st false index.toNat (record saved.toBookmark) ∧
        (Call.apply list (.set index title url)).2 =
          list.replace index.toNat saved)) := by
  subst statics
  cases made : url.bind (SavedBookmark.ofInput title) with
  | none =>
      simp [Call.apply, made] at accepted
  | some saved =>
      obtain ⟨url, rfl, ofInput⟩ := Option.bind_eq_some_iff.mp made
      obtain ⟨cleanUrl, address, same⟩ := saved.of_ofInput ofInput
      refine ⟨saved, rfl, ?_⟩
      simp only [Call.apply, Option.bind_some, ofInput] at accepted ⊢
      by_cases append : index < 0
      · have room : list.entries.length < bmMax := by
          by_contra full
          simp [append, full] at accepted
        exact Or.inl ⟨append, room, by
          simp [bookmarksSet, address, append, not_le.mpr room, same], by
          simp [append, room]⟩
      · have inside : index < list.entries.length := by
          by_contra outside
          simp [append, outside] at accepted
        exact Or.inr ⟨append, by omega, by
          simp [bookmarksSet, address, append, not_le.mpr inside, same], by
          simp [append, inside]⟩

/-- When an append passes its checks. -/
theorem Call.append_accepted_iff (list : BookmarkList)
    (title url : Option (List UInt8)) {index : Int} (append : index < 0) :
    (Call.apply list (.set index title url)).1 = true ↔
      (url.bind fun url => normalizeUrl url bmUrlMax).isSome ∧
        list.entries.length < bmMax := by
  cases address : url.bind fun url => normalizeUrl url bmUrlMax with
  | none =>
      have refused : url.bind (SavedBookmark.ofInput title) = none := by
        cases url with
        | none => rfl
        | some url => exact SavedBookmark.ofInput_eq_none address
      simp [Call.apply, refused]
  | some cleanUrl =>
      obtain ⟨url, rfl, accepted⟩ := Option.bind_eq_some_iff.mp address
      obtain ⟨saved, made, _⟩ :=
        SavedBookmark.ofInput_eq_some title accepted
      by_cases room : list.entries.length < bmMax
      · simp [Call.apply, made, append, room]
      · simp [Call.apply, made, append, room]

/-- What `bookmarks_remove` does when it is not turned away. -/
theorem Call.remove_accepted {index : Int}
    (accepted : (Call.apply list (.remove index)).1 = true) :
    ∃ slot : Nat, index = slot ∧ slot < list.entries.length ∧
      (Call.apply list (.remove index)).2 = list.remove slot := by
  have inside : 0 ≤ index ∧ index < list.entries.length := by
    by_contra outside
    simp [Call.apply, outside] at accepted
  refine ⟨index.toNat, by omega, by omega, ?_⟩
  simp [Call.apply, inside]

/-- A call that is carried out leaves what it may leave. -/
theorem Call.mayLeave_apply (call : Call) (list : BookmarkList) :
    call.MayLeave list (call.apply list).2 := by
  cases result : (call.apply list).1 with
  | false =>
      rw [(call.prog_of_rejected rfl result).2]
      exact call.mayLeave_refl list
  | true =>
      cases call with
      | set index title url =>
          rw [MayLeave]
          exact Or.inr rfl
      | remove index =>
          obtain ⟨slot, rfl, inside, after⟩ := Call.remove_accepted result
          rw [after]
          exact list.mayLeave_remove inside

/-- `saveEntry` behind the last slot. -/
theorem append_meets (shows : Shows st nvs list) (saved : SavedBookmark)
    (room : list.entries.length < bmMax) :
    (saveEntry st true st.bmCount (record saved.toBookmark)).Meets faults
      (fun nvs => Represents nvs list ∨ Represents nvs (list.append saved room))
      (fun result nvs =>
        (result.1 = true ∧ Shows result.2 nvs (list.append saved room)) ∨
          (faults ∧ result.1 = false ∧
            (Represents nvs list ∨ Represents nvs (list.append saved room))))
      nvs := by
  obtain ⟨rfl, represents⟩ := shows
  have small : list.entries.length < 100 := by
    unfold bmMax at room
    omega
  have written := represents.records.write_next small saved
  have before :
      Represents (nvs.setStr (entryKey list.entries.length)
        (record saved.toBookmark)) list :=
    ⟨represents.count, written.of_prefix (List.prefix_append _ _)⟩
  have after :
      Represents ((nvs.setStr (entryKey list.entries.length)
        (record saved.toBookmark)).setCount
          (UInt8.ofNat (list.entries.length + 1)))
        (list.append saved room) := by
    refine ⟨?_, written⟩
    rw [Nvs.storedCount_setCount _ room]
    simp [BookmarkList.append]
  have shows :
      Shows ⟨true, list.entries.length + 1⟩
        ((nvs.setStr (entryKey list.entries.length)
          (record saved.toBookmark)).setCount
            (UInt8.ofNat (list.entries.length + 1)))
        (list.append saved room) :=
    ⟨by simp [BookmarkList.append], after⟩
  simp [saveEntry, rawWrite, countWrite, nvsCommit, Prog.writes, shows,
    represents, before, after, -UInt8.ofNat_add]

/-- `saveEntry` over a slot. -/
theorem replace_meets (shows : Shows st nvs list) (saved : SavedBookmark)
    {index : Nat} (inside : index < list.entries.length) :
    (saveEntry st false index (record saved.toBookmark)).Meets faults
      (fun nvs => Represents nvs list ∨ Represents nvs (list.replace index saved))
      (fun result nvs =>
        (result.1 = true ∧ Shows result.2 nvs (list.replace index saved)) ∨
          (faults ∧ result.1 = false ∧
            (Shows result.2 nvs list ∨
              Shows result.2 nvs (list.replace index saved)))) nvs := by
  have unchanged := shows
  obtain ⟨rfl, represents⟩ := shows
  have bounded := list.bounded
  unfold bmMax at bounded
  have after :
      Represents (nvs.setStr (entryKey index) (record saved.toBookmark))
        (list.replace index saved) := by
    refine ⟨?_, represents.records.write index (by omega) (by omega) saved⟩
    rw [Nvs.storedCount_setStr, represents.count]
    simp [BookmarkList.replace]
  have shows :
      Shows ⟨true, list.entries.length⟩
        (nvs.setStr (entryKey index) (record saved.toBookmark))
        (list.replace index saved) :=
    ⟨by simp [BookmarkList.replace], after⟩
  simp [saveEntry, rawWrite, nvsCommit, Prog.writes, shows, represents, after,
    unchanged]

theorem remove_meets (shows : Shows st nvs list) {index : Nat}
    (inside : index < list.entries.length) :
    (bookmarksRemove st index).Meets faults
      ((Call.remove index).Leaves list)
      (fun result nvs =>
        (result.1 = true ∧ Shows result.2 nvs (list.remove index)) ∨
          (faults ∧ result.1 = false ∧
            ∃ left, (Call.remove index).MayLeave list left ∧
              Shows result.2 nvs left)) nvs := by
  obtain ⟨rfl, represents⟩ := shows
  have bounded := list.bounded
  have accepted :
      ¬ (true = false ∨ (index : Int) < 0 ∨
        (list.entries.length : Int) ≤ (index : Int)) := by
    simp only [Bool.true_eq_false, false_or]
    omega
  have untouched := (Call.remove index).mayLeave_refl list
  have counted :
      (nvs.setCount (UInt8.ofNat (list.entries.length - 1))).storedCount =
        list.entries.length - 1 :=
    Nvs.storedCount_setCount nvs (by omega)
  have unmoved :
      Records (nvs.setCount (UInt8.ofNat (list.entries.length - 1)))
        (shifted list.entries index index) := by
    rw [shifted_start inside]
    exact represents.records
  rw [bookmarksRemove, if_neg accepted]
  simp only [countWrite, Prog.writes, Prog.write_bind, Prog.done_bind,
    Prog.meets_write, if_true, Int.toNat_natCast]
  refine ⟨?_, fun faulty => ⟨⟨list, untouched, represents⟩, ?_⟩⟩
  · refine Prog.Meets.bind (Shifted faults list index) ?_ ?_
    · have loop :=
        shift_meets faults (list.entries.length - 1 - index)
          le_rfl (by omega) counted unmoved
      exact loop.mono (fun _ shifting => shifting.represents inside)
        (fun _ _ ends => ends)
    · intro whole nvs ended
      rcases ended with ⟨rfl, count, records⟩ | ⟨faulty, rfl, shifting⟩
      · have length :
            (list.remove index).entries.length = list.entries.length - 1 :=
          List.length_eraseIdx_of_lt inside
        have final : Represents nvs (list.remove index) :=
          ⟨count.trans length.symm, records.of_prefix (shifted_end inside)⟩
        have erased :
            Represents
              (nvs.eraseKey (entryKey (list.entries.length - 1)))
              (list.remove index) := by
          refine ⟨final.count, final.records.erase ?_ length.le⟩
          unfold bmMax at bounded
          omega
        have may := list.mayLeave_remove inside
        have statics :
            (⟨true, list.entries.length - 1⟩ : Statics) =
              ⟨true, (list.remove index).entries.length⟩ := by
          rw [length]
        have shows := Shows.mk statics final
        have showsErased := Shows.mk statics erased
        have leaves : (Call.remove index).Leaves list nvs :=
          ⟨list.remove index, may, final⟩
        have leavesErased :
            (Call.remove index).Leaves list
              (nvs.eraseKey (entryKey (list.entries.length - 1))) :=
          ⟨list.remove index, may, erased⟩
        simp only [nvsEraseKey, nvsCommit, Prog.writes, Prog.write_bind,
          Prog.done_bind, Prog.pure_eq, Prog.meets_write, Prog.meets_done,
          if_true, id_eq]
        refine ⟨⟨Or.inl ⟨trivial, showsErased⟩, fun faulty => ⟨leavesErased, ?_⟩⟩,
          fun faulty => ⟨leaves, Or.inl ⟨trivial, shows⟩,
            fun _ => ⟨leaves, ?_⟩⟩⟩
        · exact Or.inr ⟨faulty, trivial, list.remove index, may, showsErased⟩
        · exact Or.inr ⟨faulty, trivial, list.remove index, may, shows⟩
      · obtain ⟨left, may, stored⟩ := shifting.represents inside
        have statics :
            (⟨true, list.entries.length - 1⟩ : Statics) =
              ⟨true, left.entries.length⟩ := by
          rw [← shifting.1, stored.count]
        exact Or.inr ⟨faulty, rfl, left, may, statics, stored⟩
  · exact Or.inr ⟨faulty, rfl, list, untouched, rfl, represents⟩

/-- What every call ends with, and what it may be cut at. -/
theorem Call.meets (call : Call) (shows : Shows st nvs list) :
    (call.prog st).Meets faults (call.Leaves list) (call.Ends faults list)
      nvs := by
  cases result : (call.apply list).1 with
  | false =>
      obtain ⟨nothing, same⟩ :=
        call.prog_of_rejected shows.statics result
      rw [nothing, Prog.meets_done]
      exact Or.inl ⟨result.symm, same.symm ▸ shows⟩
  | true =>
      cases call with
      | set index title url =>
          obtain ⟨saved, _,
              ⟨_, room, prog, after⟩ | ⟨_, inside, prog, after⟩⟩ :=
            Call.set_accepted shows.statics result
          · rw [Call.prog, prog]
            apply (append_meets shows saved room).mono
            · exact fun nvs either => Call.leaves_set after either
            · exact fun _ nvs ends => Call.ends_set result after ends
          · rw [Call.prog, prog]
            apply (replace_meets shows saved inside).mono
            · exact fun nvs either => Call.leaves_set after either
            · intro ended nvs ends
              apply Call.ends_set result after
              exact ends.imp_right fun failed =>
                ⟨failed.1, failed.2.1,
                  failed.2.2.imp Shows.represents Shows.represents⟩
      | remove index =>
          obtain ⟨slot, rfl, inside, after⟩ := Call.remove_accepted result
          rw [Call.prog]
          apply (remove_meets shows inside).mono
          · exact fun _ leaves => leaves
          · intro ended nvs ends
            rcases ends with ⟨succeeded, shows⟩ | ⟨faulty, failed, left⟩
            · exact Or.inl ⟨succeeded.trans result.symm, after.symm ▸ shows⟩
            · obtain ⟨left, may, shows⟩ := left
              exact Or.inr ⟨faulty, failed, left, may, shows.represents⟩

end Calls

/-! ## Devices -/

/-- RAM and NVS. -/
structure Device where
  st : Statics
  nvs : Nvs

namespace Device

def boot (nvs : Nvs) : Device := ⟨bookmarksInit true nvs, nvs⟩

/-- A call whose writes fare as planned, and its result unless the power was
cut; after a cut the device boots. -/
def perform (d : Device) (call : Call) (plan : List Outcome) :
    Option Bool × Device :=
  match (call.prog d.st).run plan d.nvs with
  | (some (result, st), nvs) => (some result, ⟨st, nvs⟩)
  | (none, nvs) => (none, boot nvs)

def step (d : Device) (call : Call) : Device := (d.perform call []).2

def Shows (d : Device) (list : BookmarkList) : Prop :=
  Bookmarks.Shows d.st d.nvs list

variable {d : Device} {list : BookmarkList}

/-- A call on a healthy store does what it does to the list. -/
theorem Shows.perform (shows : d.Shows list) (call : Call) :
    (d.perform call []).1 = some (call.apply list).1 ∧
      (d.step call).Shows (call.apply list).2 := by
  have meets : (call.prog d.st).Meets False _ _ d.nvs := call.meets shows
  obtain ⟨result, nvs, ran, ends⟩ := meets.of_healthy_run
  have done : d.perform call [] = (some result.1, ⟨result.2, nvs⟩) := by
    rw [Device.perform, ran]
  obtain ⟨succeeded, after⟩ := ends.resolve_right fun faulty => faulty.1
  rw [step, done, succeeded]
  exact ⟨rfl, after⟩

/-- A call that is turned away leaves the device as it was. -/
theorem Shows.perform_rejected (shows : d.Shows list) {call : Call}
    (rejected : (call.apply list).1 = false) : d.step call = d := by
  obtain ⟨nothing, _⟩ := call.prog_of_rejected shows.statics rejected
  rw [step, Device.perform, nothing]
  rfl

end Device

/-- A namespace without a count. -/
def Nvs.fresh (str : List UInt8 → Option (List UInt8)) : Nvs := ⟨none, str⟩

theorem Device.shows_fresh (str : List UInt8 → Option (List UInt8)) :
    (Device.boot (Nvs.fresh str)).Shows BookmarkList.empty := by
  apply Represents.init
  refine ⟨rfl, ?_⟩
  intro i saved stored
  cases stored

/-- After any calls on a healthy store the device shows the list these calls
make: the next call returns what it returns on the list and changes nothing
when it is turned away, every index reads as in the list, and a boot finds the
same list. -/
theorem store_refines_list (str : List UInt8 → Option (List UInt8))
    (calls : List Call) :
    let d := EventRun.run Device.step (Device.boot (Nvs.fresh str)) calls
    let list :=
      EventRun.run (fun list (call : Call) => (call.apply list).2)
        BookmarkList.empty calls
    d.st.bmCount = list.entries.length ∧
      (∀ index, bookmarksGet d.st d.nvs index = list.get index) ∧
      bookmarksInit true d.nvs = d.st ∧
      ∀ call : Call,
        (d.perform call []).1 = some (call.apply list).1 ∧
          ((call.apply list).1 = false → d.step call = d) := by
  have shows :
      (EventRun.run Device.step (Device.boot (Nvs.fresh str)) calls).Shows
        (EventRun.run (fun list (call : Call) => (call.apply list).2)
          BookmarkList.empty calls) := by
    induction calls using List.reverseRecOn with
    | nil =>
        exact Device.shows_fresh str
    | append_singleton earlier call inductionHypothesis =>
        rw [EventRun.run_snoc, EventRun.run_snoc]
        exact (inductionHypothesis.perform call).2
  refine ⟨by rw [shows.statics], shows.get, ?_, ?_⟩
  · rw [shows.represents.init.statics, shows.statics]
  · exact fun call =>
      ⟨(shows.perform call).1, fun rejected => shows.perform_rejected rejected⟩

end VeteraBridge.Bookmarks

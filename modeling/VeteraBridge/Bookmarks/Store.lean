import VeteraBridge.Bookmarks.Text
import VeteraBridge.Lib.CrashLogic

/-!
# The bookmark store

The operations of `bookmarks.c` as programs over NVS.  `BookmarkList` says what
the store is for, a list of at most `bmMax` bookmarks; `Represents` ties the
keys of NVS to such a list.
-/

namespace VeteraBridge.Bookmarks

open Proxy (ascii cstr)
open CrashLogic (Prog)

/-- The keys `bookmarks.c` uses in its namespace: the count and the
strings. -/
structure Nvs where
  bmc : Option UInt8
  str : List UInt8 → Option (List UInt8)

namespace Nvs

/-- `nvs_get_str` into a buffer of `n` bytes. -/
def getStr (nvs : Nvs) (key : List UInt8) (n : Nat) : Option (List UInt8) :=
  (nvs.str key).filter (·.length < n)

def setStr (nvs : Nvs) (key value : List UInt8) : Nvs :=
  { nvs with str := Function.update nvs.str key (some (cstr value)) }

def setCount (nvs : Nvs) (count : UInt8) : Nvs := { nvs with bmc := some count }

def eraseKey (nvs : Nvs) (key : List UInt8) : Nvs :=
  { nvs with str := Function.update nvs.str key none }

/-- The count a boot reads. -/
def storedCount (nvs : Nvs) : Nat := (nvs.bmc.getD 0).toNat

end Nvs

/-- The two static variables: whether `bm_nvs` is open, and `bm_count`. -/
structure Statics where
  bmNvs : Bool
  bmCount : Nat
deriving DecidableEq, Repr

/-- `entry_key`: "bm" and two digits. -/
def entryKey (index : Nat) : List UInt8 :=
  ascii "bm" ++
    [UInt8.ofNat (48 + index % 100 / 10), UInt8.ofNat (48 + index % 100 % 10)]

/-! ## Access to NVS -/

def rawRead (nvs : Nvs) (index n : Nat) : Option (List UInt8) :=
  nvs.getStr (entryKey index) n

def rawWrite (index : Nat) (raw : List UInt8) : Prog Nvs Bool :=
  Prog.writes fun nvs => nvs.setStr (entryKey index) raw

def countWrite (count : Nat) : Prog Nvs Bool :=
  Prog.writes fun nvs => nvs.setCount (UInt8.ofNat count)

def nvsCommit : Prog Nvs Bool := Prog.writes id

def nvsEraseKey (key : List UInt8) : Prog Nvs Bool :=
  Prog.writes fun nvs => nvs.eraseKey key

/-! ## The API -/

/-- `bookmarks_init`. -/
def bookmarksInit (opened : Bool) (nvs : Nvs) : Statics :=
  if opened then
    { bmNvs := true
      bmCount := if bmMax < nvs.storedCount then bmMax else nvs.storedCount }
  else
    { bmNvs := false, bmCount := 0 }

/-- `bookmarks_get`, `none` for false. -/
def bookmarksGet (st : Statics) (nvs : Nvs) (index : Int) : Option Bookmark :=
  if st.bmNvs = false ∨ index < 0 ∨ (st.bmCount : Int) ≤ index then none
  else
    ((rawRead nvs index.toNat bmRawMax).map splitRecord).filter
      fun out => out.url ≠ []

/-- The end of `bookmarks_set`: the entry, then the count for an append, then
the commit. -/
def saveEntry (st : Statics) (append : Bool) (index : Nat) (raw : List UInt8) :
    Prog Nvs (Bool × Statics) := do
  let written ← rawWrite index raw
  let counted ← if written && append then countWrite (index + 1) else pure written
  let committed ← if counted then nvsCommit else pure counted
  if committed then
    pure (true, if append then { st with bmCount := index + 1 } else st)
  else
    pure (false, st)

/-- `bookmarks_set`; the strings are `none` for `NULL`. -/
def bookmarksSet (st : Statics) (index : Int)
    (title url : Option (List UInt8)) : Prog Nvs (Bool × Statics) :=
  match st.bmNvs, url.bind fun url => normalizeUrl url bmUrlMax with
  | true, some cleanUrl =>
    let raw := record ⟨sanitize (title.getD []) bmTitleMax, cleanUrl⟩
    if index < 0 then
      if bmMax ≤ st.bmCount then pure (false, st)
      else saveEntry st true st.bmCount raw
    else if (st.bmCount : Int) ≤ index then pure (false, st)
    else saveEntry st false index.toNat raw
  | _, _ => pure (false, st)

/-- The loop of `bookmarks_remove` from slot `j`, `steps` slots long: false
when a write fails. -/
def shift : Nat → Nat → Prog Nvs Bool
  | _, 0 => pure true
  | j, steps + 1 => do
    let raw ← Prog.reads fun nvs => rawRead nvs (j + 1) bmRawMax
    match raw with
    | none => shift (j + 1) steps
    | some raw =>
      if ← rawWrite j raw then shift (j + 1) steps
      else
        let _ ← nvsCommit
        pure false

/-- `bookmarks_remove`. -/
def bookmarksRemove (st : Statics) (index : Int) : Prog Nvs (Bool × Statics) :=
  if st.bmNvs = false ∨ index < 0 ∨ (st.bmCount : Int) ≤ index then
    pure (false, st)
  else do
    let last := st.bmCount - 1
    if ← countWrite last then
      let st := { st with bmCount := last }
      if ← shift index.toNat (last - index.toNat) then
        let _ ← nvsEraseKey (entryKey last)
        let committed ← nvsCommit
        pure (committed, st)
      else
        pure (false, st)
    else
      pure (false, st)

/-- A call of the web page. -/
inductive Call where
  | set (index : Int) (title url : Option (List UInt8))
  | remove (index : Int)
deriving DecidableEq, Repr

def Call.prog (st : Statics) : Call → Prog Nvs (Bool × Statics)
  | .set index title url => bookmarksSet st index title url
  | .remove index => bookmarksRemove st index

/-! ## What the store is for -/

/-- At most `bmMax` bookmarks. -/
structure BookmarkList where
  entries : List SavedBookmark
  bounded : entries.length ≤ bmMax

namespace BookmarkList

def empty : BookmarkList := ⟨[], Nat.zero_le bmMax⟩

def append (list : BookmarkList) (saved : SavedBookmark)
    (room : list.entries.length < bmMax) : BookmarkList :=
  ⟨list.entries ++ [saved], by simpa [Nat.succ_le_iff] using room⟩

def replace (list : BookmarkList) (index : Nat) (saved : SavedBookmark) :
    BookmarkList :=
  ⟨list.entries.set index saved, by simpa using list.bounded⟩

def remove (list : BookmarkList) (index : Nat) : BookmarkList :=
  ⟨list.entries.eraseIdx index,
    (List.length_eraseIdx_le list.entries index).trans list.bounded⟩

/-- What the web page reads at an index. -/
def get (list : BookmarkList) (index : Int) : Option Bookmark :=
  if index < 0 then none
  else list.entries[index.toNat]?.map SavedBookmark.toBookmark

end BookmarkList

/-- A call on the list: its result and the list it leaves. -/
def Call.apply (list : BookmarkList) : Call → Bool × BookmarkList
  | .set index title url =>
    match url.bind (SavedBookmark.ofInput title) with
    | none => (false, list)
    | some saved =>
      if index < 0 then
        if room : list.entries.length < bmMax then
          (true, list.append saved room)
        else
          (false, list)
      else if index < list.entries.length then
        (true, list.replace index.toNat saved)
      else
        (false, list)
  | .remove index =>
    if 0 ≤ index ∧ index < list.entries.length then
      (true, list.remove index.toNat)
    else
      (false, list)

/-! ## Keys -/

theorem entryKey_inj {i j : Nat} (iSmall : i < 100) (jSmall : j < 100) :
    entryKey i = entryKey j ↔ i = j := by
  refine ⟨?_, fun same => same ▸ rfl⟩
  intro same
  obtain ⟨tens, ones⟩ := List.cons_eq_cons.mp (List.append_cancel_left same)
  obtain ⟨ones, _⟩ := List.cons_eq_cons.mp ones
  have tens := congrArg UInt8.toNat tens
  have ones := congrArg UInt8.toNat ones
  simp only [UInt8.toNat_ofNat'] at tens ones
  omega

/-- The slots of NVS hold the records of a list of bookmarks. -/
def Records (nvs : Nvs) (slots : List SavedBookmark) : Prop :=
  ∀ i saved, slots[i]? = some saved →
    nvs.str (entryKey i) = some (record saved.toBookmark)

/-- NVS holds a list: its records and their number. -/
structure Represents (nvs : Nvs) (list : BookmarkList) : Prop where
  count : nvs.storedCount = list.entries.length
  records : Records nvs list.entries

namespace Records

variable {nvs : Nvs} {slots : List SavedBookmark}

theorem read (records : Records nvs slots) {i : Nat} {saved : SavedBookmark}
    (stored : slots[i]? = some saved) :
    rawRead nvs i bmRawMax = some (record saved.toBookmark) := by
  rw [rawRead, Nvs.getStr, records i saved stored, Option.filter_some,
    if_pos (decide_eq_true saved.record_length)]

theorem of_prefix (records : Records nvs slots) {front : List SavedBookmark}
    (within : front <+: slots) : Records nvs front := by
  intro i saved stored
  obtain ⟨inside, rfl⟩ := List.getElem?_eq_some_iff.mp stored
  exact records i _ (List.prefix_iff_getElem?.mp within i inside)

/-- Writing one slot. -/
theorem write (records : Records nvs slots) (index : Nat)
    (small : index < 100) (few : slots.length ≤ 100) (saved : SavedBookmark) :
    Records (nvs.setStr (entryKey index) (record saved.toBookmark))
      (slots.set index saved) := by
  intro i found stored
  by_cases here : i = index
  · subst here
    obtain ⟨inside, same⟩ := List.getElem?_eq_some_iff.mp stored
    rw [List.getElem_set_self] at same
    subst same
    simp [Nvs.setStr, saved.cstr_record]
  · rw [List.getElem?_set_ne (Ne.symm here)] at stored
    have inside := (List.getElem?_eq_some_iff.mp stored).1
    have other : entryKey i ≠ entryKey index := by
      rwa [Ne, entryKey_inj (by omega) small]
    simpa [Nvs.setStr, Function.update_of_ne other] using
      records i found stored

/-- Writing the slot behind the last. -/
theorem write_next (records : Records nvs slots) (few : slots.length < 100)
    (saved : SavedBookmark) :
    Records (nvs.setStr (entryKey slots.length) (record saved.toBookmark))
      (slots ++ [saved]) := by
  intro i found stored
  rcases Nat.lt_trichotomy i slots.length with before | here | behind
  · rw [List.getElem?_append_left before] at stored
    have other : entryKey i ≠ entryKey slots.length := by
      rw [Ne, entryKey_inj (by omega) few]
      omega
    simpa [Nvs.setStr, Function.update_of_ne other] using
      records i found stored
  · subst here
    rw [List.getElem?_concat_length] at stored
    cases stored
    simp [Nvs.setStr, saved.cstr_record]
  · rw [List.getElem?_eq_none (by simpa [Nat.succ_le_iff] using behind)] at stored
    cases stored

/-- Erasing a slot no record is in. -/
theorem erase (records : Records nvs slots) {index : Nat} (small : index < 100)
    (behind : slots.length ≤ index) :
    Records (nvs.eraseKey (entryKey index)) slots := by
  intro i found stored
  have inside := (List.getElem?_eq_some_iff.mp stored).1
  have other : entryKey i ≠ entryKey index := by
    rw [Ne, entryKey_inj (by omega) small]
    omega
  simpa [Nvs.eraseKey, Function.update_of_ne other] using
    records i found stored

end Records

end VeteraBridge.Bookmarks

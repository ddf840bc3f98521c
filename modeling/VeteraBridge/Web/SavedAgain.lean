import VeteraBridge.Bookmarks.Address
import VeteraBridge.Bookmarks.Refinement
import VeteraBridge.Gateway.DeviceName

/-!
# Saved again as it was read

A bookmark or the device name is read on its page and saved again without a
change.  Its texts are cleaned once more; nothing is left to be cleaned in them
unless a control character hid a space behind the leading blanks.
-/

namespace VeteraBridge.Web

open Bookmarks
open Cleaning (Clean Exposes Trims)
open Gateway (DeviceName btNameClean btNameCustomMax nvsNameSave)
open Proxy (ascii cstr cstr_eq_self_iff space isBlank)

/-! ## Titles -/

/-- A space ends up in front of a text that `sanitize` cleans into `n` bytes:
behind its leading blanks the text begins with control characters and a space,
and among the characters that fit there is another than a space. -/
def ExposesSpace (text : List UInt8) (n : Nat) : Prop :=
  Exposes isBlank isKept space (n - 1) (cstr text)

theorem sanitize_sanitize (src : List UInt8) (n : Nat) :
    sanitize (sanitize src n) n =
      Cleaning.clean isBlank isKept space (n - 1) (sanitize src n) := by
  rw [sanitize_eq_clean (sanitize src n), cstr_of_plain (sanitize_plain src n)]

theorem sanitize_again_iff (src : List UInt8) (n : Nat) :
    sanitize (sanitize src n) n = sanitize src n ↔ ¬ ExposesSpace src n := by
  rw [sanitize_sanitize]
  exact Cleaning.clean_again_iff sanitize_trims

theorem sanitize_clean_iff (src : List UInt8) (n : Nat) :
    Clean isKept space (n - 1) (sanitize src n) ↔ ¬ ExposesSpace src n :=
  Cleaning.clean_iff sanitize_trims

/-! ## Bookmarks -/

section Bookmarks

variable {d : Device} {list : BookmarkList}

/-- The index a bookmark is stored at. -/
def slotOf (d : Device) (index : Int) : Nat :=
  if index < 0 then d.st.bmCount else index.toNat

/-- A bookmark that was saved is read where it was stored. -/
theorem set_then_get (shows : d.Shows list) {index : Int}
    {title : Option (List UInt8)} {url : List UInt8}
    (accepted : (d.perform (.set index title (some url)) []).1 = some true) :
    ∃ (saved : SavedBookmark) (after : BookmarkList),
      SavedBookmark.ofInput title url = some saved ∧
        (d.step (.set index title (some url))).Shows after ∧
        after.entries[slotOf d index]? = some saved := by
  obtain ⟨result, step⟩ := shows.perform (.set index title (some url))
  rw [accepted] at result
  have applied := (Option.some.inj result).symm
  obtain ⟨saved, made, ⟨append, room, _, after⟩ |
    ⟨inside, within, _, after⟩⟩ := Call.set_accepted shows.statics applied
  · refine ⟨saved, _, made, step, ?_⟩
    rw [after, slotOf, if_pos append, shows.statics]
    exact List.getElem?_concat_length
  · refine ⟨saved, _, made, step, ?_⟩
    rw [after, slotOf, if_neg inside]
    exact List.getElem?_set_self within

/-- The bookmark at an index is read and saved there again. -/
def saveBookmarkAgain (d : Device) (index : Nat) : Device :=
  ((bookmarksGet d.st d.nvs index).map fun b =>
    d.step (.set index (some b.title) (some b.url))).getD d

theorem get_of_shows {index : Nat} (shows : d.Shows list) :
    bookmarksGet d.st d.nvs index =
      list.entries[index]?.map SavedBookmark.toBookmark := by
  have positive : ¬ (index : Int) < 0 :=
    Int.not_lt.mpr (Int.natCast_nonneg index)
  rw [Shows.get shows, BookmarkList.get, if_neg positive, Int.toNat_natCast]

/-- A bookmark with an address that can be stored is replaced. -/
theorem step_set {index : Nat} (shows : d.Shows list)
    (inside : index < list.entries.length) {title : Option (List UInt8)}
    {url : List UInt8} {saved : SavedBookmark}
    (made : SavedBookmark.ofInput title url = some saved) :
    (d.step (.set index title (some url))).Shows
      (list.replace index saved) := by
  have applied :
      (Call.apply list (.set index title (some url))).2 =
        list.replace index saved := by
    have positive : ¬ (index : Int) < 0 :=
      Int.not_lt.mpr (Int.natCast_nonneg index)
    have within : (index : Int) < list.entries.length :=
      Int.ofNat_lt.mpr inside
    simp only [Call.apply, Option.bind_some, made, if_neg positive,
      if_pos within, Int.toNat_natCast]
  rw [← applied]
  exact (shows.perform _).2

/-- A bookmark that is read and saved again stays as it is unless its title,
as it was first given, hides a space. -/
theorem bookmark_again_iff (shows : d.Shows list) {index : Int}
    {title : Option (List UInt8)} {url : List UInt8}
    (accepted : (d.perform (.set index title (some url)) []).1 = some true) :
    let once := d.step (.set index title (some url))
    let again := saveBookmarkAgain once (slotOf d index)
    bookmarksGet again.st again.nvs (slotOf d index) =
        bookmarksGet once.st once.nvs (slotOf d index) ↔
      ¬ ExposesSpace (title.getD []) bmTitleMax := by
  obtain ⟨saved, after, made, showsOnce, there⟩ := set_then_get shows accepted
  obtain ⟨cleanUrl, address, fields⟩ := saved.of_ofInput made
  have inside := (List.getElem?_eq_some_iff.mp there).1
  have addressAgain : normalizeUrl saved.url bmUrlMax = some saved.url := by
    have isUrl : saved.url = cleanUrl := congrArg Bookmark.url fields
    rw [isUrl]
    exact normalizeUrl_again address
  obtain ⟨second, madeAgain, fieldsAgain⟩ :=
    SavedBookmark.ofInput_eq_some (some saved.title) addressAgain
  have showsAgain := step_set showsOnce inside madeAgain
  have read :
      bookmarksGet (d.step (.set index title (some url))).st
          (d.step (.set index title (some url))).nvs (slotOf d index) =
        some saved.toBookmark := by
    rw [get_of_shows showsOnce, there, Option.map_some]
  dsimp only
  rw [saveBookmarkAgain, read, Option.map_some, Option.getD_some,
    get_of_shows showsAgain, BookmarkList.replace,
    List.getElem?_set_self inside, Option.map_some, fieldsAgain,
    ← sanitize_again_iff]
  have savedTitle : saved.title = sanitize (title.getD []) bmTitleMax :=
    congrArg Bookmark.title fields
  rw [← savedTitle, Option.some.injEq]
  constructor
  · exact congrArg Bookmark.title
  · intro same
    rw [Option.getD_some, same]

end Bookmarks

/-! ## Device names -/

/-- Printable ASCII. -/
def isPrintable (c : UInt8) : Bool := 0x20 ≤ c && c ≤ 0x7E

theorem btName_trims : Trims (· == space) isPrintable space where
  leadBlank := by decide
  keepBlank := by decide
  onlyBlank := fun _ isLead _ => beq_iff_eq.mp isLead

/-- A space ends up in front of a name that `bt_name_set` cleans. -/
def NameExposesSpace (name : List UInt8) : Prop :=
  Exposes (· == space) isPrintable space btNameCustomMax (cstr name)

theorem btNameClean_eq (name : List UInt8) :
    btNameClean (some name) =
      Cleaning.clean (· == space) isPrintable space btNameCustomMax
        (cstr name) := rfl

theorem btNameClean_text (name : List UInt8) :
    cstr (btNameClean (some name)) = btNameClean (some name) := by
  rw [cstr_eq_self_iff]
  intro member
  exact absurd (Cleaning.clean_plain 0 member) (by decide)

theorem btNameClean_again_iff (name : List UInt8) :
    btNameClean (some (btNameClean (some name))) = btNameClean (some name) ↔
      ¬ NameExposesSpace name := by
  rw [btNameClean_eq (btNameClean (some name)), btNameClean_text]
  exact Cleaning.clean_again_iff btName_trims

theorem btNameClean_clean_iff (name : List UInt8) :
    Clean isPrintable space btNameCustomMax (btNameClean (some name)) ↔
      ¬ NameExposesSpace name :=
  Cleaning.clean_iff btName_trims

/-- `bt_name_set`, all of it. -/
def nameSaved (s : DeviceName) (opened written : Bool) (name : List UInt8) :
    DeviceName :=
  EventRun.run DeviceName.step s
    [.set (some name), .web opened written, .web opened written,
      .web opened written]

theorem nameSaved_eq {s : DeviceName} (idle : s.web = .idle)
    (opened written : Bool) (name : List UInt8) :
    (nameSaved s opened written name).value = btNameClean (some name) ∧
      (nameSaved s opened written name).nvs =
        nvsNameSave opened written s.nvs (btNameClean (some name)) ∧
      (nameSaved s opened written name).web = .idle := by
  have fits := Gateway.nameFits_clean (some name)
  rw [Gateway.NameFits] at fits
  cases already : s.applyPending with
  | true =>
      simp [nameSaved, EventRun.run, DeviceName.step, DeviceName.btNameSet,
        DeviceName.webStep, Gateway.Setting.webSet, Gateway.Setting.webStep,
        idle, already, fits]
  | false =>
      simp [nameSaved, EventRun.run, DeviceName.step, DeviceName.btNameSet,
        DeviceName.webStep, Gateway.Setting.webSet, Gateway.Setting.webStep,
        idle, already, fits]

/-- A name that is read and saved again stays as it is, in RAM and in NVS,
unless it hid a space when it was first given. -/
theorem name_again_iff {s : DeviceName} (idle : s.web = .idle)
    (opened written : Bool) (name : List UInt8) :
    let once := nameSaved s true true name
    let again := nameSaved once opened written once.value
    (again.value = once.value ∧ again.nvs = once.nvs) ↔
      ¬ NameExposesSpace name := by
  obtain ⟨value, nvs, rests⟩ := nameSaved_eq idle true true name
  obtain ⟨valueAgain, nvsAgain, _⟩ :=
    nameSaved_eq rests opened written (nameSaved s true true name).value
  dsimp only
  rw [valueAgain, nvsAgain, value, ← btNameClean_again_iff]
  constructor
  · exact And.left
  · intro same
    refine ⟨same, ?_⟩
    -- whether the second save is written or not, NVS holds the same name
    rw [same, nvs, nvsNameSave, nvsNameSave]
    cases opened && written <;> rfl

/-! ## All of them -/

/-- What `sanitize` and `bt_name_set` make of a text is clean and stays as it is
when it is cleaned again, and a bookmark or the name that is read and saved
again stays as it is, exactly unless a space was hidden in the text. -/
theorem cleaned_stays_iff (text : List UInt8) (n : Nat) :
    ((Clean isKept space (n - 1) (sanitize text n) ∧
        sanitize (sanitize text n) n = sanitize text n) ↔
      ¬ ExposesSpace text n) ∧
      ((Clean isPrintable space btNameCustomMax (btNameClean (some text)) ∧
          btNameClean (some (btNameClean (some text))) =
            btNameClean (some text)) ↔
        ¬ NameExposesSpace text) ∧
      (∀ (d : Device) (list : BookmarkList) (index : Int)
          (title : Option (List UInt8)) (url : List UInt8),
        d.Shows list → title.getD [] = text →
          (d.perform (.set index title (some url)) []).1 = some true →
            let once := d.step (.set index title (some url))
            let again := saveBookmarkAgain once (slotOf d index)
            bookmarksGet again.st again.nvs (slotOf d index) =
                bookmarksGet once.st once.nvs (slotOf d index) ↔
              ¬ ExposesSpace text bmTitleMax) ∧
      (∀ (s : DeviceName) (opened written : Bool), s.web = .idle →
        let once := nameSaved s true true text
        let again := nameSaved once opened written once.value
        (again.value = once.value ∧ again.nvs = once.nvs) ↔
          ¬ NameExposesSpace text) := by
  refine ⟨?_, ?_, ?_, ?_⟩
  · rw [sanitize_clean_iff, sanitize_again_iff, and_self]
  · rw [btNameClean_clean_iff, btNameClean_again_iff, and_self]
  · intro d list index title url shows isText accepted
    rw [← isText]
    exact bookmark_again_iff shows accepted
  · intro s opened written idle
    exact name_again_iff idle opened written text

/-- The bookmark "news" on a new device, and the name "news". -/
theorem cleaned_stays_news :
    let d := Device.boot (Nvs.fresh fun _ => none)
    let set := Call.set (-1) (some (ascii "news")) (some (ascii "a.com"))
    let once := d.step set
    let again := saveBookmarkAgain once 0
    let named := nameSaved (DeviceName.boot true none) true true (ascii "news")
    bookmarksGet again.st again.nvs 0 = bookmarksGet once.st once.nvs 0 ∧
      (nameSaved named true true named.value).nvs = named.nvs := by
  have title : ¬ ExposesSpace (ascii "news") bmTitleMax :=
    (sanitize_again_iff _ _).mp (by decide)
  have name : ¬ NameExposesSpace (ascii "news") :=
    (btNameClean_again_iff _).mp (by decide)
  obtain ⟨_, _, bookmark, device⟩ := cleaned_stays_iff (ascii "news") bmTitleMax
  exact ⟨(bookmark _ _ (-1) (some (ascii "news")) (ascii "a.com")
      (Device.shows_fresh _) rfl (by decide)).mpr title,
    ((device _ true true rfl).mpr name).2⟩

/-- A control character, a space and an "a". -/
theorem hidden_space_moves :
    let text : List UInt8 := [0x01, 0x20, 0x61]
    ¬ Clean isKept space (bmTitleMax - 1) (sanitize text bmTitleMax) ∧
      sanitize (sanitize text bmTitleMax) bmTitleMax ≠
        sanitize text bmTitleMax ∧
      btNameClean (some (btNameClean (some text))) ≠
        btNameClean (some text) := by
  refine ⟨?_, by decide, by decide⟩
  intro isClean
  exact absurd isClean.head (by decide)

end VeteraBridge.Web

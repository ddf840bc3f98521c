import Mathlib.Data.List.Infix
import VeteraBridge.Proxy.Request

/-!
# Titles, addresses and records of bookmarks

`bookmarks.c` cleans what the web page submits, makes an address absolute and
keeps a bookmark as one string, title and address separated by a line feed.
`SavedBookmark` is a bookmark that survives this: the record of such a bookmark
reads back as it was.
-/

namespace VeteraBridge.Bookmarks

open Proxy (ascii cstr strlcpy lf space isBlank tolower memchr)

def bmMax : Nat := 24

/-- `BM_TITLE_MAX` and `BM_URL_MAX`, including the NUL. -/
def bmTitleMax : Nat := 32

def bmUrlMax : Nat := 160

/-- `BM_RAW_MAX`. -/
def bmRawMax : Nat := bmTitleMax + bmUrlMax

/-- `bookmark_t`: the two strings. -/
structure Bookmark where
  title : List UInt8
  url : List UInt8
deriving DecidableEq, Repr

/-! ## Sanitizing -/

def isControl (c : UInt8) : Bool := c < 0x20 || c == 0x7F

/-- `sanitize` into a buffer of `n` bytes. -/
def sanitize (src : List UInt8) (n : Nat) : List UInt8 :=
  let text := (cstr src).dropWhile isBlank
  ((text.filter fun c => !isControl c).take (n - 1)).rdropWhile (· == space)

/-- `starts_with_ci`. -/
def startsWithCi : List UInt8 → List UInt8 → Bool
  | _, [] => true
  | [], _ :: _ => false
  | c :: text, p :: wanted => tolower c == tolower p && startsWithCi text wanted

def isdigit (c : UInt8) : Bool := 48 ≤ c && c ≤ 57

/-- `is_bare_host`: no colon before the path, or a numeric port. -/
def isBareHost (s : List UInt8) : Bool :=
  let slash := memchr s 47
  match memchr s 58 with
  | none => true
  | some colon =>
    if slash.any (· < colon) then true
    else
      let port := (s.take (slash.getD s.length)).drop (colon + 1)
      !port.isEmpty && port.all isdigit

/-- The string `strlcat(dst, src, size)` leaves in `dst`. -/
def strlcat (dst src : List UInt8) (size : Nat) : List UInt8 :=
  (dst ++ cstr src).take (size - 1)

/-- `normalize_url` into a buffer of `n` bytes, `none` for false. -/
def normalizeUrl (input : List UInt8) (n : Nat) : Option (List UInt8) :=
  let clean := sanitize input (bmUrlMax * 2)
  if clean = [] then none
  else if n ≤ clean.length then none
  else if ¬ ascii "://" <:+: clean then
    if isBareHost clean = false then none
    else if n ≤ clean.length + 7 then none
    else some (strlcat (strlcpy (ascii "http://") n) clean n)
  else if startsWithCi clean (ascii "http://") = false ∧
      startsWithCi clean (ascii "https://") = false then
    none
  else
    some (strlcpy clean n)

theorem sanitize_plain (src : List UInt8) (n : Nat) :
    ∀ c ∈ sanitize src n, isControl c = false := by
  intro c member
  have kept := (List.rdropWhile_prefix _ _).subset member
  have filtered := List.mem_of_mem_take kept
  simpa using (List.mem_filter.mp filtered).2

theorem sanitize_length (src : List UInt8) (n : Nat) :
    (sanitize src n).length ≤ n - 1 := by
  have trimmed := (List.rdropWhile_prefix (· == space)
    ((((cstr src).dropWhile isBlank).filter fun c => !isControl c).take
      (n - 1))).length_le
  exact trimmed.trans (List.length_take_le _ _)

/-- Text without control characters is a C string. -/
theorem cstr_of_plain {text : List UInt8}
    (plain : ∀ c ∈ text, isControl c = false) : cstr text = text := by
  apply List.takeWhile_eq_self_iff.mpr
  intro c member
  have notControl := plain c member
  simp only [decide_eq_true_eq]
  rintro rfl
  exact absurd notControl (by decide)

theorem not_mem_lf_of_plain {text : List UInt8}
    (plain : ∀ c ∈ text, isControl c = false) : lf ∉ text := by
  intro member
  exact absurd (plain lf member) (by decide)

theorem strlcpy_of_short {text : List UInt8} {size : Nat}
    (plain : ∀ c ∈ text, isControl c = false) (short : text.length < size) :
    strlcpy text size = text := by
  rw [strlcpy, cstr_of_plain plain, List.take_of_length_le (by omega)]

/-- An accepted address fits its buffer whole: cleaned, and with a scheme if
it had none. -/
theorem normalizeUrl_cases {input url : List UInt8}
    (accepted : normalizeUrl input bmUrlMax = some url) :
    sanitize input (bmUrlMax * 2) ≠ [] ∧ url.length < bmUrlMax ∧
      (url = sanitize input (bmUrlMax * 2) ∨
        url = ascii "http://" ++ sanitize input (bmUrlMax * 2)) := by
  have plain := sanitize_plain input (bmUrlMax * 2)
  unfold normalizeUrl at accepted
  generalize sanitize input (bmUrlMax * 2) = clean at accepted plain ⊢
  simp only [Option.ite_none_left_eq_some, not_le] at accepted
  obtain ⟨present, fits, accepted⟩ := accepted
  refine ⟨present, ?_⟩
  split at accepted
  · simp only [Option.ite_none_left_eq_some, not_le, Option.some.injEq]
      at accepted
    obtain ⟨_, room, rfl⟩ := accepted
    have scheme : strlcpy (ascii "http://") bmUrlMax = ascii "http://" := by
      decide
    have length : (ascii "http://").length = 7 := by decide
    have whole :
        strlcat (ascii "http://") clean bmUrlMax = ascii "http://" ++ clean := by
      rw [strlcat, cstr_of_plain plain, List.take_of_length_le]
      rw [List.length_append, length]
      omega
    rw [scheme, whole]
    refine ⟨?_, Or.inr rfl⟩
    rw [List.length_append, length]
    omega
  · simp only [Option.ite_none_left_eq_some, Option.some.injEq] at accepted
    obtain ⟨_, rfl⟩ := accepted
    rw [strlcpy_of_short plain fits]
    exact ⟨fits, Or.inl rfl⟩

theorem scheme_plain : ∀ c ∈ ascii "http://", isControl c = false := by
  have each : (ascii "http://").all (fun c => !isControl c) = true := by decide
  simpa [List.all_eq_true] using each

theorem normalizeUrl_plain {input url : List UInt8}
    (accepted : normalizeUrl input bmUrlMax = some url) :
    ∀ c ∈ url, isControl c = false := by
  have plain := sanitize_plain input (bmUrlMax * 2)
  obtain ⟨_, _, rfl | rfl⟩ := normalizeUrl_cases accepted
  · exact plain
  · intro c member
    rcases List.mem_append.mp member with scheme | rest
    · exact scheme_plain c scheme
    · exact plain c rest

theorem normalizeUrl_present {input url : List UInt8}
    (accepted : normalizeUrl input bmUrlMax = some url) : url ≠ [] := by
  obtain ⟨present, _, rfl | rfl⟩ := normalizeUrl_cases accepted
  · exact present
  · exact List.append_ne_nil_of_right_ne_nil _ present

/-! ## Records -/

/-- `snprintf(raw, sizeof(raw), "%s\n%s", clean_title, clean_url)`. -/
def record (b : Bookmark) : List UInt8 :=
  (cstr b.title ++ lf :: cstr b.url).take (bmRawMax - 1)

/-- What `bookmarks_get` makes of a record. -/
def splitRecord (raw : List UInt8) : Bookmark :=
  match memchr raw lf with
  | some sep =>
      ⟨strlcpy (raw.take sep) bmTitleMax, strlcpy (raw.drop (sep + 1)) bmUrlMax⟩
  | none => ⟨[], strlcpy raw bmUrlMax⟩

/-- A bookmark as `bookmarks_set` stores it. -/
structure SavedBookmark extends Bookmark where
  titleShort : title.length < bmTitleMax
  titlePlain : ∀ c ∈ title, isControl c = false
  urlShort : url.length < bmUrlMax
  urlPlain : ∀ c ∈ url, isControl c = false
  urlPresent : url ≠ []
deriving DecidableEq

/-- The bookmark a title and an address make, if the address is accepted. -/
def SavedBookmark.ofInput (title : Option (List UInt8)) (url : List UInt8) :
    Option SavedBookmark :=
  match accepted : normalizeUrl url bmUrlMax with
  | none => none
  | some cleanUrl => some
    { title := sanitize (title.getD []) bmTitleMax
      url := cleanUrl
      titleShort := by
        have fits := sanitize_length (title.getD []) bmTitleMax
        have positive : 0 < bmTitleMax := by decide
        omega
      titlePlain := sanitize_plain (title.getD []) bmTitleMax
      urlShort := (normalizeUrl_cases accepted).2.1
      urlPlain := normalizeUrl_plain accepted
      urlPresent := normalizeUrl_present accepted }

theorem SavedBookmark.ofInput_eq_none {title : Option (List UInt8)}
    {url : List UInt8} (rejected : normalizeUrl url bmUrlMax = none) :
    ofInput title url = none := by
  unfold ofInput
  split
  · rfl
  · rename_i accepted
    exact absurd (rejected.symm.trans accepted) (by simp)

theorem SavedBookmark.ofInput_eq_some (title : Option (List UInt8))
    {url cleanUrl : List UInt8}
    (accepted : normalizeUrl url bmUrlMax = some cleanUrl) :
    ∃ saved : SavedBookmark, ofInput title url = some saved ∧
      saved.toBookmark = ⟨sanitize (title.getD []) bmTitleMax, cleanUrl⟩ := by
  unfold ofInput
  split
  · rename_i rejected
    exact absurd (rejected.symm.trans accepted) (by simp)
  · rename_i found same
    cases Option.some.inj (same.symm.trans accepted)
    exact ⟨_, rfl, rfl⟩

namespace SavedBookmark

theorem of_ofInput {title : Option (List UInt8)} {url : List UInt8}
    (saved : SavedBookmark) (made : ofInput title url = some saved) :
    ∃ cleanUrl, normalizeUrl url bmUrlMax = some cleanUrl ∧
      saved.toBookmark = ⟨sanitize (title.getD []) bmTitleMax, cleanUrl⟩ := by
  cases accepted : normalizeUrl url bmUrlMax with
  | none =>
      rw [ofInput_eq_none accepted] at made
      cases made
  | some cleanUrl =>
      obtain ⟨found, same, fields⟩ := ofInput_eq_some title accepted
      rw [made] at same
      cases same
      exact ⟨cleanUrl, rfl, fields⟩

/-- The record of a saved bookmark is not cut. -/
theorem record_eq (saved : SavedBookmark) :
    record saved.toBookmark = saved.title ++ lf :: saved.url := by
  have titleShort := saved.titleShort
  have urlShort := saved.urlShort
  unfold bmTitleMax at titleShort
  unfold bmUrlMax at urlShort
  rw [record, cstr_of_plain saved.titlePlain, cstr_of_plain saved.urlPlain]
  apply List.take_of_length_le
  simp only [List.length_append, List.length_cons, bmRawMax, bmTitleMax,
    bmUrlMax]
  omega

theorem record_length (saved : SavedBookmark) :
    (record saved.toBookmark).length < bmRawMax := by
  have titleShort := saved.titleShort
  have urlShort := saved.urlShort
  rw [record_eq, List.length_append, List.length_cons, bmRawMax]
  omega

theorem cstr_record (saved : SavedBookmark) :
    cstr (record saved.toBookmark) = record saved.toBookmark := by
  rw [record_eq]
  apply List.takeWhile_eq_self_iff.mpr
  intro c member
  have nonzero : c ≠ 0 := by
    rintro rfl
    rcases List.mem_append.mp member with inTitle | inRest
    · exact absurd (saved.titlePlain 0 inTitle) (by decide)
    · rcases List.mem_cons.mp inRest with isLf | inUrl
      · exact absurd isLf (by decide)
      · exact absurd (saved.urlPlain 0 inUrl) (by decide)
  simpa using nonzero

theorem memchr_record (saved : SavedBookmark) :
    memchr (record saved.toBookmark) lf = some saved.title.length := by
  have none : lf ∉ saved.title := not_mem_lf_of_plain saved.titlePlain
  rw [record_eq, memchr, List.findIdx?_append]
  have absent : List.findIdx? (· == lf) saved.title = Option.none := by
    apply List.findIdx?_eq_none_iff.mpr
    intro c member
    simpa using fun same : c = lf => none (same ▸ member)
  simp [absent, List.findIdx?_cons]

/-- A record reads back as the bookmark it was made from. -/
theorem split_record (saved : SavedBookmark) :
    splitRecord (record saved.toBookmark) = saved.toBookmark := by
  have title : strlcpy saved.title bmTitleMax = saved.title :=
    strlcpy_of_short saved.titlePlain saved.titleShort
  have url : strlcpy saved.url bmUrlMax = saved.url :=
    strlcpy_of_short saved.urlPlain saved.urlShort
  rw [splitRecord, memchr_record]
  simp [record_eq, title, url]

end SavedBookmark

end VeteraBridge.Bookmarks

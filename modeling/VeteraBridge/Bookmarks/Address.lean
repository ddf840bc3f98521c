import VeteraBridge.Bookmarks.Text
import VeteraBridge.Lib.Cleaning

/-!
# Addresses

What `normalize_url` accepts and what it stores: the cleaned address, behind
`http://` if it shows no scheme of its own.  The address is cleaned into a
buffer twice the size of what can be stored, so that one that is too long is
turned away; only one whose rest is cut where blanks stand is shortened.
-/

namespace VeteraBridge.Bookmarks

open Proxy (ascii cstr cstr_eq_self_iff strlcpy space isBlank tolower memchr)
open Cleaning (Clean Trims kept)

/-! ## Cleaning -/

/-- The characters `sanitize` keeps. -/
def isKept (c : UInt8) : Bool := !isControl c

theorem sanitize_eq_clean (src : List UInt8) (n : Nat) :
    sanitize src n =
      Cleaning.clean isBlank isKept space (n - 1) (cstr src) := rfl

theorem sanitize_trims : Trims isBlank isKept space where
  leadBlank := by decide
  keepBlank := by decide
  onlyBlank := by
    intro c isLead keeps
    rw [isBlank, Bool.or_eq_true, beq_iff_eq, beq_iff_eq] at isLead
    rcases isLead with isSpace | isTab
    · exact isSpace
    · rw [isTab] at keeps
      exact absurd keeps (by decide)

/-- `sanitize` with a buffer that holds everything. -/
def sanitizeWhole (src : List UInt8) : List UInt8 :=
  (kept isBlank isKept (cstr src)).rdropWhile (· == space)

/-- A text in which nothing is left to be cleaned is stored as it is. -/
theorem sanitize_of_clean {text : List UInt8} {n : Nat}
    (isClean : Clean isKept space (n - 1) text) : sanitize text n = text := by
  have plain : ∀ c ∈ text, isControl c = false := by
    intro c member
    simpa [isKept] using isClean.plain c member
  rw [sanitize_eq_clean, cstr_of_plain plain]
  exact isClean.clean_eq sanitize_trims

/-! ## What is accepted -/

/-- The text begins with `http://` or `https://`, in any letter case. -/
def HasScheme (text : List UInt8) : Prop :=
  startsWithCi text (ascii "http://") = true ∨
    startsWithCi text (ascii "https://") = true

/-- What `normalize_url` stores of a cleaned address. -/
def Stores (clean url : List UInt8) : Prop :=
  (ascii "://" <:+: clean ∧ HasScheme clean ∧ clean.length < bmUrlMax ∧
      url = clean) ∨
    (¬ ascii "://" <:+: clean ∧ isBareHost clean = true ∧
      clean.length + 7 < bmUrlMax ∧ url = ascii "http://" ++ clean)

theorem http_length : (ascii "http://").length = 7 := by decide

theorem strlcat_http {clean : List UInt8} {n : Nat}
    (plain : ∀ c ∈ clean, isControl c = false) (fits : clean.length + 7 < n) :
    strlcat (strlcpy (ascii "http://") n) clean n =
      ascii "http://" ++ clean := by
  have scheme : strlcpy (ascii "http://") n = ascii "http://" :=
    strlcpy_of_short scheme_plain (by rw [http_length]; omega)
  rw [scheme, strlcat, cstr_of_plain plain, List.take_of_length_le]
  rw [List.length_append, http_length]
  omega

theorem normalizeUrl_iff (input url : List UInt8) :
    normalizeUrl input bmUrlMax = some url ↔
      sanitize input (bmUrlMax * 2) ≠ [] ∧
        Stores (sanitize input (bmUrlMax * 2)) url := by
  have plain := sanitize_plain input (bmUrlMax * 2)
  rw [normalizeUrl, Stores, HasScheme]
  generalize sanitize input (bmUrlMax * 2) = clean at plain ⊢
  by_cases nothing : clean = []
  · simp [nothing]
  by_cases long : bmUrlMax ≤ clean.length
  · have short : ¬ clean.length < bmUrlMax := Nat.not_lt.mpr long
    have short' : ¬ clean.length + 7 < bmUrlMax := by omega
    simp [long, short, short']
  rw [if_neg nothing, if_neg long]
  by_cases scheme : ascii "://" <:+: clean
  · rw [if_neg (not_not.mpr scheme)]
    have copied : strlcpy clean bmUrlMax = clean :=
      strlcpy_of_short plain (Nat.lt_of_not_le long)
    rw [Option.ite_none_left_eq_some, copied]
    simp only [scheme, nothing, Nat.lt_of_not_le long, not_and_or,
      Bool.not_eq_false, Option.some.injEq, not_true_eq_false, false_and,
      or_false, true_and, ne_eq, not_false_eq_true, @eq_comm _ clean url]
  · rw [if_pos scheme, Option.ite_none_left_eq_some,
      Option.ite_none_left_eq_some]
    simp only [scheme, nothing, not_le, Bool.not_eq_false, Option.some.injEq,
      false_and, false_or, not_false_eq_true, true_and, ne_eq]
    constructor
    · rintro ⟨bare, fits, rfl⟩
      exact ⟨bare, fits, strlcat_http plain fits⟩
    · rintro ⟨bare, fits, rfl⟩
      exact ⟨bare, fits, strlcat_http plain fits⟩

/-! ## What is stored -/

theorem HasScheme.head {text : List UInt8} (hasScheme : HasScheme text) :
    ∃ c rest, text = c :: rest ∧ tolower c = 104 := by
  rw [HasScheme] at hasScheme
  cases text with
  | nil =>
      rcases hasScheme with http | https
      · exact absurd http (by decide)
      · exact absurd https (by decide)
  | cons c rest =>
      refine ⟨c, rest, rfl, ?_⟩
      rcases hasScheme with http | https
      · exact beq_iff_eq.mp (Bool.and_eq_true_iff.mp http).1
      · exact beq_iff_eq.mp (Bool.and_eq_true_iff.mp https).1

theorem HasScheme.head_ne_space {text : List UInt8}
    (hasScheme : HasScheme text) : text.head? ≠ some space := by
  obtain ⟨c, rest, rfl, letter⟩ := hasScheme.head
  intro isSpace
  rw [Option.some.inj isSpace] at letter
  exact absurd letter (by decide)

theorem startsWithCi_append (text wanted : List UInt8) :
    startsWithCi (wanted ++ text) wanted = true := by
  induction wanted with
  | nil =>
      cases text with
      | nil => rfl
      | cons c rest => rfl
  | cons c wanted inductionHypothesis =>
      rw [List.cons_append, startsWithCi, inductionHypothesis, beq_self_eq_true,
        Bool.and_self]

theorem hasScheme_http (text : List UInt8) :
    HasScheme (ascii "http://" ++ text) :=
  Or.inl (startsWithCi_append text _)

theorem http_has_colon (text : List UInt8) :
    ascii "://" <:+: ascii "http://" ++ text :=
  (show ascii "://" <:+: ascii "http://" by decide).trans
    (List.prefix_append _ text).isInfix

/-- What is stored shows a scheme, and is short. -/
theorem Stores.scheme {clean url : List UInt8} (stores : Stores clean url) :
    ascii "://" <:+: url ∧ HasScheme url ∧ url.length < bmUrlMax := by
  rcases stores with ⟨shows, hasScheme, fits, rfl⟩ | ⟨_, _, fits, rfl⟩
  · exact ⟨shows, hasScheme, fits⟩
  · refine ⟨http_has_colon clean, hasScheme_http clean, ?_⟩
    rw [List.length_append, http_length]
    omega

/-- Nothing is left to be cleaned in what is stored. -/
theorem stored_clean {input url : List UInt8}
    (accepted : normalizeUrl input bmUrlMax = some url) :
    Clean isKept space (bmUrlMax * 2 - 1) url := by
  obtain ⟨present, stores⟩ := (normalizeUrl_iff input url).mp accepted
  obtain ⟨_, hasScheme, fits⟩ := stores.scheme
  have plain := normalizeUrl_plain accepted
  have last : (sanitize input (bmUrlMax * 2)).getLast? ≠ some space := by
    rw [sanitize_eq_clean]
    exact Cleaning.clean_last
  refine ⟨?_, hasScheme.head_ne_space, ?_, ?_⟩
  · intro c member
    rw [isKept, plain c member]
    rfl
  · rcases stores with ⟨_, _, _, rfl⟩ | ⟨_, _, _, rfl⟩
    · exact last
    · rwa [List.getLast?_append_of_ne_nil _ present]
  · rw [bmUrlMax] at fits ⊢
    omega

/-- What is stored is stored again as it is. -/
theorem normalizeUrl_again {input url : List UInt8}
    (accepted : normalizeUrl input bmUrlMax = some url) :
    normalizeUrl url bmUrlMax = some url := by
  obtain ⟨_, stores⟩ := (normalizeUrl_iff input url).mp accepted
  obtain ⟨shows, hasScheme, fits⟩ := stores.scheme
  have same : sanitize url (bmUrlMax * 2) = url :=
    sanitize_of_clean (stored_clean accepted)
  rw [normalizeUrl_iff, same]
  exact ⟨normalizeUrl_present accepted, Or.inl ⟨shows, hasScheme, fits, rfl⟩⟩

/-! ## What is cut off -/

/-- A buffer for the whole string holds everything. -/
theorem sanitize_of_large {src : List UInt8} {n : Nat} (room : src.length < n) :
    sanitize src n = sanitizeWhole src := by
  have short : (kept isBlank isKept (cstr src)).length ≤ n - 1 := by
    have filtered := List.length_filter_le isKept
      ((cstr src).dropWhile isBlank)
    have dropped := (List.dropWhile_suffix (l := cstr src) isBlank).length_le
    have text := Proxy.cstr_length_le src
    rw [kept]
    omega
  rw [sanitize_eq_clean, Cleaning.clean, List.take_of_length_le short,
    sanitizeWhole]

/-- The result is the whole cleaned address, behind `http://` if it shows no
scheme, with a scheme of its own or that one, and is stored again as it is. -/
structure KeepsAddress (input url : List UInt8) : Prop where
  whole : url =
    if ascii "://" <:+: sanitizeWhole input then sanitizeWhole input
    else ascii "http://" ++ sanitizeWhole input
  scheme : HasScheme url
  short : url.length ≤ 159
  again : normalizeUrl url bmUrlMax = some url

/-- An accepted address is kept whole exactly when only blanks follow the 319
characters that are looked at. -/
theorem normalizeUrl_keeps_iff {input url : List UInt8}
    (accepted : normalizeUrl input bmUrlMax = some url) :
    KeepsAddress input url ↔
      ∀ c ∈ (kept isBlank isKept (cstr input)).drop 319, c = space := by
  obtain ⟨_, stores⟩ := (normalizeUrl_iff input url).mp accepted
  obtain ⟨_, hasScheme, fits⟩ := stores.scheme
  have short : url.length ≤ 159 := by
    rw [bmUrlMax] at fits
    omega
  constructor
  · intro keeps c member
    by_contra differs
    have long : 319 < (sanitizeWhole input).length := by
      apply Cleaning.lt_length_rdropWhile
      exact ⟨c, member, beq_eq_false_iff_ne.mpr differs⟩
    have bound : (sanitizeWhole input).length ≤ url.length := by
      rw [keeps.whole]
      split_ifs
      · exact le_rfl
      · rw [List.length_append]
        exact Nat.le_add_left _ _
    omega
  · intro blanks
    have same : sanitize input (bmUrlMax * 2) = sanitizeWhole input := by
      rw [sanitize_eq_clean, Cleaning.clean, sanitizeWhole]
      apply Cleaning.rdropWhile_take_of_all
      intro c member
      exact beq_iff_eq.mpr (blanks c member)
    rw [same] at stores
    refine ⟨?_, hasScheme, short, normalizeUrl_again accepted⟩
    rcases stores with ⟨shows, _, _, rfl⟩ | ⟨bare, _, _, rfl⟩
    · rw [if_pos shows]
    · rw [if_neg bare]

theorem normalizeUrl_keeps_bare :
    KeepsAddress (ascii "frogfind.com") (ascii "http://frogfind.com") := by
  have accepted :
      normalizeUrl (ascii "frogfind.com") bmUrlMax =
        some (ascii "http://frogfind.com") := by decide
  have nothing :
      (kept isBlank isKept (cstr (ascii "frogfind.com"))).drop 319 = [] := by
    decide
  refine (normalizeUrl_keeps_iff accepted).mpr ?_
  intro c member
  rw [nothing] at member
  cases member

/-- An address with a character behind 312 spaces. -/
def paddedAddress : List UInt8 :=
  ascii "http://a" ++ List.replicate 312 space ++ ascii "b"

/-- An address of 321 characters loses its end. -/
theorem padded_address_is_cut :
    ¬ ∀ input url, normalizeUrl input bmUrlMax = some url →
      KeepsAddress input url := by
  intro always
  have keeps := always paddedAddress (ascii "http://a") (by decide)
  exact absurd keeps.whole (by decide)

end VeteraBridge.Bookmarks

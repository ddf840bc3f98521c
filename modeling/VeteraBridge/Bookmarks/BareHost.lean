import VeteraBridge.Bookmarks.Address

/-!
# Addresses without a scheme

An address that is typed without `http://` is stored as it would be with it,
unless it has a `://` further behind, begins with a space, or is empty once it
is cleaned.
-/

namespace VeteraBridge.Bookmarks

open Proxy (ascii cstr cstr_eq_self_iff forall_mem_of_all space isBlank tolower
  memchr)
open Cleaning (kept)

/-! ## A host with its port and path -/

/-- Nothing, or a colon and digits. -/
def IsPort (port : List UInt8) : Prop :=
  port = [] ∨ ∃ digits, digits ≠ [] ∧ digits.all isdigit = true ∧
    port = 58 :: digits

/-- Nothing, or what begins with a slash. -/
def IsPath (path : List UInt8) : Prop :=
  path = [] ∨ ∃ rest, path = 47 :: rest

/-- A host, with a port and a path if they are given. -/
def HostAddress (text : List UInt8) : Prop :=
  ∃ host port path, text = host ++ port ++ path ∧ host ≠ [] ∧
    (∀ c ∈ host, c ≠ 58 ∧ c ≠ 47 ∧ c ≠ 63) ∧ IsPort port ∧ IsPath path

/-- The same with any text before the first colon or slash. -/
def BareShape (text : List UInt8) : Prop :=
  ∃ host port path, text = host ++ (port ++ path) ∧
    (∀ c ∈ host, c ≠ 58 ∧ c ≠ 47) ∧ IsPort port ∧ IsPath path

theorem HostAddress.bareShape {text : List UInt8} (address : HostAddress text) :
    BareShape text := by
  obtain ⟨host, port, path, rfl, _, plain, isPort, isPath⟩ := address
  refine ⟨host, port, path, List.append_assoc _ _ _, ?_, isPort, isPath⟩
  exact fun c member => ⟨(plain c member).1, (plain c member).2.1⟩

theorem memchr_append_of_not_mem {front : List UInt8} {c : UInt8}
    (absent : c ∉ front) (back : List UInt8) :
    memchr (front ++ back) c = (memchr back c).map (· + front.length) := by
  have nowhere : front.findIdx? (· == c) = none := by
    rw [List.findIdx?_eq_none_iff]
    intro other member
    exact beq_eq_false_iff_ne.mpr (fun same => absent (same ▸ member))
  rw [memchr, List.findIdx?_append, nowhere, Option.none_or]
  rfl

theorem isdigit_range {c : UInt8} (digit : isdigit c = true) :
    48 ≤ c ∧ c ≤ 57 := by
  simpa [isdigit] using digit

theorem not_mem_digits {digits : List UInt8} (all : digits.all isdigit = true)
    {c : UInt8} (noDigit : isdigit c = false) : c ∉ digits := by
  intro member
  rw [List.all_eq_true.mp all c member] at noDigit
  cases noDigit

/-- A host that is followed by a port or a path is one `http://` may be put in
front of. -/
theorem BareShape.isBareHost {text : List UInt8} (shape : BareShape text) :
    isBareHost text = true := by
  obtain ⟨host, port, path, rfl, plain, isPort, isPath⟩ := shape
  have noColon : (58 : UInt8) ∉ host := fun member => (plain _ member).1 rfl
  have noSlash : (47 : UInt8) ∉ host := fun member => (plain _ member).2 rfl
  rw [Bookmarks.isBareHost, memchr_append_of_not_mem noColon,
    memchr_append_of_not_mem noSlash]
  dsimp only
  rcases isPort with rfl | ⟨digits, some, all, rfl⟩
  · rw [List.nil_append]
    rcases isPath with rfl | ⟨rest, rfl⟩
    · rfl
    · have slash : memchr (47 :: rest) 47 = Option.some 0 := rfl
      have colon : memchr (47 :: rest) 58 = (memchr rest 58).map (· + 1) := by
        rw [memchr, List.findIdx?_cons]
        rfl
      rw [slash, colon]
      cases memchr rest 58 with
      | none => rfl
      | some behind =>
          simp
  · have colon : memchr (58 :: digits ++ path) 58 = Option.some 0 := rfl
    have noSlashDigit := not_mem_digits all (show isdigit 47 = false by decide)
    have absent : (47 : UInt8) ∉ 58 :: digits := by
      intro member
      rcases List.mem_cons.mp member with same | member
      · exact absurd same (by decide)
      · exact noSlashDigit member
    have front : host ++ (58 :: digits ++ path) =
        (host ++ 58 :: digits) ++ path := by
      rw [List.append_assoc]
    have after : (host ++ 58 :: digits).drop (host.length + 1) = digits := by
      rw [List.drop_length_add_append]
      rfl
    have accepted : (!digits.isEmpty && digits.all isdigit) = true := by
      rw [all, Bool.and_true, Bool.not_eq_true', List.isEmpty_eq_false_iff]
      exact some
    rw [colon, memchr_append_of_not_mem absent, front]
    simp only [Option.map_some, Nat.zero_add]
    rcases isPath with rfl | ⟨rest, rfl⟩
    · have slash : memchr [] 47 = Option.none := rfl
      rw [slash, List.append_nil]
      simp only [Option.map_none, Option.any_none, Bool.false_eq_true, if_false,
        Option.getD_none, List.take_length]
      rw [after]
      exact accepted
    · have slash : memchr (47 :: rest) 47 = Option.some 0 := rfl
      have length : 0 + (58 :: digits).length + host.length =
          (host ++ 58 :: digits).length := by
        rw [List.length_append, Nat.zero_add, Nat.add_comm]
      have behind : ¬ (host ++ 58 :: digits).length < host.length := by
        rw [List.length_append]
        omega
      rw [slash]
      simp only [Option.map_some, Option.any_some, Option.getD_some, length,
        decide_eq_true_eq, if_neg behind, List.take_left]
      rw [after]
      exact accepted

/-! ## Cleaning leaves the shape -/

theorem IsPort.not_blank {port : List UInt8} (isPort : IsPort port) :
    ∀ c ∈ port, c ≠ space ∧ isKept c = true := by
  rcases isPort with rfl | ⟨digits, _, all, rfl⟩
  · intro c member
    cases member
  · intro c member
    rcases List.mem_cons.mp member with rfl | member
    · decide
    · obtain ⟨above, below⟩ := isdigit_range (List.all_eq_true.mp all c member)
      rw [UInt8.le_iff_toNat_le] at above below
      constructor
      · rintro rfl
        revert above
        decide
      · have low : ¬ c < 0x20 := by
          rw [UInt8.lt_iff_toNat_lt]
          exact Nat.not_lt.mpr (le_trans (by decide) above)
        have notDel : c ≠ 0x7F := by
          rintro rfl
          revert below
          decide
        simp [isKept, isControl, low, notDel]

theorem BareShape.dropWhile_blank {text : List UInt8} (shape : BareShape text) :
    BareShape (text.dropWhile isBlank) := by
  obtain ⟨host, port, path, rfl, plain, isPort, isPath⟩ := shape
  have stays : (port ++ path).dropWhile isBlank = port ++ path := by
    rcases isPort with rfl | ⟨digits, _, _, rfl⟩
    · rcases isPath with rfl | ⟨rest, rfl⟩
      · rfl
      · rfl
    · rfl
  rw [List.dropWhile_append]
  split_ifs
  · rw [stays]
    refine ⟨[], port, path, rfl, ?_, isPort, isPath⟩
    intro c member
    cases member
  · refine ⟨host.dropWhile isBlank, port, path, rfl, ?_, isPort, isPath⟩
    exact fun c member => plain c ((List.dropWhile_suffix _).subset member)

theorem BareShape.filter_kept {text : List UInt8} (shape : BareShape text) :
    BareShape (text.filter isKept) := by
  obtain ⟨host, port, path, rfl, plain, isPort, isPath⟩ := shape
  have whole : port.filter isKept = port :=
    List.filter_eq_self.mpr fun c member => (isPort.not_blank c member).2
  rw [List.filter_append, List.filter_append, whole]
  refine ⟨host.filter isKept, port, path.filter isKept, rfl, ?_, isPort, ?_⟩
  · exact fun c member => plain c (List.mem_filter.mp member).1
  · rcases isPath with rfl | ⟨rest, rfl⟩
    · exact Or.inl rfl
    · exact Or.inr ⟨rest.filter isKept, rfl⟩

theorem BareShape.rdropWhile_space {text : List UInt8}
    (shape : BareShape text) :
    BareShape (text.rdropWhile (· == space)) := by
  obtain ⟨host, port, path, rfl, plain, isPort, isPath⟩ := shape
  rcases isPath with rfl | ⟨rest, rfl⟩
  · rw [List.append_nil]
    by_cases noPort : port = []
    · subst noPort
      rw [List.append_nil]
      refine ⟨host.rdropWhile (· == space), [], [], ?_, ?_, isPort, Or.inl rfl⟩
      · rw [List.append_nil, List.append_nil]
      · exact fun c member =>
          plain c ((List.rdropWhile_prefix _ _).subset member)
    · have last : port.rdropWhile (· == space) = port := by
        rw [Cleaning.rdropWhile_blank_iff]
        intro isSpace
        have member := List.mem_of_getLast? isSpace
        exact (isPort.not_blank _ member).1 rfl
      rw [Cleaning.rdropWhile_append_of_ne_nil (by rwa [last]), last]
      refine ⟨host, port, [], ?_, plain, isPort, Or.inl rfl⟩
      rw [List.append_nil]
  · have slash : (47 :: rest).rdropWhile (· == space) =
        47 :: rest.rdropWhile (· == space) :=
      Cleaning.rdropWhile_cons_of_not (by decide)
    have present : (47 :: rest).rdropWhile (· == space) ≠ [] := by
      rw [slash]
      exact List.cons_ne_nil _ _
    rw [← List.append_assoc, Cleaning.rdropWhile_append_of_ne_nil present, slash,
      List.append_assoc]
    exact ⟨host, port, _, rfl, plain, isPort, Or.inr ⟨_, rfl⟩⟩

/-! ## No scheme of its own -/

theorem startsWithCi_iff (text wanted : List UInt8) :
    startsWithCi text wanted = true ↔
      wanted.map tolower <+: text.map tolower := by
  induction wanted generalizing text with
  | nil =>
      simp [startsWithCi]
  | cons n wanted inductionHypothesis =>
      cases text with
      | nil => simp [startsWithCi]
      | cons c text =>
          rw [startsWithCi, Bool.and_eq_true, inductionHypothesis,
            List.map_cons, List.map_cons, List.cons_prefix_cons, beq_iff_eq,
            eq_comm]

/-- Only letters change their case. -/
theorem tolower_eq_iff {c other : UInt8} (noLetter : other < 65) :
    tolower c = other ↔ c = other := by
  rw [tolower]
  split_ifs with upper
  · rw [Bool.and_eq_true, decide_eq_true_eq, decide_eq_true_eq, ge_iff_le,
      UInt8.le_iff_toNat_le, UInt8.le_iff_toNat_le] at upper
    rw [UInt8.lt_iff_toNat_lt] at noLetter
    have bounds : (65 : UInt8).toNat = 65 ∧ (90 : UInt8).toNat = 90 ∧
        (32 : UInt8).toNat = 32 := ⟨rfl, rfl, rfl⟩
    rw [← UInt8.toNat_inj, ← UInt8.toNat_inj, UInt8.toNat_add]
    omega
  · rfl

/-- What follows the first colon or slash. -/
theorem split_unique {host front more rest : List UInt8}
    (hostPlain : ∀ c ∈ host, c ≠ 58 ∧ c ≠ 47)
    (frontPlain : ∀ c ∈ front, c ≠ 58 ∧ c ≠ 47)
    (stops : ∀ c ∈ more.head?, c = 58 ∨ c = 47)
    (same : host ++ more = front ++ 58 :: rest) :
    more = 58 :: rest := by
  induction host generalizing front with
  | nil =>
      cases front with
      | nil => exact same
      | cons c front =>
          rw [List.nil_append, List.cons_append] at same
          have stop := stops c (by rw [same]; rfl)
          have plain := frontPlain c List.mem_cons_self
          rcases stop with isColon | isSlash
          · exact absurd isColon plain.1
          · exact absurd isSlash plain.2
  | cons h host inductionHypothesis =>
      cases front with
      | nil =>
          exact absurd (List.cons_eq_cons.mp same).1
            (hostPlain h List.mem_cons_self).1
      | cons c front =>
          apply inductionHypothesis
          · exact fun c member => hostPlain c (List.mem_cons_of_mem h member)
          · exact fun d member => frontPlain d (List.mem_cons_of_mem c member)
          · exact (List.cons_eq_cons.mp same).2

/-- A text with a scheme has a slash behind its first colon. -/
theorem scheme_split {text letters slashes : List UInt8}
    (lettersPlain : 58 ∉ letters.map tolower ∧ 47 ∉ letters.map tolower)
    (starts : startsWithCi text (letters ++ 58 :: 47 :: slashes) = true) :
    ∃ front rest, text = front ++ 58 :: 47 :: rest ∧
      ∀ c ∈ front, c ≠ 58 ∧ c ≠ 47 := by
  obtain ⟨more, same⟩ := (startsWithCi_iff text _).mp starts
  rw [List.map_append, List.append_assoc, eq_comm, List.map_eq_append_iff]
    at same
  obtain ⟨front, back, rfl, isFront, isBack⟩ := same
  rw [List.map_cons, List.map_cons, List.cons_append, List.cons_append,
    List.map_eq_cons_iff] at isBack
  obtain ⟨colon, others, rfl, isColon, isOthers⟩ := isBack
  obtain ⟨slash, rest, rfl, isSlash, _⟩ := List.map_eq_cons_iff.mp isOthers
  have colonEq : colon = 58 := (tolower_eq_iff (by decide)).mp isColon
  have slashEq : slash = 47 := (tolower_eq_iff (by decide)).mp isSlash
  refine ⟨front, rest, by rw [colonEq, slashEq], ?_⟩
  intro c member
  have folded : tolower c ∈ letters.map tolower := by
    rw [← isFront]
    exact List.mem_map_of_mem member
  constructor
  · rintro rfl
    exact lettersPlain.1 folded
  · rintro rfl
    exact lettersPlain.2 folded

theorem BareShape.not_hasScheme {text : List UInt8} (shape : BareShape text) :
    ¬ HasScheme text := by
  intro hasScheme
  have split : ∃ front rest, text = front ++ 58 :: 47 :: rest ∧
      ∀ c ∈ front, c ≠ 58 ∧ c ≠ 47 := by
    rcases hasScheme with http | https
    · exact @scheme_split text (ascii "http") [47] (by decide) http
    · exact @scheme_split text (ascii "https") [47] (by decide) https
  obtain ⟨front, rest, same, frontPlain⟩ := split
  obtain ⟨host, port, path, rfl, plain, isPort, isPath⟩ := shape
  have stops : ∀ c ∈ (port ++ path).head?, c = 58 ∨ c = 47 := by
    intro c begins
    rcases isPort with rfl | ⟨digits, _, _, rfl⟩
    · rcases isPath with rfl | ⟨more, rfl⟩
      · cases begins
      · exact Or.inr (Option.some.inj begins).symm
    · exact Or.inl (Option.some.inj begins).symm
  have behind := split_unique plain frontPlain stops same
  rcases isPort with rfl | ⟨digits, some, all, rfl⟩
  · rcases isPath with rfl | ⟨more, rfl⟩
    · cases behind
    · exact absurd (List.cons_eq_cons.mp behind).1 (by decide)
  · obtain ⟨first, others, rfl⟩ := List.exists_cons_of_ne_nil some
    have isSlash : first = 47 :=
      (List.cons_eq_cons.mp (List.cons_eq_cons.mp behind).2).1
    have isDigit := List.all_eq_true.mp all first List.mem_cons_self
    rw [isSlash] at isDigit
    exact absurd isDigit (by decide)

/-! ## With and without the scheme -/

section Typed

variable {x : List UInt8}

/-- What is stored of an address behind `http://`. -/
theorem normalizeUrl_http (noNul : 0 ∉ x)
    (short : (ascii "http://" ++ x).length ≤ 159) :
    normalizeUrl (ascii "http://" ++ x) bmUrlMax =
      some (ascii "http://" ++
        (x.filter isKept).rdropWhile (· == space)) := by
  have whole : sanitize (ascii "http://" ++ x) (bmUrlMax * 2) =
      ascii "http://" ++ (x.filter isKept).rdropWhile (· == space) := by
    have text : cstr (ascii "http://" ++ x) = ascii "http://" ++ x := by
      rw [cstr_eq_self_iff, List.mem_append, not_or]
      exact ⟨by decide, noNul⟩
    have begins : (ascii "http://" ++ x).dropWhile isBlank =
        ascii "http://" ++ x := rfl
    have scheme : (ascii "http://").filter isKept = ascii "http://" := by
      decide
    have fits : ((ascii "http://" ++ x).filter isKept).length ≤
        bmUrlMax * 2 - 1 :=
      (List.length_filter_le _ _).trans (short.trans (by decide))
    rw [sanitize_eq_clean, text, Cleaning.clean, kept, begins,
      List.take_of_length_le fits, List.filter_append, scheme]
    by_cases nothing : (x.filter isKept).rdropWhile (· == space) = []
    · rw [Cleaning.rdropWhile_append_of_all
        (List.rdropWhile_eq_nil_iff.mp nothing), nothing]
      decide
    · rw [Cleaning.rdropWhile_append_of_ne_nil nothing]
  rw [normalizeUrl_iff, whole]
  refine ⟨List.append_ne_nil_of_left_ne_nil (by decide) _, Or.inl ?_⟩
  refine ⟨http_has_colon _, hasScheme_http _, ?_, rfl⟩
  have trimmed := (List.rdropWhile_prefix (· == space)
    (x.filter isKept)).length_le
  have filtered := List.length_filter_le isKept x
  rw [List.length_append] at short ⊢
  rw [bmUrlMax]
  omega

/-- The cleaned address, where nothing is cut off. -/
theorem sanitize_typed (noNul : 0 ∉ x)
    (short : (ascii "http://" ++ x).length ≤ 159) :
    sanitize x (bmUrlMax * 2) =
      ((x.dropWhile isBlank).filter isKept).rdropWhile (· == space) := by
  rw [List.length_append] at short
  have large : x.length < bmUrlMax * 2 := by
    rw [bmUrlMax]
    omega
  rw [sanitize_of_large large, sanitizeWhole, (cstr_eq_self_iff x).mpr noNul,
    kept]

theorem BareShape.sanitize (shape : BareShape x) (noNul : 0 ∉ x)
    (short : (ascii "http://" ++ x).length ≤ 159) :
    BareShape (sanitize x (bmUrlMax * 2)) := by
  rw [sanitize_typed noNul short]
  exact shape.dropWhile_blank.filter_kept.rdropWhile_space

/-- What is stored of an address that has no scheme. -/
theorem normalizeUrl_bare_iff (shape : BareShape x) (noNul : 0 ∉ x)
    (short : (ascii "http://" ++ x).length ≤ 159) (url : List UInt8) :
    normalizeUrl x bmUrlMax = some url ↔
      sanitize x (bmUrlMax * 2) ≠ [] ∧
        ¬ ascii "://" <:+: sanitize x (bmUrlMax * 2) ∧
        url = ascii "http://" ++ sanitize x (bmUrlMax * 2) := by
  have bare := shape.sanitize noNul short
  have short' := short
  have fits : (Bookmarks.sanitize x (bmUrlMax * 2)).length + 7 < bmUrlMax := by
    have trimmed := (List.rdropWhile_prefix (· == space)
      ((x.dropWhile isBlank).filter isKept)).length_le
    have filtered := List.length_filter_le isKept (x.dropWhile isBlank)
    have dropped := (List.dropWhile_suffix (l := x) isBlank).length_le
    rw [List.length_append, http_length] at short
    rw [sanitize_typed noNul short', bmUrlMax]
    omega
  rw [normalizeUrl_iff, Stores]
  constructor
  · rintro ⟨present, ⟨_, hasScheme, _⟩ | ⟨noScheme, _, _, rfl⟩⟩
    · exact absurd hasScheme bare.not_hasScheme
    · exact ⟨present, noScheme, rfl⟩
  · rintro ⟨present, noScheme, rfl⟩
    exact ⟨present, Or.inr ⟨noScheme, bare.isBareHost, fits, rfl⟩⟩

/-- The blanks an address begins with, as they are kept behind `http://`. -/
def leadingSpaces (x : List UInt8) : List UInt8 :=
  (x.takeWhile isBlank).filter isKept

theorem filter_eq_append (x : List UInt8) :
    x.filter isKept =
      leadingSpaces x ++ (x.dropWhile isBlank).filter isKept := by
  rw [leadingSpaces, ← List.filter_append, List.takeWhile_append_dropWhile]

theorem leadingSpaces_blank : ∀ c ∈ leadingSpaces x, (c == space) = true := by
  intro c member
  obtain ⟨inBlanks, keeps⟩ := List.mem_filter.mp member
  exact beq_iff_eq.mpr
    (sanitize_trims.onlyBlank c (List.mem_takeWhile_imp inBlanks) keeps)

theorem leadingSpaces_eq_nil_iff :
    leadingSpaces x = [] ↔ space ∉ x.takeWhile isBlank := by
  rw [leadingSpaces, List.filter_eq_nil_iff]
  constructor
  · intro none member
    exact none space member (by decide)
  · intro absent c member keeps
    have isSpace :=
      sanitize_trims.onlyBlank c (List.mem_takeWhile_imp member) keeps
    exact absent (isSpace ▸ member)

/-- An address is empty once it is cleaned, or has a character of its own. -/
theorem sanitize_typed_present_iff (noNul : 0 ∉ x)
    (short : (ascii "http://" ++ x).length ≤ 159) :
    sanitize x (bmUrlMax * 2) ≠ [] ↔
      ∃ c ∈ x, isKept c = true ∧ c ≠ space := by
  rw [sanitize_typed noNul short, ne_eq, List.rdropWhile_eq_nil_iff]
  constructor
  · intro some
    by_contra none
    apply some
    intro c member
    rw [beq_iff_eq]
    by_contra differs
    obtain ⟨inRest, keeps⟩ := List.mem_filter.mp member
    exact none ⟨c, (List.dropWhile_suffix _).subset inRest, keeps, differs⟩
  · rintro ⟨c, member, keeps, differs⟩ all
    have inKept : c ∈ x.filter isKept := List.mem_filter.mpr ⟨member, keeps⟩
    rw [filter_eq_append] at inKept
    rcases List.mem_append.mp inKept with inSpaces | inRest
    · exact differs (beq_iff_eq.mp (leadingSpaces_blank c inSpaces))
    · exact differs (beq_iff_eq.mp (all c inRest))

/-- Cleaning neither makes nor hides a `://`, control characters apart. -/
theorem sanitize_typed_infix_iff (noNul : 0 ∉ x)
    (short : (ascii "http://" ++ x).length ≤ 159) :
    ascii "://" <:+: sanitize x (bmUrlMax * 2) ↔
      ascii "://" <:+: x.filter isKept := by
  have present : ascii "://" ≠ [] := by decide
  have noBlank : ∀ c ∈ ascii "://", (c == space) = false :=
    forall_mem_of_all (by decide)
  rw [sanitize_typed noNul short,
    Cleaning.infix_rdropWhile_iff present noBlank, filter_eq_append x,
    Cleaning.infix_append_of_all present noBlank leadingSpaces_blank]

/-- An address typed without `http://` is accepted and stored as it is with it
exactly when it is not blank, does not begin with a space, and has no `://`. -/
theorem bare_address_stored_iff (address : HostAddress x) (noNul : 0 ∉ x)
    (short : (ascii "http://" ++ x).length ≤ 159) :
    (∃ url, normalizeUrl x bmUrlMax = some url ∧
        normalizeUrl (ascii "http://" ++ x) bmUrlMax = some url) ↔
      (∃ c ∈ x, isKept c = true ∧ c ≠ space) ∧
        space ∉ x.takeWhile isBlank ∧ ¬ ascii "://" <:+: x.filter isKept := by
  have bare := normalizeUrl_bare_iff address.bareShape noNul short
  have typed := sanitize_typed noNul short
  have whole : sanitize x (bmUrlMax * 2) ≠ [] →
      (x.filter isKept).rdropWhile (· == space) =
        leadingSpaces x ++ sanitize x (bmUrlMax * 2) := by
    intro present
    rw [typed] at present
    rw [filter_eq_append, Cleaning.rdropWhile_append_of_ne_nil present, typed]
  rw [← sanitize_typed_present_iff noNul short, ← leadingSpaces_eq_nil_iff,
    ← sanitize_typed_infix_iff noNul short, normalizeUrl_http noNul short]
  constructor
  · rintro ⟨url, stored, same⟩
    obtain ⟨present, noScheme, rfl⟩ := (bare url).mp stored
    refine ⟨present, ?_, noScheme⟩
    have equal := List.append_cancel_left (Option.some.inj same)
    rw [whole present] at equal
    exact List.append_left_eq_self.mp equal
  · rintro ⟨present, noSpaces, noScheme⟩
    refine ⟨_, (bare _).mpr ⟨present, noScheme, rfl⟩, ?_⟩
    rw [whole present, noSpaces, List.nil_append]

end Typed

theorem bare_address_stored_host :
    ∃ url, normalizeUrl (ascii "wap.sh:8080/a") bmUrlMax = some url ∧
      normalizeUrl (ascii "http://" ++ ascii "wap.sh:8080/a") bmUrlMax =
        some url := by
  have address : HostAddress (ascii "wap.sh:8080/a") := by
    refine ⟨ascii "wap.sh", ascii ":8080", ascii "/a", by decide, by decide,
      forall_mem_of_all (by decide),
      Or.inr ⟨ascii "8080", by decide, by decide, by decide⟩,
      Or.inr ⟨ascii "a", by decide⟩⟩
  refine (bare_address_stored_iff address (by decide) (by decide)).mpr ?_
  exact ⟨⟨119, by decide, by decide, by decide⟩, by decide, by decide⟩

/-- An address with another address in its path is refused without
`http://`. -/
theorem nested_address_refused :
    ¬ ∀ x, HostAddress x → 0 ∉ x → (ascii "http://" ++ x).length ≤ 159 →
      ∃ url, normalizeUrl x bmUrlMax = some url ∧
        normalizeUrl (ascii "http://" ++ x) bmUrlMax = some url := by
  intro always
  have address : HostAddress (ascii "archive.org/web/http://a.com") := by
    refine ⟨ascii "archive.org", [], ascii "/web/http://a.com", by decide,
      by decide, forall_mem_of_all (by decide), Or.inl rfl,
      Or.inr ⟨ascii "web/http://a.com", ?_⟩⟩
    decide
  obtain ⟨url, stored, _⟩ := always _ address (by decide) (by decide)
  have refused :
      normalizeUrl (ascii "archive.org/web/http://a.com") bmUrlMax = none := by
    decide
  rw [refused] at stored
  cases stored

end VeteraBridge.Bookmarks

import Mathlib.Data.List.Basic

/-!
# Pages with forms

What a browser reads of the tags of a page, if the page has neither comments nor
scripts and only spaces between the words of a tag.  The reader takes one byte
after the other, so a page is read piece by piece; a piece that stands in quotes
becomes the value, whatever else it holds.
-/

namespace Markup

universe u

/-- A word of a tag, with its value if it has one. -/
abbrev Attribute := List UInt8 × Option (List UInt8)

/-- The words of a tag; the first is its name. -/
abbrev Tag := List Attribute

/-- Where a reader stands. -/
inductive Place where
  | text
  | word (read : Tag) (name : List UInt8)
  /-- behind an equals sign -/
  | bare (read : Tag) (name value : List UInt8)
  | quoted (read : Tag) (name : List UInt8) (quote : UInt8)
      (value : List UInt8)
deriving DecidableEq, Repr

/-- The words of a tag when another ends. -/
def endWord (read : Tag) (name : List UInt8) : Tag :=
  if name = [] then read else read ++ [(name, none)]

/-- What one byte does: the tag that ends, and where the reader stands. -/
def step : Place → UInt8 → List Tag × Place
  | .text, c => ([], if c = 60 then .word [] [] else .text)
  | .word read name, c =>
    if c = 62 then ([endWord read name], .text)
    else if c = 32 then ([], .word (endWord read name) [])
    else if c = 61 then ([], .bare read name [])
    else ([], .word read (name ++ [c]))
  | .bare read name value, c =>
    if c = 62 then ([read ++ [(name, some value)]], .text)
    else if c = 32 then ([], .word (read ++ [(name, some value)]) [])
    else if value = [] ∧ (c = 34 ∨ c = 39) then ([], .quoted read name c [])
    else ([], .bare read name (value ++ [c]))
  | .quoted read name quote value, c =>
    if c = quote then ([], .word (read ++ [(name, some value)]) [])
    else ([], .quoted read name quote (value ++ [c]))

/-- The tags of a text, and where the reader stands behind it. -/
def scan : Place → List UInt8 → List Tag × Place
  | place, [] => ([], place)
  | place, c :: rest =>
    let ended := step place c
    let others := scan ended.2 rest
    (ended.1 ++ others.1, others.2)

theorem scan_append (place : Place) (first second : List UInt8) :
    scan place (first ++ second) =
      ((scan place first).1 ++ (scan (scan place first).2 second).1,
        (scan (scan place first).2 second).2) := by
  induction first generalizing place with
  | nil =>
      rfl
  | cons c rest inductionHypothesis =>
      rw [List.cons_append, scan, inductionHypothesis, scan,
        List.append_assoc]

/-! ## Pieces of a page -/

/-- A piece of a page, read from a place, gives what `wanted` picks from its
tags and leaves the reader at another place. -/
structure Reads {Item : Type u} (wanted : Tag → Option Item) (place : Place)
    (text : List UInt8) (items : List Item) (after : Place) : Prop where
  items : (scan place text).1.filterMap wanted = items
  after : (scan place text).2 = after

section Pieces

variable {Item : Type u} {wanted : Tag → Option Item}
  {place middle after : Place} {first second : List UInt8}
  {items others : List Item}

instance [DecidableEq Item] :
    Decidable (Reads wanted place first items after) :=
  decidable_of_iff
    ((scan place first).1.filterMap wanted = items ∧
      (scan place first).2 = after)
    ⟨fun both => ⟨both.1, both.2⟩, fun reads => ⟨reads.items, reads.after⟩⟩

theorem Reads.append (left : Reads wanted place first items middle)
    (right : Reads wanted middle second others after) :
    Reads wanted place (first ++ second) (items ++ others) after where
  items := by
    rw [scan_append, List.filterMap_append, left.items, left.after, right.items]
  after := by
    rw [scan_append, left.after, right.after]

/-- Pieces that begin and end at one place. -/
theorem reads_flatMap {Row : Type u} (rows : List Row) (text : Row → List UInt8)
    (found : Row → List Item)
    (each : ∀ row ∈ rows, Reads wanted place (text row) (found row) place) :
    Reads wanted place (rows.flatMap text) (rows.flatMap found) place := by
  induction rows with
  | nil => exact ⟨rfl, rfl⟩
  | cons row rows inductionHypothesis =>
      have first := each row List.mem_cons_self
      have others := inductionHypothesis fun other member =>
        each other (List.mem_cons_of_mem _ member)
      simpa only [List.flatMap_cons] using first.append others

/-- Together they are no longer than their number allows. -/
theorem length_flatMap_le {Row : Type u} (rows : List Row)
    (text : Row → List UInt8) {limit : Nat}
    (each : ∀ row ∈ rows, (text row).length ≤ limit) :
    (rows.flatMap text).length ≤ rows.length * limit := by
  induction rows with
  | nil => exact Nat.zero_le _
  | cons row rows inductionHypothesis =>
      have first := each row List.mem_cons_self
      have others := inductionHypothesis fun other member =>
        each other (List.mem_cons_of_mem _ member)
      rw [List.flatMap_cons, List.length_append, List.length_cons,
        Nat.add_mul, Nat.one_mul]
      omega

/-- Text without a tag. -/
theorem reads_text {text : List UInt8} (noTag : 60 ∉ text) :
    Reads wanted .text text [] .text := by
  have stays : scan .text text = ([], .text) := by
    induction text with
    | nil => rfl
    | cons c rest inductionHypothesis =>
        rw [List.mem_cons, not_or] at noTag
        have ordinary : step .text c = ([], .text) := by
          rw [step, if_neg (Ne.symm noTag.1)]
        rw [scan, ordinary, inductionHypothesis noTag.2, List.append_nil]
  constructor
  · rw [stays, List.filterMap_nil]
  · rw [stays]

/-- Text in quotes is the value. -/
theorem reads_quoted (read : Tag) (name : List UInt8) {quote : UInt8}
    (value : List UInt8) {text : List UInt8} (noQuote : quote ∉ text) :
    Reads wanted (.quoted read name quote value) text []
      (.quoted read name quote (value ++ text)) := by
  have goesOn :
      scan (.quoted read name quote value) text =
        ([], .quoted read name quote (value ++ text)) := by
    induction text generalizing value with
    | nil =>
        rw [scan, List.append_nil]
    | cons c rest inductionHypothesis =>
        rw [List.mem_cons, not_or] at noQuote
        have ordinary :
            step (.quoted read name quote value) c =
              ([], .quoted read name quote (value ++ [c])) := by
          rw [step, if_neg (Ne.symm noQuote.1)]
        rw [scan, ordinary, inductionHypothesis _ noQuote.2, List.append_nil,
          List.append_assoc, List.singleton_append]
  constructor
  · rw [goesOn, List.filterMap_nil]
  · rw [goesOn]

/-- The tag ends behind the quotes. -/
theorem reads_close (read : Tag) (name : List UInt8) (quote : UInt8)
    (value : List UInt8) :
    Reads wanted (.quoted read name quote value) [quote, 62]
      (wanted (read ++ [(name, some value)])).toList .text := by
  have closes :
      scan (.quoted read name quote value) [quote, 62] =
        ([read ++ [(name, some value)]], .text) := by
    simp [scan, step, endWord]
  constructor
  · rw [closes]
    cases picked : wanted (read ++ [(name, some value)]) with
    | none => simp [picked]
    | some item => simp [picked]
  · rw [closes]

/-- The tag ends behind a word. -/
theorem reads_end (read : Tag) (name : List UInt8) :
    Reads wanted (.word read name) [62] (wanted (endWord read name)).toList
      .text := by
  have ends : scan (.word read name) [62] = ([endWord read name], .text) := by
    simp [scan, step]
  constructor
  · rw [ends]
    cases picked : wanted (endWord read name) with
    | none => simp [picked]
    | some item => simp [picked]
  · rw [ends]

end Pieces

/-! ## Forms -/

/-- "input" -/
def inputWord : List UInt8 := [105, 110, 112, 117, 116]

/-- "name" -/
def nameWord : List UInt8 := [110, 97, 109, 101]

/-- "value" -/
def valueWord : List UInt8 := [118, 97, 108, 117, 101]

/-- "type" -/
def typeWord : List UInt8 := [116, 121, 112, 101]

/-- "checked" -/
def checkedWord : List UInt8 := [99, 104, 101, 99, 107, 101, 100]

/-- "checkbox" -/
def checkboxWord : List UInt8 := [99, 104, 101, 99, 107, 98, 111, 120]

/-- "radio" -/
def radioWord : List UInt8 := [114, 97, 100, 105, 111]

/-- "submit" -/
def submitWord : List UInt8 := [115, 117, 98, 109, 105, 116]

/-- "on" -/
def onWord : List UInt8 := [111, 110]

/-- The value of an attribute, empty when it has none. -/
def valueOf (tag : Tag) (name : List UInt8) : Option (List UInt8) :=
  (tag.tail.find? fun a => a.1 == name).map fun a => a.2.getD []

/-- What a tag contributes to the form that is sent when nothing is changed:
the name and the value of an input that has a name, that is no button, and that
is ticked if it can be. -/
def control (unescape : List UInt8 → List UInt8) (tag : Tag) :
    Option (List UInt8 × List UInt8) :=
  if tag.head?.map Prod.fst ≠ some inputWord then none
  else
    (valueOf tag nameWord).bind fun name =>
      let kind := valueOf tag typeWord
      let value := (valueOf tag valueWord).map unescape
      if kind = some submitWord then none
      else if kind = some checkboxWord ∨ kind = some radioWord then
        if (valueOf tag checkedWord).isSome then
          some (name, value.getD onWord)
        else none
      else some (name, value.getD [])

/-- One more word, "checked". -/
theorem reads_checkedWord {Item : Type u} {wanted : Tag → Option Item}
    (read : Tag) :
    Reads wanted (.word read []) (32 :: checkedWord) []
      (.word read checkedWord) := by
  have goesOn :
      scan (.word read []) (32 :: checkedWord) =
        ([], .word read checkedWord) := by
    simp [scan, step, endWord, checkedWord]
  constructor
  · rw [goesOn, List.filterMap_nil]
  · rw [goesOn]

/-- The form of a page as it is shown. -/
def shownForm (unescape : List UInt8 → List UInt8) (page : List UInt8) :
    List (List UInt8 × List UInt8) :=
  (scan .text page).1.filterMap (control unescape)

theorem Reads.shownForm {unescape : List UInt8 → List UInt8}
    {page : List UInt8} {pairs : List (List UInt8 × List UInt8)} {after : Place}
    (reads : Reads (control unescape) .text page pairs after) :
    shownForm unescape page = pairs := reads.items

/-! ## Links -/

/-- "a" -/
def anchorWord : List UInt8 := [97]

/-- "href" -/
def hrefWord : List UInt8 := [104, 114, 101, 102]

/-- Where a tag leads to. -/
def link (unescape : List UInt8 → List UInt8) (tag : Tag) :
    Option (List UInt8) :=
  if tag.head?.map Prod.fst ≠ some anchorWord then none
  else (valueOf tag hrefWord).map unescape

/-- The links of a page, in their order. -/
def shownLinks (unescape : List UInt8 → List UInt8) (page : List UInt8) :
    List (List UInt8) :=
  (scan .text page).1.filterMap (link unescape)

theorem Reads.shownLinks {unescape : List UInt8 → List UInt8}
    {page : List UInt8} {links : List (List UInt8)} {after : Place}
    (reads : Reads (link unescape) .text page links after) :
    shownLinks unescape page = links := reads.items

/-- A page that is cut has lost its last links at most. -/
theorem shownLinks_take (unescape : List UInt8 → List UInt8)
    (page : List UInt8) (n : Nat) :
    shownLinks unescape (page.take n) <+: shownLinks unescape page := by
  have parts := scan_append .text (page.take n) (page.drop n)
  rw [List.take_append_drop] at parts
  rw [shownLinks, shownLinks, parts, List.filterMap_append]
  exact List.prefix_append _ _

end Markup

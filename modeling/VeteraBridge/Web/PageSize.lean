import VeteraBridge.Lib.ClippedBuffer
import VeteraBridge.Web.Page
import Mathlib.Data.List.ReduceOption

/-!
# When the bookmark pages fit

The texts `page_add` is asked to write, and when the allocated size holds them.
Clipping commutes with appending, so a page is the whole text cut at its size,
and the question is one of lengths.
-/

namespace VeteraBridge.Web

open Bookmarks
open ClippedBuffer (clip)
open Proxy (ascii ascii_literal_length cstr strlcpy)

/-! ## Escaped text -/

/-- A text with every character escaped. -/
def escaped (src : List UInt8) : List UInt8 := (cstr src).flatMap escapeChar

theorem escapeChar_length (c : UInt8) :
    (escapeChar c).length =
      if c = 38 then 5 else if c = 60 ∨ c = 62 then 4 else if c = 34 then 6
      else 1 := by
  unfold escapeChar
  by_cases amp : c = 38
  · simp only [amp, if_true]
    decide
  by_cases lt : c = 60
  · simp only [lt, if_true, true_or]
    decide
  by_cases gt : c = 62
  · simp only [gt, if_true, or_true]
    decide
  by_cases quot : c = 34
  · simp only [quot, if_true]
    decide
  · simp [amp, lt, gt, quot]

theorem escapeChar_length_le (c : UInt8) : (escapeChar c).length ≤ 6 := by
  rw [escapeChar_length]
  split_ifs <;> omega

theorem htmlEscapeFrom_eq {n : Nat} {dst src : List UInt8}
    (room : dst.length + 6 * src.length + 1 < n) :
    htmlEscapeFrom n dst src = dst ++ src.flatMap escapeChar := by
  induction src generalizing dst with
  | nil =>
      simp [htmlEscapeFrom]
  | cons c rest inductionHypothesis =>
      rw [List.length_cons] at room
      have short := escapeChar_length_le c
      rw [htmlEscapeFrom, if_pos (by omega), inductionHypothesis,
        List.flatMap_cons, List.append_assoc]
      rw [List.length_append]
      omega

/-- The buffers of `bm_escape` hold every escaped text. -/
theorem htmlEscape_eq {src : List UInt8} {n : Nat}
    (room : 6 * (cstr src).length + 1 < n) :
    htmlEscape src n = escaped src := by
  rw [htmlEscape, htmlEscapeFrom_eq (by simpa using room), List.nil_append,
    escaped]

theorem htmlEscapeLen_eq (src : List UInt8) :
    htmlEscapeLen src = (escaped src).length := by
  have counts : ∀ (text : List UInt8) (n : Nat),
      text.foldl
        (fun n c =>
          if c = 38 then n + 5
          else if c = 60 ∨ c = 62 then n + 4
          else if c = 34 then n + 6
          else n + 1) n = n + (text.flatMap escapeChar).length := by
    intro text
    induction text with
    | nil => simp
    | cons c rest inductionHypothesis =>
        intro n
        rw [List.foldl_cons, inductionHypothesis, List.flatMap_cons,
          List.length_append, escapeChar_length]
        split_ifs <;> omega
  rw [htmlEscapeLen, counts, Nat.zero_add, escaped]

/-! ## Clipping -/

/-- Adding to a clipped page clips the longer page. -/
theorem pageAdd_take {n : Nat} (positive : 0 < n) (page text : List UInt8) :
    pageAdd n (page.take (n - 1)) text = (page ++ text).take (n - 1) := by
  have clipped : ¬ n ≤ (page.take (n - 1)).length := by
    rw [List.length_take]
    omega
  rw [pageAdd, if_neg clipped, List.take_append, List.take_take, Nat.min_self,
    List.take_append]
  congr 2
  rw [List.length_take]
  omega

theorem pageAdd_nil {n : Nat} (positive : 0 < n) (text : List UInt8) :
    pageAdd n [] text = text.take (n - 1) := by
  simpa using pageAdd_take positive [] text

/-- Adding one text for each item clips all of them. -/
theorem foldl_pageAdd {Item : Type} {n : Nat} (positive : 0 < n)
    (text : Item → List UInt8) (items : List Item) (page : List UInt8) :
    items.foldl (fun page item => pageAdd n page (text item))
        (page.take (n - 1)) =
      (page ++ items.flatMap text).take (n - 1) := by
  induction items generalizing page with
  | nil =>
      simp
  | cons item rest inductionHypothesis =>
      rw [List.foldl_cons, pageAdd_take positive, inductionHypothesis,
        List.flatMap_cons, List.append_assoc]

/-! ## The pieces of a page -/

/-- The links that `bm_render_links` writes. -/
def linkTexts (seen : List (Option Bookmark)) : List (List UInt8) :=
  seen.reduceOption.map fun b => linkText (bmEscape b).1 (bmEscape b).2

/-- All that `bm_render_links` writes. -/
def linkPieces (seen : List (Option Bookmark)) : List (List UInt8) :=
  if seen.length = 0 then [] else linksOpen :: linkTexts seen ++ [linksClose]

section Pieces

variable {n : Nat}

theorem pageAdd_clip (positive : 0 < n) (pieces : List (List UInt8))
    (text : List UInt8) :
    pageAdd n (clip n pieces) text = clip n (pieces ++ [text]) := by
  rw [clip, pageAdd_take positive, clip, List.flatten_append,
    List.flatten_singleton]

theorem foldl_links_clip (positive : 0 < n) (pieces : List (List UInt8))
    (seen : List (Option Bookmark)) :
    seen.foldl
        (fun w entry =>
          match entry with
          | none => w
          | some b => pageAdd n w (linkText (bmEscape b).1 (bmEscape b).2))
        (clip n pieces) = clip n (pieces ++ linkTexts seen) := by
  induction seen generalizing pieces with
  | nil =>
      rw [linkTexts, List.reduceOption_nil, List.map_nil, List.append_nil]
      rfl
  | cons entry seen inductionHypothesis =>
      rw [List.foldl_cons]
      cases entry with
      | none =>
          rw [linkTexts, List.reduceOption_cons_of_none]
          exact inductionHypothesis pieces
      | some b =>
          dsimp only
          rw [pageAdd_clip positive, inductionHypothesis, linkTexts, linkTexts,
            List.reduceOption_cons_of_some, List.map_cons, List.append_assoc,
            List.singleton_append]

theorem bmRenderLinks_clip (positive : 0 < n)
    (seen : List (Option Bookmark)) :
    bmRenderLinks n seen = clip n (linkPieces seen) := by
  rw [bmRenderLinks, linkPieces]
  by_cases empty : seen.length = 0
  · rw [if_pos empty, if_pos empty, ClippedBuffer.clip_nil]
  · have opened : pageAdd n [] linksOpen = clip n [linksOpen] := by
      rw [pageAdd_nil positive, clip, List.flatten_singleton]
    have linked := congrArg (fun page => pageAdd n page linksClose)
      (foldl_links_clip positive [linksOpen] seen)
    rw [if_neg empty, if_neg empty, opened]
    refine linked.trans ?_
    rw [pageAdd_clip positive]
    rfl

/-- The pieces of the status page. -/
def rootPieces (s : Status) (seen : List (Option Bookmark)) :
    List (List UInt8) :=
  [s.head] ++ linkPieces seen ++ [s.tail seen.length]

theorem rootPage_clip (s : Status) (seen : List (Option Bookmark)) :
    rootPage s seen = clip (rootSize seen) (rootPieces s seen) := by
  have positive : 0 < rootSize seen := by
    unfold rootSize
    omega
  have headed : pageAdd (rootSize seen) [] s.head =
      clip (rootSize seen) [s.head] := by
    rw [pageAdd_nil positive, clip, List.flatten_singleton]
  have short := ClippedBuffer.clip_length_lt positive [s.head]
  rw [rootPage, headed, bmRenderLinks_clip (Nat.sub_pos_of_lt short),
    ← ClippedBuffer.clip_append, pageAdd_clip positive, rootPieces]

end Pieces

/-! ## The texts of a list -/

/-- The label of a link. -/
def label (saved : SavedBookmark) : List UInt8 :=
  if saved.title = [] then escaped saved.url else escaped saved.title

theorem bmEscape_saved (saved : SavedBookmark) :
    bmEscape saved.toBookmark = (escaped saved.url, label saved) := by
  have url : htmlEscape saved.url (bmUrlMax * 6) = escaped saved.url := by
    have short := saved.urlShort
    apply htmlEscape_eq
    rw [cstr_of_plain saved.urlPlain]
    unfold bmUrlMax at short ⊢
    omega
  have title : htmlEscape saved.title (bmTitleMax * 6) = escaped saved.title := by
    have short := saved.titleShort
    apply htmlEscape_eq
    rw [cstr_of_plain saved.titlePlain]
    unfold bmTitleMax at short ⊢
    omega
  rw [bmEscape, label, url, title]

def link (saved : SavedBookmark) : List UInt8 :=
  linkText (escaped saved.url) (label saved)

/-- The links of the status page. -/
def linksText (list : BookmarkList) : List UInt8 :=
  if list.entries = [] then []
  else linksOpen ++ list.entries.flatMap link ++ linksClose

/-- All `handler_root` asks `page_add` to write. -/
def rootText (s : Status) (list : BookmarkList) : List UInt8 :=
  s.head ++ linksText list ++ s.tail list.entries.length

def bmRow (entry : SavedBookmark × Nat) : List UInt8 :=
  bmRowText entry.2 (escaped entry.1.url) (label entry.1)

/-- The list on the page that manages the bookmarks. -/
def rowsText (list : BookmarkList) : List UInt8 :=
  if list.entries = [] then bmNone
  else grayBox ++ list.entries.zipIdx.flatMap bmRow ++ ascii "</div>"

/-- All `handler_bm_get` asks `page_add` to write. -/
def bmText (err : Bool) (list : BookmarkList) : List UInt8 :=
  bmHead ++ (if err then bmError else []) ++ rowsText list ++
    bmTail list.entries.length

theorem shown_length (list : BookmarkList) :
    list.shown.length = list.entries.length := by
  rw [BookmarkList.shown, List.length_map]

theorem linkTexts_shown (list : BookmarkList) :
    linkTexts list.shown = list.entries.map link := by
  have bookmarks : list.shown.reduceOption =
      list.entries.map SavedBookmark.toBookmark := by
    rw [List.reduceOption, BookmarkList.shown, List.filterMap_map]
    exact congrFun List.filterMap_eq_map list.entries
  rw [linkTexts, bookmarks, List.map_map]
  apply List.map_congr_left
  intro saved _
  rw [Function.comp_apply, bmEscape_saved, link]

theorem flatten_linkPieces (list : BookmarkList) :
    (linkPieces list.shown).flatten = linksText list := by
  rw [linkPieces, linksText, shown_length]
  by_cases empty : list.entries = []
  · rw [if_pos (List.length_eq_zero_iff.mpr empty), if_pos empty,
      List.flatten_nil]
  · rw [if_neg (mt List.length_eq_zero_iff.mp empty), if_neg empty,
      linkTexts_shown, List.flatten_append, List.flatten_cons,
      List.flatten_singleton, List.flatMap_def]

/-- The status page is its text clipped at the allocated size. -/
theorem rootPage_eq (s : Status) (list : BookmarkList) :
    rootPage s list.shown =
      (rootText s list).take (rootSize list.shown - 1) := by
  rw [rootPage_clip, clip, rootPieces, List.flatten_append,
    List.flatten_append, List.flatten_singleton, List.flatten_singleton,
    flatten_linkPieces, shown_length, rootText]

/-- So is the page that manages the bookmarks. -/
theorem bmPage_eq (err : Bool) (list : BookmarkList) :
    bmPage err list.shown =
      (bmText err list).take (bmSize list.shown - 1) := by
  have positive : 0 < bmSize list.shown := by
    unfold bmSize
    omega
  have front :
      (if err then
        pageAdd (bmSize list.shown) (bmHead.take (bmSize list.shown - 1))
          bmError
       else bmHead.take (bmSize list.shown - 1)) =
        (bmHead ++ if err then bmError else []).take
          (bmSize list.shown - 1) := by
    cases err with
    | false => simp
    | true => simp [pageAdd_take positive]
  simp only [bmPage]
  rw [pageAdd_nil positive, front, shown_length, bmText, rowsText]
  by_cases empty : list.entries = []
  · simp only [empty, List.length_nil, if_true]
    rw [pageAdd_take positive, pageAdd_take positive]
  · have some : ¬ list.entries.length = 0 := by simpa using empty
    have listed (page : List UInt8) :
        list.entries.zipIdx.foldl
            (fun page entry =>
              pageAdd (bmSize list.shown) page
                (bmRowText entry.2 (escaped entry.1.url) (label entry.1)))
            (page.take (bmSize list.shown - 1)) =
          (page ++ list.entries.zipIdx.flatMap bmRow).take
            (bmSize list.shown - 1) :=
      foldl_pageAdd positive bmRow list.entries.zipIdx page
    rw [if_neg some, if_neg empty, pageAdd_take positive, BookmarkList.shown,
      List.zipIdx_map, List.foldl_map]
    simp only [Prod.map_fst, Prod.map_snd, id_eq, bmEscape_saved]
    rw [← BookmarkList.shown, listed, pageAdd_take positive,
      pageAdd_take positive]
    simp only [List.append_assoc]

/-! ## Lengths -/

/-- The escaped addresses of the bookmarks without a title. -/
def untitled (entries : List SavedBookmark) : List UInt8 :=
  entries.flatMap fun saved =>
    if saved.title = [] then escaped saved.url else []

/-- Every title and address, escaped. -/
def allEscaped (entries : List SavedBookmark) : List UInt8 :=
  entries.flatMap fun saved => escaped saved.title ++ escaped saved.url

theorem bmEscapedTotal_eq (list : BookmarkList) :
    bmEscapedTotal list.shown = (allEscaped list.entries).length := by
  have counts : ∀ (entries : List SavedBookmark) (n : Nat),
      (entries.map fun saved => some saved.toBookmark).foldl addEscapedLen n =
        n + (allEscaped entries).length := by
    intro entries
    induction entries with
    | nil => simp [allEscaped]
    | cons saved rest inductionHypothesis =>
        intro n
        rw [List.map_cons, List.foldl_cons, inductionHypothesis]
        simp only [addEscapedLen, htmlEscapeLen_eq, allEscaped,
          List.flatMap_cons, List.length_append]
        omega
  rw [bmEscapedTotal, BookmarkList.shown, counts, Nat.zero_add]

theorem label_length (saved : SavedBookmark) :
    (label saved).length =
      (escaped saved.title).length +
        (if saved.title = [] then escaped saved.url else []).length := by
  by_cases empty : saved.title = []
  · simp [label, empty, escaped, cstr]
  · simp [label, empty]

theorem link_length (saved : SavedBookmark) :
    (link saved).length =
      43 + (escaped saved.url).length + (label saved).length := by
  have opens : (ascii "<a href=\"").length = 9 := ascii_literal_length rfl
  have middle : (ascii "\" style='font-size:120%;'>").length = 26 :=
    ascii_literal_length rfl
  have closes : (ascii "</a><br>").length = 8 := ascii_literal_length rfl
  simp only [link, linkText, List.length_append, opens, middle, closes]
  omega

theorem links_length (entries : List SavedBookmark) :
    (entries.flatMap link).length =
      43 * entries.length + (allEscaped entries).length +
        (untitled entries).length := by
  induction entries with
  | nil =>
      simp [allEscaped, untitled]
  | cons saved rest inductionHypothesis =>
      have labelled := label_length saved
      simp only [allEscaped, untitled] at inductionHypothesis ⊢
      simp only [List.flatMap_cons, List.length_append, List.length_cons,
        link_length, inductionHypothesis]
      omega

theorem decimal_length_le {n : Nat} (small : n ≤ bmMax) :
    (decimal n).length ≤ 2 := by
  have short : ∀ n ≤ bmMax, (decimal (n : Nat)).length ≤ 2 := by decide
  exact short n small

theorem bmRow_length_le (saved : SavedBookmark) {i : Nat} (small : i < bmMax) :
    (bmRow (saved, i)).length ≤
      127 + 2 * (escaped saved.url).length + (label saved).length := by
  have number : (decimal ((i : Int) + 1)).length ≤ 2 :=
    decimal_length_le (n := i + 1) small
  have index := decimal_length_le small.le
  have one : (ascii ". <a href=\"").length = 11 := ascii_literal_length rfl
  have two : (ascii "\"><b>").length = 5 := ascii_literal_length rfl
  have three : (ascii "</b></a><br>").length = 12 := ascii_literal_length rfl
  have four : (ascii "<small>").length = 7 := ascii_literal_length rfl
  have five : (ascii "</small><br>").length = 12 := ascii_literal_length rfl
  have six : (ascii "[<a href='/bm/edit?i=").length = 21 :=
    ascii_literal_length rfl
  have seven : (ascii "'>edit</a>] ").length = 12 := ascii_literal_length rfl
  have eight : (ascii "[<a href='/bm/del?i=").length = 20 :=
    ascii_literal_length rfl
  have nine : (ascii "'>delete</a>]<br><br>").length = 21 :=
    ascii_literal_length rfl
  simp only [bmRow, bmRowText, List.length_append, one, two, three, four, five,
    six, seven, eight, nine]
  omega

theorem rows_length_le (entries : List SavedBookmark) (first : Nat)
    (few : first + entries.length ≤ bmMax) :
    ((entries.zipIdx first).flatMap bmRow).length ≤
      127 * entries.length + 2 * (allEscaped entries).length +
        (untitled entries).length := by
  induction entries generalizing first with
  | nil =>
      simp
  | cons saved rest inductionHypothesis =>
      rw [List.length_cons] at few
      have row := bmRow_length_le saved (i := first) (by omega)
      have labelled := label_length saved
      have others := inductionHypothesis (first + 1) (by omega)
      simp only [allEscaped, untitled] at others ⊢
      simp only [List.zipIdx_cons, List.flatMap_cons, List.length_append,
        List.length_cons]
      omega

/-! ## The pages -/

/-- Nothing is clipped: the size is larger than everything `page_add` is asked
to write, and the page is all of it. -/
def Unclipped (size : Nat) (asked page : List UInt8) : Prop :=
  asked.length < size ∧ page = asked

/-- The addresses shown as labels, with the text around the links, fit what the
estimate leaves. -/
def Status.LabelsFit (s : Status) (list : BookmarkList) : Prop :=
  (untitled list.entries).length + s.head.length +
      (if list.entries = [] then [] else linksOpen ++ linksClose).length +
      (s.tail list.entries.length).length <
    3072 + 21 * list.entries.length

instance (s : Status) (list : BookmarkList) : Decidable (s.LabelsFit list) :=
  inferInstanceAs (Decidable (_ < _))

theorem unclipped_iff {size : Nat} {asked page : List UInt8}
    (clips : page = asked.take (size - 1)) :
    Unclipped size asked page ↔ asked.length < size := by
  refine ⟨fun whole => whole.1, fun small => ⟨small, ?_⟩⟩
  rw [clips, List.take_of_length_le (by omega)]

theorem linksText_length (list : BookmarkList) :
    (linksText list).length =
      (if list.entries = [] then [] else linksOpen ++ linksClose).length +
        43 * list.entries.length + (allEscaped list.entries).length +
        (untitled list.entries).length := by
  have links := links_length list.entries
  unfold linksText
  split_ifs with empty
  · simp [empty, allEscaped, untitled]
  · simp only [List.length_append, links]
    omega

theorem root_unclipped_iff (s : Status) (list : BookmarkList) :
    Unclipped (rootSize list.shown) (rootText s list)
        (rootPage s list.shown) ↔ s.LabelsFit list := by
  rw [unclipped_iff (rootPage_eq s list), rootText, rootSize, Status.LabelsFit,
    bmEscapedTotal_eq, shown_length, List.length_append, List.length_append,
    linksText_length]
  omega

theorem bmTail_length_le {count : Nat} (few : count ≤ bmMax) :
    (bmTail count).length ≤ 232 := by
  have used := decimal_length_le few
  have all := decimal_length_le (n := bmMax) le_rfl
  have footer : pageFooter.length = 86 := by
    simp only [pageFooter, List.length_append, ascii_literal_length rfl]
    rfl
  have one : (ascii "<p>(").length = 4 := ascii_literal_length rfl
  have two : (ascii "/").length = 1 := ascii_literal_length rfl
  have three : (ascii " used)</p>").length = 10 := ascii_literal_length rfl
  have four : (ascii "<hr>").length = 4 := ascii_literal_length rfl
  have five : (ascii "<a href='/'>Status</a><br>").length = 26 :=
    ascii_literal_length rfl
  have six : (ascii "<a href='/wifi'>WiFi networks</a>").length = 33 :=
    ascii_literal_length rfl
  have seven : (ascii "<br>").length = 4 := ascii_literal_length rfl
  have offer :
      (if count < bmMax then
        ascii "<a href='/bm/edit' style='font-size:120%'>Add a bookmark</a>"
       else ascii "<p>List is full - delete one first.</p>").length ≤ 60 := by
    split
    · exact Nat.le_of_eq (ascii_literal_length rfl)
    · exact (ascii_literal_length rfl).trans_le (by decide)
  simp only [bmTail, List.length_append, footer, one, two, three, four, five,
    six, seven]
  omega

theorem bmFrame_length_le (err : Bool) {count : Nat} (few : count ≤ bmMax) :
    bmHead.length + (if err then bmError else []).length +
      (bmTail count).length ≤ 619 := by
  have head : bmHead.length = 276 := by
    simp only [bmHead, metaCharset, metaViewport, metaFormat, bodyOpen,
      List.length_append, ascii_literal_length rfl]
    rfl
  have rejected : (if err then bmError else []).length ≤ 111 := by
    cases err with
    | false => decide
    | true => decide +kernel
  have tail := bmTail_length_le few
  omega

/-- What the status page is at least, without the addresses. -/
theorem rootFrame_length_ge (s : Status) (count : Nat) :
    726 ≤
      s.head.length + (linksOpen ++ linksClose).length +
        (s.tail count).length := by
  have charset : metaCharset.length = 22 := ascii_literal_length rfl
  have viewport : metaViewport.length = 67 := ascii_literal_length rfl
  have format : metaFormat.length = 53 := ascii_literal_length rfl
  have body : bodyOpen.length = 69 := ascii_literal_length rfl
  have links : (linksOpen ++ linksClose).length = 54 := by
    simp only [linksOpen, linksClose, List.length_append,
      ascii_literal_length rfl]
    rfl
  have box : grayBox.length = 62 := ascii_literal_length rfl
  have menu : rootMenu.length = 399 := by
    simp only [rootMenu, pageFooter, List.length_append,
      ascii_literal_length rfl]
    rfl
  have head :
      metaCharset.length + metaViewport.length + metaFormat.length +
        bodyOpen.length ≤ s.head.length := by
    simp only [Status.head, List.length_append]
    omega
  have tail : grayBox.length + rootMenu.length ≤ (s.tail count).length := by
    simp only [Status.tail, List.length_append]
    omega
  omega

/-- The page that manages the bookmarks has more room than the status page. -/
theorem bm_unclipped (err : Bool) {s : Status} {list : BookmarkList}
    (fits : s.LabelsFit list) :
    Unclipped (bmSize list.shown) (bmText err list) (bmPage err list.shown) := by
  rw [unclipped_iff (bmPage_eq err list), bmSize, bmEscapedTotal_eq,
    shown_length, bmText, List.length_append, List.length_append,
    List.length_append]
  have frame := bmFrame_length_le err list.bounded
  by_cases empty : list.entries = []
  · have nothing : bmNone.length = 158 := by
      simp only [bmNone, List.length_append, ascii_literal_length rfl]
      rfl
    rw [rowsText, if_pos empty]
    omega
  · have root := rootFrame_length_ge s list.entries.length
    have rows := rows_length_le list.entries 0
      (by simpa using list.bounded)
    have opens : grayBox.length = 62 := ascii_literal_length rfl
    have closes : (ascii "</div>").length = 6 := ascii_literal_length rfl
    rw [Status.LabelsFit, if_neg empty] at fits
    rw [rowsText, if_neg empty, List.length_append, List.length_append, opens,
      closes]
    omega

/-- The status page and the page that manages the bookmarks are whole exactly
when the addresses that serve as labels fit. -/
theorem pages_unclipped_iff (s : Status) (err : Bool) (list : BookmarkList) :
    (Unclipped (rootSize list.shown) (rootText s list)
        (rootPage s list.shown) ∧
      Unclipped (bmSize list.shown) (bmText err list)
        (bmPage err list.shown)) ↔
      s.LabelsFit list := by
  rw [root_unclipped_iff]
  exact and_iff_left_of_imp fun fits => bm_unclipped err fits

/-- An address of a hundred ampersands, without a title. -/
def ampersands : SavedBookmark where
  title := []
  url := ascii "http://" ++ List.replicate 100 38
  titleShort := by decide
  titlePlain := by simp
  urlShort := by decide
  urlPlain := by
    intro c member
    rcases List.mem_append.mp member with scheme | rest
    · exact scheme_plain c scheme
    · rw [List.eq_of_mem_replicate rest]
      decide
  urlPresent := by decide

/-- A full list of them. -/
def fullOfAmpersands : BookmarkList :=
  ⟨List.replicate bmMax ampersands, by decide⟩

/-- Nothing to report. -/
def bareStatus : Status :=
  ⟨.bridge, [], true, true, true, [], [], 0, 0, 1, false, [], 0, 0, 0⟩

/-- The status page of a full list of bookmarks without titles is clipped. -/
theorem untitled_bookmarks_clip :
    ¬ Unclipped (rootSize fullOfAmpersands.shown)
      (rootText bareStatus fullOfAmpersands)
      (rootPage bareStatus fullOfAmpersands.shown) := by
  intro whole
  have fits := (root_unclipped_iff _ _).mp whole
  have long : (untitled fullOfAmpersands.entries).length = 24 * 507 := by
    have one : (escaped ampersands.url).length = 507 := by decide +kernel
    have noTitle : ampersands.title = [] := rfl
    simp [untitled, fullOfAmpersands, bmMax, noTitle, one]
  have entries : fullOfAmpersands.entries.length = 24 := by decide
  rw [Status.LabelsFit, long, entries] at fits
  omega

end VeteraBridge.Web

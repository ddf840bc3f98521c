import VeteraBridge.Web.SavedAgain
import VeteraBridge.Web.SubmittedForm

/-!
# The form that edits a bookmark

`handler_bm_edit` shows a bookmark in a form, and `handler_bm_save` stores what
comes back.  On the way a text is escaped, read by a browser, encoded, cut into
fields and decoded.
-/

namespace VeteraBridge.Web

open Bookmarks
open CrashLogic (Outcome)
open FormEncoding
open Proxy (ascii cstr space)

/-! ## The page -/

/-- What a handler answers with a page, behind the captive check. -/
inductive PageReply where
  | redirect (location : List UInt8)
  | page (text : List UInt8)
deriving DecidableEq, Repr

def bmEditVerb (editing : Bool) : List UInt8 :=
  if editing then ascii "Edit" else ascii "Add"

/-- The page up to the index. -/
def bmEditHead (editing : Bool) : List UInt8 :=
  ascii "<html><head><title>" ++ bmEditVerb editing ++
    ascii " Bookmark</title>" ++ metaCharset ++ metaViewport ++ metaFormat ++
    ascii "</head>" ++ bodyOpen ++ ascii "<h2>" ++ bmEditVerb editing ++
    ascii " Bookmark</h2><hr>" ++
    ascii "<form action='/bm/save' method='post'>" ++
    ascii "<input type='hidden' name='i' value='"

/-- From the index to the title. -/
def bmEditName : List UInt8 :=
  ascii "<p>Name:<br>" ++
    ascii "<input type='text' name='title' size='20' maxlength='" ++
    decimal (bmTitleMax - 1 : Nat) ++ ascii "' value=\""

/-- From the title to the address. -/
def bmEditAddress : List UInt8 :=
  ascii "</p>" ++ ascii "<p>Address:<br>" ++
    ascii "<input type='text' name='url' size='30' maxlength='" ++
    decimal (bmUrlMax - 1 : Nat) ++ ascii "' value=\""

def bmEditTail : List UInt8 :=
  ascii "</p>" ++
    ascii "<p><input type='submit' value='Save' style='font-size:110%;'></p>" ++
    ascii "</form>" ++
    ascii "<p style='text-align:left;'><small>http:// is added " ++
    ascii "automatically if you leave it off. HTTPS sites will not load on " ++
    ascii "an S60v1 phone - its TLS is too old - so plain http:// addresses " ++
    ascii "are the useful ones.</small></p>" ++ ascii "<hr>" ++
    ascii "<a href='/bm'>Bookmarks</a><br>" ++ ascii "<a href='/'>Status</a>" ++
    ascii "<br>" ++ pageFooter

/-- The text of the page, with the escaped title and address. -/
def bmEditText (editing : Bool) (index : Int) (title url : List UInt8) :
    List UInt8 :=
  bmEditHead editing ++ decimal index ++ ascii "'>" ++ bmEditName ++ title ++
    ascii "\">" ++ bmEditAddress ++ url ++ ascii "\">" ++ bmEditTail

/-- What `bookmarks_get` leaves in a cleared `bookmark_t`, whatever it
returns. -/
def bookmarksOut (st : Statics) (nvs : Nvs) (index : Int) : Bookmark :=
  if st.bmNvs = false ∨ index < 0 ∨ (st.bmCount : Int) ≤ index then ⟨[], []⟩
  else ((rawRead nvs index.toNat bmRawMax).map splitRecord).getD ⟨[], []⟩

/-- The size `handler_bm_edit` allocates. -/
def bmEditSize : Nat := 2048 + bmUrlMax * 6 + bmTitleMax * 6

/-- The index that `handler_bm_edit` is asked for; `urlQuery` is the query of
the address, if there is one that fits. -/
def bmEditAsked (query : QueryFn) (urlQuery : Option (List UInt8)) : Int :=
  match urlQuery with
  | none => -1
  | some text =>
    let (status, val) := query text (ascii "i") 8
    if status = .ok then strtol 10 val else -1

/-- `handler_bm_edit`. -/
def handlerBmEdit (query : QueryFn) (d : Device)
    (urlQuery : Option (List UInt8)) : PageReply :=
  let asked := bmEditAsked query urlQuery
  let b := if 0 ≤ asked then bookmarksOut d.st d.nvs asked else ⟨[], []⟩
  let editing := 0 ≤ asked && (bookmarksGet d.st d.nvs asked).isSome
  let index := if editing then asked else -1
  if editing = false ∧ bmMax ≤ d.st.bmCount then .redirect (ascii "/bm")
  else
    let urlEsc := htmlEscape b.url (bmUrlMax * 6)
    let titleEsc := htmlEscape b.title (bmTitleMax * 6)
    .page ((bmEditText editing index titleEsc urlEsc).take (bmEditSize - 1))

/-! ## What comes back -/

/-- Where `handler_bm_save` redirects to, by what `bookmarks_set` returns. -/
def saveReply : Option Bool × Device → Option (List UInt8) × Device
  | (some true, d) => (some (ascii "/bm"), d)
  | (some false, d) => (some (ascii "/bm?err=1"), d)
  | (none, d) => (none, d)

/-- `handler_bm_save`: where it redirects to, if it does, and the device. -/
def handlerBmSave (query : QueryFn) (d : Device) (plan : List Outcome)
    (received : Bool) (content : List UInt8) : Option (List UInt8) × Device :=
  match recvBody received content 1024 with
  | none => (none, d)
  | some buf =>
    let (status, ru) := query buf (ascii "url") 512
    if status ≠ .ok then (some (ascii "/bm"), d)
    else
      let ri := (query buf (ascii "i") 8).2
      let rt := (query buf (ascii "title") 128).2
      let index : Int := if cstr ri = [] then -1 else strtol 10 ri
      saveReply
        (d.perform
          (.set index (some (formDecode rt 128)) (some (formDecode ru 512)))
          plan)

/-! ## Reading the page -/

/-- The fields of the form. -/
def bmFields (index : Int) (title url : List UInt8) : Fields :=
  [(ascii "i", decimal index), (ascii "title", title), (ascii "url", url)]

/-- An index that a form can hold. -/
def FormIndex (index : Int) : Prop := -1 ≤ index ∧ index < bmMax

theorem forall_formIndex {p : Int → Prop} (new : p (-1))
    (old : ∀ n < bmMax, p (n : Nat)) {index : Int} (small : FormIndex index) :
    p index := by
  obtain ⟨least, most⟩ := small
  by_cases negative : index = -1
  · rwa [negative]
  · have isNat : index = (index.toNat : Nat) := by omega
    rw [isNat]
    exact old index.toNat (by omega)

/-- The decimal form of an index passes page, browser and body as it is. -/
def PassesAsIs (index : Int) : Prop :=
  (39 ∉ decimal index ∧ htmlUnescape (decimal index) = decimal index) ∧
    Unreserved (decimal index) ∧
    (decimal index).length ≤ 2 ∧ cstr (decimal index) ≠ [] ∧
    strtol 10 (decimal index) = index

instance (index : Int) : Decidable (PassesAsIs index) :=
  inferInstanceAs (Decidable (_ ∧ _))

theorem FormIndex.passesAsIs {index : Int} (small : FormIndex index) :
    PassesAsIs index := by
  have new : PassesAsIs (-1) := by decide
  have old : ∀ n < bmMax, PassesAsIs (n : Nat) := by decide
  exact forall_formIndex new old small

/-- The beginning of a tag that ends in a value. -/
abbrev openInput (kind name : String) : Markup.Tag :=
  [(ascii "input", none), (ascii "type", some (ascii kind)),
    (ascii "name", some (ascii name))]

/-- The beginning of a tag for a text. -/
abbrev openText (name size limit : String) : Markup.Tag :=
  openInput "text" name ++
    [(ascii "size", some (ascii size)), (ascii "maxlength", some (ascii limit))]

/-- The fixed pieces of the page. -/
theorem bmEdit_pieces (editing : Bool) :
    Piece .text (bmEditHead editing)
        (.quoted (openInput "hidden" "i") (ascii "value") 39 []) 500 ∧
      Piece .text bmEditName
        (.quoted (openText "title" "20" "31") (ascii "value") 34 []) 100 ∧
      Piece .text bmEditAddress
        (.quoted (openText "url" "30" "159") (ascii "value") 34 []) 100 ∧
      Piece .text bmEditTail .text 500 := by
  cases editing with
  | false =>
      simp only [bmEditHead, bmEditVerb, bmEditName, bmEditAddress, bmEditTail,
        metaCharset, metaViewport, metaFormat, bodyOpen, pageFooter,
        Bool.false_eq_true, if_false, ascii_literal rfl]
      decide +kernel
  | true =>
      simp only [bmEditHead, bmEditVerb, bmEditName, bmEditAddress, bmEditTail,
        metaCharset, metaViewport, metaFormat, bodyOpen, pageFooter, if_true,
        ascii_literal rfl]
      decide +kernel

/-- An escaped text within double quotes. -/
theorem reads_escaped {Item : Type} {wanted : Markup.Tag → Option Item}
    (read : Markup.Tag) (name text : List UInt8) :
    Markup.Reads wanted (.quoted read name 34 []) (escaped text) []
      (.quoted read name 34 (escaped text)) := by
  have noQuote : (34 : UInt8) ∉ escaped text := fun member =>
    ((flatMap_escapeChar_inert (cstr text)).noMarkup 34 member).2.2 rfl
  have reads : Markup.Reads wanted (.quoted read name 34 []) (escaped text) []
      (.quoted read name 34 ([] ++ escaped text)) :=
    Markup.reads_quoted read name [] noQuote
  rwa [List.nil_append] at reads

theorem htmlUnescape_escaped (text : List UInt8) :
    htmlUnescape (escaped text) = cstr text :=
  readHtml_recognises.read_flatMap (cstr text)

/-- A browser reads the index, the title and the address off the page. -/
theorem shownForm_bmEditText (editing : Bool) {index : Int}
    (small : FormIndex index) (title url : List UInt8) :
    shownForm (bmEditText editing index (escaped title) (escaped url)) =
      bmFields index (cstr title) (cstr url) := by
  obtain ⟨⟨noQuote, unescaped⟩, _⟩ := small.passesAsIs
  obtain ⟨head, name, address, tail⟩ := bmEdit_pieces editing
  have number : ReadsForm
      (.quoted (openInput "hidden" "i") (ascii "value") 39 []) (decimal index)
      [] (.quoted (openInput "hidden" "i") (ascii "value") 39
        ([] ++ decimal index)) :=
    Markup.reads_quoted _ _ [] noQuote
  have reads :=
    (((((((head.reads.append number).append
      (Markup.reads_close _ _ 39 _)).append name.reads).append
      (reads_escaped _ _ title)).append (Markup.reads_close _ _ 34 _)).append
      address.reads).append (reads_escaped _ _ url)).append
      (Markup.reads_close _ _ 34 _)
  have whole := (reads.append tail.reads).shownForm
  have fields :
      bmFields index (cstr title) (cstr url) =
        [(ascii "i", htmlUnescape (decimal index)),
          (ascii "title", htmlUnescape (escaped title)),
          (ascii "url", htmlUnescape (escaped url))] := by
    rw [bmFields, unescaped, htmlUnescape_escaped, htmlUnescape_escaped]
  rw [fields]
  exact whole

/-! ## The page is whole -/

theorem escaped_length_le (text : List UInt8) :
    (escaped text).length ≤ 6 * (cstr text).length := by
  rw [escaped]
  induction cstr text with
  | nil => simp
  | cons c rest inductionHypothesis =>
      have one := escapeChar_length_le c
      rw [List.flatMap_cons, List.length_append, List.length_cons]
      omega

theorem bmEditText_length_lt (editing : Bool) {index : Int}
    (small : FormIndex index) {title url : List UInt8}
    (titleShort : (cstr title).length < bmTitleMax)
    (urlShort : (cstr url).length < bmUrlMax) :
    (bmEditText editing index (escaped title) (escaped url)).length <
      bmEditSize := by
  obtain ⟨⟨_, head⟩, ⟨_, name⟩, ⟨_, address⟩, _, tail⟩ :=
    bmEdit_pieces editing
  have closes : (ascii "'>").length = 2 ∧ (ascii "\">").length = 2 := by decide
  have number := small.passesAsIs.2.2.1
  have titleLength := escaped_length_le title
  have urlLength := escaped_length_le url
  simp only [bmEditText, List.length_append, closes.1, closes.2]
  unfold bmEditSize
  omega

/-! ## What the handlers do -/

section Handlers

variable {query : QueryFn} {d : Device} {list : BookmarkList}

/-- The query of a link to the form: of a bookmark, or to add one. -/
def editLink (asked : Option (Fin bmMax)) : Option (List UInt8) :=
  asked.map fun i : Fin bmMax => formBody [(ascii "i", decimal (i : Nat))]

/-- The bookmark a link leads to. -/
def linked (list : BookmarkList) (asked : Option (Fin bmMax)) :
    Option SavedBookmark :=
  asked.bind fun i : Fin bmMax => list.entries[(i : Nat)]?

/-- What the form shows: a bookmark, or nothing. -/
def formBookmark : Option SavedBookmark → Bookmark
  | none => ⟨[], []⟩
  | some saved => saved.toBookmark

/-- The index in the form. -/
def formIndex (list : BookmarkList) (asked : Option (Fin bmMax)) : Int :=
  match asked with
  | none => -1
  | some i => if (i : Nat) < list.entries.length then (i : Nat) else -1

theorem formIndex_small (list : BookmarkList) (asked : Option (Fin bmMax)) :
    FormIndex (formIndex list asked) := by
  have positive : 0 < bmMax := by decide
  rw [FormIndex]
  cases asked with
  | none =>
      rw [formIndex]
      omega
  | some i =>
      have small := i.isLt
      rw [formIndex]
      split <;> omega

/-- The index a link asks for is found. -/
theorem query_editLink (laws : FormLaws query) (i : Fin bmMax) :
    query (formBody [(ascii "i", decimal (i : Nat))]) (ascii "i") 8 =
      (.ok, decimal (i : Nat)) := by
  have small : FormIndex (i : Nat) := by
    have inside := i.isLt
    rw [FormIndex]
    omega
  obtain ⟨_, plain, short, _, _⟩ := small.passesAsIs
  have key : Unreserved (ascii "i") := by decide
  have submits :
      Submits [(ascii "i", decimal (i : Nat))]
        (formBody [(ascii "i", decimal (i : Nat))]) :=
    ⟨_, .cons ⟨sends_of_unreserved key, sends_of_unreserved plain⟩ .nil, rfl⟩
  have names : PlainNames [ascii "i"] := by decide
  have present :
      fieldValue [(ascii "i", decimal (i : Nat))] (ascii "i") =
        some (decimal (i : Nat)) := rfl
  exact submits.finds_plain laws names (ascii "i") 8 present plain (by omega)

theorem bmEditAsked_link (laws : FormLaws query) (i : Fin bmMax) :
    bmEditAsked query (editLink (some i)) = (i : Nat) := by
  have small : FormIndex (i : Nat) := by
    have inside := i.isLt
    rw [FormIndex]
    omega
  simp only [bmEditAsked, editLink, Option.map_some, query_editLink laws,
    if_true]
  exact small.passesAsIs.2.2.2.2

/-- What `bookmarks_get` leaves of a list. -/
theorem bookmarksOut_of_shows (shows : d.Shows list) (i : Nat) :
    bookmarksOut d.st d.nvs i =
      formBookmark list.entries[i]? := by
  have statics := shows.statics
  have notNegative : ¬ ((i : Int) < 0) := by omega
  cases stored : list.entries[i]? with
  | none =>
      have outside := List.getElem?_eq_none_iff.mp stored
      have beyond : (list.entries.length : Int) ≤ i := by omega
      simp [bookmarksOut, statics, beyond, formBookmark]
  | some saved =>
      have inside := (List.getElem?_eq_some_iff.mp stored).1
      have within : ¬ (list.entries.length : Int) ≤ i := by omega
      have read := shows.represents.records.read stored
      simp [bookmarksOut, statics, within, read, saved.split_record,
        formBookmark]

theorem formBookmark_texts (saved : Option SavedBookmark) :
    (cstr (formBookmark saved).title = (formBookmark saved).title ∧
        (formBookmark saved).title.length < bmTitleMax) ∧
      cstr (formBookmark saved).url = (formBookmark saved).url ∧
        (formBookmark saved).url.length < bmUrlMax := by
  cases saved with
  | none => decide
  | some saved =>
      exact ⟨⟨cstr_of_plain saved.titlePlain, saved.titleShort⟩,
        cstr_of_plain saved.urlPlain, saved.urlShort⟩

/-- The buffers hold the escaped texts, and the page is whole. -/
theorem bmEditText_take (editing : Bool) {index : Int}
    (small : FormIndex index) (saved : Option SavedBookmark) :
    (bmEditText editing index
        (htmlEscape (formBookmark saved).title (bmTitleMax * 6))
        (htmlEscape (formBookmark saved).url (bmUrlMax * 6))).take
          (bmEditSize - 1) =
      bmEditText editing index (escaped (formBookmark saved).title)
        (escaped (formBookmark saved).url) := by
  obtain ⟨⟨titleText, titleShort⟩, urlText, urlShort⟩ :=
    formBookmark_texts saved
  have title :
      htmlEscape (formBookmark saved).title (bmTitleMax * 6) =
        escaped (formBookmark saved).title := by
    apply htmlEscape_eq
    rw [titleText]
    unfold bmTitleMax at titleShort ⊢
    omega
  have url :
      htmlEscape (formBookmark saved).url (bmUrlMax * 6) =
        escaped (formBookmark saved).url := by
    apply htmlEscape_eq
    rw [urlText]
    unfold bmUrlMax at urlShort ⊢
    omega
  rw [← titleText] at titleShort
  rw [← urlText] at urlShort
  have fits := bmEditText_length_lt editing small titleShort urlShort
  rw [title, url, List.take_of_length_le (by omega)]

/-- The form a link leads to, or back to the bookmarks when none can be
added. -/
theorem handlerBmEdit_eq (laws : FormLaws query) (shows : d.Shows list)
    (asked : Option (Fin bmMax)) :
    handlerBmEdit query d (editLink asked) =
      if linked list asked = none ∧ bmMax ≤ list.entries.length then
        .redirect (ascii "/bm")
      else
        .page (bmEditText (linked list asked).isSome (formIndex list asked)
          (escaped (formBookmark (linked list asked)).title)
          (escaped (formBookmark (linked list asked)).url)) := by
  have count : d.st.bmCount = list.entries.length := by rw [shows.statics]
  have small := formIndex_small list asked
  rw [← bmEditText_take _ small, handlerBmEdit, count]
  cases asked with
  | none =>
      have index : bmEditAsked query (editLink none) = -1 := rfl
      have isNew : linked list none = none := rfl
      have notAsked : ¬ (0 : Int) ≤ -1 := by decide
      simp only [index, isNew, notAsked, formIndex, formBookmark, if_false,
        decide_false, Bool.false_and, Bool.false_eq_true, Option.isSome_none]
  | some i =>
      have index := bmEditAsked_link laws i
      have asks : (0 : Int) ≤ (i : Nat) := Int.natCast_nonneg i
      have read : bookmarksGet d.st d.nvs (i : Nat) =
          list.entries[(i : Nat)]?.map SavedBookmark.toBookmark :=
        get_of_shows shows
      have out := bookmarksOut_of_shows shows i
      have isLinked : linked list (some i) = list.entries[(i : Nat)]? := rfl
      simp only [index, asks, read, out, isLinked, formIndex, if_true,
        decide_true, Bool.true_and, Option.isSome_map]
      cases stored : list.entries[(i : Nat)]? with
      | none =>
          have outside := List.getElem?_eq_none_iff.mp stored
          simp only [Option.isSome_none, Bool.false_eq_true, if_false,
            if_neg (not_lt.mpr outside)]
      | some saved =>
          have inside := (List.getElem?_eq_some_iff.mp stored).1
          simp only [Option.isSome_some, Bool.true_eq_false, reduceCtorEq,
            false_and, if_false, if_true, if_pos inside]

/-- What the form sends is stored as it was typed. -/
theorem handlerBmSave_of_submits (laws : FormLaws query) {index : Int}
    (small : FormIndex index) {title url body : List UInt8}
    (titleFits : 3 * title.length < 128) (urlFits : 3 * url.length < 512)
    (submits : Submits (bmFields index title url) body) (plan : List Outcome) :
    handlerBmSave query d plan true body =
      saveReply (d.perform (.set index (some title) (some url)) plan) := by
  obtain ⟨_, plain, short, present, number⟩ := small.passesAsIs
  have key : (ascii "i").length = 1 ∧ (ascii "title").length = 5 ∧
      (ascii "url").length = 3 := by decide
  have names : PlainNames ((bmFields index title url).map Prod.fst) := by
    show PlainNames [ascii "i", ascii "title", ascii "url"]
    decide
  have received : recvBody true body 1024 = some body := by
    apply recvBody_whole
    have length := submits.length_le names
    simp only [bmFields, List.map_cons, List.map_nil, List.sum_cons,
      List.sum_nil, key.1, key.2.1, key.2.2] at length
    omega
  obtain ⟨sentUrl, sendsUrl, foundUrl⟩ :=
    submits.finds_some laws names (ascii "url") 512 rfl urlFits
  obtain ⟨sentTitle, sendsTitle, foundTitle⟩ :=
    submits.finds_some laws names (ascii "title") 128 rfl titleFits
  have foundIndex : query body (ascii "i") 8 = (.ok, decimal index) :=
    submits.finds_plain laws names (ascii "i") 8 rfl plain
      (show (decimal index).length < 8 by omega)
  have titleText : formDecode sentTitle 128 = title :=
    formDecode_sends sendsTitle (show title.length < 128 by omega)
  have urlText : formDecode sentUrl 512 = url :=
    formDecode_sends sendsUrl (show url.length < 512 by omega)
  simp only [handlerBmSave, received, foundUrl, foundTitle, foundIndex, present,
    number, titleText, urlText, ne_eq, not_true_eq_false, if_false]

/-- A link leads back to the bookmarks only when it is to add one and none can
be added, and else to the whole form, with the bookmark's texts or empty ones.
Whatever is typed into the form, saving it calls `bookmarks_set` with the form's
index and the texts typed. -/
theorem edit_form_saves (laws : FormLaws query) (shows : d.Shows list)
    (asked : Option (Fin bmMax)) :
    let saved := linked list asked
    let index := formIndex list asked
    let shown := formBookmark saved
    (handlerBmEdit query d (editLink asked) = .redirect (ascii "/bm") ↔
      saved = none ∧ list.entries.length = bmMax) ∧
    (¬(saved = none ∧ list.entries.length = bmMax) →
      let page :=
        bmEditText saved.isSome index (escaped shown.title) (escaped shown.url)
      handlerBmEdit query d (editLink asked) = .page page ∧
        shownForm page = bmFields index shown.title shown.url ∧
        ∀ (title url body : List UInt8) (later : Device) (plan : List Outcome),
          3 * title.length < 128 → 3 * url.length < 512 →
          Submits (bmFields index title url) body →
          handlerBmSave query later plan true body =
            saveReply
              (later.perform (.set index (some title) (some url)) plan)) := by
  intro saved index shown
  have bounded := list.bounded
  have small := formIndex_small list asked
  have isFull :
      saved = none ∧ bmMax ≤ list.entries.length ↔
        saved = none ∧ list.entries.length = bmMax := by
    refine and_congr_right fun _ => ?_
    omega
  rw [handlerBmEdit_eq laws shows asked, if_congr isFull rfl rfl]
  constructor
  · split
    · next full => exact iff_of_true rfl full
    · next leads => exact iff_of_false (by simp) leads
  · intro leads page
    obtain ⟨⟨titleText, _⟩, urlText, _⟩ := formBookmark_texts saved
    refine ⟨if_neg leads, ?_, ?_⟩
    · rw [shownForm_bmEditText _ small, titleText, urlText]
    · intro title url body later plan titleFits urlFits submits
      exact handlerBmSave_of_submits laws small titleFits urlFits submits plan

end Handlers

/-- The bookmark "a b" with the address "c/d", typed into the form of an empty
list. -/
theorem edit_form_saves_first :
    handlerBmSave piecesQuery (Device.boot (Nvs.fresh fun _ => none)) [] true
        (ascii "i=-1&title=a+b&url=c%2Fd") =
      saveReply
        ((Device.boot (Nvs.fresh fun _ => none)).perform
          (.set (-1) (some [97, 32, 98]) (some [99, 47, 100])) []) := by
  have saves := edit_form_saves piecesQuery_formLaws
    (Device.shows_fresh fun _ => none) none
  have notFull : ¬ (0 : Nat) = bmMax := by decide
  obtain ⟨-, -, stored⟩ := saves.2 fun full => notFull full.2
  refine stored _ _ _ _ _ (by decide) (by decide) ?_
  refine ⟨[(ascii "i", ascii "-1"), (ascii "title", [97, 43, 98]),
    (ascii "url", [99, 37, 50, 70, 100])], ?_, by decide⟩
  refine .cons
    ⟨sends_of_unreserved (by decide), sends_of_unreserved (by decide)⟩
    (.cons ⟨sends_of_unreserved (by decide), ?_⟩
      (.cons ⟨sends_of_unreserved (by decide), ?_⟩ .nil))
  · exact .literal (by decide) (.space (.literal (by decide) .nil))
  · exact .literal (by decide)
      (.escape (by decide) ⟨by decide, by decide⟩ (.literal (by decide) .nil))

/-! ## Sent back as it is shown -/

/-- Every bookmark was made from what was submitted. -/
def FromInput (list : BookmarkList) : Prop :=
  ∀ saved ∈ list.entries, ∃ title url,
    SavedBookmark.ofInput title url = some saved

theorem FromInput.apply {list : BookmarkList} (fromInput : FromInput list)
    (call : Call) : FromInput (call.apply list).2 := by
  cases call with
  | set index title url =>
      rw [Call.apply]
      cases made : url.bind (SavedBookmark.ofInput title) with
      | none => exact fromInput
      | some saved =>
          obtain ⟨url, rfl, ofInput⟩ := Option.bind_eq_some_iff.mp made
          dsimp only
          split_ifs
          · intro other member
            rcases List.mem_append.mp member with old | new
            · exact fromInput other old
            · rw [List.mem_singleton.mp new]
              exact ⟨title, url, ofInput⟩
          · exact fromInput
          · intro other member
            rcases List.mem_or_eq_of_mem_set member with old | rfl
            · exact fromInput other old
            · exact ⟨title, url, ofInput⟩
          · exact fromInput
  | remove index =>
      rw [Call.apply]
      split_ifs
      · intro saved member
        exact fromInput saved
          ((List.eraseIdx_sublist list.entries index.toNat).subset member)
      · exact fromInput

/-- The list that calls make. -/
def listAfter (calls : List Call) : BookmarkList :=
  EventRun.run (fun list (call : Call) => (call.apply list).2)
    BookmarkList.empty calls

/-- The device after calls on a healthy store. -/
def deviceAfter (str : List UInt8 → Option (List UInt8)) (calls : List Call) :
    Device :=
  EventRun.run Device.step (Device.boot (Nvs.fresh str)) calls

theorem listAfter_fromInput (calls : List Call) :
    FromInput (listAfter calls) := by
  refine EventRun.run_invariant FromInput
    (fun _ call fromInput => fromInput.apply call) ?_ calls
  intro saved member
  cases member

theorem deviceAfter_shows (str : List UInt8 → Option (List UInt8))
    (calls : List Call) : (deviceAfter str calls).Shows (listAfter calls) := by
  induction calls using List.reverseRecOn with
  | nil => exact Device.shows_fresh str
  | append_singleton earlier call inductionHypothesis =>
      rw [deviceAfter, listAfter, EventRun.run_snoc, EventRun.run_snoc]
      exact (inductionHypothesis.perform call).2

/-- A title is cleaned once more to itself unless it begins with a space. -/
theorem title_again_iff {title : Option (List UInt8)} {url : List UInt8}
    {saved : SavedBookmark}
    (made : SavedBookmark.ofInput title url = some saved) :
    sanitize saved.title bmTitleMax = saved.title ↔
      saved.title.head? ≠ some space := by
  obtain ⟨cleanUrl, _, fields⟩ := saved.of_ofInput made
  have isTitle : saved.title = sanitize (title.getD []) bmTitleMax :=
    congrArg Bookmark.title fields
  rw [isTitle, sanitize_sanitize, sanitize_eq_clean]
  exact Cleaning.clean_clean_iff sanitize_trims

/-- Saving a bookmark with its own texts changes nothing exactly when its title
does not begin with a space. -/
theorem set_own_texts_iff {d : Device} {list : BookmarkList}
    (shows : d.Shows list) {index : Nat} {saved : SavedBookmark}
    (stored : list.entries[index]? = some saved)
    {title : Option (List UInt8)} {url : List UInt8}
    (made : SavedBookmark.ofInput title url = some saved) :
    let own := Call.set index (some saved.title) (some saved.url)
    (d.perform own []).1 = some true ∧
      ((∀ j, bookmarksGet (d.step own).st (d.step own).nvs j =
          bookmarksGet d.st d.nvs j) ↔ saved.title.head? ≠ some space) := by
  obtain ⟨cleanUrl, address, fields⟩ := saved.of_ofInput made
  have inside := (List.getElem?_eq_some_iff.mp stored).1
  have isUrl : saved.url = cleanUrl := congrArg Bookmark.url fields
  have addressAgain : normalizeUrl saved.url bmUrlMax = some saved.url := by
    rw [isUrl]
    exact normalizeUrl_again address
  obtain ⟨second, madeAgain, fieldsAgain⟩ :=
    SavedBookmark.ofInput_eq_some (some saved.title) addressAgain
  have notAdded : ¬ (index : Int) < 0 := by omega
  have accepted :
      (Call.apply list (.set index (some saved.title) (some saved.url))).1 =
        true := by
    simp only [Call.apply, Option.bind_some, madeAgain, if_neg notAdded,
      if_pos (Int.ofNat_lt.mpr inside)]
  have after := step_set shows inside madeAgain
  dsimp only
  refine ⟨accepted ▸ (shows.perform _).1, ?_⟩
  rw [← title_again_iff made]
  constructor
  · intro same
    have here := same index
    rw [get_of_shows after, get_of_shows shows, stored, BookmarkList.replace,
      List.getElem?_set_self inside, Option.map_some, Option.map_some,
      fieldsAgain, Option.some.injEq] at here
    exact congrArg Bookmark.title here
  · intro same j
    have sameBookmark : second.toBookmark = saved.toBookmark := by
      rw [fieldsAgain, Option.getD_some, same]
    rw [Shows.get after, Shows.get shows]
    unfold BookmarkList.get BookmarkList.replace
    split
    · rfl
    · by_cases here : index = j.toNat
      · rw [← here, List.getElem?_set_self inside, stored, Option.map_some,
          Option.map_some, sameBookmark]
      · rw [List.getElem?_set_ne here]

/-- After any calls, the form of a bookmark that is sent back as it is shown
stores the same bookmark again, and no page changes, exactly when its title does
not begin with a space. -/
theorem sent_back_iff {query : QueryFn} (laws : FormLaws query)
    (str : List UInt8 → Option (List UInt8)) (calls : List Call)
    (index : Fin bmMax) {saved : SavedBookmark}
    (stored : (listAfter calls).entries[(index : Nat)]? = some saved) :
    let d := deviceAfter str calls
    ∃ page, handlerBmEdit query d (editLink (some index)) = .page page ∧
      ∀ body, Submits (shownForm page) body →
        let after := handlerBmSave query d [] true body
        after.1 = some (ascii "/bm") ∧
          ((∀ j, bookmarksGet after.2.st after.2.nvs j =
              bookmarksGet d.st d.nvs j) ↔
            saved.title.head? ≠ some space) := by
  have shows := deviceAfter_shows str calls
  have inside := (List.getElem?_eq_some_iff.mp stored).1
  have isLinked : linked (listAfter calls) (some index) = some saved := stored
  have isIndex : formIndex (listAfter calls) (some index) = (index : Nat) :=
    if_pos inside
  have page := handlerBmEdit_eq laws shows (some index)
  rw [isLinked, if_neg (by simp), isIndex] at page
  refine ⟨_, page, ?_⟩
  intro body submits
  have small := isIndex ▸ formIndex_small (listAfter calls) (some index)
  rw [shownForm_bmEditText _ small, formBookmark,
    cstr_of_plain saved.titlePlain, cstr_of_plain saved.urlPlain] at submits
  have titleFits : 3 * saved.title.length < 128 := by
    have short := saved.titleShort
    unfold bmTitleMax at short
    omega
  have urlFits : 3 * saved.url.length < 512 := by
    have short := saved.urlShort
    unfold bmUrlMax at short
    omega
  obtain ⟨title, url, made⟩ :=
    listAfter_fromInput calls saved (List.mem_of_getElem? stored)
  obtain ⟨accepted, same⟩ := set_own_texts_iff shows stored made
  have saves :=
    handlerBmSave_of_submits (d := deviceAfter str calls) laws small titleFits
      urlFits submits []
  have reply (done : Option Bool × Device) (succeeds : done.1 = some true) :
      saveReply done = (some (ascii "/bm"), done.2) := by
    obtain ⟨result, left⟩ := done
    rw [show result = some true from succeeds]
    rfl
  dsimp only
  rw [saves, reply _ accepted]
  exact ⟨rfl, same⟩

/-- The bookmark "news", added to an empty list. -/
theorem sent_back_news :
    ∃ page,
      handlerBmEdit piecesQuery
          (deviceAfter (fun _ => none)
            [.set (-1) (some (ascii "news")) (some (ascii "a.com"))])
          (editLink (some ⟨0, by decide⟩)) = .page page ∧
        ∀ body, Submits (shownForm page) body →
          (handlerBmSave piecesQuery
            (deviceAfter (fun _ => none)
              [.set (-1) (some (ascii "news")) (some (ascii "a.com"))])
            [] true body).1 = some (ascii "/bm") := by
  obtain ⟨page, shown, saves⟩ :=
    sent_back_iff piecesQuery_formLaws (fun _ => none)
    [.set (-1) (some (ascii "news")) (some (ascii "a.com"))] ⟨0, by decide⟩ rfl
  exact ⟨page, shown, fun body submits => (saves body submits).1⟩

end VeteraBridge.Web

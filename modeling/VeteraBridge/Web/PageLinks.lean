import VeteraBridge.Web.ProxyPage
import VeteraBridge.Web.PageSize

/-!
# The links of the bookmark pages

The status page leads to every bookmark, and the page that manages them also to
a form for each and to its removal.  A link holds an index, and the list may
change before it is followed.
-/

namespace VeteraBridge.Web

open Bookmarks
open CrashLogic (Outcome)
open FormEncoding
open Proxy (ascii cstr strlcpy)

/-- The links of a page, in their order. -/
def shownLinks (page : List UInt8) : List (List UInt8) :=
  Markup.shownLinks htmlUnescape page

/-- What is read of a piece of a page. -/
abbrev ReadsLinks := Markup.Reads (Markup.link htmlUnescape)

/-! ## The links there are -/

def editHref (i : Nat) : List UInt8 := ascii "/bm/edit?i=" ++ decimal i

def delHref (i : Nat) : List UInt8 := ascii "/bm/del?i=" ++ decimal i

/-- The links of a row. -/
def rowLinks (entry : SavedBookmark × Nat) : List (List UInt8) :=
  [entry.1.url, editHref entry.2, delHref entry.2]

/-- The links of the page that manages the bookmarks. -/
def bmLinks (list : BookmarkList) : List (List UInt8) :=
  list.entries.zipIdx.flatMap rowLinks ++
    ((if list.entries.length < bmMax then [ascii "/bm/edit"] else []) ++
      [ascii "/", ascii "/wifi"])

/-- The links of the status page. -/
def rootLinks (list : BookmarkList) : List (List UInt8) :=
  (list.entries.map fun saved => saved.url) ++
    [ascii "/", ascii "/bm", ascii "/wifi", ascii "/name", ascii "/security",
      ascii "/proxy", ascii "/debug", ascii "/reboot"]

/-! ## Reading them -/

section Reading

/-- The beginning of a link. -/
abbrev openAnchor : Markup.Tag := [(ascii "a", none)]

/-- A piece without a link of its own. -/
abbrev NoLink (text : List UInt8) : Prop := ReadsLinks .text text [] .text

theorem noTag_decimal (n : Int) : (60 : UInt8) ∉ decimal n := by
  have positive (n : Nat) : (60 : UInt8) ∉ decimal n := fun member =>
    absurd (unreserved_decimal n 60 member) (by decide)
  intro member
  cases n with
  | ofNat n =>
      exact positive n member
  | negSucc n =>
      have signed : decimal (Int.negSucc n) = 45 :: decimal (n + 1 : Nat) := by
        have digits : (toString (Int.negSucc n)).toList =
            '-' :: (toString ((n + 1 : Nat) : Int)).toList :=
          String.toList_append
        rw [decimal, ascii, digits]
        rfl
      rw [signed, List.mem_cons] at member
      exact positive (n + 1) (member.resolve_left (by decide))

theorem noTag_twoDigits (n : Nat) : (60 : UInt8) ∉ twoDigits n := by
  rw [twoDigits]
  split
  · rw [List.mem_cons, not_or]
    exact ⟨by decide, noTag_decimal n⟩
  · exact noTag_decimal n

/-- What is escaped into a buffer holds no tag. -/
theorem noTag_htmlEscape (src : List UInt8) {n : Nat} (positive : 1 ≤ n) :
    (60 : UInt8) ∉ htmlEscape src n := by
  obtain ⟨_, front, _, same⟩ := htmlEscape_front src positive
  rw [same]
  exact fun member => ((flatMap_escapeChar_inert front).noMarkup 60 member).1 rfl

/-- The fixed pieces of a row and of a link. -/
theorem link_pieces :
    ReadsLinks .text (ascii ". <a href=\"") []
        (.quoted openAnchor (ascii "href") 34 []) ∧
      ReadsLinks .text (ascii "<a href=\"") []
        (.quoted openAnchor (ascii "href") 34 []) ∧
      NoLink (ascii "</b></a><br>") ∧
      NoLink (ascii "</a><br>") ∧
      NoLink (ascii "<small>") ∧
      NoLink (ascii "</small><br>") ∧
      ReadsLinks .text (ascii "[<a href='/bm/edit?i=") []
        (.quoted openAnchor (ascii "href") 39 (ascii "/bm/edit?i=")) ∧
      ReadsLinks .text (ascii "[<a href='/bm/del?i=") []
        (.quoted openAnchor (ascii "href") 39 (ascii "/bm/del?i=")) := by
  simp only [ascii_literal rfl]
  decide +kernel

/-- The tag of a link ends behind its address, in each of the rows. -/
theorem reads_closers (address : List UInt8) :
    ReadsLinks (.quoted openAnchor (ascii "href") 34 address)
        (ascii "\" style='font-size:120%;'>") [htmlUnescape address] .text ∧
      ReadsLinks (.quoted openAnchor (ascii "href") 34 address)
        (ascii "\"><b>") [htmlUnescape address] .text ∧
      ReadsLinks (.quoted openAnchor (ascii "href") 39 address)
        (ascii "'>edit</a>] ") [htmlUnescape address] .text ∧
      ReadsLinks (.quoted openAnchor (ascii "href") 39 address)
        (ascii "'>delete</a>]<br><br>") [htmlUnescape address] .text := by
  simp only [ascii_literal rfl]
  exact ⟨⟨rfl, rfl⟩, ⟨rfl, rfl⟩, ⟨rfl, rfl⟩, rfl, rfl⟩

theorem noTag_label (saved : SavedBookmark) : (60 : UInt8) ∉ label saved := by
  rw [label]
  split
  · exact noTag_escaped saved.url
  · exact noTag_escaped saved.title

/-- The links of the status page to the bookmarks. -/
theorem reads_link (saved : SavedBookmark) :
    ReadsLinks .text (link saved) [saved.url] .text := by
  obtain ⟨_, opens, _, closes, _⟩ := link_pieces
  have reads :=
    (((opens.append (reads_escaped openAnchor (ascii "href") saved.url)).append
      (reads_closers _).1).append
      (Markup.reads_text (noTag_label saved))).append closes
  rwa [htmlUnescape_escaped, cstr_of_plain saved.urlPlain] at reads

/-- The address of a link with an index. -/
theorem htmlUnescape_href {i : Nat} (small : i < bmMax) :
    htmlUnescape (editHref i) = editHref i ∧
      htmlUnescape (delHref i) = delHref i ∧ 39 ∉ decimal i := by
  have each : ∀ i < bmMax, htmlUnescape (editHref i) = editHref i ∧
      htmlUnescape (delHref i) = delHref i ∧ 39 ∉ decimal i := by decide
  exact each i small

/-- A row of the page that manages the bookmarks. -/
theorem reads_bmRow (saved : SavedBookmark) {i : Nat} (small : i < bmMax) :
    ReadsLinks .text (bmRow (saved, i)) (rowLinks (saved, i)) .text := by
  obtain ⟨opens, _, label, _, small', address, edit, del⟩ := link_pieces
  obtain ⟨editText, delText, noQuote⟩ := htmlUnescape_href small
  have number (text : List UInt8) :
      ReadsLinks (.quoted openAnchor (ascii "href") 39 text) (decimal i) []
        (.quoted openAnchor (ascii "href") 39 (text ++ decimal i)) :=
    Markup.reads_quoted _ _ text noQuote
  have reads :=
    (((((((((((((Markup.reads_text (noTag_decimal (i + 1))).append
      opens).append (reads_escaped _ (ascii "href") saved.url)).append
      (reads_closers _).2.1).append
      (Markup.reads_text (noTag_label saved))).append label).append
      small').append (reads_escaped_text saved.url)).append address).append
      edit).append (number _)).append (reads_closers _).2.2.1).append
      del).append (number _)
  have whole := reads.append (reads_closers _).2.2.2
  have texts : rowLinks (saved, i) =
      [htmlUnescape (escaped saved.url), htmlUnescape (editHref i),
        htmlUnescape (delHref i)] := by
    rw [rowLinks, editText, delText, htmlUnescape_escaped,
      cstr_of_plain saved.urlPlain]
  rw [texts]
  exact whole

/-- The links of the bookmarks on either page. -/
theorem reads_entries (list : BookmarkList) :
    ReadsLinks .text (list.entries.flatMap link)
        (list.entries.map fun saved => saved.url) .text ∧
      ReadsLinks .text (list.entries.zipIdx.flatMap bmRow)
        (list.entries.zipIdx.flatMap rowLinks) .text := by
  constructor
  · rw [List.map_eq_flatMap]
    exact Markup.reads_flatMap list.entries link (fun saved => [saved.url])
      fun saved _ => reads_link saved
  · refine Markup.reads_flatMap list.entries.zipIdx bmRow rowLinks ?_
    rintro ⟨saved, i⟩ member
    have inside := (List.mem_zipIdx member).2.1
    have bounded := list.bounded
    exact reads_bmRow saved (by omega)

/-- The fixed pieces of the page that manages the bookmarks. -/
theorem bmPage_pieces :
    NoLink bmHead ∧ NoLink bmError ∧ NoLink bmNone ∧ NoLink grayBox ∧
      NoLink (ascii "</div>") ∧ NoLink (ascii "<p>(") ∧
      NoLink (ascii " used)</p>") ∧
      NoLink (ascii "<p>List is full - delete one first.</p>") ∧
      ReadsLinks .text
        (ascii "<a href='/bm/edit' style='font-size:120%'>Add a bookmark</a>")
        [ascii "/bm/edit"] .text ∧
      NoLink (ascii "<hr>") ∧
      ReadsLinks .text (ascii "<a href='/'>Status</a><br>") [ascii "/"] .text ∧
      ReadsLinks .text (ascii "<a href='/wifi'>WiFi networks</a>")
        [ascii "/wifi"] .text ∧
      NoLink (ascii "<br>") ∧ NoLink pageFooter := by
  simp only [bmHead, bmError, bmNone, grayBox, metaCharset, metaViewport,
    metaFormat, bodyOpen, pageFooter, ascii_literal rfl]
  decide +kernel

/-- The links of the page that manages the bookmarks. -/
theorem reads_bmText (err : Bool) (list : BookmarkList) :
    ReadsLinks .text (bmText err list) (bmLinks list) .text := by
  obtain ⟨head, error, none, box, ends, open', used, full, add, rule, status,
    wifi, br, footer⟩ := bmPage_pieces
  have rejected : NoLink (if err then bmError else []) := by
    cases err with
    | false => exact ⟨rfl, rfl⟩
    | true => exact error
  have rows : ReadsLinks .text (rowsText list)
      (list.entries.zipIdx.flatMap rowLinks) .text := by
    rw [rowsText]
    by_cases empty : list.entries = []
    · rw [if_pos empty, empty]
      exact none
    · rw [if_neg empty]
      have reads := (box.append (reads_entries list).2).append ends
      rwa [List.nil_append, List.append_nil] at reads
  have offer : ReadsLinks .text
      (if list.entries.length < bmMax then
        ascii "<a href='/bm/edit' style='font-size:120%'>Add a bookmark</a>"
       else ascii "<p>List is full - delete one first.</p>")
      (if list.entries.length < bmMax then [ascii "/bm/edit"] else [])
      .text := by
    split
    · exact add
    · exact full
  have slash : (60 : UInt8) ∉ ascii "/" := by decide
  have counts :=
    (((open'.append (Markup.reads_text
      (noTag_decimal list.entries.length))).append
      (Markup.reads_text slash)).append
      (Markup.reads_text (noTag_decimal bmMax))).append used
  have tail :=
    (((((counts.append offer).append rule).append status).append wifi).append
      br).append footer
  have whole := ((head.append rejected).append rows).append tail
  simpa [bmText, bmTail, bmLinks] using whole

/-! ## The status page -/

/-- The fixed pieces of its head and of its end. -/
theorem root_pieces :
    NoLink (ascii "<html><head><title>") ∧ NoLink (ascii "</title>") ∧
      NoLink metaCharset ∧
      NoLink (ascii "<meta http-equiv='refresh' content='5'>") ∧
      NoLink metaViewport ∧ NoLink metaFormat ∧ NoLink (ascii "</head>") ∧
      NoLink bodyOpen ∧ NoLink (ascii "<h2>") ∧ NoLink (ascii "</h2><hr>") ∧
      NoLink linksOpen ∧ NoLink linksClose ∧
      ReadsLinks .text rootMenu
        [ascii "/", ascii "/bm", ascii "/wifi", ascii "/name",
          ascii "/security", ascii "/proxy", ascii "/debug", ascii "/reboot"]
        .text := by
  simp only [metaCharset, metaViewport, metaFormat, bodyOpen, linksOpen,
    linksClose, rootMenu, pageFooter, ascii_literal rfl]
  decide +kernel

theorem reads_head (s : Status) : NoLink s.head := by
  obtain ⟨html, title, charset, refresh, viewport, format, head, body, h2, rule,
    _⟩ := root_pieces
  have busy : NoLink
      (if s.busy then ascii "<meta http-equiv='refresh' content='5'>"
        else []) := by
    split
    · exact refresh
    · exact ⟨rfl, rfl⟩
  have name : NoLink s.nameEsc :=
    Markup.reads_text (noTag_htmlEscape _ (by decide))
  exact ((((((((((html.append name).append title).append charset).append
    busy).append viewport).append format).append head).append body).append
    h2).append name).append rule

/-- The labels of the status block. -/
theorem row_pieces :
    NoLink (ascii "<b>Status:</b> ") ∧ NoLink (ascii "<br>") ∧
      NoLink (ascii "<b>Phone link (PPP):</b> ") ∧
      NoLink (ascii "<b>WiFi:</b> ") ∧ NoLink (ascii "<b>WiFi IP:</b> ") ∧
      NoLink (ascii "<b>WiFi RSSI:</b> ") ∧ NoLink (ascii " dBm<br>") ∧
      NoLink (ascii "<b>BT RSSI:</b> ") ∧
      NoLink (ascii "<b>Saved networks:</b> ") ∧
      NoLink (ascii "<b>Bookmarks:</b> ") ∧
      NoLink (ascii "<b>HTTP proxy:</b> ") ∧
      NoLink (ascii "<b>Uptime:</b> ") ∧ NoLink (ascii "<b>Free heap:</b> ") ∧
      60 ∉ ascii " " ∧ 60 ∉ ascii "/" ∧ 60 ∉ ascii "d " ∧ 60 ∉ ascii ":" ∧
      60 ∉ ascii " KB" := by
  simp only [ascii_literal rfl]
  decide +kernel

/-- What `wifi_ip` may hold. -/
def wifiIpText : Option (UInt8 × UInt8 × UInt8 × UInt8) → List UInt8
  | none => ascii "--"
  | some (a, b, c, d) =>
    (decimal a.toNat ++ ascii "." ++ decimal b.toNat ++ ascii "." ++
      decimal c.toNat ++ ascii "." ++ decimal d.toNat).take 15

def Status.ShowsIp (s : Status) : Prop := ∃ address, s.ip = wifiIpText address

theorem Status.ShowsIp.noTag {s : Status} (shows : s.ShowsIp) :
    60 ∉ s.ip := by
  obtain ⟨address, shown⟩ := shows
  rw [shown]
  cases address with
  | none => decide
  | some bytes =>
      obtain ⟨a, b, c, d⟩ := bytes
      have dot : (60 : UInt8) ∉ ascii "." := by decide
      intro member
      have inside := List.mem_of_mem_take member
      simp only [List.mem_append, dot, noTag_decimal, or_self] at inside

theorem noTag_state (s : Status) :
    60 ∉ stateToStr s.st ∧
      (60 ∉ if s.pppLinkUp then ascii "up"
        else if s.btConnected then ascii "negotiating" else ascii "down") ∧
      (60 ∉ if s.wifiConnected then ascii "connected to"
        else ascii "not connected") ∧
      (60 ∉ if s.wifiConnected then htmlEscape (strlcpy s.ssid 33) 80
        else []) ∧
      60 ∉ s.pxLine := by
  have state : ∀ st, 60 ∉ stateToStr st := by
    intro st
    cases st <;> decide
  have ppp : ∀ up connected : Bool,
      60 ∉ if up then ascii "up"
        else if connected then ascii "negotiating" else ascii "down" := by
    decide
  have wifi : ∀ connected : Bool,
      60 ∉ if connected then ascii "connected to"
        else ascii "not connected" := by
    decide
  refine ⟨state s.st, ppp s.pppLinkUp s.btConnected, wifi s.wifiConnected,
    ?_, ?_⟩
  · split
    · exact noTag_htmlEscape _ (by decide)
    · exact List.not_mem_nil
  · rw [Status.pxLine]
    split
    · intro member
      have inside := List.mem_of_mem_take member
      rw [List.mem_append, List.mem_append] at inside
      rcases inside with (host | colon) | port
      · exact noTag_htmlEscape _ (by decide) host
      · exact absurd colon (by decide)
      · exact noTag_decimal _ port
    · decide

/-- The status block, whatever it shows. -/
theorem reads_rows (s : Status) (bmc : Nat) (shows : s.ShowsIp) :
    NoLink (s.rows bmc) := by
  have noTag := shows.noTag
  obtain ⟨status, br, link, wifi, address, rssi, dbm, bt, saved, bookmarks,
    proxy, uptime, heap, blank, slash, days, colon, unit⟩ := row_pieces
  obtain ⟨state, ppp, connected, ssid, line⟩ := noTag_state s
  have ip : (60 : UInt8) ∉ strlcpy s.ip 16 := fun member =>
    noTag ((List.takeWhile_prefix _).subset (List.mem_of_mem_take member))
  have shown : (60 : UInt8) ∉ (decimal s.btRssi).take 7 := fun member =>
    noTag_decimal _ (List.mem_of_mem_take member)
  have text {bytes : List UInt8} (none : 60 ∉ bytes) : NoLink bytes :=
    Markup.reads_text none
  have number (n : Int) := text (noTag_decimal n)
  have two (n : Nat) := text (noTag_twoDigits n)
  have first := status |>.append (text state) |>.append br
  have phone := first.append link |>.append (text ppp) |>.append br
  have network := phone.append wifi |>.append (text connected)
    |>.append (text blank) |>.append (text ssid) |>.append br
  have place := network.append address |>.append (text ip) |>.append br
  have signal := place.append rssi |>.append (number s.wifiRssi)
    |>.append dbm |>.append bt |>.append (text shown) |>.append br
  have networks := signal.append saved |>.append (number s.wifiListCount)
    |>.append (text slash) |>.append (number Wifi.wifiListMax) |>.append br
  have lists := networks.append bookmarks |>.append (number bmc)
    |>.append (text slash) |>.append (number bmMax) |>.append br
  have line := lists.append proxy |>.append (text line) |>.append br
  exact line.append uptime |>.append (number _) |>.append (text days)
    |>.append (two _) |>.append (text colon) |>.append (two _)
    |>.append (text colon) |>.append (two _) |>.append br
    |>.append heap |>.append (number _) |>.append (text unit)

/-- The links of the status page. -/
theorem reads_rootText (s : Status) (list : BookmarkList)
    (shows : s.ShowsIp) :
    ReadsLinks .text (rootText s list) (rootLinks list) .text := by
  obtain ⟨_, _, _, _, _, _, _, _, _, _, opens, closes, menu⟩ := root_pieces
  have box := bmPage_pieces.2.2.2.1
  have links : ReadsLinks .text (linksText list)
      (list.entries.map fun saved => saved.url) .text := by
    rw [linksText]
    by_cases empty : list.entries = []
    · rw [if_pos empty, empty]
      exact ⟨rfl, rfl⟩
    · rw [if_neg empty]
      have reads := (opens.append (reads_entries list).1).append closes
      rwa [List.nil_append, List.append_nil] at reads
  exact ((reads_head s).append links).append
    ((box.append (reads_rows s _ shows)).append menu)

end Reading

/-! ## Following them -/

/-- The query of an address, if there is one and it fits its buffer. -/
def addressQuery (address : List UInt8) (size : Nat) : Option (List UInt8) :=
  match address.dropWhile fun c => c != 63 with
  | [] => none
  | _ :: query =>
    if query = [] ∨ size ≤ query.length then none else some query

/-- `handler_bm_del` redirects whatever `bookmarks_remove` returns. -/
def delReply : Option Bool × Device → Option (List UInt8) × Device
  | (some _, d) => (some (ascii "/bm"), d)
  | (none, d) => (none, d)

/-- `handler_bm_del`: where it redirects to, if it does, and the device. -/
def handlerBmDel (query : QueryFn) (d : Device) (plan : List Outcome)
    (urlQuery : Option (List UInt8)) : Option (List UInt8) × Device :=
  match urlQuery with
  | none => (some (ascii "/bm"), d)
  | some text =>
    let (status, val) := query text (ascii "i") 8
    if status = .ok then delReply (d.perform (.remove (strtol 10 val)) plan)
    else (some (ascii "/bm"), d)

/-- A call that leaves a row and its number alone. -/
def LeavesRow (i : Nat) : Call → Prop
  | .set index _ _ => index ≠ i
  | .remove index => index < 0 ∨ i < index

section Follow

variable {query : QueryFn} {d : Device} {list : BookmarkList} {i : Nat}
  {saved : SavedBookmark}

theorem LeavesRow.kept {call : Call} (leaves : LeavesRow i call)
    (stored : list.entries[i]? = some saved) :
    (call.apply list).2.entries[i]? = some saved := by
  have inside := (List.getElem?_eq_some_iff.mp stored).1
  cases call with
  | set index title url =>
      have other : index ≠ i := leaves
      rw [Call.apply]
      cases url.bind (SavedBookmark.ofInput title) with
      | none => exact stored
      | some new =>
          dsimp only
          split_ifs with negative room within
          · exact (List.getElem?_append_left inside).trans stored
          · exact stored
          · have apart : index.toNat ≠ i := by omega
            exact (List.getElem?_set_ne apart).trans stored
          · exact stored
  | remove index =>
      have behind : index < 0 ∨ i < index := leaves
      rw [Call.apply]
      split_ifs with within
      · have before : i < index.toNat := by omega
        exact (List.getElem?_eraseIdx_of_lt before).trans stored
      · exact stored

/-- What stands in a row stays there. -/
theorem row_kept {earlier later : List Call}
    (leaves : ∀ call ∈ later, LeavesRow i call)
    (stored : (listAfter earlier).entries[i]? = some saved) :
    (listAfter (earlier ++ later)).entries[i]? = some saved := by
  induction later using List.reverseRecOn with
  | nil => rwa [List.append_nil]
  | append_singleton later call inductionHypothesis =>
      rw [← List.append_assoc, listAfter, EventRun.run_snoc]
      have before := inductionHypothesis fun other member =>
        leaves other (List.mem_append_left _ member)
      exact (leaves call (by simp)).kept before

theorem addressQuery_links (i : Fin bmMax) :
    addressQuery (editHref i) 32 = editLink (some i) ∧
      addressQuery (delHref i) 32 = editLink (some i) := by
  have each : ∀ i : Fin bmMax,
      addressQuery (editHref i) 32 = editLink (some i) ∧
        addressQuery (delHref i) 32 = editLink (some i) := by decide
  exact each i

/-- The link removes the bookmark with its number. -/
theorem handlerBmDel_link (laws : FormLaws query) (shows : d.Shows list)
    (i : Fin bmMax) (inside : (i : Nat) < list.entries.length) :
    (handlerBmDel query d [] (addressQuery (delHref i) 32)).1 =
        some (ascii "/bm") ∧
      (handlerBmDel query d [] (addressQuery (delHref i) 32)).2.Shows
        (list.remove i) := by
  have asked := bmEditAsked_link laws i
  simp only [bmEditAsked, editLink, Option.map_some, query_editLink laws,
    if_true] at asked
  have calls : handlerBmDel query d [] (addressQuery (delHref i) 32) =
      delReply (d.perform (.remove (i : Nat)) []) := by
    rw [(addressQuery_links i).2]
    simp only [handlerBmDel, editLink, Option.map_some, query_editLink laws,
      if_true, asked]
  have removed : (Call.remove (i : Nat)).apply list = (true, list.remove i) := by
    rw [Call.apply, if_pos (by omega), Int.toNat_natCast]
  obtain ⟨result, after⟩ := shows.perform (.remove (i : Nat))
  rw [removed, Device.step] at after
  rw [calls]
  cases done : d.perform (.remove (i : Nat)) [] with
  | mk answer left =>
      rw [done] at result after
      rw [show answer = some _ from result]
      exact ⟨rfl, after⟩

end Follow

/-- After any calls, a browser reads the links of the bookmarks off both pages,
the last ones missing at most where a page is clipped, and none where the labels
fit.  Whatever is added then, and whatever is done to other rows that keeps the
numbers, the links of a row lead to the form of its bookmark and remove it and no
other. -/
theorem bookmark_links {query : QueryFn} (laws : FormLaws query)
    (str : List UInt8 → Option (List UInt8)) (earlier : List Call) (s : Status)
    (shows : s.ShowsIp) (err : Bool) :
    let list := listAfter earlier
    let manage := bmPage err (deviceAfter str earlier).seen
    let root := rootPage s (deviceAfter str earlier).seen
    (shownLinks manage <+: bmLinks list ∧
        shownLinks root <+: rootLinks list) ∧
      (s.LabelsFit list →
        shownLinks manage = bmLinks list ∧ shownLinks root = rootLinks list) ∧
      ∀ (i : Fin bmMax) (saved : SavedBookmark),
        list.entries[(i : Nat)]? = some saved →
        ∀ later, (∀ call ∈ later, LeavesRow i call) →
          let now := deviceAfter str (earlier ++ later)
          let deleted := handlerBmDel query now [] (addressQuery (delHref i) 32)
          (∃ page,
            handlerBmEdit query now (addressQuery (editHref i) 32) =
              .page page ∧
            shownForm page = bmFields (i : Nat) saved.title saved.url) ∧
          deleted.1 = some (ascii "/bm") ∧
          deleted.2.Shows ((listAfter (earlier ++ later)).remove i) ∧
          (listAfter (earlier ++ later)).entries[(i : Nat)]? = some saved := by
  intro list manage root
  have seen : (deviceAfter str earlier).seen = list.shown :=
    (deviceAfter_shows str earlier).seen
  have isManage : manage = (bmText err list).take (bmSize list.shown - 1) := by
    rw [← bmPage_eq, ← seen]
  have isRoot : root = (rootText s list).take (rootSize list.shown - 1) := by
    rw [← rootPage_eq, ← seen]
  have manageLinks : shownLinks (bmText err list) = bmLinks list :=
    (reads_bmText err list).shownLinks
  have statusLinks : shownLinks (rootText s list) = rootLinks list :=
    (reads_rootText s list shows).shownLinks
  refine ⟨⟨?_, ?_⟩, ?_, ?_⟩
  · rw [isManage, ← manageLinks]
    exact Markup.shownLinks_take htmlUnescape _ _
  · rw [isRoot, ← statusLinks]
    exact Markup.shownLinks_take htmlUnescape _ _
  · intro fits
    have whole := (pages_unclipped_iff s err list).mpr fits
    rw [← seen] at whole
    constructor
    · rw [show manage = bmText err list from whole.2.2, manageLinks]
    · rw [show root = rootText s list from whole.1.2, statusLinks]
  · intro i saved stored later leaves now deleted
    have kept := row_kept leaves stored
    have inside := (List.getElem?_eq_some_iff.mp kept).1
    have nowShows := deviceAfter_shows str (earlier ++ later)
    obtain ⟨redirects, removed⟩ := handlerBmDel_link laws nowShows i inside
    refine ⟨?_, redirects, removed, kept⟩
    have isLinked :
        linked (listAfter (earlier ++ later)) (some i) = some saved := kept
    have isIndex :
        formIndex (listAfter (earlier ++ later)) (some i) = (i : Nat) :=
      if_pos inside
    have page := handlerBmEdit_eq laws nowShows (some i)
    rw [isLinked, if_neg (by simp), isIndex] at page
    have small := formIndex_small (listAfter (earlier ++ later)) (some i)
    rw [isIndex] at small
    rw [(addressQuery_links i).1]
    refine ⟨_, page, ?_⟩
    rw [shownForm_bmEditText _ small, formBookmark,
      cstr_of_plain saved.titlePlain, cstr_of_plain saved.urlPlain]

/-- The bookmark "news" is removed through the link of a page that was made
before another was added. -/
theorem bookmark_links_news :
    let news := Call.set (-1) (some (ascii "news")) (some (ascii "a.com"))
    let wap := Call.set (-1) (some (ascii "wap")) (some (ascii "b.com"))
    (handlerBmDel piecesQuery (deviceAfter (fun _ => none) [news, wap]) []
        (addressQuery (delHref 0) 32)).2.Shows
      ((listAfter [news, wap]).remove 0) := by
  have links := bookmark_links piecesQuery_formLaws (fun _ => none)
    [.set (-1) (some (ascii "news")) (some (ascii "a.com"))]
    ⟨.bridge, [], true, true, true, [], ascii "--", 0, 0, 1, false, [], 0, 0,
      0⟩ ⟨none, rfl⟩ false
  have stays : ∀ call ∈
      [Call.set (-1) (some (ascii "wap")) (some (ascii "b.com"))],
      LeavesRow 0 call := by
    intro call isLater
    rw [List.mem_singleton.mp isLater]
    show (-1 : Int) ≠ 0
    decide
  exact (links.2.2 ⟨0, by decide⟩ _ rfl _ stays).2.2.1

end VeteraBridge.Web

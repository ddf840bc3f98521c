import VeteraBridge.Lib.Markup
import VeteraBridge.Web.Escape
import VeteraBridge.Web.FormStored

/-!
# Forms sent back

A browser shows the form of a page and sends its fields.  What a handler finds
of a field in the body is the field's value, as long as its buffer holds three
bytes for each byte of the value.
-/

namespace VeteraBridge.Web

open FormEncoding
open Proxy (ascii cstr nameIs)

/-- A literal, from its characters. -/
theorem ascii_literal {text : String} {chars : List Char}
    (spelled : text = String.ofList chars) :
    ascii text = chars.map fun c => UInt8.ofNat c.toNat := by
  rw [ascii, spelled, String.toList_ofList]

/-- The fields of a form: names and values. -/
abbrev Fields := List (List UInt8 × List UInt8)

/-- The form of a page as it is shown. -/
def shownForm (page : List UInt8) : Fields :=
  Markup.shownForm htmlUnescape page

/-- What is read of a piece of a page. -/
abbrev ReadsForm := Markup.Reads (Markup.control htmlUnescape)

/-- What is sent of each field. -/
abbrev SentAs (fields sent : Fields) : Prop :=
  List.Forall₂ (fun field pair =>
    Sends field.1 pair.1 ∧ Sends field.2 pair.2) fields sent

/-- A piece of a page without a field of its own, and its length. -/
structure Piece (place : Markup.Place) (text : List UInt8)
    (after : Markup.Place) (limit : Nat) : Prop where
  reads : ReadsForm place text [] after
  length : text.length ≤ limit

instance (place : Markup.Place) (text : List UInt8) (after : Markup.Place)
    (limit : Nat) : Decidable (Piece place text after limit) :=
  decidable_of_iff (ReadsForm place text [] after ∧ text.length ≤ limit)
    ⟨fun both => ⟨both.1, both.2⟩, fun piece => ⟨piece.reads, piece.length⟩⟩

/-- What makes a box ticked. -/
def ticked (on : Bool) : List UInt8 := if on then ascii " checked" else []

/-- A box that is ticked or not, at the end of its tag. -/
theorem reads_ticked (read : Markup.Tag) (on : Bool) :
    ReadsForm (.word read []) (ticked on ++ ascii ">")
      (Markup.control htmlUnescape
        (if on then read ++ [(Markup.checkedWord, none)] else read)).toList
      .text := by
  cases on with
  | false => exact Markup.reads_end read []
  | true =>
      exact (Markup.reads_checkedWord read).append
        (Markup.reads_end read Markup.checkedWord)

/-- A browser sends the fields as this body. -/
def Submits (fields : Fields) (body : List UInt8) : Prop :=
  ∃ sent, SentAs fields sent ∧ body = formBody sent

/-- The names are letters, digits and marks. -/
def PlainNames (names : List (List UInt8)) : Prop :=
  ∀ name ∈ names, Unreserved name ∧ 61 ∉ name

instance (names : List (List UInt8)) : Decidable (PlainNames names) :=
  inferInstanceAs (Decidable (∀ name ∈ names, Unreserved name ∧ 61 ∉ name))

/-- The value of the first field with a name. -/
def fieldValue (fields : Fields) (key : List UInt8) : Option (List UInt8) :=
  (fields.find? fun field => nameIs field.1 key).map fun field => field.2

/-- `QueryLaws`, and that nothing is found in an empty body. -/
structure FormLaws (query : QueryFn) : Prop extends QueryLaws query where
  empty : ∀ (key : List UInt8) (size : Nat), 0 < size →
    query [] key size = (.notFound, [])

theorem piecesQuery_formLaws : FormLaws piecesQuery where
  toQueryLaws := piecesQuery_laws
  empty _ _ _ := rfl

/-! ## The body -/

section Body

variable {fields sent : Fields} {body : List UInt8}

theorem sentAs_plain (sentAs : SentAs fields sent)
    (names : PlainNames (fields.map Prod.fst)) :
    ∀ pair ∈ sent, PlainPair pair := by
  induction sentAs with
  | nil => simp
  | @cons field pair fields sent both _ inductionHypothesis =>
      intro other member
      rcases List.mem_cons.mp member with rfl | inRest
      · obtain ⟨plainName, noEquals⟩ := names field.1 List.mem_cons_self
        have sameName := both.1.eq_of_unreserved plainName
        obtain ⟨noNul, noAmp⟩ := both.1.encodes.not_mem
        obtain ⟨noNul', noAmp'⟩ := both.2.encodes.not_mem
        refine ⟨noNul, noAmp, ?_, noNul', noAmp'⟩
        rwa [sameName]
      · exact inductionHypothesis
          (fun name inRest => names name (List.mem_cons_of_mem _ inRest))
          other inRest

/-- The first pair with a name is what is sent of the first such field. -/
theorem sentAs_fieldValue (sentAs : SentAs fields sent)
    (names : PlainNames (fields.map Prod.fst)) (key : List UInt8) :
    Option.Rel Sends (fieldValue fields key) (fieldValue sent key) := by
  induction sentAs with
  | nil => exact .none
  | @cons field pair fields sent both _ inductionHypothesis =>
      have sameName :=
        both.1.eq_of_unreserved (names field.1 List.mem_cons_self).1
      have rest := inductionHypothesis fun name inRest =>
        names name (List.mem_cons_of_mem _ inRest)
      rw [fieldValue, fieldValue, List.find?_cons, List.find?_cons,
        sameName]
      cases nameIs field.1 key with
      | true => exact .some both.2
      | false => exact rest

theorem formBody_length_le (sent : Fields) :
    (formBody sent).length ≤
      (sent.map fun pair => pair.1.length + pair.2.length + 2).sum := by
  induction sent with
  | nil => simp [formBody]
  | cons pair rest inductionHypothesis =>
      cases rest with
      | nil =>
          simp [formBody]
          omega
      | cons second rest =>
          simp only [formBody, List.map_cons, List.sum_cons,
            List.intercalate_cons_cons, List.length_append, List.length_cons,
            List.length_nil] at inductionHypothesis ⊢
          omega

/-- The length of a body, from the fields. -/
theorem Submits.length_le (submits : Submits fields body)
    (names : PlainNames (fields.map Prod.fst)) :
    body.length ≤
      (fields.map fun field =>
        field.1.length + 3 * field.2.length + 2).sum := by
  obtain ⟨sent, sentAs, rfl⟩ := submits
  refine (formBody_length_le sent).trans ?_
  induction sentAs with
  | nil => simp
  | @cons field pair fields sent both _ inductionHypothesis =>
      have sameName :=
        both.1.eq_of_unreserved (names field.1 List.mem_cons_self).1
      have value := both.2.encodes.length_le
      have rest := inductionHypothesis fun name inRest =>
        names name (List.mem_cons_of_mem _ inRest)
      simp only [List.map_cons, List.sum_cons, sameName]
      omega

end Body

/-! ## What a handler finds -/

section Fields

variable {query : QueryFn} {fields : Fields} {body : List UInt8}
  {size : Nat}

/-- A field is found as it was sent. -/
theorem Submits.finds (laws : FormLaws query) (submits : Submits fields body)
    (names : PlainNames (fields.map Prod.fst)) (key : List UInt8) (size : Nat)
    (positive : 0 < size) :
    ∃ sent, Option.Rel Sends (fieldValue fields key) sent ∧
      query body key size = answer size sent := by
  obtain ⟨sent, sentAs, rfl⟩ := submits
  refine ⟨fieldValue sent key, sentAs_fieldValue sentAs names key, ?_⟩
  by_cases none : sent = []
  · subst none
    exact laws.empty key size positive
  · have found := laws.finds sent [] key size none (sentAs_plain sentAs names)
      (Or.inl rfl) positive
    rwa [List.append_nil] at found

theorem Submits.finds_none (laws : FormLaws query)
    (submits : Submits fields body) (names : PlainNames (fields.map Prod.fst))
    (key : List UInt8) (size : Nat) (absent : fieldValue fields key = none)
    (positive : 0 < size) : query body key size = (.notFound, []) := by
  obtain ⟨sent, same, found⟩ := submits.finds laws names key size positive
  rw [absent] at same
  cases same
  exact found

/-- With room for three bytes for each byte, a value is found whole. -/
theorem Submits.finds_some (laws : FormLaws query)
    (submits : Submits fields body) (names : PlainNames (fields.map Prod.fst))
    (key : List UInt8) (size : Nat) {value : List UInt8}
    (present : fieldValue fields key = some value)
    (room : 3 * value.length < size) :
    ∃ sent, Sends value sent ∧ query body key size = (.ok, sent) := by
  obtain ⟨sent, same, found⟩ :=
    submits.finds laws names key size (Nat.zero_lt_of_lt room)
  rw [present] at same
  cases same with
  | @some _ sent sends =>
      have length := sends.encodes.length_le
      refine ⟨sent, sends, ?_⟩
      rw [found, answer, if_pos (by omega)]

/-- Letters, digits and marks are found as they are. -/
theorem Submits.finds_plain (laws : FormLaws query)
    (submits : Submits fields body) (names : PlainNames (fields.map Prod.fst))
    (key : List UInt8) (size : Nat) {value : List UInt8}
    (present : fieldValue fields key = some value)
    (plain : Unreserved value) (room : value.length < size) :
    query body key size = (.ok, value) := by
  obtain ⟨sent, same, found⟩ :=
    submits.finds laws names key size (Nat.zero_lt_of_lt room)
  rw [present] at same
  cases same with
  | @some _ sent sends =>
      rw [found, sends.eq_of_unreserved plain, answer, if_pos room]

/-- It decodes to what it was. -/
theorem formDecode_sends {value sent : List UInt8} (sends : Sends value sent)
    (room : value.length < size) : formDecode sent size = value := by
  rw [formDecode_eq (by omega) sends.encodes.not_mem.1,
    sends.encodes.decode hexByte_reads, List.take_of_length_le (by omega)]

/-- A body that fits its buffer is received whole. -/
theorem recvBody_whole {size : Nat} (room : body.length < size) :
    recvBody true body size = some body := by
  rw [recvBody, if_pos rfl, List.take_of_length_le (by omega)]

end Fields

end VeteraBridge.Web

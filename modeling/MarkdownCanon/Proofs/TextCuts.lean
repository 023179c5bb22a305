import MarkdownCanon.Reading.Document
import Mathlib.Logic.Relation

/-! What is read does not depend on where a parser cuts plain text. A text may come as one token or
as several, wherever inline content stands, except for the label of a link: that a link is written
between angle brackets is told from its label being a single text. -/

namespace MarkdownCanon

namespace Token

/-- A text, and two that say the same. -/
structure CutInto (t a b : Token) : Prop where
  text : t.isA "text" = true
  left : a.isA "text" = true
  right : b.isA "text" = true
  raw : ∃ first second, t.raw = some (first ++ second) ∧ a.raw = some first ∧ b.raw = some second

theorem joinFault?_cons_cons (a b : Token) (rest : List Token) :
    joinFault? (a :: b :: rest) = none ↔
      (a.isA "text" = true → b.isA "text" = true → textFault? a.raw b.raw = none) ∧
        joinFault? (b :: rest) = none := by
  rw [joinFault?]
  by_cases both : (a.isA "text" && b.isA "text") = true
  · rw [if_pos both]
    rw [Bool.and_eq_true] at both
    cases textFault? a.raw b.raw <;> simp [both]
  · rw [if_neg both]
    rw [Bool.and_eq_true, not_and] at both
    simp +contextual [both]

/-- Two texts that stand for one are joined with what is around them as it is. -/
theorem CutInto.joinFault? {t a b : Token} (cut : t.CutInto a b) (front rest : List Token) :
    joinFault? (front ++ t :: rest) = Token.joinFault? (front ++ a :: b :: rest) := by
  obtain ⟨text, left, right, first, second, whole, start, end_⟩ := cut
  induction front with
  | nil =>
    have between : Token.joinFault? (a :: b :: rest) = Token.joinFault? (b :: rest) := by
      simp [Token.joinFault?, left, right, start, end_, textFault?]
    rw [List.nil_append, List.nil_append, between]
    cases rest with
    | nil => rfl
    | cons n rest =>
      rw [Token.joinFault?, Token.joinFault?, text, right, whole, end_]
      cases n.raw <;> rfl
  | cons f front ih =>
    cases front with
    | nil =>
      rw [List.nil_append, List.nil_append] at ih
      rw [List.singleton_append, List.singleton_append, Token.joinFault?, Token.joinFault?, ih,
        text, left, whole, start]
      cases f.raw <;> rfl
    | cons g front =>
      rw [List.cons_append, List.cons_append] at ih
      rw [List.cons_append, List.cons_append, List.cons_append, List.cons_append, Token.joinFault?,
        Token.joinFault?, ih]

theorem readInlinesFrom_text {t : Token} {content : String} (text : t.isA "text" = true)
    (there : t.raw = some content) (pending : String) (rest : List Token) :
    readInlinesFrom pending (t :: rest) = readInlinesFrom (pending ++ content) rest := by
  obtain ⟨data, children⟩ := t
  simp only [isA, raw, Token.data] at text there
  simp only [readInlinesFrom, text, there, ↓reduceIte, require, pure_bind]

/-- Plain text that does not go on has its own nodes. -/
theorem readInlinesFrom_pending {rest : List Token} (ends : ∀ n ∈ rest.head?, n.isA "text" = false)
    (pending : String) : readInlinesFrom pending rest =
      (textNodes pending ++ ·) <$> readInlinesFrom "" rest := by
  have nothing : textNodes "" = [] := rfl
  cases rest with
  | nil => simp [readInlinesFrom, nothing]
  | cons n rest =>
    obtain ⟨data, children⟩ := n
    have other : hasTag data "text" = false := ends _ rfl
    simp [readInlinesFrom, other, nothing]

/-- The nodes of a token that is read by itself. -/
def readAlone (t : Token) : Reading (List Node) :=
  if t.isA "text" then textNodes <$> require .characters t.raw else readInline t

/-- A token that is not joined with the next one is read by itself. -/
theorem readInlinesFrom_alone {t : Token} {rest : List Token}
    (ends : t.isA "text" = true → ∀ n ∈ rest.head?, n.isA "text" = false) :
    readInlinesFrom "" (t :: rest) =
      readAlone t >>= fun nodes => (nodes ++ ·) <$> readInlinesFrom "" rest := by
  cases text : t.isA "text" with
  | true =>
    rw [readAlone, if_pos text]
    cases there : t.raw with
    | none =>
      obtain ⟨data, children⟩ := t
      simp only [isA, raw, Token.data] at text there
      simp only [readInlinesFrom, text, there, ↓reduceIte]
      rfl
    | some content =>
      rw [readInlinesFrom_text text there, readInlinesFrom_pending (ends text), String.empty_append]
      simp [require]
  | false =>
    obtain ⟨data, children⟩ := t
    have nothing : textNodes "" = [] := rfl
    simp only [isA, Token.data] at text
    simp [readInlinesFrom, readAlone, isA, Token.data, text, nothing]

theorem CutInto.readInlinesFrom {t a b : Token} (cut : t.CutInto a b) (pending : String)
    (rest : List Token) :
    readInlinesFrom pending (t :: rest) = Token.readInlinesFrom pending (a :: b :: rest) := by
  obtain ⟨text, left, right, first, second, whole, start, end_⟩ := cut
  rw [readInlinesFrom_text text whole, readInlinesFrom_text left start,
    readInlinesFrom_text right end_, String.append_assoc]

theorem readInlinesFrom_joinOnto {t : Token} {ts : List Token}
    (fine : joinFault? (t :: ts) = none) :
    readInlinesFrom "" (t :: ts) = List.flatten <$> (joinOnto joinTexts? t ts).mapM readAlone := by
  have nothing : textNodes "" = [] := rfl
  induction ts generalizing t with
  | nil =>
    rw [readInlinesFrom_alone (by simp), joinOnto]
    simp [readInlinesFrom, nothing]
  | cons n rest ih =>
    by_cases both : t.isA "text" = true ∧ n.isA "text" = true
    · obtain ⟨text, next⟩ := both
      have here := ((joinFault?_cons_cons t n rest).mp fine).1 text next
      have together : ∃ first second, t.raw = some first ∧ n.raw = some second := by
        cases first : t.raw <;> cases second : n.raw <;> simp [first, second, textFault?] at here ⊢
      obtain ⟨first, second, start, end_⟩ := together
      have joined : joinTexts? t n = some (ofText (first ++ second)) := by
        simp [joinTexts?, text, next, start, end_]
      -- Joining is the way back from cutting.
      have cut : (ofText (first ++ second)).CutInto t n :=
        ⟨rfl, text, next, first, second, rfl, start, end_⟩
      have fine' : joinFault? (ofText (first ++ second) :: rest) = none :=
        (cut.joinFault? [] rest).trans fine
      rw [← cut.readInlinesFrom, joinOnto, joined, ih fine']
    · have apart : joinTexts? t n = none := by
        simpa [joinTexts?] using both
      have ends : t.isA "text" = true → ∀ m ∈ (n :: rest).head?, m.isA "text" = false := by
        simpa using both
      have later := ih ((joinFault?_cons_cons t n rest).mp fine).2
      rw [readInlinesFrom_alone ends, joinOnto, apart, later]
      simp

/-- **Texts are joined first.** Inline content is what the tokens give one by one, once each run of
texts has been made one. -/
theorem readInlines_joined (data : TokenData) (ts : List Token) :
    readInlines data ts = requireInlines data ts >>= fun _ =>
      List.flatten <$> (joinAdjacent joinTexts? ts).mapM readAlone := by
  have nothing : textNodes "" = [] := rfl
  unfold readInlines requireInlines
  cases fault : joinFault? ts with
  | some asked =>
    simp only [bind_assoc]
    rfl
  | none =>
    simp only [bind_assoc, pure_bind]
    cases ts with
    | nil => simp [joinAdjacent, readInlinesFrom, nothing]
    | cons t ts => rw [joinAdjacent, readInlinesFrom_joinOnto fault]

/-- What a list of tokens is read as. The children of a link are inline content too, but it counts
how many there are. -/
inductive Place where
  | blocks
  | items
  | parts
  | rows
  | cells
  | inlines
  | label
  deriving DecidableEq, Repr

/-- What the children of a token are read as, if they are. -/
def Place.inside? : Place → TokenData → Option Place
  | .blocks, data =>
    if hasTag data "heading" || hasTag data "paragraph" || hasTag data "block_text" then
      some .inlines
    else if hasTag data "block_quote" then some .blocks
    else if hasTag data "list" then some .items
    else if hasTag data "table" then some .parts
    else none
  | .items, _ => some .blocks
  | .parts, data =>
    if hasTag data "table_head" then some .cells
    else if hasTag data "table_body" then some .rows
    else none
  | .rows, _ => some .cells
  | .cells, _ => some .inlines
  | .inlines, data | .label, data => some (if hasTag data "link" then .label else .inlines)

/-- `Cut place tokens tokens'`: somewhere in the trees of `tokens` a text stands in inline content,
and in `tokens'` there are two in its place that say the same. -/
inductive Cut : Place → List Token → List Token → Prop where
  | here {t a b : Token} {rest : List Token} (cut : t.CutInto a b) :
      Cut .inlines (t :: rest) (a :: b :: rest)
  | inside {place inner : Place} {data : TokenData} {children children' rest : List Token}
      (read : place.inside? data = some inner) (cut : Cut inner children children') :
      Cut place (.mk data children :: rest) (.mk data children' :: rest)
  | later {place : Place} {t : Token} {tokens tokens' : List Token}
      (cut : Cut place tokens tokens') : Cut place (t :: tokens) (t :: tokens')

/-- Tokens that differ in nothing but where their texts are cut. -/
def SameUncut (place : Place) : List Token → List Token → Prop := Relation.EqvGen (Cut place)

/-- Lists of tokens that nothing tells apart when they are read in some place. In inline content it
has to be so behind any other tokens. -/
def ReadAlike : Place → List Token → List Token → Prop
  | .blocks, ts, ts' =>
    ∀ inItem blankBefore, readBlocks inItem blankBefore ts = readBlocks inItem blankBefore ts'
  | .items, ts, ts' => ∀ tight first, readItems tight first ts = readItems tight first ts'
  | .parts, ts, ts' => ∀ header rows, readTable header rows ts = readTable header rows ts'
  | .rows, ts, ts' => readRows ts = readRows ts'
  | .cells, ts, ts' => readCells ts = readCells ts'
  | .inlines, ts, ts' =>
    (∀ front, joinFault? (front ++ ts) = joinFault? (front ++ ts')) ∧
      ∀ pending, readInlinesFrom pending ts = readInlinesFrom pending ts'
  | .label, ts, ts' =>
    ts.map Token.data = ts'.map Token.data ∧
      ∀ pending, readInlinesFrom pending ts = readInlinesFrom pending ts'

/-- Whether texts can be joined is told from the tokens without their children. -/
theorem joinFault?_of_data {ts ts' : List Token} (same : ts.map Token.data = ts'.map Token.data) :
    joinFault? ts = joinFault? ts' := by
  induction ts generalizing ts' with
  | nil =>
    obtain rfl : ts' = [] := List.map_eq_nil_iff.mp same.symm
    rfl
  | cons a ts ih =>
    obtain ⟨⟨data, inner⟩, ts', rfl, first, rest⟩ := List.map_eq_cons_iff.mp same.symm
    obtain ⟨_, _⟩ := a
    obtain rfl : data = _ := first
    cases ts with
    | nil =>
      obtain rfl : ts' = [] := List.map_eq_nil_iff.mp rest
      rfl
    | cons b ts =>
      obtain ⟨⟨data, inner⟩, ts', rfl, second, _⟩ := List.map_eq_cons_iff.mp rest
      obtain ⟨_, _⟩ := b
      obtain rfl : data = _ := second
      rw [joinFault?, joinFault?, ih rest.symm]
      rfl

/-- So is whether a link is written between angle brackets. -/
theorem autolinkLabel?_of_data {ts ts' : List Token}
    (same : ts.map Token.data = ts'.map Token.data) (attributes : Attributes) (data : TokenData) :
    autolinkLabel? attributes data ts = autolinkLabel? attributes data ts' := by
  match ts, ts' with
  | [], [] => rfl
  | [.mk label inner], [.mk label' inner'] =>
    obtain rfl : label = label' := by simpa [Token.data] using same
    rfl
  | _ :: _ :: _, _ :: _ :: _ => rfl
  | [], _ :: _ => simp at same
  | _ :: _, [] => simp at same
  | [_], _ :: _ :: _ => simp at same
  | _ :: _ :: _, [_] => simp at same

namespace ReadAlike

variable {ts ts' : List Token}

/-- Where tokens are read alike, they are so behind another one. -/
theorem later {place : Place} (h : ReadAlike place ts ts') (t : Token) :
    ReadAlike place (t :: ts) (t :: ts') := by
  obtain ⟨data, children⟩ := t
  cases place with
  | blocks =>
    intro inItem blankBefore
    simp only [readBlocks, h _ _]
  | items =>
    intro tight first
    simp only [readItems, h _ _]
  | parts =>
    intro header rows
    simp only [readTable, h _ _]
  | rows =>
    have rows : readRows ts = readRows ts' := h
    change readRows _ = readRows _
    simp only [readRows, rows]
  | cells =>
    have cells : readCells ts = readCells ts' := h
    change readCells _ = readCells _
    simp only [readCells, cells]
  | inlines =>
    refine ⟨fun front => ?_, fun pending => ?_⟩
    · have behind := h.1 (front ++ [.mk data children])
      rwa [← List.append_cons, ← List.append_cons] at behind
    · simp only [readInlinesFrom, h.2 _]
  | label =>
    refine ⟨?_, fun pending => ?_⟩
    · rw [List.map_cons, List.map_cons, h.1]
    · simp only [readInlinesFrom, h.2 _]

theorem requireInlines (h : ReadAlike .inlines ts ts') (data : TokenData) :
    requireInlines data ts = Token.requireInlines data ts' := by
  have fault : joinFault? ts = joinFault? ts' := h.1 []
  simp only [Token.requireInlines, fault]

theorem readInlines (h : ReadAlike .inlines ts ts') (data : TokenData) :
    readInlines data ts = Token.readInlines data ts' := by
  simp only [Token.readInlines, h.requireInlines data, h.2 ""]

/-- The label of a link is inline content, whatever stands before it. -/
theorem of_label (h : ReadAlike .label ts ts') : ReadAlike .inlines ts ts' :=
  ⟨fun front => joinFault?_of_data (by simp [h.1]), h.2⟩

theorem readInline {data : TokenData}
    (h : ReadAlike (if hasTag data "link" then .label else .inlines) ts ts') :
    readInline (.mk data ts) = Token.readInline (.mk data ts') := by
  rw [Token.readInline, Token.readInline]
  by_cases link : hasTag data "link" = true
  · rw [if_pos link] at h
    have label := fun attributes => autolinkLabel?_of_data h.1 attributes data
    simp only [label, h.of_label.requireInlines data, h.2 ""]
  · rw [if_neg link] at h
    simp only [link, Bool.false_eq_true, ↓reduceIte, h.requireInlines data, h.2 ""]

theorem readInlinesFrom {data : TokenData} (rest : List Token)
    (h : ReadAlike (if hasTag data "link" then .label else .inlines) ts ts') (pending : String) :
    readInlinesFrom pending (.mk data ts :: rest) =
      Token.readInlinesFrom pending (.mk data ts' :: rest) := by
  simp only [Token.readInlinesFrom, h.readInline]

theorem readBlock {data : TokenData} {inner : Place} (read : Place.blocks.inside? data = some inner)
    (h : ReadAlike inner ts ts') (blankBefore : Bool) :
    readBlock blankBefore (.mk data ts) = Token.readBlock blankBefore (.mk data ts') := by
  rw [Token.readBlock, Token.readBlock]
  rw [Place.inside?] at read
  split at read
  · rename_i inlines
    cases read
    have content := h.readInlines data
    cases heading : hasTag data "heading" with
    | true => simp only [↓reduceIte, content]
    | false =>
      have paragraph : (hasTag data "paragraph" || hasTag data "block_text") = true := by
        simpa [heading] using inlines
      simp only [paragraph, Bool.false_eq_true, ↓reduceIte, content]
  rename_i others
  simp only [Bool.or_eq_true, not_or, Bool.not_eq_true] at others
  obtain ⟨⟨heading, paragraph⟩, text⟩ := others
  simp only [heading, paragraph, text, Bool.or_self, Bool.false_eq_true, ↓reduceIte]
  split at read
  · rename_i quote
    cases read
    simp only [quote, ↓reduceIte, h false false]
  rename_i quote
  split at read
  · rename_i list
    cases read
    simp only [quote, list, Bool.false_eq_true, ↓reduceIte, h _ true]
  rename_i list
  split at read
  · cases read
    simp only [quote, list, Bool.false_eq_true, ↓reduceIte, h none []]
  · cases read

theorem inside {place inner : Place} {data : TokenData} (read : place.inside? data = some inner)
    (h : ReadAlike inner ts ts') (rest : List Token) :
    ReadAlike place (.mk data ts :: rest) (.mk data ts' :: rest) := by
  cases place with
  | blocks =>
    intro inItem blankBefore
    simp only [Token.readBlocks, readBlock read h]
  | items =>
    cases read
    intro tight first
    simp only [Token.readItems, h true false]
  | parts =>
    intro header rows
    have isA (tag : String) (children : List Token) :
        (mk data children).isA tag = hasTag data tag := rfl
    rw [Token.readTable, Token.readTable, isA, isA, isA, isA]
    rw [Place.inside?] at read
    split at read
    · rename_i head
      cases read
      have cells : Token.readCells ts = Token.readCells ts' := h
      rw [if_pos head, if_pos head, Token.children, Token.children, cells]
      rfl
    rename_i head
    rw [if_neg head, if_neg head]
    split at read
    · rename_i body
      cases read
      have rows : Token.readRows ts = Token.readRows ts' := h
      rw [if_pos body, if_pos body, Token.children, Token.children, rows]
      rfl
    · cases read
  | rows =>
    cases read
    have cells : Token.readCells ts = Token.readCells ts' := h
    change Token.readRows _ = Token.readRows _
    simp only [Token.readRows, Token.data, Token.children, cells]
  | cells =>
    cases read
    change Token.readCells _ = Token.readCells _
    simp only [Token.readCells, Token.data, Token.children, h.readInlines]
  | inlines =>
    cases read
    refine ⟨fun front => ?_, h.readInlinesFrom rest⟩
    exact joinFault?_of_data (by simp [Token.data])
  | label =>
    cases read
    refine ⟨?_, h.readInlinesFrom rest⟩
    simp [Token.data]

end ReadAlike

theorem Cut.readAlike {place : Place} {ts ts' : List Token} (cut : Cut place ts ts') :
    ReadAlike place ts ts' := by
  induction cut with
  | here cut =>
    exact ⟨fun front => cut.joinFault? front _, fun pending => cut.readInlinesFrom pending _⟩
  | inside read _ ih => exact ih.inside read _
  | later _ ih => exact ih.later _

/-- What does not depend on one cut does not depend on any number of them. -/
theorem SameUncut.eq {β : Type} {place : Place} {f : List Token → β} {ts ts' : List Token}
    (same : SameUncut place ts ts') (once : ∀ ts ts', Cut place ts ts' → f ts = f ts') :
    f ts = f ts' := by
  induction same with
  | rel ts ts' cut => exact once ts ts' cut
  | refl ts => rfl
  | symm ts ts' _ ih => exact ih.symm
  | trans ts ts' ts'' _ _ ih ih' => exact ih.trans ih'

end Token

/-- Replies of a parser that differ in nothing but where their texts are cut. -/
inductive ParserReply.SameUncut : ParserReply → ParserReply → Prop where
  | tokens {ts ts' : List Token} (same : Token.SameUncut .blocks ts ts') :
      SameUncut (.tokens ts) (.tokens ts')
  | tooDeep : SameUncut .tooDeep .tooDeep
  | rendered : SameUncut .rendered .rendered

namespace Token

/-- **Where a parser cuts text makes no difference.** Tokens that say the same, with any number of
texts cut in two or made one anywhere in inline content but directly in a link, are read alike: as
inline content, and as the blocks around it, with the same nodes, identifiers of headings, notes in
the journal and faults. So two parsers that differ in that alone give the same documents. -/
theorem reading_ignores_cuts :
    (∀ {ts ts' : List Token}, SameUncut .inlines ts ts' →
      ∀ data, readInlines data ts = readInlines data ts') ∧
    (∀ {ts ts' : List Token}, SameUncut .blocks ts ts' → ∀ inItem blankBefore,
      readBlocks inItem blankBefore ts = readBlocks inItem blankBefore ts') ∧
    ∀ (settings : ReaderSettings) (disk : Disk) (input : Input) {parser parser' : Parser},
      (∀ extensions text, (parser extensions text).SameUncut (parser' extensions text)) →
        settings.read parser disk input = settings.read parser' disk input := by
  have blocks {ts ts' : List Token} (same : SameUncut .blocks ts ts') (inItem blankBefore : Bool) :
      readBlocks inItem blankBefore ts = readBlocks inItem blankBefore ts' :=
    same.eq fun _ _ cut => cut.readAlike inItem blankBefore
  refine ⟨fun same data => same.eq fun _ _ cut => cut.readAlike.readInlines data, blocks, ?_⟩
  intro settings disk input parser parser' alike
  unfold ReaderSettings.read
  refine congrArg _ (funext fun text => ?_)
  have here := alike settings.extensions text
  generalize parser settings.extensions text = reply at here ⊢
  generalize parser' settings.extensions text = reply' at here ⊢
  cases here with
  | tokens same => simp only [blocks same]
  | tooDeep => rfl
  | rendered => rfl

/-- A cut within the identifier of a heading, and one within a line end, in a span of a link. -/
theorem reading_ignores_cuts_heading :
    let tag (name : String) : TokenData := { tag := some (.text name) }
    let linked (texts : List Token) : Token := .mk (tag "link") [.mk (tag "strong") texts]
    let whole := [ofText "a ", linked [ofText "b \n c"], ofText " d \x7b#id\x7d"]
    let cut := [ofText "a ", linked [ofText "b ", ofText "\n c"], ofText " d \x7b#",
      ofText "id\x7d"]
    let heading (children : List Token) : List Token := [.mk (tag "heading") children]
    SameUncut .inlines whole cut ∧ SameUncut .blocks (heading whole) (heading cut) ∧
      readInlines {} whole = readInlines {} cut ∧
      (∃ after, readBlocks false false (heading cut) {} = .ok [.heading ⟨1, by decide⟩
        [.text "a ", .link (some "") [.strong [.text "b", .lineBreak true, .text "c"]] none,
          .text " d"] (some "id")] after) ∧
      ({} : ReaderSettings).read (fun _ _ => .tokens (heading whole)) default (.text "") =
        ({} : ReaderSettings).read (fun _ _ => .tokens (heading cut)) default (.text "") := by
  intro tag linked whole cut heading
  have name : CutInto (ofText " d \x7b#id\x7d") (ofText " d \x7b#") (ofText "id\x7d") :=
    ⟨rfl, rfl, rfl, " d \x7b#", "id\x7d", rfl, rfl, rfl⟩
  have line : CutInto (ofText "b \n c") (ofText "b ") (ofText "\n c") :=
    ⟨rfl, rfl, rfl, "b ", "\n c", rfl, rfl, rfl⟩
  have first : Cut .inlines whole
      [ofText "a ", linked [ofText "b ", ofText "\n c"], ofText " d \x7b#id\x7d"] :=
    .later (.inside rfl (.inside rfl (.here line)))
  have second : Cut .inlines
      [ofText "a ", linked [ofText "b ", ofText "\n c"], ofText " d \x7b#id\x7d"] cut :=
    .later (.later (.here name))
  have inlines : SameUncut .inlines whole cut := .trans _ _ _ (.rel _ _ first) (.rel _ _ second)
  have blocks : SameUncut .blocks (heading whole) (heading cut) :=
    .trans _ _ _ (.rel _ _ (.inside rfl first)) (.rel _ _ (.inside rfl second))
  obtain ⟨inside, around, documents⟩ := reading_ignores_cuts
  refine ⟨inlines, blocks, inside inlines {}, ?_, documents {} default (.text "") fun _ _ =>
    .tokens blocks⟩
  rw [← around blocks]
  exact ⟨_, rfl⟩

/-- The label of a link is another matter: cut in two, it is not one between angle brackets. -/
example :
    let link (label : List Token) : Token :=
      .mk { tag := some (.text "link"), attributes := some { url := some "ab:c" } } label
    readInline (link [ofText "ab:c"]) {} = .ok [.autolink "ab:c" "ab:c"] {} ∧
      readInline (link [ofText "ab:", ofText "c"]) {} =
        .ok [.link (some "ab:c") [.text "ab:c"] none] {} := ⟨rfl, rfl⟩

end Token

end MarkdownCanon

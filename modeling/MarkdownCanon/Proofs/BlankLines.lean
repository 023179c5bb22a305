import MarkdownCanon.Proofs.Margins
import MarkdownCanon.Proofs.ReadTrees
import Mathlib.Data.List.Forall2

/-! What reading keeps of blank lines. They are no nodes: a list or raw HTML notes that one stands
before it, and that is told from the token before it alone. -/

namespace MarkdownCanon

namespace Text

/-- A line without the spaces it starts with, of which no more than `width` are taken off. -/
def Loses (width : Nat) (line rest : List Char) : Prop :=
  ∃ n ≤ width, line = List.replicate n ' ' ++ rest ∧ (n < width → rest.head? ≠ some ' ')

/-- A text whose lines have lost as many spaces as the first one starts with, as far as they have
them. -/
def Dedented (text rest : List Char) : Prop :=
  ∃ width, (∃ first, (segments text).head? = some (List.replicate width ' ' ++ first) ∧
      first.head? ≠ some ' ') ∧
    List.Forall₂ (Loses width) (segments text) (segments rest)

theorem leading_spaces (line : List Char) : ∃ tail,
    line = List.replicate (line.takeWhile isSpace).length ' ' ++ tail ∧ tail.head? ≠ some ' ' := by
  refine ⟨line.dropWhile isSpace, ?_, fun starts => ?_⟩
  · have spaces : line.takeWhile isSpace =
        List.replicate (line.takeWhile isSpace).length ' ' := by
      refine List.eq_replicate_of_mem fun c m => ?_
      simpa [isSpace] using List.mem_takeWhile_imp m
    rw [← spaces, List.takeWhile_append_dropWhile]
  · have first := List.head?_dropWhile_not isSpace line
    rw [starts] at first
    cases first

theorem loses_drop (width : Nat) (line : List Char) :
    Loses width line (line.drop (min width (line.takeWhile isSpace).length)) := by
  obtain ⟨tail, whole, starts⟩ := leading_spaces line
  generalize (line.takeWhile isSpace).length = m at whole ⊢
  subst whole
  refine ⟨min width m, Nat.min_le_left .., ?_, fun less => ?_⟩
  · have inside : min width m ≤ (List.replicate m ' ').length := by
      rw [List.length_replicate]
      exact Nat.min_le_right ..
    rw [List.drop_append_of_le_length inside, List.drop_replicate, ← List.append_assoc,
      List.replicate_append_replicate, Nat.add_sub_cancel' (Nat.min_le_right ..)]
  · have all : min width m = m := by omega
    rw [all, List.drop_left' (by simp)]
    exact starts

end Text

/-- What a block notes of a blank line before it, if it does. -/
def Node.blankNote? : Node → Option Bool
  | .list style _ => some style.blankBefore
  | .htmlBlock _ blankBefore => some blankBefore
  | .textless (.htmlBlock blankBefore) => some blankBefore
  | _ => none

namespace Token

/-- What a step of reading may give. -/
def Reads {α : Type} (x : Reading α) (a : α) : Prop := ∃ before after, x before = .ok a after

/-- Whether a token is told apart from the one before it by a blank line: there is one, or outside
of items a list, which takes in the blank lines behind it. -/
def PartedFrom (inItem : Bool) (before : Option Token) : Prop :=
  ∃ t, before = some t ∧ (t.isA "blank_line" = true ∨ inItem = false ∧ t.isA "list" = true)

/-- Blocks that are read without regard to what stands around them. -/
def isLoneBlock (t : Token) : Bool :=
  t.isA "heading" || t.isA "block_code" || t.isA "table" || t.isA "thematic_break"

def isParagraph (t : Token) : Bool := t.isA "paragraph" || t.isA "block_text"

mutual

/-- `Becomes inItem before t piece`: what becomes of a block token, if anything, given the token
before it. -/
inductive Becomes : Bool → Option Token → Token → Option Node → Prop where
  | blankLine {inItem : Bool} {before : Option Token} {t : Token}
      (kind : t.isA "blank_line" = true) : Becomes inItem before t none
  | emptyParagraph {inItem : Bool} {before : Option Token} {t : Token}
      (kind : t.isParagraph = true) (content : Reads (readInlines t.data t.children) []) :
      Becomes inItem before t none
  | paragraph {inItem : Bool} {before : Option Token} {t : Token} {content : List Node}
      (kind : t.isParagraph = true) (reads : Reads (readInlines t.data t.children) content)
      (some_ : content ≠ []) : Becomes inItem before t (some (.paragraph content))
  | lone {inItem : Bool} {before : Option Token} {t : Token} {flag : Bool} {n : Node}
      (kind : t.isLoneBlock = true) (reads : Reads (readBlock flag t) (some n))
      (other : n.blankNote? = none) : Becomes inItem before t (some n)
  | quote {inItem : Bool} {before : Option Token} {t : Token} {flag : Bool} {nodes : List Node}
      (kind : t.isA "block_quote" = true)
      (reads : Reads (readBlock flag t) (some (.blockQuote nodes)))
      (inside : BecomeBlocks false none t.children nodes) :
      Becomes inItem before t (some (.blockQuote nodes))
  | list {inItem : Bool} {before : Option Token} {t : Token} {style : ListStyle}
      {items : List Node} (kind : t.isA "list" = true)
      (reads : Reads (readBlock style.blankBefore t) (some (.list style items)))
      (parted : style.blankBefore = true ↔ PartedFrom inItem before)
      (inside : BecomeItems t.children items) : Becomes inItem before t (some (.list style items))
  | html {before : Option Token} {t : Token} {flag : Bool} (kind : t.isA "block_html" = true)
      (parted : flag = true ↔ PartedFrom false before) :
      Becomes false before t (some (.ofHtmlBlock t.raw flag))
  | dedentedHtml {before : Option Token} {t : Token} {raw content : String} {flag : Bool}
      (kind : t.isA "block_html" = true) (parted : flag = true ↔ PartedFrom true before)
      (some_ : t.raw = some raw) (dedented : Text.Dedented raw.toList content.toList) :
      Becomes true before t (some (.htmlBlock content flag))

/-- What becomes of block tokens one after the other, given the token before the first. -/
inductive BecomeBlocks : Bool → Option Token → List Token → List Node → Prop where
  | nil {inItem : Bool} {before : Option Token} : BecomeBlocks inItem before [] []
  | cons {inItem : Bool} {before : Option Token} {t : Token} {piece : Option Node}
      {rest : List Token} {nodes : List Node} (here : Becomes inItem before t piece)
      (later : BecomeBlocks inItem (some t) rest nodes) :
      BecomeBlocks inItem before (t :: rest) (piece.toList ++ nodes)

/-- What becomes of the items of a list. -/
inductive BecomeItems : List Token → List Node → Prop where
  | nil : BecomeItems [] []
  | cons {t : Token} {rest : List Token} {blocks items : List Node} {task : Option TaskStatus}
      {blankBefore : Bool} (kind : t.isA "list_item" = true ∨ t.isA "task_list_item" = true)
      (inside : BecomeBlocks true none t.children blocks) (later : BecomeItems rest items) :
      BecomeItems (t :: rest) (.listItem blocks task blankBefore :: items)

end

theorem dedentHtml_dedented (raw : List Char) : Text.Dedented raw (dedentHtml raw) := by
  obtain ⟨first, rest, cut⟩ := List.exists_cons_of_ne_nil (Writer.segments_ne_nil raw)
  obtain ⟨tail, whole, starts⟩ := Text.leading_spaces first
  refine ⟨_, ⟨tail, by rw [cut, List.head?_cons, ← whole], starts⟩, ?_⟩
  unfold dedentHtml
  rw [cut]
  dsimp only
  rw [Text.segments_joinSegments]
  · rw [List.forall₂_map_right_iff, List.forall₂_same]
    exact fun line _ => Text.loses_drop _ line
  · intro line m
    obtain ⟨source, there, rfl⟩ := List.mem_map.mp m
    rw [← cut] at there
    exact fun inside => Text.segments_line there (List.mem_of_mem_drop inside)
  · simp

@[simp] theorem partedFrom_none (inItem : Bool) : ¬PartedFrom inItem none := by
  simp [PartedFrom]

@[simp] theorem partedFrom_some (inItem : Bool) (t : Token) : PartedFrom inItem (some t) ↔
    t.isA "blank_line" = true ∨ inItem = false ∧ t.isA "list" = true := by
  simp [PartedFrom]

section Gives

variable {α : Type} {P Q : α → Prop} {x : Reading α}

theorem Gives.mono (h : Gives P x) (imp : ∀ a, P a → Q a) : Gives Q x :=
  fun _ _ _ run => imp _ (h run)

theorem Gives.reads (x : Reading α) : Gives (Reads x) x :=
  fun before _ after run => ⟨before, after, run⟩

/-- What a step gives, it may give. -/
theorem Gives.of_reads (h : ∀ R : α → Prop, (∀ a, R a → Reads x a) →
    Gives (fun a => R a → P a) x) : Gives P x :=
  fun before _ after run => h _ (fun _ r => r) run ⟨before, after, run⟩

end Gives

theorem dedentNode_of_other {n : Node} (other : n.blankNote? = none) : dedentNode n = pure n := by
  unfold dedentNode
  split
  · cases other
  · cases other
  · rfl

theorem readTable_other (parts : List Token) {header : Option Node} {rows : List Node} :
    Gives (fun n => n.blankNote? = none) (readTable header rows parts) := by
  induction parts generalizing header rows with
  | nil =>
    rw [readTable]
    exact .pure rfl
  | cons part rest ih =>
    rw [readTable]
    refine .ite (fun _ => .after fun _ => .after fun _ => ih) fun _ => ?_
    exact .ite (fun _ => .after fun _ => .after fun _ => ih) fun _ => ih

theorem readCodeBlock_other (data : TokenData) :
    Gives (fun n => n.blankNote? = none) (readCodeBlock data) := by
  have other (info : Option String) (fence : Fence) (fenced : Bool) :
      (Node.ofCodeBlock data.raw info fence fenced).blankNote? = none := by
    cases data.raw <;> rfl
  unfold readCodeBlock
  exact .ite (fun _ => .pure (other ..)) fun _ => .after fun fence => .pure (other ..)

/-- What a block token has become is taken in; in an item its lines are first moved to the left. -/
theorem taken_becomes {inItem flag : Bool} {before : Option Token} {t : Token} {piece : Option Node}
    (parted : flag = true ↔ PartedFrom inItem before)
    (made : t.isA "block_html" = true ∧ piece = some (.ofHtmlBlock t.raw flag) ∨
      Becomes inItem before t piece ∧ ∀ n ∈ piece, dedentNode n = pure n) :
    Gives (fun nodes => ∃ piece : Option Node, nodes = piece.toList ∧ Becomes inItem before t piece)
      (piece.toList.mapM fun n => if inItem then dedentNode n else return n) := by
  obtain ⟨kind, rfl⟩ | ⟨becomes, kept⟩ := made
  · rw [Option.toList_some, List.mapM_cons, List.mapM_nil]
    cases inItem with
    | false => exact .pure ⟨_, rfl, .html kind parted⟩
    | true =>
      cases there : t.raw with
      | none => exact (Gives.throw (P := fun _ => False) _).bind fun _ never => never.elim
      | some raw =>
        refine .pure ⟨_, rfl, .dedentedHtml kind parted there ?_⟩
        rw [String.toList_ofList]
        exact dedentHtml_dedented raw.toList
  · have same (n : Node) (m : n ∈ piece) :
        (if inItem then dedentNode n else return n) = (pure n : Reading Node) := by
      split
      · exact kept n m
      · rfl
    cases piece with
    | none => exact .pure ⟨none, rfl, becomes⟩
    | some n =>
      rw [Option.toList_some, List.mapM_cons, List.mapM_nil, same n rfl, pure_bind, pure_bind]
      exact .pure ⟨some n, rfl, becomes⟩

theorem build_blankBefore (marker : ListMarker) (start : Option Int) (tight flag : Bool) :
    Gives (fun style => style.blankBefore = flag)
      (build (ListStyle.build marker start tight flag)) := by
  unfold ListStyle.build
  cases start with
  | none => exact .throw _
  | some start =>
    dsimp only
    split
    · exact .throw _
    · exact .pure rfl

mutual

theorem readBlocks_becomes (inItem flag : Bool) : (tokens : List Token) → (before : Option Token) →
    (flag = true ↔ PartedFrom inItem before) →
      Gives (BecomeBlocks inItem before tokens) (readBlocks inItem flag tokens)
  | [], _, _ => by
    rw [readBlocks]
    exact .pure .nil
  | .mk data children :: rest, before, parted => by
    have here := readBlock_becomes inItem flag (.mk data children) before parted
    have later (flag : Bool) := readBlocks_becomes inItem flag rest (some (.mk data children))
    rw [readBlocks]
    refine .ite (fun blank => ?_) fun other => ?_
    · refine (later true (by simp [isA, Token.data, blank])).mono fun nodes blocks => ?_
      have whole : BecomeBlocks inItem before (.mk data children :: rest)
          ((none : Option Node).toList ++ nodes) := .cons (.blankLine blank) blocks
      exact whole
    · refine here.bind fun piece made => (taken_becomes parted made).bind fun nodes become => ?_
      refine (later _ (by simp [isA, Token.data, other])).bind fun nodes' blocks => .pure ?_
      obtain ⟨piece, rfl, becomes⟩ := become
      exact .cons becomes blocks

theorem readBlock_becomes (inItem flag : Bool) : (t : Token) → (before : Option Token) →
    (flag = true ↔ PartedFrom inItem before) →
      Gives (fun piece => t.isA "block_html" = true ∧ piece = some (.ofHtmlBlock t.raw flag) ∨
        Becomes inItem before t piece ∧ ∀ n ∈ piece, dedentNode n = pure n) (readBlock flag t)
  | .mk data children, before, parted => by
    have blocks := readBlocks_becomes false false children none (by simp)
    have items := readItems_become data.tight true children
    have single {n : Node} (kept : dedentNode n = pure n) :
        ∀ m ∈ some n, dedentNode m = pure m := by
      intro m same
      cases same
      exact kept
    -- Of the blocks that nothing else is said of, `reads` says that they are what is read.
    refine .of_reads fun R reads => ?_
    have lone {n : Node} (kind : (mk data children).isLoneBlock = true)
        (other : n.blankNote? = none) (r : R (some n)) :
        Becomes inItem before (.mk data children) (some n) ∧
          ∀ m ∈ some n, dedentNode m = pure m :=
      ⟨.lone kind (reads _ r) other, single (dedentNode_of_other other)⟩
    rw [readBlock]
    refine .ite (fun kind => .after fun attributes => .after fun content => ?_) fun _ => ?_
    · refine .after fun level => .pure fun r => .inr (lone ?_ rfl r)
      simp [isLoneBlock, isA, Token.data, kind]
    refine .ite (fun kind => ?_) fun _ => ?_
    · have paragraph : (Token.mk data children).isParagraph = true := kind
      refine (Gives.reads (readInlines data children)).bind fun content gives => .pure fun _ => ?_
      cases content with
      | nil => exact .inr ⟨.emptyParagraph paragraph gives, by simp⟩
      | cons n rest => exact .inr ⟨.paragraph paragraph gives (by simp), single rfl⟩
    refine .ite (fun kind => (readCodeBlock_other data).bind fun n other => ?_) fun _ => ?_
    · refine .pure fun r => .inr (lone ?_ other r)
      simp [isLoneBlock, isA, Token.data, kind]
    refine .ite (fun kind => .after fun _ => blocks.bind fun nodes inside => ?_) fun _ => ?_
    · exact .pure fun r => .inr ⟨.quote kind (reads _ r) inside, single rfl⟩
    refine .ite (fun kind => .after fun attributes => .after fun _ => ?_) fun _ => ?_
    · refine items.bind fun items inside => .after fun marker => ?_
      refine (build_blankBefore ..).bind fun style same => .pure fun r => .inr ⟨?_, single rfl⟩
      have read := reads _ r
      rw [← same] at read parted
      exact .list kind read parted inside
    refine .ite (fun kind => .after fun _ => (readTable_other children).bind fun n other => ?_) ?_
    · refine .pure fun r => .inr (lone ?_ other r)
      simp [isLoneBlock, isA, Token.data, kind]
    intro _
    refine .ite (fun kind => ?_) fun _ => .ite (fun kind => ?_) fun _ => .throw _
    · refine .pure fun r => .inr (lone ?_ rfl r)
      simp [isLoneBlock, isA, Token.data, kind]
    · exact .pure fun _ => .inl ⟨kind, rfl⟩

theorem readItems_become (tight first : Bool) : (tokens : List Token) →
    Gives (BecomeItems tokens) (readItems tight first tokens)
  | [] => by
    rw [readItems]
    exact .pure .nil
  | .mk data children :: rest => by
    have blocks := readBlocks_becomes true false children none (by simp)
    have later := readItems_become tight false rest
    have item (task : Option TaskStatus)
        (kind : hasTag data "list_item" = true ∨ hasTag data "task_list_item" = true) :
        Gives (BecomeItems (.mk data children :: rest)) (do
          requireChildren data
          let blocks ← readBlocks true false children
          let items ← readItems tight false rest
          return .listItem blocks task (!tight && !first) :: items) := by
      refine .after fun _ => blocks.bind fun nodes inside => later.bind fun items others => ?_
      exact .pure (.cons kind inside others)
    rw [readItems]
    dsimp only
    refine .ite (fun _ => ?_) fun known => ?_
    · exact (Gives.throw (P := fun _ => False) _).bind fun _ never => never.elim
    · have kind : hasTag data "list_item" = true ∨ hasTag data "task_list_item" = true := by
        simpa [or_comm, imp_iff_or_not] using known
      exact .ite (fun _ => .after fun _ => .after fun task => item task kind) fun _ =>
        .after fun task => item task kind

end

/-- The token before the one at place `k`, with one given before the first. -/
def tokenBefore (before : Option Token) (tokens : List Token) (k : Nat) : Option Token :=
  if 0 < k then tokens[k - 1]? else before

theorem tokenBefore_succ (before : Option Token) (t : Token) (rest : List Token) (k : Nat) :
    tokenBefore before (t :: rest) (k + 1) = tokenBefore (some t) rest k := by
  cases k with
  | zero => rfl
  | succ k => rfl

theorem BecomeBlocks.pieces {inItem : Bool} {before : Option Token} {tokens : List Token}
    {nodes : List Node} (h : BecomeBlocks inItem before tokens nodes) :
    ∃ pieces : List (Option Node), nodes = pieces.reduceOption ∧ pieces.length = tokens.length ∧
      ∀ k t piece, tokens[k]? = some t → pieces[k]? = some piece →
        Becomes inItem (tokenBefore before tokens k) t piece := by
  induction tokens generalizing before nodes with
  | nil =>
    cases h
    exact ⟨[], rfl, rfl, by simp⟩
  | cons t rest ih =>
    obtain _ | ⟨here, later⟩ := h
    rename_i piece nodes
    obtain ⟨pieces, rfl, length, each⟩ := ih later
    refine ⟨piece :: pieces, ?_, by simp [length], fun k t' piece' there there' => ?_⟩
    · cases piece <;> rfl
    · cases k with
      | zero =>
        cases there
        cases there'
        exact here
      | succ k =>
        rw [tokenBefore_succ]
        exact each k t' piece' there there'

/-- What a block notes of a blank line agrees with the token before it. -/
theorem Becomes.blankNote {inItem : Bool} {before : Option Token} {t : Token} {n : Node}
    (h : Becomes inItem before t (some n)) {flag : Bool} (note : n.blankNote? = some flag) :
    flag = true ↔ PartedFrom inItem before := by
  cases h with
  | paragraph => cases note
  | lone kind reads other =>
    rw [other] at note
    cases note
  | quote => cases note
  | list kind reads parted =>
    cases note
    exact parted
  | html kind parted =>
    cases there : t.raw with
    | none =>
      rw [there] at note
      cases note
      exact parted
    | some raw =>
      rw [there] at note
      cases note
      exact parted
  | dedentedHtml kind parted =>
    cases note
    exact parted

theorem partedFrom_tokenBefore {inItem : Bool} {tokens : List Token} {k : Nat} :
    PartedFrom inItem (tokenBefore none tokens k) ↔ 0 < k ∧ ∃ t, tokens[k - 1]? = some t ∧
      (t.isA "blank_line" = true ∨ inItem = false ∧ t.isA "list" = true) := by
  unfold tokenBefore
  split
  · rename_i later
    simp [PartedFrom, later]
  · rename_i first
    simp [first]

/-- **Blank lines are told from the token before.** Each block token becomes one node or none, in
order: blank lines and paragraphs without content become none. A list or raw HTML has a blank line
before it exactly if the token before it is one, or is a list and not in an item. In quotes and
items it is the same all the way down, and raw HTML in an item is moved to the left. -/
theorem readBlocks_pieces {inItem : Bool} {tokens : List Token} {before after : Journal}
    {nodes : List Node} (read : readBlocks inItem false tokens before = .ok nodes after) :
    ∃ pieces : List (Option Node), nodes = pieces.reduceOption ∧ pieces.length = tokens.length ∧
      ∀ k t piece, tokens[k]? = some t → pieces[k]? = some piece →
        Becomes inItem (tokenBefore none tokens k) t piece ∧
        ∀ n flag, piece = some n → n.blankNote? = some flag →
          (flag = true ↔ 0 < k ∧ ∃ t, tokens[k - 1]? = some t ∧
            (t.isA "blank_line" = true ∨ inItem = false ∧ t.isA "list" = true)) := by
  have blocks := readBlocks_becomes inItem false tokens none (by simp) read
  obtain ⟨pieces, whole, length, each⟩ := blocks.pieces
  refine ⟨pieces, whole, length, fun k t piece there there' => ?_⟩
  have becomes := each k t piece there there'
  refine ⟨becomes, ?_⟩
  rintro n flag rfl note
  rw [becomes.blankNote note, partedFrom_tokenBefore]

/-- Raw HTML behind a list has a blank line before it at the top and in a quote, and none in an
item. -/
theorem readBlocks_pieces_nested :
    let tag (name : String) : TokenData := { tag := some (.text name) }
    let html (raw : String) : Token := .mk { tag "block_html" with raw := some raw } []
    let list (children : List Token) : Token := .mk (tag "list") [.mk (tag "list_item") children]
    let inner := list [.mk (tag "block_text") [ofText "a"]]
    let tokens := [.mk (tag "paragraph") [], list [inner, html "  <b>\n   c\n d\n"], html "<i>\n",
      .mk (tag "blank_line") [], .mk (tag "block_quote") [inner, html "<u>\n"]]
    let bullets (children : List Node) : Node := .list ⟨.dash, 1, true, false⟩
      [.listItem children none false]
    let a := bullets [.paragraph [.text "a"]]
    ∃ nodes after, readBlocks false false tokens {} = .ok nodes after ∧
      nodes = [bullets [a, .htmlBlock "<b>\n c\nd\n" false], .htmlBlock "<i>\n" true,
        .blockQuote [a, .htmlBlock "<u>\n" true]] ∧
      ∃ pieces : List (Option Node), nodes = pieces.reduceOption ∧ pieces.length = 5 ∧
        ∀ k t piece, tokens[k]? = some t → pieces[k]? = some piece →
          Becomes false (tokenBefore none tokens k) t piece := by
  intro tag html list inner tokens bullets a
  have run : ∃ after, readBlocks false false tokens {} = .ok
      [bullets [a, .htmlBlock "<b>\n c\nd\n" false], .htmlBlock "<i>\n" true,
        .blockQuote [a, .htmlBlock "<u>\n" true]] after := ⟨_, rfl⟩
  obtain ⟨after, read⟩ := run
  obtain ⟨pieces, whole, length, each⟩ := readBlocks_pieces read
  refine ⟨_, after, read, rfl, pieces, whole, length, fun k t piece there there' => ?_⟩
  exact (each k t piece there there').1

end Token

end MarkdownCanon

import MarkdownCanon.Proofs.Quoting
import MarkdownCanon.Proofs.Separation
import MarkdownCanon.Proofs.VisibleInlines

/-! Blocks that are passed over, and blocks that print nothing to be seen. The two are the same but
for quotes without visible blocks in them, raw HTML of nothing but spaces, and paragraphs of white
space that is not spacing. -/

namespace MarkdownCanon

namespace Node

mutual

/-- Whether a block is a quote in which nothing is printed: blocks that are passed over, and at most
one other, which is such a quote itself. -/
def isHollow : Node → Bool
  | blockQuote children => !children.isEmpty && allHollow children
  | _ => false

def allHollow : List Node → Bool
  | [] => true
  | child :: rest =>
    if child.isBlankBlock then allHollow rest else isHollow child && rest.all isBlankBlock

end

/-- Whether a block prints nothing but spaces and line ends. -/
def isFaint : Node → Bool
  | paragraph content => !anySeen content
  | list _ items => items.isEmpty
  | htmlBlock content _ => content.toList.all fun c => c == ' ' || c == '\n'
  | n => n.isHollow

end Node

namespace Render

variable {settings : RendererSettings} {s t : RenderState}

/-- A step that, where it succeeds, puts more on the page, as `P` tells. -/
def Yields (P : List Char → Prop) (x : Render Unit) : Prop :=
  ∀ ⦃s t⦄, s.Orderly → x s = .ok () t →
    ∃ added, t.writer.out.toList = s.writer.out.toList ++ added ∧ P added

/-- A step that does not leave the page as it is. -/
abbrev Grows (x : Render Unit) : Prop := Yields (· ≠ []) x

namespace Yields

variable {x y : Render Unit}

theorem of_emits (hx : Emits (fun _ _ _ text => Text.Visible text) x) : Yields Text.Visible x := by
  intro s t orderly run
  obtain ⟨text, ⟨out, grown, shown⟩, visible⟩ := hx.wrote orderly run
  exact ⟨out, grown, visible.of_sublist shown.sublist⟩

theorem grows (hx : Yields Text.Visible x) : Grows x := by
  intro s t orderly run
  obtain ⟨added, grown, visible⟩ := hx orderly run
  exact ⟨added, grown, visible.ne_nil⟩

theorem write {text : List Char} (some_ : text ≠ []) : Grows (write text) := by
  intro s t orderly run
  cases run
  obtain ⟨out, grown, shown⟩ := s.writer.write_wrote orderly.writer text
  refine ⟨out, grown, ?_⟩
  rintro rfl
  exact some_ (List.sublist_nil.mp shown.sublist)

/-- More is on the page, whatever follows. -/
theorem before (hx : Grows x) (balanced : Balanced False x) (hy : Balanced False y) :
    Grows (do x; y) := by
  intro s t orderly run
  obtain ⟨_, u, first, later⟩ := bind_eq_ok.mp run
  obtain ⟨added, grown, some_⟩ := hx orderly first
  have ready := (balanced.done orderly.grid first).1.ready orderly.grid
  obtain ⟨rest, whole⟩ := (hy.done ready later).1.out
  exact ⟨added ++ rest, by rw [← whole, grown, List.append_assoc], by simp [some_]⟩

/-- More is on the page, whatever went before. -/
theorem after (hx : Balanced False x) (hy : Grows y) : Grows (do x; y) := by
  intro s t orderly run
  obtain ⟨_, u, first, later⟩ := bind_eq_ok.mp run
  obtain ⟨k, settled⟩ := hx.done orderly.grid first
  obtain ⟨front, begun⟩ := k.out
  obtain ⟨added, grown, some_⟩ := hy (k.orderly settled orderly) later
  exact ⟨front ++ added, by rw [grown, ← begun, List.append_assoc], by simp [some_]⟩

theorem indented (hx : Grows x) (balanced : Balanced False x) {piece : List Char}
    (line : '\n' ∉ piece) : Grows (indented piece x) := by
  intro s t orderly run
  rw [indented_eq balanced orderly.grid] at run
  obtain ⟨u, inside, rfl⟩ := ensuring_modify_eq_ok.mp run
  obtain ⟨added, grown, some_⟩ :=
    hx (by exact ⟨orderly.writer.pushIndent line, orderly.bullets, orderly.grid⟩) inside
  exact ⟨added, grown, some_⟩

end Yields

section Blocks

theorem headingText_shown (level : HeadingLevel) (identifier : Option String) {text : List Char}
    (shown : text = [] ∨ Text.Visible text) :
    Text.Visible (headingText settings level identifier text) := by
  obtain rfl | visible := shown
  · obtain ⟨n, marks⟩ : ∃ n, level.val = n + 1 := ⟨level.val - 1, by have := level.property; omega⟩
    refine ⟨'#', ?_, by decide⟩
    unfold headingText
    cases underline? settings level <;> simp [marks]
  · exact (visible.append_left _).of_sublist (headingText_sublist settings level identifier text)

/-- A heading has a line of text, or its mark alone. -/
theorem heading_yields {level : HeadingLevel} {content : List Node} {identifier : Option String}
    (regular : (Node.heading level content identifier).Regular) :
    Yields Text.Visible (node settings (.heading level content identifier)) := by
  have hc := @inlines_reveals settings content (List.all_eq_true.mp regular.self)
    fun c m => regular.child m
  rw [node]
  refine .of_emits ((Emits.scratch hc _).bind (Q := fun text _ _ _ written =>
    written = headingText settings level identifier (Text.trim Text.isSpace text))
    (fun _ => .write fun _ _ => rfl) ?_)
  rintro _ _ text _ _ _ ⟨rfl, inner, shown, visible⟩ rfl
  apply headingText_shown
  cases printed : Text.trim Text.isSpace text with
  | nil => exact .inl rfl
  | cons c rest =>
    right
    rw [← printed]
    by_cases newline : c = '\n'
    · -- a line end in a heading comes from raw HTML, which has more in it
      have within_ : '\n' ∈ text := by
        apply (Text.trim_sublist Text.isSpace text).subset
        rw [printed, newline]
        exact List.mem_cons_self
      have broken : '\n' ∈ inner := by
        by_contra line
        exact shown.newline_mem line within_
      exact ((visible (.inr ⟨rfl, broken⟩)).of_sublist shown.sublist).trim
    · have first := Text.trim_head? Text.isSpace text (by rw [printed]; rfl)
      refine ⟨c, by simp [printed], ?_, newline⟩
      rintro rfl
      cases first

theorem paragraph_yields {content : List Node} (regular : (Node.paragraph content).Regular)
    (seen : Node.anySeen content = true) :
    Yields Text.Visible (node settings (.paragraph content)) := by
  have hc := @paragraphInlines_reveals settings content (List.all_eq_true.mp regular.self)
    fun c m => regular.child m
  rw [node]
  apply Yields.of_emits
  exact .after .startInlines fun _ => hc.mono fun _ _ _ _ visible => visible (.inl seen)

theorem codeBlock_yields (block : CodeBlock) :
    Yields Text.Visible (node settings (.codeBlock block)) := by
  rw [node]
  apply Yields.of_emits
  refine (Emits.codeBlock settings block).mono ?_
  rintro _ _ _ _ rfl
  rw [codeBlockText_eq]
  have long := fenceLength_ge settings.formatters block
  refine ⟨fenceChar block, ?_, ?_⟩
  · simp
    omega
  · obtain ⟨backtick, -⟩ | tilde := fenceChar_cases block
    · rw [backtick]
      decide
    · rw [tilde]
      decide

theorem list_yields {style : ListStyle} {items : List Node} (some_ : items ≠ [])
    (placed : ∀ c ∈ items, c.isListItem = true) :
    Yields Text.Visible (node settings (.list style items)) := by
  intro s t orderly run
  rw [node, inList, modify_bind] at run
  obtain ⟨v, inside, rfl⟩ := ensuring_modify_eq_ok.mp run
  obtain ⟨item, rest, rfl⟩ := List.exists_cons_of_ne_nil some_
  have own := placed item List.mem_cons_self
  cases item with
  | listItem children task blankBefore =>
    rw [listItems] at inside
    obtain ⟨_, u, first, later⟩ := bind_eq_ok.mp inside
    have bullet : (ListLevel.ofStyle style).bullet = style.marker.bullet := rfl
    obtain ⟨mark, whole, cut, shown, -⟩ := marker_mark bullet
    have begun := listItem_marker (by exact orderly.grid) rfl whole (by rw [← whole, cut]) first
    have ready := ((node_balanced settings (.listItem children task blankBefore)).done
      (by exact orderly.grid) first).1.ready (by exact orderly.grid)
    have ended := ((listItems_balanced settings style false rest).done ready later).1.out
    obtain ⟨out, grown, printed⟩ := s.writer.write_wrote orderly.writer mark
    obtain ⟨more, rest_⟩ := begun.trans ended
    refine ⟨out ++ more, ?_, ?_⟩
    · rw [← List.append_assoc, ← grown]
      exact rest_.symm
    · obtain ⟨c, last⟩ := Option.ne_none_iff_exists'.mp (mt List.getLast?_eq_none_iff.mp shown)
      have solid : Text.isBlank c = false := Text.trimEnd_last Text.isBlank _ (cut ▸ last)
      have visible : Text.Visible mark := by
        refine ⟨c, List.mem_of_getLast? last, ?_, ?_⟩
        · rintro rfl
          cases solid
        · rintro rfl
          cases solid
      exact (visible.of_sublist printed.sublist).append_left more
  | _ => cases own

theorem gridText_shown (grid : Grid) (headerTexts : List (List Char))
    (bodyTexts : List (List (List Char))) :
    Text.Visible (gridText grid headerTexts bodyTexts) := by
  refine ⟨'|', ?_, by decide⟩
  rw [gridText, Grid.headerLine, List.append_assoc]
  apply List.mem_append_left
  cases grid.widths <;> simp [Grid.cellsLine]

theorem table_yields (header : Option Node) (rows : List Node) :
    Yields Text.Visible (node settings (.table header rows)) := by
  intro s t orderly run
  rw [node] at run
  cases checked : checkRows header rows with
  | error e => cases (table_refused _ checked).symm.trans run
  | ok _ =>
    cases active : s.grid.active with
    | true => cases (table_nested _ checked active).symm.trans run
    | false =>
      have measured : Measured False (do
          let headerTexts ← headerRow settings header
          let bodyTexts ← bodyRows settings rows
          return (headerTexts, bodyTexts)) :=
        .bind ((headerRow_measured settings header).mono False.elim) fun _ =>
          .bind ((bodyRows_measured settings rows).mono False.elim) fun _ =>
            .of_balanced (Sure.pure _).balanced
      rw [table_run _ checked active] at run
      obtain ⟨u, body, rfl⟩ := ensuring_modify_eq_ok.mp run
      obtain ⟨⟨headerTexts, bodyTexts⟩, v, texts, written⟩ := bind_eq_ok.mp body
      obtain ⟨_, k, settled⟩ := measured.done rfl texts
      have clean := (k.orderly (by exact settled)
        ⟨orderly.writer, orderly.bullets, .inl rfl⟩).writer
      change writeTable (header.getD .missing) headerTexts bodyTexts v = _ at written
      rw [writeTable_eq, modify_bind] at written
      obtain ⟨journal, lines⟩ := tableLines_run headerTexts bodyTexts
        { v with grid := v.grid.align ((header.getD .missing).children.map alignmentOf) }
      cases lines.symm.trans written
      obtain ⟨front, begun⟩ := k.out
      obtain ⟨out, grown, shown⟩ := v.writer.write_wrote clean (gridText
        (v.grid.align ((header.getD .missing).children.map alignmentOf)) headerTexts bodyTexts)
      refine ⟨front ++ out, ?_, ?_⟩
      · rw [← List.append_assoc]
        exact grown.trans (congrArg (· ++ out) begun.symm)
      · exact ((gridText_shown _ headerTexts bodyTexts).of_sublist shown.sublist).append_right front

/-- The first visible block of a row that goes on stands behind its separator. -/
theorem blocks_grow {tight : Bool} {children : List Node}
    (visible : children.all Node.isBlankBlock = false) :
    Grows (blocks settings tight false children) := by
  induction children with
  | nil => cases visible
  | cons child rest ih =>
    rw [blocks]
    cases blank : child.isBlankBlock with
    | true =>
      rw [List.all_cons, blank, Bool.true_and] at visible
      exact ih visible
    | false =>
      have gap : separator tight child ≠ [] := by
        unfold separator
        split <;> split <;> simp
      have others : Balanced False (do
          node settings child
          blocks settings tight false rest) :=
        ((node_balanced settings child).mono False.elim).bind fun _ =>
          (blocks_balanced settings tight false rest).mono False.elim
      exact (Yields.write gap).before (Sure.write _).balanced others

theorem blockQuote_grows {x : Render Unit} {isEmpty : Bool} (balanced : Balanced False x)
    (hx : isEmpty = false → Grows x) : Grows (blockQuote isEmpty x) := by
  unfold blockQuote
  cases isEmpty with
  | true => exact Yields.write (by decide)
  | false =>
    have body : Grows (indented quoteMarker x) := (hx rfl).indented balanced (by decide)
    intro s t orderly run
    rw [if_neg (by decide), get_bind] at run
    split at run
    · exact Yields.after (Sure.write _).balanced body orderly run
    · exact body orderly run

mutual

/-- A block that is not passed over prints something, if it is not a hollow quote. -/
theorem node_grows : (n : Node) → n.isBlock = true → n.Regular → n.isBlankBlock = false →
    n.isHollow = false → Grows (node settings n)
  | .heading .., _, regular, _, _ => (heading_yields regular).grows
  | .paragraph content, _, regular, visible, _ => by
    have seen : Node.anySeen content = true := by
      by_contra unseen
      have blank := Node.allBlankInline_of_unseen content (List.all_eq_true.mp regular.self)
        (fun c m => regular.child m) (by simpa using unseen)
      rw [Node.isBlankBlock, blank] at visible
      cases visible
    exact (paragraph_yields regular seen).grows
  | .codeBlock block, _, _, _, _ => (codeBlock_yields block).grows
  | .blockQuote children, _, regular, _, solid => by
    have hc := blocks_grow_solid children (List.all_eq_true.mp regular.self)
      fun c m => regular.child m
    rw [node]
    refine blockQuote_grows (allBlocks_balanced children) fun filled => ?_
    refine Yields.after (.checkTexts children) (hc ?_)
    rw [Node.isHollow, filled] at solid
    exact solid
  | .list style items, _, regular, visible, _ => by
    have some_ : items ≠ [] := by
      rintro rfl
      cases visible
    exact (list_yields some_ (List.all_eq_true.mp regular.self)).grows
  | .table header rows, _, _, _, _ => (table_yields header rows).grows
  | .thematicBreak, _, _, _, _ => by
    rw [node]
    exact Yields.write (by decide)
  | .htmlBlock content _, _, _, visible, _ => by
    rw [node]
    apply Yields.write
    intro none_
    obtain ⟨cut, whole, newlines⟩ := Text.trimEnd_eq_append Text.isNewline content.toList
    rw [none_, List.nil_append] at whole
    rw [Node.isBlankBlock, whole, List.all_eq_true.mpr newlines] at visible
    cases visible
  | .textless kind, _, regular, _, _ => absurd rfl (regular.texts kind)

theorem blocks_grow_solid : (children : List Node) → (∀ c ∈ children, c.isBlock = true) →
    (∀ c ∈ children, c.Regular) → Node.allHollow children = false →
    Grows (blocks settings false true children)
  | [], _, _, solid => by
    rw [Node.allHollow] at solid
    cases solid
  | child :: rest, placed, regular, solid => by
    have first : Balanced False (node settings child) :=
      (node_balanced settings child).mono False.elim
    have others : Balanced False (blocks settings false false rest) :=
      (blocks_balanced settings false false rest).mono False.elim
    rw [Node.allHollow] at solid
    rw [blocks]
    cases blank : child.isBlankBlock with
    | true =>
      rw [blank, if_pos rfl] at solid
      exact blocks_grow_solid rest (fun c m => placed c (List.mem_cons_of_mem _ m))
        (fun c m => regular c (List.mem_cons_of_mem _ m)) solid
    | false =>
      rw [blank, if_neg (by decide), Bool.and_eq_false_iff] at solid
      obtain solid | visible := solid
      · exact (node_grows child (placed child List.mem_cons_self)
          (regular child List.mem_cons_self) blank solid).before first others
      · exact Yields.after first (blocks_grow visible)

end

mutual

/-- A hollow quote at the start of a line leaves everything as it is. -/
theorem node_hollow : (n : Node) → n.isHollow = true → ∀ {s t : RenderState}, s.grid.Ready →
    s.writer.atLineStart = true → node settings n s = .ok () t → t = s
  | .blockQuote children, hollow, s, t, ready, start, run => by
    rw [Node.isHollow, Bool.and_eq_true, Bool.not_eq_true'] at hollow
    rw [node_quote hollow.1 start, indented_eq (allBlocks_balanced children) ready] at run
    obtain ⟨u, inside, rfl⟩ := ensuring_modify_eq_ok.mp run
    obtain ⟨_, v, checked, blocks⟩ := bind_eq_ok.mp inside
    obtain rfl := checkTexts_eq_ok checked
    obtain rfl := blocks_hollow children hollow.2 (by exact ready) (by exact start) blocks
    rfl

theorem blocks_hollow : (children : List Node) → Node.allHollow children = true →
    ∀ {s t : RenderState}, s.grid.Ready → s.writer.atLineStart = true →
    blocks settings false true children s = .ok () t → t = s
  | [], _, s, t, _, _, run => by
    rw [blocks] at run
    cases run
    rfl
  | child :: rest, hollow, s, t, ready, start, run => by
    rw [Node.allHollow] at hollow
    rw [blocks] at run
    cases blank : child.isBlankBlock with
    | true =>
      rw [blank, if_pos rfl] at hollow run
      exact blocks_hollow rest hollow ready start run
    | false =>
      rw [blank, if_neg (by decide), Bool.and_eq_true] at hollow
      rw [blank, if_neg (by decide), blocks_blank (List.all_eq_true.mp hollow.2)] at run
      obtain ⟨_, u, first, ended⟩ := bind_eq_ok.mp run
      cases ended
      exact node_hollow child hollow.1 ready start first

end

end Blocks

end Render

/-- Whatever is on a page behind the margin of a quote, its mark is. -/
theorem Writer.Behind.marked {strict : Prop} {w v : Writer}
    (h : Behind strict (Text.quotes 1) w v) (some_ : v.out.toList ≠ []) :
    Text.Visible v.out.toList := by
  obtain ⟨lines, lines', last, -, out, each, -, -⟩ := h.out
  refine ⟨'>', ?_, by decide⟩
  rw [out, Text.page, List.mem_append]
  cases each with
  | nil =>
    right
    have shown : last ≠ [] := by
      rintro rfl
      exact some_ (by simpa [Text.page] using out)
    rw [if_neg shown]
    exact List.mem_append_left _ (by decide)
  | @cons line shown _ _ first _ =>
    left
    have mark : '>' ∈ shown := by
      obtain rfl | ⟨-, m, one, rfl⟩ := first.quoted.1
      · simp only [Function.iterate_one, Text.quoteLine]
        split <;> exact List.mem_cons_self
      · obtain rfl : m = 0 := by omega
        exact List.mem_cons_self
    rw [List.flatMap_cons]
    exact List.mem_append_left _ (List.mem_append_left _ mark)

namespace Render

variable {settings : RendererSettings} {t : RenderState}

theorem Yields.fresh {x : Render Unit} (hx : Yields Text.Visible x) (run : x {} = .ok () t) :
    Text.Visible t.writer.out.toList := by
  obtain ⟨added, grown, visible⟩ := hx RenderState.orderly_empty run
  rw [grown]
  exact visible.append_right _

/-- A quote by itself shows its mark where anything is printed in it. -/
theorem quote_fresh {children : List Node} (regular : (Node.blockQuote children).Regular)
    (solid : (Node.blockQuote children).isHollow = false)
    (run : node settings (.blockQuote children) {} = .ok () t) :
    Text.Visible t.writer.out.toList := by
  cases filled : children.isEmpty with
  | true =>
    rw [node, filled, blockQuote, if_pos rfl] at run
    cases run
    exact ⟨'>', by decide, by decide⟩
  | false =>
    have grow : Grows (allBlocks settings children) := by
      refine Yields.after (.checkTexts children) (blocks_grow_solid children
        (List.all_eq_true.mp regular.self) (fun c m => regular.child m) ?_)
      rw [Node.isHollow, filled] at solid
      exact solid
    rw [node_quote filled rfl, indented_eq (allBlocks_balanced children) (.inr rfl)] at run
    obtain ⟨u, inside, rfl⟩ := ensuring_modify_eq_ok.mp run
    have line : '\n' ∉ quoteMarker := by decide
    have empty := RenderState.orderly_empty
    have orderly : RenderState.Orderly { writer := Writer.pushIndent {} quoteMarker } :=
      ⟨empty.writer.pushIndent line, empty.bullets, empty.grid⟩
    obtain ⟨added, grown, some_⟩ := grow orderly inside
    have both := (allBlocks_lockstep settings (Text.quotes 1) children).run
      empty (.inQuotes _ 1) fun _ => .inr rfl
    obtain ⟨_, _, v, behind, _, right⟩ | ⟨_, _, _, _, right⟩ := both.ends
    · cases right.symm.trans inside
      exact behind.marked (by rw [grown]; simp [some_])
    · cases right.symm.trans inside

theorem paragraph_fresh {content : List Node} (regular : (Node.paragraph content).Regular)
    (unseen : Node.anySeen content = false)
    (run : node settings (.paragraph content) {} = .ok () t) :
    ¬ Text.Visible t.writer.out.toList := by
  rw [node] at run
  obtain ⟨_, u, started, run⟩ := bind_eq_ok.mp run
  cases started
  refine (paragraphInlines_pale (List.all_eq_true.mp regular.self) (fun c m => regular.child m)
    unseen ⟨rfl, rfl, ?_⟩ run).faint
  exact fun visible => visible.ne_nil rfl

theorem htmlBlock_fresh {content : String} {blankBefore : Bool}
    (run : node settings (.htmlBlock content blankBefore) {} = .ok () t) :
    Text.Visible t.writer.out.toList ↔ Text.Visible content.toList := by
  have out : (Writer.write {} (Text.trimEnd Text.isNewline content.toList)).out.toList =
      Text.trimEnd Text.isNewline content.toList := by
    by_cases none_ : Text.trimEnd Text.isNewline content.toList = []
    · rw [none_]
      rfl
    · exact (Writer.write_bare rfl none_).1
  rw [node] at run
  cases run
  rw [← @Text.Visible.trimEnd_iff content.toList]
  exact iff_of_eq (congrArg Text.Visible out)

/-- What a block prints by itself is told from the tree. -/
theorem node_faint {b : Node} (block : b.isBlock = true) (regular : b.Regular)
    (run : node settings b {} = .ok () t) :
    Text.Visible t.writer.out.toList ↔ b.isFaint = false := by
  cases b with
  | heading level content identifier =>
    exact iff_of_true ((heading_yields regular).fresh run) rfl
  | codeBlock code => exact iff_of_true ((codeBlock_yields code).fresh run) rfl
  | table header rows => exact iff_of_true ((table_yields header rows).fresh run) rfl
  | thematicBreak =>
    rw [node] at run
    cases run
    exact iff_of_true ⟨'-', by decide, by decide⟩ rfl
  | paragraph content =>
    cases seen : Node.anySeen content with
    | true =>
      have visible := (paragraph_yields regular seen).fresh run
      exact iff_of_true visible (by simp [Node.isFaint, seen])
    | false =>
      have faint := paragraph_fresh regular seen run
      exact iff_of_false faint (by simp [Node.isFaint, seen])
  | list style items =>
    rw [Node.isFaint, List.isEmpty_eq_false_iff]
    constructor
    · rintro visible rfl
      rw [node, inList, modify_bind, listItems] at run
      cases run
      exact visible.ne_nil rfl
    · intro some_
      exact (list_yields some_ (List.all_eq_true.mp regular.self)).fresh run
  | htmlBlock content blankBefore =>
    rw [htmlBlock_fresh run, ← not_iff_not, Text.Visible.not_iff]
    simp [Node.isFaint, or_iff_not_imp_left]
  | blockQuote children =>
    rw [Node.isFaint]
    · constructor
      · intro visible
        by_contra hollow
        rw [node_hollow _ (by simpa using hollow) (.inr rfl) rfl run] at visible
        exact visible.ne_nil rfl
      · exact fun solid => quote_fresh regular solid run
    all_goals simp
  | textless kind => exact absurd rfl (regular.texts kind)
  | _ => cases block

end Render

namespace Node

/-- Whether a block is passed over though there is something to be seen in it, or is printed though
there is nothing. -/
def isMisjudged : Node → Bool
  | paragraph content => allBlankInline content && anySeen content
  | htmlBlock content _ =>
    !content.toList.all Text.isNewline && content.toList.all fun c => c == ' ' || c == '\n'
  | n => n.isHollow

theorem isMisjudged_iff {b : Node} (block : b.isBlock = true) (regular : b.Regular) :
    (b.isBlankBlock = true ↔ b.isFaint = true) ↔ b.isMisjudged = false := by
  cases b with
  | paragraph content =>
    rw [isBlankBlock, isFaint, isMisjudged]
    cases seen : anySeen content with
    | true => simp
    | false =>
      simp [allBlankInline_of_unseen content (List.all_eq_true.mp regular.self)
        (fun c m => regular.child m) seen]
  | htmlBlock content blankBefore =>
    have weaker : content.toList.all Text.isNewline = true →
        (content.toList.all fun c => c == ' ' || c == '\n') = true := by
      simp only [List.all_eq_true, Text.isNewline]
      intro newlines c m
      rw [newlines c m, Bool.or_true]
    rw [isBlankBlock, isFaint, isMisjudged]
    cases blank : content.toList.all Text.isNewline with
    | true => simp [weaker blank]
    | false => simp
  | list style items => simp [isBlankBlock, isFaint, isMisjudged, isHollow]
  | blockQuote children => simp [isBlankBlock, isFaint, isMisjudged]
  | textless kind => exact absurd rfl (regular.texts kind)
  | heading | codeBlock | table | thematicBreak =>
    simp [isBlankBlock, isFaint, isMisjudged, isHollow]
  | _ => cases block

/-- Whether a block makes no difference to a row of blocks, or to an item, that it stands in. -/
structure Skipped (settings : RendererSettings) (b : Node) : Prop where
  blocks : ∀ tight first before after, Render.blocks settings tight first (before ++ b :: after) =
    Render.blocks settings tight first (before ++ after)
  item : ∀ before after task blankBefore,
    Render.node settings (listItem (before ++ b :: after) task blankBefore) =
      Render.node settings (listItem (before ++ after) task blankBefore)

end Node

open Node in
theorem Render.skipped_iff (settings : RendererSettings) (b : Node) :
    b.isBlankBlock = true ↔ b.Skipped settings := by
  constructor
  · intro blank
    have gone (before after : List Node) : (before ++ b :: after).filter (!·.isBlankBlock) =
        (before ++ after).filter (!·.isBlankBlock) := by simp [blank]
    have row (tight first : Bool) (before after : List Node) :
        blocks settings tight first (before ++ b :: after) =
          blocks settings tight first (before ++ after) := by
      rw [blocks_filter, gone, ← blocks_filter]
    have texts (before after : List Node) :
        checkTexts (before ++ b :: after) = checkTexts (before ++ after) := by
      have held : b.isTextlessHtml = false := by
        cases b with
        | textless => cases blank
        | _ => rfl
      simp [checkTexts, held]
    refine ⟨row, fun before after task blankBefore => ?_⟩
    have opening : (before ++ b :: after).find? (!·.isBlankBlock) =
        (before ++ after).find? (!·.isBlankBlock) := by
      rw [← List.head?_filter, gone, List.head?_filter]
    simp only [node, listItem, texts, opening, row]
  · intro skipped
    by_contra visible
    have alone : blocks settings false false [b] {} = .ok () {} := by
      rw [show [b] = [] ++ b :: [] from rfl, skipped.blocks]
      rfl
    obtain ⟨added, grown, some_⟩ :=
      blocks_grow (by simpa using visible) RenderState.orderly_empty alone
    exact some_ (by simpa using grown)

/-- **Blank blocks are those that print nothing to be seen, but for a few.** The blocks that a row
of blocks or an item passes over are the blank ones. By itself, at the start of a page, a block can
be printed, and comes to nothing but spaces and line ends exactly if it is blank, unless it is a
quote with nothing visible inside, raw HTML with spaces in it and nothing else but line ends, or a
paragraph of white space that is not spacing. Each of these is taken for what it is not. -/
theorem Render.node_blank_iff (settings : RendererSettings) {b : Node} (block : b.isBlock = true)
    (regular : b.Regular) (shaped : b.wellShaped false false = true) :
    (b.isBlankBlock = true ↔ b.Skipped settings) ∧
    ∃ t, node settings b {} = .ok () t ∧
      ((b.isBlankBlock = true ↔ ∀ c ∈ t.writer.out.toList, c = ' ' ∨ c = '\n') ↔
        b.isMisjudged = false) := by
  obtain ⟨t, run⟩ := node_of_wellShaped settings (s := {}) (.inr rfl) shaped regular.held
  refine ⟨skipped_iff settings b, t, run, ?_⟩
  rw [← Text.Visible.not_iff, node_faint block regular run, Bool.not_eq_false]
  exact Node.isMisjudged_iff block regular

/-- A quote with an empty quote in it and, in a list, raw HTML. -/
theorem Render.node_blank_iff_nested :
    let b := Node.blockQuote [.paragraph [.emphasis [.text " "]], .blockQuote [],
      .list { marker := .dash, tight := true }
        [.listItem [.paragraph [.htmlInline "<br>"]] none false]]
    b.isBlock = true ∧ b.Regular ∧ b.wellShaped false false = true ∧ ¬ b.Skipped {} ∧
      ∃ t, node {} b {} = .ok () t ∧ ¬ ∀ c ∈ t.writer.out.toList, c = ' ' ∨ c = '\n' := by
  intro b
  have regular : b.Regular := .of_every (by decide) (by decide) (by decide)
  have visible : b.isBlankBlock ≠ true := by decide
  obtain ⟨skipped, t, run, exact_⟩ := node_blank_iff {} (b := b) rfl regular (by decide)
  exact ⟨rfl, regular, by decide, mt skipped.mpr visible, t, run, mt (exact_.mpr rfl).mpr visible⟩

/-- A quote around an empty paragraph prints nothing, and still has its separator; raw HTML of
spaces, or of nothing in a line, is not passed over either. A paragraph of no-break space is. -/
theorem Render.node_blank_misjudged :
    let quote := Node.blockQuote [.paragraph []]
    let spaces := Node.htmlBlock "  " false
    let raw := Node.paragraph [.htmlInline ""]
    let fixed := Node.paragraph [.text "\u00a0"]
    let prints (b : Node) (text : String) := ∃ t, node {} b {} = .ok () t ∧ t.writer.out = text
    (quote.isBlankBlock = false ∧ prints quote "") ∧
    (spaces.isBlankBlock = false ∧ prints spaces "  ") ∧
    (raw.isBlankBlock = false ∧ prints raw "") ∧
    (fixed.isBlankBlock = true ∧ prints fixed "\u00a0") ∧
    (RendererSettings.render {} (.document [.paragraph [.text "a"], quote,
      .paragraph [.text "b"]])).1 = .ok "a\n\n\n\nb\n" :=
  ⟨⟨rfl, _, rfl, by decide⟩, ⟨by decide, _, rfl, by decide⟩, ⟨rfl, _, rfl, by decide⟩,
    ⟨by decide, _, rfl, by decide⟩, rfl⟩

end MarkdownCanon

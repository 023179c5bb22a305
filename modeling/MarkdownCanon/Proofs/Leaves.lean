import MarkdownCanon.Proofs.Acceptance
import MarkdownCanon.Proofs.Emission

/-! Nothing is lost: all literal content of a tree is in its printed text, in order. -/

namespace MarkdownCanon

namespace Node

mutual

/-- The literal content of a tree, in the order it is read. -/
def leaves : Node → List Char
  | text content | code content | htmlInline content | htmlBlock content _ => content.toList
  | autolink _ label => label.toList
  | link url content title | image url content title =>
    allLeaves content ++ (url.getD "").toList ++ (title.getD "").toList
  | heading _ content identifier => allLeaves content ++ (identifier.getD "").toList
  | codeBlock block => (block.info.getD "").toList ++ block.content.toList
  | table (some header) rows => leaves header ++ allLeaves rows
  | table none rows => allLeaves rows
  | document children | blockQuote children | listItem children _ _ => allLeaves children
  | list _ items => allLeaves items
  | tableRow cells _ => allLeaves cells
  | tableCell content _ | paragraph content => allLeaves content
  | emphasis content | strong content | strikethrough content => allLeaves content
  | thematicBreak | lineBreak _ | textless _ | foreign _ | missing => []

def allLeaves : List Node → List Char
  | [] => []
  | node :: rest => leaves node ++ allLeaves rest

end

mutual

/-- Content that is blank has nothing to lose. -/
theorem ink_of_blankInline :
    (n : Node) → n.isBlankInline = true → Text.ink n.leaves = []
  | text content, h => by
    have blank : Text.trim Text.isBlank (Text.collapse content.toList) = [] := by
      simpa [isBlankInline] using h
    rw [leaves, ← Text.ink_collapse, ← Text.ink_trim (fun _ => id), blank, Text.ink_nil]
  | code content, h => by
    have empty : content = "" := by simpa [isBlankInline] using h
    simp [leaves, empty]
  | lineBreak _, _ | textless _, _ => by simp [leaves]
  | emphasis content, h | strong content, h | strikethrough content, h => by
    rw [leaves]
    exact ink_of_blankInlines content (by simpa [isBlankInline] using h)

theorem ink_of_blankInlines :
    (content : List Node) → allBlankInline content = true → Text.ink (allLeaves content) = []
  | [], _ => by simp [allLeaves]
  | n :: rest, h => by
    rw [allBlankInline, Bool.and_eq_true] at h
    rw [allLeaves, Text.ink_append, ink_of_blankInline n h.1, ink_of_blankInlines rest h.2]
    rfl

end

theorem ink_of_blankBlock {n : Node} (h : n.isBlankBlock = true) : Text.ink n.leaves = [] := by
  cases n with
  | paragraph content => rw [leaves, ink_of_blankInlines content h]
  | list style items =>
    have : items = [] := by simpa [isBlankBlock] using h
    simp [this, leaves, allLeaves]
  | htmlBlock content blankBefore =>
    rw [leaves]
    refine Text.ink_eq_nil fun c m => Text.isBlank_of_isNewline ?_
    exact List.all_eq_true.mp h c m
  | _ => simp [isBlankBlock] at h

theorem ink_of_blankBlocks {children : List Node} (h : ∀ c ∈ children, c.isBlankBlock = true) :
    Text.ink (allLeaves children) = [] := by
  induction children with
  | nil => simp [allLeaves]
  | cons c rest ih =>
    rw [allLeaves, Text.ink_append, ink_of_blankBlock (h c List.mem_cons_self),
      ih fun c m => h c (List.mem_cons_of_mem _ m)]
    rfl

theorem allLeaves_of_breaks {content : List Node} (h : content.all isLineBreak = true) :
    allLeaves content = [] := by
  induction content with
  | nil => rw [allLeaves]
  | cons n rest ih =>
    rw [List.all_cons, Bool.and_eq_true] at h
    cases n with
    | lineBreak => rw [allLeaves, leaves, ih h.2]; rfl
    | _ => simp [isLineBreak] at h

end Node

namespace Render

/-- A step whose text holds the visible characters of `leaves`, in order. -/
abbrev Shows (leaves : List Char) (x : Render α) : Prop :=
  Emits (fun _ _ _ text => (Text.ink leaves).Sublist text) x

namespace Shows

variable {a b : List Char}

theorem append {x : Render Unit} {f : Unit → Render Unit} (hx : Shows a x)
    (hf : ∀ u, Shows b (f u)) : Shows (a ++ b) (x >>= f) :=
  hx.bind hf fun _ _ _ _ _ _ front rest => by
    rw [Text.ink_append]
    exact front.append rest

theorem nothing {x : Render α} {P : Bool → Bool → α → List Char → Prop} (hx : Emits P x) :
    Shows [] x :=
  hx.mono fun _ _ _ _ _ => List.nil_sublist _

theorem write {text : List Char} (h : (Text.ink a).Sublist text) : Shows a (write text) :=
  Emits.write fun _ _ => h

theorem text (content : String) : Shows content.toList (text content) := by
  refine (Emits.text content).mono ?_
  rintro _ _ _ _ ⟨w, place, tail, next, rfl⟩
  rw [← spacedText_ink content w]
  exact ((Text.ink_sublist _).trans (Markup.escape_sublist place tail _)).trans
    (guardBang_sublist _ next)

theorem code (content : String) : Shows content.toList (code content) := by
  refine (Emits.code content).mono ?_
  rintro _ cell _ _ (⟨empty, rfl⟩ | ⟨_, inner, rfl, guarded⟩)
  · have : content = "" := by simpa using empty
    simp [this]
  · refine List.Sublist.trans ?_ (Markup.codeSpan_text_sublist _)
    refine (Markup.codeSpan_ink ['\x60'] content.toList).trans ?_
    rw [guarded]
    split
    · exact Markup.guardPipes_sublist _ _
    · exact List.Sublist.refl _

theorem span {x : Render Unit} (hx : Shows a x) {token : List Char} (line : '\n' ∉ token)
    (blank : Bool) : Shows a (span token blank x) := by
  refine (Emits.span hx line blank).mono ?_
  rintro _ _ _ _ ⟨inner, close, rfl, _, held⟩
  exact held.trans (List.sublist_append_left _ _)

theorem reference {x : Render Unit} (hx : Shows a x) {opening : List Char} (line : '\n' ∉ opening)
    (url title : Option String) :
    Shows (a ++ (url.getD "").toList ++ (title.getD "").toList)
      (reference opening url title x) := by
  refine (Emits.reference hx line url title).mono ?_
  rintro _ _ _ _ ⟨inner, held, rfl⟩
  rw [List.append_assoc, Text.ink_append]
  exact held.append ((Text.ink_sublist _).trans (Markup.linkTail_sublist _ _))

/-- A heading holds its content and its identifier. -/
theorem heading {x : Render Unit} (hx : Shows a x) (flags : ScratchFlags)
    (settings : RendererSettings) (level : HeadingLevel) (identifier : Option String) :
    Shows (a ++ (identifier.getD "").toList) (do
      let text ← scratch flags x
      Render.write (headingText settings level identifier (Text.trim Text.isSpace text))) := by
  refine (Emits.scratch hx flags).bind (Q := fun text _ _ _ written =>
    written = headingText settings level identifier (Text.trim Text.isSpace text))
    (fun _ => .write fun _ _ => rfl) ?_
  rintro _ _ text _ _ _ ⟨rfl, inner, shown, held⟩ rfl
  have visible := Text.ink_sublist_of_eq (held.trans shown.sublist)
    (Text.ink_trim (fun _ => Text.isBlank_of_isSpace) text).symm
  rw [List.nil_append, Text.ink_append]
  exact (visible.append (Text.ink_sublist _)).trans
    (headingText_sublist settings level identifier _)

theorem cell {x : Render Unit} (hx : Shows a x) {rest : Render (List (List Char))}
    (hr : Emits (fun _ _ texts written => written = [] ∧ (Text.ink b).Sublist texts.flatten) rest) :
    Emits (fun _ _ texts written => written = [] ∧ (Text.ink (a ++ b)).Sublist texts.flatten) (do
      let text ← scratch { inTableCell := some true } x
      return text :: (← rest)) := by
  refine (Emits.cell hx hr).mono ?_
  rintro _ _ _ _ ⟨rfl, text, more, inner, rfl, shown, held, held'⟩
  refine ⟨rfl, ?_⟩
  rw [Text.ink_append, List.flatten_cons]
  exact (held.trans shown.sublist).append held'

theorem gridText {headerTexts : List (List Char)} {bodyTexts : List (List (List Char))}
    {grid : Grid} (room : headerTexts.length ≤ grid.widths.length)
    (rooms : ∀ row ∈ bodyTexts, row.length ≤ grid.widths.length) :
    (headerTexts.flatten ++ bodyTexts.flatten.flatten).Sublist
      (gridText grid headerTexts bodyTexts) := by
  have first := (Grid.cellsLine_sublist _ [] headerTexts room).trans
    (List.sublist_append_left _ ('\n' :: grid.delimiterLine))
  refine first.append ?_
  clear first room
  induction bodyTexts with
  | nil => exact List.nil_sublist _
  | cons row rows ih =>
    have line := Grid.cellsLine_sublist grid.widths grid.alignments row
      (rooms row List.mem_cons_self)
    rw [List.flatten_cons, List.flatten_append, List.flatMap_cons]
    exact (line.cons '\n').append (ih fun row m => rooms row (List.mem_cons_of_mem _ m))

end Shows

section Walk

variable {settings : RendererSettings}

mutual

theorem node_shows (plain : settings.formatters = []) :
    (n : Node) → Shows n.leaves (node settings n)
  | .document children => by
    have hc := blocks_shows plain false true children
    rw [node, Node.leaves]
    refine .after (.checkTexts children) fun _ => ?_
    simpa using hc.append fun _ => Shows.write (a := []) (List.nil_sublist ['\n'])
  | .heading level content identifier => by
    have hc := inlines_shows plain content
    rw [node, Node.leaves]
    exact hc.heading _ settings level identifier
  | .paragraph content => by
    have hc := paragraphInlines_shows plain content
    rw [node, Node.leaves]
    exact .after .startInlines fun _ => hc
  | .codeBlock block => by
    rw [node, Node.leaves]
    refine (Emits.codeBlock settings block).mono ?_
    rintro _ _ _ _ rfl
    rw [plain, Text.ink_append]
    have code := List.Sublist.append_left (Text.ink_sublist block.content.toList)
      (Text.ink (block.info.getD "").toList)
    exact code.trans (codeBlockText_ink block)
  | .blockQuote children => by
    have hc := blocks_shows plain false true children
    have body := Emits.after (.checkTexts children) fun _ => hc
    rw [node, Node.leaves]
    refine (Emits.blockQuote body children.isEmpty).mono ?_
    rintro _ _ _ _ (⟨empty, rfl⟩ | ⟨_, front, inner, _, rfl, held⟩)
    · simp [List.isEmpty_iff.mp empty, Node.allLeaves]
    · exact held.trans (List.sublist_append_right _ _)
  | .list style items => by
    have hi := listItems_shows plain style true items
    rw [node, Node.leaves]
    exact Emits.inList hi style
  | .listItem children task blankBefore => by
    have hb (tight : Bool) := blocks_shows plain tight true children
    rw [node, Node.leaves]
    refine (Emits.listItem hb settings children task).mono ?_
    rintro _ _ _ _ ⟨mark, _, _, ⟨blank, rfl⟩ | ⟨_, gap, inner, _, rfl, held⟩⟩
    · simp [Node.ink_of_blankBlocks blank]
    · exact held.trans (List.sublist_append_right _ _)
  | .table header rows => by
    have hh := headerRow_shows plain header
    have hr := bodyRows_shows plain rows
    rw [node]
    refine (Emits.table (T := fun _ first rest =>
      (∀ row ∈ header, (Text.ink row.leaves).Sublist first.flatten) ∧
        (Text.ink (Node.allLeaves rows)).Sublist rest.flatten.flatten)
      (hh.pair hr) header rows).mono ?_
    rintro _ _ _ _ ⟨grid, headerTexts, bodyTexts, ⟨first, rest⟩, room, rooms, rfl⟩
    refine List.Sublist.trans ?_ (Shows.gridText room rooms)
    cases header with
    | none =>
      rw [Node.leaves]
      exact rest.trans (List.sublist_append_right _ _)
    | some row =>
      rw [Node.leaves, Text.ink_append]
      exact (first row rfl).append rest
  | .tableRow .. => by
    rw [node]
    exact .fail _
  | .tableCell .. => by
    rw [node]
    exact .fail _
  | .thematicBreak => by
    rw [node, Node.leaves]
    exact Shows.write (List.nil_sublist _)
  | .htmlBlock content _ => by
    rw [node, Node.leaves]
    refine Shows.write ?_
    rw [← Text.ink_trimEnd fun _ => Text.isBlank_of_isNewline]
    exact Text.ink_sublist _
  | .text content => by
    rw [node, Node.leaves]
    exact .text content
  | .emphasis content => by
    have hc := inlines_shows plain content
    rw [node, Node.leaves]
    exact hc.span (tokens_line settings).1 _
  | .strong content => by
    have hc := inlines_shows plain content
    rw [node, Node.leaves]
    exact hc.span (tokens_line settings).2 _
  | .strikethrough content => by
    have hc := inlines_shows plain content
    rw [node, Node.leaves]
    exact hc.span (by decide) _
  | .code content => by
    rw [node, Node.leaves]
    exact .code content
  | .link url content title => by
    have hc := inlines_shows plain content
    rw [node, Node.leaves]
    exact hc.reference (by decide) url title
  | .image url content title => by
    have hc := inlines_shows plain content
    rw [node, Node.leaves]
    exact hc.reference (by decide) url title
  | .autolink _ label => by
    rw [node, Node.leaves]
    refine Emits.verbatim fun _ _ => ?_
    exact ((Text.ink_sublist _).trans (List.sublist_append_left _ _)).cons '<'
  | .htmlInline content => by
    rw [node, Node.leaves]
    exact Emits.verbatim fun _ _ => Text.ink_sublist _
  | .lineBreak soft => by
    rw [node, Node.leaves]
    exact .nothing (.lineBreak settings soft)
  | .textless kind => by
    rw [node, Node.leaves]
    exact .nothing (.textless settings kind)
  | .foreign kind => by
    rw [node]
    exact .fail _
  | .missing => by
    rw [node]
    exact .fail _

theorem inlines_shows (plain : settings.formatters = []) : (content : List Node) →
    Shows (Node.allLeaves content) (inlines settings content)
  | [] => by
    rw [inlines, Node.allLeaves]
    exact .pure fun _ _ => List.nil_sublist _
  | child :: rest => by
    have both := (node_shows plain child).append fun _ => inlines_shows plain rest
    rw [inlines, Node.allLeaves]
    exact .after (.nextInline _) fun _ => both

theorem paragraphInlines_shows (plain : settings.formatters = []) : (content : List Node) →
    Shows (Node.allLeaves content) (paragraphInlines settings content)
  | [] => by
    rw [paragraphInlines, Node.allLeaves]
    exact .pure fun _ _ => List.nil_sublist _
  | child :: rest => by
    have both := (node_shows plain child).append fun _ => paragraphInlines_shows plain rest
    rw [paragraphInlines]
    split
    · rename_i breaks
      have all : (child :: rest).all Node.isLineBreak = true := by simpa using breaks
      rw [Node.allLeaves_of_breaks all]
      exact .pure fun _ _ => List.nil_sublist _
    · rw [Node.allLeaves]
      exact .after (.nextInline _) fun _ => both

theorem blocks_shows (plain : settings.formatters = []) (tight first : Bool) :
    (children : List Node) →
    Shows (Node.allLeaves children) (blocks settings tight first children)
  | [] => by
    rw [blocks, Node.allLeaves]
    exact .pure fun _ _ => List.nil_sublist _
  | child :: rest => by
    have hr := blocks_shows plain tight first rest
    have both := (node_shows plain child).append fun _ => blocks_shows plain tight false rest
    rw [blocks, Node.allLeaves]
    split
    · rename_i blank
      refine hr.mono fun _ _ _ _ held => ?_
      rwa [Text.ink_append, Node.ink_of_blankBlock blank, List.nil_append]
    · dsimp only
      have separated := (Shows.write (a := []) (List.nil_sublist (separator tight child))).append
        fun _ => both
      exact .ite (fun _ => separated) fun _ => both

theorem listItems_shows (plain : settings.formatters = []) (style : ListStyle) (first : Bool) :
    (items : List Node) →
    Shows (Node.allLeaves items) (listItems settings style first items)
  | [] => by
    rw [listItems, Node.allLeaves]
    exact .pure fun _ _ => List.nil_sublist _
  | item :: rest => by
    have both := (node_shows plain item).append fun _ => listItems_shows plain style false rest
    cases item with
    | listItem children task blankBefore =>
      rw [listItems, Node.allLeaves]
      dsimp only
      refine .ite (fun _ => ?_) fun _ => both
      exact (Shows.write (a := []) (List.nil_sublist _)).append fun _ => both
    | _ =>
      simp only [listItems]
      exact .fail _

theorem headerRow_shows (plain : settings.formatters = []) : (header : Option Node) →
    Fills (fun _ columns texts =>
      (∀ row ∈ header, (Text.ink row.leaves).Sublist texts.flatten) ∧ texts.length ≤ columns)
      (headerRow settings header)
  | none => by
    rw [headerRow]
    exact .fail _
  | some row => by
    cases row with
    | tableRow cells isHeader =>
      have hc := cellTexts_shows plain cells
      rw [headerRow]
      refine (Fills.row hc).mono fun _ _ _ held => ⟨?_, held.2⟩
      rintro _ ⟨⟩
      rw [Node.leaves]
      exact held.1
    | _ =>
      simp only [headerRow]
      exact .fail _

theorem bodyRows_shows (plain : settings.formatters = []) : (rows : List Node) →
    Fills (fun _ columns texts => (Text.ink (Node.allLeaves rows)).Sublist texts.flatten.flatten ∧
      ∀ row ∈ texts, row.length ≤ columns) (bodyRows settings rows)
  | [] => by
    rw [bodyRows, Node.allLeaves]
    exact .pure fun _ _ => ⟨List.nil_sublist _, by simp⟩
  | row :: rest => by
    have hr := bodyRows_shows plain rest
    cases row with
    | tableRow cells isHeader =>
      have hc := cellTexts_shows plain cells
      rw [bodyRows]
      refine (Fills.cons hc hr).mono ?_
      rintro _ columns _ ⟨⟨first, others, rfl, held, held'⟩, rooms⟩
      refine ⟨?_, rooms⟩
      rw [Node.allLeaves, Node.leaves, Text.ink_append, List.flatten_cons, List.flatten_append]
      exact held.append held'
    | _ =>
      simp only [bodyRows]
      exact .fail _

theorem cellTexts_shows (plain : settings.formatters = []) : (cells : List Node) →
    Emits (fun _ _ texts written => written = [] ∧
      (Text.ink (Node.allLeaves cells)).Sublist texts.flatten) (cellTexts settings cells)
  | [] => by
    rw [cellTexts, Node.allLeaves]
    exact .pure fun _ _ => ⟨rfl, List.nil_sublist _⟩
  | cell :: rest => by
    have hr := cellTexts_shows plain rest
    cases cell with
    | tableCell content alignment =>
      have hc := inlines_shows plain content
      rw [cellTexts, Node.allLeaves, Node.leaves]
      exact hc.cell hr
    | _ =>
      simp only [cellTexts]
      exact .fail _

end

end Walk

end Render

/-- **Nothing is lost.** Whatever the tree, where it prints at all its visible literal characters
are in the output, in document order. -/
theorem RendererSettings.render_keeps_leaves {settings : RendererSettings}
    (plain : settings.formatters = []) {root : Node} {out : String}
    (h : (settings.render root).1 = .ok out) : (Text.ink root.leaves).Sublist out.toList := by
  obtain ⟨children, s', rfl, run, rfl⟩ := render_eq_ok h
  obtain ⟨text, ⟨printed, grown, shown⟩, held⟩ :=
    (Render.node_shows plain (.document children)).wrote RenderState.orderly_empty run
  have all := held.trans shown.sublist
  have start : ({} : RenderState).writer.out.toList = [] := rfl
  rw [start, List.nil_append] at grown
  rw [← grown] at all
  split
  · rename_i newlines
    -- Ink within an output of line ends only is no ink.
    have none_ : Text.ink s'.writer.out.toList = [] :=
      Text.ink_eq_nil fun c m => Text.isBlank_of_isNewline (List.all_eq_true.mp newlines c m)
    exact Text.ink_sublist_of_eq all (none_.trans (by decide))
  · exact all

theorem RendererSettings.render_keeps_leaves_nested :
    let link := Node.link "u v" [.strong [.text "*x*"], .lineBreak false] (some "t")
    let row := Node.tableRow [.tableCell [.code "a|b", .emphasis [.text " "]] none] true
    let root := Node.document [.list { marker := .dash }
      [.listItem [.blockQuote [.paragraph [link]], .table row [row]] none false]]
    ∃ out, (({} : RendererSettings).render root).1 = .ok out ∧
      (Text.ink root.leaves).Sublist out.toList := by
  intro link row root
  have held : root.HoldsTexts := .of_every (by decide)
  obtain ⟨out, run⟩ := render_of_printable {} held (by decide)
  exact ⟨out, run, render_keeps_leaves rfl run⟩

end MarkdownCanon

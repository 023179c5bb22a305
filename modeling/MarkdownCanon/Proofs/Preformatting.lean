import MarkdownCanon.Proofs.Acceptance
import MarkdownCanon.Proofs.FormattedTrees
import MarkdownCanon.Proofs.Ink

/-! Code formatters and printing. To print with formatters is to print without any the tree that is
left once they have been applied to its code blocks, so that what a formatter does, or fails to do,
stays inside its block. -/

namespace MarkdownCanon

/-- The state of printing the formatted tree without formatters, with a journal of its own. -/
def RenderState.formatted (s : RenderState) (formatters : FormatterMap) (journal : Journal) :
    RenderState :=
  { s with nextInline := s.nextInline.map (Node.formatted formatters), journal }

namespace Render

variable {α β : Type} {formatters : FormatterMap}

/-- A step on the formatted tree that ends as one on the tree itself does, with the same value or
the same failure, and in the same state but for the journal. -/
structure Mirrors (formatters : FormatterMap) (x y : Render α) : Prop where
  done : ∀ ⦃s a t⦄, x s = .ok a t → ∀ journal,
    ∃ journal', y (s.formatted formatters journal) = .ok a (t.formatted formatters journal')
  failed : ∀ ⦃s e t⦄, x s = .error e t → ∀ journal,
    ∃ journal', y (s.formatted formatters journal) = .error e (t.formatted formatters journal')

namespace Mirrors

theorem pure (a : α) : Mirrors formatters (pure a) (pure a) where
  done s b t h journal := by
    cases h
    exact ⟨journal, rfl⟩
  failed s e t h := by cases h

theorem throw (e : RenderFailure) : Mirrors formatters (throw e : Render α) (throw e) where
  done s a t h := by cases h
  failed s e' t h journal := by
    cases h
    exact ⟨journal, rfl⟩

theorem fail (e : ShapeError) : Mirrors formatters (fail e : Render α) (fail e) :=
  throw (.shape e)

theorem lack (asked : Absence) : Mirrors formatters (lack asked : Render α) (lack asked) :=
  throw (.absent asked)

theorem bind {x x' : Render α} {f f' : α → Render β} (hx : Mirrors formatters x x')
    (hf : ∀ a, Mirrors formatters (f a) (f' a)) : Mirrors formatters (x >>= f) (x' >>= f') where
  done s b t h journal := by
    obtain ⟨a, u, first, later⟩ := bind_eq_ok.mp h
    obtain ⟨journal₁, run₁⟩ := hx.done first journal
    obtain ⟨journal₂, run₂⟩ := (hf a).done later journal₁
    exact ⟨journal₂, bind_eq_ok.mpr ⟨a, _, run₁, run₂⟩⟩
  failed s e t h journal := by
    obtain first | ⟨a, u, first, later⟩ := bind_eq_error.mp h
    · obtain ⟨journal₁, run₁⟩ := hx.failed first journal
      exact ⟨journal₁, bind_eq_error.mpr (.inl run₁)⟩
    · obtain ⟨journal₁, run₁⟩ := hx.done first journal
      obtain ⟨journal₂, run₂⟩ := (hf a).failed later journal₁
      exact ⟨journal₂, bind_eq_error.mpr (.inr ⟨a, _, run₁, run₂⟩)⟩

theorem ite {c : Prop} [Decidable c] {x x' y y' : Render α} (hx : Mirrors formatters x x')
    (hy : Mirrors formatters y y') :
    Mirrors formatters (if c then x else y) (if c then x' else y') := by
  split
  · exact hx
  · exact hy

/-- A step that goes on from the state as it is on each side. -/
theorem get_bind {f f' : RenderState → Render α}
    (hf : ∀ s journal, Mirrors formatters (f s) (f' (s.formatted formatters journal))) :
    Mirrors formatters (get >>= f) (get >>= f') where
  done s _ _ h journal := (hf s journal).done h journal
  failed s _ _ h journal := (hf s journal).failed h journal

theorem adjust {f f' : RenderState → RenderState}
    (same : ∀ s journal, ∃ journal',
      f' (s.formatted formatters journal) = (f s).formatted formatters journal') :
    Mirrors formatters (modify f : Render Unit) (modify f') where
  done s a t h journal := by
    cases h
    obtain ⟨journal', run⟩ := same s journal
    exact ⟨journal', by rw [modify_run, run]⟩
  failed s e t h := by cases h

theorem ensuring {x x' : Render α} {cleanup cleanup' : Render Unit} (hx : Mirrors formatters x x')
    (hc : Mirrors formatters cleanup cleanup') :
    Mirrors formatters (x.ensuring cleanup) (x'.ensuring cleanup') where
  done s a t h journal := by
    obtain ⟨u, first, last⟩ := ensuring_eq_ok.mp h
    obtain ⟨journal₁, run₁⟩ := hx.done first journal
    obtain ⟨journal₂, run₂⟩ := hc.done last journal₁
    exact ⟨journal₂, ensuring_eq_ok.mpr ⟨_, run₁, run₂⟩⟩
  failed s e t h journal := by
    obtain ⟨u, ⟨a, first⟩ | ⟨e', first⟩, last⟩ | ⟨u, first, last⟩ := ensuring_eq_error.mp h
    · obtain ⟨journal₁, run₁⟩ := hx.done first journal
      obtain ⟨journal₂, run₂⟩ := hc.failed last journal₁
      exact ⟨journal₂, ensuring_eq_error.mpr (.inl ⟨_, .inl ⟨a, run₁⟩, run₂⟩)⟩
    · obtain ⟨journal₁, run₁⟩ := hx.failed first journal
      obtain ⟨journal₂, run₂⟩ := hc.failed last journal₁
      exact ⟨journal₂, ensuring_eq_error.mpr (.inl ⟨_, .inr ⟨e', run₁⟩, run₂⟩)⟩
    · obtain ⟨journal₁, run₁⟩ := hx.failed first journal
      obtain ⟨journal₂, run₂⟩ := hc.done last journal₁
      exact ⟨journal₂, ensuring_eq_error.mpr (.inr ⟨_, run₁, run₂⟩)⟩

theorem write (text : List Char) : Mirrors formatters (write text) (write text) :=
  adjust fun _ journal => ⟨journal, rfl⟩

/-- What goes to the journal is of no account. -/
theorem record (entry entry' : Journal) :
    Mirrors formatters (record entry) (record entry') :=
  adjust fun _ journal => ⟨journal ++ entry', rfl⟩

theorem leaveLineStart : Mirrors formatters leaveLineStart leaveLineStart :=
  adjust fun _ journal => ⟨journal, rfl⟩

theorem startInlines : Mirrors formatters startInlines startInlines :=
  adjust fun _ journal => ⟨journal, rfl⟩

theorem stage (text : List Char) : Mirrors formatters (stage text) (stage text) :=
  adjust fun _ journal => ⟨journal, rfl⟩

theorem nextInline (next : Option Node) :
    Mirrors formatters (modify fun s => { s with nextInline := next } : Render Unit)
      (modify fun s => { s with nextInline := next.map (Node.formatted formatters) }) :=
  adjust fun _ journal => ⟨journal, rfl⟩

theorem measureRow (texts : List (List Char)) :
    Mirrors formatters (measureRow texts) (measureRow texts) :=
  adjust fun _ journal => ⟨journal, rfl⟩

theorem forM {f : α → Render Unit} (hf : ∀ a, Mirrors formatters (f a) (f a)) (as : List α) :
    Mirrors formatters (as.forM f) (as.forM f) := by
  induction as with
  | nil => exact pure ()
  | cons a as ih => exact (hf a).bind fun _ => ih

theorem indented {x x' : Render Unit} (hx : Mirrors formatters x x') (piece : List Char) :
    Mirrors formatters (indented piece x) (indented piece x') := by
  refine (adjust fun _ journal => ⟨journal, rfl⟩).bind fun _ => hx.ensuring ?_
  refine get_bind fun s journal => ?_
  have same : (s.formatted formatters journal).writer = s.writer := rfl
  rw [same]
  split
  · exact adjust fun _ journal => ⟨journal, rfl⟩
  · exact throw _

theorem scratch {x x' : Render Unit} (hx : Mirrors formatters x x') (flags : ScratchFlags) :
    Mirrors formatters (scratch flags x) (scratch flags x') := by
  refine get_bind fun before journal => ?_
  have enter : Mirrors formatters (modify fun _ => before.enter flags : Render Unit)
      (modify fun _ => (before.formatted formatters journal).enter flags) :=
    adjust fun _ _ => ⟨journal, rfl⟩
  refine enter.bind fun _ => ensuring (hx.bind fun _ => get_bind fun s journal => pure _) ?_
  exact adjust fun _ journal => ⟨journal, rfl⟩

theorem closeSpan (token : List Char) :
    Mirrors formatters (closeSpan token) (closeSpan token) := by
  refine get_bind fun s journal => ?_
  have same : (s.formatted formatters journal).writer = s.writer := rfl
  rw [same]
  refine ite (write token) (get_bind fun s journal => ?_)
  have same : (s.formatted formatters journal).writer = s.writer := rfl
  rw [same]
  split
  · exact adjust fun _ journal => ⟨journal, rfl⟩
  · exact throw _

theorem span {x x' : Render Unit} (hx : Mirrors formatters x x') (token : List Char)
    (blank : Bool) : Mirrors formatters (span token blank x) (span token blank x') := by
  refine ite hx (get_bind fun s journal => ?_)
  have same : delimiterFor token (s.formatted formatters journal).writer.last
      (s.formatted formatters journal).nextInline =
      delimiterFor token s.writer.last s.nextInline := by
    cases next : s.nextInline with
    | none => simp [RenderState.formatted, next]
    | some n =>
      simp [RenderState.formatted, next, delimiterFor,
        (Node.formatted_looksLike formatters n).startsAlphanumeric]
  rw [same]
  exact leaveLineStart.bind fun _ => (stage _).bind fun _ => hx.bind fun _ => closeSpan _

theorem reference {x x' : Render Unit} (hx : Mirrors formatters x x') (opening : List Char)
    (url title : Option String) :
    Mirrors formatters (reference opening url title x) (reference opening url title x') :=
  leaveLineStart.bind fun _ => (stage _).bind fun _ => hx.bind fun _ => write _

theorem text (content : String) : Mirrors formatters (text content) (text content) := by
  refine get_bind fun s journal => ?_
  have same (escaped : List Char) : guardBang escaped (s.formatted formatters journal).nextInline =
      guardBang escaped s.nextInline := by
    cases next : s.nextInline with
    | none => simp [RenderState.formatted, next]
    | some n =>
      simp [RenderState.formatted, next, guardBang, (Node.formatted_looksLike formatters n).isLink]
  simp only [same]
  refine ite (pure ()) ?_
  exact (adjust fun _ journal => ⟨journal, rfl⟩).bind fun _ => write _

theorem code (content : String) : Mirrors formatters (code content) (code content) :=
  ite (pure ()) (leaveLineStart.bind fun _ => get_bind fun _ _ => write _)

theorem verbatim (content : List Char) :
    Mirrors formatters (verbatim content) (verbatim content) :=
  leaveLineStart.bind fun _ => write content

theorem lineBreak (settings : RendererSettings) (soft : Bool) :
    Mirrors formatters (lineBreak settings soft) (lineBreak settings soft) := by
  have mark {f : RenderState → RenderState} (same : ∀ s journal,
      f (s.formatted formatters journal) = (f s).formatted formatters journal) :
      Mirrors formatters (modify f : Render Unit) (modify f) :=
    adjust fun s journal => ⟨journal, same s journal⟩
  refine get_bind fun s journal => ite ?_ (ite ?_ ?_)
  · exact (write _).bind fun _ => mark fun _ _ => rfl
  · have same : (s.formatted formatters journal).writer = s.writer := rfl
    dsimp only
    rw [same]
    exact ite ((write _).bind fun _ => mark fun _ _ => rfl) (mark fun _ _ => rfl)
  · exact (write _).bind fun _ => mark fun _ _ => rfl

theorem checkTexts (children : List Node) :
    Mirrors formatters (checkTexts children)
      (checkTexts (Node.allFormatted formatters children)) := by
  have same : (Node.allFormatted formatters children).any Node.isTextlessHtml =
      children.any Node.isTextlessHtml := by
    rw [Node.allFormatted_eq_map, List.any_map]
    congr 1
    exact funext fun n => (Node.formatted_looksLike formatters n).isTextlessHtml
  rw [Render.checkTexts, Render.checkTexts, same]
  exact ite (lack _) (pure ())

theorem blockQuote {x x' : Render Unit} (hx : Mirrors formatters x x') (isEmpty : Bool) :
    Mirrors formatters (blockQuote isEmpty x) (blockQuote isEmpty x') := by
  refine ite (write _) (get_bind fun s journal => ?_)
  have same : (s.formatted formatters journal).writer = s.writer := rfl
  dsimp only
  rw [same]
  exact ite ((write _).bind fun _ => hx.indented _) (hx.indented _)

theorem inList {x x' : Render Unit} (hx : Mirrors formatters x x') (style : ListStyle) :
    Mirrors formatters (inList style x) (inList style x') :=
  (adjust fun _ journal => ⟨journal, rfl⟩).bind fun _ =>
    hx.ensuring (adjust fun _ journal => ⟨journal, rfl⟩)

theorem nextItem : Mirrors formatters nextItem nextItem := by
  refine get_bind fun s journal => ?_
  have same : (s.formatted formatters journal).listLevels = s.listLevels := rfl
  rw [same]
  split
  · exact fail _
  · exact (adjust fun _ journal => ⟨journal, rfl⟩).bind fun _ => pure _

theorem listItem {body body' : Bool → Render Unit}
    (hb : ∀ tight, Mirrors formatters (body tight) (body' tight)) (settings : RendererSettings)
    (children : List Node) (task : Option TaskStatus) :
    Mirrors formatters (listItem settings children task body)
      (listItem { settings with formatters := [] } (Node.allFormatted formatters children) task
        body') := by
  have visible : (Node.allFormatted formatters children).find? (!·.isBlankBlock) =
      (children.find? (!·.isBlankBlock)).map (Node.formatted formatters) := by
    rw [Node.allFormatted_eq_map, List.find?_map]
    congr 2
    exact funext fun n => by simp [(Node.formatted_looksLike formatters n).isBlankBlock]
  refine nextItem.bind fun level => (checkTexts children).bind fun _ => ?_
  rw [visible]
  cases children.find? (!·.isBlankBlock) with
  | none => exact write _
  | some first =>
    have looks := Node.formatted_looksLike formatters first
    have box : taskBox task (first.formatted formatters) = taskBox task first := by
      simp only [taskBox, looks.isParagraph]
    have width : childIndent { settings with formatters := [] } level.marker
        (first.formatted formatters) = childIndent settings level.marker first := by
      simp only [childIndent, looks.isParagraph, looks.isHeading]
    simp only [Option.map_some, box, width]
    exact (record _ _).bind fun _ => (write _).bind fun _ => (hb _).indented _

/-- Code goes out as its formatter has left it. -/
theorem codeBlock (settings : RendererSettings) (block : CodeBlock) :
    Mirrors settings.formatters (codeBlock settings block)
      (codeBlock { settings with formatters := [] }
        { block with content := formattedCode settings.formatters block }) := by
  have same : codeBlockText [] { block with content := formattedCode settings.formatters block } =
      codeBlockText settings.formatters block := by
    rw [codeBlockText, formattedCode_nil]
    rfl
  refine (record _ _).bind fun _ => ?_
  dsimp only
  rw [same]
  exact write _

theorem textless (settings : RendererSettings) (kind : Textless) :
    Mirrors settings.formatters (textless settings kind)
      (node { settings with formatters := [] }
        ((Node.textless kind).formatted settings.formatters)) := by
  cases kind with
  | codeBlock info fence fenced =>
    rw [Node.formatted, Textless.formatted]
    cases reply : (replyWithoutCode? settings.formatters
        { content := "", info, fence, fenced }).bind CodeFormatter.replyCode? with
    | some content =>
      simp only [Render.textless, codeBlockWithoutCode, reply]
      rw [node]
      exact (record _ _).bind fun _ => write _
    | none =>
      have none_ : (replyWithoutCode? [] { content := "", info, fence, fenced }).bind
          CodeFormatter.replyCode? = none := by
        simp [replyWithoutCode?, CodeFormatter.find?]
      dsimp only
      rw [node]
      simp only [Render.textless, codeBlockWithoutCode, reply, none_]
      exact (record _ _).bind fun _ => lack _
  | code =>
    rw [Node.formatted, Textless.formatted, node]
    · exact pure ()
    · simp
  | htmlInline =>
    rw [Node.formatted, Textless.formatted, node]
    · exact leaveLineStart
    · simp
  | htmlBlock blankBefore =>
    rw [Node.formatted, Textless.formatted, node]
    · exact lack _
    · simp

theorem writeTable (header : Node) (headerTexts : List (List Char))
    (bodyTexts : List (List (List Char))) :
    Mirrors formatters (writeTable header headerTexts bodyTexts)
      (writeTable (header.formatted formatters) headerTexts bodyTexts) := by
  have same : (header.formatted formatters).children.map alignmentOf =
      header.children.map alignmentOf := by
    rw [Node.children_formatted, List.map_map]
    congr 1
    exact funext fun n => (Node.formatted_looksLike formatters n).alignmentOf
  unfold Render.writeTable
  rw [same]
  refine (adjust fun _ journal => ⟨journal, rfl⟩).bind fun _ => get_bind fun s journal => ?_
  refine (write _).bind fun _ => (write _).bind fun _ => ?_
  exact (forM (fun _ => write _) _).bind fun _ => record _ _

theorem table {x x' : Render (List (List Char) × List (List (List Char)))}
    (hx : Mirrors formatters x x') (header : Option Node) (rows : List Node) :
    Mirrors formatters (table header rows x)
      (table (Node.headerFormatted formatters header) (Node.allFormatted formatters rows) x') := by
  unfold Render.table
  rw [Node.checkRows_formatted]
  cases accepted : checkRows header rows with
  | error e => exact fail e
  | ok _ =>
    obtain ⟨header, rfl⟩ : ∃ row, header = some row := by
      cases header with
      | none => cases accepted
      | some header => exact ⟨header, rfl⟩
    refine get_bind fun s journal => ?_
    have same : (s.formatted formatters journal).grid = s.grid := rfl
    dsimp only
    rw [same]
    refine ite (fail _) ?_
    refine (adjust fun _ journal => ⟨journal, rfl⟩).bind fun _ => ensuring ?_ ?_
    · refine hx.bind fun texts => ?_
      rw [Node.headerFormatted]
      exact writeTable header _ _
    · exact adjust fun _ journal => ⟨journal, rfl⟩

end Mirrors

section Walk

variable (settings : RendererSettings)

theorem listItems_other (style : ListStyle) (first : Bool) {item : Node} (rest : List Node)
    (other : item.isListItem = false) :
    listItems settings style first (item :: rest) = fail (.notListItem item.kind) := by
  cases item with
  | listItem => cases other
  | _ => simp only [listItems]

theorem headerRow_other {row : Node} (other : isRow row = false) :
    headerRow settings (some row) = fail (.notRow row.kind) := by
  cases row with
  | tableRow => cases other
  | _ => simp only [headerRow]

theorem bodyRows_other {row : Node} (rest : List Node) (other : isRow row = false) :
    bodyRows settings (row :: rest) = fail (.notRow row.kind) := by
  cases row with
  | tableRow => cases other
  | _ => simp only [bodyRows]

theorem cellTexts_other {cell : Node} (rest : List Node) (other : cell.isTableCell = false) :
    cellTexts settings (cell :: rest) = fail (.notCell cell.kind) := by
  cases cell with
  | tableCell => cases other
  | _ => simp only [cellTexts]

mutual

/-- **Every node is printed as its formatted form is without formatters.** -/
theorem node_mirrors : (n : Node) → Mirrors settings.formatters (node settings n)
    (node { settings with formatters := [] } (n.formatted settings.formatters))
  | .document children => by
    have hc := blocks_mirrors false true children
    rw [Node.formatted, node, node]
    exact (Mirrors.checkTexts children).bind fun _ => hc.bind fun _ => .write _
  | .heading level content identifier => by
    have hc := inlines_mirrors content
    rw [Node.formatted, node, node]
    exact (hc.scratch _).bind fun _ => .write _
  | .paragraph content => by
    have hc := paragraphInlines_mirrors content
    rw [Node.formatted, node, node]
    exact Mirrors.startInlines.bind fun _ => hc
  | .codeBlock block => by
    rw [Node.formatted, node, node]
    exact .codeBlock settings block
  | .blockQuote children => by
    have hc := blocks_mirrors false true children
    have same : (Node.allFormatted settings.formatters children).isEmpty = children.isEmpty := by
      rw [Node.allFormatted_eq_map, List.isEmpty_map]
    rw [Node.formatted, node, node, same]
    exact ((Mirrors.checkTexts children).bind fun _ => hc).blockQuote _
  | .list style items => by
    have hi := listItems_mirrors style true items
    rw [Node.formatted, node, node]
    exact hi.inList style
  | .listItem children task blankBefore => by
    have hb (tight : Bool) := blocks_mirrors tight true children
    rw [Node.formatted, node, node]
    exact .listItem hb settings children task
  | .table header rows => by
    have hh := headerRow_mirrors header
    have hr := bodyRows_mirrors rows
    rw [Node.formatted, node, node]
    exact .table (hh.bind fun _ => hr.bind fun _ => .pure _) header rows
  | .tableRow .. => by
    rw [Node.formatted, node, node]
    exact .fail _
  | .tableCell .. => by
    rw [Node.formatted, node, node]
    exact .fail _
  | .thematicBreak => by
    rw [Node.formatted, node, node]
    exact .write _
  | .htmlBlock content _ => by
    rw [Node.formatted, node, node]
    exact .write _
  | .text content => by
    rw [Node.formatted, node, node]
    exact .text content
  | .emphasis content => by
    have hc := inlines_mirrors content
    rw [Node.formatted, node, node, Node.allBlankInline_formatted]
    exact hc.span _ _
  | .strong content => by
    have hc := inlines_mirrors content
    rw [Node.formatted, node, node, Node.allBlankInline_formatted]
    exact hc.span _ _
  | .strikethrough content => by
    have hc := inlines_mirrors content
    rw [Node.formatted, node, node, Node.allBlankInline_formatted]
    exact hc.span _ _
  | .code content => by
    rw [Node.formatted, node, node]
    exact .code content
  | .link url content title => by
    have hc := inlines_mirrors content
    rw [Node.formatted, node, node]
    exact hc.reference _ url title
  | .image url content title => by
    have hc := inlines_mirrors content
    rw [Node.formatted, node, node]
    exact hc.reference _ url title
  | .autolink _ label => by
    rw [Node.formatted, node, node]
    exact .verbatim _
  | .htmlInline content => by
    rw [Node.formatted, node, node]
    exact .verbatim _
  | .lineBreak soft => by
    rw [Node.formatted, node, node]
    exact .lineBreak settings soft
  | .textless kind => by
    rw [node]
    exact .textless settings kind
  | .foreign kind => by
    rw [Node.formatted, node, node]
    exact .fail _
  | .missing => by
    rw [Node.formatted, node, node]
    exact .fail _

theorem inlines_mirrors : (content : List Node) →
    Mirrors settings.formatters (inlines settings content)
      (inlines { settings with formatters := [] }
        (Node.allFormatted settings.formatters content))
  | [] => by
    rw [Node.allFormatted, inlines, inlines]
    exact .pure _
  | child :: rest => by
    have step := node_mirrors child
    have later := inlines_mirrors rest
    rw [Node.allFormatted, inlines, inlines, Node.head?_allFormatted]
    exact (Mirrors.nextInline rest.head?).bind fun _ => step.bind fun _ => later

theorem paragraphInlines_mirrors : (content : List Node) →
    Mirrors settings.formatters (paragraphInlines settings content)
      (paragraphInlines { settings with formatters := [] }
        (Node.allFormatted settings.formatters content))
  | [] => by
    rw [Node.allFormatted, paragraphInlines, paragraphInlines]
    exact .pure _
  | child :: rest => by
    have step := node_mirrors child
    have later := paragraphInlines_mirrors rest
    have next : (if rest.all Node.isLineBreak then none
        else (Node.allFormatted settings.formatters rest).head?) =
        (if rest.all Node.isLineBreak then none else rest.head?).map
          (Node.formatted settings.formatters) := by
      rw [Node.head?_allFormatted]
      split <;> rfl
    rw [Node.allFormatted, paragraphInlines, paragraphInlines, Node.all_isLineBreak_formatted,
      (Node.formatted_looksLike _ child).isLineBreak, next]
    exact .ite (.pure _) ((Mirrors.nextInline _).bind fun _ => step.bind fun _ => later)

theorem blocks_mirrors (tight first : Bool) : (children : List Node) →
    Mirrors settings.formatters (blocks settings tight first children)
      (blocks { settings with formatters := [] } tight first
        (Node.allFormatted settings.formatters children))
  | [] => by
    rw [Node.allFormatted, blocks, blocks]
    exact .pure _
  | child :: rest => by
    have step := node_mirrors child
    have again := blocks_mirrors tight first rest
    have later := blocks_mirrors tight false rest
    have looks := Node.formatted_looksLike settings.formatters child
    rw [Node.allFormatted, blocks, blocks, looks.isBlankBlock, looks.separator]
    refine .ite again (.ite ((Mirrors.write _).bind fun _ => ?_) ?_)
    · exact step.bind fun _ => later
    · exact step.bind fun _ => later

theorem listItems_mirrors (style : ListStyle) (first : Bool) : (items : List Node) →
    Mirrors settings.formatters (listItems settings style first items)
      (listItems { settings with formatters := [] } style first
        (Node.allFormatted settings.formatters items))
  | [] => by
    rw [Node.allFormatted, listItems, listItems]
    exact .pure _
  | item :: rest => by
    have step := node_mirrors item
    have later := listItems_mirrors style false rest
    have looks := Node.formatted_looksLike settings.formatters item
    rw [Node.allFormatted]
    cases item with
    | listItem children task blankBefore =>
      rw [Node.formatted] at step ⊢
      rw [listItems, listItems]
      refine .ite ((Mirrors.write _).bind fun _ => ?_) ?_
      · exact step.bind fun _ => later
      · exact step.bind fun _ => later
    | _ =>
      rw [listItems_other settings style first rest rfl,
        listItems_other _ style first _ (looks.isListItem.trans rfl), looks.kind]
      exact .fail _

theorem headerRow_mirrors : (header : Option Node) →
    Mirrors settings.formatters (headerRow settings header)
      (headerRow { settings with formatters := [] }
        (Node.headerFormatted settings.formatters header))
  | none => by
    rw [Node.headerFormatted, headerRow, headerRow]
    exact .fail _
  | some row => by
    have looks := Node.formatted_looksLike settings.formatters row
    rw [Node.headerFormatted]
    cases row with
    | tableRow cells isHeader =>
      have hc := cellTexts_mirrors cells
      rw [Node.formatted, headerRow, headerRow]
      exact hc.bind fun _ => (Mirrors.measureRow _).bind fun _ => .pure _
    | _ =>
      rw [headerRow_other settings rfl, headerRow_other _ (looks.isRow.trans rfl), looks.kind]
      exact .fail _

theorem bodyRows_mirrors : (rows : List Node) →
    Mirrors settings.formatters (bodyRows settings rows)
      (bodyRows { settings with formatters := [] } (Node.allFormatted settings.formatters rows))
  | [] => by
    rw [Node.allFormatted, bodyRows, bodyRows]
    exact .pure _
  | row :: rest => by
    have later := bodyRows_mirrors rest
    have looks := Node.formatted_looksLike settings.formatters row
    rw [Node.allFormatted]
    cases row with
    | tableRow cells isHeader =>
      have hc := cellTexts_mirrors cells
      rw [Node.formatted, bodyRows, bodyRows]
      refine hc.bind fun _ => (Mirrors.measureRow _).bind fun _ => ?_
      exact later.bind fun _ => .pure _
    | _ =>
      rw [bodyRows_other settings rest rfl, bodyRows_other _ _ (looks.isRow.trans rfl), looks.kind]
      exact .fail _

theorem cellTexts_mirrors : (cells : List Node) →
    Mirrors settings.formatters (cellTexts settings cells)
      (cellTexts { settings with formatters := [] } (Node.allFormatted settings.formatters cells))
  | [] => by
    rw [Node.allFormatted, cellTexts, cellTexts]
    exact .pure _
  | cell :: rest => by
    have later := cellTexts_mirrors rest
    have looks := Node.formatted_looksLike settings.formatters cell
    rw [Node.allFormatted]
    cases cell with
    | tableCell content alignment =>
      have hc := inlines_mirrors content
      rw [Node.formatted, cellTexts, cellTexts]
      exact (hc.scratch _).bind fun _ => later.bind fun _ => .pure _
    | _ =>
      rw [cellTexts_other settings rest rfl,
        cellTexts_other _ _ (looks.isTableCell.trans rfl), looks.kind]
      exact .fail _

end

end Walk

end Render

namespace RendererSettings

theorem render_eq_formatted (settings : RendererSettings) (root : Node) :
    (settings.render root).1 =
      ({ settings with formatters := [] }.render (root.formatted settings.formatters)).1 := by
  cases root with
  | document children =>
    have mirrors := Render.node_mirrors settings (.document children)
    have start : ({} : RenderState).formatted settings.formatters {} = {} := rfl
    rw [Node.formatted] at mirrors ⊢
    cases run : Render.node settings (.document children) {} with
    | ok _ s =>
      obtain ⟨journal, run'⟩ := mirrors.done run {}
      rw [start] at run'
      simp only [render, run, run']
      rfl
    | error e s =>
      obtain ⟨journal, run'⟩ := mirrors.failed run {}
      rw [start] at run'
      simp only [render, run, run']
  | textless kind =>
    obtain kept | ⟨_, _, _, _, rfl, _, given⟩ :=
      Node.textless_formatted settings.formatters kind
    · rw [kept]
      rfl
    · rw [given]
      rfl
  | _ =>
    rw [Node.formatted]
    rfl

/-- **Code formatting commutes with printing and cannot break it.** Printing with formatters gives
what printing without any gives on the formatted tree, be it a text or a failure. Formatters decide
neither whether a tree can be printed, nor do they add a reason why it cannot: that is its shape
alone. Where all of them refuse the codes that they are given, they might as well not be there. -/
theorem render_formatted (settings : RendererSettings) (root : Node) :
    let plain := { settings with formatters := [] }
    (settings.render root).1 = (plain.render (root.formatted settings.formatters)).1 ∧
    (root.HoldsTexts →
      ((∃ out, (settings.render root).1 = .ok out) ↔ ∃ out, (plain.render root).1 = .ok out) ∧
      ∀ e, (settings.render root).1 = .error e → ∃ shape, e = .shape shape) ∧
    (root.Refused settings.formatters → (settings.render root).1 = (plain.render root).1) := by
  intro plain
  refine ⟨settings.render_eq_formatted root, fun held => ?_, fun refused => ?_⟩
  · have printed (any : RendererSettings) :
        (∃ out, (any.render root).1 = .ok out) ↔ root.printable = true := by
      refine ⟨fun ⟨out, run⟩ => ?_, any.render_of_printable held⟩
      obtain ⟨_, _, shape⟩ | ⟨e, run', _⟩ := any.render_verdict root
      · exact shape
      · cases run.symm.trans run'
    refine ⟨(printed settings).trans (printed plain).symm, fun e run => ?_⟩
    obtain ⟨_, run', _⟩ | ⟨_, run', why⟩ := settings.render_verdict root
    · cases run.symm.trans run'
    · cases run.symm.trans run'
      cases e with
      | shape shape => exact ⟨shape, rfl⟩
      | absent _ => exact absurd held why
      | writer _ => exact why.elim
  · rw [settings.render_eq_formatted root, Node.formatted_of_refused root refused]

theorem render_formatted_refused :
    let fails : CodeFormatter := { name := "fails", run := fun _ => .failed "boom" }
    let doubles : CodeFormatter := { name := "doubles", run := fun code => .code (code ++ code) }
    let block (info : String) := Node.codeBlock { content := "x", info := some info }
    let quoted (info : String) := Node.document
      [.blockQuote [.list { marker := .dash } [.listItem [block info] none false]]]
    let settings : RendererSettings := { formatters := [("go", fails), ("py", doubles)] }
    let plain : RendererSettings := {}
    (settings.render (quoted " .go  x")).1 = (plain.render (quoted " .go  x")).1 ∧
      (settings.render (quoted "py")).1 =
        (plain.render ((quoted "py").formatted settings.formatters)).1 := by
  intro fails doubles block quoted settings plain
  have refused : (quoted " .go  x").Refused settings.formatters := .of_every (by decide +kernel)
  exact ⟨(render_formatted settings _).2.2 refused, (render_formatted settings _).1⟩

end RendererSettings

end MarkdownCanon

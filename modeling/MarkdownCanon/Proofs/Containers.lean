import MarkdownCanon.Proofs.Emission
import MarkdownCanon.Proofs.Margins

/-! Code inside quotes and list items, however these are nested: its lines come out unchanged
behind what the containers put before them. -/

namespace MarkdownCanon

/-- A quote or an item of a list of its own, around a single block. -/
inductive Container where
  | quote
  | item (style : ListStyle) (task : Option TaskStatus) (blankBefore : Bool)
  deriving Repr, Inhabited

namespace Container

def around : Container → Node → Node
  | quote, block => .blockQuote [block]
  | item style task blankBefore, block => .list style [.listItem [block] task blankBefore]

/-- What a container puts before the first line in it. -/
def opening : Container → List Char
  | quote => Render.quoteMarker
  | item style _ _ => (ListLevel.ofStyle style).marker

/-- What a container puts before every other line in it. -/
def margin : Container → List Char
  | quote => Render.quoteMarker
  | item style _ _ => List.replicate (ListLevel.ofStyle style).marker.length ' '

/-- A block inside of containers, the outermost of them first. -/
def enclose (chain : List Container) (block : Node) : Node := chain.foldr around block

def openings (chain : List Container) : List Char := chain.flatMap opening

def margins (chain : List Container) : List Char := chain.flatMap margin

theorem length_openings (chain : List Container) :
    (openings chain).length = (margins chain).length := by
  induction chain with
  | nil => rfl
  | cons container chain ih =>
    have step : container.opening.length = container.margin.length := by
      cases container <;> simp [opening, margin]
    simp only [openings, margins] at ih
    simp only [openings, margins, List.flatMap_cons, List.length_append, step, ih]

end Container

/-- A block that is never passed over and that items are indented for by the width of their
markers. -/
structure Node.Firm (n : Node) : Prop where
  shown : n.isBlankBlock = false
  texts : n.isTextlessHtml = false
  paragraph : n.isParagraph = false
  heading : n.isHeading = false

theorem Container.enclose_firm {block : Node} (firm : block.Firm) (chain : List Container) :
    (enclose chain block).Firm := by
  cases chain with
  | nil => exact firm
  | cons container chain => cases container <;> exact ⟨rfl, rfl, rfl, rfl⟩

namespace Render

variable {settings : RendererSettings}

theorem allBlocks_single {block : Node} (firm : block.Firm) :
    allBlocks settings [block] = node settings block := by
  simp [allBlocks, checkTexts, blocks, firm.texts, firm.shown]

theorem blocks_single {block : Node} (firm : block.Firm) (tight : Bool) :
    blocks settings tight true [block] = node settings block := by
  simp [blocks, firm.shown]

/-- The writer that a container hands to the block in it. -/
def opened (container : Container) (w : Writer) : Writer :=
  match container with
  | .quote => (if w.atLineStart then w else w.write quoteMarker).pushIndent quoteMarker
  | .item .. => (w.write container.opening).pushIndent container.margin

theorem indented_run {x : Render Unit} (hx : Balanced False x) {s t : RenderState}
    (ready : s.grid.Ready) {piece : List Char}
    (run : x { s with writer := s.writer.pushIndent piece } = .ok () t) :
    indented piece x s =
      .ok () { t with writer := { t.writer with indentation := s.writer.indentation } } := by
  rw [indented_eq hx ready]
  exact ensuring_modify_eq_ok.mpr ⟨t, run, rfl⟩

theorem quote_run {block : Node} (firm : block.Firm) {s t : RenderState} (ready : s.grid.Ready)
    (run : node settings block { s with writer := opened .quote s.writer } = .ok () t) :
    node settings (.blockQuote [block]) s =
      .ok () { t with writer := { t.writer with indentation := s.writer.indentation } } := by
  have balanced : Balanced False (node settings block) := (node_balanced _ _).mono False.elim
  have only : node settings (.blockQuote [block]) = blockQuote false (node settings block) := by
    rw [← allBlocks_single firm, node]
    rfl
  rw [only, blockQuote, if_neg (by simp), get_bind]
  by_cases start : s.writer.atLineStart = true
  · rw [opened, if_pos start] at run
    rw [start]
    exact indented_run balanced ready run
  · have mid : s.writer.atLineStart = false := by simpa using start
    rw [opened, if_neg start] at run
    rw [mid]
    change (do write quoteMarker; indented quoteMarker (node settings block)) s = _
    rw [write_bind, indented_run balanced (by exact ready) run, Writer.write_indentation]

/-- Before a block that is neither a paragraph nor a heading an item has no box, and is indented by
the width of its marker. -/
theorem itemBody_run {block : Node} (firm : block.Firm) (task : Option TaskStatus)
    (level : ListLevel) {s t : RenderState} (ready : s.grid.Ready)
    (run : node settings block { s with
      journal := s.journal ++ taskTrace task block
      writer := (s.writer.write level.marker).pushIndent
        (List.replicate level.marker.length ' ') } = .ok () t) :
    itemBody settings [block] task (fun tight => blocks settings tight true [block]) level s =
      .ok () { t with writer := { t.writer with indentation := s.writer.indentation } } := by
  have balanced : Balanced False (node settings block) := (node_balanced _ _).mono False.elim
  have found : [block].find? (!·.isBlankBlock) = some block := by simp [firm.shown]
  have box : taskBox task block = [] := by
    cases task <;> simp [taskBox, firm.paragraph]
  have width : childIndent settings level.marker block = level.marker.length := by
    simp [childIndent, firm.paragraph, firm.heading]
  have texts : checkTexts [block] = pure () := by simp [checkTexts, firm.texts]
  unfold itemBody
  rw [texts, pure_bind, found]
  simp only [blocks_single firm, box, width, List.append_nil]
  rw [record_bind, write_bind, indented_run balanced (by exact ready) run,
    Writer.write_indentation]

theorem item_run {block : Node} (firm : block.Firm) (style : ListStyle) (task : Option TaskStatus)
    (blankBefore : Bool) {s t : RenderState} (ready : s.grid.Ready)
    (run : node settings block { s with
      listLevels := (ListLevel.ofStyle style).advance :: s.listLevels
      journal := s.journal ++ taskTrace task block
      writer := opened (.item style task blankBefore) s.writer } = .ok () t) :
    node settings (.list style [.listItem [block] task blankBefore]) s =
      .ok () { t with
        listLevels := t.listLevels.tail
        writer := { t.writer with indentation := s.writer.indentation } } := by
  have only : listItems settings style true [.listItem [block] task blankBefore] =
      node settings (.listItem [block] task blankBefore) := by
    simp [listItems]
  rw [node, only, inList, modify_bind]
  refine ensuring_modify_eq_ok.mpr
    ⟨{ t with writer := { t.writer with indentation := s.writer.indentation } }, ?_, rfl⟩
  rw [node, listItem_eq, bind_of_ok (nextItem_cons rfl)]
  exact itemBody_run firm task _ (by exact ready) run

/-- A container opens its first line, and prints the block in it. -/
theorem around_run (settings : RendererSettings) (container : Container) {block : Node}
    (firm : block.Firm) {s : RenderState} (ready : s.grid.Ready) :
    ∃ inside : RenderState, inside.grid = s.grid ∧
      inside.writer = opened container s.writer ∧
      ∀ t, node settings block inside = .ok () t →
        ∃ t', node settings (container.around block) s = .ok () t' ∧
          t'.writer = { t.writer with indentation := s.writer.indentation } := by
  cases container with
  | quote =>
    refine ⟨{ s with writer := opened .quote s.writer }, rfl, rfl, fun t run => ?_⟩
    exact ⟨_, quote_run firm ready run, rfl⟩
  | item style task blankBefore =>
    refine ⟨{ s with
      listLevels := (ListLevel.ofStyle style).advance :: s.listLevels
      journal := s.journal ++ taskTrace task block
      writer := opened (.item style task blankBefore) s.writer }, rfl, rfl, fun t run => ?_⟩
    exact ⟨_, item_run firm style task blankBefore ready run, rfl⟩

end Render

theorem Container.opening_line (container : Container) :
    container.opening ≠ [] ∧ '\n' ∉ container.opening := by
  cases container with
  | quote => decide
  | item style task blankBefore =>
    have bullet : (ListLevel.ofStyle style).bullet = style.marker.bullet := rfl
    obtain ⟨mark, whole, _, _, line⟩ := Render.marker_mark bullet
    rw [opening, whole]
    simp [line]

namespace Render

open Text Container

variable {settings : RendererSettings}

/-- The first line goes on with what opens the container, and the other lines have its margin. -/
theorem opened_writer (container : Container) {w : Writer} (clear : w.pending = []) :
    (opened container w).pending = [] ∧
      (opened container w).indentation.full = w.indentation.full ++ container.margin ∧
      (opened container w).out.toList ++
          (if (opened container w).atLineStart then (opened container w).indentation.full else []) =
        w.out.toList ++
          ((if w.atLineStart then w.indentation.full else []) ++ container.opening) := by
  obtain ⟨shown, line⟩ := container.opening_line
  obtain ⟨out, mid⟩ := Writer.write_on_line clear shown line
  have empty := w.write_pending shown
  cases container with
  | quote =>
    unfold opened
    by_cases start : w.atLineStart = true
    · rw [if_pos start, Writer.pushIndent_full]
      simp [Writer.pushIndent, clear, start, opening, margin]
    · rw [opening] at out mid empty
      rw [if_neg start, Writer.pushIndent_full, Writer.write_indentation]
      exact ⟨empty, rfl, by simpa [Writer.pushIndent, mid, opening] using out⟩
  | item style task blankBefore =>
    unfold opened
    rw [Writer.pushIndent_full, Writer.write_indentation]
    exact ⟨empty, rfl, by simpa [Writer.pushIndent, mid] using out⟩

/-- A code block begins and ends with its fence. -/
theorem codeBlockText_fences (formatters : FormatterMap) (block : CodeBlock) :
    ∃ tail, codeBlockText formatters block = fenceChar block :: tail ∧
      (codeBlockText formatters block).getLast? = some (fenceChar block) := by
  have fence (n : Nat) : ∃ m, max 3 n = m + 1 := ⟨max 3 n - 1, by omega⟩
  unfold codeBlockText
  dsimp only
  obtain ⟨m, long⟩ := fence
    (longestRun (· == fenceChar block)
      (CodeFormatter.endLine (formattedCode formatters block)).toList + 1)
  rw [long]
  refine ⟨_, by rw [List.replicate_succ]; rfl, ?_⟩
  rw [List.getLast?_append, List.getLast?_replicate]
  simp

theorem codeBlockText_first {formatters : FormatterMap} {block : CodeBlock} {first : List Char}
    {rest : List (List Char)} (cut : segments (codeBlockText formatters block) = first :: rest) :
    first ≠ [] := by
  obtain ⟨tail, fenced, _⟩ := codeBlockText_fences formatters block
  obtain ⟨second, more, later⟩ := List.exists_cons_of_ne_nil (Writer.segments_ne_nil tail)
  rw [fenced, segments_cons (fenceChar_line block) later] at cut
  cases cut
  simp

/-- However deep it stands, a code block goes out line by line behind what its containers put before
the lines. -/
theorem enclosed_run (block : CodeBlock) {first : List Char} {rest : List (List Char)}
    (cut : segments (codeBlockText settings.formatters block) = first :: rest)
    (chain : List Container) {s : RenderState} (ready : s.grid.Ready)
    (clear : s.writer.pending = []) :
    ∃ t, node settings (enclose chain (.codeBlock block)) s = .ok () t ∧
      t.writer.pending = [] ∧ t.writer.atLineStart = false ∧
      t.writer.out.toList = s.writer.out.toList ++
        ((if s.writer.atLineStart then s.writer.indentation.full else []) ++ openings chain ++
          first ++ rest.flatMap fun line =>
            '\n' :: inMargin (s.writer.indentation.full ++ margins chain) line) := by
  induction chain generalizing s with
  | nil =>
    let text := codeBlockText settings.formatters block
    obtain ⟨tail, fenced, closed⟩ := codeBlockText_fences settings.formatters block
    have shown : text ≠ [] := by simp [text, fenced]
    have open_ : text.getLast? ≠ some '\n' := by simpa [text, closed] using fenceChar_line block
    have last : ∀ line, (first :: rest).getLast? = some line → line ≠ [] := fun line h =>
      segments_last shown open_ (cut ▸ h)
    obtain ⟨out, mid⟩ := Writer.writeSegments_out clear last
    rw [← cut, ← Writer.write] at out mid
    refine ⟨{ s with
      journal := s.journal ++ formattingTrace settings.formatters block
      writer := s.writer.write text }, by rw [enclose, List.foldr_nil, node]; rfl,
      s.writer.write_pending shown, mid, ?_⟩
    rw [out]
    cases start : s.writer.atLineStart <;>
      simp [openings, margins, inMargin_of_ne_nil (codeBlockText_first cut)]
  | cons container chain ih =>
    have firm : (enclose chain (.codeBlock block)).Firm := enclose_firm ⟨rfl, rfl, rfl, rfl⟩ chain
    obtain ⟨inside, grid, writer, around⟩ := around_run settings container firm ready
    obtain ⟨pending, full, out⟩ := opened_writer container clear
    rw [← writer] at pending full out
    obtain ⟨t, run, empty, mid, text⟩ := @ih inside (by rw [grid]; exact ready) pending
    obtain ⟨t', run', same⟩ := around t run
    refine ⟨t', run', by rw [same]; exact empty, by rw [same]; exact mid, ?_⟩
    simp only [openings, margins, ← List.append_assoc] at text out
    simp only [same, openings, margins, List.flatMap_cons, ← List.append_assoc]
    rw [text, out, full]

end Render

namespace Container

/-- The lines of a block inside of containers. -/
def enclosedLines (chain : List Container) (first : List Char) (rest : List (List Char)) :
    List (List Char) :=
  (openings chain ++ first) :: rest.map (Text.inMargin (margins chain))

theorem drop_enclosedLines (chain : List Container) (first : List Char)
    (rest : List (List Char)) :
    (enclosedLines chain first rest).map (List.drop (margins chain).length) = first :: rest := by
  have behind (line : List Char) :
      (Text.inMargin (margins chain) line).drop (margins chain).length = line := by
    by_cases empty : line = []
    · obtain ⟨cut, whole, _⟩ := Text.trimEnd_eq_append Text.isSpace (margins chain)
      have short := congrArg List.length whole
      rw [List.length_append] at short
      rw [empty, Text.inMargin_nil, List.drop_eq_nil_iff]
      omega
    · rw [Text.inMargin_of_ne_nil empty, List.drop_left]
  have rest_ : (rest.map (Text.inMargin (margins chain))).map
      (List.drop (margins chain).length) = rest := by
    rw [List.map_map]
    exact List.map_id'' behind rest
  rw [enclosedLines, List.map_cons, rest_, ← length_openings, List.drop_left]

example : enclosedLines [.quote, .item { marker := .dot, start := 10 } none false] "~~~".toList
    [[], "x".toList] = ["> 10. ~~~".toList, ">".toList, ">     x".toList] := by decide

end Container

/-- **Code survives nesting.** A code block inside of quotes and items of single-item lists, in
whatever order and number, is printed as by itself, with the openings of its containers before its
first line and their margins before the others. Without that many columns the code is back, byte
for byte. -/
theorem RendererSettings.render_enclosed (settings : RendererSettings) (chain : List Container)
    (block : CodeBlock) :
    ∃ first rest,
      Text.segments (Render.codeBlockText settings.formatters block) = first :: rest ∧
      (settings.render (.document [.codeBlock block])).1 =
        .ok (String.ofList (Text.joinSegments (first :: rest) ++ ['\n'])) ∧
      (settings.render (.document [Container.enclose chain (.codeBlock block)])).1 =
        .ok (String.ofList
          (Text.joinSegments (Container.enclosedLines chain first rest) ++ ['\n'])) ∧
      (Container.enclosedLines chain first rest).map
        (List.drop (Container.openings chain).length) = first :: rest := by
  obtain ⟨first, rest, cut⟩ := List.exists_cons_of_ne_nil
    (Writer.segments_ne_nil (Render.codeBlockText settings.formatters block))
  have printed (chain : List Container) :
      (settings.render (.document [Container.enclose chain (.codeBlock block)])).1 =
        .ok (String.ofList
          (Text.joinSegments (Container.enclosedLines chain first rest) ++ ['\n'])) := by
    obtain ⟨t, run, clear, mid, out⟩ :=
      Render.enclosed_run (s := {}) block cut chain (.inr rfl) rfl
    rw [← Render.allBlocks_single (Container.enclose_firm ⟨rfl, rfl, rfl, rfl⟩ chain)] at run
    have text : t.writer.out.toList =
        Text.joinSegments (Container.enclosedLines chain first rest) := by
      rw [out, Container.enclosedLines, Text.joinSegments_cons, List.flatMap_map]
      rfl
    rw [render_of_line run clear mid ?_, text]
    obtain ⟨c, m⟩ := List.exists_mem_of_ne_nil first (Render.codeBlockText_first cut)
    have line : '\n' ∉ first := Text.segments_line (cut ▸ List.mem_cons_self)
    exact ⟨c, by rw [out]; simp [m], fun newline => line (newline ▸ m)⟩
  refine ⟨first, rest, cut, ?_, printed chain, ?_⟩
  · have bare : Container.enclosedLines [] first rest = first :: rest := by
      have none_ (line : List Char) : Text.inMargin [] line = line := by cases line <;> rfl
      exact congrArg _ (List.map_id'' none_ rest)
    rw [← bare]
    exact printed []
  · rw [Container.length_openings]
    exact Container.drop_enclosedLines chain first rest

end MarkdownCanon

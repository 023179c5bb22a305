import Mathlib.Data.List.Forall2
import MarkdownCanon.Proofs.BalancedWalk
import MarkdownCanon.Proofs.Containers
import MarkdownCanon.Proofs.Pipes

/-! A table read back from its printed lines: how many columns it has, what is in its cells and how
its columns are aligned. -/

namespace MarkdownCanon

section Forall₂

variable {α β : Type} {R : α → β → Prop} {as : List α} {bs : List β}

theorem forall₂_getElem? (h : List.Forall₂ R as bs) (j : Nat) :
    (as[j]? = none ∧ bs[j]? = none) ∨ ∃ a b, as[j]? = some a ∧ bs[j]? = some b ∧ R a b := by
  induction h generalizing j with
  | nil => exact .inl ⟨rfl, rfl⟩
  | cons own _ ih =>
    cases j with
    | zero => exact .inr ⟨_, _, rfl, rfl, own⟩
    | succ j => exact ih j

theorem forall₂_mem (h : List.Forall₂ R as bs) {b : β} (m : b ∈ bs) : ∃ a ∈ as, R a b := by
  obtain ⟨j, at_⟩ := List.getElem?_of_mem m
  obtain ⟨-, none_⟩ | ⟨a, b', here, there, related⟩ := forall₂_getElem? h j
  · cases none_.symm.trans at_
  · cases there.symm.trans at_
    exact ⟨a, List.mem_of_getElem? here, related⟩

end Forall₂

namespace Markup

/-- The pieces of a line between its pipes, where a pipe right behind a backslash is none.
`afterBackslash` tells whether the line comes behind one. -/
def splitAtPipes (afterBackslash : Bool) : List Char → List (List Char)
  | [] => [[]]
  | c :: rest =>
    if c == '|' && !afterBackslash then [] :: splitAtPipes false rest
    else (splitAtPipes (c == '\\') rest).modifyHead (c :: ·)

/-- The alignment that the colons of a piece below the header stand for. -/
def readAlignment (piece : List Char) : Option Alignment :=
  match piece.head? == some ':', piece.getLast? == some ':' with
  | true, true => some .center
  | true, false => some .left
  | false, true => some .right
  | false, false => none

/-- A line with `n` cells between its outer pipes, of which `holds` says what is in them. -/
def IsRow (n : Nat) (holds : Nat → List Char → Prop) (line : List Char) : Prop :=
  ∃ pieces, splitAtPipes false line = [] :: pieces ++ [[]] ∧ pieces.length = n ∧
    ∀ j piece, pieces[j]? = some piece → holds j piece

/-- A piece whose pipes are guarded is cut off at the pipe behind it. -/
theorem splitAtPipes_piece (front piece rest : List Char) (guarded : Guarded (front ++ piece))
    (open_ : (front ++ piece).getLast? ≠ some '\\') :
    splitAtPipes (front.getLast? == some '\\') (piece ++ '|' :: rest) =
      piece :: splitAtPipes false rest := by
  induction piece generalizing front with
  | nil =>
    have plain : (front.getLast? == some '\\') = false := by simpa using open_
    simp [splitAtPipes, plain]
  | cons c piece ih =>
    have moved : front ++ c :: piece = front ++ [c] ++ piece := by simp
    have kept : ¬ (c == '|' && !(front.getLast? == some '\\')) = true := by
      intro cut
      obtain ⟨rfl, plain⟩ : c = '|' ∧ front.getLast? ≠ some '\\' := by simpa using cut
      exact plain (guarded front piece rfl)
    have last : ((front ++ [c]).getLast? == some '\\') = (c == '\\') := by simp
    have later := ih (front ++ [c]) (moved ▸ guarded) (moved ▸ open_)
    rw [last] at later
    rw [List.cons_append, splitAtPipes, if_neg kept, later, List.modifyHead_cons]

theorem splitAtPipes_line {pieces : List (List Char)}
    (h : ∀ piece ∈ pieces, Guarded piece ∧ piece.getLast? ≠ some '\\') :
    splitAtPipes false ('|' :: pieces.flatMap (· ++ ['|'])) = [] :: pieces ++ [[]] := by
  have cut : splitAtPipes false (pieces.flatMap (· ++ ['|'])) = pieces ++ [[]] := by
    induction pieces with
    | nil => rfl
    | cons piece pieces ih =>
      obtain ⟨guarded, open_⟩ := h piece List.mem_cons_self
      have first := splitAtPipes_piece [] piece (pieces.flatMap (· ++ ['|'])) guarded open_
      have none_ : (([] : List Char).getLast? == some '\\') = false := rfl
      rw [none_] at first
      rw [List.flatMap_cons, List.append_assoc, List.singleton_append, first,
        ih fun piece m => h piece (List.mem_cons_of_mem _ m), List.cons_append]
  simp [splitAtPipes, cut]

end Markup

namespace Text

theorem dropWhile_spaces (n : Nat) (text : List Char) :
    (List.replicate n ' ' ++ text).dropWhile isSpace = text.dropWhile isSpace := by
  induction n with
  | zero => rfl
  | succ n ih => simpa [List.replicate_succ, isSpace] using ih

/-- Spaces around a text are trimmed away with its own. -/
theorem trim_spaces (before after : Nat) (text : List Char) :
    trim isSpace (List.replicate before ' ' ++ text ++ List.replicate after ' ') =
      trim isSpace text := by
  have spaces : ∀ c ∈ List.replicate after ' ', isSpace c = true := by
    intro c m
    simp [List.eq_of_mem_replicate m, isSpace]
  unfold trim
  rw [List.append_assoc, dropWhile_spaces, List.dropWhile_append]
  split
  · rename_i blank
    rw [List.dropWhile_eq_nil_iff.mpr spaces, List.isEmpty_iff.mp blank]
  · rw [trimEnd_append, trimEnd_spaces spaces, inMargin_nil]

end Text

namespace Grid

/-- The cells of a line, with the spaces around them. -/
def cellPieces : List Nat → List (Option Alignment) → List (List Char) → List (List Char)
  | [], _, _ => []
  | width :: widths, alignments, texts =>
    (' ' :: pad (texts.headD []) width (alignments.headD none) ++ [' ']) ::
      cellPieces widths alignments.tail texts.tail

theorem cellsLine_eq (widths : List Nat) (alignments : List (Option Alignment))
    (texts : List (List Char)) :
    cellsLine widths alignments texts =
      '|' :: (cellPieces widths alignments texts).flatMap (· ++ ['|']) := by
  induction widths generalizing alignments texts with
  | nil => rfl
  | cons width widths ih => simp [cellsLine, cellPieces, ih]

theorem cellPieces_length (widths : List Nat) (alignments : List (Option Alignment))
    (texts : List (List Char)) : (cellPieces widths alignments texts).length = widths.length := by
  induction widths generalizing alignments texts with
  | nil => rfl
  | cons width widths ih => simp [cellPieces, ih]

theorem pad_eq (text : List Char) (width : Nat) (alignment : Option Alignment) :
    ∃ before after, pad text width alignment =
      List.replicate before ' ' ++ text ++ List.replicate after ' ' := by
  unfold pad
  dsimp only
  split
  · exact ⟨width - Text.cells text, 0, by simp⟩
  · exact ⟨_, _, rfl⟩
  · exact ⟨0, width - Text.cells text, by simp⟩

/-- A cell holds its text, or nothing if the row is too short, and spaces around it. -/
theorem cellPieces_getElem? {widths : List Nat} {alignments : List (Option Alignment)}
    {texts : List (List Char)} {j : Nat} {piece : List Char}
    (h : (cellPieces widths alignments texts)[j]? = some piece) :
    ∃ before after, piece =
      List.replicate (before + 1) ' ' ++ texts[j]?.getD [] ++ List.replicate (after + 1) ' ' := by
  induction widths generalizing alignments texts j with
  | nil => simp [cellPieces] at h
  | cons width widths ih =>
    cases j with
    | zero =>
      obtain ⟨before, after, padded⟩ := pad_eq (texts.headD []) width (alignments.headD none)
      refine ⟨before, after, ?_⟩
      have first : texts[0]?.getD [] = texts.headD [] := by cases texts <;> rfl
      obtain rfl : ' ' :: pad (texts.headD []) width (alignments.headD none) ++ [' '] = piece :=
        Option.some.inj h
      rw [padded, first, List.replicate_succ, List.replicate_succ']
      simp
    | succ j =>
      have later : texts.tail[j]?.getD [] = texts[j + 1]?.getD [] := by simp
      rw [← later]
      exact ih h

theorem cellPieces_guarded {widths : List Nat} {alignments : List (Option Alignment)}
    {texts : List (List Char)} (guarded : ∀ text ∈ texts, Markup.Guarded text) {piece : List Char}
    (m : piece ∈ cellPieces widths alignments texts) :
    Markup.Guarded piece ∧ piece.getLast? ≠ some '\\' := by
  obtain ⟨j, at_⟩ := List.getElem?_of_mem m
  obtain ⟨before, after, rfl⟩ := cellPieces_getElem? at_
  have spaces (n : Nat) : Markup.Guarded (List.replicate n ' ') :=
    Markup.guarded_of_notMem (by simp)
  have text : Markup.Guarded (texts[j]?.getD []) := by
    cases cell : texts[j]? with
    | none => exact Markup.guarded_of_notMem (by simp)
    | some text => exact guarded text (List.mem_of_getElem? cell)
  refine ⟨((spaces _).append text).append (spaces _), ?_⟩
  simp [List.getLast?_append, List.getLast?_replicate]

theorem delimiter_guarded (width : Nat) (alignment : Option Alignment) :
    Markup.Guarded (delimiter width alignment) ∧
      (delimiter width alignment).getLast? ≠ some '\\' := by
  unfold delimiter
  dsimp only
  refine ⟨Markup.guarded_of_notMem ?_, ?_⟩
  · split <;> split <;> simp
  · rw [List.getLast?_concat]
    split <;> simp

/-- The colons tell the alignments that have a name from each other and from none. -/
theorem readAlignment_delimiter (width : Nat) {alignment : Option Alignment}
    (named : ∀ name, alignment ≠ some (.other name)) :
    Markup.readAlignment (delimiter width alignment) = alignment := by
  have ends : (delimiter width alignment).getLast? = _ := List.getLast?_concat
  unfold Markup.readAlignment
  rw [ends]
  match alignment with
  | none | some .left | some .center | some .right => rfl
  | some (.other name) => exact absurd rfl (named name)

theorem measureFrom_columns (grid : Grid) (column : Nat) (texts : List (List Char)) :
    (grid.measureFrom column texts).widths.length =
      if texts.isEmpty then grid.widths.length
      else max grid.widths.length (column + texts.length) := by
  fun_induction measureFrom grid column texts with
  | case1 => rfl
  | case2 grid column text rest ih =>
    have wide : (grid.measure column (Text.cells text)).widths.length =
        max grid.widths.length (column + 1) := widen_length ..
    rw [ih, wide]
    cases rest with
    | nil => simp
    | cons other rest =>
      simp only [List.isEmpty_cons, Bool.false_eq_true, ↓reduceIte, List.length_cons]
      omega

/-- A row makes the grid as wide as it is itself. -/
theorem measureRow_columns (grid : Grid) (texts : List (List Char)) :
    (grid.measureRow texts).widths.length = max grid.widths.length texts.length := by
  rw [measureRow, measureFrom_columns]
  cases texts <;> simp

theorem measureRow_fields (grid : Grid) (texts : List (List Char)) :
    (grid.measureRow texts).alignments = grid.alignments ∧
      (grid.measureRow texts).active = grid.active := by
  unfold measureRow
  fun_induction measureFrom grid 0 texts with
  | case1 => exact ⟨rfl, rfl⟩
  | case2 grid column text rest ih => exact ih

/-- The grid once a number of rows have been measured. -/
def measureRows (grid : Grid) (rows : List (List (List Char))) : Grid := rows.foldl measureRow grid

theorem measureRows_columns (grid : Grid) (rows : List (List (List Char))) :
    (grid.measureRows rows).widths.length =
      max grid.widths.length ((rows.map List.length).foldr max 0) := by
  induction rows generalizing grid with
  | nil => simp [measureRows]
  | cons row rows ih =>
    rw [measureRows, List.foldl_cons, ← measureRows, ih, measureRow_columns, List.map_cons,
      List.foldr_cons, Nat.max_assoc]

theorem measureRows_fields (grid : Grid) (rows : List (List (List Char))) :
    (grid.measureRows rows).alignments = grid.alignments ∧
      (grid.measureRows rows).active = grid.active := by
  induction rows generalizing grid with
  | nil => exact ⟨rfl, rfl⟩
  | cons row rows ih =>
    obtain ⟨alignments, active⟩ := ih (grid.measureRow row)
    obtain ⟨alignments', active'⟩ := grid.measureRow_fields row
    exact ⟨alignments.trans alignments', active.trans active'⟩

end Grid

namespace Node

/-- The inline nodes whose text is all written with guarded pipes and on one line in a cell. -/
def isCellInline : Node → Bool
  | text _ | code _ | emphasis _ | strong _ | strikethrough _ | lineBreak _ => true
  | _ => false

def isPlainCell : Node → Bool
  | tableCell content _ => everyOf isCellInline content
  | _ => false

def isPlainRow : Node → Bool
  | tableRow cells _ => cells.all isPlainCell
  | _ => false

end Node

namespace Markup

/-- A text that can stand in a cell: on one line, with its pipes guarded. -/
def FitsCell (text : List Char) : Prop := Guarded text ∧ '\n' ∉ text

theorem FitsCell.append {a b : List Char} (ha : FitsCell a) (hb : FitsCell b) :
    FitsCell (a ++ b) :=
  ⟨ha.1.append hb.1, by simp [ha.2, hb.2]⟩

theorem fitsCell_pairing : Pairing true true fun a a' => a' = a ∧ FitsCell a := by
  refine .same ⟨guarded_of_notMem (by simp), by simp⟩ .append ?_ ?_
  · intro c delimiter
    refine ⟨guarded_of_notMem ?_, ?_⟩ <;> intro m <;> cases List.mem_singleton.mp m <;>
      exact absurd delimiter (by decide)
  · intro atLineStart tail cs next line
    have guards : Guards True True _ _ := guardBang_guards (escape_guards atLineStart tail cs) next
    refine ⟨guards.guarded trivial, Render.guardBang_line (fun m => ?_) next⟩
    exact (mem_escape m).elim (by decide) line

theorem codeText_fitsCell (content : String) : FitsCell (Render.codeText true content) := by
  have guards : Guards True False _ _ := codeText_guards content False.elim
  obtain ⟨inside, fence⟩ := codeSpan_line content.toList
  refine ⟨guards.guarded trivial, fun m => ?_⟩
  simp only [Render.codeText, CodeSpan.text, ↓reduceIte, List.mem_append, fence, or_false,
    false_or] at m
  exact (mem_guardPipes m).elim (by decide) inside

end Markup

theorem Node.pairs_fitsCell {n : Node} (inline : n.isCellInline = true) :
    n.Pairs true true fun a a' => a' = a ∧ Markup.FitsCell a := by
  cases n with
  | text | emphasis | strong | strikethrough => trivial
  | code content => exact ⟨rfl, Markup.codeText_fitsCell content⟩
  | lineBreak => exact ⟨rfl, rfl, rfl, Markup.guarded_of_notMem (by decide), by decide⟩
  | _ => simp [isCellInline] at inline

namespace Render

variable {β : Type} (settings : RendererSettings)

/-- The text of a cell, which is what its content prints by itself in a cell. -/
def IsCellText (cell : Node) (text : List Char) : Prop :=
  (settings.renderInlines { inTableCell := some true } cell.children).1 =
    .ok (String.ofList text) ∧ Markup.FitsCell text

theorem cell_run {content : List Node} (inline : Node.everyOf Node.isCellInline content = true)
    (alignment : Option Alignment) {s : RenderState} (ready : s.grid.Ready) :
    ∃ text t, scratch { inTableCell := some true } (inlines settings content) s = .ok text t ∧
      t.writer = s.writer ∧ t.grid = s.grid ∧
      IsCellText settings (.tableCell content alignment) text := by
  have pairs : ∀ c ∈ content, c.AllPairs true true fun a a' => a' = a ∧ Markup.FitsCell a :=
    fun c m k inside => Node.pairs_fitsCell (Node.every_within (Node.everyOf_mem inline m) inside)
  obtain ⟨text, _, t, t', run, alone, rfl, fits⟩ := scratch_both Markup.fitsCell_pairing settings
    pairs s {} { inTableCell := some true } { inTableCell := some true } rfl rfl rfl
  have kept := (((inlines_balanced settings content).scratch _).done ready run).1
  obtain ⟨u, _, _, rfl⟩ := scratch_eq_ok.mp run
  refine ⟨_, _, run, rfl, kept.grid, ?_, fits⟩
  simp only [RendererSettings.renderInlines, Node.children, alone]

theorem cellTexts_run {cells : List Node} (plain : ∀ cell ∈ cells, cell.isPlainCell = true)
    {s : RenderState} (ready : s.grid.Ready) :
    ∃ texts t, cellTexts settings cells s = .ok texts t ∧ t.writer = s.writer ∧ t.grid = s.grid ∧
      List.Forall₂ (IsCellText settings) cells texts := by
  induction cells generalizing s with
  | nil =>
    rw [cellTexts]
    exact ⟨[], s, rfl, rfl, rfl, .nil⟩
  | cons cell rest ih =>
    have own := plain cell List.mem_cons_self
    cases cell with
    | tableCell content alignment =>
      obtain ⟨text, t, run, writer, grid, shown⟩ :=
        cell_run settings own alignment ready
      obtain ⟨texts, u, run', writer', grid', shown'⟩ :=
        ih (fun cell m => plain cell (List.mem_cons_of_mem _ m)) (s := t) (grid ▸ ready)
      refine ⟨text :: texts, u, ?_, writer'.trans writer, grid'.trans grid, .cons shown shown'⟩
      rw [cellTexts, bind_of_ok run, bind_of_ok run']
      rfl
    | _ => simp [Node.isPlainCell] at own

/-- The texts of a row's cells. -/
def IsRowTexts (row : Node) (texts : List (List Char)) : Prop :=
  List.Forall₂ (IsCellText settings) row.children texts

/-- A row is printed aside and then measured. -/
theorem row_run {cells : List Node} {isHeader : Bool}
    (plain : (Node.tableRow cells isHeader).isPlainRow = true) {s : RenderState}
    (active : s.grid.active = true) (f : List (List Char) → Render β) :
    ∃ texts t, (do let texts ← cellTexts settings cells; measureRow texts; f texts) s = f texts t ∧
      t.writer = s.writer ∧ t.grid = s.grid.measureRow texts ∧
      IsRowTexts settings (.tableRow cells isHeader) texts := by
  obtain ⟨texts, t, run, writer, grid, shown⟩ :=
    cellTexts_run settings (List.all_eq_true.mp plain) (.inl active)
  refine ⟨texts, { t with grid := t.grid.measureRow texts }, ?_, writer, by rw [grid], shown⟩
  rw [bind_of_ok run]
  rfl

theorem headerRow_run {header : Node} (plain : header.isPlainRow = true) {s : RenderState}
    (active : s.grid.active = true) :
    ∃ texts t, headerRow settings header s = .ok texts t ∧ t.writer = s.writer ∧
      t.grid = s.grid.measureRow texts ∧ IsRowTexts settings header texts := by
  cases header with
  | tableRow cells isHeader =>
    rw [headerRow]
    obtain ⟨texts, t, run, post⟩ := row_run settings plain active pure
    exact ⟨texts, t, run, post⟩
  | _ => simp [Node.isPlainRow] at plain

theorem bodyRows_run {rows : List Node} (plain : ∀ row ∈ rows, row.isPlainRow = true)
    {s : RenderState} (active : s.grid.active = true) :
    ∃ texts t, bodyRows settings rows s = .ok texts t ∧ t.writer = s.writer ∧
      t.grid = s.grid.measureRows texts ∧ List.Forall₂ (IsRowTexts settings) rows texts := by
  induction rows generalizing s with
  | nil =>
    rw [bodyRows]
    exact ⟨[], s, rfl, rfl, rfl, .nil⟩
  | cons row rest ih =>
    have own := plain row List.mem_cons_self
    cases row with
    | tableRow cells isHeader =>
      obtain ⟨texts, t, run, writer, grid, shown⟩ := row_run settings own active
        fun texts => do return texts :: (← bodyRows settings rest)
      have active' : t.grid.active = true := by
        rw [grid, (Grid.measureRow_fields _ _).2, active]
      obtain ⟨more, u, run', writer', grid', shown'⟩ :=
        ih (fun row m => plain row (List.mem_cons_of_mem _ m)) active'
      refine ⟨texts :: more, u, ?_, writer'.trans writer, ?_, .cons shown shown'⟩
      · rw [bodyRows, run, bind_of_ok run']
        rfl
      · rw [grid', grid]
        rfl
    | _ => simp [Node.isPlainRow] at own

theorem checkRows_plain {header : Node} {rows : List Node}
    (plain : ∀ row ∈ header :: rows, row.isPlainRow = true) : checkRows header rows = .ok () := by
  have none_ : (header :: rows).find? (!isRow ·) = none := by
    rw [List.find?_eq_none]
    intro row m
    have own := plain row m
    cases row with
    | tableRow => simp [isRow]
    | _ => simp [Node.isPlainRow] at own
  simp [checkRows, none_]

/-- A table whose texts can be had writes the lines of the grid that they were measured for. -/
theorem table_done {header : Node} {rows : List Node} (rowsOnly : checkRows header rows = .ok ())
    {x : Render (List (List Char) × List (List (List Char)))} {s t : RenderState}
    (inactive : s.grid.active = false) {headerTexts : List (List Char)}
    {bodyTexts : List (List (List Char))}
    (run : x { s with grid := { s.grid with active := true } } = .ok (headerTexts, bodyTexts) t) :
    ∃ u, table header rows x s = .ok () u ∧ u.writer = t.writer.write
      (gridText (t.grid.align (header.children.map alignmentOf)) headerTexts bodyTexts) := by
  obtain ⟨journal, lines⟩ := tableLines_run headerTexts bodyTexts
    { t with grid := t.grid.align (header.children.map alignmentOf) }
  rw [table_run x rowsOnly inactive]
  have body := bind_of_ok run fun texts => writeTable header texts.1 texts.2
  dsimp only at body
  rw [writeTable_eq, modify_bind, lines] at body
  exact ⟨_, ensuring_modify_eq_ok.mpr ⟨_, body, rfl⟩, rfl⟩

/-- The grid that the lines of a table are written from. -/
def tableGrid (header : Node) (headerTexts : List (List Char))
    (bodyTexts : List (List (List Char))) : Grid :=
  (({ active := true } : Grid).measureRows (headerTexts :: bodyTexts)).align
    (header.children.map alignmentOf)

theorem table_plain_run {header : Node} {rows : List Node}
    (plain : ∀ row ∈ header :: rows, row.isPlainRow = true) {s : RenderState}
    (between : s.grid = {}) :
    ∃ headerTexts bodyTexts t, node settings (.table header rows) s = .ok () t ∧
      t.writer = s.writer.write
        (gridText (tableGrid header headerTexts bodyTexts) headerTexts bodyTexts) ∧
      IsRowTexts settings header headerTexts ∧
      List.Forall₂ (IsRowTexts settings) rows bodyTexts := by
  obtain ⟨headerTexts, t, run, writer, grid, shown⟩ := headerRow_run settings
    (plain header List.mem_cons_self)
    (s := { s with grid := { s.grid with active := true } }) rfl
  have active : t.grid.active = true := by rw [grid, (Grid.measureRow_fields _ _).2]
  obtain ⟨bodyTexts, u, run', writer', grid', shown'⟩ := bodyRows_run settings
    (fun row m => plain row (List.mem_cons_of_mem _ m)) active
  have texts : (do
      let headerTexts ← headerRow settings header
      let bodyTexts ← bodyRows settings rows
      return (headerTexts, bodyTexts)) { s with grid := { s.grid with active := true } } =
        .ok (headerTexts, bodyTexts) u := by
    rw [bind_of_ok run, bind_of_ok run']
    rfl
  obtain ⟨v, whole, lines⟩ := table_done (checkRows_plain plain) (by rw [between]) texts
  refine ⟨headerTexts, bodyTexts, v, ?_, ?_, shown, shown'⟩
  · rw [node]
    exact whole
  · rw [lines, grid', grid, writer', writer, between]
    rfl

theorem tableGrid_columns (header : Node) (headerTexts : List (List Char))
    (bodyTexts : List (List (List Char))) :
    (tableGrid header headerTexts bodyTexts).widths.length =
      ((headerTexts :: bodyTexts).map List.length).foldr max 0 :=
  (Grid.measureRows_columns _ _).trans (Nat.zero_max _)

/-- A column has the alignment of the header's cell there, and none beyond the header. -/
theorem tableGrid_alignments {header : Node} {headerTexts : List (List Char)}
    {bodyTexts : List (List (List Char))} {j : Nat} {alignment : Option Alignment}
    (h : (tableGrid header headerTexts bodyTexts).alignments[j]? = some alignment) :
    alignment = header.children[j]?.bind alignmentOf := by
  obtain ⟨unaligned, -⟩ := Grid.measureRows_fields { active := true } (headerTexts :: bodyTexts)
  simp only [tableGrid, Grid.align, unaligned, List.nil_append, List.getElem?_append,
    List.length_map] at h
  split at h
  · rename_i inside
    rw [List.getElem?_map, List.getElem?_eq_getElem inside] at h
    rw [List.getElem?_eq_getElem inside]
    exact (Option.some.inj h).symm
  · rename_i outside
    rw [List.getElem?_eq_none (Nat.le_of_not_lt outside)]
    exact List.eq_of_mem_replicate (List.mem_of_getElem? h)

end Render

/-- What has to be read in the column `j` of a row: the text of the cell there, as its content
prints by itself in a cell, or nothing where the row has no cell. -/
def RendererSettings.ShowsCell (settings : RendererSettings) (cells : List Node) (j : Nat)
    (piece : List Char) : Prop :=
  match cells[j]? with
  | some cell => ∃ text,
    (settings.renderInlines { inTableCell := some true } cell.children).1 = .ok text ∧
      Text.trim Text.isSpace piece = Text.trim Text.isSpace text.toList
  | none => Text.trim Text.isSpace piece = []

namespace Render

variable {settings : RendererSettings}

theorem tableGrid_aligned {header : Node} {headerTexts : List (List Char)}
    (shown : IsRowTexts settings header headerTexts) (bodyTexts : List (List (List Char))) :
    (tableGrid header headerTexts bodyTexts).alignments.length =
      (tableGrid header headerTexts bodyTexts).widths.length := by
  obtain ⟨unaligned, -⟩ := Grid.measureRows_fields { active := true } (headerTexts :: bodyTexts)
  have columns := tableGrid_columns header headerTexts bodyTexts
  have cells := shown.length_eq
  simp only [tableGrid, Grid.align] at columns
  simp only [tableGrid, Grid.align, unaligned, columns, List.nil_append, List.length_append,
    List.length_map, List.length_replicate, List.map_cons, List.foldr_cons]
  omega

theorem cellTexts_fitCells {cells : List Node} {texts : List (List Char)}
    (shown : List.Forall₂ (IsCellText settings) cells texts) :
    ∀ text ∈ texts, Markup.FitsCell text := by
  intro text m
  obtain ⟨cell, -, -, fits⟩ := forall₂_mem shown m
  exact fits

theorem cellsLine_isRow {cells : List Node} {texts : List (List Char)}
    (shown : List.Forall₂ (IsCellText settings) cells texts) (widths : List Nat)
    (alignments : List (Option Alignment)) :
    Markup.IsRow widths.length (settings.ShowsCell cells)
      (Grid.cellsLine widths alignments texts) := by
  have guarded text (m : text ∈ texts) := (cellTexts_fitCells shown text m).1
  refine ⟨Grid.cellPieces widths alignments texts, ?_, Grid.cellPieces_length _ _ _, ?_⟩
  · rw [Grid.cellsLine_eq]
    exact Markup.splitAtPipes_line fun piece m => Grid.cellPieces_guarded guarded m
  · intro j piece at_
    obtain ⟨before, after, rfl⟩ := Grid.cellPieces_getElem? at_
    unfold RendererSettings.ShowsCell
    rw [Text.trim_spaces]
    obtain ⟨noCell, noText⟩ | ⟨cell, text, here, there, alone, -⟩ := forall₂_getElem? shown j
    · rw [noCell, noText]
      rfl
    · rw [here, there]
      exact ⟨_, alone, by simp⟩

theorem delimiterLine_isRow {header : Node} {headerTexts : List (List Char)}
    (shown : IsRowTexts settings header headerTexts) (bodyTexts : List (List (List Char)))
    (named : ∀ cell ∈ header.children, ∀ name, alignmentOf cell ≠ some (.other name)) :
    Markup.IsRow (tableGrid header headerTexts bodyTexts).widths.length
      (fun j piece => Markup.readAlignment piece = header.children[j]?.bind alignmentOf)
      (tableGrid header headerTexts bodyTexts).delimiterLine := by
  refine ⟨List.zipWith Grid.delimiter (tableGrid header headerTexts bodyTexts).widths
    (tableGrid header headerTexts bodyTexts).alignments, ?_, ?_, ?_⟩
  · refine Markup.splitAtPipes_line fun piece m => ?_
    obtain ⟨j, hj, rfl⟩ := List.mem_iff_getElem.mp m
    rw [List.getElem_zipWith]
    exact Grid.delimiter_guarded _ _
  · simp [tableGrid_aligned shown]
  · intro j piece at_
    obtain ⟨width, alignment, -, here, rfl⟩ := List.getElem?_zipWith_eq_some.mp at_
    obtain rfl := tableGrid_alignments here
    refine Grid.readAlignment_delimiter width fun name other => ?_
    obtain ⟨cell, at_, other⟩ := Option.bind_eq_some_iff.mp other
    exact named cell (List.mem_of_getElem? at_) name other

end Render

/-- The largest number of cells in a row. -/
def Node.columns (rows : List Node) : Nat := (rows.map (·.children.length)).foldr max 0

theorem Render.tableGrid_widths {settings : RendererSettings} {header : Node} {rows : List Node}
    {headerTexts : List (List Char)} {bodyTexts : List (List (List Char))}
    (shown : IsRowTexts settings header headerTexts)
    (shown' : List.Forall₂ (IsRowTexts settings) rows bodyTexts) :
    (tableGrid header headerTexts bodyTexts).widths.length = Node.columns (header :: rows) := by
  have all : List.Forall₂ (IsRowTexts settings) (header :: rows) (headerTexts :: bodyTexts) :=
    .cons shown shown'
  have lengths : (header :: rows).map (·.children.length) =
      (headerTexts :: bodyTexts).map List.length := by
    rw [← List.forall₂_eq_eq_eq, List.forall₂_map_left_iff, List.forall₂_map_right_iff]
    exact all.imp fun _ _ row => row.length_eq
  rw [tableGrid_columns, Node.columns, lengths]

theorem Render.gridText_eq (grid : Grid) (headerTexts : List (List Char))
    (bodyTexts : List (List (List Char))) :
    gridText grid headerTexts bodyTexts ++ ['\n'] = Text.joinSegments
      (grid.headerLine headerTexts :: grid.delimiterLine :: bodyTexts.map grid.bodyLine ++
        [[]]) := by
  simp [gridText, Text.joinSegments_cons, List.flatMap_map]

/-- The lines of a table, one for each line end that is written. -/
theorem Render.segments_gridText {settings : RendererSettings} {header : Node} {rows : List Node}
    {headerTexts : List (List Char)} {bodyTexts : List (List (List Char))}
    (shown : IsRowTexts settings header headerTexts)
    (shown' : List.Forall₂ (IsRowTexts settings) rows bodyTexts) (grid : Grid) :
    Text.segments (gridText grid headerTexts bodyTexts ++ ['\n']) =
      grid.headerLine headerTexts :: grid.delimiterLine :: bodyTexts.map grid.bodyLine ++ [[]] := by
  have fits texts (m : texts ∈ bodyTexts) : ∀ text ∈ texts, '\n' ∉ text := by
    obtain ⟨row, -, cells⟩ := forall₂_mem shown' m
    exact fun text m => (cellTexts_fitCells cells text m).2
  rw [gridText_eq]
  refine Text.segments_joinSegments (fun line m => ?_) (by simp)
  simp only [List.mem_append, List.mem_cons, List.mem_map, List.not_mem_nil, or_false] at m
  obtain (rfl | rfl | ⟨texts, m, rfl⟩) | rfl := m
  · exact Grid.cellsLine_line _ _ fun text m => (cellTexts_fitCells shown text m).2
  · exact grid.delimiterLine_line
  · exact Grid.cellsLine_line _ _ (fits texts m)
  · simp

/-- A table by itself prints its lines, each with a line end. -/
theorem RendererSettings.render_plain_table (settings : RendererSettings) {header : Node}
    {rows : List Node} (plain : ∀ row ∈ header :: rows, row.isPlainRow = true) :
    ∃ out headerTexts bodyTexts,
      (settings.render (.document [.table header rows])).1 = .ok out ∧
      out.toList = Render.gridText (Render.tableGrid header headerTexts bodyTexts) headerTexts
        bodyTexts ++ ['\n'] ∧
      Render.IsRowTexts settings header headerTexts ∧
      List.Forall₂ (Render.IsRowTexts settings) rows bodyTexts := by
  obtain ⟨headerTexts, bodyTexts, t, run, writer, shown, shown'⟩ :=
    Render.table_plain_run settings plain (s := {}) rfl
  have printed : (t.writer.write ['\n']).out.toList =
      Render.gridText (Render.tableGrid header headerTexts bodyTexts) headerTexts bodyTexts ++
        ['\n'] := by
    rw [writer, ← Writer.write_append, (Writer.write_bare rfl (by simp)).1]
    rfl
  have pipe : (t.writer.write ['\n']).out.toList.all Text.isNewline = false := by
    rw [printed, Render.gridText, Grid.headerLine, Grid.cellsLine_eq]
    rfl
  have firm : (Node.table header rows).Firm := ⟨rfl, rfl, rfl, rfl⟩
  rw [← Render.allBlocks_single firm] at run
  refine ⟨(t.writer.write ['\n']).out, headerTexts, bodyTexts, ?_, printed, shown, shown'⟩
  rw [render_of_ok run, pipe]
  rfl

/-- **A table reads back.** Take a table by itself, whose rows may have different numbers of cells,
with text, code, spans and breaks in them, however nested, and with the header's alignments among
left, center, right and none. It prints as a header line, a delimiter line and a line for each row.
Each line, cut at the pipes that no backslash stands directly before, has as many cells as the
longest row; in the header line and the others these are the texts of the row's cells, up to spaces
around them and blank where the row has none, and the colons below the header give back its
alignments. -/
theorem RendererSettings.render_table_reads_back (settings : RendererSettings) (header : Node)
    (rows : List Node) (plain : ∀ row ∈ header :: rows, row.isPlainRow = true)
    (named : ∀ cell ∈ header.children, ∀ name, Render.alignmentOf cell ≠ some (.other name)) :
    let n := Node.columns (header :: rows)
    ∃ out headerLine delimiterLine bodyLines,
      (settings.render (.document [.table header rows])).1 = .ok out ∧
      Text.segments out.toList = headerLine :: delimiterLine :: bodyLines ++ [[]] ∧
      bodyLines.length = rows.length ∧
      Markup.IsRow n (settings.ShowsCell header.children) headerLine ∧
      Markup.IsRow n (fun j piece =>
        Markup.readAlignment piece = header.children[j]?.bind Render.alignmentOf) delimiterLine ∧
      List.Forall₂ (fun row line => Markup.IsRow n (settings.ShowsCell row.children) line)
        rows bodyLines := by
  intro n
  obtain ⟨out, headerTexts, bodyTexts, run, printed, shown, shown'⟩ :=
    settings.render_plain_table plain
  have columns : _ = n := Render.tableGrid_widths shown shown'
  have lines := Render.segments_gridText shown shown'
    (Render.tableGrid header headerTexts bodyTexts)
  rw [← printed] at lines
  refine ⟨out, _, _, _, run, lines, ?_, ?_, ?_, ?_⟩
  · rw [List.length_map, shown'.length_eq]
  · rw [← columns]
    exact Render.cellsLine_isRow shown _ _
  · rw [← columns]
    exact Render.delimiterLine_isRow shown bodyTexts named
  · rw [← columns, List.forall₂_map_right_iff]
    exact shown'.imp fun row texts cells => Render.cellsLine_isRow cells _ _

theorem RendererSettings.render_table_reads_back_ragged :
    let header := Node.tableRow [.tableCell [.text "a|b", .lineBreak true] (some .center),
      .tableCell [.code "x|y"] none] true
    let row := Node.tableRow [.tableCell [.strong [.emphasis [.text "\\|"]]] (some .left),
      .tableCell [] none, .tableCell [.strikethrough [.code "\\|"]] none] false
    ∃ out headerLine delimiterLine bodyLine,
      (({} : RendererSettings).render (.document [.table header [row]])).1 = .ok out ∧
      Text.segments out.toList = [headerLine, delimiterLine, bodyLine, []] ∧
      Markup.IsRow 3 (({} : RendererSettings).ShowsCell header.children) headerLine ∧
      Markup.IsRow 3 (fun j piece =>
        Markup.readAlignment piece = header.children[j]?.bind Render.alignmentOf) delimiterLine ∧
      Markup.IsRow 3 (({} : RendererSettings).ShowsCell row.children) bodyLine := by
  intro header row
  have plain : ∀ r ∈ [header, row], r.isPlainRow = true := by
    simp [header, row, Node.isPlainRow, Node.isPlainCell, Node.everyOf, Node.every,
      Node.isCellInline]
  have named : ∀ cell ∈ header.children, ∀ name,
      Render.alignmentOf cell ≠ some (.other name) := by
    simp [header, Node.children, Render.alignmentOf]
  obtain ⟨out, headerLine, delimiterLine, bodyLines, run, lines, length, first, below, rest⟩ :=
    render_table_reads_back {} header [row] plain named
  obtain _ | ⟨only, _ | _⟩ := rest
  exact ⟨out, headerLine, delimiterLine, _, run, lines, first, below, only⟩

end MarkdownCanon

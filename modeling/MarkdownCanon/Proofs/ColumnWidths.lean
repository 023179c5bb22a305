import Mathlib.Algebra.Ring.Nat
import MarkdownCanon.Proofs.Acceptance
import MarkdownCanon.Proofs.TableReading

/-! The columns of a table. In the first pass each column comes to be as wide as its widest text,
and in the second every text is filled up to its column with the spaces that it lacks. Neither pass
minds how the width of a text is found, so that all of this is told for any measure of it. -/

namespace MarkdownCanon

namespace Grid

section

variable (cells : List Char → Nat)

/-- `measureFrom` with another measure. -/
def measureFromBy (grid : Grid) (column : Nat) : List (List Char) → Grid
  | [] => grid
  | text :: rest => (grid.measure column (cells text)).measureFromBy (column + 1) rest

/-- `measureRows` with another measure. -/
def measureRowsBy (grid : Grid) (rows : List (List (List Char))) : Grid :=
  rows.foldl (fun grid texts => grid.measureFromBy cells 0 texts) grid

/-- The grid of a table once its rows have been measured. -/
def measuredBy (rows : List (List (List Char))) : Grid :=
  measureRowsBy cells { active := true } rows

/-- `pad` with another measure. -/
def padBy (text : List Char) (width : Nat) (alignment : Option Alignment) : List Char :=
  let space := width - cells text
  match alignment with
  | some .right => List.replicate space ' ' ++ text
  | some .center =>
    List.replicate (space / 2) ' ' ++ text ++ List.replicate (space - space / 2) ' '
  | _ => text ++ List.replicate space ' '

/-- `cellsLine` with another measure. -/
def cellsLineBy : List Nat → List (Option Alignment) → List (List Char) → List Char
  | [], _, _ => ['|']
  | width :: widths, alignments, texts =>
    '|' :: ' ' :: padBy cells (texts.headD []) width (alignments.headD none) ++
      ' ' :: cellsLineBy widths alignments.tail texts.tail

/-- The lines of a table: that of the header, the one below it, and those of the other rows. -/
def linesBy (alignments : List (Option Alignment)) (headerTexts : List (List Char))
    (bodyTexts : List (List (List Char))) : List (List Char) :=
  let grid := (measuredBy cells (headerTexts :: bodyTexts)).align alignments
  cellsLineBy cells grid.widths [] headerTexts :: grid.delimiterLine ::
    bodyTexts.map (cellsLineBy cells grid.widths grid.alignments)

/-- The number of columns, which is the largest number of texts in a row. -/
def columnCount (rows : List (List (List Char))) : Nat := (rows.map List.length).foldr max 0

/-- The width of a column: that of the widest text in it, and at least one. -/
def columnWidth (rows : List (List (List Char))) (j : Nat) : Nat :=
  ((rows.filterMap (·[j]?)).map cells).foldr max 1

end

theorem measureFromBy_cells (grid : Grid) (column : Nat) (texts : List (List Char)) :
    grid.measureFromBy Text.cells column texts = grid.measureFrom column texts := by
  induction texts generalizing grid column with
  | nil => rfl
  | cons text rest ih => rw [measureFromBy, measureFrom, ih]

theorem measureRowsBy_cells (grid : Grid) (rows : List (List (List Char))) :
    grid.measureRowsBy Text.cells rows = grid.measureRows rows := by
  simp only [measureRowsBy, measureRows, measureFromBy_cells]
  rfl

theorem cellsLineBy_cells (widths : List Nat) (alignments : List (Option Alignment))
    (texts : List (List Char)) :
    cellsLineBy Text.cells widths alignments texts = cellsLine widths alignments texts := by
  induction widths generalizing alignments texts with
  | nil => rfl
  | cons width widths ih =>
    rw [cellsLineBy, cellsLine, ih]
    rfl

variable {cells : List Char → Nat}

/-- Widening a column leaves the others as they are; one that is not there counts as one wide. -/
theorem widen_getD (width column : Nat) (widths : List Nat) (j : Nat) :
    (widen width column widths)[j]?.getD 1 =
      if j = column then max (widths[j]?.getD 1) width else widths[j]?.getD 1 := by
  fun_induction widen width column widths generalizing j with
  | case1 | case2 => cases j <;> simp
  | case3 column ih | case4 column w rest ih =>
    cases j with
    | zero => simp
    | succ j => simpa using ih j

/-- A row widens each of its columns to the text that it has there. -/
theorem measureFromBy_getD (grid : Grid) (column : Nat) (texts : List (List Char)) (j : Nat) :
    (grid.measureFromBy cells column texts).widths[j]?.getD 1 =
      if j < column then grid.widths[j]?.getD 1
      else max (grid.widths[j]?.getD 1) ((texts[j - column]?.map cells).getD 0) := by
  induction texts generalizing grid column with
  | nil => simp [measureFromBy]
  | cons text rest ih =>
    have own := widen_getD (cells text) column grid.widths j
    rw [measureFromBy, ih, measure, own]
    obtain before | rfl | after := Nat.lt_trichotomy j column
    · simp [before, Nat.lt_succ_of_lt before, Nat.ne_of_lt before]
    · simp
    · have index : j - column = j - (column + 1) + 1 := by omega
      rw [if_neg (by omega), if_neg (by omega), if_neg (by omega), index, List.getElem?_cons_succ]

/-- How many columns there are is not for the measure to say. -/
theorem measureFromBy_length {grid grid' : Grid} (h : grid.widths.length = grid'.widths.length)
    (column : Nat) (texts : List (List Char)) :
    (grid.measureFromBy cells column texts).widths.length =
      (grid'.measureFrom column texts).widths.length := by
  induction texts generalizing grid grid' column with
  | nil => exact h
  | cons text rest ih =>
    rw [measureFromBy, measureFrom]
    apply ih
    rw [measure, measure, widen_length, widen_length, h]

theorem measureRowsBy_length {grid grid' : Grid} (h : grid.widths.length = grid'.widths.length)
    (rows : List (List (List Char))) :
    (grid.measureRowsBy cells rows).widths.length = (grid'.measureRows rows).widths.length := by
  induction rows generalizing grid grid' with
  | nil => exact h
  | cons row rows ih => exact ih (measureFromBy_length h 0 row)

theorem measureRowsBy_getD (grid : Grid) (rows : List (List (List Char))) (j : Nat) :
    (grid.measureRowsBy cells rows).widths[j]?.getD 1 =
      ((rows.filterMap (·[j]?)).map cells).foldr max (grid.widths[j]?.getD 1) := by
  induction rows generalizing grid with
  | nil => rfl
  | cons row rows ih =>
    rw [measureRowsBy, List.foldl_cons, ← measureRowsBy, ih, measureFromBy_getD, if_neg (by simp),
      Nat.sub_zero, List.foldr_assoc]
    cases here : row[j]? with
    | none => simp [here]
    | some text => simp [here, Nat.max_comm]

/-- The measured widths are those of the columns. -/
theorem measuredBy_widths (rows : List (List (List Char))) :
    (measuredBy cells rows).widths =
      (List.range (columnCount rows)).map (columnWidth cells rows) := by
  have length : (measuredBy cells rows).widths.length = columnCount rows := by
    rw [measuredBy, measureRowsBy_length rfl, measureRows_columns]
    exact Nat.zero_max _
  refine List.ext_getElem (by simp [length]) fun j inside _ => ?_
  have width : (measuredBy cells rows).widths[j]?.getD 1 = columnWidth cells rows j :=
    measureRowsBy_getD _ rows j
  rw [List.getElem?_eq_getElem inside, Option.getD_some] at width
  simpa using width

theorem columnWidth_pos (rows : List (List (List Char))) (j : Nat) :
    1 ≤ columnWidth cells rows j := by
  unfold columnWidth
  induction (rows.filterMap (·[j]?)).map cells with
  | nil => exact Nat.le_refl 1
  | cons width widths ih => exact Nat.le_trans ih (Nat.le_max_right _ _)

/-- A column has room for each of its texts. -/
theorem le_columnWidth {rows : List (List (List Char))} {row : List (List Char)} (m : row ∈ rows)
    {j : Nat} {text : List Char} (here : row[j]? = some text) :
    cells text ≤ columnWidth cells rows j := by
  have member : cells text ∈ (rows.filterMap (·[j]?)).map cells :=
    List.mem_map.mpr ⟨text, List.mem_filterMap.mpr ⟨row, m, here⟩, rfl⟩
  unfold columnWidth
  generalize (rows.filterMap (·[j]?)).map cells = widths at member
  induction widths with
  | nil => cases member
  | cons width widths ih =>
    obtain rfl | member := List.mem_cons.mp member
    · exact Nat.le_max_left _ _
    · exact Nat.le_trans (ih member) (Nat.le_max_right _ _)

theorem measureRowsBy_alignments (grid : Grid) (rows : List (List (List Char))) :
    (grid.measureRowsBy cells rows).alignments = grid.alignments := by
  have row (grid : Grid) (column : Nat) (texts : List (List Char)) :
      (grid.measureFromBy cells column texts).alignments = grid.alignments := by
    induction texts generalizing grid column with
    | nil => rfl
    | cons text rest ih => exact ih _ _
  induction rows generalizing grid with
  | nil => rfl
  | cons texts rows ih => exact (ih _).trans (row _ _ _)

theorem align_alignments (grid : Grid) (unaligned : grid.alignments = [])
    {alignments : List (Option Alignment)} (inside : alignments.length ≤ grid.widths.length) :
    (grid.align alignments).alignments =
      (List.range grid.widths.length).map fun j => alignments[j]?.getD none := by
  have length : (grid.align alignments).alignments.length = grid.widths.length := by
    simp only [align, unaligned, List.nil_append, List.length_append, List.length_replicate]
    omega
  refine List.ext_getElem (by simp [length]) fun j _ _ => ?_
  simp only [align, unaligned, List.nil_append, List.getElem_append, List.getElem_map,
    List.getElem_range]
  split
  · rename_i here
    simp [here]
  · rename_i beyond
    simp [Nat.le_of_not_lt beyond]

/-- How a text is filled up to its column: with `left` spaces before it and `right` ones behind. -/
structure Fills (cells : List Char → Nat) (width : Nat) (alignment : Option Alignment)
    (text : List Char) (left right : Nat) : Prop where
  total : left + right = width - cells text
  side : match alignment with
    | some .right => right = 0
    | some .center => left = (left + right) / 2
    | _ => left = 0

theorem padBy_fills (cells : List Char → Nat) (text : List Char) (width : Nat)
    (alignment : Option Alignment) :
    ∃ left right, Fills cells width alignment text left right ∧
      padBy cells text width alignment =
        List.replicate left ' ' ++ text ++ List.replicate right ' ' := by
  let space := width - cells text
  match alignment with
  | some .right => exact ⟨space, 0, ⟨rfl, rfl⟩, by simp [padBy, space]⟩
  | some .center =>
    have halves : space / 2 + (space - space / 2) = space := by omega
    exact ⟨space / 2, space - space / 2, ⟨halves, by simp only [halves]⟩, rfl⟩
  | none | some .left | some (.other _) =>
    exact ⟨0, space, ⟨Nat.zero_add _, rfl⟩, by simp [padBy, space]⟩

/-- One cell of a line. -/
def segment (left right : Nat) (text : List Char) : List Char :=
  ['|', ' '] ++ List.replicate left ' ' ++ text ++ List.replicate right ' ' ++ [' ']

/-- A line of `n` cells, each filled up to its column. A text that the row lacks is empty. -/
def IsFilled (cells : List Char → Nat) (n : Nat) (width : Nat → Nat)
    (alignment : Nat → Option Alignment) (texts : List (List Char)) (line : List Char) : Prop :=
  ∃ left right : Nat → Nat,
    line = (List.range n).flatMap (fun j => segment (left j) (right j) (texts[j]?.getD [])) ++
      ['|'] ∧
    ∀ j < n, Fills cells (width j) (alignment j) (texts[j]?.getD []) (left j) (right j)

theorem cellsLineBy_isFilled (cells : List Char → Nat) (widths : List Nat)
    (alignments : List (Option Alignment)) (texts : List (List Char)) :
    IsFilled cells widths.length (fun j => widths[j]?.getD 0) (fun j => alignments[j]?.getD none)
      texts (cellsLineBy cells widths alignments texts) := by
  induction widths generalizing alignments texts with
  | nil => exact ⟨fun _ => 0, fun _ => 0, rfl, by simp⟩
  | cons width widths ih =>
    have first : texts.headD [] = texts[0]?.getD [] := by cases texts <;> rfl
    have aligned : alignments.headD none = alignments[0]?.getD none := by cases alignments <;> rfl
    obtain ⟨l, r, fills, padded⟩ :=
      padBy_fills cells (texts.headD []) width (alignments.headD none)
    obtain ⟨left, right, line, rest⟩ := ih alignments.tail texts.tail
    refine ⟨fun j => if j = 0 then l else left (j - 1), fun j => if j = 0 then r else right (j - 1),
      ?_, fun j inside => ?_⟩
    · rw [cellsLineBy, line, padded, first, List.length_cons, List.range_succ_eq_map,
        List.flatMap_cons, List.flatMap_map]
      simp [segment]
    · cases j with
      | zero => simpa [← first, ← aligned] using fills
      | succ j => simpa using rest j (by simpa using inside)

theorem cellsLineBy_columns (cells : List Char → Nat) (n : Nat) (width : Nat → Nat)
    (alignments : List (Option Alignment)) (texts : List (List Char)) :
    IsFilled cells n width (fun j => alignments[j]?.getD none) texts
      (cellsLineBy cells ((List.range n).map width) alignments texts) := by
  obtain ⟨left, right, line, fills⟩ :=
    cellsLineBy_isFilled cells ((List.range n).map width) alignments texts
  rw [List.length_map, List.length_range] at line fills
  refine ⟨left, right, line, fun j inside => ?_⟩
  simpa [inside] using fills j inside

theorem delimiterLine_columns {grid : Grid} {n : Nat} {width : Nat → Nat}
    {alignment : Nat → Option Alignment} (widths : grid.widths = (List.range n).map width)
    (alignments : grid.alignments = (List.range n).map alignment) :
    grid.delimiterLine =
      '|' :: (List.range n).flatMap fun j => delimiter (width j) (alignment j) ++ ['|'] := by
  rw [delimiterLine, widths, alignments, List.zipWith_map, List.zipWith_self, List.flatMap_map]

theorem delimiter_eq (width : Nat) (alignment : Option Alignment) :
    ∃ left right : Char, left.toNat < 128 ∧ right.toNat < 128 ∧
      delimiter width alignment = [left] ++ List.replicate width '-' ++ [right] := by
  match alignment with
  | none | some .left | some .center | some .right => exact ⟨_, _, by decide, by decide, rfl⟩
  | some (.other _) => exact ⟨'-', '-', by decide, by decide, rfl⟩

theorem delimiter_length (width : Nat) (alignment : Option Alignment) :
    (delimiter width alignment).length = width + 2 := by
  obtain ⟨left, right, -, -, whole⟩ := delimiter_eq width alignment
  simp [whole]

/-- A measure that adds up, with one for each character of ASCII. -/
structure Additive (cells : List Char → Nat) : Prop where
  append : ∀ a b, cells (a ++ b) = cells a + cells b
  ascii : ∀ c : Char, c.toNat < 128 → cells [c] = 1

namespace Additive

variable (additive : Additive cells)

include additive

theorem nil : cells [] = 0 := by
  have twice := additive.append [] []
  rw [List.append_nil] at twice
  omega

theorem cons (c : Char) (cs : List Char) : cells (c :: cs) = cells [c] + cells cs :=
  additive.append [c] cs

theorem replicate {c : Char} (ascii : c.toNat < 128) (n : Nat) :
    cells (List.replicate n c) = n := by
  induction n with
  | zero => exact additive.nil
  | succ n ih => rw [List.replicate_succ, additive.cons, additive.ascii c ascii, ih, Nat.add_comm]

theorem flatMap {α : Type} (f : α → List Char) (as : List α) :
    cells (as.flatMap f) = (as.map fun a => cells (f a)).sum := by
  induction as with
  | nil => exact additive.nil
  | cons a as ih => rw [List.flatMap_cons, additive.append, ih, List.map_cons, List.sum_cons]

theorem segment (left right : Nat) (text : List Char) :
    cells (segment left right text) = left + cells text + right + 3 := by
  have space := additive.ascii ' ' (by decide)
  have opening : cells ['|', ' '] = 2 := by
    rw [additive.cons, additive.ascii '|' (by decide), space]
  rw [Grid.segment, additive.append, additive.append, additive.append, additive.append,
    additive.replicate (by decide), additive.replicate (by decide), opening, space]
  omega

/-- A filled line is as wide as its columns and what stands between them. -/
theorem filled {n : Nat} {width : Nat → Nat} {alignment : Nat → Option Alignment}
    {texts : List (List Char)} {line : List Char} (h : IsFilled cells n width alignment texts line)
    (room : ∀ j < n, cells (texts[j]?.getD []) ≤ width j) :
    cells line = ((List.range n).map fun j => width j + 3).sum + 1 := by
  obtain ⟨left, right, rfl, fills⟩ := h
  rw [additive.append, additive.flatMap, additive.ascii '|' (by decide)]
  congr 2
  refine List.map_congr_left fun j m => ?_
  have inside := List.mem_range.mp m
  have total := (fills j inside).total
  have fits := room j inside
  rw [additive.segment]
  omega

theorem delimiter (width : Nat) (alignment : Option Alignment) :
    cells (delimiter width alignment) = width + 2 := by
  obtain ⟨left, right, first, last, whole⟩ := delimiter_eq width alignment
  rw [whole, additive.append, additive.append, additive.ascii left first,
    additive.ascii right last, additive.replicate (by decide)]
  omega

theorem delimiters (n : Nat) (width : Nat → Nat) (alignment : Nat → Option Alignment) :
    cells ('|' :: (List.range n).flatMap
        fun j => Grid.delimiter (width j) (alignment j) ++ ['|']) =
      ((List.range n).map fun j => width j + 3).sum + 1 := by
  have pipe := additive.ascii '|' (by decide)
  rw [additive.cons, additive.flatMap, pipe, Nat.add_comm]
  congr 2
  refine List.map_congr_left fun j _ => ?_
  rw [additive.append, additive.delimiter, pipe]

end Additive

/-- What the two passes make of the texts of a table. -/
structure FillsColumns (cells : List Char → Nat) (alignments : List (Option Alignment))
    (headerTexts : List (List Char)) (bodyTexts : List (List (List Char))) : Prop where
  /-- The measured widths are those of the columns. -/
  widths : (measuredBy cells (headerTexts :: bodyTexts)).widths =
    (List.range (columnCount (headerTexts :: bodyTexts))).map
      (columnWidth cells (headerTexts :: bodyTexts))
  /-- No text is too wide for its column. -/
  room : ∀ texts ∈ headerTexts :: bodyTexts, ∀ j, j < texts.length ∨ cells [] ≤ 1 →
    cells (texts[j]?.getD []) ≤ columnWidth cells (headerTexts :: bodyTexts) j
  /-- Every line has all the columns. The header's texts are not aligned, and the others are aligned
  as the header's cell in their column. -/
  lines :
    let n := columnCount (headerTexts :: bodyTexts)
    let width := columnWidth cells (headerTexts :: bodyTexts)
    let alignment (j : Nat) := alignments[j]?.getD none
    ∃ headerLine delimiterLine bodyLines,
      linesBy cells alignments headerTexts bodyTexts = headerLine :: delimiterLine :: bodyLines ∧
      IsFilled cells n width (fun _ => none) headerTexts headerLine ∧
      delimiterLine = '|' :: (List.range n).flatMap
        (fun j => delimiter (width j) (alignment j) ++ ['|']) ∧
      (∀ j < n, (delimiter (width j) (alignment j)).length = width j + 2) ∧
      List.Forall₂ (IsFilled cells n width alignment) bodyTexts bodyLines
  /-- If the measure adds up, all lines are equally wide. -/
  even : Additive cells → ∀ line ∈ linesBy cells alignments headerTexts bodyTexts,
    cells line = ((List.range (columnCount (headerTexts :: bodyTexts))).map
      fun j => columnWidth cells (headerTexts :: bodyTexts) j + 3).sum + 1

theorem columnWidth_room {rows : List (List (List Char))} {texts : List (List Char)}
    (m : texts ∈ rows) {j : Nat} (given : j < texts.length ∨ cells [] ≤ 1) :
    cells (texts[j]?.getD []) ≤ columnWidth cells rows j := by
  cases here : texts[j]? with
  | some text => exact le_columnWidth m here
  | none =>
    have beyond := List.getElem?_eq_none_iff.mp here
    obtain inside | empty := given
    · omega
    · exact Nat.le_trans empty (columnWidth_pos rows j)

theorem fillsColumns (cells : List Char → Nat) {alignments : List (Option Alignment)}
    {headerTexts : List (List Char)} (header : alignments.length = headerTexts.length)
    (bodyTexts : List (List (List Char))) :
    FillsColumns cells alignments headerTexts bodyTexts := by
  let rows := headerTexts :: bodyTexts
  let n := columnCount rows
  let width := columnWidth cells rows
  let alignment (j : Nat) := alignments[j]?.getD none
  have widths : (measuredBy cells rows).widths = (List.range n).map width := measuredBy_widths rows
  have inside : alignments.length ≤ (measuredBy cells rows).widths.length := by
    rw [widths, List.length_map, List.length_range, header]
    exact Nat.le_max_left _ _
  have aligned := align_alignments (measuredBy cells rows)
    (measureRowsBy_alignments { active := true } rows) inside
  rw [widths, List.length_map, List.length_range] at aligned
  have lines : linesBy cells alignments headerTexts bodyTexts =
      cellsLineBy cells ((List.range n).map width) [] headerTexts ::
      ('|' :: (List.range n).flatMap fun j => delimiter (width j) (alignment j) ++ ['|']) ::
      bodyTexts.map (cellsLineBy cells ((List.range n).map width)
        ((List.range n).map alignment)) := by
    have kept : ((measuredBy cells rows).align alignments).widths = (List.range n).map width :=
      widths
    rw [linesBy, delimiterLine_columns kept aligned, aligned, kept]
  have first : IsFilled cells n width (fun _ => none) headerTexts
      (cellsLineBy cells ((List.range n).map width) [] headerTexts) :=
    cellsLineBy_columns cells n width [] headerTexts
  have others texts : IsFilled cells n width alignment texts
      (cellsLineBy cells ((List.range n).map width) ((List.range n).map alignment) texts) := by
    obtain ⟨left, right, line, fills⟩ :=
      cellsLineBy_columns cells n width ((List.range n).map alignment) texts
    refine ⟨left, right, line, fun j inside => ?_⟩
    simpa [inside] using fills j inside
  refine ⟨widths, fun texts m j given => columnWidth_room m given, ?_, fun additive line m => ?_⟩
  · refine ⟨_, _, _, lines, first, rfl, fun j _ => delimiter_length _ _, ?_⟩
    rw [List.forall₂_map_right_iff]
    exact List.forall₂_same.mpr fun texts _ => others texts
  · have room {texts} (m : texts ∈ rows) (j : Nat) (_ : j < n) :
        cells (texts[j]?.getD []) ≤ width j :=
      columnWidth_room m (.inr (by simp [additive.nil]))
    rw [lines, List.mem_cons, List.mem_cons, List.mem_map] at m
    obtain rfl | rfl | ⟨texts, member, rfl⟩ := m
    · exact additive.filled first (room List.mem_cons_self)
    · exact additive.delimiters n width alignment
    · exact additive.filled (others texts) (room (List.mem_cons_of_mem _ member))

end Grid

namespace Render

variable (settings : RendererSettings)

/-- The text of a cell, printed aside. Inline content prints what it does by itself. -/
def PrintsCell (cell : Node) (text : List Char) : Prop :=
  (∃ s t, scratch { inTableCell := some true } (inlines settings cell.children) s = .ok text t) ∧
    (Node.everyOf (fun n => n.isInline && !n.isTextless) cell.children = true →
      (settings.renderInlines { inTableCell := some true } cell.children).1 =
        .ok (String.ofList text))

theorem printsCell_of_run {cell : Node} {text : List Char} {s t : RenderState}
    (run : scratch { inTableCell := some true } (inlines settings cell.children) s = .ok text t) :
    PrintsCell settings cell text := by
  refine ⟨⟨s, t, run⟩, fun inline => ?_⟩
  have pairing : Pairing true true fun a a' => a' = a ∧ True :=
    .same trivial (fun _ _ => trivial) (fun _ => trivial) fun _ _ _ _ _ => trivial
  have pairs : ∀ c ∈ cell.children, c.AllPairs true true fun a a' => a' = a ∧ True := by
    intro c m k inside
    have own := Node.every_within (Node.everyOf_mem inline m) inside
    cases k with
    | textless _ => simp [Node.isTextless] at own
    | text | emphasis | strong | strikethrough => trivial
    | code | link | image | autolink | htmlInline => exact ⟨rfl, trivial⟩
    | lineBreak => exact ⟨rfl, rfl, rfl, trivial⟩
    | _ => simp [Node.isInline] at own
  obtain ⟨_, _, _, t', run', alone, rfl, -⟩ := scratch_both pairing settings pairs s {}
    { inTableCell := some true } { inTableCell := some true } rfl rfl rfl
  cases run.symm.trans run'
  simp only [RendererSettings.renderInlines, alone]

/-- Cells are printed aside, one after the other, and the grid is none of their concern. -/
theorem cellTexts_done {cells : List Node} {texts : List (List Char)} {s t : RenderState}
    (ready : s.grid.Ready) (run : cellTexts settings cells s = .ok texts t) :
    t.writer = s.writer ∧ t.grid = s.grid ∧ List.Forall₂ (PrintsCell settings) cells texts := by
  induction cells generalizing s texts with
  | nil =>
    rw [cellTexts] at run
    cases run
    exact ⟨rfl, rfl, .nil⟩
  | cons cell rest ih =>
    cases cell with
    | tableCell content alignment =>
      rw [cellTexts] at run
      obtain ⟨text, u, aside, run⟩ := bind_eq_ok.mp run
      obtain ⟨more, v, others, last⟩ := bind_eq_ok.mp run
      cases last
      have kept := (((inlines_balanced settings content).scratch _).done ready aside).1
      obtain ⟨writer, grid, shown⟩ := ih (kept.grid ▸ ready) others
      have own : PrintsCell settings (.tableCell content alignment) text :=
        printsCell_of_run settings aside
      obtain ⟨w, -, -, rfl⟩ := scratch_eq_ok.mp aside
      exact ⟨writer, grid.trans kept.grid, .cons own shown⟩
    | _ => simp [cellTexts] at run

/-- The texts of the cells of a row. -/
def PrintsRowCells (row : Node) (texts : List (List Char)) : Prop :=
  List.Forall₂ (PrintsCell settings) row.children texts

theorem row_done {β : Type} {cells : List Node} (isHeader : Bool) {f : List (List Char) → Render β}
    {b : β} {s t : RenderState} (active : s.grid.active = true)
    (run : (do let texts ← cellTexts settings cells; measureRow texts; f texts) s = .ok b t) :
    ∃ texts u, f texts u = .ok b t ∧ u.writer = s.writer ∧ u.grid = s.grid.measureRow texts ∧
      PrintsRowCells settings (.tableRow cells isHeader) texts := by
  obtain ⟨texts, u, aside, run⟩ := bind_eq_ok.mp run
  obtain ⟨writer, grid, shown⟩ := cellTexts_done settings (.inl active) aside
  exact ⟨texts, { u with grid := u.grid.measureRow texts }, run, writer, by rw [grid], shown⟩

theorem headerRow_done {header : Node} {texts : List (List Char)} {s t : RenderState}
    (active : s.grid.active = true) (run : headerRow settings header s = .ok texts t) :
    t.writer = s.writer ∧ t.grid = s.grid.measureRow texts ∧
      PrintsRowCells settings header texts := by
  cases header with
  | tableRow cells isHeader =>
    rw [headerRow] at run
    obtain ⟨_, u, last, rest⟩ := row_done settings isHeader active run
    cases last
    exact rest
  | _ => simp [headerRow] at run

theorem bodyRows_done {rows : List Node} {texts : List (List (List Char))} {s t : RenderState}
    (active : s.grid.active = true) (run : bodyRows settings rows s = .ok texts t) :
    t.writer = s.writer ∧ t.grid = s.grid.measureRows texts ∧
      List.Forall₂ (PrintsRowCells settings) rows texts := by
  induction rows generalizing s texts with
  | nil =>
    rw [bodyRows] at run
    cases run
    exact ⟨rfl, rfl, .nil⟩
  | cons row rest ih =>
    cases row with
    | tableRow cells isHeader =>
      rw [bodyRows] at run
      obtain ⟨first, u, run, writer, grid, shown⟩ := row_done settings isHeader active run
      obtain ⟨more, v, others, last⟩ := bind_eq_ok.mp run
      cases last
      have active' : u.grid.active = true := by
        rw [grid, (Grid.measureRow_fields _ _).2, active]
      obtain ⟨writer', grid', shown'⟩ := ih active' others
      refine ⟨writer'.trans writer, ?_, .cons shown shown'⟩
      rw [grid', grid]
      rfl
    | _ => simp [bodyRows] at run

theorem Judged.succeeds {α : Type} {shape : Bool → Bool → Prop} {texts : Prop} {x : Render α}
    (hx : Judged shape texts x) {s : RenderState} (ready : s.grid.Ready)
    (shaped : shape s.inList s.grid.active) (held : texts) : ∃ a t, x s = .ok a t := by
  cases run : x s with
  | ok a t => exact ⟨a, t, rfl⟩
  | error e t =>
    have reason := hx.failed ready run
    cases e with
    | shape _ => exact absurd shaped reason
    | absent _ => exact absurd held reason
    | writer _ => exact reason.elim

/-- A well-shaped table is measured and then written. -/
theorem table_measured {header : Node} {rows : List Node} {s : RenderState} (between : s.grid = {})
    (shaped : (Node.table header rows).wellShaped s.inList false = true)
    (held : (Node.table header rows).HoldsTexts) :
    ∃ headerTexts bodyTexts u v t,
      headerRow settings header { s with grid := { s.grid with active := true } } =
        .ok headerTexts u ∧
      bodyRows settings rows u = .ok bodyTexts v ∧
      v.grid = Grid.measureRows { active := true } (headerTexts :: bodyTexts) ∧
      node settings (.table header rows) s = .ok () t ∧
      t.writer = s.writer.write
        (gridText (tableGrid header headerTexts bodyTexts) headerTexts bodyTexts) ∧
      List.Forall₂ (PrintsRowCells settings) (header :: rows) (headerTexts :: bodyTexts) := by
  have open_ : (Node.table header rows).wellShaped s.inList s.grid.active = true := by
    rwa [between]
  obtain ⟨_, t, run⟩ :=
    (node_judged settings (.table header rows)).succeeds (.inr between) open_ held
  have rowsOnly : checkRows header rows = .ok () := by
    simp only [Node.wellShaped, Bool.and_eq_true] at shaped
    exact Node.checkRows_of_wellShaped shaped.1.2 shaped.2
  -- That the table is printed is known from its shape; from which texts is read off the run.
  have ran := run
  rw [node, table_run _ rowsOnly (by rw [between])] at ran
  obtain ⟨_, body, -⟩ := ensuring_modify_eq_ok.mp ran
  obtain ⟨⟨headerTexts, bodyTexts⟩, v, texts, -⟩ := bind_eq_ok.mp body
  obtain ⟨_, whole, writer⟩ := table_done rowsOnly (by rw [between]) texts
  rw [node] at run
  cases whole.symm.trans run
  obtain ⟨_, u, first, texts⟩ := bind_eq_ok.mp texts
  obtain ⟨_, _, others, last⟩ := bind_eq_ok.mp texts
  cases last
  obtain ⟨writer', grid, shown⟩ := headerRow_done settings rfl first
  have active : u.grid.active = true := by rw [grid, (Grid.measureRow_fields _ _).2]
  obtain ⟨writer'', grid', shown'⟩ := bodyRows_done settings active others
  have measured : v.grid = Grid.measureRows { active := true } (headerTexts :: bodyTexts) := by
    rw [grid', grid, between]
    rfl
  refine ⟨headerTexts, bodyTexts, u, v, t, first, others, measured, ?_, ?_, .cons shown shown'⟩
  · rw [node]
    exact run
  · rw [writer, measured, writer'', writer']
    rfl

theorem gridText_eq_linesBy (header : Node) (headerTexts : List (List Char))
    (bodyTexts : List (List (List Char))) :
    gridText (tableGrid header headerTexts bodyTexts) headerTexts bodyTexts =
      Text.joinSegments (Grid.linesBy Text.cells (header.children.map alignmentOf) headerTexts
        bodyTexts) := by
  rw [Grid.linesBy, Grid.measuredBy, Grid.measureRowsBy_cells, ← tableGrid]
  simp only [Grid.cellsLineBy_cells, Text.joinSegments_cons, gridText, Grid.headerLine,
    Grid.bodyLine, List.flatMap_cons, List.flatMap_map, List.append_assoc, List.cons_append]

end Render

/-- **Columns are filled exactly.** A well-shaped table, whose rows may have different numbers of
cells, is printed line by line. For any measure of texts, the measured widths are those of the
widest texts, and at least one; every line has all the columns, with each text filled up to the
width of its column on the sides that its alignment leaves free; and where the measure adds up, all
lines are equally wide. -/
theorem Render.table_fills_columns (settings : RendererSettings) {header : Node} {rows : List Node}
    {s : RenderState} (between : s.grid = {})
    (shaped : (Node.table header rows).wellShaped s.inList false = true)
    (held : (Node.table header rows).HoldsTexts) :
    let alignments := header.children.map alignmentOf
    ∃ headerTexts bodyTexts u v t,
      headerRow settings header { s with grid := { s.grid with active := true } } =
        .ok headerTexts u ∧
      bodyRows settings rows u = .ok bodyTexts v ∧
      List.Forall₂ (PrintsRowCells settings) (header :: rows) (headerTexts :: bodyTexts) ∧
      v.grid.widths = (Grid.measuredBy Text.cells (headerTexts :: bodyTexts)).widths ∧
      node settings (.table header rows) s = .ok () t ∧
      t.writer = s.writer.write (Text.joinSegments
        (Grid.linesBy Text.cells alignments headerTexts bodyTexts)) ∧
      ∀ cells, Grid.FillsColumns cells alignments headerTexts bodyTexts := by
  intro alignments
  obtain ⟨headerTexts, bodyTexts, u, v, t, first, others, grid, run, writer, shown⟩ :=
    table_measured settings between shaped held
  have length : alignments.length = headerTexts.length := by
    cases shown with
    | cons own _ => simpa [alignments] using own.length_eq
  refine ⟨headerTexts, bodyTexts, u, v, t, first, others, shown, ?_, run, ?_, fun cells => ?_⟩
  · rw [grid, Grid.measuredBy, Grid.measureRowsBy_cells]
  · rw [writer, gridText_eq_linesBy]
  · exact Grid.fillsColumns cells length bodyTexts

/-- A row that is longer than the header, and one that is shorter and has a wide character. -/
theorem Render.table_fills_columns_ragged :
    let header := Node.tableRow [.tableCell [.text "a"] (some .center),
      .tableCell [.code "x|y"] (some .right)] true
    let rows := [Node.tableRow [.tableCell [.text "bcd"] none, .tableCell [.text "e"] none,
      .tableCell [] none] false, Node.tableRow [.tableCell [.text "表"] none] false]
    let out := "| a   | \x60x\\|y\x60 |   |\n|:---:|-------:|---|\n" ++
      "| bcd |      e |   |\n| 表  |        |   |\n"
    (({} : RendererSettings).render (.document [.table header rows])).1.toOption = some out ∧
    ∃ headerTexts bodyTexts t, node {} (.table header rows) {} = .ok () t ∧
      List.Forall₂ (PrintsRowCells {}) (header :: rows) (headerTexts :: bodyTexts) ∧
      ∀ cells, Grid.FillsColumns cells [some .center, some .right] headerTexts bodyTexts := by
  intro header rows out
  have shaped : (Node.table header rows).wellShaped false false = true := by decide
  have held : (Node.table header rows).HoldsTexts := .of_every (by decide)
  have printed :
      (({} : RendererSettings).render (.document [.table header rows])).1.toOption = some out := by
    decide +kernel
  obtain ⟨headerTexts, bodyTexts, u, v, t, -, -, shown, -, run, -, fills⟩ :=
    table_fills_columns {} (s := {}) rfl shaped held
  exact ⟨printed, headerTexts, bodyTexts, t, run, shown, fills⟩

end MarkdownCanon

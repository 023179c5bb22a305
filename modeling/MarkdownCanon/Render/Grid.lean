import MarkdownCanon.Document.Node
import MarkdownCanon.Text.Cells

/-! Tables in two passes: the columns are measured first, and every line is filled up to them. -/

namespace MarkdownCanon

/-- Widths and alignments of the columns of the table being printed. -/
structure Grid where
  widths : List Nat := []
  alignments : List (Option Alignment) := []
  active : Bool := false
  deriving DecidableEq, Repr, Inhabited

namespace Grid

/-- Makes a column at least `width` wide; columns that were not there yet are one wide. -/
def widen (width : Nat) : Nat → List Nat → List Nat
  | 0, [] => [max 1 width]
  | 0, w :: rest => max w width :: rest
  | column + 1, [] => 1 :: widen width column []
  | column + 1, w :: rest => w :: widen width column rest

def measure (grid : Grid) (column width : Nat) : Grid :=
  { grid with widths := widen width column grid.widths }

/-- Measures a column that may be counted from the last one, which is `-1`. -/
def measureAt (grid : Grid) (column : Int) (width : Nat) : Except String Grid :=
  match column with
  | .ofNat column => .ok (grid.measure column width)
  | .negSucc back =>
    if back < grid.widths.length then .ok (grid.measure (grid.widths.length - (back + 1)) width)
    else .error "list index out of range"

/-- Takes in a row of texts, the first of which stands in `column`. -/
def measureFrom (grid : Grid) (column : Nat) : List (List Char) → Grid
  | [] => grid
  | text :: rest => (grid.measure column (Text.cells text)).measureFrom (column + 1) rest

def measureRow (grid : Grid) (texts : List (List Char)) : Grid := grid.measureFrom 0 texts

/-- Takes in the alignments of the header's cells; columns beyond them have none. -/
def align (grid : Grid) (alignments : List (Option Alignment)) : Grid :=
  let known := grid.alignments ++ alignments
  { grid with alignments := known ++ List.replicate (grid.widths.length - known.length) none }

/-- A text filled with spaces to the width of its column, on the side its alignment leaves free. -/
def pad (text : List Char) (width : Nat) (alignment : Option Alignment) : List Char :=
  let space := width - Text.cells text
  match alignment with
  | some .right => List.replicate space ' ' ++ text
  | some .center =>
    List.replicate (space / 2) ' ' ++ text ++ List.replicate (space - space / 2) ' '
  | _ => text ++ List.replicate space ' '

/-- The part of a column in the line below the header. -/
def delimiter (width : Nat) (alignment : Option Alignment) : List Char :=
  let left := match alignment with
    | some .left | some .center => ':'
    | _ => '-'
  let right := match alignment with
    | some .right | some .center => ':'
    | _ => '-'
  left :: List.replicate width '-' ++ [right]

/-- The cells of a line from a column on; texts that a short row lacks are empty. -/
def cellsLine : List Nat → List (Option Alignment) → List (List Char) → List Char
  | [], _, _ => ['|']
  | width :: widths, alignments, texts =>
    '|' :: ' ' :: pad (texts.headD []) width (alignments.headD none) ++
      ' ' :: cellsLine widths alignments.tail texts.tail

/-- The header's line; its cells are not aligned. -/
def headerLine (grid : Grid) (texts : List (List Char)) : List Char :=
  cellsLine grid.widths [] texts

def bodyLine (grid : Grid) (texts : List (List Char)) : List Char :=
  cellsLine grid.widths grid.alignments texts

def delimiterLine (grid : Grid) : List Char :=
  '|' :: (List.zipWith delimiter grid.widths grid.alignments).flatMap (· ++ ['|'])

end Grid

end MarkdownCanon

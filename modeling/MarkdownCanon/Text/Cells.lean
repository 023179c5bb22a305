import MarkdownCanon.Text.CellWidth

/-! The width of a text in terminal cells, which the columns of a table and the line under a heading
are measured in. -/

namespace MarkdownCanon.Text

/-- Joins the characters on both sides of it into one picture. -/
def zeroWidthJoiner : Char := '\u200d'

/-- Asks for the emoji form of the character before it. -/
def emojiSelector : Char := '\ufe0f'

/-- Cells of a text with joined or selected emoji. A joiner hides itself and the character after
it (`hidden`). A selector adds a cell when `measured`, the last character that took any, widens
as emoji; that character is then spent. -/
def joinedCells (hidden : Bool) (measured : Option Char) : List Char → Nat
  | [] => 0
  | c :: rest =>
    if hidden then joinedCells false measured rest
    else if c == zeroWidthJoiner then joinedCells true measured rest
    else if c == emojiSelector then
      (if measured.any widensAsEmoji then 1 else 0) + joinedCells false none rest
    else if cellWidth c == 0 then joinedCells false measured rest
    else cellWidth c + joinedCells false (some c) rest

/-- Cells of a text whose characters each stand for themselves. -/
def plainCells : List Char → Nat
  | [] => 0
  | c :: rest => cellWidth c + plainCells rest

/-- Terminal cells taken by a text. -/
def cells (cs : List Char) : Nat :=
  if cs.contains zeroWidthJoiner || cs.contains emojiSelector then joinedCells false none cs
  else plainCells cs

end MarkdownCanon.Text

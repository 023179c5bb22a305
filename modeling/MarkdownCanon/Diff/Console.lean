import MarkdownCanon.Text.Cells
import MarkdownCanon.Text.Lines

/-! Lines of a diff as a terminal shows them. The style of a line is told from its first characters.
-/

namespace MarkdownCanon.Diff

inductive Style where
  | bold
  | cyan
  | green
  | red
  deriving DecidableEq, Repr, Inhabited

inductive ColorMode where
  | auto
  | always
  | never
  deriving DecidableEq, Repr, Inhabited

namespace ColorMode

def all : List (String × ColorMode) := [("auto", .auto), ("always", .always), ("never", .never)]

end ColorMode

namespace Style

/-- The style of a diff line, going by the characters that it starts with. -/
def ofLine (line : String) : Option Style :=
  match line.toList with
  | '-' :: '-' :: '-' :: _ | '+' :: '+' :: '+' :: _ => some bold
  | '@' :: '@' :: _ => some cyan
  | '+' :: _ => some green
  | '-' :: _ => some red
  | _ => none

def word : Style → String
  | bold => "bold"
  | cyan => "cyan"
  | green => "green"
  | red => "red"

/-- The number that switches a terminal to the style. -/
def code : Style → String
  | bold => "1"
  | cyan => "36"
  | green => "32"
  | red => "31"

/-- A piece of text in the style, which is switched off behind it. -/
def paint (style : Style) (piece : List Char) : List Char :=
  if piece.isEmpty then []
  else "\x1b[".toList ++ style.code.toList ++ 'm' :: piece ++ "\x1b[0m".toList

end Style

/-- Bell, backspace, and the moves to another line that are no line ends of a diff. -/
def isDropped (c : Char) : Bool :=
  let n := c.toNat
  n == 0x07 || n == 0x08 || n == 0x0B || n == 0x0C || n == 0x0D

/-- The text of a line without the characters that would move the cursor. -/
def visible (line : String) : String := String.ofList (line.toList.filter (!isDropped ·))

def tabWidth : Nat := 8

/-- The pieces of a line between tabs, each but the last filled with spaces up to the next column
that is a multiple of the tab width. A tab is one space at least. -/
def expandTabs (column : Nat) : List (List Char) → List (List Char)
  | [] => []
  | [last] => [last]
  | piece :: rest =>
    let piece := piece ++ [' ']
    let column := column + Text.cells piece
    let fill := (tabWidth - column % tabWidth) % tabWidth
    (piece ++ List.replicate fill ' ') :: expandTabs (column + fill) rest

/-- One line on the console. A text with line feeds in it takes several. -/
def printLine (mode : ColorMode) (style : Option Style) (line : String) : String :=
  let paint : List Char → List Char :=
    match mode, style with
    | .always, some style => style.paint
    | _, _ => id
  let rows := Text.segments (visible line).toList
  String.ofList (rows.flatMap fun row =>
    (expandTabs 0 (Text.splitAt (· == '\t') row)).flatMap paint ++ ['\n'])

/-- Lines on the console, with colours if the mode asks for them. -/
def print (mode : ColorMode) (lines : List String) : String :=
  String.join (lines.map fun line => printLine mode (Style.ofLine line) line)

end MarkdownCanon.Diff

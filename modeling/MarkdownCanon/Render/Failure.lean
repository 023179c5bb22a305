import MarkdownCanon.Document.Absence
import MarkdownCanon.Problem
import MarkdownCanon.Render.Writer

namespace MarkdownCanon

/-- What is wrong with the shape of a tree that cannot be printed. -/
inductive ShapeError where
  | notDocument (kind : String)
  | unknownKind (kind : String)
  | notListItem (kind : String)
  | itemOutsideList
  | noHeader
  | notRow (kind : String)
  | notCell (kind : String)
  | nestedTable
  | rowOutsideTable
  | cellOutsideTable
  deriving DecidableEq, Repr

namespace ShapeError

def message : ShapeError → String
  | notDocument kind => "Expected a Document, got " ++ kind
  | unknownKind kind => "Unknown node kind: " ++ kind
  | notListItem kind => "Unexpected " ++ kind ++ " inside a list; expected ListItem"
  | itemOutsideList => "ListItem encountered outside of a list"
  | noHeader => "Table has no header row"
  | notRow kind => "Unexpected " ++ kind ++ " inside a table; expected TableRow"
  | notCell kind => "Unexpected " ++ kind ++ " inside a table row; expected TableCell"
  | nestedTable => "Nested tables are not supported"
  | rowOutsideTable => "TableRow encountered outside of a table"
  | cellOutsideTable => "TableCell encountered outside of a table"

/-- The part of printing that met the error. -/
def stage : ShapeError → String
  | notDocument _ | unknownKind _ => "dispatch"
  | notListItem _ | itemOutsideList => "list"
  | _ => "table"

def problem (e : ShapeError) : Problem := .rendering e.message (some e.stage) none

end ShapeError

/-- Why printing stopped: the shape of the tree, a text that is not there, or a writer that was not
kept in balance. -/
inductive RenderFailure where
  | shape (e : ShapeError)
  | absent (asked : Absence)
  | writer (e : WriterError)
  deriving DecidableEq, Repr

end MarkdownCanon

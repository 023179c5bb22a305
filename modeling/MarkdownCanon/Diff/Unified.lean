import MarkdownCanon.Diff.Hunk
import MarkdownCanon.Text.Lines

/-! The unified format. Each line has its role beside its text. -/

namespace MarkdownCanon.Diff

/-- A stretch of lines in a hunk's header: the lines before it, and how many it has. -/
structure Range where
  start : Int
  length : Int
  deriving DecidableEq, Repr, Inhabited

/-- The number of the first line and the number of lines, which is left out if it is one. An empty
range is named by the line before it. -/
def Range.text (range : Range) : String :=
  if range.length == 1 then toString (range.start + 1)
  else if range.length == 0 then toString range.start ++ ",0"
  else toString (range.start + 1) ++ "," ++ toString range.length

/-- A line of a unified diff by what it is there for. -/
inductive Line where
  | oldFile (label : String)
  | newFile (label : String)
  | hunk (old new : Range)
  | kept (line : String)
  | removed (line : String)
  | added (line : String)
  deriving DecidableEq, Repr, Inhabited

namespace Line

def text : Line → String
  | oldFile label => "--- " ++ label
  | newFile label => "+++ " ++ label
  | hunk old new => "@@ -" ++ old.text ++ " +" ++ new.text ++ " @@"
  | kept line => " " ++ line
  | removed line => "-" ++ line
  | added line => "+" ++ line

end Line

def Segment.lines : Segment String → List Line
  | .same lines => lines.map .kept
  | .changed old new => old.map .removed ++ new.map .added

def Hunk.header (hunk : Hunk String) : Line :=
  .hunk ⟨hunk.oldStart, hunk.oldLines.length⟩ ⟨hunk.newStart, hunk.newLines.length⟩

def Hunk.lines (hunk : Hunk String) : List Line :=
  hunk.header :: hunk.segments.flatMap Segment.lines

/-- The labels of the two sides; slashes at the start of a path do not show. -/
def labels (path : String) : String × String :=
  let path := String.ofList (path.toList.dropWhile (· == '/'))
  ("a/" ++ path, "b/" ++ path)

def linesOf (text : String) : List String := (Text.lines text.toList).map String.ofList

def defaultContext : Nat := 3

/-- The changes from one text to another, line by line. Texts with the same lines have none. -/
def unified (old new path : String) (context : Nat) : List Line :=
  match Hunk.ofSegments context (Segment.compare (linesOf old) (linesOf new)) with
  | [] => []
  | hunks =>
    let (oldLabel, newLabel) := labels path
    .oldFile oldLabel :: .newFile newLabel :: hunks.flatMap Hunk.lines

end MarkdownCanon.Diff

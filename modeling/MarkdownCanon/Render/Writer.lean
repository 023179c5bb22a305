import MarkdownCanon.Render.Indentation
import MarkdownCanon.Text.Lines
import MarkdownCanon.Text.Literal

/-! A writer that puts the prefix of the surrounding blocks before each line. Staged text waits for
content, so that the delimiters of a span without any can be taken back. -/

namespace MarkdownCanon

/-- Output with the prefix of its blocks on every line. Text in `pending` is staged: it goes out
in front of the next content, or is taken back when there turns out to be none. -/
structure Writer where
  out : String := ""
  indentation : Indentation := {}
  pending : List Char := []
  atLineStart : Bool := true
  last : Option Char := none
  deriving DecidableEq, Repr, Inhabited

inductive WriterError where
  | emptyIndentation
  | notStaged (given : List Char)
  | notInMemory
  deriving DecidableEq, Repr

def WriterError.message : WriterError → String
  | .emptyIndentation => "pop from empty indentation stack"
  | .notStaged given =>
    Text.quoted (String.ofList given) ++ " is not the most recently staged prefix"
  | .notInMemory => "getvalue() is only available for in-memory writers"

namespace Writer

/-- The prefix due before a segment of a line: none in the middle of a line, and without its
trailing spaces before an empty segment. -/
def opening (w : Writer) (segment : List Char) : List Char :=
  if w.atLineStart then
    w.indentation.indent ++ (if segment.isEmpty then [] else w.indentation.whitespace)
  else []

def emit (w : Writer) (piece : List Char) : Writer :=
  { w with out := w.out ++ String.ofList piece, last := piece.getLast?.or w.last }

/-- Writes a segment that a newline ends. -/
def closeLine (w : Writer) (segment : List Char) : Writer :=
  { w.emit (w.opening segment ++ w.pending ++ segment ++ ['\n']) with
    pending := [], atLineStart := true }

/-- Writes the segment after the last newline, if it holds anything. -/
def continueLine (w : Writer) (segment : List Char) : Writer :=
  if segment.isEmpty then w
  else
    { w.emit (w.opening segment ++ w.pending ++ segment) with
      pending := [], atLineStart := false }

def writeSegments (w : Writer) : List (List Char) → Writer
  | [] => w
  | [segment] => w.continueLine segment
  | segment :: next :: rest => (w.closeLine segment).writeSegments (next :: rest)

/-- Writes a text, with the prefix on each line that it starts. -/
def write (w : Writer) (text : List Char) : Writer := w.writeSegments (Text.segments text)

def pushIndent (w : Writer) (piece : List Char) : Writer :=
  { w with indentation := w.indentation.push piece }

def popIndent (w : Writer) : Except WriterError (List Char × Writer) :=
  match w.indentation.pop? with
  | some (piece, indentation) => .ok (piece, { w with indentation })
  | none => .error .emptyIndentation

def stage (w : Writer) (text : List Char) : Writer := { w with pending := w.pending ++ text }

/-- Takes back text that was staged last and never went out. -/
def discard (w : Writer) (text : List Char) : Except WriterError Writer :=
  if text.isSuffixOf w.pending then
    .ok { w with pending := w.pending.take (w.pending.length - text.length) }
  else .error (.notStaged text)

/-- Whether everything staged has gone out. -/
def committed (w : Writer) : Bool := w.pending.isEmpty

end Writer

end MarkdownCanon

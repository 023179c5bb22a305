import MarkdownCanon.Document.Node
import MarkdownCanon.Journal
import MarkdownCanon.Render.Grid
import MarkdownCanon.Render.ListLevel
import MarkdownCanon.Render.Writer

namespace MarkdownCanon

/-- Everything that printing one document keeps track of. `listLevels` has the innermost list
first; `normalTail` is the plain text since the last special character; `atLineStart` tells
whether the next text lands where block markers are read; `nextInline` is the node after the one
being printed. -/
structure RenderState where
  writer : Writer := {}
  listLevels : List ListLevel := []
  normalTail : List Char := []
  atLineStart : Bool := false
  inTableCell : Bool := false
  inHeading : Bool := false
  grid : Grid := {}
  nextInline : Option Node := none
  journal : Journal := {}
  deriving Inhabited

/-- How text printed aside is to be read; a flag that is not given stays as it is. -/
structure ScratchFlags where
  atLineStart : Bool := false
  inTableCell : Option Bool := none
  inHeading : Option Bool := none
  deriving DecidableEq, Repr, Inhabited

namespace RenderState

def inList (s : RenderState) : Bool := !s.listLevels.isEmpty

/-- Turns to a fresh writer. -/
def enter (s : RenderState) (flags : ScratchFlags) : RenderState :=
  { s with
    writer := {}
    normalTail := []
    atLineStart := flags.atLineStart
    inTableCell := flags.inTableCell.getD s.inTableCell
    inHeading := flags.inHeading.getD s.inHeading }

/-- Turns back to the writer and the flags of the state `before` entering. -/
def leave (s : RenderState) (flags : ScratchFlags) (before : RenderState) : RenderState :=
  { s with
    writer := before.writer
    normalTail := before.normalTail
    atLineStart := before.atLineStart
    inTableCell := if flags.inTableCell.isSome then before.inTableCell else s.inTableCell
    inHeading := if flags.inHeading.isSome then before.inHeading else s.inHeading }

end RenderState

end MarkdownCanon

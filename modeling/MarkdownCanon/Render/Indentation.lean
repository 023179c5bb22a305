import MarkdownCanon.Text.Blank

/-! The prefix of a line as a stack of pieces. Its spaces at the end are kept apart, as an empty
line has none. -/

namespace MarkdownCanon

/-- The prefixes of the blocks that a line lies in, outermost first. -/
structure Indentation where
  levels : List (List Char) := []
  deriving DecidableEq, Repr, Inhabited

namespace Indentation

def full (i : Indentation) : List Char := i.levels.flatten

/-- What every line starts with, blank ones too. -/
def indent (i : Indentation) : List Char := Text.trimEnd Text.isSpace i.full

/-- The spaces at the end of the prefix, which only a line with content has. -/
def whitespace (i : Indentation) : List Char := i.full.drop i.indent.length

def push (i : Indentation) (piece : List Char) : Indentation := ⟨i.levels ++ [piece]⟩

def pop? (i : Indentation) : Option (List Char × Indentation) :=
  i.levels.getLast?.map (·, ⟨i.levels.dropLast⟩)

end Indentation

end MarkdownCanon

import MarkdownCanon.Text.Alphanumeric

/-! Backslashes before the characters of a text that Markdown would read as markup. Whether a
character is one depends on its place in the line and on the plain text just before it, which is
carried from one piece of text to the next. -/

namespace MarkdownCanon.Markup

/-- Escaped wherever they stand in literal text. -/
def alwaysEscaped : List Char := "\\\x60*[]<\x7b\x7d~".toList

/-- Escaped where a line starts: there they would open a list, a quote or an underline. -/
def lineStartEscaped : List Char := "+-=>".toList

/-- Escaped when they are a span's only character. -/
def aloneEscaped : List Char := "\\\x60*_\x7b\x7d[]()#+-<>".toList

/-- Characters that end a run of plain text. -/
def special : List Char := "\\\x60*_\x7b\x7d[]()#+-<>.!|~=".toList

/-- Decimal digits only, and at least one. -/
def isNumeral (cs : List Char) : Bool := !cs.isEmpty && cs.all Char.isDigit

/-- Where a span of literal text lands. -/
structure Place where
  atLineStart : Bool := false
  inTable : Bool := false
  deriving DecidableEq, Repr

/-- Whether the character `c` of a span would be read as markup. `seen` holds the characters of
the span before it and `tail` the plain text since the last special character, which may reach
back into earlier spans; both have the nearest character first. -/
def mustEscape (place : Place) (seen tail : List Char) (c : Char) (rest : List Char) : Bool :=
  if alwaysEscaped.contains c then true
  else if c == '_' then !(seen.head?.any Text.isAlphanumeric && rest.head?.any Text.isAlphanumeric)
  else if c == '#' then (seen.isEmpty && place.atLineStart) || rest.isEmpty
  else if lineStartEscaped.contains c then seen.isEmpty && place.atLineStart
  else if c == '.' then isNumeral tail
  else if c == ')' then place.atLineStart && isNumeral seen
  else if c == '|' then place.inTable
  else false

/-- Plain text since the last special character, once `c` has been written. -/
def extendTail (tail : List Char) (c : Char) : List Char :=
  if special.contains c then [] else c :: tail

def escapeFrom (place : Place) (seen tail : List Char) : List Char → List Char × List Char
  | [] => ([], tail)
  | c :: rest =>
    let after := escapeFrom place (c :: seen) (extendTail tail c) rest
    ((if mustEscape place seen tail c rest then ['\\', c] else [c]) ++ after.1, after.2)

/-- Literal text with a backslash before each character that would be read as markup, and the
plain text since the last special character. `tail` is that plain text before the span. -/
def escape (place : Place) (tail text : List Char) : List Char × List Char :=
  match text with
  | [c] =>
    if aloneEscaped.contains c then (['\\', c], [])
    else
      let after := escapeFrom place [] tail.reverse [c]
      (after.1, after.2.reverse)
  | cs =>
    let after := escapeFrom place [] tail.reverse cs
    (after.1, after.2.reverse)

end MarkdownCanon.Markup

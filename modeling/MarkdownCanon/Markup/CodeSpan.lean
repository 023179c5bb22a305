import MarkdownCanon.Text.Blank
import MarkdownCanon.Text.Run

/-! Code spans: a fence of backticks that the code inside cannot close. -/

namespace MarkdownCanon.Markup

/-- What stands between the delimiters of a code span, and the delimiter run. -/
structure CodeSpan where
  content : List Char
  fence : List Char
  deriving DecidableEq, Repr

def CodeSpan.text (span : CodeSpan) : List Char := span.fence ++ span.content ++ span.fence

/-- Line ends become spaces; the run is one longer than any inside; a space is put on each side
where the content meets a delimiter or would lose a space of its own to the reader. A delimiter is
one character; of any other text no run is looked for. -/
def codeSpan (delimiter : List Char) (code : List Char) : CodeSpan :=
  let line := code.map fun c => if c == '\n' then ' ' else c
  let meets := delimiter.isPrefixOf line || delimiter.isSuffixOf line
  let loses :=
    !(Text.trim Text.isSpace line).isEmpty && line.head? == some ' ' && line.getLast? == some ' '
  { content := if meets || loses then ' ' :: line ++ [' '] else line
    fence := (List.replicate (Text.longestRun ([·] == delimiter) line + 1) delimiter).flatten }

/-- Escapes the pipes of a table cell's code, unless a backslash stands before them already. -/
def guardPipes (afterBackslash : Bool) : List Char → List Char
  | [] => []
  | c :: rest =>
    if c == '|' && !afterBackslash then '\\' :: '|' :: guardPipes false rest
    else c :: guardPipes (c == '\\') rest

end MarkdownCanon.Markup

import MarkdownCanon.Reading.Input
import MarkdownCanon.Settings.Reader
import MarkdownCanon.Token.Block

/-! Documents from what they are read from, by way of a parser that is not part of the library. -/

namespace MarkdownCanon

/-- What a parser makes of a text. One that has been set up to render gives no tokens. -/
inductive ParserReply where
  | tokens (tokens : List Token)
  | tooDeep
  | rendered
  deriving Inhabited

/-- The grammar of Markdown with some extensions, which is left to others. -/
abbrev Parser := List Extension → String → ParserReply

/-- Reads a document. -/
def ReaderSettings.read (settings : ReaderSettings) (parser : Parser) (disk : Disk)
    (input : Input) : Reading Node := do
  let text ← input.load disk
  match parser settings.extensions text with
  | .tooDeep => throw .tooDeep
  | .rendered => throw .notTokens
  | .tokens tokens =>
    let blocks ← Token.readBlocks false false tokens
    modify (· ++ Journal.note Log.debug .reading
      ("Parsed " ++ toString blocks.length ++ " top-level blocks"))
    return .document blocks

end MarkdownCanon

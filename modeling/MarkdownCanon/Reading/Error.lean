import MarkdownCanon.Document.Build
import MarkdownCanon.Files.OsError
import MarkdownCanon.Journal
import MarkdownCanon.Problem
import MarkdownCanon.Text.Utf8

namespace MarkdownCanon

/-- Why a text cannot be read. -/
inductive ReadingError where
  | unreadable (path : String) (e : OsError)
  | undecodable (source : String) (e : Text.Utf8.DecodeError)
  | tooDeep
  | notTokens
  | unsupportedBlock (tag : Value)
  | unexpectedInList (tag : Value)
  | invalidNode (e : NodeError)
  | absent (asked : Absence)
  /-- A tag that cannot be looked up among the known ones. -/
  | unusableTag (kind : String)
  deriving Repr

namespace ReadingError

def message : ReadingError → String
  | unreadable _ e => e.message
  | undecodable source e =>
    source ++ " is not valid UTF-8: " ++ e.fault.message ++ " at byte " ++ toString e.start
  | tooDeep => "Document is nested too deeply"
  | notTokens => "mistune returned rendered output instead of tokens"
  | unsupportedBlock tag => "Unsupported block token: " ++ tag.literal
  | unexpectedInList tag => "Unexpected " ++ tag.literal ++ " token inside a list"
  | invalidNode e => e.message
  | absent asked => asked.message
  | unusableTag kind => "unhashable type: '" ++ kind ++ "'"

/-- The report on a text that cannot be read. Tokens that lack something a node is built of have
none. -/
def problem? : ReadingError → Option Problem
  | invalidNode _ | absent _ | unusableTag _ => none
  | unreadable path e => some (.fileAccess path (some e.message) (some (e.report path)))
  | e@(undecodable ..) => some (.parsing e.message (some "decoding") none)
  | e => some (.parsing e.message (some "block") none)

end ReadingError

/-- A step of reading. The journal is there after a failure too. -/
abbrev Reading := EStateM ReadingError Journal

end MarkdownCanon

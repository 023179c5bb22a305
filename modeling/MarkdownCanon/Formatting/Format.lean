import MarkdownCanon.Formatting.Failure
import MarkdownCanon.Reading.Document
import MarkdownCanon.Render.Document
import MarkdownCanon.Settings.Field

/-! Formatting: a document is read and printed again. -/

namespace MarkdownCanon

/-- The options of one call: settings, if any are given, and named options that override them.
`defaults` stand in for settings that are not given. -/
structure RendererRequest where
  defaults : RendererSettings := {}
  base : Option RendererSettings := none
  overrides : Overrides := []

def RendererRequest.settings (request : RendererRequest) : Formatting RendererSettings :=
  .ofOptions (RendererSettings.resolve request.defaults request.base request.overrides)

/-- All that formatting is done with. -/
structure Formatter where
  parser : Parser
  reader : ReaderSettings := {}
  request : RendererRequest := {}
  disk : Disk := {}

namespace Formatter

/-- The canonical form of a document. Options are looked at before the document is. -/
def format (formatter : Formatter) (input : Input) : Formatting String := do
  let settings ← formatter.request.settings
  let document ← .ofReading (formatter.reader.read formatter.parser formatter.disk input)
  .ofRender (settings.render document)

def formatText (formatter : Formatter) (text : String) : Formatting String :=
  formatter.format (.text text)

def encoded (text : String) : List UInt8 := Text.Utf8.encode text.toList

def formatBytes (formatter : Formatter) (bytes : List UInt8) : Formatting (List UInt8) :=
  encoded <$> formatter.format (.bytes bytes)

/-- The canonical form of a file, or of bytes that are given in its place. -/
def formatFile (formatter : Formatter) (name : String) (bytes : Option (List UInt8)) :
    Formatting (List UInt8) := do
  match bytes with
  | some bytes => formatter.formatBytes bytes
  | none =>
    modify (· ++ Journal.note Log.debug .library ("Reading " ++ name))
    encoded <$> formatter.format (.file (.ofText name))

end Formatter

end MarkdownCanon

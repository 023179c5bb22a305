import MarkdownCanon.Formatting.Format

/-! Where a printed document goes. -/

namespace MarkdownCanon

/-- Where a printed document goes. The mode of a stream says in which way it was opened; one with
a letter b asks for bytes. -/
inductive Target where
  | caller
  | file (path : Path)
  | textStream (mode : Option String)
  | byteStream (mode : Option String)
  deriving DecidableEq, Repr, Inhabited

/-- What became of a printed document. -/
inductive Delivered where
  | returned (text : String)
  | stored (disk : Disk)
  | text (text : String)
  | bytes (bytes : List UInt8)
  deriving Inhabited

def asksForBytes (mode : Option String) : Bool := mode.any fun mode => mode.toList.contains 'b'

/-- Hands a text over. A stream of bytes gets it encoded whatever its mode. -/
def Target.deliver (disk : Disk) (text : String) : Target → Formatting Delivered
  | caller => return .returned text
  | file path =>
    match disk.write path (Formatter.encoded text) with
    | .error e => throw (.notWritten path.text e)
    | .ok disk => do
      modify (· ++ Journal.note Log.debug .delivery
        ("Wrote " ++ toString text.length ++ " characters to " ++ path.text))
      return .stored disk
  | textStream mode => if asksForBytes mode then throw .bytesToTextStream else return .text text
  | byteStream _ => return .bytes (Formatter.encoded text)

/-- Prints a document and hands it over; nothing is written of one that cannot be printed. -/
def RendererRequest.print (request : RendererRequest) (disk : Disk) (target : Target)
    (document : Node) : Formatting Delivered := do
  let settings ← request.settings
  let text ← .ofRender (settings.render document)
  target.deliver disk text

end MarkdownCanon

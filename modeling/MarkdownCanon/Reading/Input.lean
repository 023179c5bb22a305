import MarkdownCanon.Files.Disk
import MarkdownCanon.Reading.Error

namespace MarkdownCanon

/-- What a document is read from. A stream of bytes may have a name. -/
inductive Input where
  | text (text : String)
  | bytes (bytes : List UInt8)
  | file (path : Path)
  | textStream (text : String)
  | byteStream (name : Option String) (bytes : List UInt8)
  deriving DecidableEq, Repr, Inhabited

namespace Input

/-- The text of some bytes; `source` says in messages where they come from. -/
def decode (source : String) (bytes : List UInt8) : Reading String :=
  match Text.Utf8.decode bytes with
  | .ok cs => return String.ofList cs
  | .error e => throw (.undecodable source e)

def load (disk : Disk) : Input → Reading String
  | .text given | .textStream given => return given
  | .bytes given => decode "input" given
  | .byteStream name given => decode (name.getD "stream") given
  | .file path =>
    match disk.read path with
    | .error e => throw (.unreadable path.text e)
    | .ok contents => do
      modify (· ++ Journal.note Log.debug .loading
        ("Read " ++ toString contents.length ++ " bytes from " ++ path.text))
      decode path.text contents

end Input

end MarkdownCanon

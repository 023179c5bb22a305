import MarkdownCanon.Log.Record

namespace MarkdownCanon

/-- What an operation leaves behind besides its result: log records, and the texts handed to the
external Go formatter, both oldest first. -/
structure Journal where
  records : List Log.Record := []
  gofmtInputs : List String := []
  deriving DecidableEq, Repr, Inhabited

namespace Journal

def append (older newer : Journal) : Journal :=
  { records := older.records ++ newer.records
    gofmtInputs := older.gofmtInputs ++ newer.gofmtInputs }

instance : Append Journal := ⟨append⟩

def note (level : Int) (source : Log.Source) (message : String) : Journal :=
  { records := [⟨level, source, message⟩] }

end Journal

end MarkdownCanon

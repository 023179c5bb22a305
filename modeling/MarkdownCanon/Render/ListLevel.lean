import MarkdownCanon.Document.Node
import MarkdownCanon.FieldNames

namespace MarkdownCanon

/-- One level of list nesting: how its items are marked and how many have been. -/
structure ListLevel where
  ordered : Bool
  start : Int := 1
  index : Int := 0
  tight : Bool := true
  bullet : String := "-"
  deriving DecidableEq, Repr, Inhabited

namespace ListLevel

def fields : FieldNames :=
  { title := "ListLevel", required := ["ordered"]
    optional := ["start", "index", "tight", "bullet"] }

def ofStyle (style : ListStyle) : ListLevel :=
  { ordered := style.marker.ordered, start := style.start, tight := style.tight
    bullet := style.marker.bullet }

/-- The marker of the next item, with the space behind it. -/
def marker (level : ListLevel) : List Char :=
  let number := if level.ordered then toString (level.start + level.index) else ""
  (number ++ level.bullet ++ " ").toList

def advance (level : ListLevel) : ListLevel := { level with index := level.index + 1 }

end ListLevel

end MarkdownCanon

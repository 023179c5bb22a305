import MarkdownCanon.Text.Blank
import MarkdownCanon.Text.Case
import MarkdownCanon.Text.Lines

namespace MarkdownCanon

/-- A path as a list of names. `anchor` holds the slashes that an absolute path starts with. -/
structure Path where
  anchor : String := ""
  names : List String := []
  deriving DecidableEq, Repr, Inhabited

namespace Path

def isSlash (c : Char) : Bool := c == '/'

/-- Two slashes at the start are kept, since they may mean another root; three are one. -/
def anchorOf (cs : List Char) : String :=
  match (cs.takeWhile isSlash).length with
  | 0 => ""
  | 2 => "//"
  | _ => "/"

/-- The names in a text, with those left out that stay where they are. -/
def namesOf (cs : List Char) : List String :=
  ((Text.splitAt isSlash cs).map String.ofList).filter fun name => name != "" && name != "."

def ofText (text : String) : Path := ⟨anchorOf text.toList, namesOf text.toList⟩

/-- A path as labels show it; the empty one is a full stop. -/
def text (path : Path) : String :=
  if path.anchor.isEmpty && path.names.isEmpty then "."
  else path.anchor ++ String.intercalate "/" path.names

def child (path : Path) (name : String) : Path := { path with names := path.names ++ [name] }

def parent (path : Path) : Path := { path with names := path.names.dropLast }

def name (path : Path) : String := path.names.getLast?.getD ""

/-- The end of a name from its last full stop on, which must have something on both sides. -/
def suffixOf (name : String) : String :=
  let end_ := (name.toList.reverse.takeWhile (· != '.')).reverse
  let stem := name.toList.take (name.length - end_.length - 1)
  if end_.isEmpty || stem.isEmpty then "" else String.ofList ('.' :: end_)

def suffix (path : Path) : String := suffixOf path.name

/-- Takes a name, or a step up, without a look at any file. -/
def step (names : List String) (name : String) : List String :=
  if name == ".." then names.dropLast else names ++ [name]

/-- The path with its steps up carried out; above the root there is nothing. -/
def flat (path : Path) : Path := { path with names := path.names.foldl step [] }

def isAbsolute (path : Path) : Bool := !path.anchor.isEmpty

end Path

end MarkdownCanon

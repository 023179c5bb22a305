/-! Faults of asking for more than is there. -/

namespace MarkdownCanon

/-- What was asked of something that is not there. -/
inductive Absence where
  | items
  | length
  | member (name : String)
  | characters
  /-- To be put behind a text. -/
  | suffixed
  /-- To have something of that kind put behind it. -/
  | extended (kind : String)
  /-- To be one at least. -/
  | atLeast
  /-- To be less than zero. -/
  | below
  deriving DecidableEq, Repr, Inhabited

namespace Absence

def kindName : String := "NoneType"

def message : Absence → String
  | items => "'" ++ kindName ++ "' object is not iterable"
  | length => "object of type '" ++ kindName ++ "' has no len()"
  | member name => "'" ++ kindName ++ "' object has no attribute '" ++ name ++ "'"
  | characters => "expected string or bytes-like object, got '" ++ kindName ++ "'"
  | suffixed => "can only concatenate str (not \"" ++ kindName ++ "\") to str"
  | extended kind => "unsupported operand type(s) for +: '" ++ kindName ++ "' and '" ++ kind ++ "'"
  | atLeast => "'<=' not supported between instances of 'int' and '" ++ kindName ++ "'"
  | below => "'<' not supported between instances of '" ++ kindName ++ "' and 'int'"

end Absence

end MarkdownCanon

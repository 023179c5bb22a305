import MarkdownCanon.Address.Autolink
import MarkdownCanon.Document.Node
import MarkdownCanon.Reading.Error
import MarkdownCanon.Token.Basic

/-! Inline content from tokens. Neighbouring texts are joined first, so that it does not matter
where the parser has cut them. -/

namespace MarkdownCanon.Token

def isTabOrSpace (c : Char) : Bool := c == ' ' || c == '\t'

/-- The lines of a text, without the spaces and tabs around each line end. -/
def softLines (raw : List Char) : List (List Char) :=
  match Text.segments raw with
  | [] => []
  | [only] => [only]
  | first :: rest => Text.trimEnd isTabOrSpace first :: trimStarts rest
where
  trimStarts : List (List Char) → List (List Char)
    | [] => []
    | [last] => [last.dropWhile isTabOrSpace]
    | line :: rest => Text.trim isTabOrSpace line :: trimStarts rest

def lineNodes (line : List Char) : List Node :=
  if line.isEmpty then [] else [.text (String.ofList line)]

/-- Plain text, with a soft break at each line end. -/
def textNodes (raw : String) : List Node :=
  match softLines raw.toList with
  | [] => []
  | first :: rest => lineNodes first ++ rest.flatMap fun line => .lineBreak true :: lineNodes line

def note (entry : Journal) : Reading Unit := modify (· ++ entry)

/-- Takes out of a token what has to be there. -/
def require (asked : Absence) : Option α → Reading α
  | some a => return a
  | none => throw (.absent asked)

def requireAttributes (data : TokenData) : Reading Attributes :=
  require (.member "get") data.attributes

def requireChildren (data : TokenData) : Reading Unit :=
  if data.hasChildren then return else throw (.absent .items)

/-- Refuses children that cannot be read as inline tokens. -/
def requireInlines (data : TokenData) (children : List Token) : Reading Unit := do
  requireChildren data
  match joinFault? children with
  | some asked => throw (.absent asked)
  | none => return

/-- The label of a link that was written between angle brackets. -/
def autolinkLabel? (attributes : Attributes) (data : TokenData) (children : List Token) :
    Reading (Option String) := do
  if !(attributes.title.getD "").isEmpty then return none
  if !data.hasChildren then throw (.absent .length)
  match children with
  | [child] =>
    if child.isA "text" then
      let label ← require .characters child.raw
      let isAutolink := attributes.url.any fun url => Address.isAutolink url.toList label.toList
      return if isAutolink then some label else none
    else return none
  | _ => return none

/-- A token of no known type keeps its source. -/
def readUnknown (data : TokenData) : Reading (List Node) := do
  match data.tag with
  | some (.list _) => throw (.unusableTag "list")
  | some (.record _) => throw (.unusableTag "dict")
  | tag =>
    let source := data.raw.getD ""
    if source.isEmpty then return []
    note (Journal.note Log.debug .reading
      ("No handler for inline token " ++ (tag.getD (.text "")).literal ++
        ", keeping its raw text"))
    return [.text source]

mutual

/-- The nodes of inline tokens. `pending` is plain text just before them that may go on. -/
def readInlinesFrom (pending : String) : List Token → Reading (List Node)
  | [] => return textNodes pending
  | .mk data children :: rest => do
    if hasTag data "text" then
      let raw ← require .characters data.raw
      readInlinesFrom (pending ++ raw) rest
    else
      let nodes ← readInline (.mk data children)
      let more ← readInlinesFrom "" rest
      return textNodes pending ++ nodes ++ more

/-- The nodes of one token other than plain text. -/
def readInline : Token → Reading (List Node)
  | .mk data children => do
    if hasTag data "strong" then
      requireInlines data children
      return [.strong (← readInlinesFrom "" children)]
    else if hasTag data "emphasis" then
      requireInlines data children
      return [.emphasis (← readInlinesFrom "" children)]
    else if hasTag data "codespan" then
      return [.ofCode data.raw]
    else if hasTag data "link" then
      let attributes ← requireAttributes data
      match ← autolinkLabel? attributes data children with
      | some label => return [.autolink (attributes.url.getD "") label]
      | none =>
        requireInlines data children
        return [.link attributes.url (← readInlinesFrom "" children) attributes.title]
    else if hasTag data "image" then
      let attributes ← requireAttributes data
      requireInlines data children
      return [.image attributes.url (← readInlinesFrom "" children) attributes.title]
    else if hasTag data "linebreak" then return [.lineBreak false]
    else if hasTag data "softbreak" then return [.lineBreak true]
    else if hasTag data "strikethrough" then
      requireInlines data children
      return [.strikethrough (← readInlinesFrom "" children)]
    else if hasTag data "inline_html" then
      return [.ofHtmlInline data.raw]
    else readUnknown data

end

/-- The nodes of the children of a token, runs of plain text counting as one. -/
def readInlines (data : TokenData) (children : List Token) : Reading (List Node) := do
  requireInlines data children
  readInlinesFrom "" children

end MarkdownCanon.Token

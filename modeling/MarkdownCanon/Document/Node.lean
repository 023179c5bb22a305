import MarkdownCanon.Document.Absence
import MarkdownCanon.Text.Blank
import MarkdownCanon.Text.Literal

/-! Documents as trees. Any node can stand anywhere in a tree; whether a tree can be printed is for
printing to say. -/

namespace MarkdownCanon

abbrev HeadingLevel := { n : Nat // 1 ≤ n ∧ n ≤ 6 }

/-- The character that fences a code block. -/
inductive Fence where
  | backtick
  | tilde
  deriving DecidableEq, Repr, Inhabited

/-- A fenced or indented block of literal code; both are printed fenced. -/
structure CodeBlock where
  content : String
  info : Option String := none
  fence : Fence := .backtick
  fenced : Bool := true
  deriving DecidableEq, Repr, Inhabited

inductive ListMarker where
  | dash
  | star
  | plus
  /-- A number and a full stop. -/
  | dot
  /-- A number and a closing parenthesis. -/
  | paren
  deriving DecidableEq, Repr, Inhabited

/-- How a list is written: its marker, the number of its first item, whether its items stand
without blank lines between them, and whether the source had a blank line before it. -/
structure ListStyle where
  marker : ListMarker
  start : Nat := 1
  tight : Bool := true
  blankBefore : Bool := false
  deriving DecidableEq, Repr, Inhabited

/-- The state of a task. A name beyond the two counts as not checked. -/
inductive TaskStatus where
  | checked
  | unchecked
  | other (name : String)
  deriving DecidableEq, Repr, Inhabited

/-- Alignment of a table column. A name beyond the three aligns like no name at all. -/
inductive Alignment where
  | left
  | center
  | right
  | other (name : String)
  deriving DecidableEq, Repr, Inhabited

/-- A node that a parser gave no text for. -/
inductive Textless where
  | code
  | htmlInline
  | htmlBlock (blankBefore : Bool)
  | codeBlock (info : Option String) (fence : Fence) (fenced : Bool)
  deriving DecidableEq, Repr, Inhabited

/-- A document tree. Nothing but printing says which node may stand where: any node may be a
child of any other, `textless` nodes lack the text that their kind has, `foreign` ones are of a kind
that printing does not know, and `missing` stands where a node was left out. -/
inductive Node where
  | document (children : List Node)
  | heading (level : HeadingLevel) (content : List Node) (identifier : Option String)
  | paragraph (content : List Node)
  | codeBlock (block : CodeBlock)
  | blockQuote (children : List Node)
  | list (style : ListStyle) (items : List Node)
  | listItem (children : List Node) (task : Option TaskStatus) (blankBefore : Bool)
  | table (header : Option Node) (rows : List Node)
  | tableRow (cells : List Node) (isHeader : Bool)
  | tableCell (content : List Node) (alignment : Option Alignment)
  | thematicBreak
  | htmlBlock (content : String) (blankBefore : Bool)
  | text (content : String)
  | emphasis (content : List Node)
  | strong (content : List Node)
  | code (content : String)
  | link (url : Option String) (content : List Node) (title : Option String)
  | image (url : Option String) (content : List Node) (title : Option String)
  | autolink (url label : String)
  | lineBreak (soft : Bool)
  | strikethrough (content : List Node)
  | htmlInline (content : String)
  | textless (node : Textless)
  | foreign (kind : String)
  | missing
  deriving Inhabited

def Node.ofCode : Option String → Node
  | some content => .code content
  | none => .textless .code

def Node.ofHtmlInline : Option String → Node
  | some content => .htmlInline content
  | none => .textless .htmlInline

def Node.ofHtmlBlock (content : Option String) (blankBefore : Bool) : Node :=
  match content with
  | some content => .htmlBlock content blankBefore
  | none => .textless (.htmlBlock blankBefore)

def Node.ofCodeBlock (content info : Option String) (fence : Fence) (fenced : Bool) : Node :=
  match content with
  | some content => .codeBlock { content, info, fence, fenced }
  | none => .textless (.codeBlock info fence fenced)

def Alignment.name : Alignment → String
  | .left => "left"
  | .center => "center"
  | .right => "right"
  | .other name => name

def TaskStatus.name : TaskStatus → String
  | .checked => "checked"
  | .unchecked => "unchecked"
  | .other name => name

def Fence.char : Fence → Char
  | .backtick => '\x60'
  | .tilde => '~'

def ListMarker.ordered : ListMarker → Bool
  | .dot | .paren => true
  | .dash | .star | .plus => false

def ListMarker.bullet : ListMarker → String
  | .dash => "-"
  | .star => "*"
  | .plus => "+"
  | .dot => "."
  | .paren => ")"

/-- First word of the info string. -/
def CodeBlock.language (block : CodeBlock) : Option String :=
  (Text.firstWord? (block.info.getD "").toList).map String.ofList

def Textless.kind : Textless → String
  | .code => "Code"
  | .htmlInline => "HTMLInline"
  | .htmlBlock _ => "HTMLBlock"
  | .codeBlock .. => "CodeBlock"

namespace Node

/-- The kind of a node as messages name it. -/
def kind : Node → String
  | document .. => "Document"
  | heading .. => "Heading"
  | paragraph .. => "Paragraph"
  | codeBlock .. => "CodeBlock"
  | blockQuote .. => "BlockQuote"
  | list .. => "List"
  | listItem .. => "ListItem"
  | table .. => "Table"
  | tableRow .. => "TableRow"
  | tableCell .. => "TableCell"
  | thematicBreak => "ThematicBreak"
  | htmlBlock .. => "HTMLBlock"
  | text .. => "Text"
  | emphasis .. => "Emphasis"
  | strong .. => "Strong"
  | code .. => "Code"
  | link .. => "Link"
  | image .. => "Image"
  | autolink .. => "AutoLink"
  | lineBreak .. => "LineBreak"
  | strikethrough .. => "Strikethrough"
  | htmlInline .. => "HTMLInline"
  | textless node => node.kind
  | foreign kind => kind
  | missing => Absence.kindName

def children : Node → List Node
  | document cs | blockQuote cs | listItem cs _ _ => cs
  | heading _ cs _ | paragraph cs | emphasis cs | strong cs | strikethrough cs => cs
  | link _ cs _ | image _ cs _ | tableCell cs _ => cs
  | list _ items => items
  | table header rows => header.toList ++ rows
  | tableRow cells _ => cells
  | _ => []

def isLineBreak : Node → Bool
  | lineBreak _ => true
  | _ => false

def isLink : Node → Bool
  | link .. => true
  | _ => false

def isParagraph : Node → Bool
  | paragraph _ => true
  | _ => false

def isHeading : Node → Bool
  | heading .. => true
  | _ => false

mutual

/-- Equality of trees. A foreign node equals none, as nothing is known of what it holds. -/
def same : Node → Node → Bool
  | document xs, document ys => sameAll xs ys
  | heading l xs i, heading m ys j => l == m && sameAll xs ys && i == j
  | paragraph xs, paragraph ys => sameAll xs ys
  | codeBlock b, codeBlock c => b == c
  | blockQuote xs, blockQuote ys => sameAll xs ys
  | list s xs, list t ys => s == t && sameAll xs ys
  | listItem xs s b, listItem ys t c => sameAll xs ys && s == t && b == c
  | table h xs, table k ys => sameHeader h k && sameAll xs ys
  | tableRow xs h, tableRow ys k => sameAll xs ys && h == k
  | tableCell xs a, tableCell ys b => sameAll xs ys && a == b
  | thematicBreak, thematicBreak => true
  | htmlBlock s b, htmlBlock t c => s == t && b == c
  | text s, text t => s == t
  | emphasis xs, emphasis ys => sameAll xs ys
  | strong xs, strong ys => sameAll xs ys
  | code s, code t => s == t
  | link u xs s, link v ys t => u == v && sameAll xs ys && s == t
  | image u xs s, image v ys t => u == v && sameAll xs ys && s == t
  | autolink u s, autolink v t => u == v && s == t
  | lineBreak b, lineBreak c => b == c
  | strikethrough xs, strikethrough ys => sameAll xs ys
  | htmlInline s, htmlInline t => s == t
  | textless m, textless n => m == n
  | missing, missing => true
  | _, _ => false

def sameAll : List Node → List Node → Bool
  | [], [] => true
  | x :: xs, y :: ys => same x y && sameAll xs ys
  | _, _ => false

def sameHeader : Option Node → Option Node → Bool
  | none, none => true
  | some x, some y => same x y
  | _, _ => false

end

end Node

end MarkdownCanon
